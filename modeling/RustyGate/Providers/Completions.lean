/-
Answers in one piece: `chat_completion` of the mock provider (`src/providers/mock.rs`) and
of the two providers that are asked over the network.

A client sends the conversation back with the answer behind it, and with a tool message for
each of its tool calls.  The checks of the next request have one complaint that such a
client cannot avoid: an answer without text is an empty message.
-/
import RustyGate.Providers.ToolStreams
import RustyGate.Providers.OpenAiCompatible
import RustyGate.Text.Words

namespace RustyGate

/-- An answer over HTTP, with its body decoded, if it could be. -/
structure JsonResponse (α : Type) where
  status : Nat
  json : Option α

/-- The part of `chat_completion` that both providers have: the request is posted, and the
body of a successful answer is decoded. -/
def JsonResponse.decoded {α : Type} :
    Except TransportError (JsonResponse α) → Except ProviderError α
  | .error error => .error (mapTransportError error)
  | .ok response =>
      if 200 ≤ response.status ∧ response.status < 300 then
        match response.json with
        | none => .error .providerBadResponse
        | some parsed => .ok parsed
      else .error (mapHttpStatus response.status)

/-- The usage that is estimated from the words of the messages and of the answer. -/
def estimatedUsage (messages : List ChatMessage) (completionText : String) : TokenUsage where
  promptTokens := estimateTokensForMessages messages
  completionTokens := estimateTokensForText completionText
  totalTokens := estimateTokensForMessages messages + estimateTokensForText completionText

/-! ## The mock provider -/

structure MockProvider where
  name : String
  model : String
  failureRate : ℚ := 0
  deriving DecidableEq

/-- One byte of the seed, mixed into its slot. -/
def mixByte (bytes : List UInt8) (seedByte : UInt8 × Nat) : List UInt8 :=
  let slot := seedByte.2 % 16
  bytes.set slot (bytes.getD slot 0 * 31 + seedByte.1 + slot.toUInt8)

def deterministicUuid (seed : String) : Uuid :=
  let bytes := seed.toUTF8.toList.zipIdx.foldl mixByte (List.replicate 16 0)
  .ofNat 128 (bytes.foldl (fun n byte => n * 256 + byte.toNat) 0)

def responseIdSeed (provider toolName : String) : Uuid :=
  deterministicUuid (provider ++ "|tool|" ++ toolName)

namespace MockProvider

variable (provider : MockProvider) (request : ChatCompletionRequest)

/-- With tools on offer, the first of them is called, and it gets the last message. -/
def toolCalls : Option (List ToolCall) :=
  (request.tools.bind List.head?).map fun tool =>
    [{ id := openaiId "call" (responseIdSeed provider.name tool.function.name)
       kind := "function"
       function :=
         { name := tool.function.name
           arguments := (Json.object [("echo", .string
             ((request.messages.getLast?.map (·.content)).getD ""))]).toText } }]

def responseContent : String :=
  if (provider.toolCalls request).isSome then ""
  else "Deterministic mock response from " ++ provider.name ++ "."

def chatCompletion : Except ProviderError ChatCompletionResponse :=
  if 1 ≤ provider.failureRate then .error .providerUnavailable
  else
    let model := request.model.getD provider.model
    let usage := estimatedUsage request.messages (provider.responseContent request)
    .ok {
      id := openaiId "chatcmpl" (deterministicUuid (provider.name ++ "|" ++ model ++ "|" ++
        toString usage.promptTokens.toNat ++ "|" ++ toString usage.completionTokens.toNat))
      object := "chat.completion"
      created := 1700000000
      model := model
      provider := provider.name
      choices := [{
        index := 0
        message :=
          { role := .assistant
            content := provider.responseContent request
            toolCalls := provider.toolCalls request }
        finishReason := "stop" }]
      usage := usage }

end MockProvider

/-! ## Providers with the OpenAI protocol -/

structure OpenAiAssistantMessage where
  content : String
  toolCalls : Option (List ToolCall) := none
  deriving DecidableEq

structure OpenAiChoice where
  message : OpenAiAssistantMessage
  finishReason : Option String := none
  deriving DecidableEq

structure OpenAiChatResponse where
  model : String
  created : Option Int := none
  choices : List OpenAiChoice
  usage : Option TokenUsage := none
  deriving DecidableEq

/-- `chat_completion`, with the identifier that is drawn for the answer. -/
def OpenAiCompatibleProvider.chatCompletion (provider : OpenAiCompatibleProvider)
    (request : ChatCompletionRequest) (responseId : Uuid)
    (response : Except TransportError (JsonResponse OpenAiChatResponse)) :
    Except ProviderError ChatCompletionResponse :=
  match JsonResponse.decoded response with
  | .error error => .error error
  | .ok parsed =>
      match parsed.choices with
      | [] => .error .providerBadResponse
      | firstChoice :: _ =>
          .ok {
            id := openaiId "chatcmpl" responseId
            object := "chat.completion"
            created := parsed.created.getD 1700000000
            model := parsed.model
            provider := provider.name
            choices := [{
              index := 0
              message :=
                { role := .assistant
                  content := firstChoice.message.content
                  toolCalls := firstChoice.message.toolCalls }
              finishReason := firstChoice.finishReason.getD "stop" }]
            usage := parsed.usage.getD
              (estimatedUsage request.messages firstChoice.message.content) }

/-! ## Anthropic -/

structure AnthropicMessagesResponse where
  model : String
  content : List AnthropicContentBlock
  usage : Option AnthropicUsage := none
  stopReason : Option String := none

def TokenUsage.fromAnthropic (value : AnthropicUsage) : TokenUsage where
  promptTokens := value.inputTokens
  completionTokens := value.outputTokens
  totalTokens := value.inputTokens + value.outputTokens

/-- `chat_completion`, with the identifier that is drawn for the answer. -/
def AnthropicProvider.chatCompletion (provider : AnthropicProvider)
    (request : ChatCompletionRequest) (responseId : Uuid)
    (response : Except TransportError (JsonResponse AnthropicMessagesResponse)) :
    Except ProviderError ChatCompletionResponse :=
  match JsonResponse.decoded response with
  | .error error => .error error
  | .ok parsed =>
      let (completionText, toolCalls) := anthropicContentToOpenaiMessage parsed.content
      if completionText = "" ∧ toolCalls = none then .error .providerBadResponse
      else
        .ok {
          id := openaiId "chatcmpl" responseId
          object := "chat.completion"
          created := 1700000000
          model := parsed.model
          provider := provider.name
          choices := [{
            index := 0
            message := { role := .assistant, content := completionText, toolCalls := toolCalls }
            finishReason := parsed.stopReason.getD "stop" }]
          usage := (parsed.usage.map .fromAnthropic).getD
            (estimatedUsage request.messages completionText) }

/-- The answers that a request can get, with the texts that the provider has for them.  The
mock provider has none if it is offered a tool. -/
inductive Answer (request : ChatCompletionRequest) :
    (texts : List String) → ChatCompletionResponse → Prop
  | mock {response : ChatCompletionResponse} (provider : MockProvider)
      (h : provider.chatCompletion request = .ok response) :
      Answer request (if request.tools.getD [] = [] then
        ["Deterministic mock response from " ++ provider.name ++ "."] else []) response
  | openAi {response : ChatCompletionResponse} (provider : OpenAiCompatibleProvider)
      (responseId : Uuid) (http : Except TransportError (JsonResponse OpenAiChatResponse))
      (h : provider.chatCompletion request responseId http = .ok response)
      {parsed : OpenAiChatResponse} (hparsed : JsonResponse.decoded http = .ok parsed) :
      Answer request (parsed.choices.head?.toList.map (·.message.content)) response
  | anthropic {response : ChatCompletionResponse} (provider : AnthropicProvider)
      (responseId : Uuid) (http : Except TransportError (JsonResponse AnthropicMessagesResponse))
      (h : provider.chatCompletion request responseId http = .ok response)
      {parsed : AnthropicMessagesResponse} (hparsed : JsonResponse.decoded http = .ok parsed) :
      Answer request (parsed.content.map (·.textPart)) response

/-! ## Sent back -/

/-- Every answer is one message of the assistant, the texts put together. -/
theorem Answer.choices_eq {request : ChatCompletionRequest} {texts : List String}
    {response : ChatCompletionResponse} (hanswer : Answer request texts response) :
    ∃ toolCalls finishReason, response.choices =
      [{ index := 0
         message := { role := .assistant, content := String.join texts, toolCalls := toolCalls }
         finishReason := finishReason }] := by
  cases hanswer with
  | mock provider h =>
      have hcalls : (provider.toolCalls request).isSome = !(request.tools.getD []).isEmpty := by
        unfold MockProvider.toolCalls
        rcases request.tools with _ | _ | _ <;> rfl
      unfold MockProvider.chatCompletion MockProvider.responseContent at h
      rw [hcalls] at h
      split at h
      · cases h
      · cases h
        refine ⟨provider.toolCalls request, "stop", ?_⟩
        cases request.tools.getD [] <;> simp [String.join_cons]
  | openAi provider responseId http h hparsed =>
      unfold OpenAiCompatibleProvider.chatCompletion at h
      rw [hparsed] at h
      simp only at h
      split at h
      · cases h
      · rename_i hchoices
        cases h
        simp [hchoices, String.join_cons]
  | @anthropic _ provider responseId http h parsed hparsed =>
      have htext : (anthropicContentToOpenaiMessage parsed.content).1 =
          String.join (parsed.content.map (·.textPart)) := by
        simp only [anthropicContentToOpenaiMessage, foldl_contentStep, String.empty_append]
      unfold AnthropicProvider.chatCompletion at h
      rw [hparsed] at h
      simp only at h
      split at h
      · cases h
      · cases h
        rw [← htext]
        exact ⟨_, _, rfl⟩

/-- A tool message for each of the tool calls, in their order. -/
def ToolResults (message : ChatMessage) (results : List ChatMessage) : Prop :=
  List.Forall₂ (fun (call : ToolCall) (result : ChatMessage) =>
    result.role = .tool ∧ result.toolCallId = some call.id ∧ Text.isBlank result.content = false)
    (message.toolCalls.getD []) results

namespace ChatCompletionRequest

/-- The request with the answer behind its messages. -/
def followUp (r : ChatCompletionRequest) (message : ChatMessage) (results : List ChatMessage) :
    ChatCompletionRequest :=
  { r with messages := r.messages ++ message :: results }

/-- The limits on the number of messages and on their length. -/
def Within (r : ChatCompletionRequest) (limits : ChatValidationLimits) : Prop :=
  r.messages.length ≤ limits.maxMessagesPerRequest ∧
    ∀ m ∈ r.messages, m.content.length ≤ limits.maxMessageContentChars

theorem accepted_followUp_iff {r : ChatCompletionRequest} {limits : ChatValidationLimits}
    (hr : r.Accepted limits) {message : ChatMessage} {results : List ChatMessage}
    (hresults : ∀ result ∈ results, Text.isBlank result.content = false)
    (hwithin : (r.followUp message results).Within limits) :
    (r.followUp message results).Accepted limits ↔ Text.isBlank message.content = false := by
  have hmem : message ∈ (r.followUp message results).messages :=
    List.mem_append_right _ List.mem_cons_self
  refine ⟨fun h => h.content message hmem, fun hmessage => ?_⟩
  refine ⟨hr.model, List.append_ne_nil_of_right_ne_nil _ (List.cons_ne_nil _ _), hwithin.1, ?_,
    hwithin.2, hr.tools, hr.toolChoice⟩
  intro m hm
  rcases List.mem_append.mp hm with hold | hnew
  · exact hr.content m hold
  · rcases List.mem_cons.mp hnew with rfl | hresult
    · exact hmessage
    · exact hresults m hresult

end ChatCompletionRequest

theorem ToolResults.not_blank {message : ChatMessage} {results : List ChatMessage}
    (h : ToolResults message results) :
    ∀ result ∈ results, Text.isBlank result.content = false := by
  unfold ToolResults at h
  generalize message.toolCalls.getD [] = calls at h
  induction h with
  | nil => exact fun _ hnot => nomatch hnot
  | cons hresult _ ih =>
      intro result hmem
      rcases List.mem_cons.mp hmem with rfl | hrest
      · exact hresult.2.2
      · exact ih result hrest

/-- Within the limits, an answer can be sent back exactly if it is not blank, that is, if the
provider has a text for it that is not. -/
theorem answer_sent_back_iff {request : ChatCompletionRequest} {limits : ChatValidationLimits}
    {requestId : Option Uuid} (hvalid : request.validate requestId limits = .ok ())
    {texts : List String} {response : ChatCompletionResponse}
    (hanswer : Answer request texts response) {choice : ChatChoice}
    (hchoice : choice ∈ response.choices) {results : List ChatMessage}
    (hresults : ToolResults choice.message results)
    (hwithin : (request.followUp choice.message results).Within limits) :
    choice.message.role = .assistant ∧
      ((request.followUp choice.message results).validate requestId limits = .ok () ↔
        Text.isBlank choice.message.content = false) ∧
      (Text.isBlank choice.message.content = false ↔
        ∃ text ∈ texts, Text.isBlank text = false) := by
  have hmessage : choice.message.role = .assistant ∧
      choice.message.content = String.join texts := by
    obtain ⟨toolCalls, finishReason, hchoices⟩ := hanswer.choices_eq
    rw [hchoices] at hchoice
    rw [List.mem_singleton.mp hchoice]
    exact ⟨rfl, rfl⟩
  refine ⟨hmessage.1, ?_, ?_⟩
  · rw [ChatCompletionRequest.validate_eq_ok_iff,
      ChatCompletionRequest.validationError_eq_none_iff] at hvalid ⊢
    exact ChatCompletionRequest.accepted_followUp_iff hvalid hresults.not_blank hwithin
  · rw [hmessage.2, ← Bool.not_eq_true, Text.isBlank_join]
    simp

/-- A request with these tools on offer. -/
def echoRequest (tools : List Tool) : ChatCompletionRequest where
  model := some "mock"
  messages := [{ role := .user, content := "Hi" }]
  tools := some tools

def echoTool : Tool where
  kind := "function"
  function := { name := "echo", description := none, parameters := .null, strict := none }

/-- The answer of the mock provider that is called `mock`. -/
def mockMessage (tools : List Tool) : ChatMessage where
  role := .assistant
  content := (MockProvider.mk "mock" "mock" 0).responseContent (echoRequest tools)
  toolCalls := (MockProvider.mk "mock" "mock" 0).toolCalls (echoRequest tools)

theorem mockMessage_answer (tools : List Tool) :
    ∃ texts response, Answer (echoRequest tools) texts response ∧
      ⟨0, mockMessage tools, "stop"⟩ ∈ response.choices :=
  ⟨_, _, .mock ⟨"mock", "mock", 0⟩ rfl, List.mem_singleton.mpr rfl⟩

/-- An answer with a text and a tool call. -/
def lookMessage : ChatMessage where
  role := .assistant
  content := "I will look."
  toolCalls := some [⟨"call_1", "function", ⟨"weather", "\x7b\x7d"⟩⟩]

theorem lookMessage_answer :
    ∃ response, Answer (echoRequest [echoTool]) ["I will look.", ""] response ∧
      ⟨0, lookMessage, "tool_use"⟩ ∈ response.choices :=
  ⟨_, .anthropic ⟨"claude", "m"⟩ 0
    (.ok ⟨200, some ⟨"m", [lookText, weatherUse], none, some "tool_use"⟩⟩) rfl rfl,
    List.mem_singleton.mpr rfl⟩

/-- It is accepted with the result of the tool behind it. -/
theorem answer_sent_back_look :
    let result : ChatMessage := { role := .tool, content := "Sunny.", toolCallId := some "call_1" }
    ((echoRequest [echoTool]).followUp lookMessage [result]).validate none {} = .ok () := by
  intro result
  obtain ⟨response, hanswer, hchoice⟩ := lookMessage_answer
  have hvalid : (echoRequest [echoTool]).validate none {} = .ok () := by decide +kernel
  have hwithin : ((echoRequest [echoTool]).followUp lookMessage [result]).Within {} := by
    unfold ChatCompletionRequest.Within
    decide +kernel
  have hresults : ToolResults lookMessage [result] := .cons ⟨rfl, rfl, by decide +kernel⟩ .nil
  obtain ⟨-, haccepted, htexts⟩ := answer_sent_back_iff hvalid hanswer hchoice hresults hwithin
  exact haccepted.mpr (htexts.mpr ⟨"I will look.", List.mem_cons_self, by decide +kernel⟩)

/-- With a tool on offer, the answer of the mock provider is a tool call without text.  It is
sent back with the result of the tool, and turned away. -/
theorem tool_answer_turned_away :
    let result : ChatMessage :=
      { role := .tool, content := "done", toolCallId := ((mockMessage [echoTool]).toolCalls.bind
        List.head?).map (·.id) }
    let next := (echoRequest [echoTool]).followUp (mockMessage [echoTool]) [result]
    (echoRequest [echoTool]).validate none {} = .ok () ∧
      (∃ texts response, Answer (echoRequest [echoTool]) texts response ∧
        ⟨0, mockMessage [echoTool], "stop"⟩ ∈ response.choices) ∧
      ToolResults (mockMessage [echoTool]) [result] ∧ next.Within {} ∧
      next.validationError {} = some "message content must not be empty" := by
  refine ⟨by decide +kernel, mockMessage_answer _, ?_, ?_, by decide +kernel⟩
  · exact .cons ⟨rfl, rfl, by decide +kernel⟩ .nil
  · unfold ChatCompletionRequest.Within
    decide +kernel

end RustyGate
