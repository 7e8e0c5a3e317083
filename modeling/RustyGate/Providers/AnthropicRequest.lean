/-
The request that Anthropic is sent (`AnthropicMessagesRequest` in
`src/providers/anthropic.rs` and the outbound half of
`src/providers/anthropic_tool_translation.rs`), and what can be read back from it.

The translation has no place for the tool calls of a message.  It joins the system texts
to one, gives a tool result without an id an empty one, and has no word for a tool choice
of `none`.  What it keeps is stated as an equivalence, with a reader of the outbound format
that knows nothing of where the request came from.
-/
import RustyGate.Providers.Anthropic

namespace RustyGate

structure AnthropicTool where
  name : String
  description : Option String
  inputSchema : Json

inductive AnthropicToolChoice where
  | auto
  | any
  | tool (name : String)
  deriving DecidableEq, Repr

structure AnthropicMessage where
  role : String
  content : Json

structure AnthropicMessagesRequest where
  model : String
  maxTokens : UInt32
  messages : List AnthropicMessage
  system : Option String
  temperature : Option F32
  stream : Option Bool
  tools : Option (List AnthropicTool)
  toolChoice : Option AnthropicToolChoice

def openaiToolsToAnthropic (tools : List Tool) : List AnthropicTool :=
  tools.map fun tool =>
    { name := tool.function.name
      description := tool.function.description
      inputSchema := tool.function.parameters }

def openaiToolChoiceToAnthropic : ToolChoice → Option AnthropicToolChoice
  | .mode .auto => some .auto
  | .mode .required => some .any
  | .mode .none => none
  | .function _ name => some (.tool name)

/-- One turn of the loop over the messages, with the system texts and the messages so
far.  The keys of an object are in the order of `serde_json`. -/
def splitStep (split : List String × List AnthropicMessage) (message : ChatMessage) :
    List String × List AnthropicMessage :=
  match message.role with
  | .developer | .system => (split.1 ++ [message.content], split.2)
  | .user => (split.1, split.2 ++ [⟨"user", .string message.content⟩])
  | .assistant => (split.1, split.2 ++ [⟨"assistant", .string message.content⟩])
  | .tool => (split.1, split.2 ++ [⟨"user", .array [.object
      [("content", .string message.content),
       ("tool_use_id", .string (message.toolCallId.getD "")),
       ("type", .string "tool_result")]]⟩])

def splitSystemMessages (messages : List ChatMessage) : Option String × List AnthropicMessage :=
  let (systemMessages, converted) := messages.foldl splitStep ([], [])
  (if systemMessages.isEmpty then none else some ("\n\n".intercalate systemMessages), converted)

/-- The request that `chat_completion` posts, and `chat_completion_stream` with `stream`. -/
def AnthropicProvider.outboundRequest (provider : AnthropicProvider)
    (request : ChatCompletionRequest) (stream : Option Bool) : AnthropicMessagesRequest :=
  let (system, messages) := splitSystemMessages request.messages
  { model := request.model.getD provider.model
    maxTokens := request.maxTokens.getD 512
    messages := messages
    system := system
    temperature := request.temperature
    stream := stream
    tools := request.tools.map openaiToolsToAnthropic
    toolChoice := request.toolChoice.bind openaiToolChoiceToAnthropic }

/-! ## What a request says -/

/-- What a message says: each tool call is an id, a name and arguments. -/
structure ConversationMessage where
  role : ChatRole
  content : String
  toolCalls : List (String × String × String) := []
  toolCallId : Option String := none
  deriving DecidableEq

/-- What a request says, apart from its settings. -/
structure Conversation where
  messages : List ConversationMessage
  systemTexts : List String
  deriving DecidableEq

def ChatRole.isSystem : ChatRole → Bool
  | .developer | .system => true
  | _ => false

def ChatMessage.said (m : ChatMessage) : ConversationMessage where
  role := m.role
  content := m.content
  toolCalls := (m.toolCalls.getD []).map fun call =>
    (call.id, call.function.name, call.function.arguments)
  toolCallId := m.toolCallId

namespace ChatCompletionRequest

def conversation (r : ChatCompletionRequest) : Conversation where
  messages := (r.messages.filter fun m => !m.role.isSystem).map ChatMessage.said
  systemTexts := (r.messages.filter fun m => m.role.isSystem).map (·.content)

/-- Tools are offered, and `tool_choice` does not rule them out. -/
def PermitsToolCall (r : ChatCompletionRequest) : Prop :=
  r.tools.getD [] ≠ [] ∧ r.toolChoice ≠ some (.mode .none)

end ChatCompletionRequest

namespace AnthropicMessage

def textField (block : Json) (key : String) : Option String :=
  match block with
  | .object fields =>
      match fields.lookup key with
      | some (.string text) => some text
      | _ => none
  | _ => none

def blocksOf (m : AnthropicMessage) (kind : String) : List Json :=
  match m.content with
  | .array blocks => blocks.filter fun block => textField block "type" == some kind
  | _ => []

/-- The arguments of a `tool_use` block. -/
def inputText (block : Json) : String :=
  match block with
  | .object fields => ((fields.lookup "input").getD (.object [])).toText
  | _ => ""

def toolUses (m : AnthropicMessage) : List (String × String × String) :=
  (m.blocksOf "tool_use").map fun block =>
    ((textField block "id").getD "", (textField block "name").getD "", inputText block)

def toolResults (m : AnthropicMessage) : List (String × String) :=
  (m.blocksOf "tool_result").map fun block =>
    ((textField block "tool_use_id").getD "", (textField block "content").getD "")

def contentText (m : AnthropicMessage) : String :=
  match m.content with
  | .string text => text
  | _ => String.join ((m.blocksOf "text").map fun block => (textField block "text").getD "")

/-- What a message says in the format of Anthropic: a tool result, or the text and the
tool uses of its role. -/
def said (m : AnthropicMessage) : ConversationMessage :=
  match m.toolResults with
  | (id, content) :: _ => { role := .tool, content := content, toolCallId := some id }
  | [] =>
      { role := if m.role = "assistant" then .assistant else .user
        content := m.contentText
        toolCalls := m.toolUses }

end AnthropicMessage

namespace AnthropicMessagesRequest

def conversation (o : AnthropicMessagesRequest) : Conversation where
  messages := o.messages.map AnthropicMessage.said
  systemTexts := o.system.toList

/-- Tools are offered.  Without a tool choice the model decides, and no tool choice that
the translation knows rules them out. -/
def PermitsToolCall (o : AnthropicMessagesRequest) : Prop := o.tools.getD [] ≠ []

end AnthropicMessagesRequest

/-! ## What the translation keeps -/

/-- The outbound form of a message that is no system text. -/
def ChatMessage.converted (m : ChatMessage) : AnthropicMessage :=
  match m.role with
  | .assistant => ⟨"assistant", .string m.content⟩
  | .tool => ⟨"user", .array [.object
      [("content", .string m.content),
       ("tool_use_id", .string (m.toolCallId.getD "")),
       ("type", .string "tool_result")]]⟩
  | _ => ⟨"user", .string m.content⟩

theorem foldl_splitStep (messages : List ChatMessage)
    (split : List String × List AnthropicMessage) :
    messages.foldl splitStep split =
      (split.1 ++ (messages.filter fun m => m.role.isSystem).map (·.content),
       split.2 ++ (messages.filter fun m => !m.role.isSystem).map ChatMessage.converted) := by
  induction messages generalizing split with
  | nil => simp
  | cons m rest ih =>
      rw [List.foldl_cons, ih]
      cases hrole : m.role <;>
        simp [splitStep, ChatMessage.converted, ChatRole.isSystem, hrole]

/-- The translation keeps what a message says: it has no tool calls, and an id of a tool
call exactly if it is the result of one. -/
def ChatMessage.Expressible (m : ChatMessage) : Prop :=
  m.toolCalls.getD [] = [] ∧ (m.role = .tool ↔ m.toolCallId.isSome)

instance (m : ChatMessage) : Decidable m.Expressible := inferInstanceAs (Decidable (_ ∧ _))

theorem said_converted_iff {m : ChatMessage} (hrole : m.role.isSystem = false) :
    m.converted.said = m.said ↔ m.Expressible := by
  obtain ⟨role, content, toolCalls, toolCallId⟩ := m
  rw [eq_comm]
  cases role with
  | developer | system => cases hrole
  | user | assistant =>
      show ConversationMessage.mk _ content _ toolCallId = ⟨_, content, [], none⟩ ↔ _
      simp [ChatMessage.Expressible, ChatMessage.converted]
  | tool =>
      show ConversationMessage.mk .tool content _ toolCallId =
        ⟨.tool, content, [], some (toolCallId.getD "")⟩ ↔ _
      cases toolCallId <;> simp [ChatMessage.Expressible]

namespace AnthropicProvider

variable (provider : AnthropicProvider) (r : ChatCompletionRequest) (stream : Option Bool)

theorem messages_outboundRequest :
    (provider.outboundRequest r stream).messages =
      (r.messages.filter fun m => !m.role.isSystem).map ChatMessage.converted := by
  simp [outboundRequest, splitSystemMessages, foldl_splitStep]

theorem system_outboundRequest :
    (provider.outboundRequest r stream).system =
      if r.conversation.systemTexts.isEmpty then none
      else some ("\n\n".intercalate r.conversation.systemTexts) := by
  simp [outboundRequest, splitSystemMessages, foldl_splitStep, ChatCompletionRequest.conversation]

/-- The messages are read back exactly if each of them is expressible. -/
theorem messages_read_back_iff :
    (provider.outboundRequest r stream).conversation.messages = r.conversation.messages ↔
      ∀ m ∈ r.messages, m.role.isSystem = false → m.Expressible := by
  rw [AnthropicMessagesRequest.conversation, messages_outboundRequest, List.map_map,
    ChatCompletionRequest.conversation, List.map_inj_left]
  simp only [List.mem_filter, Bool.not_eq_true', and_imp, Function.comp_apply]
  refine forall₃_congr fun m _ hrole => ?_
  exact said_converted_iff hrole

/-- The system texts are read back exactly if there are no two to be joined. -/
theorem systemTexts_read_back_iff :
    (provider.outboundRequest r stream).conversation.systemTexts = r.conversation.systemTexts ↔
      r.conversation.systemTexts.length ≤ 1 := by
  rw [AnthropicMessagesRequest.conversation, system_outboundRequest]
  match r.conversation.systemTexts with
  | [] => simp
  | [text] => simp
  | first :: second :: rest => simp

theorem permits_iff :
    ((provider.outboundRequest r stream).PermitsToolCall → r.PermitsToolCall) ↔
      ¬ (r.tools.getD [] ≠ [] ∧ r.toolChoice = some (.mode .none)) := by
  have houtbound : (provider.outboundRequest r stream).PermitsToolCall ↔ r.tools.getD [] ≠ [] := by
    show (r.tools.map openaiToolsToAnthropic).getD [] ≠ [] ↔ _
    cases r.tools <;> simp [openaiToolsToAnthropic]
  rw [houtbound, ChatCompletionRequest.PermitsToolCall]
  tauto

/-- A tool message that answers a tool call of an earlier message of the assistant is
outbound a tool result that names a tool use of an earlier message of the assistant. -/
def Answered (r : ChatCompletionRequest) (o : AnthropicMessagesRequest) : Prop :=
  ∀ before m after id, r.messages = before ++ m :: after → m.role = .tool →
    m.toolCallId = some id →
    (∃ a ∈ before, a.role = .assistant ∧ id ∈ (a.toolCalls.getD []).map (·.id)) →
    ∃ outBefore out outAfter, o.messages = outBefore ++ out :: outAfter ∧
      id ∈ out.toolResults.map (·.1) ∧
      ∃ a ∈ outBefore, a.role = "assistant" ∧ id ∈ a.toolUses.map (·.1)

/-- The outbound request means what the request means. -/
structure KeepsMeaning (r : ChatCompletionRequest) (o : AnthropicMessagesRequest) : Prop where
  readBack : o.conversation = r.conversation
  answered : Answered r o
  permits : o.PermitsToolCall → r.PermitsToolCall

/-- The requests that the translation has words for. -/
structure Expressible (r : ChatCompletionRequest) : Prop where
  messages : ∀ m ∈ r.messages, m.role.isSystem = false → m.Expressible
  systemTexts : r.conversation.systemTexts.length ≤ 1
  toolChoice : ¬ (r.tools.getD [] ≠ [] ∧ r.toolChoice = some (.mode .none))

/-- The translation keeps the meaning of exactly the expressible requests. -/
theorem keepsMeaning_iff :
    KeepsMeaning r (provider.outboundRequest r stream) ↔ Expressible r := by
  constructor
  · intro hkeeps
    exact
      { messages := (messages_read_back_iff provider r stream).mp
          (congrArg Conversation.messages hkeeps.readBack)
        systemTexts := (systemTexts_read_back_iff provider r stream).mp
          (congrArg Conversation.systemTexts hkeeps.readBack)
        toolChoice := (permits_iff provider r stream).mp hkeeps.permits }
  · intro hexpressible
    refine ⟨?_, ?_, (permits_iff provider r stream).mpr hexpressible.toolChoice⟩
    · have hmessages := (messages_read_back_iff provider r stream).mpr hexpressible.messages
      have hsystem := (systemTexts_read_back_iff provider r stream).mpr hexpressible.systemTexts
      exact congrArg₂ Conversation.mk hmessages hsystem
    · -- There is no tool call to be answered.
      rintro before m after id hr - - ⟨a, ha, hassistant, hid⟩
      have hmem : a ∈ r.messages := by
        rw [hr]
        exact List.mem_append_left _ ha
      have hnone := (hexpressible.messages a hmem (by rw [hassistant]; rfl)).1
      rw [hnone] at hid
      cases hid

/-- A question, a message of the assistant with these tool calls, and the answer to one. -/
def weatherRequest (toolCalls : Option (List ToolCall)) : ChatCompletionRequest where
  model := some "claude"
  messages :=
    [{ role := .user, content := "Is it raining?" },
     { role := .assistant, content := "I will look.", toolCalls := toolCalls },
     { role := .tool, content := "No.", toolCallId := some "call_1" }]

/-- Two requests, both valid, that say different things are sent as the same request, so no
reader can tell them apart.  The answered tool call is gone. -/
theorem tool_call_lost :
    let asked := weatherRequest (some [⟨"call_1", "function", ⟨"weather", "\x7b\x7d"⟩⟩])
    let outbound := (AnthropicProvider.mk "anthropic" "claude").outboundRequest asked none
    asked.validationError {} = none ∧ (weatherRequest none).validationError {} = none ∧
      outbound = (AnthropicProvider.mk "anthropic" "claude").outboundRequest
        (weatherRequest none) none ∧
      asked.conversation ≠ (weatherRequest none).conversation ∧
      outbound.messages.flatMap AnthropicMessage.toolUses = [] := by
  refine ⟨by decide +kernel, by decide +kernel, rfl, by decide +kernel, by decide +kernel⟩

end AnthropicProvider

end RustyGate
