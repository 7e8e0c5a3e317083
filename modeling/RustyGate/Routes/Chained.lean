/-
A gateway behind a gateway.

The chat route speaks the protocol that a provider with the OpenAI protocol is expected to
speak, so the upstream of such a provider can be another gateway.  What the outer gateway posts
is read by the inner one as the same request.  The answer of the inner one comes back whole or
event by event, and a stream that breaks off there is never completed here.
-/
import RustyGate.Routes.EventText

namespace RustyGate

open Text

/-! ## Requests -/

/-- The first statements of `chat_completion_stream`. -/
def OpenAiCompatibleProvider.outboundStreamRequest (provider : OpenAiCompatibleProvider)
    (request : ChatCompletionRequest) : OpenAiChatRequest :=
  { provider.outboundRequest request with stream := some true }

section Requests

variable {format : Json.NumberFormat} {readF32 : String → Option F32} {formatF32 : F32 → String}
  {request : ChatCompletionRequest}

/-- The checks look at neither the name of the model, as long as there is one, nor at the
choice of a stream. -/
theorem ChatCompletionRequest.validationError_sent {limits : ChatValidationLimits}
    (h : request.validationError limits = none) {model : String} (hmodel : isBlank model = false)
    (stream : Option Bool) :
    { requestForProvider request model with stream := stream }.validationError limits = none := by
  have haccepted := (request.validationError_eq_none_iff limits).mp h
  exact (validationError_eq_none_iff _ limits).mpr
    ⟨hmodel, haccepted.messages, haccepted.count, haccepted.content, haccepted.length,
      haccepted.tools, haccepted.toolChoice⟩

/-- A request that a gateway has read and accepted, whose temperature is read back from its
text and whose documents have only numbers that are printed as they stand, is posted as a
request that another gateway reads as the same, with the model of the provider, and accepts. -/
theorem request_passed_on {body : List UInt8} {limits : ChatValidationLimits}
    (hread : ChatCompletionRequest.fromBody format readF32 body = some request)
    (haccepted : request.validationError limits = none)
    (htext : ∀ t, request.temperature = some t → HasText readF32 formatF32 t)
    (hnumbers : ∀ text ∈ request.numbers, format.reprint text = some text)
    (provider : OpenAiCompatibleProvider) (hmodel : isBlank provider.model = false) :
    let sent := requestForProvider request provider.model
    (ChatCompletionRequest.fromBody format readF32
        ((provider.outboundRequest sent).toJson formatF32).toVec =
          some { sent with stream := none } ∧
      { sent with stream := none }.validationError limits = none) ∧
    ChatCompletionRequest.fromBody format readF32
        ((provider.outboundStreamRequest sent).toJson formatF32).toVec =
          some { sent with stream := some true } ∧
      { sent with stream := some true }.validationError limits = none := by
  intro sent
  have hvalues := (ChatCompletionRequest.hasValues_of_fromBody hread).reads hnumbers
  have hwhole : (provider.outboundRequest sent).asRequest.HasValues format :=
    ⟨hvalues.tools, hvalues.responseFormat⟩
  have hstreamed : (provider.outboundStreamRequest sent).asRequest.HasValues format :=
    ⟨hvalues.tools, hvalues.responseFormat⟩
  exact ⟨⟨OpenAiChatRequest.fromBody_toVec hwhole htext,
      ChatCompletionRequest.validationError_sent haccepted hmodel none⟩,
    OpenAiChatRequest.fromBody_toVec hstreamed htext,
    ChatCompletionRequest.validationError_sent haccepted hmodel (some true)⟩

end Requests

/-- A question with a temperature, a tool and the form of the answer. -/
def weatherQuestion : OpenAiChatRequest where
  model := "fast"
  messages := [{ role := .user, content := "How warm is it?" }]
  temperature := some ⟨0x3f000000⟩
  maxTokens := some 8
  stream := none
  tools := some [⟨"function", {
    name := "weather", description := none, strict := none
    parameters := .object [("maxProperties", .number "2"), ("type", .string "object")] }⟩]
  toolChoice := some (.mode .auto)
  parallelToolCalls := none
  responseFormat := some (.object [("type", .string "json_object")])

/-- It is posted by one gateway and read by the next. -/
theorem request_passed_on_question :
    let readF32 := fun text => if text = "0.5" then some ⟨0x3f000000⟩ else none
    let upstream : OpenAiCompatibleProvider := ⟨"upstream", "m"⟩
    let sent := requestForProvider weatherQuestion.asRequest "m"
    ChatCompletionRequest.fromBody Json.plainNumbers readF32
        ((upstream.outboundRequest sent).toJson fun _ => "0.5").toVec =
      some { sent with stream := none } := by
  intro readF32 upstream sent
  have hvalues : weatherQuestion.asRequest.HasValues Json.plainNumbers := by
    constructor
    · rintro tools ⟨⟩ tool htool
      obtain rfl := List.mem_singleton.mp htool
      exact ⟨rfl, by decide +kernel, by decide +kernel⟩
    · rintro document ⟨⟩
      exact ⟨by simp, rfl, by decide +kernel, by decide +kernel⟩
  have htext : ∀ t, weatherQuestion.temperature = some t → HasText readF32 (fun _ => "0.5") t := by
    rintro t ⟨⟩
    exact ⟨by decide +kernel, by decide +kernel⟩
  have hread : ChatCompletionRequest.fromBody Json.plainNumbers readF32
      (weatherQuestion.toJson fun _ => "0.5").toVec = some weatherQuestion.asRequest :=
    OpenAiChatRequest.fromBody_toVec hvalues htext
  have haccepted : weatherQuestion.asRequest.validationError {} = none := by decide +kernel
  exact (request_passed_on hread haccepted htext (by decide +kernel) upstream (by decide)).1.1

/-! ## Answers -/

/-- The body of an answer as the provider reads it. -/
def OpenAiChatResponse.fromBytes (body : List UInt8) : Option OpenAiChatResponse :=
  (Json.fromSlice body).bind fromJson

namespace ChatCompletionResponse

/-- What a provider makes of the first choice of an answer. -/
def asOpenAi (response : ChatCompletionResponse) : OpenAiChatResponse where
  model := response.model
  created := some response.created
  choices := response.choices.map fun choice =>
    { message := { content := choice.message.content, toolCalls := choice.message.toolCalls }
      finishReason := some choice.finishReason }
  usage := some response.usage

end ChatCompletionResponse

theorem OpenAiAssistantMessage.fromJson_toJson (message : ChatMessage) :
    fromJson message.toJson =
      some { content := message.content, toolCalls := message.toolCalls } := by
  obtain ⟨fields, hfields, h⟩ := message.isObject_toJson.fieldsOf ["content", "tool_calls"]
  have hcalls := h.toolCalls.optional fun calls _ => ⟨by simp, ToolCall.asList_toJson calls⟩
  simp [fromJson, hfields, Json.required_string h.content, hcalls]

theorem OpenAiChoice.fromJson_toJson (choice : ChatChoice) :
    fromJson choice.toJson = some
      { message := { content := choice.message.content, toolCalls := choice.message.toolCalls }
        finishReason := some choice.finishReason } := by
  obtain ⟨fields, hfields, -, hmessage, hreason⟩ :=
    choice.isObject_toJson.fieldsOf ["message", "finish_reason"]
  have hreason : Json.Spells .string (fields "finish_reason") (some choice.finishReason) :=
    Or.inl hreason
  simp [fromJson, hfields, hreason.string,
    Json.required_some hmessage (OpenAiAssistantMessage.fromJson_toJson choice.message)]

variable {response : ChatCompletionResponse} {chunk : ChatCompletionChunkResponse}
  {chunks : List ChatCompletionChunkResponse}

theorem OpenAiChatResponse.fromBytes_toVec (h : Json.IsI64 response.created) :
    fromBytes response.toJson.toVec = some response.asOpenAi := by
  obtain ⟨fields, hfields, -, -, hcreated, hmodel, -, hchoices, husage⟩ :=
    response.isObject_toJson.fieldsOf ["model", "created", "choices", "usage"]
  have hcreatedField : fields "created" =
      (some response.created).map fun n => .number (toString n) := hcreated
  have hreadCreated : Json.optional fields "created" Json.asI64 = some (some response.created) :=
    Json.optional_map hcreatedField fun n hn =>
      ⟨by simp, Json.asI64_toString (Option.some.inj hn ▸ h)⟩
  have hchoicesRead : Json.asList OpenAiChoice.fromJson
      (.array (response.choices.map ChatChoice.toJson)) = some response.asOpenAi.choices :=
    Json.asList_map_map fun choice _ => OpenAiChoice.fromJson_toJson choice
  have husageField : fields "usage" = (some response.usage).map TokenUsage.toJson := husage
  have hreadUsage := Json.optional_map husageField
    fun usage _ => ⟨by simp [TokenUsage.toJson], usage.fromJson_toJson⟩
  rw [fromBytes, Json.fromSlice_toVec response.readable_toJson, Option.bind_some]
  simp [fromJson, hfields, Json.required_string hmodel, hreadCreated,
    Json.required_some hchoices hchoicesRead, hreadUsage, ChatCompletionResponse.asOpenAi]

/-- An answer of the chat route is taken over by the provider in front of it: the model, the
time, the usage, and of the first choice its text, its tool calls and why it ended. -/
theorem answer_passed_on {choice : ChatChoice} {others : List ChatChoice}
    (hchoices : response.choices = choice :: others) (hcreated : Json.IsI64 response.created)
    (provider : OpenAiCompatibleProvider) (request : ChatCompletionRequest) (responseId : Uuid) :
    provider.chatCompletion request responseId
        (.ok ⟨200, OpenAiChatResponse.fromBytes response.toJson.toVec⟩) =
      .ok { id := openaiId "chatcmpl" responseId
            object := "chat.completion"
            created := response.created
            model := response.model
            provider := provider.name
            choices := [{
              index := 0
              message :=
                { role := .assistant
                  content := choice.message.content
                  toolCalls := choice.message.toolCalls }
              finishReason := choice.finishReason }]
            usage := response.usage } := by
  rw [OpenAiChatResponse.fromBytes_toVec hcreated]
  simp [OpenAiCompatibleProvider.chatCompletion, JsonResponse.decoded,
    ChatCompletionResponse.asOpenAi, hchoices]

/-- An answer with a tool call and nothing else. -/
theorem answer_passed_on_toolCall :
    let answer : ChatCompletionResponse :=
      { id := "chatcmpl-1", object := "chat.completion", created := 1700000000, model := "m"
        provider := "mock-primary"
        choices := [{
          index := 0
          message :=
            { role := .assistant, content := ""
              toolCalls := some [⟨"call-1", "function", ⟨"f", "\x7b\"x\":\"\\n\"\x7d"⟩⟩] }
          finishReason := "tool_calls" }]
        usage := ⟨1, 2, 3⟩ }
    (OpenAiCompatibleProvider.chatCompletion ⟨"upstream", "m"⟩ { model := none, messages := [] } 7
        (.ok ⟨200, OpenAiChatResponse.fromBytes answer.toJson.toVec⟩)).map
          (fun response => (response.choices.map (·.message), response.usage)) =
      .ok (answer.choices.map (·.message), answer.usage) := by
  intro answer
  have hchoices : answer.choices = answer.choices.head (by simp [answer]) :: [] := rfl
  have hpassed := answer_passed_on hchoices (by decide) ⟨"upstream", "m"⟩
    { model := none, messages := [] } 7
  rw [hpassed]
  rfl

/-! ## Streams -/

namespace ChatCompletionChunkResponse

/-- What a provider reads of a chunk. -/
def asStreamChunk (chunk : ChatCompletionChunkResponse) : OpenAiStreamChunk where
  model := some chunk.model
  created := some chunk.created
  choices := chunk.choices.map fun choice =>
    { index := choice.index
      delta := some
        { role := choice.delta.role
          content := choice.delta.content
          toolCalls := choice.delta.toolCalls }
      finishReason := choice.finishReason }

end ChatCompletionChunkResponse

namespace OpenAiDocument

open Json (Nullable Field Items keys_optionalField)

theorem nullable_map {α : Type} {states : Json → α → Prop} {encode : α → Json}
    {value : Option α} (h : ∀ a, value = some a → states (encode a) a) :
    Nullable states (value.map encode) value := by
  cases value with
  | none => exact Or.inl rfl
  | some a => exact ⟨encode a, rfl, h a rfl⟩

theorem items_map {α β : Type} {states : Json → β → Prop} {encode : α → Json} {f : α → β}
    (h : ∀ a, states (encode a) (f a)) (l : List α) :
    Items states (.array (l.map encode)) (l.map f) := by
  refine ⟨_, rfl, ?_⟩
  induction l with
  | nil => exact List.Forall₂.nil
  | cons a l ih => exact List.Forall₂.cons (h a) ih

theorem callDeltaFunction_toJson (function : ToolCallDeltaFunction) :
    CallDeltaFunction function.toJson function := by
  refine ⟨_, rfl, ?_, ?_⟩
  · rw [List.map_append]
    exact List.Nodup.sublist (keys_optionalField.append keys_optionalField) (by decide)
  · simp only [List.lookup_append, Json.lookup_optionalField]
    simp only [String.reduceEq, if_true, if_false, Option.or_none, Option.none_or]
    exact ⟨nullable_map fun _ _ => rfl, nullable_map fun _ _ => rfl⟩

theorem callDelta_toJson (d : ToolCallDelta) : CallDelta d.toJson d := by
  refine ⟨_, rfl, ?_, ?_⟩
  · simp only [List.map_append, List.map_cons, List.map_nil]
    exact List.Nodup.sublist ((((List.Sublist.refl ["index"]).append keys_optionalField).append
      keys_optionalField).append keys_optionalField) (by decide)
  · simp only [List.lookup_append, Json.lookup_optionalField, List.lookup_cons, List.lookup_nil]
    refine ⟨⟨_, rfl, Json.asU32_toString _⟩, ?_⟩
    simp only [String.reduceBEq, String.reduceEq, if_true, if_false, Option.or_none,
      Option.none_or]
    exact ⟨nullable_map fun _ _ => rfl, nullable_map fun _ _ => rfl,
      nullable_map fun function _ => callDeltaFunction_toJson function⟩

theorem delta_toJson (delta : ChatDelta) : Delta delta.toJson
    { role := delta.role, content := delta.content, toolCalls := delta.toolCalls } := by
  refine ⟨_, rfl, ?_, ?_⟩
  · simp only [List.map_append]
    exact List.Nodup.sublist ((keys_optionalField.append keys_optionalField).append
      keys_optionalField) (by decide)
  · simp only [List.lookup_append, Json.lookup_optionalField]
    simp only [String.reduceEq, if_true, if_false, Option.or_none, Option.none_or]
    refine ⟨nullable_map fun _ _ => rfl, nullable_map fun _ _ => rfl,
      nullable_map fun calls _ => ?_⟩
    have hitems := items_map (f := id) callDelta_toJson calls
    rwa [List.map_id] at hitems

theorem streamChoice_toJson (choice : ChatChunkChoice) : StreamChoice choice.toJson
    { index := choice.index
      delta := some
        { role := choice.delta.role
          content := choice.delta.content
          toolCalls := choice.delta.toolCalls }
      finishReason := choice.finishReason } := by
  refine ⟨_, rfl, ?_, Or.inr ⟨_, rfl, Json.asU32_toString _⟩, ⟨_, rfl, delta_toJson _⟩, ?_⟩
  · simp only [List.map_append, List.map_cons, List.map_nil]
    exact List.Nodup.sublist ((List.Sublist.refl ["index", "delta"]).append keys_optionalField)
      (by decide)
  · simp only [List.lookup_append, Json.lookup_optionalField, List.lookup_cons, List.lookup_nil]
    simp only [String.reduceBEq, if_true, Option.none_or]
    exact nullable_map fun _ _ => rfl

/-- A chunk as it is written is a document of what the provider reads. -/
theorem chunk_toJson (h : Json.IsI64 chunk.created) :
    Chunk chunk.toJson chunk.asStreamChunk :=
  ⟨_, rfl, by simp, ⟨_, rfl, rfl⟩, ⟨_, rfl, Json.asI64_toString h⟩,
    Or.inr ⟨_, rfl, items_map streamChoice_toJson chunk.choices⟩, Or.inl rfl⟩

/-- An error of the chat route has none of the fields of a chunk. -/
theorem chunk_chatError (message : String) (requestId : Uuid) {j : Json}
    (h : (SseEvent.chatError message requestId).toJson = some j) : Chunk j {} := by
  obtain rfl := Option.some.inj h
  exact ⟨_, rfl, by simp, Or.inl rfl, Or.inl rfl, Or.inl ⟨rfl, rfl⟩, Or.inl rfl⟩

end OpenAiDocument

/-- A body whose frames and network chunks are not too long is translated to its end. -/
theorem streamItems_frames {σ : Type} (handle : σ → List Char → EventStep σ)
    {frames : List Frame} (hwell : ∀ frame ∈ frames, frame.WellFormed) {frameSize chunkSize : Nat}
    (hsizes : frameSize + chunkSize ≤ maxSseBufferBytes)
    (hframes : ∀ frame ∈ frames, utf8Len frame.text ≤ frameSize) (s : σ) (front : List Char)
    {texts : List (List Char)} (hbody : front ++ texts.flatten = bodyText frames)
    (htexts : ∀ t ∈ texts, utf8Len t ≤ chunkSize) :
    streamItems handle ⟨restOf front⟩ s (texts.map fun t => .ok (toUtf8 t)) =
      itemsOf handle s (eventsOf (restOf front ++ texts.flatten)) := by
  induction texts generalizing front s with
  | nil =>
      rw [List.flatten_nil, List.append_nil, eventsOf_restOf]
      rfl
  | cons t texts ih =>
      obtain ⟨ht, hrest⟩ := List.forall_mem_cons.mp htexts
      rw [List.flatten_cons] at hbody ⊢
      have hfits := fits_of_frames hwell hsizes hframes hbody ht
      rw [List.map_cons, streamItems_text s hfits, ← List.append_assoc,
        eventsOf_append (restOf front ++ t), itemsOf_append]
      rcases handleEvents handle s (eventsOf (restOf front ++ t)) with ⟨items, _ | s'⟩
      · rfl
      · simp only
        rw [← restOf_append]
        rw [ih s' (front ++ t) (by rw [List.append_assoc]; exact hbody) hrest]

namespace OpenAiCompatibleProvider

/-- A chunk of the inner gateway as the outer one hands it on. -/
def relayed (c : StreamCall) (chunk : ChatCompletionChunkResponse) :
    ChatCompletionChunkResponse :=
  { chunk with
    id := openaiId "chatcmpl" c.responseId
    object := "chat.completion.chunk"
    provider := c.providerName }

/-- The text of the first choices. -/
def relayedText (chunks : List ChatCompletionChunkResponse) : String :=
  String.join (chunks.map fun chunk => (chunk.choices.head?.bind (·.delta.content)).getD "")

/-- What the outer stream ends with. -/
def relayedEnd (usage : TokenUsage) : StreamFinish → StreamItem
  | .completed _ => .ok (.completed usage)
  | .broken _ _ _ => .error .providerBadResponse

theorem fromStr_payload {e : SseEvent} {j : Json} (hj : e.toJson = some j)
    (hread : j.Readable Json.maxDepth) {chunk : OpenAiStreamChunk}
    (hdoc : OpenAiDocument.Chunk j chunk) :
    OpenAiStreamChunk.fromStr Json.parse e.payload = some chunk := by
  have hpayload : e.payload = j.render := by rw [SseEvent.payload, hj]
  rw [OpenAiStreamChunk.fromStr, hpayload, Json.parse_render hread, Option.bind_some]
  exact (OpenAiDocument.reads_chunk j chunk hdoc).2

variable (c : StreamCall) (s : StreamState)

theorem handleEvent_chunk (hone : chunk.choices.length = 1) (hcreated : Json.IsI64 chunk.created)
    (hroom : (s.completionText ++ relayedText [chunk]).length ≤ maxStreamOutputChars) :
    handleEvent (OpenAiStreamChunk.fromStr Json.parse) c s (SseEvent.chatChunk chunk).payload =
      .goOn (some (.chunk (relayed c chunk)))
        { s with completionText := s.completionText ++ relayedText [chunk] } := by
  have hread := fromStr_payload (e := .chatChunk chunk) rfl chunk.readable_toJson
    (OpenAiDocument.chunk_toJson hcreated)
  have hdone : (SseEvent.chatChunk chunk).payload ≠ "[DONE]".toList := by
    intro heq
    exact absurd (List.cons.inj heq).1 (by decide)
  obtain ⟨id, object, created, model, provider, choices⟩ := chunk
  obtain ⟨⟨index, ⟨role, content, toolCalls⟩, finishReason⟩, rfl⟩ :=
    List.length_eq_one_iff.mp hone
  have htext : relayedText [⟨id, object, created, model, provider,
      [⟨index, ⟨role, content, toolCalls⟩, finishReason⟩]⟩] = content.getD "" := by
    simp [relayedText]
  rw [htext] at hroom ⊢
  rw [handleEvent, if_neg hdone, hread]
  cases content with
  | none =>
      rw [Option.getD_none, String.append_empty]
      rfl
  | some content =>
      rw [Option.getD_some, String.length_append] at hroom
      have hfits : ¬ maxStreamOutputChars < s.completionText.length + content.length :=
        Nat.not_lt.mpr hroom
      simp only [ChatCompletionChunkResponse.asStreamChunk, List.map_cons, List.map_nil,
        Option.getD_some, if_neg hfits]
      rfl

/-- The chunks are handed on one by one. -/
theorem handleEvents_chunks
    (hchunks : ∀ chunk ∈ chunks, chunk.choices.length = 1 ∧ Json.IsI64 chunk.created)
    (hroom : (s.completionText ++ relayedText chunks).length ≤ maxStreamOutputChars) :
    handleEvents (handleEvent (OpenAiStreamChunk.fromStr Json.parse) c) s
        (chunks.map fun chunk => (SseEvent.chatChunk chunk).payload) =
      (chunks.map fun chunk => .ok (.chunk (relayed c chunk)),
        some { s with completionText := s.completionText ++ relayedText chunks }) := by
  induction chunks generalizing s with
  | nil =>
      have hempty : s.completionText ++ relayedText [] = s.completionText := String.append_empty
      rw [hempty]
      rfl
  | cons chunk chunks ih =>
      obtain ⟨⟨hone, hcreated⟩, hrest⟩ := List.forall_mem_cons.mp hchunks
      have htext : relayedText (chunk :: chunks) = relayedText [chunk] ++ relayedText chunks := by
        simp [relayedText]
      rw [htext, ← String.append_assoc] at hroom ⊢
      have hfits : (s.completionText ++ relayedText [chunk]).length ≤ maxStreamOutputChars := by
        rw [String.length_append] at hroom
        omega
      rw [List.map_cons, handleEvents, handleEvent_chunk c s hone hcreated hfits]
      simp only
      rw [ih { s with completionText := s.completionText ++ relayedText [chunk] } hrest hroom]
      rfl

/-- The closing event of the inner stream completes the outer one exactly if it is `[DONE]`. -/
theorem itemsOf_closing (job : StreamJob) (closed : StreamFinish) :
    itemsOf (handleEvent (OpenAiStreamChunk.fromStr Json.parse) c) s
        [(job.chatClosing closed).payload] =
      [relayedEnd (completedUsage c s) closed] := by
  cases closed with
  | completed usage => rfl
  | broken error outcome category =>
      have hread := fromStr_payload (e := job.chatErrorEvent (job.appError error)) rfl
        ((SseEvent.OfRoute.chatError _ _).wellFormed _ rfl) (OpenAiDocument.chunk_chatError _ _ rfl)
      have hdone : (job.chatErrorEvent (job.appError error)).payload ≠ "[DONE]".toList := by
        intro heq
        exact absurd (List.cons.inj heq).1 (by decide)
      have hstep : handleEvent (OpenAiStreamChunk.fromStr Json.parse) c s
          (job.chatClosing (.broken error outcome category)).payload = .goOn none s := by
        show handleEvent _ c s (job.chatErrorEvent (job.appError error)).payload = _
        rw [handleEvent, if_neg hdone, hread]
        rfl
      rw [itemsOf, handleEvents, hstep]
      rfl

end OpenAiCompatibleProvider

/-- The id under which the chat route passes a chunk on is lost again. -/
theorem handleEvents_chatChunks (c : StreamCall) (job : StreamJob)
    (hchunks : ∀ chunk ∈ chunks, chunk.choices.length = 1 ∧ Json.IsI64 chunk.created)
    (hroom : (OpenAiCompatibleProvider.relayedText chunks).length ≤
      OpenAiCompatibleProvider.maxStreamOutputChars) :
    handleEvents (OpenAiCompatibleProvider.handleEvent
        (OpenAiStreamChunk.fromStr Json.parse) c) {}
        (chunks.map fun chunk => (SseEvent.chatChunk (job.chatChunk chunk)).payload) =
      (chunks.map fun chunk => .ok (.chunk (OpenAiCompatibleProvider.relayed c chunk)),
        some { completionText := OpenAiCompatibleProvider.relayedText chunks }) := by
  have hchunks' : ∀ chunk ∈ chunks.map job.chatChunk,
      chunk.choices.length = 1 ∧ Json.IsI64 chunk.created := by
    intro chunk hchunk
    obtain ⟨original, horiginal, rfl⟩ := List.mem_map.mp hchunk
    exact hchunks original horiginal
  have htext : "" ++ OpenAiCompatibleProvider.relayedText (chunks.map job.chatChunk) =
      OpenAiCompatibleProvider.relayedText chunks := by
    simp [OpenAiCompatibleProvider.relayedText, StreamJob.chatChunk, Function.comp_def]
  have hrun := OpenAiCompatibleProvider.handleEvents_chunks c {} hchunks'
    (by rw [htext]; exact hroom)
  rw [htext, List.map_map, List.map_map] at hrun
  exact hrun

/-- A streamed answer of the chat route, with anything to keep the connection open between its
events and cut into network chunks between any two characters, is read by the provider in front
of it as the same chunks.  It is completed there exactly if it was completed here, and is an
error otherwise. -/
theorem stream_passed_on {σ : Type} (job : StreamJob) (h : (o : Op) → σ → Ans o × σ) (s : σ)
    {frames : List Frame}
    (hframes : frames.filterMap Frame.event? = yields (job.chatEventStream.run h s).trace)
    {texts : List (List Char)} (htexts : texts.flatten = bodyText frames)
    {frameSize chunkSize : Nat} (hsizes : frameSize + chunkSize ≤ maxSseBufferBytes)
    (hframeSize : ∀ frame ∈ frames, utf8Len frame.text ≤ frameSize)
    (hchunkSize : ∀ t ∈ texts, utf8Len t ≤ chunkSize)
    (hchunks : ∀ chunk ∈ chunksBefore job.chatPasses job.items,
      chunk.choices.length = 1 ∧ Json.IsI64 chunk.created)
    (hroom : (OpenAiCompatibleProvider.relayedText
      (chunksBefore job.chatPasses job.items)).length ≤
        OpenAiCompatibleProvider.maxStreamOutputChars)
    (provider : OpenAiCompatibleProvider) (responseId : Uuid) (created : Int)
    (request : ChatCompletionRequest) :
    let c := provider.streamCall responseId created request
    let chunks := chunksBefore job.chatPasses job.items
    provider.chatCompletionStream (OpenAiStreamChunk.fromStr Json.parse) responseId created
        request (.ok ⟨200, texts.map fun t => .ok (toUtf8 t)⟩) =
      .ok (c.context,
        (chunks.map fun chunk => .ok (.chunk (OpenAiCompatibleProvider.relayed c chunk))) ++
          [OpenAiCompatibleProvider.relayedEnd
            (OpenAiCompatibleProvider.completedUsage c
              { completionText := OpenAiCompatibleProvider.relayedText chunks })
            (finishOf job.chatPasses job.items)]) := by
  intro c chunks
  have hbody : frames.filterMap Frame.event? = job.chatBody job.items := by
    rw [hframes]
    exact (job.chatEventStream_books h s).yields
  have hwell : ∀ frame ∈ frames, frame.WellFormed := by
    refine wellFormed_of_events fun e he => ?_
    rw [hbody] at he
    exact StreamJob.ofRoute_of_mem_chatBody he
  have hevents : eventsOf (bodyText frames) =
      (chunks.map fun chunk => (SseEvent.chatChunk (job.chatChunk chunk)).payload) ++
        [(job.chatClosing (finishOf job.chatPasses job.items)).payload] := by
    rw [(eventsOf_bodyText hwell).1, filterMap_payload?, hbody, StreamJob.chatBody,
      List.map_append, List.map_map]
    rfl
  have hitems := streamItems_frames (OpenAiCompatibleProvider.handleEvent
    (OpenAiStreamChunk.fromStr Json.parse) c) hwell hsizes hframeSize {} [] htexts hchunkSize
  have hnone : restOf [] = [] := (eventsOf_of_cut_none rfl).2
  rw [hnone, List.nil_append, htexts, hevents, itemsOf_append,
    handleEvents_chatChunks c job hchunks hroom] at hitems
  simp only [OpenAiCompatibleProvider.itemsOf_closing c _ job] at hitems
  show Except.ok (c.context, streamItems (OpenAiCompatibleProvider.handleEvent
    (OpenAiStreamChunk.fromStr Json.parse) c) ⟨[]⟩ {} _) = _
  rw [hitems]

/-- The outer stream hands the chunk on and fails, too. -/
theorem stream_passed_on_broken :
    let upstream : OpenAiCompatibleProvider := ⟨"upstream", "m"⟩
    let request : ChatCompletionRequest := { model := none, messages := [] }
    (upstream.chatCompletionStream (OpenAiStreamChunk.fromStr Json.parse) 7 0 request
        (.ok ⟨200, [bodyText StreamJob.brokenFrames].map fun t => .ok (toUtf8 t)⟩)).map
          (fun stream => stream.2.getLast?) =
      .ok (some (.error .providerBadResponse)) := by
  intro upstream request
  have htexts : [bodyText StreamJob.brokenFrames].flatten = bodyText StreamJob.brokenFrames := by
    simp
  have hsizes : 1000 + 2000 ≤ maxSseBufferBytes := by decide
  have hpassed := stream_passed_on StreamJob.brokenJob StreamJob.plainHandler ()
    StreamJob.brokenFrames_events htexts hsizes (by decide +kernel) (by decide +kernel)
    (by decide +kernel) (by decide +kernel) upstream 7 0 request
  rw [hpassed]
  rfl

end RustyGate
