/-
How `serde` reads and writes the requests and answers of the chat route
(`src/models/chat.rs`).

The decoders are those that the derive macro makes of the structures.  Every structure but a
request is read back from what is written of it.  A request is, if its documents are read again
as they are (`HasValues`) and its temperature has a text.  Of a request that has been read, that
only takes numbers that are printed as they stand (`ChatCompletionRequest.HasValues.reads`).

`readF32` and `formatF32` are how `serde_json` reads and writes an `f32`.
-/
import RustyGate.Models.Records
import RustyGate.Providers.OpenAiAnswers
import RustyGate.Providers.Outbound

namespace RustyGate

open Json (required optional asString asBool asU32 asI64 asList asNumber asValue
  keys_optionalField)

/-! ## Reading -/

def ChatMessage.fromJson (j : Json) : Option ChatMessage := do
  let fields ← j.allFieldsOf ["role", "content", "tool_calls", "tool_call_id"]
  let role ← required fields "role" ChatRole.fromJson
  let content ← required fields "content" asString
  let toolCalls ← optional fields "tool_calls" (asList ToolCall.fromJson)
  let toolCallId ← optional fields "tool_call_id" asString
  return { role, content, toolCalls, toolCallId }

def ToolChoiceMode.fromJson (j : Json) : Option ToolChoiceMode :=
  let name := match j with
    | .string name | .object [(name, .null)] => name
    | _ => ""
  match name with
  | "auto" => some .auto
  | "none" => some .none
  | "required" => some .required
  | _ => Option.none

/-- The name in a `ToolChoiceFunction`. -/
def ToolChoiceFunction.fromJson (j : Json) : Option String := do
  let fields ← j.allFieldsOf ["name"]
  required fields "name" asString

/-- The second variant, which is an object and no array. -/
def ToolChoice.functionFromJson : Json → Option ToolChoice
  | .object entries => do
      let fields ← (Json.object entries).fieldsOf ["type", "function"]
      let kind ← required fields "type" asString
      let name ← required fields "function" ToolChoiceFunction.fromJson
      return .function kind name
  | _ => none

/-- The variants are tried in their order. -/
def ToolChoice.fromJson (j : Json) : Option ToolChoice :=
  ((ToolChoiceMode.fromJson j).map .mode).or (functionFromJson j)

section Requests

variable (format : Json.NumberFormat) (readF32 : String → Option F32)

def ToolFunction.fromJson (j : Json) : Option ToolFunction := do
  let fields ← j.allFieldsOf ["name", "description", "parameters", "strict"]
  let name ← required fields "name" asString
  let description ← optional fields "description" asString
  let parameters ← required fields "parameters" (asValue format)
  let strict ← optional fields "strict" asBool
  return { name, description, parameters, strict }

def Tool.fromJson (j : Json) : Option Tool := do
  let fields ← j.allFieldsOf ["type", "function"]
  let kind ← required fields "type" asString
  let function ← required fields "function" (ToolFunction.fromJson format)
  return { kind, function }

def ChatCompletionRequest.fieldNames : List String :=
  ["model", "messages", "temperature", "max_tokens", "stream", "tools", "tool_choice",
    "parallel_tool_calls", "response_format"]

def ChatCompletionRequest.fromJson (j : Json) : Option ChatCompletionRequest := do
  let fields ← j.leadingFieldsOf 5 fieldNames
  let model ← optional fields "model" asString
  let messages ← required fields "messages" (asList ChatMessage.fromJson)
  let temperature ← optional fields "temperature" (asNumber readF32)
  let maxTokens ← optional fields "max_tokens" asU32
  let stream ← optional fields "stream" asBool
  let tools ← optional fields "tools" (asList (Tool.fromJson format))
  let toolChoice ← optional fields "tool_choice" ToolChoice.fromJson
  let parallelToolCalls ← optional fields "parallel_tool_calls" asBool
  let responseFormat ← optional fields "response_format" (asValue format)
  return {
    model, messages, temperature, maxTokens, stream, tools, toolChoice, parallelToolCalls,
    responseFormat }

/-- The body of a request as the chat route reads it. -/
def ChatCompletionRequest.fromBody (body : List UInt8) : Option ChatCompletionRequest :=
  (Json.fromSlice body).bind (fromJson format readF32)

end Requests

def ChatChoice.fromJson (j : Json) : Option ChatChoice := do
  let fields ← j.allFieldsOf ["index", "message", "finish_reason"]
  let index ← required fields "index" asU32
  let message ← required fields "message" ChatMessage.fromJson
  let finishReason ← required fields "finish_reason" asString
  return { index, message, finishReason }

def ChatCompletionResponse.fromJson (j : Json) : Option ChatCompletionResponse := do
  let fields ← j.allFieldsOf ["id", "object", "created", "model", "provider", "choices", "usage"]
  let id ← required fields "id" asString
  let object ← required fields "object" asString
  let created ← required fields "created" asI64
  let model ← required fields "model" asString
  let provider ← required fields "provider" asString
  let choices ← required fields "choices" (asList ChatChoice.fromJson)
  let usage ← required fields "usage" TokenUsage.fromJson
  return { id, object, created, model, provider, choices, usage }

/-! ## Writing -/

def TokenUsage.toJson (usage : TokenUsage) : Json :=
  .object [
    ("prompt_tokens", .number (toString usage.promptTokens.toNat)),
    ("completion_tokens", .number (toString usage.completionTokens.toNat)),
    ("total_tokens", .number (toString usage.totalTokens.toNat))]

def ChatChoice.toJson (choice : ChatChoice) : Json :=
  .object [
    ("index", .number (toString choice.index.toNat)),
    ("message", choice.message.toJson),
    ("finish_reason", .string choice.finishReason)]

def ChatCompletionResponse.toJson (response : ChatCompletionResponse) : Json :=
  .object [
    ("id", .string response.id),
    ("object", .string response.object),
    ("created", .number (toString response.created)),
    ("model", .string response.model),
    ("provider", .string response.provider),
    ("choices", .array (response.choices.map ChatChoice.toJson)),
    ("usage", response.usage.toJson)]

def ToolCallDeltaFunction.toJson (function : ToolCallDeltaFunction) : Json :=
  .object (Json.optionalField "name" .string function.name ++
    Json.optionalField "arguments" .string function.arguments)

def ToolCallDelta.toJson (d : ToolCallDelta) : Json :=
  .object ([("index", .number (toString d.index.toNat))] ++
    Json.optionalField "id" .string d.id ++
    Json.optionalField "type" .string d.kind ++
    Json.optionalField "function" ToolCallDeltaFunction.toJson d.function)

def ChatDelta.toJson (delta : ChatDelta) : Json :=
  .object (Json.optionalField "role" ChatRole.toJson delta.role ++
    Json.optionalField "content" .string delta.content ++
    Json.optionalField "tool_calls" (fun calls => .array (calls.map ToolCallDelta.toJson))
      delta.toolCalls)

def ChatChunkChoice.toJson (choice : ChatChunkChoice) : Json :=
  .object ([("index", .number (toString choice.index.toNat)), ("delta", choice.delta.toJson)] ++
    Json.optionalField "finish_reason" .string choice.finishReason)

def ChatCompletionChunkResponse.toJson (chunk : ChatCompletionChunkResponse) : Json :=
  .object [
    ("id", .string chunk.id),
    ("object", .string chunk.object),
    ("created", .number (toString chunk.created)),
    ("model", .string chunk.model),
    ("provider", .string chunk.provider),
    ("choices", .array (chunk.choices.map ChatChunkChoice.toJson))]

/-! ## What is written is read back -/

theorem ChatRole.fromJson_toJson (role : ChatRole) : fromJson role.toJson = some role := by
  cases role <;> rfl

theorem ToolCall.fromJson_toJson (call : ToolCall) : fromJson call.toJson = some call :=
  (OpenAiDocument.reads_call _ _ (OpenAiDocument.call_toJson call)).2

theorem ToolCall.asList_toJson (calls : List ToolCall) :
    asList fromJson (.array (calls.map toJson)) = some calls :=
  Json.asList_map fun call _ => fromJson_toJson call

/-- The fields of an object that is read as the message. -/
structure ChatMessage.SpelledBy (message : ChatMessage) (f : String → Option Json) : Prop where
  role : f "role" = some message.role.toJson
  content : f "content" = some (.string message.content)
  toolCalls : Json.Spells (fun calls => .array (calls.map ToolCall.toJson)) (f "tool_calls")
    message.toolCalls
  toolCallId : Json.Spells .string (f "tool_call_id") message.toolCallId

theorem ChatMessage.isObject_toJson (message : ChatMessage) :
    message.toJson.IsObject message.SpelledBy := by
  refine ⟨_, rfl, ?_, ?_⟩
  · simp only [List.map_append, List.map_cons, List.map_nil]
    exact List.Nodup.sublist (((List.Sublist.refl ["role", "content"]).append
      keys_optionalField).append keys_optionalField) (by decide)
  · refine ⟨?_, ?_, Or.inl ?_, Or.inl ?_⟩ <;> simp [List.lookup_append, List.lookup_cons]

variable {j : Json}

theorem ChatMessage.fromJson_of_isObject {message : ChatMessage} (h : j.IsObject message.SpelledBy)
   : fromJson j = some message := by
  obtain ⟨fields, hfields, h⟩ := h.allFieldsOf ["role", "content", "tool_calls", "tool_call_id"]
  have hcalls := h.toolCalls.optional fun calls _ => ⟨by simp, ToolCall.asList_toJson calls⟩
  simp [fromJson, hfields, Json.required_some h.role message.role.fromJson_toJson,
    Json.required_string h.content, hcalls, h.toolCallId.string]

theorem ChatMessage.fromJson_toJson (message : ChatMessage) :
    fromJson message.toJson = some message :=
  fromJson_of_isObject message.isObject_toJson

theorem ToolChoice.fromJson_toJson (choice : ToolChoice) :
    fromJson choice.toJson = some choice := by
  cases choice with
  | mode m => cases m <;> rfl
  | function kind name => rfl

theorem TokenUsage.fromJson_toJson (usage : TokenUsage) : fromJson usage.toJson = some usage := by
  have hsays : OpenAiDocument.Usage usage.toJson usage :=
    ⟨_, rfl, by simp, ⟨_, rfl, Json.asU32_toString _⟩, ⟨_, rfl, Json.asU32_toString _⟩,
      ⟨_, rfl, Json.asU32_toString _⟩⟩
  exact (OpenAiDocument.reads_usage _ _ hsays).2

theorem ChatChoice.isObject_toJson (choice : ChatChoice) : choice.toJson.IsObject fun f =>
    f "index" = some (.number (toString choice.index.toNat)) ∧
      f "message" = some choice.message.toJson ∧
      f "finish_reason" = some (.string choice.finishReason) :=
  ⟨_, rfl, by simp, rfl, rfl, rfl⟩

theorem ChatChoice.fromJson_toJson (choice : ChatChoice) :
    fromJson choice.toJson = some choice := by
  obtain ⟨fields, hfields, hindex, hmessage, hreason⟩ :=
    choice.isObject_toJson.allFieldsOf ["index", "message", "finish_reason"]
  simp [fromJson, hfields, Json.required_some hindex (Json.asU32_toString _),
    Json.required_some hmessage choice.message.fromJson_toJson, Json.required_string hreason]

theorem ChatCompletionResponse.isObject_toJson (response : ChatCompletionResponse) :
    response.toJson.IsObject fun f =>
      f "id" = some (.string response.id) ∧ f "object" = some (.string response.object) ∧
        f "created" = some (.number (toString response.created)) ∧
        f "model" = some (.string response.model) ∧
        f "provider" = some (.string response.provider) ∧
        f "choices" = some (.array (response.choices.map ChatChoice.toJson)) ∧
        f "usage" = some response.usage.toJson :=
  ⟨_, rfl, by simp, rfl, rfl, rfl, rfl, rfl, rfl, rfl⟩

theorem ChatCompletionResponse.fromJson_toJson {response : ChatCompletionResponse}
    (h : Json.IsI64 response.created) : fromJson response.toJson = some response := by
  obtain ⟨fields, hfields, hid, hobject, hcreated, hmodel, hprovider, hchoices, husage⟩ :=
    response.isObject_toJson.allFieldsOf
      ["id", "object", "created", "model", "provider", "choices", "usage"]
  simp [fromJson, hfields, Json.required_string hid, Json.required_string hobject,
    Json.required_string hmodel, Json.required_string hprovider,
    Json.required_some hcreated (Json.asI64_toString h),
    Json.required_some hchoices (Json.asList_map fun choice _ => choice.fromJson_toJson),
    Json.required_some husage response.usage.fromJson_toJson]

/-! ## Requests -/

section Requests

variable {format : Json.NumberFormat} {readF32 : String → Option F32} {formatF32 : F32 → String}

theorem ToolFunction.isObject_toJson (function : ToolFunction) : function.toJson.IsObject fun f =>
    f "name" = some (.string function.name) ∧
      Json.Spells .string (f "description") function.description ∧
      f "parameters" = some function.parameters ∧
      Json.Spells .bool (f "strict") function.strict := by
  refine ⟨_, rfl, ?_, ?_⟩
  · simp only [List.map_append, List.map_cons, List.map_nil]
    exact List.Nodup.sublist ((((List.Sublist.refl ["name"]).append
      keys_optionalField).append (List.Sublist.refl ["parameters"])).append
        keys_optionalField) (by decide)
  · refine ⟨?_, Or.inl ?_, ?_, Or.inl ?_⟩ <;> simp [List.lookup_append, List.lookup_cons]

theorem ToolFunction.fromJson_toJson {function : ToolFunction}
    (h : asValue format function.parameters = some function.parameters) :
    fromJson format function.toJson = some function := by
  obtain ⟨fields, hfields, hname, hdescription, hparameters, hstrict⟩ :=
    function.isObject_toJson.allFieldsOf ["name", "description", "parameters", "strict"]
  simp [fromJson, hfields, Json.required_string hname, hdescription.string,
    Json.required_some hparameters h, hstrict.bool]

theorem Tool.isObject_toJson (tool : Tool) : tool.toJson.IsObject fun f =>
    f "type" = some (.string tool.kind) ∧ f "function" = some tool.function.toJson :=
  ⟨_, rfl, by simp, rfl, rfl⟩

theorem Tool.fromJson_toJson {tool : Tool}
    (h : asValue format tool.function.parameters = some tool.function.parameters) :
    fromJson format tool.toJson = some tool := by
  obtain ⟨fields, hfields, hkind, hfunction⟩ :=
    tool.isObject_toJson.allFieldsOf ["type", "function"]
  simp [fromJson, hfields, Json.required_string hkind,
    Json.required_some hfunction (ToolFunction.fromJson_toJson h)]

/-- A document that is read as it is, at a place that leaves room for `n` containers. -/
structure IsValue (format : Json.NumberFormat) (n : Nat) (j : Json) : Prop where
  value : asValue format j = some j
  readable : j.Readable n

/-- The temperature has a text from which it is read back. -/
structure HasText (readF32 : String → Option F32) (formatF32 : F32 → String) (t : F32) :
    Prop where
  isNumber : Json.IsNumber (formatF32 t).toList
  read : readF32 (formatF32 t) = some t

/-- The documents in a request are read as they are.  The parameters of a tool are in four
containers. -/
structure ChatCompletionRequest.HasValues (format : Json.NumberFormat)
    (request : ChatCompletionRequest) : Prop where
  tools : ∀ tools, request.tools = some tools → ∀ tool ∈ tools,
    IsValue format (Json.maxDepth - 4) tool.function.parameters
  responseFormat : ∀ document, request.responseFormat = some document →
    document ≠ .null ∧ IsValue format (Json.maxDepth - 1) document

/-- The numbers in the documents of a request. -/
def ChatCompletionRequest.numbers (request : ChatCompletionRequest) : List String :=
  (request.tools.getD []).flatMap (fun tool => tool.function.parameters.numbers) ++
    request.responseFormat.elim [] Json.numbers

/-- What is read of a request that is sent out. -/
def OpenAiChatRequest.asRequest (out : OpenAiChatRequest) : ChatCompletionRequest where
  model := some out.model
  messages := out.messages
  temperature := out.temperature
  maxTokens := out.maxTokens
  stream := out.stream
  tools := out.tools
  toolChoice := out.toolChoice
  parallelToolCalls := out.parallelToolCalls
  responseFormat := out.responseFormat

theorem ToolChoice.toJson_ne_null (choice : ToolChoice) : choice.toJson ≠ .null := by
  cases choice with
  | mode m => cases m <;> simp [toJson, ToolChoiceMode.toJson]
  | function kind name => simp [toJson]

/-- The fields of an object that is read as the request. -/
structure ChatCompletionRequest.SpelledBy (formatF32 : F32 → String)
    (request : ChatCompletionRequest) (f : String → Option Json) : Prop where
  model : Json.Spells .string (f "model") request.model
  messages : required f "messages" (asList ChatMessage.fromJson) = some request.messages
  temperature : Json.Spells (fun t => .number (formatF32 t)) (f "temperature")
    request.temperature
  maxTokens : Json.Spells (fun n => .number (toString n.toNat)) (f "max_tokens")
    request.maxTokens
  stream : Json.Spells .bool (f "stream") request.stream
  tools : Json.Spells (fun tools => .array (tools.map Tool.toJson)) (f "tools") request.tools
  toolChoice : Json.Spells ToolChoice.toJson (f "tool_choice") request.toolChoice
  parallelToolCalls : Json.Spells .bool (f "parallel_tool_calls") request.parallelToolCalls
  responseFormat : Json.Spells id (f "response_format") request.responseFormat

variable {request : ChatCompletionRequest}

theorem ChatCompletionRequest.fromJson_of_isObject (h : j.IsObject (request.SpelledBy formatF32))
    (hvalues : request.HasValues format)
    (htext : ∀ t, request.temperature = some t → HasText readF32 formatF32 t) :
    fromJson format readF32 j = some request := by
  obtain ⟨fields, hfields, h⟩ := h.leadingFieldsOf 5 fieldNames
  have htemperature : optional fields "temperature" (asNumber readF32) =
      some request.temperature :=
    h.temperature.optional fun t ht => ⟨by simp, (htext t ht).read⟩
  have hmaxTokens := h.maxTokens.optional fun n _ => ⟨by simp, Json.asU32_toString n⟩
  have htools := h.tools.optional fun tools ht => ⟨by simp, Json.asList_map fun tool htool =>
    Tool.fromJson_toJson (hvalues.tools tools ht tool htool).value⟩
  have hchoice := h.toolChoice.optional
    fun choice _ => ⟨choice.toJson_ne_null, choice.fromJson_toJson⟩
  have hformat := h.responseFormat.optional fun document hdocument =>
    ⟨(hvalues.responseFormat document hdocument).1,
      (hvalues.responseFormat document hdocument).2.value⟩
  simp [fromJson, hfields, h.model.string, h.messages, htemperature, hmaxTokens, h.stream.bool,
    htools, hchoice, h.parallelToolCalls.bool, hformat]

theorem OpenAiChatRequest.isObject_toJson (out : OpenAiChatRequest) :
    (out.toJson formatF32).IsObject (out.asRequest.SpelledBy formatF32) := by
  have hmessages := Json.asList_map fun message (_ : message ∈ out.messages) =>
    message.fromJson_toJson
  refine ⟨_, rfl, ?_, ?_⟩
  · simp only [List.map_append, List.map_cons, List.map_nil]
    exact List.Nodup.sublist ((List.Sublist.refl ["model", "messages"]).append
      (keys_optionalField.append (((((keys_optionalField.append keys_optionalField).append
        keys_optionalField).append keys_optionalField).append keys_optionalField).append
          keys_optionalField))) (by decide)
  · refine ⟨Or.inl rfl, Json.required_some rfl hmessages, Or.inl ?_, Or.inl ?_, Or.inl ?_,
      Or.inl ?_, Or.inl ?_, Or.inl ?_, Or.inl ?_⟩ <;>
        simp [List.lookup_append, List.lookup_cons, asRequest]

/-! ## What is written can be read -/

section Readable

variable {n : Nat}

@[simp] theorem ToolCall.readable_toJson (call : ToolCall) : call.toJson.Readable (n + 2) := by
  simp [toJson]

@[simp] theorem ChatRole.readable_toJson (role : ChatRole) : role.toJson.Readable n := by
  cases role <;> exact Json.readable_string _

@[simp] theorem ChatMessage.readable_toJson (message : ChatMessage) :
    message.toJson.Readable (n + 4) := by
  simp [toJson]

@[simp] theorem TokenUsage.readable_toJson (usage : TokenUsage) :
    usage.toJson.Readable (n + 1) := by
  simp [toJson]

theorem ChatCompletionResponse.readable_toJson (response : ChatCompletionResponse) :
    response.toJson.Readable (n + 7) := by
  simp [toJson, ChatChoice.toJson]

@[simp] theorem ToolCallDelta.readable_toJson (d : ToolCallDelta) :
    d.toJson.Readable (n + 2) := by
  simp [toJson, ToolCallDeltaFunction.toJson]

@[simp] theorem ChatDelta.readable_toJson (delta : ChatDelta) : delta.toJson.Readable (n + 4) := by
  simp [toJson]

theorem ChatCompletionChunkResponse.readable_toJson (chunk : ChatCompletionChunkResponse) :
    chunk.toJson.Readable (n + 7) := by
  simp [toJson, ChatChunkChoice.toJson]

theorem Tool.readable_toJson {tool : Tool} (h : tool.function.parameters.Readable n) :
    tool.toJson.Readable (n + 2) := by
  simp [toJson, ToolFunction.toJson, h]

@[simp] theorem ToolChoice.readable_toJson (choice : ToolChoice) :
    choice.toJson.Readable (n + 2) := by
  cases choice with
  | mode m => cases m <;> exact Json.readable_string _
  | function kind name => simp [toJson]

end Readable

theorem ChatCompletionRequest.HasValues.readable_tool (hvalues : request.HasValues format) :
    ∀ tools, request.tools = some tools →
      ∀ tool ∈ tools, tool.toJson.Readable (Json.maxDepth - 2) :=
  fun tools ht tool htool => Tool.readable_toJson (hvalues.tools tools ht tool htool).readable

theorem ChatCompletionRequest.HasValues.readable_format (hvalues : request.HasValues format) :
    ∀ document, request.responseFormat = some document →
      document.Readable (Json.maxDepth - 1) :=
  fun document hdocument => (hvalues.responseFormat document hdocument).2.readable

theorem OpenAiChatRequest.readable_toJson {out : OpenAiChatRequest}
    (hvalues : out.asRequest.HasValues format)
    (htext : ∀ t, out.temperature = some t → HasText readF32 formatF32 t) :
    (out.toJson formatF32).Readable Json.maxDepth := by
  have htemperature : ∀ t, out.temperature = some t →
      (Json.number (formatF32 t)).Readable (Json.maxDepth - 1) :=
    fun t ht => Json.readable_number (htext t ht).isNumber
  have hparts := And.intro htemperature (And.intro hvalues.readable_tool hvalues.readable_format)
  simp only [Json.maxDepth, Nat.reduceSub] at hparts ⊢
  simpa [toJson, asRequest] using hparts

theorem OpenAiChatRequest.fromBody_toVec {out : OpenAiChatRequest}
    (hvalues : out.asRequest.HasValues format)
    (htext : ∀ t, out.temperature = some t → HasText readF32 formatF32 t) :
    ChatCompletionRequest.fromBody format readF32 (out.toJson formatF32).toVec =
      some out.asRequest := by
  rw [ChatCompletionRequest.fromBody, Json.fromSlice_toVec (readable_toJson hvalues htext)]
  exact ChatCompletionRequest.fromJson_of_isObject out.isObject_toJson hvalues htext

/-! ## What has been read -/

theorem isValue_of_asValue {n : Nat} {j document : Json} (hj : j.Readable n)
    (h : asValue format j = some document) : IsValue Json.plainNumbers n document :=
  ⟨Json.asValue_asValue h fun _ _ hnumber => if_pos hnumber, Json.readable_asValue h hj.depth⟩

theorem ToolFunction.isValue_of_fromJson {n : Nat} {function : ToolFunction}
    (hj : j.Readable (n + 1)) (h : fromJson format j = some function) :
    IsValue Json.plainNumbers n function.parameters := by
  simp only [fromJson, Option.bind_eq_bind, Option.bind_eq_some_iff, Option.pure_def,
    Option.some.injEq] at h
  obtain ⟨fields, hfields, name, -, description, -, parameters, hparameters, strict, -, rfl⟩ := h
  obtain ⟨document, hdocument, hread⟩ := Json.exists_of_required hparameters
  exact isValue_of_asValue (hj.field (Json.fieldsOf_of_allFieldsOf hfields) hdocument) hread

theorem Tool.isValue_of_fromJson {n : Nat} {tool : Tool} (hj : j.Readable (n + 2))
    (h : fromJson format j = some tool) :
    IsValue Json.plainNumbers n tool.function.parameters := by
  simp only [fromJson, Option.bind_eq_bind, Option.bind_eq_some_iff, Option.pure_def,
    Option.some.injEq] at h
  obtain ⟨fields, hfields, kind, -, function, hfunction, rfl⟩ := h
  obtain ⟨document, hdocument, hread⟩ := Json.exists_of_required hfunction
  exact ToolFunction.isValue_of_fromJson
    (hj.field (Json.fieldsOf_of_allFieldsOf hfields) hdocument) hread

/-- The documents in a request that has been read are values with numbers. -/
theorem ChatCompletionRequest.hasValues_of_fromJson (hj : j.Readable Json.maxDepth)
    (h : fromJson format readF32 j = some request) :
    request.HasValues Json.plainNumbers := by
  simp only [fromJson, Option.bind_eq_bind, Option.bind_eq_some_iff, Option.pure_def,
    Option.some.injEq] at h
  obtain ⟨fields, hfields, model, -, messages, -, temperature, -, maxTokens, -, stream, -, tools,
    htools, choice, -, parallel, -, document, hdocument, rfl⟩ := h
  have hfields := Json.fieldsOf_of_leadingFieldsOf hfields
  constructor
  · rintro tools rfl tool htool
    obtain ⟨value, hvalue, -, hread⟩ := Json.exists_of_optional htools
    obtain ⟨items, rfl, hitems⟩ := Json.exists_of_asList hread
    obtain ⟨item, hitem, hdecode⟩ := hitems tool htool
    have harray := hj.field hfields hvalue
    exact Tool.isValue_of_fromJson (Json.readable_array.mp harray item hitem) hdecode
  · rintro document rfl
    obtain ⟨value, hvalue, hnull, hread⟩ := Json.exists_of_optional hdocument
    exact ⟨Json.asValue_ne_null hnull hread, isValue_of_asValue (hj.field hfields hvalue) hread⟩

theorem ChatCompletionRequest.hasValues_of_fromBody {body : List UInt8}
    (h : fromBody format readF32 body = some request) :
    request.HasValues Json.plainNumbers := by
  obtain ⟨j, hslice, hread⟩ := Option.bind_eq_some_iff.mp h
  exact hasValues_of_fromJson (Json.readable_of_fromSlice hslice) hread

theorem IsValue.reads {n : Nat} {document : Json} (h : IsValue Json.plainNumbers n document)
    (hkept : ∀ text ∈ document.numbers, format.reprint text = some text) :
    IsValue format n document :=
  ⟨Json.asValue_asValue h.value fun text ht _ => hkept text ht, h.readable⟩

theorem ChatCompletionRequest.HasValues.reads (h : request.HasValues Json.plainNumbers)
    (hkept : ∀ text ∈ request.numbers, format.reprint text = some text) :
    request.HasValues format where
  tools := fun tools ht tool htool => (h.tools tools ht tool htool).reads fun text htext => by
    refine hkept text (List.mem_append_left _ (List.mem_flatMap.mpr ⟨tool, ?_, htext⟩))
    rw [ht]
    exact htool
  responseFormat := fun document hdocument => by
    refine (h.responseFormat document hdocument).imp_right (IsValue.reads · fun text htext => ?_)
    refine hkept text (List.mem_append_right _ ?_)
    rw [hdocument]
    exact htext

end Requests

end RustyGate
