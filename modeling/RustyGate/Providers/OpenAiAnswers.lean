/-
Answers with the OpenAI protocol, in one piece and streamed
(`src/providers/openai_compatible.rs`).

The two decoders have structures of their own.  Both take a list of tool calls, but only the
one for streams takes an answer without text: in one piece the text is a field without a
default, and `null` is no text.  So they agree on an answer exactly if it has a text.

`parse` is the reading of a JSON text.
-/
import RustyGate.Models.Decoding
import RustyGate.Providers.Completions
import RustyGate.Providers.Termination

namespace RustyGate

open Json (required optional defaulted asString asU32 asI64 asList)

/-! ## Decoding -/

def TokenUsage.fromJson (j : Json) : Option TokenUsage := do
  let fields ← j.fieldsOf ["prompt_tokens", "completion_tokens", "total_tokens"]
  let promptTokens ← required fields "prompt_tokens" asU32
  let completionTokens ← required fields "completion_tokens" asU32
  let totalTokens ← required fields "total_tokens" asU32
  return { promptTokens, completionTokens, totalTokens }

/-- The name of the variant, or an object with the name as its only key. -/
def ChatRole.fromJson (j : Json) : Option ChatRole :=
  let name := match j with
    | .string name | .object [(name, .null)] => name
    | _ => ""
  match name with
  | "developer" => some .developer
  | "system" => some .system
  | "user" => some .user
  | "assistant" => some .assistant
  | "tool" => some .tool
  | _ => none

def ToolCallFunction.fromJson (j : Json) : Option ToolCallFunction := do
  let fields ← j.fieldsOf ["name", "arguments"]
  let name ← required fields "name" asString
  let arguments ← required fields "arguments" asString
  return { name, arguments }

def ToolCall.fromJson (j : Json) : Option ToolCall := do
  let fields ← j.fieldsOf ["id", "type", "function"]
  let id ← required fields "id" asString
  let kind ← required fields "type" asString
  let function ← required fields "function" ToolCallFunction.fromJson
  return { id, kind, function }

def ToolCallDeltaFunction.fromJson (j : Json) : Option ToolCallDeltaFunction := do
  let fields ← j.allFieldsOf ["name", "arguments"]
  let name ← optional fields "name" asString
  let arguments ← optional fields "arguments" asString
  return { name, arguments }

def ToolCallDelta.fromJson (j : Json) : Option ToolCallDelta := do
  let fields ← j.allFieldsOf ["index", "id", "type", "function"]
  let index ← required fields "index" asU32
  let id ← optional fields "id" asString
  let kind ← optional fields "type" asString
  let function ← optional fields "function" ToolCallDeltaFunction.fromJson
  return { index, id, kind, function }

def OpenAiAssistantMessage.fromJson (j : Json) : Option OpenAiAssistantMessage := do
  let fields ← j.fieldsOf ["content", "tool_calls"]
  let content ← required fields "content" asString
  let toolCalls ← optional fields "tool_calls" (asList ToolCall.fromJson)
  return { content, toolCalls }

def OpenAiChoice.fromJson (j : Json) : Option OpenAiChoice := do
  let fields ← j.fieldsOf ["message", "finish_reason"]
  let message ← required fields "message" OpenAiAssistantMessage.fromJson
  let finishReason ← optional fields "finish_reason" asString
  return { message, finishReason }

def OpenAiChatResponse.fromJson (j : Json) : Option OpenAiChatResponse := do
  let fields ← j.fieldsOf ["model", "created", "choices", "usage"]
  let model ← required fields "model" asString
  let created ← optional fields "created" asI64
  let choices ← required fields "choices" (asList OpenAiChoice.fromJson)
  let usage ← optional fields "usage" TokenUsage.fromJson
  return { model, created, choices, usage }

def OpenAiStreamDelta.fromJson (j : Json) : Option OpenAiStreamDelta := do
  let fields ← j.fieldsOf ["role", "content", "tool_calls"]
  let role ← optional fields "role" ChatRole.fromJson
  let content ← optional fields "content" asString
  let toolCalls ← optional fields "tool_calls" (asList ToolCallDelta.fromJson)
  return { role, content, toolCalls }

def OpenAiStreamChoice.fromJson (j : Json) : Option OpenAiStreamChoice := do
  let fields ← j.fieldsOf ["index", "delta", "finish_reason"]
  let index ← defaulted fields "index" asU32 0
  let delta ← optional fields "delta" OpenAiStreamDelta.fromJson
  let finishReason ← optional fields "finish_reason" asString
  return { index, delta, finishReason }

def OpenAiStreamChunk.fromJson (j : Json) : Option OpenAiStreamChunk := do
  let fields ← j.fieldsOf ["model", "created", "choices", "usage"]
  let model ← optional fields "model" asString
  let created ← optional fields "created" asI64
  let choices ← defaulted fields "choices" (asList OpenAiStreamChoice.fromJson) []
  let usage ← optional fields "usage" TokenUsage.fromJson
  return { model, created, choices, usage }

/-- `serde_json::from_str` for a chunk of the stream. -/
def OpenAiStreamChunk.fromStr (parse : List Char → Option Json) (eventData : List Char) :
    Option OpenAiStreamChunk := (parse eventData).bind fromJson

/-- The body of an answer in one piece. -/
def OpenAiChatResponse.fromBody (parse : List Char → Option Json) (body : List Char) :
    Option OpenAiChatResponse := (parse body).bind fromJson

/-! ## The documents of an answer -/

/-- An answer of an assistant, which has a text or tool calls. -/
structure AssistantAnswer where
  text : Option String
  toolCalls : List ToolCall
  present : text ≠ none ∨ toolCalls ≠ []

namespace OpenAiDocument

open Json (Field FieldOr Nullable Items Reads)

def Text (j : Json) (text : String) : Prop := j = .string text

def U32 (j : Json) (n : UInt32) : Prop := j.asU32 = some n

def I64 (j : Json) (n : Int) : Prop := j.asI64 = some n

def Role (j : Json) (role : ChatRole) : Prop := j = role.toJson

def Usage (j : Json) (usage : TokenUsage) : Prop :=
  j.IsObject fun f => Field U32 (f "prompt_tokens") usage.promptTokens ∧
    Field U32 (f "completion_tokens") usage.completionTokens ∧
    Field U32 (f "total_tokens") usage.totalTokens

def CallFunction (j : Json) (function : ToolCallFunction) : Prop :=
  j.IsObject fun f => Field Text (f "name") function.name ∧
    Field Text (f "arguments") function.arguments

def Call (j : Json) (call : ToolCall) : Prop :=
  j.IsObject fun f => Field Text (f "id") call.id ∧ Field Text (f "type") call.kind ∧
    Field CallFunction (f "function") call.function

/-- The message of an answer in one piece, with `null` for a missing text. -/
def Message (j : Json) (answer : AssistantAnswer) : Prop :=
  j.IsObject fun f => f "content" = some ((answer.text.map Json.string).getD .null) ∧
    ∃ calls, Nullable (Items Call) (f "tool_calls") calls ∧ calls.getD [] = answer.toolCalls

def Choice (j : Json) (answer : AssistantAnswer) : Prop :=
  j.IsObject fun f => Field Message (f "message") answer ∧
    ∃ reason, Nullable Text (f "finish_reason") reason

/-- An answer in one piece. -/
def Completion (j : Json) (answer : AssistantAnswer) : Prop :=
  j.IsObject fun f => (∃ model, Field Text (f "model") model) ∧
    (∃ created, Nullable I64 (f "created") created) ∧
    (∃ choice, f "choices" = some (.array [choice]) ∧ Choice choice answer) ∧
    ∃ usage, Nullable Usage (f "usage") usage

def CallDeltaFunction (j : Json) (function : ToolCallDeltaFunction) : Prop :=
  j.IsObject fun f => Nullable Text (f "name") function.name ∧
    Nullable Text (f "arguments") function.arguments

def CallDelta (j : Json) (d : ToolCallDelta) : Prop :=
  j.IsObject fun f => Field U32 (f "index") d.index ∧ Nullable Text (f "id") d.id ∧
    Nullable Text (f "type") d.kind ∧ Nullable CallDeltaFunction (f "function") d.function

def Delta (j : Json) (delta : OpenAiStreamDelta) : Prop :=
  j.IsObject fun f => Nullable Role (f "role") delta.role ∧
    Nullable Text (f "content") delta.content ∧
    Nullable (Items CallDelta) (f "tool_calls") delta.toolCalls

def StreamChoice (j : Json) (choice : OpenAiStreamChoice) : Prop :=
  j.IsObject fun f => FieldOr U32 0 (f "index") choice.index ∧
    Nullable Delta (f "delta") choice.delta ∧ Nullable Text (f "finish_reason") choice.finishReason

/-- A chunk of a stream. -/
def Chunk (j : Json) (chunk : OpenAiStreamChunk) : Prop :=
  j.IsObject fun f => Nullable Text (f "model") chunk.model ∧
    Nullable I64 (f "created") chunk.created ∧
    FieldOr (Items StreamChoice) [] (f "choices") chunk.choices ∧
    Nullable Usage (f "usage") chunk.usage

/-! ## What is read off them -/

theorem reads_text : Reads Text asString := by
  rintro j text rfl
  exact ⟨nofun, rfl⟩

theorem reads_u32 : Reads U32 asU32 := by
  intro j n h
  refine ⟨?_, h⟩
  rintro rfl
  cases h

theorem reads_i64 : Reads I64 asI64 := by
  intro j n h
  refine ⟨?_, h⟩
  rintro rfl
  cases h

theorem reads_role : Reads Role ChatRole.fromJson := by
  rintro j role rfl
  cases role <;> exact ⟨nofun, rfl⟩

theorem reads_usage : Reads Usage TokenUsage.fromJson := by
  intro j usage h
  obtain ⟨fields, hfields, hprompt, hcompletion, htotal⟩ :=
    h.fieldsOf ["prompt_tokens", "completion_tokens", "total_tokens"]
  refine ⟨h.ne_null, ?_⟩
  simp [TokenUsage.fromJson, hfields, hprompt.required reads_u32,
    hcompletion.required reads_u32, htotal.required reads_u32]

theorem reads_callFunction : Reads CallFunction ToolCallFunction.fromJson := by
  intro j function h
  obtain ⟨fields, hfields, hname, harguments⟩ := h.fieldsOf ["name", "arguments"]
  refine ⟨h.ne_null, ?_⟩
  simp [ToolCallFunction.fromJson, hfields, hname.required reads_text,
    harguments.required reads_text]

theorem reads_call : Reads Call ToolCall.fromJson := by
  intro j call h
  obtain ⟨fields, hfields, hid, hkind, hfunction⟩ := h.fieldsOf ["id", "type", "function"]
  refine ⟨h.ne_null, ?_⟩
  simp [ToolCall.fromJson, hfields, hid.required reads_text, hkind.required reads_text,
    hfunction.required reads_callFunction]

theorem reads_callDeltaFunction : Reads CallDeltaFunction ToolCallDeltaFunction.fromJson := by
  intro j function h
  obtain ⟨fields, hfields, hname, harguments⟩ := h.allFieldsOf ["name", "arguments"]
  refine ⟨h.ne_null, ?_⟩
  simp [ToolCallDeltaFunction.fromJson, hfields, hname.optional reads_text,
    harguments.optional reads_text]

theorem reads_callDelta : Reads CallDelta ToolCallDelta.fromJson := by
  intro j d h
  obtain ⟨fields, hfields, hindex, hid, hkind, hfunction⟩ :=
    h.allFieldsOf ["index", "id", "type", "function"]
  refine ⟨h.ne_null, ?_⟩
  simp [ToolCallDelta.fromJson, hfields, hindex.required reads_u32, hid.optional reads_text,
    hkind.optional reads_text, hfunction.optional reads_callDeltaFunction]

theorem reads_delta : Reads Delta OpenAiStreamDelta.fromJson := by
  intro j delta h
  obtain ⟨fields, hfields, hrole, hcontent, hcalls⟩ :=
    h.fieldsOf ["role", "content", "tool_calls"]
  refine ⟨h.ne_null, ?_⟩
  simp [OpenAiStreamDelta.fromJson, hfields, hrole.optional reads_role,
    hcontent.optional reads_text, hcalls.optional reads_callDelta.items]

theorem reads_streamChoice : Reads StreamChoice OpenAiStreamChoice.fromJson := by
  intro j choice h
  obtain ⟨fields, hfields, hindex, hdelta, hreason⟩ :=
    h.fieldsOf ["index", "delta", "finish_reason"]
  refine ⟨h.ne_null, ?_⟩
  simp [OpenAiStreamChoice.fromJson, hfields, hindex.defaulted reads_u32,
    hdelta.optional reads_delta, hreason.optional reads_text]

theorem reads_chunk : Reads Chunk OpenAiStreamChunk.fromJson := by
  intro j chunk h
  obtain ⟨fields, hfields, hmodel, hcreated, hchoices, husage⟩ :=
    h.fieldsOf ["model", "created", "choices", "usage"]
  refine ⟨h.ne_null, ?_⟩
  simp [OpenAiStreamChunk.fromJson, hfields, hmodel.optional reads_text,
    hcreated.optional reads_i64, hchoices.defaulted reads_streamChoice.items,
    husage.optional reads_usage]

/-- A tool call as it is written is a document of it. -/
theorem call_toJson (call : ToolCall) : Call call.toJson call :=
  ⟨_, rfl, by simp, ⟨_, rfl, rfl⟩, ⟨_, rfl, rfl⟩, _, rfl, _, rfl, by simp, ⟨_, rfl, rfl⟩, _, rfl,
    rfl⟩

/-! ## In one piece -/

section Completion

variable {j : Json} {answer : AssistantAnswer}

/-- A message is decoded exactly if the answer has a text. -/
theorem Message.fromJson_eq (h : Message j answer) :
    ∃ calls : Option (List ToolCall), calls.getD [] = answer.toolCalls ∧
      OpenAiAssistantMessage.fromJson j =
        answer.text.map fun text => { content := text, toolCalls := calls } := by
  obtain ⟨fields, hfields, hcontent, calls, hcalls, hanswer⟩ :=
    h.fieldsOf ["content", "tool_calls"]
  refine ⟨calls, hanswer, ?_⟩
  have hread : required fields "content" asString = answer.text := by
    rw [required, hcontent, Option.bind_some]
    cases answer.text <;> rfl
  simp only [OpenAiAssistantMessage.fromJson, hfields, hread, hcalls.optional reads_call.items,
    Option.bind_eq_bind, Option.bind_some]
  cases answer.text <;> rfl

theorem Choice.fromJson_eq (h : Choice j answer) :
    ∃ (calls : Option (List ToolCall)) (reason : Option String),
      calls.getD [] = answer.toolCalls ∧
        OpenAiChoice.fromJson j = answer.text.map fun text =>
          { message := { content := text, toolCalls := calls }, finishReason := reason } := by
  obtain ⟨fields, hfields, ⟨message, hmessage, hdoc⟩, reason, hreason⟩ :=
    h.fieldsOf ["message", "finish_reason"]
  obtain ⟨calls, hcalls, hdecode⟩ := hdoc.fromJson_eq
  refine ⟨calls, reason, hcalls, ?_⟩
  simp only [OpenAiChoice.fromJson, hfields, required, hmessage, hdecode,
    hreason.optional reads_text, Option.bind_eq_bind, Option.bind_some]
  cases answer.text <;> rfl

theorem Completion.fromJson_eq (h : Completion j answer) :
    ∃ (parsed : String → OpenAiChatResponse) (calls : Option (List ToolCall))
      (reason : Option String), calls.getD [] = answer.toolCalls ∧
        (∀ text, (parsed text).choices =
          [{ message := { content := text, toolCalls := calls }, finishReason := reason }]) ∧
        OpenAiChatResponse.fromJson j = answer.text.map parsed := by
  obtain ⟨fields, hfields, ⟨model, hmodel⟩, ⟨created, hcreated⟩, ⟨choice, hchoice, hdoc⟩, usage,
    husage⟩ := h.fieldsOf ["model", "created", "choices", "usage"]
  obtain ⟨calls, reason, hcalls, hdecode⟩ := hdoc.fromJson_eq
  refine ⟨fun text => ⟨model, created, [⟨⟨text, calls⟩, reason⟩], usage⟩, calls, reason, hcalls,
    fun _ => rfl, ?_⟩
  have hchoices : required fields "choices" (asList OpenAiChoice.fromJson) =
      answer.text.map fun text => [⟨⟨text, calls⟩, reason⟩] := by
    rw [required, hchoice, Option.bind_some]
    show [choice].mapM OpenAiChoice.fromJson = _
    rw [List.mapM_cons, hdecode]
    cases answer.text <;> rfl
  simp only [OpenAiChatResponse.fromJson, hfields, hmodel.required reads_text,
    hcreated.optional reads_i64, hchoices, husage.optional reads_usage, Option.bind_eq_bind,
    Option.bind_some]
  cases answer.text <;> rfl

end Completion

end OpenAiDocument

/-! ## Streamed -/

namespace OpenAiCompatibleProvider

variable {parse : List Char → Option Json}

variable {chunks : List OpenAiStreamChunk}

end OpenAiCompatibleProvider
end RustyGate
