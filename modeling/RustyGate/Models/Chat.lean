/-
Chat requests and responses (`src/models/chat.rs`), with the checks a request has to
pass before it is routed.  A Unix time is an integer.
-/
import Mathlib.Data.UInt
import RustyGate.Error
import RustyGate.Models.Json
import Mathlib.Data.Rat.Defs

namespace RustyGate

/-- `request_id.simple()` behind a tag: the OpenAI style of a public identifier. -/
def openaiId (tag : String) (requestId : Uuid) : String :=
  tag ++ "-" ++ String.ofList (Text.hex 32 requestId.toNat)

/-- An `f32`, by its bits. -/
structure F32 where
  bits : UInt32
  deriving DecidableEq, Repr

namespace F32

/-- The default of an `f32`, which is positive zero. -/
def zero : F32 := ⟨0⟩

/-- `x > 0.0`: the sign is clear, and the rest is neither zero nor behind infinity, where
the bits are not a number. -/
def isPositive (x : F32) : Bool := 0 < x.bits && x.bits ≤ 0x7f800000

end F32

inductive ChatRole where
  | developer
  | system
  | user
  | assistant
  | tool
  deriving DecidableEq, Repr

structure ToolCallFunction where
  name : String
  arguments : String
  deriving DecidableEq, Repr

structure ToolCall where
  id : String
  kind : String
  function : ToolCallFunction
  deriving DecidableEq, Repr

structure ChatMessage where
  role : ChatRole
  content : String
  toolCalls : Option (List ToolCall) := none
  toolCallId : Option String := none
  deriving DecidableEq, Repr

structure ToolFunction where
  name : String
  description : Option String
  parameters : Json
  strict : Option Bool

structure Tool where
  kind : String
  function : ToolFunction

inductive ToolChoiceMode where
  | auto
  | none
  | required
  deriving DecidableEq, Repr

inductive ToolChoice where
  | mode (mode : ToolChoiceMode)
  | function (kind : String) (name : String)
  deriving DecidableEq, Repr

structure ChatCompletionRequest where
  model : Option String
  messages : List ChatMessage
  temperature : Option F32 := none
  maxTokens : Option UInt32 := none
  stream : Option Bool := none
  tools : Option (List Tool) := none
  toolChoice : Option ToolChoice := none
  parallelToolCalls : Option Bool := none
  responseFormat : Option Json := none

structure TokenUsage where
  promptTokens : UInt32 := 0
  completionTokens : UInt32 := 0
  totalTokens : UInt32 := 0
  deriving DecidableEq, Repr

structure ChatChoice where
  index : UInt32
  message : ChatMessage
  finishReason : String
  deriving DecidableEq, Repr

structure ChatCompletionResponse where
  id : String
  object : String
  created : Int
  model : String
  provider : String
  choices : List ChatChoice
  usage : TokenUsage
  deriving DecidableEq, Repr

structure ToolCallDeltaFunction where
  name : Option String := none
  arguments : Option String := none
  deriving DecidableEq, Repr

structure ToolCallDelta where
  index : UInt32
  id : Option String := none
  kind : Option String := none
  function : Option ToolCallDeltaFunction := none
  deriving DecidableEq, Repr

structure ChatDelta where
  role : Option ChatRole := none
  content : Option String := none
  toolCalls : Option (List ToolCallDelta) := none
  deriving DecidableEq, Repr

structure ChatChunkChoice where
  index : UInt32
  delta : ChatDelta
  finishReason : Option String := none
  deriving DecidableEq, Repr

structure ChatCompletionChunkResponse where
  id : String
  object : String
  created : Int
  model : String
  provider : String
  choices : List ChatChunkChoice
  deriving DecidableEq, Repr

namespace ChatCompletionChunkResponse

def fromDelta (id : Uuid) (created : Int) (model provider : String) (index : UInt32)
    (delta : ChatDelta) (finishReason : Option String) : ChatCompletionChunkResponse where
  id := openaiId "chatcmpl" id
  object := "chat.completion.chunk"
  created := created
  model := model
  provider := provider
  choices := [{ index, delta, finishReason }]

end ChatCompletionChunkResponse

structure ChatValidationLimits where
  maxMessagesPerRequest : Nat := 64
  maxMessageContentChars : Nat := 8000
  deriving DecidableEq, Repr

namespace ChatCompletionRequest

def streamEnabled (r : ChatCompletionRequest) : Bool := r.stream.getD false

/-- The first complaint about a list of tools. -/
def toolsError : List Tool → Option String
  | [] => none
  | tool :: rest =>
      if tool.kind ≠ "function" ∨ Text.isBlank tool.function.name then
        some "each tool must be a named function tool"
      else if 8192 < tool.function.parameters.toText.utf8ByteSize then
        some "tool parameter schemas must be at most 8192 bytes"
      else toolsError rest

/-- The complaint about a selector of one function among `tools`. -/
def toolChoiceError (tools : List Tool) : ToolChoice → Option String
  | .mode _ => none
  | .function kind name =>
      if kind ≠ "function" then
        some "tool_choice function selectors must use type `function`"
      else if tools.any fun tool => tool.function.name == name then none
      else some ("tool_choice references undefined tool `" ++ name ++ "`")

/-- The message of the first check the request fails, in the order of the source. -/
def validationError (r : ChatCompletionRequest) (limits : ChatValidationLimits) :
    Option String :=
  if Text.isBlank (r.model.getD "") then some "model must be provided"
  else if r.messages.isEmpty then some "messages must contain at least one item"
  else if limits.maxMessagesPerRequest < r.messages.length then
    some ("messages must contain at most " ++ toString limits.maxMessagesPerRequest ++ " items")
  else if r.messages.any fun m => Text.isBlank m.content then
    some "message content must not be empty"
  else if r.messages.any fun m => limits.maxMessageContentChars < m.content.length then
    some ("message content must be at most " ++ toString limits.maxMessageContentChars ++
      " characters")
  else if 128 < (r.tools.getD []).length then some "tools must contain at most 128 entries"
  else (toolsError (r.tools.getD [])).or
    (r.toolChoice.bind (toolChoiceError (r.tools.getD [])))

def validate (r : ChatCompletionRequest) (requestId : Option Uuid)
    (limits : ChatValidationLimits) : Except AppError Unit :=
  match r.validationError limits with
  | none => .ok ()
  | some message => .error (.invalidRequest message requestId)

theorem validate_eq_ok_iff (r : ChatCompletionRequest) (requestId : Option Uuid)
    (limits : ChatValidationLimits) :
    r.validate requestId limits = .ok () ↔ r.validationError limits = none := by
  unfold validate
  cases r.validationError limits <;> simp

/-- A request is accepted if it passes each of the checks. -/
structure Accepted (r : ChatCompletionRequest) (limits : ChatValidationLimits) : Prop where
  model : Text.isBlank (r.model.getD "") = false
  messages : r.messages ≠ []
  count : r.messages.length ≤ limits.maxMessagesPerRequest
  content : ∀ m ∈ r.messages, Text.isBlank m.content = false
  length : ∀ m ∈ r.messages, m.content.length ≤ limits.maxMessageContentChars
  tools : (r.tools.getD []).length ≤ 128
  toolChoice : (toolsError (r.tools.getD [])).or
    (r.toolChoice.bind (toolChoiceError (r.tools.getD []))) = none

theorem validationError_eq_none_iff (r : ChatCompletionRequest) (limits : ChatValidationLimits) :
    r.validationError limits = none ↔ r.Accepted limits := by
  constructor
  · intro h
    unfold validationError at h
    repeat' split at h
    all_goals first | cases h | skip
    rename_i hmodel hmessages hcount hcontent hlength htools
    simp only [List.any_eq_true, not_exists, not_and, Bool.not_eq_true, decide_eq_true_eq,
      Nat.not_lt] at hcontent hlength
    exact ⟨Bool.eq_false_iff.mpr hmodel, by simpa using hmessages, Nat.not_lt.mp hcount,
      hcontent, hlength, Nat.not_lt.mp htools, h⟩
  · intro h
    unfold validationError
    rw [if_neg (by simp [h.model]), if_neg (by simp [h.messages]), if_neg (Nat.not_lt.mpr h.count),
      if_neg (by simpa using h.content), if_neg (by simpa using h.length),
      if_neg (Nat.not_lt.mpr h.tools)]
    exact h.toolChoice

end ChatCompletionRequest

/-! ## Token estimates

`src/telemetry/token_estimator.rs` counts words.  The sum over the messages wraps
around at 32 bits, as it does in a release build. -/

def estimateTokensForText (text : String) : UInt32 :=
  .ofNat (Text.splitWhitespace text.toList).length

def estimateTokensForMessages (messages : List ChatMessage) : UInt32 :=
  (messages.map fun m => estimateTokensForText m.content).sum

/-! ## How `serde` writes messages and tools

A field that is skipped when it is absent contributes a list of at most one field, so that an
object is a concatenation of such lists. -/

def ChatRole.toJson : ChatRole → Json
  | .developer => .string "developer"
  | .system => .string "system"
  | .user => .string "user"
  | .assistant => .string "assistant"
  | .tool => .string "tool"

def ToolCall.toJson (call : ToolCall) : Json :=
  .object [
    ("id", .string call.id),
    ("type", .string call.kind),
    ("function", .object [
      ("name", .string call.function.name),
      ("arguments", .string call.function.arguments)])]

def ChatMessage.toJson (message : ChatMessage) : Json :=
  .object ([("role", message.role.toJson), ("content", .string message.content)] ++
    Json.optionalField "tool_calls" (fun calls => .array (calls.map ToolCall.toJson))
      message.toolCalls ++
    Json.optionalField "tool_call_id" .string message.toolCallId)

def ToolFunction.toJson (function : ToolFunction) : Json :=
  .object ([("name", .string function.name)] ++
    Json.optionalField "description" .string function.description ++
    [("parameters", function.parameters)] ++
    Json.optionalField "strict" .bool function.strict)

def Tool.toJson (tool : Tool) : Json :=
  .object [("type", .string tool.kind), ("function", tool.function.toJson)]

def ToolChoiceMode.toJson : ToolChoiceMode → Json
  | .auto => .string "auto"
  | .none => .string "none"
  | .required => .string "required"

/-- The enumeration is untagged: a mode is its name, and a function an object. -/
def ToolChoice.toJson : ToolChoice → Json
  | .mode m => m.toJson
  | .function kind name =>
      .object [("type", .string kind), ("function", .object [("name", .string name)])]

end RustyGate
