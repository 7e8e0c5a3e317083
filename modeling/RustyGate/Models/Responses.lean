/-
The Responses API (`src/models/responses.rs`): a request is turned into a chat request
and the answer is wrapped into a response object.
-/
import RustyGate.Models.Chat

namespace RustyGate

inductive ResponseInputRole where
  | system
  | developer
  | user
  | assistant
  deriving DecidableEq, Repr

structure ResponseContentPart where
  kind : String
  text : Option String := none
  deriving DecidableEq, Repr

inductive ResponseInputContent where
  | text (text : String)
  | parts (parts : List ResponseContentPart)
  deriving DecidableEq, Repr

structure ResponseInputMessage where
  role : ResponseInputRole
  content : ResponseInputContent
  deriving DecidableEq, Repr

inductive ResponseInput where
  | text (text : String)
  | messages (messages : List ResponseInputMessage)
  deriving DecidableEq, Repr

structure ResponseRequest where
  model : Option String
  input : ResponseInput
  instructions : Option String := none
  stream : Option Bool := none
  temperature : Option F32 := none
  maxOutputTokens : Option UInt32 := none
  deriving DecidableEq

structure ResponseOutputContent where
  kind : String
  text : String
  annotations : List Json

structure ResponseOutput where
  id : String
  kind : String
  status : String
  role : String
  content : List ResponseOutputContent

structure ResponseUsage where
  inputTokens : UInt32
  outputTokens : UInt32
  totalTokens : UInt32
  deriving DecidableEq, Repr

structure ResponseObject where
  id : String
  object : String
  createdAt : Int
  status : String
  model : String
  output : List ResponseOutput
  usage : ResponseUsage

structure ResponseTextDelta where
  itemId : String
  outputIndex : UInt32
  contentIndex : UInt32
  delta : String
  deriving DecidableEq, Repr

def ResponseUsage.from (usage : TokenUsage) : ResponseUsage where
  inputTokens := usage.promptTokens
  outputTokens := usage.completionTokens
  totalTokens := usage.totalTokens

namespace ResponseInputContent

/-- The text parts, joined by line feeds. -/
def intoText : ResponseInputContent → String
  | .text whole => whole
  | .parts items =>
      "\n".intercalate ((items.filter fun part =>
        part.kind == "input_text" || part.kind == "text").filterMap (·.text))

end ResponseInputContent

namespace ResponseInputRole

def toChatRole : ResponseInputRole → ChatRole
  | .system | .developer => .system
  | .user => .user
  | .assistant => .assistant

end ResponseInputRole

namespace ResponseRequest

def streamEnabled (r : ResponseRequest) : Bool := r.stream.getD false

def instructionMessages (r : ResponseRequest) : List ChatMessage :=
  match r.instructions with
  | some instructions =>
      if Text.isBlank instructions then [] else [{ role := .system, content := instructions }]
  | none => []

def inputMessages (r : ResponseRequest) : List ChatMessage :=
  match r.input with
  | .text text => [{ role := .user, content := text }]
  | .messages messages => messages.map fun m =>
      { role := m.role.toChatRole, content := m.content.intoText }

def intoChatRequest (r : ResponseRequest) : ChatCompletionRequest where
  model := r.model
  messages := r.instructionMessages ++ r.inputMessages
  temperature := r.temperature
  maxTokens := r.maxOutputTokens
  stream := r.stream

end ResponseRequest

def responseObject (requestId : Uuid) (created : Int) (model outputText : String)
    (usage : TokenUsage) : ResponseObject where
  id := openaiId "resp" requestId
  object := "response"
  createdAt := created
  status := "completed"
  model := model
  output :=
    [{ id := openaiId "msg" requestId
       kind := "message"
       status := "completed"
       role := "assistant"
       content := [{ kind := "output_text", text := outputText, annotations := [] }] }]
  usage := .from usage

/-! ## Output sent back as input

A client that keeps the conversation itself sends the output items of a response back as
input messages.  `relabel` is what it does to the kinds of the parts on the way, nothing
if it sends them as they are. -/

def ResponseOutputContent.asInput (relabel : String → String) (c : ResponseOutputContent) :
    ResponseContentPart where
  kind := relabel c.kind
  text := some c.text

def ResponseOutput.asInput (relabel : String → String) (item : ResponseOutput) :
    ResponseInputMessage where
  role := .assistant
  content := .parts (item.content.map (·.asInput relabel))

def ResponseObject.asInput (relabel : String → String) (response : ResponseObject) :
    List ResponseInputMessage := response.output.map (·.asInput relabel)

namespace ResponseRequest

/-- The messages of the input keep their places behind the instructions. -/
theorem getElem?_messages {r : ResponseRequest} {messages : List ResponseInputMessage}
    (hinput : r.input = .messages messages) (i : Nat) :
    r.intoChatRequest.messages[r.instructionMessages.length + i]? =
      messages[i]?.map fun m => { role := m.role.toChatRole, content := m.content.intoText } := by
  rw [intoChatRequest, List.getElem?_append_right (Nat.le_add_right _ _), Nat.add_sub_cancel_left,
    inputMessages, hinput, List.getElem?_map]

end ResponseRequest

theorem intoText_one (kind text : String) :
    (ResponseInputContent.parts [{ kind := kind, text := some text }]).intoText =
      if kind = "input_text" ∨ kind = "text" then text else "" := by
  by_cases hkind : kind = "input_text" ∨ kind = "text"
  · rw [if_pos hkind]
    rcases hkind with rfl | rfl <;> simp [ResponseInputContent.intoText]
  · rw [if_neg hkind]
    rw [not_or] at hkind
    simp [ResponseInputContent.intoText, hkind]

/-- The output text comes back, in its place, exactly if the part is sent back under a
kind that an input has, or if there is no text. -/
theorem output_fed_back_iff (requestId : Uuid) (created : Int) (model text : String)
    (usage : TokenUsage) (relabel : String → String) (r : ResponseRequest)
    (before after : List ResponseInputMessage) :
    let response := responseObject requestId created model text usage
    let next := { r with input := .messages (before ++ response.asInput relabel ++ after) }
    next.intoChatRequest.messages[next.instructionMessages.length + before.length]? =
        some { role := .assistant, content := text } ↔
      (relabel "output_text" = "input_text" ∨ relabel "output_text" = "text") ∨ text = "" := by
  intro response next
  have hplace : (before ++ response.asInput relabel ++ after)[before.length]? =
      some { role := .assistant
             content := .parts [{ kind := relabel "output_text", text := some text }] } := by
    rw [List.append_assoc, List.getElem?_append_right (Nat.le_refl _), Nat.sub_self]
    rfl
  rw [ResponseRequest.getElem?_messages rfl, hplace, Option.map_some, intoText_one]
  by_cases hkind : relabel "output_text" = "input_text" ∨ relabel "output_text" = "text"
  · simp [hkind, ResponseInputRole.toChatRole]
  · rw [if_neg hkind, or_iff_right hkind, eq_comm]
    simp [ResponseInputRole.toChatRole]

/-- Sent back as it is, the answer "4" arrives as an empty message. -/
theorem output_fed_back_lost :
    let response := responseObject 7 0 "m" "4" {}
    let next : ResponseRequest :=
      { model := some "m"
        input := .messages
          ([{ role := .user, content := .text "2+2?" }] ++ response.asInput id ++
            [{ role := .user, content := .text "Sure?" }]) }
    next.intoChatRequest.messages.map (·.content) = ["2+2?", "", "Sure?"] ∧
      Text.isBlank "4" = false := by
  decide

end RustyGate
