/-
The events of a stream of Anthropic as they are decoded (`AnthropicStreamEvent` in
`src/providers/anthropic.rs`), and as they are published.

`parse` is the reading of a JSON text.  The structures for the delta and for the usage are
shared by the events, and each has a required field that a published `message_delta` does
not have.  So a published stream is accepted exactly if there is no `message_delta` in it.
-/
import RustyGate.Models.Decoding
import RustyGate.Models.JsonText
import RustyGate.Providers.Termination

namespace RustyGate

open Json (required optional asString asU32)

/-! ## Decoding -/

def AnthropicUsage.fromJson (j : Json) : Option AnthropicUsage := do
  let fields ← j.fieldsOf ["input_tokens", "output_tokens"]
  let inputTokens ← required fields "input_tokens" asU32
  let outputTokens ← required fields "output_tokens" asU32
  return { inputTokens, outputTokens }

def AnthropicStreamMessage.fromJson (j : Json) : Option AnthropicStreamMessage := do
  let fields ← j.fieldsOf ["model", "usage"]
  let model ← required fields "model" asString
  let usage ← optional fields "usage" AnthropicUsage.fromJson
  return { model, usage }

def AnthropicStreamDelta.fromJson (j : Json) : Option AnthropicStreamDelta := do
  let fields ← j.fieldsOf ["type", "text", "partial_json", "stop_reason"]
  let kind ← required fields "type" asString
  let text ← optional fields "text" asString
  let partialJson ← optional fields "partial_json" asString
  let stopReason ← optional fields "stop_reason" asString
  return { kind, text, partialJson, stopReason }

def AnthropicContentBlock.fromJson (j : Json) : Option AnthropicContentBlock := do
  let fields ← j.fieldsOf ["type", "text", "id", "name", "input"]
  let kind ← required fields "type" asString
  let text ← optional fields "text" asString
  let id ← optional fields "id" asString
  let name ← optional fields "name" asString
  let input ← optional fields "input" some
  return { kind, text, id, name, input }

def AnthropicStreamEvent.fromJson (j : Json) : Option AnthropicStreamEvent := do
  let fields ← j.fieldsOf ["type", "message", "delta", "usage", "index", "content_block"]
  let kind ← required fields "type" asString
  let message ← optional fields "message" AnthropicStreamMessage.fromJson
  let delta ← optional fields "delta" AnthropicStreamDelta.fromJson
  let usage ← optional fields "usage" AnthropicUsage.fromJson
  let index ← optional fields "index" asU32
  let contentBlock ← optional fields "content_block" AnthropicContentBlock.fromJson
  return { kind, message, delta, usage, index, contentBlock }

/-- `serde_json::from_str` for an event of the stream. -/
def AnthropicStreamEvent.fromStr (parse : List Char → Option Json) (eventData : List Char) :
    Option AnthropicStreamEvent := (parse eventData).bind fromJson

/-! ## The published format -/

variable {j : Json} {eventData : List Char} {before : List (List Char)}

namespace Published

abbrev Fields := String → Option Json

/-- A text, if the field is there. -/
def TextIfAny (value : Option Json) : Prop := value = none ∨ ∃ text, value = some (.string text)

def TextOrNull (value : Option Json) : Prop :=
  value = some .null ∨ ∃ text, value = some (.string text)

def IsText (value : Option Json) : Prop := ∃ text, value = some (.string text)

def IsU32 (value : Option Json) : Prop := ∃ n, value.bind asU32 = some n

def Usage (j : Json) : Prop :=
  j.IsObject fun f => IsU32 (f "input_tokens") ∧ IsU32 (f "output_tokens")

def Message (j : Json) : Prop :=
  j.IsObject fun f => IsText (f "model") ∧ ∃ usage, f "usage" = some usage ∧ Usage usage

def ContentBlock (j : Json) : Prop :=
  j.IsObject fun f => IsText (f "type") ∧ TextIfAny (f "text") ∧ TextIfAny (f "id") ∧
    TextIfAny (f "name")

def BlockDelta (j : Json) : Prop :=
  j.IsObject fun f => IsText (f "type") ∧ TextIfAny (f "text") ∧ TextIfAny (f "partial_json") ∧
    f "stop_reason" = none

/-- The delta of a message has no type. -/
def MessageDelta (j : Json) : Prop :=
  j.IsObject fun f => f "type" = none ∧ TextOrNull (f "stop_reason") ∧
    TextOrNull (f "stop_sequence")

/-- The usage at the end of a message need not have input tokens. -/
def MessageDeltaUsage (j : Json) : Prop := j.IsObject fun f => IsU32 (f "output_tokens")

/-- The event has none of these fields. -/
def Missing (f : Fields) (names : List String) : Prop := ∀ name ∈ names, f name = none

/-- The fields of an event, and its type. -/
inductive Event (f : Fields) : String → Prop
  | messageStart {message : Json} (htype : f "type" = some (.string "message_start"))
      (hmessage : f "message" = some message) (h : Message message)
      (hmissing : Missing f ["delta", "usage", "index", "content_block"]) :
      Event f "message_start"
  | contentBlockStart {block : Json} (htype : f "type" = some (.string "content_block_start"))
      (hindex : IsU32 (f "index")) (hblock : f "content_block" = some block)
      (h : ContentBlock block) (hmissing : Missing f ["message", "delta", "usage"]) :
      Event f "content_block_start"
  | contentBlockDelta {delta : Json} (htype : f "type" = some (.string "content_block_delta"))
      (hindex : IsU32 (f "index")) (hdelta : f "delta" = some delta) (h : BlockDelta delta)
      (hmissing : Missing f ["message", "usage", "content_block"]) : Event f "content_block_delta"
  | contentBlockStop (htype : f "type" = some (.string "content_block_stop"))
      (hindex : IsU32 (f "index"))
      (hmissing : Missing f ["message", "delta", "usage", "content_block"]) :
      Event f "content_block_stop"
  | messageDelta {delta usage : Json} (htype : f "type" = some (.string "message_delta"))
      (hdelta : f "delta" = some delta) (h : MessageDelta delta) (husage : f "usage" = some usage)
      (h' : MessageDeltaUsage usage) (hmissing : Missing f ["message", "index", "content_block"]) :
      Event f "message_delta"
  | ping (htype : f "type" = some (.string "ping"))
      (hmissing : Missing f ["message", "delta", "usage", "index", "content_block"]) :
      Event f "ping"
  | messageStop (htype : f "type" = some (.string "message_stop"))
      (hmissing : Missing f ["message", "delta", "usage", "index", "content_block"]) :
      Event f "message_stop"

/-- The payload is a published event of this type. -/
def Payload (parse : List Char → Option Json) (eventData : List Char) (kind : String) : Prop :=
  ∃ j, parse eventData = some j ∧ j.IsObject fun f => Event f kind

/-! ## Which events can be decoded -/

section Fields

variable {f : Fields} {name : String}

theorem IsText.required (h : IsText (f name)) : (required f name asString).isSome := by
  obtain ⟨text, htext⟩ := h
  rw [Json.required, htext]
  rfl

theorem IsU32.required (h : IsU32 (f name)) : (required f name asU32).isSome := by
  obtain ⟨n, hn⟩ := h
  rw [Json.required, hn]
  rfl

theorem IsU32.optional (h : IsU32 (f name)) : (optional f name asU32).isSome := by
  obtain ⟨n, hn⟩ := h
  apply Json.optional_isSome
  intro j hj
  rw [hj, Option.bind_some] at hn
  rw [hn]
  rfl

theorem TextIfAny.optional (h : TextIfAny (f name)) : (optional f name asString).isSome := by
  rcases h with hnone | ⟨text, htext⟩
  · rw [Json.optional_of_missing hnone]
    rfl
  · exact Json.optional_of_value htext rfl

end Fields

theorem Usage.decodes (h : Usage j) : (AnthropicUsage.fromJson j).isSome := by
  obtain ⟨fields, hfields, hinput, houtput⟩ := h.fieldsOf ["input_tokens", "output_tokens"]
  obtain ⟨inputTokens, hinput⟩ := Option.isSome_iff_exists.mp hinput.required
  obtain ⟨outputTokens, houtput⟩ := Option.isSome_iff_exists.mp houtput.required
  simp [AnthropicUsage.fromJson, hfields, hinput, houtput]

theorem Message.decodes (h : Message j) :
    (AnthropicStreamMessage.fromJson j).isSome := by
  obtain ⟨fields, hfields, hmodel, usage, husage, hdoc⟩ := h.fieldsOf ["model", "usage"]
  obtain ⟨model, hmodel⟩ := Option.isSome_iff_exists.mp hmodel.required
  obtain ⟨decoded, hdecoded⟩ :=
    Option.isSome_iff_exists.mp (Json.optional_of_value husage hdoc.decodes)
  simp [AnthropicStreamMessage.fromJson, hfields, hmodel, hdecoded]

theorem BlockDelta.decodes (h : BlockDelta j) :
    (AnthropicStreamDelta.fromJson j).isSome := by
  obtain ⟨fields, hfields, htype, htext, hjson, hstop⟩ :=
    h.fieldsOf ["type", "text", "partial_json", "stop_reason"]
  obtain ⟨kind, hkind⟩ := Option.isSome_iff_exists.mp htype.required
  obtain ⟨text, htext⟩ := Option.isSome_iff_exists.mp htext.optional
  obtain ⟨partialJson, hjson⟩ := Option.isSome_iff_exists.mp hjson.optional
  simp [AnthropicStreamDelta.fromJson, hfields, hkind, htext, hjson, Json.optional_of_missing hstop]

theorem ContentBlock.decodes (h : ContentBlock j) :
    (AnthropicContentBlock.fromJson j).isSome := by
  obtain ⟨fields, hfields, htype, htext, hid, hname⟩ :=
    h.fieldsOf ["type", "text", "id", "name", "input"]
  obtain ⟨kind, hkind⟩ := Option.isSome_iff_exists.mp htype.required
  obtain ⟨text, htext⟩ := Option.isSome_iff_exists.mp htext.optional
  obtain ⟨id, hid⟩ := Option.isSome_iff_exists.mp hid.optional
  obtain ⟨name, hname⟩ := Option.isSome_iff_exists.mp hname.optional
  have hoptional : (optional fields "input" some).isSome := Json.optional_isSome fun _ _ => rfl
  obtain ⟨input, hinput⟩ := Option.isSome_iff_exists.mp hoptional
  simp [AnthropicContentBlock.fromJson, hfields, hkind, htext, hid, hname, hinput]

/-- An event is decoded if each of its fields is. -/
theorem fromJson_of_fields {fields : Fields} {kind : String}
    (hfields : j.fieldsOf ["type", "message", "delta", "usage", "index", "content_block"] = some
      fields) (htype : fields "type" = some (.string kind))
    (hmessage : (optional fields "message" AnthropicStreamMessage.fromJson).isSome)
    (hdelta : (optional fields "delta" AnthropicStreamDelta.fromJson).isSome)
    (husage : (optional fields "usage" AnthropicUsage.fromJson).isSome)
    (hindex : (optional fields "index" asU32).isSome)
    (hblock : (optional fields "content_block" AnthropicContentBlock.fromJson).isSome) :
    ∃ parsed, AnthropicStreamEvent.fromJson j = some parsed ∧ parsed.kind = kind := by
  have hkind : required fields "type" asString = some kind := by
    rw [required, htype]
    rfl
  obtain ⟨message, hmessage⟩ := Option.isSome_iff_exists.mp hmessage
  obtain ⟨delta, hdelta⟩ := Option.isSome_iff_exists.mp hdelta
  obtain ⟨usage, husage⟩ := Option.isSome_iff_exists.mp husage
  obtain ⟨index, hindex⟩ := Option.isSome_iff_exists.mp hindex
  obtain ⟨block, hblock⟩ := Option.isSome_iff_exists.mp hblock
  refine ⟨⟨kind, message, delta, usage, index, block⟩, ?_, rfl⟩
  simp [AnthropicStreamEvent.fromJson, hfields, hkind, hmessage, hdelta, husage, hindex, hblock]

theorem Missing.optional {f : Fields} {names : List String} (h : Missing f names) {α : Type}
    {decode : Json → Option α} {name : String} (hname : name ∈ names) :
    (optional f name decode).isSome := by
  rw [Json.optional_of_missing (h name hname)]
  rfl

/-- Every published event but a `message_delta` is decoded, under its type. -/
theorem Payload.decodes {parse : List Char → Option Json} {kind : String}
    (h : Payload parse eventData kind) (hkind : kind ≠ "message_delta") :
    ∃ parsed, AnthropicStreamEvent.fromStr parse eventData = some parsed ∧ parsed.kind = kind := by
  obtain ⟨j, hj, hobject⟩ := h
  obtain ⟨f, hfields, hevent⟩ := hobject.fieldsOf
    ["type", "message", "delta", "usage", "index", "content_block"]
  rw [AnthropicStreamEvent.fromStr, hj, Option.bind_some]
  cases hevent with
  | messageStart htype hmessage h hmissing =>
      refine fromJson_of_fields hfields htype (Json.optional_of_value hmessage h.decodes) ?_ ?_ ?_
        ?_ <;> exact hmissing.optional (by decide)
  | contentBlockStart htype hindex hblock h hmissing =>
      refine fromJson_of_fields hfields htype ?_ ?_ ?_ hindex.optional
        (Json.optional_of_value hblock h.decodes) <;> exact hmissing.optional (by decide)
  | contentBlockDelta htype hindex hdelta h hmissing =>
      refine fromJson_of_fields hfields htype ?_ (Json.optional_of_value hdelta h.decodes) ?_
        hindex.optional ?_ <;> exact hmissing.optional (by decide)
  | contentBlockStop htype hindex hmissing =>
      refine fromJson_of_fields hfields htype ?_ ?_ ?_ hindex.optional ?_ <;>
        exact hmissing.optional (by decide)
  | messageDelta htype hdelta h husage h' hmissing => exact absurd rfl hkind
  | ping htype hmissing | messageStop htype hmissing =>
      refine fromJson_of_fields hfields htype ?_ ?_ ?_ ?_ ?_ <;>
        exact hmissing.optional (by decide)

end Published

/-! ## Whole streams -/

namespace AnthropicProvider

variable {fromStr : List Char → Option AnthropicStreamEvent} (c : StreamCall)

/-- Events that do not end a stream by themselves. -/
def Ordinary (fromStr : List Char → Option AnthropicStreamEvent)
    (events : List (List Char)) : Prop :=
  ∀ eventData ∈ events, ∃ parsed, fromStr eventData = some parsed ∧ parsed.kind ≠ "message_stop"

theorem Ordinary.reading {events : List (List Char)} (h : Ordinary fromStr events) :
    ∀ eventData ∈ events, (reading fromStr).ends eventData = false ∧
      (reading fromStr).decodes eventData = true := by
  intro eventData hmem
  obtain ⟨parsed, hparsed, hkind⟩ := h eventData hmem
  simp [AnthropicProvider.reading, hparsed, hkind]

/-- Events that are decoded lead to chunks, as long as there is room for their text. -/
theorem handleEvents_goOn (s : StreamState) (hbefore : Ordinary fromStr before)
    (hroom : (s.completionText ++ String.join (before.map (payloadText fromStr))).length ≤
      maxStreamOutputChars) :
    ∃ chunks s', handleEvents (handleEvent fromStr c) s before = (chunkItems chunks, some s') := by
  rw [String.length_append] at hroom
  have hs := (Nat.le_add_right _ _).trans hroom
  exact handleEvents_of_none (translates fromStr c) hs
    ((Reading.processed_eq_none_iff hs).mpr ⟨hbefore.reading, hroom⟩)

theorem handleEvent_stop {stop : List Char} (hstop : Stops fromStr stop) (s : StreamState) :
    handleEvent fromStr c s stop = messageStop s := by
  obtain ⟨parsed, hparsed, hkind⟩ := hstop
  simp [handleEvent, hparsed, hkind]

end AnthropicProvider

open Published

namespace Published

end Published

end RustyGate
