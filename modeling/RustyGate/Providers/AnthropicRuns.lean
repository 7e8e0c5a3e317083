/-
The variables of an Anthropic stream (`src/providers/anthropic.rs`).

What the variables hold behind some events can be read off these events
(`advanced_of_handleEvents`): the counts that were reported last, the text of all text deltas,
and what the translator of the tool calls has made of the rest.
-/
import RustyGate.Providers.AnthropicEvents
import RustyGate.Providers.ToolStreams

namespace RustyGate

namespace AnthropicStreamEvent

/-- The input tokens that a `message_start` reports. -/
def reportedInput (event : AnthropicStreamEvent) : Option UInt32 :=
  if event.kind = "message_start" then (event.message.bind (·.usage)).map (·.inputTokens)
  else none

/-- The output tokens that a `message_delta` reports. -/
def reportedOutput (event : AnthropicStreamEvent) : Option UInt32 :=
  if event.kind = "message_delta" then event.usage.map (·.outputTokens) else none

end AnthropicStreamEvent

/-- The deltas of tool calls in an event for the client. -/
def ProviderStreamEvent.toolCalls : ProviderStreamEvent → List ToolCallDelta
  | .chunk response => response.choices.flatMap fun choice => choice.delta.toolCalls.getD []
  | .completed _ => []

def toolCallsOf (items : List StreamItem) : List ToolCallDelta :=
  items.flatMap fun item =>
    match item with
    | .ok event => event.toolCalls
    | .error _ => []

/-- The deltas of tool calls in what the translator has made of an event. -/
def ChatDelta.calls (delta : ChatDelta) : List ToolCallDelta := delta.toolCalls.getD []

namespace AnthropicToolStreamTranslator

variable (t : AnthropicToolStreamTranslator)

/-- The translator behind some events. -/
def after (events : List AnthropicStreamEvent) : AnthropicToolStreamTranslator :=
  events.foldl (fun t event => (t.feed event).2) t

theorem feed_of_kind {event : AnthropicStreamEvent} (hstart : event.kind ≠ "content_block_start")
    (hdelta : event.kind ≠ "content_block_delta") : t.feed event = (none, t) := by
  unfold feed
  rw [if_neg hstart, if_neg hdelta]

theorem feed_text {event : AnthropicStreamEvent} {content : String}
    (htext : AnthropicProvider.textOf event = some content) : t.feed event = (none, t) := by
  obtain ⟨hkind, delta, hdelta, htype, -⟩ : event.kind = "content_block_delta" ∧
      ∃ delta, event.delta = some delta ∧ delta.kind = "text_delta" ∧
        delta.text = some content := by
    simpa [AnthropicProvider.textOf, Option.bind_eq_some_iff] using htext
  simp [feed, hkind, hdelta, htype]

end AnthropicToolStreamTranslator

namespace AnthropicProvider

theorem toolCalls_chunkFor (c : StreamCall) (delta : ChatDelta) (reason : Option String) :
    (chunkFor c delta reason).toolCalls = delta.calls := by
  show [_].flatMap _ = _
  rw [List.flatMap_singleton]
  rfl

/-! ## One event -/

/-- What the variables hold behind an event, and the tool calls in the item. -/
structure Advances (parsed : AnthropicStreamEvent) (s : StreamState)
    (item : Option ProviderStreamEvent) (s' : StreamState) : Prop where
  prompt_eq : s'.promptTokens = parsed.reportedInput.getD s.promptTokens
  completion_eq : s'.completionTokens = parsed.reportedOutput.or s.completionTokens
  text_eq : s'.completionText = s.completionText ++ (textOf parsed).getD ""
  translator_eq : s'.toolTranslator = (s.toolTranslator.feed parsed).2
  toolCalls_eq : item.toList.flatMap (·.toolCalls) =
    (s.toolTranslator.feed parsed).1.toList.flatMap (·.calls)

def StepAdvances (parsed : AnthropicStreamEvent) (s : StreamState) : EventStep StreamState → Prop
  | .goOn item s' => Advances parsed s item s'
  | .finish _ => True
  | .fail _ => True

section Arms

variable (c : StreamCall) (s : StreamState) {parsed : AnthropicStreamEvent}

theorem messageStart_advances (hkind : parsed.kind = "message_start") :
    StepAdvances parsed s (messageStart s parsed) := by
  have hfeed : s.toolTranslator.feed parsed = (none, s.toolTranslator) := by
    apply s.toolTranslator.feed_of_kind <;> simp [hkind]
  have htext : textOf parsed = none := by simp [textOf, hkind]
  have houtput : parsed.reportedOutput = none := by
    simp [AnthropicStreamEvent.reportedOutput, hkind]
  have hinput : parsed.reportedInput = (parsed.message.bind (·.usage)).map (·.inputTokens) :=
    if_pos hkind
  unfold messageStart
  cases husage : parsed.message.bind (·.usage) with
  | none =>
      rw [husage] at hinput
      constructor <;> simp [hinput, houtput, htext, hfeed]
  | some usage =>
      rw [husage] at hinput
      constructor <;> simp [hinput, houtput, htext, hfeed]

/-- The arms that pass on what the translator makes of an event. -/
theorem feed_advances (hinput : parsed.reportedInput = none)
    (houtput : parsed.reportedOutput = none) (htext : textOf parsed = none) :
    Advances parsed s ((s.toolTranslator.feed parsed).1.map fun delta => chunkFor c delta none)
      { s with toolTranslator := (s.toolTranslator.feed parsed).2 } := by
  constructor
  case toolCalls_eq => cases (s.toolTranslator.feed parsed).1 <;> simp [toolCalls_chunkFor]
  all_goals simp [hinput, houtput, htext]

theorem contentBlockDelta_advances (hkind : parsed.kind = "content_block_delta") :
    StepAdvances parsed s (contentBlockDelta c s parsed) := by
  have hinput : parsed.reportedInput = none := by simp [AnthropicStreamEvent.reportedInput, hkind]
  have houtput : parsed.reportedOutput = none := by
    simp [AnthropicStreamEvent.reportedOutput, hkind]
  cases htext : textOf parsed with
  | none =>
      rw [contentBlockDelta_feed c s hkind htext]
      exact feed_advances c s hinput houtput htext
  | some content =>
      have hfeed := s.toolTranslator.feed_text htext
      rw [contentBlockDelta_text c s htext]
      split
      · trivial
      · constructor <;> simp [hinput, houtput, htext, hfeed, toolCalls_chunkFor, ChatDelta.calls]

theorem contentBlockStart_advances (hkind : parsed.kind = "content_block_start") :
    StepAdvances parsed s (contentBlockStart c s parsed) := by
  rw [contentBlockStart_feed c s hkind]
  apply feed_advances <;>
    simp [AnthropicStreamEvent.reportedInput, AnthropicStreamEvent.reportedOutput, textOf, hkind]

theorem messageDelta_advances (hkind : parsed.kind = "message_delta") :
    StepAdvances parsed s (messageDelta c s parsed) := by
  have hfeed : s.toolTranslator.feed parsed = (none, s.toolTranslator) := by
    apply s.toolTranslator.feed_of_kind <;> simp [hkind]
  have htext : textOf parsed = none := by simp [textOf, hkind]
  have hinput : parsed.reportedInput = none := by simp [AnthropicStreamEvent.reportedInput, hkind]
  have houtput : parsed.reportedOutput = parsed.usage.map (·.outputTokens) := if_pos hkind
  unfold messageDelta
  simp only
  split
  · constructor <;> simp [hinput, houtput, htext, hfeed]
  · constructor <;> simp [hinput, houtput, htext, hfeed, toolCalls_chunkFor, ChatDelta.calls]

end Arms

variable {fromStr : List Char → Option AnthropicStreamEvent} (c : StreamCall)

theorem handleEvent_advances (s : StreamState) {eventData : List Char}
    {parsed : AnthropicStreamEvent} (hparsed : fromStr eventData = some parsed) :
    StepAdvances parsed s (handleEvent fromStr c s eventData) := by
  simp only [handleEvent, hparsed]
  by_cases hstart : parsed.kind = "message_start"
  · rw [if_pos hstart]
    exact messageStart_advances s hstart
  rw [if_neg hstart]
  by_cases hdelta : parsed.kind = "content_block_delta"
  · rw [if_pos hdelta]
    exact contentBlockDelta_advances c s hdelta
  rw [if_neg hdelta]
  by_cases hblock : parsed.kind = "content_block_start"
  · rw [if_pos hblock]
    exact contentBlockStart_advances c s hblock
  rw [if_neg hblock]
  by_cases hmessage : parsed.kind = "message_delta"
  · rw [if_pos hmessage]
    exact messageDelta_advances c s hmessage
  rw [if_neg hmessage]
  split
  · trivial
  · have hfeed := s.toolTranslator.feed_of_kind hblock hdelta
    constructor <;> simp [AnthropicStreamEvent.reportedInput, AnthropicStreamEvent.reportedOutput,
      textOf, hstart, hdelta, hmessage, hfeed]

/-! ## A run -/

/-- What the variables hold behind some events, and the tool calls in the items. -/
structure Advanced (events : List AnthropicStreamEvent) (s : StreamState)
    (items : List StreamItem) (s' : StreamState) : Prop where
  prompt_eq : s'.promptTokens = (events.filterMap (·.reportedInput)).getLast?.getD s.promptTokens
  completion_eq : s'.completionTokens =
    (events.filterMap (·.reportedOutput)).getLast?.or s.completionTokens
  text_eq : s'.completionText =
    s.completionText ++ String.join (events.map fun event => (textOf event).getD "")
  translator_eq : s'.toolTranslator = s.toolTranslator.after events
  toolCalls_eq : toolCallsOf items = (s.toolTranslator.feedAll events).flatMap (·.calls)

theorem advanced_nil (s : StreamState) : Advanced [] s [] s := by
  constructor <;> simp [AnthropicToolStreamTranslator.after,
    AnthropicToolStreamTranslator.feedAll, toolCallsOf]

theorem getLast?_filterMap_cons {α β : Type} (f : α → Option β) (a : α) (rest : List α) :
    ((a :: rest).filterMap f).getLast? = (rest.filterMap f).getLast?.or (f a) := by
  cases h : f a with
  | none => rw [List.filterMap_cons_none h, Option.or_none]
  | some b => rw [List.filterMap_cons_some h, List.getLast?_cons, Option.or_some]

theorem Advances.cons {parsed : AnthropicStreamEvent} {s s' s'' : StreamState}
    {item : Option ProviderStreamEvent} {events : List AnthropicStreamEvent}
    {items : List StreamItem} (h : Advances parsed s item s')
    (hrest : Advanced events s' items s'') :
    Advanced (parsed :: events) s (item.toList.map Except.ok ++ items) s'' where
  prompt_eq := by
    rw [hrest.prompt_eq, h.prompt_eq, getLast?_filterMap_cons, Option.getD_or]
  completion_eq := by
    rw [hrest.completion_eq, h.completion_eq, getLast?_filterMap_cons, Option.or_assoc]
  text_eq := by
    rw [hrest.text_eq, h.text_eq, List.map_cons, String.join_cons, String.append_assoc]
  translator_eq := by
    rw [hrest.translator_eq, h.translator_eq]
    rfl
  toolCalls_eq := by
    have hitem : toolCallsOf (item.toList.map Except.ok) = item.toList.flatMap (·.toolCalls) := by
      rw [toolCallsOf, List.flatMap_map]
    have hitems : toolCallsOf (item.toList.map Except.ok ++ items) =
        toolCallsOf (item.toList.map Except.ok) ++ toolCallsOf items := List.flatMap_append
    rw [hitems, hitem, h.toolCalls_eq, hrest.toolCalls_eq, h.translator_eq,
      AnthropicToolStreamTranslator.feedAll, List.flatMap_append]

/-- A stream that has not ended has decoded all events. -/
theorem advanced_of_handleEvents {events : List (List Char)} {s s' : StreamState}
    {items : List StreamItem}
    (h : handleEvents (handleEvent fromStr c) s events = (items, some s')) :
    Advanced (events.filterMap fromStr) s items s' := by
  induction events generalizing s items with
  | nil =>
      cases h
      exact advanced_nil _
  | cons eventData rest ih =>
      rw [handleEvents] at h
      cases hparsed : fromStr eventData with
      | none =>
          rw [handleEvent, hparsed] at h
          cases h
      | some parsed =>
          rw [List.filterMap_cons_some hparsed]
          have hstep := handleEvent_advances c s hparsed
          generalize handleEvent fromStr c s eventData = step at h hstep
          cases step with
          | finish event => cases h
          | fail error => cases h
          | goOn item next =>
              simp only [Prod.mk.injEq] at h
              obtain ⟨rfl, hlast⟩ := h
              exact hstep.cons (ih (Prod.ext rfl hlast))

end AnthropicProvider
end RustyGate
