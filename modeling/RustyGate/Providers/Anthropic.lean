/-
Streams of the Anthropic provider (`src/providers/anthropic.rs`), with the translation of
its tool events (`src/providers/anthropic_tool_translation.rs`).

`fromStr` is `serde_json::from_str` for an event of the stream.
-/
import RustyGate.Providers.Streaming

namespace RustyGate

open Text

structure AnthropicUsage where
  inputTokens : UInt32
  outputTokens : UInt32
  deriving DecidableEq, Repr

structure AnthropicStreamMessage where
  model : String
  usage : Option AnthropicUsage := none
  deriving DecidableEq, Repr

structure AnthropicStreamDelta where
  kind : String
  text : Option String := none
  partialJson : Option String := none
  stopReason : Option String := none
  deriving DecidableEq, Repr

structure AnthropicContentBlock where
  kind : String
  text : Option String := none
  id : Option String := none
  name : Option String := none
  input : Option Json := none

structure AnthropicStreamEvent where
  kind : String
  message : Option AnthropicStreamMessage := none
  delta : Option AnthropicStreamDelta := none
  usage : Option AnthropicUsage := none
  index : Option UInt32 := none
  contentBlock : Option AnthropicContentBlock := none

/-! ## Tools -/

structure AnthropicToolStreamTranslator where
  currentIndex : Option UInt32 := none
  currentId : Option String := none
  currentName : Option String := none
  currentArguments : String := ""
  deriving DecidableEq, Repr

namespace AnthropicToolStreamTranslator

def contentBlockStart (t : AnthropicToolStreamTranslator) (index : UInt32)
    (block : AnthropicContentBlock) : Option ChatDelta × AnthropicToolStreamTranslator :=
  if block.kind ≠ "tool_use" then (none, t)
  else
    (some
      { role := some .assistant
        toolCalls := some
          [{ index := index
             id := block.id
             kind := some "function"
             function := some { name := block.name, arguments := some "" } }] },
      { currentIndex := some index
        currentId := block.id
        currentName := block.name
        currentArguments := "" })

def inputJsonDelta (t : AnthropicToolStreamTranslator) (partialJson : String) :
    Option ChatDelta × AnthropicToolStreamTranslator :=
  match t.currentIndex with
  | none => (none, t)
  | some index =>
      (some
        { toolCalls := some
            [{ index := index
               function := some { arguments := some partialJson } }] },
        { t with currentArguments := t.currentArguments ++ partialJson })

/-- What the loop of the stream does with the translator for an event. -/
def feed (t : AnthropicToolStreamTranslator) (event : AnthropicStreamEvent) :
    Option ChatDelta × AnthropicToolStreamTranslator :=
  if event.kind = "content_block_start" then
    match event.index, event.contentBlock with
    | some index, some block => t.contentBlockStart index block
    | _, _ => (none, t)
  else if event.kind = "content_block_delta" then
    match event.delta.bind fun delta =>
        if delta.kind = "input_json_delta" then delta.partialJson else none with
    | some partialJson => t.inputJsonDelta partialJson
    | none => (none, t)
  else (none, t)

theorem feed_of_not_started {t : AnthropicToolStreamTranslator} (hindex : t.currentIndex = none)
    {event : AnthropicStreamEvent} (hkind : event.kind = "content_block_delta") :
    t.feed event = (none, t) := by
  have hstart : event.kind ≠ "content_block_start" := by simp [hkind]
  unfold feed
  rw [if_neg hstart, if_pos hkind]
  split
  · simp only [inputJsonDelta, hindex]
  · rfl

end AnthropicToolStreamTranslator

/-! ## The stream -/

structure AnthropicProvider where
  name : String
  model : String
  deriving DecidableEq, Repr

namespace AnthropicProvider

def maxStreamOutputChars : Nat := 256 * 1024

/-- The local variables of the stream. -/
structure StreamState where
  completionText : String := ""
  promptTokens : UInt32
  completionTokens : Option UInt32 := none
  emittedRole : Bool := false
  toolTranslator : AnthropicToolStreamTranslator := {}
  deriving DecidableEq, Repr

variable (fromStr : List Char → Option AnthropicStreamEvent)

def chunkFor (c : StreamCall) (delta : ChatDelta) (finishReason : Option String) :
    ProviderStreamEvent :=
  .chunk (.fromDelta c.responseId c.created c.model c.providerName 0 delta finishReason)

/-- The arm for `message_start`. -/
def messageStart (s : StreamState) (parsed : AnthropicStreamEvent) : EventStep StreamState :=
  match parsed.message.bind (·.usage) with
  | none => .goOn none s
  | some usage => .goOn none { s with promptTokens := usage.inputTokens }

/-- The arm for `content_block_delta`. -/
def contentBlockDelta (c : StreamCall) (s : StreamState) (parsed : AnthropicStreamEvent) :
    EventStep StreamState :=
  match parsed.delta with
  | none => .goOn none s
  | some delta =>
      if delta.kind = "input_json_delta" then
        match delta.partialJson with
        | none => .goOn none s
        | some partialJson =>
            let (translated, toolTranslator) := s.toolTranslator.inputJsonDelta partialJson
            .goOn (translated.map fun delta => chunkFor c delta none)
              { s with toolTranslator := toolTranslator }
      else if delta.kind ≠ "text_delta" then .goOn none s
      else
        match delta.text with
        | none => .goOn none s
        | some content =>
            if maxStreamOutputChars < s.completionText.length + content.length then
              .fail .providerBadResponse
            else
              .goOn (some (chunkFor c
                  { role := if s.emittedRole then none else some .assistant
                    content := some content } none))
                { s with completionText := s.completionText ++ content, emittedRole := true }

/-- The arm for `content_block_start`. -/
def contentBlockStart (c : StreamCall) (s : StreamState) (parsed : AnthropicStreamEvent) :
    EventStep StreamState :=
  match parsed.index, parsed.contentBlock with
  | some index, some block =>
      let (translated, toolTranslator) := s.toolTranslator.contentBlockStart index block
      .goOn (translated.map fun delta => chunkFor c delta none)
        { s with toolTranslator := toolTranslator }
  | _, _ => .goOn none s

/-- The arm for `message_delta`. -/
def messageDelta (c : StreamCall) (s : StreamState) (parsed : AnthropicStreamEvent) :
    EventStep StreamState :=
  let s := { s with completionTokens := parsed.usage.map (·.outputTokens) <|> s.completionTokens }
  match parsed.delta.bind (·.stopReason) with
  | none => .goOn none s
  | some stopReason => .goOn (some (chunkFor c {} (some stopReason))) s

/-- The arm for `message_stop`. -/
def messageStop (s : StreamState) : EventStep StreamState :=
  let completionTokens := s.completionTokens.getD (estimateTokensForText s.completionText)
  .finish (.completed
    { promptTokens := s.promptTokens
      completionTokens := completionTokens
      totalTokens := s.promptTokens + completionTokens })

/-- The body of the loop over the events. -/
def handleEvent (c : StreamCall) (s : StreamState) (eventData : List Char) :
    EventStep StreamState :=
  match fromStr eventData with
  | none => .fail .providerBadResponse
  | some parsed =>
      if parsed.kind = "message_start" then messageStart s parsed
      else if parsed.kind = "content_block_delta" then contentBlockDelta c s parsed
      else if parsed.kind = "content_block_start" then contentBlockStart c s parsed
      else if parsed.kind = "message_delta" then messageDelta c s parsed
      else if parsed.kind = "message_stop" then messageStop s
      else .goOn none s

def streamCall (provider : AnthropicProvider) (responseId : Uuid) (created : Int)
    (request : ChatCompletionRequest) : StreamCall where
  responseId := responseId
  created := created
  model := request.model.getD provider.model
  providerName := provider.name
  promptTokens := estimateTokensForMessages request.messages

def chatCompletionStream (provider : AnthropicProvider) (responseId : Uuid) (created : Int)
    (request : ChatCompletionRequest) (response : Except TransportError HttpResponse) :
    Except ProviderError (ProviderStreamContext × List StreamItem) :=
  let c := provider.streamCall responseId created request
  openStream (handleEvent fromStr c) c { promptTokens := c.promptTokens } response

/-! ## What the arms do -/

/-- The text an event carries. -/
def textOf (parsed : AnthropicStreamEvent) : Option String :=
  if parsed.kind = "content_block_delta" then
    parsed.delta.bind fun delta => if delta.kind = "text_delta" then delta.text else none
  else none

variable {parsed : AnthropicStreamEvent}

/-- A text is passed on unless there is no room for it. -/
theorem contentBlockDelta_text (c : StreamCall) (s : StreamState) {content : String}
    (htext : textOf parsed = some content) :
    contentBlockDelta c s parsed =
      if maxStreamOutputChars < s.completionText.length + content.length then
        .fail .providerBadResponse
      else
        .goOn (some (chunkFor c
            { role := if s.emittedRole then none else some .assistant
              content := some content } none))
          { s with completionText := s.completionText ++ content, emittedRole := true } := by
  obtain ⟨-, delta, hdelta, hkind, hcontent⟩ : parsed.kind = "content_block_delta" ∧
      ∃ delta, parsed.delta = some delta ∧ delta.kind = "text_delta" ∧
        delta.text = some content := by
    simpa [textOf, Option.bind_eq_some_iff] using htext
  have hjson : delta.kind ≠ "input_json_delta" := by simp [hkind]
  simp only [contentBlockDelta, hdelta, if_neg hjson, if_neg (not_not.mpr hkind), hcontent]

/-- The loop passes on what the translator makes of the start of a block. -/
theorem contentBlockStart_feed (c : StreamCall) (s : StreamState)
    (hkind : parsed.kind = "content_block_start") :
    contentBlockStart c s parsed =
      .goOn ((s.toolTranslator.feed parsed).1.map fun delta => chunkFor c delta none)
        { s with toolTranslator := (s.toolTranslator.feed parsed).2 } := by
  unfold contentBlockStart AnthropicToolStreamTranslator.feed
  rw [if_pos hkind]
  cases parsed.index <;> cases parsed.contentBlock <;> rfl

/-- And of a delta that is no text. -/
theorem contentBlockDelta_feed (c : StreamCall) (s : StreamState)
    (hkind : parsed.kind = "content_block_delta") (htext : textOf parsed = none) :
    contentBlockDelta c s parsed =
      .goOn ((s.toolTranslator.feed parsed).1.map fun delta => chunkFor c delta none)
        { s with toolTranslator := (s.toolTranslator.feed parsed).2 } := by
  rw [textOf, if_pos hkind] at htext
  have hstart : parsed.kind ≠ "content_block_start" := by
    rw [hkind]
    decide
  unfold contentBlockDelta AnthropicToolStreamTranslator.feed
  rw [if_neg hstart, if_pos hkind]
  cases hdelta : parsed.delta with
  | none => rfl
  | some delta =>
      rw [hdelta, Option.bind_some] at htext
      simp only [Option.bind_some]
      by_cases hjson : delta.kind = "input_json_delta"
      · simp only [if_pos hjson]
        cases delta.partialJson <;> rfl
      · simp only [if_neg hjson]
        by_cases hcontent : delta.kind = "text_delta"
        · rw [if_pos hcontent] at htext
          simp only [hcontent, htext, ne_eq, not_true, if_false]
          rfl
        · simp only [ne_eq, hcontent, not_false_iff, if_true]
          rfl

/-! ## Bodies with nothing to pass on -/

/-- The event starts a tool call. -/
def startsTool (parsed : AnthropicStreamEvent) : Bool :=
  parsed.kind == "content_block_start" && parsed.index.isSome &&
    parsed.contentBlock.any fun block => block.kind == "tool_use"

/-- The event has a reason to stop. -/
def stops (parsed : AnthropicStreamEvent) : Bool :=
  parsed.kind == "message_delta" && (parsed.delta.bind (·.stopReason)).isSome

/-- In front of the first event that is broken there is neither text nor the start of a
tool call nor a reason to stop nor the end of the stream.  A first text that is too long
is broken, too. -/
def Barren : List (List Char) → Prop
  | [] => True
  | eventData :: rest =>
      match fromStr eventData with
      | none => True
      | some parsed =>
          match textOf parsed with
          | some content => maxStreamOutputChars < content.length
          | none =>
              startsTool parsed = false ∧ stops parsed = false ∧
                parsed.kind ≠ "message_stop" ∧ Barren rest

/-- No text has been collected and no tool call has been started. -/
def StreamState.Quiet (s : StreamState) : Prop :=
  s.completionText = "" ∧ s.toolTranslator.currentIndex = none

/-- What an event does to a stream that is quiet. -/
inductive QuietStep (parsed : AnthropicStreamEvent) : EventStep StreamState → Prop
  | fails {content : String} (htext : textOf parsed = some content)
      (hlong : maxStreamOutputChars < content.length) :
      QuietStep parsed (.fail .providerBadResponse)
  | emitsText {content : String} (htext : textOf parsed = some content)
      (hshort : ¬maxStreamOutputChars < content.length) (item : ProviderStreamEvent)
      (s : StreamState) : QuietStep parsed (.goOn (some item) s)
  | emits (htext : textOf parsed = none) (hemits : startsTool parsed = true ∨ stops parsed = true)
      (item : ProviderStreamEvent) (s : StreamState) : QuietStep parsed (.goOn (some item) s)
  | finishes (htext : textOf parsed = none) (hkind : parsed.kind = "message_stop")
      (event : ProviderStreamEvent) : QuietStep parsed (.finish event)
  | goesOn (htext : textOf parsed = none) (htool : startsTool parsed = false)
      (hstop : stops parsed = false) (hkind : parsed.kind ≠ "message_stop") {s : StreamState}
      (hs : s.Quiet) : QuietStep parsed (.goOn none s)

section Quiet

variable (c : StreamCall) {s : StreamState} (hs : s.Quiet) {parsed : AnthropicStreamEvent}

include hs

theorem messageStart_quiet (hkind : parsed.kind = "message_start") :
    QuietStep parsed (messageStart s parsed) := by
  have htext : textOf parsed = none := by simp [textOf, hkind]
  have htool : startsTool parsed = false := by simp [startsTool, hkind]
  have hstop : stops parsed = false := by simp [stops, hkind]
  unfold messageStart
  split
  · exact .goesOn htext htool hstop (by simp [hkind]) hs
  · exact .goesOn htext htool hstop (by simp [hkind]) hs

theorem contentBlockDelta_quiet (hkind : parsed.kind = "content_block_delta") :
    QuietStep parsed (contentBlockDelta c s parsed) := by
  have htool : startsTool parsed = false := by simp [startsTool, hkind]
  have hstop : stops parsed = false := by simp [stops, hkind]
  have hend : parsed.kind ≠ "message_stop" := by simp [hkind]
  cases htext : textOf parsed with
  | none =>
      -- A piece of a tool call that has not been started leads to nothing.
      rw [contentBlockDelta_feed c s hkind htext,
        AnthropicToolStreamTranslator.feed_of_not_started hs.2 hkind]
      exact .goesOn htext htool hstop hend hs
  | some content =>
      rw [contentBlockDelta_text c s htext, hs.1, String.length_empty, Nat.zero_add]
      by_cases hlong : maxStreamOutputChars < content.length
      · rw [if_pos hlong]
        exact .fails htext hlong
      · rw [if_neg hlong]
        exact .emitsText htext hlong _ _

theorem contentBlockStart_quiet (hkind : parsed.kind = "content_block_start") :
    QuietStep parsed (contentBlockStart c s parsed) := by
  have htext : textOf parsed = none := by simp [textOf, hkind]
  have hstop : stops parsed = false := by simp [stops, hkind]
  have hend : parsed.kind ≠ "message_stop" := by simp [hkind]
  unfold contentBlockStart
  cases hindex : parsed.index with
  | none => exact .goesOn htext (by simp [startsTool, hindex]) hstop hend hs
  | some index =>
      cases hblock : parsed.contentBlock with
      | none => exact .goesOn htext (by simp [startsTool, hblock]) hstop hend hs
      | some block =>
          simp only [AnthropicToolStreamTranslator.contentBlockStart]
          by_cases htool : block.kind = "tool_use"
          · rw [if_neg (not_not.mpr htool)]
            exact .emits htext (.inl (by simp [startsTool, hkind, hindex, hblock, htool])) _ _
          · rw [if_pos htool]
            exact .goesOn htext (by simp [startsTool, hblock, htool]) hstop hend hs

theorem messageDelta_quiet (hkind : parsed.kind = "message_delta") :
    QuietStep parsed (messageDelta c s parsed) := by
  have htext : textOf parsed = none := by simp [textOf, hkind]
  have htool : startsTool parsed = false := by simp [startsTool, hkind]
  unfold messageDelta
  simp only
  cases hreason : parsed.delta.bind (·.stopReason) with
  | none => exact .goesOn htext htool (by simp [stops, hreason]) (by simp [hkind]) hs
  | some stopReason => exact .emits htext (.inr (by simp [stops, hkind, hreason])) _ _

theorem handleEvent_quiet {eventData : List Char} (hparsed : fromStr eventData = some parsed) :
    QuietStep parsed (handleEvent fromStr c s eventData) := by
  rw [handleEvent, hparsed]
  simp only
  by_cases hstart : parsed.kind = "message_start"
  · rw [if_pos hstart]
    exact messageStart_quiet hs hstart
  rw [if_neg hstart]
  by_cases hdelta : parsed.kind = "content_block_delta"
  · rw [if_pos hdelta]
    exact contentBlockDelta_quiet c hs hdelta
  rw [if_neg hdelta]
  have htext : textOf parsed = none := by simp [textOf, hdelta]
  by_cases hblock : parsed.kind = "content_block_start"
  · rw [if_pos hblock]
    exact contentBlockStart_quiet c hs hblock
  rw [if_neg hblock]
  by_cases hmessage : parsed.kind = "message_delta"
  · rw [if_pos hmessage]
    exact messageDelta_quiet c hs hmessage
  rw [if_neg hmessage]
  by_cases hstop : parsed.kind = "message_stop"
  · rw [if_pos hstop]
    exact .finishes htext hstop _
  · rw [if_neg hstop]
    exact .goesOn htext (by simp [startsTool, hblock]) (by simp [stops, hmessage]) hstop hs

end Quiet

variable {fromStr}

theorem mute_iff_barren (c : StreamCall) {s : StreamState} (hs : s.Quiet)
    (events : List (List Char)) :
    Mute (handleEvent fromStr c) s events ↔ Barren fromStr events := by
  induction events generalizing s with
  | nil => exact Iff.rfl
  | cons eventData rest ih =>
      rw [Mute, Barren]
      cases hparsed : fromStr eventData with
      | none =>
          rw [handleEvent, hparsed]
          exact ⟨fun _ => trivial, fun _ => rfl⟩
      | some parsed =>
          have hstep := handleEvent_quiet fromStr c hs hparsed
          generalize handleEvent fromStr c s eventData = step at hstep ⊢
          cases hstep with
          | fails htext hlong =>
              simp only [htext]
              exact ⟨fun _ => hlong, fun _ => trivial⟩
          | emitsText htext hshort item s' =>
              simp only [htext]
              exact ⟨False.elim, fun hlong => hshort hlong⟩
          | emits htext hemits item s' =>
              simp only [htext]
              refine ⟨False.elim, fun hbarren => ?_⟩
              obtain ⟨htool, hstop, -⟩ := hbarren
              rcases hemits with hemits | hemits
              · rw [htool] at hemits
                cases hemits
              · rw [hstop] at hemits
                cases hemits
          | finishes htext hkind event =>
              simp only [htext]
              exact ⟨False.elim, fun h => h.2.2.1 hkind⟩
          | goesOn htext htool hstop hkind hs' =>
              simp only [htext]
              rw [ih hs']
              exact ⟨fun h => ⟨htool, hstop, hkind, h⟩, fun h => h.2.2.2⟩

end AnthropicProvider
end RustyGate
