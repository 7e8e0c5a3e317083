/-
How the streams of the providers end, and what becomes of the text in them.

Which payloads of a body are to be processed is said without the loop (`Reading.processed`):
those in front of the first one that ends the stream, cannot be decoded or has no room for its
text.  `Translates` is what the loop may do with one payload: pass a chunk with its text on, add
the text to what is collected, or end the stream.  From it `streamItems_terminated` derives, for
every body, that the items are chunks and one end behind them, and that no text is lost on the
way.
-/
import RustyGate.Providers.Anthropic
import RustyGate.Providers.OpenAiCompatible

namespace RustyGate

open Text

/-- The text of a chunk. -/
def ChatCompletionChunkResponse.content (chunk : ChatCompletionChunkResponse) : String :=
  String.join (chunk.choices.filterMap (·.delta.content))

@[simp] theorem ChatCompletionChunkResponse.content_fromDelta (id : Uuid) (created : Int)
    (model provider : String) (index : UInt32) (delta : ChatDelta) (reason : Option String) :
    (fromDelta id created model provider index delta reason).content = delta.content.getD "" := by
  show String.join ([_].filterMap _) = _
  cases hcontent : delta.content with
  | none => simp [hcontent]
  | some text => simp [hcontent, String.join_cons]

/-- The chunks as items. -/
def chunkItems (chunks : List ChatCompletionChunkResponse) : List StreamItem :=
  chunks.map fun chunk => .ok (.chunk chunk)

/-- What a provider's payloads say, whatever becomes of them: the text in one, whether it says
that the stream is complete, and whether it can be decoded. -/
structure Reading where
  text : List Char → String
  ends : List Char → Bool
  decodes : List Char → Bool

variable {events : List (List Char)}

namespace Reading

variable (r : Reading) (limit : Nat)

/-- The payloads in front of the first one that says that the stream is complete, cannot be
decoded, or has no room for its text behind `used` characters, and that one. -/
def processed : Nat → List (List Char) → List (List Char) × Option (List Char)
  | _, [] => ([], none)
  | used, eventData :: rest =>
      if r.ends eventData ∨ r.decodes eventData = false ∨
          limit < used + (r.text eventData).length then ([], some eventData)
      else
        (eventData :: (processed (used + (r.text eventData).length) rest).1,
          (processed (used + (r.text eventData).length) rest).2)

variable {r limit}

theorem processed_isPrefixOf (used : Nat) (events : List (List Char)) :
    (r.processed limit used events).1 ++ (r.processed limit used events).2.toList <+: events := by
  induction events generalizing used with
  | nil => exact List.prefix_refl []
  | cons eventData rest ih =>
      rw [processed]
      split
      · exact List.prefix_append [eventData] rest
      · exact List.cons_prefix_cons.mpr ⟨rfl, ih _⟩

theorem processed_append_of_some {used : Nat} {eventData : List Char}
    (h : (r.processed limit used events).2 = some eventData) (later : List (List Char)) :
    r.processed limit used (events ++ later) = r.processed limit used events := by
  induction events generalizing used with
  | nil => cases h
  | cons first rest ih =>
      rw [processed] at h
      rw [List.cons_append, processed, processed]
      split
      · rfl
      · rename_i hpast
        rw [if_neg hpast] at h
        rw [ih h]

theorem processed_append_of_none {used : Nat} (h : (r.processed limit used events).2 = none)
    (later : List (List Char)) :
    (r.processed limit used events).1 = events ∧
      r.processed limit used (events ++ later) =
        (events ++ (r.processed limit (used + (String.join (events.map r.text)).length) later).1,
          (r.processed limit (used + (String.join (events.map r.text)).length) later).2) := by
  induction events generalizing used with
  | nil => exact ⟨rfl, by simp⟩
  | cons first rest ih =>
      rw [processed] at h
      rw [List.cons_append, processed, processed]
      split
      · rename_i hstop
        rw [if_pos hstop] at h
        cases h
      · rename_i hpast
        rw [if_neg hpast] at h
        obtain ⟨hall, happend⟩ := ih h
        rw [happend, hall, List.map_cons, String.join_cons, String.length_append, Nat.add_assoc]
        exact ⟨rfl, rfl⟩

/-- All the payloads are processed exactly if each of them is decoded and none ends the stream,
and there is room for their text. -/
theorem processed_eq_none_iff {used : Nat} (hused : used ≤ limit) :
    (r.processed limit used events).2 = none ↔
      (∀ eventData ∈ events, r.ends eventData = false ∧ r.decodes eventData = true) ∧
        used + (String.join (events.map r.text)).length ≤ limit := by
  induction events generalizing used with
  | nil => simpa [processed] using hused
  | cons first rest ih =>
      rw [processed, List.forall_mem_cons, List.map_cons, String.join_cons, String.length_append,
        ← Nat.add_assoc]
      split
      · rename_i hstop
        simp only [reduceCtorEq, false_iff, not_and]
        rintro ⟨⟨hends, hdecodes⟩, -⟩ hroom
        rcases hstop with hstop | hstop | hstop
        · rw [hends] at hstop
          cases hstop
        · rw [hdecodes] at hstop
          cases hstop
        · omega
      · rename_i hpast
        simp only [not_or, Bool.not_eq_true, Bool.not_eq_false, Nat.not_lt] at hpast
        obtain ⟨hends, hdecodes, hfits⟩ := hpast
        rw [ih hfits]
        simp [hends, hdecodes]

end Reading

/-- The payloads that arrive, up to the place where the body is broken. -/
def payloads : SseDataParser → List (Except TransportError (List UInt8)) → List (List Char)
  | _, [] => []
  | _, .error _ :: _ => []
  | parser, .ok chunk :: rest =>
      match fromUtf8 chunk with
      | none => []
      | some text =>
          match parser.pushChunk text with
          | (.error _, _) => []
          | (.ok events, parser') => events ++ payloads parser' rest

/-- The last item completes the stream if the payload that ended it says so, and is an error
otherwise, also if the body ended first. -/
def Closes (r : Reading) (ended : Option (List Char)) (last : StreamItem) : Prop :=
  (∃ usage, last = .ok (.completed usage)) ∧ (∃ eventData ∈ ended, r.ends eventData = true) ∨
    (∃ error, last = .error error) ∧ ∀ eventData ∈ ended, r.ends eventData = false

/-- The items are chunks and one end.  The chunks hold the text of the payloads that are to be
processed of those that arrive, the stream is completed exactly by a payload that says so, and
there is room for the text behind `front`. -/
def TerminatedBehind (front : String) (r : Reading) (limit : Nat) (arrived : List (List Char))
    (items : List StreamItem) : Prop :=
  ∃ chunks last, items = chunkItems chunks ++ [last] ∧
    Closes r (r.processed limit front.length arrived).2 last ∧
    String.join (chunks.map (·.content)) =
      String.join ((r.processed limit front.length arrived).1.map r.text) ∧
    (front ++ String.join (chunks.map (·.content))).length ≤ limit

/-- What is processed of a body is what arrives, in order, and its items are those of a stream
that is well terminated. -/
structure Faithful (r : Reading) (limit : Nat) (body : List (Except TransportError (List UInt8)))
    (items : List StreamItem) : Prop where
  upstream : (r.processed limit 0 (payloads {} body)).1 ++
    (r.processed limit 0 (payloads {} body)).2.toList <+: payloads {} body
  terminated : TerminatedBehind "" r limit (payloads {} body) items

section Loops

variable {σ : Type} (handle : σ → List Char → EventStep σ)

/-- What a payload may lead to, by what it says. -/
def StepTranslates (collected : σ → String) (limit : Nat) (s : σ) (text : String)
    (ends decodes : Bool) : EventStep σ → Prop
  | .goOn item s' =>
      (ends = false ∧ decodes = true) ∧ collected s' = collected s ++ text ∧
        ((collected s).length ≤ limit → (collected s').length ≤ limit) ∧
        match item with
        | none => text = ""
        | some (.chunk chunk) => chunk.content = text
        | some (.completed _) => False
  | .finish event => (∃ usage, event = .completed usage) ∧ ends = true
  | .fail _ => ends = false ∧ (decodes = false ∨ limit < (collected s).length + text.length)

def Translates (collected : σ → String) (r : Reading) (limit : Nat) : Prop :=
  ∀ s eventData, StepTranslates collected limit s (r.text eventData) (r.ends eventData)
    (r.decodes eventData) (handle s eventData)

variable {handle} {collected : σ → String} {r : Reading} {limit : Nat}

theorem terminatedBehind_error {front : String} (h : front.length ≤ limit)
    (error : ProviderError) : TerminatedBehind front r limit [] [.error error] :=
  ⟨[], .error error, rfl, .inr ⟨⟨error, rfl⟩, fun _ he => nomatch he⟩, rfl, by simpa using h⟩

variable (h : Translates handle collected r limit)

include h

/-- The payloads of one chunk: the loop gets past all of them, or one ends the stream. -/
theorem handleEvents_cases (s : σ) (hs : (collected s).length ≤ limit) (events : List (List Char)) :
    ∃ chunks, (String.join (chunks.map (·.content)) =
          String.join ((r.processed limit (collected s).length events).1.map r.text) ∧
        (collected s ++ String.join (chunks.map (·.content))).length ≤ limit) ∧
      ((∃ s', handleEvents handle s events = (chunkItems chunks, some s') ∧
          collected s' = collected s ++ String.join (chunks.map (·.content)) ∧
          (r.processed limit (collected s).length events).2 = none) ∨
        ∃ last eventData, handleEvents handle s events = (chunkItems chunks ++ [last], none) ∧
          (r.processed limit (collected s).length events).2 = some eventData ∧
          Closes r (some eventData) last) := by
  induction events generalizing s with
  | nil => exact ⟨[], ⟨rfl, by simpa using hs⟩, .inl ⟨s, rfl, by simp, rfl⟩⟩
  | cons eventData rest ih =>
      have hthis := h s eventData
      rw [handleEvents, Reading.processed]
      cases hstep : handle s eventData with
      | finish event =>
          rw [hstep] at hthis
          obtain ⟨⟨usage, rfl⟩, hends⟩ := hthis
          rw [if_pos (.inl hends)]
          exact ⟨[], ⟨rfl, by simpa using hs⟩,
            .inr ⟨_, eventData, rfl, rfl, .inl ⟨⟨usage, rfl⟩, eventData, rfl, hends⟩⟩⟩
      | fail error =>
          rw [hstep] at hthis
          obtain ⟨hends, hstop⟩ := hthis
          rw [if_pos (.inr hstop)]
          refine ⟨[], ⟨rfl, by simpa using hs⟩,
            .inr ⟨_, eventData, rfl, rfl, .inr ⟨⟨error, rfl⟩, fun e he => ?_⟩⟩⟩
          obtain rfl := Option.some.inj he
          exact hends
      | goOn item s' =>
          rw [hstep] at hthis
          obtain ⟨⟨hends, hdecodes⟩, hcollected, hlimit, hitem⟩ := hthis
          have hfits := hlimit hs
          obtain ⟨chunks, ⟨hjoin, hlen⟩, hend⟩ := ih s' hfits
          rw [hcollected, String.length_append] at hfits hjoin hend
          rw [hcollected, String.append_assoc] at hlen
          have hpast : ¬ (r.ends eventData ∨ r.decodes eventData = false ∨
              limit < (collected s).length + (r.text eventData).length) := by
            rw [hends, hdecodes]
            simpa using hfits
          rw [if_neg hpast]
          -- The payload adds the chunk of its item, or no text at all.
          have hfirst : ∃ front, (item.toList.map Except.ok : List StreamItem) = chunkItems front ∧
              String.join (front.map (·.content)) = r.text eventData := by
            cases item with
            | none => exact ⟨[], rfl, hitem.symm⟩
            | some event =>
                cases event with
                | chunk chunk =>
                    have hchunk : chunk.content = r.text eventData := hitem
                    exact ⟨[chunk], rfl, by simp [String.join_cons, hchunk]⟩
                | completed usage => exact hitem.elim
          obtain ⟨front, hfront, htext⟩ := hfirst
          have hall : String.join ((front ++ chunks).map (·.content)) =
              r.text eventData ++ String.join (chunks.map (·.content)) := by
            rw [List.map_append, String.join_append, htext]
          refine ⟨front ++ chunks, ⟨?_, ?_⟩, ?_⟩
          · rw [hall, hjoin, List.map_cons, String.join_cons]
          · rw [hall]
            exact hlen
          · simp only [hfront]
            rcases hend with ⟨s'', hrest, hs'', hnone⟩ | ⟨last, ended, hrest, hended, hlast⟩
            · refine .inl ⟨s'', ?_, ?_, hnone⟩
              · rw [hrest]
                simp [chunkItems]
              · rw [hs'', hall, String.append_assoc]
            · refine .inr ⟨last, ended, ?_, hended, hlast⟩
              rw [hrest]
              simp [chunkItems]

/-- Payloads that are all processed lead to chunks. -/
theorem handleEvents_of_none {s : σ} (hs : (collected s).length ≤ limit)
    (hnone : (r.processed limit (collected s).length events).2 = none) :
    ∃ chunks s', handleEvents handle s events = (chunkItems chunks, some s') := by
  obtain ⟨chunks, -, ⟨s', hrun, -⟩ | ⟨last, ended, -, hended, -⟩⟩ :=
    handleEvents_cases h s hs events
  · exact ⟨chunks, s', hrun⟩
  · rw [hnone] at hended
    cases hended

/-- Payloads that do not end the stream, and are not all processed, lead to an error. -/
theorem handleEvents_of_some {s : σ}
    (hs : (collected s).length ≤ limit) (hends : ∀ eventData ∈ events, r.ends eventData = false)
    (hsome : (r.processed limit (collected s).length events).2 ≠ none) :
    ∃ chunks error, handleEvents handle s events = (chunkItems chunks ++ [.error error], none) := by
  obtain ⟨chunks, -, ⟨s', -, -, hnone⟩ | ⟨last, ended, hrun, hended, hcloses⟩⟩ :=
    handleEvents_cases h s hs events
  · exact absurd hnone hsome
  · have hmem : ended ∈ events := (Reading.processed_isPrefixOf _ _).subset
      (List.mem_append_right _ (Option.mem_toList.mpr hended))
    rcases hcloses with ⟨-, e, he, hdone⟩ | ⟨⟨error, rfl⟩, -⟩
    · obtain rfl := Option.some.inj he
      rw [hends ended hmem] at hdone
      cases hdone
    · exact ⟨chunks, error, hrun⟩

/-- The rule for whole bodies. -/
theorem streamItems_terminated (parser : SseDataParser) (s : σ) (hs : (collected s).length ≤ limit)
    (body : List (Except TransportError (List UInt8))) :
    TerminatedBehind (collected s) r limit (payloads parser body)
      (streamItems handle parser s body) := by
  induction body generalizing parser s with
  | nil => exact terminatedBehind_error hs _
  | cons piece rest ih =>
      cases piece with
      | error error => exact terminatedBehind_error hs _
      | ok chunk =>
          rw [streamItems, payloads]
          cases fromUtf8 chunk with
          | none => exact terminatedBehind_error hs _
          | some decoded =>
              simp only
              rcases parser.pushChunk decoded with ⟨error | events, parser'⟩
              · exact terminatedBehind_error hs _
              · obtain ⟨chunks, ⟨hjoin, hlen⟩, hend⟩ := handleEvents_cases h s hs events
                rcases hend with ⟨s', hrun, hs', hnone⟩ | ⟨last, ended, hrun, hended, hlast⟩
                · -- The chunks of the rest of the body come behind these.
                  obtain ⟨hall, happend⟩ := Reading.processed_append_of_none hnone
                    (payloads parser' rest)
                  rw [hall] at hjoin
                  obtain ⟨later, last, hitems, hlast, hlater, hfits⟩ := ih parser' s'
                    (by rw [hs']; exact hlen)
                  rw [hs', String.length_append, hjoin] at hlast hlater
                  rw [hs', String.append_assoc] at hfits
                  simp only [hrun]
                  refine ⟨chunks ++ later, last, ?_, ?_, ?_, ?_⟩
                  · rw [hitems]
                    simp only [chunkItems, List.map_append, List.append_assoc]
                  · rw [happend]
                    exact hlast
                  · rw [happend]
                    simp only [List.map_append, String.join_append, hjoin, hlater]
                  · rw [List.map_append, String.join_append]
                    exact hfits
                · simp only [hrun]
                  refine ⟨chunks, last, rfl, ?_, ?_, hlen⟩
                  · rw [Reading.processed_append_of_some hended, hended]
                    exact hlast
                  · rw [Reading.processed_append_of_some hended]
                    exact hjoin

theorem streamItems_faithful {s : σ}
    (hs : collected s = "") (body : List (Except TransportError (List UInt8))) :
    Faithful r limit body (streamItems handle {} s body) where
  upstream := Reading.processed_isPrefixOf 0 _
  terminated := by
    have hbehind := streamItems_terminated h {} s (by simp [hs]) body
    rw [hs] at hbehind
    exact hbehind

end Loops

/-! ## The two providers -/

namespace OpenAiCompatibleProvider

/-- The text of a payload: that of the first choice. -/
def textOf (fromStr : List Char → Option OpenAiStreamChunk) (eventData : List Char) : String :=
  (((fromStr eventData).bind fun parsed => parsed.choices.head?).bind
    fun choice => (choice.delta.getD {}).content).getD ""

/-- What a payload says. -/
def reading (fromStr : List Char → Option OpenAiStreamChunk) : Reading where
  text := textOf fromStr
  ends := fun eventData => eventData = "[DONE]".toList
  decodes := fun eventData => (fromStr eventData).isSome

theorem translates (fromStr : List Char → Option OpenAiStreamChunk) (c : StreamCall) :
    Translates (handleEvent fromStr c) StreamState.completionText (reading fromStr)
      maxStreamOutputChars := by
  intro s eventData
  rw [handleEvent]
  by_cases hdone : eventData = "[DONE]".toList
  · rw [if_pos hdone]
    exact ⟨⟨_, rfl⟩, decide_eq_true hdone⟩
  have hends : (reading fromStr).ends eventData = false := decide_eq_false hdone
  rw [if_neg hdone, hends]
  simp only [reading, textOf]
  cases fromStr eventData with
  | none => exact ⟨rfl, .inl rfl⟩
  | some parsed =>
      simp only [Option.bind_some]
      cases parsed.choices with
      | nil => exact ⟨⟨rfl, rfl⟩, by simp, id, rfl⟩
      | cons choice choices =>
          simp only [List.head?_cons, Option.bind_some]
          cases hcontent : (choice.delta.getD {}).content with
          | none => exact ⟨⟨rfl, rfl⟩, by simp, id, by simp [chunkFor, hcontent]⟩
          | some content =>
              simp only
              split
              · rename_i hlong
                exact ⟨rfl, .inr hlong⟩
              · rename_i hfits
                refine ⟨⟨rfl, rfl⟩, rfl, fun _ => ?_, by simp [chunkFor, hcontent]⟩
                show (s.completionText ++ content).length ≤ maxStreamOutputChars
                rw [String.length_append]
                omega

end OpenAiCompatibleProvider

namespace AnthropicProvider

/-- The text of a payload: that of a `text_delta`. -/
def payloadText (fromStr : List Char → Option AnthropicStreamEvent) (eventData : List Char) :
    String :=
  ((fromStr eventData).bind textOf).getD ""

/-- The payload is a `message_stop`. -/
def Stops (fromStr : List Char → Option AnthropicStreamEvent) (eventData : List Char) : Prop :=
  ∃ parsed, fromStr eventData = some parsed ∧ parsed.kind = "message_stop"

/-- What a payload says. -/
def reading (fromStr : List Char → Option AnthropicStreamEvent) : Reading where
  text := payloadText fromStr
  ends := fun eventData => (fromStr eventData).any (·.kind == "message_stop")
  decodes := fun eventData => (fromStr eventData).isSome

section Quiet

variable {s s' : StreamState}

/-- A payload that is not passed on. -/
theorem stepTranslates_none (hs : s'.completionText = s.completionText) :
    StepTranslates StreamState.completionText maxStreamOutputChars s "" false true
      (.goOn none s') :=
  ⟨⟨rfl, rfl⟩, by rw [hs, String.append_empty], fun hlen => hs ▸ hlen, rfl⟩

/-- A payload that is passed on as a chunk without text. -/
theorem stepTranslates_chunk (hs : s'.completionText = s.completionText) (c : StreamCall)
    {delta : ChatDelta} (hdelta : delta.content = none) (reason : Option String) :
    StepTranslates StreamState.completionText maxStreamOutputChars s "" false true
      (.goOn (some (chunkFor c delta reason)) s') := by
  refine ⟨⟨rfl, rfl⟩, by rw [hs, String.append_empty], fun hlen => hs ▸ hlen, ?_⟩
  show (ChatCompletionChunkResponse.fromDelta ..).content = ""
  rw [ChatCompletionChunkResponse.content_fromDelta, hdelta]
  rfl

/-- What the translator of tool calls makes of a payload. -/
theorem stepTranslates_tool (hs : s'.completionText = s.completionText) (c : StreamCall)
    {translated : Option ChatDelta} (htranslated : ∀ delta ∈ translated, delta.content = none) :
    StepTranslates StreamState.completionText maxStreamOutputChars s "" false true
      (.goOn (translated.map fun delta => chunkFor c delta none) s') := by
  cases translated with
  | none => exact stepTranslates_none hs
  | some delta => exact stepTranslates_chunk hs c (htranslated delta rfl) none

end Quiet

/-- The deltas of a tool call have no text. -/
theorem content_contentBlockStart (t : AnthropicToolStreamTranslator) (index : UInt32)
    (block : AnthropicContentBlock) :
    ∀ delta ∈ (t.contentBlockStart index block).1, delta.content = none := by
  unfold AnthropicToolStreamTranslator.contentBlockStart
  split
  · intro delta hdelta
    cases hdelta
  · intro delta hdelta
    obtain rfl := Option.some.inj hdelta
    rfl

theorem content_inputJsonDelta (t : AnthropicToolStreamTranslator) (partialJson : String) :
    ∀ delta ∈ (t.inputJsonDelta partialJson).1, delta.content = none := by
  unfold AnthropicToolStreamTranslator.inputJsonDelta
  split
  · intro delta hdelta
    cases hdelta
  · intro delta hdelta
    obtain rfl := Option.some.inj hdelta
    rfl

theorem content_feed (t : AnthropicToolStreamTranslator) (event : AnthropicStreamEvent) :
    ∀ delta ∈ (t.feed event).1, delta.content = none := by
  have hnothing : ∀ delta ∈ (none : Option ChatDelta), delta.content = none :=
    fun _ hdelta => nomatch hdelta
  unfold AnthropicToolStreamTranslator.feed
  split
  · split
    · exact content_contentBlockStart t _ _
    · exact hnothing
  · split
    · split
      · exact content_inputJsonDelta t _
      · exact hnothing
    · exact hnothing

theorem contentBlockDelta_translates (c : StreamCall) (s : StreamState)
    {parsed : AnthropicStreamEvent} (hkind : parsed.kind = "content_block_delta") :
    StepTranslates StreamState.completionText maxStreamOutputChars s ((textOf parsed).getD "")
      false true (contentBlockDelta c s parsed) := by
  cases htext : textOf parsed with
  | none =>
      rw [contentBlockDelta_feed c s hkind htext]
      apply stepTranslates_tool
      · rfl
      · exact content_feed s.toolTranslator parsed
  | some content =>
      rw [contentBlockDelta_text c s htext]
      split
      · rename_i hlong
        exact ⟨rfl, .inr hlong⟩
      · rename_i hfits
        refine ⟨⟨rfl, rfl⟩, rfl, fun _ => ?_, ?_⟩
        · show (s.completionText ++ content).length ≤ maxStreamOutputChars
          rw [String.length_append]
          omega
        · show (ChatCompletionChunkResponse.fromDelta ..).content = content
          rw [ChatCompletionChunkResponse.content_fromDelta]
          rfl

theorem contentBlockStart_translates (c : StreamCall) (s : StreamState)
    {parsed : AnthropicStreamEvent} (hkind : parsed.kind = "content_block_start") :
    StepTranslates StreamState.completionText maxStreamOutputChars s "" false true
      (contentBlockStart c s parsed) := by
  rw [contentBlockStart_feed c s hkind]
  apply stepTranslates_tool
  · rfl
  · exact content_feed s.toolTranslator parsed

theorem messageDelta_translates (c : StreamCall) (s : StreamState) (parsed : AnthropicStreamEvent) :
    StepTranslates StreamState.completionText maxStreamOutputChars s "" false true
      (messageDelta c s parsed) := by
  unfold messageDelta
  simp only
  split
  · exact stepTranslates_none rfl
  · apply stepTranslates_chunk
    · rfl
    · rfl

theorem translates (fromStr : List Char → Option AnthropicStreamEvent) (c : StreamCall) :
    Translates (handleEvent fromStr c) StreamState.completionText (reading fromStr)
      maxStreamOutputChars := by
  intro s eventData
  simp only [handleEvent, reading, payloadText]
  cases fromStr eventData with
  | none => exact ⟨rfl, .inl rfl⟩
  | some parsed =>
      simp only [Option.bind_some, Option.any_some, Option.isSome_some]
      by_cases hstop : parsed.kind = "message_stop"
      · simp only [hstop]
        exact ⟨⟨_, rfl⟩, rfl⟩
      have hends : (parsed.kind == "message_stop") = false := beq_false_of_ne hstop
      rw [hends, if_neg hstop]
      by_cases hdelta : parsed.kind = "content_block_delta"
      · rw [if_neg (by simp [hdelta]), if_pos hdelta]
        exact contentBlockDelta_translates c s hdelta
      -- No other event has text.
      have htext : (textOf parsed).getD "" = "" := by simp [textOf, hdelta]
      rw [htext, if_neg hdelta]
      by_cases hstart : parsed.kind = "message_start"
      · rw [if_pos hstart, messageStart]
        split
        · exact stepTranslates_none rfl
        · exact stepTranslates_none rfl
      rw [if_neg hstart]
      by_cases hblock : parsed.kind = "content_block_start"
      · rw [if_pos hblock]
        exact contentBlockStart_translates c s hblock
      rw [if_neg hblock]
      by_cases hmessage : parsed.kind = "message_delta"
      · rw [if_pos hmessage]
        exact messageDelta_translates c s parsed
      rw [if_neg hmessage]
      exact stepTranslates_none rfl

end AnthropicProvider

/-- The provider's answer is turned into a stream that is faithful to its body. -/
def OpenAiCompatibleProvider.StreamsFaithfully (provider : OpenAiCompatibleProvider)
    (fromStr : List Char → Option OpenAiStreamChunk) (responseId : Uuid) (created : Int)
    (request : ChatCompletionRequest) (response : HttpResponse) : Prop :=
  let c := provider.streamCall responseId created request
  ∃ items, provider.chatCompletionStream fromStr responseId created request (.ok response) =
      .ok (c.context, items) ∧
    Faithful (reading fromStr) maxStreamOutputChars response.body items

def AnthropicProvider.StreamsFaithfully (provider : AnthropicProvider)
    (fromStr : List Char → Option AnthropicStreamEvent) (responseId : Uuid) (created : Int)
    (request : ChatCompletionRequest) (response : HttpResponse) : Prop :=
  let c := provider.streamCall responseId created request
  ∃ items, provider.chatCompletionStream fromStr responseId created request (.ok response) =
      .ok (c.context, items) ∧
    Faithful (reading fromStr) maxStreamOutputChars response.body items

theorem provider_streams_faithful (openAi : OpenAiCompatibleProvider)
    (anthropic : AnthropicProvider) (openAiFromStr : List Char → Option OpenAiStreamChunk)
    (anthropicFromStr : List Char → Option AnthropicStreamEvent) (responseId : Uuid)
    (created : Int) (request : ChatCompletionRequest) {response : HttpResponse}
    (hsuccess : response.isSuccess = true) :
    openAi.StreamsFaithfully openAiFromStr responseId created request response ∧
      anthropic.StreamsFaithfully anthropicFromStr responseId created request response := by
  constructor
  · refine ⟨_, if_pos hsuccess, ?_⟩
    exact streamItems_faithful (OpenAiCompatibleProvider.translates openAiFromStr _) rfl _
  · refine ⟨_, if_pos hsuccess, ?_⟩
    exact streamItems_faithful (AnthropicProvider.translates anthropicFromStr _) rfl _

/-- A body with a text and its end for each provider, the second in two network chunks. -/
theorem provider_streams_faithful_done :
    let openAiFromStr := fun eventData => if eventData = "hi".toList then
      some { choices := [{ delta := some { content := some "Hi" } }] } else none
    let anthropicFromStr := fun eventData => if eventData = "hi".toList then
      some { kind := "content_block_delta"
             delta := some { kind := "text_delta", text := some "Hi" } }
      else if eventData = "stop".toList then some { kind := "message_stop" } else none
    let done : HttpResponse := ⟨200, [.ok (toUtf8 "data: hi\n\ndata: [DONE]\n\n".toList)]⟩
    let stopped : HttpResponse :=
      ⟨200, [.ok (toUtf8 "data: hi\n\nda".toList), .ok (toUtf8 "ta: stop\n\n".toList)]⟩
    ((OpenAiCompatibleProvider.mk "p" "m").StreamsFaithfully openAiFromStr 0 0
        { model := none, messages := [] } done ∧
      (OpenAiCompatibleProvider.reading openAiFromStr).processed 10 0 (payloads {} done.body) =
        (["hi".toList], some "[DONE]".toList)) ∧
    (AnthropicProvider.mk "p" "m").StreamsFaithfully anthropicFromStr 0 0
        { model := none, messages := [] } stopped ∧
      (AnthropicProvider.reading anthropicFromStr).processed 10 0 (payloads {} stopped.body) =
        (["hi".toList], some "stop".toList) := by
  intro openAiFromStr anthropicFromStr done stopped
  have hfaithful : ∀ response : HttpResponse, response.isSuccess = true → _ := fun response =>
    provider_streams_faithful ⟨"p", "m"⟩ ⟨"p", "m"⟩ openAiFromStr anthropicFromStr 0 0
      { model := none, messages := [] }
  exact ⟨⟨(hfaithful done rfl).1, by decide +kernel⟩, (hfaithful stopped rfl).2,
    by decide +kernel⟩

end RustyGate
