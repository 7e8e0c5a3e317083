/-
Chunks pushed one after another into the parser of server-sent events.

How a text is cut into chunks makes no difference (`pushChunks_ok`).  How its lines end
does: the loop looks for two line feeds in a row, and a text whose lines end in a carriage
return and a line feed has none (`cut_withCarriageReturns`).
-/
import RustyGate.Providers.Sse

namespace RustyGate

open Text

namespace SseDataParser

/-- The events of some chunks, pushed as long as no call fails. -/
def pushChunks : SseDataParser → List (List Char) →
    Except ProviderError (List (List Char) × SseDataParser)
  | parser, [] => .ok ([], parser)
  | parser, chunk :: rest =>
      match parser.pushChunk chunk with
      | (.error error, _) => .error error
      | (.ok events, parser) =>
          (pushChunks parser rest).map fun later => (events ++ later.1, later.2)

variable {parser : SseDataParser} {chunk : List Char}

/-- One more chunk, of which the events come first. -/
theorem pushChunks_cons_ok {rest events : List (List Char)} {last : SseDataParser}
    (h : parser.pushChunks (chunk :: rest) = .ok (events, last)) :
    ∃ later, (⟨restOf (parser.buffer ++ chunk)⟩ : SseDataParser).pushChunks rest =
        .ok (later, last) ∧
      events = eventsOf (parser.buffer ++ chunk) ++ later := by
  by_cases hfits : utf8Len parser.buffer + utf8Len chunk ≤ maxSseBufferBytes
  · rw [pushChunks, pushChunk_of_fits hfits] at h
    simp only at h
    generalize pushChunks _ rest = pushed at h
    cases pushed with
    | error error => cases h
    | ok later =>
        cases h
        exact ⟨later.1, rfl, rfl⟩
  · rw [pushChunks, pushChunk_of_too_long (Nat.not_le.mp hfits)] at h
    cases h

/-- The buffer and the chunks are read as one text. -/
theorem pushChunks_ok {chunks events : List (List Char)} {last : SseDataParser}
    (hbuffer : Delimited.cut eventDelimiter parser.buffer = none)
    (h : parser.pushChunks chunks = .ok (events, last)) :
    events = eventsOf (parser.buffer ++ chunks.flatten) ∧
      last.buffer = restOf (parser.buffer ++ chunks.flatten) := by
  induction chunks generalizing parser events with
  | nil =>
      obtain ⟨hevents, hrest⟩ := eventsOf_of_cut_none hbuffer
      cases h
      rw [List.flatten_nil, List.append_nil, hevents, hrest]
      exact ⟨rfl, rfl⟩
  | cons chunk rest ih =>
      obtain ⟨later, hlater, rfl⟩ := pushChunks_cons_ok h
      obtain ⟨rfl, hlast⟩ := ih (Delimited.cut_rest eventDelimiter_ne_nil _) hlater
      rw [List.flatten_cons, ← List.append_assoc, eventsOf_append (parser.buffer ++ chunk),
        restOf_append (parser.buffer ++ chunk)]
      exact ⟨rfl, hlast⟩

/-- A parser that starts empty has read the events of the whole text, and keeps what stands
behind the last of them. -/
theorem pushChunks_new_ok {chunks events : List (List Char)} {last : SseDataParser}
    (h : pushChunks {} chunks = .ok (events, last)) :
    events = eventsOf chunks.flatten ∧ last.buffer = restOf chunks.flatten :=
  pushChunks_ok rfl h

theorem utf8Len_le_of_mem_eventsOf {t eventData : List Char} (h : eventData ∈ eventsOf t) :
    utf8Len eventData ≤ utf8Len t := by
  cases hcut : Delimited.cut eventDelimiter t with
  | none =>
      rw [(eventsOf_of_cut_none hcut).1] at h
      cases h
  | some found =>
      have hshorter := Delimited.length_lt_of_cut eventDelimiter_ne_nil hcut
      have hlen := utf8Len_cut hcut
      rw [(eventsOf_of_cut_some hcut).1] at h
      rcases List.mem_append.mp h with hfirst | hlater
      · have hdata := utf8Len_parseEventData (Option.mem_toList.mp hfirst)
        omega
      · have hlater := utf8Len_le_of_mem_eventsOf hlater
        omega
termination_by t.length

/-- The parser reads a text as a whole, however it is cut into chunks that are all accepted:
the events are the data of the segments that end at an empty line, and the buffer is what
stands behind the last of these.  In any state a call fails exactly if the chunk does not
fit into the buffer, and then it changes nothing.  No event is longer than the limit. -/
theorem pushChunks_incremental :
    (∀ (chunks events : List (List Char)) (last : SseDataParser),
      pushChunks {} chunks = .ok (events, last) →
        events = (Delimited.pieces eventDelimiter eventDelimiter_ne_nil
          chunks.flatten).1.filterMap parseEventData ∧
        last.buffer =
          (Delimited.pieces eventDelimiter eventDelimiter_ne_nil chunks.flatten).2 ∧
        ¬ eventDelimiter <:+: last.buffer) ∧
      ∀ (parser : SseDataParser) (chunk : List Char),
        ((∃ error, (parser.pushChunk chunk).1 = .error error) ↔
          maxSseBufferBytes < utf8Len parser.buffer + utf8Len chunk) ∧
        ((∃ error, (parser.pushChunk chunk).1 = .error error) →
          (parser.pushChunk chunk).2 = parser) ∧
        ∀ events, (parser.pushChunk chunk).1 = .ok events →
          ∀ eventData ∈ events, utf8Len eventData ≤ maxSseEventBytes := by
  constructor
  · intro chunks events last h
    obtain ⟨hevents, hbuffer⟩ := pushChunks_new_ok h
    refine ⟨hevents, hbuffer, ?_⟩
    rw [hbuffer]
    exact Delimited.not_infix_of_cut_none (Delimited.cut_rest eventDelimiter_ne_nil _)
  · intro parser chunk
    by_cases hlong : maxSseBufferBytes < utf8Len parser.buffer + utf8Len chunk
    · rw [pushChunk_of_too_long hlong]
      refine ⟨⟨fun _ => hlong, fun _ => ⟨_, rfl⟩⟩, fun _ => rfl, ?_⟩
      intro events h
      cases h
    · have hfits := Nat.not_lt.mp hlong
      rw [pushChunk_of_fits hfits]
      refine ⟨⟨?_, fun h => absurd h hlong⟩, ?_, ?_⟩
      · intro ⟨error, h⟩
        cases h
      · intro ⟨error, h⟩
        cases h
      · intro events h eventData hmem
        cases h
        have hlen := utf8Len_le_of_mem_eventsOf hmem
        rw [utf8Len_append] at hlen
        exact Nat.le_trans hlen hfits

/-- An event that arrives in three chunks, and the start of a second one. -/
theorem pushChunks_incremental_three :
    pushChunks {} ["data: a".toList, "\n".toList, "\nda".toList] =
        .ok (["a".toList], ⟨"da".toList⟩) ∧
      ["a".toList] = (Delimited.pieces eventDelimiter eventDelimiter_ne_nil
        ["data: a".toList, "\n".toList, "\nda".toList].flatten).1.filterMap parseEventData := by
  have hrun : pushChunks {} ["data: a".toList, "\n".toList, "\nda".toList] =
      .ok (["a".toList], ⟨"da".toList⟩) := by
    decide +kernel
  exact ⟨hrun, (pushChunks_incremental.1 _ _ _ hrun).1⟩

/-! ## Line endings -/

/-- The text with a carriage return in front of every line feed. -/
def withCarriageReturns (text : List Char) : List Char :=
  text.flatMap fun c => if c = '\n' then ['\r', '\n'] else [c]

theorem withCarriageReturns_lineFeed (text : List Char) :
    withCarriageReturns ('\n' :: text) = '\r' :: '\n' :: withCarriageReturns text := rfl

theorem withCarriageReturns_other {c : Char} (hc : c ≠ '\n') (text : List Char) :
    withCarriageReturns (c :: text) = c :: withCarriageReturns text := by
  rw [withCarriageReturns, List.flatMap_cons, if_neg hc]
  rfl

theorem head?_withCarriageReturns_ne (text : List Char) :
    (withCarriageReturns text).head? ≠ some '\n' := by
  cases text with
  | nil => simp [withCarriageReturns]
  | cons c rest =>
      by_cases hc : c = '\n'
      · subst hc
        rw [withCarriageReturns_lineFeed]
        simp
      · rw [withCarriageReturns_other hc]
        simpa using hc

/-- An empty line starts where two line feeds do. -/
theorem cut_cons_of_head?_ne {c : Char} {text : List Char}
    (h : c ≠ '\n' ∨ text.head? ≠ some '\n') (hrest : Delimited.cut eventDelimiter text = none) :
    Delimited.cut eventDelimiter (c :: text) = none := by
  have hstart : ¬ eventDelimiter.isPrefixOf (c :: text) = true := by
    intro hprefix
    obtain ⟨later, hlater⟩ := List.isPrefixOf_iff_prefix.mp hprefix
    injection hlater with hc htext
    rcases h with hne | hne
    · exact hne hc.symm
    · rw [← htext] at hne
      exact hne rfl
  rw [Delimited.cut, if_neg hstart, hrest]
  rfl

theorem cut_withCarriageReturns (text : List Char) :
    Delimited.cut eventDelimiter (withCarriageReturns text) = none := by
  induction text with
  | nil => rfl
  | cons c rest ih =>
      by_cases hc : c = '\n'
      · subst hc
        rw [withCarriageReturns_lineFeed]
        apply cut_cons_of_head?_ne (.inl (by decide))
        exact cut_cons_of_head?_ne (.inr (head?_withCarriageReturns_ne rest)) ih
      · rw [withCarriageReturns_other hc]
        exact cut_cons_of_head?_ne (.inl hc) ih

/-- A text and the same text with carriage returns have the same events, in whatever chunks
they are pushed, exactly if no segment of the text has data: with carriage returns there are
no events at all. -/
theorem lineEndings_agree_iff {text : List Char} {chunks crlfChunks events crlfEvents :
      List (List Char)} {last crlfLast : SseDataParser} (htext : chunks.flatten = text)
    (hcrlf : crlfChunks.flatten = withCarriageReturns text)
    (hpushed : pushChunks {} chunks = .ok (events, last))
    (hcrlfPushed : pushChunks {} crlfChunks = .ok (crlfEvents, crlfLast)) :
    events = crlfEvents ↔
      ∀ segment ∈ (Delimited.pieces eventDelimiter eventDelimiter_ne_nil text).1,
        parseEventData segment = none := by
  have hevents : events = eventsOf text := by
    rw [(pushChunks_new_ok hpushed).1, htext]
  have hnone : crlfEvents = [] := by
    rw [(pushChunks_new_ok hcrlfPushed).1, hcrlf]
    exact (eventsOf_of_cut_none (cut_withCarriageReturns text)).1
  rw [hevents, hnone, eventsOf, List.filterMap_eq_nil_iff]

/-- A comment, which has no data with either kind of line ending. -/
theorem lineEndings_agree_comment :
    pushChunks {} [": hi\n\n".toList] = .ok ([], {}) ∧
      pushChunks {} [": hi\r\n\r\n".toList] = .ok ([], ⟨": hi\r\n\r\n".toList⟩) ∧
      ∀ segment ∈ (Delimited.pieces eventDelimiter eventDelimiter_ne_nil ": hi\n\n".toList).1,
        parseEventData segment = none := by
  have hpushed : pushChunks {} [": hi\n\n".toList] = .ok ([], {}) := by decide +kernel
  have hcrlfPushed : pushChunks {} [": hi\r\n\r\n".toList] =
      .ok ([], ⟨": hi\r\n\r\n".toList⟩) := by decide +kernel
  exact ⟨hpushed, hcrlfPushed,
    (lineEndings_agree_iff (by decide) (by decide) hpushed hcrlfPushed).mp rfl⟩

/-- An event whose lines end in line feeds is returned, and the same event whose lines end
in carriage returns and line feeds stays in the buffer. -/
theorem event_with_carriage_returns_lost :
    pushChunks {} ["data: a\n\n".toList] = .ok (["a".toList], {}) ∧
      pushChunks {} [withCarriageReturns "data: a\n\n".toList] =
        .ok ([], ⟨"data: a\r\n\r\n".toList⟩) ∧
      ["a".toList] ≠ [] := by
  decide +kernel

end SseDataParser
end RustyGate
