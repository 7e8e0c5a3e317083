/-
Server-sent events from a provider (`src/providers/sse.rs`).

The parser keeps the text it has not used yet.  An event ends at an empty line, and its
data are those lines of it that start with `data:`.

The limits inside the loop are never met (`drainEvents_eq`), so the only call that fails is
one whose chunk does not fit into the buffer, and it changes nothing (`pushChunk_of_too_long`).
The events of a body are those of `eventsOf`, however it arrives: `pieces_append` carries it
from chunk to chunk.
-/
import RustyGate.Error
import RustyGate.Text.Delimited
import RustyGate.Text.Str
import RustyGate.Text.Utf8

namespace RustyGate

open Text

def maxSseBufferBytes : Nat := 256 * 1024
def maxSseEventBytes : Nat := 256 * 1024

structure SseDataParser where
  buffer : List Char := []
  deriving DecidableEq

def parseEventData (rawEvent : List Char) : Option (List Char) :=
  let dataLines := (((lines rawEvent).filterMap (·.dropPrefix? "data:".toList)).map
    trimStart).filter fun line => !line.isEmpty
  if dataLines.isEmpty then none else some (['\n'].intercalate dataLines)

def eventDelimiter : List Char := ['\n', '\n']

theorem eventDelimiter_ne_nil : eventDelimiter ≠ [] := List.cons_ne_nil _ _

/-- The loop of `push_chunk`: the events in the buffer, and the buffer it leaves, also where
it fails. -/
def drainEvents (buffer : List Char) : Except ProviderError (List (List Char)) × List Char :=
  match _h : Delimited.cut eventDelimiter buffer with
  | none => (.ok [], buffer)
  | some (rawEvent, rest) =>
      if maxSseEventBytes < utf8Len rawEvent then (.error .providerBadResponse, buffer)
      else
        match parseEventData rawEvent with
        | none => drainEvents rest
        | some eventData =>
            if maxSseEventBytes < utf8Len eventData then (.error .providerBadResponse, rest)
            else ((drainEvents rest).1.map (eventData :: ·), (drainEvents rest).2)
termination_by buffer.length
decreasing_by all_goals exact Delimited.length_lt_of_cut eventDelimiter_ne_nil _h

namespace SseDataParser

/-- `push_chunk`: what it returns, and the parser afterwards. -/
def pushChunk (parser : SseDataParser) (chunk : List Char) :
    Except ProviderError (List (List Char)) × SseDataParser :=
  if maxSseBufferBytes < utf8Len parser.buffer + utf8Len chunk then
    (.error .providerBadResponse, parser)
  else
    ((drainEvents (parser.buffer ++ chunk)).1, ⟨(drainEvents (parser.buffer ++ chunk)).2⟩)

end SseDataParser

/-! ## Sizes -/

/-- The bytes of some lines, with one for the end of each. -/
def linesLen (ls : List (List Char)) : Nat := (ls.map fun line => utf8Len line + 1).sum

@[simp] theorem linesLen_nil : linesLen [] = 0 := rfl

@[simp] theorem linesLen_cons (line : List Char) (ls : List (List Char)) :
    linesLen (line :: ls) = utf8Len line + 1 + linesLen ls := by
  simp [linesLen]

@[simp] theorem linesLen_append (ls ls' : List (List Char)) :
    linesLen (ls ++ ls') = linesLen ls + linesLen ls' := by
  simp [linesLen]

theorem utf8Len_intercalate {ls : List (List Char)} (h : ls ≠ []) :
    utf8Len (['\n'].intercalate ls) + 1 = linesLen ls := by
  induction ls with
  | nil => exact absurd rfl h
  | cons line rest ih =>
      cases rest with
      | nil => simp [List.intercalate]
      | cons next rest =>
          have hrest := ih (List.cons_ne_nil next rest)
          have hone : utf8Len ['\n'] = 1 := rfl
          rw [List.intercalate_cons_cons, utf8Len_append, utf8Len_append, linesLen_cons, hone]
          omega

theorem linesLen_splitOn (t : List Char) : linesLen (t.splitOn '\n') = utf8Len t + 1 := by
  rw [← utf8Len_intercalate (List.splitOn_ne_nil '\n' t), List.intercalate_splitOn]

/-- Lines that only get shorter, and fewer. -/
theorem linesLen_map_le {f : List Char → List Char} (hf : ∀ line, utf8Len (f line) ≤ utf8Len line)
    (ls : List (List Char)) : linesLen (ls.map f) ≤ linesLen ls := by
  induction ls with
  | nil => exact Nat.le_refl 0
  | cons line rest ih =>
      have hline := hf line
      simp only [List.map_cons, linesLen_cons]
      omega

theorem linesLen_filterMap_le {f : List Char → Option (List Char)}
    (hf : ∀ line line', f line = some line' → utf8Len line' ≤ utf8Len line)
    (ls : List (List Char)) : linesLen (ls.filterMap f) ≤ linesLen ls := by
  induction ls with
  | nil => exact Nat.le_refl 0
  | cons line rest ih =>
      cases hline : f line with
      | none =>
          rw [List.filterMap_cons_none hline, linesLen_cons]
          omega
      | some line' =>
          have hle := hf line line' hline
          rw [List.filterMap_cons_some hline, linesLen_cons, linesLen_cons]
          omega

theorem linesLen_filter_le (f : List Char → Bool) (ls : List (List Char)) :
    linesLen (ls.filter f) ≤ linesLen ls := by
  rw [← List.filterMap_eq_filter]
  refine linesLen_filterMap_le (fun line line' h => ?_) ls
  obtain ⟨-, rfl⟩ : f line = true ∧ line = line' := by simpa [Option.guard] using h
  exact Nat.le_refl _

theorem utf8Len_le_of_sublist {t u : List Char} (h : t.Sublist u) : utf8Len t ≤ utf8Len u := by
  induction h with
  | slnil => exact Nat.le_refl 0
  | cons c _ ih =>
      rw [utf8Len_cons]
      omega
  | cons_cons c _ ih =>
      rw [utf8Len_cons, utf8Len_cons]
      omega

theorem linesLen_lines_le (t : List Char) : linesLen (lines t) ≤ utf8Len t + 1 := by
  have hparts := linesLen_splitOn t
  have hne := List.splitOn_ne_nil '\n' t
  simp only [lines]
  generalize t.splitOn '\n' = parts at hparts hne
  have hsplit : linesLen parts = linesLen parts.dropLast + linesLen parts.getLast?.toList := by
    rw [← linesLen_append, List.getLast?_eq_some_getLast hne, Option.toList_some,
      List.dropLast_concat_getLast hne]
  have hstrip : ∀ line, utf8Len (stripCarriageReturn line) ≤ utf8Len line := by
    intro line
    unfold stripCarriageReturn
    split
    · exact utf8Len_le_of_sublist (List.dropLast_sublist line)
    · exact Nat.le_refl _
  have hfront := linesLen_map_le hstrip parts.dropLast
  have hlast := linesLen_filter_le (fun line => !line.isEmpty) parts.getLast?.toList
  rw [linesLen_append]
  omega

/-- The data of an event are no longer than the event. -/
theorem utf8Len_parseEventData {rawEvent eventData : List Char}
    (h : parseEventData rawEvent = some eventData) : utf8Len eventData ≤ utf8Len rawEvent := by
  have hdrop : ∀ line line' : List Char, line.dropPrefix? "data:".toList = some line' →
      utf8Len line' ≤ utf8Len line := by
    intro line line' hline
    obtain ⟨front, rfl, -⟩ := List.dropPrefix?_eq_some_iff.mp hline
    rw [utf8Len_append]
    omega
  have htrim : ∀ line, utf8Len (trimStart line) ≤ utf8Len line :=
    fun line => utf8Len_le_of_sublist (List.dropWhile_sublist _)
  have hlines := linesLen_lines_le rawEvent
  have hdata := linesLen_filterMap_le hdrop (lines rawEvent)
  have htrimmed := linesLen_map_le htrim ((lines rawEvent).filterMap (·.dropPrefix? "data:".toList))
  have hkept := linesLen_filter_le (fun line => !line.isEmpty)
    (((lines rawEvent).filterMap (·.dropPrefix? "data:".toList)).map trimStart)
  simp only [parseEventData] at h
  generalize List.filter _ _ = dataLines at h hkept
  by_cases hempty : dataLines.isEmpty = true
  · rw [if_pos hempty] at h
    cases h
  · rw [if_neg hempty] at h
    obtain rfl := Option.some.inj h
    have hjoined := utf8Len_intercalate fun hnil => hempty (List.isEmpty_iff.mpr hnil)
    omega

/-! ## Events -/

/-- The data of the events of a text. -/
def eventsOf (t : List Char) : List (List Char) :=
  (Delimited.pieces eventDelimiter eventDelimiter_ne_nil t).1.filterMap parseEventData

/-- What stands behind the last event. -/
def restOf (t : List Char) : List Char :=
  (Delimited.pieces eventDelimiter eventDelimiter_ne_nil t).2

theorem eventsOf_append (t u : List Char) :
    eventsOf (t ++ u) = eventsOf t ++ eventsOf (restOf t ++ u) := by
  simp only [eventsOf, restOf]
  rw [Delimited.pieces_append, List.filterMap_append]

theorem restOf_append (t u : List Char) : restOf (t ++ u) = restOf (restOf t ++ u) := by
  simp only [restOf]
  rw [Delimited.pieces_append]

theorem eventsOf_of_cut_none {t : List Char} (h : Delimited.cut eventDelimiter t = none) :
    eventsOf t = [] ∧ restOf t = t := by
  rw [eventsOf, restOf, Delimited.pieces_of_cut_none _ h]
  exact ⟨rfl, rfl⟩

theorem eventsOf_restOf (t : List Char) : eventsOf (restOf t) = [] :=
  (eventsOf_of_cut_none (Delimited.cut_rest eventDelimiter_ne_nil t)).1

theorem eventsOf_of_cut_some {t rawEvent rest : List Char}
    (h : Delimited.cut eventDelimiter t = some (rawEvent, rest)) :
    eventsOf t = (parseEventData rawEvent).toList ++ eventsOf rest ∧ restOf t = restOf rest := by
  rw [eventsOf, restOf, Delimited.pieces_of_cut_some _ h]
  refine ⟨?_, rfl⟩
  cases hdata : parseEventData rawEvent with
  | none => exact List.filterMap_cons_none hdata
  | some eventData => exact List.filterMap_cons_some hdata

theorem utf8Len_cut {t rawEvent rest : List Char}
    (h : Delimited.cut eventDelimiter t = some (rawEvent, rest)) :
    utf8Len t = utf8Len rawEvent + 2 + utf8Len rest := by
  have htwo : utf8Len eventDelimiter = 2 := rfl
  rw [Delimited.cut_eq_append h, utf8Len_append, utf8Len_append, htwo]

theorem utf8Len_restOf (t : List Char) : utf8Len (restOf t) ≤ utf8Len t := by
  cases hcut : Delimited.cut eventDelimiter t with
  | none => rw [(eventsOf_of_cut_none hcut).2]
  | some found =>
      have hshorter := Delimited.length_lt_of_cut eventDelimiter_ne_nil hcut
      have hlen := utf8Len_cut hcut
      have hrest := utf8Len_restOf found.2
      rw [(eventsOf_of_cut_some hcut).2]
      omega
termination_by t.length

/-- Within the limits the loop finds the events of the buffer. -/
theorem drainEvents_eq (buffer : List Char) (h : utf8Len buffer ≤ maxSseEventBytes) :
    drainEvents buffer = (.ok (eventsOf buffer), restOf buffer) := by
  rw [drainEvents]
  split
  · rename_i hcut
    obtain ⟨hevents, hrest⟩ := eventsOf_of_cut_none hcut
    rw [hevents, hrest]
  · rename_i rawEvent rest hcut
    have hshorter := Delimited.length_lt_of_cut eventDelimiter_ne_nil hcut
    have hlen := utf8Len_cut hcut
    obtain ⟨hevents, hrest⟩ := eventsOf_of_cut_some hcut
    have hdrained := drainEvents_eq rest (by omega)
    rw [if_neg (by omega), hevents, hrest]
    cases hdata : parseEventData rawEvent with
    | none => exact hdrained
    | some eventData =>
        have hsmall := utf8Len_parseEventData hdata
        simp only
        rw [if_neg (by omega), hdrained]
        rfl
termination_by buffer.length

namespace SseDataParser

variable {parser : SseDataParser} {chunk : List Char}

theorem pushChunk_of_too_long (h : maxSseBufferBytes < utf8Len parser.buffer + utf8Len chunk) :
    parser.pushChunk chunk = (.error .providerBadResponse, parser) := if_pos h

/-- A chunk that fits into the buffer, and what it leaves there. -/
theorem pushChunk_of_fits (h : utf8Len parser.buffer + utf8Len chunk ≤ maxSseBufferBytes) :
    parser.pushChunk chunk =
      (.ok (eventsOf (parser.buffer ++ chunk)), ⟨restOf (parser.buffer ++ chunk)⟩) := by
  have hevent : utf8Len (parser.buffer ++ chunk) ≤ maxSseEventBytes := by
    rw [utf8Len_append]
    exact h
  rw [pushChunk, if_neg (Nat.not_lt.mpr h), drainEvents_eq _ hevent]

end SseDataParser

example : SseDataParser.pushChunk ⟨"data: a\n".toList⟩ "data:b\n\nda".toList =
    (.ok ["a\nb".toList], ⟨"da".toList⟩) := by
  decide +kernel

end RustyGate
