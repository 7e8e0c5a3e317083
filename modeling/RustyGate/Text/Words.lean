/-
The words of a text.

`splitWhitespace` gives the words of a text, and `joinWords` puts one space between words.  The
words of joined words are the words (`splitWhitespace_joinWords`), so that texts are joined to
the same text exactly if they have the same words.
-/
import Mathlib.Data.List.TakeWhile
import RustyGate.Text.Str

namespace Text

/-- `join(" ")`. -/
def joinWords (words : List (List Char)) : List Char := [' '].intercalate words

/-- A word is not empty and has no white space in it. -/
def IsWord (word : List Char) : Prop := word ≠ [] ∧ ∀ c ∈ word, isWhitespace c = false

variable {t : List Char} {c : Char}

theorem splitWhitespace_nil : splitWhitespace [] = [] := by
  unfold splitWhitespace
  rw [List.splitOnP_nil]
  rfl

/-- A text is cut at white space. -/
theorem splitWhitespace_append_cons (hc : isWhitespace c = true) (before after : List Char) :
    splitWhitespace (before ++ c :: after) = splitWhitespace before ++ splitWhitespace after := by
  unfold splitWhitespace
  rw [List.splitOnP_append_cons before after hc, List.filter_append]

theorem splitWhitespace_cons (hc : isWhitespace c = true) (after : List Char) :
    splitWhitespace (c :: after) = splitWhitespace after := by
  have hcut := splitWhitespace_append_cons hc [] after
  rwa [List.nil_append, splitWhitespace_nil, List.nil_append] at hcut

theorem splitWhitespace_word {word : List Char} (h : IsWord word) :
    splitWhitespace word = [word] := by
  have hne : (!word.isEmpty) = true := by
    rw [Bool.not_eq_true', List.isEmpty_eq_false_iff]
    exact h.1
  unfold splitWhitespace
  rw [List.splitOnP_eq_singleton h.2, List.filter_eq_self]
  intro piece hpiece
  rw [List.mem_singleton.mp hpiece, hne]

/-! ## Words -/

theorem isWhitespace_of_mem_splitOnP {piece : List Char}
    (h : piece ∈ t.splitOnP isWhitespace) : ∀ c ∈ piece, isWhitespace c = false := by
  induction t generalizing piece with
  | nil =>
      rw [List.splitOnP_nil, List.mem_singleton] at h
      subst h
      exact fun c hc => absurd hc List.not_mem_nil
  | cons c t ih =>
      rw [List.splitOnP_cons_eq_if_modifyHead] at h
      obtain ⟨first, rest, hsplit⟩ :=
        List.exists_cons_of_ne_nil (List.splitOnP_ne_nil isWhitespace t)
      by_cases hc : isWhitespace c = true
      · rw [if_pos hc] at h
        rcases List.mem_cons.mp h with rfl | hpiece
        · exact fun c hc => absurd hc List.not_mem_nil
        · exact ih hpiece
      · rw [if_neg hc, hsplit, List.modifyHead_cons] at h
        rcases List.mem_cons.mp h with rfl | hpiece
        · intro c' hc'
          rcases List.mem_cons.mp hc' with rfl | hrest
          · exact Bool.eq_false_iff.mpr hc
          · exact ih (hsplit ▸ List.mem_cons_self) c' hrest
        · exact ih (hsplit ▸ List.mem_cons_of_mem first hpiece)

theorem isWord_of_mem {word : List Char} (h : word ∈ splitWhitespace t) : IsWord word := by
  obtain ⟨hpiece, hne⟩ := List.mem_filter.mp h
  refine ⟨?_, isWhitespace_of_mem_splitOnP hpiece⟩
  rintro rfl
  cases hne

theorem splitWhitespace_joinWords {words : List (List Char)} (h : ∀ word ∈ words, IsWord word) :
    splitWhitespace (joinWords words) = words := by
  induction words with
  | nil => exact splitWhitespace_nil
  | cons word words ih =>
      have hrest := ih fun other hother => h other (List.mem_cons_of_mem word hother)
      have hword := splitWhitespace_word (h word List.mem_cons_self)
      cases words with
      | nil =>
          show splitWhitespace ([' '].intercalate [word]) = [word]
          rw [List.intercalate_singleton, hword]
      | cons next words =>
          have hjoin : joinWords (word :: next :: words) =
              word ++ ' ' :: joinWords (next :: words) := by
            unfold joinWords
            rw [List.intercalate_cons_cons, List.append_assoc]
            rfl
          have hspace : isWhitespace ' ' = true := by decide
          rw [hjoin, splitWhitespace_append_cons hspace, hword, hrest]
          rfl

/-- Texts are joined to the same text exactly if they have the same words. -/
theorem joinWords_splitWhitespace_inj {t t' : List Char} :
    joinWords (splitWhitespace t) = joinWords (splitWhitespace t') ↔
      splitWhitespace t = splitWhitespace t' := by
  constructor
  · intro h
    have hwords := congrArg splitWhitespace h
    rwa [splitWhitespace_joinWords fun _ => isWord_of_mem,
      splitWhitespace_joinWords fun _ => isWord_of_mem] at hwords
  · intro h
    rw [h]

/-! ## Blank texts -/

theorem splitWhitespace_eq_nil : splitWhitespace t = [] ↔ ∀ c ∈ t, isWhitespace c = true := by
  induction t with
  | nil => exact iff_of_true splitWhitespace_nil fun c hc => absurd hc List.not_mem_nil
  | cons c t ih =>
      rw [List.forall_mem_cons]
      by_cases hc : isWhitespace c = true
      · rw [splitWhitespace_cons hc, ih, and_iff_right hc]
      · refine iff_of_false ?_ fun h => hc h.1
        obtain ⟨first, rest, hsplit⟩ :=
          List.exists_cons_of_ne_nil (List.splitOnP_ne_nil isWhitespace t)
        unfold splitWhitespace
        rw [List.splitOnP_cons_eq_if_modifyHead, if_neg hc, hsplit, List.modifyHead_cons,
          List.filter_cons_of_pos rfl]
        exact List.cons_ne_nil _ _

theorem trim_eq_nil : trim t = [] ↔ ∀ c ∈ t, isWhitespace c = true := by
  unfold trim trimStart
  rw [List.reverse_eq_nil_iff, List.dropWhile_eq_nil_iff]
  constructor
  · intro h c hc
    rw [← List.takeWhile_append_dropWhile (p := isWhitespace) (l := t)] at hc
    rcases List.mem_append.mp hc with hstart | hrest
    · exact List.mem_takeWhile_imp hstart
    · exact h c (List.mem_reverse.mpr hrest)
  · intro h c hc
    have hmem := (List.dropWhile_sublist isWhitespace).mem (List.mem_reverse.mp hc)
    exact h c hmem

theorem isBlank_iff_forall {s : String} :
    isBlank s = true ↔ ∀ c ∈ s.toList, isWhitespace c = true := by
  rw [isBlank, List.isEmpty_iff, trim_eq_nil]

theorem isBlank_join {parts : List String} :
    isBlank (String.join parts) = true ↔ ∀ part ∈ parts, isBlank part = true := by
  induction parts with
  | nil => exact iff_of_true (by decide) nofun
  | cons part rest ih =>
      rw [String.join_cons, List.forall_mem_cons, ← ih]
      simp only [isBlank_iff_forall, String.toList_append, List.forall_mem_append]

/-- A blank text is one without words. -/
theorem isBlank_iff (s : String) : isBlank s = true ↔ splitWhitespace s.toList = [] := by
  rw [isBlank_iff_forall, splitWhitespace_eq_nil]

end Text
