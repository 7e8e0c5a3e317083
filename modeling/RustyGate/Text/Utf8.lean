/-
UTF-8 in pieces.

`fromUtf8` decodes bytes that are UTF-8 as a whole and nothing else.  Bytes cut between
two characters can be decoded piece by piece, and bytes cut inside a character cannot:
the first piece is not UTF-8 (`fromUtf8_inside`).  A text whose characters have one byte
each can be cut anywhere.
-/
import Mathlib.Algebra.Ring.Nat
import Mathlib.Data.List.Basic

namespace Text

def toUtf8 (t : List Char) : List UInt8 := t.flatMap String.utf8EncodeChar

/-- `std::str::from_utf8`. -/
def fromUtf8 (bytes : List UInt8) : Option (List Char) :=
  bytes.toByteArray.utf8Decode?.map Array.toList

/-- The length in bytes. -/
def utf8Len (t : List Char) : Nat := (t.map Char.utf8Size).sum

@[simp] theorem toUtf8_append (t u : List Char) : toUtf8 (t ++ u) = toUtf8 t ++ toUtf8 u :=
  List.flatMap_append

@[simp] theorem utf8Len_nil : utf8Len [] = 0 := rfl

@[simp] theorem utf8Len_cons (c : Char) (t : List Char) :
    utf8Len (c :: t) = c.utf8Size + utf8Len t := by
  simp [utf8Len]

@[simp] theorem utf8Len_append (t u : List Char) :
    utf8Len (t ++ u) = utf8Len t + utf8Len u := by
  simp [utf8Len]

@[simp] theorem length_toUtf8 (t : List Char) : (toUtf8 t).length = utf8Len t := by
  induction t with
  | nil => rfl
  | cons c t ih =>
      rw [toUtf8, List.flatMap_cons, List.length_append, String.length_utf8EncodeChar,
        utf8Len_cons, ← ih, toUtf8]

theorem toByteArray_toUtf8 (t : List Char) : (toUtf8 t).toByteArray = t.utf8Encode := rfl

theorem toByteArray_injective {b b' : List UInt8} (h : b.toByteArray = b'.toByteArray) :
    b = b' := by
  have hdata := congrArg (fun a : ByteArray => a.data.toList) h
  simpa using hdata

@[simp] theorem fromUtf8_toUtf8 (t : List Char) : fromUtf8 (toUtf8 t) = some t := by
  rw [fromUtf8, toByteArray_toUtf8, List.utf8Decode?_utf8Encode]
  rfl

theorem toUtf8_of_fromUtf8 {bytes : List UInt8} {t : List Char} (h : fromUtf8 bytes = some t) :
    toUtf8 t = bytes := by
  obtain ⟨chars, hchars, rfl⟩ := Option.map_eq_some_iff.mp h
  have hsome : bytes.toByteArray.utf8Decode?.isSome = true := by
    rw [hchars]
    rfl
  have hback := ByteArray.utf8Encode_get_utf8Decode? (h := hsome)
  apply toByteArray_injective
  rw [toByteArray_toUtf8, ← hback]
  simp [hchars]

/-- A decoded first piece is the start of the text. -/
theorem exists_of_toUtf8_append {t body : List Char} {rest : List UInt8}
    (h : toUtf8 t ++ rest = toUtf8 body) : ∃ u, body = t ++ u ∧ rest = toUtf8 u := by
  have hbytes : t.utf8Encode ++ rest.toByteArray = body.utf8Encode := by
    rw [← toByteArray_toUtf8, ← toByteArray_toUtf8, ← h, List.toByteArray_append]
  obtain ⟨u, rfl⟩ := List.isPrefix_of_utf8Encode_append_eq_utf8Encode _ hbytes
  rw [toUtf8_append] at h
  exact ⟨u, rfl, List.append_cancel_left h⟩

/-- The first bytes of a character are not UTF-8, whatever stands before them. -/
theorem fromUtf8_inside {before : List Char} {c : Char} {front back : List UInt8}
    (hc : String.utf8EncodeChar c = front ++ back) (hfront : front ≠ []) (hback : back ≠ []) :
    fromUtf8 (toUtf8 before ++ front) = none := by
  cases hdecoded : fromUtf8 (toUtf8 before ++ front) with
  | none => rfl
  | some t =>
      exfalso
      have hfront' : 0 < front.length := List.length_pos_of_ne_nil hfront
      have hback' : 0 < back.length := List.length_pos_of_ne_nil hback
      have hsize : c.utf8Size = front.length + back.length := by
        rw [← String.length_utf8EncodeChar, hc, List.length_append]
      have hbytes := toUtf8_of_fromUtf8 hdecoded
      have hlength : utf8Len t = utf8Len before + front.length := by
        rw [← length_toUtf8, hbytes, List.length_append, length_toUtf8]
      have hwhole : toUtf8 t ++ back = toUtf8 (before ++ [c]) := by
        rw [hbytes, List.append_assoc, ← hc, toUtf8_append]
        simp [toUtf8]
      obtain ⟨u, hu, hrest⟩ := exists_of_toUtf8_append hwhole
      -- What is left of the character would be a text of its own.
      have hlast : u ≠ [] := by
        rintro rfl
        exact hback hrest
      obtain ⟨u', last, rfl⟩ := List.eq_nil_or_concat u |>.resolve_left hlast
      have hsplit : before = t ++ u' ∧ c = last := by
        rw [List.concat_eq_append, ← List.append_assoc] at hu
        exact ⟨(List.append_inj' hu rfl).1, by simpa using (List.append_inj' hu rfl).2⟩
      rw [hsplit.1, utf8Len_append] at hlength
      omega

/-- A text of characters of one byte each. -/
def SingleBytes (t : List Char) : Prop := ∀ c ∈ t, c.utf8Size = 1

instance (t : List Char) : Decidable (SingleBytes t) :=
  List.decidableBAll _ t

theorem toUtf8_singleBytes {t : List Char} (h : SingleBytes t) :
    toUtf8 t = t.map fun c => c.val.toUInt8 := by
  induction t with
  | nil => rfl
  | cons c t ih =>
      obtain ⟨hc, ht⟩ := List.forall_mem_cons.mp h
      rw [toUtf8, List.flatMap_cons, String.utf8EncodeChar_eq_singleton hc, List.map_cons,
        ← ih ht]
      rfl

/-- Such a text may be cut anywhere. -/
theorem SingleBytes.cut {body : List Char} (h : SingleBytes body) {front back : List UInt8}
    (hcut : front ++ back = toUtf8 body) : ∃ t, front = toUtf8 t := by
  refine ⟨body.take front.length, ?_⟩
  have htake : SingleBytes (body.take front.length) :=
    fun c hc => h c (List.mem_of_mem_take hc)
  rw [toUtf8_singleBytes htake, List.map_take, ← toUtf8_singleBytes h, ← hcut,
    List.take_left]

/-- Any other text can be cut so that its first piece is not UTF-8. -/
theorem exists_cut_inside {body : List Char} (h : ¬SingleBytes body) :
    ∃ front back, front ++ back = toUtf8 body ∧ fromUtf8 front = none := by
  obtain ⟨c, hmem, hc⟩ : ∃ c ∈ body, c.utf8Size ≠ 1 := by
    simpa [SingleBytes] using h
  obtain ⟨before, after, rfl⟩ := List.append_of_mem hmem
  cases hbytes : String.utf8EncodeChar c with
  | nil =>
      have hsize := String.length_utf8EncodeChar c
      have hpos := c.utf8Size_pos
      rw [hbytes, List.length_nil] at hsize
      omega
  | cons b rest =>
      have hrest : rest ≠ [] := by
        rintro rfl
        have hsize := String.length_utf8EncodeChar c
        rw [hbytes, List.length_singleton] at hsize
        exact hc hsize.symm
      have hbytes' : String.utf8EncodeChar c = [b] ++ rest := hbytes
      refine ⟨toUtf8 before ++ [b], rest ++ toUtf8 after, ?_,
        fromUtf8_inside hbytes' (List.cons_ne_nil b []) hrest⟩
      rw [toUtf8_append, show toUtf8 (c :: after) = String.utf8EncodeChar c ++ toUtf8 after from
        List.flatMap_cons, hbytes]
      simp

end Text
