/-
Documents that are kept as they come (`serde_json::Value`).

The fields of an object are in a map, so they are written in the order of their keys, and of a
key that is repeated the last value is kept.  A number is parsed and printed again, and need not
be printed as it was written.  What has been read once is read again as it is if its numbers are
printed as they stand (`asValue_asValue`).
-/
import Mathlib.Data.String.Basic
import RustyGate.Collections.OrdMap
import RustyGate.Models.JsonText

namespace Json

/-- How numbers are parsed and printed.  What is printed is a number, but without exact parsing
of floats (`float_roundtrip`) it may be printed in another way when it is parsed again. -/
structure NumberFormat where
  reprint : String → Option String
  isNumber : ∀ {text printed}, reprint text = some printed → IsNumber printed.toList

/-- Numbers that are kept as they are written. -/
def plainNumbers : NumberFormat where
  reprint text := if IsNumber text.toList then some text else none
  isNumber h := by
    simp only [Option.ite_none_right_eq_some, Option.some.injEq] at h
    exact h.2 ▸ h.1

/-- The fields as the map has them. -/
def sortFields (fields : List (String × Json)) : List (String × Json) :=
  fields.foldl (fun sorted field => OrdMap.insertEntry field.1 field.2 sorted) []

variable {fields : List (String × Json)} {field : String × Json}

section Sorting

theorem mem_of_mem_insertEntry {key : String} {value : Json}
    (h : field ∈ OrdMap.insertEntry key value fields) :
    field = (key, value) ∨ field ∈ fields := by
  induction fields with
  | nil => exact Or.inl (List.mem_singleton.mp h)
  | cons other rest ih =>
      rw [OrdMap.insertEntry] at h
      split_ifs at h
      · exact List.mem_cons.mp h
      · rcases List.mem_cons.mp h with h | h
        · exact Or.inl h
        · exact Or.inr (List.mem_cons_of_mem other h)
      · rcases List.mem_cons.mp h with rfl | h
        · exact Or.inr List.mem_cons_self
        · exact (ih h).imp_right (List.mem_cons_of_mem other)

/-- A key behind all the others is put at the end. -/
theorem insertEntry_of_forall_lt {key : String} {value : Json} (h : ∀ field ∈ fields, field.1 < key)
   :
    OrdMap.insertEntry key value fields = fields ++ [(key, value)] := by
  induction fields with
  | nil => rfl
  | cons field rest ih =>
      obtain ⟨hfield, hrest⟩ := List.forall_mem_cons.mp h
      rw [OrdMap.insertEntry, if_neg (lt_asymm hfield), if_neg (ne_of_gt hfield), ih hrest,
        List.cons_append]

theorem sorted_sortFields (fields : List (String × Json)) :
    ((sortFields fields).map Prod.fst).Pairwise (· < ·) := by
  unfold sortFields
  induction fields using List.reverseRecOn with
  | nil => exact List.Pairwise.nil
  | append_singleton fields field ih =>
      rw [List.foldl_append]
      exact OrdMap.sorted_insertEntry ih

theorem mem_of_mem_sortFields (h : field ∈ sortFields fields) : field ∈ fields := by
  unfold sortFields at h
  induction fields using List.reverseRecOn with
  | nil => exact absurd h List.not_mem_nil
  | append_singleton fields last ih =>
      rw [List.foldl_append] at h
      rw [List.mem_append, List.mem_singleton]
      exact (mem_of_mem_insertEntry h).symm.imp_left ih

theorem sortFields_of_sorted (h : (fields.map Prod.fst).Pairwise (· < ·)) :
    sortFields fields = fields := by
  unfold sortFields
  induction fields using List.reverseRecOn with
  | nil => rfl
  | append_singleton fields last ih =>
      rw [List.map_append, List.pairwise_append] at h
      obtain ⟨hfields, -, hlast⟩ := h
      rw [List.foldl_append, ih hfields]
      refine insertEntry_of_forall_lt fun field hfield => ?_
      exact hlast field.1 (List.mem_map_of_mem hfield) last.1 (by simp)

end Sorting

variable (format : NumberFormat)

mutual

def asValue : Json → Option Json
  | number text => (format.reprint text).map number
  | array items => (asValueItems items).map array
  | object fields => (asValueFields fields).map fun fields => object (sortFields fields)
  | null => some null
  | bool b => some (bool b)
  | string text => some (string text)

def asValueItems : List Json → Option (List Json)
  | [] => some []
  | item :: rest => do return (← asValue item) :: (← asValueItems rest)

def asValueFields : List (String × Json) → Option (List (String × Json))
  | [] => some []
  | (key, value) :: rest => do return (key, ← asValue value) :: (← asValueFields rest)

end

mutual

/-- The numbers of a document, as they are written. -/
def numbers : Json → List String
  | number text => [text]
  | array items => numbersItems items
  | object fields => numbersFields fields
  | _ => []

def numbersItems : List Json → List String
  | [] => []
  | item :: rest => numbers item ++ numbersItems rest

def numbersFields : List (String × Json) → List String
  | [] => []
  | (_, value) :: rest => numbers value ++ numbersFields rest

end

variable {format}

/-! ## Reading twice -/

theorem mem_numbersItems {item : Json} {items : List Json} (h : item ∈ items) {text : String}
    (ht : text ∈ item.numbers) : text ∈ numbersItems items := by
  induction h with
  | head => exact List.mem_append_left _ ht
  | tail _ _ ih => exact List.mem_append_right _ ih

theorem mem_numbersFields (h : field ∈ fields) {text : String} (ht : text ∈ field.2.numbers) :
    text ∈ numbersFields fields := by
  induction h with
  | head => exact List.mem_append_left _ ht
  | tail _ _ ih => exact List.mem_append_right _ ih

theorem asValueItems_of_forall {items : List Json}
    (h : ∀ item ∈ items, asValue format item = some item) :
    asValueItems format items = some items := by
  induction items with
  | nil => rfl
  | cons item rest ih =>
      obtain ⟨hitem, hrest⟩ := List.forall_mem_cons.mp h
      simp [asValueItems, hitem, ih hrest]

theorem asValueFields_of_forall (h : ∀ field ∈ fields, asValue format field.2 = some field.2) :
    asValueFields format fields = some fields := by
  induction fields with
  | nil => rfl
  | cons field rest ih =>
      obtain ⟨hfield, hrest⟩ := List.forall_mem_cons.mp h
      simp [asValueFields, hfield, ih hrest]

section Twice

variable {format' : NumberFormat}

mutual

/-- A value that has been read is read as it is, if its numbers are printed as they stand. -/
theorem asValue_asValue : ∀ {j value : Json}, asValue format j = some value →
    (∀ text ∈ value.numbers, IsNumber text.toList → format'.reprint text = some text) →
      asValue format' value = some value
  | number text, value, h, hkept => by
      obtain ⟨printed, hprinted, rfl⟩ := Option.map_eq_some_iff.mp h
      simp [asValue, hkept printed List.mem_cons_self (format.isNumber hprinted)]
  | array items, value, h, hkept => by
      obtain ⟨values, hvalues, rfl⟩ := Option.map_eq_some_iff.mp h
      have hitems : ∀ item ∈ values, asValue format' item = some item :=
        fun item hitem => asValueItems_asValue hvalues item hitem
          fun text ht => hkept text (mem_numbersItems hitem ht)
      simp [asValue, asValueItems_of_forall hitems]
  | object fields, value, h, hkept => by
      obtain ⟨values, hvalues, rfl⟩ := Option.map_eq_some_iff.mp h
      have hsorted : ∀ field ∈ sortFields values, asValue format' field.2 = some field.2 :=
        fun field hfield => asValueFields_asValue hvalues field (mem_of_mem_sortFields hfield)
          fun text ht => hkept text (mem_numbersFields hfield ht)
      simp [asValue, asValueFields_of_forall hsorted, sortFields_of_sorted (sorted_sortFields _)]
  | null, value, h, _ => by cases h; rfl
  | bool b, value, h, _ => by cases h; rfl
  | string text, value, h, _ => by cases h; rfl

theorem asValueItems_asValue : ∀ {items values : List Json},
    asValueItems format items = some values → ∀ value ∈ values,
      (∀ text ∈ value.numbers, IsNumber text.toList → format'.reprint text = some text) →
        asValue format' value = some value
  | [], values, h => by
      cases h
      exact fun value hvalue => absurd hvalue List.not_mem_nil
  | item :: rest, values, h => by
      simp only [asValueItems, Option.bind_eq_bind, Option.pure_def, Option.bind_eq_some_iff,
        Option.some.injEq] at h
      obtain ⟨first, hfirst, others, hothers, rfl⟩ := h
      exact List.forall_mem_cons.mpr ⟨asValue_asValue hfirst, asValueItems_asValue hothers⟩

theorem asValueFields_asValue : ∀ {fields values : List (String × Json)},
    asValueFields format fields = some values → ∀ field ∈ values,
      (∀ text ∈ field.2.numbers, IsNumber text.toList → format'.reprint text = some text) →
        asValue format' field.2 = some field.2
  | [], values, h => by
      cases h
      exact fun field hfield => absurd hfield List.not_mem_nil
  | (key, value) :: rest, values, h => by
      simp only [asValueFields, Option.bind_eq_bind, Option.pure_def, Option.bind_eq_some_iff,
        Option.some.injEq] at h
      obtain ⟨first, hfirst, others, hothers, rfl⟩ := h
      exact List.forall_mem_cons.mpr ⟨asValue_asValue hfirst, asValueFields_asValue hothers⟩

end

end Twice

theorem asValue_ne_null {j value : Json} (hj : j ≠ null)
    (h : asValue format j = some value) : value ≠ null := by
  cases j with
  | null => exact absurd rfl hj
  | bool b => cases h; simp
  | string text => cases h; simp
  | _ =>
      obtain ⟨value, -, rfl⟩ := Option.map_eq_some_iff.mp h
      simp

/-! ## The text of a value -/

mutual

/-- A value that has been read can be read back from its text. -/
theorem readable_asValue : ∀ {j value : Json} {n : Nat}, asValue format j = some value →
    j.depth ≤ n → Readable n value
  | number text, value, n, h, _ => by
      obtain ⟨printed, hprinted, rfl⟩ := Option.map_eq_some_iff.mp h
      exact readable_number (format.isNumber hprinted)
  | array items, value, n, h, hdepth => by
      obtain ⟨values, hvalues, rfl⟩ := Option.map_eq_some_iff.mp h
      obtain ⟨n, rfl⟩ : ∃ m, n = m + 1 := ⟨n - 1, by simp only [depth] at hdepth; omega⟩
      exact readable_array.mpr (readable_asValueItems hvalues (Nat.le_of_succ_le_succ hdepth))
  | object fields, value, n, h, hdepth => by
      obtain ⟨values, hvalues, rfl⟩ := Option.map_eq_some_iff.mp h
      obtain ⟨n, rfl⟩ : ∃ m, n = m + 1 := ⟨n - 1, by simp only [depth] at hdepth; omega⟩
      exact readable_object.mpr fun field hfield => readable_asValueFields hvalues
        (Nat.le_of_succ_le_succ hdepth) field (mem_of_mem_sortFields hfield)
  | null, value, n, h, _ => by cases h; exact readable_null
  | bool b, value, n, h, _ => by cases h; exact readable_bool b
  | string text, value, n, h, _ => by cases h; exact readable_string text

theorem readable_asValueItems : ∀ {items values : List Json} {n : Nat},
    asValueItems format items = some values → depthItems items ≤ n →
      ∀ value ∈ values, Readable n value
  | [], values, n, h, _ => by
      cases h
      exact fun value hvalue => absurd hvalue List.not_mem_nil
  | item :: rest, values, n, h, hdepth => by
      simp only [asValueItems, Option.bind_eq_bind, Option.pure_def, Option.bind_eq_some_iff,
        Option.some.injEq] at h
      obtain ⟨first, hfirst, others, hothers, rfl⟩ := h
      obtain ⟨hitem, hrest⟩ := Nat.max_le.mp hdepth
      exact List.forall_mem_cons.mpr
        ⟨readable_asValue hfirst hitem, readable_asValueItems hothers hrest⟩

theorem readable_asValueFields : ∀ {fields values : List (String × Json)} {n : Nat},
    asValueFields format fields = some values → depthFields fields ≤ n →
      ∀ field ∈ values, Readable n field.2
  | [], values, n, h, _ => by
      cases h
      exact fun field hfield => absurd hfield List.not_mem_nil
  | (key, value) :: rest, values, n, h, hdepth => by
      simp only [asValueFields, Option.bind_eq_bind, Option.pure_def, Option.bind_eq_some_iff,
        Option.some.injEq] at h
      obtain ⟨first, hfirst, others, hothers, rfl⟩ := h
      obtain ⟨hvalue, hrest⟩ := Nat.max_le.mp hdepth
      exact List.forall_mem_cons.mpr
        ⟨readable_asValue hfirst hvalue, readable_asValueFields hothers hrest⟩

end

end Json
