/-
Structures written as objects and read back from them.

An object is read as the assignment of values to names that its fields are.  For an object
that is put together from fields that are there and fields that may be skipped, `lookup` is
computed piece by piece (`lookup_optionalField`), and the keys are distinct because they are
some of the names in their order (`keys_optionalField`).
-/
import RustyGate.Models.JsonNumbers
import RustyGate.Models.JsonValue

namespace Json

def asBool : Json → Option Bool
  | bool b => some b
  | _ => none

/-- A number by its text. -/
def asNumber {α : Type} (read : String → Option α) : Json → Option α
  | number text => read text
  | _ => none

/-- The fields of a structure with defaults for all but the first `n` fields, which an array
has to have. -/
def leadingFieldsOf (n : Nat) (names : List String) : Json → Option (String → Option Json)
  | array items => if n ≤ items.length then fieldsOf names (array items) else none
  | j => fieldsOf names j

theorem IsObject.leadingFieldsOf {j : Json} {P : (String → Option Json) → Prop}
    (h : j.IsObject P) (n : Nat) (names : List String) :
    ∃ fields, j.leadingFieldsOf n names = some fields ∧ P fields := by
  obtain ⟨fields, hfields, hP⟩ := h.fieldsOf names
  obtain ⟨entries, rfl, -⟩ := h
  exact ⟨fields, hfields, hP⟩

section OptionalFields

variable {α : Type} {name : String} {encode : α → Json} {value : Option α}

theorem keys_optionalField :
    ((optionalField name encode value).map Prod.fst).Sublist [name] := by
  cases value with
  | none => exact List.nil_sublist _
  | some value => exact List.Sublist.refl _

@[simp] theorem lookup_optionalField (key : String) :
    (optionalField name encode value).lookup key =
      if key = name then value.map encode else none := by
  cases value with
  | none => simp [optionalField]
  | some value =>
      by_cases h : key = name
      · simp [optionalField, h]
      · simp [optionalField, List.lookup_cons, h, beq_eq_false_iff_ne.mpr h]

variable {fields : String → Option Json} {decode : Json → Option α}

/-- A field that has been skipped or written is read back. -/
theorem optional_map (hfield : fields name = value.map encode)
    (hread : ∀ a, value = some a → encode a ≠ null ∧ decode (encode a) = some a) :
    optional fields name decode = some value := by
  cases value with
  | none => exact optional_of_missing hfield
  | some a =>
      obtain ⟨hnull, hdecode⟩ := hread a rfl
      have hsays : Nullable (fun j b => j = encode a ∧ b = a) (fields name) (some a) :=
        ⟨encode a, hfield, rfl, rfl⟩
      refine hsays.optional fun j b hj => ?_
      obtain ⟨rfl, rfl⟩ := hj
      exact ⟨hnull, hdecode⟩

/-- A field is the value, and where that is absent, it is missing or `null`. -/
def Spells (encode : α → Json) (field : Option Json) (value : Option α) : Prop :=
  field = value.map encode ∨ field = some (nullable encode value)

theorem Spells.optional (h : Spells encode (fields name) value)
    (hread : ∀ a, value = some a → encode a ≠ null ∧ decode (encode a) = some a) :
    optional fields name decode = some value := by
  rcases h with hmap | hnullable
  · exact optional_map hmap hread
  · cases value with
    | none =>
        rw [Json.optional, hnullable]
        rfl
    | some a =>
        have hsome : fields name = (some a).map encode := hnullable
        exact optional_map hsome hread

theorem Spells.string {text : Option String} (h : Spells string (fields name) text) :
    Json.optional fields name asString = some text :=
  h.optional fun _ _ => ⟨by simp, rfl⟩

theorem Spells.bool {flag : Option Bool} (h : Spells bool (fields name) flag) :
    Json.optional fields name asBool = some flag :=
  h.optional fun _ _ => ⟨by simp, rfl⟩

end OptionalFields

theorem required_some {α : Type} {fields : String → Option Json} {name : String}
    {decode : Json → Option α} {j : Json} {a : α} (hfield : fields name = some j)
    (hread : decode j = some a) : required fields name decode = some a := by
  rw [required, hfield]
  exact hread

theorem required_string {fields : String → Option Json} {name text : String}
    (h : fields name = some (string text)) : required fields name asString = some text :=
  required_some h rfl

/-- A list that is written item by item is read item by item. -/
theorem asList_map_map {α β : Type} {encode : α → Json} {decode : Json → Option β} {f : α → β}
    {l : List α} (h : ∀ a ∈ l, decode (encode a) = some (f a)) :
    asList decode (array (l.map encode)) = some (l.map f) := by
  show (l.map encode).mapM decode = some (l.map f)
  induction l with
  | nil => rfl
  | cons a l ih =>
      obtain ⟨ha, hl⟩ := List.forall_mem_cons.mp h
      rw [List.map_cons, List.mapM_cons, ha, ih hl]
      rfl

theorem asList_map {α : Type} {encode : α → Json} {decode : Json → Option α} {l : List α}
    (h : ∀ a ∈ l, decode (encode a) = some a) :
    asList decode (array (l.map encode)) = some l := by
  have hmap := asList_map_map (f := id) h
  rwa [List.map_id] at hmap

/-! ## The parts of a document -/

section Parts

variable {n : Nat} {j : Json} {names : List String} {fields : String → Option Json}

theorem mem_of_lookup_eq_some {entries : List (String × Json)} {key : String} {value : Json}
    (h : entries.lookup key = some value) : (key, value) ∈ entries := by
  induction entries with
  | nil => cases h
  | cons entry rest ih =>
      rw [List.lookup_cons] at h
      cases hkey : key == entry.1 with
      | true =>
          obtain rfl : key = entry.1 := beq_iff_eq.mp hkey
          simp only [hkey, Option.some.injEq] at h
          subst h
          exact List.mem_cons_self
      | false =>
          simp only [hkey] at h
          exact List.mem_cons_of_mem entry (ih h)

/-- The fields of a document are nested less deep by one. -/
theorem Readable.field (h : Readable (n + 1) j) (hfields : j.fieldsOf names = some fields)
    {name : String} {value : Json} (hvalue : fields name = some value) : Readable n value := by
  cases j with
  | object entries =>
      simp only [fieldsOf, Option.ite_none_right_eq_some, Option.some.injEq] at hfields
      obtain ⟨-, rfl⟩ := hfields
      exact readable_object.mp h _ (mem_of_lookup_eq_some hvalue)
  | array items =>
      simp only [fieldsOf, Option.ite_none_right_eq_some, Option.some.injEq] at hfields
      obtain ⟨-, rfl⟩ := hfields
      exact readable_array.mp h _ (List.of_mem_zip (mem_of_lookup_eq_some hvalue)).2
  | _ => cases hfields

theorem fieldsOf_of_allFieldsOf (h : j.allFieldsOf names = some fields) :
    j.fieldsOf names = some fields := by
  cases j with
  | array items =>
      simp only [allFieldsOf, Option.ite_none_right_eq_some] at h
      exact h.2
  | _ => exact h

theorem fieldsOf_of_leadingFieldsOf {k : Nat} (h : j.leadingFieldsOf k names = some fields) :
    j.fieldsOf names = some fields := by
  cases j with
  | array items =>
      simp only [leadingFieldsOf, Option.ite_none_right_eq_some] at h
      exact h.2
  | _ => exact h

@[simp] theorem allReadable_optionalField {α : Type} {name : String} {encode : α → Json}
    {value : Option α} : AllReadable n (optionalField name encode value) ↔
      ∀ a, value = some a → Readable n (encode a) := by
  cases value <;> simp [optionalField]

@[simp] theorem readable_nullable {α : Type} {encode : α → Json} {value : Option α} :
    Readable n (nullable encode value) ↔ ∀ a, value = some a → Readable n (encode a) := by
  cases value <;> simp [nullable]

variable {α : Type} {name : String} {decode : Json → Option α}

/-- An optional field that has been read was there. -/
theorem exists_of_optional {a : α} (h : optional fields name decode = some (some a)) :
    ∃ value, fields name = some value ∧ value ≠ null ∧ decode value = some a := by
  unfold optional at h
  split at h
  · cases h
  · cases h
  · next value hnull hfield =>
      obtain ⟨b, hdecode, hb⟩ := Option.map_eq_some_iff.mp h
      obtain rfl := Option.some.inj hb
      exact ⟨value, hfield, hnull, hdecode⟩

theorem exists_of_required {a : α} (h : required fields name decode = some a) :
    ∃ value, fields name = some value ∧ decode value = some a :=
  Option.bind_eq_some_iff.mp h

theorem exists_of_asList {l : List α} (h : asList decode j = some l) :
    ∃ items, j = array items ∧ ∀ a ∈ l, ∃ item ∈ items, decode item = some a := by
  cases j with
  | array items =>
      refine ⟨items, rfl, ?_⟩
      have hitems : items.mapM decode = some l := h
      clear h
      induction items generalizing l with
      | nil =>
          cases hitems
          exact fun a ha => absurd ha List.not_mem_nil
      | cons item items ih =>
          simp only [List.mapM_cons, Option.bind_eq_bind, Option.pure_def,
            Option.bind_eq_some_iff, Option.some.injEq] at hitems
          obtain ⟨first, hfirst, others, hothers, rfl⟩ := hitems
          refine List.forall_mem_cons.mpr ⟨⟨item, List.mem_cons_self, hfirst⟩, fun a ha => ?_⟩
          obtain ⟨other, hother, hdecode⟩ := ih hothers a ha
          exact ⟨other, List.mem_cons_of_mem item hother, hdecode⟩
  | _ => cases h

end Parts

end Json
