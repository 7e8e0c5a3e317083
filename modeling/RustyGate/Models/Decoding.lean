/-
How `serde` reads a structure off a JSON value.

A structure is an object, whose unknown fields are ignored, or an array of its fields in
their order.  A field without a default has to be there.  An optional field may be missing
or `null`.

What a document says is a relation between its values and what they stand for.  A decoder
reads such a relation (`Reads`) if it gives what the document says.
-/
import Mathlib.Algebra.Order.Ring.Nat
import Mathlib.Data.List.Forall2
import RustyGate.Models.Json

namespace Json

def asString : Json → Option String
  | string text => some text
  | _ => none

/-- The number that digits stand for. -/
def ofDigits (digits : List Char) : Nat :=
  digits.foldl (fun n digit => n * 10 + (digit.toNat - 48)) 0

/-- An unsigned number is written in digits alone. -/
def asU32 : Json → Option UInt32
  | number text =>
      if text.toList ≠ [] ∧ text.toList.all Char.isDigit ∧ ofDigits text.toList < 2 ^ 32 then
        some (.ofNat (ofDigits text.toList))
      else none
  | _ => none

/-- A signed number may have a sign.  With one it is below zero, since `-0` is not an
integer. -/
def asI64 : Json → Option Int
  | number text =>
      let digits := if text.toList.head? = some '-' then text.toList.tail else text.toList
      if digits ≠ [] ∧ digits.all Char.isDigit then
        if digits = text.toList then
          if ofDigits digits < 2 ^ 63 then some (ofDigits digits) else none
        else if 0 < ofDigits digits ∧ ofDigits digits ≤ 2 ^ 63 then some (-ofDigits digits)
        else none
      else none
  | _ => none

def asList {α : Type} (decode : Json → Option α) : Json → Option (List α)
  | array items => items.mapM decode
  | _ => none

/-- The fields of a structure with the given names. -/
def fieldsOf (names : List String) : Json → Option (String → Option Json)
  | object fields =>
      if (fields.map Prod.fst).filter (names.contains ·) |>.Nodup then
        some fun name => fields.lookup name
      else none
  | array items =>
      if items.length ≤ names.length then some fun name => (names.zip items).lookup name else none
  | _ => none

/-- The same for a structure without defaults, whose array has to have all the fields. -/
def allFieldsOf (names : List String) : Json → Option (String → Option Json)
  | array items => if items.length = names.length then fieldsOf names (array items) else none
  | j => fieldsOf names j

section Fields

variable {α : Type} (fields : String → Option Json) (name : String) (decode : Json → Option α)

/-- A field without a default. -/
def required : Option α := (fields name).bind decode

/-- A field marked `default` that is an option. -/
def optional : Option (Option α) :=
  match fields name with
  | none => some none
  | some null => some none
  | some value => (decode value).map some

/-- A field with another default, which stands for a missing value and not for `null`. -/
def defaulted (default : α) : Option α :=
  match fields name with
  | none => some default
  | some value => decode value

variable {fields name decode}

theorem optional_of_missing (h : fields name = none) : optional fields name decode = some none := by
  rw [optional, h]

/-- An optional field is read if there is none or if it can be decoded. -/
theorem optional_isSome (h : ∀ j, fields name = some j → (decode j).isSome) :
    (optional fields name decode).isSome := by
  rw [optional]
  cases hfield : fields name with
  | none => rfl
  | some j =>
      have hdecode := h j hfield
      cases j with
      | null => rfl
      | _ =>
          simp only [Option.isSome_map]
          exact hdecode

theorem optional_of_value {j : Json} (hfield : fields name = some j) (hdecode : (decode j).isSome) :
    (optional fields name decode).isSome := by
  apply optional_isSome
  intro other hother
  rw [hfield] at hother
  cases hother
  exact hdecode

end Fields

/-- The value is an object with distinct keys whose fields are as `P` says. -/
def IsObject (j : Json) (P : (String → Option Json) → Prop) : Prop :=
  ∃ fields : List (String × Json), j = .object fields ∧ (fields.map Prod.fst).Nodup ∧
    P fun name => fields.lookup name

/-- Such an object has its fields for every structure. -/
theorem IsObject.fieldsOf {j : Json} {P : (String → Option Json) → Prop} (h : j.IsObject P)
    (names : List String) : ∃ fields, j.fieldsOf names = some fields ∧ P fields := by
  obtain ⟨fields, rfl, hkeys, hP⟩ := h
  exact ⟨_, if_pos (hkeys.filter _), hP⟩

theorem IsObject.allFieldsOf {j : Json} {P : (String → Option Json) → Prop} (h : j.IsObject P)
    (names : List String) : ∃ fields, j.allFieldsOf names = some fields ∧ P fields := by
  obtain ⟨fields, hfields, hP⟩ := h.fieldsOf names
  obtain ⟨entries, rfl, -⟩ := h
  exact ⟨fields, hfields, hP⟩

theorem IsObject.ne_null {j : Json} {P : (String → Option Json) → Prop} (h : j.IsObject P) :
    j ≠ null := by
  obtain ⟨fields, rfl, -⟩ := h
  nofun

/-! ## What a document says -/

section Documents

variable {α : Type} (states : Json → α → Prop)

/-- The field is there and says `a`. -/
def Field (value : Option Json) (a : α) : Prop := ∃ j, value = some j ∧ states j a

/-- The field says `a`, or it is missing and `a` is the default. -/
def FieldOr (default : α) (value : Option Json) (a : α) : Prop :=
  (value = none ∧ a = default) ∨ Field states value a

/-- The field says something, or it is missing or `null`. -/
def Nullable (value : Option Json) : Option α → Prop
  | none => value = none ∨ value = some null
  | some a => Field states value a

/-- An array whose items say the elements of a list. -/
def Items (j : Json) (l : List α) : Prop := ∃ items, j = array items ∧ List.Forall₂ states items l

/-- What a document says is read off it. -/
def Reads (decode : Json → Option α) : Prop := ∀ j a, states j a → j ≠ null ∧ decode j = some a

variable {states} {decode : Json → Option α} {fields : String → Option Json} {name : String}

theorem Field.required {a : α} (h : Field states (fields name) a) (hreads : Reads states decode) :
    required fields name decode = some a := by
  obtain ⟨j, hfield, hstates⟩ := h
  rw [Json.required, hfield, Option.bind_some]
  exact (hreads j a hstates).2

theorem FieldOr.defaulted {default a : α} (h : FieldOr states default (fields name) a)
    (hreads : Reads states decode) : defaulted fields name decode default = some a := by
  rcases h with ⟨hmissing, rfl⟩ | ⟨j, hfield, hstates⟩
  · rw [Json.defaulted, hmissing]
  · rw [Json.defaulted, hfield]
    exact (hreads j a hstates).2

theorem Nullable.optional {value : Option α} (h : Nullable states (fields name) value)
    (hreads : Reads states decode) : optional fields name decode = some value := by
  cases value with
  | none =>
      rcases h with hmissing | hnull
      · exact optional_of_missing hmissing
      · rw [Json.optional, hnull]
  | some a =>
      obtain ⟨j, hfield, hstates⟩ := h
      obtain ⟨hnull, hdecode⟩ := hreads j a hstates
      rw [Json.optional, hfield]
      cases j with
      | null => exact absurd rfl hnull
      | _ =>
          simp only [hdecode]
          rfl

theorem Reads.items (hreads : Reads states decode) : Reads (Items states) (asList decode) := by
  rintro j l ⟨items, rfl, hitems⟩
  refine ⟨nofun, ?_⟩
  show items.mapM decode = some l
  induction hitems with
  | nil => rfl
  | cons hitem _ ih =>
      rw [List.mapM_cons, (hreads _ _ hitem).2, ih]
      rfl

end Documents

end Json
