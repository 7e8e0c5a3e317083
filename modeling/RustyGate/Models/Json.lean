/-
JSON values and their compact text, as `serde_json::to_string` writes it.  A number
is kept as its text, and the fields of an object in the order they are written.
-/
import RustyGate.Text.Str

inductive Json where
  | null
  | bool (value : Bool)
  | number (text : String)
  | string (text : String)
  | array (items : List Json)
  | object (fields : List (String × Json))

namespace Json

/-- One character of a string.  Control characters are escaped, and nothing else is
but the quote and the backslash. -/
def escape (c : Char) : List Char :=
  if c = '"' then ['\\', '"']
  else if c = '\\' then ['\\', '\\']
  else if c = '\n' then ['\\', 'n']
  else if c = '\r' then ['\\', 'r']
  else if c = '\t' then ['\\', 't']
  else if c.toNat = 8 then ['\\', 'b']
  else if c.toNat = 12 then ['\\', 'f']
  else if c.toNat < 32 then ['\\', 'u'] ++ Text.hex 4 c.toNat
  else [c]

def quote (s : String) : List Char := '"' :: s.toList.flatMap escape ++ ['"']

mutual

def render : Json → List Char
  | null => "null".toList
  | bool true => "true".toList
  | bool false => "false".toList
  | number text => text.toList
  | string text => quote text
  | array items => '[' :: renderItems items ++ [']']
  | object fields => '\x7b' :: renderFields fields ++ ['\x7d']

def renderItems : List Json → List Char
  | [] => []
  | [item] => render item
  | item :: rest => render item ++ ',' :: renderItems rest

def renderFields : List (String × Json) → List Char
  | [] => []
  | [(key, value)] => quote key ++ ':' :: render value
  | (key, value) :: rest => quote key ++ ':' :: render value ++ ',' :: renderFields rest

end

/-- `serde_json::to_string`. -/
def toText (j : Json) : String := String.ofList j.render

def renderField (field : String × Json) : List Char :=
  quote field.1 ++ ':' :: render field.2

/-- Behind the first field, every further one is a comma and the field. -/
theorem renderFields_cons (field : String × Json) (rest : List (String × Json)) :
    renderFields (field :: rest) =
      renderField field ++ rest.flatMap fun next => ',' :: renderField next := by
  induction rest generalizing field with
  | nil => simp [renderFields, renderField]
  | cons next rest ih => simp [renderFields, renderField, ih]

theorem renderFields_append {front : List (String × Json)} (hfront : front ≠ [])
    (back : List (String × Json)) :
    renderFields (front ++ back) =
      renderFields front ++ back.flatMap fun next => ',' :: renderField next := by
  obtain ⟨field, rest, rfl⟩ := List.exists_cons_of_ne_nil hfront
  rw [List.cons_append, renderFields_cons, renderFields_cons, List.flatMap_append,
    List.append_assoc]

/-- A field marked `skip_serializing_if = "Option::is_none"`. -/
def optionalField {α : Type} (name : String) (encode : α → Json) :
    Option α → List (String × Json)
  | none => []
  | some value => [(name, encode value)]

/-- A field that is written as `null` when it is absent. -/
def nullable {α : Type} (encode : α → Json) : Option α → Json
  | none => null
  | some value => encode value

/-- Two objects that differ in one optional field have the same text exactly when the
field is absent from both or has the same text in both. -/
theorem toText_optionalField_iff {α : Type} {name : String} {encode : α → Json}
    {front : List (String × Json)} (hfront : front ≠ []) (back : List (String × Json))
    (left right : Option α) :
    (object (front ++ (optionalField name encode left ++ back))).toText =
        (object (front ++ (optionalField name encode right ++ back))).toText ↔
      left.map (fun value => (encode value).render) =
        right.map fun value => (encode value).render := by
  simp only [toText, String.ofList_inj, render, renderFields_append hfront, List.flatMap_append,
    List.cons.injEq, true_and, List.append_cancel_left_eq, List.append_cancel_right_eq,
    List.cons_append, List.append_assoc]
  cases left <;> cases right <;> simp [optionalField, renderField]

end Json
