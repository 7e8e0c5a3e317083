/-
Reading JSON text, as `serde_json::from_str` does.

A reader takes what it needs off the front of a text and leaves the rest.  Containers may be
nested 127 deep.  White space may stand around every token, a control character may not stand
in a string, and a number is kept as its text.

The theorem this file exists for is `parse_render`: a value that is written down is read back,
if its numbers are numbers and it is not nested too deep.  A number ends where the text goes on
with something else, so the induction carries a condition on what follows a value (`Stops`).
What is read is such a value, too (`readable_of_parse`).
-/
import Mathlib.Algebra.Order.Ring.Nat
import RustyGate.Models.Json
import RustyGate.Text.Utf8

namespace Json

/-- A value off the front of a text, with the rest of it. -/
abbrev Reader (α : Type) := List Char → Option (α × List Char)

def isSpace (c : Char) : Bool := c == ' ' || c == '\n' || c == '\t' || c == '\r'

def skipSpace (text : List Char) : List Char := text.dropWhile isSpace

/-! ## Numbers -/

/-- Where the reader is in a number. -/
inductive NumberState where
  | start
  | minus
  | zero
  | integer
  | point
  | fraction
  | exponent
  | exponentSign
  | exponentDigits
  deriving DecidableEq, Repr

namespace NumberState

/-- The state behind a character that continues the number. -/
def step : NumberState → Char → Option NumberState
  | start, c =>
      if c = '-' then some minus
      else if c = '0' then some zero
      else if c.isDigit then some integer
      else none
  | minus, c => if c = '0' then some zero else if c.isDigit then some integer else none
  | zero, c => if c = '.' then some point else if c = 'e' ∨ c = 'E' then some exponent else none
  | integer, c =>
      if c.isDigit then some integer
      else if c = '.' then some point
      else if c = 'e' ∨ c = 'E' then some exponent
      else none
  | point, c => if c.isDigit then some fraction else none
  | fraction, c =>
      if c.isDigit then some fraction
      else if c = 'e' ∨ c = 'E' then some exponent
      else none
  | exponent, c =>
      if c = '+' ∨ c = '-' then some exponentSign
      else if c.isDigit then some exponentDigits
      else none
  | exponentSign, c | exponentDigits, c => if c.isDigit then some exponentDigits else none

/-- A number may end here. -/
def isEnd : NumberState → Bool
  | zero | integer | fraction | exponentDigits => true
  | start | minus | point | exponent | exponentSign => false

end NumberState

def readNumber : NumberState → Reader (List Char)
  | s, [] => if s.isEnd then some ([], []) else none
  | s, c :: rest =>
      match s.step c with
      | some next => (readNumber next rest).map fun read => (c :: read.1, read.2)
      | none => if s.isEnd then some ([], c :: rest) else none

/-- The text is a number and nothing else. -/
def IsNumber (text : List Char) : Prop := readNumber .start text = some (text, [])

instance (text : List Char) : Decidable (IsNumber text) :=
  inferInstanceAs (Decidable (readNumber .start text = some (text, [])))

/-! ## Strings -/

def hexValue (c : Char) : Option Nat :=
  let n := c.toNat
  if 48 ≤ n ∧ n ≤ 57 then some (n - 48)
  else if 97 ≤ n ∧ n ≤ 102 then some (n - 87)
  else if 65 ≤ n ∧ n ≤ 70 then some (n - 55)
  else none

/-- Four digits of a `\u` escape. -/
def codeUnit (a b c d : Char) : Option Nat := do
  return (((← hexValue a) * 16 + (← hexValue b)) * 16 + (← hexValue c)) * 16 + (← hexValue d)

/-- The character of a short escape. -/
def unescape (c : Char) : Option Char :=
  if c = '"' then some '"'
  else if c = '\\' then some '\\'
  else if c = '/' then some '/'
  else if c = 'b' then some (Char.ofNat 8)
  else if c = 'f' then some (Char.ofNat 12)
  else if c = 'n' then some '\n'
  else if c = 'r' then some '\r'
  else if c = 't' then some '\t'
  else none

def isLeading (unit : Nat) : Bool := 0xD800 ≤ unit && unit < 0xDC00
def isTrailing (unit : Nat) : Bool := 0xDC00 ≤ unit && unit < 0xE000

/-- What stands behind the opening quote.  A leading surrogate has to be followed by a
trailing one, and a trailing one may not stand alone. -/
def readString : Reader (List Char)
  | [] => none
  | '"' :: rest => some ([], rest)
  | '\\' :: 'u' :: a :: b :: c :: d :: rest =>
      match codeUnit a b c d with
      | none => none
      | some unit =>
          if isLeading unit then
            match rest with
            | '\\' :: 'u' :: a' :: b' :: c' :: d' :: rest' =>
                match codeUnit a' b' c' d' with
                | none => none
                | some unit' =>
                    if isTrailing unit' then
                      (readString rest').map fun read =>
                        (Char.ofNat (0x10000 + (unit - 0xD800) * 0x400 + (unit' - 0xDC00)) ::
                          read.1, read.2)
                    else none
            | _ => none
          else if isTrailing unit then none
          else (readString rest).map fun read => (Char.ofNat unit :: read.1, read.2)
  | '\\' :: c :: rest =>
      match unescape c with
      | none => none
      | some c => (readString rest).map fun read => (c :: read.1, read.2)
  | c :: rest =>
      if c.toNat < 32 then none
      else (readString rest).map fun read => (c :: read.1, read.2)

/-! ## Values -/

def readLiteral (word : List Char) (value : Json) : Reader Json := fun text =>
  if word.isPrefixOf text then some (value, text.drop word.length) else none

/-- A value that is no container. -/
def readScalar : Reader Json
  | '"' :: rest => (readString rest).map fun read => (string (String.ofList read.1), read.2)
  | text =>
      readLiteral "null".toList null text <|> readLiteral "true".toList (bool true) text <|>
        readLiteral "false".toList (bool false) text <|>
        (readNumber .start text).map fun read => (number (String.ofList read.1), read.2)

section Series

variable {α : Type} (close : Char) (entry : Reader α)

/-- The entries of a container up to its end, the first of which has to be there.  Every
round uses up a character at least. -/
def readEntries : Nat → Reader (List α)
  | 0, _ => none
  | fuel + 1, text =>
      match entry text with
      | none => none
      | some (first, rest) =>
          match skipSpace rest with
          | [] => none
          | c :: rest =>
              if c = ',' then
                (readEntries fuel rest).map fun read => (first :: read.1, read.2)
              else if c = close then some ([first], rest)
              else none

/-- What stands behind the opening bracket. -/
def readSeries : Reader (List α) := fun text =>
  match skipSpace text with
  | [] => none
  | c :: rest => if c = close then some ([], rest) else readEntries close entry text.length text

end Series

/-- A key, a colon and a value. -/
def readField (value : Reader Json) : Reader (String × Json) := fun text =>
  match skipSpace text with
  | '"' :: rest =>
      match readString rest with
      | none => none
      | some (key, rest) =>
          match skipSpace rest with
          | ':' :: rest => (value rest).map fun read => ((String.ofList key, read.1), read.2)
          | _ => none
  | _ => none

/-- A value with at most `depth` containers inside each other. -/
def readValue : Nat → Reader Json
  | 0, text => readScalar (skipSpace text)
  | depth + 1, text =>
      match skipSpace text with
      | '[' :: rest =>
          (readSeries ']' (readValue depth) rest).map fun read => (array read.1, read.2)
      | '\x7b' :: rest =>
          (readSeries '\x7d' (readField (readValue depth)) rest).map fun read =>
            (object read.1, read.2)
      | text => readScalar text

/-- The recursion limit of `serde_json` is 128 and may not be reached. -/
def maxDepth : Nat := 127

/-- `serde_json::from_str`. -/
def parse (text : List Char) : Option Json :=
  match readValue maxDepth text with
  | none => none
  | some (j, rest) => if skipSpace rest = [] then some j else none

/-! ## What can be read back -/

mutual

/-- Every number is the text of a number. -/
def wellFormed : Json → Bool
  | number text => decide (IsNumber text.toList)
  | array items => wellFormedItems items
  | object fields => wellFormedFields fields
  | null | bool _ | string _ => true

def wellFormedItems : List Json → Bool
  | [] => true
  | item :: rest => wellFormed item && wellFormedItems rest

def wellFormedFields : List (String × Json) → Bool
  | [] => true
  | (_, value) :: rest => wellFormed value && wellFormedFields rest

end

mutual

/-- How deep containers are nested. -/
def depth : Json → Nat
  | array items => depthItems items + 1
  | object fields => depthFields fields + 1
  | null | bool _ | number _ | string _ => 0

def depthItems : List Json → Nat
  | [] => 0
  | item :: rest => max (depth item) (depthItems rest)

def depthFields : List (String × Json) → Nat
  | [] => 0
  | (_, value) :: rest => max (depth value) (depthFields rest)

end

theorem wellFormedItems_iff {items : List Json} :
    wellFormedItems items = true ↔ ∀ item ∈ items, item.wellFormed = true := by
  induction items with
  | nil => simp [wellFormedItems]
  | cons item rest ih => simp [wellFormedItems, ih]

variable {fields : List (String × Json)} {n : Nat} {j : Json} {field : String × Json} {c : Char}
  {text rest : List Char}

theorem wellFormedFields_iff :
    wellFormedFields fields = true ↔ ∀ field ∈ fields, field.2.wellFormed = true := by
  induction fields with
  | nil => simp [wellFormedFields]
  | cons field rest ih => simp [wellFormedFields, ih]

theorem depthItems_le_iff {items : List Json} :
    depthItems items ≤ n ↔ ∀ item ∈ items, item.depth ≤ n := by
  induction items with
  | nil => simp [depthItems]
  | cons item rest ih => simp [depthItems, ih]

theorem depthFields_le_iff :
    depthFields fields ≤ n ↔ ∀ field ∈ fields, field.2.depth ≤ n := by
  induction fields with
  | nil => simp [depthFields]
  | cons field rest ih => simp [depthFields, ih]

/-- A value that is read back at a nesting of `n`: its numbers are numbers, and it has at
most `n` containers inside each other. -/
structure Readable (n : Nat) (j : Json) : Prop where
  wellFormed : j.wellFormed = true
  depth : j.depth ≤ n

section Readable

variable {n : Nat}

@[simp] theorem readable_null : Readable n null := ⟨rfl, Nat.zero_le n⟩

@[simp] theorem readable_bool (b : Bool) : Readable n (bool b) := ⟨rfl, Nat.zero_le n⟩

@[simp] theorem readable_string (text : String) : Readable n (string text) :=
  ⟨rfl, Nat.zero_le n⟩

theorem readable_number {text : String} (h : IsNumber text.toList) : Readable n (number text) :=
  ⟨decide_eq_true h, Nat.zero_le n⟩

@[simp] theorem readable_array {items : List Json} :
    Readable (n + 1) (array items) ↔ ∀ item ∈ items, Readable n item := by
  constructor
  · exact fun h item hitem => ⟨wellFormedItems_iff.mp h.wellFormed item hitem,
      depthItems_le_iff.mp (Nat.le_of_succ_le_succ h.depth) item hitem⟩
  · exact fun h => ⟨wellFormedItems_iff.mpr fun item hitem => (h item hitem).wellFormed,
      Nat.succ_le_succ (depthItems_le_iff.mpr fun item hitem => (h item hitem).depth)⟩

/-- The values of the fields are read back at a nesting of `n`. -/
def AllReadable (n : Nat) (fields : List (String × Json)) : Prop :=
  ∀ field ∈ fields, Readable n field.2

@[simp] theorem allReadable_nil : AllReadable n [] := List.forall_mem_nil _

@[simp] theorem allReadable_cons :
    AllReadable n (field :: fields) ↔ Readable n field.2 ∧ AllReadable n fields :=
  List.forall_mem_cons

@[simp] theorem allReadable_append {fields fields' : List (String × Json)} :
    AllReadable n (fields ++ fields') ↔ AllReadable n fields ∧ AllReadable n fields' :=
  List.forall_mem_append

@[simp] theorem readable_object :
    Readable (n + 1) (object fields) ↔ AllReadable n fields := by
  constructor
  · exact fun h field hfield => ⟨wellFormedFields_iff.mp h.wellFormed field hfield,
      depthFields_le_iff.mp (Nat.le_of_succ_le_succ h.depth) field hfield⟩
  · exact fun h => ⟨wellFormedFields_iff.mpr fun field hfield => (h field hfield).wellFormed,
      Nat.succ_le_succ (depthFields_le_iff.mpr fun field hfield => (h field hfield).depth)⟩

theorem Readable.mono (h : Readable n j) {m : Nat} (hle : n ≤ m) : Readable m j :=
  ⟨h.wellFormed, Nat.le_trans h.depth hle⟩

end Readable

/-! ## Numbers -/

/-- The text does not go on with a character of a number. -/
def Stops (rest : List Char) : Prop :=
  ∀ c, rest.head? = some c → c.isDigit = false ∧ c ∉ ['.', 'e', 'E', '+', '-']

theorem stops_nil : Stops [] := by
  intro c h
  cases h

theorem stops_cons (h : c.isDigit = false ∧ c ∉ ['.', 'e', 'E', '+', '-']) (rest : List Char) :
    Stops (c :: rest) := by
  intro d hd
  cases hd
  exact h

theorem NumberState.step_eq_none (h : c.isDigit = false ∧ c ∉ ['.', 'e', 'E', '+', '-'])
    (s : NumberState) :
    s.step c = none := by
  obtain ⟨hdigit, hmem⟩ := h
  simp only [List.mem_cons, List.not_mem_nil, or_false, not_or] at hmem
  obtain ⟨hpoint, he, hE, hplus, hminus⟩ := hmem
  have hzero : c ≠ '0' := by
    rintro rfl
    cases hdigit
  cases s <;> simp [step, hdigit, hpoint, he, hE, hplus, hminus, hzero]

/-- A number is read off the front of a text that goes on with something else. -/
theorem readNumber_append {s : NumberState} (h : readNumber s text = some (text, []))
    (hrest : Stops rest) :
    readNumber s (text ++ rest) = some (text, rest) := by
  induction text generalizing s with
  | nil =>
      have hend : s.isEnd = true := by simpa [readNumber] using h
      cases rest with
      | nil => exact h
      | cons c rest =>
          have hstep : s.step c = none := NumberState.step_eq_none (hrest c rfl) s
          simp [readNumber, hstep, hend]
  | cons c text ih =>
      rw [readNumber] at h
      rw [List.cons_append, readNumber]
      cases hstep : s.step c with
      | none => simp [hstep] at h
      | some next =>
          simp only [hstep, Option.map_eq_some_iff, Prod.mk.injEq, List.cons.injEq] at h
          obtain ⟨⟨front, left⟩, hread, ⟨-, hfront⟩, hleft⟩ := h
          simp only at hfront hleft
          subst hfront hleft
          simp [ih hread]

/-- A number begins with a digit or a minus sign. -/
theorem IsNumber.head {text : List Char} (h : IsNumber text) :
    ∃ c rest, text = c :: rest ∧ (c = '-' ∨ c.isDigit = true) := by
  cases text with
  | nil => simp [IsNumber, readNumber, NumberState.isEnd] at h
  | cons c rest =>
      refine ⟨c, rest, rfl, ?_⟩
      by_contra hno
      simp only [not_or, Bool.not_eq_true] at hno
      obtain ⟨hminus, hdigit⟩ := hno
      have hzero : c ≠ '0' := by
        rintro rfl
        cases hdigit
      simp [IsNumber, readNumber, NumberState.step, hminus, hdigit, hzero,
        NumberState.isEnd] at h

/-! ## Strings -/

theorem hexValue_hexDigit (h : n < 16) : hexValue (Text.hexDigit n) = some n := by
  have hall : ∀ i : Fin 16, hexValue (Text.hexDigit i) = some i.val := by decide
  exact hall ⟨n, h⟩

/-- The four digits of a number are read as the number. -/
theorem codeUnit_hex (h : n < 65536) :
    ∃ a b c d, Text.hex 4 n = [a, b, c, d] ∧ codeUnit a b c d = some n := by
  refine ⟨_, _, _, _, rfl, ?_⟩
  have hmod : ∀ m : Nat, m % 16 < 16 := fun m => Nat.mod_lt m (by decide)
  simp only [codeUnit, hexValue_hexDigit (hmod _), Option.bind_eq_bind, Option.bind_some,
    Option.pure_def, Option.some.injEq]
  omega

/-- A character that needs no escape. -/
theorem readString_plain (hquote : c ≠ '"') (hslash : c ≠ '\\') (hcontrol : 32 ≤ c.toNat)
    (rest : List Char) :
    readString (c :: rest) = (readString rest).map fun read => (c :: read.1, read.2) := by
  rw [readString]
  · exact if_neg (Nat.not_lt.mpr hcontrol)
  · exact hquote
  · intro a b d e rest' hc
    exact absurd hc hslash
  · intro d rest' hc
    exact absurd hc hslash

theorem readString_short {c d : Char} (h : unescape c = some d) (hc : c ≠ 'u') (rest : List Char) :
    readString ('\\' :: c :: rest) = (readString rest).map fun read => (d :: read.1, read.2) := by
  rw [readString]
  · simp [h]
  · intro a b e f rest' hu
    exact absurd hu hc

/-- A control character, which is no surrogate. -/
theorem readString_hex (hc : c.toNat < 32) (rest : List Char) :
    readString ('\\' :: 'u' :: Text.hex 4 c.toNat ++ rest) =
      (readString rest).map fun read => (c :: read.1, read.2) := by
  obtain ⟨d₁, d₂, d₃, d₄, hhex, hunit⟩ := codeUnit_hex (n := c.toNat) (by omega)
  have hleading : isLeading c.toNat = false := by simp [isLeading]; omega
  have htrailing : isTrailing c.toNat = false := by simp [isTrailing]; omega
  rw [hhex]
  simp only [List.cons_append, List.nil_append]
  rw [readString]
  simp [hunit, hleading, htrailing]

theorem readString_escape (c : Char) (rest : List Char) :
    readString (escape c ++ rest) = (readString rest).map fun read => (c :: read.1, read.2) := by
  unfold escape
  split_ifs with hquote hslash hfeed hreturn htab hback hform hcontrol
  · subst hquote
    exact readString_short (by decide) (by decide) rest
  · subst hslash
    exact readString_short (by decide) (by decide) rest
  · subst hfeed
    exact readString_short (by decide) (by decide) rest
  · subst hreturn
    exact readString_short (by decide) (by decide) rest
  · subst htab
    exact readString_short (by decide) (by decide) rest
  · have hc : c = Char.ofNat 8 := by rw [← hback, Char.ofNat_toNat]
    subst hc
    exact readString_short (by decide) (by decide) rest
  · have hc : c = Char.ofNat 12 := by rw [← hform, Char.ofNat_toNat]
    subst hc
    exact readString_short (by decide) (by decide) rest
  · exact readString_hex hcontrol rest
  · exact readString_plain hquote hslash (Nat.not_lt.mp hcontrol) rest

theorem readString_flatMap_escape (text rest : List Char) :
    readString (text.flatMap escape ++ '"' :: rest) = some (text, rest) := by
  induction text with
  | nil => rfl
  | cons c text ih =>
      rw [List.flatMap_cons, List.append_assoc, readString_escape, ih]
      rfl

/-! ## Containers -/

theorem skipSpace_cons (h : isSpace c = false) (rest : List Char) :
    skipSpace (c :: rest) = c :: rest := by
  simp [skipSpace, h]

theorem renderItems_cons (item : Json) (rest : List Json) :
    renderItems (item :: rest) = render item ++ rest.flatMap fun next => ',' :: render next := by
  induction rest generalizing item with
  | nil => simp [renderItems]
  | cons next rest ih => simp [renderItems, ih]

section Series

variable {α : Type} {close : Char} {entry : Reader α} {write : α → List Char}

/-- A bracket that closes a container. -/
structure Closes (close : Char) : Prop where
  ne_comma : close ≠ ','
  isSpace : isSpace close = false
  stops : close.isDigit = false ∧ close ∉ ['.', 'e', 'E', '+', '-']

/-- An entry is read back from its text, whatever stands behind it. -/
structure Entry (close : Char) (entry : Reader α) (write : α → List Char) (x : α) : Prop where
  read : ∀ rest, Stops rest → entry (write x ++ rest) = some (x, rest)
  head : ∃ c rest, write x = c :: rest ∧ isSpace c = false ∧ c ≠ close

theorem readEntries_write (hclose : Closes close) {first : α} {others : List α}
    (hentries : ∀ x ∈ first :: others, Entry close entry write x) {fuel : Nat}
    (hfuel : others.length < fuel) (left : List Char) :
    readEntries close entry fuel
        (write first ++ others.flatMap (fun next => ',' :: write next) ++ close :: left) =
      some (first :: others, left) := by
  induction others generalizing first fuel with
  | nil =>
      obtain ⟨fuel, rfl⟩ : ∃ n, fuel = n + 1 := ⟨fuel - 1, by simp at hfuel; omega⟩
      have hread := (hentries first List.mem_cons_self).read _ (stops_cons hclose.stops left)
      simp [readEntries, hread, skipSpace_cons hclose.isSpace, hclose.ne_comma]
  | cons next others ih =>
      obtain ⟨fuel, rfl⟩ : ∃ n, fuel = n + 1 := ⟨fuel - 1, by simp at hfuel; omega⟩
      have hentriesNext : ∀ x ∈ next :: others, Entry close entry write x :=
        fun x hx => hentries x (List.mem_cons_of_mem first hx)
      have hrest := ih hentriesNext (Nat.lt_of_succ_lt_succ hfuel)
      have hread := (hentries first List.mem_cons_self).read
        (',' :: (write next ++ others.flatMap (fun next => ',' :: write next) ++ close :: left))
        (stops_cons (by decide) _)
      have htext : write first ++ (next :: others).flatMap (fun next => ',' :: write next) ++
          close :: left = write first ++ ',' :: (write next ++
            others.flatMap (fun next => ',' :: write next) ++ close :: left) := by
        simp
      rw [htext, readEntries, hread]
      simp only [skipSpace_cons (c := ',') (by decide), if_true, hrest, Option.map_some]

theorem length_le_flatMap_comma (write : α → List Char) (entries : List α) :
    entries.length ≤ (entries.flatMap fun next => ',' :: write next).length := by
  induction entries with
  | nil => exact Nat.le_refl 0
  | cons next entries ih =>
      simp only [List.flatMap_cons, List.length_append, List.length_cons]
      omega

theorem readSeries_write (hclose : Closes close) {first : α} {others : List α}
    (hentries : ∀ x ∈ first :: others, Entry close entry write x) (left : List Char) :
    readSeries close entry
        (write first ++ others.flatMap (fun next => ',' :: write next) ++ close :: left) =
      some (first :: others, left) := by
  obtain ⟨c, rest, hwrite, hspace, hne⟩ := (hentries first List.mem_cons_self).head
  have hfuel : others.length <
      (write first ++ others.flatMap (fun next => ',' :: write next) ++ close :: left).length := by
    have hcommas := length_le_flatMap_comma write others
    simp only [List.length_append, List.length_cons]
    omega
  rw [readSeries]
  have hskip : skipSpace (write first ++ others.flatMap (fun next => ',' :: write next) ++
      close :: left) = c :: (rest ++ others.flatMap (fun next => ',' :: write next) ++
        close :: left) := by
    rw [hwrite]
    exact skipSpace_cons hspace _
  rw [hskip]
  simp only [hne, if_false]
  exact readEntries_write hclose hentries hfuel left

end Series

/-! ## Values -/

theorem closes_array : Closes ']' := ⟨by decide, by decide, by decide⟩

theorem closes_object : Closes '\x7d' := ⟨by decide, by decide, by decide⟩

/-- A digit is none of the characters that the reader tells apart. -/
theorem ne_of_isDigit {c d : Char} (hc : c.isDigit = true) (hd : d.isDigit = false) : c ≠ d := by
  rintro rfl
  rw [hc] at hd
  cases hd

/-- What the text of a value begins with. -/
theorem render_head (h : j.wellFormed = true) :
    ∃ c rest, j.render = c :: rest ∧ isSpace c = false ∧ c ≠ ']' ∧
      (j.depth = 0 → c ≠ '[' ∧ c ≠ '\x7b') := by
  cases j with
  | null => exact ⟨_, _, rfl, by decide⟩
  | bool b => cases b <;> exact ⟨_, _, rfl, by decide⟩
  | number text =>
      obtain ⟨c, rest, htext, hc⟩ := IsNumber.head (of_decide_eq_true h)
      refine ⟨c, rest, htext, ?_⟩
      rcases hc with rfl | hc
      · exact ⟨by decide, by decide, fun _ => by decide⟩
      · simp [isSpace, ne_of_isDigit hc]
  | string text => exact ⟨_, _, rfl, by decide, by decide, fun _ => by decide⟩
  | array items => exact ⟨_, _, rfl, by decide, by decide, by simp [depth]⟩
  | object fields => exact ⟨_, _, rfl, by decide, by decide, by simp [depth]⟩

theorem skipSpace_render (h : j.wellFormed = true) (rest : List Char) :
    skipSpace (j.render ++ rest) = j.render ++ rest := by
  obtain ⟨c, tail, hrender, hspace, -⟩ := render_head h
  rw [hrender]
  exact skipSpace_cons hspace _

theorem readScalar_number {text : List Char} (h : IsNumber text) {rest : List Char}
    (hrest : Stops rest) :
    readScalar (text ++ rest) = some (number (String.ofList text), rest) := by
  have hread := readNumber_append h hrest
  obtain ⟨c, tail, rfl, hc⟩ := h.head
  have hne : c ≠ '"' ∧ c ≠ 'n' ∧ c ≠ 't' ∧ c ≠ 'f' := by
    rcases hc with rfl | hc
    · decide
    · simp [ne_of_isDigit hc]
  obtain ⟨hquote, hn, ht, hf⟩ := hne
  rw [List.cons_append] at hread ⊢
  rw [readScalar]
  · simp [readLiteral, hread, hn.symm, ht.symm, hf.symm]
  · intro rest' heq
    exact absurd (List.cons.inj heq).1 hquote

/-- A value that is no container is read back. -/
theorem readScalar_render (h : Readable 0 j) {rest : List Char} (hrest : Stops rest) :
    readScalar (j.render ++ rest) = some (j, rest) := by
  cases j with
  | null => rfl
  | bool b => cases b <;> rfl
  | number text =>
      have hread := readScalar_number (of_decide_eq_true h.wellFormed) hrest
      rw [String.ofList_toList] at hread
      exact hread
  | string text =>
      have htext : render (string text) ++ rest =
          '"' :: (text.toList.flatMap escape ++ '"' :: rest) := by
        simp [render, quote]
      rw [htext, readScalar, readString_flatMap_escape]
      simp
  | array items => exact absurd h.depth (by simp [depth])
  | object fields => exact absurd h.depth (by simp [depth])

theorem readValue_scalar (h : Readable 0 j) (n : Nat) (rest : List Char) :
    readValue n (j.render ++ rest) = readScalar (j.render ++ rest) := by
  obtain ⟨c, tail, hrender, -, -, hscalar⟩ := render_head h.wellFormed
  obtain ⟨harray, hobject⟩ := hscalar (Nat.le_zero.mp h.depth)
  cases n with
  | zero => rw [readValue, skipSpace_render h.wellFormed]
  | succ n =>
      rw [readValue, skipSpace_render h.wellFormed, hrender, List.cons_append]
      split
      · next heq => exact absurd (List.cons.inj heq).1 harray
      · next heq => exact absurd (List.cons.inj heq).1 hobject
      · rfl

/-- A field is read back if its value is. -/
theorem readField_render {value : Reader Json} {rest : List Char}
    (h : value (field.2.render ++ rest) = some (field.2, rest)) :
    readField value (renderField field ++ rest) = some (field, rest) := by
  have htext : renderField field ++ rest = '"' :: (field.1.toList.flatMap escape ++
      '"' :: (':' :: (field.2.render ++ rest))) := by
    simp [renderField, quote]
  rw [htext, readField, skipSpace_cons (by decide)]
  simp only [readString_flatMap_escape]
  rw [skipSpace_cons (by decide)]
  simp [h]

/-- A value is read back from its text, whatever stands behind it. -/
theorem readValue_render (h : Readable n j) {rest : List Char} (hrest : Stops rest) :
    readValue n (j.render ++ rest) = some (j, rest) := by
  induction n generalizing j rest with
  | zero =>
      rw [readValue_scalar h]
      exact readScalar_render h hrest
  | succ n ih =>
      -- Inside a container the values are nested less deep by one.
      cases j with
      | array items =>
          have hitems : ∀ item ∈ items, Entry ']' (readValue n) render item := by
            intro item hitem
            have hitem := readable_array.mp h item hitem
            obtain ⟨c, tail, hrender, hspace, hne, -⟩ := render_head hitem.wellFormed
            exact ⟨fun rest hrest => ih hitem hrest, c, tail, hrender, hspace, hne⟩
          rw [readValue, skipSpace_render h.wellFormed]
          cases items with
          | nil => rfl
          | cons item items =>
              have htext : render (array (item :: items)) ++ rest = '[' :: (render item ++
                  items.flatMap (fun next => ',' :: render next) ++ ']' :: rest) := by
                simp [render, renderItems_cons]
              rw [htext]
              simp only [readSeries_write closes_array hitems, Option.map_some]
      | object fields =>
          have hfields : ∀ field ∈ fields,
              Entry '\x7d' (readField (readValue n)) renderField field := by
            intro field hfield
            have hvalue := readable_object.mp h field hfield
            exact ⟨fun rest hrest => readField_render (ih hvalue hrest), _, _, rfl, by decide,
              by decide⟩
          rw [readValue, skipSpace_render h.wellFormed]
          cases fields with
          | nil => rfl
          | cons field fields =>
              have htext : render (object (field :: fields)) ++ rest = '\x7b' ::
                  (renderField field ++ fields.flatMap (fun next => ',' :: renderField next) ++
                    '\x7d' :: rest) := by
                simp [render, renderFields_cons]
              rw [htext]
              simp only [readSeries_write closes_object hfields, Option.map_some]
      | _ =>
          have hscalar : Readable 0 _ := ⟨h.wellFormed, Nat.le_refl 0⟩
          rw [readValue_scalar hscalar]
          exact readScalar_render hscalar hrest

/-- What is written down is read back. -/
theorem parse_render (h : Readable maxDepth j) : parse j.render = some j := by
  have hread := readValue_render h stops_nil
  rw [List.append_nil] at hread
  simp [parse, hread, skipSpace]

/-! ## What is read -/

theorem isNumber_of_readNumber {s : NumberState} {text front left : List Char}
    (h : readNumber s text = some (front, left)) : readNumber s front = some (front, []) := by
  induction text generalizing s front left with
  | nil =>
      obtain ⟨hend, rfl, -⟩ : s.isEnd = true ∧ [] = front ∧ [] = left := by
        simpa [readNumber] using h
      simp [readNumber, hend]
  | cons c text ih =>
      rw [readNumber] at h
      cases hstep : s.step c with
      | none =>
          obtain ⟨hend, rfl, -⟩ : s.isEnd = true ∧ [] = front ∧ c :: text = left := by
            simpa [hstep] using h
          simp [readNumber, hend]
      | some next =>
          simp only [hstep, Option.map_eq_some_iff, Prod.mk.injEq] at h
          obtain ⟨⟨tail, rest⟩, hread, rfl, -⟩ := h
          simp [readNumber, hstep, ih hread]

theorem readable_of_readScalar (h : readScalar text = some (j, rest)) : Readable 0 j := by
  unfold readScalar at h
  split at h
  · simp only [Option.map_eq_some_iff, Prod.mk.injEq] at h
    obtain ⟨read, -, rfl, -⟩ := h
    exact readable_string _
  · have hliteral : ∀ {word : List Char} {value : Json}, value.wellFormed = true →
        value.depth = 0 → readLiteral word value text = some (j, rest) → Readable 0 j := by
      intro word value hwell hdepth hread
      simp only [readLiteral, Option.ite_none_right_eq_some, Option.some.injEq,
        Prod.mk.injEq] at hread
      obtain ⟨-, rfl, -⟩ := hread
      exact ⟨hwell, Nat.le_of_eq hdepth⟩
    simp only [Option.orElse_eq_orElse, Option.orElse_eq_or, Option.or_eq_some_iff] at h
    rcases h with h | ⟨-, h | ⟨-, h | ⟨-, h⟩⟩⟩
    · exact hliteral rfl rfl h
    · exact hliteral rfl rfl h
    · exact hliteral rfl rfl h
    · simp only [Option.map_eq_some_iff, Prod.mk.injEq] at h
      obtain ⟨⟨front, left⟩, hread, rfl, -⟩ := h
      refine readable_number ?_
      rw [String.toList_ofList]
      exact isNumber_of_readNumber hread

section Series

variable {α : Type} {close : Char} {entry : Reader α} {P : α → Prop}

theorem forall_of_readEntries (hentry : ∀ text x rest, entry text = some (x, rest) → P x)
    {fuel : Nat} {entries : List α} (h : readEntries close entry fuel text = some (entries, rest)) :
    ∀ x ∈ entries, P x := by
  induction fuel generalizing text entries rest with
  | zero => cases h
  | succ fuel ih =>
      rw [readEntries] at h
      cases hfirst : entry text with
      | none => simp [hfirst] at h
      | some read =>
          obtain ⟨first, after⟩ := read
          have hP := hentry text first after hfirst
          simp only [hfirst] at h
          cases hskip : skipSpace after with
          | nil => simp [hskip] at h
          | cons c after =>
              simp only [hskip] at h
              split_ifs at h with hcomma hclose
              · simp only [Option.map_eq_some_iff, Prod.mk.injEq] at h
                obtain ⟨⟨others, left⟩, hread, rfl, -⟩ := h
                exact List.forall_mem_cons.mpr ⟨hP, ih hread⟩
              · simp only [Option.some.injEq, Prod.mk.injEq] at h
                obtain ⟨rfl, -⟩ := h
                exact List.forall_mem_singleton.mpr hP

theorem forall_of_readSeries (hentry : ∀ text x rest, entry text = some (x, rest) → P x)
    {entries : List α} (h : readSeries close entry text = some (entries, rest)) :
    ∀ x ∈ entries, P x := by
  rw [readSeries] at h
  cases hskip : skipSpace text with
  | nil => simp [hskip] at h
  | cons c after =>
      simp only [hskip] at h
      split_ifs at h with hclose
      · simp only [Option.some.injEq, Prod.mk.injEq] at h
        obtain ⟨rfl, -⟩ := h
        exact fun x hx => absurd hx List.not_mem_nil
      · exact forall_of_readEntries hentry h

end Series

theorem value_of_readField {value : Reader Json} {P : Json → Prop}
    (hvalue : ∀ text j rest, value text = some (j, rest) → P j)
    (h : readField value text = some (field, rest)) : P field.2 := by
  unfold readField at h
  split at h
  · split at h
    · cases h
    · split at h
      · simp only [Option.map_eq_some_iff, Prod.mk.injEq] at h
        obtain ⟨⟨j, left⟩, hread, rfl, -⟩ := h
        exact hvalue _ j left hread
      · cases h
  · cases h

/-- What is read at a nesting of `n` could be read back at it. -/
theorem readable_of_readValue (h : readValue n text = some (j, rest)) : Readable n j := by
  induction n generalizing text rest j with
  | zero => exact readable_of_readScalar h
  | succ n ih =>
      rw [readValue] at h
      split at h
      · simp only [Option.map_eq_some_iff, Prod.mk.injEq] at h
        obtain ⟨⟨items, left⟩, hread, rfl, -⟩ := h
        exact readable_array.mpr (forall_of_readSeries (fun text x rest => ih) hread)
      · simp only [Option.map_eq_some_iff, Prod.mk.injEq] at h
        obtain ⟨⟨fields, left⟩, hread, rfl, -⟩ := h
        exact readable_object.mpr (forall_of_readSeries (fun text field rest =>
          value_of_readField fun text j rest => ih) hread)
      · exact (readable_of_readScalar h).mono (Nat.zero_le _)

theorem readable_of_parse {text : List Char} (h : parse text = some j) :
    Readable maxDepth j := by
  unfold parse at h
  split at h
  · cases h
  · next heq =>
      simp only [Option.ite_none_right_eq_some, Option.some.injEq] at h
      obtain ⟨-, rfl⟩ := h
      exact readable_of_readValue heq

/-! ## The characters of a text -/

/-- No character is a control character, so the text is one line. -/
def Printable (text : List Char) : Prop := ∀ c ∈ text, 32 ≤ c.toNat

theorem printable_append {text text' : List Char} :
    Printable (text ++ text') ↔ Printable text ∧ Printable text' := List.forall_mem_append

theorem printable_cons {text : List Char} :
    Printable (c :: text) ↔ 32 ≤ c.toNat ∧ Printable text := List.forall_mem_cons

theorem printable_nil : Printable [] := fun _ hc => absurd hc List.not_mem_nil

theorem printable_of_all {text : List Char} (h : text.all (fun c => decide (32 ≤ c.toNat)) = true) :
    Printable text :=
  fun c hc => of_decide_eq_true (List.all_eq_true.mp h c hc)

theorem NumberState.printable_of_step {s next : NumberState} (h : s.step c = some next) :
    32 ≤ c.toNat := by
  by_contra hcontrol
  have hnone : s.step c = none := by
    apply step_eq_none
    constructor
    · rw [Bool.eq_false_iff]
      intro hdigit
      have hzero : '0'.toNat = 48 := rfl
      have hrange := Char.isDigit_iff_toNat.mp hdigit
      omega
    · intro hmem
      simp only [List.mem_cons, List.not_mem_nil, or_false] at hmem
      rcases hmem with rfl | rfl | rfl | rfl | rfl <;> exact hcontrol (by decide)
  rw [hnone] at h
  cases h

theorem printable_of_readNumber {s : NumberState} {text front left : List Char}
    (h : readNumber s text = some (front, left)) : Printable front := by
  induction text generalizing s front left with
  | nil =>
      obtain ⟨-, rfl, -⟩ : s.isEnd = true ∧ [] = front ∧ [] = left := by
        simpa [readNumber] using h
      exact printable_nil
  | cons c text ih =>
      rw [readNumber] at h
      cases hstep : s.step c with
      | none =>
          obtain ⟨-, rfl, -⟩ : s.isEnd = true ∧ [] = front ∧ c :: text = left := by
            simpa [hstep] using h
          exact printable_nil
      | some next =>
          simp only [hstep, Option.map_eq_some_iff, Prod.mk.injEq] at h
          obtain ⟨⟨tail, rest⟩, hread, rfl, -⟩ := h
          exact printable_cons.mpr ⟨NumberState.printable_of_step hstep, ih hread⟩

theorem printable_hex (width n : Nat) : Printable (Text.hex width n) := by
  have hall : ∀ i : Fin 16, 32 ≤ (Text.hexDigit i).toNat := by decide
  intro c hc
  obtain ⟨i, rfl⟩ := Text.hexDigit_of_mem_hex hc
  exact hall i

theorem printable_escape (c : Char) : Printable (escape c) := by
  unfold escape
  split_ifs with h₁ h₂ h₃ h₄ h₅ h₆ h₇ hcontrol
  iterate 7 exact printable_of_all (by decide)
  · exact printable_append.mpr ⟨printable_of_all (by decide), printable_hex 4 c.toNat⟩
  · exact printable_cons.mpr ⟨Nat.not_lt.mp hcontrol, printable_nil⟩

theorem printable_quote (text : String) : Printable (quote text) := by
  refine printable_append.mpr ⟨printable_cons.mpr ⟨by decide, fun c hc => ?_⟩,
    printable_cons.mpr ⟨by decide, printable_nil⟩⟩
  obtain ⟨d, -, hd⟩ := List.mem_flatMap.mp hc
  exact printable_escape d c hd

mutual

theorem printable_render : ∀ {j : Json}, j.wellFormed = true → Printable j.render
  | null, _ => printable_of_all (by decide)
  | bool true, _ => printable_of_all (by decide)
  | bool false, _ => printable_of_all (by decide)
  | number text, h => printable_of_readNumber (of_decide_eq_true h)
  | string text, _ => printable_quote text
  | array items, h => printable_append.mpr
      ⟨printable_cons.mpr ⟨by decide, printable_renderItems h⟩,
        printable_cons.mpr ⟨by decide, printable_nil⟩⟩
  | object fields, h => printable_append.mpr
      ⟨printable_cons.mpr ⟨by decide, printable_renderFields h⟩,
        printable_cons.mpr ⟨by decide, printable_nil⟩⟩

theorem printable_renderItems : ∀ {items : List Json}, wellFormedItems items = true →
    Printable (renderItems items)
  | [], _ => printable_nil
  | item :: rest, h => by
      obtain ⟨hitem, hrest⟩ := Bool.and_eq_true_iff.mp h
      have hread := printable_renderItems hrest
      cases rest with
      | nil => exact printable_render hitem
      | cons next rest =>
          exact printable_append.mpr
            ⟨printable_render hitem, printable_cons.mpr ⟨by decide, hread⟩⟩

theorem printable_renderFields : ∀ {fields : List (String × Json)},
    wellFormedFields fields = true → Printable (renderFields fields)
  | [], _ => printable_nil
  | (key, value) :: rest, h => by
      obtain ⟨hvalue, hrest⟩ := Bool.and_eq_true_iff.mp h
      have hread := printable_renderFields hrest
      cases rest with
      | nil =>
          exact printable_append.mpr ⟨printable_quote key,
            printable_cons.mpr ⟨by decide, printable_render hvalue⟩⟩
      | cons next rest =>
          simp only [renderFields]
          exact printable_append.mpr ⟨printable_append.mpr ⟨printable_quote key,
            printable_cons.mpr ⟨by decide, printable_render hvalue⟩⟩,
            printable_cons.mpr ⟨by decide, hread⟩⟩

end

/-! ## Bytes -/

/-- `serde_json::to_vec`. -/
def toVec (j : Json) : List UInt8 := Text.toUtf8 j.render

/-- `serde_json::from_slice`. -/
def fromSlice (bytes : List UInt8) : Option Json := (Text.fromUtf8 bytes).bind parse

theorem fromSlice_toVec (h : Readable maxDepth j) : fromSlice j.toVec = some j := by
  rw [fromSlice, toVec, Text.fromUtf8_toUtf8]
  exact parse_render h

theorem readable_of_fromSlice {bytes : List UInt8} (h : fromSlice bytes = some j) :
    Readable maxDepth j := by
  obtain ⟨text, -, hparse⟩ := Option.bind_eq_some_iff.mp h
  exact readable_of_parse hparse

end Json
