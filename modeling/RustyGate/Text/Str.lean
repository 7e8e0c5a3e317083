/-
The string functions of Rust's standard library that the gateway uses, on lists of
characters.  `White_Space` is the Unicode property that `char::is_whitespace` tests.
-/
import Mathlib.Algebra.Ring.Nat
import Mathlib.Data.List.Basic
import RustyGate.Text.Delimited

namespace Text

def isWhitespace (c : Char) : Bool :=
  let n := c.toNat
  (0x9 ≤ n && n ≤ 0xD) || n == 0x20 || n == 0x85 || n == 0xA0 || n == 0x1680 ||
    (0x2000 ≤ n && n ≤ 0x200A) || n == 0x2028 || n == 0x2029 || n == 0x202F ||
    n == 0x205F || n == 0x3000

/-- `str::trim_start`. -/
def trimStart (t : List Char) : List Char := t.dropWhile isWhitespace

/-- `str::trim`. -/
def trim (t : List Char) : List Char := ((trimStart t).reverse.dropWhile isWhitespace).reverse

/-- `str::split_whitespace`: the maximal runs of characters that are not white space. -/
def splitWhitespace (t : List Char) : List (List Char) :=
  (t.splitOnP isWhitespace).filter fun word => !word.isEmpty

/-- `strip_suffix('\r')` or the line itself. -/
def stripCarriageReturn (line : List Char) : List Char :=
  if line.getLast? = some '\r' then line.dropLast else line

/-- `str::lines`.  What stands behind the last line feed is a line unless it is empty, and
keeps a carriage return at its end. -/
def lines (t : List Char) : List (List Char) :=
  let parts := t.splitOn '\n'
  parts.dropLast.map stripCarriageReturn ++ parts.getLast?.toList.filter fun line => !line.isEmpty

/-- `str::splitn(n, c)`: at most `n` parts, the last of which is not cut any further. -/
def splitn (c : Char) : Nat → List Char → List (List Char)
  | 0, _ => []
  | 1, t => [t]
  | n + 2, t =>
      match Delimited.cut [c] t with
      | none => [t]
      | some (before, after) => before :: splitn c (n + 1) after

/-- `str::trim` of a string. -/
def trimmed (s : String) : String := String.ofList (trim s.toList)

/-- `s.trim().is_empty()`. -/
def isBlank (s : String) : Bool := (trim s.toList).isEmpty

/-- The digit of a number below sixteen, in lower case. -/
def hexDigit (n : Nat) : Char := Char.ofNat (if n < 10 then 48 + n else 87 + n)

/-- The last `width` hexadecimal digits of `n`. -/
def hex : Nat → Nat → List Char
  | 0, _ => []
  | width + 1, n => hex width (n / 16) ++ [hexDigit (n % 16)]

/-- Every byte as two digits. -/
def hexBytes (bytes : List UInt8) : List Char := bytes.flatMap fun byte => hex 2 byte.toNat

theorem splitn_append {c : Char} {before : List Char} (h : c ∉ before) (n : Nat)
    (after : List Char) :
    splitn c (n + 2) (before ++ c :: after) = before :: splitn c (n + 1) after := by
  rw [splitn, Delimited.cut_singleton h]

/-! ## Digits determine the number -/

theorem hexDigit_inj {m n : Nat} (hm : m < 16) (hn : n < 16) (h : hexDigit m = hexDigit n) :
    m = n := by
  have hall : ∀ i j : Fin 16, hexDigit i = hexDigit j → i = j := by decide
  have := hall ⟨m, hm⟩ ⟨n, hn⟩ h
  exact Fin.mk.inj this

theorem hexDigit_of_mem_hex {c : Char} {width n : Nat} (h : c ∈ hex width n) :
    ∃ i : Fin 16, c = hexDigit i := by
  induction width generalizing n with
  | zero => cases h
  | succ width ih =>
      rw [hex, List.mem_append, List.mem_singleton] at h
      rcases h with h | rfl
      · exact ih h
      · exact ⟨⟨n % 16, by omega⟩, rfl⟩

theorem not_mem_hex {c : Char} (hc : ∀ i : Fin 16, c ≠ hexDigit i) (width n : Nat) :
    c ∉ hex width n := by
  intro h
  obtain ⟨i, hi⟩ := hexDigit_of_mem_hex h
  exact hc i hi

theorem length_hex (width n : Nat) : (hex width n).length = width := by
  induction width generalizing n with
  | zero => rfl
  | succ width ih => rw [hex, List.length_append, ih, List.length_singleton]

theorem hex_inj {width m n : Nat} (hm : m < 16 ^ width) (hn : n < 16 ^ width)
    (h : hex width m = hex width n) : m = n := by
  induction width generalizing m n with
  | zero => omega
  | succ width ih =>
      rw [Nat.pow_succ] at hm hn
      obtain ⟨hfront, hlast⟩ := List.append_inj h (by rw [length_hex, length_hex])
      have hdiv : m / 16 = n / 16 := ih (by omega) (by omega) hfront
      have hmod : m % 16 = n % 16 :=
        hexDigit_inj (by omega) (by omega) (List.singleton_inj.mp hlast)
      omega

theorem hexBytes_injective : Function.Injective hexBytes := by
  intro left right h
  induction left generalizing right with
  | nil =>
      cases right with
      | nil => rfl
      | cons byte right => simp [hexBytes, hex] at h
  | cons byte left ih =>
      cases right with
      | nil => simp [hexBytes, hex] at h
      | cons byte' right =>
          obtain ⟨hbyte, hrest⟩ := List.append_inj h (by rw [length_hex, length_hex])
          have hb : byte.toNat = byte'.toNat :=
            hex_inj byte.toNat_lt byte'.toNat_lt hbyte
          rw [UInt8.toNat_inj.mp hb, ih hrest]

end Text
