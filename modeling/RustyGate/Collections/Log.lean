/-
Logs, with the newest entry first.

An expiring log has values that hold for a time.  A key has the value of its newest entry until
that one expires, and an older entry is never seen again, even if it would hold for longer.

In a history, `Past e P` says when an event has happened: at a moment at which the events before
it had `P`.  `Orderly` says of all events that they were due when they happened.  A history only
grows, so what is past stays past.
-/
import Mathlib.Data.List.Basic

namespace Expiring

structure Entry (κ ν : Type) where
  key : κ
  value : ν
  expires : Nat

variable {κ ν : Type} [DecidableEq κ] {log : List (Entry κ ν)} {key : κ} {now : Nat}

/-- The newest entry of a key, expired or not. -/
def newest (log : List (Entry κ ν)) (key : κ) : Option (Entry κ ν) :=
  log.find? fun e => e.key = key

def lookup (log : List (Entry κ ν)) (key : κ) (now : Nat) : Option ν :=
  (newest log key).bind fun e => if now < e.expires then some e.value else none

theorem newest_cons (e : Entry κ ν) (log : List (Entry κ ν)) (key : κ) :
    newest (e :: log) key = if e.key = key then some e else newest log key := by
  unfold newest
  rw [List.find?_cons]
  by_cases h : e.key = key <;> simp [h]

theorem lookup_eq_some {v : ν} :
    lookup log key now = some v ↔ ∃ e, newest log key = some e ∧ now < e.expires ∧ e.value = v := by
  simp [lookup, Option.bind_eq_some_iff]

end Expiring

namespace History

variable {α : Type} {e : α} {P : List α → Prop} {log : List α}

def Past (e : α) (P : List α → Prop) (log : List α) : Prop :=
  ∃ late early, log = late ++ e :: early ∧ P early

theorem Past.now (h : P log) : Past e P (e :: log) := ⟨[], log, rfl, h⟩

theorem Past.later (h : Past e P log) (new : List α) : Past e P (new ++ log) := by
  obtain ⟨late, early, rfl, hearly⟩ := h
  exact ⟨new ++ late, early, (List.append_assoc ..).symm, hearly⟩

/-- No event happened before it was due. -/
def Orderly (due : List α → α → Prop) (log : List α) : Prop :=
  ∀ late e early, log = late ++ e :: early → due early e

variable {due : List α → α → Prop}

theorem orderly_nil : Orderly due [] := by
  intro late e early h
  cases late <;> cases h

theorem Orderly.cons (h : Orderly due log) (hdue : due log e) : Orderly due (e :: log) := by
  intro late e' early hlog
  cases late with
  | nil =>
      cases hlog
      exact hdue
  | cons first late =>
      cases hlog
      exact h late e' early rfl

end History
