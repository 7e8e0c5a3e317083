/-
The state that requests share: the circuits and the admission counters.

Admission guards are values that the code moves around.  The world keeps them in a
table, and a handle is a position in it.  An entry also says who owns the guard: a
request in progress, or somebody outside.  Ownership is what the compiler enforces, and
it is used for one thing only, that nobody but the owner can drop a guard.

`handle` answers the operations of one request that runs alone.
-/
import RustyGate.Gateway.Interface
import RustyGate.Routing.Resilience

namespace RustyGate

/-- An admission guard with its owner, `none` outside any request in progress.  A
dropped guard stays in the table and is not alive. -/
structure HeldGuard where
  guard : AdmissionGuard
  owner : Option Nat
  alive : Bool := true
  deriving DecidableEq, Repr

/-- The limits never change.  `time` is the latest instant that has passed. -/
structure World where
  registry : ResilienceRegistry
  limits : AdmissionLimits
  counters : AdmissionCounters := {}
  guards : List HeldGuard := []
  time : Nat := 0

namespace World

def allowProviderCall (w : World) (now : Nat) (p : String) : Bool × World :=
  let (allowed, r) := w.registry.allowProviderCall now p
  (allowed, { w with registry := r })

def recordSuccess (w : World) (p : String) : World :=
  { w with registry := w.registry.recordSuccess p }

def recordFailure (w : World) (now : Nat) (p : String) : World :=
  { w with registry := w.registry.recordFailure now p }

/-- Enter the answer of an acquire into the table. -/
def acquired (w : World) (owner : Option Nat) :
    Except AdmissionRejection AdmissionGuard × AdmissionCounters →
      Except AdmissionRejection GuardId × World
  | (.ok guard, counters) =>
      (.ok w.guards.length,
        { w with counters := counters, guards := w.guards ++ [{ guard, owner }] })
  | (.error rejection, counters) => (.error rejection, { w with counters := counters })

def tryAcquireRequest (w : World) (owner : Option Nat) (poolName : Option String) :
    Except AdmissionRejection GuardId × World :=
  w.acquired owner (w.counters.tryAcquireRequest w.limits poolName)

def tryAcquireProvider (w : World) (owner : Option Nat) (p : String) :
    Except AdmissionRejection GuardId × World :=
  w.acquired owner (w.counters.tryAcquireProvider w.limits p)

/-- Finish the guard at `g`.  It stays alive unless it is dropped. -/
def finish (w : World) (g : GuardId) (alive : Bool) : World :=
  match w.guards[g]? with
  | none => w
  | some held =>
      let (guard, counters) := held.guard.finish w.counters
      { w with counters := counters, guards := w.guards.set g { held with guard, alive } }

def drop (w : World) (g : GuardId) : World := w.finish g false

@[simp] theorem registry_finish (w : World) (g : GuardId) (alive : Bool) :
    (w.finish g alive).registry = w.registry := by
  unfold finish
  split <;> rfl

@[simp] theorem registry_drop (w : World) (g : GuardId) : (w.drop g).registry = w.registry :=
  registry_finish w g false

@[simp] theorem registry_acquired (w : World) (owner : Option Nat)
    (answer : Except AdmissionRejection AdmissionGuard × AdmissionCounters) :
    (w.acquired owner answer).2.registry = w.registry := by
  obtain ⟨result, counters⟩ := answer
  cases result <;> rfl

@[simp] theorem time_finish (w : World) (g : GuardId) (alive : Bool) :
    (w.finish g alive).time = w.time := by
  unfold finish
  split <;> rfl

@[simp] theorem time_acquired (w : World) (owner : Option Nat)
    (answer : Except AdmissionRejection AdmissionGuard × AdmissionCounters) :
    (w.acquired owner answer).2.time = w.time := by
  obtain ⟨result, counters⟩ := answer
  cases result <;> rfl

/-- The answers to request `i` while it runs alone.  `outside` answers what the world
does not, and `now` is the reading of the clock an operation uses. -/
def handle (i : Nat) (outside : (o : Op) → Ans o) (now : Op → Nat) :
    (o : Op) → World → Ans o × World
  | .allowProviderCall index p, w =>
      w.allowProviderCall (now (.allowProviderCall index p)) p
  | .recordSuccess _ p, w => ((), w.recordSuccess p)
  | .recordFailure index p, w => ((), w.recordFailure (now (.recordFailure index p)) p)
  | .tryAcquireRequest poolName, w => w.tryAcquireRequest (some i) poolName
  | .tryAcquireProvider _ p, w => w.tryAcquireProvider (some i) p
  | .dropAdmissionGuard g, w => ((), w.drop g)
  | o, w => (outside o, w)

end World
end RustyGate
