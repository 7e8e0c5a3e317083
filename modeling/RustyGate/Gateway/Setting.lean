/-
Requests side by side.

Any number of requests run over one `World`.  An operation of a request that touches the
circuits or the admission counters is one step, because each of them is behind a lock.
Every other operation leaves the world alone and may have any answer.  A clock reading
may be old by the time it is used, so it is any instant that has passed.

A request that returns leaves its guards to whoever takes its result.  A request that is
dropped drops the guards it owns.  Besides the requests, time passes, and somebody
outside may acquire guards and finish or drop those that nobody in progress owns.
-/
import RustyGate.Effect.Pool
import RustyGate.Gateway.Phases
import RustyGate.Gateway.World

namespace RustyGate

open Effect

namespace World

def owns (w : World) (i : Nat) (g : GuardId) : Bool :=
  (w.guards[g]?).any fun held => held.owner == some i && held.alive

/-- Request `i` is dropped, and with it the guards it owns. -/
def dropOwned (i : Nat) (w : World) : World :=
  (List.range w.guards.length).foldl (fun w g => if w.owns i g then w.drop g else w) w

/-- Request `i` has returned. -/
def disown (i : Nat) (w : World) : World :=
  { w with guards := w.guards.map fun held =>
      if held.owner = some i then { held with owner := none } else held }

/-- What may happen outside the requests. -/
inductive Ambient (w : World) : World → Prop
  | tick {t : Nat} (ht : w.time ≤ t) : Ambient w { w with time := t }
  | acquireRequest (poolName : Option String) : Ambient w (w.tryAcquireRequest none poolName).2
  | acquireProvider (p : String) : Ambient w (w.tryAcquireProvider none p).2
  | finish {g : GuardId} {held : HeldGuard} (hg : w.guards[g]? = some held)
      (howner : held.owner = none) (halive : held.alive = true) : Ambient w (w.finish g true)
  | drop {g : GuardId} {held : HeldGuard} (hg : w.guards[g]? = some held)
      (howner : held.owner = none) (halive : held.alive = true) : Ambient w (w.drop g)

/-- An operation of request `i`, with its answer and the world behind it. -/
def exec (i : Nat) (w : World) : (o : Op) → Ans o → World → Prop
  | .allowProviderCall _ p, allowed, w' =>
      ∃ now ≤ w.time, w.allowProviderCall now p = (allowed, w')
  | .recordSuccess _ p, _, w' => w' = w.recordSuccess p
  | .recordFailure _ p, _, w' => ∃ now ≤ w.time, w' = w.recordFailure now p
  | .tryAcquireRequest poolName, answer, w' =>
      w.tryAcquireRequest (some i) poolName = (answer, w')
  | .tryAcquireProvider _ p, answer, w' => w.tryAcquireProvider (some i) p = (answer, w')
  | .dropAdmissionGuard g, _, w' => w' = w.drop g
  | _, _, w' => w' = w

/-- Handling a request that runs alone, with a clock that stands still, is one of the
possibilities. -/
theorem exec_handle (i : Nat) (outside : (o : Op) → Ans o) {t : Nat} (o : Op) {w : World}
    (ht : t ≤ w.time) :
    w.exec i o (handle i outside (fun _ => t) o w).1 (handle i outside (fun _ => t) o w).2 ∧
      t ≤ (handle i outside (fun _ => t) o w).2.time := by
  cases o with
  | allowProviderCall index p => exact ⟨⟨t, ht, rfl⟩, ht⟩
  | recordFailure index p => exact ⟨⟨t, ht, rfl⟩, ht⟩
  | tryAcquireRequest poolName =>
      exact ⟨rfl, ht.trans_eq (time_acquired w (some i) _).symm⟩
  | tryAcquireProvider index p =>
      exact ⟨rfl, ht.trans_eq (time_acquired w (some i) _).symm⟩
  | dropAdmissionGuard g => exact ⟨rfl, ht.trans_eq (time_finish w g false).symm⟩
  | _ => exact ⟨rfl, ht⟩

end World

/-- Requests over one world.  `awaits` are the operations at which a request may be
dropped. -/
def requests (awaits : Op → Bool) (done : Phase → Prop) (programs : Gateway Unit → Prop) :
    Setting Ans Phase World where
  exec := fun i w => w.exec i
  awaits := awaits
  leave := World.disown
  cancel := World.dropOwned
  ambient := World.Ambient
  watch := Phase.watch
  start := {}
  done := done
  programs := programs

abbrev Requests := Pool Ans Phase World

/-- A gateway that has just started. -/
def freshGateway (defaultPolicy : ProviderResiliencePolicy)
    (providerPolicies : String → Option ProviderResiliencePolicy) (providerNames : List String)
    (limits : AdmissionLimits) : Requests where
  threads := []
  world := { registry := .new defaultPolicy providerPolicies providerNames, limits }

end RustyGate
