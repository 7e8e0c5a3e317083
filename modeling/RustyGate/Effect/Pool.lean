/-
Interleavings of programs over a shared world.

A pool holds any number of threads.  Each runs a `Program` and carries a phase,
the state of a watcher that sees the thread's own events.  A step of the pool is
one operation of one thread, the start of a new thread, a thread that returns or
is cancelled while it waits, or a change of the world from outside.  Nothing
constrains the order of the steps.

The phase is bookkeeping.  It never blocks a step: an event the watcher has no
move for leaves the phase where it was.  `Reaches.phased` shows that this does not
happen for programs that follow the watcher, and from there on an invariant of the
pool is proved from the phases and the world alone, without the programs.
-/
import RustyGate.Effect.Program
import Mathlib.Data.List.Basic

namespace Effect

/-- A thread: what is left of its program, if it is still there, and its phase. -/
structure Thread {Op : Type} (Ans : Op → Type) (S : Type) where
  code : Option (Program Op Ans Unit)
  phase : S

structure Pool {Op : Type} (Ans : Op → Type) (S σ : Type) where
  threads : List (Thread Ans S)
  world : σ

/-- The surroundings of the programs: how the world answers and changes, and what
the watcher does.  `exec i` relates the world before and after an operation of
thread `i`, and several answers may be possible. -/
structure Setting {Op : Type} (Ans : Op → Type) (S σ : Type) where
  exec : Nat → σ → (o : Op) → Ans o → σ → Prop
  /-- The operations at which a thread waits and may be cancelled. -/
  awaits : Op → Bool
  /-- The world after thread `i` has returned. -/
  leave : Nat → σ → σ
  /-- The world after thread `i` has been cancelled. -/
  cancel : Nat → σ → σ
  ambient : σ → σ → Prop
  watch : S → (o : Op) → Ans o → Option S
  start : S
  /-- The phases in which a program may return. -/
  done : S → Prop
  programs : Program Op Ans Unit → Prop

inductive Label {Op : Type} (Ans : Op → Type) where
  | spawn
  | act (i : Nat) (e : Event Ans)
  | leave (i : Nat)
  | cancel (i : Nat)
  | ambient

variable {Op : Type} {Ans : Op → Type} {S σ : Type}

inductive Step (E : Setting Ans S σ) : Pool Ans S σ → Label Ans → Pool Ans S σ → Prop
  | spawn {ts : List (Thread Ans S)} {w : σ} {p : Program Op Ans Unit} (hp : E.programs p) :
      Step E ⟨ts, w⟩ .spawn ⟨ts ++ [⟨some p, E.start⟩], w⟩
  | act {ts : List (Thread Ans S)} {w w' : σ} {i : Nat} {o : Op}
      {next : Ans o → Program Op Ans Unit} {s : S} {a : Ans o}
      (ht : ts[i]? = some ⟨some (.op o next), s⟩) (hw : E.exec i w o a w') :
      Step E ⟨ts, w⟩ (.act i ⟨o, a⟩)
        ⟨ts.set i ⟨some (next a), (E.watch s o a).getD s⟩, w'⟩
  | leave {ts : List (Thread Ans S)} {w : σ} {i : Nat} {s : S}
      (ht : ts[i]? = some ⟨some (.ret ()), s⟩) :
      Step E ⟨ts, w⟩ (.leave i) ⟨ts.set i ⟨none, s⟩, E.leave i w⟩
  | cancel {ts : List (Thread Ans S)} {w : σ} {i : Nat} {o : Op}
      {next : Ans o → Program Op Ans Unit} {s : S}
      (ht : ts[i]? = some ⟨some (.op o next), s⟩) (ho : E.awaits o = true) :
      Step E ⟨ts, w⟩ (.cancel i) ⟨ts.set i ⟨none, s⟩, E.cancel i w⟩
  | ambient {ts : List (Thread Ans S)} {w w' : σ} (hw : E.ambient w w') :
      Step E ⟨ts, w⟩ .ambient ⟨ts, w'⟩

/-- The pools reached from `x` by steps that all meet `C`, a condition on the pool
before the step and on what the step does. -/
inductive Reaches (E : Setting Ans S σ) (C : Pool Ans S σ → Label Ans → Prop)
    (x : Pool Ans S σ) : Pool Ans S σ → Prop
  | refl : Reaches E C x x
  | step {y z : Pool Ans S σ} {l : Label Ans} (h : Reaches E C x y) (hs : Step E y l z)
      (hc : C y l) : Reaches E C x z

variable {E : Setting Ans S σ} {C : Pool Ans S σ → Label Ans → Prop} {P : Op → Prop}
  {x y z : Pool Ans S σ} {l : Label Ans} {ts : List (Thread Ans S)} {t : Thread Ans S} {w w' : σ}
  {i : Nat}

/-- What one step preserves, every run preserves. -/
theorem Reaches.invariant {I : Pool Ans S σ → Prop}
    (hstep : ∀ y l z, I y → Step E y l z → C y l → I z) (hx : I x) (h : Reaches E C x z) : I z := by
  induction h with
  | refl => exact hx
  | step _ hs hc ih => exact hstep _ _ _ ih hs hc

/-! ## A thread on its own

A run under a handler is a run of the pool, as long as the handler gives answers the
world may give. -/

section Alone

variable {h : (o : Op) → σ → Ans o × σ} {I : σ → Prop}

theorem Reaches.set_self (hx : Reaches E C x ⟨ts, w⟩) (hi : ts[i]? = some t) :
    Reaches E C x ⟨ts.set i t, w⟩ := by
  obtain ⟨hlt, rfl⟩ := List.getElem?_eq_some_iff.mp hi
  rw [List.set_getElem_self]
  exact hx

theorem Reaches.alone (hexec : ∀ o w, I w → E.exec i w o (h o w).1 (h o w).2 ∧ I (h o w).2)
    (p : Program Op Ans Unit) {s : S} (hw : I w) (hi : ts[i]? = some ⟨some p, s⟩)
    (hx : Reaches E (fun _ _ => True) x ⟨ts, w⟩) :
    ∃ s', Reaches E (fun _ _ => True) x
      ⟨ts.set i ⟨some (.ret ()), s'⟩, (p.run h w).state⟩ := by
  induction p generalizing ts w s with
  | ret a => exact ⟨s, hx.set_self hi⟩
  | op o next ih =>
      obtain ⟨hlt, -⟩ := List.getElem?_eq_some_iff.mp hi
      have hstep := Step.act hi (hexec o w hw).1
      obtain ⟨s', hs'⟩ := ih (h o w).1 (hexec o w hw).2
        (List.getElem?_set_self hlt) (hx.step hstep trivial)
      rw [List.set_set] at hs'
      exact ⟨s', hs'⟩

/-- The next `n` operations of a thread under a handler. -/
def Thread.ahead (watch : S → (o : Op) → Ans o → Option S) (h : (o : Op) → σ → Ans o × σ) :
    Nat → Thread Ans S → σ → Thread Ans S × σ
  | n + 1, ⟨some (.op o next), s⟩, w =>
      ahead watch h n ⟨some (next (h o w).1), (watch s o (h o w).1).getD s⟩ (h o w).2
  | _, t, w => (t, w)

/-- A thread that performs some operations while the others wait. -/
theorem Reaches.ahead (hexec : ∀ o w, I w → E.exec i w o (h o w).1 (h o w).2 ∧ I (h o w).2)
    (n : Nat) (hw : I w) (hi : ts[i]? = some t) (hx : Reaches E (fun _ _ => True) x ⟨ts, w⟩) :
    Reaches E (fun _ _ => True) x
      ⟨ts.set i (t.ahead E.watch h n w).1, (t.ahead E.watch h n w).2⟩ := by
  induction n generalizing t ts w with
  | zero => exact hx.set_self hi
  | succ n ih =>
      obtain ⟨_ | _ | ⟨o, next⟩, s⟩ := t
      · exact hx.set_self hi
      · exact hx.set_self hi
      · obtain ⟨hlt, -⟩ := List.getElem?_eq_some_iff.mp hi
        have hnext := ih (hexec o w hw).2 (List.getElem?_set_self hlt)
          (hx.step (.act hi (hexec o w hw).1) trivial)
        rw [List.set_set] at hnext
        exact hnext

/-- A new thread that runs to its end while the others wait. -/
theorem Reaches.call {p : Program Op Ans Unit} (hp : E.programs p)
    (hexec : ∀ o w, I w → E.exec ts.length w o (h o w).1 (h o w).2 ∧ I (h o w).2) (hw : I w)
    (hx : Reaches E (fun _ _ => True) x ⟨ts, w⟩) :
    ∃ s', Reaches E (fun _ _ => True) x
      ⟨ts ++ [⟨none, s'⟩], E.leave ts.length (p.run h w).state⟩ := by
  obtain ⟨s', hs'⟩ := Reaches.alone hexec p hw List.getElem?_concat_length
    (hx.step (.spawn hp) trivial)
  have hlt : ts.length < (ts ++ [(⟨some p, E.start⟩ : Thread Ans S)]).length := by simp
  have hdone := hs'.step (.leave (List.getElem?_set_self hlt)) trivial
  rw [List.set_set, List.set_append_right _ _ (Nat.le_refl _), Nat.sub_self] at hdone
  exact ⟨s', hdone⟩

end Alone

/-! ## Phases -/

namespace Pool

/-- What is left of every running thread follows the watcher from its phase. -/
def Phased (E : Setting Ans S σ) (x : Pool Ans S σ) : Prop :=
  ∀ (i : Nat) (p : Program Op Ans Unit) (s : S),
    x.threads[i]? = some ⟨some p, s⟩ → p.Follows E.watch (fun _ => E.done) s

theorem phased_nil (E : Setting Ans S σ) (w : σ) : Phased E ⟨[], w⟩ := by
  intro i p s hi
  cases hi

/-- Where one thread is replaced, the others keep their phases. -/
theorem Phased.set (hx : Phased E ⟨ts, w⟩)
    (ht : ∀ p s, t = ⟨some p, s⟩ → p.Follows E.watch (fun _ => E.done) s) :
    Phased E ⟨ts.set i t, w'⟩ := by
  intro j q s hj
  by_cases hij : i = j
  · subst hij
    obtain ⟨hlt, hget⟩ := List.getElem?_eq_some_iff.mp hj
    rw [List.getElem_set_self] at hget
    exact ht q s hget
  · rw [List.getElem?_set_ne hij] at hj
    exact hx j q s hj

end Pool

/-- The programs keep to the watcher. -/
def Setting.Obeyed (E : Setting Ans S σ) : Prop :=
  ∀ p, E.programs p → p.Follows E.watch (fun _ => E.done) E.start

theorem Step.phased (hprog : E.Obeyed) (hx : x.Phased E) (h : Step E x l y) :
    y.Phased E := by
  cases h with
  | @spawn ts w p hp =>
      intro i q s hi
      rcases Nat.lt_trichotomy i ts.length with hlt | heq | hgt
      · rw [List.getElem?_append_left hlt] at hi
        exact hx i q s hi
      · subst heq
        simp only [List.getElem?_concat_length, Option.some.injEq, Thread.mk.injEq] at hi
        obtain ⟨rfl, rfl⟩ := hi
        exact hprog _ hp
      · rw [List.getElem?_eq_none (by simp; omega)] at hi
        cases hi
  | @act ts w w' i o next s a ht hw =>
      obtain ⟨s', hs', hnext⟩ := hx i _ s ht a
      refine hx.set fun q t heq => ?_
      cases heq
      rw [hs']
      exact hnext
  | @leave ts w i s ht =>
      refine hx.set fun q t heq => ?_
      cases heq
  | @cancel ts w i o next s ht ho =>
      refine hx.set fun q t heq => ?_
      cases heq
  | ambient hw => exact hx

theorem Reaches.phased (hprog : E.Obeyed) (hx : x.Phased E) (h : Reaches E C x z) : z.Phased E :=
  h.invariant (fun _ _ _ hy hs _ => hs.phased hprog hy) hx

/-! ## Operations -/

namespace Pool

/-- What is left of every running thread performs only operations with `P`. -/
def Performing (P : Op → Prop) (x : Pool Ans S σ) : Prop :=
  ∀ t ∈ x.threads, ∀ p, t.code = some p → p.Performs P

theorem Performing.set (hx : Performing P ⟨ts, w⟩) (ht : ∀ p, t.code = some p → p.Performs P) :
    Performing P ⟨ts.set i t, w'⟩ := by
  intro t' ht' p hp
  rcases List.mem_or_eq_of_mem_set ht' with hold | rfl
  · exact hx t' hold p hp
  · exact ht p hp

end Pool

theorem Step.performing (hprog : ∀ p, E.programs p → p.Performs P) (hx : x.Performing P)
    (h : Step E x l y) : y.Performing P := by
  cases h with
  | @spawn ts w p hp =>
      intro t ht q hq
      rcases List.mem_append.mp ht with hold | hnew
      · exact hx t hold q hq
      · rw [List.mem_singleton.mp hnew] at hq
        cases hq
        exact hprog _ hp
  | @act ts w w' i o next s a ht hw =>
      refine hx.set fun q hq => ?_
      cases hq
      exact (hx _ (List.mem_of_getElem? ht) _ rfl).2 a
  | leave ht => exact hx.set fun q hq => by cases hq
  | cancel ht ho => exact hx.set fun q hq => by cases hq
  | ambient hw => exact hx

theorem Reaches.performing (hprog : ∀ p, E.programs p → p.Performs P) (hx : x.Performing P)
    (h : Reaches E C x z) : z.Performing P :=
  h.invariant (fun _ _ _ hy hs _ => hs.performing hprog hy) hx

/-! ## Rely and guarantee

`P` is what all operations have, `I` what holds of the world, and `R w i s` what thread `i` may
rely on in phase `s`.  A step of a thread guarantees both to itself and to the others, and so
does a step from outside. -/

structure Setting.Keeps (E : Setting Ans S σ) (P : Op → Prop) (I : σ → Prop)
    (R : σ → Nat → S → Prop) : Prop where
  start : ∀ {w i}, I w → R w i E.start
  act : ∀ {i w o a w' s s'}, P o → I w → R w i s → E.exec i w o a w' →
    E.watch s o a = some s' → I w' ∧ R w' i s'
  others : ∀ {i w o a w' s s' j t}, R w i s → E.exec i w o a w' → E.watch s o a = some s' →
    j ≠ i → R w j t → R w' j t
  leave : ∀ {i w}, I w → I (E.leave i w) ∧ ∀ {j t}, j ≠ i → R w j t → R (E.leave i w) j t
  cancel : ∀ {i w}, I w → I (E.cancel i w) ∧ ∀ {j t}, j ≠ i → R w j t → R (E.cancel i w) j t
  ambient : ∀ {w w'}, E.ambient w w' → I w → I w' ∧ ∀ {j t}, R w j t → R w' j t

namespace Pool

/-- Every running thread has what it relies on. -/
def Held (R : σ → Nat → S → Prop) (x : Pool Ans S σ) : Prop :=
  ∀ (i : Nat) (p : Program Op Ans Unit) (s : S),
    x.threads[i]? = some ⟨some p, s⟩ → R x.world i s

theorem held_nil (R : σ → Nat → S → Prop) (w : σ) : Held R (⟨[], w⟩ : Pool Ans S σ) := by
  intro i p s hi
  cases hi

/-- The threads after one has been added. -/
theorem getElem?_spawn {t t' : Thread Ans S} (h : (ts ++ [t])[i]? = some t') :
    ts[i]? = some t' ∨ t' = t := by
  rw [List.getElem?_append] at h
  split at h
  · exact .inl h
  · exact .inr (List.mem_singleton.mp (List.mem_of_getElem? h))

theorem Held.set {R : σ → Nat → S → Prop} (hx : Held R ⟨ts, w⟩)
    (hothers : ∀ j s, j ≠ i → R w j s → R w' j s) (ht : t.code.isSome → R w' i t.phase) :
    Held R ⟨ts.set i t, w'⟩ := by
  intro j q s hj
  by_cases hij : i = j
  · subst hij
    obtain ⟨hlt, hget⟩ := List.getElem?_eq_some_iff.mp hj
    rw [List.getElem_set_self] at hget
    subst hget
    exact ht rfl
  · rw [List.getElem?_set_ne hij] at hj
    exact hothers j s (Ne.symm hij) (hx j q s hj)

end Pool

section Keeps

variable {I : σ → Prop} {R : σ → Nat → S → Prop}

theorem Step.keeps (hE : E.Keeps P I R) (hphased : x.Phased E) (hP : x.Performing P)
    (hI : I x.world) (hR : x.Held R) (h : Step E x l y) : I y.world ∧ y.Held R := by
  cases h with
  | @spawn ts w p hp =>
      refine ⟨hI, fun i q s hi => ?_⟩
      rcases Pool.getElem?_spawn hi with hold | hnew
      · exact hR i q s hold
      · cases hnew
        exact hE.start hI
  | @act ts w w' i o next s a ht hw =>
      obtain ⟨s', hs', -⟩ := hphased i _ s ht a
      have hi := hR i _ s ht
      have ho := (hP _ (List.mem_of_getElem? ht) _ rfl).1
      obtain ⟨hI', hR'⟩ := hE.act ho hI hi hw hs'
      refine ⟨hI', hR.set (fun j t => hE.others hi hw hs') fun _ => ?_⟩
      rw [hs']
      exact hR'
  | @leave ts w i s ht =>
      obtain ⟨hI', hR'⟩ := hE.leave hI
      exact ⟨hI', hR.set (fun _ _ => hR') fun hsome => by cases hsome⟩
  | @cancel ts w i o next s ht ho =>
      obtain ⟨hI', hR'⟩ := hE.cancel hI
      exact ⟨hI', hR.set (fun _ _ => hR') fun hsome => by cases hsome⟩
  | ambient hw =>
      obtain ⟨hI', hR'⟩ := hE.ambient hw hI
      exact ⟨hI', fun i q s hi => hR' (hR i q s hi)⟩

/-- What the threads keep, they keep along every run, in any order of their steps. -/
theorem Reaches.keeps (h : Reaches E C x y) (hE : E.Keeps P I R) (hprog : E.Obeyed)
    (hperforms : ∀ p, E.programs p → p.Performs P) (hphased : x.Phased E) (hP : x.Performing P)
    (hI : I x.world) (hR : x.Held R) : I y.world ∧ y.Held R := by
  induction h with
  | refl => exact ⟨hI, hR⟩
  | step hreach hs _ ih =>
      exact hs.keeps hE (hreach.phased hprog hphased) (hreach.performing hperforms hP) ih.1 ih.2

/-- A run from a pool without threads, whatever the operations. -/
theorem Reaches.keeps_nil (h : Reaches E C ⟨[], w⟩ y) (hE : E.Keeps (fun _ => True) I R)
    (hprog : E.Obeyed) (hI : I w) :
    I y.world ∧ y.Held R :=
  h.keeps hE hprog (fun p _ => p.performs_true) (Pool.phased_nil E w) (fun _ ht => nomatch ht) hI
    (Pool.held_nil R w)

end Keeps

/-! ## Counting threads by phase -/

namespace Pool

/-- The running threads whose phase satisfies `f`. -/
def count (x : Pool Ans S σ) (f : S → Bool) : Nat :=
  x.threads.countP fun t => t.code.isSome && f t.phase

theorem count_spawn (ts : List (Thread Ans S)) (w : σ) (p : Program Op Ans Unit) (s : S)
    (f : S → Bool) :
    count ⟨ts ++ [⟨some p, s⟩], w⟩ f = count ⟨ts, w⟩ f + if f s then 1 else 0 := by
  simp [count, List.countP_append, List.countP_cons]

/-- Replacing the phase of a running thread moves it between the counts. -/
theorem count_set {p : Program Op Ans Unit} {s : S} (ht : ts[i]? = some ⟨some p, s⟩)
    (t : Thread Ans S) (w w' : σ) (f : S → Bool) :
    count ⟨ts.set i t, w'⟩ f + (if f s then 1 else 0) =
      count ⟨ts, w⟩ f + if t.code.isSome && f t.phase then 1 else 0 := by
  obtain ⟨hlt, hget⟩ := List.getElem?_eq_some_iff.mp ht
  simp only [count]
  rw [List.countP_set hlt, hget]
  simp only [Option.isSome_some, Bool.true_and]
  have hpos : f s = true → 0 < ts.countP fun t => t.code.isSome && f t.phase := by
    intro hf
    refine List.countP_pos_iff.mpr ⟨⟨some p, s⟩, List.mem_of_getElem? ht, ?_⟩
    simpa using hf
  by_cases hf : f s = true
  · have := hpos hf
    simp only [hf, if_true]
    omega
  · simp only [hf, if_false, Bool.false_eq_true]
    omega

end Pool

/-! ## Budgets -/

/-- The threads in the phases of `f` are those that hold something which was issued and has not
been spent.  A step that spends takes a thread out of these phases, and only one that issues
leads into them. -/
structure Setting.Budget (E : Setting Ans S σ) (f : S → Bool) (issued spent : σ → Nat) :
    Prop where
  start : f E.start = false
  act : ∀ {i w o a w' s s'}, E.exec i w o a w' → E.watch s o a = some s' →
    spent w' + issued w + (if f s' then 1 else 0) ≤ spent w + issued w' + if f s then 1 else 0
  leave : ∀ {i w}, spent (E.leave i w) + issued w ≤ spent w + issued (E.leave i w)
  cancel : ∀ {i w}, spent (E.cancel i w) + issued w ≤ spent w + issued (E.cancel i w)
  ambient : ∀ {w w'}, E.ambient w w' → spent w' + issued w ≤ spent w + issued w'

section Budget

variable {f : S → Bool} {issued spent : σ → Nat}

theorem Step.budget (hE : E.Budget f issued spent) (hphased : x.Phased E)
    (hx : spent x.world + x.count f ≤ issued x.world) (h : Step E x l y) :
    spent y.world + y.count f ≤ issued y.world := by
  cases h with
  | @spawn ts w p hp =>
      rw [Pool.count_spawn, hE.start]
      exact hx
  | @act ts w w' i o next s a ht hw =>
      obtain ⟨s', hs', -⟩ := hphased i _ s ht a
      have hbudget := hE.act hw hs'
      have hcount := Pool.count_set ht ⟨some (next a), (E.watch s o a).getD s⟩ w w' f
      rw [hs'] at hcount ⊢
      simp only [Option.getD_some, Option.isSome_some, Bool.true_and] at hcount hx ⊢
      omega
  | @leave ts w i s ht =>
      have hbudget : _ ≤ _ := hE.leave (i := i) (w := w)
      have hcount := Pool.count_set ht ⟨none, s⟩ w (E.leave i w) f
      simp only [Option.isSome_none, Bool.false_and, Bool.false_eq_true, if_false] at hcount hx ⊢
      omega
  | @cancel ts w i o next s ht ho =>
      have hbudget : _ ≤ _ := hE.cancel (i := i) (w := w)
      have hcount := Pool.count_set ht ⟨none, s⟩ w (E.cancel i w) f
      simp only [Option.isSome_none, Bool.false_and, Bool.false_eq_true, if_false] at hcount hx ⊢
      omega
  | @ambient ts w w' hw =>
      have hbudget := hE.ambient hw
      have hcount : Pool.count ⟨ts, w'⟩ f = Pool.count ⟨ts, w⟩ f := rfl
      simp only [hcount] at hx ⊢
      omega

/-- Along every run no more is spent than was issued. -/
theorem Reaches.budget (h : Reaches E C x y) (hE : E.Budget f issued spent) (hprog : E.Obeyed)
    (hphased : x.Phased E) (hx : spent x.world + x.count f ≤ issued x.world) :
    spent y.world + y.count f ≤ issued y.world := by
  have hall : y.Phased E ∧ spent y.world + y.count f ≤ issued y.world := by
    refine h.invariant (I := fun z => z.Phased E ∧ spent z.world + z.count f ≤ issued z.world) ?_
      ⟨hphased, hx⟩
    intro u l v hu hs _
    exact ⟨hs.phased hprog hu.1, hs.budget hE hu.1 hu.2⟩
  exact hall.2

end Budget
end Effect
