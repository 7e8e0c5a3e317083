/-
Programs over an interface of operations.

A `Program Op Ans α` is a finite tree.  A node performs an operation `o : Op` and
continues with the answer `a : Ans o`, and a leaf returns a value.  The tree says
which operations a piece of code performs and how it goes on after each answer,
and leaves open what answers them.

Two readings of the same tree are used.  `run` answers every operation with a
stateful handler and records the events, which is the reading for one caller on
its own.  `Follows` asks that every possible answer keeps the program inside an
automaton over phases, which is the reading that survives interleaving with other
callers, since nothing is assumed about who changed the state in between.

`interp` relates two interfaces.  Both readings pass through it, so a program that
is the interpretation of a smaller one inherits what is proved of that.
-/
import Mathlib.Logic.Basic

namespace Effect

inductive Program (Op : Type) (Ans : Op → Type) (α : Type) where
  | ret (value : α)
  | op (o : Op) (next : Ans o → Program Op Ans α)

/-- An operation together with the answer it received. -/
structure Event {Op : Type} (Ans : Op → Type) where
  op : Op
  answer : Ans op

/-- What a complete run leaves behind: the events in order, the value returned
and the state of the handler. -/
structure Run {Op : Type} (Ans : Op → Type) (α σ : Type) where
  trace : List (Event Ans)
  value : α
  state : σ

namespace Program

variable {Op : Type} {Ans : Op → Type} {α β σ S : Type} {o : Op} {p : Program Op Ans α}
  {f : α → Program Op Ans β}

def bind : Program Op Ans α → (α → Program Op Ans β) → Program Op Ans β
  | .ret a, f => f a
  | .op o next, f => .op o fun a => (next a).bind f

instance : Monad (Program Op Ans) where
  pure := .ret
  bind := bind

/-- The program that performs one operation and returns its answer. -/
def perform (o : Op) : Program Op Ans (Ans o) := .op o .ret

@[simp] theorem pure_eq_ret (a : α) : (pure a : Program Op Ans α) = .ret a := rfl

@[simp] theorem bind_eq_bind (p : Program Op Ans α) (f : α → Program Op Ans β) :
    p >>= f = p.bind f := rfl

@[simp] theorem ret_bind (a : α) (f : α → Program Op Ans β) : (ret a).bind f = f a := rfl

@[simp] theorem op_bind (o : Op) (next : Ans o → Program Op Ans α) (f : α → Program Op Ans β) :
    (op o next).bind f = .op o fun a => (next a).bind f := rfl

@[simp] theorem perform_bind (o : Op) (f : Ans o → Program Op Ans β) :
    (perform o).bind f = .op o f := rfl

theorem op_congr {f g : Ans o → Program Op Ans α} (h : ∀ a, f a = g a) :
    op o f = op o g :=
  congrArg (op o) (funext h)

theorem bind_congr {f g : α → Program Op Ans β} (h : ∀ a, f a = g a) :
    p.bind f = p.bind g :=
  congrArg p.bind (funext h)

theorem bind_assoc {γ : Type} (p : Program Op Ans α) (f : α → Program Op Ans β)
    (g : β → Program Op Ans γ) : (p.bind f).bind g = p.bind fun a => (f a).bind g := by
  induction p with
  | ret a => rfl
  | op o next ih =>
      simp only [op_bind]
      congr 1
      funext a
      exact ih a

/-! ## Runs under a handler -/

def run (h : (o : Op) → σ → Ans o × σ) : Program Op Ans α → σ → Run Ans α σ
  | .ret a, s => { trace := [], value := a, state := s }
  | .op o next, s =>
      let rest := (next (h o s).1).run h (h o s).2
      { rest with trace := ⟨o, (h o s).1⟩ :: rest.trace }

@[simp] theorem run_ret (h : (o : Op) → σ → Ans o × σ) (a : α) (s : σ) :
    (ret a : Program Op Ans α).run h s = { trace := [], value := a, state := s } := rfl

@[simp] theorem run_op (h : (o : Op) → σ → Ans o × σ) (o : Op)
    (next : Ans o → Program Op Ans α) (s : σ) :
    (op o next).run h s =
      { trace := ⟨o, (h o s).1⟩ :: ((next (h o s).1).run h (h o s).2).trace
        value := ((next (h o s).1).run h (h o s).2).value
        state := ((next (h o s).1).run h (h o s).2).state } := rfl

/-- A sequence runs its first part, then the second from the state and the value
the first one left. -/
theorem run_bind (h : (o : Op) → σ → Ans o × σ) (p : Program Op Ans α)
    (f : α → Program Op Ans β) (s : σ) :
    (p.bind f).run h s =
      { trace := (p.run h s).trace ++
          ((f (p.run h s).value).run h (p.run h s).state).trace
        value := ((f (p.run h s).value).run h (p.run h s).state).value
        state := ((f (p.run h s).value).run h (p.run h s).state).state } := by
  induction p generalizing s with
  | ret a => rfl
  | op o next ih =>
      rw [op_bind, run_op, ih (h o s).1 (h o s).2]
      rfl

/-- The run in which every operation receives the answer `a` assigns to it. -/
def runWith (a : (o : Op) → Ans o) (p : Program Op Ans α) : Run Ans α Unit :=
  p.run (fun o s => (a o, s)) ()

@[simp] theorem runWith_ret (a : (o : Op) → Ans o) (x : α) :
    (ret x : Program Op Ans α).runWith a = { trace := [], value := x, state := () } := rfl

@[simp] theorem runWith_op (a : (o : Op) → Ans o) (o : Op) (next : Ans o → Program Op Ans α) :
    (op o next).runWith a =
      { trace := ⟨o, a o⟩ :: ((next (a o)).runWith a).trace
        value := ((next (a o)).runWith a).value
        state := () } := rfl

theorem runWith_bind (a : (o : Op) → Ans o) (p : Program Op Ans α) (f : α → Program Op Ans β) :
    (p.bind f).runWith a =
      { trace := (p.runWith a).trace ++ ((f (p.runWith a).value).runWith a).trace
        value := ((f (p.runWith a).value).runWith a).value
        state := () } :=
  run_bind _ p f ()

/-! ## Operations of a program -/

/-- Every operation `p` may perform, on any answers, satisfies `P`. -/
def Performs (P : Op → Prop) : Program Op Ans α → Prop
  | .ret _ => True
  | .op o next => P o ∧ ∀ a, (next a).Performs P

section Performs

variable {P : Op → Prop}

@[simp] theorem performs_ret (a : α) : (ret a : Program Op Ans α).Performs P := trivial

@[simp] theorem performs_op {next : Ans o → Program Op Ans α} :
    (op o next).Performs P ↔ P o ∧ ∀ a, (next a).Performs P := Iff.rfl

@[simp] theorem performs_perform : (perform o : Program Op Ans _).Performs P ↔ P o := by
  simp [perform]

theorem Performs.bind (hp : p.Performs P) (hf : ∀ a, (f a).Performs P) : (p.bind f).Performs P := by
  induction p with
  | ret a => exact hf a
  | op o next ih => exact ⟨hp.1, fun a => ih a (hp.2 a)⟩

theorem Performs.mono {Q : Op → Prop} (hp : p.Performs P) (h : ∀ o, P o → Q o) : p.Performs Q := by
  induction p with
  | ret a => trivial
  | op o next ih => exact ⟨h o hp.1, fun a => ih a (hp.2 a)⟩

theorem performs_true (p : Program Op Ans α) : p.Performs fun _ => True := by
  induction p with
  | ret a => trivial
  | op o next ih => exact ⟨trivial, ih⟩

theorem Performs.mem_trace (hp : p.Performs P) (h : (o : Op) → σ → Ans o × σ) (s : σ) :
    ∀ e ∈ (p.run h s).trace, P e.op := by
  induction p generalizing s with
  | ret a => simp
  | op o next ih =>
      rw [run_op]
      simp only [List.mem_cons, forall_eq_or_imp]
      exact ⟨hp.1, ih _ (hp.2 _) _⟩

theorem Performs.flatMap_eq_nil {γ : Type} (hp : p.Performs P) (h : (o : Op) → σ → Ans o × σ)
    (s : σ) {f : Event Ans → List γ} (hf : ∀ e : Event Ans, P e.op → f e = []) :
    (p.run h s).trace.flatMap f = [] :=
  List.flatMap_eq_nil_iff.mpr fun e he => hf e (hp.mem_trace h s e he)

end Performs

/-- Every operation `p` may perform satisfies `P`, and whatever it may return satisfies `Q`. -/
def Ensures (P : Op → Prop) (Q : α → Prop) : Program Op Ans α → Prop
  | .ret a => Q a
  | .op o next => P o ∧ ∀ a, (next a).Ensures P Q

section Ensures

variable {P : Op → Prop} {Q : α → Prop}

theorem Performs.ensures (hp : p.Performs P) :
    p.Ensures P fun _ => True := by
  induction p with
  | ret a => trivial
  | op o next ih => exact ⟨hp.1, fun a => ih a (hp.2 a)⟩

theorem Ensures.performs (hp : p.Ensures P Q) : p.Performs P := by
  induction p with
  | ret a => trivial
  | op o next ih => exact ⟨hp.1, fun a => ih a (hp.2 a)⟩

/-- The second part is only asked for the values the first part may return. -/
theorem Ensures.bind {R : β → Prop} (hp : p.Ensures P Q) (hf : ∀ a, Q a → (f a).Ensures P R) :
    (p.bind f).Ensures P R := by
  induction p with
  | ret a => exact hf a hp
  | op o next ih => exact ⟨hp.1, fun a => ih a (hp.2 a)⟩

theorem Performs.bind_ensures {R : β → Prop} (hp : p.Performs P) (hf : ∀ a, (f a).Ensures P R) :
    (p.bind f).Ensures P R :=
  hp.ensures.bind fun a _ => hf a

end Ensures

/-! ## Phases

A watcher moves from phase to phase with each event and has no move for an event
that must not happen in its phase. -/

/-- `p`, started in phase `s`, performs only operations the watcher allows, on
every choice of answers, and returns with `post`. -/
def Follows (watch : S → (o : Op) → Ans o → Option S) (post : α → S → Prop) :
    S → Program Op Ans α → Prop
  | s, .ret a => post a s
  | s, .op o next => ∀ a, ∃ s', watch s o a = some s' ∧ Follows watch post s' (next a)

section Follows

variable {watch : S → (o : Op) → Ans o → Option S}

@[simp] theorem follows_ret {post : α → S → Prop} {s : S} {a : α} :
    Follows watch post s (ret a : Program Op Ans α) ↔ post a s := Iff.rfl

@[simp] theorem follows_op {post : α → S → Prop} {s : S} {next : Ans o → Program Op Ans α} :
    Follows watch post s (op o next) ↔
      ∀ a, ∃ s', watch s o a = some s' ∧ Follows watch post s' (next a) := Iff.rfl

/-- The rule for sequencing: the second part starts in whatever phase and with
whatever value the first part may leave. -/
theorem Follows.bind {mid : α → S → Prop} {post : β → S → Prop} {s : S} (hp : Follows watch mid s p)
    (hf : ∀ a s', mid a s' → Follows watch post s' (f a)) :
    Follows watch post s (p.bind f) := by
  induction p generalizing s with
  | ret a => exact hf a s hp
  | op o next ih =>
      intro a
      obtain ⟨s', hs, hnext⟩ := hp a
      exact ⟨s', hs, ih a hnext⟩

/-- A program follows the watcher if its operations keep the phase within `I`. -/
theorem Ensures.follows {P : Op → Prop} {Q : α → Prop} {I : S → Prop}
    (hwatch : ∀ s o, I s → P o → ∀ a, ∃ s', watch s o a = some s' ∧ I s') (hp : p.Ensures P Q)
    {s : S} (hs : I s) :
    Follows watch (fun a s' => Q a ∧ I s') s p := by
  induction p generalizing s with
  | ret a => exact ⟨hp, hs⟩
  | op o next ih =>
      intro a
      obtain ⟨s', hmove, hs'⟩ := hwatch s o hs hp.1 a
      exact ⟨s', hmove, ih a (hp.2 a) hs'⟩

theorem Follows.mono {post post' : α → S → Prop} {s : S} (hp : Follows watch post s p)
    (h : ∀ a s', post a s' → post' a s') :
    Follows watch post' s p := by
  induction p generalizing s with
  | ret a => exact h a s hp
  | op o next ih =>
      intro a
      obtain ⟨s', hs, hnext⟩ := hp a
      exact ⟨s', hs, ih a hnext⟩

theorem Performs.follows {P : Op → Prop} {I : S → Prop}
    (hwatch : ∀ s o, I s → P o → ∀ a, ∃ s', watch s o a = some s' ∧ I s') (hp : p.Performs P)
    {s : S} (hs : I s) :
    Follows watch (fun _ => I) s p :=
  (hp.ensures.follows hwatch hs).mono fun _ _ h => h.2

end Follows

/-! ## Interpretation

A program over one interface becomes a program over another when each operation is
given as a program there.  Runs and phases carry over, so a property is proved of
the smaller program and holds of the larger one. -/

section Interp

variable {Op' : Type} {Ans' : Op' → Type} {impl : (o : Op) → Program Op' Ans' (Ans o)}

def interp (impl : (o : Op) → Program Op' Ans' (Ans o)) :
    Program Op Ans α → Program Op' Ans' α
  | .ret a => .ret a
  | .op o next => (impl o).bind fun a => (next a).interp impl

@[simp] theorem interp_ret (a : α) :
    (ret a : Program Op Ans α).interp impl = .ret a := rfl

@[simp] theorem interp_op (o : Op) (next : Ans o → Program Op Ans α) :
    (op o next).interp impl = (impl o).bind fun a => (next a).interp impl := rfl

theorem interp_bind (p : Program Op Ans α) (f : α → Program Op Ans β) :
    (p.bind f).interp impl = (p.interp impl).bind fun a => (f a).interp impl := by
  induction p with
  | ret a => rfl
  | op o next ih =>
      rw [op_bind, interp_op, interp_op, bind_assoc]
      congr 1
      funext a
      exact ih a

theorem Performs.interp {P : Op' → Prop} (h : ∀ o, (impl o).Performs P)
    (p : Program Op Ans α) : (p.interp impl).Performs P := by
  induction p with
  | ret a => trivial
  | op o next ih => exact (h o).bind ih

/-- The handler that answers an operation by running its implementation. -/
def answerBy (h : (o : Op') → σ → Ans' o × σ) (impl : (o : Op) → Program Op' Ans' (Ans o))
    (o : Op) (s : σ) : Ans o × σ :=
  (((impl o).run h s).value, ((impl o).run h s).state)

variable {h : (o : Op') → σ → Ans' o × σ}

theorem run_interp (p : Program Op Ans α) (s : σ) :
    ((p.interp impl).run h s).value = (p.run (answerBy h impl) s).value ∧
      ((p.interp impl).run h s).state = (p.run (answerBy h impl) s).state := by
  induction p generalizing s with
  | ret a => exact ⟨rfl, rfl⟩
  | op o next ih =>
      rw [interp_op, run_bind, run_op]
      exact ih _ _

/-- What `f` reads off the events of every implementation, `g` reads off the operation
it implements.  Then `f` reads the same off a whole run as `g`. -/
theorem flatMap_interp {γ : Type} {f : Event Ans' → List γ} {g : Event Ans → List γ}
    (hfg : ∀ o s, ((impl o).run h s).trace.flatMap f = g ⟨o, ((impl o).run h s).value⟩)
    (p : Program Op Ans α) (s : σ) :
    ((p.interp impl).run h s).trace.flatMap f =
      (p.run (answerBy h impl) s).trace.flatMap g := by
  induction p generalizing s with
  | ret a => rfl
  | op o next ih =>
      rw [interp_op, run_bind, run_op]
      simp only [List.flatMap_append, List.flatMap_cons]
      rw [hfg, ih]
      rfl

/-- Under an assignment of answers, an interpreted program is the program itself under
the answers its implementations give. -/
theorem runWith_interp (a : (o : Op') → Ans' o) (p : Program Op Ans α) :
    ((p.interp impl).runWith a).value =
      (p.runWith fun o => ((impl o).runWith a).value).value :=
  (run_interp p ()).1

theorem flatMap_runWith_interp {γ : Type} {f : Event Ans' → List γ} {g : Event Ans → List γ}
    (a : (o : Op') → Ans' o)
    (hfg : ∀ o, ((impl o).runWith a).trace.flatMap f = g ⟨o, ((impl o).runWith a).value⟩)
    (p : Program Op Ans α) :
    ((p.interp impl).runWith a).trace.flatMap f =
      (p.runWith fun o => ((impl o).runWith a).value).trace.flatMap g :=
  flatMap_interp (fun o _ => hfg o) p ()

theorem Follows.interp {watch : S → (o : Op) → Ans o → Option S}
    {watch' : S → (o : Op') → Ans' o → Option S}
    (himpl : ∀ s o, (∀ a, ∃ s', watch s o a = some s') → Follows watch' (fun a s' => watch s o a =
      some s') s (impl o)) {post : α → S → Prop} {s : S} (hp : Follows watch post s p) :
    Follows watch' post s (p.interp impl) := by
  induction p generalizing s with
  | ret a => exact hp
  | op o next ih =>
      refine Follows.bind (himpl s o fun a => ?_) fun a s' hs' => ?_
      · obtain ⟨s', hs', -⟩ := hp a
        exact ⟨s', hs'⟩
      · obtain ⟨t, ht, hnext⟩ := hp a
        obtain rfl : t = s' := Option.some.inj (ht.symm.trans hs')
        exact ih a hnext

end Interp

end Program
end Effect
