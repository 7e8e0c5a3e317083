/-
What has been accounted for when a client has seen `[DONE]`.

An event stream is suspended at each event it hands out, and wherever it waits for its provider
or for a store.  The consumer may drop it there.  The guards then run: the one for the metrics
of the stream records a cancelled stream unless it was finished before.

The Responses route accounts for the request before it hands out `[DONE]`, so a consumer
that has seen `[DONE]` is always accounted for.  The chat route hands it out first.
There a consumer that drops the body right behind `[DONE]`, which is the usual thing to
do, leaves a cancelled stream behind and is never charged.  One that drops it while the
request is logged is counted but not charged.
-/
import RustyGate.Routes.Streams
import RustyGate.Routing.FallbackRuns

namespace RustyGate

open Effect Effect.Program Gateway

def outcomeOf : MetricsUpdate → List String
  | .recordStreamOutcome outcome _ => [outcome]
  | _ => []

/-- The outcomes of streams that were recorded. -/
def outcomes (trace : List (Event Ans)) : List String :=
  (trace.flatMap metricsOf).flatMap outcomeOf

def isDone : Event Ans → Bool
  | ⟨.yield .done, _⟩ => true
  | _ => false

/-- A body waits here for its consumer, for its provider or for a store. -/
def Op.suspends : Op → Bool
  | .yield _ | .pollStream _ | .recordRequest _ | .recordUsage _ _ _ => true
  | _ => false

def Op.handsOut : Op → Bool
  | .yield _ => true
  | _ => false

def Op.charges : Op → Bool
  | .recordUsage _ _ _ => true
  | _ => false

namespace StreamJob

/-- Dropping the body: the guard for the metrics of the stream, then the others. -/
def dropBody (job : StreamJob) (finished : Bool) : Gateway Unit := do
  (if finished then .ret () else finishMetrics .cancelled)
  job.dropGuards

/-- The events of a body dropped at `e`: those seen before, `e` itself if it was performed, and
what the guards do. -/
def droppedRun {σ : Type} (job : StreamJob) (h : (o : Op) → σ → Ans o × σ)
    (seen : List (Event Ans)) (e : Event Ans) (performed : Bool) (s : σ) : List (Event Ans) :=
  seen ++ (if performed then [e] else []) ++
    ((job.dropBody (!(outcomes seen).isEmpty)).run h s).trace

/-- The run of a body by its consumer, given the events of a run to the end: all of them, or
those up to one at which the body is dropped.  What it waits for then may have been performed
or not, and what it hands out has been seen. -/
inductive Consumed {σ : Type} (job : StreamJob) (h : (o : Op) → σ → Ans o × σ)
    (trace : List (Event Ans)) : (droppedAt : Option (Op × Bool)) → List (Event Ans) → Prop
  | toEnd : Consumed job h trace none trace
  | dropped {seen rest : List (Event Ans)} {e : Event Ans} (htrace : trace = seen ++ e :: rest)
      (he : e.op.suspends = true) (performed : Bool)
      (hseen : e.op.handsOut = true → performed = true) (s : σ) :
      Consumed job h trace (some (e.op, performed)) (job.droppedRun h seen e performed s)

/-- The request has been recorded as a success and charged, and the stream has been
recorded as completed and as nothing else. -/
def Accounted (job : StreamJob) (trace : List (Event Ans)) : Prop :=
  (∃ usage latencyMs,
    let cost := job.success.pricing.estimateCost usage.promptTokens usage.completionTokens
    .recordChatSuccess job.success.providerName usage cost latencyMs job.success.attempts ∈
        trace.flatMap metricsOf ∧
      (job.key.id, usage.totalTokens.toUInt64, cost.totalCostUsd) ∈ trace.flatMap usageOf) ∧
  outcomes trace = [StreamOutcome.completed.asStr]

/-- A `[DONE]` that was handed out is accounted for. -/
def DoneAccounted (job : StreamJob) (trace : List (Event Ans)) : Prop :=
  trace.any isDone = true → job.Accounted trace

end StreamJob

/-! ## Stretches of a run -/

@[simp] theorem outcomes_nil : outcomes [] = [] := rfl

@[simp] theorem outcomes_cons (e : Event Ans) (t : List (Event Ans)) :
    outcomes (e :: t) = (metricsOf e).flatMap outcomeOf ++ outcomes t := by
  simp [outcomes]

@[simp] theorem outcomes_append (t t' : List (Event Ans)) :
    outcomes (t ++ t') = outcomes t ++ outcomes t' := by
  simp [outcomes]

variable {e : Event Ans} {t : List (Event Ans)}

theorem isDone_inLoop (h : e.op.inLoop = true) : isDone e = false := by
  obtain ⟨o, a⟩ := e
  cases o with
  | yield event => cases event <;> first | rfl | cases h
  | _ => rfl

theorem usageOf_inLoop (h : e.op.inLoop = true) : usageOf e = [] := by
  obtain ⟨o, a⟩ := e
  cases o <;> first | rfl | cases h

theorem InLoop.outcomes_eq_nil (ht : InLoop t) : outcomes t = [] := by
  rw [outcomes, ht.flatMap_eq_nil metricsOf_inLoop]
  rfl

theorem InLoop.no_done (ht : InLoop t) : t.any isDone = false := by
  rw [List.any_eq_false]
  intro e he
  rw [isDone_inLoop (ht e he)]
  exact Bool.false_ne_true

theorem isPlain_quiet (h : e.op.isPlain = true) :
    isDone e = false ∧ usageOf e = [] ∧ e.op.charges = false := by
  obtain ⟨o, a⟩ := e
  cases o <;> first | exact ⟨rfl, rfl, rfl⟩ | cases h

theorem Plain.outcomes_eq_nil (ht : Plain t) : outcomes t = [] := by
  rw [outcomes, ht.flatMap_eq_nil metricsOf_isPlain]
  rfl

theorem Plain.no_done (ht : Plain t) : t.any isDone = false := by
  rw [List.any_eq_false]
  intro e he
  rw [(isPlain_quiet (ht e he)).1]
  exact Bool.false_ne_true

/-- A cut through two stretches goes through the first or through the second. -/
theorem cut_append {t t' seen rest : List (Event Ans)} (h : t ++ t' = seen ++ e :: rest) :
    (∃ rest', t = seen ++ e :: rest') ∨ ∃ mid, seen = t ++ mid ∧ t' = mid ++ e :: rest := by
  rcases List.append_eq_append_iff.mp h with ⟨mid, hseen, hrest⟩ | ⟨mid, ht, hrest⟩
  · exact .inr ⟨mid, hseen, hrest⟩
  · cases mid with
    | nil =>
        rw [List.append_nil] at ht
        exact .inr ⟨[], by rw [ht, List.append_nil], hrest.symm⟩
    | cons e' mid =>
        obtain ⟨rfl, -⟩ := List.cons.inj hrest
        exact .inl ⟨mid, ht⟩

/-- Nothing suspends a stretch without such operations. -/
theorem no_cut {t seen rest : List (Event Ans)} (ht : t.any (fun e => e.op.suspends) = false)
    (he : e.op.suspends = true) (h : t = seen ++ e :: rest) : False := by
  subst h
  exact List.any_eq_false.mp ht e (List.mem_append_right seen List.mem_cons_self) he

namespace StreamJob

variable (job : StreamJob) {latencyMs durationMs : UInt64} {logged : List (Event Ans)}
  {usage : TokenUsage} {droppedAt : Option (Op × Bool)}

theorem completion_no_done (hlogged : Plain logged) :
    (job.completion usage latencyMs durationMs logged).any isDone = false := by
  show (logged ++ _).any isDone = false
  rw [List.any_append, hlogged.no_done]
  rfl

theorem outcomes_completion (hlogged : Plain logged) :
    outcomes (job.completion usage latencyMs durationMs logged) =
      [StreamOutcome.completed.asStr] := by
  show [StreamOutcome.completed.asStr] ++ outcomes (logged ++ _) = _
  rw [outcomes_append, hlogged.outcomes_eq_nil]
  rfl

/-- A completion is accounted for if no other outcome is recorded around it. -/
theorem accounted_completion {before after : List (Event Ans)} (hbefore : outcomes before = [])
    (hafter : outcomes after = []) (hlogged : Plain logged) :
    job.Accounted (before ++ job.completion usage latencyMs durationMs logged ++ after) := by
  refine ⟨⟨usage, latencyMs, ?_, ?_⟩, ?_⟩
  · simp [completion, metricsOf]
  · simp [completion, usageOf]
  · rw [outcomes_append, outcomes_append, hbefore, hafter, job.outcomes_completion hlogged]
    rfl

/-- A completion waits for the log and then to charge.  When it does so the stream has been
recorded, and nothing has been charged. -/
theorem completion_cut {logged mid rest : List (Event Ans)} (hlogged : Plain logged)
    (he : e.op.suspends = true)
    (hcut : job.completion usage latencyMs durationMs logged ++ job.guardDrops = mid ++ e :: rest) :
    outcomes mid = [StreamOutcome.completed.asStr] ∧ mid.flatMap usageOf = [] ∧
      (e.op.charges = true → mid ++ [e] = job.completion usage latencyMs durationMs logged) ∧
      (e.op.charges = false → usageOf e = []) := by
  -- The four events in front do not suspend.
  have hfront : ∃ mid', mid = (job.completion usage latencyMs durationMs []).take 4 ++ mid' ∧
      logged ++ ((job.completion usage latencyMs durationMs []).drop 4 ++ job.guardDrops) =
        mid' ++ e :: rest := by
    have hsplit : job.completion usage latencyMs durationMs logged ++ job.guardDrops =
        (job.completion usage latencyMs durationMs []).take 4 ++
          (logged ++ ((job.completion usage latencyMs durationMs []).drop 4 ++
            job.guardDrops)) := by
      simp [completion]
    rcases cut_append (hsplit.symm.trans hcut) with ⟨rest', h⟩ | hmid
    · exact (no_cut rfl he h).elim
    · exact hmid
  obtain ⟨mid', rfl, hcut'⟩ := hfront
  rcases cut_append hcut' with ⟨rest', rfl⟩ | ⟨mid'', rfl, hrest⟩
  · have hplain : Plain mid' := fun e he => hlogged e (List.mem_append_left _ he)
    obtain ⟨-, husage, hcharges⟩ := isPlain_quiet
      (hlogged e (List.mem_append_right _ List.mem_cons_self))
    refine ⟨?_, ?_, fun h => absurd (hcharges.symm.trans h) Bool.false_ne_true,
      fun _ => husage⟩
    · rw [outcomes_append, hplain.outcomes_eq_nil]
      rfl
    · rw [List.flatMap_append, hplain.flatMap_eq_nil fun h => (isPlain_quiet h).2.1]
      rfl
  · cases mid'' with
    | nil =>
        obtain ⟨rfl, -⟩ := List.cons.inj hrest
        refine ⟨?_, ?_, fun _ => ?_, fun h => absurd h.symm Bool.false_ne_true⟩
        · rw [outcomes_append, List.append_nil, hlogged.outcomes_eq_nil]
          rfl
        · rw [List.flatMap_append, List.append_nil,
            hlogged.flatMap_eq_nil fun h => (isPlain_quiet h).2.1]
          rfl
        · simp [completion]
    | cons e' mid'' => exact (no_cut rfl he (List.cons.inj hrest).2).elim

variable {σ : Type} (h : (o : Op) → σ → Ans o × σ)

theorem dropBody_no_done (finished : Bool) (s : σ) :
    ((job.dropBody finished).run h s).trace.any isDone = false := by
  cases finished <;> rfl

theorem droppedRun_no_done {seen rest : List (Event Ans)}
    (hcut : (seen ++ e :: rest).any isDone = false) (performed : Bool) (s : σ) :
    (job.droppedRun h seen e performed s).any isDone = false := by
  rw [List.any_append, List.any_cons, Bool.or_eq_false_iff, Bool.or_eq_false_iff] at hcut
  rw [droppedRun, List.any_append, List.any_append, hcut.1, job.dropBody_no_done]
  cases performed with
  | true => simpa using hcut.2.1
  | false => rfl

theorem Consumed.no_done {job : StreamJob} {h : (o : Op) → σ → Ans o × σ}
    {trace t : List (Event Ans)} (htrace : trace.any isDone = false)
    (ht : job.Consumed h trace droppedAt t) :
    t.any isDone = false := by
  cases ht with
  | toEnd => exact htrace
  | dropped hcut _ performed _ s =>
      subst hcut
      exact job.droppedRun_no_done h htrace performed s

theorem failed_no_done {body logged : List (Event Ans)} (hbody : InLoop body)
    (hlogged : Plain logged) (finish : StreamEnd) (latencyMs durationMs : UInt64) :
    (body ++ failure finish latencyMs durationMs logged ++ job.guardDrops).any isDone = false := by
  have hfailure : (failure finish latencyMs durationMs logged).any isDone = false :=
    hlogged.no_done
  rw [List.any_append, List.any_append, hbody.no_done, hfailure]
  rfl

section Completed

variable {usage : TokenUsage} {latencyMs durationMs : UInt64}
  {body logged seen rest : List (Event Ans)} (hbody : InLoop body) (hlogged : Plain logged)
  {e : Event Ans} (he : e.op.suspends = true)

include hlogged he

/-- What has been performed of a completion is accounted for exactly if it has charged. -/
theorem accounted_cut_iff {front mid : List (Event Ans)} (houtcomes : outcomes front = [])
    (husage : front.flatMap usageOf = [])
    (hcut : job.completion usage latencyMs durationMs logged ++ job.guardDrops = mid ++ e :: rest)
    (performed : Bool) (s : σ) :
    job.Accounted (job.droppedRun h (front ++ mid) e performed s) ↔
      e.op.charges = true ∧ performed = true := by
  obtain ⟨hout, hmid, hcharges, hnot⟩ := job.completion_cut hlogged he hcut
  have hfinished : (!(outcomes (front ++ mid)).isEmpty) = true := by
    rw [outcomes_append, houtcomes, hout]
    rfl
  rw [droppedRun, hfinished]
  constructor
  · rintro ⟨⟨usage', -, -, hmem⟩, -⟩
    by_contra hne
    have hkept : (if performed then [e] else []).flatMap usageOf = [] := by
      cases performed with
      | false => rfl
      | true =>
          rw [if_pos rfl, List.flatMap_singleton]
          exact hnot (by simpa using hne)
    rw [List.flatMap_append, List.flatMap_append, List.flatMap_append, husage, hmid, hkept] at hmem
    cases hmem
  · rintro ⟨hcharge, rfl⟩
    rw [if_pos rfl, List.append_assoc front, hcharges hcharge]
    exact job.accounted_completion houtcomes rfl hlogged

include hbody

theorem chat_droppedRun_iff (performed : Bool) (hseen : e.op.handsOut = true → performed = true)
    (hcut : body ++ ⟨.yield .done, ()⟩ :: job.completion usage latencyMs durationMs logged ++
      job.guardDrops = seen ++ e :: rest) (s : σ) :
    job.DoneAccounted (job.droppedRun h seen e performed s) ↔
      ((job.droppedRun h seen e performed s).any isDone = true →
        e.op.charges = true ∧ performed = true) := by
  refine imp_congr_right fun hdone => ?_
  rw [List.append_assoc] at hcut
  rcases cut_append hcut with ⟨rest', rfl⟩ | ⟨mid, rfl, hmid⟩
  · exact absurd ((job.droppedRun_no_done h hbody.no_done performed s).symm.trans hdone) nofun
  have hfront : outcomes (body ++ [⟨.yield .done, ()⟩]) = [] := by
    rw [outcomes_append, hbody.outcomes_eq_nil]
    rfl
  cases mid with
  | nil =>
      -- Behind `[DONE]` only the guards run, and the stream counts as cancelled.
      obtain ⟨rfl, -⟩ := List.cons.inj hmid
      refine iff_of_false (fun haccounted => ?_) fun hcharges => nomatch hcharges.1
      obtain rfl := hseen rfl
      have hout := haccounted.2
      rw [droppedRun, List.append_nil, if_pos rfl, outcomes_append, hfront,
        hbody.outcomes_eq_nil] at hout
      have hcancelled : [StreamOutcome.cancelled.asStr] = [StreamOutcome.completed.asStr] := hout
      exact absurd hcancelled (by decide)
  | cons e' mid =>
      obtain ⟨rfl, hmid'⟩ := List.cons.inj hmid
      have husage : (body ++ [(⟨.yield .done, ()⟩ : Event Ans)]).flatMap usageOf = [] := by
        rw [List.flatMap_append, hbody.flatMap_eq_nil usageOf_inLoop]
        rfl
      rw [List.append_cons]
      exact job.accounted_cut_iff h hlogged he hfront husage hmid' performed s

theorem response_droppedRun (performed : Bool) (hseen : e.op.handsOut = true → performed = true)
    {response : ResponseObject}
    (hcut : body ++ job.completion usage latencyMs durationMs logged ++
      [⟨.yield (.responseCompleted response), ()⟩, ⟨.yield .done, ()⟩] ++ job.guardDrops =
        seen ++ e :: rest) (s : σ) :
    job.DoneAccounted (job.droppedRun h seen e performed s) := by
  intro hdone
  rw [List.append_cons, List.append_assoc] at hcut
  rcases cut_append hcut with ⟨rest', hfront⟩ | ⟨mid, rfl, hmid⟩
  · have hnone : (seen ++ e :: rest').any isDone = false := by
      rw [← hfront, List.any_append, List.any_append, hbody.no_done,
        job.completion_no_done hlogged]
      rfl
    exact absurd ((job.droppedRun_no_done h hnone performed s).symm.trans hdone) nofun
  cases mid with
  | nil =>
      -- At `[DONE]` everything has been recorded and the guard is finished.
      obtain ⟨rfl, -⟩ := List.cons.inj hmid
      obtain rfl := hseen rfl
      have hfinished : outcomes (body ++ job.completion usage latencyMs durationMs logged ++
          [⟨.yield (.responseCompleted response), ()⟩]) = [StreamOutcome.completed.asStr] := by
        rw [outcomes_append, outcomes_append, hbody.outcomes_eq_nil,
          job.outcomes_completion hlogged]
        rfl
      rw [droppedRun, List.append_nil, hfinished, List.append_assoc, List.append_assoc]
      exact job.accounted_completion hbody.outcomes_eq_nil rfl hlogged
  | cons e' mid => exact (no_cut rfl he (List.cons.inj hmid).2).elim

end Completed

theorem chat_doneAccounted_iff {s : σ}
    (ht : job.Consumed h (job.chatEventStream.run h s).trace droppedAt t) :
    job.DoneAccounted t ↔ ∀ o performed, droppedAt = some (o, performed) →
      t.any isDone = true → o.charges = true ∧ performed = true := by
  obtain ⟨body, logged, latencyMs, durationMs, hbody, hlogged, hend⟩ :=
    job.chatEventStream_trace h s
  rcases hend with ⟨finish, -, htrace⟩ | ⟨usage, htrace⟩
  · have hnone : t.any isDone = false :=
      Consumed.no_done (htrace ▸ job.failed_no_done hbody hlogged finish latencyMs durationMs) ht
    exact iff_of_true (fun hdone => absurd (hnone.symm.trans hdone) nofun)
      fun _ _ _ hdone => absurd (hnone.symm.trans hdone) nofun
  · rw [htrace] at ht
    cases ht with
    | toEnd =>
        refine iff_of_true (fun _ => ?_) fun _ _ hdropped => absurd hdropped nofun
        rw [List.append_cons]
        refine job.accounted_completion ?_ rfl hlogged
        rw [outcomes_append, hbody.outcomes_eq_nil]
        rfl
    | dropped hcut he performed hseen s' =>
        rw [job.chat_droppedRun_iff h hbody hlogged he performed hseen hcut s']
        refine ⟨fun hcharges o performed' heq => ?_, fun hcharges => hcharges _ _ rfl⟩
        obtain ⟨rfl, rfl⟩ := Prod.mk.inj (Option.some.inj heq)
        exact hcharges

theorem response_doneAccounted {s : σ}
    (ht : job.Consumed h (job.responseEventStream.run h s).trace droppedAt t) :
    job.DoneAccounted t := by
  obtain ⟨body, logged, latencyMs, durationMs, hbody, hlogged, hend⟩ :=
    job.responseEventStream_trace h s
  rcases hend with ⟨finish, -, htrace⟩ | ⟨usage, response, htrace⟩
  · intro hdone
    have hnone : t.any isDone = false :=
      Consumed.no_done (htrace ▸ job.failed_no_done hbody hlogged finish latencyMs durationMs) ht
    exact absurd (hnone.symm.trans hdone) nofun
  · rw [htrace] at ht
    cases ht with
    | toEnd =>
        intro _
        rw [List.append_assoc (body ++ _)]
        exact job.accounted_completion hbody.outcomes_eq_nil rfl hlogged
    | dropped hcut he performed hseen s' =>
        exact job.response_droppedRun h hbody hlogged he performed hseen hcut s'

/-- A consumer that has seen `[DONE]` is accounted for: on the Responses route always, and on
the chat route exactly when the body is not dropped behind `[DONE]` before it has charged. -/
theorem done_accounted_iff (s : σ) (droppedAt : Option (Op × Bool)) (t : List (Event Ans)) :
    (job.Consumed h (job.chatEventStream.run h s).trace droppedAt t →
      (job.DoneAccounted t ↔ ∀ o performed, droppedAt = some (o, performed) →
        t.any isDone = true → o.charges = true ∧ performed = true)) ∧
    (job.Consumed h (job.responseEventStream.run h s).trace droppedAt t →
      job.DoneAccounted t) :=
  ⟨job.chat_doneAccounted_iff h, job.response_doneAccounted h⟩

/-- A job without limits, whose provider completes at once. -/
def plainJob : StreamJob where
  subject := ⟨{ fallback := ⟨fun _ => {}, fun _ => ⟨none, .low⟩⟩ }, chatCompletionsRoute, 0, none⟩
  key := { id := "key" }
  success :=
    { context := ⟨0, 0, "m"⟩
      firstEvent := .completed { promptTokens := 1, completionTokens := 1, totalTokens := 2 }
      stream := []
      providerName := "mock-primary"
      pricing := {}
      attempts := [⟨"mock-primary", 1, 0, true, false, none⟩]
      inFlightUnits := 1
      admissionGuard := 1 }
  admissionGuard := 0

/-- Answers for a job that has its stream. -/
def plainHandler (o : Op) (s : Unit) : Ans o × Unit :=
  (twoCandidates (fun _ => true) (fun _ => .error .timeout) (fun _ => .error .timeout) o, s)

/-- Both bodies read to the end. -/
theorem done_accounted_iff_toEnd :
    plainJob.DoneAccounted (plainJob.chatEventStream.run plainHandler ()).trace ∧
      plainJob.DoneAccounted (plainJob.responseEventStream.run plainHandler ()).trace :=
  ⟨((plainJob.done_accounted_iff plainHandler () none _).1 .toEnd).mpr
      fun _ _ hdropped => absurd hdropped nofun,
    (plainJob.done_accounted_iff plainHandler () none _).2 .toEnd⟩

/-- The provider completes, the client reads `[DONE]` and drops the body. -/
theorem dropped_behind_done_unaccounted :
    ∃ t, plainJob.Consumed plainHandler (plainJob.chatEventStream.run plainHandler ()).trace
      (some (.yield .done, true)) t ∧ ¬ plainJob.DoneAccounted t := by
  refine ⟨_, @Consumed.dropped _ _ _ _ [] _ ⟨.yield .done, ()⟩ rfl rfl true (fun _ => rfl) (),
    fun haccounted => ?_⟩
  obtain ⟨-, hout⟩ := haccounted rfl
  exact absurd hout (by decide)

end StreamJob
end RustyGate
