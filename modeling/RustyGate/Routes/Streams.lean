/-
What the event streams of the two routes do.

The loop of an event stream only polls and hands out (`InLoop`).  It ends failed, or with
the usage the provider completed with.  On the chat route `[DONE]` is then the last event
of the loop, and the bookkeeping follows.  On the Responses route the loop is silent
about it, and `[DONE]` comes behind the bookkeeping.
-/
import RustyGate.Routes.Chat
import RustyGate.Routes.Compat
import RustyGate.Routes.Recording

namespace RustyGate

open Effect Effect.Program Gateway

def Op.inLoop : Op → Bool
  | .pollStream _ | .elapsedMs _ => true
  | .yield .done => false
  | .yield _ => true
  | _ => false

/-- A stretch of events of the loop. -/
def InLoop (t : List (Event Ans)) : Prop := ∀ e ∈ t, e.op.inLoop = true

namespace InLoop

theorem nil : InLoop [] := fun _ he => nomatch he

theorem one {e : Event Ans} (h : e.op.inLoop = true) : InLoop [e] :=
  fun _ he => List.mem_singleton.mp he ▸ h

theorem append {t t' : List (Event Ans)} (h : InLoop t) (h' : InLoop t') : InLoop (t ++ t') :=
  fun e he => (List.mem_append.mp he).elim (h e) (h' e)

theorem flatMap_eq_nil {γ : Type} {f : Event Ans → List γ}
    (hf : ∀ {e : Event Ans}, e.op.inLoop = true → f e = []) {t : List (Event Ans)}
    (ht : InLoop t) : t.flatMap f = [] :=
  List.flatMap_eq_nil_iff.mpr fun e he => hf (ht e he)

end InLoop

theorem metricsOf_inLoop {e : Event Ans} (h : e.op.inLoop = true) : metricsOf e = [] := by
  obtain ⟨o, a⟩ := e
  cases o <;> first | rfl | cases h

@[simp] theorem length_failLastAttempt (attempts : List ProviderAttempt)
    (category : ProviderErrorCategory) (latencyMs : UInt64) :
    (failLastAttempt attempts category latencyMs).length = attempts.length := by
  unfold failLastAttempt
  cases hlast : attempts.getLast? with
  | none => rfl
  | some last =>
      have hne : attempts ≠ [] := by
        rintro rfl
        cases hlast
      have hpos : 0 < attempts.length := List.length_pos_of_ne_nil hne
      simp only [List.length_append, List.length_dropLast, List.length_singleton]
      omega

/-! ## The loop -/

section Loop

variable {σ τ : Type} (h : (o : Op) → σ → Ans o × σ) {provider : String}
  {turn : τ → Poll → Gateway (Turn τ)} {ended : τ → Gateway (τ × StreamEnd)}

/-- How a turn ends: inside the loop, or with `Ends` of what it did and left. -/
def TurnEnds (Ends : List (Event Ans) → τ × StreamEnd → Prop) (r : Run Ans (Turn τ) σ) : Prop :=
  match r.value with
  | .goOn _ => InLoop r.trace
  | .stop x finish => Ends r.trace (x, finish)

variable {Ends : List (Event Ans) → τ × StreamEnd → Prop}
  (happend : ∀ {t t' : List (Event Ans)} {e : τ × StreamEnd},
    InLoop t → Ends t' e → Ends (t ++ t') e)
  (hturn : ∀ x poll s, TurnEnds Ends ((turn x poll).run h s))
  (hended : ∀ x s, Ends ((ended x).run h s).trace ((ended x).run h s).value)

include happend hturn

/-- The rest of a turn: the loop goes on from where the turn left it. -/
theorem turn_then {rest : τ → Gateway (τ × StreamEnd)}
    (hrest : ∀ x s, Ends ((rest x).run h s).trace ((rest x).run h s).value)
    (x : τ) (poll : Poll) (s : σ) :
    let r := ((turn x poll).bind fun
      | .goOn x => rest x
      | .stop x finish => .ret (x, finish)).run h s
    Ends r.trace r.value := by
  rw [run_bind]
  have hthis := hturn x poll s
  generalize (turn x poll).run h s = r at hthis ⊢
  obtain ⟨trace, value, s'⟩ := r
  cases value with
  | goOn x' => exact happend hthis (hrest x' s')
  | stop x' finish =>
      simp only [run_ret, List.append_nil]
      exact hthis

include hended

theorem streamLoop_ends (upstream : ProviderStream) (x : τ) (s : σ) :
    let r := (streamLoop provider turn ended upstream x).run h s
    Ends r.trace r.value := by
  induction upstream generalizing x s with
  | nil => exact happend (InLoop.one rfl) (hended x _)
  | cons poll rest ih =>
      exact happend (InLoop.one rfl) (turn_then h happend hturn ih x poll _)

/-- The rule for the loop of an event stream. -/
theorem streamEvents_ends (first : ProviderStreamEvent) (upstream : ProviderStream) (x : τ)
    (s : σ) :
    let r := (streamEvents provider turn ended first upstream x).run h s
    Ends r.trace r.value :=
  turn_then h happend hturn (streamLoop_ends h happend hturn hended upstream) x _ s

end Loop

namespace StreamJob

variable {σ : Type} (job : StreamJob) (h : (o : Op) → σ → Ans o × σ)

/-- The attempts a failed stream is recorded with are those of the call. -/
def Failed (finish : StreamEnd) : Prop :=
  finish.failed = true ∧ finish.attempts.length = job.success.attempts.length

/-- What a completed loop leaves. -/
def completedWith (usage : TokenUsage) : StreamEnd :=
  { usage := some usage, attempts := job.success.attempts }

theorem breakOff_failed (event : AppError → SseEvent) (error : ProviderError)
    (outcome : StreamOutcome) (s : σ) :
    job.Failed ((job.breakOff event error outcome).run h s).value :=
  ⟨rfl, length_failLastAttempt ..⟩

/-! ## The chat route -/

/-- The loop fails, or its last event is `[DONE]`. -/
def ChatEnds (t : List (Event Ans)) (e : Unit × StreamEnd) : Prop :=
  (InLoop t ∧ job.Failed e.2) ∨
    ∃ body usage, InLoop body ∧ t = body ++ [⟨.yield .done, ()⟩] ∧ e.2 = job.completedWith usage

theorem ChatEnds.append {job : StreamJob} {t t' : List (Event Ans)} {e : Unit × StreamEnd}
    (ht : InLoop t) (h : job.ChatEnds t' e) : job.ChatEnds (t ++ t') e := by
  rcases h with ⟨hquiet, hfailed⟩ | ⟨body, usage, hbody, rfl, he⟩
  · exact .inl ⟨ht.append hquiet, hfailed⟩
  · exact .inr ⟨t ++ body, usage, ht.append hbody, (List.append_assoc ..).symm, he⟩

theorem chatTurn_ends (x : Unit) (poll : Poll) (s : σ) :
    TurnEnds job.ChatEnds ((job.chatTurn x poll).run h s) := by
  match poll with
  | .item (.ok (.chunk chunk)) =>
      by_cases hencodes : job.subject.state.encodes
          { chunk with id := openaiId "chatcmpl" job.subject.requestId } = true
      · simp only [chatTurn, if_pos hencodes]
        exact InLoop.one rfl
      · simp only [chatTurn, if_neg hencodes]
        exact .inl ⟨InLoop.one rfl, rfl, rfl⟩
  | .item (.ok (.completed usage)) => exact .inr ⟨[], usage, InLoop.nil, rfl, rfl⟩
  | .item (.error error) =>
      exact .inl ⟨(InLoop.one rfl).append (InLoop.one rfl), job.breakOff_failed h _ error _ s⟩
  | .idle =>
      exact .inl ⟨(InLoop.one rfl).append (InLoop.one rfl), job.breakOff_failed h _ .timeout _ s⟩

theorem chatEnded_ends (x : Unit) (s : σ) :
    job.ChatEnds ((job.chatEnded x).run h s).trace ((job.chatEnded x).run h s).value :=
  .inl ⟨InLoop.one rfl, rfl, rfl⟩

theorem chatEvents_ends (s : σ) :
    let r := (streamEvents job.success.providerName job.chatTurn job.chatEnded
      job.success.firstEvent job.success.stream ()).run h s
    job.ChatEnds r.trace r.value :=
  streamEvents_ends h ChatEnds.append (job.chatTurn_ends h) (job.chatEnded_ends h) _ _ _ s

/-! ## The Responses route -/

/-- The loop hands out no `[DONE]`. -/
def ResponseEnds (t : List (Event Ans)) (e : String × StreamEnd) : Prop :=
  InLoop t ∧ (job.Failed e.2 ∨ ∃ usage, e.2 = job.completedWith usage)

theorem ResponseEnds.append {job : StreamJob} {t t' : List (Event Ans)} {e : String × StreamEnd}
    (ht : InLoop t) (h : job.ResponseEnds t' e) : job.ResponseEnds (t ++ t') e :=
  ⟨ht.append h.1, h.2⟩

theorem responseChoices_ends (choices : List ChatChunkChoice) (text : String) (s : σ) :
    TurnEnds job.ResponseEnds ((job.responseChoices choices text).run h s) := by
  induction choices generalizing text s with
  | nil => exact InLoop.nil
  | cons choice rest ih =>
      rw [responseChoices]
      cases choice.delta.content with
      | none => exact ih text s
      | some delta =>
          simp only
          split
          · exact ⟨InLoop.one rfl, .inl ⟨rfl, rfl⟩⟩
          · -- One event is handed out in front of those of the other choices.
            simp only [bind_eq_bind, perform_bind, run_op]
            have hrest := ih (text ++ delta) (h (.yield (.responseTextDelta
              { itemId := openaiId "msg" job.subject.requestId
                outputIndex := 0
                contentIndex := 0
                delta := delta })) s).2
            generalize (job.responseChoices rest (text ++ delta)).run h _ = r at hrest ⊢
            obtain ⟨trace, value, s'⟩ := r
            cases value with
            | goOn text' => exact (InLoop.one rfl).append hrest
            | stop text' finish => exact ResponseEnds.append (InLoop.one rfl) hrest

theorem responseTurn_ends (text : String) (poll : Poll) (s : σ) :
    TurnEnds job.ResponseEnds ((job.responseTurn text poll).run h s) := by
  match poll with
  | .item (.ok (.chunk chunk)) => exact job.responseChoices_ends h chunk.choices text s
  | .item (.ok (.completed usage)) => exact ⟨InLoop.nil, .inr ⟨usage, rfl⟩⟩
  | .item (.error error) =>
      exact ⟨(InLoop.one rfl).append (InLoop.one rfl),
        .inl (job.breakOff_failed h responseErrorEvent error _ s)⟩
  | .idle =>
      exact ⟨(InLoop.one rfl).append (InLoop.one rfl),
        .inl (job.breakOff_failed h responseErrorEvent .timeout _ s)⟩

theorem responseEnded_ends (text : String) (s : σ) :
    job.ResponseEnds ((job.responseEnded text).run h s).trace
      ((job.responseEnded text).run h s).value :=
  ⟨InLoop.one rfl, .inl ⟨rfl, rfl⟩⟩

theorem responseEvents_ends (s : σ) :
    let r := (streamEvents job.success.providerName job.responseTurn job.responseEnded
      job.success.firstEvent job.success.stream "").run h s
    job.ResponseEnds r.trace r.value :=
  streamEvents_ends h ResponseEnds.append (job.responseTurn_ends h) (job.responseEnded_ends h)
    _ _ _ s

/-! ## Whole runs -/

/-- The events of a stream that is recorded as failed. -/
def failure (finish : StreamEnd) (latencyMs durationMs : UInt64) (logged : List (Event Ans)) :
    List (Event Ans) :=
  ⟨.elapsedMs none, latencyMs⟩ :: ⟨.streamElapsedMs, durationMs⟩ ::
    ⟨.metrics (.recordStreamOutcome (finish.outcome.getD .midStreamFailure).asStr
      durationMs), ()⟩ ::
    ⟨.metrics (.recordChatFailure latencyMs finish.attempts
      (some (finish.errorCategory.getD .providerBadResponse).asStr)), ()⟩ :: logged

/-- The events of a stream that is recorded as a success. -/
def completion (usage : TokenUsage) (latencyMs durationMs : UInt64)
    (logged : List (Event Ans)) : List (Event Ans) :=
  let cost := job.success.pricing.estimateCost usage.promptTokens usage.completionTokens
  ⟨.elapsedMs none, latencyMs⟩ :: ⟨.streamElapsedMs, durationMs⟩ ::
    ⟨.metrics (.recordStreamOutcome StreamOutcome.completed.asStr durationMs), ()⟩ ::
    ⟨.metrics (.recordChatSuccess job.success.providerName usage cost latencyMs
      job.success.attempts), ()⟩ ::
    (logged ++ [⟨.recordUsage job.key.id usage.totalTokens.toUInt64 cost.totalCostUsd, ()⟩])

def guardDrops : List (Event Ans) :=
  [⟨.dropAdmissionGuard job.success.admissionGuard, ()⟩,
   ⟨.metrics (.endProviderRequest job.success.providerName job.success.inFlightUnits), ()⟩,
   ⟨.dropAdmissionGuard job.admissionGuard, ()⟩,
   ⟨.metrics .endRequest, ()⟩]

theorem recordChatStream_failed {finish : StreamEnd} (hfailed : finish.failed = true) (s : σ) :
    ∃ latencyMs durationMs logged, Plain logged ∧
      ((job.recordChatStream finish).run h s).trace =
        failure finish latencyMs durationMs logged := by
  obtain ⟨durationMs, logged, hlogged, htrace⟩ := job.recordFailedStream_trace h
    (h (.elapsedMs none) s).2 finish (h (.elapsedMs none) s).1
  refine ⟨(h (.elapsedMs none) s).1, durationMs, logged, hlogged, ?_⟩
  rw [failure, ← htrace, recordChatStream]
  simp only [hfailed, bind_eq_bind, perform_bind, run_op]

theorem recordChatStream_completed (usage : TokenUsage) (s : σ) :
    ∃ latencyMs durationMs logged, Plain logged ∧
      ((job.recordChatStream (job.completedWith usage)).run h s).trace =
        job.completion usage latencyMs durationMs logged := by
  obtain ⟨durationMs, logged, hlogged, htrace⟩ := job.recordSucceededStream_trace h
    (h (.elapsedMs none) s).2 usage job.success.attempts (h (.elapsedMs none) s).1
  refine ⟨(h (.elapsedMs none) s).1, durationMs, logged, hlogged, ?_⟩
  rw [completion, ← htrace]
  rfl

/-- A run of the event stream of the chat route. -/
theorem chatEventStream_trace (s : σ) :
    ∃ body logged latencyMs durationMs, InLoop body ∧ Plain logged ∧
      ((∃ finish, job.Failed finish ∧ (job.chatEventStream.run h s).trace =
          body ++ failure finish latencyMs durationMs logged ++ job.guardDrops) ∨
        ∃ usage, (job.chatEventStream.run h s).trace =
          body ++ ⟨.yield .done, ()⟩ :: job.completion usage latencyMs durationMs logged ++
            job.guardDrops) := by
  have hloop := job.chatEvents_ends h s
  simp only [chatEventStream, bind_eq_bind, run_bind]
  generalize (streamEvents job.success.providerName job.chatTurn job.chatEnded
    job.success.firstEvent job.success.stream ()).run h s = r at hloop ⊢
  obtain ⟨trace, ⟨x, finish⟩, s'⟩ := r
  rcases hloop with ⟨hbody, hfailed⟩ | ⟨body, usage, hbody, rfl, rfl⟩
  · obtain ⟨latencyMs, durationMs, logged, hlogged, hrecord⟩ :=
      job.recordChatStream_failed h hfailed.1 s'
    refine ⟨trace, logged, latencyMs, durationMs, hbody, hlogged, .inl ⟨finish, hfailed, ?_⟩⟩
    rw [← hrecord, List.append_assoc]
    rfl
  · obtain ⟨latencyMs, durationMs, logged, hlogged, hrecord⟩ :=
      job.recordChatStream_completed h usage s'
    refine ⟨body, logged, latencyMs, durationMs, hbody, hlogged, .inr ⟨usage, ?_⟩⟩
    rw [← hrecord]
    simp only [List.append_assoc, List.cons_append, List.nil_append]
    rfl

theorem finishResponseStream_failed {finish : StreamEnd} (hfailed : finish.failed = true)
    (text : String) (s : σ) :
    ∃ latencyMs durationMs logged, Plain logged ∧
      ((job.finishResponseStream text finish).run h s).trace =
        failure finish latencyMs durationMs logged := by
  have hsame : job.finishResponseStream text finish = job.recordChatStream finish := by
    simp only [finishResponseStream, recordChatStream, hfailed]
  rw [hsame]
  exact job.recordChatStream_failed h hfailed s

theorem finishResponseStream_completed (text : String) (usage : TokenUsage) (s : σ) :
    ∃ latencyMs durationMs logged, Plain logged ∧
      ((job.finishResponseStream text (job.completedWith usage)).run h s).trace =
        job.completion usage latencyMs durationMs logged ++
          [⟨.yield (.responseCompleted (responseObject job.subject.requestId
            job.success.context.created job.success.context.model text usage)), ()⟩,
            ⟨.yield .done, ()⟩] := by
  obtain ⟨latencyMs, durationMs, logged, hlogged, htrace⟩ :=
    job.recordChatStream_completed h usage s
  refine ⟨latencyMs, durationMs, logged, hlogged, ?_⟩
  -- The Responses route goes on where the chat route is done.
  rw [← htrace]
  exact congrArg Run.trace (run_bind h (job.recordChatStream (job.completedWith usage)) _ s)

/-- A run of the event stream of the Responses route. -/
theorem responseEventStream_trace (s : σ) :
    ∃ body logged latencyMs durationMs, InLoop body ∧ Plain logged ∧
      ((∃ finish, job.Failed finish ∧ (job.responseEventStream.run h s).trace =
          body ++ failure finish latencyMs durationMs logged ++ job.guardDrops) ∨
        ∃ usage response, (job.responseEventStream.run h s).trace =
          body ++ job.completion usage latencyMs durationMs logged ++
            [⟨.yield (.responseCompleted response), ()⟩, ⟨.yield .done, ()⟩] ++
            job.guardDrops) := by
  have hloop := job.responseEvents_ends h s
  simp only [responseEventStream, bind_eq_bind, run_bind]
  generalize (streamEvents job.success.providerName job.responseTurn job.responseEnded
    job.success.firstEvent job.success.stream "").run h s = r at hloop ⊢
  obtain ⟨trace, ⟨text, finish⟩, s'⟩ := r
  obtain ⟨hbody, hfailed | ⟨usage, rfl⟩⟩ := hloop
  · obtain ⟨latencyMs, durationMs, logged, hlogged, hrecord⟩ :=
      job.finishResponseStream_failed h hfailed.1 text s'
    refine ⟨trace, logged, latencyMs, durationMs, hbody, hlogged, .inl ⟨finish, hfailed, ?_⟩⟩
    rw [← hrecord, List.append_assoc]
    rfl
  · obtain ⟨latencyMs, durationMs, logged, hlogged, hrecord⟩ :=
      job.finishResponseStream_completed h text usage s'
    refine ⟨trace, logged, latencyMs, durationMs, hbody, hlogged, .inr ⟨usage,
      responseObject job.subject.requestId job.success.context.created job.success.context.model
        text usage, ?_⟩⟩
    rw [List.append_assoc trace, ← hrecord, List.append_assoc]
    rfl

end StreamJob
end RustyGate
