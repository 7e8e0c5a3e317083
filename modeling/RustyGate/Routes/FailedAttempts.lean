/-
Whether a failed stream is a failed attempt.

When a stream is handed to the client, its last attempt counts as a success, since the
provider has sent a first event.  Both event streams correct this where the provider reports
an error and where it stays silent for too long (`breakOff`).  Where the stream ends early,
and where an item cannot be passed on, they fail the request and leave the attempt a success
(`giveUp`).
-/
import RustyGate.Routes.Grammar
import RustyGate.Routing.AttemptLogs

namespace RustyGate

open Effect Effect.Program Gateway

def LastSucceeded (attempts : List ProviderAttempt) : Prop :=
  ∃ last, attempts.getLast? = some last ∧ last.success = true

/-- A record of a request, in the metrics or in the log, says of the request what it says
of its last attempt. -/
def Op.Agrees : Op → Prop
  | .metrics (.recordChatSuccess _ _ _ _ attempts) => LastSucceeded attempts
  | .metrics (.recordChatFailure _ attempts category) =>
      ∃ last, attempts.getLast? = some last ∧ last.success = false ∧
        last.errorCategory.map (·.asStr) = category
  | .recordRequest entry =>
      ∃ last, entry.providerAttempts.getLast? = some last ∧
        match entry.status with
        | .success => last.success = true
        | .failure => last.success = false ∧ last.errorCategory = entry.errorCategory
  | _ => True

/-- The provider completed the stream, or it is known to have failed. -/
def StreamFinish.attributed : StreamFinish → Bool
  | .completed _ => true
  | .broken error _ _ => error.isSome

/-! ## Records -/

theorem asStr_ofProvider (c : ProviderErrorCategory) :
    (RequestErrorCategory.ofProvider c).asStr = c.asStr := by
  cases c <;> rfl

theorem agrees_inLoop {o : Op} (h : o.inLoop = true) : o.Agrees := by
  cases o <;> trivial

section Records

variable {attempts : List ProviderAttempt} {last : ProviderAttempt}

theorem log_agrees (subject : Subject) (finalProvider : Option String)
    (status : RequestLogStatus) (latencyMs : UInt64) (usage : Option TokenUsage)
    (cost : Option CostEstimate) (category : Option RequestErrorCategory)
    (hlast : attempts.getLast? = some last)
    (hstatus : match status with
      | .success => last.success = true
      | .failure => last.success = false ∧ last.errorCategory.map .ofProvider = category) :
    (subject.log finalProvider status latencyMs usage cost category attempts).Performs
      Op.Agrees := by
  unfold Subject.log recordRequestMetadata
  refine ⟨trivial, fun now => ?_⟩
  split
  · refine ⟨⟨.from last, ?_, hstatus⟩, fun _ => trivial⟩
    show (attempts.map RequestProviderAttempt.from).getLast? = _
    rw [List.getLast?_map, hlast]
    rfl
  · trivial

end Records

namespace StreamJob

variable (job : StreamJob)

theorem recordSucceededStream_agrees (usage : TokenUsage) {attempts : List ProviderAttempt}
    (hsucceeded : LastSucceeded attempts) (latencyMs : UInt64) :
    (job.recordSucceededStream usage attempts latencyMs).Performs Op.Agrees := by
  obtain ⟨last, hlast, hsuccess⟩ := hsucceeded
  refine ⟨trivial, fun durationMs => ⟨trivial, fun _ => ⟨⟨last, hlast, hsuccess⟩, fun _ => ?_⟩⟩⟩
  exact (log_agrees _ _ .success _ _ _ _ hlast hsuccess).bind fun _ => ⟨trivial, fun _ => trivial⟩

/-- The attempts of a failed stream whose last one has been corrected. -/
theorem recordFailedStream_agrees {finish : StreamEnd} {category : ProviderErrorCategory}
    {latency : UInt64} (hbegun : LastSucceeded job.success.attempts)
    (hcategory : finish.errorCategory = some (.ofProvider category))
    (hattempts : finish.attempts = failLastAttempt job.success.attempts category latency)
    (latencyMs : UInt64) : (job.recordFailedStream finish latencyMs).Performs Op.Agrees := by
  obtain ⟨last, hlast, -⟩ := hbegun
  have hfailed : finish.attempts.getLast? = some
      { last with success := false, errorCategory := some category, latencyMs := latency } := by
    rw [hattempts, failLastAttempt, hlast]
    exact List.getLast?_concat
  unfold recordFailedStream
  rw [hcategory]
  refine ⟨trivial, fun durationMs => ⟨trivial, fun _ => ⟨⟨_, hfailed, rfl, ?_⟩, fun _ => ?_⟩⟩⟩
  · exact congrArg some (asStr_ofProvider category).symm
  · exact log_agrees _ _ .failure _ _ _ _ hfailed ⟨rfl, rfl⟩

/-- The attempts of a failed stream as they were when it was handed out. -/
theorem recordFailedStream_disagrees {σ : Type} (h : (o : Op) → σ → Ans o × σ) (s : σ)
    {finish : StreamEnd} (hsucceeded : LastSucceeded finish.attempts) (latencyMs : UInt64) :
    ¬∀ e ∈ ((job.recordFailedStream finish latencyMs).run h s).trace, e.op.Agrees := by
  intro hagrees
  obtain ⟨last, hlast, hsuccess⟩ := hsucceeded
  obtain ⟨durationMs, logged, -, htrace⟩ := job.recordFailedStream_trace h s finish latencyMs
  rw [htrace] at hagrees
  obtain ⟨last', hlast', hfailed, -⟩ := hagrees _ (.tail _ (.tail _ (.head logged)))
  rw [hlast] at hlast'
  cases hlast'
  rw [hsuccess] at hfailed
  cases hfailed

/-! ## What the loop leaves of the attempts -/

/-- The attempts at the end of the loop: with an error of the provider the last one has been
corrected. -/
def Corrects : StreamFinish → StreamEnd → Prop
  | .broken (some error) _ category, finish =>
      category = .ofProvider (providerErrorCategory error) ∧ ∃ latencyMs,
        finish.attempts = failLastAttempt job.success.attempts (providerErrorCategory error)
          latencyMs
  | .completed _, finish | .broken none _ _, finish => finish.attempts = job.success.attempts

section Loop

variable {σ τ : Type} {h : (o : Op) → σ → Ans o × σ} {provider : String}
  {turn : τ → Poll → Gateway (Turn τ)} {ended : τ → Gateway (τ × StreamEnd)}
  (closing : List Poll → τ → StreamFinish)

/-- A turn leaves the closing to the polls behind it, or closes the stream. -/
def TurnCorrects (poll : Poll) (polls : List Poll) (x : τ) : Turn τ → Prop
  | .goOn x' => closing (poll :: polls) x = closing polls x'
  | .stop _ finish => job.Corrects (closing (poll :: polls) x) finish

/-- The rule for what the loop leaves. -/
theorem streamEvents_corrects
    (hended : ∀ x s, job.Corrects (closing [] x) ((ended x).run h s).value.2)
    (hturn : ∀ poll polls x s, job.TurnCorrects closing poll polls x ((turn x poll).run h s).value)
    (first : ProviderStreamEvent) (upstream : ProviderStream) (x : τ) (s : σ) :
    job.Corrects (closing (.item (.ok first) :: upstream) x)
      ((streamEvents provider turn ended first upstream x).run h s).value.2 := by
  -- One turn, in front of a rest that leaves what it should.
  have hnext : ∀ poll polls (rest : τ → Gateway (τ × StreamEnd)),
      (∀ x s, job.Corrects (closing polls x) ((rest x).run h s).value.2) →
      ∀ x s, job.Corrects (closing (poll :: polls) x)
        (((turn x poll).bind (resume rest)).run h s).value.2 := by
    intro poll polls rest hrest x s
    rw [run_bind]
    have hthis := hturn poll polls x s
    generalize (turn x poll).run h s = r at hthis ⊢
    obtain ⟨trace, value, s'⟩ := r
    cases value with
    | stop y finish => exact hthis
    | goOn y =>
        have hclosing : closing (poll :: polls) x = closing polls y := hthis
        rw [hclosing]
        exact hrest y s'
  refine hnext _ upstream _ ?_ x s
  induction upstream with
  | nil => exact fun x s => hended x _
  | cons poll polls ih => exact fun x s => hnext poll polls _ ih x _

end Loop

variable {σ : Type} (h : (o : Op) → σ → Ans o × σ) (s : σ)

theorem chatEvents_corrects :
    job.Corrects (finishOf job.chatPasses job.items)
      ((streamEvents job.success.providerName job.chatTurn job.chatEnded
        job.success.firstEvent job.success.stream ()).run h s).value.2 := by
  refine job.streamEvents_corrects (fun items _ => finishOf job.chatPasses items) ?_ ?_ _ _ () s
  · intro x s
    exact rfl
  intro poll polls x s
  match poll with
  | .item (.ok (.chunk chunk)) =>
      have hpasses : job.chatPasses chunk = job.subject.state.encodes
          { chunk with id := openaiId "chatcmpl" job.subject.requestId } := rfl
      by_cases hencodes : job.chatPasses chunk = true
      · have hclosing : finishOf job.chatPasses (.item (.ok (.chunk chunk)) :: polls) =
            finishOf job.chatPasses polls := if_pos hencodes
        rw [hpasses] at hencodes
        simp only [chatTurn, if_pos hencodes]
        exact hclosing
      · have hclosing : finishOf job.chatPasses (.item (.ok (.chunk chunk)) :: polls) =
            .undeliverable := if_neg hencodes
        rw [hpasses] at hencodes
        simp only [chatTurn, if_neg hencodes, TurnCorrects, hclosing]
        exact rfl
  | .item (.ok (.completed usage)) => exact rfl
  | .item (.error error) => exact ⟨rfl, _, rfl⟩
  | .idle => exact ⟨rfl, _, rfl⟩

/-- The choices of a chunk leave the attempts as they are. -/
theorem responseChoices_attempts (choices : List ChatChunkChoice) (text : String) (s : σ) :
    match ((job.responseChoices choices text).run h s).value with
    | .goOn _ => True
    | .stop _ finish => finish.attempts = job.success.attempts := by
  induction choices generalizing text s with
  | nil => trivial
  | cons choice rest ih =>
      rw [responseChoices]
      cases choice.delta.content with
      | none => exact ih text s
      | some delta =>
          by_cases hmax : maxStreamOutputChars < text.length + delta.length
          · simp only [if_pos hmax]
            exact rfl
          · simp only [if_neg hmax]
            exact ih (text ++ delta) _

theorem responseEvents_corrects :
    job.Corrects (responseFinishOf 0 job.items)
      ((streamEvents job.success.providerName job.responseTurn job.responseEnded
        job.success.firstEvent job.success.stream "").run h s).value.2 := by
  refine job.streamEvents_corrects (fun items text => responseFinishOf text.length items)
    ?_ ?_ _ _ "" s
  · intro text s
    exact rfl
  intro poll polls text s
  match poll with
  | .item (.ok (.chunk chunk)) =>
      have hattempts := job.responseChoices_attempts h chunk.choices text s
      by_cases hfits : fitting text.length (contents chunk.choices) = contents chunk.choices
      · have hleft := (job.responseChoices_fit h chunk.choices text hfits s).left
        rw [responseTurn]
        generalize ((job.responseChoices chunk.choices text).run h s).value = turn at hleft ⊢
        cases turn with
        | stop text' finish => exact hleft.elim
        | goOn text' =>
            obtain rfl : text' = text ++ String.join (contents chunk.choices) := hleft
            simp only [TurnCorrects, responseFinishOf_chunk_of_eq hfits, String.length_append]
      · have hleft := (job.responseChoices_overflow h chunk.choices text hfits s).left
        rw [responseTurn]
        generalize ((job.responseChoices chunk.choices text).run h s).value = turn
          at hleft hattempts ⊢
        cases turn with
        | goOn text' => exact hleft.elim
        | stop text' finish =>
            simp only [TurnCorrects, responseFinishOf_chunk_of_ne hfits]
            exact hattempts
  | .item (.ok (.completed usage)) => exact rfl
  | .item (.error error) => exact ⟨rfl, _, rfl⟩
  | .idle => exact ⟨rfl, _, rfl⟩

/-! ## Whole runs -/

section Runs

variable {job} {closed : StreamFinish} {finish : StreamEnd}
  (hbegun : LastSucceeded job.success.attempts) (hreflects : job.Reflects closed finish)
  (hcorrects : job.Corrects closed finish)

include hbegun hreflects hcorrects

/-- What is recorded behind the loop, on either route. -/
theorem records_agree_iff {records : Gateway Unit}
    (hcompleted : ∀ usage, finish = job.completedWith usage → records.Performs Op.Agrees)
    (hfailed : finish.failed = true →
      records = .op (.elapsedMs none) (job.recordFailedStream finish)) :
    (∀ e ∈ (records.run h s).trace, e.op.Agrees) ↔ closed.attributed = true := by
  match closed with
  | .completed usage => exact iff_of_true ((hcompleted usage hreflects).mem_trace h s) rfl
  | .broken none outcome category =>
      have hattempts : finish.attempts = job.success.attempts := hcorrects
      refine iff_of_false (fun hagrees => ?_) Bool.false_ne_true
      rw [hfailed hreflects.1, run_op] at hagrees
      exact job.recordFailedStream_disagrees h _ (hattempts ▸ hbegun) _ fun e he =>
        hagrees e (.tail _ he)
  | .broken (some error) outcome category =>
      obtain ⟨rfl, latency, hattempts⟩ := hcorrects
      have hrecords : records.Performs Op.Agrees := by
        rw [hfailed hreflects.1]
        exact ⟨trivial, job.recordFailedStream_agrees hbegun hreflects.2.2 hattempts⟩
      exact iff_of_true (hrecords.mem_trace h s) rfl

theorem recordChatStream_agrees_iff :
    (∀ e ∈ ((job.recordChatStream finish).run h s).trace, e.op.Agrees) ↔
      closed.attributed = true := by
  refine records_agree_iff h s hbegun hreflects hcorrects ?_ fun hfailed => ?_
  · rintro usage rfl
    exact ⟨trivial, job.recordSucceededStream_agrees usage hbegun⟩
  · unfold recordChatStream
    rw [hfailed]
    rfl

theorem finishResponseStream_agrees_iff (text : String) :
    (∀ e ∈ ((job.finishResponseStream text finish).run h s).trace, e.op.Agrees) ↔
      closed.attributed = true := by
  refine records_agree_iff h s hbegun hreflects hcorrects ?_ fun hfailed => ?_
  · rintro usage rfl
    refine ⟨trivial, fun latencyMs => ?_⟩
    exact (job.recordSucceededStream_agrees usage hbegun latencyMs).bind fun _ =>
      ⟨trivial, fun _ => ⟨trivial, fun _ => trivial⟩⟩
  · unfold finishResponseStream
    rw [hfailed]
    rfl

end Runs

theorem dropGuards_agrees : job.dropGuards.Performs Op.Agrees :=
  ⟨trivial, fun _ => ⟨trivial, fun _ => ⟨trivial, fun _ => ⟨trivial, fun _ => trivial⟩⟩⟩⟩

/-- The records between a loop and the guards decide. -/
theorem agrees_append_iff {loop records drops : List (Event Ans)}
    (hloop : ∀ e ∈ loop, e.op.Agrees) (hdrops : ∀ e ∈ drops, e.op.Agrees) :
    (∀ e ∈ loop ++ (records ++ drops), e.op.Agrees) ↔ ∀ e ∈ records, e.op.Agrees := by
  simp only [List.forall_mem_append]
  exact ⟨fun hall => hall.2.1, fun hrecords => ⟨hloop, hrecords, hdrops⟩⟩

theorem chatEventStream_agrees_iff (hbegun : LastSucceeded job.success.attempts) :
    (∀ e ∈ (job.chatEventStream.run h s).trace, e.op.Agrees) ↔
      (finishOf job.chatPasses job.items).attributed = true := by
  have hends := job.chatEvents_ends h s
  have hplays := job.chatEvents_plays h s
  have hcorrects := job.chatEvents_corrects h s
  simp only [chatEventStream, bind_eq_bind, run_bind]
  generalize (streamEvents _ job.chatTurn job.chatEnded _ _ ()).run h s = r
    at hends hplays hcorrects ⊢
  have hloop : ∀ e ∈ r.trace, e.op.Agrees := by
    rcases hends with ⟨hbody, -⟩ | ⟨body, usage, hbody, htrace, -⟩
    · exact fun e he => agrees_inLoop (hbody e he)
    · rw [htrace, List.forall_mem_append]
      exact ⟨fun e he => agrees_inLoop (hbody e he), by simp [Op.Agrees]⟩
  rw [agrees_append_iff hloop (job.dropGuards_agrees.mem_trace h _)]
  exact recordChatStream_agrees_iff h _ hbegun hplays.finish hcorrects

theorem responseEventStream_agrees_iff (hbegun : LastSucceeded job.success.attempts) :
    (∀ e ∈ (job.responseEventStream.run h s).trace, e.op.Agrees) ↔
      (responseFinishOf 0 job.items).attributed = true := by
  have hends := job.responseEvents_ends h s
  have hplays := job.responseEvents_plays h s
  have hcorrects := job.responseEvents_corrects h s
  simp only [responseEventStream, bind_eq_bind, run_bind]
  generalize (streamEvents _ job.responseTurn job.responseEnded _ _ "").run h s = r
    at hends hplays hcorrects ⊢
  have hloop : ∀ e ∈ r.trace, e.op.Agrees := fun e he => agrees_inLoop (hends.1 e he)
  rw [agrees_append_iff hloop (job.dropGuards_agrees.mem_trace h _)]
  exact finishResponseStream_agrees_iff h _ hbegun hplays.finish hcorrects _

/-- A stream that was begun is recorded in agreement with its last attempt, on either route,
exactly if it is closed by the provider, by an error of the provider or by an idle timeout. -/
theorem records_agree_iff_attributed {σ₀ : Type} (request : ChatCompletionRequest)
    (h₀ : (o : Op) → σ₀ → Ans o × σ₀) (s₀ : σ₀)
    (hbegun : ((completeChatStream job.subject.state.fallback request).run h₀ s₀).value =
      .ok job.success) :
    ((∀ e ∈ (job.chatEventStream.run h s).trace, e.op.Agrees) ↔
      (finishOf job.chatPasses job.items).attributed = true) ∧
    ((∀ e ∈ (job.responseEventStream.run h s).trace, e.op.Agrees) ↔
      (responseFinishOf 0 job.items).attributed = true) := by
  have hlast : LastSucceeded job.success.attempts := completeChatStream_last_succeeded h₀ hbegun
  exact ⟨job.chatEventStream_agrees_iff h s hlast, job.responseEventStream_agrees_iff h s hlast⟩

def helloChunk : ChatCompletionChunkResponse where
  id := "chatcmpl-0"
  object := "chat.completion.chunk"
  created := 0
  model := "m"
  provider := "mock-primary"
  choices := [{ index := 0, delta := { content := some "hello" } }]

/-- The provider sends one chunk and then the other polls. -/
def helloAnswers (rest : ProviderStream) (o : Op) (s : Unit) : Ans o × Unit :=
  (twoCandidates (fun _ => true) (fun _ => .error .timeout)
    (fun _ => .ok (⟨0, 0, "m"⟩, .item (.ok (.chunk helloChunk)) :: rest)) o, s)

def helloJob (rest : ProviderStream) : StreamJob where
  subject := ⟨{ fallback := plainContext }, chatCompletionsRoute, 0, some plainRequest⟩
  key := { id := "key" }
  success :=
    { context := ⟨0, 0, "m"⟩
      firstEvent := .chunk helloChunk
      stream := rest
      providerName := "mock-primary"
      pricing := {}
      attempts := [⟨"mock-primary", 1, 0, true, false, none⟩]
      inFlightUnits := FallbackCall.inFlightUnits ⟨plainContext, plainRequest, .priority⟩
      admissionGuard := 0 }
  admissionGuard := 0

theorem helloJob_begun (rest : ProviderStream) :
    ((completeChatStream plainContext plainRequest).run (helloAnswers rest) ()).value =
      .ok (helloJob rest).success := by
  -- The first candidate is let through and serves at once.
  simp only [completeChatStream, bind_eq_bind, recordPrefixFingerprint, recordRoutingDecision,
    perform_bind, run_op, helloAnswers, twoCandidates, List.isEmpty_cons, Bool.false_eq_true,
    if_false]
  rw [streamCandidates]
  simp only [bind_eq_bind, perform_bind, run_op, helloAnswers, twoCandidates, if_true]
  rw [streamRetries]
  rfl

/-- A provider that breaks off with an error. -/
theorem records_agree_rateLimited :
    let rest := [.item (.error .rateLimited)]
    (∀ e ∈ ((helloJob rest).chatEventStream.run (helloAnswers rest) ()).trace, e.op.Agrees) ∧
      ∀ e ∈ ((helloJob rest).responseEventStream.run (helloAnswers rest) ()).trace,
        e.op.Agrees := by
  intro rest
  have hiff := (helloJob rest).records_agree_iff_attributed (helloAnswers rest) () plainRequest
    (helloAnswers rest) () (helloJob_begun rest)
  exact ⟨hiff.1.mpr rfl, hiff.2.mpr (by decide +kernel)⟩

/-- A stream that ends behind its first chunk is a failed request with a successful attempt. -/
theorem incomplete_stream_attempt_succeeded :
    let failure := .recordChatFailure 0 [⟨"mock-primary", 1, 0, true, false, none⟩]
      (some "provider_bad_response")
    ((completeChatStream plainContext plainRequest).run (helloAnswers []) ()).value =
        .ok (helloJob []).success ∧
      failure ∈ ((helloJob []).chatEventStream.run (helloAnswers []) ()).trace.flatMap metricsOf ∧
      failure ∈
        ((helloJob []).responseEventStream.run (helloAnswers []) ()).trace.flatMap metricsOf :=
  ⟨helloJob_begun [], by decide +kernel, by decide +kernel⟩

end StreamJob
end RustyGate
