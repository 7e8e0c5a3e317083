/-
The two fallback loops agree.

`complete_chat` and `complete_chat_stream` run on the same circuits and admission
counters, and the providers answer the two kinds of calls alike: a call that fails with
an error corresponds to a stream call that fails with it or whose first item is that
error, and a served call to a stream whose first item is an event.  Then both make the
same calls, report and record the same things in the same order, and end alike.

The proof is about `search` at two value types under two handlers that agree step by
step (`Alike`).  Latencies are left open, so attempts are compared without them.
-/
import RustyGate.Gateway.World
import RustyGate.Routing.FallbackRuns

namespace RustyGate

open Effect Effect.Program Gateway

namespace Outcome

/-- The same outcome up to the value that is served. -/
def Alike {α β : Type} : Outcome α → Outcome β → Prop
  | served _, served _ => True
  | failed e, failed e' => e = e'
  | empty, empty => True
  | _, _ => False

end Outcome

/-- An attempt without its latency. -/
def ProviderAttempt.untimed (a : ProviderAttempt) : ProviderAttempt := { a with latencyMs := 0 }

/-! ## Two searches under like answers -/

section Alike

variable {α β σ τ : Type}

/-- Two handlers of the search that keep the same state and answer alike.  What becomes
of the slot at the end may differ, and then only `view` of the state is the same. -/
structure Alike (hα : (o : SearchOp) → σ → SearchAns α o × σ)
    (hβ : (o : SearchOp) → σ → SearchAns β o × σ) (view : σ → τ) : Prop where
  allow : ∀ index provider s, hα (.allow index provider) s = hβ (.allow index provider) s
  reserve : ∀ index provider s, hα (.reserve index provider) s = hβ (.reserve index provider) s
  call : ∀ site entry s, (hα (.call site entry) s).2 = (hβ (.call site entry) s).2 ∧
    (hα (.call site entry) s).1.1.Alike (hβ (.call site entry) s).1.1
  won : ∀ index provider s, (hα (.won index provider) s).2 = (hβ (.won index provider) s).2
  backoff : ∀ site provider s,
    (hα (.backoff site provider) s).2 = (hβ (.backoff site provider) s).2
  lost : ∀ index provider s, (hα (.lost index provider) s).2 = (hβ (.lost index provider) s).2
  quit : ∀ provider s, (hα (.quit provider) s).2 = (hβ (.quit provider) s).2
  release : ∀ guard s, (hα (.release guard) s).2 = (hβ (.release guard) s).2
  handOver : ∀ guard s, view (hα (.handOver guard) s).2 = view (hβ (.handOver guard) s).2

/-- Logs that differ in latencies only. -/
def AttemptLog.Same (l l' : AttemptLog) : Prop :=
  l.attempts.map (·.untimed) = l'.attempts.map (·.untimed) ∧ l.attemptOrder = l'.attemptOrder

theorem AttemptLog.Same.push {l l' : AttemptLog} (h : l.Same l') (provider : String)
    (isFallback : Bool) (t t' : UInt64) (error : Option ProviderError) :
    (l.push provider isFallback t error).Same (l'.push provider isFallback t' error) := by
  obtain ⟨hattempts, horder⟩ := h
  refine ⟨?_, ?_⟩
  · simp only [AttemptLog.push, List.map_append, hattempts, horder]
    rfl
  · simp only [AttemptLog.push, horder]

/-- Results that differ in the value served and in latencies only. -/
def SameError : FallbackError → FallbackError → Prop
  | .noProviderAvailable, .noProviderAvailable => True
  | .admissionRejected r, .admissionRejected r' => r = r'
  | .providerFailed e l, .providerFailed e' l' =>
      e = e' ∧ l.map (·.untimed) = l'.map (·.untimed)
  | _, _ => False

/-- Both succeed with the same provider and attempts, or both fail alike. -/
def SameResult {γ δ : Type} (provider : γ → String) (attempts : γ → List ProviderAttempt)
    (provider' : δ → String) (attempts' : δ → List ProviderAttempt) :
    Except FallbackError γ → Except FallbackError δ → Prop
  | .ok x, .ok y => provider x = provider' y ∧
      (attempts x).map (·.untimed) = (attempts' y).map (·.untimed)
  | .error e, .error e' => SameError e e'
  | _, _ => False

abbrev SameFound : Except FallbackError (Found α) → Except FallbackError (Found β) → Prop :=
  SameResult (·.entry.name) (·.attempts) (·.entry.name) (·.attempts)

def RetryExit.Same : RetryExit (Found α) → RetryExit (Found β) → Prop
  | .returned r, .returned r' => SameFound r r'
  | .left last log, .left last' log' => last = last' ∧ log.Same log'
  | _, _ => False

variable {hα : (o : SearchOp) → σ → SearchAns α o × σ}
  {hβ : (o : SearchOp) → σ → SearchAns β o × σ} {view : σ → τ}

theorem Alike.searchRetries (h : Alike hα hβ view) (c : FallbackCall) (entry : ProviderEntry)
    (index : Nat) (guard : GuardId) (more : Bool) (left retry : Nat)
    (last : Option ProviderError) {log log' : AttemptLog} (hlog : log.Same log') (s : σ) :
    let r := (searchRetries entry index guard more left retry last log).run hα s
    let r' := (searchRetries entry index guard more left retry last log').run hβ s
    r.value.Same r'.value ∧ r.state = r'.state ∧
      r.trace.flatMap (searchVisible c) = r'.trace.flatMap (searchVisible c) := by
  rw [RustyGate.searchRetries, RustyGate.searchRetries]
  simp only [bind_eq_bind, perform_bind, pure_eq_ret, run_op]
  obtain ⟨hstate, houtcome⟩ := h.call ⟨index, retry⟩ entry s
  generalize hα (.call ⟨index, retry⟩ entry) s = answer at hstate houtcome ⊢
  generalize hβ (.call ⟨index, retry⟩ entry) s = answer' at hstate houtcome ⊢
  obtain ⟨⟨outcome, t⟩, s₁⟩ := answer
  obtain ⟨⟨outcome', t'⟩, s₁'⟩ := answer'
  obtain rfl : s₁ = s₁' := hstate
  have hpush := hlog.push entry.name (decide (0 < index)) t t' outcome.error
  match outcome, outcome', houtcome with
  | .served value, .served value', _ =>
      exact ⟨⟨rfl, hpush.1⟩, h.won _ _ _, rfl⟩
  | .empty, .empty, _ =>
      cases more with
      | true => exact ⟨⟨rfl, hpush⟩, h.quit _ _, rfl⟩
      | false => exact ⟨⟨rfl, hpush.1⟩, h.quit _ _, rfl⟩
  | .failed error, .failed _, rfl =>
      simp only
      cases fallbackDecision error with
      | stop => exact ⟨⟨rfl, hpush.1⟩, h.quit _ _, rfl⟩
      | tryNextProvider =>
          cases left with
          | zero => exact ⟨⟨rfl, hpush⟩, h.lost _ _ _, rfl⟩
          | succ left =>
              simp only [run_op, h.backoff]
              obtain ⟨hv, hs, ht⟩ := Alike.searchRetries h c entry index guard more left (retry + 1)
                (some error) hpush (hβ (.backoff ⟨index, retry⟩ entry.name) s₁).2
              exact ⟨hv, hs, congrArg _ ht⟩

theorem Alike.search (h : Alike hα hβ view) (c : FallbackCall) (budget : String → Nat)
    (candidates : List ProviderEntry) (index : Nat) (rejection : Option AdmissionRejection)
    {log log' : AttemptLog} (hlog : log.Same log') (s : σ) :
    let r := (search budget candidates index log rejection).run hα s
    let r' := (search budget candidates index log' rejection).run hβ s
    SameFound r.value r'.value ∧ view r.state = view r'.state ∧
      r.trace.flatMap (searchVisible c) = r'.trace.flatMap (searchVisible c) := by
  induction candidates generalizing index rejection log log' s with
  | nil => cases rejection <;> exact ⟨by trivial, rfl, rfl⟩
  | cons entry rest ih =>
      rw [RustyGate.search, RustyGate.search]
      simp only [bind_eq_bind, perform_bind, run_op, h.allow]
      generalize hβ (.allow index entry.name) s = answer
      obtain ⟨allowed, s₁⟩ := answer
      cases allowed with
      | false =>
          obtain ⟨hv, hs, ht⟩ := ih (index + 1) rejection hlog s₁
          exact ⟨hv, hs, congrArg _ ht⟩
      | true =>
          simp only [run_op, h.reserve]
          generalize hβ (.reserve index entry.name) s₁ = answer
          obtain ⟨reserved, s₂⟩ := answer
          cases reserved with
          | error rejected =>
              obtain ⟨hv, hs, ht⟩ := ih (index + 1) (some rejected) hlog s₂
              exact ⟨hv, hs, congrArg _ ht⟩
          | ok guard =>
              simp only [run_bind]
              have hretries := h.searchRetries c entry index guard (!rest.isEmpty)
                (budget entry.name) 0 none hlog s₂
              generalize (RustyGate.searchRetries entry index guard (!rest.isEmpty)
                (budget entry.name) 0 none log).run hα s₂ = r at hretries ⊢
              generalize (RustyGate.searchRetries entry index guard (!rest.isEmpty)
                (budget entry.name) 0 none log').run hβ s₂ = r' at hretries ⊢
              obtain ⟨trace, exit, s₃⟩ := r
              obtain ⟨trace', exit', s₃'⟩ := r'
              obtain ⟨hexit, rfl, htrace⟩ := hretries
              simp only at hexit htrace
              simp only [List.flatMap_append, List.flatMap_cons, htrace]
              cases exit with
              | returned result =>
                  cases exit' with
                  | left last' log₁' => exact hexit.elim
                  | returned result' =>
                      cases result with
                      | ok found =>
                          cases result' with
                          | ok found' => exact ⟨hexit, h.handOver guard s₃, rfl⟩
                          | error error' => exact hexit.elim
                      | error error =>
                          cases result' with
                          | ok found' => exact hexit.elim
                          | error error' =>
                              exact ⟨hexit, congrArg view (h.release guard s₃), rfl⟩
              | left last log₁ =>
                  cases exit' with
                  | returned result' => exact hexit.elim
                  | left last' log₁' =>
                      obtain ⟨rfl, hlog₁⟩ := hexit
                      cases last with
                      | none =>
                          simp only [run_op, h.release]
                          obtain ⟨hv, hs, ht⟩ := ih (index + 1) rejection hlog₁
                            (hβ (.release guard) s₃).2
                          exact ⟨hv, hs, by simp [searchVisible, searchCalls, ht]⟩
                      | some error =>
                          simp only [run_op, h.release]
                          cases rest with
                          | nil => exact ⟨⟨rfl, hlog₁.1⟩, rfl, rfl⟩
                          | cons next rest =>
                              obtain ⟨hv, hs, ht⟩ := ih (index + 1) rejection hlog₁
                                (hβ (.release guard) s₃).2
                              exact ⟨hv, hs, by simpa [searchVisible, searchCalls] using ht⟩

end Alike

/-! ## The two loops -/

/-- A call and the stream call that corresponds to it.  No stream is empty. -/
def Corresponds : Except ProviderError ChatCompletionResponse →
    Except ProviderError (ProviderStreamContext × ProviderStream) → Prop
  | .ok _, .ok (_, stream) => ∃ event, stream.next.1 = some (.ok event)
  | .error e, .ok (_, stream) => stream.next.1 = some (.error e)
  | .error e, .error e' => e = e'
  | .ok _, .error _ => False

theorem Corresponds.alike {chat : Except ProviderError ChatCompletionResponse}
    {stream : Except ProviderError (ProviderStreamContext × ProviderStream)}
    (h : Corresponds chat stream) :
    Outcome.Alike (match chat with
      | .ok response => .served response
      | .error error => .failed error) (streamOutcome stream) := by
  match chat, stream, h with
  | .ok _, .ok (_, stream), ⟨event, hevent⟩ =>
      rcases hnext : stream.next with ⟨first, rest⟩
      rw [hnext] at hevent
      obtain rfl : first = some (.ok event) := hevent
      simp [streamOutcome, hnext, Outcome.Alike]
  | .error e, .ok (_, stream), hevent =>
      rcases hnext : stream.next with ⟨first, rest⟩
      rw [Corresponds, hnext] at hevent
      obtain rfl : first = some (.error e) := hevent
      simp [streamOutcome, hnext, Outcome.Alike]
  | .error _, .error _, rfl => rfl

section World

variable (i : Nat) (outside : Answers) (now : Op → Nat)

@[simp] theorem state_recordPrefixAffinitySelection (f : PrefixFingerprintResult)
    (provider : String) (policy : RoutingPolicy) (w : World) :
    ((recordPrefixAffinitySelection f provider policy).run (World.handle i outside now) w).state =
      w := by
  unfold recordPrefixAffinitySelection
  split
  · cases f.fingerprint <;> rfl
  · rfl

/-- The two implementations on the same world answer the search alike. -/
theorem alike_handle (c : FallbackCall)
    (hcorr : ∀ site provider request, Corresponds (outside (.chatCompletion site provider request))
      (outside (.chatCompletionStream site provider request))) :
    Alike (answerBy (World.handle i outside now) (chatImpl c))
      (answerBy (World.handle i outside now) (streamImpl c)) World.registry where
  allow := fun _ _ _ => rfl
  reserve := fun _ _ _ => rfl
  call := fun site entry w => by
    have halike := (hcorr site entry.name (requestForProvider c.request entry.model)).alike
    simp only [answerBy, chatImpl, streamImpl, implement, chatCall, streamCall, bind_eq_bind,
      perform_bind, run_op, pure_eq_ret, World.handle]
    generalize outside (.chatCompletion site entry.name _) = chat at halike ⊢
    generalize outside (.chatCompletionStream site entry.name _) = stream at halike ⊢
    cases stream with
    | error error => cases chat <;> exact ⟨rfl, halike⟩
    | ok opened =>
        obtain ⟨context, stream⟩ := opened
        rcases hnext : stream.next with ⟨_ | _ | _, rest⟩ <;> cases chat <;>
          simp_all [streamOutcome, World.handle]
  won := fun index provider w => by
    simp only [answerBy, chatImpl, streamImpl, implement, bind_eq_bind, perform_bind, run_op,
      run_bind, run_ret, World.handle, state_recordPrefixAffinitySelection]
    rfl
  backoff := fun _ _ _ => rfl
  lost := fun _ _ _ => rfl
  quit := fun _ _ => rfl
  release := fun _ _ => rfl
  handOver := fun guard w => w.registry_drop guard

theorem SameResult.map {α β γ δ : Type} {p : γ → String} {l : γ → List ProviderAttempt}
    {p' : δ → String} {l' : δ → List ProviderAttempt} {f : α → γ} {g : β → δ}
    {x : Except FallbackError α} {y : Except FallbackError β}
    (h : SameResult (p ∘ f) (l ∘ f) (p' ∘ g) (l' ∘ g) x y) :
    SameResult p l p' l' (x.map f) (y.map g) := by
  match x, y, h with
  | .ok _, .ok _, h => exact h
  | .error _, .error _, h => exact h

/-- On any world and for any outcomes that correspond, the two loops end alike, show
the same in the same order, and leave the same circuits. -/
theorem completeChatStream_agrees (context : FallbackContext) (request : ChatCompletionRequest)
    (w : World)
    (hcorr : ∀ site provider request, Corresponds (outside (.chatCompletion site provider request))
      (outside (.chatCompletionStream site provider request))) :
    let chat := (completeChat context request).run (World.handle i outside now) w
    let stream := (completeChatStream context request).run (World.handle i outside now) w
    SameResult (·.providerName) (·.attempts) (·.providerName) (·.attempts)
        chat.value stream.value ∧
      chat.trace.flatMap visibleOf = stream.trace.flatMap visibleOf ∧
      chat.state.registry = stream.state.registry := by
  simp only [completeChat_eq, completeChatStream_eq, fallbackLoop, recordPrefixFingerprint,
    bind_eq_bind, perform_bind, run_op, List.flatMap_cons, visibleOf, callsOf, List.map_nil,
    List.nil_append]
  generalize hsel : World.handle i outside now (.candidateProviders request) _ = answer
  obtain ⟨selection, w'⟩ := answer
  obtain rfl : w = w' := (Prod.mk.inj hsel).2
  simp only [World.handle, run_bind, run_ret, List.append_nil]
  generalize FallbackCall.mk context request selection.effectivePolicy = c
  have hsame : AttemptLog.Same {} {} := ⟨rfl, rfl⟩
  obtain ⟨hvalue, hstate, htrace⟩ := (alike_handle i outside now c hcorr).search c c.budget
    selection.candidates 0 none hsame w
  rw [flatMap_interp (visible_chatImpl c _), flatMap_interp (visible_streamImpl c _),
    (run_interp _ _).1, (run_interp _ _).1, (run_interp _ _).2, (run_interp _ _).2]
  exact ⟨SameResult.map hvalue, htrace, hstate⟩

/-- A first candidate that fails, by the call or by the first item, and a second one
that serves. -/
theorem completeChatStream_agrees_secondServes :
    let response : ChatCompletionResponse := ⟨"id", "chat.completion", 0, "m", "p", [], {}⟩
    let outside := twoCandidates (fun _ => true)
      (fun index => if index = 0 then .error .timeout else .ok response)
      (fun index => .ok (⟨0, 0, "m"⟩,
        if index = 0 then [.item (.error .timeout)] else [.idle, .item (.ok (.completed {}))]))
    let w : World := { registry := .new {} (fun _ => none) [], limits := {} }
    ((completeChat plainContext plainRequest).run (World.handle 0 outside fun _ => 0)
        w).trace.flatMap visibleOf =
      ((completeChatStream plainContext plainRequest).run (World.handle 0 outside fun _ => 0)
        w).trace.flatMap visibleOf := by
  intro response outside w
  refine (completeChatStream_agrees 0 outside (fun _ => 0) plainContext plainRequest w ?_).2.1
  intro site provider request
  by_cases hsite : site.candidate = 0
  · simp [outside, twoCandidates, hsite, Corresponds, ProviderStream.next]
  · simp [outside, twoCandidates, hsite, Corresponds, ProviderStream.next]

end World
end RustyGate
