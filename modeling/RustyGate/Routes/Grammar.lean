/-
What a client of the streaming routes reads, to the end of the body.

Upstream, a stream is a list of items: the first event of the provider and what is polled
behind it.  The chunks in front of the first other item are passed on.  That item, or the
end of the list, says how the body is closed and what is recorded (`StreamFinish`).  The
chat route passes a chunk on as it is, under the id of the request.  The Responses route
passes the deltas of its choices on, as many as fit into `maxStreamOutputChars`.
-/
import RustyGate.Routes.Delivery

namespace RustyGate

open Effect Effect.Program Gateway

def yieldsOf : Event Ans → List SseEvent
  | ⟨.yield event, _⟩ => [event]
  | _ => []

/-- The events that a run hands out. -/
def yields (trace : List (Event Ans)) : List SseEvent := trace.flatMap yieldsOf

/-- What a request is counted as. -/
inductive ChatRecord where
  | success
  | failure (category : Option String)
  deriving DecidableEq

def chatRecordOf : MetricsUpdate → List ChatRecord
  | .recordChatSuccess .. => [.success]
  | .recordChatFailure _ _ category => [.failure category]
  | _ => []

def chatRecords (trace : List (Event Ans)) : List ChatRecord :=
  (trace.flatMap metricsOf).flatMap chatRecordOf

/-! ## How a stream is closed -/

/-- How a body is closed: the provider completed it, or it broke off.  Without an error
of the provider the client is told of a provider failure. -/
inductive StreamFinish where
  | completed (usage : TokenUsage)
  | broken (error : Option ProviderError) (outcome : StreamOutcome)
      (category : RequestErrorCategory)

namespace StreamFinish

def outcome : StreamFinish → StreamOutcome
  | .completed _ => .completed
  | .broken _ outcome _ => outcome

def chatRecord : StreamFinish → ChatRecord
  | .completed _ => .success
  | .broken _ _ category => .failure (some category.asStr)

/-- An item that cannot be passed on. -/
def undeliverable : StreamFinish := .broken none .midStreamFailure .providerBadResponse

end StreamFinish

section Items

variable (passes : ChatCompletionChunkResponse → Bool)

/-- The chunks in front of the first item that ends the stream. -/
def chunksBefore : List Poll → List ChatCompletionChunkResponse
  | .item (.ok (.chunk chunk)) :: rest =>
      if passes chunk then chunk :: chunksBefore rest else []
  | _ => []

/-- How the first item that is no chunk, or no chunk that can be passed on, ends the
stream. -/
def finishOf : List Poll → StreamFinish
  | [] => .broken none .incomplete .providerBadResponse
  | .item (.ok (.chunk chunk)) :: rest =>
      if passes chunk then finishOf rest else .undeliverable
  | .item (.ok (.completed usage)) :: _ => .completed usage
  | .item (.error error) :: _ =>
      .broken (some error) .midStreamFailure (.ofProvider (providerErrorCategory error))
  | .idle :: _ => .broken (some .timeout) .idleTimeout .timeout

end Items

/-- The deltas of the choices that carry content. -/
def contents (choices : List ChatChunkChoice) : List String :=
  choices.filterMap (·.delta.content)

/-- The deltas in front of the first item that ends the stream. -/
def deltasBefore (items : List Poll) : List String :=
  (chunksBefore (fun _ => true) items).flatMap fun chunk => contents chunk.choices

/-- The deltas that fit behind a text of `n` characters, up to the first that does not. -/
def fitting : Nat → List String → List String
  | _, [] => []
  | n, delta :: rest =>
      if maxStreamOutputChars < n + delta.length then []
      else delta :: fitting (n + delta.length) rest

/-- How the Responses route closes, behind a text of `n` characters. -/
def responseFinishOf (n : Nat) (items : List Poll) : StreamFinish :=
  if fitting n (deltasBefore items) = deltasBefore items then finishOf (fun _ => true) items
  else .undeliverable

namespace StreamJob

variable (job : StreamJob)

/-- The upstream items of a stream. -/
def items : List Poll := .item (.ok job.success.firstEvent) :: job.success.stream

def appError : Option ProviderError → AppError
  | some error => .fromProviderError error (some job.subject.requestId)
  | none => .providerFailure (some job.subject.requestId)

/-- A chunk as the chat route passes it on. -/
def chatChunk (chunk : ChatCompletionChunkResponse) : ChatCompletionChunkResponse :=
  { chunk with id := openaiId "chatcmpl" job.subject.requestId }

def chatPasses (chunk : ChatCompletionChunkResponse) : Bool :=
  job.subject.state.encodes (job.chatChunk chunk)

def chatClosing : StreamFinish → SseEvent
  | .completed _ => .done
  | .broken error _ _ => job.chatErrorEvent (job.appError error)

/-- What the chat route hands out for upstream items. -/
def chatBody (items : List Poll) : List SseEvent :=
  (chunksBefore job.chatPasses items).map (fun chunk => .chatChunk (job.chatChunk chunk)) ++
    [job.chatClosing (finishOf job.chatPasses items)]

def deltaEvent (delta : String) : SseEvent :=
  .responseTextDelta
    { itemId := openaiId "msg" job.subject.requestId
      outputIndex := 0
      contentIndex := 0
      delta := delta }

/-- What the Responses route hands out behind its deltas. -/
def responseClosing (text : String) : StreamFinish → List SseEvent
  | .completed usage =>
      [.responseCompleted (responseObject job.subject.requestId job.success.context.created
        job.success.context.model text usage), .done]
  | .broken error _ _ => [responseErrorEvent (job.appError error)]

/-- What the Responses route hands out for upstream items. -/
def responseBody (items : List Poll) : List SseEvent :=
  let deltas := fitting 0 (deltasBefore items)
  deltas.map job.deltaEvent ++
    job.responseClosing (String.join deltas) (responseFinishOf 0 items)

end StreamJob

/-- One outcome and one result are recorded, and the result is a success exactly if
`[DONE]` is handed out. -/
structure RecordedAs (finish : StreamFinish) (trace : List (Event Ans)) : Prop where
  outcome : outcomes trace = [finish.outcome.asStr]
  chatRecord : chatRecords trace = [finish.chatRecord]
  success_iff : chatRecords trace = [.success] ↔ SseEvent.done ∈ yields trace

/-! ## What a stretch of a run hands out and records -/

@[simp] theorem yields_nil : yields [] = [] := rfl

@[simp] theorem yields_cons (e : Event Ans) (t : List (Event Ans)) :
    yields (e :: t) = yieldsOf e ++ yields t := by
  simp [yields]

@[simp] theorem yields_append (t t' : List (Event Ans)) :
    yields (t ++ t') = yields t ++ yields t' := by
  simp [yields]

@[simp] theorem chatRecords_nil : chatRecords [] = [] := rfl

@[simp] theorem chatRecords_cons (e : Event Ans) (t : List (Event Ans)) :
    chatRecords (e :: t) = (metricsOf e).flatMap chatRecordOf ++ chatRecords t := by
  simp [chatRecords]

@[simp] theorem chatRecords_append (t t' : List (Event Ans)) :
    chatRecords (t ++ t') = chatRecords t ++ chatRecords t' := by
  simp [chatRecords]

theorem yieldsOf_isPlain {e : Event Ans} (h : e.op.isPlain = true) : yieldsOf e = [] := by
  obtain ⟨o, a⟩ := e
  cases o <;> first | rfl | cases h

variable {t : List (Event Ans)}

theorem Plain.yields_eq_nil (ht : Plain t) : yields t = [] :=
  ht.flatMap_eq_nil yieldsOf_isPlain

theorem Plain.chatRecords_eq_nil (ht : Plain t) : chatRecords t = [] := by
  rw [chatRecords, ht.flatMap_eq_nil metricsOf_isPlain]
  rfl

theorem outcomes_of_silent (ht : t.flatMap metricsOf = []) :
    outcomes t = [] := by
  rw [outcomes, ht]
  rfl

theorem chatRecords_of_silent (ht : t.flatMap metricsOf = []) :
    chatRecords t = [] := by
  rw [chatRecords, ht]
  rfl

/-! ## Deltas that fit -/

@[simp] theorem contents_nil : contents [] = [] := rfl

theorem contents_cons_none {choice : ChatChunkChoice} (rest : List ChatChunkChoice)
    (hcontent : choice.delta.content = none) : contents (choice :: rest) = contents rest :=
  List.filterMap_cons_none hcontent

theorem contents_cons_some {choice : ChatChunkChoice} {delta : String}
    (rest : List ChatChunkChoice) (hcontent : choice.delta.content = some delta) :
    contents (choice :: rest) = delta :: contents rest :=
  List.filterMap_cons_some hcontent

theorem deltasBefore_chunk (chunk : ChatCompletionChunkResponse) (rest : List Poll) :
    deltasBefore (.item (.ok (.chunk chunk)) :: rest) =
      contents chunk.choices ++ deltasBefore rest := rfl

theorem length_fitting_le (n : Nat) (deltas : List String) :
    (fitting n deltas).length ≤ deltas.length := by
  induction deltas generalizing n with
  | nil => exact Nat.le_refl 0
  | cons delta rest ih =>
      rw [fitting]
      split
      · exact Nat.zero_le _
      · exact Nat.succ_le_succ (ih _)

theorem fitting_eq_self_iff (n : Nat) (deltas : List String) :
    fitting n deltas = deltas ↔
      deltas = [] ∨ n + (String.join deltas).length ≤ maxStreamOutputChars := by
  induction deltas generalizing n with
  | nil => simp [fitting]
  | cons delta rest ih =>
      rw [fitting, String.join_cons, String.length_append]
      split
      · simp
        omega
      · have hrest := ih (n + delta.length)
        simp only [List.cons.injEq, true_and, hrest, List.cons_ne_nil, false_or, Nat.add_assoc]
        constructor
        · rintro (rfl | hfits)
          · simp
            omega
          · exact hfits
        · exact .inr

theorem fitting_append_of_eq {n : Nat} {deltas : List String} (hfits : fitting n deltas = deltas)
    (rest : List String) :
    fitting n (deltas ++ rest) = deltas ++ fitting (n + (String.join deltas).length) rest := by
  induction deltas generalizing n with
  | nil => simp
  | cons delta others ih =>
      rw [fitting] at hfits
      rw [List.cons_append, fitting, String.join_cons, String.length_append, ← Nat.add_assoc]
      split at hfits
      · cases hfits
      · rw [if_neg ‹_›, ih (List.cons.inj hfits).2, List.cons_append]

theorem fitting_append_of_ne {n : Nat} {deltas : List String} (hfits : fitting n deltas ≠ deltas)
    (rest : List String) : fitting n (deltas ++ rest) = fitting n deltas := by
  induction deltas generalizing n with
  | nil => exact absurd rfl hfits
  | cons delta others ih =>
      rw [fitting] at hfits
      rw [List.cons_append, fitting, fitting]
      split at hfits
      · rw [if_pos ‹_›, if_pos ‹_›]
      · rw [if_neg ‹_›, if_neg ‹_›, ih fun heq => hfits (congrArg _ heq)]

theorem fitting_append_eq_self_iff (n : Nat) (deltas rest : List String) :
    fitting n (deltas ++ rest) = deltas ++ rest ↔ fitting n deltas = deltas ∧
      fitting (n + (String.join deltas).length) rest = rest := by
  by_cases hfits : fitting n deltas = deltas
  · rw [fitting_append_of_eq hfits, List.append_cancel_left_eq]
    exact ⟨fun hrest => ⟨hfits, hrest⟩, And.right⟩
  · rw [fitting_append_of_ne hfits]
    refine ⟨fun heq => ?_, fun hboth => absurd hboth.1 hfits⟩
    have hlength := length_fitting_le n deltas
    rw [heq, List.length_append] at hlength
    obtain rfl : rest = [] := List.eq_nil_of_length_eq_zero (by omega)
    exact absurd (heq.trans (List.append_nil deltas)) hfits

theorem responseFinishOf_chunk_of_eq {n : Nat} {chunk : ChatCompletionChunkResponse}
    (hfits : fitting n (contents chunk.choices) = contents chunk.choices) (rest : List Poll) :
    responseFinishOf n (.item (.ok (.chunk chunk)) :: rest) =
      responseFinishOf (n + (String.join (contents chunk.choices)).length) rest := by
  simp only [responseFinishOf, deltasBefore_chunk, fitting_append_eq_self_iff, hfits, true_and]
  rfl

theorem responseFinishOf_chunk_of_ne {n : Nat} {chunk : ChatCompletionChunkResponse}
    (hfits : fitting n (contents chunk.choices) ≠ contents chunk.choices) (rest : List Poll) :
    responseFinishOf n (.item (.ok (.chunk chunk)) :: rest) = .undeliverable := by
  simp only [responseFinishOf, deltasBefore_chunk, fitting_append_eq_self_iff, hfits, false_and,
    if_false]

/-! ## The loop -/

namespace StreamJob

variable {σ τ : Type} (job : StreamJob)

/-- What the loop leaves to the bookkeeping. -/
def Reflects : StreamFinish → StreamEnd → Prop
  | .completed usage, finish => finish = job.completedWith usage
  | .broken _ outcome category, finish =>
      finish.failed = true ∧ finish.outcome = some outcome ∧ finish.errorCategory = some category

/-- A run of the loop: the events it hands out, what it has accumulated and how the
stream is closed. -/
structure Plays (events : List SseEvent) (x : τ) (closed : StreamFinish)
    (r : Run Ans (τ × StreamEnd) σ) : Prop where
  yields : yields r.trace = events
  silent : r.trace.flatMap metricsOf = []
  left : r.value.1 = x
  finish : job.Reflects closed r.value.2

/-- A turn of the loop, which goes on or closes the stream. -/
structure TurnPlays (events : List SseEvent) (x : τ) (closed : Option StreamFinish)
    (r : Run Ans (Turn τ) σ) : Prop where
  yields : RustyGate.yields r.trace = events
  silent : r.trace.flatMap metricsOf = []
  left : match closed, r.value with
    | none, .goOn x' => x' = x
    | some closed, .stop x' finish => x' = x ∧ job.Reflects closed finish
    | _, _ => False

/-- What follows a turn. -/
def resume (rest : τ → Gateway (τ × StreamEnd)) : Turn τ → Gateway (τ × StreamEnd)
  | .goOn x => rest x
  | .stop x finish => .ret (x, finish)

section Loop

variable {job} {h : (o : Op) → σ → Ans o × σ} {p : Gateway (Turn τ)}
  {rest : τ → Gateway (τ × StreamEnd)} {events events' : List SseEvent} {x x' : τ}
  {closed : StreamFinish} {s : σ}

/-- The turn goes on, and so does the loop behind it. -/
theorem TurnPlays.goOn (hturn : job.TurnPlays events x none (p.run h s))
    (hrest : ∀ s, job.Plays events' x' closed ((rest x).run h s)) :
    job.Plays (events ++ events') x' closed ((p.bind (resume rest)).run h s) := by
  rw [run_bind]
  generalize p.run h s = r at hturn ⊢
  obtain ⟨trace, value, s'⟩ := r
  obtain ⟨hyields, hsilent, hleft⟩ := hturn
  cases value with
  | stop y finish => exact hleft.elim
  | goOn y =>
      obtain rfl : y = x := hleft
      obtain ⟨hyields', hsilent', hx', hfinish⟩ := hrest s'
      refine ⟨?_, ?_, hx', hfinish⟩
      · rw [yields_append]
        exact congrArg₂ (· ++ ·) hyields hyields'
      · rw [List.flatMap_append]
        exact List.append_eq_nil_iff.mpr ⟨hsilent, hsilent'⟩

/-- The turn closes the stream. -/
theorem TurnPlays.stop (hturn : job.TurnPlays events x (some closed) (p.run h s)) :
    job.Plays events x closed ((p.bind (resume rest)).run h s) := by
  rw [run_bind]
  generalize p.run h s = r at hturn ⊢
  obtain ⟨trace, value, s'⟩ := r
  obtain ⟨hyields, hsilent, hleft⟩ := hturn
  cases value with
  | goOn y => exact hleft.elim
  | stop y finish =>
      simp only [resume, run_ret, List.append_nil]
      exact ⟨hyields, hsilent, hleft.1, hleft.2⟩

variable {provider : String} {turn : τ → Poll → Gateway (Turn τ)}
  {ended : τ → Gateway (τ × StreamEnd)} (body : List Poll → τ → List SseEvent)
  (accumulated : List Poll → τ → τ) (closing : List Poll → τ → StreamFinish)

/-- The rule for the loop: what holds of the end of the stream, and of a turn in front of
a rest for which it holds, holds of the whole. -/
theorem streamEvents_plays
    (hended : ∀ x s, job.Plays (body [] x) (accumulated [] x) (closing [] x) ((ended x).run h s))
    (hturn : ∀ poll polls {rest : τ → Gateway (τ × StreamEnd)},
      (∀ x s, job.Plays (body polls x) (accumulated polls x) (closing polls x)
        ((rest x).run h s)) →
      ∀ x s, job.Plays (body (poll :: polls) x) (accumulated (poll :: polls) x)
        (closing (poll :: polls) x) (((turn x poll).bind (resume rest)).run h s))
    (first : ProviderStreamEvent) (upstream : ProviderStream) (x : τ) (s : σ) :
    let items := .item (.ok first) :: upstream
    job.Plays (body items x) (accumulated items x) (closing items x)
      ((streamEvents provider turn ended first upstream x).run h s) := by
  refine hturn _ upstream ?_ x s
  -- Each further item is polled first, which hands out and records nothing.
  induction upstream with
  | nil =>
      intro x s
      obtain ⟨hyields, hsilent, hleft, hfinish⟩ := hended x (h (.pollStream provider) s).2
      exact ⟨hyields, hsilent, hleft, hfinish⟩
  | cons poll rest ih =>
      intro x s
      obtain ⟨hyields, hsilent, hleft, hfinish⟩ :=
        hturn poll rest ih x (h (.pollStream provider) s).2
      exact ⟨hyields, hsilent, hleft, hfinish⟩

end Loop

variable (h : (o : Op) → σ → Ans o × σ) (s : σ)

theorem breakOff_plays (event : AppError → SseEvent) (error : ProviderError)
    (outcome : StreamOutcome) (x : τ) :
    job.TurnPlays [event (job.appError (some error))] x
      (some (.broken (some error) outcome (.ofProvider (providerErrorCategory error))))
      ((do return .stop x (← job.breakOff event error outcome) : Gateway (Turn τ)).run h s) :=
  ⟨rfl, rfl, rfl, rfl, rfl, rfl⟩

theorem giveUp_plays (event : AppError → SseEvent) (outcome : StreamOutcome) (x : τ) :
    job.TurnPlays [event (job.appError none)] x
      (some (.broken none outcome .providerBadResponse))
      ((do return .stop x (← job.giveUp event outcome) : Gateway (Turn τ)).run h s) :=
  ⟨rfl, rfl, rfl, rfl, rfl, rfl⟩

/-! ## The chat route -/

theorem chatTurn_plays (poll : Poll) (polls : List Poll) {rest : Unit → Gateway (Unit × StreamEnd)}
    (hrest : ∀ x s, job.Plays (job.chatBody polls) x (finishOf job.chatPasses polls)
      ((rest x).run h s)) (x : Unit) (s : σ) :
    job.Plays (job.chatBody (poll :: polls)) x (finishOf job.chatPasses (poll :: polls))
      (((job.chatTurn x poll).bind (resume rest)).run h s) := by
  match poll with
  | .item (.ok (.chunk chunk)) =>
      have hpasses : job.chatPasses chunk = job.subject.state.encodes
          { chunk with id := openaiId "chatcmpl" job.subject.requestId } := rfl
      by_cases hencodes : job.chatPasses chunk = true
      · simp only [chatBody, finishOf, chunksBefore, if_pos hencodes]
        have hturn : job.TurnPlays [.chatChunk (job.chatChunk chunk)] x none
            ((job.chatTurn x (.item (.ok (.chunk chunk)))).run h s) := by
          rw [hpasses] at hencodes
          simp only [chatTurn, if_pos hencodes]
          exact ⟨rfl, rfl, rfl⟩
        exact hturn.goOn (hrest x)
      · simp only [chatBody, finishOf, chunksBefore, if_neg hencodes]
        apply TurnPlays.stop
        rw [hpasses] at hencodes
        simp only [chatTurn, if_neg hencodes]
        exact job.giveUp_plays h s job.chatErrorEvent .midStreamFailure x
  | .item (.ok (.completed usage)) => exact TurnPlays.stop ⟨rfl, rfl, rfl, rfl⟩
  | .item (.error error) =>
      exact TurnPlays.stop (job.breakOff_plays h s job.chatErrorEvent error .midStreamFailure x)
  | .idle =>
      exact TurnPlays.stop (job.breakOff_plays h s job.chatErrorEvent .timeout .idleTimeout x)

theorem chatEvents_plays :
    job.Plays (job.chatBody job.items) () (finishOf job.chatPasses job.items)
      ((streamEvents job.success.providerName job.chatTurn job.chatEnded
        job.success.firstEvent job.success.stream ()).run h s) := by
  refine streamEvents_plays (fun items _ => job.chatBody items) (fun _ x => x)
    (fun items _ => finishOf job.chatPasses items) ?_ ?_ _ _ () s
  · intro x s
    exact ⟨rfl, rfl, rfl, rfl, rfl, rfl⟩
  · intro poll polls rest hrest
    exact job.chatTurn_plays h poll polls hrest

/-! ## The Responses route -/

/-- What the loop hands out behind its deltas. -/
def errorEvents : StreamFinish → List SseEvent
  | .completed _ => []
  | .broken error _ _ => [responseErrorEvent (job.appError error)]

theorem TurnPlays.yield {job : StreamJob} {h : (o : Op) → σ → Ans o × σ} {p : Gateway (Turn τ)}
    {events : List SseEvent} {x : τ} {closed : Option StreamFinish} (event : SseEvent)
    (hplays : ∀ s, job.TurnPlays events x closed (p.run h s)) (s : σ) :
    job.TurnPlays (event :: events) x closed ((do ask (.yield event); p : Gateway _).run h s) := by
  obtain ⟨hyields, hsilent, hleft⟩ := hplays (h (.yield event) s).2
  exact ⟨congrArg (event :: ·) hyields, hsilent, hleft⟩

theorem responseChoices_fit (choices : List ChatChunkChoice) (text : String)
    (hfits : fitting text.length (contents choices) = contents choices) (s : σ) :
    job.TurnPlays ((contents choices).map job.deltaEvent) (text ++ String.join (contents choices))
      none ((job.responseChoices choices text).run h s) := by
  induction choices generalizing text s with
  | nil => exact ⟨rfl, rfl, (String.append_empty ..).symm⟩
  | cons choice rest ih =>
      rw [responseChoices]
      cases hcontent : choice.delta.content with
      | none =>
          rw [contents_cons_none rest hcontent] at hfits ⊢
          exact ih text hfits s
      | some delta =>
          rw [contents_cons_some rest hcontent] at hfits ⊢
          rw [fitting] at hfits
          split at hfits
          · cases hfits
          · have hrest := (List.cons.inj hfits).2
            rw [← String.length_append] at hrest
            simp only [if_neg ‹_›, List.map_cons, String.join_cons, ← String.append_assoc]
            exact TurnPlays.yield _ (ih (text ++ delta) hrest) s

theorem responseChoices_overflow (choices : List ChatChunkChoice) (text : String)
    (hfits : fitting text.length (contents choices) ≠ contents choices) (s : σ) :
    job.TurnPlays ((fitting text.length (contents choices)).map job.deltaEvent ++
        job.errorEvents .undeliverable)
      (text ++ String.join (fitting text.length (contents choices))) (some .undeliverable)
      ((job.responseChoices choices text).run h s) := by
  induction choices generalizing text s with
  | nil => exact absurd rfl hfits
  | cons choice rest ih =>
      rw [responseChoices]
      cases hcontent : choice.delta.content with
      | none =>
          rw [contents_cons_none rest hcontent] at hfits ⊢
          exact ih text hfits s
      | some delta =>
          rw [contents_cons_some rest hcontent] at hfits ⊢
          rw [fitting] at hfits ⊢
          by_cases hmax : maxStreamOutputChars < text.length + delta.length
          · simp only [if_pos hmax, List.map_nil, List.nil_append, String.join_nil,
              String.append_empty]
            exact job.giveUp_plays h s responseErrorEvent .midStreamFailure text
          · have hrest : fitting (text ++ delta).length (contents rest) ≠ contents rest := by
              rw [String.length_append]
              rw [if_neg hmax] at hfits
              exact fun heq => hfits (congrArg _ heq)
            have hplays := ih (text ++ delta) hrest
            rw [String.length_append] at hplays
            simp only [if_neg hmax, List.map_cons, List.cons_append, String.join_cons,
              ← String.append_assoc]
            exact TurnPlays.yield _ hplays s

/-- What the loop hands out behind a text. -/
def loopEvents (items : List Poll) (text : String) : List SseEvent :=
  (fitting text.length (deltasBefore items)).map job.deltaEvent ++
    job.errorEvents (responseFinishOf text.length items)

/-- The text at the end of the loop. -/
def loopText (items : List Poll) (text : String) : String :=
  text ++ String.join (fitting text.length (deltasBefore items))

theorem responseTurn_plays (poll : Poll) (polls : List Poll)
    {rest : String → Gateway (String × StreamEnd)}
    (hrest : ∀ text s, job.Plays (job.loopEvents polls text) (loopText polls text)
      (responseFinishOf text.length polls) ((rest text).run h s)) (text : String) (s : σ) :
    job.Plays (job.loopEvents (poll :: polls) text) (loopText (poll :: polls) text)
      (responseFinishOf text.length (poll :: polls))
      (((job.responseTurn text poll).bind (resume rest)).run h s) := by
  match poll with
  | .item (.ok (.chunk chunk)) =>
      by_cases hfits : fitting text.length (contents chunk.choices) = contents chunk.choices
      · rw [loopEvents, loopText, responseFinishOf_chunk_of_eq hfits, deltasBefore_chunk,
          fitting_append_of_eq hfits, List.map_append, String.join_append, List.append_assoc,
          ← String.append_assoc, ← String.length_append]
        exact (job.responseChoices_fit h chunk.choices text hfits s).goOn (hrest _)
      · rw [loopEvents, loopText, responseFinishOf_chunk_of_ne hfits, deltasBefore_chunk,
          fitting_append_of_ne hfits]
        exact (job.responseChoices_overflow h chunk.choices text hfits s).stop
  | .item (.ok (.completed usage)) =>
      exact TurnPlays.stop ⟨rfl, rfl, (String.append_empty ..).symm, rfl⟩
  | .item (.error error) =>
      rw [show loopText (.item (.error error) :: polls) text = text from String.append_empty ..]
      exact (job.breakOff_plays h s responseErrorEvent error .midStreamFailure text).stop
  | .idle =>
      rw [show loopText (.idle :: polls) text = text from String.append_empty ..]
      exact (job.breakOff_plays h s responseErrorEvent .timeout .idleTimeout text).stop

theorem responseEvents_plays :
    job.Plays (job.loopEvents job.items "") (loopText job.items "") (responseFinishOf 0 job.items)
      ((streamEvents job.success.providerName job.responseTurn job.responseEnded
        job.success.firstEvent job.success.stream "").run h s) := by
  refine streamEvents_plays job.loopEvents loopText (fun items text =>
    responseFinishOf text.length items) ?_ ?_ _ _ "" s
  · intro text s
    exact ⟨rfl, rfl, (String.append_empty ..).symm, rfl, rfl, rfl⟩
  · intro poll polls rest hrest
    exact job.responseTurn_plays h poll polls hrest

/-! ## Whole runs -/

/-- The bookkeeping of a stream that was closed in this way. -/
structure Books (closed : StreamFinish) (events : List SseEvent) (t : List (Event Ans)) :
    Prop where
  yields : RustyGate.yields t = events
  outcome : outcomes t = [closed.outcome.asStr]
  chatRecord : chatRecords t = [closed.chatRecord]

variable {finish : StreamEnd} {closed : StreamFinish}

theorem failure_books {error : Option ProviderError} {outcome : StreamOutcome}
    {category : RequestErrorCategory}
    (hreflects : job.Reflects (.broken error outcome category) finish)
    (latencyMs durationMs : UInt64) {logged : List (Event Ans)} (hlogged : Plain logged) :
    Books (.broken error outcome category) [] (failure finish latencyMs durationMs logged) := by
  obtain ⟨-, houtcome, hcategory⟩ := hreflects
  refine ⟨hlogged.yields_eq_nil, ?_, ?_⟩
  · show [(finish.outcome.getD .midStreamFailure).asStr] ++ outcomes logged = _
    rw [hlogged.outcomes_eq_nil, houtcome]
    rfl
  · show [ChatRecord.failure (some (finish.errorCategory.getD .providerBadResponse).asStr)] ++
      chatRecords logged = _
    rw [hlogged.chatRecords_eq_nil, hcategory]
    rfl

theorem completion_books (usage : TokenUsage) (latencyMs durationMs : UInt64)
    {logged : List (Event Ans)} (hlogged : Plain logged) :
    Books (.completed usage) [] (job.completion usage latencyMs durationMs logged) := by
  refine ⟨?_, job.outcomes_completion hlogged, ?_⟩
  · show RustyGate.yields (logged ++ _) = []
    rw [yields_append, hlogged.yields_eq_nil]
    rfl
  · show [ChatRecord.success] ++ chatRecords (logged ++ _) = _
    rw [chatRecords_append, hlogged.chatRecords_eq_nil]
    rfl

theorem recordChatStream_books (hreflects : job.Reflects closed finish) :
    Books closed [] ((job.recordChatStream finish).run h s).trace := by
  cases closed with
  | broken error outcome category =>
      obtain ⟨latencyMs, durationMs, logged, hlogged, htrace⟩ :=
        job.recordChatStream_failed h hreflects.1 s
      rw [htrace]
      exact job.failure_books hreflects latencyMs durationMs hlogged
  | completed usage =>
      obtain rfl : finish = job.completedWith usage := hreflects
      obtain ⟨latencyMs, durationMs, logged, hlogged, htrace⟩ :=
        job.recordChatStream_completed h usage s
      rw [htrace]
      exact job.completion_books usage latencyMs durationMs hlogged

/-- What the Responses route hands out behind its bookkeeping. -/
def completedEvents (text : String) : StreamFinish → List SseEvent
  | .completed usage =>
      [.responseCompleted (responseObject job.subject.requestId job.success.context.created
        job.success.context.model text usage), .done]
  | .broken _ _ _ => []

theorem finishResponseStream_books (hreflects : job.Reflects closed finish) (text : String) :
    Books closed (job.completedEvents text closed)
      ((job.finishResponseStream text finish).run h s).trace := by
  cases closed with
  | broken error outcome category =>
      obtain ⟨latencyMs, durationMs, logged, hlogged, htrace⟩ :=
        job.finishResponseStream_failed h hreflects.1 text s
      rw [htrace]
      exact job.failure_books hreflects latencyMs durationMs hlogged
  | completed usage =>
      obtain rfl : finish = job.completedWith usage := hreflects
      obtain ⟨latencyMs, durationMs, logged, hlogged, htrace⟩ :=
        job.finishResponseStream_completed h text usage s
      obtain ⟨hyields, houtcome, hrecord⟩ := job.completion_books usage latencyMs durationMs hlogged
      rw [htrace]
      refine ⟨?_, ?_, ?_⟩
      · rw [yields_append, hyields]
        rfl
      · rw [outcomes_append, houtcome]
        rfl
      · rw [chatRecords_append, hrecord]
        rfl

/-- The loop and the bookkeeping behind it. -/
theorem Plays.books {job : StreamJob} {r : Run Ans (τ × StreamEnd) σ}
    {events events' : List SseEvent} {x : τ} (hplays : job.Plays events x closed r)
    (hbooks : Books closed events' t) :
    Books closed (events ++ events') (r.trace ++ (t ++ job.guardDrops)) where
  yields := by
    have hguards : RustyGate.yields job.guardDrops = [] := rfl
    rw [yields_append, yields_append, hplays.yields, hbooks.yields, hguards, List.append_nil]
  outcome := by
    have hguards : outcomes job.guardDrops = [] := rfl
    rw [outcomes_append, outcomes_append, outcomes_of_silent hplays.silent, hbooks.outcome, hguards]
    rfl
  chatRecord := by
    have hguards : chatRecords job.guardDrops = [] := rfl
    rw [chatRecords_append, chatRecords_append, chatRecords_of_silent hplays.silent,
      hbooks.chatRecord, hguards]
    rfl

theorem chatEventStream_books :
    Books (finishOf job.chatPasses job.items) (job.chatBody job.items)
      (job.chatEventStream.run h s).trace := by
  have hloop := job.chatEvents_plays h s
  simp only [chatEventStream, bind_eq_bind, run_bind]
  generalize (streamEvents job.success.providerName job.chatTurn job.chatEnded
    job.success.firstEvent job.success.stream ()).run h s = r at hloop ⊢
  have hbooks := hloop.books (job.recordChatStream_books h r.state hloop.finish)
  rw [List.append_nil] at hbooks
  exact hbooks

theorem responseEventStream_books :
    Books (responseFinishOf 0 job.items) (job.responseBody job.items)
      (job.responseEventStream.run h s).trace := by
  have hloop := job.responseEvents_plays h s
  simp only [responseEventStream, bind_eq_bind, run_bind]
  generalize (streamEvents job.success.providerName job.responseTurn job.responseEnded
    job.success.firstEvent job.success.stream "").run h s = r at hloop ⊢
  have hbooks := hloop.books (job.finishResponseStream_books h r.state hloop.finish r.value.1)
  have hevents : job.loopEvents job.items "" ++
      job.completedEvents r.value.1 (responseFinishOf 0 job.items) =
      job.responseBody job.items := by
    rw [hloop.left, loopEvents, loopText, responseBody, List.append_assoc]
    simp only [String.empty_append, String.length_empty]
    congr 1
    cases responseFinishOf 0 job.items <;> rfl
  rw [hevents] at hbooks
  exact hbooks

theorem chatRecord_eq_success_iff (closed : StreamFinish) :
    closed.chatRecord = .success ↔ ∃ usage, closed = .completed usage := by
  cases closed <;> simp [StreamFinish.chatRecord]

theorem done_mem_chatBody_iff (items : List Poll) :
    SseEvent.done ∈ job.chatBody items ↔
      ∃ usage, finishOf job.chatPasses items = .completed usage := by
  rw [chatBody]
  cases finishOf job.chatPasses items <;> simp [chatClosing, chatErrorEvent]

theorem done_mem_responseBody_iff (items : List Poll) :
    SseEvent.done ∈ job.responseBody items ↔
      ∃ usage, responseFinishOf 0 items = .completed usage := by
  rw [responseBody]
  cases responseFinishOf 0 items <;> simp [responseClosing, responseErrorEvent, deltaEvent]

theorem Books.recordedAs {events : List SseEvent} (hbooks : Books closed events t)
    (hdone : SseEvent.done ∈ events ↔ ∃ usage, closed = .completed usage) :
    RecordedAs closed t where
  outcome := hbooks.outcome
  chatRecord := hbooks.chatRecord
  success_iff := by
    rw [hbooks.chatRecord, hbooks.yields, hdone, ← chatRecord_eq_success_iff, List.cons.injEq]
    exact and_iff_left rfl

end StreamJob

/-- If every chunk can be passed on and the deltas fit, both routes close alike. -/
theorem finishOf_eq_responseFinishOf {passes : ChatCompletionChunkResponse → Bool}
    {items : List Poll}
    (hpasses : ∀ chunk, .item (.ok (.chunk chunk)) ∈ items → passes chunk = true)
    (hfits : (String.join (deltasBefore items)).length ≤ maxStreamOutputChars) :
    finishOf passes items = responseFinishOf 0 items := by
  rw [responseFinishOf, if_pos ((fitting_eq_self_iff 0 _).mpr (.inr (by omega)))]
  clear hfits
  induction items with
  | nil => rfl
  | cons item rest ih =>
      match item with
      | .item (.ok (.chunk chunk)) =>
          rw [finishOf, finishOf, if_pos (hpasses chunk List.mem_cons_self), if_pos rfl]
          exact ih fun chunk hmem => hpasses chunk (List.mem_cons_of_mem _ hmem)
      | .item (.ok (.completed usage)) => rfl
      | .item (.error error) => rfl
      | .idle => rfl

/-- Read to the end, the chat route hands out the chunks in front of the item that ends
the stream and one closing event.  The Responses route hands out the deltas, then an error,
or the whole text and `[DONE]`.  Each records one outcome and one result.  On the same
items, all of which can be passed on, they record the same. -/
theorem event_streams_grammar {σ σ' : Type} (chat response : StreamJob)
    (h : (o : Op) → σ → Ans o × σ) (h' : (o : Op) → σ' → Ans o × σ') (s : σ) (s' : σ') :
    let chatTrace := (chat.chatEventStream.run h s).trace
    let responseTrace := (response.responseEventStream.run h' s').trace
    (yields chatTrace = chat.chatBody chat.items ∧
      RecordedAs (finishOf chat.chatPasses chat.items) chatTrace) ∧
    (yields responseTrace = response.responseBody response.items ∧
      RecordedAs (responseFinishOf 0 response.items) responseTrace) ∧
    (chat.items = response.items →
      (∀ chunk, .item (.ok (.chunk chunk)) ∈ chat.items → chat.chatPasses chunk = true) →
      (String.join (deltasBefore chat.items)).length ≤ maxStreamOutputChars →
      outcomes chatTrace = outcomes responseTrace ∧
        chatRecords chatTrace = chatRecords responseTrace) := by
  have hchat := chat.chatEventStream_books h s
  have hresponse := response.responseEventStream_books h' s'
  refine ⟨⟨hchat.yields, hchat.recordedAs (chat.done_mem_chatBody_iff _)⟩,
    ⟨hresponse.yields, hresponse.recordedAs (response.done_mem_responseBody_iff _)⟩,
    fun hitems hpasses hfits => ?_⟩
  have hclosed := finishOf_eq_responseFinishOf hpasses hfits
  rw [hchat.outcome, hchat.chatRecord, hresponse.outcome, hresponse.chatRecord, hclosed, hitems]
  exact ⟨rfl, rfl⟩

/-- A stream with one chunk, which the provider then breaks off. -/
def StreamJob.brokenJob : StreamJob :=
  { plainJob with
    success := { plainJob.success with
      firstEvent := .chunk (.fromDelta 3 1700000000 "m" "mock-primary" 0
        { role := some .assistant, content := some "a\n\ndata: b" } none)
      stream := [.item (.error .timeout)] } }

/-- Both routes hand out its text and an error. -/
theorem event_streams_grammar_broken :
    let chatTrace := (StreamJob.brokenJob.chatEventStream.run StreamJob.plainHandler ()).trace
    let responseTrace :=
      (StreamJob.brokenJob.responseEventStream.run StreamJob.plainHandler ()).trace
    (yields chatTrace).length = 2 ∧ (yields responseTrace).length = 2 ∧
      outcomes chatTrace = outcomes responseTrace ∧
        chatRecords chatTrace = chatRecords responseTrace := by
  intro chatTrace responseTrace
  obtain ⟨⟨hchat, -⟩, ⟨hresponse, -⟩, hsame⟩ := event_streams_grammar StreamJob.brokenJob
    StreamJob.brokenJob StreamJob.plainHandler StreamJob.plainHandler () ()
  refine ⟨congrArg List.length hchat, congrArg List.length hresponse, hsame rfl ?_ ?_⟩
  · intro chunk _
    rfl
  · decide +kernel

end RustyGate
