/-
The usage that the Anthropic provider hands on (`src/providers/anthropic.rs`).

The counts are the ones that were reported last, or estimates from the words where none were.
Their sum is taken in `u32`, in an answer and in a stream alike, so it is the total exactly if
it is less than `2 ^ 32`.
-/
import RustyGate.Providers.AnthropicRuns
import RustyGate.Providers.Completions

namespace RustyGate

/-- The output tokens in an event, those of a `message_start` included. -/
def AnthropicStreamEvent.anyOutput (event : AnthropicStreamEvent) : Option UInt32 :=
  if event.kind = "message_start" then (event.message.bind (·.usage)).map (·.outputTokens)
  else event.reportedOutput

/-- The usage has the two counts, and the total is their sum. -/
def TokenUsage.AddsUp (usage : TokenUsage) (promptTokens completionTokens : UInt32) : Prop :=
  usage.promptTokens = promptTokens ∧ usage.completionTokens = completionTokens ∧
    usage.totalTokens.toNat = promptTokens.toNat + completionTokens.toNat

instance (usage : TokenUsage) (promptTokens completionTokens : UInt32) :
    Decidable (usage.AddsUp promptTokens completionTokens) :=
  inferInstanceAs (Decidable (_ ∧ _ ∧ _))

/-- A sum in `u32`. -/
theorem TokenUsage.addsUp_iff (promptTokens completionTokens : UInt32) :
    (⟨promptTokens, completionTokens, promptTokens + completionTokens⟩ : TokenUsage).AddsUp
        promptTokens completionTokens ↔
      promptTokens.toNat + completionTokens.toNat < 2 ^ 32 := by
  unfold TokenUsage.AddsUp
  simp only [true_and, UInt32.toNat_add]
  constructor
  · intro hsum
    rw [← hsum]
    exact Nat.mod_lt _ (Nat.two_pow_pos 32)
  · exact Nat.mod_eq_of_lt

/-- The same for counts that may be others. -/
theorem TokenUsage.addsUp_other_iff (promptTokens completionTokens other : UInt32) :
    (⟨promptTokens, completionTokens, promptTokens + completionTokens⟩ : TokenUsage).AddsUp
        promptTokens other ↔
      other = completionTokens ∧ promptTokens.toNat + completionTokens.toNat < 2 ^ 32 := by
  constructor
  · rintro ⟨-, rfl, hsum⟩
    exact ⟨rfl, (addsUp_iff promptTokens completionTokens).mp ⟨rfl, rfl, hsum⟩⟩
  · rintro ⟨rfl, hfits⟩
    exact (addsUp_iff promptTokens other).mpr hfits

/-- The usages among the items of a stream. -/
def usagesOf (items : List StreamItem) : List TokenUsage :=
  items.filterMap fun item =>
    match item with
    | .ok (.completed usage) => some usage
    | _ => none

theorem usagesOf_chunkItems (chunks : List ChatCompletionChunkResponse) :
    usagesOf (chunkItems chunks) = [] := by
  rw [usagesOf, chunkItems, List.filterMap_eq_nil_iff]
  intro item hitem
  obtain ⟨chunk, -, rfl⟩ := List.mem_map.mp hitem
  rfl

/-- An answer in one piece has neither text nor tool calls. -/
def AnthropicMessagesResponse.Empty (parsed : AnthropicMessagesResponse) : Prop :=
  (anthropicContentToOpenaiMessage parsed.content).1 = "" ∧
    (anthropicContentToOpenaiMessage parsed.content).2 = none

namespace AnthropicProvider

variable {fromStr : List Char → Option AnthropicStreamEvent} (c : StreamCall)

/-- The text that some events carry. -/
def accumulatedText (fromStr : List Char → Option AnthropicStreamEvent)
    (events : List (List Char)) : String :=
  String.join (events.map (payloadText fromStr))

theorem accumulatedText_eq (events : List (List Char)) :
    accumulatedText fromStr events =
      String.join ((events.filterMap fromStr).map fun event => (textOf event).getD "") := by
  unfold accumulatedText
  induction events with
  | nil => rfl
  | cons eventData rest ih =>
      rw [List.map_cons, String.join_cons, ih, payloadText]
      cases hparsed : fromStr eventData with
      | none => rw [List.filterMap_cons_none hparsed, Option.bind_none, Option.getD_none,
          String.empty_append]
      | some parsed => rw [List.filterMap_cons_some hparsed, List.map_cons, String.join_cons,
          Option.bind_some]

/-- Without room for the text, the stream fails. -/
theorem handleEvents_tooLong {before : List (List Char)} {s : StreamState}
    (hs : s.completionText = "") (hbefore : Ordinary fromStr before)
    (hlong : maxStreamOutputChars < (accumulatedText fromStr before).length) :
    ∃ chunks error, handleEvents (handleEvent fromStr c) s before =
      (chunkItems chunks ++ [.error error], none) := by
  have hlen : s.completionText.length ≤ maxStreamOutputChars := by
    rw [hs]
    exact Nat.zero_le _
  refine handleEvents_of_some (translates fromStr c) hlen (fun e he => (hbefore.reading e he).1)
    fun hnone => ?_
  obtain ⟨-, hroom⟩ := (Reading.processed_eq_none_iff hlen).mp hnone
  exact absurd ((Nat.le_add_left _ _).trans hroom) (Nat.not_le.mpr hlong)

/-! ## What is handed on -/

/-- The count that was reported last, or else an estimate. -/
def lastReported (report : AnthropicStreamEvent → Option UInt32)
    (events : List AnthropicStreamEvent) (estimate : UInt32) : UInt32 :=
  (events.filterMap report).getLast?.getD estimate

/-- The usage of a stream whose text has room. -/
theorem usagesOf_stream {before : List (List Char)} {stop : List Char}
    (hbefore : Ordinary fromStr before) (hstop : Stops fromStr stop) :
    usagesOf (itemsOf (handleEvent fromStr c) { promptTokens := c.promptTokens }
        (before ++ [stop])) =
      if (accumulatedText fromStr before).length ≤ maxStreamOutputChars then
        let prompt := lastReported (·.reportedInput) (before.filterMap fromStr) c.promptTokens
        let completion := lastReported (·.reportedOutput) (before.filterMap fromStr)
          (estimateTokensForText (accumulatedText fromStr before))
        [⟨prompt, completion, prompt + completion⟩]
      else [] := by
  rw [itemsOf, handleEvents_append]
  by_cases hroom : (accumulatedText fromStr before).length ≤ maxStreamOutputChars
  · obtain ⟨chunks, s, hrun⟩ := handleEvents_goOn c { promptTokens := c.promptTokens } hbefore
      (by rwa [String.empty_append])
    obtain ⟨hprompt, hcompletion, htext, -, -⟩ := advanced_of_handleEvents c hrun
    rw [String.empty_append, ← accumulatedText_eq] at htext
    rw [Option.or_none] at hcompletion
    simp only [hrun, handleEvents, handleEvent_stop c hstop, messageStop]
    rw [if_pos hroom, usagesOf, List.filterMap_append, ← usagesOf, usagesOf_chunkItems, hprompt,
      hcompletion, htext]
    rfl
  · obtain ⟨chunks, error, hrun⟩ := handleEvents_tooLong (s := { promptTokens := c.promptTokens }) c
      rfl hbefore (Nat.lt_of_not_le hroom)
    simp only [hrun]
    rw [if_neg hroom, usagesOf, List.filterMap_append, ← usagesOf, usagesOf_chunkItems]
    rfl

/-- The usage of an answer in one piece. -/
theorem usage_chatCompletion (provider : AnthropicProvider) (request : ChatCompletionRequest)
    (responseId : Uuid) {response : Except TransportError (JsonResponse AnthropicMessagesResponse)}
    {parsed : AnthropicMessagesResponse} (hdecoded : JsonResponse.decoded response = .ok parsed)
    (hcontent : ¬ parsed.Empty) :
    let prompt := (parsed.usage.map (·.inputTokens)).getD
      (estimateTokensForMessages request.messages)
    let completion := (parsed.usage.map (·.outputTokens)).getD
      (estimateTokensForText (anthropicContentToOpenaiMessage parsed.content).1)
    ∃ answer, provider.chatCompletion request responseId response = .ok answer ∧
      answer.usage = ⟨prompt, completion, prompt + completion⟩ := by
  unfold chatCompletion
  rw [hdecoded]
  refine ⟨_, if_neg hcontent, ?_⟩
  cases parsed.usage <;> rfl

/-! A stream of three events, and an answer, with given counts. -/

def askClaude : ChatCompletionRequest := { model := none, messages := [] }

def claude : AnthropicProvider := ⟨"anthropic", "claude"⟩

/-- Decodes a `message_start`, a `message_delta` and a `message_stop`. -/
def decodeReports (input output : UInt32) (eventData : List Char) : Option AnthropicStreamEvent :=
  if eventData = "start".toList then
    some { kind := "message_start", message := some ⟨"claude", some ⟨input, 0⟩⟩ }
  else if eventData = "delta".toList then
    some { kind := "message_delta", usage := some ⟨0, output⟩ }
  else if eventData = "stop".toList then some { kind := "message_stop" }
  else none

def reportingUsages (input output : UInt32) : List TokenUsage :=
  usagesOf (itemsOf (handleEvent (decodeReports input output) (claude.streamCall 0 0 askClaude))
    { promptTokens := (claude.streamCall 0 0 askClaude).promptTokens }
    (["start".toList, "delta".toList] ++ ["stop".toList]))

def helloResponse (input output : UInt32) : AnthropicMessagesResponse where
  model := "claude"
  content := [{ kind := "text", text := some "Hello." }]
  usage := some ⟨input, output⟩

def reportingAnswer (input output : UInt32) : Except ProviderError ChatCompletionResponse :=
  claude.chatCompletion askClaude 0 (.ok ⟨200, some (helloResponse input output)⟩)

theorem ordinary_reports (input output : UInt32) :
    Ordinary (decodeReports input output) ["start".toList, "delta".toList] := by
  intro eventData hmem
  rcases List.mem_pair.mp hmem with rfl | rfl
  · exact ⟨_, rfl, by simp⟩
  · exact ⟨_, rfl, by simp⟩

/-- The usage that is handed on has the counts that were reported last, or else the estimates,
and the total is their sum exactly if the sum is less than `2 ^ 32`.  In a stream the output
tokens are reported by `message_delta`; those in a `message_start` are not looked at. -/
theorem usage_addsUp_iff (provider : AnthropicProvider) (request : ChatCompletionRequest)
    (responseId : Uuid) (created : Int) :
    (∀ response parsed, JsonResponse.decoded response = .ok parsed →
      let prompt := (parsed.usage.map (·.inputTokens)).getD
        (estimateTokensForMessages request.messages)
      let completion := (parsed.usage.map (·.outputTokens)).getD
        (estimateTokensForText (anthropicContentToOpenaiMessage parsed.content).1)
      let result := provider.chatCompletion request responseId response
      (parsed.Empty → result = .error .providerBadResponse) ∧
        (¬ parsed.Empty → ∃ answer, result = .ok answer ∧
          (answer.usage.AddsUp prompt completion ↔
            prompt.toNat + completion.toNat < 2 ^ 32))) ∧
      ∀ fromStr before stop, Ordinary fromStr before → Stops fromStr stop →
        let c := provider.streamCall responseId created request
        let events := before.filterMap fromStr
        let text := accumulatedText fromStr before
        let prompt := lastReported (·.reportedInput) events
          (estimateTokensForMessages request.messages)
        let completion := lastReported (·.reportedOutput) events (estimateTokensForText text)
        let anyCompletion := lastReported (·.anyOutput) events (estimateTokensForText text)
        let usages := usagesOf (itemsOf (handleEvent fromStr c) { promptTokens := c.promptTokens }
          (before ++ [stop]))
        (maxStreamOutputChars < text.length → usages = []) ∧
          (text.length ≤ maxStreamOutputChars → ∃ usage, usages = [usage] ∧
            (usage.AddsUp prompt completion ↔ prompt.toNat + completion.toNat < 2 ^ 32) ∧
            (usage.AddsUp prompt anyCompletion ↔
              anyCompletion = completion ∧ prompt.toNat + completion.toNat < 2 ^ 32)) := by
  constructor
  · intro response parsed hdecoded prompt completion result
    constructor
    · intro hempty
      show provider.chatCompletion request responseId response = _
      unfold chatCompletion
      rw [hdecoded]
      exact if_pos hempty
    · intro hcontent
      obtain ⟨answer, hanswer, husage⟩ :=
        usage_chatCompletion provider request responseId hdecoded hcontent
      refine ⟨answer, hanswer, ?_⟩
      rw [husage]
      exact TokenUsage.addsUp_iff prompt completion
  · intro fromStr before stop hbefore hstop c events text prompt completion anyCompletion usages
    have husages : usages = _ := usagesOf_stream c hbefore hstop
    constructor
    · intro hlong
      rw [husages, if_neg (Nat.not_le.mpr hlong)]
    · intro hroom
      rw [if_pos hroom] at husages
      refine ⟨_, husages, TokenUsage.addsUp_iff prompt completion, ?_⟩
      exact TokenUsage.addsUp_other_iff prompt completion anyCompletion

theorem usage_addsUp_fifteen :
    (∃ usage, reportingUsages 10 5 = [usage] ∧ usage.AddsUp 10 5) ∧
      ∃ answer, reportingAnswer 10 5 = .ok answer ∧ answer.usage.AddsUp 10 5 := by
  obtain ⟨hanswer, hstream⟩ := usage_addsUp_iff claude askClaude 0 0
  constructor
  · obtain ⟨usage, husages, hadds, -⟩ := (hstream (decodeReports 10 5) _ "stop".toList
      (ordinary_reports 10 5) ⟨_, rfl, rfl⟩).2 (by decide +kernel)
    exact ⟨usage, husages, hadds.mpr (by decide +kernel)⟩
  · have hcontent : ¬ (helloResponse 10 5).Empty := by
      unfold AnthropicMessagesResponse.Empty
      decide +kernel
    obtain ⟨answer, hok, hadds⟩ :=
      (hanswer (.ok ⟨200, some (helloResponse 10 5)⟩) (helloResponse 10 5) rfl).2 hcontent
    exact ⟨answer, hok, hadds.mpr (by decide)⟩

/-- The sum is lost in both, and a quota that counts the total sees nothing. -/
theorem usage_total_lost :
    reportingUsages 4294967295 1 = [⟨4294967295, 1, 0⟩] ∧
      (reportingAnswer 4294967295 1).map (·.usage) = .ok ⟨4294967295, 1, 0⟩ := by
  decide +kernel

end AnthropicProvider
end RustyGate
