/-
Which tool call the pieces of an input reach
(`src/providers/anthropic_tool_translation.rs`).

The translator knows one tool call, the one that was started last (`currentIndex_after`), and
it is not told which block a piece is for.  So a piece goes to the block that its event names
exactly if that is the `tool_use` block which was started last.
-/
import RustyGate.Providers.AnthropicRuns
import Mathlib.Data.List.Induction

namespace RustyGate

variable {event : AnthropicStreamEvent} {prior events : List AnthropicStreamEvent}
  {started : UInt32 × AnthropicContentBlock}

namespace AnthropicStreamEvent

/-- The block that an event starts, with its index. -/
def startedBlock (event : AnthropicStreamEvent) : Option (UInt32 × AnthropicContentBlock) :=
  if event.kind = "content_block_start" then
    event.index.bind fun index => event.contentBlock.map fun block => (index, block)
  else none

/-- The same for blocks of kind `tool_use`. -/
def startedTool (event : AnthropicStreamEvent) : Option (UInt32 × AnthropicContentBlock) :=
  event.startedBlock.filter fun started => started.2.kind = "tool_use"

/-- The piece of an input that an event carries. -/
def partialJson (event : AnthropicStreamEvent) : Option String :=
  if event.kind = "content_block_delta" then
    event.delta.bind fun delta =>
      if delta.kind = "input_json_delta" then delta.partialJson else none
  else none

theorem partialJson_of_startedTool (h : event.startedTool = some started) :
    event.partialJson = none := by
  obtain ⟨hstarted, -⟩ := Option.filter_eq_some_iff.mp h
  unfold startedBlock at hstarted
  split at hstarted
  · rename_i hkind
    simp [partialJson, hkind]
  · cases hstarted

end AnthropicStreamEvent

/-! ## What a sequence of events says -/

section Events

variable (prior : List AnthropicStreamEvent)

/-- The block that was started last under an index. -/
def blockAt (index : UInt32) : Option AnthropicContentBlock :=
  ((prior.filterMap (·.startedBlock)).filter fun started => started.1 = index).getLast?.map Prod.snd

/-- The indices under which tool calls have been started. -/
def startedTools : List UInt32 := (prior.filterMap (·.startedTool)).map Prod.fst

def lastTool : Option UInt32 := (startedTools prior).getLast?

/-- The index that an event names, if the block there is a `tool_use` block. -/
def ownTool (event : AnthropicStreamEvent) : Option UInt32 :=
  event.index.filter fun index => (blockAt prior index).any fun block => block.kind = "tool_use"

end Events

/-- The pieces for the `tool_use` blocks at an index, behind the events so far. -/
def ownPieces (index : UInt32) : List AnthropicStreamEvent → List AnthropicStreamEvent → List String
  | _, [] => []
  | prior, event :: rest =>
      (if ownTool prior event = some index then event.partialJson.toList else []) ++
        ownPieces index (prior ++ [event]) rest

/-- A piece is for the `tool_use` block that was started last, if any has been started. -/
def PiecesFollowStarts (events : List AnthropicStreamEvent) : Prop :=
  ∀ k (_ : k < events.length), events[k].partialJson.isSome →
    lastTool (events.take k) = ownTool (events.take k) events[k]

instance (events : List AnthropicStreamEvent) : Decidable (PiecesFollowStarts events) :=
  inferInstanceAs (Decidable (∀ k (_ : k < events.length), _ → _))

theorem ownPieces_concat (index : UInt32) (prior events : List AnthropicStreamEvent)
    (event : AnthropicStreamEvent) :
    ownPieces index prior (events ++ [event]) = ownPieces index prior events ++
      if ownTool (prior ++ events) event = some index then event.partialJson.toList else [] := by
  induction events generalizing prior with
  | nil => simp [ownPieces]
  | cons first rest ih => simp [ownPieces, ih]

theorem startedTools_concat (prior : List AnthropicStreamEvent) (event : AnthropicStreamEvent) :
    startedTools (prior ++ [event]) =
      startedTools prior ++ (event.startedTool.map Prod.fst).toList := by
  unfold startedTools
  cases h : event.startedTool <;> simp [h]

theorem lastTool_concat (prior : List AnthropicStreamEvent) (event : AnthropicStreamEvent) :
    lastTool (prior ++ [event]) = (event.startedTool.map Prod.fst).or (lastTool prior) := by
  rw [lastTool, startedTools_concat, List.getLast?_append, lastTool]
  cases event.startedTool <;> rfl

theorem piecesFollowStarts_concat (h : PiecesFollowStarts (prior ++ [event])) :
    PiecesFollowStarts prior ∧
      (event.partialJson.isSome → lastTool prior = ownTool prior event) := by
  constructor
  · intro k hk hpiece
    have hplace := h k (by rw [List.length_append]; omega)
    rw [List.getElem_append_left hk, List.take_append_of_le_length (Nat.le_of_lt hk)] at hplace
    exact hplace hpiece
  · have hlast := h prior.length (by rw [List.length_append, List.length_singleton]; omega)
    rw [List.getElem_concat_length rfl, List.take_left] at hlast
    exact hlast

/-- Only the index of a block that was started as a `tool_use` is an own one. -/
theorem mem_startedTool_of_ownTool {index : UInt32} (h : ownTool prior event = some index) :
    index ∈ startedTools prior := by
  obtain ⟨-, htool⟩ := Option.filter_eq_some_iff.mp h
  cases hblock : blockAt prior index with
  | none =>
      rw [hblock] at htool
      cases htool
  | some block =>
      have hkind : block.kind = "tool_use" := by simpa [hblock] using htool
      obtain ⟨started, hlast, rfl⟩ := Option.map_eq_some_iff.mp hblock
      obtain ⟨hmem, hindex⟩ := List.mem_filter.mp (List.mem_of_getLast? hlast)
      obtain ⟨start, hstart, hstarted⟩ := List.mem_filterMap.mp hmem
      refine List.mem_map.mpr ⟨started, List.mem_filterMap.mpr ⟨start, hstart, ?_⟩,
        of_decide_eq_true hindex⟩
      rw [AnthropicStreamEvent.startedTool, hstarted]
      exact Option.filter_eq_some_iff.mpr ⟨rfl, decide_eq_true hkind⟩

/-- Nothing is for a tool call that has not been started. -/
theorem ownPieces_of_not_started {index : UInt32} (h : index ∉ startedTools events) :
    ownPieces index [] events = [] := by
  induction events using List.reverseRecOn with
  | nil => rfl
  | append_singleton prior event ih =>
      rw [startedTools_concat, List.mem_append, not_or] at h
      have hown : ¬ ownTool ([] ++ prior) event = some index :=
        fun hown => h.1 (mem_startedTool_of_ownTool hown)
      rw [ownPieces_concat, ih h.1, if_neg hown, List.append_nil]

/-! ## What the translator makes of it -/

namespace AnthropicToolStreamTranslator

variable (t : AnthropicToolStreamTranslator)

theorem feedAll_append (events events' : List AnthropicStreamEvent) :
    t.feedAll (events ++ events') = t.feedAll events ++ (t.after events).feedAll events' := by
  induction events generalizing t with
  | nil => rfl
  | cons event rest ih =>
      rw [List.cons_append, feedAll, ih, feedAll, List.append_assoc]
      rfl

theorem feed_startedTool {index : UInt32} {block : AnthropicContentBlock}
    (h : event.startedTool = some (index, block)) :
    t.feed event = t.contentBlockStart index block ∧ block.kind = "tool_use" := by
  obtain ⟨hstarted, hkind⟩ := Option.filter_eq_some_iff.mp h
  refine ⟨?_, of_decide_eq_true hkind⟩
  unfold AnthropicStreamEvent.startedBlock at hstarted
  unfold feed
  split at hstarted
  · rename_i hstart
    obtain ⟨_, hindex, hblock⟩ := Option.bind_eq_some_iff.mp hstarted
    obtain ⟨_, hcontent, heq⟩ := Option.map_eq_some_iff.mp hblock
    cases heq
    rw [if_pos hstart, hindex, hcontent]
  · cases hstarted

theorem feed_partialJson {piece : String} (h : event.partialJson = some piece) :
    t.feed event = t.inputJsonDelta piece := by
  unfold AnthropicStreamEvent.partialJson at h
  unfold feed
  split at h
  · rename_i hkind
    have hstart : event.kind ≠ "content_block_start" := by simp [hkind]
    rw [if_neg hstart, if_pos hkind, h]
  · cases h

theorem feed_other (hstarted : event.startedTool = none) (hpiece : event.partialJson = none) :
    t.feed event = (none, t) := by
  unfold feed
  split
  · rename_i hkind
    split
    · rename_i index block hindex hblock
      have hother : block.kind ≠ "tool_use" := by
        intro htool
        simp [AnthropicStreamEvent.startedTool, AnthropicStreamEvent.startedBlock, hkind, hindex,
          hblock, htool] at hstarted
      rw [contentBlockStart, if_pos hother]
    · rfl
  · split
    · rename_i hkind
      rw [AnthropicStreamEvent.partialJson, if_pos hkind] at hpiece
      rw [hpiece]
    · rfl

theorem currentIndex_feed (event : AnthropicStreamEvent) :
    (t.feed event).2.currentIndex = (event.startedTool.map Prod.fst).or t.currentIndex := by
  cases hstarted : event.startedTool with
  | some started =>
      obtain ⟨hfeed, hkind⟩ := t.feed_startedTool hstarted
      rw [hfeed, contentBlockStart, if_neg (not_not.mpr hkind)]
      rfl
  | none =>
      cases hpiece : event.partialJson with
      | none => rw [feed_other t hstarted hpiece]; rfl
      | some piece =>
          rw [feed_partialJson t hpiece, inputJsonDelta]
          cases hindex : t.currentIndex with
          | none => exact hindex
          | some index => rfl

/-- The translator knows the tool call that was started last. -/
theorem currentIndex_after (prior : List AnthropicStreamEvent) :
    (({} : AnthropicToolStreamTranslator).after prior).currentIndex = lastTool prior := by
  induction prior using List.reverseRecOn with
  | nil => rfl
  | append_singleton prior event ih =>
      rw [lastTool_concat, ← ih, after, List.foldl_append]
      exact currentIndex_feed _ event

/-- So this is where a piece goes. -/
theorem feed_after_partialJson {piece : String} (h : event.partialJson = some piece) :
    ((({} : AnthropicToolStreamTranslator).after prior).feed event).1 =
      (lastTool prior).map fun index => { toolCalls := some [.ofPiece index piece] } := by
  rw [feed_partialJson _ h, inputJsonDelta, ← currentIndex_after prior]
  cases (({} : AnthropicToolStreamTranslator).after prior).currentIndex <;> rfl

end AnthropicToolStreamTranslator

/-! ## What a client collects -/

/-- The tool calls that a client has put together behind some events. -/
def accumulated (events : List AnthropicStreamEvent) : Nat → Option ToolCall :=
  foldDeltas (({} : AnthropicToolStreamTranslator).feedAll events) fun _ => none

/-- The arguments of the tool call under an index. -/
def argumentsAt (entries : Nat → Option ToolCall) (index : UInt32) : Option String :=
  (entries index.toNat).map (·.function.arguments)

theorem argumentsAt_addDelta (entries : Nat → Option ToolCall) (d : ToolCallDelta)
    (index : UInt32) :
    argumentsAt (addDelta entries d) index =
      if d.index = index then
        some ((argumentsAt entries index).getD "" ++ (d.function.bind (·.arguments)).getD "")
      else argumentsAt entries index := by
  unfold argumentsAt addDelta
  by_cases hindex : d.index = index
  · subst hindex
    rw [Function.update_self, if_pos rfl]
    cases entries d.index.toNat <;> rfl
  · have hne : index.toNat ≠ d.index.toNat := fun heq => hindex (UInt32.toNat_inj.mp heq).symm
    rw [Function.update_of_ne hne, if_neg hindex]

theorem accumulated_concat (prior : List AnthropicStreamEvent) (event : AnthropicStreamEvent) :
    accumulated (prior ++ [event]) =
      foldDeltas ((({} : AnthropicToolStreamTranslator).after prior).feed event).1.toList
        (accumulated prior) := by
  unfold accumulated
  rw [AnthropicToolStreamTranslator.feedAll_append, foldDeltas, List.flatMap_append,
    List.foldl_append, AnthropicToolStreamTranslator.feedAll,
    AnthropicToolStreamTranslator.feedAll, List.append_nil]
  rfl

theorem argumentsAt_startedTool (prior : List AnthropicStreamEvent)
    (h : event.startedTool = some started) (index : UInt32) :
    argumentsAt (accumulated (prior ++ [event])) index =
      if started.1 = index then some ((argumentsAt (accumulated prior) index).getD "")
      else argumentsAt (accumulated prior) index := by
  obtain ⟨hfeed, hkind⟩ :=
    (({} : AnthropicToolStreamTranslator).after prior).feed_startedTool h
  rw [accumulated_concat, hfeed, AnthropicToolStreamTranslator.contentBlockStart,
    if_neg (not_not.mpr hkind), Option.toList_some, foldDeltas_cons]
  refine (argumentsAt_addDelta _ _ index).trans ?_
  simp

theorem argumentsAt_partialJson (prior : List AnthropicStreamEvent) {piece : String}
    (h : event.partialJson = some piece) (index : UInt32) :
    argumentsAt (accumulated (prior ++ [event])) index =
      if lastTool prior = some index then
        some ((argumentsAt (accumulated prior) index).getD "" ++ piece)
      else argumentsAt (accumulated prior) index := by
  rw [accumulated_concat, AnthropicToolStreamTranslator.feed_after_partialJson h]
  cases lastTool prior with
  | none => rfl
  | some last =>
      rw [Option.map_some, Option.toList_some, foldDeltas_cons]
      refine (argumentsAt_addDelta _ _ index).trans ?_
      by_cases hlast : last = index <;> simp [ToolCallDelta.ofPiece, hlast]

theorem argumentsAt_other (prior : List AnthropicStreamEvent) (hstarted : event.startedTool = none)
    (hpiece : event.partialJson = none) (index : UInt32) :
    argumentsAt (accumulated (prior ++ [event])) index = argumentsAt (accumulated prior) index := by
  rw [accumulated_concat, AnthropicToolStreamTranslator.feed_other _ hstarted hpiece]
  rfl

theorem argumentsAt_accumulated (h : PiecesFollowStarts events) (index : UInt32) :
    argumentsAt (accumulated events) index =
      if index ∈ startedTools events then some (String.join (ownPieces index [] events))
      else none := by
  induction events using List.reverseRecOn with
  | nil => rfl
  | append_singleton prior event ih =>
      obtain ⟨hprior, hevent⟩ := piecesFollowStarts_concat h
      have hih := ih hprior
      rw [startedTools_concat, ownPieces_concat, List.nil_append]
      cases hstarted : event.startedTool with
      | some started =>
          rw [argumentsAt_startedTool prior hstarted, hih, Option.map_some, Option.toList_some,
            AnthropicStreamEvent.partialJson_of_startedTool hstarted, Option.toList_none, ite_self,
            List.append_nil]
          by_cases hindex : started.1 = index
          · subst hindex
            rw [if_pos rfl, if_pos (List.mem_append_right _ List.mem_cons_self)]
            by_cases hmem : started.1 ∈ startedTools prior
            · rw [if_pos hmem, Option.getD_some]
            · rw [if_neg hmem, ownPieces_of_not_started hmem]
              rfl
          · have hsame : index ∈ startedTools prior ++ [started.1] ↔
                index ∈ startedTools prior := by
              simp [Ne.symm hindex]
            rw [if_neg hindex, if_congr hsame rfl rfl]
      | none =>
          rw [Option.map_none, Option.toList_none, List.append_nil]
          cases hpiece : event.partialJson with
          | none =>
              rw [argumentsAt_other prior hstarted hpiece, hih, Option.toList_none, ite_self,
                List.append_nil]
          | some piece =>
              rw [argumentsAt_partialJson prior hpiece, hevent (Option.isSome_of_eq_some hpiece),
                hih]
              by_cases hown : ownTool prior event = some index
              · have hmem : index ∈ startedTools prior := mem_startedTool_of_ownTool hown
                rw [if_pos hown, if_pos hown, if_pos hmem, if_pos hmem, Option.getD_some,
                  Option.toList_some, String.join_append]
                simp
              · rw [if_neg hown, if_neg hown, List.append_nil]

/-- Behind a stream that has not ended, this is what its items make up. -/
theorem accumulated_items {fromStr : List Char → Option AnthropicStreamEvent} {c : StreamCall}
    {events : List (List Char)} {items : List StreamItem} {s : AnthropicProvider.StreamState}
    (h : handleEvents (AnthropicProvider.handleEvent fromStr c) { promptTokens := c.promptTokens }
      events = (items, some s)) :
    (toolCallsOf items).foldl addDelta (fun _ => none) =
      accumulated (events.filterMap fromStr) := by
  rw [(AnthropicProvider.advanced_of_handleEvents c h).toolCalls_eq]
  rfl

def blockStart (index : UInt32) (kind : String) : AnthropicStreamEvent where
  kind := "content_block_start"
  index := some index
  contentBlock := some { kind := kind, id := some "toolu_1", name := some "get_weather" }

def inputPiece (index : UInt32) (piece : String) : AnthropicStreamEvent where
  kind := "content_block_delta"
  index := some index
  delta := some { kind := "input_json_delta", partialJson := some piece }

/-- The pieces of inputs all go to the tool calls that their events name, and these get
nothing else, exactly if each piece is for the tool call that was started last. -/
theorem streamed_arguments_attributed_iff (events : List AnthropicStreamEvent) :
    ((∀ k (_ : k < events.length) (piece : String), events[k].partialJson = some piece →
        ((({} : AnthropicToolStreamTranslator).after (events.take k)).feed events[k]).1 =
          (ownTool (events.take k) events[k]).map fun index =>
            { toolCalls := some [{ index, function := some { arguments := some piece } }] }) ∧
      ∀ index, argumentsAt (accumulated events) index =
        if index ∈ startedTools events then some (String.join (ownPieces index [] events))
        else none) ↔
      PiecesFollowStarts events := by
  constructor
  · rintro ⟨hattributed, -⟩ k hk hpiece
    obtain ⟨piece, hpiece⟩ := Option.isSome_iff_exists.mp hpiece
    have hfeed := hattributed k hk piece hpiece
    rw [AnthropicToolStreamTranslator.feed_after_partialJson hpiece] at hfeed
    refine Option.map_injective ?_ hfeed
    intro index index' hsame
    have hcalls : ToolCallDelta.ofPiece index piece = .ofPiece index' piece := by simpa using hsame
    exact congrArg ToolCallDelta.index hcalls
  · intro h
    refine ⟨fun k hk piece hpiece => ?_, argumentsAt_accumulated h⟩
    rw [AnthropicToolStreamTranslator.feed_after_partialJson hpiece,
      h k hk (Option.isSome_of_eq_some hpiece)]
    rfl

theorem streamed_arguments_attributed_weather :
    let events := [blockStart 0 "text", blockStart 1 "tool_use", inputPiece 1 "[1,",
      inputPiece 1 "2]"]
    PiecesFollowStarts events ∧ ∀ index, argumentsAt (accumulated events) index =
      if index ∈ startedTools events then some (String.join (ownPieces index [] events))
      else none :=
  ⟨by decide +kernel, ((streamed_arguments_attributed_iff _).mpr (by decide +kernel)).2⟩

/-- A piece for the first of two tool calls goes to the second one, and the input of a tool
that the server runs goes to the tool call before it. -/
theorem piece_reaches_other_tool :
    let first := [blockStart 0 "tool_use", blockStart 1 "tool_use", inputPiece 0 "[1]"]
    let server := [blockStart 0 "tool_use", blockStart 1 "server_tool_use", inputPiece 1 "[1]"]
    (startedTools first = [0, 1] ∧ ownPieces 0 [] first = ["[1]"] ∧ ownPieces 1 [] first = [] ∧
        argumentsAt (accumulated first) 0 = some "" ∧
        argumentsAt (accumulated first) 1 = some "[1]") ∧
      startedTools server = [0] ∧ ownPieces 0 [] server = [] ∧
        argumentsAt (accumulated server) 0 = some "[1]" := by
  decide +kernel

end RustyGate
