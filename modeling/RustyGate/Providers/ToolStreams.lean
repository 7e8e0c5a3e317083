/-
Tool calls of Anthropic, streamed and in one piece
(`src/providers/anthropic_tool_translation.rs`).

In one piece, the tool calls are the `tool_use` blocks in their order.  Streamed, a client
puts the deltas of a tool call together under the index they carry, and that is the place
of the block among all blocks.  The two agree exactly if no other block is in front of a
`tool_use` block.
-/
import RustyGate.Providers.Anthropic

namespace RustyGate

/-! ## In one piece -/

/-- One turn of the loop over the blocks, with the text and the tool calls so far. -/
def contentStep (message : String × List ToolCall) (block : AnthropicContentBlock) :
    String × List ToolCall :=
  if block.kind = "text" then
    match block.text with
    | some text => (message.1 ++ text, message.2)
    | none => message
  else if block.kind = "tool_use" then
    match block.id, block.name with
    | some id, some name =>
        (message.1, message.2 ++ [{
          id := id
          kind := "function"
          function := { name := name, arguments := (block.input.getD (.object [])).toText } }])
    | _, _ => message
  else message

def anthropicContentToOpenaiMessage (blocks : List AnthropicContentBlock) :
    String × Option (List ToolCall) :=
  let (text, toolCalls) := blocks.foldl contentStep ("", [])
  (text, if toolCalls.isEmpty then none else some toolCalls)

/-- The tool call that a block is. -/
def AnthropicContentBlock.toolCall (block : AnthropicContentBlock) : Option ToolCall :=
  if block.kind = "tool_use" then
    block.id.bind fun id => block.name.map fun name =>
      { id := id
        kind := "function"
        function := { name := name, arguments := (block.input.getD (.object [])).toText } }
  else none

/-- The text that a block is. -/
def AnthropicContentBlock.textPart (block : AnthropicContentBlock) : String :=
  if block.kind = "text" then block.text.getD "" else ""

theorem foldl_contentStep (blocks : List AnthropicContentBlock) (message : String × List ToolCall) :
    blocks.foldl contentStep message =
      (message.1 ++ String.join (blocks.map (·.textPart)),
        message.2 ++ blocks.filterMap (·.toolCall)) := by
  induction blocks generalizing message with
  | nil => simp
  | cons block rest ih =>
      have hstep : contentStep message block =
          (message.1 ++ block.textPart, message.2 ++ block.toolCall.toList) := by
        unfold contentStep AnthropicContentBlock.textPart AnthropicContentBlock.toolCall
        by_cases htext : block.kind = "text"
        · cases block.text <;> simp [htext]
        · by_cases htool : block.kind = "tool_use"
          · cases block.id <;> cases block.name <;> simp [htool]
          · simp [htext, htool]
      rw [List.foldl_cons, ih, hstep, List.map_cons, String.join_cons, String.append_assoc,
        List.append_assoc]
      cases hcall : block.toolCall <;> simp [hcall]

/-- The tool calls of a message in one piece. -/
theorem toolCalls_anthropicContentToOpenaiMessage (blocks : List AnthropicContentBlock) :
    (anthropicContentToOpenaiMessage blocks).2.getD [] = blocks.filterMap (·.toolCall) := by
  simp only [anthropicContentToOpenaiMessage, foldl_contentStep, List.nil_append]
  cases hcalls : blocks.filterMap (·.toolCall) <;> rfl

/-! ## Streamed -/

namespace AnthropicToolStreamTranslator

/-- The deltas for a sequence of events. -/
def feedAll (t : AnthropicToolStreamTranslator) : List AnthropicStreamEvent → List ChatDelta
  | [] => []
  | event :: rest => (t.feed event).1.toList ++ (t.feed event).2.feedAll rest

end AnthropicToolStreamTranslator

/-! ## Put together by a client -/

/-- A delta on top of the tool call so far: what it says replaces, its arguments are
appended. -/
def ToolCallDelta.onto (d : ToolCallDelta) (call : ToolCall) : ToolCall where
  id := d.id.getD call.id
  kind := d.kind.getD call.kind
  function :=
    { name := (d.function.bind (·.name)).getD call.function.name
      arguments := call.function.arguments ++ (d.function.bind (·.arguments)).getD "" }

def ToolCall.blank : ToolCall := ⟨"", "", ⟨"", ""⟩⟩

/-- The tool call under the index of the delta is changed. -/
def addDelta (entries : Nat → Option ToolCall) (d : ToolCallDelta) : Nat → Option ToolCall :=
  Function.update entries d.index.toNat (some (d.onto ((entries d.index.toNat).getD .blank)))

/-- The tool calls of a streamed answer by their index, put together the OpenAI way. -/
def foldDeltas (deltas : List ChatDelta) (entries : Nat → Option ToolCall) :
    Nat → Option ToolCall :=
  (deltas.flatMap fun delta => delta.toolCalls.getD []).foldl addDelta entries

/-! ## The events of a list of blocks -/

/-- A text, or a tool use with an id, a name and an input. -/
def AnthropicContentBlock.WellFormed (block : AnthropicContentBlock) : Prop :=
  block.kind = "text" ∨
    block.kind = "tool_use" ∧ block.id.isSome ∧ block.name.isSome ∧ block.input.isSome

/-- The pieces of a block: a text, or the input as it is written. -/
def AnthropicContentBlock.Pieces (block : AnthropicContentBlock) (pieces : List String) : Prop :=
  String.join pieces =
    if block.kind = "text" then block.text.getD "" else (block.input.getD (.object [])).toText

instance (block : AnthropicContentBlock) (pieces : List String) : Decidable (block.Pieces pieces) :=
  inferInstanceAs (Decidable (_ = _))

def AnthropicContentBlock.deltaEvent (block : AnthropicContentBlock) (index : UInt32)
    (piece : String) : AnthropicStreamEvent where
  kind := "content_block_delta"
  index := some index
  delta := some (if block.kind = "text" then { kind := "text_delta", text := some piece }
    else { kind := "input_json_delta", partialJson := some piece })

def AnthropicContentBlock.startEvent (block : AnthropicContentBlock) (index : UInt32) :
    AnthropicStreamEvent where
  kind := "content_block_start"
  index := some index
  contentBlock := some block

/-- The events of the blocks from place `i` on: the start of each block, in which the text
and the input may be anything, then its pieces. -/
inductive EventsOf : Nat → List AnthropicContentBlock → List AnthropicStreamEvent → Prop
  | nil (i : Nat) : EventsOf i [] []
  | cons {i : Nat} {index : UInt32} {block : AnthropicContentBlock}
      {blocks : List AnthropicContentBlock} {events : List AnthropicStreamEvent}
      (hindex : index.toNat = i) (text : Option String) (input : Option Json)
      {pieces : List String} (hpieces : block.Pieces pieces)
      (hrest : EventsOf (i + 1) blocks events) :
      EventsOf i (block :: blocks)
        ({ block with text := text, input := input }.startEvent index ::
          (pieces.map (block.deltaEvent index) ++ events))

/-! ## What a block adds -/

section Blocks

variable (t : AnthropicToolStreamTranslator) {block : AnthropicContentBlock} (index : UInt32)
  (events : List AnthropicStreamEvent) (entries : Nat → Option ToolCall)

/-- The delta for a piece of an input. -/
def ToolCallDelta.ofPiece (piece : String) : ToolCallDelta where
  index := index
  function := some { arguments := some piece }

/-- The delta for the start of a tool use. -/
def ToolCallDelta.ofStart (id name : String) : ToolCallDelta where
  index := index
  id := some id
  kind := some "function"
  function := some { name := some name, arguments := some "" }

theorem foldDeltas_cons (delta : ChatDelta) (deltas : List ChatDelta) :
    foldDeltas (delta :: deltas) entries =
      foldDeltas deltas ((delta.toolCalls.getD []).foldl addDelta entries) := by
  simp only [foldDeltas, List.flatMap_cons, List.foldl_append]

/-- A text adds nothing. -/
theorem feedAll_text (hkind : block.kind = "text") (pieces : List String) (text : Option String)
    (input : Option Json) :
    t.feedAll ({ block with text := text, input := input }.startEvent index ::
      (pieces.map (block.deltaEvent index) ++ events)) = t.feedAll events := by
  have hstart :
      t.feed ({ block with text := text, input := input }.startEvent index) = (none, t) := by
    simp [AnthropicToolStreamTranslator.feed, AnthropicContentBlock.startEvent,
      AnthropicToolStreamTranslator.contentBlockStart, hkind]
  rw [AnthropicToolStreamTranslator.feedAll, hstart]
  show t.feedAll (pieces.map (block.deltaEvent index) ++ events) = _
  induction pieces with
  | nil => rfl
  | cons piece rest ih =>
      have hpiece : t.feed (block.deltaEvent index piece) = (none, t) := by
        simp [AnthropicToolStreamTranslator.feed, AnthropicContentBlock.deltaEvent, hkind]
      rw [List.map_cons, List.cons_append, AnthropicToolStreamTranslator.feedAll, hpiece]
      exact ih

/-- The pieces of an input are appended to the arguments of the tool call that was
started last. -/
theorem foldDeltas_pieces (hkind : block.kind = "tool_use") (hindex : t.currentIndex = some index)
    {call : ToolCall} (hcall : entries index.toNat = some call) (pieces : List String) :
    ∃ t', foldDeltas (t.feedAll (pieces.map (block.deltaEvent index) ++ events)) entries =
      foldDeltas (AnthropicToolStreamTranslator.feedAll t' events)
        (Function.update entries index.toNat (some { call with
          function := { call.function with
            arguments := call.function.arguments ++ String.join pieces } })) := by
  induction pieces generalizing t entries call with
  | nil =>
      refine ⟨t, ?_⟩
      rw [String.join_nil, String.append_empty, ← hcall, Function.update_eq_self]
      rfl
  | cons piece rest ih =>
      have hpiece : t.feed (block.deltaEvent index piece) =
          (some { toolCalls := some [.ofPiece index piece] },
            { t with currentArguments := t.currentArguments ++ piece }) := by
        simp [AnthropicToolStreamTranslator.feed, AnthropicContentBlock.deltaEvent, hkind,
          AnthropicToolStreamTranslator.inputJsonDelta, hindex, ToolCallDelta.ofPiece]
      rw [List.map_cons, List.cons_append, AnthropicToolStreamTranslator.feedAll, hpiece]
      simp only [Option.toList_some, List.singleton_append]
      rw [foldDeltas_cons]
      obtain ⟨t', ht'⟩ := ih { t with currentArguments := t.currentArguments ++ piece }
        (addDelta entries (.ofPiece index piece)) hindex (Function.update_self ..)
      refine ⟨t', ht'.trans ?_⟩
      simp only [addDelta, ToolCallDelta.onto, ToolCallDelta.ofPiece, hcall, Function.update_idem,
        Option.getD_some, Option.getD_none, Option.bind_some, String.join_cons,
        String.append_assoc]

/-- A tool use adds its tool call under the index of the block. -/
theorem foldDeltas_toolUse (hkind : block.kind = "tool_use") {id name : String} {json : Json}
    (hid : block.id = some id) (hname : block.name = some name) (hinput : block.input = some json)
    (hfree : entries index.toNat = none) {pieces : List String} (hpieces : block.Pieces pieces)
    (text : Option String) (input : Option Json) :
    ∃ t', foldDeltas (t.feedAll ({ block with text := text, input := input }.startEvent index ::
        (pieces.map (block.deltaEvent index) ++ events))) entries =
      foldDeltas (AnthropicToolStreamTranslator.feedAll t' events)
        (Function.update entries index.toNat block.toolCall) := by
  have hjoin : String.join pieces = json.toText := by
    rw [AnthropicContentBlock.Pieces, if_neg (by rw [hkind]; decide), hinput] at hpieces
    exact hpieces
  have hcall : block.toolCall = some ⟨id, "function", ⟨name, json.toText⟩⟩ := by
    simp [AnthropicContentBlock.toolCall, hkind, hid, hname, hinput]
  have hstart : t.feed ({ block with text := text, input := input }.startEvent index) =
      (some { role := some .assistant, toolCalls := some [.ofStart index id name] },
        ⟨some index, some id, some name, ""⟩) := by
    simp [AnthropicToolStreamTranslator.feed, AnthropicContentBlock.startEvent,
      AnthropicToolStreamTranslator.contentBlockStart, hkind, hid, hname, ToolCallDelta.ofStart]
  rw [AnthropicToolStreamTranslator.feedAll, hstart]
  simp only [Option.toList_some, List.singleton_append]
  rw [foldDeltas_cons]
  obtain ⟨t', ht'⟩ := foldDeltas_pieces ⟨some index, some id, some name, ""⟩ index events
    (addDelta entries (.ofStart index id name)) hkind rfl (Function.update_self ..) pieces
  refine ⟨t', ht'.trans ?_⟩
  simp [addDelta, ToolCallDelta.onto, ToolCallDelta.ofStart, ToolCall.blank, hfree, hjoin, hcall]

end Blocks

/-! ## Both numberings -/

/-- What is kept of a list has the places it had exactly if nothing is dropped in front of
something that is kept. -/
theorem getElem?_filterMap_iff {α β : Type} (f : α → Option β) (l : List α) :
    (∀ k : Nat, l[k]?.bind f = (l.filterMap f)[k]?) ↔
      l.Pairwise fun a b => f a = none → f b = none := by
  induction l with
  | nil => simp
  | cons a rest ih =>
      rw [List.pairwise_cons, ← ih]
      cases hfa : f a with
      | some b =>
          rw [List.filterMap_cons_some hfa]
          constructor
          · exact fun h => ⟨fun _ _ => nofun, fun k => h (k + 1)⟩
          · rintro ⟨-, h⟩ (_ | k)
            · exact hfa
            · exact h k
      | none =>
          rw [List.filterMap_cons_none hfa]
          constructor
          · intro h
            -- The place in front is empty, so everything behind it is dropped.
            have hfirst : (rest.filterMap f)[0]? = none := (h 0).symm.trans hfa
            have hempty : rest.filterMap f = [] := by
              rw [← List.head?_eq_getElem?, List.head?_eq_none_iff] at hfirst
              exact hfirst
            have hdropped : ∀ b ∈ rest, f b = none := List.filterMap_eq_nil_iff.mp hempty
            refine ⟨fun b hb _ => hdropped b hb, fun k => ?_⟩
            rw [hempty, List.getElem?_nil, Option.bind_eq_none_iff]
            exact fun b hb => hdropped b (List.mem_of_getElem? hb)
          · rintro ⟨hdropped, -⟩ k
            rw [List.filterMap_eq_nil_iff.mpr fun b hb => hdropped b hb rfl, List.getElem?_nil,
              Option.bind_eq_none_iff]
            intro b hb
            rcases List.mem_cons.mp (List.mem_of_getElem? hb) with rfl | hmem
            · exact hfa
            · exact hdropped b hmem rfl

theorem AnthropicContentBlock.WellFormed.toolCall_eq_none_iff {block : AnthropicContentBlock}
    (hformed : block.WellFormed) : block.toolCall = none ↔ block.kind = "text" := by
  rcases hformed with hkind | ⟨hkind, hid, hname, -⟩
  · simp [AnthropicContentBlock.toolCall, hkind]
  · obtain ⟨id, hid⟩ := Option.isSome_iff_exists.mp hid
    obtain ⟨name, hname⟩ := Option.isSome_iff_exists.mp hname
    simp [AnthropicContentBlock.toolCall, hkind, hid, hname]

/-- Streamed, a tool call is found under the place of its block. -/
theorem foldDeltas_feedAll {i : Nat} {blocks : List AnthropicContentBlock}
    {events : List AnthropicStreamEvent} (hevents : EventsOf i blocks events)
    (hformed : ∀ block ∈ blocks, block.WellFormed) (t : AnthropicToolStreamTranslator)
    (entries : Nat → Option ToolCall) (hfree : ∀ k, i ≤ k → entries k = none) (k : Nat) :
    foldDeltas (t.feedAll events) entries k =
      if k < i then entries k else blocks[k - i]?.bind (·.toolCall) := by
  induction hevents generalizing t entries with
  | nil i =>
      split
      · rfl
      · exact hfree k (by omega)
  | @cons i index block blocks events hindex text input pieces hpieces hrest ih =>
      have hrestFormed : ∀ other ∈ blocks, other.WellFormed :=
        fun other hother => hformed other (List.mem_cons_of_mem _ hother)
      have hstep : ∃ t', foldDeltas (t.feedAll
            ({ block with text := text, input := input }.startEvent index ::
              (pieces.map (block.deltaEvent index) ++ events))) entries =
          foldDeltas (AnthropicToolStreamTranslator.feedAll t' events)
            (Function.update entries i block.toolCall) := by
        rcases hformed block List.mem_cons_self with hkind | ⟨hkind, hid, hname, hinput⟩
        · refine ⟨t, ?_⟩
          rw [feedAll_text t index events hkind]
          have hnone : block.toolCall = none := by simp [AnthropicContentBlock.toolCall, hkind]
          rw [hnone, ← hfree i (Nat.le_refl i), Function.update_eq_self]
        · obtain ⟨id, hid⟩ := Option.isSome_iff_exists.mp hid
          obtain ⟨name, hname⟩ := Option.isSome_iff_exists.mp hname
          obtain ⟨json, hinput⟩ := Option.isSome_iff_exists.mp hinput
          subst hindex
          exact foldDeltas_toolUse t index events entries hkind hid hname hinput
            (hfree _ (Nat.le_refl _)) hpieces text input
      obtain ⟨t', ht'⟩ := hstep
      rw [ht', ih hrestFormed t' _ fun j hj => by
        rw [Function.update_of_ne (by omega)]
        exact hfree j (by omega)]
      rcases Nat.lt_trichotomy k i with hlt | rfl | hgt
      · rw [if_pos (by omega), if_pos hlt, Function.update_of_ne (by omega)]
      · rw [if_pos (by omega), if_neg (by omega), Function.update_self, Nat.sub_self]
        rfl
      · obtain ⟨d, rfl⟩ : ∃ d, k = i + 1 + d := ⟨k - (i + 1), by omega⟩
        rw [if_neg (by omega), if_neg (by omega), show i + 1 + d - i = d + 1 by omega,
          Nat.add_sub_cancel_left, List.getElem?_cons_succ]

/-- Streamed and in one piece, the tool calls are the same exactly if every block behind a
text is a text. -/
theorem streamed_toolCalls_agree_iff {blocks : List AnthropicContentBlock}
    (hformed : ∀ block ∈ blocks, block.WellFormed) {events : List AnthropicStreamEvent}
    (hevents : EventsOf 0 blocks events) :
    (∀ k : Nat, foldDeltas (AnthropicToolStreamTranslator.feedAll {} events) (fun _ => none) k =
        ((anthropicContentToOpenaiMessage blocks).2.getD [])[k]?) ↔
      blocks.Pairwise fun a b => a.kind = "text" → b.kind = "text" := by
  have hplaces : ∀ k : Nat, foldDeltas (AnthropicToolStreamTranslator.feedAll {} events)
      (fun _ => none) k = blocks[k]?.bind (·.toolCall) := by
    intro k
    rw [foldDeltas_feedAll hevents hformed {} _ (fun _ _ => rfl), if_neg (Nat.not_lt_zero k),
      Nat.sub_zero]
  simp only [hplaces, toolCalls_anthropicContentToOpenaiMessage]
  rw [getElem?_filterMap_iff]
  refine List.Pairwise.iff_of_mem fun {a b} ha hb => ?_
  rw [(hformed a ha).toolCall_eq_none_iff, (hformed b hb).toolCall_eq_none_iff]

/-- A tool use without arguments. -/
def weatherUse : AnthropicContentBlock :=
  { kind := "tool_use", id := some "call_1", name := some "weather", input := some (.object []) }

def lookText : AnthropicContentBlock := { kind := "text", text := some "I will look." }

/-- The events of a tool use without arguments, and those behind them. -/
def useEvents (block : AnthropicContentBlock) (index : UInt32)
    (events : List AnthropicStreamEvent) : List AnthropicStreamEvent :=
  { block with input := none }.startEvent index ::
    (["\x7b", "\x7d"].map (block.deltaEvent index) ++ events)

def timeUse : AnthropicContentBlock :=
  { weatherUse with id := some "call_2", name := some "time" }

theorem use_wellFormed : ∀ block ∈ [weatherUse, timeUse], block.WellFormed := by
  intro block hblock
  rcases List.mem_cons.mp hblock with rfl | hblock
  · exact .inr ⟨rfl, rfl, rfl, rfl⟩
  · rw [List.mem_singleton.mp hblock]
    exact .inr ⟨rfl, rfl, rfl, rfl⟩

/-- Two tool uses. -/
theorem streamed_toolCalls_agree_two :
    let streamed := foldDeltas (AnthropicToolStreamTranslator.feedAll {}
      (useEvents weatherUse 0 (useEvents timeUse 1 []))) (fun _ => none)
    streamed 0 = some ⟨"call_1", "function", ⟨"weather", "\x7b\x7d"⟩⟩ ∧
      streamed 1 = some ⟨"call_2", "function", ⟨"time", "\x7b\x7d"⟩⟩ := by
  have hevents : EventsOf 0 [weatherUse, timeUse]
      (useEvents weatherUse 0 (useEvents timeUse 1 [])) :=
    @EventsOf.cons 0 0 weatherUse _ _ rfl none none ["\x7b", "\x7d"] (by decide +kernel)
      (@EventsOf.cons 1 1 timeUse _ _ rfl none none ["\x7b", "\x7d"] (by decide +kernel) (.nil _))
  have hagree := (streamed_toolCalls_agree_iff use_wellFormed hevents).mpr (by decide +kernel)
  exact ⟨(hagree 0).trans (by decide +kernel), (hagree 1).trans (by decide +kernel)⟩

/-- Behind a text, the first tool call of the message is streamed as the second. -/
theorem streamed_toolCall_shifted :
    let blocks := [lookText, weatherUse]
    let events := lookText.startEvent 0 :: (["I will ", "look."].map (lookText.deltaEvent 0) ++
      useEvents weatherUse 1 [])
    let streamed := foldDeltas (AnthropicToolStreamTranslator.feedAll {} events) (fun _ => none)
    (∀ block ∈ blocks, block.WellFormed) ∧ EventsOf 0 blocks events ∧
      ((anthropicContentToOpenaiMessage blocks).2.getD [])[0]? =
        some ⟨"call_1", "function", ⟨"weather", "\x7b\x7d"⟩⟩ ∧
      streamed 0 = none ∧ streamed 1 = some ⟨"call_1", "function", ⟨"weather", "\x7b\x7d"⟩⟩ := by
  refine ⟨fun block hblock => ?_, ?_, by decide +kernel, by decide +kernel, by decide +kernel⟩
  · rcases List.mem_cons.mp hblock with rfl | hblock
    · exact .inl rfl
    · rw [List.mem_singleton.mp hblock]
      exact use_wellFormed weatherUse List.mem_cons_self
  · have hrest : EventsOf (0 + 1) [weatherUse] (useEvents weatherUse 1 []) :=
      @EventsOf.cons 1 1 weatherUse _ _ rfl none none ["\x7b", "\x7d"] (by decide +kernel) (.nil _)
    exact @EventsOf.cons 0 0 lookText _ _ rfl (some "I will look.") none _ (by decide +kernel) hrest

end RustyGate
