/-
The text of an event stream (`src/routes/chat.rs`, `src/routes/compat.rs`).

An event is a data line, with a line for its name in front of it on the Responses route, and
ends at an empty line.  Between events `axum` may send a comment to keep the connection open.
The data are JSON texts, which have no control characters, so nothing in them can end a line:
whatever the texts of an answer are, the events of the body are the data that were sent
(`eventsOf_bodyText`).
-/
import RustyGate.Models.ChatJson
import RustyGate.Providers.SseRuns
import RustyGate.Routes.Grammar

namespace RustyGate

open Text

/-! ## Payloads -/

def ResponseOutputContent.toJson (content : ResponseOutputContent) : Json :=
  .object [
    ("type", .string content.kind),
    ("text", .string content.text),
    ("annotations", .array content.annotations)]

def ResponseOutput.toJson (output : ResponseOutput) : Json :=
  .object [
    ("id", .string output.id),
    ("type", .string output.kind),
    ("status", .string output.status),
    ("role", .string output.role),
    ("content", .array (output.content.map ResponseOutputContent.toJson))]

def ResponseUsage.toJson (usage : ResponseUsage) : Json :=
  .object [
    ("input_tokens", .number (toString usage.inputTokens.toNat)),
    ("output_tokens", .number (toString usage.outputTokens.toNat)),
    ("total_tokens", .number (toString usage.totalTokens.toNat))]

def ResponseObject.toJson (response : ResponseObject) : Json :=
  .object [
    ("id", .string response.id),
    ("object", .string response.object),
    ("created_at", .number (toString response.createdAt)),
    ("status", .string response.status),
    ("model", .string response.model),
    ("output", .array (response.output.map ResponseOutput.toJson)),
    ("usage", response.usage.toJson)]

namespace SseEvent

/-- The payload of an event as JSON.  The two errors are written by `json!`, whose objects
have their keys in order. -/
def toJson : SseEvent → Option Json
  | .chatChunk chunk => some chunk.toJson
  | .chatError message requestId => some (.object [
      ("error", .object [
        ("code", .string "provider_failure"),
        ("message", .string message),
        ("request_id", .string (uuidText requestId))])])
  | .responseTextDelta payload => some (.object [
      ("type", .string "response.output_text.delta"),
      ("item_id", .string payload.itemId),
      ("output_index", .number (toString payload.outputIndex.toNat)),
      ("content_index", .number (toString payload.contentIndex.toNat)),
      ("delta", .string payload.delta)])
  | .responseCompleted response => some (.object [
      ("type", .string "response.completed"),
      ("response", response.toJson)])
  | .responseError message => some (.object [
      ("error", .object [
        ("code", .string "provider_failure"),
        ("message", .string message),
        ("type", .string "server_error")]),
      ("type", .string "error")])
  | .done => none

/-- The name of an event of the Responses route. -/
def name : SseEvent → Option String
  | .responseTextDelta _ => some "response.output_text.delta"
  | .responseCompleted _ => some "response.completed"
  | .responseError _ => some "error"
  | .chatChunk _ | .chatError _ _ | .done => none

def payload (event : SseEvent) : List Char :=
  match event.toJson with
  | some j => j.render
  | none => "[DONE]".toList

/-- The line with the name. -/
def nameLine (event : SseEvent) : List Char :=
  match event.name with
  | some name => "event: ".toList ++ name.toList ++ ['\n']
  | none => []

end SseEvent

/-- What stands between two empty lines of a body. -/
inductive Frame where
  | keepAlive
  | event (e : SseEvent)

namespace Frame

def raw : Frame → List Char
  | keepAlive => [':']
  | event e => e.nameLine ++ "data: ".toList ++ e.payload

def text (frame : Frame) : List Char := frame.raw ++ ['\n', '\n']

/-- The data a reader of the body gets. -/
def payload? : Frame → Option (List Char)
  | keepAlive => none
  | event e => some e.payload

def event? : Frame → Option SseEvent
  | keepAlive => none
  | event e => some e

end Frame

def bodyText (frames : List Frame) : List Char := frames.flatMap Frame.text

/-- The payload can be read back. -/
def SseEvent.WellFormed (event : SseEvent) : Prop :=
  ∀ j, event.toJson = some j → j.Readable Json.maxDepth

/-! ## One line -/

theorem not_mem_of_printable {text : List Char} (h : Json.Printable text) : '\n' ∉ text := by
  intro hmem
  exact absurd (h '\n' hmem) (by decide)

variable {e : SseEvent} {frames : List Frame} {frameSize chunkSize : Nat}

/-- An object is a line that begins with its bracket. -/
theorem SseEvent.payload_line (h : e.WellFormed) :
    '\n' ∉ e.payload ∧ ∃ c rest, e.payload = c :: rest ∧ isWhitespace c = false := by
  unfold payload
  cases hj : e.toJson with
  | none => exact ⟨by decide, '[', _, rfl, by decide⟩
  | some j =>
      refine ⟨not_mem_of_printable (Json.printable_render (h j hj).wellFormed), '\x7b', ?_⟩
      cases e with
      | done => cases hj
      | _ =>
          obtain rfl := Option.some.inj hj
          exact ⟨_, rfl, by decide⟩

theorem cut_line {line : List Char} (h : '\n' ∉ line) (t : List Char) :
    Delimited.cut eventDelimiter (line ++ t) =
      (Delimited.cut eventDelimiter t).map fun found => (line ++ found.1, found.2) := by
  induction line with
  | nil => simp
  | cons c line ih =>
      have hc : '\n' ≠ c := fun he => h (he ▸ List.mem_cons_self)
      have hline : '\n' ∉ line := fun hmem => h (List.mem_cons_of_mem c hmem)
      rw [List.cons_append, Delimited.cut, if_neg (by simp [eventDelimiter, hc]), ih hline,
        Option.map_map]
      rfl

/-- A line feed in front of another line does not end an event. -/
theorem cut_feed {c : Char} (hc : c ≠ '\n') (t : List Char) :
    Delimited.cut eventDelimiter ('\n' :: c :: t) =
      (Delimited.cut eventDelimiter (c :: t)).map fun found => ('\n' :: found.1, found.2) := by
  rw [Delimited.cut, if_neg]
  simp [eventDelimiter, hc.symm]

theorem cut_end (t : List Char) :
    Delimited.cut eventDelimiter ('\n' :: '\n' :: t) = some ([], t) := by
  simp [Delimited.cut, eventDelimiter]

theorem splitOn_line {line : List Char} (h : '\n' ∉ line) : line.splitOn '\n' = [line] := by
  refine List.splitOnP_eq_singleton fun c hc => ?_
  simp only [beq_eq_false_iff_ne, ne_eq]
  rintro rfl
  exact h hc

theorem lines_line {line : List Char} (h : '\n' ∉ line) (hne : line ≠ []) :
    lines line = [line] := by
  unfold lines
  rw [splitOn_line h]
  simp [hne]

/-- Behind a first line the others are as they would be without it, but for what it ends
with. -/
theorem lines_cons_line {first second : List Char} (hfirst : '\n' ∉ first)
    (hsecond : '\n' ∉ second) (hne : second ≠ []) :
    lines (first ++ '\n' :: second) = [stripCarriageReturn first, second] := by
  have hsplit : (first ++ '\n' :: second).splitOn '\n' = [first, second] := by
    have hfeed : ('\n' == '\n') = true := rfl
    have hcut := List.splitOnP_append_cons (p := (· == '\n')) first second hfeed
    have hparts : first.splitOn '\n' ++ second.splitOn '\n' = [first, second] := by
      rw [splitOn_line hfirst, splitOn_line hsecond]
      rfl
    exact hcut.trans hparts
  unfold lines
  rw [hsplit]
  simp [hne]

/-! ## Frames -/

/-- The payload is the data of a line. -/
theorem trimStart_payload (h : e.WellFormed) :
    trimStart (' ' :: e.payload) = e.payload := by
  obtain ⟨-, c, rest, hpayload, hc⟩ := e.payload_line h
  have hspace : isWhitespace ' ' = true := by decide
  rw [hpayload]
  simp [trimStart, hspace, hc]

theorem parse_dataLine (h : e.WellFormed) (others : List (List Char))
    (hothers : others.filterMap (·.dropPrefix? "data:".toList) = []) :
    ((((others ++ ["data: ".toList ++ e.payload]).filterMap
      (·.dropPrefix? "data:".toList)).map trimStart).filter fun line => !line.isEmpty) =
        [e.payload] := by
  have hdrop : ("data: ".toList ++ e.payload).dropPrefix? "data:".toList =
      some (' ' :: e.payload) := rfl
  obtain ⟨-, c, rest, hpayload, -⟩ := e.payload_line h
  have hdata : ["data: ".toList ++ e.payload].filterMap (·.dropPrefix? "data:".toList) =
      [' ' :: e.payload] := by
    rw [List.filterMap_cons, hdrop]
    rfl
  rw [List.filterMap_append, hothers, List.nil_append, hdata, List.map_singleton,
    trimStart_payload h, hpayload]
  rfl

/-- The line for the name, without its end. -/
theorem SseEvent.nameLine_cases (e : SseEvent) : e.nameLine = [] ∨
    ∃ line, e.nameLine = line ++ ['\n'] ∧ '\n' ∉ line ∧ stripCarriageReturn line = line ∧
      line.dropPrefix? "data:".toList = none := by
  have hnamed : ∀ name ∈ ["response.output_text.delta", "response.completed", "error"],
      ∃ line, "event: ".toList ++ name.toList ++ ['\n'] = line ++ ['\n'] ∧ '\n' ∉ line ∧
        stripCarriageReturn line = line ∧ line.dropPrefix? "data:".toList = none := by
    intro name hname
    refine ⟨"event: ".toList ++ name.toList, rfl, ?_⟩
    revert name
    decide
  cases e with
  | chatChunk chunk => exact Or.inl rfl
  | chatError message requestId => exact Or.inl rfl
  | done => exact Or.inl rfl
  | responseTextDelta delta => exact Or.inr (hnamed _ (by decide))
  | responseCompleted response => exact Or.inr (hnamed _ (by decide))
  | responseError message => exact Or.inr (hnamed _ (by decide))

namespace Frame

def WellFormed (frame : Frame) : Prop := ∀ e, frame.event? = some e → e.WellFormed

variable {frame : Frame}

theorem parseEventData_raw (h : frame.WellFormed) : parseEventData frame.raw = frame.payload? := by
  cases frame with
  | keepAlive => decide
  | event e =>
      have he := h e rfl
      have hline : '\n' ∉ "data: ".toList ++ e.payload := by
        rw [List.mem_append, not_or]
        exact ⟨by decide, (e.payload_line he).1⟩
      show parseEventData (e.nameLine ++ "data: ".toList ++ e.payload) = some e.payload
      unfold parseEventData
      rw [List.append_assoc]
      rcases e.nameLine_cases with hname | ⟨name, hname, hfeed, hstrip, hdrop⟩
      · rw [hname, List.nil_append, lines_line hline (by simp)]
        have hdata := parse_dataLine he [] rfl
        rw [List.nil_append] at hdata
        rw [hdata]
        simp [List.intercalate]
      · rw [hname, List.append_assoc, List.singleton_append,
          lines_cons_line hfeed hline (by simp), hstrip]
        have hdata := parse_dataLine he [name] (by rw [List.filterMap_cons, hdrop]; rfl)
        rw [List.singleton_append] at hdata
        rw [hdata]
        simp [List.intercalate]

theorem cut_text (h : frame.WellFormed) (rest : List Char) :
    Delimited.cut eventDelimiter (frame.text ++ rest) = some (frame.raw, rest) := by
  cases frame with
  | keepAlive =>
      show Delimited.cut eventDelimiter ([':'] ++ '\n' :: '\n' :: rest) = _
      rw [cut_line (by decide), cut_end]
      rfl
  | event e =>
      have hline : '\n' ∉ "data: ".toList ++ e.payload := by
        rw [List.mem_append, not_or]
        exact ⟨by decide, (e.payload_line (h e rfl)).1⟩
      have htext : (event e).text ++ rest =
          e.nameLine ++ (("data: ".toList ++ e.payload) ++ '\n' :: '\n' :: rest) := by
        simp [text, raw]
      rw [htext]
      show _ = some (e.nameLine ++ "data: ".toList ++ e.payload, rest)
      rcases e.nameLine_cases with hname | ⟨name, hname, hfeed, -⟩
      · rw [hname, List.nil_append, cut_line hline, cut_end]
        simp
      · have hnext : Delimited.cut eventDelimiter ('\n' :: (("data: ".toList ++ e.payload) ++
            '\n' :: '\n' :: rest)) = some ('\n' :: ("data: ".toList ++ e.payload), rest) := by
          have hfeed := cut_feed (c := 'd') (by decide)
            ("ata: ".toList ++ e.payload ++ '\n' :: '\n' :: rest)
          have hcut := cut_line hline ('\n' :: '\n' :: rest)
          rw [cut_end] at hcut
          refine hfeed.trans ?_
          show (Delimited.cut eventDelimiter (("data: ".toList ++ e.payload) ++ _)).map _ = _
          rw [hcut]
          simp
        rw [hname, List.append_assoc, List.singleton_append, cut_line hfeed, hnext]
        simp

end Frame

/-- The events of a body are the payloads that were sent, in their order, and nothing is left
behind the last one. -/
theorem eventsOf_bodyText (h : ∀ frame ∈ frames, frame.WellFormed) :
    eventsOf (bodyText frames) = frames.filterMap Frame.payload? ∧
      restOf (bodyText frames) = [] := by
  induction frames with
  | nil => exact eventsOf_of_cut_none rfl
  | cons frame frames ih =>
      obtain ⟨hframe, hframes⟩ := List.forall_mem_cons.mp h
      obtain ⟨hevents, hrest⟩ := eventsOf_of_cut_some (Frame.cut_text hframe (bodyText frames))
      obtain ⟨ihevents, ihrest⟩ := ih hframes
      have hbody : bodyText (frame :: frames) = frame.text ++ bodyText frames := rfl
      rw [hbody, hevents, hrest, Frame.parseEventData_raw hframe, ihevents]
      refine ⟨?_, ihrest⟩
      cases hpayload : frame.payload? with
      | none => rw [List.filterMap_cons_none hpayload]; rfl
      | some payload => rw [List.filterMap_cons_some hpayload]; rfl

/-- What is unfinished at some place of a body is a part of one frame. -/
theorem utf8Len_restOf_le (h : ∀ frame ∈ frames, frame.WellFormed) {size : Nat}
    (hsize : ∀ frame ∈ frames, utf8Len frame.text ≤ size) {front back : List Char}
    (hbody : front ++ back = bodyText frames) : utf8Len (restOf front) ≤ size := by
  induction frames generalizing front with
  | nil =>
      obtain ⟨rfl, -⟩ := List.append_eq_nil_iff.mp hbody
      rw [(eventsOf_of_cut_none (t := []) rfl).2]
      exact Nat.zero_le size
  | cons frame frames ih =>
      obtain ⟨hframe, hframes⟩ := List.forall_mem_cons.mp h
      obtain ⟨hfits, hrest⟩ := List.forall_mem_cons.mp hsize
      have hcons : front ++ back = frame.text ++ bodyText frames := hbody
      rcases List.append_eq_append_iff.mp hcons with ⟨left, htext, -⟩ | ⟨left, hfront, hback⟩
      · have hle := utf8Len_restOf front
        rw [htext, utf8Len_append] at hfits
        omega
      · rw [hfront, (eventsOf_of_cut_some (Frame.cut_text hframe left)).2]
        exact ih hframes hrest hback.symm

/-- A body whose frames and network chunks are not too long never fills the buffer. -/
theorem fits_of_frames (h : ∀ frame ∈ frames, frame.WellFormed)
    (hsizes : frameSize + chunkSize ≤ maxSseBufferBytes)
    (hframes : ∀ frame ∈ frames, utf8Len frame.text ≤ frameSize) {front t back : List Char}
    (hbody : front ++ (t ++ back) = bodyText frames) (ht : utf8Len t ≤ chunkSize) :
    utf8Len (restOf front) + utf8Len t ≤ maxSseBufferBytes := by
  have hleft := utf8Len_restOf_le h hframes hbody
  omega

/-- So it is read to its end, however long it is. -/
theorem pushChunks_frames (h : ∀ frame ∈ frames, frame.WellFormed)
    (hsizes : frameSize + chunkSize ≤ maxSseBufferBytes)
    (hframes : ∀ frame ∈ frames, utf8Len frame.text ≤ frameSize) (front : List Char)
    {texts : List (List Char)} (hbody : front ++ texts.flatten = bodyText frames)
    (htexts : ∀ t ∈ texts, utf8Len t ≤ chunkSize) :
    SseDataParser.pushChunks ⟨restOf front⟩ texts =
      .ok (eventsOf (restOf front ++ texts.flatten), ⟨restOf (restOf front ++ texts.flatten)⟩) := by
  induction texts generalizing front with
  | nil =>
      obtain ⟨hevents, hrest⟩ := eventsOf_of_cut_none (t := restOf front)
        (Delimited.cut_rest eventDelimiter_ne_nil front)
      rw [List.flatten_nil, List.append_nil, hevents, hrest]
      rfl
  | cons t texts ih =>
      obtain ⟨ht, hrest⟩ := List.forall_mem_cons.mp htexts
      rw [List.flatten_cons] at hbody ⊢
      have hfits := fits_of_frames h hsizes hframes hbody ht
      rw [SseDataParser.pushChunks, SseDataParser.pushChunk_of_fits hfits, ← List.append_assoc,
        eventsOf_append (restOf front ++ t), restOf_append (restOf front ++ t), ← restOf_append]
      simp only
      rw [ih (front ++ t) (by rw [List.append_assoc]; exact hbody) hrest]
      rfl

/-! ## The events of the routes -/

/-- An event of one of the routes.  An answer of the Responses route has no annotations. -/
inductive SseEvent.OfRoute : SseEvent → Prop where
  | chatChunk (chunk : ChatCompletionChunkResponse) : OfRoute (.chatChunk chunk)
  | chatError (message : String) (requestId : Uuid) : OfRoute (.chatError message requestId)
  | textDelta (payload : ResponseTextDelta) : OfRoute (.responseTextDelta payload)
  | completed (requestId : Uuid) (created : Int) (model text : String) (usage : TokenUsage) :
      OfRoute (.responseCompleted (responseObject requestId created model text usage))
  | responseError (message : String) : OfRoute (.responseError message)
  | done : OfRoute .done

theorem SseEvent.OfRoute.wellFormed (h : e.OfRoute) : e.WellFormed := by
  intro j hj
  simp only [Json.maxDepth]
  cases h with
  | chatChunk chunk =>
      obtain rfl := Option.some.inj hj
      exact chunk.readable_toJson
  | completed requestId created model text usage =>
      obtain rfl := Option.some.inj hj
      simp [ResponseObject.toJson, ResponseOutput.toJson, ResponseOutputContent.toJson,
        ResponseUsage.toJson, responseObject]
  | done => cases hj
  | _ =>
      obtain rfl := Option.some.inj hj
      simp

theorem StreamJob.ofRoute_of_mem_chatBody {job : StreamJob} {items : List Poll}
    (h : e ∈ job.chatBody items) : e.OfRoute := by
  rcases List.mem_append.mp h with h | h
  · obtain ⟨chunk, -, rfl⟩ := List.mem_map.mp h
    exact .chatChunk _
  · obtain rfl := List.mem_singleton.mp h
    cases finishOf job.chatPasses items with
    | completed usage => exact .done
    | broken error outcome category => exact .chatError _ _

theorem StreamJob.ofRoute_of_mem_responseBody {job : StreamJob} {items : List Poll}
    (h : e ∈ job.responseBody items) : e.OfRoute := by
  rcases List.mem_append.mp h with h | h
  · obtain ⟨delta, -, rfl⟩ := List.mem_map.mp h
    exact .textDelta _
  · cases hclosed : responseFinishOf 0 items with
    | completed usage =>
        rw [hclosed] at h
        rcases List.mem_cons.mp h with rfl | h
        · exact .completed _ _ _ _ _
        · obtain rfl := List.mem_singleton.mp h
          exact .done
    | broken error outcome category =>
        rw [hclosed] at h
        obtain rfl := List.mem_singleton.mp h
        exact .responseError _

/-- The payloads of the frames are those of the events. -/
theorem filterMap_payload? (frames : List Frame) :
    frames.filterMap Frame.payload? = (frames.filterMap Frame.event?).map SseEvent.payload := by
  rw [List.map_filterMap]
  congr 1
  funext frame
  cases frame <;> rfl

theorem wellFormed_of_events (h : ∀ e ∈ frames.filterMap Frame.event?, e.OfRoute) :
    ∀ frame ∈ frames, frame.WellFormed :=
  fun frame hframe e he => (h e (List.mem_filterMap.mpr ⟨frame, hframe, he⟩)).wellFormed

/-- Whatever is in the texts that a provider delivers, the body of either route, cut between any
two characters and with comments between its events, is read as the events that were handed out
and no others, and each of their payloads is parsed as the document it was written from.  A frame
and a network chunk have to fit into the buffer together. -/
theorem bodies_read_back {σ : Type} (job : StreamJob) (h : (o : Op) → σ → Ans o × σ) (s : σ)
    {handedOut : List SseEvent}
    (hroute : handedOut = yields (job.chatEventStream.run h s).trace ∨ handedOut = yields
      (job.responseEventStream.run h s).trace) (hframes : frames.filterMap Frame.event? = handedOut)
    {texts : List (List Char)} (htexts : texts.flatten = bodyText frames)
    (hsizes : frameSize + chunkSize ≤ maxSseBufferBytes)
    (hframeSize : ∀ frame ∈ frames, utf8Len frame.text ≤ frameSize)
    (hchunkSize : ∀ t ∈ texts, utf8Len t ≤ chunkSize) :
    SseDataParser.pushChunks {} texts = .ok (handedOut.map SseEvent.payload, {}) ∧
      ∀ e ∈ handedOut, ∀ j, e.toJson = some j → Json.parse e.payload = some j := by
  have hevent : ∀ e ∈ handedOut, e.OfRoute := by
    rcases hroute with rfl | rfl
    · rw [(job.chatEventStream_books h s).yields]
      exact fun e he => StreamJob.ofRoute_of_mem_chatBody he
    · rw [(job.responseEventStream_books h s).yields]
      exact fun e he => StreamJob.ofRoute_of_mem_responseBody he
  subst hframes
  have hwell := wellFormed_of_events hevent
  have hpush := pushChunks_frames hwell hsizes hframeSize [] htexts hchunkSize
  obtain ⟨hpayloads, hrest⟩ := eventsOf_bodyText hwell
  have hnone : restOf [] = [] := (eventsOf_of_cut_none rfl).2
  rw [hnone, List.nil_append, htexts, hpayloads, hrest, filterMap_payload?] at hpush
  refine ⟨hpush, fun e he j hj => ?_⟩
  have hpayload : e.payload = j.render := by rw [SseEvent.payload, hj]
  rw [hpayload]
  exact Json.parse_render ((hevent e he).wellFormed j hj)

/-- The body of a stream that breaks off, behind a comment. -/
def StreamJob.brokenFrames : List Frame :=
  Frame.keepAlive :: (brokenJob.chatBody brokenJob.items).map Frame.event

theorem StreamJob.brokenFrames_events : brokenFrames.filterMap Frame.event? =
    yields (brokenJob.chatEventStream.run plainHandler ()).trace := by
  rw [(brokenJob.chatEventStream_books plainHandler ()).yields]
  rfl

/-- It is read as the chunk and the error, and nothing in the text of the chunk is an event. -/
theorem bodies_read_back_broken :
    let events := StreamJob.brokenJob.chatBody StreamJob.brokenJob.items
    let body := bodyText StreamJob.brokenFrames
    SseDataParser.pushChunks {} [body.take 40, body.drop 40] =
        .ok (events.map SseEvent.payload, {}) ∧
      events.length = 2 ∧
      ∀ e ∈ events, ∀ j, e.toJson = some j → Json.parse e.payload = some j := by
  intro events body
  have hyields : events = yields
      (StreamJob.brokenJob.chatEventStream.run StreamJob.plainHandler ()).trace :=
    (StreamJob.brokenJob.chatEventStream_books StreamJob.plainHandler ()).yields.symm
  have hframes : StreamJob.brokenFrames.filterMap Frame.event? = events :=
    StreamJob.brokenFrames_events.trans hyields.symm
  have htexts : [body.take 40, body.drop 40].flatten = bodyText StreamJob.brokenFrames := by
    simp [body]
  have hsizes : 1000 + 2000 ≤ maxSseBufferBytes := by decide
  obtain ⟨hpush, hparse⟩ := bodies_read_back StreamJob.brokenJob StreamJob.plainHandler ()
    (Or.inl hyields) hframes htexts hsizes (by decide +kernel) (by decide +kernel)
  exact ⟨hpush, by decide +kernel, hparse⟩

end RustyGate
