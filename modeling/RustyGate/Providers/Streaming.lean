/-
A provider's stream as items.

Both providers that stream over the network read the body chunk by chunk, decode each
chunk on its own, hand it to the parser and look at the events one by one.  They differ
in what they do with an event, which is the parameter `handle` here.

Chunks that are UTF-8 give the items of the body as a whole (`streamItems_texts`).  A chunk
that is not ends the stream at once, and a body with a character of several bytes can be
cut so that its first chunk is such a chunk.  So the items of such a body are the same for
all cuttings only if there is nothing in it that is passed on (`sameForAllCuttings_iff`).
-/
import RustyGate.Providers.Provider
import RustyGate.Providers.Sse

namespace RustyGate

open Text

inductive TransportError where
  | timeout
  | other
  deriving DecidableEq, Repr

def mapTransportError : TransportError → ProviderError
  | .timeout => .timeout
  | .other => .providerUnavailable

/-- `map_http_status`, which both providers have. -/
def mapHttpStatus (status : Nat) : ProviderError :=
  if status = 401 ∨ status = 403 then .authenticationFailed
  else if status = 429 then .rateLimited
  else if status = 408 ∨ status = 504 then .timeout
  else if 500 ≤ status ∧ status < 600 then .providerUnavailable
  else .providerBadResponse

/-- An answer over HTTP, with the chunks of its body as they arrive. -/
structure HttpResponse where
  status : Nat
  body : List (Except TransportError (List UInt8))

def HttpResponse.isSuccess (r : HttpResponse) : Bool := 200 ≤ r.status && r.status < 300

/-- What a stream has from its request. -/
structure StreamCall where
  responseId : Uuid
  created : Int
  model : String
  providerName : String
  promptTokens : UInt32

def StreamCall.context (c : StreamCall) : ProviderStreamContext :=
  ⟨c.responseId, c.created, c.model⟩

abbrev StreamItem := Except ProviderError ProviderStreamEvent

/-- What an event of the body leads to: the loop goes on, maybe after an item, or the
stream ends with an item, or it fails. -/
inductive EventStep (σ : Type) where
  | goOn (item : Option ProviderStreamEvent) (s : σ)
  | finish (event : ProviderStreamEvent)
  | fail (error : ProviderError)

/-- The items of a stream whose body arrives, without a failure, in the given chunks. -/
def itemsOver (stream : Except TransportError HttpResponse →
    Except ProviderError (ProviderStreamContext × List StreamItem)) (chunks : List (List UInt8)) :
    List StreamItem :=
  match stream (.ok ⟨200, chunks.map .ok⟩) with
  | .ok (_, items) => items
  | .error error => [.error error]

/-- The items of the stream do not depend on how the body is cut into chunks. -/
def SameForAllCuttings (stream : List (List UInt8) → List StreamItem) (body : List UInt8) :
    Prop :=
  ∀ chunks chunks' : List (List UInt8), chunks.flatten = body → chunks'.flatten = body →
    stream chunks = stream chunks'

section Loops

variable {σ : Type} (handle : σ → List Char → EventStep σ)

/-- The loop over the events of a chunk.  There is no state behind the end of the
stream. -/
def handleEvents : σ → List (List Char) → List StreamItem × Option σ
  | s, [] => ([], some s)
  | s, eventData :: rest =>
      match handle s eventData with
      | .goOn item s' =>
          (item.toList.map Except.ok ++ (handleEvents s' rest).1, (handleEvents s' rest).2)
      | .finish event => ([.ok event], none)
      | .fail error => ([.error error], none)

/-- The loop over the chunks.  A body that ends without an end of the stream is a bad
response. -/
def streamItems : SseDataParser → σ → List (Except TransportError (List UInt8)) → List StreamItem
  | _, _, [] => [.error .providerBadResponse]
  | _, _, .error error :: _ => [.error (mapTransportError error)]
  | parser, s, .ok chunk :: rest =>
      match fromUtf8 chunk with
      | none => [.error .providerBadResponse]
      | some text =>
          match parser.pushChunk text with
          | (.error error, _) => [.error error]
          | (.ok events, parser') =>
              match handleEvents handle s events with
              | (items, none) => items
              | (items, some s') => items ++ streamItems parser' s' rest

/-- `chat_completion_stream` once the request has been sent: the context and the stream. -/
def openStream (c : StreamCall) (s : σ) (response : Except TransportError HttpResponse) :
    Except ProviderError (ProviderStreamContext × List StreamItem) :=
  match response with
  | .error error => .error (mapTransportError error)
  | .ok response =>
      if response.isSuccess then .ok (c.context, streamItems handle {} s response.body)
      else .error (mapHttpStatus response.status)

/-- A body that arrives in the given chunks. -/
def bodyItems (s : σ) (chunks : List (List UInt8)) : List StreamItem :=
  streamItems handle {} s (chunks.map .ok)

/-! ## Whole bodies -/

/-- The items of a body with the given events. -/
def itemsOf (s : σ) (events : List (List Char)) : List StreamItem :=
  match handleEvents handle s events with
  | (items, none) => items
  | (items, some _) => items ++ [.error .providerBadResponse]

/-- No event leads to an item before the stream fails. -/
def Mute : σ → List (List Char) → Prop
  | _, [] => True
  | s, eventData :: rest =>
      match handle s eventData with
      | .goOn none s' => Mute s' rest
      | .goOn (some _) _ => False
      | .finish _ => False
      | .fail error => error = .providerBadResponse

variable {handle}

theorem handleEvents_append (s : σ) (es es' : List (List Char)) :
    handleEvents handle s (es ++ es') =
      match handleEvents handle s es with
      | (items, none) => (items, none)
      | (items, some s') =>
          (items ++ (handleEvents handle s' es').1, (handleEvents handle s' es').2) := by
  induction es generalizing s with
  | nil => rfl
  | cons eventData rest ih =>
      simp only [List.cons_append, handleEvents]
      cases handle s eventData with
      | finish event => rfl
      | fail error => rfl
      | goOn item s' =>
          simp only [ih]
          rcases handleEvents handle s' rest with ⟨items, _ | s''⟩
          · rfl
          · simp only [List.append_assoc]

theorem itemsOf_append (s : σ) (es es' : List (List Char)) :
    itemsOf handle s (es ++ es') =
      match handleEvents handle s es with
      | (items, none) => items
      | (items, some s') => items ++ itemsOf handle s' es' := by
  simp only [itemsOf, handleEvents_append]
  rcases handleEvents handle s es with ⟨items, _ | s'⟩
  · rfl
  · simp only
    rcases handleEvents handle s' es' with ⟨items', _ | s''⟩
    · rfl
    · simp only [List.append_assoc]

/-- One turn of the loop, on a chunk that is a text. -/
theorem streamItems_text {parser : SseDataParser} (s : σ) {t : List Char}
    (hfits : utf8Len parser.buffer + utf8Len t ≤ maxSseBufferBytes)
    (rest : List (Except TransportError (List UInt8))) :
    streamItems handle parser s (.ok (toUtf8 t) :: rest) =
      match handleEvents handle s (eventsOf (parser.buffer ++ t)) with
      | (items, none) => items
      | (items, some s') =>
          items ++ streamItems handle ⟨restOf (parser.buffer ++ t)⟩ s' rest := by
  rw [streamItems, fromUtf8_toUtf8]
  simp only
  rw [SseDataParser.pushChunk_of_fits hfits]

/-- Chunks that are texts give the items of the text they make up. -/
theorem streamItems_texts (parser : SseDataParser) (s : σ) (texts : List (List Char))
    (hdrained : eventsOf parser.buffer = [])
    (hfits : utf8Len parser.buffer + utf8Len texts.flatten ≤ maxSseBufferBytes) :
    streamItems handle parser s (texts.map fun t => .ok (toUtf8 t)) =
      itemsOf handle s (eventsOf (parser.buffer ++ texts.flatten)) := by
  induction texts generalizing parser s with
  | nil =>
      rw [List.flatten_nil, List.append_nil, hdrained]
      rfl
  | cons t texts ih =>
      rw [List.flatten_cons, utf8Len_append] at hfits
      have hrest := utf8Len_restOf (parser.buffer ++ t)
      rw [utf8Len_append] at hrest
      rw [List.map_cons, streamItems_text s (by omega), List.flatten_cons, ← List.append_assoc,
        eventsOf_append (parser.buffer ++ t), itemsOf_append]
      rcases handleEvents handle s (eventsOf (parser.buffer ++ t)) with ⟨items, _ | s'⟩
      · rfl
      · simp only
        rw [ih ⟨restOf (parser.buffer ++ t)⟩ s' (eventsOf_restOf _)
          (by show utf8Len (restOf _) + _ ≤ _; omega)]

/-! ## Cuttings -/

/-- Any cutting into texts is as good as none. -/
theorem bodyItems_texts (s : σ) {texts : List (List Char)}
    (hfits : utf8Len texts.flatten ≤ maxSseBufferBytes) :
    bodyItems handle s (texts.map toUtf8) = itemsOf handle s (eventsOf texts.flatten) := by
  rw [bodyItems, List.map_map]
  exact streamItems_texts {} s texts (by decide +kernel) (by simpa using hfits)

theorem bodyItems_text (s : σ) {t : List Char} (hfits : utf8Len t ≤ maxSseBufferBytes) :
    bodyItems handle s [toUtf8 t] = itemsOf handle s (eventsOf t) := by
  have hflat : [t].flatten = t := by simp
  rw [← List.map_singleton, bodyItems_texts s (by rw [hflat]; exact hfits), hflat]

/-- The chunks of a text of single bytes are texts. -/
theorem exists_texts {body : List Char} (hbody : SingleBytes body) {chunks : List (List UInt8)}
    (hchunks : chunks.flatten = toUtf8 body) :
    ∃ texts : List (List Char), chunks = texts.map toUtf8 ∧ texts.flatten = body := by
  induction chunks generalizing body with
  | nil =>
      refine ⟨[], rfl, ?_⟩
      have hnil : fromUtf8 (toUtf8 body) = fromUtf8 (toUtf8 []) := by
        rw [← hchunks]
        rfl
      rw [fromUtf8_toUtf8, fromUtf8_toUtf8] at hnil
      exact (Option.some.inj hnil).symm
  | cons chunk chunks ih =>
      rw [List.flatten_cons] at hchunks
      obtain ⟨t, rfl⟩ := hbody.cut hchunks
      obtain ⟨u, rfl, hrest⟩ := exists_of_toUtf8_append hchunks
      obtain ⟨texts, rfl, rfl⟩ := ih (fun c hc => hbody c (List.mem_append_right t hc)) hrest
      exact ⟨t :: texts, rfl, rfl⟩

theorem mute_append {s : σ} {es es' : List (List Char)} (h : Mute handle s (es ++ es')) :
    handleEvents handle s es = ([.error .providerBadResponse], none) ∨
      ∃ s', handleEvents handle s es = ([], some s') ∧ Mute handle s' es' := by
  induction es generalizing s with
  | nil => exact .inr ⟨s, rfl, h⟩
  | cons eventData rest ih =>
      rw [List.cons_append, Mute] at h
      rw [handleEvents]
      cases hstep : handle s eventData with
      | finish event =>
          rw [hstep] at h
          cases h
      | fail error =>
          rw [hstep] at h
          obtain rfl : error = .providerBadResponse := h
          exact .inl rfl
      | goOn item s' =>
          rw [hstep] at h
          cases item with
          | some event => cases h
          | none =>
              simp only
              rcases ih h with hfail | ⟨s'', hgo, hmute⟩
              · rw [hfail]
                exact .inl rfl
              · rw [hgo]
                exact .inr ⟨s'', rfl, hmute⟩

/-- A body with nothing to pass on is a bad response, however it is cut. -/
theorem streamItems_mute (parser : SseDataParser) (s : σ) {body : List Char}
    {chunks : List (List UInt8)} (hchunks : chunks.flatten = toUtf8 body)
    (hfits : utf8Len parser.buffer + utf8Len body ≤ maxSseBufferBytes)
    (hmute : Mute handle s (eventsOf (parser.buffer ++ body))) :
    streamItems handle parser s (chunks.map .ok) = [.error .providerBadResponse] := by
  induction chunks generalizing parser s body with
  | nil => rfl
  | cons chunk chunks ih =>
      rw [List.flatten_cons] at hchunks
      rw [List.map_cons]
      cases hdecoded : fromUtf8 chunk with
      | none => rw [streamItems, hdecoded]
      | some t =>
          obtain rfl := toUtf8_of_fromUtf8 hdecoded
          obtain ⟨u, rfl, hrest⟩ := exists_of_toUtf8_append hchunks
          rw [utf8Len_append] at hfits
          rw [← List.append_assoc, eventsOf_append (parser.buffer ++ t)] at hmute
          rw [streamItems_text s (by omega)]
          rcases mute_append hmute with hfail | ⟨s', hgo, hmute'⟩
          · rw [hfail]
          · have hlen := utf8Len_restOf (parser.buffer ++ t)
            rw [utf8Len_append] at hlen
            rw [hgo]
            exact ih ⟨restOf (parser.buffer ++ t)⟩ s' hrest
              (by show utf8Len (restOf _) + _ ≤ _; omega) hmute'

theorem mute_of_itemsOf {s : σ} {es : List (List Char)}
    (h : itemsOf handle s es = [.error .providerBadResponse]) : Mute handle s es := by
  induction es generalizing s with
  | nil => trivial
  | cons eventData rest ih =>
      rw [itemsOf, handleEvents] at h
      rw [Mute]
      cases hstep : handle s eventData with
      | finish event =>
          rw [hstep] at h
          simp at h
      | fail error =>
          rw [hstep] at h
          simpa using h
      | goOn item s' =>
          rw [hstep] at h
          cases item with
          | some event =>
              exfalso
              simp only [Option.toList_some, List.map_cons, List.map_nil,
                List.singleton_append] at h
              split at h <;> simp_all
          | none =>
              apply ih
              rw [itemsOf]
              simpa using h

/-- The items of a body that fits into the buffer are the same for all cuttings if and
only if it has no character of several bytes, or nothing to pass on. -/
theorem sameForAllCuttings_iff (s : σ) {body : List Char}
    (hfits : utf8Len body ≤ maxSseBufferBytes) :
    SameForAllCuttings (bodyItems handle s) (toUtf8 body) ↔
      SingleBytes body ∨ Mute handle s (eventsOf body) := by
  constructor
  · intro hsame
    by_cases hbody : SingleBytes body
    · exact .inl hbody
    · right
      obtain ⟨front, back, hcut, hbroken⟩ := exists_cut_inside hbody
      apply mute_of_itemsOf
      rw [← bodyItems_text s hfits,
        hsame [toUtf8 body] [front, back] (by simp) (by simpa using hcut)]
      rw [bodyItems, List.map_cons, streamItems, hbroken]
  · rintro (hbody | hmute) chunks chunks' hchunks hchunks'
    · obtain ⟨texts, rfl, htexts⟩ := exists_texts hbody hchunks
      obtain ⟨texts', rfl, htexts'⟩ := exists_texts hbody hchunks'
      rw [bodyItems_texts s (by rw [htexts]; exact hfits), htexts,
        bodyItems_texts s (by rw [htexts']; exact hfits), htexts']
    · rw [bodyItems, bodyItems, streamItems_mute {} s hchunks (by simpa using hfits) hmute,
        streamItems_mute {} s hchunks' (by simpa using hfits) hmute]

end Loops
end RustyGate
