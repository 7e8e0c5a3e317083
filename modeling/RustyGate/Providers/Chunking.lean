/-
Network chunks and the streams of the two providers.

A chunk is decoded on its own, so a cut inside a character breaks the stream.  The items
are the same for all cuttings of a body exactly when every character of it has one byte,
or nothing of it is passed on anyway.  Cuts between characters never matter.
-/
import RustyGate.Providers.Anthropic
import RustyGate.Providers.OpenAiCompatible
import RustyGate.Routing.FallbackRuns

namespace RustyGate

open Text

/-- No chunk ends inside a character. -/
def CutBetweenCharacters (chunks : List (List UInt8)) : Prop :=
  ∀ chunk ∈ chunks, (fromUtf8 chunk).isSome = true

theorem CutBetweenCharacters.exists_texts {chunks : List (List UInt8)}
    (h : CutBetweenCharacters chunks) :
    ∃ texts : List (List Char),
      chunks = texts.map toUtf8 ∧ chunks.flatten = toUtf8 texts.flatten := by
  induction chunks with
  | nil => exact ⟨[], rfl, rfl⟩
  | cons chunk chunks ih =>
      obtain ⟨hchunk, hchunks⟩ := List.forall_mem_cons.mp h
      obtain ⟨t, ht⟩ := Option.isSome_iff_exists.mp hchunk
      obtain ⟨texts, rfl, hflat⟩ := ih hchunks
      obtain rfl := toUtf8_of_fromUtf8 ht
      refine ⟨t :: texts, rfl, ?_⟩
      rw [List.flatten_cons, hflat, List.flatten_cons, toUtf8_append]

/-- Cuts between characters never matter. -/
theorem bodyItems_between {σ : Type} {handle : σ → List Char → EventStep σ} (s : σ)
    {chunks : List (List UInt8)} (hcuts : CutBetweenCharacters chunks)
    (hfits : chunks.flatten.length ≤ maxSseBufferBytes) :
    bodyItems handle s chunks = bodyItems handle s [chunks.flatten] := by
  obtain ⟨texts, rfl, hflat⟩ := hcuts.exists_texts
  rw [hflat, length_toUtf8] at hfits
  rw [bodyItems_texts s hfits, hflat, bodyItems_text s hfits]

/-- The items of the stream of a body that arrives in the given chunks. -/
def OpenAiCompatibleProvider.streamed (provider : OpenAiCompatibleProvider)
    (fromStr : List Char → Option OpenAiStreamChunk) (responseId : Uuid) (created : Int)
    (request : ChatCompletionRequest) : List (List UInt8) → List StreamItem :=
  itemsOver (provider.chatCompletionStream fromStr responseId created request)

def AnthropicProvider.streamed (provider : AnthropicProvider)
    (fromStr : List Char → Option AnthropicStreamEvent) (responseId : Uuid) (created : Int)
    (request : ChatCompletionRequest) : List (List UInt8) → List StreamItem :=
  itemsOver (provider.chatCompletionStream fromStr responseId created request)

/-- A decoder that knows one text. -/
def decodes {α : Type} (json : String) (value : α) (eventData : List Char) : Option α :=
  if eventData = json.toList then some value else none

/-- An event with one accented letter. -/
def openAiEvent : String := "\x7b\"choices\":[\x7b\"delta\":\x7b\"content\":\"é\"\x7d\x7d]\x7d"

def anthropicEvent : String :=
  "\x7b\"type\":\"content_block_delta\",\"delta\":\x7b\"type\":\"text_delta\",\"text\":\"é\"\x7d\x7d"

/-- The body of one event. -/
def bodyOf (event : String) : List UInt8 := toUtf8 ("data: " ++ event ++ "\n\n").toList

def openAiDecoder : List Char → Option OpenAiStreamChunk :=
  decodes openAiEvent
    { choices := [{ delta := some { content := some "é" } }] }

def anthropicDecoder : List Char → Option AnthropicStreamEvent :=
  decodes anthropicEvent
    { kind := "content_block_delta", delta := some { kind := "text_delta", text := some "é" } }


section Providers

variable (openAi : OpenAiCompatibleProvider) (anthropic : AnthropicProvider)
  (openAiFromStr : List Char → Option OpenAiStreamChunk)
  (anthropicFromStr : List Char → Option AnthropicStreamEvent)
  (responseId : Uuid) (created : Int) (request : ChatCompletionRequest)

theorem streams_sameForAllCuttings_iff {body : List UInt8} {text : List Char}
    (hvalid : fromUtf8 body = some text) (hfits : body.length ≤ maxSseBufferBytes) :
    ((SameForAllCuttings (openAi.streamed openAiFromStr responseId created request) body ↔
        SingleBytes text ∨ OpenAiCompatibleProvider.Barren openAiFromStr (eventsOf text)) ∧
      ∀ chunks : List (List UInt8), chunks.flatten = body → CutBetweenCharacters chunks →
        openAi.streamed openAiFromStr responseId created request chunks =
          openAi.streamed openAiFromStr responseId created request [body]) ∧
    ((SameForAllCuttings (anthropic.streamed anthropicFromStr responseId created request) body ↔
        SingleBytes text ∨ AnthropicProvider.Barren anthropicFromStr (eventsOf text)) ∧
      ∀ chunks : List (List UInt8), chunks.flatten = body → CutBetweenCharacters chunks →
        anthropic.streamed anthropicFromStr responseId created request chunks =
          anthropic.streamed anthropicFromStr responseId created request [body]) := by
  obtain rfl := toUtf8_of_fromUtf8 hvalid
  have hlen : utf8Len text ≤ maxSseBufferBytes := by
    rw [← length_toUtf8]
    exact hfits
  refine ⟨⟨?_, ?_⟩, ?_, ?_⟩
  · let c := openAi.streamCall responseId created request
    rw [← OpenAiCompatibleProvider.mute_iff_barren c (s := {}) rfl]
    exact sameForAllCuttings_iff _ hlen
  · intro chunks hchunks hcuts
    rw [← hchunks] at hfits ⊢
    exact bodyItems_between _ hcuts hfits
  · let c := anthropic.streamCall responseId created request
    rw [← AnthropicProvider.mute_iff_barren c
      (s := { promptTokens := c.promptTokens }) ⟨rfl, rfl⟩]
    exact sameForAllCuttings_iff _ hlen
  · intro chunks hchunks hcuts
    rw [← hchunks] at hfits ⊢
    exact bodyItems_between _ hcuts hfits

end Providers


/-- The body with the accented letter may be cut in front of it, and a body without it
anywhere. -/
theorem streams_sameForAllCuttings_iff_accent :
    (∀ chunks : List (List UInt8), chunks.flatten = bodyOf openAiEvent →
      CutBetweenCharacters chunks →
        (OpenAiCompatibleProvider.mk "p" "m").streamed openAiDecoder 0 0 plainRequest chunks =
          (OpenAiCompatibleProvider.mk "p" "m").streamed openAiDecoder 0 0 plainRequest
            [bodyOf openAiEvent]) ∧
    SameForAllCuttings ((AnthropicProvider.mk "p" "m").streamed anthropicDecoder 0 0 plainRequest)
      (bodyOf "x") :=
  ⟨(streams_sameForAllCuttings_iff ⟨"p", "m"⟩ ⟨"p", "m"⟩ openAiDecoder anthropicDecoder 0 0
      plainRequest (fromUtf8_toUtf8 _) (by decide +kernel)).1.2,
    (streams_sameForAllCuttings_iff ⟨"p", "m"⟩ ⟨"p", "m"⟩ openAiDecoder anthropicDecoder 0 0
      plainRequest (fromUtf8_toUtf8 _) (by decide +kernel)).2.1.mpr (.inl (by decide +kernel))⟩

/-- Cut between the two bytes of the letter, the event is lost. -/
theorem cut_inside_character_breaks_stream :
    ¬(∀ (provider : OpenAiCompatibleProvider) (fromStr : List Char → Option OpenAiStreamChunk)
        (responseId : Uuid) (created : Int) (request : ChatCompletionRequest)
        (body : List UInt8), (fromUtf8 body).isSome = true → body.length ≤ maxSseBufferBytes →
          SameForAllCuttings (provider.streamed fromStr responseId created request) body) ∧
    ¬(∀ (provider : AnthropicProvider) (fromStr : List Char → Option AnthropicStreamEvent)
        (responseId : Uuid) (created : Int) (request : ChatCompletionRequest)
        (body : List UInt8), (fromUtf8 body).isSome = true → body.length ≤ maxSseBufferBytes →
          SameForAllCuttings (provider.streamed fromStr responseId created request) body) := by
  constructor
  · intro hclaim
    have hsame := hclaim ⟨"p", "m"⟩ openAiDecoder 0 0 plainRequest (bodyOf openAiEvent)
      (by rw [bodyOf, fromUtf8_toUtf8]; rfl) (by decide +kernel) [bodyOf openAiEvent]
      [(bodyOf openAiEvent).take 40, (bodyOf openAiEvent).drop 40]
      (by simp) (by simp)
    revert hsame
    decide +kernel
  · intro hclaim
    have hsame := hclaim ⟨"p", "m"⟩ anthropicDecoder 0 0 plainRequest (bodyOf anthropicEvent)
      (by rw [bodyOf, fromUtf8_toUtf8]; rfl) (by decide +kernel) [bodyOf anthropicEvent]
      [(bodyOf anthropicEvent).take 74, (bodyOf anthropicEvent).drop 74]
      (by simp) (by simp)
    revert hsame
    decide +kernel

end RustyGate
