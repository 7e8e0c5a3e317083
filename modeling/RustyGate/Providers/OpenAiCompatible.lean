/-
Streams of a provider that speaks the OpenAI protocol
(`src/providers/openai_compatible.rs`).

`fromStr` is `serde_json::from_str` for a chunk of the stream.
-/
import RustyGate.Providers.Streaming

namespace RustyGate

open Text

structure OpenAiStreamDelta where
  role : Option ChatRole := none
  content : Option String := none
  toolCalls : Option (List ToolCallDelta) := none
  deriving DecidableEq, Repr

structure OpenAiStreamChoice where
  index : UInt32 := 0
  delta : Option OpenAiStreamDelta := none
  finishReason : Option String := none
  deriving DecidableEq, Repr

structure OpenAiStreamChunk where
  model : Option String := none
  created : Option Int := none
  choices : List OpenAiStreamChoice := []
  usage : Option TokenUsage := none
  deriving DecidableEq, Repr

structure OpenAiCompatibleProvider where
  name : String
  model : String
  deriving DecidableEq, Repr

namespace OpenAiCompatibleProvider

def maxStreamOutputChars : Nat := 256 * 1024

/-- The local variables of the stream. -/
structure StreamState where
  completionText : String := ""
  usage : Option TokenUsage := none
  deriving DecidableEq, Repr

variable (fromStr : List Char → Option OpenAiStreamChunk)

/-- The usage at the end of the stream, estimated if the provider has not sent it. -/
def completedUsage (c : StreamCall) (s : StreamState) : TokenUsage :=
  s.usage.getD
    { promptTokens := c.promptTokens
      completionTokens := estimateTokensForText s.completionText
      totalTokens := c.promptTokens + estimateTokensForText s.completionText }

def chunkFor (c : StreamCall) (parsed : OpenAiStreamChunk) (choice : OpenAiStreamChoice) :
    ChatCompletionChunkResponse :=
  let delta := choice.delta.getD {}
  .fromDelta c.responseId (parsed.created.getD c.created) (parsed.model.getD c.model)
    c.providerName choice.index
    { role := delta.role, content := delta.content, toolCalls := delta.toolCalls }
    choice.finishReason

/-- The body of the loop over the events. -/
def handleEvent (c : StreamCall) (s : StreamState) (eventData : List Char) :
    EventStep StreamState :=
  if eventData = "[DONE]".toList then .finish (.completed (completedUsage c s))
  else
    match fromStr eventData with
    | none => .fail .providerBadResponse
    | some parsed =>
        let s := { s with usage := parsed.usage <|> s.usage }
        match parsed.choices with
        | [] => .goOn none s
        | choice :: _ =>
            match (choice.delta.getD {}).content with
            | none => .goOn (some (.chunk (chunkFor c parsed choice))) s
            | some content =>
                if maxStreamOutputChars < s.completionText.length + content.length then
                  .fail .providerBadResponse
                else
                  .goOn (some (.chunk (chunkFor c parsed choice)))
                    { s with completionText := s.completionText ++ content }

def streamCall (provider : OpenAiCompatibleProvider) (responseId : Uuid) (created : Int)
    (request : ChatCompletionRequest) : StreamCall where
  responseId := responseId
  created := created
  model := request.model.getD provider.model
  providerName := provider.name
  promptTokens := estimateTokensForMessages request.messages

def chatCompletionStream (provider : OpenAiCompatibleProvider) (responseId : Uuid) (created : Int)
    (request : ChatCompletionRequest) (response : Except TransportError HttpResponse) :
    Except ProviderError (ProviderStreamContext × List StreamItem) :=
  let c := provider.streamCall responseId created request
  openStream (handleEvent fromStr c) c {} response

/-! ## Bodies with nothing to pass on -/

/-- In front of the first event that is broken there is neither the end of the stream nor
a choice.  A first choice whose text is too long is broken, too. -/
def Barren : List (List Char) → Prop
  | [] => True
  | eventData :: rest =>
      eventData ≠ "[DONE]".toList ∧
        match fromStr eventData with
        | none => True
        | some parsed =>
            match parsed.choices with
            | [] => Barren rest
            | choice :: _ =>
                ∃ content, (choice.delta.getD {}).content = some content ∧
                  maxStreamOutputChars < content.length

variable {fromStr}

/-- No text is collected without an item, so the length of a first text is judged on its
own. -/
theorem mute_iff_barren (c : StreamCall) {s : StreamState} (hs : s.completionText = "")
    (events : List (List Char)) :
    Mute (handleEvent fromStr c) s events ↔ Barren fromStr events := by
  induction events generalizing s with
  | nil => exact Iff.rfl
  | cons eventData rest ih =>
      rw [Mute, Barren, handleEvent]
      by_cases hdone : eventData = "[DONE]".toList
      · rw [if_pos hdone]
        exact ⟨False.elim, fun h => h.1 hdone⟩
      · rw [if_neg hdone]
        cases fromStr eventData with
        | none => exact ⟨fun _ => ⟨hdone, trivial⟩, fun _ => rfl⟩
        | some parsed =>
            simp only
            cases parsed.choices with
            | nil =>
                have hrest := ih (s := { s with usage := parsed.usage <|> s.usage }) hs
                exact ⟨fun h => ⟨hdone, hrest.mp h⟩, fun h => hrest.mpr h.2⟩
            | cons choice choices =>
                simp only
                cases (choice.delta.getD {}).content with
                | none => simp
                | some content =>
                    simp only [hs, String.length_empty, Nat.zero_add]
                    by_cases hlong : maxStreamOutputChars < content.length
                    · rw [if_pos hlong]
                      exact ⟨fun _ => ⟨hdone, content, rfl, hlong⟩, fun _ => rfl⟩
                    · rw [if_neg hlong]
                      refine ⟨False.elim, fun h => ?_⟩
                      obtain ⟨-, content', heq, hlong'⟩ := h
                      obtain rfl := Option.some.inj heq
                      exact hlong hlong'

end OpenAiCompatibleProvider
end RustyGate
