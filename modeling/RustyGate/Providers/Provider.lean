/-
What the gateway knows about a provider (`src/providers/provider.rs`).

A provider stream is a finite list of polls.  A poll delivers an item, or nothing for
longer than the idle timeout, and the stream ends where the list ends.  Prices and
costs are rational numbers.
-/
import RustyGate.Models.Chat

namespace RustyGate

inductive ProviderStreamEvent where
  | chunk (chunk : ChatCompletionChunkResponse)
  | completed (usage : TokenUsage)
  deriving DecidableEq, Repr

structure ProviderStreamContext where
  responseId : Uuid
  created : Int
  model : String
  deriving DecidableEq

inductive Poll where
  | item (item : Except ProviderError ProviderStreamEvent)
  | idle

abbrev ProviderStream := List Poll

structure CostEstimate where
  inputCostUsd : ℚ
  outputCostUsd : ℚ
  totalCostUsd : ℚ
  deriving DecidableEq

structure ProviderPricing where
  costPer1kInputTokens : ℚ := 0
  costPer1kOutputTokens : ℚ := 0
  deriving DecidableEq

def ProviderPricing.estimateCost (p : ProviderPricing) (promptTokens completionTokens : UInt32) :
    CostEstimate where
  inputCostUsd := (promptTokens.toNat : ℚ) / 1000 * p.costPer1kInputTokens
  outputCostUsd := (completionTokens.toNat : ℚ) / 1000 * p.costPer1kOutputTokens
  totalCostUsd := (promptTokens.toNat : ℚ) / 1000 * p.costPer1kInputTokens +
    (completionTokens.toNat : ℚ) / 1000 * p.costPer1kOutputTokens

/-- A configured provider: `name` and `model` are what its `ChatProvider` reports. -/
structure ProviderEntry where
  name : String
  model : String
  pricing : ProviderPricing := {}
  priority : UInt32 := 1
  deriving DecidableEq

/-- `supports_model` of all three kinds of provider. -/
def ProviderEntry.supportsModel (entry : ProviderEntry) (model : String) : Bool :=
  entry.model == model

namespace ProviderStream

/-- `stream.next()` without a timeout waits through every idle stretch.  `none` is a
stream that ends before its first item, and the rest is what is left to poll. -/
def next : ProviderStream → Option (Except ProviderError ProviderStreamEvent) × ProviderStream
  | [] => (none, [])
  | .item item :: rest => (some item, rest)
  | .idle :: rest => next rest

end ProviderStream
end RustyGate
