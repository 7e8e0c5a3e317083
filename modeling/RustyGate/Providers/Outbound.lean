/-
The request that a provider with the OpenAI protocol is sent
(`OpenAiChatRequest` in `src/providers/openai_compatible.rs`).

`formatF32` is how `serde_json` writes an `f32`.
-/
import RustyGate.Providers.OpenAiCompatible

namespace RustyGate

structure OpenAiChatRequest where
  model : String
  messages : List ChatMessage
  temperature : Option F32
  maxTokens : Option UInt32
  stream : Option Bool
  tools : Option (List Tool)
  toolChoice : Option ToolChoice
  parallelToolCalls : Option Bool
  responseFormat : Option Json

variable (formatF32 : F32 → String)

def OpenAiChatRequest.toJson (request : OpenAiChatRequest) : Json :=
  .object ([("model", .string request.model),
      ("messages", .array (request.messages.map ChatMessage.toJson))] ++
    (Json.optionalField "temperature" (fun t => .number (formatF32 t)) request.temperature ++
    (Json.optionalField "max_tokens" (fun n => .number (toString n.toNat)) request.maxTokens ++
    Json.optionalField "stream" .bool request.stream ++
    Json.optionalField "tools" (fun tools => .array (tools.map Tool.toJson)) request.tools ++
    Json.optionalField "tool_choice" ToolChoice.toJson request.toolChoice ++
    Json.optionalField "parallel_tool_calls" .bool request.parallelToolCalls ++
    Json.optionalField "response_format" id request.responseFormat)))

namespace OpenAiCompatibleProvider

/-- The first statement of `chat_completion`. -/
def outboundRequest (provider : OpenAiCompatibleProvider) (request : ChatCompletionRequest) :
    OpenAiChatRequest where
  model := request.model.getD provider.model
  messages := request.messages
  temperature := request.temperature
  maxTokens := request.maxTokens
  stream := none
  tools := request.tools
  toolChoice := request.toolChoice
  parallelToolCalls := request.parallelToolCalls
  responseFormat := request.responseFormat

/-- The body that `chat_completion` posts. -/
def requestBody (provider : OpenAiCompatibleProvider) (request : ChatCompletionRequest) :
    String :=
  ((provider.outboundRequest request).toJson formatF32).toText

end OpenAiCompatibleProvider
end RustyGate
