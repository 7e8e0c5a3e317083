/-
Cache keys (`src/cache/response.rs`).

A key is a digest of the fields that decide the answer.  For the routes the encoding and
SHA-256 are one parameter, a partial one because an encoding can fail.
-/
import RustyGate.Models.Chat
import RustyGate.Models.JsonText

namespace RustyGate

structure CanonicalChatRequest where
  model : Option String
  messages : List ChatMessage
  tools : Option (List Tool)
  toolChoice : Option ToolChoice
  responseFormat : Option Json
  maxTokens : Option UInt32
  parallelToolCalls : Option Bool

namespace ChatCompletionRequest

def canonical (r : ChatCompletionRequest) : CanonicalChatRequest where
  model := r.model
  messages := r.messages
  tools := r.tools
  toolChoice := r.toolChoice
  responseFormat := r.responseFormat
  maxTokens := r.maxTokens
  parallelToolCalls := r.parallelToolCalls

end ChatCompletionRequest

def CanonicalChatRequest.toJson (c : CanonicalChatRequest) : Json :=
  .object [
    ("model", Json.nullable .string c.model),
    ("messages", .array (c.messages.map ChatMessage.toJson)),
    ("tools", Json.nullable (fun tools => .array (tools.map Tool.toJson)) c.tools),
    ("tool_choice", Json.nullable ToolChoice.toJson c.toolChoice),
    ("response_format", Json.nullable id c.responseFormat),
    ("max_tokens", Json.nullable (fun n => .number (toString n.toNat)) c.maxTokens),
    ("parallel_tool_calls", Json.nullable .bool c.parallelToolCalls)]

/-- `serde_json::to_vec`, which cannot fail on these types. -/
def CanonicalChatRequest.encode (c : CanonicalChatRequest) : List UInt8 := c.toJson.toVec

/-- Streams and sampled answers are never cached. -/
def cacheKeyForRequest (digest : CanonicalChatRequest → Option String)
    (request : ChatCompletionRequest) : Option String :=
  if request.streamEnabled || (request.temperature.getD .zero).isPositive then none
  else digest request.canonical

end RustyGate
