/-
The texts behind the two digests of a request: its cache key (`src/cache/response.rs`) and the
fingerprint of its prefix (`src/routing/prefix_fingerprint.rs`).

Both are JSON in which an absent field is `null`, and both are themselves requests.  Read as
one, the text behind a key gives back everything of the request but its temperature and the
choice of a stream, and the text behind a fingerprint gives back the prefix.  This needs a
request whose `response_format` is not a document `null`, which no request that has been read
is, since `serde` takes `null` for an absent field.
-/
import RustyGate.Cache.Transparency
import RustyGate.Models.ChatJson
import RustyGate.Routing.PrefixFingerprint

namespace RustyGate

/-- The request that the text behind a key spells. -/
def CanonicalChatRequest.asRequest (c : CanonicalChatRequest) : ChatCompletionRequest where
  model := c.model
  messages := c.messages
  maxTokens := c.maxTokens
  tools := c.tools
  toolChoice := c.toolChoice
  parallelToolCalls := c.parallelToolCalls
  responseFormat := c.responseFormat

def CanonicalPrefixMessage.asMessage (message : CanonicalPrefixMessage) : ChatMessage where
  role := message.role
  content := message.content
  toolCalls := message.toolCalls
  toolCallId := message.toolCallId

/-- The request that the text behind a fingerprint spells. -/
def CanonicalPrefix.asRequest (c : CanonicalPrefix) : ChatCompletionRequest where
  model := some c.model
  messages := c.messages.map CanonicalPrefixMessage.asMessage
  tools := c.tools
  toolChoice := c.toolChoice
  parallelToolCalls := c.parallelToolCalls
  responseFormat := c.responseFormat

theorem CanonicalPrefixMessage.asMessage_injective :
    Function.Injective CanonicalPrefixMessage.asMessage := by
  intro message message' h
  simp only [asMessage, ChatMessage.mk.injEq] at h
  obtain ⟨hrole, hcontent, hcalls, hid⟩ := h
  cases message
  cases message'
  simp_all

variable {request request' : ChatCompletionRequest}

/-- The version is a constant. -/
theorem canonicalPrefix_of_asRequest
    (h : (canonicalPrefix request).asRequest = (canonicalPrefix request').asRequest) :
    canonicalPrefix request = canonicalPrefix request' := by
  simp only [CanonicalPrefix.asRequest, ChatCompletionRequest.mk.injEq, Option.some.injEq] at h
  obtain ⟨hmodel, hmessages, -, -, -, htools, hchoice, hparallel, hformat⟩ := h
  have hmessages := CanonicalPrefixMessage.asMessage_injective.list_map hmessages
  have hversion : (canonicalPrefix request).version = (canonicalPrefix request').version := rfl
  cases hleft : canonicalPrefix request
  cases hright : canonicalPrefix request'
  simp_all

section Reading

variable {format : Json.NumberFormat} {readF32 : String → Option F32}

/-- The text behind a key spells the request, but for its temperature and the choice of a
stream. -/
theorem CanonicalChatRequest.isObject_toJson (c : CanonicalChatRequest)
    (formatF32 : F32 → String) : c.toJson.IsObject (c.asRequest.SpelledBy formatF32) := by
  have hmessages := Json.asList_map fun message (_ : message ∈ c.messages) =>
    message.fromJson_toJson
  exact ⟨_, rfl, by simp, Or.inr rfl, Json.required_some rfl hmessages, Or.inl rfl, Or.inr rfl,
    Or.inl rfl, Or.inr rfl, Or.inr rfl, Or.inr rfl, Or.inr rfl⟩

theorem CanonicalPrefixMessage.fromJson_toJson (message : CanonicalPrefixMessage) :
    ChatMessage.fromJson message.toJson = some message.asMessage :=
  ChatMessage.fromJson_of_isObject ⟨_, rfl, by simp, rfl, rfl, Or.inr rfl, Or.inr rfl⟩

/-- The text behind a fingerprint spells the prefix.  Its version is a field that no request
has. -/
theorem CanonicalPrefix.isObject_toJson (c : CanonicalPrefix) (formatF32 : F32 → String) :
    c.toJson.IsObject (c.asRequest.SpelledBy formatF32) := by
  have hmessages := Json.asList_map_map fun message (_ : message ∈ c.messages) =>
    message.fromJson_toJson
  exact ⟨_, rfl, by simp, Or.inl rfl, Json.required_some rfl hmessages, Or.inl rfl, Or.inl rfl,
    Or.inl rfl, Or.inr rfl, Or.inr rfl, Or.inr rfl, Or.inr rfl⟩

/-! ## The bytes -/

theorem CanonicalChatRequest.readable_toJson {c : CanonicalChatRequest}
    (hvalues : c.asRequest.HasValues format) : c.toJson.Readable Json.maxDepth := by
  have hparts := And.intro hvalues.readable_tool hvalues.readable_format
  simp only [Json.maxDepth, Nat.reduceSub] at hparts ⊢
  simpa [toJson, asRequest] using hparts

@[simp] theorem CanonicalPrefixMessage.readable_toJson {n : Nat}
    (message : CanonicalPrefixMessage) : message.toJson.Readable (n + 4) := by
  simp [toJson]

theorem CanonicalPrefix.readable_toJson {c : CanonicalPrefix}
    (hvalues : c.asRequest.HasValues format) : c.toJson.Readable Json.maxDepth := by
  have hparts := And.intro hvalues.readable_tool hvalues.readable_format
  simp only [Json.maxDepth, Nat.reduceSub] at hparts ⊢
  simpa [toJson, asRequest] using hparts

variable {request : ChatCompletionRequest} {sha256 : List UInt8 → List UInt8}

/-- An object that spells a request without a temperature is a body that the chat route
reads. -/
theorem ChatCompletionRequest.fromBody_of_isObject {j : Json}
    (h : j.IsObject (request.SpelledBy fun _ => "")) (hj : j.Readable Json.maxDepth)
    (hvalues : request.HasValues format) (htemperature : request.temperature = none) :
    fromBody format readF32 j.toVec = some request := by
  rw [fromBody, Json.fromSlice_toVec hj]
  exact fromJson_of_isObject h hvalues (by simp [htemperature])

/-- Of a request that has been read, only the name of the model is changed before it is hashed:
an alias is replaced. -/
theorem ChatCompletionRequest.hasValues_withModel {body : List UInt8}
    (h : fromBody format readF32 body = some request) (model : Option String) :
    { request with model := model }.HasValues Json.plainNumbers :=
  ⟨(hasValues_of_fromBody h).tools, (hasValues_of_fromBody h).responseFormat⟩

theorem ChatCompletionRequest.HasValues.canonical_of_encode (hvalues : request.HasValues format)
    (hvalues' : request'.HasValues format)
    (h : request.canonical.encode = request'.canonical.encode) :
    request.canonical = request'.canonical := by
  have hread : ∀ {r : ChatCompletionRequest}, r.HasValues format →
      fromBody format (fun _ => none) r.canonical.encode = some r.canonical.asRequest := by
    intro r hr
    have hr : r.canonical.asRequest.HasValues format := ⟨hr.tools, hr.responseFormat⟩
    exact fromBody_of_isObject (r.canonical.isObject_toJson _)
      (CanonicalChatRequest.readable_toJson hr) hr rfl
  have hsame := hread hvalues
  rw [h, hread hvalues', Option.some.injEq] at hsame
  calc request.canonical = request.canonical.asRequest.canonical := rfl
    _ = request'.canonical.asRequest.canonical := by rw [hsame]
    _ = request'.canonical := rfl

theorem ChatCompletionRequest.HasValues.canonicalPrefix_of_encode
    (hvalues : request.HasValues format) (hvalues' : request'.HasValues format)
    (h : (canonicalPrefix request).encode = (canonicalPrefix request').encode) :
    canonicalPrefix request = canonicalPrefix request' := by
  have hread : ∀ {r : ChatCompletionRequest}, r.HasValues format →
      fromBody format (fun _ => none) (canonicalPrefix r).encode =
        some (canonicalPrefix r).asRequest := by
    intro r hr
    have hr : (canonicalPrefix r).asRequest.HasValues format := ⟨hr.tools, hr.responseFormat⟩
    exact fromBody_of_isObject ((canonicalPrefix r).isObject_toJson _)
      (CanonicalPrefix.readable_toJson hr) hr rfl
  have hsame := hread hvalues
  rw [h, hread hvalues', Option.some.injEq] at hsame
  exact canonicalPrefix_of_asRequest hsame.symm

/-! ## The digests -/

/-- The digest of the encoding as it is. -/
def keyDigest (sha256 : List UInt8 → List UInt8) : CanonicalChatRequest → Option String :=
  cacheDigest (fun c => some c.encode) sha256

/-- The key of a request, as `cache_key_for_request` computes it. -/
def cacheKey (sha256 : List UInt8 → List UInt8) : ChatCompletionRequest → Option String :=
  cacheKeyForRequest (keyDigest sha256)

theorem cacheKey_of_cached (hstream : request.streamEnabled = false)
    (hzero : (request.temperature.getD .zero).isPositive = false) :
    cacheKey sha256 request =
      some (String.ofList (Text.hexBytes (sha256 request.canonical.encode))) := by
  simp [cacheKey, cacheKeyForRequest, hstream, hzero, keyDigest, cacheDigest]

theorem cached_of_cacheKey {key : String} (h : cacheKey sha256 request = some key) :
    request.streamEnabled = false ∧ (request.temperature.getD .zero).isPositive = false := by
  unfold cacheKey cacheKeyForRequest at h
  split at h
  · cases h
  · rename_i hcached
    simpa using hcached

theorem ChatCompletionRequest.HasValues.canonical_of_cacheKey (hsha256 : Function.Injective sha256)
    {key : String} (hvalues : request.HasValues format) (hvalues' : request'.HasValues format)
    (hkey : cacheKey sha256 request = some key) (hkey' : cacheKey sha256 request' = some key) :
    request'.canonical = request.canonical := by
  have happart : ToldApart (fun c => some c.encode) sha256 request' request :=
    ⟨fun h => hvalues'.canonical_of_encode hvalues (Option.some.inj h),
      fun h => congrArg some (hsha256 (Option.some.inj h))⟩
  exact happart.canonical_of_cacheKey hkey' hkey

/-- Requests that have been read share a cache key exactly if both are cached and agree in
everything but the temperature and the choice of a stream, and they share a fingerprint exactly
if they agree in the prefix: neither text loses anything on the way to SHA-256. -/
theorem digests_of_bodies (hsha256 : Function.Injective sha256) {body body' : List UInt8}
    {read read' : ChatCompletionRequest}
    (hread : ChatCompletionRequest.fromBody format readF32 body = some read)
    (hread' : ChatCompletionRequest.fromBody format readF32 body' = some read')
    (model model' : Option String) :
    let request := { read with model := model }
    let request' := { read' with model := model' }
    (∀ key, cacheKey sha256 request = some key →
      (cacheKey sha256 request' = some key ↔
        request'.streamEnabled = false ∧
          (request'.temperature.getD .zero).isPositive = false ∧
          request'.canonical = request.canonical)) ∧
    ∀ fingerprint, (fingerprintRequest sha256 request).fingerprint = some fingerprint →
      ((fingerprintRequest sha256 request').fingerprint = some fingerprint ↔
        canonicalPrefix request' = canonicalPrefix request) := by
  intro request request'
  have hvalues := ChatCompletionRequest.hasValues_withModel hread model
  have hvalues' := ChatCompletionRequest.hasValues_withModel hread' model'
  refine ⟨fun key hkey => ⟨fun hkey' => ?_, ?_⟩, fun fingerprint hprint => ⟨fun hprint' => ?_, ?_⟩⟩
  · obtain ⟨hstream', hzero'⟩ := cached_of_cacheKey hkey'
    exact ⟨hstream', hzero', hvalues.canonical_of_cacheKey hsha256 hvalues' hkey hkey'⟩
  · rintro ⟨hstream', hzero', hcanonical⟩
    obtain ⟨hstream, hzero⟩ := cached_of_cacheKey hkey
    rw [← hkey, cacheKey_of_cached hstream hzero, cacheKey_of_cached hstream' hzero', hcanonical]
  · have hsome : (fingerprintRequest sha256 request).fingerprint.isSome = true := by simp [hprint]
    have hsome' : (fingerprintRequest sha256 request').fingerprint.isSome = true := by
      simp [hprint']
    rw [fingerprint_of_isSome hsome] at hprint
    rw [fingerprint_of_isSome hsome', ← hprint, Option.some.injEq, hexDigest_inj,
      hsha256.eq_iff] at hprint'
    exact hvalues'.canonicalPrefix_of_encode hvalues hprint'
  · intro hprefix
    rw [fingerprintRequest_congr sha256 hprefix]
    exact hprint

end Reading

/-- A question that is asked of the model an alias stands for and of the model itself. -/
theorem digests_of_bodies_alias :
    let question : OpenAiChatRequest :=
      { model := "fast", messages := [{ role := .user, content := "2+2?" }], temperature := none
        maxTokens := some 8, stream := none, tools := none, toolChoice := some (.mode .auto)
        parallelToolCalls := none, responseFormat := none }
    let again := { question with model := "m", stream := some false }
    cacheKey id { again.asRequest with model := some "m" } =
        cacheKey id { question.asRequest with model := some "m" } ∧
      (fingerprintRequest id { again.asRequest with model := some "m" }).fingerprint ≠
        (fingerprintRequest id question.asRequest).fingerprint := by
  intro question again
  have hread : ChatCompletionRequest.fromBody Json.plainNumbers (fun _ => none)
      (question.toJson fun _ => "0").toVec = some question.asRequest :=
    OpenAiChatRequest.fromBody_toVec ⟨by simp [question, OpenAiChatRequest.asRequest],
      by simp [question, OpenAiChatRequest.asRequest]⟩ (by simp [question])
  have hread' : ChatCompletionRequest.fromBody Json.plainNumbers (fun _ => none)
      (again.toJson fun _ => "0").toVec = some again.asRequest :=
    OpenAiChatRequest.fromBody_toVec ⟨by simp [again, question, OpenAiChatRequest.asRequest],
      by simp [again, question, OpenAiChatRequest.asRequest]⟩ (by simp [again, question])
  have hdigests := digests_of_bodies Function.injective_id hread hread' (some "m") (some "m")
  have hprints := digests_of_bodies Function.injective_id hread hread' (some "fast") (some "m")
  constructor
  · have hkey : cacheKey id { question.asRequest with model := some "m" } = some _ :=
      cacheKey_of_cached rfl rfl
    rw [hkey]
    exact (hdigests.1 _ hkey).mpr ⟨rfl, rfl, rfl⟩
  · intro hsame
    have hprint : (fingerprintRequest id question.asRequest).fingerprint = some _ :=
      fingerprint_of_isSome rfl
    rw [hprint] at hsame
    have hmodel := congrArg CanonicalPrefix.model ((hprints.2 _ hprint).mp hsame)
    exact absurd hmodel (by decide)

end RustyGate
