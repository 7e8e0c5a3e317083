/-
When a cached answer may stand in for an answer of a provider.

Two requests with one cache key agree in every field that is hashed.  The temperature is
not: it only decides whether there is a key.  There an absent temperature counts as zero,
while a provider is sent no temperature at all and uses its own.  So the bodies that two
such requests lead to are the same exactly when their temperatures are written alike.
-/
import RustyGate.Cache.Response
import RustyGate.Providers.Outbound
import RustyGate.Routing.Fallback

namespace RustyGate

open Text

/-- `serde_json::to_vec`, SHA-256 and two digits for every byte. -/
def cacheDigest (encode : CanonicalChatRequest → Option (List UInt8))
    (sha256 : List UInt8 → List UInt8) (c : CanonicalChatRequest) : Option String :=
  (encode c).map fun bytes => String.ofList (hexBytes (sha256 bytes))

/-- Two requests are told apart if their encodings differ whenever what is hashed does, and do
not collide under SHA-256. -/
structure ToldApart (encode : CanonicalChatRequest → Option (List UInt8))
    (sha256 : List UInt8 → List UInt8) (r₁ r₂ : ChatCompletionRequest) : Prop where
  encoded : encode r₁.canonical = encode r₂.canonical → r₁.canonical = r₂.canonical
  hashed : (encode r₁.canonical).map sha256 = (encode r₂.canonical).map sha256 →
    encode r₁.canonical = encode r₂.canonical

section

variable {encode : CanonicalChatRequest → Option (List UInt8)}
  {sha256 : List UInt8 → List UInt8} {r₁ r₂ : ChatCompletionRequest} {key : String}

theorem digest_of_cacheKey {digest : CanonicalChatRequest → Option String}
    {r : ChatCompletionRequest} (h : cacheKeyForRequest digest r = some key) :
    digest r.canonical = some key := by
  unfold cacheKeyForRequest at h
  split at h
  · cases h
  · exact h

theorem ToldApart.canonical_of_cacheKey (h : ToldApart encode sha256 r₁ r₂)
    (h₁ : cacheKeyForRequest (cacheDigest encode sha256) r₁ = some key)
    (h₂ : cacheKeyForRequest (cacheDigest encode sha256) r₂ = some key) :
    r₁.canonical = r₂.canonical := by
  obtain ⟨bytes₁, he₁, hkey₁⟩ := Option.map_eq_some_iff.mp (digest_of_cacheKey h₁)
  obtain ⟨bytes₂, he₂, hkey₂⟩ := Option.map_eq_some_iff.mp (digest_of_cacheKey h₂)
  have hhex : hexBytes (sha256 bytes₁) = hexBytes (sha256 bytes₂) :=
    String.ofList_inj.mp (hkey₁.trans hkey₂.symm)
  refine h.encoded (h.hashed ?_)
  rw [he₁, he₂, Option.map_some, Option.map_some, hexBytes_injective hhex]

variable {formatF32 : F32 → String}

/-- With everything that is hashed the same, the temperature is all that can differ. -/
theorem requestBody_eq_iff (h : r₁.canonical = r₂.canonical)
    (provider : OpenAiCompatibleProvider) (providerModel : String) :
    provider.requestBody formatF32 (requestForProvider r₁ providerModel) =
        provider.requestBody formatF32 (requestForProvider r₂ providerModel) ↔
      r₁.temperature.map formatF32 = r₂.temperature.map formatF32 := by
  simp only [ChatCompletionRequest.canonical, CanonicalChatRequest.mk.injEq] at h
  obtain ⟨-, hmessages, htools, hchoice, hformat, htokens, hparallel⟩ := h
  unfold OpenAiCompatibleProvider.requestBody OpenAiCompatibleProvider.outboundRequest
    OpenAiChatRequest.toJson requestForProvider
  simp only [Option.getD_some, hmessages, htools, hchoice, hformat, htokens, hparallel]
  rw [Json.toText_optionalField_iff (by simp)]
  simp only [Json.render]
  cases r₁.temperature <;> cases r₂.temperature <;> simp [String.toList_inj]

end

/-! ## A greeting -/

def helloRequest (temperature : Option F32) (stream : Option Bool) : ChatCompletionRequest where
  model := some "m"
  messages := [{ role := .user, content := "hi" }]
  temperature := temperature
  stream := stream

/-- A digest that keeps the encoding as it is. -/
def plainDigest : CanonicalChatRequest → Option String := cacheDigest (fun c => some c.encode) id

/-- The key is the same for every temperature and mode that is cached. -/
theorem cacheKey_hello {temperature : Option F32} {stream : Option Bool}
    (hstream : stream.getD false = false) (hzero : (temperature.getD .zero).isPositive = false) :
    cacheKeyForRequest plainDigest (helloRequest temperature stream) =
      plainDigest (helloRequest none none).canonical := by
  have hcached : ¬((helloRequest temperature stream).streamEnabled ||
      ((helloRequest temperature stream).temperature.getD .zero).isPositive) = true := by
    simp [ChatCompletionRequest.streamEnabled, helloRequest, hstream, hzero]
  rw [cacheKeyForRequest, if_neg hcached]
  rfl

theorem hello_toldApart (temperature temperature' : Option F32) (stream stream' : Option Bool) :
    ToldApart (fun c => some c.encode) id (helloRequest temperature stream)
      (helloRequest temperature' stream') :=
  ⟨fun _ => rfl, fun _ => rfl⟩

/-! ## The answers that may be shared -/

theorem sameBodies_iff_sameTemperature {encode : CanonicalChatRequest → Option (List UInt8)}
    {sha256 : List UInt8 → List UInt8} {formatF32 : F32 → String} {r₁ r₂ : ChatCompletionRequest}
    {key : String} (h : ToldApart encode sha256 r₁ r₂)
    (h₁ : cacheKeyForRequest (cacheDigest encode sha256) r₁ = some key)
    (h₂ : cacheKeyForRequest (cacheDigest encode sha256) r₂ = some key) :
    (∀ (provider : OpenAiCompatibleProvider) (providerModel : String),
        provider.requestBody formatF32 (requestForProvider r₁ providerModel) =
          provider.requestBody formatF32 (requestForProvider r₂ providerModel)) ↔
      r₁.temperature.map formatF32 = r₂.temperature.map formatF32 := by
  have hcanonical := h.canonical_of_cacheKey h₁ h₂
  constructor
  · intro hbodies
    exact (requestBody_eq_iff hcanonical ⟨"", ""⟩ "").mp (hbodies ⟨"", ""⟩ "")
  · intro htemperature provider providerModel
    exact (requestBody_eq_iff hcanonical provider providerModel).mpr htemperature

theorem sameBodies_iff_sameTemperature_hello :
    OpenAiCompatibleProvider.requestBody (fun _ => "0.0") ⟨"p", "m"⟩
        (requestForProvider (helloRequest (some .zero) none) "m") =
      OpenAiCompatibleProvider.requestBody (fun _ => "0.0") ⟨"p", "m"⟩
        (requestForProvider (helloRequest (some .zero) (some false)) "m") :=
  (sameBodies_iff_sameTemperature (hello_toldApart _ _ _ _) (cacheKey_hello rfl rfl)
    (cacheKey_hello rfl rfl)).mpr rfl ⟨"p", "m"⟩ "m"

/-- The answer to a request with temperature zero is served for one that leaves the
temperature to the provider. -/
theorem absent_temperature_shares_key :
    ¬∀ (encode : CanonicalChatRequest → Option (List UInt8)) (sha256 : List UInt8 → List UInt8)
        (formatF32 : F32 → String) (r₁ r₂ : ChatCompletionRequest) (key : String),
      ToldApart encode sha256 r₁ r₂ →
      cacheKeyForRequest (cacheDigest encode sha256) r₁ = some key →
      cacheKeyForRequest (cacheDigest encode sha256) r₂ = some key →
      ∀ (provider : OpenAiCompatibleProvider) (providerModel : String),
        provider.requestBody formatF32 (requestForProvider r₁ providerModel) =
          provider.requestBody formatF32 (requestForProvider r₂ providerModel) := by
  intro hclaim
  have hbody := hclaim (fun c => some c.encode) id (fun _ => "0.0") (helloRequest none none)
    (helloRequest (some .zero) none) _ (hello_toldApart _ _ _ _) (cacheKey_hello rfl rfl)
    (cacheKey_hello rfl rfl) ⟨"p", "m"⟩ "m"
  have hcanonical : (helloRequest none none).canonical =
      (helloRequest (some .zero) none).canonical := rfl
  have htemperature := (requestBody_eq_iff hcanonical ⟨"p", "m"⟩ "m").mp hbody
  cases htemperature

end RustyGate
