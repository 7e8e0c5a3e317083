/-
The fingerprint of a request's stable prefix (`src/routing/prefix_fingerprint.rs`).

What a conversation starts with comes back from request to request, and the last message of the
user and what follows it do not.  The messages before it, with one space between their words,
are hashed together with the model and the tools.  `canonicalPrefix_eq_iff` says what the hashed
value depends on, in terms of the request and not of the normalisation: of a message its role,
its words, its tool calls and the call it answers, and of messages without words nothing.
-/
import RustyGate.Routing.Fallback
import RustyGate.Text.Utf8
import RustyGate.Text.Words

namespace RustyGate

def fingerprintVersion : Nat := 1

/-- A message of the prefix as it is hashed. -/
structure CanonicalPrefixMessage where
  role : ChatRole
  content : String
  toolCalls : Option (List ToolCall)
  toolCallId : Option String
  deriving DecidableEq, Repr

structure CanonicalPrefix where
  version : Nat
  model : String
  messages : List CanonicalPrefixMessage
  tools : Option (List Tool)
  toolChoice : Option ToolChoice
  parallelToolCalls : Option Bool
  responseFormat : Option Json

/-- The result with the figures about the prefix, which routing does not read. -/
structure PrefixFingerprint extends PrefixFingerprintResult where
  prefixCharLength : Nat
  prefixTokenEstimate : UInt32
  deriving DecidableEq, Repr

/-! ## The prefix -/

/-- `rposition`: the last place where `p` holds. -/
def rposition {α : Type} (p : α → Bool) : List α → Option Nat
  | [] => none
  | x :: xs =>
      match rposition p xs with
      | some i => some (i + 1)
      | none => if p x then some 0 else none

def ChatMessage.isUser (message : ChatMessage) : Bool := message.role == .user

def stablePrefixMessages (messages : List ChatMessage) : List ChatMessage :=
  match rposition ChatMessage.isUser messages with
  | none => messages
  | some lastUserIndex => messages.take lastUserIndex

def normalizeText (text : String) : String :=
  String.ofList (Text.joinWords (Text.splitWhitespace text.toList))

def normalizeMessage (message : ChatMessage) : Option CanonicalPrefixMessage :=
  let content := normalizeText message.content
  if content.isEmpty then none
  else some ⟨message.role, content, message.toolCalls, message.toolCallId⟩

def normalizedMessages (request : ChatCompletionRequest) : List CanonicalPrefixMessage :=
  (stablePrefixMessages request.messages).filterMap normalizeMessage

/-! ## The hashed text -/

def CanonicalPrefixMessage.toJson (message : CanonicalPrefixMessage) : Json :=
  .object [
    ("role", message.role.toJson),
    ("content", .string message.content),
    ("tool_calls",
      Json.nullable (fun calls => .array (calls.map ToolCall.toJson)) message.toolCalls),
    ("tool_call_id", Json.nullable .string message.toolCallId)]

def CanonicalPrefix.toJson (canonical : CanonicalPrefix) : Json :=
  .object [
    ("version", .number (toString canonical.version)),
    ("model", .string canonical.model),
    ("messages", .array (canonical.messages.map CanonicalPrefixMessage.toJson)),
    ("tools", Json.nullable (fun tools => .array (tools.map Tool.toJson)) canonical.tools),
    ("tool_choice", Json.nullable ToolChoice.toJson canonical.toolChoice),
    ("parallel_tool_calls", Json.nullable .bool canonical.parallelToolCalls),
    ("response_format", Json.nullable id canonical.responseFormat)]

/-- `serde_json::to_vec`, which cannot fail on these types. -/
def CanonicalPrefix.encode (canonical : CanonicalPrefix) : List UInt8 :=
  Text.toUtf8 canonical.toJson.render

def hexDigest (sha256 : List UInt8 → List UInt8) (bytes : List UInt8) : String :=
  String.ofList (Text.hexBytes (sha256 bytes))

/-! ## The fingerprint -/

def canonicalPrefix (request : ChatCompletionRequest) : CanonicalPrefix where
  version := fingerprintVersion
  model := request.model.getD ""
  messages := normalizedMessages request
  tools := request.tools
  toolChoice := request.toolChoice
  parallelToolCalls := request.parallelToolCalls
  responseFormat := request.responseFormat

def hasHighValuePrefix (request : ChatCompletionRequest) : Bool :=
  (normalizedMessages request).any (fun message =>
      message.role == .system || message.role == .developer || message.role == .tool) ||
    request.tools.any (fun tools => !tools.isEmpty) ||
    request.toolChoice.isSome ||
    request.responseFormat.isSome

def normalizedPrefixText (request : ChatCompletionRequest) : String :=
  "\n".intercalate ((normalizedMessages request).map CanonicalPrefixMessage.content)

def fingerprintRequest (sha256 : List UInt8 → List UInt8) (request : ChatCompletionRequest) :
    PrefixFingerprint where
  fingerprint :=
    if hasHighValuePrefix request then some (hexDigest sha256 (canonicalPrefix request).encode)
    else none
  confidence := if hasHighValuePrefix request then .high else .low
  prefixCharLength := (normalizedPrefixText request).length
  prefixTokenEstimate := estimateTokensForText (normalizedPrefixText request)

/-! ## The messages before the last user message -/

theorem rposition_eq_none {α : Type} {p : α → Bool} {xs : List α} (h : ∀ x ∈ xs, p x = false) :
    rposition p xs = none := by
  induction xs with
  | nil => rfl
  | cons x xs ih =>
      have hrest := ih fun y hy => h y (List.mem_cons_of_mem x hy)
      rw [rposition, hrest]
      exact if_neg (Bool.eq_false_iff.mp (h x List.mem_cons_self))

theorem rposition_append_cons {α : Type} {p : α → Bool} {x : α} {after : List α}
    (hx : p x = true) (hafter : ∀ y ∈ after, p y = false) (before : List α) :
    rposition p (before ++ x :: after) = some before.length := by
  induction before with
  | nil =>
      rw [List.nil_append, rposition, rposition_eq_none hafter]
      exact if_pos hx
  | cons y before ih =>
      rw [List.cons_append, rposition, ih]
      rfl

/-- What stands before the last message of the user, or everything if there is none. -/
inductive BeforeLastUser : List ChatMessage → List ChatMessage → Prop where
  | last {before after : List ChatMessage} {user : ChatMessage} (huser : user.role = .user)
      (hafter : ∀ message ∈ after, message.role ≠ .user) :
      BeforeLastUser (before ++ user :: after) before
  | all {messages : List ChatMessage} (h : ∀ message ∈ messages, message.role ≠ .user) :
      BeforeLastUser messages messages

theorem stablePrefixMessages_eq {messages before : List ChatMessage}
    (h : BeforeLastUser messages before) : stablePrefixMessages messages = before := by
  cases h with
  | @last before after user huser hafter =>
      have huserIs : user.isUser = true := beq_iff_eq.mpr huser
      have hnone : ∀ message ∈ after, message.isUser = false :=
        fun message hmessage => beq_eq_false_iff_ne.mpr (hafter message hmessage)
      unfold stablePrefixMessages
      rw [rposition_append_cons huserIs hnone]
      exact List.take_left
  | all hall =>
      have hnone : ∀ message ∈ messages, message.isUser = false :=
        fun message hmessage => beq_eq_false_iff_ne.mpr (hall message hmessage)
      unfold stablePrefixMessages
      rw [rposition_eq_none hnone]

/-! ## What is hashed of a message -/

/-- A message without the white space between its words. -/
def messageView (message : ChatMessage) :
    ChatRole × List (List Char) × Option (List ToolCall) × Option String :=
  (message.role, Text.splitWhitespace message.content.toList, message.toolCalls,
    message.toolCallId)

/-- The messages that are not blank. -/
def prefixView (messages : List ChatMessage) :
    List (ChatRole × List (List Char) × Option (List ToolCall) × Option String) :=
  (messages.filter fun message => !Text.isBlank message.content).map messageView

def canonicalMessage (message : ChatMessage) : CanonicalPrefixMessage :=
  ⟨message.role, normalizeText message.content, message.toolCalls, message.toolCallId⟩

theorem normalizeText_inj {text text' : String} :
    normalizeText text = normalizeText text' ↔
      Text.splitWhitespace text.toList = Text.splitWhitespace text'.toList := by
  unfold normalizeText
  rw [String.ofList_inj]
  exact Text.joinWords_splitWhitespace_inj

theorem normalizeText_isEmpty (text : String) :
    (normalizeText text).isEmpty = Text.isBlank text := by
  rw [Bool.eq_iff_iff, Text.isBlank_iff, String.isEmpty_iff]
  have hempty : normalizeText "" = "" := by decide +kernel
  have hnone : Text.splitWhitespace "".toList = [] := by decide +kernel
  rw [← hempty, normalizeText_inj, hnone]

theorem normalizeMessage_eq (message : ChatMessage) :
    normalizeMessage message =
      if !Text.isBlank message.content then some (canonicalMessage message) else none := by
  show (if (normalizeText message.content).isEmpty then none
    else some (canonicalMessage message)) = _
  rw [normalizeText_isEmpty]
  cases Text.isBlank message.content <;> rfl

theorem filterMap_normalizeMessage (messages : List ChatMessage) :
    messages.filterMap normalizeMessage =
      (messages.filter fun message => !Text.isBlank message.content).map canonicalMessage := by
  induction messages with
  | nil => rfl
  | cons message messages ih =>
      rw [List.filterMap_cons, normalizeMessage_eq, ih]
      cases hblank : Text.isBlank message.content <;> simp [hblank]

theorem canonicalMessage_inj {message message' : ChatMessage} :
    canonicalMessage message = canonicalMessage message' ↔
      messageView message = messageView message' := by
  unfold canonicalMessage messageView
  simp only [CanonicalPrefixMessage.mk.injEq, Prod.mk.injEq, normalizeText_inj]

/-- Messages are hashed alike exactly if they are seen alike. -/
theorem filterMap_normalizeMessage_inj {messages messages' : List ChatMessage} :
    messages.filterMap normalizeMessage = messages'.filterMap normalizeMessage ↔
      prefixView messages = prefixView messages' := by
  unfold prefixView
  rw [filterMap_normalizeMessage, filterMap_normalizeMessage]
  generalize (messages.filter fun message => !Text.isBlank message.content) = kept
  generalize (messages'.filter fun message => !Text.isBlank message.content) = kept'
  induction kept generalizing kept' with
  | nil => cases kept' <;> simp
  | cons message kept ih =>
      cases kept' with
      | nil => simp
      | cons message' kept' =>
          rw [List.map_cons, List.map_cons, List.map_cons, List.map_cons, List.cons.injEq,
            List.cons.injEq, canonicalMessage_inj, ih kept']

/-! ## What is hashed of a request -/

/-- The requests agree in everything that belongs to the stable prefix, where `before` and
`before'` are the messages before the last one of the user. -/
structure SamePrefix (request request' : ChatCompletionRequest)
    (before before' : List ChatMessage) : Prop where
  model : request.model = request'.model
  tools : request.tools = request'.tools
  toolChoice : request.toolChoice = request'.toolChoice
  parallelToolCalls : request.parallelToolCalls = request'.parallelToolCalls
  responseFormat : request.responseFormat = request'.responseFormat
  messages : prefixView before = prefixView before'

variable {request request' : ChatCompletionRequest} {before before' : List ChatMessage}

theorem normalizedMessages_inj (h : BeforeLastUser request.messages before)
    (h' : BeforeLastUser request'.messages before') :
    normalizedMessages request = normalizedMessages request' ↔
      prefixView before = prefixView before' := by
  unfold normalizedMessages
  rw [stablePrefixMessages_eq h, stablePrefixMessages_eq h']
  exact filterMap_normalizeMessage_inj

/-- An absent model is hashed as an empty one, and there is no other ambiguity. -/
theorem canonicalPrefix_eq_iff (hmodel : request.model.getD "" ≠ "")
    (hmodel' : request'.model.getD "" ≠ "") (h : BeforeLastUser request.messages before)
    (h' : BeforeLastUser request'.messages before') :
    canonicalPrefix request = canonicalPrefix request' ↔
      SamePrefix request request' before before' := by
  have hnames : request.model.getD "" = request'.model.getD "" ↔
      request.model = request'.model := by
    cases hleft : request.model with
    | none => exact absurd (by rw [hleft]; rfl) hmodel
    | some left =>
        cases hright : request'.model with
        | none => exact absurd (by rw [hright]; rfl) hmodel'
        | some right => simp
  unfold canonicalPrefix
  rw [CanonicalPrefix.mk.injEq, hnames, normalizedMessages_inj h h']
  constructor
  · rintro ⟨-, hmodel, hmessages, htools, hchoice, hparallel, hformat⟩
    exact ⟨hmodel, htools, hchoice, hparallel, hformat, hmessages⟩
  · rintro ⟨hmodel, htools, hchoice, hparallel, hformat, hmessages⟩
    exact ⟨rfl, hmodel, hmessages, htools, hchoice, hparallel, hformat⟩

/-- The result is a function of what is hashed. -/
theorem fingerprintRequest_congr (sha256 : List UInt8 → List UInt8)
    (h : canonicalPrefix request = canonicalPrefix request') :
    fingerprintRequest sha256 request = fingerprintRequest sha256 request' := by
  have hfields := h
  unfold canonicalPrefix at hfields
  rw [CanonicalPrefix.mk.injEq] at hfields
  obtain ⟨-, -, hmessages, htools, hchoice, -, hformat⟩ := hfields
  have hhigh : hasHighValuePrefix request = hasHighValuePrefix request' := by
    unfold hasHighValuePrefix
    rw [hmessages, htools, hchoice, hformat]
  have htext : normalizedPrefixText request = normalizedPrefixText request' := by
    unfold normalizedPrefixText
    rw [hmessages]
  unfold fingerprintRequest
  rw [hhigh, htext, h]

theorem hexDigest_inj {sha256 : List UInt8 → List UInt8} {bytes bytes' : List UInt8} :
    hexDigest sha256 bytes = hexDigest sha256 bytes' ↔ sha256 bytes = sha256 bytes' := by
  unfold hexDigest
  rw [String.ofList_inj]
  exact Text.hexBytes_injective.eq_iff

/-- A request that has a fingerprint has that of its hashed text. -/
theorem fingerprint_of_isSome {sha256 : List UInt8 → List UInt8}
    (h : (fingerprintRequest sha256 request).fingerprint.isSome = true) :
    (fingerprintRequest sha256 request).fingerprint =
      some (hexDigest sha256 (canonicalPrefix request).encode) := by
  unfold fingerprintRequest at h ⊢
  dsimp only at h ⊢
  by_cases hhigh : hasHighValuePrefix request = true
  · exact if_pos hhigh
  · rw [if_neg hhigh] at h
    cases h

/-! ## What is not hashed -/

theorem canonicalPrefix_congr (hmodel : request.model = request'.model)
    (htools : request.tools = request'.tools) (hchoice : request.toolChoice = request'.toolChoice)
    (hparallel : request.parallelToolCalls = request'.parallelToolCalls)
    (hformat : request.responseFormat = request'.responseFormat)
    (hmessages : normalizedMessages request = normalizedMessages request') :
    canonicalPrefix request = canonicalPrefix request' := by
  unfold canonicalPrefix
  rw [hmodel, htools, hchoice, hparallel, hformat, hmessages]

theorem rposition_map {α β : Type} (p : β → Bool) (f : α → β) (xs : List α) :
    rposition p (xs.map f) = rposition (fun x => p (f x)) xs := by
  induction xs with
  | nil => rfl
  | cons x xs ih => rw [List.map_cons, rposition, rposition, ih]

/-- Where the messages are cut depends on their roles. -/
theorem map_stablePrefixMessages (messages : List ChatMessage) :
    (stablePrefixMessages messages).map messageView =
      match rposition (fun view => view.1 == ChatRole.user) (messages.map messageView) with
      | none => messages.map messageView
      | some lastUserIndex => (messages.map messageView).take lastUserIndex := by
  have hposition : rposition (fun view => view.1 == ChatRole.user) (messages.map messageView) =
      rposition ChatMessage.isUser messages := rposition_map _ _ _
  unfold stablePrefixMessages
  rw [hposition]
  cases rposition ChatMessage.isUser messages with
  | none => rfl
  | some lastUserIndex => exact List.map_take

/-- A message is blank if it has no words. -/
theorem prefixView_eq (messages : List ChatMessage) :
    prefixView messages = (messages.map messageView).filter fun view => !view.2.1.isEmpty := by
  unfold prefixView
  rw [List.filter_map]
  refine congrArg (List.map messageView) (List.filter_congr fun message _ => ?_)
  show (!Text.isBlank message.content) =
    !(Text.splitWhitespace message.content.toList).isEmpty
  rw [Bool.eq_iff_iff, Bool.not_eq_true', Bool.not_eq_true', ← Bool.not_eq_true,
    ← Bool.not_eq_true, Text.isBlank_iff, List.isEmpty_iff]

/-- Messages with the same words are hashed alike. -/
theorem normalizedMessages_congr
    (h : request.messages.map messageView = request'.messages.map messageView) :
    normalizedMessages request = normalizedMessages request' := by
  unfold normalizedMessages
  rw [filterMap_normalizeMessage_inj, prefixView_eq, prefixView_eq, map_stablePrefixMessages,
    map_stablePrefixMessages, h]

/-- Where the hash and the encoding keep two requests apart, they have the same fingerprint
exactly if they agree in the stable prefix.  Other messages from the last one of the user on
leave the whole result as it is, and so do other white space between words, another temperature,
another bound on tokens and streaming. -/
theorem fingerprint_stablePrefix (sha256 : List UInt8 → List UInt8) :
    (∀ (request request' : ChatCompletionRequest) (before before' : List ChatMessage),
      request.model.getD "" ≠ "" → request'.model.getD "" ≠ "" →
      BeforeLastUser request.messages before → BeforeLastUser request'.messages before' →
      (fingerprintRequest sha256 request).fingerprint.isSome = true →
      (fingerprintRequest sha256 request').fingerprint.isSome = true →
      (sha256 (canonicalPrefix request).encode = sha256 (canonicalPrefix request').encode →
        (canonicalPrefix request).encode = (canonicalPrefix request').encode) →
      ((canonicalPrefix request).encode = (canonicalPrefix request').encode →
        canonicalPrefix request = canonicalPrefix request') →
      ((fingerprintRequest sha256 request).fingerprint =
          (fingerprintRequest sha256 request').fingerprint ↔
        SamePrefix request request' before before')) ∧
    (∀ (request : ChatCompletionRequest) (before after after' : List ChatMessage)
      (user user' : ChatMessage),
      request.messages = before ++ user :: after →
      user.role = .user → (∀ message ∈ after, message.role ≠ .user) →
      user'.role = .user → (∀ message ∈ after', message.role ≠ .user) →
      fingerprintRequest sha256 { request with messages := before ++ user' :: after' } =
        fingerprintRequest sha256 request) ∧
    ∀ (request : ChatCompletionRequest) (messages : List ChatMessage) (temperature : Option F32)
      (maxTokens : Option UInt32) (stream : Option Bool),
      messages.map messageView = request.messages.map messageView →
      fingerprintRequest sha256
          { request with
            messages := messages, temperature := temperature, maxTokens := maxTokens
            stream := stream } =
        fingerprintRequest sha256 request := by
  refine ⟨?_, ?_, ?_⟩
  · intro request request' before before' hmodel hmodel' h h' hsome hsome' hsha hencode
    rw [fingerprint_of_isSome hsome, fingerprint_of_isSome hsome', Option.some_inj,
      hexDigest_inj, ← canonicalPrefix_eq_iff hmodel hmodel' h h']
    constructor
    · intro hdigest
      exact hencode (hsha hdigest)
    · intro hcanonical
      rw [hcanonical]
  · intro request before after after' user user' hmessages huser hafter huser' hafter'
    have hcut : BeforeLastUser request.messages before := hmessages ▸ .last huser hafter
    apply fingerprintRequest_congr
    refine canonicalPrefix_congr rfl rfl rfl rfl rfl ?_
    exact (normalizedMessages_inj (.last huser' hafter') hcut).mpr rfl
  · intro request messages temperature maxTokens stream hmessages
    apply fingerprintRequest_congr
    refine canonicalPrefix_congr rfl rfl rfl rfl rfl ?_
    exact normalizedMessages_congr hmessages

/-- A question behind an instruction. -/
def instructedRequest (model instruction question : String) : ChatCompletionRequest where
  model := some model
  messages := [{ role := .system, content := instruction }, { role := .user, content := question }]

/-- Another model has another fingerprint.  Another question and other white space have not. -/
theorem fingerprint_stablePrefix_instructed :
    (fingerprintRequest id (instructedRequest "fast" "Be brief." "Why?")).fingerprint ≠
      (fingerprintRequest id (instructedRequest "smart" "Be brief." "Why?")).fingerprint ∧
    fingerprintRequest id (instructedRequest "fast" "Be brief." "How?") =
      fingerprintRequest id (instructedRequest "fast" "Be brief." "Why?") ∧
    fingerprintRequest id (instructedRequest "fast" " Be\n brief. " "Why?") =
      fingerprintRequest id (instructedRequest "fast" "Be brief." "Why?") := by
  obtain ⟨hexact, hsuffix, hspace⟩ := fingerprint_stablePrefix id
  refine ⟨?_, ?_, ?_⟩
  · have hcut : ∀ model, BeforeLastUser (instructedRequest model "Be brief." "Why?").messages
        [{ role := .system, content := "Be brief." }] := by
      intro model
      show BeforeLastUser ([{ role := .system, content := "Be brief." }] ++
        { role := .user, content := "Why?" } :: []) _
      exact .last rfl (by simp)
    intro hsame
    have hprefix := (hexact _ _ _ _ (by decide +kernel) (by decide +kernel) (hcut "fast")
      (hcut "smart") (by decide +kernel) (by decide +kernel) (fun h => h)
      (fun h => absurd h (by decide +kernel))).mp hsame
    exact absurd hprefix.model (by decide +kernel)
  · exact hsuffix (instructedRequest "fast" "Be brief." "Why?")
      [{ role := .system, content := "Be brief." }] [] [] { role := .user, content := "Why?" }
      { role := .user, content := "How?" } rfl rfl (by simp) rfl (by simp)
  · exact hspace (instructedRequest "fast" "Be brief." "Why?")
      (instructedRequest "fast" " Be\n brief. " "Why?").messages none none none
      (by decide +kernel)

end RustyGate
