/-
AgentPlatform/ExecutionContract.lean

The values of the execution-authority contract (`agent_core.execution_contract`)
that native dispatch passes around: commands, claims and terminal observations.

A validated Python value is a Lean structure that carries its validity: a text
that went through `_normalized_text` is a `NormalizedText`, a digest field is a
`Digest`, a generation is positive, and a `NativeTerminalObservation` has the
fields its kind requires. A constructor that can raise is a function into
`Except Failure`; there is no other way to build the value.

`canonicalBytes` is the text that `canonical_digest` hashes. It determines the
payload up to key order (`canonicalBytes_injective`), and the canonical text of
an observation determines its kind (`NativeTerminalObservation.kind_of_canonical`).
-/
import AgentPlatform.Py.Datetime
import AgentPlatform.Py.Hash
import AgentPlatform.Py.Json
import AgentPlatform.Py.Text
import AgentPlatform.Py.Transaction

namespace AgentPlatform

open Py

/-- The exceptions the modelled code raises, with their codes. `database` is
any error PostgreSQL reports, `interrupted` whatever an injected checkpoint
raises and `provider` whatever a runtime provider raises. -/
inductive Failure
  | executionContract (code : String)
  | executionConflict (code : String)
  | executionApplication (code : String)
  | nativeDispatchApplication (code : String)
  | nativeDispatchWorker (code : String)
  | evidenceValidation (code : String)
  | runtimeControl (code : String)
  | database
  | typeError
  | overflowError
  | interrupted
  | provider
  deriving DecidableEq

/-! ### Validated texts and numbers -/

def maxIdBytes : Nat := 200
def maxScopeBytes : Nat := 128
def maxValueBytes : Nat := 512
def maxContentBytes : Nat := 32 * 1024

section Texts

variable [Unicodedata]

/-- A text accepted by `_normalized_text`. -/
@[ext]
structure NormalizedText (maximum : Nat) where
  value : String
  normalized : normalize value = value
  nonempty : value ≠ ""
  bounded : value.utf8ByteSize ≤ maximum
  deriving DecidableEq

def normalizedText (maximum : Nat) (code : String) (value : String) :
    Except Failure (NormalizedText maximum) :=
  if h : normalize value ≠ "" ∧ (normalize value).utf8ByteSize ≤ maximum then
    .ok ⟨normalize value, normalize_normalize value, h.1, h.2⟩
  else .error (.executionContract code)

/-- `_OpaqueId` and its subclasses. -/
abbrev OpaqueId := NormalizedText maxIdBytes
abbrev CommandId := OpaqueId
abbrev AttemptId := OpaqueId
abbrev AssignmentId := OpaqueId
abbrev PlacementId := OpaqueId
abbrev RuntimeInstanceId := OpaqueId
abbrev AgentInstanceId := OpaqueId
abbrev WorkflowRunId := OpaqueId
abbrev TaskRunId := OpaqueId

/-- Constructor of an `_OpaqueId`. -/
def opaqueId (value : String) : Except Failure OpaqueId :=
  normalizedText maxIdBytes "INVALID_PRODUCT_ID" value

/-- A value of `_reference`. -/
abbrev Reference := NormalizedText maxValueBytes

def reference (code : String) (value : String) : Except Failure Reference :=
  normalizedText maxValueBytes code value

/-- A validated text or `None`. -/
def optionalText {maximum : Nat} (f : String → Except Failure (NormalizedText maximum)) :
    Option String → Except Failure (Option (NormalizedText maximum))
  | none => .ok none
  | some value => (f value).map some

/-- A normalised text is accepted unchanged. -/
theorem normalizedText_value {maximum : Nat} (code : String) (t : NormalizedText maximum) :
    normalizedText maximum code t.value = .ok t := by
  have h : normalize t.value ≠ "" ∧ (normalize t.value).utf8ByteSize ≤ maximum := by
    rw [t.normalized]
    exact ⟨t.nonempty, t.bounded⟩
  rw [normalizedText, dif_pos h]
  obtain ⟨value, hn, _, _⟩ := t
  simp only [hn]

/-- `_normalized_text` accepts the value. -/
def Taken (maximum : Nat) (value : String) : Prop :=
  normalize value ≠ "" ∧ (normalize value).utf8ByteSize ≤ maximum

theorem normalizedText_iff {maximum : Nat} {code value : String} {t : NormalizedText maximum} :
    normalizedText maximum code value = .ok t ↔ Taken maximum value ∧ t.value = normalize value := by
  unfold normalizedText Taken
  constructor
  · intro h
    split at h
    · next hv =>
      cases h
      exact ⟨hv, rfl⟩
    · cases h
  · rintro ⟨hv, ht⟩
    rw [dif_pos hv]
    congr 1
    ext1
    exact ht.symm

theorem normalizedText_eq_ok {maximum : Nat} {code value : String} {t : NormalizedText maximum}
    (h : normalizedText maximum code value = .ok t) : t.value = normalize value :=
  (normalizedText_iff.mp h).2

theorem optionalText_iff {maximum : Nat} {code : String} {value : Option String}
    {t : Option (NormalizedText maximum)} :
    optionalText (normalizedText maximum code) value = .ok t ↔
      (∀ v ∈ value, Taken maximum v) ∧ t.map (·.value) = value.map normalize := by
  cases value with
  | none => cases t <;> simp [optionalText]
  | some v =>
    have hmap : optionalText (normalizedText maximum code) (some v) = .ok t ↔
        ∃ x, normalizedText maximum code v = .ok x ∧ t = some x := by
      rw [optionalText]
      rcases normalizedText maximum code v with e | x
      · simp [Except.map]
      · simp [Except.map, eq_comm]
    rw [hmap]
    simp only [normalizedText_iff, Option.mem_def, Option.some.injEq, forall_eq', Option.map_some]
    constructor
    · rintro ⟨x, ⟨hx, hv⟩, rfl⟩
      exact ⟨hx, by rw [Option.map_some, hv]⟩
    · rintro ⟨hv, ht⟩
      obtain ⟨x, rfl, hx⟩ := Option.map_eq_some_iff.mp ht
      exact ⟨x, ⟨hv, hx⟩, rfl⟩

structure ScopeIdentity where
  namespaceName : NormalizedText maxScopeBytes
  securityDomain : NormalizedText maxScopeBytes
  deriving DecidableEq

end Texts

/-- `Generation`: a positive integer. -/
@[ext]
structure Generation where
  value : Nat
  positive : 1 ≤ value
  deriving DecidableEq

/-- Sixty-four lower-case hexadecimal digits. -/
abbrev Digest := { s : String // isHex64 s = true }

/-! ### Enumerations -/

inductive NativeDispatchState
  | queued | claimed | effectStarted | succeeded | failed | unknown | recoveryRequired
  deriving DecidableEq

inductive NativeTerminalKind
  | succeeded | failed | unknown | recoveryRequired
  deriving DecidableEq

def NativeTerminalKind.value : NativeTerminalKind → String
  | succeeded => "SUCCEEDED"
  | failed => "FAILED"
  | unknown => "UNKNOWN"
  | recoveryRequired => "RECOVERY_REQUIRED"

theorem NativeTerminalKind.value_injective {k k' : NativeTerminalKind}
    (h : k.value = k'.value) : k = k' := by
  cases k <;> cases k' <;> first | rfl | exact absurd h (by decide)

/-- The dispatch state a terminal observation is recorded as. -/
def NativeTerminalKind.state : NativeTerminalKind → NativeDispatchState
  | succeeded => .succeeded
  | failed => .failed
  | unknown => .unknown
  | recoveryRequired => .recoveryRequired

/-- The states a finished command is in. -/
def NativeDispatchState.isTerminal : NativeDispatchState → Bool
  | succeeded | failed | unknown | recoveryRequired => true
  | _ => false

theorem NativeTerminalKind.state_isTerminal (k : NativeTerminalKind) :
    k.state.isTerminal = true := by
  cases k <;> rfl

inductive PlacementDecisionKind
  | placed | rejected
  deriving DecidableEq

def PlacementDecisionKind.value : PlacementDecisionKind → String
  | placed => "PLACED"
  | rejected => "REJECTED"

inductive AppendDisposition
  | appended | replayed
  deriving DecidableEq

inductive AuthenticationSource
  | browserSession | serviceCredential
  deriving DecidableEq

def AuthenticationSource.value : AuthenticationSource → String
  | browserSession => "BROWSER_SESSION"
  | serviceCredential => "SERVICE_CREDENTIAL"

section Records

variable [Unicodedata]

/-! ### Commands and claims -/

/-- Canonical, secret-free intent. -/
structure NativeDispatchCommand where
  commandId : CommandId
  scope : ScopeIdentity
  attemptId : AttemptId
  assignmentId : AssignmentId
  approvedPlanRevisionId : Reference
  approvedPlanDigest : Digest
  placementId : PlacementId
  placementDigest : Digest
  runtimeInstanceId : RuntimeInstanceId
  runtimeGeneration : Generation
  agentInstanceId : AgentInstanceId
  principalId : Reference
  credentialId : Reference
  authenticationSource : AuthenticationSource
  authorityGeneration : Generation
  recoveryEpoch : Generation
  authorizationOwner : Reference
  authorizationAction : Reference
  authorizationResource : Reference
  agentName : Reference
  inputText : NormalizedText maxContentBytes
  timeoutSeconds : { n : Nat // 1 ≤ n ∧ n ≤ 3600 }
  queuedAt : Datetime
  deriving DecidableEq

structure NativeDispatchClaim where
  command : NativeDispatchCommand
  claimGeneration : Generation
  fencingToken : Reference
  workerId : Reference
  leaseExpiresAt : Datetime
  deriving DecidableEq

def NativeDispatchClaim.create (command : NativeDispatchCommand) (generation : Generation)
    (token workerId : String) (lease : Datetime) : Except Failure NativeDispatchClaim := do
  let token ← reference "INVALID_DISPATCH_CLAIM" token
  let workerId ← reference "INVALID_DISPATCH_CLAIM" workerId
  .ok ⟨command, generation, token, workerId, lease⟩

/-! ### Terminal observations -/

structure NativeTerminalObservation where
  commandId : CommandId
  kind : NativeTerminalKind
  kubernetesTaskName : Reference
  kubernetesTaskUid : Option Reference
  output : Option (NormalizedText maxContentBytes)
  reason : Option (NormalizedText maxContentBytes)
  observedAt : Datetime
  success_complete : kind = .succeeded → output.isSome ∧ kubernetesTaskUid.isSome
  reason_required : kind ≠ .succeeded → reason.isSome
  deriving DecidableEq

/-- `NativeTerminalObservation(...)`, with its checks in the order of
`__post_init__`. -/
def NativeTerminalObservation.create (commandId : CommandId) (kind : NativeTerminalKind)
    (taskName : String) (taskUid output reason : Option String) (observedAt : Datetime) :
    Except Failure NativeTerminalObservation := do
  let taskName ← reference "INVALID_TASK_CORRELATION" taskName
  let taskUid ← optionalText (reference "INVALID_TASK_CORRELATION") taskUid
  let output ← optionalText (normalizedText maxContentBytes "INVALID_TERMINAL_OBSERVATION") output
  let reason ← optionalText (normalizedText maxContentBytes "INVALID_TERMINAL_OBSERVATION") reason
  if hs : kind = .succeeded → output.isSome ∧ taskUid.isSome then
    if hr : kind ≠ .succeeded → reason.isSome then
      .ok ⟨commandId, kind, taskName, taskUid, output, reason, observedAt, hs, hr⟩
    else .error (.executionContract "TERMINAL_REASON_REQUIRED")
  else .error (.executionContract "SUCCESS_OBSERVATION_INCOMPLETE")

/-- The observation with the given fields, its texts normalised. -/
structure NativeTerminalObservation.Describes (o : NativeTerminalObservation) (commandId : CommandId)
    (kind : NativeTerminalKind) (taskName : String) (taskUid output reason : Option String)
    (observedAt : Datetime) : Prop where
  commandId : o.commandId = commandId
  kind : o.kind = kind
  taskName : o.kubernetesTaskName.value = normalize taskName
  taskUid : o.kubernetesTaskUid.map (·.value) = taskUid.map normalize
  output : o.output.map (·.value) = output.map normalize
  reason : o.reason.map (·.value) = reason.map normalize
  observedAt : o.observedAt = observedAt

/-- An observation is built exactly when its texts are accepted and its kind has
the fields it requires. -/
theorem NativeTerminalObservation.create_eq_ok {commandId : CommandId} {kind : NativeTerminalKind}
    {taskName : String} {taskUid output reason : Option String} {observedAt : Datetime}
    {o : NativeTerminalObservation} :
    create commandId kind taskName taskUid output reason observedAt = .ok o ↔
      Taken maxValueBytes taskName ∧ (∀ t ∈ taskUid, Taken maxValueBytes t) ∧
        (∀ t ∈ output, Taken maxContentBytes t) ∧ (∀ t ∈ reason, Taken maxContentBytes t) ∧
        (kind = .succeeded → output.isSome ∧ taskUid.isSome) ∧
        (kind ≠ .succeeded → reason.isSome) ∧
        o.Describes commandId kind taskName taskUid output reason observedAt := by
  have hsome : ∀ {maximum : Nat} {t : Option (NormalizedText maximum)} {v : Option String},
      t.map (·.value) = v.map normalize → t.isSome = v.isSome := by
    intro maximum t v h
    rw [← Option.isSome_map (f := NormalizedText.value), h, Option.isSome_map]
  unfold create reference
  simp only [bind_eq_ok, normalizedText_iff, optionalText_iff]
  constructor
  · rintro ⟨name, ⟨hn, en⟩, uid, ⟨hu, eu⟩, out, ⟨ho, eo⟩, rea, ⟨hr, er⟩, h⟩
    split at h
    · next hs =>
      split at h
      · next hk =>
        cases h
        rw [← hsome eu, ← hsome eo, ← hsome er]
        exact ⟨hn, hu, ho, hr, hs, hk, rfl, rfl, en, eu, eo, er, rfl⟩
      · cases h
    · cases h
  · rintro ⟨hn, hu, ho, hr, hs, hk, hd⟩
    refine ⟨o.kubernetesTaskName, ⟨hn, hd.taskName⟩, o.kubernetesTaskUid, ⟨hu, hd.taskUid⟩,
      o.output, ⟨ho, hd.output⟩, o.reason, ⟨hr, hd.reason⟩, ?_⟩
    rw [← hsome hd.output, ← hsome hd.taskUid] at hs
    rw [← hsome hd.reason] at hk
    rw [dif_pos hs, dif_pos hk]
    obtain ⟨commandId', kind', name', uid', out', rea', at', h₁, h₂⟩ := o
    obtain rfl : commandId' = commandId := hd.commandId
    obtain rfl : kind' = kind := hd.kind
    obtain rfl : at' = observedAt := hd.observedAt
    rfl

/-- The fields determine the observation. -/
theorem NativeTerminalObservation.Describes.unique {o o' : NativeTerminalObservation}
    {commandId : CommandId} {kind : NativeTerminalKind} {taskName : String}
    {taskUid output reason : Option String} {observedAt : Datetime}
    (h : o.Describes commandId kind taskName taskUid output reason observedAt)
    (h' : o'.Describes commandId kind taskName taskUid output reason observedAt) : o = o' := by
  have heq : ∀ {maximum : Nat} {t t' : Option (NormalizedText maximum)},
      t.map (·.value) = t'.map (·.value) → t = t' := by
    intro maximum t t' ht
    exact Option.map_injective (fun _ _ hv => NormalizedText.ext hv) ht
  have h₁ := h.commandId.trans h'.commandId.symm
  have h₂ := h.kind.trans h'.kind.symm
  have h₃ := NormalizedText.ext (h.taskName.trans h'.taskName.symm)
  have h₄ := heq (h.taskUid.trans h'.taskUid.symm)
  have h₅ := heq (h.output.trans h'.output.symm)
  have h₆ := heq (h.reason.trans h'.reason.symm)
  have h₇ := h.observedAt.trans h'.observedAt.symm
  cases o
  cases o'
  simp only at h₁ h₂ h₃ h₄ h₅ h₆ h₇
  subst h₁ h₂ h₃ h₄ h₅ h₆ h₇
  rfl

/-- Accepted fields are those of some observation. -/
theorem NativeTerminalObservation.exists_describes (commandId : CommandId)
    {kind : NativeTerminalKind} {taskName : String} {taskUid output reason : Option String}
    (observedAt : Datetime) (hn : Taken maxValueBytes taskName)
    (hu : ∀ t ∈ taskUid, Taken maxValueBytes t) (ho : ∀ t ∈ output, Taken maxContentBytes t)
    (hr : ∀ t ∈ reason, Taken maxContentBytes t)
    (hs : kind = .succeeded → output.isSome ∧ taskUid.isSome)
    (hk : kind ≠ .succeeded → reason.isSome) :
    ∃ o : NativeTerminalObservation,
      o.Describes commandId kind taskName taskUid output reason observedAt := by
  have text : ∀ {maximum : Nat} {v : Option String}, (∀ t ∈ v, Taken maximum t) →
      ∃ t : Option (NormalizedText maximum), t.map (·.value) = v.map normalize ∧
        t.isSome = v.isSome := by
    intro maximum v hv
    cases v with
    | none => exact ⟨none, rfl, rfl⟩
    | some v =>
      obtain ⟨h₁, h₂⟩ := hv v rfl
      exact ⟨some ⟨normalize v, normalize_normalize v, h₁, h₂⟩, rfl, rfl⟩
  obtain ⟨uid, eu, su⟩ := text hu
  obtain ⟨out, eo, so⟩ := text ho
  obtain ⟨rea, er, sr⟩ := text hr
  rw [← so, ← su] at hs
  rw [← sr] at hk
  exact ⟨⟨commandId, kind, ⟨normalize taskName, normalize_normalize _, hn.1, hn.2⟩, uid, out, rea,
    observedAt, hs, hk⟩, rfl, rfl, rfl, eu, eo, er, rfl⟩

/-! ### Canonical text -/

/-- The text of `canonical_bytes(value)`, given `_canonical_value(value)`. -/
def canonicalBytes (payload : Json) : String :=
  Json.dumps false (.obj [("contract_version", .str "v0.2.3-a0"), ("payload", payload)])

/-- `canonical_digest(value)`. -/
def canonicalDigest (payload : Json) : String := sha256 (canonicalBytes payload)

/-- `_canonical_value` of a command. -/
def NativeDispatchCommand.payload (c : NativeDispatchCommand) : Json :=
  .obj [
    ("command_id", .str c.commandId.value),
    ("scope", .obj [("namespace", .str c.scope.namespaceName.value),
      ("security_domain", .str c.scope.securityDomain.value)]),
    ("attempt_id", .str c.attemptId.value),
    ("assignment_id", .str c.assignmentId.value),
    ("approved_plan_revision_id", .str c.approvedPlanRevisionId.value),
    ("approved_plan_digest", .str c.approvedPlanDigest.1),
    ("placement_id", .str c.placementId.value),
    ("placement_digest", .str c.placementDigest.1),
    ("runtime_instance_id", .str c.runtimeInstanceId.value),
    ("runtime_generation", .int c.runtimeGeneration.value),
    ("agent_instance_id", .str c.agentInstanceId.value),
    ("principal_id", .str c.principalId.value),
    ("credential_id", .str c.credentialId.value),
    ("authentication_source", .str c.authenticationSource.value),
    ("authority_generation", .int c.authorityGeneration.value),
    ("recovery_epoch", .int c.recoveryEpoch.value),
    ("authorization_owner", .str c.authorizationOwner.value),
    ("authorization_action", .str c.authorizationAction.value),
    ("authorization_resource", .str c.authorizationResource.value),
    ("agent_name", .str c.agentName.value),
    ("input_text", .str c.inputText.value),
    ("timeout_seconds", .int c.timeoutSeconds.1),
    ("queued_at", .str c.queuedAt.isoformatZ)]

def NativeDispatchCommand.digest (c : NativeDispatchCommand) : String :=
  canonicalDigest c.payload

def NativeTerminalObservation.fields (o : NativeTerminalObservation) : List (String × Json) :=
  [("command_id", .str o.commandId.value),
    ("kind", .str o.kind.value),
    ("kubernetes_task_name", .str o.kubernetesTaskName.value),
    ("kubernetes_task_uid", .optStr (o.kubernetesTaskUid.map (·.value))),
    ("output", .optStr (o.output.map (·.value))),
    ("reason", .optStr (o.reason.map (·.value))),
    ("observed_at", .str o.observedAt.isoformatZ)]

/-- `_canonical_value` of a terminal observation. -/
def NativeTerminalObservation.payload (o : NativeTerminalObservation) : Json :=
  .obj o.fields

def NativeTerminalObservation.digest (o : NativeTerminalObservation) : String :=
  canonicalDigest o.payload

omit [Unicodedata] in
/-- The canonical text determines the payload up to key order. -/
theorem canonicalBytes_injective {p q : Json} (h : canonicalBytes p = canonicalBytes q) :
    p.sortKeys = q.sortKeys := by
  unfold canonicalBytes at h
  have hs := Json.sortKeys_obj_inj (by rfl) (by simp) (Json.dumps_injective h)
  simpa using hs

theorem NativeTerminalObservation.fields_keys (o : NativeTerminalObservation) :
    o.fields.map Prod.fst = ["command_id", "kind", "kubernetes_task_name",
      "kubernetes_task_uid", "output", "reason", "observed_at"] := rfl

/-- Observations with the same canonical text are of the same kind. -/
theorem NativeTerminalObservation.kind_of_canonical {o o' : NativeTerminalObservation}
    (h : o.payload.sortKeys = o'.payload.sortKeys) : o.kind = o'.kind := by
  have hk : o.fields.map Prod.fst = o'.fields.map Prod.fst := by
    rw [fields_keys, fields_keys]
  have hn : (o.fields.map Prod.fst).Nodup := by
    rw [fields_keys]
    decide
  have hs := Json.sortKeys_obj_inj hk hn h
  simp only [fields, List.map_cons, List.cons.injEq, Json.sortKeys, Json.str.injEq] at hs
  exact NativeTerminalKind.value_injective hs.2.1

/-- Observations with the same digest agree in kind and in every other digest of
their payload, as long as SHA-256 tells their canonical texts apart. -/
theorem NativeTerminalObservation.eq_of_digest {T : Set String} (hc : CollisionFreeOn T)
    {o o' : NativeTerminalObservation} (ho : canonicalBytes o.payload ∈ T)
    (ho' : canonicalBytes o'.payload ∈ T) (h : o.digest = o'.digest) :
    o.kind = o'.kind ∧ ∀ ascii, Json.dumps ascii o.payload = Json.dumps ascii o'.payload := by
  have hs := canonicalBytes_injective (hc ho ho' h)
  refine ⟨kind_of_canonical hs, fun ascii => ?_⟩
  rw [Json.dumps, hs]
  rfl

end Records

end AgentPlatform
