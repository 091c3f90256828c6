/-
AgentPlatform/Draft/Codec.lean

The record of an invocation in a `jsonb` column (`_record`), and the invocation
read back from it (`_invocation`).

A reader fails (`none`) where Python raises: on a key that is not there, on a
text that is no member of an enumeration, and on a value of another type.
**Main result:** `invocation_record`, a record is read back as it was.
-/
import AgentPlatform.Draft.Invocation
import AgentPlatform.Py.Isoformat

namespace Py

/-- The text of a value as it stands determines it. -/
theorem Json.print_injective {ascii : Bool} {v w : Json} (h : v.print ascii = w.print ascii) :
    v = w :=
  (print_append_inj v w delimited_nil delimited_nil (by rw [h])).1

end Py

namespace AgentPlatform

open Py

namespace Draft

/-! ### Enumerations by value -/

namespace DraftInvocationState

def value : DraftInvocationState → String
  | authorizationPending => "AUTHORIZATION_PENDING"
  | rejected => "REJECTED"
  | requestedAwaitingContent => "REQUESTED_AWAITING_CONTENT"
  | requested => "REQUESTED"
  | failedPreDispatch => "FAILED_PRE_DISPATCH"
  | dispatchRecorded => "DISPATCH_RECORDED"
  | accepted => "ACCEPTED"
  | running => "RUNNING"
  | outcomeUnknown => "OUTCOME_UNKNOWN"
  | cancellationRequested => "CANCELLATION_REQUESTED"
  | cancellationConfirmed => "CANCELLATION_CONFIRMED"
  | succeeded => "SUCCEEDED"
  | failed => "FAILED"
  | rejectedByUser => "REJECTED_BY_USER"
  | conflictReviewRequired => "CONFLICT_REVIEW_REQUIRED"

def members : List DraftInvocationState :=
  [authorizationPending, rejected, requestedAwaitingContent, requested, failedPreDispatch,
    dispatchRecorded, accepted, running, outcomeUnknown, cancellationRequested,
    cancellationConfirmed, succeeded, failed, rejectedByUser, conflictReviewRequired]

end DraftInvocationState

namespace DraftResultKind

def value : DraftResultKind → String
  | needsClarification => "NEEDS_CLARIFICATION"
  | draftReady => "DRAFT_READY"

def members : List DraftResultKind := [needsClarification, draftReady]

end DraftResultKind

namespace AuthorizationState

def value : AuthorizationState → String
  | pending => "PENDING"
  | allowed => "ALLOWED"
  | denied => "DENIED"

def members : List AuthorizationState := [pending, allowed, denied]

end AuthorizationState

namespace ObservationState

def value : ObservationState → String
  | accepted => "ACCEPTED"
  | running => "RUNNING"
  | succeeded => "SUCCEEDED"
  | failed => "FAILED"
  | unknown => "UNKNOWN"
  | cancellationConfirmed => "CANCELLATION_CONFIRMED"

def members : List ObservationState :=
  [accepted, running, succeeded, failed, unknown, cancellationConfirmed]

end ObservationState

/-! ### Writing -/

/-- `None`, or the value written by `f`. -/
def optional {α : Type} (f : α → Json) : Option α → Json
  | none => .null
  | some a => f a

def Document.json (d : Document) : Json := .obj d.fields

/-- A part of a binding with an identity, a revision and a digest. -/
def idRevisionDigest (id revisionId digest : String) : Json :=
  .obj [("id", .str id), ("revisionId", .str revisionId), ("digest", .str digest)]

def authorizationRecord (a : DraftAuthorization) : Json :=
  .obj [
    ("state", .str a.state.value),
    ("requestAuthorizationRequestId", .str a.requestAuthorizationRequestId),
    ("modelAuthorizationRequestId", optional .str a.modelAuthorizationRequestId),
    ("requestDecisionId", .str a.requestDecisionId),
    ("modelDecisionId", optional .str a.modelDecisionId),
    ("requestVersion", .int a.requestVersion),
    ("modelVersion", .int a.modelVersion)]

def snapshotRecord (s : BindingSnapshot) : Json :=
  .obj [
    ("snapshotId", .str s.snapshotId),
    ("snapshotDigest", .str s.snapshotDigest),
    ("profileRevisionId", .str s.profileRevisionId),
    ("profileDigest", .str s.profileDigest),
    ("modelBinding", .obj [("resourceId", .str s.modelBinding.resourceId),
      ("revisionId", .str s.modelBinding.revisionId), ("digest", .str s.modelBinding.digest)]),
    ("provider", idRevisionDigest s.providerId s.providerRevisionId s.providerDigest),
    ("endpoint", idRevisionDigest s.endpointId s.endpointRevisionId s.endpointDigest),
    ("connectionProfile", idRevisionDigest s.connectionProfileId s.connectionProfileRevisionId
      s.connectionProfileDigest),
    ("adapter", .obj [("id", .str s.adapterId), ("revision", .str s.adapterRevision)]),
    ("eligibilityHighWater", .int s.eligibilityHighWater)]

def record (r : DraftInvocation) : Json :=
  .obj [
    ("contextId", .str r.contextId),
    ("turnId", .str r.turnId),
    ("turnOrdinal", .int r.turnOrdinal),
    ("turnVersion", .int r.turnVersion),
    ("invocationId", .str r.invocationId),
    ("snapshotCandidateId", .str r.snapshotCandidateId),
    ("scope", .arr [.str r.scope.namespace_, .str r.scope.securityDomain]),
    ("initiatingPrincipalId", .str r.initiatingPrincipalId),
    ("scopedIdempotencyKey", .str r.scopedIdempotencyKey),
    ("commitment", .str r.commitment),
    ("commitmentAlgorithm", .str r.commitmentAlgorithm),
    ("canonicalizationVersion", .str r.canonicalizationVersion),
    ("pepperReference", .str r.pepperReference),
    ("pepperVersion", .str r.pepperVersion),
    ("createdAt", .str r.createdAt.isoformat),
    ("replayNotAfter", .str r.replayNotAfter.isoformat),
    ("profileRevisionId", .str r.profileRevisionId),
    ("requestTarget", .str r.requestTarget),
    ("modelTarget", .str r.modelTarget),
    ("parentTurnId", optional .str r.parentTurnId),
    ("predecessorInvocationId", optional .str r.predecessorInvocationId),
    ("state", .str r.state.value),
    ("aggregateVersion", .int r.aggregateVersion),
    ("authorization", optional authorizationRecord r.authorization),
    ("snapshot", optional snapshotRecord r.snapshot),
    ("admissionId", optional .str r.admissionId),
    ("dispatchFence", optional .int r.dispatchFence),
    ("budgetReservationId", optional .str r.budgetReservationId),
    ("providerCorrelation", optional .str r.providerCorrelation),
    ("measurement", optional Document.json r.measurement),
    ("pricing", optional Document.json r.pricing),
    ("settlementStatus", .str r.settlementStatus),
    ("localCleanup", optional Document.json r.localCleanup),
    ("terminalObservationId", optional .str r.terminalObservationId),
    ("lastObservationId", optional .str r.lastObservationId),
    ("resultKind", optional (fun k => .str k.value) r.resultKind),
    ("reasonCode", optional .str r.reasonCode),
    ("ownerWriteReasonCode", optional .str r.ownerWriteReasonCode),
    ("lastObservationState", optional (fun s => .str s.value) r.lastObservationState),
    ("lastObservationLatencyMs", optional .int r.lastObservationLatencyMs),
    ("lastObservationInputTokens", optional .int r.lastObservationInputTokens),
    ("lastObservationOutputTokens", optional .int r.lastObservationOutputTokens),
    ("contentDisposition", .str r.contentDisposition),
    ("resourceUseId", optional .str r.resourceUseId),
    ("evidenceId", optional .str r.evidenceId),
    ("problemId", optional .str r.problemId),
    ("problemRevisionId", optional .str r.problemRevisionId),
    ("problemDigest", optional .str r.problemDigest)]

/-! ### Reading -/

def readText : Json → Option String
  | .str s => some s
  | _ => none

def readInt : Json → Option Int
  | .int n => some n
  | _ => none

def readVersion : Json → Option Nat
  | .int (.ofNat n) => some n
  | _ => none

def readMember {α : Type} (members : List α) (value : α → String) : Json → Option α
  | .str s => members.find? fun a => value a = s
  | _ => none

/-- `datetime.fromisoformat(value)`, of an aware datetime. -/
def readInstant : Json → Option Datetime
  | .str s =>
    match Datetime.fromisoformat s with
    | some ⟨micros, some offset⟩ =>
      if h : 0 ≤ micros - offset ∧ (micros - offset).toNat < maxMicros then
        some ⟨(micros - offset).toNat, h.2⟩
      else none
    | _ => none
  | _ => none

/-- A sorted object; what order its keys are found in does not count. -/
def readDocument : Json → Option Document
  | .obj fields =>
    if h : (Json.obj fields).sortKeys.print false = (Json.obj fields).print false
        ∧ (Json.obj fields).distinctKeys = true then
      some ⟨fields, Json.print_injective h.1, h.2⟩
    else none
  | _ => none

/-- `None`, or what `f` reads. -/
def readOptional {α : Type} (f : Json → Option α) : Json → Option (Option α)
  | .null => some none
  | v => (f v).map some

/-- `value[key]`, read by `f`. -/
def item {α : Type} (v : Json) (key : String) (f : Json → Option α) : Option α :=
  (v.get? key).bind f

/-- `value.get(key)`, read by `f`. -/
def getItem {α : Type} (v : Json) (key : String) (f : Json → Option α) : Option (Option α) :=
  match v.get? key with
  | none => some none
  | some w => readOptional f w

def readBinding (v : Json) : Option ExactModelBinding := do
  let resourceId ← item v "resourceId" readText
  let revisionId ← item v "revisionId" readText
  let digest ← item v "digest" readText
  return { resourceId, revisionId, digest }

def readAuthorization (v : Json) : Option DraftAuthorization := do
  let state ← item v "state" (readMember AuthorizationState.members (·.value))
  let requestAuthorizationRequestId ← item v "requestAuthorizationRequestId" readText
  let modelAuthorizationRequestId ← item v "modelAuthorizationRequestId" (readOptional readText)
  let requestDecisionId ← item v "requestDecisionId" readText
  let modelDecisionId ← item v "modelDecisionId" (readOptional readText)
  let requestVersion ← item v "requestVersion" readInt
  let modelVersion ← item v "modelVersion" readInt
  return {
    state, requestAuthorizationRequestId, modelAuthorizationRequestId, requestDecisionId
    modelDecisionId, requestVersion, modelVersion }

/-- `value[part][key]`. -/
def partItem (v : Json) (part key : String) : Option String :=
  item v part fun w => item w key readText

def readSnapshot (v : Json) : Option BindingSnapshot := do
  let snapshotId ← item v "snapshotId" readText
  let snapshotDigest ← item v "snapshotDigest" readText
  let profileRevisionId ← item v "profileRevisionId" readText
  let profileDigest ← item v "profileDigest" readText
  let modelBinding ← item v "modelBinding" readBinding
  let providerId ← partItem v "provider" "id"
  let providerRevisionId ← partItem v "provider" "revisionId"
  let providerDigest ← partItem v "provider" "digest"
  let endpointId ← partItem v "endpoint" "id"
  let endpointRevisionId ← partItem v "endpoint" "revisionId"
  let endpointDigest ← partItem v "endpoint" "digest"
  let connectionProfileId ← partItem v "connectionProfile" "id"
  let connectionProfileRevisionId ← partItem v "connectionProfile" "revisionId"
  let connectionProfileDigest ← partItem v "connectionProfile" "digest"
  let adapterId ← partItem v "adapter" "id"
  let adapterRevision ← partItem v "adapter" "revision"
  let eligibilityHighWater ← item v "eligibilityHighWater" readInt
  return {
    snapshotId, snapshotDigest, profileRevisionId, profileDigest, modelBinding
    providerId, providerRevisionId, providerDigest, endpointId, endpointRevisionId, endpointDigest
    connectionProfileId, connectionProfileRevisionId, connectionProfileDigest
    adapterId, adapterRevision, eligibilityHighWater }

/-- `DraftScope(*value)`. -/
def readScope : Json → Option DraftScope
  | .arr [.str namespace_, .str securityDomain] => some ⟨namespace_, securityDomain⟩
  | _ => none

/-- `Member(value) if value else None`: an empty text is none. -/
def readFilled {α : Type} (members : List α) (value : α → String) : Json → Option (Option α)
  | .str "" => some none
  | v => readOptional (readMember members value) v

def invocation (v : Json) : Option DraftInvocation := do
  let contextId ← item v "contextId" readText
  let turnId ← item v "turnId" readText
  let turnOrdinal ← item v "turnOrdinal" readInt
  let turnVersion ← item v "turnVersion" readInt
  let invocationId ← item v "invocationId" readText
  let snapshotCandidateId ← item v "snapshotCandidateId" readText
  let scope ← item v "scope" readScope
  let initiatingPrincipalId ← item v "initiatingPrincipalId" readText
  let scopedIdempotencyKey ← item v "scopedIdempotencyKey" readText
  let commitment ← item v "commitment" readText
  let commitmentAlgorithm ← item v "commitmentAlgorithm" readText
  let canonicalizationVersion ← item v "canonicalizationVersion" readText
  let pepperReference ← item v "pepperReference" readText
  let pepperVersion ← item v "pepperVersion" readText
  let createdAt ← item v "createdAt" readInstant
  let replayNotAfter ← item v "replayNotAfter" readInstant
  let profileRevisionId ← item v "profileRevisionId" readText
  let requestTarget ← item v "requestTarget" readText
  let modelTarget ← item v "modelTarget" readText
  let parentTurnId ← item v "parentTurnId" (readOptional readText)
  let predecessorInvocationId ← item v "predecessorInvocationId" (readOptional readText)
  let state ← item v "state" (readMember DraftInvocationState.members (·.value))
  let aggregateVersion ← item v "aggregateVersion" readVersion
  let authorization ← item v "authorization" (readOptional readAuthorization)
  let snapshot ← item v "snapshot" (readOptional readSnapshot)
  let admissionId ← item v "admissionId" (readOptional readText)
  let dispatchFence ← item v "dispatchFence" (readOptional readInt)
  let budgetReservationId ← getItem v "budgetReservationId" readText
  let providerCorrelation ← item v "providerCorrelation" (readOptional readText)
  let measurement ← getItem v "measurement" readDocument
  let pricing ← getItem v "pricing" readDocument
  let settlementStatus ← match v.get? "settlementStatus" with
    | none => some "NOT_MEASURED"
    | some w => readText w
  let localCleanup ← getItem v "localCleanup" readDocument
  let terminalObservationId ← item v "terminalObservationId" (readOptional readText)
  let lastObservationId ← getItem v "lastObservationId" readText
  let resultKind ← item v "resultKind" (readFilled DraftResultKind.members (·.value))
  let reasonCode ← item v "reasonCode" (readOptional readText)
  let ownerWriteReasonCode ← getItem v "ownerWriteReasonCode" readText
  let lastObservationState ← match v.get? "lastObservationState" with
    | none => some none
    | some w => readFilled ObservationState.members (·.value) w
  let lastObservationLatencyMs ← getItem v "lastObservationLatencyMs" readInt
  let lastObservationInputTokens ← getItem v "lastObservationInputTokens" readInt
  let lastObservationOutputTokens ← getItem v "lastObservationOutputTokens" readInt
  let contentDisposition ← item v "contentDisposition" readText
  let resourceUseId ← item v "resourceUseId" (readOptional readText)
  let evidenceId ← item v "evidenceId" (readOptional readText)
  let problemId ← item v "problemId" (readOptional readText)
  let problemRevisionId ← item v "problemRevisionId" (readOptional readText)
  let problemDigest ← item v "problemDigest" (readOptional readText)
  return {
    contextId, turnId, turnOrdinal, turnVersion, invocationId, snapshotCandidateId, scope
    initiatingPrincipalId, scopedIdempotencyKey, commitment, commitmentAlgorithm
    canonicalizationVersion, pepperReference, pepperVersion, createdAt, replayNotAfter
    profileRevisionId, requestTarget, modelTarget, parentTurnId, predecessorInvocationId, state
    aggregateVersion, authorization, snapshot, admissionId, dispatchFence, budgetReservationId
    providerCorrelation, measurement, pricing, settlementStatus, localCleanup
    terminalObservationId, lastObservationId, resultKind, reasonCode, ownerWriteReasonCode
    lastObservationState, lastObservationLatencyMs, lastObservationInputTokens
    lastObservationOutputTokens, contentDisposition, resourceUseId, evidenceId, problemId
    problemRevisionId, problemDigest }

/-! ### Round trip -/

@[simp] theorem readMember_state (s : DraftInvocationState) :
    readMember DraftInvocationState.members (·.value) (.str s.value) = some s := by
  cases s <;> decide +kernel

@[simp] theorem readMember_authorization (s : AuthorizationState) :
    readMember AuthorizationState.members (·.value) (.str s.value) = some s := by
  cases s <;> decide +kernel

@[simp] theorem readFilled_result (k : Option DraftResultKind) :
    readFilled DraftResultKind.members (·.value) (optional (fun k => .str k.value) k) = some k := by
  rcases k with _ | k
  · rfl
  · cases k <;> decide +kernel

@[simp] theorem readFilled_observation (s : Option ObservationState) :
    readFilled ObservationState.members (·.value) (optional (fun s => .str s.value) s) = some s := by
  rcases s with _ | s
  · rfl
  · cases s <;> decide +kernel

@[simp] theorem readInstant_isoformat (t : Datetime) : readInstant (.str t.isoformat) = some t := by
  simp only [readInstant, Datetime.fromisoformat_isoformat]
  rw [dif_pos (by simpa using t.inRange)]
  simp

@[simp] theorem readOptional_text (o : Option String) :
    readOptional readText (optional .str o) = some o := by
  cases o <;> rfl

@[simp] theorem readOptional_int (o : Option Int) :
    readOptional readInt (optional .int o) = some o := by
  cases o <;> rfl

@[simp] theorem readOptional_document (o : Option Document) :
    readOptional readDocument (optional Document.json o) = some o := by
  rcases o with _ | ⟨fields, sorted, distinct⟩
  · rfl
  · simp [optional, readOptional, readDocument, Document.json, sorted, distinct]

@[simp] theorem readAuthorization_record (a : DraftAuthorization) :
    readAuthorization (authorizationRecord a) = some a := by
  simp [readAuthorization, authorizationRecord, item, Json.get?, readText, readInt]

@[simp] theorem readSnapshot_record (s : BindingSnapshot) :
    readSnapshot (snapshotRecord s) = some s := by
  simp [readSnapshot, snapshotRecord, idRevisionDigest, item, partItem, Json.get?, readText, readInt,
    readBinding]

theorem readOptional_obj {α : Type} {f : Json → Option α} {g : α → Json} (h : ∀ a, f (g a) = some a)
    (hobj : ∀ a, g a ≠ .null) (o : Option α) : readOptional f (optional g o) = some o := by
  rcases o with _ | a
  · rfl
  · have hg := hobj a
    have hf := h a
    simp only [optional]
    cases e : g a <;> simp_all [readOptional]

@[simp] theorem readOptional_authorization (a : Option DraftAuthorization) :
    readOptional readAuthorization (optional authorizationRecord a) = some a :=
  readOptional_obj readAuthorization_record (fun _ => by simp [authorizationRecord]) a

@[simp] theorem readOptional_snapshot (s : Option BindingSnapshot) :
    readOptional readSnapshot (optional snapshotRecord s) = some s :=
  readOptional_obj readSnapshot_record (fun _ => by simp [snapshotRecord]) s

/-- **A record is read back as it was.** -/
theorem invocation_record (r : DraftInvocation) : invocation (record r) = some r := by
  simp [invocation, record, item, getItem, Json.get?, readText, readInt, readVersion, readScope]

end Draft

end AgentPlatform
