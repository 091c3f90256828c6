/-
AgentPlatform/Draft/Invocation.lean

The values of draft assistance (`draft_assistance.py`): the invocation, the
binding snapshot and authorization it carries, and what a provider observes.

A dictionary field holds a `Document`. Python compares dictionaries without
regard to the order of their keys, so a dictionary is given by its sorted form,
and equality of documents is equality of dictionaries.

A provider observation carries the checks of its constructor: a succeeded one
has a result kind with the content of that kind and no other.
-/
import AgentPlatform.Py.Datetime
import AgentPlatform.Py.JsonRead

namespace AgentPlatform

open Py

namespace Draft

/-! ### Truth values -/

/-- `bool(value)` of an optional string. -/
def truthy : Option String → Bool
  | none => false
  | some s => decide (s ≠ "")

@[simp] theorem truthy_none : truthy none = false := rfl

theorem truthy_some {s : String} : truthy (some s) = true ↔ s ≠ "" := by
  simp [truthy]

/-- A dictionary with string keys, sorted at every depth. -/
structure Document where
  fields : List (String × Json)
  sorted : (Json.obj fields).sortKeys = .obj fields
  distinct : (Json.obj fields).distinctKeys = true

namespace Document

theorem ext_fields {a b : Document} (h : a.fields = b.fields) : a = b := by
  cases a
  cases b
  cases h
  rfl

/-- The text of a document determines it. -/
theorem dumps_inj {a b : Document}
    (h : (Json.obj a.fields).dumps false = (Json.obj b.fields).dumps false) : a = b := by
  have hs := Json.dumps_injective h
  rw [a.sorted, b.sorted] at hs
  exact ext_fields (Json.obj.inj hs)

instance : DecidableEq Document := fun a b =>
  decidable_of_iff ((Json.obj a.fields).dumps false = (Json.obj b.fields).dumps false)
    ⟨dumps_inj, fun h => h ▸ rfl⟩

/-- `bool(value)` of a value of a dictionary. -/
def isTrue : Json → Bool
  | .null => false
  | .bool b => b
  | .int n => decide (n ≠ 0)
  | .str s => decide (s ≠ "")
  | .arr items => !items.isEmpty
  | .obj fields => !fields.isEmpty

/-- `bool(document.get(key))`. -/
def holds (d : Document) (key : String) : Bool :=
  match (Json.obj d.fields).get? key with
  | some v => isTrue v
  | none => false

/-- `first or second`. -/
def orElse (first second : Option Document) : Option Document :=
  match first with
  | some d => if d.fields = [] then second else some d
  | none => second

end Document

/-! ### Enumerations -/

inductive DraftInvocationState
  | authorizationPending | rejected | requestedAwaitingContent | requested | failedPreDispatch
  | dispatchRecorded | accepted | running | outcomeUnknown | cancellationRequested
  | cancellationConfirmed | succeeded | failed | rejectedByUser | conflictReviewRequired
  deriving DecidableEq

inductive DraftResultKind
  | needsClarification | draftReady
  deriving DecidableEq

inductive AuthorizationState
  | pending | allowed | denied
  deriving DecidableEq

inductive ObservationState
  | accepted | running | succeeded | failed | unknown | cancellationConfirmed
  deriving DecidableEq

/-! ### What a call raises -/

inductive FaultKind
  /-- `DraftAssistanceError(reason_code)`. -/
  | draft (reasonCode : String)
  /-- `AuthorityError`. -/
  | authority
  | other
  deriving DecidableEq

/-- An exception, with the diagnostic that the transport may attach to it. -/
structure Fault where
  kind : FaultKind
  diagnostic : Option Document := none

def draftError (reasonCode : String) : Fault := ⟨.draft reasonCode, none⟩

/-- Any other exception of the language or its library. -/
def otherError : Fault := ⟨.other, none⟩

/-! ### The profile -/

structure DraftScope where
  namespace_ : String
  securityDomain : String
  deriving DecidableEq

structure ExactModelBinding where
  resourceId : String
  revisionId : String
  digest : String
  deriving DecidableEq

/-- `TrustedRequestContext`, as far as the service reads it. -/
structure RequestContext where
  tenantId : String
  securityDomain : String
  principalId : String
  deriving DecidableEq

def RequestContext.draftScope (context : RequestContext) : DraftScope :=
  ⟨context.tenantId, context.securityDomain⟩

structure ProfileRevision where
  profileRevisionId : String
  profileDigest : String
  scope : DraftScope
  binding : ExactModelBinding
  providerId : String
  providerRevisionId : String
  providerDigest : String
  endpointId : String
  endpointRevisionId : String
  endpointDigest : String
  connectionProfileId : String
  connectionProfileRevisionId : String
  connectionProfileDigest : String
  adapterId : String
  adapterRevision : String
  maximumInputBytes : Nat
  deriving DecidableEq

/-- An identity, revision and digest of a resolved part of the binding. -/
structure RevisionIdentity where
  id : String
  revisionId : String
  digest : String
  deriving DecidableEq

/-- `ResolvedModelBinding`, as far as the service reads it. -/
structure ResolvedModelBinding where
  binding : ExactModelBinding
  provider : RevisionIdentity
  endpoint : RevisionIdentity
  connectionProfile : RevisionIdentity
  allowsNewUse : Bool
  highWater : Int
  deriving DecidableEq

structure BindingSnapshot where
  snapshotId : String
  snapshotDigest : String
  profileRevisionId : String
  profileDigest : String
  modelBinding : ExactModelBinding
  providerId : String
  providerRevisionId : String
  providerDigest : String
  endpointId : String
  endpointRevisionId : String
  endpointDigest : String
  connectionProfileId : String
  connectionProfileRevisionId : String
  connectionProfileDigest : String
  adapterId : String
  adapterRevision : String
  eligibilityHighWater : Int
  deriving DecidableEq

structure DraftAuthorization where
  state : AuthorizationState
  requestAuthorizationRequestId : String
  modelAuthorizationRequestId : Option String
  requestDecisionId : String
  modelDecisionId : Option String
  requestVersion : Int
  modelVersion : Int
  deriving DecidableEq

structure DispatchAdmission where
  admissionId : String
  fence : Int
  expiresAt : Datetime
  deriving DecidableEq

structure ProviderBudgetQuote where
  inputTokenUpperBound : Int
  outputTokenCeiling : Int
  worstCaseCostMicrousd : Int
  valid : 1 ≤ inputTokenUpperBound ∧ 1 ≤ outputTokenCeiling ∧ 0 ≤ worstCaseCostMicrousd

/-- `PreparedProviderRequest`; the payload is opaque. -/
structure PreparedProviderRequest where
  payload : String
  quote : ProviderBudgetQuote

/-! ### Observations -/

/-- The content of an observation fits its state and result kind
(`ProviderObservation.__post_init__`). -/
def contentValid (state : ObservationState) (kind : Option DraftResultKind)
    (clarification title description : Option String) : Bool :=
  if state = .succeeded then
    match kind with
    | some .needsClarification => truthy clarification && !truthy title && !truthy description
    | some .draftReady => truthy title && truthy description && !truthy clarification
    | none => false
  else true

structure ProviderObservation where
  observationId : String
  state : ObservationState
  correlation : Option String := none
  resultKind : Option DraftResultKind := none
  clarificationQuestion : Option String := none
  title : Option String := none
  description : Option String := none
  reasonCode : Option String := none
  latencyMs : Option Int := none
  inputTokens : Option Int := none
  outputTokens : Option Int := none
  understanding : Option (List Document) := none
  measurement : Option Document := none
  localCleanup : Option Document := none
  valid : contentValid state resultKind clarificationQuestion title description = true := by decide

/-- Billable usage without the content of a stale success. -/
def ProviderObservation.late (o : ProviderObservation) : ProviderObservation :=
  { o with
    state := .unknown, resultKind := none, clarificationQuestion := none, title := none,
    description := none, understanding := none,
    reasonCode := some "LATE_RESULT_AFTER_CANCEL_REQUEST"
    valid := rfl }

/-! ### Invocations -/

structure DraftInvocation where
  contextId : String
  turnId : String
  turnOrdinal : Int
  turnVersion : Int
  invocationId : String
  snapshotCandidateId : String
  scope : DraftScope
  initiatingPrincipalId : String
  scopedIdempotencyKey : String
  commitment : String
  commitmentAlgorithm : String
  canonicalizationVersion : String
  pepperReference : String
  pepperVersion : String
  createdAt : Datetime
  replayNotAfter : Datetime
  profileRevisionId : String
  requestTarget : String
  modelTarget : String
  parentTurnId : Option String := none
  predecessorInvocationId : Option String := none
  state : DraftInvocationState := .authorizationPending
  aggregateVersion : Nat := 1
  authorization : Option DraftAuthorization := none
  snapshot : Option BindingSnapshot := none
  admissionId : Option String := none
  dispatchFence : Option Int := none
  budgetReservationId : Option String := none
  providerCorrelation : Option String := none
  measurement : Option Document := none
  pricing : Option Document := none
  settlementStatus : String := "NOT_MEASURED"
  localCleanup : Option Document := none
  terminalObservationId : Option String := none
  lastObservationId : Option String := none
  resultKind : Option DraftResultKind := none
  reasonCode : Option String := none
  ownerWriteReasonCode : Option String := none
  lastObservationState : Option ObservationState := none
  lastObservationLatencyMs : Option Int := none
  lastObservationInputTokens : Option Int := none
  lastObservationOutputTokens : Option Int := none
  contentDisposition : String := "CONTENT_NOT_RETAINED"
  resourceUseId : Option String := none
  evidenceId : Option String := none
  problemId : Option String := none
  problemRevisionId : Option String := none
  problemDigest : Option String := none

/-- What the versions of an invocation have from the call that claimed it. -/
structure Origin where
  contextId : String
  turnId : String
  turnOrdinal : Int
  turnVersion : Int
  invocationId : String
  scope : DraftScope
  initiatingPrincipalId : String
  scopedIdempotencyKey : String
  commitment : String
  pepperReference : String
  pepperVersion : String
  requestTarget : String
  modelTarget : String
  parentTurnId : Option String

/-- An invocation is known by its scope and identifier. -/
abbrev InvocationKey := DraftScope × String

namespace DraftInvocation

def key (r : DraftInvocation) : InvocationKey := (r.scope, r.invocationId)

def origin (r : DraftInvocation) : Origin :=
  { contextId := r.contextId, turnId := r.turnId, turnOrdinal := r.turnOrdinal
    turnVersion := r.turnVersion, invocationId := r.invocationId, scope := r.scope
    initiatingPrincipalId := r.initiatingPrincipalId
    scopedIdempotencyKey := r.scopedIdempotencyKey, commitment := r.commitment
    pepperReference := r.pepperReference, pepperVersion := r.pepperVersion
    requestTarget := r.requestTarget, modelTarget := r.modelTarget, parentTurnId := r.parentTurnId }

/-- The same invocation with the next version number. -/
def next (r : DraftInvocation) : DraftInvocation :=
  { r with aggregateVersion := r.aggregateVersion + 1 }

@[simp] theorem next_key (r : DraftInvocation) : r.next.key = r.key := rfl

@[simp] theorem next_origin (r : DraftInvocation) : r.next.origin = r.origin := rfl

theorem key_eq_of_origin {r r' : DraftInvocation} (h : r'.origin = r.origin) : r'.key = r.key :=
  Prod.ext (congrArg Origin.scope h) (congrArg Origin.invocationId h)

@[simp] theorem next_aggregateVersion (r : DraftInvocation) :
    r.next.aggregateVersion = r.aggregateVersion + 1 := rfl

end DraftInvocation

structure DraftResponse where
  invocation : DraftInvocation
  clarificationQuestion : Option String := none
  title : Option String := none
  description : Option String := none
  synthetic : Bool
  understanding : Option (List Document) := none

end Draft

end AgentPlatform
