/-
AgentPlatform/Draft/Service.lean

The draft assistance service (`DraftAssistanceService`), as calls over the
operations of its repository and of its ports.

An operation of the repository or of a port answers with a value or raises, and
so may do the clock and the identity factory. A crash is not an answer: it is
a call that takes no further step.

A write of the service is a compare-and-set (`replace_`). Where it loses, the
service reads the stored version and goes on with that one; `Site` says which
write it was.
-/
import AgentPlatform.Draft.Invocation
import AgentPlatform.Py.Hmac
import AgentPlatform.Py.Service
import AgentPlatform.Py.Text

namespace AgentPlatform

open Py

namespace Draft

/-! ### Operations -/

/-- Which write of the service it is. -/
inductive Site
  /-- The end of an authorization: pending, denied, or no eligible binding. -/
  | authorization
  /-- The move to `REQUESTED`. -/
  | requested
  /-- The end of a dispatch before it was recorded. -/
  | preDispatch
  /-- The move to `DISPATCH_RECORDED`. -/
  | dispatchRecord
  /-- The end of a recorded dispatch without an observation. -/
  | undispatched
  /-- An observation that contradicts the stored one. -/
  | conflict (received : ProviderObservation)
  | observation (observation : ProviderObservation)
  /-- The owner references of an observation that is answered with its content. -/
  | answer (observation : ProviderObservation)
  /-- The owner references of an observation that was recorded before. -/
  | references
  /-- `cancel` before, and after, the dispatch was recorded. -/
  | withdrawal
  | cancellation
  | rejection
  | link

/-- What the service asks of its repository and its ports. -/
inductive Op
  | getByKey (scope : DraftScope) (principalId key : String)
  | getContextHead (scope : DraftScope) (contextId : String)
  | claim (candidate : DraftInvocation)
  | get (scope : DraftScope) (invocationId : String)
  | compareAndSet (site : Site) (expectedVersion : Nat) (replacement : DraftInvocation)
  /-- The `get` of a write that lost. -/
  | reread (site : Site) (lost : DraftInvocation)
  | clock
  | identity (kind : String)
  | activePepper
  | resolvePepper (reference version : String)
  | authorize (context : RequestContext) (invocation : DraftInvocation)
  | canRead (context : RequestContext) (invocation : DraftInvocation)
  | canCancel (context : RequestContext) (invocation : DraftInvocation)
  | admission (context : RequestContext) (invocation : DraftInvocation) (snapshot : BindingSnapshot)
  | resolveExact (profile : ProfileRevision) (binding : ExactModelBinding) (resource : String)
  | prepare (invocationId content : String) (profile : ProfileRevision)
  | recordRequested (operationId : String) (invocation : DraftInvocation) (snapshot : BindingSnapshot)
  | reserve (operationId : String) (invocation : DraftInvocation) (quote : ProviderBudgetQuote)
  | pricing
  | resolveCredential (profile : ProfileRevision) (invocationId : String)
  | enterGuard (invocation : DraftInvocation) (quote : ProviderBudgetQuote)
  | dispatch (recorded : DraftInvocation) (request : PreparedProviderRequest) (credential : String)
  | leaveGuard
  | observe (invocation : DraftInvocation) (correlation : String)
  | cancel (invocation : DraftInvocation) (correlation : String)
  | recordUsage (operationId reservationId : String) (observation : ProviderObservation)
  | readSettlement (reservationId : String)
  | recordObservation (operationId : String) (invocation : DraftInvocation)
      (observation : ProviderObservation)
  | appendEvidence (operationId : String) (invocation : DraftInvocation)
      (observation : ProviderObservation)
  | attachEvidence (operationId resourceUseId evidenceId : String)

/-- What an operation returns. -/
@[reducible] def Value : Op → Type
  | .getByKey .. | .getContextHead .. | .get .. | .compareAndSet .. | .reread .. =>
      Option DraftInvocation
  | .claim _ => DraftInvocation × Bool
  | .clock => Datetime
  | .identity _ => String
  | .activePepper => String × String × List UInt8
  | .resolvePepper .. => Option (List UInt8)
  | .authorize .. => DraftAuthorization
  | .canRead .. | .canCancel .. => Bool
  | .admission .. => Option DispatchAdmission
  | .resolveExact .. => ResolvedModelBinding
  | .prepare .. => PreparedProviderRequest
  | .recordRequested .. | .reserve .. | .appendEvidence .. => String
  | .pricing => Document
  | .resolveCredential .. => String
  | .enterGuard .. | .leaveGuard | .recordUsage .. | .recordObservation .. | .attachEvidence .. => Unit
  | .dispatch .. | .observe .. | .cancel .. => ProviderObservation
  | .readSettlement _ => String

/-- The answer of an operation: its value, or what it raises. -/
abbrev Answer (op : Op) : Type := Except Fault (Value op)

abbrev Call := Service Answer Fault

/-- Go on with a value or raise. -/
def ofExcept {α : Type} : Except Fault α → Call α
  | .ok a => .pure a
  | .error e => .raise e

/-- Ask for an operation, and raise what it raises. -/
def ask (op : Op) : Call (Value op) := .call op ofExcept

def raise {α : Type} (e : Fault) : Call α := .raise e

/-- Raise unless the condition holds. -/
def require (p : Bool) (reasonCode : String) : Call Unit :=
  if p then pure () else raise (draftError reasonCode)

/-- `try: value = op(...) except Exception: ...`, and how the call goes on. -/
def askOr {α : Type} (op : Op) (handler : Fault → Call α) (k : Value op → Call α) : Call α :=
  .call op fun
    | .ok v => k v
    | .error e => handler e

/-- `try: body except Exception: ...`. -/
def tryExcept {α : Type} (body : Call α) (handler : Fault → Call α) : Call α := do
  match ← Service.attempt body with
  | .ok a => pure a
  | .error e => handler e

/-! ### The service -/

/-- One instance of the service, with what its ports offer. -/
structure DraftAssistanceService where
  profile : ProfileRevision
  /-- In microseconds. -/
  replayWindow : Int
  /-- `transport.synthetic`. -/
  synthetic : Bool
  /-- Whether the budget port has `pricing`, `read_settlement` and `dispatch_guard`. -/
  hasPricing : Bool
  hasSettlement : Bool
  hasGuard : Bool

/-- What a call returns. `received` is the observation that the call received
from the provider, which the response does not carry. -/
structure Reply where
  response : DraftResponse
  received : Option ProviderObservation := none

namespace DraftAssistanceService

def canonicalizationVersion : String := "draft-assistance-canonical.v1"
def commitmentAlgorithm : String := "HMAC-SHA-256"

variable (svc : DraftAssistanceService)

def reply (invocation : DraftInvocation) : Reply :=
  { response := { invocation, synthetic := svc.synthetic } }

end DraftAssistanceService

/-! ### Texts -/

/-- `str(n)`. -/
def decimal (n : Int) : String := String.ofList (Json.printInt n)

def draftRequestTarget (contextId turnId : String) (version : Int) : String :=
  "draft-assistance:context:" ++ contextId ++ ":turn:" ++ turnId ++ ":version:" ++ decimal version

def draftInvocationTarget (contextId turnId invocationId snapshotId : String)
    (binding : ExactModelBinding) : String :=
  "model:invocation:draft-assistance:" ++ contextId ++ ":" ++ turnId ++ ":" ++ invocationId ++ ":"
    ++ snapshotId ++ ":" ++ binding.resourceId ++ ":" ++ binding.revisionId ++ ":" ++ binding.digest

def operationId (kind invocationId suffix : String) : String :=
  kind ++ ":" ++ sha256 (kind ++ "\x00" ++ invocationId ++ "\x00" ++ suffix)

/-- `struct.pack(">I", n)`, which raises beyond 32 bits. -/
def packLength (n : Nat) : Except Fault (List UInt8) :=
  if n < 2 ^ 32 then
    .ok [UInt8.ofNat (n / 2 ^ 24), UInt8.ofNat (n / 2 ^ 16), UInt8.ofNat (n / 2 ^ 8), UInt8.ofNat n]
  else .error otherError

def field (value : String) : Except Fault (List UInt8) := do
  let length ← packLength (utf8 value).length
  return length ++ utf8 value

/-- `b"".join(_field(value) for value in values)`. -/
def joinFields : List String → Except Fault (List UInt8)
  | [] => .ok []
  | value :: values => do
    let first ← field value
    let rest ← joinFields values
    return first ++ rest

def canonical (context : RequestContext) (key content : String) (parentTurnId : Option String)
    (expectedParentVersion : Int) : Except Fault (List UInt8) :=
  joinFields ["PROBLEM_DRAFT_ASSISTANCE", DraftAssistanceService.canonicalizationVersion,
    context.tenantId, context.securityDomain, context.principalId, "REQUEST_DRAFT_ASSISTANCE", key,
    (match parentTurnId with | none => "FIRST" | some _ => "EXISTING_TURN"),
    (match parentTurnId with | none => "ABSENT" | some turn => if turn = "" then "ABSENT" else turn),
    decimal expectedParentVersion, content]

def commitment (context : RequestContext) (key content : String) (parentTurnId : Option String)
    (expectedParentVersion : Int) (pepper : List UInt8) : Except Fault String := do
  let message ← canonical context key content parentTurnId expectedParentVersion
  return hmacSha256 pepper message

/-- The check of `ExactModelUse.__post_init__` for a use that invokes a model. -/
def exactUseValid (binding : ExactModelBinding) (resource : String) : Bool :=
  let start := "model:invocation:"
  let tail := ":" ++ binding.resourceId ++ ":" ++ binding.revisionId ++ ":" ++ binding.digest
  (strip resource ≠ "") && start.toList.isPrefixOf resource.toList
    && tail.toList.isSuffixOf resource.toList && decide (start.length + tail.length < resource.length)

/-! ### Writes -/

def replace_ (site : Site) (invocation : DraftInvocation)
    (changes : DraftInvocation → DraftInvocation) : Call DraftInvocation := do
  let replacement := changes invocation.next
  match ← ask (.compareAndSet site invocation.aggregateVersion replacement) with
  | some saved => pure saved
  | none =>
    match ← ask (.reread site replacement) with
    | some current => pure current
    | none => raise (draftError "DRAFT_ASSISTANCE_NOT_FOUND")

namespace DraftAssistanceService

variable (svc : DraftAssistanceService)

/-! ### Observations -/

/-- `self.budget.pricing()`, an `AttributeError` where the port has none. -/
def pricing : Call Document :=
  if svc.hasPricing then ask .pricing else raise otherError

/-- The price is still the one that the dispatch was recorded with. -/
def checkPrice (invocation : DraftInvocation) : Call Unit :=
  match invocation.pricing with
  | none => pure ()
  | some price => do
    let current ← svc.pricing
    require (price = current) "PROVIDER_PRICE_VERSION_CONFLICT"

/-- `observation.measurement is None or observation.measurement.get("settleable")`. -/
def settleable (observation : ProviderObservation) : Bool :=
  observation.measurement.all (·.holds "settleable")

def recordUsage (invocation : DraftInvocation) (observation : ProviderObservation)
    (reservationId : String) : Call Unit :=
  if settleable observation then
    ask (.recordUsage (operationId "provider-budget-usage" invocation.invocationId
      observation.observationId) reservationId observation)
  else pure ()

def updateSettlement (site : Site) (invocation : DraftInvocation) (reservationId : String) :
    Call DraftInvocation :=
  if svc.hasSettlement then do
    let status ← ask (.readSettlement reservationId)
    if status ≠ invocation.settlementStatus then
      replace_ site invocation fun r => { r with settlementStatus := status }
    else pure invocation
  else pure invocation

/-- The budget part of `_complete_observation_refs`, inside its `try`. -/
def settleUsage (site : Site) (invocation : DraftInvocation) (observation : ProviderObservation)
    (reservationId : String) : Call DraftInvocation := do
  svc.checkPrice invocation
  recordUsage invocation observation reservationId
  svc.updateSettlement site invocation reservationId

/-- The budget part of `_complete_observation_refs`: the invocation, and the
reason that is left pending. -/
def completeBudget (site : Site) (invocation : DraftInvocation) (observation : ProviderObservation) :
    Call (DraftInvocation × Option String) :=
  match invocation.budgetReservationId with
  | none => pure (invocation, none)
  | some reservationId =>
    tryExcept (do return (← svc.settleUsage site invocation observation reservationId, none)) fun _ =>
      if invocation.settlementStatus ≠ "SETTLEMENT_WRITE_PENDING" then do
        let updated ← replace_ site invocation fun r =>
          { r with settlementStatus := "SETTLEMENT_WRITE_PENDING" }
        return (updated, some "PROVIDER_BUDGET_SETTLEMENT_PENDING")
      else return (invocation, some "PROVIDER_BUDGET_SETTLEMENT_PENDING")

/-- The resource-use part of `_complete_observation_refs`. -/
def completeResourceUse (invocation : DraftInvocation) (observation : ProviderObservation)
    (pending : Option String) : Call (Option String) :=
  askOr (.recordObservation (operationId "resource-use-observation" invocation.invocationId
      observation.observationId) invocation observation)
    (fun _ => pure (some "RESOURCE_USE_COMPLETION_PENDING"))
    (fun _ => pure pending)

def attachEvidence (invocation : DraftInvocation) (evidenceId : String) : Call Unit :=
  match invocation.resourceUseId with
  | none => pure ()
  | some resourceUseId =>
    if resourceUseId ≠ "" then
      ask (.attachEvidence (operationId "resource-use-evidence" invocation.invocationId evidenceId)
        resourceUseId evidenceId)
    else pure ()

/-- The evidence part of `_complete_observation_refs`. -/
def completeEvidence (site : Site) (invocation updated : DraftInvocation)
    (observation : ProviderObservation) (pending : Option String) : Call DraftInvocation :=
  tryExcept (do
    let evidenceId ← ask (.appendEvidence (operationId "model-evidence" invocation.invocationId
      observation.observationId) invocation observation)
    attachEvidence invocation evidenceId
    if invocation.evidenceId ≠ some evidenceId ∨ pending ≠ none then
      replace_ site updated fun r =>
        { r with evidenceId := some evidenceId, ownerWriteReasonCode := pending }
    else pure updated)
    fun _ =>
      if updated.ownerWriteReasonCode ≠ some "EVIDENCE_APPEND_PENDING" then
        replace_ site updated fun r =>
          { r with ownerWriteReasonCode := some "EVIDENCE_APPEND_PENDING" }
      else pure updated

/-- The reasons that the last step of `_complete_observation_refs` clears. -/
def pendingReasons : List String :=
  ["RESOURCE_USE_COMPLETION_PENDING", "EVIDENCE_APPEND_PENDING", "PROVIDER_BUDGET_SETTLEMENT_PENDING"]

/-- `_complete_observation_refs`; `site` names its writes. -/
def completeObservationRefs (site : Site) (invocation : DraftInvocation)
    (observation : ProviderObservation) : Call DraftInvocation := do
  let (updated, pending) ← svc.completeBudget site invocation observation
  let pending ← completeResourceUse invocation observation pending
  let updated ← completeEvidence site invocation updated observation pending
  if pending = none ∧ updated.evidenceId ≠ none
      ∧ ∃ reason ∈ pendingReasons, updated.ownerWriteReasonCode = some reason then
    replace_ site updated fun r => { r with ownerWriteReasonCode := none }
  else pure updated

/-- The version and the observation that `_record_observation` goes on with: a
cancellation requested meanwhile counts, and a success after it does not. -/
def adopt (invocation : DraftInvocation) (observation : ProviderObservation)
    (current : Option DraftInvocation) : DraftInvocation × ProviderObservation :=
  match current with
  | some current =>
    if current.aggregateVersion ≠ invocation.aggregateVersion
        ∧ current.state = .cancellationRequested then
      (current, if observation.state = .succeeded then observation.late else observation)
    else (invocation, observation)
  | none => (invocation, observation)

def stateMap : ObservationState → DraftInvocationState
  | .accepted => .accepted
  | .running => .running
  | .succeeded => .succeeded
  | .failed => .failed
  | .unknown => .outcomeUnknown
  | .cancellationConfirmed => .cancellationConfirmed

def projectedState (invocation : DraftInvocation) (observation : ProviderObservation) :
    DraftInvocationState :=
  if invocation.state = .cancellationRequested
      ∧ (observation.state = .accepted ∨ observation.state = .running ∨ observation.state = .unknown) then
    .cancellationRequested
  else stateMap observation.state

/-- The observation states that end an invocation. -/
def terminal (state : ObservationState) : Bool :=
  state = .succeeded || state = .failed || state = .cancellationConfirmed

/-- The changes that record an observation. -/
def observed (invocation : DraftInvocation) (observation : ProviderObservation)
    (r : DraftInvocation) : DraftInvocation :=
  { r with
    state := projectedState invocation observation
    providerCorrelation := observation.correlation
    measurement := Document.orElse observation.measurement invocation.measurement
    localCleanup := Document.orElse observation.localCleanup invocation.localCleanup
    lastObservationId := some observation.observationId
    terminalObservationId := if terminal observation.state then some observation.observationId else none
    resultKind := observation.resultKind
    reasonCode := observation.reasonCode
    ownerWriteReasonCode := none
    lastObservationState := some observation.state
    lastObservationLatencyMs := observation.latencyMs
    lastObservationInputTokens := observation.inputTokens
    lastObservationOutputTokens := observation.outputTokens }

/-- A version in conflict with the observation `received`. -/
def replaceConflict (invocation : DraftInvocation) (received : ProviderObservation)
    (reasonCode : String) : Call Reply := do
  let conflicted ← replace_ (.conflict received) invocation fun r =>
    { r with state := .conflictReviewRequired, reasonCode := some reasonCode }
  return { svc.reply conflicted with received := some received }

/-- `_record_observation`, once it is settled which version it goes on with. -/
def recordAdopted (invocation : DraftInvocation) (observation received : ProviderObservation) :
    Call Reply := do
  if invocation.lastObservationId = some observation.observationId then
    if invocation.state = projectedState invocation observation then do
      let repaired ← svc.completeObservationRefs .references invocation observation
      return { svc.reply repaired with received := some received }
    else svc.replaceConflict invocation received "OBSERVATION_ID_CONFLICT"
  else if truthy invocation.terminalObservationId then
    svc.replaceConflict invocation received "TERMINAL_CONFLICT"
  else do
    let updated ← replace_ (.observation observation) invocation (observed invocation observation)
    let updated ← svc.completeObservationRefs (.answer observation) updated observation
    return {
      response := {
        invocation := updated
        clarificationQuestion := observation.clarificationQuestion
        understanding := observation.understanding
        title := observation.title
        description := observation.description
        synthetic := svc.synthetic }
      received := some received }

def recordObservation (invocation : DraftInvocation) (received : ProviderObservation) :
    Call Reply := do
  let current ← ask (.get invocation.scope invocation.invocationId)
  let adopted := adopt invocation received current
  svc.recordAdopted adopted.1 adopted.2 received

/-- What the content of a stored observation is read back as. -/
def notRetained : Option String := some "CONTENT_NOT_RETAINED"

def persistedObservation (invocation : DraftInvocation) : Except Fault ProviderObservation :=
  match invocation.lastObservationState, invocation.lastObservationId with
  | some state, some observationId =>
    let succeeded (kind : DraftResultKind) : Bool :=
      state = .succeeded ∧ invocation.resultKind = some kind
    let clarification := if succeeded .needsClarification then notRetained else none
    let text := if succeeded .draftReady then notRetained else none
    if h : contentValid state invocation.resultKind clarification text text = true then
      .ok {
        observationId, state
        correlation := invocation.providerCorrelation
        measurement := invocation.measurement
        localCleanup := invocation.localCleanup
        resultKind := invocation.resultKind
        clarificationQuestion := clarification
        title := text
        description := text
        reasonCode := invocation.reasonCode
        latencyMs := invocation.lastObservationLatencyMs
        inputTokens := invocation.lastObservationInputTokens
        outputTokens := invocation.lastObservationOutputTokens
        valid := h }
    else .error (draftError "OUTPUT_SCHEMA_INVALID")
  | _, _ => .error (draftError "OBSERVATION_RECOVERY_UNAVAILABLE")

def repairOwnerWrites (invocation : DraftInvocation) : Call DraftInvocation := do
  let observation ← ofExcept (persistedObservation invocation)
  svc.completeObservationRefs .references invocation observation

/-! ### Dispatch -/

/-- A dispatch that ends before it is recorded. -/
def failPreDispatch (invocation : DraftInvocation) (changes : DraftInvocation → DraftInvocation)
    (reasonCode : String) (error : Fault) : Call Reply := do
  let _ ← replace_ .preDispatch invocation fun r =>
    { changes r with state := .failedPreDispatch, reasonCode := some reasonCode }
  raise error

/-- The error that a failed `prepare` is reported as. -/
def prepareFault (e : Fault) : Fault :=
  match e.kind with
  | .draft _ => e
  | _ => draftError "PROVIDER_REQUEST_INVALID"

/-- A recorded dispatch that ends without an observation. -/
def failUndispatched (recorded : DraftInvocation) (reasonCode : String) : Call Reply := do
  let _ ← replace_ .undispatched recorded fun r =>
    { r with state := .failedPreDispatch, reasonCode := some reasonCode }
  raise (draftError reasonCode)

/-- The handler of `transport.dispatch` and its guard; `entered` says whether the
provider was entered. -/
def handleDispatchFault (recorded : DraftInvocation) (entered : Bool) (e : Fault) : Call Reply :=
  if e.kind = .authority ∧ entered = false then
    failUndispatched recorded "DISPATCH_ADMISSION_DENIED"
  else do
    let _ ← replace_ .undispatched recorded fun r =>
      { r with
        state := .outcomeUnknown, reasonCode := some "TRANSPORT_AMBIGUOUS"
        localCleanup := e.diagnostic }
    raise (draftError "TRANSPORT_AMBIGUOUS")

/-- `transport.dispatch`, inside the guard of the budget port where it has one.
Leaving the guard may raise; it does not hide an exception of its body. -/
def dispatchGuarded (invocation recorded : DraftInvocation) (prepared : PreparedProviderRequest)
    (credential : String) : Call Reply :=
  if svc.hasGuard then
    askOr (.enterGuard invocation prepared.quote) (handleDispatchFault recorded false) fun _ =>
      askOr (.dispatch recorded prepared credential)
        (fun e => askOr .leaveGuard (handleDispatchFault recorded true) fun _ =>
          handleDispatchFault recorded true e)
        fun observation => askOr .leaveGuard (handleDispatchFault recorded true) fun _ =>
          svc.recordObservation recorded observation
  else
    askOr (.dispatch recorded prepared credential) (handleDispatchFault recorded true) fun observation =>
      svc.recordObservation recorded observation

/-- What `_dispatch` does once the dispatch is recorded. -/
def dispatchRecorded (invocation recorded : DraftInvocation)
    (prepared : PreparedProviderRequest) : Call Reply :=
  askOr (.resolveCredential svc.profile invocation.invocationId)
    (fun _ => failUndispatched recorded "CREDENTIAL_RESOLUTION_FAILED")
    fun credential => svc.dispatchGuarded invocation recorded prepared credential

/-- The admission of a dispatch, if it has not expired. -/
def currentAdmission (context : RequestContext) (invocation : DraftInvocation)
    (snapshot : BindingSnapshot) : Call (Option DispatchAdmission) := do
  match ← ask (.admission context invocation snapshot) with
  | none => pure none
  | some admission => do
    let now ← ask .clock
    pure (if admission.expiresAt ≤ now then none else some admission)

def recordedVersion (invocation : DraftInvocation) (resourceUseId reservationId : String)
    (admission : DispatchAdmission) (price : Option Document) : DraftInvocation :=
  { invocation.next with
    resourceUseId := some resourceUseId
    budgetReservationId := some reservationId
    pricing := price
    settlementStatus := if svc.hasPricing then "PENDING_RECONCILIATION" else "NOT_MEASURED"
    admissionId := some admission.admissionId
    dispatchFence := some admission.fence
    state := .dispatchRecorded }

/-- The price that a dispatch is recorded with. -/
def dispatchPrice : Call (Option Document) :=
  if svc.hasPricing then do return some (← ask .pricing) else pure none

/-- The part of `_dispatch` from the admission on. -/
def recordDispatch (context : RequestContext) (invocation : DraftInvocation)
    (snapshot : BindingSnapshot) (prepared : PreparedProviderRequest)
    (resourceUseId reservationId : String) : Call Reply := do
  match ← currentAdmission context invocation snapshot with
  | none =>
    failPreDispatch invocation
      (fun r => { r with
        resourceUseId := some resourceUseId, budgetReservationId := some reservationId })
      "DISPATCH_ADMISSION_DENIED" (draftError "DISPATCH_ADMISSION_DENIED")
  | some admission => do
    let price ← svc.dispatchPrice
    match ← ask (.compareAndSet .dispatchRecord invocation.aggregateVersion
        (svc.recordedVersion invocation resourceUseId reservationId admission price)) with
    | some recorded => svc.dispatchRecorded invocation recorded prepared
    | none =>
      match ← ask (.get invocation.scope invocation.invocationId) with
      | none => raise (draftError "DRAFT_ASSISTANCE_NOT_FOUND")
      | some current => return svc.reply current

def dispatch (context : RequestContext) (invocation : DraftInvocation) (content : String) :
    Call Reply :=
  match invocation.snapshot with
  | none => raise (draftError "MODEL_BINDING_MISMATCH")
  | some snapshot =>
    askOr (.prepare invocation.invocationId content svc.profile)
      (fun e => failPreDispatch invocation id "PROVIDER_REQUEST_INVALID" (prepareFault e))
      fun prepared =>
    askOr (.recordRequested (operationId "resource-use-requested" invocation.invocationId "v1")
        invocation snapshot)
      (fun _ => failPreDispatch invocation id "RESOURCE_USE_ADMISSION_FAILED"
        (draftError "RESOURCE_USE_ADMISSION_FAILED"))
      fun resourceUseId =>
    askOr (.reserve (operationId "provider-budget-reservation" invocation.invocationId "v1")
        invocation prepared.quote)
      (fun _ => failPreDispatch invocation (fun r => { r with resourceUseId := some resourceUseId })
        "PROVIDER_BUDGET_DENIED" (draftError "PROVIDER_BUDGET_DENIED"))
      fun reservationId =>
    svc.recordDispatch context invocation snapshot prepared resourceUseId reservationId

/-! ### Authorization -/

/-- The resolved binding is the one that the profile names, and may be used. -/
def bindingMatches (resolved : ResolvedModelBinding) : Bool :=
  resolved.binding = svc.profile.binding
    && resolved.provider = ⟨svc.profile.providerId, svc.profile.providerRevisionId, svc.profile.providerDigest⟩
    && resolved.endpoint = ⟨svc.profile.endpointId, svc.profile.endpointRevisionId, svc.profile.endpointDigest⟩
    && resolved.connectionProfile = ⟨svc.profile.connectionProfileId,
      svc.profile.connectionProfileRevisionId, svc.profile.connectionProfileDigest⟩
    && resolved.allowsNewUse

/-- The snapshot of a resolved binding. -/
def bindingSnapshot (snapshotId : String) (highWater : Int) : BindingSnapshot where
  snapshotId
  snapshotDigest := sha256 (snapshotId ++ "\x00" ++ svc.profile.profileRevisionId ++ "\x00"
    ++ svc.profile.profileDigest ++ "\x00" ++ svc.profile.binding.resourceId ++ "\x00"
    ++ svc.profile.binding.revisionId ++ "\x00" ++ svc.profile.binding.digest ++ "\x00"
    ++ decimal highWater)
  profileRevisionId := svc.profile.profileRevisionId
  profileDigest := svc.profile.profileDigest
  modelBinding := svc.profile.binding
  providerId := svc.profile.providerId
  providerRevisionId := svc.profile.providerRevisionId
  providerDigest := svc.profile.providerDigest
  endpointId := svc.profile.endpointId
  endpointRevisionId := svc.profile.endpointRevisionId
  endpointDigest := svc.profile.endpointDigest
  connectionProfileId := svc.profile.connectionProfileId
  connectionProfileRevisionId := svc.profile.connectionProfileRevisionId
  connectionProfileDigest := svc.profile.connectionProfileDigest
  adapterId := svc.profile.adapterId
  adapterRevision := svc.profile.adapterRevision
  eligibilityHighWater := highWater

/-- An authorization that ends without a binding. -/
def failBinding (invocation : DraftInvocation) (decision : DraftAuthorization) (reasonCode : String) :
    Call Reply := do
  let _ ← replace_ .authorization invocation fun r =>
    { r with
      authorization := some decision, state := .failedPreDispatch, reasonCode := some reasonCode }
  raise (draftError reasonCode)

def authorizeAndDispatch (context : RequestContext) (invocation : DraftInvocation)
    (content : String) : Call Reply := do
  let decision ← ask (.authorize context invocation)
  match decision.state with
  | .pending =>
    let current ← replace_ .authorization invocation fun r =>
      { r with authorization := some decision, state := .authorizationPending }
    return svc.reply current
  | .denied =>
    let current ← replace_ .authorization invocation fun r =>
      { r with
        authorization := some decision, state := .rejected
        reasonCode := some "DRAFT_ASSISTANCE_AUTHORIZATION_DENIED" }
    return svc.reply current
  | .allowed =>
    if exactUseValid svc.profile.binding invocation.modelTarget = false then raise otherError
    else
      askOr (.resolveExact svc.profile svc.profile.binding invocation.modelTarget)
        (fun _ => failBinding invocation decision "MODEL_BINDING_NOT_ELIGIBLE")
        fun resolved =>
          if svc.bindingMatches resolved then do
            let requested ← replace_ .requested invocation fun r =>
              { r with
                authorization := some decision
                snapshot := some
                  (svc.bindingSnapshot invocation.snapshotCandidateId resolved.highWater)
                state := .requested }
            svc.dispatch context requested content
          else failBinding invocation decision "MODEL_BINDING_MISMATCH"

def resume (context : RequestContext) (invocation : DraftInvocation) (content : String) :
    Call Reply := do
  if invocation.state = .authorizationPending then
    svc.authorizeAndDispatch context invocation content
  else if invocation.state = .requested ∨ invocation.state = .requestedAwaitingContent then
    svc.dispatch context invocation content
  else if invocation.ownerWriteReasonCode ≠ none then do
    let repaired ← svc.repairOwnerWrites invocation
    return svc.reply repaired
  else return svc.reply invocation

/-! ### Public operations -/

/-- The arguments of `begin`. -/
structure BeginRequest where
  key : String
  content : String
  parentContextId : Option String := none
  parentTurnId : Option String := none
  expectedParentVersion : Int := 0
  predecessorInvocationId : Option String := none
  deriving DecidableEq

def validateContent (key content : String) : Call Unit := do
  require (key ≠ "" && key.length ≤ 128 && strip key = key) "IDEMPOTENCY_KEY_INVALID"
  require (strip content ≠ "" && (utf8 content).length ≤ svc.profile.maximumInputBytes)
    "DRAFT_CONTENT_INVALID"

def verifyReplay (context : RequestContext) (invocation : DraftInvocation) (content : String) :
    Call Unit := do
  let now ← ask .clock
  require (now < invocation.replayNotAfter) "IDEMPOTENCY_REPLAY_WINDOW_EXPIRED"
  match ← ask (.resolvePepper invocation.pepperReference invocation.pepperVersion) with
  | none => raise (draftError "IDEMPOTENCY_REPLAY_UNVERIFIABLE")
  | some pepper => do
    let candidate ← ofExcept (commitment context invocation.scopedIdempotencyKey content
      invocation.parentTurnId (invocation.turnVersion - 1) pepper)
    require (candidate = invocation.commitment) "IDEMPOTENCY_PAYLOAD_MISMATCH"

/-- The checks before a call is answered from a stored invocation. -/
def admitReplay (context : RequestContext) (invocation : DraftInvocation) (content : String) :
    Call Unit := do
  let readable ← ask (.canRead context invocation)
  require readable "DRAFT_ASSISTANCE_NOT_FOUND"
  verifyReplay context invocation content

/-- A call that is answered from a stored invocation. -/
def replay (context : RequestContext) (invocation : DraftInvocation) (content : String) :
    Call Reply := do
  admitReplay context invocation content
  svc.resume context invocation content

def checkParent (context : RequestContext) (request : BeginRequest) : Call Unit := do
  match request.parentTurnId with
  | none =>
    require (request.parentContextId = none && request.predecessorInvocationId = none
      && request.expectedParentVersion = 0) "DRAFT_TURN_VERSION_CONFLICT"
  | some parentTurnId =>
    match request.parentContextId, request.predecessorInvocationId with
    | some parentContextId, some predecessor => do
      match ← ask (.getContextHead context.draftScope parentContextId) with
      | none => raise (draftError "DRAFT_TURN_VERSION_CONFLICT")
      | some head =>
        require (head.initiatingPrincipalId = context.principalId && head.turnId = parentTurnId
          && head.turnVersion = request.expectedParentVersion && head.invocationId = predecessor)
          "DRAFT_TURN_VERSION_CONFLICT"
    | _, _ => raise (draftError "DRAFT_TURN_VERSION_CONFLICT")

/-- The invocation that a first call claims. -/
def candidate (context : RequestContext) (request : BeginRequest) (contextId turnId invocationId
    snapshotId commitment pepperReference pepperVersion : String) (now notAfter : Datetime) :
    DraftInvocation where
  contextId
  turnId
  turnOrdinal := request.expectedParentVersion + 1
  turnVersion := request.expectedParentVersion + 1
  invocationId
  snapshotCandidateId := snapshotId
  scope := context.draftScope
  initiatingPrincipalId := context.principalId
  scopedIdempotencyKey := request.key
  commitment
  commitmentAlgorithm
  canonicalizationVersion
  pepperReference
  pepperVersion
  createdAt := now
  replayNotAfter := notAfter
  profileRevisionId := svc.profile.profileRevisionId
  requestTarget := draftRequestTarget contextId turnId (request.expectedParentVersion + 1)
  modelTarget := draftInvocationTarget contextId turnId invocationId snapshotId svc.profile.binding
  parentTurnId := request.parentTurnId
  predecessorInvocationId := request.predecessorInvocationId

/-- The invocation was claimed for this request, and committed to it with this
pepper. -/
structure ClaimedBy (context : RequestContext) (request : BeginRequest) (pepper : List UInt8)
    (r : DraftInvocation) : Prop where
  scope : r.scope = context.draftScope
  principal : r.initiatingPrincipalId = context.principalId
  key : r.scopedIdempotencyKey = request.key
  parent : r.parentTurnId = request.parentTurnId
  version : r.turnVersion = request.expectedParentVersion + 1
  commitment : commitment context request.key request.content request.parentTurnId
    request.expectedParentVersion pepper = .ok r.commitment

/-- The context of a turn: the one given, if its identifier is not empty. -/
def contextFor (parentContextId : Option String) : Call String :=
  match parentContextId with
  | some contextId => if contextId ≠ "" then pure contextId else ask (.identity "draft-context")
  | none => ask (.identity "draft-context")

/-- The first call of a key: the part of `begin` after the replay check. -/
def beginFirst (context : RequestContext) (request : BeginRequest) : Call Reply := do
  checkParent context request
  let (pepperReference, pepperVersion, pepper) ← ask .activePepper
  let now ← ask .clock
  let contextId ← contextFor request.parentContextId
  let turnId ← ask (.identity "draft-turn")
  let invocationId ← ask (.identity "draft-invocation")
  let snapshotId ← ask (.identity "draft-snapshot")
  let value ← ofExcept (commitment context request.key request.content request.parentTurnId
    request.expectedParentVersion pepper)
  match now.addMicros svc.replayWindow with
  | none => raise otherError
  | some notAfter =>
    let (invocation, won) ← ask (.claim (svc.candidate context request contextId turnId invocationId
      snapshotId value pepperReference pepperVersion now notAfter))
    if won then svc.authorizeAndDispatch context invocation request.content
    else svc.replay context invocation request.content

def begin_ (context : RequestContext) (request : BeginRequest) : Call Reply := do
  svc.validateContent request.key request.content
  require (context.draftScope = svc.profile.scope) "DRAFT_ASSISTANCE_NOT_FOUND"
  match ← ask (.getByKey context.draftScope context.principalId request.key) with
  | some existing => svc.replay context existing request.content
  | none => svc.beginFirst context request

/-- `read_authorized_invocation`. -/
def read (context : RequestContext) (invocationId : String) : Call DraftInvocation := do
  match ← ask (.get context.draftScope invocationId) with
  | none => raise (draftError "DRAFT_ASSISTANCE_NOT_FOUND")
  | some value => do
    let readable ← ask (.canRead context value)
    require readable "DRAFT_ASSISTANCE_NOT_FOUND"
    return value

def observe (context : RequestContext) (invocationId : String) : Call Reply := do
  let value ← read context invocationId
  if value.ownerWriteReasonCode ≠ none then do
    let repaired ← svc.repairOwnerWrites value
    return svc.reply repaired
  else
    match value.providerCorrelation with
    | some correlation =>
      if truthy value.terminalObservationId = true ∨ correlation = "" then return svc.reply value
      else do
        let observation ← ask (.observe value correlation)
        svc.recordObservation value observation
    | none => return svc.reply value

def cancel (context : RequestContext) (invocationId : String) : Call Reply := do
  let value ← read context invocationId
  let allowed ← ask (.canCancel context value)
  require allowed "DRAFT_ASSISTANCE_NOT_FOUND"
  if value.state ∈ [.authorizationPending, .requestedAwaitingContent, .requested] then do
    let current ← replace_ .withdrawal value fun r => { r with state := .rejectedByUser }
    return svc.reply current
  else if value.state ∈ [.dispatchRecorded, .accepted, .running, .outcomeUnknown,
      .cancellationRequested] then do
    let requested ← replace_ .cancellation value fun r => { r with state := .cancellationRequested }
    match requested.providerCorrelation with
    | some correlation =>
      if correlation = "" then return svc.reply requested
      else do
        let observation ← ask (.cancel requested correlation)
        svc.recordObservation requested observation
    | none => return svc.reply requested
  else raise (draftError "DRAFT_STATE_CONFLICT")

def reject (context : RequestContext) (invocationId : String) : Call Reply := do
  let value ← read context invocationId
  require (value.state ∈ [.succeeded, .failed, .outcomeUnknown]) "DRAFT_STATE_CONFLICT"
  let current ← replace_ .rejection value fun r => { r with state := .rejectedByUser }
  return svc.reply current

def linkProblem (context : RequestContext) (invocationId problemId problemRevisionId
    problemDigest : String) : Call Reply := do
  let value ← read context invocationId
  if truthy value.problemId then do
    require (value.problemId = some problemId && value.problemRevisionId = some problemRevisionId
      && value.problemDigest = some problemDigest) "DRAFT_PROBLEM_LINK_CONFLICT"
    return svc.reply value
  else do
    require (value.state = .succeeded) "DRAFT_STATE_CONFLICT"
    let current ← replace_ .link value fun r =>
      { r with
        problemId := some problemId, problemRevisionId := some problemRevisionId
        problemDigest := some problemDigest }
    return svc.reply current

end DraftAssistanceService

end Draft

end AgentPlatform
