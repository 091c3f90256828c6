/-
AgentPlatform/Control/Domain.lean

The persistence records of Workflow Control (`workflow_control_domain`).

An intervention has exactly one target, so `InterventionTarget` is a sum.
Versions and ordinals are natural numbers; a negative one fails its `CHECK`
constraint. The `dict[str, Any]` fields are JSON objects; the items of
`evidence_records` and `outcome_records` have fixed keys and are records here.

`payload_digest` covers the operation's payload, target, plan, successors,
placement and terminal state, but of the evidence and the outcomes only their
digests, and neither the intervention nor its request, review, decision or
approval.
-/
import AgentPlatform.ContractCodec
import AgentPlatform.Dispatch.Repository

namespace AgentPlatform

open Py

/-- `PlanStatus.value`. -/
def PlanStatus.value : PlanStatus → String
  | draft => "DRAFT"
  | pendingApproval => "PENDING_APPROVAL"
  | approved => "APPROVED"
  | rejected => "REJECTED"
  | cancelled => "CANCELLED"
  | invalidated => "INVALIDATED"
  | superseded => "SUPERSEDED"

namespace Control

/-! ### Failures -/

inductive ControlFailure
  /-- `WorkflowControlConflict(code)`. -/
  | conflict (code : String)
  /-- `WorkflowControlNotAuthorized(code)`. -/
  | notAuthorized (code : String)
  /-- Raised by the execution lineage checks, or a database error outside the
  `try` blocks (`Failure.database`). -/
  | execution (failure : Failure)
  deriving DecidableEq

/-- A database error inside a `try` block. -/
abbrev controlConflict : ControlFailure := .conflict "WORKFLOW_CONTROL_CONFLICT"

/-! ### Enumerations -/

inductive InterventionState
  | requested | authorized | applicationPending | applied | observed | rejected | expired
  | cancelled | failed
  deriving DecidableEq

def transitions : Option InterventionState → List InterventionState
  | none => [.requested]
  | some .requested => [.authorized, .rejected, .expired, .cancelled]
  | some .authorized => [.applicationPending, .cancelled, .expired]
  | some .applicationPending => [.applied, .failed]
  | some .applied => [.observed, .failed]
  | some _ => []

inductive AtomicCommandType
  | approveAndContinue | rejectPlan | correctPlan | requestIntervention | reviewIntervention
  | applyInterventionDecision | retryAttempt | createSuccessorRun | replaceRuntime
  | cancelControlledExecution | completeExecutionWithOutcome
  deriving DecidableEq

def AtomicCommandType.value : AtomicCommandType → String
  | approveAndContinue => "APPROVE_AND_CONTINUE"
  | rejectPlan => "REJECT_PLAN"
  | correctPlan => "CORRECT_PLAN"
  | requestIntervention => "REQUEST_INTERVENTION"
  | reviewIntervention => "REVIEW_INTERVENTION"
  | applyInterventionDecision => "APPLY_INTERVENTION_DECISION"
  | retryAttempt => "RETRY_ATTEMPT"
  | createSuccessorRun => "CREATE_SUCCESSOR_RUN"
  | replaceRuntime => "REPLACE_RUNTIME"
  | cancelControlledExecution => "CANCEL_CONTROLLED_EXECUTION"
  | completeExecutionWithOutcome => "COMPLETE_EXECUTION_WITH_OUTCOME"

/-- `APPROVE` or `REJECT`. -/
inductive PlanVerdict
  | approve | reject
  deriving DecidableEq

/-- The status a verdict gives its plan. -/
def PlanVerdict.status : PlanVerdict → PlanStatus
  | approve => .approved
  | reject => .rejected

/-- `AUTHORIZE` or `REJECT`; `InterventionDecision` accepts no other. -/
inductive InterventionVerdict
  | authorize | reject
  deriving DecidableEq

/-- The state a verdict gives its intervention. -/
def InterventionVerdict.state : InterventionVerdict → InterventionState
  | authorize => .authorized
  | reject => .rejected

/-! ### Digests -/

/-- `canonical_digest(value)` of a value whose datetimes, enumerations, bytes
and dataclasses are written as its `default` does. -/
def canonicalDigest (value : Json) : String := sha256 (Json.dumps true value)

def optNat : Option Nat → Json
  | none => .null
  | some n => .int n

/-! ### Targets -/

/-- `InterventionTarget`: exactly one of the three ids is set. -/
inductive InterventionTarget
  | workflowRun (id : String)
  | taskRun (id : String)
  | attempt (id : String)
  deriving DecidableEq

namespace InterventionTarget

def id : InterventionTarget → String
  | workflowRun id | taskRun id | attempt id => id

def workflowRunId : InterventionTarget → Option String
  | workflowRun id => some id
  | _ => none

def taskRunId : InterventionTarget → Option String
  | taskRun id => some id
  | _ => none

def attemptId : InterventionTarget → Option String
  | attempt id => some id
  | _ => none

def asdict (t : InterventionTarget) : Json :=
  .obj [("workflow_run_id", .optStr t.workflowRunId), ("task_run_id", .optStr t.taskRunId),
    ("attempt_id", .optStr t.attemptId)]

end InterventionTarget

section Records

variable [Unicodedata]

/-! ### Plans -/

structure PlanRecord where
  scope : ScopeIdentity
  planId : String
  planVersion : Nat
  workflowDefinitionId : String
  workflowDefinitionRevisionId : String
  workflowDefinitionDigest : String
  status : PlanStatus
  aggregateVersion : Nat
  planDigest : String
  canonicalBytes : List UInt8
  createdAt : Datetime
  updatedAt : Datetime
  predecessorPlanId : Option String
  predecessorPlanVersion : Option Nat
  sourcePlanRevision : Option Nat
  sourcePlanDigest : Option String
  actorId : Option String
  authorityClassification : Option String
  correctionReasonCategory : Option String
  deriving DecidableEq

def PlanRecord.asdict (p : PlanRecord) : Json :=
  .obj [("scope", p.scope.json), ("plan_id", .str p.planId), ("plan_version", .int p.planVersion),
    ("workflow_definition_id", .str p.workflowDefinitionId),
    ("workflow_definition_revision_id", .str p.workflowDefinitionRevisionId),
    ("workflow_definition_digest", .str p.workflowDefinitionDigest),
    ("status", .str p.status.value), ("aggregate_version", .int p.aggregateVersion),
    ("plan_digest", .str p.planDigest), ("canonical_bytes", .str (hexBytes p.canonicalBytes)),
    ("created_at", .str p.createdAt.isoformat), ("updated_at", .str p.updatedAt.isoformat),
    ("predecessor_plan_id", .optStr p.predecessorPlanId),
    ("predecessor_plan_version", optNat p.predecessorPlanVersion),
    ("source_plan_revision", optNat p.sourcePlanRevision),
    ("source_plan_digest", .optStr p.sourcePlanDigest), ("actor_id", .optStr p.actorId),
    ("authority_classification", .optStr p.authorityClassification),
    ("correction_reason_category", .optStr p.correctionReasonCategory)]

end Records

structure ApprovalDecision where
  approvalDecisionId : String
  planId : String
  planVersion : Nat
  planDigest : String
  ordinal : Nat
  decision : PlanVerdict
  actorId : String
  authorityBasis : String
  reasonCategory : String
  decisionDigest : String
  decidedAt : Datetime
  deriving DecidableEq

structure PlanCorrection where
  correctionId : String
  predecessorPlanId : String
  predecessorPlanVersion : Nat
  successorPlanId : String
  successorPlanVersion : Nat
  actorId : String
  authorityClassification : String
  reasonCategory : String
  normalizedCorrection : List (String × Json)
  correctedAt : Datetime

def PlanCorrection.asdict (c : PlanCorrection) : Json :=
  .obj [("correction_id", .str c.correctionId), ("predecessor_plan_id", .str c.predecessorPlanId),
    ("predecessor_plan_version", .int c.predecessorPlanVersion),
    ("successor_plan_id", .str c.successorPlanId),
    ("successor_plan_version", .int c.successorPlanVersion), ("actor_id", .str c.actorId),
    ("authority_classification", .str c.authorityClassification),
    ("reason_category", .str c.reasonCategory),
    ("normalized_correction", .obj c.normalizedCorrection),
    ("corrected_at", .str c.correctedAt.isoformat)]

/-! ### Interventions -/

structure InterventionRequest where
  interventionId : String
  actionType : String
  reasonCategory : String
  actorId : String
  authorityBasis : String
  expectedTargetVersion : Nat
  target : InterventionTarget
  fact : List (String × Json)
  requestedAt : Datetime

structure InterventionTransition where
  transitionId : String
  interventionId : String
  ordinal : Nat
  fromState : Option InterventionState
  toState : InterventionState
  actorId : String
  authorityBasis : String
  reasonCategory : String
  transitionedAt : Datetime
  deriving DecidableEq

structure InterventionReview where
  reviewId : String
  interventionId : String
  actorId : String
  authorityBasis : String
  reviewedAt : Datetime
  deriving DecidableEq

structure InterventionDecision where
  decisionId : String
  interventionId : String
  reviewId : String
  decision : InterventionVerdict
  actorId : String
  authorityBasis : String
  reasonCategory : String
  decidedAt : Datetime
  deriving DecidableEq

/-! ### Evidence and outcomes of a command -/

/-- An item of `evidence_records`. -/
structure OperationEvidence where
  evidenceRecordId : String
  platformExecutionIdentity : String
  workflowIdentity : String
  taskIdentity : String
  attemptOrdinal : Int
  eventOrdinal : Int
  eventType : String
  occurredAt : Datetime
  recordedAt : Datetime
  payloadDigest : String
  canonicalBytes : String
  record : Json

/-- An item of `outcome_records`. -/
structure OperationOutcome where
  outcomeId : String
  terminalTargetId : String
  terminalState : String
  digest : String
  record : Json

/-- An item of `outcome_records` of an `AtomicControlCommand`. -/
structure CommandOutcome where
  outcomeId : String
  workflowRunId : String
  digest : String
  record : Json

/-! ### Commands -/

section Commands

variable [Unicodedata]

structure WorkflowControlOperation where
  scope : ScopeIdentity
  commandType : AtomicCommandType
  actorId : String
  idempotencyKey : String
  payload : List (String × Json)
  controlCommandId : String
  requestedAt : Datetime
  retainUntil : Datetime
  target : InterventionTarget
  targetExpectedVersion : Nat
  interventionId : Option String := none
  transitionId : Option String := none
  review : Option InterventionReview := none
  decision : Option InterventionDecision := none
  planId : Option String := none
  planVersion : Option Nat := none
  planDigest : Option String := none
  approval : Option ApprovalDecision := none
  successorId : Option String := none
  placementId : Option String := none
  runtimeCommandId : Option String := none
  affectedAttemptId : Option String := none
  evidenceIds : List String := []
  outcomeIds : List String := []
  request : Option InterventionRequest := none
  successorPlan : Option PlanRecord := none
  correction : Option PlanCorrection := none
  evidenceRecords : List OperationEvidence := []
  outcomeRecords : List OperationOutcome := []
  terminalState : Option String := none

namespace WorkflowControlOperation

/-- The mapping whose digest is `payload_digest`. -/
def digestFields (op : WorkflowControlOperation) : List (String × Json) :=
  [("payload", .obj op.payload), ("target", op.target.asdict),
    ("target_expected_version", .int op.targetExpectedVersion),
    ("plan", .arr [.optStr op.planId, optNat op.planVersion, .optStr op.planDigest]),
    ("successor_id", .optStr op.successorId),
    ("successor_plan", jsonOption PlanRecord.asdict op.successorPlan),
    ("correction", jsonOption PlanCorrection.asdict op.correction),
    ("placement_id", .optStr op.placementId), ("runtime_command_id", .optStr op.runtimeCommandId),
    ("affected_attempt_id", .optStr op.affectedAttemptId),
    ("evidence", .arr (op.evidenceRecords.map fun item => .str item.payloadDigest)),
    ("outcomes", .arr (op.outcomeRecords.map fun item => .str item.digest)),
    ("terminal_state", .optStr op.terminalState)]

def payloadDigest (op : WorkflowControlOperation) : String := canonicalDigest (.obj op.digestFields)

end WorkflowControlOperation

/-- `WorkflowControlOperationResult.record()`. -/
structure OperationRecord where
  commandType : AtomicCommandType
  controlCommandId : String
  targetId : String
  targetVersion : Nat
  interventionId : Option String
  transitionId : Option String
  approvalDecisionId : Option String
  successorAttemptId : Option String
  successorWorkflowRunId : Option String
  runtimeCommandId : Option String
  successorPlanId : Option String
  successorPlanVersion : Option Nat
  evidenceIds : List String
  outcomeIds : List String
  deriving DecidableEq

structure WorkflowControlOperationResult where
  replayed : Bool
  record : OperationRecord
  deriving DecidableEq

/-- `successor_workflow_run` of an `AtomicControlCommand`. -/
structure SuccessorRun where
  workflowRunId : String
  assignmentId : String
  approvedPlanRevisionId : String
  predecessorWorkflowRunId : Option String
  correctionOfWorkflowRunId : Option String
  record : Json
  controlState : String
  planId : String
  planVersion : Nat
  approvedPlanDigest : String

/-- An `AtomicControlCommand`; its digest is the caller's. -/
structure AtomicControlCommand where
  scope : ScopeIdentity
  commandType : String
  idempotencyKey : String
  payloadDigest : String
  request : InterventionRequest
  transition : InterventionTransition
  controlCommandId : String
  targetState : String
  commandRecord : List (String × Json)
  retainUntil : Datetime
  evidenceIds : List String := []
  outcomeIds : List String := []
  evidenceRecords : List OperationEvidence := []
  outcomeRecords : List CommandOutcome := []
  successorPlan : Option PlanRecord := none
  successorWorkflowRun : Option SuccessorRun := none

structure AtomicControlResult where
  replayed : Bool
  interventionId : String
  transitionId : String
  controlCommandId : String
  targetVersion : Nat
  deriving DecidableEq

end Commands

end Control

end AgentPlatform
