/-
AgentPlatform/Control/Store.lean

The `execution_authority` tables Workflow Control reads and writes (migrations
0008 to 0011), grouped by what they record: the plans, the intervention ledger,
the controlled executions, the journal of commands, and the facts. The tables
of native dispatch stand beside them, so that both writers act on one store.

A row that refers to another keeps the full key of that row. Inserts check the
constraints of their table and are partial: `none` is the database error.
`updated_at`, `claimed_at` and their like are written and never read, and are
left out, as is `retain_until`: nothing deletes a claim.
-/
import AgentPlatform.Control.Domain
import AgentPlatform.Evidence.Table

namespace AgentPlatform

open Py

namespace Control

/-! ### Column checks -/

/-- `octet_length(t) BETWEEN 1 AND maximum`. -/
def octets (maximum : Nat) (t : String) : Bool :=
  decide (1 ≤ t.utf8ByteSize) && decide (t.utf8ByteSize ≤ maximum)

/-- `length(t)=64`. -/
def isDigestText (t : String) : Bool := decide (t.length = 64)

/-- A `bigint` with `CHECK (n > 0)`. -/
def positiveBigint (n : Nat) : Bool := decide (0 < n) && decide (n < maxBigint)

/-! ### Control states -/

/-- `workflow_runs.control_state`. -/
inductive RunControlState
  | legacyUnbound | pending | running | pauseRequested | pausePending | paused | resumeRequested
  | cancellationPending | succeeded | failed | cancelled | recoveryRequired
  deriving DecidableEq

/-- `task_runs.control_state`. -/
inductive TaskControlState
  | legacyImported | pending | ready | running | blocked | cancellationPending | succeeded
  | failed | skipped | cancelled
  deriving DecidableEq

/-- A `control_state` column: its vocabulary, its row of `_TARGET_TRANSITIONS`,
the states `_complete_terminal_target` allows for it, and whether a row may
leave a state: `workflow_runs_plan_binding_check` keeps an unbound run
`LEGACY_UNBOUND`. -/
class ControlColumn (σ : Type) where
  value : σ → String
  transitions : σ → List σ
  completions : List σ
  cancellationPending : σ
  leaves : σ → Bool

instance : ControlColumn RunControlState where
  value
    | .legacyUnbound => "LEGACY_UNBOUND"
    | .pending => "PENDING"
    | .running => "RUNNING"
    | .pauseRequested => "PAUSE_REQUESTED"
    | .pausePending => "PAUSE_PENDING"
    | .paused => "PAUSED"
    | .resumeRequested => "RESUME_REQUESTED"
    | .cancellationPending => "CANCELLATION_PENDING"
    | .succeeded => "SUCCEEDED"
    | .failed => "FAILED"
    | .cancelled => "CANCELLED"
    | .recoveryRequired => "RECOVERY_REQUIRED"
  transitions
    | .pending => [.running, .cancellationPending, .failed, .recoveryRequired]
    | .running => [.pauseRequested, .cancellationPending, .succeeded, .failed, .recoveryRequired]
    | .pauseRequested => [.pausePending, .failed, .recoveryRequired]
    | .pausePending => [.paused, .failed, .recoveryRequired]
    | .paused => [.resumeRequested, .cancellationPending]
    | .resumeRequested => [.running, .failed, .recoveryRequired]
    | .cancellationPending => [.cancelled, .failed, .recoveryRequired]
    | _ => []
  completions := [.succeeded, .failed, .cancelled]
  cancellationPending := .cancellationPending
  leaves x := x ≠ .legacyUnbound

instance : ControlColumn TaskControlState where
  value
    | .legacyImported => "LEGACY_IMPORTED"
    | .pending => "PENDING"
    | .ready => "READY"
    | .running => "RUNNING"
    | .blocked => "BLOCKED"
    | .cancellationPending => "CANCELLATION_PENDING"
    | .succeeded => "SUCCEEDED"
    | .failed => "FAILED"
    | .skipped => "SKIPPED"
    | .cancelled => "CANCELLED"
  transitions
    | .pending => [.ready, .blocked, .cancellationPending, .skipped]
    | .ready => [.running, .blocked, .cancellationPending, .skipped]
    | .running => [.blocked, .cancellationPending, .succeeded, .failed]
    | .blocked => [.ready, .cancellationPending, .skipped]
    | .cancellationPending => [.cancelled]
    | _ => []
  completions := [.succeeded, .failed, .skipped, .cancelled]
  cancellationPending := .cancellationPending
  leaves _ := true

instance : ControlColumn AttemptControlState where
  value
    | .pending => "PENDING"
    | .placed => "PLACED"
    | .running => "RUNNING"
    | .cancellationPending => "CANCELLATION_PENDING"
    | .succeeded => "SUCCEEDED"
    | .failed => "FAILED"
    | .cancelled => "CANCELLED"
    | .unknown => "UNKNOWN"
    | .recoveryRequired => "RECOVERY_REQUIRED"
  transitions
    | .pending => [.placed, .cancellationPending, .failed, .unknown, .recoveryRequired]
    | .placed => [.running, .cancellationPending, .failed, .unknown, .recoveryRequired]
    | .running => [.cancellationPending, .succeeded, .failed, .unknown, .recoveryRequired]
    | .cancellationPending => [.cancelled, .unknown, .recoveryRequired]
    | .unknown => [.recoveryRequired]
    | _ => []
  completions := [.succeeded, .failed, .cancelled]
  cancellationPending := .cancellationPending
  leaves _ := true

def terminalValues : List String :=
  ["SUCCEEDED", "FAILED", "SKIPPED", "CANCELLED", "RECOVERY_REQUIRED"]

/-- The control state is one of the terminal ones. -/
def isTerminal {σ : Type} [ControlColumn σ] (x : σ) : Bool :=
  terminalValues.contains (ControlColumn.value x)

/-- All run states, for reading the column from a text. -/
def RunControlState.states : List RunControlState :=
  [legacyUnbound, pending, running, pauseRequested, pausePending, paused, resumeRequested,
    cancellationPending, succeeded, failed, cancelled, recoveryRequired]

/-! ### Controlled executions -/

/-- A run, task run or attempt: the two columns every control command reads, and
the rest of the row. -/
structure TargetRow (σ Columns : Type) where
  controlState : σ
  aggregateVersion : Nat
  columns : Columns

structure RunColumns where
  assignmentId : String
  approvedPlanRevisionId : String
  predecessorWorkflowRunId : Option String
  correctionOfWorkflowRunId : Option String
  planId : Option String
  planVersion : Option Nat
  approvedPlanDigest : Option String
  record : Json

structure TaskColumns where
  workflowRunId : String
  workflowNodeId : Option String
  record : Json

section Tables

variable [Unicodedata]

/-- `ExecutionIdentityAggregate`. The identities its parts share stand once, so
that its parts agree by construction. -/
structure ExecutionIdentityAggregate where
  scope : ScopeIdentity
  assignmentId : AssignmentId
  digitalEmployeeInstanceId : OpaqueId
  workflowRunId : WorkflowRunId
  approvedPlanRevisionId : Reference
  predecessorWorkflowRunId : Option WorkflowRunId
  correctionOfWorkflowRunId : Option WorkflowRunId
  taskRunId : TaskRunId
  attemptId : AttemptId
  predecessorAttemptId : Option AttemptId
  /-- `ATTEMPT_CANNOT_RETRY_ITSELF`. -/
  retriesAnother : predecessorAttemptId ≠ some attemptId
  /-- `WORKFLOW_RUN_CANNOT_SUCCEED_ITSELF`. -/
  succeedsAnother : predecessorWorkflowRunId ≠ some workflowRunId ∧
    correctionOfWorkflowRunId ≠ some workflowRunId
  /-- `CORRECTION_REQUIRES_PREDECESSOR_RUN`. -/
  correctsPredecessor : correctionOfWorkflowRunId ≠ none →
    predecessorWorkflowRunId = correctionOfWorkflowRunId
  deriving DecidableEq

/-- `record` holds an identity, or the payload of the command that retried an
attempt without execution binding (`none`). -/
structure AttemptColumns where
  taskRunId : String
  predecessorAttemptId : Option String
  aggregateDigest : String
  attemptOrdinal : Option Nat
  record : Option ExecutionIdentityAggregate

end Tables

/-- A row of `digital_employee_definition.execution_bindings`. -/
structure ExecutionBinding where
  digitalEmployeeInstanceId : String
  definitionId : String
  revisionId : String
  digest : String
  planDigest : String
  approvalId : String
  authorizationDecisionId : String
  deriving DecidableEq

abbrev RunRow := TargetRow RunControlState RunColumns
abbrev TaskRow := TargetRow TaskControlState TaskColumns

abbrev AttemptTargetRow [Unicodedata] := TargetRow AttemptControlState AttemptColumns

structure Targets [Unicodedata] where
  runs : Table RowKey RunRow
  tasks : Table RowKey TaskRow
  attempts : Table RowKey AttemptTargetRow
  bindings : Table RowKey ExecutionBinding

/-! ### Plans -/

/-- Primary key of `plans`. -/
abbrev PlanKey := RowKey × Nat

structure ApprovalRow where
  key : RowKey
  plan : PlanKey
  planDigest : String
  ordinal : Nat
  decision : PlanVerdict

structure CorrectionRow where
  key : RowKey
  predecessor : PlanKey
  successor : PlanKey

structure PlanTables [Unicodedata] where
  plans : Table PlanKey PlanRecord
  approvals : List ApprovalRow
  corrections : List CorrectionRow

/-! ### Interventions -/

structure InterventionRow where
  target : InterventionTarget
  currentState : InterventionState
  aggregateVersion : Nat

structure TransitionRow where
  key : RowKey
  intervention : RowKey
  ordinal : Nat
  fromState : Option InterventionState
  toState : InterventionState
  deriving DecidableEq

structure ReviewRow where
  key : RowKey
  intervention : RowKey

structure DecisionRow where
  key : RowKey
  intervention : RowKey
  review : RowKey
  decision : InterventionVerdict

structure Ledger where
  interventions : Table RowKey InterventionRow
  transitions : List TransitionRow
  reviews : List ReviewRow
  decisions : List DecisionRow

/-! ### Journal -/

/-- Primary key of `idempotency_claims`. -/
structure ClaimKey where
  namespaceName : String
  securityDomain : String
  actorId : String
  commandType : String
  idempotencyKey : String
  deriving DecidableEq

inductive ClaimState
  | inProgress | completed
  deriving DecidableEq

/-- `result_identity`: the target version of a `persist`, the control command of
a `persist_operation`. -/
inductive ResultIdentity
  | version (n : Nat)
  | command (id : String)
  deriving DecidableEq

/-- `int(result_identity)`. -/
def ResultIdentity.version? : ResultIdentity → Option Nat
  | version n => some n
  | command id => id.toNat?

/-- A row of `idempotency_claims`; `result_record` is written by
`persist_operation` only. -/
structure ClaimRow where
  payloadDigest : String
  state : ClaimState
  interventionId : Option String
  controlCommandId : Option String
  resultIdentity : Option ResultIdentity
  resultRecord : Option OperationRecord

structure LinkRow where
  command : RowKey
  ordinal : Nat
  fact : RowKey

/-- A row of `governed_execution_claims`. -/
structure GovernedClaim where
  requestDigest : String
  workflowRunId : String
  taskRunId : String
  attemptId : String
  deriving DecidableEq

structure Journal where
  claims : Table ClaimKey ClaimRow
  /-- Keys of `control_commands`. -/
  commands : List RowKey
  evidenceLinks : List LinkRow
  outcomeLinks : List LinkRow
  /-- `governed_execution_claims` by namespace, domain, principal and key. -/
  governed : Table (RowKey × String) GovernedClaim

/-! ### The store -/

structure EmployeeRow where
  /-- `record["definition_authority"]` is `DIGITAL_EMPLOYEE_DEFINITION_V1`. -/
  defined : Bool
  /-- Definition, revision and digest in `record`. -/
  recorded : String × String × String
  /-- Definition, revision and digest in `instance_bindings`. -/
  bound : String × String × String
  enabled : Bool

structure AssignmentRow where
  digitalEmployeeInstanceId : String
  active : Bool
  effectiveFrom : Datetime
  effectiveUntil : Option Datetime

/-- Rows other components own. -/
structure References where
  /-- `workflow_definition.definitions`. -/
  definitions : RowKey → Bool
  employees : RowKey → Option EmployeeRow
  assignments : RowKey → Option AssignmentRow
  placementDecisions : RowKey → Option PlacementDecisionRow
  placementRequests : RowKey → Option PlacementRequestRow
  /-- `runtime_instances.current_generation`. -/
  runtimeInstances : RowKey → Option Nat
  /-- `desired_commands.runtime_instance_id`. -/
  desiredCommands : RowKey → Option String

structure Authority [Unicodedata] where
  plans : PlanTables
  ledger : Ledger
  targets : Targets
  journal : Journal
  evidence : EvidenceTable
  outcomes : List OutcomeRow
  cutover : CutoverState × Writer
  dispatchCommands : Table RowKey CommandRow
  dispatchFacts : List Fact
  references : References

end Control

end AgentPlatform
