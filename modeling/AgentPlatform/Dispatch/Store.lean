/-
AgentPlatform/Dispatch/Store.lean

The part of the `execution_authority` schema that native dispatch reads and
writes (migrations 0008, 0009, 0011 and 0022).

The tables dispatch writes are `commands`, `facts` (append only), `attempts`,
`evidence` and `outcomes`; those it only reads are grouped in `Bindings`. A row is
addressed by namespace, security domain and id.

The columns of `native_dispatch_commands` repeat fields of its payload, which no
statement updates; a `CommandRow` keeps the decoded command once. `updated_at` is
never read, and is left out. PostgreSQL rejects a text that contains U+0000:
`nulFree` is checked where a statement takes text from its caller.
-/
import AgentPlatform.ExecutionContract
import AgentPlatform.Py.Table
import AgentPlatform.Py.Transaction

namespace AgentPlatform

open Py

/-- Primary key of a scoped table. -/
structure RowKey where
  namespaceName : String
  securityDomain : String
  id : String
  deriving DecidableEq

/-- No text contains U+0000. -/
def nulFree (texts : List String) : Bool :=
  texts.all fun t => !t.toList.contains '\x00'

def RowKey.texts (k : RowKey) : List String := [k.namespaceName, k.securityDomain, k.id]

section Rows

variable [Unicodedata]

def ScopeIdentity.key (scope : ScopeIdentity) (id : String) : RowKey :=
  ⟨scope.namespaceName.value, scope.securityDomain.value, id⟩

/-! ### The dispatch ledger -/

/-- A row of `native_dispatch_commands`. -/
structure CommandRow where
  commandDigest : String
  payload : NativeDispatchCommand
  state : NativeDispatchState
  claimGeneration : Nat
  fencingToken : Option String
  workerId : Option String
  leaseExpiresAt : Option Datetime
  kubernetesTaskName : Option String
  kubernetesTaskUid : Option String
  terminalObservationDigest : Option String
  terminalRecord : Option Json
  effectStartedAt : Option Datetime
  terminalAt : Option Datetime

/-- `native_dispatch_facts.kind`. -/
inductive FactKind
  | queued | claimed | effectStarted | correlated
  | terminal (kind : NativeTerminalKind)
  deriving DecidableEq

end Rows

structure Fact where
  key : RowKey
  ordinal : Nat
  kind : FactKind
  factDigest : String
  record : Json

/-! ### Attempts, evidence and outcomes -/

inductive AttemptControlState
  | pending | placed | running | cancellationPending | succeeded | failed | cancelled
  | unknown | recoveryRequired
  deriving DecidableEq

def NativeTerminalKind.controlState : NativeTerminalKind → AttemptControlState
  | succeeded => .succeeded
  | failed => .failed
  | unknown => .unknown
  | recoveryRequired => .recoveryRequired

section Rows

variable [Unicodedata]

/-- The identities of `ExecutionIdentityAggregate` that dispatch reads. -/
structure ExecutionIdentity where
  assignmentId : AssignmentId
  workflowRunId : WorkflowRunId
  approvedPlanRevisionId : Reference
  taskRunId : TaskRunId
  attemptId : AttemptId
  deriving DecidableEq

/-- A row of `attempts`; `record` is decoded by `identity_from_record`. -/
structure AttemptRow where
  taskRunId : String
  controlState : AttemptControlState
  aggregateVersion : Nat
  attemptOrdinal : Option Int
  record : ExecutionIdentity
  deriving DecidableEq

/-- A row of `execution_evidence`, keyed by `evidence_record_id` alone. -/
structure EvidenceRow where
  evidenceRecordId : String
  namespaceName : String
  securityDomain : String
  platformExecutionIdentity : String
  payloadDigest : String
  canonicalBytes : String

structure OutcomeRow where
  key : RowKey
  workflowRunId : String
  digest : String
  record : Json

/-! ### Tables dispatch only reads -/

structure PlacementDecisionRow where
  requestId : String
  decision : PlacementDecisionKind
  runtimeInstanceId : Option String
  digest : String
  deriving DecidableEq

structure PlacementRequestRow where
  attemptId : String
  agentInstanceId : String
  deriving DecidableEq

structure WorkflowRunRow where
  assignmentId : String
  approvedPlanRevisionId : String
  planId : Option String
  planVersion : Option Nat
  deriving DecidableEq

inductive PlanStatus
  | draft | pendingApproval | approved | rejected | cancelled | invalidated | superseded
  deriving DecidableEq

structure PlanRow where
  planDigest : String
  status : PlanStatus
  deriving DecidableEq

inductive CutoverState
  | sqliteActive | importing | postgresActive | recoveryRequired | rollbackRequired
  deriving DecidableEq

inductive Writer
  | sqlite | none | postgres
  deriving DecidableEq

/-- Rows other components own. -/
structure Bindings where
  placementDecisions : RowKey → Option PlacementDecisionRow
  placementRequests : RowKey → Option PlacementRequestRow
  /-- `runtime_instances.current_generation`. -/
  runtimeInstances : RowKey → Option Nat
  /-- `task_runs.workflow_run_id`. -/
  taskRuns : RowKey → Option String
  workflowRuns : RowKey → Option WorkflowRunRow
  plans : RowKey → Nat → Option PlanRow
  evidenceCutover : CutoverState × Writer

structure Store where
  commands : Table RowKey CommandRow
  facts : List Fact
  attempts : RowKey → Option AttemptRow
  evidence : List EvidenceRow
  outcomes : List OutcomeRow
  bindings : Bindings

/-- Nothing was ever dispatched. -/
structure Store.Fresh (s : Store) : Prop where
  commands : s.commands = ∅
  facts : s.facts = []
  evidence : s.evidence = []
  outcomes : s.outcomes = []

/-! ### Writing rows -/

def Store.setCommand (s : Store) (k : RowKey) (row : CommandRow) : Store :=
  { s with commands := s.commands.insert k row }

/-- `UPDATE attempts SET control_state=state, aggregate_version=aggregate_version+1`;
a missing attempt is not an error. -/
def Store.setAttemptState (s : Store) (k : RowKey) (state : AttemptControlState) : Store :=
  { s with
    attempts := Function.update s.attempts k <| (s.attempts k).map fun a =>
      { a with controlState := state, aggregateVersion := a.aggregateVersion + 1 } }

/-- The facts of one command, in the order they were appended. -/
def Store.factsOf (s : Store) (k : RowKey) : List Fact := s.facts.filter (·.key = k)

/-- `COALESCE(MAX(ordinal),0)+1`. -/
def nextOrdinal (facts : List Fact) : Nat := (facts.map (·.ordinal)).foldr max 0 + 1

/-- `UNIQUE(namespace,security_domain,command_id,kind,fact_digest)` would be violated. -/
def Store.factExists (s : Store) (k : RowKey) (kind : FactKind) (digest : String) : Bool :=
  s.facts.any fun f => f.key = k ∧ f.kind = kind ∧ f.factDigest = digest

/-- Digest of `json.dumps(record, sort_keys=True, separators=(",", ":"))`. -/
def factDigest (record : Json) : String := sha256 (Json.dumps true record)

def Store.addFact (s : Store) (k : RowKey) (kind : FactKind) (record : Json) : Store :=
  { s with facts := s.facts ++
      [⟨k, nextOrdinal (s.factsOf k), kind, factDigest record, record⟩] }

end Rows

end AgentPlatform
