/-
AgentPlatform/Control/Sample.lean

A concrete store with one workflow run, and commands on it. Hypotheses of
theorems about runs are seen to be satisfiable on these values, and failing
inputs are built from them.
-/
import AgentPlatform.Control.Runs
import AgentPlatform.Dispatch.Sample

namespace AgentPlatform

open Py

namespace Control

namespace Sample

open AgentPlatform.Sample

/-- One employee with an assignment; every workflow definition exists. -/
def references : References where
  definitions _ := true
  employees k :=
    if k = scope.key "employee-1" then
      some ⟨true, ("definition-1", "revision-1", "d"), ("definition-1", "revision-1", "d"), true⟩
    else none
  assignments k :=
    if k = scope.key "assignment-1" then some ⟨"employee-1", true, instant 0, none⟩ else none
  placementDecisions _ := none
  placementRequests _ := none
  runtimeInstances _ := none
  desiredCommands _ := none

/-- Nothing is stored. -/
def emptyStore : Authority where
  plans := ⟨∅, [], []⟩
  ledger := ⟨∅, [], [], []⟩
  targets := ⟨∅, ∅, ∅, ∅⟩
  journal := ⟨∅, [], [], [], ∅⟩
  evidence := ⟨[], 0⟩
  outcomes := []
  cutover := (.postgresActive, .postgres)
  dispatchCommands := ∅
  dispatchFacts := []
  references := references

/-- A run of an approved plan. -/
def runRow (state : RunControlState) : RunRow where
  controlState := state
  aggregateVersion := 1
  columns :=
    { assignmentId := "assignment-1"
      approvedPlanRevisionId := "revision-1"
      predecessorWorkflowRunId := none
      correctionOfWorkflowRunId := none
      planId := some "plan-0"
      planVersion := some 1
      approvedPlanDigest := some (digest 'a').1
      record := .null }

/-- One run is stored. -/
def runStore : Authority :=
  { emptyStore with
    targets := ⟨AList.singleton (scope.key "run-1") (runRow .running), ∅, ∅, ∅⟩ }

def request (id : String) (reason : String) : InterventionRequest where
  interventionId := id
  actionType := "PAUSE"
  reasonCategory := reason
  actorId := "actor-1"
  authorityBasis := "owner"
  expectedTargetVersion := 1
  target := .workflowRun "run-1"
  fact := []
  requestedAt := instant 0

def evidenceRecord : Json := .obj [("category", .str "CONTROL")]

def evidence (id : String) : OperationEvidence where
  evidenceRecordId := id
  platformExecutionIdentity := "run-1"
  workflowIdentity := "run-1"
  taskIdentity := "run-1"
  attemptOrdinal := 1
  eventOrdinal := 1
  eventType := "CONTROL"
  occurredAt := instant 0
  recordedAt := instant 0
  payloadDigest := sha256 (Json.dumps true evidenceRecord)
  canonicalBytes := Json.dumps true evidenceRecord
  record := evidenceRecord

/-- A command on the run, without what its type needs. -/
def operation (kind : AtomicCommandType) (key : String) : WorkflowControlOperation where
  scope := scope
  commandType := kind
  actorId := "actor-1"
  idempotencyKey := key
  payload := []
  controlCommandId := "command-" ++ key
  requestedAt := instant 0
  retainUntil := instant 0
  target := .workflowRun "run-1"
  targetExpectedVersion := 1
  evidenceRecords := [evidence ("evidence-" ++ key)]

/-- What the lineage checks are answered. -/
def answers : LineageAnswers where
  definition := .ok ("d", true)
  members := .ok ()
  problem := .ok ()
  now := instant 1

/-! ### Plans -/

def planBytes : List UInt8 := [123, 125]

def successorBytes : List UInt8 := [91, 93]

/-- A first plan, waiting for approval. -/
def plan : PlanRecord where
  scope := scope
  planId := "plan-1"
  planVersion := 1
  workflowDefinitionId := "workflow-1"
  workflowDefinitionRevisionId := "revision-1"
  workflowDefinitionDigest := (digest 'a').1
  status := .pendingApproval
  aggregateVersion := 1
  planDigest := sha256Bytes planBytes
  canonicalBytes := planBytes
  createdAt := instant 0
  updatedAt := instant 0
  predecessorPlanId := none
  predecessorPlanVersion := none
  sourcePlanRevision := none
  sourcePlanDigest := none
  actorId := none
  authorityClassification := none
  correctionReasonCategory := none

/-- A plan that corrects the first one, with the digest it claims to have. -/
def successorPlan (digest : String) : PlanRecord :=
  { plan with
    planId := "plan-2"
    planDigest := digest
    canonicalBytes := successorBytes
    predecessorPlanId := some "plan-1"
    predecessorPlanVersion := some 1
    sourcePlanRevision := some 1
    sourcePlanDigest := some plan.planDigest
    actorId := some "actor-1"
    authorityClassification := some "BUSINESS_OWNER"
    correctionReasonCategory := some "BUSINESS_CORRECTION" }

/-- `CORRECT_PLAN` with that plan. -/
def correction (digest : String) : WorkflowControlOperation :=
  { operation .correctPlan "1" with
    interventionId := some "intervention-1"
    planId := some "plan-1"
    planVersion := some 1
    planDigest := some plan.planDigest
    payload := [("expected_plan_aggregate_version", .int 1)]
    successorPlan := some (successorPlan digest)
    correction := some
      { correctionId := "correction-1"
        predecessorPlanId := "plan-1"
        predecessorPlanVersion := 1
        successorPlanId := "plan-2"
        successorPlanVersion := 1
        actorId := "actor-1"
        authorityClassification := "BUSINESS_OWNER"
        reasonCategory := "BUSINESS_CORRECTION"
        normalizedCorrection := []
        correctedAt := instant 0 } }

/-! ### Execution identities -/

/-- A workflow of two tasks. -/
def workflow : WorkflowRevision where
  canonicalWorkflowRevisionId := "revision-1"
  predecessorRevisionId := none
  tenantId := "default"
  securityDomain := "prod"
  approvedCandidateDigest := (digest 'a').1
  approvalId := "approval-0"
  orderedTaskIds := ["a", "b"]
  matchingEligible := true
  canonicalized := true
  asdict := .obj [("canonical_workflow_revision_id", .str "revision-1"),
    ("ordered_task_ids", .arr [.str "a", .str "b"]), ("security_domain", .str "prod"),
    ("tenant_id", .str "default")]

/-- SHA-256 of the bytes of the plan of `workflow`. -/
def workflowPlanDigest : String :=
  "b25acebd2864950f96abb0e8b52e56742bb5842bf0f64a6daa1714b5bb9dc849"

/-- The approved plan that carries out `workflow`. -/
def workflowPlan : PlanRecord :=
  { plan with
    planId := "plan-0"
    status := .approved
    aggregateVersion := 2
    planDigest := workflowPlanDigest
    canonicalBytes := executionPlanBytes workflow "assignment-1" "employee-1" none }

/-- What the bytes of the plan spell out. -/
def workflowContent : Json :=
  .obj [("assignmentId", .str "assignment-1"), ("instanceId", .str "employee-1"),
    ("schemaVersion", .str "employee-execution-plan.v1"), ("workflow", workflow.asdict)]

theorem planContent_workflow : planContent workflowPlan.canonicalBytes = some workflowContent := by
  simp only [workflowPlan, executionPlanBytes, List.nil_append]
  rw [planContent_dumps (by decide +kernel)]
  rfl

theorem checkContent_workflow {a : ExecutionIdentityAggregate}
    (h : contentMatches a workflowContent = true) :
    checkContent answers a workflowPlan = .ok (workflowContent, none) := by
  have hd : sha256Bytes workflowPlan.canonicalBytes = workflowPlanDigest := by decide +kernel
  rw [checkContent, hd, planContent_workflow]
  simp only [h]
  rfl

/-- Only the approved plan is stored. -/
def plannedStore : Authority :=
  { emptyStore with
    plans := ⟨AList.singleton (scope.key "plan-0", 1) workflowPlan,
      [⟨scope.key "approval-0", (scope.key "plan-0", 1), workflowPlanDigest, 1, .approve⟩], []⟩ }

/-- The first attempt of a task in a run of its own. -/
def aggregate (run task attempt : OpaqueId) : ExecutionIdentityAggregate where
  scope := scope
  assignmentId := text "assignment-1"
  digitalEmployeeInstanceId := text "employee-1"
  workflowRunId := run
  approvedPlanRevisionId := text "revision-1"
  predecessorWorkflowRunId := none
  correctionOfWorkflowRunId := none
  taskRunId := task
  attemptId := attempt
  predecessorAttemptId := none
  retriesAnother := nofun
  succeedsAnother := ⟨nofun, nofun⟩
  correctsPredecessor := nofun

/-- What `validate_lineage` finds for a task of the workflow. -/
def lineage (node : String) (ordinal : Nat) : Lineage where
  definitionId := "definition-1"
  revisionId := "revision-1"
  definitionDigest := "d"
  planId := "plan-0"
  planVersion := 1
  planDigest := workflowPlanDigest
  taskId := some node
  approvalId := "approval-0"
  ordinal := ordinal

/-- The approval a start names. -/
def approvedWorkflow : ApprovedPlanIdentity :=
  ⟨"revision-1", workflowPlanDigest, "approval-0", some "plan-0", some 1, some workflowPlanDigest⟩

theorem contentMatches_workflow (run task attempt : OpaqueId) :
    contentMatches (aggregate run task attempt) workflowContent = true := rfl

theorem validateLineage_started (t : Targets) (run task attempt : OpaqueId) {node decision : String}
    (hn : node ∈ workflow.orderedTaskIds) (hd : decision ≠ "") :
    validateLineage answers references plannedStore.plans t (aggregate run task attempt)
      (some approvedWorkflow) decision (some workflow) (some node) = .ok (lineage node 1) := by
  have hplan : checkPlan plannedStore.plans scope "approval-0" (some workflowPlanDigest)
      = .ok workflowPlan := rfl
  have hstart : checkStart (aggregate run task attempt) workflowPlan none (some workflow)
      (some node) = .ok () := by
    simp only [checkStart, workflowPlan, aggregate, ne_eq, not_true_eq_false, or_false,
      not_not.mpr hn, if_false]
  refine (if_neg hd).trans (bind_eq_ok.mpr ⟨_, rfl, bind_eq_ok.mpr ⟨(), rfl, ?_⟩⟩)
  refine bind_eq_ok.mpr ⟨workflowPlan, hplan, (if_neg (not_not.mpr rfl)).trans ?_⟩
  exact bind_eq_ok.mpr ⟨_, checkContent_workflow (contentMatches_workflow run task attempt),
    bind_eq_ok.mpr ⟨(), hstart, rfl⟩⟩

def started (run task attempt : OpaqueId) (node decision : String) : Command :=
  .save answers scope (aggregate run task attempt)
    { approvedPlan := some approvedWorkflow
      plan := some workflow
      taskId := some node
      authorizationDecisionId := decision }

/-- The rows of a started task, once its lineage is known. -/
def settled (run task attempt : OpaqueId) (node decision : String) (t : Targets) :
    Except Failure Targets := do
  let t ← t.insertIdentities references (aggregate run task attempt) (lineage node 1)
  appendLineage (aggregate run task attempt)
    ((lineage node 1).binding (aggregate run task attempt) decision) t

theorem started_call {run task attempt : OpaqueId} {node decision : String} {s : Authority}
    {t : Targets} (hn : node ∈ workflow.orderedTaskIds) (hd : decision ≠ "")
    (hp : s.plans = plannedStore.plans) (hr : s.references = references)
    (h : settled run task attempt node decision s.targets = .ok t) :
    (started run task attempt node decision).call s = (.ok (), { s with targets := t }) := by
  obtain ⟨t₁, h₁, h₂⟩ := bind_eq_ok.mp h
  apply transaction_ok
  refine ignoring_eq_ok.mpr ⟨aggregate run task attempt, ?_⟩
  refine (if_neg hd).trans ((if_neg (not_not.mpr rfl)).trans ?_)
  rw [hp, hr]
  refine bind_eq_ok.mpr ⟨_, validateLineage_started _ run task attempt hn hd, ?_⟩
  exact bind_eq_ok.mpr ⟨(), rfl, bind_eq_ok.mpr ⟨t₁, h₁, bind_eq_ok.mpr ⟨t, h₂, rfl⟩⟩⟩

/-- The rows of a started task. -/
def addStarted (run task attempt : OpaqueId) (node decision : String) (t : Targets) : Targets where
  runs := t.runs.insert (scope.key run.value)
    ⟨.pending, 1, (aggregate run task attempt).run (lineage node 1)⟩
  tasks := t.tasks.insert (scope.key task.value)
    ⟨.ready, 1, (aggregate run task attempt).task (lineage node 1)⟩
  attempts := t.attempts.insert (scope.key attempt.value)
    ⟨.pending, 1, (aggregate run task attempt).attempt 1⟩
  bindings := t.bindings.insert (scope.key attempt.value)
    ((lineage node 1).binding (aggregate run task attempt) decision)

end Sample

end Control

end AgentPlatform
