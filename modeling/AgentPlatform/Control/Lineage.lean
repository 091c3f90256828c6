/-
AgentPlatform/Control/Lineage.lean

Execution identities: `validate_lineage` and `append_lineage`
(`execution_lineage`), `save` of the execution repository, and what the `start`
command checks and derives.

`save` inserts the run, the task run and the attempt with `ON CONFLICT DO
NOTHING` and compares what is stored; a row whose insert was skipped because of
another row's unique key is then missing, which is the identity conflict.

What other components decide during the check is an argument (`LineageAnswers`):
the employee definition they read, whether its members are valid, the problem
binding of a `v2` plan, and the clock. A plan whose bytes are not UTF-8 counts
as unreadable content. `_transaction` turns database errors into
`EXECUTION_CONFLICT`.
-/
import AgentPlatform.Control.Repository

namespace AgentPlatform

open Py

namespace Control

section Lineage

variable [Unicodedata]

/-! ### Arguments -/

/-- What `PostgresEmployeeDefinitionRepository`, the business problem repository
and the clock answer. -/
structure LineageAnswers where
  /-- Digest of the definition revision, and whether it is published. -/
  definition : Except Failure (String × Bool)
  members : Except Failure Unit
  problem : Except Failure Unit
  now : Datetime

structure ApprovedPlanIdentity where
  revisionId : String
  digest : String
  approvalId : String
  planId : Option String
  planVersion : Option Nat
  planDigest : Option String

/-- The parts of a `CanonicalWorkflowRevision` that starting reads, and its
`asdict` mapping. -/
structure WorkflowRevision where
  canonicalWorkflowRevisionId : String
  predecessorRevisionId : Option String
  tenantId : String
  securityDomain : String
  approvedCandidateDigest : String
  approvalId : String
  orderedTaskIds : List String
  matchingEligible : Bool
  /-- `lifecycle is CANONICALIZED`. -/
  canonicalized : Bool
  asdict : Json

def executionPlanBytes (plan : WorkflowRevision) (assignmentId instanceId : String)
    (additional : Option (Json × Json)) : List UInt8 :=
  let version :=
    match additional with
    | none => "employee-execution-plan.v1"
    | some _ => "employee-execution-plan.v2"
  let extra :=
    match additional with
    | none => []
    | some (problem, preparation) => [("businessProblemId", problem), ("preparation", preparation)]
  utf8 (Json.dumps false (.obj (extra ++ [("schemaVersion", .str version),
    ("workflow", plan.asdict), ("assignmentId", .str assignmentId),
    ("instanceId", .str instanceId)])))

/-! ### Plan content -/

/-- `json.loads(raw)`. -/
def planContent (raw : List UInt8) : Option Json := do
  let text ← decodeUtf8 raw
  Json.loads text

omit [Unicodedata] in
theorem planContent_dumps {v : Json} (h : v.distinctKeys = true) :
    planContent (utf8 (Json.dumps false v)) = some v.sortKeys := by
  rw [planContent, decodeUtf8_utf8]
  exact Json.loads_dumps h

/-- The content is about the assignment, the employee, the workflow revision and
the scope of the aggregate. -/
def contentMatches (a : ExecutionIdentityAggregate) (content : Json) : Bool :=
  let text (key : String) (v : Json) (t : String) : Bool :=
    match v.get? key with
    | some (.str u) => u = t
    | _ => false
  (text "schemaVersion" content "employee-execution-plan.v1" ||
      text "schemaVersion" content "employee-execution-plan.v2") &&
    text "assignmentId" content a.assignmentId.value &&
    text "instanceId" content a.digitalEmployeeInstanceId.value &&
    match content.get? "workflow" with
    | none => false
    | some workflow =>
      text "canonical_workflow_revision_id" workflow a.approvedPlanRevisionId.value &&
        text "tenant_id" workflow a.scope.namespaceName.value &&
        text "security_domain" workflow a.scope.securityDomain.value

/-- `content["schemaVersion"] == "employee-execution-plan.v2"`. -/
def isProblemPlan (content : Json) : Bool :=
  match content.get? "schemaVersion" with
  | some (.str t) => t = "employee-execution-plan.v2"
  | _ => false

/-- `content["workflow"]["ordered_task_ids"]` holds the node. -/
def hasTask (content : Json) (node : String) : Bool :=
  match (content.get? "workflow").bind (Json.get? "ordered_task_ids") with
  | some (.arr items) => items.any fun
    | .str t => t = node
    | _ => false
  | _ => false

/-! ### The lineage check -/

/-- What `validate_lineage` returns: the employee's definition, the plan with
its task, the approval and the ordinal. -/
structure Lineage where
  definitionId : String
  revisionId : String
  definitionDigest : String
  planId : String
  planVersion : Nat
  planDigest : String
  taskId : Option String
  approvalId : String
  ordinal : Nat

/-- The employee is defined, published, enabled and has valid members. -/
def checkEmployee (x : LineageAnswers) (refs : References) (a : ExecutionIdentityAggregate) :
    Except Failure EmployeeRow :=
  match refs.employees (a.scope.key a.digitalEmployeeInstanceId.value) with
  | none => .error (conflict "EXACT_EMPLOYEE_LINEAGE_REQUIRED")
  | some employee =>
    if !employee.defined ∨ employee.recorded ≠ employee.bound then
      .error (conflict "EMPLOYEE_LINEAGE_CORRUPT")
    else do
      let (digest, published) ← x.definition
      if digest ≠ employee.bound.2.2 ∨ !published ∨ !employee.enabled then
        .error (conflict "EMPLOYEE_NOT_EXECUTABLE")
      else do
        x.members
        .ok employee

/-- The assignment is the employee's and active now. -/
def checkAssignment (x : LineageAnswers) (refs : References) (a : ExecutionIdentityAggregate) :
    Except Failure Unit :=
  match refs.assignments (a.scope.key a.assignmentId.value) with
  | none => .error (conflict "ASSIGNMENT_NOT_FOUND")
  | some row =>
    if row.digitalEmployeeInstanceId ≠ a.digitalEmployeeInstanceId.value then
      .error (conflict "ASSIGNMENT_NOT_FOUND")
    else if !row.active ∨ ¬ row.effectiveFrom ≤ x.now ∨ row.effectiveUntil.any (· ≤ x.now) then
      .error (conflict "ASSIGNMENT_NOT_ACTIVE")
    else .ok ()

/-- The predecessor is a failed attempt of the same task run, bound to the same
employee and definition, without another successor. Returns the ordinal, the
approval and the plan digest. -/
def checkPredecessor (t : Targets) (a : ExecutionIdentityAggregate) (employee : EmployeeRow)
    (predecessor : String) : Except Failure (Nat × String × String) :=
  let k := a.scope.key predecessor
  match t.attempts.lookup k, t.bindings.lookup k with
  | some previous, some binding =>
    if previous.columns.taskRunId ≠ a.taskRunId.value ∨ previous.controlState ≠ .failed then
      .error (conflict "RETRY_REQUIRES_FAILED_ATTEMPT")
    else if (binding.digitalEmployeeInstanceId, binding.definitionId, binding.revisionId,
        binding.digest) ≠ (a.digitalEmployeeInstanceId.value, employee.bound) then
      .error (conflict "RETRY_LINEAGE_MISMATCH")
    else if t.attempts.anyRow fun k' row => row.columns.predecessorAttemptId = some predecessor ∧
        k' = a.scope.key k'.id ∧ k'.id ≠ a.attemptId.value then
      .error (conflict "ATTEMPT_SUCCESSOR_CONFLICT")
    else
      match previous.columns.attemptOrdinal with
      | none => .error .typeError
      | some n => .ok (n + 1, binding.approvalId, binding.planDigest)
  | _, _ => .error (conflict "RETRY_REQUIRES_FAILED_ATTEMPT")

/-- The plan an approval decision is about, with the decision. -/
def PlanTables.approved (scope : ScopeIdentity) (approvalId : String) (t : PlanTables) :
    Option (ApprovalRow × PlanRecord) := do
  let d ← t.approvals.find? fun d => d.key = scope.key approvalId
  let p ← t.plans.lookup d.plan
  if d.planDigest = p.planDigest then some (d, p) else none

/-- The approved plan with exactly the wanted digest. -/
def checkPlan (t : PlanTables) (scope : ScopeIdentity) (approvalId : String)
    (wanted : Option String) : Except Failure PlanRecord :=
  match t.approved scope approvalId with
  | none => .error (conflict "EXACT_PLAN_APPROVAL_REQUIRED")
  | some (d, p) =>
    if p.status ≠ .approved ∨ d.decision ≠ .approve ∨ some p.planDigest ≠ wanted then
      .error (conflict "EXACT_PLAN_APPROVAL_REQUIRED")
    else .ok p

/-- The content of the plan, and the problem and preparation of a `v2` plan. -/
def checkContent (x : LineageAnswers) (a : ExecutionIdentityAggregate) (p : PlanRecord) :
    Except Failure (Json × Option (Json × Json)) :=
  if sha256Bytes p.canonicalBytes ≠ p.planDigest then .error (conflict "PLAN_CONTENT_CORRUPT")
  else
    match planContent p.canonicalBytes with
    | none => .error (conflict "PLAN_RELATIONSHIP_MISMATCH")
    | some content =>
      if !contentMatches a content then .error (conflict "PLAN_RELATIONSHIP_MISMATCH")
      else if isProblemPlan content then do
        x.problem
        match content.get? "businessProblemId", content.get? "preparation" with
        | some problem, some preparation => .ok (content, some (problem, preparation))
        | _, _ => .error .typeError
      else .ok (content, none)

/-- A start is for a task of the workflow the plan's bytes spell out. -/
def checkStart (a : ExecutionIdentityAggregate) (p : PlanRecord) (additional : Option (Json × Json))
    (workflow : Option WorkflowRevision) (taskId : Option String) : Except Failure Unit :=
  match workflow, taskId with
  | some w, some task =>
    if task ∉ w.orderedTaskIds ∨ p.canonicalBytes ≠
        executionPlanBytes w a.assignmentId.value a.digitalEmployeeInstanceId.value additional then
      .error (conflict "PLAN_CONTENT_MISMATCH")
    else .ok ()
  | _, _ => .error (conflict "PLAN_CONTENT_MISMATCH")

/-- A retry keeps the plan of its run and the task of its task run. -/
def checkRetry (t : Targets) (a : ExecutionIdentityAggregate) (p : PlanRecord) (content : Json) :
    Except Failure (Option String) :=
  match t.runs.lookup (a.scope.key a.workflowRunId.value) with
  | none => .error (conflict "RETRY_PLAN_MISMATCH")
  | some run =>
    let c := run.columns
    if c.assignmentId ≠ a.assignmentId.value ∨ c.planId ≠ some p.planId ∨
        c.planVersion ≠ some p.planVersion ∨ c.approvedPlanDigest ≠ some p.planDigest ∨
        c.approvedPlanRevisionId ≠ a.approvedPlanRevisionId.value then
      .error (conflict "RETRY_PLAN_MISMATCH")
    else
      match t.tasks.lookup (a.scope.key a.taskRunId.value) with
      | none => .error (conflict "RETRY_TASK_MISMATCH")
      | some task =>
        if task.columns.workflowRunId ≠ a.workflowRunId.value ∨
            ¬ task.columns.workflowNodeId.any (hasTask content) then
          .error (conflict "RETRY_TASK_MISMATCH")
        else .ok task.columns.workflowNodeId

/-- `validate_lineage(conn, aggregate, approved_plan, authorization_decision_id,
workflow, task_id)`. -/
def validateLineage (x : LineageAnswers) (refs : References) (plans : PlanTables) (t : Targets)
    (a : ExecutionIdentityAggregate) (approvedPlan : Option ApprovedPlanIdentity)
    (authorizationDecisionId : String) (workflow : Option WorkflowRevision)
    (taskId : Option String) : Except Failure Lineage :=
  if authorizationDecisionId = "" then .error (conflict "EXECUTION_NOT_FOUND")
  else do
    let employee ← checkEmployee x refs a
    checkAssignment x refs a
    match a.predecessorAttemptId with
    | some predecessor => do
      let (ordinal, approvalId, wanted) ← checkPredecessor t a employee predecessor.value
      let p ← checkPlan plans a.scope approvalId (some wanted)
      let (content, _) ← checkContent x a p
      let task ← checkRetry t a p content
      .ok ⟨employee.bound.1, employee.bound.2.1, employee.bound.2.2, p.planId, p.planVersion,
        p.planDigest, task, approvalId, ordinal⟩
    | none =>
      match approvedPlan with
      | none => .error (conflict "EXACT_PLAN_APPROVAL_REQUIRED")
      | some approved => do
        let p ← checkPlan plans a.scope approved.approvalId approved.planDigest
        if (approved.planId, approved.planVersion) ≠ (some p.planId, some p.planVersion) then
          .error (conflict "PLAN_IDENTITY_MISMATCH")
        else do
          let (_, additional) ← checkContent x a p
          checkStart a p additional workflow taskId
          .ok ⟨employee.bound.1, employee.bound.2.1, employee.bound.2.2, p.planId, p.planVersion,
            p.planDigest, taskId, approved.approvalId, 1⟩

/-- The binding `append_lineage` writes. -/
def Lineage.binding (x : Lineage) (a : ExecutionIdentityAggregate)
    (authorizationDecisionId : String) : ExecutionBinding where
  digitalEmployeeInstanceId := a.digitalEmployeeInstanceId.value
  definitionId := x.definitionId
  revisionId := x.revisionId
  digest := x.definitionDigest
  planDigest := x.planDigest
  approvalId := x.approvalId
  authorizationDecisionId := authorizationDecisionId

def ExecutionBinding.texts (b : ExecutionBinding) : List String :=
  [b.digitalEmployeeInstanceId, b.definitionId, b.revisionId, b.digest, b.planDigest, b.approvalId,
    b.authorizationDecisionId]

/-- `append_lineage(conn, aggregate, employee, plan, approval_id,
authorization_decision_id)`. -/
def appendLineage (a : ExecutionIdentityAggregate) (b : ExecutionBinding) (t : Targets) :
    Except Failure Targets :=
  let k := a.scope.key a.attemptId.value
  match t.bindings.lookup k with
  | some stored => if stored ≠ b then .error (conflict "EXECUTION_LINEAGE_CONFLICT") else .ok t
  | none =>
    -- the binding refers to its attempt
    if !nulFree (k.texts ++ b.texts) ∨ (t.attempts.lookup k).isNone then .error storageConflict
    else .ok { t with bindings := t.bindings.insert k b }

/-! ### save -/

/-- `_canonical_value` of the run, the task run and the aggregate. -/
def ExecutionIdentityAggregate.runJson (a : ExecutionIdentityAggregate) : Json :=
  .obj [("workflow_run_id", .str a.workflowRunId.value), ("assignment_id", .str a.assignmentId.value),
    ("approved_plan_revision_id", .str a.approvedPlanRevisionId.value),
    ("predecessor_workflow_run_id", .optStr (a.predecessorWorkflowRunId.map (·.value))),
    ("correction_of_workflow_run_id", .optStr (a.correctionOfWorkflowRunId.map (·.value)))]

def ExecutionIdentityAggregate.taskJson (a : ExecutionIdentityAggregate) : Json :=
  .obj [("task_run_id", .str a.taskRunId.value), ("workflow_run_id", .str a.workflowRunId.value)]

def ExecutionIdentityAggregate.payload (a : ExecutionIdentityAggregate) : Json :=
  .obj [("scope", a.scope.json),
    ("assignment", .obj [("assignment_id", .str a.assignmentId.value),
      ("digital_employee_instance_id", .str a.digitalEmployeeInstanceId.value)]),
    ("workflow_run", a.runJson), ("task_run", a.taskJson),
    ("attempt", .obj [("attempt_id", .str a.attemptId.value), ("task_run_id", .str a.taskRunId.value),
      ("predecessor_attempt_id", .optStr (a.predecessorAttemptId.map (·.value)))])]

def ExecutionIdentityAggregate.digest (a : ExecutionIdentityAggregate) : String :=
  AgentPlatform.canonicalDigest a.payload

def ExecutionIdentityAggregate.texts (a : ExecutionIdentityAggregate) : List String :=
  [a.scope.namespaceName.value, a.scope.securityDomain.value, a.assignmentId.value,
    a.workflowRunId.value, a.approvedPlanRevisionId.value, a.taskRunId.value, a.attemptId.value]

/-- The rows `save` inserts. -/
def ExecutionIdentityAggregate.run (a : ExecutionIdentityAggregate) (x : Lineage) : RunColumns where
  assignmentId := a.assignmentId.value
  approvedPlanRevisionId := a.approvedPlanRevisionId.value
  predecessorWorkflowRunId := a.predecessorWorkflowRunId.map (·.value)
  correctionOfWorkflowRunId := a.correctionOfWorkflowRunId.map (·.value)
  planId := some x.planId
  planVersion := some x.planVersion
  approvedPlanDigest := some x.planDigest
  record := a.runJson

def ExecutionIdentityAggregate.task (a : ExecutionIdentityAggregate) (x : Lineage) :
    TaskColumns where
  workflowRunId := a.workflowRunId.value
  workflowNodeId := x.taskId
  record := a.taskJson

def ExecutionIdentityAggregate.attempt (a : ExecutionIdentityAggregate) (ordinal : Nat) :
    AttemptColumns where
  taskRunId := a.taskRunId.value
  predecessorAttemptId := a.predecessorAttemptId.map (·.value)
  aggregateDigest := a.digest
  attemptOrdinal := some ordinal
  record := some a

/-- `stored == expected` on `jsonb` values. -/
def sameJson (v w : Json) : Bool := Json.dumps false v = Json.dumps false w

def RunColumns.same (c d : RunColumns) : Bool :=
  c.assignmentId = d.assignmentId && c.approvedPlanRevisionId = d.approvedPlanRevisionId &&
    c.predecessorWorkflowRunId = d.predecessorWorkflowRunId &&
    c.correctionOfWorkflowRunId = d.correctionOfWorkflowRunId && c.planId = d.planId &&
    c.planVersion = d.planVersion && c.approvedPlanDigest = d.approvedPlanDigest &&
    sameJson c.record d.record

def TaskColumns.same (c d : TaskColumns) : Bool :=
  c.workflowRunId = d.workflowRunId && c.workflowNodeId = d.workflowNodeId &&
    sameJson c.record d.record

def AttemptColumns.same (c d : AttemptColumns) : Bool :=
  c.taskRunId = d.taskRunId && c.predecessorAttemptId = d.predecessorAttemptId &&
    c.aggregateDigest = d.aggregateDigest && c.attemptOrdinal = d.attemptOrdinal &&
    c.record = d.record

/-- `INSERT ... ON CONFLICT DO NOTHING`, then compare what is stored. `taken`
says that another row has a unique key of the new one, `valid` that the foreign
keys and texts of the new row are good. -/
def insertOrCompare {σ Columns : Type} (same : Columns → Columns → Bool) (taken valid : Bool)
    (k : RowKey) (row : TargetRow σ Columns) (rows : Table RowKey (TargetRow σ Columns)) :
    Except Failure (Table RowKey (TargetRow σ Columns)) :=
  match rows.lookup k with
  | some stored =>
    if same stored.columns row.columns then .ok rows
    else .error (conflict "EXECUTION_IDENTITY_CONFLICT")
  | none =>
    if taken then .error (conflict "EXECUTION_IDENTITY_CONFLICT")
    else if !valid then .error storageConflict
    else .ok (rows.insert k row)

/-- Another run has the same predecessor. -/
def Targets.runTaken (scope : ScopeIdentity) (predecessor : Option String) (t : Targets) : Bool :=
  predecessor.any fun p => t.runs.anyRow fun k r =>
    r.columns.predecessorWorkflowRunId = some p ∧ k = scope.key k.id

/-- Another attempt has the same ordinal in the task run, or the same
predecessor. -/
def Targets.attemptTaken (scope : ScopeIdentity) (taskRunId : String) (ordinal : Nat)
    (predecessor : Option String) (t : Targets) : Bool :=
  t.attempts.anyRow fun k r => k = scope.key k.id ∧
    ((r.columns.taskRunId = taskRunId ∧ r.columns.attemptOrdinal = some ordinal) ∨
      (predecessor ≠ none ∧ r.columns.predecessorAttemptId = predecessor))

/-- The three inserts of `save`. -/
def Targets.insertIdentities (refs : References) (a : ExecutionIdentityAggregate) (x : Lineage)
    (t : Targets) : Except Failure Targets := do
  let run := a.run x
  let runs ← insertOrCompare RunColumns.same (t.runTaken a.scope run.predecessorWorkflowRunId)
    (nulFree (x.planId :: x.planDigest :: a.texts) &&
      (refs.assignments (a.scope.key a.assignmentId.value)).isSome &&
      run.predecessorWorkflowRunId.all (fun p => (t.runs.lookup (a.scope.key p)).isSome) &&
      run.correctionOfWorkflowRunId.all (fun p => (t.runs.lookup (a.scope.key p)).isSome))
    (a.scope.key a.workflowRunId.value) ⟨.pending, 1, run⟩ t.runs
  let tasks ← insertOrCompare TaskColumns.same false
    (nulFree (a.texts ++ x.taskId.toList))
    (a.scope.key a.taskRunId.value) ⟨.ready, 1, a.task x⟩ t.tasks
  let attempt := a.attempt x.ordinal
  let attempts ← insertOrCompare AttemptColumns.same
    (t.attemptTaken a.scope a.taskRunId.value x.ordinal attempt.predecessorAttemptId)
    (nulFree a.texts) (a.scope.key a.attemptId.value) ⟨.pending, 1, attempt⟩ t.attempts
  .ok { t with runs, tasks, attempts }

structure ExecutionRequestClaim where
  principalId : String
  idempotencyKey : String
  requestDigest : String

def ExecutionRequestClaim.row (c : ExecutionRequestClaim) (a : ExecutionIdentityAggregate) :
    GovernedClaim where
  requestDigest := c.requestDigest
  workflowRunId := a.workflowRunId.value
  taskRunId := a.taskRunId.value
  attemptId := a.attemptId.value

/-- The claim of the request is this one, or none of its identities exists. -/
def checkRequestClaim (a : ExecutionIdentityAggregate) (t : Targets) (j : Journal)
    (c : ExecutionRequestClaim) : Except Failure Unit :=
  let k := (a.scope.key c.principalId, c.idempotencyKey)
  if !nulFree (c.idempotencyKey :: k.1.texts) then .error storageConflict
  else
    match j.governed.lookup k with
    | some claimed =>
      if claimed ≠ c.row a then .error (conflict "GOVERNED_EXECUTION_PAYLOAD_MISMATCH") else .ok ()
    | none =>
      if (t.runs.lookup (a.scope.key a.workflowRunId.value)).isSome ∨
          (t.tasks.lookup (a.scope.key a.taskRunId.value)).isSome ∨
          (t.attempts.lookup (a.scope.key a.attemptId.value)).isSome then
        .error (conflict "GOVERNED_EXECUTION_CLAIM_REQUIRED")
      else .ok ()

/-- The arguments of `save` beside the aggregate. -/
structure SaveArguments where
  approvedPlan : Option ApprovedPlanIdentity := none
  plan : Option WorkflowRevision := none
  taskId : Option String := none
  authorizationDecisionId : String
  requestClaim : Option ExecutionRequestClaim := none

def save (x : LineageAnswers) (scope : ScopeIdentity) (a : ExecutionIdentityAggregate)
    (args : SaveArguments) : Body Authority Failure ExecutionIdentityAggregate := fun s =>
  if args.authorizationDecisionId = "" then .error (conflict "EXECUTION_NOT_FOUND")
  else if scope ≠ a.scope then .error (conflict "EXECUTION_IDENTITY_SCOPE_MISMATCH")
  else do
    let lineage ← validateLineage x s.references s.plans s.targets a args.approvedPlan
      args.authorizationDecisionId args.plan args.taskId
    args.requestClaim.elim (.ok ()) (checkRequestClaim a s.targets s.journal)
    let targets ← s.targets.insertIdentities s.references a lineage
    let targets ← appendLineage a (lineage.binding a args.authorizationDecisionId) targets
    let journal :=
      match args.requestClaim with
      | none => s.journal
      | some c =>
        let k := (a.scope.key c.principalId, c.idempotencyKey)
        match s.journal.governed.lookup k with
        | some _ => s.journal
        | none => { s.journal with governed := s.journal.governed.insert k (c.row a) }
    .ok (a, { s with targets, journal })

/-! ### start -/

def stableId (kind : String) (parts : List String) : Except Failure String :=
  if parts = [] ∨ "" ∈ parts then .error (applicationError "INVALID_REPLAY_IDENTITY")
  else .ok (kind ++ ":" ++ sha256 ("\x00".intercalate parts))

structure StartExecutionCommand where
  scope : ScopeIdentity
  plan : WorkflowRevision
  approvedPlan : ApprovedPlanIdentity
  assignmentId : AssignmentId
  digitalEmployeeInstanceId : OpaqueId
  taskId : String
  replayIdentity : String
  predecessorWorkflowRunId : Option WorkflowRunId
  correctionOfWorkflowRunId : Option WorkflowRunId
  requestClaim : Option ExecutionRequestClaim

def assertExactApproval (c : StartExecutionCommand) : Except Failure Unit :=
  let p := c.plan
  let approved := c.approvedPlan
  if !p.canonicalized ∨ !p.matchingEligible then .error (applicationError "PLAN_NOT_APPROVED")
  else if c.scope.namespaceName.value ≠ p.tenantId then
    .error (applicationError "TENANT_SCOPE_MISMATCH")
  else if c.scope.securityDomain.value ≠ p.securityDomain then
    .error (applicationError "SECURITY_DOMAIN_SCOPE_MISMATCH")
  else if approved.revisionId ≠ p.canonicalWorkflowRevisionId then
    .error (applicationError "PLAN_REVISION_MISMATCH")
  else if approved.digest ≠ p.approvedCandidateDigest then
    .error (applicationError "PLAN_DIGEST_MISMATCH")
  else if approved.approvalId ≠ p.approvalId then
    .error (applicationError "PLAN_APPROVAL_MISMATCH")
  else if c.taskId ∉ p.orderedTaskIds then .error (applicationError "PLAN_TASK_MISMATCH")
  else if c.correctionOfWorkflowRunId ≠ none ∧
      (c.predecessorWorkflowRunId ≠ c.correctionOfWorkflowRunId ∨ p.predecessorRevisionId = none) then
    .error (applicationError "CORRECTION_BINDING_MISMATCH")
  else .ok ()

/-- The aggregate of a start, its ids derived from the command. -/
def StartExecutionCommand.aggregate (c : StartExecutionCommand) :
    Except Failure ExecutionIdentityAggregate := do
  let runText ← stableId "workflow-run" [c.scope.namespaceName.value,
    c.scope.securityDomain.value, c.approvedPlan.revisionId, c.approvedPlan.digest,
    c.approvedPlan.approvalId, c.assignmentId.value, c.taskId, c.replayIdentity]
  let workflowRunId ← opaqueId runText
  let revision ← reference "INVALID_PLAN_REVISION" c.approvedPlan.revisionId
  let taskText ← stableId "task-run" [workflowRunId.value, c.taskId]
  let taskRunId ← opaqueId taskText
  let attemptText ← stableId "attempt" [taskRunId.value, "1"]
  let attemptId ← opaqueId attemptText
  if h : c.predecessorWorkflowRunId ≠ some workflowRunId ∧
      c.correctionOfWorkflowRunId ≠ some workflowRunId then
    if h' : c.correctionOfWorkflowRunId ≠ none →
        c.predecessorWorkflowRunId = c.correctionOfWorkflowRunId then
      .ok {
        scope := c.scope
        assignmentId := c.assignmentId
        digitalEmployeeInstanceId := c.digitalEmployeeInstanceId
        workflowRunId := workflowRunId
        approvedPlanRevisionId := revision
        predecessorWorkflowRunId := c.predecessorWorkflowRunId
        correctionOfWorkflowRunId := c.correctionOfWorkflowRunId
        taskRunId := taskRunId
        attemptId := attemptId
        predecessorAttemptId := none
        retriesAnother := nofun
        succeedsAnother := h
        correctsPredecessor := h' }
    else .error (.executionContract "CORRECTION_REQUIRES_PREDECESSOR_RUN")
  else .error (.executionContract "WORKFLOW_RUN_CANNOT_SUCCEED_ITSELF")

/-- The aggregate with a new attempt that follows the present one. -/
def ExecutionIdentityAggregate.retried (a : ExecutionIdentityAggregate) (attemptId : AttemptId) :
    Except Failure ExecutionIdentityAggregate :=
  if h : attemptId = a.attemptId then .error (.executionContract "ATTEMPT_CANNOT_RETRY_ITSELF")
  else
    .ok { a with
      attemptId := attemptId
      predecessorAttemptId := some a.attemptId
      retriesAnother := fun e => h (Option.some.inj e).symm }

/-! ### Retry by a control command -/

/-- What `prepare_control_retry` returns for a bound attempt. -/
structure ControlRetry where
  successor : ExecutionIdentityAggregate
  lineage : Lineage

/-- `prepare_control_retry(conn, operation, target)`: `none` for an attempt
without execution binding. -/
def prepareControlRetry (x : LineageAnswers) (refs : References) (plans : PlanTables) (t : Targets)
    (scope : ScopeIdentity) (attemptId successorId controlCommandId : String)
    (target : AttemptTargetRow) : Except Failure (Option ControlRetry) :=
  match t.bindings.lookup (scope.key attemptId) with
  | none => .ok none
  | some _ =>
    match target.columns.record with
    | none => .error .typeError
    | some previous => do
      let id ← opaqueId successorId
      let successor ← ExecutionIdentityAggregate.retried { previous with scope := scope } id
      let lineage ← validateLineage x refs plans t successor none controlCommandId none none
      .ok (some ⟨successor, lineage⟩)

end Lineage

end Control

end AgentPlatform
