/-
AgentPlatform/Control/Operation.lean

`persist_operation`: one Workflow Control command as one transaction.

A command claims its idempotency key, records what it brings of an intervention
(request, review, decision), checks the version of its target, carries out the
branch of its command type, and writes evidence, outcomes, the command row and
its links. Each branch is a function of the tables it touches; `carryOut` puts
them together, so that what a branch leaves alone is seen in its type.

The command rereads its own row at the end; it was just written, and the check
passes. The table `execution_bindings` exists, and the schema version is 11 or
later.
-/
import AgentPlatform.Control.Lineage

namespace AgentPlatform

open Py

namespace Control

section Operation

variable [Unicodedata]

/-! ### Helpers -/

/-- `value or default`. -/
def orDefault (value : Option String) (default : String) : String :=
  match value with
  | none => default
  | some t => if t = "" then default else t

/-- A failure of the lineage functions inside `persist_operation`: its handler
turns a database error into the control conflict. -/
def liftFailure (e : Failure) : ControlFailure :=
  if e = storageConflict ∨ e = .database then controlConflict else .execution e

/-- Run a lineage function. -/
def lifted {α : Type} (x : Except Failure α) : Except ControlFailure α := x.mapError liftFailure

omit [Unicodedata] in
@[simp] theorem lifted_eq_ok {α : Type} {x : Except Failure α} {a : α} :
    lifted x = .ok a ↔ x = .ok a := by
  cases x <;> simp [lifted, Except.mapError]

abbrev refuse {α : Type} (code : String) : Except ControlFailure α := .error (.conflict code)

/-! ### The intervention of a command -/

/-- What a command knows of its intervention: the state, `aggregate_version` as
it was read, `transition_ordinal` and `transition_id`. -/
structure Cursor where
  state : InterventionState
  version : Nat
  ordinal : Nat
  transitionId : Option String

namespace WorkflowControlOperation

/-- The request of a `REQUEST_INTERVENTION`. -/
def recordRequest (op : WorkflowControlOperation) (id : String) (t : Targets) (l : Ledger) :
    Except ControlFailure Ledger :=
  if op.commandType ≠ .requestIntervention then .ok l
  else
    match op.request with
    | none => refuse "EXACT_INTERVENTION_REQUEST_REQUIRED"
    | some request =>
      if request.interventionId ≠ id ∨ request.target ≠ op.target ∨
          request.expectedTargetVersion ≠ op.targetExpectedVersion then
        refuse "EXACT_INTERVENTION_REQUEST_REQUIRED"
      else do
        let l ← orRaise controlConflict (l.insertRequest op.scope request t)
        orRaise controlConflict (l.insertTransition op.scope
          (requestedTransition (orDefault op.transitionId (id ++ ":requested")) request))

/-- The stored intervention, which has the target of the command. -/
def openIntervention (op : WorkflowControlOperation) (id : String) (l : Ledger) :
    Except ControlFailure Cursor :=
  if !nulFree [id] then .error controlConflict
  else
    match l.interventions.lookup (op.scope.key id) with
    | none => refuse "INTERVENTION_REQUIRED"
    | some row =>
      if row.target ≠ op.target then refuse "INTERVENTION_TARGET_MISMATCH"
      else .ok ⟨row.currentState, row.aggregateVersion, row.aggregateVersion, op.transitionId⟩

def recordReview (op : WorkflowControlOperation) (id : String) (c : Cursor) (l : Ledger) :
    Except ControlFailure Ledger :=
  match op.review with
  | none => .ok l
  | some review =>
    if review.interventionId ≠ id ∨ c.state ≠ .requested then refuse "INTERVENTION_NOT_REVIEWABLE"
    else orRaise controlConflict (l.insertReview op.scope review)

def recordDecision (op : WorkflowControlOperation) (id : String) (c : Cursor) (l : Ledger) :
    Except ControlFailure (Cursor × Ledger) :=
  match op.decision with
  | none => .ok (c, l)
  | some d =>
    if op.review.any (·.reviewId ≠ d.reviewId) ∨ d.interventionId ≠ id ∨ c.state ≠ .requested then
      refuse "INTERVENTION_NOT_DECIDABLE"
    else if !nulFree [d.reviewId] then .error controlConflict
    else if !l.reviewed (op.scope.key id) (op.scope.key d.reviewId) then
      refuse "INTERVENTION_NOT_DECIDABLE"
    else do
      let l ← orRaise controlConflict (l.decide op.scope d c.version)
      .ok ({ c with
        state := d.decision.state
        ordinal := c.ordinal + 1
        transitionId := some d.decisionId }, l)

/-- Request, review and decision, in this order. -/
def recordIntervention (op : WorkflowControlOperation) (id : String) (t : Targets) (l : Ledger) :
    Except ControlFailure (Cursor × Ledger) := do
  let l ← op.recordRequest id t l
  let c ← op.openIntervention id l
  let l ← op.recordReview id c l
  op.recordDecision id c l

end WorkflowControlOperation

/-! ### Plan commands -/

/-- `INSERT INTO plan_corrections`. -/
def PlanTables.insertCorrection (scope : ScopeIdentity) (c : PlanCorrection) (t : PlanTables) :
    Option PlanTables :=
  let k := scope.key c.correctionId
  let predecessor := (scope.key c.predecessorPlanId, c.predecessorPlanVersion)
  let successor := (scope.key c.successorPlanId, c.successorPlanVersion)
  guarded
    (nulFree (k.texts ++ [c.actorId]) && (Json.obj c.normalizedCorrection).nulFree &&
      authorityClasses.contains c.authorityClassification &&
      correctionReasons.contains c.reasonCategory && (t.plans.lookup predecessor).isSome &&
      (t.plans.lookup successor).isSome &&
      !t.corrections.any
        (fun r => r.key = k ∨ r.predecessor = predecessor ∨ r.successor = successor))
    { t with corrections := t.corrections ++ [⟨k, predecessor, successor⟩] }

/-- `value == n` of a JSON value and an integer column; `True` equals 1. -/
def equalsColumn (n : Nat) : Option Json → Bool
  | some (.int m) => m = n
  | some (.bool b) => b.toNat = n
  | _ => false

/-- Statuses a plan cannot be corrected from. -/
def uncorrectable : List PlanStatus := [.superseded, .rejected, .cancelled, .invalidated]

namespace WorkflowControlOperation

def wantedVerdict (op : WorkflowControlOperation) : PlanVerdict :=
  if op.commandType = .approveAndContinue then .approve else .reject

def resumed (x : RunControlState) : Except ControlFailure RunControlState :=
  if x = .paused then .ok .resumeRequested else refuse "RUN_NOT_CONTINUABLE"

/-- The run of an approval; a rejection leaves it as it is. -/
def continueRun (op : WorkflowControlOperation) (runId : String) (t : Targets) :
    Except ControlFailure (Nat × Targets) :=
  match op.wantedVerdict with
  | .reject => .ok (op.targetExpectedVersion, t)
  | .approve => do
    let (version, runs) ← advanceRow resumed op.targetExpectedVersion (op.scope.key runId) t.runs
    .ok (version, { t with runs })

/-- `_persist_plan_operation(connection, operation, target_column, target)`: the
target version and the approval decision. -/
def persistPlanOperation (op : WorkflowControlOperation) (plans : PlanTables) (t : Targets) :
    Except ControlFailure (PlanTables × Targets × Nat × String) :=
  match op.target, op.approval, op.planId, op.planVersion, op.planDigest with
  | .workflowRun runId, some approval, some planId, some planVersion, some planDigest =>
    let k := (op.scope.key planId, planVersion)
    if !nulFree [planId] then .error controlConflict
    else
      match plans.plans.lookup k with
      | none => refuse "EXACT_PLAN_APPROVAL_REQUIRED"
      | some p =>
        if p.status ≠ .pendingApproval ∨ p.planDigest ≠ planDigest ∨
            approval.planDigest ≠ planDigest ∨ approval.planId ≠ planId ∨
            approval.planVersion ≠ planVersion then
          refuse "EXACT_PLAN_APPROVAL_REQUIRED"
        else if approval.decision ≠ op.wantedVerdict then refuse "APPROVAL_DECISION_MISMATCH"
        else do
          let plans ← orRaise controlConflict (plans.insertApproval op.scope approval)
          let (version, t) ← op.continueRun runId t
          .ok (plans.setStatus k op.wantedVerdict.status, t, version, approval.approvalDecisionId)
  | _, _, _, _, _ => refuse "EXACT_PLAN_APPROVAL_REQUIRED"

/-- The successor plan and the correction are about the named plan and each
other. -/
def exactSuccessor (op : WorkflowControlOperation) (c : PlanCorrection) (p : PlanRecord)
    (planId : String) (planVersion : Nat) (planDigest : String) : Bool :=
  decide (p.scope = op.scope) && decide (p.status = .pendingApproval) &&
    decide (p.predecessorPlanId = some planId) &&
    decide (p.predecessorPlanVersion = some planVersion) &&
    decide (p.sourcePlanRevision = some planVersion) &&
    decide (p.sourcePlanDigest = some planDigest) && decide (c.predecessorPlanId = planId) &&
    decide (c.predecessorPlanVersion = planVersion) && decide (c.successorPlanId = p.planId) &&
    decide (c.successorPlanVersion = p.planVersion) && decide (c.actorId = op.actorId) &&
    decide (some c.authorityClassification = p.authorityClassification) &&
    decide (some c.reasonCategory = p.correctionReasonCategory)

/-- `_persist_correction(connection, operation)`: the successor plan. -/
def persistCorrection (op : WorkflowControlOperation) (definitions : RowKey → Bool)
    (plans : PlanTables) : Except ControlFailure (PlanTables × PlanRecord) :=
  match op.correction, op.successorPlan, op.planId, op.planVersion, op.planDigest with
  | some c, some p, some planId, some planVersion, some planDigest =>
    let k := (op.scope.key planId, planVersion)
    let expected := (Json.obj op.payload).get? "expected_plan_aggregate_version"
    if !op.exactSuccessor c p planId planVersion planDigest then
      refuse "EXACT_SUCCESSOR_PLAN_REQUIRED"
    else if !nulFree [planId] then .error controlConflict
    else
      match plans.plans.lookup k with
      | none => refuse "SOURCE_PLAN_NOT_CORRECTABLE"
      | some q =>
        if q.planDigest ≠ planDigest ∨ !equalsColumn q.aggregateVersion expected ∨
            q.status ∈ uncorrectable ∨ p.workflowDefinitionId ≠ q.workflowDefinitionId then
          refuse "SOURCE_PLAN_NOT_CORRECTABLE"
        else do
          -- no statement compares the digest of the successor with its bytes
          let plans ← orRaise controlConflict (plans.insertPlan definitions p)
          let plans ← orRaise controlConflict (plans.insertCorrection op.scope c)
          match expected with
          | some (.int _) => .ok (plans.setStatus k .superseded, p)
          | _ => .error controlConflict
  | _, _, _, _, _ => refuse "EXACT_SUCCESSOR_PLAN_REQUIRED"

/-! ### Retry, successor run and runtime replacement -/

/-- The row of the attempt a command adds. -/
def successorAttempt (op : WorkflowControlOperation) (id : String) (previous : AttemptTargetRow)
    (ordinal : Nat) (retry : Option ControlRetry) : AttemptTargetRow where
  controlState := .pending
  aggregateVersion := 1
  columns :=
    { taskRunId := previous.columns.taskRunId
      predecessorAttemptId := some id
      aggregateDigest := retry.elim op.payloadDigest (·.successor.digest)
      attemptOrdinal := some ordinal
      record := retry.map (·.successor) }

/-- `INSERT INTO attempts` of a retry. -/
def insertAttempt (op : WorkflowControlOperation) (successorId : String) (row : AttemptTargetRow)
    (t : Targets) : Option Targets :=
  let k := op.scope.key successorId
  guarded
    (nulFree [successorId] && (row.columns.record.isSome || (Json.obj op.payload).nulFree) &&
      row.columns.attemptOrdinal.all positiveBigint && (t.attempts.lookup k).isNone &&
      (t.tasks.lookup (op.scope.key row.columns.taskRunId)).isSome &&
      !row.columns.attemptOrdinal.any (fun n =>
        t.attemptTaken op.scope row.columns.taskRunId n row.columns.predecessorAttemptId))
    { t with attempts := t.attempts.insert k row }

/-- `RETRY_ATTEMPT`: the successor attempt. -/
def retryAttempt (op : WorkflowControlOperation) (x : LineageAnswers) (refs : References)
    (plans : PlanTables) (t : Targets) : Except ControlFailure (Targets × String) :=
  match op.target, op.successorId with
  | .attempt id, some successorId =>
    match t.attempts.lookup (op.scope.key id) with
    | none => .error stale
    | some previous =>
      if previous.controlState ≠ .failed then refuse "ATTEMPT_NOT_RETRYABLE"
      else
        match previous.columns.attemptOrdinal with
        | none | some 0 => refuse "ATTEMPT_ORDINAL_REQUIRED"
        | some (n + 1) => do
          let retry ← lifted (prepareControlRetry x refs plans t op.scope id successorId
            op.controlCommandId previous)
          if retry.any (·.lineage.ordinal ≠ n + 2) then refuse "ATTEMPT_ORDINAL_MISMATCH"
          else do
            let t ← orRaise controlConflict
              (op.insertAttempt successorId (op.successorAttempt id previous (n + 2) retry) t)
            match retry with
            | none => .ok (t, successorId)
            | some r => do
              let t ← lifted
                (appendLineage r.successor (r.lineage.binding r.successor op.controlCommandId) t)
              .ok (t, successorId)
  | _, _ => refuse "ATTEMPT_NOT_RETRYABLE"

def createSuccessorRun (op : WorkflowControlOperation) (refs : References) (plans : PlanTables)
    (t : Targets) : Except ControlFailure (Targets × String) :=
  match op.target, op.successorId with
  | .workflowRun id, some successorId =>
    match t.runs.lookup (op.scope.key id) with
    | none => .error stale
    | some run =>
      if run.controlState ∉ [RunControlState.succeeded, .failed, .cancelled] then
        refuse "RUN_NOT_RERUNNABLE"
      else
        match run.columns.planId, run.columns.planVersion with
        | some planId, some planVersion =>
          match plans.plans.lookup (op.scope.key planId, planVersion) with
          | none => refuse "EXACT_APPROVED_PLAN_REQUIRED"
          | some p =>
            if p.status ≠ .approved ∨ some p.planDigest ≠ run.columns.approvedPlanDigest then
              refuse "EXACT_APPROVED_PLAN_REQUIRED"
            else do
              let t ← orRaise controlConflict (t.insertSuccessorRun op.scope plans refs
                { workflowRunId := successorId
                  assignmentId := run.columns.assignmentId
                  approvedPlanRevisionId := p.workflowDefinitionRevisionId
                  predecessorWorkflowRunId := some id
                  correctionOfWorkflowRunId := none
                  record := .obj op.payload
                  controlState := "PENDING"
                  planId := planId
                  planVersion := planVersion
                  approvedPlanDigest := p.planDigest })
              .ok (t, successorId)
        | _, _ => refuse "EXACT_APPROVED_PLAN_REQUIRED"
  | _, _ => refuse "RUN_NOT_RERUNNABLE"

/-- `_validate_runtime_replacement(connection, operation, scope, target_column,
target_id)`. -/
def validateRuntimeReplacement (op : WorkflowControlOperation) (refs : References) :
    Except ControlFailure String :=
  match op.target, op.placementId, op.runtimeCommandId with
  | .attempt id, some placementId, some runtimeCommandId =>
    if op.affectedAttemptId ≠ some id then refuse "RUNTIME_REPLACEMENT_LINKAGE_REQUIRED"
    else if !nulFree [placementId, runtimeCommandId] then .error controlConflict
    else
      match refs.placementDecisions (op.scope.key placementId),
        refs.desiredCommands (op.scope.key runtimeCommandId) with
      | some d, some runtime =>
        match refs.placementRequests (op.scope.key d.requestId) with
        | none => refuse "INELIGIBLE_PLACEMENT"
        | some q =>
          if d.decision ≠ .placed ∨ q.attemptId ≠ id ∨ d.runtimeInstanceId ≠ some runtime then
            refuse "INELIGIBLE_PLACEMENT"
          else .ok runtimeCommandId
      | _, _ => refuse "INELIGIBLE_PLACEMENT"
  | _, _, _ => refuse "RUNTIME_REPLACEMENT_LINKAGE_REQUIRED"

/-! ### Commands on the target -/

/-- `CANCEL_CONTROLLED_EXECUTION`. -/
def chooseCancelled : Choice := fun _ _ x =>
  if isTerminal x then refuse "TERMINAL_TARGET_IMMUTABLE"
  else if !ControlColumn.leaves x then .error controlConflict
  else .ok ControlColumn.cancellationPending

/-- `_complete_terminal_target(connection, operation, target_column, target_id,
target)`. -/
def chooseCompleted (op : WorkflowControlOperation) : Choice := fun σ _ x =>
  match (ControlColumn.completions (σ := σ)).find? fun y =>
      some (ControlColumn.value y) = op.terminalState with
  | none => refuse "ACTUAL_TERMINAL_RESULT_REQUIRED"
  | some y =>
    if isTerminal x ∨ op.outcomeRecords.length ≠ 1 ∨ op.evidenceRecords = [] then
      refuse "ACTUAL_TERMINAL_RESULT_REQUIRED"
    else if !ControlColumn.leaves x then .error controlConflict
    else .ok y

/-- The state `payload["target_state"]` names; an array or object is not
hashable. -/
def chooseApplied (op : WorkflowControlOperation) : Choice := fun σ _ x =>
  match (Json.obj op.payload).get? "target_state" with
  | some (.str wanted) => chooseListed wanted σ x
  | some (.arr _) | some (.obj _) => .error (.execution .typeError)
  | _ => refuse "INVALID_TARGET_STATE_TRANSITION"

/-- A transition of `APPLY_INTERVENTION_DECISION`. -/
def applicationTransition (op : WorkflowControlOperation) (transitionId id : String)
    (ordinal : Nat) (fromState toState : InterventionState) : InterventionTransition where
  transitionId := transitionId
  interventionId := id
  ordinal := ordinal
  fromState := some fromState
  toState := toState
  actorId := op.actorId
  authorityBasis := "authorized-decision"
  reasonCategory := "OPERATIONAL_RECOVERY"
  transitionedAt := op.requestedAt

/-- `APPLY_INTERVENTION_DECISION`: the target version and the applied
transition. -/
def applyDecision (op : WorkflowControlOperation) (id : String) (c : Cursor) (l : Ledger)
    (t : Targets) : Except ControlFailure (Ledger × Targets × Nat × String) :=
  let k := op.scope.key id
  if c.state ≠ .authorized ∨
      !l.decisions.any (fun d => d.intervention = k ∧ d.decision = .authorize) then
    refuse "APPROVED_DECISION_REQUIRED"
  else do
    let l ← orRaise controlConflict (l.insertTransition op.scope (op.applicationTransition
      (orDefault op.transitionId (op.controlCommandId ++ ":application-pending")) id
      (c.ordinal + 1) .authorized .applicationPending))
    let l := l.setState k .applicationPending (c.ordinal + 1)
    let (version, t) ← t.advance op.scope op.target op.chooseApplied op.targetExpectedVersion
    let appliedId := op.controlCommandId ++ ":applied"
    let l ← orRaise controlConflict (l.insertTransition op.scope (op.applicationTransition
      appliedId id (c.ordinal + 2) .applicationPending .applied))
    .ok (l.setState k .applied (c.ordinal + 2), t, version, appliedId)

/-- The last transition of a review command is the one the intervention is at. -/
def reviewedTransition (op : WorkflowControlOperation) (id : String) (c : Cursor) (l : Ledger) :
    Except ControlFailure String :=
  if op.review.isNone ∨ c.state ≠ .requested then refuse "INTERVENTION_NOT_REVIEWABLE"
  else
    match l.transitions.find? fun r =>
        r.intervention = op.scope.key id ∧ r.ordinal = c.version with
    | none => refuse "INTERVENTION_TRANSITION_REQUIRED"
    | some r => .ok r.key.id

/-! ### The command branches -/

/-- What the branch of a command leaves: its tables, and what the result and the
command row say about it. -/
structure Effect where
  plans : PlanTables
  ledger : Ledger
  targets : Targets
  targetVersion : Nat
  ordinal : Nat
  transitionId : Option String
  approvalDecisionId : Option String := none
  successorAttemptId : Option String := none
  successorRunId : Option String := none
  runtimeCommandId : Option String := none
  successorPlan : Option (String × Nat) := none

/-- The branch of the command type. -/
def carryOut (op : WorkflowControlOperation) (x : LineageAnswers) (refs : References) (id : String)
    (c : Cursor) (plans : PlanTables) (l : Ledger) (t : Targets) :
    Except ControlFailure Effect :=
  let unchanged : Effect :=
    { plans := plans
      ledger := l
      targets := t
      targetVersion := op.targetExpectedVersion
      ordinal := c.ordinal
      transitionId := c.transitionId }
  match op.commandType with
  | .approveAndContinue | .rejectPlan => do
    let (plans, targets, targetVersion, decision) ← op.persistPlanOperation plans t
    .ok { unchanged with plans, targets, targetVersion, approvalDecisionId := some decision }
  | .correctPlan => do
    let (plans, p) ← op.persistCorrection refs.definitions plans
    .ok { unchanged with plans, successorPlan := some (p.planId, p.planVersion) }
  | .requestIntervention =>
    if op.request.isNone ∨ c.state ≠ .requested then refuse "EXACT_INTERVENTION_REQUEST_REQUIRED"
    else
      .ok { unchanged with
        ordinal := 1
        transitionId := some (orDefault op.transitionId (id ++ ":requested")) }
  | .reviewIntervention => do
    let transitionId ← op.reviewedTransition id c l
    .ok { unchanged with ordinal := c.version, transitionId := some transitionId }
  | .retryAttempt => do
    let (targets, successor) ← op.retryAttempt x refs plans t
    .ok { unchanged with targets, successorAttemptId := some successor }
  | .createSuccessorRun => do
    let (targets, successor) ← op.createSuccessorRun refs plans t
    .ok { unchanged with targets, successorRunId := some successor }
  | .replaceRuntime => do
    let command ← op.validateRuntimeReplacement refs
    .ok { unchanged with runtimeCommandId := some command }
  | .cancelControlledExecution => do
    let (targetVersion, targets) ←
      t.advance op.scope op.target chooseCancelled op.targetExpectedVersion
    .ok { unchanged with targets, targetVersion }
  | .completeExecutionWithOutcome => do
    let (targetVersion, targets) ←
      t.advance op.scope op.target op.chooseCompleted op.targetExpectedVersion
    .ok { unchanged with targets, targetVersion }
  | .applyInterventionDecision => do
    let (ledger, targets, targetVersion, applied) ← op.applyDecision id c l t
    .ok { unchanged with
      ledger, targets, targetVersion, ordinal := c.ordinal + 2, transitionId := some applied }

end WorkflowControlOperation

/-- The transition with the greatest ordinal. -/
def Ledger.lastTransition (k : RowKey) (l : Ledger) : Option TransitionRow :=
  (l.transitions.filter fun r => r.intervention = k).foldl
    (fun best r =>
      match best with
      | none => some r
      | some b => if b.ordinal < r.ordinal then some r else some b) none

namespace WorkflowControlOperation

/-- The transition the command row cites: the one of the branch, or the last. -/
def cited (op : WorkflowControlOperation) (id : String) (e : Effect) :
    Except ControlFailure (String × Nat) :=
  match e.transitionId with
  | some t => .ok (t, e.ordinal)
  | none =>
    match e.ledger.lastTransition (op.scope.key id) with
    | none => refuse "INTERVENTION_TRANSITION_REQUIRED"
    | some r => .ok (r.key.id, r.ordinal)

end WorkflowControlOperation

/-! ### Evidence and outcomes -/

def prohibitedTerms : List String :=
  ["prompt", "credentials", "credential", "request_body", "logs", "log", "diagnostic_text",
    "secret", "token"]

/-- `str.lower` as far as it yields the letters of the prohibited terms. -/
def lowerChar (c : Char) : Char := if c = 'K' then 'k' else c.toLower

/-- `any(term in str(key).lower() for term in prohibited)`. -/
def prohibitedKey (key : String) : Bool :=
  prohibitedTerms.any fun term => Evidence.occurs term.toList (key.toList.map lowerChar)

mutual

/-- `safe(value)`. -/
def safe : Json → Bool
  | .obj fields => safeFields fields
  | .arr items => safeItems items
  | _ => true

def safeItems : List Json → Bool
  | [] => true
  | v :: vs => safe v && safeItems vs

def safeFields : List (String × Json) → Bool
  | [] => true
  | (k, v) :: fs => !prohibitedKey k && safe v && safeFields fs

end

/-- The row of an item of evidence. -/
def OperationEvidence.row (e : OperationEvidence) (scope : ScopeIdentity) : EvidenceRecordRow where
  storageSequence := 0
  evidenceRecordId := e.evidenceRecordId
  namespaceName := scope.namespaceName.value
  securityDomain := scope.securityDomain.value
  platformExecutionIdentity := e.platformExecutionIdentity
  workflowIdentity := e.workflowIdentity
  taskIdentity := e.taskIdentity
  attemptOrdinal := e.attemptOrdinal
  eventOrdinal := e.eventOrdinal
  eventType := e.eventType
  occurredAt := e.occurredAt
  recordedAt := e.recordedAt
  payloadDigest := e.payloadDigest
  canonicalBytes := e.canonicalBytes
  record := e.record
  importSetIdentity := none
  supersedesRecordId := none

/-- One turn of the evidence loop of `_create_operation_facts`. The cutover
state is not consulted. -/
def insertOperationEvidence (scope : ScopeIdentity) (t : EvidenceTable) (e : OperationEvidence) :
    Except ControlFailure EvidenceTable :=
  if !safe e.record ∨ e.canonicalBytes ≠ Json.dumps true e.record ∨
      e.payloadDigest ≠ sha256 (Json.dumps true e.record) then
    refuse "INVALID_MINIMUM_DISCLOSURE_EVIDENCE"
  else orRaise controlConflict (t.insert (e.row scope))

def Targets.runOf (scope : ScopeIdentity) (t : Targets) : InterventionTarget → Option String
  | .workflowRun id => some id
  | .taskRun id => (t.tasks.lookup (scope.key id)).map (·.columns.workflowRunId)
  | .attempt id => do
    let attempt ← t.attempts.lookup (scope.key id)
    let task ← t.tasks.lookup (scope.key attempt.columns.taskRunId)
    some task.columns.workflowRunId

namespace WorkflowControlOperation

/-- One turn of the outcome loop of `_create_operation_facts`. -/
def insertOutcome (op : WorkflowControlOperation) (t : Targets) (rows : List OutcomeRow)
    (o : OperationOutcome) : Except ControlFailure (List OutcomeRow) :=
  let k := op.scope.key o.outcomeId
  if !safe o.record ∨ o.digest ≠ canonicalDigest o.record then
    refuse "INVALID_MINIMUM_DISCLOSURE_OUTCOME"
  else if o.terminalTargetId ≠ op.target.id ∨ some o.terminalState ≠ op.terminalState then
    refuse "ACTUAL_TERMINAL_RESULT_REQUIRED"
  else
    match t.runOf op.scope op.target with
    | none => .error (.execution .typeError)
    | some runId =>
      if !nulFree [o.outcomeId] ∨ !o.record.nulFree ∨ rows.any (fun r => r.key = k) ∨
          (t.runs.lookup (op.scope.key runId)).isNone then
        .error controlConflict
      else .ok (rows ++ [⟨k, runId, o.digest, o.record⟩])

/-- `_create_operation_facts(connection, operation, target_column, target_id)`. -/
def createOperationFacts (op : WorkflowControlOperation) (t : Targets) (evidence : EvidenceTable)
    (outcomes : List OutcomeRow) : Except ControlFailure (EvidenceTable × List OutcomeRow) :=
  if op.outcomeRecords ≠ [] ∧ op.commandType ≠ .completeExecutionWithOutcome then
    refuse "OUTCOME_ONLY_FOR_TERMINAL_COMPLETION"
  else do
    let evidence ← op.evidenceRecords.foldlM (insertOperationEvidence op.scope) evidence
    let outcomes ← op.outcomeRecords.foldlM (op.insertOutcome t) outcomes
    .ok (evidence, outcomes)

/-! ### The journal -/

def claimKey (op : WorkflowControlOperation) : ClaimKey :=
  ⟨op.scope.namespaceName.value, op.scope.securityDomain.value, op.actorId, op.commandType.value,
    op.idempotencyKey⟩

/-- Ids of all evidence and outcomes a command links. -/
def linkedEvidence (op : WorkflowControlOperation) : List String :=
  op.evidenceIds ++ op.evidenceRecords.map (·.evidenceRecordId)

def linkedOutcomes (op : WorkflowControlOperation) : List String :=
  op.outcomeIds ++ op.outcomeRecords.map (·.outcomeId)

/-- `affected_attempt_id` of the command row. -/
def affectedAttempt (op : WorkflowControlOperation) : Option String :=
  match op.affectedAttemptId with
  | some id => if id = "" then op.target.attemptId else some id
  | none => op.target.attemptId

/-- The result the command returns and stores. -/
def result (op : WorkflowControlOperation) (id transitionId : String) (e : Effect) :
    OperationRecord where
  commandType := op.commandType
  controlCommandId := op.controlCommandId
  targetId := op.target.id
  targetVersion := e.targetVersion
  interventionId := some id
  transitionId := some transitionId
  approvalDecisionId := e.approvalDecisionId
  successorAttemptId := e.successorAttemptId
  successorWorkflowRunId := e.successorRunId
  runtimeCommandId := e.runtimeCommandId
  successorPlanId := e.successorPlan.map (·.1)
  successorPlanVersion := e.successorPlan.map (·.2)
  evidenceIds := op.linkedEvidence
  outcomeIds := op.linkedOutcomes

/-- The command row and its links satisfy the constraints of their tables. -/
def journalable (op : WorkflowControlOperation) (refs : References) (id : String) (ordinal : Nat)
    (e : Effect) (evidence : EvidenceTable) (outcomes : List OutcomeRow) (j : Journal) : Bool :=
  let k := op.scope.key op.controlCommandId
  nulFree ([op.controlCommandId] ++ op.placementId.toList ++ op.linkedEvidence ++
      op.linkedOutcomes) &&
    (Json.obj op.payload).nulFree && positiveBigint op.targetExpectedVersion &&
    !j.commands.contains k &&
    e.ledger.transitions.any (fun r => r.intervention = op.scope.key id ∧ r.ordinal = ordinal) &&
    op.affectedAttempt.all (fun a => (e.targets.attempts.lookup (op.scope.key a)).isSome) &&
    op.placementId.all (fun p => (refs.placementDecisions (op.scope.key p)).isSome) &&
    op.linkedEvidence.all (fun i => evidence.rows.any fun r =>
      (⟨r.namespaceName, r.securityDomain, r.evidenceRecordId⟩ : RowKey) = op.scope.key i) &&
    op.linkedOutcomes.all (fun i => outcomes.any fun r => r.key = op.scope.key i)

/-- The links of a command, numbered from 1. -/
def links (op : WorkflowControlOperation) (ids : List String) : List LinkRow :=
  ids.zipIdx.map fun p => ⟨op.scope.key op.controlCommandId, p.2 + 1, op.scope.key p.1⟩

/-- The journal after the command. -/
def journaled (op : WorkflowControlOperation) (id : String) (record : OperationRecord)
    (j : Journal) : Journal :=
  { j with
    claims := j.claims.insert op.claimKey
      { payloadDigest := op.payloadDigest
        state := .completed
        interventionId := some id
        controlCommandId := some op.controlCommandId
        resultIdentity := some (.command op.controlCommandId)
        resultRecord := some record }
    commands := op.scope.key op.controlCommandId :: j.commands
    evidenceLinks := j.evidenceLinks ++ op.links op.linkedEvidence
    outcomeLinks := j.outcomeLinks ++ op.links op.linkedOutcomes }

/-- What a repeated command returns. -/
def replay (op : WorkflowControlOperation) (row : ClaimRow) :
    Except ControlFailure WorkflowControlOperationResult :=
  if row.payloadDigest ≠ op.payloadDigest then refuse "IDEMPOTENCY_PAYLOAD_MISMATCH"
  else if row.state ≠ .completed then refuse "COMMAND_IN_PROGRESS"
  else
    match row.resultRecord with
    | none => refuse "AUTHORITATIVE_READBACK_MISMATCH"
    | some record => .ok ⟨true, record⟩

end WorkflowControlOperation

/-- The part of `persist_operation` after the claim. -/
def runOperation (x : LineageAnswers) (op : WorkflowControlOperation) :
    Body Authority ControlFailure WorkflowControlOperationResult := fun s => do
  let id ← orRaise (.conflict "INTERVENTION_REQUIRED") op.interventionId
  let (c, ledger) ← op.recordIntervention id s.targets s.ledger
  if s.targets.version op.scope op.target ≠ some op.targetExpectedVersion then .error stale
  else do
    let e ← op.carryOut x s.references id c s.plans ledger s.targets
    let (transitionId, ordinal) ← op.cited id e
    let (evidence, outcomes) ← op.createOperationFacts e.targets s.evidence s.outcomes
    if !op.journalable s.references id ordinal e evidence outcomes s.journal then
      .error controlConflict
    else
      let record := op.result id transitionId e
      .ok (⟨false, record⟩, { s with
        plans := e.plans
        ledger := e.ledger
        targets := e.targets
        journal := op.journaled id record s.journal
        evidence := evidence
        outcomes := outcomes })

def persistOperation (x : LineageAnswers) (op : WorkflowControlOperation) (authorized : Bool) :
    Body Authority ControlFailure WorkflowControlOperationResult := fun s =>
  if !authorized then .error (.notAuthorized "NOT_AUTHORIZED")
  else if op.evidenceRecords = [] then refuse "OPERATION_EVIDENCE_REQUIRED"
  else if !nulFree op.claimKey.texts then .error controlConflict
  else
    match s.journal.claims.lookup op.claimKey with
    | some row => (op.replay row).map fun result => (result, s)
    | none => runOperation x op s

end Operation

end Control

end AgentPlatform
