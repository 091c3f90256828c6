/-
AgentPlatform/Control/Repository.lean

The transactions of `PostgresWorkflowControlRepository` on single aggregates:
`request_intervention`, `append_transition`, `append_review`, `append_decision`,
`append_approval`, the plan entry points, and the older atomic command
`persist`.

An insert is `none` where a constraint of its table is violated; `append_review`,
`append_decision` and `persist` turn that into `WORKFLOW_CONTROL_CONFLICT`, the
others let the database error out.

`persist` inserts its evidence and outcome links without `control_command_id`,
which migration 0011 made `NOT NULL`: a command with a fact never commits.
-/
import AgentPlatform.Control.Store

namespace AgentPlatform

open Py

namespace Control

section Repository

variable [Unicodedata]

/-! ### Target rows -/

abbrev stale : ControlFailure := .conflict "STALE_AGGREGATE_VERSION"

/-- A database error that reaches the caller as it is. -/
abbrev databaseError : ControlFailure := .execution .database

/-- Which control state a command wants, given the present one; the column is
that of its target. -/
abbrev Choice := ∀ σ : Type, [ControlColumn σ] → σ → Except ControlFailure σ

/-- Compare-and-swap of one row: the version must be the expected one. -/
def advanceRow {σ Columns : Type} (choose : σ → Except ControlFailure σ) (expected : Nat)
    (k : RowKey) (rows : Table RowKey (TargetRow σ Columns)) :
    Except ControlFailure (Nat × Table RowKey (TargetRow σ Columns)) :=
  match rows.lookup k with
  | none => .error stale
  | some row =>
    if row.aggregateVersion ≠ expected then .error stale
    else do
      let state ← choose row.controlState
      let row := { row with controlState := state, aggregateVersion := row.aggregateVersion + 1 }
      .ok (row.aggregateVersion, rows.insert k row)

/-- `advanceRow` on the table of the target. -/
def Targets.advance (scope : ScopeIdentity) (target : InterventionTarget) (choose : Choice)
    (expected : Nat) (t : Targets) : Except ControlFailure (Nat × Targets) :=
  match target with
  | .workflowRun id => do
    let (version, runs) ← advanceRow (choose _) expected (scope.key id) t.runs
    .ok (version, { t with runs })
  | .taskRun id => do
    let (version, tasks) ← advanceRow (choose _) expected (scope.key id) t.tasks
    .ok (version, { t with tasks })
  | .attempt id => do
    let (version, attempts) ← advanceRow (choose _) expected (scope.key id) t.attempts
    .ok (version, { t with attempts })

/-- `aggregate_version` of the target. -/
def Targets.version (scope : ScopeIdentity) (target : InterventionTarget) (t : Targets) :
    Option Nat :=
  match target with
  | .workflowRun id => (t.runs.lookup (scope.key id)).map (·.aggregateVersion)
  | .taskRun id => (t.tasks.lookup (scope.key id)).map (·.aggregateVersion)
  | .attempt id => (t.attempts.lookup (scope.key id)).map (·.aggregateVersion)

/-- The wanted state, where `_TARGET_TRANSITIONS` has an edge to it. -/
def chooseListed (wanted : String) : Choice := fun _ _ x =>
  orRaise (.conflict "INVALID_TARGET_STATE_TRANSITION")
    ((ControlColumn.transitions x).find? fun y => ControlColumn.value y = wanted)

/-! ### The intervention ledger -/

def actionTypes : List String :=
  ["PAUSE", "APPROVE_AND_CONTINUE", "PROVIDE_HUMAN_INPUT", "CORRECT_BUSINESS_INTENT", "RESUME",
    "RETRY_ATTEMPT", "RERUN_APPROVED_PLAN", "CANCEL", "STOP", "REQUEST_RUNTIME_REPLACEMENT"]

def interventionReasons : List String :=
  ["BUSINESS_REQUEST", "BUSINESS_CORRECTION", "HUMAN_APPROVAL", "HUMAN_INPUT",
    "OPERATIONAL_RECOVERY", "POLICY", "SAFETY", "RUNTIME_HEALTH"]

/-- `_insert_request(connection, scope, request)`. -/
def Ledger.insertRequest (scope : ScopeIdentity) (request : InterventionRequest) (t : Targets)
    (l : Ledger) : Option Ledger :=
  let k := scope.key request.interventionId
  guarded
    (nulFree (k.texts ++ [request.target.id, request.actorId, request.authorityBasis]) &&
      (Json.obj request.fact).nulFree && actionTypes.contains request.actionType &&
      interventionReasons.contains request.reasonCategory &&
      positiveBigint request.expectedTargetVersion && (l.interventions.lookup k).isNone &&
      (t.version scope request.target).isSome)
    { l with interventions := l.interventions.insert k ⟨request.target, .requested, 1⟩ }

/-- `_insert_transition(connection, scope, transition)`. -/
def Ledger.insertTransition (scope : ScopeIdentity) (transition : InterventionTransition)
    (l : Ledger) : Option Ledger :=
  let k := scope.key transition.transitionId
  let i := scope.key transition.interventionId
  guarded
    (nulFree (k.texts ++ [transition.interventionId, transition.actorId,
        transition.authorityBasis, transition.reasonCategory]) &&
      positiveBigint transition.ordinal &&
      (decide (1 < transition.ordinal) ||
        (decide (transition.fromState = none) && decide (transition.toState = .requested))) &&
      (l.interventions.lookup i).isSome &&
      !l.transitions.any (fun r => r.key = k ∨ (r.intervention = i ∧ r.ordinal = transition.ordinal)))
    { l with transitions := l.transitions ++
        [⟨k, i, transition.ordinal, transition.fromState, transition.toState⟩] }

/-- `UPDATE interventions SET current_state=state, aggregate_version=version`. -/
def Ledger.setState (k : RowKey) (state : InterventionState) (version : Nat) (l : Ledger) : Ledger :=
  match l.interventions.lookup k with
  | none => l
  | some row =>
    { l with interventions :=
        l.interventions.insert k { row with currentState := state, aggregateVersion := version } }

/-- `INSERT INTO intervention_reviews`. -/
def Ledger.insertReview (scope : ScopeIdentity) (review : InterventionReview) (l : Ledger) :
    Option Ledger :=
  let k := scope.key review.reviewId
  let i := scope.key review.interventionId
  guarded
    (nulFree (k.texts ++ [review.interventionId, review.actorId, review.authorityBasis]) &&
      octets 128 review.authorityBasis &&
      !l.reviews.any (fun r => r.key = k ∨ r.intervention = i) &&
      l.transitions.any (fun r => r.intervention = i ∧ r.ordinal = 1))
    { l with reviews := l.reviews ++ [⟨k, i⟩] }

/-- `INSERT INTO intervention_decisions`. -/
def Ledger.insertDecision (scope : ScopeIdentity) (decision : InterventionDecision) (l : Ledger) :
    Option Ledger :=
  let k := scope.key decision.decisionId
  let i := scope.key decision.interventionId
  let r := scope.key decision.reviewId
  guarded
    (nulFree (k.texts ++ [decision.interventionId, decision.reviewId, decision.actorId,
        decision.authorityBasis, decision.reasonCategory]) &&
      octets 128 decision.authorityBasis &&
      !l.decisions.any (fun d => d.key = k ∨ d.intervention = i) &&
      l.reviews.any (fun row => row.key = r) && (l.interventions.lookup i).isSome)
    { l with decisions := l.decisions ++ [⟨k, i, r, decision.decision⟩] }

def validateTransition (transition : InterventionTransition) : Except ControlFailure Unit :=
  if transition.toState ∈ transitions transition.fromState then .ok ()
  else .error (.conflict "INVALID_INTERVENTION_TRANSITION")

/-- The transition `request_intervention` and `persist_operation` append for a
request. -/
def requestedTransition (transitionId : String) (request : InterventionRequest) :
    InterventionTransition where
  transitionId := transitionId
  interventionId := request.interventionId
  ordinal := 1
  fromState := none
  toState := .requested
  actorId := request.actorId
  authorityBasis := request.authorityBasis
  reasonCategory := request.reasonCategory
  transitionedAt := request.requestedAt

def requestIntervention (scope : ScopeIdentity) (request : InterventionRequest) :
    Body Authority ControlFailure InterventionRequest := fun s => do
  let l ← orRaise databaseError (s.ledger.insertRequest scope request s.targets)
  let l ← orRaise databaseError
    (l.insertTransition scope (requestedTransition (request.interventionId ++ ":requested") request))
  .ok (request, { s with ledger := l })

/-- `append_transition(scope, transition, expected_version=expected)`. -/
def appendTransition (scope : ScopeIdentity) (transition : InterventionTransition)
    (expected : Nat) : Body Authority ControlFailure InterventionTransition := fun s => do
  validateTransition transition
  let k := scope.key transition.interventionId
  if !nulFree k.texts then .error databaseError
  else
    match s.ledger.interventions.lookup k with
    | none => .error stale
    | some row =>
      if row.aggregateVersion ≠ expected ∨ some row.currentState ≠ transition.fromState then
        .error stale
      else do
        let l ← orRaise databaseError
          ((s.ledger.setState k transition.toState (row.aggregateVersion + 1)).insertTransition
            scope transition)
        .ok (transition, { s with ledger := l })

def appendReview (scope : ScopeIdentity) (review : InterventionReview) :
    Body Authority ControlFailure InterventionReview := fun s =>
  let k := scope.key review.interventionId
  if !nulFree k.texts then .error controlConflict
  else if (s.ledger.interventions.lookup k).map (·.currentState) ≠ some .requested then
    .error (.conflict "INTERVENTION_NOT_REVIEWABLE")
  else do
    let l ← orRaise controlConflict (s.ledger.insertReview scope review)
    .ok (review, { s with ledger := l })

/-- The transition of a decision on an intervention at `version`. -/
def decisionTransition (decision : InterventionDecision) (version : Nat) :
    InterventionTransition where
  transitionId := decision.decisionId
  interventionId := decision.interventionId
  ordinal := version + 1
  fromState := some .requested
  toState := decision.decision.state
  actorId := decision.actorId
  authorityBasis := decision.authorityBasis
  reasonCategory := decision.reasonCategory
  transitionedAt := decision.decidedAt

/-- Insert a decision on an intervention at `version`, with its transition. -/
def Ledger.decide (scope : ScopeIdentity) (decision : InterventionDecision) (version : Nat)
    (l : Ledger) : Option Ledger := do
  let l ← l.insertDecision scope decision
  let l ← l.insertTransition scope (decisionTransition decision version)
  some (l.setState (scope.key decision.interventionId) decision.decision.state (version + 1))

def Ledger.reviewed (k review : RowKey) (l : Ledger) : Bool :=
  l.reviews.any fun r => r.key = review ∧ r.intervention = k

def appendDecision (scope : ScopeIdentity) (decision : InterventionDecision) :
    Body Authority ControlFailure InterventionDecision := fun s =>
  let k := scope.key decision.interventionId
  if !nulFree (decision.reviewId :: k.texts) then .error controlConflict
  else
    match s.ledger.interventions.lookup k with
    | none => .error (.conflict "INTERVENTION_NOT_DECIDABLE")
    | some row =>
      if !s.ledger.reviewed k (scope.key decision.reviewId) ∨ row.currentState ≠ .requested then
        .error (.conflict "INTERVENTION_NOT_DECIDABLE")
      else do
        let l ← orRaise controlConflict (s.ledger.decide scope decision row.aggregateVersion)
        .ok (decision, { s with ledger := l })

/-! ### Plans -/

def PlanRecord.key (p : PlanRecord) : PlanKey := (p.scope.key p.planId, p.planVersion)

/-- The plan a correction replaces. -/
def PlanRecord.predecessor (p : PlanRecord) : Option PlanKey := do
  let id ← p.predecessorPlanId
  let version ← p.predecessorPlanVersion
  some (p.scope.key id, version)

def authorityClasses : List String := ["BUSINESS_OWNER", "AUTHORIZED_OPERATOR", "POLICY_AUTHORITY"]

def correctionReasons : List String :=
  ["BUSINESS_CORRECTION", "DEPENDENCY_CORRECTION", "POLICY_CORRECTION", "SAFETY_CORRECTION"]

/-- `plans_successor_metadata_check`; a null classification makes its conjunct
null, which a `CHECK` lets pass. -/
def PlanRecord.successorMetadata (p : PlanRecord) : Bool :=
  p.predecessorPlanId.isNone ||
    (p.sourcePlanRevision.any (fun n => decide (0 < n)) && p.sourcePlanDigest.any isDigestText &&
      p.actorId.any (octets 128) && p.authorityClassification.all authorityClasses.contains &&
      p.correctionReasonCategory.all correctionReasons.contains)

def PlanRecord.texts (p : PlanRecord) : List String :=
  p.key.1.texts ++ [p.workflowDefinitionId, p.workflowDefinitionRevisionId,
    p.workflowDefinitionDigest, p.planDigest] ++
    p.predecessorPlanId.toList ++ p.sourcePlanDigest.toList ++ p.actorId.toList

/-- The constraints of `plans`. -/
def PlanTables.insertable (definitions : RowKey → Bool) (p : PlanRecord) (t : PlanTables) : Bool :=
  nulFree p.texts && octets 200 p.planId && positiveBigint p.planVersion &&
    isDigestText p.workflowDefinitionDigest && positiveBigint p.aggregateVersion &&
    isDigestText p.planDigest && (p.predecessorPlanId.isNone == p.predecessorPlanVersion.isNone) &&
    p.successorMetadata && definitions (p.scope.key p.workflowDefinitionId) &&
    (t.plans.lookup p.key).isNone &&
    p.predecessor.all (fun k => (t.plans.lookup k).isSome &&
      !t.plans.anyRow (fun _ q => q.predecessor = some k))

/-- `INSERT INTO plans`. -/
def PlanTables.insertPlan (definitions : RowKey → Bool) (p : PlanRecord) (t : PlanTables) :
    Option PlanTables :=
  guarded (t.insertable definitions p) { t with plans := t.plans.insert p.key p }

/-- The columns `create_plan` and `_insert_plan` fill. -/
def PlanRecord.withoutSource (p : PlanRecord) : PlanRecord :=
  { p with
    sourcePlanRevision := none
    sourcePlanDigest := none
    actorId := none
    authorityClassification := none
    correctionReasonCategory := none }

/-- `UPDATE plans SET status=status, aggregate_version=aggregate_version+1`. -/
def PlanTables.setStatus (k : PlanKey) (status : PlanStatus) (t : PlanTables) : PlanTables :=
  match t.plans.lookup k with
  | none => t
  | some p =>
    { t with plans :=
        t.plans.insert k { p with status := status, aggregateVersion := p.aggregateVersion + 1 } }

def approvalReasons : List String :=
  ["BUSINESS_APPROVAL", "BUSINESS_REJECTION", "POLICY_APPROVAL", "POLICY_REJECTION"]

/-- `INSERT INTO plan_approval_decisions`. -/
def PlanTables.insertApproval (scope : ScopeIdentity) (d : ApprovalDecision) (t : PlanTables) :
    Option PlanTables :=
  let k := scope.key d.approvalDecisionId
  let plan := (scope.key d.planId, d.planVersion)
  guarded
    (nulFree (k.texts ++ [d.planId, d.planDigest, d.actorId, d.authorityBasis, d.decisionDigest]) &&
      isDigestText d.planDigest && positiveBigint d.ordinal && octets 128 d.authorityBasis &&
      approvalReasons.contains d.reasonCategory && isDigestText d.decisionDigest &&
      (t.plans.lookup plan).isSome && !t.approvals.any (fun r => r.key = k ∨ r.plan = plan))
    { t with approvals := t.approvals ++ [⟨k, plan, d.planDigest, d.ordinal, d.decision⟩] }

def PlanTables.appendApproval (scope : ScopeIdentity) (d : ApprovalDecision) (t : PlanTables) :
    Except ControlFailure PlanTables :=
  let plan := (scope.key d.planId, d.planVersion)
  if !nulFree plan.1.texts then .error databaseError
  else
    match t.plans.lookup plan with
    | none => .error (.conflict "PLAN_NOT_APPROVABLE")
    | some p =>
      if p.planDigest ≠ d.planDigest ∨ p.status ≠ .pendingApproval then
        .error (.conflict "PLAN_NOT_APPROVABLE")
      else do
        let t ← orRaise databaseError (t.insertApproval scope d)
        .ok (t.setStatus plan d.decision.status)

/-- `approve_plan_entry(connection, scope, decision, expected_version, authorized)`. -/
def approvePlanEntry (scope : ScopeIdentity) (d : ApprovalDecision) (expected : Nat)
    (authorized : Bool) : Body Authority ControlFailure ApprovalDecision := fun s =>
  let plan := (scope.key d.planId, d.planVersion)
  if !authorized then .error (.notAuthorized "PLAN_NOT_FOUND")
  else if !nulFree plan.1.texts then .error databaseError
  else if (s.plans.plans.lookup plan).map (·.aggregateVersion) ≠ some expected then .error stale
  else do
    let plans ← s.plans.appendApproval scope d
    .ok (d, { s with plans })

/-- `prepare_plan_entry(connection, plan, authorized)`. -/
def preparePlanEntry (p : PlanRecord) (authorized : Bool) :
    Body Authority ControlFailure PlanRecord := fun s =>
  if !authorized then .error (.notAuthorized "PLAN_NOT_FOUND")
  else if p.status ≠ .pendingApproval ∨ p.aggregateVersion ≠ 1 ∨ p.planVersion ≠ 1 ∨
      sha256Bytes p.canonicalBytes ≠ p.planDigest then
    .error (.conflict "PLAN_CONTENT_INVALID")
  else do
    let plans ← orRaise databaseError
      (s.plans.insertPlan s.references.definitions p.withoutSource)
    .ok (p, { s with plans })

/-! ### persist -/

def AtomicControlCommand.claimKey (c : AtomicControlCommand) : ClaimKey :=
  ⟨c.scope.namespaceName.value, c.scope.securityDomain.value, c.request.actorId, c.commandType,
    c.idempotencyKey⟩

def ClaimKey.texts (k : ClaimKey) : List String :=
  [k.namespaceName, k.securityDomain, k.actorId, k.commandType, k.idempotencyKey]

/-- What a repeated `persist` returns. -/
def AtomicControlCommand.replay (c : AtomicControlCommand) (row : ClaimRow) :
    Except ControlFailure AtomicControlResult :=
  if row.payloadDigest ≠ c.payloadDigest then .error (.conflict "IDEMPOTENCY_PAYLOAD_MISMATCH")
  else if row.state = .inProgress then .error (.conflict "COMMAND_IN_PROGRESS")
  else
    match row.interventionId, row.controlCommandId, row.resultIdentity.bind (·.version?) with
    | some i, some command, some version =>
      .ok ⟨true, i, c.transition.transitionId, command, version⟩
    | _, _, _ => .error (.execution .typeError)

def SuccessorRun.row (run : SuccessorRun) (state : RunControlState) : RunRow where
  controlState := state
  aggregateVersion := 1
  columns :=
    { assignmentId := run.assignmentId
      approvedPlanRevisionId := run.approvedPlanRevisionId
      predecessorWorkflowRunId := run.predecessorWorkflowRunId
      correctionOfWorkflowRunId := run.correctionOfWorkflowRunId
      planId := some run.planId
      planVersion := some run.planVersion
      approvedPlanDigest := some run.approvedPlanDigest
      record := run.record }

/-- `INSERT INTO workflow_runs` of a successor run. -/
def Targets.insertSuccessorRun (scope : ScopeIdentity) (plans : PlanTables) (refs : References)
    (run : SuccessorRun) (t : Targets) : Option Targets := do
  let state ← RunControlState.states.find? fun x => ControlColumn.value x = run.controlState
  let k := scope.key run.workflowRunId
  guarded
    (nulFree (k.texts ++ [run.assignmentId, run.approvedPlanRevisionId, run.planId,
        run.approvedPlanDigest]) && run.record.nulFree &&
      decide (state ≠ .legacyUnbound) && positiveBigint run.planVersion &&
      isDigestText run.approvedPlanDigest && (t.runs.lookup k).isNone &&
      (refs.assignments (scope.key run.assignmentId)).isSome &&
      (plans.plans.lookup (scope.key run.planId, run.planVersion)).isSome &&
      run.predecessorWorkflowRunId.all (fun p => (t.runs.lookup (scope.key p)).isSome &&
        !t.runs.anyRow (fun k' r => r.columns.predecessorWorkflowRunId = some p ∧
          k' = scope.key k'.id)) &&
      run.correctionOfWorkflowRunId.all (fun p => (t.runs.lookup (scope.key p)).isSome))
    { t with runs := t.runs.insert k (run.row state) }

/-- The transition `persist` applies to its request. -/
def AtomicControlCommand.applied (c : AtomicControlCommand) : InterventionTransition :=
  { c.transition with ordinal := 2, fromState := some .requested }

/-- The request and its first transition. -/
def AtomicControlCommand.recordRequest (c : AtomicControlCommand) (t : Targets) (l : Ledger) :
    Option Ledger := do
  let l ← l.insertRequest c.scope c.request t
  l.insertTransition c.scope { c.transition with
    transitionId := c.request.interventionId ++ ":requested"
    ordinal := 1
    fromState := none
    toState := .requested }

/-- The second transition, by which the request is settled. -/
def AtomicControlCommand.recordApplied (c : AtomicControlCommand) (l : Ledger) :
    Except ControlFailure Ledger := do
  validateTransition c.applied
  let l ← orRaise controlConflict (l.insertTransition c.scope c.applied)
  .ok (l.setState (c.scope.key c.request.interventionId) c.applied.toState 2)

/-- The claim `persist` completes. -/
def AtomicControlCommand.completed (c : AtomicControlCommand) (version : Nat) : ClaimRow where
  payloadDigest := c.payloadDigest
  state := .completed
  interventionId := some c.request.interventionId
  controlCommandId := some c.controlCommandId
  resultIdentity := some (.version version)
  resultRecord := none

/-- The successor plan and run of a command. -/
def AtomicControlCommand.successors (c : AtomicControlCommand) (refs : References)
    (plans : PlanTables) (targets : Targets) : Option (PlanTables × Targets) := do
  let plans ←
    match c.successorPlan with
    | none => some plans
    | some p => plans.insertPlan refs.definitions p.withoutSource
  let targets ←
    match c.successorWorkflowRun with
    | none => some targets
    | some run => targets.insertSuccessorRun c.scope plans refs run
  some (plans, targets)

/-- The command row can be inserted, and no link has to be. -/
def AtomicControlCommand.journaled (c : AtomicControlCommand) (ledger : Ledger)
    (journal : Journal) : Bool :=
  let k := c.scope.key c.controlCommandId
  -- the inserts of the links lack the command they belong to
  c.evidenceIds.isEmpty && c.outcomeIds.isEmpty && c.evidenceRecords.isEmpty &&
    c.outcomeRecords.isEmpty && nulFree k.texts && (Json.obj c.commandRecord).nulFree &&
    !journal.commands.contains k &&
    ledger.transitions.any fun r =>
      r.intervention = c.scope.key c.request.interventionId ∧ r.ordinal = 2

def persist (c : AtomicControlCommand) (authorized : Bool) :
    Body Authority ControlFailure AtomicControlResult := fun s =>
  if !authorized then .error (.notAuthorized "NOT_AUTHORIZED")
  else if !nulFree c.claimKey.texts then .error controlConflict
  else
    match s.journal.claims.lookup c.claimKey with
    | some row => (c.replay row).map fun result => (result, s)
    | none =>
      if !isDigestText c.payloadDigest then .error controlConflict
      else do
        let ledger ← orRaise controlConflict (c.recordRequest s.targets s.ledger)
        let (version, targets) ← s.targets.advance c.scope c.request.target
          (chooseListed c.targetState) c.request.expectedTargetVersion
        let ledger ← c.recordApplied ledger
        let (plans, targets) ← orRaise controlConflict (c.successors s.references s.plans targets)
        if !c.journaled ledger s.journal then .error controlConflict
        else
          let journal := { s.journal with
            claims := s.journal.claims.insert c.claimKey (c.completed version)
            commands := c.scope.key c.controlCommandId :: s.journal.commands }
          .ok (⟨false, c.request.interventionId, c.transition.transitionId, c.controlCommandId,
            version⟩, { s with plans, ledger, targets, journal })

end Repository

end Control

end AgentPlatform
