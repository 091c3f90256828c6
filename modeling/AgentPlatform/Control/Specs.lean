/-
AgentPlatform/Control/Specs.lean

What the Workflow Control transactions can do, said once for the proofs about
them.

`persistOperation_cases` splits a command into a replay, which leaves the store
alone, and a run of `runOperation`, whose parts `Carried` names. `carryOut` is
inverted once for each group of tables: `carryOut_plans`, `carryOut_ledger` and
`carryOut_targets` list the branches that touch the group.
-/
import AgentPlatform.Control.Operation

namespace AgentPlatform

open Py

namespace Control

section Specs

variable [Unicodedata]

/-! ### Target rows -/

omit [Unicodedata] in
theorem advanceRow_spec {σ Columns : Type} {choose : σ → Except ControlFailure σ}
    {expected version : Nat} {k : RowKey} {rows rows' : Table RowKey (TargetRow σ Columns)}
    (h : advanceRow choose expected k rows = .ok (version, rows')) :
    ∃ row y, rows.lookup k = some row ∧ row.aggregateVersion = expected ∧
      choose row.controlState = .ok y ∧ rows' = rows.insert k
        { row with controlState := y, aggregateVersion := row.aggregateVersion + 1 } := by
  unfold advanceRow at h
  split at h
  · cases h
  next row hrow =>
    simp only [ite_error_eq_ok', bind_eq_ok, not_not] at h
    obtain ⟨hv, y, hy, h⟩ := h
    cases h
    exact ⟨row, y, hrow, hv, hy, rfl⟩

/-- A compare-and-swap touches one table. -/
theorem advance_cases {scope : ScopeIdentity} {target : InterventionTarget} {choose : Choice}
    {expected version : Nat} {t t' : Targets}
    (h : t.advance scope target choose expected = .ok (version, t')) :
    (∃ id runs, target = .workflowRun id ∧
      advanceRow (choose _) expected (scope.key id) t.runs = .ok (version, runs) ∧
      t' = { t with runs }) ∨
    (∃ id tasks, target = .taskRun id ∧
      advanceRow (choose _) expected (scope.key id) t.tasks = .ok (version, tasks) ∧
      t' = { t with tasks }) ∨
    (∃ id attempts, target = .attempt id ∧
      advanceRow (choose _) expected (scope.key id) t.attempts = .ok (version, attempts) ∧
      t' = { t with attempts }) := by
  unfold Targets.advance at h
  split at h <;> rw [bind_eq_ok] at h <;> obtain ⟨⟨version', rows⟩, hr, h⟩ := h <;> cases h
  · exact .inl ⟨_, rows, rfl, hr, rfl⟩
  · exact .inr (.inl ⟨_, rows, rfl, hr, rfl⟩)
  · exact .inr (.inr ⟨_, rows, rfl, hr, rfl⟩)

/-- A successor run is a new row of the runs. -/
theorem insertSuccessorRun_spec {scope : ScopeIdentity} {plans : PlanTables} {refs : References}
    {run : SuccessorRun} {t t' : Targets}
    (h : t.insertSuccessorRun scope plans refs run = some t') :
    ∃ state, t.runs.lookup (scope.key run.workflowRunId) = none ∧
      ControlColumn.value state = run.controlState ∧
      t' = { t with runs := t.runs.insert (scope.key run.workflowRunId) (run.row state) } := by
  unfold Targets.insertSuccessorRun at h
  obtain ⟨state, hs, h⟩ := Option.bind_eq_some_iff.mp h
  obtain ⟨hc, rfl⟩ := guarded_eq_some.mp h
  simp only [Bool.and_eq_true, Option.isNone_iff_eq_none] at hc
  have hv := List.find?_some hs
  exact ⟨state, hc.1.1.1.1.2, of_decide_eq_true hv, rfl⟩

/-! ### The operation as a whole -/

section Whole

variable {x : LineageAnswers} {op : WorkflowControlOperation} {s s' : Authority}
  {r : WorkflowControlOperationResult}

theorem replay_eq_ok {row : ClaimRow} :
    op.replay row = .ok r ↔ row.payloadDigest = op.payloadDigest ∧ row.state = .completed ∧
      ∃ record, row.resultRecord = some record ∧ r = ⟨true, record⟩ := by
  unfold WorkflowControlOperation.replay
  simp only [ite_error_eq_ok', not_not]
  rcases row.resultRecord with _ | record
  · simp
  · simp [eq_comm]

/-- The parts of a command that ran. -/
structure Carried (x : LineageAnswers) (op : WorkflowControlOperation) (s : Authority)
    (id : String) (c : Cursor) (ledger : Ledger) (e : WorkflowControlOperation.Effect)
    (transitionId : String) (ordinal : Nat) (evidence : EvidenceTable)
    (outcomes : List OutcomeRow) : Prop where
  intervention : op.interventionId = some id
  recorded : op.recordIntervention id s.targets s.ledger = .ok (c, ledger)
  version : s.targets.version op.scope op.target = some op.targetExpectedVersion
  carried : op.carryOut x s.references id c s.plans ledger s.targets = .ok e
  cited : op.cited id e = .ok (transitionId, ordinal)
  facts : op.createOperationFacts e.targets s.evidence s.outcomes = .ok (evidence, outcomes)
  journalable : op.journalable s.references id ordinal e evidence outcomes s.journal = true

/-- The store after a command that ran. -/
def afterOperation (op : WorkflowControlOperation) (s : Authority) (id : String)
    (e : WorkflowControlOperation.Effect) (transitionId : String) (evidence : EvidenceTable)
    (outcomes : List OutcomeRow) : Authority :=
  { s with
    plans := e.plans
    ledger := e.ledger
    targets := e.targets
    journal := op.journaled id (op.result id transitionId e) s.journal
    evidence := evidence
    outcomes := outcomes }

theorem runOperation_spec (h : runOperation x op s = .ok (r, s')) :
    ∃ id c ledger e transitionId ordinal evidence outcomes,
      Carried x op s id c ledger e transitionId ordinal evidence outcomes ∧
      r = ⟨false, op.result id transitionId e⟩ ∧
      s' = afterOperation op s id e transitionId evidence outcomes := by
  unfold runOperation at h
  simp only [bind_eq_ok, orRaise_eq_ok, ite_error_eq_ok', not_not, Bool.not_eq_true',
    Bool.not_eq_false] at h
  obtain ⟨id, hid, ⟨c, ledger⟩, hrec, hver, e, hcar, ⟨transitionId, ordinal⟩, hcit,
    ⟨evidence, outcomes⟩, hfacts, hj, h⟩ := h
  cases h
  exact ⟨id, c, ledger, e, transitionId, ordinal, evidence, outcomes,
    ⟨hid, hrec, hver, hcar, hcit, hfacts, hj⟩, rfl, rfl⟩

theorem runOperation_of_carried {id : String} {c : Cursor} {ledger : Ledger}
    {e : WorkflowControlOperation.Effect} {transitionId : String} {ordinal : Nat}
    {evidence : EvidenceTable} {outcomes : List OutcomeRow}
    (h : Carried x op s id c ledger e transitionId ordinal evidence outcomes) :
    runOperation x op s = .ok (⟨false, op.result id transitionId e⟩,
      afterOperation op s id e transitionId evidence outcomes) := by
  unfold runOperation
  simp only [bind_eq_ok, orRaise_eq_ok, ite_error_eq_ok', not_not, Bool.not_eq_true',
    Bool.not_eq_false]
  exact ⟨id, h.intervention, (c, ledger), h.recorded, h.version, e, h.carried,
    (transitionId, ordinal), h.cited, (evidence, outcomes), h.facts, h.journalable, rfl⟩

/-- What `persist_operation` can return: a stored result, with nothing written,
or the result of a run. -/
theorem persistOperation_cases {authorized : Bool}
    (h : persistOperation x op authorized s = .ok (r, s')) :
    authorized = true ∧ op.evidenceRecords ≠ [] ∧ nulFree op.claimKey.texts = true ∧
    ((∃ row, s.journal.claims.lookup op.claimKey = some row ∧ op.replay row = .ok r ∧ s' = s) ∨
      (s.journal.claims.lookup op.claimKey = none ∧ runOperation x op s = .ok (r, s'))) := by
  unfold persistOperation at h
  simp only [ite_error_eq_ok', Bool.not_eq_true', Bool.not_eq_false] at h
  obtain ⟨ha, he, hk, h⟩ := h
  refine ⟨ha, he, hk, ?_⟩
  split at h
  next row hrow =>
    obtain ⟨r', hr, he⟩ := map_eq_ok.mp h
    cases he
    exact .inl ⟨row, hrow, hr, rfl⟩
  next hrow => exact .inr ⟨hrow, h⟩

end Whole

/-! ### The branches -/

section Branches

variable {x : LineageAnswers} {op : WorkflowControlOperation} {refs : References} {id : String}
  {c : Cursor} {plans : PlanTables} {l : Ledger} {t : Targets}
  {e : WorkflowControlOperation.Effect}

theorem carryOut_plans (h : op.carryOut x refs id c plans l t = .ok e) :
    e.plans = plans ∨
    ((op.commandType = .approveAndContinue ∨ op.commandType = .rejectPlan) ∧
      ∃ targets version decision,
        op.persistPlanOperation plans t = .ok (e.plans, targets, version, decision)) ∨
    (op.commandType = .correctPlan ∧
      ∃ p, op.persistCorrection refs.definitions plans = .ok (e.plans, p)) := by
  unfold WorkflowControlOperation.carryOut at h
  split at h <;> simp only [bind_eq_ok, ite_error_eq_ok'] at h
  case h_1 hk =>
    obtain ⟨⟨plans', targets, version, decision⟩, hp, h⟩ := h
    cases h
    exact .inr (.inl ⟨.inl hk, targets, version, decision, hp⟩)
  case h_2 hk =>
    obtain ⟨⟨plans', targets, version, decision⟩, hp, h⟩ := h
    cases h
    exact .inr (.inl ⟨.inr hk, targets, version, decision, hp⟩)
  case h_3 hk =>
    obtain ⟨⟨plans', p⟩, hp, h⟩ := h
    cases h
    exact .inr (.inr ⟨hk, p, hp⟩)
  case h_4 =>
    cases h.2
    exact .inl rfl
  all_goals
    obtain ⟨_, -, h⟩ := h
    cases h
    exact .inl rfl

theorem carryOut_ledger (h : op.carryOut x refs id c plans l t = .ok e) :
    e.ledger = l ∨
    (op.commandType = .applyInterventionDecision ∧ ∃ targets version applied,
      op.applyDecision id c l t = .ok (e.ledger, targets, version, applied)) := by
  unfold WorkflowControlOperation.carryOut at h
  split at h <;> simp only [bind_eq_ok, ite_error_eq_ok'] at h
  case h_4 =>
    cases h.2
    exact .inl rfl
  case h_11 hk =>
    obtain ⟨⟨ledger, targets, version, applied⟩, ha, h⟩ := h
    cases h
    exact .inr ⟨hk, targets, version, applied, ha⟩
  all_goals
    obtain ⟨_, -, h⟩ := h
    cases h
    exact .inl rfl

/-- The branches that write the target, its successors or its plan run. -/
inductive TargetEffect (x : LineageAnswers) (refs : References) (op : WorkflowControlOperation)
    (plans : PlanTables) (t : Targets) : Targets → Prop
  | unchanged : TargetEffect x refs op plans t t
  | continued {runId : String} {version : Nat} {t' : Targets}
      (kind : op.commandType = .approveAndContinue ∨ op.commandType = .rejectPlan)
      (target : op.target = .workflowRun runId) (h : op.continueRun runId t = .ok (version, t')) :
      TargetEffect x refs op plans t t'
  | retried {successor : String} {t' : Targets} (kind : op.commandType = .retryAttempt)
      (h : op.retryAttempt x refs plans t = .ok (t', successor)) : TargetEffect x refs op plans t t'
  | rerun {successor : String} {t' : Targets} (kind : op.commandType = .createSuccessorRun)
      (h : op.createSuccessorRun refs plans t = .ok (t', successor)) :
      TargetEffect x refs op plans t t'
  | cancelled {version : Nat} {t' : Targets}
      (h : t.advance op.scope op.target WorkflowControlOperation.chooseCancelled
        op.targetExpectedVersion = .ok (version, t')) : TargetEffect x refs op plans t t'
  | completed {version : Nat} {t' : Targets}
      (h : t.advance op.scope op.target op.chooseCompleted op.targetExpectedVersion
        = .ok (version, t')) : TargetEffect x refs op plans t t'
  | applied {version : Nat} {t' : Targets}
      (h : t.advance op.scope op.target op.chooseApplied op.targetExpectedVersion
        = .ok (version, t')) : TargetEffect x refs op plans t t'

/-- The parts of an approval or rejection. -/
theorem persistPlanOperation_spec {plans' : PlanTables} {t' : Targets} {version : Nat}
    {decision : String}
    (h : op.persistPlanOperation plans t = .ok (plans', t', version, decision)) :
    ∃ runId approval p inserted,
      op.target = .workflowRun runId ∧ op.approval = some approval ∧
      op.planId = some approval.planId ∧ op.planVersion = some approval.planVersion ∧
      op.planDigest = some approval.planDigest ∧
      plans.plans.lookup (op.scope.key approval.planId, approval.planVersion) = some p ∧
      p.status = .pendingApproval ∧ p.planDigest = approval.planDigest ∧
      approval.decision = op.wantedVerdict ∧ plans.insertApproval op.scope approval = some inserted ∧
      op.continueRun runId t = .ok (version, t') ∧
      plans' = inserted.setStatus (op.scope.key approval.planId, approval.planVersion)
        approval.decision.status := by
  unfold WorkflowControlOperation.persistPlanOperation at h
  split at h
  next runId approval planId planVersion planDigest ht ha hi hv hd =>
    simp only [ite_error_eq_ok'] at h
    obtain ⟨-, h⟩ := h
    split at h
    · cases h
    next p hp =>
      simp only [ite_error_eq_ok', bind_eq_ok, orRaise_eq_ok, not_or, not_not] at h
      obtain ⟨⟨hs, hpd, had, hai, hav⟩, hw, inserted, hins, ⟨version', t''⟩, hrun, h⟩ := h
      cases h
      subst had hai hav
      exact ⟨runId, approval, p, inserted, ht, ha, hi, hv, hd, hp, hs, hpd, hw, hins, hrun,
        by rw [hw]⟩
  next => cases h

theorem applyDecision_spec {l' : Ledger} {t' : Targets} {version : Nat} {applied : String}
    (h : op.applyDecision id c l t = .ok (l', t', version, applied)) :
    c.state = .authorized ∧
    (∃ d ∈ l.decisions, d.intervention = op.scope.key id ∧ d.decision = .authorize) ∧
    (∃ l₁ l₂,
      l.insertTransition op.scope (op.applicationTransition
        (orDefault op.transitionId (op.controlCommandId ++ ":application-pending")) id
        (c.ordinal + 1) .authorized .applicationPending) = some l₁ ∧
      (l₁.setState (op.scope.key id) .applicationPending (c.ordinal + 1)).insertTransition
        op.scope (op.applicationTransition (op.controlCommandId ++ ":applied") id
        (c.ordinal + 2) .applicationPending .applied) = some l₂ ∧
      l' = l₂.setState (op.scope.key id) .applied (c.ordinal + 2)) ∧
    t.advance op.scope op.target op.chooseApplied op.targetExpectedVersion = .ok (version, t') := by
  unfold WorkflowControlOperation.applyDecision at h
  simp only [ite_error_eq_ok', bind_eq_ok, orRaise_eq_ok, not_or, not_not, Bool.not_eq_true',
    Bool.not_eq_false, List.any_eq_true, decide_eq_true_eq] at h
  obtain ⟨⟨hc, d, hd, hk⟩, l₁, h₁, ⟨version', t''⟩, ht, l₂, h₂, h⟩ := h
  cases h
  exact ⟨hc, ⟨d, hd, hk⟩, ⟨l₁, l₂, h₁, h₂, rfl⟩, ht⟩

/-- The targets a command leaves. -/
theorem carryOut_targets (h : op.carryOut x refs id c plans l t = .ok e) :
    TargetEffect x refs op plans t e.targets := by
  unfold WorkflowControlOperation.carryOut at h
  split at h <;> simp only [bind_eq_ok, ite_error_eq_ok'] at h
  case h_1 hk =>
    obtain ⟨⟨plans', targets, version, decision⟩, hp, h⟩ := h
    cases h
    obtain ⟨runId, _, _, _, ht, -, -, -, -, -, -, -, -, -, hrun, -⟩ := persistPlanOperation_spec hp
    exact .continued (.inl hk) ht hrun
  case h_2 hk =>
    obtain ⟨⟨plans', targets, version, decision⟩, hp, h⟩ := h
    cases h
    obtain ⟨runId, _, _, _, ht, -, -, -, -, -, -, -, -, -, hrun, -⟩ := persistPlanOperation_spec hp
    exact .continued (.inr hk) ht hrun
  case h_4 =>
    cases h.2
    exact .unchanged
  case h_6 hk =>
    obtain ⟨⟨targets, successor⟩, hr, h⟩ := h
    cases h
    exact .retried hk hr
  case h_7 hk =>
    obtain ⟨⟨targets, successor⟩, hr, h⟩ := h
    cases h
    exact .rerun hk hr
  case h_9 =>
    obtain ⟨⟨version, targets⟩, ha, h⟩ := h
    cases h
    exact .cancelled ha
  case h_10 =>
    obtain ⟨⟨version, targets⟩, ha, h⟩ := h
    cases h
    exact .completed ha
  case h_11 =>
    obtain ⟨⟨ledger, targets, version, applied⟩, ha, h⟩ := h
    cases h
    exact .applied (applyDecision_spec ha).2.2.2
  all_goals
    obtain ⟨_, -, h⟩ := h
    cases h
    exact .unchanged

theorem persistCorrection_spec {definitions : RowKey → Bool} {plans' : PlanTables} {p : PlanRecord}
    (h : op.persistCorrection definitions plans = .ok (plans', p)) :
    ∃ correction planId planVersion q inserted linked,
      op.correction = some correction ∧ op.successorPlan = some p ∧ op.planId = some planId ∧
      op.planVersion = some planVersion ∧ p.scope = op.scope ∧ p.status = .pendingApproval ∧
      p.predecessor = some (op.scope.key planId, planVersion) ∧
      correction.predecessorPlanId = planId ∧ correction.predecessorPlanVersion = planVersion ∧
      correction.successorPlanId = p.planId ∧ correction.successorPlanVersion = p.planVersion ∧
      plans.plans.lookup (op.scope.key planId, planVersion) = some q ∧
      q.status ∉ uncorrectable ∧ plans.insertPlan definitions p = some inserted ∧
      inserted.insertCorrection op.scope correction = some linked ∧
      plans' = linked.setStatus (op.scope.key planId, planVersion) .superseded := by
  unfold WorkflowControlOperation.persistCorrection at h
  split at h
  next correction p' planId planVersion planDigest hc hp hi hv hd =>
    simp only [ite_error_eq_ok', Bool.not_eq_true', Bool.not_eq_false] at h
    obtain ⟨hx, -, h⟩ := h
    simp only [WorkflowControlOperation.exactSuccessor, Bool.and_eq_true, decide_eq_true_eq] at hx
    obtain ⟨⟨⟨⟨⟨⟨⟨⟨⟨⟨⟨⟨h1, h2⟩, h3⟩, h4⟩, -⟩, -⟩, h7⟩, h8⟩, h9⟩, h10⟩, -⟩, -⟩, -⟩ := hx
    split at h
    · cases h
    next q hq =>
      simp only [ite_error_eq_ok', bind_eq_ok, orRaise_eq_ok, not_or] at h
      obtain ⟨⟨-, -, hs, -⟩, inserted, hins, linked, hlink, h⟩ := h
      split at h
      · cases h
        exact ⟨correction, planId, planVersion, q, inserted, linked, hc, hp, hi, hv, h1, h2,
          by simp [PlanRecord.predecessor, h3, h4, h1], h7, h8, h9, h10, hq, hs, hins, hlink, rfl⟩
      · cases h
  next => cases h

end Branches

theorem retryAttempt_spec {x : LineageAnswers} {op : WorkflowControlOperation} {refs : References}
    {plans : PlanTables} {t t' : Targets} {successor : String}
    (h : op.retryAttempt x refs plans t = .ok (t', successor)) :
    ∃ id previous n retry t₁, op.target = .attempt id ∧ op.successorId = some successor ∧
      t.attempts.lookup (op.scope.key id) = some previous ∧ previous.controlState = .failed ∧
      previous.columns.attemptOrdinal = some (n + 1) ∧
      prepareControlRetry x refs plans t op.scope id successor op.controlCommandId previous
        = .ok retry ∧
      (∀ r ∈ retry, r.lineage.ordinal = n + 2) ∧
      op.insertAttempt successor (op.successorAttempt id previous (n + 2) retry) t = some t₁ ∧
      (retry = none → t' = t₁) ∧
      ∀ r ∈ retry, appendLineage r.successor
        (r.lineage.binding r.successor op.controlCommandId) t₁ = .ok t' := by
  unfold WorkflowControlOperation.retryAttempt at h
  split at h
  next id successorId ht hs =>
    split at h
    · cases h
    next previous hp =>
      simp only [ite_error_eq_ok', not_not] at h
      obtain ⟨hf, h⟩ := h
      split at h
      · cases h
      · cases h
      next n hn =>
        simp only [bind_eq_ok, lifted_eq_ok, ite_error_eq_ok', orRaise_eq_ok] at h
        obtain ⟨retry, hr, hord, t₁, h₁, h⟩ := h
        rcases retry with _ | r
        · cases h
          refine ⟨id, previous, n, none, _, ht, hs, hp, hf, hn, hr, ?_, h₁, fun _ => rfl, ?_⟩
          · intro r hr
            cases hr
          · intro r hr
            cases hr
        · simp only [bind_eq_ok, lifted_eq_ok] at h
          obtain ⟨t₂, h₂, h⟩ := h
          cases h
          refine ⟨id, previous, n, some r, _, ht, hs, hp, hf, hn, hr, ?_, h₁, ?_, ?_⟩
          · intro r' hr'
            cases hr'
            simpa using hord
          · intro hnone
            cases hnone
          · intro r' hr'
            cases hr'
            exact h₂
  next => cases h

/-- The run a `CREATE_SUCCESSOR_RUN` inserts. -/
def WorkflowControlOperation.successorRun (op : WorkflowControlOperation) (id successorId : String)
    (run : RunRow) (p : PlanRecord) (planId : String) (planVersion : Nat) : SuccessorRun where
  workflowRunId := successorId
  assignmentId := run.columns.assignmentId
  approvedPlanRevisionId := p.workflowDefinitionRevisionId
  predecessorWorkflowRunId := some id
  correctionOfWorkflowRunId := none
  record := .obj op.payload
  controlState := "PENDING"
  planId := planId
  planVersion := planVersion
  approvedPlanDigest := p.planDigest

theorem createSuccessorRun_spec {op : WorkflowControlOperation} {refs : References}
    {plans : PlanTables} {t t' : Targets} {successor : String}
    (h : op.createSuccessorRun refs plans t = .ok (t', successor)) :
    ∃ planId planVersion p run,
      plans.plans.lookup (op.scope.key planId, planVersion) = some p ∧ p.status = .approved ∧
      run.planId = planId ∧ run.planVersion = planVersion ∧ run.approvedPlanDigest = p.planDigest ∧
      t.insertSuccessorRun op.scope plans refs run = some t' := by
  unfold WorkflowControlOperation.createSuccessorRun at h
  split at h
  next id successorId ht hs =>
    split at h
    · cases h
    next run hrun =>
      simp only [ite_error_eq_ok'] at h
      obtain ⟨-, h⟩ := h
      split at h
      next planId planVersion hi hv =>
        split at h
        · cases h
        next p hp =>
          simp only [ite_error_eq_ok', bind_eq_ok, orRaise_eq_ok, not_or, not_not] at h
          obtain ⟨⟨hst, -⟩, t₁, h₁, h⟩ := h
          obtain ⟨rfl, -⟩ := Prod.mk.inj (Except.ok.inj h)
          exact ⟨planId, planVersion, p, op.successorRun id successorId run p planId planVersion,
            hp, hst, rfl, rfl, rfl, h₁⟩
      next => cases h
  next => cases h

theorem insertAttempt_spec {op : WorkflowControlOperation} {successorId : String}
    {row : AttemptTargetRow} {n : Nat} {t t' : Targets} (hn : row.columns.attemptOrdinal = some n)
    (h : op.insertAttempt successorId row t = some t') :
    t.attempts.lookup (op.scope.key successorId) = none ∧
    t.attemptTaken op.scope row.columns.taskRunId n row.columns.predecessorAttemptId = false ∧
    t' = { t with attempts := t.attempts.insert (op.scope.key successorId) row } := by
  obtain ⟨hc, rfl⟩ := guarded_eq_some.mp h
  simp only [hn, Option.any_some, Bool.and_eq_true, Option.isNone_iff_eq_none,
    Bool.not_eq_true'] at hc
  exact ⟨hc.1.1.2, hc.2, rfl⟩

/-- An attempt with an execution binding is retried under its recorded identity,
with the successor id in its normal form. -/
theorem prepareControlRetry_cases {x : LineageAnswers} {refs : References} {plans : PlanTables}
    {t : Targets} {scope : ScopeIdentity} {attemptId successorId controlCommandId : String}
    {target : AttemptTargetRow} {retry : Option ControlRetry}
    (h : prepareControlRetry x refs plans t scope attemptId successorId controlCommandId target
      = .ok retry) :
    (t.bindings.lookup (scope.key attemptId) = none ∧ retry = none) ∨
    ∃ previous id r, retry = some r ∧ target.columns.record = some previous ∧
      opaqueId successorId = .ok id ∧ r.successor.scope = scope ∧ r.successor.attemptId = id ∧
      r.successor.predecessorAttemptId = some previous.attemptId ∧
      r.successor.taskRunId = previous.taskRunId ∧
      validateLineage x refs plans t r.successor none controlCommandId none none
        = .ok r.lineage := by
  unfold prepareControlRetry at h
  split at h
  next hb =>
    cases h
    exact .inl ⟨hb, rfl⟩
  · split at h
    · cases h
    next previous hrec =>
      simp only [bind_eq_ok] at h
      obtain ⟨id, hid, successor, hs, lineage, hl, h⟩ := h
      cases h
      unfold ExecutionIdentityAggregate.retried at hs
      split at hs
      · cases hs
      · cases hs
        exact .inr ⟨previous, id, _, rfl, hrec, hid, rfl, rfl, rfl, rfl, hl⟩

/-! ### Lineage -/

/-- What the execution bindings of one retry chain have in common. -/
def ExecutionBinding.lineage (b : ExecutionBinding) :
    String × String × String × String × String × String :=
  (b.digitalEmployeeInstanceId, b.definitionId, b.revisionId, b.digest, b.planDigest, b.approvalId)

theorem checkPlan_eq_ok {plans : PlanTables} {scope : ScopeIdentity} {approvalId : String}
    {wanted : Option String} {p : PlanRecord} (h : checkPlan plans scope approvalId wanted = .ok p) :
    wanted = some p.planDigest ∧ p.status = .approved ∧
      ∃ k, plans.plans.lookup k = some p ∧
        ∃ d ∈ plans.approvals, d.key = scope.key approvalId ∧ d.plan = k := by
  unfold checkPlan at h
  split at h
  · cases h
  next d p' ha =>
    simp only [ite_error_eq_ok', not_or, not_not] at h
    obtain ⟨⟨hs, -, hw⟩, h⟩ := h
    cases h
    unfold PlanTables.approved at ha
    obtain ⟨d', hd, ha⟩ := Option.bind_eq_some_iff.mp ha
    obtain ⟨p'', hp, ha⟩ := Option.bind_eq_some_iff.mp ha
    split at ha
    · cases ha
      exact ⟨hw.symm, hs, d.plan, hp, d, List.mem_of_find?_eq_some hd,
        by simpa using List.find?_some hd, rfl⟩
    · cases ha

/-- A first attempt has ordinal 1. -/
theorem validateLineage_first {x : LineageAnswers} {refs : References} {plans : PlanTables}
    {t : Targets} {a : ExecutionIdentityAggregate} {approvedPlan : Option ApprovedPlanIdentity}
    {decision : String} {workflow : Option WorkflowRevision} {taskId : Option String}
    {lineage : Lineage}
    (h : validateLineage x refs plans t a approvedPlan decision workflow taskId = .ok lineage)
    (hp : a.predecessorAttemptId = none) : lineage.ordinal = 1 := by
  unfold validateLineage at h
  simp only [ite_error_eq_ok', bind_eq_ok, hp] at h
  obtain ⟨-, employee, -, _, -, h⟩ := h
  split at h
  · cases h
  · simp only [bind_eq_ok, ite_error_eq_ok'] at h
    obtain ⟨p, -, -, _, -, _, -, h⟩ := h
    cases h
    rfl

/-- A retry follows a failed attempt of its task run, and keeps what the binding
of that attempt says. -/
theorem validateLineage_retry {x : LineageAnswers} {refs : References} {plans : PlanTables}
    {t : Targets} {a : ExecutionIdentityAggregate} {approvedPlan : Option ApprovedPlanIdentity}
    {decision : String} {workflow : Option WorkflowRevision} {taskId : Option String}
    {lineage : Lineage} {predecessor : AttemptId}
    (h : validateLineage x refs plans t a approvedPlan decision workflow taskId = .ok lineage)
    (hp : a.predecessorAttemptId = some predecessor) :
    ∃ previous b n, t.attempts.lookup (a.scope.key predecessor.value) = some previous ∧
      t.bindings.lookup (a.scope.key predecessor.value) = some b ∧
      previous.columns.taskRunId = a.taskRunId.value ∧ previous.controlState = .failed ∧
      previous.columns.attemptOrdinal = some n ∧ lineage.ordinal = n + 1 ∧
      ∀ authorization, (lineage.binding a authorization).lineage = b.lineage := by
  unfold validateLineage at h
  simp only [ite_error_eq_ok', bind_eq_ok, hp] at h
  obtain ⟨-, employee, -, _, -, ⟨n', approvalId, wanted⟩, hprev, p, hplan, _, -, _, -, h⟩ := h
  cases h
  simp only [checkPredecessor] at hprev
  rcases hrow : t.attempts.lookup (a.scope.key predecessor.value) with _ | previous <;>
    rcases hb : t.bindings.lookup (a.scope.key predecessor.value) with _ | b <;>
    simp only [hrow, hb, reduceCtorEq] at hprev
  simp only [ite_error_eq_ok', not_or, not_not] at hprev
  obtain ⟨⟨ht, hf⟩, he, -, hprev⟩ := hprev
  rcases hn : previous.columns.attemptOrdinal with _ | n <;> rw [hn] at hprev <;> cases hprev
  obtain ⟨hw, -, -⟩ := checkPlan_eq_ok hplan
  simp only [Prod.mk.injEq] at he
  obtain ⟨e₁, e₂⟩ := he
  refine ⟨previous, b, n, rfl, rfl, ht, hf, hn, rfl, ?_⟩
  intro authorization
  simp only [Lineage.binding, ExecutionBinding.lineage, ← e₁, ← e₂, ← Option.some.inj hw]

theorem appendLineage_cases {a : ExecutionIdentityAggregate} {b : ExecutionBinding}
    {t t' : Targets} (h : appendLineage a b t = .ok t') :
    (t.bindings.lookup (a.scope.key a.attemptId.value) = some b ∧ t' = t) ∨
    (t.bindings.lookup (a.scope.key a.attemptId.value) = none ∧
      (t.attempts.lookup (a.scope.key a.attemptId.value)).isSome ∧
      t' = { t with bindings := t.bindings.insert (a.scope.key a.attemptId.value) b }) := by
  simp only [appendLineage] at h
  rcases hs : t.bindings.lookup (a.scope.key a.attemptId.value) with _ | stored <;>
    simp only [hs, ite_error_eq_ok', not_or, not_not, Option.isNone_iff_eq_none] at h
  · obtain ⟨⟨-, ha⟩, h⟩ := h
    cases h
    exact .inr ⟨rfl, Option.isSome_iff_ne_none.mpr ha, rfl⟩
  · obtain ⟨rfl, h⟩ := h
    cases h
    exact .inl ⟨rfl, rfl⟩

/-! ### save -/

omit [Unicodedata] in
/-- A row is stored already, or new and free of the unique keys of others. -/
theorem insertOrCompare_cases {σ Columns : Type} {same : Columns → Columns → Bool}
    {taken valid : Bool} {k : RowKey} {row : TargetRow σ Columns}
    {rows rows' : Table RowKey (TargetRow σ Columns)}
    (h : insertOrCompare same taken valid k row rows = .ok rows') :
    ((rows.lookup k).isSome ∧ rows' = rows) ∨
    (rows.lookup k = none ∧ taken = false ∧ rows' = rows.insert k row) := by
  unfold insertOrCompare at h
  split at h
  next stored hs =>
    split at h
    · cases h
      exact .inl ⟨by rw [hs]; rfl, rfl⟩
    · cases h
  next hs =>
    simp only [ite_error_eq_ok'] at h
    obtain ⟨ht, -, h⟩ := h
    cases h
    exact .inr ⟨hs, by simpa using ht, rfl⟩

/-- The three inserts of a `save`. -/
theorem insertIdentities_spec {refs : References} {a : ExecutionIdentityAggregate} {x : Lineage}
    {t t' : Targets} (h : t.insertIdentities refs a x = .ok t') :
    (((t.runs.lookup (a.scope.key a.workflowRunId.value)).isSome ∧ t'.runs = t.runs) ∨
      (t.runs.lookup (a.scope.key a.workflowRunId.value) = none ∧
        t'.runs = t.runs.insert (a.scope.key a.workflowRunId.value) ⟨.pending, 1, a.run x⟩)) ∧
    (((t.tasks.lookup (a.scope.key a.taskRunId.value)).isSome ∧ t'.tasks = t.tasks) ∨
      (t.tasks.lookup (a.scope.key a.taskRunId.value) = none ∧
        t'.tasks = t.tasks.insert (a.scope.key a.taskRunId.value) ⟨.ready, 1, a.task x⟩)) ∧
    (((t.attempts.lookup (a.scope.key a.attemptId.value)).isSome ∧ t'.attempts = t.attempts) ∨
      (t.attempts.lookup (a.scope.key a.attemptId.value) = none ∧
        t.attemptTaken a.scope a.taskRunId.value x.ordinal
          (a.predecessorAttemptId.map (·.value)) = false ∧
        t'.attempts = t.attempts.insert (a.scope.key a.attemptId.value)
          ⟨.pending, 1, a.attempt x.ordinal⟩)) ∧
    t'.bindings = t.bindings := by
  unfold Targets.insertIdentities at h
  simp only [bind_eq_ok] at h
  obtain ⟨runs, hr, tasks, ht, attempts, ha, h⟩ := h
  cases h
  refine ⟨?_, ?_, insertOrCompare_cases ha, rfl⟩
  · exact (insertOrCompare_cases hr).imp_right fun h => ⟨h.1, h.2.2⟩
  · exact (insertOrCompare_cases ht).imp_right fun h => ⟨h.1, h.2.2⟩

/-- The parts of a `save`: the lineage, the identities and the binding. Beside
the targets only the governed claims are written. -/
theorem save_spec {x : LineageAnswers} {scope : ScopeIdentity} {a b : ExecutionIdentityAggregate}
    {args : SaveArguments} {s s' : Authority} (h : save x scope a args s = .ok (b, s')) :
    b = a ∧ ∃ lineage targets journal,
      validateLineage x s.references s.plans s.targets a args.approvedPlan
        args.authorizationDecisionId args.plan args.taskId = .ok lineage ∧
      s.targets.insertIdentities s.references a lineage = .ok targets ∧
      appendLineage a (lineage.binding a args.authorizationDecisionId) targets = .ok s'.targets ∧
      s' = { s with targets := s'.targets, journal := { s.journal with governed := journal } } := by
  unfold save at h
  simp only [ite_error_eq_ok', bind_eq_ok] at h
  obtain ⟨-, -, lineage, hl, _, -, targets, ht, targets', hb, h⟩ := h
  cases h
  refine ⟨rfl, lineage, targets, ?_⟩
  rcases hc : args.requestClaim with _ | claim
  · exact ⟨_, hl, ht, hb, rfl⟩
  · rcases hg : s.journal.governed.lookup (a.scope.key claim.principalId, claim.idempotencyKey)
      with _ | row
    · refine ⟨s.journal.governed.insert (a.scope.key claim.principalId, claim.idempotencyKey)
        (claim.row a), hl, ht, hb, ?_⟩
      simp only [hg]
    · refine ⟨s.journal.governed, hl, ht, hb, ?_⟩
      simp only [hg]

end Specs

end Control

end AgentPlatform
