/-
AgentPlatform/Control/Continuation.lean

The plan a continued run is bound to.

A run is bound to its plan when it is started, and only to an approved one; no
command changes the binding later (`body_runs`). A plan that was decided once
is never pending again (`PlanTables.Move.keeps_settled`). `APPROVE_AND_CONTINUE`
approves a pending plan and resumes the run as it is, so the run it resumes is
bound to some other plan (`continued_run_unbound`). A dispatch for the run is
then checked against that other plan, which a correction has superseded.
-/
import AgentPlatform.Control.Plans
import AgentPlatform.Control.Retries

namespace AgentPlatform

open Py

namespace Control

section Continuation

variable [Unicodedata] {t t' : PlanTables} {s s' : Authority}

/-! ### Keys of plans and approvals -/

/-- A plan is stored under its own key, and an approval in the scope of its
plan. -/
structure PlanTables.Keyed (t : PlanTables) : Prop where
  plans : ∀ {k p}, t.plans.lookup k = some p → p.key = k
  approvals : ∀ a ∈ t.approvals, a.plan.1 = RowKey.at a.key a.plan.1.id

theorem PlanTables.Move.keyed (hm : t.Move t') (ht : t.Keyed) {k : PlanKey} {p : PlanRecord}
    (h : t'.plans.lookup k = some p) : p.key = k := by
  cases hm with
  | prepare q =>
    rcases Table.lookup_insert_cases h with ⟨rfl, rfl⟩ | ⟨-, h⟩
    · rfl
    · exact ht.plans h
  | decide a stored =>
    rcases Table.lookup_insert_cases h with ⟨rfl, rfl⟩ | ⟨-, h⟩
    · rw [← ht.plans stored]
      rfl
    · exact ht.plans h
  | correct c stored =>
    rcases Table.lookup_insert_cases h with ⟨rfl, rfl⟩ | ⟨-, h⟩
    · rw [← ht.plans stored]
      rfl
    · rcases Table.lookup_insert_cases h with ⟨rfl, rfl⟩ | ⟨-, h⟩
      · rfl
      · exact ht.plans h

@[simp] theorem PlanTables.setStatus_approvals (k : PlanKey) (status : PlanStatus)
    (t : PlanTables) : (t.setStatus k status).approvals = t.approvals := by
  unfold PlanTables.setStatus
  split <;> rfl

theorem insertApproval_scoped {scope : ScopeIdentity} {d : ApprovalDecision}
    (h : t.insertApproval scope d = some t') {a : ApprovalRow} (ha : a ∈ t'.approvals) :
    a ∈ t.approvals ∨ a.plan.1 = RowKey.at a.key a.plan.1.id := by
  obtain ⟨-, rfl⟩ := insertApproval_spec h
  rcases List.mem_append.mp ha with ha | ha
  · exact .inl ha
  · cases List.mem_singleton.mp ha
    exact .inr rfl

/-- A new approval is in the scope of its plan. -/
theorem body_approvals {c : Command} (hc : c.IsPlanCommand) (h : c.body s = .ok ((), s'))
    {a : ApprovalRow} (ha : a ∈ s'.plans.approvals) :
    a ∈ s.plans.approvals ∨ a.plan.1 = RowKey.at a.key a.plan.1.id := by
  by_cases hl : c.ledgerOnly = true
  · rw [body_ledgerOnly hl h] at ha
    exact .inl ha
  cases c <;> simp only [Command.ledgerOnly, not_true_eq_false] at hl <;>
    obtain ⟨_, h⟩ := ignoring_eq_ok.mp h
  case preparePlanEntry =>
    unfold preparePlanEntry at h
    simp only [ite_error_eq_ok', bind_eq_ok, orRaise_eq_ok] at h
    obtain ⟨-, -, _, hp, h⟩ := h
    cases h
    obtain ⟨-, -, -, -, rfl⟩ := insertPlan_spec hp
    exact .inl ha
  case approvePlanEntry =>
    unfold approvePlanEntry PlanTables.appendApproval at h
    simp only [ite_error_eq_ok', bind_eq_ok] at h
    obtain ⟨-, -, -, plans, ⟨-, hp⟩, h⟩ := h
    cases h
    split at hp
    · cases hp
    · simp only [ite_error_eq_ok', bind_eq_ok, orRaise_eq_ok] at hp
      obtain ⟨-, inserted, hins, hp⟩ := hp
      cases hp
      exact insertApproval_scoped hins (by simpa using ha)
  case persist => exact hc.elim
  case persistOperation x op authorized =>
    obtain ⟨-, -, -, ⟨_, -, -, rfl⟩ | ⟨-, h⟩⟩ := persistOperation_cases h
    · exact .inl ha
    · obtain ⟨_, _, _, e, _, _, _, _, hcar, -, rfl⟩ := runOperation_spec h
      have hae : a ∈ e.plans.approvals := ha
      obtain he | ⟨-, _, _, _, hp⟩ | ⟨-, p, hp⟩ := carryOut_plans hcar.carried
      · exact .inl (he ▸ hae)
      · obtain ⟨_, _, _, inserted, -, -, -, -, -, -, -, -, -, hins, -, he⟩ :=
          persistPlanOperation_spec hp
        rw [he, PlanTables.setStatus_approvals] at hae
        exact insertApproval_scoped hins hae
      · obtain ⟨_, _, _, _, inserted, linked, -, -, -, -, -, -, -, -, -, -, -, -, -, hins, hlink,
          he⟩ := persistCorrection_spec hp
        obtain ⟨-, -, -, -, rfl⟩ := insertPlan_spec hins
        obtain ⟨-, rfl⟩ := insertCorrection_spec hlink
        rw [he, PlanTables.setStatus_approvals] at hae
        exact .inl hae
  case save =>
    obtain ⟨-, _, _, _, -, -, -, he⟩ := save_spec h
    rw [he] at ha
    exact .inl ha

theorem body_keyed {c : Command} (hc : c.IsPlanCommand) (h : c.body s = .ok ((), s'))
    (hs : s.plans.Keyed) : s'.plans.Keyed where
  plans hp := by
    obtain ⟨he | hm, -⟩ := body_plans hc h
    · rw [he] at hp
      exact hs.plans hp
    · exact hm.keyed hs hp
  approvals a ha := (body_approvals hc h ha).elim (hs.approvals a) id

/-! ### Settled plans -/

/-- A decided plan stays stored, and decided. -/
theorem PlanTables.Move.keeps_settled (hm : t.Move t') {k : PlanKey} {p : PlanRecord}
    (h : t.plans.lookup k = some p) (hp : p.status ≠ .pendingApproval) :
    ∃ p', t'.plans.lookup k = some p' ∧ p'.status ≠ .pendingApproval := by
  cases hm with
  | prepare q new => exact ⟨p, Table.lookup_insert_new new h, hp⟩
  | decide a stored pending =>
    refine ⟨p, ?_, hp⟩
    show AList.lookup _ (AList.insert _ _ _) = _
    rwa [AList.lookup_insert_ne]
    rintro rfl
    cases stored.symm.trans h
    exact hp pending
  | correct c stored open_ new =>
    by_cases hk : k = c.predecessor
    · subst hk
      refine ⟨_, AList.lookup_insert _, ?_⟩
      intro hpending
      cases hpending
    · refine ⟨p, ?_, hp⟩
      show AList.lookup _ (AList.insert _ _ _) = _
      rw [AList.lookup_insert_ne hk]
      exact Table.lookup_insert_new new h

/-- The run is bound to a stored plan that has been decided. -/
def PlanTables.Settles (t : PlanTables) (k : RowKey) (c : RunColumns) : Prop :=
  ∃ planId planVersion p, c.planId = some planId ∧ c.planVersion = some planVersion ∧
    t.plans.lookup (RowKey.at k planId, planVersion) = some p ∧ p.status ≠ .pendingApproval

theorem body_settles {c : Command} (hc : c.IsPlanCommand) (h : c.body s = .ok ((), s'))
    {k : RowKey} {columns : RunColumns} (hs : s.plans.Settles k columns) :
    s'.plans.Settles k columns := by
  obtain ⟨planId, planVersion, p, hi, hv, hp, hstatus⟩ := hs
  obtain ⟨he | hm, -⟩ := body_plans hc h
  · exact ⟨planId, planVersion, p, hi, hv, he ▸ hp, hstatus⟩
  · obtain ⟨p', hp', hstatus'⟩ := hm.keeps_settled hp hstatus
    exact ⟨planId, planVersion, p', hi, hv, hp', hstatus'⟩

/-! ### Runs are bound once -/

/-- The rows are old ones, with the plan they were bound to, or bound to a
decided plan. -/
def RunsFrom (t : PlanTables) (runs runs' : Table RowKey RunRow) : Prop :=
  ∀ k row, runs'.lookup k = some row →
    (∃ old, runs.lookup k = some old ∧ old.columns = row.columns) ∨ t.Settles k row.columns

theorem RunsFrom.refl (t : PlanTables) (runs : Table RowKey RunRow) : RunsFrom t runs runs :=
  fun _ row h => .inl ⟨row, h, rfl⟩

theorem RunsFrom.advanceRow {choose : RunControlState → Except ControlFailure RunControlState}
    {expected version : Nat} {k : RowKey} {runs runs' : Table RowKey RunRow}
    (h : advanceRow choose expected k runs = .ok (version, runs')) : RunsFrom t runs runs' := by
  intro k' row hrow
  have hcolumns : (runs'.lookup k').map (·.columns) = (runs.lookup k').map (·.columns) :=
    advanceRow_columns h
  rw [hrow] at hcolumns
  obtain ⟨old, hold, he⟩ := Option.map_eq_some_iff.mp hcolumns.symm
  exact .inl ⟨old, hold, he⟩

theorem RunsFrom.insert {runs : Table RowKey RunRow} {k : RowKey} {row : RunRow}
    (h : t.Settles k row.columns) : RunsFrom t runs (runs.insert k row) := by
  intro k' row' hrow
  rcases Table.lookup_insert_cases hrow with ⟨rfl, rfl⟩ | ⟨-, hrow⟩
  · exact .inr h
  · exact .inl ⟨row', hrow, rfl⟩

theorem RunsFrom.advance {scope : ScopeIdentity} {target : InterventionTarget} {choose : Choice}
    {expected version : Nat} {u u' : Targets}
    (h : u.advance scope target choose expected = .ok (version, u')) :
    RunsFrom t u.runs u'.runs := by
  obtain ⟨_, _, -, hr, rfl⟩ | ⟨_, _, -, -, rfl⟩ | ⟨_, _, -, -, rfl⟩ := advance_cases h
  · exact .advanceRow hr
  · exact .refl t _
  · exact .refl t _

/-- The plan of a lineage is stored in the scope of its execution, approved. -/
theorem validateLineage_plan {x : LineageAnswers} {refs : References} {u : Targets}
    {a : ExecutionIdentityAggregate} {approvedPlan : Option ApprovedPlanIdentity}
    {decision : String} {workflow : Option WorkflowRevision} {taskId : Option String}
    {lineage : Lineage}
    (h : validateLineage x refs t u a approvedPlan decision workflow taskId = .ok lineage) :
    ∃ approvalId wanted p, checkPlan t a.scope approvalId wanted = .ok p ∧
      lineage.planId = p.planId ∧ lineage.planVersion = p.planVersion := by
  unfold validateLineage at h
  simp only [ite_error_eq_ok', bind_eq_ok] at h
  obtain ⟨-, employee, -, _, -, h⟩ := h
  split at h
  · simp only [bind_eq_ok] at h
    obtain ⟨⟨_, _, _⟩, -, p, hp, _, -, _, -, h⟩ := h
    cases h
    exact ⟨_, _, p, hp, rfl, rfl⟩
  · split at h
    · cases h
    · simp only [ite_error_eq_ok', bind_eq_ok] at h
      obtain ⟨p, hp, -, _, -, _, -, h⟩ := h
      cases h
      exact ⟨_, _, p, hp, rfl, rfl⟩

theorem save_runs {x : LineageAnswers} {scope : ScopeIdentity} {a b : ExecutionIdentityAggregate}
    {args : SaveArguments} (hs : s.plans.Keyed) (h : save x scope a args s = .ok (b, s')) :
    RunsFrom s.plans s.targets.runs s'.targets.runs := by
  obtain ⟨-, lineage, targets, _, hl, hi, hb, -⟩ := save_spec h
  have hruns : s'.targets.runs = targets.runs := by
    obtain ⟨-, he⟩ | ⟨-, -, he⟩ := appendLineage_cases hb <;> rw [he]
  rw [hruns]
  obtain ⟨⟨-, he⟩ | ⟨-, he⟩, -⟩ := insertIdentities_spec hi <;> rw [he]
  · exact .refl _ _
  · apply RunsFrom.insert
    obtain ⟨approvalId, wanted, p, hp, hid, hversion⟩ := validateLineage_plan hl
    obtain ⟨-, hstatus, k, hstored, d, hd, hdk, rfl⟩ := checkPlan_eq_ok hp
    refine ⟨lineage.planId, lineage.planVersion, p, rfl, rfl, ?_, by rw [hstatus]; nofun⟩
    -- the approval ties the plan to the scope of the execution
    have hkey := hs.plans hstored
    have hscope := hs.approvals d hd
    rw [← hstored, hid, hversion]
    congr 1
    rw [← hkey, hdk] at hscope
    rw [← hkey]
    exact Prod.ext hscope.symm rfl

/-- **No command rebinds a run.** -/
theorem body_runs {c : Command} (hc : c.IsPlanCommand) (hs : s.plans.Keyed)
    (h : c.body s = .ok ((), s')) : RunsFrom s.plans s.targets.runs s'.targets.runs := by
  by_cases hl : c.ledgerOnly = true
  · rw [body_ledgerOnly hl h]
    exact .refl _ _
  by_cases hp : c.plansOnly = true
  · rw [body_plansOnly hp h]
    exact .refl _ _
  cases c <;> simp only [Command.ledgerOnly, Command.plansOnly, not_true_eq_false,
      Bool.false_eq_true, not_false_eq_true] at hl hp <;> obtain ⟨_, h⟩ := ignoring_eq_ok.mp h
  case persist => exact hc.elim
  case persistOperation x op authorized =>
    obtain ⟨-, -, -, ⟨_, -, -, rfl⟩ | ⟨-, h⟩⟩ := persistOperation_cases h
    · exact .refl _ _
    · obtain ⟨_, _, _, e, _, _, _, _, hcar, -, rfl⟩ := runOperation_spec h
      have ht := carryOut_targets hcar.carried
      show RunsFrom _ _ e.targets.runs
      generalize e.targets = u at ht
      cases ht with
      | unchanged => exact .refl _ _
      | continued _ _ hrun =>
        unfold WorkflowControlOperation.continueRun at hrun
        split at hrun
        · cases hrun
          exact .refl _ _
        · rw [bind_eq_ok] at hrun
          obtain ⟨_, hr, hrun⟩ := hrun
          cases hrun
          exact .advanceRow hr
      | retried _ hr =>
        obtain ⟨_, _, _, retry, u₁, -, -, -, -, -, -, -, hins, hnone, hsome⟩ := retryAttempt_spec hr
        obtain ⟨-, -, rfl⟩ := insertAttempt_spec rfl hins
        rcases retry with _ | r
        · rw [hnone rfl]
          exact .refl _ _
        · obtain ⟨-, rfl⟩ | ⟨-, -, rfl⟩ := appendLineage_cases (hsome r rfl)
          · exact .refl _ _
          · exact .refl _ _
      | rerun _ hr =>
        obtain ⟨planId, planVersion, p, run, hp, hstatus, hi, hv, -, hrun⟩ :=
          createSuccessorRun_spec hr
        obtain ⟨_, -, -, rfl⟩ := insertSuccessorRun_spec hrun
        apply RunsFrom.insert
        exact ⟨planId, planVersion, p, congrArg some hi, congrArg some hv, hp,
          by rw [hstatus]; intro h; cases h⟩
      | cancelled ha => exact .advance ha
      | completed ha => exact .advance ha
      | applied ha => exact .advance ha
  case save => exact save_runs hs h

/-! ### Runs of commands -/

/-- The plans are keyed, and every run is bound to a decided plan. -/
structure Authority.Settled (s : Authority) : Prop where
  keyed : s.plans.Keyed
  runs : ∀ {k row}, s.targets.runs.lookup k = some row → s.plans.Settles k row.columns

theorem body_settled {c : Command} (hc : c.IsPlanCommand) (h : c.body s = .ok ((), s'))
    (hs : s.Settled) : s'.Settled where
  keyed := body_keyed hc h hs.keyed
  runs hrow := by
    apply body_settles hc h
    obtain ⟨old, hold, he⟩ | hnew := body_runs hc hs.keyed h _ _ hrow
    · exact he ▸ hs.runs hold
    · exact hnew

theorem run_settled {cs : List Command} (hcs : ∀ c ∈ cs, c.IsPlanCommand) (hs : s.Settled) :
    (run cs s).Settled :=
  run_induction (P := Authority.Settled) (fun _ _ _ hc hs h => body_settled hc h hs) hcs hs

/-- The run is bound to the plan the command names, which is stored approved. -/
def Authority.BoundToApproved (s : Authority) (op : WorkflowControlOperation) (row : RunRow) :
    Prop :=
  ∃ p, s.plans.plans.lookup (op.scope.key p.planId, p.planVersion) = some p ∧
    p.status = .approved ∧ op.planId = some p.planId ∧ op.planVersion = some p.planVersion ∧
    row.columns.planId = some p.planId ∧ row.columns.planVersion = some p.planVersion ∧
    row.columns.approvedPlanDigest = some p.planDigest

/-- **A continued run is never bound to the plan that was approved.** In every
run of plan commands from a store without workflow runs, an
`APPROVE_AND_CONTINUE` that commits moves its run to `RESUME_REQUESTED` and
leaves it bound to another plan. -/
theorem continued_run_unbound (s₀ : Authority) (hplans : s₀.plans.Keyed)
    (hruns : s₀.targets.runs = ∅) (cs : List Command) (hcs : ∀ c ∈ cs, c.IsPlanCommand)
    (x : LineageAnswers) (op : WorkflowControlOperation) (authorized : Bool)
    (hkind : op.commandType = .approveAndContinue) (r : WorkflowControlOperationResult)
    (s' : Authority) (h : persistOperation x op authorized (run cs s₀) = .ok (r, s'))
    (hr : r.replayed = false) :
    ∃ runId row, op.target = .workflowRun runId ∧
      s'.targets.runs.lookup (op.scope.key runId) = some row ∧
      row.controlState = .resumeRequested ∧ ¬ s'.BoundToApproved op row := by
  have hs₀ : s₀.Settled := ⟨hplans, fun hrow => by rw [hruns] at hrow; cases hrow⟩
  have hs := run_settled hcs hs₀
  obtain ⟨-, -, -, ⟨_, -, hrep, -⟩ | ⟨-, h⟩⟩ := persistOperation_cases h
  · obtain ⟨-, -, _, -, rfl⟩ := replay_eq_ok.mp hrep
    cases hr
  obtain ⟨id, c, l, e, _, _, _, _, hcar, -, rfl⟩ := runOperation_spec h
  obtain ⟨plans, targets, version, decision, hp, he⟩ :
      ∃ plans targets version decision,
        op.persistPlanOperation (run cs s₀).plans (run cs s₀).targets
          = .ok (plans, targets, version, decision) ∧ e.targets = targets := by
    have hcarried := hcar.carried
    unfold WorkflowControlOperation.carryOut at hcarried
    rw [hkind] at hcarried
    simp only [bind_eq_ok] at hcarried
    obtain ⟨⟨plans, targets, version, decision⟩, hp, he⟩ := hcarried
    cases he
    exact ⟨plans, targets, version, decision, hp, rfl⟩
  obtain ⟨runId, approval, p, _, htarget, -, hpid, hpv, -, hstored, hpending, -, -, -, hrun, -⟩ :=
    persistPlanOperation_spec hp
  have hverdict : op.wantedVerdict = .approve := by
    simp [WorkflowControlOperation.wantedVerdict, hkind]
  unfold WorkflowControlOperation.continueRun at hrun
  rw [hverdict] at hrun
  simp only [bind_eq_ok] at hrun
  obtain ⟨⟨_, runs⟩, hadv, hrun⟩ := hrun
  cases hrun
  obtain ⟨row, y, hrow, -, hy, rfl⟩ := advanceRow_spec hadv
  refine ⟨runId, { row with controlState := y, aggregateVersion := row.aggregateVersion + 1 },
    htarget, ?_, ?_, ?_⟩
  · show e.targets.runs.lookup _ = _
    rw [he]
    exact AList.lookup_insert _
  · unfold WorkflowControlOperation.resumed at hy
    split at hy
    · cases hy
      rfl
    · cases hy
  · -- the plan of the run was decided before, the one of the command was pending
    rintro ⟨q, -, -, hqi, hqv, hci, hcv, -⟩
    obtain ⟨planId, planVersion, p', hi, hv, hp', hstatus⟩ := hs.runs hrow
    have hid : planId = approval.planId :=
      Option.some.inj ((hi.symm.trans hci).trans (hqi.symm.trans hpid))
    have hversion : planVersion = approval.planVersion :=
      Option.some.inj ((hv.symm.trans hcv).trans (hqv.symm.trans hpv))
    rw [hid, hversion] at hp'
    cases hp'.symm.trans hstored
    exact hstatus hpending

end Continuation

section Samples

open AgentPlatform.Sample Sample

/-- An intervention on the run at a version, and its application: the run goes
to the wanted state. -/
def moved (name : String) (version : Nat) (wanted : String) : List Command :=
  [.requestIntervention scope
      { request name "POLICY" with expectedTargetVersion := version },
    .persistOperation answers
      { operation .applyInterventionDecision name with
        payload := [("target_state", .str wanted)]
        targetExpectedVersion := version
        interventionId := some name
        review := some ⟨"review-" ++ name, name, "actor-1", "owner", instant 0⟩
        decision := some ⟨"decision-" ++ name, name, "review-" ++ name, .authorize, "actor-1",
          "owner", "POLICY", instant 0⟩ } true]

/-- The run is paused, and a plan is prepared. -/
def pausing : List Command :=
  moved "1" 1 "RUNNING" ++ moved "2" 2 "PAUSE_REQUESTED" ++ moved "3" 3 "PAUSE_PENDING" ++
    moved "4" 4 "PAUSED" ++
    [.preparePlanEntry plan true,
      .requestIntervention scope { request "5" "HUMAN_APPROVAL" with expectedTargetVersion := 5 }]

/-- The prepared plan is approved, and the run goes on. -/
def continuation : WorkflowControlOperation :=
  { operation .approveAndContinue "5" with
    targetExpectedVersion := 5
    interventionId := some "5"
    planId := some "plan-1"
    planVersion := some 1
    planDigest := some plan.planDigest
    approval := some ⟨"approval-1", "plan-1", 1, plan.planDigest, 1, .approve, "actor-1", "owner",
      "BUSINESS_APPROVAL", (digest 'b').1, instant 0⟩ }

/-- The store after the start of the run. -/
def startedStore : Authority :=
  { plannedStore with
    targets := addStarted (text "run-1") (text "task-1") (text "attempt-1") "a" "decision-1"
      ⟨∅, ∅, ∅, ∅⟩ }

/-- The run is started, paused, and waits for the prepared plan. -/
def waiting : List Command :=
  started (text "run-1") (text "task-1") (text "attempt-1") "a" "decision-1" :: pausing

theorem run_waiting : run waiting plannedStore = run pausing startedStore := by
  have hstart : (started (text "run-1") (text "task-1") (text "attempt-1") "a" "decision-1").call
      plannedStore = (.ok (), startedStore) :=
    started_call (by decide) (by decide) rfl rfl rfl
  rw [waiting, run_cons, hstart]

theorem waiting_planCommands : ∀ c ∈ waiting, c.IsPlanCommand := by
  intro c hc
  simp only [waiting, pausing, moved, started, List.cons_append, List.nil_append, List.mem_cons,
    List.not_mem_nil, or_false] at hc
  rcases hc with rfl | rfl | rfl | rfl | rfl | rfl | rfl | rfl | rfl | rfl | rfl <;> trivial

theorem plannedStore_keyed : plannedStore.plans.Keyed where
  plans h := by
    rcases Table.lookup_insert_cases (t := ∅) h with ⟨rfl, rfl⟩ | ⟨-, h⟩
    · rfl
    · cases h
  approvals a ha := by
    cases List.mem_singleton.mp ha
    rfl

/-- The continuation commits, and the run keeps the plan it was started with. -/
theorem continuation_commits :
    ∃ r s, persistOperation answers continuation true (run waiting plannedStore) = .ok (r, s) ∧
      r.replayed = false ∧
      (s.targets.runs.lookup (scope.key "run-1")).map (fun row =>
        (row.columns.planId, row.controlState)) = some (some "plan-0", .resumeRequested) := by
  have heval : (persistOperation answers continuation true
      (run pausing startedStore)).toOption.any (fun p => decide (p.1.replayed = false ∧
        (p.2.targets.runs.lookup (scope.key "run-1")).map (fun row =>
          (row.columns.planId, row.controlState)) = some (some "plan-0", .resumeRequested)))
      = true := by decide +kernel
  rw [run_waiting]
  revert heval
  rcases persistOperation answers continuation true (run pausing startedStore) with e | ⟨r, s⟩
  · intro heval
    cases heval
  · intro heval
    exact ⟨r, s, rfl, of_decide_eq_true heval⟩

/-- Hypotheses of the law are met by a run that is paused and continued. -/
theorem continued_run_of_waiting :
    ∃ r s, persistOperation answers continuation true (run waiting plannedStore) = .ok (r, s) ∧
      ∃ runId row, continuation.target = .workflowRun runId ∧
        s.targets.runs.lookup (continuation.scope.key runId) = some row ∧
        row.controlState = .resumeRequested ∧ ¬ s.BoundToApproved continuation row := by
  obtain ⟨r, s, h, hr, -⟩ := continuation_commits
  exact ⟨r, s, h, continued_run_unbound plannedStore plannedStore_keyed rfl waiting
    waiting_planCommands answers continuation true rfl r s h hr⟩

/-- **The approved plan is not the plan of the continued run.** -/
theorem continued_run_keeps_plan :
    ¬ ∀ (s₀ : Authority) (cs : List Command) (x : LineageAnswers) (op : WorkflowControlOperation)
      (authorized : Bool) (r : WorkflowControlOperationResult) (s : Authority) (runId : String)
      (row : RunRow), s₀.plans.Keyed → s₀.targets.runs = ∅ → (∀ c ∈ cs, c.IsPlanCommand) →
      op.commandType = .approveAndContinue →
      persistOperation x op authorized (run cs s₀) = .ok (r, s) → r.replayed = false →
      op.target = .workflowRun runId → s.targets.runs.lookup (op.scope.key runId) = some row →
      row.controlState = .resumeRequested → s.BoundToApproved op row := by
  intro hclaim
  obtain ⟨r, s, h, hr, hplan⟩ := continuation_commits
  obtain ⟨row, hrow, he⟩ := Option.map_eq_some_iff.mp hplan
  obtain ⟨hid, hstate⟩ := Prod.mk.inj he
  obtain ⟨p, -, -, hop, -, hrun, -⟩ := hclaim plannedStore waiting answers continuation true r s
    "run-1" row plannedStore_keyed rfl waiting_planCommands rfl h hr rfl hrow hstate
  have hsame : some "plan-0" = continuation.planId := hid.symm.trans (hrun.trans hop.symm)
  exact absurd hsame (by decide)

end Samples

end Control

end AgentPlatform
