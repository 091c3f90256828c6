/-
AgentPlatform/Control/Native.lean

Workflow Control and native dispatch over one store.

`Sees` says what the dispatch transactions see of the `execution_authority`
tables. A native step is a dispatch operation on what it sees, written back; the
tables it does not see stay (`NativeStep`).

Control commands leave a terminal row alone, and `permit_effect` asks for a
pending attempt. `record_uncertain` and `append_native_completion` set the
state of the attempt by its identity only: an attempt that a control command
ended while its effect was running is overwritten (`ended_attempt_overwritten`).
Terminal states are absorbing in the runs in which an observation never meets
an attempt that was ended otherwise (`terminal_absorbing_of_run`).
-/
import AgentPlatform.Control.Targets
import AgentPlatform.Dispatch.Ledger

namespace AgentPlatform

open Py

/-! ### Dispatch operations on attempts -/

section Dispatch

variable [Unicodedata]

/-- Operations of the dispatch repository itself. -/
def Operation.isNative : Operation → Bool
  | others .. => false
  | _ => true

def Operation.records : Operation → Option (NativeDispatchClaim × NativeTerminalObservation)
  | recordUncertain claim o => some (claim, o)
  | appendNativeCompletion _ claim o _ _ _ _ => some (claim, o)
  | _ => none

/-- Every command was queued for the attempt of its placement. -/
def Store.Placed (s : Store) : Prop :=
  ∀ k row, s.commands.lookup k = some row → row.payload.key = k ∧
    ∃ d q, s.bindings.placementDecisions row.payload.placementKey = some d ∧
      s.bindings.placementRequests (row.payload.scope.key d.requestId) = some q ∧
      q.attemptId = row.payload.attemptId.value

/-- What an operation does to the attempts. -/
inductive AttemptEffect (op : Operation) (s s' : Store) : Prop
  | same (h : s'.attempts = s.attempts)
  | permitted {row : CommandRow} {claim : NativeDispatchClaim} {taskName : String}
      {authorizationCheck : NativeDispatchCommand → Except Failure Bool} {now : Datetime}
      (h : s'.attempts = (s.setAttemptState claim.command.attemptKey .running).attempts)
      (permitted : Permitted s row claim taskName authorizationCheck now)
  | recorded {row : CommandRow} {claim : NativeDispatchClaim} {o : NativeTerminalObservation}
      (h : s'.attempts = (s.setAttemptState claim.command.attemptKey o.kind.controlState).attempts)
      (records : op.records = some (claim, o)) (found : s.commands.lookup claim.key = some row)
      (unrecorded : row.terminalObservationDigest = none)

variable {s s' : Store}

/-- The columns of an attempt beside its state and version are the same. -/
def SameIdentity (a a' : AttemptRow) : Prop :=
  a'.taskRunId = a.taskRunId ∧ a'.attemptOrdinal = a.attemptOrdinal ∧ a'.record = a.record

theorem setAttemptState_same (n : Store) (k k' : RowKey) (state : AttemptControlState) :
    Option.Rel SameIdentity (n.attempts k) ((n.setAttemptState k' state).attempts k) := by
  by_cases he : k = k'
  · subst he
    simp only [Store.setAttemptState, Function.update_self]
    rcases n.attempts k with _ | a
    · exact .none
    · exact .some ⟨rfl, rfl, rfl⟩
  · simp only [Store.setAttemptState, Function.update_of_ne he]
    rcases n.attempts k with _ | a
    · exact .none
    · exact .some ⟨rfl, rfl, rfl⟩

theorem AttemptEffect.sameIdentity {op : Operation} {n n' : Store} (h : AttemptEffect op n n')
    (k : RowKey) : Option.Rel SameIdentity (n.attempts k) (n'.attempts k) := by
  cases h with
  | same h =>
    rw [h]
    rcases n.attempts k with _ | a
    · exact .none
    · exact .some ⟨rfl, rfl, rfl⟩
  | permitted h =>
    rw [h]
    exact setAttemptState_same ..
  | recorded h =>
    rw [h]
    exact setAttemptState_same ..

/-- Every row was stored before with the same command, or is newly queued. -/
def CommandsFrom (s s' : Store) : Prop :=
  ∀ k row, s'.commands.lookup k = some row →
    (∃ row₀, s.commands.lookup k = some row₀ ∧ row.payload = row₀.payload) ∨
    (row.payload.key = k ∧ s.placementBinding row.payload = some row.payload.expected)

theorem CommandsFrom.same (h : s'.commands = s.commands) : CommandsFrom s s' := by
  intro k row hl
  rw [h] at hl
  exact .inl ⟨row, hl, rfl⟩

theorem CommandsFrom.set {k : RowKey} {row row' : CommandRow}
    (found : s.commands.lookup k = some row) (h : s'.commands = s.commands.insert k row')
    (payload : row'.payload = row.payload) : CommandsFrom s s' := by
  intro k₁ row₁ hl
  rw [h] at hl
  rcases Table.lookup_insert_cases hl with ⟨rfl, rfl⟩ | ⟨-, hl⟩
  · exact .inl ⟨row, found, payload⟩
  · exact .inl ⟨row₁, hl, rfl⟩

def Operation.Effects (op : Operation) (s s' : Store) : Prop := AttemptEffect op s s' ∧ CommandsFrom s s'

/-- **An operation of dispatch** changes one attempt at most, and commands only as it
queues or advances them. -/
theorem Operation.effects {op : Operation} (hop : op.isNative = true) : op.Effects s (op.apply s) := by
  have same : op.Effects s s := ⟨.same rfl, .same rfl⟩
  cases op with
  | enqueue c =>
    apply transaction_state same
    intro d s' h
    obtain ⟨hb, ⟨_, -, -, -, rfl⟩ | ⟨-, -, -, rfl⟩⟩ := enqueue_ok h
    · exact same
    · refine ⟨.same rfl, fun k row hl => ?_⟩
      rcases Table.lookup_insert_cases hl with ⟨rfl, rfl⟩ | ⟨-, hl⟩
      · exact .inr ⟨rfl, hb⟩
      · exact .inl ⟨row, hl, rfl⟩
  | claimNext w now lease token locked =>
    apply transaction_state same
    intro d s' h
    obtain ⟨-, rfl⟩ | ⟨_, _, _, _, hc, -, rfl⟩ := claimNext_ok h
    · exact same
    · exact ⟨.same rfl, .set hc.found rfl rfl⟩
  | permitEffect claim name auth now =>
    apply transaction_state same
    intro d s' h
    obtain ⟨_, -, -, -, -, -, rfl⟩ | ⟨row, hp, -, rfl⟩ := permitEffect_ok h
    · exact same
    · exact ⟨.permitted rfl hp, .set hp.found rfl rfl⟩
  | recordKubernetesCorrelation claim name uid =>
    apply transaction_state same
    intro d s' h
    obtain ⟨_, hf, -, -, -, ⟨-, -, rfl⟩ | ⟨-, -, -, rfl⟩⟩ := recordKubernetesCorrelation_ok h
    · exact same
    · exact ⟨.same rfl, .set hf rfl rfl⟩
  | recordUncertain claim o =>
    apply transaction_state same
    intro d s' h
    obtain ⟨-, -, row, hl, -, -, ⟨-, -, rfl⟩ | ⟨hd, -, -, rfl⟩⟩ := recordUncertain_ok h
    · exact same
    · exact ⟨.recorded rfl rfl hl hd, .set hl rfl rfl⟩
  | appendNativeCompletion checkpoint claim o evidence outcomeId workflowRunId outcome =>
    apply transaction_state same
    intro d s' h
    obtain ⟨row, s₁, s₂, s₃, _, _, _, hs⟩ := appendNativeCompletion_ok h
    obtain ⟨hl, -, -, -⟩ := completionRow_ok hs.locked
    have hrows : s'.commands = s₁.commands ∧ s'.attempts = s₁.attempts := by
      rw [← hs.frame.1, ← hs.frame.2.2.1]
      rcases appendTerminalFact_ok hs.recorded with ⟨-, rfl⟩ | ⟨-, rfl⟩ <;> exact ⟨rfl, rfl⟩
    obtain ⟨hc, ha⟩ := hrows
    rcases markTerminal_ok hs.marked with ⟨-, -, rfl⟩ | ⟨hd, -, -, rfl⟩
    · exact ⟨.same ha, .same hc⟩
    · exact ⟨.recorded ha rfl hl hd, .set hl hc rfl⟩
  | others => cases hop

theorem Operation.attemptEffect {op : Operation} (hop : op.isNative = true) :
    AttemptEffect op s (op.apply s) := (Operation.effects hop).1

theorem Operation.commandsFrom {op : Operation} (hop : op.isNative = true) :
    CommandsFrom s (op.apply s) := (Operation.effects hop).2

/-- The binding a command is queued under names the attempt of its placement. -/
theorem placed_of_placementBinding {c : NativeDispatchCommand}
    (h : s.placementBinding c = some c.expected) :
    ∃ d q, s.bindings.placementDecisions c.placementKey = some d ∧
      s.bindings.placementRequests (c.scope.key d.requestId) = some q ∧
      q.attemptId = c.attemptId.value := by
  unfold Store.placementBinding at h
  obtain ⟨d, hd, h⟩ := Option.bind_eq_some_iff.mp h
  obtain ⟨q, hq, h⟩ := Option.bind_eq_some_iff.mp h
  obtain ⟨_, -, h⟩ := Option.bind_eq_some_iff.mp h
  obtain ⟨_, -, h⟩ := Option.bind_eq_some_iff.mp h
  obtain ⟨a, -, h⟩ := Option.bind_eq_some_iff.mp h
  obtain ⟨_, -, h⟩ := Option.bind_eq_some_iff.mp h
  exact ⟨d, q, hd, hq, congrArg BindingView.attemptId (Option.some.inj h)⟩

/-- `permit_effect` finds the attempt of its claim pending. -/
theorem Permitted.pending (hs : s.Placed) {row : CommandRow} {claim : NativeDispatchClaim}
    {taskName : String} {authorizationCheck : NativeDispatchCommand → Except Failure Bool}
    {now : Datetime} (h : Permitted s row claim taskName authorizationCheck now) :
    ∃ a, s.attempts claim.command.attemptKey = some a ∧ a.controlState = .pending := by
  obtain ⟨hkey, d, q, hd, hq, hattempt⟩ := hs _ _ h.found
  have hb := h.exact_binding
  unfold Store.effectBinding at hb
  obtain ⟨d', hd', hb⟩ := Option.bind_eq_some_iff.mp hb
  obtain ⟨q', hq', hb⟩ := Option.bind_eq_some_iff.mp hb
  obtain ⟨_, -, hb⟩ := Option.bind_eq_some_iff.mp hb
  obtain ⟨a, ha, hb⟩ := Option.bind_eq_some_iff.mp hb
  obtain ⟨_, -, hb⟩ := Option.bind_eq_some_iff.mp hb
  -- the stored command and the claim agree in scope and attempt
  have hscope : ∀ id, row.payload.scope.key id = claim.command.scope.key id := by
    intro id
    have h₁ := congrArg RowKey.namespaceName hkey
    have h₂ := congrArg RowKey.securityDomain hkey
    exact RowKey.mk.injEq .. ▸ ⟨h₁, h₂, rfl⟩
  have hd₀ : s.bindings.placementDecisions (claim.command.scope.key row.payload.placementId.value)
      = some d := by
    rw [← hscope]
    exact hd
  cases hd₀.symm.trans hd'
  rw [hscope] at hq
  cases hq.symm.trans hq'
  have hview := Option.some.inj hb
  have hid : q.attemptId = claim.command.attemptId.value := congrArg BindingView.attemptId hview
  have hstate : a.controlState = .pending := congrArg BindingView.controlState hview
  rw [← hattempt, hid] at ha
  exact ⟨a, ha, hstate⟩

end Dispatch

namespace Control

/-! ### Rows that stay -/

section Keeps

variable {σ Columns : Type} [ControlColumn σ] {rows rows' rows'' : Table RowKey (TargetRow σ Columns)}

/-- Terminal rows stay in their state. -/
def KeepsTerminal (rows rows' : Table RowKey (TargetRow σ Columns)) : Prop :=
  ∀ k row, rows.lookup k = some row → isTerminal row.controlState = true →
    ∃ row', rows'.lookup k = some row' ∧ row'.controlState = row.controlState

theorem KeepsTerminal.refl (rows : Table RowKey (TargetRow σ Columns)) : KeepsTerminal rows rows :=
  fun _ row h _ => ⟨row, h, rfl⟩

theorem KeepsTerminal.trans (h : KeepsTerminal rows rows') (h' : KeepsTerminal rows' rows'') :
    KeepsTerminal rows rows'' := by
  intro k row hk ht
  obtain ⟨row', hk', he⟩ := h k row hk ht
  obtain ⟨row'', hk'', he'⟩ := h' k row' hk' (by rwa [he])
  exact ⟨row'', hk'', he'.trans he⟩

theorem KeepsTerminal.insert_new {k : RowKey} {row : TargetRow σ Columns}
    (h : rows.lookup k = none) : KeepsTerminal rows (rows.insert k row) :=
  fun _ row' hk _ => ⟨row', Table.lookup_insert_new h hk, rfl⟩

/-- A compare-and-swap that refuses terminal states. -/
theorem KeepsTerminal.advanceRow {choose : σ → Except ControlFailure σ} {expected version : Nat}
    {k : RowKey} (live : ∀ x y, choose x = .ok y → isTerminal x = false)
    (h : advanceRow choose expected k rows = .ok (version, rows')) : KeepsTerminal rows rows' := by
  obtain ⟨row, y, hrow, -, hy, rfl⟩ := advanceRow_spec h
  intro k' row' hk ht
  by_cases he : k' = k
  · subst he
    cases hrow.symm.trans hk
    rw [live _ _ hy] at ht
    cases ht
  · exact ⟨row', by rwa [AList.lookup_insert_ne he], rfl⟩

end Keeps

section Joined

variable [Unicodedata]

/-- No terminal row of any kind changes its state. -/
structure Targets.KeepsTerminal (t t' : Targets) : Prop where
  runs : Control.KeepsTerminal t.runs t'.runs
  tasks : Control.KeepsTerminal t.tasks t'.tasks
  attempts : Control.KeepsTerminal t.attempts t'.attempts

variable {t t' t'' : Targets} {s s' : Authority}

theorem Targets.KeepsTerminal.refl (t : Targets) : t.KeepsTerminal t :=
  ⟨.refl _, .refl _, .refl _⟩

theorem Targets.KeepsTerminal.trans (h : t.KeepsTerminal t') (h' : t'.KeepsTerminal t'') :
    t.KeepsTerminal t'' :=
  ⟨h.runs.trans h'.runs, h.tasks.trans h'.tasks, h.attempts.trans h'.attempts⟩

/-! ### Control commands keep terminal rows -/

theorem Targets.Controlled.keepsTerminal (h : t.Controlled t') : t.KeepsTerminal t' := by
  induction h with
  | unchanged => exact .refl t
  | advanced _ live h ih =>
    apply ih.trans
    obtain ⟨_, _, -, hr, rfl⟩ | ⟨_, _, -, hr, rfl⟩ | ⟨_, _, -, hr, rfl⟩ := advance_cases h
    · exact ⟨.advanceRow (live _) hr, .refl _, .refl _⟩
    · exact ⟨.refl _, .advanceRow (live _) hr, .refl _⟩
    · exact ⟨.refl _, .refl _, .advanceRow (live _) hr⟩
  | resumed _ h ih =>
    apply ih.trans
    refine ⟨.advanceRow ?_ h, .refl _, .refl _⟩
    intro x y hy
    unfold WorkflowControlOperation.resumed at hy
    split at hy
    next hx =>
      rw [hx]
      rfl
    · cases hy
  | rerun _ h ih =>
    apply ih.trans
    obtain ⟨_, hnew, -, rfl⟩ := insertSuccessorRun_spec h
    exact ⟨.insert_new hnew, .refl _, .refl _⟩

theorem appendLineage_keepsTerminal {a : ExecutionIdentityAggregate} {b : ExecutionBinding}
    (h : appendLineage a b t = .ok t') : t.KeepsTerminal t' := by
  obtain ⟨-, rfl⟩ | ⟨-, -, rfl⟩ := appendLineage_cases h
  · exact .refl _
  · exact ⟨.refl _, .refl _, .refl _⟩

theorem retryAttempt_keepsTerminal {x : LineageAnswers} {op : WorkflowControlOperation}
    {refs : References} {plans : PlanTables} {successor : String}
    (h : op.retryAttempt x refs plans t = .ok (t', successor)) : t.KeepsTerminal t' := by
  obtain ⟨_, _, _, retry, t₁, -, -, -, -, -, -, -, hins, hnone, hsome⟩ := retryAttempt_spec h
  obtain ⟨hnew, -, ht₁⟩ := insertAttempt_spec rfl hins
  have hadd : t.KeepsTerminal t₁ := by
    rw [ht₁]
    exact ⟨.refl _, .refl _, .insert_new hnew⟩
  rcases retry with _ | r
  · rw [hnone rfl]
    exact hadd
  · exact hadd.trans (appendLineage_keepsTerminal (hsome r rfl))

theorem save_keepsTerminal {x : LineageAnswers} {scope : ScopeIdentity}
    {a b : ExecutionIdentityAggregate} {args : SaveArguments}
    (h : save x scope a args s = .ok (b, s')) : s.targets.KeepsTerminal s'.targets := by
  obtain ⟨-, _, targets, _, -, hi, hb, -⟩ := save_spec h
  obtain ⟨hr, ht, ha, -⟩ := insertIdentities_spec hi
  refine Targets.KeepsTerminal.trans ⟨?_, ?_, ?_⟩ (appendLineage_keepsTerminal hb)
  · rcases hr with ⟨-, he⟩ | ⟨hnew, he⟩ <;> rw [he]
    · exact .refl _
    · exact .insert_new hnew
  · rcases ht with ⟨-, he⟩ | ⟨hnew, he⟩ <;> rw [he]
    · exact .refl _
    · exact .insert_new hnew
  · rcases ha with ⟨-, he⟩ | ⟨hnew, -, he⟩ <;> rw [he]
    · exact .refl _
    · exact .insert_new hnew

/-- **No control command changes the state of a terminal row.** -/
theorem body_keepsTerminal {c : Command} (h : c.body s = .ok ((), s')) :
    s.targets.KeepsTerminal s'.targets := by
  obtain h | ⟨_, _, _, _, -, -, h⟩ | ⟨_, _, _, _, -, h⟩ := body_targets h
  · exact h.keepsTerminal
  · exact retryAttempt_keepsTerminal h
  · exact save_keepsTerminal h

/-! ### What dispatch sees -/

/-- The identities dispatch reads of an aggregate. -/
def ExecutionIdentityAggregate.identity (a : ExecutionIdentityAggregate) : ExecutionIdentity where
  assignmentId := a.assignmentId
  workflowRunId := a.workflowRunId
  approvedPlanRevisionId := a.approvedPlanRevisionId
  taskRunId := a.taskRunId
  attemptId := a.attemptId

/-- An attempt as dispatch reads it. Where `record` is not an identity its
reader raises, and what it would read is left open. -/
structure SeesAttempt (row : AttemptTargetRow) (a : AttemptRow) : Prop where
  taskRunId : a.taskRunId = row.columns.taskRunId
  controlState : a.controlState = row.controlState
  aggregateVersion : a.aggregateVersion = row.aggregateVersion
  attemptOrdinal : a.attemptOrdinal = row.columns.attemptOrdinal.map Int.ofNat
  record : ∀ x ∈ row.columns.record, a.record = x.identity

/-- The columns of an evidence row that dispatch compares. -/
def seenEvidence (r : EvidenceRecordRow) : EvidenceRow where
  evidenceRecordId := r.evidenceRecordId
  namespaceName := r.namespaceName
  securityDomain := r.securityDomain
  platformExecutionIdentity := r.platformExecutionIdentity
  payloadDigest := r.payloadDigest
  canonicalBytes := r.canonicalBytes

/-- The tables dispatch only reads. -/
def Authority.bindings (s : Authority) : Bindings where
  placementDecisions := s.references.placementDecisions
  placementRequests := s.references.placementRequests
  runtimeInstances := s.references.runtimeInstances
  taskRuns k := (s.targets.tasks.lookup k).map (·.columns.workflowRunId)
  workflowRuns k := (s.targets.runs.lookup k).map fun r =>
    ⟨r.columns.assignmentId, r.columns.approvedPlanRevisionId, r.columns.planId,
      r.columns.planVersion⟩
  plans k version := (s.plans.plans.lookup (k, version)).map fun p => ⟨p.planDigest, p.status⟩
  evidenceCutover := s.cutover

/-- What the dispatch transactions see of the store. -/
structure Sees (s : Authority) (n : Store) : Prop where
  commands : n.commands = s.dispatchCommands
  facts : n.facts = s.dispatchFacts
  attempts : ∀ k, Option.Rel SeesAttempt (s.targets.attempts.lookup k) (n.attempts k)
  evidence : n.evidence = s.evidence.rows.map seenEvidence
  outcomes : n.outcomes = s.outcomes
  bindings : n.bindings = s.bindings

/-- Where an operation records the end of an effect, the attempt was not ended
in another state before. -/
def Unended (op : Operation) (n : Store) : Prop :=
  ∀ claim o row a, op.records = some (claim, o) → n.commands.lookup claim.key = some row →
    row.terminalObservationDigest = none → n.attempts claim.command.attemptKey = some a →
    isTerminal a.controlState = true → a.controlState = o.kind.controlState

/-- A dispatch operation, and what it leaves of the store. -/
structure NativeStep (op : Operation) (n : Store) (s s' : Authority) : Prop where
  native : op.isNative = true
  before : Sees s n
  after : Sees s' (op.apply n)
  columns : ∀ k, (s'.targets.attempts.lookup k).map (·.columns)
    = (s.targets.attempts.lookup k).map (·.columns)
  frame : s' = { s with
    targets := { s.targets with attempts := s'.targets.attempts }
    evidence := s'.evidence
    outcomes := s'.outcomes
    dispatchCommands := s'.dispatchCommands
    dispatchFacts := s'.dispatchFacts }

/-- Placements stay once they are made. -/
def References.Extends (r r' : References) : Prop :=
  (∀ k d, r.placementDecisions k = some d → r'.placementDecisions k = some d) ∧
    ∀ k q, r.placementRequests k = some q → r'.placementRequests k = some q

/-- One step of the system: a control command, a dispatch operation, or a
transaction of another component, which writes neither executions nor dispatch
commands. -/
inductive JoinedStep (allowed : Operation → Store → Prop) (s : Authority) : Authority → Prop
  | command (c : Command) : JoinedStep allowed s (c.call s).2
  | native {op : Operation} {n : Store} {s' : Authority} (h : NativeStep op n s s')
      (ok : allowed op n) : JoinedStep allowed s s'
  | other {s' : Authority} (targets : s'.targets = s.targets)
      (commands : s'.dispatchCommands = s.dispatchCommands)
      (references : s.references.Extends s'.references) : JoinedStep allowed s s'

/-! ### Placements along a run -/

/-- Every queued command is for the attempt of its placement. -/
def Authority.Placed (s : Authority) : Prop :=
  ∀ k row, s.dispatchCommands.lookup k = some row → row.payload.key = k ∧
    ∃ d q, s.references.placementDecisions row.payload.placementKey = some d ∧
      s.references.placementRequests (row.payload.scope.key d.requestId) = some q ∧
      q.attemptId = row.payload.attemptId.value

theorem Sees.placed {n : Store} (h : Sees s n) (hs : s.Placed) : n.Placed := by
  intro k row hl
  rw [h.commands] at hl
  rw [h.bindings]
  exact hs k row hl

theorem Authority.Placed.extend (hs : s.Placed) (hc : s'.dispatchCommands = s.dispatchCommands)
    (hr : s.references.Extends s'.references) : s'.Placed := by
  intro k row hl
  rw [hc] at hl
  obtain ⟨hk, d, q, hd, hq, ha⟩ := hs k row hl
  exact ⟨hk, d, q, hr.1 _ _ hd, hr.2 _ _ hq, ha⟩

theorem NativeStep.placed {op : Operation} {n : Store} (h : NativeStep op n s s')
    (hs : s.Placed) : s'.Placed := by
  have hrefs : s'.references = s.references := by rw [h.frame]
  intro k row hl
  rw [← h.after.commands] at hl
  rw [hrefs]
  rcases Operation.commandsFrom h.native k row hl with ⟨row₀, h₀, hp⟩ | ⟨hk, hb⟩
  · rw [h.before.commands] at h₀
    rw [hp]
    exact hs k row₀ h₀
  · have hplaced := placed_of_placementBinding hb
    rw [h.before.bindings] at hplaced
    exact ⟨hk, hplaced⟩

/-- A step of dispatch leaves terminal attempts, if it meets none that was ended
otherwise. -/
theorem NativeStep.keepsTerminal {op : Operation} {n : Store} (h : NativeStep op n s s')
    (hs : s.Placed) (ok : Unended op n) : s.targets.KeepsTerminal s'.targets := by
  -- dispatch writes no run and no task run
  rw [h.frame]
  refine ⟨.refl _, .refl _, ?_⟩
  intro k row hk ht
  have hsees := h.before.attempts k
  rw [hk] at hsees
  rcases ha : n.attempts k with _ | a <;> rw [ha] at hsees <;> cases hsees
  next hrow =>
    -- the attempt keeps its state on the side of dispatch
    have hkeep : ∃ a', (op.apply n).attempts k = some a' ∧ a'.controlState = a.controlState := by
      have set : ∀ {k' : RowKey} {state : AttemptControlState}, (k' = k → a.controlState = state) →
          ∃ a', (n.setAttemptState k' state).attempts k = some a' ∧
            a'.controlState = a.controlState := by
        intro k' state hstate
        by_cases he : k = k'
        · subst he
          simp only [Store.setAttemptState, Function.update_self, ha, Option.map_some]
          exact ⟨_, rfl, (hstate rfl).symm⟩
        · simp only [Store.setAttemptState, Function.update_of_ne he]
          exact ⟨a, ha, rfl⟩
      have hta : isTerminal a.controlState = true := by rwa [hrow.controlState]
      cases Operation.attemptEffect h.native (s := n) with
      | same he => exact ⟨a, by rw [he, ha], rfl⟩
      | permitted he hp =>
        rw [he]
        apply set
        rintro rfl
        obtain ⟨a', ha', hpending⟩ := hp.pending (h.before.placed hs)
        cases ha.symm.trans ha'
        rw [hpending] at hta
        cases hta
      | recorded he hrec hl hd =>
        rw [he]
        apply set
        rintro rfl
        exact ok _ _ _ a hrec hl hd ha hta
    obtain ⟨a', ha', he⟩ := hkeep
    have hsees' := h.after.attempts k
    rw [ha'] at hsees'
    rcases hr : s'.targets.attempts.lookup k with _ | row' <;> rw [hr] at hsees' <;> cases hsees'
    next hrow' => exact ⟨row', rfl, by rw [← hrow'.controlState, he, hrow.controlState]⟩

/-! ### Runs -/

theorem joinedStep_keeps (h : JoinedStep Unended s s') (hs : s.Placed) :
    s'.Placed ∧ s.targets.KeepsTerminal s'.targets := by
  cases h with
  | command c =>
    rcases transaction_cases c.body s with ⟨_, s', hb, he⟩ | ⟨_, -, he⟩ <;> rw [Command.call, he]
    · obtain ⟨hc, hr⟩ := body_dispatch hb
      refine ⟨hs.extend hc ?_, body_keepsTerminal hb⟩
      rw [hr]
      exact ⟨fun _ _ h => h, fun _ _ h => h⟩
    · exact ⟨hs, .refl _⟩
  | native h ok => exact ⟨h.placed hs, h.keepsTerminal hs ok⟩
  | other ht hc hr => exact ⟨hs.extend hc hr, ht ▸ .refl _⟩

/-- **Terminal states are absorbing.** Over any run of control commands,
dispatch operations and other components, in which no observation is recorded
for an attempt that was ended in another state, a terminal run, task run or
attempt keeps its state. -/
theorem terminal_absorbing_of_run (s₀ s s' : Authority) (hempty : s₀.dispatchCommands = ∅)
    (hrun : Relation.ReflTransGen (JoinedStep Unended) s₀ s)
    (hlater : Relation.ReflTransGen (JoinedStep Unended) s s') :
    s.targets.KeepsTerminal s'.targets := by
  have hs₀ : s₀.Placed := by
    intro k row hl
    rw [hempty] at hl
    cases hl
  have hs : s.Placed := by
    clear hlater
    induction hrun with
    | refl => exact hs₀
    | tail _ hstep ih => exact (joinedStep_keeps hstep ih).1
  have hboth : s'.Placed ∧ s.targets.KeepsTerminal s'.targets := by
    clear hrun
    induction hlater with
    | refl => exact ⟨hs, .refl _⟩
    | tail _ hstep ih =>
      obtain ⟨hp, hk⟩ := joinedStep_keeps hstep ih.1
      exact ⟨hp, ih.2.trans hk⟩
  exact hboth.2

/-! ### Dispatch operations that can be run on the store -/

/-- An attempt row as dispatch reads it, with what it reads of a record that is
not an identity. -/
def seenAttempt (unread : ExecutionIdentity) (row : AttemptTargetRow) : AttemptRow where
  taskRunId := row.columns.taskRunId
  controlState := row.controlState
  aggregateVersion := row.aggregateVersion
  attemptOrdinal := row.columns.attemptOrdinal.map Int.ofNat
  record := row.columns.record.elim unread (·.identity)

def Authority.seen (s : Authority) (unread : ExecutionIdentity) : Store where
  commands := s.dispatchCommands
  facts := s.dispatchFacts
  attempts k := (s.targets.attempts.lookup k).map (seenAttempt unread)
  evidence := s.evidence.rows.map seenEvidence
  outcomes := s.outcomes
  bindings := s.bindings

theorem sees_seen (s : Authority) (unread : ExecutionIdentity) : Sees s (s.seen unread) where
  commands := rfl
  facts := rfl
  attempts k := by
    show Option.Rel _ (s.targets.attempts.lookup k) ((s.targets.attempts.lookup k).map _)
    rcases s.targets.attempts.lookup k with _ | row
    · exact .none
    · refine .some ⟨rfl, rfl, rfl, rfl, ?_⟩
      intro x hx
      simp only [seenAttempt, Option.mem_def.mp hx, Option.elim_some]
  evidence := rfl
  outcomes := rfl
  bindings := rfl

/-- The state of an attempt on the side of dispatch. -/
def mergeAttempt (attempts : RowKey → Option AttemptRow) (k : RowKey) (row : AttemptTargetRow) :
    AttemptTargetRow :=
  match attempts k with
  | none => row
  | some a => { row with controlState := a.controlState, aggregateVersion := a.aggregateVersion }

/-- Write the ledger and the states of the attempts back. -/
def Authority.writeBack (s : Authority) (n : Store) : Authority :=
  { s with
    targets := { s.targets with attempts := s.targets.attempts.mapRows (mergeAttempt n.attempts) }
    dispatchCommands := n.commands
    dispatchFacts := n.facts }

/-- Operations that write neither evidence nor outcomes. -/
def isQuiet : Operation → Bool
  | .appendNativeCompletion .. | .others .. => false
  | _ => true

/-- Evidence, outcomes and the tables of others are the same. -/
def SameFacts (n n' : Store) : Prop :=
  n'.evidence = n.evidence ∧ n'.outcomes = n.outcomes ∧ n'.bindings = n.bindings

theorem apply_quiet {op : Operation} (hop : isQuiet op = true) (n : Store) :
    SameFacts n (op.apply n) := by
  have same : SameFacts n n := ⟨rfl, rfl, rfl⟩
  cases op with
  | enqueue c =>
    apply transaction_state same
    intro d s' h
    obtain ⟨-, ⟨_, -, -, -, rfl⟩ | ⟨-, -, -, rfl⟩⟩ := enqueue_ok h <;> exact ⟨rfl, rfl, rfl⟩
  | claimNext w now lease token locked =>
    apply transaction_state same
    intro d s' h
    obtain ⟨-, rfl⟩ | ⟨_, _, _, _, -, -, rfl⟩ := claimNext_ok h <;> exact ⟨rfl, rfl, rfl⟩
  | permitEffect claim name auth now =>
    apply transaction_state same
    intro d s' h
    obtain ⟨_, -, -, -, -, -, rfl⟩ | ⟨_, -, -, rfl⟩ := permitEffect_ok h <;> exact ⟨rfl, rfl, rfl⟩
  | recordKubernetesCorrelation claim name uid =>
    apply transaction_state same
    intro d s' h
    obtain ⟨_, -, -, -, -, ⟨-, -, rfl⟩ | ⟨-, -, -, rfl⟩⟩ := recordKubernetesCorrelation_ok h <;>
      exact ⟨rfl, rfl, rfl⟩
  | recordUncertain claim o =>
    apply transaction_state same
    intro d s' h
    obtain ⟨-, -, _, -, -, -, ⟨-, -, rfl⟩ | ⟨-, -, -, rfl⟩⟩ := recordUncertain_ok h <;>
      exact ⟨rfl, rfl, rfl⟩
  | appendNativeCompletion => cases hop
  | others => cases hop

/-- Writing back the state of an attempt makes it what dispatch has. -/
theorem seesAttempt_merge {unread : ExecutionIdentity} {attempts : RowKey → Option AttemptRow}
    {k : RowKey} {row : AttemptTargetRow} {a : AttemptRow} (ha : attempts k = some a)
    (h : SameIdentity (seenAttempt unread row) a) : SeesAttempt (mergeAttempt attempts k row) a := by
  obtain ⟨h₁, h₂, h₃⟩ := h
  simp only [mergeAttempt, ha]
  refine ⟨h₁, rfl, rfl, h₂, ?_⟩
  intro x hx
  have hx' : row.columns.record = some x := hx
  rw [h₃]
  simp only [seenAttempt, hx', Option.elim_some]

/-- **Dispatch runs on the store.** Every operation that writes no evidence is
a step of it. -/
theorem nativeStep_writeBack {op : Operation} (hop : isQuiet op = true) (s : Authority)
    (unread : ExecutionIdentity) :
    NativeStep op (s.seen unread) s (s.writeBack (op.apply (s.seen unread))) := by
  have hnative : op.isNative = true := by cases op <;> first | rfl | cases hop
  obtain ⟨he, ho, hb⟩ := apply_quiet hop (s.seen unread)
  refine ⟨hnative, sees_seen s unread, ⟨rfl, rfl, ?_, he, ho, hb⟩, ?_, rfl⟩
  · intro k
    have hk : Option.Rel SameIdentity ((s.targets.attempts.lookup k).map (seenAttempt unread))
        ((op.apply (s.seen unread)).attempts k) :=
      (Operation.attemptEffect (s := s.seen unread) hnative).sameIdentity k
    simp only [Authority.writeBack, Table.lookup_mapRows]
    rcases hl : s.targets.attempts.lookup k with _ | row <;>
      rcases ha : (op.apply (s.seen unread)).attempts k with _ | a <;> rw [hl, ha] at hk <;> cases hk
    · exact .none
    next h => exact .some (seesAttempt_merge ha h)
  · intro k
    simp only [Authority.writeBack, Table.lookup_mapRows, Option.map_map]
    congr 1
    funext row
    simp only [Function.comp_apply, mergeAttempt]
    split <;> rfl

end Joined

section Samples

open AgentPlatform.Sample Sample

/-- The attempt of the dispatch sample, pending, with its run and its approved
plan. -/
def pendingStore : Authority :=
  { emptyStore with
    plans := ⟨AList.singleton (scope.key "plan-1", 1)
      { plan with status := .approved, planDigest := (digest 'a').1 }, [], []⟩
    targets :=
      { runs := AList.singleton (scope.key "workflow-1") ⟨.running, 1,
          { (runRow .running).columns with
            approvedPlanRevisionId := "plan-1:1"
            planId := some "plan-1" }⟩
        tasks := AList.singleton (scope.key "task-1") ⟨.running, 1, "workflow-1", none, .null⟩
        attempts := AList.singleton (scope.key "attempt-1")
          ⟨.pending, 1, "task-1", none, (digest 'a').1, some 1,
            some (aggregate (text "workflow-1") (text "task-1") (text "attempt-1"))⟩
        bindings := ∅ }
    references := { references with
      placementDecisions := bindings.placementDecisions
      placementRequests := bindings.placementRequests
      runtimeInstances := bindings.runtimeInstances } }

def queuedNative : Authority :=
  pendingStore.writeBack
    (((pendingStore.seen identity).setCommand command.key (.queued command)).addFact command.key
      .queued (queuedRecord command))

/-- A dispatch operation on the store. -/
def dispatched (op : Operation) (s : Authority) : Authority :=
  s.writeBack (op.apply (s.seen identity))

def startedNative : Authority :=
  dispatched (.permitEffect claim "task-name" (fun _ => .ok true) (instant 3000000))
    (dispatched (.claimNext "worker-1" (instant 2000000) 30 (digest 'c') fun _ => false)
      queuedNative)

/-- The running attempt is failed by an operator. -/
def endingCommand : Command :=
  .persist
    { scope := scope
      commandType := "FAIL"
      idempotencyKey := "1"
      payloadDigest := (digest 'a').1
      request :=
        { request "intervention-1" "POLICY" with
          target := .attempt "attempt-1"
          expectedTargetVersion := 2 }
      transition :=
        { transitionId := "transition-1"
          interventionId := "intervention-1"
          ordinal := 2
          fromState := some .requested
          toState := .rejected
          actorId := "actor-1"
          authorityBasis := "owner"
          reasonCategory := "POLICY"
          transitionedAt := instant 0 }
      controlCommandId := "command-1"
      targetState := "FAILED"
      commandRecord := []
      retainUntil := instant 0 } true

def endedStore : Authority := (endingCommand.call startedNative).2

def attemptState (s : Authority) : Option AttemptControlState :=
  (s.targets.attempts.lookup (scope.key "attempt-1")).map (·.controlState)

theorem queuedNative_step : NativeStep (.enqueue command) (pendingStore.seen identity) pendingStore
    queuedNative := by
  have hq := enqueue_new (s := pendingStore.seen identity) (c := command) (by decide +kernel)
    (by decide +kernel) (by decide +kernel) rfl
  have hstep : NativeStep (.enqueue command) (pendingStore.seen identity) pendingStore
      (dispatched (.enqueue command) pendingStore) := nativeStep_writeBack rfl _ _
  rw [dispatched] at hstep
  rw [Operation.apply, transaction_ok hq] at hstep
  exact hstep

theorem endedStore_state : attemptState endedStore = some .failed := by decide +kernel

theorem dispatched_step {allowed : Operation → Store → Prop} {op : Operation}
    (hop : isQuiet op = true) (s : Authority) (ok : allowed op (s.seen identity)) :
    JoinedStep allowed s (dispatched op s) :=
  .native (nativeStep_writeBack hop s identity) ok

theorem endedStore_run {allowed : Operation → Store → Prop}
    (ok : ∀ op n, op.records = none → allowed op n) :
    Relation.ReflTransGen (JoinedStep allowed) pendingStore endedStore := by
  refine .tail (.tail (.tail (.tail .refl (.native queuedNative_step (ok _ _ rfl)))
    (dispatched_step rfl _ (ok _ _ rfl))) (dispatched_step rfl _ (ok _ _ rfl))) (.command _)

/-- Hypotheses of the law are met by the life of an attempt that an operator
ends. -/
theorem terminal_absorbing_of_ended :
    (∃ row, endedStore.targets.attempts.lookup (scope.key "attempt-1") = some row ∧
      row.controlState = .failed) ∧
    endedStore.targets.KeepsTerminal (endingCommand.call endedStore).2.targets := by
  refine ⟨Option.map_eq_some_iff.mp endedStore_state, ?_⟩
  have hok : ∀ op n, op.records = none → Unended op n := by
    intro op n hnone claim o row a hrec
    rw [hnone] at hrec
    cases hrec
  exact terminal_absorbing_of_run pendingStore endedStore _ rfl (endedStore_run hok)
    (.tail .refl (.command _))

/-- **An ended attempt is overwritten.** The uncertain end of its effect moves
the failed attempt to `UNKNOWN`. -/
theorem ended_attempt_overwritten :
    ¬ ∀ s₀ s s' : Authority, s₀.dispatchCommands = ∅ →
      Relation.ReflTransGen (JoinedStep fun _ _ => True) s₀ s →
      Relation.ReflTransGen (JoinedStep fun _ _ => True) s s' →
      s.targets.KeepsTerminal s'.targets := by
  intro h
  have hkeep := (h pendingStore endedStore (dispatched (.recordUncertain claim unknownTask)
    endedStore) rfl (endedStore_run fun _ _ _ => trivial)
    (.tail .refl (dispatched_step rfl _ trivial))).attempts
  obtain ⟨row, hrow, hs⟩ := Option.map_eq_some_iff.mp endedStore_state
  obtain ⟨row', hrow', hs'⟩ := hkeep _ row hrow (by rw [hs]; rfl)
  have hunknown : attemptState (dispatched (.recordUncertain claim unknownTask) endedStore)
      = some .unknown := by decide +kernel
  rw [attemptState, hrow', Option.map_some, hs', hs] at hunknown
  cases hunknown

end Samples

end Control

end AgentPlatform
