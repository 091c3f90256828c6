/-
AgentPlatform/Dispatch/Bundle.lean

The terminal bundle of a command: its row, the control state of its attempt,
one evidence row and one outcome row.

A run consists of repository calls, the operator's `complete` and
`record_uncertain`, each with a claim that was handed out before; a crash is a
checkpoint that raises. `Footprint` says once what such a step does to the tables;
the invariant `BundleInv` follows from it, and with `complete_again` the main result
`one_terminal_bundle`.

That a first completion really inserts its rows needs no assumption about SHA-256:
evidence found under the same id has the same canonical bytes, which name the
attempt. Collision freedom is used where a completion meets a terminal row.
-/
import AgentPlatform.Dispatch.Endings
import AgentPlatform.Dispatch.Replay

namespace AgentPlatform

open Py

section Bundle

variable [Unicodedata]

/-! ### Rows about an attempt -/

/-- The attempt an evidence row is about. -/
def EvidenceRow.subject (r : EvidenceRow) : RowKey :=
  ⟨r.namespaceName, r.securityDomain, r.platformExecutionIdentity⟩

/-- The attempt an outcome row is about. -/
def OutcomeRow.subject (r : OutcomeRow) : Option RowKey :=
  match r.record.get? "attempt_id" with
  | some (.str id) => some ⟨r.key.namespaceName, r.key.securityDomain, id⟩
  | _ => none

def Store.evidenceFor (s : Store) (c : NativeDispatchCommand) : List EvidenceRow :=
  s.evidence.filter (·.subject = c.attemptKey)

def Store.outcomesFor (s : Store) (c : NativeDispatchCommand) : List OutcomeRow :=
  s.outcomes.filter (·.subject = some c.attemptKey)

/-- `SUCCEEDED` or `FAILED`. -/
def NativeDispatchState.isCertain : NativeDispatchState → Bool
  | succeeded | failed => true
  | _ => false

/-- The control state of the attempt of a terminal row. -/
def NativeDispatchState.controlState (x : NativeDispatchState) : Option AttemptControlState :=
  x.terminalKind.map (·.controlState)

omit [Unicodedata] in
theorem NativeTerminalKind.state_isCertain (k : NativeTerminalKind) :
    k.state.isCertain = !k.isUncertain := by
  cases k <;> rfl

/-! ### Runs -/

/-- A store and the claims handed out so far. -/
structure Handed where
  store : Store
  claims : List NativeDispatchClaim

/-- The steps of a run; `T` holds the canonical texts of all observations. -/
inductive BundleStep (T : Set String) : Handed → Handed → Prop
  | enqueue (σ : Handed) (c : NativeDispatchCommand) :
      BundleStep T σ { σ with store := (transaction (AgentPlatform.enqueue c) σ.store).2 }
  | claimNext (σ : Handed) {workerId : String} {now : Datetime} {leaseSeconds : Int}
      {token : Digest} {locked : RowKey → Bool} {r : Option NativeDispatchClaim} {s' : Store}
      (h : AgentPlatform.claimNext workerId now leaseSeconds token locked σ.store = .ok (r, s')) :
      BundleStep T σ ⟨s', r.toList ++ σ.claims⟩
  | resume (σ : Handed) {workerId : String} {locked : RowKey → Bool} {claim : NativeDispatchClaim}
      (h : resumeEffectStarted workerId locked σ.store = .ok (some claim)) :
      BundleStep T σ ⟨σ.store, claim :: σ.claims⟩
  | permitEffect (σ : Handed) {claim : NativeDispatchClaim} (hm : claim ∈ σ.claims)
      (taskName : String) (authorizationCheck : NativeDispatchCommand → Except Failure Bool)
      (now : Datetime) :
      BundleStep T σ { σ with store :=
        (transaction (AgentPlatform.permitEffect claim taskName authorizationCheck now) σ.store).2 }
  | recordKubernetesCorrelation (σ : Handed) {claim : NativeDispatchClaim} (hm : claim ∈ σ.claims)
      (taskName taskUid : String) :
      BundleStep T σ { σ with store :=
        (transaction (AgentPlatform.recordKubernetesCorrelation claim taskName taskUid) σ.store).2 }
  | recordUncertain (σ : Handed) {claim : NativeDispatchClaim} (hm : claim ∈ σ.claims)
      (o : NativeTerminalObservation) (hT : canonicalBytes o.payload ∈ T) :
      BundleStep T σ { σ with store :=
        (transaction (AgentPlatform.recordUncertain claim o) σ.store).2 }
  /-- The checkpoint decides at which point, if any, the completion is lost. -/
  | complete (σ : Handed) (checkpoint : String → Except Failure Unit) {claim : NativeDispatchClaim}
      (hm : claim ∈ σ.claims) (o : NativeTerminalObservation) (hT : canonicalBytes o.payload ∈ T) :
      BundleStep T σ { σ with store :=
        (transaction (AgentPlatform.complete checkpoint claim o) σ.store).2 }
  /-- Other components write bindings, and attempts that are not dispatched. -/
  | others (σ : Handed) (attempts : RowKey → Option AttemptRow) (bindings : Bindings)
      (ha : ∀ k row, σ.store.commands.lookup k = some row →
        attempts row.payload.attemptKey = σ.store.attempts row.payload.attemptKey)
      (hb : bindings.evidenceCutover = σ.store.bindings.evidenceCutover) :
      BundleStep T σ { σ with store := { σ.store with attempts, bindings } }

/-! ### What a step writes -/

/-- The evidence row a completion of `c` by `o` inserts. -/
structure EvidenceWritten (c : NativeDispatchCommand) (o : NativeTerminalObservation)
    (e : EvidenceRow) : Prop where
  id : e.evidenceRecordId = evidenceId c o
  subject : e.subject = c.attemptKey
  canonical : ∃ item : ExecutionEvidenceRecord, e.canonicalBytes = item.canonicalBytes ∧
    e.subject = ⟨item.namespaceName, item.securityDomain, item.platformExecutionIdentity⟩

/-- The outcome row a completion of `c` by `o` inserts. -/
structure OutcomeWritten (c : NativeDispatchCommand) (o : NativeTerminalObservation)
    (r : OutcomeRow) : Prop where
  key : r.key = c.scope.key (outcomeId c o)
  subject : r.subject = some c.attemptKey

/-- What a step does to rows, attempts, evidence and outcomes. -/
inductive Footprint (s s' : Store) : Prop
  | quiet (hc : s'.commands = s.commands) (he : s'.evidence = s.evidence)
      (ho : s'.outcomes = s.outcomes)
      (ha : ∀ k row, s.commands.lookup k = some row →
        s'.attempts row.payload.attemptKey = s.attempts row.payload.attemptKey)
  | queue {c : NativeDispatchCommand} (hn : s.commands.lookup c.key = none)
      (hfree : ∀ k row, s.commands.lookup k = some row → row.payload.attemptKey ≠ c.attemptKey)
      (hc : s'.commands = s.commands.insert c.key (.queued c)) (he : s'.evidence = s.evidence)
      (ho : s'.outcomes = s.outcomes) (ha : s'.attempts = s.attempts)
  | move {k : RowKey} {row : CommandRow} (row' : CommandRow) (hl : s.commands.lookup k = some row)
      (hp : row'.payload = row.payload) (hs : row.state.isCertain = false)
      (hs' : row'.state.isCertain = false) (hc : s'.commands = s.commands.insert k row')
      (he : s'.evidence = s.evidence) (ho : s'.outcomes = s.outcomes)
      (ha : ∀ k', k' ≠ row.payload.attemptKey → s'.attempts k' = s.attempts k')
  | complete {k : RowKey} {row : CommandRow} {o : NativeTerminalObservation} {e : EvidenceRow}
      {r : OutcomeRow} {a : AttemptRow} (hl : s.commands.lookup k = some row)
      (hs : row.state.isCertain = false) (hk : o.kind.isUncertain = false)
      (hc : s'.commands = s.commands.insert k (row.terminated o))
      (hew : EvidenceWritten row.payload o e) (he : s'.evidence = s.evidence ++ [e])
      (how : OutcomeWritten row.payload o r) (ho : s'.outcomes = s.outcomes ++ [r])
      (hatt : s'.attempts row.payload.attemptKey = some a)
      (hcs : a.controlState = o.kind.controlState)
      (ha : ∀ k', k' ≠ row.payload.attemptKey → s'.attempts k' = s.attempts k')

theorem Footprint.same (s : Store) : Footprint s s :=
  .quiet rfl rfl rfl fun _ _ _ => rfl

/-! ### The invariant -/

/-- Evidence, outcome and attempt of one row. -/
def Bundled (s : Store) (row : CommandRow) : Prop :=
  if row.state.isCertain then
    ∃ o e r a, row.terminalObservationDigest = some o.digest ∧ o.kind.state = row.state ∧
      s.evidenceFor row.payload = [e] ∧ EvidenceWritten row.payload o e ∧
      s.outcomesFor row.payload = [r] ∧ OutcomeWritten row.payload o r ∧
      s.attempts row.payload.attemptKey = some a ∧ a.controlState = o.kind.controlState
  else s.evidenceFor row.payload = [] ∧ s.outcomesFor row.payload = []

/-- Each row of the two tables is that of a stored command, and outcomes come
with their evidence. -/
structure Owned (s : Store) : Prop where
  evidence : ∀ e ∈ s.evidence, ∃ k row o, s.commands.lookup k = some row ∧
    EvidenceWritten row.payload o e
  outcomes : ∀ r ∈ s.outcomes, ∃ k row o, s.commands.lookup k = some row ∧
    OutcomeWritten row.payload o r ∧ ∃ e ∈ s.evidence, EvidenceWritten row.payload o e

/-- No two commands are for one attempt. -/
def Distinct (s : Store) : Prop :=
  ∀ k k' row row', s.commands.lookup k = some row → s.commands.lookup k' = some row' →
    row.payload.attemptKey = row'.payload.attemptKey → k = k'

structure BundleInv (T : Set String) (σ : Handed) : Prop where
  ledger : Inv T σ.store
  claims : ∀ claim ∈ σ.claims, ∃ row, σ.store.commands.lookup claim.key = some row ∧
    row.payload = claim.command
  distinct : Distinct σ.store
  owned : Owned σ.store
  bundled : ∀ k row, σ.store.commands.lookup k = some row → Bundled σ.store row

/-! ### Footprints keep the invariant -/

section Footprint

variable {s s' : Store}

/-- A stored command stays stored, also when its row is written. -/
theorem Footprint.payload (h : Footprint s s') {k : RowKey} {row : CommandRow}
    (hl : s.commands.lookup k = some row) :
    ∃ row', s'.commands.lookup k = some row' ∧ row'.payload = row.payload := by
  -- the three writes have one shape: one key, and the payload that was there
  have write : ∀ k₀ row₀, s'.commands = s.commands.insert k₀ row₀ →
      (k = k₀ → row₀.payload = row.payload) →
      ∃ row', s'.commands.lookup k = some row' ∧ row'.payload = row.payload := by
    intro k₀ row₀ hc hp
    rw [hc]
    by_cases hk : k = k₀
    · exact ⟨row₀, by rw [hk, AList.lookup_insert], hp hk⟩
    · exact ⟨row, by rw [AList.lookup_insert_ne hk, hl], rfl⟩
  cases h with
  | quiet hc he ho ha => exact ⟨row, by rw [hc, hl], rfl⟩
  | queue hn hfree hc he ho ha =>
    refine write _ _ hc fun hk => ?_
    rw [hk, hn] at hl
    cases hl
  | move row₁ hl₀ hp hs hs' hc he ho ha =>
    refine write _ _ hc fun hk => ?_
    rw [hk, hl₀] at hl
    cases hl
    exact hp
  | complete hl₀ hs hk hc hew he how ho hatt hcs ha =>
    refine write _ _ hc fun hk => ?_
    rw [hk, hl₀] at hl
    cases hl
    rfl

theorem Footprint.distinct (h : Footprint s s') (hd : Distinct s) : Distinct s' := by
  -- a row of `s'` is the queued one or has the payload of a row of `s`
  have old : ∀ k₀ row₀ row₁, s.commands.lookup k₀ = some row₀ → row₁.payload = row₀.payload →
      s'.commands = s.commands.insert k₀ row₁ → Distinct s' := by
    intro k₀ row₀ row₁ hl₀ hp hc k k' row row' hl hl' heq
    rw [hc] at hl hl'
    have back : ∀ {k row}, (s.commands.insert k₀ row₁).lookup k = some row →
        ∃ row₂, s.commands.lookup k = some row₂ ∧ row.payload = row₂.payload := by
      intro k row hl
      rcases Table.lookup_insert_cases hl with ⟨rfl, rfl⟩ | ⟨-, hl⟩
      · exact ⟨row₀, hl₀, hp⟩
      · exact ⟨row, hl, rfl⟩
    obtain ⟨row₂, hl₂, hp₂⟩ := back hl
    obtain ⟨row₂', hl₂', hp₂'⟩ := back hl'
    rw [hp₂, hp₂'] at heq
    exact hd _ _ _ _ hl₂ hl₂' heq
  cases h with
  | quiet hc he ho ha =>
    intro k k' row row' hl hl' heq
    rw [hc] at hl hl'
    exact hd k k' row row' hl hl' heq
  | @queue c hn hfree hc he ho ha =>
    intro k k' row row' hl hl' heq
    rw [hc] at hl hl'
    rcases Table.lookup_insert_cases hl with ⟨rfl, rfl⟩ | ⟨-, hl⟩ <;>
      rcases Table.lookup_insert_cases hl' with ⟨rfl, rfl⟩ | ⟨-, hl'⟩
    · rfl
    · exact absurd heq.symm (hfree _ _ hl')
    · exact absurd heq (hfree _ _ hl)
    · exact hd _ _ _ _ hl hl' heq
  | move row₁ hl₀ hp hs hs' hc he ho ha => exact old _ _ _ hl₀ hp hc
  | complete hl₀ hs hk hc hew he how ho hatt hcs ha =>
    exact old _ _ (CommandRow.terminated _ _) hl₀ rfl hc

theorem Footprint.owned (h : Footprint s s') (ho : Owned s) : Owned s' := by
  -- owners are carried over, so old rows of the two tables keep theirs
  have evidence : ∀ e ∈ s.evidence, ∃ k row o, s'.commands.lookup k = some row ∧
      EvidenceWritten row.payload o e := by
    intro e he
    obtain ⟨k, row, o, hl, hw⟩ := ho.evidence e he
    obtain ⟨row', hl', hp⟩ := h.payload hl
    exact ⟨k, row', o, hl', by rwa [hp]⟩
  have outcomes : ∀ r ∈ s.outcomes, ∃ k row o, s'.commands.lookup k = some row ∧
      OutcomeWritten row.payload o r ∧ ∃ e ∈ s.evidence, EvidenceWritten row.payload o e := by
    intro r hr
    obtain ⟨k, row, o, hl, hw, hpair⟩ := ho.outcomes r hr
    obtain ⟨row', hl', hp⟩ := h.payload hl
    exact ⟨k, row', o, hl', by rwa [hp], by rwa [hp]⟩
  have unchanged : s'.evidence = s.evidence → s'.outcomes = s.outcomes → Owned s' := by
    intro he ho'
    exact ⟨by rwa [he], by rwa [ho', he]⟩
  cases h with
  | quiet hc he ho' ha => exact unchanged he ho'
  | queue hn hfree hc he ho' ha => exact unchanged he ho'
  | move row₁ hl₀ hp hs hs' hc he ho' ha => exact unchanged he ho'
  | @complete k row o e r a hl₀ hs hk hc hew he how ho' hatt hcs ha =>
    have hl' : s'.commands.lookup k = some (row.terminated o) := by rw [hc, AList.lookup_insert]
    refine ⟨fun e' he' => ?_, fun r' hr' => ?_⟩
    · rw [he, List.mem_append, List.mem_singleton] at he'
      rcases he' with he' | rfl
      · exact evidence e' he'
      · exact ⟨k, row.terminated o, o, hl', hew⟩
    · rw [ho', List.mem_append, List.mem_singleton] at hr'
      rw [he]
      rcases hr' with hr' | rfl
      · obtain ⟨k', row', o', hl₁, hw, e', he', hw'⟩ := outcomes r' hr'
        exact ⟨k', row', o', hl₁, hw, e', List.mem_append_left _ he', hw'⟩
      · exact ⟨k, row.terminated o, o, hl', how, e,
          List.mem_append_right _ (List.mem_singleton_self e), hew⟩

/-- A row whose evidence, outcomes and attempt are the same stays bundled. -/
theorem Bundled.congr {row : CommandRow} (h : Bundled s row)
    (he : s'.evidenceFor row.payload = s.evidenceFor row.payload)
    (ho : s'.outcomesFor row.payload = s.outcomesFor row.payload)
    (ha : s'.attempts row.payload.attemptKey = s.attempts row.payload.attemptKey) :
    Bundled s' row := by
  unfold Bundled at h ⊢
  rw [he, ho, ha]
  exact h

theorem evidenceFor_append {e : EvidenceRow} (h : s'.evidence = s.evidence ++ [e])
    (c : NativeDispatchCommand) :
    s'.evidenceFor c = s.evidenceFor c ++ if e.subject = c.attemptKey then [e] else [] := by
  rw [Store.evidenceFor, h, List.filter_append]
  by_cases hk : e.subject = c.attemptKey <;> simp [Store.evidenceFor, hk]

theorem outcomesFor_append {r : OutcomeRow} (h : s'.outcomes = s.outcomes ++ [r])
    (c : NativeDispatchCommand) :
    s'.outcomesFor c = s.outcomesFor c ++ if r.subject = some c.attemptKey then [r] else [] := by
  rw [Store.outcomesFor, h, List.filter_append]
  by_cases hk : r.subject = some c.attemptKey <;> simp [Store.outcomesFor, hk]

/-- An attempt that no stored command is for has no evidence and no outcome. -/
theorem Owned.none_for (h : Owned s) {c : NativeDispatchCommand}
    (hfree : ∀ k row, s.commands.lookup k = some row → row.payload.attemptKey ≠ c.attemptKey) :
    s.evidenceFor c = [] ∧ s.outcomesFor c = [] := by
  refine ⟨List.filter_eq_nil_iff.mpr fun e he hs => ?_,
    List.filter_eq_nil_iff.mpr fun r hr hs => ?_⟩
  · obtain ⟨k, row, o, hl, hw⟩ := h.evidence e he
    simp only [decide_eq_true_eq] at hs
    exact hfree k row hl (hw.subject ▸ hs)
  · obtain ⟨k, row, o, hl, hw, -⟩ := h.outcomes r hr
    simp only [decide_eq_true_eq, hw.subject, Option.some.injEq] at hs
    exact hfree k row hl hs

theorem Footprint.bundled (h : Footprint s s') (hd : Distinct s) (ho : Owned s)
    (hb : ∀ k row, s.commands.lookup k = some row → Bundled s row) :
    ∀ k row, s'.commands.lookup k = some row → Bundled s' row := by
  -- evidence and outcomes of a command when their tables stay as they are
  have evidence : s'.evidence = s.evidence → ∀ c, s'.evidenceFor c = s.evidenceFor c :=
    fun he c => by rw [Store.evidenceFor, he]; rfl
  have outcomes : s'.outcomes = s.outcomes → ∀ c, s'.outcomesFor c = s.outcomesFor c :=
    fun he c => by rw [Store.outcomesFor, he]; rfl
  intro k row hl
  cases h with
  | quiet hc he ho' ha =>
    rw [hc] at hl
    exact (hb k row hl).congr (evidence he _) (outcomes ho' _) (ha k row hl)
  | @queue c hn hfree hc he ho' ha =>
    rw [hc] at hl
    rcases Table.lookup_insert_cases hl with ⟨rfl, rfl⟩ | ⟨-, hl⟩
    · obtain ⟨h₁, h₂⟩ := ho.none_for hfree
      exact ⟨(evidence he c).trans h₁, (outcomes ho' c).trans h₂⟩
    · exact (hb k row hl).congr (evidence he _) (outcomes ho' _) (by rw [ha])
  | @move k₀ row₀ row₁ hl₀ hp hs hs' hc he ho' ha =>
    rw [hc] at hl
    rcases Table.lookup_insert_cases hl with ⟨rfl, rfl⟩ | ⟨hk, hl⟩
    · have hb₀ := hb _ _ hl₀
      rw [Bundled, if_neg (by simp [hs])] at hb₀
      rw [Bundled, if_neg (by simp [hs']), evidence he, outcomes ho', hp]
      exact hb₀
    · refine (hb k row hl).congr (evidence he _) (outcomes ho' _) (ha _ fun heq => ?_)
      exact hk (hd _ _ _ _ hl hl₀ heq)
  | @complete k₀ row₀ o e r a hl₀ hs hku hc hew he how ho' hatt hcs ha =>
    rw [hc] at hl
    rcases Table.lookup_insert_cases hl with ⟨rfl, rfl⟩ | ⟨hk, hl⟩
    · have hb₀ := hb _ _ hl₀
      rw [Bundled, if_neg (by simp [hs])] at hb₀
      have hcert : (row₀.terminated o).state.isCertain = true := by
        rw [show (row₀.terminated o).state = o.kind.state from rfl, o.kind.state_isCertain, hku]
        rfl
      rw [Bundled, if_pos hcert]
      refine ⟨o, e, r, a, rfl, rfl, ?_, hew, ?_, how, hatt, hcs⟩
      · rw [evidenceFor_append he, show (row₀.terminated o).payload = row₀.payload from rfl,
          hb₀.1, if_pos hew.subject]
        rfl
      · rw [outcomesFor_append ho', show (row₀.terminated o).payload = row₀.payload from rfl,
          hb₀.2, if_pos how.subject]
        rfl
    · -- the new rows are about another attempt
      have hne : row.payload.attemptKey ≠ row₀.payload.attemptKey :=
        fun heq => hk (hd _ _ _ _ hl hl₀ heq)
      refine (hb k row hl).congr ?_ ?_ (ha _ hne)
      · rw [evidenceFor_append he, if_neg fun h => hne (h.symm.trans hew.subject),
          List.append_nil]
      · rw [outcomesFor_append ho', if_neg fun h => hne ?_, List.append_nil]
        exact Option.some.inj (h.symm.trans how.subject)

end Footprint

/-! ### Footprints of the operations -/

section Operations

variable {s s' : Store}

theorem enqueue_footprint {c : NativeDispatchCommand} {d : AppendDisposition}
    (h : enqueue c s = .ok (d, s')) : Footprint s s' := by
  obtain ⟨-, ⟨existing, -, -, -, rfl⟩ | ⟨hl, hi, -, rfl⟩⟩ := enqueue_ok h
  · exact .same _
  · have hfree : s.commands.anyRow (fun _ row => row.payload.attemptKey = c.attemptKey) = false := by
      simp only [Store.insertable, Bool.and_eq_true, Bool.not_eq_true'] at hi
      exact hi.2
    refine .queue hl (fun k row hl' => ?_) rfl rfl rfl rfl
    simpa using Table.anyRow_eq_false.mp hfree k row hl'

theorem claimNext_footprint {workerId : String} {now : Datetime} {leaseSeconds : Int}
    {token : Digest} {locked : RowKey → Bool} {r : Option NativeDispatchClaim}
    (h : claimNext workerId now leaseSeconds token locked s = .ok (r, s')) : Footprint s s' := by
  rcases claimNext_ok h with ⟨-, rfl⟩ | ⟨k, row, lease, claim, hc, -, rfl⟩
  · exact .same _
  · refine .move (row.claimedBy token workerId lease) hc.found rfl ?_ rfl rfl rfl rfl
      fun _ _ => rfl
    rcases claimable_state hc.claimable with e | e <;> rw [e] <;> rfl

/-- Setting the state of one attempt leaves the others alone. -/
theorem setAttemptState_of_ne (k k' : RowKey) (x : AttemptControlState) (h : k' ≠ k) :
    (s.setAttemptState k x).attempts k' = s.attempts k' :=
  Function.update_of_ne h _ _

theorem permitEffect_footprint {claim : NativeDispatchClaim} {taskName : String}
    {authorizationCheck : NativeDispatchCommand → Except Failure Bool} {now : Datetime}
    {d : AppendDisposition} {row : CommandRow} (hl : s.commands.lookup claim.key = some row)
    (hp : row.payload = claim.command)
    (h : permitEffect claim taskName authorizationCheck now s = .ok (d, s')) :
    Footprint s s' := by
  rcases permitEffect_ok h with ⟨-, -, -, -, -, -, rfl⟩ | ⟨row', hperm, -, rfl⟩
  · exact .same _
  · have hfound := hperm.found
    rw [hl] at hfound
    cases hfound
    refine .move (row.started taskName now) hl rfl ?_ rfl rfl rfl rfl fun k' hk => ?_
    · rw [hperm.claimed]
      rfl
    · rw [hp] at hk
      exact setAttemptState_of_ne _ _ _ hk

theorem recordKubernetesCorrelation_footprint {claim : NativeDispatchClaim}
    {taskName taskUid : String} {d : AppendDisposition}
    (h : recordKubernetesCorrelation claim taskName taskUid s = .ok (d, s')) :
    Footprint s s' := by
  obtain ⟨row, hl, -, hs, -, ⟨-, -, rfl⟩ | ⟨-, -, -, rfl⟩⟩ := recordKubernetesCorrelation_ok h
  · exact .same _
  · have hc : row.state.isCertain = false := by rw [hs]; rfl
    exact .move { row with kubernetesTaskUid := some taskUid } hl rfl hc hc rfl rfl rfl
      fun _ _ => rfl

theorem recordUncertain_footprint {claim : NativeDispatchClaim} {o : NativeTerminalObservation}
    {d : AppendDisposition} {row : CommandRow} (hl : s.commands.lookup claim.key = some row)
    (hp : row.payload = claim.command) (h : recordUncertain claim o s = .ok (d, s')) :
    Footprint s s' := by
  obtain ⟨hk, -, row', hl', -, -, ⟨-, -, rfl⟩ | ⟨-, hs, -, rfl⟩⟩ := recordUncertain_ok h
  · exact .same _
  · rw [hl] at hl'
    cases hl'
    refine .move (row.terminated o) hl rfl (by rw [hs]; rfl) ?_ rfl rfl rfl
      fun k' hk' => ?_
    · rw [show (row.terminated o).state = o.kind.state from rfl, o.kind.state_isCertain, hk]
      rfl
    · rw [hp] at hk'
      exact setAttemptState_of_ne _ _ _ hk'

/-- The evidence item of a completion is stored under the completion's id and is
about the command's attempt. -/
theorem evidenceRow_written {c : NativeDispatchCommand} {o : NativeTerminalObservation}
    {attempt : AttemptRow} {item : ExecutionEvidenceRecord}
    (hev : ExecutionEvidenceRecord.fromAllowlisted (completionEvidence c o attempt) = .ok item)
    (hm : evidenceMatches c.scope attempt.record item = true)
    (hid : c.attemptId.value = attempt.record.attemptId.value) :
    EvidenceWritten c o (evidenceRow c.scope item) ∧
      (⟨item.namespaceName, item.securityDomain, item.platformExecutionIdentity⟩ : RowKey)
        = c.attemptKey := by
  have hi : item.evidenceRecordId = evidenceId c o := by
    obtain ⟨n, k, -, rfl⟩ := ExecutionEvidenceRecord.fromAllowlisted_eq_ok.mp hev
    exact Evidence.nfc_harmless (evidenceId_harmless c o)
  simp only [evidenceMatches, Bool.and_eq_true, decide_eq_true_eq] at hm
  obtain ⟨⟨⟨⟨hns, hsd⟩, -⟩, -⟩, hpe⟩ := hm
  refine ⟨⟨hi, ?_, item, rfl, ?_⟩, ?_⟩
  · rw [EvidenceRow.subject, evidenceRow, hpe, ← hid]
    rfl
  · rw [EvidenceRow.subject, evidenceRow, hns, hsd]
  · rw [hns, hsd, hpe, ← hid]
    rfl

theorem suffix_of_outcomeId {c c' : NativeDispatchCommand} {o o' : NativeTerminalObservation}
    (h : outcomeId c o = outcomeId c' o') : evidenceId c o = evidenceId c' o' := by
  have hs : completionSuffix c o = completionSuffix c' o' := by
    have := congrArg String.toList h
    simp only [outcomeId, String.toList_append, List.append_cancel_left_eq] at this
    exact String.ext this
  rw [evidenceId, evidenceId, hs]

/-- A completion that finds no evidence for the attempt inserts its own. -/
theorem appendEvidence_new {c : NativeDispatchCommand} {o : NativeTerminalObservation}
    {item : ExecutionEvidenceRecord} {b : Bool} (ho : Owned s) (hn : s.evidenceFor c = [])
    (hw : EvidenceWritten c o (evidenceRow c.scope item))
    (hsub : (⟨item.namespaceName, item.securityDomain, item.platformExecutionIdentity⟩ : RowKey)
      = c.attemptKey)
    {s₁ : Store} (he : s₁.evidence = s.evidence)
    (h : appendEvidence c.scope item s₁ = .ok (b, s')) :
    (∀ r ∈ s.evidence, r.evidenceRecordId ≠ evidenceId c o) ∧
      s' = { s₁ with evidence := s.evidence ++ [evidenceRow c.scope item] } := by
  rcases appendEvidence_ok h with ⟨hnew, -, rfl⟩ | ⟨r, hr, -, hbytes, -, -⟩
  · rw [he] at hnew ⊢
    exact ⟨fun r hr => hw.id ▸ hnew r hr, rfl⟩
  · -- the stored row would name the same attempt
    rw [he] at hr
    obtain ⟨k, row, o', -, hw'⟩ := ho.evidence r hr
    obtain ⟨item', hb, hs'⟩ := hw'.canonical
    obtain ⟨h₁, h₂, h₃⟩ := ExecutionEvidenceRecord.subject_of_canonical (hb.symm.trans hbytes)
    have hmem : r ∈ s.evidenceFor c := by
      refine List.mem_filter.mpr ⟨hr, ?_⟩
      rw [decide_eq_true_eq, hs', h₁, h₂, h₃, hsub]
    rw [hn] at hmem
    cases hmem

theorem appendEvidenceItems_singleton {checkpoint : String → Except Failure Unit}
    {scope : ScopeIdentity} {item : ExecutionEvidenceRecord} {b : Bool}
    (h : appendEvidenceItems checkpoint scope [item] s = .ok (b, s')) :
    appendEvidence scope item s = .ok (b, s') := by
  obtain ⟨⟨b₁, s₁⟩, hev, h⟩ := bind_eq_ok.mp h
  obtain ⟨-, -, h⟩ := bind_eq_ok.mp h
  obtain ⟨⟨b₂, s₂⟩, hnil, h⟩ := bind_eq_ok.mp h
  cases hnil
  cases h
  rw [hev, Bool.or_false]

theorem completionOutcome_written (c : NativeDispatchCommand) (o : NativeTerminalObservation)
    (attempt : AttemptRow) (workflowRunId digest : String) :
    OutcomeWritten c o ⟨c.scope.key (outcomeId c o), workflowRunId, digest,
      (completionOutcome c o attempt).record⟩ :=
  ⟨rfl, rfl⟩

/-- A completion finds its own bundle, or writes all of it. -/
theorem complete_footprint {T : Set String} (hcf : CollisionFreeOn T) (hi : Inv T s)
    (ho : Owned s) (hb : ∀ k row, s.commands.lookup k = some row → Bundled s row)
    {checkpoint : String → Except Failure Unit} {claim : NativeDispatchClaim}
    {o : NativeTerminalObservation} (hT : canonicalBytes o.payload ∈ T) {d : AppendDisposition}
    {row : CommandRow} (hl : s.commands.lookup claim.key = some row)
    (hp : row.payload = claim.command) (h : complete checkpoint claim o s = .ok (d, s')) :
    Footprint s s' := by
  obtain ⟨attempt, item, ha, hev, hk, -, hm, hid, happ⟩ := complete_ok h
  obtain ⟨hw, hsub⟩ := evidenceRow_written hev hm hid
  obtain ⟨row', s₁, s₂, s₃, b₁, b₂, b₃, hs⟩ := appendNativeCompletion_ok happ
  obtain ⟨hl', -⟩ := completionRow_ok hs.locked
  rw [hl] at hl'
  cases hl'
  have hitem := appendEvidenceItems_singleton hs.evidenced
  -- the terminal fact touches none of the tables in question
  have hfact : s'.commands = s₃.commands ∧ s'.evidence = s₃.evidence ∧
      s'.outcomes = s₃.outcomes ∧ s'.attempts = s₃.attempts := by
    rcases appendTerminalFact_ok hs.recorded with ⟨-, rfl⟩ | ⟨-, rfl⟩ <;>
      exact ⟨rfl, rfl, rfl, rfl⟩
  have hbundle := hb _ _ hl
  rcases markTerminal_ok hs.marked with ⟨hd, -, rfl⟩ | ⟨-, hst, -, rfl⟩
  · -- the row is terminal by an observation of the same digest, hence certain
    obtain ⟨o₀, ho₀, hdg, hstate, -⟩ := (hi.rows _ _ hl).recorded _ hd
    obtain ⟨hkind, -⟩ := NativeTerminalObservation.eq_of_digest hcf ho₀ hT hdg
    have hcert : row.state.isCertain = true := by
      rw [← hstate, hkind, o.kind.state_isCertain, hk]
      rfl
    rw [Bundled, if_pos hcert] at hbundle
    obtain ⟨o₁, e, r, a, hd₁, -, hes, hew, hos, how, -⟩ := hbundle
    rw [hd] at hd₁
    have hsuffix : completionSuffix row.payload o₁ = completionSuffix claim.command o := by
      rw [hp, completionSuffix, completionSuffix, Option.some.inj hd₁]
    have he : e ∈ s₁.evidence := (List.mem_filter.mp (hes ▸ List.mem_singleton_self e)).1
    have hr : r ∈ s₁.outcomes := (List.mem_filter.mp (hos ▸ List.mem_singleton_self r)).1
    have h₂ : s₂ = s₁ := by
      rcases appendEvidence_ok hitem with ⟨hnew, -⟩ | ⟨-, -, -, -, -, h₂⟩
      · refine absurd ?_ (hnew e he)
        rw [hew.id, evidenceId, hsuffix]
        exact hw.id.symm
      · exact h₂
    subst h₂
    have h₃ : s₃ = s₂ := by
      rcases appendOutcome_ok hs.concluded with ⟨hnew, -⟩ | ⟨-, -, -, -, -, h₃⟩
      · refine absurd ?_ (hnew r hr)
        rw [how.key, outcomeId, hsuffix, hp]
        rfl
      · exact h₃
    subst h₃
    exact .quiet hfact.1 hfact.2.1 hfact.2.2.1 fun _ _ _ => by rw [hfact.2.2.2]
  · have hnc : row.state.isCertain = false := by rw [hst]; rfl
    rw [Bundled, if_neg (by simp [hnc]), hp] at hbundle
    have hframe : ((s.setCommand claim.key (row.terminated o)).setAttemptState
        claim.command.attemptKey o.kind.controlState).evidence = s.evidence := rfl
    obtain ⟨hnone, h₂⟩ := appendEvidence_new ho hbundle.1 hw hsub hframe hitem
    subst h₂
    -- an outcome under this id would have come with evidence under this id
    rcases appendOutcome_ok hs.concluded with ⟨-, -, h₃⟩ | ⟨r, hr, hrk, -⟩
    · subst h₃
      refine .complete (o := o) (a := { attempt with
          controlState := o.kind.controlState
          aggregateVersion := attempt.aggregateVersion + 1 })
        hl hnc hk hfact.1 (hp ▸ hw) hfact.2.1
        (hp ▸ completionOutcome_written _ _ attempt _ _) hfact.2.2.1 ?_ rfl fun k' hk' => ?_
      · rw [hfact.2.2.2, hp]
        simp [Store.setAttemptState, ha]
      · rw [hp] at hk'
        rw [hfact.2.2.2]
        exact setAttemptState_of_ne _ _ _ hk'
    · obtain ⟨k, row₁, o₁, -, how, e, he, hew⟩ := ho.outcomes r hr
      have hids := congrArg RowKey.id (how.key.symm.trans hrk)
      exact absurd (hew.id.trans (suffix_of_outcomeId hids)) (hnone e he)

end Operations

/-! ### Steps keep the invariant -/

section Runs

variable {T : Set String} {σ σ' : Handed}

theorem BundleStep.footprint (hcf : CollisionFreeOn T) (hi : BundleInv T σ)
    (h : BundleStep T σ σ') : Footprint σ.store σ'.store := by
  cases h with
  | enqueue c => exact transaction_state (.same _) fun _ _ h => enqueue_footprint h
  | claimNext h => exact claimNext_footprint h
  | resume h => exact .same _
  | permitEffect hm name auth now =>
    obtain ⟨row, hl, hp⟩ := hi.claims _ hm
    exact transaction_state (.same _) fun _ _ h => permitEffect_footprint hl hp h
  | recordKubernetesCorrelation hm name uid =>
    exact transaction_state (.same _) fun _ _ h => recordKubernetesCorrelation_footprint h
  | recordUncertain hm o hT =>
    obtain ⟨row, hl, hp⟩ := hi.claims _ hm
    exact transaction_state (.same _) fun _ _ h => recordUncertain_footprint hl hp h
  | complete checkpoint hm o hT =>
    obtain ⟨row, hl, hp⟩ := hi.claims _ hm
    exact transaction_state (.same _) fun _ _ h =>
      complete_footprint hcf hi.ledger hi.owned hi.bundled hT hl hp h
  | others attempts bindings ha hb => exact .quiet rfl rfl rfl ha

theorem BundleStep.change (hcf : CollisionFreeOn T) (hi : BundleInv T σ)
    (h : BundleStep T σ σ') : Change T σ.store σ'.store := by
  have same : Change T σ.store σ.store := .same rfl rfl
  cases h with
  | enqueue c => exact transaction_state same fun _ _ h => enqueue_change h
  | claimNext h => exact claimNext_change hi.ledger.columns h
  | resume h => exact same
  | permitEffect hm name auth now =>
    exact transaction_state same fun _ _ h => permitEffect_change h
  | recordKubernetesCorrelation hm name uid =>
    exact transaction_state same fun _ _ h => recordKubernetesCorrelation_change h
  | recordUncertain hm o hT =>
    exact transaction_state same fun _ _ h => recordUncertain_change hT h
  | complete checkpoint hm o hT =>
    refine transaction_state same fun _ _ h => ?_
    obtain ⟨attempt, item, -, -, -, -, -, -, happ⟩ := complete_ok h
    exact appendNativeCompletion_change hcf hi.ledger hT happ
  | others attempts bindings ha hb => exact .same rfl rfl

/-- Claims handed out are about stored commands. -/
theorem BundleStep.claims (hcf : CollisionFreeOn T) (hi : BundleInv T σ) (h : BundleStep T σ σ') :
    ∀ claim ∈ σ'.claims, ∃ row, σ'.store.commands.lookup claim.key = some row ∧
      row.payload = claim.command := by
  have old : ∀ claim ∈ σ.claims, ∃ row, σ'.store.commands.lookup claim.key = some row ∧
      row.payload = claim.command := by
    intro claim hm
    obtain ⟨row, hl, hp⟩ := hi.claims claim hm
    obtain ⟨row', hl', hp'⟩ := (h.footprint hcf hi).payload hl
    exact ⟨row', hl', hp'.trans hp⟩
  cases h with
  | @claimNext w now lease token locked r s' h =>
    intro claim hm
    rcases List.mem_append.mp hm with hnew | hm
    · rcases claimNext_ok h with ⟨rfl, -⟩ | ⟨k, row, l, claim', hc, rfl, rfl⟩
      · cases hnew
      · cases List.mem_singleton.mp hnew
        have hk : claim.key = k := by
          rw [NativeDispatchClaim.key, hc.command, (hi.ledger.columns k row hc.found).key]
        refine ⟨row.claimedBy token w l, ?_, hc.command.symm⟩
        rw [hk]
        exact AList.lookup_insert _
    · exact old claim hm
  | @resume w locked claim h =>
    intro claim' hm
    rcases List.mem_cons.mp hm with rfl | hm
    · obtain ⟨k, row, hl, -, -, hr⟩ := resumeEffectStarted_ok h
      obtain ⟨-, -, -, -, hp, -⟩ := resumed_ok hr
      refine ⟨row, ?_, hp.symm⟩
      rw [NativeDispatchClaim.key, hp, (hi.ledger.columns k row hl).key, hl]
    · exact old claim' hm
  | _ => exact old

/-- Every step keeps the invariant. -/
theorem BundleStep.inv (hcf : CollisionFreeOn T) (hi : BundleInv T σ) (h : BundleStep T σ σ') :
    BundleInv T σ' where
  ledger := (h.change hcf hi).inv hi.ledger
  claims := h.claims hcf hi
  distinct := (h.footprint hcf hi).distinct hi.distinct
  owned := (h.footprint hcf hi).owned hi.owned
  bundled := (h.footprint hcf hi).bundled hi.distinct hi.owned hi.bundled

theorem BundleInv.initial (hs : σ.store.Fresh) (hn : σ.claims = []) : BundleInv T σ where
  ledger := .fresh hs T
  claims := by simp [hn]
  distinct k k' row row' hl := by
    rw [hs.commands] at hl
    cases hl
  owned := ⟨by simp [hs.evidence], by simp [hs.outcomes]⟩
  bundled k row hl := by
    rw [hs.commands] at hl
    cases hl

/-! ### Nothing is taken away -/

theorem Footprint.prefixes {s s' : Store} (h : Footprint s s') :
    s.evidence <+: s'.evidence ∧ s.outcomes <+: s'.outcomes := by
  cases h with
  | quiet hc he ho ha => rw [he, ho]; exact ⟨List.prefix_rfl, List.prefix_rfl⟩
  | queue hn hfree hc he ho ha => rw [he, ho]; exact ⟨List.prefix_rfl, List.prefix_rfl⟩
  | move row₁ hl hp hs hs' hc he ho ha => rw [he, ho]; exact ⟨List.prefix_rfl, List.prefix_rfl⟩
  | complete hl hs hk hc hew he how ho hatt hcs ha =>
    rw [he, ho]
    exact ⟨List.prefix_append _ _, List.prefix_append _ _⟩

/-- What a step leaves alone in the attempts and the bindings. -/
structure Keeps (s s' : Store) : Prop where
  cutover : s'.bindings.evidenceCutover = s.bindings.evidenceCutover
  attempts : ∀ k row, s.commands.lookup k = some row → ∀ a,
    s.attempts row.payload.attemptKey = some a → ∃ a',
      s'.attempts row.payload.attemptKey = some a' ∧ a'.record = a.record ∧
        a'.attemptOrdinal = a.attemptOrdinal

theorem Keeps.of_attempts {s s' : Store} (hb : s'.bindings = s.bindings)
    (ha : s'.attempts = s.attempts) : Keeps s s' :=
  ⟨by rw [hb], fun _ _ _ a h => ⟨a, by rw [ha, h], rfl, rfl⟩⟩

theorem Keeps.of_setAttemptState {s s' : Store} (hb : s'.bindings = s.bindings) {k : RowKey}
    {x : AttemptControlState} (ha : s'.attempts = (s.setAttemptState k x).attempts) :
    Keeps s s' :=
  ⟨by rw [hb], fun _ _ _ _ h => by rw [ha]; exact setAttemptState_identity s _ _ _ h⟩

theorem BundleStep.keeps (hi : Columns σ.store) (h : BundleStep T σ σ') :
    Keeps σ.store σ'.store := by
  have same : Keeps σ.store σ.store := .of_attempts rfl rfl
  cases h with
  | enqueue c =>
    refine transaction_state same fun _ _ h => ?_
    obtain ⟨-, ⟨-, -, -, -, rfl⟩ | ⟨-, -, -, rfl⟩⟩ := enqueue_ok h <;> exact .of_attempts rfl rfl
  | claimNext h =>
    rcases claimNext_ok h with ⟨-, rfl⟩ | ⟨-, -, -, -, -, -, rfl⟩ <;> exact .of_attempts rfl rfl
  | resume h => exact same
  | permitEffect hm name auth now =>
    refine transaction_state same fun _ _ h => ?_
    rcases permitEffect_ok h with ⟨-, -, -, -, -, -, rfl⟩ | ⟨row, -, -, rfl⟩
    · exact same
    · exact .of_setAttemptState rfl rfl
  | recordKubernetesCorrelation hm name uid =>
    refine transaction_state same fun _ _ h => ?_
    obtain ⟨-, -, -, -, -, ⟨-, -, rfl⟩ | ⟨-, -, -, rfl⟩⟩ := recordKubernetesCorrelation_ok h <;>
      exact .of_attempts rfl rfl
  | recordUncertain hm o hT =>
    refine transaction_state same fun _ _ h => ?_
    obtain ⟨-, -, -, -, -, -, ⟨-, -, rfl⟩ | ⟨-, -, -, rfl⟩⟩ := recordUncertain_ok h
    · exact same
    · exact .of_setAttemptState rfl rfl
  | complete checkpoint hm o hT =>
    refine transaction_state same fun _ _ h => ?_
    obtain ⟨attempt, item, -, -, -, -, -, -, happ⟩ := complete_ok h
    have hx := appendNativeCompletion_extends hi happ
    exact ⟨hx.cutover, hx.attempts⟩
  | others attempts bindings ha hb =>
    exact ⟨hb, fun k row hl a h => ⟨a, by rw [← h]; exact ha k row hl, rfl, rfl⟩⟩

theorem Change.facts_grow {s s' : Store} (h : Change T s s') : s.facts <+: s'.facts := by
  cases h with
  | same hc hf => rw [hf]
  | step hr hc hf => rw [hf]; exact List.prefix_append _ _

theorem BundleStep.extend (hcf : CollisionFreeOn T) (hi : BundleInv T σ)
    (h : BundleStep T σ σ') : Extends σ.store σ'.store where
  evidence := (h.footprint hcf hi).prefixes.1
  outcomes := (h.footprint hcf hi).prefixes.2
  facts := (h.change hcf hi).facts_grow
  cutover := (h.keeps hi.ledger.columns).cutover
  rows _ _ hl := (h.change hcf hi).rowsChange.later hi.ledger.columns hl
  attempts := (h.keeps hi.ledger.columns).attempts

theorem bundle_run (hcf : CollisionFreeOn T) (hi : BundleInv T σ)
    (h : Relation.ReflTransGen (BundleStep T) σ σ') :
    BundleInv T σ' ∧ Extends σ.store σ'.store := by
  refine invariant_of_run (P := fun σ' => BundleInv T σ' ∧ Extends σ.store σ'.store)
    (fun σ₁ σ₂ hp hstep => ?_) h ⟨hi, .refl _⟩
  exact ⟨hstep.inv hcf hp.1, hp.2.trans (hstep.extend hcf hp.1)⟩

/-- A bundled row, spelled out. -/
theorem Bundled.iff {s : Store} {row : CommandRow} (h : Bundled s row) :
    (row.state = .succeeded ∨ row.state = .failed) ↔
      ∃ e r a, s.evidenceFor row.payload = [e] ∧ s.outcomesFor row.payload = [r] ∧
        s.attempts row.payload.attemptKey = some a ∧
        row.state.controlState = some a.controlState := by
  have hcert : row.state.isCertain = true ↔ row.state = .succeeded ∨ row.state = .failed := by
    cases row.state <;> simp [NativeDispatchState.isCertain]
  rw [← hcert]
  unfold Bundled at h
  constructor
  · intro hc
    rw [if_pos hc] at h
    obtain ⟨o, e, r, a, -, hst, he, -, hr, -, ha, hcs⟩ := h
    refine ⟨e, r, a, he, hr, ha, ?_⟩
    rw [← hst, NativeDispatchState.controlState, o.kind.state_terminalKind, hcs]
    rfl
  · rintro ⟨e, r, a, he, -⟩
    by_contra hc
    rw [if_neg hc, he] at h
    cases h.1

/-- **One terminal bundle per command.** In every state of every run, a row is
`SUCCEEDED` or `FAILED` exactly when its attempt has one evidence row, one
outcome row and the row's state, and then the two rows are those of the
observation the row records; an `UNKNOWN` or `RECOVERY_REQUIRED` row comes with
none. A call that fails changes nothing. A completion that returned is
replayed, without any change, at every later point of the run. -/
theorem one_terminal_bundle (hcf : CollisionFreeOn T) {σ₀ : Handed} (hs : σ₀.store.Fresh)
    (hn : σ₀.claims = []) (hrun : Relation.ReflTransGen (BundleStep T) σ₀ σ) :
    (∀ k row, σ.store.commands.lookup k = some row →
      ((row.state = .succeeded ∨ row.state = .failed) ↔
        ∃ e r a, σ.store.evidenceFor row.payload = [e] ∧ σ.store.outcomesFor row.payload = [r] ∧
          σ.store.attempts row.payload.attemptKey = some a ∧
          row.state.controlState = some a.controlState) ∧
      ((row.state = .succeeded ∨ row.state = .failed) →
        ∃ o, row.terminalObservationDigest = some o.digest ∧
          (∀ e ∈ σ.store.evidenceFor row.payload, EvidenceWritten row.payload o e) ∧
          ∀ r ∈ σ.store.outcomesFor row.payload, OutcomeWritten row.payload o r) ∧
      ((row.state = .unknown ∨ row.state = .recoveryRequired) →
        σ.store.evidenceFor row.payload = [] ∧ σ.store.outcomesFor row.payload = [])) ∧
    (∀ checkpoint claim o e,
      (transaction (complete checkpoint claim o) σ.store).1 = .error e →
        (transaction (complete checkpoint claim o) σ.store).2 = σ.store) ∧
    (∀ claim o e, (transaction (recordUncertain claim o) σ.store).1 = .error e →
      (transaction (recordUncertain claim o) σ.store).2 = σ.store) ∧
    ∀ checkpoint, ∀ claim ∈ σ.claims, ∀ o d s', canonicalBytes o.payload ∈ T →
      transaction (complete checkpoint claim o) σ.store = (.ok d, s') →
      ∀ σ', Relation.ReflTransGen (BundleStep T) ⟨s', σ.claims⟩ σ' →
        ∀ checkpoint', (∀ name, checkpoint' name = .ok ()) →
          transaction (complete checkpoint' claim o) σ'.store = (.ok .replayed, σ'.store) := by
  obtain ⟨hi, -⟩ := bundle_run hcf (.initial hs hn) hrun
  have failed : ∀ {α : Type} (body : Body Store Failure α) e,
      (transaction body σ.store).1 = .error e → (transaction body σ.store).2 = σ.store := by
    intro α body e h
    rcases transaction_cases body σ.store with ⟨a, s', -, ht⟩ | ⟨e', -, ht⟩
    · rw [ht] at h
      cases h
    · rw [ht]
  refine ⟨fun k row hl => ?_, fun checkpoint claim o e h => failed _ e h,
    fun claim o e h => failed _ e h, ?_⟩
  · have hb := hi.bundled k row hl
    refine ⟨hb.iff, fun hc => ?_, fun hu => ?_⟩
    · rw [Bundled, if_pos (by rcases hc with e | e <;> rw [e] <;> rfl)] at hb
      obtain ⟨o, e, r, a, hd, -, he, hew, hr, how, -⟩ := hb
      refine ⟨o, hd, fun e' hm => ?_, fun r' hm => ?_⟩
      · rw [he, List.mem_singleton] at hm
        exact hm ▸ hew
      · rw [hr, List.mem_singleton] at hm
        exact hm ▸ how
    · rw [Bundled, if_neg (by rcases hu with e | e <;> rw [e] <;> decide)] at hb
      exact hb
  · intro checkpoint claim hm o d s' hT h σ' hrun' checkpoint' hq
    obtain ⟨row, hl, hp⟩ := hi.claims claim hm
    have hstep : BundleStep T σ ⟨s', σ.claims⟩ := by
      have := BundleStep.complete (T := T) σ checkpoint hm o hT
      rwa [h] at this
    rcases transaction_cases (complete checkpoint claim o) σ.store with
      ⟨d', s'', hbody, ht⟩ | ⟨e, -, ht⟩
    · rw [ht] at h
      cases h
      obtain ⟨-, hx⟩ := bundle_run hcf (hstep.inv hcf hi) hrun'
      exact transaction_ok (complete_again hl hp hi.ledger.columns hbody hx hq)
    · rw [ht] at h
      cases h

end Runs

end Bundle

section Sample

open Sample

/-- The Task of `command` succeeded. -/
def Sample.doneTask : NativeTerminalObservation where
  commandId := command.commandId
  kind := .succeeded
  kubernetesTaskName := text "task-name"
  kubernetesTaskUid := some (text "uid-1")
  output := some (text "done")
  reason := none
  observedAt := instant 5000000
  success_complete := by decide
  reason_required := by decide

/-- Claimed, started and correlated. -/
def Sample.correlating : List Operation :=
  [.claimNext "worker-1" (instant 2000000) 30 (digest 'c') fun _ => false,
    .permitEffect claim "task-name" (fun _ => .ok true) (instant 3000000),
    .recordKubernetesCorrelation claim "task-name" "uid-1"]

theorem Sample.correlated_row :
    ((runAll correlating queuedStore).commands.lookup command.key).map (fun row =>
      (row.payload, row.state, row.heldBy claim, row.kubernetesTaskName, row.kubernetesTaskUid))
      = some (command, .effectStarted, true, some "task-name", some "uid-1") := by
  decide +kernel

theorem Sample.correlated_attempt :
    (runAll correlating queuedStore).attempts command.attemptKey
        = some ⟨"task-1", .running, 2, some 1, identity⟩ ∧
      (runAll correlating queuedStore).bindings.evidenceCutover = (.postgresActive, .postgres) ∧
      ((runAll correlating queuedStore).bindings.workflowRuns
        (scope.key identity.workflowRunId.value)).isSome = true := by
  decide +kernel

/-- The store is ready for the completion of `command`. -/
theorem Sample.correlated_completable :
    Completable (runAll correlating queuedStore) command doneTask
      ⟨"task-1", .running, 2, some 1, identity⟩ 1 := by
  obtain ⟨hatt, hcut, hrun⟩ := correlated_attempt
  refine ⟨hcut, hatt, rfl, by decide, rfl, by decide +kernel, ?_, ?_, fun _ => hrun⟩
  · intro r hr
    cases hr
  · intro r hr
    cases hr

/-- `command` is claimed, started, correlated and completed. -/
theorem Sample.completed_reachable : ∃ σ : Handed,
    Relation.ReflTransGen (BundleStep {canonicalBytes doneTask.payload}) ⟨store, []⟩ σ ∧
      (σ.store.commands.lookup command.key).map (·.state) = some .succeeded := by
  have hq : (transaction (enqueue command) store).2 = queuedStore := by
    rw [transaction_ok enqueue_store]
  have hclaim : (transaction (claimNext "worker-1" (instant 2000000) 30 (digest 'c')
      fun _ => false) queuedStore).1 = .ok (some claim) := by
    decide +kernel
  have held : claim ∈ [claim] := List.mem_singleton_self claim
  have h₁ := BundleStep.enqueue (T := {canonicalBytes doneTask.payload}) ⟨store, []⟩ command
  rw [hq] at h₁
  have hrun : Relation.ReflTransGen (BundleStep {canonicalBytes doneTask.payload}) ⟨store, []⟩
      ⟨runAll correlating queuedStore, [claim]⟩ :=
    .head h₁ (.head (.claimNext ⟨queuedStore, []⟩ (body_of_transaction hclaim)) (.head
      (.permitEffect _ held "task-name" (fun _ => .ok true) (instant 3000000)) (.single
      (.recordKubernetesCorrelation _ held "task-name" "uid-1"))))
  obtain ⟨row, hl, hrow⟩ := Option.map_eq_some_iff.mp correlated_row
  simp only [Prod.mk.injEq] at hrow
  obtain ⟨hp, hs, hh, hn, hu⟩ := hrow
  have hcol : Columns (runAll (.enqueue command :: correlating) store) :=
    runAll_columns (.fresh ⟨rfl, rfl, rfl, rfl⟩)
  rw [runAll, List.foldl_cons, Operation.apply, hq] at hcol
  have hstart : StartedClaim (runAll correlating queuedStore) claim row :=
    ⟨hcol _ _ hl, hl, hh, hp, hs⟩
  have hquiet : ∀ name, (fun _ => .ok () : String → Except Failure Unit) name = .ok () :=
    fun _ => rfl
  obtain ⟨⟨d, s'⟩, hb⟩ := (complete_started hstart hquiet (o := doneTask) rfl).mpr ⟨rfl, hn, hu, by decide +kernel, _, _, correlated_completable⟩
  have hlast := BundleStep.complete (T := {canonicalBytes doneTask.payload})
    ⟨runAll correlating queuedStore, [claim]⟩ (fun _ => .ok ()) held doneTask rfl
  rw [transaction_ok hb] at hlast
  refine ⟨_, .tail hrun hlast, ?_⟩
  rw [complete_commands hstart hb, show command.key = claim.key from rfl, AList.lookup_insert]
  rfl

theorem one_terminal_bundle_sample : ∃ (σ : Handed) (row : CommandRow) (e : EvidenceRow)
    (r : OutcomeRow) (a : AttemptRow), σ.store.commands.lookup command.key = some row ∧
      row.state = .succeeded ∧ σ.store.evidenceFor row.payload = [e] ∧
      σ.store.outcomesFor row.payload = [r] ∧ σ.store.attempts row.payload.attemptKey = some a ∧
      row.state.controlState = some a.controlState := by
  obtain ⟨σ, hrun, hrow⟩ := completed_reachable
  obtain ⟨row, hl, hs⟩ := Option.map_eq_some_iff.mp hrow
  have hfresh : (⟨store, []⟩ : Handed).store.Fresh := ⟨rfl, rfl, rfl, rfl⟩
  obtain ⟨hrows, -⟩ := one_terminal_bundle
    (Set.injOn_singleton sha256 (canonicalBytes doneTask.payload)) hfresh rfl hrun
  obtain ⟨e, r, a, h⟩ := (hrows _ row hl).1.mp (.inl hs)
  exact ⟨σ, row, e, r, a, hl, hs, h⟩

end Sample

end AgentPlatform
