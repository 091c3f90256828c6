/-
AgentPlatform/Dispatch/Specs.lean

What each dispatch operation does when it succeeds. One lemma per operation
says under which conditions it returned and which store it wrote; everything
proved later about runs uses these and never unfolds an operation.
-/
import AgentPlatform.Dispatch.Completion

namespace AgentPlatform

open Py

section Specs

variable [Unicodedata] {s s' : Store}

/-! ### Stores -/

@[simp] theorem setCommand_commands (k : RowKey) (row : CommandRow) :
    (s.setCommand k row).commands = s.commands.insert k row := rfl
@[simp] theorem setCommand_facts (k : RowKey) (row : CommandRow) :
    (s.setCommand k row).facts = s.facts := rfl
@[simp] theorem setCommand_attempts (k : RowKey) (row : CommandRow) :
    (s.setCommand k row).attempts = s.attempts := rfl
@[simp] theorem setCommand_evidence (k : RowKey) (row : CommandRow) :
    (s.setCommand k row).evidence = s.evidence := rfl
@[simp] theorem setCommand_outcomes (k : RowKey) (row : CommandRow) :
    (s.setCommand k row).outcomes = s.outcomes := rfl
@[simp] theorem setCommand_bindings (k : RowKey) (row : CommandRow) :
    (s.setCommand k row).bindings = s.bindings := rfl

@[simp] theorem setAttemptState_commands (k : RowKey) (x : AttemptControlState) :
    (s.setAttemptState k x).commands = s.commands := rfl
@[simp] theorem setAttemptState_facts (k : RowKey) (x : AttemptControlState) :
    (s.setAttemptState k x).facts = s.facts := rfl
@[simp] theorem setAttemptState_evidence (k : RowKey) (x : AttemptControlState) :
    (s.setAttemptState k x).evidence = s.evidence := rfl
@[simp] theorem setAttemptState_outcomes (k : RowKey) (x : AttemptControlState) :
    (s.setAttemptState k x).outcomes = s.outcomes := rfl
@[simp] theorem setAttemptState_bindings (k : RowKey) (x : AttemptControlState) :
    (s.setAttemptState k x).bindings = s.bindings := rfl

@[simp] theorem addFact_commands (k : RowKey) (kind : FactKind) (r : Json) :
    (s.addFact k kind r).commands = s.commands := rfl
@[simp] theorem addFact_attempts (k : RowKey) (kind : FactKind) (r : Json) :
    (s.addFact k kind r).attempts = s.attempts := rfl
@[simp] theorem addFact_evidence (k : RowKey) (kind : FactKind) (r : Json) :
    (s.addFact k kind r).evidence = s.evidence := rfl
@[simp] theorem addFact_outcomes (k : RowKey) (kind : FactKind) (r : Json) :
    (s.addFact k kind r).outcomes = s.outcomes := rfl
@[simp] theorem addFact_bindings (k : RowKey) (kind : FactKind) (r : Json) :
    (s.addFact k kind r).bindings = s.bindings := rfl

theorem dispatchFact_ok {k : RowKey} {kind : FactKind} {r : Json}
    (h : dispatchFact k kind r s = .ok s') :
    r.nulFree = true ∧ s.factExists k kind (factDigest r) = false ∧ s' = s.addFact k kind r := by
  unfold dispatchFact at h
  split at h
  · next hc =>
    simp only [Bool.and_eq_true, Bool.not_eq_true'] at hc
    cases h
    exact ⟨hc.1, hc.2, rfl⟩
  · cases h

/-! ### Storable texts -/

omit [Unicodedata] in
theorem nulFree_subset {texts texts' : List String} (h : nulFree texts = true)
    (hs : texts' ⊆ texts) : nulFree texts' = true := by
  simp only [nulFree, List.all_eq_true] at h ⊢
  exact fun t ht => h t (hs ht)

theorem NativeDispatchCommand.nulFree_key (c : NativeDispatchCommand)
    (h : nulFree c.texts = true) : nulFree c.key.texts = true := by
  refine nulFree_subset h ?_
  simp [RowKey.texts, NativeDispatchCommand.key, NativeDispatchCommand.texts, ScopeIdentity.key]

theorem NativeDispatchCommand.nulFree_placementKey (c : NativeDispatchCommand)
    (h : nulFree c.texts = true) : nulFree c.placementKey.texts = true := by
  refine nulFree_subset h ?_
  simp [RowKey.texts, NativeDispatchCommand.placementKey, NativeDispatchCommand.texts,
    ScopeIdentity.key]

theorem NativeDispatchCommand.nulFree_attemptKey (c : NativeDispatchCommand)
    (h : nulFree c.texts = true) : nulFree c.attemptKey.texts = true := by
  refine nulFree_subset h ?_
  simp [RowKey.texts, NativeDispatchCommand.attemptKey, NativeDispatchCommand.texts,
    ScopeIdentity.key]

/-! ### Queueing -/

/-- `enqueue` requires the exact binding; then it finds its own command or
inserts it. -/
theorem enqueue_ok {c : NativeDispatchCommand} {d : AppendDisposition}
    (h : enqueue c s = .ok (d, s')) :
    s.placementBinding c = some c.expected ∧
      ((∃ existing, s.commands.lookup c.key = some existing ∧
          existing.commandDigest = c.digest ∧ d = .replayed ∧ s' = s) ∨
        (s.commands.lookup c.key = none ∧ s.insertable c = true ∧ d = .appended ∧
          s' = (s.setCommand c.key (.queued c)).addFact c.key .queued (queuedRecord c))) := by
  unfold enqueue at h
  rw [ite_error_eq_ok'] at h
  obtain ⟨-, h⟩ := h
  rw [ite_error_eq_ok'] at h
  obtain ⟨hb, h⟩ := h
  rw [ite_error_eq_ok'] at h
  obtain ⟨-, h⟩ := h
  refine ⟨not_not.mp hb, ?_⟩
  rcases e : s.commands.lookup c.key with _ | existing
  · rw [e] at h
    simp only at h
    rw [ite_error_eq_ok'] at h
    obtain ⟨hi, h⟩ := h
    obtain ⟨s₁, hf, h⟩ := bind_eq_ok.mp h
    obtain ⟨-, -, rfl⟩ := dispatchFact_ok hf
    cases h
    exact .inr ⟨rfl, by simpa using hi, rfl, rfl⟩
  · rw [e] at h
    simp only at h
    rw [ite_error_eq_ok'] at h
    obtain ⟨hd, h⟩ := h
    cases h
    exact .inl ⟨existing, rfl, not_not.mp hd, rfl, rfl⟩

theorem queuedRecord_nulFree (c : NativeDispatchCommand) : (queuedRecord c).nulFree = true := by
  have h : (c.digest.toList.contains '\x00') = false := by
    rw [← Bool.not_eq_true, List.contains_iff_mem]
    intro hm
    have hx := isHexDigit_of_mem_hexdigest hm
    revert hx
    decide
  have hk : ("state".toList.contains '\x00') = false ∧
      ("commandDigest".toList.contains '\x00') = false ∧
      ("QUEUED".toList.contains '\x00') = false := by decide
  simp only [queuedRecord, Json.nulFree, Json.nulFreeFields, h, hk]
  rfl

/-- A command that is bound exactly, is not stored and can be inserted is
queued. -/
theorem enqueue_new {c : NativeDispatchCommand} (hb : s.placementBinding c = some c.expected)
    (hl : s.commands.lookup c.key = none) (hi : s.insertable c = true)
    (hf : s.factExists c.key .queued (factDigest (queuedRecord c)) = false) :
    enqueue c s = .ok (.appended,
      (s.setCommand c.key (.queued c)).addFact c.key .queued (queuedRecord c)) := by
  have hn : nulFree c.texts = true := by
    simp only [Store.insertable, Bool.and_eq_true] at hi
    exact hi.1.1.1
  have hd : dispatchFact c.key .queued (queuedRecord c) (s.setCommand c.key (.queued c)) =
      .ok ((s.setCommand c.key (.queued c)).addFact c.key .queued (queuedRecord c)) := by
    have hf' : (s.setCommand c.key (.queued c)).factExists c.key .queued
        (factDigest (queuedRecord c)) = false := hf
    rw [dispatchFact, queuedRecord_nulFree, hf']
    rfl
  simp only [enqueue, c.nulFree_placementKey hn, c.nulFree_key hn, hb, hl, hi, hd]
  simp only [ne_eq, not_true_eq_false, if_false, Bool.not_true, Bool.false_eq_true]
  rfl

/-! ### Claiming -/

theorem create_ok {c : NativeDispatchCommand} {g : Generation} {token workerId : String}
    {lease : Datetime} {claim : NativeDispatchClaim}
    (h : NativeDispatchClaim.create c g token workerId lease = .ok claim) :
    claim.command = c ∧ claim.claimGeneration = g ∧
      claim.fencingToken.value = normalize token ∧ claim.workerId.value = normalize workerId ∧
      claim.leaseExpiresAt = lease := by
  unfold NativeDispatchClaim.create at h
  obtain ⟨t, ht, h⟩ := bind_eq_ok.mp h
  obtain ⟨w, hw, h⟩ := bind_eq_ok.mp h
  cases h
  exact ⟨rfl, rfl, normalizedText_eq_ok ht, normalizedText_eq_ok hw, rfl⟩

/-- What `claim_next` writes, and the claim it returns. -/
structure Claimed (s : Store) (k : RowKey) (row : CommandRow) (workerId : String)
    (now lease : Datetime) (token : Digest) (claim : NativeDispatchClaim) : Prop where
  found : s.commands.lookup k = some row
  claimable : row.claimable now = true
  command : claim.command = row.payload
  generation : claim.claimGeneration.value = row.claimGeneration + 1
  token_eq : claim.fencingToken.value = normalize token.1
  worker_eq : claim.workerId.value = normalize workerId

/-- `claim_next` finds nothing to do, or takes over one claimable row. -/
theorem claimNext_ok {workerId : String} {now : Datetime} {leaseSeconds : Int} {token : Digest}
    {locked : RowKey → Bool} {r : Option NativeDispatchClaim}
    (h : claimNext workerId now leaseSeconds token locked s = .ok (r, s')) :
    (r = none ∧ s' = s) ∨
      ∃ k row lease claim, Claimed s k row workerId now lease token claim ∧ r = some claim ∧
        s' = (s.setCommand k (row.claimedBy token workerId lease)).addFact row.payload.key .claimed
          (claimedRecord (row.claimGeneration + 1) workerId lease) := by
  unfold claimNext at h
  rw [ite_error_eq_ok'] at h
  obtain ⟨-, h⟩ := h
  rcases el : now.addSeconds leaseSeconds.toNat with _ | lease
  · rw [el] at h
    cases h
  rw [el] at h
  simp only at h
  rw [ite_error_eq_ok'] at h
  obtain ⟨-, h⟩ := h
  split at h
  · cases h
    exact .inl ⟨rfl, rfl⟩
  · next k row e =>
    rw [ite_error_eq_ok'] at h
    obtain ⟨-, h⟩ := h
    obtain ⟨claim, hc, h⟩ := bind_eq_ok.mp h
    obtain ⟨s₁, hf, h⟩ := bind_eq_ok.mp h
    obtain ⟨-, -, rfl⟩ := dispatchFact_ok hf
    cases h
    obtain ⟨hl, hp⟩ := Table.selectFirst_spec e
    simp only [Bool.and_eq_true] at hp
    obtain ⟨h1, h2, h3, h4, h5⟩ := create_ok hc
    exact .inr ⟨k, row, lease, claim, ⟨hl, hp.2, h1, by rw [h2], h3, h4⟩, rfl, rfl⟩

/-- `resume_effect_started` hands out a started row of the worker and writes
nothing. -/
theorem resumeEffectStarted_ok {workerId : String} {locked : RowKey → Bool}
    {claim : NativeDispatchClaim} (h : resumeEffectStarted workerId locked s = .ok (some claim)) :
    ∃ k row, s.commands.lookup k = some row ∧ row.state = .effectStarted ∧
      row.workerId = some workerId ∧ row.resumed = .ok claim := by
  unfold resumeEffectStarted at h
  rw [ite_error_eq_ok'] at h
  obtain ⟨-, h⟩ := h
  rw [ite_error_eq_ok'] at h
  obtain ⟨-, h⟩ := h
  split at h
  · cases h
  · next k row e =>
    obtain ⟨hl, hp⟩ := Table.selectFirst_spec e
    simp only [Bool.and_eq_true, decide_eq_true_eq] at hp
    rcases hr : row.resumed with err | c
    · rw [hr] at h
      cases h
    · rw [hr] at h
      cases h
      exact ⟨k, row, hl, hp.1.2, hp.2, hr⟩

theorem resumed_ok {row : CommandRow} {claim : NativeDispatchClaim}
    (h : row.resumed = .ok claim) :
    ∃ token workerId, row.fencingToken = some token ∧ row.workerId = some workerId ∧
      claim.command = row.payload ∧ claim.claimGeneration.value = row.claimGeneration ∧
      claim.fencingToken.value = normalize token ∧ claim.workerId.value = normalize workerId := by
  unfold CommandRow.resumed at h
  obtain ⟨g, hg, h⟩ := bind_eq_ok.mp h
  unfold generation at hg
  split at hg
  · cases hg
    split at h
    · next token workerId startedAt ht hw _ =>
      obtain ⟨h1, h2, h3, h4, -⟩ := create_ok h
      exact ⟨token, workerId, ht, hw, h1, by rw [h2], h3, h4⟩
    · cases h
    · cases h
  · cases hg

/-! ### Claims presented again -/

theorem heldBy_iff {row : CommandRow} {claim : NativeDispatchClaim} :
    row.heldBy claim = true ↔ row.claimGeneration = claim.claimGeneration.value ∧
      row.fencingToken = some claim.fencingToken.value ∧
      row.workerId = some claim.workerId.value := by
  simp [CommandRow.heldBy, and_assoc]

/-- Only the holder of the current claim gets past `_locked_claim`. -/
theorem lockedClaim_ok {claim : NativeDispatchClaim} {row : CommandRow}
    (h : lockedClaim claim s = .ok row) :
    nulFree claim.key.texts = true ∧ s.commands.lookup claim.key = some row ∧
      row.heldBy claim = true := by
  unfold lockedClaim at h
  rw [ite_error_eq_ok'] at h
  obtain ⟨hn, h⟩ := h
  split at h
  · cases h
  · next row' e =>
    rw [ite_error_eq_ok] at h
    obtain ⟨hh, h⟩ := h
    cases h
    exact ⟨by simpa using hn, e, hh⟩

/-- The conditions under which `permit_effect` starts the effect. -/
structure Permitted (s : Store) (row : CommandRow) (claim : NativeDispatchClaim)
    (taskName : String) (authorizationCheck : NativeDispatchCommand → Except Failure Bool)
    (now : Datetime) : Prop where
  found : s.commands.lookup claim.key = some row
  held : row.heldBy claim = true
  claimed : row.state = .claimed
  unexpired : row.leaseExpiresAt.any (now < ·) = true
  exact_binding : s.effectBinding claim.command.scope row = some claim.command.expected
  authorized : authorizationCheck claim.command = .ok true
  nameFree : s.taskNameTaken claim.key taskName = false
  nameStorable : nulFree [taskName] = true

/-- `permit_effect` finds the effect already started, or starts it. -/
theorem permitEffect_ok {claim : NativeDispatchClaim} {taskName : String}
    {authorizationCheck : NativeDispatchCommand → Except Failure Bool} {now : Datetime}
    {d : AppendDisposition}
    (h : permitEffect claim taskName authorizationCheck now s = .ok (d, s')) :
    (∃ row, s.commands.lookup claim.key = some row ∧ row.heldBy claim = true ∧
        row.state = .effectStarted ∧ row.kubernetesTaskName = some taskName ∧
        d = .replayed ∧ s' = s) ∨
      ∃ row, Permitted s row claim taskName authorizationCheck now ∧ d = .appended ∧
        s' = ((s.setCommand claim.key (row.started taskName now)).setAttemptState
          claim.command.attemptKey .running).addFact claim.key .effectStarted
          (startedRecord claim.claimGeneration.value taskName) := by
  unfold permitEffect at h
  obtain ⟨row, hl, h⟩ := bind_eq_ok.mp h
  obtain ⟨-, hf, hh⟩ := lockedClaim_ok hl
  split at h
  · next hs =>
    rw [ite_error_eq_ok'] at h
    obtain ⟨hn, h⟩ := h
    cases h
    exact .inl ⟨row, hf, hh, hs, not_not.mp hn, rfl, rfl⟩
  · rw [ite_error_eq_ok'] at h
    obtain ⟨hs, h⟩ := h
    rw [ite_error_eq_ok'] at h
    obtain ⟨hb, h⟩ := h
    obtain ⟨authorized, ha, h⟩ := bind_eq_ok.mp h
    rw [ite_error_eq_ok'] at h
    obtain ⟨ht, h⟩ := h
    rw [ite_error_eq_ok'] at h
    obtain ⟨hn, h⟩ := h
    obtain ⟨s₁, hd, h⟩ := bind_eq_ok.mp h
    obtain ⟨-, -, rfl⟩ := dispatchFact_ok hd
    cases h
    push Not at hs
    simp only [Bool.not_eq_true', Bool.not_eq_false] at ht
    subst ht
    simp only [Bool.or_eq_true, Bool.not_eq_true', not_or, Bool.not_eq_false,
      Bool.not_eq_true] at hn
    exact .inr ⟨row, ⟨hf, hh, hs.1, hs.2, not_not.mp hb, ha, hn.2, hn.1⟩, rfl, rfl⟩

/-- A correlation is replayed or recorded once. -/
theorem recordKubernetesCorrelation_ok {claim : NativeDispatchClaim} {taskName taskUid : String}
    {d : AppendDisposition}
    (h : recordKubernetesCorrelation claim taskName taskUid s = .ok (d, s')) :
    ∃ row, s.commands.lookup claim.key = some row ∧ row.heldBy claim = true ∧
      row.state = .effectStarted ∧ row.kubernetesTaskName = some taskName ∧
      ((row.kubernetesTaskUid = some taskUid ∧ d = .replayed ∧ s' = s) ∨
        (row.kubernetesTaskUid = none ∧ nulFree [taskUid] = true ∧ d = .appended ∧
          s' = (s.setCommand claim.key { row with kubernetesTaskUid := some taskUid }).addFact
            claim.key .correlated (correlatedRecord taskName taskUid))) := by
  unfold recordKubernetesCorrelation at h
  rw [ite_error_eq_ok'] at h
  obtain ⟨-, h⟩ := h
  obtain ⟨row, hl, h⟩ := bind_eq_ok.mp h
  obtain ⟨-, hf, hh⟩ := lockedClaim_ok hl
  rw [ite_error_eq_ok'] at h
  obtain ⟨hs, h⟩ := h
  rw [ite_error_eq_ok'] at h
  obtain ⟨hn, h⟩ := h
  refine ⟨row, hf, hh, not_not.mp hs, not_not.mp hn, ?_⟩
  split at h
  · next uid e =>
    rw [ite_error_eq_ok'] at h
    obtain ⟨hu, h⟩ := h
    cases h
    exact .inl ⟨by rw [e, not_not.mp hu], rfl, rfl⟩
  · next e =>
    rw [ite_error_eq_ok'] at h
    obtain ⟨hu, h⟩ := h
    obtain ⟨s₁, hd, h⟩ := bind_eq_ok.mp h
    obtain ⟨-, -, rfl⟩ := dispatchFact_ok hd
    cases h
    exact .inr ⟨e, by simpa using hu, rfl, rfl⟩

/-- An uncertain terminal is replayed by its digest or recorded once. -/
theorem recordUncertain_ok {claim : NativeDispatchClaim} {o : NativeTerminalObservation}
    {d : AppendDisposition} (h : recordUncertain claim o s = .ok (d, s')) :
    o.kind.isUncertain = true ∧ o.commandId = claim.command.commandId ∧
      ∃ row, s.commands.lookup claim.key = some row ∧ row.heldBy claim = true ∧
        row.kubernetesTaskName = some o.kubernetesTaskName.value ∧
        ((row.terminalObservationDigest = some o.digest ∧ d = .replayed ∧ s' = s) ∨
          (row.terminalObservationDigest = none ∧ row.state = .effectStarted ∧ d = .appended ∧
            s' = ((s.setCommand claim.key (row.terminated o)).setAttemptState
              claim.command.attemptKey o.kind.controlState).addFact claim.key
              (.terminal o.kind) o.payload)) := by
  unfold recordUncertain at h
  rw [ite_error_eq_ok'] at h
  obtain ⟨hk, h⟩ := h
  rw [ite_error_eq_ok'] at h
  obtain ⟨hc, h⟩ := h
  obtain ⟨row, hl, h⟩ := bind_eq_ok.mp h
  obtain ⟨-, hf, hh⟩ := lockedClaim_ok hl
  rw [ite_error_eq_ok'] at h
  obtain ⟨hn, h⟩ := h
  refine ⟨by simpa using hk, not_not.mp hc, row, hf, hh, not_not.mp hn, ?_⟩
  split at h
  · next digest e =>
    rw [ite_error_eq_ok'] at h
    obtain ⟨hd, h⟩ := h
    cases h
    exact .inl ⟨by rw [e, not_not.mp hd], rfl, rfl⟩
  · next e =>
    rw [ite_error_eq_ok'] at h
    obtain ⟨hs, h⟩ := h
    rw [ite_error_eq_ok'] at h
    obtain ⟨-, h⟩ := h
    rw [ite_error_eq_ok'] at h
    obtain ⟨-, h⟩ := h
    obtain ⟨s₁, hd, h⟩ := bind_eq_ok.mp h
    obtain ⟨-, -, rfl⟩ := dispatchFact_ok hd
    cases h
    exact .inr ⟨e, not_not.mp hs, rfl, rfl⟩

/-! ### Completion -/

theorem completionRow_ok {claim : NativeDispatchClaim} {o : NativeTerminalObservation}
    {row : CommandRow} (h : completionRow claim o s = .ok row) :
    s.commands.lookup claim.key = some row ∧ row.heldBy claim = true ∧
      row.kubernetesTaskName = some o.kubernetesTaskName.value ∧
      row.kubernetesTaskUid = o.kubernetesTaskUid.map (·.value) := by
  unfold completionRow at h
  rw [ite_error_eq_ok'] at h
  obtain ⟨-, h⟩ := h
  split at h
  · cases h
  · next row' e =>
    rw [ite_error_eq_ok] at h
    obtain ⟨hh, h⟩ := h
    cases h
    simp only [Bool.and_eq_true, decide_eq_true_eq] at hh
    exact ⟨e, hh.1.1, hh.1.2, hh.2⟩

theorem markTerminal_ok {checkpoint : String → Except Failure Unit} {claim : NativeDispatchClaim}
    {o : NativeTerminalObservation} {row : CommandRow} {b : Bool}
    (h : markTerminal checkpoint claim o row s = .ok (b, s')) :
    (row.terminalObservationDigest = some o.digest ∧ b = true ∧ s' = s) ∨
      (row.terminalObservationDigest = none ∧ row.state = .effectStarted ∧ b = false ∧
        s' = (s.setCommand claim.key (row.terminated o)).setAttemptState
          claim.command.attemptKey o.kind.controlState) := by
  unfold markTerminal at h
  split at h
  · next digest e =>
    rw [ite_error_eq_ok'] at h
    obtain ⟨hd, h⟩ := h
    cases h
    exact .inl ⟨by rw [e, not_not.mp hd], rfl, rfl⟩
  · next e =>
    rw [ite_error_eq_ok'] at h
    obtain ⟨hs, h⟩ := h
    rw [ite_error_eq_ok'] at h
    obtain ⟨-, h⟩ := h
    obtain ⟨-, -, h⟩ := bind_eq_ok.mp h
    rw [ite_error_eq_ok'] at h
    obtain ⟨-, h⟩ := h
    obtain ⟨-, -, h⟩ := bind_eq_ok.mp h
    cases h
    exact .inr ⟨e, not_not.mp hs, rfl, rfl⟩

/-- An evidence item is inserted under a new id, or is stored already. -/
theorem appendEvidence_ok {scope : ScopeIdentity} {item : ExecutionEvidenceRecord} {b : Bool}
    (h : appendEvidence scope item s = .ok (b, s')) :
    ((∀ r ∈ s.evidence, r.evidenceRecordId ≠ item.evidenceRecordId) ∧ b = true ∧
        s' = { s with evidence := s.evidence ++ [evidenceRow scope item] }) ∨
      (∃ r ∈ s.evidence, r.evidenceRecordId = item.evidenceRecordId ∧
        r.canonicalBytes = item.canonicalBytes ∧ b = false ∧ s' = s) := by
  unfold appendEvidence at h
  rw [ite_error_eq_ok'] at h
  obtain ⟨-, h⟩ := h
  split at h
  · next e =>
    rw [ite_error_eq_ok'] at h
    obtain ⟨-, h⟩ := h
    cases h
    simp only [List.find?_eq_none, decide_eq_true_eq] at e
    exact .inl ⟨e, rfl, rfl⟩
  · next stored e =>
    rw [ite_error_eq_ok'] at h
    obtain ⟨hc, h⟩ := h
    cases h
    push Not at hc
    have hid := List.find?_some e
    simp only [decide_eq_true_eq] at hid
    exact .inr ⟨stored, List.mem_of_find?_eq_some e, hid, hc.2, rfl, rfl⟩

/-- The evidence loop only adds evidence. -/
theorem appendEvidenceItems_ok {checkpoint : String → Except Failure Unit}
    {scope : ScopeIdentity} {items : List ExecutionEvidenceRecord} {b : Bool}
    (h : appendEvidenceItems checkpoint scope items s = .ok (b, s')) :
    ∃ new, s' = { s with evidence := s.evidence ++ new } := by
  induction items generalizing s b with
  | nil =>
    cases h
    exact ⟨[], by simp⟩
  | cons item items ih =>
    obtain ⟨⟨b₁, s₁⟩, h₁, h⟩ := bind_eq_ok.mp h
    obtain ⟨-, -, h⟩ := bind_eq_ok.mp h
    obtain ⟨⟨b₂, s₂⟩, h₂, h⟩ := bind_eq_ok.mp h
    cases h
    obtain ⟨new, rfl⟩ := ih h₂
    rcases appendEvidence_ok h₁ with ⟨-, -, rfl⟩ | ⟨r, -, -, -, -, rfl⟩
    · exact ⟨evidenceRow scope item :: new, by simp⟩
    · exact ⟨new, rfl⟩

/-- The outcome is inserted under a new id, or is stored already. -/
theorem appendOutcome_ok {k : RowKey} {workflowRunId : String} {outcome : Json} {b : Bool}
    (h : appendOutcome k workflowRunId outcome s = .ok (b, s')) :
    ((∀ r ∈ s.outcomes, r.key ≠ k) ∧ b = true ∧
        s' = { s with outcomes :=
          s.outcomes ++ [⟨k, workflowRunId, factDigest outcome, outcome⟩] }) ∨
      (∃ r ∈ s.outcomes, r.key = k ∧ r.digest = factDigest outcome ∧ b = false ∧ s' = s) := by
  unfold appendOutcome at h
  rw [ite_error_eq_ok'] at h
  obtain ⟨-, h⟩ := h
  split at h
  · next e =>
    rw [ite_error_eq_ok'] at h
    obtain ⟨-, h⟩ := h
    cases h
    simp only [List.find?_eq_none, decide_eq_true_eq] at e
    exact .inl ⟨e, rfl, rfl⟩
  · next stored e =>
    rw [ite_error_eq_ok'] at h
    obtain ⟨hc, h⟩ := h
    cases h
    push Not at hc
    have hid := List.find?_some e
    simp only [decide_eq_true_eq] at hid
    exact .inr ⟨stored, List.mem_of_find?_eq_some e, hid, hc.1, rfl, rfl⟩

theorem appendTerminalFact_ok {k : RowKey} {o : NativeTerminalObservation}
    (h : appendTerminalFact k o s = .ok s') :
    (s.factExists k (.terminal o.kind) (factDigest o.payload) = true ∧ s' = s) ∨
      (s.factExists k (.terminal o.kind) (factDigest o.payload) = false ∧
        s' = s.addFact k (.terminal o.kind) o.payload) := by
  unfold appendTerminalFact at h
  rw [ite_error_eq_ok'] at h
  obtain ⟨-, h⟩ := h
  split at h
  · next e =>
    cases h
    exact .inl ⟨e, rfl⟩
  · next e =>
    cases h
    exact .inr ⟨by simpa using e, rfl⟩

/-- The stages of a completion that returned. -/
structure Completed (checkpoint : String → Except Failure Unit) (claim : NativeDispatchClaim)
    (o : NativeTerminalObservation) (evidence : List ExecutionEvidenceRecord)
    (outcomeId workflowRunId : String) (outcome : Json) (d : AppendDisposition)
    (s s' : Store) (row : CommandRow) (s₁ s₂ s₃ : Store) (replayed newEvidence newOutcome : Bool) :
    Prop where
  locked : completionRow claim o s = .ok row
  marked : markTerminal checkpoint claim o row s = .ok (replayed, s₁)
  active : s.bindings.evidenceCutover = (.postgresActive, .postgres)
  evidenced : appendEvidenceItems checkpoint claim.command.scope evidence s₁ = .ok (newEvidence, s₂)
  concluded : appendOutcome (claim.command.scope.key outcomeId) workflowRunId outcome s₂
    = .ok (newOutcome, s₃)
  recorded : appendTerminalFact claim.key o s₃ = .ok s'
  disposition : d = if replayed && !newEvidence && !newOutcome then .replayed else .appended

theorem markTerminal_bindings {checkpoint : String → Except Failure Unit}
    {claim : NativeDispatchClaim} {o : NativeTerminalObservation} {row : CommandRow} {b : Bool}
    (h : markTerminal checkpoint claim o row s = .ok (b, s')) : s'.bindings = s.bindings := by
  rcases markTerminal_ok h with ⟨-, -, rfl⟩ | ⟨-, -, -, rfl⟩ <;> rfl

theorem appendNativeCompletion_ok {checkpoint : String → Except Failure Unit}
    {claim : NativeDispatchClaim} {o : NativeTerminalObservation}
    {evidence : List ExecutionEvidenceRecord} {outcomeId workflowRunId : String} {outcome : Json}
    {d : AppendDisposition}
    (h : appendNativeCompletion checkpoint claim o evidence outcomeId workflowRunId outcome s
      = .ok (d, s')) :
    ∃ row s₁ s₂ s₃ replayed newEvidence newOutcome,
      Completed checkpoint claim o evidence outcomeId workflowRunId outcome d s s' row s₁ s₂ s₃
        replayed newEvidence newOutcome := by
  unfold appendNativeCompletion at h
  obtain ⟨row, hl, h⟩ := bind_eq_ok.mp h
  obtain ⟨⟨replayed, s₁⟩, hm, h⟩ := bind_eq_ok.mp h
  simp only at h
  rw [ite_error_eq_ok'] at h
  obtain ⟨hc, h⟩ := h
  obtain ⟨⟨newEvidence, s₂⟩, he, h⟩ := bind_eq_ok.mp h
  obtain ⟨⟨newOutcome, s₃⟩, ho, h⟩ := bind_eq_ok.mp h
  obtain ⟨-, -, h⟩ := bind_eq_ok.mp h
  obtain ⟨s₄, hf, h⟩ := bind_eq_ok.mp h
  cases h
  have ha : s.bindings.evidenceCutover = (.postgresActive, .postgres) := by
    rw [← markTerminal_bindings hm]
    exact not_not.mp hc
  exact ⟨row, s₁, s₂, s₃, replayed, newEvidence, newOutcome, hl, hm, ha, he, ho, hf, rfl⟩

/-! ### Generated identifiers -/

theorem suffix_harmless (c : NativeDispatchCommand) (o : NativeTerminalObservation) :
    ∀ x ∈ (completionSuffix c o).toList, x ∈ Evidence.harmlessChars := by
  have hex : ∀ x ∈ ['0', '1', '2', '3', '4', '5', '6', '7', '8', '9', 'a', 'b', 'c', 'd', 'e',
      'f'], x ∈ Evidence.harmlessChars := by decide
  intro x hm
  have hx := isHexDigit_of_mem_hexdigest hm
  simp only [isHexDigit, decide_eq_true_eq] at hx
  exact hex x hx

theorem evidenceId_harmless (c : NativeDispatchCommand) (o : NativeTerminalObservation) :
    ∀ x ∈ (evidenceId c o).toList, x ∈ Evidence.harmlessChars := by
  have hp : ∀ x ∈ "native-evidence-".toList, x ∈ Evidence.harmlessChars := by decide
  intro x hm
  rw [evidenceId, String.toList_append, List.mem_append] at hm
  rcases hm with hm | hm
  · exact hp x hm
  · exact suffix_harmless c o x hm

theorem outcomeId_harmless (c : NativeDispatchCommand) (o : NativeTerminalObservation) :
    ∀ x ∈ (outcomeId c o).toList, x ∈ Evidence.harmlessChars := by
  have hp : ∀ x ∈ "native-outcome-".toList, x ∈ Evidence.harmlessChars := by decide
  intro x hm
  rw [outcomeId, String.toList_append, List.mem_append] at hm
  rcases hm with hm | hm
  · exact hp x hm
  · exact suffix_harmless c o x hm

/-- A `complete` that returned read the attempt, built one evidence record and
appended the completion. -/
theorem complete_ok {checkpoint : String → Except Failure Unit} {claim : NativeDispatchClaim}
    {o : NativeTerminalObservation} {d : AppendDisposition}
    (h : complete checkpoint claim o s = .ok (d, s')) :
    ∃ attempt evidence, s.attempts claim.command.attemptKey = some attempt ∧
      ExecutionEvidenceRecord.fromAllowlisted (completionEvidence claim.command o attempt)
        = .ok evidence ∧
      o.kind.isUncertain = false ∧ o.commandId = claim.command.commandId ∧
      evidenceMatches claim.command.scope attempt.record evidence = true ∧
      claim.command.attemptId.value = attempt.record.attemptId.value ∧
      appendNativeCompletion checkpoint claim o [evidence] (outcomeId claim.command o)
        attempt.record.workflowRunId.value (completionOutcome claim.command o attempt).record s
        = .ok (d, s') := by
  unfold complete at h
  obtain ⟨attempt, ha, h⟩ := bind_eq_ok.mp h
  rw [getAttempt, ite_error_eq_ok'] at ha
  obtain ⟨-, ha⟩ := ha
  cases ha
  split at h
  · cases h
  · next attempt ea =>
    obtain ⟨evidence, he, h⟩ := bind_eq_ok.mp h
    unfold recordNative at h
    simp only at h
    rw [ite_error_eq_ok'] at h
    obtain ⟨hk, h⟩ := h
    rw [ite_error_eq_ok'] at h
    obtain ⟨hc, h⟩ := h
    obtain ⟨attempt', ha', h⟩ := bind_eq_ok.mp h
    rw [getAttempt, ite_error_eq_ok'] at ha'
    obtain ⟨-, ha'⟩ := ha'
    cases ha'
    rw [ea] at h
    simp only at h
    rw [ite_error_eq_ok'] at h
    obtain ⟨hm, h⟩ := h
    rw [ite_error_eq_ok'] at h
    obtain ⟨ho, h⟩ := h
    have ho := not_not.mp ho
    simp only [completionOutcome, NativeOutcome.mk.injEq] at ho
    refine ⟨attempt, evidence, ea, he, by simpa using hk, not_not.mp hc, ?_, ho.2.2.2.1, h⟩
    by_contra hn
    exact hm (.inr (by simpa using hn))

/-- After the row is marked, the completion touches neither rows nor attempts. -/
theorem Completed.frame {checkpoint : String → Except Failure Unit}
    {claim : NativeDispatchClaim} {o : NativeTerminalObservation}
    {evidence : List ExecutionEvidenceRecord} {outcomeId workflowRunId : String} {outcome : Json}
    {d : AppendDisposition} {row : CommandRow} {s₁ s₂ s₃ : Store} {b₁ b₂ b₃ : Bool}
    (h : Completed checkpoint claim o evidence outcomeId workflowRunId outcome d s s' row s₁ s₂ s₃
      b₁ b₂ b₃) :
    s₃.commands = s₁.commands ∧ s₃.facts = s₁.facts ∧ s₃.attempts = s₁.attempts ∧
      s₃.bindings = s₁.bindings := by
  obtain ⟨new, rfl⟩ := appendEvidenceItems_ok h.evidenced
  rcases appendOutcome_ok h.concluded with ⟨-, -, e⟩ | ⟨r, -, -, -, -, e⟩
  · rw [e]
    exact ⟨rfl, rfl, rfl, rfl⟩
  · rw [e]
    exact ⟨rfl, rfl, rfl, rfl⟩

end Specs

end AgentPlatform
