/-
AgentPlatform/Dispatch/Endings.lean

When the two calls that end a started command return.

`Specs` says what follows from a call that returned; here the guards of
`record_uncertain` and of `complete` are collected into conditions that are
also sufficient (`recordUncertain_started`, `complete_started`). Both are about
a row that is `EFFECT_STARTED` and held by the claim that is presented.
-/
import AgentPlatform.Dispatch.Ledger

namespace AgentPlatform

open Py

section Endings

variable [Unicodedata]

/-! ### Storable texts -/

omit [Unicodedata] in
theorem nulFree_iff {texts : List String} :
    nulFree texts = true ↔ ∀ t ∈ texts, '\x00' ∉ t.toList := by
  simp [nulFree]

omit [Unicodedata] in
theorem nulFree_append {texts texts' : List String} :
    nulFree (texts ++ texts') = true ↔ nulFree texts = true ∧ nulFree texts' = true := by
  simp [nulFree_iff, or_imp, forall_and]

def NativeTerminalObservation.texts (o : NativeTerminalObservation) : List String :=
  [o.commandId.value, o.kubernetesTaskName.value] ++ (o.kubernetesTaskUid.map (·.value)).toList ++
    (o.output.map (·.value)).toList ++ (o.reason.map (·.value)).toList

omit [Unicodedata] in
theorem NativeTerminalKind.value_no_nul (k : NativeTerminalKind) : '\x00' ∉ k.value.toList := by
  cases k <;> decide

theorem NativeTerminalObservation.payload_nulFree (o : NativeTerminalObservation) :
    o.payload.nulFree = true ↔ nulFree o.texts = true := by
  have hkeys : ∀ k ∈ ["command_id", "kind", "kubernetes_task_name", "kubernetes_task_uid",
      "output", "reason", "observed_at"], '\x00' ∉ k.toList := by decide
  rw [payload, Json.nulFree_obj, texts, nulFree_append, nulFree_append, nulFree_append]
  simp only [List.mem_cons, List.not_mem_nil, or_false, forall_eq_or_imp, forall_eq] at hkeys
  simp only [fields, List.mem_cons, List.not_mem_nil, or_false, forall_eq_or_imp, forall_eq,
    hkeys, Json.nulFree_str, Json.nulFree_optStr, o.kind.value_no_nul,
    o.observedAt.isoformatZ_no_nul, nulFree_iff, Option.mem_toList]
  tauto

/-! ### Uncertain ends -/

variable {s : Store}

/-- The invariant of facts that a started row has no terminal fact yet. -/
def TerminalFacts (s : Store) : Prop :=
  ∀ f ∈ s.facts, ∀ kind, f.kind = .terminal kind →
    ∃ row, s.commands.lookup f.key = some row ∧ row.state.isTerminal = true

theorem TerminalFacts.none_started (h : TerminalFacts s) {k : RowKey} {row : CommandRow}
    (hl : s.commands.lookup k = some row) (hs : row.state = .effectStarted)
    (kind : NativeTerminalKind) (d : String) : s.factExists k (.terminal kind) d = false := by
  rw [← Bool.not_eq_true]
  intro he
  simp only [Store.factExists, List.any_eq_true, decide_eq_true_eq] at he
  obtain ⟨f, hf, rfl, hkind, -⟩ := he
  obtain ⟨row', hl', ht⟩ := h f hf kind hkind
  rw [hl] at hl'
  cases hl'
  rw [hs] at ht
  cases ht

/-- A claim on a row that has started, as the row's holder presents it. -/
structure StartedClaim (s : Store) (claim : NativeDispatchClaim) (row : CommandRow) : Prop where
  columns : ColumnInv claim.key row
  found : s.commands.lookup claim.key = some row
  held : row.heldBy claim = true
  command : row.payload = claim.command
  started : row.state = .effectStarted

theorem StartedClaim.storable {claim : NativeDispatchClaim} {row : CommandRow}
    (h : StartedClaim s claim row) : nulFree claim.command.texts = true := by
  rw [← h.command]
  exact h.columns.storable

theorem StartedClaim.locked {claim : NativeDispatchClaim} {row : CommandRow}
    (h : StartedClaim s claim row) : lockedClaim claim s = .ok row := by
  have hn : nulFree claim.key.texts = true := claim.command.nulFree_key h.storable
  rw [lockedClaim, hn, h.found]
  simp only [Bool.not_true, Bool.false_eq_true, if_false, h.held, if_true]

theorem StartedClaim.digest_none {claim : NativeDispatchClaim} {row : CommandRow}
    (h : StartedClaim s claim row) : row.terminalObservationDigest = none :=
  h.columns.digest_none (by rw [h.started]; rfl)

/-- **`record_uncertain` on a started row** returns exactly when the observation
is uncertain, names the row's Task and can be stored. -/
theorem recordUncertain_started {claim : NativeDispatchClaim} {row : CommandRow}
    (h : StartedClaim s claim row) (hf : TerminalFacts s) {o : NativeTerminalObservation}
    (hc : o.commandId = claim.command.commandId) :
    (∃ r, recordUncertain claim o s = .ok r) ↔
      o.kind.isUncertain = true ∧ row.kubernetesTaskName = some o.kubernetesTaskName.value ∧
        (row.kubernetesTaskUid = none ∨
          row.kubernetesTaskUid = o.kubernetesTaskUid.map (·.value)) ∧
        nulFree o.texts = true := by
  have hn : nulFree claim.command.attemptKey.texts = true :=
    claim.command.nulFree_attemptKey h.storable
  have hfact : dispatchFact claim.key (.terminal o.kind) o.payload
      ((s.setCommand claim.key (row.terminated o)).setAttemptState claim.command.attemptKey
        o.kind.controlState) = if o.payload.nulFree then
          .ok (((s.setCommand claim.key (row.terminated o)).setAttemptState
            claim.command.attemptKey o.kind.controlState).addFact claim.key (.terminal o.kind)
              o.payload)
        else .error storageConflict := by
    have hx : ((s.setCommand claim.key (row.terminated o)).setAttemptState claim.command.attemptKey
        o.kind.controlState).factExists claim.key (.terminal o.kind) (factDigest o.payload) = false :=
      hf.none_started h.found h.started o.kind (factDigest o.payload)
    rw [dispatchFact, hx, Bool.not_false, Bool.and_true]
  rw [← o.payload_nulFree]
  unfold recordUncertain
  simp only [h.locked, bind, Except.bind, h.digest_none, h.started, ne_eq, not_true_eq_false,
    if_false, hc, hn, Bool.not_true, Bool.or_false, hfact]
  constructor
  · rintro ⟨r, hr⟩
    rw [ite_error_eq_ok'] at hr
    obtain ⟨hk, hr⟩ := hr
    rw [ite_error_eq_ok'] at hr
    obtain ⟨hname, hr⟩ := hr
    rw [ite_error_eq_ok'] at hr
    obtain ⟨huid, hr⟩ := hr
    rw [ite_error_eq_ok'] at hr
    obtain ⟨hnul, -⟩ := hr
    refine ⟨by simpa using hk, not_not.mp hname, ?_, by simpa using hnul⟩
    rcases e : row.kubernetesTaskUid with _ | uid
    · exact .inl rfl
    · refine .inr ?_
      by_contra hne
      exact huid ⟨by rw [e]; rfl, fun heq => hne (by rw [heq, e])⟩
  · rintro ⟨hk, hname, huid, hnul⟩
    have hguard : ¬ (row.kubernetesTaskUid.isSome = true ∧
        ¬ o.kubernetesTaskUid.map (·.value) = row.kubernetesTaskUid) := by
      rintro ⟨hsome, hne⟩
      rcases huid with e | e
      · rw [e] at hsome
        cases hsome
      · exact hne e.symm
    simp only [hk, hname, hnul, hguard, Bool.not_true, Bool.false_eq_true, if_false,
      not_true_eq_false, if_true]
    exact ⟨_, rfl⟩

/-! ### The evidence of a completion -/

/-- On ASCII texts `_text` does not depend on normalisation. -/
theorem accepts_of_ascii {p : List Char → Bool} {value : String}
    (ha : ∀ c ∈ value.toList, c.toNat < 128)
    (h : (strip value ≠ "" && value.length ≤ Evidence.maxText && !Evidence.sensitive value.toList &&
      !Evidence.hostPath value.toList && p value.toList) = true) :
    Evidence.accepts p value = true := by
  rw [Evidence.accepts, Unicodedata.nfc_ascii value ha]
  exact h

theorem accepts_evidenceId (c : NativeDispatchCommand) (o : NativeTerminalObservation) :
    Evidence.accepts Evidence.isIdentity (evidenceId c o) = true := by
  refine Evidence.accepts_harmless (evidenceId_harmless c o)
    ⟨'n', "ative-evidence-".toList ++ (completionSuffix c o).toList, ?_, by decide⟩ ?_
  · rw [evidenceId, String.toList_append]
    rfl
  · rw [evidenceId, String.length_append, completionSuffix, hexdigest_length]
    decide

theorem accepts_outcomeId (c : NativeDispatchCommand) (o : NativeTerminalObservation) :
    Evidence.accepts Evidence.isIdentity (outcomeId c o) = true := by
  refine Evidence.accepts_harmless (outcomeId_harmless c o)
    ⟨'n', "ative-outcome-".toList ++ (completionSuffix c o).toList, ?_, by decide⟩ ?_
  · rw [outcomeId, String.toList_append]
    rfl
  · rw [outcomeId, String.length_append, completionSuffix, hexdigest_length]
    decide

theorem accepts_native : Evidence.accepts Evidence.isIdentity "NATIVE" = true :=
  accepts_of_ascii (by decide) (by decide +kernel)

theorem accepts_limitation : Evidence.accepts Evidence.isCode "MODEL_INVOCATION_NOT_PROVEN" = true :=
  accepts_of_ascii (by decide) (by decide +kernel)

theorem accepts_reasonCode {k : NativeTerminalKind} (h : k.isUncertain = false) :
    Evidence.accepts Evidence.isCode ("NATIVE_EXECUTION_" ++ k.value) = true := by
  cases k with
  | succeeded => exact accepts_of_ascii (by decide) (by decide +kernel)
  | failed => exact accepts_of_ascii (by decide) (by decide +kernel)
  | unknown => cases h
  | recoveryRequired => cases h

/-- The classification of a certain kind. -/
def NativeTerminalKind.classification : NativeTerminalKind → OutcomeClassification
  | succeeded => .succeeded
  | failed => .failed
  | unknown | recoveryRequired => .unknown

omit [Unicodedata] in
theorem ofValue_certain {k : NativeTerminalKind} (h : k.isUncertain = false) :
    OutcomeClassification.ofValue k.value = .ok k.classification := by
  cases k with
  | succeeded => rfl
  | failed => rfl
  | unknown => cases h
  | recoveryRequired => cases h

/-- The identities a completion passes on as evidence. -/
def completionTexts (c : NativeDispatchCommand) (o : NativeTerminalObservation)
    (attempt : AttemptRow) : List String :=
  [c.scope.namespaceName.value, c.scope.securityDomain.value, c.attemptId.value,
    attempt.record.workflowRunId.value, attempt.record.taskRunId.value,
    c.runtimeInstanceId.value] ++ (o.kubernetesTaskUid.map (·.value)).toList

/-- The evidence of a certain observation is accepted as soon as the identities
are and the attempt has an ordinal. -/
theorem completionEvidence_accepted {c : NativeDispatchCommand} {o : NativeTerminalObservation}
    {attempt : AttemptRow} {n : Int} {k : OutcomeClassification} (hk : o.kind.isUncertain = false) :
    ExecutionEvidenceRecord.Accepted (completionEvidence c o attempt) n k ↔
      k = o.kind.classification ∧ attempt.attemptOrdinal = some n ∧ 1 ≤ n ∧
        ∀ t ∈ completionTexts c o attempt, Evidence.accepts Evidence.isIdentity t = true := by
  constructor
  · intro h
    have ho := h.outcome
    rw [show (completionEvidence c o attempt).outcomeClassification = o.kind.value from rfl,
      ofValue_certain hk] at ho
    refine ⟨(Except.ok.inj ho).symm, h.ordinal, h.positive.1, fun t ht => ?_⟩
    simp only [completionTexts, List.mem_append, List.mem_cons, List.not_mem_nil, or_false,
      Option.mem_toList] at ht
    rcases ht with (rfl | rfl | rfl | rfl | rfl | rfl) | ht
    · exact h.identities _ (by simp [completionEvidence])
    · exact h.identities _ (by simp [completionEvidence])
    · exact h.identities _ (by simp [completionEvidence])
    · exact h.identities _ (by simp [completionEvidence])
    · exact h.identities _ (by simp [completionEvidence])
    · exact h.identities _ (by simp [completionEvidence])
    · exact h.optional _ (by simp [completionEvidence]) t ht
  · rintro ⟨rfl, hn, hpos, ht⟩
    simp only [completionTexts, List.mem_append, List.mem_cons, List.not_mem_nil, or_false,
      Option.mem_toList, or_imp, forall_and, forall_eq] at ht
    obtain ⟨⟨h₁, h₂, h₃, h₄, h₅, h₆⟩, hu⟩ := ht
    refine ⟨ofValue_certain hk, ?_, hn, ⟨hpos, le_rfl, Int.one_nonneg⟩, rfl,
      accepts_reasonCode hk, ?_, ?_, ⟨Nat.zero_le _, List.nodup_nil⟩, fun h => ?_⟩
    · simp [completionEvidence, accepts_evidenceId, accepts_native, h₁, h₂, h₃, h₄, h₅, h₆]
    · simp only [completionEvidence, List.mem_cons, List.not_mem_nil, or_false]
      rintro x (rfl | rfl | rfl | rfl) t ht
      · cases ht
      · exact hu t ht
      · cases ht
        exact accepts_outcomeId c o
      · cases ht
    · rintro t ⟨⟩
      exact accepts_limitation
    · cases h

/-- A text that matches one of the evidence patterns can be stored. -/
theorem accepts_no_nul {p : List Char → Bool} (hp : p = Evidence.isIdentity ∨ p = Evidence.isCode)
    {value : String} (h : Evidence.accepts p value = true) : '\x00' ∉ (nfc value).toList := by
  simp only [Evidence.accepts, Bool.and_eq_true] at h
  have hpat := h.2
  intro hm
  rcases e : (nfc value).toList with _ | ⟨c, cs⟩
  · rw [e] at hm
    cases hm
  · rw [e] at hm hpat
    rcases hp with rfl | rfl
    · simp only [Evidence.isIdentity, Bool.and_eq_true, List.all_eq_true] at hpat
      rcases List.mem_cons.mp hm with rfl | hm
      · exact absurd hpat.1.1 (by decide)
      · exact absurd (hpat.1.2 _ hm) (by decide)
    · simp only [Evidence.isCode, Bool.and_eq_true, List.all_eq_true] at hpat
      rcases List.mem_cons.mp hm with rfl | hm
      · exact absurd hpat.1.1 (by decide)
      · exact absurd (hpat.1.2 _ hm) (by decide)

/-- The record of an accepted mapping without references can be stored. -/
theorem normalized_nulFree {source : EvidenceSource} {n : Int} {k : OutcomeClassification}
    (h : ExecutionEvidenceRecord.Accepted source n k) (hr : source.references = []) :
    (ExecutionEvidenceRecord.normalized source n k).canonicalPayload.nulFree = true := by
  have hi : ∀ {t}, Evidence.accepts Evidence.isIdentity t = true → '\x00' ∉ (nfc t).toList :=
    fun ht => accepts_no_nul (.inl rfl) ht
  have hc : ∀ {t}, Evidence.accepts Evidence.isCode t = true → '\x00' ∉ (nfc t).toList :=
    fun ht => accepts_no_nul (.inr rfl) ht
  have hkeys : ∀ key ∈ (ExecutionEvidenceRecord.normalized source n k).fields.map Prod.fst,
      '\x00' ∉ key.toList := by
    rw [ExecutionEvidenceRecord.fields_keys]
    decide
  have hids := h.identities
  have hopt := h.optional
  simp only [List.mem_cons, List.not_mem_nil, or_false, forall_eq_or_imp, forall_eq] at hids hopt
  have hstrs : (∀ x : EvidenceEventType, '\x00' ∉ x.value.toList) ∧
      (∀ x : AuthorizationDecision, '\x00' ∉ x.value.toList) ∧
      ∀ x : OutcomeClassification, '\x00' ∉ x.value.toList := by
    refine ⟨fun x => ?_, fun x => ?_, fun x => ?_⟩ <;> cases x <;> decide
  have hrefs : (ExecutionEvidenceRecord.normalized source n k).references = [] := by
    simp [ExecutionEvidenceRecord.normalized, ExecutionEvidenceRecord.sortReferences, hr]
  have hmap : ∀ {o : Option String}, (∀ t ∈ o, Evidence.accepts Evidence.isIdentity t = true) →
      (Json.optStr (o.map nfc)).nulFree = true := by
    intro o ho
    rw [Json.nulFree_optStr]
    intro t ht
    obtain ⟨t', ht', rfl⟩ := Option.map_eq_some_iff.mp ht
    exact hi (ho t' ht')
  have hlim : (Json.optStr (source.limitationCode.map nfc)).nulFree = true := by
    rw [Json.nulFree_optStr]
    intro t ht
    obtain ⟨t', ht', rfl⟩ := Option.map_eq_some_iff.mp ht
    exact hc (h.limitation t' ht')
  rw [ExecutionEvidenceRecord.canonicalPayload, Json.nulFree_obj]
  intro p hp
  refine ⟨hkeys _ (List.mem_map_of_mem hp), ?_⟩
  simp only [ExecutionEvidenceRecord.fields, List.mem_cons, List.not_mem_nil, or_false] at hp
  rcases hp with rfl | rfl | rfl | rfl | rfl | rfl | rfl | rfl | rfl | rfl | rfl | rfl | rfl | rfl |
    rfl | rfl | rfl | rfl | rfl | rfl | rfl | rfl | rfl
  · rfl
  · exact Json.nulFree_str.mpr (hi hids.1)
  · exact Json.nulFree_str.mpr (hi hids.2.1)
  · exact Json.nulFree_str.mpr (hi hids.2.2.1)
  · exact Json.nulFree_str.mpr (hi hids.2.2.2.1)
  · exact Json.nulFree_str.mpr (hi hids.2.2.2.2.1)
  · exact Json.nulFree_str.mpr (hi hids.2.2.2.2.2.1)
  · rfl
  · rfl
  · exact Json.nulFree_str.mpr (hstrs.1 _)
  · exact Json.nulFree_str.mpr (Datetime.isoformatZ_no_nul _)
  · exact Json.nulFree_str.mpr (hi hids.2.2.2.2.2.2.1)
  · exact Json.nulFree_str.mpr (hi hids.2.2.2.2.2.2.2)
  · exact hmap hopt.1
  · exact Json.nulFree_str.mpr (hstrs.2.1 _)
  · exact Json.nulFree_str.mpr (hc h.reason)
  · exact hmap hopt.2.1
  · rfl
  · exact Json.nulFree_str.mpr (hstrs.2.2 _)
  · exact hmap hopt.2.2.1
  · simp only [hrefs]
    rfl
  · exact hlim
  · exact hmap hopt.2.2.2

/-! ### Certain ends -/

theorem appendEvidence_isOk {scope : ScopeIdentity} {item : ExecutionEvidenceRecord} :
    (∃ r, appendEvidence scope item s = .ok r) ↔
      evidenceStorable item = true ∧
        (∀ r, s.evidence.find? (fun r => r.evidenceRecordId = item.evidenceRecordId) = some r →
          r.payloadDigest = item.payloadDigest ∧ r.canonicalBytes = item.canonicalBytes) ∧
        (s.evidence.find? (fun r => r.evidenceRecordId = item.evidenceRecordId) = none →
          s.supersedesStored item = true) := by
  unfold appendEvidence
  constructor
  · rintro ⟨r, h⟩
    rw [ite_error_eq_ok'] at h
    obtain ⟨hs, h⟩ := h
    refine ⟨by simpa using hs, fun r' hr' => ?_, fun hn => ?_⟩
    · rw [hr'] at h
      simp only at h
      rw [ite_error_eq_ok'] at h
      push Not at h
      exact h.1
    · rw [hn] at h
      simp only at h
      rw [ite_error_eq_ok'] at h
      simpa using h.1
  · rintro ⟨hs, hfound, hnone⟩
    rcases e : s.evidence.find? (fun r => r.evidenceRecordId = item.evidenceRecordId) with _ | r
    · rw [if_neg (by simp [hs]), e]
      simp only
      rw [if_neg (by simp [hnone e])]
      exact ⟨_, rfl⟩
    · rw [if_neg (by simp [hs]), e]
      simp only
      rw [if_neg (by simp [hfound r e])]
      exact ⟨_, rfl⟩

theorem appendOutcome_isOk {k : RowKey} {workflowRunId : String} {outcome : Json} :
    (∃ r, appendOutcome k workflowRunId outcome s = .ok r) ↔
      outcome.nulFree = true ∧ nulFree (workflowRunId :: k.texts) = true ∧
        (∀ r, s.outcomes.find? (fun r => r.key = k) = some r →
          r.digest = factDigest outcome ∧ r.workflowRunId = workflowRunId) ∧
        (s.outcomes.find? (fun r => r.key = k) = none →
          (s.bindings.workflowRuns { k with id := workflowRunId }).isSome = true) := by
  unfold appendOutcome
  constructor
  · rintro ⟨r, h⟩
    rw [ite_error_eq_ok'] at h
    obtain ⟨hs, h⟩ := h
    simp only [Bool.or_eq_true, Bool.not_eq_true', not_or, Bool.not_eq_false] at hs
    refine ⟨hs.1, hs.2, fun r' hr' => ?_, fun hn => ?_⟩
    · rw [hr'] at h
      simp only at h
      rw [ite_error_eq_ok'] at h
      push Not at h
      exact h.1
    · rw [hn] at h
      simp only at h
      rw [ite_error_eq_ok'] at h
      simpa [Option.isSome_iff_ne_none] using h.1
  · rintro ⟨ho, hk, hfound, hnone⟩
    rcases e : s.outcomes.find? (fun r => r.key = k) with _ | r
    · have hw := hnone e
      rw [Option.isSome_iff_ne_none] at hw
      rw [if_neg (by simp [ho, hk]), e]
      simp only
      rw [if_neg (by simp [hw])]
      exact ⟨_, rfl⟩
    · rw [if_neg (by simp [ho, hk]), e]
      simp only
      rw [if_neg (by simp [hfound r e])]
      exact ⟨_, rfl⟩

/-- The store is ready for the completion of `c` by `o`: the evidence writer is
active, the attempt has an ordinal and identities that are valid evidence, and
whatever is stored under the completion's ids is its own. -/
structure Completable (s : Store) (c : NativeDispatchCommand) (o : NativeTerminalObservation)
    (attempt : AttemptRow) (n : Int) : Prop where
  active : s.bindings.evidenceCutover = (.postgresActive, .postgres)
  stored : s.attempts c.attemptKey = some attempt
  ordinal : attempt.attemptOrdinal = some n
  bounds : 1 ≤ n ∧ n < maxBigint
  identity : attempt.record.attemptId.value = c.attemptId.value
  texts : ∀ t ∈ completionTexts c o attempt, Evidence.accepts Evidence.isIdentity t = true
  evidence : ∀ r, s.evidence.find? (fun r => r.evidenceRecordId = evidenceId c o) = some r →
    let item := ExecutionEvidenceRecord.normalized (completionEvidence c o attempt) n
      o.kind.classification
    r.payloadDigest = item.payloadDigest ∧ r.canonicalBytes = item.canonicalBytes
  outcome : ∀ r, s.outcomes.find? (fun r => r.key = c.scope.key (outcomeId c o)) = some r →
    r.digest = factDigest (completionOutcome c o attempt).record ∧
      r.workflowRunId = attempt.record.workflowRunId.value
  workflow : s.outcomes.find? (fun r => r.key = c.scope.key (outcomeId c o)) = none →
    (s.bindings.workflowRuns (c.scope.key attempt.record.workflowRunId.value)).isSome = true

theorem Completable.item {c : NativeDispatchCommand} {o : NativeTerminalObservation}
    {attempt : AttemptRow} {n : Int} (h : Completable s c o attempt n)
    (hk : o.kind.isUncertain = false) :
    let item := ExecutionEvidenceRecord.normalized (completionEvidence c o attempt) n
      o.kind.classification
    ExecutionEvidenceRecord.fromAllowlisted (completionEvidence c o attempt) = .ok item ∧
      item.evidenceRecordId = evidenceId c o ∧ evidenceStorable item = true ∧
      evidenceMatches c.scope attempt.record item = true := by
  intro item
  have hacc : ExecutionEvidenceRecord.Accepted (completionEvidence c o attempt) n
      o.kind.classification :=
    (completionEvidence_accepted hk).mpr ⟨rfl, h.ordinal, h.bounds.1, h.texts⟩
  refine ⟨ExecutionEvidenceRecord.fromAllowlisted_eq_ok.mpr ⟨n, _, hacc, rfl⟩,
    Evidence.nfc_harmless (evidenceId_harmless c o), ?_, ?_⟩
  · have hn := normalized_nulFree hacc rfl
    have hb : item.attemptOrdinal < maxBigint := h.bounds.2
    have he : item.eventOrdinal < maxBigint := by
      show (1 : Int) < maxBigint
      decide
    simp [evidenceStorable, item, hn, hb, he]
  · have hnfc : ∀ {maximum : Nat} (t : NormalizedText maximum), nfc t.value = t.value :=
      fun t => nfc_of_normalize_eq t.normalized
    simp [evidenceMatches, item, ExecutionEvidenceRecord.normalized, completionEvidence, hnfc,
      h.identity]

/-- The outcome of a ready completion can be stored. -/
theorem Completable.outcome_storable {c : NativeDispatchCommand} {o : NativeTerminalObservation}
    {attempt : AttemptRow} {n : Int} (h : Completable s c o attempt n)
    (hn : nulFree c.texts = true) :
    (completionOutcome c o attempt).record.nulFree = true ∧
      nulFree (attempt.record.workflowRunId.value :: (c.scope.key (outcomeId c o)).texts) = true := by
  have hharmless : ∀ t : String, (∀ x ∈ t.toList, x ∈ Evidence.harmlessChars) → '\x00' ∉ t.toList :=
    fun t ht hm => absurd (ht _ hm) (by decide)
  have hid : ∀ {maximum : Nat} (t : NormalizedText maximum),
      t.value ∈ completionTexts c o attempt → '\x00' ∉ t.value.toList := by
    intro maximum t ht
    have := accepts_no_nul (.inl rfl) (h.texts _ ht)
    rwa [nfc_of_normalize_eq t.normalized] at this
  have hw := hid attempt.record.workflowRunId (by simp [completionTexts])
  have ht := hid attempt.record.taskRunId (by simp [completionTexts])
  have hc := nulFree_iff.mp hn
  have ho := hharmless _ (outcomeId_harmless c o)
  have he := hharmless _ (evidenceId_harmless c o)
  have hkeys : ∀ k ∈ ["outcome_id", "workflow_run_id", "task_run_id", "attempt_id",
      "approved_plan_revision_id", "evidence_ids", "classification", "technical",
      "business_problem_resolved"], '\x00' ∉ k.toList := by decide
  simp only [List.mem_cons, List.not_mem_nil, or_false, forall_eq_or_imp, forall_eq] at hkeys
  constructor
  · have harr : (Json.arr [.str (evidenceId c o)]).nulFree = true := by
      simp [Json.nulFree, Json.nulFreeItems, he]
    rw [NativeOutcome.record, Json.nulFree_obj]
    simp only [List.mem_cons, List.not_mem_nil, or_false, forall_eq_or_imp, forall_eq, hkeys,
      Json.nulFree_str, completionOutcome, List.map_cons, List.map_nil, harr, ho, hw, ht,
      o.kind.value_no_nul, not_false_eq_true, true_and]
    exact ⟨hc _ (by simp [NativeDispatchCommand.texts]),
      hc _ (by simp [NativeDispatchCommand.texts]), rfl, rfl⟩
  · rw [nulFree_iff]
    simp only [RowKey.texts, ScopeIdentity.key, List.mem_cons, List.not_mem_nil, or_false,
      forall_eq_or_imp, forall_eq]
    exact ⟨hw, hc _ (by simp [NativeDispatchCommand.texts]),
      hc _ (by simp [NativeDispatchCommand.texts]), ho⟩

/-- What a completion writes once the row and the attempt are marked. -/
theorem appendNativeCompletion_started {claim : NativeDispatchClaim} {row : CommandRow}
    (h : StartedClaim s claim row) {checkpoint : String → Except Failure Unit}
    (hq : ∀ name, checkpoint name = .ok ()) {o : NativeTerminalObservation}
    {item : ExecutionEvidenceRecord} {outcomeId workflowRunId : String} {outcome : Json} :
    (∃ r, appendNativeCompletion checkpoint claim o [item] outcomeId workflowRunId outcome s
        = .ok r) ↔
      row.kubernetesTaskName = some o.kubernetesTaskName.value ∧
        row.kubernetesTaskUid = o.kubernetesTaskUid.map (·.value) ∧ nulFree o.texts = true ∧
        s.bindings.evidenceCutover = (.postgresActive, .postgres) ∧
        (∃ r, appendEvidence claim.command.scope item s = .ok r) ∧
        ∃ r, appendOutcome (claim.command.scope.key outcomeId) workflowRunId outcome s = .ok r := by
  have hkey : nulFree claim.key.texts = true := claim.command.nulFree_key h.storable
  have hatt : nulFree claim.command.attemptKey.texts = true :=
    claim.command.nulFree_attemptKey h.storable
  -- stages after the first read only tables that it did not write
  have hev : ∀ s₁ : Store, s₁.evidence = s.evidence →
      ((∃ r, appendEvidence claim.command.scope item s₁ = .ok r) ↔
        ∃ r, appendEvidence claim.command.scope item s = .ok r) := by
    intro s₁ he
    rw [appendEvidence_isOk, appendEvidence_isOk, he, Store.supersedesStored, he]
    rfl
  have hout : ∀ s₁ : Store, s₁.outcomes = s.outcomes → s₁.bindings = s.bindings →
      ((∃ r, appendOutcome (claim.command.scope.key outcomeId) workflowRunId outcome s₁ = .ok r) ↔
        ∃ r, appendOutcome (claim.command.scope.key outcomeId) workflowRunId outcome s
          = .ok r) := by
    intro s₁ ho hb
    rw [appendOutcome_isOk, appendOutcome_isOk, ho, hb]
  rw [← o.payload_nulFree]
  constructor
  · rintro ⟨⟨d, s'⟩, hr⟩
    obtain ⟨row', s₁, s₂, s₃, b₁, b₂, b₃, hs⟩ := appendNativeCompletion_ok hr
    obtain ⟨hl, -, hname, huid⟩ := completionRow_ok hs.locked
    rw [h.found] at hl
    cases hl
    have hmark := hs.marked
    obtain ⟨hitem, -⟩ : (∃ r, appendEvidence claim.command.scope item s₁ = .ok r) ∧ True := by
      obtain ⟨r, hi, -⟩ := bind_eq_ok.mp hs.evidenced
      exact ⟨⟨r, hi⟩, trivial⟩
    obtain ⟨new, hs₂⟩ := appendEvidenceItems_ok hs.evidenced
    unfold markTerminal at hmark
    rw [h.digest_none] at hmark
    simp only at hmark
    rw [ite_error_eq_ok'] at hmark
    obtain ⟨-, hmark⟩ := hmark
    rw [ite_error_eq_ok'] at hmark
    obtain ⟨hnul, -⟩ := hmark
    have h₁ : s₁.evidence = s.evidence ∧ s₁.outcomes = s.outcomes ∧ s₁.bindings = s.bindings := by
      rcases markTerminal_ok hs.marked with ⟨-, -, rfl⟩ | ⟨-, -, -, rfl⟩ <;> exact ⟨rfl, rfl, rfl⟩
    refine ⟨hname, huid, by simpa using hnul, hs.active, (hev s₁ h₁.1).mp hitem,
      (hout s₂ ?_ ?_).mp ⟨_, hs.concluded⟩⟩
    · rw [hs₂, ← h₁.2.1]
    · rw [hs₂, ← h₁.2.2]
  · rintro ⟨hname, huid, hnul, hactive, hitem, hconc⟩
    have hlock : completionRow claim o s = .ok row := by
      rw [completionRow, hkey, h.found]
      simp [h.held, hname, huid]
    have hmark : markTerminal checkpoint claim o row s = .ok (false,
        (s.setCommand claim.key (row.terminated o)).setAttemptState claim.command.attemptKey
          o.kind.controlState) := by
      simp only [markTerminal, h.digest_none, h.started, hnul, hatt, hq, bind, Except.bind]
      rfl
    obtain ⟨⟨b₂, s₂⟩, hs₂⟩ := (hev ((s.setCommand claim.key (row.terminated o)).setAttemptState
      claim.command.attemptKey o.kind.controlState) rfl).mpr hitem
    have hitems : appendEvidenceItems checkpoint claim.command.scope [item]
        ((s.setCommand claim.key (row.terminated o)).setAttemptState claim.command.attemptKey
          o.kind.controlState) = .ok (b₂ || false, s₂) := by
      rw [appendEvidenceItems, hs₂]
      simp only [bind, Except.bind, hq]
      rfl
    have hframe : s₂.outcomes = s.outcomes ∧ s₂.bindings = s.bindings := by
      rcases appendEvidence_ok hs₂ with ⟨-, -, rfl⟩ | ⟨-, -, -, -, -, rfl⟩ <;> exact ⟨rfl, rfl⟩
    obtain ⟨⟨b₃, s₃⟩, hs₃⟩ := (hout s₂ hframe.1 hframe.2).mpr hconc
    obtain ⟨s', hs'⟩ : ∃ s', appendTerminalFact claim.key o s₃ = .ok s' := by
      rw [appendTerminalFact, if_neg (by simp [hnul])]
      split <;> exact ⟨_, rfl⟩
    rw [appendNativeCompletion, hlock]
    simp only [bind, Except.bind, hmark, setAttemptState_bindings, setCommand_bindings, hactive,
      ne_eq, not_true_eq_false, if_false, hitems, hs₃, hq, hs']
    exact ⟨_, rfl⟩

/-- **`complete` on a started row** returns exactly when the observation is
certain, names the row's Task and its uid and can be stored, and the store is
ready for it. -/
theorem complete_started {claim : NativeDispatchClaim} {row : CommandRow}
    (h : StartedClaim s claim row) {checkpoint : String → Except Failure Unit}
    (hq : ∀ name, checkpoint name = .ok ()) {o : NativeTerminalObservation}
    (hc : o.commandId = claim.command.commandId) :
    (∃ r, complete checkpoint claim o s = .ok r) ↔
      o.kind.isUncertain = false ∧ row.kubernetesTaskName = some o.kubernetesTaskName.value ∧
        row.kubernetesTaskUid = o.kubernetesTaskUid.map (·.value) ∧ nulFree o.texts = true ∧
        ∃ attempt n, Completable s claim.command o attempt n := by
  constructor
  · rintro ⟨⟨d, s'⟩, hr⟩
    obtain ⟨attempt, item, ha, hev, hk, -, -, hid, happ⟩ := complete_ok hr
    obtain ⟨hname, huid, hnul, hactive, hitem, hout⟩ :=
      (appendNativeCompletion_started h hq).mp ⟨_, happ⟩
    obtain ⟨n, k, hacc, rfl⟩ := ExecutionEvidenceRecord.fromAllowlisted_eq_ok.mp hev
    obtain ⟨rfl, hord, hpos, htexts⟩ := (completionEvidence_accepted hk).mp hacc
    obtain ⟨hst, hfound, -⟩ := appendEvidence_isOk.mp hitem
    obtain ⟨-, -, hofound, honone⟩ := appendOutcome_isOk.mp hout
    have hrid : (ExecutionEvidenceRecord.normalized (completionEvidence claim.command o attempt) n
        o.kind.classification).evidenceRecordId = evidenceId claim.command o :=
      Evidence.nfc_harmless (evidenceId_harmless claim.command o)
    rw [hrid] at hfound
    simp only [evidenceStorable, Bool.and_eq_true, decide_eq_true_eq] at hst
    exact ⟨hk, hname, huid, hnul, attempt, n, hactive, ha, hord, ⟨hpos, hst.1.2⟩, hid.symm, htexts,
      hfound, hofound, honone⟩
  · rintro ⟨hk, hname, huid, hnul, attempt, n, hready⟩
    obtain ⟨hev, hrid, hst, hm⟩ := hready.item hk
    obtain ⟨ho, hkey⟩ := hready.outcome_storable h.storable
    have happ : ∃ r, appendNativeCompletion checkpoint claim o
        [ExecutionEvidenceRecord.normalized (completionEvidence claim.command o attempt) n
          o.kind.classification] (outcomeId claim.command o) attempt.record.workflowRunId.value
        (completionOutcome claim.command o attempt).record s = .ok r := by
      rw [appendNativeCompletion_started h hq, appendEvidence_isOk, appendOutcome_isOk, hrid]
      exact ⟨hname, huid, hnul, hready.active, ⟨hst, hready.evidence, fun _ => rfl⟩, ho, hkey,
        hready.outcome, hready.workflow⟩
    have hget : getAttempt claim.command.attemptKey s = .ok (some attempt) := by
      rw [getAttempt, claim.command.nulFree_attemptKey h.storable, hready.stored]
      rfl
    have hsame : ({ completionOutcome claim.command o attempt with
        businessProblemResolved := false } : NativeOutcome) =
        { outcomeId := outcomeId claim.command o
          workflowRunId := attempt.record.workflowRunId.value
          taskRunId := attempt.record.taskRunId.value
          attemptId := attempt.record.attemptId.value
          approvedPlanRevisionId := claim.command.approvedPlanRevisionId.value
          evidenceIds := [evidenceId claim.command o]
          classification := o.kind.value
          technical := true
          businessProblemResolved := false } := by
      rw [completionOutcome, hready.identity]
    obtain ⟨r, happ⟩ := happ
    refine ⟨r, ?_⟩
    unfold complete recordNative
    simp only [hget, hev, bind, Except.bind, hk, hc, List.all_cons, List.all_nil, hm, Bool.and_true,
      List.map_cons, List.map_nil, hrid, ne_eq, Bool.false_eq_true, if_false, not_true_eq_false,
      reduceCtorEq, or_self, hsame, List.cons_ne_nil]
    exact happ

/-! ### The row afterwards -/

theorem recordUncertain_commands {s' : Store} {claim : NativeDispatchClaim} {row : CommandRow}
    (h : StartedClaim s claim row) {o : NativeTerminalObservation} {d : AppendDisposition}
    (hb : recordUncertain claim o s = .ok (d, s')) :
    s'.commands = s.commands.insert claim.key (row.terminated o) := by
  obtain ⟨-, -, row', hl, -, -, hcase⟩ := recordUncertain_ok hb
  rw [h.found] at hl
  cases hl
  rcases hcase with ⟨hd, -⟩ | ⟨-, -, -, rfl⟩
  · rw [h.digest_none] at hd
    cases hd
  · rfl

theorem complete_commands {s' : Store} {claim : NativeDispatchClaim} {row : CommandRow}
    (h : StartedClaim s claim row) {checkpoint : String → Except Failure Unit}
    {o : NativeTerminalObservation} {d : AppendDisposition}
    (hb : complete checkpoint claim o s = .ok (d, s')) :
    s'.commands = s.commands.insert claim.key (row.terminated o) := by
  obtain ⟨attempt, item, -, -, -, -, -, -, happ⟩ := complete_ok hb
  obtain ⟨row', s₁, s₂, s₃, b₁, b₂, b₃, hs⟩ := appendNativeCompletion_ok happ
  obtain ⟨hl, -⟩ := completionRow_ok hs.locked
  rw [h.found] at hl
  cases hl
  have hc : s'.commands = s₁.commands := by
    rw [← hs.frame.1]
    rcases appendTerminalFact_ok hs.recorded with ⟨-, rfl⟩ | ⟨-, rfl⟩ <;> rfl
  rcases markTerminal_ok hs.marked with ⟨hd, -⟩ | ⟨-, -, -, rfl⟩
  · rw [h.digest_none] at hd
    cases hd
  · exact hc

end Endings

end AgentPlatform
