/-
AgentPlatform/Control/Idempotency.lean

What an idempotency key of Workflow Control stands for.

A committed command leaves a completed claim under its key, and claims are never
written again (`body_claims`). A second command under the key is answered from
the claim when its `payload_digest` is that of the first, and refused otherwise
(`persistOperation_claimed`); in neither case is a row changed.

The digest is faithful to the part of the command that it is taken over
(`digested_eq_iff`). The intervention, its request, review and decision, the
approval, and all but the digests of the evidence and the outcomes are left out, so
two commands that differ only there are taken for one (`key_stands_for_one_iff`).
-/
import AgentPlatform.Control.Sample

namespace AgentPlatform

open Py

namespace Control

section Contents

variable [Unicodedata]

/-! ### What a command says -/

/-- A record with a dictionary, which is compared up to the order of its keys. -/
abbrev WithDict (α : Type) := α × Json

def InterventionRequest.contents (r : InterventionRequest) : WithDict InterventionRequest :=
  ({ r with fact := [] }, (Json.obj r.fact).sortKeys)

def PlanCorrection.contents (c : PlanCorrection) : WithDict PlanCorrection :=
  ({ c with normalizedCorrection := [] }, (Json.obj c.normalizedCorrection).sortKeys)

def OperationEvidence.contents (e : OperationEvidence) : WithDict OperationEvidence :=
  ({ e with record := .null }, e.record.sortKeys)

def OperationOutcome.contents (o : OperationOutcome) : WithDict OperationOutcome :=
  ({ o with record := .null }, o.record.sortKeys)

/-- What a caller is told was carried out. -/
structure Contents where
  interventionId : Option String
  request : Option (WithDict InterventionRequest)
  review : Option InterventionReview
  decision : Option InterventionDecision
  approval : Option ApprovalDecision
  target : InterventionTarget
  plan : Option String × Option Nat × Option String
  successor : Option String × Option PlanRecord
  correction : Option (WithDict PlanCorrection)
  evidence : List (WithDict OperationEvidence)
  outcomes : List (WithDict OperationOutcome)
  terminalState : Option String

/-- What `payload_digest` covers. -/
structure Digested where
  payload : Json
  target : InterventionTarget
  targetExpectedVersion : Nat
  plan : Option String × Option Nat × Option String
  successor : Option String × Option PlanRecord
  correction : Option (WithDict PlanCorrection)
  placementId : Option String
  runtimeCommandId : Option String
  affectedAttemptId : Option String
  evidence : List String
  outcomes : List String
  terminalState : Option String

/-- What it leaves out of the contents. -/
structure Undigested where
  interventionId : Option String
  request : Option (WithDict InterventionRequest)
  review : Option InterventionReview
  decision : Option InterventionDecision
  approval : Option ApprovalDecision
  evidence : List (WithDict OperationEvidence)
  outcomes : List (WithDict OperationOutcome)

namespace WorkflowControlOperation

def contents (op : WorkflowControlOperation) : Contents where
  interventionId := op.interventionId
  request := op.request.map (·.contents)
  review := op.review
  decision := op.decision
  approval := op.approval
  target := op.target
  plan := (op.planId, op.planVersion, op.planDigest)
  successor := (op.successorId, op.successorPlan)
  correction := op.correction.map (·.contents)
  evidence := op.evidenceRecords.map (·.contents)
  outcomes := op.outcomeRecords.map (·.contents)
  terminalState := op.terminalState

def digested (op : WorkflowControlOperation) : Digested where
  payload := (Json.obj op.payload).sortKeys
  target := op.target
  targetExpectedVersion := op.targetExpectedVersion
  plan := (op.planId, op.planVersion, op.planDigest)
  successor := (op.successorId, op.successorPlan)
  correction := op.correction.map (·.contents)
  placementId := op.placementId
  runtimeCommandId := op.runtimeCommandId
  affectedAttemptId := op.affectedAttemptId
  evidence := op.evidenceRecords.map (·.payloadDigest)
  outcomes := op.outcomeRecords.map (·.digest)
  terminalState := op.terminalState

def undigested (op : WorkflowControlOperation) : Undigested where
  interventionId := op.interventionId
  request := op.request.map (·.contents)
  review := op.review
  decision := op.decision
  approval := op.approval
  evidence := op.evidenceRecords.map (·.contents)
  outcomes := op.outcomeRecords.map (·.contents)

end WorkflowControlOperation

variable {op₁ op₂ : WorkflowControlOperation}

/-- The two parts make up the contents. -/
theorem contents_eq (hd : op₁.digested = op₂.digested) (hu : op₁.undigested = op₂.undigested) :
    op₁.contents = op₂.contents := by
  simp only [WorkflowControlOperation.digested, Digested.mk.injEq] at hd
  simp only [WorkflowControlOperation.undigested, Undigested.mk.injEq] at hu
  obtain ⟨-, ht, -, hp, hs, hc, -, -, -, -, -, hterminal⟩ := hd
  obtain ⟨hi, hr, hv, hdec, ha, he, ho⟩ := hu
  simp only [WorkflowControlOperation.contents, Contents.mk.injEq]
  exact ⟨hi, hr, hv, hdec, ha, ht, hp, hs, hc, he, ho, hterminal⟩

theorem undigested_of_contents (h : op₁.contents = op₂.contents) :
    op₁.undigested = op₂.undigested := by
  simp only [WorkflowControlOperation.contents, Contents.mk.injEq] at h
  obtain ⟨hi, hr, hv, hdec, ha, -, -, -, -, he, ho, -⟩ := h
  simp only [WorkflowControlOperation.undigested, Undigested.mk.injEq]
  exact ⟨hi, hr, hv, hdec, ha, he, ho⟩

/-! ### The digested text -/

omit [Unicodedata] in
/-- Records under the same keys have one sorted form exactly when their fields
have. -/
theorem sortKeys_obj_iff {fs gs : List (String × Json)} (hk : fs.map Prod.fst = gs.map Prod.fst)
    (hn : (fs.map Prod.fst).Nodup) : (Json.obj fs).sortKeys = (Json.obj gs).sortKeys ↔
      fs.map (fun p => p.2.sortKeys) = gs.map (fun p => p.2.sortKeys) := by
  refine ⟨Json.sortKeys_obj_inj hk hn, ?_⟩
  intro h
  have hpairs : fs.map (fun p => (p.1, p.2.sortKeys)) = gs.map (fun p => (p.1, p.2.sortKeys)) := by
    have hzip := congrArg₂ List.zip hk h
    simpa only [List.zip_map', List.map_map] using hzip
  simp only [Json.sortKeys, Json.sortFields_eq_map, hpairs]

omit [Unicodedata] in
@[simp] theorem sortKeys_optNat (o : Option Nat) : (optNat o).sortKeys = optNat o := by
  cases o <;> rfl

omit [Unicodedata] in
@[simp] theorem optStr_eq_iff {o o' : Option String} :
    Json.optStr o = Json.optStr o' ↔ o = o' :=
  ⟨Json.optStr_injective, congrArg _⟩

omit [Unicodedata] in
@[simp] theorem optNat_eq_iff {o o' : Option Nat} : optNat o = optNat o' ↔ o = o' := by
  refine ⟨?_, congrArg _⟩
  intro h
  cases o <;> cases o' <;> simp only [optNat, reduceCtorEq, Json.int.injEq] at h
  · rfl
  · rw [Int.ofNat_inj.mp h]

omit [Unicodedata] in
@[simp] theorem isoformat_eq_iff {t t' : Datetime} : t.isoformat = t'.isoformat ↔ t = t' :=
  ⟨Datetime.isoformat_injective, congrArg _⟩

omit [Unicodedata] in
@[simp] theorem hexBytes_eq_iff {b b' : List UInt8} : hexBytes b = hexBytes b' ↔ b = b' :=
  ⟨hexBytes_injective, congrArg _⟩

omit [Unicodedata] in
theorem PlanStatus.value_eq_iff {x y : PlanStatus} : x.value = y.value ↔ x = y := by
  refine ⟨?_, congrArg _⟩
  cases x <;> cases y <;> decide

omit [Unicodedata] in
theorem sortItems_strings (ts : List String) :
    Json.sortItems (ts.map Json.str) = ts.map Json.str := by
  induction ts with
  | nil => rfl
  | cons t ts ih => rw [List.map_cons, Json.sortItems, ih, Json.sortKeys]

omit [Unicodedata] in
theorem target_asdict_eq_iff {a b : InterventionTarget} :
    a.asdict.sortKeys = b.asdict.sortKeys ↔ a = b := by
  rw [InterventionTarget.asdict, InterventionTarget.asdict, sortKeys_obj_iff (by simp only [List.map_cons, List.map_nil])
      (by simp only [List.map_cons, List.map_nil]; decide)]
  simp only [List.map_cons, List.map_nil, Json.sortKeys_optStr, List.cons.injEq, optStr_eq_iff,
    and_true]
  cases a <;> cases b <;> simp [InterventionTarget.workflowRunId, InterventionTarget.taskRunId,
    InterventionTarget.attemptId]

theorem scope_json_eq_iff {a b : ScopeIdentity} : a.json.sortKeys = b.json.sortKeys ↔ a = b := by
  rw [ScopeIdentity.json, ScopeIdentity.json, sortKeys_obj_iff (by simp only [List.map_cons, List.map_nil])
      (by simp only [List.map_cons, List.map_nil]; decide)]
  simp only [List.map_cons, List.map_nil, Json.sortKeys, List.cons.injEq, Json.str.injEq, and_true]
  obtain ⟨n, d⟩ := a
  obtain ⟨n', d'⟩ := b
  simp only [ScopeIdentity.mk.injEq]
  exact ⟨fun h => ⟨NormalizedText.ext h.1, NormalizedText.ext h.2⟩,
    fun h => ⟨congrArg _ h.1, congrArg _ h.2⟩⟩

theorem plan_asdict_eq_iff {p q : PlanRecord} : p.asdict.sortKeys = q.asdict.sortKeys ↔ p = q := by
  rw [PlanRecord.asdict, PlanRecord.asdict, sortKeys_obj_iff (by simp only [List.map_cons, List.map_nil])
      (by simp only [List.map_cons, List.map_nil]; decide)]
  simp only [List.map_cons, List.map_nil, List.cons.injEq, and_true, Json.sortKeys_optStr,
    sortKeys_optNat, optStr_eq_iff, optNat_eq_iff, scope_json_eq_iff]
  simp only [Json.sortKeys, Json.str.injEq, Json.int.injEq, Int.ofNat_inj, isoformat_eq_iff,
    hexBytes_eq_iff, PlanStatus.value_eq_iff]
  obtain ⟨⟩ := p
  obtain ⟨⟩ := q
  simp only [PlanRecord.mk.injEq]

omit [Unicodedata] in
theorem correction_asdict_eq_iff {c d : PlanCorrection} :
    c.asdict.sortKeys = d.asdict.sortKeys ↔ c.contents = d.contents := by
  rw [PlanCorrection.asdict, PlanCorrection.asdict, sortKeys_obj_iff (by simp only [List.map_cons, List.map_nil])
      (by simp only [List.map_cons, List.map_nil]; decide)]
  simp only [List.map_cons, List.map_nil, List.cons.injEq, and_true]
  obtain ⟨⟩ := c
  obtain ⟨⟩ := d
  simp only [PlanCorrection.contents, Prod.mk.injEq, PlanCorrection.mk.injEq, Json.sortKeys,
    Json.str.injEq, Json.int.injEq, Int.ofNat_inj, isoformat_eq_iff, true_and]
  tauto

omit [Unicodedata] in
theorem sortKeys_obj_ne_null (fields : List (String × Json)) :
    (Json.obj fields).sortKeys ≠ .null := by
  rw [Json.sortKeys]
  exact nofun

omit [Unicodedata] in
/-- An optional record is compared by its record. -/
theorem jsonOption_eq_iff {α β : Type} {f : α → Json} {g : α → β}
    (hf : ∀ {a b}, (f a).sortKeys = (f b).sortKeys ↔ g a = g b)
    (hn : ∀ a, (f a).sortKeys ≠ .null) {o o' : Option α} :
    (jsonOption f o).sortKeys = (jsonOption f o').sortKeys ↔ o.map g = o'.map g := by
  cases o with
  | none =>
    cases o' with
    | none => exact ⟨fun _ => rfl, fun _ => rfl⟩
    | some b => exact ⟨fun h => absurd h.symm (hn b), nofun⟩
  | some a =>
    cases o' with
    | none => exact ⟨fun h => absurd h (hn a), nofun⟩
    | some b => exact hf.trans ⟨congrArg some, Option.some.inj⟩

/-- **The digested text says what the digest covers**, no more and no less. -/
theorem digested_eq_iff : Json.dumps true (.obj op₁.digestFields)
    = Json.dumps true (.obj op₂.digestFields) ↔ op₁.digested = op₂.digested := by
  rw [Json.dumps_eq_iff, WorkflowControlOperation.digestFields, WorkflowControlOperation.digestFields,
    sortKeys_obj_iff (by simp only [List.map_cons, List.map_nil])
      (by simp only [List.map_cons, List.map_nil]; decide)]
  have hplan : ∀ o o' : Option PlanRecord, (jsonOption PlanRecord.asdict o).sortKeys
      = (jsonOption PlanRecord.asdict o').sortKeys ↔ o.map id = o'.map id := fun _ _ =>
    jsonOption_eq_iff plan_asdict_eq_iff fun _ => sortKeys_obj_ne_null _
  have hcorrection : ∀ o o' : Option PlanCorrection, (jsonOption PlanCorrection.asdict o).sortKeys
      = (jsonOption PlanCorrection.asdict o').sortKeys ↔
        o.map PlanCorrection.contents = o'.map PlanCorrection.contents := fun _ _ =>
    jsonOption_eq_iff correction_asdict_eq_iff fun _ => sortKeys_obj_ne_null _
  have harr : ∀ us vs : List Json, (Json.arr us).sortKeys = (Json.arr vs).sortKeys ↔
      Json.sortItems us = Json.sortItems vs := by
    intro us vs
    simp only [Json.sortKeys, Json.arr.injEq]
  have hdigests : ∀ es : List OperationEvidence,
      Json.sortItems (es.map fun item => .str item.payloadDigest)
        = (es.map (·.payloadDigest)).map Json.str := by
    intro es
    rw [← sortItems_strings, List.map_map]
    rfl
  have houtcomes : ∀ os : List OperationOutcome,
      Json.sortItems (os.map fun item => .str item.digest) = (os.map (·.digest)).map Json.str := by
    intro os
    rw [← sortItems_strings, List.map_map]
    rfl
  simp only [List.map_cons, List.map_nil, List.cons.injEq, and_true, Json.sortKeys_optStr,
    optStr_eq_iff, target_asdict_eq_iff, hplan, hcorrection, harr, Option.map_id, id_eq]
  have hstrings : ∀ us vs : List String, us.map Json.str = vs.map Json.str ↔ us = vs := fun _ _ =>
    (List.map_injective_iff.mpr fun _ _ => Json.str.inj).eq_iff
  have hint : ∀ m n : Nat, (Json.int m).sortKeys = (Json.int n).sortKeys ↔ m = n := by
    intro m n
    simp only [Json.sortKeys, Json.int.injEq, Int.ofNat_inj]
  simp only [Json.sortItems, Json.sortKeys_optStr, sortKeys_optNat, List.cons.injEq, and_true,
    optStr_eq_iff, optNat_eq_iff, hdigests, houtcomes, hstrings, hint,
    WorkflowControlOperation.digested, Digested.mk.injEq, Prod.mk.injEq, and_assoc]

end Contents

/-! ### Claims -/

section Claims

variable [Unicodedata] {s s' : Authority} {k : ClaimKey} {row : ClaimRow}

theorem persist_claims {c : AtomicControlCommand} {authorized : Bool} {r : AtomicControlResult}
    (h : persist c authorized s = .ok (r, s')) (hrow : s.journal.claims.lookup k = some row) :
    s'.journal.claims.lookup k = some row := by
  unfold persist at h
  simp only [ite_error_eq_ok'] at h
  obtain ⟨-, -, h⟩ := h
  split at h
  · obtain ⟨_, -, he⟩ := map_eq_ok.mp h
    cases he
    exact hrow
  next hnone =>
    simp only [ite_error_eq_ok', bind_eq_ok, orRaise_eq_ok] at h
    obtain ⟨-, _, -, _, -, _, -, _, -, -, h⟩ := h
    cases h
    exact Table.lookup_insert_new hnone hrow

/-- **A claim is never written again.** -/
theorem body_claims {c : Command} (h : c.body s = .ok ((), s'))
    (hrow : s.journal.claims.lookup k = some row) : s'.journal.claims.lookup k = some row := by
  by_cases hl : c.ledgerOnly = true
  · rw [body_ledgerOnly hl h]
    exact hrow
  by_cases hp : c.plansOnly = true
  · rw [body_plansOnly hp h]
    exact hrow
  cases c <;> simp only [Command.ledgerOnly, Command.plansOnly, not_true_eq_false,
      Bool.false_eq_true, not_false_eq_true] at hl hp <;> obtain ⟨_, h⟩ := ignoring_eq_ok.mp h
  case persist => exact persist_claims h hrow
  case persistOperation =>
    obtain ⟨-, -, -, ⟨_, -, -, rfl⟩ | ⟨hnone, h⟩⟩ := persistOperation_cases h
    · exact hrow
    · obtain ⟨_, _, _, _, _, _, _, _, -, -, rfl⟩ := runOperation_spec h
      exact Table.lookup_insert_new hnone hrow
  case save =>
    obtain ⟨-, _, _, _, -, -, -, he⟩ := save_spec h
    rw [he]
    exact hrow

theorem run_claims (cs : List Command) (hrow : s.journal.claims.lookup k = some row) :
    (run cs s).journal.claims.lookup k = some row :=
  run_induction (P := fun s => s.journal.claims.lookup k = some row)
    (fun _ _ _ (_ : True) hrow h => body_claims h hrow) (fun _ _ => trivial) hrow

/-- A command that ran leaves a completed claim. -/
theorem persistOperation_claims {x : LineageAnswers} {op : WorkflowControlOperation}
    {authorized : Bool} {r : WorkflowControlOperationResult}
    (h : persistOperation x op authorized s = .ok (r, s')) (hr : r.replayed = false) :
    nulFree op.claimKey.texts = true ∧ ∃ row record,
      s'.journal.claims.lookup op.claimKey = some row ∧ row.payloadDigest = op.payloadDigest ∧
      row.state = .completed ∧ row.resultRecord = some record := by
  obtain ⟨-, -, hnul, ⟨_, -, hrep, -⟩ | ⟨-, h⟩⟩ := persistOperation_cases h
  · obtain ⟨-, -, _, -, rfl⟩ := replay_eq_ok.mp hrep
    cases hr
  · obtain ⟨_, _, _, _, _, _, _, _, -, -, rfl⟩ := runOperation_spec h
    exact ⟨hnul, _, _, AList.lookup_insert _, rfl, rfl, rfl⟩

/-- A command under the key of a completed claim is answered from it, or
refused. -/
theorem persistOperation_claimed {x : LineageAnswers} {op : WorkflowControlOperation}
    {record : OperationRecord} (hnul : nulFree op.claimKey.texts = true)
    (hevidence : op.evidenceRecords ≠ []) (hrow : s.journal.claims.lookup op.claimKey = some row)
    (hstate : row.state = .completed) (hrecord : row.resultRecord = some record) :
    persistOperation x op true s = if row.payloadDigest = op.payloadDigest then
      .ok (⟨true, record⟩, s) else refuse "IDEMPOTENCY_PAYLOAD_MISMATCH" := by
  unfold persistOperation
  simp only [Bool.not_true, Bool.false_eq_true, if_false, hevidence, hnul, hrow]
  unfold WorkflowControlOperation.replay
  by_cases hd : row.payloadDigest = op.payloadDigest
  · simp only [hd, ne_eq, not_true_eq_false, if_false, hstate, hrecord, if_true]
    rfl
  · simp only [hd, ne_eq, not_false_eq_true, if_true, if_false]
    rfl

end Claims

/-! ### One key, one effect -/

section Keys

variable [Unicodedata]

/-- Both commands are made under one idempotency key. -/
def SameKey (op₁ op₂ : WorkflowControlOperation) : Prop :=
  op₁.scope = op₂.scope ∧ op₁.actorId = op₂.actorId ∧ op₁.commandType = op₂.commandType ∧
    op₁.idempotencyKey = op₂.idempotencyKey

/-- The second call is answered with the result of the first only if it says the
same; otherwise it raises, and in no case changes a row. -/
def StandsForOne (x : LineageAnswers) (authorized : Bool) (op₁ op₂ : WorkflowControlOperation)
    (s : Authority) : Prop :=
  (∃ record, transaction (persistOperation x op₂ authorized) s = (.ok ⟨true, record⟩, s) ∧
    op₁.contents = op₂.contents) ∨
  ∃ code ∈ ["IDEMPOTENCY_PAYLOAD_MISMATCH", "COMMAND_IN_PROGRESS"],
    transaction (persistOperation x op₂ authorized) s = (.error (.conflict code), s)

/-- A call that is refused for another reason does not answer for the key. -/
theorem not_standsForOne {x : LineageAnswers} {authorized : Bool}
    {op₁ op₂ : WorkflowControlOperation} {s : Authority} {e : ControlFailure}
    (he : ∀ code ∈ ["IDEMPOTENCY_PAYLOAD_MISMATCH", "COMMAND_IN_PROGRESS"], e ≠ .conflict code)
    (h : persistOperation x op₂ authorized s = .error e) :
    ¬ StandsForOne x authorized op₁ op₂ s := by
  rintro (⟨_, hcall, -⟩ | ⟨code, hc, hcall⟩) <;> rw [transaction_error h] at hcall
  · cases hcall
  · exact he code hc (Except.error.inj (Prod.mk.inj hcall).1)

/-- **A key stands for one effect exactly as far as the digest reaches.** After
a command was committed, whatever was called since, a second command under its
key, authorized and with its evidence, is never taken for it wrongly if and only
if the two differ in what `payload_digest` covers or agree in what it leaves
out. -/
theorem key_stands_for_one_iff (x₁ x₂ : LineageAnswers) (op₁ op₂ : WorkflowControlOperation)
    (hkey : SameKey op₁ op₂)
    (hfree : CollisionFreeOn {Json.dumps true (.obj op₁.digestFields),
      Json.dumps true (.obj op₂.digestFields)})
    (s₁ s₂ : Authority) (r : WorkflowControlOperationResult) (authorized₁ authorized₂ : Bool)
    (hfirst : persistOperation x₁ op₁ authorized₁ s₁ = .ok (r, s₂)) (hr : r.replayed = false)
    (cs : List Command) :
    StandsForOne x₂ authorized₂ op₁ op₂ (run cs s₂) ↔
      authorized₂ = true ∧ op₂.evidenceRecords ≠ [] ∧
      (op₁.digested = op₂.digested → op₁.undigested = op₂.undigested) := by
  obtain ⟨hnul, row, record, hrow, hdigest, hstate, hrecord⟩ := persistOperation_claims hfirst hr
  have hclaim : op₁.claimKey = op₂.claimKey := by
    obtain ⟨hs, ha, hc, hi⟩ := hkey
    rw [WorkflowControlOperation.claimKey, WorkflowControlOperation.claimKey, hs, ha, hc, hi]
  rw [hclaim] at hnul hrow
  have hiff : op₁.payloadDigest = op₂.payloadDigest ↔ op₁.digested = op₂.digested := by
    rw [← digested_eq_iff]
    constructor
    · exact hfree (Set.mem_insert _ _) (Set.mem_insert_of_mem _ rfl)
    · exact congrArg sha256
  -- the two guards before the claim is read
  cases authorized₂ with
  | false =>
    have hrefused : persistOperation x₂ op₂ false (run cs s₂)
        = .error (.notAuthorized "NOT_AUTHORIZED") := rfl
    exact iff_of_false (not_standsForOne (by simp) hrefused) (fun h => Bool.false_ne_true h.1)
  | true =>
  by_cases hevidence : op₂.evidenceRecords = []
  · have hrefused : persistOperation x₂ op₂ true (run cs s₂)
        = refuse "OPERATION_EVIDENCE_REQUIRED" := by
      rw [persistOperation, if_neg (by decide), if_pos hevidence]
    exact iff_of_false (not_standsForOne (by simp) hrefused) (fun h => h.2.1 hevidence)
  have hanswer := persistOperation_claimed (x := x₂) hnul hevidence (run_claims cs hrow) hstate
    hrecord
  rw [hdigest] at hanswer
  by_cases hd : op₁.payloadDigest = op₂.payloadDigest
  · rw [if_pos hd] at hanswer
    have hcall := transaction_ok hanswer
    constructor
    · rintro (⟨_, -, hcontents⟩ | ⟨_, -, hraised⟩)
      · exact ⟨rfl, hevidence, fun _ => undigested_of_contents hcontents⟩
      · rw [hcall] at hraised
        cases hraised
    · rintro ⟨-, -, h⟩
      exact .inl ⟨record, hcall, contents_eq (hiff.mp hd) (h (hiff.mp hd))⟩
  · rw [if_neg hd] at hanswer
    have hcall := transaction_error hanswer
    refine ⟨fun _ => ⟨rfl, hevidence, fun h => absurd (hiff.mpr h) hd⟩, fun _ => ?_⟩
    exact .inr ⟨_, List.mem_cons_self, hcall⟩

end Keys

section Samples

open AgentPlatform.Sample Sample

/-- A request to pause the run, under the id of an intervention. -/
def requesting (id : String) : WorkflowControlOperation :=
  { operation .requestIntervention "1" with
    interventionId := some id
    request := some (request id "POLICY") }

theorem requesting_commits :
    ∃ r s, persistOperation answers (requesting "intervention-1") true runStore = .ok (r, s) ∧
      r.replayed = false := by
  have heval : (persistOperation answers (requesting "intervention-1") true
      runStore).toOption.any (fun p => !p.1.replayed) = true := by decide +kernel
  revert heval
  rcases persistOperation answers (requesting "intervention-1") true runStore with e | ⟨r, s⟩
  · intro heval
    cases heval
  · intro heval
    exact ⟨r, s, rfl, (Bool.not_eq_true' _).mp heval⟩

theorem requesting_sameKey (i j : String) : SameKey (requesting i) (requesting j) :=
  ⟨rfl, rfl, rfl, rfl⟩

/-- Two requests are told apart by nothing the digest covers. -/
theorem requesting_free (i j : String) :
    CollisionFreeOn {Json.dumps true (.obj (requesting i).digestFields),
      Json.dumps true (.obj (requesting j).digestFields)} := by
  have hsame : (requesting i).digestFields = (requesting j).digestFields := rfl
  rw [hsame, Set.pair_eq_singleton]
  exact Set.injOn_singleton _ _

/-- Hypotheses of the law are met by a request that is made twice. -/
theorem requested_twice :
    ∃ s, StandsForOne answers true (requesting "intervention-1") (requesting "intervention-1") s := by
  obtain ⟨r, s, h, hr⟩ := requesting_commits
  exact ⟨_, (key_stands_for_one_iff answers answers _ _ (requesting_sameKey _ _)
    (requesting_free _ _) runStore s r true true h hr []).mpr ⟨rfl, nofun, fun _ => rfl⟩⟩

/-- **A second intervention is reported as carried out.** Its request has the
key of the first, is never stored, and gets `replayed=True`. -/
theorem second_request_replayed :
    ¬ ∀ (x₁ x₂ : LineageAnswers) (op₁ op₂ : WorkflowControlOperation) (s₁ s₂ : Authority)
      (r : WorkflowControlOperationResult), SameKey op₁ op₂ →
      CollisionFreeOn {Json.dumps true (.obj op₁.digestFields),
        Json.dumps true (.obj op₂.digestFields)} →
      persistOperation x₁ op₁ true s₁ = .ok (r, s₂) → r.replayed = false →
      op₂.evidenceRecords ≠ [] → StandsForOne x₂ true op₁ op₂ s₂ := by
  intro hclaim
  obtain ⟨r, s, h, hr⟩ := requesting_commits
  have hone := hclaim answers answers _ (requesting "intervention-2") runStore s r
    (requesting_sameKey _ _) (requesting_free _ _) h hr nofun
  obtain ⟨hnul, row, record, hrow, hdigest, hstate, hrecord⟩ := persistOperation_claims h hr
  have hcall : persistOperation answers (requesting "intervention-2") true s
      = .ok (⟨true, record⟩, s) := by
    have hanswer : persistOperation answers (requesting "intervention-2") true s
        = if row.payloadDigest = (requesting "intervention-2").payloadDigest then
          .ok (⟨true, record⟩, s) else refuse "IDEMPOTENCY_PAYLOAD_MISMATCH" :=
      persistOperation_claimed hnul nofun hrow hstate hrecord
    exact hanswer.trans (if_pos hdigest)
  rcases hone with ⟨_, -, hcontents⟩ | ⟨_, -, hraised⟩
  · have hid : some "intervention-1" = some "intervention-2" :=
      congrArg Contents.interventionId hcontents
    exact absurd hid (by decide)
  · rw [transaction_ok hcall] at hraised
    cases hraised

end Samples

end Control

end AgentPlatform
