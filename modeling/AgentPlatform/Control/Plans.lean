/-
AgentPlatform/Control/Plans.lean

The plans of Workflow Control, their approvals and their corrections.

Three paths write them: `prepare_plan_entry`, an approval (`approve_plan_entry`
or the approval commands of `persist_operation`), and `CORRECT_PLAN`. What they
do is one of three moves (`PlanTables.Move`): a first plan, a decision on a
pending plan, a successor for a plan that can still be corrected. Moves keep
the tables sound, and a rejected or superseded plan is never written again.

`prepare_plan_entry` compares the digest of a plan with its bytes;
`_persist_correction` does not. So the digests of all plans are right in those
runs in which every correction brings a right one (`plan_law_of_run`), and a
single wrong correction is stored as it is (`corrected_digest_unchecked`).
-/
import AgentPlatform.Control.Sample

namespace AgentPlatform

open Py

namespace Control

section Plans

variable [Unicodedata]

/-! ### Moves -/

/-- A plan with a new status. -/
def PlanRecord.withStatus (p : PlanRecord) (status : PlanStatus) : PlanRecord :=
  { p with status := status, aggregateVersion := p.aggregateVersion + 1 }

/-- What a transaction can do to the plans. -/
inductive PlanTables.Move (t : PlanTables) : PlanTables → Prop
  | prepare (p : PlanRecord) (new : t.plans.lookup p.key = none) (first : p.predecessor = none)
      (pending : p.status = .pendingApproval) :
      Move t { t with plans := t.plans.insert p.key p }
  | decide (a : ApprovalRow) {p : PlanRecord} (stored : t.plans.lookup a.plan = some p)
      (pending : p.status = .pendingApproval) (digest : a.planDigest = p.planDigest)
      (new : a.plan ∉ t.approvals.map (·.plan)) :
      Move t { t with
        plans := t.plans.insert a.plan (p.withStatus a.decision.status)
        approvals := t.approvals ++ [a] }
  | correct (c : CorrectionRow) {p q : PlanRecord}
      (stored : t.plans.lookup c.predecessor = some p) (open_ : p.status ∉ uncorrectable)
      (new : t.plans.lookup q.key = none) (successor : c.successor = q.key)
      (pending : q.status = .pendingApproval) (predecessor : q.predecessor = some c.predecessor)
      (only : ∀ {k q'}, t.plans.lookup k = some q' → q'.predecessor ≠ some c.predecessor)
      (unlinked : c.predecessor ∉ t.corrections.map (·.predecessor)) :
      Move t { t with
        plans := (t.plans.insert q.key q).insert c.predecessor (p.withStatus .superseded)
        corrections := t.corrections ++ [c] }

/-! ### Soundness -/

structure PlanTables.Sound (t : PlanTables) : Prop where
  decisions : (t.approvals.map (·.plan)).Nodup
  decided : ∀ a ∈ t.approvals, ∃ p, t.plans.lookup a.plan = some p ∧ a.planDigest = p.planDigest
  verdict : ∀ {k p}, t.plans.lookup k = some p → ∀ v : PlanVerdict, p.status = v.status →
    ∃ a ∈ t.approvals, a.plan = k ∧ a.decision = v
  superseded : ∀ {k p}, t.plans.lookup k = some p → p.status = .superseded →
    ∃ c ∈ t.corrections, c.predecessor = k
  named : ∀ {k q k'}, t.plans.lookup k = some q → q.predecessor = some k' →
    ∃ p, t.plans.lookup k' = some p ∧ p.status = .superseded
  only : ∀ {k₁ q₁ k₂ q₂ k}, t.plans.lookup k₁ = some q₁ → q₁.predecessor = some k →
    t.plans.lookup k₂ = some q₂ → q₂.predecessor = some k → k₁ = k₂
  linked : (t.corrections.map (·.predecessor)).Nodup
  successors : ∀ c ∈ t.corrections, ∃ q, t.plans.lookup c.successor = some q ∧
    q.predecessor = some c.predecessor

/-- No plan is stored. -/
def PlanTables.empty : PlanTables := ⟨∅, [], []⟩

theorem PlanTables.sound_empty : PlanTables.empty.Sound where
  decisions := List.nodup_nil
  decided := by simp [PlanTables.empty]
  verdict h := by cases h
  superseded h := by cases h
  named h := by cases h
  only h := by cases h
  linked := List.nodup_nil
  successors := by simp [PlanTables.empty]

/-- Every stored digest is that of the plan's bytes. -/
def PlanTables.Digested (t : PlanTables) : Prop :=
  ∀ k p, t.plans.lookup k = some p → p.planDigest = sha256Bytes p.canonicalBytes

/-- The plan can change no more. -/
def isFinal : PlanStatus → Bool
  | .rejected | .superseded => true
  | _ => false

variable {t t' : PlanTables}

omit [Unicodedata] in
theorem uncorrectable_of_final {x : PlanStatus} (h : isFinal x = true) : x ∈ uncorrectable := by
  cases x <;> first | decide | cases h

omit [Unicodedata] in
theorem PlanVerdict.status_inj {v w : PlanVerdict} (h : v.status = w.status) : v = w := by
  cases v <;> cases w <;> first | rfl | cases h

omit [Unicodedata] in
theorem PlanVerdict.status_ne_superseded (v : PlanVerdict) : v.status ≠ .superseded := by
  cases v <;> decide

omit [Unicodedata] in
theorem PlanVerdict.status_ne_pending (v : PlanVerdict) : .pendingApproval ≠ v.status := by
  cases v <;> decide

theorem PlanTables.Sound.prepare (ht : t.Sound) {p : PlanRecord}
    (new : t.plans.lookup p.key = none) (first : p.predecessor = none)
    (pending : p.status = .pendingApproval) :
    PlanTables.Sound { t with plans := t.plans.insert p.key p } where
  decisions := ht.decisions
  decided a ha := by
    obtain ⟨q, hq, hd⟩ := ht.decided a ha
    exact ⟨q, Table.lookup_insert_new new hq, hd⟩
  verdict h v hv := by
    rcases Table.lookup_insert_cases h with ⟨rfl, rfl⟩ | ⟨-, h⟩
    · exact absurd (pending.symm.trans hv) v.status_ne_pending
    · exact ht.verdict h v hv
  superseded h hs := by
    rcases Table.lookup_insert_cases h with ⟨rfl, rfl⟩ | ⟨-, h⟩
    · rw [pending] at hs
      cases hs
    · exact ht.superseded h hs
  named h hp := by
    rcases Table.lookup_insert_cases h with ⟨rfl, rfl⟩ | ⟨-, h⟩
    · rw [first] at hp
      cases hp
    · obtain ⟨q, hq, hs⟩ := ht.named h hp
      exact ⟨q, Table.lookup_insert_new new hq, hs⟩
  only h₁ p₁ h₂ p₂ := by
    rcases Table.lookup_insert_cases h₁ with ⟨rfl, rfl⟩ | ⟨-, h₁⟩
    · rw [first] at p₁
      cases p₁
    · rcases Table.lookup_insert_cases h₂ with ⟨rfl, rfl⟩ | ⟨-, h₂⟩
      · rw [first] at p₂
        cases p₂
      · exact ht.only h₁ p₁ h₂ p₂
  linked := ht.linked
  successors c hc := by
    obtain ⟨q, hq, hp⟩ := ht.successors c hc
    exact ⟨q, Table.lookup_insert_new new hq, hp⟩

/-- A plan found after a status change has the same predecessor and digest as
before. -/
theorem lookup_withStatus {k k' : PlanKey} {p q : PlanRecord} {status : PlanStatus}
    (stored : t.plans.lookup k = some p)
    (h : (t.plans.insert k (p.withStatus status)).lookup k' = some q) :
    ∃ q', t.plans.lookup k' = some q' ∧ q.predecessor = q'.predecessor := by
  rcases Table.lookup_insert_cases h with ⟨rfl, rfl⟩ | ⟨-, h⟩
  · exact ⟨p, stored, rfl⟩
  · exact ⟨q, h, rfl⟩

/-- A stored plan keeps its predecessor and digest under a status change. -/
theorem lookup_insert_withStatus {k k' : PlanKey} {p q : PlanRecord} (status : PlanStatus)
    (stored : t.plans.lookup k = some p) (h : t.plans.lookup k' = some q) :
    ∃ q', (t.plans.insert k (p.withStatus status)).lookup k' = some q' ∧
      q'.predecessor = q.predecessor ∧ q'.planDigest = q.planDigest ∧ (k' ≠ k → q' = q) := by
  by_cases hk : k' = k
  · subst hk
    rw [stored] at h
    cases h
    exact ⟨_, AList.lookup_insert _, rfl, rfl, fun hn => absurd rfl hn⟩
  · exact ⟨q, by rwa [AList.lookup_insert_ne hk], rfl, rfl, fun _ => rfl⟩

theorem PlanTables.Sound.decide (ht : t.Sound) {a : ApprovalRow} {p : PlanRecord}
    (stored : t.plans.lookup a.plan = some p) (pending : p.status = .pendingApproval)
    (digest : a.planDigest = p.planDigest) (new : a.plan ∉ t.approvals.map (·.plan)) :
    PlanTables.Sound { t with
      plans := t.plans.insert a.plan (p.withStatus a.decision.status)
      approvals := t.approvals ++ [a] } where
  decisions := nodup_map_concat ht.decisions new
  decided b hb := by
    rcases List.mem_append.mp hb with hb | hb
    · obtain ⟨q, hq, hd⟩ := ht.decided b hb
      obtain ⟨q', hq', -, hd', -⟩ := lookup_insert_withStatus a.decision.status stored hq
      exact ⟨q', hq', hd.trans hd'.symm⟩
    · cases List.mem_singleton.mp hb
      exact ⟨_, AList.lookup_insert _, digest⟩
  verdict h v hv := by
    rcases Table.lookup_insert_cases h with ⟨rfl, rfl⟩ | ⟨-, h⟩
    · exact ⟨a, List.mem_append_right _ (List.mem_singleton_self a), rfl,
        PlanVerdict.status_inj hv⟩
    · obtain ⟨b, hb, he⟩ := ht.verdict h v hv
      exact ⟨b, List.mem_append_left _ hb, he⟩
  superseded h hs := by
    rcases Table.lookup_insert_cases h with ⟨rfl, rfl⟩ | ⟨-, h⟩
    · exact absurd hs a.decision.status_ne_superseded
    · exact ht.superseded h hs
  named h hp := by
    obtain ⟨q', h', hp'⟩ := lookup_withStatus stored h
    obtain ⟨r, hr, hs⟩ := ht.named h' (hp' ▸ hp)
    refine ⟨r, ?_, hs⟩
    rw [AList.lookup_insert_ne]
    · exact hr
    · -- the superseded plan is not the pending one
      rintro rfl
      rw [stored] at hr
      cases hr
      rw [pending] at hs
      cases hs
  only h₁ p₁ h₂ p₂ := by
    obtain ⟨q₁, h₁, e₁⟩ := lookup_withStatus stored h₁
    obtain ⟨q₂, h₂, e₂⟩ := lookup_withStatus stored h₂
    exact ht.only h₁ (e₁ ▸ p₁) h₂ (e₂ ▸ p₂)
  linked := ht.linked
  successors c hc := by
    obtain ⟨q, hq, hp⟩ := ht.successors c hc
    obtain ⟨q', hq', hp', -, -⟩ := lookup_insert_withStatus a.decision.status stored hq
    exact ⟨q', hq', hp'.trans hp⟩

/-- A successor comes in, before its predecessor is superseded. -/
theorem PlanTables.Sound.correct (ht : t.Sound) {c : CorrectionRow} {p q : PlanRecord}
    (stored : t.plans.lookup c.predecessor = some p) (open_ : p.status ∉ uncorrectable)
    (new : t.plans.lookup q.key = none) (successor : c.successor = q.key)
    (pending : q.status = .pendingApproval) (predecessor : q.predecessor = some c.predecessor)
    (only : ∀ {k q'}, t.plans.lookup k = some q' → q'.predecessor ≠ some c.predecessor)
    (unlinked : c.predecessor ∉ t.corrections.map (·.predecessor)) :
    PlanTables.Sound { t with
      plans := (t.plans.insert q.key q).insert c.predecessor (p.withStatus .superseded)
      corrections := t.corrections ++ [c] } := by
  have stored' : (t.plans.insert q.key q).lookup c.predecessor = some p :=
    Table.lookup_insert_new new stored
  have hnsup : p.status ≠ .superseded := by
    intro h
    rw [h] at open_
    exact open_ (List.mem_cons_self ..)
  have hkeep : ∀ {k r}, t.plans.lookup k = some r → ∃ r',
      ((t.plans.insert q.key q).insert c.predecessor (p.withStatus .superseded)).lookup k
        = some r' ∧ r'.predecessor = r.predecessor ∧ r'.planDigest = r.planDigest ∧
      (k ≠ c.predecessor → r' = r) := fun h =>
    lookup_insert_withStatus (t := { t with plans := t.plans.insert q.key q }) .superseded stored'
      (Table.lookup_insert_new new h)
  have hfind : ∀ {k r},
      ((t.plans.insert q.key q).insert c.predecessor (p.withStatus .superseded)).lookup k
        = some r → (k = q.key ∧ r.predecessor = some c.predecessor) ∨
      ∃ r', t.plans.lookup k = some r' ∧ r.predecessor = r'.predecessor := by
    intro k r h
    obtain ⟨r', h', he⟩ := lookup_withStatus
      (t := { t with plans := t.plans.insert q.key q }) stored' h
    rcases Table.lookup_insert_cases h' with ⟨rfl, rfl⟩ | ⟨-, h'⟩
    · exact .inl ⟨rfl, he.trans predecessor⟩
    · exact .inr ⟨r', h', he⟩
  refine ⟨ht.decisions, ?_, ?_, ?_, ?_, ?_, nodup_map_concat ht.linked unlinked, ?_⟩
  · intro a ha
    obtain ⟨r, hr, hd⟩ := ht.decided a ha
    obtain ⟨r', hr', -, hd', -⟩ := hkeep hr
    exact ⟨r', hr', hd.trans hd'.symm⟩
  · intro k r h v hv
    rcases Table.lookup_insert_cases h with ⟨rfl, rfl⟩ | ⟨-, h⟩
    · exact absurd hv.symm v.status_ne_superseded
    · rcases Table.lookup_insert_cases h with ⟨rfl, rfl⟩ | ⟨-, h⟩
      · exact absurd (pending.symm.trans hv) v.status_ne_pending
      · exact ht.verdict h v hv
  · intro k r h hs
    rcases Table.lookup_insert_cases h with ⟨rfl, rfl⟩ | ⟨-, h⟩
    · exact ⟨c, List.mem_append_right _ (List.mem_singleton_self c), rfl⟩
    · rcases Table.lookup_insert_cases h with ⟨rfl, rfl⟩ | ⟨-, h⟩
      · rw [pending] at hs
        cases hs
      · obtain ⟨c', hc', he⟩ := ht.superseded h hs
        exact ⟨c', List.mem_append_left _ hc', he⟩
  · intro k r k' h hp
    obtain ⟨-, hr⟩ | ⟨r', h', he⟩ := hfind h
    · cases hr.symm.trans hp
      exact ⟨_, AList.lookup_insert _, rfl⟩
    · obtain ⟨s, hs, hsup⟩ := ht.named h' (he ▸ hp)
      obtain ⟨s', hs', -, -, hsame⟩ := hkeep hs
      have hne : k' ≠ c.predecessor := by
        rintro rfl
        rw [stored] at hs
        cases hs
        exact hnsup hsup
      exact ⟨s', hs', hsame hne ▸ hsup⟩
  · intro k₁ q₁ k₂ q₂ k h₁ p₁ h₂ p₂
    obtain ⟨rfl, r₁⟩ | ⟨q₁', h₁', e₁⟩ := hfind h₁ <;> obtain ⟨rfl, r₂⟩ | ⟨q₂', h₂', e₂⟩ := hfind h₂
    · rfl
    · cases r₁.symm.trans p₁
      exact absurd (e₂ ▸ p₂) (only h₂')
    · cases r₂.symm.trans p₂
      exact absurd (e₁ ▸ p₁) (only h₁')
    · exact ht.only h₁' (e₁ ▸ p₁) h₂' (e₂ ▸ p₂)
  · intro c' hc'
    rcases List.mem_append.mp hc' with hc' | hc'
    · obtain ⟨r, hr, hp⟩ := ht.successors c' hc'
      obtain ⟨r', hr', hp', -, -⟩ := hkeep hr
      exact ⟨r', hr', hp'.trans hp⟩
    · cases List.mem_singleton.mp hc'
      have hne : q.key ≠ c.predecessor := by
        intro he
        rw [he, stored] at new
        cases new
      refine ⟨q, ?_, predecessor⟩
      rw [successor, AList.lookup_insert_ne hne]
      exact AList.lookup_insert _

/-- **A move keeps the plans sound.** -/
theorem PlanTables.Sound.move (ht : t.Sound) (hm : t.Move t') : t'.Sound := by
  cases hm with
  | prepare p new first pending => exact ht.prepare new first pending
  | decide a stored pending digest new => exact ht.decide stored pending digest new
  | correct c stored open_ new successor pending predecessor only unlinked =>
    exact ht.correct stored open_ new successor pending predecessor only unlinked

/-- A move leaves final plans alone. -/
theorem PlanTables.Move.keeps_final (hm : t.Move t') {k : PlanKey} {p : PlanRecord}
    (h : t.plans.lookup k = some p) (hf : isFinal p.status = true) :
    t'.plans.lookup k = some p := by
  cases hm with
  | prepare q new => exact Table.lookup_insert_new new h
  | decide a stored pending =>
    have hne : k ≠ a.plan := by
      rintro rfl
      rw [stored] at h
      cases h
      rw [pending] at hf
      cases hf
    show AList.lookup _ (AList.insert _ _ _) = _
    rwa [AList.lookup_insert_ne hne]
  | correct c stored open_ new =>
    have hne : k ≠ c.predecessor := by
      rintro rfl
      rw [stored] at h
      cases h
      exact open_ (uncorrectable_of_final hf)
    show AList.lookup _ (AList.insert _ _ _) = _
    rw [AList.lookup_insert_ne hne]
    exact Table.lookup_insert_new new h

/-! ### The statements as moves -/

section Writers

theorem insertPlan_spec {definitions : RowKey → Bool} {p : PlanRecord}
    (h : t.insertPlan definitions p = some t') :
    t.plans.lookup p.key = none ∧ p.successorMetadata = true ∧
    (p.predecessorPlanId.isNone == p.predecessorPlanVersion.isNone) = true ∧
    (∀ k, p.predecessor = some k → ∀ k' q, t.plans.lookup k' = some q → q.predecessor ≠ some k) ∧
    t' = { t with plans := t.plans.insert p.key p } := by
  obtain ⟨hc, rfl⟩ := guarded_eq_some.mp h
  simp only [PlanTables.insertable, Bool.and_eq_true, Option.isNone_iff_eq_none,
    Option.all_eq_true, Bool.not_eq_true', Table.anyRow_eq_false, decide_eq_false_iff_not] at hc
  exact ⟨hc.1.2, hc.1.1.1.2, hc.1.1.1.1.2, fun k hk => (hc.2 k hk).2, rfl⟩

theorem withoutSource_predecessor {p : PlanRecord}
    (h : p.withoutSource.successorMetadata = true) : p.withoutSource.predecessor = none := by
  simp only [PlanRecord.successorMetadata, PlanRecord.withoutSource, Option.any_none,
    Bool.false_and, Bool.or_false, Option.isNone_iff_eq_none] at h
  simp [PlanRecord.predecessor, PlanRecord.withoutSource, h]

theorem preparePlanEntry_spec {p a : PlanRecord} {authorized : Bool} {s s' : Authority}
    (h : preparePlanEntry p authorized s = .ok (a, s')) :
    s.plans.Move s'.plans ∧ (s.plans.Digested → s'.plans.Digested) := by
  unfold preparePlanEntry at h
  simp only [ite_error_eq_ok', bind_eq_ok, orRaise_eq_ok, not_or, not_not] at h
  obtain ⟨-, ⟨hs, -, -, hd⟩, t', ht, h⟩ := h
  cases h
  obtain ⟨hnew, hmeta, -, -, rfl⟩ := insertPlan_spec ht
  refine ⟨.prepare p.withoutSource hnew (withoutSource_predecessor hmeta) hs, ?_⟩
  intro hall k q hq
  rcases Table.lookup_insert_cases hq with ⟨rfl, rfl⟩ | ⟨-, hq⟩
  · exact hd.symm
  · exact hall k q hq

theorem insertApproval_spec {scope : ScopeIdentity} {d : ApprovalDecision}
    (h : t.insertApproval scope d = some t') :
    (scope.key d.planId, d.planVersion) ∉ t.approvals.map (·.plan) ∧
    t' = { t with approvals := t.approvals ++ [⟨scope.key d.approvalDecisionId,
      (scope.key d.planId, d.planVersion), d.planDigest, d.ordinal, d.decision⟩] } := by
  obtain ⟨hc, rfl⟩ := guarded_eq_some.mp h
  simp only [Bool.and_eq_true, Bool.not_eq_true', List.any_eq_false, decide_eq_true_eq,
    not_or] at hc
  refine ⟨?_, rfl⟩
  intro hm
  obtain ⟨r, hr, he⟩ := List.mem_map.mp hm
  exact (hc.2 r hr).2 he

theorem move_of_approval {scope : ScopeIdentity} {d : ApprovalDecision} {p : PlanRecord}
    (stored : t.plans.lookup (scope.key d.planId, d.planVersion) = some p)
    (pending : p.status = .pendingApproval) (digest : p.planDigest = d.planDigest)
    (h : t.insertApproval scope d = some t') :
    t.Move (t'.setStatus (scope.key d.planId, d.planVersion) d.decision.status) ∧
    (t.Digested →
      (t'.setStatus (scope.key d.planId, d.planVersion) d.decision.status).Digested) := by
  obtain ⟨hnew, rfl⟩ := insertApproval_spec h
  have hm := PlanTables.Move.decide ⟨scope.key d.approvalDecisionId,
    (scope.key d.planId, d.planVersion), d.planDigest, d.ordinal, d.decision⟩ stored pending
    digest.symm hnew
  simp only [PlanTables.setStatus, stored]
  refine ⟨hm, ?_⟩
  intro hall k q hq
  rcases Table.lookup_insert_cases hq with ⟨rfl, rfl⟩ | ⟨-, hq⟩
  · exact hall _ p stored
  · exact hall k q hq

theorem approvePlanEntry_spec {scope : ScopeIdentity} {d a : ApprovalDecision} {expected : Nat}
    {authorized : Bool} {s s' : Authority}
    (h : approvePlanEntry scope d expected authorized s = .ok (a, s')) :
    s.plans.Move s'.plans ∧ (s.plans.Digested → s'.plans.Digested) := by
  unfold approvePlanEntry at h
  simp only [ite_error_eq_ok', bind_eq_ok] at h
  obtain ⟨-, -, -, plans, hp, h⟩ := h
  cases h
  unfold PlanTables.appendApproval at hp
  simp only [ite_error_eq_ok'] at hp
  obtain ⟨-, hp⟩ := hp
  split at hp
  · cases hp
  next p hrow =>
    simp only [ite_error_eq_ok', bind_eq_ok, orRaise_eq_ok, not_or, not_not] at hp
    obtain ⟨⟨hd, hs⟩, t', ht, hp⟩ := hp
    cases hp
    exact move_of_approval hrow hs hd ht

theorem insertCorrection_spec {scope : ScopeIdentity} {c : PlanCorrection}
    (h : t.insertCorrection scope c = some t') :
    (scope.key c.predecessorPlanId, c.predecessorPlanVersion) ∉
      t.corrections.map (·.predecessor) ∧
    t' = { t with corrections := t.corrections ++ [⟨scope.key c.correctionId,
      (scope.key c.predecessorPlanId, c.predecessorPlanVersion),
      (scope.key c.successorPlanId, c.successorPlanVersion)⟩] } := by
  obtain ⟨hc, rfl⟩ := guarded_eq_some.mp h
  simp only [Bool.and_eq_true, Bool.not_eq_true', List.any_eq_false, decide_eq_true_eq,
    not_or] at hc
  refine ⟨?_, rfl⟩
  intro hm
  obtain ⟨r, hr, he⟩ := List.mem_map.mp hm
  exact (hc.2 r hr).2.1 he

/-- A correction is a move; it keeps the digests right if the successor's is. -/
theorem move_of_correction {op : WorkflowControlOperation} {definitions : RowKey → Bool}
    {p : PlanRecord} (h : op.persistCorrection definitions t = .ok (t', p)) :
    t.Move t' ∧ op.successorPlan = some p ∧
    (p.planDigest = sha256Bytes p.canonicalBytes → t.Digested → t'.Digested) := by
  obtain ⟨c, planId, planVersion, q, inserted, linked, -, hsucc, -, -, hscope, hpend, hpred, hci,
    hcv, hsi, hsv, hq, hopen, hins, hlink, rfl⟩ := persistCorrection_spec h
  obtain ⟨hnew, -, -, honly, rfl⟩ := insertPlan_spec hins
  obtain ⟨hunl, rfl⟩ := insertCorrection_spec hlink
  rw [hci, hcv, hsi, hsv] at *
  have hkey : (op.scope.key p.planId, p.planVersion) = p.key := by
    rw [PlanRecord.key, hscope]
  have hm := PlanTables.Move.correct (q := p) ⟨op.scope.key c.correctionId,
    (op.scope.key planId, planVersion), (op.scope.key p.planId, p.planVersion)⟩ hq hopen hnew hkey
    hpend hpred (fun hk => honly _ hpred _ _ hk) hunl
  have hq' : (t.plans.insert p.key p).lookup (op.scope.key planId, planVersion) = some q :=
    Table.lookup_insert_new hnew hq
  simp only [PlanTables.setStatus, hq']
  refine ⟨hm, hsucc, ?_⟩
  intro hd hall k r hr
  rcases Table.lookup_insert_cases hr with ⟨rfl, rfl⟩ | ⟨-, hr⟩
  · exact hall _ q hq
  · rcases Table.lookup_insert_cases hr with ⟨rfl, rfl⟩ | ⟨-, hr⟩
    · exact hd
    · exact hall k r hr

end Writers

/-! ### Runs -/

section Runs

/-- The commands of plan control: `persist` inserts its own plans. -/
def Command.IsPlanCommand : Command → Prop
  | .persist .. => False
  | _ => True

/-- A correction brings a successor whose digest is that of its bytes. -/
def Command.BringsDigest : Command → Prop
  | .persistOperation _ op _ => op.commandType = .correctPlan →
      ∀ p ∈ op.successorPlan, p.planDigest = sha256Bytes p.canonicalBytes
  | _ => True

/-- A committed command moves the plans or leaves them. -/
theorem body_plans {c : Command} {s s' : Authority} (hc : c.IsPlanCommand)
    (h : c.body s = .ok ((), s')) :
    (s'.plans = s.plans ∨ s.plans.Move s'.plans) ∧
    (c.BringsDigest → s.plans.Digested → s'.plans.Digested) := by
  have same : s'.plans = s.plans → (s'.plans = s.plans ∨ s.plans.Move s'.plans) ∧
      (c.BringsDigest → s.plans.Digested → s'.plans.Digested) := fun he =>
    ⟨.inl he, fun _ hd => he.symm ▸ hd⟩
  by_cases hl : c.ledgerOnly = true
  · exact same (by rw [body_ledgerOnly hl h])
  cases c <;> simp only [Command.ledgerOnly, not_true_eq_false] at hl <;>
    obtain ⟨a, h⟩ := ignoring_eq_ok.mp h
  case preparePlanEntry =>
    obtain ⟨hm, hd⟩ := preparePlanEntry_spec h
    exact ⟨.inr hm, fun _ => hd⟩
  case approvePlanEntry =>
    obtain ⟨hm, hd⟩ := approvePlanEntry_spec h
    exact ⟨.inr hm, fun _ => hd⟩
  case persist => exact hc.elim
  case persistOperation x op authorized =>
    obtain ⟨-, -, -, ⟨_, -, -, rfl⟩ | ⟨-, h⟩⟩ := persistOperation_cases h
    · exact same rfl
    · obtain ⟨id, cur, l₁, e, tid, n, ev, oc, hcar, -, rfl⟩ := runOperation_spec h
      obtain he | ⟨-, _, _, _, hp⟩ | ⟨hk, p, hp⟩ := carryOut_plans hcar.carried
      · exact same he
      · obtain ⟨_, d, _, _, -, -, -, -, -, hstored, hs, hdig, -, hins, -, he⟩ :=
          persistPlanOperation_spec hp
        obtain ⟨hm, hd⟩ := move_of_approval hstored hs hdig hins
        rw [← he] at hm hd
        exact ⟨.inr hm, fun _ => hd⟩
      · obtain ⟨hm, hsucc, hd⟩ := move_of_correction hp
        exact ⟨.inr hm, fun hb => hd (hb hk p hsucc)⟩
  case save =>
    obtain ⟨-, _, _, _, -, -, -, he⟩ := save_spec h
    exact same (by rw [he])

theorem run_plans_sound {cs : List Command} (hcs : ∀ c ∈ cs, c.IsPlanCommand) {s : Authority}
    (hs : s.plans.Sound) : (run cs s).plans.Sound :=
  run_induction (P := fun s => s.plans.Sound)
    (fun c s s' hc ht h => by
      obtain ⟨he | hm, -⟩ := body_plans hc h
      · rw [he]
        exact ht
      · exact ht.move hm) hcs hs

theorem run_digested {cs : List Command} (hcs : ∀ c ∈ cs, c.IsPlanCommand ∧ c.BringsDigest)
    {s : Authority} (hs : s.plans.Digested) : (run cs s).plans.Digested :=
  run_induction (P := fun s => s.plans.Digested)
    (fun _ _ _ hc hd h => (body_plans hc.1 h).2 hc.2 hd) hcs hs

/-- A final plan is never written again. -/
theorem run_keeps_final {cs : List Command} (hcs : ∀ c ∈ cs, c.IsPlanCommand) {s : Authority}
    {k : PlanKey} {p : PlanRecord} (h : s.plans.plans.lookup k = some p)
    (hf : isFinal p.status = true) : (run cs s).plans.plans.lookup k = some p :=
  run_induction (P := fun s => s.plans.plans.lookup k = some p)
    (fun c s s' hc hp h => by
      obtain ⟨he | hm, -⟩ := body_plans hc h
      · rw [he]
        exact hp
      · exact hm.keeps_final hp hf) hcs h

end Runs

/-! ### One plan -/

/-- The rows of a plan agree with each other. -/
structure PlanLaw (t : PlanTables) (k : PlanKey) (p : PlanRecord) : Prop where
  digest : p.planDigest = sha256Bytes p.canonicalBytes
  oneDecision : (t.approvals.filter fun a => a.plan = k).length ≤ 1
  decisionDigest : ∀ a ∈ t.approvals, a.plan = k → a.planDigest = p.planDigest
  approved : p.status = .approved → ∃ a ∈ t.approvals, a.plan = k ∧ a.decision = .approve
  rejected : p.status = .rejected → ∃ a ∈ t.approvals, a.plan = k ∧ a.decision = .reject
  superseded : p.status = .superseded ↔ ∃ k' q, t.plans.lookup k' = some q ∧
    q.predecessor = some k ∧
    (∀ k'' q', t.plans.lookup k'' = some q' → q'.predecessor = some k → k'' = k') ∧
    (t.corrections.filter fun c => c.predecessor = k ∧ c.successor = k').length = 1

theorem PlanTables.Sound.law (ht : t.Sound) (hd : t.Digested) {k : PlanKey} {p : PlanRecord}
    (h : t.plans.lookup k = some p) : PlanLaw t k p where
  digest := hd k p h
  oneDecision := length_filter_map_le_one ht.decisions k
  decisionDigest a ha hk := by
    obtain ⟨q, hq, hdig⟩ := ht.decided a ha
    rw [hk, h] at hq
    cases hq
    exact hdig
  approved hs := ht.verdict h .approve hs
  rejected hs := ht.verdict h .reject hs
  superseded := by
    constructor
    · intro hs
      obtain ⟨c, hc, rfl⟩ := ht.superseded h hs
      obtain ⟨q, hq, hp⟩ := ht.successors c hc
      refine ⟨c.successor, q, hq, hp, fun k'' q' hq' hp' => ht.only hq' hp' hq hp, ?_⟩
      have hle := length_filter_map_le_one ht.linked c.predecessor
      have hsub : (t.corrections.filter fun c' => c'.predecessor = c.predecessor ∧
          c'.successor = c.successor).length ≤
          (t.corrections.filter fun c' => c'.predecessor = c.predecessor).length :=
        (List.monotone_filter_right _ fun c' hc' => by simp_all).length_le
      have hpos : 0 < (t.corrections.filter fun c' => c'.predecessor = c.predecessor ∧
          c'.successor = c.successor).length :=
        List.length_pos_of_mem (List.mem_filter.mpr ⟨hc, by simp⟩)
      omega
    · rintro ⟨k', q, hq, hp, -, -⟩
      obtain ⟨p', hp', hs⟩ := ht.named hq hp
      rw [h] at hp'
      cases hp'
      exact hs

/-- **The plans of Workflow Control.** In a run in which every correction
brings a successor with the digest of its bytes, all rows of every plan agree, a
rejected or superseded plan stays as it is, and a command that raises changes
nothing. -/
theorem plan_law_of_run (cs : List Command) (s : Authority)
    (hcs : ∀ c ∈ cs, c.IsPlanCommand ∧ c.BringsDigest) (hs : s.plans = PlanTables.empty) :
    (∀ k p, (run cs s).plans.plans.lookup k = some p → PlanLaw (run cs s).plans k p) ∧
    (∀ k p, (run cs s).plans.plans.lookup k = some p →
      p.status = .rejected ∨ p.status = .superseded →
      ∀ ds : List Command, (∀ d ∈ ds, d.IsPlanCommand) →
        (run (cs ++ ds) s).plans.plans.lookup k = some p) ∧
    ∀ (c : Command) e, (c.call (run cs s)).1 = .error e → (c.call (run cs s)).2 = run cs s := by
  have hsound : (run cs s).plans.Sound :=
    run_plans_sound (fun c hc => (hcs c hc).1) (hs ▸ PlanTables.sound_empty)
  have hdig : (run cs s).plans.Digested := by
    apply run_digested hcs
    rw [hs]
    intro k p hp
    cases hp
  refine ⟨fun k p h => hsound.law hdig h, ?_, fun c e => call_error⟩
  intro k p h hf ds hds
  rw [run_append]
  apply run_keeps_final hds h
  rcases hf with hf | hf <;> rw [hf] <;> rfl

end Plans

section Samples

open AgentPlatform.Sample Sample

/-- Hypotheses of the law are met by a correction with the right digest. -/
theorem plan_law_of_correction :
    let cs := [.preparePlanEntry plan true,
      .requestIntervention scope (request "intervention-1" "POLICY"),
      .persistOperation answers (correction (sha256Bytes successorBytes)) true]
    ∀ k p, (run cs runStore).plans.plans.lookup k = some p → PlanLaw (run cs runStore).plans k p := by
  intro cs
  refine (plan_law_of_run cs runStore ?_ rfl).1
  have hb : ∀ p ∈ (correction (sha256Bytes successorBytes)).successorPlan,
      p.planDigest = sha256Bytes p.canonicalBytes := by
    rintro p ⟨⟩
    rfl
  simp only [cs, List.mem_cons, List.not_mem_nil, or_false, forall_eq_or_imp, forall_eq]
  exact ⟨⟨trivial, trivial⟩, ⟨trivial, trivial⟩, trivial, fun _ => hb⟩

/-- A stored plan with another digest than that of its bytes. -/
theorem not_digested {s : Authority} {k : PlanKey} {digest : String} {bytes : List UInt8}
    (h : (s.plans.plans.lookup k).map (fun p => (p.planDigest, p.canonicalBytes)) = some (digest, bytes))
    (hne : digest ≠ sha256Bytes bytes) :
    ¬ ∀ k p, s.plans.plans.lookup k = some p → p.planDigest = sha256Bytes p.canonicalBytes := by
  intro hall
  obtain ⟨p, hp, he⟩ := Option.map_eq_some_iff.mp h
  obtain ⟨hd, hb⟩ := Prod.mk.inj he
  have hdig := hall _ p hp
  rw [hd, hb] at hdig
  exact hne hdig

/-- The row of the successor after a correction with a wrong digest. -/
theorem corrected_row :
    ((run [.preparePlanEntry plan true,
      .requestIntervention scope (request "intervention-1" "POLICY"),
      .persistOperation answers (correction (digest 'b').1) true] runStore).plans.plans.lookup
        (scope.key "plan-2", 1)).map (fun p => (p.planDigest, p.canonicalBytes)) =
      some ((digest 'b').1, successorBytes) := by
  decide +kernel

/-- **A wrong correction is stored.** The successor's digest is not the digest
of its bytes, and the correction commits. -/
theorem corrected_digest_unchecked :
    let s := run [.preparePlanEntry plan true,
      .requestIntervention scope (request "intervention-1" "POLICY"),
      .persistOperation answers (correction (digest 'b').1) true] runStore
    ¬ ∀ k p, s.plans.plans.lookup k = some p → p.planDigest = sha256Bytes p.canonicalBytes := by
  exact not_digested corrected_row (by decide +kernel)

end Samples

end Control

end AgentPlatform
