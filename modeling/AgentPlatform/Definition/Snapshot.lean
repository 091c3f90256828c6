/-
AgentPlatform/Definition/Snapshot.lean

A catalog snapshot depends on the relevant records and on nothing else.

`InScope` says that a call recorded something of the tenant and the domain of a
request, not later than its evaluation time. Two authorities whose ledgers agree on
these records list the same decisions of each version up
to order, and a projection looks at them through an existence test, a test for
conflicts and a sort with distinct keys, none of which sees the order
(`project_congr`).

Main result: `snapshot_of_records`, of two runs. The order of the accepted calls,
replays, later decisions and records of other scopes make no difference.
-/
import AgentPlatform.Definition.Sample

namespace AgentPlatform
namespace Definition

open Py

/-! ### The latest of several decisions -/

section Latest

variable {δ β : Type} [DecidableEq β] {base : δ → Decision} {action : δ → β}

/-- The two instants of a decision. -/
def instants (d : Decision) : Nat × Nat := (d.effectiveAt.micros, d.decidedAt.micros)

/-- No conflict: decisions of the same instants have the same action. -/
theorem rejectSimultaneousConflict_eq_ok {seen : Nat × Nat → Option β} {l : List δ} :
    rejectSimultaneousConflict base action seen l = .ok () ↔
      (∀ d ∈ l, ∀ b ∈ seen (instants (base d)), b = action d) ∧
        l.Pairwise fun d e => instants (base d) = instants (base e) → action d = action e := by
  induction l generalizing seen with
  | nil => simp [rejectSimultaneousConflict]
  | cons d l ih =>
    rw [rejectSimultaneousConflict]
    show (if (seen (instants (base d))).any (· ≠ action d) then _ else
      rejectSimultaneousConflict base action
        (Function.update seen (instants (base d)) (some (action d))) l) = _ ↔ _
    rw [ite_error_eq_ok', ih, List.forall_mem_cons, List.pairwise_cons]
    have hany : ¬ (seen (instants (base d))).any (· ≠ action d) ↔
        ∀ b ∈ seen (instants (base d)), b = action d := by
      simp [Option.any_eq_true]
    rw [hany]
    constructor
    · rintro ⟨hd, hl, hp⟩
      refine ⟨⟨hd, fun e he b hb => ?_⟩, fun e he hde => ?_, hp⟩
      · by_cases hk : instants (base e) = instants (base d)
        · rw [hk] at hb
          rw [hd b hb]
          exact hl e he _ (by rw [hk, Function.update_self]; rfl)
        · exact hl e he b (by rw [Function.update_of_ne hk]; exact hb)
      · exact hl e he _ (by rw [← hde, Function.update_self]; rfl)
    · rintro ⟨⟨hd, hl⟩, hde, hp⟩
      refine ⟨hd, fun e he b hb => ?_, hp⟩
      by_cases hk : instants (base e) = instants (base d)
      · rw [hk, Function.update_self] at hb
        cases hb
        exact hde e he hk.symm
      · rw [Function.update_of_ne hk] at hb
        exact hl e he b hb

theorem rejectSimultaneousConflict_error {seen : Nat × Nat → Option β} {l : List δ} {code : String}
    (h : rejectSimultaneousConflict base action seen l = .error code) :
    code = "CONFLICTING_AUTHORITY_RECORDS" := by
  induction l generalizing seen with
  | nil => cases h
  | cons d l ih =>
    rw [rejectSimultaneousConflict] at h
    split at h
    · cases h
      rfl
    · exact ih h

/-- The test for conflicts does not see the order. -/
theorem rejectSimultaneousConflict_perm {l l' : List δ} (hp : l.Perm l') :
    rejectSimultaneousConflict base action (fun _ => none) l
      = rejectSimultaneousConflict base action (fun _ => none) l' := by
  have hok : rejectSimultaneousConflict base action (fun _ => none) l = .ok () ↔
      rejectSimultaneousConflict base action (fun _ => none) l' = .ok () := by
    rw [rejectSimultaneousConflict_eq_ok, rejectSimultaneousConflict_eq_ok]
    refine and_congr (by simp) (hp.pairwise_iff fun hde hed => ?_)
    exact (hde hed.symm).symm
  rcases h : rejectSimultaneousConflict base action (fun _ => none) l with code | ⟨⟩
  · rcases h' : rejectSimultaneousConflict base action (fun _ => none) l' with code' | ⟨⟩
    · rw [rejectSimultaneousConflict_error h, rejectSimultaneousConflict_error h']
    · rw [hok.mpr h'] at h
      cases h
  · exact (hok.mp h).symm

/-- **The latest decision** is the same whatever the order they are listed in. -/
theorem latest_perm {missing : String} {l l' : List δ} (hp : l.Perm l')
    (hinj : ∀ d ∈ l, ∀ e ∈ l, (base d).decisionId = (base e).decisionId → d = e) :
    latest base action missing l = latest base action missing l' := by
  have hsort : sortedBy (fun d => (base d).key) l = sortedBy (fun d => (base d).key) l' := by
    refine sortedBy_perm hp fun d hd e he hde => ?_
    exact hinj d hd e he (triple_inj hde).2.2
  rw [latest, latest, hsort, rejectSimultaneousConflict_perm hp]

end Latest

/-! ### Relevant records -/

/-- Something of the scope, not later than the instant. -/
def InScope (tenant domain : String) (at' : Datetime) : Op → Prop
  | .register v => v.tenantId = tenant ∧ v.securityDomain = domain
  | .publish d =>
    d.tenantId = tenant ∧ d.securityDomain = domain ∧ d.effectiveAt.micros ≤ at'.micros
  | .authorize d =>
    d.tenantId = tenant ∧ d.securityDomain = domain ∧ d.effectiveAt.micros ≤ at'.micros
  | .snapshot _ => False

section Projection

variable [Whitespace] {a b : Authority} {acc acc' : Op → Prop} {tenant domain purpose : String}
  {at' : Datetime} {v : DefinitionVersion}

theorem Ledger.scope (h : Ledger a acc) (hv : acc (.register v)) {d : Decision} (hd : Bound acc d)
    (hkey : d.definitionId = v.definitionId ∧ d.versionId = v.versionId) :
    d.tenantId = v.tenantId ∧ d.securityDomain = v.securityDomain := by
  obtain ⟨w, hw, hid, -, htenant, hdomain, -⟩ := hd
  have hwv : w = v := h.versions.eq_of_key hw hv (hid.trans (Prod.ext hkey.1 hkey.2))
  exact ⟨by rw [← hwv, htenant], by rw [← hwv, hdomain]⟩

theorem mem_publicationsOf (h : Ledger a acc) {d : PublicationDecision} :
    d ∈ a.publicationsOf v at' ↔ acc (.publish d) ∧ (d.definitionId = v.definitionId ∧
      d.versionId = v.versionId ∧ d.definitionDigest = v.definitionDigest) ∧ d.active at' := by
  rw [Authority.publicationsOf, List.mem_filter, h.publication.mem]
  simp

theorem mem_authorizationsOf (h : Ledger a acc) {d : MatchAuthorizationDecision} :
    d ∈ a.authorizationsOf v purpose at' ↔ acc (.authorize d) ∧ (d.definitionId = v.definitionId ∧
      d.versionId = v.versionId ∧ d.definitionDigest = v.definitionDigest ∧ d.purpose = purpose) ∧
      d.effectiveAt.micros ≤ at'.micros := by
  rw [Authority.authorizationsOf, List.mem_filter, h.authorization.mem]
  simp

omit [Whitespace] in
theorem active_effective {d : Decision} (h : d.active at') : d.effectiveAt.micros ≤ at'.micros := by
  rw [Decision.active, Bool.and_eq_true, decide_eq_true_eq] at h
  exact h.1

/-- The ledgers agree on what is in the scope. -/
def Agree (tenant domain : String) (at' : Datetime) (acc acc' : Op → Prop) : Prop :=
  ∀ op, InScope tenant domain at' op → (acc op ↔ acc' op)

variable (ha : Ledger a acc) (hb : Ledger b acc') (hagree : Agree tenant domain at' acc acc')
  (hv : acc (.register v)) (hscope : v.tenantId = tenant ∧ v.securityDomain = domain)
include ha hb hagree

/-- The versions of the scope are the same. -/
theorem scopedVersions_congr : a.scopedVersions tenant domain = b.scopedVersions tenant domain := by
  have hmem : ∀ {c : Authority} {ac : Op → Prop}, Ledger c ac → ∀ w,
      w ∈ (values c.versions).filter (fun w => w.tenantId = tenant && w.securityDomain = domain) ↔
        ac (.register w) ∧ w.tenantId = tenant ∧ w.securityDomain = domain := by
    intro c ac hc w
    rw [List.mem_filter, hc.versions.mem]
    simp
  refine sortedBy_perm ?_ ?_
  · refine (List.perm_ext_iff_of_nodup (ha.versions.nodup.filter _) (hb.versions.nodup.filter _)).mpr
      fun w => ?_
    rw [hmem ha, hmem hb]
    exact and_congr_left fun hw => hagree (.register w) hw
  · intro w hw w' hw' hkey
    obtain ⟨hid, hversion, -⟩ := triple_inj hkey
    exact ha.versions.eq_of_key ((hmem ha w).mp hw).1 ((hmem ha w').mp hw').1
      (Prod.ext hid hversion)

include hv hscope

/-- The active publication decisions of a version are the same, up to order. -/
theorem publicationsOf_perm : (a.publicationsOf v at').Perm (b.publicationsOf v at') := by
  have hv' : acc' (.register v) := (hagree (.register v) hscope).mp hv
  refine (List.perm_ext_iff_of_nodup (ha.publication.nodup.filter _)
    (hb.publication.nodup.filter _)).mpr fun d => ?_
  show d ∈ a.publicationsOf v at' ↔ d ∈ b.publicationsOf v at'
  rw [mem_publicationsOf ha, mem_publicationsOf hb]
  refine and_congr_left fun ⟨hkey, hactive⟩ => ?_
  -- whichever ledger has the decision, it is bound to `v` and so in the scope
  have hin : ∀ {c : Authority} {ac : Op → Prop}, Ledger c ac → ac (.register v) →
      ac (.publish d) → InScope tenant domain at' (.publish d) := by
    intro c ac hc hcv hd
    obtain ⟨ht, hdm⟩ := hc.scope hcv (hc.published d hd).2 ⟨hkey.1, hkey.2.1⟩
    exact ⟨ht.trans hscope.1, hdm.trans hscope.2, active_effective hactive⟩
  exact ⟨fun hd => (hagree _ (hin ha hv hd)).mp hd, fun hd => (hagree _ (hin hb hv' hd)).mpr hd⟩

theorem authorizationsOf_perm :
    (a.authorizationsOf v purpose at').Perm (b.authorizationsOf v purpose at') := by
  have hv' : acc' (.register v) := (hagree (.register v) hscope).mp hv
  refine (List.perm_ext_iff_of_nodup (ha.authorization.nodup.filter _)
    (hb.authorization.nodup.filter _)).mpr fun d => ?_
  show d ∈ a.authorizationsOf v purpose at' ↔ d ∈ b.authorizationsOf v purpose at'
  rw [mem_authorizationsOf ha, mem_authorizationsOf hb]
  refine and_congr_left fun ⟨hkey, heffective⟩ => ?_
  have hin : ∀ {c : Authority} {ac : Op → Prop}, Ledger c ac → ac (.register v) →
      ac (.authorize d) → InScope tenant domain at' (.authorize d) := by
    intro c ac hc hcv hd
    obtain ⟨ht, hdm⟩ := hc.scope hcv (hc.authorized d hd).2 ⟨hkey.1, hkey.2.1⟩
    exact ⟨ht.trans hscope.1, hdm.trans hscope.2, heffective⟩
  exact ⟨fun hd => (hagree _ (hin ha hv hd)).mp hd, fun hd => (hagree _ (hin hb hv' hd)).mpr hd⟩

omit hv in
/-- A version is replaced by the same decisions. -/
theorem excludedBySuccessor_congr : a.excludedBySuccessor v at' = b.excludedBySuccessor v at' := by
  rw [Bool.eq_iff_iff, Authority.excludedBySuccessor, Authority.excludedBySuccessor, List.any_eq_true,
    List.any_eq_true]
  refine exists_congr fun d => and_congr_left fun hd => ?_
  rw [ha.publication.mem, hb.publication.mem]
  simp only [PublicationDecision.excludes, Bool.and_eq_true, decide_eq_true_eq] at hd
  refine hagree (.publish d) ⟨?_, ?_, active_effective hd.2⟩
  · rw [hd.1.1.2, hscope.1]
  · rw [hd.1.2, hscope.2]

/-- **A projection** is the same. -/
theorem project_congr : a.project v purpose at' = b.project v purpose at' := by
  have hpub : latest PublicationDecision.toDecision PublicationDecision.action
      "DEFINITION_UNPUBLISHED" (a.publicationsOf v at')
      = latest PublicationDecision.toDecision PublicationDecision.action
      "DEFINITION_UNPUBLISHED" (b.publicationsOf v at') := by
    refine latest_perm (publicationsOf_perm ha hb hagree hv hscope) fun d hd e he hde => ?_
    exact ha.publication.eq_of_key ((mem_publicationsOf ha).mp hd).1 ((mem_publicationsOf ha).mp he).1
      hde
  have hauth : latest MatchAuthorizationDecision.toDecision MatchAuthorizationDecision.action
      "MATCH_AUTHORIZATION_MISSING" (a.authorizationsOf v purpose at')
      = latest MatchAuthorizationDecision.toDecision MatchAuthorizationDecision.action
      "MATCH_AUTHORIZATION_MISSING" (b.authorizationsOf v purpose at') := by
    refine latest_perm (authorizationsOf_perm ha hb hagree hv hscope) fun d hd e he hde => ?_
    exact ha.authorization.eq_of_key ((mem_authorizationsOf ha).mp hd).1
      ((mem_authorizationsOf ha).mp he).1 hde
  rw [Authority.project, Authority.project, hpub, hauth,
    excludedBySuccessor_congr ha hb hagree hscope]

end Projection

/-! ### Two runs -/

section Runs

variable [Whitespace] {a b : Authority} {acc acc' : Op → Prop} {r : SnapshotRequest}

/-- A record of another scope, or a decision that takes effect later. -/
def Irrelevant (r : SnapshotRequest) : Op → Prop
  | .register v => v.tenantId ≠ nfc r.tenantId ∨ v.securityDomain ≠ nfc r.securityDomain
  | .publish d => r.evaluationTime.micros < d.effectiveAt.micros ∨
    d.tenantId ≠ nfc r.tenantId ∨ d.securityDomain ≠ nfc r.securityDomain
  | .authorize d => r.evaluationTime.micros < d.effectiveAt.micros ∨
    d.tenantId ≠ nfc r.tenantId ∨ d.securityDomain ≠ nfc r.securityDomain
  | .snapshot _ => True

omit [Whitespace] in
theorem utc_eq_ok {code : String} {t : LocalDatetime} {x : Datetime} (h : utc code t = .ok x) :
    t.offset = some 0 ∧ x.micros = t.micros := by
  rw [utc] at h
  split at h
  · rename_i ht
    cases h
    exact ⟨ht.2, rfl⟩
  · cases h

theorem not_irrelevant {at' : Datetime} (hat : at'.micros = r.evaluationTime.micros) {op : Op}
    (h : InScope (nfc r.tenantId) (nfc r.securityDomain) at' op) : ¬ Irrelevant r op := by
  cases op with
  | register v => exact fun hi => hi.elim (fun hne => hne h.1) fun hne => hne h.2
  | publish d =>
    rintro (hlt | hne | hne)
    · exact absurd h.2.2 (by omega)
    · exact hne h.1
    · exact hne h.2.1
  | authorize d =>
    rintro (hlt | hne | hne)
    · exact absurd h.2.2 (by omega)
    · exact hne h.1
    · exact hne h.2.1
  | snapshot _ => exact h.elim

/-- Authorities that agree on the scope assemble the same snapshot. -/
theorem assemble_congr {tenant domain : String} {at' : Datetime} (ha : Ledger a acc)
    (hb : Ledger b acc') (hagree : Agree tenant domain at' acc acc')
    (hrev : a.sourceAuthorityRevision = b.sourceAuthorityRevision) (purpose id hash : String) :
    a.assemble tenant domain purpose at' id hash = b.assemble tenant domain purpose at' id hash := by
  have hproject : (a.scopedVersions tenant domain).map (fun v => a.project v purpose at')
      = (b.scopedVersions tenant domain).map fun v => b.project v purpose at' := by
    rw [← scopedVersions_congr ha hb hagree]
    refine List.map_congr_left fun v hv => ?_
    rw [Authority.scopedVersions, mem_sortedBy, List.mem_filter, ha.versions.mem] at hv
    simp only [Bool.and_eq_true, decide_eq_true_eq] at hv
    exact project_congr ha hb hagree hv.1 hv.2
  rw [Authority.assemble, Authority.assemble, hproject, hrev]

theorem snapshotResult_congr (ha : Ledger a acc) (hb : Ledger b acc')
    (hrev : a.sourceAuthorityRevision = b.sourceAuthorityRevision)
    (hagree : ∀ op, ¬ Irrelevant r op → (acc op ↔ acc' op)) :
    a.snapshotResult r = b.snapshotResult r := by
  rw [Authority.snapshotResult, Authority.snapshotResult]
  refine bind_congr_ok fun tenant ht => bind_congr_ok fun domain hd => bind_congr_ok fun purpose _ =>
    bind_congr_ok fun at' hat => bind_congr_ok fun id _ => bind_congr_ok fun hash _ => ?_
  refine assemble_congr ha hb (fun op hop => hagree op ?_) hrev purpose id hash
  rw [(identifier_eq_ok ht).1, (identifier_eq_ok hd).1] at hop
  exact not_irrelevant (utc_eq_ok hat).2 hop

theorem snapshot_fst (a : Authority) (r : SnapshotRequest) : (a.snapshot r).1 = a.snapshotResult r := by
  rw [Authority.snapshot]
  split
  · rename_i h
    exact h.symm
  · rename_i h
    exact h.symm

/-- No call changes the source revision. -/
theorem apply_revision (a : Authority) (op : Op) :
    (a.apply op).2.sourceAuthorityRevision = a.sourceAuthorityRevision := by
  cases op with
  | register v =>
    show (a.register v).2.sourceAuthorityRevision = _
    rw [Authority.register]
    repeat' split
    all_goals rfl
  | publish d =>
    show (a.appendPublication d).2.sourceAuthorityRevision = _
    rw [Authority.appendPublication]
    repeat' split
    all_goals rfl
  | authorize d =>
    show (a.appendMatchAuthorization d).2.sourceAuthorityRevision = _
    rw [Authority.appendMatchAuthorization]
    repeat' split
    all_goals rfl
  | snapshot r =>
    show (a.snapshot r).2.sourceAuthorityRevision = _
    rw [Authority.snapshot]
    split <;> rfl

theorem run_revision (a : Authority) (ops : List Op) :
    (a.run ops).sourceAuthorityRevision = a.sourceAuthorityRevision := by
  induction ops generalizing a with
  | nil => rfl
  | cons op ops ih =>
    show ((a.apply op).2.run ops).sourceAuthorityRevision = _
    rw [ih, apply_revision]

theorem accepted_append (a : Authority) (ops later : List Op) :
    a.accepted (ops ++ later) = a.accepted ops ++ (a.run ops).accepted later := by
  induction ops generalizing a with
  | nil => rfl
  | cons op ops ih =>
    show (if (a.apply op).1 then op :: (a.apply op).2.accepted (ops ++ later)
      else (a.apply op).2.accepted (ops ++ later)) = _
    rw [ih]
    show _ = (if (a.apply op).1 then op :: (a.apply op).2.accepted ops
      else (a.apply op).2.accepted ops) ++ ((a.apply op).2.run ops).accepted later
    split <;> rfl

theorem mem_of_mem_accepted {a : Authority} {ops : List Op} {op : Op} (h : op ∈ a.accepted ops) :
    op ∈ ops := by
  induction ops generalizing a with
  | nil => exact h
  | cons op' ops ih =>
    rw [Authority.accepted] at h
    split at h
    · rcases List.mem_cons.mp h with rfl | h
      · exact List.mem_cons_self
      · exact List.mem_cons_of_mem _ (ih h)
    · exact List.mem_cons_of_mem _ (ih h)

/-- **Snapshots depend on the records only.** Two authorities of the same source
revision that accepted the same records, in any orders and with any replays, give
the same snapshot; and calls about other scopes, or about decisions that take
effect after the evaluation time, do not change it. -/
theorem snapshot_of_records {rev rev' : String} {a₀ b₀ : Authority}
    (hnew : Authority.new rev = .ok a₀) (hnew' : Authority.new rev' = .ok b₀)
    (hrev : a₀.sourceAuthorityRevision = b₀.sourceAuthorityRevision) (ops ops' : List Op)
    (r : SnapshotRequest) :
    ((∀ op, op.isRecord → (op ∈ a₀.accepted ops ↔ op ∈ b₀.accepted ops')) →
      ((a₀.run ops).snapshot r).1 = ((b₀.run ops').snapshot r).1) ∧
    ∀ later, (∀ op ∈ later, Irrelevant r op) →
      ((a₀.run (ops ++ later)).snapshot r).1 = ((a₀.run ops).snapshot r).1 := by
  have ha := run_ledger (new_ledger hnew)
  have hb := run_ledger (new_ledger hnew')
  simp only [snapshot_fst]
  constructor
  · intro hsame
    refine snapshotResult_congr (ha ops) (hb ops') ?_ fun op hop => ?_
    · rw [run_revision, run_revision, hrev]
    · have hrecord : op.isRecord := by
        cases op with
        | snapshot _ => exact absurd trivial hop
        | register | publish | authorize => trivial
      simp only [false_or]
      exact hsame op hrecord
  · intro later hlater
    refine snapshotResult_congr (ha (ops ++ later)) (ha ops) ?_ fun op hop => ?_
    · rw [run_revision, run_revision]
    · simp only [false_or]
      rw [accepted_append, List.mem_append]
      constructor
      · rintro (h | h)
        · exact h
        · exact absurd (hlater op (mem_of_mem_accepted h)) hop
      · exact .inl

/-! ### Stored records -/

/-- The record is stored under its key, checked, and bound to a stored version. -/
def Stored (a : Authority) : Op → Prop
  | .register v => a.versions.lookup (versionId v) = some v ∧ v.validate = .ok ()
  | .publish d => a.publication.lookup d.decisionId = some d ∧ d.validate = .ok () ∧
    ∃ v, a.versions.lookup (versionId v) = some v ∧ Binds d.toDecision v
  | .authorize d => a.authorization.lookup d.decisionId = some d ∧ d.validate = .ok () ∧
    ∃ v, a.versions.lookup (versionId v) = some v ∧ Binds d.toDecision v
  | .snapshot _ => False

theorem Ledger.stored_iff {a : Authority} {acc : Op → Prop} {op : Op} (h : Ledger a acc)
    (hop : op.isRecord) : Stored a op ↔ acc op := by
  have hbound : ∀ {d : Decision}, Bound acc d →
      ∃ v, a.versions.lookup (versionId v) = some v ∧ Binds d v := by
    rintro d ⟨v, hv, hbinds⟩
    exact ⟨v, (h.versions _ _).mpr ⟨rfl, hv⟩, hbinds⟩
  cases op with
  | register v =>
    refine ⟨fun hs => ((h.versions _ _).mp hs.1).2, fun hv => ?_⟩
    exact ⟨(h.versions _ _).mpr ⟨rfl, hv⟩, h.checked v hv⟩
  | publish d =>
    refine ⟨fun hs => ((h.publication _ _).mp hs.1).2, fun hd => ?_⟩
    exact ⟨(h.publication _ _).mpr ⟨rfl, hd⟩, (h.published d hd).imp_right hbound⟩
  | authorize d =>
    refine ⟨fun hs => ((h.authorization _ _).mp hs.1).2, fun hd => ?_⟩
    exact ⟨(h.authorization _ _).mpr ⟨rfl, hd⟩, (h.authorized d hd).imp_right hbound⟩
  | snapshot r => exact hop.elim

/-- **Records stay.** After any calls the authority stores exactly the records it accepted,
each of them checked and bound to a stored version. Whatever is called later, they are all
still stored as they were, and each is accepted again. -/
theorem records_stay {rev : String} {a₀ : Authority} (hnew : Authority.new rev = .ok a₀)
    (ops later : List Op) (op : Op) (hop : op.isRecord) :
    (Stored (a₀.run ops) op ↔ op ∈ a₀.accepted ops) ∧
      (op ∈ a₀.accepted ops → Stored ((a₀.run ops).run later) op ∧
        (((a₀.run ops).run later).apply op).1 = true) := by
  have h := run_ledger (new_ledger hnew) ops
  have hlater := run_ledger h later
  refine ⟨(h.stored_iff hop).trans (by simp), fun hmem => ⟨?_, ?_⟩⟩
  · exact (hlater.stored_iff hop).mpr (.inl (.inr hmem))
  · exact apply_of_recorded hlater hop (.inl (.inr hmem))

end Runs

namespace Sample

scoped instance : Whitespace := .identity

def fresh : Authority := ⟨"source.1", ∅, ∅, ∅, ∅, ∅, []⟩

theorem new_fresh : Authority.new "source.1" = .ok fresh := by
  rw [Authority.new, identifier_of_isIdentifier _ (by decide)]
  rfl

def analyst : DefinitionVersion := version "def.analyst" "tenant.acme" "analyze"

def published : PublicationDecision := publication "pub.1" analyst 0 .publish

def granted : MatchAuthorizationDecision := grant "grant.1" analyst 0

/-- A withdrawal that takes effect one microsecond after noon. -/
def withdrawn : PublicationDecision := publication "pub.2" analyst 1 .unpublish

/-- What is effective at noon. -/
def atNoon : SnapshotRequest :=
  ⟨"tenant.acme", "quality", "match", instant noon, "workflow.1", "digest.1"⟩

theorem fresh_analyst : Fresh (fun _ => False) (.register analyst) :=
  ⟨version_validate (by decide +kernel) (by decide +kernel) (by decide +kernel), fun _ h => h.elim⟩

theorem fresh_published {acc : Op → Prop} (hv : acc (.register analyst))
    (hacc : ∀ e, ¬ acc (.publish e)) : Fresh acc (.publish published) :=
  ⟨publication_validate (by decide +kernel) (by decide +kernel) (by decide +kernel)
    (by decide +kernel) _, ⟨analyst, hv, decision_binds _ _ _ _ _⟩, fun e he => absurd he (hacc e)⟩

theorem fresh_granted {acc : Op → Prop} (hv : acc (.register analyst))
    (hacc : ∀ e, ¬ acc (.authorize e)) : Fresh acc (.authorize granted) :=
  ⟨grant_validate (by decide +kernel) (by decide +kernel) (by decide +kernel) (by decide +kernel),
    ⟨analyst, hv, decision_binds _ _ _ _ _⟩, fun e he => absurd he (hacc e)⟩

/-- The records in two orders, the second time with replays, and a later withdrawal. -/
theorem snapshot_of_records_sample :
    ((fresh.run [.register analyst, .publish published, .authorize granted]).snapshot atNoon).1
      = ((fresh.run [.register analyst, .authorize granted, .register analyst, .publish published,
          .authorize granted]).snapshot atNoon).1 ∧
    ((fresh.run ([.register analyst, .publish published, .authorize granted]
        ++ [.publish withdrawn])).snapshot atNoon).1
      = ((fresh.run [.register analyst, .publish published, .authorize granted]).snapshot atNoon).1 := by
  have hledger := new_ledger new_fresh
  have h := snapshot_of_records new_fresh new_fresh rfl
    [.register analyst, .publish published, .authorize granted]
    [.register analyst, .authorize granted, .register analyst, .publish published,
      .authorize granted] atNoon
  refine ⟨h.1 fun op _ => ?_, h.2 _ ?_⟩
  · rw [accepted_of_admissible hledger, accepted_of_admissible hledger]
    · simp only [List.mem_cons, List.not_mem_nil, or_false]
      tauto
    · refine ⟨.inl fresh_analyst, .inl (fresh_granted (.inr rfl) ?_), .inr ⟨trivial, .inl (.inr rfl)⟩,
        .inl (fresh_published (.inl (.inl (.inr rfl))) ?_),
        .inr ⟨trivial, .inl (.inl (.inr rfl))⟩, trivial⟩
      · simp
      · simp
    · refine ⟨.inl fresh_analyst, .inl (fresh_published (.inr rfl) ?_),
        .inl (fresh_granted (.inl (.inr rfl)) ?_), trivial⟩
      · simp
      · simp
  · intro op hop
    rw [List.mem_singleton.mp hop]
    exact .inl (by decide)

/-- The publication is stored, and accepted again after it was withdrawn. -/
theorem records_stay_sample : Stored ((fresh.run [.register analyst, .publish published]).run
    [.publish withdrawn]) (.publish published) := by
  refine ((records_stay new_fresh [.register analyst, .publish published] [.publish withdrawn]
    (.publish published) trivial).2 ?_).1
  rw [accepted_of_admissible (new_ledger new_fresh)]
  · exact List.mem_cons_of_mem _ List.mem_cons_self
  · exact ⟨.inl fresh_analyst, .inl (fresh_published (.inr rfl) (by simp)), trivial⟩

end Sample

end Definition
end AgentPlatform
