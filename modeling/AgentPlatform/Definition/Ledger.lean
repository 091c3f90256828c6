/-
AgentPlatform/Definition/Ledger.lean

What the definition authority holds after a run: the records it accepted.

`Holds t key acc` says that the entries of a table are the records in `acc`, each
under its key. `Ledger a acc` says so of the three tables of an authority, and
that every record passed its check and every decision is bound to a version.

Main result: after any run from a fresh authority the ledger is the set of the
accepted calls (`run_ledger`), in whatever order they came and however often.
-/
import AgentPlatform.Definition.Authority

namespace AgentPlatform
namespace Definition

open Py

/-! ### Dictionaries -/

section Dictionaries

variable {κ α : Type} [DecidableEq κ]

theorem mem_values {t : Table κ α} {x : α} : x ∈ values t ↔ ∃ k, t.lookup k = some x := by
  rw [values, List.mem_map]
  constructor
  · rintro ⟨⟨k, y⟩, hy, rfl⟩
    exact ⟨k, AList.mem_lookup_iff.mpr hy⟩
  · rintro ⟨k, hk⟩
    exact ⟨⟨k, x⟩, AList.mem_lookup_iff.mp hk, rfl⟩

/-- The entries of the table are the records in `acc`, each under its key. -/
def Holds (t : Table κ α) (key : α → κ) (acc : α → Prop) : Prop :=
  ∀ k x, t.lookup k = some x ↔ k = key x ∧ acc x

variable {t t' : Table κ α} {key : α → κ} {acc acc' : α → Prop}

theorem Holds.mem (h : Holds t key acc) {x : α} : x ∈ values t ↔ acc x := by
  rw [mem_values]
  constructor
  · rintro ⟨k, hk⟩
    exact ((h k x).mp hk).2
  · exact fun hx => ⟨key x, (h _ x).mpr ⟨rfl, hx⟩⟩

/-- Records are determined by their keys. -/
theorem Holds.eq_of_key (h : Holds t key acc) {x y : α} (hx : acc x) (hy : acc y)
    (hk : key x = key y) : x = y := by
  have hxk := (h (key x) x).mpr ⟨rfl, hx⟩
  have hyk := (h (key y) y).mpr ⟨rfl, hy⟩
  rw [hk, hyk] at hxk
  exact (Option.some.inj hxk).symm

/-- No record is listed twice. -/
theorem Holds.nodup (h : Holds t key acc) : (values t).Nodup := by
  refine List.Nodup.map_on ?_ (List.NodupKeys.nodup t.nodupKeys)
  rintro ⟨k, x⟩ hx ⟨k', y⟩ hy (rfl : x = y)
  have hk := ((h k x).mp (AList.mem_lookup_iff.mpr hx)).1
  have hk' := ((h k' x).mp (AList.mem_lookup_iff.mpr hy)).1
  rw [hk, hk']

theorem Holds.insert (h : Holds t key acc) {x : α} (hx : t.lookup (key x) = none) :
    Holds (t.insert (key x) x) key fun y => acc y ∨ y = x := by
  intro k y
  by_cases hk : k = key x
  · rw [hk, AList.lookup_insert, Option.some.injEq]
    constructor
    · rintro rfl
      exact ⟨rfl, .inr rfl⟩
    · rintro ⟨hky, hy | hy⟩
      · rw [(h _ _).mpr ⟨hky, hy⟩] at hx
        cases hx
      · exact hy.symm
  · rw [AList.lookup_insert_ne hk, h]
    constructor
    · rintro ⟨hky, hy⟩
      exact ⟨hky, .inl hy⟩
    · rintro ⟨hky, hy | rfl⟩
      · exact ⟨hky, hy⟩
      · exact absurd hky hk

theorem Holds.congr (h : Holds t key acc) (hacc : ∀ x, acc x ↔ acc' x) : Holds t key acc' := by
  intro k x
  rw [h, hacc]

end Dictionaries

/-! ### What is recorded -/

/-- The identity of a version. -/
def versionId (v : DefinitionVersion) : String × String := (v.definitionId, v.versionId)

/-- The version a decision is about. -/
def Binds (d : Decision) (v : DefinitionVersion) : Prop :=
  versionId v = (d.definitionId, d.versionId) ∧ v.definitionDigest = d.definitionDigest ∧
    v.tenantId = d.tenantId ∧ v.securityDomain = d.securityDomain ∧
    v.sourceAuthorityRevision = d.sourceAuthorityRevision

/-- The lookup of `_assert_binding`. -/
theorem assertBinding_eq_ok {a : Authority} {d : Decision} : a.assertBinding d = .ok () ↔
    ∃ v, a.versions.lookup (d.definitionId, d.versionId) = some v ∧
      v.definitionDigest = d.definitionDigest ∧ v.tenantId = d.tenantId ∧
      v.securityDomain = d.securityDomain ∧
      v.sourceAuthorityRevision = d.sourceAuthorityRevision := by
  rw [Authority.assertBinding]
  cases hv : a.versions.lookup (d.definitionId, d.versionId) with
  | none => simp
  | some v =>
    simp only [ite_error_eq_ok', ne_eq, not_not, not_or, Option.some.injEq, exists_eq_left', and_true]

section Appending

variable {δ : Type} [DecidableEq δ] {identities replays : Table String δ} {id : δ → String}
  {acc : δ → Prop} {replay : δ → String} {i r c : String} {d x : δ}

/-- A decision is found only where it is recorded already. -/
theorem existingDecision_some (h : existingDecision identities replays i r c d = .ok (some x))
    (hid : Holds identities id acc)
    (hre : ∀ r y, replays.lookup r = some y → acc y ∧ replay y = r) : acc d := by
  rw [existingDecision] at h
  split at h
  · rename_i y hy
    split at h
    · rename_i heq
      cases h
      exact heq ▸ ((hid _ _).mp hy).2
    · cases h
  · split at h
    · rename_i y hy
      split at h
      · rename_i heq
        cases h
        exact heq ▸ (hre _ _ hy).1
      · cases h
    · cases h

theorem existingDecision_none
    (h : existingDecision identities replays i r c d = .ok none) : identities.lookup i = none := by
  rw [existingDecision] at h
  split at h
  · split at h <;> cases h
  · rename_i hn
    exact hn

theorem existingDecision_of_recorded (hid : Holds identities id acc) (hd : acc d) :
    existingDecision identities replays (id d) r c d = .ok (some d) := by
  rw [existingDecision, (hid (id d) d).mpr ⟨rfl, hd⟩]
  exact if_pos rfl

/-- A decision with a new identity and a new replay identity is not found. -/
theorem existingDecision_of_fresh (hid : Holds identities id acc)
    (hre : ∀ r y, replays.lookup r = some y → acc y ∧ replay y = r)
    (hfresh : ∀ y, acc y → id y ≠ i ∧ replay y ≠ r) :
    existingDecision identities replays i r c d = .ok none := by
  have hi : identities.lookup i = none := by
    rw [Option.eq_none_iff_forall_ne_some]
    intro y hy
    exact (hfresh y ((hid _ _).mp hy).2).1 ((hid _ _).mp hy).1.symm
  have hr : replays.lookup r = none := by
    rw [Option.eq_none_iff_forall_ne_some]
    intro y hy
    exact (hfresh y (hre _ _ hy).1).2 (hre _ _ hy).2
  rw [existingDecision, hi, hr]

omit [DecidableEq δ] in
/-- The replay table lists recorded decisions only. -/
theorem replays_insert (h : ∀ r y, replays.lookup r = some y → acc y ∧ replay y = r) :
    ∀ r y, (replays.insert (replay d) d).lookup r = some y → (acc y ∨ y = d) ∧ replay y = r := by
  intro r y hy
  by_cases hr : r = replay d
  · rw [hr, AList.lookup_insert, Option.some.injEq] at hy
    rw [hr, hy]
    exact ⟨.inr rfl, rfl⟩
  · rw [AList.lookup_insert_ne hr] at hy
    exact ⟨.inl (h _ _ hy).1, (h _ _ hy).2⟩

end Appending

section Runs

variable [Whitespace] {a : Authority} {acc acc' : Op → Prop} {op : Op}

/-- The decision is about a registered version. -/
def Bound (acc : Op → Prop) (d : Decision) : Prop := ∃ v, acc (.register v) ∧ Binds d v

omit [Whitespace] in
theorem Bound.mono {d : Decision} (h : Bound acc d) (hacc : ∀ op, acc op → acc' op) :
    Bound acc' d := by
  obtain ⟨v, hv, hb⟩ := h
  exact ⟨v, hacc _ hv, hb⟩

/-- The tables hold the accepted records, all of them checked and bound. -/
structure Ledger (a : Authority) (acc : Op → Prop) : Prop where
  versions : Holds a.versions versionId fun v => acc (.register v)
  publication : Holds a.publication (·.decisionId) fun d => acc (.publish d)
  authorization : Holds a.authorization (·.decisionId) fun d => acc (.authorize d)
  publicationReplays : ∀ r d, a.publicationReplays.lookup r = some d →
    acc (.publish d) ∧ d.replayIdentity = r
  authorizationReplays : ∀ r d, a.authorizationReplays.lookup r = some d →
    acc (.authorize d) ∧ d.replayIdentity = r
  checked : ∀ v, acc (.register v) → v.validate = .ok ()
  published : ∀ d, acc (.publish d) → d.validate = .ok () ∧ Bound acc d.toDecision
  authorized : ∀ d, acc (.authorize d) → d.validate = .ok () ∧ Bound acc d.toDecision

theorem Ledger.congr (h : Ledger a acc) (hacc : ∀ op, acc op ↔ acc' op) : Ledger a acc' := by
  have heq : acc = acc' := funext fun op => propext (hacc op)
  rwa [← heq]

theorem Ledger.record (h : Ledger a acc) (event digest reason : String) :
    Ledger (a.record event digest reason) acc :=
  ⟨h.versions, h.publication, h.authorization, h.publicationReplays, h.authorizationReplays,
    h.checked, h.published, h.authorized⟩

/-- A fresh authority holds nothing. -/
theorem new_ledger {rev : String} (h : Authority.new rev = .ok a) : Ledger a fun _ => False := by
  obtain ⟨revision, -, h⟩ := bind_eq_ok.mp h
  cases h
  refine ⟨?_, ?_, ?_, ?_, ?_, fun _ h => h.elim, fun _ h => h.elim, fun _ h => h.elim⟩
  all_goals
    intro k x
    rw [AList.lookup_empty]
    simp

/-- A decision whose binding was asserted is bound to a registered version. -/
theorem Ledger.binds (h : Ledger a acc) {d : Decision} (hd : a.assertBinding d = .ok ()) :
    Bound acc d := by
  obtain ⟨v, hv, hrest⟩ := assertBinding_eq_ok.mp hd
  obtain ⟨hkey, hacc⟩ := (h.versions _ _).mp hv
  exact ⟨v, hacc, hkey.symm, hrest⟩

theorem Ledger.again (h : Ledger a acc) (hop : acc op) : Ledger a fun o => acc o ∨ o = op := by
  refine h.congr fun o => ⟨.inl, ?_⟩
  rintro (ho | rfl)
  · exact ho
  · exact hop

/-- Every operation: it is refused and changes nothing, or the ledger grows by it. -/
def Grows (a a' : Authority) (acc : Op → Prop) (op : Op) (ok : Bool) : Prop :=
  if ok then Ledger a' fun o => acc o ∨ o = op else a' = a

theorem register_grows (h : Ledger a acc) (v : DefinitionVersion) :
    Grows a (a.register v).2 acc (.register v) (a.register v).1.isOk := by
  rw [Authority.register]
  split
  · exact rfl
  · rename_i hv
    have hchecked : ∀ w, acc (.register w) ∨ Op.register w = .register v → w.validate = .ok () := by
      rintro w (hw | hw)
      · exact h.checked w hw
      · cases hw
        exact hv
    split
    · rename_i w hw
      split
      · -- the version is there already
        rename_i heq
        have hacc : acc (.register v) := heq ▸ ((h.versions _ _).mp hw).2
        exact h.again hacc
      · exact rfl
    · rename_i hnone
      refine Ledger.record ⟨?_, ?_, ?_, ?_, ?_, hchecked, ?_, ?_⟩ _ _ _
      · exact (h.versions.insert hnone).congr fun w => by simp
      · exact h.publication.congr fun d => by simp
      · exact h.authorization.congr fun d => by simp
      · exact fun r d hd => (h.publicationReplays r d hd).imp_left .inl
      · exact fun r d hd => (h.authorizationReplays r d hd).imp_left .inl
      · rintro d (hd | hd)
        · exact ⟨(h.published d hd).1, (h.published d hd).2.mono fun _ => .inl⟩
        · cases hd
      · rintro d (hd | hd)
        · exact ⟨(h.authorized d hd).1, (h.authorized d hd).2.mono fun _ => .inl⟩
        · cases hd

theorem appendPublication_grows (h : Ledger a acc) (d : PublicationDecision) :
    Grows a (a.appendPublication d).2 acc (.publish d) (a.appendPublication d).1.isOk := by
  rw [Authority.appendPublication]
  split
  · exact rfl
  · rename_i hpass
    obtain ⟨⟨⟩, hval, hbind⟩ := bind_eq_ok.mp hpass
    split
    · exact rfl
    · rename_i hsome
      have hacc := existingDecision_some hsome h.publication h.publicationReplays
      exact h.again hacc
    · rename_i hnone
      refine Ledger.record ⟨?_, ?_, ?_, ?_, ?_, ?_, ?_, ?_⟩ _ _ _
      · exact h.versions.congr fun w => by simp
      · exact (h.publication.insert (existingDecision_none hnone)).congr fun e => by simp
      · exact h.authorization.congr fun e => by simp
      · exact fun r e he => (replays_insert h.publicationReplays r e he).imp_left (.imp_right (congrArg _))
      · exact fun r e he => (h.authorizationReplays r e he).imp_left .inl
      · rintro v (hv | hv)
        · exact h.checked v hv
        · cases hv
      · rintro e (he | he)
        · exact ⟨(h.published e he).1, (h.published e he).2.mono fun _ => .inl⟩
        · cases he
          exact ⟨hval, (h.binds hbind).mono fun _ => .inl⟩
      · rintro e (he | he)
        · exact ⟨(h.authorized e he).1, (h.authorized e he).2.mono fun _ => .inl⟩
        · cases he

theorem appendMatchAuthorization_grows (h : Ledger a acc) (d : MatchAuthorizationDecision) :
    Grows a (a.appendMatchAuthorization d).2 acc (.authorize d)
      (a.appendMatchAuthorization d).1.isOk := by
  rw [Authority.appendMatchAuthorization]
  split
  · exact rfl
  · rename_i hpass
    obtain ⟨⟨⟩, hval, hbind⟩ := bind_eq_ok.mp hpass
    split
    · exact rfl
    · rename_i hsome
      have hacc := existingDecision_some hsome h.authorization h.authorizationReplays
      exact h.again hacc
    · rename_i hnone
      refine Ledger.record ⟨?_, ?_, ?_, ?_, ?_, ?_, ?_, ?_⟩ _ _ _
      · exact h.versions.congr fun w => by simp
      · exact h.publication.congr fun e => by simp
      · exact (h.authorization.insert (existingDecision_none hnone)).congr fun e => by simp
      · exact fun r e he => (h.publicationReplays r e he).imp_left .inl
      · exact fun r e he => (replays_insert h.authorizationReplays r e he).imp_left (.imp_right (congrArg _))
      · rintro v (hv | hv)
        · exact h.checked v hv
        · cases hv
      · rintro e (he | he)
        · exact ⟨(h.published e he).1, (h.published e he).2.mono fun _ => .inl⟩
        · cases he
      · rintro e (he | he)
        · exact ⟨(h.authorized e he).1, (h.authorized e he).2.mono fun _ => .inl⟩
        · cases he
          exact ⟨hval, (h.binds hbind).mono fun _ => .inl⟩

/-- A snapshot records nothing but evidence. -/
theorem snapshot_grows (h : Ledger a acc) (r : SnapshotRequest) :
    Grows a (a.snapshot r).2 acc (.snapshot r) (a.snapshot r).1.isOk := by
  rw [Authority.snapshot]
  split
  · exact rfl
  · refine Ledger.record ⟨?_, ?_, ?_, ?_, ?_, ?_, ?_, ?_⟩ _ _ _
    · exact h.versions.congr fun w => by simp
    · exact h.publication.congr fun e => by simp
    · exact h.authorization.congr fun e => by simp
    · exact fun r e he => (h.publicationReplays r e he).imp_left .inl
    · exact fun r e he => (h.authorizationReplays r e he).imp_left .inl
    · rintro v (hv | hv)
      · exact h.checked v hv
      · cases hv
    · rintro e (he | he)
      · exact ⟨(h.published e he).1, (h.published e he).2.mono fun _ => .inl⟩
      · cases he
    · rintro e (he | he)
      · exact ⟨(h.authorized e he).1, (h.authorized e he).2.mono fun _ => .inl⟩
      · cases he

/-- One call: what is accepted is recorded, what is refused leaves no record. -/
theorem apply_ledger (h : Ledger a acc) (op : Op) :
    Ledger (a.apply op).2 fun o => acc o ∨ o = op ∧ (a.apply op).1 := by
  have key : ∀ {a' : Authority} {ok : Bool}, Grows a a' acc op ok →
      Ledger a' fun o => acc o ∨ o = op ∧ ok := by
    rintro a' (_ | _) hg
    · have ha : a' = a := hg
      rw [ha]
      exact h.congr fun o => by simp
    · exact Ledger.congr hg fun o => by simp
  cases op with
  | register v => exact key (register_grows h v)
  | publish d => exact key (appendPublication_grows h d)
  | authorize d => exact key (appendMatchAuthorization_grows h d)
  | snapshot r => exact key (snapshot_grows h r)

/-- **The ledger of a run.** Whatever the order of the calls and however often
they are repeated, the tables hold the accepted records. -/
theorem run_ledger (h : Ledger a acc) (ops : List Op) :
    Ledger (a.run ops) fun o => acc o ∨ o ∈ a.accepted ops := by
  induction ops generalizing a acc with
  | nil => exact h.congr fun o => by simp [Authority.accepted]
  | cons op ops ih =>
    have hstep := ih (apply_ledger h op)
    show Ledger ((a.apply op).2.run ops) _
    refine hstep.congr fun o => ?_
    rw [Authority.accepted]
    split
    · rename_i hok
      simp [hok, or_assoc]
    · rename_i hok
      simp [hok]

/-! ### Accepted calls -/

/-- Calls that record something. -/
def Op.isRecord : Op → Prop
  | .snapshot _ => False
  | _ => True

/-- A record that is new, checked and bound. -/
def Fresh (acc : Op → Prop) : Op → Prop
  | .register v => v.validate = .ok () ∧ ∀ w, acc (.register w) → versionId w ≠ versionId v
  | .publish d => d.validate = .ok () ∧ Bound acc d.toDecision ∧
    ∀ e, acc (.publish e) → e.decisionId ≠ d.decisionId ∧ e.replayIdentity ≠ d.replayIdentity
  | .authorize d => d.validate = .ok () ∧ Bound acc d.toDecision ∧
    ∀ e, acc (.authorize e) → e.decisionId ≠ d.decisionId ∧ e.replayIdentity ≠ d.replayIdentity
  | .snapshot _ => False

theorem Ledger.assertBinding (h : Ledger a acc) {d : Decision} (hd : Bound acc d) :
    a.assertBinding d = .ok () := by
  obtain ⟨v, hv, hkey, hrest⟩ := hd
  exact assertBinding_eq_ok.mpr ⟨v, (h.versions _ _).mpr ⟨hkey.symm, hv⟩, hrest⟩

/-- A fresh record is accepted. -/
theorem apply_of_fresh (h : Ledger a acc) (hop : Fresh acc op) : (a.apply op).1 = true := by
  cases op with
  | register v =>
    have hnone : a.versions.lookup (v.definitionId, v.versionId) = none := by
      rw [Option.eq_none_iff_forall_ne_some]
      intro w hw
      exact hop.2 w ((h.versions _ _).mp hw).2 ((h.versions _ _).mp hw).1.symm
    show (a.register v).1.isOk = true
    rw [Authority.register, hop.1, hnone]
    rfl
  | publish d =>
    have hpass : (do d.validate; a.assertBinding d.toDecision) = .ok () := by
      rw [hop.1, h.assertBinding hop.2.1]
      rfl
    show (a.appendPublication d).1.isOk = true
    rw [Authority.appendPublication, hpass,
      existingDecision_of_fresh h.publication h.publicationReplays hop.2.2]
    rfl
  | authorize d =>
    have hpass : (do d.validate; a.assertBinding d.toDecision) = .ok () := by
      rw [hop.1, h.assertBinding hop.2.1]
      rfl
    show (a.appendMatchAuthorization d).1.isOk = true
    rw [Authority.appendMatchAuthorization, hpass,
      existingDecision_of_fresh h.authorization h.authorizationReplays hop.2.2]
    rfl
  | snapshot r => exact hop.elim

/-- A record that is replayed is accepted. -/
theorem apply_of_recorded (h : Ledger a acc) (hrecord : op.isRecord) (hop : acc op) :
    (a.apply op).1 = true := by
  cases op with
  | register v =>
    have hsome : a.versions.lookup (v.definitionId, v.versionId) = some v :=
      (h.versions _ _).mpr ⟨rfl, hop⟩
    show (a.register v).1.isOk = true
    rw [Authority.register, h.checked v hop, hsome]
    show Except.isOk (if v = v then ((Except.ok v : Except String _), a) else _).1 = true
    rw [if_pos rfl]
    rfl
  | publish d =>
    obtain ⟨hval, hbound⟩ := h.published d hop
    have hpass : (do d.validate; a.assertBinding d.toDecision) = .ok () := by
      rw [hval, h.assertBinding hbound]
      rfl
    show (a.appendPublication d).1.isOk = true
    rw [Authority.appendPublication, hpass, existingDecision_of_recorded h.publication hop]
    rfl
  | authorize d =>
    obtain ⟨hval, hbound⟩ := h.authorized d hop
    have hpass : (do d.validate; a.assertBinding d.toDecision) = .ok () := by
      rw [hval, h.assertBinding hbound]
      rfl
    show (a.appendMatchAuthorization d).1.isOk = true
    rw [Authority.appendMatchAuthorization, hpass, existingDecision_of_recorded h.authorization hop]
    rfl
  | snapshot r => exact hrecord.elim

/-- Each record is fresh or a replay when its turn comes. -/
def Admissible (acc : Op → Prop) : List Op → Prop
  | [] => True
  | op :: ops => (Fresh acc op ∨ op.isRecord ∧ acc op) ∧ Admissible (fun o => acc o ∨ o = op) ops

/-- A run over admissible records is accepted as a whole. -/
theorem accepted_of_admissible (h : Ledger a acc) {ops : List Op} (hops : Admissible acc ops) :
    a.accepted ops = ops := by
  induction ops generalizing a acc with
  | nil => rfl
  | cons op ops ih =>
    have hok : (a.apply op).1 = true := by
      rcases hops.1 with hfresh | ⟨hrecord, hacc⟩
      · exact apply_of_fresh h hfresh
      · exact apply_of_recorded h hrecord hacc
    have hnext : Ledger (a.apply op).2 fun o => acc o ∨ o = op :=
      (apply_ledger h op).congr fun o => by simp [hok]
    rw [Authority.accepted, if_pos hok, ih hnext hops.2]

end Runs

end Definition
end AgentPlatform
