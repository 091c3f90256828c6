/-
AgentPlatform/Definition/Replacement.lean

When a successor excludes its predecessor.

A publication decision may name a predecessor that it replaces for matching. The
exclusion is meant to last while the decision is the latest active one of the
successor (`PublicationEffective`), but the authority looks for any active
decision that names the predecessor: after the successor is unpublished, the
predecessor stays excluded (`unpublished_successor_excludes`).

The two agree as long as no decision outranks a replacement of the same version
while both are active, except by replacing the same predecessor (`Keeps`).
-/
import AgentPlatform.Definition.Snapshot

namespace AgentPlatform
namespace Definition

open Py

/-! ### What is asked of an exclusion -/

/-- `d` is the latest active publication decision of the exact version it is about. -/
def PublicationEffective (a : Authority) (d : PublicationDecision) (at' : Datetime) : Prop :=
  ∃ w ∈ values a.versions, Binds d.toDecision w ∧
    (sortedBy (fun e => e.toDecision.key) (a.publicationsOf w at')).getLast? = some d

/-- The latest active publication decision of `v` publishes it. -/
def EffectivePublish (a : Authority) (v : DefinitionVersion) (at' : Datetime) : Prop :=
  ∃ p, latest PublicationDecision.toDecision PublicationDecision.action "DEFINITION_UNPUBLISHED"
    (a.publicationsOf v at') = .ok p ∧ p.action = .publish

/-- The latest match authorisation of `v` grants it and has not expired. -/
def EffectiveGrant (a : Authority) (v : DefinitionVersion) (purpose : String) (at' : Datetime) :
    Prop :=
  ∃ g, latest MatchAuthorizationDecision.toDecision MatchAuthorizationDecision.action
    "MATCH_AUTHORIZATION_MISSING" (a.authorizationsOf v purpose at') = .ok g ∧ g.action = .grant ∧
    ∀ t ∈ g.expiresAt, at'.micros < t.micros

/-- A version that is published and granted is left out only for a decision that
replaces it and is publication-effective. -/
def ExclusionEffective (a : Authority) : Prop :=
  ∀ v ∈ values a.versions, ∀ purpose at', EffectivePublish a v at' → EffectiveGrant a v purpose at' →
    ∀ code, a.project v purpose at' = .error code →
      ∃ d ∈ values a.publication, d.excludes v at' = true ∧ PublicationEffective a d at'

/-! ### When it is met -/

/-- `e` is about the same exact version as `d`, ranks after it, and both are active
at some instant. -/
def Outranks (e d : PublicationDecision) : Prop :=
  e.definitionId = d.definitionId ∧ e.versionId = d.versionId ∧
    e.definitionDigest = d.definitionDigest ∧ d.toDecision.key < e.toDecision.key ∧
    ∃ at' : Datetime, d.active at' = true ∧ e.active at' = true

/-- `e` replaces what `d` replaces. -/
def ReplacesSame (e d : PublicationDecision) : Prop :=
  e.action = d.action ∧ e.replacementEffect = d.replacementEffect ∧
    e.predecessorDefinitionId = d.predecessorDefinitionId ∧
    e.predecessorVersionId = d.predecessorVersionId ∧ e.predecessorDigest = d.predecessorDigest

/-- `e` does not outrank the replacement `d`, or replaces the same predecessor. -/
def Keeps (e d : PublicationDecision) : Prop :=
  d.replacementEffect = .excludePredecessorForMatch → Outranks e d → ReplacesSame e d

/-- A decision that is appended keeps the replacements that are recorded, and what is
recorded keeps the replacement that is appended. -/
def KeepsReplacements (a : Authority) : Op → Prop
  | .publish d => ∀ e ∈ values a.publication, Keeps d e ∧ Keeps e d
  | _ => True

section Replacements

variable [Whitespace] {a : Authority} {acc : Op → Prop}

/-- Every call of the run keeps the replacements. -/
def RunKeepsReplacements (a : Authority) : List Op → Prop
  | [] => True
  | op :: ops => KeepsReplacements a op ∧ RunKeepsReplacements (a.apply op).2 ops

omit [Whitespace] in
/-- A published and granted version is left out for a replacement. -/
theorem excluded_of_project_error {v : DefinitionVersion} {purpose : String} {at' : Datetime}
    {code : String} (hpub : EffectivePublish a v at') (hgrant : EffectiveGrant a v purpose at')
    (h : a.project v purpose at' = .error code) : a.excludedBySuccessor v at' = true := by
  obtain ⟨p, hp, hpublish⟩ := hpub
  obtain ⟨g, hg, hgranted, hexpiry⟩ := hgrant
  by_contra hex
  have hnot : ¬ (g.expiresAt.any fun t => t.micros ≤ at'.micros) = true := by
    rw [Option.any_eq_true]
    rintro ⟨t, ht, hle⟩
    exact absurd (hexpiry t ht) (Nat.not_lt.mpr (of_decide_eq_true hle))
  have hok : a.project v purpose at' = .ok ⟨v, p.decisionId, g.decisionId⟩ := by
    simp only [Authority.project, hp, hg, bind, Except.bind, hpublish, hgranted, ne_eq,
      not_true_eq_false, if_false, if_neg hex, if_neg hnot]
  rw [hok] at h
  cases h

omit [Whitespace] in
theorem getLast_of_mem {d : PublicationDecision} {l : List PublicationDecision} (hd : d ∈ l) :
    ∃ e, (sortedBy (fun e => e.toDecision.key) l).getLast? = some e := by
  have hmem : d ∈ sortedBy (fun e => e.toDecision.key) l := mem_sortedBy.mpr hd
  exact ⟨_, List.getLast?_eq_some_getLast (List.ne_nil_of_mem hmem)⟩

omit [Whitespace] in
theorem excludes_iff {d : PublicationDecision} {v : DefinitionVersion} {at' : Datetime} :
    d.excludes v at' = true ↔ (d.action = .publish ∧
      d.replacementEffect = .excludePredecessorForMatch ∧
      d.predecessorDefinitionId = some v.definitionId ∧ d.predecessorVersionId = some v.versionId ∧
      d.predecessorDigest = some v.definitionDigest) ∧
      (d.tenantId = v.tenantId ∧ d.securityDomain = v.securityDomain) ∧ d.active at' = true := by
  simp only [PublicationDecision.excludes, Bool.and_eq_true, decide_eq_true_eq, and_assoc]

/-- Where the recorded decisions keep each other's replacements, exclusions are
effective. -/
theorem exclusionEffective_of_keeps (h : Ledger a acc)
    (hkeeps : ∀ d e, acc (.publish d) → acc (.publish e) → Keeps e d) : ExclusionEffective a := by
  intro v hv purpose at' hpub hgrant code hcode
  obtain ⟨d, hd, hex⟩ := List.any_eq_true.mp (excluded_of_project_error hpub hgrant hcode)
  rw [h.publication.mem] at hd
  obtain ⟨w, hw, hbinds⟩ := (h.published d hd).2
  obtain ⟨hreplaces, hscope, hactive⟩ := excludes_iff.mp hex
  -- the latest active decision of the successor, at this instant
  have hmem : d ∈ a.publicationsOf w at' :=
    (mem_publicationsOf h).mpr ⟨hd, ⟨(congrArg Prod.fst hbinds.1).symm,
      (congrArg Prod.snd hbinds.1).symm, hbinds.2.1.symm⟩, hactive⟩
  obtain ⟨e, he⟩ := getLast_of_mem hmem
  obtain ⟨hemem, hlast⟩ := sortedBy_getLast he
  obtain ⟨hacc, hkey, heactive⟩ := (mem_publicationsOf h).mp hemem
  obtain ⟨w', hw', hbinds'⟩ := (h.published e hacc).2
  have hww : w' = w := h.versions.eq_of_key hw' hw (hbinds'.1.trans (Prod.ext hkey.1 hkey.2.1))
  rw [hww] at hbinds'
  refine ⟨e, h.publication.mem.mpr hacc, ?_, w, h.versions.mem.mpr hw, hbinds', he⟩
  rcases (hlast d hmem).lt_or_eq with hlt | heq
  · -- it ranks after `d`, and so replaces the same predecessor
    have hout : Outranks e d := by
      refine ⟨?_, ?_, ?_, hlt, at', hactive, heactive⟩
      · exact hkey.1.trans (congrArg Prod.fst hbinds.1)
      · exact hkey.2.1.trans (congrArg Prod.snd hbinds.1)
      · exact hkey.2.2.trans hbinds.2.1
    obtain ⟨h₁, h₂, h₃, h₄, h₅⟩ := hkeeps d e hd hacc hreplaces.2.1 hout
    rw [excludes_iff, h₁, h₂, h₃, h₄, h₅]
    refine ⟨hreplaces, ⟨?_, ?_⟩, heactive⟩
    · rw [← hscope.1, ← hbinds.2.2.1, ← hbinds'.2.2.1]
    · rw [← hscope.2, ← hbinds.2.2.2.1, ← hbinds'.2.2.2.1]
  · have hde : d = e := h.publication.eq_of_key hd hacc (triple_inj heq).2.2
    rw [← hde]
    exact hex

theorem apply_keeps (h : Ledger a acc) (hkeeps : ∀ d e, acc (.publish d) → acc (.publish e) → Keeps e d)
    {op : Op} (hop : KeepsReplacements a op) (d e : PublicationDecision)
    (hd : acc (.publish d) ∨ Op.publish d = op ∧ (a.apply op).1)
    (he : acc (.publish e) ∨ Op.publish e = op ∧ (a.apply op).1) : Keeps e d := by
  rcases hd with hd | ⟨rfl, -⟩
  · rcases he with he | ⟨rfl, -⟩
    · exact hkeeps d e hd he
    · exact (hop d (h.publication.mem.mpr hd)).1
  · rcases he with he | ⟨he, -⟩
    · exact (hop e (h.publication.mem.mpr he)).2
    · cases he
      intro _ hout
      exact absurd hout.2.2.2.1 (lt_irrefl _)

theorem run_keeps {ops : List Op} (h : Ledger a acc)
    (hkeeps : ∀ d e, acc (.publish d) → acc (.publish e) → Keeps e d)
    (hops : RunKeepsReplacements a ops) {pre : List Op} (hpre : pre <+: ops) :
    ExclusionEffective (a.run pre) := by
  induction ops generalizing a acc pre with
  | nil =>
    rw [List.prefix_nil.mp hpre]
    exact exclusionEffective_of_keeps h hkeeps
  | cons op ops ih =>
    rcases pre with - | ⟨op', pre⟩
    · exact exclusionEffective_of_keeps h hkeeps
    · obtain ⟨rfl, hrest⟩ := List.cons_prefix_cons.mp hpre
      exact ih (apply_ledger h op') (apply_keeps h hkeeps hops.1) hops.2 hrest

theorem runKeepsReplacements_of_mem {ops : List Op} (h : Ledger a acc)
    (hkeeps : ∀ d e, Op.publish d ∈ ops → acc (.publish e) ∨ Op.publish e ∈ ops → Keeps d e ∧ Keeps e d) :
    RunKeepsReplacements a ops := by
  induction ops generalizing a acc with
  | nil => trivial
  | cons op ops ih =>
    refine ⟨?_, ih (apply_ledger h op) fun d e hd he => ?_⟩
    · cases op with
      | publish d =>
        exact fun e he => hkeeps d e List.mem_cons_self (.inl (h.publication.mem.mp he))
      | register | authorize | snapshot => trivial
    · refine hkeeps d e (List.mem_cons_of_mem _ hd) ?_
      rcases he with (he | ⟨he, -⟩) | he
      · exact .inl he
      · exact .inr (he ▸ List.mem_cons_self)
      · exact .inr (List.mem_cons_of_mem _ he)

/-- **Predecessors are excluded by effective successors** in every state of a run
whose publication decisions keep the replacements. -/
theorem replacement_effective {rev : String} {a₀ : Authority} (hnew : Authority.new rev = .ok a₀)
    {ops : List Op} (hops : RunKeepsReplacements a₀ ops) {pre : List Op} (hpre : pre <+: ops) :
    ExclusionEffective (a₀.run pre) :=
  run_keeps (new_ledger hnew) (fun _ _ h => h.elim) hops hpre

end Replacements

namespace Sample

def successor : DefinitionVersion := version "def.successor" "tenant.acme" "analyze"

/-- The successor is published in place of the analyst. -/
def replaced : PublicationDecision := replacement "pub.3" successor analyst 0

/-- The successor is unpublished one microsecond later. -/
def retracted : PublicationDecision := publication "pub.4" successor 1 .unpublish

def replacing : List Op :=
  [.register analyst, .register successor, .publish published, .authorize granted,
    .publish replaced]

theorem fresh_successor : Fresh (fun o => False ∨ o = .register analyst) (.register successor) := by
  refine ⟨version_validate (by decide +kernel) (by decide +kernel) (by decide +kernel), ?_⟩
  rintro w (hw | hw)
  · exact hw.elim
  · cases hw
    decide

theorem fresh_replaced {acc : Op → Prop} (hv : acc (.register successor))
    (hacc : ∀ e, acc (.publish e) → e = published) : Fresh acc (.publish replaced) := by
  refine ⟨replacement_validate (by decide +kernel) (by decide +kernel) (by decide +kernel)
    (by decide +kernel) (by decide +kernel), ⟨successor, hv, decision_binds _ _ _ _ _⟩, fun e he => ?_⟩
  rw [hacc e he]
  decide

theorem fresh_retracted {acc : Op → Prop} (hv : acc (.register successor))
    (hacc : ∀ e, acc (.publish e) → e = published ∨ e = replaced) : Fresh acc (.publish retracted) := by
  refine ⟨publication_validate (by decide +kernel) (by decide +kernel) (by decide +kernel)
    (by decide +kernel) _, ⟨successor, hv, decision_binds _ _ _ _ _⟩, fun e he => ?_⟩
  rcases hacc e he with rfl | rfl <;> decide

theorem admissible_retracted : Admissible (fun _ => False) (replacing ++ [.publish retracted]) := by
  refine ⟨.inl fresh_analyst, .inl fresh_successor, .inl (fresh_published ?_ ?_),
    .inl (fresh_granted ?_ ?_), .inl (fresh_replaced ?_ ?_), .inl (fresh_retracted ?_ ?_), trivial⟩
  all_goals simp

/-- The ledger after the successor is retracted. -/
theorem retracted_ledger :
    Ledger (fresh.run (replacing ++ [.publish retracted])) (· ∈ replacing ++ [.publish retracted]) := by
  have h := new_ledger new_fresh
  refine (run_ledger h _).congr fun op => ?_
  rw [accepted_of_admissible h admissible_retracted]
  rw [false_or]

theorem eq_singleton {α : Type} {l : List α} {x : α} (hnodup : l.Nodup) (h : ∀ y, y ∈ l ↔ y = x) :
    l = [x] :=
  List.perm_singleton.mp ((List.perm_ext_iff_of_nodup hnodup (List.nodup_singleton x)).mpr fun y => by
    rw [h, List.mem_singleton])

/-- Two microseconds after noon. -/
def later : Datetime := ⟨noon + 2, by decide⟩

/-- The decisions recorded in the run. -/
theorem retracted_publish {d : PublicationDecision}
    (hd : Op.publish d ∈ replacing ++ [.publish retracted]) :
    d = published ∨ d = replaced ∨ d = retracted := by
  simpa [replacing, or_assoc] using hd

theorem analyst_publications :
    (fresh.run (replacing ++ [.publish retracted])).publicationsOf analyst later = [published] := by
  have h := retracted_ledger
  refine eq_singleton (h.publication.nodup.filter _) fun d => ?_
  rw [mem_publicationsOf h]
  constructor
  · rintro ⟨hd, hkey, -⟩
    rcases retracted_publish hd with rfl | rfl | rfl
    · rfl
    · exact absurd hkey.1 (by decide)
    · exact absurd hkey.1 (by decide)
  · rintro rfl
    exact ⟨by simp [replacing], ⟨rfl, rfl, rfl⟩, by decide⟩

theorem analyst_authorizations :
    (fresh.run (replacing ++ [.publish retracted])).authorizationsOf analyst "match" later
      = [granted] := by
  have h := retracted_ledger
  refine eq_singleton (h.authorization.nodup.filter _) fun d => ?_
  rw [mem_authorizationsOf h]
  constructor
  · rintro ⟨hd, -, -⟩
    simpa [replacing] using hd
  · rintro rfl
    exact ⟨by simp [replacing], ⟨rfl, rfl, rfl, rfl⟩, by decide⟩

theorem analyst_excluded :
    (fresh.run (replacing ++ [.publish retracted])).excludedBySuccessor analyst later = true := by
  have hmem : replaced ∈ values (fresh.run (replacing ++ [.publish retracted])).publication :=
    retracted_ledger.publication.mem.mpr (by simp [replacing])
  refine List.any_eq_true.mpr ⟨replaced, hmem, excludes_iff.mpr ⟨?_, ?_, ?_⟩⟩
  · exact ⟨rfl, rfl, rfl, rfl, rfl⟩
  · exact ⟨rfl, rfl⟩
  · decide

/-- The analyst stays excluded though its successor is not published any more. -/
theorem unpublished_successor_excludes :
    ¬ ExclusionEffective (fresh.run (replacing ++ [.publish retracted])) := by
  intro heffective
  have h := retracted_ledger
  have hproject : (fresh.run (replacing ++ [.publish retracted])).project analyst "match" later
      = .error "PUBLICATION_NOT_EFFECTIVE" := by
    rw [Authority.project, analyst_publications, analyst_excluded]
    rfl
  obtain ⟨d, hd, hex, w, hw, hbinds, hlast⟩ := heffective analyst
    (h.versions.mem.mpr (by simp [replacing])) "match" later
    ⟨published, by rw [analyst_publications]; rfl, rfl⟩
    ⟨granted, by rw [analyst_authorizations]; rfl, rfl, fun _ ht => by cases ht⟩ _ hproject
  -- only one decision replaces the analyst, and it is not the last one of the successor
  have hd' : d = replaced := by
    rcases retracted_publish (h.publication.mem.mp hd) with rfl | rfl | rfl
    · exact absurd (excludes_iff.mp hex).1.2.1 (by decide)
    · rfl
    · exact absurd (excludes_iff.mp hex).1.2.1 (by decide)
  subst hd'
  have hmem : retracted ∈ (fresh.run (replacing ++ [.publish retracted])).publicationsOf w later := by
    refine (mem_publicationsOf h).mpr ⟨by simp, ⟨?_, ?_, ?_⟩, by decide⟩
    · exact (congrArg Prod.fst hbinds.1).symm
    · exact (congrArg Prod.snd hbinds.1).symm
    · exact hbinds.2.1.symm
  exact absurd ((sortedBy_getLast hlast).2 retracted hmem) (by decide)

/-- Without the retraction the replacement stays effective. -/
theorem replacement_effective_sample : ExclusionEffective (fresh.run replacing) := by
  have hpublish : ∀ {d}, Op.publish d ∈ replacing → d = published ∨ d = replaced := by
    intro d hd
    simpa [replacing] using hd
  -- the one replacement is the only decision about the successor
  have hkeeps : ∀ d e, Op.publish d ∈ replacing → Op.publish e ∈ replacing → Keeps d e := by
    intro d e hd he heffect hout
    have he' : e = replaced := by
      rcases hpublish he with rfl | rfl
      · exact absurd heffect (by decide)
      · rfl
    subst he'
    rcases hpublish hd with rfl | rfl
    · exact absurd hout.1 (by decide)
    · exact absurd hout.2.2.2.1 (lt_irrefl _)
  refine replacement_effective new_fresh ?_ (List.prefix_refl _)
  refine runKeepsReplacements_of_mem (new_ledger new_fresh) fun d e hd he => ?_
  have he' := he.resolve_left id
  exact ⟨hkeeps d e hd he', hkeeps e d he' hd⟩

end Sample

end Definition
end AgentPlatform
