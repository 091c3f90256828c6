/-
AgentPlatform/Definition/Agreement.lean

The definition authority and the matcher agree on snapshots, where the request is
in normal form.

The authority answers with normalised identifiers, while the matcher compares the
answer with the identifiers of the request as they were written. A snapshot of a
reachable authority therefore passes `validateSnapshot` exactly for the requests
whose identifiers are their own normal forms (`provider_agrees`); everything else
the matcher recomputes (the order, the references, the digests and the identity of
the snapshot) always agrees, because the ledger keeps every record checked.
-/
import AgentPlatform.Definition.Selection
import AgentPlatform.Definition.Snapshot

namespace AgentPlatform
namespace Definition

open Py

/-! ### What a snapshot holds -/

theorem latest_eq_ok {δ β : Type} [DecidableEq β] {base : δ → Decision} {action : δ → β}
    {missing : String} {l : List δ} {d : δ} (h : latest base action missing l = .ok d) : d ∈ l := by
  rw [latest] at h
  split at h
  · cases h
  · rename_i e he
    obtain ⟨⟨⟩, -, h⟩ := bind_eq_ok.mp h
    cases h
    exact (sortedBy_getLast he).1

theorem project_eq_ok {a : Authority} {v : DefinitionVersion} {purpose : String} {at' : Datetime}
    {e : EffectiveDefinition} (h : a.project v purpose at' = .ok e) :
    e.version = v ∧ (∃ p ∈ a.publicationsOf v at', e.publicationDecisionId = p.decisionId) ∧
      ∃ g ∈ a.authorizationsOf v purpose at', e.matchAuthorizationDecisionId = g.decisionId := by
  obtain ⟨p, hp, h⟩ := bind_eq_ok.mp h
  rw [ite_error_eq_ok', ite_error_eq_ok'] at h
  obtain ⟨-, -, h⟩ := h
  obtain ⟨g, hg, h⟩ := bind_eq_ok.mp h
  rw [ite_error_eq_ok'] at h
  obtain ⟨-, h⟩ := h
  split at h
  · cases h
  · cases h
  · cases h
    exact ⟨rfl, ⟨p, latest_eq_ok hp, rfl⟩, g, latest_eq_ok hg, rfl⟩

def effectiveAmong (a : Authority) (vs : List DefinitionVersion) (purpose : String)
    (at' : Datetime) : List EffectiveDefinition :=
  effectiveOf (vs.map fun v => a.project v purpose at')

theorem effectiveAmong_cons (a : Authority) (v : DefinitionVersion) (vs : List DefinitionVersion)
    (purpose : String) (at' : Datetime) :
    effectiveAmong a (v :: vs) purpose at'
      = (a.project v purpose at').toOption.toList ++ effectiveAmong a vs purpose at' := by
  rw [effectiveAmong, effectiveOf, List.map_cons, List.filterMap_cons]
  cases a.project v purpose at' <;> rfl

/-- Effective definitions are projections of the versions, in their order. -/
theorem effectiveAmong_sublist (a : Authority) (vs : List DefinitionVersion) (purpose : String)
    (at' : Datetime) :
    ((effectiveAmong a vs purpose at').map EffectiveDefinition.version).Sublist vs := by
  induction vs with
  | nil => exact List.Sublist.slnil
  | cons v vs ih =>
    rw [effectiveAmong_cons]
    rcases h : a.project v purpose at' with code | e
    · exact ih.cons v
    · have hv := (project_eq_ok h).1
      show (e.version :: _).Sublist (v :: vs)
      rw [hv]
      exact ih.cons_cons v

theorem mem_effectiveAmong {a : Authority} {vs : List DefinitionVersion} {purpose : String}
    {at' : Datetime} {e : EffectiveDefinition} (h : e ∈ effectiveAmong a vs purpose at') :
    ∃ v ∈ vs, a.project v purpose at' = .ok e := by
  rw [effectiveAmong, effectiveOf, List.mem_filterMap] at h
  obtain ⟨x, hx, he⟩ := h
  obtain ⟨v, hv, rfl⟩ := List.mem_map.mp hx
  refine ⟨v, hv, ?_⟩
  rcases hp : a.project v purpose at' with code | e'
  · rw [hp] at he
    cases he
  · rw [hp] at he
    cases he
    rfl

section Snapshots

variable [Whitespace] {a : Authority} {acc : Op → Prop} {q : SnapshotRequest} {s : CatalogSnapshot}

/-- The snapshot of a scope. -/
def snapshotOf (a : Authority) (q : SnapshotRequest) (at' : Datetime) : CatalogSnapshot :=
  let tenant := nfc q.tenantId
  let domain := nfc q.securityDomain
  let effective := effectiveAmong a (a.scopedVersions tenant domain) (nfc q.purpose) at'
  ⟨effectiveSnapshotIdentity tenant domain (nfc q.purpose) at' (nfc q.workflowRevisionId)
      (nfc q.workflowDigest) a.sourceAuthorityRevision effective,
    snapshotContractVersion, tenant, domain, nfc q.purpose, at', nfc q.workflowRevisionId,
    nfc q.workflowDigest, a.sourceAuthorityRevision, effective, references effective, true,
    ["ADVISORY_MATCHING_ONLY", "NON_EXECUTABLE"]⟩

/-- What `snapshot` returns. -/
theorem snapshotResult_eq_ok (h : a.snapshotResult q = .ok s) :
    ∃ at', utc "INVALID_EVALUATION_TIME" q.evaluationTime = .ok at' ∧ s = snapshotOf a q at' ∧
      s.definitions.length ≤ maxAuthorizedCandidates := by
  obtain ⟨tenant, ht, h⟩ := bind_eq_ok.mp h
  obtain ⟨domain, hd, h⟩ := bind_eq_ok.mp h
  obtain ⟨purpose, hp, h⟩ := bind_eq_ok.mp h
  obtain ⟨at', hat, h⟩ := bind_eq_ok.mp h
  obtain ⟨id, hi, h⟩ := bind_eq_ok.mp h
  obtain ⟨hash, hh, h⟩ := bind_eq_ok.mp h
  rw [(identifier_eq_ok ht).1, (identifier_eq_ok hd).1, (identifier_eq_ok hp).1,
    (identifier_eq_ok hi).1, (identifier_eq_ok hh).1, Authority.assemble, ite_error_eq_ok',
    ite_error_eq_ok'] at h
  obtain ⟨hlen, -, h⟩ := h
  refine ⟨at', hat, (Except.ok.inj h).symm, ?_⟩
  rw [← Except.ok.inj h]
  exact Nat.not_lt.mp hlen

theorem scopedVersions_spec (h : Ledger a acc) {tenant domain : String} {v : DefinitionVersion}
    (hv : v ∈ a.scopedVersions tenant domain) :
    acc (.register v) ∧ v.tenantId = tenant ∧ v.securityDomain = domain := by
  rw [Authority.scopedVersions, mem_sortedBy, List.mem_filter, h.versions.mem] at hv
  simpa using hv

theorem scopedVersions_nodup (h : Ledger a acc) (tenant domain : String) :
    (a.scopedVersions tenant domain).Nodup :=
  (perm_sortedBy _ _).nodup_iff.mpr (h.versions.nodup.filter _)

/-! ### The checks of the matcher -/

theorem isIdentifier_of_validateCommon {d : Decision} (h : d.validateCommon = .ok ()) :
    isIdentifier d.decisionId = true := by
  obtain ⟨⟨⟩, hid, -⟩ := bind_eq_ok.mp h
  exact checkIdentifier_eq_ok.mp hid

theorem isIdentifier_source {v : DefinitionVersion} (h : v.validate = .ok ()) :
    isIdentifier v.sourceAuthorityRevision = true := by
  rw [DefinitionVersion.validate, ite_error_eq_ok'] at h
  obtain ⟨⟨⟩, -, h⟩ := bind_eq_ok.mp h.2
  obtain ⟨⟨⟩, -, h⟩ := bind_eq_ok.mp h
  obtain ⟨⟨⟩, -, h⟩ := bind_eq_ok.mp h
  obtain ⟨⟨⟩, -, h⟩ := bind_eq_ok.mp h
  obtain ⟨⟨⟩, -, h⟩ := bind_eq_ok.mp h
  obtain ⟨⟨⟩, hsource, -⟩ := bind_eq_ok.mp h
  exact checkIdentifier_eq_ok.mp hsource

/-- Every definition of a snapshot passes the checks of the matcher. -/
theorem validateDefinition_ok (h : Ledger a acc) {at' : Datetime} {e : EffectiveDefinition}
    (he : e ∈ (snapshotOf a q at').definitions) :
    validateDefinition (snapshotOf a q at') e = .ok () := by
  obtain ⟨v, hv, hproject⟩ := mem_effectiveAmong he
  obtain ⟨hacc, htenant, hdomain⟩ := scopedVersions_spec h hv
  obtain ⟨rfl, ⟨p, hp, hpid⟩, g, hg, hgid⟩ := project_eq_ok hproject
  have hvalid := h.checked _ hacc
  have hpublication : isIdentifier p.decisionId = true := by
    obtain ⟨⟨⟩, hcommon, -⟩ := bind_eq_ok.mp (h.published p ((mem_publicationsOf h).mp hp).1).1
    exact isIdentifier_of_validateCommon hcommon
  have hauthorization : isIdentifier g.decisionId = true := by
    obtain ⟨⟨⟩, hcommon, -⟩ := bind_eq_ok.mp (h.authorized g ((mem_authorizationsOf h).mp hg).1).1
    exact isIdentifier_of_validateCommon hcommon
  rw [validateDefinition, bind_eq_ok]
  refine ⟨(), hvalid, ?_⟩
  rw [bind_eq_ok]
  refine ⟨(), forM_eq_ok.mpr ?_, ?_⟩
  · intro x hx
    refine checkMatchIdentifier_of_isIdentifier ?_
    simp only [List.mem_cons, List.not_mem_nil, or_false] at hx
    rcases hx with rfl | rfl | rfl
    · rw [hpid]
      exact hpublication
    · rw [hgid]
      exact hauthorization
    · exact isIdentifier_source hvalid
  · rw [ite_error_eq_ok', ite_error_eq_ok']
    exact ⟨not_not.mpr htenant, not_not.mpr hdomain, rfl⟩

/-- The definitions are sorted, and no two are about one version. -/
theorem definitions_sorted (h : Ledger a acc) (q : SnapshotRequest) (at' : Datetime) :
    sortedBy (fun d => d.version.key) (snapshotOf a q at').definitions
        = (snapshotOf a q at').definitions ∧
      (snapshotOf a q at').definitions.Nodup := by
  have hsub := effectiveAmong_sublist a (a.scopedVersions (nfc q.tenantId) (nfc q.securityDomain))
    (nfc q.purpose) at'
  constructor
  · have hsorted := (pairwise_sortedBy DefinitionVersion.key _).sublist hsub
    rw [List.pairwise_map] at hsorted
    exact sortedBy_eq_self hsorted
  · exact List.Nodup.of_map _ ((scopedVersions_nodup h _ _).sublist hsub)

/-- The identifiers of the request are their own normal forms. -/
def MatchingRequest.Normal (r : MatchingRequest) : Prop := ∀ x ∈ r.identities, nfc x = x

omit [Whitespace] in
theorem sameInstant_of_utc {code : String} {t : LocalDatetime} {at' : Datetime}
    (h : utc code t = .ok at') : sameInstant at' t = true := by
  obtain ⟨hoffset, hmicros⟩ := utc_eq_ok h
  rw [sameInstant, hoffset]
  simp [hmicros]

/-- **The matcher accepts a snapshot** exactly where the request is in normal form. -/
theorem validateSnapshot_iff (h : Ledger a acc) {r : MatchingRequest} {code : String} {at' : Datetime}
    (hat : utc code r.evaluationTime = .ok at') :
    validateSnapshot (snapshotOf a r.toSnapshotRequest at') r = .ok () ↔ r.Normal := by
  have hsorted := definitions_sorted h r.toSnapshotRequest at'
  have hdefinitions : (snapshotOf a r.toSnapshotRequest at').definitions.forM
      (validateDefinition (snapshotOf a r.toSnapshotRequest at')) = .ok () :=
    forM_eq_ok.mpr fun e he => validateDefinition_ok h he
  rw [validateSnapshot]
  dsimp only
  rw [hsorted.1, hdefinitions]
  simp only [ite_error_eq_ok', MatchingRequest.Normal, MatchingRequest.identities, List.forall_mem_cons,
    List.not_mem_nil, false_imp_iff, implies_true, and_true, not_or, not_not]
  constructor
  · rintro ⟨-, htenant, hdomain, ⟨hpurpose, -, hrevision, hdigest⟩, -⟩
    exact ⟨hrevision, hdigest, htenant, hdomain, hpurpose⟩
  · rintro ⟨hrevision, hdigest, htenant, hdomain, hpurpose⟩
    refine ⟨⟨by simp [snapshotOf], rfl⟩, htenant, hdomain,
      ⟨hpurpose, sameInstant_of_utc hat, hrevision, hdigest⟩, ⟨trivial, hsorted.2⟩, ?_⟩
    exact (if_neg (not_not.mpr rfl)).trans (if_neg (not_not.mpr rfl))

/-! ### Provider and matcher -/

def Authority.provider (a : Authority) (q : SnapshotRequest) : Except String CatalogSnapshot :=
  (a.snapshot q).1

/-- What the matcher makes of the snapshots of an authority, for a request with these
sorted tasks: it accepts them, fails only where the authority does or at a limit,
does not see the order of the request, and decides every requirement by the least
definition that covers it. -/
structure ProviderAgrees (a : Authority) (r : MatchingRequest) (tasks : List TaskRoleRequirements) :
    Prop where
  accepted : ∀ s, a.provider r.toSnapshotRequest = .ok s → validateSnapshot s r = .ok ()
  failures : ∀ code, matchRoles a.provider r = .error code →
    a.provider r.toSnapshotRequest = .error code ∨ code = "CANDIDATE_LIMIT_EXCEEDED" ∨
      code = "EVALUATION_LIMIT_EXCEEDED"
  order : ∀ r', PermutedRequest r r' → matchRoles a.provider r' = matchRoles a.provider r
  decisions : ∀ result, matchRoles a.provider r = .ok result →
    ∃ s, a.provider r.toSnapshotRequest = .ok s ∧
      List.Forall₂ (Selects s) (orderedRequirements tasks) result.decisions

/-- Identifiers that pass the matcher pass the authority. -/
theorem identifier_of_checkMatchIdentifier {x : String} (code : String)
    (h : checkMatchIdentifier x = .ok ()) : identifier code x = .ok (nfc x) := by
  obtain ⟨y, hy, -⟩ := bind_eq_ok.mp h
  rw [matchIdentifier] at hy
  simp only [ite_error_eq_ok', Except.ok.injEq, not_not] at hy
  obtain ⟨hlen, hid, -⟩ := hy
  rw [identifier]
  show (if nfc x = "" then _ else if identifierLimit < (nfc x).length then _ else
    if ¬ isIdentifier (nfc x) = true then _ else Except.ok (nfc x)) = _
  rw [if_neg (isIdentifier_length hid).1, if_neg hlen, if_neg (not_not.mpr hid)]

/-- An authority without versions answers every valid request. -/
theorem snapshotResult_of_empty (ha : a.versions = ∅) {r : MatchingRequest}
    {tasks : List TaskRoleRequirements} (hr : validateRequest r = .ok tasks) :
    ∃ s, a.snapshotResult r.toSnapshotRequest = .ok s := by
  obtain ⟨hid, -, -, -, -, at', hat, -⟩ := validateRequest_eq_ok.mp hr
  simp only [MatchingRequest.identities, List.forall_mem_cons, List.not_mem_nil, false_imp_iff,
    implies_true, and_true] at hid
  obtain ⟨hrevision, hdigest, htenant, hdomain, hpurpose⟩ := hid
  have hat' : utc "INVALID_EVALUATION_TIME" r.evaluationTime = .ok at' := by
    rw [utc] at hat ⊢
    split at hat
    · rename_i ht
      rw [dif_pos ht]
      exact hat
    · cases hat
  have hscoped : ∀ tenant domain, a.scopedVersions tenant domain = [] := by
    intro tenant domain
    rw [Authority.scopedVersions, ha]
    rfl
  refine ⟨snapshotOf a r.toSnapshotRequest at', bind_eq_ok.mpr ⟨_, identifier_of_checkMatchIdentifier _ htenant,
    bind_eq_ok.mpr ⟨_, identifier_of_checkMatchIdentifier _ hdomain,
    bind_eq_ok.mpr ⟨_, identifier_of_checkMatchIdentifier _ hpurpose,
    bind_eq_ok.mpr ⟨_, hat', bind_eq_ok.mpr ⟨_, identifier_of_checkMatchIdentifier _ hrevision,
    bind_eq_ok.mpr ⟨_, identifier_of_checkMatchIdentifier _ hdigest, ?_⟩⟩⟩⟩⟩⟩⟩
  rw [Authority.assemble, snapshotOf, hscoped]
  rfl

/-- The matcher and the authority agree on a request in normal form. -/
theorem providerAgrees_of_normal (h : Ledger a acc) {r : MatchingRequest}
    {tasks : List TaskRoleRequirements} (hr : validateRequest r = .ok tasks) (hnormal : r.Normal) :
    ProviderAgrees a r tasks := by
  have haccepted : ∀ s, a.provider r.toSnapshotRequest = .ok s → validateSnapshot s r = .ok () := by
    intro s hs
    rw [Authority.provider, snapshot_fst] at hs
    obtain ⟨at', hat, rfl, -⟩ := snapshotResult_eq_ok hs
    exact (validateSnapshot_iff h hat).mpr hnormal
  refine ⟨haccepted, fun code hcode => ?_, fun r' hr' => matchRoles_permuted hr' hr _, fun result hres => ?_⟩
  · rw [matchRoles_eq _ hr] at hcode
    rcases hs : a.provider r.toSnapshotRequest with code' | s
    · rw [hs] at hcode
      cases hcode
      exact .inl rfl
    · rw [hs] at hcode
      have hdecide : decideRequirements s (orderedRequirements tasks) = .error code := by
        have hgo : (do validateSnapshot s r; decideRequirements s (orderedRequirements tasks))
            = .error code := hcode
        rwa [haccepted s hs] at hgo
      exact .inr (decideRequirements_error hdecide)
  · rw [matchRoles_eq _ hr] at hres
    obtain ⟨s, hs, hres⟩ := bind_eq_ok.mp hres
    obtain ⟨⟨⟩, -, hres⟩ := bind_eq_ok.mp hres
    exact ⟨s, hs, decideRequirements_ok hres⟩

/-- **Provider and matcher agree** on a valid request, whatever the authority has
recorded, exactly if its identifiers are their own normal forms. -/
theorem provider_agrees {r : MatchingRequest} {tasks : List TaskRoleRequirements}
    (hr : validateRequest r = .ok tasks) :
    (∀ rev a₀ ops, Authority.new rev = .ok a₀ → ProviderAgrees (a₀.run ops) r tasks) ↔ r.Normal := by
  constructor
  · intro hagrees
    have hnew : Authority.new "source.1" = .ok ⟨"source.1", ∅, ∅, ∅, ∅, ∅, []⟩ := by
      rw [Authority.new, identifier_of_isIdentifier _ (by decide)]
      rfl
    obtain ⟨s, hs⟩ := snapshotResult_of_empty
      (a := ⟨"source.1", ∅, ∅, ∅, ∅, ∅, []⟩) rfl hr
    have haccepted := (hagrees _ _ [] hnew).accepted s ((snapshot_fst _ _).trans hs)
    obtain ⟨at', hat, rfl, -⟩ := snapshotResult_eq_ok hs
    exact (validateSnapshot_iff (new_ledger hnew) hat).mp haccepted
  · intro hnormal rev a₀ ops hnew
    exact providerAgrees_of_normal (run_ledger (new_ledger hnew) ops) hr hnormal

end Snapshots

namespace Sample

/-- One task that needs an analyst, and one that needs nobody the catalog has. -/
def roles : List TaskRoleRequirements :=
  [⟨"task.b", [⟨"needs.b", ["translate"], [], [], [], [], []⟩]⟩,
    ⟨"task.a", [⟨"needs.a", ["analyze"], [], [], [], [], []⟩]⟩]

def request (tenant : String) : MatchingRequest :=
  ⟨"workflow.1", "digest.1", tenant, "quality", "match", instant noon, roles⟩

theorem request_valid : validateRequest (request "tenant.acme") = .ok roles.reverse := by
  refine validateRequest_eq_ok.mpr ⟨?_, by decide +kernel, by decide +kernel, by decide +kernel, ?_,
    ⟨noon, by decide⟩, rfl, ?_⟩
  · have hid : ∀ x ∈ (request "tenant.acme").identities, (checkMatchIdentifier x).isOk = true := by
      decide +kernel
    exact fun x hx => eq_ok_of_isOk (hid x hx)
  · have htask : ∀ t ∈ roles.reverse, (validateTask t).isOk = true := by decide +kernel
    exact fun t ht => eq_ok_of_isOk (htask t ht)
  · exact eq_ok_of_isOk (by decide +kernel)

theorem provider_agrees_sample :
    ProviderAgrees (fresh.run [.register analyst, .publish published, .authorize granted])
      (request "tenant.acme") roles.reverse := by
  refine (provider_agrees request_valid).mpr ?_ _ _ _ new_fresh
  intro x _
  rfl

end Sample

/-! ### A character with a canonical equivalent -/

namespace Kelvin

scoped instance : Whitespace := .kelvin

/-- The tenant's name ends in KELVIN SIGN. -/
def request : MatchingRequest :=
  ⟨"workflow.1", "digest.1", "tenant.\u212a", "quality", "match", Sample.instant Sample.noon, []⟩

theorem request_valid : validateRequest request = .ok [] := by
  refine validateRequest_eq_ok.mpr ⟨?_, rfl, by decide, by decide, by simp, ⟨Sample.noon, by decide⟩, rfl, ?_⟩
  · have hid : ∀ x ∈ request.identities, (checkMatchIdentifier x).isOk = true := by decide +kernel
    exact fun x hx => eq_ok_of_isOk (hid x hx)
  · exact eq_ok_of_isOk (by decide +kernel)

/-- The request passes the checks of the matcher and a fresh authority answers it, but
the matcher takes the answer for one about another tenant. -/
theorem kelvin_scope_mismatch :
    validateRequest request = .ok [] ∧ Authority.new "source.1" = .ok Sample.fresh ∧
      (∃ s, Sample.fresh.provider request.toSnapshotRequest = .ok s ∧
        validateSnapshot s request = .error "TENANT_SCOPE_MISMATCH") ∧
      ¬ ProviderAgrees (Sample.fresh.run []) request [] := by
  have hnew : Authority.new "source.1" = .ok Sample.fresh := by
    rw [Authority.new, identifier_of_isIdentifier _ (by decide)]
    rfl
  obtain ⟨s, hs⟩ := snapshotResult_of_empty (a := Sample.fresh) rfl request_valid
  have hprovider : Sample.fresh.provider request.toSnapshotRequest = .ok s :=
    (snapshot_fst _ _).trans hs
  have hmismatch : validateSnapshot s request = .error "TENANT_SCOPE_MISMATCH" := by
    obtain ⟨at', -, rfl, -⟩ := snapshotResult_eq_ok hs
    have hne : nfc request.toSnapshotRequest.tenantId ≠ request.tenantId := by decide +kernel
    rw [validateSnapshot, if_neg (by simp [snapshotOf])]
    exact if_pos hne
  refine ⟨request_valid, hnew, ⟨s, hprovider, hmismatch⟩, fun h => ?_⟩
  have haccepted : validateSnapshot s request = .ok () := h.accepted s hprovider
  rw [hmismatch] at haccepted
  cases haccepted

end Kelvin

end Definition
end AgentPlatform
