/-
AgentPlatform/Definition/Selection.lean

What the matcher decides: for every requirement the definition with the least
identity among those that cover it, or a gap where there is none.

A definition scores the size of the requirement, whatever it is, so that all
candidates tie and the identity decides (`matchOne_selects`). Tasks and
requirements are sorted by distinct identifiers before anything is computed, so
that the result does not depend on the order they are listed in
(`matchRoles_permuted`).
-/
import AgentPlatform.Definition.Matching

namespace AgentPlatform
namespace Definition

open Py

/-! ### One requirement -/

/-- The six coverage sets of the definition include the ones of the requirement. -/
structure Covers (r : RoleRequirement) (e : EffectiveDefinition) : Prop where
  duties : r.duties ⊆ e.version.role.duties
  data : r.data ⊆ e.version.role.data
  knowledge : r.knowledge ⊆ e.version.role.knowledge
  skills : r.skills ⊆ e.version.role.skills
  capabilities : r.capabilities ⊆ e.version.role.capabilities
  runtimes : r.runtimes ⊆ e.version.role.runtimes

/-- The decision selects the least of the definitions that cover the requirement, or
is a gap where none does. -/
structure Selects (s : CatalogSnapshot) (r : RoleRequirement) (d : RoleMatchDecision) : Prop where
  requirementId : d.requirementId = r.requirementId
  snapshotId : d.snapshotId = s.snapshotId
  matched : d.outcome = .matched ↔ ∃ e ∈ s.definitions, Covers r e
  gap : d.outcome = .roleGap ↔ ∀ e ∈ s.definitions, ¬ Covers r e
  selected : d.outcome = .matched → ∃ e ∈ s.definitions, Covers r e ∧
    d.selectedDefinitionId = some e.version.definitionId ∧
    d.selectedVersionId = some e.version.versionId ∧
    d.selectedDefinitionDigest = some e.version.definitionDigest ∧
    ∀ e' ∈ s.definitions, Covers r e' → e.version.key ≤ e'.version.key

theorem covers_iff {r : RoleRequirement} {e : EffectiveDefinition} :
    covers r.coverage e.version.role.coverage = true ↔ Covers r e := by
  simp only [covers, RoleRequirement.coverage, RoleDescriptor.coverage, List.zip_cons_cons,
    List.zip_nil_right, List.all_cons, List.all_nil, Bool.and_true, Bool.and_eq_true, List.all_eq_true,
    decide_eq_true_eq]
  constructor
  · rintro ⟨h₁, h₂, h₃, h₄, h₅, h₆⟩
    exact ⟨h₁, h₂, h₃, h₄, h₅, h₆⟩
  · rintro ⟨h₁, h₂, h₃, h₄, h₅, h₆⟩
    exact ⟨h₁, h₂, h₃, h₄, h₅, h₆⟩

/-- The score a definition gets if it covers the requirement. -/
def scoreOf (r : RoleRequirement) (e : EffectiveDefinition) : CandidateScore :=
  ⟨e.version.definitionId, e.version.versionId, e.version.definitionDigest,
    (r.coverage.map List.length).sum⟩

theorem mem_scored {r : RoleRequirement} {l : List EffectiveDefinition} {c : CandidateScore} :
    c ∈ l.filterMap (score r) ↔ ∃ e ∈ l, Covers r e ∧ c = scoreOf r e := by
  rw [List.mem_filterMap]
  refine exists_congr fun e => and_congr_right fun _ => ?_
  rw [score]
  split
  · rename_i h
    simp only [covers_iff.mp h, true_and, Option.some.injEq]
    exact eq_comm
  · rename_i h
    simp only [mt covers_iff.mpr h, false_and, reduceCtorEq]

theorem scoreOf_key_le {r : RoleRequirement} {e e' : EffectiveDefinition}
    (h : (scoreOf r e).key ≤ (scoreOf r e').key) : e.version.key ≤ e'.version.key := by
  rcases Prod.Lex.toLex_le_toLex.mp h with h | ⟨-, h⟩
  · exact absurd h (lt_irrefl _)
  · exact h

/-- The reason codes of the matcher are identifiers. -/
theorem isIdentifier_reason : ∀ x ∈ ["ROLE_GAP", "NO_ELIGIBLE_ROLE_COVERS_REQUIREMENT",
    "FULL_REQUIRED_COVERAGE", "DETERMINISTIC_SELECTION",
    "STABLE_TIE_BROKEN_BY_DEFINITION_VERSION_IDENTITY"], isIdentifier x = true := by
  decide +kernel

/-- The reasons of a match with some ties. -/
def matchedReasons (ties : List CandidateScore) : List String :=
  ["FULL_REQUIRED_COVERAGE", "DETERMINISTIC_SELECTION"] ++
    if 1 < ties.length then ["STABLE_TIE_BROKEN_BY_DEFINITION_VERSION_IDENTITY"] else []

theorem matchedReasons_length (ties : List CandidateScore) :
    (matchedReasons ties).length ≤ maxReasons := by
  rw [matchedReasons]
  split <;> decide

theorem isIdentifier_matchedReasons (ties : List CandidateScore) :
    ∀ x ∈ matchedReasons ties, isIdentifier x = true := by
  intro x hx
  refine isIdentifier_reason x ?_
  rw [matchedReasons] at hx
  split at hx
  · simp only [List.cons_append, List.nil_append, List.mem_cons, List.not_mem_nil, or_false] at hx ⊢
    tauto
  · simp only [List.append_nil, List.mem_cons, List.not_mem_nil, or_false] at hx ⊢
    tauto

theorem selects_gap {s : CatalogSnapshot} {r : RoleRequirement}
    (hempty : sortedBy CandidateScore.key (s.definitions.filterMap (score r)) = []) :
    ∀ e ∈ s.definitions, ¬ Covers r e := by
  intro e he hcovers
  have hmem : scoreOf r e ∈ sortedBy CandidateScore.key (s.definitions.filterMap (score r)) :=
    mem_sortedBy.mpr (mem_scored.mpr ⟨e, he, hcovers, rfl⟩)
  rw [hempty] at hmem
  exact absurd hmem List.not_mem_nil

/-- The first of the ranked candidates is the least definition that covers the
requirement, and its own first tie. -/
theorem selects_best {s : CatalogSnapshot} {r : RoleRequirement} {best : CandidateScore}
    {ranked : List CandidateScore}
    (hsorted : sortedBy CandidateScore.key (s.definitions.filterMap (score r)) = best :: ranked) :
    ∃ e ∈ s.definitions, Covers r e ∧ best = scoreOf r e ∧
      ∀ e' ∈ s.definitions, Covers r e' → e.version.key ≤ e'.version.key := by
  obtain ⟨hmem, hleast⟩ := sortedBy_head (List.head?_eq_some_iff.mpr ⟨ranked, hsorted⟩)
  obtain ⟨e, he, hcovers, rfl⟩ := mem_scored.mp hmem
  refine ⟨e, he, hcovers, rfl, fun e' he' hcovers' => ?_⟩
  exact scoreOf_key_le (hleast _ (mem_scored.mpr ⟨e', he', hcovers', rfl⟩))

section Matching

variable [Whitespace]

/-- The checks on reason codes pass. -/
theorem matchDecision_ok {r : RoleRequirement} {id : String} {outcome : MatchOutcome}
    {selected : Option CandidateScore} {ties : List CandidateScore} {missing reasons : List String}
    (hlen : reasons.length ≤ maxReasons) (hid : ∀ x ∈ reasons, isIdentifier x = true) :
    ∃ d, matchDecision r id outcome selected ties missing reasons = .ok d ∧
      d.requirementId = r.requirementId ∧ d.snapshotId = id ∧ d.outcome = outcome ∧
      d.selectedDefinitionId = selected.map CandidateScore.definitionId ∧
      d.selectedVersionId = selected.map CandidateScore.versionId ∧
      d.selectedDefinitionDigest = selected.map CandidateScore.definitionDigest := by
  have hreasons : reasons.forM checkMatchIdentifier = .ok () :=
    forM_eq_ok.mpr fun x hx => checkMatchIdentifier_of_isIdentifier (hid x hx)
  rw [matchDecision, if_neg (Nat.not_lt.mpr hlen), hreasons]
  exact ⟨_, rfl, rfl, rfl, rfl, rfl, rfl, rfl⟩

/-- **One requirement** is matched with the least definition that covers it. -/
theorem matchOne_selects (s : CatalogSnapshot) (r : RoleRequirement) :
    ∃ d, matchOne s r = .ok d ∧ Selects s r d := by
  rw [matchOne]
  dsimp only
  split
  · rename_i hempty
    have hnone := selects_gap hempty
    have hreasons : ∀ x ∈ ["ROLE_GAP", "NO_ELIGIBLE_ROLE_COVERS_REQUIREMENT"],
        isIdentifier x = true := fun x hx => isIdentifier_reason x (List.mem_of_mem_take (i := 2) hx)
    obtain ⟨d, hd, hr, hs, hout, -⟩ := matchDecision_ok (by decide) hreasons
    refine ⟨d, hd, hr, hs, ?_, ?_, ?_⟩
    · rw [hout]
      simp only [reduceCtorEq, false_iff]
      rintro ⟨e, he, hcovers⟩
      exact hnone e he hcovers
    · rw [hout]
      exact iff_of_true rfl hnone
    · rw [hout]
      intro h
      cases h
  · rename_i best ranked hsorted
    obtain ⟨e, he, hcovers, rfl, hleast⟩ := selects_best hsorted
    have hhead : ((scoreOf r e :: ranked).filter (·.score = (scoreOf r e).score)).head?
        = some (scoreOf r e) := by
      rw [List.filter_cons_of_pos (by simp)]
      rfl
    rw [hhead]
    obtain ⟨d, hd, hr, hs, hout, hid, hversion, hdigest⟩ := matchDecision_ok
      (matchedReasons_length _) (isIdentifier_matchedReasons _)
    refine ⟨d, hd, hr, hs, ?_, ?_, fun _ => ⟨e, he, hcovers, hid, hversion, hdigest, hleast⟩⟩
    · rw [hout]
      exact iff_of_true rfl ⟨e, he, hcovers⟩
    · rw [hout]
      simp only [reduceCtorEq, false_iff]
      exact fun hnone => hnone e he hcovers

/-! ### The order of tasks and requirements -/

/-- The same task with its requirements in another order. -/
def PermutedTask (t t' : TaskRoleRequirements) : Prop :=
  t.taskRequirementId = t'.taskRequirementId ∧ t.requirements.Perm t'.requirements

/-- The same request with its tasks, and the requirements of each, in another order. -/
structure PermutedRequest (r r' : MatchingRequest) : Prop where
  revision : r.canonicalWorkflowRevisionId = r'.canonicalWorkflowRevisionId
  digest : r.approvedWorkflowDigest = r'.approvedWorkflowDigest
  tenant : r.tenantId = r'.tenantId
  domain : r.securityDomain = r'.securityDomain
  purpose : r.purpose = r'.purpose
  time : r.evaluationTime = r'.evaluationTime
  tasks : ∃ tasks, r.tasks.Perm tasks ∧ List.Forall₂ PermutedTask tasks r'.tasks

theorem validateRequest_eq_ok {r : MatchingRequest} {tasks : List TaskRoleRequirements} :
    validateRequest r = .ok tasks ↔
      (∀ x ∈ r.identities, checkMatchIdentifier x = .ok ()) ∧
      tasks = sortedBy TaskRoleRequirements.taskRequirementId r.tasks ∧ tasks.length ≤ maxTasks ∧
      (tasks.map TaskRoleRequirements.taskRequirementId).Nodup ∧
      (∀ t ∈ tasks, validateTask t = .ok ()) ∧
      ∃ at', utc "INVALID_UTC_TIMESTAMP" r.evaluationTime = .ok at' ∧
        validateSerializedMatchingRequestSize (canonicalJson (r.semantic at' tasks)).utf8ByteSize
          = .ok () := by
  rw [validateRequest, bind_eq_ok]
  dsimp only
  constructor
  · rintro ⟨⟨⟩, hid, h⟩
    rw [ite_error_eq_ok', ite_error_eq_ok', Nat.not_lt, not_not] at h
    obtain ⟨hlen, hnodup, h⟩ := h
    obtain ⟨⟨⟩, htasks, h⟩ := bind_eq_ok.mp h
    obtain ⟨at', hat, h⟩ := bind_eq_ok.mp h
    obtain ⟨⟨⟩, hsize, h⟩ := bind_eq_ok.mp h
    cases h
    exact ⟨forM_eq_ok.mp hid, rfl, hlen, hnodup, forM_eq_ok.mp htasks, at', hat, hsize⟩
  · rintro ⟨hid, rfl, hlen, hnodup, htasks, at', hat, hsize⟩
    refine ⟨(), forM_eq_ok.mpr hid, ?_⟩
    rw [ite_error_eq_ok', ite_error_eq_ok', Nat.not_lt, not_not]
    refine ⟨hlen, hnodup, ?_⟩
    exact bind_eq_ok.mpr ⟨(), forM_eq_ok.mpr htasks, bind_eq_ok.mpr ⟨at', hat,
      bind_eq_ok.mpr ⟨(), hsize, rfl⟩⟩⟩

theorem validateTask_eq_ok {t : TaskRoleRequirements} :
    validateTask t = .ok () ↔ checkMatchIdentifier t.taskRequirementId = .ok () ∧
      t.requirements.length ≤ maxRequirementsPerTask ∧
      (t.requirements.map RoleRequirement.requirementId).Nodup ∧
      ∀ r ∈ t.requirements, validateRequirement r = .ok () := by
  rw [validateTask, bind_eq_ok]
  constructor
  · rintro ⟨⟨⟩, hid, h⟩
    rw [ite_error_eq_ok', ite_error_eq_ok', Nat.not_lt, not_not, forM_eq_ok] at h
    exact ⟨hid, h⟩
  · rintro ⟨hid, h⟩
    refine ⟨(), hid, ?_⟩
    rw [ite_error_eq_ok', ite_error_eq_ok', Nat.not_lt, not_not, forM_eq_ok]
    exact h

/-- Permuting the requirements of a valid task makes no difference. -/
theorem permutedTask_valid {t t' : TaskRoleRequirements} (h : PermutedTask t t')
    (ht : validateTask t = .ok ()) : validateTask t' = .ok () ∧ t'.ordered = t.ordered := by
  obtain ⟨hid, hp⟩ := h
  obtain ⟨hcheck, hlen, hnodup, hreq⟩ := validateTask_eq_ok.mp ht
  constructor
  · refine validateTask_eq_ok.mpr ⟨hid ▸ hcheck, hp.length_eq ▸ hlen, (hp.map _).nodup_iff.mp hnodup, ?_⟩
    exact fun r hr => hreq r (hp.mem_iff.mpr hr)
  · refine (sortedBy_perm hp fun r hr r' hr' => ?_).symm
    exact List.inj_on_of_nodup_map hnodup hr hr'

/-- What is computed from a task: its identifier and its sorted requirements. -/
def TaskRoleRequirements.parts (t : TaskRoleRequirements) : String × List RoleRequirement :=
  (t.taskRequirementId, t.ordered)

theorem permutedTasks_valid {tasks tasks' : List TaskRoleRequirements}
    (h : List.Forall₂ PermutedTask tasks tasks') (ht : ∀ t ∈ tasks, validateTask t = .ok ()) :
    tasks'.map TaskRoleRequirements.parts = tasks.map TaskRoleRequirements.parts ∧
      ∀ t ∈ tasks', validateTask t = .ok () := by
  induction h with
  | nil => exact ⟨rfl, ht⟩
  | cons hp _ ih =>
    rw [List.forall_mem_cons] at ht
    obtain ⟨hvalid, hordered⟩ := permutedTask_valid hp ht.1
    obtain ⟨hparts, hall⟩ := ih ht.2
    refine ⟨?_, List.forall_mem_cons.mpr ⟨hvalid, hall⟩⟩
    rw [List.map_cons, List.map_cons, hparts]
    congr 1
    exact Prod.ext hp.1.symm hordered

omit [Whitespace] in
theorem orderedRequirements_eq (tasks : List TaskRoleRequirements) :
    orderedRequirements tasks = (tasks.map TaskRoleRequirements.parts).flatMap Prod.snd := by
  rw [List.flatMap_map]
  rfl

omit [Whitespace] in
theorem semantic_eq (r : MatchingRequest) (at' : Datetime) (tasks : List TaskRoleRequirements) :
    r.semantic at' tasks = .obj [
      ("workflowRevisionId", .str r.canonicalWorkflowRevisionId),
      ("workflowDigest", .str r.approvedWorkflowDigest),
      ("tenantId", .str r.tenantId),
      ("securityDomain", .str r.securityDomain),
      ("purpose", .str r.purpose),
      ("evaluationTime", .str at'.isoformatZ),
      ("tasks", .arr ((tasks.map TaskRoleRequirements.parts).map fun p => .obj [
        ("taskRequirementId", .str p.1),
        ("requirements", .arr (p.2.map RoleRequirement.payload))]))] := by
  rw [List.map_map]
  rfl

/-- A valid request stays valid in any other order, with the same requirements in the
order they are decided. -/
theorem validateRequest_permuted {r r' : MatchingRequest} {tasks : List TaskRoleRequirements}
    (h : PermutedRequest r r') (hr : validateRequest r = .ok tasks) :
    ∃ tasks', validateRequest r' = .ok tasks' ∧
      orderedRequirements tasks' = orderedRequirements tasks := by
  obtain ⟨hid, hsorted, hlen, hnodup, htasks, at', hat, hsize⟩ := validateRequest_eq_ok.mp hr
  obtain ⟨middle, hperm, hforall⟩ := h.tasks
  have hmiddle : tasks = sortedBy TaskRoleRequirements.taskRequirementId middle := by
    rw [hsorted] at hnodup ⊢
    have hnodup' := ((perm_sortedBy TaskRoleRequirements.taskRequirementId r.tasks).map
      TaskRoleRequirements.taskRequirementId).nodup_iff.mp hnodup
    exact sortedBy_perm hperm fun t ht t' ht' => List.inj_on_of_nodup_map hnodup' ht ht'
  -- task by task, the sorted tasks agree up to the order of their requirements
  have hstep : List.Forall₂ PermutedTask tasks
      (sortedBy TaskRoleRequirements.taskRequirementId r'.tasks) := by
    rw [hmiddle]
    exact sortedBy_forall₂ hforall fun _ _ ht => ht.1
  obtain ⟨hparts, htasks'⟩ := permutedTasks_valid hstep htasks
  have hids : (sortedBy TaskRoleRequirements.taskRequirementId r'.tasks).map
      TaskRoleRequirements.taskRequirementId = tasks.map TaskRoleRequirements.taskRequirementId := by
    have hfst := congrArg (List.map Prod.fst) hparts
    rwa [List.map_map, List.map_map] at hfst
  refine ⟨_, validateRequest_eq_ok.mpr ⟨?_, rfl, ?_, ?_, htasks', at', ?_, ?_⟩, ?_⟩
  · rw [MatchingRequest.identities, ← h.revision, ← h.digest, ← h.tenant, ← h.domain, ← h.purpose]
    exact hid
  · rw [← hstep.length_eq]
    exact hlen
  · rw [hids]
    exact hnodup
  · rw [← h.time]
    exact hat
  · rw [semantic_eq, hparts, ← h.revision, ← h.digest, ← h.tenant, ← h.domain, ← h.purpose,
      ← semantic_eq]
    exact hsize
  · rw [orderedRequirements_eq, hparts, ← orderedRequirements_eq]

/-- The part of `match` after the snapshot is accepted. -/
def decideRequirements (s : CatalogSnapshot) (requirements : List RoleRequirement) :
    Except String MatchingResult :=
  if maxCandidatesPerRequirement < s.definitions.length then .error "CANDIDATE_LIMIT_EXCEEDED"
  else do
    validateCandidateEvaluationCount (requirements.length * s.definitions.length)
    let decisions ← requirements.mapM (matchOne s)
    .ok ⟨s.snapshotId, decisions, 0, 0, 0, 0⟩

/-- `match` on a valid request. -/
theorem matchRoles_eq (provider : SnapshotRequest → Except String CatalogSnapshot)
    {r : MatchingRequest} {tasks : List TaskRoleRequirements} (hr : validateRequest r = .ok tasks) :
    matchRoles provider r = (do
      let s ← provider r.toSnapshotRequest
      validateSnapshot s r
      decideRequirements s (orderedRequirements tasks)) := by
  rw [matchRoles, hr]
  rfl

/-- Decisions fail by a count limit only. -/
theorem decideRequirements_error {s : CatalogSnapshot} {requirements : List RoleRequirement}
    {code : String} (h : decideRequirements s requirements = .error code) :
    code = "CANDIDATE_LIMIT_EXCEEDED" ∨ code = "EVALUATION_LIMIT_EXCEEDED" := by
  rw [decideRequirements, validateCandidateEvaluationCount] at h
  split at h
  · cases h
    exact .inl rfl
  · split at h
    · cases h
      exact .inr rfl
    · have hall : ∃ ds, requirements.mapM (matchOne s) = .ok ds := by
        have hstep : ∀ r, ∃ d, matchOne s r = .ok d := fun r =>
          (matchOne_selects s r).imp fun _ hd => hd.1
        choose f hf using hstep
        refine ⟨requirements.map f, mapM_eq_ok.mpr ?_⟩
        rw [List.forall₂_map_right_iff, List.forall₂_same]
        exact fun r _ => hf r
      obtain ⟨ds, hds⟩ := hall
      rw [hds] at h
      cases h

/-- Decisions come in the order of the requirements, each selecting the least
definition. -/
theorem decideRequirements_ok {s : CatalogSnapshot} {requirements : List RoleRequirement}
    {result : MatchingResult} (h : decideRequirements s requirements = .ok result) :
    List.Forall₂ (Selects s) requirements result.decisions := by
  rw [decideRequirements, ite_error_eq_ok'] at h
  obtain ⟨⟨⟩, -, h⟩ := bind_eq_ok.mp h.2
  obtain ⟨ds, hds, h⟩ := bind_eq_ok.mp h
  cases h
  refine (mapM_eq_ok.mp hds).imp fun r d hd => ?_
  obtain ⟨d', hd', hselects⟩ := matchOne_selects s r
  rw [hd] at hd'
  cases hd'
  exact hselects

/-- **The order of a valid request** makes no difference to the result. -/
theorem matchRoles_permuted {r r' : MatchingRequest} {tasks : List TaskRoleRequirements}
    (h : PermutedRequest r r') (hr : validateRequest r = .ok tasks)
    (provider : SnapshotRequest → Except String CatalogSnapshot) :
    matchRoles provider r' = matchRoles provider r := by
  obtain ⟨tasks', hr', hordered⟩ := validateRequest_permuted h hr
  have hquery : r'.toSnapshotRequest = r.toSnapshotRequest := by
    rw [MatchingRequest.toSnapshotRequest, MatchingRequest.toSnapshotRequest, h.revision, h.digest,
      h.tenant, h.domain, h.purpose, h.time]
  have hsnapshot : ∀ s, validateSnapshot s r' = validateSnapshot s r := by
    intro s
    rw [validateSnapshot, validateSnapshot, h.revision, h.digest, h.tenant, h.domain, h.purpose,
      h.time]
  rw [matchRoles_eq provider hr, matchRoles_eq provider hr', hquery, hordered]
  refine bind_congr_ok fun s _ => ?_
  rw [hsnapshot]

end Matching

end Definition
end AgentPlatform
