/-
AgentPlatform/Placement/Acceptance.lean

Whether an approved plan can be placed.

The planner allows task identifiers of two hundred characters and puts a prefix of
ninety-eight in front of them; the matcher and the placement allow two hundred for
the whole. And the matcher asks for distinct requirement identifiers within a
task, the placement within the plan. `placement_accepts` says exactly which plans
and which matches are affected.
-/
import AgentPlatform.Definition.Selection
import AgentPlatform.Placement.Requirement
import AgentPlatform.Planning.Approval

namespace AgentPlatform
namespace Placement

open Py
open Definition (RoleMatchDecision TaskRoleRequirements RoleRequirement MatchingRequest MatchingResult
  CatalogSnapshot SnapshotRequest checkMatchIdentifier matchOne matchRoles validateRequest
  validateSnapshot)
open Planning (CanonicalWorkflowRevision PlanningState TaskRequirement)

/-! ### Identifiers -/

theorem isIdentifier_iff {s : String} :
    Definition.isIdentifier s = true ↔ ∃ c cs, s.toList = c :: cs ∧ c.isAlphanum = true ∧
      (∀ d ∈ cs, Definition.isIdentifierChar d = true) ∧ s.length ≤ 200 := by
  rw [Definition.isIdentifier, ← String.length_toList]
  rcases s.toList with _ | ⟨c, cs⟩
  · simp
  · simp only [Bool.and_eq_true, List.all_eq_true, decide_eq_true_eq, List.cons.injEq,
      List.length_cons]
    constructor
    · rintro ⟨⟨hc, hcs⟩, hlen⟩
      exact ⟨c, cs, ⟨rfl, rfl⟩, hc, hcs, by omega⟩
    · rintro ⟨_, _, ⟨rfl, rfl⟩, hc, hcs, hlen⟩
      exact ⟨⟨hc, hcs⟩, by omega⟩

/-- The placement accepts what the matcher accepts. -/
theorem isIdentifier_of_definition {s : String} (h : Definition.isIdentifier s = true) :
    isIdentifier s = true := by
  have hchar : ∀ d, Definition.isIdentifierChar d = true → isIdentifierChar d = true := by
    intro d hd
    simp only [Definition.isIdentifierChar, isIdentifierChar, Bool.or_eq_true, List.contains_iff_mem] at hd ⊢
    refine hd.imp_right fun hmem => ?_
    have hsub : ∀ x ∈ "._:/-".toList, x ∈ "._:/+-".toList := by decide
    exact hsub d hmem
  obtain ⟨c, cs, hs, hc, hcs, hlen⟩ := isIdentifier_iff.mp h
  rw [← String.length_toList, hs, List.length_cons] at hlen
  rw [isIdentifier, hs]
  simp only [Bool.and_eq_true, List.all_eq_true, decide_eq_true_eq]
  exact ⟨⟨hc, fun d hd => hchar d (hcs d hd)⟩, by omega⟩

theorem isIdentifier_of_planning {s : String} (h : Planning.isIdentifier s = true) :
    Definition.isIdentifier s = true := by
  have hlower : ∀ d, Planning.isLowerOrDigit d = true → d.isAlphanum = true := by
    intro d hd
    simp only [Planning.isLowerOrDigit, Bool.or_eq_true, Bool.and_eq_true, decide_eq_true_eq] at hd
    simp only [Char.isAlphanum, Char.isAlpha, Char.isLower, Char.isDigit, Bool.or_eq_true,
      Bool.and_eq_true, decide_eq_true_eq]
    rcases hd with hd | hd
    · exact .inl (.inr hd)
    · exact .inr hd
  obtain ⟨c, cs, hs, hc, hcs, hlen⟩ := Planning.isIdentifier_iff.mp h
  refine isIdentifier_iff.mpr ⟨c, cs, hs, hlower c hc, fun d hd => ?_, ?_⟩
  · rw [Definition.isIdentifierChar, Bool.or_eq_true]
    rcases hcs d hd with hd | hd
    · exact .inl (hlower d hd)
    · have hsub : ∀ x ∈ "._:-".toList, "._:/-".toList.contains x = true := by decide
      exact .inr (hsub d hd)
  · rw [← String.length_toList, hs, List.length_cons]
    omega

/-- An identifier followed by more of its characters. -/
theorem isIdentifier_append {a b : String} (ha : Definition.isIdentifier a = true)
    (hb : ∀ d ∈ b.toList, Definition.isIdentifierChar d = true) :
    Definition.isIdentifier (a ++ b) = true ↔ (a ++ b).length ≤ 200 := by
  obtain ⟨c, cs, hs, hc, hcs, -⟩ := isIdentifier_iff.mp ha
  constructor
  · intro h
    obtain ⟨-, -, -, -, -, hlen⟩ := isIdentifier_iff.mp h
    exact hlen
  · intro hlen
    refine isIdentifier_iff.mpr ⟨c, cs ++ b.toList, ?_, hc, ?_, hlen⟩
    · rw [String.toList_append, hs, List.cons_append]
    · intro d hd
      rcases List.mem_append.mp hd with hd | hd
      · exact hcs d hd
      · exact hb d hd

theorem isIdentifierChar_of_isIdentifier {s : String} (h : Definition.isIdentifier s = true) :
    ∀ d ∈ s.toList, Definition.isIdentifierChar d = true := by
  obtain ⟨c, cs, hs, hc, hcs, -⟩ := isIdentifier_iff.mp h
  rw [hs, List.forall_mem_cons]
  exact ⟨by rw [Definition.isIdentifierChar, hc, Bool.true_or], hcs⟩

section Identifiers

variable [Whitespace]

/-- What the matcher accepts, of texts in normal form. -/
theorem checkMatchIdentifier_iff {x : String} (hx : nfc x = x) :
    checkMatchIdentifier x = .ok () ↔ Definition.isIdentifier x = true := by
  constructor
  · intro h
    obtain ⟨y, hy, -⟩ := bind_eq_ok.mp h
    rw [Definition.matchIdentifier, hx] at hy
    simp only [ite_error_eq_ok', not_not] at hy
    exact hy.2.1
  · exact Definition.checkMatchIdentifier_of_isIdentifier

/-- What the matcher accepts, the placement accepts, and with the same value. -/
theorem identifier_of_check {x : String} (h : checkMatchIdentifier x = .ok ()) :
    identifier x = .ok (nfc x) := by
  obtain ⟨y, hy, -⟩ := bind_eq_ok.mp h
  rw [Definition.matchIdentifier] at hy
  simp only [ite_error_eq_ok', not_not] at hy
  obtain ⟨hlen, hid, -⟩ := hy
  rw [identifier]
  show (if identifierLimit < (nfc x).length then _ else if ¬ isIdentifier (nfc x) = true then _
    else Except.ok (nfc x)) = _
  rw [if_neg (show ¬ identifierLimit < (nfc x).length from hlen),
    if_neg (not_not.mpr (isIdentifier_of_definition hid))]

theorem identifier_of_isIdentifier {x : String} (h : Definition.isIdentifier x = true) :
    identifier x = .ok x := by
  have hnfc : nfc x = x := Unicodedata.nfc_ascii x (Definition.isIdentifier_ascii h)
  have := identifier_of_check (Definition.checkMatchIdentifier_of_isIdentifier h)
  rwa [hnfc] at this

/-! ### The identifiers of a plan -/

/-- The identifiers of a revision that the matcher and the placement look at. -/
def revisionIdentities (rev : CanonicalWorkflowRevision) : List String :=
  [rev.canonicalWorkflowRevisionId, rev.tenantId.value, rev.securityDomain.value] ++
    rev.tasks.map TaskRequirement.taskRequirementId

/-- Neither the matcher nor the placement rejects an identifier of the revision. -/
def IdentifiersAccepted (rev : CanonicalWorkflowRevision) : Prop :=
  ∀ x ∈ revisionIdentities rev, checkMatchIdentifier x = .ok () ∧ (identifier x).isOk = true

omit [Whitespace] in
/-- Hexadecimal digits are characters of identifiers. -/
theorem isIdentifierChar_of_hex {s : String} (h : isHex64 s = true) :
    (∀ d ∈ s.toList, Definition.isIdentifierChar d = true) ∧ s.length = 64 := by
  simp only [isHex64_eq, Bool.and_eq_true, List.all_eq_true, beq_iff_eq] at h
  refine ⟨fun d hd => ?_, by rw [← String.length_toList, h.1]⟩
  have hdigits : ∀ d ∈ ['0', '1', '2', '3', '4', '5', '6', '7', '8', '9', 'a', 'b', 'c', 'd', 'e',
    'f'], Definition.isIdentifierChar d = true := by decide
  exact hdigits d (by simpa [isHexDigit] using h.2 d hd)

omit [Whitespace] in
theorem isIdentifier_revisionId (rev : CanonicalWorkflowRevision) :
    Definition.isIdentifier rev.canonicalWorkflowRevisionId = true := by
  obtain ⟨hchars, hlen⟩ := isIdentifierChar_of_hex rev.digest_hex
  have hprefix : "canonical-workflow-revision:".length = 28 := by decide +kernel
  rw [rev.id_eq, isIdentifier_append (by decide +kernel) hchars, String.length_append, hlen, hprefix]
  decide

/-- What stands in front of a task's own identifier. -/
def taskPrefix (digest : String) : String := "task-requirement:" ++ ("intent-revision:" ++ digest) ++ ":"

omit [Whitespace] in
theorem taskPrefix_spec {digest : String} (h : isHex64 digest = true) :
    Definition.isIdentifier (taskPrefix digest) = true ∧ (taskPrefix digest).length = 98 := by
  obtain ⟨hchars, hlen⟩ := isIdentifierChar_of_hex h
  have h₁ : "task-requirement:".length = 17 := by decide +kernel
  have h₂ : "intent-revision:".length = 16 := by decide +kernel
  have h₃ : ":".length = 1 := by decide +kernel
  have hthree : ∀ {a b c : String}, a.length = 17 → b.length = 16 → c.length = 1 →
      (a ++ (b ++ digest)).length = 97 ∧ (a ++ (b ++ digest) ++ c).length = 98 := by
    intro a b c ha hb hc
    simp only [String.length_append, ha, hb, hc, hlen, and_self]
  obtain ⟨hlength', hlength⟩ := hthree h₁ h₂ h₃
  have hbase : Definition.isIdentifier ("task-requirement:" ++ ("intent-revision:" ++ digest)) = true := by
    have hid := isIdentifier_append (a := "task-requirement:" ++ "intent-revision:")
      (by decide +kernel) hchars
    rw [String.append_assoc] at hid
    exact hid.mpr (le_trans (le_of_eq hlength') (by decide))
  refine ⟨?_, hlength⟩
  exact (isIdentifier_append hbase (by decide +kernel)).mpr (le_trans (le_of_eq hlength) (by decide))

omit [Whitespace] in
theorem taskRequirementId_eq (rev : CanonicalWorkflowRevision) {t : TaskRequirement}
    (ht : t ∈ rev.tasks) :
    t.taskRequirementId = taskPrefix rev.intentRevision.canonicalDigest ++ t.futureTaskId := by
  have h := rev.tasks_ok.requirementId t ht
  rw [rev.intentRevision.id_eq] at h
  exact h

omit [Whitespace] in
theorem taskRequirementId_chars (rev : CanonicalWorkflowRevision) {t : TaskRequirement}
    (ht : t ∈ rev.tasks) : ∀ d ∈ t.taskRequirementId.toList, Definition.isIdentifierChar d = true := by
  intro d hd
  rw [taskRequirementId_eq rev ht, String.toList_append, List.mem_append] at hd
  rcases hd with hd | hd
  · exact isIdentifierChar_of_isIdentifier (taskPrefix_spec rev.intentRevision.digest_hex).1 d hd
  · exact isIdentifierChar_of_isIdentifier (isIdentifier_of_planning (rev.tasks_ok.id t ht)) d hd

omit [Whitespace] in
/-- A task's identifier fits exactly if its own part has at most 102 characters. -/
theorem isIdentifier_taskId (rev : CanonicalWorkflowRevision) {t : TaskRequirement}
    (ht : t ∈ rev.tasks) :
    Definition.isIdentifier t.taskRequirementId = true ↔ t.futureTaskId.length ≤ 102 := by
  have hid := isIdentifier_of_planning (rev.tasks_ok.id t ht)
  rw [taskRequirementId_eq rev ht,
    isIdentifier_append (taskPrefix_spec rev.intentRevision.digest_hex).1 (isIdentifierChar_of_isIdentifier hid),
    String.length_append, (taskPrefix_spec rev.intentRevision.digest_hex).2]
  omega

theorem nfc_taskId (rev : CanonicalWorkflowRevision) {t : TaskRequirement} (ht : t ∈ rev.tasks) :
    nfc t.taskRequirementId = t.taskRequirementId :=
  Unicodedata.nfc_ascii _ fun d hd =>
    Definition.isIdentifierChar_ascii (taskRequirementId_chars rev ht d hd)

/-- **Identifiers are accepted** exactly where no task identifier is longer than 102
characters. -/
theorem identifiersAccepted_iff (rev : CanonicalWorkflowRevision) :
    IdentifiersAccepted rev ↔ ∀ t ∈ rev.tasks, t.futureTaskId.length ≤ 102 := by
  have haccept : ∀ {x : String}, Definition.isIdentifier x = true →
      checkMatchIdentifier x = .ok () ∧ (identifier x).isOk = true := by
    intro x hx
    rw [identifier_of_isIdentifier hx]
    exact ⟨Definition.checkMatchIdentifier_of_isIdentifier hx, rfl⟩
  constructor
  · intro h t ht
    have hx := (h t.taskRequirementId
      (List.mem_append_right _ (List.mem_map_of_mem ht))).1
    rw [checkMatchIdentifier_iff (nfc_taskId rev ht)] at hx
    exact (isIdentifier_taskId rev ht).mp hx
  · intro h x hx
    refine haccept ?_
    rcases List.mem_append.mp hx with hx | hx
    · simp only [List.mem_cons, List.not_mem_nil, or_false] at hx
      rcases hx with rfl | rfl | rfl
      · exact isIdentifier_revisionId rev
      · exact isIdentifier_of_planning rev.tenantId.valid
      · exact isIdentifier_of_planning rev.securityDomain.valid
    · obtain ⟨t, ht, rfl⟩ := List.mem_map.mp hx
      exact (isIdentifier_taskId rev ht).mpr (h t ht)

end Identifiers

/-! ### The loop over the bindings -/

/-- `DUPLICATE_MATCH_DECISION`. -/
def duplicate : String := "DUPLICATE_MATCH_DECISION"

section Bindings

variable [Whitespace]

/-- A binding that passes every check of the loop that does not depend on the ones
before it. -/
structure GoodBinding (ids : List String) (b : MatchedDefinitionBinding) : Prop where
  task : identifier b.taskRequirementId = .ok b.taskRequirementId
  known : b.taskRequirementId ∈ ids
  matched : b.matchDecision.outcome = .matched
  complete : b.matchDecision.missingRequirements = []
  advisory : b.matchDecision.advisoryOnly = true
  unauthorized : b.matchDecision.executionAuthorized = false
  requirement : (identifier b.matchDecision.requirementId).isOk = true
  selected : ∃ definitionId versionId digest,
    b.matchDecision.selectedDefinitionId = some definitionId ∧
    b.matchDecision.selectedVersionId = some versionId ∧
    b.matchDecision.selectedDefinitionDigest = some digest ∧
    (identifier definitionId).isOk = true ∧ (identifier versionId).isOk = true ∧
    isHex64 digest = true

/-- One binding of its own is refused only as a duplicate or at the limit. -/
theorem bindOne_good {ids : List String} {b : MatchedDefinitionBinding} (h : GoodBinding ids b)
    (seen : List String) (counts : String → Nat) :
    (b.matchDecision.requirementId ∈ seen → bindOne ids seen counts b = .error duplicate) ∧
      (b.matchDecision.requirementId ∉ seen → counts b.taskRequirementId + 1 ≤ maxRequirementsPerTask →
        ∃ c, bindOne ids seen counts b = .ok c ∧ (ofLex c).1 = b.taskRequirementId) := by
  obtain ⟨definitionId, versionId, digest, hd, hv, hg, hdok, hvok, hhex⟩ := h.selected
  obtain ⟨requirementId, hr⟩ := exists_of_isOk h.requirement
  obtain ⟨definitionId', hd'⟩ := exists_of_isOk hdok
  obtain ⟨versionId', hv'⟩ := exists_of_isOk hvok
  constructor
  · intro hseen
    rw [bindOne, h.task]
    show (if b.taskRequirementId ∉ ids then Except.error _ else if _ ∈ seen then Except.error _ else _)
      = _
    rw [if_neg (not_not.mpr h.known), if_pos hseen]
    rfl
  · intro hseen hcount
    refine ⟨toLex (b.taskRequirementId, toLex (requirementId, triple definitionId' versionId' digest)),
      ?_, rfl⟩
    rw [bindOne, h.task]
    show (if b.taskRequirementId ∉ ids then Except.error _ else if _ ∈ seen then Except.error _ else
      if _ < counts b.taskRequirementId + 1 then Except.error _ else _) = _
    rw [if_neg (not_not.mpr h.known), if_neg hseen, if_neg (Nat.not_lt.mpr hcount)]
    simp only [h.matched, hd, hv, hg, h.complete, h.advisory, h.unauthorized, hhex, hr, hd', hv']
    rfl

/-- **The loop over good bindings** raises exactly for a requirement that is met
twice. -/
theorem bindAll_good {ids : List String} {bs : List MatchedDefinitionBinding}
    (h : ∀ b ∈ bs, GoodBinding ids b) (seen : List String) (counts : String → Nat)
    (hcounts : ∀ id, counts id + bs.countP (·.taskRequirementId = id) ≤ maxRequirementsPerTask) :
    let requirements := bs.map (·.matchDecision.requirementId)
    ((requirements.Nodup ∧ ∀ x ∈ requirements, x ∉ seen) → (bindAll ids seen counts bs).isOk = true) ∧
      (¬ (requirements.Nodup ∧ ∀ x ∈ requirements, x ∉ seen) →
        bindAll ids seen counts bs = .error duplicate) := by
  induction bs generalizing seen counts with
  | nil =>
    refine ⟨fun _ => rfl, fun hnot => absurd ⟨List.nodup_nil, ?_⟩ hnot⟩
    simp
  | cons b bs ih =>
    rw [List.forall_mem_cons] at h
    obtain ⟨hdup, hok⟩ := bindOne_good h.1 seen counts
    by_cases hseen : b.matchDecision.requirementId ∈ seen
    · refine ⟨fun hfresh => absurd hseen (hfresh.2 _ List.mem_cons_self), fun _ => ?_⟩
      rw [bindAll, hdup hseen]
      rfl
    · have hcount := hcounts b.taskRequirementId
      rw [List.countP_cons_of_pos (by simp)] at hcount
      obtain ⟨c, hc, htask⟩ := hok hseen (by omega)
      have hcounts' : ∀ id, Function.update counts b.taskRequirementId
          (counts b.taskRequirementId + 1) id + bs.countP (·.taskRequirementId = id)
          ≤ maxRequirementsPerTask := by
        intro id
        by_cases hid : id = b.taskRequirementId
        · rw [hid, Function.update_self]
          omega
        · have hle := hcounts id
          rw [List.countP_cons_of_neg (by simpa using Ne.symm hid)] at hle
          rw [Function.update_of_ne hid]
          exact hle
      obtain ⟨hgo, hstop⟩ := ih h.2 (b.matchDecision.requirementId :: seen) _ hcounts'
      have hiff : ((b :: bs).map (·.matchDecision.requirementId)).Nodup ∧
          (∀ x ∈ (b :: bs).map (·.matchDecision.requirementId), x ∉ seen) ↔
          (bs.map (·.matchDecision.requirementId)).Nodup ∧
          ∀ x ∈ bs.map (·.matchDecision.requirementId),
            x ∉ b.matchDecision.requirementId :: seen := by
        rw [List.map_cons, List.nodup_cons, List.forall_mem_cons]
        simp only [List.mem_cons, not_or]
        constructor
        · rintro ⟨⟨hnot, hnodup⟩, -, hall⟩
          exact ⟨hnodup, fun x hx => ⟨fun heq => hnot (heq ▸ hx), hall x hx⟩⟩
        · rintro ⟨hnodup, hall⟩
          exact ⟨⟨fun hmem => (hall _ hmem).1 rfl, hnodup⟩, hseen, fun x hx => (hall x hx).2⟩
      have hbind : bindAll ids seen counts (b :: bs) =
          bindAll ids (b.matchDecision.requirementId :: seen)
            (Function.update counts b.taskRequirementId (counts b.taskRequirementId + 1)) bs >>=
          fun r => .ok (c :: r.1, r.2) := by
        rw [bindAll, hc, ← htask]
        rfl
      dsimp only at hgo hstop ⊢
      rw [hiff, hbind]
      constructor
      · intro hfresh
        obtain ⟨r, hr⟩ := exists_of_isOk (hgo hfresh)
        rw [hr]
        rfl
      · intro hnot
        rw [hstop hnot]
        rfl

/-! ### Bindings that come from a match -/

/-- The bindings are matches of the plan: the request names exactly its tasks, the
matcher answered it from the snapshot, every binding holds the decision for a
requirement of its task, every task has one, and none is listed twice. -/
structure Produced (rev : CanonicalWorkflowRevision)
    (provider : SnapshotRequest → Except String CatalogSnapshot) (r : MatchingRequest)
    (s : CatalogSnapshot) (result : MatchingResult) (bindings : List MatchedDefinitionBinding) :
    Prop where
  names : (r.tasks.map TaskRoleRequirements.taskRequirementId).Perm
    (rev.tasks.map TaskRequirement.taskRequirementId)
  answer : provider r.toSnapshotRequest = .ok s
  answered : matchRoles provider r = .ok result
  decided : ∀ b ∈ bindings, b.matchDecision.outcome = .matched ∧ b.matchDecision ∈ result.decisions ∧
    ∃ t ∈ r.tasks, b.taskRequirementId = t.taskRequirementId ∧
      ∃ q ∈ t.requirements, matchOne s q = .ok b.matchDecision
  complete : ∀ t ∈ rev.tasks, ∃ b ∈ bindings, b.taskRequirementId = t.taskRequirementId
  nodup : bindings.Nodup

theorem matchOne_fields {s : CatalogSnapshot} {q : RoleRequirement} {d : RoleMatchDecision}
    (h : matchOne s q = .ok d) : d.advisoryOnly = true ∧ d.executionAuthorized = false ∧
      (d.outcome = .matched → d.missingRequirements = []) := by
  have key : ∀ {outcome selected ties missing reasons}, Definition.matchDecision q s.snapshotId outcome
      selected ties missing reasons = .ok d → d.advisoryOnly = true ∧ d.executionAuthorized = false ∧
        d.outcome = outcome ∧ d.missingRequirements = missing := by
    intro outcome selected ties missing reasons hd
    rw [Definition.matchDecision, ite_error_eq_ok'] at hd
    obtain ⟨⟨⟩, -, hd⟩ := bind_eq_ok.mp hd.2
    cases hd
    exact ⟨rfl, rfl, rfl, rfl⟩
  rw [matchOne] at h
  dsimp only at h
  split at h
  · obtain ⟨h₁, h₂, h₃, -⟩ := key h
    refine ⟨h₁, h₂, fun hm => ?_⟩
    rw [h₃] at hm
    cases hm
  · obtain ⟨h₁, h₂, -, h₄⟩ := key h
    exact ⟨h₁, h₂, fun _ => h₄⟩

theorem checked_of_validateSnapshot {s : CatalogSnapshot} {r : MatchingRequest}
    (h : validateSnapshot s r = .ok ()) :
    ∀ e ∈ s.definitions, e.version.validate = .ok () := by
  rw [validateSnapshot] at h
  dsimp only at h
  simp only [ite_error_eq_ok', not_or, not_not] at h
  obtain ⟨-, -, -, -, ⟨hsorted, -⟩, h⟩ := h
  obtain ⟨⟨⟩, hall, -⟩ := bind_eq_ok.mp h
  rw [hsorted] at hall
  intro e he
  obtain ⟨⟨⟩, hvalid, -⟩ := bind_eq_ok.mp (forM_eq_ok.mp hall e he)
  exact hvalid

/-- What a checked version offers to a binding. -/
theorem version_fields {v : Definition.DefinitionVersion} (h : v.validate = .ok ()) :
    Definition.isIdentifier v.definitionId = true ∧ Definition.isIdentifier v.versionId = true ∧
      isHex64 v.definitionDigest = true := by
  rw [Definition.DefinitionVersion.validate, ite_error_eq_ok'] at h
  obtain ⟨⟨⟩, hid, h⟩ := bind_eq_ok.mp h.2
  obtain ⟨⟨⟩, hversion, h⟩ := bind_eq_ok.mp h
  refine ⟨Definition.checkIdentifier_eq_ok.mp hid, Definition.checkIdentifier_eq_ok.mp hversion, ?_⟩
  iterate 8 obtain ⟨⟨⟩, -, h⟩ := bind_eq_ok.mp h
  obtain ⟨createdAt, -, h⟩ := bind_eq_ok.mp h
  simp only [ite_error_eq_ok', ne_eq, not_not] at h
  rw [h.2.1]
  exact hexdigest_isHex64 _

section Produced

variable {rev : CanonicalWorkflowRevision} {r : MatchingRequest} {s : CatalogSnapshot}
  {provider : SnapshotRequest → Except String CatalogSnapshot} {result : MatchingResult}
  {bindings : List MatchedDefinitionBinding}

/-- What the matcher checked before it answered. -/
theorem Produced.checked (h : Produced rev provider r s result bindings) :
    (∀ t ∈ r.tasks, Definition.validateTask t = .ok ()) ∧ r.tasks.length ≤ 32 ∧
      (r.tasks.map TaskRoleRequirements.taskRequirementId).Nodup ∧ validateSnapshot s r = .ok () := by
  obtain ⟨tasks, htasks, hmatch⟩ := bind_eq_ok.mp h.answered
  obtain ⟨s', hs', hmatch⟩ := bind_eq_ok.mp hmatch
  rw [h.answer] at hs'
  cases hs'
  obtain ⟨⟨⟩, hsnapshot, -⟩ := bind_eq_ok.mp hmatch
  obtain ⟨-, rfl, hlen, hnodup, hvalid, -⟩ := Definition.validateRequest_eq_ok.mp htasks
  have hperm := perm_sortedBy TaskRoleRequirements.taskRequirementId r.tasks
  refine ⟨fun t ht => hvalid t (mem_sortedBy.mpr ht), ?_, (hperm.map _).nodup_iff.mp hnodup, hsnapshot⟩
  rw [← hperm.length_eq]
  exact hlen

/-- The tasks of an answered request fit. -/
theorem Produced.fits (h : Produced rev provider r s result bindings) :
    ∀ t ∈ rev.tasks, Definition.isIdentifier t.taskRequirementId = true := by
  intro t ht
  have hmem : t.taskRequirementId ∈ r.tasks.map TaskRoleRequirements.taskRequirementId :=
    h.names.mem_iff.mpr (List.mem_map_of_mem ht)
  obtain ⟨t', ht', heq⟩ := List.mem_map.mp hmem
  have hcheck := (Definition.validateTask_eq_ok.mp (h.checked.1 t' ht')).1
  rw [heq, checkMatchIdentifier_iff (nfc_taskId rev ht)] at hcheck
  exact hcheck

/-- Every binding passes the checks of the loop. -/
theorem Produced.good (h : Produced rev provider r s result bindings) :
    ∀ b ∈ bindings, GoodBinding (rev.tasks.map TaskRequirement.taskRequirementId) b := by
  intro b hb
  obtain ⟨hmatched, -, t, ht, htask, q, hq, hone⟩ := h.decided b hb
  obtain ⟨hadvisory, hunauthorized, hmissing⟩ := matchOne_fields hone
  obtain ⟨d, hd, hselects⟩ := Definition.matchOne_selects s q
  rw [hone] at hd
  cases hd
  obtain ⟨e, he, -, hid, hversion, hdigest, -⟩ := hselects.selected hmatched
  obtain ⟨hid', hversion', hhex⟩ := version_fields (checked_of_validateSnapshot h.checked.2.2.2 e he)
  have hknown : b.taskRequirementId ∈ rev.tasks.map TaskRequirement.taskRequirementId := by
    rw [htask]
    exact h.names.mem_iff.mp (List.mem_map_of_mem ht)
  have hrequirement : (identifier b.matchDecision.requirementId).isOk = true := by
    have hvalid := (Definition.validateTask_eq_ok.mp (h.checked.1 t ht)).2.2.2 q hq
    obtain ⟨⟨⟩, hcheck, -⟩ := bind_eq_ok.mp hvalid
    rw [hselects.requirementId, identifier_of_check hcheck]
    rfl
  refine ⟨?_, hknown, hmatched, hmissing hmatched, hadvisory, hunauthorized, hrequirement, ?_⟩
  · obtain ⟨t', ht', heq⟩ := List.mem_map.mp hknown
    rw [← heq]
    exact identifier_of_isIdentifier (h.fits t' ht')
  · refine ⟨_, _, _, hid, hversion, hdigest, ?_, ?_, hhex⟩
    · rw [identifier_of_isIdentifier hid']
      rfl
    · rw [identifier_of_isIdentifier hversion']
      rfl

theorem Produced.eq_of_ids (h : Produced rev provider r s result bindings)
    {b b' : MatchedDefinitionBinding} (hb : b ∈ bindings) (hb' : b' ∈ bindings)
    (htask : b.taskRequirementId = b'.taskRequirementId)
    (hreq : b.matchDecision.requirementId = b'.matchDecision.requirementId) : b = b' := by
  obtain ⟨-, -, t, ht, hbt, q, hq, hone⟩ := h.decided b hb
  obtain ⟨-, -, t', ht', hbt', q', hq', hone'⟩ := h.decided b' hb'
  have htt : t = t' := List.inj_on_of_nodup_map h.checked.2.2.1 ht ht'
    (by rw [← hbt, ← hbt', htask])
  subst htt
  have hid : ∀ {q b}, matchOne s q = .ok b → b.requirementId = q.requirementId := by
    intro q b hb
    obtain ⟨d, hd, hselects⟩ := Definition.matchOne_selects s q
    rw [hb] at hd
    cases hd
    exact hselects.requirementId
  have hqq : q = q' := by
    refine List.inj_on_of_nodup_map (Definition.validateTask_eq_ok.mp (h.checked.1 t ht)).2.2.1 hq hq' ?_
    rw [← hid hone, ← hid hone', hreq]
  subst hqq
  rw [hone] at hone'
  obtain ⟨taskId, decision⟩ := b
  obtain ⟨taskId', decision'⟩ := b'
  exact congrArg₂ MatchedDefinitionBinding.mk htask (Except.ok.inj hone')

def MatchedDefinitionBinding.ids (b : MatchedDefinitionBinding) : String × String :=
  (b.taskRequirementId, b.matchDecision.requirementId)

theorem Produced.mem_task (h : Produced rev provider r s result bindings)
    {b : MatchedDefinitionBinding} (hb : b ∈ bindings) :
    ∃ t ∈ r.tasks, b.taskRequirementId = t.taskRequirementId ∧
      b.matchDecision.requirementId ∈ t.requirements.map RoleRequirement.requirementId := by
  obtain ⟨-, -, t, ht, hbt, q, hq, hone⟩ := h.decided b hb
  obtain ⟨d, hd, hselects⟩ := Definition.matchOne_selects s q
  rw [hone] at hd
  cases hd
  exact ⟨t, ht, hbt, hselects.requirementId ▸ List.mem_map_of_mem hq⟩

theorem Produced.nodup_ids (h : Produced rev provider r s result bindings) :
    (bindings.map MatchedDefinitionBinding.ids).Nodup := by
  refine h.nodup.map_on fun b hb b' hb' heq => ?_
  exact h.eq_of_ids hb hb' (congrArg Prod.fst heq) (congrArg Prod.snd heq)

/-- No task is bound more often than it has requirements. -/
theorem Produced.count_le (h : Produced rev provider r s result bindings) (id : String) :
    bindings.countP (·.taskRequirementId = id) ≤ maxRequirementsPerTask := by
  rw [List.countP_eq_length_filter]
  rcases hfilter : bindings.filter (·.taskRequirementId = id) with - | ⟨b, bs⟩
  · rw [hfilter]
    exact Nat.zero_le _
  · rw [hfilter]
    have hmem : ∀ c ∈ b :: bs, c ∈ bindings ∧ c.taskRequirementId = id := by
      intro c hc
      rw [← hfilter, List.mem_filter] at hc
      exact ⟨hc.1, of_decide_eq_true hc.2⟩
    obtain ⟨t, ht, hbt, -⟩ := h.mem_task (hmem b List.mem_cons_self).1
    have hid : t.taskRequirementId = id := by rw [← hbt, (hmem b List.mem_cons_self).2]
    have hnodup : ((b :: bs).map MatchedDefinitionBinding.ids).Nodup := by
      rw [← hfilter]
      exact h.nodup_ids.sublist (List.filter_sublist.map _)
    have hsub : (b :: bs).map MatchedDefinitionBinding.ids ⊆
        t.requirements.map fun q => (id, q.requirementId) := by
      intro p hp
      obtain ⟨c, hc, rfl⟩ := List.mem_map.mp hp
      obtain ⟨hcb, hcid⟩ := hmem c hc
      obtain ⟨t', ht', hct', hreq⟩ := h.mem_task hcb
      have htt : t' = t := List.inj_on_of_nodup_map h.checked.2.2.1 ht' ht
        (by rw [← hct', hcid, hid])
      rw [htt] at hreq
      obtain ⟨q, hq, hqid⟩ := List.mem_map.mp hreq
      exact List.mem_map.mpr ⟨q, hq, Prod.ext hcid.symm hqid⟩
    have hle := (List.subperm_of_subset hnodup hsub).length_le
    rw [List.length_map, List.length_map] at hle
    exact hle.trans (Definition.validateTask_eq_ok.mp (h.checked.1 t ht)).2.1

/-- There are no more bindings than requirements. -/
theorem Produced.length_le (h : Produced rev provider r s result bindings) :
    bindings.length ≤ maxBindings := by
  have hsub : bindings.map MatchedDefinitionBinding.ids ⊆ r.tasks.flatMap fun t =>
      t.requirements.map fun q => (t.taskRequirementId, q.requirementId) := by
    intro p hp
    obtain ⟨b, hb, rfl⟩ := List.mem_map.mp hp
    obtain ⟨t, ht, hbt, hreq⟩ := h.mem_task hb
    obtain ⟨q, hq, hqid⟩ := List.mem_map.mp hreq
    exact List.mem_flatMap.mpr ⟨t, ht, List.mem_map.mpr ⟨q, hq, Prod.ext hbt.symm hqid⟩⟩
  have hle := (List.subperm_of_subset h.nodup_ids hsub).length_le
  rw [List.length_map, List.length_flatMap] at hle
  have hsum : (r.tasks.map fun t => (t.requirements.map fun q =>
      (t.taskRequirementId, q.requirementId)).length).sum ≤ (r.tasks.map fun t => (t.requirements.map
      fun q => (t.taskRequirementId, q.requirementId)).length).length • 32 := by
    refine List.sum_le_card_nsmul _ _ fun n hn => ?_
    obtain ⟨t, ht, rfl⟩ := List.mem_map.mp hn
    rw [List.length_map]
    exact (Definition.validateTask_eq_ok.mp (h.checked.1 t ht)).2.1
  rw [List.length_map, smul_eq_mul] at hsum
  have hlen := h.checked.2.1
  rw [maxBindings]
  omega

end Produced

/-! ### Plans that were approved -/

/-- What `decide` returns: a revision that is canonical, eligible and has an approval. -/
structure Approved (rev : CanonicalWorkflowRevision) : Prop where
  lifecycle : rev.lifecycle = .canonicalized
  eligible : rev.matchingEligible = true
  approval : rev.approvalId ≠ ""

variable [CharacterTables]

/-- The revision was returned by `decide` of an engine, after any calls. -/
def Decided (rev : CanonicalWorkflowRevision) : Prop :=
  ∃ policy calls c, (((Planning.Engine.new policy).run calls).decide c).1 = .ok (some rev)

theorem canonicalOf_approved {e : Planning.Engine} {c : Planning.Decide}
    {w : Planning.WorkflowCandidate} {d : Planning.ApprovalDecisionRecord}
    (h : e.authorize c = .ok (w, d)) :
    Approved (Planning.canonicalOf w d.approvalId c.predecessor) := by
  refine ⟨rfl, rfl, ?_⟩
  have hid := (Planning.authorize_spec h).2.2.2.2.2.2.2
  show d.approvalId ≠ ""
  intro hempty
  rw [hempty] at hid
  have hlen := congrArg String.length hid
  have hprefix : "planning-approval:".length = 18 := by decide +kernel
  have hzero : "".length = 0 := by decide
  rw [String.length_append, hprefix, hzero] at hlen
  omega

/-- The stored revisions are approved ones. -/
theorem run_approved {e : Planning.Engine}
    (he : ∀ id rev, e.canonical.lookup id = some rev → Approved rev) (calls : List Planning.Call) :
    ∀ id rev, (e.run calls).canonical.lookup id = some rev → Approved rev := by
  induction calls generalizing e with
  | nil => exact he
  | cons call calls ih =>
    refine ih (e := (e.call call).2) ?_
    have h := Planning.call_outcome e call
    generalize e.call call = out at h
    cases h with
    | raised code => exact he
    | validated _ _ r t => exact he
    | requested result w h => exact he
    | replayed c w d h hd => exact he
    | rejected c w d h hd hr => exact he
    | approved c w d h hd ha s hs =>
      intro id rev hlookup
      by_cases hid : id = d.approvalId
      · rw [hid, AList.lookup_insert] at hlookup
        cases hlookup
        exact canonicalOf_approved h
      · rw [AList.lookup_insert_ne hid] at hlookup
        exact he id rev hlookup
    | marked _ _ r s hs => exact he

theorem Decided.approved {rev : CanonicalWorkflowRevision} (h : Decided rev) : Approved rev := by
  obtain ⟨policy, calls, c, hdecide⟩ := h
  have hstored := run_approved (e := Planning.Engine.new policy) (by simp [Planning.Engine.new]) calls
  rw [Planning.Engine.decide] at hdecide
  split at hdecide
  · cases hdecide
  · rename_i w d hauth
    split at hdecide
    · -- a replayed decision returns the stored revision
      split at hdecide
      · cases hdecide
      · exact hstored _ _ (Except.ok.inj hdecide)
    · dsimp only at hdecide
      split at hdecide
      · cases hdecide
      · split at hdecide
        · cases hdecide
          exact canonicalOf_approved hauth
        · cases hdecide
          exact canonicalOf_approved hauth

/-! ### The requirement -/

omit [CharacterTables] in
theorem checkRevision_ok {rev : CanonicalWorkflowRevision} (h : Approved rev) :
    checkRevision rev = .ok (rev.tasks.map TaskRequirement.taskRequirementId) := by
  have hnodup : (rev.tasks.map TaskRequirement.taskRequirementId).Nodup := by
    refine List.Nodup.map_on (fun t ht t' ht' heq => ?_) (List.Nodup.of_map _ rev.tasks_ok.nodup)
    rw [taskRequirementId_eq rev ht, taskRequirementId_eq rev ht'] at heq
    exact List.inj_on_of_nodup_map rev.tasks_ok.nodup ht ht' (Planning.append_left_inj heq)
  have happroved : ¬ (rev.lifecycle ≠ .canonicalized ∨ ¬ rev.matchingEligible = true ∨
      rev.approvalId = "") := by
    rw [h.lifecycle, h.eligible]
    simpa using h.approval
  rw [checkRevision, if_neg happroved]
  refine bind_eq_ok.mpr ⟨_, identifier_of_isIdentifier (isIdentifier_revisionId rev), bind_eq_ok.mpr ⟨_,
    identifier_of_isIdentifier (isIdentifier_of_planning rev.tenantId.valid), bind_eq_ok.mpr ⟨_,
    identifier_of_isIdentifier (isIdentifier_of_planning rev.securityDomain.valid), ?_⟩⟩⟩
  rw [ite_error_eq_ok', ite_error_eq_ok']
  refine ⟨not_not.mpr rev.digest_hex, not_or.mpr ⟨rev.tasks_ok.nonempty, Nat.not_lt.mpr rev.tasks_ok.length_le⟩, ?_⟩
  exact if_neg (not_not.mpr hnodup)

omit [CharacterTables] in
/-- What comes after the loop never complains of a duplicate. -/
theorem assembleRequirement_ne_duplicate (rev : CanonicalWorkflowRevision)
    (bindings : List CanonicalBinding) (capabilities providers permissions : List String) :
    assembleRequirement rev bindings capabilities providers permissions ≠ .error duplicate := by
  have hset : ∀ {code : String} {values : List String}, code ≠ duplicate →
      semanticSet code values ≠ .error duplicate := by
    intro code values hcode
    refine bind_ne_error (mapM_ne_error fun value => ?_) fun items => ?_
    · rw [semanticItem]
      split
      · exact fun h => hcode (Except.error.inj h)
      · split
        · exact fun h => absurd (Except.error.inj h) (by decide)
        · nofun
    · split
      · exact fun h => absurd (Except.error.inj h) (by decide)
      · nofun
  refine bind_ne_error (hset (by decide)) fun c => bind_ne_error (hset (by decide)) fun p =>
    bind_ne_error (hset (by decide)) fun q => ?_
  split
  · exact fun h => absurd (Except.error.inj h) (by decide)
  · refine bind_ne_error ?_ fun _ => nofun
    rw [validateSerializedRequestSize]
    split
    · exact fun h => absurd (Except.error.inj h) (by decide)
    · nofun

end Bindings

namespace Sample

open Planning.Sample
open Planning (IntentCandidate WorkflowCandidate PlanningResult Decide buildCandidate)

/-- The result `validate` returns for a candidate it accepts. -/
def resultOf (c : IntentCandidate) (w : WorkflowCandidate) : PlanningResult :=
  ⟨question, c, some w, ⟨some w.candidateDigest, engine.policyVersion, [], true, .valid⟩⟩

/-- The approval of a result by the reviewer of the question. -/
def approval (c : IntentCandidate) (w : WorkflowCandidate) : Decide :=
  ⟨resultOf c w, Planning.requestOf w, .str "tenant.acme", .str "quality.restricted",
    .str "human.reviewer", some .approve, some ⟨0, some 0⟩, .str "replay.1", .str "approved", none⟩

def record (w : WorkflowCandidate) : Planning.ApprovalDecisionRecord :=
  ⟨"planning-approval:" ++ Planning.digest (Planning.approvalIdentity
      (Planning.requestOf w).approvalRequestId (ident "replay.1")),
    (Planning.requestOf w).approvalRequestId, (Planning.requestOf w).candidateDigest,
    (Planning.requestOf w).policyVersion, ident "human.reviewer", .approve, ⟨0, zero_lt_maxMicros⟩,
    ident "replay.1", (ident "approved").upper⟩

theorem identifier_ident {code value : String} (i : Planning.Identifier) (hi : i.value = value)
    (h : (Planning.identifier code (.str value)).toOption.map (·.value) = some value) :
    Planning.identifier code (.str value) = .ok i := by
  rcases hx : Planning.identifier code (.str value) with code' | j
  · rw [hx] at h
    cases h
  · rw [hx] at h
    have hj : j.value = value := Option.some.inj h
    obtain ⟨jv, jh⟩ := j
    obtain ⟨iv, ih⟩ := i
    subst hi
    subst hj
    rfl

theorem authorize_approval {e : Planning.Engine} {c : IntentCandidate} {w : WorkflowCandidate}
    (hrequests : e.requests.lookup (Planning.requestOf w).approvalRequestId
      = some (Planning.requestOf w))
    (htenant : w.tenantId = question.tenantId) (hdomain : w.securityDomain = question.securityDomain)
    (hpredecessor : w.predecessorRevisionId = none) :
    e.authorize (approval c w) = .ok (w, record w) := by
  refine bind_eq_ok.mpr ⟨w, rfl, bind_eq_ok.mpr ⟨question.tenantId,
    identifier_ident question.tenantId rfl (by decide +kernel), bind_eq_ok.mpr
    ⟨question.securityDomain, identifier_ident question.securityDomain rfl (by decide +kernel), ?_⟩⟩⟩
  rw [ite_error_eq_ok', ite_error_eq_ok', ite_error_eq_ok', ite_error_eq_ok']
  refine ⟨not_not.mpr htenant.symm, not_not.mpr hdomain.symm, not_not.mpr hrequests, ?_, ?_⟩
  · rintro (h | h | h | h) <;> exact h rfl
  · refine bind_eq_ok.mpr ⟨(), if_neg (not_not.mpr hpredecessor), bind_eq_ok.mpr
      ⟨ident "human.reviewer", identifier_ident _ rfl (by decide +kernel), bind_eq_ok.mpr
      ⟨ident "replay.1", identifier_ident _ rfl (by decide +kernel), bind_eq_ok.mpr
      ⟨ident "approved", identifier_ident _ rfl (by decide +kernel), bind_eq_ok.mpr
      ⟨⟨0, zero_lt_maxMicros⟩, rfl, rfl⟩⟩⟩⟩⟩

/-- A plan is validated, its approval is requested, and it is approved. -/
theorem decided_of_build {raw : Json} {c : IntentCandidate} {w : WorkflowCandidate}
    (h : buildCandidate engine.policyVersion question raw generator none = .ok (c, w)) :
    (engine.validate question raw generator none).1 = .ok (resultOf c w) ∧
      ((engine.run [.validate question raw generator none,
        .requestApproval (resultOf c w)]).decide (approval c w)).1
          = .ok (some (Planning.canonicalOf w (record w).approvalId none)) := by
  have hvalidate : engine.validate question raw generator none = (.ok (resultOf c w),
      { engine with results := engine.results.insert w.workflowCandidateId (resultOf c w) }) := by
    rw [Planning.Engine.validate, h]
    rfl
  have hscope : w.tenantId = question.tenantId ∧ w.securityDomain = question.securityDomain ∧
      w.predecessorRevisionId = none := by
    simp only [buildCandidate, attach_bind_eq_ok] at h
    obtain ⟨c₀, hc, ts, hts, ids, hids, h⟩ := h
    cases h
    exact ⟨rfl, rfl, rfl⟩
  -- the engine the approval is asked of
  obtain ⟨e, he, hrequests, hdecisions⟩ : ∃ e, engine.run [.validate question raw generator none,
      .requestApproval (resultOf c w)] = e ∧
      e.requests.lookup (Planning.requestOf w).approvalRequestId = some (Planning.requestOf w) ∧
      e.decisions.lookup "replay.1" = none := by
    refine ⟨_, rfl, ?_, ?_⟩
    · show (((engine.validate question raw generator none).2.requestApproval
        (resultOf c w)).2).requests.lookup _ = _
      rw [hvalidate]
      exact AList.lookup_insert _
    · show (((engine.validate question raw generator none).2.requestApproval
        (resultOf c w)).2).decisions.lookup _ = _
      rw [hvalidate]
      rfl
  refine ⟨by rw [hvalidate], ?_⟩
  rw [he, Planning.Engine.decide, authorize_approval hrequests hscope.1 hscope.2.1 hscope.2.2]
  have hreplay : e.decisions.lookup (record w).replayIdentity.value = none := hdecisions
  dsimp only
  rw [hreplay]
  rfl

/-- A task whose identifier has 103 characters. -/
def longTask : Json := task (String.ofList (List.replicate 103 'a')) ["lots"] [] 0

/-- The plan has a task with a long identifier. -/
def hasLongTask : Except String (IntentCandidate × WorkflowCandidate) → Bool
  | .ok (_, w) => w.tasks.any fun t => 102 < t.futureTaskId.length
  | .error _ => false

end Sample

end Placement
end AgentPlatform
