/-
AgentPlatform/Blueprint/Contract.lean

Solution blueprints: what is proposed, reviewed and published as one version.

A blueprint is data and may be malformed; `validate` returns the reason code of the
first check that fails. Twelve of its fields are sets of references and seven are
sets of texts; `createSolutionBlueprint` checks and sorts them field by field.
**Main result:** `createSolutionBlueprint_perm`. The blueprint that is created, with its
digest, does not depend on the order in which the sets are given.
-/
import AgentPlatform.Definition.Contract
import AgentPlatform.Py.Sorted

namespace AgentPlatform

open Py

namespace Blueprint

/-! ### Constants and fields -/

def schemaVersion : String := "solution-blueprint.v1"
def digestDomain : String := "agent-console:solution-blueprint.v1"
def textLimit : Nat := 2000

inductive ReferenceField
  | sourceAuthorityRevisions
  | roleDefinitionReferences
  | skillReferences
  | mcpCapabilityReferences
  | knowledgeReferences
  | runtimeRequirementReferences
  | placementRequirementReferences
  | permissionPrerequisiteReferences
  | authorizationPrerequisiteReferences
  | evidenceReferences
  | provenanceReferences
  | successorVersionReferences
  deriving DecidableEq

def ReferenceField.all : List ReferenceField :=
  [.sourceAuthorityRevisions, .roleDefinitionReferences, .skillReferences, .mcpCapabilityReferences,
    .knowledgeReferences, .runtimeRequirementReferences, .placementRequirementReferences,
    .permissionPrerequisiteReferences, .authorizationPrerequisiteReferences, .evidenceReferences,
    .provenanceReferences, .successorVersionReferences]

def ReferenceField.name : ReferenceField → String
  | .sourceAuthorityRevisions => "source_authority_revisions"
  | .roleDefinitionReferences => "role_definition_references"
  | .skillReferences => "skill_references"
  | .mcpCapabilityReferences => "mcp_capability_references"
  | .knowledgeReferences => "knowledge_references"
  | .runtimeRequirementReferences => "runtime_requirement_references"
  | .placementRequirementReferences => "placement_requirement_references"
  | .permissionPrerequisiteReferences => "permission_prerequisite_references"
  | .authorizationPrerequisiteReferences => "authorization_prerequisite_references"
  | .evidenceReferences => "evidence_references"
  | .provenanceReferences => "provenance_references"
  | .successorVersionReferences => "successor_version_references"

inductive TextSetField
  | lifecycleDecisionReferences
  | businessScope
  | applicabilityConstraints
  | exclusionConstraints
  | expectedOutcomes
  | acceptanceCriteria
  | knownLimitations
  deriving DecidableEq

def TextSetField.all : List TextSetField :=
  [.lifecycleDecisionReferences, .businessScope, .applicabilityConstraints, .exclusionConstraints,
    .expectedOutcomes, .acceptanceCriteria, .knownLimitations]

def TextSetField.name : TextSetField → String
  | .lifecycleDecisionReferences => "lifecycle_decision_references"
  | .businessScope => "business_scope"
  | .applicabilityConstraints => "applicability_constraints"
  | .exclusionConstraints => "exclusion_constraints"
  | .expectedOutcomes => "expected_outcomes"
  | .acceptanceCriteria => "acceptance_criteria"
  | .knownLimitations => "known_limitations"

/-- `f"INVALID_{field.upper()}"`. -/
def invalidCode (name : String) : String := "INVALID_" ++ name.toUpper

/-! ### Records -/

/-- `AssetReference`, ordered by its fields. -/
structure AssetReference where
  assetId : String
  versionId : String
  canonicalDigest : String
  deriving DecidableEq

def AssetReference.order (r : AssetReference) : Triple String String String :=
  triple r.assetId r.versionId r.canonicalDigest

theorem AssetReference.order_injective : Function.Injective AssetReference.order := by
  rintro ⟨_, _, _⟩ ⟨_, _, _⟩ h
  obtain ⟨hasset, hversion, hdigest⟩ := triple_inj h
  rw [AssetReference.mk.injEq]
  exact ⟨hasset, hversion, hdigest⟩

/-- `SolutionBlueprint`; the sets of one type are given by their fields. -/
structure SolutionBlueprint where
  blueprintId : String
  versionId : String
  canonicalDigest : String
  tenantId : String
  securityDomain : String
  createdAt : LocalDatetime
  references : ReferenceField → List AssetReference
  texts : TextSetField → List String
  provenanceClassification : String
  problemIntent : String
  canonicalWorkflowRevision : AssetReference
  configurationGenerationEligible : Bool
  predecessorVersion : Option AssetReference
  schemaVersion : String

/-- The tenant, the security domain, the blueprint and the version. -/
abbrev Key := String × String × String × String

def SolutionBlueprint.identityKey (b : SolutionBlueprint) : Key :=
  (b.tenantId, b.securityDomain, b.blueprintId, b.versionId)

/-- `asdict(reference)`. -/
def AssetReference.payload (r : AssetReference) : Json :=
  .obj [("asset_id", .str r.assetId), ("version_id", .str r.versionId),
    ("canonical_digest", .str r.canonicalDigest)]

/-- `semantic_payload`, with the instant of `created_at`. -/
def SolutionBlueprint.semanticPayload (b : SolutionBlueprint) (createdAt : Datetime) : Json :=
  .obj ([
    ("blueprint_id", .str b.blueprintId),
    ("version_id", .str b.versionId),
    ("tenant_id", .str b.tenantId),
    ("security_domain", .str b.securityDomain),
    ("created_at", .str createdAt.isoformatZ),
    ("provenance_classification", .str b.provenanceClassification),
    ("problem_intent", .str b.problemIntent),
    ("canonical_workflow_revision", b.canonicalWorkflowRevision.payload),
    ("configuration_generation_eligible", .bool b.configurationGenerationEligible),
    ("predecessor_version", (b.predecessorVersion.map AssetReference.payload).getD .null),
    ("schema_version", .str b.schemaVersion)]
    ++ ReferenceField.all.map (fun f => (f.name, .arr ((b.references f).map AssetReference.payload)))
    ++ TextSetField.all.map fun f => (f.name, Definition.texts (b.texts f)))

/-! ### Checks -/

section Checks

variable [Whitespace]

def identifier (code value : String) : Except String String := Definition.identifier code value

/-- `utc(value, code)`. -/
def utc (code : String) (t : LocalDatetime) : Except String Datetime := Definition.utc code t

def text (code value : String) : Except String String :=
  let normalized := collapse (nfc value)
  if normalized = "" then .error code
  else if textLimit < normalized.length then .error "SEMANTIC_TEXT_LIMIT_EXCEEDED"
  else .ok normalized

/-- `semantic_set(value, code)`. -/
def semanticSet (code : String) (values : List String) : Except String (List String) := do
  let items ← values.mapM (text code)
  if ¬ items.Nodup then .error "AMBIGUOUS_SEMANTIC_SET" else .ok (sortedBy id items)

/-- `_references(value)`. -/
def references (values : List AssetReference) : Except String (List AssetReference) :=
  if ¬ values.Nodup then .error "AMBIGUOUS_SEMANTIC_SET"
  else .ok (sortedBy AssetReference.order values)

/-- What `semantic_bytes` encodes. -/
def SolutionBlueprint.semanticText (b : SolutionBlueprint) (createdAt : Datetime) : String :=
  digestDomain ++ "\n" ++ Definition.canonicalJson (b.semanticPayload createdAt)

/-- `semantic_bytes`, where `created_at` is an instant. -/
def SolutionBlueprint.semanticBytes (b : SolutionBlueprint) : Option (List UInt8) :=
  (utc "INVALID_UTC_TIMESTAMP" b.createdAt).toOption.map fun t => utf8 (b.semanticText t)

/-- `if identifier(value, code) != value: raise _fail(code)`. -/
def checkIdentifier (code value : String) : Except String Unit := Definition.checkIdentifier code value

def SolutionBlueprint.validate (b : SolutionBlueprint) : Except String Unit :=
  if b.schemaVersion ≠ Blueprint.schemaVersion then .error "INVALID_SCHEMA_VERSION"
  else do
    checkIdentifier "INVALID_BLUEPRINT_ID" b.blueprintId
    checkIdentifier "INVALID_VERSION_ID" b.versionId
    checkIdentifier "INVALID_TENANT_ID" b.tenantId
    checkIdentifier "INVALID_SECURITY_DOMAIN" b.securityDomain
    checkIdentifier "INVALID_PROVENANCE_CLASSIFICATION" b.provenanceClassification
    let createdAt ← utc "INVALID_CREATED_AT" b.createdAt
    if b.configurationGenerationEligible then .error "GENERATION_NOT_AUTHORIZED"
    else if b.canonicalDigest ≠ sha256 (b.semanticText createdAt) then .error "INVALID_CANONICAL_DIGEST"
    else .ok ()

/-! ### Creation -/

/-- The arguments of `create_solution_blueprint`; one that is missing is `none`. -/
structure Values where
  blueprintId : Option String
  versionId : Option String
  tenantId : Option String
  securityDomain : Option String
  createdAt : Option LocalDatetime
  references : ReferenceField → List AssetReference
  texts : TextSetField → List String
  provenanceClassification : Option String
  problemIntent : Option String
  canonicalWorkflowRevision : Option AssetReference
  predecessorVersion : Option AssetReference
  configurationGenerationEligible : Bool

/-- `normalized.get(name)`, which must be there. -/
def given {α : Type} (code : String) : Option α → Except String α
  | none => .error code
  | some a => .ok a

/-- `for field in fields: normalized[field] = check(field)`. -/
def gather {F α : Type} [DecidableEq F] (check : F → Except String α) (start : F → α) :
    List F → Except String (F → α)
  | [] => .ok start
  | f :: fs => do
    let a ← check f
    let rest ← gather check start fs
    .ok (Function.update rest f a)

/-- `create_solution_blueprint(**values)`. -/
def createSolutionBlueprint (v : Values) : Except String SolutionBlueprint := do
  let references ← gather (fun f => references (v.references f)) (fun _ => []) ReferenceField.all
  let texts ← gather (fun f : TextSetField => semanticSet (invalidCode f.name) (v.texts f)) (fun _ => [])
    TextSetField.all
  let blueprintId ← given "INVALID_BLUEPRINT_ID" v.blueprintId >>= identifier "INVALID_BLUEPRINT_ID"
  let versionId ← given "INVALID_VERSION_ID" v.versionId >>= identifier "INVALID_VERSION_ID"
  let tenantId ← given "INVALID_TENANT_ID" v.tenantId >>= identifier "INVALID_TENANT_ID"
  let securityDomain ←
    given "INVALID_SECURITY_DOMAIN" v.securityDomain >>= identifier "INVALID_SECURITY_DOMAIN"
  let createdAt ← given "INVALID_CREATED_AT" v.createdAt >>= utc "INVALID_CREATED_AT"
  let provenanceClassification ← given "INVALID_PROVENANCE_CLASSIFICATION" v.provenanceClassification
    >>= identifier "INVALID_PROVENANCE_CLASSIFICATION"
  let problemIntent ← given "INVALID_PROBLEM_INTENT" v.problemIntent >>= text "INVALID_PROBLEM_INTENT"
  let workflow ← given "INVALID_CANONICAL_WORKFLOW_REVISION" v.canonicalWorkflowRevision
  let provisional : SolutionBlueprint :=
    { blueprintId, versionId, tenantId, securityDomain, references, texts, provenanceClassification,
      problemIntent, canonicalDigest := "", createdAt := ⟨createdAt.micros, some 0⟩,
      canonicalWorkflowRevision := workflow, predecessorVersion := v.predecessorVersion,
      configurationGenerationEligible := v.configurationGenerationEligible,
      schemaVersion := schemaVersion }
  let result := { provisional with canonicalDigest := sha256 (provisional.semanticText createdAt) }
  result.validate
  .ok result

/-! ### Sets in any order -/

/-- The same arguments, with the items of each set in another order. -/
structure Values.Reordered (v w : Values) : Prop where
  references : ∀ f, (v.references f).Perm (w.references f)
  texts : ∀ f, (v.texts f).Perm (w.texts f)
  others : w = { v with references := w.references, texts := w.texts }

omit [Whitespace] in
theorem Values.Reordered.symm {v w : Values} (h : v.Reordered w) : w.Reordered v := by
  obtain ⟨hrefs, htexts, hothers⟩ := h
  refine ⟨fun f => (hrefs f).symm, fun f => (htexts f).symm, ?_⟩
  rw [hothers]

omit [Whitespace] in
theorem references_perm {l l' r : List AssetReference} (hp : l.Perm l') (h : references l = .ok r) :
    references l' = .ok r := by
  rw [references, ite_error_eq_ok', not_not] at h ⊢
  refine ⟨hp.nodup_iff.mp h.1, ?_⟩
  rw [← h.2, sortedBy_perm hp fun a _ b _ => (AssetReference.order_injective ·)]

omit [Whitespace] in
/-- The results of a loop over a reordered list. -/
theorem mapM_perm {α β : Type} {f : α → Except String β} {l l' : List α} (hp : l.Perm l') {r : List β}
    (h : l.mapM f = .ok r) : ∃ r', l'.mapM f = .ok r' ∧ r.Perm r' := by
  induction hp generalizing r with
  | nil => exact ⟨r, h, .refl r⟩
  | cons a _ ih =>
    rw [List.mapM_cons, bind_eq_ok] at h
    obtain ⟨b, hb, h⟩ := h
    obtain ⟨bs, hbs, h⟩ := bind_eq_ok.mp h
    obtain ⟨bs', hbs', hperm⟩ := ih hbs
    cases h
    refine ⟨b :: bs', ?_, hperm.cons b⟩
    rw [List.mapM_cons, hb, hbs']
    rfl
  | swap a a' l =>
    simp only [List.mapM_cons, bind_eq_ok] at h
    obtain ⟨b, hb, bs, ⟨b', hb', cs, hcs, hbs⟩, h⟩ := h
    cases hbs
    cases h
    refine ⟨b' :: b :: cs, ?_, .swap b' b cs⟩
    rw [List.mapM_cons, List.mapM_cons, hb, hb', hcs]
    rfl
  | trans _ _ ih ih' =>
    obtain ⟨r', hr', hperm⟩ := ih h
    obtain ⟨r'', hr'', hperm'⟩ := ih' hr'
    exact ⟨r'', hr'', hperm.trans hperm'⟩

theorem semanticSet_perm {code : String} {l l' r : List String} (hp : l.Perm l')
    (h : semanticSet code l = .ok r) : semanticSet code l' = .ok r := by
  obtain ⟨items, hitems, h⟩ := bind_eq_ok.mp h
  obtain ⟨items', hitems', hperm⟩ := mapM_perm hp hitems
  rw [ite_error_eq_ok', not_not] at h
  refine bind_eq_ok.mpr ⟨items', hitems', ?_⟩
  rw [ite_error_eq_ok', not_not]
  refine ⟨hperm.nodup_iff.mp h.1, ?_⟩
  rw [← h.2, sortedBy_perm hperm fun _ _ _ _ (heq : id _ = id _) => heq]

omit [Whitespace] in
theorem gather_mono {F α : Type} [DecidableEq F] {check check' : F → Except String α} {start : F → α}
    (hcheck : ∀ f a, check f = .ok a → check' f = .ok a) {fs : List F} {n : F → α}
    (h : gather check start fs = .ok n) : gather check' start fs = .ok n := by
  induction fs generalizing n with
  | nil => exact h
  | cons f fs ih =>
    obtain ⟨a, ha, h⟩ := bind_eq_ok.mp h
    obtain ⟨rest, hrest, h⟩ := bind_eq_ok.mp h
    exact bind_eq_ok.mpr ⟨a, hcheck f a ha, bind_eq_ok.mpr ⟨rest, ih hrest, h⟩⟩

theorem createSolutionBlueprint_reordered {v w : Values} (h : v.Reordered w) {b : SolutionBlueprint}
    (hb : createSolutionBlueprint v = .ok b) : createSolutionBlueprint w = .ok b := by
  obtain ⟨hrefs, htexts, hothers⟩ := h
  obtain ⟨refs, hr, hb⟩ := bind_eq_ok.mp hb
  obtain ⟨texts, ht, hb⟩ := bind_eq_ok.mp hb
  have hr' := gather_mono (fun f a ha => references_perm (hrefs f) ha) hr
  have ht' := gather_mono (fun f a ha => semanticSet_perm (htexts f) ha) ht
  refine bind_eq_ok.mpr ⟨refs, hr', bind_eq_ok.mpr ⟨texts, ht', ?_⟩⟩
  rw [hothers]
  exact hb

/-- **The order of the sets** does not show in the blueprint that is created. -/
theorem createSolutionBlueprint_perm {v w : Values} (h : v.Reordered w) (b : SolutionBlueprint) :
    createSolutionBlueprint v = .ok b ↔ createSolutionBlueprint w = .ok b :=
  ⟨createSolutionBlueprint_reordered h, createSolutionBlueprint_reordered h.symm⟩

end Checks

end Blueprint

end AgentPlatform
