/-
AgentPlatform/Placement/Requirement.lean

`derive_runtime_requirement`: the canonical runtime requirement of an approved plan
and of the role matches of its tasks.

The dictionaries of the loop over the bindings are functions and lists that grow
with it: how often each task was bound, and the requirements met so far.
-/
import AgentPlatform.Definition.Matching
import AgentPlatform.Planning.Engine

namespace AgentPlatform
namespace Placement

open Py
open Definition (RoleMatchDecision texts)
open Planning (CanonicalWorkflowRevision PlanningState TaskRequirement)

/-! ### Constants and records -/

def contractVersion : String := "runtime-requirement.v1"
def maxTasks : Nat := 32
def maxRequirementsPerTask : Nat := 32
def maxBindings : Nat := 1024
def maxSerializedRequestBytes : Nat := 32 * 1024
def identifierLimit : Nat := 200
def semanticTextLimit : Nat := 500

structure RuntimeTarget where
  name : String
  exactVersion : Option String
  profile : String

def runtimeTarget : RuntimeTarget :=
  ⟨"native", some "0.1.0+e6a162f", "managed-kubernetes-deterministic-mock"⟩

structure MatchedDefinitionBinding where
  taskRequirementId : String
  matchDecision : RoleMatchDecision
  deriving DecidableEq

/-- `(task_id, requirement_id, definition_id, version_id, definition_digest)`. -/
abbrev CanonicalBinding := String ×ₗ (String ×ₗ Triple String String String)

structure RuntimeRequirement where
  requirementId : String
  contractVersion : String
  canonicalWorkflowRevisionId : String
  approvedWorkflowDigest : String
  tenantId : String
  securityDomain : String
  taskDefinitionBindings : List CanonicalBinding
  nativeTargetName : String
  nativeTargetVersion : String
  nativeTargetProfile : String
  requiredCapabilities : List String
  requiredProviders : List String
  requiredPermissions : List String
  canonicalDigest : String

/-! ### Texts -/

def isIdentifierChar (c : Char) : Bool := c.isAlphanum || "._:/+-".toList.contains c

/-- `_IDENTIFIER.fullmatch`. -/
def isIdentifier (s : String) : Bool :=
  match s.toList with
  | [] => false
  | c :: cs => c.isAlphanum && cs.all isIdentifierChar && cs.length ≤ 199

section Texts

variable [Whitespace]

def identifier (value : String) : Except String String :=
  let normalized := nfc value
  if identifierLimit < normalized.length then .error "IDENTIFIER_LIMIT_EXCEEDED"
  else if ¬ isIdentifier normalized then .error "MALFORMED_PLACEMENT_REQUEST"
  else .ok normalized

/-- One item of `_semantic_set`. -/
def semanticItem (code value : String) : Except String String :=
  let text := collapse (nfc value)
  if text = "" then .error code
  else if semanticTextLimit < text.length then .error "SEMANTIC_TEXT_LIMIT_EXCEEDED"
  else .ok text

/-- `_semantic_set(value, code)`. -/
def semanticSet (code : String) (values : List String) : Except String (List String) := do
  let normalized ← values.mapM (semanticItem code)
  if ¬ normalized.Nodup then .error "AMBIGUOUS_PLACEMENT_INPUT"
  else .ok (normalized.insertionSort (· ≤ ·))

/-! ### The bindings -/

/-- The loop body: `ids` are the tasks of the revision, `seen` the requirements and
`counts` the number of bindings of each task before this one. -/
def bindOne (ids seen : List String) (counts : String → Nat) (b : MatchedDefinitionBinding) :
    Except String CanonicalBinding := do
  let taskId ← identifier b.taskRequirementId
  let decision := b.matchDecision
  if taskId ∉ ids then .error "MATCH_TASK_BINDING_MISMATCH"
  else if decision.requirementId ∈ seen then .error "DUPLICATE_MATCH_DECISION"
  else if maxRequirementsPerTask < counts taskId + 1 then .error "REQUIREMENT_LIMIT_EXCEEDED"
  else
    match decision.outcome, decision.selectedDefinitionId, decision.selectedVersionId,
        decision.selectedDefinitionDigest, decision.missingRequirements with
    | .matched, some definitionId, some versionId, some digest, [] =>
      if ¬ decision.advisoryOnly ∨ decision.executionAuthorized then
        .error "MATCH_AUTHORITY_ESCALATION_REJECTED"
      else if ¬ isHex64 digest then .error "INVALID_DEFINITION_DIGEST"
      else do
        let requirementId ← identifier decision.requirementId
        let definitionId ← identifier definitionId
        let versionId ← identifier versionId
        .ok (toLex (taskId, toLex (requirementId, triple definitionId versionId digest)))
    | _, _, _, _, _ => .error "INCOMPLETE_OR_GAPPED_MATCH"

/-- The loop over the bindings; it returns them with the counts. -/
def bindAll (ids : List String) : (seen : List String) → (counts : String → Nat) →
    List MatchedDefinitionBinding → Except String (List CanonicalBinding × (String → Nat))
  | _, counts, [] => .ok ([], counts)
  | seen, counts, b :: bs => do
    let canonical ← bindOne ids seen counts b
    let taskId := (ofLex canonical).1
    let (rest, counts) ← bindAll ids (b.matchDecision.requirementId :: seen)
      (Function.update counts taskId (counts taskId + 1)) bs
    .ok (canonical :: rest, counts)

def validateBindingCount (count : Nat) : Except String Unit :=
  if maxBindings < count then .error "BINDING_LIMIT_EXCEEDED" else .ok ()

def validateSerializedRequestSize (size : Nat) : Except String Unit :=
  if maxSerializedRequestBytes < size then .error "PLACEMENT_REQUEST_PAYLOAD_LIMIT_EXCEEDED"
  else .ok ()

/-! ### The requirement -/

/-- The checks on the revision, up to the loop; they return its task identifiers. -/
def checkRevision (revision : CanonicalWorkflowRevision) : Except String (List String) :=
  if revision.lifecycle ≠ .canonicalized ∨ ¬ revision.matchingEligible ∨ revision.approvalId = "" then
    .error "APPROVED_CANONICAL_WORKFLOW_REQUIRED"
  else do
    let _ ← identifier revision.canonicalWorkflowRevisionId
    let _ ← identifier revision.tenantId.value
    let _ ← identifier revision.securityDomain.value
    if ¬ isHex64 revision.approvedCandidateDigest then .error "INVALID_APPROVED_WORKFLOW_DIGEST"
    else if revision.tasks = [] ∨ maxTasks < revision.tasks.length then .error "TASK_LIMIT_EXCEEDED"
    else
      let ids := revision.tasks.map TaskRequirement.taskRequirementId
      if ¬ ids.Nodup then .error "DUPLICATE_TASK_REQUIREMENT" else .ok ids

def CanonicalBinding.payload (b : CanonicalBinding) : Json :=
  let (taskId, rest) := ofLex b
  let (requirementId, rest) := ofLex rest
  let (definitionId, rest) := ofLex rest
  let (versionId, digest) := ofLex rest
  texts [taskId, requirementId, definitionId, versionId, digest]

/-- What is serialised of a requirement. -/
def requirementPayload (revision : CanonicalWorkflowRevision) (bindings : List CanonicalBinding)
    (capabilities providers permissions : List String) : Json :=
  .obj [
    ("contractVersion", .str contractVersion),
    ("workflowRevisionId", .str revision.canonicalWorkflowRevisionId),
    ("workflowDigest", .str revision.approvedCandidateDigest),
    ("tenantId", .str revision.tenantId.value),
    ("securityDomain", .str revision.securityDomain.value),
    ("taskDefinitionBindings", .arr (bindings.map CanonicalBinding.payload)),
    ("nativeTarget", .obj [
      ("name", .str runtimeTarget.name), ("exact_version", .optStr runtimeTarget.exactVersion),
      ("profile", .str runtimeTarget.profile)]),
    ("requiredCapabilities", texts capabilities),
    ("requiredProviders", texts providers),
    ("requiredPermissions", texts permissions)]

/-- The part after the loop. -/
def assembleRequirement (revision : CanonicalWorkflowRevision) (bindings : List CanonicalBinding)
    (requiredCapabilities requiredProviders requiredPermissions : List String) :
    Except String RuntimeRequirement := do
  let bindings := bindings.insertionSort (· ≤ ·)
  let capabilities ← semanticSet "INVALID_CAPABILITY_REQUIREMENT" requiredCapabilities
  let providers ← semanticSet "INVALID_PROVIDER_REQUIREMENT" requiredProviders
  let permissions ← semanticSet "INVALID_PERMISSION_REQUIREMENT" requiredPermissions
  if capabilities = [] ∨ providers = [] ∨ permissions = [] then
    .error "ELIGIBILITY_REQUIREMENTS_REQUIRED"
  else do
    let payload := requirementPayload revision bindings capabilities providers permissions
    validateSerializedRequestSize (Definition.canonicalJson payload).utf8ByteSize
    let digest := Definition.canonicalDigest contractVersion payload
    .ok ⟨"runtime-requirement:" ++ digest, contractVersion, revision.canonicalWorkflowRevisionId,
      revision.approvedCandidateDigest, revision.tenantId.value, revision.securityDomain.value,
      bindings, runtimeTarget.name, runtimeTarget.exactVersion.getD "", runtimeTarget.profile,
      capabilities, providers, permissions, digest⟩

def deriveRuntimeRequirement (revision : CanonicalWorkflowRevision)
    (bindings : List MatchedDefinitionBinding)
    (requiredCapabilities requiredProviders requiredPermissions : List String) :
    Except String RuntimeRequirement := do
  let ids ← checkRevision revision
  validateBindingCount bindings.length
  let (canonical, counts) ← bindAll ids [] (fun _ => 0) bindings
  if ids.any (counts · = 0) then .error "INCOMPLETE_MATCH_DECISIONS"
  else
    assembleRequirement revision canonical requiredCapabilities requiredProviders requiredPermissions

end Texts

end Placement
end AgentPlatform
