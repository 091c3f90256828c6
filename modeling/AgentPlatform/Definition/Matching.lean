/-
AgentPlatform/Definition/Matching.lean

The published-role matcher: it checks a request, asks a catalog provider for one
snapshot, checks the snapshot against the request, and selects a definition for
every role requirement.

The provider is a function from the arguments of `snapshot` to its result. The
evaluation time of a request is a datetime as written; what is not a datetime, and
records of a wrong type, are left out.
-/
import AgentPlatform.Definition.Authority

namespace AgentPlatform
namespace Definition

open Py

/-! ### Constants and records -/

def maxTasks : Nat := 32
def maxRequirementsPerTask : Nat := 32
def maxCandidatesPerRequirement : Nat := 64
def maxEvaluations : Nat := 2048
def maxReasons : Nat := 32
def maxSerializedRequestBytes : Nat := 32 * 1024

inductive MatchOutcome
  | matched | roleGap
  deriving DecidableEq

def MatchOutcome.value : MatchOutcome → String
  | .matched => "MATCHED"
  | .roleGap => "ROLE_GAP"

structure RoleRequirement where
  requirementId : String
  duties : List String
  data : List String
  knowledge : List String
  skills : List String
  capabilities : List String
  runtimes : List String
  deriving DecidableEq

structure TaskRoleRequirements where
  taskRequirementId : String
  requirements : List RoleRequirement
  deriving DecidableEq

structure MatchingRequest where
  canonicalWorkflowRevisionId : String
  approvedWorkflowDigest : String
  tenantId : String
  securityDomain : String
  purpose : String
  evaluationTime : LocalDatetime
  tasks : List TaskRoleRequirements

structure CandidateScore where
  definitionId : String
  versionId : String
  definitionDigest : String
  score : Nat
  deriving DecidableEq

structure RoleMatchDecision where
  decisionId : String
  requirementId : String
  outcome : MatchOutcome
  snapshotId : String
  selectedDefinitionId : Option String
  selectedVersionId : Option String
  selectedDefinitionDigest : Option String
  tiedCandidates : List CandidateScore
  missingRequirements : List String
  reasonCodes : List String
  advisoryOnly : Bool
  executionAuthorized : Bool
  deriving DecidableEq

structure MatchingResult where
  snapshotId : String
  decisions : List RoleMatchDecision
  providerCalls : Nat
  runtimeCalls : Nat
  credentialGrants : Nat
  permissionGrants : Nat
  deriving DecidableEq

/-- The six coverage sets a requirement names. -/
def RoleRequirement.coverage (r : RoleRequirement) : List (List String) :=
  [r.duties, r.data, r.knowledge, r.skills, r.capabilities, r.runtimes]

/-- The six coverage sets a role offers. -/
def RoleDescriptor.coverage (r : RoleDescriptor) : List (List String) :=
  [r.duties, r.data, r.knowledge, r.skills, r.capabilities, r.runtimes]

/-! ### The request -/

def validateSerializedMatchingRequestSize (size : Nat) : Except String Unit :=
  if maxSerializedRequestBytes < size then .error "MATCHING_REQUEST_PAYLOAD_LIMIT_EXCEEDED" else .ok ()

def validateCandidateEvaluationCount (count : Nat) : Except String Unit :=
  if maxEvaluations < count then .error "EVALUATION_LIMIT_EXCEEDED" else .ok ()

/-- The requirements of a task in the order of their identifiers. -/
def TaskRoleRequirements.ordered (t : TaskRoleRequirements) : List RoleRequirement :=
  sortedBy RoleRequirement.requirementId t.requirements

/-- `asdict(requirement)`. -/
def RoleRequirement.payload (r : RoleRequirement) : Json :=
  .obj [
    ("requirement_id", .str r.requirementId), ("duties", texts r.duties), ("data", texts r.data),
    ("knowledge", texts r.knowledge), ("skills", texts r.skills),
    ("capabilities", texts r.capabilities), ("runtimes", texts r.runtimes)]

/-- What is serialised of a request. -/
def MatchingRequest.semantic (r : MatchingRequest) (evaluationTime : Datetime)
    (tasks : List TaskRoleRequirements) : Json :=
  .obj [
    ("workflowRevisionId", .str r.canonicalWorkflowRevisionId),
    ("workflowDigest", .str r.approvedWorkflowDigest),
    ("tenantId", .str r.tenantId),
    ("securityDomain", .str r.securityDomain),
    ("purpose", .str r.purpose),
    ("evaluationTime", .str evaluationTime.isoformatZ),
    ("tasks", .arr (tasks.map fun t => .obj [
      ("taskRequirementId", .str t.taskRequirementId),
      ("requirements", .arr (t.ordered.map RoleRequirement.payload))]))]

section Requests

variable [Whitespace]

/-- `_identifier(value)` of the matcher. -/
def matchIdentifier (value : String) : Except String String :=
  let normalized := nfc value
  if identifierLimit < normalized.length then .error "IDENTIFIER_LIMIT_EXCEEDED"
  else if ¬ isIdentifier normalized then .error "MALFORMED_MATCHING_REQUEST"
  else .ok normalized

/-- `_identifier(value)` for its errors only: the normalised value is dropped. -/
def checkMatchIdentifier (value : String) : Except String Unit := do
  let _ ← matchIdentifier value
  .ok ()

theorem checkMatchIdentifier_of_isIdentifier {x : String} (h : isIdentifier x = true) :
    checkMatchIdentifier x = .ok () := by
  have hnfc : nfc x = x := Unicodedata.nfc_ascii x (isIdentifier_ascii h)
  have hid : matchIdentifier x = .ok x := by
    rw [matchIdentifier, hnfc]
    show (if identifierLimit < x.length then _ else if ¬ isIdentifier x = true then _
      else Except.ok x) = _
    rw [if_neg (Nat.not_lt.mpr (isIdentifier_length h).2), if_neg (not_not.mpr h)]
  rw [checkMatchIdentifier, hid]
  rfl

def semanticText (value : String) : Except String String :=
  let normalized := collapse (nfc value)
  if semanticTextLimit < normalized.length then .error "SEMANTIC_TEXT_LIMIT_EXCEEDED"
  else if normalized = "" then .error "MALFORMED_MATCHING_REQUEST"
  else .ok normalized

/-- The check of one coverage set. -/
def checkCoverage (values : List String) : Except String Unit := do
  let items ← values.mapM semanticText
  if items.insertionSort (· ≤ ·) ≠ values then .error "AMBIGUOUS_REQUIREMENT"
  else if ¬ values.Nodup then .error "AMBIGUOUS_REQUIREMENT"
  else .ok ()

def validateRequirement (r : RoleRequirement) : Except String Unit := do
  checkMatchIdentifier r.requirementId
  r.coverage.forM checkCoverage

def validateTask (t : TaskRoleRequirements) : Except String Unit := do
  checkMatchIdentifier t.taskRequirementId
  if maxRequirementsPerTask < t.requirements.length then .error "REQUIREMENT_LIMIT_EXCEEDED"
  else if ¬ (t.requirements.map RoleRequirement.requirementId).Nodup then
    .error "DUPLICATE_ROLE_REQUIREMENT"
  else t.requirements.forM validateRequirement

def MatchingRequest.identities (r : MatchingRequest) : List String :=
  [r.canonicalWorkflowRevisionId, r.approvedWorkflowDigest, r.tenantId, r.securityDomain, r.purpose]

/-- The part of `match` before the provider is asked; it returns the tasks sorted. -/
def validateRequest (r : MatchingRequest) : Except String (List TaskRoleRequirements) := do
  r.identities.forM checkMatchIdentifier
  let tasks := sortedBy TaskRoleRequirements.taskRequirementId r.tasks
  if maxTasks < tasks.length then .error "TASK_LIMIT_EXCEEDED"
  else if ¬ (tasks.map TaskRoleRequirements.taskRequirementId).Nodup then
    .error "DUPLICATE_TASK_REQUIREMENT"
  else do
    tasks.forM validateTask
    let evaluationTime ← utc "INVALID_UTC_TIMESTAMP" r.evaluationTime
    validateSerializedMatchingRequestSize
      (canonicalJson (r.semantic evaluationTime tasks)).utf8ByteSize
    .ok tasks

/-! ### The snapshot -/

/-- The arguments the provider is asked with. -/
def MatchingRequest.toSnapshotRequest (r : MatchingRequest) : SnapshotRequest :=
  ⟨r.tenantId, r.securityDomain, r.purpose, r.evaluationTime, r.canonicalWorkflowRevisionId,
    r.approvedWorkflowDigest⟩

def validateDefinition (s : CatalogSnapshot) (d : EffectiveDefinition) : Except String Unit := do
  d.version.validate
  [d.publicationDecisionId, d.matchAuthorizationDecisionId,
    d.version.sourceAuthorityRevision].forM checkMatchIdentifier
  if d.version.tenantId ≠ s.tenantId then .error "TENANT_SCOPE_MISMATCH"
  else if d.version.securityDomain ≠ s.securityDomain then .error "SECURITY_DOMAIN_SCOPE_MISMATCH"
  else .ok ()

/-- `snapshot.evaluation_time == request.evaluation_time`: the same instant, where the
second one has an offset. -/
def sameInstant (t : Datetime) (s : LocalDatetime) : Bool :=
  match s.offset with
  | none => false
  | some offset => (s.micros : ℤ) - offset = t.micros

def validateSnapshot (s : CatalogSnapshot) (r : MatchingRequest) : Except String Unit :=
  if s.complete = false ∨ s.snapshotContractVersion ≠ Definition.snapshotContractVersion then
    .error "DEFINITION_CATALOG_UNAVAILABLE"
  else if s.tenantId ≠ r.tenantId then .error "TENANT_SCOPE_MISMATCH"
  else if s.securityDomain ≠ r.securityDomain then .error "SECURITY_DOMAIN_SCOPE_MISMATCH"
  else if s.purpose ≠ r.purpose ∨ ¬ sameInstant s.evaluationTime r.evaluationTime ∨
      s.workflowRevisionId ≠ r.canonicalWorkflowRevisionId ∨
      s.workflowDigest ≠ r.approvedWorkflowDigest then
    .error "MALFORMED_AUTHORITY_RECORD"
  else
    let ordered := sortedBy (fun d => d.version.key) s.definitions
    if ordered ≠ s.definitions ∨ ¬ ordered.Nodup then .error "CONFLICTING_AUTHORITY_RECORDS"
    else do
      ordered.forM (validateDefinition s)
      if s.decisionReferences ≠ references ordered then .error "MALFORMED_AUTHORITY_RECORD"
      else if s.snapshotId ≠ effectiveSnapshotIdentity s.tenantId s.securityDomain s.purpose
          s.evaluationTime s.workflowRevisionId s.workflowDigest s.sourceAuthorityRevision
          s.definitions then
        .error "MALFORMED_AUTHORITY_RECORD"
      else .ok ()

/-! ### Decisions -/

/-- Every required set is within the set that is available. -/
def covers (required available : List (List String)) : Bool :=
  (required.zip available).all fun p => p.1.all (· ∈ p.2)

def score (requirement : RoleRequirement) (candidate : EffectiveDefinition) : Option CandidateScore :=
  if covers requirement.coverage candidate.version.role.coverage then
    some ⟨candidate.version.definitionId, candidate.version.versionId,
      candidate.version.definitionDigest, (requirement.coverage.map List.length).sum⟩
  else none

/-- `asdict(score)`. -/
def CandidateScore.payload (c : CandidateScore) : Json :=
  .obj [
    ("definition_id", .str c.definitionId), ("version_id", .str c.versionId),
    ("definition_digest", .str c.definitionDigest), ("score", .int c.score)]

/-- `(-score, definition_id, version_id, definition_digest)`. -/
def CandidateScore.key (c : CandidateScore) : ℤ ×ₗ Triple String String String :=
  toLex (-(c.score : ℤ), triple c.definitionId c.versionId c.definitionDigest)

def matchDecision (requirement : RoleRequirement) (snapshotId : String) (outcome : MatchOutcome)
    (selected : Option CandidateScore) (ties : List CandidateScore) (missing reasons : List String) :
    Except String RoleMatchDecision :=
  if maxReasons < reasons.length then .error "REASON_LIMIT_EXCEEDED"
  else do
    reasons.forM checkMatchIdentifier
    let decisionId := canonicalDigest "role-match-decision-v1" (.obj [
      ("requirementId", .str requirement.requirementId),
      ("snapshotId", .str snapshotId),
      ("outcome", .str outcome.value),
      ("selected", (selected.map CandidateScore.payload).getD .null),
      ("ties", .arr (ties.map CandidateScore.payload)),
      ("missing", texts missing),
      ("reasons", texts reasons)])
    .ok ⟨decisionId, requirement.requirementId, outcome, snapshotId,
      selected.map CandidateScore.definitionId, selected.map CandidateScore.versionId,
      selected.map CandidateScore.definitionDigest, ties, missing, reasons, true, false⟩

def matchOne (s : CatalogSnapshot) (requirement : RoleRequirement) : Except String RoleMatchDecision :=
  let scored := s.definitions.filterMap (score requirement)
  match sortedBy CandidateScore.key scored with
  | [] => matchDecision requirement s.snapshotId .roleGap none [] [requirement.requirementId]
      ["ROLE_GAP", "NO_ELIGIBLE_ROLE_COVERS_REQUIREMENT"]
  | best :: ranked =>
    -- the first of the ties is the first of all
    let ties := (best :: ranked).filter (·.score = best.score)
    matchDecision requirement s.snapshotId .matched ties.head? ties []
      (["FULL_REQUIRED_COVERAGE", "DETERMINISTIC_SELECTION"] ++
        if 1 < ties.length then ["STABLE_TIE_BROKEN_BY_DEFINITION_VERSION_IDENTITY"] else [])

/-- The requirements of the sorted tasks, in the order they are decided. -/
def orderedRequirements (tasks : List TaskRoleRequirements) : List RoleRequirement :=
  tasks.flatMap TaskRoleRequirements.ordered

/-- `PublishedRoleMatcher(provider).match(request)`. -/
def matchRoles (provider : SnapshotRequest → Except String CatalogSnapshot) (r : MatchingRequest) :
    Except String MatchingResult := do
  let tasks ← validateRequest r
  let s ← provider r.toSnapshotRequest
  validateSnapshot s r
  let requirements := orderedRequirements tasks
  if maxCandidatesPerRequirement < s.definitions.length then .error "CANDIDATE_LIMIT_EXCEEDED"
  else do
    validateCandidateEvaluationCount (requirements.length * s.definitions.length)
    let decisions ← requirements.mapM (matchOne s)
    .ok ⟨s.snapshotId, decisions, 0, 0, 0, 0⟩

end Requests

end Definition
end AgentPlatform
