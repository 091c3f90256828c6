/-
AgentPlatform/Definition/Authority.lean

The in-memory definition authority: registered versions, append-only publication
and match decisions, and the snapshot of the definitions that are effective for a
scope at an instant.

A dictionary is a table; the values of a dictionary are listed in the order of the
table, and nothing the authority computes depends on that order.
-/
import AgentPlatform.Definition.Contract
import AgentPlatform.Py.Sorted
import AgentPlatform.Py.Table

namespace AgentPlatform
namespace Definition

open Py

/-! ### Snapshots -/

structure EffectiveDefinition where
  version : DefinitionVersion
  publicationDecisionId : String
  matchAuthorizationDecisionId : String
  deriving DecidableEq

/-- An `EffectiveDefinitionCatalogSnapshot`. -/
structure CatalogSnapshot where
  snapshotId : String
  snapshotContractVersion : String
  tenantId : String
  securityDomain : String
  purpose : String
  evaluationTime : Datetime
  workflowRevisionId : String
  workflowDigest : String
  sourceAuthorityRevision : String
  definitions : List EffectiveDefinition
  decisionReferences : List String
  complete : Bool
  limitations : List String

/-- `(definition_id, version_id, definition_digest)`. -/
def DefinitionVersion.key (v : DefinitionVersion) : Triple String String String :=
  triple v.definitionId v.versionId v.definitionDigest

def EffectiveDefinition.references (d : EffectiveDefinition) : List String :=
  [d.publicationDecisionId, d.matchAuthorizationDecisionId]

/-- `decision_references` of a list of definitions. -/
def references (definitions : List EffectiveDefinition) : List String :=
  sortedBy id (definitions.flatMap EffectiveDefinition.references)

def effectiveSnapshotIdentity [Unicodedata] (tenantId securityDomain purpose : String)
    (evaluationTime : Datetime) (workflowRevisionId workflowDigest sourceAuthorityRevision : String)
    (definitions : List EffectiveDefinition) : String :=
  canonicalDigest snapshotContractVersion (.obj [
    ("contract", .str snapshotContractVersion),
    ("tenant", .str tenantId),
    ("securityDomain", .str securityDomain),
    ("purpose", .str purpose),
    ("evaluationTime", .str evaluationTime.isoformatZ),
    ("workflowRevisionId", .str workflowRevisionId),
    ("workflowDigest", .str workflowDigest),
    ("sourceAuthorityRevision", .str sourceAuthorityRevision),
    ("definitions", .arr (definitions.map fun d => .obj [
      ("definitionId", .str d.version.definitionId),
      ("versionId", .str d.version.versionId),
      ("digest", .str d.version.definitionDigest),
      ("publication", .str d.publicationDecisionId),
      ("authorization", .str d.matchAuthorizationDecisionId)]))])

/-! ### The authority -/

structure DefinitionAuthorityEvidence where
  evidenceId : String
  event : String
  subjectDigest : String
  reasonCode : String

/-- An `InMemoryDefinitionAuthority`. -/
structure Authority where
  sourceAuthorityRevision : String
  versions : Table (String × String) DefinitionVersion
  publication : Table String PublicationDecision
  publicationReplays : Table String PublicationDecision
  authorization : Table String MatchAuthorizationDecision
  authorizationReplays : Table String MatchAuthorizationDecision
  evidence : List DefinitionAuthorityEvidence

/-- `values()` of a dictionary. -/
def values {κ α : Type} (t : Table κ α) : List α := t.entries.map Sigma.snd

section Operations

variable [Whitespace]

/-- `InMemoryDefinitionAuthority(source_authority_revision=...)`. -/
def Authority.new (sourceAuthorityRevision : String) : Except String Authority := do
  let revision ← identifier "INVALID_SOURCE_REVISION" sourceAuthorityRevision
  .ok ⟨revision, ∅, ∅, ∅, ∅, ∅, []⟩

def Authority.record (a : Authority) (event digest reason : String) : Authority :=
  let evidenceId := canonicalDigest "definition-authority-evidence-v1" (.obj [
    ("ordinal", .int (a.evidence.length + 1)), ("event", .str event), ("digest", .str digest),
    ("reason", .str reason)])
  { a with evidence := a.evidence ++ [⟨evidenceId, event, digest, reason⟩] }

def Authority.register (a : Authority) (version : DefinitionVersion) :
    Except String DefinitionVersion × Authority :=
  match version.validate with
  | .error code => (.error code, a)
  | .ok () =>
    match a.versions.lookup (version.definitionId, version.versionId) with
    | some existing =>
      if existing = version then (.ok existing, a)
      else (.error "CONFLICTING_DEFINITION_VERSION", a)
    | none =>
      let a := { a with
        versions := a.versions.insert (version.definitionId, version.versionId) version }
      (.ok version, a.record "VERSION_REGISTERED" version.definitionDigest "REGISTERED")

def Authority.assertBinding (a : Authority) (d : Decision) : Except String Unit :=
  match a.versions.lookup (d.definitionId, d.versionId) with
  | none => .error "MALFORMED_AUTHORITY_RECORD"
  | some version =>
    if version.definitionDigest ≠ d.definitionDigest then .error "MALFORMED_AUTHORITY_RECORD"
    else if version.tenantId ≠ d.tenantId ∨ version.securityDomain ≠ d.securityDomain ∨
        version.sourceAuthorityRevision ≠ d.sourceAuthorityRevision then
      .error "MALFORMED_AUTHORITY_RECORD"
    else .ok ()

/-- The lookups of `_append_decision`: the decision that is there already, or none. -/
def existingDecision {δ : Type} [DecidableEq δ] (identities replays : Table String δ)
    (decisionId replayIdentity conflict : String) (d : δ) : Except String (Option δ) :=
  match identities.lookup decisionId with
  | some existing => if existing = d then .ok (some existing) else .error conflict
  | none =>
    match replays.lookup replayIdentity with
    | some existing => if existing = d then .ok (some existing) else .error conflict
    | none => .ok none

def Authority.appendPublication (a : Authority) (d : PublicationDecision) :
    Except String PublicationDecision × Authority :=
  match (do d.validate; a.assertBinding d.toDecision) with
  | .error code => (.error code, a)
  | .ok () =>
    match existingDecision a.publication a.publicationReplays d.decisionId d.replayIdentity
        "CONFLICTING_PUBLICATION_DECISION" d with
    | .error code => (.error code, a)
    | .ok (some existing) => (.ok existing, a)
    | .ok none =>
      let a := { a with
        publication := a.publication.insert d.decisionId d
        publicationReplays := a.publicationReplays.insert d.replayIdentity d }
      (.ok d, a.record "PUBLICATION_DECISION_RECORDED" d.definitionDigest d.reasonCode)

def Authority.appendMatchAuthorization (a : Authority) (d : MatchAuthorizationDecision) :
    Except String MatchAuthorizationDecision × Authority :=
  match (do d.validate; a.assertBinding d.toDecision) with
  | .error code => (.error code, a)
  | .ok () =>
    match existingDecision a.authorization a.authorizationReplays d.decisionId d.replayIdentity
        "CONFLICTING_MATCH_AUTHORIZATION" d with
    | .error code => (.error code, a)
    | .ok (some existing) => (.ok existing, a)
    | .ok none =>
      let a := { a with
        authorization := a.authorization.insert d.decisionId d
        authorizationReplays := a.authorizationReplays.insert d.replayIdentity d }
      (.ok d, a.record "MATCH_AUTHORIZATION_RECORDED" d.definitionDigest d.reasonCode)

/-! ### Projection -/

/-- `(effective_at, decided_at, decision_id)`. -/
def Decision.key (d : Decision) : Triple Nat Nat String :=
  triple d.effectiveAt.micros d.decidedAt.micros d.decisionId

/-- The loop of `_reject_simultaneous_conflict`; `seen` is the dictionary of the
actions met so far. -/
def rejectSimultaneousConflict {δ β : Type} [DecidableEq β] (base : δ → Decision) (action : δ → β)
    (seen : Nat × Nat → Option β) : List δ → Except String Unit
  | [] => .ok ()
  | d :: ds =>
    let key := ((base d).effectiveAt.micros, (base d).decidedAt.micros)
    if (seen key).any (· ≠ action d) then .error "CONFLICTING_AUTHORITY_RECORDS"
    else rejectSimultaneousConflict base action (Function.update seen key (some (action d))) ds

/-- The active publication decisions of a version. -/
def Authority.publicationsOf (a : Authority) (v : DefinitionVersion) (at' : Datetime) :
    List PublicationDecision :=
  (values a.publication).filter fun d =>
    (d.definitionId, d.versionId, d.definitionDigest)
        = (v.definitionId, v.versionId, v.definitionDigest) && d.active at'

/-- The match authorisations of a version that have begun. -/
def Authority.authorizationsOf (a : Authority) (v : DefinitionVersion) (purpose : String)
    (at' : Datetime) : List MatchAuthorizationDecision :=
  (values a.authorization).filter fun d =>
    (d.definitionId, d.versionId, d.definitionDigest, d.purpose)
        = (v.definitionId, v.versionId, v.definitionDigest, purpose) &&
      d.effectiveAt.micros ≤ at'.micros

/-- A decision that replaces `v` at the instant. -/
def PublicationDecision.excludes (d : PublicationDecision) (v : DefinitionVersion)
    (at' : Datetime) : Bool :=
  d.action = .publish && d.replacementEffect = .excludePredecessorForMatch &&
    d.predecessorDefinitionId = some v.definitionId && d.predecessorVersionId = some v.versionId &&
    d.predecessorDigest = some v.definitionDigest && d.tenantId = v.tenantId &&
    d.securityDomain = v.securityDomain && d.active at'

def Authority.excludedBySuccessor (a : Authority) (v : DefinitionVersion) (at' : Datetime) : Bool :=
  (values a.publication).any fun d => d.excludes v at'

/-- The last of the decisions, after the check for conflicts. -/
def latest {δ β : Type} [DecidableEq β] (base : δ → Decision) (action : δ → β) (missing : String)
    (decisions : List δ) : Except String δ :=
  match (sortedBy (fun d => (base d).key) decisions).getLast? with
  | none => .error missing
  | some d => do
    rejectSimultaneousConflict base action (fun _ => none) decisions
    .ok d

def Authority.project (a : Authority) (v : DefinitionVersion) (purpose : String) (at' : Datetime) :
    Except String EffectiveDefinition := do
  let publication ← latest PublicationDecision.toDecision PublicationDecision.action
    "DEFINITION_UNPUBLISHED" (a.publicationsOf v at')
  if publication.action ≠ .publish then .error "PUBLICATION_NOT_EFFECTIVE"
  else if a.excludedBySuccessor v at' then .error "PUBLICATION_NOT_EFFECTIVE"
  else do
    let authorization ← latest MatchAuthorizationDecision.toDecision
      MatchAuthorizationDecision.action "MATCH_AUTHORIZATION_MISSING"
      (a.authorizationsOf v purpose at')
    if authorization.expiresAt.any fun t => t.micros ≤ at'.micros then
      .error "MATCH_AUTHORIZATION_EXPIRED"
    else
      match authorization.action with
      | .deny => .error "MATCH_AUTHORIZATION_DENIED"
      | .revoke => .error "MATCH_AUTHORIZATION_REVOKED"
      | .grant => .ok ⟨v, publication.decisionId, authorization.decisionId⟩

/-! ### The snapshot -/

/-- The arguments of `snapshot`. -/
structure SnapshotRequest where
  tenantId : String
  securityDomain : String
  purpose : String
  evaluationTime : LocalDatetime
  workflowRevisionId : String
  workflowDigest : String

/-- The versions of a scope, sorted. -/
def Authority.scopedVersions (a : Authority) (tenant domain : String) : List DefinitionVersion :=
  sortedBy DefinitionVersion.key
    ((values a.versions).filter fun v => v.tenantId = tenant && v.securityDomain = domain)

/-- The failure codes of `snapshot`, the most telling one first. -/
def failurePriority : List String :=
  ["CONFLICTING_AUTHORITY_RECORDS", "PUBLICATION_NOT_EFFECTIVE", "DEFINITION_UNPUBLISHED",
    "MATCH_AUTHORIZATION_REVOKED", "MATCH_AUTHORIZATION_EXPIRED", "MATCH_AUTHORIZATION_DENIED",
    "MATCH_AUTHORIZATION_MISSING"]

def effectiveOf (projections : List (Except String EffectiveDefinition)) :
    List EffectiveDefinition :=
  projections.filterMap Except.toOption

def failuresOf (projections : List (Except String EffectiveDefinition)) : List String :=
  projections.filterMap fun
    | .error code => some code
    | .ok _ => none

/-- The snapshot for checked arguments. -/
def Authority.assemble (a : Authority) (tenant domain purpose : String) (at' : Datetime)
    (workflowId workflowHash : String) : Except String CatalogSnapshot :=
  let projections := (a.scopedVersions tenant domain).map fun v => a.project v purpose at'
  let effective := effectiveOf projections
  let failures := failuresOf projections
  if maxAuthorizedCandidates < effective.length then .error "CANDIDATE_LIMIT_EXCEEDED"
  else if effective = [] ∧ failures ≠ [] then
    .error ((failurePriority.find? (· ∈ failures)).getD "DEFINITION_CATALOG_UNAVAILABLE")
  else
    .ok ⟨effectiveSnapshotIdentity tenant domain purpose at' workflowId workflowHash
        a.sourceAuthorityRevision effective, snapshotContractVersion, tenant, domain, purpose, at',
      workflowId, workflowHash, a.sourceAuthorityRevision, effective, references effective, true,
      ["ADVISORY_MATCHING_ONLY", "NON_EXECUTABLE"]⟩

/-- What `snapshot` returns. -/
def Authority.snapshotResult (a : Authority) (r : SnapshotRequest) :
    Except String CatalogSnapshot := do
  let tenant ← identifier "TENANT_SCOPE_MISMATCH" r.tenantId
  let domain ← identifier "SECURITY_DOMAIN_SCOPE_MISMATCH" r.securityDomain
  let purpose ← identifier "INVALID_MATCH_PURPOSE" r.purpose
  let at' ← utc "INVALID_EVALUATION_TIME" r.evaluationTime
  let workflowId ← identifier "INVALID_WORKFLOW_REVISION" r.workflowRevisionId
  let workflowHash ← identifier "INVALID_WORKFLOW_DIGEST" r.workflowDigest
  a.assemble tenant domain purpose at' workflowId workflowHash

/-- `snapshot(...)`, which leaves evidence behind. -/
def Authority.snapshot (a : Authority) (r : SnapshotRequest) :
    Except String CatalogSnapshot × Authority :=
  match a.snapshotResult r with
  | .error code => (.error code, a)
  | .ok s => (.ok s, a.record "SNAPSHOT_ASSEMBLED" s.snapshotId "COMPLETE")

/-! ### Runs -/

/-- A call of a public operation. -/
inductive Op
  | register (v : DefinitionVersion)
  | publish (d : PublicationDecision)
  | authorize (d : MatchAuthorizationDecision)
  | snapshot (r : SnapshotRequest)

/-- Whether the call is accepted, and the state after it. -/
def Authority.apply (a : Authority) : Op → Bool × Authority
  | .register v => ((a.register v).1.isOk, (a.register v).2)
  | .publish d => ((a.appendPublication d).1.isOk, (a.appendPublication d).2)
  | .authorize d => ((a.appendMatchAuthorization d).1.isOk, (a.appendMatchAuthorization d).2)
  | .snapshot r => ((a.snapshot r).1.isOk, (a.snapshot r).2)

def Authority.run (a : Authority) (ops : List Op) : Authority :=
  ops.foldl (fun a op => (a.apply op).2) a

/-- The calls of a run that were accepted. -/
def Authority.accepted : Authority → List Op → List Op
  | _, [] => []
  | a, op :: ops =>
    if (a.apply op).1 then op :: (a.apply op).2.accepted ops else (a.apply op).2.accepted ops

end Operations

end Definition
end AgentPlatform
