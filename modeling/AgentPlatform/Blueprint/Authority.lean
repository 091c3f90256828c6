/-
AgentPlatform/Blueprint/Authority.lean

The authority over solution blueprints: proposals, reviews, registrations,
publications and matches, kept in memory and never removed.

A decision is appended once; a version is registered while its latest review approves
it. Whether a version is available at an instant is read off the decisions that are in
force then.
-/
import AgentPlatform.Blueprint.Contract
import AgentPlatform.Py.Dict

namespace AgentPlatform

open Py

namespace Blueprint

/-! ### Decisions -/

/-- The values of `ReviewAction`, `PublicationAction` and `MatchAction`, by facet. -/
def expectedActions (facet : String) : Option (List String) :=
  if facet = "REVIEW" then some ["APPROVE", "REJECT"]
  else if facet = "PUBLICATION" then some ["PUBLISH", "UNPUBLISH", "REVOKE", "SUPERSEDE"]
  else if facet = "MATCH" then some ["GRANT", "DENY", "REVOKE"]
  else none

structure AuthorityDecision where
  decisionId : String
  replayIdentity : String
  blueprintId : String
  versionId : String
  blueprintDigest : String
  tenantId : String
  securityDomain : String
  facet : String
  action : String
  scope : String
  purpose : String
  authority : String
  reasonCode : String
  decidedAt : Datetime
  effectiveAt : Datetime
  expiresAt : Option Datetime
  deriving DecidableEq

/-- The key of the version that is decided on. -/
def AuthorityDecision.key (d : AuthorityDecision) : Key :=
  (d.tenantId, d.securityDomain, d.blueprintId, d.versionId)

/-- The order of a history: by `effective_at`, `decided_at` and `decision_id`. -/
def AuthorityDecision.order (d : AuthorityDecision) : Triple Nat Nat String :=
  triple d.effectiveAt.micros d.decidedAt.micros d.decisionId

/-! ### The authority -/

/-- `InMemoryBlueprintAuthority`. -/
structure Authority where
  proposals : Dict Key SolutionBlueprint
  registered : Dict Key SolutionBlueprint
  decisions : List AuthorityDecision
  decisionIds : Dict String AuthorityDecision
  replays : Dict String AuthorityDecision

def Authority.empty : Authority := ⟨.empty, .empty, [], .empty, .empty⟩

/-- The decisions on a blueprint that `_current` selects, in the order in which they
were appended. -/
def Authority.selected (w : Authority) (b : SolutionBlueprint) (facet scope purpose : String)
    (at' : Option Datetime) : List AuthorityDecision :=
  w.decisions.filter fun d =>
    d.blueprintDigest = b.canonicalDigest && d.tenantId = b.tenantId
      && d.securityDomain = b.securityDomain && d.facet = facet && d.scope = scope
      && d.purpose = purpose
      && at'.all fun t => d.effectiveAt ≤ t && d.expiresAt.all fun e => t < e

def Authority.current (w : Authority) (b : SolutionBlueprint) (facet scope purpose : String)
    (at' : Option Datetime) : List AuthorityDecision :=
  sortedBy AuthorityDecision.order (w.selected b facet scope purpose at')

def Authority.effective (w : Authority) (b : SolutionBlueprint) (facet scope purpose : String)
    (at' : Datetime) : Option AuthorityDecision :=
  let decisions := w.current b facet scope purpose (some at')
  match decisions.getLast? with
  | none => none
  | some last =>
    let latest := decisions.filter fun d => d.effectiveAt = last.effectiveAt
    if (latest.map AuthorityDecision.action).dedup.length ≠ 1 then none else latest.getLast?

def Authority.validateSuccessor (w : Authority) (b : SolutionBlueprint) : Except String Unit :=
  match b.predecessorVersion with
  | none => .ok ()
  | some p =>
    match w.proposals.get? (b.tenantId, b.securityDomain, p.assetId, p.versionId) with
    | none => .error "INVALID_PREDECESSOR_BINDING"
    | some existing =>
      if existing.canonicalDigest ≠ p.canonicalDigest then .error "INVALID_PREDECESSOR_BINDING"
      else if p.assetId ≠ b.blueprintId ∨ p.versionId = b.versionId then
        .error "INVALID_PREDECESSOR_BINDING"
      else .ok ()

def Authority.validateDecision (w : Authority) (d : AuthorityDecision) : Except String Unit :=
  match w.proposals.get? d.key with
  | none => .error "MALFORMED_AUTHORITY_DECISION"
  | some b =>
    if b.canonicalDigest ≠ d.blueprintDigest then .error "MALFORMED_AUTHORITY_DECISION"
    else match expectedActions d.facet with
      | none => .error "MALFORMED_AUTHORITY_DECISION"
      | some actions =>
        if d.action ∉ actions then .error "MALFORMED_AUTHORITY_DECISION"
        else if d.facet ≠ "REVIEW" ∧ w.registered.get? d.key = none then
          .error "BLUEPRINT_NOT_REGISTERED"
        else if d.facet = "REVIEW" ∧ (d.scope ≠ "registration" ∨ d.purpose ≠ "registration") then
          .error "MALFORMED_AUTHORITY_DECISION"
        else if ∃ e ∈ d.expiresAt, e ≤ d.effectiveAt then .error "INVALID_EXPIRY"
        else .ok ()

/-- Look up what `propose` and `register` find under the key of a blueprint: nothing, or
the same version again. -/
def lookUp [Whitespace] (stored : Dict Key SolutionBlueprint) (b : SolutionBlueprint) :
    Except String (Option SolutionBlueprint) :=
  match stored.get? b.identityKey with
  | none => .ok none
  | some existing =>
    if existing.semanticBytes = b.semanticBytes then .ok (some existing)
    else .error "CONFLICTING_BLUEPRINT_VERSION"

/-- What `append_decision` finds under one identity of a decision. -/
def lookUpDecision (stored : Option AuthorityDecision) (d : AuthorityDecision) :
    Except String (Option AuthorityDecision) :=
  match stored with
  | none => .ok none
  | some existing => if existing = d then .ok (some existing) else .error "CONFLICTING_AUTHORITY_DECISION"

section Calls

variable [Whitespace]

/-- The checks of `propose`; a version that was proposed before is found. -/
def Authority.admitProposal (w : Authority) (b : SolutionBlueprint) :
    Except String (Option SolutionBlueprint) := do
  b.validate
  match ← lookUp w.proposals b with
  | some existing => .ok (some existing)
  | none =>
    w.validateSuccessor b
    .ok none

def Authority.propose (w : Authority) (b : SolutionBlueprint) :
    Except String SolutionBlueprint × Authority :=
  match w.admitProposal b with
  | .error code => (.error code, w)
  | .ok (some existing) => (.ok existing, w)
  | .ok none => (.ok b, { w with proposals := w.proposals.set b.identityKey b })

/-- The checks of `append_decision`; a decision that was appended before is found, by
its identity or by its replay identity. -/
def Authority.admitDecision (w : Authority) (d : AuthorityDecision) :
    Except String (Option AuthorityDecision) := do
  w.validateDecision d
  match ← lookUpDecision (w.decisionIds.get? d.decisionId) d with
  | some existing => .ok (some existing)
  | none => lookUpDecision (w.replays.get? d.replayIdentity) d

def Authority.appendDecision (w : Authority) (d : AuthorityDecision) :
    Except String AuthorityDecision × Authority :=
  match w.admitDecision d with
  | .error code => (.error code, w)
  | .ok (some existing) => (.ok existing, w)
  | .ok none =>
    (.ok d, { w with decisionIds := w.decisionIds.set d.decisionId d,
                     replays := w.replays.set d.replayIdentity d,
                     decisions := w.decisions ++ [d] })

/-- The reviews of a blueprint, the latest one last. -/
def Authority.reviews (w : Authority) (b : SolutionBlueprint) : List AuthorityDecision :=
  w.current b "REVIEW" "registration" "registration" none

/-- The checks of `register`; a version that was registered before is found. -/
def Authority.admitRegistration (w : Authority) (b : SolutionBlueprint) :
    Except String (Option SolutionBlueprint) := do
  b.validate
  match w.proposals.get? b.identityKey with
  | none => .error "BLUEPRINT_PROPOSAL_MISSING"
  | some proposed =>
    if proposed.semanticBytes ≠ b.semanticBytes then .error "BLUEPRINT_PROPOSAL_MISSING"
    else match (w.reviews b).getLast? with
      | none => .error "BLUEPRINT_APPROVAL_MISSING"
      | some review =>
        if review.action ≠ "APPROVE" then
          .error (if review.action = "REJECT" then "BLUEPRINT_REJECTED" else "BLUEPRINT_APPROVAL_MISSING")
        else lookUp w.registered b

def Authority.register (w : Authority) (b : SolutionBlueprint) :
    Except String SolutionBlueprint × Authority :=
  match w.admitRegistration b with
  | .error code => (.error code, w)
  | .ok (some existing) => (.ok existing, w)
  | .ok none => (.ok b, { w with registered := w.registered.set b.identityKey b })

/-! ### Evaluations -/

/-- The arguments of `evaluate`. -/
structure Query where
  tenantId : String
  securityDomain : String
  blueprintId : String
  versionId : String
  scope : String
  purpose : String
  at' : LocalDatetime

/-- The arguments in normal form. -/
structure Evaluation where
  key : Key
  time : Datetime
  scope : String
  purpose : String

/-- The checks of `evaluate`. -/
def Query.resolve (q : Query) : Except String Evaluation := do
  let tenant ← identifier "INVALID_TENANT_ID" q.tenantId
  let domain ← identifier "INVALID_SECURITY_DOMAIN" q.securityDomain
  let blueprint ← identifier "INVALID_BLUEPRINT_ID" q.blueprintId
  let version ← identifier "INVALID_VERSION_ID" q.versionId
  let time ← utc "INVALID_EVALUATION_TIME" q.at'
  let scope ← identifier "INVALID_SCOPE" q.scope
  let purpose ← identifier "INVALID_PURPOSE" q.purpose
  .ok ⟨(tenant, domain, blueprint, version), time, scope, purpose⟩

structure AvailabilityResult where
  available : Bool
  reasonCode : String
  blueprint : Option SolutionBlueprint
  matchAuthorized : Bool
  executionAuthorized : Bool

def unavailable : AvailabilityResult := ⟨false, "UNAVAILABLE", none, false, false⟩

/-- The answer for a version that is available. -/
def availableResult (b : SolutionBlueprint) : AvailabilityResult := ⟨true, "AVAILABLE", some b, true, false⟩

def Authority.evaluate (w : Authority) (q : Query) : AvailabilityResult :=
  match q.resolve with
  | .error _ => unavailable
  | .ok e =>
    match w.registered.get? e.key with
    | none => unavailable
    | some b =>
      if (w.effective b "PUBLICATION" e.scope e.purpose e.time).map AuthorityDecision.action
          ≠ some "PUBLISH" then unavailable
      else if (w.effective b "MATCH" e.scope e.purpose e.time).map AuthorityDecision.action
          ≠ some "GRANT" then unavailable
      else availableResult b

end Calls

end Blueprint

end AgentPlatform
