/-
AgentPlatform/Authority/Tables.lean

The rows of browser identity and of grant administration.

The members of a request or of an offer are kept with its row, in the order of
their ordinals: they are inserted with it and never change. The audit events
are left out, as nothing reads them. A timestamp is an instant.
-/
import AgentPlatform.Authority.Contracts
import AgentPlatform.Delegation.Active

namespace AgentPlatform

open Py

namespace Authority

open Delegation (ActiveGeneration)

/-! ### Browser identity -/

/-- A row of `login_nonces`. -/
structure LoginNonce where
  nonceDigest : String
  expiresAt : Datetime
  consumedAt : Option Datetime
  deriving DecidableEq

structure SessionRow where
  sessionId : String
  secretDigest : String
  principalId : String
  scope : AuthorityScope
  credentialId : String
  credentialExpiresAt : Datetime
  policyVersion : String
  issuedAt : Datetime
  lastSeenAt : Datetime
  idleExpiresAt : Datetime
  absoluteExpiresAt : Datetime
  recoveryEpoch : Int
  generation : Int
  rotatedTo : Option String
  deriving DecidableEq

/-- A row of `session_revocation_facts`. -/
structure SessionRevocation where
  sessionId : String
  reasonCategory : String
  actorId : String
  revokedAt : Datetime
  deriving DecidableEq

/-! ### Requests, decisions and grants -/

inductive GrantRequestStatus
  | pending
  | approved
  | rejected
  deriving DecidableEq, Repr

/-- A row of `grant_requests`, with its members. -/
structure GrantRequestRow where
  requestId : String
  subjectPrincipalId : String
  scope : AuthorityScope
  purpose : String
  state : GrantRequestStatus
  aggregateVersion : Int
  createdAt : Datetime
  decidedAt : Option Datetime
  members : List ExactGrant
  deriving DecidableEq

structure GrantDecisionRow where
  decisionId : String
  requestId : String
  issuerPrincipalId : String
  issuerMetaDecisionId : String
  approved : Bool
  reasonCategory : String
  basisType : String
  basisReferenceDigest : String
  policyVersion : String
  auditSource : String
  createdAt : Datetime
  deriving DecidableEq

/-- A row of `grants`; what it repeats of its decision is not kept twice. -/
structure GrantRow where
  grantId : String
  decisionId : String
  requestId : String
  subjectPrincipalId : String
  scope : AuthorityScope
  target : ExactGrant
  policyVersion : String
  notBefore : Datetime
  expiresAt : Datetime
  createdAt : Datetime
  recoveryEpoch : Int
  deriving DecidableEq

/-- A row of `effective_grants`. -/
structure EffectiveGrant where
  grantId : String
  subjectPrincipalId : String
  scope : AuthorityScope
  target : ExactGrant
  notBefore : Datetime
  expiresAt : Datetime
  recoveryEpoch : Int
  deriving DecidableEq

/-- A row of `grant_revocation_facts`. -/
structure GrantRevocation where
  grantId : String
  actorId : String
  reasonCategory : String
  payloadDigest : String
  revokedAt : Datetime
  deriving DecidableEq

/-! ### Continuations, claims and recovery -/

/-- A row of `continuation_offers`, with its members. -/
structure ContinuationOffer where
  offerId : String
  continuationDigest : String
  subjectPrincipalId : String
  scope : AuthorityScope
  purpose : String
  owner : String
  canonicalResourceReference : String
  ownerRevision : String
  policyGeneration : Int
  mintKey : String
  mintPayloadDigest : String
  issuedAt : Datetime
  expiresAt : Datetime
  revokedAt : Option Datetime
  recoveryEpoch : Int
  members : List ExactGrant
  deriving DecidableEq

/-- A row of `continuation_consumptions`. -/
structure ContinuationConsumption where
  continuationDigest : String
  requestId : String
  subjectPrincipalId : String
  purpose : String
  idempotencyKey : String
  payloadDigest : String
  consumedAt : Datetime
  deriving DecidableEq

/-- The primary key of `idempotency_claims`. -/
structure ClaimKey where
  scope : AuthorityScope
  actorId : String
  commandType : String
  idempotencyKey : String
  deriving DecidableEq

/-- A row of `idempotency_claims`. -/
structure IdempotencyClaim where
  key : ClaimKey
  payloadDigest : String
  resultKind : String
  resultId : String
  deriving DecidableEq

/-- The states of a recovery record. -/
inductive RecoveryState
  | recoveryClosed
  | active
  deriving DecidableEq, Repr

/-- A row of `recovery_records`. -/
structure RecoveryRecord where
  recoveryEpoch : Int
  databaseFingerprint : String
  generation : Int
  generationDigest : String
  migrationVersion : Int
  state : RecoveryState
  operatorId : String
  auditContinuityDigest : String
  deriving DecidableEq

/-! ### The database -/

/-- The rows. The active generation is one of the rows that a delegation looks
at; `continuityInstalled` says whether the tables of the identity continuity
extension exist. -/
structure Database where
  delegation : Delegation.Tables
  continuityInstalled : Bool
  nonces : List LoginNonce
  sessions : List SessionRow
  sessionRevocations : List SessionRevocation
  requests : List GrantRequestRow
  decisions : List GrantDecisionRow
  grants : List GrantRow
  effective : List EffectiveGrant
  grantRevocations : List GrantRevocation
  offers : List ContinuationOffer
  consumptions : List ContinuationConsumption
  claims : List IdempotencyClaim
  records : List RecoveryRecord

namespace Database

variable (s : Database)

/-- The row of `active_generation`. -/
def active : Option ActiveGeneration := s.delegation.activeGeneration

def session (id : String) : Option SessionRow := s.sessions.find? fun r => r.sessionId = id

/-- The session has a revocation fact. -/
def revoked (id : String) : Bool := s.sessionRevocations.any fun r => r.sessionId = id

end Database

end Authority

end AgentPlatform
