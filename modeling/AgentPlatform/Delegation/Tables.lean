/-
AgentPlatform/Delegation/Tables.lean

The rows of a task delegation: the delegation with its control flag and
revocation, the extensions added to it later (development revision and stop,
cases, timeout revision, identity continuity), and the rows of other owners it
looks at (draft invocations, planning invocations with results and receipts).

An extension whose tables do not exist reads as one without rows: every reader
returns the same in both cases, so absence is not modelled. Rows carry the
columns that the modelled functions read. Records that a digest is taken of
are written out as JSON; a timestamp in them is written with `str`.
-/
import AgentPlatform.Py.Datetime
import AgentPlatform.Py.Json
import AgentPlatform.Py.Hash

namespace AgentPlatform

open Py

namespace Delegation

/-! ### Digests -/

/-- `str` of a UTC datetime, which `json.dumps(..., default=str)` writes. -/
def strDatetime (t : Datetime) : Json :=
  .str (String.ofList (t.isoformat.toList.map fun c => if c = 'T' then ' ' else c))

def digest (value : Json) : String := sha256 (value.dumps true)

/-! ### The delegation -/

/-- `Limits`: what the delegation allows one of its two budget ledgers. -/
structure Limits where
  ledgerId : String
  configurationDigest : String
  profileRevisionId : String
  profileDigest : String
  modelTarget : String
  calls : Int
  inputTokens : Int
  outputTokens : Int
  costMicrousd : Int
  deriving DecidableEq

def Limits.toJson (l : Limits) : Json :=
  .obj [("ledger_id", .str l.ledgerId), ("configuration_digest", .str l.configurationDigest),
    ("profile_revision_id", .str l.profileRevisionId), ("profile_digest", .str l.profileDigest),
    ("model_target", .str l.modelTarget), ("calls", .int l.calls),
    ("input_tokens", .int l.inputTokens), ("output_tokens", .int l.outputTokens),
    ("cost_microusd", .int l.costMicrousd)]

/-- The two purposes a ledger is linked for. -/
inductive Purpose
  | understanding
  | planning
  deriving DecidableEq

def Purpose.text : Purpose → String
  | .understanding => "understanding"
  | .planning => "planning"

/-- A row of `task_delegations`; `understanding` and `planning` are in its record. -/
structure TaskDelegation where
  delegationId : String
  taskId : String
  tenantId : String
  securityDomain : String
  subjectId : String
  rootContextId : String
  issuerId : String
  generation : Int
  recoveryEpoch : Int
  expiresAt : Datetime
  digest : String
  understanding : Limits
  planning : Limits

/-- `row["record"][purpose]`. -/
def TaskDelegation.limits (row : TaskDelegation) : Purpose → Limits
  | .understanding => row.understanding
  | .planning => row.planning

/-- A row of `task_delegation_ledgers`. -/
structure LedgerLink where
  tenantId : String
  securityDomain : String
  ledgerId : String
  delegationId : String
  purpose : Purpose
  deriving DecidableEq

def LedgerLink.toJson (l : LedgerLink) : Json :=
  .obj [("tenant_id", .str l.tenantId), ("security_domain", .str l.securityDomain),
    ("ledger_id", .str l.ledgerId), ("purpose", .str l.purpose.text)]

/-- The singleton row of `active_generation`. -/
structure ActiveGeneration where
  generation : Int
  generationDigest : String
  recoveryEpoch : Int
  deriving DecidableEq

/-- A row of `task_delegation_resources`. -/
structure Resource where
  owner : String
  resourceId : String
  delegationId : String
  deriving DecidableEq

/-! ### Extensions -/

/-- A row of `task_development_revisions`. -/
structure DevelopmentRevision where
  delegationId : String
  issuerId : String
  createdAt : Datetime
  digest : String
  record : Json

def DevelopmentRevision.toJson (r : DevelopmentRevision) : Json :=
  .obj [("delegation_id", .str r.delegationId), ("issuer_id", .str r.issuerId),
    ("created_at", strDatetime r.createdAt), ("digest", .str r.digest), ("record", r.record)]

/-- What `unknown_facts` verifies of one unknown call. -/
structure UnknownFact where
  invocationId : String
  reservationId : String
  receiptDigest : String
  deriving DecidableEq

def UnknownFact.toJson (f : UnknownFact) : Json :=
  .obj [("invocation_id", .str f.invocationId), ("reservation_id", .str f.reservationId),
    ("receipt_digest", .str f.receiptDigest), ("local_worker_reaped", .bool true),
    ("remote_processing_and_cost", .str "UNKNOWN")]

/-- The record of an enrolled case. -/
structure CaseRecord where
  contextId : String
  caseLabel : String
  descriptionDigest : String
  unknownInvocationIds : List String
  idempotencyKey : String
  facts : List UnknownFact
  developmentRevisionDigest : String
  subjectId : String
  tenantId : String
  securityDomain : String
  generation : Int
  recoveryEpoch : Int
  understanding : Limits
  planning : Limits

def CaseRecord.toJson (r : CaseRecord) : Json :=
  .obj [("context_id", .str r.contextId), ("case_label", .str r.caseLabel),
    ("description_digest", .str r.descriptionDigest),
    ("unknown_invocation_ids", .arr (r.unknownInvocationIds.map .str)),
    ("idempotency_key", .str r.idempotencyKey), ("facts", .arr (r.facts.map (·.toJson))),
    ("development_revision_digest", .str r.developmentRevisionDigest),
    ("subject_id", .str r.subjectId), ("tenant_id", .str r.tenantId),
    ("security_domain", .str r.securityDomain), ("generation", .int r.generation),
    ("recovery_epoch", .int r.recoveryEpoch),
    ("configurations", .obj [("understanding", r.understanding.toJson),
      ("planning", r.planning.toJson)]),
    ("synthetic_case_only", .bool true)]

/-- A row of `task_cases`. -/
structure TaskCase where
  delegationId : String
  contextId : String
  issuerId : String
  idempotencyKey : String
  createdAt : Datetime
  digest : String
  record : CaseRecord

def TaskCase.toJson (c : TaskCase) : Json :=
  .obj [("delegation_id", .str c.delegationId), ("context_id", .str c.contextId),
    ("issuer_id", .str c.issuerId), ("idempotency_key", .str c.idempotencyKey),
    ("created_at", strDatetime c.createdAt), ("digest", .str c.digest),
    ("record", c.record.toJson)]

/-- A row of `task_case_problems`. -/
structure CaseProblem where
  delegationId : String
  contextId : String
  problemId : String
  invocationId : String
  deriving DecidableEq

/-- The record of a timeout revision. -/
structure TimeoutRecord where
  problemId : String
  originalConfigurationDigest : String
  previousReadSeconds : Int
  readSeconds : Int
  idempotencyKey : String
  originalLimits : Limits
  limits : Limits
  totalSeconds : Int
  subjectId : String
  tenantId : String
  securityDomain : String
  generation : Int
  recoveryEpoch : Int

def TimeoutRecord.toJson (r : TimeoutRecord) : Json :=
  .obj [("problem_id", .str r.problemId),
    ("original_configuration_digest", .str r.originalConfigurationDigest),
    ("previous_read_seconds", .int r.previousReadSeconds), ("read_seconds", .int r.readSeconds),
    ("idempotency_key", .str r.idempotencyKey), ("original_limits", r.originalLimits.toJson),
    ("limits", r.limits.toJson), ("total_seconds", .int r.totalSeconds),
    ("subject_id", .str r.subjectId), ("tenant_id", .str r.tenantId),
    ("security_domain", .str r.securityDomain), ("generation", .int r.generation),
    ("recovery_epoch", .int r.recoveryEpoch)]

/-- A row of `task_timeout_revisions`. -/
structure TimeoutRevision where
  delegationId : String
  problemId : String
  issuerId : String
  digest : String
  record : TimeoutRecord
  createdAt : Datetime

def TimeoutRevision.toJson (r : TimeoutRevision) : Json :=
  .obj [("delegation_id", .str r.delegationId), ("problem_id", .str r.problemId),
    ("issuer_id", .str r.issuerId), ("digest", .str r.digest), ("record", r.record.toJson),
    ("created_at", strDatetime r.createdAt)]

/-- A row of `task_identity_transitions`. -/
structure IdentityTransition where
  transitionId : String
  oldGeneration : Int
  generation : Int
  recoveryEpoch : Int
  generationDigest : String
  deriving DecidableEq

/-- A row of `task_identity_continuities`; `bindingDigest` is in its record. -/
structure IdentityContinuity where
  continuityId : String
  delegationId : String
  ordinal : Int
  transitionId : String
  generation : Int
  recoveryEpoch : Int
  subjectCredentialId : String
  bindingDigest : String
  createdAt : Datetime
  expiresAt : Datetime
  deriving DecidableEq

/-- The record of a diagnostic admission, and its row. -/
structure DiagnosticAdmission where
  delegationId : String
  requestKey : String
  unknownInvocationIds : List String
  facts : List UnknownFact
  target : Option Json

/-! ### Rows of other owners -/

/-- The record of a draft invocation, in `draft_assistance.invocation_versions`. -/
structure DraftRecord where
  invocationId : String
  contextId : String
  turnId : String
  snapshotCandidateId : String
  initiatingPrincipalId : String
  profileRevisionId : String
  requestTarget : String
  modelTarget : String
  state : String
  cleanupReason : Option String
  problemId : Option String
  deriving DecidableEq

/-- A row of `draft_assistance.invocation_versions`. -/
structure DraftVersion where
  namespace_ : String
  securityDomain : String
  invocationId : String
  aggregateVersion : Int
  record : DraftRecord

/-- A row of `workflow_planning.invocations`. `problem` is
`record["target"]["problem"]`, `problemId` the id of the problem in it. -/
structure PlanInvocation where
  namespace_ : String
  securityDomain : String
  actorId : String
  requestKey : String
  invocationId : String
  problemId : String
  problem : Json

/-- A row of `workflow_planning.invocation_results`. -/
structure PlanResult where
  namespace_ : String
  securityDomain : String
  invocationId : String
  technicalStatus : String

/-- A row of `workflow_planning.provider_receipts`. -/
structure ProviderReceipt where
  namespace_ : String
  securityDomain : String
  invocationId : String
  record : Json

/-! ### The database -/

/-- The tables of the delegation owner and of the owners it reads. -/
structure Tables where
  activeGeneration : Option ActiveGeneration
  delegations : List TaskDelegation
  /-- `task_delegation_control`: the flag of each delegation. -/
  control : List (String × Bool)
  revocations : List String
  /-- `task_delegation_decisions`: decision and delegation. -/
  decisions : List (String × String)
  ledgers : List LedgerLink
  resources : List Resource
  revisions : List DevelopmentRevision
  stops : List String
  admissions : List DiagnosticAdmission
  cases : List TaskCase
  caseProblems : List CaseProblem
  timeouts : List TimeoutRevision
  transitions : List IdentityTransition
  continuities : List IdentityContinuity
  continuityRevocations : List String
  drafts : List DraftVersion
  plans : List PlanInvocation
  results : List PlanResult
  receipts : List ProviderReceipt

end Delegation

end AgentPlatform
