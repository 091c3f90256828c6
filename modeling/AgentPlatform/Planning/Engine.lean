/-
AgentPlatform/Planning/Engine.lean

The planning engine: validation of a candidate, the request and the decision of
its approval, corrected successors and supersession.

The records the engine hands out are frozen and built by it alone, so they carry
what the engine makes true of them: a workflow candidate its digest and tasks of
its own intent revision, a canonical revision an identity made of the approved
digest.

A call maps a state to an answer, or the reason code of the error it raises, and
the state it leaves behind; a write that precedes an error would be visible.
-/
import AgentPlatform.Planning.Order
import AgentPlatform.Planning.Tasks
import AgentPlatform.Py.Table

namespace AgentPlatform
namespace Planning

open Py

/-! ### Records -/

structure IntentRevision where
  intentId : String
  intentRevisionId : String
  revision : Nat
  predecessorRevisionId : Option String
  schemaVersion : String
  policyVersion : Identifier
  sourceQuestionId : Identifier
  objective : String
  constraints : List String
  successCriteria : List String
  canonicalDigest : String
  id_eq : intentRevisionId = "intent-revision:" ++ canonicalDigest
  digest_hex : isHex64 canonicalDigest = true
  deriving DecidableEq

def intentSeed (policyVersion : Identifier) (intentId : String) (revision : Nat)
    (predecessor : Option String) (questionId : Identifier) (objective : String)
    (constraints successCriteria : List String) (tenantId securityDomain : Identifier) : Json :=
  .obj [
    ("schemaVersion", .str schemaVersion),
    ("policyVersion", .str policyVersion.value),
    ("intentId", .str intentId),
    ("revision", .int revision),
    ("predecessor", .optStr predecessor),
    ("questionId", .str questionId.value),
    ("objective", .str objective),
    ("constraints", texts constraints),
    ("successCriteria", texts successCriteria),
    ("tenantId", .str tenantId.value),
    ("securityDomain", .str securityDomain.value)]

/-- The seed of an intent revision within a scope. -/
def IntentRevision.seed (i : IntentRevision) (tenantId securityDomain : Identifier) : Json :=
  intentSeed i.policyVersion i.intentId i.revision i.predecessorRevisionId i.sourceQuestionId
    i.objective i.constraints i.successCriteria tenantId securityDomain

def semanticTask (task : TaskRequirement) : Json :=
  .obj [
    ("taskRequirementId", .str task.taskRequirementId),
    ("futureTaskId", .str task.futureTaskId),
    ("intentRevisionId", .str task.intentRevisionId),
    ("taskType", .str task.taskType),
    ("businessPurpose", .str task.businessPurpose),
    ("inputs", texts task.inputs),
    ("outputs", texts task.outputs),
    ("dependencies", texts task.dependencies),
    ("constraints", texts task.constraints),
    ("acceptanceConditions", texts task.acceptanceConditions),
    ("riskClassification", .str task.riskClassification),
    ("approvalClassification", .str task.approvalClassification),
    ("unresolvedRequirements", texts task.unresolvedRequirements),
    ("canonicalOrdinal", .int task.canonicalOrdinal)]

/-- `semantic`, the content a candidate digest stands for. -/
def semantic (policyVersion tenantId securityDomain : Identifier) (intent : Json)
    (tasks : List TaskRequirement) (orderedTaskIds : List String) (predecessor : Option String) :
    Json :=
  .obj [
    ("schemaVersion", .str schemaVersion),
    ("digestAlgorithm", .str digestAlgorithm),
    ("policyVersion", .str policyVersion.value),
    ("tenantId", .str tenantId.value),
    ("securityDomain", .str securityDomain.value),
    ("intent", intent),
    ("tasks", .arr (tasks.map semanticTask)),
    ("orderedTaskIds", texts orderedTaskIds),
    ("predecessor", .optStr predecessor)]

/-- The tasks of a plan: at least one, at most `TASK_LIMIT`, each identified by the
intent revision and an id of its own. -/
structure PlanTasks (intentRevisionId : String) (tasks : List TaskRequirement) : Prop where
  nonempty : tasks ≠ []
  length_le : tasks.length ≤ taskLimit
  nodup : (tasks.map TaskRequirement.futureTaskId).Nodup
  id : ∀ t ∈ tasks, isIdentifier t.futureTaskId = true
  requirementId : ∀ t ∈ tasks,
    t.taskRequirementId = "task-requirement:" ++ intentRevisionId ++ ":" ++ t.futureTaskId

structure WorkflowCandidate [Unicodedata] where
  workflowCandidateId : String
  revision : Nat
  predecessorRevisionId : Option String
  tenantId : Identifier
  securityDomain : Identifier
  intentRevision : IntentRevision
  tasks : List TaskRequirement
  orderedTaskIds : List String
  candidateDigest : String
  policyVersion : Identifier
  generatorId : Identifier
  generatorVersion : Identifier
  limitations : List String
  lifecycle : PlanningState
  digest_eq : candidateDigest = digest (semantic policyVersion tenantId securityDomain
    (intentRevision.seed tenantId securityDomain) tasks orderedTaskIds predecessorRevisionId)
  tasks_ok : PlanTasks intentRevision.intentRevisionId tasks

inductive SupportState
  | supported | unsupported | unknown
  deriving DecidableEq

inductive IssueSeverity
  | error | warning
  deriving DecidableEq

structure ValidationIssue where
  reasonCode : String
  severity : IssueSeverity
  elementId : String
  supportState : SupportState

structure ValidationReport where
  candidateDigest : Option String
  policyVersion : Identifier
  issues : List ValidationIssue
  approvalEligible : Bool
  state : PlanningState

structure PlanningResult [Unicodedata] where
  question : BusinessQuestion
  intentCandidate : IntentCandidate
  workflowCandidate : Option WorkflowCandidate
  validation : ValidationReport

structure ApprovalRequest where
  approvalRequestId : String
  tenantId : String
  securityDomain : String
  candidateDigest : String
  policyVersion : String
  purpose : String
  deriving DecidableEq

structure ApprovalDecisionRecord where
  approvalId : String
  requestId : String
  candidateDigest : String
  policyVersion : String
  actor : Identifier
  decision : PlanningDecision
  decidedAt : Datetime
  replayIdentity : Identifier
  reasonCode : String
  deriving DecidableEq

structure CanonicalWorkflowRevision where
  canonicalWorkflowRevisionId : String
  revision : Nat
  predecessorRevisionId : Option String
  tenantId : Identifier
  securityDomain : Identifier
  approvedCandidateDigest : String
  approvalId : String
  policyVersion : Identifier
  intentRevision : IntentRevision
  tasks : List TaskRequirement
  orderedTaskIds : List String
  limitations : List String
  matchingEligible : Bool
  lifecycle : PlanningState
  id_eq : canonicalWorkflowRevisionId = "canonical-workflow-revision:" ++ approvedCandidateDigest
  digest_hex : isHex64 approvedCandidateDigest = true
  tasks_ok : PlanTasks intentRevision.intentRevisionId tasks

structure ProductSemanticCorrection where
  correctionId : String
  tenantId : String
  securityDomain : String
  principal : String
  predecessorRevisionId : String
  predecessorDigest : String
  affectedElementId : String
  field : String
  before : String
  after : String
  reasonCode : String

/-! ### The tasks of a candidate, in order -/

theorem rawTasks_eq_ok {v : Json} {raws : List Json} :
    rawTasks v = .ok raws ↔ v = .arr raws ∧ raws ≠ [] ∧ raws.length ≤ taskLimit ∧
      ∀ raw ∈ raws, isMapping raw = true := by
  cases v with
  | arr items =>
    simp only [rawTasks, ite_error_eq_ok', not_or, Nat.not_lt, not_not, List.all_eq_true,
      Except.ok.injEq, Json.arr.injEq]
    constructor
    · rintro ⟨hne, ⟨hl, hm⟩, rfl⟩
      exact ⟨rfl, hne, hl, hm⟩
    · rintro ⟨rfl, hne, hl, hm⟩
      exact ⟨hne, ⟨hl, hm⟩, rfl⟩
  | _ => simp [rawTasks]

/-- `tuple(task_by_id[task_id] for task_id in ordered_ids)`. -/
def tasksInOrder (tasks : List TaskRequirement) (ids : List String) : List TaskRequirement :=
  ids.filterMap (byId tasks)

theorem tasksInOrder_perm {tasks : List TaskRequirement} {ids : List String}
    (hn : (tasks.map TaskRequirement.futureTaskId).Nodup)
    (hp : ids.Perm (tasks.map TaskRequirement.futureTaskId)) :
    (tasksInOrder tasks ids).Perm tasks := by
  refine (hp.filterMap (byId tasks)).trans (List.Perm.of_eq ?_)
  rw [List.filterMap_map]
  refine (List.filterMap_congr fun t ht => ?_).trans List.filterMap_some
  exact (byId_eq_some hn).mpr ⟨ht, rfl⟩

section Plan

variable [Whitespace] [CharacterTables]

/-- The raw tasks of a parsed candidate have passed their checks. -/
theorem rawTasks_of_parse {question : BusinessQuestion} {raw : Json} {generator : Generator}
    {candidate : IntentCandidate} (h : parseIntentCandidate question raw generator = .ok candidate) :
    rawTasks (item raw "tasks") = .ok candidate.rawTasks := by
  simp only [parseIntentCandidate, ite_error_eq_ok', bind_eq_ok, Except.ok.injEq] at h
  obtain ⟨-, -, -, tasks, htasks, -, -, -, -, -, -, -, -, -, -, -, -, -, -, rfl⟩ := h
  exact htasks

theorem Reads.id_valid {rev : String} {raw : Json} {t : TaskRequirement} (h : Reads rev raw t) :
    isIdentifier t.futureTaskId = true := by
  obtain ⟨i, -, hid⟩ := h.id
  rw [hid]
  exact i.valid

theorem planTasks {rev : String} {v : Json} {raws : List Json} {tasks : List TaskRequirement}
    {ids : List String} (hraw : rawTasks v = .ok raws) (hparse : parseTasks rev raws = .ok tasks)
    (horder : orderedTasks tasks = .ok ids) : PlanTasks rev (tasksInOrder tasks ids) := by
  obtain ⟨-, hne, hl, -⟩ := rawTasks_eq_ok.mp hraw
  obtain ⟨hreads, hacc⟩ := parseTasks_eq_ok.mp hparse
  have hp := tasksInOrder_perm hacc.nodup (orderedTasks_spec hacc.nodup horder).1
  have hlen : (tasksInOrder tasks ids).length = raws.length := hp.length_eq.trans hreads.length_eq.symm
  have hmem : ∀ t ∈ tasksInOrder tasks ids, ∃ raw, Reads rev raw t := by
    intro t ht
    obtain ⟨raw, -, h⟩ := exists_of_forall₂ hreads t (hp.mem_iff.mp ht)
    exact ⟨raw, h⟩
  refine ⟨fun h => hne (List.length_eq_zero_iff.mp ?_), hlen ▸ hl, ?_, ?_, ?_⟩
  · rw [← hlen, h, List.length_nil]
  · exact (hp.map _).nodup_iff.mpr hacc.nodup
  · intro t ht
    obtain ⟨raw, h⟩ := hmem t ht
    exact h.id_valid
  · intro t ht
    obtain ⟨raw, h⟩ := hmem t ht
    exact h.requirementId

end Plan

/-! ### The engine -/

section Engine

variable [Whitespace]

/-- A `PlanningEngine`. -/
structure Engine where
  policyVersion : Identifier
  results : Table String PlanningResult
  requests : Table String ApprovalRequest
  decisions : Table String ApprovalDecisionRecord
  canonical : Table String CanonicalWorkflowRevision
  superseded : Finset String

/-- `PlanningEngine(policy_version=...)`. -/
def Engine.new (policyVersion : Identifier) : Engine :=
  ⟨policyVersion, ∅, ∅, ∅, ∅, ∅⟩

def assertScope (tenantId securityDomain : Identifier) (revision : CanonicalWorkflowRevision) :
    Except String Unit :=
  if tenantId ≠ revision.tenantId then .error "TENANT_SCOPE_MISMATCH"
  else if securityDomain ≠ revision.securityDomain then .error "SECURITY_DOMAIN_SCOPE_MISMATCH"
  else .ok ()

variable [CharacterTables]

/-- The intent revision `validate` derives from a parsed candidate. -/
def intentOf (policyVersion : Identifier) (question : BusinessQuestion)
    (candidate : IntentCandidate) (predecessor : Option CanonicalWorkflowRevision) :
    IntentRevision :=
  let revision := match predecessor with
    | none => 1
    | some p => p.revision + 1
  let intentId := "intent:" ++ question.requestId.value
  let predecessorId := predecessor.map fun p => p.intentRevision.intentRevisionId
  let seed := intentSeed policyVersion intentId revision predecessorId question.requestId
    candidate.objective candidate.constraints candidate.successCriteria question.tenantId
    question.securityDomain
  ⟨intentId, "intent-revision:" ++ digest seed, revision, predecessorId, schemaVersion,
    policyVersion, question.requestId, candidate.objective, candidate.constraints,
    candidate.successCriteria, digest seed, rfl, hexdigest_isHex64 _⟩

/-- The body of the `try` of `validate`. -/
def buildCandidate (policyVersion : Identifier) (question : BusinessQuestion) (raw : Json)
    (generator : Generator) (predecessor : Option CanonicalWorkflowRevision) :
    Except String (IntentCandidate × WorkflowCandidate) := do
  let ⟨candidate, hcandidate⟩ ← attach (parseIntentCandidate question raw generator)
  let intent := intentOf policyVersion question candidate predecessor
  let ⟨tasks, htasks⟩ ← attach (parseTasks intent.intentRevisionId candidate.rawTasks)
  let ⟨ids, hids⟩ ← attach (orderedTasks tasks)
  let ordered := tasksInOrder tasks ids
  let predecessorId := predecessor.map CanonicalWorkflowRevision.canonicalWorkflowRevisionId
  let candidateDigest := digest (semantic policyVersion question.tenantId question.securityDomain
    (intent.seed question.tenantId question.securityDomain) ordered ids predecessorId)
  .ok (candidate, ⟨"workflow-candidate:" ++ candidateDigest, intent.revision, predecessorId,
    question.tenantId, question.securityDomain, intent, ordered, ids, candidateDigest,
    policyVersion, candidate.generatorId, candidate.generatorVersion,
    ["FUTURE_MATCHING_ONLY", "NON_EXECUTABLE"], .valid, rfl,
    planTasks (rawTasks_of_parse hcandidate) htasks hids⟩)

/-- The state a reason code stands for. -/
def stateOf (reason : String) : PlanningState :=
  if "UNSUPPORTED".toList.isPrefixOf reason.toList then .unsupported
  else if "UNKNOWN".toList.isPrefixOf reason.toList then .unknown
  else .invalid

def supportOf : PlanningState → SupportState
  | .unsupported => .unsupported
  | .unknown => .unknown
  | _ => .supported

/-- The result `validate` returns for a candidate that was refused. -/
def refused (policyVersion : Identifier) (question : BusinessQuestion) (generator : Generator)
    (reason : String) : Except String PlanningResult := do
  let generatorId ← identifier "INVALID_GENERATOR" (.str generator.generatorId)
  let generatorVersion ← identifier "INVALID_GENERATOR_VERSION" (.str generator.generatorVersion)
  let state := stateOf reason
  .ok ⟨question,
    ⟨"intent-candidate:invalid", question.requestId.value, generatorId, generatorVersion, "INVALID",
      [], [], [], [], [], state⟩,
    none,
    ⟨none, policyVersion, [⟨reason, .error, question.requestId.value, supportOf state⟩], false,
      state⟩⟩

def Engine.validate (e : Engine) (question : BusinessQuestion) (raw : Json) (generator : Generator)
    (predecessor : Option CanonicalWorkflowRevision) : Except String PlanningResult × Engine :=
  match predecessor.toList.forM (assertScope question.tenantId question.securityDomain) with
  | .error code => (.error code, e)
  | .ok () =>
    match buildCandidate e.policyVersion question raw generator predecessor with
    | .error reason =>
      match refused e.policyVersion question generator reason with
      | .error code => (.error code, e)
      | .ok result =>
        (.ok result, { e with results := e.results.insert "intent-candidate:invalid" result })
    | .ok (candidate, workflow) =>
      let result : PlanningResult := ⟨question, candidate, some workflow,
        ⟨some workflow.candidateDigest, e.policyVersion, [], true, .valid⟩⟩
      (.ok result, { e with results := e.results.insert workflow.workflowCandidateId result })

/-! ### Approval -/

/-- The candidate of a result that can be approved. -/
def approvable (result : PlanningResult) : Except String WorkflowCandidate :=
  match result.workflowCandidate with
  | none => .error "CANDIDATE_NOT_APPROVAL_ELIGIBLE"
  | some workflow =>
    if result.validation.approvalEligible then .ok workflow
    else .error "CANDIDATE_NOT_APPROVAL_ELIGIBLE"

def requestOf (workflow : WorkflowCandidate) : ApprovalRequest :=
  ⟨"planning-approval-request:" ++ workflow.candidateDigest, workflow.tenantId.value,
    workflow.securityDomain.value, workflow.candidateDigest, workflow.policyVersion.value,
    "CANONICAL_PLANNING"⟩

def Engine.requestApproval (e : Engine) (result : PlanningResult) :
    Except String ApprovalRequest × Engine :=
  match approvable result with
  | .error code => (.error code, e)
  | .ok workflow =>
    let request := requestOf workflow
    (.ok request, { e with requests := e.requests.insert request.approvalRequestId request })

/-- The arguments of `decide`; `none` is a decision or a time of another type. -/
structure Decide where
  result : PlanningResult
  request : ApprovalRequest
  tenantId : Json
  securityDomain : Json
  actor : Json
  decision : Option PlanningDecision
  decidedAt : Option LocalDatetime
  replayIdentity : Json
  reasonCode : Json
  predecessor : Option CanonicalWorkflowRevision

/-- The checks of `decide` that link a candidate to its predecessor. -/
def checkPredecessor (workflow : WorkflowCandidate) :
    Option CanonicalWorkflowRevision → Except String Unit
  | none =>
    if workflow.predecessorRevisionId ≠ none then .error "SUCCESSOR_PREDECESSOR_REQUIRED"
    else .ok ()
  | some p => do
    assertScope workflow.tenantId workflow.securityDomain p
    if workflow.revision ≠ p.revision + 1 then .error "SUCCESSOR_REVISION_MISMATCH"
    else if workflow.predecessorRevisionId ≠ some p.canonicalWorkflowRevisionId then
      .error "SUCCESSOR_LINK_MISMATCH"
    else .ok ()

def approvalIdentity (requestId : String) (replay : Identifier) : Json :=
  .obj [("request", .str requestId), ("replay", .str replay.value)]

/-- The part of `decide` before it looks at earlier decisions: the candidate and the
record of this decision. -/
def Engine.authorize (e : Engine) (c : Decide) :
    Except String (WorkflowCandidate × ApprovalDecisionRecord) := do
  let workflow ← approvable c.result
  let trustedTenant ← identifier "INVALID_TENANT" c.tenantId
  let trustedDomain ← identifier "INVALID_SECURITY_DOMAIN" c.securityDomain
  if trustedTenant ≠ workflow.tenantId then .error "TENANT_SCOPE_MISMATCH"
  else if trustedDomain ≠ workflow.securityDomain then .error "SECURITY_DOMAIN_SCOPE_MISMATCH"
  else if e.requests.lookup c.request.approvalRequestId ≠ some c.request then
    .error "INVALID_APPROVAL_REQUEST"
  else if c.request.candidateDigest ≠ workflow.candidateDigest ∨
      c.request.policyVersion ≠ workflow.policyVersion.value ∨
      c.request.tenantId ≠ workflow.tenantId.value ∨
      c.request.securityDomain ≠ workflow.securityDomain.value then
    .error "APPROVAL_BINDING_MISMATCH"
  else do
    checkPredecessor workflow c.predecessor
    let actor ← identifier "INVALID_APPROVAL_ACTOR" c.actor
    let replay ← identifier "INVALID_REPLAY_IDENTITY" c.replayIdentity
    let reason ← identifier "INVALID_APPROVAL_REASON" c.reasonCode
    let decidedAt ← timestamp "INVALID_APPROVAL_TIMESTAMP" c.decidedAt
    match c.decision with
    | none => .error "INVALID_APPROVAL_DECISION"
    | some decision =>
      .ok (workflow,
        ⟨"planning-approval:" ++ digest (approvalIdentity c.request.approvalRequestId replay),
          c.request.approvalRequestId, c.request.candidateDigest, c.request.policyVersion, actor,
          decision, decidedAt, replay, reason.upper⟩)

def canonicalOf (workflow : WorkflowCandidate) (approvalId : String)
    (predecessor : Option CanonicalWorkflowRevision) : CanonicalWorkflowRevision :=
  ⟨"canonical-workflow-revision:" ++ workflow.candidateDigest, workflow.revision,
    predecessor.map CanonicalWorkflowRevision.canonicalWorkflowRevisionId, workflow.tenantId,
    workflow.securityDomain, workflow.candidateDigest, approvalId, workflow.policyVersion,
    workflow.intentRevision, workflow.tasks, workflow.orderedTaskIds, workflow.limitations, true,
    .canonicalized, rfl, by rw [workflow.digest_eq]; exact hexdigest_isHex64 _, workflow.tasks_ok⟩

/-- `decide(result, request, ...)`. -/
def Engine.decide (e : Engine) (c : Decide) :
    Except String (Option CanonicalWorkflowRevision) × Engine :=
  match e.authorize c with
  | .error code => (.error code, e)
  | .ok (workflow, record) =>
    match e.decisions.lookup record.replayIdentity.value with
    | some existing =>
      if existing ≠ record then (.error "APPROVAL_REPLAY_MISMATCH", e)
      else (.ok (e.canonical.lookup existing.approvalId), e)
    | none =>
      let e := { e with decisions := e.decisions.insert record.replayIdentity.value record }
      match record.decision with
      | .reject => (.ok none, e)
      | .approve =>
        let canonical := canonicalOf workflow record.approvalId c.predecessor
        let e := { e with canonical := e.canonical.insert record.approvalId canonical }
        match c.predecessor with
        | none => (.ok (some canonical), e)
        | some p =>
          (.ok (some canonical),
            { e with superseded := insert p.canonicalWorkflowRevisionId e.superseded })

/-! ### Successors -/

/-- The checks of `corrected_successor` on the correction. -/
def checkCorrection (predecessor : CanonicalWorkflowRevision) (correction : ProductSemanticCorrection)
    (raw : Json) : Except String Unit :=
  if correction.tenantId ≠ predecessor.tenantId.value ∨
      correction.securityDomain ≠ predecessor.securityDomain.value ∨
      correction.predecessorRevisionId ≠ predecessor.canonicalWorkflowRevisionId ∨
      correction.predecessorDigest ≠ predecessor.approvedCandidateDigest then
    .error "CORRECTION_BINDING_MISMATCH"
  else do
    let _ ← identifier "INVALID_CORRECTION_ID" (.str correction.correctionId)
    let _ ← identifier "INVALID_CORRECTION_PRINCIPAL" (.str correction.principal)
    let _ ← identifier "INVALID_CORRECTION_REASON" (.str correction.reasonCode)
    let before ← text "INVALID_CORRECTION_BEFORE" itemTextLimit (.str correction.before)
    let after ← text "INVALID_CORRECTION_AFTER" itemTextLimit (.str correction.after)
    if before = after then .error "INVALID_CORRECTION_PATCH"
    else if correction.field ≠ "objective" then .error "UNSUPPORTED_CORRECTION_FIELD"
    else if correction.affectedElementId ≠ predecessor.intentRevision.intentRevisionId then
      .error "INVALID_CORRECTION_TARGET"
    else if before ≠ predecessor.intentRevision.objective then .error "CORRECTION_BEFORE_MISMATCH"
    else
      match raw.get? "objective" with
      | some (.str s) => if s ≠ after then .error "CORRECTION_AFTER_MISMATCH" else .ok ()
      | _ => .error "CORRECTION_AFTER_MISMATCH"

def Engine.correctedSuccessor (e : Engine) (predecessor : CanonicalWorkflowRevision)
    (correction : ProductSemanticCorrection) (question : BusinessQuestion) (raw : Json)
    (generator : Generator) : Except String PlanningResult × Engine :=
  match assertScope question.tenantId question.securityDomain predecessor with
  | .error code => (.error code, e)
  | .ok () =>
    match checkCorrection predecessor correction raw with
    | .error code => (.error code, e)
    | .ok () => e.validate question raw generator (some predecessor)

def Engine.markSuperseded (e : Engine) (predecessor successor : CanonicalWorkflowRevision) :
    Except String CanonicalWorkflowRevision × Engine :=
  match assertScope successor.tenantId successor.securityDomain predecessor with
  | .error code => (.error code, e)
  | .ok () =>
    if successor.predecessorRevisionId ≠ some predecessor.canonicalWorkflowRevisionId then
      (.error "SUCCESSOR_LINK_MISMATCH", e)
    else
      (.ok { predecessor with matchingEligible := false, lifecycle := .superseded },
        { e with superseded := insert predecessor.canonicalWorkflowRevisionId e.superseded })

def Engine.isMatchingEligible (e : Engine) (revision : CanonicalWorkflowRevision) : Bool :=
  revision.matchingEligible && revision.lifecycle = .canonicalized &&
    revision.canonicalWorkflowRevisionId ∉ e.superseded

end Engine

end Planning
end AgentPlatform
