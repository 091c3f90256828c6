/-
AgentPlatform/Feedback/Records.lean

Interventions and outcome feedback (`intervention_feedback.py`): the values of the
schemas, the targets that the platform issues, and the records with their digests.

A record belongs to a `Binding`, the part of a target that it is found by.
-/
import AgentPlatform.Py.Hash
import AgentPlatform.Py.Json
import AgentPlatform.Py.Text

namespace AgentPlatform

open Py

namespace Feedback

/-- `InterventionFeedbackFailure` with its subclasses, and the exception of a model. -/
inductive Failure
  | invalid (reasonCode : String)
  | denied
  | notFound
  | conflict (reasonCode : String)
  | unavailable (reasonCode : String)
  | validation
  deriving DecidableEq

/-! ### Values -/

inductive InterventionEventKind
  | taskAdded
  | taskRemoved
  | taskRewritten
  | taskOrderOrDependencyChanged
  | roleReplaced
  | roleGapIdentified
  | dataRequirementChanged
  | knowledgeRequirementChanged
  | skillChanged
  | capabilityChanged
  | approvalPointChanged
  | constraintChanged
  | outputFormatChanged
  | workflowRejected
  | resultFeedbackProvided
  deriving DecidableEq

def InterventionEventKind.value : InterventionEventKind → String
  | taskAdded => "TASK_ADDED"
  | taskRemoved => "TASK_REMOVED"
  | taskRewritten => "TASK_REWRITTEN"
  | taskOrderOrDependencyChanged => "TASK_ORDER_OR_DEPENDENCY_CHANGED"
  | roleReplaced => "ROLE_REPLACED"
  | roleGapIdentified => "ROLE_GAP_IDENTIFIED"
  | dataRequirementChanged => "DATA_REQUIREMENT_CHANGED"
  | knowledgeRequirementChanged => "KNOWLEDGE_REQUIREMENT_CHANGED"
  | skillChanged => "SKILL_CHANGED"
  | capabilityChanged => "CAPABILITY_CHANGED"
  | approvalPointChanged => "APPROVAL_POINT_CHANGED"
  | constraintChanged => "CONSTRAINT_CHANGED"
  | outputFormatChanged => "OUTPUT_FORMAT_CHANGED"
  | workflowRejected => "WORKFLOW_REJECTED"
  | resultFeedbackProvided => "RESULT_FEEDBACK_PROVIDED"

inductive InterventionLifecycle
  | recorded
  | excluded
  | retained
  | tombstoned
  deriving DecidableEq

def InterventionLifecycle.value : InterventionLifecycle → String
  | recorded => "RECORDED"
  | excluded => "EXCLUDED"
  | retained => "RETAINED"
  | tombstoned => "TOMBSTONED"

inductive AffectedElementReference
  | workflow
  | workflowObjective
  | taskRequirement
  | taskDependency
  | roleBinding
  | dataRequirement
  | knowledgeRequirement
  | skillBinding
  | capabilityBinding
  | approvalPoint
  | constraint
  | outputFormat
  | outcome
  deriving DecidableEq

def AffectedElementReference.value : AffectedElementReference → String
  | workflow => "WORKFLOW"
  | workflowObjective => "WORKFLOW_OBJECTIVE"
  | taskRequirement => "TASK_REQUIREMENT"
  | taskDependency => "TASK_DEPENDENCY"
  | roleBinding => "ROLE_BINDING"
  | dataRequirement => "DATA_REQUIREMENT"
  | knowledgeRequirement => "KNOWLEDGE_REQUIREMENT"
  | skillBinding => "SKILL_BINDING"
  | capabilityBinding => "CAPABILITY_BINDING"
  | approvalPoint => "APPROVAL_POINT"
  | constraint => "CONSTRAINT"
  | outputFormat => "OUTPUT_FORMAT"
  | outcome => "OUTCOME"

inductive CorrectionPatchReference
  | noPatch
  | objectiveReplacement
  | taskSetPatch
  | dependencyPatch
  | roleBindingPatch
  | dataRequirementPatch
  | knowledgeRequirementPatch
  | skillBindingPatch
  | capabilityBindingPatch
  | approvalPointPatch
  | constraintPatch
  | outputFormatPatch
  deriving DecidableEq

def CorrectionPatchReference.value : CorrectionPatchReference → String
  | noPatch => "NO_PATCH"
  | objectiveReplacement => "OBJECTIVE_REPLACEMENT"
  | taskSetPatch => "TASK_SET_PATCH"
  | dependencyPatch => "DEPENDENCY_PATCH"
  | roleBindingPatch => "ROLE_BINDING_PATCH"
  | dataRequirementPatch => "DATA_REQUIREMENT_PATCH"
  | knowledgeRequirementPatch => "KNOWLEDGE_REQUIREMENT_PATCH"
  | skillBindingPatch => "SKILL_BINDING_PATCH"
  | capabilityBindingPatch => "CAPABILITY_BINDING_PATCH"
  | approvalPointPatch => "APPROVAL_POINT_PATCH"
  | constraintPatch => "CONSTRAINT_PATCH"
  | outputFormatPatch => "OUTPUT_FORMAT_PATCH"

inductive InterventionReasonCode
  | humanCorrection
  | humanRejection
  | roleGap
  | missingTask
  | extraTask
  | wrongData
  | insufficientData
  | wrongKnowledge
  | wrongRole
  | wrongSkill
  | wrongCapability
  | wrongOrder
  | missingConstraint
  | wrongOutputFormat
  | citationNotUseful
  deriving DecidableEq

def InterventionReasonCode.value : InterventionReasonCode → String
  | humanCorrection => "HUMAN_CORRECTION"
  | humanRejection => "HUMAN_REJECTION"
  | roleGap => "ROLE_GAP"
  | missingTask => "MISSING_TASK"
  | extraTask => "EXTRA_TASK"
  | wrongData => "WRONG_DATA"
  | insufficientData => "INSUFFICIENT_DATA"
  | wrongKnowledge => "WRONG_KNOWLEDGE"
  | wrongRole => "WRONG_ROLE"
  | wrongSkill => "WRONG_SKILL"
  | wrongCapability => "WRONG_CAPABILITY"
  | wrongOrder => "WRONG_ORDER"
  | missingConstraint => "MISSING_CONSTRAINT"
  | wrongOutputFormat => "WRONG_OUTPUT_FORMAT"
  | citationNotUseful => "CITATION_NOT_USEFUL"

inductive FeedbackReasonCode
  | missingTask
  | extraTask
  | wrongData
  | insufficientData
  | wrongKnowledge
  | wrongRole
  | wrongSkill
  | wrongCapability
  | wrongOrder
  | missingConstraint
  | wrongOutputFormat
  | citationNotUseful
  deriving DecidableEq

def FeedbackReasonCode.value : FeedbackReasonCode → String
  | missingTask => "MISSING_TASK"
  | extraTask => "EXTRA_TASK"
  | wrongData => "WRONG_DATA"
  | insufficientData => "INSUFFICIENT_DATA"
  | wrongKnowledge => "WRONG_KNOWLEDGE"
  | wrongRole => "WRONG_ROLE"
  | wrongSkill => "WRONG_SKILL"
  | wrongCapability => "WRONG_CAPABILITY"
  | wrongOrder => "WRONG_ORDER"
  | missingConstraint => "MISSING_CONSTRAINT"
  | wrongOutputFormat => "WRONG_OUTPUT_FORMAT"
  | citationNotUseful => "CITATION_NOT_USEFUL"

inductive OutcomeAssessment
  | satisfied
  | partiallySatisfied
  | unsatisfied
  deriving DecidableEq

def OutcomeAssessment.value : OutcomeAssessment → String
  | satisfied => "SATISFIED"
  | partiallySatisfied => "PARTIALLY_SATISFIED"
  | unsatisfied => "UNSATISFIED"

inductive OptimizationUseConsentDecision
  | granted
  | denied
  deriving DecidableEq

def OptimizationUseConsentDecision.value : OptimizationUseConsentDecision → String
  | granted => "GRANTED"
  | denied => "DENIED"

inductive CaptureProvenance
  | liveExecution
  | syntheticPreview
  deriving DecidableEq

def CaptureProvenance.value : CaptureProvenance → String
  | liveExecution => "LIVE_EXECUTION"
  | syntheticPreview => "SYNTHETIC_PREVIEW"
/-! ### Commands -/

structure InterventionCaptureCommand where
  predecessorRevisionId : String
  successorRevisionId : String
  outcomeId : String
  evidenceId : String
  eventKind : InterventionEventKind
  affectedElementReference : AffectedElementReference
  correctionPatchReference : CorrectionPatchReference
  reasonCode : InterventionReasonCode
  optimizationUseConsentDecision : OptimizationUseConsentDecision

def InterventionCaptureCommand.json (c : InterventionCaptureCommand) : Json :=
  .obj [("predecessorRevisionId", .str c.predecessorRevisionId),
    ("successorRevisionId", .str c.successorRevisionId), ("outcomeId", .str c.outcomeId),
    ("evidenceId", .str c.evidenceId), ("eventKind", .str c.eventKind.value),
    ("affectedElementReference", .str c.affectedElementReference.value),
    ("correctionPatchReference", .str c.correctionPatchReference.value),
    ("reasonCode", .str c.reasonCode.value),
    ("optimizationUseConsentDecision", .str c.optimizationUseConsentDecision.value)]

/-- The lifecycle of an `InterventionLifecycleCommand`. -/
inductive LifecycleChange
  | excluded
  | retained
  | tombstoned
  deriving DecidableEq

def LifecycleChange.lifecycle : LifecycleChange → InterventionLifecycle
  | excluded => .excluded
  | retained => .retained
  | tombstoned => .tombstoned

def LifecycleChange.reason : LifecycleChange → String
  | excluded => "LIFECYCLE_EXCLUSION"
  | retained => "LIFECYCLE_RETENTION"
  | tombstoned => "LIFECYCLE_TOMBSTONE"

structure OutcomeFeedbackCommand where
  outcomeId : String
  evidenceId : String
  assessment : OutcomeAssessment
  reasonCodes : List FeedbackReasonCode
  supersedesFeedbackId : Option String

def OutcomeFeedbackCommand.json (c : OutcomeFeedbackCommand) : Json :=
  .obj [("outcomeId", .str c.outcomeId), ("evidenceId", .str c.evidenceId),
    ("assessment", .str c.assessment.value),
    ("reasonCodes", .arr (c.reasonCodes.map fun r => .str r.value)),
    ("supersedesFeedbackId", Json.optStr c.supersedesFeedbackId)]

def canonicalDigest (value : Json) : String := sha256 (Json.dumps false value)

/-! ### Targets -/

/-- `TrustedCapturePrincipal`. -/
structure Principal where
  principalId : String
  tenantId : String
  securityDomain : String
  authorized : Bool
  deriving DecidableEq

def Principal.permits (p : Principal) (tenantId securityDomain : String) : Bool :=
  p.authorized && p.principalId ≠ "" && p.tenantId = tenantId && p.securityDomain = securityDomain

/-- `TrustedInterventionTarget`. -/
structure Target where
  journeyId : String
  tenantId : String
  securityDomain : String
  provenance : String
  predecessorRevisionId : Option String
  predecessorDigest : Option String
  successorRevisionId : String
  successorDigest : String
  platformExecutionIdentity : Option String
  outcomeId : Option String
  executionEvidenceIds : List String
  deriving DecidableEq

/-- What a target is checked to have. -/
structure Checked where
  provenance : CaptureProvenance
  platformExecutionIdentity : String
  outcomeId : String

/-- `_IDENTIFIER.fullmatch`. -/
def isIdentifier (s : String) : Bool :=
  match s.toList with
  | [] => false
  | c :: cs =>
    c.isAlphanum && cs.length ≤ 255 &&
      cs.all fun c => c.isAlphanum || c ∈ ['.', '_', ':', '/', '+', '-']

section Targets

variable [Unicodedata]

def identifier (value reasonCode : String) : Except Failure String :=
  if isIdentifier (nfc value) then .ok (nfc value) else .error (.invalid reasonCode)

def provenanceOf : String → Option CaptureProvenance
  | "LIVE_EXECUTION" => some .liveExecution
  | "SYNTHETIC_PREVIEW" => some .syntheticPreview
  | _ => none

/-- The values of `_validate_target` that have to be identifiers; a missing one is none. -/
def Target.identifiers (t : Target) : List (Option String) :=
  [some t.journeyId, some t.tenantId, some t.securityDomain, some t.successorRevisionId,
    t.platformExecutionIdentity, t.outcomeId] ++ t.executionEvidenceIds.map some
    ++ t.predecessorRevisionId.toList.map some

def validateTarget (t : Target) : Except Failure Checked :=
  let invalid : Except Failure Checked := .error (.invalid "INTERVENTION_TARGET_INVALID")
  match t.platformExecutionIdentity, t.outcomeId with
  | some platformExecutionIdentity, some outcomeId =>
    if t.identifiers.any fun value => value.all fun s => !isIdentifier (nfc s) then invalid
    else
      match provenanceOf t.provenance with
      | none => .error (.invalid "CAPTURE_PROVENANCE_INVALID")
      | some provenance =>
        if t.predecessorDigest.any fun d => !isHex64 d then invalid
        else if !isHex64 t.successorDigest then invalid
        else if t.executionEvidenceIds = [] ∨ t.executionEvidenceIds.length > 32 then invalid
        else if ¬ t.executionEvidenceIds.Nodup then invalid
        else .ok ⟨provenance, platformExecutionIdentity, outcomeId⟩
  | _, _ => invalid

end Targets

/-! ### Records -/

structure InterventionEventRecord where
  recordId : String
  interventionEventId : String
  recordDigest : String
  lifecycle : InterventionLifecycle
  supersedesRecordId : Option String
  journeyId : String
  predecessorRevisionId : String
  predecessorRevisionDigest : String
  successorRevisionId : String
  successorRevisionDigest : String
  affectedElementReference : AffectedElementReference
  correctionPatchReference : CorrectionPatchReference
  eventKind : InterventionEventKind
  reasonCode : String
  principalId : String
  decisionTime : String
  tenantId : String
  securityDomain : String
  platformExecutionIdentity : String
  outcomeId : String
  executionEvidenceIds : List String
  provenance : CaptureProvenance
  optimizationUseConsentDecision : OptimizationUseConsentDecision
  deriving DecidableEq

namespace InterventionEventRecord

variable (r : InterventionEventRecord)

/-- `_record_semantic`. -/
def semantic : Json :=
  .obj [("schemaVersion", .int 1), ("recordId", .str r.recordId),
    ("interventionEventId", .str r.interventionEventId), ("lifecycle", .str r.lifecycle.value),
    ("supersedesRecordId", Json.optStr r.supersedesRecordId), ("journeyId", .str r.journeyId),
    ("predecessorRevisionId", .str r.predecessorRevisionId),
    ("predecessorRevisionDigest", .str r.predecessorRevisionDigest),
    ("successorRevisionId", .str r.successorRevisionId),
    ("successorRevisionDigest", .str r.successorRevisionDigest),
    ("affectedElementReference", .str r.affectedElementReference.value),
    ("correctionPatchReference", .str r.correctionPatchReference.value),
    ("eventKind", .str r.eventKind.value), ("reasonCode", .str r.reasonCode),
    ("principalId", .str r.principalId), ("decisionTime", .str r.decisionTime),
    ("tenantId", .str r.tenantId), ("securityDomain", .str r.securityDomain),
    ("platformExecutionIdentity", .str r.platformExecutionIdentity), ("outcomeId", .str r.outcomeId),
    ("executionEvidenceIds", .arr (r.executionEvidenceIds.map .str)),
    ("provenance", .str r.provenance.value),
    ("optimizationUseConsentDecision", .str r.optimizationUseConsentDecision.value)]

def sealed : InterventionEventRecord := { r with recordDigest := canonicalDigest r.semantic }

/-- `_verify_intervention` accepts the record. -/
def Intact : Prop := r.recordDigest = canonicalDigest r.semantic

instance : Decidable r.Intact := inferInstanceAs (Decidable (_ = _))

theorem intact_sealed : r.sealed.Intact := rfl

/-- What the records of a target have in common. -/
structure Binding where
  tenantId : String
  securityDomain : String
  journeyId : String
  successorRevisionId : String
  platformExecutionIdentity : String
  outcomeId : String
  executionEvidenceIds : List String
  provenance : CaptureProvenance
  deriving DecidableEq

def binding : Binding :=
  ⟨r.tenantId, r.securityDomain, r.journeyId, r.successorRevisionId, r.platformExecutionIdentity,
    r.outcomeId, r.executionEvidenceIds, r.provenance⟩

end InterventionEventRecord

structure OutcomeFeedbackRecord where
  feedbackId : String
  feedbackDigest : String
  revision : Nat
  supersedesFeedbackId : Option String
  journeyId : String
  canonicalWorkflowRevisionId : String
  platformExecutionIdentity : String
  outcomeId : String
  evidenceId : String
  assessment : OutcomeAssessment
  reasonCodes : List FeedbackReasonCode
  principalId : String
  decisionTime : String
  tenantId : String
  securityDomain : String
  provenance : CaptureProvenance
  deriving DecidableEq

namespace OutcomeFeedbackRecord

variable (r : OutcomeFeedbackRecord)

/-- `_feedback_semantic`. -/
def semantic : Json :=
  .obj [("schemaVersion", .int 1), ("feedbackId", .str r.feedbackId), ("revision", .int r.revision),
    ("supersedesFeedbackId", Json.optStr r.supersedesFeedbackId), ("journeyId", .str r.journeyId),
    ("canonicalWorkflowRevisionId", .str r.canonicalWorkflowRevisionId),
    ("platformExecutionIdentity", .str r.platformExecutionIdentity), ("outcomeId", .str r.outcomeId),
    ("evidenceId", .str r.evidenceId), ("assessment", .str r.assessment.value),
    ("reasonCodes", .arr (r.reasonCodes.map fun c => .str c.value)),
    ("principalId", .str r.principalId), ("decisionTime", .str r.decisionTime),
    ("tenantId", .str r.tenantId), ("securityDomain", .str r.securityDomain),
    ("provenance", .str r.provenance.value)]

def sealed : OutcomeFeedbackRecord := { r with feedbackDigest := canonicalDigest r.semantic }

/-- `_verify_feedback` accepts the record. -/
def Intact : Prop := r.feedbackDigest = canonicalDigest r.semantic

instance : Decidable r.Intact := inferInstanceAs (Decidable (_ = _))

theorem intact_sealed : r.sealed.Intact := rfl

/-- A target with one of its pieces of evidence. -/
structure Subject where
  tenantId : String
  securityDomain : String
  journeyId : String
  canonicalWorkflowRevisionId : String
  platformExecutionIdentity : String
  outcomeId : String
  evidenceId : String
  provenance : CaptureProvenance
  deriving DecidableEq

def subject : Subject :=
  ⟨r.tenantId, r.securityDomain, r.journeyId, r.canonicalWorkflowRevisionId,
    r.platformExecutionIdentity, r.outcomeId, r.evidenceId, r.provenance⟩

end OutcomeFeedbackRecord

def Target.binding (t : Target) (c : Checked) : InterventionEventRecord.Binding :=
  ⟨t.tenantId, t.securityDomain, t.journeyId, t.successorRevisionId, c.platformExecutionIdentity,
    c.outcomeId, t.executionEvidenceIds, c.provenance⟩

/-- The subject of feedback on a piece of evidence of a target. -/
def Target.subject (t : Target) (c : Checked) (evidenceId : String) : OutcomeFeedbackRecord.Subject :=
  ⟨t.tenantId, t.securityDomain, t.journeyId, t.successorRevisionId, c.platformExecutionIdentity,
    c.outcomeId, evidenceId, c.provenance⟩

end Feedback

end AgentPlatform
