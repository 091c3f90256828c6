/-
AgentPlatform/Control/PlanContent.lean

The content of a plan: the workflow that `execution_plan_bytes` writes
(`execution_application`) and `_workflow_from_plan` reads (`governed_execution`).

The reader gives the fields of the three dataclasses whatever JSON values it finds
under their names, so that a workflow is a record of values here (`WorkflowRecord`);
tuples and lists are both arrays. The workflows that are written, by the planning
engine and by the preparation of a plan, have texts, numbers and lists of texts in
their fields (`WorkflowRecord.Valid`).

**Main result:** `workflowFromPlan_bytes`: a valid workflow is read back as it was
written, with the assignment and the employee it was written with.
-/
import AgentPlatform.Control.Lineage
import AgentPlatform.Planning.Engine
import AgentPlatform.Py.Dataclass
import AgentPlatform.Py.JsonValue

namespace AgentPlatform

open Py

def Planning.PlanningState.value : Planning.PlanningState → String
  | draft => "DRAFT"
  | generated => "GENERATED"
  | validating => "VALIDATING"
  | valid => "VALID"
  | pendingApproval => "PENDING_APPROVAL"
  | approved => "APPROVED"
  | canonicalized => "CANONICALIZED"
  | invalid => "INVALID"
  | unsupported => "UNSUPPORTED"
  | ambiguous => "AMBIGUOUS"
  | unknown => "UNKNOWN"
  | rejected => "REJECTED"
  | superseded => "SUPERSEDED"

def Planning.PlanningState.ofValue : String → Option Planning.PlanningState
  | "DRAFT" => some .draft
  | "GENERATED" => some .generated
  | "VALIDATING" => some .validating
  | "VALID" => some .valid
  | "PENDING_APPROVAL" => some .pendingApproval
  | "APPROVED" => some .approved
  | "CANONICALIZED" => some .canonicalized
  | "INVALID" => some .invalid
  | "UNSUPPORTED" => some .unsupported
  | "AMBIGUOUS" => some .ambiguous
  | "UNKNOWN" => some .unknown
  | "REJECTED" => some .rejected
  | "SUPERSEDED" => some .superseded
  | _ => none

theorem Planning.PlanningState.ofValue_value (s : Planning.PlanningState) :
    Planning.PlanningState.ofValue s.value = some s := by
  cases s <;> rfl

namespace Control

/-! ### Workflows -/

def intentFields : List String :=
  ["intent_id", "intent_revision_id", "revision", "predecessor_revision_id", "schema_version",
    "policy_version", "source_question_id", "objective", "constraints", "success_criteria",
    "canonical_digest"]

/-- The fields of `TaskRequirement`. -/
def taskFields : List String :=
  ["task_requirement_id", "future_task_id", "intent_revision_id", "task_type", "business_purpose",
    "inputs", "outputs", "dependencies", "constraints", "acceptance_conditions",
    "risk_classification", "approval_classification", "unresolved_requirements",
    "canonical_ordinal"]

/-- A `CanonicalWorkflowRevision` with the values that its fields have. -/
structure WorkflowRecord where
  canonicalWorkflowRevisionId : Json
  revision : Json
  predecessorRevisionId : Json
  tenantId : Json
  securityDomain : Json
  approvedCandidateDigest : Json
  approvalId : Json
  policyVersion : Json
  /-- An `IntentRevision`. -/
  intentRevision : List (String × Json)
  /-- `TaskRequirement`s. -/
  tasks : List (List (String × Json))
  orderedTaskIds : List Json
  limitations : List Json
  matchingEligible : Json
  lifecycle : Planning.PlanningState

namespace WorkflowRecord

variable (w : WorkflowRecord)

/-- The fields with their values. -/
def values : List (String × Json) :=
  [("canonical_workflow_revision_id", w.canonicalWorkflowRevisionId), ("revision", w.revision),
    ("predecessor_revision_id", w.predecessorRevisionId), ("tenant_id", w.tenantId),
    ("security_domain", w.securityDomain),
    ("approved_candidate_digest", w.approvedCandidateDigest), ("approval_id", w.approvalId),
    ("policy_version", w.policyVersion), ("intent_revision", .obj w.intentRevision),
    ("tasks", .arr (w.tasks.map .obj)), ("ordered_task_ids", .arr w.orderedTaskIds),
    ("limitations", .arr w.limitations), ("matching_eligible", w.matchingEligible),
    ("lifecycle", .str w.lifecycle.value)]

/-- `asdict(workflow)`. -/
def asdict : Json := .obj w.values

/-- What is true of the workflows that are written. -/
structure Valid : Prop where
  canonicalWorkflowRevisionId : w.canonicalWorkflowRevisionId.Flat
  revision : w.revision.Flat
  predecessorRevisionId : w.predecessorRevisionId.Flat
  tenantId : w.tenantId.Flat
  securityDomain : w.securityDomain.Flat
  approvedCandidateDigest : w.approvedCandidateDigest.Flat
  approvalId : w.approvalId.Flat
  policyVersion : w.policyVersion.Flat
  intentRevision : Json.Instance intentFields w.intentRevision
  tasks : ∀ t ∈ w.tasks, Json.Instance taskFields t
  orderedTaskIds : ∀ v ∈ w.orderedTaskIds, v.Flat
  limitations : ∀ v ∈ w.limitations, v.Flat
  matchingEligible : w.matchingEligible.Flat

end WorkflowRecord

/-! ### Writing -/

def planSchema : Option (Json × Json) → String
  | none => "employee-execution-plan.v1"
  | some _ => "employee-execution-plan.v2"

/-- The fields that `execution_plan_bytes` writes. -/
def planFields (workflow : Json) (assignmentId instanceId : String)
    (additional : Option (Json × Json)) : List (String × Json) :=
  (match additional with
    | none => []
    | some (problem, preparation) =>
      [("businessProblemId", problem), ("preparation", preparation)])
  ++ [("schemaVersion", .str (planSchema additional)), ("workflow", workflow),
    ("assignmentId", .str assignmentId), ("instanceId", .str instanceId)]

/-- `execution_plan_bytes(plan, assignment_id, instance_id, ...)`, with the problem and the
preparation of a plan that has them. -/
def WorkflowRecord.bytes (w : WorkflowRecord) (assignmentId instanceId : String)
    (additional : Option (Json × Json)) : List UInt8 :=
  utf8 (Json.dumps false (.obj (planFields w.asdict assignmentId instanceId additional)))

/-! ### Reading -/

def tupleOf (value : Json) : Option (List Json) := value.iterate.toOption

/-- The workflow of the envelope; none where the constructors raise. -/
def workflowOf (workflow : Json) : Option WorkflowRecord := do
  let intent ← workflow.get? "intent_revision"
  let lifecycle ←
    match (workflow.get? "lifecycle").getD (.str "CANONICALIZED") with
    | .str s => Planning.PlanningState.ofValue s
    | _ => none
  let canonicalWorkflowRevisionId ← workflow.get? "canonical_workflow_revision_id"
  let revision ← workflow.get? "revision"
  let predecessorRevisionId := (workflow.get? "predecessor_revision_id").getD .null
  let tenantId ← workflow.get? "tenant_id"
  let securityDomain ← workflow.get? "security_domain"
  let approvedCandidateDigest ← workflow.get? "approved_candidate_digest"
  let approvalId ← workflow.get? "approval_id"
  let policyVersion ← workflow.get? "policy_version"
  let intentRevision ← Json.construct intentFields intent
  let tasks ← ((← tupleOf (← workflow.get? "tasks")).mapM (Json.construct taskFields))
  let orderedTaskIds ← tupleOf (← workflow.get? "ordered_task_ids")
  let limitations ← tupleOf (← workflow.get? "limitations")
  let matchingEligible ← workflow.get? "matching_eligible"
  return {
    canonicalWorkflowRevisionId, revision, predecessorRevisionId, tenantId, securityDomain
    approvedCandidateDigest, approvalId, policyVersion, intentRevision, tasks, orderedTaskIds
    limitations, matchingEligible, lifecycle }

/-- `_workflow_from_plan(raw)`; none is `GOVERNED_PLAN_CONTENT_INVALID`. -/
def workflowFromPlan (raw : List UInt8) : Option (WorkflowRecord × Json × Json) := do
  let envelope ← planContent raw
  let workflow ← workflowOf (← envelope.get? "workflow")
  match ← envelope.get? "schemaVersion" with
  | .str version =>
    if version = "employee-execution-plan.v1" ∨ version = "employee-execution-plan.v2" then
      return (workflow, ← envelope.get? "assignmentId", ← envelope.get? "instanceId")
    else none
  | _ => none

/-! ### Reading what was written -/

section RoundTrip

variable {w : WorkflowRecord}

theorem WorkflowRecord.names (w : WorkflowRecord) : (w.values.map Prod.fst).Nodup := by
  show ["canonical_workflow_revision_id", "revision", "predecessor_revision_id", "tenant_id",
    "security_domain", "approved_candidate_digest", "approval_id", "policy_version",
    "intent_revision", "tasks", "ordered_task_ids", "limitations", "matching_eligible",
    "lifecycle"].Nodup
  decide

theorem WorkflowRecord.get?_asdict (w : WorkflowRecord) {key : String} {v : Json}
    (h : (key, v) ∈ w.values) : w.asdict.sortKeys.get? key = some v.sortKeys := by
  rw [WorkflowRecord.asdict, Json.get?_sortKeys w.names, Json.get?_of_mem w.names h]
  rfl

theorem tupleOf_sortKeys {vs : List Json} (h : ∀ v ∈ vs, v.Flat) :
    tupleOf (Json.arr vs).sortKeys = some vs := by
  rw [(Json.flat_arr h).sorted]
  rfl

theorem construct_tasks {ts : List (List (String × Json))}
    (h : ∀ t ∈ ts, Json.Instance taskFields t) :
    (tupleOf (Json.arr (ts.map .obj)).sortKeys).bind (fun items =>
      items.mapM (Json.construct taskFields)) = some ts := by
  show (Json.sortItems (ts.map .obj)).mapM (Json.construct taskFields) = some ts
  induction ts with
  | nil => rfl
  | cons t ts ih =>
    rw [List.map_cons, Json.sortItems, List.mapM_cons,
      Json.construct_sortKeys (h t List.mem_cons_self),
      ih fun t ht => h t (List.mem_cons_of_mem _ ht)]
    rfl

/-- **The constructors rebuild a workflow** from its fields. -/
theorem workflowOf_asdict (hw : w.Valid) : workflowOf w.asdict.sortKeys = some w := by
  have hmem : ∀ p ∈ w.values, w.asdict.sortKeys.get? p.1 = some p.2.sortKeys := fun p hp =>
    w.get?_asdict hp
  simp only [WorkflowRecord.values, List.forall_mem_cons] at hmem
  obtain ⟨hid, hrevision, hpredecessor, htenant, hdomain, hdigest, happroval, hpolicy, hintent,
    htasks, hordered, hlimitations, heligible, hlifecycle, -⟩ := hmem
  have hrequirements := construct_tasks hw.tasks
  obtain ⟨items, hitems, hrequirements⟩ := Option.bind_eq_some_iff.mp hrequirements
  rw [workflowOf, hintent, hlifecycle, hid, hrevision, hpredecessor, htenant, hdomain, hdigest,
    happroval, hpolicy, htasks, hordered, hlimitations, heligible, Option.getD_some,
    Option.getD_some, hw.canonicalWorkflowRevisionId.sorted, hw.revision.sorted,
    hw.predecessorRevisionId.sorted, hw.tenantId.sorted, hw.securityDomain.sorted,
    hw.approvedCandidateDigest.sorted, hw.approvalId.sorted, hw.policyVersion.sorted,
    hw.matchingEligible.sorted, (Json.flat_str w.lifecycle.value).sorted]
  simp only [Option.bind_eq_bind, Option.bind_some, hitems, hrequirements,
    Json.construct_sortKeys hw.intentRevision, tupleOf_sortKeys hw.orderedTaskIds,
    tupleOf_sortKeys hw.limitations, Planning.PlanningState.ofValue_value]
  rfl

theorem WorkflowRecord.Valid.distinct (hw : w.Valid) : w.asdict.distinctKeys = true := by
  have harr : ∀ {vs : List Json}, (∀ v ∈ vs, v.distinctKeys = true) →
      (Json.arr vs).distinctKeys = true := by
    intro vs h
    rw [Json.distinctKeys]
    induction vs with
    | nil => rfl
    | cons v vs ih =>
      rw [Json.distinctItems, h v List.mem_cons_self, ih fun v hv => h v (List.mem_cons_of_mem _ hv)]
      rfl
  refine Json.distinctKeys_obj.mpr ⟨w.names, ?_⟩
  simp only [WorkflowRecord.values, List.forall_mem_cons]
  refine ⟨hw.canonicalWorkflowRevisionId.distinct, hw.revision.distinct,
    hw.predecessorRevisionId.distinct, hw.tenantId.distinct, hw.securityDomain.distinct,
    hw.approvedCandidateDigest.distinct, hw.approvalId.distinct, hw.policyVersion.distinct,
    hw.intentRevision.distinct, harr ?_, harr ?_, harr ?_, hw.matchingEligible.distinct, rfl, ?_⟩
  · intro v hv
    obtain ⟨t, ht, rfl⟩ := List.mem_map.mp hv
    exact (hw.tasks t ht).distinct
  · exact fun v hv => (hw.orderedTaskIds v hv).distinct
  · exact fun v hv => (hw.limitations v hv).distinct
  · exact fun p hp => nomatch hp

theorem planFields_names (workflow : Json) (assignmentId instanceId : String)
    (additional : Option (Json × Json)) :
    ((planFields workflow assignmentId instanceId additional).map Prod.fst).Nodup := by
  cases additional with
  | none =>
    show ["schemaVersion", "workflow", "assignmentId", "instanceId"].Nodup
    decide
  | some x =>
    show ["businessProblemId", "preparation", "schemaVersion", "workflow", "assignmentId",
      "instanceId"].Nodup
    decide

/-- A problem and a preparation with distinct keys. -/
def Distinct (additional : Option (Json × Json)) : Prop :=
  ∀ x ∈ additional, x.1.distinctKeys = true ∧ x.2.distinctKeys = true

theorem planFields_distinct {workflow : Json} (hworkflow : workflow.distinctKeys = true)
    (assignmentId instanceId : String) {additional : Option (Json × Json)}
    (h : Distinct additional) :
    (Json.obj (planFields workflow assignmentId instanceId additional)).distinctKeys = true := by
  refine Json.distinctKeys_obj.mpr ⟨planFields_names _ _ _ _, ?_⟩
  simp only [planFields, List.forall_mem_append, List.forall_mem_cons]
  refine ⟨?_, rfl, hworkflow, rfl, rfl, fun p hp => nomatch hp⟩
  cases additional with
  | none => exact fun p hp => nomatch hp
  | some x =>
    obtain ⟨hproblem, hpreparation⟩ := h x rfl
    simp only [List.forall_mem_cons]
    exact ⟨hproblem, hpreparation, fun p hp => nomatch hp⟩

/-- The fields of a plan as they are read. -/
theorem get?_planFields (workflow : Json) (assignmentId instanceId : String)
    (additional : Option (Json × Json)) :
    ∀ p ∈ planFields workflow assignmentId instanceId additional,
      (Json.obj (planFields workflow assignmentId instanceId additional)).sortKeys.get? p.1
        = some p.2.sortKeys := by
  intro p hp
  rw [Json.get?_sortKeys (planFields_names _ _ _ _), Json.get?_of_mem (planFields_names _ _ _ _) hp]
  rfl

/-- **What is written is read back**: the workflow with all its fields, the assignment and
the employee. -/
theorem workflowFromPlan_bytes (hw : w.Valid) (assignmentId instanceId : String)
    {additional : Option (Json × Json)} (h : Distinct additional) :
    workflowFromPlan (w.bytes assignmentId instanceId additional)
      = some (w, .str assignmentId, .str instanceId) := by
  have hread := planContent_dumps (planFields_distinct hw.distinct assignmentId instanceId h)
  have hget := get?_planFields w.asdict assignmentId instanceId additional
  generalize hcontent : Json.obj (planFields w.asdict assignmentId instanceId additional) = content
    at hread hget
  simp only [planFields, List.forall_mem_append, List.forall_mem_cons] at hget
  obtain ⟨-, hschema, hworkflow, hassignment, hinstance, -⟩ := hget
  have hknown : planSchema additional = "employee-execution-plan.v1"
      ∨ planSchema additional = "employee-execution-plan.v2" := by
    cases additional with
    | none => exact .inl rfl
    | some x => exact .inr rfl
  rw [WorkflowRecord.bytes, hcontent, workflowFromPlan, hread]
  simp only [Option.bind_eq_bind, Option.bind_some, hschema, hworkflow, hassignment, hinstance,
    workflowOf_asdict hw, Json.sortKeys, if_pos hknown]
  rfl

/-- `execution_plan_bytes` writes these fields. -/
theorem executionPlanBytes_eq [Unicodedata] (plan : WorkflowRevision)
    (assignmentId instanceId : String) (additional : Option (Json × Json)) :
    executionPlanBytes plan assignmentId instanceId additional
      = utf8 (Json.dumps false (.obj (planFields plan.asdict assignmentId instanceId additional))) := by
  cases additional <;> rfl

/-- The order of the keys of a preparation does not matter. -/
theorem dumps_planFields_sortKeys (workflow : Json) (assignmentId instanceId : String)
    (problem preparation : Json) :
    Json.dumps false (.obj (planFields workflow assignmentId instanceId
        (some (problem, preparation.sortKeys))))
      = Json.dumps false (.obj (planFields workflow assignmentId instanceId
        (some (problem, preparation)))) := by
  rw [Json.dumps_eq_iff, Json.sortKeys, Json.sortKeys]
  simp only [planFields, planSchema, List.cons_append, List.nil_append, Json.sortFields,
    Json.sortKeys_sortKeys]

end RoundTrip

/-! ### The workflows of the planning engine -/

/-- The fields of a task requirement with their values. -/
def taskValues (t : Planning.TaskRequirement) : List (String × Json) :=
  [("task_requirement_id", .str t.taskRequirementId), ("future_task_id", .str t.futureTaskId),
    ("intent_revision_id", .str t.intentRevisionId), ("task_type", .str t.taskType),
    ("business_purpose", .str t.businessPurpose), ("inputs", .arr (t.inputs.map .str)),
    ("outputs", .arr (t.outputs.map .str)), ("dependencies", .arr (t.dependencies.map .str)),
    ("constraints", .arr (t.constraints.map .str)),
    ("acceptance_conditions", .arr (t.acceptanceConditions.map .str)),
    ("risk_classification", .str t.riskClassification),
    ("approval_classification", .str t.approvalClassification),
    ("unresolved_requirements", .arr (t.unresolvedRequirements.map .str)),
    ("canonical_ordinal", .int t.canonicalOrdinal)]

theorem taskValues_instance (t : Planning.TaskRequirement) :
    Json.Instance taskFields (taskValues t) := by
  refine ⟨rfl, by decide, ?_⟩
  simp only [taskValues, List.forall_mem_cons]
  exact ⟨Json.flat_str _, Json.flat_str _, Json.flat_str _, Json.flat_str _, Json.flat_str _,
    Json.flat_texts _, Json.flat_texts _, Json.flat_texts _, Json.flat_texts _, Json.flat_texts _,
    Json.flat_str _, Json.flat_str _, Json.flat_texts _, Json.flat_int _, fun p hp => nomatch hp⟩

def intentValues (intentId intentRevisionId : String) (revision : Nat)
    (predecessorRevisionId : Option String)
    (schemaVersion policyVersion sourceQuestionId objective : String)
    (constraints successCriteria : List String) (canonicalDigest : String) : List (String × Json) :=
  [("intent_id", .str intentId), ("intent_revision_id", .str intentRevisionId),
    ("revision", .int revision), ("predecessor_revision_id", .optStr predecessorRevisionId),
    ("schema_version", .str schemaVersion), ("policy_version", .str policyVersion),
    ("source_question_id", .str sourceQuestionId), ("objective", .str objective),
    ("constraints", .arr (constraints.map .str)),
    ("success_criteria", .arr (successCriteria.map .str)),
    ("canonical_digest", .str canonicalDigest)]

theorem intentValues_instance (intentId intentRevisionId : String) (revision : Nat)
    (predecessorRevisionId : Option String)
    (schemaVersion policyVersion sourceQuestionId objective : String)
    (constraints successCriteria : List String) (canonicalDigest : String) :
    Json.Instance intentFields (intentValues intentId intentRevisionId revision
      predecessorRevisionId schemaVersion policyVersion sourceQuestionId objective constraints
      successCriteria canonicalDigest) := by
  refine ⟨rfl, by decide, ?_⟩
  simp only [intentValues, List.forall_mem_cons]
  exact ⟨Json.flat_str _, Json.flat_str _, Json.flat_int _, Json.flat_optStr _, Json.flat_str _,
    Json.flat_str _, Json.flat_str _, Json.flat_str _, Json.flat_texts _, Json.flat_texts _,
    Json.flat_str _, fun p hp => nomatch hp⟩

/-- A revision of the engine, with its values. -/
def ofEngine (w : Planning.CanonicalWorkflowRevision) : WorkflowRecord where
  canonicalWorkflowRevisionId := .str w.canonicalWorkflowRevisionId
  revision := .int w.revision
  predecessorRevisionId := .optStr w.predecessorRevisionId
  tenantId := .str w.tenantId.value
  securityDomain := .str w.securityDomain.value
  approvedCandidateDigest := .str w.approvedCandidateDigest
  approvalId := .str w.approvalId
  policyVersion := .str w.policyVersion.value
  intentRevision :=
    let i := w.intentRevision
    intentValues i.intentId i.intentRevisionId i.revision i.predecessorRevisionId i.schemaVersion
      i.policyVersion.value i.sourceQuestionId.value i.objective i.constraints i.successCriteria
      i.canonicalDigest
  tasks := w.tasks.map taskValues
  orderedTaskIds := w.orderedTaskIds.map .str
  limitations := w.limitations.map .str
  matchingEligible := .bool w.matchingEligible
  lifecycle := w.lifecycle

theorem flat_of_mem_texts {ss : List String} : ∀ v ∈ ss.map Json.str, v.Flat := by
  intro v hv
  obtain ⟨s, -, rfl⟩ := List.mem_map.mp hv
  exact Json.flat_str s

theorem taskValues_instances (ts : List Planning.TaskRequirement) :
    ∀ t ∈ ts.map taskValues, Json.Instance taskFields t := by
  intro t ht
  obtain ⟨r, -, rfl⟩ := List.mem_map.mp ht
  exact taskValues_instance r

theorem ofEngine_valid (w : Planning.CanonicalWorkflowRevision) : (ofEngine w).Valid where
  canonicalWorkflowRevisionId := Json.flat_str _
  revision := Json.flat_int _
  predecessorRevisionId := Json.flat_optStr _
  tenantId := Json.flat_str _
  securityDomain := Json.flat_str _
  approvedCandidateDigest := Json.flat_str _
  approvalId := Json.flat_str _
  policyVersion := Json.flat_str _
  intentRevision := intentValues_instance ..
  tasks := taskValues_instances _
  orderedTaskIds := flat_of_mem_texts
  limitations := flat_of_mem_texts
  matchingEligible := Json.flat_bool _

end Control

end AgentPlatform
