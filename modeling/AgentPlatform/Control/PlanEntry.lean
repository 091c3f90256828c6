/-
AgentPlatform/Control/PlanEntry.lean

A plan from its preparation to the start of its tasks: `prepare` and `approve` of
`BusinessProblemApplication`, and what `start` of `GovernedExecutionApplication` checks
before it hands a command to the execution service.

What the other repositories answer is an argument. `PlanResources` are the rows that
they find for a command: their identifiers were accepted when the rows were written.

**Main result:** `approved_plan_starts`: a plan that was prepared and approved is read
back, and passes every check of its content when one of its tasks is started, in every
state that later commands lead to and in which it is still approved.
-/
import AgentPlatform.Control.PlanContent
import AgentPlatform.Control.Plans
import AgentPlatform.WorkflowDefinition.Content

namespace AgentPlatform

open Py

namespace Control

open WorkflowDefinition (WorkflowTask stableOrder)

/-! ### Failures -/

inductive EntryFailure
  /-- `BusinessProblemError` and `BusinessProblemConflict`. -/
  | problem (code : String)
  | definition (failure : WorkflowDefinition.Failure)
  | control (failure : ControlFailure)
  | execution (failure : Failure)
  /-- `GovernedExecutionError`. -/
  | governed (code : String)
  /-- An exception of a built-in function. -/
  | raised

/-! ### Preparing -/

/-- `PreparePlan`, without its idempotency key. -/
structure PreparePlan where
  problemRevisionId : String
  problemRevisionDigest : String
  criteriaSetRevisionId : String
  criteriaSetDigest : String
  expectedProblemVersion : Nat
  workflowDefinitionId : String
  workflowDefinitionRevisionId : String
  workflowDefinitionDigest : String
  employeeDefinitionId : String
  employeeDefinitionRevisionId : String
  employeeDefinitionDigest : String
  digitalEmployeeInstanceId : String
  assignmentId : String

/-- `command.model_dump(exclude={"idempotencyKey"})`. -/
def PreparePlan.preparation (c : PreparePlan) : List (String × Json) :=
  [("problemRevisionId", .str c.problemRevisionId),
    ("problemRevisionDigest", .str c.problemRevisionDigest),
    ("criteriaSetRevisionId", .str c.criteriaSetRevisionId),
    ("criteriaSetDigest", .str c.criteriaSetDigest),
    ("expectedProblemVersion", .int c.expectedProblemVersion),
    ("workflowDefinitionId", .str c.workflowDefinitionId),
    ("workflowDefinitionRevisionId", .str c.workflowDefinitionRevisionId),
    ("workflowDefinitionDigest", .str c.workflowDefinitionDigest),
    ("employeeDefinitionId", .str c.employeeDefinitionId),
    ("employeeDefinitionRevisionId", .str c.employeeDefinitionRevisionId),
    ("employeeDefinitionDigest", .str c.employeeDefinitionDigest),
    ("digitalEmployeeInstanceId", .str c.digitalEmployeeInstanceId),
    ("assignmentId", .str c.assignmentId)]

def removeSha256 (text : String) : String :=
  if "sha256:".toList.isPrefixOf text.toList then String.ofList (text.toList.drop 7) else text

/-- The row of `plan_bindings`, as far as an execution reads it. -/
structure PlanProblemBinding where
  planDigest : String
  businessProblemId : String
  problemRevisionId : String
  problemRevisionDigest : String
  criteriaSetRevisionId : String
  criteriaSetDigest : String
  deriving DecidableEq

/-- What `validate_plan_target` returns of the problem. -/
structure ProblemRevision where
  revision : Nat
  predecessorRevisionId : Option String

section Entry

variable [Unicodedata]

/-- What `_resources` finds for a command: the tasks of the workflow definition, and
the rows that the identifiers of the command name. -/
structure PlanResources (c : PreparePlan) where
  tasks : List WorkflowTask
  workflowRevision : Reference
  workflowRevision_eq : workflowRevision.value = c.workflowDefinitionRevisionId
  assignment : AssignmentId
  assignment_eq : assignment.value = c.assignmentId
  employeeInstance : OpaqueId
  employeeInstance_eq : employeeInstance.value = c.digitalEmployeeInstanceId

/-- `approval_id`. -/
def approvalOf (planId : String) : String := planId ++ ":approval"

/-- What a prepared plan is made of: the command, what was found for it, and the order of
the tasks. -/
structure PlanSource where
  command : PreparePlan
  scope : ScopeIdentity
  problemId : String
  planId : String
  problem : ProblemRevision
  tasks : List WorkflowTask
  order : List String

namespace PlanSource

variable (x : PlanSource)

/-- A task requirement of an explicit plan. -/
def requirement (task : WorkflowTask) (ordinal : Nat) : Planning.TaskRequirement where
  taskRequirementId := x.planId ++ ":" ++ task.taskId
  futureTaskId := task.taskId
  intentRevisionId := x.command.problemRevisionId
  taskType := "EXPLICIT"
  businessPurpose := task.name
  inputs := task.inputs
  outputs := task.outputs
  dependencies := task.dependsOn
  constraints := task.capabilityRequirements
  acceptanceConditions := [x.command.criteriaSetDigest]
  riskClassification := "LOW"
  approvalClassification := "REQUIRED"
  unresolvedRequirements := []
  canonicalOrdinal := ordinal

/-- `canonical`. -/
def workflow : WorkflowRecord where
  canonicalWorkflowRevisionId := .str x.command.workflowDefinitionRevisionId
  revision := .int 1
  predecessorRevisionId := .null
  tenantId := .str x.scope.namespaceName.value
  securityDomain := .str x.scope.securityDomain.value
  approvedCandidateDigest := .str (removeSha256 x.command.workflowDefinitionDigest)
  approvalId := .str (approvalOf x.planId)
  policyVersion := .str "explicit-plan.v1"
  intentRevision := intentValues x.problemId x.command.problemRevisionId x.problem.revision
    x.problem.predecessorRevisionId "explicit-plan.v1" "explicit-plan.v1" x.problemId
    "Explicit business plan" [] [x.command.criteriaSetDigest] x.command.problemRevisionDigest
  tasks := (x.tasks.zipIdx.map fun p => x.requirement p.1 p.2).map taskValues
  orderedTaskIds := x.order.map .str
  limitations := []
  matchingEligible := .bool true
  lifecycle := .canonicalized

/-- The problem and the preparation that the content has beside the workflow. -/
def additional : Option (Json × Json) := some (.str x.problemId, .obj x.command.preparation)

/-- The bytes of the plan. -/
def raw : List UInt8 :=
  x.workflow.bytes x.command.assignmentId x.command.digitalEmployeeInstanceId x.additional

/-- The plan that `prepare` writes. -/
def plan (now : Datetime) : PlanRecord where
  scope := x.scope
  planId := x.planId
  planVersion := 1
  workflowDefinitionId := x.command.workflowDefinitionId
  workflowDefinitionRevisionId := x.command.workflowDefinitionRevisionId
  workflowDefinitionDigest := removeSha256 x.command.workflowDefinitionDigest
  status := .pendingApproval
  aggregateVersion := 1
  planDigest := sha256Bytes x.raw
  canonicalBytes := x.raw
  createdAt := now
  updatedAt := now
  predecessorPlanId := none
  predecessorPlanVersion := none
  sourcePlanRevision := none
  sourcePlanDigest := none
  actorId := none
  authorityClassification := none
  correctionReasonCategory := none

@[simp] theorem plan_planId (now : Datetime) : (x.plan now).planId = x.planId := rfl

@[simp] theorem plan_planVersion (now : Datetime) : (x.plan now).planVersion = 1 := rfl

@[simp] theorem plan_canonicalBytes (now : Datetime) : (x.plan now).canonicalBytes = x.raw := by
  rw [plan]

@[simp] theorem plan_planDigest (now : Datetime) : (x.plan now).planDigest = sha256Bytes x.raw := by
  rw [plan]

def binding : PlanProblemBinding :=
  ⟨sha256Bytes x.raw, x.problemId, x.command.problemRevisionId, x.command.problemRevisionDigest,
    x.command.criteriaSetRevisionId, x.command.criteriaSetDigest⟩

end PlanSource

/-- `prepare`, for a new plan; returns what the plan is made of. -/
def prepare (c : PreparePlan) (resources : PlanResources c) (scope : ScopeIdentity)
    (problemId planId : String) (problem : ProblemRevision) (now : Datetime) :
    Body Authority EntryFailure PlanSource := fun s => do
  let order ← (stableOrder resources.tasks).mapError .definition
  let x : PlanSource := ⟨c, scope, problemId, planId, problem, resources.tasks, order⟩
  let (_, s) ← (preparePlanEntry (x.plan now) true s).mapError .control
  .ok (x, s)

/-! ### Approving -/

structure DecidePlan extends PreparePlan where
  planVersion : Nat
  planDigest : String
  expectedVersion : Nat
  decision : PlanVerdict
  reasonCategory : String

/-- The problem and the preparation of the envelope are there, the latter as the command
has it. -/
def DecidePlan.prepares (c : DecidePlan) (envelope : Json) : Bool :=
  (envelope.get? "businessProblemId").any Json.truthy &&
    (envelope.get? "preparation").any fun preparation =>
      -- equal dictionaries have one text with sorted keys
      Json.dumps false preparation = Json.dumps false (.obj c.preparation)

/-- `approve`, for a plan that is not decided yet. The other repositories answer
`checks`, and the digest of the decision is `decisionDigest`. -/
def approve (c : DecidePlan) (scope : ScopeIdentity) (planId actor decisionDigest : String)
    (now : Datetime) (checks : Except EntryFailure Unit) :
    Body Authority EntryFailure ApprovalDecision := fun s =>
  match s.plans.plans.lookup (scope.key planId, c.planVersion) with
  | none => .error (.problem "PLAN_NOT_FOUND")
  | some plan =>
    match planContent plan.canonicalBytes with
    | none => .error .raised
    | some envelope =>
      if !c.prepares envelope then .error (.problem "PLAN_PREPARATION_MISMATCH")
      else if plan.planDigest ≠ c.planDigest then .error (.problem "PLAN_DIGEST_MISMATCH")
      else do
        checks
        match (envelope.get? "workflow").bind (Json.get? "approval_id") with
        | some (.str approvalId) =>
          (approvePlanEntry scope {
            approvalDecisionId := approvalId
            planId
            planVersion := c.planVersion
            planDigest := c.planDigest
            ordinal := 1
            decision := c.decision
            actorId := actor
            authorityBasis := "HUMAN_REVIEW"
            reasonCategory := c.reasonCategory
            decisionDigest
            decidedAt := now } c.expectedVersion true s).mapError .control
        | _ => .error .raised

/-! ### Starting -/

/-- `StartGovernedExecution`, without the fields about the skill. -/
structure StartGovernedExecution where
  planId : String
  planVersion : Nat
  planDigest : String
  approvalId : String
  assignmentId : String
  digitalEmployeeInstanceId : String
  taskId : String
  idempotencyKey : String

/-- The workflow as the execution service compares it. A workflow whose identifiers are
no texts starts nothing: the scope differs, or no identifier of the run can be made. -/
def WorkflowRecord.revision? (w : WorkflowRecord) : Option WorkflowRevision :=
  match w.canonicalWorkflowRevisionId, w.tenantId, w.securityDomain, w.approvedCandidateDigest,
    w.approvalId with
  | .str id, .str tenant, .str domain, .str digest, .str approval =>
    some {
      canonicalWorkflowRevisionId := id
      -- of the predecessor only whether there is one is looked at
      predecessorRevisionId :=
        match w.predecessorRevisionId with
        | .null => none
        | v => some (Json.dumps false v)
      tenantId := tenant
      securityDomain := domain
      approvedCandidateDigest := digest
      approvalId := approval
      orderedTaskIds := w.orderedTaskIds.filterMap fun
        | .str id => some id
        | _ => none
      matchingEligible := w.matchingEligible.truthy
      canonicalized := w.lifecycle = .canonicalized
      asdict := w.asdict }
  | _, _, _, _, _ => none

/-- `value == text`. -/
def isText (value : Json) (text : String) : Bool :=
  match value with
  | .str t => t = text
  | _ => false

/-- `start` of the governed execution, up to the command of the execution service.
`operation` is what `_approved_operation` answers. -/
def governedStart (t : PlanTables) (scope : ScopeIdentity) (principalId requestDigest : String)
    (operation : Except EntryFailure Unit) (c : StartGovernedExecution) :
    Except EntryFailure StartExecutionCommand :=
  let k := (scope.key c.planId, c.planVersion)
  match t.plans.lookup k with
  | none => .error (.governed "GOVERNED_EXECUTION_NOT_FOUND")
  | some plan =>
    if plan.status ≠ .approved ∨ plan.planDigest ≠ c.planDigest ∨
        sha256Bytes plan.canonicalBytes ≠ plan.planDigest then
      .error (.governed "GOVERNED_EXECUTION_NOT_FOUND")
    else if ¬ ∃ d ∈ t.approvals, d.plan = k ∧ d.key = scope.key c.approvalId ∧
        d.decision = .approve ∧ d.planDigest = c.planDigest then
      .error (.governed "GOVERNED_EXECUTION_NOT_FOUND")
    else
      match workflowFromPlan plan.canonicalBytes with
      | none => .error (.governed "GOVERNED_PLAN_CONTENT_INVALID")
      | some (w, assignmentId, instanceId) =>
        if !isText assignmentId c.assignmentId || !isText instanceId c.digitalEmployeeInstanceId ||
            !isText w.approvalId c.approvalId then
          .error (.governed "GOVERNED_PLAN_BINDING_MISMATCH")
        else do
          operation
          let assignmentId ← (opaqueId c.assignmentId).mapError .execution
          let instanceId ← (opaqueId c.digitalEmployeeInstanceId).mapError .execution
          match w.revision? with
          | none => .error .raised
          | some workflow =>
            .ok {
              scope
              plan := workflow
              approvedPlan := ⟨workflow.canonicalWorkflowRevisionId,
                workflow.approvedCandidateDigest, c.approvalId, some c.planId, some c.planVersion,
                some c.planDigest⟩
              assignmentId
              digitalEmployeeInstanceId := instanceId
              taskId := c.taskId
              replayIdentity := principalId ++ ":" ++ c.idempotencyKey
              predecessorWorkflowRunId := none
              correctionOfWorkflowRunId := none
              requestClaim := some ⟨principalId, c.idempotencyKey, requestDigest⟩ }

/-- `validate_execution_binding`: the stored binding is that of the content. -/
def validateExecutionBinding (row : Option PlanProblemBinding) (planDigest : String)
    (content : Json) : Except Failure Unit :=
  let text (v : Option Json) (key : String) : Option Json := v.bind (Json.get? key)
  let preparation := content.get? "preparation"
  match row, content.get? "businessProblemId", text preparation "problemRevisionId",
    text preparation "problemRevisionDigest", text preparation "criteriaSetRevisionId",
    text preparation "criteriaSetDigest" with
  | some b, some problem, some revision, some digest, some criteria, some criteriaDigest =>
    if b.planDigest = planDigest && isText problem b.businessProblemId &&
        isText revision b.problemRevisionId && isText digest b.problemRevisionDigest &&
        isText criteria b.criteriaSetRevisionId && isText criteriaDigest b.criteriaSetDigest then
      .ok ()
    else .error (conflict "PLAN_PROBLEM_BINDING_MISMATCH")
  | _, _, _, _, _, _ => .error (conflict "PLAN_PROBLEM_BINDING_MISMATCH")

/-! ### What later commands keep of a plan -/

omit [Unicodedata] in
theorem mapError_eq_ok {ε ε' α : Type} {f : ε → ε'} {x : Except ε α} {a : α} :
    x.mapError f = .ok a ↔ x = .ok a := by
  cases x with
  | error e => exact ⟨fun h => (nomatch h), fun h => (nomatch h)⟩
  | ok b =>
    constructor
    · intro h
      cases h
      rfl
    · intro h
      cases h
      rfl

/-- The columns of a plan that are never updated. -/
structure PlanRecord.Same (p p' : PlanRecord) : Prop where
  planId : p'.planId = p.planId
  planVersion : p'.planVersion = p.planVersion
  planDigest : p'.planDigest = p.planDigest
  canonicalBytes : p'.canonicalBytes = p.canonicalBytes

theorem PlanRecord.same_refl (p : PlanRecord) : p.Same p := ⟨rfl, rfl, rfl, rfl⟩

theorem PlanRecord.same_withoutSource (p : PlanRecord) : p.Same p.withoutSource :=
  ⟨rfl, rfl, rfl, rfl⟩

theorem PlanRecord.Same.trans {p p' p'' : PlanRecord} (h : p.Same p') (h' : p'.Same p'') :
    p.Same p'' :=
  ⟨h'.planId.trans h.planId, h'.planVersion.trans h.planVersion, h'.planDigest.trans h.planDigest,
    h'.canonicalBytes.trans h.canonicalBytes⟩

/-- Plans stay with their content, and approvals are added at the end. -/
structure PlanTables.Kept (t t' : PlanTables) : Prop where
  plans : ∀ {k p}, t.plans.lookup k = some p → ∃ p', t'.plans.lookup k = some p' ∧ p.Same p'
  approvals : t.approvals <+: t'.approvals

theorem PlanTables.kept_refl (t : PlanTables) : t.Kept t :=
  ⟨fun h => ⟨_, h, PlanRecord.same_refl _⟩, List.prefix_rfl⟩

theorem PlanTables.Kept.trans {t t' t'' : PlanTables} (h : t.Kept t') (h' : t'.Kept t'') :
    t.Kept t'' := by
  refine ⟨?_, h.approvals.trans h'.approvals⟩
  intro k p hp
  obtain ⟨p', hp', hsame⟩ := h.plans hp
  obtain ⟨p'', hp'', hsame'⟩ := h'.plans hp'
  exact ⟨p'', hp'', hsame.trans hsame'⟩

/-- A change of its status keeps a plan. -/
theorem lookup_status {t : PlanTables} {k k' : PlanKey} {p q : PlanRecord} {status : PlanStatus}
    (stored : t.plans.lookup k = some p) (h : t.plans.lookup k' = some q) :
    ∃ q', (t.plans.insert k (p.withStatus status)).lookup k' = some q' ∧ q.Same q' := by
  by_cases hk : k' = k
  · subst hk
    rw [stored] at h
    cases h
    exact ⟨_, AList.lookup_insert _, ⟨rfl, rfl, rfl, rfl⟩⟩
  · exact ⟨q, by rwa [AList.lookup_insert_ne hk], PlanRecord.same_refl _⟩

theorem PlanTables.Move.kept {t t' : PlanTables} (h : t.Move t') : t.Kept t' := by
  cases h with
  | prepare p new first pending =>
    exact ⟨fun hp => ⟨_, Table.lookup_insert_new new hp, PlanRecord.same_refl _⟩, List.prefix_rfl⟩
  | decide a stored pending digest new =>
    exact ⟨fun hp => lookup_status stored hp, List.prefix_append _ _⟩
  | @correct c p q stored open_ new successor pending predecessor only unlinked =>
    refine ⟨fun hp => ?_, List.prefix_rfl⟩
    exact lookup_status (t := { t with plans := t.plans.insert q.key q })
      (Table.lookup_insert_new new stored) (Table.lookup_insert_new new hp)

theorem successors_plans {c : AtomicControlCommand} {refs : References} {plans plans' : PlanTables}
    {t t' : Targets} (h : c.successors refs plans t = some (plans', t')) : plans.Kept plans' := by
  have hinsert : ∀ {p : PlanRecord} {plans₁ : PlanTables},
      plans.insertPlan refs.definitions p = some plans₁ → plans.Kept plans₁ := by
    intro p plans₁ hp
    obtain ⟨new, -, -, -, rfl⟩ := insertPlan_spec hp
    exact ⟨fun hq => ⟨_, Table.lookup_insert_new new hq, PlanRecord.same_refl _⟩, List.prefix_rfl⟩
  unfold AtomicControlCommand.successors at h
  rcases hp : c.successorPlan with _ | p <;> rcases hr : c.successorWorkflowRun with _ | run <;>
    simp only [hp, hr, Option.bind_eq_bind, Option.bind_some, Option.bind_eq_some_iff,
      Option.some.injEq, Prod.mk.injEq] at h
  · exact h.1 ▸ plans.kept_refl
  · obtain ⟨_, -, rfl, -⟩ := h
    exact plans.kept_refl
  · obtain ⟨_, hp, rfl, -⟩ := h
    exact hinsert hp
  · obtain ⟨_, hp, _, -, rfl, -⟩ := h
    exact hinsert hp

/-- **Every command keeps the plans.** -/
theorem body_kept {c : Command} {s s' : Authority} (h : c.body s = .ok ((), s')) :
    s.plans.Kept s'.plans := by
  by_cases hc : c.IsPlanCommand
  · obtain ⟨hsame | hmove, -⟩ := body_plans hc h
    · rw [hsame]
      exact s.plans.kept_refl
    · exact hmove.kept
  · cases c with
    | persist command authorized =>
      obtain ⟨a, h⟩ := ignoring_eq_ok.mp h
      unfold Control.persist at h
      simp only [ite_error_eq_ok'] at h
      obtain ⟨-, -, h⟩ := h
      split at h
      · obtain ⟨_, -, he⟩ := map_eq_ok.mp h
        cases he
        exact s.plans.kept_refl
      · simp only [ite_error_eq_ok', bind_eq_ok, orRaise_eq_ok] at h
        obtain ⟨-, _, -, ⟨version, t₁⟩, -, _, -, ⟨plans, t₂⟩, hsucc, -, h⟩ := h
        cases h
        exact successors_plans hsucc
    | _ => exact absurd trivial hc

theorem run_kept (cs : List Command) (s : Authority) : s.plans.Kept (run cs s).plans :=
  have step : ∀ c s₁ s₂, True → s.plans.Kept s₁.plans → Command.body c s₁ = .ok ((), s₂) →
      s.plans.Kept s₂.plans := fun _ _ _ _ hs h => hs.trans (body_kept h)
  run_induction step (fun _ _ => trivial) s.plans.kept_refl

/-! ### The content of a prepared plan -/

section Prepared

variable (x : PlanSource)

namespace PlanSource

theorem workflow_valid : x.workflow.Valid where
  canonicalWorkflowRevisionId := Json.flat_str _
  revision := Json.flat_int _
  predecessorRevisionId := Json.flat_optStr none
  tenantId := Json.flat_str _
  securityDomain := Json.flat_str _
  approvedCandidateDigest := Json.flat_str _
  approvalId := Json.flat_str _
  policyVersion := Json.flat_str _
  intentRevision := intentValues_instance ..
  tasks := taskValues_instances _
  orderedTaskIds := flat_of_mem_texts
  limitations := fun _ hv => nomatch hv
  matchingEligible := Json.flat_bool _

/-- The workflow as the execution service compares it. -/
def revision : WorkflowRevision where
  canonicalWorkflowRevisionId := x.command.workflowDefinitionRevisionId
  predecessorRevisionId := none
  tenantId := x.scope.namespaceName.value
  securityDomain := x.scope.securityDomain.value
  approvedCandidateDigest := removeSha256 x.command.workflowDefinitionDigest
  approvalId := approvalOf x.planId
  orderedTaskIds := x.order
  matchingEligible := true
  canonicalized := true
  asdict := x.workflow.asdict

theorem revision?_workflow : x.workflow.revision? = some x.revision := by
  have horder : (x.order.map Json.str).filterMap (fun v =>
      match v with
      | .str id => some id
      | _ => none) = x.order := by
    rw [List.filterMap_map]
    exact List.filterMap_some
  simp only [WorkflowRecord.revision?, workflow, revision, horder]
  rfl

end PlanSource

omit [Unicodedata] in
theorem PreparePlan.preparation_names (c : PreparePlan) : (c.preparation.map Prod.fst).Nodup := by
  show ["problemRevisionId", "problemRevisionDigest", "criteriaSetRevisionId", "criteriaSetDigest",
    "expectedProblemVersion", "workflowDefinitionId", "workflowDefinitionRevisionId",
    "workflowDefinitionDigest", "employeeDefinitionId", "employeeDefinitionRevisionId",
    "employeeDefinitionDigest", "digitalEmployeeInstanceId", "assignmentId"].Nodup
  decide

omit [Unicodedata] in
theorem PreparePlan.preparation_reads {c : PreparePlan} {key : String} {v : Json}
    (h : (key, v) ∈ c.preparation) (hflat : v.Flat) :
    (Json.obj c.preparation).sortKeys.get? key = some v := by
  rw [Json.get?_sortKeys c.preparation_names, Json.get?_of_mem c.preparation_names h,
    Option.map_some, hflat.sorted]

namespace PlanSource

theorem additional_distinct : Distinct x.additional := by
  rintro _ ⟨⟩
  refine ⟨rfl, Json.distinctKeys_obj.mpr ⟨x.command.preparation_names, ?_⟩⟩
  simp only [PreparePlan.preparation, List.forall_mem_cons]
  exact ⟨rfl, rfl, rfl, rfl, rfl, rfl, rfl, rfl, rfl, rfl, rfl, rfl, rfl, fun p hp => nomatch hp⟩

/-- The content as it is read. -/
def content : Json :=
  (Json.obj (planFields x.workflow.asdict x.command.assignmentId
    x.command.digitalEmployeeInstanceId x.additional)).sortKeys

theorem planContent_raw : planContent x.raw = some x.content :=
  planContent_dumps (planFields_distinct x.workflow_valid.distinct _ _ x.additional_distinct)

/-- The fields of the content. -/
structure Reads (content : Json) : Prop where
  problem : content.get? "businessProblemId" = some (.str x.problemId)
  preparation : content.get? "preparation" = some (Json.obj x.command.preparation).sortKeys
  schema : content.get? "schemaVersion" = some (.str "employee-execution-plan.v2")
  workflow : content.get? "workflow" = some x.workflow.asdict.sortKeys
  assignment : content.get? "assignmentId" = some (.str x.command.assignmentId)
  employeeInstance : content.get? "instanceId" = some (.str x.command.digitalEmployeeInstanceId)

theorem content_reads : x.Reads x.content := by
  have hget := get?_planFields x.workflow.asdict x.command.assignmentId
    x.command.digitalEmployeeInstanceId x.additional
  rw [← content] at hget
  simp only [planFields, additional, List.forall_mem_append, List.forall_mem_cons] at hget
  obtain ⟨⟨hproblem, hpreparation, -⟩, hschema, hworkflow, hassignment, hinstance, -⟩ := hget
  exact ⟨hproblem, hpreparation, hschema, hworkflow, hassignment, hinstance⟩

/-- A field of the workflow in the content. -/
theorem workflow_reads {key : String} {v : Json} (h : (key, v) ∈ x.workflow.values)
    (hflat : v.Flat) : x.workflow.asdict.sortKeys.get? key = some v := by
  rw [x.workflow.get?_asdict h, hflat.sorted]

variable {x}

/-- **The content is about the run** of the assignment in the scope. -/
theorem contentMatches_content {a : ExecutionIdentityAggregate} (hscope : a.scope = x.scope)
    (hassignment : a.assignmentId.value = x.command.assignmentId)
    (hinstance : a.digitalEmployeeInstanceId.value = x.command.digitalEmployeeInstanceId)
    (hrevision : a.approvedPlanRevisionId.value = x.command.workflowDefinitionRevisionId) :
    contentMatches a x.content = true := by
  have hreads := x.content_reads
  have hid : x.workflow.asdict.sortKeys.get? "canonical_workflow_revision_id"
      = some (.str x.command.workflowDefinitionRevisionId) :=
    x.workflow_reads (by simp [WorkflowRecord.values, workflow]) (Json.flat_str _)
  have htenant : x.workflow.asdict.sortKeys.get? "tenant_id"
      = some (.str x.scope.namespaceName.value) :=
    x.workflow_reads (by simp [WorkflowRecord.values, workflow]) (Json.flat_str _)
  have hdomain : x.workflow.asdict.sortKeys.get? "security_domain"
      = some (.str x.scope.securityDomain.value) :=
    x.workflow_reads (by simp [WorkflowRecord.values, workflow]) (Json.flat_str _)
  simp only [contentMatches, hreads.schema, hreads.assignment, hreads.employeeInstance,
    hreads.workflow, hid, htenant, hdomain, hassignment, hinstance, hrevision, hscope]
  simp

/-- The binding that `prepare` writes is that of the content. -/
theorem validateExecutionBinding_content :
    validateExecutionBinding (some x.binding) (sha256Bytes x.raw) x.content = .ok () := by
  have hreads := x.content_reads
  have hpreparation : ∀ p ∈ x.command.preparation,
      p.2.Flat → (Json.obj x.command.preparation).sortKeys.get? p.1 = some p.2 :=
    fun p hp => PreparePlan.preparation_reads hp
  simp only [PreparePlan.preparation, List.forall_mem_cons] at hpreparation
  obtain ⟨hrevision, hdigest, hcriteria, hcriteriaDigest, -⟩ := hpreparation
  rw [← PreparePlan.preparation] at hrevision hdigest hcriteria hcriteriaDigest
  simp only [validateExecutionBinding, hreads.problem, hreads.preparation, Option.bind_some,
    hrevision (Json.flat_str _), hdigest (Json.flat_str _), hcriteria (Json.flat_str _),
    hcriteriaDigest (Json.flat_str _)]
  simp [binding, isText]

/-- The workflow with the content's own problem and preparation has the same bytes. -/
theorem executionPlanBytes_revision :
    executionPlanBytes x.revision x.command.assignmentId x.command.digitalEmployeeInstanceId
      (some (.str x.problemId, (Json.obj x.command.preparation).sortKeys)) = x.raw := by
  rw [executionPlanBytes_eq, dumps_planFields_sortKeys]
  rfl

/-! ### The rows of a prepared and approved plan -/

def key (x : PlanSource) : PlanKey := (x.scope.key x.planId, 1)

def Stored (x : PlanSource) (t : PlanTables) : Prop :=
  ∃ p now, t.plans.lookup x.key = some p ∧ (x.plan now).Same p

def approval (x : PlanSource) : ApprovalRow :=
  ⟨x.scope.key (approvalOf x.planId), x.key, sha256Bytes x.raw, 1, .approve⟩

/-- The approval is the first under its key. -/
def Decided (x : PlanSource) (t : PlanTables) : Prop :=
  ∃ before rest, t.approvals = before ++ x.approval :: rest
    ∧ ∀ r ∈ before, r.key ≠ x.approval.key

theorem Stored.kept {t t' : PlanTables} (h : x.Stored t) (hk : t.Kept t') : x.Stored t' := by
  obtain ⟨p, now, hp, hsame⟩ := h
  obtain ⟨p', hp', hsame'⟩ := hk.plans hp
  exact ⟨p', now, hp', hsame.trans hsame'⟩

theorem Decided.kept {t t' : PlanTables} (h : x.Decided t) (hk : t.Kept t') : x.Decided t' := by
  obtain ⟨before, rest, hbefore, hne⟩ := h
  obtain ⟨later, hlater⟩ := hk.approvals
  refine ⟨before, rest ++ later, ?_, hne⟩
  rw [← hlater, hbefore, List.append_assoc]
  rfl

end PlanSource

variable {x}

theorem prepare_ok {c : PreparePlan} {resources : PlanResources c} {scope : ScopeIdentity}
    {problemId planId : String} {problem : ProblemRevision} {now : Datetime} {s s' : Authority}
    {x : PlanSource} (h : prepare c resources scope problemId planId problem now s = .ok (x, s')) :
    x.Stored s'.plans ∧ x.command = c ∧ x.scope = scope := by
  obtain ⟨order, -, h⟩ := bind_eq_ok.mp h
  obtain ⟨⟨p, s₁⟩, hentry, h⟩ := bind_eq_ok.mp h
  cases h
  rw [mapError_eq_ok] at hentry
  unfold preparePlanEntry at hentry
  simp only [ite_error_eq_ok', bind_eq_ok, orRaise_eq_ok] at hentry
  obtain ⟨-, -, plans, hinsert, hentry⟩ := hentry
  cases hentry
  obtain ⟨-, -, -, -, rfl⟩ := insertPlan_spec hinsert
  exact ⟨⟨_, now, AList.lookup_insert _, PlanRecord.same_withoutSource _⟩, rfl, rfl⟩

theorem approve_writes {c : DecidePlan} {scope : ScopeIdentity}
    {planId actor decisionDigest approvalId : String} {now : Datetime}
    {checks : Except EntryFailure Unit} {s s' : Authority} {d : ApprovalDecision} {p : PlanRecord}
    {envelope : Json} (hlookup : s.plans.plans.lookup (scope.key planId, c.planVersion) = some p)
    (hcontent : planContent p.canonicalBytes = some envelope)
    (happroval : (envelope.get? "workflow").bind (Json.get? "approval_id")
      = some (.str approvalId))
    (h : approve c scope planId actor decisionDigest now checks s = .ok (d, s')) :
    s.plans.Kept s'.plans
      ∧ s'.plans.approvals = s.plans.approvals ++ [⟨scope.key approvalId,
        (scope.key planId, c.planVersion), p.planDigest, 1, c.decision⟩]
      ∧ ∀ r ∈ s.plans.approvals, r.key ≠ scope.key approvalId := by
  rw [approve, hlookup] at h
  simp only [hcontent, happroval, ite_error_eq_ok', bind_eq_ok, not_not] at h
  obtain ⟨-, hdigest, -, -, h⟩ := h
  rw [mapError_eq_ok] at h
  unfold approvePlanEntry at h
  simp only [ite_error_eq_ok', bind_eq_ok] at h
  obtain ⟨-, -, -, plans, hplans, h⟩ := h
  cases h
  unfold PlanTables.appendApproval at hplans
  simp only [ite_error_eq_ok', hlookup, bind_eq_ok, orRaise_eq_ok, not_or, not_not] at hplans
  obtain ⟨-, ⟨-, hpending⟩, t', hinsert, hplans⟩ := hplans
  cases hplans
  obtain ⟨hmove, -⟩ := move_of_approval hlookup hpending hdigest hinsert
  refine ⟨hmove.kept, ?_⟩
  obtain ⟨hguard, rfl⟩ := guarded_eq_some.mp hinsert
  simp only [Bool.and_eq_true, Bool.not_eq_true', List.any_eq_false, decide_eq_true_eq,
    not_or] at hguard
  refine ⟨?_, fun r hr => (hguard.2 r hr).1⟩
  rw [PlanTables.setStatus, hlookup, hdigest]

/-- **An approval decides a prepared plan.** -/
theorem approve_ok {c : DecidePlan} {actor decisionDigest : String} {now : Datetime}
    {checks : Except EntryFailure Unit} {s s' : Authority} {d : ApprovalDecision}
    (hstored : x.Stored s.plans) (hversion : c.planVersion = 1) (happrove : c.decision = .approve)
    (h : approve c x.scope x.planId actor decisionDigest now checks s = .ok (d, s')) :
    x.Stored s'.plans ∧ x.Decided s'.plans := by
  have hstored' := hstored
  obtain ⟨p, created, hp, hsame⟩ := hstored
  have happroval : (x.content.get? "workflow").bind (Json.get? "approval_id")
      = some (.str (approvalOf x.planId)) := by
    rw [x.content_reads.workflow, Option.bind_some]
    exact x.workflow_reads (by simp [WorkflowRecord.values, PlanSource.workflow]) (Json.flat_str _)
  have hlookup : s.plans.plans.lookup (x.scope.key x.planId, c.planVersion) = some p := by
    rw [hversion]
    exact hp
  have hcontent : planContent p.canonicalBytes = some x.content := by
    rw [hsame.canonicalBytes, PlanSource.plan_canonicalBytes]
    exact x.planContent_raw
  obtain ⟨hkept, happrovals, hkeys⟩ := approve_writes hlookup hcontent happroval h
  refine ⟨hstored'.kept hkept, s.plans.approvals, [], ?_, hkeys⟩
  rw [happrovals, hversion, happrove, hsame.planDigest, PlanSource.plan_planDigest]
  rfl

/-! ### The checks of a start -/

/-- The approval that `validate_lineage` finds is that of the plan. -/
theorem checkPlan_decided {t : PlanTables} {p : PlanRecord} {now : Datetime}
    (hp : t.plans.lookup x.key = some p) (hsame : (x.plan now).Same p) (hdecided : x.Decided t)
    (hstatus : p.status = .approved) :
    checkPlan t x.scope (approvalOf x.planId) (some (sha256Bytes x.raw)) = .ok p := by
  obtain ⟨before, rest, hbefore, hne⟩ := hdecided
  have hdigest : p.planDigest = sha256Bytes x.raw := by
    rw [hsame.planDigest, PlanSource.plan_planDigest]
  have hfind : t.approvals.find? (fun d => d.key = x.scope.key (approvalOf x.planId))
      = some x.approval := by
    rw [hbefore, List.find?_append, List.find?_eq_none.mpr, Option.none_or, List.find?_cons_of_pos]
    · exact decide_eq_true rfl
    · intro r hr
      simp only [decide_eq_true_eq]
      exact hne r hr
  have happroved : t.approved x.scope (approvalOf x.planId) = some (x.approval, p) := by
    rw [PlanTables.approved, hfind]
    show ((t.plans.lookup x.key).bind fun p =>
      if x.approval.planDigest = p.planDigest then some (x.approval, p) else none) = _
    rw [hp, Option.bind_some, if_pos]
    rw [hdigest, PlanSource.approval]
  rw [checkPlan, happroved]
  dsimp only
  rw [if_neg]
  rintro (h | h | h)
  · exact h hstatus
  · exact h rfl
  · exact h (congrArg some hdigest)

namespace PlanSource

/-- The start is of a task of the plan. -/
structure Starts (x : PlanSource) (g : StartGovernedExecution) : Prop where
  planId : g.planId = x.planId
  planVersion : g.planVersion = 1
  planDigest : g.planDigest = sha256Bytes x.raw
  approvalId : g.approvalId = approvalOf x.planId
  assignmentId : g.assignmentId = x.command.assignmentId
  employeeInstance : g.digitalEmployeeInstanceId = x.command.digitalEmployeeInstanceId
  taskId : g.taskId ∈ x.order

/-- The command that the execution service gets. -/
def start (x : PlanSource) (resources : PlanResources x.command) (principalId requestDigest : String)
    (g : StartGovernedExecution) : StartExecutionCommand where
  scope := x.scope
  plan := x.revision
  approvedPlan := ⟨x.command.workflowDefinitionRevisionId,
    removeSha256 x.command.workflowDefinitionDigest, g.approvalId, some g.planId,
    some g.planVersion, some g.planDigest⟩
  assignmentId := resources.assignment
  digitalEmployeeInstanceId := resources.employeeInstance
  taskId := g.taskId
  replayIdentity := principalId ++ ":" ++ g.idempotencyKey
  predecessorWorkflowRunId := none
  correctionOfWorkflowRunId := none
  requestClaim := some ⟨principalId, g.idempotencyKey, requestDigest⟩

end PlanSource

/-- **The governed start accepts a prepared and approved plan**; what is left is the
operation of the skill. -/
theorem governedStart_approved {t : PlanTables} {p : PlanRecord} {now : Datetime}
    (hp : t.plans.lookup x.key = some p) (hsame : (x.plan now).Same p) (hdecided : x.Decided t)
    (hstatus : p.status = .approved) (resources : PlanResources x.command)
    {g : StartGovernedExecution} (hg : x.Starts g) (principalId requestDigest : String)
    (operation : Except EntryFailure Unit) :
    governedStart t x.scope principalId requestDigest operation g
      = operation.bind fun _ => .ok (x.start resources principalId requestDigest g) := by
  obtain ⟨before, rest, hbefore, -⟩ := hdecided
  have hbytes : p.canonicalBytes = x.raw := by
    rw [hsame.canonicalBytes, PlanSource.plan_canonicalBytes]
  have hdigest : p.planDigest = sha256Bytes x.raw := by
    rw [hsame.planDigest, PlanSource.plan_planDigest]
  have hkey : (x.scope.key g.planId, g.planVersion) = x.key := by
    rw [hg.planId, hg.planVersion]
    rfl
  have hread : workflowFromPlan x.raw = some (x.workflow, .str x.command.assignmentId,
      .str x.command.digitalEmployeeInstanceId) :=
    workflowFromPlan_bytes x.workflow_valid _ _ x.additional_distinct
  have hassignment : opaqueId g.assignmentId = .ok resources.assignment := by
    rw [hg.assignmentId, ← resources.assignment_eq]
    exact normalizedText_value _ _
  have hinstance : opaqueId g.digitalEmployeeInstanceId = .ok resources.employeeInstance := by
    rw [hg.employeeInstance, ← resources.employeeInstance_eq]
    exact normalizedText_value _ _
  have hlookup : t.plans.lookup (x.scope.key g.planId, g.planVersion) = some p := by
    rw [hkey]
    exact hp
  have happroval : ∃ d ∈ t.approvals, d.plan = (x.scope.key g.planId, g.planVersion) ∧ d.key = x.scope.key g.approvalId ∧
      d.decision = .approve ∧ d.planDigest = g.planDigest := by
    refine ⟨x.approval, ?_, hkey.symm, ?_, rfl, ?_⟩
    · rw [hbefore]
      exact List.mem_append_right _ List.mem_cons_self
    · rw [hg.approvalId]
      rfl
    · rw [hg.planDigest]
      rfl
  have hbinding : (!isText (.str x.command.assignmentId) g.assignmentId
      || !isText (.str x.command.digitalEmployeeInstanceId) g.digitalEmployeeInstanceId
      || !isText x.workflow.approvalId g.approvalId) = false := by
    rw [hg.assignmentId, hg.employeeInstance, hg.approvalId]
    simp [isText, PlanSource.workflow]
  have hfound : ¬(p.status ≠ .approved ∨ p.planDigest ≠ g.planDigest ∨
      sha256Bytes p.canonicalBytes ≠ p.planDigest) := by
    rw [hdigest, hbytes, hg.planDigest, hstatus]
    simp
  rw [governedStart]
  simp only [hlookup]
  rw [if_neg hfound, if_neg (not_not.mpr happroval), hbytes, hread]
  simp only [hbinding, Bool.false_eq_true, if_false, hassignment, hinstance,
    PlanSource.revision?_workflow]
  rfl

/-- The execution service accepts the command. -/
theorem assertExactApproval_start (resources : PlanResources x.command)
    {g : StartGovernedExecution} (hg : x.Starts g) (principalId requestDigest : String) :
    assertExactApproval (x.start resources principalId requestDigest g) = .ok () := by
  simp [assertExactApproval, PlanSource.start, PlanSource.revision, hg.approvalId, hg.taskId]

theorem aggregate_start {resources : PlanResources x.command} {g : StartGovernedExecution}
    {principalId requestDigest : String} {a : ExecutionIdentityAggregate}
    (h : (x.start resources principalId requestDigest g).aggregate = .ok a) :
    a.scope = x.scope ∧ a.assignmentId.value = x.command.assignmentId
      ∧ a.digitalEmployeeInstanceId.value = x.command.digitalEmployeeInstanceId
      ∧ a.approvedPlanRevisionId.value = x.command.workflowDefinitionRevisionId
      ∧ a.predecessorAttemptId = none := by
  unfold StartExecutionCommand.aggregate at h
  simp only [bind_eq_ok] at h
  obtain ⟨_, -, _, -, revision, hrevision, _, -, _, -, _, -, _, -, h⟩ := h
  have hvalue : revision = resources.workflowRevision := by
    have hsame : reference "INVALID_PLAN_REVISION" x.command.workflowDefinitionRevisionId
        = .ok resources.workflowRevision := by
      rw [← resources.workflowRevision_eq]
      exact normalizedText_value _ _
    exact Except.ok.inj (hrevision.symm.trans hsame)
  split at h
  · split at h
    · cases h
      exact ⟨rfl, resources.assignment_eq, resources.employeeInstance_eq,
        hvalue ▸ resources.workflowRevision_eq, rfl⟩
    · cases h
  · cases h

/-- **The lineage of a start rests on the employee and the assignment**: every check of the
plan and of its content passes. -/
theorem validateLineage_start {t : PlanTables} {p : PlanRecord} {now : Datetime}
    (hp : t.plans.lookup x.key = some p) (hsame : (x.plan now).Same p) (hdecided : x.Decided t)
    (hstatus : p.status = .approved) {resources : PlanResources x.command}
    {g : StartGovernedExecution} (hg : x.Starts g) {principalId requestDigest : String}
    {a : ExecutionIdentityAggregate}
    (ha : (x.start resources principalId requestDigest g).aggregate = .ok a)
    (answers : LineageAnswers) (refs : References) (targets : Targets) {decision : String}
    (hdecision : decision ≠ "")
    (hproblem : answers.problem
      = validateExecutionBinding (some x.binding) (sha256Bytes x.raw) x.content) :
    validateLineage answers refs t targets a
        (some (x.start resources principalId requestDigest g).approvedPlan) decision
        (some x.revision) (some g.taskId)
      = (checkEmployee answers refs a).bind fun employee =>
        (checkAssignment answers refs a).bind fun _ =>
          .ok ⟨employee.bound.1, employee.bound.2.1, employee.bound.2.2, x.planId, 1,
            sha256Bytes x.raw, some g.taskId, approvalOf x.planId, 1⟩ := by
  obtain ⟨hscope, hassignment, hinstance, hrevision, hfirst⟩ := aggregate_start ha
  have hbytes : p.canonicalBytes = x.raw := by
    rw [hsame.canonicalBytes, PlanSource.plan_canonicalBytes]
  have hdigest : p.planDigest = sha256Bytes x.raw := by
    rw [hsame.planDigest, PlanSource.plan_planDigest]
  have hid : p.planId = x.planId := hsame.planId
  have hversion : p.planVersion = 1 := hsame.planVersion
  have hplan : checkPlan t a.scope g.approvalId (some g.planDigest) = .ok p := by
    rw [hscope, hg.approvalId, hg.planDigest]
    exact checkPlan_decided hp hsame hdecided hstatus
  have hcontent : checkContent answers a p
      = .ok (x.content, some (.str x.problemId, (Json.obj x.command.preparation).sortKeys)) := by
    have hmatches := PlanSource.contentMatches_content hscope hassignment hinstance hrevision
    have hversion2 : isProblemPlan x.content = true := by
      rw [isProblemPlan, x.content_reads.schema]
      rfl
    rw [checkContent, if_neg (not_not.mpr (by rw [hbytes, hdigest])), hbytes, x.planContent_raw]
    simp only [hmatches, hversion2, hproblem, PlanSource.validateExecutionBinding_content,
      x.content_reads.problem, x.content_reads.preparation]
    rfl
  have hstart : checkStart a p (some (.str x.problemId, (Json.obj x.command.preparation).sortKeys))
      (some x.revision) (some g.taskId) = .ok () := by
    rw [checkStart, hassignment, hinstance, PlanSource.executionPlanBytes_revision, hbytes, if_neg]
    rintro (h | h)
    · exact h hg.taskId
    · exact h rfl
  have happroved : (x.start resources principalId requestDigest g).approvedPlan
      = ⟨x.command.workflowDefinitionRevisionId, removeSha256 x.command.workflowDefinitionDigest,
        g.approvalId, some g.planId, some g.planVersion, some g.planDigest⟩ := rfl
  rw [validateLineage, if_neg hdecision, hfirst, happroved]
  have hidentity : ¬((some g.planId, some g.planVersion) ≠ (some p.planId, some p.planVersion)) := by
    rw [hg.planId, hg.planVersion, hid, hversion]
    exact not_not.mpr rfl
  cases checkEmployee answers refs a with
  | error f => rfl
  | ok employee =>
    cases checkAssignment answers refs a with
    | error f => rfl
    | ok _ =>
      show (checkPlan t a.scope g.approvalId (some g.planDigest) >>= _) = _
      rw [hplan]
      show (if _ then _ else _) = _
      rw [if_neg hidentity, hcontent]
      show (checkStart a p _ _ _ >>= _) = _
      rw [hstart, hid, hversion, hdigest]
      show Except.ok _ = Except.ok _
      rw [← hg.approvalId]

/-! ### The plan from its preparation to its start -/

/-- The workflows that become the content of a plan. -/
inductive Written : WorkflowRecord → Prop
  | decided (w : Planning.CanonicalWorkflowRevision) : Written (ofEngine w)
  | prepared (x : PlanSource) : Written x.workflow

theorem Written.valid {w : WorkflowRecord} (h : Written w) : w.Valid := by
  cases h with
  | decided w => exact ofEngine_valid w
  | prepared x => exact x.workflow_valid

/-- **Approved plan content survives storage.** Every workflow that is written as the
content of a plan is read back with the same bytes; and a plan that is prepared and
approved, with any commands before, between and after, passes the checks of its content
when one of its tasks is started while it is approved. -/
theorem approved_plan_starts :
    (∀ {w : WorkflowRecord}, Written w → ∀ (assignmentId instanceId : String)
      {additional : Option (Json × Json)}, Distinct additional →
      ∃ w', workflowFromPlan (w.bytes assignmentId instanceId additional)
          = some (w', .str assignmentId, .str instanceId)
        ∧ w'.bytes assignmentId instanceId additional
          = w.bytes assignmentId instanceId additional)
    ∧ ∀ {c : PreparePlan} {resources : PlanResources c} {scope : ScopeIdentity}
        {problemId planId : String} {problem : ProblemRevision} {now : Datetime}
        {s s₁ s₂ : Authority} {x : PlanSource} {between after : List Command} {d : DecidePlan}
        {actor decisionDigest : String} {decidedAt : Datetime} {checks : Except EntryFailure Unit}
        {decided : ApprovalDecision} {p : PlanRecord},
      prepare c resources scope problemId planId problem now s = .ok (x, s₁) →
      d.planVersion = 1 → d.decision = .approve →
      approve d x.scope x.planId actor decisionDigest decidedAt checks (run between s₁)
        = .ok (decided, s₂) →
      (run after s₂).plans.plans.lookup x.key = some p → p.status = .approved →
      ∀ {g : StartGovernedExecution}, x.Starts g → ∀ (principalId requestDigest : String),
        ∃ command : StartExecutionCommand, command.taskId = g.taskId
          ∧ (∀ operation, governedStart (run after s₂).plans x.scope principalId requestDigest
              operation g = operation.bind fun _ => .ok command)
          ∧ assertExactApproval command = .ok ()
          ∧ ∀ {a : ExecutionIdentityAggregate}, command.aggregate = .ok a →
            ∀ (answers : LineageAnswers) (refs : References) (targets : Targets) {decision : String},
              decision ≠ "" →
              answers.problem
                = validateExecutionBinding (some x.binding) (sha256Bytes x.raw) x.content →
              validateLineage answers refs (run after s₂).plans targets a
                  (some command.approvedPlan) decision (some command.plan) (some command.taskId)
                = (checkEmployee answers refs a).bind fun employee =>
                  (checkAssignment answers refs a).bind fun _ =>
                    .ok ⟨employee.bound.1, employee.bound.2.1, employee.bound.2.2, x.planId, 1,
                      sha256Bytes x.raw, some g.taskId, approvalOf x.planId, 1⟩ := by
  refine ⟨?_, ?_⟩
  · intro w hw assignmentId instanceId additional hadditional
    exact ⟨w, workflowFromPlan_bytes hw.valid assignmentId instanceId hadditional, rfl⟩
  · intro c resources scope problemId planId problem now s s₁ s₂ x between after d actor
      decisionDigest decidedAt checks decided p hprepare hversion happrove hdecide hp hstatus g hg
      principalId requestDigest
    obtain ⟨hstored, rfl, -⟩ := prepare_ok hprepare
    obtain ⟨hstored, hdecided⟩ :=
      approve_ok (hstored.kept (run_kept between s₁)) hversion happrove hdecide
    obtain ⟨q, created, hq, hsame⟩ := hstored.kept (run_kept after s₂)
    obtain rfl : q = p := Option.some.inj (hq.symm.trans hp)
    have hdecided := hdecided.kept (run_kept after s₂)
    refine ⟨x.start resources principalId requestDigest g, rfl, ?_, ?_, ?_⟩
    · exact governedStart_approved hp hsame hdecided hstatus resources hg principalId requestDigest
    · exact assertExactApproval_start resources hg principalId requestDigest
    · intro a ha answers refs targets decision hdecision hproblem
      exact validateLineage_start hp hsame hdecided hstatus hg ha answers refs targets hdecision
        hproblem

end Prepared

end Entry

end Control

end AgentPlatform
