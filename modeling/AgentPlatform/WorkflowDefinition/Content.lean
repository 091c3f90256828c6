/-
AgentPlatform/WorkflowDefinition/Content.lean

The content of a workflow definition (`workflow_definition_schemas.py`) and its
checks (`workflow_definition_service.py`).

Contents are those of the API. `skillOperationBindings` may be absent, null or a
list, which the digest and an edit tell apart. The reference resolver answers
anything at each question.
-/
import AgentPlatform.Py.Json
import AgentPlatform.Py.Hash
import AgentPlatform.Py.Sorted

namespace AgentPlatform

open Py

namespace WorkflowDefinition

/-- `WorkflowDefinitionFailure`, and what other exceptions the service lets through. -/
inductive Failure
  | reason (code : String)
  /-- `WorkflowDefinitionConflict` of `create`. -/
  | conflict
  /-- An exception of the reference resolver. -/
  | resolver
  /-- `StopIteration` of `next`. -/
  | stopIteration
  deriving DecidableEq

/-! ### Contents -/

inductive ReferenceKind
  | agent
  | skill
  | mcp
  | knowledge
  | runtimeProfile
  deriving DecidableEq

def ReferenceKind.value : ReferenceKind → String
  | agent => "AGENT"
  | skill => "SKILL"
  | mcp => "MCP"
  | knowledge => "KNOWLEDGE"
  | runtimeProfile => "RUNTIME_PROFILE"

structure ExactReference where
  kind : ReferenceKind
  resourceId : String
  revisionId : String
  digest : Option String
  deriving DecidableEq

structure SkillOperationBinding where
  skillId : String
  skillRevisionId : String
  skillDigest : String
  operation : String
  deriving DecidableEq

/-- The entry `skillOperationBindings` of a task. -/
inductive Bindings
  | absent
  | null
  | items (bindings : List SkillOperationBinding)
  deriving DecidableEq

inductive FailurePolicy
  | failWorkflow
  | skipDependents
  deriving DecidableEq

def FailurePolicy.value : FailurePolicy → String
  | failWorkflow => "FAIL_WORKFLOW"
  | skipDependents => "SKIP_DEPENDENTS"

structure WorkflowTask where
  taskId : String
  name : String
  dependsOn : List String := []
  inputs : List String := []
  outputs : List String := []
  capabilityRequirements : List String := []
  references : List ExactReference := []
  skillOperationBindings : Bindings := .absent
  retryLimit : Int := 0
  timeoutSeconds : Int := 300
  failurePolicy : FailurePolicy := .failWorkflow
  deriving DecidableEq

structure WorkflowContent where
  description : String := ""
  tasks : List WorkflowTask
  inputs : List String := []
  outputs : List String := []
  runtimeProfile : ExactReference
  deriving DecidableEq

/-! ### JSON -/

def texts (values : List String) : Json := .arr (values.map .str)

def ExactReference.json (r : ExactReference) : Json :=
  .obj ([("kind", .str r.kind.value), ("resourceId", .str r.resourceId),
    ("revisionId", .str r.revisionId)] ++ r.digest.toList.map fun d => ("digest", .str d))

def SkillOperationBinding.json (b : SkillOperationBinding) : Json :=
  .obj [("skillId", .str b.skillId), ("skillRevisionId", .str b.skillRevisionId),
    ("skillDigest", .str b.skillDigest), ("operation", .str b.operation)]

def Bindings.entries : Bindings → List (String × Json)
  | absent => []
  | null => [("skillOperationBindings", .null)]
  | items bindings => [("skillOperationBindings", .arr (bindings.map SkillOperationBinding.json))]

def WorkflowTask.json (t : WorkflowTask) : Json :=
  .obj ([("taskId", .str t.taskId), ("name", .str t.name), ("dependsOn", texts t.dependsOn),
    ("inputs", texts t.inputs), ("outputs", texts t.outputs),
    ("capabilityRequirements", texts t.capabilityRequirements),
    ("references", .arr (t.references.map ExactReference.json))] ++ t.skillOperationBindings.entries
    ++ [("retryLimit", .int t.retryLimit), ("timeoutSeconds", .int t.timeoutSeconds),
      ("failurePolicy", .str t.failurePolicy.value)])

def WorkflowContent.json (c : WorkflowContent) : Json :=
  .obj [("description", .str c.description), ("tasks", .arr (c.tasks.map WorkflowTask.json)),
    ("inputs", texts c.inputs), ("outputs", texts c.outputs),
    ("runtimeProfile", c.runtimeProfile.json)]

/-! ### Checks -/

/-- Keys that no object of a content may have. -/
def forbidden : List String :=
  ["podYaml", "podName", "env", "environment", "exec", "command", "rawSecret", "secretValue", "logs"]

mutual

/-- `walk` finds no forbidden key. -/
def safe : Json → Bool
  | .arr items => safeItems items
  | .obj fields => (fields.map Prod.fst).all (· ∉ forbidden) && safeFields fields
  | _ => true

def safeItems : List Json → Bool
  | [] => true
  | v :: vs => safe v && safeItems vs

def safeFields : List (String × Json) → Bool
  | [] => true
  | (_, v) :: fs => safe v && safeFields fs

end

/-- The loop of `_stable_order` over the tasks that are left, each with the
dependencies that are left. -/
def rounds : Nat → List (String × List String) → Except Failure (List String)
  | _, [] => .ok []
  | 0, _ :: _ => .error (.reason "WORKFLOW_CYCLE_DETECTED")
  | n + 1, deps =>
    match sortedBy id ((deps.filter fun d => d.2 = []).map Prod.fst) with
    | [] => .error (.reason "WORKFLOW_CYCLE_DETECTED")
    | ready =>
      (rounds n ((deps.filter fun d => d.1 ∉ ready).map fun d => (d.1, d.2.filter (· ∉ ready)))).map
        (ready ++ ·)

/-- A round per task is enough: the cycle is found before the rounds run out. -/
theorem rounds_succ (n : Nat) (deps : List (String × List String)) (h : deps.length ≤ n) :
    rounds (n + 1) deps = rounds n deps := by
  induction n generalizing deps with
  | zero =>
    rw [List.length_eq_zero_iff.mp (Nat.le_zero.mp h)]
    rfl
  | succ n ih =>
    cases deps with
    | nil => rfl
    | cons d deps =>
      have hne : d :: deps = [] → False := nofun
      rw [rounds.eq_3 _ _ hne, rounds.eq_3 _ _ hne]
      generalize hready : sortedBy id (((d :: deps).filter fun d => d.2 = []).map Prod.fst) = ready
      cases ready with
      | nil => rfl
      | cons a ready =>
        dsimp only
        rw [ih]
        rw [List.length_map]
        have hmem : a ∈ ((d :: deps).filter fun d => d.2 = []).map Prod.fst := by
          rw [← @mem_sortedBy _ _ _ id, hready]
          exact List.mem_cons_self
        obtain ⟨e, he, rfl⟩ := List.mem_map.mp hmem
        have hlt : ((d :: deps).filter fun d => d.1 ∉ e.1 :: ready).length < (d :: deps).length := by
          refine List.length_filter_lt_length_iff_exists.mpr ⟨e, List.mem_of_mem_filter he, ?_⟩
          simp
        exact Nat.le_of_lt_succ (Nat.lt_of_lt_of_le hlt h)

def stableOrder (tasks : List WorkflowTask) : Except Failure (List String) :=
  let ids := tasks.map (·.taskId)
  if ids.length ≠ ids.dedup.length then .error (.reason "DUPLICATE_TASK_ID")
  else if tasks.any fun t => t.dependsOn.any (· ∉ ids) || t.taskId ∈ t.dependsOn then
    .error (.reason "INVALID_TASK_DEPENDENCY")
  else rounds tasks.length (tasks.map fun t => (t.taskId, t.dependsOn))

/-- What the resolver is asked. -/
structure Question where
  kind : ReferenceKind
  resourceId : String
  revisionId : String
  digest : Option String
  operation : Option String := none
  deriving DecidableEq

def ExactReference.question (r : ExactReference) : Question :=
  ⟨r.kind, r.resourceId, r.revisionId, r.digest, none⟩

def SkillOperationBinding.question (b : SkillOperationBinding) : Question :=
  ⟨.skill, b.skillId, b.skillRevisionId, some b.skillDigest, some b.operation⟩

inductive Resolved
  | found
  | missing
  | raised

/-- A resolver: its answer to a question, given how many it has answered. -/
abbrev Resolver := Option (Nat → Question → Resolved)

/-- The checks of the bindings of a task, and what they refer to. -/
def bindingQuestions (t : WorkflowTask) : Except Failure (List Question) :=
  match t.skillOperationBindings with
  | .absent | .null => .ok []
  | .items [] => .error (.reason "SKILL_OPERATION_BINDING_REQUIRED")
  | .items bindings =>
    if bindings.dedup.length ≠ bindings.length then
      .error (.reason "DUPLICATE_SKILL_OPERATION_BINDING")
    else if bindings.any fun b => t.references.all fun r =>
        r.kind ≠ .skill || r.resourceId ≠ b.skillId || r.revisionId ≠ b.skillRevisionId then
      .error (.reason "SKILL_OPERATION_REFERENCE_REQUIRED")
    else .ok (bindings.map SkillOperationBinding.question)

def tasksQuestions : List WorkflowTask → Except Failure (List Question)
  | [] => .ok []
  | t :: ts =>
    match bindingQuestions t with
    | .error f => .error f
    | .ok questions => (tasksQuestions ts).map (questions ++ ·)

/-- The questions are answered one after the other. -/
def resolveAll (answer : Nat → Question → Resolved) : Nat → List Question → Except Failure Unit
  | _, [] => .ok ()
  | n, q :: qs =>
    match answer n q with
    | .raised => .error .resolver
    | .missing => .error (.reason "EXACT_REFERENCE_NOT_FOUND")
    | .found => resolveAll answer (n + 1) qs

/-- `_validate_content`, where `none` does not resolve. -/
def validateContent (content : WorkflowContent) (resolve : Option Resolver) : Except Failure Unit :=
  if safe content.json = false then .error (.reason "UNSAFE_RUNTIME_FIELD_FORBIDDEN")
  else
    match stableOrder content.tasks with
    | .error f => .error f
    | .ok _ =>
      match tasksQuestions content.tasks with
      | .error f => .error f
      | .ok questions =>
        match resolve with
        | none => .ok ()
        | some none => .error (.reason "REFERENCE_RESOLVER_UNAVAILABLE")
        | some (some answer) =>
          resolveAll answer 0 (content.runtimeProfile.question
            :: (content.tasks.flatMap (·.references.map ExactReference.question) ++ questions))

/-- What `_preserve_prior_skill_bindings` does to a task of the candidate. -/
def preserved (prior : List WorkflowTask) (t : WorkflowTask) : Except Failure WorkflowTask :=
  match t.skillOperationBindings with
  | .items _ => .ok t
  | .absent | .null =>
    -- the last of the prior tasks with the ID
    match (prior.reverse.find? fun p => p.taskId = t.taskId).map WorkflowTask.skillOperationBindings with
    | some (Bindings.items (_ :: _)) => .error (.reason "SKILL_OPERATION_BINDING_PRESERVATION_REQUIRED")
    | _ => .ok { t with skillOperationBindings := .absent }

def preservedAll (prior : List WorkflowTask) : List WorkflowTask → Except Failure (List WorkflowTask)
  | [] => .ok []
  | t :: ts =>
    match preserved prior t with
    | .error f => .error f
    | .ok t => (preservedAll prior ts).map (t :: ·)

end WorkflowDefinition

end AgentPlatform
