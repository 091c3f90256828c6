/-
AgentPlatform/Workflow/Controller.lean

The Workflow controller (`workflow_controller.py`) and the Task resource it
builds (`resources.py`).

A reconcile observes the Tasks of the Workflow and its stored status, and
everything it does afterwards is decided by these two: the creates it attempts,
in order, and the status it computes. `planWorkflow` is this decision;
`ensureWorkflowTask` and `patchWorkflowStatus` are the two writes. The writes
of one reconcile never feed back into its own decisions, so that reconciles
which overlap are plans whose writes interleave.
-/
import AgentPlatform.Py.Table
import AgentPlatform.Workflow.Graph

namespace AgentPlatform

open Py

/-! ### Resources -/

structure TaskResource where
  apiVersion : String
  kind : String
  name : String
  namespaceName : String
  labels : List (String × String)
  agentRef : String
  prompt : String
  timeoutSeconds : Option Int
  phase : Option TaskPhase
  result : Option String
  deriving DecidableEq

def TaskResource.label (key : String) (t : TaskResource) : Option String := t.labels.lookup key

def TaskResource.workflow (t : TaskResource) : Option String := t.label "agentos.io/workflow"

def TaskResource.workflowTask (t : TaskResource) : Option String :=
  t.label "agentos.io/workflow-task"

/-- The name of the Task of a node. -/
def taskResourceName (workflowName taskName : String) : String := workflowName ++ "-" ++ taskName

def buildWorkflowTask (workflowName namespaceName : String) (task : TaskSpec) : TaskResource where
  apiVersion := "agentos.io/v1alpha1"
  kind := "Task"
  name := taskResourceName workflowName task.name
  namespaceName := namespaceName
  labels := [("app.kubernetes.io/managed-by", "agent-operator"),
    ("agentos.io/workflow", workflowName), ("agentos.io/workflow-task", task.name)]
  agentRef := task.agentRef
  prompt := task.prompt
  timeoutSeconds := task.timeoutSeconds
  phase := none
  result := none

section Built

variable (w ns : String) (task : TaskSpec)

@[simp] theorem buildWorkflowTask_name :
    (buildWorkflowTask w ns task).name = taskResourceName w task.name := rfl

@[simp] theorem buildWorkflowTask_workflow :
    (buildWorkflowTask w ns task).workflow = some w := by
  simp [TaskResource.workflow, TaskResource.label, buildWorkflowTask, List.lookup]

@[simp] theorem buildWorkflowTask_workflowTask :
    (buildWorkflowTask w ns task).workflowTask = some task.name := by
  simp [TaskResource.workflowTask, TaskResource.label, buildWorkflowTask, List.lookup]

end Built

structure TaskState where
  phase : TaskPhase
  result : Option String
  deriving DecidableEq

def TaskResource.state (t : TaskResource) : TaskState := ⟨t.phase.getD .pending, t.result⟩

/-- What one item of the response adds to the states. -/
def addState (states : Table String TaskState) (item : TaskResource) : Table String TaskState :=
  match item.workflowTask with
  | none => states
  | some name => if name = "" then states else states.insert name item.state

/-- `items` are the Tasks of the namespace; the server selects by label. -/
def listWorkflowTaskStates (workflowName : String) (items : List TaskResource) :
    Table String TaskState :=
  (items.filter (·.workflow = some workflowName)).foldl addState ∅

/-! ### Status -/

/-- An entry of `status.tasks`; a missing key is `none`. -/
structure NodeStatus where
  phase : Option NodePhase
  taskRef : Option String
  reason : Option String
  message : Option String
  deriving DecidableEq

inductive WorkflowPhase where
  | pending
  | running
  | succeeded
  | failed
  deriving DecidableEq

structure WorkflowStatus where
  phase : Option WorkflowPhase
  taskCount : Option Int
  tasks : Table String NodeStatus

def WorkflowStatus.empty : WorkflowStatus := ⟨none, none, ∅⟩

def recordedSkipped (tasks : Table String NodeStatus) (name : String) : Prop :=
  ∃ s, tasks.lookup name = some s ∧ s.phase = some .skipped

instance (tasks : Table String NodeStatus) (name : String) :
    Decidable (recordedSkipped tasks name) :=
  match h : tasks.lookup name with
  | none => isFalse fun ⟨s, hs, _⟩ => by rw [h] at hs; cases hs
  | some s =>
    if hp : s.phase = some .skipped then isTrue ⟨s, h, hp⟩
    else isFalse fun ⟨s', hs, hp'⟩ => by rw [h] at hs; cases hs; exact hp hp'

def TaskPhase.text : TaskPhase → String
  | .pending => "Pending"
  | .running => "Running"
  | .succeeded => "Succeeded"
  | .failed => "Failed"
  | .timedOut => "TimedOut"

def NodePhase.text : NodePhase → String
  | .task p => p.text
  | .skipped => "Skipped"

def buildSkippedTaskStatus [Printable] (taskName : String) (dependencies : List String)
    (phases : Phases) : NodeStatus :=
  let blockers := dependencies.filterMap fun d =>
    if unsuccessful (phases d) then (phases d).map fun p => (d, p) else none
  let hasDirectFailure := blockers.any fun b =>
    b.2 = .task .failed || b.2 = .task .timedOut
  let blockerText := ", ".intercalate (blockers.map fun b => b.1 ++ " (" ++ b.2.text ++ ")")
  { phase := some .skipped
    taskRef := none
    reason := some (if hasDirectFailure then "DependencyFailed" else "DependencySkipped")
    message := some ("Task " ++ quoted taskName ++
      " skipped because required dependencies cannot succeed: " ++ blockerText) }

/-- The status of one node, from what was observed. -/
def taskStatus (workflowName : String) (states : Table String TaskState)
    (existing : Table String NodeStatus) (name : String) : NodeStatus :=
  match states.lookup name with
  | some s => ⟨some (.task s.phase), some (taskResourceName workflowName name), none, none⟩
  | none =>
    match existing.lookup name with
    | some s => if s.phase = some .skipped then s else ⟨some (.task .pending), none, none, none⟩
    | none => ⟨some (.task .pending), none, none, none⟩

def buildWorkflowTaskStatuses (workflowName : String) (taskNames : List String)
    (states : Table String TaskState) (existing : Table String NodeStatus) :
    Table String NodeStatus :=
  Table.ofKeys taskNames (taskStatus workflowName states existing)

/-- Membership in `WORKFLOW_TERMINAL_TASK_PHASES`. -/
def terminalNode : NodePhase → Bool
  | .task .succeeded | .task .failed | .task .timedOut | .skipped => true
  | _ => false

def aggregateWorkflowPhase (taskNames : List String) (phases : Phases) : WorkflowPhase :=
  let all := taskNames.map fun n => (phases n).getD (.task .pending)
  if all ≠ [] ∧ ∀ p ∈ all, p = .task .succeeded then .succeeded
  else if all ≠ [] ∧ ∀ p ∈ all, terminalNode p = true then .failed
  else .running

/-! ### Prompts -/

def sourceResult (states : Table String TaskState) (source : String) : Option String :=
  (states.lookup source).bind TaskState.result

/-- `task_results`, unless some result is missing. -/
def taskResults (states : Table String TaskState) : List String → Option (List (String × String))
  | [] => some []
  | source :: sources => do
    let result ← sourceResult states source
    let results ← taskResults states sources
    some ((source, result) :: results)

def resolveTaskPrompt (task : TaskSpec) (results : List (String × String)) : String :=
  if task.sources = [] then task.prompt
  else "\n".intercalate ([task.prompt, "", "Previous task results:"] ++
    task.sources.flatMap fun s => ["", "[" ++ s ++ "]", (results.lookup s).getD ""])

/-! ### Reconciling -/

/-- The phases a reconcile starts from: those of the Tasks, and the skips that
are recorded for nodes without one. -/
def observedPhases (states : Table String TaskState) (existing : Table String NodeStatus) :
    Phases := fun name =>
  match states.lookup name with
  | some s => some (.task s.phase)
  | none => if recordedSkipped existing name then some .skipped else none

/-- The loop over the skipped tasks: phases so far and their statuses. -/
def recordSkip [Printable] (graph : WorkflowGraph) (s : Phases × Table String NodeStatus)
    (name : String) : Phases × Table String NodeStatus :=
  (Function.update s.1 name (some .skipped),
    s.2.insert name (buildSkippedTaskStatus name (graph.dependencies name) s.1))

/-- The Task a ready node is given, unless a result it needs is missing. -/
def resolvedTask (workflowName namespaceName : String) (tasks : List TaskSpec)
    (states : Table String TaskState) (name : String) : Option TaskResource := do
  let task ← tasks.find? (·.name = name)
  let results ← taskResults states task.sources
  some (buildWorkflowTask workflowName namespaceName
    { task with prompt := resolveTaskPrompt task results, sources := [] })

/-- What a reconcile decides. -/
structure Plan where
  creates : List TaskResource
  phase : WorkflowPhase
  taskCount : Int
  taskStatuses : Table String NodeStatus

def planWorkflow [Printable] (workflowName namespaceName : String) (tasks : List TaskSpec)
    (states : Table String TaskState) (existing : Table String NodeStatus) :
    Except WorkflowValidationError Plan := do
  let graph ← buildWorkflowGraph tasks
  let phases := observedPhases states existing
  let skipped ← findSkippedTasks graph phases
  let marked := skipped.foldl (recordSkip graph) (phases, ∅)
  let ready := findReadyTasks graph marked.1
  let statuses := marked.2 ∪
    buildWorkflowTaskStatuses workflowName graph.taskNames states existing
  .ok {
    creates := ready.filterMap (resolvedTask workflowName namespaceName tasks states)
    phase := aggregateWorkflowPhase graph.taskNames
      fun n => (statuses.lookup n).bind NodeStatus.phase
    taskCount := tasks.length
    taskStatuses := statuses }

/-- `create_namespaced_custom_object`, a conflict being taken as success. -/
def ensureWorkflowTask (resource : TaskResource) (tasks : Table String TaskResource) :
    Bool × Table String TaskResource :=
  match tasks.lookup resource.name with
  | some _ => (false, tasks)
  | none => (true, tasks.insert resource.name resource)

/-- The body of the status patch; `none` removes an entry. -/
structure StatusPatch where
  phase : WorkflowPhase
  taskCount : Int
  tasks : List (String × Option NodeStatus)

/-- The patch a reconcile sends, if the status it read differs. -/
def patchWorkflowStatus (body : WorkflowStatus) (plan : Plan) : Option StatusPatch :=
  if body.phase = some plan.phase ∧ body.taskCount = some plan.taskCount ∧
      body.tasks.same plan.taskStatuses = true then none
  else
    let desired := plan.taskStatuses.entries.map fun e => (e.1, some e.2)
    let stale := (body.tasks.keys.filter (· ∉ plan.taskStatuses.keys)).map fun n => (n, none)
    some ⟨plan.phase, plan.taskCount, desired ++ stale⟩

/-- A merge patch of an object keeps the keys it does not name. -/
def NodeStatus.merge (old new : NodeStatus) : NodeStatus where
  phase := new.phase <|> old.phase
  taskRef := new.taskRef <|> old.taskRef
  reason := new.reason <|> old.reason
  message := new.message <|> old.message

def mergeTask (tasks : Table String NodeStatus) (entry : String × Option NodeStatus) :
    Table String NodeStatus :=
  match entry.2 with
  | none => tasks.erase entry.1
  | some new => tasks.insert entry.1 (((tasks.lookup entry.1).map (·.merge new)).getD new)

/-- The server applies a patch to the status it has by then. -/
def StatusPatch.apply (patch : StatusPatch) (status : WorkflowStatus) : WorkflowStatus where
  phase := some patch.phase
  taskCount := some patch.taskCount
  tasks := patch.tasks.foldl mergeTask status.tasks

end AgentPlatform
