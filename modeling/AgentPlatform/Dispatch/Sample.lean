/-
AgentPlatform/Dispatch/Sample.lean

One concrete command with the rows it is bound to, the first claim of it and an
observation of its Task. Hypotheses of theorems about runs are seen to be
satisfiable on these values. Normalisation is the identity here: every text is
ASCII.
-/
import AgentPlatform.Dispatch.Specs

namespace AgentPlatform

open Py

namespace Sample

scoped instance : Unicodedata := Unicodedata.identity

/-- A normalised text, checked by evaluation. -/
abbrev text {maximum : Nat} (value : String)
    (h : decide (normalize value = value ∧ value ≠ "" ∧ value.utf8ByteSize ≤ maximum) = true := by
      exact Eq.refl true) :
    NormalizedText maximum :=
  ⟨value, (of_decide_eq_true h).1, (of_decide_eq_true h).2.1, (of_decide_eq_true h).2.2⟩

def scope : ScopeIdentity := ⟨text "default", text "prod"⟩

def one : Generation := ⟨1, by decide⟩

def digest (c : Char)
    (h : isHex64 (String.ofList (List.replicate 64 c)) = true := by exact Eq.refl true) : Digest :=
  ⟨String.ofList (List.replicate 64 c), h⟩

def instant (micros : Nat) (h : decide (micros < maxMicros) = true := by exact Eq.refl true) :
    Datetime := ⟨micros, of_decide_eq_true h⟩

/-- A command whose placement, plan and attempt are those of `bindings`. -/
def command : NativeDispatchCommand where
  commandId := text "command-1"
  scope := scope
  attemptId := text "attempt-1"
  assignmentId := text "assignment-1"
  approvedPlanRevisionId := text "plan-1:1"
  approvedPlanDigest := digest 'a'
  placementId := text "placement-1"
  placementDigest := digest 'b'
  runtimeInstanceId := text "runtime-1"
  runtimeGeneration := one
  agentInstanceId := text "agent-instance-1"
  principalId := text "principal-1"
  credentialId := text "session-1"
  authenticationSource := .browserSession
  authorityGeneration := one
  recoveryEpoch := one
  authorizationOwner := text "owner"
  authorizationAction := text "execute"
  authorizationResource := text "resource-1"
  agentName := text "agent-1"
  inputText := text "hello"
  timeoutSeconds := ⟨30, by decide⟩
  queuedAt := instant 1000000

def identity : ExecutionIdentity where
  assignmentId := text "assignment-1"
  workflowRunId := text "workflow-1"
  approvedPlanRevisionId := text "plan-1:1"
  taskRunId := text "task-1"
  attemptId := text "attempt-1"

def bindings : Bindings where
  placementDecisions k :=
    if k = scope.key "placement-1" then
      some ⟨"request-1", .placed, some "runtime-1", (digest 'b').1⟩ else none
  placementRequests k :=
    if k = scope.key "request-1" then some ⟨"attempt-1", "agent-instance-1"⟩ else none
  runtimeInstances k := if k = scope.key "runtime-1" then some 1 else none
  taskRuns k := if k = scope.key "task-1" then some "workflow-1" else none
  workflowRuns k :=
    if k = scope.key "workflow-1" then some ⟨"assignment-1", "plan-1:1", some "plan-1", some 1⟩
    else none
  plans k v := if k = scope.key "plan-1" ∧ v = 1 then some ⟨(digest 'a').1, .approved⟩ else none
  evidenceCutover := (.postgresActive, .postgres)

/-- Nothing dispatched yet, and the attempt of `command` pending. -/
def store : Store where
  commands := ∅
  facts := []
  attempts k :=
    if k = scope.key "attempt-1" then some ⟨"task-1", .pending, 1, some 1, identity⟩ else none
  evidence := []
  outcomes := []
  bindings := bindings

/-- The first claim of `command`. -/
def claim : NativeDispatchClaim where
  command := command
  claimGeneration := one
  fencingToken := text (String.ofList (List.replicate 64 'c'))
  workerId := text "worker-1"
  leaseExpiresAt := instant 32000000

/-- The effect was started, its end was not seen. -/
def unknownTask : NativeTerminalObservation where
  commandId := command.commandId
  kind := .unknown
  kubernetesTaskName := text "task-name"
  kubernetesTaskUid := some (text "uid-1")
  output := none
  reason := some (text "TERMINAL_OBSERVATION_UNAVAILABLE")
  observedAt := instant 5000000
  success_complete := by decide
  reason_required := by decide

/-- The store after `command` was queued. -/
def queuedStore : Store :=
  (store.setCommand command.key (.queued command)).addFact command.key .queued
    (queuedRecord command)

theorem enqueue_store : enqueue command store = .ok (.appended, queuedStore) :=
  enqueue_new (by decide +kernel) (by decide +kernel) (by decide +kernel) rfl

end Sample

end AgentPlatform
