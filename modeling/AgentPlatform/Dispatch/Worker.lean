/-
AgentPlatform/Dispatch/Worker.lean

`NativeDispatchWorker` as a machine that makes one external call per step.

`Pc` is the point of `run_once` / `run_claim` a worker has reached, with the
local variables that are still needed. `Worker.step` runs the code up to the
next transaction or call of a port: the repository, the Kubernetes port, the
transport or the completion. What the outside answers is the argument
`Answers`. A call that raises ends the run and takes the worker back to `idle`;
so does a crash, which is a step of the system and not of the worker.

Two steps leave an `Event` behind: `permit_effect` when it commits `APPENDED`,
and `transport.invoke`.
-/
import AgentPlatform.Dispatch.Fencing

namespace AgentPlatform

open Py

section Worker

variable [Unicodedata]

/-! ### Ports -/

/-- What the worker reads of a Task body: `metadata.uid` and `status`. -/
structure TaskBody where
  uid : Option String
  phase : Option String
  result : Option String
  reason : Option String
  deriving DecidableEq

/-- The end of `transport.invoke`: a result, a `TaskExecutionError` with its
reason, or any other exception. -/
inductive Invocation
  | returned (output : String)
  | failed (reason : String)
  | raised
  deriving DecidableEq

/-- Everything a step takes from outside. -/
structure Answers where
  now : Datetime
  token : Digest
  locked : RowKey → Bool
  authorizationCheck : NativeDispatchCommand → Except Failure Bool
  /-- `metadata.uid` of the Task `kubernetes.create` returns. -/
  create : Except Failure (Option String)
  patchStatus : Except Failure Unit
  invoke : Invocation
  read : Except Failure (Option TaskBody)
  checkpoint : String → Except Failure Unit

/-- `[a-z0-9](?:[-a-z0-9]{0,28}[a-z0-9])?`, matched against the whole text. -/
def isTaskPrefix (s : String) : Bool :=
  let letter (c : Char) := c.isLower || c.isDigit
  s.toList.head?.any letter && s.toList.getLast?.any letter &&
    s.toList.all (fun c => letter c || c = '-') && decide (s.length ≤ 30)

/-- The worker's own settings, as its constructor accepts them. -/
structure Worker where
  workerId : String
  taskPrefix : String
  prefix_valid : isTaskPrefix taskPrefix = true

def Worker.taskName (w : Worker) (c : NativeDispatchCommand) : String :=
  w.taskPrefix ++ "-" ++ String.ofList ((sha256 c.commandId.value).toList.take 32)

/-! ### Observations -/

/-- `status.get("reason") or "RUNTIME_FAILED"`. -/
def failureReason : Option String → String
  | none | some "" => "RUNTIME_FAILED"
  | some reason => reason

/-- The arguments `_terminal_observation` passes on for a Task body: kind, uid,
output and reason. -/
def terminalFields : Option TaskBody →
    NativeTerminalKind × Option String × Option String × Option String
  | none => (.recoveryRequired, none, none, some "KUBERNETES_TASK_MISSING")
  | some body =>
    if body.phase = some "Succeeded" ∧ body.result.isSome then
      (.succeeded, body.uid, body.result, none)
    else if body.phase = some "Failed" ∨ body.phase = some "TimedOut" then
      (.failed, body.uid, none, some (failureReason body.reason))
    else (.unknown, body.uid, none, some "TERMINAL_OBSERVATION_UNAVAILABLE")

def terminalObservation (c : NativeDispatchCommand) (taskName : String) (body : Option TaskBody)
    (now : Datetime) : Except Failure NativeTerminalObservation :=
  let f := terminalFields body
  NativeTerminalObservation.create c.commandId f.1 taskName f.2.1 f.2.2.1 f.2.2.2 now

/-- The observation `_uncertain` builds. -/
def uncertainObservation (c : NativeDispatchCommand) (taskName : String) (uid : Option String)
    (kind : NativeTerminalKind) (reason : String) (now : Datetime) :
    Except Failure NativeTerminalObservation :=
  NativeTerminalObservation.create c.commandId kind taskName uid none (some reason) now

/-! ### The machine -/

/-- Where a worker is in `run_once` and `run_claim`. -/
inductive Pc
  /-- not running -/
  | idle
  /-- `resume_effect_started` returned nothing -/
  | polled
  /-- entering `run_claim` -/
  | holding (claim : NativeDispatchClaim)
  /-- the effect was permitted just now; the Task is to be created -/
  | started (claim : NativeDispatchClaim)
  /-- the Task was created; its uid is to be recorded -/
  | created (claim : NativeDispatchClaim) (uid : String)
  /-- the uid is recorded; the status is to be set to `Running` -/
  | correlated (claim : NativeDispatchClaim) (uid : String)
  /-- the transport is to be invoked -/
  | running (claim : NativeDispatchClaim) (uid : String)
  /-- the transport returned; the final status is to be set -/
  | invoked (claim : NativeDispatchClaim)
  /-- the Task is to be read -/
  | reading (claim : NativeDispatchClaim)
  /-- the observation is to be recorded -/
  | finishing (claim : NativeDispatchClaim) (o : NativeTerminalObservation)

inductive Event
  /-- `permit_effect` committed `APPENDED` on the store `before` -/
  | permitted (before : Store) (claim : NativeDispatchClaim) (taskName : String)
      (authorizationCheck : NativeDispatchCommand → Except Failure Bool) (now : Datetime)
  /-- `transport.invoke(command)` -/
  | invoked (command : NativeDispatchCommand)

/-- `_finish`, and the end of `_uncertain`: the store it leaves behind. -/
def finish (checkpoint : String → Except Failure Unit) (claim : NativeDispatchClaim)
    (o : NativeTerminalObservation) (s : Store) : Store :=
  if o.kind.isUncertain then (transaction (recordUncertain claim o) s).2
  else (transaction (complete checkpoint claim o) s).2

/-- Go on with an observation, unless building it raised. -/
def Pc.finishingWith (claim : NativeDispatchClaim) :
    Except Failure NativeTerminalObservation → Pc
  | .ok o => .finishing claim o
  | .error _ => .idle

/-- One step of a worker: the next point, the store and what happened. -/
def Worker.step (w : Worker) (x : Answers) : Pc → Store → Pc × Store × List Event
  | .idle, s =>
    match resumeEffectStarted w.workerId x.locked s with
    | .ok (some claim) => (.holding claim, s, [])
    | .ok none => (.polled, s, [])
    | .error _ => (.idle, s, [])
  | .polled, s =>
    match transaction (claimNext w.workerId x.now 30 x.token x.locked) s with
    | (.ok (some claim), s') => (.holding claim, s', [])
    | (_, s') => (.idle, s', [])
  | .holding claim, s =>
    let taskName := w.taskName claim.command
    match transaction (permitEffect claim taskName x.authorizationCheck x.now) s with
    | (.ok .appended, s') =>
      (.started claim, s', [.permitted s claim taskName x.authorizationCheck x.now])
    | (.ok .replayed, s') => (.reading claim, s', [])
    | (.error _, s') => (.idle, s', [])
  | .started claim, s =>
    match x.create with
    | .error _ => (.idle, s, [])
    | .ok uid =>
      if uid.getD "" = "" then
        (.finishingWith claim (uncertainObservation claim.command (w.taskName claim.command) none
          .recoveryRequired "KUBERNETES_TASK_UID_MISSING" x.now), s, [])
      else (.created claim (uid.getD ""), s, [])
  | .created claim uid, s =>
    match transaction (recordKubernetesCorrelation claim (w.taskName claim.command) uid) s with
    | (.ok _, s') => (.correlated claim uid, s', [])
    | (.error _, s') => (.idle, s', [])
  | .correlated claim uid, s =>
    match x.patchStatus with
    | .ok () => (.running claim uid, s, [])
    | .error _ => (.idle, s, [])
  | .running claim uid, s =>
    let next :=
      match x.invoke with
      | .returned _ => .invoked claim
      | .raised => .idle
      | .failed reason =>
        if reason = "ExecutionOutcomeUnknown" ∨ reason = "ExecutionTimeout" then
          .finishingWith claim (uncertainObservation claim.command (w.taskName claim.command)
            (some uid) .unknown reason x.now)
        else .invoked claim
    (next, s, [.invoked claim.command])
  | .invoked claim, s =>
    match x.patchStatus with
    | .ok () => (.reading claim, s, [])
    | .error _ => (.idle, s, [])
  | .reading claim, s =>
    match x.read with
    | .error _ => (.idle, s, [])
    | .ok body =>
      (.finishingWith claim (terminalObservation claim.command (w.taskName claim.command) body
        x.now), s, [])
  | .finishing claim o, s => (.idle, finish x.checkpoint claim o s, [])

/-- Several steps of one worker with nothing in between. -/
def Worker.run (w : Worker) : List Answers → Pc × Store × List Event → Pc × Store × List Event
  | [], r => r
  | x :: xs, (pc, s, log) =>
    w.run xs ((w.step x pc s).1, (w.step x pc s).2.1, (w.step x pc s).2.2 ++ log)

/-! ### The system -/

/-- Any number of workers on one store, with the events so far, newest first. -/
structure System (ι : Type*) where
  store : Store
  pcs : ι → Pc
  log : List Event

inductive SystemStep {ι : Type*} [DecidableEq ι] (workers : ι → Worker) :
    System ι → System ι → Prop
  /-- a worker makes its next call -/
  | work (σ : System ι) (i : ι) (x : Answers) :
      SystemStep workers σ
        ⟨((workers i).step x (σ.pcs i) σ.store).2.1,
          Function.update σ.pcs i ((workers i).step x (σ.pcs i) σ.store).1,
          ((workers i).step x (σ.pcs i) σ.store).2.2 ++ σ.log⟩
  /-- a worker crashes -/
  | crash (σ : System ι) (i : ι) :
      SystemStep workers σ { σ with pcs := Function.update σ.pcs i .idle }
  /-- `run_claim` is called with some claim -/
  | runClaim (σ : System ι) (i : ι) (claim : NativeDispatchClaim) (h : σ.pcs i = .idle) :
      SystemStep workers σ { σ with pcs := Function.update σ.pcs i (.holding claim) }
  /-- some other process calls the repository -/
  | call (σ : System ι) (op : Operation) :
      SystemStep workers σ { σ with store := op.apply σ.store }

/-- Nothing dispatched, all workers idle. -/
structure System.Initial {ι : Type*} (σ : System ι) : Prop where
  store : σ.store.Fresh
  pcs : ∀ i, σ.pcs i = .idle
  log : σ.log = []

/-- A worker may run on its own for a while. -/
theorem run_reachable {ι : Type*} [DecidableEq ι] (workers : ι → Worker) (i : ι)
    (xs : List Answers) (σ : System ι) :
    Relation.ReflTransGen (SystemStep workers) σ
      ⟨((workers i).run xs (σ.pcs i, σ.store, σ.log)).2.1,
        Function.update σ.pcs i ((workers i).run xs (σ.pcs i, σ.store, σ.log)).1,
        ((workers i).run xs (σ.pcs i, σ.store, σ.log)).2.2⟩ := by
  induction xs generalizing σ with
  | nil =>
    simp only [Worker.run, Function.update_eq_self]
    exact .refl
  | cons x xs ih =>
    refine .head (.work σ i x) ?_
    have h := ih ⟨((workers i).step x (σ.pcs i) σ.store).2.1,
      Function.update σ.pcs i ((workers i).step x (σ.pcs i) σ.store).1,
      ((workers i).step x (σ.pcs i) σ.store).2.2 ++ σ.log⟩
    simpa only [Worker.run, Function.update_self, Function.update_idem] using h

end Worker

section Sample

open Sample

def Sample.worker : Worker := ⟨"worker-1", "native-dispatch", by decide⟩

/-- Everything goes well. -/
def Sample.answers : Answers where
  now := instant 2000000
  token := digest 'c'
  locked _ := false
  authorizationCheck _ := .ok true
  create := .ok (some "uid-1")
  patchStatus := .ok ()
  invoke := .returned "done"
  read := .ok (some ⟨some "uid-1", some "Succeeded", some "done", none⟩)
  checkpoint _ := .ok ()

end Sample

end AgentPlatform
