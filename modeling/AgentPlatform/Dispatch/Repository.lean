/-
AgentPlatform/Dispatch/Repository.lean

The native-dispatch transactions of `PostgresExecutionAuthorityRepository`:
`enqueue`, `claim_next`, `resume_effect_started`, `permit_effect`,
`record_kubernetes_correlation` and `record_uncertain`.

Each is a transaction body over the `Store`: it raises, or returns its value
with the written store. What the caller's environment decides is an argument:
the clock, the token drawn by `secrets`, the answer of the authorization check,
and `locked`, the rows `FOR UPDATE SKIP LOCKED` finds locked. Since `locked` is
arbitrary, so is the choice among rows the `ORDER BY` leaves equal or that a
collation would order differently from `<` on code points.

`_transaction` turns every database error into `EXECUTION_CONFLICT`.
-/
import AgentPlatform.Dispatch.Store

namespace AgentPlatform

open Py

/-- `ExecutionConflict(code)`. -/
abbrev conflict (code : String) : Failure := .executionConflict code

/-- A database error inside `_transaction`. -/
abbrev storageConflict : Failure := conflict "EXECUTION_CONFLICT"

/-- Bound of a `bigint` column. -/
def maxBigint : Nat := 2 ^ 63

section Keys

variable [Unicodedata]

def NativeDispatchCommand.key (c : NativeDispatchCommand) : RowKey :=
  c.scope.key c.commandId.value

def NativeDispatchCommand.attemptKey (c : NativeDispatchCommand) : RowKey :=
  c.scope.key c.attemptId.value

def NativeDispatchCommand.placementKey (c : NativeDispatchCommand) : RowKey :=
  c.scope.key c.placementId.value

abbrev NativeDispatchClaim.key (claim : NativeDispatchClaim) : RowKey := claim.command.key

/-- Every text `enqueue` writes. -/
def NativeDispatchCommand.texts (c : NativeDispatchCommand) : List String :=
  [c.scope.namespaceName.value, c.scope.securityDomain.value, c.commandId.value,
    c.attemptId.value, c.assignmentId.value, c.approvedPlanRevisionId.value,
    c.placementId.value, c.runtimeInstanceId.value, c.agentInstanceId.value,
    c.principalId.value, c.credentialId.value, c.authorizationOwner.value,
    c.authorizationAction.value, c.authorizationResource.value, c.agentName.value,
    c.inputText.value]

/-! ### The binding join -/

/-- The columns `enqueue` and `permit_effect` compare with the command. -/
structure BindingView where
  decision : PlacementDecisionKind
  placementDigest : String
  runtimeInstanceId : Option String
  currentGeneration : Nat
  attemptId : String
  agentInstanceId : String
  assignmentId : String
  approvedPlanRevisionId : String
  planDigest : String
  status : PlanStatus
  controlState : AttemptControlState
  deriving DecidableEq

def NativeDispatchCommand.expected (c : NativeDispatchCommand) : BindingView where
  decision := .placed
  placementDigest := c.placementDigest.1
  runtimeInstanceId := some c.runtimeInstanceId.value
  currentGeneration := c.runtimeGeneration.value
  attemptId := c.attemptId.value
  agentInstanceId := c.agentInstanceId.value
  assignmentId := c.assignmentId.value
  approvedPlanRevisionId := c.approvedPlanRevisionId.value
  planDigest := c.approvedPlanDigest.1
  status := .approved
  controlState := .pending

/-- From an attempt through its task run and workflow run to the plan. -/
def Store.planOf (s : Store) (scope : ScopeIdentity) (a : AttemptRow) :
    Option (WorkflowRunRow × PlanRow) := do
  let workflowRunId ← s.bindings.taskRuns (scope.key a.taskRunId)
  let w ← s.bindings.workflowRuns (scope.key workflowRunId)
  let planId ← w.planId
  let planVersion ← w.planVersion
  let p ← s.bindings.plans (scope.key planId) planVersion
  some (w, p)

/-- The join of `enqueue`: runtime and attempt are those of the placement. -/
def Store.placementBinding (s : Store) (c : NativeDispatchCommand) : Option BindingView := do
  let d ← s.bindings.placementDecisions c.placementKey
  let q ← s.bindings.placementRequests (c.scope.key d.requestId)
  let runtime ← d.runtimeInstanceId
  let generation ← s.bindings.runtimeInstances (c.scope.key runtime)
  let a ← s.attempts (c.scope.key q.attemptId)
  let (w, p) ← s.planOf c.scope a
  some ⟨d.decision, d.digest, some runtime, generation, q.attemptId, q.agentInstanceId,
    w.assignmentId, w.approvedPlanRevisionId, p.planDigest, p.status, a.controlState⟩

/-- The join of `permit_effect`: runtime and attempt are those of the stored
command. -/
def Store.effectBinding (s : Store) (scope : ScopeIdentity) (row : CommandRow) :
    Option BindingView := do
  let d ← s.bindings.placementDecisions (scope.key row.payload.placementId.value)
  let q ← s.bindings.placementRequests (scope.key d.requestId)
  let generation ← s.bindings.runtimeInstances (scope.key row.payload.runtimeInstanceId.value)
  let a ← s.attempts (scope.key row.payload.attemptId.value)
  let (w, p) ← s.planOf scope a
  some ⟨d.decision, d.digest, d.runtimeInstanceId, generation, q.attemptId, q.agentInstanceId,
    w.assignmentId, w.approvedPlanRevisionId, p.planDigest, p.status, a.controlState⟩

/-! ### Facts -/

/-- `_dispatch_fact(connection, command, kind, record)`. -/
def dispatchFact (k : RowKey) (kind : FactKind) (record : Json) (s : Store) :
    Except Failure Store :=
  if record.nulFree && !s.factExists k kind (factDigest record) then
    .ok (s.addFact k kind record)
  else .error storageConflict

/-! ### Queueing -/

/-- The inserted row. -/
def CommandRow.queued (c : NativeDispatchCommand) : CommandRow where
  commandDigest := c.digest
  payload := c
  state := .queued
  claimGeneration := 0
  fencingToken := none
  workerId := none
  leaseExpiresAt := none
  kubernetesTaskName := none
  kubernetesTaskUid := none
  terminalObservationDigest := none
  terminalRecord := none
  effectStartedAt := none
  terminalAt := none

def queuedRecord (c : NativeDispatchCommand) : Json :=
  .obj [("state", .str "QUEUED"), ("commandDigest", .str c.digest)]

/-- The `INSERT` succeeds: no text holds U+0000, the numbers fit their columns
and no other command is for the same attempt. -/
def Store.insertable (s : Store) (c : NativeDispatchCommand) : Bool :=
  nulFree c.texts && decide (c.authorityGeneration.value < maxBigint) &&
    decide (c.recoveryEpoch.value < maxBigint) &&
    !s.commands.anyRow fun _ row => row.payload.attemptKey = c.attemptKey

def enqueue (c : NativeDispatchCommand) : Body Store Failure AppendDisposition := fun s =>
  if !nulFree c.placementKey.texts then .error storageConflict
  else if s.placementBinding c ≠ some c.expected then
    .error (conflict "NATIVE_DISPATCH_BINDING_MISMATCH")
  else if !nulFree c.key.texts then .error storageConflict
  else
    match s.commands.lookup c.key with
    | some existing =>
      if existing.commandDigest ≠ c.digest then
        .error (conflict "NATIVE_DISPATCH_COMMAND_CONFLICT")
      else .ok (.replayed, s)
    | none =>
      if !s.insertable c then .error storageConflict
      else do
        let s ← dispatchFact c.key .queued (queuedRecord c) (s.setCommand c.key (.queued c))
        .ok (.appended, s)

def getDispatch (scope : ScopeIdentity) (commandId : CommandId) (s : Store) :
    Except Failure (Option NativeDispatchCommand) :=
  if !nulFree (scope.key commandId.value).texts then .error .database
  else .ok ((s.commands.lookup (scope.key commandId.value)).map (·.payload))

/-! ### Claiming -/

/-- `state='QUEUED' OR (state='CLAIMED' AND lease_expires_at<=now)`. -/
def CommandRow.claimable (row : CommandRow) (now : Datetime) : Bool :=
  match row.state with
  | .queued => true
  | .claimed => row.leaseExpiresAt.any (· ≤ now)
  | _ => false

/-- `ORDER BY at,command_id`. -/
def orderBy (at? : CommandRow → Option Datetime) (r r' : RowKey × CommandRow) : Bool :=
  let t : Nat := (at? r.2).elim 0 (·.micros)
  let t' : Nat := (at? r'.2).elim 0 (·.micros)
  decide (t < t' ∨ (t = t' ∧ r.1.id < r'.1.id))

/-- The row a claim writes. -/
def CommandRow.claimedBy (row : CommandRow) (token : Digest) (workerId : String)
    (lease : Datetime) : CommandRow :=
  { row with
    state := .claimed
    claimGeneration := row.claimGeneration + 1
    fencingToken := some token.1
    workerId := some workerId
    leaseExpiresAt := some lease }

def claimedRecord (generation : Nat) (workerId : String) (lease : Datetime) : Json :=
  .obj [("state", .str "CLAIMED"), ("claimGeneration", .int generation),
    ("workerId", .str workerId), ("leaseExpiresAt", .str lease.isoformat)]

def claimNext (workerId : String) (now : Datetime) (leaseSeconds : Int) (token : Digest)
    (locked : RowKey → Bool) : Body Store Failure (Option NativeDispatchClaim) := fun s =>
  if workerId = "" ∨ ¬ (1 ≤ leaseSeconds ∧ leaseSeconds ≤ 300) then
    .error (conflict "NATIVE_DISPATCH_CLAIM_INVALID")
  else
    match now.addSeconds leaseSeconds.toNat with
    | none => .error .overflowError
    | some lease =>
      if !nulFree [workerId] then .error storageConflict
      else
        match s.commands.selectFirst (fun k row => !locked k && row.claimable now)
            (orderBy fun row => some row.payload.queuedAt) with
        | none => .ok (none, s)
        | some (k, row) =>
          if maxBigint ≤ row.claimGeneration + 1 then .error storageConflict
          else do
            let claim ← NativeDispatchClaim.create row.payload
              ⟨row.claimGeneration + 1, Nat.le_add_left 1 _⟩ token.1 workerId lease
            let s ← dispatchFact row.payload.key .claimed
              (claimedRecord (row.claimGeneration + 1) workerId lease)
              (s.setCommand k (row.claimedBy token workerId lease))
            .ok (some claim, s)

def generation (value : Nat) : Except Failure Generation :=
  if h : 1 ≤ value then .ok ⟨value, h⟩ else .error (.executionContract "INVALID_GENERATION")

/-- The claim `resume_effect_started` builds from a row. -/
def CommandRow.resumed (row : CommandRow) : Except Failure NativeDispatchClaim := do
  let generation ← generation row.claimGeneration
  match row.fencingToken, row.workerId, row.effectStartedAt with
  | some token, some workerId, some startedAt =>
    NativeDispatchClaim.create row.payload generation token workerId startedAt
  | some _, some _, none => .error (.executionContract "INVALID_CLAIM_LEASE")
  | _, _, _ => .error (.executionContract "INVALID_DISPATCH_CLAIM")

def resumeEffectStarted (workerId : String) (locked : RowKey → Bool) (s : Store) :
    Except Failure (Option NativeDispatchClaim) :=
  if workerId = "" then .error (conflict "NATIVE_DISPATCH_CLAIM_INVALID")
  else if !nulFree [workerId] then .error .database
  else
    match s.commands.selectFirst
        (fun k row => !locked k && row.state = .effectStarted && row.workerId = some workerId)
        (orderBy (·.effectStartedAt)) with
    | none => .ok none
    | some (_, row) => row.resumed.map some

/-- The row's generation, token and worker are those of the claim. -/
def CommandRow.heldBy (row : CommandRow) (claim : NativeDispatchClaim) : Bool :=
  row.claimGeneration = claim.claimGeneration.value &&
    row.fencingToken = some claim.fencingToken.value &&
    row.workerId = some claim.workerId.value

/-- `_locked_claim(connection, claim)`. -/
def lockedClaim (claim : NativeDispatchClaim) (s : Store) : Except Failure CommandRow :=
  if !nulFree claim.key.texts then .error storageConflict
  else
    match s.commands.lookup claim.key with
    | none => .error (conflict "NATIVE_DISPATCH_CLAIM_STALE")
    | some row =>
      if row.heldBy claim then .ok row else .error (conflict "NATIVE_DISPATCH_CLAIM_STALE")

/-! ### The effect -/

/-- The row `permit_effect` writes. -/
def CommandRow.started (row : CommandRow) (taskName : String) (now : Datetime) : CommandRow :=
  { row with
    state := .effectStarted
    leaseExpiresAt := none
    kubernetesTaskName := some taskName
    effectStartedAt := some now }

def startedRecord (generation : Nat) (taskName : String) : Json :=
  .obj [("state", .str "EFFECT_STARTED"), ("claimGeneration", .int generation),
    ("taskName", .str taskName)]

/-- Another command of the scope already has this Task name. -/
def Store.taskNameTaken (s : Store) (k : RowKey) (taskName : String) : Bool :=
  s.commands.anyRow fun k' row =>
    k' ≠ k ∧ k'.namespaceName = k.namespaceName ∧ k'.securityDomain = k.securityDomain ∧
      row.kubernetesTaskName = some taskName

def permitEffect (claim : NativeDispatchClaim) (taskName : String)
    (authorizationCheck : NativeDispatchCommand → Except Failure Bool) (now : Datetime) :
    Body Store Failure AppendDisposition := fun s => do
  let row ← lockedClaim claim s
  if row.state = .effectStarted then
    if row.kubernetesTaskName ≠ some taskName then
      .error (conflict "NATIVE_DISPATCH_EFFECT_CONFLICT")
    else .ok (.replayed, s)
  else if row.state ≠ .claimed ∨ ¬ row.leaseExpiresAt.any (now < ·) then
    .error (conflict "NATIVE_DISPATCH_CLAIM_STALE")
  else if s.effectBinding claim.command.scope row ≠ some claim.command.expected then
    .error (conflict "NATIVE_DISPATCH_EFFECT_NOT_AUTHORIZED")
  else do
    let authorized ← authorizationCheck claim.command
    if !authorized then .error (conflict "NATIVE_DISPATCH_EFFECT_NOT_AUTHORIZED")
    else if !nulFree [taskName] || s.taskNameTaken claim.key taskName then
      .error storageConflict
    else do
      let s := (s.setCommand claim.key (row.started taskName now)).setAttemptState
        claim.command.attemptKey .running
      let s ← dispatchFact claim.key .effectStarted
        (startedRecord claim.claimGeneration.value taskName) s
      .ok (.appended, s)

def correlatedRecord (taskName taskUid : String) : Json :=
  .obj [("taskName", .str taskName), ("taskUid", .str taskUid)]

def recordKubernetesCorrelation (claim : NativeDispatchClaim) (taskName taskUid : String) :
    Body Store Failure AppendDisposition := fun s =>
  if taskName = "" ∨ taskUid = "" then .error (conflict "NATIVE_DISPATCH_CORRELATION_CONFLICT")
  else do
    let row ← lockedClaim claim s
    if row.state ≠ .effectStarted then .error (conflict "NATIVE_DISPATCH_EFFECT_NOT_STARTED")
    else if row.kubernetesTaskName ≠ some taskName then
      .error (conflict "NATIVE_DISPATCH_CORRELATION_CONFLICT")
    else
      match row.kubernetesTaskUid with
      | some uid =>
        if uid ≠ taskUid then .error (conflict "NATIVE_DISPATCH_CORRELATION_CONFLICT")
        else .ok (.replayed, s)
      | none =>
        if !nulFree [taskUid] then .error storageConflict
        else do
          let s := s.setCommand claim.key { row with kubernetesTaskUid := some taskUid }
          let s ← dispatchFact claim.key .correlated (correlatedRecord taskName taskUid) s
          .ok (.appended, s)

/-! ### Uncertain terminals -/

/-- The row a terminal observation writes. -/
def CommandRow.terminated (row : CommandRow) (o : NativeTerminalObservation) : CommandRow :=
  { row with
    state := o.kind.state
    terminalObservationDigest := some o.digest
    terminalRecord := some o.payload
    terminalAt := some o.observedAt }

/-- `UNKNOWN` or `RECOVERY_REQUIRED`. -/
def NativeTerminalKind.isUncertain : NativeTerminalKind → Bool
  | unknown | recoveryRequired => true
  | _ => false

def recordUncertain (claim : NativeDispatchClaim) (o : NativeTerminalObservation) :
    Body Store Failure AppendDisposition := fun s =>
  if !o.kind.isUncertain then .error (conflict "NATIVE_DISPATCH_UNCERTAIN_STATE_REQUIRED")
  else if o.commandId ≠ claim.command.commandId then
    .error (conflict "NATIVE_DISPATCH_CORRELATION_CONFLICT")
  else do
    let row ← lockedClaim claim s
    if row.kubernetesTaskName ≠ some o.kubernetesTaskName.value then
      .error (conflict "NATIVE_DISPATCH_CORRELATION_CONFLICT")
    else
      match row.terminalObservationDigest with
      | some digest =>
        if digest ≠ o.digest then .error (conflict "NATIVE_DISPATCH_TERMINAL_CONFLICT")
        else .ok (.replayed, s)
      | none =>
        if row.state ≠ .effectStarted then .error (conflict "NATIVE_DISPATCH_EFFECT_NOT_STARTED")
        else if row.kubernetesTaskUid.isSome ∧
            o.kubernetesTaskUid.map (·.value) ≠ row.kubernetesTaskUid then
          .error (conflict "NATIVE_DISPATCH_CORRELATION_CONFLICT")
        else if !o.payload.nulFree || !nulFree claim.command.attemptKey.texts then
          .error storageConflict
        else do
          let s := (s.setCommand claim.key (row.terminated o)).setAttemptState
            claim.command.attemptKey o.kind.controlState
          let s ← dispatchFact claim.key (.terminal o.kind) o.payload s
          .ok (.appended, s)

end Keys

end AgentPlatform
