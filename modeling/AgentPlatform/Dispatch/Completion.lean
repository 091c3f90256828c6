/-
AgentPlatform/Dispatch/Completion.lean

The certain terminals of a dispatched command: the operator's `complete`
closure, `ExecutionCompletionService.record_native` and
`PostgresExecutionCompletionWriter.append_native_completion`.

`append_native_completion` is one transaction over five tables. Evidence, outcome
and terminal fact are insert-or-compare, so that a repeated completion finds its
own rows. `checkpoint` is the writer's injected hook; where it raises, the
transaction is abandoned at that point.

`append_native_completion` runs outside `_transaction`, so a database error
reaches the caller as it is (`Failure.database`).
-/
import AgentPlatform.Dispatch.Repository
import AgentPlatform.ExecutionEvidence

namespace AgentPlatform

open Py

section Completion

variable [Unicodedata]

/-- `ExecutionApplicationError(code)`. -/
abbrev applicationError (code : String) : Failure := .executionApplication code

/-! ### The pieces of the terminal transaction -/

/-- The row locked by `append_native_completion`. -/
def completionRow (claim : NativeDispatchClaim) (o : NativeTerminalObservation) (s : Store) :
    Except Failure CommandRow :=
  if !nulFree claim.key.texts then .error .database
  else
    match s.commands.lookup claim.key with
    | none => .error (applicationError "NATIVE_DISPATCH_CLAIM_STALE")
    | some row =>
      if row.heldBy claim && row.kubernetesTaskName = some o.kubernetesTaskName.value &&
          row.kubernetesTaskUid = o.kubernetesTaskUid.map (·.value) then .ok row
      else .error (applicationError "NATIVE_DISPATCH_CLAIM_STALE")

/-- Command and attempt become terminal, unless they already are by the same
observation. Returns whether nothing was written. -/
def markTerminal (checkpoint : String → Except Failure Unit) (claim : NativeDispatchClaim)
    (o : NativeTerminalObservation) (row : CommandRow) : Body Store Failure Bool := fun s =>
  match row.terminalObservationDigest with
  | some digest =>
    if digest ≠ o.digest then .error (applicationError "NATIVE_DISPATCH_TERMINAL_CONFLICT")
    else .ok (true, s)
  | none =>
    if row.state ≠ .effectStarted then
      .error (applicationError "NATIVE_DISPATCH_EFFECT_NOT_STARTED")
    else if !o.payload.nulFree then .error .database
    else do
      let s := s.setCommand claim.key (row.terminated o)
      checkpoint "command_terminal"
      if !nulFree claim.command.attemptKey.texts then .error .database
      else do
        let s := s.setAttemptState claim.command.attemptKey o.kind.controlState
        checkpoint "attempt_terminal"
        .ok (false, s)

/-- The row `_append_evidence` inserts. -/
def evidenceRow (scope : ScopeIdentity) (item : ExecutionEvidenceRecord) : EvidenceRow where
  evidenceRecordId := item.evidenceRecordId
  namespaceName := scope.namespaceName.value
  securityDomain := scope.securityDomain.value
  platformExecutionIdentity := item.platformExecutionIdentity
  payloadDigest := item.payloadDigest
  canonicalBytes := item.canonicalBytes

/-- The values of the evidence `INSERT` fit their columns. -/
def evidenceStorable (item : ExecutionEvidenceRecord) : Bool :=
  item.canonicalPayload.nulFree && decide (item.attemptOrdinal < maxBigint) &&
    decide (item.eventOrdinal < maxBigint)

def Store.supersedesStored (s : Store) (item : ExecutionEvidenceRecord) : Bool :=
  item.supersedesRecordId.all fun id => s.evidence.any fun r => r.evidenceRecordId = id

/-- `_append_evidence(connection, scope, item)`: whether a row was inserted. -/
def appendEvidence (scope : ScopeIdentity) (item : ExecutionEvidenceRecord) :
    Body Store Failure Bool := fun s =>
  if !evidenceStorable item then .error .database
  else
    match s.evidence.find? fun r => r.evidenceRecordId = item.evidenceRecordId with
    | none =>
      if !s.supersedesStored item then .error .database
      else .ok (true, { s with evidence := s.evidence ++ [evidenceRow scope item] })
    | some stored =>
      if stored.payloadDigest ≠ item.payloadDigest ∨
          stored.canonicalBytes ≠ item.canonicalBytes then
        .error (applicationError "EVIDENCE_DIGEST_CONFLICT")
      else .ok (false, s)

/-- The evidence loop: whether any row was inserted. -/
def appendEvidenceItems (checkpoint : String → Except Failure Unit) (scope : ScopeIdentity) :
    List ExecutionEvidenceRecord → Body Store Failure Bool
  | [], s => .ok (false, s)
  | item :: items, s => do
    let (inserted, s) ← appendEvidence scope item s
    checkpoint "evidence"
    let (more, s) ← appendEvidenceItems checkpoint scope items s
    .ok (inserted || more, s)

/-- Insert the outcome or compare it with the stored one: whether a row was
inserted. -/
def appendOutcome (k : RowKey) (workflowRunId : String) (outcome : Json) :
    Body Store Failure Bool := fun s =>
  if !outcome.nulFree || !nulFree (workflowRunId :: k.texts) then .error .database
  else
    match s.outcomes.find? fun r => r.key = k with
    | none =>
      if (s.bindings.workflowRuns { k with id := workflowRunId }).isNone then .error .database
      else
        let row := ⟨k, workflowRunId, factDigest outcome, outcome⟩
        .ok (true, { s with outcomes := s.outcomes ++ [row] })
    | some stored =>
      if stored.digest ≠ factDigest outcome ∨ stored.workflowRunId ≠ workflowRunId then
        .error (applicationError "OUTCOME_CONFLICT")
      else .ok (false, s)

/-- The terminal fact, `ON CONFLICT DO NOTHING`. -/
def appendTerminalFact (k : RowKey) (o : NativeTerminalObservation) (s : Store) :
    Except Failure Store :=
  if !o.payload.nulFree then .error .database
  else if s.factExists k (.terminal o.kind) (factDigest o.payload) then .ok s
  else .ok (s.addFact k (.terminal o.kind) o.payload)

/-- `append_native_completion(claim, observation, evidence, outcome_id,
workflow_run_id, outcome)`. -/
def appendNativeCompletion (checkpoint : String → Except Failure Unit)
    (claim : NativeDispatchClaim) (o : NativeTerminalObservation)
    (evidence : List ExecutionEvidenceRecord) (outcomeId workflowRunId : String)
    (outcome : Json) : Body Store Failure AppendDisposition := fun s => do
  let row ← completionRow claim o s
  let (replayed, s) ← markTerminal checkpoint claim o row s
  if s.bindings.evidenceCutover ≠ (.postgresActive, .postgres) then
    .error (applicationError "POSTGRES_EVIDENCE_WRITER_NOT_ACTIVE")
  else do
    let (newEvidence, s) ← appendEvidenceItems checkpoint claim.command.scope evidence s
    let (newOutcome, s) ← appendOutcome (claim.command.scope.key outcomeId) workflowRunId outcome s
    checkpoint "outcome"
    let s ← appendTerminalFact claim.key o s
    .ok (if replayed && !newEvidence && !newOutcome then .replayed else .appended, s)

/-! ### record_native -/

/-- The outcome mapping of a native completion. -/
structure NativeOutcome where
  outcomeId : String
  workflowRunId : String
  taskRunId : String
  attemptId : String
  approvedPlanRevisionId : String
  evidenceIds : List String
  classification : String
  technical : Bool
  businessProblemResolved : Bool
  deriving DecidableEq

def NativeOutcome.record (x : NativeOutcome) : Json :=
  .obj [("outcome_id", .str x.outcomeId), ("workflow_run_id", .str x.workflowRunId),
    ("task_run_id", .str x.taskRunId), ("attempt_id", .str x.attemptId),
    ("approved_plan_revision_id", .str x.approvedPlanRevisionId),
    ("evidence_ids", .arr (x.evidenceIds.map .str)), ("classification", .str x.classification),
    ("technical", .bool x.technical), ("business_problem_resolved", .bool x.businessProblemResolved)]

/-- `get_attempt(scope, attempt_id)`. -/
def getAttempt (k : RowKey) (s : Store) : Except Failure (Option AttemptRow) :=
  if !nulFree k.texts then .error .database else .ok (s.attempts k)

structure RecordNativeCompletionCommand where
  claim : NativeDispatchClaim
  observation : NativeTerminalObservation
  evidence : List ExecutionEvidenceRecord
  outcomeId : String
  outcome : NativeOutcome

/-- The evidence item is about the attempt of the identity. -/
def evidenceMatches (scope : ScopeIdentity) (identity : ExecutionIdentity)
    (item : ExecutionEvidenceRecord) : Bool :=
  item.namespaceName = scope.namespaceName.value &&
    item.securityDomain = scope.securityDomain.value &&
    item.workflowIdentity = identity.workflowRunId.value &&
    item.taskIdentity = identity.taskRunId.value &&
    item.platformExecutionIdentity = identity.attemptId.value

/-- `record_native(command)`, down to the disposition of its result. -/
def recordNative (checkpoint : String → Except Failure Unit)
    (command : RecordNativeCompletionCommand) : Body Store Failure AppendDisposition := fun s =>
  let c := command.claim.command
  let o := command.observation
  if o.kind.isUncertain then .error (applicationError "AUTHORITATIVE_TERMINAL_REQUIRED")
  else if o.commandId ≠ c.commandId then .error (applicationError "TERMINAL_COMMAND_MISMATCH")
  else do
    let attempt ← getAttempt c.attemptKey s
    match attempt with
    | none => .error (applicationError "ATTEMPT_NOT_FOUND")
    | some attempt =>
      let identity := attempt.record
      if command.evidence = [] ∨ ¬ command.evidence.all (evidenceMatches c.scope identity) then
        .error (applicationError "EVIDENCE_IDENTITY_MISMATCH")
      else if ({ command.outcome with businessProblemResolved := false } : NativeOutcome) ≠
          { outcomeId := command.outcomeId
            workflowRunId := identity.workflowRunId.value
            taskRunId := identity.taskRunId.value
            attemptId := identity.attemptId.value
            approvedPlanRevisionId := c.approvedPlanRevisionId.value
            evidenceIds := command.evidence.map (·.evidenceRecordId)
            classification := o.kind.value
            technical := true
            businessProblemResolved := false } then
        .error (applicationError "OUTCOME_IDENTITY_MISMATCH")
      else
        appendNativeCompletion checkpoint command.claim o command.evidence command.outcomeId
          identity.workflowRunId.value command.outcome.record s

/-! ### The operator's closure -/

/-- `hashlib.sha256(f"{command_id}\0{observation.digest}".encode()).hexdigest()`. -/
def completionSuffix (c : NativeDispatchCommand) (o : NativeTerminalObservation) : String :=
  sha256 (c.commandId.value ++ "\x00" ++ o.digest)

def evidenceId (c : NativeDispatchCommand) (o : NativeTerminalObservation) : String :=
  "native-evidence-" ++ completionSuffix c o

def outcomeId (c : NativeDispatchCommand) (o : NativeTerminalObservation) : String :=
  "native-outcome-" ++ completionSuffix c o

/-- The evidence mapping of `complete`. -/
def completionEvidence (c : NativeDispatchCommand) (o : NativeTerminalObservation)
    (attempt : AttemptRow) : EvidenceSource where
  evidenceRecordId := evidenceId c o
  namespaceName := c.scope.namespaceName.value
  securityDomain := c.scope.securityDomain.value
  platformExecutionIdentity := c.attemptId.value
  workflowIdentity := attempt.record.workflowRunId.value
  taskIdentity := attempt.record.taskRunId.value
  attemptOrdinal := attempt.attemptOrdinal
  eventOrdinal := 1
  eventType := .executionOutcome
  occurredAt := o.observedAt
  runtimeClassification := "NATIVE"
  selectedInstanceIdentity := c.runtimeInstanceId.value
  capabilityIdentity := none
  authorizationDecision := .allow
  reasonCode := "NATIVE_EXECUTION_" ++ o.kind.value
  providerCorrelationId := o.kubernetesTaskUid.map (·.value)
  providerCallCount := 1
  outcomeClassification := o.kind.value
  outcomeReference := some (outcomeId c o)
  references := []
  limitationCode := some "MODEL_INVOCATION_NOT_PROVEN"
  supersedesRecordId := none
  schemaVersion := 1

/-- The outcome mapping of `complete`. -/
def completionOutcome (c : NativeDispatchCommand) (o : NativeTerminalObservation)
    (attempt : AttemptRow) : NativeOutcome where
  outcomeId := outcomeId c o
  workflowRunId := attempt.record.workflowRunId.value
  taskRunId := attempt.record.taskRunId.value
  attemptId := c.attemptId.value
  approvedPlanRevisionId := c.approvedPlanRevisionId.value
  evidenceIds := [evidenceId c o]
  classification := o.kind.value
  technical := true
  businessProblemResolved := false

/-- `complete(claim, observation)`. The closure drops the disposition that
`record_native` returns; it is kept here. -/
def complete (checkpoint : String → Except Failure Unit) (claim : NativeDispatchClaim)
    (o : NativeTerminalObservation) : Body Store Failure AppendDisposition := fun s => do
  let attempt ← getAttempt claim.command.attemptKey s
  match attempt with
  | none => .error (.nativeDispatchWorker "NATIVE_DISPATCH_ATTEMPT_NOT_FOUND")
  | some attempt => do
    let evidence ← ExecutionEvidenceRecord.fromAllowlisted
      (completionEvidence claim.command o attempt)
    recordNative checkpoint
      ⟨claim, o, [evidence], outcomeId claim.command o, completionOutcome claim.command o attempt⟩ s

end Completion

end AgentPlatform
