/-
AgentPlatform/Feedback/Service.lean

`InterventionFeedbackService` over its in-memory repository
(`intervention_feedback.py`).

The records and the replays are what the calls leave behind (`Ledger`); apart from
them a state counts the draws from the factory of identifiers `ids`. The clock of a
call gives the time in UTC as text, or none where it has no time zone.
-/
import AgentPlatform.Feedback.Records
import AgentPlatform.Py.Dict

namespace AgentPlatform

open Py

namespace Feedback

/-- The records of the repository and the replays of the service. -/
structure Ledger where
  interventions : List InterventionEventRecord
  feedback : List OutcomeFeedbackRecord
  interventionReplays : Dict (List String) (String × InterventionEventRecord)
  feedbackReplays : Dict (List String) (String × OutcomeFeedbackRecord)

structure State where
  ledger : Ledger
  issued : Nat

/-! ### The repository -/

/-- `append_intervention`: the records afterwards, and what is returned. -/
def appendIntervention (record : InterventionEventRecord) (records : List InterventionEventRecord) :
    List InterventionEventRecord × Except Failure InterventionEventRecord :=
  match records.find? fun existing => existing.recordId = record.recordId with
  | none => (records ++ [record], .ok record)
  | some existing =>
    if existing.recordDigest = record.recordDigest then (records, .ok existing)
    else (records, .error (.conflict "INTERVENTION_RECORD_ID_CONFLICT"))

def appendFeedback (record : OutcomeFeedbackRecord) (records : List OutcomeFeedbackRecord) :
    List OutcomeFeedbackRecord × Except Failure OutcomeFeedbackRecord :=
  match records.find? fun existing => existing.feedbackId = record.feedbackId with
  | none => (records ++ [record], .ok record)
  | some existing =>
    if existing.feedbackDigest = record.feedbackDigest then (records, .ok existing)
    else (records, .error (.conflict "OUTCOME_FEEDBACK_ID_CONFLICT"))

def verifyIntervention (r : InterventionEventRecord) : Except Failure InterventionEventRecord :=
  if r.Intact then .ok r else .error (.unavailable "CAPTURE_REPOSITORY_CORRUPT")

def verifyFeedback (r : OutcomeFeedbackRecord) : Except Failure OutcomeFeedbackRecord :=
  if r.Intact then .ok r else .error (.unavailable "CAPTURE_REPOSITORY_CORRUPT")

/-- The record belongs to the journey of the target. -/
def Target.journey (t : Target) (tenantId securityDomain journeyId : String) : Bool :=
  tenantId = t.tenantId && securityDomain = t.securityDomain && journeyId = t.journeyId

/-- `_interventions`: the intact records of the target. -/
def Ledger.interventionsOf (l : Ledger) (t : Target) (c : Checked) :
    Except Failure (List InterventionEventRecord) :=
  let records := l.interventions.filter fun r => t.journey r.tenantId r.securityDomain r.journeyId
  if ∃ r ∈ records, ¬ r.Intact then .error (.unavailable "CAPTURE_REPOSITORY_CORRUPT")
  else
    .ok (records.filter fun r =>
      r.successorRevisionId = t.successorRevisionId &&
        r.platformExecutionIdentity = c.platformExecutionIdentity && r.outcomeId = c.outcomeId &&
        r.executionEvidenceIds = t.executionEvidenceIds && r.provenance = c.provenance)

def Ledger.feedbackOf (l : Ledger) (t : Target) (c : Checked) :
    Except Failure (List OutcomeFeedbackRecord) :=
  let records := l.feedback.filter fun r => t.journey r.tenantId r.securityDomain r.journeyId
  if ∃ r ∈ records, ¬ r.Intact then .error (.unavailable "CAPTURE_REPOSITORY_CORRUPT")
  else
    .ok (records.filter fun r =>
      r.canonicalWorkflowRevisionId = t.successorRevisionId &&
        r.platformExecutionIdentity = c.platformExecutionIdentity && r.outcomeId = c.outcomeId &&
        r.evidenceId ∈ t.executionEvidenceIds && r.provenance = c.provenance)

/-! ### Captures -/

def transitions : InterventionLifecycle → List InterventionLifecycle
  | .recorded => [.excluded, .retained, .tombstoned]
  | .excluded => [.retained, .tombstoned]
  | .retained => [.excluded, .tombstoned]
  | .tombstoned => []

def decisionTime (now : Option String) : Except Failure String :=
  match now with
  | some time => .ok time
  | none => .error (.unavailable "CAPTURE_CLOCK_INVALID")

section Service

variable [Unicodedata]

/-- `_authorize` and `_validate_target`. -/
def admitted (principal : Principal) (t : Target) : Except Failure Checked :=
  if principal.permits t.tenantId t.securityDomain then validateTarget t else .error .denied

/-- `_assert_current_binding`. -/
def currentBinding (t : Target) (c : Checked) (command : InterventionCaptureCommand) :
    Except Failure Unit :=
  match t.predecessorRevisionId with
  | none => .error (.conflict "INTERVENTION_PREDECESSOR_REQUIRED")
  | some predecessor =>
    if command.predecessorRevisionId ≠ predecessor ∨
        command.successorRevisionId ≠ t.successorRevisionId ∨ command.outcomeId ≠ c.outcomeId ∨
        command.evidenceId ∉ t.executionEvidenceIds then
      .error (.conflict "INTERVENTION_TARGET_STALE_OR_MISMATCHED")
    else .ok ()

/-- `_issued_id`, with the `n`-th draw. -/
def issuedId (ids : Nat → String) (kind : String) (n : Nat) : Except Failure String :=
  (identifier (ids n) "CAPTURE_ID_FACTORY_INVALID").map fun suffix => kind ++ ":" ++ suffix

/-- The key of a replay of an intervention. -/
def interventionKey (t : Target) (command : InterventionCaptureCommand) : List String :=
  [t.tenantId, t.securityDomain, t.journeyId, t.successorRevisionId, command.eventKind.value,
    command.affectedElementReference.value]

/-- What `capture_intervention` checks, up to the first identifier: the target, and the
record of a replay. -/
def admitIntervention (l : Ledger) (principal : Principal) (t : Target)
    (command : InterventionCaptureCommand) :
    Except Failure (Checked × Option InterventionEventRecord) := do
  let c ← admitted principal t
  currentBinding t c command
  if command.correctionPatchReference = .noPatch ∧ command.eventKind ≠ .resultFeedbackProvided then
    .error (.invalid "CORRECTION_PATCH_REFERENCE_REQUIRED")
  else
    match l.interventionReplays.get? (interventionKey t command) with
    | none => .ok (c, none)
    | some replay =>
      if replay.1 = canonicalDigest command.json then .ok (c, some replay.2)
      else .error (.conflict "INTERVENTION_REPLAY_CONFLICT")

/-- The record of a new event; its model has the digest of the predecessor. -/
def newIntervention (principal : Principal) (t : Target) (c : Checked)
    (command : InterventionCaptureCommand) (eventId recordId time : String) :
    Except Failure InterventionEventRecord :=
  match t.predecessorDigest with
  | none => .error .validation
  | some predecessorDigest =>
    .ok (InterventionEventRecord.sealed {
      recordId
      interventionEventId := eventId
      recordDigest := ""
      lifecycle := .recorded
      supersedesRecordId := none
      journeyId := t.journeyId
      predecessorRevisionId := t.predecessorRevisionId.getD ""
      predecessorRevisionDigest := predecessorDigest
      successorRevisionId := t.successorRevisionId
      successorRevisionDigest := t.successorDigest
      affectedElementReference := command.affectedElementReference
      correctionPatchReference := command.correctionPatchReference
      eventKind := command.eventKind
      reasonCode := command.reasonCode.value
      principalId := principal.principalId
      decisionTime := time
      tenantId := t.tenantId
      securityDomain := t.securityDomain
      platformExecutionIdentity := c.platformExecutionIdentity
      outcomeId := c.outcomeId
      executionEvidenceIds := t.executionEvidenceIds
      provenance := c.provenance
      optimizationUseConsentDecision := command.optimizationUseConsentDecision })

/-- The identifiers and the time are drawn one after the other, so that each has a state. -/
def State.draw (w : State) (n : Nat) : State := { w with issued := w.issued + n }

/-- The record goes to the repository, and what comes back is verified. -/
def State.storeIntervention (w : State) (record : InterventionEventRecord) :
    State × Except Failure InterventionEventRecord :=
  let stored := appendIntervention record w.ledger.interventions
  ({ w with ledger := { w.ledger with interventions := stored.1 } }, stored.2.bind verifyIntervention)

def captureIntervention (ids : Nat → String) (w : State) (principal : Principal) (t : Target)
    (command : InterventionCaptureCommand) (now : Option String) :
    State × Except Failure InterventionEventRecord :=
  match admitIntervention w.ledger principal t command with
  | .error f => (w, .error f)
  | .ok (_, some record) => (w, .ok record)
  | .ok (c, none) =>
    match issuedId ids "intervention-event" w.issued with
    | .error f => (w.draw 1, .error f)
    | .ok eventId =>
      match issuedId ids "intervention-record" (w.issued + 1) with
      | .error f => (w.draw 2, .error f)
      | .ok recordId =>
        match (decisionTime now).bind (newIntervention principal t c command eventId recordId) with
        | .error f => (w.draw 2, .error f)
        | .ok record =>
          match (w.draw 2).storeIntervention record with
          | (w', .error f) => (w', .error f)
          | (w', .ok verified) =>
            let replay := (canonicalDigest command.json, verified)
            let replays := w'.ledger.interventionReplays.set (interventionKey t command) replay
            ({ w' with ledger := { w'.ledger with interventionReplays := replays } }, .ok verified)

/-! ### Lifecycles -/

/-- What `append_intervention_lifecycle` checks: the latest record, and whether it has
that lifecycle already. -/
def admitLifecycle (l : Ledger) (principal : Principal) (t : Target) (eventId : String)
    (change : LifecycleChange) : Except Failure (InterventionEventRecord × Bool) := do
  let c ← admitted principal t
  let eventId ← identifier eventId "INTERVENTION_EVENT_ID_INVALID"
  let records ← l.interventionsOf t c
  match (records.filter fun r => r.interventionEventId = eventId).getLast? with
  | none => .error .notFound
  | some latest =>
    if latest.successorRevisionId ≠ t.successorRevisionId ∨ latest.outcomeId ≠ c.outcomeId ∨
        latest.platformExecutionIdentity ≠ c.platformExecutionIdentity then
      .error (.conflict "INTERVENTION_TARGET_STALE_OR_MISMATCHED")
    else if latest.lifecycle = change.lifecycle then .ok (latest, true)
    else if change.lifecycle ∉ transitions latest.lifecycle then
      .error (.conflict "INTERVENTION_LIFECYCLE_CONFLICT")
    else .ok (latest, false)

/-- The record that supersedes the latest one. -/
def lifecycleRecord (latest : InterventionEventRecord) (principal : Principal)
    (change : LifecycleChange) (recordId time : String) : InterventionEventRecord :=
  InterventionEventRecord.sealed { latest with
    recordId
    recordDigest := ""
    lifecycle := change.lifecycle
    supersedesRecordId := some latest.recordId
    reasonCode := change.reason
    principalId := principal.principalId
    decisionTime := time }

/-- `append_intervention_lifecycle`. -/
def appendLifecycle (ids : Nat → String) (w : State) (principal : Principal) (t : Target)
    (eventId : String) (change : LifecycleChange) (now : Option String) :
    State × Except Failure InterventionEventRecord :=
  match admitLifecycle w.ledger principal t eventId change with
  | .error f => (w, .error f)
  | .ok (latest, true) => (w, .ok latest)
  | .ok (latest, false) =>
    match issuedId ids "intervention-record" w.issued with
    | .error f => (w.draw 1, .error f)
    | .ok recordId =>
      match decisionTime now with
      | .error f => (w.draw 1, .error f)
      | .ok time =>
        (w.draw 1).storeIntervention (lifecycleRecord latest principal change recordId time)

/-! ### Feedback -/

/-- The key of a replay of feedback. -/
def feedbackKey (t : Target) (c : Checked) (command : OutcomeFeedbackCommand) : List String :=
  [t.tenantId, t.securityDomain, t.journeyId, c.outcomeId, command.evidenceId,
    (command.supersedesFeedbackId.filter (· ≠ "")).getD "NONE"]

/-- What `capture_feedback` decides before it draws an identifier. -/
inductive FeedbackDecision
  /-- The current record says the same. -/
  | again (current : OutcomeFeedbackRecord)
  | replayed (record : OutcomeFeedbackRecord)
  | fresh (current : Option OutcomeFeedbackRecord)

def admitFeedback (l : Ledger) (principal : Principal) (t : Target)
    (command : OutcomeFeedbackCommand) : Except Failure (Checked × FeedbackDecision) := do
  let c ← admitted principal t
  if command.outcomeId ≠ c.outcomeId ∨ command.evidenceId ∉ t.executionEvidenceIds then
    .error (.conflict "OUTCOME_FEEDBACK_TARGET_STALE_OR_MISMATCHED")
  else if ¬ command.reasonCodes.Nodup then .error (.invalid "DUPLICATE_FEEDBACK_REASON")
  else
    let records ← l.feedbackOf t c
    let current := (records.filter fun r =>
      r.outcomeId = c.outcomeId && r.evidenceId = command.evidenceId).getLast?
    let replayOr (decision : Except Failure (Checked × FeedbackDecision)) :
        Except Failure (Checked × FeedbackDecision) :=
      match l.feedbackReplays.get? (feedbackKey t c command) with
      | none => decision
      | some replay =>
        if replay.1 = canonicalDigest command.json then .ok (c, .replayed replay.2)
        else .error (.conflict "OUTCOME_FEEDBACK_REPLAY_CONFLICT")
    match current, command.supersedesFeedbackId with
    | none, some _ => .error (.conflict "OUTCOME_FEEDBACK_SUPERSESSION_MISMATCH")
    | none, none => replayOr (.ok (c, .fresh none))
    | some record, none =>
      if record.assessment = command.assessment ∧ record.reasonCodes = command.reasonCodes then
        .ok (c, .again record)
      else .error (.conflict "OUTCOME_FEEDBACK_SUPERSESSION_REQUIRED")
    | some record, some superseded =>
      replayOr <|
        if superseded ≠ record.feedbackId then
          .error (.conflict "OUTCOME_FEEDBACK_SUPERSESSION_MISMATCH")
        else .ok (c, .fresh (some record))

/-- The next record on a piece of evidence. -/
def newFeedback (principal : Principal) (t : Target) (c : Checked) (command : OutcomeFeedbackCommand)
    (current : Option OutcomeFeedbackRecord) (feedbackId time : String) : OutcomeFeedbackRecord :=
  OutcomeFeedbackRecord.sealed {
    feedbackId
    feedbackDigest := ""
    revision := (current.map fun r => r.revision + 1).getD 1
    supersedesFeedbackId := current.map OutcomeFeedbackRecord.feedbackId
    journeyId := t.journeyId
    canonicalWorkflowRevisionId := t.successorRevisionId
    platformExecutionIdentity := c.platformExecutionIdentity
    outcomeId := c.outcomeId
    evidenceId := command.evidenceId
    assessment := command.assessment
    reasonCodes := command.reasonCodes
    principalId := principal.principalId
    decisionTime := time
    tenantId := t.tenantId
    securityDomain := t.securityDomain
    provenance := c.provenance }

/-- `self._feedback_replays[replay_key] = (fingerprint, record)`. -/
def Ledger.remember (l : Ledger) (t : Target) (c : Checked) (command : OutcomeFeedbackCommand)
    (record : OutcomeFeedbackRecord) : Ledger :=
  let replay := (canonicalDigest command.json, record)
  { l with feedbackReplays := l.feedbackReplays.set (feedbackKey t c command) replay }

def captureFeedback (ids : Nat → String) (w : State) (principal : Principal) (t : Target)
    (command : OutcomeFeedbackCommand) (now : Option String) :
    State × Except Failure OutcomeFeedbackRecord :=
  match admitFeedback w.ledger principal t command with
  | .error f => (w, .error f)
  | .ok (c, .again current) => ({ w with ledger := w.ledger.remember t c command current }, .ok current)
  | .ok (_, .replayed record) => (w, .ok record)
  | .ok (c, .fresh current) =>
    match issuedId ids "outcome-feedback" w.issued with
    | .error f => (w.draw 1, .error f)
    | .ok feedbackId =>
      match decisionTime now with
      | .error f => (w.draw 1, .error f)
      | .ok time =>
        let stored := appendFeedback (newFeedback principal t c command current feedbackId time)
          w.ledger.feedback
        let w' : State := { w.draw 1 with ledger := { w.ledger with feedback := stored.1 } }
        match stored.2.bind verifyFeedback with
        | .error f => (w', .error f)
        | .ok verified => ({ w' with ledger := w'.ledger.remember t c command verified }, .ok verified)

/-! ### The projection -/

inductive ViewLifecycle
  | recorded
  | superseded
  deriving DecidableEq

structure OutcomeFeedbackView where
  lifecycle : ViewLifecycle
  record : OutcomeFeedbackRecord

/-- `InterventionFeedbackIdentity`. -/
structure Identity where
  journeyId : String
  tenantId : String
  securityDomain : String
  predecessorRevisionId : Option String
  successorRevisionId : String
  platformExecutionIdentity : String
  outcomeId : String
  evidenceIds : List String
  provenance : CaptureProvenance

/-- `InterventionFeedbackProjection`, which shows the same under both names. -/
structure Projection where
  identity : Identity
  interventions : List InterventionEventRecord
  outcomeFeedback : List OutcomeFeedbackView

def project (l : Ledger) (principal : Principal) (t : Target) : Except Failure Projection := do
  let c ← admitted principal t
  let interventions ← l.interventionsOf t c
  let feedback ← l.feedbackOf t c
  let superseded := feedback.filterMap OutcomeFeedbackRecord.supersedesFeedbackId
  .ok {
    identity := ⟨t.journeyId, t.tenantId, t.securityDomain, t.predecessorRevisionId,
      t.successorRevisionId, c.platformExecutionIdentity, c.outcomeId, t.executionEvidenceIds,
      c.provenance⟩
    interventions
    outcomeFeedback := feedback.map fun r =>
      ⟨if r.feedbackId ∈ superseded then .superseded else .recorded, r⟩ }

end Service

end Feedback

end AgentPlatform
