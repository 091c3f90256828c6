/-
AgentPlatform/Journey/Coordinator.lean

The commands of the live journey coordinator (`live_journey.py`) over its broker.

A command that raises may have changed the coordinator before: journeys and
replay bindings are written before the event is published. So a command returns
its result and the coordinator. `shown`, `handoffs`, `attempts` and `refused`
are histories that no command reads: the revisions that were made current, the
calls of the execution authority, the publications, and those that raised.

Design. `Steps` says what a command does to the broker and to the numbers of
the events: it goes from one publication to the next.
-/
import AgentPlatform.Journey.Stream
import AgentPlatform.Py.Text
import AgentPlatform.Py.Words
import AgentPlatform.Py.Hash

namespace AgentPlatform

open Py

namespace Journey

/-- The tables of the Unicode database that the coordinator uses. -/
class TextTables extends Unicodedata, Printable where
  upper : String → String
  upper_ascii : ∀ s, (∀ c ∈ s.toList, c.toNat < 128) →
    upper s = String.ofList (s.toList.map Char.toUpper)

/-- The tables for texts that are all ASCII. -/
@[reducible] def TextTables.ascii : TextTables where
  toUnicodedata := .identity
  isprintable _ := true
  upper s := String.ofList (s.toList.map Char.toUpper)
  upper_ascii _ _ := rfl

inductive Failure
  | denied
  | notFound
  | authorityMissing (code : String)
  | conflict (code : String)
  | error (code : String)
  /-- `ValidationError` of a model. -/
  | validation
  | stream (f : StreamFailure)
  /-- `KeyError`. -/
  | key
  deriving DecidableEq

/-! ### Values -/

structure TrustedJourneyPrincipal where
  principalId : String
  tenantId : String
  securityDomain : String
  authorized : Bool

def TrustedJourneyPrincipal.permits (p : TrustedJourneyPrincipal) (tenantId securityDomain : String) :
    Bool :=
  p.authorized && p.principalId ≠ "" && p.tenantId = tenantId && p.securityDomain = securityDomain

structure LiveJourneySeed where
  journeyId : String
  tenantId : String
  securityDomain : String
  canonicalWorkflowRevisionId : String
  canonicalDigest : String
  approvalId : String
  objective : String
  taskIds : List String
  sharedSnapshotId : String
  graphSnapshotId : String
  platformExecutionIdentity : String
  placementDecisionId : String
  evidenceIds : List String
  citations : List JourneyCitation
  outcome : JourneyOutcome
  answer : String
  provenance : String := "LIVE_EXECUTION"
  knowledgeState : String := "AVAILABLE"
  placementState : String := "PLACED"

structure AuthorizedRerunResult where
  platformExecutionIdentity : String
  sharedSnapshotId : String
  graphSnapshotId : String
  evidenceIds : List String
  citations : List JourneyCitation
  outcome : JourneyOutcome
  answer : String
  knowledgeState : String := "AVAILABLE"

/-- What the execution authority does. -/
inductive Handoff
  /-- `JourneyAuthorityMissing`. -/
  | missing (code : String)
  | raised
  /-- An object that is no `AuthorizedRerunResult`. -/
  | other
  | result (r : AuthorizedRerunResult)

structure JourneyProjection where
  product : Bool
  identity : JourneyIdentity
  revision : JourneyRevision

structure LiveJourneyResponse where
  journeyId : String
  stale : Bool
  provenance : String
  product : JourneyProjection
  technical : JourneyProjection
  predecessor : Option JourneyRevision
  successor : JourneyRevision

/-- A publication of the coordinator, without the journey and its revision. -/
structure Notice where
  eventType : JourneyEventType
  stage : JourneyStage
  status : JourneyStatus
  terminal : Bool
  reasonCode : String
  localizationKey : String

/-- When a publication happens: the time of the event and the clock of the broker. -/
structure Moment where
  occurredAt : Datetime
  clock : Clock

/-- A publication, with the broker before it. -/
structure Attempt where
  broker : Broker
  clock : Clock
  fields : EventFields

structure Coordinator where
  journeys : Dict String (Option JourneyRevision × JourneyRevision) := .empty
  provenance : Dict String String := .empty
  replays : Dict String (String × String) := .empty
  eventSequences : Dict JourneyStreamScope Nat := .empty
  broker : Broker := {}
  shown : List (String × JourneyRevision) := []
  handoffs : List (String × String) := []
  attempts : List Attempt := []
  refused : List (JourneyStreamScope × StreamFailure) := []

/-! ### Checks -/

section Checks

variable [TextTables]

/-- `[A-Za-z0-9][A-Za-z0-9._:/+-]{0,255}`. -/
def isId (s : String) : Bool :=
  match s.toList with
  | [] => false
  | c :: l => c.isAlphanum && l.length ≤ 255
      && l.all fun d => d.isAlphanum || "._:/+-".toList.contains d

def identifier (value code : String) : Except Failure String :=
  if isId (nfc value) then .ok (nfc value) else .error (.error code)

def identifiers (code : String) : List String → Except Failure Unit
  | [] => .ok ()
  | v :: vs =>
    match identifier v code with
    | .error f => .error f
    | .ok _ => identifiers code vs

/-- `knowledge_state not in {"AVAILABLE", "STALE"} and (citations or answer)`. -/
def unfounded (knowledgeState : String) (citations : List JourneyCitation) (answer : String) : Bool :=
  knowledgeState ≠ "AVAILABLE" && knowledgeState ≠ "STALE" && (citations ≠ [] || answer ≠ "")

def LiveJourneySeed.identity (seed : LiveJourneySeed) : JourneyIdentity where
  tenantId := seed.tenantId
  securityDomain := seed.securityDomain
  canonicalWorkflowRevisionId := seed.canonicalWorkflowRevisionId
  canonicalDigest := seed.canonicalDigest
  sharedSnapshotId := seed.sharedSnapshotId
  graphSnapshotId := seed.graphSnapshotId
  platformExecutionIdentity := some seed.platformExecutionIdentity
  approvalId := seed.approvalId
  placementDecisionId := seed.placementDecisionId
  evidenceIds := seed.evidenceIds
  citationIds := seed.citations.map (·.citationId)

/-- The part of `register_live` before anything is stored. -/
def LiveJourneySeed.revision (seed : LiveJourneySeed) : Except Failure JourneyRevision :=
  if seed.provenance ≠ "LIVE_EXECUTION" then .error (.error "LIVE_PROVENANCE_REQUIRED")
  else if isHex64 seed.canonicalDigest = false then .error (.error "INVALID_CANONICAL_DIGEST")
  else
    match identifiers "INVALID_LIVE_AUTHORITY_IDENTITY"
      ([seed.journeyId, seed.tenantId, seed.securityDomain, seed.canonicalWorkflowRevisionId,
        seed.approvalId, seed.sharedSnapshotId, seed.graphSnapshotId,
        seed.platformExecutionIdentity, seed.placementDecisionId] ++ seed.taskIds ++ seed.evidenceIds)
    with
    | .error f => .error f
    | .ok () =>
      if unfounded seed.knowledgeState seed.citations seed.answer then
        .error (.error "KNOWLEDGE_FAILURE_CANNOT_PRODUCE_ANSWER")
      else
        match PlacementState.ofText seed.placementState with
        | none => .error .validation
        | some placementState =>
          if seed.knowledgeState ∉ knowledgeStates then .error .validation
          else
            .ok {
              revision := 1, predecessorRevisionId := none, objective := seed.objective
              lifecycle := .executable, approvalState := .approved, identity := seed.identity
              planTaskIds := seed.taskIds, matchState := .matched, placementState
              knowledgeState := seed.knowledgeState, executionState := .succeeded
              answer := some seed.answer, citations := seed.citations, outcome := some seed.outcome
              limitationCodes := [] }

/-- The scope of a revision's stream. -/
def streamScope (journeyId : String) (revision : JourneyRevision) : JourneyStreamScope :=
  ⟨revision.identity.tenantId, revision.identity.securityDomain, journeyId⟩

/-- `f"{scope.key}:{sequence}"`. -/
def eventText (scope : JourneyStreamScope) (sequence : Nat) : String :=
  "(" ++ quoted scope.tenantId ++ ", " ++ quoted scope.securityDomain ++ ", "
    ++ quoted scope.journeyId ++ "):" ++ toString sequence

/-- The event of a publication. -/
def eventFields (journeyId : String) (revision : JourneyRevision) (notice : Notice) (sequence : Nat)
    (occurredAt : Datetime) : EventFields where
  journeyId
  eventId := "journey-event:" ++ sha256 (eventText (streamScope journeyId revision) sequence)
  sequence
  occurredAt
  eventType := notice.eventType
  stage := notice.stage
  status := notice.status
  terminal := notice.terminal
  reasonCode := notice.reasonCode
  localizationKey := notice.localizationKey
  identity := revision.identity
  payload := {
    revision := some revision.revision, approvalId := some revision.identity.approvalId
    platformExecutionIdentity := revision.identity.platformExecutionIdentity
    sharedSnapshotId := some revision.identity.sharedSnapshotId
    graphSnapshotId := some revision.identity.graphSnapshotId
    evidenceIds := revision.identity.evidenceIds, citationIds := revision.identity.citationIds
    limitationCodes := revision.limitationCodes }

/-- The digest of a corrected plan. -/
def correctionDigest (current : JourneyRevision) (objective : String) : String :=
  sha256 (Json.dumps false (.obj [("schemaVersion", .str "live-journey.v1"),
    ("tenantId", .str current.identity.tenantId),
    ("securityDomain", .str current.identity.securityDomain),
    ("predecessorRevisionId", .str current.identity.canonicalWorkflowRevisionId),
    ("predecessorDigest", .str current.identity.canonicalDigest), ("objective", .str objective),
    ("tasks", texts current.planTaskIds)]))

/-- The successor of a correction. -/
def corrected (current : JourneyRevision) (objective : String) : JourneyRevision :=
  let digest := correctionDigest current objective
  { revision := current.revision + 1
    predecessorRevisionId := some current.identity.canonicalWorkflowRevisionId
    objective, lifecycle := .pendingApproval, approvalState := .pending
    identity := {
      current.identity with
      canonicalWorkflowRevisionId := "canonical-workflow-revision:" ++ digest
      canonicalDigest := digest, sharedSnapshotId := "journey-snapshot:" ++ digest
      platformExecutionIdentity := none, approvalId := "pending-approval:" ++ digest
      evidenceIds := [], citationIds := [] }
    planTaskIds := current.planTaskIds, matchState := .matched
    placementState := current.placementState, knowledgeState := "UNAVAILABLE"
    executionState := .notRequested, answer := none, citations := [], outcome := none
    limitationCodes := ["FRESH_EXACT_DIGEST_APPROVAL_REQUIRED"] }

/-- The revision after an approval. -/
def approvedRevision (revision : JourneyRevision) (actor replay reason : String)
    (decidedAt : Datetime) : JourneyRevision :=
  let approvalId := "planning-approval:" ++ sha256 (Json.dumps false
    (.obj [("digest", .str revision.identity.canonicalDigest), ("actor", .str actor),
      ("replay", .str replay), ("reason", .str reason), ("decidedAt", .str decidedAt.isoformat)]))
  { revision with
    lifecycle := .executable, approvalState := .approved
    identity := { revision.identity with approvalId }, limitationCodes := [] }

/-- The revision after a rerun. -/
def rerunning (revision : JourneyRevision) (result : AuthorizedRerunResult) : JourneyRevision :=
  { revision with
    executionState := if result.outcome.classification = .succeeded then .succeeded else .failed
    identity := {
      revision.identity with
      platformExecutionIdentity := some result.platformExecutionIdentity
      sharedSnapshotId := result.sharedSnapshotId, graphSnapshotId := result.graphSnapshotId
      evidenceIds := result.evidenceIds, citationIds := result.citations.map (·.citationId) }
    knowledgeState := result.knowledgeState, answer := some result.answer
    citations := result.citations, outcome := some result.outcome
    limitationCodes := ["EXISTING_EXECUTION_AUTHORITY_RESULT"] }

end Checks

/-! ### Commands -/

/-- A command, with what it reads from the clock and hears from the execution
authority. -/
inductive Command
  | registerLive (seed : LiveJourneySeed) (moment : Moment)
  | registerAuthoritativeTransition (journeyId : String) (principal : TrustedJourneyPrincipal)
      (predecessor : Option JourneyRevision) (successor : JourneyRevision) (notice : Notice)
      (moment : Moment)
  | unregisterLive (journeyId : String) (principal : TrustedJourneyPrincipal)
  | correct (journeyId : String) (principal : TrustedJourneyPrincipal)
      (predecessorRevisionId predecessorDigest objective reasonCode : String) (moment : Moment)
  | approve (journeyId : String) (principal : TrustedJourneyPrincipal)
      (candidateDigest decision reasonCode replayIdentity : String) (decidedAt : Datetime)
      (moment : Moment)
  | rerun (journeyId : String) (principal : TrustedJourneyPrincipal) (revisionId digest : String)
      (handoff : Handoff) (authorized started ended : Moment)

namespace Coordinator

def authorized (journeyId : String) (principal : TrustedJourneyPrincipal) (s : Coordinator) :
    Except Failure (Option JourneyRevision × JourneyRevision) :=
  if principal.authorized = false ∨ principal.principalId = "" then .error .denied
  else
    match s.journeys.get? journeyId with
    | none => .error .notFound
    | some pair =>
      if principal.permits pair.2.identity.tenantId pair.2.identity.securityDomain then .ok pair
      else .error .denied

def get (journeyId : String) (principal : TrustedJourneyPrincipal) (s : Coordinator) :
    Except Failure LiveJourneyResponse :=
  match s.authorized journeyId principal with
  | .error f => .error f
  | .ok (predecessor, successor) =>
    match s.provenance.get? journeyId with
    | none => .error .key
    | some provenance =>
      .ok {
        journeyId, stale := successor.knowledgeState = "STALE", provenance
        product := ⟨true, successor.identity, successor⟩
        technical := ⟨false, successor.identity, successor⟩, predecessor, successor }

/-- Make a revision current. -/
def show_ (journeyId : String) (predecessor : Option JourneyRevision) (successor : JourneyRevision)
    (s : Coordinator) : Coordinator :=
  { s with
    journeys := s.journeys.set journeyId (predecessor, successor)
    shown := s.shown ++ [(journeyId, successor)] }

section Commands

variable [TextTables] (bounds : Bounds)

def publish (journeyId : String) (revision : JourneyRevision) (notice : Notice) (moment : Moment)
    (s : Coordinator) : Except Failure Unit × Coordinator :=
  let scope := streamScope journeyId revision
  let sequence := (s.eventSequences.get? scope).getD 0 + 1
  let fields := eventFields journeyId revision notice sequence moment.occurredAt
  let s := { s with attempts := s.attempts ++ [⟨s.broker, moment.clock, fields⟩] }
  match JourneyEventEnvelope.create fields with
  | none => (.error .validation, s)
  | some e =>
    match bounds.publish moment.clock e s.broker with
    | (.error f, broker) => (.error (.stream f), { s with broker, refused := s.refused ++ [(scope, f)] })
    | (.ok _, broker) =>
      (.ok (), { s with broker, eventSequences := s.eventSequences.set scope sequence })

/-- Make a revision current, tell of it, and answer with it. -/
def present (journeyId : String) (principal : TrustedJourneyPrincipal)
    (predecessor : Option JourneyRevision) (successor : JourneyRevision) (notice : Notice)
    (moment : Moment) (s : Coordinator) : Except Failure LiveJourneyResponse × Coordinator :=
  match (s.show_ journeyId predecessor successor).publish bounds journeyId successor notice moment with
  | (.error f, s) => (.error f, s)
  | (.ok (), s) => (s.get journeyId principal, s)

def systemPrincipal (seed : LiveJourneySeed) : TrustedJourneyPrincipal :=
  ⟨"system:registration", seed.tenantId, seed.securityDomain, true⟩

def registerLive (seed : LiveJourneySeed) (moment : Moment) (s : Coordinator) :
    Except Failure LiveJourneyResponse × Coordinator :=
  match seed.revision with
  | .error f => (.error f, s)
  | .ok revision =>
    { s with provenance := s.provenance.set seed.journeyId seed.provenance }.present bounds
      seed.journeyId (systemPrincipal seed) none revision
      ⟨.journeyRegistered, .journey, .registered, false, "JOURNEY_REGISTERED",
        "liveJourney.event.journeyRegistered"⟩ moment

def registerAuthoritativeTransition (journeyId : String) (principal : TrustedJourneyPrincipal)
    (predecessor : Option JourneyRevision) (successor : JourneyRevision) (notice : Notice)
    (moment : Moment) (s : Coordinator) : Except Failure LiveJourneyResponse × Coordinator :=
  match s.authorized journeyId principal with
  | .error f => (.error f, s)
  | .ok (_, current) =>
    if principal.permits successor.identity.tenantId successor.identity.securityDomain = false then
      (.error .denied, s)
    else if successor.revision < current.revision then
      (.error (.conflict "AUTHORITATIVE_REVISION_REGRESSION"), s)
    else if predecessor.any (fun p => p.identity.tenantId ≠ successor.identity.tenantId
        || p.identity.securityDomain ≠ successor.identity.securityDomain
        || successor.predecessorRevisionId ≠ some p.identity.canonicalWorkflowRevisionId) then
      (.error (.conflict "AUTHORITATIVE_SUCCESSOR_BINDING_MISMATCH"), s)
    else s.present bounds journeyId principal predecessor successor notice moment

def unregisterLive (journeyId : String) (principal : TrustedJourneyPrincipal) (s : Coordinator) :
    Except Failure Unit × Coordinator :=
  match s.authorized journeyId principal with
  | .error f => (.error f, s)
  | .ok (_, current) =>
    let scope := streamScope journeyId current
    (.ok (), {
      s with
      journeys := s.journeys.pop journeyId, provenance := s.provenance.pop journeyId
      eventSequences := s.eventSequences.pop scope, broker := (s.broker.clearScope scope).2 })

def correct (journeyId : String) (principal : TrustedJourneyPrincipal)
    (predecessorRevisionId predecessorDigest objective reasonCode : String) (moment : Moment)
    (s : Coordinator) : Except Failure LiveJourneyResponse × Coordinator :=
  match s.authorized journeyId principal with
  | .error f => (.error f, s)
  | .ok (_, current) =>
    if current.lifecycle = .pendingApproval then (.error (.conflict "SUCCESSOR_ALREADY_PENDING"), s)
    else if predecessorRevisionId ≠ current.identity.canonicalWorkflowRevisionId
        ∨ predecessorDigest ≠ current.identity.canonicalDigest then
      (.error (.conflict "CORRECTION_BINDING_MISMATCH"), s)
    else
      let normalized := collapse (nfc objective)
      if normalized = "" ∨ 500 < normalized.length ∨ normalized = current.objective then
        (.error (.error "INVALID_CORRECTION_PATCH"), s)
      else
        match identifier (TextTables.upper reasonCode) "INVALID_CORRECTION_REASON" with
        | .error f => (.error f, s)
        | .ok _ =>
          s.present bounds journeyId principal (some { current with lifecycle := .superseded })
            (corrected current normalized)
            ⟨.correctionAccepted, .correction, .accepted, false, TextTables.upper reasonCode,
              "liveJourney.event.correctionAccepted"⟩ moment

def approve (journeyId : String) (principal : TrustedJourneyPrincipal)
    (candidateDigest decision reasonCode replayIdentity : String) (decidedAt : Datetime)
    (moment : Moment) (s : Coordinator) : Except Failure LiveJourneyResponse × Coordinator :=
  match s.authorized journeyId principal with
  | .error f => (.error f, s)
  | .ok (predecessor, successor) =>
    if successor.lifecycle ≠ .pendingApproval then (.error (.conflict "APPROVAL_NOT_PENDING"), s)
    else if candidateDigest ≠ successor.identity.canonicalDigest then
      (.error (.conflict "APPROVAL_DIGEST_MISMATCH"), s)
    else
      match identifier (TextTables.upper reasonCode) "INVALID_APPROVAL_REASON" with
      | .error f => (.error f, s)
      | .ok _ =>
        match identifier replayIdentity "INVALID_REPLAY_IDENTITY" with
        | .error f => (.error f, s)
        | .ok replay =>
          if (s.replays.get? replay).any (· ≠ (candidateDigest, decision)) then
            (.error (.conflict "APPROVAL_REPLAY_MISMATCH"), s)
          else
            let s := { s with replays := s.replays.set replay (candidateDigest, decision) }
            let notice (status : JourneyStatus) (terminal : Bool) : Notice :=
              ⟨.approvalRecorded, .approval, status, terminal, TextTables.upper reasonCode,
                "liveJourney.event.approvalRecorded"⟩
            if decision = "REJECT" then
              s.present bounds journeyId principal predecessor { successor with approvalState := .rejected }
                (notice .rejected true) moment
            else if decision = "APPROVE" then
              s.present bounds journeyId principal predecessor
                (approvedRevision successor principal.principalId replay (TextTables.upper reasonCode)
                  decidedAt) (notice .approved false) moment
            else (.error (.error "INVALID_APPROVAL_DECISION"), s)

/-- The part of `rerun` after the answer of the execution authority. -/
def rerunEnded (journeyId : String) (principal : TrustedJourneyPrincipal)
    (predecessor : Option JourneyRevision) (successor : JourneyRevision) (moment : Moment)
    (s : Coordinator) : Handoff → Except Failure LiveJourneyResponse × Coordinator
  | .missing code =>
    match s.publish bounds journeyId successor ⟨.journeyUnavailable, .execution, .unavailable, true,
      "EXECUTION_AUTHORITY_UNAVAILABLE", "liveJourney.event.journeyUnavailable"⟩ moment with
    | (.error f, s) => (.error f, s)
    | (.ok (), s) => (.error (.authorityMissing code), s)
  | .raised =>
    match s.publish bounds journeyId successor ⟨.journeyError, .execution, .error, true,
      "EXECUTION_AUTHORITY_ERROR", "liveJourney.event.journeyError"⟩ moment with
    | (.error f, s) => (.error f, s)
    | (.ok (), s) => (.error (.authorityMissing "EXECUTION_AUTHORITY_ERROR"), s)
  | .other => (.error (.authorityMissing "EXECUTION_AUTHORITY_RESULT_INVALID"), s)
  | .result result =>
    match identifiers "INVALID_EXECUTION_AUTHORITY_IDENTITY"
      ([result.platformExecutionIdentity, result.sharedSnapshotId, result.graphSnapshotId]
        ++ result.evidenceIds) with
    | .error f => (.error f, s)
    | .ok () =>
      if unfounded result.knowledgeState result.citations result.answer then
        (.error (.authorityMissing "EXECUTION_AUTHORITY_RESULT_INVALID"), s)
      else
        let ended := rerunning successor result
        let notice : Notice :=
          if ended.executionState = .succeeded then
            ⟨.executionSucceeded, .execution, .succeeded, true, "EXISTING_EXECUTION_AUTHORITY_RESULT",
              "liveJourney.event.executionSucceeded"⟩
          else
            ⟨.executionFailed, .execution, .failed, true, "EXISTING_EXECUTION_AUTHORITY_RESULT",
              "liveJourney.event.executionFailed"⟩
        s.present bounds journeyId principal predecessor ended notice moment

def rerun (journeyId : String) (principal : TrustedJourneyPrincipal) (revisionId digest : String)
    (handoff : Handoff) (authorizedAt startedAt endedAt : Moment) (s : Coordinator) :
    Except Failure LiveJourneyResponse × Coordinator :=
  match s.authorized journeyId principal with
  | .error f => (.error f, s)
  | .ok (predecessor, successor) =>
    if successor.lifecycle ≠ .executable ∨ successor.approvalState ≠ .approved then
      (.error (.conflict "EXACT_APPROVAL_REQUIRED"), s)
    else if revisionId ≠ successor.identity.canonicalWorkflowRevisionId
        ∨ digest ≠ successor.identity.canonicalDigest then
      (.error (.conflict "RERUN_REVISION_DIGEST_MISMATCH"), s)
    else
      match s.publish bounds journeyId { successor with executionState := .authorizedHandoff }
        ⟨.executionAuthorized, .execution, .authorized, false, "EXACT_DIGEST_EXECUTION_AUTHORIZED",
          "liveJourney.event.executionAuthorized"⟩ authorizedAt with
      | (.error f, s) => (.error f, s)
      | (.ok (), s) =>
        match s.publish bounds journeyId { successor with executionState := .running }
          ⟨.executionStarted, .execution, .started, false, "EXISTING_EXECUTION_AUTHORITY_STARTED",
            "liveJourney.event.executionStarted"⟩ startedAt with
        | (.error f, s) => (.error f, s)
        | (.ok (), s) =>
          { s with handoffs := s.handoffs ++ [(revisionId, digest)] }.rerunEnded bounds journeyId
            principal predecessor successor endedAt handoff

/-- One command, without what it returns. -/
def command (s : Coordinator) : Command → Except Failure Unit × Coordinator
  | .registerLive seed moment =>
    let (r, s) := s.registerLive bounds seed moment
    (r.map fun _ => (), s)
  | .registerAuthoritativeTransition journeyId principal predecessor successor notice moment =>
    let (r, s) := s.registerAuthoritativeTransition bounds journeyId principal predecessor successor
      notice moment
    (r.map fun _ => (), s)
  | .unregisterLive journeyId principal => s.unregisterLive journeyId principal
  | .correct journeyId principal predecessorRevisionId predecessorDigest objective reasonCode moment =>
    let (r, s) := s.correct bounds journeyId principal predecessorRevisionId predecessorDigest
      objective reasonCode moment
    (r.map fun _ => (), s)
  | .approve journeyId principal candidateDigest decision reasonCode replayIdentity decidedAt moment =>
    let (r, s) := s.approve bounds journeyId principal candidateDigest decision reasonCode
      replayIdentity decidedAt moment
    (r.map fun _ => (), s)
  | .rerun journeyId principal revisionId digest handoff authorizedAt startedAt endedAt =>
    let (r, s) := s.rerun bounds journeyId principal revisionId digest handoff authorizedAt startedAt
      endedAt
    (r.map fun _ => (), s)

end Commands

/-! ### What a command does -/

/-- The broker, the numbers of the events and the histories of publications are
the same. -/
structure Quiet (s s' : Coordinator) : Prop where
  broker : s'.broker = s.broker
  eventSequences : s'.eventSequences = s.eventSequences
  attempts : s'.attempts = s.attempts
  refused : s'.refused = s.refused

/-- What a command does: publications, the end of a stream, and changes that
concern neither. -/
inductive Steps [TextTables] (bounds : Bounds) (s : Coordinator) : Coordinator → Prop
  | refl : Steps bounds s s
  | quiet {s' s'' : Coordinator} : Steps bounds s s' → Quiet s' s'' → Steps bounds s s''
  | publish {s' : Coordinator} (journeyId revision notice moment) : Steps bounds s s' →
      Steps bounds s (s'.publish bounds journeyId revision notice moment).2
  | clear {s' : Coordinator} (scope : JourneyStreamScope) : Steps bounds s s' →
      Steps bounds s { s' with
        eventSequences := s'.eventSequences.pop scope, broker := (s'.broker.clearScope scope).2 }

section Steps

variable [TextTables] {bounds : Bounds} {s s' : Coordinator}

theorem Steps.present (h : Steps bounds s s') (journeyId principal predecessor successor notice moment) :
    Steps bounds s (s'.present bounds journeyId principal predecessor successor notice moment).2 := by
  have hshown : Steps bounds s (s'.show_ journeyId predecessor successor) :=
    h.quiet ⟨rfl, rfl, rfl, rfl⟩
  have hpublish := hshown.publish journeyId successor notice moment
  unfold Coordinator.present
  split
  · next hr =>
    rw [hr] at hpublish
    exact hpublish
  · next hr =>
    rw [hr] at hpublish
    exact hpublish

theorem steps_registerLive (seed moment) : Steps bounds s (s.registerLive bounds seed moment).2 := by
  rw [registerLive]
  split
  · exact .refl
  · apply Steps.present
    exact Steps.refl.quiet ⟨rfl, rfl, rfl, rfl⟩

theorem steps_registerAuthoritativeTransition (journeyId principal predecessor successor notice moment) :
    Steps bounds s (s.registerAuthoritativeTransition bounds journeyId principal predecessor successor
      notice moment).2 := by
  rw [registerAuthoritativeTransition]
  split
  · exact .refl
  · split
    · exact .refl
    · split
      · exact .refl
      · split
        · exact .refl
        · exact Steps.refl.present _ _ _ _ _ _

theorem steps_unregisterLive (journeyId principal) :
    Steps bounds s (s.unregisterLive journeyId principal).2 := by
  rw [unregisterLive]
  split
  · exact .refl
  · next current _ =>
    exact (Steps.refl.clear (streamScope journeyId current)).quiet ⟨rfl, rfl, rfl, rfl⟩

theorem steps_correct (journeyId principal predecessorRevisionId predecessorDigest objective reasonCode
    moment) : Steps bounds s (s.correct bounds journeyId principal predecessorRevisionId
      predecessorDigest objective reasonCode moment).2 := by
  rw [correct]
  split
  · exact .refl
  · split
    · exact .refl
    · split
      · exact .refl
      · dsimp only
        split
        · exact .refl
        · split
          · exact .refl
          · exact Steps.refl.present _ _ _ _ _ _

theorem steps_approve (journeyId principal candidateDigest decision reasonCode replayIdentity decidedAt
    moment) : Steps bounds s (s.approve bounds journeyId principal candidateDigest decision reasonCode
      replayIdentity decidedAt moment).2 := by
  rw [approve]
  split
  · exact .refl
  · split
    · exact .refl
    · split
      · exact .refl
      · split
        · exact .refl
        · split
          · exact .refl
          · split
            · exact .refl
            · dsimp only
              split
              · apply Steps.present
                exact Steps.refl.quiet ⟨rfl, rfl, rfl, rfl⟩
              · split
                · apply Steps.present
                  exact Steps.refl.quiet ⟨rfl, rfl, rfl, rfl⟩
                · exact Steps.refl.quiet ⟨rfl, rfl, rfl, rfl⟩

theorem Steps.rerunEnded (h : Steps bounds s s') (journeyId principal predecessor successor moment)
    (handoff : Handoff) :
    Steps bounds s (s'.rerunEnded bounds journeyId principal predecessor successor moment handoff).2 := by
  cases handoff with
  | missing code =>
    have hpublish := h.publish journeyId successor ⟨.journeyUnavailable, .execution, .unavailable, true,
      "EXECUTION_AUTHORITY_UNAVAILABLE", "liveJourney.event.journeyUnavailable"⟩ moment
    dsimp only [Coordinator.rerunEnded]
    split
    · next hr =>
      rw [hr] at hpublish
      exact hpublish
    · next hr =>
      rw [hr] at hpublish
      exact hpublish
  | raised =>
    have hpublish := h.publish journeyId successor ⟨.journeyError, .execution, .error, true,
      "EXECUTION_AUTHORITY_ERROR", "liveJourney.event.journeyError"⟩ moment
    dsimp only [Coordinator.rerunEnded]
    split
    · next hr =>
      rw [hr] at hpublish
      exact hpublish
    · next hr =>
      rw [hr] at hpublish
      exact hpublish
  | other => exact h
  | result result =>
    dsimp only [Coordinator.rerunEnded]
    split
    · exact h
    · split
      · exact h
      · exact h.present _ _ _ _ _ _

theorem steps_rerun (journeyId principal revisionId digest handoff authorizedAt startedAt endedAt) :
    Steps bounds s (s.rerun bounds journeyId principal revisionId digest handoff authorizedAt startedAt
      endedAt).2 := by
  rw [rerun]
  split
  · exact .refl
  · next predecessor successor _ =>
    split
    · exact .refl
    · split
      · exact .refl
      · have hstart : Steps bounds s s := .refl
        have hfirst := hstart.publish journeyId
          { successor with executionState := .authorizedHandoff }
          ⟨.executionAuthorized, .execution, .authorized, false, "EXACT_DIGEST_EXECUTION_AUTHORIZED",
            "liveJourney.event.executionAuthorized"⟩ authorizedAt
        split
        · next hr =>
          rw [hr] at hfirst
          exact hfirst
        · next s₁ hr =>
          rw [hr] at hfirst
          have hsecond := hfirst.publish journeyId { successor with executionState := .running }
            ⟨.executionStarted, .execution, .started, false, "EXISTING_EXECUTION_AUTHORITY_STARTED",
              "liveJourney.event.executionStarted"⟩ startedAt
          split
          · next hr =>
            rw [hr] at hsecond
            exact hsecond
          · next s₂ hr =>
            rw [hr] at hsecond
            apply Steps.rerunEnded
            exact hsecond.quiet ⟨rfl, rfl, rfl, rfl⟩

/-- **What a command does.** -/
theorem steps_command (s : Coordinator) (c : Command) : Steps bounds s (s.command bounds c).2 := by
  cases c with
  | registerLive seed moment => exact steps_registerLive _ _
  | registerAuthoritativeTransition => exact steps_registerAuthoritativeTransition _ _ _ _ _ _
  | unregisterLive => exact steps_unregisterLive _ _
  | correct => exact steps_correct _ _ _ _ _ _ _
  | approve => exact steps_approve _ _ _ _ _ _ _ _
  | rerun => exact steps_rerun _ _ _ _ _ _ _ _

end Steps

end Coordinator

end Journey

end AgentPlatform
