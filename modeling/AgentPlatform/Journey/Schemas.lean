/-
AgentPlatform/Journey/Schemas.lean

Revisions of a live journey and the events that tell of them
(`live_journey_schemas.py`, `live_journey_stream_schemas.py`).

An event carries its acceptance by the checks of its model as a field, so that
every event of the development is one that could be built.
-/
import AgentPlatform.Py.Datetime
import AgentPlatform.Py.Json

namespace AgentPlatform

open Py

namespace Journey

/-! ### Revisions -/

structure JourneyIdentity where
  tenantId : String
  securityDomain : String
  canonicalWorkflowRevisionId : String
  canonicalDigest : String
  sharedSnapshotId : String
  graphSnapshotId : String
  platformExecutionIdentity : Option String
  approvalId : String
  placementDecisionId : String
  evidenceIds : List String
  citationIds : List String
  deriving DecidableEq

inductive CitationStatus
  | available
  | stale
  deriving DecidableEq

structure JourneyCitation where
  citationId : String
  retrievalEvidenceId : String
  authorizationDecisionId : String
  knowledgePackId : String
  knowledgePackVersion : String
  knowledgePackDigest : String
  documentId : String
  documentVersion : String
  documentDigest : String
  sectionId : String
  chunkId : String
  status : CitationStatus
  deriving DecidableEq

inductive OutcomeClassification
  | succeeded
  | failed
  | unknown
  deriving DecidableEq

structure JourneyOutcome where
  outcomeId : String
  classification : OutcomeClassification
  summary : String
  comparableMetric : String
  deriving DecidableEq

inductive Lifecycle
  | pendingApproval
  | approved
  | executable
  | superseded
  deriving DecidableEq

inductive ApprovalState
  | pending
  | approved
  | rejected
  deriving DecidableEq

inductive MatchState
  | matched
  | partly
  | roleGap
  | denied
  | error
  deriving DecidableEq

inductive PlacementState
  | placed
  | unavailable
  | stale
  | denied
  | error
  deriving DecidableEq

inductive ExecutionState
  | notRequested
  | authorizedHandoff
  | running
  | succeeded
  | failed
  | unavailable
  deriving DecidableEq

def PlacementState.ofText : String → Option PlacementState
  | "PLACED" => some placed
  | "UNAVAILABLE" => some unavailable
  | "STALE" => some stale
  | "DENIED" => some denied
  | "ERROR" => some error
  | _ => none

/-- The knowledge states. A copy with an update is not checked, so that a revision
may have another text there. -/
def knowledgeStates : List String :=
  ["AVAILABLE", "STALE", "EXPIRED", "DENIED", "NOT_FOUND", "UNAVAILABLE", "ERROR"]

structure JourneyRevision where
  revision : Nat
  predecessorRevisionId : Option String
  objective : String
  lifecycle : Lifecycle
  approvalState : ApprovalState
  identity : JourneyIdentity
  planTaskIds : List String
  matchState : MatchState
  placementState : PlacementState
  knowledgeState : String
  executionState : ExecutionState
  answer : Option String
  citations : List JourneyCitation
  outcome : Option JourneyOutcome
  limitationCodes : List String
  deriving DecidableEq

/-! ### Events -/

inductive JourneyEventType
  | journeyRegistered
  | correctionAccepted
  | approvalRecorded
  | executionAuthorized
  | executionStarted
  | executionSucceeded
  | executionFailed
  | journeyStale
  | journeyUnavailable
  | journeyError
  | resumeUnavailable
  deriving DecidableEq

def JourneyEventType.value : JourneyEventType → String
  | journeyRegistered => "JOURNEY_REGISTERED"
  | correctionAccepted => "CORRECTION_ACCEPTED"
  | approvalRecorded => "APPROVAL_RECORDED"
  | executionAuthorized => "EXECUTION_AUTHORIZED"
  | executionStarted => "EXECUTION_STARTED"
  | executionSucceeded => "EXECUTION_SUCCEEDED"
  | executionFailed => "EXECUTION_FAILED"
  | journeyStale => "JOURNEY_STALE"
  | journeyUnavailable => "JOURNEY_UNAVAILABLE"
  | journeyError => "JOURNEY_ERROR"
  | resumeUnavailable => "RESUME_UNAVAILABLE"

inductive JourneyStage
  | journey
  | correction
  | approval
  | execution
  | resume
  deriving DecidableEq

def JourneyStage.value : JourneyStage → String
  | journey => "JOURNEY"
  | correction => "CORRECTION"
  | approval => "APPROVAL"
  | execution => "EXECUTION"
  | resume => "RESUME"

inductive JourneyStatus
  | registered
  | accepted
  | approved
  | rejected
  | authorized
  | started
  | succeeded
  | failed
  | stale
  | unavailable
  | error
  deriving DecidableEq

def JourneyStatus.value : JourneyStatus → String
  | registered => "REGISTERED"
  | accepted => "ACCEPTED"
  | approved => "APPROVED"
  | rejected => "REJECTED"
  | authorized => "AUTHORIZED"
  | started => "STARTED"
  | succeeded => "SUCCEEDED"
  | failed => "FAILED"
  | stale => "STALE"
  | unavailable => "UNAVAILABLE"
  | error => "ERROR"

structure JourneyEventPayload where
  revision : Option Nat
  approvalId : Option String
  platformExecutionIdentity : Option String
  sharedSnapshotId : Option String
  graphSnapshotId : Option String
  evidenceIds : List String
  citationIds : List String
  limitationCodes : List String
  deriving DecidableEq

/-- What the constructor of an event is given. -/
structure EventFields where
  journeyId : String
  eventId : String
  sequence : Nat
  occurredAt : Datetime
  eventType : JourneyEventType
  stage : JourneyStage
  status : JourneyStatus
  terminal : Bool
  reasonCode : String
  localizationKey : String
  identity : JourneyIdentity
  payload : JourneyEventPayload
  deriving DecidableEq

/-! ### JSON -/

def texts (values : List String) : Json := .arr (values.map .str)

def JourneyIdentity.json (v : JourneyIdentity) : Json :=
  .obj [("tenantId", .str v.tenantId), ("securityDomain", .str v.securityDomain),
    ("canonicalWorkflowRevisionId", .str v.canonicalWorkflowRevisionId),
    ("canonicalDigest", .str v.canonicalDigest), ("sharedSnapshotId", .str v.sharedSnapshotId),
    ("graphSnapshotId", .str v.graphSnapshotId),
    ("platformExecutionIdentity", Json.optStr v.platformExecutionIdentity),
    ("approvalId", .str v.approvalId), ("placementDecisionId", .str v.placementDecisionId),
    ("evidenceIds", texts v.evidenceIds), ("citationIds", texts v.citationIds)]

def JourneyEventPayload.json (v : JourneyEventPayload) : Json :=
  .obj [("revision", match v.revision with | none => .null | some n => .int n),
    ("approvalId", Json.optStr v.approvalId),
    ("platformExecutionIdentity", Json.optStr v.platformExecutionIdentity),
    ("sharedSnapshotId", Json.optStr v.sharedSnapshotId),
    ("graphSnapshotId", Json.optStr v.graphSnapshotId), ("evidenceIds", texts v.evidenceIds),
    ("citationIds", texts v.citationIds), ("limitationCodes", texts v.limitationCodes)]

def EventFields.entries (v : EventFields) : List (String × Json) :=
  [("schemaVersion", .str "journey-event.v1"), ("journeyId", .str v.journeyId),
    ("eventId", .str v.eventId), ("sequence", .int v.sequence),
    ("occurredAt", .str v.occurredAt.isoformatZ), ("eventType", .str v.eventType.value),
    ("stage", .str v.stage.value), ("status", .str v.status.value), ("terminal", .bool v.terminal),
    ("reasonCode", .str v.reasonCode), ("localizationKey", .str v.localizationKey),
    ("provenance", .str "LIVE_EXECUTION"), ("identity", v.identity.json),
    ("payload", v.payload.json)]

def EventFields.json (v : EventFields) : Json := .obj v.entries

/-! ### Checks -/

/-- A text that is not empty and has at most 200 characters. -/
def identifierValid (s : String) : Bool := s ≠ "" && s.length ≤ 200

def optionValid (o : Option String) : Bool := o.all identifierValid

def JourneyEventPayload.valid (v : JourneyEventPayload) : Bool :=
  v.revision.all (1 ≤ ·)
    && [v.approvalId, v.platformExecutionIdentity, v.sharedSnapshotId, v.graphSnapshotId].all optionValid
    && v.evidenceIds.length ≤ 64 && v.citationIds.length ≤ 64 && v.limitationCodes.length ≤ 32
    && (v.evidenceIds ++ v.citationIds ++ v.limitationCodes).all identifierValid
    && (Json.dumps false v.json).utf8ByteSize ≤ 16 * 1024

/-- `validate_identity_bounds`. -/
def JourneyIdentity.valid (v : JourneyIdentity) : Bool :=
  [v.tenantId, v.securityDomain, v.canonicalWorkflowRevisionId, v.canonicalDigest,
      v.sharedSnapshotId, v.graphSnapshotId, v.approvalId, v.placementDecisionId].all identifierValid
    && optionValid v.platformExecutionIdentity
    && (v.evidenceIds ++ v.citationIds).all identifierValid

/-- The checks of `JourneyEventEnvelope` and of the payload in it. -/
@[irreducible]
def EventFields.valid (v : EventFields) : Bool :=
  v.payload.valid
    && [v.journeyId, v.eventId, v.reasonCode, v.localizationKey].all identifierValid
    && 0 < v.sequence && v.identity.valid
    && (Json.dumps false v.json).utf8ByteSize ≤ 32 * 1024

structure JourneyEventEnvelope extends EventFields where
  valid : toEventFields.valid = true
  deriving DecidableEq

/-- The constructor, where `none` is a `ValidationError`. -/
@[irreducible]
def JourneyEventEnvelope.create (fields : EventFields) : Option JourneyEventEnvelope :=
  if h : fields.valid = true then some ⟨fields, h⟩ else none

def serializeEnvelope (e : JourneyEventEnvelope) : String := Json.dumps false e.json

theorem JourneyEventEnvelope.create_eq_some {fields : EventFields} {e : JourneyEventEnvelope} :
    JourneyEventEnvelope.create fields = some e ↔ e.toEventFields = fields := by
  constructor
  · intro h
    rw [create] at h
    split at h
    · cases h
      rfl
    · cases h
  · rintro rfl
    rw [create]
    exact dif_pos e.valid

theorem EventFields.keys_entries (v : EventFields) : v.entries.map Prod.fst
    = ["schemaVersion", "journeyId", "eventId", "sequence", "occurredAt", "eventType", "stage",
      "status", "terminal", "reasonCode", "localizationKey", "provenance", "identity", "payload"] :=
  rfl

/-- The text of an event tells its number. -/
theorem sequence_eq_of_serialize {e e' : JourneyEventEnvelope}
    (h : serializeEnvelope e = serializeEnvelope e') : e.sequence = e'.sequence := by
  have hkeys : e.entries.map Prod.fst = e'.entries.map Prod.fst := by
    rw [EventFields.keys_entries, EventFields.keys_entries]
  have hnodup : (e.entries.map Prod.fst).Nodup := by
    rw [EventFields.keys_entries]
    decide
  have hsorted : Json.sortKeys (.obj e.entries) = Json.sortKeys (.obj e'.entries) :=
    Json.dumps_injective h
  have hfields := Json.sortKeys_obj_inj hkeys hnodup hsorted
  have hsequence := congrArg (fun l : List Json => l[3]?) hfields
  simp only [EventFields.entries, List.map_cons, List.getElem?_cons_succ, List.getElem?_cons_zero,
    Json.sortKeys, Option.some.injEq, Json.int.injEq] at hsequence
  exact Int.ofNat_inj.mp hsequence

end Journey

end AgentPlatform
