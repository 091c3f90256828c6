/-
AgentPlatform/RuntimeContract.lean

The values of the execution-authority contract that are about placement and
runtimes: placement requests and decisions, the desired state of a runtime and
an observation of it. As in `ExecutionContract`, a value carries what its
constructor checks, and a constructor that can raise is a function into
`Except Failure`.

A tuple of codes is sorted and without repetition (`Codes`), so that equal sets
of codes are equal values.
-/
import AgentPlatform.ExecutionContract

namespace AgentPlatform

open Py

/-! ### Enumerations -/

inductive RuntimeDesiredStateKind
  | running | stopped | cancelled | replaced | observe
  deriving DecidableEq

def RuntimeDesiredStateKind.value : RuntimeDesiredStateKind → String
  | running => "RUNNING"
  | stopped => "STOPPED"
  | cancelled => "CANCELLED"
  | replaced => "REPLACED"
  | observe => "OBSERVE"

inductive RuntimeObservedStateKind
  | pending | running | stopped | terminated | failed | unknown | stale
  deriving DecidableEq

def RuntimeObservedStateKind.value : RuntimeObservedStateKind → String
  | pending => "PENDING"
  | running => "RUNNING"
  | stopped => "STOPPED"
  | terminated => "TERMINATED"
  | failed => "FAILED"
  | unknown => "UNKNOWN"
  | stale => "STALE"

inductive RuntimeHealth
  | healthy | degraded | unhealthy | unknown
  deriving DecidableEq

def RuntimeHealth.value : RuntimeHealth → String
  | healthy => "HEALTHY"
  | degraded => "DEGRADED"
  | unhealthy => "UNHEALTHY"
  | unknown => "UNKNOWN"

inductive RuntimeReadiness
  | ready | notReady | unknown
  deriving DecidableEq

def RuntimeReadiness.value : RuntimeReadiness → String
  | ready => "READY"
  | notReady => "NOT_READY"
  | unknown => "UNKNOWN"

inductive CommandResult
  | requested | applied | observed | rejected | unknown | stale | recoveryRequired
  deriving DecidableEq

/-- Membership in `AMBIGUOUS_COMMAND_RESULTS`. -/
def CommandResult.isAmbiguous : CommandResult → Bool
  | unknown | stale | recoveryRequired => true
  | _ => false

section Values

variable [Unicodedata]

/-! ### Codes -/

def maxCollectionItems : Nat := 64

/-- A tuple of codes: at most sixty-four references, strictly increasing. -/
@[ext]
structure Codes where
  items : List Reference
  bounded : items.length ≤ maxCollectionItems
  sorted : items.Pairwise fun a b => a.value < b.value
  deriving DecidableEq

def sortReferences (items : List Reference) : List Reference :=
  items.insertionSort fun a b => a.value ≤ b.value

theorem sortReferences_perm (items : List Reference) : (sortReferences items).Perm items :=
  List.perm_insertionSort _ _

/-- Distinct references are strictly increasing once sorted. -/
theorem sortReferences_strict {items : List Reference} (h : items.Nodup) :
    (sortReferences items).Pairwise fun a b => a.value < b.value := by
  have hle : (sortReferences items).Pairwise fun a b => a.value ≤ b.value :=
    List.pairwise_insertionSort (fun a b : Reference => a.value ≤ b.value) items
  have hne : (sortReferences items).Pairwise (· ≠ ·) := (sortReferences_perm items).nodup_iff.mpr h
  refine (hle.and hne).imp fun {a b} hab => ?_
  exact lt_of_le_of_ne hab.1 fun e => hab.2 (NormalizedText.ext e)

/-- `_codes` on references that have been read. -/
def codesOf (code : String) (items : List Reference) : Except Failure Codes :=
  if hl : items.length ≤ maxCollectionItems then
    if hn : items.Nodup then
      .ok ⟨sortReferences items, (sortReferences_perm items).length_eq ▸ hl,
        sortReferences_strict hn⟩
    else .error (.executionContract code)
  else .error (.executionContract code)

/-! ### Placement -/

structure PlacementRequest where
  requestId : OpaqueId
  scope : ScopeIdentity
  workflowRunId : WorkflowRunId
  taskRunId : TaskRunId
  attemptId : AttemptId
  agentInstanceId : AgentInstanceId
  agentRevisionId : Reference
  runtimeProfileRevisionId : Reference
  capabilityRequirements : Codes
  resourceRequirements : Codes
  isolationRequirements : Codes
  stateRequirements : Codes
  requestedAt : Datetime
  deriving DecidableEq

/-- The digests a decision accepts: sixty-four characters, a hexadecimal number
for `int(digest, 16)`, in lower case. -/
def isDecisionDigest [CharacterTables] (digest : String) : Bool :=
  digest.length = 64 && isInt16 digest && digest = CharacterTables.lower digest

structure PlacementDecision [CharacterTables] where
  placementId : PlacementId
  requestId : OpaqueId
  decision : PlacementDecisionKind
  runtimeInstanceId : Option RuntimeInstanceId
  policyVersion : Reference
  compatibilityFacts : Codes
  limitationCodes : Codes
  decidedAt : Datetime
  digest : String
  placed_runtime : decision = .placed ↔ runtimeInstanceId.isSome
  digest_accepted : isDecisionDigest digest = true
  deriving DecidableEq

/-! ### Desired and observed states of a runtime -/

structure RuntimeDesiredState where
  runtimeInstanceId : RuntimeInstanceId
  desiredGeneration : Generation
  desiredState : RuntimeDesiredStateKind
  commandId : CommandId
  requestedBy : Reference
  requestedAt : Datetime
  deadline : Datetime
  reasonClassification : Reference
  deadline_follows : requestedAt < deadline
  deriving DecidableEq

structure ExternalCorrelation where
  system : Reference
  kind : Reference
  handle : Reference
  deriving DecidableEq

def ExternalCorrelation.create (system kind handle : String) :
    Except Failure ExternalCorrelation := do
  let field := reference "INVALID_EXTERNAL_CORRELATION"
  let system ← field system
  let kind ← field kind
  let handle ← field handle
  .ok ⟨system, kind, handle⟩

structure RuntimeObservation where
  observationId : OpaqueId
  runtimeInstanceId : RuntimeInstanceId
  observedGeneration : Generation
  observedState : RuntimeObservedStateKind
  health : RuntimeHealth
  readiness : RuntimeReadiness
  observedAt : Datetime
  freshnessDeadline : Datetime
  providerCorrelation : Option ExternalCorrelation
  kubernetesCorrelation : Option ExternalCorrelation
  limitationCodes : Codes
  freshness_follows : observedAt < freshnessDeadline
  deriving DecidableEq

def currentObservedState (observation : Option RuntimeObservation) (at' : Datetime) :
    RuntimeObservedStateKind :=
  match observation with
  | none => .unknown
  | some o => if o.freshnessDeadline < at' then .stale else o.observedState

end Values

end AgentPlatform
