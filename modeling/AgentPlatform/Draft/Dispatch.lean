/-
AgentPlatform/Draft/Dispatch.lean

A draft invocation is dispatched at most once, in the runs where a write of
`REQUESTED` that loses is followed by a version that may be dispatched
(`dispatched_once`).

The service goes on with whatever version it rereads there. If that one was
dispatched or ended meanwhile, it is dispatched again (`repeated_dispatch`):
two calls of `begin` with one key both authorize the pending invocation, and the
slower one finds the result of the other.
-/
import AgentPlatform.Draft.Scripts

namespace AgentPlatform

open Py

namespace Draft

variable {ι : Type} [DecidableEq ι] {w : DraftWorld ι}

/-! ### At most once -/

/-- What is to hold of the dispatches of a run: an invocation is dispatched at
most once; a dispatch was recorded by the process that sent it, in a move from
`REQUESTED` or `REQUESTED_AWAITING_CONTENT`; and a call that is about to
dispatch finds no version of the invocation that was rejected, that failed
before its dispatch, or that was dispatched. -/
structure DispatchedOnce (w : DraftWorld ι) : Prop where
  once : ∀ key, (w.state.sent.filter fun d => d.key = key).length ≤ 1
  recorded : ∀ d ∈ w.state.sent, d.Recorded w.state
  open_ : ∀ i recorded request credential k,
    w.calls i = some (.call (.dispatch recorded request credential) k) →
    w.state.WrittenBy i recorded ∧ ¬ w.state.Dispatched recorded.key
      ∧ ∀ v ∈ w.state.history recorded.key, v.state ≠ .rejected ∧ v.state ≠ .rejectedByUser
        ∧ v.state ≠ .failedPreDispatch

/-- Where a lost write of `REQUESTED` rereads a version, that version is
dispatchable or has no binding. -/
def dispatchCare : Care := { requested := true }

omit [DecidableEq ι] in
/-- No version around a waiting dispatch has ended. -/
theorem Waiting.not_ended {c : Care} {s : State ι} {i : ι} {r v : DraftInvocation} (hi : Inv c s)
    (hw : Waiting s i r) (hv : v ∈ s.history r.key) :
    v.state ≠ .rejected ∧ v.state ≠ .rejectedByUser ∧ v.state ≠ .failedPreDispatch := by
  obtain ⟨p, hp, hpn, hready⟩ := hw.ready
  rcases Nat.lt_trichotomy v.aggregateVersion r.aggregateVersion with hlt | heq | hgt
  · have hle := hi.phase_le hv hp (by omega)
    rw [DraftInvocationState.phase_ready.mpr hready] at hle
    refine ⟨?_, ?_, ?_⟩ <;> (intro h; rw [h] at hle; exact absurd hle (by decide))
  · have := hi.valid.eq_of_version hv hw.stored heq
    rw [this, hw.state]
    exact ⟨by decide, by decide, by decide⟩
  · rw [hw.later v hv hgt]
    exact ⟨by decide, by decide, by decide⟩

/-- **At most one dispatch of an invocation**, by the process that recorded it. -/
theorem dispatched_once (h : Run dispatchCare (start ι) w) : DispatchedOnce w := by
  have hholds := holds_run h
  have hi : Inv dispatchCare w.state := hholds.inv
  refine ⟨fun key => length_filter_map_le_one (hi.once rfl) key, hi.sent rfl,
    fun i recorded request credential k hcall => ?_⟩
  have hw : Waiting w.state i recorded := hholds.asked hcall rfl
  exact ⟨hw.writer, hw.unsent, fun v hv => hw.not_ended hi hv⟩

/-! ### A sample -/

namespace Sample

def binding : ExactModelBinding := ⟨"model", "model-1", "d"⟩

def profile : ProfileRevision where
  profileRevisionId := "profile-1"
  profileDigest := "d"
  scope := ⟨"tenant", "domain"⟩
  binding
  providerId := "provider"
  providerRevisionId := "provider-1"
  providerDigest := "d"
  endpointId := "endpoint"
  endpointRevisionId := "endpoint-1"
  endpointDigest := "d"
  connectionProfileId := "connection"
  connectionProfileRevisionId := "connection-1"
  connectionProfileDigest := "d"
  adapterId := "adapter"
  adapterRevision := "adapter-1"
  maximumInputBytes := 16384

def service : DraftAssistanceService where
  profile
  replayWindow := 86400 * 1000000
  synthetic := true
  hasPricing := false
  hasSettlement := false
  hasGuard := false

def context : RequestContext := ⟨"tenant", "domain", "user"⟩

def now : Datetime := ⟨0, zero_lt_maxMicros⟩

def request : DraftAssistanceService.BeginRequest := { key := "key", content := "a draft" }

/-- The identifier of the sample invocation. -/
def invocationId : String := "draft-invocation:1"

def resolved : ResolvedModelBinding where
  binding
  provider := ⟨"provider", "provider-1", "d"⟩
  endpoint := ⟨"endpoint", "endpoint-1", "d"⟩
  connectionProfile := ⟨"connection", "connection-1", "d"⟩
  allowsNewUse := true
  highWater := 1

/-- What the ports give where nothing else is said. -/
def portValue : (op : Op) → Value op
  | .getByKey .. | .getContextHead .. | .get .. | .compareAndSet .. | .reread .. => none
  | .claim candidate => (candidate, false)
  | .clock => now
  | .identity kind => kind ++ ":1"
  | .activePepper => ("pepper", "1", List.replicate 32 7)
  | .resolvePepper .. => some (List.replicate 32 7)
  | .authorize .. => ⟨.allowed, "request", none, "decision", none, 1, 1⟩
  | .canRead .. | .canCancel .. => true
  | .admission .. => some ⟨"admission", 1, ⟨1, one_lt_maxMicros⟩⟩
  | .resolveExact .. => resolved
  | .prepare .. => ⟨"payload", ⟨1, 1, 0, by decide⟩⟩
  | .recordRequested .. | .reserve .. | .appendEvidence .. => "reference"
  | .pricing => ⟨[], rfl, rfl⟩
  | .resolveCredential .. => "credential"
  | .enterGuard .. | .leaveGuard | .recordUsage .. | .recordObservation .. | .attachEvidence .. => ()
  | .dispatch .. | .observe .. | .cancel .. => { observationId := "observation", state := .unknown }
  | .readSettlement _ => "PENDING_RECONCILIATION"

/-- The ports where the provider answers with `o`. -/
def provider (o : ProviderObservation) : (op : Op) → Answer op
  | .dispatch .. | .observe .. | .cancel .. => .ok o
  | op => .ok (portValue op)

def success : ProviderObservation where
  observationId := "observation"
  state := .succeeded
  correlation := some "correlation"
  resultKind := some .draftReady
  title := some "title"
  description := some "description"

def begin_ : Call Reply := service.begin_ context request

theorem isCall_begin {c : Care} : IsCall c begin_ := .begin_ service context request

/-- The first call of the key, up to its dispatch. -/
def dispatching (i : Bool) : Moves Bool := .start i begin_ :: (steps i 19 (provider success) ++ [])

/-- `dispatched_once` in a run with a dispatch. -/
theorem dispatched_once_of_begin : ∃ w, Run dispatchCare (start Bool) w
    ∧ w.state.sent.length = 1 ∧ DispatchedOnce w := by
  obtain ⟨w, m, hrun, hm, hp⟩ := run_of_script dispatchCare (dispatching true)
    (p := fun m => decide (m.state.sent.length = 1)) (calls_nil.steps.start isCall_begin)
    (by decide +kernel)
  exact ⟨w, hrun, hm.state.sent ▸ of_decide_eq_true hp, dispatched_once hrun⟩

/-- Two calls of one key: `true` claims it and has its model binding resolved,
`false` finds the pending invocation, authorizes it and has it answered. Then
`true` loses its write of `REQUESTED` and goes on from the answered version. -/
def overtaken : Moves Bool :=
  .start true begin_ :: (steps true 10 (provider success)
    ++ .start false begin_ :: (steps false 17 (provider success)
      ++ (steps true 10 (provider success) ++ [])))

/-- An invocation that has been answered is dispatched again. -/
theorem repeated_dispatch : ∃ w, Run {} (start Bool) w ∧ ¬ DispatchedOnce w := by
  obtain ⟨w, m, hrun, hm, hp⟩ := run_of_script {} overtaken
    (p := fun m => decide (2 ≤ (m.state.sent.filter fun d =>
      d.key = (profile.scope, invocationId)).length))
    (((calls_nil.steps.steps.start isCall_begin).steps).start isCall_begin) (by decide +kernel)
  rw [hm.state.sent] at hp
  exact ⟨w, hrun, fun h => absurd (of_decide_eq_true hp)
    (Nat.not_le.mpr (Nat.lt_succ_of_le (h.once _)))⟩

end Sample

end Draft

end AgentPlatform
