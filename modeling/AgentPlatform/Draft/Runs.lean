/-
AgentPlatform/Draft/Runs.lean

Calls of the draft assistance service by several processes over one repository,
and what a stored version says about the one before it.

An operation of the repository is a transaction; it may also fail, before or
after its commit. A port answers in any way. Besides the tables the state
keeps who stored a version, which dispatches were sent to the provider, and
which observations were received from it.

`Edge` is the relation of a version to the next one: every write of the service
has one of its eleven forms, and the state it starts from. The relation depends
on a `Care`, the conditions under which a run is looked at. **Main result:**
`draftLogic`, the rely-guarantee logic in which each write follows an edge and
each dispatch was recorded by the process that sends it.
-/
import AgentPlatform.Draft.Repository
import AgentPlatform.Draft.Service

namespace AgentPlatform

open Py

namespace Draft

variable {ι : Type}

/-! ### The state of a run -/

/-- A call of `transport.dispatch`: the process, and the version that recorded it. -/
structure Sent (ι : Type) where
  process : ι
  recorded : DraftInvocation

def Sent.key (d : Sent ι) : InvocationKey := d.recorded.key

structure State (ι : Type) where
  tables : Tables := {}
  /-- The process that stored a version. -/
  writer : InvocationKey × Nat → Option ι := fun _ => none
  /-- The write that stored a version, if it was not the claim. -/
  site : InvocationKey × Nat → Option Site := fun _ => none
  sent : List (Sent ι) := []
  heard : List (InvocationKey × ProviderObservation) := []

namespace State

/-- Process `i` has stored `r`. -/
def write (s : State ι) (i : ι) (site : Option Site) (r : DraftInvocation) (t : Tables) : State ι :=
  { s with
    tables := t
    writer := Function.update s.writer (r.key, r.aggregateVersion) (some i)
    site := Function.update s.site (r.key, r.aggregateVersion) site }

/-- An answer of the provider about an invocation. -/
def hear (s : State ι) (key : InvocationKey) : Except Fault ProviderObservation → State ι
  | .ok o => { s with heard := s.heard ++ [(key, o)] }
  | .error _ => s

def history (s : State ι) (key : InvocationKey) : List DraftInvocation := s.tables.history key

def Stored (s : State ι) (r : DraftInvocation) : Prop := r ∈ s.history r.key

def WrittenBy (s : State ι) (i : ι) (r : DraftInvocation) : Prop :=
  s.writer (r.key, r.aggregateVersion) = some i

def Heard (s : State ι) (key : InvocationKey) (o : ProviderObservation) : Prop :=
  (key, o) ∈ s.heard

def Dispatched (s : State ι) (key : InvocationKey) : Prop := ∃ d ∈ s.sent, d.key = key

end State

/-- What an operation of process `i` does, and which answers it may give. -/
def Performs (i : ι) : (op : Op) → State ι → Answer op → State ι → Prop
  | .getByKey scope principalId key, s, a, s' =>
    s' = s ∧ (a = s.tables.getByKey scope principalId key ∨ ∃ e, a = .error e)
  | .getContextHead scope contextId, s, a, s' =>
    s' = s ∧ (a = s.tables.getContextHead scope contextId ∨ ∃ e, a = .error e)
  | .get scope invocationId, s, a, s' =>
    s' = s ∧ (a = s.tables.get scope invocationId ∨ ∃ e, a = .error e)
  | .reread _ lost, s, a, s' =>
    s' = s ∧ (a = s.tables.get lost.scope lost.invocationId ∨ ∃ e, a = .error e)
  | .claim candidate, s, a, s' =>
    (∃ answer won t, s.tables.claim candidate = .ok ((answer, won), t)
      ∧ s' = (if won then s.write i none candidate t else s)
      ∧ (a = .ok (answer, won) ∨ ∃ e, a = .error e))
    ∨ ((∃ e, a = .error e) ∧ s' = s)
  | .compareAndSet site expected replacement, s, a, s' =>
    (∃ answer t, s.tables.compareAndSet expected replacement = .ok (answer, t)
      ∧ s' = (if answer.isSome then s.write i (some site) replacement t else s)
      ∧ (a = .ok answer ∨ ∃ e, a = .error e))
    ∨ ((∃ e, a = .error e) ∧ s' = s)
  | .dispatch recorded _ _, s, a, s' =>
    s' = State.hear { s with sent := s.sent ++ [⟨i, recorded⟩] } recorded.key a
  | .observe value _, s, a, s' => s' = s.hear value.key a
  | .cancel value _, s, a, s' => s' = s.hear value.key a
  | _, s, _, s' => s' = s

/-! ### Conditions on a run -/

/-- Which of the conditions a run is to meet. -/
structure Care where
  /-- Where the write of `REQUESTED` loses, the version reread is one that may
  be dispatched, or one without a binding. -/
  requested : Bool := false
  /-- The provider is asked to observe or to cancel an unsettled invocation
  only, and its observations have identifiers. -/
  settled : Bool := false
  /-- Where the write of an observation loses, that observation is recorded by a
  stored version, and its content is returned with a version of its success
  only; and observations are consistent. -/
  recorded : Bool := false
  /-- The identity factory gives no empty text. -/
  named : Bool := false

/-- Dispatchable states. -/
def DraftInvocationState.Ready (state : DraftInvocationState) : Prop :=
  state = .requested ∨ state = .requestedAwaitingContent

/-- The states that an invocation is not to leave. -/
def DraftInvocationState.Settled (state : DraftInvocationState) : Prop :=
  state = .rejected ∨ state = .failedPreDispatch ∨ state = .rejectedByUser
    ∨ state = .conflictReviewRequired

instance (state : DraftInvocationState) : Decidable state.Settled :=
  inferInstanceAs (Decidable (_ ∨ _ ∨ _ ∨ _))

/-- The observation carries no content. -/
def ProviderObservation.Bare (o : ProviderObservation) : Prop :=
  o.clarificationQuestion = none ∧ o.title = none ∧ o.description = none ∧ o.understanding = none

/-- The conditions on an observation that is received of an invocation. -/
structure Consistent (s : State ι) (key : InvocationKey) (o : ProviderObservation) : Prop where
  same : ∀ o', s.Heard key o' → o'.observationId = o.observationId →
    o'.correlation = o.correlation ∧ o'.measurement = o.measurement
  bare : o.state ≠ .succeeded → o.Bare

/-- The condition on an answer of the provider. -/
def Care.Receives (c : Care) (s : State ι) (key : InvocationKey) :
    Except Fault ProviderObservation → Prop
  | .ok o => (c.settled = true → o.observationId ≠ "") ∧ (c.recorded = true → Consistent s key o)
  | .error _ => True

/-- The version has this observation as its last one, and is a success. -/
def ProviderObservation.SucceededIn (o : ProviderObservation) (v : DraftInvocation) : Prop :=
  v.state = .succeeded ∧ v.lastObservationId = some o.observationId

instance (o : ProviderObservation) (v : DraftInvocation) : Decidable (o.SucceededIn v) :=
  inferInstanceAs (Decidable (_ ∧ _))

/-- A stored version has this observation as its last one. -/
def State.Knows (s : State ι) (key : InvocationKey) (o : ProviderObservation) : Prop :=
  ∃ r ∈ s.history key, r.lastObservationId = some o.observationId

/-- The condition on the version `v` that is reread where a write loses. -/
def Care.Rereads (c : Care) (s : State ι) : Site → DraftInvocation → Prop
  | .requested, v => c.requested = true → v.state.Ready ∨ v.snapshot = none
  | .conflict o, v => c.recorded = true → s.Knows v.key o ∨ v.state = .conflictReviewRequired
  | .observation o, v => c.recorded = true → s.Knows v.key o ∧ (o.state = .succeeded → o.SucceededIn v)
  | .answer o, v => c.recorded = true → o.state = .succeeded → o.SucceededIn v
  | _, _ => True

/-- The steps of a run that meets the conditions. -/
def Care.Within (c : Care) (_ : ι) : (op : Op) → Answer op → State ι → Prop
  | .reread site _, .ok (some v), s => c.Rereads s site v
  | .dispatch recorded _ _, a, s => c.Receives s recorded.key a
  | .observe value _, a, s =>
    (c.settled = true → ¬ value.state.Settled) ∧ c.Receives s value.key a
  | .cancel value _, a, s =>
    (c.settled = true → ¬ value.state.Settled) ∧ c.Receives s value.key a
  | .identity _, .ok id, _ => c.named = true → id ≠ ""
  | _, _, _ => True

/-- The service over one repository, with any ports. -/
def system (ι : Type) (c : Care) : System ι (State ι) Answer := ⟨Performs, c.Within⟩

/-! ### Edges -/

/-- How far an invocation is: before the request, requested, or beyond. -/
def DraftInvocationState.phase : DraftInvocationState → Nat
  | .authorizationPending => 0
  | .requested | .requestedAwaitingContent => 1
  | _ => 2

theorem DraftInvocationState.phase_ready {state : DraftInvocationState} :
    state.phase = 1 ↔ state.Ready := by
  cases state <;> simp [DraftInvocationState.phase, DraftInvocationState.Ready]

/-- What is known of the provider is the same. -/
structure SameObservation (r r' : DraftInvocation) : Prop where
  providerCorrelation : r'.providerCorrelation = r.providerCorrelation
  measurement : r'.measurement = r.measurement
  terminalObservationId : r'.terminalObservationId = r.terminalObservationId
  lastObservationId : r'.lastObservationId = r.lastObservationId

/-- A version and the next one. `heard` are the observations received of the
invocation, and `own` says that the writer also stored `r`. -/
inductive Edge (c : Care) (heard : ProviderObservation → Prop) (own : Prop) (site : Site)
    (r r' : DraftInvocation) : Prop
  | authorized (start : r.state = .authorizationPending)
      (stop : r'.state = .authorizationPending ∨ r'.state = .rejected
        ∨ r'.state = .failedPreDispatch ∨ r'.state = .requested)
      (same : SameObservation r r') (owner : r'.ownerWriteReasonCode = r.ownerWriteReasonCode)
  | ended (start : c.requested = true → r.state.Ready) (stop : r'.state = .failedPreDispatch)
      (same : SameObservation r r') (owner : r'.ownerWriteReasonCode = r.ownerWriteReasonCode)
  | recorded (start : c.requested = true → r.state.Ready) (stop : r'.state = .dispatchRecorded)
      (same : SameObservation r r') (owner : r'.ownerWriteReasonCode = r.ownerWriteReasonCode)
  | undispatched (start : r.state = .dispatchRecorded) (writer : own)
      (stop : r'.state = .failedPreDispatch ∨ r'.state = .outcomeUnknown)
      (same : SameObservation r r') (owner : r'.ownerWriteReasonCode = r.ownerWriteReasonCode)
  | withdrawn (start : r.state = .authorizationPending ∨ r.state.Ready)
      (stop : r'.state = .rejectedByUser)
      (same : SameObservation r r') (owner : r'.ownerWriteReasonCode = r.ownerWriteReasonCode)
  | cancelled (start : r.state = .dispatchRecorded ∨ r.state = .accepted ∨ r.state = .running
        ∨ r.state = .outcomeUnknown ∨ r.state = .cancellationRequested)
      (stop : r'.state = .cancellationRequested)
      (same : SameObservation r r') (owner : r'.ownerWriteReasonCode = r.ownerWriteReasonCode)
  | rejected (start : r.state = .succeeded ∨ r.state = .failed ∨ r.state = .outcomeUnknown)
      (by_ : site = .rejection) (stop : r'.state = .rejectedByUser)
      (same : SameObservation r r') (owner : r'.ownerWriteReasonCode = r.ownerWriteReasonCode)
  | linked (start : r.state = .succeeded) (unlinked : truthy r.problemId = false)
      (stop : r'.state = .succeeded)
      (same : SameObservation r r') (owner : r'.ownerWriteReasonCode = r.ownerWriteReasonCode)
  | touched (o : ProviderObservation) (received : heard o) (stop : r'.state = r.state)
      (same : SameObservation r r')
  | conflicted (o : ProviderObservation) (received : heard o)
      (start : c.settled = true → ¬ r.state.Settled) (stop : r'.state = .conflictReviewRequired)
      (same : SameObservation r r')
  | observed (o : ProviderObservation) (received : heard o)
      (start : c.settled = true → ¬ r.state.Settled) (unsettled : truthy r.terminalObservationId = false)
      (stop : c.settled = true →
        r'.state = .succeeded ∨ r'.state = .failed ∨ r'.state = .cancellationConfirmed →
        truthy r'.terminalObservationId = true)
      (beyond : r'.state.phase = 2) (identifier : r'.lastObservationId = some o.observationId)
      (correlation : r'.providerCorrelation = o.correlation)
      (measurement : r'.measurement = Document.orElse o.measurement r.measurement)

/-- The problem that a version is linked to is the same. -/
def SameProblem (r r' : DraftInvocation) : Prop :=
  r'.problemId = r.problemId ∧ r'.problemRevisionId = r.problemRevisionId
    ∧ r'.problemDigest = r.problemDigest

/-- A version and the one that a write stores after it. -/
structure Follows (c : Care) (heard : ProviderObservation → Prop) (own : Prop) (site : Site)
    (r r' : DraftInvocation) : Prop where
  origin : r'.origin = r.origin
  version : r'.aggregateVersion = r.aggregateVersion + 1
  edge : Edge c heard own site r r'
  problem : SameProblem r r' ∨ (r.state = .succeeded ∧ r'.state = .succeeded
    ∧ truthy r.problemId = false ∧ (c.settled = true → truthy r'.problemId = true))

variable {c : Care} {heard heard' : ProviderObservation → Prop} {own own' : Prop}
  {site : Site} {r r' : DraftInvocation}

theorem Follows.key (h : Follows c heard own site r r') : r'.key = r.key :=
  DraftInvocation.key_eq_of_origin h.origin

theorem Edge.mono (hheard : ∀ o, heard o → heard' o) (hown : own → own')
    (h : Edge c heard own site r r') : Edge c heard' own' site r r' := by
  cases h with
  | authorized start stop same owner => exact .authorized start stop same owner
  | ended start stop same owner => exact .ended start stop same owner
  | recorded start stop same owner => exact .recorded start stop same owner
  | undispatched start writer stop same owner =>
    exact .undispatched start (hown writer) stop same owner
  | withdrawn start stop same owner => exact .withdrawn start stop same owner
  | cancelled start stop same owner => exact .cancelled start stop same owner
  | rejected start by_ stop same owner => exact .rejected start by_ stop same owner
  | linked start unlinked stop same owner => exact .linked start unlinked stop same owner
  | touched o received stop same => exact .touched o (hheard o received) stop same
  | conflicted o received start stop same =>
    exact .conflicted o (hheard o received) start stop same
  | observed o received start unsettled stop beyond identifier correlation measurement =>
    exact .observed o (hheard o received) start unsettled stop beyond identifier correlation
      measurement

/-- Without an observation, an edge keeps what is known of the provider. -/
theorem Edge.of_unheard (h : Edge c heard own site r r') (hheard : ∀ o, ¬ heard o) :
    SameObservation r r' ∧ r'.ownerWriteReasonCode = r.ownerWriteReasonCode := by
  cases h with
  | authorized _ _ same owner => exact ⟨same, owner⟩
  | ended _ _ same owner => exact ⟨same, owner⟩
  | recorded _ _ same owner => exact ⟨same, owner⟩
  | undispatched _ _ _ same owner => exact ⟨same, owner⟩
  | withdrawn _ _ same owner => exact ⟨same, owner⟩
  | cancelled _ _ same owner => exact ⟨same, owner⟩
  | rejected _ _ _ same owner => exact ⟨same, owner⟩
  | linked _ _ _ same owner => exact ⟨same, owner⟩
  | touched o received => exact absurd received (hheard o)
  | conflicted o received => exact absurd received (hheard o)
  | observed o received => exact absurd received (hheard o)

/-- An edge records an observation or keeps what is known of the provider. -/
theorem Edge.observation (h : Edge c heard own site r r') :
    SameObservation r r' ∨ ∃ o, heard o ∧ r'.lastObservationId = some o.observationId
      ∧ r'.providerCorrelation = o.correlation
      ∧ r'.measurement = Document.orElse o.measurement r.measurement := by
  cases h with
  | authorized _ _ same _ => exact .inl same
  | ended _ _ same _ => exact .inl same
  | recorded _ _ same _ => exact .inl same
  | undispatched _ _ _ same _ => exact .inl same
  | withdrawn _ _ same _ => exact .inl same
  | cancelled _ _ same _ => exact .inl same
  | rejected _ _ _ same _ => exact .inl same
  | linked _ _ _ same _ => exact .inl same
  | touched _ _ _ same => exact .inl same
  | conflicted _ _ _ _ same => exact .inl same
  | observed o received _ _ _ _ identifier correlation measurement =>
    exact .inr ⟨o, received, identifier, correlation, measurement⟩

/-- An invocation is never taken back. -/
theorem Edge.phase_le (h : Edge c heard own site r r') :
    r.state.phase ≤ r'.state.phase := by
  have hle : ∀ state : DraftInvocationState, state.phase ≤ 2 := by
    intro state
    cases state <;> simp [DraftInvocationState.phase]
  have hend : r'.state.phase = 2 → r.state.phase ≤ r'.state.phase := fun h2 => h2 ▸ hle _
  cases h with
  | authorized start stop =>
    rw [start]
    exact Nat.zero_le _
  | ended start stop => exact hend (by rw [stop]; rfl)
  | recorded start stop => exact hend (by rw [stop]; rfl)
  | undispatched start writer stop => exact hend (by rcases stop with h | h <;> (rw [h]; rfl))
  | withdrawn start stop => exact hend (by rw [stop]; rfl)
  | cancelled start stop => exact hend (by rw [stop]; rfl)
  | rejected start by_ stop => exact hend (by rw [stop]; rfl)
  | linked start unlinked stop => exact hend (by rw [stop]; rfl)
  | touched o received stop => exact Nat.le_of_eq (by rw [stop])
  | conflicted o received start stop => exact hend (by rw [stop]; rfl)
  | observed o received start unsettled stop beyond => exact hend beyond

/-! ### The invariant -/

/-- A version as it is claimed. -/
structure DraftInvocation.Fresh (r : DraftInvocation) : Prop where
  version : r.aggregateVersion = 1
  state : r.state = .authorizationPending
  providerCorrelation : r.providerCorrelation = none
  terminalObservationId : r.terminalObservationId = none
  lastObservationId : r.lastObservationId = none
  ownerWriteReasonCode : r.ownerWriteReasonCode = none
  problemId : r.problemId = none
  committed : ∃ context request pepper,
    DraftAssistanceService.ClaimedBy context request pepper r
  algorithm : r.commitmentAlgorithm = "HMAC-SHA-256"

/-- The turn of an invocation is the first of its context, or it names a stored
turn of its context as parent and has the next version. The ordinal is the
version. -/
structure Continues (s : State ι) (r : DraftInvocation) : Prop where
  contextId : r.contextId ≠ ""
  ordinal : r.turnOrdinal = r.turnVersion
  parent : (r.parentTurnId = none ∧ r.turnVersion = 1)
    ∨ ∃ v, s.Stored v ∧ v.scope = r.scope ∧ v.contextId = r.contextId
      ∧ r.parentTurnId = some v.turnId ∧ r.turnVersion = v.turnVersion + 1

/-- The version records the observation: its identifier and correlation, and
its measurement if it has one. -/
structure Records (r : DraftInvocation) (o : ProviderObservation) : Prop where
  identifier : r.lastObservationId = some o.observationId
  correlation : r.providerCorrelation = o.correlation
  measurement : ∀ m, o.measurement = some m → m.fields ≠ [] → r.measurement = some m

/-- Process `i` has recorded the dispatch of `r` and has not sent it yet: from
there the invocation was only asked to be cancelled. -/
structure Waiting (s : State ι) (i : ι) (r : DraftInvocation) : Prop where
  stored : s.Stored r
  state : r.state = .dispatchRecorded
  writer : s.WrittenBy i r
  ready : ∃ p ∈ s.history r.key, r.aggregateVersion = p.aggregateVersion + 1 ∧ p.state.Ready
  later : ∀ v ∈ s.history r.key, r.aggregateVersion < v.aggregateVersion →
    v.state = .cancellationRequested
  unsent : ¬ s.Dispatched r.key

/-- A dispatch that was sent was recorded by the process that sent it, from a
dispatchable version. -/
structure Sent.Recorded (s : State ι) (d : Sent ι) : Prop where
  stored : s.Stored d.recorded
  state : d.recorded.state = .dispatchRecorded
  writer : s.WrittenBy d.process d.recorded
  ready : ∃ p ∈ s.history d.key, d.recorded.aggregateVersion = p.aggregateVersion + 1
    ∧ p.state.Ready

structure Inv (c : Care) (s : State ι) : Prop where
  valid : s.tables.Valid
  first : ∀ key, ∀ r ∈ s.history key, r.aggregateVersion = 1 → r.Fresh
  follows : ∀ key, ∀ r ∈ s.history key, ∀ r' ∈ s.history key,
    r'.aggregateVersion = r.aggregateVersion + 1 →
    ∃ site, s.site (r'.key, r'.aggregateVersion) = some site
      ∧ Follows c (fun _ => True) True site r r'
  told : ∀ key, ∀ r ∈ s.history key, ∀ id, r.lastObservationId = some id →
    ∃ o, s.Heard key o ∧ o.observationId = id ∧ Records r o
  heard : ∀ key o, s.Heard key o → s.Dispatched key
  silent : ∀ key, (∀ o, ¬ s.Heard key o) → ∀ r ∈ s.history key,
    truthy r.providerCorrelation = false ∧ r.ownerWriteReasonCode = none
  agree : c.recorded = true → ∀ key o o', s.Heard key o → s.Heard key o' →
    o.observationId = o'.observationId → o.correlation = o'.correlation ∧ o.measurement = o'.measurement
  sent : c.requested = true → ∀ d ∈ s.sent, d.Recorded s
  once : c.requested = true → (s.sent.map Sent.key).Nodup
  turns : c.named = true → ∀ key, ∀ r ∈ s.history key, Continues s r

/-- What is stored, heard and sent stays so. -/
structure Grows (s s' : State ι) : Prop where
  history : ∀ key, s.history key <+: s'.history key
  writer : ∀ i r, s.Stored r → s.WrittenBy i r → s'.WrittenBy i r
  site : ∀ r, s.Stored r → s'.site (r.key, r.aggregateVersion) = s.site (r.key, r.aggregateVersion)
  heard : ∀ key o, s.Heard key o → s'.Heard key o
  dispatched : ∀ key, s.Dispatched key → s'.Dispatched key

theorem Grows.refl (s : State ι) : Grows s s :=
  ⟨fun _ => List.prefix_refl _, fun _ _ _ h => h, fun _ _ => rfl, fun _ _ h => h, fun _ h => h⟩

theorem Grows.stored {s s' : State ι} (h : Grows s s') {r : DraftInvocation} (hr : s.Stored r) :
    s'.Stored r :=
  (h.history r.key).subset hr

theorem Continues.grows {s s' : State ι} {r : DraftInvocation} (h : Continues s r)
    (hs : Grows s s') : Continues s' r :=
  ⟨h.contextId, h.ordinal, h.parent.imp_right fun ⟨v, hv, hrest⟩ => ⟨v, hs.stored hv, hrest⟩⟩

theorem Continues.of_origin {s : State ι} {r r' : DraftInvocation} (h : Continues s r)
    (ho : r'.origin = r.origin) : Continues s r' := by
  have hcontext : r'.contextId = r.contextId := congrArg Origin.contextId ho
  have hordinal : r'.turnOrdinal = r.turnOrdinal := congrArg Origin.turnOrdinal ho
  have hversion : r'.turnVersion = r.turnVersion := congrArg Origin.turnVersion ho
  have hscope : r'.scope = r.scope := congrArg Origin.scope ho
  have hparent : r'.parentTurnId = r.parentTurnId := congrArg Origin.parentTurnId ho
  refine ⟨?_, ?_, ?_⟩
  · rw [hcontext]
    exact h.contextId
  · rw [hordinal, hversion]
    exact h.ordinal
  · rw [hparent, hversion, hscope, hcontext]
    exact h.parent

theorem Grows.trans {s s' s'' : State ι} (h : Grows s s') (h' : Grows s' s'') : Grows s s'' where
  history key := (h.history key).trans (h'.history key)
  writer i r hr hw := h'.writer i r (h.stored hr) (h.writer i r hr hw)
  site r hr := (h'.site r (h.stored hr)).trans (h.site r hr)
  heard key o ho := h'.heard key o (h.heard key o ho)
  dispatched key hd := h'.dispatched key (h.dispatched key hd)

/-- What process `i` relies on: the others do not send what it recorded, nor
take the invocation anywhere but to a cancellation request. -/
structure Relies (c : Care) (i : ι) (s s' : State ι) : Prop where
  grows : Grows s s'
  waits : c.requested = true → ∀ r, Waiting s i r → Waiting s' i r

/-- What holds of the state where process `i` asks for an operation. -/
def Guard (c : Care) (i : ι) : Op → State ι → Prop
  | .claim candidate, s => candidate.Fresh ∧ (c.named = true → Continues s candidate)
  | .compareAndSet site expected replacement, s => ∃ r, s.Stored r ∧ r.aggregateVersion = expected
      ∧ Follows c (s.Heard r.key) (s.WrittenBy i r) site r replacement
  | .dispatch recorded _ _, s => c.requested = true → Waiting s i recorded
  | .observe value _, s | .cancel value _, s =>
      s.Stored value ∧ truthy value.providerCorrelation = true
  | _, _ => True

/-! ### Histories -/

section Invariant

variable {s s' : State ι} {i j : ι} {key : InvocationKey} {v p : DraftInvocation} {t : Tables}
  {site? : Option Site}

theorem Inv.key_eq (hi : Inv c s) (h : r ∈ s.history key) : r.key = key := hi.valid.key_eq h

theorem Inv.stored (hi : Inv c s) (h : r ∈ s.history key) : s.Stored r := by
  rw [State.Stored, hi.key_eq h]
  exact h

theorem Inv.version_bounds (hi : Inv c s) (h : r ∈ s.history key) :
    1 ≤ r.aggregateVersion ∧ r.aggregateVersion ≤ (s.history key).length := by
  obtain ⟨n, hn, rfl⟩ := List.getElem_of_mem h
  have hnum := hi.valid.numbered key n hn
  simp only [List.get_eq_getElem] at hnum
  have hn' : n < (s.history key).length := hn
  change 1 ≤ ((s.tables.history key)[n]).aggregateVersion
    ∧ ((s.tables.history key)[n]).aggregateVersion ≤ _
  omega

/-- There is a version of every number up to the last. -/
theorem Inv.exists_version (hi : Inv c s) (key : InvocationKey) {n : Nat} (h1 : 1 ≤ n) (hn : n ≤ (s.history key).length) :
    ∃ r ∈ s.history key, r.aggregateVersion = n := by
  have hlt : n - 1 < (s.history key).length := by omega
  refine ⟨(s.history key)[n - 1], List.getElem_mem hlt, ?_⟩
  have hnum := hi.valid.numbered key (n - 1) hlt
  simp only [List.get_eq_getElem] at hnum
  change ((s.tables.history key)[n - 1]).aggregateVersion = n
  omega

/-- Along a history the phase does not fall. -/
theorem Inv.phase_le (hi : Inv c s) (h : r ∈ s.history key) (h' : r' ∈ s.history key)
    (hle : r.aggregateVersion ≤ r'.aggregateVersion) : r.state.phase ≤ r'.state.phase := by
  obtain ⟨d, hd⟩ := Nat.exists_eq_add_of_le hle
  clear hle
  induction d generalizing r' with
  | zero => exact Nat.le_of_eq (by rw [hi.valid.eq_of_version h' h hd])
  | succ d ih =>
    have hbounds := hi.version_bounds h
    have hbounds' := hi.version_bounds h'
    obtain ⟨q, hq, hqn⟩ : ∃ q ∈ s.history key, q.aggregateVersion = r.aggregateVersion + d :=
      hi.exists_version _ (by omega) (by omega)
    obtain ⟨site, -, hstep⟩ := hi.follows key q hq r' h' (by omega)
    exact Nat.le_trans (ih hq hqn) hstep.edge.phase_le

theorem Inv.recorded_unique (hi : Inv c s) (hr : r ∈ s.history key) (hv : v ∈ s.history key)
    (hrs : r.state = .dispatchRecorded) (hvs : v.state = .dispatchRecorded)
    (hrp : ∃ p ∈ s.history key, r.aggregateVersion = p.aggregateVersion + 1 ∧ p.state.Ready)
    (hvp : ∃ p ∈ s.history key, v.aggregateVersion = p.aggregateVersion + 1 ∧ p.state.Ready) :
    r = v := by
  -- a dispatchable version after a recorded one would take the invocation back
  have hno : ∀ {a b : DraftInvocation}, a ∈ s.history key → a.state = .dispatchRecorded →
      (∃ p ∈ s.history key, b.aggregateVersion = p.aggregateVersion + 1 ∧ p.state.Ready) →
      ¬ a.aggregateVersion < b.aggregateVersion := by
    rintro a b ha hstate ⟨p, hp, hpn, hready⟩ hlt
    have hle := hi.phase_le ha hp (by omega)
    rw [hstate, DraftInvocationState.phase_ready.mpr hready] at hle
    exact absurd hle (by decide)
  have h1 := hno hr hrs hvp
  have h2 := hno hv hvs hrp
  exact hi.valid.eq_of_version hr hv (by omega)

/-! ### Writes -/

/-- What `r'` is appended to: nothing, or the version that it follows. -/
def Appends (c : Care) (s : State ι) (i : ι) (site? : Option Site) (r' : DraftInvocation) : Prop :=
  (s.history r'.key = [] ∧ r'.Fresh ∧ (c.named = true → Continues s r'))
  ∨ ∃ r, (s.history r'.key).getLast? = some r ∧ ∃ site, site? = some site
      ∧ Follows c (s.Heard r.key) (s.WrittenBy i r) site r r'

theorem Appends.number (hi : Inv c s) (h : Appends c s i site? r') :
    r'.aggregateVersion = (s.history r'.key).length + 1 := by
  rcases h with ⟨hnil, hfresh, -⟩ | ⟨r, hlast, site, hsite, hf⟩
  · rw [hfresh.version, hnil]
    rfl
  · rw [hf.version, hi.valid.last_version hlast]
    rfl

/-- The number of a new version is not taken. -/
theorem Appends.number_ne (hi : Inv c s) (h : Appends c s i site? r') (hr : s.Stored r) :
    (r.key, r.aggregateVersion) ≠ (r'.key, r'.aggregateVersion) := by
  intro heq
  obtain ⟨hk, hn⟩ := Prod.mk.inj heq
  have hbounds := hi.version_bounds hr
  rw [h.number hi, ← hk] at hn
  omega

theorem history_write (ht : t.versions = s.tables.versions ++ [VersionRow.of r'])
    (key : InvocationKey) :
    (s.write i site? r' t).history key = s.history key ++ if r'.key = key then [r'] else [] :=
  Tables.history_append ht key

theorem mem_history_write (ht : t.versions = s.tables.versions ++ [VersionRow.of r']) :
    v ∈ (s.write i site? r' t).history key ↔ v ∈ s.history key ∨ (r'.key = key ∧ v = r') := by
  rw [history_write ht]
  by_cases hk : r'.key = key <;> simp [hk]

theorem Grows.write (hi : Inv c s) (hx : Appends c s i site? r')
    (ht : t.versions = s.tables.versions ++ [VersionRow.of r']) : Grows s (s.write i site? r' t) where
  history key := by
    rw [history_write ht]
    exact List.prefix_append _ _
  writer j r hr hw := by
    change Function.update s.writer _ _ _ = some j
    rw [Function.update_of_ne (hx.number_ne hi hr)]
    exact hw
  site r hr := Function.update_of_ne (hx.number_ne hi hr) ..
  heard _ _ h := h
  dispatched _ h := h

/-- **A write keeps the invariant.** -/
theorem Inv.write (hi : Inv c s) (hx : Appends c s i site? r')
    (ht : t.versions = s.tables.versions ++ [VersionRow.of r']) (hv : t.Valid) :
    Inv c (s.write i site? r' t) where
  valid := hv
  first := by
    intro key r hr hn
    rcases (mem_history_write ht).mp hr with hr | ⟨rfl, rfl⟩
    · exact hi.first key r hr hn
    · rcases hx with ⟨-, hfresh, -⟩ | ⟨q, hlast, site, hsite, hf⟩
      · exact hfresh
      · have hq := hi.version_bounds (List.mem_of_getLast? hlast)
        have := hf.version
        omega
  follows := by
    intro key r hr v hv hn
    rcases (mem_history_write ht).mp hr with hr | ⟨rfl, rfl⟩
    · rcases (mem_history_write ht).mp hv with hv | ⟨rfl, rfl⟩
      · obtain ⟨site, hsite, hf⟩ := hi.follows key r hr v hv hn
        exact ⟨site, ((Grows.write hi hx ht).site v (hi.stored hv)).trans hsite, hf⟩
      · rcases hx with ⟨hnil, -⟩ | ⟨q, hlast, site, hsite, hf⟩
        · rw [hnil] at hr
          cases hr
        · have hq : r = q := by
            refine hi.valid.eq_of_version hr (List.mem_of_getLast? hlast) ?_
            have := hf.version
            omega
          subst hq
          exact ⟨site, (Function.update_self ..).trans hsite, hf.origin, hf.version,
            hf.edge.mono (fun _ _ => trivial) fun _ => trivial, hf.problem⟩
    · have hnum := hx.number hi
      rcases (mem_history_write ht).mp hv with hv | ⟨-, rfl⟩
      · have := hi.version_bounds hv
        omega
      · omega
  told := by
    intro key r hr id hid
    rcases (mem_history_write ht).mp hr with hr | ⟨rfl, rfl⟩
    · exact hi.told key r hr id hid
    · rcases hx with ⟨-, hfresh, -⟩ | ⟨q, hlast, site, hsite, hf⟩
      · rw [hfresh.lastObservationId] at hid
        cases hid
      · rcases hf.edge.observation with hsame | ⟨o, ho, hident, hcorr, hmeas⟩
        · obtain ⟨o, ho, hoid, hrec⟩ := hi.told _ q (List.mem_of_getLast? hlast) id
            (hsame.lastObservationId ▸ hid)
          refine ⟨o, ho, hoid, hsame.lastObservationId.trans hrec.identifier,
            hsame.providerCorrelation.trans hrec.correlation, fun m hm hne => ?_⟩
          exact hsame.measurement.trans (hrec.measurement m hm hne)
        · rw [hident] at hid
          cases hid
          have hkey := hf.key
          refine ⟨o, hkey ▸ ho, rfl, hident, hcorr, fun m hm hne => ?_⟩
          rw [hmeas, hm, Document.orElse, if_neg hne]
  heard := hi.heard
  silent := by
    intro key hheard r hr
    rcases (mem_history_write ht).mp hr with hr | ⟨rfl, rfl⟩
    · exact hi.silent key hheard r hr
    · rcases hx with ⟨-, hfresh, -⟩ | ⟨q, hlast, site, hsite, hf⟩
      · rw [hfresh.providerCorrelation, hfresh.ownerWriteReasonCode]
        exact ⟨rfl, rfl⟩
      · obtain ⟨hsame, howner⟩ := hf.edge.of_unheard fun o ho => hheard o (hf.key ▸ ho)
        have hq := hi.silent _ hheard q (List.mem_of_getLast? hlast)
        rw [hsame.providerCorrelation, howner]
        exact hq
  agree := hi.agree
  sent := by
    intro hc d hd
    obtain ⟨hstored, hstate, hwriter, p, hp, hpn, hready⟩ := hi.sent hc d hd
    have hgrows := Grows.write hi hx ht
    exact ⟨hgrows.stored hstored, hstate, hgrows.writer _ _ hstored hwriter, p,
      (hgrows.history _).subset hp, hpn, hready⟩
  once := hi.once
  turns := by
    intro hc key r hr
    have hgrows := Grows.write hi hx ht
    rcases (mem_history_write ht).mp hr with hr | ⟨rfl, rfl⟩
    · exact (hi.turns hc key r hr).grows hgrows
    · rcases hx with ⟨-, -, hcontinues⟩ | ⟨q, hlast, site, hsite, hf⟩
      · exact (hcontinues hc).grows hgrows
      · exact ((hi.turns hc _ q (List.mem_of_getLast? hlast)).of_origin hf.origin).grows hgrows

/-- **A write by another process keeps waiting** what is waiting. -/
theorem Waiting.write (hi : Inv c s) (hc : c.requested = true) (hw : Waiting s j v) (hne : j ≠ i)
    (hx : Appends c s i site? r') (ht : t.versions = s.tables.versions ++ [VersionRow.of r']) :
    Waiting (s.write i site? r' t) j v := by
  have hgrows := Grows.write hi hx ht
  obtain ⟨p, hp, hpn, hready⟩ := hw.ready
  refine ⟨hgrows.stored hw.stored, hw.state, hgrows.writer _ _ hw.stored hw.writer,
    ⟨p, (hgrows.history _).subset hp, hpn, hready⟩, fun u hu hlt => ?_, hw.unsent⟩
  rcases (mem_history_write ht).mp hu with hu | ⟨hkey, rfl⟩
  · exact hw.later u hu hlt
  -- the new version follows the last one, which is the waiting one or a request to cancel
  have hheard : ∀ o, ¬ s.Heard v.key o := fun o ho => hw.unsent (hi.heard v.key o ho)
  rcases hx with ⟨hnil, -⟩ | ⟨q, hlast, site, hsite, hf⟩
  · rw [hkey] at hnil
    exact absurd hw.stored (by rw [State.Stored, hnil]; exact List.not_mem_nil)
  rw [hkey] at hlast
  have hq : q ∈ s.history v.key := List.mem_of_getLast? hlast
  have hqkey := hi.key_eq hq
  have hge : v.aggregateVersion ≤ q.aggregateVersion := by
    have hb := (hi.version_bounds hw.stored).2
    have hl : q.aggregateVersion = (s.history v.key).length := hi.valid.last_version hlast
    omega
  have hstate : q = v ∨ q.state = .cancellationRequested := by
    rcases Nat.lt_or_ge v.aggregateVersion q.aggregateVersion with h | h
    · exact .inr (hw.later q hq h)
    · exact .inl (hi.valid.eq_of_version hq hw.stored (by omega))
  have hphase : q.state = .dispatchRecorded ∨ q.state = .cancellationRequested := by
    rcases hstate with rfl | h
    · exact .inl hw.state
    · exact .inr h
  have hno : ∀ o, ¬ s.Heard q.key o := fun o ho => hheard o (hqkey ▸ ho)
  have hready : ¬ q.state.Ready := by
    rcases hphase with h | h <;> (rw [h]; rintro (h | h) <;> cases h)
  cases hf.edge with
  | authorized start => rcases hphase with h | h <;> (rw [start] at h; cases h)
  | ended start => exact absurd (start hc) hready
  | recorded start => exact absurd (start hc) hready
  | undispatched start writer =>
    rcases hstate with rfl | h
    · have hj : s.writer (q.key, q.aggregateVersion) = some j := hw.writer
      have hi : s.writer (q.key, q.aggregateVersion) = some i := writer
      exact absurd (Option.some.inj (hj.symm.trans hi)) hne
    · rw [start] at h
      cases h
  | withdrawn start =>
    rcases start with start | start
    · rcases hphase with h | h <;> (rw [start] at h; cases h)
    · exact absurd start hready
  | cancelled _ stop => exact stop
  | rejected start =>
    rcases hphase with h | h <;> rw [h] at start <;> rcases start with start | start | start <;>
      cases start
  | linked start => rcases hphase with h | h <;> (rw [start] at h; cases h)
  | touched o received => exact absurd received (hno o)
  | conflicted o received => exact absurd received (hno o)
  | observed o received => exact absurd received (hno o)

/-! ### Answers of the provider -/

theorem Grows.hear (s : State ι) (key : InvocationKey) (a : Except Fault ProviderObservation) :
    Grows s (s.hear key a) := by
  rcases a with e | o
  · exact Grows.refl s
  · exact ⟨fun _ => List.prefix_refl _, fun _ _ _ h => h, fun _ _ => rfl,
      fun _ _ h => List.mem_append_left _ h, fun _ h => h⟩

theorem Waiting.hear {a : Except Fault ProviderObservation} (hw : Waiting s j v) :
    Waiting (s.hear key a) j v := by
  rcases a with e | o
  · exact hw
  · exact ⟨hw.stored, hw.state, hw.writer, hw.ready, hw.later, hw.unsent⟩

/-- An observation of a dispatched invocation keeps the invariant. -/
theorem Inv.hear (hi : Inv c s) (hd : s.Dispatched key) {a : Except Fault ProviderObservation}
    (ha : c.Receives s key a) : Inv c (s.hear key a) := by
  rcases a with e | o
  · exact hi
  have hgrows := Grows.hear s key (.ok o)
  have hmem : ∀ {k o'}, (s.hear key (.ok o)).Heard k o' → s.Heard k o' ∨ (k = key ∧ o' = o) := by
    intro k o' ho
    rcases List.mem_append.mp ho with ho | ho
    · exact .inl ho
    · exact .inr (Prod.mk.inj (List.mem_singleton.mp ho))
  refine ⟨hi.valid, hi.first, hi.follows, fun k r hr id hid => ?_, fun k o' ho => ?_,
    fun k hk r hr => ?_, fun hc k o₁ o₂ h₁ h₂ hid => ?_, fun hc d hds => ?_, hi.once,
    fun hc k r hr => (hi.turns hc k r hr).grows hgrows⟩
  · obtain ⟨o', ho, hoid, hrec⟩ := hi.told k r hr id hid
    exact ⟨o', hgrows.heard _ _ ho, hoid, hrec⟩
  · rcases hmem ho with ho | ⟨rfl, -⟩
    · exact hi.heard k o' ho
    · exact hd
  · exact hi.silent k (fun o' ho => hk o' (hgrows.heard _ _ ho)) r hr
  · rcases hmem h₁ with hold₁ | ⟨rfl, rfl⟩
    · rcases hmem h₂ with hold₂ | ⟨rfl, rfl⟩
      · exact hi.agree hc k o₁ o₂ hold₁ hold₂ hid
      · exact (ha.2 hc).same o₁ hold₁ hid
    · rcases hmem h₂ with hold₂ | ⟨-, rfl⟩
      · obtain ⟨h1, h2⟩ := (ha.2 hc).same o₂ hold₂ hid.symm
        exact ⟨h1.symm, h2.symm⟩
      · exact ⟨rfl, rfl⟩
  · obtain ⟨hstored, hstate, hwriter, hready⟩ := hi.sent hc d hds
    exact ⟨hstored, hstate, hwriter, hready⟩

/-- Process `i` has called `transport.dispatch`. -/
def State.send (s : State ι) (i : ι) (r : DraftInvocation) : State ι :=
  { s with sent := s.sent ++ [⟨i, r⟩] }

theorem State.dispatched_send : (s.send i r).Dispatched key ↔ s.Dispatched key ∨ r.key = key := by
  simp [State.Dispatched, State.send, or_and_right, exists_or, Sent.key]

theorem Grows.send (s : State ι) (i : ι) (r : DraftInvocation) : Grows s (s.send i r) :=
  ⟨fun _ => List.prefix_refl _, fun _ _ _ h => h, fun _ _ => rfl, fun _ _ h => h,
    fun _ h => State.dispatched_send.mpr (.inl h)⟩

/-- **Sending what waits keeps the invariant.** -/
theorem Inv.send (hi : Inv c s) (hw : c.requested = true → Waiting s i r) : Inv c (s.send i r) := by
  refine ⟨hi.valid, hi.first, hi.follows, hi.told,
    fun k o ho => State.dispatched_send.mpr (.inl (hi.heard k o ho)), hi.silent, hi.agree,
    fun hc d hd => ?_, fun hc => ?_,
    fun hc k v hv => (hi.turns hc k v hv).grows (Grows.send s i r)⟩
  · rcases List.mem_append.mp hd with hd | hd
    · obtain ⟨hstored, hstate, hwriter, hready⟩ := hi.sent hc d hd
      exact ⟨hstored, hstate, hwriter, hready⟩
    · cases List.mem_singleton.mp hd
      have := hw hc
      exact ⟨this.stored, this.state, this.writer, this.ready⟩
  · have hnew : r.key ∉ s.sent.map Sent.key := by
      intro hm
      obtain ⟨d, hd, hk⟩ := List.mem_map.mp hm
      exact (hw hc).unsent ⟨d, hd, hk⟩
    simp only [State.send, List.map_append, List.map_cons, List.map_nil]
    refine List.Nodup.append (hi.once hc) (List.nodup_singleton _) fun k hk hk' => ?_
    rw [List.mem_singleton.mp hk'] at hk
    exact hnew hk

theorem Waiting.send (hi : Inv c s) (hw : Waiting s j v) (hne : j ≠ i) (hr : Waiting s i r) :
    Waiting (s.send i r) j v := by
  refine ⟨hw.stored, hw.state, hw.writer, hw.ready, hw.later, fun hd => ?_⟩
  rcases State.dispatched_send.mp hd with hd | hk
  · exact hw.unsent hd
  · have hrs : r ∈ s.history v.key := hk ▸ hr.stored
    have hrp := hr.ready
    rw [hk] at hrp
    have heq := hi.recorded_unique hrs hw.stored hr.state hw.state hrp hw.ready
    subst heq
    have hj : s.writer (r.key, r.aggregateVersion) = some j := hw.writer
    have hi : s.writer (r.key, r.aggregateVersion) = some i := hr.writer
    exact absurd (Option.some.inj (hj.symm.trans hi)) hne

/-! ### The logic -/

theorem Relies.refl (c : Care) (i : ι) (s : State ι) : Relies c i s s :=
  ⟨Grows.refl s, fun _ _ h => h⟩

/-- What a step of process `i` keeps: the invariant, what is stored, and what
waits at other processes. -/
structure Kept (c : Care) (i : ι) (s s' : State ι) : Prop where
  inv : Inv c s'
  grows : Grows s s'
  waits : ∀ j, j ≠ i → c.requested = true → ∀ r, Waiting s j r → Waiting s' j r

theorem Kept.refl (hi : Inv c s) : Kept c i s s := ⟨hi, Grows.refl s, fun _ _ _ _ h => h⟩

theorem Kept.write (hi : Inv c s) (hx : Appends c s i site? r')
    (ht : t.versions = s.tables.versions ++ [VersionRow.of r']) (hv : t.Valid) :
    Kept c i s (s.write i site? r' t) :=
  ⟨hi.write hx ht hv, Grows.write hi hx ht, fun _ hj hc _ hw => hw.write hi hc hj hx ht⟩

/-- An answer of the provider about a version with a correlation. -/
theorem Kept.hear (hi : Inv c s) (hv : s.Stored v)
    (hcorrelation : truthy v.providerCorrelation = true) {a : Except Fault ProviderObservation}
    (ha : c.Receives s v.key a) : Kept c i s (s.hear v.key a) := by
  have hd : s.Dispatched v.key := by
    by_contra hd
    have := (hi.silent v.key (fun o ho => hd (hi.heard _ o ho)) v hv).1
    rw [hcorrelation] at this
    cases this
  exact ⟨hi.hear hd ha, Grows.hear s v.key a, fun _ _ _ _ hw => hw.hear⟩

theorem Kept.send (hi : Inv c s) (hg : c.requested = true → Waiting s i r)
    {a : Except Fault ProviderObservation} (ha : c.Receives s r.key a) :
    Kept c i s ((s.send i r).hear r.key a) := by
  have hd : (s.send i r).Dispatched r.key := State.dispatched_send.mpr (.inr rfl)
  refine ⟨(hi.send hg).hear hd ?_, (Grows.send s i r).trans (Grows.hear _ _ a),
    fun j hj hc v hw => (hw.send hi hj (hg hc)).hear⟩
  rcases a with e | o
  · trivial
  · exact ⟨ha.1, fun hc => ⟨(ha.2 hc).same, (ha.2 hc).bare⟩⟩

theorem Kept.claim {candidate answer : DraftInvocation} {won : Bool} (hi : Inv c s)
    (hfresh : candidate.Fresh) (hcontinues : c.named = true → Continues s candidate)
    (h : s.tables.claim candidate = .ok ((answer, won), t)) :
    Kept c i s (if won then s.write i none candidate t else s) := by
  rcases Tables.claim_spec hi.valid h with ⟨rfl, -, -⟩ | ⟨rfl, -, -, hnil, ht, -, -, -, -, -⟩
  · exact Kept.refl hi
  · exact Kept.write hi (.inl ⟨hnil, hfresh, hcontinues⟩) ht (hi.valid.claim hfresh.version h)

theorem Kept.compareAndSet {answer : Option DraftInvocation} (hi : Inv c s) (hr : s.Stored r)
    (hf : Follows c (s.Heard r.key) (s.WrittenBy i r) site r r')
    (h : s.tables.compareAndSet r.aggregateVersion r' = .ok (answer, t)) :
    Kept c i s (if answer.isSome then s.write i (some site) r' t else s) := by
  rcases Tables.compareAndSet_spec hi.valid h with ⟨rfl, -, -⟩ | ⟨rfl, ⟨q, hlast, hq⟩, rfl⟩
  · exact Kept.refl hi
  · have heq : q = r := by
      refine hi.valid.eq_of_version (List.mem_of_getLast? hlast) ?_ hq
      rw [hf.key]
      exact hr
    subst heq
    refine Kept.write hi (.inr ⟨q, hlast, site, rfl, hf⟩) rfl (hi.valid.compareAndSet hf.version ?_ h)
    exact fun v hv => hf.origin.trans (hi.valid.origin _ q (List.mem_of_getLast? hlast) v hv)

/-- **One step** of a process that meets the guard. -/
theorem Kept.step {op : Op} {a : Answer op} (hi : Inv c s) (hg : Guard c i op s)
    (hp : Performs i op s a s') (hw : c.Within i op a s) : Kept c i s s' := by
  have hquiet : s' = s → Kept c i s s' := by
    rintro rfl
    exact Kept.refl hi
  cases op with
  | claim candidate =>
    rcases hp with ⟨answer, won, t, h, rfl, -⟩ | ⟨-, hs⟩
    · exact Kept.claim hi hg.1 hg.2 h
    · exact hquiet hs
  | compareAndSet site expected replacement =>
    rcases hp with ⟨answer, t, h, rfl, -⟩ | ⟨-, hs⟩
    · obtain ⟨r, hr, rfl, hf⟩ := hg
      exact Kept.compareAndSet hi hr hf h
    · exact hquiet hs
  | dispatch recorded request credential =>
    cases hp
    exact Kept.send hi hg hw
  | observe value correlation =>
    cases hp
    exact Kept.hear hi hg.1 hg.2 hw.2
  | cancel value correlation =>
    cases hp
    exact Kept.hear hi hg.1 hg.2 hw.2
  | getByKey => exact hquiet hp.1
  | getContextHead => exact hquiet hp.1
  | get => exact hquiet hp.1
  | reread => exact hquiet hp.1
  | _ => exact hquiet hp

/-- **The logic of the service.** -/
def draftLogic (ι : Type) (c : Care) : Logic (system ι c) where
  inv := Inv c
  rely := Relies c
  guard := Guard c
  rely_refl := Relies.refl c
  rely_trans h h' := ⟨h.grows.trans h'.grows, fun hc r hw => h'.waits hc r (h.waits hc r hw)⟩
  keeps hi hg hp hw :=
    have hk := Kept.step hi hg hp hw
    ⟨hk.inv, fun j hj => ⟨hk.grows, hk.waits j hj⟩⟩

theorem draftLogic_keeps (ι : Type) (c : Care) : (draftLogic ι c).Keeps Grows where
  refl := Grows.refl
  trans := Grows.trans
  rely h := h.grows
  step hi hg hp hw := (Kept.step hi hg hp hw).grows

theorem inv_initial (c : Care) : Inv c ({} : State ι) := by
  have hnil : ∀ key, ({} : State ι).history key = [] := fun _ => rfl
  refine ⟨Tables.valid_empty, ?_, ?_, ?_, ?_, ?_, ?_, ?_, ?_, ?_⟩
  · intro key r hr
    rw [hnil] at hr
    cases hr
  · intro key r hr
    rw [hnil] at hr
    cases hr
  · intro key r hr
    rw [hnil] at hr
    cases hr
  · intro key o ho
    exact absurd ho List.not_mem_nil
  · intro key _ r hr
    rw [hnil] at hr
    cases hr
  · intro _ key o o' ho
    exact absurd ho List.not_mem_nil
  · intro _ d hd
    cases hd
  · intro _
    exact List.nodup_nil
  · intro _ key r hr
    rw [hnil] at hr
    cases hr

end Invariant

end Draft

end AgentPlatform
