/-
AgentPlatform/Runtime/Manager.lean

The Native Runtime Manager (`runtime_manager.py`, `runtime_control.py`): desired
commands are persisted first, effects are issued by `reconcile`, and every
outcome is appended to the facts of the runtime. The manager keeps nothing but the
repository, so a restart is no event of its own; `history` is what the repository
and the provider have seen, in order. The provider may answer anything, and raise.

After an ambiguous result an effect is issued again only through `request`,
which records `REQUESTED` also for a command it has seen before, and `replace`
is called again whenever the runtime is not seen as pending or running.
`ambiguous_effects_not_reissued` is the run in which neither happens. What every run
keeps is in `effects_follow_requests`.
-/
import AgentPlatform.Dispatch.Sample
import AgentPlatform.Py.Table
import AgentPlatform.RuntimeContract

namespace AgentPlatform

open Py

/-! ### Commands and facts -/

inductive RuntimeOperation
  | start | stop | cancel | replace | observe
  deriving DecidableEq

/-- The desired state an operation stands for. -/
def RuntimeOperation.expected : RuntimeOperation → RuntimeDesiredStateKind
  | start => .running
  | stop => .stopped
  | cancel => .cancelled
  | replace => .replaced
  | observe => .observe

section Manager

variable [Unicodedata]

structure ScopedRuntimeCommand where
  scope : ScopeIdentity
  desired : RuntimeDesiredState
  operation : RuntimeOperation
  authorizationReference : String
  placementReference : String
  matched : desired.desiredState = operation.expected
  authorized : strip authorizationReference ≠ "" ∧ strip placementReference ≠ ""
  deriving DecidableEq

structure ReconciliationFact where
  command : ScopedRuntimeCommand
  result : CommandResult
  recordedAt : Datetime
  observation : Option RuntimeObservation
  reasonCode : String
  deriving DecidableEq

def ScopedRuntimeCommand.commandId (c : ScopedRuntimeCommand) : CommandId := c.desired.commandId

def ScopedRuntimeCommand.runtime (c : ScopedRuntimeCommand) : RuntimeInstanceId :=
  c.desired.runtimeInstanceId

/-! ### Convergence -/

/-- The observed states that fulfil a desired one. -/
def RuntimeDesiredStateKind.fulfilled : RuntimeDesiredStateKind → RuntimeObservedStateKind → Bool
  | running, .running => true
  | stopped, .stopped | stopped, .terminated => true
  | cancelled, .terminated => true
  | replaced, .pending | replaced, .running => true
  | observe, s => s ≠ .stale
  | _, _ => false

def observationMatchesDesired (desired : RuntimeDesiredState) (o : RuntimeObservation)
    (at' : Datetime) : Bool :=
  if o.runtimeInstanceId ≠ desired.runtimeInstanceId then false
  else if o.observedGeneration ≠ desired.desiredGeneration then false
  else desired.desiredState.fulfilled (currentObservedState (some o) at')

/-- `classify_reconciliation(desired, observation, at=at)`; a missing observation
is `UNKNOWN`. -/
def classifyReconciliation (desired : RuntimeDesiredState) (observation : Option RuntimeObservation)
    (at' : Datetime) : CommandResult :=
  match observation with
  | none => .unknown
  | some o =>
    match currentObservedState (some o) at' with
    | .unknown => .unknown
    | .stale => .stale
    | _ => if observationMatchesDesired desired o at' then .observed else .applied

/-! ### The provider -/

inductive NativeLifecycleState
  | pending | running | stopped | terminated | failed | unknown
  deriving DecidableEq

def NativeLifecycleState.observed : NativeLifecycleState → RuntimeObservedStateKind
  | pending => .pending
  | running => .running
  | stopped => .stopped
  | terminated => .terminated
  | failed => .failed
  | unknown => .unknown

/-- The part of a native observation that the manager reads. -/
structure NativeLifecycleObservation where
  state : NativeLifecycleState
  nativeCorrelation : Option String
  deriving DecidableEq

/-- What the provider does during one reconcile: `none` stands for an exception. -/
structure ProviderAnswers where
  before : Option (Option NativeLifecycleObservation)
  effectRaises : Bool
  after : Option (Option NativeLifecycleObservation)
  deriving DecidableEq

/-- The calls that change a runtime. -/
inductive RuntimeEffect
  | startRuntime | stopRuntime | replace
  deriving DecidableEq

/-- What an operation calls; `OBSERVE` calls nothing. -/
def RuntimeOperation.effect : RuntimeOperation → Option RuntimeEffect
  | start => some .startRuntime
  | stop | cancel => some .stopRuntime
  | replace => some .replace
  | observe => none

/-! ### The repository -/

inductive RuntimeEvent
  | recorded (fact : ReconciliationFact)
  | called (command : ScopedRuntimeCommand) (effect : RuntimeEffect)
  deriving DecidableEq

/-- `InMemoryRuntimeControlRepository`, with the history of facts and calls. -/
structure RuntimeStore where
  desired : Table RuntimeInstanceId ScopedRuntimeCommand
  facts : Table RuntimeInstanceId (List ReconciliationFact)
  history : List RuntimeEvent

def RuntimeStore.empty : RuntimeStore := ⟨∅, ∅, []⟩

def RuntimeStore.factsOf (s : RuntimeStore) (r : RuntimeInstanceId) : List ReconciliationFact :=
  (s.facts.lookup r).getD []

def RuntimeStore.appendDesired (s : RuntimeStore) (c : ScopedRuntimeCommand) :
    Except Failure RuntimeStore :=
  match s.desired.lookup c.runtime with
  | none => .ok { s with desired := s.desired.insert c.runtime c }
  | some existing =>
    if c = existing then .ok s
    else if c.desired.desiredGeneration.value ≤ existing.desired.desiredGeneration.value then
      .error (.runtimeControl "DESIRED_GENERATION_NOT_MONOTONIC")
    else .ok { s with desired := s.desired.insert c.runtime c }

def RuntimeStore.appendFact (s : RuntimeStore) (f : ReconciliationFact) : RuntimeStore :=
  { s with
    facts := s.facts.insert f.command.runtime (s.factsOf f.command.runtime ++ [f])
    history := s.history ++ [.recorded f] }

def RuntimeStore.call (s : RuntimeStore) (c : ScopedRuntimeCommand) (e : RuntimeEffect) : RuntimeStore :=
  { s with history := s.history ++ [.called c e] }

/-! ### Requests and reconciles -/

/-- `request(command, authorized_scope=scope)`. -/
def RuntimeStore.request (s : RuntimeStore) (c : ScopedRuntimeCommand) (scope : ScopeIdentity)
    (now : Datetime) : Except Failure ReconciliationFact × RuntimeStore :=
  if c.scope ≠ scope then (.error (.runtimeControl "COMMAND_SCOPE_MISMATCH"), s)
  else
    match s.appendDesired c with
    | .error e => (.error e, s)
    | .ok s' =>
      let fact : ReconciliationFact := ⟨c, .requested, now, none, "DESIRED_PERSISTED"⟩
      (.ok fact, s'.appendFact fact)

def providerLimitation : Except Failure Codes := do
  let code ← reference "INVALID_LIMITATION_CODES" "NATIVE_PROVIDER_OBSERVATION"
  codesOf "INVALID_LIMITATION_CODES" [code]

/-- The correlation with the native runtime; an empty handle counts as none. -/
def correlationOf (native : NativeLifecycleObservation) :
    Except Failure (Option ExternalCorrelation) :=
  match native.nativeCorrelation with
  | none => .ok none
  | some handle =>
    if handle = "" then .ok none
    else (ExternalCorrelation.create "native" "runtime" handle).map some

/-- `_normalize(command, native, now)`, with `freshness` in microseconds. -/
def normalizeNative (c : ScopedRuntimeCommand) (native : NativeLifecycleObservation) (now : Datetime)
    (freshness : Int) (factCount : Nat) : Except Failure RuntimeObservation := do
  let state := native.state.observed
  let correlation ← correlationOf native
  let observationId ← opaqueId (c.commandId.value ++ "-" ++ (factCount + 1).repr)
  match now.addMicros freshness with
  | none => .error .overflowError
  | some deadline =>
    if h : now < deadline then do
      let limitationCodes ← providerLimitation
      .ok {
        observationId
        runtimeInstanceId := c.runtime
        observedGeneration := c.desired.desiredGeneration
        observedState := state
        health := if state = .running then .healthy else .unknown
        readiness := if state = .running then .ready else .notReady
        observedAt := now
        freshnessDeadline := deadline
        providerCorrelation := correlation
        kubernetesCorrelation := none
        limitationCodes
        freshness_follows := h }
    else .error (.executionContract "FRESHNESS_DEADLINE_MUST_FOLLOW_OBSERVATION")

/-- `self._normalize(command, self._provider.observe_runtime(...), now)`. -/
def observeRuntime (c : ScopedRuntimeCommand) (answer : Option (Option NativeLifecycleObservation))
    (now : Datetime) (freshness : Int) (factCount : Nat) :
    Except Failure (Option RuntimeObservation) :=
  match answer with
  | none => .error .provider
  | some none => .ok none
  | some (some native) => (normalizeNative c native now freshness factCount).map some

/-- Some fact says that the command was carried out. -/
def replacementAlreadyIssued (prior : List ReconciliationFact) (c : ScopedRuntimeCommand) : Bool :=
  prior.any fun f => f.command.commandId = c.commandId &&
    (f.result = .applied || f.result = .observed)

def lastAmbiguous (prior : List ReconciliationFact) : Bool :=
  match prior.getLast? with
  | some f => f.result.isAmbiguous
  | none => false

/-- The effect is issued and its outcome recorded; only the effect itself is
called under `try`. -/
def RuntimeStore.issue (s : RuntimeStore) (c : ScopedRuntimeCommand) (now : Datetime)
    (freshness : Int) (answers : ProviderAnswers) (observation : Option RuntimeObservation) :
    Except Failure ReconciliationFact × RuntimeStore :=
  let called := match c.operation.effect with
    | some e => s.call c e
    | none => s
  if answers.effectRaises && c.operation.effect.isSome then
    let fact : ReconciliationFact :=
      ⟨c, .recoveryRequired, now, observation, "PROVIDER_EFFECT_AMBIGUOUS"⟩
    (.ok fact, called.appendFact fact)
  else
    match observeRuntime c answers.after now freshness (s.factsOf c.runtime).length with
    | .error e => (.error e, called)
    | .ok observation =>
      let fact : ReconciliationFact :=
        ⟨c, classifyReconciliation c.desired observation now, now, observation,
          "EFFECT_APPLIED_AND_OBSERVED"⟩
      (.ok fact, called.appendFact fact)

/-- `reconcile(runtime_instance_id, authorized_scope=scope)`. -/
def RuntimeStore.reconcile (s : RuntimeStore) (r : RuntimeInstanceId) (scope : ScopeIdentity)
    (now : Datetime) (freshness : Int) (answers : ProviderAnswers) :
    Except Failure ReconciliationFact × RuntimeStore :=
  match s.desired.lookup r with
  | none => (.error (.runtimeControl "DESIRED_COMMAND_NOT_FOUND"), s)
  | some c =>
    if c.scope ≠ scope then (.error (.runtimeControl "COMMAND_SCOPE_MISMATCH"), s)
    else
      match observeRuntime c answers.before now freshness (s.factsOf r).length with
      | .error e => (.error e, s)
      | .ok observation =>
        let prior := s.factsOf r
        if observation.isSome && (c.operation ≠ .replace || replacementAlreadyIssued prior c) &&
            classifyReconciliation c.desired observation now = .observed then
          let fact : ReconciliationFact := ⟨c, .observed, now, observation, "EXTERNAL_STATE_OBSERVED"⟩
          (.ok fact, s.appendFact fact)
        else if lastAmbiguous prior then
          let fact : ReconciliationFact :=
            ⟨c, .recoveryRequired, now, observation, "AMBIGUOUS_EFFECT_NOT_REISSUED"⟩
          (.ok fact, s.appendFact fact)
        else s.issue c now freshness answers observation

inductive ManagerCall
  | request (command : ScopedRuntimeCommand) (scope : ScopeIdentity) (now : Datetime)
  | reconcile (runtime : RuntimeInstanceId) (scope : ScopeIdentity) (now : Datetime)
      (freshness : Int) (answers : ProviderAnswers)

def RuntimeStore.step (s : RuntimeStore) : ManagerCall → RuntimeStore
  | .request c scope now => (s.request c scope now).2
  | .reconcile r scope now freshness answers => (s.reconcile r scope now freshness answers).2

def RuntimeStore.run (s : RuntimeStore) (calls : List ManagerCall) : RuntimeStore :=
  calls.foldl RuntimeStore.step s

/-! ### Ambiguous results -/

/-- An ambiguous result is recorded for the command id, and none observed since. -/
def unresolved (id : CommandId) (history : List RuntimeEvent) : Bool :=
  history.foldl (fun open' event =>
    match event with
    | .recorded f =>
      if f.command.commandId = id then
        f.result.isAmbiguous || (open' && f.result ≠ .observed)
      else open'
    | .called _ _ => open') false

/-- No effect is called for a command id with an unresolved ambiguous result. -/
def NeverReissued (history : List RuntimeEvent) : Prop :=
  ∀ before c e after, history = before ++ .called c e :: after →
    unresolved c.commandId before = false

/-- `replace` is called at most once for a command. -/
def ReplacedOnce (history : List RuntimeEvent) : Prop :=
  ∀ c, history.count (.called c .replace) ≤ 1

/-- The calls that do not lead to a reissue.

* An accepted request names a command id without an unresolved ambiguous result,
  and not that of the desired command of another runtime.
* A reconcile of a `REPLACE` command for which `replace` was called finds the
  last fact ambiguous, or the replacement recorded as issued and the runtime
  pending or running. -/
def RuntimeStore.Careful (s : RuntimeStore) : ManagerCall → Prop
  | .request c scope _ =>
    c.scope = scope → (s.appendDesired c).isOk = true →
      unresolved c.commandId s.history = false ∧
      s.desired.anyRow (fun r c' => r ≠ c.runtime && c'.commandId = c.commandId) = false
  | .reconcile r _ _ _ answers =>
    ∀ c ∈ s.desired.lookup r, .called c .replace ∈ s.history →
      lastAmbiguous (s.factsOf r) = true ∨
        (replacementAlreadyIssued (s.factsOf r) c = true ∧ ∃ native, answers.before = some (some native) ∧
          (native.state = .pending ∨ native.state = .running))

def RuntimeStore.CarefulRun (s : RuntimeStore) : List ManagerCall → Prop
  | [] => True
  | call :: calls => s.Careful call ∧ (s.step call).CarefulRun calls

section Lemmas

variable {s s' : RuntimeStore} {c : ScopedRuntimeCommand} {r : RuntimeInstanceId} {id : CommandId}

@[simp] theorem unresolved_called (history : List RuntimeEvent) (e : RuntimeEffect) :
    unresolved id (history ++ [.called c e]) = unresolved id history := by
  rw [unresolved, List.foldl_append]
  rfl

theorem unresolved_recorded (history : List RuntimeEvent) (f : ReconciliationFact) :
    unresolved id (history ++ [.recorded f]) =
      if f.command.commandId = id then
        f.result.isAmbiguous || (unresolved id history && f.result ≠ .observed)
      else unresolved id history := by
  rw [unresolved, List.foldl_append]
  rfl

theorem factsOf_appendFact (f : ReconciliationFact) :
    (s.appendFact f).factsOf r
      = if r = f.command.runtime then s.factsOf r ++ [f] else s.factsOf r := by
  by_cases hr : r = f.command.runtime
  · subst hr
    simp [RuntimeStore.factsOf, RuntimeStore.appendFact]
  · simp [RuntimeStore.factsOf, RuntimeStore.appendFact, AList.lookup_insert_ne hr, hr]

theorem lastAmbiguous_append (prior : List ReconciliationFact) (f : ReconciliationFact) :
    lastAmbiguous (prior ++ [f]) = f.result.isAmbiguous := by
  simp [lastAmbiguous]

/-- An event of a longer history is the new one, or was there. -/
theorem split_concat {history before after : List RuntimeEvent} {x y : RuntimeEvent}
    (h : history ++ [x] = before ++ y :: after) :
    history = before ∧ x = y ∨ ∃ after', history = before ++ y :: after' := by
  rcases List.eq_nil_or_concat after with rfl | ⟨after, z, rfl⟩
  · obtain ⟨rfl, hx⟩ := List.append_inj' h rfl
    exact .inl ⟨rfl, (List.cons.inj hx).1⟩
  · have h' : history ++ [x] = (before ++ y :: after) ++ [z] := by
      rw [h]
      simp
    exact .inr ⟨after, (List.append_inj' h' rfl).1⟩

/-- Appending to a history without a reissue. -/
theorem NeverReissued.recorded {history : List RuntimeEvent} (h : NeverReissued history)
    (f : ReconciliationFact) : NeverReissued (history ++ [.recorded f]) := by
  intro before c e after eq
  rcases split_concat eq with ⟨-, hx⟩ | ⟨after', rfl⟩
  · cases hx
  · exact h before c e after' rfl

theorem NeverReissued.called {history : List RuntimeEvent} (h : NeverReissued history) {e : RuntimeEffect}
    (hc : unresolved c.commandId history = false) :
    NeverReissued (history ++ [.called c e]) := by
  intro before c' e' after eq
  rcases split_concat eq with ⟨rfl, hx⟩ | ⟨after', rfl⟩
  · cases hx
    exact hc
  · exact h before c' e' after' rfl

theorem ReplacedOnce.recorded {history : List RuntimeEvent} (h : ReplacedOnce history)
    (f : ReconciliationFact) : ReplacedOnce (history ++ [.recorded f]) := by
  intro c
  rw [List.count_append, List.count_singleton]
  simpa using h c

theorem ReplacedOnce.called {history : List RuntimeEvent} (h : ReplacedOnce history) {e : RuntimeEffect}
    (hc : e = .replace → .called c .replace ∉ history) :
    ReplacedOnce (history ++ [.called c e]) := by
  intro c'
  rw [List.count_append, List.count_singleton]
  split
  · next heq =>
    have heq' : RuntimeEvent.called c e = .called c' .replace := by simpa using heq
    cases heq'
    rw [List.count_eq_zero_of_not_mem (hc rfl)]
  · exact h c'

/-! ### What the two calls do -/

/-- `c` is `c'`, or has been superseded by it. -/
def ScopedRuntimeCommand.UpTo (c c' : ScopedRuntimeCommand) : Prop :=
  c = c' ∨ c.desired.desiredGeneration.value < c'.desired.desiredGeneration.value

/-- A desired command supersedes the one before it. -/
theorem appendDesired_cases (h : s.appendDesired c = .ok s') :
    s'.desired.lookup c.runtime = some c ∧
      (∀ r, r ≠ c.runtime → s'.desired.lookup r = s.desired.lookup r) ∧ s'.facts = s.facts ∧
      s'.history = s.history ∧ ∀ d, s.desired.lookup c.runtime = some d → d.UpTo c := by
  unfold RuntimeStore.appendDesired at h
  split at h
  · next hnone =>
    cases h
    exact ⟨AList.lookup_insert _, fun r hr => AList.lookup_insert_ne hr, rfl, rfl,
      fun d hd => by rw [hnone] at hd; cases hd⟩
  · next existing he =>
    split at h
    · next hce =>
      cases h
      exact ⟨hce ▸ he, fun _ _ => rfl, rfl, rfl,
        fun d hd => .inl (hce ▸ Option.some.inj (hd.symm.trans he))⟩
    · split at h
      · cases h
      · next hlt =>
        cases h
        refine ⟨AList.lookup_insert _, fun r hr => AList.lookup_insert_ne hr, rfl, rfl, fun d hd => ?_⟩
        obtain rfl : d = existing := Option.some.inj (hd.symm.trans he)
        exact .inr (not_le.mp hlt)

/-- **What `request` can do.** -/
theorem request_cases (s : RuntimeStore) (c : ScopedRuntimeCommand) (scope : ScopeIdentity)
    (now : Datetime) :
    (s.request c scope now).2 = s ∨
      (c.scope = scope ∧ (s.appendDesired c).isOk = true ∧ ∃ (s' : RuntimeStore)
        (f : ReconciliationFact), f.command = c ∧ f.result = .requested ∧
        s'.desired.lookup c.runtime = some c ∧ (∀ r, r ≠ c.runtime → s'.desired.lookup r = s.desired.lookup r) ∧
        s'.facts = s.facts ∧ s'.history = s.history ∧ (s.request c scope now).2 = s'.appendFact f) := by
  unfold RuntimeStore.request
  by_cases hs : c.scope ≠ scope
  · exact .inl (by rw [if_pos hs])
  · rw [if_neg hs]
    rcases ha : s.appendDesired c with e | s'
    · exact .inl rfl
    · obtain ⟨hnew, hold, hfacts, hhist, -⟩ := appendDesired_cases ha
      exact .inr ⟨not_not.mp hs, rfl, s', ⟨c, .requested, now, none, "DESIRED_PERSISTED"⟩, rfl, rfl,
        hnew, hold, hfacts, hhist, rfl⟩

/-- What a reconcile that issues the effect does. -/
theorem issue_cases (s : RuntimeStore) (c : ScopedRuntimeCommand) (now : Datetime) (freshness : Int)
    (answers : ProviderAnswers) (observation : Option RuntimeObservation) :
    ∃ s₁ : RuntimeStore,
      ((∃ e, c.operation.effect = some e ∧ s₁ = s.call c e) ∨ s₁ = s) ∧
      ((s.issue c now freshness answers observation).2 = s₁ ∨
        ∃ f : ReconciliationFact, f.command = c ∧
          (s.issue c now freshness answers observation).2 = s₁.appendFact f) := by
  unfold RuntimeStore.issue
  refine ⟨match c.operation.effect with | some e => s.call c e | none => s, ?_, ?_⟩
  · rcases c.operation.effect with _ | e
    · exact .inr rfl
    · exact .inl ⟨e, rfl, rfl⟩
  · simp only
    split
    · exact .inr ⟨_, rfl, rfl⟩
    · split
      · exact .inl rfl
      · exact .inr ⟨_, rfl, rfl⟩

/-- A fresh observation of a pending or running runtime fulfils a replacement. -/
theorem classify_replaced {native : NativeLifecycleObservation} {now : Datetime} {freshness : Int}
    {count : Nat} {o : RuntimeObservation} (hop : c.operation = .replace)
    (hstate : native.state = .pending ∨ native.state = .running)
    (h : normalizeNative c native now freshness count = .ok o) :
    classifyReconciliation c.desired (some o) now = .observed := by
  have ho : o.observedState = native.state.observed ∧ o.runtimeInstanceId = c.desired.runtimeInstanceId ∧
      o.observedGeneration = c.desired.desiredGeneration ∧ o.observedAt = now := by
    unfold normalizeNative at h
    obtain ⟨correlation, -, h⟩ := bind_eq_ok.mp h
    obtain ⟨observationId, -, h⟩ := bind_eq_ok.mp h
    split at h
    · cases h
    · split at h
      · obtain ⟨codes, -, h⟩ := bind_eq_ok.mp h
        cases h
        exact ⟨rfl, rfl, rfl, rfl⟩
      · cases h
  obtain ⟨hs, hr, hg, hnow⟩ := ho
  -- the deadline follows the observation, which was made now
  have hfresh : ¬o.freshnessDeadline < now := by
    rw [← hnow]
    exact Nat.lt_asymm o.freshness_follows
  have hdesired : c.desired.desiredState = .replaced := by
    rw [c.matched, hop]
    rfl
  have hcur : currentObservedState (some o) now = native.state.observed := by
    rw [← hs]
    exact if_neg hfresh
  have hmatch : observationMatchesDesired c.desired o now = true := by
    unfold observationMatchesDesired
    rw [if_neg (not_not.mpr hr), if_neg (not_not.mpr hg), hcur, hdesired]
    rcases hstate with e | e <;> rw [e] <;> rfl
  unfold classifyReconciliation
  simp only
  rw [hcur, hmatch]
  rcases hstate with e | e <;> rw [e] <;> rfl

/-- **What `reconcile` can do.** -/
theorem reconcile_cases (s : RuntimeStore) (r : RuntimeInstanceId) (scope : ScopeIdentity)
    (now : Datetime) (freshness : Int) (answers : ProviderAnswers) :
    (s.reconcile r scope now freshness answers).2 = s ∨
      ∃ c, s.desired.lookup r = some c ∧
        ((∃ f : ReconciliationFact, f.command = c ∧
            (f.result = .observed ∨ f.result = .recoveryRequired) ∧
            (s.reconcile r scope now freshness answers).2 = s.appendFact f) ∨
          (lastAmbiguous (s.factsOf r) = false ∧
            ¬(c.operation = .replace ∧ replacementAlreadyIssued (s.factsOf r) c = true ∧
              ∃ native, answers.before = some (some native) ∧
                (native.state = .pending ∨ native.state = .running)) ∧
            ∃ observation, (s.reconcile r scope now freshness answers).2
              = (s.issue c now freshness answers observation).2)) := by
  unfold RuntimeStore.reconcile
  rcases hd : s.desired.lookup r with _ | c
  · exact .inl rfl
  · simp only
    by_cases hscope : c.scope ≠ scope
    · exact .inl (by rw [if_pos hscope])
    rw [if_neg hscope]
    rcases ho : observeRuntime c answers.before now freshness (s.factsOf r).length with e | observation
    · exact .inl rfl
    refine .inr ⟨c, rfl, ?_⟩
    simp only
    split
    · exact .inl ⟨_, rfl, .inl rfl, rfl⟩
    · next hnot =>
      split
      · exact .inl ⟨_, rfl, .inr rfl, rfl⟩
      · next hlast =>
        refine .inr ⟨by simpa using hlast, ?_, observation, rfl⟩
        rintro ⟨hop, hissued, native, hbefore, hstate⟩
        apply hnot
        rw [hbefore] at ho
        obtain ⟨o, hn, rfl⟩ := map_eq_ok.mp ho
        rw [classify_replaced hop hstate hn, hissued]
        simp

/-! ### The invariant -/

/-- What every careful run keeps: a desired command with an unresolved ambiguous
result has an ambiguous fact as the last one of its runtime. -/
structure RuntimeStore.Inv (s : RuntimeStore) : Prop where
  keyed : ∀ {r c}, s.desired.lookup r = some c → c.runtime = r
  distinct : ∀ {r r' c c'}, s.desired.lookup r = some c → s.desired.lookup r' = some c' →
    c.commandId = c'.commandId → r = r'
  guarded : ∀ {r c}, s.desired.lookup r = some c → unresolved c.commandId s.history = true →
    lastAmbiguous (s.factsOf r) = true
  never : NeverReissued s.history
  once : ReplacedOnce s.history

theorem RuntimeStore.Inv.init : RuntimeStore.empty.Inv where
  keyed h := by cases h
  distinct h := by cases h
  guarded h := by cases h
  never := by
    intro before c e after h
    have h' : before ++ .called c e :: after = [] := h.symm
    rw [List.append_eq_nil_iff] at h'
    cases h'.2
  once c := Nat.zero_le 1

/-- A fact about the desired command that leaves its own guard in place. -/
theorem RuntimeStore.Inv.appendFact (hi : s.Inv) {f : ReconciliationFact}
    (hd : s.desired.lookup f.command.runtime = some f.command)
    (hf : f.result.isAmbiguous = false →
      unresolved f.command.commandId s.history = true → f.result = .observed) :
    (s.appendFact f).Inv where
  keyed := hi.keyed
  distinct := hi.distinct
  guarded := by
    intro r c hc hu
    change s.desired.lookup r = some c at hc
    change unresolved c.commandId (s.history ++ [.recorded f]) = true at hu
    rw [unresolved_recorded] at hu
    rw [factsOf_appendFact]
    by_cases hr : r = f.command.runtime
    · subst hr
      rw [hd] at hc
      cases hc
      rw [if_pos rfl, lastAmbiguous_append]
      rw [if_pos rfl] at hu
      rcases ha : f.result.isAmbiguous with _ | _
      · rw [ha] at hu
        simp only [Bool.false_or, Bool.and_eq_true] at hu
        have := hf ha hu.1
        simp [this] at hu
      · rfl
    · -- another runtime has another command id
      rw [if_neg hr]
      have hid : f.command.commandId ≠ c.commandId := fun e => hr (hi.distinct hc hd e.symm)
      rw [if_neg hid] at hu
      exact hi.guarded hc hu
  never := hi.never.recorded f
  once := hi.once.recorded f

theorem RuntimeStore.Inv.call (hi : s.Inv) {e : RuntimeEffect}
    (hu : unresolved c.commandId s.history = false)
    (ho : e = .replace → .called c .replace ∉ s.history) : (s.call c e).Inv where
  keyed := hi.keyed
  distinct := hi.distinct
  guarded := by
    intro r c' hc hu'
    change unresolved c'.commandId (s.history ++ [.called c e]) = true at hu'
    rw [unresolved_called] at hu'
    exact hi.guarded hc hu'
  never := hi.never.called hu
  once := hi.once.called ho

theorem RuntimeStore.Inv.request (hi : s.Inv) {scope : ScopeIdentity} {now : Datetime}
    (hcareful : s.Careful (.request c scope now)) : (s.request c scope now).2.Inv := by
  rcases request_cases s c scope now with h | ⟨hs, hok, s', f, hf, hres, hnew, hold, hfacts, hhist, h⟩
  · rw [h]
    exact hi
  rw [h]
  obtain ⟨hu, hother⟩ := hcareful hs hok
  rw [Table.anyRow_eq_false] at hother
  -- the desired command of another runtime has another id
  have hfresh : ∀ {r c'}, r ≠ c.runtime → s'.desired.lookup r = some c' →
      c'.commandId ≠ c.commandId := by
    intro r c' hr hc' e
    rw [hold r hr] at hc'
    have := hother r c' hc'
    simp [hr, e] at this
  have hi' : s'.Inv := by
    refine ⟨?_, ?_, ?_, hhist ▸ hi.never, hhist ▸ hi.once⟩
    · intro r c' hc'
      by_cases hr : r = c.runtime
      · rw [hr, hnew] at hc'
        cases hc'
        exact hr.symm
      · exact hi.keyed (hold r hr ▸ hc')
    · intro r r' c₁ c₂ h₁ h₂ e
      by_cases hr : r = c.runtime
      · by_cases hr' : r' = c.runtime
        · exact hr.trans hr'.symm
        · rw [hr, hnew] at h₁
          cases h₁
          exact absurd e.symm (hfresh hr' h₂)
      · by_cases hr' : r' = c.runtime
        · rw [hr', hnew] at h₂
          cases h₂
          exact absurd e (hfresh hr h₁)
        · exact hi.distinct (hold r hr ▸ h₁) (hold r' hr' ▸ h₂) e
    · intro r c' hc' hu'
      rw [hhist] at hu'
      have hfs : s'.factsOf r = s.factsOf r := by
        rw [RuntimeStore.factsOf, hfacts]
        rfl
      rw [hfs]
      by_cases hr : r = c.runtime
      · rw [hr, hnew] at hc'
        cases hc'
        rw [hu] at hu'
        cases hu'
      · exact hi.guarded (hold r hr ▸ hc') hu'
  apply hi'.appendFact
  · rw [hf]
    exact hnew
  · intro _ hu'
    rw [hf, hhist, hu] at hu'
    cases hu'

theorem RuntimeStore.Inv.reconcile (hi : s.Inv) {scope : ScopeIdentity} {now : Datetime}
    {freshness : Int} {answers : ProviderAnswers}
    (hcareful : s.Careful (.reconcile r scope now freshness answers)) :
    (s.reconcile r scope now freshness answers).2.Inv := by
  rcases reconcile_cases s r scope now freshness answers with h | ⟨c, hd, h⟩
  · rw [h]
    exact hi
  have hr := hi.keyed hd
  rw [← hr] at hd
  rcases h with ⟨f, hf, hres, h⟩ | ⟨hlast, hreplace, observation, h⟩
  · rw [h]
    apply hi.appendFact
    · rw [hf]
      exact hd
    · intro ha _
      rcases hres with e | e
      · exact e
      · rw [e] at ha
        cases ha
  · rw [h]
    -- the guard of the source: the last fact is not ambiguous, so nothing is open
    have hu : unresolved c.commandId s.history = false := by
      rw [Bool.eq_false_iff]
      intro hu
      rw [hr] at hd
      rw [hi.guarded hd hu] at hlast
      cases hlast
    obtain ⟨s₁, hs₁, hissue⟩ := issue_cases s c now freshness answers observation
    have hs₁' : s₁.Inv ∧ s₁.desired = s.desired ∧ unresolved c.commandId s₁.history = false := by
      rcases hs₁ with ⟨e, he, rfl⟩ | rfl
      · refine ⟨hi.call hu ?_, rfl, by simpa [RuntimeStore.call] using hu⟩
        rintro rfl hmem
        have hop : c.operation = .replace := by
          rcases hc : c.operation with _ | _ | _ | _ | _ <;> rw [hc] at he <;> cases he
        rcases hcareful c (hr ▸ hd) hmem with hamb | hissued
        · rw [hlast] at hamb
          cases hamb
        · exact hreplace ⟨hop, hissued⟩
      · exact ⟨hi, rfl, hu⟩
    obtain ⟨hi₁, hd₁, hu₁⟩ := hs₁'
    rcases hissue with h | ⟨f, hf, h⟩
    · rw [h]
      exact hi₁
    · rw [h]
      apply hi₁.appendFact
      · rw [hf, hd₁]
        exact hd
      · intro _ hu'
        rw [hf, hu₁] at hu'
        cases hu'

/-- A careful call keeps the invariant. -/
theorem RuntimeStore.Inv.step (hi : s.Inv) {call : ManagerCall} (hcareful : s.Careful call) :
    (s.step call).Inv := by
  cases call with
  | request c scope now => exact hi.request hcareful
  | reconcile r scope now freshness answers => exact hi.reconcile hcareful

theorem RuntimeStore.Inv.run {calls : List ManagerCall} (hi : s.Inv) (h : s.CarefulRun calls) :
    (s.run calls).Inv := by
  induction calls generalizing s with
  | nil => exact hi
  | cons call calls ih => exact ih (hi.step h.1) h.2

/-- **Ambiguous effects are not reissued in a careful run**, and `replace` is called
at most once for a command. -/
theorem ambiguous_effects_not_reissued {calls : List ManagerCall}
    (h : RuntimeStore.empty.CarefulRun calls) :
    NeverReissued (RuntimeStore.empty.run calls).history ∧
      ReplacedOnce (RuntimeStore.empty.run calls).history :=
  ⟨(RuntimeStore.Inv.init.run h).never, (RuntimeStore.Inv.init.run h).once⟩

/-! ### Every run -/

/-- The command an event is about. -/
def RuntimeEvent.command : RuntimeEvent → ScopedRuntimeCommand
  | recorded f => f.command
  | called c _ => c

def RuntimeEvent.fact : RuntimeEvent → Option ReconciliationFact
  | recorded f => some f
  | called _ _ => none

/-- The command was recorded as requested. -/
def Requested (history : List RuntimeEvent) (c : ScopedRuntimeCommand) : Prop :=
  ∃ f, .recorded f ∈ history ∧ f.command = c ∧ f.result = .requested

/-- What the history tells in every run.

* No event of a runtime is about a command that was superseded before.
* An effect is that of its command, which was recorded as requested before.
* The facts of a runtime are those of the history, in its order. -/
structure Told (s : RuntimeStore) : Prop where
  ordered : s.history.Pairwise fun e e' =>
    e.command.runtime = e'.command.runtime → e.command.UpTo e'.command
  issued : ∀ before c e after, s.history = before ++ .called c e :: after →
    c.operation.effect = some e ∧ Requested before c
  facts : ∀ r, s.factsOf r = (s.history.filterMap RuntimeEvent.fact).filter (·.command.runtime = r)

/-- What is told, and how far each runtime is. -/
structure Followed (s : RuntimeStore) : Prop extends Told s where
  keyed : ∀ {r c}, s.desired.lookup r = some c → c.runtime = r ∧ Requested s.history c
  newest : ∀ e ∈ s.history, ∃ c, s.desired.lookup e.command.runtime = some c ∧ e.command.UpTo c

theorem ScopedRuntimeCommand.UpTo.trans {c c' c'' : ScopedRuntimeCommand} (h : c.UpTo c')
    (h' : c'.UpTo c'') : c.UpTo c'' := by
  rcases h with rfl | h
  · exact h'
  · rcases h' with rfl | h'
    · exact .inr h
    · exact .inr (h.trans h')

theorem Requested.append {history : List RuntimeEvent} (h : Requested history c) (e : RuntimeEvent) :
    Requested (history ++ [e]) c := by
  obtain ⟨f, hf, hc⟩ := h
  exact ⟨f, List.mem_append_left _ hf, hc⟩

/-- **One event**, about a command that is desired from now on. -/
theorem Followed.append (h : Followed s) (e : RuntimeEvent)
    (hhistory : s'.history = s.history ++ [e])
    (hfacts : ∀ r, s'.factsOf r = s.factsOf r ++ e.fact.toList.filter (·.command.runtime = r))
    (hdesired : s'.desired.lookup e.command.runtime = some e.command)
    (hothers : ∀ r, r ≠ e.command.runtime → s'.desired.lookup r = s.desired.lookup r)
    (hupTo : ∀ c, s.desired.lookup e.command.runtime = some c → c.UpTo e.command)
    (hrequested : Requested s'.history e.command)
    (hissued : ∀ c effect, e = .called c effect →
      c.operation.effect = some effect ∧ Requested s.history c) : Followed s' where
  ordered := by
    rw [hhistory, List.pairwise_append]
    refine ⟨h.ordered, List.pairwise_singleton _ _, ?_⟩
    intro d hd e' he' hr
    rw [List.mem_singleton.mp he'] at hr ⊢
    obtain ⟨c, hc, hup⟩ := h.newest d hd
    exact hup.trans (hupTo c (hr ▸ hc))
  issued before c effect after eq := by
    rw [hhistory] at eq
    rcases split_concat eq with ⟨rfl, rfl⟩ | ⟨after', eq'⟩
    · exact hissued c effect rfl
    · exact h.issued before c effect after' eq'
  facts r := by
    rw [hfacts, h.facts, hhistory, List.filterMap_append, List.filter_append]
    cases e <;> rfl
  keyed {r c} hc := by
    by_cases hr : r = e.command.runtime
    · rw [hr, hdesired] at hc
      cases hc
      exact ⟨hr.symm, hrequested⟩
    · rw [hothers r hr] at hc
      rw [hhistory]
      exact (h.keyed hc).imp_right (·.append e)
  newest d hd := by
    rw [hhistory] at hd
    rcases List.mem_append.mp hd with hd | hd
    · obtain ⟨c, hc, hup⟩ := h.newest d hd
      by_cases hr : d.command.runtime = e.command.runtime
      · rw [hr] at hc ⊢
        exact ⟨_, hdesired, hup.trans (hupTo c hc)⟩
      · rw [hothers _ hr]
        exact ⟨c, hc, hup⟩
    · rw [List.mem_singleton.mp hd]
      exact ⟨_, hdesired, .inl rfl⟩

/-- A fact about the desired command. -/
theorem Followed.appendFact (h : Followed s) {f : ReconciliationFact}
    (hd : s.desired.lookup f.command.runtime = some f.command) : Followed (s.appendFact f) := by
  refine h.append (.recorded f) rfl (fun r => ?_) hd (fun _ _ => rfl) (fun c hc => ?_)
    ((h.keyed hd).2.append _) fun _ _ he => by cases he
  · rw [factsOf_appendFact]
    by_cases hr : r = f.command.runtime
    · simp [RuntimeEvent.fact, hr]
    · simp [RuntimeEvent.fact, hr, Ne.symm hr]
  · exact .inl (Option.some.inj (hc.symm.trans hd))

theorem Followed.request (h : Followed s) (c : ScopedRuntimeCommand) (scope : ScopeIdentity)
    (now : Datetime) : Followed (s.request c scope now).2 := by
  unfold RuntimeStore.request
  split
  · exact h
  · split
    · exact h
    · next s₁ ha =>
      obtain ⟨hnew, hold, hfacts, hhistory, hup⟩ := appendDesired_cases ha
      refine h.append (.recorded ⟨c, .requested, now, none, "DESIRED_PERSISTED"⟩)
        (by rw [← hhistory]; rfl) (fun r => ?_) hnew hold hup
        ⟨_, List.mem_append_right _ List.mem_cons_self, rfl, rfl⟩ fun _ _ he => by cases he
      have hsame : s₁.factsOf r = s.factsOf r := by rw [RuntimeStore.factsOf, hfacts]; rfl
      rw [factsOf_appendFact, hsame]
      by_cases hr : r = c.runtime
      · simp [RuntimeEvent.fact, hr]
      · simp [RuntimeEvent.fact, hr, Ne.symm hr]

theorem Followed.reconcile (h : Followed s) (r : RuntimeInstanceId) (scope : ScopeIdentity)
    (now : Datetime) (freshness : Int) (answers : ProviderAnswers) :
    Followed (s.reconcile r scope now freshness answers).2 := by
  rcases reconcile_cases s r scope now freshness answers with e | ⟨c, hd, hcase⟩
  · rw [e]
    exact h
  obtain ⟨rfl, hrequested⟩ := h.keyed hd
  rcases hcase with ⟨f, rfl, -, e⟩ | ⟨-, -, observation, e⟩
  · rw [e]
    exact h.appendFact hd
  · rw [e]
    obtain ⟨s₁, hs₁, hissue⟩ := issue_cases s c now freshness answers observation
    have hcalled : Followed s₁ ∧ s₁.desired.lookup c.runtime = some c := by
      rcases hs₁ with ⟨effect, heffect, rfl⟩ | rfl
      · refine ⟨h.append (.called c effect) rfl (fun r => (List.append_nil _).symm) hd
          (fun _ _ => rfl) (fun d hd' => .inl (Option.some.inj (hd'.symm.trans hd)))
          (hrequested.append _) ?_, hd⟩
        rintro _ _ ⟨⟩
        exact ⟨heffect, hrequested⟩
      · exact ⟨h, hd⟩
    rcases hissue with e' | ⟨f, rfl, e'⟩
    · rw [e']
      exact hcalled.1
    · rw [e']
      exact hcalled.1.appendFact hcalled.2

/-- **Effects follow their requests.** In every run, whatever the provider answers and
however often a command is requested or reconciled, an effect is called only for a command
that was persisted before and is not superseded, and the repository holds the facts of the
run in their order. -/
theorem effects_follow_requests (calls : List ManagerCall) : Told (RuntimeStore.empty.run calls) := by
  have hempty : Followed RuntimeStore.empty := by
    refine ⟨⟨List.Pairwise.nil, fun before c e after h => ?_, fun _ => rfl⟩, fun h => ?_,
      fun _ h => absurd h List.not_mem_nil⟩
    · exact absurd h.symm (List.append_ne_nil_of_right_ne_nil _ (List.cons_ne_nil _ _))
    · cases h
  suffices h : ∀ s, Followed s → Followed (s.run calls) from (h _ hempty).toTold
  induction calls with
  | nil => exact fun s h => h
  | cons call calls ih =>
    intro s h
    refine ih _ ?_
    cases call with
    | request c scope now => exact h.request c scope now
    | reconcile r scope now freshness answers => exact h.reconcile r scope now freshness answers

end Lemmas

end Manager

/-! ### Sample runs -/

namespace Sample

def desiredState (kind : RuntimeDesiredStateKind) : RuntimeDesiredState where
  runtimeInstanceId := text "runtime-1"
  desiredGeneration := one
  desiredState := kind
  commandId := text "command-1"
  requestedBy := text "principal-1"
  requestedAt := instant 1000000
  deadline := instant 90000000
  reasonClassification := text "TEST"
  deadline_follows := by decide +kernel

def runtimeCommand (operation : RuntimeOperation) : ScopedRuntimeCommand where
  scope := scope
  desired := desiredState operation.expected
  operation := operation
  authorizationReference := "authorization-1"
  placementReference := "placement-1"
  matched := rfl
  authorized := by decide +kernel

def requestOf (operation : RuntimeOperation) : ManagerCall :=
  .request (runtimeCommand operation) scope (instant 2000000)

/-- A reconcile of `runtime-1` that finds the runtime in one state before the
effect and in another after it; `none` is a missing observation. -/
def reconcileSeeing (before after : Option NativeLifecycleState) (effectRaises : Bool) : ManagerCall :=
  .reconcile (text "runtime-1") scope (instant 3000000) 30000000
    ⟨some (before.map (⟨·, none⟩)), effectRaises, some (after.map (⟨·, none⟩))⟩

/-- A replacement that is seen as done, and seen again. -/
def replaceRun : List ManagerCall :=
  [requestOf .replace, reconcileSeeing (some .running) (some .pending) false,
    reconcileSeeing (some .running) none false]

/-- A start whose outcome is unknown, requested again. -/
def restartRun : List ManagerCall :=
  [requestOf .start, reconcileSeeing none none true, requestOf .start, reconcileSeeing none none true]

/-- A replacement of a runtime that stays stopped. -/
def stoppedRun : List ManagerCall :=
  [requestOf .replace, reconcileSeeing none (some .stopped) false,
    reconcileSeeing (some .stopped) (some .stopped) false]

end Sample

open Sample in
theorem ambiguous_effects_not_reissued_sample :
    RuntimeStore.empty.CarefulRun replaceRun ∧
      NeverReissued (RuntimeStore.empty.run replaceRun).history ∧
      ReplacedOnce (RuntimeStore.empty.run replaceRun).history := by
  have h : RuntimeStore.empty.CarefulRun replaceRun := by
    refine ⟨fun _ _ => ⟨by decide +kernel, by decide +kernel⟩, ?_, ?_, trivial⟩
    · -- nothing has been called when the first reconcile begins
      intro c _ hmem
      have hno : ∀ e ∈ (RuntimeStore.empty.step (requestOf .replace)).history,
          ∃ f, e = .recorded f := by
        intro e he
        rw [List.mem_singleton.mp he]
        exact ⟨_, rfl⟩
      obtain ⟨f, hf⟩ := hno _ hmem
      cases hf
    · intro c hc _
      have hlookup : (RuntimeStore.empty.run (replaceRun.take 2)).desired.lookup (text "runtime-1")
          = some (runtimeCommand .replace) := by decide +kernel
      change (RuntimeStore.empty.run (replaceRun.take 2)).desired.lookup _ = some c at hc
      rw [hlookup] at hc
      cases hc
      exact .inr ⟨by decide +kernel, ⟨.running, none⟩, rfl, .inr rfl⟩
  exact ⟨h, ambiguous_effects_not_reissued h⟩

open Sample in
/-- A replayed request opens the way for the effect again, and a replacement is
repeated as long as the runtime is seen as stopped. -/
theorem ambiguous_effects_reissued :
    (¬∀ calls, NeverReissued (RuntimeStore.empty.run calls).history) ∧
      ¬∀ calls, ReplacedOnce (RuntimeStore.empty.run calls).history := by
  constructor
  · intro h
    have hsplit : (RuntimeStore.empty.run restartRun).history
        = (RuntimeStore.empty.run restartRun).history.take 4 ++
          .called (runtimeCommand .start) .startRuntime ::
            (RuntimeStore.empty.run restartRun).history.drop 5 := by decide +kernel
    have := h restartRun _ _ _ _ hsplit
    revert this
    decide +kernel
  · intro h
    have := h stoppedRun (runtimeCommand .replace)
    revert this
    decide +kernel

end AgentPlatform
