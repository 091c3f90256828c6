/-
AgentPlatform/Runtime/OpenClaw.lean

The OpenClaw provider (`providers/openclaw/provider.py`), one instance of it.

The transport may answer anything at each call, and may raise. `sent` lists the
effects it was asked for: starts, executions and replacements.

The provider remembers an execution that raised, one whose observation was
validated and terminal, and a start or a replacement whose observation was
validated. An effect with any other answer is forgotten, and is asked for
again by the next call (`repeated_execution`). A remembered execution answers
every later request with its key, whatever the request is linked to. `run_faithful` is about the runs in which neither happens.
-/
import AgentPlatform.Py.Datetime
import AgentPlatform.Py.Table
import AgentPlatform.Py.Transaction

namespace AgentPlatform

open Py

namespace OpenClaw

/-! ### Values -/

inductive RuntimeMode
  | stateless | stateful
  deriving DecidableEq

inductive SessionAffinity
  | none | required
  deriving DecidableEq

inductive LifecycleState
  | pending | running | stopped | terminated | failed | unknown
  deriving DecidableEq

inductive ExecutionState
  | accepted | running | succeeded | failed | unknown
  deriving DecidableEq

inductive ReadinessState
  | ready | notReady | unknown
  deriving DecidableEq

/-- The reason codes that the provider raises, and the one that lets it go on. -/
inductive ReasonCode
  | exactVersionReady | versionUnsupported | packageIntegrityMismatch | placementRequired
  | identityMismatch | sessionAffinityRequired | sessionAffinityProhibited | observationMissing
  | observationStale | observationConflicting | observationUnknown | providerEffectAmbiguous
  deriving DecidableEq

/-- What a call raises: an `OpenClawError`, or what the transport raised. -/
inductive Failure
  | openClaw (reason : ReasonCode)
  | transport
  deriving DecidableEq

structure ExactTarget where
  version : String
  tagCommit : String
  packageIntegrity : String
  deriving DecidableEq

structure RuntimeBinding where
  namespace_ : String
  securityDomain : String
  runtimeInstanceId : String
  placementId : String
  generation : Int
  mode : RuntimeMode
  sessionAffinity : SessionAffinity
  sessionReference : Option String
  positive : 1 ≤ generation
  session : sessionAffinity = .required ↔ sessionReference.isSome = true

theorem RuntimeBinding.eq_iff {a b : RuntimeBinding} :
    (a.namespace_ = b.namespace_ ∧ a.securityDomain = b.securityDomain
      ∧ a.runtimeInstanceId = b.runtimeInstanceId ∧ a.placementId = b.placementId
      ∧ a.generation = b.generation ∧ a.mode = b.mode ∧ a.sessionAffinity = b.sessionAffinity
      ∧ a.sessionReference = b.sessionReference) ↔ a = b := by
  cases a
  cases b
  simp only [RuntimeBinding.mk.injEq]

instance : DecidableEq RuntimeBinding := fun _ _ => decidable_of_iff _ RuntimeBinding.eq_iff

structure ExecutionLinkage where
  workflowRunId : String
  taskRunId : String
  attemptId : String
  agentInstanceId : String
  runtimeInstanceId : String
  placementId : String
  deriving DecidableEq

structure ExecutionRequest where
  linkage : ExecutionLinkage
  inputReference : String
  idempotencyKey : String
  sessionReference : Option String
  deriving DecidableEq

structure ProviderCorrelation where
  gatewayId : String
  runId : Option String
  sessionId : Option String
  deriving DecidableEq

/-- `RuntimeObservation`; its health is read by no method. -/
structure RuntimeObservation where
  runtimeInstanceId : String
  generation : Int
  state : LifecycleState
  readiness : ReadinessState
  observedAt : Datetime
  freshnessDeadline : Datetime
  correlation : ProviderCorrelation
  fresh : observedAt < freshnessDeadline

/-- `ExecutionObservation`; its reason is read by no method. -/
structure ExecutionObservation where
  linkage : ExecutionLinkage
  state : ExecutionState
  observedAt : Datetime
  correlation : ProviderCorrelation
  resultReference : Option String
  deriving DecidableEq

/-! ### Checks -/

def exactTarget : ExactTarget :=
  ⟨"2026.7.1-2", "0790d9f593ad30c940ed93b5872a8cf6d6f3cf8c",
    "sha512-ycF3yPcbjN6bUPeaUx6Mh6vze1hQWoD3CT/wWcmD7a8xaHHHRUaAlaq+lFxMHf1ssEgODVAwjlzYqp2twkYZ7g=="⟩

def validateTarget (observed : ExactTarget) : ReasonCode :=
  if observed.version ≠ exactTarget.version ∨ observed.tagCommit ≠ exactTarget.tagCommit then
    .versionUnsupported
  else if observed.packageIntegrity ≠ exactTarget.packageIntegrity then .packageIntegrityMismatch
  else .exactVersionReady

/-- Raise unless the condition holds. -/
def require (p : Bool) (reason : ReasonCode) : Except Failure Unit :=
  if p then .ok () else .error (.openClaw reason)

/-- What the transport returned, or what it raised. -/
def answered {α : Type} : Option α → Except Failure α
  | none => .error .transport
  | some a => .ok a

def validateRuntimeObservation (binding : RuntimeBinding) (observed : RuntimeObservation)
    (at' : Datetime) : Except Failure Unit := do
  require (observed.runtimeInstanceId = binding.runtimeInstanceId) .identityMismatch
  require (observed.generation = binding.generation) .observationConflicting
  require (at' ≤ observed.freshnessDeadline) .observationStale
  require (observed.state ≠ .unknown) .observationUnknown

def validateExecutionIdentity (binding : RuntimeBinding) (request : ExecutionRequest) :
    Except Failure Unit := do
  require (request.linkage.runtimeInstanceId = binding.runtimeInstanceId) .identityMismatch
  require (request.linkage.placementId = binding.placementId) .placementRequired
  match binding.sessionAffinity with
  | .required =>
    require (request.sessionReference = binding.sessionReference) .sessionAffinityRequired
  | .none => require request.sessionReference.isNone .sessionAffinityProhibited

def validateExecutionObservation (request : ExecutionRequest) (observed : ExecutionObservation) :
    Except Failure Unit := do
  require (observed.linkage = request.linkage) .identityMismatch
  require (observed.correlation.runId.all fun id =>
    id ≠ request.linkage.workflowRunId && id ≠ request.linkage.taskRunId
      && id ≠ request.linkage.attemptId && id ≠ request.linkage.runtimeInstanceId)
    .identityMismatch

/-! ### The provider -/

/-- The effects a transport is asked for. -/
inductive Effect
  | start (runtimeInstanceId : String) (generation : Int)
  | execute (idempotencyKey : String)
  | replace (runtimeInstanceId : String) (generation : Int)
  deriving DecidableEq

/-- `OpenClawRuntimeProvider`, with the effects its transport was asked for. -/
structure Provider where
  bindings : Table String RuntimeBinding
  terminal : Table String ExecutionObservation
  ambiguous : List String
  sent : List Effect

/-- `OpenClawRuntimeProvider(transport)`. -/
def Provider.new : Provider := ⟨∅, ∅, [], []⟩

/-- What the transport answers during one call; `none` where it raises. -/
structure Answers where
  preflight : Option ExactTarget
  start : Option RuntimeObservation
  observeRuntime : Option (List RuntimeObservation)
  execute : Option ExecutionObservation
  observeExecution : Option (List ExecutionObservation)
  stop : Option RuntimeObservation
  replace : Option RuntimeObservation

/-- The one observation that is expected. -/
def single {α : Type} : List α → Except Failure α
  | [] => .error (.openClaw .observationMissing)
  | [a] => .ok a
  | _ => .error (.openClaw .observationConflicting)

def observeRuntime (t : Answers) (binding : RuntimeBinding) (at' : Datetime) :
    Except Failure RuntimeObservation := do
  let observed ← single (← answered t.observeRuntime)
  validateRuntimeObservation binding observed at'
  return observed

def observeExecution (t : Answers) (request : ExecutionRequest) :
    Except Failure ExecutionObservation := do
  let observed ← single (← answered t.observeExecution)
  validateExecutionObservation request observed
  return observed

namespace Provider

variable (p : Provider)

/-- The transport is asked for an effect. -/
def send (e : Effect) : Provider := { p with sent := p.sent ++ [e] }

/-- The binding is remembered. -/
def bind (binding : RuntimeBinding) : Provider :=
  { p with bindings := p.bindings.insert binding.runtimeInstanceId binding }

/-- The part of `start` before the effect; `some` is its answer without one. -/
def startChecks (t : Answers) (binding : RuntimeBinding) (at' : Datetime) :
    Except Failure (Option RuntimeObservation) := do
  let reason := validateTarget (← answered t.preflight)
  require (reason = .exactVersionReady) reason
  match p.bindings.lookup binding.runtimeInstanceId with
  | none => return none
  | some previous =>
    require (previous.generation ≤ binding.generation) .observationStale
    if binding.generation = previous.generation then
      require (previous = binding) .observationConflicting
      return some (← observeRuntime t binding at')
    return none

def start (t : Answers) (binding : RuntimeBinding) (at' : Datetime) :
    Except Failure RuntimeObservation × Provider :=
  match p.startChecks t binding at' with
  | .error e => (.error e, p)
  | .ok (some observed) => (.ok observed, p)
  | .ok none =>
    let p := p.send (.start binding.runtimeInstanceId binding.generation)
    match t.start with
    | none => (.error .transport, p)
    | some observed =>
      match validateRuntimeObservation binding observed at' with
      | .error e => (.error e, p)
      | .ok () => (.ok observed, p.bind binding)

/-- The part of `execute` before the effect; `some` is its answer without one. -/
def executeChecks (t : Answers) (binding : RuntimeBinding) (request : ExecutionRequest)
    (at' : Datetime) : Except Failure (Option ExecutionObservation) := do
  let runtime ← observeRuntime t binding at'
  require (runtime.state = .running) .observationUnknown
  require (runtime.readiness = .ready) .observationUnknown
  validateExecutionIdentity binding request
  match p.terminal.lookup request.idempotencyKey with
  | some existing => return some existing
  | none =>
    require (request.idempotencyKey ∉ p.ambiguous) .providerEffectAmbiguous
    return none

def execute (t : Answers) (binding : RuntimeBinding) (request : ExecutionRequest) (at' : Datetime) :
    Except Failure ExecutionObservation × Provider :=
  match p.executeChecks t binding request at' with
  | .error e => (.error e, p)
  | .ok (some existing) => (.ok existing, p)
  | .ok none =>
    let p := p.send (.execute request.idempotencyKey)
    match t.execute with
    | none =>
      (.error (.openClaw .providerEffectAmbiguous),
        { p with ambiguous := request.idempotencyKey :: p.ambiguous })
    | some observed =>
      match validateExecutionObservation request observed with
      | .error e => (.error e, p)
      | .ok () =>
        if observed.state = .succeeded ∨ observed.state = .failed then
          (.ok observed, { p with terminal := p.terminal.insert request.idempotencyKey observed })
        else (.ok observed, p)

def stop (t : Answers) (binding : RuntimeBinding) (at' : Datetime) :
    Except Failure RuntimeObservation := do
  match p.bindings.lookup binding.runtimeInstanceId with
  | none => .error (.openClaw .observationMissing)
  | some existing =>
    require (existing = binding) .identityMismatch
    match t.stop with
    | none => .error (.openClaw .providerEffectAmbiguous)
    | some observed =>
      validateRuntimeObservation binding observed at'
      require (observed.state = .stopped ∨ observed.state = .terminated) .observationUnknown
      return observed

/-- The part of `replace` before the effect: the observation of the old runtime. -/
def replaceChecks (t : Answers) (binding : RuntimeBinding) (at' : Datetime) :
    Except Failure RuntimeObservation := do
  match p.bindings.lookup binding.runtimeInstanceId with
  | none => .error (.openClaw .observationMissing)
  | some previous =>
    require (binding.generation = previous.generation + 1) .observationConflicting
    require (binding.namespace_ = previous.namespace_
      && binding.securityDomain = previous.securityDomain
      && binding.placementId = previous.placementId && binding.mode = previous.mode
      && binding.sessionAffinity = previous.sessionAffinity
      && binding.sessionReference = previous.sessionReference) .identityMismatch
    observeRuntime t previous at'

def replace (t : Answers) (binding : RuntimeBinding) (at' : Datetime) :
    Except Failure RuntimeObservation × Provider :=
  match p.replaceChecks t binding at' with
  | .error e => (.error e, p)
  | .ok old =>
    let p := p.send (.replace binding.runtimeInstanceId binding.generation)
    match t.replace with
    | none => (.error .transport, p)
    | some observed =>
      match validateRuntimeObservation binding observed at' with
      | .error e => (.error e, p)
      | .ok () =>
        if observed.correlation.gatewayId = old.correlation.gatewayId then
          (.error (.openClaw .observationConflicting), p)
        else (.ok observed, p.bind binding)

end Provider

/-! ### Runs -/

/-- A call of the provider, with the time it is given. -/
inductive Call
  | start (binding : RuntimeBinding) (at' : Datetime)
  | observeRuntime (binding : RuntimeBinding) (at' : Datetime)
  | execute (binding : RuntimeBinding) (request : ExecutionRequest) (at' : Datetime)
  | observeExecution (request : ExecutionRequest)
  | stop (binding : RuntimeBinding) (at' : Datetime)
  | replace (binding : RuntimeBinding) (at' : Datetime)

/-- What a call returns. -/
inductive Result
  | runtime (o : Except Failure RuntimeObservation)
  | execution (o : Except Failure ExecutionObservation)

/-- One call, and what the transport answers during it. -/
def Provider.step (p : Provider) (t : Answers) : Call → Result × Provider
  | .start binding at' => let (o, p) := p.start t binding at'; (.runtime o, p)
  | .observeRuntime binding at' => (.runtime (OpenClaw.observeRuntime t binding at'), p)
  | .execute binding request at' => let (o, p) := p.execute t binding request at'; (.execution o, p)
  | .observeExecution request => (.execution (OpenClaw.observeExecution t request), p)
  | .stop binding at' => (.runtime (p.stop t binding at'), p)
  | .replace binding at' => let (o, p) := p.replace t binding at'; (.runtime o, p)

/-- A sequence of calls: each with its result, and the provider after it. -/
def Provider.run (p : Provider) : List (Call × Answers) → List (Call × Result) × Provider
  | [] => ([], p)
  | (call, t) :: calls =>
    let (r, p') := p.step t call
    let (rs, p'') := p'.run calls
    ((call, r) :: rs, p'')

/-- No effect was asked for twice, and every observation that `execute` returned
is linked as the request it answers. -/
def Faithful (outcome : List (Call × Result) × Provider) : Prop :=
  outcome.2.sent.Nodup ∧ ∀ binding request at' o,
    (Call.execute binding request at', Result.execution (.ok o)) ∈ outcome.1 →
      o.linkage = request.linkage

/-- The transport's answer to an effect is one that the provider remembers, and
an execution it remembers is linked as the request that it answers. -/
def Provider.Careful (p : Provider) (t : Answers) : Call → Prop
  | .start binding at' => p.startChecks t binding at' = .ok none →
    ∃ o, t.start = some o ∧ validateRuntimeObservation binding o at' = .ok ()
  | .execute binding request at' =>
    (∀ o, p.executeChecks t binding request at' = .ok (some o) → o.linkage = request.linkage)
      ∧ (p.executeChecks t binding request at' = .ok none → ∀ o, t.execute = some o →
        validateExecutionObservation request o = .ok ()
          ∧ (o.state = .succeeded ∨ o.state = .failed))
  | .replace binding at' => ∀ old, p.replaceChecks t binding at' = .ok old →
    ∃ o, t.replace = some o ∧ validateRuntimeObservation binding o at' = .ok ()
      ∧ o.correlation.gatewayId ≠ old.correlation.gatewayId
  | _ => True

/-- Every call of the run is careful. -/
def Provider.CarefulRun (p : Provider) : List (Call × Answers) → Prop
  | [] => True
  | (call, t) :: calls => p.Careful t call ∧ (p.step t call).2.CarefulRun calls

/-! ### What the checks say -/

theorem require_eq_ok {c : Bool} {reason : ReasonCode} : require c reason = .ok () ↔ c = true := by
  cases c <;> simp [require]

section Checks

variable {p : Provider} {t : Answers} {binding : RuntimeBinding} {request : ExecutionRequest}
  {at' : Datetime}

theorem linkage_of_validate {o : ExecutionObservation}
    (h : validateExecutionObservation request o = .ok ()) : o.linkage = request.linkage := by
  obtain ⟨_, hl, _⟩ := bind_eq_ok.mp h
  simpa using require_eq_ok.mp hl

/-- A start reaches the transport only for a later generation than the one remembered. -/
theorem later_of_startChecks (h : p.startChecks t binding at' = .ok none) {previous : RuntimeBinding}
    (hp : p.bindings.lookup binding.runtimeInstanceId = some previous) :
    previous.generation < binding.generation := by
  obtain ⟨target, -, h⟩ := bind_eq_ok.mp h
  obtain ⟨-, -, h⟩ := bind_eq_ok.mp h
  rw [hp] at h
  obtain ⟨_, hle, h⟩ := bind_eq_ok.mp h
  have hle : previous.generation ≤ binding.generation := by simpa using require_eq_ok.mp hle
  split at h
  · obtain ⟨-, -, h⟩ := bind_eq_ok.mp h
    obtain ⟨o, -, h⟩ := bind_eq_ok.mp h
    cases h
  · next hne => omega

/-- An execution reaches the transport only if its key is not remembered. -/
theorem unknown_of_executeChecks (h : p.executeChecks t binding request at' = .ok none) :
    p.terminal.lookup request.idempotencyKey = none ∧ request.idempotencyKey ∉ p.ambiguous := by
  obtain ⟨runtime, -, h⟩ := bind_eq_ok.mp h
  obtain ⟨-, -, h⟩ := bind_eq_ok.mp h
  obtain ⟨-, -, h⟩ := bind_eq_ok.mp h
  obtain ⟨-, -, h⟩ := bind_eq_ok.mp h
  cases hl : p.terminal.lookup request.idempotencyKey with
  | some existing =>
    rw [hl] at h
    cases h
  | none =>
    rw [hl] at h
    obtain ⟨_, hr, _⟩ := bind_eq_ok.mp h
    exact ⟨rfl, by simpa using require_eq_ok.mp hr⟩

/-- A replacement reaches the transport only for the generation after the one remembered. -/
theorem next_of_replaceChecks {old : RuntimeObservation}
    (h : p.replaceChecks t binding at' = .ok old) :
    ∃ previous, p.bindings.lookup binding.runtimeInstanceId = some previous
      ∧ binding.generation = previous.generation + 1 := by
  unfold Provider.replaceChecks at h
  cases hp : p.bindings.lookup binding.runtimeInstanceId with
  | none =>
    rw [hp] at h
    cases h
  | some previous =>
    rw [hp] at h
    obtain ⟨_, hr, _⟩ := bind_eq_ok.mp h
    exact ⟨previous, rfl, by simpa using require_eq_ok.mp hr⟩

end Checks

/-! ### Memory -/

/-- Every effect the transport was asked for is remembered, and none was asked
for twice. -/
structure Provider.Remembers (p : Provider) : Prop where
  once : p.sent.Nodup
  executed : ∀ key, .execute key ∈ p.sent →
    (p.terminal.lookup key).isSome = true ∨ key ∈ p.ambiguous
  bound : ∀ id g, (.start id g ∈ p.sent ∨ .replace id g ∈ p.sent) →
    ∃ b, p.bindings.lookup id = some b ∧ g ≤ b.generation

namespace Provider.Remembers

variable {p : Provider}

theorem new : Provider.new.Remembers :=
  ⟨List.nodup_nil, fun _ h => (List.not_mem_nil h).elim,
    fun _ _ h => h.elim (fun h => (List.not_mem_nil h).elim) fun h => (List.not_mem_nil h).elim⟩

/-- A start or a replacement of a later generation than the one remembered is
new, and is remembered once its binding is. -/
theorem bind_send (h : p.Remembers) {binding : RuntimeBinding} {e : Effect}
    (he : e = .start binding.runtimeInstanceId binding.generation
      ∨ e = .replace binding.runtimeInstanceId binding.generation)
    (hlater : ∀ previous, p.bindings.lookup binding.runtimeInstanceId = some previous →
      previous.generation < binding.generation) :
    ((p.send e).bind binding).Remembers := by
  have hnew : e ∉ p.sent := by
    intro hmem
    have hsent : Effect.start binding.runtimeInstanceId binding.generation ∈ p.sent
        ∨ Effect.replace binding.runtimeInstanceId binding.generation ∈ p.sent := by
      rcases he with rfl | rfl
      · exact .inl hmem
      · exact .inr hmem
    obtain ⟨b, hb, hle⟩ := h.bound _ _ hsent
    exact absurd (hlater b hb) (Int.not_lt.mpr hle)
  refine ⟨?_, ?_, ?_⟩
  · exact List.nodup_append.mpr ⟨h.once, List.nodup_singleton e, by
      rintro a ha b hb rfl
      exact hnew (List.mem_singleton.mp hb ▸ ha)⟩
  · intro key hkey
    rcases List.mem_append.mp hkey with hkey | hkey
    · exact h.executed key hkey
    · rcases he with rfl | rfl <;> simp at hkey
  · intro id g hsent
    show ∃ b, (p.bindings.insert binding.runtimeInstanceId binding).lookup id = some b ∧ g ≤ b.generation
    by_cases hid : id = binding.runtimeInstanceId
    · subst hid
      refine ⟨binding, AList.lookup_insert _, ?_⟩
      by_cases hold : .start binding.runtimeInstanceId g ∈ p.sent
          ∨ .replace binding.runtimeInstanceId g ∈ p.sent
      · obtain ⟨b, hb, hle⟩ := h.bound _ _ hold
        exact Int.le_of_lt (Int.lt_of_le_of_lt hle (hlater b hb))
      · rcases he with rfl | rfl <;> simp_all [Provider.bind, Provider.send]
    · rw [AList.lookup_insert_ne hid]
      apply h.bound
      rcases he with rfl | rfl <;> simpa [Provider.bind, Provider.send, hid] using hsent

/-- An execution whose key is not remembered is new, and is remembered once its
key is. -/
theorem send_execute (h : p.Remembers) {key : String} {p' : Provider}
    (hterminal : p.terminal.lookup key = none) (hambiguous : key ∉ p.ambiguous)
    (hsent : p'.sent = p.sent ++ [.execute key]) (hbindings : p'.bindings = p.bindings)
    (hkept : ∀ k, (p.terminal.lookup k).isSome = true ∨ k ∈ p.ambiguous →
      (p'.terminal.lookup k).isSome = true ∨ k ∈ p'.ambiguous)
    (hkey : (p'.terminal.lookup key).isSome = true ∨ key ∈ p'.ambiguous) : p'.Remembers := by
  have hnew : Effect.execute key ∉ p.sent := by
    intro hmem
    rcases h.executed key hmem with hs | hs
    · rw [hterminal] at hs
      cases hs
    · exact hambiguous hs
  refine ⟨?_, ?_, ?_⟩
  · rw [hsent]
    exact List.nodup_append.mpr ⟨h.once, List.nodup_singleton _, by
      rintro a ha b hb rfl
      exact hnew (List.mem_singleton.mp hb ▸ ha)⟩
  · intro k hk
    rw [hsent] at hk
    rcases List.mem_append.mp hk with hk | hk
    · exact hkept k (h.executed k hk)
    · cases List.mem_singleton.mp hk
      exact hkey
  · intro id g hmem
    rw [hsent] at hmem
    rw [hbindings]
    apply h.bound
    simpa using hmem

/-- **One careful call** keeps the memory complete, and an observation that
`execute` returns is linked as its request. -/
theorem step (h : p.Remembers) {t : Answers} {call : Call} (hc : p.Careful t call) :
    (p.step t call).2.Remembers ∧ ∀ binding request at' o, call = .execute binding request at' →
      (p.step t call).1 = .execution (.ok o) → o.linkage = request.linkage := by
  cases call with
  | start binding at' =>
    refine ⟨?_, fun _ _ _ _ hcall => by cases hcall⟩
    show (p.start t binding at').2.Remembers
    cases hk : p.startChecks t binding at' with
    | error e => simpa only [start, hk] using h
    | ok o =>
      cases o with
      | some o => simpa only [start, hk] using h
      | none =>
        obtain ⟨o, ho, hv⟩ := hc hk
        simp only [start, hk, ho, hv]
        exact h.bind_send (.inl rfl) fun _ hp => later_of_startChecks hk hp
  | replace binding at' =>
    refine ⟨?_, fun _ _ _ _ hcall => by cases hcall⟩
    show (p.replace t binding at').2.Remembers
    cases hk : p.replaceChecks t binding at' with
    | error e => simpa only [replace, hk] using h
    | ok old =>
      obtain ⟨o, ho, hv, hg⟩ := hc old hk
      simp only [replace, hk, ho, hv, if_neg hg]
      obtain ⟨previous, hp, hnext⟩ := next_of_replaceChecks hk
      refine h.bind_send (.inr rfl) fun b hb => ?_
      rw [hp] at hb
      cases hb
      omega
  | execute binding request at' =>
    obtain ⟨hstored, hanswer⟩ := hc
    show (p.execute t binding request at').2.Remembers ∧ _
    cases hk : p.executeChecks t binding request at' with
    | error e =>
      refine ⟨by simpa only [execute, hk] using h, ?_⟩
      rintro _ _ _ o ⟨⟩ ho
      simp [Provider.step, execute, hk] at ho
    | ok existing =>
      cases existing with
      | some existing =>
        refine ⟨by simpa only [execute, hk] using h, ?_⟩
        rintro _ _ _ o ⟨⟩ ho
        simp only [Provider.step, execute, hk, Result.execution.injEq, Except.ok.injEq] at ho
        exact ho ▸ hstored existing hk
      | none =>
        obtain ⟨hterminal, hambiguous⟩ := unknown_of_executeChecks hk
        cases ht : t.execute with
        | none =>
          refine ⟨?_, ?_⟩
          · simp only [execute, hk, ht]
            refine h.send_execute hterminal hambiguous rfl rfl ?_ (.inr List.mem_cons_self)
            rintro k (hs | hs)
            · exact .inl hs
            · exact .inr (List.mem_cons_of_mem _ hs)
          · rintro _ _ _ o ⟨⟩ ho
            simp [Provider.step, execute, hk, ht] at ho
        | some o =>
          obtain ⟨hv, hstate⟩ := hanswer hk o ht
          refine ⟨?_, ?_⟩
          · simp only [execute, hk, ht, hv, if_pos hstate]
            refine h.send_execute hterminal hambiguous rfl rfl ?_ (.inl ?_)
            · rintro k (hs | hs)
              · left
                show ((p.terminal.insert request.idempotencyKey o).lookup k).isSome = true
                by_cases hkey : k = request.idempotencyKey
                · subst hkey
                  rw [AList.lookup_insert]
                  rfl
                · rwa [AList.lookup_insert_ne hkey]
              · exact .inr hs
            · show ((p.terminal.insert request.idempotencyKey o).lookup _).isSome = true
              rw [AList.lookup_insert]
              rfl
          · rintro _ _ _ o' ⟨⟩ ho
            simp only [Provider.step, execute, hk, ht, hv, if_pos hstate, Result.execution.injEq,
              Except.ok.injEq] at ho
            exact ho ▸ linkage_of_validate hv
  | observeRuntime binding at' => exact ⟨h, fun _ _ _ _ hcall => by cases hcall⟩
  | observeExecution request => exact ⟨h, fun _ _ _ _ hcall => by cases hcall⟩
  | stop binding at' => exact ⟨h, fun _ _ _ _ hcall => by cases hcall⟩

/-- A careful run keeps the memory complete and mixes no results up. -/
theorem run (h : p.Remembers) {calls : List (Call × Answers)} (hc : p.CarefulRun calls) :
    (p.run calls).2.Remembers ∧ ∀ binding request at' o,
      (Call.execute binding request at', Result.execution (.ok o)) ∈ (p.run calls).1 →
        o.linkage = request.linkage := by
  induction calls generalizing p with
  | nil => exact ⟨h, fun _ _ _ _ hmem => by cases hmem⟩
  | cons turn calls ih =>
    obtain ⟨call, t⟩ := turn
    obtain ⟨hstep, hrest⟩ := hc
    obtain ⟨hnext, hlinked⟩ := h.step hstep
    obtain ⟨hlast, hlinks⟩ := ih hnext hrest
    refine ⟨hlast, fun binding request at' o hmem => ?_⟩
    rcases List.mem_cons.mp hmem with heq | hmem
    · obtain ⟨hcall, hresult⟩ := Prod.mk.inj heq
      exact hlinked binding request at' o hcall.symm hresult.symm
    · exact hlinks binding request at' o hmem

end Provider.Remembers

/-- **Effects are not repeated and results are not mixed up** in the runs whose
effects are all answered in a way that the provider remembers. -/
theorem run_faithful {calls : List (Call × Answers)} (h : Provider.new.CarefulRun calls) :
    Faithful (Provider.new.run calls) :=
  ⟨(Provider.Remembers.new.run h).1.once, (Provider.Remembers.new.run h).2⟩

/-! ### Runs that are not careful -/

theorem sampleGeneration_pos : (1 : Int) ≤ 1 := by decide

/-- A runtime and a request for it. -/
def sampleBinding : RuntimeBinding :=
  ⟨"tenant-a", "domain-a", "runtime-1", "placement-1", 1, .stateless, .none, none,
    sampleGeneration_pos, by decide⟩

def sampleRequest (taskRunId : String) : ExecutionRequest :=
  ⟨⟨"workflow-run-1", taskRunId, "attempt-1", "agent-1", "runtime-1", "placement-1"⟩,
    "input-reference-1", "idempotency-1", none⟩

def sampleTime : Datetime := ⟨0, zero_lt_maxMicros⟩

def sampleRuntime : RuntimeObservation :=
  ⟨"runtime-1", 1, .running, .ready, sampleTime, ⟨30000000, by decide⟩, ⟨"gateway-1", none, none⟩,
    by decide⟩

/-- A transport whose runtime is up and whose executions end in this state. -/
def sampleAnswers (state : ExecutionState) : Answers where
  preflight := some exactTarget
  start := some sampleRuntime
  observeRuntime := some [sampleRuntime]
  execute := some ⟨(sampleRequest "task-run-1").linkage, state, sampleTime,
    ⟨"gateway-1", some "openclaw-run-1", none⟩, none⟩
  observeExecution := some []
  stop := none
  replace := none

theorem run_faithful_once : Faithful (Provider.new.run
    [(.start sampleBinding sampleTime, sampleAnswers .succeeded),
      (.execute sampleBinding (sampleRequest "task-run-1") sampleTime, sampleAnswers .succeeded)]) := by
  refine run_faithful ⟨fun _ => ⟨sampleRuntime, rfl, rfl⟩, ⟨?_, ?_⟩, trivial⟩
  · intro o ho
    cases ho
  · rintro - o ⟨⟩
    exact ⟨rfl, .inl rfl⟩

/-- An accepted execution is not remembered: the same request reaches the
transport a second time. -/
theorem repeated_execution : ¬ ∀ calls, Faithful (Provider.new.run calls) := by
  intro h
  have hrun := (h [(.start sampleBinding sampleTime, sampleAnswers .accepted),
    (.execute sampleBinding (sampleRequest "task-run-1") sampleTime, sampleAnswers .accepted),
    (.execute sampleBinding (sampleRequest "task-run-1") sampleTime, sampleAnswers .accepted)]).1
  exact absurd hrun (by decide)

end OpenClaw

end AgentPlatform
