/-
AgentPlatform/Runtime/NativeProvider.lean

The invocations of the native provider (`providers/native/provider.py`), one
instance of it.

The provider keeps the evidence of each successful invocation under the identity
of its execution, and beside it the set of the native identifiers that are taken.
`cleanup` takes both away. A second success under one identity overwrites the
evidence of the first and leaves its native identifier taken for good.

**Main result:** `bookkeeping_iff`, the set is that of the stored evidence after
every call of a run, and is emptied by a cleanup of all identities, exactly if no
invocation of the run `Replaces` evidence that has a native identifier.

The invoker may answer anything at each call, and the scan of a configuration for
secrets is a parameter.
-/
import AgentPlatform.Placement.Evaluator
import AgentPlatform.Py.Dict

namespace AgentPlatform

open Py

namespace NativeProvider

open Placement (RuntimeTarget CompatibilityRequest CompatibilityDecision validateCompatibility
  runtimeTarget)

/-! ### Values -/

/-- The reasons of the provider. -/
inductive Reason
  | compatibility (reason : Placement.DiagnosticReason)
  | bindingConfigurationUnsupported
  | bindingSecretValueProhibited
  | nativeIdSubstitutionRejected
  | nativeInvocationIdDuplicate
  | invocationFailed
  | invocationTimeoutAmbiguous
  | cleanupCompleted
  | cleanupFailed

def Reason.value : Reason → String
  | compatibility reason => reason.value
  | bindingConfigurationUnsupported => "BINDING_CONFIGURATION_UNSUPPORTED"
  | bindingSecretValueProhibited => "BINDING_SECRET_VALUE_PROHIBITED"
  | nativeIdSubstitutionRejected => "NATIVE_ID_SUBSTITUTION_REJECTED"
  | nativeInvocationIdDuplicate => "NATIVE_INVOCATION_ID_DUPLICATE"
  | invocationFailed => "INVOCATION_FAILED"
  | invocationTimeoutAmbiguous => "INVOCATION_TIMEOUT_AMBIGUOUS"
  | cleanupCompleted => "CLEANUP_COMPLETED"
  | cleanupFailed => "CLEANUP_FAILED"

inductive ExecutionState
  | succeeded
  | failed
  | unknown
  deriving DecidableEq

inductive SupportState
  | supported
  | notSupported
  deriving DecidableEq

structure DesiredRuntimeBinding where
  runtimeTarget : RuntimeTarget
  configuration : Dict String String

structure EffectiveRuntimeBinding where
  runtimeTarget : RuntimeTarget
  configuration : List (String × String)

structure BindingEvidence where
  desired : DesiredRuntimeBinding
  effective : EffectiveRuntimeBinding
  redactedDesiredConfiguration : List (String × String)

structure ProviderExecutionRequest where
  platformExecutionIdentity : String
  input : String
  compatibility : CompatibilityRequest
  desiredBinding : DesiredRuntimeBinding
  claimedNativeInvocationId : Option String

structure NativeInvocation where
  output : String
  nativeInvocationId : Option String

structure ExecutionCorrelation where
  platformExecutionIdentity : String
  nativeInvocationId : Option String

structure ExecutionEvidence where
  state : ExecutionState
  correlation : ExecutionCorrelation
  compatibility : CompatibilityDecision
  binding : Option BindingEvidence
  output : Option String
  reason : Reason
  diagnostic : String

structure CleanupResult where
  state : SupportState
  platformExecutionIdentity : String
  reason : Reason

/-! ### The binding -/

inductive SecretScanResult
  | clean
  | secret
  | unsupported

/-- `_scan_secret_boundary`. -/
abbrev Scan := Dict String String → SecretScanResult

def supportedConfiguration : List String :=
  ["AGENT_DISPLAY_NAME", "AGENT_NAME", "AGENT_NAMESPACE", "AGENT_ROLE", "MODEL_NAME",
    "MODEL_PROVIDER"]

/-- `tuple(sorted(configuration.items()))`; the keys are distinct. -/
def sortedItems (configuration : Dict String String) : List (String × String) :=
  configuration.entries.insertionSort fun a b => a.1 ≤ b.1

/-- The configuration that is put into effect. -/
def effectiveConfiguration (copied : Dict String String) : Dict String String :=
  let effective := (((Dict.empty.set "AGENT_NAME" ((copied.get? "AGENT_NAME").getD "unknown")).set
    "AGENT_NAMESPACE" ((copied.get? "AGENT_NAMESPACE").getD "unknown")).set
    "MODEL_NAME" ((copied.get? "MODEL_NAME").getD "mock-model")).set "MODEL_PROVIDER" "mock"
  ["AGENT_DISPLAY_NAME", "AGENT_ROLE"].foldl (fun d optional =>
    match copied.get? optional with
    | some value => d.set optional value
    | none => d) effective

def translateBinding (scan : Scan) (desired : DesiredRuntimeBinding) :
    Except Reason BindingEvidence :=
  if desired.runtimeTarget ≠ runtimeTarget then .error .bindingConfigurationUnsupported
  else
    match scan desired.configuration with
    | .secret => .error .bindingSecretValueProhibited
    | .unsupported => .error .bindingConfigurationUnsupported
    | .clean =>
      let copied := desired.configuration
      if ¬ ∀ key ∈ copied.keys, key ∈ supportedConfiguration then
        .error .bindingConfigurationUnsupported
      else if (copied.get? "MODEL_PROVIDER").getD "mock" ≠ "mock" then
        .error .bindingConfigurationUnsupported
      else
        .ok ⟨desired, ⟨runtimeTarget, sortedItems (effectiveConfiguration copied)⟩,
          sortedItems copied⟩

/-! ### The provider -/

/-- What the invoker does: it returns, or raises one of its two failures or
something else. -/
inductive Answer
  | returned (invocation : NativeInvocation)
  | ambiguousTimeout
  | failure
  | raised

/-- An invoker, asked with the identity, the input and the configuration. -/
abbrev Invoker := String → String → List (String × String) → Answer

/-- `NativeRuntimeProvider`. -/
structure Provider where
  results : Dict String ExecutionEvidence
  nativeIds : Finset String

/-- `NativeRuntimeProvider()`. -/
def Provider.init : Provider := ⟨.empty, ∅⟩

def failureEvidence (correlation : ExecutionCorrelation) (decision : CompatibilityDecision)
    (reason : Reason) (state : ExecutionState) (binding : Option BindingEvidence) :
    ExecutionEvidence :=
  ⟨state, correlation, decision, binding, none, reason, reason.value⟩

def successEvidence (identity : String) (decision : CompatibilityDecision)
    (binding : BindingEvidence) (invocation : NativeInvocation) : ExecutionEvidence :=
  ⟨.succeeded, ⟨identity, invocation.nativeInvocationId⟩, decision, some binding,
    some invocation.output, .compatibility decision.reason,
    "native invocation normalized: " ++ decision.reason.value⟩

namespace Provider

/-- The native identifiers with one more, if there is one. -/
def reserve (s : Provider) (nativeId : Option String) : Finset String :=
  match nativeId with
  | some id => insert id s.nativeIds
  | none => s.nativeIds

/-- The end of `invoke`: a success is stored. -/
def store (s : Provider) (identity : String) (evidence : ExecutionEvidence) : Provider :=
  ⟨s.results.set identity evidence, s.reserve evidence.correlation.nativeInvocationId⟩

/-- `invoke(request)`; no evidence is returned where the invoker raises something
else. The decision is about the identity of the compatibility request. -/
def invoke (scan : Scan) (invoker : Invoker) (s : Provider) (request : ProviderExecutionRequest) :
    Provider × Option ExecutionEvidence :=
  let identity := request.platformExecutionIdentity
  let decision := validateCompatibility request.compatibility
  let correlation : ExecutionCorrelation := ⟨identity, none⟩
  if identity ≠ request.compatibility.platformExecutionIdentity then
    (s, some (failureEvidence correlation decision .nativeIdSubstitutionRejected .failed none))
  else if request.claimedNativeInvocationId ≠ none then
    (s, some (failureEvidence correlation decision .nativeIdSubstitutionRejected .failed none))
  else if ¬ decision.accepted then
    (s, some (failureEvidence correlation decision (.compatibility decision.reason) .failed none))
  else
    match translateBinding scan request.desiredBinding with
    | .error reason => (s, some (failureEvidence correlation decision reason .failed none))
    | .ok binding =>
      match invoker identity request.input binding.effective.configuration with
      | .ambiguousTimeout =>
        (s, some (failureEvidence correlation decision .invocationTimeoutAmbiguous .unknown binding))
      | .failure => (s, some (failureEvidence correlation decision .invocationFailed .failed binding))
      | .raised => (s, none)
      | .returned invocation =>
        if invocation.nativeInvocationId = some identity then
          (s, some (failureEvidence correlation decision .nativeIdSubstitutionRejected .failed
            binding))
        else if ∃ id ∈ invocation.nativeInvocationId, id ∈ s.nativeIds then
          (s, some (failureEvidence ⟨identity, invocation.nativeInvocationId⟩ decision
            .nativeInvocationIdDuplicate .failed binding))
        else
          let evidence := successEvidence identity decision binding invocation
          (s.store identity evidence, some evidence)

/-- `cleanup(platform_execution_identity)`. -/
def cleanup (s : Provider) (identity : String) : Provider × CleanupResult :=
  match s.results.get? identity with
  | none => (s, ⟨.notSupported, identity, .cleanupFailed⟩)
  | some evidence =>
    let nativeIds :=
      match evidence.correlation.nativeInvocationId with
      | some id => s.nativeIds.erase id
      | none => s.nativeIds
    (⟨s.results.pop identity, nativeIds⟩, ⟨.supported, identity, .cleanupCompleted⟩)

/-! ### What a call does -/

/-- The checks of an invocation pass, and the invoker returns another identifier
than that of the execution. -/
structure Passes (scan : Scan) (invoker : Invoker) (request : ProviderExecutionRequest)
    (binding : BindingEvidence) (invocation : NativeInvocation) : Prop where
  sameIdentity :
    request.platformExecutionIdentity = request.compatibility.platformExecutionIdentity
  unclaimed : request.claimedNativeInvocationId = none
  compatible : (validateCompatibility request.compatibility).accepted = true
  translated : translateBinding scan request.desiredBinding = .ok binding
  answered : invoker request.platformExecutionIdentity request.input
    binding.effective.configuration = .returned invocation
  notIdentity : invocation.nativeInvocationId ≠ some request.platformExecutionIdentity

/-- The identifier of an invocation is not taken. -/
def Free (s : Provider) (invocation : NativeInvocation) : Prop :=
  ∀ id ∈ invocation.nativeInvocationId, id ∉ s.nativeIds

variable {scan : Scan} {invoker : Invoker} {s : Provider} {request : ProviderExecutionRequest}
  {binding : BindingEvidence} {invocation : NativeInvocation}

theorem invoke_of_passes (h : Passes scan invoker request binding invocation)
    (hfree : s.Free invocation) :
    s.invoke scan invoker request
      = (s.store request.platformExecutionIdentity (successEvidence
          request.platformExecutionIdentity (validateCompatibility request.compatibility) binding
          invocation),
        some (successEvidence request.platformExecutionIdentity
          (validateCompatibility request.compatibility) binding invocation)) := by
  have htaken : ¬∃ id ∈ invocation.nativeInvocationId, id ∈ s.nativeIds := by
    rintro ⟨id, hid, hmem⟩
    exact hfree id hid hmem
  rw [invoke]
  simp only [ne_eq]
  rw [if_neg (not_not.mpr h.sameIdentity), if_neg (not_not.mpr h.unclaimed),
    if_neg (not_not.mpr h.compatible), h.translated]
  simp only [h.answered]
  rw [if_neg h.notIdentity, if_neg htaken]

/-- **What an invocation does:** nothing to the provider, or it passes with a free
identifier. -/
theorem invoke_cases (scan : Scan) (invoker : Invoker) (s : Provider)
    (request : ProviderExecutionRequest) :
    (s.invoke scan invoker request).1 = s ∨ ∃ binding invocation,
      Passes scan invoker request binding invocation ∧ s.Free invocation := by
  by_cases hidentity :
      request.platformExecutionIdentity = request.compatibility.platformExecutionIdentity
  · by_cases hclaim : request.claimedNativeInvocationId = none
    · by_cases haccepted : (validateCompatibility request.compatibility).accepted = true
      · cases htranslated : translateBinding scan request.desiredBinding with
        | error reason => left; simp [invoke, hidentity, hclaim, haccepted, htranslated]
        | ok binding =>
          cases hanswer : invoker request.platformExecutionIdentity request.input
              binding.effective.configuration with
          | ambiguousTimeout =>
            left
            rw [hidentity] at hanswer
            simp [invoke, hidentity, hclaim, haccepted, htranslated, hanswer]
          | failure =>
            left
            rw [hidentity] at hanswer
            simp [invoke, hidentity, hclaim, haccepted, htranslated, hanswer]
          | raised =>
            left
            rw [hidentity] at hanswer
            simp [invoke, hidentity, hclaim, haccepted, htranslated, hanswer]
          | returned invocation =>
            by_cases hnative :
                invocation.nativeInvocationId = some request.platformExecutionIdentity
            · left
              rw [hidentity] at hanswer hnative
              simp [invoke, hidentity, hclaim, haccepted, htranslated, hanswer, hnative]
            · by_cases htaken : ∃ id ∈ invocation.nativeInvocationId, id ∈ s.nativeIds
              · left
                rw [hidentity] at hanswer hnative
                simp only [invoke, hidentity, hclaim, haccepted, htranslated, hanswer, hnative,
                  htaken, ne_eq, not_true_eq_false, if_true, if_false]
              · right
                refine ⟨binding, invocation, ⟨hidentity, hclaim, haccepted, htranslated, hanswer,
                  hnative⟩, ?_⟩
                intro id hid hmem
                exact htaken ⟨id, hid, hmem⟩
      · left
        simp [invoke, hidentity, hclaim, haccepted]
    · left
      simp [invoke, hidentity, hclaim]
  · left
    simp [invoke, hidentity]

/-! ### The books -/

/-- The native identifier of the evidence stored under an identity. -/
def Stored (s : Provider) (identity id : String) : Prop :=
  ∃ evidence, s.results.get? identity = some evidence ∧ evidence.state = .succeeded
    ∧ evidence.correlation.nativeInvocationId = some id

/-- The set is that of the stored evidence, whose identifiers are distinct. -/
structure Sound (s : Provider) : Prop where
  reserved : ∀ id, id ∈ s.nativeIds ↔ ∃ identity, s.Stored identity id
  distinct : ∀ {identity identity' id}, s.Stored identity id → s.Stored identity' id →
    identity = identity'

/-- Only successes are stored. -/
def Successes (s : Provider) : Prop :=
  ∀ identity evidence, s.results.get? identity = some evidence → evidence.state = .succeeded

theorem mem_store {identity id : String} {evidence : ExecutionEvidence} :
    id ∈ (s.store identity evidence).nativeIds
      ↔ evidence.correlation.nativeInvocationId = some id ∨ id ∈ s.nativeIds := by
  simp only [store, reserve]
  cases evidence.correlation.nativeInvocationId with
  | none => simp
  | some id' => simp [eq_comm]

theorem stored_store {identity identity' id : String} {evidence : ExecutionEvidence}
    (h : evidence.state = .succeeded) :
    (s.store identity evidence).Stored identity' id
      ↔ (identity = identity' ∧ evidence.correlation.nativeInvocationId = some id)
        ∨ (identity ≠ identity' ∧ s.Stored identity' id) := by
  simp only [Stored, store, Dict.get?_set]
  by_cases hi : identity = identity'
  · simp [hi, h]
  · simp [hi]

theorem stored_cleanup {identity identity' id : String} :
    (s.cleanup identity).1.Stored identity' id ↔ identity ≠ identity' ∧ s.Stored identity' id := by
  rw [cleanup]
  cases hget : s.results.get? identity with
  | none =>
    constructor
    · rintro ⟨evidence, he, hrest⟩
      refine ⟨?_, evidence, he, hrest⟩
      rintro rfl
      rw [hget] at he
      cases he
    · exact fun h => h.2
  | some evidence =>
    simp only [Stored, Dict.get?_pop]
    by_cases hi : identity = identity'
    · simp [hi]
    · simp [hi]

theorem successes_cleanup (h : s.Successes) (identity : String) :
    (s.cleanup identity).1.Successes := by
  rw [cleanup]
  cases hget : s.results.get? identity with
  | none => exact h
  | some evidence =>
    intro identity' evidence' he
    rw [Dict.get?_pop] at he
    split at he
    · cases he
    · exact h identity' evidence' he

/-- A cleanup keeps the books. -/
theorem sound_cleanup (h : s.Sound) (hs : s.Successes) (identity : String) :
    (s.cleanup identity).1.Sound := by
  refine ⟨?_, ?_⟩
  · intro id
    have hmem : id ∈ (s.cleanup identity).1.nativeIds
        ↔ ¬ s.Stored identity id ∧ id ∈ s.nativeIds := by
      rw [cleanup]
      cases hget : s.results.get? identity with
      | none => simp [Stored, hget]
      | some evidence =>
        have hstate := hs identity evidence hget
        cases hnative : evidence.correlation.nativeInvocationId with
        | none => simp [Stored, hget, hnative]
        | some id' => simp [Stored, hget, hnative, hstate, eq_comm]
    rw [hmem, h.reserved]
    constructor
    · rintro ⟨hno, identity', hstored⟩
      refine ⟨identity', stored_cleanup.mpr ⟨?_, hstored⟩⟩
      rintro rfl
      exact hno hstored
    · rintro ⟨identity', hstored⟩
      obtain ⟨hne, hold⟩ := stored_cleanup.mp hstored
      exact ⟨fun h' => hne (h.distinct h' hold), identity', hold⟩
  · intro identity₁ identity₂ id h₁ h₂
    exact h.distinct (stored_cleanup.mp h₁).2 (stored_cleanup.mp h₂).2

theorem successes_store (h : s.Successes) {identity : String} {evidence : ExecutionEvidence}
    (he : evidence.state = .succeeded) : (s.store identity evidence).Successes := by
  intro identity' evidence' hget
  rw [store, Dict.get?_set] at hget
  split at hget
  · cases hget
    exact he
  · exact h identity' evidence' hget

/-- A success keeps the books where it does not overwrite an identifier. -/
theorem sound_store (h : s.Sound) {identity : String} {evidence : ExecutionEvidence}
    (he : evidence.state = .succeeded)
    (hfree : ∀ id ∈ evidence.correlation.nativeInvocationId, id ∉ s.nativeIds)
    (hnew : ∀ id, ¬ s.Stored identity id) : (s.store identity evidence).Sound := by
  have hold : ∀ {identity' id}, s.Stored identity' id →
      (s.store identity evidence).Stored identity' id := by
    intro identity' id hstored
    refine (stored_store he).mpr (.inr ⟨?_, hstored⟩)
    rintro rfl
    exact hnew id hstored
  refine ⟨?_, ?_⟩
  · intro id
    rw [mem_store, h.reserved]
    constructor
    · rintro (hid | ⟨identity', hstored⟩)
      · exact ⟨identity, (stored_store he).mpr (.inl ⟨rfl, hid⟩)⟩
      · exact ⟨identity', hold hstored⟩
    · rintro ⟨identity', hstored⟩
      rcases (stored_store he).mp hstored with ⟨-, hid⟩ | ⟨-, hstored'⟩
      · exact .inl hid
      · exact .inr ⟨identity', hstored'⟩
  · -- the new identifier was free, so no other evidence has it
    have hother : ∀ {identity' id}, evidence.correlation.nativeInvocationId = some id →
        ¬ s.Stored identity' id := fun hid hstored =>
      hfree _ hid ((h.reserved _).mpr ⟨_, hstored⟩)
    intro identity₁ identity₂ id h₁ h₂
    rcases (stored_store he).mp h₁ with ⟨hi₁, hid₁⟩ | ⟨-, hs₁⟩
    · rcases (stored_store he).mp h₂ with ⟨hi₂, -⟩ | ⟨-, hs₂⟩
      · exact hi₁.symm.trans hi₂
      · exact absurd hs₂ (hother hid₁)
    · rcases (stored_store he).mp h₂ with ⟨-, hid₂⟩ | ⟨-, hs₂⟩
      · exact absurd hs₁ (hother hid₂)
      · exact h.distinct hs₁ hs₂

/-- A success that overwrites an identifier breaks the books. -/
theorem not_sound_store (h : s.Sound) {identity id : String} {evidence : ExecutionEvidence}
    (he : evidence.state = .succeeded)
    (hfree : ∀ id ∈ evidence.correlation.nativeInvocationId, id ∉ s.nativeIds)
    (hstored : s.Stored identity id) : ¬ (s.store identity evidence).Sound := by
  intro hsound
  have htaken : id ∈ s.nativeIds := (h.reserved id).mpr ⟨identity, hstored⟩
  obtain ⟨identity', hstored'⟩ := (hsound.reserved id).mp (mem_store.mpr (.inr htaken))
  rcases (stored_store he).mp hstored' with ⟨-, hid⟩ | ⟨hne, hold⟩
  · exact hfree id hid htaken
  · exact hne (h.distinct hstored hold)

end Provider

/-! ### Runs -/

/-- A call of the provider. -/
inductive Call
  | invoke (invoker : Invoker) (request : ProviderExecutionRequest)
  | cleanup (identity : String)

def Call.identity : Call → String
  | .invoke _ request => request.platformExecutionIdentity
  | .cleanup identity => identity

/-- The provider after a call. -/
def step (scan : Scan) (s : Provider) : Call → Provider
  | .invoke invoker request => (s.invoke scan invoker request).1
  | .cleanup identity => (s.cleanup identity).1

/-- The provider after some calls. -/
def run (scan : Scan) (calls : List Call) : Provider := calls.foldl (step scan) .init

/-- The call is an invocation that succeeds under an identity whose evidence has a
native identifier. -/
def Replaces (scan : Scan) (s : Provider) : Call → Prop
  | .invoke invoker request => (∃ id, s.Stored request.platformExecutionIdentity id)
      ∧ ∃ binding invocation, Provider.Passes scan invoker request binding invocation
        ∧ s.Free invocation
  | .cleanup _ => False

/-- Every native identifier is accepted. -/
def AcceptsAny (scan : Scan) (s : Provider) : Prop :=
  ∀ invoker request binding invocation, Provider.Passes scan invoker request binding invocation →
    (s.invoke scan invoker request).2 = some (successEvidence request.platformExecutionIdentity
      (validateCompatibility request.compatibility) binding invocation)

/-- The books of a provider after each call of a run, and after a cleanup of every
identity seen so far. -/
def Bookkept (scan : Scan) (calls : List Call) : Prop :=
  ∀ before, before <+: calls → (run scan before).Sound
    ∧ ∀ identities : List String, (∀ call ∈ before, call.identity ∈ identities) →
      AcceptsAny scan (run scan (before ++ identities.map .cleanup))

variable {scan : Scan}

theorem run_append (calls calls' : List Call) :
    run scan (calls ++ calls') = calls'.foldl (step scan) (run scan calls) := by
  rw [run, List.foldl_append, ← run]

theorem successes_step {s : Provider} (h : s.Successes) (call : Call) :
    (step scan s call).Successes := by
  cases call with
  | invoke invoker request =>
    rcases Provider.invoke_cases scan invoker s request with hsame | ⟨binding, invocation, hp, hf⟩
    · rw [step, hsame]
      exact h
    · rw [step, Provider.invoke_of_passes hp hf]
      exact Provider.successes_store h rfl
  | cleanup identity => exact Provider.successes_cleanup h identity

theorem successes_run (calls : List Call) : (run scan calls).Successes := by
  induction calls using List.reverseRecOn with
  | nil =>
    intro identity evidence h
    cases h
  | append_singleton calls call ih =>
    rw [run_append]
    exact successes_step ih call

/-- **One call** keeps the books exactly if it replaces no identifier. -/
theorem sound_step_iff {s : Provider} (h : s.Sound) (hs : s.Successes) (call : Call) :
    (step scan s call).Sound ↔ ¬ Replaces scan s call := by
  cases call with
  | cleanup identity => exact ⟨fun _ => id, fun _ => Provider.sound_cleanup h hs identity⟩
  | invoke invoker request =>
    by_cases hstores : ∃ binding invocation, Provider.Passes scan invoker request binding invocation
        ∧ s.Free invocation
    · obtain ⟨binding, invocation, hp, hf⟩ := hstores
      rw [step, Provider.invoke_of_passes hp hf]
      constructor
      · rintro hsound ⟨⟨id, hstored⟩, -⟩
        refine Provider.not_sound_store h rfl ?_ hstored hsound
        exact hf
      · intro hno
        refine Provider.sound_store h rfl ?_ ?_
        · exact hf
        · intro id hstored
          exact hno ⟨⟨id, hstored⟩, binding, invocation, hp, hf⟩
    · have hsame : (s.invoke scan invoker request).1 = s :=
        (Provider.invoke_cases scan invoker s request).resolve_right hstores
      rw [step, hsame]
      exact ⟨fun _ hreplaces => hstores hreplaces.2, fun _ => h⟩

theorem sound_init : Provider.init.Sound := by
  have hno : ∀ identity id, ¬ Provider.init.Stored identity id := by
    rintro identity id ⟨evidence, hget, -⟩
    cases hget
  refine ⟨?_, fun h => absurd h (hno _ _)⟩
  intro id
  constructor
  · intro hmem
    exact absurd hmem (Finset.notMem_empty id)
  · rintro ⟨identity, hstored⟩
    exact absurd hstored (hno identity id)

theorem identity_of_stored (calls : List Call) {identity id : String}
    (h : (run scan calls).Stored identity id) : ∃ call ∈ calls, call.identity = identity := by
  induction calls using List.reverseRecOn with
  | nil =>
    obtain ⟨evidence, hget, -⟩ := h
    cases hget
  | append_singleton calls call ih =>
    have hkeep : (run scan calls).Stored identity id →
        ∃ call' ∈ calls ++ [call], call'.identity = identity := by
      intro hstored
      obtain ⟨call', hmem, hidentity⟩ := ih hstored
      exact ⟨call', List.mem_append_left _ hmem, hidentity⟩
    rw [run_append] at h
    cases call with
    | cleanup identity' => exact hkeep (Provider.stored_cleanup.mp h).2
    | invoke invoker request =>
      rcases Provider.invoke_cases scan invoker (run scan calls) request with
        hsame | ⟨binding, invocation, hp, hf⟩
      · simp only [List.foldl_cons, List.foldl_nil, step, hsame] at h
        exact hkeep h
      · simp only [List.foldl_cons, List.foldl_nil, step, Provider.invoke_of_passes hp hf] at h
        rcases (Provider.stored_store rfl).mp h with ⟨hidentity, -⟩ | ⟨-, hstored⟩
        · exact ⟨.invoke invoker request, by simp, hidentity⟩
        · exact hkeep hstored

/-- What is stored after some cleanups. -/
theorem stored_cleanups (identities : List String) (s : Provider) {identity id : String} :
    ((identities.map Call.cleanup).foldl (step scan) s).Stored identity id
      ↔ identity ∉ identities ∧ s.Stored identity id := by
  induction identities generalizing s with
  | nil => simp
  | cons i is ih =>
    rw [List.map_cons, List.foldl_cons, ih, step, Provider.stored_cleanup, List.mem_cons, not_or,
      ← and_assoc, and_comm (a := identity ∉ is), ne_comm (a := i)]

theorem sound_cleanups (identities : List String) {s : Provider} (h : s.Sound) (hs : s.Successes) :
    ((identities.map Call.cleanup).foldl (step scan) s).Sound := by
  induction identities generalizing s with
  | nil => exact h
  | cons i is ih => exact ih (Provider.sound_cleanup h hs i) (Provider.successes_cleanup hs i)

/-- **After a cleanup of every identity seen so far, any identifier is
accepted.** -/
theorem acceptsAny_cleanups {calls : List Call} (h : (run scan calls).Sound)
    {identities : List String} (hall : ∀ call ∈ calls, call.identity ∈ identities) :
    AcceptsAny scan (run scan (calls ++ identities.map .cleanup)) := by
  have hsound : ((identities.map Call.cleanup).foldl (step scan) (run scan calls)).Sound :=
    sound_cleanups identities h (successes_run calls)
  have hempty : ∀ id, id ∉ (run scan (calls ++ identities.map .cleanup)).nativeIds := by
    intro id hmem
    rw [run_append] at hmem
    obtain ⟨identity, hstored⟩ := (hsound.reserved id).mp hmem
    obtain ⟨hnot, hstored⟩ := (stored_cleanups identities _).mp hstored
    obtain ⟨call, hcall, rfl⟩ := identity_of_stored calls hstored
    exact hnot (hall call hcall)
  intro invoker request binding invocation hp
  rw [Provider.invoke_of_passes hp fun id _ => hempty id]

/-- **The books are kept exactly if nothing is replaced.** In a run of any calls,
with any invokers, the taken identifiers are those of the stored successes after
each call, are distinct, and are all given back by a cleanup of every identity seen
so far, if and only if no invocation of the run succeeds under an identity whose
stored evidence has a native identifier. -/
theorem bookkeeping_iff (scan : Scan) (calls : List Call) :
    Bookkept scan calls
      ↔ ∀ before call, before ++ [call] <+: calls → ¬ Replaces scan (run scan before) call := by
  constructor
  · intro h before call hprefix
    have hbefore : before <+: calls := (List.prefix_append before [call]).trans hprefix
    have hafter := (h _ hprefix).1
    rw [run_append] at hafter
    exact (sound_step_iff (h before hbefore).1 (successes_run before) call).mp hafter
  · intro h
    have hsound : ∀ before, before <+: calls → (run scan before).Sound := by
      intro before
      induction before using List.reverseRecOn with
      | nil => exact fun _ => sound_init
      | append_singleton before call ih =>
        intro hprefix
        have hbefore := ih ((List.prefix_append before [call]).trans hprefix)
        rw [run_append]
        exact (sound_step_iff hbefore (successes_run before) call).mpr (h before call hprefix)
    exact fun before hprefix => ⟨hsound before hprefix, fun identities hall =>
      acceptsAny_cleanups (hsound before hprefix) hall⟩

/-! ### One identity invoked twice -/

namespace Sample

/-- The scan of an empty configuration. -/
def cleanScan : Scan := fun _ => .clean

/-- An invoker whose native identifier is that of the input. -/
def invoker : Invoker := fun _ input _ => .returned ⟨"answer to " ++ input, some ("native-" ++ input)⟩

def request (input : String) : ProviderExecutionRequest where
  platformExecutionIdentity := "execution-1"
  input := input
  compatibility := ⟨Placement.providerPackage, runtimeTarget, "0.1.0", "execution-1", ⟨false, []⟩⟩
  desiredBinding := ⟨runtimeTarget, .empty⟩
  claimedNativeInvocationId := none

def binding : BindingEvidence :=
  ⟨⟨runtimeTarget, .empty⟩, ⟨runtimeTarget, sortedItems (effectiveConfiguration .empty)⟩, []⟩

theorem passes (input : String) (h : "native-" ++ input ≠ "execution-1") :
    Provider.Passes cleanScan invoker (request input) binding
      ⟨"answer to " ++ input, some ("native-" ++ input)⟩ where
  sameIdentity := rfl
  unclaimed := rfl
  compatible := by
    show (validateCompatibility (request "").compatibility).accepted = true
    decide +kernel
  translated := rfl
  answered := rfl
  notIdentity := fun heq => h (Option.some.inj heq)

def calls : List Call := [.invoke invoker (request "a"), .invoke invoker (request "b")]

/-- **The identifier of the first invocation stays taken** when the second
overwrites its evidence. -/
theorem overwritten_identifier_leaks : ¬ ∀ scan calls, Bookkept scan calls := by
  intro h
  have hbooks := h cleanScan calls
  have hfirst := hbooks [.invoke invoker (request "a")] ⟨[.invoke invoker (request "b")], rfl⟩
  have hsecond := hbooks calls (List.prefix_refl calls)
  have hfree : Provider.init.Free ⟨"answer to " ++ "a", some ("native-" ++ "a")⟩ := fun id _ =>
    Finset.notMem_empty id
  have hone : run cleanScan [.invoke invoker (request "a")]
      = Provider.init.store "execution-1" (successEvidence "execution-1"
          (validateCompatibility (request "a").compatibility) binding
          ⟨"answer to " ++ "a", some ("native-" ++ "a")⟩) :=
    congrArg Prod.fst (Provider.invoke_of_passes (passes "a" (by decide)) hfree)
  refine (sound_step_iff hfirst.1 (successes_run _) (.invoke invoker (request "b"))).mp hsecond.1
    ⟨⟨"native-" ++ "a", ?_⟩, binding, _, passes "b" (by decide), ?_⟩
  · rw [hone]
    exact (Provider.stored_store rfl).mpr (.inl ⟨rfl, rfl⟩)
  · intro id hid
    obtain rfl := Option.some.inj hid
    rw [hone, Provider.mem_store]
    rintro (hsame | hmem)
    · exact absurd (Option.some.inj hsame) (by decide)
    · exact Finset.notMem_empty _ hmem

end Sample

end NativeProvider

end AgentPlatform
