/-
AgentPlatform/Capability/Models.lean

The values that the capability gateway builds (`models.py`), with the checks of
their constructors.

What a caller hands in has passed its constructor, which is a field of the
structure. What the gateway builds itself goes through `create`, which may
raise.
-/
import AgentPlatform.Capability.Values

namespace AgentPlatform

open Py

namespace Capability

/-! ### Texts -/

@[irreducible]
def required (value name : String) : Except Fault Unit :=
  if strip value = "" then .error (.model (name ++ " is required"))
  else if 256 < value.length then .error (.model (name ++ " exceeds the size boundary"))
  else .ok ()

/-- `[A-Z][A-Z0-9_]{0,n}`. -/
@[irreducible]
def stableCode (n : Nat) (s : String) : Bool :=
  match s.toList with
  | [] => false
  | c :: l => c.isUpper && l.length ≤ n && l.all fun d => d.isUpper || d.isDigit || d = '_'

/-! ### Requests -/

structure PlatformExecutionIdentity where
  value : String
  deriving DecidableEq

structure CapabilityIdentity where
  value : String
  deriving DecidableEq

structure ProviderIdentity where
  value : String
  deriving DecidableEq

structure ProviderNativeRequestId where
  value : String
  deriving DecidableEq

section

variable [FoldingTables]

/-- A request whose arguments have been frozen. -/
structure CapabilityRequest where
  capability : CapabilityIdentity
  operation : String
  executionIdentity : PlatformExecutionIdentity
  arguments : List (Key × Value)
  valid : required operation "capability operation" = .ok ()
  frozen : ∃ nesting, Frozen nesting maxRequestBytes arguments

structure AuthorizationContext where
  subject : String
  tenant : String
  executionIdentity : PlatformExecutionIdentity
  deriving DecidableEq

inductive AuthorizationDecision
  | allow
  | deny
  deriving DecidableEq

/-- An entry of the decisions: a decision, or any other object, such as a text. -/
inductive DecisionEntry
  | decision (d : AuthorizationDecision)
  | other
  deriving DecidableEq

structure DecisionReason where
  code : String
  valid : stableCode 63 code = true

structure AuthorizationResult where
  decisions : List DecisionEntry
  reason : DecisionReason

structure ProviderRequest where
  provider : ProviderIdentity
  executionIdentity : PlatformExecutionIdentity
  method : String
  target : String
  headers : List (String × String)
  body : List (Key × Value)

def supportedMethods : List String := ["GET", "POST", "PUT", "PATCH", "DELETE"]

/-- Headers that are few, short and not secret-like. -/
def headersValid (headers : List (String × String)) : Bool :=
  headers.length ≤ 32 && headers.all (fun h => h.1.length ≤ 1024 && h.2.length ≤ 1024)
    && decide (containsSecret [.mapping (headers.map fun h => (.str h.1, .str h.2))] = .ok false)

/-- `ProviderRequest.__post_init__`. -/
def ProviderRequest.create (nesting : Nat) (r : ProviderRequest) : Except Fault ProviderRequest :=
  if r.method ∉ supportedMethods then .error (.model "REST method is unsupported")
  else
    match required r.target "REST target" with
    | .error e => .error e
    | .ok () =>
      if headersValid r.headers = false then
        .error (.model "REST headers are invalid or secret-like")
      else
        match frozenJsonMapping nesting (.dict r.body) "REST body" maxRequestBytes with
        | .error e => .error e
        | .ok body => .ok { r with body }

/-! ### Responses -/

/-- A status code: an integer, a boolean, or another object. -/
inductive StatusCode
  | int (n : Int)
  | bool (b : Bool)
  | other
  deriving DecidableEq

/-- What a response has as the request ID of the provider. -/
inductive NativeRequestId
  | absent
  | id (v : ProviderNativeRequestId)
  | other
  deriving DecidableEq

/-- A response; the content type is `none` where it is no text. -/
structure ProviderResponse where
  statusCode : StatusCode
  body : Value
  nativeRequestId : NativeRequestId := .absent
  contentType : Option String := some "application/json"

inductive CapabilityStatus
  | succeeded
  | failed
  | denied
  | indeterminate
  deriving DecidableEq

inductive Ambiguity
  | none
  | timeoutEffectUnknown
  | transportEffectUnknown
  deriving DecidableEq

structure InvocationEvidence where
  attempts : Nat
  httpStatus : Option StatusCode := none
  result : Option (List (Key × Value)) := none

/-- `InvocationEvidence.__post_init__`. -/
def InvocationEvidence.create (nesting : Nat) (e : InvocationEvidence) :
    Except Fault InvocationEvidence :=
  if e.attempts ≠ 0 ∧ e.attempts ≠ 1 then
    .error (.model "invocation evidence must contain zero or one attempt")
  else
    match e.result with
    | none => .ok e
    | some entries =>
      match frozenJsonMapping nesting (.mapping entries) "result evidence" maxEvidenceBytes with
      | .error err => .error err
      | .ok entries => .ok { e with result := some entries }

structure CapabilityOutcome where
  executionIdentity : PlatformExecutionIdentity
  capability : CapabilityIdentity
  provider : ProviderIdentity
  authorization : AuthorizationDecision
  status : CapabilityStatus
  diagnostic : String
  invocation : InvocationEvidence
  ambiguity : Ambiguity := .none
  nativeRequestId : Option ProviderNativeRequestId := none
  retrySafe : Bool := false

/-- `CapabilityOutcome.__post_init__`. -/
def CapabilityOutcome.create (o : CapabilityOutcome) : Except Fault CapabilityOutcome :=
  match required o.diagnostic "stable diagnostic" with
  | .error e => .error e
  | .ok () =>
    if stableCode 127 o.diagnostic = false then
      .error (.model "diagnostic must be a stable bounded code")
    else if o.nativeRequestId.any (fun v => v.value = o.executionIdentity.value) then
      .error (.model "native request ID cannot replace Platform identity")
    else .ok o

end

/-- Evidence keeps its count, and its result has been frozen. -/
theorem InvocationEvidence.create_spec [FoldingTables] {nesting : Nat} {e e' : InvocationEvidence}
    (h : InvocationEvidence.create nesting e = .ok e') :
    e'.attempts = e.attempts
      ∧ ∀ entries, e.result = some entries → Frozen nesting maxEvidenceBytes entries := by
  rw [create] at h
  split at h
  · cases h
  · split at h
    · next hnone =>
      cases h
      refine ⟨rfl, fun entries he => ?_⟩
      rw [hnone] at he
      cases he
    · next entries hsome =>
      split at h
      · cases h
      · next frozen hfrozen =>
        cases h
        refine ⟨rfl, fun entries' he => ?_⟩
        rw [hsome] at he
        cases he
        obtain ⟨heq, hfrozen⟩ := frozenJsonMapping_eq_ok.mp hfrozen
        cases heq
        exact hfrozen

/-! ### Stable codes -/

/-- The characters of a code are no spaces. -/
theorem not_isSpace_of_code {c : Char} (h : (c.isUpper || c.isDigit || c = '_') = true) :
    isSpace c = false := by
  have hlt : c.toNat < 128 := by
    simp only [Bool.or_eq_true, decide_eq_true_eq] at h
    rcases h with (h | h) | rfl
    · exact isAlphanum_ascii (by simp [Char.isAlphanum, Char.isAlpha, h])
    · exact isAlphanum_ascii (by simp [Char.isAlphanum, h])
    · decide
  have hall : ∀ n < 128, ((Char.ofNat n).isUpper || (Char.ofNat n).isDigit || Char.ofNat n = '_') = true →
      isSpace (Char.ofNat n) = false := by decide
  have := hall c.toNat hlt
  rw [Char.ofNat_toNat] at this
  exact this h

theorem required_of_stableCode {n : Nat} {s name : String} (hn : n ≤ 255)
    (h : stableCode n s = true) : required s name = .ok () := by
  rw [stableCode] at h
  split at h
  · cases h
  · next c l hs =>
    simp only [Bool.and_eq_true, decide_eq_true_eq] at h
    obtain ⟨⟨hupper, hlength⟩, hall⟩ := h
    have hspace : ∀ d ∈ s.toList, isSpace d = false := by
      rw [hs]
      intro d hd
      rcases List.mem_cons.mp hd with rfl | hd
      · exact not_isSpace_of_code (by simp [hupper])
      · exact not_isSpace_of_code (List.all_eq_true.mp hall d hd)
    have hne : s ≠ "" := by
      rintro rfl
      cases hs
    have hshort : ¬ 256 < s.length := by
      rw [← String.length_toList, hs, List.length_cons]
      omega
    rw [required, strip_of_no_space hspace, if_neg hne, if_neg hshort]

/-- The diagnostic of a denial is stable. -/
theorem stableCode_denied {code : String} (h : stableCode 63 code = true) :
    stableCode 127 ("DENIED_" ++ code) = true := by
  rw [stableCode] at h
  split at h
  · cases h
  · next c l hc =>
    simp only [Bool.and_eq_true, decide_eq_true_eq] at h
    obtain ⟨⟨hupper, hlength⟩, hall⟩ := h
    have hlist : ("DENIED_" ++ code).toList = 'D' :: ("ENIED_".toList ++ c :: l) := by
      rw [String.toList_append, hc]
      rfl
    rw [stableCode, hlist]
    simp only [Bool.and_eq_true, decide_eq_true_eq, List.all_append, List.all_cons,
      List.length_append, List.length_cons, hall, hupper, Bool.true_or]
    refine ⟨⟨by decide, ?_⟩, by decide, ?_⟩
    · simp
      omega
    · simp

/-- An outcome with a stable diagnostic is accepted, if its native request ID is
not the identity of the execution. -/
theorem CapabilityOutcome.create_eq {o : CapabilityOutcome} (h : stableCode 127 o.diagnostic = true)
    (hn : ∀ v, o.nativeRequestId = some v → v.value ≠ o.executionIdentity.value) :
    CapabilityOutcome.create o = .ok o := by
  have hany : ¬ (o.nativeRequestId.any fun v => v.value = o.executionIdentity.value) = true := by
    rw [Option.any_eq_true]
    rintro ⟨v, hv, heq⟩
    exact hn v hv (of_decide_eq_true heq)
  rw [create, required_of_stableCode (by omega) h]
  dsimp only
  rw [h, if_neg (by decide), if_neg hany]

end Capability

end AgentPlatform
