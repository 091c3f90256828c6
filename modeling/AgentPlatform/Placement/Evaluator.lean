/-
AgentPlatform/Placement/Evaluator.lean

`NativePlacementEvaluator.place`: the choice of a declared native target for a
runtime requirement.

The evaluator collects the candidates before it sorts them, and it stops at the
first one that is malformed. The number of candidates it had collected by then
goes into the decision and into its digest. So **`place_orderFree_iff`**: two
orders of the same candidates get the same answer exactly when the search does not
reach the candidates or the first malformed one stands at the same place in both.
In every order a target is placed only for an eligible authorization and an
available, exactly compatible candidate of its scope.
-/
import AgentPlatform.Order.SortBy
import AgentPlatform.Placement.Requirement

namespace AgentPlatform
namespace Placement

open Py
open Definition (texts)

deriving instance DecidableEq for RuntimeTarget

/-! ### The compatibility policy -/

structure ProviderPackage where
  distribution : String
  version : String
  moduleName : String
  deriving DecidableEq

def providerPackage : ProviderPackage := ⟨"cloud-native-agent-platform", "0.1.0", "agent_runtime"⟩

def coreExactVersions : List String := ["0.1.0"]

def degradedRequiredEvidence : List String :=
  ["deterministic mock label", "normalized outcome"]

/-- The reasons `validate_compatibility` gives. -/
inductive DiagnosticReason
  | exactCompatibilityMatch
  | explicitDegradedModeAccepted
  | platformExecutionIdentityMissing
  | runtimeIdentityMissing
  | runtimeVersionMissing
  | runtimeTargetUnsupported
  | runtimeVersionUnsupported
  | runtimeProfileUnsupported
  | providerPackageMismatch
  | coreVersionIncompatible
  | implicitDegradedModeRejected
  | degradedModeNotEvidenced

def DiagnosticReason.value : DiagnosticReason → String
  | exactCompatibilityMatch => "EXACT_COMPATIBILITY_MATCH"
  | explicitDegradedModeAccepted => "EXPLICIT_DEGRADED_MODE_ACCEPTED"
  | platformExecutionIdentityMissing => "PLATFORM_EXECUTION_IDENTITY_MISSING"
  | runtimeIdentityMissing => "RUNTIME_IDENTITY_MISSING"
  | runtimeVersionMissing => "RUNTIME_VERSION_MISSING"
  | runtimeTargetUnsupported => "RUNTIME_TARGET_UNSUPPORTED"
  | runtimeVersionUnsupported => "RUNTIME_VERSION_UNSUPPORTED"
  | runtimeProfileUnsupported => "RUNTIME_PROFILE_UNSUPPORTED"
  | providerPackageMismatch => "PROVIDER_PACKAGE_MISMATCH"
  | coreVersionIncompatible => "CORE_VERSION_INCOMPATIBLE"
  | implicitDegradedModeRejected => "IMPLICIT_DEGRADED_MODE_REJECTED"
  | degradedModeNotEvidenced => "DEGRADED_MODE_NOT_EVIDENCED"

inductive CompatibilityMode
  | exactMatch
  | degraded
  | rejected
  deriving DecidableEq

structure DegradedModeRequest where
  requested : Bool
  evidence : List String

structure CompatibilityRequest where
  providerPackage : ProviderPackage
  runtimeTarget : RuntimeTarget
  coreVersion : String
  platformExecutionIdentity : String
  degraded : DegradedModeRequest

structure CompatibilityDecision where
  accepted : Bool
  mode : CompatibilityMode
  reason : DiagnosticReason
  effectiveRuntime : Option RuntimeTarget

def CompatibilityDecision.reject (reason : DiagnosticReason) : CompatibilityDecision :=
  ⟨false, .rejected, reason, none⟩

def validateCompatibility (request : CompatibilityRequest) : CompatibilityDecision :=
  let target := request.runtimeTarget
  let degraded := request.degraded
  if strip request.platformExecutionIdentity = "" then .reject .platformExecutionIdentityMissing
  else if strip target.name = "" then .reject .runtimeIdentityMissing
  else if target.exactVersion.getD "" = "" then .reject .runtimeVersionMissing
  else if target.name ≠ runtimeTarget.name then .reject .runtimeTargetUnsupported
  else if target.exactVersion ≠ runtimeTarget.exactVersion then .reject .runtimeVersionUnsupported
  else if target.profile ≠ runtimeTarget.profile then .reject .runtimeProfileUnsupported
  else if request.providerPackage ≠ providerPackage then .reject .providerPackageMismatch
  else if request.coreVersion ∉ coreExactVersions then .reject .coreVersionIncompatible
  else if degraded.evidence ≠ [] ∧ ¬ degraded.requested then .reject .implicitDegradedModeRejected
  else if degraded.requested then
    if ¬ degradedRequiredEvidence ⊆ degraded.evidence then .reject .degradedModeNotEvidenced
    else ⟨true, .degraded, .explicitDegradedModeAccepted, some runtimeTarget⟩
  else ⟨true, .exactMatch, .exactCompatibilityMatch, some runtimeTarget⟩

/-! ### Records of the evaluator -/

def decisionVersion : String := "native-placement-decision.v1"
def maxCandidates : Nat := 64
def maxEvaluations : Nat := 2048
def maxReasons : Nat := 32

inductive TargetState
  | available
  | unavailable
  | stale
  | unknown
  deriving DecidableEq

inductive PlacementOutcome
  | placed
  | blocked
  deriving DecidableEq

def PlacementOutcome.value : PlacementOutcome → String
  | placed => "PLACED"
  | blocked => "BLOCKED"

structure PlacementAuthorization where
  authorizationReference : String
  tenantId : String
  securityDomain : String
  permissionEligible : Bool
  capabilityEligible : Bool
  providerEligible : Bool

/-- A declared target; `target` and `state` are absent where the value is none of the
type the evaluator asks for. -/
structure DeclaredNativeTarget where
  declarationId : String
  tenantId : String
  securityDomain : String
  target : Option RuntimeTarget
  providerPackage : ProviderPackage
  coreVersion : String
  state : Option TargetState

/-- A member of the tuple of candidates: a declared target, or a value that is none or
whose identifier is no text. -/
inductive Candidate
  | other
  | declared (target : DeclaredNativeTarget)

structure NativePlacementHandoff where
  requirementId : String
  decisionId : String
  selectedTarget : RuntimeTarget

structure NativePlacementDecision where
  decisionId : String
  decisionVersion : String
  decisionDigest : String
  requirementId : String
  requirementDigest : String
  outcome : PlacementOutcome
  selectedTarget : Option RuntimeTarget
  authorizationReference : String
  reasonCodes : List String
  evaluationCount : Nat
  providerCallCount : Nat
  runtimeCallCount : Nat
  gatewayCallCount : Nat
  executionCoordinatorCallCount : Nat
  handoff : Option NativePlacementHandoff

/-! ### Decisions -/

def validateEvaluationCount (count : Nat) : Except String Unit :=
  if maxEvaluations < count then .error "EVALUATION_LIMIT_EXCEEDED" else .ok ()

def validateReasonCount (count : Nat) : Except String Unit :=
  if maxReasons < count then .error "REASON_LIMIT_EXCEEDED" else .ok ()

/-- `asdict(target)`. -/
def RuntimeTarget.payload (t : RuntimeTarget) : Json :=
  .obj [("name", .str t.name), ("exact_version", .optStr t.exactVersion),
    ("profile", .str t.profile)]

section Decisions

variable [Unicodedata]

def decision (r : RuntimeRequirement) (reference : String) (outcome : PlacementOutcome)
    (target : Option RuntimeTarget) (reasons : List String) (evaluations : Nat) :
    Except String NativePlacementDecision := do
  validateReasonCount reasons.length
  validateEvaluationCount evaluations
  let payload := .obj [
    ("decisionVersion", .str decisionVersion),
    ("requirementId", .str r.requirementId),
    ("requirementDigest", .str r.canonicalDigest),
    ("outcome", .str outcome.value),
    ("selectedTarget", (target.map RuntimeTarget.payload).getD .null),
    ("authorizationReference", .str reference),
    ("reasonCodes", texts reasons),
    ("evaluationCount", .int evaluations),
    ("providerCallCount", .int 0),
    ("runtimeCallCount", .int 0),
    ("gatewayCallCount", .int 0),
    ("executionCoordinatorCallCount", .int 0)]
  let digest := Definition.canonicalDigest decisionVersion payload
  let decisionId := "native-placement-decision:" ++ digest
  .ok ⟨decisionId, decisionVersion, digest, r.requirementId, r.canonicalDigest, outcome, target,
    reference, reasons, evaluations, 0, 0, 0, 0,
    target.map fun t => ⟨r.requirementId, decisionId, t⟩⟩

def placed (r : RuntimeRequirement) (reference : String) (target : RuntimeTarget)
    (evaluations : Nat) : Except String NativePlacementDecision :=
  decision r reference .placed (some target) ["NATIVE_TARGET_PLACED"] evaluations

def blocked (r : RuntimeRequirement) (reference reason : String) (evaluations : Nat) :
    Except String NativePlacementDecision :=
  decision r reference .blocked none [reason] evaluations

/-! ### The requirement -/

/-- What `_validate_requirement` serialises. -/
def RuntimeRequirement.payload (r : RuntimeRequirement) : Json :=
  .obj [
    ("contractVersion", .str r.contractVersion),
    ("workflowRevisionId", .str r.canonicalWorkflowRevisionId),
    ("workflowDigest", .str r.approvedWorkflowDigest),
    ("tenantId", .str r.tenantId),
    ("securityDomain", .str r.securityDomain),
    ("taskDefinitionBindings", .arr (r.taskDefinitionBindings.map CanonicalBinding.payload)),
    ("nativeTarget", .obj [
      ("name", .str r.nativeTargetName), ("exact_version", .str r.nativeTargetVersion),
      ("profile", .str r.nativeTargetProfile)]),
    ("requiredCapabilities", texts r.requiredCapabilities),
    ("requiredProviders", texts r.requiredProviders),
    ("requiredPermissions", texts r.requiredPermissions)]

def validateRequirement (r : RuntimeRequirement) : Except String Unit :=
  let expected := Definition.canonicalDigest contractVersion r.payload
  if r.contractVersion ≠ contractVersion ∨ r.canonicalDigest ≠ expected ∨
      r.requirementId ≠ "runtime-requirement:" ++ expected then
    .error "RUNTIME_REQUIREMENT_DIGEST_MISMATCH"
  else .ok ()

end Decisions

/-! ### One candidate -/

/-- `_candidate_failure(requirement, candidate)`, for a candidate with that target. -/
def candidateFailure (r : RuntimeRequirement) (t : DeclaredNativeTarget) (target : RuntimeTarget) :
    Option String :=
  if t.tenantId ≠ r.tenantId then some "TENANT_SCOPE_MISMATCH"
  else if t.securityDomain ≠ r.securityDomain then some "SECURITY_DOMAIN_SCOPE_MISMATCH"
  else
    match t.state with
    | none => some "MALFORMED_TARGET_STATE"
    | some .stale => some "NATIVE_TARGET_STALE"
    | some .unknown => some "NATIVE_TARGET_UNKNOWN"
    | some .unavailable => some "NATIVE_TARGET_UNAVAILABLE"
    | some .available =>
      let decision := validateCompatibility
        ⟨t.providerPackage, target, t.coreVersion, r.requirementId, ⟨false, []⟩⟩
      if ¬ decision.accepted ∨ decision.mode ≠ .exactMatch ∨
          decision.effectiveRuntime ≠ some runtimeTarget then
        some decision.reason.value
      else none

/-- A candidate of the second scan: its target, if it is a native one. -/
def nativeTarget (t : DeclaredNativeTarget) : Except String (DeclaredNativeTarget × RuntimeTarget) :=
  match t.target with
  | none => .error "MALFORMED_TARGET_STATE"
  | some target =>
    if target.name ≠ runtimeTarget.name then .error "RUNTIME_IDENTITY_UNSUPPORTED"
    else .ok (t, target)

/-! ### The search -/

section Search

variable [Whitespace]

/-- The first scan, after `ordered`; at a malformed candidate it stops with the number
of those before. -/
def collect (ordered : List DeclaredNativeTarget) :
    List Candidate → Except Nat (List DeclaredNativeTarget)
  | [] => .ok ordered
  | .other :: _ => .error ordered.length
  | .declared t :: cs =>
    match identifier t.declarationId with
    | .error _ => .error ordered.length
    | .ok _ => collect (ordered ++ [t]) cs

/-- The loop over the ordered candidates, after `count` of them failed. -/
def evaluate (r : RuntimeRequirement) (reference : String) (count : Nat) (failures : List String) :
    List (DeclaredNativeTarget × RuntimeTarget) → Except String NativePlacementDecision
  | [] =>
    blocked r reference
      ((failures.insertionSort (· ≤ ·)).head?.getD "NATIVE_TARGET_UNAVAILABLE") count
  | (t, target) :: rest =>
    match candidateFailure r t target with
    | none => placed r reference target (count + 1)
    | some reason => evaluate r reference (count + 1) (failures ++ [reason]) rest

/-- The search among the collected candidates. -/
def choose (r : RuntimeRequirement) (reference : String) (collected : List DeclaredNativeTarget) :
    Except String NativePlacementDecision :=
  let ordered := collected.insertionSort fun a b => a.declarationId ≤ b.declarationId
  if ¬ (ordered.map DeclaredNativeTarget.declarationId).Nodup then
    blocked r reference "CONFLICTING_TARGET_STATE" 0
  else if ordered = [] then blocked r reference "NATIVE_TARGET_MISSING" 0
  else do
    validateEvaluationCount ordered.length
    match ordered.mapM nativeTarget with
    | .error reason => blocked r reference reason 0
    | .ok targets => evaluate r reference 0 [] targets

/-- Why the authorization does not admit the requirement, if it does not. -/
def refusal (r : RuntimeRequirement) (a : PlacementAuthorization) : Option String :=
  if a.tenantId ≠ r.tenantId then some "TENANT_SCOPE_MISMATCH"
  else if a.securityDomain ≠ r.securityDomain then some "SECURITY_DOMAIN_SCOPE_MISMATCH"
  else if ¬ a.permissionEligible then some "PERMISSION_NOT_ELIGIBLE"
  else if ¬ a.capabilityEligible then some "CAPABILITY_NOT_ELIGIBLE"
  else if ¬ a.providerEligible then some "PROVIDER_NOT_ELIGIBLE"
  else none

def place (r : RuntimeRequirement) (a : PlacementAuthorization) (candidates : List Candidate) :
    Except String NativePlacementDecision := do
  validateRequirement r
  let reference ← identifier a.authorizationReference
  match refusal r a with
  | some reason => blocked r reference reason 0
  | none =>
    if maxCandidates < candidates.length then .error "CANDIDATE_LIMIT_EXCEEDED"
    else
      match collect [] candidates with
      | .error count => blocked r reference "MALFORMED_TARGET_STATE" count
      | .ok collected => choose r reference collected

end Search

/-! ### Decisions and their fields -/

section Decisions

variable [Unicodedata]

theorem blocked_eq_ok (r : RuntimeRequirement) (reference reason : String) {n : Nat}
    (hn : n ≤ maxEvaluations) : ∃ d, blocked r reference reason n = .ok d ∧ d.evaluationCount = n := by
  rw [blocked, decision, validateReasonCount, if_neg (by simp [maxReasons]), validateEvaluationCount,
    if_neg (Nat.not_lt.mpr hn)]
  exact ⟨_, rfl, rfl⟩

theorem decision_outcome {r : RuntimeRequirement} {reference : String}
    {outcome : PlacementOutcome} {target : Option RuntimeTarget} {reasons : List String} {n : Nat}
    {d : NativePlacementDecision} (h : decision r reference outcome target reasons n = .ok d) :
    d.outcome = outcome := by
  simp only [decision, bind_eq_ok] at h
  obtain ⟨-, -, -, -, h⟩ := h
  cases h
  rfl

/-- Decisions that count differently differ. -/
theorem blocked_inj {r : RuntimeRequirement} {reference reason : String} {m n : Nat}
    (hm : m ≤ maxEvaluations) (hn : n ≤ maxEvaluations)
    (h : blocked r reference reason m = blocked r reference reason n) : m = n := by
  obtain ⟨d, hd, hcount⟩ := blocked_eq_ok r reference reason hm
  obtain ⟨d', hd', hcount'⟩ := blocked_eq_ok r reference reason hn
  rw [hd, hd'] at h
  rw [← hcount, ← hcount', Except.ok.inj h]

theorem blocked_not_placed {r : RuntimeRequirement} {reference reason : String} {n : Nat}
    {d : NativePlacementDecision} (h : blocked r reference reason n = .ok d) :
    d.outcome ≠ .placed := by
  rw [decision_outcome h]
  exact PlacementOutcome.noConfusion

end Decisions

/-! ### A candidate that fits -/

theorem RuntimeTarget.ext {s t : RuntimeTarget} (hname : s.name = t.name)
    (hversion : s.exactVersion = t.exactVersion) (hprofile : s.profile = t.profile) : s = t := by
  cases s
  cases t
  subst hname hversion hprofile
  rfl

theorem accepted_ite {c : Prop} [Decidable c] {reason : DiagnosticReason}
    {x : CompatibilityDecision} :
    (if c then CompatibilityDecision.reject reason else x).accepted = true ↔
      ¬ c ∧ x.accepted = true := by
  split <;> simp_all [CompatibilityDecision.reject]

/-- The policy accepts the exact target, package and core version only. -/
theorem validateCompatibility_accepted {request : CompatibilityRequest}
    (h : (validateCompatibility request).accepted = true) :
    request.runtimeTarget = runtimeTarget ∧ request.providerPackage = providerPackage ∧
      request.coreVersion ∈ coreExactVersions := by
  simp only [validateCompatibility, accepted_ite] at h
  obtain ⟨-, -, -, hname, hversion, hprofile, hpackage, hcore, -⟩ := h
  exact ⟨RuntimeTarget.ext (not_not.mp hname) (not_not.mp hversion) (not_not.mp hprofile),
    not_not.mp hpackage, not_not.mp hcore⟩

/-- The candidate can serve the requirement. -/
structure Fits (r : RuntimeRequirement) (t : DeclaredNativeTarget) : Prop where
  tenant : t.tenantId = r.tenantId
  domain : t.securityDomain = r.securityDomain
  available : t.state = some .available
  target : t.target = some runtimeTarget
  package : t.providerPackage = providerPackage
  core : t.coreVersion ∈ coreExactVersions

theorem fits_of_candidateFailure {r : RuntimeRequirement} {t : DeclaredNativeTarget}
    {target : RuntimeTarget} (htarget : t.target = some target)
    (h : candidateFailure r t target = none) : Fits r t := by
  unfold candidateFailure at h
  split at h
  · cases h
  rename_i htenant
  split at h
  · cases h
  rename_i hdomain
  split at h
  · cases h
  · cases h
  · cases h
  · cases h
  · rename_i hstate
    dsimp only at h
    split at h
    · cases h
    rename_i haccepted
    have haccepted := validateCompatibility_accepted (not_not.mp (not_or.mp haccepted).1)
    exact ⟨not_not.mp htenant, not_not.mp hdomain, hstate, htarget.trans (congrArg some haccepted.1),
      haccepted.2.1, haccepted.2.2⟩

/-! ### The first scan -/

section Search

variable [Whitespace]

/-- The first scan stops at such a candidate. -/
def Candidate.malformed : Candidate → Bool
  | .other => true
  | .declared t => !(identifier t.declarationId).isOk

def Candidate.target? : Candidate → Option DeclaredNativeTarget
  | .other => none
  | .declared t => some t

theorem collect_eq (ordered : List DeclaredNativeTarget) (cs : List Candidate) :
    collect ordered cs =
      match cs.findIdx? Candidate.malformed with
      | some i => .error (ordered.length + i)
      | none => .ok (ordered ++ cs.filterMap Candidate.target?) := by
  induction cs generalizing ordered with
  | nil => simp [collect]
  | cons c cs ih =>
    rw [List.findIdx?_cons]
    cases c with
    | other => simp [collect, Candidate.malformed]
    | declared t =>
      rcases hid : identifier t.declarationId with code | id
      · simp [collect, Candidate.malformed, hid, Except.isOk, Except.toBool]
      · have hwell : Candidate.malformed (.declared t) = false := by
          simp [Candidate.malformed, hid, Except.isOk, Except.toBool]
        rw [collect, hid, hwell]
        show collect (ordered ++ [t]) cs = _
        rw [ih]
        rcases cs.findIdx? Candidate.malformed with _ | i
        · simp [Candidate.target?]
        · simp [Nat.add_comm, Nat.add_left_comm]

/-- The candidates are looked at: the authorization admits the requirement, and there
are not too many. -/
def Searched (r : RuntimeRequirement) (a : PlacementAuthorization) (cs : List Candidate) : Prop :=
  (identifier a.authorizationReference).isOk = true ∧ refusal r a = none ∧
    cs.length ≤ maxCandidates

/-- What the answer is when the candidates are looked at. -/
def searchFrom (r : RuntimeRequirement) (reference : String) (cs : List Candidate) :
    Except String NativePlacementDecision :=
  match cs.findIdx? Candidate.malformed with
  | some i => blocked r reference "MALFORMED_TARGET_STATE" i
  | none => choose r reference (cs.filterMap Candidate.target?)

theorem place_searched {r : RuntimeRequirement} (hr : validateRequirement r = .ok ())
    {a : PlacementAuthorization} {reference : String}
    (hreference : identifier a.authorizationReference = .ok reference) (hnone : refusal r a = none)
    {cs : List Candidate} (hlength : cs.length ≤ maxCandidates) :
    place r a cs = searchFrom r reference cs := by
  rw [place, hr, searchFrom]
  show (identifier a.authorizationReference >>= _) = _
  rw [hreference]
  show (match refusal r a with
    | some reason => _
    | none => _ : Except String NativePlacementDecision) = _
  rw [hnone]
  show (if maxCandidates < cs.length then _ else _) = _
  rw [if_neg (Nat.not_lt.mpr hlength), collect_eq]
  rcases cs.findIdx? Candidate.malformed with _ | i
  · simp
  · simp

/-- Otherwise the answer depends on the number of candidates alone. -/
theorem place_unsearched {r : RuntimeRequirement} {a : PlacementAuthorization}
    {cs cs' : List Candidate} (h : ¬ Searched r a cs) (hlength : cs.length = cs'.length) :
    place r a cs = place r a cs' := by
  rw [place, place]
  rcases validateRequirement r with code | ⟨⟩
  · rfl
  show (identifier a.authorizationReference >>= _) = (identifier a.authorizationReference >>= _)
  rcases hreference : identifier a.authorizationReference with code | reference
  · rfl
  show (match refusal r a with
    | some reason => _
    | none => _ : Except String NativePlacementDecision) = (match refusal r a with
    | some reason => _
    | none => _)
  rcases hrefusal : refusal r a with _ | reason
  swap
  · rfl
  show (if maxCandidates < cs.length then _ else _) = (if maxCandidates < cs'.length then _ else _)
  have hmany : maxCandidates < cs.length := by
    refine Nat.not_le.mp fun hle => h ⟨?_, hrefusal, hle⟩
    rw [hreference]
    rfl
  rw [if_pos hmany, if_pos (hlength ▸ hmany)]

/-! ### The search does not look at the order -/

omit [Whitespace] in
/-- Sorted by distinct identifiers, permutations of the same targets are the same list. -/
theorem sorted_eq_of_perm {ts ts' : List DeclaredNativeTarget} (h : ts.Perm ts')
    (hn : (ts.map DeclaredNativeTarget.declarationId).Nodup) :
    (ts.insertionSort fun a b => a.declarationId ≤ b.declarationId) =
      ts'.insertionSort fun a b => a.declarationId ≤ b.declarationId :=
  Sorting.sortBy_eq_of_perm h (List.inj_on_of_nodup_map hn)

theorem choose_perm (r : RuntimeRequirement) (reference : String) {ts ts' : List DeclaredNativeTarget}
    (h : ts.Perm ts') : choose r reference ts = choose r reference ts' := by
  have hids : ∀ l : List DeclaredNativeTarget,
      ((l.insertionSort fun a b => a.declarationId ≤ b.declarationId).map
        DeclaredNativeTarget.declarationId).Perm (l.map DeclaredNativeTarget.declarationId) :=
    fun l => (List.perm_insertionSort _ l).map _
  by_cases hn : (ts.map DeclaredNativeTarget.declarationId).Nodup
  · rw [choose, choose, sorted_eq_of_perm h hn]
  · have hn' : ¬ (ts'.map DeclaredNativeTarget.declarationId).Nodup :=
      fun hn' => hn ((h.map _).nodup_iff.mpr hn')
    rw [choose, choose, if_pos fun hsorted => hn ((hids ts).nodup_iff.mp hsorted),
      if_pos fun hsorted => hn' ((hids ts').nodup_iff.mp hsorted)]

/-- Two orders of candidates that are looked at get the same answer exactly when their
first malformed ones stand at the same place. -/
theorem searchFrom_eq_iff (r : RuntimeRequirement) (reference : String) {cs cs' : List Candidate}
    (h : cs.Perm cs') (hlength : cs.length ≤ maxCandidates) :
    searchFrom r reference cs = searchFrom r reference cs' ↔
      cs.findIdx? Candidate.malformed = cs'.findIdx? Candidate.malformed := by
  have hbound : ∀ {l : List Candidate} {i : Nat}, l.length ≤ maxCandidates →
      l.findIdx? Candidate.malformed = some i → i ≤ maxEvaluations := by
    intro l i hl hi
    have hlt := (List.findIdx?_eq_some_iff_findIdx_eq.mp hi).1
    unfold maxCandidates at hl
    unfold maxEvaluations
    omega
  have hnone : cs.findIdx? Candidate.malformed = none ↔ cs'.findIdx? Candidate.malformed = none := by
    rw [List.findIdx?_eq_none_iff, List.findIdx?_eq_none_iff]
    exact forall_congr' fun c => by rw [h.mem_iff]
  unfold searchFrom
  rcases hi : cs.findIdx? Candidate.malformed with _ | i
  · rw [hnone.mp hi]
    exact iff_of_true (choose_perm r reference (h.filterMap _)) rfl
  · rcases hj : cs'.findIdx? Candidate.malformed with _ | j
    · rw [hnone.mpr hj] at hi
      cases hi
    · constructor
      · intro heq
        rw [blocked_inj (hbound hlength hi) (hbound (h.length_eq ▸ hlength) hj) heq]
      · intro heq
        rw [Option.some.inj heq]

/-! ### What is placed -/

/-- The loop places a target only for a candidate without a failure. -/
theorem evaluate_placed {r : RuntimeRequirement} {reference : String} {count : Nat}
    {failures : List String} {targets : List (DeclaredNativeTarget × RuntimeTarget)}
    {d : NativePlacementDecision} (h : evaluate r reference count failures targets = .ok d)
    (hd : d.outcome = .placed) : ∃ p ∈ targets, candidateFailure r p.1 p.2 = none := by
  induction targets generalizing count failures with
  | nil => exact absurd hd (blocked_not_placed h)
  | cons p rest ih =>
    obtain ⟨t, target⟩ := p
    rcases hfailure : candidateFailure r t target with _ | reason
    · exact ⟨_, List.mem_cons_self, hfailure⟩
    · rw [evaluate, hfailure] at h
      obtain ⟨q, hq, hnone⟩ := ih h
      exact ⟨q, List.mem_cons_of_mem _ hq, hnone⟩

omit [Whitespace] in
theorem nativeTarget_eq_ok {t : DeclaredNativeTarget} {p : DeclaredNativeTarget × RuntimeTarget}
    (h : nativeTarget t = .ok p) : p.1 = t ∧ t.target = some p.2 := by
  unfold nativeTarget at h
  split at h
  · cases h
  · rename_i htarget
    rw [ite_error_eq_ok'] at h
    cases h.2
    exact ⟨rfl, htarget⟩

omit [Whitespace] in
/-- Each target of the second scan comes from a candidate. -/
theorem exists_of_nativeTargets {ordered : List DeclaredNativeTarget}
    {targets : List (DeclaredNativeTarget × RuntimeTarget)}
    (h : ordered.mapM nativeTarget = .ok targets) {p : DeclaredNativeTarget × RuntimeTarget}
    (hp : p ∈ targets) : ∃ t ∈ ordered, nativeTarget t = .ok p := by
  have hforall := mapM_eq_ok.mp h
  clear h
  induction hforall with
  | nil => cases hp
  | cons hnative _ ih =>
    rcases List.mem_cons.mp hp with rfl | hp
    · exact ⟨_, List.mem_cons_self, hnative⟩
    · obtain ⟨t, ht, hnative⟩ := ih hp
      exact ⟨t, List.mem_cons_of_mem _ ht, hnative⟩

theorem choose_placed {r : RuntimeRequirement} {reference : String}
    {collected : List DeclaredNativeTarget} {d : NativePlacementDecision}
    (h : choose r reference collected = .ok d) (hd : d.outcome = .placed) :
    ∃ t ∈ collected, Fits r t := by
  unfold choose at h
  dsimp only at h
  split at h
  · exact absurd hd (blocked_not_placed h)
  split at h
  · exact absurd hd (blocked_not_placed h)
  obtain ⟨-, -, h⟩ := bind_eq_ok.mp h
  split at h
  · exact absurd hd (blocked_not_placed h)
  rename_i targets htargets
  obtain ⟨p, hp, hfailure⟩ := evaluate_placed h hd
  obtain ⟨t, ht, hnative⟩ := exists_of_nativeTargets htargets hp
  obtain ⟨rfl, htarget⟩ := nativeTarget_eq_ok hnative
  exact ⟨p.1, (List.mem_insertionSort _).mp ht, fits_of_candidateFailure htarget hfailure⟩

/-- What a placement stands for. -/
structure Eligible (r : RuntimeRequirement) (a : PlacementAuthorization) (cs : List Candidate) :
    Prop where
  tenant : a.tenantId = r.tenantId
  domain : a.securityDomain = r.securityDomain
  permission : a.permissionEligible = true
  capability : a.capabilityEligible = true
  provider : a.providerEligible = true
  target : ∃ t, .declared t ∈ cs ∧ Fits r t

theorem place_placed {r : RuntimeRequirement} {a : PlacementAuthorization} {cs : List Candidate}
    {d : NativePlacementDecision} (h : place r a cs = .ok d) (hd : d.outcome = .placed) :
    Eligible r a cs := by
  simp only [place, bind_eq_ok] at h
  obtain ⟨-, -, reference, -, h⟩ := h
  split at h
  · exact absurd hd (blocked_not_placed h)
  rename_i hnone
  rw [ite_error_eq_ok'] at h
  obtain ⟨-, h⟩ := h
  rw [collect_eq] at h
  simp only [refusal] at hnone
  split at h
  · exact absurd hd (blocked_not_placed h)
  rename_i collected hcollected
  obtain ⟨t, ht, hfits⟩ := choose_placed h hd
  have hmem : .declared t ∈ cs := by
    split at hcollected
    · cases hcollected
    cases hcollected
    obtain ⟨c, hc, hct⟩ := List.mem_filterMap.mp (by simpa using ht)
    cases c with
    | other => cases hct
    | declared t' =>
      cases hct
      exact hc
  obtain ⟨htenant, hdomain, hpermission, hcapability, hprovider⟩ :
      a.tenantId = r.tenantId ∧ a.securityDomain = r.securityDomain ∧
        a.permissionEligible = true ∧ a.capabilityEligible = true ∧ a.providerEligible = true := by
    simpa [ite_eq_iff] using hnone
  exact ⟨htenant, hdomain, hpermission, hcapability, hprovider, t, hmem, hfits⟩

/-- Every derived requirement passes the check. -/
theorem derived_accepted {revision : Planning.CanonicalWorkflowRevision}
    {bindings : List MatchedDefinitionBinding} {capabilities providers permissions : List String}
    {r : RuntimeRequirement}
    (h : deriveRuntimeRequirement revision bindings capabilities providers permissions = .ok r) :
    validateRequirement r = .ok () := by
  simp only [deriveRuntimeRequirement, bind_eq_ok, ite_error_eq_ok', assembleRequirement] at h
  obtain ⟨ids, -, -, -, ⟨canonical, counts⟩, -, -, capabilities', -, providers', -, permissions', -,
    -, -, -, h⟩ := h
  cases h
  rw [validateRequirement, ite_error_eq_ok']
  refine ⟨?_, rfl⟩
  rintro (hne | hne | hne) <;> exact hne rfl

/-! ### The order of the candidates -/

/-- **Two orders of the same candidates** get the same answer exactly when the search
does not reach them or meets its first malformed candidate at the same place. -/
theorem place_orderFree_iff {r : RuntimeRequirement} (hr : validateRequirement r = .ok ())
    (a : PlacementAuthorization) {cs cs' : List Candidate} (h : cs.Perm cs') :
    (place r a cs = place r a cs' ∧
        (∀ d, place r a cs = .ok d → d.outcome = .placed → Eligible r a cs) ∧
        ∀ revision bindings capabilities providers permissions r',
          deriveRuntimeRequirement revision bindings capabilities providers permissions = .ok r' →
            validateRequirement r' = .ok ()) ↔
      ¬ Searched r a cs ∨
        cs.findIdx? Candidate.malformed = cs'.findIdx? Candidate.malformed := by
  have hothers : (∀ d, place r a cs = .ok d → d.outcome = .placed → Eligible r a cs) ∧
      ∀ revision bindings capabilities providers permissions r',
        deriveRuntimeRequirement revision bindings capabilities providers permissions = .ok r' →
          validateRequirement r' = .ok () :=
    ⟨fun d => place_placed, fun _ _ _ _ _ _ => derived_accepted⟩
  rw [and_iff_left hothers]
  by_cases hsearched : Searched r a cs
  swap
  · exact iff_of_true (place_unsearched hsearched h.length_eq) (.inl hsearched)
  obtain ⟨hok, hnone, hlength⟩ := hsearched
  obtain ⟨reference, hreference⟩ := exists_of_isOk hok
  rw [or_iff_right (not_not.mpr ⟨hok, hnone, hlength⟩),
    place_searched hr hreference hnone hlength,
    place_searched hr hreference hnone (h.length_eq ▸ hlength)]
  exact searchFrom_eq_iff r reference h hlength

end Search

namespace Sample

local instance : Whitespace := .identity

/-- A requirement that carries its own digest. -/
def sealedRequirement : RuntimeRequirement :=
  let r : RuntimeRequirement := ⟨"", contractVersion, "revision-1", "", "tenant-a", "quality", [],
    runtimeTarget.name, "0.1.0+e6a162f", runtimeTarget.profile, [], [], [], ""⟩
  let digest := Definition.canonicalDigest contractVersion r.payload
  { r with requirementId := "runtime-requirement:" ++ digest, canonicalDigest := digest }

theorem sealedRequirement_accepted : validateRequirement sealedRequirement = .ok () := by
  rw [validateRequirement, ite_error_eq_ok']
  refine ⟨?_, rfl⟩
  rintro (hne | hne | hne) <;> exact hne rfl

def fullAuthorization : PlacementAuthorization :=
  ⟨"authorization-1", "tenant-a", "quality", true, true, true⟩

def declaredCandidate : Candidate :=
  .declared ⟨"target-0", "tenant-a", "quality", some runtimeTarget, providerPackage, "0.1.0",
    some .available⟩

def secondCandidate : Candidate :=
  .declared ⟨"target-1", "tenant-a", "quality", some runtimeTarget, providerPackage, "0.1.0",
    some .stale⟩

theorem sample_searched : Searched sealedRequirement fullAuthorization [declaredCandidate, .other] :=
  ⟨by decide, rfl, by decide⟩

/-- Two declared candidates may be given in any order. -/
theorem place_orderFree_of_two :
    place sealedRequirement fullAuthorization [declaredCandidate, secondCandidate] =
      place sealedRequirement fullAuthorization [secondCandidate, declaredCandidate] :=
  ((place_orderFree_iff sealedRequirement_accepted fullAuthorization (List.Perm.swap _ _ [])).mpr
    (.inr (by decide))).1

/-- A malformed candidate is counted where it stands. -/
theorem malformed_counted_in_order : ∃ (r : RuntimeRequirement) (a : PlacementAuthorization)
    (cs cs' : List Candidate), validateRequirement r = .ok () ∧ cs.Perm cs' ∧
      place r a cs ≠ place r a cs' := by
  refine ⟨sealedRequirement, fullAuthorization, [declaredCandidate, .other],
    [.other, declaredCandidate], sealedRequirement_accepted, List.Perm.swap _ _ _, fun heq => ?_⟩
  obtain ⟨hok, hnone, hlength⟩ := sample_searched
  obtain ⟨reference, hreference⟩ := exists_of_isOk hok
  have hlength' : [Candidate.other, declaredCandidate].length ≤ maxCandidates := hlength
  rw [place_searched sealedRequirement_accepted hreference hnone hlength,
    place_searched sealedRequirement_accepted hreference hnone hlength'] at heq
  have hplaces := (searchFrom_eq_iff _ reference (List.Perm.swap _ _ _) hlength).mp heq
  revert hplaces
  decide

end Sample

end Placement
end AgentPlatform
