/-
AgentPlatform/Capability/Gateway.lean

One call of the capability gateway over a REST provider (`gateway.py`,
`rest.py`), with the requests that were sent.

The authorization port and the transport may answer anything and may raise an
`Exception`. The gateway counts one attempt wherever the provider raises. The
provider also raises where it cannot build the request that it would send, and
then nothing has been sent. **Main result:** `counts_iff`, the evidence counts
the attempts exactly if the call is not allowed, the operation is not
configured, or the request can be built (`Fits`).
-/
import AgentPlatform.Capability.Models

namespace AgentPlatform

open Py

namespace Capability

variable [FoldingTables]

/-! ### Ports -/

/-- What `decide` of the authorization port does. -/
inductive Decided
  | raised
  /-- `None`. -/
  | missing
  /-- An object that is no `AuthorizationResult`. -/
  | other
  | result (r : AuthorizationResult)

/-- What `send` of the transport does. -/
inductive Sent
  /-- `TransportTimeoutError`. -/
  | timeout
  /-- `TransportAmbiguityError`. -/
  | ambiguity
  | raised
  /-- An object that is no `ProviderResponse`. -/
  | other
  | response (r : ProviderResponse)

/-- An accepted configuration, as far as it is used to build a request. -/
structure RestProviderConfiguration where
  provider : ProviderIdentity
  target : String
  allowedOperations : List String
  method : String
  headers : List (String × String)
  targetPresent : strip target ≠ ""
  methodSupported : method ∈ supportedMethods
  headersValid : Capability.headersValid headers = true

/-- How deep containers may be nested, by the recursion limit, where the body of
a request, that of a response, and the evidence are frozen. -/
structure Nesting where
  request : Nat
  response : Nat
  evidence : Nat

structure RestProvider where
  configuration : RestProviderConfiguration
  transport : ProviderRequest → Sent
  nesting : Nesting

structure CapabilityGateway where
  authorization : CapabilityRequest → AuthorizationContext → Decided
  provider : RestProvider

/-! ### The provider -/

namespace RestProvider

variable (p : RestProvider)

def identity : ProviderIdentity := p.configuration.provider

def outcome (request : CapabilityRequest) (status : CapabilityStatus) (diagnostic : String)
    (ambiguity : Ambiguity := .none) (attempts : Nat := 1) : Except Fault CapabilityOutcome :=
  match InvocationEvidence.create p.nesting.evidence { attempts } with
  | .error e => .error e
  | .ok invocation =>
    CapabilityOutcome.create {
      executionIdentity := request.executionIdentity, capability := request.capability
      provider := p.identity, authorization := .allow, status, diagnostic, invocation, ambiguity }

/-- The status and the diagnostic of a response. -/
def classify (statusCode : Int) : CapabilityStatus × String :=
  if 200 ≤ statusCode ∧ statusCode < 300 then (.succeeded, "CAPABILITY_INVOCATION_SUCCEEDED")
  else if 400 ≤ statusCode ∧ statusCode < 500 then (.failed, "PROVIDER_CLIENT_ERROR")
  else if 500 ≤ statusCode ∧ statusCode < 600 then (.failed, "PROVIDER_SERVER_ERROR")
  else (.failed, "PROVIDER_RESPONSE_MALFORMED")

/-- The part of `invoke` from the content type on. -/
def evaluate (request : CapabilityRequest) (response : ProviderResponse)
    (body : List (Key × Value)) (nativeRequestId : Option ProviderNativeRequestId) :
    Except Fault CapabilityOutcome :=
  if response.contentType ≠ some "application/json" then
    p.outcome request .failed "PROVIDER_CONTENT_UNSUPPORTED"
  else
    match response.statusCode with
    | .int n =>
      match InvocationEvidence.create p.nesting.evidence
        { attempts := 1, httpStatus := some (.int n)
          result := if 200 ≤ n ∧ n < 300 then some body else none } with
      | .error _ => p.outcome request .failed "PROVIDER_RESPONSE_MALFORMED"
      | .ok evidence =>
        CapabilityOutcome.create {
          executionIdentity := request.executionIdentity, capability := request.capability
          provider := p.identity, authorization := .allow, status := (classify n).1
          diagnostic := (classify n).2, invocation := evidence, nativeRequestId }
    -- an object that cannot be compared raises within the `try`, and one that can is no integer
    | _ => p.outcome request .failed "PROVIDER_RESPONSE_MALFORMED"

/-- The part of `invoke` after an answer of the transport. -/
def received (request : CapabilityRequest) : Sent → Except Fault CapabilityOutcome
  | .timeout => p.outcome request .indeterminate "PROVIDER_TIMEOUT_EFFECT_UNKNOWN" .timeoutEffectUnknown
  | .ambiguity =>
    p.outcome request .indeterminate "PROVIDER_TRANSPORT_EFFECT_UNKNOWN" .transportEffectUnknown
  | .raised => p.outcome request .failed "PROVIDER_TRANSPORT_FAILED_REDACTED"
  | .other => p.outcome request .failed "PROVIDER_RESPONSE_MALFORMED"
  | .response response =>
    match frozenJsonMapping p.nesting.response response.body "REST response" maxEvidenceBytes with
    | .error (.model _) => p.outcome request .failed "PROVIDER_RESPONSE_MALFORMED"
    | .error .other => .error .other
    | .ok body =>
      match response.nativeRequestId with
      | .other => p.outcome request .failed "PROVIDER_RESPONSE_MALFORMED"
      | .absent => p.evaluate request response body none
      | .id v =>
        if v.value = request.executionIdentity.value then
          p.outcome request .failed "PROVIDER_NATIVE_ID_INVALID"
        else p.evaluate request response body (some v)

/-- The request that is sent for a call. -/
def providerRequest (request : CapabilityRequest) : ProviderRequest where
  provider := p.identity
  executionIdentity := request.executionIdentity
  method := p.configuration.method
  target := p.configuration.target
  headers := p.configuration.headers
  body := operationBody request.operation request.arguments

/-- `invoke`, with the requests that were sent. -/
def invoke (request : CapabilityRequest) : Except Fault CapabilityOutcome × List ProviderRequest :=
  if request.operation ∉ p.configuration.allowedOperations then
    (p.outcome request .failed "REST_OPERATION_UNAUTHORIZED" .none 0, [])
  else
    match ProviderRequest.create p.nesting.request (p.providerRequest request) with
    | .error e => (.error e, [])
    | .ok r => (p.received request (p.transport r), [r])

end RestProvider

/-! ### The gateway -/

namespace CapabilityGateway

variable (g : CapabilityGateway)

def denied (request : CapabilityRequest) (diagnostic : String) : Except Fault CapabilityOutcome :=
  match InvocationEvidence.create g.provider.nesting.evidence { attempts := 0 } with
  | .error e => .error e
  | .ok invocation =>
    CapabilityOutcome.create {
      executionIdentity := request.executionIdentity, capability := request.capability
      provider := g.provider.identity, authorization := .deny, status := .denied, diagnostic
      invocation }

def failed (request : CapabilityRequest) (diagnostic : String) : Except Fault CapabilityOutcome :=
  match InvocationEvidence.create g.provider.nesting.evidence { attempts := 1 } with
  | .error e => .error e
  | .ok invocation =>
    CapabilityOutcome.create {
      executionIdentity := request.executionIdentity, capability := request.capability
      provider := g.provider.identity, authorization := .allow, status := .failed, diagnostic
      invocation }

/-- The part of `execute` after a decision to allow. -/
def invoked (request : CapabilityRequest) : Except Fault CapabilityOutcome × List ProviderRequest :=
  match g.provider.invoke request with
  | (.error _, sent) => (g.failed request "PROVIDER_INVOCATION_FAILED_REDACTED", sent)
  | (.ok outcome, sent) =>
    if outcome.executionIdentity ≠ request.executionIdentity ∨ outcome.capability ≠ request.capability
        ∨ outcome.provider ≠ g.provider.identity ∨ outcome.authorization ≠ .allow then
      (g.failed request "PROVIDER_EVIDENCE_INVALID", sent)
    else (.ok outcome, sent)

/-- `execute`, with the requests that were sent. -/
def execute (request : CapabilityRequest) (context : AuthorizationContext) :
    Except Fault CapabilityOutcome × List ProviderRequest :=
  if context.executionIdentity ≠ request.executionIdentity then
    (g.denied request "AUTHORIZATION_CONTEXT_INVALID", [])
  else
    match g.authorization request context with
    | .raised => (g.denied request "AUTHORIZATION_DECISION_UNAVAILABLE", [])
    | .missing => (g.denied request "AUTHORIZATION_DECISION_MISSING", [])
    | .other => (g.denied request "AUTHORIZATION_DECISION_MALFORMED", [])
    | .result r =>
      match r.decisions with
      | [.other] => (g.denied request "AUTHORIZATION_DECISION_UNKNOWN", [])
      | [.decision .deny] => (g.denied request ("DENIED_" ++ r.reason.code), [])
      | [.decision .allow] => g.invoked request
      | _ => (g.denied request "AUTHORIZATION_DECISION_AMBIGUOUS", [])

end CapabilityGateway

/-! ### Outcomes of the provider -/

/-- An outcome of an allowed call, as the provider makes it. -/
structure Made (p : RestProvider) (request : CapabilityRequest) (attempts : Nat)
    (o : CapabilityOutcome) : Prop where
  executionIdentity : o.executionIdentity = request.executionIdentity
  capability : o.capability = request.capability
  provider : o.provider = p.identity
  authorization : o.authorization = .allow
  attempts : o.invocation.attempts = attempts
  status : o.status ≠ .denied

/-- The response is JSON that can be kept as evidence, with a status of success
and, if any, a request ID of its own. -/
structure WellFormed (p : RestProvider) (request : CapabilityRequest) (response : ProviderResponse) :
    Prop where
  body : ∃ entries, response.body.entries? = some entries
    ∧ Frozen (min p.nesting.response p.nesting.evidence) maxEvidenceBytes entries
  nativeRequestId : response.nativeRequestId = .absent
    ∨ ∃ v, response.nativeRequestId = .id v ∧ v.value ≠ request.executionIdentity.value
  contentType : response.contentType = some "application/json"
  statusCode : ∃ n, response.statusCode = .int n ∧ 200 ≤ n ∧ n < 300

variable {p : RestProvider} {request : CapabilityRequest}

theorem Frozen.iff_depth {nesting nesting' maxBytes : Nat} {entries : List (Key × Value)}
    (h : Frozen nesting maxBytes entries) :
    Frozen nesting' maxBytes entries ↔ depthEntries entries ≤ nesting' :=
  ⟨fun h' => h'.depth, fun hdepth => ⟨h.keys, h.plain, hdepth, h.size⟩⟩

variable (p request) in
/-- The outcomes that only tell a failure are made. -/
theorem outcome_spec {status : CapabilityStatus} {diagnostic : String} (ambiguity : Ambiguity)
    {attempts : Nat} (hd : stableCode 127 diagnostic = true) (ha : attempts = 0 ∨ attempts = 1)
    (hs : status ≠ .denied) :
    ∃ o, p.outcome request status diagnostic ambiguity attempts = .ok o
      ∧ Made p request attempts o ∧ o.status = status := by
  have hevidence : InvocationEvidence.create p.nesting.evidence { attempts } = .ok { attempts } := by
    rw [InvocationEvidence.create, if_neg fun hne => ha.elim hne.1 hne.2]
  rw [RestProvider.outcome, hevidence]
  dsimp only
  rw [CapabilityOutcome.create_eq hd fun v hv => by cases hv]
  exact ⟨_, rfl, ⟨rfl, rfl, rfl, rfl, rfl, hs⟩, rfl⟩

/-- The outcome of an answer: it counts one attempt, and it is a success exactly
if the answer is a well-formed response. -/
def Received (p : RestProvider) (request : CapabilityRequest) (answer : Sent)
    (o : CapabilityOutcome) : Prop :=
  Made p request 1 o
    ∧ (o.status = .succeeded ↔ ∃ response, answer = .response response ∧ WellFormed p request response)

theorem received_failure {answer : Sent} {status : CapabilityStatus} {diagnostic : String}
    {ambiguity : Ambiguity} (hd : stableCode 127 diagnostic = true)
    (hs : status ≠ .denied ∧ status ≠ .succeeded)
    (h : ∀ response, answer = .response response → ¬ WellFormed p request response) :
    ∃ o, p.outcome request status diagnostic ambiguity = .ok o ∧ Received p request answer o := by
  obtain ⟨o, ho, hmade, hstatus⟩ := outcome_spec p request ambiguity hd (.inr rfl) hs.1
  refine ⟨o, ho, hmade, fun hsucceeded => absurd (hstatus.symm.trans hsucceeded) hs.2, ?_⟩
  rintro ⟨response, hanswer, hwell⟩
  exact absurd hwell (h response hanswer)

omit [FoldingTables] in
theorem classify_stable (n : Int) : stableCode 127 (RestProvider.classify n).2 = true := by
  rw [RestProvider.classify]
  split
  · simp [stableCode]
  · split
    · simp [stableCode]
    · split <;> simp [stableCode]

omit [FoldingTables] in
theorem classify_status (n : Int) : (RestProvider.classify n).1 ≠ .denied
    ∧ ((RestProvider.classify n).1 = .succeeded ↔ 200 ≤ n ∧ n < 300) := by
  rw [RestProvider.classify]
  split
  · next h => exact ⟨by decide, fun _ => h, fun _ => rfl⟩
  · next h =>
    split
    · exact ⟨by decide, nofun, fun h' => absurd h' h⟩
    · split <;> exact ⟨by decide, nofun, fun h' => absurd h' h⟩

/-- **The part from the content type on.** -/
theorem evaluate_spec {response : ProviderResponse} {entries : List (Key × Value)}
    {native : Option ProviderNativeRequestId} (hbody : response.body.entries? = some entries)
    (hfrozen : Frozen p.nesting.response maxEvidenceBytes entries)
    (hnative : ∀ v, native = some v → v.value ≠ request.executionIdentity.value)
    (hid : response.nativeRequestId = .absent
      ∨ ∃ v, response.nativeRequestId = .id v ∧ v.value ≠ request.executionIdentity.value) :
    ∃ o, p.evaluate request response entries native = .ok o
      ∧ Received p request (.response response) o := by
  have hfail : (¬ WellFormed p request response) →
      ∀ r, Sent.response response = .response r → ¬ WellFormed p request r := by
    rintro hnot r heq
    cases heq
    exact hnot
  rw [RestProvider.evaluate]
  split
  · next htype =>
    exact received_failure (by simp [stableCode]) ⟨by decide, by decide⟩
      (hfail fun hwell => htype hwell.contentType)
  · next htype =>
    have htype := not_not.mp htype
    split
    · next n hn =>
      split
      · next e he =>
        refine received_failure (by simp [stableCode]) ⟨by decide, by decide⟩ (hfail fun hwell => ?_)
        obtain ⟨entries', hentries', hfrozen'⟩ := hwell.body
        rw [hbody] at hentries'
        cases hentries'
        obtain ⟨n', hn', hrange⟩ := hwell.statusCode
        rw [hn] at hn'
        cases hn'
        have hok : frozenJsonMapping p.nesting.evidence (.mapping entries) "result evidence"
            maxEvidenceBytes = .ok entries := frozenJsonMapping_eq_ok.mpr
          ⟨rfl, hfrozen.iff_depth.mpr (hfrozen'.depth.trans (min_le_right _ _))⟩
        simp [InvocationEvidence.create, hrange, hok] at he
      · next evidence he =>
        rw [CapabilityOutcome.create_eq (classify_stable n) hnative]
        obtain ⟨hattempts, hresult⟩ := InvocationEvidence.create_spec he
        refine ⟨_, rfl, ⟨rfl, rfl, rfl, rfl, hattempts, (classify_status n).1⟩, ?_⟩
        rw [(classify_status n).2]
        constructor
        · intro hrange
          refine ⟨response, rfl, ⟨entries, hbody, ?_⟩, hid, htype, n, hn, hrange⟩
          have hdepth := (hresult entries (if_pos hrange)).depth
          exact hfrozen.iff_depth.mpr (le_min hfrozen.depth hdepth)
        · rintro ⟨r, heq, hwell⟩
          cases heq
          obtain ⟨n', hn', hrange⟩ := hwell.statusCode
          rw [hn] at hn'
          cases hn'
          exact hrange
    · next hn =>
      refine received_failure (by simp [stableCode]) ⟨by decide, by decide⟩ (hfail fun hwell => ?_)
      obtain ⟨n, hn', -⟩ := hwell.statusCode
      exact hn n hn'

variable (p request) in
/-- **The part after an answer of the transport**: an outcome that tells of it, or
an exception of a response whose body raises when it is read. -/
theorem received_spec (answer : Sent) :
    (∃ o, p.received request answer = .ok o ∧ Received p request answer o)
      ∨ ((∃ e, p.received request answer = .error e)
        ∧ ∀ response, answer = .response response → ¬ WellFormed p request response) := by
  cases answer with
  | timeout =>
    exact .inl (received_failure (by simp [stableCode]) ⟨by decide, by decide⟩
      fun _ heq => by cases heq)
  | ambiguity =>
    exact .inl (received_failure (by simp [stableCode]) ⟨by decide, by decide⟩
      fun _ heq => by cases heq)
  | raised =>
    exact .inl (received_failure (by simp [stableCode]) ⟨by decide, by decide⟩
      fun _ heq => by cases heq)
  | other =>
    exact .inl (received_failure (by simp [stableCode]) ⟨by decide, by decide⟩
      fun _ heq => by cases heq)
  | response response =>
    have hfail : (¬ WellFormed p request response) →
        ∀ r, Sent.response response = .response r → ¬ WellFormed p request r := by
      rintro hnot r heq
      cases heq
      exact hnot
    have hunfrozen : ∀ e, frozenJsonMapping p.nesting.response response.body "REST response"
        maxEvidenceBytes = .error e → ¬ WellFormed p request response := by
      intro e he hwell
      obtain ⟨entries, hentries, hfrozen⟩ := hwell.body
      have hok : frozenJsonMapping p.nesting.response response.body "REST response"
          maxEvidenceBytes = .ok entries := frozenJsonMapping_eq_ok.mpr
        ⟨hentries, hfrozen.iff_depth.mpr (hfrozen.depth.trans (min_le_left _ _))⟩
      rw [hok] at he
      cases he
    rw [RestProvider.received]
    split
    · next he =>
      exact .inl (received_failure (by simp [stableCode]) ⟨by decide, by decide⟩ (hfail (hunfrozen _ he)))
    · next he => exact .inr ⟨⟨_, rfl⟩, hfail (hunfrozen _ he)⟩
    · next entries he =>
      obtain ⟨hbody, hfrozen⟩ := frozenJsonMapping_eq_ok.mp he
      split
      · next hid =>
        refine .inl (received_failure (by simp [stableCode]) ⟨by decide, by decide⟩ (hfail fun hwell => ?_))
        rcases hwell.nativeRequestId with h | ⟨v, h, -⟩ <;> (rw [hid] at h; cases h)
      · next hid => exact .inl (evaluate_spec hbody hfrozen (fun _ hv => by cases hv) (.inl hid))
      · next v hid =>
        split
        · next heq =>
          refine .inl (received_failure (by simp [stableCode]) ⟨by decide, by decide⟩ (hfail fun hwell => ?_))
          rcases hwell.nativeRequestId with h | ⟨v', h, hne⟩
          · rw [hid] at h
            cases h
          · rw [hid] at h
            cases h
            exact hne heq
        · next hne =>
          refine .inl (evaluate_spec hbody hfrozen (fun v' hv' => ?_) (.inr ⟨v, hid, hne⟩))
          cases hv'
          exact hne

/-! ### Outcomes of the gateway -/

namespace CapabilityGateway

variable (g : CapabilityGateway) (request : CapabilityRequest) (context : AuthorizationContext)

/-- The port has allowed the call: it was asked for the execution of the request,
and gave exactly one decision. -/
def Allowed : Prop :=
  context.executionIdentity = request.executionIdentity
    ∧ ∃ r, g.authorization request context = .result r ∧ r.decisions = [.decision .allow]

/-- The request to the provider can be built: its target and its body fit, and
the operation does not look like a secret. -/
structure Fits : Prop where
  target : g.provider.configuration.target.length ≤ 256
  operation : secretText request.operation = false
  depth : depthEntries request.arguments + 1 ≤ g.provider.nesting.request
  size : ∃ length, (Value.dict request.arguments).encoded = some length
    ∧ (Json.printStr true request.operation).length + length + 27 ≤ maxRequestBytes

/-- What an outcome is to tell of the requests that were sent. -/
structure Counts (outcome : CapabilityOutcome) (sent : List ProviderRequest) : Prop where
  once : sent.length ≤ 1
  allowed : sent ≠ [] → g.Allowed request context
  attempts : outcome.invocation.attempts = sent.length
  denied : outcome.status = .denied ↔ ¬ g.Allowed request context
  succeeded : outcome.status = .succeeded ↔ ∃ r ∈ sent, ∃ response,
    g.provider.transport r = .response response ∧ WellFormed g.provider request response

variable {g request context}

/-- **When the request to the provider can be built.** -/
theorem create_providerRequest_iff :
    (∃ r, ProviderRequest.create g.provider.nesting.request (g.provider.providerRequest request) = .ok r)
      ↔ g.Fits request := by
  have hmethod : ¬ (g.provider.providerRequest request).method ∉ supportedMethods :=
    not_not.mpr g.provider.configuration.methodSupported
  have hheaders : ¬ headersValid (g.provider.providerRequest request).headers = false := by
    rw [show headersValid (g.provider.providerRequest request).headers = true from
      g.provider.configuration.headersValid]
    decide
  have htarget : required (g.provider.providerRequest request).target "REST target" = .ok ()
      ↔ g.provider.configuration.target.length ≤ 256 := by
    change required g.provider.configuration.target _ = _ ↔ _
    rw [required, if_neg g.provider.configuration.targetPresent]
    constructor
    · intro h
      by_contra hlong
      rw [if_pos (Nat.lt_of_not_le hlong)] at h
      cases h
    · exact fun h => if_neg (Nat.not_lt.mpr h)
  obtain ⟨outer, hfrozen⟩ := request.frozen
  obtain ⟨length, hlength, -⟩ := hfrozen.size
  have hbody : Frozen g.provider.nesting.request maxRequestBytes
      (operationBody request.operation request.arguments) ↔ _ := frozen_operation_iff hfrozen hlength
  rw [ProviderRequest.create, if_neg hmethod]
  constructor
  · rintro ⟨r, hr⟩
    split at hr
    · cases hr
    · next hpresent =>
      rw [if_neg hheaders] at hr
      split at hr
      · cases hr
      · next body hok =>
        obtain ⟨hentries, hfrozenBody⟩ := frozenJsonMapping_eq_ok.mp hok
        cases hentries
        obtain ⟨hplain, hdepth, hsize⟩ := hbody.mp hfrozenBody
        exact ⟨htarget.mp hpresent, hplain, hdepth, length, hlength, hsize⟩
  · rintro ⟨hshort, hplain, hdepth, length', hlength', hsize⟩
    rw [hlength] at hlength'
    cases hlength'
    have hok : frozenJsonMapping g.provider.nesting.request
        (.dict (operationBody request.operation request.arguments)) "REST body" maxRequestBytes
        = .ok (operationBody request.operation request.arguments) := frozenJsonMapping_eq_ok.mpr
      ⟨rfl, hbody.mpr ⟨hplain, hdepth, hsize⟩⟩
    rw [htarget.mpr hshort]
    dsimp only
    rw [if_neg hheaders]
    simp only [RestProvider.providerRequest, hok]
    exact ⟨_, rfl⟩

variable (g request) in
theorem denied_spec {diagnostic : String} (hd : stableCode 127 diagnostic = true) :
    ∃ o, g.denied request diagnostic = .ok o ∧ o.status = .denied ∧ o.invocation.attempts = 0 := by
  have hevidence : InvocationEvidence.create g.provider.nesting.evidence { attempts := 0 }
      = .ok { attempts := 0 } := by
    rw [InvocationEvidence.create, if_neg fun hne => hne.1 rfl]
  rw [denied, hevidence]
  dsimp only
  rw [CapabilityOutcome.create_eq hd fun v hv => by cases hv]
  exact ⟨_, rfl, rfl, rfl⟩

variable (g request) in
theorem failed_spec {diagnostic : String} (hd : stableCode 127 diagnostic = true) :
    ∃ o, g.failed request diagnostic = .ok o ∧ o.status = .failed ∧ o.invocation.attempts = 1 := by
  have hevidence : InvocationEvidence.create g.provider.nesting.evidence { attempts := 1 }
      = .ok { attempts := 1 } := by
    rw [InvocationEvidence.create, if_neg fun hne => hne.2 rfl]
  rw [failed, hevidence]
  dsimp only
  rw [CapabilityOutcome.create_eq hd fun v hv => by cases hv]
  exact ⟨_, rfl, rfl, rfl⟩

theorem invoked_of_made {attempts : Nat} {o : CapabilityOutcome} {sent : List ProviderRequest}
    (hinvoke : g.provider.invoke request = (.ok o, sent)) (hmade : Made g.provider request attempts o) :
    g.invoked request = (.ok o, sent) := by
  rw [invoked, hinvoke]
  dsimp only
  rw [if_neg]
  rintro (h | h | h | h)
  · exact h hmade.executionIdentity
  · exact h hmade.capability
  · exact h hmade.provider
  · exact h hmade.authorization

/-- **An allowed call**, where the operation is not configured or the request can
be built. -/
theorem counts_of_invoked (ha : g.Allowed request context)
    (h : request.operation ∉ g.provider.configuration.allowedOperations ∨ g.Fits request) :
    ∃ o sent, g.invoked request = (.ok o, sent) ∧ g.Counts request context o sent := by
  by_cases hop : request.operation ∈ g.provider.configuration.allowedOperations
  swap
  · obtain ⟨o, ho, hmade, hstatus⟩ := outcome_spec g.provider request .none
      (show stableCode 127 "REST_OPERATION_UNAUTHORIZED" = true by simp [stableCode]) (.inl rfl)
      (show CapabilityStatus.failed ≠ .denied by decide)
    have hinvoke : g.provider.invoke request = (.ok o, []) := by
      rw [RestProvider.invoke, if_pos hop, ho]
    refine ⟨o, [], invoked_of_made hinvoke hmade, Nat.zero_le 1, fun hne => absurd rfl hne,
      hmade.attempts, ⟨fun hd => absurd hd hmade.status, fun hn => absurd ha hn⟩, ?_⟩
    rw [hstatus]
    refine ⟨(fun h => by cases h), ?_⟩
    rintro ⟨r, hr, -⟩
    cases hr
  · obtain ⟨r, hr⟩ := create_providerRequest_iff.mpr (h.resolve_left (not_not.mpr hop))
    have hinvoke : g.provider.invoke request
        = (g.provider.received request (g.provider.transport r), [r]) := by
      rw [RestProvider.invoke, if_neg (not_not.mpr hop), hr]
    rcases received_spec g.provider request (g.provider.transport r) with
      ⟨o, ho, hmade, hsucceeded⟩ | ⟨⟨e, he⟩, hnot⟩
    · rw [ho] at hinvoke
      refine ⟨o, [r], invoked_of_made hinvoke hmade, Nat.le_refl 1, fun _ => ha, hmade.attempts,
        ⟨fun hd => absurd hd hmade.status, fun hn => absurd ha hn⟩, hsucceeded.trans ?_⟩
      simp
    · obtain ⟨o, ho, hstatus, hattempts⟩ := failed_spec g request
        (show stableCode 127 "PROVIDER_INVOCATION_FAILED_REDACTED" = true by simp [stableCode])
      refine ⟨o, [r], ?_, Nat.le_refl 1, fun _ => ha, hattempts, ?_, ?_⟩
      · rw [invoked, hinvoke, he]
        dsimp only
        rw [ho]
      · rw [hstatus]
        exact ⟨(fun h => by cases h), fun hn => absurd ha hn⟩
      · rw [hstatus]
        refine ⟨(fun h => by cases h), ?_⟩
        rintro ⟨r', hr', response, hresponse, hwell⟩
        cases List.mem_singleton.mp hr'
        exact absurd hwell (hnot response hresponse)

/-- A call that is not allowed ends before the provider, with a stable diagnostic. -/
theorem execute_of_not_allowed (ha : ¬ g.Allowed request context) :
    ∃ diagnostic, stableCode 127 diagnostic = true
      ∧ g.execute request context = (g.denied request diagnostic, []) := by
  by_cases hidentity : context.executionIdentity = request.executionIdentity
  swap
  · exact ⟨"AUTHORIZATION_CONTEXT_INVALID", by simp [stableCode], by rw [execute, if_pos hidentity]⟩
  · have hidentity' := not_not.mpr hidentity
    cases hdecided : g.authorization request context with
    | raised =>
      exact ⟨"AUTHORIZATION_DECISION_UNAVAILABLE", by simp [stableCode],
        by rw [execute, if_neg hidentity', hdecided]⟩
    | missing =>
      exact ⟨"AUTHORIZATION_DECISION_MISSING", by simp [stableCode],
        by rw [execute, if_neg hidentity', hdecided]⟩
    | other =>
      exact ⟨"AUTHORIZATION_DECISION_MALFORMED", by simp [stableCode],
        by rw [execute, if_neg hidentity', hdecided]⟩
    | result r =>
      have hexecute : g.execute request context
          = match r.decisions with
            | [.other] => (g.denied request "AUTHORIZATION_DECISION_UNKNOWN", [])
            | [.decision .deny] => (g.denied request ("DENIED_" ++ r.reason.code), [])
            | [.decision .allow] => g.invoked request
            | _ => (g.denied request "AUTHORIZATION_DECISION_AMBIGUOUS", []) := by
        rw [execute, if_neg hidentity', hdecided]
      split at hexecute
      · exact ⟨_, by simp [stableCode], hexecute⟩
      · exact ⟨_, stableCode_denied r.reason.valid, hexecute⟩
      · next hallow => exact absurd ⟨hidentity, r, hdecided, hallow⟩ ha
      · exact ⟨_, by simp [stableCode], hexecute⟩

/-- **A call that is not allowed** is denied, and nothing is sent. -/
theorem counts_of_denied (ha : ¬ g.Allowed request context) :
    ∃ o, g.execute request context = (.ok o, []) ∧ g.Counts request context o [] := by
  obtain ⟨diagnostic, hd, hexecute⟩ := execute_of_not_allowed ha
  obtain ⟨o, ho, hstatus, hattempts⟩ := denied_spec g request hd
  refine ⟨o, hexecute.trans (by rw [ho]), Nat.zero_le 1, fun hne => absurd rfl hne, hattempts,
    ⟨fun _ => ha, fun _ => hstatus⟩, ?_⟩
  rw [hstatus]
  exact ⟨nofun, fun ⟨r, hr, _⟩ => nomatch hr⟩

/-- An allowed call goes on with the provider. -/
theorem execute_of_allowed (ha : g.Allowed request context) :
    g.execute request context = g.invoked request := by
  obtain ⟨hidentity, r, hr, hdecisions⟩ := ha
  rw [execute, if_neg (not_not.mpr hidentity), hr]
  dsimp only
  rw [hdecisions]

/-- An attempt is counted, and nothing is sent, where the request cannot be
built. -/
theorem not_counts (ha : g.Allowed request context)
    (hop : request.operation ∈ g.provider.configuration.allowedOperations)
    (hfits : ¬ g.Fits request) :
    ¬ ∃ o sent, g.execute request context = (.ok o, sent) ∧ g.Counts request context o sent := by
  rintro ⟨o, sent, hexecute, hcounts⟩
  obtain ⟨o', ho', hstatus, hattempts⟩ := failed_spec g request
    (show stableCode 127 "PROVIDER_INVOCATION_FAILED_REDACTED" = true by simp [stableCode])
  cases hcreate : ProviderRequest.create g.provider.nesting.request
      (g.provider.providerRequest request) with
  | ok r => exact hfits (create_providerRequest_iff.mp ⟨r, hcreate⟩)
  | error e =>
    have hinvoked : g.invoked request = (.ok o', []) := by
      rw [invoked, RestProvider.invoke, if_neg (not_not.mpr hop), hcreate]
      dsimp only
      rw [ho']
    rw [execute_of_allowed ha, hinvoked] at hexecute
    cases hexecute
    have := hcounts.attempts
    rw [hattempts] at this
    cases this

/-- **The evidence counts the attempts** exactly if the call is not allowed, the
operation is not configured, or the request to the provider can be built. -/
theorem counts_iff (g : CapabilityGateway) (request : CapabilityRequest)
    (context : AuthorizationContext) :
    (∃ o sent, g.execute request context = (.ok o, sent) ∧ g.Counts request context o sent)
      ↔ ¬ g.Allowed request context
        ∨ request.operation ∉ g.provider.configuration.allowedOperations ∨ g.Fits request := by
  constructor
  · intro h
    by_contra hnot
    simp only [not_or, not_not] at hnot
    exact not_counts hnot.1 hnot.2.1 hnot.2.2 h
  · intro h
    by_cases ha : g.Allowed request context
    · rw [execute_of_allowed ha]
      exact counts_of_invoked ha (h.resolve_left (not_not.mpr ha))
    · obtain ⟨o, ho, hcounts⟩ := counts_of_denied ha
      exact ⟨o, [], ho, hcounts⟩

end CapabilityGateway

/-! ### Arguments at the size limit -/

namespace Sample

@[irreducible]
def text (n : Nat) : String := String.ofList (List.replicate n 'a')

omit [FoldingTables] in
theorem secretText_text (n : Nat) : secretText (text n) = false := by
  have hprivate : privateKey (List.replicate n 'a') = false := by
    induction n with
    | zero => rfl
    | succ n ih => simp [List.replicate_succ, privateKey, literal, after, ih]
  have hafter : ∀ start : String, (start.toList.head?.any fun c => !letter c 'a') = true →
      ∀ tests, after (foldedLiteral start ++ tests) (List.replicate n 'a') = none := by
    intro start hstart tests
    rw [foldedLiteral]
    cases hs : start.toList with
    | nil =>
      rw [hs] at hstart
      cases hstart
    | cons c l =>
      rw [hs] at hstart
      cases n with
      | zero => rfl
      | succ n =>
        have hc : letter c 'a' = false := by simpa using hstart
        simp [List.replicate_succ, after, hc]
  have hbearer := hafter "bearer" (by decide) []
  rw [List.append_nil] at hbearer
  simp [secretText, text, hprivate, bearer, hbearer, keyText, hafter "sk" (by decide),
    hafter "rk" (by decide), hafter "pk" (by decide)]

omit [FoldingTables] in
theorem length_printStr_text (n : Nat) : (Json.printStr true (text n)).length = n + 2 := by
  have hescapes : Json.escapes true (List.replicate n 'a') = List.replicate n 'a' := by
    induction n with
    | zero => rfl
    | succ n ih =>
      rw [List.replicate_succ, Json.escapes, ih]
      rfl
  simp [Json.printStr_eq, text, hescapes]

def arguments (n : Nat) : List (Key × Value) := [(.str "text", .str (text n))]

omit [FoldingTables] in
theorem encoded_arguments (n : Nat) : (Value.dict (arguments n)).encoded = some (n + 11) := by
  have hkey : (Key.str "text").encoded = 6 := rfl
  have hsort : sortable ((arguments n).map (·.1)) = true := rfl
  rw [arguments] at hsort ⊢
  rw [Value.encoded, if_pos hsort]
  simp only [Value.encoded, encodedEntries, length_printStr_text, hkey, Option.pure_def,
    Option.bind_eq_bind, Option.bind_some]
  exact congrArg some (by omega)

theorem frozen_arguments {n : Nat} (h : n + 11 ≤ maxRequestBytes) :
    Frozen 1 maxRequestBytes (arguments n) := by
  have hkey : secretKey "text" = false := by
    rw [secretKey_of_lower (by decide)]
    decide
  have hplain : containsSecret [.dict (arguments n)] = .ok false := by
    rw [containsSecret, if_neg (by simp [arguments, Key.secret, hkey])]
    simp [arguments, pushValues, push, containsSecret, secretText_text]
  exact ⟨rfl, hplain, Nat.zero_le 1, n + 11, encoded_arguments n, h⟩

omit [FoldingTables] in
theorem lookup_required : required "lookup" "capability operation" = .ok () := by
  rw [required, if_neg (by decide +kernel), if_neg (by decide)]

theorem frozen_longest : ∃ nesting, Frozen nesting maxRequestBytes (arguments 65525) :=
  ⟨1, frozen_arguments Nat.le.refl⟩

omit [FoldingTables] in
theorem policy_stable : stableCode 63 "POLICY" = true := by simp [stableCode]

omit [FoldingTables] in
theorem target_present : strip "https://synthetic.invalid/" ≠ "" := by decide +kernel

omit [FoldingTables] in
theorem post_supported : "POST" ∈ supportedMethods := by decide

theorem noHeaders_valid : headersValid [] = true := by
  simp [headersValid, containsSecret, pushValues, push]

def longRequest : CapabilityRequest where
  capability := ⟨"text-lookup"⟩
  operation := "lookup"
  executionIdentity := ⟨"execution-1"⟩
  arguments := arguments 65525
  valid := lookup_required
  frozen := frozen_longest

def caller : AuthorizationContext := ⟨"subject", "tenant", ⟨"execution-1"⟩⟩

/-- A port that allows every call, and a transport that answers with an empty
object. -/
def gateway : CapabilityGateway where
  authorization _ _ := .result ⟨[.decision .allow], ⟨"POLICY", policy_stable⟩⟩
  provider := {
    configuration := {
      provider := ⟨"synthetic-rest"⟩, target := "https://synthetic.invalid/"
      allowedOperations := ["lookup"], method := "POST", headers := []
      targetPresent := target_present, methodSupported := post_supported
      headersValid := noHeaders_valid }
    transport _ := .response { statusCode := .int 200, body := .dict [] }
    nesting := ⟨1000, 1000, 1000⟩ }

omit [FoldingTables] in
/-- The arguments fit in a request, and with the operation they do not fit in the
body for the provider. -/
theorem attempt_not_sent :
    letI := FoldingTables.ofAscii
    ¬ ∃ o sent, gateway.execute longRequest caller = (.ok o, sent)
      ∧ gateway.Counts longRequest caller o sent := by
  let := FoldingTables.ofAscii
  refine CapabilityGateway.not_counts ⟨rfl, _, rfl, rfl⟩ (show "lookup" ∈ ["lookup"] by decide) ?_
  rintro ⟨-, -, -, length, hlength, hsize⟩
  rw [show Value.encoded (.dict longRequest.arguments) = some (65525 + 11) from encoded_arguments _]
    at hlength
  cases hlength
  have hoperation : (Json.printStr true "lookup").length = 8 := by decide +kernel
  rw [show longRequest.operation = "lookup" from rfl, hoperation] at hsize
  exact absurd hsize (by decide)

end Sample

end Capability

end AgentPlatform
