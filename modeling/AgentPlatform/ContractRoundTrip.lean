/-
AgentPlatform/ContractRoundTrip.lean

The seven records through `canonical_bytes`, `json.loads` and `from_mapping`.

For each record its fields are listed with their canonical and their converted
values (`entries`). That the tables convert them so is checked field by field,
and the constructor then finds its record again (`fromMapping_payload`).

Main result: `contract_round_trip`. A placement decision survives exactly when
its digest is the one `verify_digest` asks for; decisions made by `create` have
that digest.
-/
import AgentPlatform.ContractCodec
import AgentPlatform.Dispatch.Sample

namespace AgentPlatform

open Py

section RoundTrip

variable [Unicodedata]

/-! ### Record by record -/

def PlacementRequest.entries (r : PlacementRequest) : List Entry :=
  [("request_id", .str r.requestId.value, .opaqueId .placementRequest r.requestId),
    ("scope", r.scope.json, .scope r.scope),
    ("workflow_run_id", .str r.workflowRunId.value, .opaqueId .workflowRun r.workflowRunId),
    ("task_run_id", .str r.taskRunId.value, .opaqueId .taskRun r.taskRunId),
    ("attempt_id", .str r.attemptId.value, .opaqueId .attempt r.attemptId),
    ("agent_instance_id", .str r.agentInstanceId.value, .opaqueId .agentInstance r.agentInstanceId),
    ("agent_revision_id", .str r.agentRevisionId.value, .json (.str r.agentRevisionId.value)),
    ("runtime_profile_revision_id", .str r.runtimeProfileRevisionId.value,
      .json (.str r.runtimeProfileRevisionId.value)),
    ("capability_requirements", r.capabilityRequirements.json,
      .tuple r.capabilityRequirements.jsonItems),
    ("resource_requirements", r.resourceRequirements.json, .tuple r.resourceRequirements.jsonItems),
    ("isolation_requirements", r.isolationRequirements.json,
      .tuple r.isolationRequirements.jsonItems),
    ("state_requirements", r.stateRequirements.json, .tuple r.stateRequirements.jsonItems),
    ("requested_at", .str r.requestedAt.isoformatZ, .datetime ⟨r.requestedAt.micros, some 0⟩)]

theorem PlacementRequest.fromMapping_payload (r : PlacementRequest) :
    fromMapping r.payload.sortKeys = .ok r := by
  have h : AllConvert NativeDispatchCommand.fromMapping r.entries :=
    ⟨.opaqueId rfl _, .scope rfl _, .opaqueId rfl _, .opaqueId rfl _, .opaqueId rfl _,
      .opaqueId rfl _, .json rfl _, .json rfl _, .codes rfl _, .codes rfl _, .codes rfl _,
      .codes rfl _, .datetime rfl _, trivial⟩
  have hnames : r.entries.map (·.1) = fieldNames := rfl
  have hp : r.payload = .obj (r.entries.map fun e => (e.1, e.2.1)) := rfl
  rw [hp, fromMapping, fromMappingWith_payload hnames (by decide) h]
  simp [construct, valueOf, entries, requireId_self, requireScope, textField_value, codesField_items,
    timestampField_micros, bind, Except.bind]

def RuntimeDesiredState.entries (s : RuntimeDesiredState) : List Entry :=
  [("runtime_instance_id", .str s.runtimeInstanceId.value,
      .opaqueId .runtimeInstance s.runtimeInstanceId),
    ("desired_generation", .int s.desiredGeneration.value, .generation s.desiredGeneration),
    ("desired_state", .str s.desiredState.value, .desiredState s.desiredState),
    ("command_id", .str s.commandId.value, .opaqueId .command s.commandId),
    ("requested_by", .str s.requestedBy.value, .json (.str s.requestedBy.value)),
    ("requested_at", .str s.requestedAt.isoformatZ, .datetime ⟨s.requestedAt.micros, some 0⟩),
    ("deadline", .str s.deadline.isoformatZ, .datetime ⟨s.deadline.micros, some 0⟩),
    ("reason_classification", .str s.reasonClassification.value,
      .json (.str s.reasonClassification.value))]

theorem RuntimeDesiredState.fromMapping_payload (s : RuntimeDesiredState) :
    fromMapping s.payload.sortKeys = .ok s := by
  have hstate : Converts NativeDispatchCommand.fromMapping "desired_state"
      (Json.str s.desiredState.value).sortKeys (.desiredState s.desiredState) := by
    apply Converts.of_lookup rfl
    cases s.desiredState <;> rfl
  have h : AllConvert NativeDispatchCommand.fromMapping s.entries :=
    ⟨.runtimeInstanceId rfl _, .generation rfl _, hstate, .opaqueId rfl _, .json rfl _,
      .datetime rfl _, .datetime rfl _, .json rfl _, trivial⟩
  have hnames : s.entries.map (·.1) = fieldNames := rfl
  have hp : s.payload = .obj (s.entries.map fun e => (e.1, e.2.1)) := rfl
  rw [hp, fromMapping, fromMappingWith_payload hnames (by decide) h]
  simp [construct, valueOf, entries, requireId_self, requireGeneration, requireDesiredState,
    textField_value, timestampField_micros, bind, Except.bind, s.deadline_follows]

def RuntimeObservation.entries (o : RuntimeObservation) : List Entry :=
  [("observation_id", .str o.observationId.value, .opaqueId .observation o.observationId),
    ("runtime_instance_id", .str o.runtimeInstanceId.value,
      .opaqueId .runtimeInstance o.runtimeInstanceId),
    ("observed_generation", .int o.observedGeneration.value, .generation o.observedGeneration),
    ("observed_state", .str o.observedState.value, .observedState o.observedState),
    ("health", .str o.health.value, .health o.health),
    ("readiness", .str o.readiness.value, .readiness o.readiness),
    ("observed_at", .str o.observedAt.isoformatZ, .datetime ⟨o.observedAt.micros, some 0⟩),
    ("freshness_deadline", .str o.freshnessDeadline.isoformatZ,
      .datetime ⟨o.freshnessDeadline.micros, some 0⟩),
    ("provider_correlation", jsonOption ExternalCorrelation.json o.providerCorrelation,
      correlationValue o.providerCorrelation),
    ("kubernetes_correlation", jsonOption ExternalCorrelation.json o.kubernetesCorrelation,
      correlationValue o.kubernetesCorrelation),
    ("limitation_codes", o.limitationCodes.json, .tuple o.limitationCodes.jsonItems)]

theorem RuntimeObservation.fromMapping_payload (o : RuntimeObservation) :
    fromMapping o.payload.sortKeys = .ok o := by
  have hstate : Converts NativeDispatchCommand.fromMapping "observed_state"
      (Json.str o.observedState.value).sortKeys (.observedState o.observedState) := by
    apply Converts.of_lookup rfl
    cases o.observedState <;> rfl
  have hhealth : Converts NativeDispatchCommand.fromMapping "health"
      (Json.str o.health.value).sortKeys (.health o.health) := by
    apply Converts.of_lookup rfl
    cases o.health <;> rfl
  have hready : Converts NativeDispatchCommand.fromMapping "readiness"
      (Json.str o.readiness.value).sortKeys (.readiness o.readiness) := by
    apply Converts.of_lookup rfl
    cases o.readiness <;> rfl
  have h : AllConvert NativeDispatchCommand.fromMapping o.entries :=
    ⟨.opaqueId rfl _, .runtimeInstanceId rfl _, .generation rfl _, hstate, hhealth, hready,
      .datetime rfl _, .datetime rfl _, .correlation rfl _, .correlation rfl _, .codes rfl _,
      trivial⟩
  have hnames : o.entries.map (·.1) = fieldNames := rfl
  have hp : o.payload = .obj (o.entries.map fun e => (e.1, e.2.1)) := rfl
  rw [hp, fromMapping, fromMappingWith_payload hnames (by decide) h]
  simp [construct, valueOf, entries, requireId_self, requireGeneration, requireObservedState,
    requireHealth, requireReadiness, optionalCorrelation_value, codesField_items,
    timestampField_micros, bind, Except.bind, o.freshness_follows]

def NativeDispatchCommand.entries (c : NativeDispatchCommand) : List Entry :=
  [("command_id", .str c.commandId.value, .opaqueId .command c.commandId),
    ("scope", c.scope.json, .scope c.scope),
    ("attempt_id", .str c.attemptId.value, .opaqueId .attempt c.attemptId),
    ("assignment_id", .str c.assignmentId.value, .opaqueId .assignment c.assignmentId),
    ("approved_plan_revision_id", .str c.approvedPlanRevisionId.value,
      .json (.str c.approvedPlanRevisionId.value)),
    ("approved_plan_digest", .str c.approvedPlanDigest.1, .json (.str c.approvedPlanDigest.1)),
    ("placement_id", .str c.placementId.value, .opaqueId .placement c.placementId),
    ("placement_digest", .str c.placementDigest.1, .json (.str c.placementDigest.1)),
    ("runtime_instance_id", .str c.runtimeInstanceId.value,
      .opaqueId .runtimeInstance c.runtimeInstanceId),
    ("runtime_generation", .int c.runtimeGeneration.value, .generation c.runtimeGeneration),
    ("agent_instance_id", .str c.agentInstanceId.value, .opaqueId .agentInstance c.agentInstanceId),
    ("principal_id", .str c.principalId.value, .json (.str c.principalId.value)),
    ("credential_id", .str c.credentialId.value, .json (.str c.credentialId.value)),
    ("authentication_source", .str c.authenticationSource.value,
      .json (.str c.authenticationSource.value)),
    ("authority_generation", .int c.authorityGeneration.value, .generation c.authorityGeneration),
    ("recovery_epoch", .int c.recoveryEpoch.value, .generation c.recoveryEpoch),
    ("authorization_owner", .str c.authorizationOwner.value,
      .json (.str c.authorizationOwner.value)),
    ("authorization_action", .str c.authorizationAction.value,
      .json (.str c.authorizationAction.value)),
    ("authorization_resource", .str c.authorizationResource.value,
      .json (.str c.authorizationResource.value)),
    ("agent_name", .str c.agentName.value, .json (.str c.agentName.value)),
    ("input_text", .str c.inputText.value, .json (.str c.inputText.value)),
    ("timeout_seconds", .int c.timeoutSeconds.1, .json (.int c.timeoutSeconds.1)),
    ("queued_at", .str c.queuedAt.isoformatZ, .datetime ⟨c.queuedAt.micros, some 0⟩)]

/-- The constructor of a command finds the values it was made of. -/
theorem NativeDispatchCommand.construct_entries (c : NativeDispatchCommand) :
    construct (valueOf c.entries) = .ok c := by
  obtain ⟨source, hsource, hkind⟩ := authenticationSource_text c.authenticationSource
  refine bind_eq_ok.mpr ⟨_, requireId_self .command _ c.commandId, ?_⟩
  refine bind_eq_ok.mpr ⟨c.scope, rfl, ?_⟩
  refine bind_eq_ok.mpr ⟨_, requireId_self .attempt _ c.attemptId, ?_⟩
  refine bind_eq_ok.mpr ⟨_, requireId_self .assignment _ c.assignmentId, ?_⟩
  refine bind_eq_ok.mpr ⟨_, requireId_self .placement _ c.placementId, ?_⟩
  refine bind_eq_ok.mpr ⟨_, requireId_self .runtimeInstance _ c.runtimeInstanceId, ?_⟩
  refine bind_eq_ok.mpr ⟨c.runtimeGeneration, rfl, ?_⟩
  refine bind_eq_ok.mpr ⟨_, requireId_self .agentInstance _ c.agentInstanceId, ?_⟩
  refine bind_eq_ok.mpr ⟨c.authorityGeneration, rfl, ?_⟩
  refine bind_eq_ok.mpr ⟨c.recoveryEpoch, rfl, ?_⟩
  refine bind_eq_ok.mpr ⟨_, textField_value _ c.principalId, ?_⟩
  refine bind_eq_ok.mpr ⟨_, textField_value _ c.credentialId, ?_⟩
  refine bind_eq_ok.mpr ⟨source, hsource, ?_⟩
  refine bind_eq_ok.mpr ⟨_, textField_value _ c.approvedPlanRevisionId, ?_⟩
  refine bind_eq_ok.mpr ⟨_, textField_value _ c.authorizationOwner, ?_⟩
  refine bind_eq_ok.mpr ⟨_, textField_value _ c.authorizationAction, ?_⟩
  refine bind_eq_ok.mpr ⟨_, textField_value _ c.authorizationResource, ?_⟩
  refine bind_eq_ok.mpr ⟨_, textField_value _ c.agentName, ?_⟩
  refine bind_eq_ok.mpr ⟨_, hkind, ?_⟩
  refine bind_eq_ok.mpr ⟨_, digestField_value c.approvedPlanDigest, ?_⟩
  refine bind_eq_ok.mpr ⟨_, digestField_value c.placementDigest, ?_⟩
  refine bind_eq_ok.mpr ⟨_, textField_value _ c.inputText, ?_⟩
  refine bind_eq_ok.mpr ⟨_, timeoutField_value c.timeoutSeconds, ?_⟩
  exact bind_eq_ok.mpr ⟨_, timestampField_micros _ c.queuedAt, rfl⟩

theorem NativeDispatchCommand.fromMapping_payload (c : NativeDispatchCommand) :
    fromMapping c.payload.sortKeys = .ok c := by
  have h : AllConvert (fun _ => invalidValue) c.entries :=
    ⟨.opaqueId rfl _, .scope rfl _, .opaqueId rfl _, .opaqueId rfl _, .json rfl _, .json rfl _,
      .opaqueId rfl _, .json rfl _, .runtimeInstanceId rfl _, .generation rfl _, .opaqueId rfl _,
      .json rfl _, .json rfl _, .json rfl _, .generation rfl _, .generation rfl _, .json rfl _,
      .json rfl _, .json rfl _, .json rfl _, .json rfl _, .json rfl _, .datetime rfl _, trivial⟩
  have hnames : c.entries.map (·.1) = fieldNames := rfl
  have hp : c.payload = .obj (c.entries.map fun e => (e.1, e.2.1)) := rfl
  rw [hp, fromMapping, fromMappingWith_payload hnames (by decide) h]
  exact c.construct_entries

def NativeDispatchClaim.entries (c : NativeDispatchClaim) : List Entry :=
  [("command", c.command.payload, .command c.command),
    ("claim_generation", .int c.claimGeneration.value, .generation c.claimGeneration),
    ("fencing_token", .str c.fencingToken.value, .json (.str c.fencingToken.value)),
    ("worker_id", .str c.workerId.value, .json (.str c.workerId.value)),
    ("lease_expires_at", .str c.leaseExpiresAt.isoformatZ,
      .datetime ⟨c.leaseExpiresAt.micros, some 0⟩)]

theorem NativeDispatchClaim.fromMapping_payload (c : NativeDispatchClaim) :
    fromMapping c.payload.sortKeys = .ok c := by
  have hcommand : Converts NativeDispatchCommand.fromMapping "command" c.command.payload.sortKeys
      (.command c.command) := by
    apply Converts.of_lookup rfl
    rw [Converter.convert, NativeDispatchCommand.fromMapping_payload]
    rfl
  have h : AllConvert NativeDispatchCommand.fromMapping c.entries :=
    ⟨hcommand, .generation rfl _, .json rfl _, .json rfl _, .datetime rfl _, trivial⟩
  have hnames : c.entries.map (·.1) = fieldNames := rfl
  have hp : c.payload = .obj (c.entries.map fun e => (e.1, e.2.1)) := rfl
  rw [hp, fromMapping, fromMappingWith_payload hnames (by decide) h]
  simp [construct, valueOf, entries, requireCommand, requireGeneration, textField_value,
    timestampField_micros, bind, Except.bind]

def NativeTerminalObservation.entries (o : NativeTerminalObservation) : List Entry :=
  [("command_id", .str o.commandId.value, .opaqueId .command o.commandId),
    ("kind", .str o.kind.value, .terminalKind o.kind),
    ("kubernetes_task_name", .str o.kubernetesTaskName.value,
      .json (.str o.kubernetesTaskName.value)),
    ("kubernetes_task_uid", .optStr (o.kubernetesTaskUid.map (·.value)),
      .json (.optStr (o.kubernetesTaskUid.map (·.value)))),
    ("output", .optStr (o.output.map (·.value)), .json (.optStr (o.output.map (·.value)))),
    ("reason", .optStr (o.reason.map (·.value)), .json (.optStr (o.reason.map (·.value)))),
    ("observed_at", .str o.observedAt.isoformatZ, .datetime ⟨o.observedAt.micros, some 0⟩)]

omit [Unicodedata] in
theorem sortKeys_optStr (t : Option String) : (Json.optStr t).sortKeys = .optStr t := by
  cases t <;> rfl

theorem NativeTerminalObservation.fromMapping_payload (o : NativeTerminalObservation) :
    fromMapping o.payload.sortKeys = .ok o := by
  have hkind : Converts NativeDispatchCommand.fromMapping "kind"
      (Json.str o.kind.value).sortKeys (.terminalKind o.kind) := by
    apply Converts.of_lookup rfl
    cases o.kind <;> rfl
  have hopt : ∀ (name : String) (t : Option String), conversions.lookup name = none →
      Converts NativeDispatchCommand.fromMapping name (Json.optStr t).sortKeys
        (.json (.optStr t)) := by
    intro name t hn
    rw [sortKeys_optStr]
    exact .json hn _
  have h : AllConvert NativeDispatchCommand.fromMapping o.entries :=
    ⟨.opaqueId rfl _, hkind, .json rfl _, hopt _ _ rfl, hopt _ _ rfl, hopt _ _ rfl,
      .datetime rfl _, trivial⟩
  have hnames : o.entries.map (·.1) = fieldNames := rfl
  have hp : o.payload = .obj (o.entries.map fun e => (e.1, e.2.1)) := rfl
  rw [hp, fromMapping, fromMappingWith_payload hnames (by decide) h]
  refine bind_eq_ok.mpr ⟨_, requireId_self .command _ o.commandId, ?_⟩
  refine bind_eq_ok.mpr ⟨o.kind, rfl, ?_⟩
  refine bind_eq_ok.mpr ⟨_, textField_value _ o.kubernetesTaskName, ?_⟩
  refine bind_eq_ok.mpr ⟨_, optionalTextField_value _ o.kubernetesTaskUid, ?_⟩
  refine bind_eq_ok.mpr ⟨_, optionalTextField_value _ o.output, ?_⟩
  refine bind_eq_ok.mpr ⟨_, optionalTextField_value _ o.reason, ?_⟩
  rw [dif_pos o.success_complete, dif_pos o.reason_required]
  exact bind_eq_ok.mpr ⟨_, timestampField_micros _ o.observedAt, rfl⟩

/-! ### Placement decisions -/

/-- The converted value of the runtime of a decision. -/
def runtimeValue : Option RuntimeInstanceId → Value
  | none => .json .null
  | some i => .opaqueId .runtimeInstance i

theorem decisionRuntime_value {decision : PlacementDecisionKind} {r : Option RuntimeInstanceId}
    (h : decision = .placed ↔ r.isSome) : decisionRuntime decision (runtimeValue r) = .ok r := by
  cases decision with
  | placed =>
    obtain ⟨i, rfl⟩ := Option.isSome_iff_exists.mp (h.mp rfl)
    simp only [decisionRuntime, runtimeValue, requireId_self]
    rfl
  | rejected =>
    cases r with
    | none => rfl
    | some i => cases h.mpr rfl

section Decision

variable [CharacterTables]

def PlacementDecision.entries (d : PlacementDecision) : List Entry :=
  [("placement_id", .str d.placementId.value, .opaqueId .placement d.placementId),
    ("request_id", .str d.requestId.value, .opaqueId .placementRequest d.requestId),
    ("decision", .str d.decision.value, .decision d.decision),
    ("runtime_instance_id", jsonOption (fun i => .str i.value) d.runtimeInstanceId,
      runtimeValue d.runtimeInstanceId),
    ("policy_version", .str d.policyVersion.value, .json (.str d.policyVersion.value)),
    ("compatibility_facts", d.compatibilityFacts.json, .tuple d.compatibilityFacts.jsonItems),
    ("limitation_codes", d.limitationCodes.json, .tuple d.limitationCodes.jsonItems),
    ("decided_at", .str d.decidedAt.isoformatZ, .datetime ⟨d.decidedAt.micros, some 0⟩),
    ("digest", .str d.digest, .json (.str d.digest))]

/-- The constructor on the values a decision is made of. -/
theorem PlacementDecision.construct_eq (d : PlacementDecision) {v : String → Value}
    (h₁ : v "placement_id" = .opaqueId .placement d.placementId)
    (h₂ : v "request_id" = .opaqueId .placementRequest d.requestId)
    (h₃ : v "decision" = .decision d.decision)
    (h₄ : v "runtime_instance_id" = runtimeValue d.runtimeInstanceId)
    (h₅ : v "policy_version" = .json (.str d.policyVersion.value))
    (h₆ : v "compatibility_facts" = .tuple d.compatibilityFacts.jsonItems)
    (h₇ : v "limitation_codes" = .tuple d.limitationCodes.jsonItems)
    (h₈ : v "decided_at" = .datetime ⟨d.decidedAt.micros, some 0⟩)
    (h₉ : v "digest" = .json (.str d.digest)) : construct v = .ok d := by
  have hruntime := decisionRuntime_value d.placed_runtime
  have hdigest : decisionDigestField (.json (.str d.digest)) = .ok ⟨d.digest, d.digest_accepted⟩ := by
    rw [decisionDigestField, dif_pos d.digest_accepted]
  unfold construct
  rw [h₁, h₂, h₃, h₅, h₆, h₇, h₈, h₉]
  refine bind_eq_ok.mpr ⟨_, requireId_self .placement _ d.placementId, ?_⟩
  refine bind_eq_ok.mpr ⟨_, requireId_self .placementRequest _ d.requestId, ?_⟩
  refine bind_eq_ok.mpr ⟨d.decision, rfl, ?_⟩
  split
  · next e he =>
    rw [h₄, hruntime] at he
    cases he
  · next r hr =>
    rw [h₄, hruntime] at hr
    cases hr
    refine bind_eq_ok.mpr ⟨_, textField_value _ d.policyVersion, ?_⟩
    refine bind_eq_ok.mpr ⟨_, codesField_items _ d.compatibilityFacts, ?_⟩
    refine bind_eq_ok.mpr ⟨_, codesField_items _ d.limitationCodes, ?_⟩
    refine bind_eq_ok.mpr ⟨_, timestampField_micros _ d.decidedAt, ?_⟩
    exact bind_eq_ok.mpr ⟨_, hdigest, rfl⟩

/-- Without the check of the digest every decision is read back. -/
theorem PlacementDecision.fromMappingWith_payload (d : PlacementDecision) :
    fromMappingWith NativeDispatchCommand.fromMapping fieldNames construct d.payload.sortKeys
      = .ok d := by
  have hdecision : Converts NativeDispatchCommand.fromMapping "decision"
      (Json.str d.decision.value).sortKeys (.decision d.decision) := by
    apply Converts.of_lookup rfl
    cases d.decision <;> rfl
  have hruntime : Converts NativeDispatchCommand.fromMapping "runtime_instance_id"
      (jsonOption (fun i : RuntimeInstanceId => .str i.value) d.runtimeInstanceId).sortKeys
      (runtimeValue d.runtimeInstanceId) := by
    rcases d.runtimeInstanceId with _ | i
    · exact Converts.of_lookup rfl rfl
    · exact .runtimeInstanceId rfl i
  have h : AllConvert NativeDispatchCommand.fromMapping d.entries :=
    ⟨.opaqueId rfl _, .opaqueId rfl _, hdecision, hruntime, .json rfl _, .codes rfl _,
      .codes rfl _, .datetime rfl _, .json rfl _, trivial⟩
  have hnames : d.entries.map (·.1) = fieldNames := rfl
  have hp : d.payload = .obj (d.entries.map fun e => (e.1, e.2.1)) := rfl
  rw [hp, AgentPlatform.fromMappingWith_payload hnames (by decide) h]
  exact d.construct_eq rfl rfl rfl rfl rfl rfl rfl rfl rfl

theorem PlacementDecision.fromMapping_payload (d : PlacementDecision) :
    fromMapping d.payload.sortKeys = .ok d ↔ d.verifyDigest = .ok () := by
  rw [fromMapping, d.fromMappingWith_payload]
  show (d.verifyDigest >>= fun _ => .ok d) = _ ↔ _
  rw [bind_eq_ok]
  constructor
  · rintro ⟨⟨⟩, h, -⟩
    exact h
  · intro h
    exact ⟨(), h, rfl⟩

end Decision

/-! ### Digests of created decisions -/

omit [Unicodedata] in
theorem isHexNumber_hexDigits {cs : List Char} (h : ∀ c ∈ cs, isHexDigit c = true) (again : Bool)
    (hne : cs ≠ [] ∨ again = false) : isHexNumber again cs = true := by
  have key : ∀ c ∈ ['0', '1', '2', '3', '4', '5', '6', '7', '8', '9', 'a', 'b', 'c', 'd', 'e', 'f'],
      c ≠ '_' ∧ (c.isDigit || 'a' ≤ c && c ≤ 'f' || 'A' ≤ c && c ≤ 'F') = true := by decide
  induction cs generalizing again with
  | nil =>
    rw [hne.resolve_left (fun hn => hn rfl)]
    rfl
  | cons c cs ih =>
    have hc : c ∈ ['0', '1', '2', '3', '4', '5', '6', '7', '8', '9', 'a', 'b', 'c', 'd', 'e', 'f'] := by
      simpa [isHexDigit] using h c List.mem_cons_self
    rw [isHexNumber, if_neg (key c hc).1, (key c hc).2]
    exact ih (fun d hd => h d (List.mem_cons_of_mem _ hd)) false (.inr rfl)

omit [Unicodedata] in
/-- A list without blanks at its ends is not trimmed. -/
theorem trim_eq_self {p : Char → Bool} {cs : List Char} (h : ∀ c ∈ cs, p c = false) :
    ((cs.dropWhile p).reverse.dropWhile p).reverse = cs := by
  have hdrop : ∀ {ds : List Char}, (∀ d ∈ ds, p d = false) → ds.dropWhile p = ds := by
    intro ds hds
    cases ds with
    | nil => rfl
    | cons d ds => rw [List.dropWhile_cons_of_neg (by simp [hds d List.mem_cons_self])]
  rw [hdrop h, hdrop (fun d hd => h d (List.mem_reverse.mp hd)), List.reverse_reverse]

section Created

variable [CharacterTables]

omit [Unicodedata] in
/-- Every SHA-256 digest is accepted as a decision digest. -/
theorem isDecisionDigest_sha256 (text : String) : isDecisionDigest (sha256 text) = true := by
  have key : ∀ c ∈ ['0', '1', '2', '3', '4', '5', '6', '7', '8', '9', 'a', 'b', 'c', 'd', 'e', 'f'],
      c.toNat < 127 ∧ (c = ' ' || 9 ≤ c.toNat && c.toNat ≤ 13) = false ∧ c ≠ '+' ∧ c ≠ '-' ∧
        c ≠ 'x' ∧ c ≠ 'X' ∧ c.toLower = c := by decide
  have hchars : ∀ c ∈ (sha256 text).toList, c.toNat < 127 ∧
      (c = ' ' || 9 ≤ c.toNat && c.toNat ≤ 13) = false ∧ c ≠ '+' ∧ c ≠ '-' ∧ c ≠ 'x' ∧ c ≠ 'X' ∧
        c.toLower = c := by
    intro c hc
    exact key c (by simpa [isHexDigit] using isHexDigit_of_mem_hexdigest hc)
  have hhex : ∀ c ∈ (sha256 text).toList, isHexDigit c = true :=
    fun c hc => isHexDigit_of_mem_hexdigest hc
  have hlen := hexdigest_length text
  rw [← String.length_toList] at hlen
  have hint : isInt16 (sha256 text) = true := by
    have hplain : ((sha256 text).toList.map fun c =>
        if c.toNat < 127 then c
        else if isSpace c then ' '
        else ((CharacterTables.decimal c).map Nat.digitChar).getD '?') = (sha256 text).toList := by
      conv_rhs => rw [← List.map_id (sha256 text).toList]
      exact List.map_congr_left fun c hc => if_pos (hchars c hc).1
    unfold isInt16
    rw [hplain]
    simp only
    rw [trim_eq_self fun c hc => (hchars c hc).2.1]
    rcases hcs : (sha256 text).toList with _ | ⟨a, _ | ⟨b, cs⟩⟩
    · rw [hcs] at hlen
      cases hlen
    · rw [hcs] at hlen
      cases hlen
    · rw [hcs] at hchars hhex
      have ha := hchars a List.mem_cons_self
      have hb := hchars b (List.mem_cons_of_mem _ List.mem_cons_self)
      have hsign : ¬((a :: b :: cs).head? = some '+' ∨ (a :: b :: cs).head? = some '-') := by
        simp [ha.2.2.1, ha.2.2.2.1]
      have hx : ¬((a :: b :: cs).take 2 = ['0', 'x'] ∨ (a :: b :: cs).take 2 = ['0', 'X']) := by
        simp [hb.2.2.2.2.1, hb.2.2.2.2.2.1]
      rw [if_neg hsign, if_neg hx]
      exact isHexNumber_hexDigits hhex true (.inl (List.cons_ne_nil _ _))
  have hlower : CharacterTables.lower (sha256 text) = sha256 text := by
    rw [CharacterTables.lower_ascii _ fun c hc => Nat.lt_trans (hchars c hc).1 (by decide),
      List.map_congr_left (g := id) fun c hc => (hchars c hc).2.2.2.2.2.2, List.map_id,
      String.ofList_toList]
  rw [isDecisionDigest, hint, hlower, hexdigest_length]
  simp

/-- A decision is constructed only with a runtime that suits it. -/
theorem PlacementDecision.construct_runtime {v : String → Value} {d : PlacementDecision}
    {k : PlacementDecisionKind} (hk : v "decision" = .decision k) (h : construct v = .ok d) :
    ∃ r, decisionRuntime k (v "runtime_instance_id") = .ok r := by
  unfold construct at h
  rw [hk] at h
  obtain ⟨_, _, h⟩ := bind_eq_ok.mp h
  obtain ⟨_, _, h⟩ := bind_eq_ok.mp h
  obtain ⟨k', hk', h⟩ := bind_eq_ok.mp h
  cases hk'
  split at h
  · cases h
  · next r hr => exact ⟨r, hr⟩

omit [CharacterTables] in
theorem placed_of_decisionRuntime {k : PlacementDecisionKind} {i r : Option RuntimeInstanceId}
    (h : decisionRuntime k (runtimeValue i) = .ok r) : k = .placed ↔ i.isSome := by
  rcases k with _ | _ <;> rcases i with _ | i
  · cases h
  · simp
  · simp
  · cases h

/-- **A created decision carries the digest of its fields.** -/
theorem PlacementDecision.create_verifies {placementId requestId : OpaqueId}
    {decision : PlacementDecisionKind} {runtimeInstanceId : Option RuntimeInstanceId}
    {policyVersion : String} {compatibilityFacts limitationCodes : List String}
    {decidedAt : LocalDatetime} {d : PlacementDecision}
    (h : create placementId requestId decision runtimeInstanceId policyVersion compatibilityFacts
      limitationCodes decidedAt = .ok d) : d.verifyDigest = .ok () := by
  unfold create at h
  obtain ⟨policy, -, h⟩ := bind_eq_ok.mp h
  obtain ⟨facts, -, h⟩ := bind_eq_ok.mp h
  obtain ⟨codes, -, h⟩ := bind_eq_ok.mp h
  obtain ⟨at', -, h⟩ := bind_eq_ok.mp h
  obtain ⟨r, hr⟩ := construct_runtime rfl h
  have hplaced : decision = .placed ↔ runtimeInstanceId.isSome := placed_of_decisionRuntime hr
  obtain rfl : d = ⟨placementId, requestId, decision, runtimeInstanceId, policy, facts, codes, at',
      canonicalDigest (.obj (decisionFields placementId requestId decision runtimeInstanceId policy
        facts codes at')), hplaced, isDecisionDigest_sha256 _⟩ :=
    Except.ok.inj (h.symm.trans (construct_eq _ rfl rfl rfl rfl rfl rfl rfl rfl rfl))
  exact if_neg (not_not.mpr rfl)

end Created

/-! ### The round trip -/

/-- A record type of the contract with its canonical value and its decoder. -/
class Contract (α : Type) where
  payload : α → Json
  fromMapping : Json → Except Failure α

instance : Contract PlacementRequest := ⟨PlacementRequest.payload, PlacementRequest.fromMapping⟩
instance : Contract RuntimeDesiredState :=
  ⟨RuntimeDesiredState.payload, RuntimeDesiredState.fromMapping⟩
instance : Contract RuntimeObservation :=
  ⟨RuntimeObservation.payload, RuntimeObservation.fromMapping⟩
instance : Contract NativeDispatchCommand :=
  ⟨NativeDispatchCommand.payload, NativeDispatchCommand.fromMapping⟩
instance : Contract NativeDispatchClaim :=
  ⟨NativeDispatchClaim.payload, NativeDispatchClaim.fromMapping⟩
instance : Contract NativeTerminalObservation :=
  ⟨NativeTerminalObservation.payload, NativeTerminalObservation.fromMapping⟩
instance [CharacterTables] : Contract PlacementDecision :=
  ⟨PlacementDecision.payload, PlacementDecision.fromMapping⟩

section Contract

variable {α : Type} [Contract α]

/-- `from_mapping(json.loads(text)["payload"])`; `none` is a text without payload. -/
def decodeText (α : Type) [Contract α] (text : String) : Option (Except Failure α) :=
  ((Json.loads text).bind (Json.get? "payload")).map Contract.fromMapping

/-- The value is read back from its canonical bytes. -/
def RoundTrips (x : α) : Prop :=
  decodeText α (canonicalBytes (Contract.payload x)) = some (.ok x)

/-- Different values have different canonical bytes. -/
def BytesInjective (α : Type) [Contract α] : Prop :=
  Function.Injective fun x : α => canonicalBytes (Contract.payload x)

omit [Unicodedata] in
theorem decodeText_canonicalBytes {p : Json} (h : p.distinctKeys = true) :
    decodeText α (canonicalBytes p) = some (Contract.fromMapping p.sortKeys) := by
  have hn : (["contract_version", "payload"] : List String).Nodup := by decide
  have hkeys : (Json.obj [("contract_version", .str "v0.2.3-a0"), ("payload", p)]).distinctKeys
      = true := by
    rw [Json.distinctKeys_obj]
    refine ⟨hn, ?_⟩
    simp [Json.distinctKeys, h]
  have hpayload : (Json.obj [("contract_version", .str "v0.2.3-a0"), ("payload", p)]).sortKeys.get?
      "payload" = some p.sortKeys := by
    refine get?_sortKeys ?_ ?_
    · exact hn
    · exact List.mem_cons_of_mem _ List.mem_cons_self
  rw [decodeText, canonicalBytes, Json.loads_dumps hkeys, Option.bind_some, hpayload]
  rfl

omit [Unicodedata] in
/-- Canonical bytes tell values apart that some decoder reads back. -/
theorem bytesInjective_of {decode : Json → Except Failure α}
    (h : ∀ x : α, decode (Contract.payload x).sortKeys = .ok x) : BytesInjective α := by
  intro x y hxy
  have hs := canonicalBytes_injective hxy
  have := h x
  rw [hs, h y] at this
  exact (Except.ok.inj this).symm

end Contract

/-! ### Payloads have distinct keys -/

theorem ScopeIdentity.distinctKeys_json (s : ScopeIdentity) : s.json.distinctKeys = true := rfl

theorem Codes.distinctKeys_json (c : Codes) : c.json.distinctKeys = true := by
  have h : ∀ items : List Reference,
      Json.distinctItems (items.map fun r => .str r.value) = true := by
    intro items
    induction items with
    | nil => rfl
    | cons r items ih =>
      rw [List.map_cons, Json.distinctItems, ih]
      rfl
  exact h c.items

omit [Unicodedata] in
theorem distinctKeys_jsonOption {β : Type*} {f : β → Json} (h : ∀ b, (f b).distinctKeys = true)
    (b : Option β) : (jsonOption f b).distinctKeys = true := by
  cases b with
  | none => rfl
  | some b => exact h b

omit [Unicodedata] in
theorem distinctKeys_optStr (t : Option String) : (Json.optStr t).distinctKeys = true := by
  cases t <;> rfl

theorem PlacementRequest.distinctKeys_payload (r : PlacementRequest) :
    r.payload.distinctKeys = true := by
  rw [payload, Json.distinctKeys_obj]
  refine ⟨show fieldNames.Nodup by decide, ?_⟩
  simp [Json.distinctKeys, ScopeIdentity.distinctKeys_json, Codes.distinctKeys_json]

theorem RuntimeDesiredState.distinctKeys_payload (s : RuntimeDesiredState) :
    s.payload.distinctKeys = true := by
  rw [payload, Json.distinctKeys_obj]
  refine ⟨show fieldNames.Nodup by decide, ?_⟩
  simp [Json.distinctKeys]

theorem RuntimeObservation.distinctKeys_payload (o : RuntimeObservation) :
    o.payload.distinctKeys = true := by
  have hcorrelation : ∀ c : ExternalCorrelation, c.json.distinctKeys = true := fun _ => rfl
  rw [payload, Json.distinctKeys_obj]
  refine ⟨show fieldNames.Nodup by decide, ?_⟩
  simp [Json.distinctKeys, Codes.distinctKeys_json, distinctKeys_jsonOption hcorrelation]

theorem NativeDispatchCommand.distinctKeys_payload (c : NativeDispatchCommand) :
    c.payload.distinctKeys = true := by
  rw [payload, Json.distinctKeys_obj]
  refine ⟨show fieldNames.Nodup by decide, ?_⟩
  simp [Json.distinctKeys, Json.distinctFields]

theorem NativeDispatchClaim.distinctKeys_payload (c : NativeDispatchClaim) :
    c.payload.distinctKeys = true := by
  rw [payload, Json.distinctKeys_obj]
  refine ⟨show fieldNames.Nodup by decide, ?_⟩
  simp [Json.distinctKeys, NativeDispatchCommand.distinctKeys_payload]

theorem NativeTerminalObservation.distinctKeys_payload (o : NativeTerminalObservation) :
    o.payload.distinctKeys = true := by
  rw [payload, fields, Json.distinctKeys_obj]
  refine ⟨show fieldNames.Nodup by decide, ?_⟩
  simp [Json.distinctKeys, distinctKeys_optStr]

theorem PlacementDecision.distinctKeys_payload [CharacterTables] (d : PlacementDecision) :
    d.payload.distinctKeys = true := by
  have hruntime : ∀ i : RuntimeInstanceId, (Json.str i.value).distinctKeys = true := fun _ => rfl
  rw [payload, decisionFields, Json.distinctKeys_obj]
  refine ⟨show fieldNames.Nodup by decide, ?_⟩
  simp [Json.distinctKeys, Codes.distinctKeys_json, distinctKeys_jsonOption hruntime]

/-! ### The contract -/

theorem PlacementDecision.roundTrips_iff [CharacterTables] (d : PlacementDecision) :
    RoundTrips d ↔ d.verifyDigest = .ok () := by
  have h : decodeText PlacementDecision (canonicalBytes d.payload) = some _ :=
    decodeText_canonicalBytes d.distinctKeys_payload
  rw [RoundTrips, show Contract.payload d = d.payload from rfl, h, Option.some.injEq,
    ← d.fromMapping_payload]
  rfl

theorem PlacementRequest.bytesInjective : BytesInjective PlacementRequest :=
  bytesInjective_of PlacementRequest.fromMapping_payload

/-- A replay is accepted exactly for an equal request. -/
theorem assertRequestReplay_iff {stored candidate : PlacementRequest} :
    assertRequestReplay stored candidate = .ok () ↔ stored = candidate := by
  rw [assertRequestReplay, ite_error_eq_ok', ite_error_eq_ok', not_not, not_not]
  constructor
  · rintro ⟨-, hbytes, -⟩
    exact PlacementRequest.bytesInjective hbytes
  · rintro rfl
    exact ⟨rfl, rfl, rfl⟩

/-- **Round trip of the contract.** Every record is read back from its canonical
bytes, a placement decision exactly when its digest verifies; canonical bytes are
injective on each record type, so a replay is accepted exactly for an equal
request; and a created decision verifies and is read back. -/
theorem contract_round_trip [CharacterTables] :
    ((∀ x : PlacementRequest, RoundTrips x) ∧ (∀ x : RuntimeDesiredState, RoundTrips x) ∧
      (∀ x : RuntimeObservation, RoundTrips x) ∧ (∀ x : NativeDispatchCommand, RoundTrips x) ∧
      (∀ x : NativeDispatchClaim, RoundTrips x) ∧ (∀ x : NativeTerminalObservation, RoundTrips x) ∧
      ∀ x : PlacementDecision, RoundTrips x ↔ x.verifyDigest = .ok ()) ∧
    (BytesInjective PlacementRequest ∧ BytesInjective RuntimeDesiredState ∧
      BytesInjective RuntimeObservation ∧ BytesInjective NativeDispatchCommand ∧
      BytesInjective NativeDispatchClaim ∧ BytesInjective NativeTerminalObservation ∧
      BytesInjective PlacementDecision) ∧
    (∀ stored candidate, assertRequestReplay stored candidate = .ok () ↔ stored = candidate) ∧
    ∀ placementId requestId decision runtimeInstanceId policyVersion compatibilityFacts
      limitationCodes decidedAt d,
      PlacementDecision.create placementId requestId decision runtimeInstanceId policyVersion
        compatibilityFacts limitationCodes decidedAt = .ok d →
      d.verifyDigest = .ok () ∧ RoundTrips d := by
  have trip : ∀ {α : Type} [Contract α] {x : α}, (Contract.payload x).distinctKeys = true →
      Contract.fromMapping (Contract.payload x).sortKeys = .ok x → RoundTrips x := by
    intro α _ x hkeys h
    rw [RoundTrips, decodeText_canonicalBytes hkeys, h]
  refine ⟨⟨?_, ?_, ?_, ?_, ?_, ?_, ?_⟩, ⟨?_, ?_, ?_, ?_, ?_, ?_, ?_⟩, ?_, ?_⟩
  · exact fun x => trip x.distinctKeys_payload x.fromMapping_payload
  · exact fun x => trip x.distinctKeys_payload x.fromMapping_payload
  · exact fun x => trip x.distinctKeys_payload x.fromMapping_payload
  · exact fun x => trip x.distinctKeys_payload x.fromMapping_payload
  · exact fun x => trip x.distinctKeys_payload x.fromMapping_payload
  · exact fun x => trip x.distinctKeys_payload x.fromMapping_payload
  · exact PlacementDecision.roundTrips_iff
  · exact PlacementRequest.bytesInjective
  · exact bytesInjective_of RuntimeDesiredState.fromMapping_payload
  · exact bytesInjective_of RuntimeObservation.fromMapping_payload
  · exact bytesInjective_of NativeDispatchCommand.fromMapping_payload
  · exact bytesInjective_of NativeDispatchClaim.fromMapping_payload
  · exact bytesInjective_of NativeTerminalObservation.fromMapping_payload
  · -- the digest is a field, so the decoder without its check tells decisions apart
    exact bytesInjective_of PlacementDecision.fromMappingWith_payload
  · exact fun _ _ => assertRequestReplay_iff
  · intro _ _ _ _ _ _ _ _ d h
    have hv := PlacementDecision.create_verifies h
    exact ⟨hv, d.roundTrips_iff.mpr hv⟩

end RoundTrip

/-! ### A decision with a foreign digest -/

namespace Sample

scoped instance : CharacterTables := CharacterTables.ascii

/-- A rejection with sixty-four times the same digit as its digest. -/
def rejection (digit : Char)
    (h : isDecisionDigest (String.ofList (List.replicate 64 digit)) = true) :
    PlacementDecision where
  placementId := text "placement-1"
  requestId := text "request-1"
  decision := .rejected
  runtimeInstanceId := none
  policyVersion := text "policy-1"
  compatibilityFacts := ⟨[], by decide, by simp⟩
  limitationCodes := ⟨[], by decide, by simp⟩
  decidedAt := instant 1000000
  digest := String.ofList (List.replicate 64 digit)
  placed_runtime := by decide
  digest_accepted := h

/-- The payload that is hashed does not mention the digest. -/
theorem rejection_canonicalPayload (digit : Char)
    (h : isDecisionDigest (String.ofList (List.replicate 64 digit)) = true) :
    (rejection digit h).canonicalPayload
      = .obj (decisionFields (text "placement-1") (text "request-1") .rejected none (text "policy-1")
          ⟨[], by decide, by simp⟩ ⟨[], by decide, by simp⟩ (instant 1000000)) := rfl

def zeros : PlacementDecision := rejection '0' (by decide +kernel)

def ones : PlacementDecision := rejection '1' (by decide +kernel)

end Sample

open Sample in
/-- Two decisions that differ in their digests only are both accepted by the
constructor, and at most one of them can be read back. -/
theorem unverified_decision : ¬∀ x : PlacementDecision, RoundTrips x := by
  intro h
  have verified : ∀ x : PlacementDecision, x.digest = canonicalDigest x.canonicalPayload := by
    intro x
    have hv := x.roundTrips_iff.mp (h x)
    by_contra hne
    rw [PlacementDecision.verifyDigest, if_pos hne] at hv
    cases hv
  have h₀ := verified zeros
  have h₁ := verified ones
  have hsame : zeros.canonicalPayload = ones.canonicalPayload :=
    (rejection_canonicalPayload _ _).trans (rejection_canonicalPayload _ _).symm
  have hdigests : zeros.digest = ones.digest :=
    h₀.trans ((congrArg canonicalDigest hsame).trans h₁.symm)
  have hlists : List.replicate 64 '0' = List.replicate 64 '1' := String.ofList_injective hdigests
  exact absurd (List.cons.inj hlists).1 (by decide)

end AgentPlatform
