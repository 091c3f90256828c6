/-
AgentPlatform/Dispatch/Queue.lean

`NativeDispatchApplication.queue`: a request is turned into a command, the
command is enqueued and read back.

The command id is a digest of the request's idempotency key, so that the same
request finds the command it made before. Whether it is then replayed depends
on two things the id does not cover: `enqueue` first requires the binding of a
command that is still to be executed, with its attempt `PENDING`, and compares
a digest that includes `queued_at`, which `queue` fills in from the clock when
the request leaves it open. `queue_again_iff` is the exact condition.
-/
import AgentPlatform.Dispatch.Endings
import AgentPlatform.Dispatch.Fencing

namespace AgentPlatform

open Py

/-! ### Requests -/

/-- The checks `ExactGrant` makes on each of its texts. -/
def grantTarget (maximum : Nat) (value : String) : Bool :=
  value ≠ "" && strip value = value && value.length ≤ maximum &&
    value.toList.all fun c => 32 ≤ c.toNat && !"*?[]\x7b\x7d()\\".toList.contains c

structure ExactGrant where
  owner : String
  action : String
  exactResource : String
  valid : (grantTarget 64 owner && grantTarget 64 action && grantTarget 512 exactResource &&
    exactResource.toList.getLast? ≠ some ':') = true
  deriving DecidableEq

/-- The part of `TrustedRequestContext` that `queue` reads. -/
structure TrustedRequestContext where
  principalId : String
  tenantId : String
  securityDomain : String
  sessionIdOrServiceCredentialId : String
  authenticationSource : AuthenticationSource
  deriving DecidableEq

section Queue

variable [Unicodedata]

structure QueueNativeDispatch where
  scope : ScopeIdentity
  attemptId : AttemptId
  placementId : PlacementId
  approvedPlanDigest : String
  runtimeGeneration : Generation
  agentInstanceId : AgentInstanceId
  context : TrustedRequestContext
  exactGrant : ExactGrant
  authorityGeneration : Generation
  recoveryEpoch : Generation
  agentName : String
  inputText : String
  timeoutSeconds : Int
  idempotencyKey : String
  queuedAt : Option Datetime
  deriving DecidableEq

/-! ### Building the command -/

/-- A field that must be a SHA-256 digest. -/
def dispatchDigest (value : String) : Except Failure Digest :=
  if h : isHex64 value = true then .ok ⟨value, h⟩
  else .error (.executionContract "INVALID_DISPATCH_DIGEST")

def dispatchTimeout (value : Int) : Except Failure { n : Nat // 1 ≤ n ∧ n ≤ 3600 } :=
  if h : 1 ≤ value ∧ value ≤ 3600 then
    .ok ⟨value.toNat, by omega, by omega⟩
  else .error (.executionContract "INVALID_DISPATCH_TIMEOUT")

def commandIdOf (request : QueueNativeDispatch) : Except Failure CommandId :=
  if request.idempotencyKey = "" ∨ 200 < request.idempotencyKey.length then
    .error (.nativeDispatchApplication "NATIVE_DISPATCH_IDEMPOTENCY_INVALID")
  else
    opaqueId ("native-dispatch:" ++ sha256 ("\x00".intercalate
      [request.scope.namespaceName.value, request.scope.securityDomain.value,
        request.attemptId.value, request.placementId.value, request.context.principalId,
        request.idempotencyKey]))

/-- `NativeDispatchCommand(...)` as `queue` calls it, with its checks in the
order of `__post_init__`. `runtime` is the placement's runtime instance. -/
def commandOf (request : QueueNativeDispatch) (identity : ExecutionIdentity)
    (placementDigest runtime : String) (queuedAt : Datetime) :
    Except Failure NativeDispatchCommand := do
  let commandId ← commandIdOf request
  let runtimeInstanceId ← opaqueId runtime
  let field := reference "INVALID_DISPATCH_IDENTITY"
  let principalId ← field request.context.principalId
  let credentialId ← field request.context.sessionIdOrServiceCredentialId
  let authorizationOwner ← field request.exactGrant.owner
  let authorizationAction ← field request.exactGrant.action
  let authorizationResource ← field request.exactGrant.exactResource
  let agentName ← field request.agentName
  let approvedPlanDigest ← dispatchDigest request.approvedPlanDigest
  let placementDigest ← dispatchDigest placementDigest
  let inputText ← normalizedText maxContentBytes "INVALID_DISPATCH_INPUT" request.inputText
  let timeoutSeconds ← dispatchTimeout request.timeoutSeconds
  .ok {
    commandId
    scope := request.scope
    attemptId := request.attemptId
    assignmentId := identity.assignmentId
    approvedPlanRevisionId := identity.approvedPlanRevisionId
    approvedPlanDigest
    placementId := request.placementId
    placementDigest, runtimeInstanceId
    runtimeGeneration := request.runtimeGeneration
    agentInstanceId := request.agentInstanceId
    principalId, credentialId
    authenticationSource := request.context.authenticationSource
    authorityGeneration := request.authorityGeneration
    recoveryEpoch := request.recoveryEpoch
    authorizationOwner, authorizationAction, authorizationResource, agentName, inputText,
    timeoutSeconds, queuedAt }

/-- `get(scope, placement_id)`; the canonical record repeats the columns. -/
def getPlacement (k : RowKey) (s : Store) : Except Failure (Option PlacementDecisionRow) :=
  if !nulFree k.texts then .error .database else .ok (s.bindings.placementDecisions k)

/-- The command a request stands for in a store. -/
def requested (request : QueueNativeDispatch) (now : Datetime) (s : Store) :
    Except Failure NativeDispatchCommand :=
  let notFound : Failure := .nativeDispatchApplication "NATIVE_DISPATCH_NOT_FOUND"
  if request.context.tenantId ≠ request.scope.namespaceName.value ∨
      request.context.securityDomain ≠ request.scope.securityDomain.value ∨
      request.context.principalId = "" ∨
      request.context.sessionIdOrServiceCredentialId = "" then .error notFound
  else do
    let attempt ← getAttempt (request.scope.key request.attemptId.value) s
    let placement ← getPlacement (request.scope.key request.placementId.value) s
    match attempt, placement with
    | some a, some d =>
      match d.decision, d.runtimeInstanceId with
      | .placed, some runtime =>
        if a.record.attemptId.value ≠ request.attemptId.value then .error notFound
        else commandOf request a.record d.digest runtime (request.queuedAt.getD now)
      | _, _ => .error notFound
    | _, _ => .error notFound

/-- `queue(request)` at the time `now`: what it returns and the store it leaves.
The command is committed before it is read back. -/
def queue (request : QueueNativeDispatch) (now : Datetime) (s : Store) :
    Except Failure (AppendDisposition × NativeDispatchCommand) × Store :=
  match requested request now s with
  | .error e => (.error e, s)
  | .ok command =>
    match transaction (enqueue command) s with
    | (.error e, s') => (.error e, s')
    | (.ok disposition, s') =>
      match getDispatch request.scope command.commandId s' with
      | .error e => (.error e, s')
      | .ok exact =>
        if exact ≠ some command then
          (.error (.nativeDispatchApplication "NATIVE_DISPATCH_READBACK_CONFLICT"), s')
        else (.ok (disposition, command), s')

/-! ### What a returned command says -/

variable {request : QueueNativeDispatch} {now : Datetime} {s s' : Store}
  {c : NativeDispatchCommand}

/-- The fields of a command that come from elsewhere than the request. -/
theorem commandOf_fields {identity : ExecutionIdentity} {digest runtime : String} {at' : Datetime}
    (h : commandOf request identity digest runtime at' = .ok c) :
    c.scope = request.scope ∧ c.attemptId = request.attemptId ∧
      c.placementId = request.placementId ∧ c.assignmentId = identity.assignmentId ∧
      c.approvedPlanRevisionId = identity.approvedPlanRevisionId ∧ c.placementDigest.1 = digest ∧
      c.runtimeInstanceId.value = normalize runtime ∧ c.queuedAt = at' := by
  unfold commandOf at h
  simp only [bind_eq_ok] at h
  obtain ⟨_, -, rid, hrid, _, -, _, -, _, -, _, -, _, -, _, -, _, -, pd, hpd, _, -, _, -, h⟩ := h
  cases h
  refine ⟨rfl, rfl, rfl, rfl, rfl, ?_, normalizedText_eq_ok hrid, rfl⟩
  unfold dispatchDigest at hpd
  split at hpd
  · cases hpd
    rfl
  · cases hpd

/-- What `queue` reads before it builds the command. -/
structure Reads (request : QueueNativeDispatch) (s : Store) (a : AttemptRow)
    (d : PlacementDecisionRow) (runtime : String) : Prop where
  trusted : request.context.tenantId = request.scope.namespaceName.value ∧
    request.context.securityDomain = request.scope.securityDomain.value ∧
    request.context.principalId ≠ "" ∧ request.context.sessionIdOrServiceCredentialId ≠ ""
  storable : nulFree (request.scope.key request.attemptId.value).texts = true ∧
    nulFree (request.scope.key request.placementId.value).texts = true
  attempt : s.attempts (request.scope.key request.attemptId.value) = some a
  placement : s.bindings.placementDecisions (request.scope.key request.placementId.value) = some d
  placed : d.decision = .placed
  runtime : d.runtimeInstanceId = some runtime
  own : a.record.attemptId.value = request.attemptId.value

theorem requested_eq_ok :
    requested request now s = .ok c ↔ ∃ a d runtime, Reads request s a d runtime ∧
      commandOf request a.record d.digest runtime (request.queuedAt.getD now) = .ok c := by
  unfold requested
  constructor
  · intro h
    simp only at h
    rw [ite_error_eq_ok'] at h
    obtain ⟨htrust, h⟩ := h
    push Not at htrust
    obtain ⟨attempt, ha, h⟩ := bind_eq_ok.mp h
    rw [getAttempt, ite_error_eq_ok'] at ha
    obtain ⟨hna, ha⟩ := ha
    cases ha
    obtain ⟨placement, hd, h⟩ := bind_eq_ok.mp h
    rw [getPlacement, ite_error_eq_ok'] at hd
    obtain ⟨hnd, hd⟩ := hd
    cases hd
    split at h
    · next a d ea ed =>
      split at h
      · next runtime hp hr =>
        rw [ite_error_eq_ok'] at h
        obtain ⟨hown, h⟩ := h
        exact ⟨a, d, runtime, ⟨htrust, ⟨by simpa using hna, by simpa using hnd⟩, ea, ed, hp, hr,
          not_not.mp hown⟩, h⟩
      · cases h
    · cases h
  · rintro ⟨a, d, runtime, hr, h⟩
    obtain ⟨h₁, h₂, h₃, h₄⟩ := hr.trusted
    simp only [getAttempt, getPlacement, hr.storable, hr.attempt, hr.placement, h₁, h₂, h₃, h₄,
      bind, Except.bind]
    simpa [hr.placed, hr.runtime, hr.own] using h

/-- A request that returned: its command was enqueued and is stored. -/
theorem queue_ok {d : AppendDisposition} (h : queue request now s = (.ok (d, c), s')) :
    requested request now s = .ok c ∧ enqueue c s = .ok (d, s') ∧
      nulFree (request.scope.key c.commandId.value).texts = true ∧
      ∃ row, s'.commands.lookup (request.scope.key c.commandId.value) = some row ∧
        row.payload = c := by
  unfold queue at h
  split at h
  · cases h
  · next command hreq =>
    rcases transaction_cases (enqueue command) s with ⟨d', s'', hb, ht⟩ | ⟨e, -, ht⟩
    · rw [ht] at h
      simp only [getDispatch] at h
      split at h
      · cases h
      · next exact hg =>
        rw [ite_error_eq_ok'] at hg
        obtain ⟨hn, hg⟩ := hg
        cases hg
        split at h
        · cases h
        · next he =>
          cases h
          obtain ⟨row, hl, hp⟩ := Option.map_eq_some_iff.mp (not_not.mp he)
          exact ⟨hreq, hb, by simpa using hn, row, hl, hp⟩
    · rw [ht] at h
      cases h

/-- A request whose command could be inserted. -/
theorem queue_new (hreq : requested request now s = .ok c)
    (hb : s.placementBinding c = some c.expected) (hl : s.commands.lookup c.key = none)
    (hi : s.insertable c = true)
    (hf : s.factExists c.key .queued (factDigest (queuedRecord c)) = false) :
    queue request now s = (.ok (.appended, c),
      (s.setCommand c.key (.queued c)).addFact c.key .queued (queuedRecord c)) := by
  obtain ⟨a, d, runtime, hr, hc⟩ := requested_eq_ok.mp hreq
  have hkey : request.scope.key c.commandId.value = c.key := by
    rw [← (commandOf_fields hc).1]
    rfl
  have hn : nulFree c.texts = true := by
    simp only [Store.insertable, Bool.and_eq_true] at hi
    exact hi.1.1.1
  have hget : getDispatch request.scope c.commandId
      ((s.setCommand c.key (.queued c)).addFact c.key .queued (queuedRecord c))
        = .ok (some c) := by
    rw [getDispatch, hkey, c.nulFree_key hn, addFact_commands, setCommand_commands,
      AList.lookup_insert]
    rfl
  simp only [queue, hreq, transaction_ok (enqueue_new hb hl hi hf), hget, ne_eq,
    not_true_eq_false, if_false]

/-! ### The same request again -/

theorem placementBinding_decision (h : s.placementBinding c = some c.expected) :
    ∃ d, s.bindings.placementDecisions c.placementKey = some d ∧ d.decision = .placed ∧
      d.digest = c.placementDigest.1 ∧ d.runtimeInstanceId = some c.runtimeInstanceId.value := by
  unfold Store.placementBinding at h
  simp only [bind, Option.bind_eq_some_iff, Option.some.injEq] at h
  obtain ⟨d, hd, q, -, runtime, hr, g, -, a, -, ⟨w, p⟩, -, h⟩ := h
  simp only [NativeDispatchCommand.expected, BindingView.mk.injEq, Option.some.injEq] at h
  obtain ⟨h₁, h₂, h₃, -⟩ := h
  exact ⟨d, hd, h₁, h₂, by rw [hr, h₃]⟩

/-- A stored command that is still bound is replayed. -/
theorem enqueue_stored {row : CommandRow} (hcol : Columns s)
    (hl : s.commands.lookup c.key = some row) (hp : row.payload = c)
    (hb : s.placementBinding c = some c.expected) : enqueue c s = .ok (.replayed, s) := by
  have hr := hcol _ _ hl
  have hn : nulFree c.texts = true := hp ▸ hr.storable
  have hd : row.commandDigest = c.digest := by rw [hr.digest, hp]
  simp only [enqueue, c.nulFree_placementKey hn, c.nulFree_key hn, hb, hl, hd]
  simp

/-- The rows a command was made from still say the same: the binding is exact,
in particular the attempt is `PENDING`, and so is the identity of the attempt. -/
structure StillBound (s : Store) (c : NativeDispatchCommand) : Prop where
  binding : s.placementBinding c = some c.expected
  identity : ∃ a, s.attempts c.attemptKey = some a ∧ a.record.attemptId = c.attemptId ∧
    a.record.assignmentId = c.assignmentId ∧
    a.record.approvedPlanRevisionId = c.approvedPlanRevisionId

/-- A request repeated when its command is stored. -/
theorem queue_again_iff {row : CommandRow} {s₁ : Store} {now₁ now₂ : Datetime}
    (hreq : requested request now₁ s₁ = .ok c) (hbound : s₁.placementBinding c = some c.expected)
    (hcol : Columns s) (hl : s.commands.lookup c.key = some row) (hp : row.payload = c) :
    queue request now₂ s = (.ok (.replayed, c), s) ↔
      (request.queuedAt.isSome = true ∨ now₂ = c.queuedAt) ∧ StillBound s c := by
  obtain ⟨a₁, d₁, runtime₁, hr₁, hc₁⟩ := requested_eq_ok.mp hreq
  obtain ⟨hscope, hatt, hpl, hassign, hplan, hdig, hrun, hat⟩ := commandOf_fields hc₁
  have hakey : request.scope.key request.attemptId.value = c.attemptKey := by
    rw [← hscope, ← hatt]
    rfl
  have hpkey : request.scope.key request.placementId.value = c.placementKey := by
    rw [← hscope, ← hpl]
    rfl
  constructor
  · intro h
    obtain ⟨hreq₂, henq, -, -⟩ := queue_ok h
    obtain ⟨a₂, d₂, runtime₂, hr₂, hc₂⟩ := requested_eq_ok.mp hreq₂
    obtain ⟨-, -, -, hassign₂, hplan₂, -, -, hat₂⟩ := commandOf_fields hc₂
    refine ⟨?_, (enqueue_ok henq).1, a₂, hakey ▸ hr₂.attempt, ?_, hassign₂.symm, hplan₂.symm⟩
    · rcases e : request.queuedAt with _ | t
      · rw [e] at hat₂
        exact .inr hat₂.symm
      · exact .inl rfl
    · rw [hatt]
      exact NormalizedText.ext hr₂.own
  · rintro ⟨hclock, hb, a₂, ha₂, hown, hassign₂, hplan₂⟩
    obtain ⟨d₁', hd₁', -, -, hrt₁⟩ := placementBinding_decision hbound
    obtain ⟨d₂, hd₂, hplaced, hdig₂, hrt₂⟩ := placementBinding_decision hb
    -- both placements name the same runtime and digest
    have hplace := hr₁.placement
    rw [hpkey, hd₁'] at hplace
    cases hplace
    have hruntime := hr₁.runtime
    rw [hrt₁] at hruntime
    cases hruntime
    have hqueued : request.queuedAt.getD now₂ = request.queuedAt.getD now₁ := by
      rcases e : request.queuedAt with _ | t
      · rw [e] at hclock hat
        rcases hclock with hclock | hclock
        · cases hclock
        · rw [hclock, hat]
          rfl
      · rfl
    have hsame : requested request now₂ s = .ok c := by
      refine requested_eq_ok.mpr ⟨a₂, d₂, _, ⟨hr₁.trusted, hr₁.storable, hakey ▸ ha₂, hpkey ▸ hd₂,
        hplaced, hrt₂, ?_⟩, ?_⟩
      · rw [hown, hatt]
      · rw [hqueued, hdig₂, hdig, ← hc₁]
        simp only [commandOf, hassign₂, hassign, hplan₂, hplan]
    have hkey : request.scope.key c.commandId.value = c.key := by
      rw [← hscope]
      rfl
    have hn : nulFree c.texts = true := hp ▸ (hcol _ _ hl).storable
    have hget : getDispatch request.scope c.commandId s = .ok (some c) := by
      rw [getDispatch, hkey, c.nulFree_key hn, hl, ← hp]
      rfl
    simp only [queue, hsame, transaction_ok (enqueue_stored hcol hl hp hb), hget, ne_eq,
      not_true_eq_false, if_false]

/-- What a first submission leaves behind: the command, stored and bound. -/
theorem queue_first {d : AppendDisposition} (hcol : Columns s)
    (h : queue request now s = (.ok (d, c), s')) :
    requested request now s = .ok c ∧ s.placementBinding c = some c.expected ∧ Columns s' ∧
      ∃ row, s'.commands.lookup c.key = some row ∧ row.payload = c := by
  obtain ⟨hreq, henq, -, row, hl, hp⟩ := queue_ok h
  obtain ⟨a, pd, runtime, hr, hc⟩ := requested_eq_ok.mp hreq
  obtain ⟨hscope, -⟩ := commandOf_fields hc
  have hkey : request.scope.key c.commandId.value = c.key := by
    rw [← hscope]
    rfl
  exact ⟨hreq, (enqueue_ok henq).1, ((enqueue_change (T := Set.univ) henq).rowsChange).columns hcol,
    row, hkey ▸ hl, hp⟩

/-- **When resubmission is replayed.** Take any reachable store, a request that
`queue` accepted there, and any run from then on. The same request is replayed,
with the command first stored and without any change, exactly when `queued_at`
was given or the clock shows the stored time again, and the rows the command is
bound to still say what they said: above all, its attempt is still `PENDING`. -/
theorem resubmission_replayed_iff {s₀ : Store} (hs : s₀.Fresh) (ops : List Operation)
    (request : QueueNativeDispatch) (now₁ : Datetime) (d : AppendDisposition)
    (c : NativeDispatchCommand) (s₁ : Store)
    (h : queue request now₁ (runAll ops s₀) = (.ok (d, c), s₁)) (later : List Operation)
    (now₂ : Datetime) :
    queue request now₂ (runAll later s₁) = (.ok (.replayed, c), runAll later s₁) ↔
      (request.queuedAt.isSome = true ∨ now₂ = c.queuedAt) ∧ StillBound (runAll later s₁) c := by
  obtain ⟨hreq, hbound, hcol, row, hl, hp⟩ := queue_first (runAll_columns (.fresh hs)) h
  obtain ⟨row', hl', hr⟩ := runAll_later later hcol hl
  exact queue_again_iff hreq hbound (runAll_columns hcol) hl' (hr.payload.trans hp)

end Queue

section Sample

open Sample

/-- The request `command` could have come from, with or without `queued_at`. -/
def Sample.request (queuedAt : Option Datetime) : QueueNativeDispatch where
  scope := scope
  attemptId := text "attempt-1"
  placementId := text "placement-1"
  approvedPlanDigest := (digest 'a').1
  runtimeGeneration := one
  agentInstanceId := text "agent-instance-1"
  context := ⟨"principal-1", "default", "prod", "session-1", .browserSession⟩
  exactGrant := ⟨"owner", "execute", "resource-1", by decide +kernel⟩
  authorityGeneration := one
  recoveryEpoch := one
  agentName := "agent-1"
  inputText := "hello"
  timeoutSeconds := 30
  idempotencyKey := "key-1"
  queuedAt := queuedAt

def Sample.requestedCommand : NativeDispatchCommand :=
  { command with
    commandId := text ("native-dispatch:" ++
        sha256 "default\x00prod\x00attempt-1\x00placement-1\x00principal-1\x00key-1")
      (by decide +kernel) }

/-- The store after the request. -/
def Sample.requestedStore : Store :=
  (store.setCommand requestedCommand.key (.queued requestedCommand)).addFact requestedCommand.key
    .queued (queuedRecord requestedCommand)

theorem Sample.requested_command {queuedAt : Option Datetime}
    (h : queuedAt.getD (instant 1000000) = instant 1000000) :
    requested (request queuedAt) (instant 1000000) store = .ok requestedCommand := by
  rcases queuedAt with _ | t
  · decide +kernel
  · rw [show t = instant 1000000 from h]
    decide +kernel

theorem Sample.queue_request {queuedAt : Option Datetime}
    (h : queuedAt.getD (instant 1000000) = instant 1000000) :
    queue (request queuedAt) (instant 1000000) store
      = (.ok (.appended, requestedCommand), requestedStore) :=
  queue_new (requested_command h) (by decide +kernel) rfl (by decide +kernel) rfl

def Sample.starting : List Operation :=
  [.claimNext "worker-1" (instant 2000000) 30 (digest 'c') fun _ => false,
    .permitEffect { claim with command := requestedCommand } "task-name" (fun _ => .ok true)
      (instant 3000000)]

/-- The request is replayed while its command is claimed. -/
theorem resubmission_replayed_iff_sample :
    queue (request (some (instant 1000000))) (instant 9000000)
        (runAll (starting.take 1) requestedStore)
      = (.ok (.replayed, requestedCommand), runAll (starting.take 1) requestedStore) := by
  have hfresh : store.Fresh := ⟨rfl, rfl, rfl, rfl⟩
  refine (resubmission_replayed_iff hfresh []
    (request (some (instant 1000000))) (instant 1000000) .appended requestedCommand requestedStore
    (queue_request rfl) (starting.take 1) (instant 9000000)).mpr ⟨.inl rfl, by decide +kernel, ?_⟩
  exact ⟨⟨"task-1", .pending, 1, some 1, identity⟩, by decide +kernel, rfl, rfl, rfl⟩

/-- The request is not replayed one microsecond later when `queued_at` was left
open, and not after the effect has started even when it was given. -/
theorem resubmission_refused :
    (queue (request none) (instant 1000000) store
        = (.ok (.appended, requestedCommand), requestedStore) ∧
      queue (request none) (instant 1000001) requestedStore
        ≠ (.ok (.replayed, requestedCommand), requestedStore)) ∧
    (queue (request (some (instant 1000000))) (instant 1000000) store
        = (.ok (.appended, requestedCommand), requestedStore) ∧
      queue (request (some (instant 1000000))) (instant 1000000) (runAll starting requestedStore)
        ≠ (.ok (.replayed, requestedCommand), runAll starting requestedStore)) := by
  have hcol : Columns store := .fresh ⟨rfl, rfl, rfl, rfl⟩
  have hfirst := fun {q : Option Datetime} (h : q.getD (instant 1000000) = instant 1000000) =>
    queue_first hcol (queue_request h)
  refine ⟨⟨queue_request rfl, fun h => ?_⟩, queue_request rfl, fun h => ?_⟩
  · obtain ⟨hreq, hb, hcol, row, hl, hp⟩ := hfirst (q := none) rfl
    rcases ((queue_again_iff hreq hb hcol hl hp).mp h).1 with hq | hq
    · cases hq
    · exact absurd hq (by decide)
  · obtain ⟨hreq, hb, hcol, row, hl, hp⟩ := hfirst (q := some (instant 1000000)) rfl
    obtain ⟨row', hl', hr⟩ := runAll_later starting hcol hl
    have hbound := ((queue_again_iff hreq hb (runAll_columns hcol) hl'
      (hr.payload.trans hp)).mp h).2.binding
    exact absurd hbound (by decide +kernel)

end Sample

end AgentPlatform
