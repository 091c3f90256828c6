/-
AgentPlatform/Budget/Calls.lean

`reserve` and `record_usage`, statement by statement, among any number of
processes, together with the transactions that change a delegation.

A reservation on a ledger without a delegation locks the ledger's policy, looks
for the operation, adds up what is spent and inserts. On a ledger of a
delegation the guard comes first, and its locks are kept to the end: the
advisory lock of the owner, the active generation and the delegation.

An insert takes the values of its unique columns like locks: a second insert of
the same value waits for the first. The transactions that change a delegation
are modelled by their locks and by the row they write; the checks they make
before are left out, so that more runs are covered than the source has.
-/
import AgentPlatform.Delegation.Guard
import AgentPlatform.Py.Interleaving

namespace AgentPlatform

open Py

namespace Budget

open Delegation (Limits Application Admission Check LedgerLink TaskDelegation)

/-! ### Arguments -/

/-- A `PostgresProviderCallBudget`: the ledger, the profile and the prices of
one process. -/
structure Account where
  key : LedgerKey
  profileRevisionId : String
  maximumOutputTokens : Int
  inputPrice : Int
  outputPrice : Int
  delegationConfiguration : Option Limits
  input_nonneg : 0 ≤ inputPrice
  output_nonneg : 0 ≤ outputPrice

/-- `ProviderBudgetQuote`. -/
structure Quote where
  inputTokenUpperBound : Int
  outputTokenCeiling : Int
  worstCaseCostMicrousd : Int
  input_pos : 1 ≤ inputTokenUpperBound
  output_pos : 1 ≤ outputTokenCeiling
  cost_nonneg : 0 ≤ worstCaseCostMicrousd
  deriving DecidableEq

/-- What `reserve` reads of a `DraftInvocation`. -/
structure Invocation where
  namespace_ : String
  securityDomain : String
  invocationId : String
  profileRevisionId : String
  deriving DecidableEq

/-- The arguments of `reserve`. -/
structure ReserveCall where
  account : Account
  operationId : String
  invocation : Invocation
  quote : Quote

namespace ReserveCall

variable (c : ReserveCall)

/-- The quote is for this profile and priced as the ledger prices it. -/
def quoteValid : Bool :=
  c.invocation.namespace_ = c.account.key.namespace_
    && c.invocation.securityDomain = c.account.key.securityDomain
    && c.invocation.profileRevisionId = c.account.profileRevisionId
    && c.quote.outputTokenCeiling = c.account.maximumOutputTokens
    && costs c.quote.inputTokenUpperBound c.account.inputPrice c.quote.outputTokenCeiling
      c.account.outputPrice == some c.quote.worstCaseCostMicrousd

def reservationId : String :=
  "provider-budget-reservation:" ++ sha256 c.invocation.invocationId

def payloadDigest : String :=
  Delegation.digest (.obj [("invocationId", .str c.invocation.invocationId),
    ("inputTokenUpperBound", .int c.quote.inputTokenUpperBound),
    ("outputTokenCeiling", .int c.quote.outputTokenCeiling),
    ("worstCaseCostMicrousd", .int c.quote.worstCaseCostMicrousd)])

/-- The row that `reserve` inserts. -/
def row : Reservation :=
  { key := c.account.key, reservationId := c.reservationId, operationId := c.operationId,
    invocationId := c.invocation.invocationId,
    inputTokenUpperBound := c.quote.inputTokenUpperBound,
    outputTokenCeiling := c.quote.outputTokenCeiling,
    worstCaseCostMicrousd := c.quote.worstCaseCostMicrousd, payloadDigest := c.payloadDigest }

/-- What the guard is asked for. -/
def application : Application :=
  { configuration := c.account.delegationConfiguration, invocationId := c.invocation.invocationId,
    inputTokenUpperBound := c.quote.inputTokenUpperBound,
    outputTokenCeiling := c.quote.outputTokenCeiling }

end ReserveCall

/-- The arguments of `record_usage`. -/
structure UsageCall where
  account : Account
  operationId : String
  reservationId : String
  observationId : String
  inputTokens : Option Int
  outputTokens : Option Int

/-- The token counts, where the provider has reported usable ones. -/
def UsageCall.tokens (u : UsageCall) : Option (Int × Int) := do
  let input ← u.inputTokens
  let output ← u.outputTokens
  if input < 1 ∨ output < 0 then none else some (input, output)

/-- The row that `record_usage` inserts for a reservation, unless the usage is
beyond what was reserved; `none` inside is an `OverflowError`. -/
def UsageCall.settlement (u : UsageCall) (r : Reservation) : Option (Option Settlement) := do
  let (input, output) ← u.tokens
  if r.inputTokenUpperBound < input ∨ r.outputTokenCeiling < output then none
  else
    match costs input u.account.inputPrice output u.account.outputPrice with
    | none => some none
    | some actual =>
      if r.worstCaseCostMicrousd < actual then none
      else
        some (some
          { key := u.account.key, reservationId := u.reservationId, operationId := u.operationId,
            observationId := u.observationId, inputTokens := input, outputTokens := output,
            actualCostMicrousd := actual,
            payloadDigest := Delegation.digest (.obj [("observationId", .str u.observationId),
              ("inputTokens", .int input), ("outputTokens", .int output),
              ("actualCostMicrousd", .int actual)]) })

/-! ### Changes of a delegation -/

/-- The transactions that change a delegation, with the rows they write. -/
inductive Write
  | revoke (delegationId : String)
  | stop (delegationId : String)
  | revise (r : Delegation.DevelopmentRevision)
  | diagnose (a : Delegation.DiagnosticAdmission)
  | enroll (c : Delegation.TaskCase)
  | reviseTimeout (t : Delegation.TimeoutRevision)
  | approveContinuity (c : Delegation.IdentityContinuity)
  | revokeContinuity (delegationId continuityId : String)
  | bindProblem (p : Delegation.CaseProblem)
  | activate (g : Delegation.ActiveGeneration) (t : Option Delegation.IdentityTransition)

namespace Write

/-- The delegation that is changed; activating a generation changes none. -/
def delegationId : Write → Option String
  | .revoke id => some id
  | .stop id => some id
  | .revise r => some r.delegationId
  | .diagnose a => some a.delegationId
  | .enroll c => some c.delegationId
  | .reviseTimeout t => some t.delegationId
  | .approveContinuity c => some c.delegationId
  | .revokeContinuity id _ => some id
  | .bindProblem p => some p.delegationId
  | .activate _ _ => none

/-- The keys of the tables let the row in. -/
def fits (db : Delegation.Tables) : Write → Bool
  | .revoke _ => true
  | .stop _ => true
  | .revise r => (db.revision r.delegationId).isNone
  | .diagnose a => !db.admissions.any fun b =>
      b.delegationId = a.delegationId && b.requestKey = a.requestKey
  | .enroll c => !db.cases.any fun b =>
      b.delegationId = c.delegationId
        && (b.contextId = c.contextId || b.idempotencyKey = c.idempotencyKey)
  | .reviseTimeout t => (db.currentTimeout t.delegationId).isNone
  | .approveContinuity c => !db.continuities.any fun b => b.continuityId = c.continuityId
      || (b.delegationId = c.delegationId && b.ordinal = c.ordinal)
  | .revokeContinuity id cid => (db.latest id).any fun c => c.continuityId = cid
  | .bindProblem p => !db.caseProblems.any fun b =>
      b.delegationId = p.delegationId && (b.contextId = p.contextId || b.problemId = p.problemId)
  | .activate _ t => t.all fun t => !db.transitions.any fun b => b.transitionId = t.transitionId

/-- What the transaction writes. -/
def apply (w : Write) (db : Delegation.Tables) : Delegation.Tables :=
  match w with
  | .revoke id =>
    { db with
      revocations := if id ∈ db.revocations then db.revocations else db.revocations ++ [id]
      control := db.control.map fun c => if c.1 = id then (c.1, true) else c }
  | .stop id => { db with stops := if id ∈ db.stops then db.stops else db.stops ++ [id] }
  | .revise r => { db with revisions := db.revisions ++ [r] }
  | .diagnose a => { db with admissions := db.admissions ++ [a] }
  | .enroll c => { db with cases := db.cases ++ [c] }
  | .reviseTimeout t => { db with timeouts := db.timeouts ++ [t] }
  | .approveContinuity c => { db with continuities := db.continuities ++ [c] }
  | .revokeContinuity _ cid =>
    { db with
      continuityRevocations := if cid ∈ db.continuityRevocations then db.continuityRevocations
        else db.continuityRevocations ++ [cid] }
  | .bindProblem p => { db with caseProblems := db.caseProblems ++ [p] }
  | .activate g t =>
    { db with activeGeneration := some g, transitions := db.transitions ++ t.toList }

end Write

/-! ### Program points -/

/-- What transactions lock: the advisory lock of the delegations' owner, rows,
and the values of unique columns. -/
inductive Lock
  | advisory
  | generation
  | delegation (id : String)
  | policy (key : LedgerKey)
  | reservationId (key : LedgerKey) (id : String)
  | reservationOperation (key : LedgerKey) (id : String)
  | reservationInvocation (key : LedgerKey) (id : String)
  | settlementId (key : LedgerKey) (id : String)
  | settlementOperation (key : LedgerKey) (id : String)
  deriving DecidableEq

/-- Where a call is: what it has read so far, and what comes next. -/
inductive Point
  /-- `reserve` is about to look for the ledger's delegation. -/
  | reserving (c : ReserveCall)
  /-- `active` is about to take the advisory lock. -/
  | linked (c : ReserveCall) (l : LedgerLink)
  /-- `active` is about to lock and read the generation and the delegation. -/
  | advised (c : ReserveCall) (l : LedgerLink)
  /-- The delegation is active; `permitted_unknowns` comes next. -/
  | admitted (c : ReserveCall) (l : LedgerLink) (row : TaskDelegation) (now : Datetime)
  | checking (c : ReserveCall) (a : Admission) (now : Datetime) (k : Check)
  /-- The guard asks for a development revision. -/
  | checked (c : ReserveCall) (a : Admission) (now : Datetime)
  /-- The guard has returned; the policy is to be locked. -/
  | guarded (c : ReserveCall) (a : Option (Admission × Datetime)) (continuous : Bool)
  | locked (c : ReserveCall) (a : Option (Admission × Datetime)) (continuous : Bool) (p : Policy)
  /-- The operation has this reservation already. -/
  | replaying (c : ReserveCall) (a : Option (Admission × Datetime)) (p : Policy)
  | absent (c : ReserveCall) (a : Option (Admission × Datetime)) (continuous : Bool) (p : Policy)
  | counted (c : ReserveCall) (a : Option (Admission × Datetime)) (continuous : Bool) (p : Policy)
      (calls cost : Int)
  | inserted (c : ReserveCall) (a : Option (Admission × Datetime)) (p : Policy)
  /-- `record_usage` is about to look for the reservation. -/
  | metering (u : UsageCall)
  | found (u : UsageCall) (r : Reservation)
  | settling (u : UsageCall) (s : Settlement)
  /-- The insert did nothing; the stored settlement is to be compared. -/
  | conflicting (u : UsageCall) (s : Settlement)
  /-- A change of a delegation, before and after its locks and its write. -/
  | writing (w : Write)
  | written (w : Write)

/-- What committed calls leave in the log. -/
inductive Event
  | reserved (c : ReserveCall) (a : Option (Admission × Datetime))
  | replayed (c : ReserveCall)
  | settled (u : UsageCall) (s : Settlement)
  | ignored (u : UsageCall)
  | resettled (u : UsageCall)
  | changed (w : Write)

namespace Point

def guardLocks (a : Admission) : List (Lock × LockMode) :=
  [(.advisory, .update), (.generation, .share), (.delegation a.row.delegationId, .update)]

def admissionLocks (a : Option (Admission × Datetime)) : List (Lock × LockMode) :=
  a.elim [] fun a => guardLocks a.1

/-- The values of the unique columns of a reservation. -/
def reservationLocks (r : Reservation) : List (Lock × LockMode) :=
  [(.reservationId r.key r.reservationId, .update),
    (.reservationOperation r.key r.operationId, .update),
    (.reservationInvocation r.key r.invocationId, .update)]

/-- The values of the unique columns of a settlement. -/
def settlementLocks (s : Settlement) : List (Lock × LockMode) :=
  [(.settlementId s.key s.reservationId, .update),
    (.settlementOperation s.key s.operationId, .update)]

/-- The locks of a change: the delegation, or the generation. -/
def writeLocks (w : Write) : List (Lock × LockMode) :=
  match w.delegationId with
  | some id => [(.delegation id, .update)]
  | none => [(.generation, .update)]

def held : Point → List (Lock × LockMode)
  | .reserving _ => []
  | .linked _ _ => []
  | .advised _ _ => [(.advisory, .update)]
  | .admitted _ _ row _ =>
    [(.advisory, .update), (.generation, .share), (.delegation row.delegationId, .update)]
  | .checking _ a _ _ => guardLocks a
  | .checked _ a _ => guardLocks a
  | .guarded _ a _ => admissionLocks a
  | .locked _ a _ p => (.policy p.key, .update) :: admissionLocks a
  | .replaying _ a p => (.policy p.key, .update) :: admissionLocks a
  | .absent _ a _ p => (.policy p.key, .update) :: admissionLocks a
  | .counted _ a _ p _ _ => (.policy p.key, .update) :: admissionLocks a
  | .inserted c a p => (.policy p.key, .update) :: (reservationLocks c.row ++ admissionLocks a)
  | .metering _ => []
  | .found _ _ => []
  | .settling _ s => settlementLocks s
  | .conflicting _ _ => []
  | .writing _ => []
  | .written w => writeLocks w

/-- What the transaction has written so far. -/
def pending : Point → Database → Database
  | .inserted c _ _, db => { db with budget := db.budget.addReservation c.row }
  | .settling _ s, db => { db with budget := db.budget.addSettlement s }
  | .written w, db => { db with delegation := w.apply db.delegation }
  | _, db => db

/-- Calls begin outside a transaction. -/
def initial : Point → Prop
  | .reserving _ => True
  | .metering _ => True
  | .writing _ => True
  | _ => False

/-- A raised error ends the call. -/
def orElse {ε α : Type*} (x : Except ε α) (f : α → Next Point Event) : Next Point Event :=
  match x with
  | .ok a => f a
  | .error _ => .raise

def linkOf (db : Delegation.Tables) (key : LedgerKey) : Option LedgerLink :=
  db.ledgers.find? fun l =>
    l.tenantId = key.namespace_ ∧ l.securityDomain = key.securityDomain ∧ l.ledgerId = key.ledgerId

/-- The cap check of `reserve`. -/
def exhausted (c : ReserveCall) (p : Policy) (calls cost : Int) : Bool :=
  p.callCap < calls + 1 || p.totalCostCapMicrousd < cost + c.quote.worstCaseCostMicrousd

/-- The statement at a point. -/
def next (gone : Int → Bool) (now : Datetime) (t : Point) (db : Database) : Next Point Event :=
  match t with
  | .reserving c =>
    if c.quoteValid then
      match linkOf db.delegation c.account.key with
      | none => .go (.guarded c none false)
      | some l => .go (.linked c l)
    else .raise
  | .linked c l => .go (.advised c l)
  | .advised c l =>
    orElse (db.delegation.active l.delegationId false now) fun r => .go (.admitted c l r.1 now)
  | .admitted c l row at_ =>
    orElse (Delegation.permittedUnknowns db gone row c.invocation.invocationId) fun permitted =>
      .go (.checking c ⟨c.application, l.purpose, row, permitted⟩ at_ .limits)
  | .checking c a at_ k =>
    orElse (Delegation.check db a k) fun _ =>
      match k.next with
      | some k' => .go (.checking c a at_ k')
      | none => .go (.checked c a at_)
  | .checked c a at_ =>
    .go (.guarded c (some (a, at_)) (db.delegation.revision a.row.delegationId).isSome)
  | .guarded c a continuous =>
    match db.budget.policy c.account.key with
    | none => .raise
    | some p => .go (.locked c a continuous p)
  | .locked c a continuous p =>
    match db.budget.ofOperation c.account.key c.operationId with
    | none => .go (.absent c a continuous p)
    | some r =>
      if r.reservationId = c.reservationId ∧ r.payloadDigest = c.payloadDigest then
        .go (.replaying c a p)
      else .raise
  | .replaying c _ _ => .commit (.replayed c) none
  | .absent c a continuous p =>
    let (calls, cost) := db.budget.totals c.account.key
    .go (.counted c a continuous p calls cost)
  | .counted c a continuous p calls cost =>
    if !continuous && exhausted c p calls cost then .raise
    else if Tables.Reservation.fits c.row && db.budget.reservationFree c.row then
      .go (.inserted c a p)
    else .raise
  | .inserted c a _ => .commit (.reserved c a) none
  | .metering u =>
    match u.tokens with
    | none => .commit (.ignored u) none
    | some _ =>
      match db.budget.reservation u.account.key u.reservationId with
      | none => .raise
      | some r => .go (.found u r)
  | .found u r =>
    match u.settlement r with
    | none => .commit (.ignored u) none
    | some none => .raise
    | some (some s) =>
      if Tables.Settlement.fits s then
        if db.budget.settlementFree s then .go (.settling u s) else .go (.conflicting u s)
      else .raise
  | .settling u s => .commit (.settled u s) none
  | .conflicting u s =>
    match db.budget.settlements.find? fun s' =>
        s'.key = s.key ∧ s'.reservationId = s.reservationId with
    | some s' =>
      if s'.operationId = u.operationId ∧ s'.payloadDigest = s.payloadDigest then
        .commit (.resettled u) none
      else .raise
    | none => .raise
  | .writing w => if w.fits db.delegation then .go (.written w) else .raise
  | .written w => .commit (.changed w) none

/-- The commits: a new reservation, a new settlement, a change of a delegation,
and the calls that end without having written. -/
inductive Commits : Point → Event → Prop
  | replayed {c a p} : Commits (.replaying c a p) (.replayed c)
  | reserved {c a p} : Commits (.inserted c a p) (.reserved c a)
  | unusable {u} : Commits (.metering u) (.ignored u)
  | beyond {u r} : Commits (.found u r) (.ignored u)
  | settled {u s} : Commits (.settling u s) (.settled u s)
  | resettled {u s} : Commits (.conflicting u s) (.resettled u)
  | changed {w} : Commits (.written w) (.changed w)

variable {gone : Int → Bool} {now : Datetime} {t : Point} {db : Database} {e : Event}
  {o : Option Point}

/-- A call commits once, at its end. -/
theorem next_eq_commit (h : next gone now t db = .commit e o) : o = none ∧ Commits t e := by
  cases t with
  | reserving c =>
    simp only [next] at h
    split at h
    · split at h <;> cases h
    · cases h
  | linked c l => cases h
  | advised c l =>
    simp only [next, orElse] at h
    split at h <;> cases h
  | admitted c l row at_ =>
    simp only [next, orElse] at h
    split at h <;> cases h
  | checking c a at_ k =>
    simp only [next, orElse] at h
    split at h
    · split at h <;> cases h
    · cases h
  | checked c a at_ => cases h
  | guarded c a continuous =>
    simp only [next] at h
    split at h <;> cases h
  | locked c a continuous p =>
    simp only [next] at h
    split at h
    · cases h
    · split at h <;> cases h
  | replaying c a p =>
    cases h
    exact ⟨rfl, .replayed⟩
  | absent c a continuous p => cases h
  | counted c a continuous p calls cost =>
    simp only [next] at h
    split at h
    · cases h
    · split at h <;> cases h
  | inserted c a p =>
    cases h
    exact ⟨rfl, .reserved⟩
  | metering u =>
    simp only [next] at h
    split at h
    · cases h
      exact ⟨rfl, .unusable⟩
    · split at h <;> cases h
  | found u r =>
    simp only [next] at h
    split at h
    · cases h
      exact ⟨rfl, .beyond⟩
    · cases h
    · split at h
      · split at h <;> cases h
      · cases h
  | settling u s =>
    cases h
    exact ⟨rfl, .settled⟩
  | conflicting u s =>
    simp only [next] at h
    split at h
    · split at h <;> cases h
      exact ⟨rfl, .resettled⟩
    · cases h
  | writing w =>
    simp only [next] at h
    split at h <;> cases h
  | written w =>
    cases h
    exact ⟨rfl, .changed⟩

/-- A call that goes on has not written yet. -/
theorem pending_eq_of_go {s : Database} {t' : Point} (h : next gone now t s = .go t') :
    pending t db = db := by
  cases t <;> first | rfl | cases h

end Point

/-- The calls that processes make on the budget and on delegations. -/
def procedure (gone : Int → Bool) : Procedure Database Lock Point Event Datetime where
  initial := Point.initial
  held := Point.held
  pending := Point.pending
  next := Point.next gone
  initial_held := by
    intro t ht
    cases t <;> first | rfl | cases ht
  commit_held := by
    intro now t db r t' h
    cases (Point.next_eq_commit h).1

end Budget

end AgentPlatform
