/-
AgentPlatform/Delegation/Guard.lean

`guard_budget`: what a delegation demands before one of its two ledgers may
reserve a provider call.

The guard first asks whether the delegation is active. It then collects the
unknown calls that the new call may leave open (`permittedUnknowns`): those a
case was enrolled with, by an independent signature, and those of a diagnostic
admission, which is an observation of the owner. Every other call whose
outcome is unknown or whose reservation is open blocks the new one.

The guard is a sequence of checks (`Check`), each of which reads the tables on
its own. `gone` is what the operating system answers about a worker process.
-/
import AgentPlatform.Delegation.Active
import AgentPlatform.Budget.Ledger

namespace AgentPlatform

open Py

/-- The tables that the budget and the delegation work on. -/
structure Database where
  budget : Budget.Tables
  delegation : Delegation.Tables

namespace Delegation

open Tables (Refusal)

/-! ### The calls of a task -/

namespace Tables

variable (db : Tables)

/-- `context_ids(c, row)`. -/
def contextIds (row : TaskDelegation) : List String :=
  row.rootContextId :: (db.casesOf row.delegationId).map (·.contextId)

/-- Of two versions of a draft, the newer one. -/
def newerDraft (a b : DraftVersion) : DraftVersion :=
  if a.aggregateVersion < b.aggregateVersion then b else a

def newestDraft : List DraftVersion → Option DraftVersion
  | [] => none
  | v :: vs => some (vs.foldl newerDraft v)

/-- `draft_records(connection, row)`: `SELECT DISTINCT ON (invocation_id) record
... ORDER BY invocation_id,aggregate_version DESC`. -/
def draftRecords (row : TaskDelegation) : List DraftRecord :=
  let versions := db.drafts.filter fun v =>
    v.namespace_ = row.tenantId ∧ v.securityDomain = row.securityDomain
      ∧ v.record.contextId ∈ db.contextIds row ∧ v.record.initiatingPrincipalId = row.subjectId
  let ids := (versions.map (·.invocationId)).dedup.mergeSort
  ids.filterMap fun id =>
    (newestDraft (versions.filter fun v => v.invocationId = id)).map (·.record)

/-- `task_problem_ids(connection, row)`, as the test for membership. -/
def isTaskProblem (row : TaskDelegation) (problemId : String) : Bool :=
  let drafted := (db.draftRecords row).any fun r => r.problemId = some problemId ∧ problemId ≠ ""
  let bound := !(db.casesOf row.delegationId).isEmpty && db.caseProblems.any fun p =>
    p.delegationId = row.delegationId ∧ p.problemId = problemId
  let owned := db.resources.any fun r =>
    r.delegationId = row.delegationId ∧ r.owner = "BUSINESS_PROBLEM" ∧ r.resourceId = problemId
  (drafted || bound) && owned

/-- `planning_record(connection, row, invocation_id)`. -/
def planningRecord (row : TaskDelegation) (invocationId : String) : Option PlanInvocation := do
  let plan ← db.plans.find? fun i => i.namespace_ = row.tenantId
    ∧ i.securityDomain = row.securityDomain ∧ i.actorId = row.subjectId
    ∧ i.invocationId = invocationId
  if db.isTaskProblem row plan.problemId then some plan else none

/-- `target_in_task(connection, row, grant)` for `MODEL_GOVERNANCE`. -/
def modelTargetInTask (row : TaskDelegation) (resource : String) : Bool :=
  let bound := row.understanding
  if resource.startsWith "model:invocation:draft-assistance:" then
    (db.draftRecords row).any fun r =>
      r.profileRevisionId = bound.profileRevisionId
        ∧ r.modelTarget = "model:invocation:draft-assistance:" ++ r.contextId ++ ":" ++ r.turnId
          ++ ":" ++ r.invocationId ++ ":" ++ r.snapshotCandidateId ++ ":" ++ bound.modelTarget
        ∧ (resource = r.requestTarget ∨ resource = r.modelTarget
          ∨ resource = "draft-assistance:invocation:" ++ r.invocationId)
  else resource = row.planning.modelTarget

end Tables

/-! ### Unknown calls -/

section Unknown

variable (db : Database) (gone : Int → Bool)

/-- `receipt.get("deadline", {})`. -/
def deadlineOf (receipt : Json) : Json := (receipt.get? "deadline").getD (.obj [])

/-- The worker of a receipt was reaped, and no such process exists. -/
def reaped (receipt : Json) : Bool :=
  let deadline := deadlineOf receipt
  (match deadline.get? "reaped" with
    | some (.bool true) => true
    | _ => false)
  && (match deadline.get? "reason" with
    | some (.str "CLEANUP_FAILURE") => false
    | _ => true)
  && (match deadline.get? "worker_pid" with
    | some (.int pid) => 0 < pid && gone pid
    | _ => false)

/-- One unknown call, verified: its fact, and the problem it was made for. -/
def unknownFact (row : TaskDelegation) (identity : String) :
    Except Refusal (UnknownFact × Json) := do
  let inv ← orRaise (.authority "TASK_DELEGATION_TARGET_DENIED")
    (db.delegation.planningRecord row identity)
  let result := db.delegation.results.find? fun r => r.namespace_ = row.tenantId
    ∧ r.securityDomain = row.securityDomain ∧ r.invocationId = identity
  let receipt := db.delegation.receipts.find? fun r => r.namespace_ = row.tenantId
    ∧ r.securityDomain = row.securityDomain ∧ r.invocationId = identity
  if result.any fun r => r.technicalStatus = "OUTCOME_UNKNOWN" then
    let receipt ← orRaise (.authority "DIAGNOSTIC_UNKNOWN_RECEIPT_REQUIRED") receipt
    if reaped gone receipt.record then
      let reservation ← orRaise (.authority "DIAGNOSTIC_RESERVATION_MISMATCH")
        (db.budget.reservations.find? fun r =>
          r.key = ⟨row.tenantId, row.securityDomain, row.planning.ledgerId⟩
            ∧ r.invocationId = identity)
      match receipt.record.get? "reservation_id" with
      | some (.str id) =>
        if id = reservation.reservationId then
          .ok (⟨identity, reservation.reservationId, digest receipt.record⟩, inv.problem)
        else .error (.authority "DIAGNOSTIC_RESERVATION_MISMATCH")
      | _ => .error (.authority "DIAGNOSTIC_RESERVATION_MISMATCH")
    else .error (.authority "DIAGNOSTIC_WORKER_NOT_REAPED")
  else .error (.authority "DIAGNOSTIC_UNKNOWN_RECEIPT_REQUIRED")

/-- The loop of `unknown_facts`: every call has the problem of the one before. -/
def unknownFactsFrom (row : TaskDelegation) :
    Option Json → List String → Except Refusal (List UnknownFact × Option Json)
  | target, [] => .ok ([], target)
  | target, identity :: rest => do
    let (fact, current) ← unknownFact db gone row identity
    if target.all fun t => t.dumps true = current.dumps true then
      let (facts, last) ← unknownFactsFrom row (some current) rest
      .ok (fact :: facts, last)
    else .error (.authority "TASK_DELEGATION_TARGET_DENIED")

/-- `unknown_facts(c, row, identities)`. -/
def unknownFacts (row : TaskDelegation) (identities : List String) :
    Except Refusal (List UnknownFact × Option Json) :=
  if identities.Nodup then unknownFactsFrom db gone row none identities.mergeSort
  else .error (.authority "DIAGNOSTIC_UNKNOWN_SET_INVALID")

/-- The context that an invocation belongs to. -/
def contextOf (row : TaskDelegation) (invocationId : String) : Option String :=
  match (db.delegation.draftRecords row).find? fun r => r.invocationId = invocationId with
  | some draft => some draft.contextId
  | none => do
    let planning ← db.delegation.planningRecord row invocationId
    let bound ← db.delegation.caseProblems.find? fun p =>
      p.delegationId = row.delegationId ∧ p.problemId = planning.problemId
    return bound.contextId

/-- A case was enrolled for the delegation as it is now. -/
def caseCurrent (row : TaskDelegation) (record : CaseRecord) : Bool :=
  ((db.delegation.revision row.delegationId).any fun rev =>
      rev.digest = record.developmentRevisionDigest)
    && record.subjectId = row.subjectId && record.tenantId = row.tenantId
    && record.securityDomain = row.securityDomain && record.generation = row.generation
    && record.recoveryEpoch = row.recoveryEpoch

/-- `historical_unknowns(c, row, invocation)`: the calls that the case of the
invocation was signed for. -/
def historicalUnknowns (row : TaskDelegation) (invocationId : String) :
    Except Refusal (List String) :=
  let enrollments := db.delegation.casesOf row.delegationId
  match enrollments.find? fun c => some c.contextId = contextOf db row invocationId with
  | none => .ok []
  | some case_ =>
    if caseCurrent db row case_.record then do
      let (facts, _) ← unknownFacts db gone row case_.record.unknownInvocationIds
      if facts = case_.record.facts then .ok (facts.map (·.invocationId))
      else .error (.authority "TASK_CASE_RECEIPT_MISMATCH")
    else .error (.authority "TASK_CASE_INACTIVE")

def diagnosticPermit (row : TaskDelegation) (invocationId : String) : Option DiagnosticAdmission :=
  db.delegation.admissions.find? fun a => a.delegationId = row.delegationId
    ∧ db.delegation.plans.any fun i => i.requestKey = a.requestKey ∧ i.namespace_ = row.tenantId
      ∧ i.securityDomain = row.securityDomain ∧ i.actorId = row.subjectId
      ∧ i.invocationId = invocationId

/-- The unknown calls that may stay open, by where they come from: the signed
liabilities of a case, and a diagnostic admission. -/
structure Permitted where
  signed : List String
  diagnosed : List String

/-- The set that `permitted_unknowns` returns. -/
def Permitted.ids (p : Permitted) : List String := p.signed ++ p.diagnosed

/-- `permitted_unknowns(c, row, invocation)`. -/
def permittedUnknowns (row : TaskDelegation) (invocationId : String) :
    Except Refusal Permitted :=
  if (db.delegation.revision row.delegationId).isNone then .ok ⟨[], []⟩
  else do
    let historical ← historicalUnknowns db gone row invocationId
    match db.delegation.planningRecord row invocationId, diagnosticPermit db row invocationId with
    | some inv, some permit =>
      let (facts, target) ← unknownFacts db gone row permit.unknownInvocationIds
      if facts = permit.facts ∧ target.any fun t => t.dumps true = inv.problem.dumps true then
        .ok ⟨historical, facts.map (·.invocationId)⟩
      else .error (.authority "DIAGNOSTIC_TARGET_MISMATCH")
    | _, _ => .ok ⟨historical, []⟩

/-- `effective_limits(c, row, purpose, invocation)`. -/
def effectiveLimits (row : TaskDelegation) (purpose : Purpose) (invocationId : String) :
    Except Refusal Limits :=
  match purpose, db.delegation.currentTimeout row.delegationId with
  | .planning, some revision =>
    let record := revision.record
    if record.originalLimits = row.planning ∧ record.subjectId = row.subjectId
        ∧ record.tenantId = row.tenantId ∧ record.securityDomain = row.securityDomain
        ∧ record.generation = row.generation ∧ record.recoveryEpoch = row.recoveryEpoch then
      if (db.delegation.planningRecord row invocationId).any fun inv =>
          inv.problemId = revision.problemId then
        .ok record.limits
      else .error (.authority "TASK_TIMEOUT_TARGET_DENIED")
    else .error (.authority "TASK_TIMEOUT_REVISION_INACTIVE")
  | _, _ => .ok (row.limits purpose)

end Unknown

/-! ### The checks -/

/-- What the guard is asked for: the ledger's configuration, the invocation and
the bounds of the quote. -/
structure Application where
  configuration : Option Limits
  invocationId : String
  inputTokenUpperBound : Int
  outputTokenCeiling : Int

/-- What the guard has found out: the delegation that the ledger is linked to,
and the unknown calls that may stay open. -/
structure Admission where
  application : Application
  purpose : Purpose
  row : TaskDelegation
  permitted : Permitted

/-- The checks that follow `active` and `permitted_unknowns`, in order. -/
inductive Check
  | limits
  | drafts
  | plans
  | target
  | pending
  deriving DecidableEq

section Checks

variable (db : Database) (a : Admission)

/-- The outcome of a draft is unknown, or its worker was not cleaned up. -/
def draftUnknown (r : DraftRecord) : Bool :=
  r.state = "OUTCOME_UNKNOWN" || r.state = "CANCELLATION_REQUESTED"
    || r.cleanupReason = some "CLEANUP_FAILURE"

/-- A plan's call that the query of the guard selects as unknown. -/
def planUnknown (i : PlanInvocation) : Bool :=
  let result := db.delegation.results.find? fun r => r.namespace_ = i.namespace_
    ∧ r.securityDomain = i.securityDomain ∧ r.invocationId = i.invocationId
  i.namespace_ = a.row.tenantId && i.securityDomain = a.row.securityDomain
    && i.actorId = a.row.subjectId
    && ((result.any fun r => r.technicalStatus = "OUTCOME_UNKNOWN")
      || (i.invocationId != a.application.invocationId && result.isNone
        && db.budget.reservations.any fun br => br.key.namespace_ = i.namespace_
          && br.key.securityDomain = i.securityDomain && br.invocationId = i.invocationId
          && !decide (db.budget.Unsettled br)))

def OnLedgerOf (db : Tables) (delegationId : String) (r : Budget.Reservation) : Prop :=
  ∃ l ∈ db.ledgers, l.delegationId = delegationId
    ∧ r.key = ⟨l.tenantId, l.securityDomain, l.ledgerId⟩

instance (db : Tables) (delegationId : String) (r : Budget.Reservation) :
    Decidable (OnLedgerOf db delegationId r) :=
  inferInstanceAs (Decidable (∃ l ∈ db.ledgers, _))

/-- An open reservation that blocks the call. -/
def blocks (r : Budget.Reservation) : Bool :=
  decide (OnLedgerOf db.delegation a.row.delegationId r) && decide (db.budget.Unsettled r)
    && r.invocationId != a.application.invocationId && !decide (r.invocationId ∈ a.permitted.ids)

/-- The call is one of the task. -/
def inTask : Bool :=
  match a.purpose with
  | .understanding =>
    match (db.delegation.draftRecords a.row).find? fun r =>
        r.invocationId = a.application.invocationId with
    | some draft => db.delegation.modelTargetInTask a.row draft.modelTarget
    | none => false
  | .planning => (db.delegation.planningRecord a.row a.application.invocationId).isSome

/-- One check of `guard_budget`. -/
def check : Check → Except Refusal Unit
  | .limits => do
    let limits ← effectiveLimits db a.row a.purpose a.application.invocationId
    if a.application.configuration ≠ some limits then
      .error (.authority "TASK_DELEGATION_CONFIGURATION_MISMATCH")
    else if ¬ (1 ≤ a.application.inputTokenUpperBound
        ∧ a.application.inputTokenUpperBound ≤ limits.inputTokens)
        ∨ limits.outputTokens < a.application.outputTokenCeiling then
      .error (.authority "TASK_DELEGATION_TOKEN_LIMIT")
    else .ok ()
  | .drafts =>
    if (db.delegation.draftRecords a.row).any draftUnknown then
      .error (.authority "TASK_DELEGATION_OUTCOME_UNKNOWN")
    else .ok ()
  | .plans =>
    if db.delegation.plans.any fun i => planUnknown db a i
        && (db.delegation.planningRecord a.row i.invocationId).isSome
        && !decide (i.invocationId ∈ a.permitted.ids) then
      .error (.authority "TASK_DELEGATION_OUTCOME_UNKNOWN")
    else .ok ()
  | .target => if inTask db a then .ok () else .error (.authority "TASK_DELEGATION_TARGET_DENIED")
  | .pending =>
    if db.budget.reservations.any (blocks db a) then
      .error (.authority "TASK_DELEGATION_PENDING_RESERVATION")
    else .ok ()

/-- The check after this one. -/
def Check.next : Check → Option Check
  | .limits => some .drafts
  | .drafts => some .plans
  | .plans => some .target
  | .target => some .pending
  | .pending => none

end Checks

end Delegation

end AgentPlatform
