/-
AgentPlatform/Delegation/Active.lean

Is a delegation active? The question is answered twice. `active` answers it
in Python, over fetched rows, and raises where the answer is no.
`grant_condition` answers it in SQL, as a predicate that the readers of grants
add to their own, for the grants that were decided under a delegation.

The two agree on expiry, stop and revocation. `active_iff_of_grantCondition`
says what a grant that passes the predicate still lacks for `active` to return:
the control flag, the recovery epoch of the active generation, and the latest
continuity with the digest of what it was bound to.
-/
import AgentPlatform.Delegation.Tables
import AgentPlatform.Py.Sql
import AgentPlatform.Py.Transaction

namespace AgentPlatform

open Py

namespace Delegation

namespace Tables

variable (db : Tables)

/-! ### The extensions of a delegation -/

/-- `task_development.revision(connection, identity)`. -/
def revision (identity : String) : Option DevelopmentRevision :=
  db.revisions.find? fun r => r.delegationId = identity

/-- `task_development.stopped(c, identity)`. -/
def stopped (identity : String) : Bool :=
  (db.revision identity).isSome && decide (identity ∈ db.stops)

/-- `ORDER BY created_at,context_id`. -/
def caseBefore (a b : TaskCase) : Bool :=
  a.createdAt < b.createdAt ∨ (a.createdAt = b.createdAt ∧ a.contextId ≤ b.contextId)

def casesOf (identity : String) : List TaskCase :=
  (db.cases.filter fun c => c.delegationId = identity).mergeSort caseBefore

/-- `task_timeout_revision.current(c, identity)`. -/
def currentTimeout (identity : String) : Option TimeoutRevision :=
  db.timeouts.find? fun r => r.delegationId = identity

/-- Of two continuities, the one with the larger ordinal. -/
def laterContinuity (a b : IdentityContinuity) : IdentityContinuity :=
  if a.ordinal < b.ordinal then b else a

/-- The continuity with the largest ordinal, `ORDER BY ordinal DESC LIMIT 1`. -/
def lastContinuity : List IdentityContinuity → Option IdentityContinuity
  | [] => none
  | c :: cs => some (cs.foldl laterContinuity c)

/-- `task_identity_continuity.latest(c, identity)`. -/
def latest (identity : String) : Option IdentityContinuity :=
  lastContinuity (db.continuities.filter fun c => c.delegationId = identity)

/-- `ORDER BY purpose` of a delegation's ledgers. -/
def ledgersOf (identity : String) : List LedgerLink :=
  (db.ledgers.filter fun l => l.delegationId = identity).mergeSort
    fun a b => a.purpose.text ≤ b.purpose.text

/-- `binding(c, row)`: the digest of all that a continuity is approved for. -/
def binding (row : TaskDelegation) : String :=
  digest (.obj [("delegation", .str row.digest),
    ("cases", .arr ((db.casesOf row.delegationId).map (·.toJson))),
    ("development", (db.revision row.delegationId).elim .null (·.toJson)),
    ("timeout", (db.currentTimeout row.delegationId).elim .null (·.toJson)),
    ("ledgers", .arr ((db.ledgersOf row.delegationId).map (·.toJson)))])

/-! ### In Python -/

/-- Errors of the delegation, by reason code; `typeError` is a missing row that
a foreign key excludes. -/
inductive Refusal
  | authority (code : String)
  | typeError
  deriving DecidableEq

/-- `effective(c, row, generation, now)`: the latest continuity, if it still holds. -/
def effective (row : TaskDelegation) (generation : ActiveGeneration) (now : Datetime) :
    Except Refusal (Option IdentityContinuity) :=
  match db.latest row.delegationId with
  | none => .ok none
  | some result =>
    if result.generation ≠ generation.generation ∨ result.recoveryEpoch ≠ generation.recoveryEpoch
        ∨ result.expiresAt ≤ now then
      .error (.authority "TASK_CONTINUITY_INACTIVE")
    else
      match db.transitions.find? fun t => t.transitionId = result.transitionId with
      | none => .error .typeError
      | some transition =>
        if transition.generationDigest ≠ generation.generationDigest
            ∨ result.continuityId ∈ db.continuityRevocations
            ∨ result.bindingDigest ≠ db.binding row then
          .error (.authority "TASK_CONTINUITY_INACTIVE")
        else .ok (some result)

/-- The delegation joined with its control row. -/
def delegationRow (identity : String) : Option (TaskDelegation × Bool) := do
  let row ← db.delegations.find? fun d => d.delegationId = identity
  let control ← db.control.find? fun c => c.1 = identity
  return (row, control.2)

/-- `effective(...) if generation else None`. -/
def effectiveFor (row : TaskDelegation) (now : Datetime) :
    Except Refusal (Option IdentityContinuity) :=
  match db.activeGeneration with
  | none => .ok none
  | some generation => db.effective row generation now

/-- The condition under which `active` refuses a row it has read. -/
def inactive (identity : String) (row : TaskDelegation) (flag allowExpired : Bool)
    (continuity : Option IdentityContinuity) (now : Datetime) : Bool :=
  (row.expiresAt ≤ now && !allowExpired && (db.revision identity).isNone)
    || db.stopped identity || flag || decide (identity ∈ db.revocations)
    || match db.activeGeneration with
      | none => true
      | some generation =>
        (generation.generation != row.generation && continuity.isNone)
          || generation.recoveryEpoch != row.recoveryEpoch

/-- `active(connection, identity, allow_expired=...)`; returns the row with its
continuity. -/
def active (identity : String) (allowExpired : Bool) (now : Datetime) :
    Except Refusal (TaskDelegation × Option IdentityContinuity) := do
  let (row, flag) ← orRaise (.authority "TASK_DELEGATION_NOT_FOUND") (db.delegationRow identity)
  let continuity ← db.effectiveFor row now
  if db.inactive identity row flag allowExpired continuity now then
    .error (.authority "TASK_DELEGATION_INACTIVE")
  else .ok (row, continuity)

/-! ### In SQL -/

/-- The columns of a grant that the predicate reads. -/
structure GrantRow where
  decisionId : String
  createdAt : Datetime
  recoveryEpoch : Int

/-- The continuity that makes up for a changed generation, `EXISTS(SELECT 1 FROM
task_identity_continuities cc JOIN task_identity_transitions tr ...)`. -/
def continued (d : TaskDelegation) (g : GrantRow) (credential : Option String) (now : Datetime) :
    Bool :=
  db.continuities.any fun cc => db.transitions.any fun tr => db.activeGeneration.any fun ag =>
    tr.transitionId = cc.transitionId && cc.delegationId = d.delegationId
      && cc.generation = ag.generation && cc.recoveryEpoch = ag.recoveryEpoch
      && tr.generationDigest = ag.generationDigest && decide (now < cc.expiresAt)
      && decide (cc.createdAt ≤ g.createdAt) && some cc.subjectCredentialId = credential
      && !(db.continuities.any fun nx =>
        nx.delegationId = cc.delegationId && decide (cc.ordinal < nx.ordinal))
      && !decide (cc.continuityId ∈ db.continuityRevocations)

def generationMismatch (d : TaskDelegation) (g : GrantRow) (credential : Option String)
    (now : Datetime) : Truth :=
  .not (.or (.compare (fun ag => d.generation == ag.generation) db.activeGeneration)
    (some (db.continued d g credential now)))

/-- What makes a delegation unusable for the grant. -/
def unusable (d : TaskDelegation) (g : GrantRow) (credential : Option String) (now : Datetime) :
    Truth :=
  .or (some (decide (d.expiresAt ≤ now)
      && !(db.revisions.any fun v => v.delegationId = d.delegationId)))
    (.or (some (decide (d.delegationId ∈ db.stops)))
      (.or (some (decide (d.delegationId ∈ db.revocations)))
        (.or (db.generationMismatch d g credential now)
          (some (d.recoveryEpoch != g.recoveryEpoch)))))

/-- `grant_condition(connection, credential_id)` of one grant: no delegation
that its decision belongs to is unusable. -/
def grantCondition (credential : Option String) (now : Datetime) (g : GrantRow) : Bool :=
  !(db.decisions.any fun td => db.delegations.any fun d =>
    td.1 = g.decisionId && td.2 = d.delegationId
      && db.unusable d g credential now == some true)

/-! ### What the two have in common -/

/-- The latest continuity, where there is one, is of the active generation,
recovery epoch and digest, has neither expired nor been revoked, and was
approved for what the delegation still consists of. -/
def Continuous (row : TaskDelegation) (generation : ActiveGeneration) (now : Datetime) : Prop :=
  ∀ c, db.latest row.delegationId = some c →
    c.generation = generation.generation ∧ c.recoveryEpoch = generation.recoveryEpoch
      ∧ now < c.expiresAt
      ∧ (∃ t, (db.transitions.find? fun t => t.transitionId = c.transitionId) = some t
        ∧ t.generationDigest = generation.generationDigest)
      ∧ c.continuityId ∉ db.continuityRevocations ∧ c.bindingDigest = db.binding row

variable {db} {row : TaskDelegation} {generation : ActiveGeneration} {now : Datetime}
  {identity : String} {g : GrantRow} {credential : Option String}

/-- `effective` returns the latest continuity or raises. -/
theorem effective_eq_ok {o : Option IdentityContinuity} :
    db.effective row generation now = .ok o ↔
      o = db.latest row.delegationId ∧ db.Continuous row generation now := by
  unfold effective Continuous
  cases h : db.latest row.delegationId with
  | none => simp [eq_comm]
  | some c =>
    simp only [Option.some.injEq, forall_eq']
    cases ht : db.transitions.find? fun t => t.transitionId = c.transitionId with
    | none => simp [ite_error_eq_ok']
    | some t =>
      simp only [ite_error_eq_ok', not_or, ne_eq, not_not, Datetime.not_le, Option.some.injEq,
        exists_eq_left', Except.ok.injEq]
      constructor
      · rintro ⟨⟨hg, he, hx⟩, ⟨hd, hr, hb⟩, rfl⟩
        exact ⟨rfl, hg, he, hx, hd, hr, hb⟩
      · rintro ⟨rfl, hg, he, hx, hd, hr, hb⟩
        exact ⟨⟨hg, he, hx⟩, ⟨hd, hr, hb⟩, rfl⟩

/-- A delegation that the decision of a passing grant belongs to is not unusable. -/
theorem not_unusable (hpass : db.grantCondition credential now g = true)
    (hdec : (g.decisionId, identity) ∈ db.decisions)
    (hrow : (db.delegations.find? fun d => d.delegationId = identity) = some row) :
    db.unusable row g credential now ≠ some true := by
  intro hun
  have hid : row.delegationId = identity := by simpa using List.find?_some hrow
  rw [grantCondition, Bool.not_eq_true', List.any_eq_false] at hpass
  apply hpass _ hdec
  rw [List.any_eq_true]
  exact ⟨row, List.mem_of_find?_eq_some hrow, by simp [hid, hun]⟩

/-- What the predicate has checked of the delegation of a passing grant. -/
theorem of_not_unusable (h : db.unusable row g credential now ≠ some true) :
    (row.expiresAt ≤ now → (db.revision row.delegationId).isSome = true)
      ∧ row.delegationId ∉ db.stops ∧ row.delegationId ∉ db.revocations
      ∧ ∀ ag, db.activeGeneration = some ag →
        row.generation = ag.generation ∨ (db.latest row.delegationId).isSome = true := by
  rw [unusable, Ne, Truth.some_or, Truth.some_or, Truth.some_or, Truth.or_eq_true] at h
  simp only [not_or] at h
  obtain ⟨hexp, hstop, hrev, hgen, -⟩ := h
  refine ⟨fun hle => ?_, by simpa using hstop, by simpa using hrev, fun ag hag => ?_⟩
  · simp only [hle, decide_true, Bool.true_and, Bool.not_eq_true', Bool.not_eq_false,
      List.any_eq_true, decide_eq_true_eq] at hexp
    simpa [revision, List.find?_isSome] using hexp
  · by_contra hno
    simp only [not_or, Bool.not_eq_true, Option.isSome_eq_false_iff, Option.isNone_iff_eq_none]
      at hno
    obtain ⟨hne, hnone⟩ := hno
    apply hgen
    rw [generationMismatch, Truth.not_eq_true, Truth.or_eq_false, hag]
    refine ⟨by simpa [Truth.compare] using hne, ?_⟩
    -- without any continuity row the `EXISTS` finds nothing
    have hnil : (db.continuities.filter fun c => c.delegationId = row.delegationId) = [] := by
      unfold latest at hnone
      cases hl : db.continuities.filter fun c => c.delegationId = row.delegationId with
      | nil => rfl
      | cons c cs =>
        rw [hl] at hnone
        cases hnone
    rw [Option.some_inj, continued, List.any_eq_false]
    intro cc hcc
    have hcc' : cc.delegationId ≠ row.delegationId := by
      simpa using List.filter_eq_nil_iff.mp hnil cc hcc
    simp [hcc']

/-- `active` returns exactly where nothing speaks against the delegation. -/
theorem active_isOk :
    (db.active identity false now).isOk = true ↔
      ∃ row, db.delegationRow identity = some (row, false) ∧
        ∃ generation, db.activeGeneration = some generation ∧
          generation.recoveryEpoch = row.recoveryEpoch ∧
          (generation.generation = row.generation ∨ (db.latest row.delegationId).isSome = true) ∧
          db.Continuous row generation now ∧
          (row.expiresAt ≤ now → (db.revision identity).isSome = true) ∧
          db.stopped identity = false ∧ identity ∉ db.revocations := by
  constructor
  · intro h
    obtain ⟨r, hr⟩ := exists_of_isOk h
    obtain ⟨⟨row, flag⟩, hrow, hr⟩ := bind_eq_ok.mp hr
    rw [orRaise_eq_ok] at hrow
    obtain ⟨continuity, hc, hr⟩ := bind_eq_ok.mp hr
    obtain ⟨hin, -⟩ := ite_error_eq_ok'.mp hr
    simp only [inactive, Bool.or_eq_true, not_or, Bool.not_eq_true] at hin
    obtain ⟨⟨⟨⟨hexp, hstop⟩, hflag⟩, hrev⟩, hgen⟩ := hin
    cases hag : db.activeGeneration with
    | none =>
      rw [hag] at hgen
      cases hgen
    | some generation =>
      simp only [hag, Bool.or_eq_false_iff, bne_eq_false_iff_eq, Bool.and_eq_false_iff,
        Option.isNone_eq_false_iff] at hgen
      rw [effectiveFor, hag] at hc
      obtain ⟨rfl, hcont⟩ := effective_eq_ok.mp hc
      refine ⟨row, hflag ▸ hrow, generation, rfl, hgen.2, hgen.1, hcont, fun hle => ?_, hstop, ?_⟩
      · simpa [hle] using hexp
      · simpa using hrev
  · rintro ⟨row, hrow, generation, hag, hepoch, hgen, hcont, hexp, hstop, hrev⟩
    have hc : db.effectiveFor row now = .ok (db.latest row.delegationId) := by
      rw [effectiveFor, hag]
      exact effective_eq_ok.mpr ⟨rfl, hcont⟩
    have hin : db.inactive identity row false false (db.latest row.delegationId) now = false := by
      have h1 : (decide (row.expiresAt ≤ now) && !false && (db.revision identity).isNone) = false := by
        by_cases hle : row.expiresAt ≤ now
        · obtain ⟨r, hr⟩ := Option.isSome_iff_exists.mp (hexp hle)
          simp [hr]
        · simp [hle]
      have h2 : decide (identity ∈ db.revocations) = false := by simpa using hrev
      simp only [inactive, h1, h2, hstop, hag, Bool.false_or, Bool.or_eq_false_iff,
        bne_eq_false_iff_eq, Bool.and_eq_false_iff, Option.isNone_eq_false_iff]
      exact ⟨hgen, hepoch⟩
    have hok : db.active identity false now = .ok (row, db.latest row.delegationId) := by
      show (orRaise _ (db.delegationRow identity) >>= _) = _
      rw [hrow]
      show (db.effectiveFor row now >>= _) = _
      rw [hc]
      show (if _ then _ else _) = _
      rw [if_neg (by simp [hin])]
    rw [hok]
    rfl

/-- **What a passing grant lacks.** A grant that the SQL predicate lets through
belongs to a delegation that `active` accepts exactly when the delegation's
control flag is off, the active generation is of the delegation's recovery
epoch, and its latest continuity holds, with the digest of what it binds. -/
theorem active_iff_of_grantCondition (db : Tables) (credential : Option String) (now : Datetime)
    (g : GrantRow) (identity : String) (hdec : (g.decisionId, identity) ∈ db.decisions)
    (hpass : db.grantCondition credential now g = true) :
    (db.active identity false now).isOk = true ↔
      ∃ row, db.delegationRow identity = some (row, false) ∧
        ∃ generation, db.activeGeneration = some generation ∧
          generation.recoveryEpoch = row.recoveryEpoch ∧ db.Continuous row generation now := by
  rw [active_isOk]
  constructor
  · rintro ⟨row, hrow, generation, hag, hepoch, -, hcont, -⟩
    exact ⟨row, hrow, generation, hag, hepoch, hcont⟩
  · rintro ⟨row, hrow, generation, hag, hepoch, hcont⟩
    have hfind : (db.delegations.find? fun d => d.delegationId = identity) = some row := by
      simp only [delegationRow, Option.bind_eq_bind, Option.bind_eq_some_iff] at hrow
      obtain ⟨row', hrow', control, -, heq⟩ := hrow
      rw [hrow', (Prod.mk.inj (Option.some.inj heq)).1]
    have hid : row.delegationId = identity := by simpa using List.find?_some hfind
    obtain ⟨hexp, hstop, hrev, hgen⟩ := of_not_unusable (not_unusable hpass hdec hfind)
    rw [hid] at hexp hstop hrev
    refine ⟨row, hrow, generation, hag, hepoch, (hgen generation hag).imp_left Eq.symm, hcont, hexp,
      ?_, hrev⟩
    simp [stopped, hstop]

/-! ### After a recovery -/

theorem sampleExpiry_inRange : 2000 < maxMicros := by decide

/-- A delegation approved in the first recovery epoch, with one decided grant,
while the active generation is of epoch `epoch`. -/
def sample (epoch : Int) : Tables :=
  let limits : Limits :=
    { ledgerId := "ledger", configurationDigest := "", profileRevisionId := "profile-1",
      profileDigest := "", modelTarget := "model", calls := 1, inputTokens := 1, outputTokens := 1,
      costMicrousd := 1 }
  let delegation : TaskDelegation :=
    { delegationId := "task-delegation:1", taskId := "task", tenantId := "tenant",
      securityDomain := "domain", subjectId := "subject", rootContextId := "context",
      issuerId := "issuer", generation := 1, recoveryEpoch := 1, expiresAt := ⟨2000, sampleExpiry_inRange⟩,
      digest := "", understanding := limits, planning := limits }
  { activeGeneration := some ⟨1, "", epoch⟩, delegations := [delegation],
    control := [("task-delegation:1", false)], revocations := [],
    decisions := [("grant-decision-1", "task-delegation:1")], ledgers := [], resources := [],
    revisions := [], stops := [], admissions := [], cases := [], caseProblems := [],
    timeouts := [], transitions := [], continuities := [], continuityRevocations := [],
    drafts := [], plans := [], results := [], receipts := [] }

def sampleGrant : GrantRow := ⟨"grant-decision-1", ⟨1000, by decide⟩, 1⟩

/-- In the epoch of its approval the grant passes and the delegation is active. -/
theorem active_iff_of_grantCondition_sample :
    (sample 1).grantCondition none ⟨1500, by decide⟩ sampleGrant = true ∧
      (((sample 1).active "task-delegation:1" false ⟨1500, by decide⟩).isOk = true ↔
        ∃ row, (sample 1).delegationRow "task-delegation:1" = some (row, false) ∧
          ∃ generation, (sample 1).activeGeneration = some generation ∧
            generation.recoveryEpoch = row.recoveryEpoch ∧
            (sample 1).Continuous row generation ⟨1500, by decide⟩) :=
  ⟨by decide +kernel, active_iff_of_grantCondition (sample 1) none ⟨1500, by decide⟩ sampleGrant
    "task-delegation:1" (by decide) (by decide +kernel)⟩

/-- A recovery raises the active epoch. The predicate compares the delegation's
epoch with the grant's own and lets the old grant through; `active` raises. -/
theorem grantCondition_passes_inactive :
    ¬ ∀ (db : Tables) (credential : Option String) (now : Datetime) (g : GrantRow)
        (identity : String), (g.decisionId, identity) ∈ db.decisions →
        db.grantCondition credential now g = true → (db.active identity false now).isOk = true := by
  intro h
  have hok := h (sample 2) none ⟨1500, by decide⟩ sampleGrant "task-delegation:1" (by decide)
    (by decide +kernel)
  revert hok
  decide +kernel

end Tables

end Delegation

end AgentPlatform
