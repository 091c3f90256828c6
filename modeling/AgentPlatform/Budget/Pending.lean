/-
AgentPlatform/Budget/Pending.lean

At most one open provider call per delegation, apart from permitted unknowns.

The guard of a reservation locks the delegation and keeps the lock to the end, so
that the open reservations which it has seen are still all there are when the new
one commits. For the same reason whatever made the delegation active is still there
(`SameFor`): a revocation, a stop and a change of its continuity lock the delegation
too, and an activation locks the generation.

Reservations of one ledger have distinct invocations. Between the two ledgers
this rests on how the owners name them (`isDraftId`): those of drafts carry a prefix
that those of plans do not have.
-/
import AgentPlatform.Budget.Caps

namespace AgentPlatform

open Py

namespace Budget

open Delegation (Admission LedgerLink TaskDelegation OnLedgerOf)

/-! ### What `active` depends on -/

/-- The two databases agree on everything that `active` reads for `d`. -/
structure SameFor (d : String) (db db' : Delegation.Tables) : Prop where
  row : db'.delegationRow d = db.delegationRow d
  generation : db'.activeGeneration = db.activeGeneration
  revision : db'.revision d = db.revision d
  stop : d ∈ db'.stops ↔ d ∈ db.stops
  revocation : d ∈ db'.revocations ↔ d ∈ db.revocations
  cases : db'.casesOf d = db.casesOf d
  timeout : db'.currentTimeout d = db.currentTimeout d
  ledgers : db'.ledgersOf d = db.ledgersOf d
  latest : db'.latest d = db.latest d
  transitions : db'.transitions = db.transitions
  continuity : ∀ c, db.latest d = some c →
    (c.continuityId ∈ db'.continuityRevocations ↔ c.continuityId ∈ db.continuityRevocations)

section Same

variable {d : String} {db db' : Delegation.Tables} {row : TaskDelegation} {now : Datetime}

theorem delegationRow_id {flag : Bool} (h : db.delegationRow d = some (row, flag)) :
    row.delegationId = d := by
  simp only [Delegation.Tables.delegationRow, Option.bind_eq_bind, Option.bind_eq_some_iff] at h
  obtain ⟨row', hfind, control, -, heq⟩ := h
  rw [← (Prod.mk.inj (Option.some.inj heq)).1]
  simpa using List.find?_some hfind

theorem SameFor.effectiveFor (h : SameFor d db db') (hrow : row.delegationId = d) :
    db'.effectiveFor row now = db.effectiveFor row now := by
  have hbinding : db'.binding row = db.binding row := by
    simp only [Delegation.Tables.binding, hrow, h.cases, h.revision, h.timeout, h.ledgers]
  unfold Delegation.Tables.effectiveFor
  rw [h.generation]
  cases db.activeGeneration with
  | none => rfl
  | some generation =>
    simp only [Delegation.Tables.effective, hrow, h.latest, h.transitions, hbinding]
    cases hl : db.latest d with
    | none => rfl
    | some c => simp only [h.continuity c hl]

/-- `active` answers the same. -/
theorem SameFor.active (h : SameFor d db db') :
    db'.active d false now = db.active d false now := by
  unfold Delegation.Tables.active
  rw [h.row]
  cases hrow : db.delegationRow d with
  | none => rfl
  | some r =>
    obtain ⟨row, flag⟩ := r
    have hid := delegationRow_id hrow
    have hin : ∀ o, db'.inactive d row flag false o now = db.inactive d row flag false o now := by
      intro o
      simp only [Delegation.Tables.inactive, Delegation.Tables.stopped, h.revision, h.stop,
        h.revocation, h.generation]
    show (db'.effectiveFor row now >>= _) = (db.effectiveFor row now >>= _)
    rw [h.effectiveFor hid]
    cases db.effectiveFor row now with
    | error e => rfl
    | ok o =>
      show (if _ then _ else _) = (if _ then _ else _)
      rw [hin o]

end Same

/-! ### Changes of other delegations -/

/-- Ids of invocations that the draft owner makes. -/
def isDraftId (invocationId : String) : Bool := invocationId.startsWith "draft-invocation:"

def linkKey (l : LedgerLink) : LedgerKey := ⟨l.tenantId, l.securityDomain, l.ledgerId⟩

/-- What the keys of the tables and the owners' ids promise. -/
structure WellKeyed (db : Delegation.Tables) : Prop where
  link : ∀ {l}, l ∈ db.ledgers → Point.linkOf db (linkKey l) = some l
  purpose : ∀ {l l'}, l ∈ db.ledgers → l' ∈ db.ledgers → l.delegationId = l'.delegationId →
    l.purpose = l'.purpose → l = l'
  continuity : ∀ {c c'}, c ∈ db.continuities → c' ∈ db.continuities →
    c.continuityId = c'.continuityId → c = c'
  draft : ∀ {v}, v ∈ db.drafts → isDraftId v.record.invocationId = true
  plan : ∀ {i}, i ∈ db.plans → isDraftId i.invocationId = false

section Writes

variable {d : String} {db : Delegation.Tables}

/-- A fold that always keeps one of two ends with one of the list. -/
theorem foldl_mem {α : Type*} {f : α → α → α} (hf : ∀ x y, f x y = x ∨ f x y = y) (l : List α)
    (x : α) : l.foldl f x ∈ x :: l := by
  induction l generalizing x with
  | nil => exact List.mem_cons_self
  | cons y l ih =>
    rw [List.foldl_cons]
    rcases List.mem_cons.mp (ih (f x y)) with hx | hx
    · rw [hx]
      rcases hf x y with h | h <;> rw [h]
      · exact List.mem_cons_self
      · exact List.mem_cons_of_mem _ List.mem_cons_self
    · exact List.mem_cons_of_mem _ (List.mem_cons_of_mem _ hx)

theorem lastContinuity_mem {cs : List Delegation.IdentityContinuity}
    {c : Delegation.IdentityContinuity}
    (h : Delegation.Tables.lastContinuity cs = some c) : c ∈ cs := by
  cases cs with
  | nil => cases h
  | cons c₀ cs =>
    rw [Delegation.Tables.lastContinuity, Option.some_inj] at h
    rw [← h]
    refine foldl_mem (fun x y => ?_) cs c₀
    unfold Delegation.Tables.laterContinuity
    split
    · exact .inr rfl
    · exact .inl rfl

theorem latest_spec {c : Delegation.IdentityContinuity} (h : db.latest d = some c) :
    c ∈ db.continuities ∧ c.delegationId = d := by
  have hmem := lastContinuity_mem h
  rw [List.mem_filter] at hmem
  exact ⟨hmem.1, of_decide_eq_true hmem.2⟩

theorem find?_concat_of_not {α : Type*} {l : List α} {p : α → Bool} {x : α} (h : p x = false) :
    (l ++ [x]).find? p = l.find? p := by
  rw [List.find?_append, List.find?_singleton, h]
  cases l.find? p <;> rfl

theorem filter_concat_of_not {α : Type*} {l : List α} (p : α → Bool) {x : α} (h : p x = false) :
    (l ++ [x]).filter p = l.filter p := by
  rw [List.filter_append, List.filter_cons_of_neg (by simp [h]), List.filter_nil, List.append_nil]

theorem mem_insert_of_ne {l : List String} {x y : String} (h : y ≠ x) :
    (y ∈ if x ∈ l then l else l ++ [x]) ↔ y ∈ l := by
  split
  · rfl
  · simp [h]

/-- Revoking another delegation leaves the control row alone. -/
theorem delegationRow_revoke {id : String} (h : id ≠ d) :
    ((Write.revoke id).apply db).delegationRow d = db.delegationRow d := by
  have hcontrol : (db.control.map fun c => if c.1 = id then (c.1, true) else c).find?
      (fun c => c.1 = d) = db.control.find? fun c => c.1 = d := by
    induction db.control with
    | nil => rfl
    | cons c cs ih =>
      rw [List.map_cons]
      by_cases hc : c.1 = id
      · have hd : c.1 ≠ d := fun hd => h (hc.symm.trans hd)
        rw [if_pos hc, List.find?_cons_of_neg (by simpa using hd),
          List.find?_cons_of_neg (by simpa using hd)]
        exact ih
      · rw [if_neg hc, List.find?_cons, List.find?_cons]
        split
        · rfl
        · exact ih
  simp only [Delegation.Tables.delegationRow, Write.apply, hcontrol]

def OwnContinuity (db : Delegation.Tables) (w : Write) : Prop :=
  ∀ id cid, w = .revokeContinuity id cid →
    ∃ c ∈ db.continuities, c.continuityId = cid ∧ c.delegationId = id

theorem ownContinuity_of_fits {w : Write} (h : w.fits db = true) : OwnContinuity db w := by
  rintro id cid rfl
  simp only [Write.fits, Option.any_eq_true, decide_eq_true_eq] at h
  obtain ⟨c, hc, hid⟩ := h
  obtain ⟨hmem, hd⟩ := latest_spec hc
  exact ⟨c, hmem, hid, hd⟩

/-- A change of another delegation is none of this one. -/
theorem sameFor_write (hk : WellKeyed db) {w : Write} {id : String} (hw : w.delegationId = some id)
    (hne : id ≠ d) (hown : OwnContinuity db w) : SameFor d db (w.apply db) := by
  have hfresh : ∀ id', id' = id → (decide (id' = d)) = false := by
    intro id' h
    simpa [h] using hne
  cases w with
  | revoke id' =>
    cases hw
    exact ⟨delegationRow_revoke hne, rfl, rfl, Iff.rfl, mem_insert_of_ne (Ne.symm hne), rfl, rfl,
      rfl, rfl, rfl, fun _ _ => Iff.rfl⟩
  | stop id' =>
    cases hw
    exact ⟨rfl, rfl, rfl, mem_insert_of_ne (Ne.symm hne), Iff.rfl, rfl, rfl, rfl, rfl, rfl,
      fun _ _ => Iff.rfl⟩
  | revise r =>
    cases hw
    exact ⟨rfl, rfl, find?_concat_of_not (hfresh _ rfl), Iff.rfl, Iff.rfl, rfl, rfl, rfl, rfl, rfl,
      fun _ _ => Iff.rfl⟩
  | diagnose a => exact ⟨rfl, rfl, rfl, Iff.rfl, Iff.rfl, rfl, rfl, rfl, rfl, rfl, fun _ _ => Iff.rfl⟩
  | enroll c =>
    cases hw
    refine ⟨rfl, rfl, rfl, Iff.rfl, Iff.rfl, ?_, rfl, rfl, rfl, rfl, fun _ _ => Iff.rfl⟩
    show List.mergeSort ((db.cases ++ [c]).filter fun c => c.delegationId = d) _ = _
    rw [filter_concat_of_not (fun c : Delegation.TaskCase => decide (c.delegationId = d))
      (hfresh _ rfl)]
    rfl
  | reviseTimeout t =>
    cases hw
    exact ⟨rfl, rfl, rfl, Iff.rfl, Iff.rfl, rfl, find?_concat_of_not (hfresh _ rfl), rfl, rfl, rfl,
      fun _ _ => Iff.rfl⟩
  | approveContinuity c =>
    cases hw
    refine ⟨rfl, rfl, rfl, Iff.rfl, Iff.rfl, rfl, rfl, rfl, ?_, rfl, fun _ _ => Iff.rfl⟩
    show Delegation.Tables.lastContinuity
      ((db.continuities ++ [c]).filter fun c => c.delegationId = d) = _
    rw [filter_concat_of_not (fun c : Delegation.IdentityContinuity => decide (c.delegationId = d))
      (hfresh _ rfl)]
    rfl
  | revokeContinuity id' cid =>
    cases hw
    refine ⟨rfl, rfl, rfl, Iff.rfl, Iff.rfl, rfl, rfl, rfl, rfl, rfl, fun c hc => ?_⟩
    apply mem_insert_of_ne
    -- the revoked continuity is one of the other delegation
    rintro rfl
    obtain ⟨c', hmem', hid, hd'⟩ := hown _ _ rfl
    obtain ⟨hmem, hd⟩ := latest_spec hc
    rw [hk.continuity hmem' hmem hid, hd] at hd'
    exact hne hd'.symm
  | bindProblem p =>
    exact ⟨rfl, rfl, rfl, Iff.rfl, Iff.rfl, rfl, rfl, rfl, rfl, rfl, fun _ _ => Iff.rfl⟩
  | activate g t => cases hw

/-- No change takes a delegation or a link away. -/
theorem ledgers_write (w : Write) : (w.apply db).ledgers = db.ledgers := by
  cases w <;> rfl

end Writes

/-! ### What surrounds the delegations -/

/-- Anything else that may happen: drafts, plans, results, receipts and the
resources of tasks change as they like, new delegations are approved with their
own ledgers, and new policies are made. -/
structure Aside (db db' : Database) : Prop where
  reservations : db'.budget.reservations = db.budget.reservations
  settlements : db'.budget.settlements = db.budget.settlements
  generation : db'.delegation.activeGeneration = db.delegation.activeGeneration
  revocations : db'.delegation.revocations = db.delegation.revocations
  revisions : db'.delegation.revisions = db.delegation.revisions
  stops : db'.delegation.stops = db.delegation.stops
  cases : db'.delegation.cases = db.delegation.cases
  timeouts : db'.delegation.timeouts = db.delegation.timeouts
  transitions : db'.delegation.transitions = db.delegation.transitions
  continuities : db'.delegation.continuities = db.delegation.continuities
  continuityRevocations :
    db'.delegation.continuityRevocations = db.delegation.continuityRevocations
  row : ∀ {id r}, db.delegation.delegationRow id = some r →
    db'.delegation.delegationRow id = some r
  ledgers : ∀ {id r}, db.delegation.delegationRow id = some r →
    (db'.delegation.ledgers.filter fun l => l.delegationId = id)
      = db.delegation.ledgers.filter fun l => l.delegationId = id
  link : ∀ {key l}, Point.linkOf db.delegation key = some l →
    Point.linkOf db'.delegation key = some l

theorem Aside.sameFor {db db' : Database} (h : Aside db db') {d : String}
    {r : TaskDelegation × Bool} (hd : db.delegation.delegationRow d = some r) :
    SameFor d db.delegation db'.delegation where
  row := (h.row hd).trans hd.symm
  generation := h.generation
  revision := by rw [Delegation.Tables.revision, h.revisions, Delegation.Tables.revision]
  stop := by rw [h.stops]
  revocation := by rw [h.revocations]
  cases := by rw [Delegation.Tables.casesOf, h.cases, Delegation.Tables.casesOf]
  timeout := by
    rw [Delegation.Tables.currentTimeout, h.timeouts, Delegation.Tables.currentTimeout]
  ledgers := by rw [Delegation.Tables.ledgersOf, h.ledgers hd, Delegation.Tables.ledgersOf]
  latest := by rw [Delegation.Tables.latest, h.continuities, Delegation.Tables.latest]
  transitions := h.transitions
  continuity := by
    intro c _
    rw [h.continuityRevocations]

/-- A reservation is on a ledger of `d` before and after. -/
theorem onLedgerOf_congr {db db' : Delegation.Tables} {d : String} {r : Reservation}
    (h : (db'.ledgers.filter fun l => l.delegationId = d)
      = db.ledgers.filter fun l => l.delegationId = d) :
    OnLedgerOf db' d r ↔ OnLedgerOf db d r := by
  have hmem : ∀ l, l.delegationId = d → (l ∈ db'.ledgers ↔ l ∈ db.ledgers) := by
    intro l hl
    have hiff : (l ∈ db'.ledgers.filter fun l => l.delegationId = d)
        ↔ (l ∈ db.ledgers.filter fun l => l.delegationId = d) := by rw [h]
    simpa [List.mem_filter, hl] using hiff
  constructor
  · rintro ⟨l, hl, hd, hkey⟩
    exact ⟨l, (hmem l hd).mp hl, hd, hkey⟩
  · rintro ⟨l, hl, hd, hkey⟩
    exact ⟨l, (hmem l hd).mpr hl, hd, hkey⟩

/-! ### The outline -/

/-- The guard has let the call through: the ledger is the delegation's, and the
delegation was active when the clock was read, and still is for that time. -/
structure Admitted (p : Public Database Event Datetime) (c : ReserveCall) (a : Admission)
    (at_ : Datetime) : Prop where
  application : a.application = c.application
  link : ∃ l, Point.linkOf p.db.delegation c.account.key = some l
    ∧ l.delegationId = a.row.delegationId ∧ l.purpose = a.purpose
  active : (p.db.delegation.active a.row.delegationId false at_).isOk = true
  time : at_ ≤ p.clock

/-- The invocation is named as those of its purpose are. -/
def Named (purpose : Delegation.Purpose) (invocationId : String) : Prop :=
  isDraftId invocationId = true ↔ purpose = .understanding

/-- No open reservation of the delegation blocks the call. -/
def Unblocked (db : Database) (a : Admission) : Prop :=
  ∀ r ∈ db.budget.reservations, Delegation.blocks db a r = false

/-- A call past the guard: admitted with nothing blocking it, or on a ledger that
is none of `d`. -/
def Cleared (d : String) (p : Public Database Event Datetime) (c : ReserveCall) :
    Option (Admission × Datetime) → Prop
  | some (a, at_) => Admitted p c a at_ ∧ Named a.purpose c.invocation.invocationId
      ∧ (a.row.delegationId = d → Unblocked p.db a)
  | none => ∀ r : Reservation, r.key = c.account.key → ¬ OnLedgerOf p.db.delegation d r

/-- What a call knows at each point, with regard to the delegation `d`. -/
def Aware (d : String) (p : Public Database Event Datetime) : Point → Prop
  | .linked c l => Point.linkOf p.db.delegation c.account.key = some l
  | .advised c l => Point.linkOf p.db.delegation c.account.key = some l
  | .admitted c l row at_ => Point.linkOf p.db.delegation c.account.key = some l
      ∧ row.delegationId = l.delegationId
      ∧ (p.db.delegation.active row.delegationId false at_).isOk = true ∧ at_ ≤ p.clock
  | .checking c a at_ k => Admitted p c a at_
      ∧ (k = .pending → Named a.purpose c.invocation.invocationId)
  | .checked c a at_ => Cleared d p c (some (a, at_))
  | .guarded c o _ => Cleared d p c o
  | .locked c o _ pol => Cleared d p c o ∧ pol.key = c.account.key
  | .absent c o _ pol => Cleared d p c o ∧ pol.key = c.account.key
  | .counted c o _ pol _ _ => Cleared d p c o ∧ pol.key = c.account.key
  | .inserted c o pol => Cleared d p c o ∧ pol.key = c.account.key
      ∧ p.db.budget.reservationFree c.row = true
  | .written w => OwnContinuity p.db.delegation w
  | _ => True

/-- What holds of the committed rows: the delegation is there, the reservations
on its ledgers are named by purpose, and of two open ones the earlier was
permitted to the later, unless the later is one of `old`. -/
structure Orderly (d : String) (old : List Reservation) (p : Public Database Event Datetime) :
    Prop where
  row : ∃ r, p.db.delegation.delegationRow d = some r
  named : ∀ {r l}, r ∈ p.db.budget.reservations → l ∈ p.db.delegation.ledgers →
    l.delegationId = d → r.key = linkKey l → Named l.purpose r.invocationId
  pairs : ∀ {r₁ r₂}, [r₁, r₂].Sublist p.db.budget.reservations →
    OnLedgerOf p.db.delegation d r₁ → OnLedgerOf p.db.delegation d r₂ →
    p.db.budget.Unsettled r₁ → p.db.budget.Unsettled r₂ → r₂ ∈ old ∨
      ∃ c a at_, .reserved c (some (a, at_)) ∈ p.log ∧ c.row = r₂ ∧ a.row.delegationId = d
        ∧ r₁.invocationId ∈ a.permitted.ids

section Lemmas

variable {d : String} {p : Public Database Event Datetime} {c : ReserveCall} {a : Admission}
  {at_ : Datetime} {gone : Int → Bool}

/-! ### What the others leave alone -/

/-- A step that leaves the budget's rows, the links and what `active` reads in place. -/
structure Undisturbed (d : String) (db db' : Database) : Prop where
  reservations : db'.budget.reservations = db.budget.reservations
  settlements : db'.budget.settlements = db.budget.settlements
  ledgers : (db'.delegation.ledgers.filter fun l => l.delegationId = d)
    = db.delegation.ledgers.filter fun l => l.delegationId = d
  link : ∀ {key l}, Point.linkOf db.delegation key = some l →
    Point.linkOf db'.delegation key = some l

theorem Undisturbed.blocks {db db' : Database} (h : Undisturbed d db db')
    (ha : a.row.delegationId = d) (r : Reservation) :
    Delegation.blocks db' a r = Delegation.blocks db a r := by
  have hunsettled : db'.budget.Unsettled r ↔ db.budget.Unsettled r := by
    rw [Tables.Unsettled, Tables.Unsettled, Tables.settlementsOf, Tables.settlementsOf,
      h.settlements]
  have hon : OnLedgerOf db'.delegation d r ↔ OnLedgerOf db.delegation d r :=
    onLedgerOf_congr h.ledgers
  simp only [Delegation.blocks, ha, hunsettled, hon]

theorem Undisturbed.unblocked {db db' : Database} (h : Undisturbed d db db')
    (ha : a.row.delegationId = d) (hu : Unblocked db a) : Unblocked db' a := by
  intro r hr
  rw [h.reservations] at hr
  rw [h.blocks ha]
  exact hu r hr

theorem Undisturbed.named {db db' : Database} (h : Undisturbed d db db')
    (hn : ∀ {r l}, r ∈ db.budget.reservations → l ∈ db.delegation.ledgers →
      l.delegationId = d → r.key = linkKey l → Named l.purpose r.invocationId)
    {r : Reservation} {l : LedgerLink} (hr : r ∈ db'.budget.reservations)
    (hl : l ∈ db'.delegation.ledgers) (hd : l.delegationId = d) (hkey : r.key = linkKey l) :
    Named l.purpose r.invocationId := by
  have hl' : l ∈ db.delegation.ledgers.filter fun l => l.delegationId = d := by
    rw [← h.ledgers]
    exact List.mem_filter.mpr ⟨hl, decide_eq_true hd⟩
  rw [h.reservations] at hr
  exact hn hr (List.mem_of_mem_filter hl') hd hkey

/-- Such a step keeps the order, if the delegation stays. -/
theorem Orderly.undisturbed {old : List Reservation} {db' : Database} {log : List Event}
    (h : Orderly d old p) (hu : Undisturbed d p.db db')
    (hrow : ∃ r, db'.delegation.delegationRow d = some r) (hlog : p.log <+: log) :
    Orderly d old { p with db := db', log := log } where
  row := hrow
  named := hu.named h.named
  pairs := by
    intro r₁ r₂ hsub hon₁ hon₂ hun₁ hun₂
    replace hsub : [r₁, r₂].Sublist p.db.budget.reservations := hu.reservations ▸ hsub
    have hunsettled : ∀ r, db'.budget.Unsettled r → p.db.budget.Unsettled r := by
      intro r hr
      rw [Tables.Unsettled, Tables.settlementsOf, hu.settlements] at hr
      exact hr
    rcases h.pairs hsub ((onLedgerOf_congr hu.ledgers).mp hon₁)
      ((onLedgerOf_congr hu.ledgers).mp hon₂) (hunsettled r₁ hun₁) (hunsettled r₂ hun₂)
      with hold | ⟨c, a, at_, hmem, hrest⟩
    · exact .inl hold
    · exact .inr ⟨c, a, at_, hlog.subset hmem, hrest⟩

/-- What a change must leave in place for a call at `u`: links, the answer of
`active` for the delegation that the call has locked, what blocks it, and the
keys of the row it has inserted. -/
structure Respects (d : String) (db db' : Database) (u : Point) : Prop where
  link : ∀ {key l}, Point.linkOf db.delegation key = some l →
    Point.linkOf db'.delegation key = some l
  ledgers : (db'.delegation.ledgers.filter fun l => l.delegationId = d)
    = db.delegation.ledgers.filter fun l => l.delegationId = d
  active : ∀ {id at_}, (Lock.delegation id, LockMode.update) ∈ u.held →
    (Lock.generation, LockMode.share) ∈ u.held →
    (db.delegation.active id false at_).isOk = true →
    (db'.delegation.active id false at_).isOk = true
  unblocked : ∀ {a}, a.row.delegationId = d → (Lock.delegation d, LockMode.update) ∈ u.held →
    Unblocked db a → Unblocked db' a
  free : ∀ {c o pol}, u = .inserted c o pol → pol.key = c.account.key →
    db.budget.reservationFree c.row = true → db'.budget.reservationFree c.row = true
  continuities : ∀ {x}, x ∈ db.delegation.continuities → x ∈ db'.delegation.continuities

section Respected

variable {db' : Database} {log : List Event} {u : Point}

theorem Admitted.respects (h : Admitted p c a at_) (hr : Respects d p.db db' u)
    (hheld : ∀ x ∈ Point.guardLocks a, x ∈ u.held) :
    Admitted { p with db := db', log := log } c a at_ where
  application := h.application
  link := by
    obtain ⟨l, hl, hrest⟩ := h.link
    exact ⟨l, hr.link hl, hrest⟩
  active := hr.active (hheld _ (by simp [Point.guardLocks])) (hheld _ (by simp [Point.guardLocks]))
    h.active
  time := h.time

theorem Cleared.respects {o : Option (Admission × Datetime)} (h : Cleared d p c o)
    (hr : Respects d p.db db' u) (hheld : ∀ x ∈ Point.admissionLocks o, x ∈ u.held) :
    Cleared d { p with db := db', log := log } c o := by
  rcases o with - | ⟨a, at_⟩
  · intro r hkey hon
    exact h r hkey ((onLedgerOf_congr hr.ledgers).mp hon)
  · obtain ⟨hadm, hnamed, hun⟩ := h
    refine ⟨hadm.respects hr hheld, hnamed, fun ha => hr.unblocked ha ?_ (hun ha)⟩
    rw [← ha]
    exact hheld _ (by simp [Point.admissionLocks, Point.guardLocks])

/-- What a call knows survives every change that respects its locks. -/
theorem Aware.respects (h : Aware d p u) (hr : Respects d p.db db' u) :
    Aware d { p with db := db', log := log } u := by
  cases u with
  | linked c l => exact hr.link h
  | advised c l => exact hr.link h
  | admitted c l row at_ =>
    obtain ⟨hl, hid, hact, ht⟩ := h
    exact ⟨hr.link hl, hid, hr.active (by simp [Point.held]) (by simp [Point.held]) hact, ht⟩
  | checking c a at_ k => exact ⟨h.1.respects hr fun x hx => hx, h.2⟩
  | checked c a at_ =>
    have h' : Cleared d p c (some (a, at_)) := h
    exact h'.respects hr fun x hx => hx
  | guarded c o continuous => exact Cleared.respects h hr fun x hx => hx
  | locked c o continuous pol =>
    exact ⟨h.1.respects hr fun x hx => List.mem_cons_of_mem _ hx, h.2⟩
  | absent c o continuous pol =>
    exact ⟨h.1.respects hr fun x hx => List.mem_cons_of_mem _ hx, h.2⟩
  | counted c o continuous pol calls cost =>
    exact ⟨h.1.respects hr fun x hx => List.mem_cons_of_mem _ hx, h.2⟩
  | inserted c o pol =>
    obtain ⟨hclear, hpol, hfree⟩ := h
    refine ⟨hclear.respects hr ?_, hpol, hr.free rfl hpol hfree⟩
    intro x hx
    exact List.mem_cons_of_mem _ (List.mem_append_right _ hx)
  | written w =>
    intro id cid hw
    obtain ⟨x, hx, hrest⟩ := h id cid hw
    exact ⟨x, hr.continuities hx, hrest⟩
  | _ => exact trivial

end Respected

/-! ### The commits -/

section Commits

variable {old : List Reservation} {pol : Policy} {o : Option (Admission × Datetime)}

/-- A call that is past the guard and on a ledger of `d` was admitted for `d`. -/
theorem Cleared.admitted_of_on (h : Cleared d p c o) (hk : WellKeyed p.db.delegation)
    (hon : OnLedgerOf p.db.delegation d c.row) :
    ∃ a at_ l, o = some (a, at_) ∧ l ∈ p.db.delegation.ledgers ∧ c.account.key = linkKey l
      ∧ l.delegationId = d ∧ a.row.delegationId = d ∧ l.purpose = a.purpose := by
  obtain ⟨l, hl, hd, hkey⟩ := hon
  rcases o with - | ⟨a, at_⟩
  · exact absurd ⟨l, hl, hd, hkey⟩ (h c.row rfl)
  · obtain ⟨l', hl', hid, hpurpose⟩ := h.1.link
    have heq : l = l' := by
      have hfound := hk.link hl
      rw [show linkKey l = c.account.key from hkey.symm, hl'] at hfound
      exact (Option.some.inj hfound).symm
    cases heq
    exact ⟨a, at_, l, rfl, hl, hkey, hd, hid.symm.trans hd, hpurpose⟩

/-- An invocation is named for one purpose only. -/
theorem Named.purpose_eq {x y : Delegation.Purpose} {id : String} (hx : Named x id)
    (hy : Named y id) : x = y := by
  have hiff : x = .understanding ↔ y = .understanding := hx.symm.trans hy
  cases x <;> cases y <;> simp_all

/-- The last two of a longer list. -/
theorem pair_sublist_concat {α : Type*} {l : List α} {x y z : α}
    (h : [x, y].Sublist (l ++ [z])) : [x, y].Sublist l ∨ (y = z ∧ x ∈ l) := by
  obtain ⟨l₁, l₂, heq, h₁, h₂⟩ := List.sublist_append_iff.mp h
  cases l₁ with
  | nil =>
    have hlen := h₂.length_le
    rw [List.nil_append] at heq
    rw [← heq] at hlen
    simp at hlen
  | cons x' l₁ =>
    rw [List.cons_append, List.cons.injEq] at heq
    obtain ⟨rfl, heq⟩ := heq
    cases l₁ with
    | nil =>
      rw [List.nil_append] at heq
      cases heq
      have hy : y ∈ [z] := h₂.subset List.mem_cons_self
      exact .inr ⟨List.mem_singleton.mp hy, h₁.subset List.mem_cons_self⟩
    | cons y' l₁ =>
      rw [List.cons_append, List.cons.injEq] at heq
      obtain ⟨rfl, heq⟩ := heq
      have hnil : l₁ = [] := (List.append_eq_nil_iff.mp heq.symm).1
      exact .inl (hnil ▸ h₁)

/-- **A reservation keeps the order.** Every other open one was permitted to it. -/
theorem Orderly.reserve (h : Orderly d old p) (hk : WellKeyed p.db.delegation)
    (hclear : Cleared d p c o) (hfree : p.db.budget.reservationFree c.row = true) :
    Orderly d old (p.publish (fun db => { db with budget := db.budget.addReservation c.row })
      (.reserved c o)) where
  row := h.row
  named := by
    intro r l hr hl hd hkey
    rcases List.mem_append.mp hr with hr | hr
    · exact h.named hr hl hd hkey
    · rw [List.mem_singleton.mp hr] at hkey ⊢
      obtain ⟨a, at_, l', rfl, hl', hkey', hd', -, hpurpose⟩ :=
        hclear.admitted_of_on hk ⟨l, hl, hd, hkey⟩
      have heq : l = l' := by
        have hfound := hk.link hl
        rw [show linkKey l = linkKey l' from hkey.symm.trans hkey', hk.link hl'] at hfound
        exact (Option.some.inj hfound).symm
      rw [heq, hpurpose]
      exact hclear.2.1
  pairs := by
    intro r₁ r₂ hsub hon₁ hon₂ hun₁ hun₂
    rcases pair_sublist_concat hsub with hsub | ⟨rfl, hr₁⟩
    · rcases h.pairs hsub hon₁ hon₂ hun₁ hun₂ with hold | ⟨c', a', at', hmem, hrest⟩
      · exact .inl hold
      · exact .inr ⟨c', a', at', List.mem_append_left _ hmem, hrest⟩
    · obtain ⟨a, at_, l, rfl, hl, hkey, hd, ha, hpurpose⟩ := hclear.admitted_of_on hk hon₂
      refine .inr ⟨c, a, at_, List.mem_append_right _ List.mem_cons_self, rfl, ha, ?_⟩
      have hblock := hclear.2.2 ha r₁ hr₁
      have hinv : r₁.invocationId ≠ a.application.invocationId := by
        intro hinv
        replace hinv : r₁.invocationId = c.invocation.invocationId :=
          hinv.trans (congrArg (·.invocationId) hclear.1.application)
        obtain ⟨l₁, hl₁, hd₁, hkey₁⟩ := hon₁
        have hnamed := h.named hr₁ hl₁ hd₁ hkey₁
        rw [hinv] at hnamed
        -- one purpose is one ledger, where invocations differ
        have hl₁l : l₁ = l := by
          refine hk.purpose hl₁ hl (hd₁.trans hd.symm) (Named.purpose_eq hnamed ?_)
          rw [hpurpose]
          exact hclear.2.1
        have hsame : r₁.key = c.row.key := hkey₁.trans (hl₁l ▸ hkey.symm)
        exact (Tables.reservationFree_iff.mp hfree r₁ hr₁ hsame).2.2 hinv
      have hopen : p.db.budget.Unsettled r₁ := hun₁
      have hon : OnLedgerOf p.db.delegation d r₁ := hon₁
      simpa [Delegation.blocks, ha, hon, hopen, hinv] using hblock

/-- A settlement opens nothing. -/
theorem unsettled_of_addSettlement {db : Tables} {s : Settlement} {r : Reservation}
    (h : (db.addSettlement s).Unsettled r) : db.Unsettled r := by
  rw [Tables.Unsettled, Tables.settlementsOf_addSettlement] at h
  exact (List.append_eq_nil_iff.mp h).1

theorem Orderly.settle (h : Orderly d old p) (s : Settlement) (e : Event) :
    Orderly d old (p.publish (fun db => { db with budget := db.budget.addSettlement s }) e) where
  row := h.row
  named := h.named
  pairs := by
    intro r₁ r₂ hsub hon₁ hon₂ hun₁ hun₂
    rcases h.pairs hsub hon₁ hon₂ (unsettled_of_addSettlement hun₁)
      (unsettled_of_addSettlement hun₂) with hold | ⟨c', a', at', hmem, hrest⟩
    · exact .inl hold
    · exact .inr ⟨c', a', at', List.mem_append_left _ hmem, hrest⟩

/-- A change keeps every delegation. -/
theorem delegationRow_write {db : Delegation.Tables} (w : Write) {r : TaskDelegation × Bool}
    (h : db.delegationRow d = some r) : ∃ r', (w.apply db).delegationRow d = some r' := by
  cases w with
  | revoke id =>
    simp only [Delegation.Tables.delegationRow, Option.bind_eq_bind, Option.bind_eq_some_iff] at h
    obtain ⟨row, hrow, control, hcontrol, -⟩ := h
    have hsome : ((db.control.map fun c => if c.1 = id then (c.1, true) else c).find?
        fun c => c.1 = d).isSome = true := by
      rw [List.find?_isSome]
      refine ⟨_, List.mem_map.mpr ⟨control, List.mem_of_find?_eq_some hcontrol, rfl⟩, ?_⟩
      have hkey := List.find?_some hcontrol
      split <;> exact hkey
    obtain ⟨control', hcontrol'⟩ := Option.isSome_iff_exists.mp hsome
    refine ⟨(row, control'.2), ?_⟩
    simp only [Delegation.Tables.delegationRow, Write.apply, hrow, hcontrol', Option.bind_eq_bind,
      Option.bind_some]
    rfl
  | _ => exact ⟨r, h⟩

theorem undisturbed_write (w : Write) (db : Database) :
    Undisturbed d db { db with delegation := w.apply db.delegation } where
  reservations := rfl
  settlements := rfl
  ledgers := by rw [ledgers_write]
  link := by
    intro key l hl
    rw [Point.linkOf, ledgers_write]
    exact hl

theorem Orderly.commit {t : Point} {e : Event} (h : Orderly d old p)
    (hk : WellKeyed p.db.delegation) (ht : Aware d p t) (hc : Point.Commits t e) :
    Orderly d old (p.publish (Point.pending t) e) := by
  have hsame : Orderly d old (p.publish id e) :=
    h.undisturbed ⟨rfl, rfl, rfl, id⟩ h.row (List.prefix_append _ _)
  cases hc with
  | reserved => exact h.reserve hk ht.1 ht.2.2
  | settled => exact h.settle _ _
  | @changed w =>
    obtain ⟨r, hr⟩ := h.row
    exact h.undisturbed (undisturbed_write w p.db) (delegationRow_write w hr)
      (List.prefix_append _ _)
  | _ => exact hsame

/-- A new reservation respects the calls that hold other locks. -/
theorem respects_reserve {u : Point} (hk : WellKeyed p.db.delegation)
    (ht : Aware d p (.inserted c o pol))
    (hcomp : (procedure gone).Compatible (.inserted c o pol) u) :
    Respects d p.db { p.db with budget := p.db.budget.addReservation c.row } u where
  link := id
  ledgers := rfl
  active := fun _ _ h => h
  unblocked := by
    intro a ha hheld hun r hr
    rcases List.mem_append.mp hr with hr | hr
    · exact hun r hr
    · rw [List.mem_singleton.mp hr]
      -- on a ledger of `d` the new reservation would hold the same lock
      have hoff : ¬ OnLedgerOf p.db.delegation d c.row := by
        intro hon
        obtain ⟨a', at', l, ho, -, -, -, ha', -⟩ := ht.1.admitted_of_on hk hon
        refine hcomp.absurd_update (k := .delegation d) (m := .update) ?_ hheld
        rw [ho, ← ha']
        simp [procedure, Point.held, Point.admissionLocks, Point.guardLocks]
      simp [Delegation.blocks, ha, hoff]
  free := by
    rintro c' o' pol' rfl hpol' hfree
    apply Tables.reservationFree_addReservation hfree
    intro hkey
    refine hcomp.absurd_update (k := .policy c.account.key) (m := .update) ?_ ?_
    · rw [← ht.2.1]
      exact List.mem_cons_self
    · rw [show c.account.key = c'.account.key from hkey, ← hpol']
      exact List.mem_cons_self
  continuities := id

theorem respects_settle (u : Point) (s : Settlement) :
    Respects d p.db { p.db with budget := p.db.budget.addSettlement s } u where
  link := id
  ledgers := rfl
  active := fun _ _ h => h
  unblocked := by
    intro a ha _ hun r hr
    have hbefore := hun r hr
    simp only [Delegation.blocks, Bool.and_eq_false_iff] at hbefore ⊢
    refine hbefore.imp_left fun h => h.imp_left fun h => h.imp_right fun h => ?_
    rw [decide_eq_false_iff_not] at h ⊢
    exact fun hun' => h (unsettled_of_addSettlement hun')
  free := fun _ _ h => h
  continuities := id

/-- A change of a delegation respects the calls that have not locked it. -/
theorem respects_write {u : Point} {w : Write} (hk : WellKeyed p.db.delegation)
    (hown : OwnContinuity p.db.delegation w)
    (hcomp : (procedure gone).Compatible (.written w) u) :
    Respects d p.db { p.db with delegation := w.apply p.db.delegation } u where
  link := (undisturbed_write (d := d) w p.db).link
  ledgers := (undisturbed_write w p.db).ledgers
  active := by
    intro id at_ hheld hgen hact
    cases hw : w.delegationId with
    | none =>
      refine (hcomp.absurd_update (k := .generation) (m := .share) ?_ hgen).elim
      simp [procedure, Point.held, Point.writeLocks, hw]
    | some id' =>
      have hne : id' ≠ id := by
        rintro rfl
        refine hcomp.absurd_update (k := .delegation id') (m := .update) ?_ hheld
        simp [procedure, Point.held, Point.writeLocks, hw]
      rw [(sameFor_write hk hw hne hown).active]
      exact hact
  unblocked := fun ha _ hun => (undisturbed_write w p.db).unblocked ha hun
  free := fun _ _ h => h
  continuities := by
    intro x hx
    cases w with
    | approveContinuity c => exact List.mem_append_left _ hx
    | _ => exact hx

/-- A commit respects the other calls. -/
theorem respects_commit {t u : Point} {e : Event} (hk : WellKeyed p.db.delegation)
    (ht : Aware d p t) (hc : Point.Commits t e) (hcomp : (procedure gone).Compatible t u) :
    Respects d p.db (Point.pending t p.db) u := by
  have hsame : Respects d p.db p.db u :=
    ⟨id, rfl, fun _ _ h => h, fun _ _ h => h, fun _ _ h => h, id⟩
  cases hc with
  | reserved => exact respects_reserve hk ht hcomp
  | settled => exact respects_settle u _
  | changed => exact respects_write hk ht hcomp
  | _ => exact hsame

/-- What goes on aside respects every call. -/
theorem Aside.respects {db' : Database} (h : Aside p.db db') (horder : Orderly d old p)
    (u : Point) : Respects d p.db db' u where
  link := h.link
  ledgers := by
    obtain ⟨r, hr⟩ := horder.row
    exact h.ledgers hr
  active := by
    intro id at_ _ _ hact
    obtain ⟨row, hrow, -⟩ := Delegation.Tables.active_isOk.mp hact
    rw [(h.sameFor hrow).active]
    exact hact
  unblocked := by
    intro a ha _ hun
    obtain ⟨r, hr⟩ := horder.row
    exact Undisturbed.unblocked ⟨h.reservations, h.settlements, h.ledgers hr, h.link⟩ ha hun
  free := by
    intro c o pol _ _ hfree
    rw [Tables.reservationFree_iff] at hfree ⊢
    rw [h.reservations]
    exact hfree
  continuities := by
    intro x hx
    rw [h.continuities]
    exact hx

end Commits

/-! ### The statements -/

section Statements

variable {old : List Reservation} {t t' : Point}

theorem newestDraft_mem {vs : List Delegation.DraftVersion} {v : Delegation.DraftVersion}
    (h : Delegation.Tables.newestDraft vs = some v) : v ∈ vs := by
  cases vs with
  | nil => cases h
  | cons v₀ vs =>
    rw [Delegation.Tables.newestDraft, Option.some_inj] at h
    rw [← h]
    refine foldl_mem (fun x y => ?_) vs v₀
    unfold Delegation.Tables.newerDraft
    split
    · exact .inr rfl
    · exact .inl rfl

theorem draftRecords_mem {db : Delegation.Tables} {row : TaskDelegation}
    {r : Delegation.DraftRecord} (h : r ∈ db.draftRecords row) : ∃ v ∈ db.drafts, v.record = r := by
  simp only [Delegation.Tables.draftRecords, List.mem_filterMap, Option.map_eq_some_iff] at h
  obtain ⟨id, -, v, hv, rfl⟩ := h
  exact ⟨v, List.mem_of_mem_filter (List.mem_of_mem_filter (newestDraft_mem hv)), rfl⟩

theorem named_of_inTask {db : Database} (hk : WellKeyed db.delegation)
    (h : Delegation.inTask db a = true) : Named a.purpose a.application.invocationId := by
  unfold Delegation.inTask at h
  cases hp : a.purpose with
  | understanding =>
    simp only [hp] at h
    split at h
    · rename_i draft hdraft
      obtain ⟨v, hv, hrec⟩ := draftRecords_mem (List.mem_of_find?_eq_some hdraft)
      have hid : draft.invocationId = a.application.invocationId := by
        simpa using List.find?_some hdraft
      have hname := hk.draft hv
      rw [hrec, hid] at hname
      exact ⟨fun _ => rfl, fun _ => hname⟩
    · cases h
  | planning =>
    simp only [hp] at h
    obtain ⟨plan, hplan⟩ := Option.isSome_iff_exists.mp h
    simp only [Delegation.Tables.planningRecord, Option.bind_eq_bind, Option.bind_eq_some_iff]
      at hplan
    obtain ⟨plan', hfind, -⟩ := hplan
    have hname := hk.plan (List.mem_of_find?_eq_some hfind)
    have hfound := List.find?_some hfind
    simp only [decide_eq_true_eq] at hfound
    rw [hfound.2.2.2] at hname
    exact ⟨fun h' => absurd (hname.symm.trans h') (by decide), nofun⟩

/-- One check establishes what the call knows after it. -/
theorem aware_check (hk : WellKeyed p.db.delegation) {k : Delegation.Check}
    (h : Aware d p (.checking c a at_ k)) (hcheck : Delegation.check p.db a k = .ok ()) :
    Aware d p (k.next.elim (.checked c a at_) (.checking c a at_)) := by
  obtain ⟨hadm, hnamed⟩ := h
  cases k with
  | limits => exact ⟨hadm, nofun⟩
  | drafts => exact ⟨hadm, nofun⟩
  | plans => exact ⟨hadm, nofun⟩
  | target =>
    refine ⟨hadm, fun _ => ?_⟩
    have hin := (ite_error_eq_ok.mp hcheck).1
    have hname := named_of_inTask hk hin
    rw [hadm.application] at hname
    exact hname
  | pending =>
    refine ⟨hadm, hnamed rfl, fun _ => ?_⟩
    have hnone := (ite_error_eq_ok'.mp hcheck).1
    rw [Bool.not_eq_true, List.any_eq_false] at hnone
    intro r hr
    simpa using hnone r hr

/-- One statement establishes what the call knows after it. -/
theorem Aware.go (hk : WellKeyed p.db.delegation) (h : Aware d p t)
    (hn : Point.next gone p.clock t (Point.pending t p.db) = .go t') : Aware d p t' := by
  rw [Point.pending_eq_of_go hn] at hn
  cases t with
  | reserving c =>
    simp only [Point.next] at hn
    split at hn
    · split at hn
      · rename_i hnone
        cases hn
        rintro r hkey ⟨l, hl, -, hkey'⟩
        have hlink := hk.link hl
        rw [show linkKey l = c.account.key from hkey'.symm.trans hkey, hnone] at hlink
        cases hlink
      · rename_i l hl
        cases hn
        exact hl
    · cases hn
  | linked c l =>
    cases hn
    exact h
  | advised c l =>
    simp only [Point.next, Point.orElse] at hn
    split at hn
    · rename_i r hr
      cases hn
      have hid := active_delegationId hr
      refine ⟨h, hid, ?_, Nat.le_refl _⟩
      rw [hid, hr]
      rfl
    · cases hn
  | admitted c l row at_ =>
    simp only [Point.next, Point.orElse] at hn
    split at hn
    · cases hn
      obtain ⟨hl, hid, hact, ht⟩ := h
      exact ⟨⟨rfl, ⟨l, hl, hid.symm, rfl⟩, hact, ht⟩, fun h => by cases h⟩
    · cases hn
  | checking c a at_ k =>
    simp only [Point.next, Point.orElse] at hn
    split at hn
    · rename_i hcheck
      have hnext := aware_check hk h hcheck
      cases hk' : k.next with
      | none =>
        rw [hk'] at hn hnext
        cases hn
        exact hnext
      | some k' =>
        rw [hk'] at hn hnext
        cases hn
        exact hnext
    · cases hn
  | checked c a at_ =>
    cases hn
    exact h
  | guarded c o continuous =>
    simp only [Point.next] at hn
    split at hn
    · cases hn
    · rename_i pol hpol
      cases hn
      exact ⟨h, Tables.policy_key hpol⟩
  | locked c o continuous pol =>
    simp only [Point.next] at hn
    split at hn
    · cases hn
      exact h
    · split at hn
      · cases hn
        exact trivial
      · cases hn
  | replaying c o pol => cases hn
  | absent c o continuous pol =>
    cases hn
    exact h
  | counted c o continuous pol calls cost =>
    simp only [Point.next] at hn
    split at hn
    · cases hn
    · split at hn
      · rename_i hfits
        cases hn
        exact ⟨h.1, h.2, (Bool.and_eq_true_iff.mp hfits).2⟩
      · cases hn
  | inserted c o pol => cases hn
  | metering u =>
    simp only [Point.next] at hn
    split at hn
    · cases hn
    · split at hn
      · cases hn
      · cases hn
        exact trivial
  | found u r =>
    simp only [Point.next] at hn
    split at hn
    · cases hn
    · cases hn
    · split at hn
      · split at hn <;> cases hn <;> exact trivial
      · cases hn
  | settling u s => cases hn
  | conflicting u s =>
    simp only [Point.next] at hn
    split at hn
    · split at hn <;> cases hn
    · cases hn
  | writing w =>
    simp only [Point.next] at hn
    split at hn
    · rename_i hfits
      cases hn
      exact ownContinuity_of_fits hfits
    · cases hn
  | written w => cases hn

theorem Aware.initial (ht : Point.initial t) : Aware d p t := by
  cases t with
  | reserving c => exact trivial
  | metering u => exact trivial
  | writing w => exact trivial
  | _ => exact ht.elim

theorem Admitted.tick {now : Datetime} (hlater : p.clock ≤ now) (h : Admitted p c a at_) :
    Admitted { p with clock := now } c a at_ :=
  ⟨h.application, h.link, h.active, Nat.le_trans h.time hlater⟩

theorem Cleared.tick {now : Datetime} {o : Option (Admission × Datetime)} (hlater : p.clock ≤ now)
    (h : Cleared d p c o) : Cleared d { p with clock := now } c o := by
  rcases o with - | ⟨a, at_⟩
  · exact h
  · exact ⟨h.1.tick hlater, h.2⟩

theorem Aware.tick {now : Datetime} (hlater : p.clock ≤ now) (h : Aware d p t) :
    Aware d { p with clock := now } t := by
  cases t with
  | admitted c l row at_ => exact ⟨h.1, h.2.1, h.2.2.1, Nat.le_trans h.2.2.2 hlater⟩
  | checking c a at_ k => exact ⟨h.1.tick hlater, h.2⟩
  | checked c a at_ =>
    have h' : Cleared d p c (some (a, at_)) := h
    exact h'.tick hlater
  | guarded c o continuous => exact Cleared.tick hlater h
  | locked c o continuous pol => exact ⟨h.1.tick hlater, h.2⟩
  | absent c o continuous pol => exact ⟨h.1.tick hlater, h.2⟩
  | counted c o continuous pol calls cost => exact ⟨h.1.tick hlater, h.2⟩
  | inserted c o pol => exact ⟨h.1.tick hlater, h.2⟩
  | _ => exact h

end Statements

end Lemmas

/-- The outline of all calls, for the delegation `d`. -/
def pendingOutline (d : String) (old : List Reservation) (gone : Int → Bool) :
    Outline (procedure gone) Aside fun p => WellKeyed p.db.delegation where
  shared p := Orderly d old p
  point p t := Aware d p t
  initial := fun _ _ ht => Aware.initial ht
  go := fun hk _ h hn => Aware.go hk h hn
  commit := by
    intro p t e o hk hs h hn
    obtain ⟨rfl, hc⟩ := Point.next_eq_commit hn
    refine ⟨hs.commit hk h hc, ?_⟩
    intro t' ht
    cases ht
  others := by
    intro p t u e o hk _ h hu hcomp hn
    exact hu.respects (respects_commit hk h (Point.next_eq_commit hn).2 hcomp)
  tick := fun hlater hs => ⟨⟨hs.row, hs.named, hs.pairs⟩, fun _ ht => ht.tick hlater⟩
  other := by
    intro p db' hk henv hs
    have hr := henv.respects hs
    obtain ⟨r, hrow⟩ := hs.row
    refine ⟨?_, fun t ht => ht.respects (hr t)⟩
    exact hs.undisturbed ⟨henv.reservations, henv.settlements, henv.ledgers hrow, henv.link⟩
      ⟨r, henv.row hrow⟩ (List.prefix_refl _)

/-! ### Open calls -/

section Runs

variable {ι : Type*} [DecidableEq ι]

end Runs

/-! ### A diagnostic admission -/

section Sample

/-- One call on the planning ledger, for the plan with this id. -/
def samplePlanCall (plan : String) : ReserveCall :=
  let limits : Delegation.Limits :=
    { ledgerId := "plans", configurationDigest := "", profileRevisionId := "profile-1",
      profileDigest := "", modelTarget := "model", calls := 2, inputTokens := 1, outputTokens := 1,
      costMicrousd := 4 }
  { account :=
      { key := ⟨"tenant", "domain", "plans"⟩, profileRevisionId := "profile-1",
        maximumOutputTokens := 1, inputPrice := 1000000, outputPrice := 1000000,
        delegationConfiguration := some limits, input_nonneg := samplePrice_nonneg,
        output_nonneg := samplePrice_nonneg }
    operationId := plan ++ ":budget"
    invocation := ⟨"tenant", "domain", plan, "profile-1"⟩
    quote := ⟨1, 1, 2, sampleTokens_pos, sampleTokens_pos, sampleCost_nonneg⟩ }

/-- What the provider's owner has received for the first plan. -/
def sampleReceipt : Json :=
  .obj [("deadline", .obj [("reaped", .bool true), ("worker_pid", .int 7)]),
    ("reservation_id", .str (samplePlanCall "plan-a").reservationId)]

/-- A revised delegation with two plans of one problem. The outcome of the first
is unknown; a diagnostic admission lets the second be asked for. -/
def sampleDiagnosed : Database :=
  let limits : Delegation.Limits :=
    { ledgerId := "plans", configurationDigest := "", profileRevisionId := "profile-1",
      profileDigest := "", modelTarget := "model", calls := 2, inputTokens := 1, outputTokens := 1,
      costMicrousd := 4 }
  let delegation : TaskDelegation :=
    { delegationId := "task-delegation:1", taskId := "S5-V023-ARCH-323", tenantId := "tenant",
      securityDomain := "domain", subjectId := "subject", rootContextId := "context",
      issuerId := "issuer", generation := 1, recoveryEpoch := 1,
      expiresAt := ⟨2000, Delegation.Tables.sampleExpiry_inRange⟩,
      digest := "", understanding := { limits with ledgerId := "drafts" }, planning := limits }
  let draft : Delegation.DraftRecord :=
    { invocationId := "draft-invocation:1", contextId := "context", turnId := "turn",
      snapshotCandidateId := "snapshot", initiatingPrincipalId := "subject",
      profileRevisionId := "profile-1", requestTarget := "", modelTarget := "",
      state := "SUCCEEDED", cleanupReason := none, problemId := some "problem-1" }
  { budget :=
      { policies := [⟨⟨"tenant", "domain", "plans"⟩, 2, 4, sampleCap_pos, by decide⟩],
        reservations := [(samplePlanCall "plan-a").row], settlements := [] }
    delegation :=
      { activeGeneration := some ⟨1, "", 1⟩, delegations := [delegation],
        control := [("task-delegation:1", false)], revocations := [], decisions := [],
        ledgers := [⟨"tenant", "domain", "drafts", "task-delegation:1", .understanding⟩,
          ⟨"tenant", "domain", "plans", "task-delegation:1", .planning⟩],
        resources := [⟨"BUSINESS_PROBLEM", "problem-1", "task-delegation:1"⟩],
        revisions := [⟨"task-delegation:1", "issuer", ⟨0, zero_lt_maxMicros⟩, "", .obj []⟩], stops := [],
        admissions := [⟨"task-delegation:1", "key-b", ["plan-a"],
          [⟨"plan-a", (samplePlanCall "plan-a").reservationId, Delegation.digest sampleReceipt⟩],
          some (.str "problem-1")⟩],
        cases := [], caseProblems := [], timeouts := [], transitions := [], continuities := [],
        continuityRevocations := [],
        drafts := [⟨"tenant", "domain", "draft-invocation:1", 1, draft⟩],
        plans := [⟨"tenant", "domain", "subject", "key-a", "plan-a", "problem-1", .str "problem-1"⟩,
          ⟨"tenant", "domain", "subject", "key-b", "plan-b", "problem-1", .str "problem-1"⟩],
        results := [⟨"tenant", "domain", "plan-a", "OUTCOME_UNKNOWN"⟩],
        receipts := [⟨"tenant", "domain", "plan-a", sampleReceipt⟩] } }

/-- The second call was admitted without a signed liability, and both are open. -/
def leavesTwoOpen (r : Event × Database) : Bool :=
  match r with
  | (.reserved _ (some (a, _)), db) =>
    match db.budget.reservations with
    | [r₁, r₂] =>
      decide (OnLedgerOf db.delegation "task-delegation:1" r₁)
        && decide (OnLedgerOf db.delegation "task-delegation:1" r₂)
        && decide (db.budget.Unsettled r₁) && decide (db.budget.Unsettled r₂)
        && r₁.invocationId == "plan-a" && r₂.invocationId == "plan-b"
        && a.permitted.signed.isEmpty
    | _ => false
  | _ => false

theorem sample_leavesTwoOpen :
    (((procedure fun _ => true).alone (sampleWorld sampleDiagnosed [] 1000).clock 16
      (.reserving (samplePlanCall "plan-b")) sampleDiagnosed).any fun o => o.any leavesTwoOpen)
      = true := by
  decide +kernel

/-- A call that commits by itself has reached a point that does. -/
theorem commits_of_alone {gone : Int → Bool} {now : Datetime} {n : Nat} {t : Point} {db s : Database}
    {e : Event} (h : (procedure gone).alone now n t db = some (some (e, s))) :
    ∃ t', Point.Commits t' e ∧ s = Point.pending t' db := by
  induction n generalizing t with
  | zero => cases h
  | succ n ih =>
    rw [Procedure.alone] at h
    cases hn : (procedure gone).next now t ((procedure gone).pending t db) with
    | go t' =>
      rw [hn] at h
      exact ih h
    | commit e' o =>
      rw [hn] at h
      cases h
      exact ⟨t, (Point.next_eq_commit hn).2, rfl⟩
    | raise =>
      rw [hn] at h
      cases h

theorem sampleDiagnosed_wellKeyed : WellKeyed sampleDiagnosed.delegation where
  link := by
    have h : ∀ l ∈ sampleDiagnosed.delegation.ledgers,
        Point.linkOf sampleDiagnosed.delegation (linkKey l) = some l := by decide +kernel
    exact fun {l} hl => h l hl
  purpose := by
    have h : ∀ l ∈ sampleDiagnosed.delegation.ledgers, ∀ l' ∈ sampleDiagnosed.delegation.ledgers,
        l.delegationId = l'.delegationId → l.purpose = l'.purpose → l = l' := by decide +kernel
    exact fun {l l'} hl hl' => h l hl l' hl'
  continuity := nofun
  draft := by
    have h : ∀ v ∈ sampleDiagnosed.delegation.drafts, isDraftId v.record.invocationId = true := by
      decide +kernel
    exact fun {v} hv => h v hv
  plan := by
    have h : ∀ i ∈ sampleDiagnosed.delegation.plans, isDraftId i.invocationId = false := by
      decide +kernel
    exact fun {i} hi => h i hi

/-- One process reserves for the second plan. -/
theorem sample_open_run : ∃ w r₁ r₂, Relation.ReflTransGen
      (StepWithin (procedure fun _ => true) Aside fun p => WellKeyed p.db.delegation)
      (sampleWorld sampleDiagnosed [] 1000) w
    ∧ [r₁, r₂].Sublist w.db.budget.reservations
    ∧ OnLedgerOf w.db.delegation "task-delegation:1" r₁
    ∧ OnLedgerOf w.db.delegation "task-delegation:1" r₂
    ∧ w.db.budget.Unsettled r₁ ∧ w.db.budget.Unsettled r₂
    ∧ r₂ ∉ sampleDiagnosed.budget.reservations
    ∧ ∀ c a at_, .reserved c (some (a, at_)) ∈ w.log → a.permitted.signed = [] := by
  obtain ⟨o, ho, hany⟩ := (Option.any_eq_true _ _).mp sample_leavesTwoOpen
  obtain ⟨⟨e, db⟩, rfl, h⟩ := (Option.any_eq_true _ _).mp hany
  obtain ⟨t, hcommits, hdb⟩ := commits_of_alone ho
  -- the event is a new reservation, admitted by the guard
  unfold leavesTwoOpen at h
  split at h
  case h_2 => cases h
  case h_1 c a at_ db' heq =>
    obtain ⟨rfl, rfl⟩ := Prod.mk.inj heq
    split at h
    case h_2 => cases h
    case h_1 r₁ r₂ hres =>
      simp only [Bool.and_eq_true, decide_eq_true_eq, beq_iff_eq, List.isEmpty_iff] at h
      obtain ⟨⟨⟨⟨⟨⟨hon₁, hon₂⟩, hun₁⟩, hun₂⟩, hinv₁⟩, hinv₂⟩, hsigned⟩ := h
      have hdelegation : db.delegation = sampleDiagnosed.delegation := by
        cases hcommits
        rw [hdb]
        rfl
      have hkeyed : WellKeyed db.delegation := hdelegation ▸ sampleDiagnosed_wellKeyed
      have hinit : (procedure fun _ => true).initial (.reserving (samplePlanCall "plan-b")) :=
        trivial
      have hrun : Relation.ReflTransGen
          (StepWithin (procedure fun _ => true) Aside fun p => WellKeyed p.db.delegation)
          (sampleWorld sampleDiagnosed [] 1000)
          (sampleWorld db [.reserved c (some (a, at_))] 1000) :=
        run_of_alone_single (fun hn => (Point.next_eq_commit hn).1) hinit
          sampleDiagnosed_wellKeyed hkeyed ho
      refine ⟨_, r₁, r₂, hrun, ?_, hon₁, hon₂, hun₁, hun₂, ?_, ?_⟩
      · show [r₁, r₂].Sublist db.budget.reservations
        rw [hres]
      · intro hmem
        have hinv := congrArg (·.invocationId) (List.mem_singleton.mp hmem)
        rw [show r₂.invocationId = "plan-b" from hinv₂] at hinv
        exact absurd hinv (by decide)
      · intro c' a' at' hmem
        cases List.mem_singleton.mp hmem
        exact hsigned

end Sample

end Budget

end AgentPlatform
