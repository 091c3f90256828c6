/-
AgentPlatform/Budget/Caps.lean

The provider budget is never exceeded, whatever the processes do.

The proof is an outline over the statements of `Budget/Calls`. A call that has
added up what is spent holds the lock on the policy until it commits, so that
the number of calls it has read stays right, and what it has read as spent can
only have become too large: settlements go on, and none of them raises the sum.
A reservation that is already there is found under the same lock.

A ledger of a delegation asks the guard first, also for a call that repeats an
earlier one. A ledger under a development revision is not held to its caps;
`NotRevised` says that this one is not.
-/
import AgentPlatform.Budget.Calls

namespace AgentPlatform

open Py

namespace Budget

open Delegation (Admission LedgerLink TaskDelegation)

/-! ### What surrounds the calls -/

/-- Anything else that may happen to the database: the rows of the delegations
and of other owners change as they like, except that a ledger keeps its
delegation and its policy, as the triggers on these tables demand. -/
structure Surroundings (db db' : Database) : Prop where
  reservations : db'.budget.reservations = db.budget.reservations
  settlements : db'.budget.settlements = db.budget.settlements
  policy : ∀ {key p}, db.budget.policy key = some p → db'.budget.policy key = some p
  link : ∀ {key l}, Point.linkOf db.delegation key = some l →
    Point.linkOf db'.delegation key = some l

/-- The ledger is not under a continuous-development revision. -/
def NotRevised (key : LedgerKey) (db : Database) : Prop :=
  ∀ l, Point.linkOf db.delegation key = some l → db.delegation.revision l.delegationId = none

/-! ### The outline -/

/-- What holds of the committed rows: they obey their keys, and the ledger `key`
its caps. -/
structure Sound (key : LedgerKey) (db : Tables) : Prop where
  settledOnce : db.SettledOnce
  referenced : db.Referenced
  keyed : db.Keyed
  unknown : db.policy key = none → db.ofLedger key = []
  capped : ∀ {p}, db.policy key = some p →
    db.calls key ≤ p.callCap ∧ db.spent key ≤ p.totalCostCapMicrousd

/-- The delegation of the ledger is the one the guard has admitted for. -/
def Governs (db : Database) (c : ReserveCall) (delegationId : String) : Prop :=
  ∃ l, Point.linkOf db.delegation c.account.key = some l ∧ delegationId = l.delegationId

def Repeats (db : Tables) (c : ReserveCall) : Prop :=
  ∃ r, db.ofOperation c.account.key c.operationId = some r ∧ r.reservationId = c.reservationId
    ∧ r.payloadDigest = c.payloadDigest

/-- A settlement may be added. -/
structure Settleable (db : Tables) (s : Settlement) : Prop where
  free : db.settlementFree s = true
  referenced : ∃ r ∈ db.reservations, Tables.Settles s r
  le_worst : ∀ r ∈ db.reservations, Tables.Settles s r →
    s.actualCostMicrousd ≤ r.worstCaseCostMicrousd

/-- A reservation may be added: the keys let it in, and where the ledger is
`key` the caps do. -/
structure Reservable (key : LedgerKey) (db : Tables) (c : ReserveCall) (p : Policy) : Prop where
  policy : db.policy c.account.key = some p
  free : db.reservationFree c.row = true
  room : c.account.key = key → db.calls key + 1 ≤ p.callCap
    ∧ db.spent key + c.quote.worstCaseCostMicrousd ≤ p.totalCostCapMicrousd

/-- What a call knows at each point about the committed rows. -/
def Knows (key : LedgerKey) (db : Database) : Point → Prop
  | .linked c l => Point.linkOf db.delegation c.account.key = some l
  | .advised c l => Point.linkOf db.delegation c.account.key = some l
  | .admitted c _ row _ => Governs db c row.delegationId
  | .checking c a _ _ => Governs db c a.row.delegationId
  | .checked c a _ => Governs db c a.row.delegationId
  | .guarded c _ continuous => c.account.key = key → continuous = false
  | .locked c _ continuous p =>
    (c.account.key = key → continuous = false) ∧ db.budget.policy c.account.key = some p
  | .replaying c _ _ => Repeats db.budget c
  | .absent c _ continuous p =>
    (c.account.key = key → continuous = false) ∧ db.budget.policy c.account.key = some p
  | .counted c _ continuous p calls cost =>
    (c.account.key = key → continuous = false) ∧ db.budget.policy c.account.key = some p
      ∧ db.budget.calls c.account.key = calls ∧ db.budget.spent c.account.key ≤ cost
  | .inserted c _ p => Reservable key db.budget c p
  | .found u r => r ∈ db.budget.reservations ∧ r.key = u.account.key
      ∧ r.reservationId = u.reservationId
  | .settling _ s => Settleable db.budget s
  | _ => True

/-! ### The caps, row by row -/

section Rows

variable {key : LedgerKey} {db : Tables}

theorem Referenced.addReservation (h : db.Referenced) (r : Reservation) :
    (db.addReservation r).Referenced := by
  intro s hs
  obtain ⟨r', hr', hsettles⟩ := h s hs
  exact ⟨r', List.mem_append_left _ hr', hsettles⟩

/-- A reservation with room leaves the caps intact. -/
theorem Sound.reserve (h : Sound key db) {c : ReserveCall} {p : Policy}
    (hc : Reservable key db c p) : Sound key (db.addReservation c.row) where
  settledOnce := h.settledOnce
  referenced := Referenced.addReservation h.referenced c.row
  keyed := h.keyed.addReservation hc.free
  unknown := by
    intro hnone
    have hne : c.row.key ≠ key := by
      intro hk
      have hp : db.policy key = some p := hk ▸ hc.policy
      rw [show (db.addReservation c.row).policy key = db.policy key from rfl, hp] at hnone
      cases hnone
    rw [Tables.ofLedger_addReservation, if_neg hne, List.append_nil]
    exact h.unknown hnone
  capped := by
    intro p' hp'
    have hcap := h.capped hp'
    rw [Tables.calls_addReservation, Tables.spent_addReservation,
      show c.row.key = c.account.key from rfl]
    by_cases hk : c.account.key = key
    · have hpp : p = p' := by
        have hp := hc.policy
        rw [hk] at hp
        exact Option.some.inj (hp.symm.trans hp')
      have hroom := hc.room hk
      have hcharge : db.charge c.row = c.quote.worstCaseCostMicrousd :=
        Tables.charge_of_unsettled (Tables.unsettled_of_free h.referenced hc.free)
      rw [if_pos hk, if_pos hk, hcharge, ← hpp]
      exact hroom
    · rw [if_neg hk, if_neg hk, add_zero, add_zero]
      exact hcap

/-- A settlement leaves the caps intact. -/
theorem Sound.settle (h : Sound key db) {s : Settlement} (hs : Settleable db s) :
    Sound key (db.addSettlement s) where
  settledOnce := h.settledOnce.addSettlement hs.free
  referenced := by
    intro s' hs'
    rcases List.mem_append.mp hs' with hs' | hs'
    · exact h.referenced s' hs'
    · rw [List.mem_singleton.mp hs']
      exact hs.referenced
  keyed := ⟨h.keyed.nodup, h.keyed.eq_of_shared⟩
  unknown := h.unknown
  capped := by
    intro p hp
    have hcap := h.capped hp
    exact ⟨hcap.1, (Tables.spent_addSettlement_le hs.free hs.le_worst key).trans hcap.2⟩

/-- New policies have room for what there is: nothing. -/
theorem Sound.of_same_rows {db' : Tables} (h : Sound key db)
    (hr : db'.reservations = db.reservations) (hs : db'.settlements = db.settlements)
    (hp : ∀ {key p}, db.policy key = some p → db'.policy key = some p) : Sound key db' := by
  obtain ⟨policies, reservations, settlements⟩ := db'
  cases hr
  cases hs
  refine ⟨h.settledOnce, h.referenced, ⟨h.keyed.nodup, h.keyed.eq_of_shared⟩, ?_, ?_⟩
  · intro hnone
    apply h.unknown
    cases hold : db.policy key with
    | none => rfl
    | some p =>
      rw [hp hold] at hnone
      cases hnone
  · intro p hnew
    cases hold : db.policy key with
    | some q =>
      have hq := hp hold
      rw [hnew] at hq
      cases hq
      exact h.capped hold
    | none =>
      have hnil : db.reservations.filter (fun r => r.key = key) = [] := h.unknown hold
      simp only [Tables.calls, Tables.spent, Tables.ofLedger, hnil, List.length_nil, List.map_nil,
        List.sum_nil, Nat.cast_zero]
      exact ⟨p.callCap_pos.le, p.totalCostCap_pos.le⟩

end Rows

/-! ### What the others leave alone -/

section Others

variable {key : LedgerKey} {db db' : Database}

theorem Governs.surroundings {c : ReserveCall} {id : String} (h : Governs db c id)
    (hs : Surroundings db db') : Governs db' c id := by
  obtain ⟨l, hl, hid⟩ := h
  exact ⟨l, hs.link hl, hid⟩

/-- What a call knows survives everything that leaves reservations, settlements,
policies and links in place. -/
theorem Knows.surroundings {t : Point} (h : Knows key db t) (hs : Surroundings db db') :
    Knows key db' t := by
  obtain ⟨⟨policies, reservations, settlements⟩, delegation⟩ := db'
  obtain ⟨hr, hset, hpol, hlink⟩ := hs
  cases hr
  cases hset
  have hs : Surroundings db ⟨⟨policies, db.budget.reservations, db.budget.settlements⟩, delegation⟩ :=
    ⟨rfl, rfl, hpol, hlink⟩
  cases t with
  | linked c l => exact hlink h
  | advised c l => exact hlink h
  | admitted c l row at_ => exact Governs.surroundings h hs
  | checking c a at_ k => exact Governs.surroundings h hs
  | checked c a at_ => exact Governs.surroundings h hs
  | locked c a continuous p => exact ⟨h.1, hpol h.2⟩
  | absent c a continuous p => exact ⟨h.1, hpol h.2⟩
  | counted c a continuous p calls cost => exact ⟨h.1, hpol h.2.1, h.2.2⟩
  | inserted c a p => exact ⟨hpol h.policy, h.free, h.room⟩
  | settling u s => exact ⟨h.free, h.referenced, h.le_worst⟩
  | _ => exact h

/-- A change of a delegation keeps links and leaves the budget alone. -/
theorem surroundings_write (w : Write) (db : Database) :
    Surroundings db { db with delegation := w.apply db.delegation } := by
  refine ⟨rfl, rfl, id, ?_⟩
  intro key l hl
  cases w <;> exact hl

theorem Repeats.addReservation {db : Tables} {c : ReserveCall} (h : Repeats db c)
    (r : Reservation) : Repeats (db.addReservation r) c := by
  obtain ⟨r', hr', hid⟩ := h
  refine ⟨r', ?_, hid⟩
  rw [Tables.ofOperation, Tables.addReservation, List.find?_append]
  rw [Tables.ofOperation] at hr'
  rw [hr', Option.some_or]

/-- A settlement of a reservation that is there is not one of a new reservation. -/
theorem Settleable.addReservation {db : Tables} {s : Settlement} (h : Settleable db s)
    {r : Reservation} (hfree : db.reservationFree r = true) :
    Settleable (db.addReservation r) s where
  free := h.free
  referenced := by
    obtain ⟨r', hr', hs⟩ := h.referenced
    exact ⟨r', List.mem_append_left _ hr', hs⟩
  le_worst := by
    intro x hx hsettles
    rcases List.mem_append.mp hx with hx | hx
    · exact h.le_worst x hx hsettles
    · rw [List.mem_singleton.mp hx] at hsettles
      obtain ⟨r', hr', hkey', hid'⟩ := h.referenced
      refine absurd (.inl ?_) (Tables.not_shared_of_free hfree hr' (hkey'.symm.trans hsettles.1))
      exact hid'.symm.trans hsettles.2

/-- Another ledger's reservation takes no room. -/
theorem Reservable.addReservation {db : Tables} {c : ReserveCall} {p : Policy}
    (h : Reservable key db c p) {r : Reservation} (hne : r.key ≠ c.account.key) :
    Reservable key (db.addReservation r) c p where
  policy := h.policy
  free := Tables.reservationFree_addReservation h.free hne
  room := by
    intro hk
    rw [Tables.calls_addReservation, Tables.spent_addReservation, if_neg (hk ▸ hne),
      if_neg (hk ▸ hne), add_zero, add_zero]
    exact h.room hk

/-- What a call knows survives a reservation: on the same ledger the lock on the
policy excludes it, on another one it does not matter. -/
theorem Knows.reserve {u : Point} (h : Knows key db u) {c : ReserveCall}
    {a : Option (Admission × Datetime)} {p : Policy} (hc : Reservable key db.budget c p)
    {gone : Int → Bool} (hcomp : (procedure gone).Compatible (.inserted c a p) u) :
    Knows key { db with budget := db.budget.addReservation c.row } u := by
  have hlock : (Lock.policy c.account.key, LockMode.update) ∈ Point.held (.inserted c a p) := by
    rw [← Tables.policy_key hc.policy]
    exact List.mem_cons_self
  -- the policy of another call's ledger
  have hother : ∀ {c' : ReserveCall} {p' : Policy},
      db.budget.policy c'.account.key = some p' →
      (Lock.policy p'.key, LockMode.update) ∈ Point.held u → c.row.key ≠ c'.account.key := by
    intro c' p' hp' hu hkey
    rw [Tables.policy_key hp'] at hu
    exact hcomp.absurd_update hlock (hkey ▸ hu)
  cases u with
  | replaying c' a' p' => exact Repeats.addReservation h c.row
  | counted c' a' continuous p' calls cost =>
    have hne := hother h.2.1 List.mem_cons_self
    refine ⟨h.1, h.2.1, ?_⟩
    show (db.budget.addReservation c.row).calls _ = _ ∧ (db.budget.addReservation c.row).spent _ ≤ _
    rw [Tables.calls_addReservation, Tables.spent_addReservation, if_neg hne, if_neg hne, add_zero,
      add_zero]
    exact h.2.2
  | inserted c' a' p' =>
    exact Reservable.addReservation h (hother h.policy List.mem_cons_self)
  | found u r => exact ⟨List.mem_append_left _ h.1, h.2⟩
  | settling u s => exact Settleable.addReservation h hc.free
  | _ => exact h

/-- Of two settlements in flight, the locks on their keys keep them apart. -/
theorem Settleable.addSettlement {db : Tables} {s s' : Settlement} (h : Settleable db s)
    (hid : s'.key = s.key → s'.reservationId ≠ s.reservationId ∧ s'.operationId ≠ s.operationId) :
    Settleable (db.addSettlement s') s where
  free := by
    rw [Tables.settlementFree_iff]
    intro x hx hkey
    rcases List.mem_append.mp hx with hx | hx
    · exact Tables.settlementFree_iff.mp h.free x hx hkey
    · rw [List.mem_singleton.mp hx] at hkey ⊢
      exact hid hkey
  referenced := h.referenced
  le_worst := h.le_worst

theorem Knows.settle {t : Point} (h : Knows key db t) {u : UsageCall} {s : Settlement}
    (hs : Settleable db.budget s) {gone : Int → Bool}
    (hcomp : (procedure gone).Compatible (.settling u s) t) :
    Knows key { db with budget := db.budget.addSettlement s } t := by
  cases t with
  | counted c a continuous p calls cost =>
    exact ⟨h.1, h.2.1, h.2.2.1,
      (Tables.spent_addSettlement_le hs.free hs.le_worst c.account.key).trans h.2.2.2⟩
  | inserted c a p =>
    refine ⟨h.policy, h.free, fun hk => ⟨(h.room hk).1, ?_⟩⟩
    have hle := Tables.spent_addSettlement_le hs.free hs.le_worst key
    have hroom := (h.room hk).2
    show (db.budget.addSettlement s).spent key + _ ≤ _
    omega
  | settling u' s' =>
    apply Settleable.addSettlement h
    intro hkey
    constructor
    · intro hid
      refine hcomp.absurd_update (k := .settlementId s.key s.reservationId) (m := .update)
        List.mem_cons_self ?_
      rw [hkey, hid]
      exact List.mem_cons_self
    · intro hop
      refine hcomp.absurd_update (k := .settlementOperation s.key s.operationId) (m := .update)
        (List.mem_cons_of_mem _ List.mem_cons_self) ?_
      rw [hkey, hop]
      exact List.mem_cons_of_mem _ List.mem_cons_self
  | _ => exact h

end Others

/-! ### The statements -/

section Statements

variable {key : LedgerKey} {db : Database} {gone : Int → Bool} {now : Datetime} {t t' : Point}

/-- `active` returns the delegation it was asked for. -/
theorem active_delegationId {db : Delegation.Tables} {id : String}
    {r : TaskDelegation × Option Delegation.IdentityContinuity}
    (h : db.active id false now = .ok r) : r.1.delegationId = id := by
  obtain ⟨⟨row, flag⟩, hrow, h⟩ := bind_eq_ok.mp h
  rw [orRaise_eq_ok] at hrow
  obtain ⟨continuity, -, h⟩ := bind_eq_ok.mp h
  obtain ⟨-, h⟩ := ite_error_eq_ok'.mp h
  cases h
  simp only [Delegation.Tables.delegationRow, Option.bind_eq_bind, Option.bind_eq_some_iff] at hrow
  obtain ⟨row', hfind, control, -, heq⟩ := hrow
  rw [← (Prod.mk.inj (Option.some.inj heq)).1]
  simpa using List.find?_some hfind

/-- The settlement that `record_usage` computes is of the reservation it has
found, and costs no more than the worst case. -/
theorem settlement_spec {u : UsageCall} {r : Reservation} {s : Settlement}
    (h : u.settlement r = some (some s)) : s.key = u.account.key
      ∧ s.reservationId = u.reservationId
      ∧ s.actualCostMicrousd ≤ r.worstCaseCostMicrousd := by
  simp only [UsageCall.settlement, Option.bind_eq_bind, Option.bind_eq_some_iff] at h
  obtain ⟨⟨input, output⟩, -, h⟩ := h
  split at h
  · cases h
  · split at h
    · cases h
    · split at h
      · cases h
      · rename_i hle
        cases h
        exact ⟨rfl, rfl, not_lt.mp hle⟩

theorem Knows.initial (ht : Point.initial t) : Knows key db t := by
  cases t with
  | reserving c => exact trivial
  | metering u => exact trivial
  | writing w => exact trivial
  | _ => exact ht.elim

/-- One statement establishes what the call knows after it. -/
theorem Knows.go (hin : NotRevised key db) (hs : Sound key db.budget) (h : Knows key db t)
    (hn : Point.next gone now t (Point.pending t db) = .go t') : Knows key db t' := by
  rw [Point.pending_eq_of_go hn] at hn
  cases t with
  | reserving c =>
    simp only [Point.next] at hn
    split at hn
    · split at hn
      · cases hn
        exact fun _ => rfl
      · rename_i l hl
        cases hn
        exact hl
    · cases hn
  | linked c l =>
    cases hn
    exact h
  | advised c l =>
    simp only [Point.next, Point.orElse] at hn
    split at hn
    · rename_i r hr
      cases hn
      exact ⟨l, h, active_delegationId hr⟩
    · cases hn
  | admitted c l row at_ =>
    simp only [Point.next, Point.orElse] at hn
    split at hn
    · cases hn
      exact h
    · cases hn
  | checking c a at_ k =>
    simp only [Point.next, Point.orElse] at hn
    split at hn
    · split at hn <;> cases hn <;> exact h
    · cases hn
  | checked c a at_ =>
    cases hn
    intro hk
    obtain ⟨l, hl, hid⟩ := h
    show (db.delegation.revision a.row.delegationId).isSome = false
    rw [hid, hin l (hk ▸ hl)]
    rfl
  | guarded c a continuous =>
    simp only [Point.next] at hn
    split at hn
    · cases hn
    · rename_i p hp
      cases hn
      exact ⟨h, hp⟩
  | locked c a continuous p =>
    simp only [Point.next] at hn
    split at hn
    · cases hn
      exact h
    · rename_i r hr
      split at hn
      · rename_i hsame
        cases hn
        exact ⟨r, hr, hsame⟩
      · cases hn
  | replaying c a p => cases hn
  | absent c a continuous p =>
    cases hn
    have htotals := Tables.totals_eq hs.settledOnce c.account.key
    refine ⟨h.1, h.2, ?_⟩
    show _ = (db.budget.totals c.account.key).1 ∧ _ ≤ (db.budget.totals c.account.key).2
    rw [htotals]
    exact ⟨rfl, le_rfl⟩
  | counted c a continuous p calls cost =>
    obtain ⟨hcont, hp, hcalls, hcost⟩ := h
    simp only [Point.next] at hn
    split at hn
    · cases hn
    · rename_i hroom
      split at hn
      · rename_i hfits
        cases hn
        refine ⟨hp, (Bool.and_eq_true_iff.mp hfits).2, fun hk => ?_⟩
        simp only [hcont hk, Point.exhausted, Bool.not_false, Bool.true_and, Bool.or_eq_true,
          decide_eq_true_eq, not_or, not_lt] at hroom
        rw [← hk]
        omega
      · cases hn
  | inserted c a p => cases hn
  | metering u =>
    simp only [Point.next] at hn
    split at hn
    · cases hn
    · split at hn
      · cases hn
      · rename_i r hr
        cases hn
        have hfound := List.find?_some hr
        simp only [decide_eq_true_eq] at hfound
        exact ⟨List.mem_of_find?_eq_some hr, hfound⟩
  | found u r =>
    simp only [Point.next] at hn
    split at hn
    · cases hn
    · cases hn
    · rename_i s hset
      split at hn
      · split at hn
        · rename_i hfree
          cases hn
          obtain ⟨hkey, hid, hle⟩ := settlement_spec hset
          obtain ⟨hr, hrkey, hrid⟩ := h
          have hsettles : Tables.Settles s r := ⟨hkey.trans hrkey.symm, hid.trans hrid.symm⟩
          refine ⟨hfree, ⟨r, hr, hsettles⟩, fun r' hr' hsettles' => ?_⟩
          have heq := hs.keyed.eq_of_shared hr hr' (hsettles.1.symm.trans hsettles'.1)
            (.inl (hsettles.2.symm.trans hsettles'.2))
          exact heq ▸ hle
        · cases hn
          exact trivial
      · cases hn
  | settling u s => cases hn
  | conflicting u s =>
    simp only [Point.next] at hn
    split at hn
    · split at hn <;> cases hn
    · cases hn
  | writing w =>
    simp only [Point.next] at hn
    split at hn
    · cases hn
      exact trivial
    · cases hn
  | written w => cases hn

/-- A commit keeps the rows sound. -/
theorem Sound.commit (hs : Sound key db.budget) (h : Knows key db t) {e : Event}
    (hc : Point.Commits t e) : Sound key (Point.pending t db).budget := by
  cases hc with
  | reserved => exact Sound.reserve hs h
  | settled => exact Sound.settle hs h
  | _ => exact hs

/-- A commit leaves alone what the other calls know. -/
theorem Knows.commit {u : Point} (h : Knows key db t) (hu : Knows key db u) {e : Event}
    (hc : Point.Commits t e) (hcomp : (procedure gone).Compatible t u) :
    Knows key (Point.pending t db) u := by
  cases hc with
  | reserved => exact Knows.reserve hu h hcomp
  | settled => exact Knows.settle hu h hcomp
  | @changed w => exact Knows.surroundings hu (surroundings_write w db)
  | _ => exact hu

end Statements

/-- The outline of all calls, for the ledger `key`. -/
def outline (key : LedgerKey) (gone : Int → Bool) :
    Outline (procedure gone) Surroundings fun p => NotRevised key p.db where
  shared p := Sound key p.db.budget
  point p t := Knows key p.db t
  initial := by
    intro p t _ _ ht
    exact Knows.initial ht
  go := by
    intro p t t' hin hs h hn
    exact Knows.go hin hs h hn
  commit := by
    intro p t e o _ hs h hn
    obtain ⟨rfl, hc⟩ := Point.next_eq_commit hn
    refine ⟨Sound.commit hs h hc, ?_⟩
    intro t' ht
    cases ht
  others := by
    intro p t u e o _ _ h hu hcomp hn
    exact Knows.commit h hu (Point.next_eq_commit hn).2 hcomp
  tick := fun _ hs => ⟨hs, fun _ ht => ht⟩
  other := by
    intro p db _ henv hs
    exact ⟨hs.of_same_rows henv.reservations henv.settlements henv.policy,
      fun t ht => Knows.surroundings ht henv⟩

/-! ### A repeated call -/

section Repeated

variable {key : LedgerKey} {db : Database} {c : ReserveCall} {now : Datetime} {gone : Int → Bool}

theorem repeats_of_mem {db : Tables} (h : db.Keyed) (hmem : c.row ∈ db.reservations) :
    Repeats db c := by
  have hsome : (db.ofOperation c.account.key c.operationId).isSome = true := by
    rw [Tables.ofOperation, List.find?_isSome]
    exact ⟨c.row, hmem, decide_eq_true ⟨rfl, rfl⟩⟩
  obtain ⟨r, hr⟩ := Option.isSome_iff_exists.mp hsome
  have hfound := List.find?_some hr
  simp only [decide_eq_true_eq] at hfound
  have heq := h.eq_of_shared (List.mem_of_find?_eq_some hr) hmem hfound.1 (.inr (.inl hfound.2))
  refine ⟨r, hr, ?_⟩
  rw [heq]
  exact ⟨rfl, rfl⟩

theorem policy_of_mem (h : Sound key db.budget) (hkey : c.account.key = key)
    (hmem : c.row ∈ db.budget.reservations) : ∃ p, db.budget.policy c.account.key = some p := by
  rw [hkey]
  cases hp : db.budget.policy key with
  | some p => exact ⟨p, rfl⟩
  | none =>
    have hnil := h.unknown hp
    rw [Tables.ofLedger, List.filter_eq_nil_iff] at hnil
    exact absurd (decide_eq_true hkey) (hnil c.row hmem)

/-- A statement that goes on leaves the rest of the call to be run. -/
theorem alone_of_go {n : Nat} {t t' : Point} (h : Point.next gone now t db = .go t') :
    (procedure gone).alone now (n + 1) t db = (procedure gone).alone now n t' db := by
  apply Procedure.alone_go
  show Point.next gone now t (Point.pending t db) = .go t'
  rw [Point.pending_eq_of_go h, h]

/-- Past the guard, a repeated call returns what is there. -/
theorem alone_guarded {n : Nat} {a : Option (Admission × Datetime)} {continuous : Bool}
    {p : Policy} (hp : db.budget.policy c.account.key = some p) (hrep : Repeats db.budget c) :
    (procedure gone).alone now (n + 3) (.guarded c a continuous) db
      = some (some (.replayed c, db)) := by
  obtain ⟨r, hr, hsame⟩ := hrep
  have hguarded : Point.next gone now (.guarded c a continuous) db
      = .go (.locked c a continuous p) := by
    simp only [Point.next, hp]
  have hlocked : Point.next gone now (.locked c a continuous p) db = .go (.replaying c a p) := by
    simp only [Point.next, hr, if_pos hsame]
  have hreplaying : Point.next gone now (.replaying c a p) db = .commit (.replayed c) none := rfl
  rw [alone_of_go hguarded, alone_of_go hlocked]
  exact Procedure.alone_commit hreplaying

/-- A call that is refused or returns what is there, and in both cases changes nothing. -/
def RefusedOrReplayed (c : ReserveCall) (db : Database)
    (outcome : Option (Option (Event × Database))) : Prop :=
  outcome = some none ∨ outcome = some (some (.replayed c, db))

/-- A statement that may raise, followed by a call that is refused or returns
what is there. -/
theorem alone_orElse {n : Nat} {t : Point} {ε α : Type*} {x : Except ε α} {f : α → Point}
    (hpending : Point.pending t db = db)
    (ht : Point.next gone now t db = Point.orElse x fun r => .go (f r))
    (hnext : ∀ r, x = .ok r → RefusedOrReplayed c db ((procedure gone).alone now n (f r) db)) :
    RefusedOrReplayed c db ((procedure gone).alone now (n + 1) t db) := by
  have hview : (procedure gone).next now t ((procedure gone).pending t db)
      = Point.orElse x fun r => .go (f r) := by
    show Point.next gone now t (Point.pending t db) = _
    rw [hpending, ht]
  cases x with
  | error e => exact .inl (Procedure.alone_raise hview)
  | ok r =>
    rw [Procedure.alone_go hview]
    exact hnext r rfl

theorem alone_check {n : Nat} {a : Admission} {at_ : Datetime} (k : Delegation.Check)
    (hnext : RefusedOrReplayed c db ((procedure gone).alone now n
      (k.next.elim (.checked c a at_) (.checking c a at_)) db)) :
    RefusedOrReplayed c db ((procedure gone).alone now (n + 1) (.checking c a at_ k) db) := by
  refine alone_orElse (x := Delegation.check db a k)
    (f := fun _ => k.next.elim (.checked c a at_) (.checking c a at_)) rfl ?_ fun _ _ => hnext
  cases k <;> rfl

/-- From the first check of the guard on. -/
theorem alone_checking {n : Nat} {a : Admission} {at_ : Datetime} {p : Policy}
    (hp : db.budget.policy c.account.key = some p) (hrep : Repeats db.budget c) :
    RefusedOrReplayed c db ((procedure gone).alone now (n + 9) (.checking c a at_ .limits) db) := by
  have hchecked : RefusedOrReplayed c db
      ((procedure gone).alone now (n + 4) (.checked c a at_) db) := .inr (alone_guarded hp hrep)
  exact alone_check .limits (alone_check .drafts (alone_check .plans (alone_check .target
    (alone_check .pending hchecked))))

/-- **A repeated call**, run by itself: the guard of a delegation may refuse it;
otherwise it returns the reservation that is there. Nothing changes. -/
theorem alone_repeated {p : Policy} (hp : db.budget.policy c.account.key = some p)
    (hrep : Repeats db.budget c) (hvalid : c.quoteValid = true) :
    RefusedOrReplayed c db ((procedure gone).alone now 13 (.reserving c) db)
      ∧ (Point.linkOf db.delegation c.account.key = none →
        (procedure gone).alone now 13 (.reserving c) db = some (some (.replayed c, db))) := by
  cases hl : Point.linkOf db.delegation c.account.key with
  | none =>
    have hstart : Point.next gone now (.reserving c) db = .go (.guarded c none false) := by
      simp only [Point.next, hvalid, if_true, hl]
    rw [alone_of_go hstart]
    exact ⟨.inr (alone_guarded hp hrep), fun _ => alone_guarded hp hrep⟩
  | some l =>
    have hstart : Point.next gone now (.reserving c) db = .go (.linked c l) := by
      simp only [Point.next, hvalid, if_true, hl]
    have hlinked : Point.next gone now (.linked c l) db = .go (.advised c l) := rfl
    rw [alone_of_go hstart, alone_of_go hlinked]
    refine ⟨?_, fun hnone => by cases hnone⟩
    refine alone_orElse (x := db.delegation.active l.delegationId false now) rfl rfl fun r _ => ?_
    refine alone_orElse (x := Delegation.permittedUnknowns db gone r.1 c.invocation.invocationId)
      rfl rfl fun permitted _ => ?_
    exact alone_checking (n := 0) hp hrep

/-- **A new call** on a ledger without a delegation, run by itself: with room
under the caps and its keys free, it reserves. -/
theorem alone_reserve {p : Policy} (hvalid : c.quoteValid = true)
    (hlink : Point.linkOf db.delegation c.account.key = none)
    (hp : db.budget.policy c.account.key = some p)
    (hop : db.budget.ofOperation c.account.key c.operationId = none)
    (hroom : Point.exhausted c p (db.budget.totals c.account.key).1
      (db.budget.totals c.account.key).2 = false)
    (hfits : Tables.Reservation.fits c.row = true) (hfree : db.budget.reservationFree c.row = true) :
    (procedure gone).alone now 6 (.reserving c) db
      = some (some (.reserved c none, { db with budget := db.budget.addReservation c.row })) := by
  have h₁ : Point.next gone now (.reserving c) db = .go (.guarded c none false) := by
    simp only [Point.next, hvalid, if_true, hlink]
  have h₂ : Point.next gone now (.guarded c none false) db = .go (.locked c none false p) := by
    simp only [Point.next, hp]
  have h₃ : Point.next gone now (.locked c none false p) db = .go (.absent c none false p) := by
    simp only [Point.next, hop]
  have h₄ : Point.next gone now (.absent c none false p) db = .go (.counted c none false p
      (db.budget.totals c.account.key).1 (db.budget.totals c.account.key).2) := rfl
  have h₅ : Point.next gone now (.counted c none false p (db.budget.totals c.account.key).1
      (db.budget.totals c.account.key).2) db = .go (.inserted c none p) := by
    simp [Point.next, hroom, hfits, hfree]
  rw [alone_of_go h₁, alone_of_go h₂, alone_of_go h₃, alone_of_go h₄, alone_of_go h₅]
  rfl

end Repeated

/-! ### The budget -/

section Runs

variable {ι : Type*} [DecidableEq ι]

theorem sound_of_empty {db : Tables} (hr : db.reservations = []) (hs : db.settlements = [])
    (key : LedgerKey) : Sound key db := by
  obtain ⟨policies, reservations, settlements⟩ := db
  cases hr
  cases hs
  refine ⟨fun r => Nat.zero_le 1, ?_, ⟨List.nodup_nil, ?_⟩, fun _ => rfl, ?_⟩
  · intro s hs
    cases hs
  · intro r r' hr
    cases hr
  · intro p _
    exact ⟨p.callCap_pos.le, p.totalCostCap_pos.le⟩

/-- A new reservation is made of an operation that has none. -/
theorem not_mem_of_reservable {key : LedgerKey} {db : Tables} {c : ReserveCall} {p : Policy}
    (h : Reservable key db c p) : c.row ∉ db.reservations :=
  Tables.not_mem_of_free h.free

/-- **The provider budget is never exceeded.** From empty tables, under any
interleaving of any number of processes and any other changes around them, on a
ledger that is not under a development revision: the calls and what is spent
stay within the caps; a reservation has at most one settlement; of two calls on
one ledger only one is past the lock on the policy; a settlement never raises
what is spent; and a call whose reservation is there makes no second one and
changes nothing. Run by itself, such a call returns that reservation, unless
the ledger belongs to a delegation whose guard refuses it. -/
theorem provider_budget_kept (gone : Int → Bool) (key : LedgerKey)
    (w₀ w : World ι Database Point Event Datetime) (hquiet : w₀.Quiet)
    (hreservations : w₀.db.budget.reservations = []) (hsettlements : w₀.db.budget.settlements = [])
    (hn : NotRevised key w₀.db)
    (hrun : Relation.ReflTransGen
      (StepWithin (procedure gone) Surroundings fun p => NotRevised key p.db) w₀ w) :
    (∀ p, w.db.budget.policy key = some p →
      w.db.budget.calls key ≤ p.callCap ∧ w.db.budget.spent key ≤ p.totalCostCapMicrousd)
    ∧ (∀ r, (w.db.budget.settlementsOf r).length ≤ 1)
    ∧ (∀ i j t u, i ≠ j → w.calls i = some t → w.calls j = some u →
      (Lock.policy key, LockMode.update) ∈ t.held → (Lock.policy key, LockMode.update) ∉ u.held)
    ∧ (∀ w' u s, Step (procedure gone) Surroundings w w' → w'.log = w.log ++ [.settled u s] →
      ∀ k, w'.db.budget.spent k ≤ w.db.budget.spent k)
    ∧ (∀ c, c.row ∈ w.db.budget.reservations → ∀ w', Step (procedure gone) Surroundings w w' →
      (∀ a, w'.log ≠ w.log ++ [.reserved c a])
        ∧ (w'.log = w.log ++ [.replayed c] → w'.db = w.db))
    ∧ (∀ c now, c.account.key = key → c.row ∈ w.db.budget.reservations → c.quoteValid = true →
      RefusedOrReplayed c w.db ((procedure gone).alone now 13 (.reserving c) w.db)
        ∧ (Point.linkOf w.db.delegation key = none →
          (procedure gone).alone now 13 (.reserving c) w.db
            = some (some (.replayed c, w.db)))) := by
  have h : (outline key gone).Holds w :=
    ((outline key gone).holds_of_quiet hquiet hn
      (sound_of_empty hreservations hsettlements key)).run hrun
  have hsound : Sound key w.db.budget := h.shared
  refine ⟨fun p hp => hsound.capped hp, hsound.settledOnce, ?_, ?_, ?_, ?_⟩
  · intro i j t u hij ht hu hheld hheld'
    exact (h.exclusive i j t u hij ht hu).absurd_update hheld hheld'
  · intro w' u s hstep hlog k
    obtain ⟨i, t, o, ht, hnext, hdb⟩ := hstep.of_log hlog
    have hknows : Knows key w.db t := h.point ht
    rw [hdb]
    cases (Point.next_eq_commit hnext).2 with
    | settled => exact Tables.spent_addSettlement_le hknows.free hknows.le_worst k
  · intro c hmem w' hstep
    refine ⟨fun a hlog => ?_, fun hlog => ?_⟩
    · obtain ⟨i, t, o, ht, hnext, -⟩ := hstep.of_log hlog
      have hknows : Knows key w.db t := h.point ht
      cases (Point.next_eq_commit hnext).2 with
      | reserved => exact not_mem_of_reservable hknows hmem
    · obtain ⟨i, t, o, ht, hnext, hdb⟩ := hstep.of_log hlog
      rw [hdb]
      cases (Point.next_eq_commit hnext).2 with
      | replayed => rfl
  · intro c now hkey hmem hvalid
    obtain ⟨p, hp⟩ := policy_of_mem hsound hkey hmem
    rw [← hkey]
    exact alone_repeated hp (repeats_of_mem hsound.keyed hmem) hvalid

end Runs

/-! ### One ledger, before and after it is delegated -/

section Sample

theorem samplePrice_nonneg : (0 : Int) ≤ 1000000 := by decide

theorem sampleTokens_pos : (1 : Int) ≤ 1 := by decide

theorem sampleCost_nonneg : (0 : Int) ≤ 2 := by decide

theorem sampleCap_pos : (0 : Int) < 2 := by decide

/-- A ledger with room for one call. -/
def samplePolicy : Policy := ⟨⟨"tenant", "domain", "ledger"⟩, 1, 2, by decide, sampleCap_pos⟩

/-- One token each way, at one micro-dollar. -/
def sampleCall : ReserveCall :=
  { account :=
      { key := samplePolicy.key, profileRevisionId := "profile-1", maximumOutputTokens := 1,
        inputPrice := 1000000, outputPrice := 1000000, delegationConfiguration := none,
        input_nonneg := samplePrice_nonneg,
        output_nonneg := samplePrice_nonneg }
    operationId := "operation-1"
    invocation := ⟨"tenant", "domain", "draft-invocation:1", "profile-1"⟩
    quote := ⟨1, 1, 2, sampleTokens_pos, sampleTokens_pos, sampleCost_nonneg⟩ }

/-- The delegation of `Delegation.Tables.sample`, not linked to the ledger yet. -/
def sampleDatabase : Database :=
  { budget := ⟨[samplePolicy], [], []⟩, delegation := Delegation.Tables.sample 1 }

/-- The ledger with its one reservation. -/
def sampleReserved : Database :=
  { sampleDatabase with budget := sampleDatabase.budget.addReservation sampleCall.row }

/-- The ledger linked to the delegation. -/
def sampleLinked : Database :=
  { sampleReserved with
    delegation :=
      { sampleReserved.delegation with
        ledgers := [⟨"tenant", "domain", "ledger", "task-delegation:1", .understanding⟩] } }

/-- One process, idle. -/
def sampleWorld (db : Database) (log : List Event) (micros : Fin 10000) :
    World Unit Database Point Event Datetime :=
  ⟨⟨db, log, ⟨micros, Nat.lt_trans micros.isLt (by decide)⟩⟩, fun _ => none⟩

theorem sample_notRevised (db : Database) (h : db.delegation.revisions = []) (key : LedgerKey) :
    NotRevised key db := by
  intro l _
  rw [Delegation.Tables.revision, h]
  rfl

theorem sample_run : Relation.ReflTransGen
    (StepWithin (procedure fun _ => false) Surroundings fun p => NotRevised samplePolicy.key p.db)
    (sampleWorld sampleDatabase [] 1000)
    (sampleWorld sampleReserved [.reserved sampleCall none] 1000) := by
  have halone : (procedure fun _ => false).alone (sampleWorld sampleDatabase [] 1000).clock 6
      (.reserving sampleCall) sampleDatabase = some (some (.reserved sampleCall none,
        sampleReserved)) :=
    alone_reserve (by decide +kernel) rfl rfl rfl (by decide +kernel) (by decide +kernel) rfl
  have hinit : (procedure fun _ => false).initial (.reserving sampleCall) := trivial
  exact run_of_alone_single (fun hn => (Point.next_eq_commit hn).1) hinit
    (sample_notRevised _ rfl _) (sample_notRevised _ rfl _) halone

/-- The ledger is full, and not above its caps. -/
theorem provider_budget_kept_sample :
    sampleReserved.budget.calls samplePolicy.key = samplePolicy.callCap ∧
      sampleReserved.budget.calls samplePolicy.key ≤ samplePolicy.callCap ∧
      sampleReserved.budget.spent samplePolicy.key ≤ samplePolicy.totalCostCapMicrousd :=
  ⟨rfl, (provider_budget_kept (fun _ => false) samplePolicy.key (sampleWorld sampleDatabase [] 1000)
    (sampleWorld sampleReserved [.reserved sampleCall none] 1000) (fun _ => rfl) rfl rfl
    (sample_notRevised _ rfl _) sample_run).1 samplePolicy rfl⟩

/-- After the reservation the ledger is linked to a delegation, which expires:
the same call, made again, is refused by the guard. And a cost is not always
the ceiling of the rational: it may be below the price. -/
theorem repeated_call_refused :
    (∃ w : World Unit Database Point Event Datetime,
      Relation.ReflTransGen (StepWithin (procedure fun _ => false) Surroundings
        fun p => NotRevised samplePolicy.key p.db) (sampleWorld sampleDatabase [] 1000) w
      ∧ sampleCall.row ∈ w.db.budget.reservations ∧ sampleCall.quoteValid = true
      ∧ (procedure fun _ => false).alone w.clock 13 (.reserving sampleCall) w.db = some none)
    ∧ ¬ ∀ tokens price n : Int, 0 ≤ tokens → 0 ≤ price → cost tokens price = some n →
      tokens * price ≤ n * 1000000 := by
  constructor
  · refine ⟨sampleWorld sampleLinked [.reserved sampleCall none] 3000, ?_,
      List.mem_append_right _ List.mem_cons_self, by decide +kernel, ?_⟩
    · have hlink : StepWithin (procedure fun _ => false) Surroundings
          (fun p => NotRevised samplePolicy.key p.db)
          (sampleWorld sampleReserved [.reserved sampleCall none] 1000)
          (sampleWorld sampleLinked [.reserved sampleCall none] 1000) :=
        ⟨.other ⟨rfl, rfl, id, nofun⟩, sample_notRevised _ rfl _⟩
      have htick : StepWithin (procedure fun _ => false) Surroundings
          (fun p => NotRevised samplePolicy.key p.db)
          (sampleWorld sampleLinked [.reserved sampleCall none] 1000)
          (sampleWorld sampleLinked [.reserved sampleCall none] 3000) :=
        ⟨.tick (by decide), sample_notRevised _ rfl _⟩
      exact (sample_run.tail hlink).tail htick
    · have hvalid : sampleCall.quoteValid = true := by decide +kernel
      have hexpired : (sampleLinked.delegation.active "task-delegation:1" false
          (sampleWorld sampleLinked [] 3000).clock).isOk = false := by decide +kernel
      have h₁ : Point.next (fun _ => false) (sampleWorld sampleLinked [] 3000).clock
          (.reserving sampleCall) sampleLinked = .go (.linked sampleCall
            ⟨"tenant", "domain", "ledger", "task-delegation:1", .understanding⟩) := by
        simp only [Point.next, hvalid, if_true]
        rfl
      have h₂ : Point.next (fun _ => false) (sampleWorld sampleLinked [] 3000).clock
          (.linked sampleCall ⟨"tenant", "domain", "ledger", "task-delegation:1", .understanding⟩)
          sampleLinked = .go (.advised sampleCall
            ⟨"tenant", "domain", "ledger", "task-delegation:1", .understanding⟩) := rfl
      have h₃ : Point.next (fun _ => false) (sampleWorld sampleLinked [] 3000).clock
          (.advised sampleCall ⟨"tenant", "domain", "ledger", "task-delegation:1", .understanding⟩)
          sampleLinked = .raise := by
        simp only [Point.next, Point.orElse]
        split
        · rename_i r hr
          rw [hr] at hexpired
          cases hexpired
        · rfl
      show (procedure fun _ => false).alone (sampleWorld sampleLinked [] 3000).clock 13
        (.reserving sampleCall) sampleLinked = some none
      rw [alone_of_go h₁, alone_of_go h₂]
      exact Procedure.alone_raise h₃
  · intro h
    have hlow : cost 1 17179869184000001 = some 17179869184 := by decide +kernel
    have hle := h 1 17179869184000001 17179869184 (by omega) (by omega) hlow
    omega

end Sample

end Budget

end AgentPlatform
