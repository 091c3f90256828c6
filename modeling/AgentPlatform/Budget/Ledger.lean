/-
AgentPlatform/Budget/Ledger.lean

The ledger of provider calls: policies with their caps, reservations at the
worst-case cost, settlements at the actual one. Rows are only ever added.

What a ledger has spent is the sum over its reservations of the settled cost,
or of the worst case where there is no settlement (`spent`). The admission
query reads the same two numbers off a left join (`totals`); the two agree as
long as no reservation is settled twice (`totals_eq`).

`_cost` divides with `/`, so that the quotient is a double before it is rounded
up; `cost` is what it returns.
-/
import AgentPlatform.Py.TrueDivision
import AgentPlatform.Py.Json
import AgentPlatform.Py.Hash

namespace AgentPlatform

open Py

namespace Budget

/-! ### Rows -/

/-- A ledger: namespace, security domain and ledger id. -/
structure LedgerKey where
  namespace_ : String
  securityDomain : String
  ledgerId : String
  deriving DecidableEq

/-- A row of `policies`, with the checks of its columns. -/
structure Policy where
  key : LedgerKey
  callCap : Int
  totalCostCapMicrousd : Int
  callCap_pos : 0 < callCap
  totalCostCap_pos : 0 < totalCostCapMicrousd
  deriving DecidableEq

/-- A row of `reservations`. -/
structure Reservation where
  key : LedgerKey
  reservationId : String
  operationId : String
  invocationId : String
  inputTokenUpperBound : Int
  outputTokenCeiling : Int
  worstCaseCostMicrousd : Int
  payloadDigest : String
  deriving DecidableEq

/-- A row of `settlements`. -/
structure Settlement where
  key : LedgerKey
  reservationId : String
  operationId : String
  observationId : String
  inputTokens : Int
  outputTokens : Int
  actualCostMicrousd : Int
  payloadDigest : String
  deriving DecidableEq

/-- The tables, rows in the order they were committed. -/
structure Tables where
  policies : List Policy
  reservations : List Reservation
  settlements : List Settlement

/-! ### Costs -/

/-- `_cost(tokens, price)`; `none` is an `OverflowError`. -/
def cost (tokens price : Int) : Option Int := ceilTrueDiv (tokens * price) 1000000

/-- The cost of both kinds of tokens. -/
def costs (inputTokens inputPrice outputTokens outputPrice : Int) : Option Int := do
  let input ← cost inputTokens inputPrice
  let output ← cost outputTokens outputPrice
  return input + output

/-- A quotient that is just above a large integer is rounded down to it before
it is rounded up. -/
example : cost 1 (17179869184 * 1000000 + 1) = some 17179869184 := by decide +kernel

/-! ### Reading -/

namespace Tables

variable (db : Tables)

def policy (key : LedgerKey) : Option Policy := db.policies.find? fun p => p.key = key

def ofLedger (key : LedgerKey) : List Reservation := db.reservations.filter fun r => r.key = key

def ofOperation (key : LedgerKey) (operationId : String) : Option Reservation :=
  db.reservations.find? fun r => r.key = key ∧ r.operationId = operationId

def reservation (key : LedgerKey) (reservationId : String) : Option Reservation :=
  db.reservations.find? fun r => r.key = key ∧ r.reservationId = reservationId

def Settles (s : Settlement) (r : Reservation) : Prop :=
  s.key = r.key ∧ s.reservationId = r.reservationId

instance (s : Settlement) (r : Reservation) : Decidable (Settles s r) :=
  inferInstanceAs (Decidable (_ ∧ _))

def settlementsOf (r : Reservation) : List Settlement :=
  db.settlements.filter fun s => Settles s r

/-- No settlement: the reservation is open. -/
def Unsettled (r : Reservation) : Prop := db.settlementsOf r = []

instance (r : Reservation) : Decidable (db.Unsettled r) :=
  inferInstanceAs (Decidable (_ = _))

/-- What a reservation counts for: its settled cost, else the worst case. -/
def charge (r : Reservation) : Int :=
  match db.settlementsOf r with
  | [] => r.worstCaseCostMicrousd
  | s :: _ => s.actualCostMicrousd

/-- The number of calls reserved on a ledger. -/
def calls (key : LedgerKey) : Int := (db.ofLedger key).length

/-- **What a ledger has spent**, settled or at worst. -/
def spent (key : LedgerKey) : Int := ((db.ofLedger key).map db.charge).sum

/-- The costs that the left join of a reservation with its settlements yields. -/
def joinedCosts (r : Reservation) : List Int :=
  match db.settlementsOf r with
  | [] => [r.worstCaseCostMicrousd]
  | ss => ss.map (·.actualCostMicrousd)

/-- `SELECT count(*), sum(...) FROM reservations r LEFT JOIN settlements s ...`. -/
def totals (key : LedgerKey) : Int × Int :=
  let costs := (db.ofLedger key).flatMap db.joinedCosts
  (costs.length, costs.sum)

/-! ### Writing -/

/-- The columns fit their types and pass the checks of the table. -/
def Reservation.fits (r : Reservation) : Bool :=
  0 < r.inputTokenUpperBound && r.inputTokenUpperBound < 2 ^ 63
    && 0 < r.outputTokenCeiling && r.outputTokenCeiling < 2 ^ 63
    && 0 ≤ r.worstCaseCostMicrousd && r.worstCaseCostMicrousd < 2 ^ 63

/-- The primary key and the two unique constraints let the row in. -/
def reservationFree (r : Reservation) : Bool :=
  !db.reservations.any fun r' => r'.key = r.key
    && (r'.reservationId = r.reservationId || r'.operationId = r.operationId
      || r'.invocationId = r.invocationId)

def addReservation (r : Reservation) : Tables := { db with reservations := db.reservations ++ [r] }

def Settlement.fits (s : Settlement) : Bool :=
  0 < s.inputTokens && s.inputTokens < 2 ^ 63 && 0 ≤ s.outputTokens && s.outputTokens < 2 ^ 63
    && 0 ≤ s.actualCostMicrousd && s.actualCostMicrousd < 2 ^ 63

/-- No settlement of the reservation and none of the operation. -/
def settlementFree (s : Settlement) : Bool :=
  !db.settlements.any fun s' => s'.key = s.key
    && (s'.reservationId = s.reservationId || s'.operationId = s.operationId)

def addSettlement (s : Settlement) : Tables := { db with settlements := db.settlements ++ [s] }

/-! ### Each reservation is settled once -/

/-- At most one settlement for each reservation. -/
def SettledOnce : Prop := ∀ r, (db.settlementsOf r).length ≤ 1

variable {db}

theorem settlementsOf_addSettlement (s : Settlement) (r : Reservation) :
    (db.addSettlement s).settlementsOf r
      = db.settlementsOf r ++ if Settles s r then [s] else [] := by
  simp only [settlementsOf, addSettlement, List.filter_append, List.filter_cons, List.filter_nil,
    decide_eq_true_eq]

theorem settlementsOf_eq_nil_of_free {s : Settlement} (h : db.settlementFree s = true)
    {r : Reservation} (hs : Settles s r) : db.settlementsOf r = [] := by
  rw [settlementsOf, List.filter_eq_nil_iff]
  intro s' hs' hsettles
  rw [settlementFree, Bool.not_eq_true', List.any_eq_false] at h
  apply h s' hs'
  obtain ⟨hk, hid⟩ := of_decide_eq_true hsettles
  simp [hk, hid, hs.1, hs.2]

theorem SettledOnce.addSettlement (h : db.SettledOnce) {s : Settlement}
    (hfree : db.settlementFree s = true) : (db.addSettlement s).SettledOnce := by
  intro r
  rw [settlementsOf_addSettlement]
  split
  case isTrue hs =>
    rw [settlementsOf_eq_nil_of_free hfree hs]
    exact le_rfl
  case isFalse =>
    rw [List.append_nil]
    exact h r

/-- Joined with at most one settlement, a reservation yields one row. -/
theorem joinedCosts_eq (h : db.SettledOnce) (r : Reservation) :
    db.joinedCosts r = [db.charge r] := by
  have hone := h r
  unfold joinedCosts charge
  match hs : db.settlementsOf r with
  | [] => rfl
  | [s] => rfl
  | s :: s' :: ss =>
    rw [hs] at hone
    simp at hone

/-- **The admission query reads the two numbers.** -/
theorem totals_eq (h : db.SettledOnce) (key : LedgerKey) :
    db.totals key = (db.calls key, db.spent key) := by
  have hcosts : (db.ofLedger key).flatMap db.joinedCosts = (db.ofLedger key).map db.charge := by
    rw [show db.joinedCosts = fun r => [db.charge r] from funext (joinedCosts_eq h)]
    exact List.map_eq_flatMap.symm
  simp only [totals, hcosts, List.length_map, calls, spent]

/-- Every settlement is of a reservation, by the foreign key. -/
def Referenced (db : Tables) : Prop := ∀ s ∈ db.settlements, ∃ r ∈ db.reservations, Settles s r

/-- A reservation that the keys let in is not settled yet. -/
theorem unsettled_of_free (h : db.Referenced) {r : Reservation}
    (hfree : db.reservationFree r = true) : db.Unsettled r := by
  rw [Unsettled, settlementsOf, List.filter_eq_nil_iff]
  intro s hs hsettles
  obtain ⟨r', hr', hkey', hid'⟩ := h s hs
  obtain ⟨hkey, hid⟩ := of_decide_eq_true hsettles
  rw [reservationFree, Bool.not_eq_true', List.any_eq_false] at hfree
  apply hfree r' hr'
  simp [← hkey', ← hid', hkey, hid]

theorem charge_of_unsettled {r : Reservation} (h : db.Unsettled r) :
    db.charge r = r.worstCaseCostMicrousd := by
  rw [Unsettled] at h
  rw [charge, h]

/-! ### What adding a row does to them -/

theorem ofLedger_addReservation (r : Reservation) (key : LedgerKey) :
    (db.addReservation r).ofLedger key = db.ofLedger key ++ if r.key = key then [r] else [] := by
  simp only [ofLedger, addReservation, List.filter_append, List.filter_cons, List.filter_nil,
    decide_eq_true_eq]

/-- A new reservation counts as one call and for at most its worst case. -/
theorem calls_addReservation (r : Reservation) (key : LedgerKey) :
    (db.addReservation r).calls key = db.calls key + if r.key = key then 1 else 0 := by
  rw [calls, calls, ofLedger_addReservation]
  split <;> simp

theorem spent_addReservation (r : Reservation) (key : LedgerKey) :
    (db.addReservation r).spent key = db.spent key + if r.key = key then db.charge r else 0 := by
  have hcharge : (db.addReservation r).charge = db.charge := rfl
  rw [spent, spent, ofLedger_addReservation, hcharge]
  split <;> simp

/-- A settlement that costs no more than the worst case never raises a charge. -/
theorem charge_addSettlement_le {s : Settlement} (hfree : db.settlementFree s = true)
    (hcost : ∀ r ∈ db.reservations, Settles s r → s.actualCostMicrousd ≤ r.worstCaseCostMicrousd)
    {r : Reservation} (hr : r ∈ db.reservations) :
    (db.addSettlement s).charge r ≤ db.charge r := by
  unfold charge
  rw [settlementsOf_addSettlement]
  split
  case h_1 hnil =>
    rw [(List.append_eq_nil_iff.mp hnil).1]
  case h_2 s' rest hcons =>
    split at hcons
    case isTrue hs =>
      rw [settlementsOf_eq_nil_of_free hfree hs, List.nil_append] at hcons
      cases hcons
      rw [settlementsOf_eq_nil_of_free hfree hs]
      exact hcost r hr hs
    case isFalse =>
      rw [List.append_nil] at hcons
      rw [hcons]

/-- **A settlement never raises what a ledger has spent.** -/
theorem spent_addSettlement_le {s : Settlement} (hfree : db.settlementFree s = true)
    (hcost : ∀ r ∈ db.reservations, Settles s r → s.actualCostMicrousd ≤ r.worstCaseCostMicrousd)
    (key : LedgerKey) : (db.addSettlement s).spent key ≤ db.spent key := by
  apply List.sum_le_sum
  intro r hr
  exact charge_addSettlement_le hfree hcost (List.mem_of_mem_filter hr)

/-! ### Keys -/

theorem policy_key {key : LedgerKey} {p : Policy} (h : db.policy key = some p) : p.key = key := by
  simpa using List.find?_some h

/-- Two reservations of one ledger share neither id nor operation nor invocation. -/
structure Keyed (db : Tables) : Prop where
  nodup : db.reservations.Nodup
  eq_of_shared : ∀ {r r'}, r ∈ db.reservations → r' ∈ db.reservations → r.key = r'.key →
    (r.reservationId = r'.reservationId ∨ r.operationId = r'.operationId
      ∨ r.invocationId = r'.invocationId) → r = r'

theorem reservationFree_iff {r : Reservation} :
    db.reservationFree r = true ↔ ∀ r' ∈ db.reservations, r'.key = r.key →
      r'.reservationId ≠ r.reservationId ∧ r'.operationId ≠ r.operationId
        ∧ r'.invocationId ≠ r.invocationId := by
  simp only [reservationFree, Bool.not_eq_true', List.any_eq_false, Bool.and_eq_true,
    decide_eq_true_eq, Bool.or_eq_true, not_and, not_or, ne_eq, and_assoc]

theorem not_mem_of_free {r : Reservation} (hfree : db.reservationFree r = true) :
    r ∉ db.reservations := by
  intro hr
  exact (reservationFree_iff.mp hfree r hr rfl).1 rfl

/-- A row that the keys keep out shares something with a row that is there. -/
theorem not_shared_of_free {r r' : Reservation} (hfree : db.reservationFree r = true)
    (hr' : r' ∈ db.reservations) (hkey : r'.key = r.key) :
    ¬ (r'.reservationId = r.reservationId ∨ r'.operationId = r.operationId
      ∨ r'.invocationId = r.invocationId) := by
  obtain ⟨hid, hop, hinv⟩ := reservationFree_iff.mp hfree r' hr' hkey
  rintro (h | h | h)
  · exact hid h
  · exact hop h
  · exact hinv h

theorem Keyed.addReservation (h : db.Keyed) {r : Reservation} (hfree : db.reservationFree r = true) :
    (db.addReservation r).Keyed where
  nodup := by
    refine List.nodup_append.mpr ⟨h.nodup, List.nodup_singleton r, ?_⟩
    intro x hx y hy hxy
    rw [List.mem_singleton.mp hy] at hxy
    exact not_mem_of_free hfree (hxy ▸ hx)
  eq_of_shared := by
    intro x y hx hy hkey hshared
    rcases List.mem_append.mp hx with hx | hx <;> rcases List.mem_append.mp hy with hy | hy
    · exact h.eq_of_shared hx hy hkey hshared
    · rw [List.mem_singleton.mp hy] at hkey hshared
      exact absurd hshared (not_shared_of_free hfree hx hkey)
    · rw [List.mem_singleton.mp hx] at hkey hshared
      refine absurd ?_ (not_shared_of_free hfree hy hkey.symm)
      exact hshared.imp Eq.symm (Or.imp Eq.symm Eq.symm)
    · rw [List.mem_singleton.mp hx, List.mem_singleton.mp hy]

/-- A reservation of another ledger takes no key. -/
theorem reservationFree_addReservation {r r' : Reservation} (h : db.reservationFree r = true)
    (hne : r'.key ≠ r.key) : (db.addReservation r').reservationFree r = true := by
  rw [reservationFree_iff]
  intro x hx hkey
  rcases List.mem_append.mp hx with hx | hx
  · exact reservationFree_iff.mp h x hx hkey
  · rw [List.mem_singleton.mp hx] at hkey
    exact absurd hkey hne

theorem settlementFree_iff {s : Settlement} :
    db.settlementFree s = true ↔ ∀ s' ∈ db.settlements, s'.key = s.key →
      s'.reservationId ≠ s.reservationId ∧ s'.operationId ≠ s.operationId := by
  simp only [settlementFree, Bool.not_eq_true', List.any_eq_false, Bool.and_eq_true,
    decide_eq_true_eq, Bool.or_eq_true, not_and, not_or, ne_eq]

end Tables

end Budget

end AgentPlatform
