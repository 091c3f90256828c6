/-
AgentPlatform/Draft/Adapters.lean

When the two repositories of draft invocations answer alike.

An operation suits the tables if it meets the constraints of the database.
**Main result:** `agrees_iff`, the in-memory repository answers an operation as
the database does exactly if the operation suits; the two then hold the same
invocations afterwards (`after_memory`). An operation that does not suit is one
that the database refuses and the memory takes.
-/
import AgentPlatform.Draft.Memory
import AgentPlatform.Draft.Service

namespace AgentPlatform

open Py

namespace Draft

/-! ### Answers of the two -/

/-- Two operations both raise, or answer alike. -/
def SameAnswer {α β γ : Type} : Except Fault (α × β) → Except Fault (α × γ) → Prop
  | .ok (a, _), .ok (b, _) => a = b
  | .error _, .error _ => True
  | _, _ => False

/-- The two repositories answer alike. The operations of the ports do not
count. -/
def Agrees (t : Tables) (m : Memory) : Op → Prop
  | .getByKey scope principalId key =>
    t.getByKey scope principalId key = .ok (m.getByKey scope principalId key)
  | .getContextHead scope contextId =>
    t.getContextHead scope contextId = .ok (m.getContextHead scope contextId)
  | .get scope invocationId => t.get scope invocationId = .ok (m.get scope invocationId)
  | .reread _ lost => t.get lost.scope lost.invocationId = .ok (m.get lost.scope lost.invocationId)
  | .claim c => SameAnswer (t.claim c) (m.claim c)
  | .compareAndSet _ expected r => SameAnswer (t.compareAndSet expected r) (m.compareAndSet expected r)
  | _ => True

/-- The tables after an operation. -/
def Tables.after (t : Tables) : Op → Tables
  | .claim c => match t.claim c with | .ok (_, t') => t' | .error _ => t
  | .compareAndSet _ expected r =>
    match t.compareAndSet expected r with | .ok (_, t') => t' | .error _ => t
  | _ => t

/-- The memory after an operation. -/
def Memory.after (m : Memory) : Op → Memory
  | .claim c => match m.claim c with | .ok (_, m') => m' | .error _ => m
  | .compareAndSet _ expected r =>
    match m.compareAndSet expected r with | .ok (_, m') => m' | .error _ => m
  | _ => m

/-- The operation suits the constraints of the database: its texts are without
U+0000, its numbers fit, and the claim of a new key takes no identifier and no
ordinal of a stored turn. -/
def Suits (t : Tables) : Op → Prop
  | .getByKey scope principalId key =>
    (plain scope.namespace_ && plain scope.securityDomain && plain principalId && plain key) = true
  | .getContextHead scope contextId =>
    (plain scope.namespace_ && plain scope.securityDomain && plain contextId) = true
  | .get scope invocationId =>
    (plain scope.namespace_ && plain scope.securityDomain && plain invocationId) = true
  | .reread _ lost =>
    (plain lost.scope.namespace_ && plain lost.scope.securityDomain && plain lost.invocationId) = true
  | .claim c => claimStorable c = true
    ∧ (t.claimed c.scope c.initiatingPrincipalId c.scopedIdempotencyKey = none → t.Acceptable c)
  | .compareAndSet _ expected r =>
    (plain r.scope.namespace_ && plain r.scope.securityDomain && plain r.invocationId) = true
      ∧ ∀ v, (t.history r.key).getLast? = some v → v.aggregateVersion = expected →
        versionStorable r = true
  | _ => True

/-- What the service writes: claims are first versions, and replacements have
the next number. -/
def Numbered : Op → Prop
  | .claim c => c.aggregateVersion = 1
  | .compareAndSet _ expected r => r.aggregateVersion = expected + 1
  | _ => True

namespace Tables

variable {t : Tables}

/-- A claim that loses changes nothing. -/
theorem claim_lost {c answer : DraftInvocation} {t' : Tables}
    (h : t.claim c = .ok ((answer, false), t')) : t' = t := by
  rw [claim] at h
  split at h
  · cases h
  · split at h
    · split at h
      · cases h
      · cases h
      · cases h
        rfl
    · split at h
      · cases h
      · cases hinsert : t.insertClaim c with
        | error e =>
          rw [hinsert] at h
          cases h
        | ok t'' =>
          rw [hinsert] at h
          cases h

/-- A compare-and-set that loses changes nothing. -/
theorem compareAndSet_lost {expected : Nat} {r : DraftInvocation} {t' : Tables}
    (h : t.compareAndSet expected r = .ok (none, t')) : t' = t := by
  rw [compareAndSet] at h
  repeat' split at h
  all_goals first | (cases h; done) | (cases h; rfl)

end Tables

namespace Tables.Valid

variable {t : Tables} {op : Op}

/-- An operation that suits leaves both in the same state. -/
theorem after_memory (hv : t.Valid) (hn : Numbered op) (h : Suits t op) :
    (t.after op).memory = t.memory.after op := by
  cases op with
  | claim c =>
    obtain ⟨a, t', ht, hm⟩ := hv.claim_memory hn h.1 h.2
    simp only [after, Memory.after, ht, hm]
  | compareAndSet site expected r =>
    obtain ⟨a, t', ht, hm⟩ := hv.compareAndSet_memory hn h.1 h.2
    simp only [after, Memory.after, ht, hm]
  | _ => rfl

theorem claim_memory_ok (hv : t.Valid) (c : DraftInvocation) : ∃ a, t.memory.claim c = .ok a := by
  rw [Memory.claim, memory_claimed]
  cases hc : t.claimed c.scope c.initiatingPrincipalId c.scopedIdempotencyKey with
  | none => exact ⟨_, rfl⟩
  | some invocationId =>
    obtain ⟨v, hmem, -⟩ := hv.claimed _ _ _ _ hc
    dsimp only
    rw [hv.find_memory]
    cases hlast : (t.history (c.scope, invocationId)).getLast? with
    | none =>
      rw [List.getLast?_eq_none_iff.mp hlast] at hmem
      cases hmem
    | some current => exact ⟨_, rfl⟩

/-- A write of the service is taken by the memory. -/
theorem compareAndSet_memory_ok {expected : Nat} {r : DraftInvocation}
    (hn : r.aggregateVersion = expected + 1) :
    ∃ a, t.memory.compareAndSet expected r = .ok a := by
  rw [Memory.compareAndSet]
  split
  · exact ⟨_, rfl⟩
  · split
    · exact ⟨_, rfl⟩
    · rw [if_neg (not_not.mpr hn)]
      exact ⟨_, rfl⟩

theorem acceptable_of_insertClaim (hv : t.Valid) {c : DraftInvocation} {t' : Tables}
    (h : t.insertClaim c = .ok t') : t.Acceptable c := by
  rw [insertClaim] at h
  split at h
  · cases h
  · next hturn =>
    split at h
    · cases h
    · next hturns =>
      split at h
      · cases h
      · next hrows =>
        split at h
        · cases h
        · next hversion =>
          simp only [Bool.or_eq_true, not_or, Bool.not_eq_true, List.any_eq_false, Bool.and_eq_true,
            decide_eq_true_eq] at hturns
          rw [Bool.not_eq_true, hv.invocationRows, List.any_map, List.any_eq_false] at hrows
          simp only [Bool.or_eq_true, not_or, Bool.not_eq_true, Bool.not_eq_false,
            decide_eq_false_iff_not] at hversion
          refine ⟨eq_true_of_ne_false hturn, ?_, fun f hf hkey => ?_,
            fun u hu hs ht => hturns.1 u hu ⟨hs, ht⟩,
            fun u hu hs hx ho => hturns.2 u hu ⟨⟨hs, hx⟩, ho⟩⟩
          · exact hversion.1
          · refine hrows f hf ?_
            simp only [Function.comp_apply, InvocationRow.of, Bool.and_eq_true]
            exact ⟨decide_eq_true (congrArg Prod.fst hkey), decide_eq_true (congrArg Prod.snd hkey)⟩

theorem suits_of_claim (hv : t.Valid) {c : DraftInvocation}
    {a : (DraftInvocation × Bool) × Tables} (h : t.claim c = .ok a) : Suits t (.claim c) := by
  rw [Tables.claim] at h
  split at h
  · cases h
  · next hstorable =>
    refine ⟨eq_true_of_ne_false hstorable, fun hc => ?_⟩
    rw [hc] at h
    dsimp only at h
    split at h
    · cases h
    · cases hinsert : t.insertClaim c with
      | error e =>
        rw [hinsert] at h
        cases h
      | ok t' => exact hv.acceptable_of_insertClaim hinsert

theorem suits_of_compareAndSet (hv : t.Valid) {site : Site} {expected : Nat} {r : DraftInvocation}
    {a : Option DraftInvocation × Tables} (h : t.compareAndSet expected r = .ok a) :
    Suits t (.compareAndSet site expected r) := by
  rw [Tables.compareAndSet] at h
  split at h
  · cases h
  · next hplain =>
    refine ⟨eq_true_of_ne_false hplain, fun v hlast hversion => ?_⟩
    have hpresent := hv.present r.key (List.ne_nil_of_mem (List.mem_of_getLast? hlast))
    rw [if_neg (by
      rw [show (t.invocations.any fun i => i.scope = r.scope && i.invocationId = r.invocationId)
        = true from hpresent]
      decide), hv.latest_eq, hlast] at h
    dsimp only at h
    rw [if_neg (not_not.mpr hversion)] at h
    split at h
    · cases h
    · next hstorable =>
      simp only [Bool.or_eq_true, not_or, Bool.not_eq_true, Bool.not_eq_false,
        decide_eq_false_iff_not] at hstorable
      exact hstorable.1

/-- **Both answer alike exactly if the operation suits.** -/
theorem agrees_iff (hv : t.Valid) (hn : Numbered op) : Agrees t t.memory op ↔ Suits t op := by
  cases op with
  | getByKey scope principalId key =>
    refine ⟨fun h => ?_, hv.getByKey_memory⟩
    by_contra hplain
    rw [Suits] at hplain
    rw [Agrees, getByKey, if_neg hplain] at h
    cases h
  | getContextHead scope contextId =>
    refine ⟨fun h => ?_, hv.getContextHead_memory⟩
    by_contra hplain
    rw [Suits] at hplain
    rw [Agrees, getContextHead, if_neg hplain] at h
    cases h
  | get scope invocationId =>
    refine ⟨fun h => ?_, hv.get_memory⟩
    by_contra hplain
    rw [Suits] at hplain
    rw [Agrees, get, if_neg hplain] at h
    cases h
  | reread site lost =>
    refine ⟨fun h => ?_, hv.get_memory⟩
    by_contra hplain
    rw [Suits] at hplain
    rw [Agrees, get, if_neg hplain] at h
    cases h
  | claim c =>
    constructor
    · intro h
      obtain ⟨a, ha⟩ := hv.claim_memory_ok c
      rw [Agrees, ha] at h
      cases hc : t.claim c with
      | error e =>
        rw [hc] at h
        exact h.elim
      | ok b => exact hv.suits_of_claim hc
    · intro h
      obtain ⟨a, t', ht, hm⟩ := hv.claim_memory hn h.1 h.2
      rw [Agrees, ht, hm]
      exact rfl
  | compareAndSet site expected r =>
    constructor
    · intro h
      obtain ⟨a, ha⟩ := compareAndSet_memory_ok (t := t) hn
      rw [Agrees, ha] at h
      cases hc : t.compareAndSet expected r with
      | error e =>
        rw [hc] at h
        exact h.elim
      | ok b => exact hv.suits_of_compareAndSet hc
    · intro h
      obtain ⟨a, t', ht, hm⟩ := hv.compareAndSet_memory hn h.1 h.2
      rw [Agrees, ht, hm]
      exact rfl
  | _ => exact Iff.rfl

end Tables.Valid

end Draft

end AgentPlatform
