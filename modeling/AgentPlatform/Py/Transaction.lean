/-
AgentPlatform/Py/Transaction.lean

Database transactions over an arbitrary state. A transaction body either
raises or returns a value with the state it wrote; `transaction` runs it as
`with connection.transaction():` does: the state is kept when the body returns
and rolled back when it raises. A call is what the caller sees, the outcome
together with the state it leaves behind.

The rules used elsewhere: `bind_eq_ok` and `ite_error_eq_ok` take a body apart,
`transaction_cases` splits a call into commit and rollback, and
`invariant_of_run` carries a one-step invariant along a run.
-/
import Mathlib

namespace Py

universe u

variable {σ ε : Type*} {α β : Type u}

/-- A transaction body: raise, or return a value and the written state. -/
abbrev Body (σ ε α : Type*) := σ → Except ε (α × σ)

/-- Run a body as one transaction. -/
def transaction (body : Body σ ε α) (s : σ) : Except ε α × σ :=
  match body s with
  | .ok (a, s') => (.ok a, s')
  | .error e => (.error e, s)

theorem transaction_ok {body : Body σ ε α} {s s' : σ} {a : α} (h : body s = .ok (a, s')) :
    transaction body s = (.ok a, s') := by
  simp only [transaction, h]

/-- **Rollback.** A body that raises leaves the state as it was. -/
theorem transaction_error {body : Body σ ε α} {s : σ} {e : ε} (h : body s = .error e) :
    transaction body s = (.error e, s) := by
  simp only [transaction, h]

/-- A transaction either committed what its body wrote or changed nothing. -/
theorem transaction_cases (body : Body σ ε α) (s : σ) :
    (∃ a s', body s = .ok (a, s') ∧ transaction body s = (.ok a, s')) ∨
      (∃ e, body s = .error e ∧ transaction body s = (.error e, s)) := by
  rcases h : body s with e | ⟨a, s'⟩
  · exact .inr ⟨e, rfl, transaction_error h⟩
  · exact .inl ⟨a, s', rfl, transaction_ok h⟩

theorem body_of_transaction {body : Body σ ε α} {s : σ} {a : α}
    (h : (transaction body s).1 = .ok a) : body s = .ok (a, (transaction body s).2) := by
  rcases transaction_cases body s with ⟨a', s', hb, ht⟩ | ⟨e, -, ht⟩
  · rw [ht] at h ⊢
    cases h
    exact hb
  · rw [ht] at h
    cases h

/-- A property of the state holds after a transaction if it held before and the
body establishes it. -/
theorem transaction_state {body : Body σ ε α} {s : σ} {P : σ → Prop} (hs : P s)
    (ok : ∀ a s', body s = .ok (a, s') → P s') : P (transaction body s).2 := by
  rcases transaction_cases body s with ⟨a, s', hb, h⟩ | ⟨e, -, h⟩
  · rw [h]
    exact ok a s' hb
  · rw [h]
    exact hs

theorem bind_eq_ok {x : Except ε α} {f : α → Except ε β} {b : β} :
    (x >>= f) = .ok b ↔ ∃ a, x = .ok a ∧ f a = .ok b := by
  constructor
  · intro h
    cases x with
    | error e => cases h
    | ok a => exact ⟨a, rfl, h⟩
  · rintro ⟨a, rfl, h⟩
    exact h

/-- What follows a body is asked about its results only. -/
theorem bind_congr_ok {x : Except ε α} {f g : α → Except ε β} (h : ∀ a, x = .ok a → f a = g a) :
    (x >>= f) = x >>= g := by
  cases x with
  | error e => rfl
  | ok a => exact h a rfl

theorem map_eq_ok {x : Except ε α} {f : α → β} {b : β} :
    x.map f = .ok b ↔ ∃ a, x = .ok a ∧ f a = b := by
  cases x with
  | error e => simp [Except.map]
  | ok a => simp [Except.map]

/-- A result together with the equation it comes from. -/
def attach (x : Except ε α) : Except ε { a // x = .ok a } :=
  match x with
  | .error e => .error e
  | .ok a => .ok ⟨a, rfl⟩

theorem attach_bind_eq_ok {x : Except ε α} {f : { a // x = .ok a } → Except ε β} {b : β} :
    (attach x >>= f) = .ok b ↔ ∃ a, ∃ h : x = .ok a, f ⟨a, h⟩ = .ok b := by
  cases x with
  | error e =>
    constructor
    · intro h
      cases h
    · rintro ⟨a, ha, -⟩
      cases ha
  | ok a =>
    constructor
    · intro h
      exact ⟨a, rfl, h⟩
    · rintro ⟨_, ⟨⟩, h⟩
      exact h

theorem exists_of_isOk {α : Type*} {x : Except ε α} (h : x.isOk = true) : ∃ a, x = .ok a := by
  cases x with
  | error e => cases h
  | ok a => exact ⟨a, rfl⟩

/-- A check that did not raise. -/
theorem eq_ok_of_isOk {x : Except ε Unit} (h : x.isOk = true) : x = .ok () := by
  cases x with
  | error e => cases h
  | ok u => rfl

/-- A guard that raises lets the body go on only where it holds. -/
theorem ite_error_eq_ok {c : Prop} [Decidable c] {e : ε} {x : Except ε α} {a : α} :
    (if c then x else .error e) = .ok a ↔ c ∧ x = .ok a := by
  split <;> simp_all

theorem ite_error_eq_ok' {c : Prop} [Decidable c] {e : ε} {x : Except ε α} {a : α} :
    (if c then .error e else x) = .ok a ↔ ¬ c ∧ x = .ok a := by
  split <;> simp_all

/-- A loop of checks passes when every check does. -/
theorem forM_eq_ok {α : Type*} {f : α → Except ε Unit} {l : List α} :
    l.forM f = .ok () ↔ ∀ a ∈ l, f a = .ok () := by
  induction l with
  | nil => simp [pure, Except.pure]
  | cons a l ih =>
    show (f a >>= fun _ => l.forM f) = .ok () ↔ _
    rw [bind_eq_ok, List.forall_mem_cons, ← ih]
    constructor
    · rintro ⟨⟨⟩, ha, hl⟩
      exact ⟨ha, hl⟩
    · rintro ⟨ha, hl⟩
      exact ⟨(), ha, hl⟩

/-- A loop that collects results, item by item. -/
theorem mapM_eq_ok {ε α β : Type*} {f : α → Except ε β} {l : List α} {r : List β} :
    l.mapM f = .ok r ↔ List.Forall₂ (fun a b => f a = .ok b) l r := by
  induction l generalizing r with
  | nil =>
    rw [List.mapM_nil, List.forall₂_nil_left_iff]
    constructor
    · intro h
      cases h
      rfl
    · rintro rfl
      rfl
  | cons a l ih =>
    rw [List.mapM_cons, bind_eq_ok, List.forall₂_cons_left_iff]
    constructor
    · rintro ⟨b, hb, h⟩
      obtain ⟨r', hr', h⟩ := bind_eq_ok.mp h
      cases h
      exact ⟨b, r', hb, ih.mp hr', rfl⟩
    · rintro ⟨b, r', hb, hr', rfl⟩
      exact ⟨b, hb, bind_eq_ok.mpr ⟨r', ih.mpr hr', rfl⟩⟩

/-- Every result comes from an item. -/
theorem exists_of_forall₂ {α β : Type*} {R : α → β → Prop} {l : List α} {r : List β}
    (h : List.Forall₂ R l r) : ∀ b ∈ r, ∃ a ∈ l, R a b := by
  induction h with
  | nil => simp
  | cons hab _ ih =>
    rw [List.forall_mem_cons]
    refine ⟨⟨_, List.mem_cons_self, hab⟩, fun b hb => ?_⟩
    obtain ⟨a, ha, hr⟩ := ih b hb
    exact ⟨a, List.mem_cons_of_mem _ ha, hr⟩

/-- An error comes from one of the two parts. -/
theorem bind_ne_error {x : Except ε α} {f : α → Except ε β} {e : ε} (hx : x ≠ .error e)
    (hf : ∀ a, f a ≠ .error e) : (x >>= f) ≠ .error e := by
  cases x with
  | error e' =>
    rintro ⟨⟩
    exact hx rfl
  | ok a => exact hf a

theorem mapM_ne_error {α β : Type*} {f : α → Except ε β} {l : List α} {e : ε}
    (h : ∀ a, f a ≠ .error e) : l.mapM f ≠ .error e := by
  induction l with
  | nil =>
    rw [List.mapM_nil]
    nofun
  | cons a l ih =>
    rw [List.mapM_cons]
    exact bind_ne_error (h a) fun b => bind_ne_error ih fun r => nofun

/-- A missing value raises `e`. -/
def orRaise {ε α : Type*} (e : ε) : Option α → Except ε α
  | none => .error e
  | some a => .ok a

@[simp] theorem orRaise_eq_ok {ε α : Type*} {e : ε} {o : Option α} {a : α} :
    orRaise e o = .ok a ↔ o = some a := by
  cases o <;> simp [orRaise]

/-- The value where the condition holds. -/
def guarded {α : Type*} (c : Bool) (a : α) : Option α := if c then some a else none

@[simp] theorem guarded_eq_some {α : Type*} {c : Bool} {a b : α} :
    guarded c a = some b ↔ c = true ∧ a = b := by
  unfold guarded
  cases c <;> simp

theorem invariant_of_run {r : σ → σ → Prop} {P : σ → Prop}
    (step : ∀ s s', P s → r s s' → P s') {s s' : σ} (h : Relation.ReflTransGen r s s')
    (hs : P s) : P s' := by
  induction h with
  | refl => exact hs
  | tail _ hr ih => exact step _ _ ih hr

end Py
