/-
AgentPlatform/Py/Sorted.lean

`sorted(items, key=key)`: a stable sort by a key with a linear order.

Sorting forgets the order of the items as long as no two of them share a key
(`sortedBy_perm`). The last item of a sorted list has the greatest key
(`sortedBy_getLast`), the first one the least (`sortedBy_head`). Lists whose items
agree one by one still do so when both are sorted (`sortedBy_forall₂`).
-/
import Mathlib

namespace Py

variable {α κ : Type*} [LinearOrder κ]

def sortedBy (key : α → κ) (items : List α) : List α :=
  items.insertionSort fun a b => key a ≤ key b

section Sorting

variable {key : α → κ} {l l' : List α}

instance keyTotal (key : α → κ) : Std.Total fun a b : α => key a ≤ key b :=
  ⟨fun a b => le_total (key a) (key b)⟩

instance keyTrans (key : α → κ) : IsTrans α fun a b => key a ≤ key b :=
  ⟨fun _ _ _ h h' => le_trans h h'⟩

theorem perm_sortedBy (key : α → κ) (l : List α) : (sortedBy key l).Perm l :=
  List.perm_insertionSort _ l

@[simp] theorem mem_sortedBy {a : α} : a ∈ sortedBy key l ↔ a ∈ l := (perm_sortedBy key l).mem_iff

theorem pairwise_sortedBy (key : α → κ) (l : List α) :
    (sortedBy key l).Pairwise fun a b => key a ≤ key b := List.pairwise_insertionSort _ l

/-- A sorted list with distinct keys is determined by its items. -/
theorem eq_of_sorted (hl : l.Pairwise fun a b => key a ≤ key b)
    (hl' : l'.Pairwise fun a b => key a ≤ key b) (hp : l.Perm l')
    (hinj : ∀ a ∈ l, ∀ b ∈ l, key a = key b → a = b) : l = l' := by
  refine List.Perm.eq_of_pairwise (fun a b ha hb hab hba => ?_) hl hl' hp
  exact hinj a ha b (hp.mem_iff.mpr hb) (le_antisymm hab hba)

/-- **Sorting forgets the order** of items with distinct keys. -/
theorem sortedBy_perm (hp : l.Perm l') (hinj : ∀ a ∈ l, ∀ b ∈ l, key a = key b → a = b) :
    sortedBy key l = sortedBy key l' := by
  refine eq_of_sorted (pairwise_sortedBy key l) (pairwise_sortedBy key l')
    ((perm_sortedBy key l).trans (hp.trans (perm_sortedBy key l').symm)) ?_
  intro a ha b hb
  exact hinj a (mem_sortedBy.mp ha) b (mem_sortedBy.mp hb)

/-- Sorting a sorted list does nothing. -/
theorem sortedBy_eq_self (hl : l.Pairwise fun a b => key a ≤ key b) : sortedBy key l = l :=
  hl.insertionSort_eq

/-- The last item has the greatest key. -/
theorem sortedBy_getLast {a : α} (h : (sortedBy key l).getLast? = some a) :
    a ∈ l ∧ ∀ b ∈ l, key b ≤ key a := by
  obtain ⟨init, hinit⟩ := List.getLast?_eq_some_iff.mp h
  have hsorted := pairwise_sortedBy key l
  rw [hinit, List.pairwise_append] at hsorted
  refine ⟨mem_sortedBy.mp (by rw [hinit]; simp), fun b hb => ?_⟩
  have hmem : b ∈ sortedBy key l := mem_sortedBy.mpr hb
  rw [hinit, List.mem_append, List.mem_singleton] at hmem
  rcases hmem with hmem | rfl
  · exact hsorted.2.2 b hmem a (by simp)
  · exact le_rfl

/-- The first item has the least key. -/
theorem sortedBy_head {a : α} (h : (sortedBy key l).head? = some a) :
    a ∈ l ∧ ∀ b ∈ l, key a ≤ key b := by
  obtain ⟨rest, hrest⟩ := List.head?_eq_some_iff.mp h
  have hsorted := pairwise_sortedBy key l
  rw [hrest, List.pairwise_cons] at hsorted
  refine ⟨mem_sortedBy.mp (by rw [hrest]; simp), fun b hb => ?_⟩
  have hmem : b ∈ sortedBy key l := mem_sortedBy.mpr hb
  rw [hrest, List.mem_cons] at hmem
  rcases hmem with rfl | hmem
  · exact le_rfl
  · exact hsorted.1 b hmem

/-- Sorting keeps two lists in step when their items agree on the key. -/
theorem sortedBy_forall₂ {β : Type*} {key' : β → κ} {R : α → β → Prop} {r : List β}
    (h : List.Forall₂ R l r) (hkey : ∀ a b, R a b → key a = key' b) :
    List.Forall₂ R (sortedBy key l) (sortedBy key' r) := by
  have insert : ∀ {a b l r}, R a b → List.Forall₂ R l r →
      List.Forall₂ R (l.orderedInsert (fun a b => key a ≤ key b) a)
        (r.orderedInsert (fun a b => key' a ≤ key' b) b) := by
    intro a b l r hab h
    induction h with
    | nil => exact .cons hab .nil
    | cons hcd h ih =>
      rw [List.orderedInsert_cons, List.orderedInsert_cons, hkey _ _ hab, hkey _ _ hcd]
      split
      · exact .cons hab (.cons hcd h)
      · exact .cons hcd ih
  induction h with
  | nil => exact .nil
  | cons hab _ ih => exact insert hab ih

end Sorting

/-! ### Keys made of several parts -/

/-- The order of tuples of three. -/
abbrev Triple (κ₁ κ₂ κ₃ : Type*) := κ₁ ×ₗ (κ₂ ×ₗ κ₃)

def triple {κ₁ κ₂ κ₃ : Type*} (a : κ₁) (b : κ₂) (c : κ₃) : Triple κ₁ κ₂ κ₃ := toLex (a, toLex (b, c))

theorem triple_inj {κ₁ κ₂ κ₃ : Type*} {a a' : κ₁} {b b' : κ₂} {c c' : κ₃}
    (h : triple a b c = triple a' b' c') : a = a' ∧ b = b' ∧ c = c' := by
  have h₁ := Prod.ext_iff.mp (toLex_inj.mp h)
  have h₂ := Prod.ext_iff.mp (toLex_inj.mp h₁.2)
  exact ⟨h₁.1, h₂.1, h₂.2⟩

end Py
