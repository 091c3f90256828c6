/-
AgentPlatform/Order/Layers.lean

The layers of a dependency relation, over an arbitrary type.

The height of an item is the length of the longest chain of dependencies below it
(`IsHeight`). A function that is above all dependencies of an item, and one above the
highest of them, gives the heights (`Graded.isHeight`); there is one exactly if no item
depends on itself (`exists_graded_iff`).
-/
import AgentPlatform.Order.Acyclic

namespace Layers

open Kahn

variable {α : Type*} {names l : List α} {deps deps' : α → List α} {height height' : α → Nat}

/-! ### Chains -/

/-- A chain of `n` dependencies starts at an item. -/
inductive Reaches (deps : α → List α) : Nat → α → Prop
  | here (a : α) : Reaches deps 0 a
  | link {n : Nat} {a b : α} (hb : b ∈ deps a) (h : Reaches deps n b) : Reaches deps (n + 1) a

/-- The longest chain at an item has `n` dependencies. -/
def IsHeight (deps : α → List α) (a : α) (n : Nat) : Prop :=
  Reaches deps n a ∧ ∀ m, Reaches deps m a → m ≤ n

theorem IsHeight.unique {a : α} {m n : Nat} (hm : IsHeight deps a m) (hn : IsHeight deps a n) : m = n :=
  Nat.le_antisymm (hn.2 m hm.1) (hm.2 n hn.1)

/-! ### Gradings -/

/-- Each item is above what it depends on, and one above some of it unless it is at the
bottom. -/
structure Graded (names : List α) (deps : α → List α) (height : α → Nat) : Prop where
  below : ∀ a ∈ names, ∀ b ∈ deps a, height b < height a
  step : ∀ a ∈ names, height a ≠ 0 → ∃ b ∈ deps a, height a = height b + 1

/-- A chain is no longer than its first item is high. -/
theorem Graded.le (hg : Graded names deps height) (hclosed : ∀ a ∈ names, ∀ b ∈ deps a, b ∈ names)
    {n : Nat} {a : α} (h : Reaches deps n a) (ha : a ∈ names) : n ≤ height a := by
  induction h with
  | here a => exact Nat.zero_le _
  | @link n a b hb _ ih =>
    have hbelow := hg.below a ha b hb
    have hn := ih (hclosed a ha b hb)
    omega

/-- **A grading gives the heights.** -/
theorem Graded.isHeight (hg : Graded names deps height)
    (hclosed : ∀ a ∈ names, ∀ b ∈ deps a, b ∈ names) {a : α} (ha : a ∈ names) :
    IsHeight deps a (height a) := by
  refine ⟨?_, fun m hm => hg.le hclosed hm ha⟩
  induction hn : height a generalizing a with
  | zero => exact .here a
  | succ n ih =>
    obtain ⟨b, hb, heq⟩ := hg.step a ha (by omega)
    exact .link hb (ih (hclosed a ha b hb) (by omega))

/-- An item has a height if all that it depends on has one. -/
theorem exists_isHeight_of_deps {a : α} (h : ∀ b ∈ deps a, ∃ n, IsHeight deps b n) :
    ∃ n, IsHeight deps a n := by
  have hbound : ∀ l : List α, (∀ b ∈ l, ∃ n, IsHeight deps b n) → l ≠ [] →
      ∃ b ∈ l, ∃ n, IsHeight deps b n ∧ ∀ c ∈ l, ∀ m, IsHeight deps c m → m ≤ n := by
    intro l
    induction l with
    | nil => exact fun _ hne => absurd rfl hne
    | cons x l ih =>
      intro hall _
      obtain ⟨nx, hx⟩ := hall x List.mem_cons_self
      by_cases hl : l = []
      · refine ⟨x, List.mem_cons_self, nx, hx, fun c hc m hm => ?_⟩
        rw [hl, List.mem_singleton] at hc
        rw [hc] at hm
        exact (hm.unique hx).le
      · obtain ⟨b, hb, n, hn, hmax⟩ := ih (fun b hb => hall b (List.mem_cons_of_mem _ hb)) hl
        rcases Nat.le_total nx n with hle | hle
        · refine ⟨b, List.mem_cons_of_mem _ hb, n, hn, fun c hc m hm => ?_⟩
          rcases List.mem_cons.mp hc with rfl | hc
          · exact (hm.unique hx).le.trans hle
          · exact hmax c hc m hm
        · refine ⟨x, List.mem_cons_self, nx, hx, fun c hc m hm => ?_⟩
          rcases List.mem_cons.mp hc with rfl | hc
          · exact (hm.unique hx).le
          · exact (hmax c hc m hm).trans hle
  by_cases hnil : deps a = []
  · refine ⟨0, .here a, fun m hm => ?_⟩
    cases hm with
    | here => exact Nat.le_refl 0
    | link hb _ =>
      rw [hnil] at hb
      cases hb
  · obtain ⟨b, hb, n, hn, hmax⟩ := hbound (deps a) h hnil
    refine ⟨n + 1, .link hb hn.1, fun m hm => ?_⟩
    cases hm with
    | here => exact Nat.zero_le _
    | @link k _ c hc hk =>
      obtain ⟨mc, hmc⟩ := h c hc
      have hle := hmc.2 k hk
      have hle' := hmax c hc mc hmc
      omega

/-- **There is a grading exactly if no item depends on itself.** -/
theorem exists_graded_iff (hclosed : ∀ a ∈ names, ∀ b ∈ deps a, b ∈ names) :
    (∃ height, Graded names deps height) ↔ Acyclic names deps := by
  constructor
  · rintro ⟨height, hg⟩ a ha hcycle
    have hlt : ∀ b, Relation.TransGen (fun a b => b ∈ deps a) a b → b ∈ names ∧ height b < height a := by
      intro b hb
      induction hb with
      | single hb => exact ⟨hclosed a ha _ hb, hg.below a ha _ hb⟩
      | tail _ hc ih => exact ⟨hclosed _ ih.1 _ hc, (hg.below _ ih.1 _ hc).trans ih.2⟩
    exact Nat.lt_irrefl _ (hlt a hcycle).2
  · intro hacyclic
    have hall : ∀ a ∈ names, ∃ n, IsHeight deps a n :=
      acyclic_induction hclosed hacyclic fun a _ ih => exists_isHeight_of_deps ih
    classical
    let height : α → Nat := fun a => if h : ∃ n, IsHeight deps a n then h.choose else 0
    have hheight : ∀ a ∈ names, IsHeight deps a (height a) := by
      intro a ha
      simp only [height, dif_pos (hall a ha)]
      exact (hall a ha).choose_spec
    refine ⟨height, ?_, ?_⟩
    · intro a ha b hb
      exact (hheight a ha).2 _ (.link hb (hheight b (hclosed a ha b hb)).1)
    · intro a ha hne
      have hreach := (hheight a ha).1
      obtain ⟨n, hn⟩ := Nat.exists_eq_succ_of_ne_zero hne
      rw [hn] at hreach
      cases hreach with
      | @link _ _ b hb hreach =>
        have hbn := (hheight b (hclosed a ha b hb)).2 n hreach
        have hab := (hheight a ha).2 _ (.link hb (hheight b (hclosed a ha b hb)).1)
        exact ⟨b, hb, by omega⟩

end Layers
