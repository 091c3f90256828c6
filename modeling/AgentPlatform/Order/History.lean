/-
AgentPlatform/Order/History.lean

Histories of a state machine over an arbitrary type of states: numbered steps,
each with the state it left and the state it entered. A history begins without
a state; `edge` says which steps are allowed.

`Path` is the inductive form, in which a history grows at its end. The explicit
facts about it are the ones a reader of the stored steps can check: the ordinals
are 1 to n, each step starts where the one before it ended, and every step is an
edge.

Where steps are only known to have their predecessors, in any order, distinct
ordinals are still 1 to n (`perm_range_of_predecessors`).
-/
import Mathlib

namespace History

variable {σ : Type*} {edge : Option σ → σ → Prop}

structure Step (σ : Type*) where
  ordinal : Nat
  source : Option σ
  target : σ

/-- The steps lead to the state, along edges. -/
inductive Path (edge : Option σ → σ → Prop) : List (Step σ) → σ → Prop
  | start {y : σ} (h : edge none y) : Path edge [⟨1, none, y⟩] y
  | next {steps : List (Step σ)} {x y : σ} (path : Path edge steps x) (h : edge (some x) y) :
      Path edge (steps ++ [⟨steps.length + 1, some x, y⟩]) y

namespace Path

variable {steps : List (Step σ)} {x : σ}

/-- The ordinals are 1 to n, without gaps. -/
theorem ordinals (h : Path edge steps x) :
    steps.map (·.ordinal) = List.range' 1 steps.length := by
  induction h with
  | start => rfl
  | next _ _ ih =>
    rw [List.map_append, ih, List.length_append, List.length_singleton, List.range'_1_concat,
      Nat.add_comm]
    rfl

/-- The first step enters the machine. -/
theorem head (h : Path edge steps x) :
    ∃ s, steps.head? = some s ∧ s.ordinal = 1 ∧ s.source = none ∧ edge none s.target := by
  induction h with
  | start hy => exact ⟨_, rfl, rfl, rfl, hy⟩
  | next path _ ih =>
    obtain ⟨s, hs, hrest⟩ := ih
    refine ⟨s, ?_, hrest⟩
    rw [List.head?_append, hs]
    rfl

theorem edges (h : Path edge steps x) : ∀ s ∈ steps, edge s.source s.target := by
  induction h with
  | start hy => simpa using hy
  | next _ hy ih =>
    intro s hs
    rcases List.mem_append.mp hs with hs | hs
    · exact ih s hs
    · cases List.mem_singleton.mp hs
      exact hy

/-- The last step enters the state. -/
theorem last (h : Path edge steps x) : steps.getLast?.map (·.target) = some x := by
  cases h with
  | start => rfl
  | next => simp

/-- Each step starts where the one before it ended. -/
theorem chain (h : Path edge steps x) :
    steps.IsChain fun a b => b.source = some a.target := by
  induction h with
  | start => simp
  | @next steps x y path _ ih =>
    refine ih.append (List.isChain_singleton _) fun a ha b hb => ?_
    have hl := path.last
    rw [ha] at hl
    cases hb
    exact hl.symm

/-- No step is numbered beyond the length. -/
theorem ordinal_le (h : Path edge steps x) {s : Step σ} (hs : s ∈ steps) :
    1 ≤ s.ordinal ∧ s.ordinal ≤ steps.length := by
  have hm : s.ordinal ∈ steps.map (·.ordinal) := List.mem_map_of_mem hs
  rw [h.ordinals, List.mem_range'_1] at hm
  omega

end Path

/-! ### Ordinals in any order -/

/-- A number below a member that is at least one is a member. -/
theorem mem_of_le_of_predecessors {l : List Int} (hpred : ∀ x ∈ l, x = 1 ∨ x - 1 ∈ l) {x k : Int}
    (hx : x ∈ l) (hk : 1 ≤ k) (hkx : k ≤ x) : k ∈ l := by
  obtain ⟨d, hd⟩ := Int.le.dest hkx
  induction d generalizing x with
  | zero =>
    have : k = x := by omega
    rwa [this]
  | succ d ih =>
    rcases hpred x hx with rfl | hx'
    · omega
    · exact ih hx' (by omega) (by omega)

/-- Distinct numbers that have their predecessors among them are at least one. -/
theorem one_le_of_predecessors {l : List Int} (hpred : ∀ x ∈ l, x = 1 ∨ x - 1 ∈ l) {x : Int}
    (hx : x ∈ l) : 1 ≤ x := by
  have hne : l.toFinset.Nonempty := ⟨x, List.mem_toFinset.mpr hx⟩
  have hmin := List.mem_toFinset.mp (l.toFinset.min'_mem hne)
  have hle := l.toFinset.min'_le x (List.mem_toFinset.mpr hx)
  rcases hpred _ hmin with h1 | hless
  · omega
  · have := l.toFinset.min'_le _ (List.mem_toFinset.mpr hless)
    omega

/-- **Distinct numbers that have their predecessors among them are the first
ones.** -/
theorem perm_range_of_predecessors {l : List Int} (hn : l.Nodup)
    (hpred : ∀ x ∈ l, x = 1 ∨ x - 1 ∈ l) :
    l.Perm ((List.range l.length).map fun k : Nat => (k : Int) + 1) := by
  have hrange : ((List.range l.length).map fun k : Nat => (k : Int) + 1).Nodup :=
    List.nodup_range.map fun a b h => by simpa using h
  suffices hsub : l ⊆ (List.range l.length).map fun k : Nat => (k : Int) + 1 by
    exact (List.subperm_of_subset hn hsub).perm_of_length_le (by simp)
  intro x hx
  have h1 := one_le_of_predecessors hpred hx
  have hcard : x.toNat ≤ l.length := by
    have hsub : Finset.Icc 1 x ⊆ l.toFinset := fun k hk => by
      obtain ⟨hk, hkx⟩ := Finset.mem_Icc.mp hk
      exact List.mem_toFinset.mpr (mem_of_le_of_predecessors hpred hx hk hkx)
    have := Finset.card_le_card hsub
    rw [Int.card_Icc, List.toFinset_card_of_nodup hn] at this
    omega
  refine List.mem_map.mpr ⟨x.toNat - 1, List.mem_range.mpr (by omega), by omega⟩

end History
