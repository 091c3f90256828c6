/-
AgentPlatform/Order/SortBy.lean

Sorting by a key, over arbitrary types: `sorted(items, key=...)`.

The sort is stable, so its result is known from the items of each key in the order
they are given: **`sortBy_eq_iff`**. In particular the order does not matter where
the key tells the items apart (`sortBy_eq_of_perm`).
-/
import Mathlib

namespace Sorting

variable {α β : Type*} [LinearOrder β] (key : α → β)

/-- `sorted(items, key=key)`. -/
def sortBy (l : List α) : List α := l.insertionSort fun a b => key a ≤ key b

@[simp] theorem sortBy_nil : sortBy key [] = [] := rfl

theorem perm_sortBy (l : List α) : (sortBy key l).Perm l := List.perm_insertionSort _ l

@[simp] theorem mem_sortBy {l : List α} {a : α} : a ∈ sortBy key l ↔ a ∈ l :=
  (perm_sortBy key l).mem_iff

@[simp] theorem length_sortBy (l : List α) : (sortBy key l).length = l.length :=
  (perm_sortBy key l).length_eq

@[simp] theorem sortBy_eq_nil {l : List α} : sortBy key l = [] ↔ l = [] := by
  rw [← List.length_eq_zero_iff, length_sortBy, List.length_eq_zero_iff]

theorem pairwise_sortBy (l : List α) : (sortBy key l).Pairwise fun a b => key a ≤ key b := by
  have htotal : Std.Total fun a b : α => key a ≤ key b := ⟨fun a b => le_total (key a) (key b)⟩
  have htrans : IsTrans α fun a b => key a ≤ key b := ⟨fun _ _ _ hab hbc => hab.trans hbc⟩
  exact List.pairwise_insertionSort _ l

theorem map_sortBy (l : List α) : (sortBy key l).map key = (l.map key).insertionSort (· ≤ ·) :=
  List.map_insertionSort _ _ key l fun _ _ _ _ => Iff.rfl

/-- **The sort is stable.** -/
theorem filter_sortBy (l : List α) (k : β) :
    (sortBy key l).filter (key · = k) = l.filter (key · = k) := by
  have htotal : Std.Total fun a b : α => key a ≤ key b := ⟨fun a b => le_total (key a) (key b)⟩
  have htrans : IsTrans α fun a b => key a ≤ key b := ⟨fun _ _ _ hab hbc => hab.trans hbc⟩
  have hsame : (l.filter (key · = k)).Pairwise fun a b => key a ≤ key b := by
    refine List.pairwise_of_forall_mem_list fun a ha b hb => ?_
    have ha := of_decide_eq_true (List.mem_filter.mp ha).2
    have hb := of_decide_eq_true (List.mem_filter.mp hb).2
    exact (ha.trans hb.symm).le
  have hsub := (List.sublist_insertionSort hsame List.filter_sublist).filter (key · = k)
  simp only [List.filter_filter, Bool.and_self] at hsub
  refine (hsub.eq_of_length ?_).symm
  exact ((perm_sortBy key l).filter _).length_eq.symm

variable {key}

/-- Two sorted lists with the same items of each key are equal. -/
theorem eq_of_filter_eq {l l' : List α} (hl : l.Pairwise fun a b => key a ≤ key b)
    (hl' : l'.Pairwise fun a b => key a ≤ key b)
    (h : ∀ k, l.filter (key · = k) = l'.filter (key · = k)) : l = l' := by
  have hmem : ∀ {l l' : List α}, (∀ k, l.filter (key · = k) = l'.filter (key · = k)) →
      ∀ a ∈ l, a ∈ l' := by
    intro l l' h a ha
    have hfilter : a ∈ l.filter (key · = key a) := List.mem_filter.mpr ⟨ha, by simp⟩
    rw [h] at hfilter
    exact (List.mem_filter.mp hfilter).1
  induction l generalizing l' with
  | nil =>
    rcases l' with _ | ⟨b, l'⟩
    · rfl
    · cases hmem (fun k => (h k).symm) b List.mem_cons_self
  | cons a l ih =>
    rcases l' with _ | ⟨b, l'⟩
    · cases hmem h a List.mem_cons_self
    obtain ⟨ha, htail⟩ := List.pairwise_cons.mp hl
    obtain ⟨hb, htail'⟩ := List.pairwise_cons.mp hl'
    -- both heads have the least key
    have hab : key a ≤ key b := by
      rcases List.mem_cons.mp (hmem (fun k => (h k).symm) b List.mem_cons_self) with rfl | hmem
      · exact le_rfl
      · exact ha b hmem
    have hba : key b ≤ key a := by
      rcases List.mem_cons.mp (hmem h a List.mem_cons_self) with rfl | hmem
      · exact le_rfl
      · exact hb a hmem
    have hkey := le_antisymm hab hba
    have hhead := h (key a)
    rw [List.filter_cons_of_pos (by simp), List.filter_cons_of_pos (by simp [hkey])] at hhead
    obtain ⟨rfl, -⟩ := List.cons.inj hhead
    refine congrArg (a :: ·) (ih htail htail' fun k => ?_)
    have htails := h k
    by_cases hk : key a = k
    · rw [List.filter_cons_of_pos (by simpa using hk),
        List.filter_cons_of_pos (by simpa using hk)] at htails
      exact (List.cons.inj htails).2
    · rwa [List.filter_cons_of_neg (by simpa using hk),
        List.filter_cons_of_neg (by simpa using hk)] at htails

/-- **What the result of a sort depends on.** -/
theorem sortBy_eq_iff {l l' : List α} :
    sortBy key l = sortBy key l' ↔ ∀ k, l.filter (key · = k) = l'.filter (key · = k) := by
  constructor
  · intro h k
    rw [← filter_sortBy key l, ← filter_sortBy key l', h]
  · intro h
    refine eq_of_filter_eq (pairwise_sortBy key l) (pairwise_sortBy key l') fun k => ?_
    rw [filter_sortBy, filter_sortBy, h]

/-- Where the key tells the items apart their order does not matter. -/
theorem sortBy_eq_of_perm {l l' : List α} (h : l.Perm l') (hkey : Set.InjOn key {a | a ∈ l}) :
    sortBy key l = sortBy key l' := by
  have hperm : (sortBy key l).Perm (sortBy key l') :=
    (perm_sortBy key l).trans (h.trans (perm_sortBy key l').symm)
  refine hperm.eq_of_pairwise (fun a b ha hb hab hba => ?_) (pairwise_sortBy key l)
    (pairwise_sortBy key l')
  exact hkey ((mem_sortBy key).mp ha) (h.mem_iff.mpr ((mem_sortBy key).mp hb)) (le_antisymm hab hba)

/-- The sorted keys do not look at the order. -/
theorem map_sortBy_eq_of_perm {l l' : List α} (h : l.Perm l') :
    (sortBy key l).map key = (sortBy key l').map key := by
  rw [map_sortBy, map_sortBy]
  have hperm := (List.perm_insertionSort (· ≤ ·) (l.map key)).trans
    ((h.map key).trans (List.perm_insertionSort (· ≤ ·) (l'.map key)).symm)
  exact hperm.eq_of_pairwise' (List.pairwise_insertionSort _ _) (List.pairwise_insertionSort _ _)

end Sorting
