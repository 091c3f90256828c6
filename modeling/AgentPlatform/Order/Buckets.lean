/-
AgentPlatform/Order/Buckets.lean

Items collected under their keys: a `defaultdict(list)` that is filled in one pass, as
the list of its entries in the order of insertion, and the distinct items of a list in
the order they are met.

**`buckets_spec`**: each key that occurs has one bucket, which holds the items of that
key in the order they are given.
-/
import Mathlib

namespace Sorting

/-! ### Distinct items -/

section Firsts

variable {α : Type*} [DecidableEq α]

/-- The loop `if item not in found: found.append(item)`. -/
def firsts (l : List α) : List α := l.foldl (fun found a => if a ∈ found then found else found ++ [a]) []

theorem firsts_concat (l : List α) (a : α) :
    firsts (l ++ [a]) = if a ∈ firsts l then firsts l else firsts l ++ [a] := by
  rw [firsts, List.foldl_concat]
  rfl

@[simp] theorem mem_firsts {l : List α} {a : α} : a ∈ firsts l ↔ a ∈ l := by
  induction l using List.reverseRecOn generalizing a with
  | nil => rfl
  | append_singleton l b ih =>
    rw [firsts_concat, List.mem_append, List.mem_singleton]
    split
    · rename_i hb
      rw [ih]
      exact ⟨.inl, fun h => h.elim id fun h => h ▸ ih.mp hb⟩
    · rw [List.mem_append, List.mem_singleton, ih]

theorem nodup_firsts (l : List α) : (firsts l).Nodup := by
  induction l using List.reverseRecOn with
  | nil => exact List.nodup_nil
  | append_singleton l b ih =>
    rw [firsts_concat]
    split
    · exact ih
    · rename_i hnew
      exact List.nodup_append_comm.mp (List.nodup_cons.mpr ⟨hnew, ih⟩)

/-- Lists with the same items have the same distinct items. -/
theorem firsts_perm {l l' : List α} (h : ∀ a, a ∈ l ↔ a ∈ l') : (firsts l).Perm (firsts l') :=
  (List.perm_ext_iff_of_nodup (nodup_firsts l) (nodup_firsts l')).mpr fun a => by
    rw [mem_firsts, mem_firsts, h]

theorem length_firsts (l : List α) : (firsts l).length = l.toFinset.card := by
  rw [← List.toFinset_card_of_nodup (nodup_firsts l)]
  exact congrArg _ (Finset.ext fun a => by rw [List.mem_toFinset, List.mem_toFinset, mem_firsts])

theorem firsts_ne_nil {l : List α} (h : l ≠ []) : firsts l ≠ [] := by
  obtain ⟨a, ha⟩ := List.exists_mem_of_ne_nil l h
  exact List.ne_nil_of_mem (mem_firsts.mpr ha)

end Firsts

/-! ### Buckets -/

variable {α κ : Type*} [DecidableEq κ] {key : α → κ}

/-- `buckets[k].append(a)`. -/
def addTo (k : κ) (a : α) : List (κ × List α) → List (κ × List α)
  | [] => [(k, [a])]
  | (k', items) :: rest => if k' = k then (k', items ++ [a]) :: rest else (k', items) :: addTo k a rest

/-- The dictionary after the loop over the items. -/
def buckets (key : α → κ) (l : List α) : List (κ × List α) :=
  l.foldl (fun found a => addTo (key a) a found) []

theorem buckets_concat (l : List α) (a : α) :
    buckets key (l ++ [a]) = addTo (key a) a (buckets key l) := by
  rw [buckets, List.foldl_concat]
  rfl

theorem map_fst_addTo (k : κ) (a : α) (bs : List (κ × List α)) :
    (addTo k a bs).map Prod.fst =
      if k ∈ bs.map Prod.fst then bs.map Prod.fst else bs.map Prod.fst ++ [k] := by
  induction bs with
  | nil => rfl
  | cons b bs ih =>
    obtain ⟨k', items⟩ := b
    rw [addTo]
    by_cases hk : k' = k
    · simp [hk]
    · rw [if_neg hk, List.map_cons, ih]
      by_cases hmem : k ∈ bs.map Prod.fst <;> simp_all [Ne.symm hk]

/-- What an entry is after an item is added. -/
theorem mem_addTo {k k' : κ} {a : α} {items : List α} {bs : List (κ × List α)}
    (hn : (bs.map Prod.fst).Nodup) :
    (k', items) ∈ addTo k a bs ↔
      (k' ≠ k ∧ (k', items) ∈ bs) ∨
        (k' = k ∧ ((∃ before, (k, before) ∈ bs ∧ items = before ++ [a]) ∨
          (k ∉ bs.map Prod.fst ∧ items = [a]))) := by
  induction bs with
  | nil => simp [addTo]
  | cons b bs ih =>
    obtain ⟨l, before⟩ := b
    obtain ⟨hl, hn⟩ := List.nodup_cons.mp hn
    rw [addTo]
    by_cases hk : l = k
    · subst hk
      have hnone : ∀ items, (l, items) ∉ bs := fun items hmem =>
        hl (List.mem_map.mpr ⟨(l, items), hmem, rfl⟩)
      rw [if_pos rfl]
      by_cases hk' : k' = l
      · subst hk'
        simp [hnone]
      · simp [hk']
    · rw [if_neg hk, List.mem_cons, ih hn]
      by_cases hk' : k' = k
      · subst hk'
        simp [Ne.symm hk]
      · simp [hk']

/-- **What the buckets are.** -/
theorem buckets_spec (key : α → κ) (l : List α) :
    ((buckets key l).map Prod.fst).Nodup ∧
      ∀ k items, (k, items) ∈ buckets key l ↔ items = l.filter (key · = k) ∧ items ≠ [] := by
  induction l using List.reverseRecOn with
  | nil =>
    refine ⟨List.nodup_nil, fun k items => iff_of_false List.not_mem_nil ?_⟩
    rintro ⟨rfl, hne⟩
    exact hne rfl
  | append_singleton l a ih =>
    obtain ⟨hn, hmem⟩ := ih
    have hkeys : ∀ k, k ∈ (buckets key l).map Prod.fst ↔ l.filter (key · = k) ≠ [] := by
      intro k
      constructor
      · intro hk
        obtain ⟨⟨k, items⟩, hp, rfl⟩ := List.mem_map.mp hk
        obtain ⟨rfl, hne⟩ := (hmem k items).mp hp
        exact hne
      · intro hne
        exact List.mem_map_of_mem ((hmem k _).mpr ⟨rfl, hne⟩)
    rw [buckets_concat]
    refine ⟨?_, fun k items => ?_⟩
    · rw [map_fst_addTo]
      split
      · exact hn
      · rename_i hnew
        exact List.nodup_append_comm.mp (List.nodup_cons.mpr ⟨hnew, hn⟩)
    · rw [mem_addTo hn, List.filter_append]
      by_cases hk : k = key a
      · subst hk
        rw [List.filter_singleton, decide_eq_true rfl]
        constructor
        · rintro (⟨hne, -⟩ | ⟨-, ⟨before, hb, rfl⟩ | ⟨hfresh, rfl⟩⟩)
          · exact absurd rfl hne
          · obtain ⟨rfl, -⟩ := (hmem _ _).mp hb
            exact ⟨rfl, by simp⟩
          · rw [not_not.mp (mt (hkeys (key a)).mpr hfresh)]
            exact ⟨rfl, by simp⟩
        · rintro ⟨rfl, -⟩
          refine .inr ⟨rfl, ?_⟩
          by_cases hold : l.filter (key · = key a) = []
          · rw [hold]
            exact .inr ⟨mt (hkeys (key a)).mp (not_not.mpr hold), rfl⟩
          · exact .inl ⟨_, (hmem _ _).mpr ⟨rfl, hold⟩, rfl⟩
      · have hk' : key a ≠ k := Ne.symm hk
        simp_all

variable {k : κ} {items : List α} {l : List α}

theorem mem_buckets : (k, items) ∈ buckets key l ↔ items = l.filter (key · = k) ∧ items ≠ [] :=
  (buckets_spec key l).2 k items

/-- The buckets hold the items. -/
theorem flatMap_buckets (key : α → κ) (l : List α) : ((buckets key l).flatMap Prod.snd).Perm l := by
  induction l using List.reverseRecOn with
  | nil => exact List.Perm.refl _
  | append_singleton l a ih =>
    have hadd : ∀ bs : List (κ × List α),
        ((addTo (key a) a bs).flatMap Prod.snd).Perm (bs.flatMap Prod.snd ++ [a]) := by
      intro bs
      induction bs with
      | nil => exact List.Perm.refl _
      | cons b bs ihb =>
        obtain ⟨k, items⟩ := b
        rw [addTo]
        split
        · simp only [List.flatMap_cons, List.append_assoc]
          exact List.Perm.append_left _ List.perm_append_comm
        · simp only [List.flatMap_cons, List.append_assoc]
          exact List.Perm.append_left _ ihb
    rw [buckets_concat]
    exact (hadd _).trans (ih.append_right _)

end Sorting
