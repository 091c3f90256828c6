/-
AgentPlatform/Py/Table.lean

Relational tables with a primary key, as association lists with distinct keys
(Mathlib's `AList`), and the two queries over all rows that a repository makes:
`SELECT ... ORDER BY ... LIMIT 1` (`selectFirst`) and the existence test behind
a `UNIQUE` constraint (`anyRow`). Lookup, insert and update by key are
`AList.lookup` and `AList.insert`.
-/
import Mathlib

namespace Py

variable {κ α : Type*} [DecidableEq κ]

/-- A table with primary key `κ` and rows `α`. -/
abbrev Table (κ α : Type*) := AList fun _ : κ => α

namespace Table

/-- The row that no other row comes before. -/
def first (before : κ × α → κ × α → Bool) : List (κ × α) → Option (κ × α)
  | [] => none
  | r :: rows =>
    match first before rows with
    | none => some r
    | some r' => if before r' r then some r' else some r

omit [DecidableEq κ] in
theorem first_mem {before : κ × α → κ × α → Bool} {rows : List (κ × α)} {r : κ × α}
    (h : first before rows = some r) : r ∈ rows := by
  induction rows with
  | nil => cases h
  | cons r₀ rows ih =>
    simp only [first] at h
    rcases e : first before rows with _ | r'
    · rw [e] at h
      cases h
      exact List.mem_cons_self
    · rw [e] at h
      simp only at h
      split at h
      · cases h
        exact List.mem_cons_of_mem _ (ih e)
      · cases h
        exact List.mem_cons_self

/-- `SELECT ... WHERE p ORDER BY before LIMIT 1`. -/
def selectFirst (p : κ → α → Bool) (before : κ × α → κ × α → Bool) (t : Table κ α) :
    Option (κ × α) :=
  first before ((t.entries.filter fun e => p e.1 e.2).map fun e => (e.1, e.2))

theorem selectFirst_spec {p : κ → α → Bool} {before : κ × α → κ × α → Bool} {t : Table κ α}
    {k : κ} {a : α} (h : t.selectFirst p before = some (k, a)) :
    t.lookup k = some a ∧ p k a = true := by
  have hm := first_mem h
  simp only [List.mem_map, List.mem_filter, Prod.mk.injEq] at hm
  obtain ⟨e, ⟨he, hp⟩, rfl, rfl⟩ := hm
  exact ⟨AList.mem_lookup_iff.mpr he, hp⟩

/-- A row found after a write is the written one or was there before. -/
theorem lookup_insert_cases {t : Table κ α} {k k' : κ} {a b : α}
    (h : (t.insert k a).lookup k' = some b) :
    (k' = k ∧ b = a) ∨ (k' ≠ k ∧ t.lookup k' = some b) := by
  by_cases hk : k' = k
  · subst hk
    rw [AList.lookup_insert] at h
    exact .inl ⟨rfl, (Option.some.inj h).symm⟩
  · rw [AList.lookup_insert_ne hk] at h
    exact .inr ⟨hk, h⟩

/-- A new row leaves the stored ones. -/
theorem lookup_insert_new {t : Table κ α} {k k' : κ} {a b : α} (hk : t.lookup k = none)
    (h : t.lookup k' = some b) : (t.insert k a).lookup k' = some b := by
  have hne : k' ≠ k := by
    rintro rfl
    rw [hk] at h
    cases h
  rwa [AList.lookup_insert_ne hne]

/-- `UPDATE` of all rows. -/
def mapRows (f : κ → α → α) (t : Table κ α) : Table κ α :=
  ⟨t.entries.map (Sigma.map id f), t.nodupKeys.map₂ f⟩

theorem lookup_mapRows (f : κ → α → α) (t : Table κ α) (k : κ) :
    (t.mapRows f).lookup k = (t.lookup k).map (f k) :=
  List.dlookup_map₂ k

/-! ### Dictionaries -/

/-- `{k: f(k) for k in keys}`. -/
def ofKeys (keys : List κ) (f : κ → α) : Table κ α :=
  keys.foldl (fun t k => t.insert k (f k)) ∅

theorem lookup_foldl_insert (f : κ → α) (keys : List κ) (t : Table κ α) (k : κ) :
    (keys.foldl (fun t k => t.insert k (f k)) t).lookup k
      = if k ∈ keys then some (f k) else t.lookup k := by
  induction keys generalizing t with
  | nil => simp
  | cons x keys ih =>
    rw [List.foldl_cons, ih]
    by_cases hk : k ∈ keys
    · simp [hk]
    · by_cases hx : k = x
      · subst hx
        simp [hk]
      · simp [hk, hx, AList.lookup_insert_ne hx]

theorem lookup_ofKeys (keys : List κ) (f : κ → α) (k : κ) :
    (ofKeys keys f).lookup k = if k ∈ keys then some (f k) else none := by
  rw [ofKeys, lookup_foldl_insert]
  simp

/-- `a == b` on dictionaries: the order of the entries does not count. -/
def same [DecidableEq α] (a b : Table κ α) : Bool :=
  (a.keys ++ b.keys).all fun k => a.lookup k = b.lookup k

/-! ### Queries -/

/-- Some row satisfies `p`. -/
def anyRow (p : κ → α → Bool) (t : Table κ α) : Bool :=
  t.entries.any fun e => p e.1 e.2

theorem anyRow_eq_true {p : κ → α → Bool} {t : Table κ α} :
    t.anyRow p = true ↔ ∃ k a, t.lookup k = some a ∧ p k a = true := by
  simp only [anyRow, List.any_eq_true]
  constructor
  · rintro ⟨e, he, hp⟩
    exact ⟨e.1, e.2, AList.mem_lookup_iff.mpr he, hp⟩
  · rintro ⟨k, a, hl, hp⟩
    exact ⟨⟨k, a⟩, AList.mem_lookup_iff.mp hl, hp⟩

theorem anyRow_eq_false {p : κ → α → Bool} {t : Table κ α} :
    t.anyRow p = false ↔ ∀ k a, t.lookup k = some a → p k a = false := by
  rw [← Bool.not_eq_true, anyRow_eq_true]
  simp only [not_exists, not_and, Bool.not_eq_true]

end Table

/-- A `UNIQUE` column selects at most one row. -/
theorem length_filter_map_le_one {α β : Type*} [DecidableEq β] {f : α → β} {xs : List α}
    (h : (xs.map f).Nodup) (b : β) : (xs.filter fun a => f a = b).length ≤ 1 := by
  have hc := List.nodup_iff_count_le_one.mp h b
  rw [List.count, List.countP_map, List.countP_eq_length_filter] at hc
  simpa [Function.comp_def, beq_eq_decide] using hc

/-- What selects a row by a `UNIQUE` column selects it alone. -/
theorem filter_eq_singleton {α β : Type*} {f : α → β} {xs : List α} {a : α} {p : α → Bool}
    (h : (xs.map f).Nodup) (ha : a ∈ xs) (hp : p a = true) (hf : ∀ b ∈ xs, p b = true → f b = f a) :
    xs.filter p = [a] := by
  induction xs with
  | nil => cases ha
  | cons x xs ih =>
    obtain ⟨hx, hxs⟩ := List.nodup_cons.mp h
    rcases List.mem_cons.mp ha with rfl | ha
    · have hnone : xs.filter p = [] := by
        rw [List.filter_eq_nil_iff]
        intro b hb hpb
        exact hx (hf b (List.mem_cons_of_mem _ hb) hpb ▸ List.mem_map_of_mem hb)
      rw [List.filter_cons_of_pos hp, hnone]
    · have hpx : p x = false := by
        rw [Bool.eq_false_iff]
        intro hpx
        exact hx (hf x List.mem_cons_self hpx ▸ List.mem_map_of_mem ha)
      rw [List.filter_cons_of_neg (by rw [hpx]; exact Bool.false_ne_true)]
      exact ih hxs ha fun b hb => hf b (List.mem_cons_of_mem _ hb)

/-- A row added under a `UNIQUE` constraint on the column `f`. -/
theorem nodup_map_concat {α β : Type*} {f : α → β} {xs : List α} {a : α}
    (h : (xs.map f).Nodup) (hn : f a ∉ xs.map f) : ((xs ++ [a]).map f).Nodup := by
  rw [List.map_append, List.map_singleton, ← List.concat_eq_append]
  exact h.concat hn

end Py
