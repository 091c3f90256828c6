/-
AgentPlatform/Py/Dict.lean

Python dictionaries: the entries in the order in which their keys came in, each
key once. Setting a key that is there keeps its place; `moveToEnd` is the method
of `OrderedDict`.

Design. A dictionary is used through `get?`, and each operation has one lemma
that says what `get?` gives after it. The entries themselves matter only where a
loop goes through them.
-/
import Mathlib

namespace Py

/-- A dictionary. -/
structure Dict (κ α : Type*) where
  entries : List (κ × α)
  nodup : (entries.map Prod.fst).Nodup

namespace Dict

variable {κ α : Type*}

def empty : Dict κ α := ⟨[], List.nodup_nil⟩

def keys (d : Dict κ α) : List κ := d.entries.map Prod.fst

def size (d : Dict κ α) : Nat := d.entries.length

/-- Some of the entries. -/
def restrict (d : Dict κ α) (entries : List (κ × α))
    (h : (entries.map Prod.fst).Sublist d.keys) : Dict κ α :=
  ⟨entries, d.nodup.sublist h⟩

theorem restrict_eq_self {d : Dict κ α} {entries : List (κ × α)}
    (h : (entries.map Prod.fst).Sublist d.keys) (heq : entries = d.entries) :
    d.restrict entries h = d := by
  subst heq
  rfl

variable [DecidableEq κ] {d : Dict κ α} {k k' : κ} {a : α}

/-- The value of the first entry of a key. -/
def find (k : κ) : List (κ × α) → Option α
  | [] => none
  | (k', a) :: rest => if k' = k then some a else find k rest

def get? (d : Dict κ α) (k : κ) : Option α := find k d.entries

theorem find_eq_none {entries : List (κ × α)} :
    find k entries = none ↔ k ∉ entries.map Prod.fst := by
  induction entries with
  | nil => simp [find]
  | cons e rest ih =>
    obtain ⟨k', a⟩ := e
    by_cases hk : k' = k
    · simp [find, hk]
    · simp [find, hk, ih, Ne.symm hk]

theorem mem_of_find {entries : List (κ × α)} (h : find k entries = some a) : (k, a) ∈ entries := by
  induction entries with
  | nil => cases h
  | cons e rest ih =>
    obtain ⟨k', b⟩ := e
    by_cases hk : k' = k
    · simp only [find, if_pos hk, Option.some.injEq] at h
      rw [hk, h]
      exact List.mem_cons_self
    · simp only [find, if_neg hk] at h
      exact List.mem_cons_of_mem _ (ih h)

theorem find_of_mem {entries : List (κ × α)} (hn : (entries.map Prod.fst).Nodup)
    (h : (k, a) ∈ entries) : find k entries = some a := by
  induction entries with
  | nil => cases h
  | cons e rest ih =>
    obtain ⟨k', b⟩ := e
    rw [List.map_cons, List.nodup_cons] at hn
    rcases List.mem_cons.mp h with heq | hmem
    · cases heq
      exact if_pos rfl
    · have hne : k' ≠ k := fun heq =>
        hn.1 (List.mem_map.mpr ⟨_, hmem, heq.symm⟩)
      rw [find, if_neg hne, ih hn.2 hmem]

/-- **The entries are what `get?` gives.** -/
theorem get?_eq_some : d.get? k = some a ↔ (k, a) ∈ d.entries :=
  ⟨mem_of_find, find_of_mem d.nodup⟩

theorem get?_eq_none : d.get? k = none ↔ k ∉ d.keys := find_eq_none

@[simp] theorem get?_empty : (empty : Dict κ α).get? k = none := rfl

theorem find_append (entries rest : List (κ × α)) :
    find k (entries ++ rest) = (find k entries).or (find k rest) := by
  induction entries with
  | nil => rfl
  | cons e entries ih =>
    obtain ⟨k', b⟩ := e
    by_cases hk : k' = k
    · simp [find, hk]
    · simp [find, hk, ih]

/-! ### Setting a key -/

/-- The value of a key replaced. -/
def replace (k : κ) (a : α) (entries : List (κ × α)) : List (κ × α) :=
  entries.map fun e => if e.1 = k then (k, a) else e

theorem keys_replace (entries : List (κ × α)) :
    (replace k a entries).map Prod.fst = entries.map Prod.fst := by
  rw [replace, List.map_map]
  apply List.map_congr_left
  intro e _
  by_cases he : e.1 = k
  · simp [he]
  · simp [he]

theorem find_replace (entries : List (κ × α)) (k' : κ) :
    find k' (replace k a entries)
      = if k = k' ∧ k ∈ entries.map Prod.fst then some a else find k' entries := by
  induction entries with
  | nil => simp [replace, find]
  | cons e rest ih =>
    obtain ⟨k'', b⟩ := e
    rw [replace, List.map_cons]
    change find k' (_ :: replace k a rest) = _
    by_cases hk : k'' = k
    · by_cases hk' : k = k'
      · simp [find, hk, hk']
      · simp [find, hk, hk', ih]
    · have hk₁ : ¬ k = k'' := fun h => hk h.symm
      by_cases hk' : k'' = k'
      · have hk₂ : ¬ k = k' := fun h => hk (hk'.trans h.symm)
        rw [if_neg hk]
        simp [find, hk', hk₂]
      · have hmem : (k = k' ∧ k ∈ List.map Prod.fst ((k'', b) :: rest))
            ↔ k = k' ∧ k ∈ List.map Prod.fst rest := by
          simp [hk₁]
        simp only [if_neg hk, find, if_neg hk', ih, hmem]

/-- `d[k] = a`. -/
def set (d : Dict κ α) (k : κ) (a : α) : Dict κ α :=
  if h : k ∈ d.keys then ⟨replace k a d.entries, by rw [keys_replace]; exact d.nodup⟩
  else ⟨d.entries ++ [(k, a)], by
    rw [List.map_append, List.map_cons, List.map_nil, ← List.concat_eq_append]
    exact d.nodup.concat h⟩

theorem get?_set (d : Dict κ α) (k : κ) (a : α) (k' : κ) :
    (d.set k a).get? k' = if k = k' then some a else d.get? k' := by
  rw [set]
  split
  · next h =>
    change find k' (replace k a d.entries) = _
    rw [find_replace]
    simp [show k ∈ d.entries.map Prod.fst from h, get?]
  · next h =>
    change find k' (d.entries ++ [(k, a)]) = _
    rw [find_append]
    by_cases hk : k = k'
    · rw [← hk, show find k d.entries = none from find_eq_none.mpr h]
      simp [find]
    · simp [find, hk, get?]

@[simp] theorem get?_set_self (d : Dict κ α) (k : κ) (a : α) : (d.set k a).get? k = some a := by
  rw [get?_set, if_pos rfl]

theorem get?_set_of_ne (d : Dict κ α) (a : α) (h : k ≠ k') :
    (d.set k a).get? k' = d.get? k' := by
  rw [get?_set, if_neg h]

theorem entries_set_of_new (h : d.get? k = none) : (d.set k a).entries = d.entries ++ [(k, a)] := by
  rw [set, dif_neg (get?_eq_none.mp h)]

theorem replace_eq_self {entries : List (κ × α)} (hn : (entries.map Prod.fst).Nodup)
    (h : (k, a) ∈ entries) : replace k a entries = entries := by
  rw [replace]
  conv_rhs => rw [← List.map_id entries]
  apply List.map_congr_left
  intro e he
  split
  · next hk => exact List.inj_on_of_nodup_map hn h he hk.symm
  · rfl

theorem set_eq_self (h : d.get? k = some a) : d.set k a = d := by
  have hmem : (k, a) ∈ d.entries := get?_eq_some.mp h
  have hkey : k ∈ d.keys := List.mem_map.mpr ⟨_, hmem, rfl⟩
  rw [set, dif_pos hkey]
  cases d
  simp only [mk.injEq]
  exact replace_eq_self ‹_› hmem

/-! ### Removing keys -/

/-- `d.pop(k, None)`. -/
def pop (d : Dict κ α) (k : κ) : Dict κ α :=
  d.restrict (d.entries.filter fun e => e.1 ≠ k) (List.filter_sublist.map _)

theorem get?_pop (d : Dict κ α) (k k' : κ) :
    (d.pop k).get? k' = if k = k' then none else d.get? k' := by
  split
  · next h =>
    rw [get?_eq_none]
    intro hmem
    obtain ⟨e, he, hk⟩ := List.mem_map.mp hmem
    have := (List.mem_filter.mp he).2
    simp [hk, h] at this
  · next h =>
    apply Option.ext
    intro a
    rw [get?_eq_some, get?_eq_some]
    simp [pop, restrict, Ne.symm h]

/-- `d.pop(k, None)` for some keys. -/
def popAll (d : Dict κ α) (ks : List κ) : Dict κ α := ks.foldl pop d

theorem entries_popAll (d : Dict κ α) (ks : List κ) :
    (d.popAll ks).entries = d.entries.filter fun e => e.1 ∉ ks := by
  induction ks generalizing d with
  | nil => simp [popAll]
  | cons k ks ih =>
    rw [popAll, List.foldl_cons]
    change ((d.pop k).popAll ks).entries = _
    rw [ih]
    simp only [pop, restrict, List.filter_filter, List.mem_cons, not_or]
    apply List.filter_congr
    intro e _
    rw [Bool.and_comm]
    simp

theorem keys_popAll (d : Dict κ α) (ks : List κ) :
    (d.popAll ks).keys = d.keys.filter fun k => k ∉ ks := by
  rw [keys, entries_popAll, keys, List.filter_map]
  rfl

/-! ### Order -/

def moveToEnd (d : Dict κ α) (k : κ) : Dict κ α :=
  match d.get? k with
  | none => d
  | some a => (d.pop k).set k a

@[simp] theorem get?_moveToEnd (d : Dict κ α) (k k' : κ) : (d.moveToEnd k).get? k' = d.get? k' := by
  rw [moveToEnd]
  split
  · rfl
  · next a h =>
    rw [get?_set, get?_pop]
    by_cases hk : k = k'
    · rw [if_pos hk, ← hk, h]
    · rw [if_neg hk, if_neg hk]

end Dict

end Py
