/-
AgentPlatform/Py/Dataclass.lean

A dataclass that is built from a decoded JSON mapping, `Class(**mapping)`, and what
is kept of its values when they are written and read again.

An instance is its values under the names of its fields, in the order of the class;
the values are not checked. What `json.dumps(…, sort_keys=True)` has written is read
back with sorted keys; values that are sorted already (`Flat`) come back as they were.
-/
import AgentPlatform.Py.JsonRead

namespace Py

namespace Json

/-! ### Sorting again -/

/-- Pairs by their keys. -/
instance : IsTrans (String × Json) fun a b => a.1 ≤ b.1 := ⟨fun _ _ _ h h' => le_trans h h'⟩

instance : Std.Total fun a b : String × Json => a.1 ≤ b.1 := ⟨fun a b => le_total a.1 b.1⟩

mutual

theorem sortKeys_sortKeys : ∀ v : Json, v.sortKeys.sortKeys = v.sortKeys
  | null => rfl
  | bool _ => rfl
  | int _ => rfl
  | str _ => rfl
  | arr items => by rw [sortKeys, sortKeys, sortItems_sortItems items]
  | obj fields => by
    have hfields : sortFields ((sortFields fields).insertionSort fun a b => a.1 ≤ b.1)
        = (sortFields fields).insertionSort fun a b => a.1 ≤ b.1 := by
      have hmap := List.map_insertionSort (fun a b : String × Json => a.1 ≤ b.1)
        (fun a b : String × Json => a.1 ≤ b.1) (fun p => (p.1, sortKeys p.2)) (sortFields fields)
        fun _ _ _ _ => Iff.rfl
      rw [sortFields_eq_map, hmap, ← sortFields_eq_map, sortFields_sortFields fields]
    rw [sortKeys, sortKeys, hfields, (List.pairwise_insertionSort _ _).insertionSort_eq]

theorem sortItems_sortItems : ∀ vs : List Json, sortItems (sortItems vs) = sortItems vs
  | [] => rfl
  | v :: vs => by rw [sortItems, sortItems, sortKeys_sortKeys v, sortItems_sortItems vs]

theorem sortFields_sortFields : ∀ fs : List (String × Json),
    sortFields (sortFields fs) = sortFields fs
  | [] => rfl
  | (k, v) :: fs => by rw [sortFields, sortFields, sortKeys_sortKeys v, sortFields_sortFields fs]

end

/-! ### Values that are sorted -/

/-- The value is written as it is: no object in it, or none with keys out of order. -/
structure Flat (v : Json) : Prop where
  sorted : v.sortKeys = v
  distinct : v.distinctKeys = true

theorem flat_str (s : String) : Flat (.str s) := ⟨rfl, rfl⟩

theorem flat_int (n : Int) : Flat (.int n) := ⟨rfl, rfl⟩

theorem flat_bool (b : Bool) : Flat (.bool b) := ⟨rfl, rfl⟩

theorem flat_optStr (o : Option String) : Flat (.optStr o) := by
  cases o <;> exact ⟨rfl, rfl⟩

theorem flat_arr {vs : List Json} (h : ∀ v ∈ vs, Flat v) : Flat (.arr vs) := by
  induction vs with
  | nil => exact ⟨rfl, rfl⟩
  | cons v vs ih =>
    obtain ⟨hv, hdistinct⟩ := h v List.mem_cons_self
    obtain ⟨hvs, hdistincts⟩ := ih fun v hv => h v (List.mem_cons_of_mem _ hv)
    refine ⟨?_, ?_⟩
    · rw [sortKeys, arr.injEq] at hvs ⊢
      rw [sortItems, hv, hvs]
    · rw [distinctKeys] at hdistincts ⊢
      rw [distinctItems, hdistinct, hdistincts]
      rfl

theorem flat_texts (ss : List String) : Flat (.arr (ss.map .str)) := by
  apply flat_arr
  intro v hv
  obtain ⟨s, -, rfl⟩ := List.mem_map.mp hv
  exact flat_str s

/-! ### Dataclasses -/

/-- `Class(**mapping)` for a class with these fields, each without a default: the mapping
has all of them and no other key. -/
def construct (fields : List String) : Json → Option (List (String × Json))
  | obj kwargs =>
    if (kwargs.map Prod.fst).all (· ∈ fields) then
      fields.mapM fun field => ((obj kwargs).get? field).map fun v => (field, v)
    else none
  | _ => none

/-- An instance of a class with these fields, with values that are written as they are. -/
structure Instance (fields : List String) (values : List (String × Json)) : Prop where
  names : values.map Prod.fst = fields
  nodup : fields.Nodup
  flat : ∀ p ∈ values, Flat p.2

theorem Instance.distinct {fields : List String} {values : List (String × Json)}
    (h : Instance fields values) : (obj values).distinctKeys = true :=
  distinctKeys_obj.mpr ⟨h.names ▸ h.nodup, fun p hp => (h.flat p hp).distinct⟩

/-- A field of a dictionary with distinct keys. -/
theorem get?_of_mem {kwargs : List (String × Json)} (hn : (kwargs.map Prod.fst).Nodup)
    {p : String × Json} (hp : p ∈ kwargs) : (obj kwargs).get? p.1 = some p.2 := by
  have hfind : kwargs.find? (fun q => q.1 = p.1) = some p := by
    cases hfind : kwargs.find? fun q => q.1 = p.1 with
    | none => exact absurd (List.find?_eq_none.mp hfind p hp) (by simp)
    | some q =>
      have hkey : q.1 = p.1 := by simpa using List.find?_some hfind
      exact congrArg some
        (List.inj_on_of_nodup_map hn (List.mem_of_find?_eq_some hfind) hp hkey)
  rw [get?, hfind]
  rfl

theorem mapM_keys {f : String → Option (String × Json)} {values : List (String × Json)}
    (h : ∀ p ∈ values, f p.1 = some p) : (values.map Prod.fst).mapM f = some values := by
  induction values with
  | nil => rfl
  | cons p values ih =>
    rw [List.map_cons, List.mapM_cons, h p List.mem_cons_self,
      ih fun q hq => h q (List.mem_cons_of_mem _ hq)]
    rfl

/-- **An instance is built again** from its values, in whatever order they are read. -/
theorem construct_sortKeys {fields : List String} {values : List (String × Json)}
    (h : Instance fields values) : construct fields (obj values).sortKeys = some values := by
  have hn : (values.map Prod.fst).Nodup := h.names ▸ h.nodup
  have hget : ∀ p ∈ values, (obj values).sortKeys.get? p.1 = some p.2 := by
    intro p hp
    rw [get?_sortKeys hn, get?_of_mem hn hp, Option.map_some, (h.flat p hp).sorted]
  have hkeys : (((sortFields values).insertionSort fun a b => a.1 ≤ b.1).map Prod.fst).all
      (· ∈ fields) = true := by
    rw [List.all_eq_true]
    intro k hk
    rw [((List.perm_insertionSort _ _).map Prod.fst).mem_iff, keys_sortFields, h.names] at hk
    exact decide_eq_true hk
  have hmap : fields.mapM (fun field => ((obj values).sortKeys.get? field).map fun v => (field, v))
      = some values := by
    rw [← h.names]
    apply mapM_keys
    intro p hp
    rw [hget p hp]
    rfl
  rw [sortKeys, construct, if_pos hkeys]
  exact hmap

end Json

end Py
