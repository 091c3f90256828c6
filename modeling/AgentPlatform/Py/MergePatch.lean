/-
AgentPlatform/Py/MergePatch.lean

JSON merge patches, and when a patch that spells out the desired value leads to it.

A merge patch sets the members that it names, member by member where both sides are
objects, and removes those that it names with `null`; what it does not name stays. So a
desired value that is sent as a patch is reached exactly if, at every depth, the present
value has no member that the desired one lacks, and the desired one has no member `null`
(`settles`). **Main result:** `same_mergePatch_iff`. Values are compared as Python does,
objects without regard to the order of their members (`same`).
-/
import AgentPlatform.Py.Dict
import AgentPlatform.Py.JsonRead

namespace Py

namespace Json

/-! ### Definitions -/

/-- The members of an object; another value has none. -/
def members : Json → List (String × Json)
  | obj fields => fields
  | _ => []

def isNull : Json → Bool
  | null => true
  | _ => false

mutual

/-- `a == b` on decoded values. -/
def same : Json → Json → Bool
  | null, null => true
  | bool a, bool b => a == b
  | bool a, int n => n = a.toNat
  | int n, bool b => n = b.toNat
  | int a, int b => a == b
  | str a, str b => a == b
  | arr vs, arr ws => sameItems vs ws
  | obj fs, obj gs => fs.length == gs.length && sameFields fs gs
  | _, _ => false

def sameItems : List Json → List Json → Bool
  | [], [] => true
  | v :: vs, w :: ws => same v w && sameItems vs ws
  | _, _ => false

/-- Each of the members is one of the others. -/
def sameFields : List (String × Json) → List (String × Json) → Bool
  | [], _ => true
  | (k, v) :: fs, gs =>
    (match Dict.find k gs with
      | some w => same v w
      | none => false) && sameFields fs gs

end

/-- A member set, in its place where it is there. -/
def setField (k : String) (v : Json) (fields : List (String × Json)) : List (String × Json) :=
  if k ∈ fields.map Prod.fst then Dict.replace k v fields else fields ++ [(k, v)]

mutual

/-- A merge patch applied to a value. -/
def mergePatch (target : Json) : Json → Json
  | obj fields => obj (mergeFields target.members fields)
  | arr items => arr items
  | str s => str s
  | int n => int n
  | bool b => bool b
  | null => null

def mergeFields (present : List (String × Json)) : List (String × Json) → List (String × Json)
  | [] => present
  | (k, v) :: fields =>
    mergeFields
      (if v.isNull then present.filter (·.1 ≠ k)
      else setField k (mergePatch ((Dict.find k present).getD null) v) present)
      fields

end

mutual

/-- The present value has no member that the desired one lacks, and the desired one no
member `null`, at every depth. -/
def settles (present : Json) : Json → Bool
  | obj fields =>
    (present.members.all fun m => m.1 ∈ fields.map Prod.fst) && settlesFields present.members fields
  | _ => true

def settlesFields (present : List (String × Json)) : List (String × Json) → Bool
  | [] => true
  | (k, v) :: fields =>
    !v.isNull && settles ((Dict.find k present).getD null) v && settlesFields present fields

end

/-! ### Members -/

section Members

variable {fields gs present : List (String × Json)} {k : String} {v : Json}

theorem find_filter_ne (fields : List (String × Json)) (k k' : String) :
    Dict.find k' (fields.filter (·.1 ≠ k)) = if k' = k then none else Dict.find k' fields := by
  induction fields with
  | nil => simp [Dict.find]
  | cons p fields ih =>
    obtain ⟨j, v⟩ := p
    by_cases hj : j = k
    · subst hj
      rw [List.filter_cons_of_neg (by simp), ih]
      by_cases hk : k' = j
      · simp [hk]
      · simp [hk, Dict.find, Ne.symm hk]
    · rw [List.filter_cons_of_pos (by simpa using hj), Dict.find, Dict.find, ih]
      by_cases hk : j = k'
      · subst hk
        simp [hj]
      · simp [hk]

theorem find_setField (k k' : String) (v : Json) (fields : List (String × Json)) :
    Dict.find k' (setField k v fields) = if k' = k then some v else Dict.find k' fields := by
  rw [setField]
  split
  · next hk =>
    rw [Dict.find_replace]
    by_cases h : k' = k
    · subst h
      simp [hk]
    · simp [h, Ne.symm h]
  · next hk =>
    rw [Dict.find_append]
    by_cases h : k' = k
    · subst h
      rw [Dict.find_eq_none.mpr hk]
      simp [Dict.find]
    · simp [h, Dict.find, Ne.symm h]

theorem keys_setField_nodup (h : (fields.map Prod.fst).Nodup) : ((setField k v fields).map Prod.fst).Nodup := by
  rw [setField]
  split
  · rw [Dict.keys_replace]
    exact h
  · next hk =>
    rw [List.map_append, List.map_singleton, ← List.concat_eq_append]
    exact h.concat hk

theorem keys_mergeFields_nodup (h : (present.map Prod.fst).Nodup) :
    ((mergeFields present fields).map Prod.fst).Nodup := by
  induction fields generalizing present with
  | nil => exact h
  | cons p fields ih =>
    obtain ⟨k, v⟩ := p
    rw [mergeFields]
    apply ih
    split
    · exact h.sublist (List.filter_sublist.map _)
    · exact keys_setField_nodup h

/-- **The members after a patch.** -/
theorem find_mergeFields (hn : (fields.map Prod.fst).Nodup) (k : String) :
    Dict.find k (mergeFields present fields) = match Dict.find k fields with
      | none => Dict.find k present
      | some v => if v.isNull then none else some (mergePatch ((Dict.find k present).getD null) v) := by
  induction fields generalizing present with
  | nil => rfl
  | cons p fields ih =>
    obtain ⟨j, v⟩ := p
    rw [List.map_cons, List.nodup_cons] at hn
    rw [mergeFields, ih hn.2]
    by_cases hk : j = k
    · subst hk
      have hnone : Dict.find j fields = none := Dict.find_eq_none.mpr hn.1
      rw [hnone, Dict.find, if_pos rfl]
      dsimp only
      split
      · rw [find_filter_ne, if_pos rfl]
      · rw [find_setField, if_pos rfl]
    · -- another member: the patch of `j` does not touch it
      have hother : Dict.find k (if v.isNull then present.filter (·.1 ≠ j)
          else setField j (mergePatch ((Dict.find j present).getD null) v) present) = Dict.find k present := by
        split
        · rw [find_filter_ne, if_neg (Ne.symm hk)]
        · rw [find_setField, if_neg (Ne.symm hk)]
      rw [Dict.find, if_neg hk, hother]

/-! ### Equality of objects -/

theorem sameFields_iff (hn : (fields.map Prod.fst).Nodup) :
    sameFields fields gs = true ↔ ∀ k v, Dict.find k fields = some v → ∃ w, Dict.find k gs = some w ∧ same v w = true := by
  induction fields with
  | nil => simp [sameFields, Dict.find]
  | cons p fields ih =>
    obtain ⟨j, v⟩ := p
    rw [List.map_cons, List.nodup_cons] at hn
    have hfirst : (match Dict.find j gs with
        | some w => same v w
        | none => false) = true ↔ ∃ w, Dict.find j gs = some w ∧ same v w = true := by
      cases Dict.find j gs <;> simp
    rw [sameFields, Bool.and_eq_true, ih hn.2, hfirst]
    constructor
    · rintro ⟨hj, hrest⟩ k u hk
      rw [Dict.find] at hk
      split at hk
      · next heq =>
        cases hk
        exact heq ▸ hj
      · exact hrest k u hk
    · intro h
      refine ⟨h j v (if_pos rfl), fun k u hk => h k u ?_⟩
      have hne : j ≠ k := by
        rintro rfl
        rw [Dict.find_eq_none.mpr hn.1] at hk
        cases hk
      rw [Dict.find, if_neg hne, hk]

/-- **Objects are the same** if they have the same members. -/
theorem same_obj_iff (hf : (fields.map Prod.fst).Nodup) (hg : (gs.map Prod.fst).Nodup) :
    same (obj fields) (obj gs) = true ↔
      (∀ k, k ∈ fields.map Prod.fst ↔ k ∈ gs.map Prod.fst) ∧
        ∀ k v w, Dict.find k fields = some v → Dict.find k gs = some w → same v w = true := by
  have hfind : ∀ {l : List (String × Json)} {k : String}, k ∈ l.map Prod.fst → ∃ v, Dict.find k l = some v := by
    intro l k hk
    rw [← Option.isSome_iff_exists, Option.isSome_iff_ne_none]
    exact fun h => Dict.find_eq_none.mp h hk
  have hmem : ∀ {l : List (String × Json)} {k : String} {v : Json}, Dict.find k l = some v → k ∈ l.map Prod.fst := by
    intro l k v hk
    by_contra h
    rw [Dict.find_eq_none.mpr h] at hk
    cases hk
  rw [same, Bool.and_eq_true, beq_iff_eq, sameFields_iff hf]
  constructor
  · rintro ⟨hlength, hall⟩
    have hsub : fields.map Prod.fst ⊆ gs.map Prod.fst := by
      intro k hk
      obtain ⟨v, hv⟩ := hfind hk
      obtain ⟨w, hw, -⟩ := hall k v hv
      exact hmem hw
    have hperm := (List.subperm_of_subset hf hsub).perm_of_length_le (by simp [hlength])
    refine ⟨fun k => hperm.mem_iff, fun k v w hv hw => ?_⟩
    obtain ⟨w', hw', hsame⟩ := hall k v hv
    rw [hw] at hw'
    cases hw'
    exact hsame
  · rintro ⟨hkeys, hall⟩
    have hperm := (List.perm_ext_iff_of_nodup hf hg).mpr hkeys
    refine ⟨by simpa using hperm.length_eq, fun k v hv => ?_⟩
    obtain ⟨w, hw⟩ := hfind ((hkeys k).mp (hmem hv))
    exact ⟨w, hw, hall k v w hv hw⟩

end Members

theorem distinctKeys_members {fields : List (String × Json)} (h : (obj fields).distinctKeys = true) :
    (fields.map Prod.fst).Nodup ∧ ∀ k v, Dict.find k fields = some v → v.distinctKeys = true := by
  rw [distinctKeys, Bool.and_eq_true, decide_eq_true_eq] at h
  refine ⟨h.1, ?_⟩
  have hall := h.2
  clear h
  induction fields with
  | nil =>
    intro k v hk
    cases hk
  | cons p fields ih =>
    obtain ⟨j, u⟩ := p
    rw [distinctFields, Bool.and_eq_true] at hall
    intro k v hk
    rw [Dict.find] at hk
    split at hk
    · cases hk
      exact hall.1
    · exact ih hall.2 k v hk

mutual

theorem same_self : ∀ v : Json, v.distinctKeys = true → same v v = true
  | null, _ => rfl
  | bool _, _ => beq_self_eq_true _
  | int _, _ => beq_self_eq_true _
  | str _, _ => beq_self_eq_true _
  | arr items, h => sameItems_self items h
  | obj fields, h => by
    have hn := (distinctKeys_members h).1
    refine (same_obj_iff hn hn).mpr ⟨fun _ => Iff.rfl, fun k v w hv hw => ?_⟩
    rw [hv] at hw
    cases hw
    exact same_fields_self fields k v hv ((distinctKeys_members h).2 k v hv)

theorem sameItems_self : ∀ vs : List Json, distinctItems vs = true → sameItems vs vs = true
  | [], _ => rfl
  | v :: vs, h => by
    rw [distinctItems, Bool.and_eq_true] at h
    rw [sameItems, same_self v h.1, sameItems_self vs h.2]
    rfl

theorem same_fields_self : ∀ (fields : List (String × Json)) (k : String) (v : Json),
    Dict.find k fields = some v → v.distinctKeys = true → same v v = true
  | [], _, _, hk, _ => nomatch hk
  | (j, u) :: fields, k, v, hk, hv => by
    rw [Dict.find] at hk
    split at hk
    · cases hk
      exact same_self u hv
    · exact same_fields_self fields k v hk hv

end

/-! ### When a patch settles -/

theorem settlesFields_iff {present fields : List (String × Json)} (hn : (fields.map Prod.fst).Nodup) :
    settlesFields present fields = true ↔ ∀ k v, Dict.find k fields = some v →
      v.isNull = false ∧ settles ((Dict.find k present).getD null) v = true := by
  induction fields with
  | nil => simp [settlesFields, Dict.find]
  | cons p fields ih =>
    obtain ⟨j, v⟩ := p
    rw [List.map_cons, List.nodup_cons] at hn
    rw [settlesFields, Bool.and_eq_true, Bool.and_eq_true, Bool.not_eq_true', ih hn.2]
    constructor
    · rintro ⟨hj, hrest⟩ k u hk
      rw [Dict.find] at hk
      split at hk
      · next heq =>
        cases hk
        exact heq ▸ hj
      · exact hrest k u hk
    · intro h
      refine ⟨h j v (if_pos rfl), fun k u hk => h k u ?_⟩
      have hne : j ≠ k := by
        rintro rfl
        rw [Dict.find_eq_none.mpr hn.1] at hk
        cases hk
      rw [Dict.find, if_neg hne, hk]

theorem distinctKeys_member {present : Json} (h : present.distinctKeys = true) (k : String) :
    ((Dict.find k present.members).getD null).distinctKeys = true := by
  cases hk : Dict.find k present.members with
  | none => rfl
  | some v =>
    cases present with
    | obj fields => exact (distinctKeys_members h).2 k v hk
    | _ => cases hk

theorem keys_members_nodup {present : Json} (h : present.distinctKeys = true) :
    (present.members.map Prod.fst).Nodup := by
  cases present with
  | obj fields => exact (distinctKeys_members h).1
  | _ => exact List.nodup_nil

mutual

/-- **A value that is sent as a merge patch** is reached exactly if it settles the present
one. -/
theorem same_mergePatch_iff : ∀ (desired present : Json), desired.distinctKeys = true → present.distinctKeys = true →
    (same (mergePatch present desired) desired = true ↔ settles present desired = true)
  | null, _, _, _ => by simp [mergePatch, same, settles]
  | bool b, _, _, _ => by simp [mergePatch, same, settles]
  | int n, _, _, _ => by simp [mergePatch, same, settles]
  | str s, _, _, _ => by simp [mergePatch, same, settles]
  | arr items, _, hd, _ => by
    simp only [mergePatch, settles, iff_true]
    exact same_self _ hd
  | obj fields, present, hd, hp => by
    have hn := (distinctKeys_members hd).1
    have hmembers := keys_members_nodup hp
    have hfind : ∀ {l : List (String × Json)} {k : String}, k ∈ l.map Prod.fst ↔ Dict.find k l ≠ none := fun {l k} =>
      ⟨fun hk h => Dict.find_eq_none.mp h hk, fun h => by
        by_contra hk
        exact h (Dict.find_eq_none.mpr hk)⟩
    rw [mergePatch, same_obj_iff (keys_mergeFields_nodup hmembers) hn, settles, Bool.and_eq_true,
      settlesFields_iff hn, List.all_eq_true]
    simp only [hfind, find_mergeFields hn]
    constructor
    · rintro ⟨hkeys, hvalues⟩
      refine ⟨fun m hm => ?_, fun k v hk => ?_⟩
      · -- a member that is not named stays, so it is named
        by_contra hnot
        have hnone : Dict.find m.1 fields = none := by simpa using hnot
        have hpresent := (hkeys m.1).mp
        simp only [hnone] at hpresent
        exact hpresent (hfind.mp (List.mem_map_of_mem hm)) rfl
      · have hnotNull : v.isNull = false := by
          by_contra hnull
          rw [Bool.not_eq_false] at hnull
          have hpresent := (hkeys k).mpr
          simp only [hk, hnull, if_true] at hpresent
          exact hpresent (Option.some_ne_none _) rfl
        refine ⟨hnotNull, ?_⟩
        have hsame := hvalues k (mergePatch ((Dict.find k present.members).getD null) v) v
          (by simp only [hk, hnotNull, Bool.false_eq_true, if_false]) hk
        exact (same_mergeFields_iff fields k v hk ((distinctKeys_members hd).2 k v hk) _ (distinctKeys_member hp k)).mp hsame
    · rintro ⟨hkeys, hvalues⟩
      refine ⟨fun k => ?_, fun k v w hv hw => ?_⟩
      · cases hk : Dict.find k fields with
        | none =>
          simp only [ne_eq, not_true_eq_false, iff_false, not_not]
          by_contra hpresent
          obtain ⟨m, hm, rfl⟩ := List.mem_map.mp (hfind.mpr hpresent)
          exact of_decide_eq_true (hkeys m hm) hk
        | some v => simp [(hvalues k v hk).1]
      · obtain ⟨hnotNull, hsettles⟩ := hvalues k w hw
        simp only [hw, hnotNull, Bool.false_eq_true, if_false, Option.some.injEq] at hv
        subst hv
        exact (same_mergeFields_iff fields k w hw ((distinctKeys_members hd).2 k w hw) _ (distinctKeys_member hp k)).mpr hsettles

theorem same_mergeFields_iff : ∀ (fields : List (String × Json)) (k : String) (v : Json),
    Dict.find k fields = some v → v.distinctKeys = true → ∀ present : Json, present.distinctKeys = true →
      (same (mergePatch present v) v = true ↔ settles present v = true)
  | [], _, _, hk, _, _, _ => nomatch hk
  | (j, u) :: fields, k, v, hk, hv, present, hp => by
    rw [Dict.find] at hk
    split at hk
    · cases hk
      exact same_mergePatch_iff u present hv hp
    · exact same_mergeFields_iff fields k v hk hv present hp

end

end Json

end Py
