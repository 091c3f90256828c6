/-
AgentPlatform/Order/Register.lean

A dictionary that keeps the first value of each key and refuses another one:
`previous = found.setdefault(key, value)` followed by a comparison.

**`foldlM_register`**: a list is taken exactly if its items are determined by their keys.
**`byKey_iff`**: the values of the dictionary in the order of their keys are the distinct
items of the list, whatever order they came in and how often.
-/
import AgentPlatform.Order.SortBy

namespace Sorting

variable {α κ ε : Type*} [DecidableEq α] [DecidableEq κ] {key : α → κ} {code : ε}

/-- One round of the loop. -/
def register (key : α → κ) (code : ε) (found : List (κ × α)) (a : α) : Except ε (List (κ × α)) :=
  match found.lookup (key a) with
  | none => .ok (found ++ [(key a, a)])
  | some existing => if existing ≠ a then .error code else .ok found

omit [DecidableEq α] in
theorem lookup_concat (found : List (κ × α)) (k k' : κ) (a : α) :
    (found ++ [(k, a)]).lookup k' = (found.lookup k').or (if k' = k then some a else none) := by
  induction found with
  | nil =>
    rw [List.nil_append, List.lookup_cons]
    by_cases h : k' = k
    · simp [h]
    · simp [h, beq_eq_false_iff_ne.mpr h]
  | cons p found ih =>
    rw [List.cons_append, List.lookup_cons, List.lookup_cons, ih]
    cases k' == p.1 <;> rfl

omit [DecidableEq α] [DecidableEq κ] in
/-- The items of a list are determined by their keys, one by one. -/
theorem determined_cons {a : α} {l : List α} :
    (∀ b ∈ a :: l, ∀ c ∈ a :: l, key b = key c → b = c) ↔
      (∀ b ∈ l, key b = key a → a = b) ∧ ∀ b ∈ l, ∀ c ∈ l, key b = key c → b = c := by
  constructor
  · intro h
    exact ⟨fun b hb hkey => h a List.mem_cons_self b (List.mem_cons_of_mem _ hb) hkey.symm,
      fun b hb c hc => h b (List.mem_cons_of_mem _ hb) c (List.mem_cons_of_mem _ hc)⟩
  · rintro ⟨ha, hl⟩ b hb c hc hkey
    rcases List.mem_cons.mp hb with hb' | hb' <;> rcases List.mem_cons.mp hc with hc' | hc'
    · exact hb'.trans hc'.symm
    · rw [hb'] at hkey ⊢
      exact ha c hc' hkey.symm
    · rw [hc'] at hkey ⊢
      exact (ha b hb' hkey).symm
    · exact hl b hb' c hc' hkey

/-- **What the loop takes.** -/
theorem foldlM_register {found : List (κ × α)} {l : List α} :
    (∃ out, l.foldlM (register key code) found = .ok out) ↔
      (∀ a ∈ l, ∀ b, found.lookup (key a) = some b → b = a) ∧
        ∀ a ∈ l, ∀ b ∈ l, key a = key b → a = b := by
  induction l generalizing found with
  | nil => simp [pure, Except.pure]
  | cons a l ih =>
    rw [List.foldlM_cons, register, determined_cons, List.forall_mem_cons]
    rcases hlookup : found.lookup (key a) with _ | existing
    · show (∃ out, l.foldlM (register key code) (found ++ [(key a, a)]) = .ok out) ↔ _
      rw [ih, ← and_assoc]
      refine and_congr_left fun _ => ?_
      simp only [lookup_concat]
      constructor
      · intro hfound
        refine ⟨⟨fun b hb => (by cases hb), fun b hb c hc => ?_⟩, fun b hb hkey => ?_⟩
        · exact hfound b hb c (by rw [hc]; rfl)
        · refine hfound b hb a ?_
          rw [hkey, hlookup, if_pos rfl]
          rfl
      · rintro ⟨⟨-, hfound⟩, ha⟩ b hb c hc
        rcases hlookup' : found.lookup (key b) with _ | existing
        · rw [hlookup'] at hc
          by_cases hkey : key b = key a
          · rw [if_pos hkey] at hc
            cases hc
            exact ha b hb hkey
          · rw [if_neg hkey] at hc
            cases hc
        · rw [hlookup'] at hc
          cases hc
          exact hfound b hb _ hlookup'
    · by_cases hsame : existing = a
      · subst hsame
        show (∃ out, (if existing ≠ existing then Except.error code else .ok found) >>=
          (fun found => l.foldlM (register key code) found) = .ok out) ↔ _
        rw [if_neg (not_not.mpr rfl)]
        show (∃ out, l.foldlM (register key code) found = .ok out) ↔ _
        rw [ih]
        constructor
        · rintro ⟨hfound, hl⟩
          exact ⟨⟨fun b hb => (Option.some.inj hb).symm, hfound⟩,
            fun b hb hkey => hfound b hb existing (hkey ▸ hlookup), hl⟩
        · rintro ⟨⟨-, hfound⟩, -, hl⟩
          exact ⟨hfound, hl⟩
      · show (∃ out, (if existing ≠ a then Except.error code else .ok found) >>=
          (fun found => l.foldlM (register key code) found) = .ok out) ↔ _
        rw [if_pos hsame]
        refine iff_of_false ?_ fun h => hsame (h.1.1 existing rfl)
        rintro ⟨out, hout⟩
        cases hout

/-- The loop refuses with its own code only. -/
theorem foldlM_register_error {found : List (κ × α)} {l : List α} {e : ε}
    (h : l.foldlM (register key code) found = .error e) : e = code := by
  induction l generalizing found with
  | nil => cases h
  | cons a l ih =>
    rw [List.foldlM_cons] at h
    rcases hstep : register key code found a with e' | next
    · rw [hstep] at h
      cases h
      unfold register at hstep
      split at hstep
      · cases hstep
      · split at hstep
        · cases hstep
          rfl
        · cases hstep
    · rw [hstep] at h
      exact ih h

/-- A list is taken from the start exactly if its items are determined by their keys. -/
theorem foldlM_register_nil {l : List α} :
    (∃ out, l.foldlM (register key code) [] = .ok out) ↔ ∀ a ∈ l, ∀ b ∈ l, key a = key b → a = b := by
  rw [foldlM_register]
  exact and_iff_right fun a _ b hb => absurd hb (by simp)

omit [DecidableEq α] in
theorem mem_map_fst_of_lookup {found : List (κ × α)} {k : κ} {a : α} (h : found.lookup k = some a) :
    (k, a) ∈ found := by
  induction found with
  | nil => cases h
  | cons p found ih =>
    rw [List.lookup_cons] at h
    by_cases hk : k = p.1
    · rw [hk, beq_self_eq_true] at h
      rw [hk, ← Option.some.inj h]
      exact List.mem_cons_self
    · rw [beq_eq_false_iff_ne.mpr hk] at h
      exact List.mem_cons_of_mem _ (ih h)

omit [DecidableEq α] in
theorem lookup_eq_none_of_notMem {found : List (κ × α)} {k : κ} (h : found.lookup k = none) :
    k ∉ found.map Prod.fst := by
  induction found with
  | nil => exact List.not_mem_nil
  | cons p found ih =>
    rw [List.lookup_cons] at h
    by_cases hk : k = p.1
    · rw [hk, beq_self_eq_true] at h
      cases h
    · rw [beq_eq_false_iff_ne.mpr hk] at h
      rw [List.map_cons, List.mem_cons, not_or]
      exact ⟨hk, ih h⟩

/-- **What the dictionary holds**: one entry for each key, and every item. -/
theorem foldlM_register_holds {found out : List (κ × α)} {l : List α}
    (hkeys : (found.map Prod.fst).Nodup) (h : l.foldlM (register key code) found = .ok out) :
    (out.map Prod.fst).Nodup ∧ ∀ p, p ∈ out ↔ p ∈ found ∨ p.2 ∈ l ∧ p.1 = key p.2 := by
  induction l generalizing found with
  | nil =>
    cases h
    exact ⟨hkeys, fun p => by simp⟩
  | cons a l ih =>
    rw [List.foldlM_cons] at h
    rcases hlookup : found.lookup (key a) with _ | existing
    · rw [register, hlookup] at h
      have hnew : ((found ++ [(key a, a)]).map Prod.fst).Nodup := by
        rw [List.map_append, List.map_singleton]
        refine hkeys.append (List.nodup_singleton _) ?_
        rw [List.disjoint_singleton]
        exact lookup_eq_none_of_notMem hlookup
      obtain ⟨hnodup, hmem⟩ := ih hnew h
      refine ⟨hnodup, fun p => ?_⟩
      rw [hmem, List.mem_append, List.mem_singleton, List.mem_cons, or_assoc]
      refine or_congr_right ?_
      constructor
      · rintro (rfl | ⟨hp, hkey⟩)
        · exact ⟨.inl rfl, rfl⟩
        · exact ⟨.inr hp, hkey⟩
      · rintro ⟨hp | hp, hkey⟩
        · exact .inl (Prod.ext (hkey.trans (by rw [hp])) hp)
        · exact .inr ⟨hp, hkey⟩
    · rw [register, hlookup] at h
      by_cases hsame : existing = a
      · simp only [hsame, ne_eq, not_true_eq_false, if_false] at h
        obtain ⟨hnodup, hmem⟩ := ih hkeys h
        refine ⟨hnodup, fun p => ?_⟩
        rw [hmem, List.mem_cons]
        constructor
        · rintro (hp | ⟨hp, hkey⟩)
          · exact .inl hp
          · exact .inr ⟨.inr hp, hkey⟩
        · rintro (hp | ⟨hp | hp, hkey⟩)
          · exact .inl hp
          · have hentry := mem_map_fst_of_lookup hlookup
            rw [hsame] at hentry
            exact .inl ((show p = (key a, a) from Prod.ext (hkey.trans (by rw [hp])) hp) ▸ hentry)
          · exact .inr ⟨hp, hkey⟩
      · simp only [ne_eq, hsame, not_false_eq_true, if_true] at h
        cases h

section Ordered

variable [LinearOrder κ]

/-- `vs` has the items of `l`, each once, in the order of their keys. -/
structure ByKey (key : α → κ) (l vs : List α) : Prop where
  mem : ∀ a, a ∈ vs ↔ a ∈ l
  sorted : (vs.map key).Pairwise (· < ·)

omit [DecidableEq α] [DecidableEq κ] in
/-- The items of `l` are determined by their keys. -/
theorem ByKey.determined {l vs : List α} (h : ByKey key l vs) {a b : α} (ha : a ∈ l) (hb : b ∈ l)
    (hkey : key a = key b) : a = b := by
  have hnodup : (vs.map key).Nodup := h.sorted.imp ne_of_lt
  exact List.inj_on_of_nodup_map hnodup ((h.mem a).mpr ha) ((h.mem b).mpr hb) hkey

omit [DecidableEq α] [DecidableEq κ] in
theorem ByKey.nodup {l vs : List α} (h : ByKey key l vs) : vs.Nodup :=
  .of_map key (h.sorted.imp ne_of_lt)

omit [DecidableEq α] [DecidableEq κ] in
/-- **The order and the number of times the items come in do not matter.** -/
theorem ByKey.unique {l l' vs vs' : List α} (h : ByKey key l vs) (h' : ByKey key l' vs')
    (hl : ∀ a, a ∈ l ↔ a ∈ l') : vs = vs' := by
  have hperm : vs.Perm vs' := (List.perm_ext_iff_of_nodup h.nodup h'.nodup).mpr fun a => by
    rw [h.mem, h'.mem, hl]
  refine hperm.eq_of_pairwise (fun a b ha hb hab hba => ?_) (List.pairwise_map.mp h.sorted)
    (List.pairwise_map.mp h'.sorted)
  exact absurd (hab.trans hba) (lt_irrefl _)

omit [DecidableEq α] [DecidableEq κ] in
theorem ByKey.congr {l l' vs : List α} (h : ByKey key l vs) (hl : ∀ a, a ∈ l ↔ a ∈ l') :
    ByKey key l' vs :=
  ⟨fun a => (h.mem a).trans (hl a), h.sorted⟩

end Ordered

/-- **The values of the dictionary in the order of their keys.** -/
theorem byKey_iff [LinearOrder κ] {l vs : List α} :
    (∃ out, l.foldlM (register key code) [] = .ok out ∧ vs = (sortBy Prod.fst out).map Prod.snd) ↔
      ByKey key l vs := by
  have hof : ∀ {out}, l.foldlM (register key code) [] = .ok out →
      ByKey key l ((sortBy Prod.fst out).map Prod.snd) := by
    intro out h
    have hnil : (([] : List (κ × α)).map Prod.fst).Nodup := List.nodup_nil
    obtain ⟨hnodup, hmem⟩ := foldlM_register_holds hnil h
    have hentry : ∀ p, p ∈ out ↔ p.2 ∈ l ∧ p.1 = key p.2 := fun p => (hmem p).trans (by simp)
    constructor
    · intro a
      rw [List.mem_map]
      constructor
      · rintro ⟨p, hp, rfl⟩
        exact ((hentry p).mp ((mem_sortBy _).mp hp)).1
      · intro ha
        exact ⟨(key a, a), (mem_sortBy _).mpr ((hentry _).mpr ⟨ha, rfl⟩), rfl⟩
    · have hkeys : ((sortBy Prod.fst out).map Prod.snd).map key = (sortBy Prod.fst out).map Prod.fst := by
        rw [List.map_map]
        exact List.map_congr_left fun p hp => ((hentry p).mp ((mem_sortBy _).mp hp)).2.symm
      rw [hkeys]
      have hle : ((sortBy Prod.fst out).map Prod.fst).Pairwise (· ≤ ·) :=
        List.pairwise_map.mpr (pairwise_sortBy _ _)
      have hnd : ((sortBy Prod.fst out).map Prod.fst).Nodup :=
        ((perm_sortBy Prod.fst out).map Prod.fst).nodup_iff.mpr hnodup
      exact (hle.and hnd).imp fun h => lt_of_le_of_ne h.1 h.2
  constructor
  · rintro ⟨out, h, rfl⟩
    exact hof h
  · intro h
    obtain ⟨out, hout⟩ := foldlM_register_nil.mpr fun a ha b hb => h.determined ha hb
    exact ⟨out, hout, h.unique (hof hout) fun _ => Iff.rfl⟩

end Sorting
