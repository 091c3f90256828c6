/-
AgentPlatform/Order/PriorityKahn.lean

Kahn's algorithm with a priority: the ready items are kept sorted by a relation
`le`, and the item put out next is the first of them. An item may name a
dependency several times; it is then counted, and released, as often.

The state and its invariant are those of the plain algorithm (`Kahn.Inv`), which
does not look at the order of the ready items. `runBy_ready` shows that the loop
ends because nothing is ready, and `runBy_perm` that the result does not depend
on the order in which the items are given.
-/
import AgentPlatform.Order.Kahn

namespace Kahn

/-- Sorting by a linear relation forgets the order of a list. -/
theorem insertionSort_eq_of_perm {α : Type*} {le : α → α → Prop} [DecidableRel le] [Std.Total le]
    [IsTrans α le] [Std.Antisymm le] {l l' : List α} (h : l.Perm l') :
    l.insertionSort le = l'.insertionSort le := by
  refine List.Perm.eq_of_pairwise' (List.pairwise_insertionSort le l)
    (List.pairwise_insertionSort le l') ?_
  exact (List.perm_insertionSort le l).trans (h.trans (List.perm_insertionSort le l').symm)

variable {α : Type*} [LinearOrder α] (le : α → α → Prop) [DecidableRel le]

/-! ### The algorithm -/

/-- One dependency of `dependent` is done; an item that becomes ready is sorted in. -/
def visitBy (s : (α → Int) × List α) (dependent : α) : (α → Int) × List α :=
  let n := s.1 dependent - 1
  (Function.update s.1 dependent n,
    if n = 0 then (s.2 ++ [dependent]).insertionSort le else s.2)

/-- One round of the loop; without a ready item nothing happens. -/
def stepBy (dependents : α → List α) (s : State α) : State α :=
  match s.ready with
  | [] => s
  | a :: rest =>
    let next := ((dependents a).insertionSort (· ≤ ·)).foldl (visitBy le) (s.indegree, rest)
    ⟨next.1, next.2, s.ordered ++ [a]⟩

def startBy (names : List α) (deps : α → List α) : State α :=
  let indegree : α → Int := fun a => (deps a).length
  ⟨indegree, (names.filter (indegree · = 0)).insertionSort le, []⟩

def runBy (names : List α) (deps : α → List α) : State α :=
  (stepBy le (dependents names deps))^[names.length] (startBy le names deps)

/-! ### The order of the items is immaterial -/

theorem dependents_perm {names names' : List α} (h : names.Perm names') (deps : α → List α)
    (b : α) : (dependents names deps b).Perm (dependents names' deps b) := by
  rw [dependents, dependents, foldl_dependents, foldl_dependents]
  exact h.flatMap_right _

/-- A round is the same function for both orders. -/
theorem stepBy_perm {names names' : List α} (h : names.Perm names') (deps : α → List α) :
    stepBy le (dependents names deps) = stepBy le (dependents names' deps) := by
  funext s
  have hd : ∀ a, (dependents names deps a).insertionSort (· ≤ ·)
      = (dependents names' deps a).insertionSort (· ≤ ·) := fun a =>
    insertionSort_eq_of_perm (dependents_perm h deps a)
  rcases hr : s.ready with _ | ⟨a, rest⟩
  · simp only [stepBy, hr]
  · simp only [stepBy, hr, hd a]

/-- **Order independence.** The result depends on the set of items only. -/
theorem runBy_perm [Std.Total le] [IsTrans α le] [Std.Antisymm le] {names names' : List α}
    (h : names.Perm names') (deps : α → List α) :
    runBy le names deps = runBy le names' deps := by
  have hstart : startBy le names deps = startBy le names' deps := by
    show State.mk _ _ _ = State.mk _ _ _
    rw [insertionSort_eq_of_perm (h.filter _)]
  rw [runBy, runBy, stepBy_perm le h, hstart, h.length_eq]

/-! ### One round -/

/-- The inner loop lowers each count as often as the item is listed, and readies
the items that reach zero. -/
theorem foldl_visitBy {l : List α} {f : α → Int} (hf : ∀ a ∈ l, (l.count a : Int) ≤ f a)
    (ready : List α) :
    (l.foldl (visitBy le) (f, ready)).1 = (fun a => f a - l.count a) ∧
      (l.foldl (visitBy le) (f, ready)).2.Perm
        (ready ++ l.dedup.filter fun a => f a = l.count a) := by
  induction l generalizing f ready with
  | nil => simp
  | cons x l ih =>
    have hx : ((l.count x : Int) + 1) ≤ f x := by
      have := hf x List.mem_cons_self
      rw [List.count_cons_self] at this
      omega
    have hupdate : ∀ a ∈ l, (l.count a : Int) ≤ Function.update f x (f x - 1) a := by
      intro a ha
      by_cases hax : a = x
      · subst hax
        rw [Function.update_self]
        omega
      · have := hf a (List.mem_cons_of_mem _ ha)
        rw [List.count_cons_of_ne (Ne.symm hax)] at this
        rwa [Function.update_of_ne hax]
    obtain ⟨hcount, hready⟩ := ih hupdate
      (if f x - 1 = 0 then (ready ++ [x]).insertionSort le else ready)
    refine ⟨?_, ?_⟩
    · show (l.foldl (visitBy le) _).1 = _
      rw [visitBy, hcount]
      funext a
      by_cases hax : a = x
      · subst hax
        rw [Function.update_self, List.count_cons_self]
        omega
      · rw [Function.update_of_ne hax, List.count_cons_of_ne (Ne.symm hax)]
    · have hsame : ∀ a ∈ l.dedup, a ≠ x →
          (decide (Function.update f x (f x - 1) a = l.count a)
            = decide (f a = (x :: l).count a)) := by
        intro a _ hax
        rw [Function.update_of_ne hax, List.count_cons_of_ne (Ne.symm hax)]
      have hxx : (Function.update f x (f x - 1) x = l.count x) ↔ (f x = (x :: l).count x) := by
        rw [Function.update_self, List.count_cons_self]
        omega
      refine hready.trans ?_
      by_cases hmem : x ∈ l
      · -- a later occurrence decides whether `x` becomes ready
        have hne : ¬ f x - 1 = 0 := by
          have := List.count_pos_iff.mpr hmem
          omega
        rw [if_neg hne, List.dedup_cons_of_mem hmem]
        refine List.Perm.append_left _ (List.Perm.of_eq (List.filter_congr fun a ha => ?_))
        by_cases hax : a = x
        · subst hax
          exact decide_eq_decide.mpr hxx
        · exact hsame a ha hax
      · have hzero : l.count x = 0 := List.count_eq_zero_of_not_mem hmem
        have hrest : (l.dedup.filter fun a => Function.update f x (f x - 1) a = l.count a)
            = l.dedup.filter fun a => f a = (x :: l).count a := by
          refine List.filter_congr fun a ha => hsame a ha ?_
          exact fun hax => hmem (hax ▸ List.mem_dedup.mp ha)
        rw [hrest, List.dedup_cons_of_notMem hmem, List.filter_cons]
        by_cases h0 : f x - 1 = 0
        · have hone : f x = ((x :: l).count x : Nat) := by
            rw [List.count_cons_self, hzero]
            omega
          rw [if_pos h0, if_pos (decide_eq_true hone)]
          refine ((List.perm_insertionSort le _).append_right _).trans (List.Perm.of_eq ?_)
          rw [List.append_assoc, List.singleton_append]
        · have hone : ¬ f x = ((x :: l).count x : Nat) := by
            rw [List.count_cons_self, hzero]
            omega
          rw [if_neg h0, if_neg (by simpa using hone)]

theorem count_dependents {names : List α} (hn : names.Nodup) (deps : α → List α) (b : α) {a : α}
    (ha : a ∈ names) : (dependents names deps b).count a = (deps a).count b := by
  have hcount : ∀ l : List α, l.Nodup →
      (l.flatMap fun x => List.replicate ((deps x).count b) x).count a
        = if a ∈ l then (deps a).count b else 0 := by
    intro l hl
    induction l with
    | nil => rfl
    | cons x l ih =>
      obtain ⟨hx, hl⟩ := List.nodup_cons.mp hl
      rw [List.flatMap_cons, List.count_append, ih hl, List.count_replicate]
      by_cases hax : a = x
      · subst hax
        simp [hx]
      · simp [hax, Ne.symm hax]
  rw [dependents, foldl_dependents, List.nil_append, hcount names hn, if_pos ha]

theorem mem_dependents {names : List α} {deps : α → List α} {a b : α} :
    a ∈ dependents names deps b ↔ a ∈ names ∧ b ∈ deps a := by
  rw [dependents, foldl_dependents, List.nil_append, List.mem_flatMap]
  constructor
  · rintro ⟨x, hx, hm⟩
    obtain ⟨hpos, rfl⟩ := List.mem_replicate.mp hm
    exact ⟨hx, List.count_pos_iff.mp (Nat.pos_of_ne_zero hpos)⟩
  · rintro ⟨ha, hb⟩
    exact ⟨a, ha, List.mem_replicate.mpr ⟨(List.count_pos_iff.mpr hb).ne', rfl⟩⟩

/-- The open dependencies after `a` is put out. -/
theorem filter_notMem_concat {l ordered : List α} {a : α} (ha : a ∉ ordered) :
    ((l.filter (· ∉ ordered ++ [a])).length : Int)
      = (l.filter (· ∉ ordered)).length - l.count a := by
  induction l with
  | nil => rfl
  | cons x l ih =>
    by_cases hx : x = a
    · subst hx
      simp only [List.filter_cons, List.mem_append, List.mem_singleton, or_true, not_true_eq_false,
        decide_false, Bool.false_eq_true, if_false, ha, not_false_eq_true, decide_true, if_true,
        List.length_cons, List.count_cons_self]
      simp only [List.mem_append, List.mem_singleton] at ih
      omega
    · rw [List.count_cons_of_ne hx]
      by_cases hm : x ∈ ordered
      · simpa [List.filter_cons, hx, hm] using ih
      · simp only [List.filter_cons, List.mem_append, List.mem_singleton, hx, hm, or_self,
          not_false_eq_true, decide_true, if_true, List.length_cons]
        simp only [List.mem_append, List.mem_singleton] at ih
        omega

section Round

variable {names : List α} {deps : α → List α} {s : State α} {a : α} {rest : List α}

/-- No count is lowered below zero. -/
theorem Inv.count_le (hn : names.Nodup) (h : Inv names deps s) (hr : s.ready = a :: rest) {x : α}
    (hx : x ∈ dependents names deps a) :
    ((dependents names deps a).count x : Int) ≤ s.indegree x := by
  obtain ⟨hxn, -⟩ := mem_dependents.mp hx
  rw [count_dependents hn deps a hxn, h.indegree x hxn]
  have := filter_notMem_concat (l := deps x) (h.popped hr).2
  omega

/-- What a round computes. -/
theorem stepBy_spec (hn : names.Nodup) (h : Inv names deps s) (hr : s.ready = a :: rest) :
    ∃ ready, stepBy le (dependents names deps) s
        = ⟨fun x => s.indegree x - (dependents names deps a).count x, ready, s.ordered ++ [a]⟩ ∧
      ready.Perm (rest ++ (dependents names deps a).dedup.filter
        fun x => s.indegree x = (dependents names deps a).count x) := by
  have hsort := List.perm_insertionSort (· ≤ ·) (dependents names deps a)
  have hcount : ∀ x, ((dependents names deps a).insertionSort (· ≤ ·)).count x
      = (dependents names deps a).count x := fun x => hsort.count_eq x
  obtain ⟨hone, htwo⟩ := foldl_visitBy le (l := (dependents names deps a).insertionSort (· ≤ ·))
    (f := s.indegree)
    (fun x hx => by rw [hcount]; exact h.count_le hn hr (hsort.mem_iff.mp hx)) rest
  refine ⟨_, ?_, htwo.trans ?_⟩
  · simp only [stepBy, hr, hone, hcount]
  · refine List.Perm.append_left _ ?_
    simp only [hcount]
    exact (hsort.dedup).filter _

/-- The counts after a round. -/
theorem Inv.indegree_stepBy (hn : names.Nodup) (h : Inv names deps s) (hr : s.ready = a :: rest)
    {x : α} (hx : x ∈ names) :
    s.indegree x - (dependents names deps a).count x
      = ((deps x).filter (· ∉ s.ordered ++ [a])).length := by
  rw [filter_notMem_concat (h.popped hr).2, h.indegree x hx, count_dependents hn deps a hx]

/-- Who becomes ready in a round: those whose last open dependency was the item
put out. -/
theorem Inv.readied_iff (hn : names.Nodup) (h : Inv names deps s) (hr : s.ready = a :: rest)
    {x : α} (hx : x ∈ names) :
    s.indegree x = (dependents names deps a).count x ↔ ∀ b ∈ deps x, b ∈ s.ordered ++ [a] := by
  have hcount := h.indegree_stepBy hn hr hx
  have hall : (∀ b ∈ deps x, b ∈ s.ordered ++ [a]) ↔
      ((deps x).filter (· ∉ s.ordered ++ [a])).length = 0 := by
    rw [List.length_eq_zero_iff, List.filter_eq_nil_iff]
    exact forall₂_congr fun b _ => by simp only [decide_eq_true_eq, not_not]
  rw [hall]
  omega

/-- **One round keeps the invariant.** -/
theorem stepBy_inv (hn : names.Nodup) (h : Inv names deps s) :
    Inv names deps (stepBy le (dependents names deps) s) := by
  rcases hr : s.ready with _ | ⟨a, rest⟩
  · rw [stepBy, hr]
    exact h
  · obtain ⟨ready, hstep, hp⟩ := stepBy_spec le hn h hr
    have hold : ∀ x, x ∈ s.ordered ++ a :: rest ↔ x ∈ names ∧ ∀ b ∈ deps x, b ∈ s.ordered := by
      intro x
      rw [← hr]
      exact h.mem x
    have hready : ∀ x, x ∈ ready ↔ x ∈ rest ∨ (x ∈ names ∧ a ∈ deps x) ∧
        ∀ b ∈ deps x, b ∈ s.ordered ++ [a] := by
      intro x
      rw [hp.mem_iff, List.mem_append, List.mem_filter, List.mem_dedup, mem_dependents,
        decide_eq_true_eq]
      refine or_congr_right (and_congr_right fun hx => h.readied_iff hn hr hx.1)
    rw [hstep]
    refine ⟨?_, fun x => ?_, fun x hx => h.indegree_stepBy hn hr hx,
      ordered_concat.mpr ⟨h.ordered, (h.popped hr).1⟩⟩
    · -- what was ready before waits for nothing, so it is not readied again
      have hnd := h.nodup
      rw [hr] at hnd
      have hfull := (hp.append_left (s.ordered ++ [a])).nodup_iff.mpr
      apply hfull
      rw [← List.append_assoc, List.append_assoc s.ordered, List.singleton_append,
        List.nodup_append]
      refine ⟨hnd, (List.nodup_dedup _).filter _, ?_⟩
      rintro x hx y hy rfl
      obtain ⟨hy, -⟩ := List.mem_filter.mp hy
      have hwait := (mem_dependents.mp (List.mem_dedup.mp hy)).2
      exact (h.popped hr).2 (((hold x).mp hx).2 a hwait)
    · rw [List.mem_append, hready]
      constructor
      · rintro (hx | hx | ⟨⟨hx, -⟩, hall⟩)
        · obtain ⟨hxn, hall⟩ := (hold x).mp (by
            rcases List.mem_append.mp hx with hx | hx
            · exact List.mem_append_left _ hx
            · rw [List.mem_singleton.mp hx]
              exact List.mem_append_right _ List.mem_cons_self)
          exact ⟨hxn, fun b hb => List.mem_append_left _ (hall b hb)⟩
        · obtain ⟨hxn, hall⟩ := (hold x).mp
            (List.mem_append_right _ (List.mem_cons_of_mem _ hx))
          exact ⟨hxn, fun b hb => List.mem_append_left _ (hall b hb)⟩
        · exact ⟨hx, hall⟩
      · rintro ⟨hx, hall⟩
        by_cases hax : a ∈ deps x
        · exact .inr (.inr ⟨⟨hx, hax⟩, hall⟩)
        · have hbefore : ∀ b ∈ deps x, b ∈ s.ordered := by
            intro b hb
            rcases List.mem_append.mp (hall b hb) with hm | hm
            · exact hm
            · rw [List.mem_singleton.mp hm] at hb
              exact absurd hb hax
          rcases List.mem_append.mp ((hold x).mpr ⟨hx, hbefore⟩) with hm | hm
          · exact .inl (List.mem_append_left _ hm)
          · rcases List.mem_cons.mp hm with rfl | hm
            · exact .inl (List.mem_append_right _ (List.mem_singleton.mpr rfl))
            · exact .inr (.inl hm)

end Round

/-! ### The whole loop -/

section Rounds

variable {names : List α} {deps : α → List α}

theorem startBy_inv (hn : names.Nodup) : Inv names deps (startBy le names deps) := by
  have h : Inv names deps (start names deps) := start_inv hn
  have hp := List.perm_insertionSort le (names.filter fun a => ((deps a).length : Int) = 0)
  exact ⟨(hp.append_left []).nodup_iff.mpr h.nodup,
    fun a => ((hp.append_left []).mem_iff).trans (h.mem a), h.indegree, h.ordered⟩

theorem iterateBy_inv (hn : names.Nodup) (n : Nat) :
    Inv names deps ((stepBy le (dependents names deps))^[n] (startBy le names deps)) := by
  induction n with
  | zero => exact startBy_inv le hn
  | succ n ih =>
    rw [Function.iterate_succ_apply']
    exact stepBy_inv le hn ih

theorem runBy_inv (hn : names.Nodup) : Inv names deps (runBy le names deps) :=
  iterateBy_inv le hn names.length

/-- Each round puts one item out, as long as there is one. -/
theorem iterateBy_progress (names : List α) (deps : α → List α) (n : Nat) :
    ((stepBy le (dependents names deps))^[n] (startBy le names deps)).ready = [] ∨
      ((stepBy le (dependents names deps))^[n] (startBy le names deps)).ordered.length = n := by
  induction n with
  | zero => exact .inr rfl
  | succ n ih =>
    rw [Function.iterate_succ_apply']
    rcases hr : ((stepBy le (dependents names deps))^[n] (startBy le names deps)).ready with
      _ | ⟨a, rest⟩
    · left
      rw [stepBy, hr]
      exact hr
    · right
      rw [hr] at ih
      rw [stepBy, hr]
      simpa using ih

/-- **Enough rounds.** The loop ends because nothing is ready. -/
theorem runBy_ready (hn : names.Nodup) : (runBy le names deps).ready = [] := by
  have h : Inv names deps (runBy le names deps) := runBy_inv le hn
  have hle := h.length_le
  rcases iterateBy_progress le names deps names.length with hr | hl
  · exact hr
  · rw [runBy] at hle ⊢
    exact List.length_eq_zero_iff.mp (by omega)

/-- An output as long as the input holds every item once. -/
theorem runBy_perm_names (hn : names.Nodup)
    (hl : (runBy le names deps).ordered.length = names.length) :
    (runBy le names deps).ordered.Perm names := by
  have h : Inv names deps (runBy le names deps) := runBy_inv le hn
  have hsub : (runBy le names deps).ordered ⊆ names := fun a ha =>
    ((h.mem a).mp (List.mem_append_left _ ha)).1
  exact (List.subperm_of_subset (List.nodup_append.mp h.nodup).1 hsub).perm_of_length_le (by omega)

end Rounds

end Kahn
