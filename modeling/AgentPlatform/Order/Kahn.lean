/-
AgentPlatform/Order/Kahn.lean

Kahn's algorithm over an arbitrary type, with the data it is usually written
with: a count of open dependencies for each item, the items that wait for a
given one, and a queue of items whose count has reached zero.

`names` are the items and `deps a` what `a` depends on. The loop is run for as
many rounds as there are items; `run_ready` shows that the queue is then empty,
so that nothing is cut off. What was put out is listed once and in dependency
order (`run_inv`); when it is as long as `names` it is all of them
(`perm_of_length`).
-/
import Mathlib

namespace Kahn

variable {α : Type*}

/-! ### Dependency order -/

/-- Every item comes after all that it depends on. -/
def Ordered (deps : α → List α) (l : List α) : Prop :=
  ∀ l₁ a l₂, l = l₁ ++ a :: l₂ → ∀ b ∈ deps a, b ∈ l₁

theorem Ordered.nil (deps : α → List α) : Ordered deps [] := by
  intro l₁ a l₂ h
  simp at h

theorem ordered_concat {deps : α → List α} {l : List α} {a : α} :
    Ordered deps (l ++ [a]) ↔ Ordered deps l ∧ ∀ b ∈ deps a, b ∈ l := by
  constructor
  · intro h
    refine ⟨fun l₁ x l₂ e b hb => h l₁ x (l₂ ++ [a]) (by rw [e]; simp) b hb, h l a [] rfl⟩
  · rintro ⟨hl, ha⟩ l₁ x l₂ e b hb
    -- the item is the last one, or it stood in `l` already
    rcases List.eq_nil_or_concat l₂ with rfl | ⟨l₂, z, rfl⟩
    · obtain ⟨rfl, hx⟩ := List.append_inj' e rfl
      cases hx
      exact ha b hb
    · have e' : l ++ [a] = (l₁ ++ x :: l₂) ++ [z] := by rw [e]; simp
      exact hl l₁ x l₂ (List.append_inj' e' rfl).1 b hb

/-- Induction along a dependency order. -/
theorem Ordered.induction {deps : α → List α} {l : List α} (h : Ordered deps l) {P : α → Prop}
    (step : ∀ a ∈ l, (∀ b ∈ deps a, P b) → P a) : ∀ a ∈ l, P a := by
  induction l using List.reverseRecOn with
  | nil =>
    intro a ha
    cases ha
  | append_singleton l x ih =>
    obtain ⟨hl, hx⟩ := ordered_concat.mp h
    have hold := ih hl fun a ha => step a (List.mem_append_left _ ha)
    intro a ha
    rcases List.mem_append.mp ha with ha | ha
    · exact hold a ha
    · rw [List.mem_singleton.mp ha]
      exact step x (List.mem_append_right _ List.mem_cons_self) fun b hb => hold b (hx b hb)

/-! ### The algorithm -/

structure State (α : Type*) where
  indegree : α → Int
  ready : List α
  ordered : List α

variable [DecidableEq α]

/-- One dependency of `dependent` is done. -/
def visit (s : (α → Int) × List α) (dependent : α) : (α → Int) × List α :=
  let n := s.1 dependent - 1
  (Function.update s.1 dependent n, if n = 0 then s.2 ++ [dependent] else s.2)

/-- One round of the loop; without a ready item nothing happens. -/
def step (dependents : α → List α) (s : State α) : State α :=
  match s.ready with
  | [] => s
  | a :: rest =>
    let next := (dependents a).foldl visit (s.indegree, rest)
    ⟨next.1, next.2, s.ordered ++ [a]⟩

/-- Who waits for an item, in the order of `names`. -/
def dependents (names : List α) (deps : α → List α) : α → List α :=
  names.foldl
    (fun m a => (deps a).foldl (fun m b => Function.update m b (m b ++ [a])) m) fun _ => []

def start (names : List α) (deps : α → List α) : State α :=
  let indegree : α → Int := fun a => (deps a).length
  ⟨indegree, names.filter (indegree · = 0), []⟩

def run (names : List α) (deps : α → List α) : State α :=
  (step (dependents names deps))^[names.length] (start names deps)

/-! ### The dependents of an item -/

theorem foldl_update_append (a : α) (l : List α) (m : α → List α) (b : α) :
    l.foldl (fun m b => Function.update m b (m b ++ [a])) m b
      = m b ++ List.replicate (l.count b) a := by
  induction l generalizing m with
  | nil => simp
  | cons x l ih =>
    rw [List.foldl_cons, ih, Function.update_apply, List.count_cons]
    by_cases hx : b = x
    · subst hx
      simp [List.replicate_succ]
    · simp [hx, Ne.symm hx]

theorem foldl_dependents (deps : α → List α) (names : List α) (m : α → List α) (b : α) :
    names.foldl
        (fun m a => (deps a).foldl (fun m b => Function.update m b (m b ++ [a])) m) m b
      = m b ++ names.flatMap fun a => List.replicate ((deps a).count b) a := by
  induction names generalizing m with
  | nil => simp
  | cons a names ih => rw [List.foldl_cons, ih, foldl_update_append, List.flatMap_cons,
      List.append_assoc]

/-- Each item that depends on `b` once waits for it once. -/
theorem dependents_eq_filter {names : List α} {deps : α → List α}
    (h : ∀ a ∈ names, (deps a).Nodup) (b : α) :
    dependents names deps b = names.filter fun a => b ∈ deps a := by
  rw [dependents, foldl_dependents, List.nil_append]
  induction names with
  | nil => rfl
  | cons a names ih =>
    rw [List.flatMap_cons, ih fun x hx => h x (List.mem_cons_of_mem _ hx), List.filter_cons]
    by_cases hb : b ∈ deps a
    · rw [List.count_eq_one_of_mem (h a List.mem_cons_self) hb]
      simp [hb]
    · rw [List.count_eq_zero_of_not_mem hb]
      simp [hb]

/-! ### One round -/

/-- The inner loop lowers each count once and queues the items that reach zero. -/
theorem foldl_visit {l : List α} (hl : l.Nodup) (f : α → Int) (ready : List α) :
    l.foldl visit (f, ready)
      = (fun a => if a ∈ l then f a - 1 else f a, ready ++ l.filter (f · = 1)) := by
  induction l generalizing f ready with
  | nil => simp
  | cons x l ih =>
    obtain ⟨hx, hl⟩ := List.nodup_cons.mp hl
    have hf : ∀ a ∈ l, Function.update f x (f x - 1) a = f a := fun a ha =>
      Function.update_of_ne (ne_of_mem_of_not_mem ha hx) _ _
    rw [List.foldl_cons, visit, ih hl, Prod.mk.injEq]
    constructor
    · funext a
      by_cases ha : a = x
      · subst ha
        simp [hx]
      · simp [ha]
    · rw [List.filter_congr fun a ha => by rw [hf a ha], List.filter_cons]
      by_cases h1 : f x = 1
      · simp [h1]
      · have h0 : f x - 1 ≠ 0 := by omega
        simp [h1, h0]

/-- The state of the loop between two rounds. -/
structure Inv (names : List α) (deps : α → List α) (s : State α) : Prop where
  nodup : (s.ordered ++ s.ready).Nodup
  mem : ∀ a, a ∈ s.ordered ++ s.ready ↔ a ∈ names ∧ ∀ b ∈ deps a, b ∈ s.ordered
  indegree : ∀ a ∈ names, s.indegree a = ((deps a).filter (· ∉ s.ordered)).length
  ordered : Ordered deps s.ordered

section Rounds

variable {names : List α} {deps : α → List α} {s : State α}

/-- A count is zero when nothing is left to wait for. -/
theorem Inv.indegree_eq_zero (h : Inv names deps s) {a : α} (ha : a ∈ names) :
    s.indegree a = 0 ↔ ∀ b ∈ deps a, b ∈ s.ordered := by
  rw [h.indegree a ha, Int.natCast_eq_zero, List.length_eq_zero_iff, List.filter_eq_nil_iff]
  simp

theorem filter_append_singleton {l ordered : List α} {a : α} (hl : l.Nodup)
    (ha : a ∉ ordered) :
    ((l.filter (· ∉ ordered ++ [a])).length : Int)
      = (l.filter (· ∉ ordered)).length - if a ∈ l then 1 else 0 := by
  have herase : l.filter (· ∉ ordered ++ [a]) = (l.filter (· ∉ ordered)).erase a := by
    rw [List.Nodup.erase_eq_filter (hl.filter _), List.filter_filter]
    refine List.filter_congr fun x _ => ?_
    by_cases hx : x = a <;> simp [hx]
  rw [herase]
  by_cases hm : a ∈ l
  · have hm' : a ∈ l.filter (· ∉ ordered) := List.mem_filter.mpr ⟨hm, by simpa using ha⟩
    have hpos := List.length_pos_of_mem hm'
    rw [List.length_erase_of_mem hm', if_pos hm]
    omega
  · rw [List.erase_of_not_mem fun h => hm (List.mem_filter.mp h).1, if_neg hm]
    omega

theorem start_inv (hn : names.Nodup) : Inv names deps (start names deps) where
  nodup := by
    rw [start, List.nil_append]
    exact hn.filter _
  mem a := by
    simp only [start, List.nil_append, List.mem_filter, decide_eq_true_eq, Int.natCast_eq_zero,
      List.length_eq_zero_iff, List.not_mem_nil, imp_false, ← List.eq_nil_iff_forall_not_mem]
  indegree a _ := by simp [start]
  ordered := .nil deps

/-- The items that wait for `a`. -/
def waiting (names : List α) (deps : α → List α) (a : α) : List α :=
  names.filter fun x => a ∈ deps x

theorem mem_waiting {a x : α} : x ∈ waiting names deps a ↔ x ∈ names ∧ a ∈ deps x := by
  simp [waiting]

section Round

variable {a : α} {rest : List α}

/-- What a round computes. -/
theorem step_eq (hn : names.Nodup) (hd : ∀ a ∈ names, (deps a).Nodup)
    (hr : s.ready = a :: rest) :
    step (dependents names deps) s
      = ⟨fun x => if x ∈ waiting names deps a then s.indegree x - 1 else s.indegree x,
        rest ++ (waiting names deps a).filter (s.indegree · = 1), s.ordered ++ [a]⟩ := by
  have hwait : (waiting names deps a).Nodup := hn.filter _
  simp only [step, hr, dependents_eq_filter hd]
  rw [← waiting, foldl_visit hwait]

theorem Inv.popped (h : Inv names deps s) (hr : s.ready = a :: rest) :
    (∀ b ∈ deps a, b ∈ s.ordered) ∧ a ∉ s.ordered := by
  refine ⟨((h.mem a).mp (by simp [hr])).2, fun hm => ?_⟩
  have hnd := h.nodup
  rw [hr] at hnd
  exact (List.nodup_append.mp hnd).2.2 a hm a List.mem_cons_self rfl

/-- The counts after a round. -/
theorem Inv.indegree_step (hd : ∀ a ∈ names, (deps a).Nodup) (h : Inv names deps s)
    (hr : s.ready = a :: rest) {x : α} (hx : x ∈ names) :
    (if x ∈ waiting names deps a then s.indegree x - 1 else s.indegree x)
      = ((deps x).filter (· ∉ s.ordered ++ [a])).length := by
  rw [filter_append_singleton (hd x hx) (h.popped hr).2, ← h.indegree x hx]
  by_cases hax : a ∈ deps x <;> simp [mem_waiting, hx, hax]

/-- Who is queued in a round: those that waited for the popped item only. -/
theorem Inv.queued_iff (hd : ∀ a ∈ names, (deps a).Nodup) (h : Inv names deps s)
    (hr : s.ready = a :: rest) {x : α} (hx : x ∈ waiting names deps a) :
    s.indegree x = 1 ↔ ∀ b ∈ deps x, b ∈ s.ordered ++ [a] := by
  have hcount := h.indegree_step hd hr (mem_waiting.mp hx).1
  rw [if_pos hx] at hcount
  have hall : (∀ b ∈ deps x, b ∈ s.ordered ++ [a]) ↔
      ((deps x).filter (· ∉ s.ordered ++ [a])).length = 0 := by
    rw [List.length_eq_zero_iff, List.filter_eq_nil_iff]
    exact forall₂_congr fun b _ => by simp only [decide_eq_true_eq, not_not]
  rw [hall]
  omega

/-- Nothing is queued twice. -/
theorem Inv.nodup_step (hn : names.Nodup) (h : Inv names deps s) (hr : s.ready = a :: rest) :
    ((s.ordered ++ [a]) ++ (rest ++ (waiting names deps a).filter (s.indegree · = 1))).Nodup := by
  have hnd := h.nodup
  rw [hr] at hnd
  rw [← List.append_assoc, List.append_assoc s.ordered, List.singleton_append, List.nodup_append]
  refine ⟨hnd, (hn.filter _).filter _, ?_⟩
  rintro x hx y hy rfl
  obtain ⟨hy, hone⟩ := List.mem_filter.mp hy
  -- an item queued before has count zero
  have hzero := (h.indegree_eq_zero (mem_waiting.mp hy).1).mpr
    ((h.mem x).mp (by rw [hr]; exact hx)).2
  simp only [decide_eq_true_eq] at hone
  omega

/-- The items put out or queued after a round. -/
theorem Inv.mem_step (hd : ∀ a ∈ names, (deps a).Nodup) (h : Inv names deps s)
    (hr : s.ready = a :: rest) (x : α) :
    x ∈ (s.ordered ++ [a]) ++ (rest ++ (waiting names deps a).filter (s.indegree · = 1)) ↔
      x ∈ names ∧ ∀ b ∈ deps x, b ∈ s.ordered ++ [a] := by
  have hold : x ∈ s.ordered ++ a :: rest ↔ x ∈ names ∧ ∀ b ∈ deps x, b ∈ s.ordered := by
    rw [← hr]
    exact h.mem x
  rw [← List.append_assoc, List.append_assoc s.ordered, List.singleton_append, List.mem_append,
    hold, List.mem_filter, decide_eq_true_eq]
  constructor
  · rintro (⟨hx, hall⟩ | ⟨hx, hone⟩)
    · exact ⟨hx, fun b hb => List.mem_append_left _ (hall b hb)⟩
    · exact ⟨(mem_waiting.mp hx).1, (h.queued_iff hd hr hx).mp hone⟩
  · rintro ⟨hx, hall⟩
    by_cases hax : a ∈ deps x
    · have hw : x ∈ waiting names deps a := mem_waiting.mpr ⟨hx, hax⟩
      exact .inr ⟨hw, (h.queued_iff hd hr hw).mpr hall⟩
    · refine .inl ⟨hx, fun b hb => ?_⟩
      rcases List.mem_append.mp (hall b hb) with hm | hm
      · exact hm
      · rw [List.mem_singleton.mp hm] at hb
        exact absurd hb hax

end Round

/-- **One round keeps the invariant.** -/
theorem step_inv (hn : names.Nodup) (hd : ∀ a ∈ names, (deps a).Nodup) (h : Inv names deps s) :
    Inv names deps (step (dependents names deps) s) := by
  rcases hr : s.ready with _ | ⟨a, rest⟩
  · rw [step, hr]
    exact h
  · rw [step_eq hn hd hr]
    exact ⟨h.nodup_step hn hr, h.mem_step hd hr, fun x hx => h.indegree_step hd hr hx,
      ordered_concat.mpr ⟨h.ordered, (h.popped hr).1⟩⟩

/-! ### The whole loop -/

theorem iterate_inv (hn : names.Nodup) (hd : ∀ a ∈ names, (deps a).Nodup) (n : Nat) :
    Inv names deps ((step (dependents names deps))^[n] (start names deps)) := by
  induction n with
  | zero => exact start_inv hn
  | succ n ih =>
    rw [Function.iterate_succ_apply']
    exact step_inv hn hd ih

theorem run_inv (hn : names.Nodup) (hd : ∀ a ∈ names, (deps a).Nodup) :
    Inv names deps (run names deps) :=
  iterate_inv hn hd names.length

/-- Each round puts one item out, as long as there is one. -/
theorem iterate_progress (names : List α) (deps : α → List α) (n : Nat) :
    ((step (dependents names deps))^[n] (start names deps)).ready = [] ∨
      ((step (dependents names deps))^[n] (start names deps)).ordered.length = n := by
  induction n with
  | zero => exact .inr rfl
  | succ n ih =>
    rw [Function.iterate_succ_apply']
    rcases hr : ((step (dependents names deps))^[n] (start names deps)).ready with _ | ⟨a, rest⟩
    · left
      rw [step, hr]
      exact hr
    · right
      rw [hr] at ih
      rw [step, hr]
      simpa using ih

theorem Inv.length_le (h : Inv names deps s) :
    s.ordered.length + s.ready.length ≤ names.length := by
  rw [← List.length_append]
  exact (List.subperm_of_subset h.nodup fun a ha => ((h.mem a).mp ha).1).length_le

/-- **Enough rounds.** The loop ends because the queue is empty. -/
theorem run_ready (hn : names.Nodup) (hd : ∀ a ∈ names, (deps a).Nodup) :
    (run names deps).ready = [] := by
  have hle := (run_inv hn hd).length_le
  rcases iterate_progress names deps names.length with hr | hl
  · exact hr
  · rw [run] at hle ⊢
    exact List.length_eq_zero_iff.mp (by omega)

/-- An output as long as the input holds every item once. -/
theorem perm_of_length (hn : names.Nodup) (hd : ∀ a ∈ names, (deps a).Nodup)
    (hl : (run names deps).ordered.length = names.length) :
    (run names deps).ordered.Perm names := by
  have h := run_inv hn hd
  have hsub : (run names deps).ordered ⊆ names := fun a ha =>
    ((h.mem a).mp (List.mem_append_left _ ha)).1
  exact (List.subperm_of_subset (List.nodup_append.mp h.nodup).1 hsub).perm_of_length_le (by omega)

end Rounds

end Kahn
