/-
AgentPlatform/Order/Acyclic.lean

What Kahn's algorithm puts out, over an arbitrary type.

Both loops stop with an empty list of ready items. What they have put out then is
all there is exactly if no item depends on itself (`complete_iff`): on a finite set
without cycles dependencies are well founded, and an item none of whose dependencies
is left is put out. The loop with a priority puts out the least available item each
time (`runBy_greedy`), and a list with this property is the least of all dependency
orders (`Greedy.least`).
-/
import AgentPlatform.Order.PriorityKahn

namespace Kahn

open Relation

variable {α : Type*} {names l l' : List α} {deps : α → List α}

/-! ### Acyclic dependencies -/

/-- No item depends on itself, directly or through others. -/
def Acyclic (names : List α) (deps : α → List α) : Prop :=
  ∀ a ∈ names, ¬ TransGen (fun a b => b ∈ deps a) a a

theorem not_of_acc {r : α → α → Prop} {a : α} (h : Acc r a) : ¬ r a a := by
  induction h with
  | intro a _ ih => exact fun hr => ih a hr hr

/-- What is listed in dependency order is on no cycle. -/
theorem Acyclic.of_ordered (h : Ordered deps l) (hall : ∀ a ∈ names, a ∈ l) : Acyclic names deps := by
  have hacc : ∀ a ∈ l, Acc (fun b a => b ∈ deps a) a :=
    h.induction fun a _ ih => ⟨a, ih⟩
  intro a ha hcycle
  have hswap : TransGen (fun b a => b ∈ deps a) a a := transGen_swap.mp hcycle
  exact not_of_acc (hacc a (hall a ha)).transGen hswap

/-- **Dependencies without cycles are well founded**: what holds of an item when it holds
of all that it depends on holds of every item. -/
theorem acyclic_induction (hclosed : ∀ a ∈ names, ∀ b ∈ deps a, b ∈ names)
    (hacyclic : Acyclic names deps) {P : α → Prop}
    (step : ∀ a ∈ names, (∀ b ∈ deps a, P b) → P a) : ∀ a ∈ names, P a := by
  let below : {a // a ∈ names} → {a // a ∈ names} → Prop := fun b a =>
    TransGen (fun a b => b ∈ deps a) a.1 b.1
  have htrans : IsTrans _ below := ⟨fun _ _ _ hab hbc => hbc.trans hab⟩
  have hirrefl : Std.Irrefl below := ⟨fun a h => hacyclic a.1 a.2 h⟩
  have hfinite : Finite {a // a ∈ names} := names.finite_toSet.to_subtype
  have hwf : WellFounded below := Finite.wellFounded_of_trans_of_irrefl below
  intro a ha
  induction h : (⟨a, ha⟩ : {a // a ∈ names}) using hwf.induction generalizing a with
  | _ x ih =>
    subst h
    apply step a ha
    intro b hb
    exact ih ⟨b, hclosed a ha b hb⟩ (.single hb) b (hclosed a ha b hb) rfl

/-- In a dependency order nothing depends on what comes later. -/
theorem Ordered.pairwise_notMem (h : Ordered deps l) (hn : l.Nodup) : l.Pairwise fun a b => b ∉ deps a := by
  induction l using List.reverseRecOn with
  | nil => exact List.Pairwise.nil
  | append_singleton l x ih =>
    obtain ⟨hl, -⟩ := ordered_concat.mp h
    obtain ⟨hnl, -, hx⟩ := List.nodup_append.mp hn
    rw [List.pairwise_append]
    refine ⟨ih hl hnl, List.pairwise_singleton _ _, fun a ha b hb hdep => ?_⟩
    rw [List.mem_singleton.mp hb] at hdep
    obtain ⟨l₁, l₂, rfl⟩ := List.append_of_mem ha
    have hbefore : x ∈ l₁ := h l₁ a (l₂ ++ [x]) (by simp) x hdep
    exact hx x (List.mem_append_left _ hbefore) x List.mem_cons_self rfl

section Loops

variable {s : State α}

/-- **All is put out exactly if there is no cycle.** -/
theorem Inv.complete_iff [DecidableEq α] (h : Inv names deps s) (hr : s.ready = []) (hn : names.Nodup)
    (hclosed : ∀ a ∈ names, ∀ b ∈ deps a, b ∈ names) :
    s.ordered.length = names.length ↔ Acyclic names deps := by
  have hmem : ∀ a, a ∈ s.ordered ↔ a ∈ names ∧ ∀ b ∈ deps a, b ∈ s.ordered := by
    intro a
    have ha := h.mem a
    rwa [hr, List.append_nil] at ha
  have hnodup : s.ordered.Nodup := (List.nodup_append.mp h.nodup).1
  have hsub : s.ordered ⊆ names := fun a ha => ((hmem a).mp ha).1
  constructor
  · intro hl
    have hperm := (List.subperm_of_subset hnodup hsub).perm_of_length_le (by omega)
    exact Acyclic.of_ordered h.ordered fun a ha => hperm.mem_iff.mpr ha
  · intro hacyclic
    have hall : ∀ a ∈ names, a ∈ s.ordered :=
      acyclic_induction hclosed hacyclic fun a ha ih => (hmem a).mpr ⟨ha, ih⟩
    exact ((List.perm_ext_iff_of_nodup hnodup hn).mpr fun a => ⟨fun ha => hsub ha, hall a⟩).length_eq

theorem run_complete_iff [DecidableEq α] (hn : names.Nodup) (hd : ∀ a ∈ names, (deps a).Nodup)
    (hclosed : ∀ a ∈ names, ∀ b ∈ deps a, b ∈ names) :
    (run names deps).ordered.length = names.length ↔ Acyclic names deps :=
  (run_inv hn hd).complete_iff (run_ready hn hd) hn hclosed

end Loops

/-! ### The least available item -/

/-- At each position stands the least of the items that could. -/
def Greedy (le : α → α → Prop) (names : List α) (deps : α → List α) (l : List α) : Prop :=
  ∀ l₁ a l₂, l = l₁ ++ a :: l₂ → ∀ b ∈ names, b ∉ l₁ → (∀ d ∈ deps b, d ∈ l₁) → le a b

variable {le : α → α → Prop}

theorem Greedy.nil : Greedy le names deps [] := by
  intro l₁ a l₂ h
  simp at h

theorem greedy_concat {a : α} (h : Greedy le names deps l)
    (ha : ∀ b ∈ names, b ∉ l → (∀ d ∈ deps b, d ∈ l) → le a b) : Greedy le names deps (l ++ [a]) := by
  intro l₁ x l₂ e b hb hnew havailable
  -- the position is the last one, or it is one of `l`
  rcases List.eq_nil_or_concat l₂ with rfl | ⟨l₂, z, rfl⟩
  · obtain ⟨rfl, hx⟩ := List.append_inj' e rfl
    cases hx
    exact ha b hb hnew havailable
  · have e' : l ++ [a] = (l₁ ++ x :: l₂) ++ [z] := by rw [e]; simp
    exact h l₁ x l₂ (List.append_inj' e' rfl).1 b hb hnew havailable

/-- **The least of all dependency orders**: another one differs from it first at a
position where it has the greater item. -/
theorem Greedy.least (h : Greedy le names deps l) (hl : l.Perm names) (hl' : l'.Perm names) (hn : names.Nodup)
    (ho : Ordered deps l') :
    l' = l ∨ ∃ p a b r r', l = p ++ a :: r ∧ l' = p ++ b :: r' ∧ a ≠ b ∧ le a b := by
  have hrest : ∀ r r' p : List α, l = p ++ r → l' = p ++ r' → r.length = r'.length →
      r' = r ∨ ∃ q a b t t', l = q ++ a :: t ∧ l' = q ++ b :: t' ∧ a ≠ b ∧ le a b := by
    intro r
    induction r with
    | nil =>
      intro r' p _ _ hlength
      exact .inl (List.length_eq_zero_iff.mp hlength.symm)
    | cons a r ih =>
      intro r' p he he' hlength
      rcases r' with - | ⟨b, r'⟩
      · cases hlength
      · by_cases hab : a = b
        · subst hab
          have hnext := ih r' (p ++ [a]) (by rw [he]; simp) (by rw [he']; simp) (Nat.succ.inj hlength)
          exact hnext.imp_left fun heq => congrArg (a :: ·) heq
        · refine .inr ⟨p, a, b, r, r', he, he', hab, h p a r he b ?_ ?_ (ho p b r' he')⟩
          · apply hl'.mem_iff.mp
            rw [he']
            exact List.mem_append_right _ List.mem_cons_self
          · intro hb
            have hnodup : (p ++ b :: r').Nodup := he' ▸ hl'.nodup_iff.mpr hn
            exact (List.nodup_append.mp hnodup).2.2 b hb b List.mem_cons_self rfl
  exact hrest l l' [] rfl rfl (hl.length_eq.trans hl'.length_eq.symm)

section Priority

variable {α : Type*} [LinearOrder α] (le : α → α → Prop) [DecidableRel le] [Std.Total le] [IsTrans α le]
  {names : List α} {deps : α → List α} {s : State α}

/-- The ready items stay sorted. -/
theorem foldl_visitBy_sorted (l : List α) (f : α → Int) {ready : List α} (h : ready.Pairwise le) :
    (l.foldl (visitBy le) (f, ready)).2.Pairwise le := by
  induction l generalizing f ready with
  | nil => exact h
  | cons x l ih =>
    rw [List.foldl_cons, visitBy]
    apply ih
    split
    · exact List.pairwise_insertionSort le _
    · exact h

/-- **One round** puts out the least available item. -/
theorem stepBy_greedy (hinv : Inv names deps s) (hs : s.ready.Pairwise le)
    (hg : Greedy le names deps s.ordered) :
    (stepBy le (dependents names deps) s).ready.Pairwise le ∧
      Greedy le names deps (stepBy le (dependents names deps) s).ordered := by
  rcases hr : s.ready with - | ⟨a, rest⟩
  · simp only [stepBy, hr]
    exact ⟨List.Pairwise.nil, hg⟩
  · rw [hr] at hs
    obtain ⟨hleast, hrest⟩ := List.pairwise_cons.mp hs
    simp only [stepBy, hr]
    refine ⟨foldl_visitBy_sorted le _ _ hrest, greedy_concat hg fun b hb hnew havailable => ?_⟩
    have hready : b ∈ s.ordered ++ s.ready := (hinv.mem b).mpr ⟨hb, havailable⟩
    rcases List.mem_append.mp hready with hb | hb
    · exact absurd hb hnew
    · rw [hr] at hb
      rcases List.mem_cons.mp hb with rfl | hb
      · exact (Std.Total.total b b).elim id id
      · exact hleast b hb

theorem runBy_greedy (hn : names.Nodup) : Greedy le names deps (runBy le names deps).ordered := by
  have hiterate : ∀ n, ((stepBy le (dependents names deps))^[n] (startBy le names deps)).ready.Pairwise le ∧
      Greedy le names deps ((stepBy le (dependents names deps))^[n] (startBy le names deps)).ordered := by
    intro n
    induction n with
    | zero => exact ⟨List.pairwise_insertionSort le _, Greedy.nil⟩
    | succ n ih =>
      rw [Function.iterate_succ_apply']
      exact stepBy_greedy le (iterateBy_inv le hn n) ih.1 ih.2
  exact (hiterate names.length).2

omit [Std.Total le] [IsTrans α le] in
theorem runBy_complete_iff (hn : names.Nodup) (hclosed : ∀ a ∈ names, ∀ b ∈ deps a, b ∈ names) :
    (runBy le names deps).ordered.length = names.length ↔ Acyclic names deps :=
  (runBy_inv le hn).complete_iff (runBy_ready le hn) hn hclosed

end Priority

end Kahn
