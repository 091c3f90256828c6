/-
AgentPlatform/WorkflowDefinition/Order.lean

The order in which the tasks of a workflow are listed (`_stable_order`).

Each round of the loop takes the tasks without open dependencies, which are those of one
height: taking them away lowers the height of every other task by one
(`rounds_layered`). **Main result:** `stableOrder_layered`. The order exists exactly for
acyclic tasks, and is then sorted by the length of the longest chain below a task and by
its identifier.
-/
import AgentPlatform.Order.Layers
import AgentPlatform.Py.Transaction
import AgentPlatform.WorkflowDefinition.Content

namespace AgentPlatform

open Py Kahn Layers

namespace WorkflowDefinition

/-! ### One round -/

/-- Tasks with their open dependencies, as the loop has them. -/
structure Open (left : List (String × List String)) : Prop where
  nodup : (left.map Prod.fst).Nodup
  closed : ∀ d ∈ left, ∀ b ∈ d.2, b ∈ left.map Prod.fst

/-- The tasks taken in a round. -/
def readyOf (left : List (String × List String)) : List String :=
  sortedBy id ((left.filter fun d => d.2 = []).map Prod.fst)

/-- What a round leaves. -/
def leftAfter (left : List (String × List String)) : List (String × List String) :=
  (left.filter fun d => d.1 ∉ readyOf left).map fun d => (d.1, d.2.filter (· ∉ readyOf left))

/-- Each task is above its open dependencies, and one above some of them unless it has none. -/
def Leveled (left : List (String × List String)) (height : String → Nat) : Prop :=
  ∀ d ∈ left, (∀ b ∈ d.2, height b < height d.1) ∧ (height d.1 ≠ 0 → ∃ b ∈ d.2, height d.1 = height b + 1)

variable {left : List (String × List String)} {order : List String} {height : String → Nat}

theorem rounds_of_ne_nil (n : Nat) (hne : left ≠ []) : rounds (n + 1) left =
    if readyOf left = [] then .error (.reason "WORKFLOW_CYCLE_DETECTED")
    else (rounds n (leftAfter left)).map (readyOf left ++ ·) := by
  rw [rounds.eq_3 _ _ hne, leftAfter, readyOf]
  split
  · next h => rw [if_pos h]
  · next h => rw [if_neg h]

theorem mem_readyOf {a : String} : a ∈ readyOf left ↔ (a, []) ∈ left := by
  simp only [readyOf, mem_sortedBy, List.mem_map, List.mem_filter, decide_eq_true_eq]
  constructor
  · rintro ⟨d, ⟨hd, hnil⟩, rfl⟩
    rwa [← hnil]
  · intro h
    exact ⟨_, ⟨h, rfl⟩, rfl⟩

theorem map_leftAfter : (leftAfter left).map Prod.fst = (left.map Prod.fst).filter (· ∉ readyOf left) := by
  rw [leftAfter, List.map_map, List.filter_map]
  rfl

theorem Open.after (h : Open left) : Open (leftAfter left) := by
  constructor
  · rw [map_leftAfter]
    exact h.nodup.filter _
  · intro d hd b hb
    obtain ⟨e, he, rfl⟩ := List.mem_map.mp hd
    obtain ⟨hb, hready⟩ := List.mem_filter.mp hb
    rw [map_leftAfter]
    exact List.mem_filter.mpr ⟨h.closed e (List.mem_of_mem_filter he) b hb, hready⟩

theorem Open.unique (h : Open left) {a : String} {ds es : List String} (hd : (a, ds) ∈ left)
    (he : (a, es) ∈ left) : ds = es := by
  have heq := List.inj_on_of_nodup_map h.nodup hd he rfl
  cases heq
  rfl

theorem length_leftAfter (hready : readyOf left ≠ []) : (leftAfter left).length < left.length := by
  obtain ⟨a, ha⟩ := List.exists_mem_of_ne_nil _ hready
  rw [leftAfter, List.length_map]
  apply List.length_filter_lt_length_iff_exists.mpr
  exact ⟨(a, []), mem_readyOf.mp ha, by simpa using ha⟩

/-- The heights before a round from those after it. -/
theorem Leveled.before (hopen : Open left) (h : Leveled (leftAfter left) height) :
    Leveled left fun a => if a ∈ readyOf left then 0 else height a + 1 := by
  rintro ⟨a, ds⟩ hd
  by_cases ha : a ∈ readyOf left
  · -- a ready task has no dependencies
    obtain rfl := hopen.unique hd (mem_readyOf.mp ha)
    simp [ha]
  · have hafter : (a, ds.filter (· ∉ readyOf left)) ∈ leftAfter left :=
      List.mem_map.mpr ⟨(a, ds), List.mem_filter.mpr ⟨hd, by simpa using ha⟩, rfl⟩
    obtain ⟨hbelow, hstep⟩ := h _ hafter
    have hbelow' : ∀ b ∈ ds, b ∉ readyOf left → height b < height a := fun b hb hready =>
      hbelow b (List.mem_filter.mpr ⟨hb, by simpa using hready⟩)
    simp only [if_neg ha]
    constructor
    · intro b hb
      split
      · omega
      · next hready => exact Nat.succ_lt_succ (hbelow' b hb hready)
    · intro _
      by_cases hzero : height a = 0
      · -- all dependencies are ready, and there are some
        have hne : ds ≠ [] := by
          rintro rfl
          exact ha (mem_readyOf.mpr hd)
        obtain ⟨b, hb⟩ := List.exists_mem_of_ne_nil _ hne
        have hready : b ∈ readyOf left := by
          by_contra hready
          have hlt := hbelow' b hb hready
          omega
        exact ⟨b, hb, by rw [if_pos hready, hzero]⟩
      · obtain ⟨b, hb, heq⟩ := hstep hzero
        obtain ⟨hb, hready⟩ := List.mem_filter.mp hb
        exact ⟨b, hb, by rw [if_neg (of_decide_eq_true hready), heq]⟩

/-- Where there are heights some task is ready. -/
theorem readyOf_ne_nil (hopen : Open left) (h : ∀ d ∈ left, ∀ b ∈ d.2, height b < height d.1)
    (hne : left ≠ []) : readyOf left ≠ [] := by
  intro hnil
  have hdeps : ∀ d ∈ left, d.2 ≠ [] := by
    rintro ⟨a, ds⟩ hd (rfl : ds = [])
    have ha := mem_readyOf.mpr hd
    rw [hnil] at ha
    cases ha
  -- every task would be arbitrarily high
  have hhigh : ∀ n, ∀ d ∈ left, n ≤ height d.1 := by
    intro n
    induction n with
    | zero => exact fun d _ => Nat.zero_le _
    | succ n ih =>
      intro d hd
      obtain ⟨b, hb⟩ := List.exists_mem_of_ne_nil _ (hdeps d hd)
      obtain ⟨e, he, hname⟩ := List.mem_map.mp (hopen.closed d hd b hb)
      have hn := ih e he
      rw [hname] at hn
      exact Nat.lt_of_le_of_lt hn (h d hd b hb)
  obtain ⟨d, hd⟩ := List.exists_mem_of_ne_nil _ hne
  exact absurd (hhigh (height d.1 + 1) d hd) (by omega)

/-! ### All rounds -/

/-- Sorted by height and then by identifier, without repetition. -/
def Layered (height : String → Nat) (order : List String) : Prop :=
  order.Pairwise fun a b => toLex (height a, a) < toLex (height b, b)

/-- **What the rounds return.** -/
theorem rounds_layered (n : Nat) (hopen : Open left) (h : rounds n left = .ok order) :
    order.Perm (left.map Prod.fst) ∧ ∃ height, Leveled left height ∧ Layered height order := by
  induction n generalizing left order with
  | zero =>
    cases left with
    | nil =>
      cases h
      exact ⟨.nil, fun _ => 0, nofun, .nil⟩
    | cons d left => cases h
  | succ n ih =>
    by_cases hne : left = []
    · subst hne
      cases h
      exact ⟨.nil, fun _ => 0, nofun, .nil⟩
    · rw [rounds_of_ne_nil n hne] at h
      split at h
      · cases h
      · obtain ⟨rest, hrest, rfl⟩ := map_eq_ok.mp h
        obtain ⟨hperm, height, hlevel, hlayered⟩ := ih hopen.after hrest
        rw [map_leftAfter] at hperm
        have hreadyNodup : (readyOf left).Nodup :=
          ((perm_sortedBy id _).nodup_iff).mpr (hopen.nodup.sublist (List.filter_sublist.map _))
        have hrestNodup : rest.Nodup := hperm.nodup_iff.mpr (hopen.nodup.filter _)
        have hrestMem : ∀ a, a ∈ rest ↔ a ∈ left.map Prod.fst ∧ a ∉ readyOf left := fun a => by
          rw [hperm.mem_iff, List.mem_filter, decide_eq_true_eq]
        have hnodup : (readyOf left ++ rest).Nodup :=
          List.nodup_append'.mpr ⟨hreadyNodup, hrestNodup, fun a ha hr => ((hrestMem a).mp hr).2 ha⟩
        refine ⟨?_, _, hlevel.before hopen, ?_⟩
        · apply (List.perm_ext_iff_of_nodup hnodup hopen.nodup).mpr
          intro a
          rw [List.mem_append, hrestMem]
          constructor
          · rintro (ha | ha)
            · exact List.mem_map.mpr ⟨_, mem_readyOf.mp ha, rfl⟩
            · exact ha.1
          · intro ha
            by_cases hready : a ∈ readyOf left
            · exact .inl hready
            · exact .inr ⟨ha, hready⟩
        · apply List.pairwise_append.mpr
          refine ⟨?_, ?_, ?_⟩
          · -- the tasks of a round are sorted by their identifiers
            have hsorted : (readyOf left).Pairwise fun a b => a ≤ b := pairwise_sortedBy id _
            refine (hsorted.and hreadyNodup).imp_of_mem fun {a b} ha hb hab => ?_
            dsimp only
            rw [if_pos ha, if_pos hb]
            exact Prod.Lex.toLex_lt_toLex.mpr (.inr ⟨rfl, lt_of_le_of_ne hab.1 hab.2⟩)
          · refine hlayered.imp_of_mem fun {a b} ha hb hab => ?_
            dsimp only
            rw [if_neg ((hrestMem a).mp ha).2, if_neg ((hrestMem b).mp hb).2]
            rcases Prod.Lex.toLex_lt_toLex.mp hab with hlt | ⟨heq, hlt⟩
            · exact Prod.Lex.toLex_lt_toLex.mpr (.inl (Nat.succ_lt_succ hlt))
            · exact Prod.Lex.toLex_lt_toLex.mpr (.inr ⟨congrArg (· + 1) heq, hlt⟩)
          · intro a ha b hb
            dsimp only
            rw [if_pos ha, if_neg ((hrestMem b).mp hb).2]
            exact Prod.Lex.toLex_lt_toLex.mpr (.inl (Nat.succ_pos _))

theorem rounds_isOk (n : Nat) (hlength : left.length ≤ n) (hopen : Open left)
    (h : ∀ d ∈ left, ∀ b ∈ d.2, height b < height d.1) : ∃ order, rounds n left = .ok order := by
  induction n generalizing left with
  | zero =>
    rw [List.length_eq_zero_iff.mp (Nat.le_zero.mp hlength)]
    exact ⟨[], rfl⟩
  | succ n ih =>
    by_cases hne : left = []
    · subst hne
      exact ⟨[], rfl⟩
    · have hready := readyOf_ne_nil hopen h hne
      have hlt := length_leftAfter hready
      have hafter : ∀ d ∈ leftAfter left, ∀ b ∈ d.2, height b < height d.1 := by
        intro d hd b hb
        obtain ⟨e, he, rfl⟩ := List.mem_map.mp hd
        exact h e (List.mem_of_mem_filter he) b (List.mem_of_mem_filter hb)
      obtain ⟨rest, hrest⟩ := ih (by omega) hopen.after hafter
      exact ⟨_, by rw [rounds_of_ne_nil n hne, if_neg hready, hrest, Except.map]⟩

/-! ### The order of the tasks -/

section Tasks

variable {tasks tasks' : List WorkflowTask}

/-- The tasks with their dependencies, before the first round. -/
def opened (tasks : List WorkflowTask) : List (String × List String) :=
  tasks.map fun t => (t.taskId, t.dependsOn)

def depsOf (tasks : List WorkflowTask) (a : String) : List String :=
  ((tasks.find? (·.taskId = a)).map (·.dependsOn)).getD []

/-- Tasks that can be ordered. -/
structure Orderable (tasks : List WorkflowTask) : Prop where
  /-- Identifiers are unique. -/
  unique : (tasks.map (·.taskId)).Nodup
  /-- Every dependency is another task of the list. -/
  other : ∀ t ∈ tasks, ∀ d ∈ t.dependsOn, d ∈ tasks.map (·.taskId) ∧ d ≠ t.taskId
  /-- No task depends on itself through others. -/
  acyclic : Acyclic (tasks.map (·.taskId)) (depsOf tasks)

/-- The same tasks in another order, each with the same dependencies in another order. -/
def Rearranged (tasks tasks' : List WorkflowTask) : Prop :=
  ∃ l, l.Perm tasks ∧ List.Forall₂
    (fun t t' => t'.taskId = t.taskId ∧ ∀ d, d ∈ t'.dependsOn ↔ d ∈ t.dependsOn) l tasks'

theorem depsOf_eq (hunique : (tasks.map (·.taskId)).Nodup) {t : WorkflowTask} (ht : t ∈ tasks) :
    depsOf tasks t.taskId = t.dependsOn := by
  rcases h : tasks.find? (·.taskId = t.taskId) with - | u
  · have hnone := List.find?_eq_none.mp h t ht
    simp at hnone
  · have hid : u.taskId = t.taskId := by simpa using List.find?_some h
    rw [depsOf, h, List.inj_on_of_nodup_map hunique (List.mem_of_find?_eq_some h) ht hid]
    rfl

theorem map_opened : (opened tasks).map Prod.fst = tasks.map (·.taskId) := by
  rw [opened, List.map_map]
  rfl

theorem open_opened (hunique : (tasks.map (·.taskId)).Nodup)
    (hother : ∀ t ∈ tasks, ∀ d ∈ t.dependsOn, d ∈ tasks.map (·.taskId) ∧ d ≠ t.taskId) :
    Open (opened tasks) := by
  constructor
  · rwa [map_opened]
  · intro e he b hb
    obtain ⟨t, ht, rfl⟩ := List.mem_map.mp he
    rw [map_opened]
    exact (hother t ht b hb).1

theorem closed_depsOf (hunique : (tasks.map (·.taskId)).Nodup)
    (hother : ∀ t ∈ tasks, ∀ d ∈ t.dependsOn, d ∈ tasks.map (·.taskId) ∧ d ≠ t.taskId) :
    ∀ a ∈ tasks.map (·.taskId), ∀ b ∈ depsOf tasks a, b ∈ tasks.map (·.taskId) := by
  intro a ha b hb
  obtain ⟨t, ht, rfl⟩ := List.mem_map.mp ha
  rw [depsOf_eq hunique ht] at hb
  exact (hother t ht b hb).1

theorem leveled_opened (hunique : (tasks.map (·.taskId)).Nodup) {height : String → Nat} :
    Leveled (opened tasks) height ↔ Graded (tasks.map (·.taskId)) (depsOf tasks) height := by
  constructor
  · intro h
    constructor
    all_goals
      intro a ha
      obtain ⟨t, ht, rfl⟩ := List.mem_map.mp ha
      rw [depsOf_eq hunique ht]
    · exact (h _ (List.mem_map.mpr ⟨t, ht, rfl⟩)).1
    · exact (h _ (List.mem_map.mpr ⟨t, ht, rfl⟩)).2
  · rintro h e he
    obtain ⟨t, ht, rfl⟩ := List.mem_map.mp he
    have ha : t.taskId ∈ tasks.map (·.taskId) := List.mem_map.mpr ⟨t, ht, rfl⟩
    have hbelow := h.below _ ha
    have hstep := h.step _ ha
    rw [depsOf_eq hunique ht] at hbelow hstep
    exact ⟨hbelow, hstep⟩

/-- What is checked before the rounds. -/
theorem stableOrder_eq_ok : stableOrder tasks = .ok order ↔ (tasks.map (·.taskId)).Nodup ∧
    (∀ t ∈ tasks, ∀ d ∈ t.dependsOn, d ∈ tasks.map (·.taskId) ∧ d ≠ t.taskId) ∧
    rounds tasks.length (opened tasks) = .ok order := by
  have hdedup : (tasks.map (·.taskId)).length ≠ (tasks.map (·.taskId)).dedup.length ↔
      ¬ (tasks.map (·.taskId)).Nodup := by
    rw [not_iff_not]
    constructor
    · intro h
      rw [← (List.dedup_sublist _).eq_of_length h.symm]
      exact List.nodup_dedup _
    · intro h
      rw [List.dedup_eq_self.mpr h]
  have hinvalid : (tasks.any fun t => t.dependsOn.any (· ∉ tasks.map (·.taskId)) || t.taskId ∈ t.dependsOn)
      = true ↔ ¬ ∀ t ∈ tasks, ∀ d ∈ t.dependsOn, d ∈ tasks.map (·.taskId) ∧ d ≠ t.taskId := by
    simp only [List.any_eq_true, Bool.or_eq_true, decide_eq_true_eq, not_forall, not_and_or, not_not]
    constructor
    · rintro ⟨t, ht, ⟨d, hd, hnot⟩ | hself⟩
      · exact ⟨t, ht, d, hd, .inl hnot⟩
      · exact ⟨t, ht, _, hself, .inr rfl⟩
    · rintro ⟨t, ht, d, hd, hnot | rfl⟩
      · exact ⟨t, ht, .inl ⟨d, hd, hnot⟩⟩
      · exact ⟨t, ht, .inr hd⟩
  rw [stableOrder]
  simp only [hdedup, hinvalid]
  split
  · next h => simp [h]
  · next h =>
    split
    · next h' =>
      constructor
      · intro hok
        cases hok
      · exact fun hok => absurd hok.2.1 h'
    · next h' =>
      constructor
      · exact fun hok => ⟨not_not.mp h, not_not.mp h', hok⟩
      · exact fun hok => hok.2.2

theorem layered_of_ok (h : stableOrder tasks = .ok order) :
    Orderable tasks ∧ order.Perm (tasks.map (·.taskId)) ∧ ∃ height,
      Graded (tasks.map (·.taskId)) (depsOf tasks) height ∧ Layered height order := by
  obtain ⟨hunique, hother, hrounds⟩ := stableOrder_eq_ok.mp h
  obtain ⟨hperm, height, hlevel, hlayered⟩ := rounds_layered _ (open_opened hunique hother) hrounds
  have hgraded := (leveled_opened hunique).mp hlevel
  rw [map_opened] at hperm
  refine ⟨⟨hunique, hother, ?_⟩, hperm, height, hgraded, hlayered⟩
  exact (exists_graded_iff (closed_depsOf hunique hother)).mp ⟨height, hgraded⟩

theorem Orderable.exists_order (h : Orderable tasks) : ∃ order, stableOrder tasks = .ok order := by
  obtain ⟨height, hgraded⟩ := (exists_graded_iff (closed_depsOf h.unique h.other)).mpr h.acyclic
  have hlevel := (leveled_opened h.unique).mpr hgraded
  obtain ⟨order, horder⟩ := rounds_isOk tasks.length (by rw [opened, List.length_map])
    (open_opened h.unique h.other) fun d hd => (hlevel d hd).1
  exact ⟨order, stableOrder_eq_ok.mpr ⟨h.unique, h.other, horder⟩⟩

theorem Layered.sorted (h : Layered height order) {l : List String} (hperm : order.Perm l) :
    order = sortedBy (fun a => toLex (height a, a)) l := by
  refine eq_of_sorted (h.imp fun hab => hab.le) (pairwise_sortedBy _ _)
    (hperm.trans (perm_sortedBy _ _).symm) fun a _ b _ hab => ?_
  exact congrArg Prod.snd (toLex_inj.mp hab)

theorem Layered.ordered (h : Layered height order) {deps : String → List String}
    (hbelow : ∀ a ∈ order, ∀ b ∈ deps a, b ∈ order ∧ height b < height a) : Ordered deps order := by
  rintro l₁ a l₂ rfl b hb
  have ha : a ∈ l₁ ++ a :: l₂ := List.mem_append_right _ List.mem_cons_self
  obtain ⟨hmem, hlt⟩ := hbelow a ha b hb
  rcases List.mem_append.mp hmem with hmem | hmem
  · exact hmem
  · exfalso
    rcases List.mem_cons.mp hmem with rfl | hmem
    · exact Nat.lt_irrefl _ hlt
    · have hab := (List.pairwise_cons.mp (List.pairwise_append.mp h).2.1).1 b hmem
      rcases Prod.Lex.toLex_lt_toLex.mp hab with hab | ⟨heq, -⟩
      · exact Nat.lt_asymm hab hlt
      · exact hlt.ne heq.symm

theorem Rearranged.perm (h : Rearranged tasks tasks') :
    (tasks'.map (·.taskId)).Perm (tasks.map (·.taskId)) := by
  obtain ⟨l, hperm, hsame⟩ := h
  have heq : tasks'.map (·.taskId) = l.map (·.taskId) := by
    clear hperm
    induction hsame with
    | nil => rfl
    | cons h _ ih => rw [List.map_cons, List.map_cons, h.1, ih]
  rw [heq]
  exact hperm.map _

/-- Each task has a counterpart. -/
theorem Rearranged.find (h : Rearranged tasks tasks') {t' : WorkflowTask} (ht' : t' ∈ tasks') :
    ∃ t ∈ tasks, t'.taskId = t.taskId ∧ ∀ d, d ∈ t'.dependsOn ↔ d ∈ t.dependsOn := by
  obtain ⟨l, hperm, hsame⟩ := h
  have hfind : ∃ t ∈ l, t'.taskId = t.taskId ∧ ∀ d, d ∈ t'.dependsOn ↔ d ∈ t.dependsOn := by
    clear hperm
    induction hsame with
    | nil => cases ht'
    | cons h _ ih =>
      rcases List.mem_cons.mp ht' with rfl | ht'
      · exact ⟨_, List.mem_cons_self, h⟩
      · obtain ⟨t, ht, hsame⟩ := ih ht'
        exact ⟨t, List.mem_cons_of_mem _ ht, hsame⟩
  obtain ⟨t, ht, hsame⟩ := hfind
  exact ⟨t, hperm.mem_iff.mp ht, hsame⟩

theorem Rearranged.mem_depsOf (h : Rearranged tasks tasks') (hunique : (tasks.map (·.taskId)).Nodup)
    {a : String} (ha : a ∈ tasks.map (·.taskId)) (b : String) :
    b ∈ depsOf tasks' a ↔ b ∈ depsOf tasks a := by
  obtain ⟨t', ht', rfl⟩ := List.mem_map.mp (h.perm.mem_iff.mpr ha)
  obtain ⟨t, ht, hid, hdeps⟩ := h.find ht'
  rw [depsOf_eq (h.perm.nodup_iff.mpr hunique) ht', hid, depsOf_eq hunique ht]
  exact hdeps b

/-- **Neither the order of the tasks nor that of the dependencies matters.** -/
theorem Rearranged.stableOrder (h : Rearranged tasks tasks') (hok : stableOrder tasks = .ok order) :
    WorkflowDefinition.stableOrder tasks' = .ok order := by
  obtain ⟨horderable, hperm, height, hgraded, hlayered⟩ := layered_of_ok hok
  have hunique := horderable.unique
  have hother' : ∀ t ∈ tasks', ∀ d ∈ t.dependsOn, d ∈ tasks'.map (·.taskId) ∧ d ≠ t.taskId := by
    intro t' ht' d hd
    obtain ⟨t, ht, hid, hdeps⟩ := h.find ht'
    obtain ⟨hmem, hne⟩ := horderable.other t ht d ((hdeps d).mp hd)
    exact ⟨h.perm.mem_iff.mpr hmem, by rwa [hid]⟩
  -- the heights are the same
  have hgraded' : Graded (tasks'.map (·.taskId)) (depsOf tasks') height := by
    constructor
    · intro a ha b hb
      have ha := h.perm.mem_iff.mp ha
      exact hgraded.below a ha b ((h.mem_depsOf hunique ha b).mp hb)
    · intro a ha hne
      have ha := h.perm.mem_iff.mp ha
      obtain ⟨b, hb, heq⟩ := hgraded.step a ha hne
      exact ⟨b, (h.mem_depsOf hunique ha b).mpr hb, heq⟩
  have hunique' := h.perm.nodup_iff.mpr hunique
  have hclosed' := closed_depsOf hunique' hother'
  have hacyclic' := (exists_graded_iff hclosed').mp ⟨height, hgraded'⟩
  obtain ⟨order', hok'⟩ := Orderable.exists_order ⟨hunique', hother', hacyclic'⟩
  obtain ⟨-, hperm', height', hgraded'', hlayered'⟩ := layered_of_ok hok'
  have hsame : ∀ a ∈ order', height' a = height a := fun a ha =>
    have hmem := hperm'.mem_iff.mp ha
    (hgraded''.isHeight hclosed' hmem).unique (hgraded'.isHeight hclosed' hmem)
  have hlayered'' : Layered height order' :=
    hlayered'.imp_of_mem fun {a b} ha hb hab => by rwa [hsame a ha, hsame b hb] at hab
  rw [hok', hlayered''.sorted ((hperm'.trans h.perm).trans hperm.symm),
    ← hlayered.sorted (List.Perm.refl order)]

/-- **The stable order is the layered topological order.** The loop ends, with an order
exactly for tasks that can be ordered; this is then sorted by the length of the longest
chain of dependencies below a task and by its identifier, lists every task after what it
depends on, and is the same for every arrangement of the tasks. -/
theorem stableOrder_layered (tasks : List WorkflowTask) :
    (∀ n, tasks.length ≤ n → rounds n (opened tasks) = rounds tasks.length (opened tasks)) ∧
    ((∃ order, stableOrder tasks = .ok order) ↔ Orderable tasks) ∧
    ∀ order, stableOrder tasks = .ok order →
      (∃ height : String → Nat,
        (∀ a ∈ tasks.map (·.taskId), IsHeight (depsOf tasks) a (height a)) ∧
        order = sortedBy (fun a => toLex (height a, a)) (tasks.map (·.taskId))) ∧
      Ordered (depsOf tasks) order ∧
      ∀ tasks', Rearranged tasks tasks' → stableOrder tasks' = .ok order := by
  refine ⟨?_, ⟨fun ⟨_, h⟩ => (layered_of_ok h).1, Orderable.exists_order⟩, ?_⟩
  · intro n hn
    induction n, hn using Nat.le_induction with
    | base => rfl
    | succ n hn ih => rw [rounds_succ n _ (by rwa [opened, List.length_map]), ih]
  · intro order h
    obtain ⟨horderable, hperm, height, hgraded, hlayered⟩ := layered_of_ok h
    have hclosed := closed_depsOf horderable.unique horderable.other
    refine ⟨⟨height, fun a ha => hgraded.isHeight hclosed ha, hlayered.sorted hperm⟩, ?_, ?_⟩
    · apply hlayered.ordered
      intro a ha b hb
      have ha := hperm.mem_iff.mp ha
      exact ⟨hperm.mem_iff.mpr (hclosed a ha b hb), hgraded.below a ha b hb⟩
    · exact fun tasks' hr => hr.stableOrder h

end Tasks

end WorkflowDefinition
end AgentPlatform
