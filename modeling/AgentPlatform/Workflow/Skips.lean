/-
AgentPlatform/Workflow/Skips.lean

What `find_skipped_tasks` returns: the tasks without a phase from which an
unsuccessful task is reached along dependencies without a phase (`Blocked`), each
once, in dependency order. **Main result:** `skips_exact`.

The functions take the phases as texts, as they are read from the cluster; a text that
is none of the known ones is like that of a running task (`NodePhase.ofText`), so the
facts about `findSkippedTasks` carry over (`skippedTasks_eq`).
-/
import AgentPlatform.Order.Acyclic
import AgentPlatform.Workflow.Graph

namespace AgentPlatform

open Py Relation

/-! ### Phases as texts -/

def terminalUnsuccessfulPhases : List String := ["Failed", "TimedOut", "Skipped"]

/-- A map from task names to the texts of their phases. -/
abbrev PhaseTexts := String → Option String

/-- `phases.get(name) in TERMINAL_UNSUCCESSFUL_PHASES`. -/
def PhaseTexts.unsuccessful (phases : PhaseTexts) (name : String) : Bool :=
  (phases name).any (· ∈ terminalUnsuccessfulPhases)

/-- One step of the loop of `find_skipped_tasks`. -/
def skipTask (graph : WorkflowGraph) (s : PhaseTexts × List String) (name : String) :
    PhaseTexts × List String :=
  if (s.1 name).isSome then s
  else if (graph.dependencies name).any s.1.unsuccessful then
    (Function.update s.1 name (some "Skipped"), s.2 ++ [name])
  else s

/-- `find_skipped_tasks(graph, task_phases)`. -/
def WorkflowGraph.skippedTasks (graph : WorkflowGraph) (phases : PhaseTexts) :
    Except WorkflowValidationError (List String) := do
  let order ← graph.topologicalOrder
  .ok (order.foldl (skipTask graph) (phases, [])).2

/-- `find_ready_tasks(graph, task_phases)`. -/
def WorkflowGraph.readyTasks (graph : WorkflowGraph) (phases : PhaseTexts) : List String :=
  graph.taskNames.filter fun name =>
    (phases name).isNone && (graph.dependencies name).all fun d => phases d = some "Succeeded"

/-- What a text is to these functions. -/
def NodePhase.ofText (text : String) : NodePhase :=
  if text ∈ terminalUnsuccessfulPhases then .skipped
  else if text = "Succeeded" then .task .succeeded
  else .task .running

def PhaseTexts.phases (texts : PhaseTexts) : Phases := fun name => (texts name).map NodePhase.ofText

theorem unsuccessful_ofText (text : String) :
    AgentPlatform.unsuccessful (some (.ofText text)) = decide (text ∈ terminalUnsuccessfulPhases) := by
  by_cases h : text ∈ terminalUnsuccessfulPhases
  · rw [NodePhase.ofText, if_pos h, decide_eq_true h]
    rfl
  · rw [NodePhase.ofText, if_neg h, decide_eq_false h]
    split <;> rfl

theorem unsuccessful_phases (texts : PhaseTexts) (name : String) :
    AgentPlatform.unsuccessful (texts.phases name) = texts.unsuccessful name := by
  rw [PhaseTexts.phases, PhaseTexts.unsuccessful]
  cases texts name with
  | none => rfl
  | some text => exact unsuccessful_ofText text

section Texts

variable {graph : WorkflowGraph}

/-- The loop does the same on texts. -/
theorem skipTask_phases (s : PhaseTexts × List String) (name : String) :
    ((skipTask graph s name).1.phases, (skipTask graph s name).2)
      = skipStep graph (s.1.phases, s.2) name := by
  have hsome : (s.1.phases name).isSome = (s.1 name).isSome := Option.isSome_map
  have hany : ((graph.dependencies name).any fun d => AgentPlatform.unsuccessful (s.1.phases d))
      = (graph.dependencies name).any s.1.unsuccessful := by
    congr 1
    funext d
    exact unsuccessful_phases s.1 d
  rw [skipTask, skipStep]
  simp only [hsome, hany]
  split
  · rfl
  · split
    · have hupdate : PhaseTexts.phases (Function.update s.1 name (some "Skipped"))
          = Function.update s.1.phases name (some .skipped) := by
        funext d
        by_cases hd : d = name
        · subst hd
          simp [PhaseTexts.phases, NodePhase.ofText, terminalUnsuccessfulPhases]
        · simp [PhaseTexts.phases, hd]
      rw [hupdate]
    · rfl

theorem foldl_skipTask (order : List String) (s : PhaseTexts × List String) :
    ((order.foldl (skipTask graph) s).1.phases, (order.foldl (skipTask graph) s).2)
      = order.foldl (skipStep graph) (s.1.phases, s.2) := by
  induction order generalizing s with
  | nil => rfl
  | cons name order ih =>
    rw [List.foldl_cons, List.foldl_cons, ih, skipTask_phases]

theorem skippedTasks_eq (phases : PhaseTexts) :
    graph.skippedTasks phases = findSkippedTasks graph phases.phases := by
  rw [WorkflowGraph.skippedTasks, findSkippedTasks]
  congr 1
  funext order
  have hfold : ((order.foldl (skipTask graph) (phases, [])).1.phases, (order.foldl (skipTask graph) (phases, [])).2)
      = order.foldl (skipStep graph) (phases.phases, []) := foldl_skipTask order (phases, [])
  rw [← hfold]

end Texts

/-! ### The closure -/

section Closure

variable {graph : WorkflowGraph} {phases : Phases} {order : List String}

/-- An unsuccessful task is reached along dependencies without a phase. -/
def Blocked (graph : WorkflowGraph) (phases : Phases) (name : String) : Prop :=
  ∃ last, ReflTransGen (fun a b => b ∈ graph.dependencies a ∧ phases b = none) name last ∧
    ∃ d ∈ graph.dependencies last, unsuccessful (phases d) = true

/-- The tasks that one pass over `order` skips. -/
def skips (graph : WorkflowGraph) (phases : Phases) (order : List String) : List String :=
  (order.foldl (skipStep graph) (phases, [])).2

/-- What is skipped stays skipped as the walk goes on. -/
theorem skips_concat (graph : WorkflowGraph) (phases : Phases) (order : List String) (a : String) :
    skips graph phases (order ++ [a]) = skips graph phases order ∨
      (skips graph phases (order ++ [a]) = skips graph phases order ++ [a] ∧
        ∃ d ∈ graph.dependencies a, unsuccessful ((order.foldl (skipStep graph) (phases, [])).1 d) = true) := by
  rw [skips, skips, List.foldl_append, List.foldl_cons, List.foldl_nil]
  obtain ⟨-, e⟩ | ⟨-, hdep, e⟩ | ⟨-, -, e⟩ := skipStep_cases graph (order.foldl (skipStep graph) (phases, [])) a
  · exact .inl (by rw [e])
  · exact .inr ⟨by rw [e], hdep⟩
  · exact .inl (by rw [e])

theorem skips_sublist (order : List String) : (skips graph phases order).Sublist order := by
  induction order using List.reverseRecOn with
  | nil => exact List.Sublist.refl _
  | append_singleton order a ih =>
    rcases skips_concat graph phases order a with h | ⟨h, -⟩
    · rw [h]
      exact ih.trans (List.sublist_append_left _ _)
    · rw [h]
      exact ih.append_right [a]

/-- **Each skip has a cause**: a dependency that is unsuccessful or skipped. -/
theorem skips_cause {n : String} (h : n ∈ skips graph phases order) :
    ∃ d ∈ graph.dependencies n, unsuccessful (phases d) = true ∨ d ∈ skips graph phases order := by
  induction order using List.reverseRecOn with
  | nil => cases h
  | append_singleton order a ih =>
    rcases skips_concat graph phases order a with e | ⟨e, d, hd, hu⟩
    · rw [e] at h ⊢
      exact ih h
    · rw [e] at h ⊢
      rcases List.mem_append.mp h with h | h
      · obtain ⟨d, hd, hcause⟩ := ih h
        exact ⟨d, hd, hcause.imp_right fun hm => List.mem_append_left _ hm⟩
      · rw [List.mem_singleton.mp h]
        exact ⟨d, hd, (unsuccessful_effective hu).imp_right fun hm => List.mem_append_left _ hm⟩

/-- The phases with the skipped tasks added. -/
def afterSkips (phases : Phases) (skipped : List String) : Phases :=
  fun n => if n ∈ skipped then some .skipped else phases n

theorem foldl_skipStep_phases (order : List String) :
    (order.foldl (skipStep graph) (phases, [])).1 = afterSkips phases (skips graph phases order) := by
  funext n
  exact skip_phases order n

section Ordered

variable (ho : Kahn.Ordered graph.dependencies order) (hn : order.Nodup)
include ho

theorem blocked_of_skips : ∀ n ∈ order, n ∈ skips graph phases order → Blocked graph phases n := by
  refine ho.induction (P := fun n => n ∈ skips graph phases order → Blocked graph phases n) ?_
  intro n _ ih hskipped
  obtain ⟨d, hd, hu | hs⟩ := skips_cause hskipped
  · exact ⟨n, .refl, d, hd, hu⟩
  · obtain ⟨last, hpath, hlast⟩ := ih d hd hs
    exact ⟨last, .head ⟨hd, (skip_absent hs).2⟩ hpath, hlast⟩

include hn

/-- A task that is left without a phase has no unsuccessful dependency. -/
theorem left_of_notMem {n : String} (hm : n ∈ order) (hp : phases n = none) (hs : n ∉ skips graph phases order) :
    ∀ d ∈ graph.dependencies n, unsuccessful (afterSkips phases (skips graph phases order) d) = false := by
  have h := skip_complete ho hn hm hp hs
  rwa [foldl_skipStep_phases] at h

/-- **One pass finds all**: what is blocked is skipped. -/
theorem skips_of_blocked (hclosed : ∀ a ∈ order, ∀ b ∈ graph.dependencies a, b ∈ order) {n : String}
    (hm : n ∈ order) (hp : phases n = none) (hb : Blocked graph phases n) : n ∈ skips graph phases order := by
  obtain ⟨last, hpath, d, hd, hu⟩ := hb
  induction hpath using ReflTransGen.head_induction_on with
  | refl =>
    by_contra hs
    have hleft := left_of_notMem ho hn hm hp hs d hd
    rw [afterSkips] at hleft
    split at hleft
    · cases hleft
    · rw [hu] at hleft
      cases hleft
  | @head a c hstep _ ih =>
    have hc : c ∈ skips graph phases order := ih (hclosed a hm c hstep.1) hstep.2
    by_contra hs
    have hleft := left_of_notMem ho hn hm hp hs c hstep.1
    rw [afterSkips, if_pos hc] at hleft
    cases hleft

/-- After the skips nothing is left to skip. -/
theorem skips_afterSkips : skips graph (afterSkips phases (skips graph phases order)) order = [] := by
  have hnone : ∀ n ∈ order, n ∉ skips graph (afterSkips phases (skips graph phases order)) order := by
    refine ho.induction (P := fun n => n ∉ skips graph (afterSkips phases (skips graph phases order)) order) ?_
    intro n hm ih hs
    obtain ⟨-, habsent⟩ := skip_absent hs
    rw [afterSkips] at habsent
    split at habsent
    · cases habsent
    · next hnew =>
      obtain ⟨d, hd, hu | hd'⟩ := skips_cause hs
      · rw [left_of_notMem ho hn hm habsent hnew d hd] at hu
        cases hu
      · exact ih d hd hd'
  apply List.eq_nil_iff_forall_not_mem.mpr
  intro n hs
  exact hnone n ((skips_sublist order).subset hs) hs

end Ordered

end Closure

/-! ### The result -/

/-- A task recorded as unsuccessful is reached along dependencies without a phase. -/
def WorkflowGraph.BlockedBy (graph : WorkflowGraph) (phases : PhaseTexts) (name : String) : Prop :=
  ∃ last, ReflTransGen (fun a b => b ∈ graph.dependencies a ∧ phases b = none) name last ∧
    ∃ d ∈ graph.dependencies last, ∃ text ∈ terminalUnsuccessfulPhases, phases d = some text

theorem blockedBy_iff {graph : WorkflowGraph} {phases : PhaseTexts} {name : String} :
    Blocked graph phases.phases name ↔ graph.BlockedBy phases name := by
  have habsent : ∀ b, phases.phases b = none ↔ phases b = none := fun b => Option.map_eq_none_iff
  have hunsuccessful : ∀ d, unsuccessful (phases.phases d) = true ↔
      ∃ text ∈ terminalUnsuccessfulPhases, phases d = some text := by
    intro d
    rw [unsuccessful_phases, PhaseTexts.unsuccessful, Option.any_eq_true]
    simp only [decide_eq_true_eq]
    exact exists_congr fun text => and_comm
  simp only [Blocked, WorkflowGraph.BlockedBy, habsent, hunsuccessful]

/-- **The skips of an accepted graph** are exactly the blocked tasks without a phase, each
once and in dependency order; with them added nothing is left to skip, and none of them
is ready. -/
theorem skips_exact {tasks : List TaskSpec} {graph : WorkflowGraph} (h : buildWorkflowGraph tasks = .ok graph)
    (phases : PhaseTexts) : ∃ order skipped, graph.topologicalOrder = .ok order ∧
      graph.skippedTasks phases = .ok skipped ∧ skipped.Nodup ∧ skipped.Sublist order ∧
      (skipped.Pairwise fun a b => b ∉ graph.dependencies a) ∧
      (∀ n, n ∈ skipped ↔ n ∈ graph.taskNames ∧ phases n = none ∧ graph.BlockedBy phases n) ∧
      graph.skippedTasks (fun n => if n ∈ skipped then some "Skipped" else phases n) = .ok [] ∧
      ∀ n ∈ skipped, n ∉ graph.readyTasks fun n => if n ∈ skipped then some "Skipped" else phases n := by
  have hg := buildWorkflowGraph_ok h
  obtain ⟨order, horder⟩ := hg.acyclic
  obtain ⟨hperm, ho⟩ := hg.order horder
  have hn : order.Nodup := hperm.nodup_iff.mpr hg.nodup
  have hclosed : ∀ a ∈ order, ∀ b ∈ graph.dependencies a, b ∈ order := by
    intro a _ b hb
    obtain ⟨t, ht, rfl, hd⟩ := hg.edges a b hb
    exact hperm.mem_iff.mpr (hg.known t ht b hd).2
  have hskipped : ∀ phases : PhaseTexts, graph.skippedTasks phases = .ok (skips graph phases.phases order) := by
    intro phases
    rw [skippedTasks_eq, findSkippedTasks, horder]
    rfl
  have hafter : PhaseTexts.phases (fun n => if n ∈ skips graph phases.phases order then some "Skipped" else phases n)
      = afterSkips phases.phases (skips graph phases.phases order) := by
    funext n
    rw [PhaseTexts.phases, afterSkips]
    split
    · simp [NodePhase.ofText, terminalUnsuccessfulPhases]
    · rfl
  have hsub : (skips graph phases.phases order).Sublist order := skips_sublist order
  refine ⟨order, skips graph phases.phases order, horder, hskipped phases, hn.sublist hsub, hsub,
    (ho.pairwise_notMem hn).sublist hsub, fun n => ⟨fun hs => ?_, fun ⟨hm, hp, hb⟩ => ?_⟩, ?_, fun n hs => ?_⟩
  · obtain ⟨hm, hp⟩ := skip_absent hs
    exact ⟨hperm.mem_iff.mp hm, Option.map_eq_none_iff.mp hp, blockedBy_iff.mp (blocked_of_skips ho n hm hs)⟩
  · exact skips_of_blocked ho hn hclosed (hperm.mem_iff.mpr hm) (Option.map_eq_none_iff.mpr hp)
      (blockedBy_iff.mpr hb)
  · rw [hskipped, hafter, skips_afterSkips ho hn]
  · intro hready
    have habsent := (List.mem_filter.mp hready).2
    simp only [if_pos hs, Option.isNone_some, Bool.false_and] at habsent
    cases habsent

/-- Two tasks, the second after the first. -/
def chainOfTwo : List TaskSpec :=
  [⟨"fetch", "agent", "Fetch.", [], [], none⟩, ⟨"report", "agent", "Report.", ["fetch"], ["fetch"], none⟩]

/-- The first task has failed, so the second is skipped. -/
theorem skips_exact_of_failed : ∃ graph skipped, buildWorkflowGraph chainOfTwo = .ok graph ∧
    graph.skippedTasks (fun n => if n = "fetch" then some "Failed" else none) = .ok skipped ∧ "report" ∈ skipped := by
  obtain ⟨order, skipped, -, hskipped, -, -, -, hexact, -⟩ :=
    skips_exact (show buildWorkflowGraph chainOfTwo = .ok _ from rfl)
      fun n => if n = "fetch" then some "Failed" else none
  refine ⟨_, skipped, rfl, hskipped, (hexact "report").mpr ⟨?_, rfl, "report", .refl, "fetch", ?_, "Failed", ?_, rfl⟩⟩
  · decide
  · decide
  · decide

end AgentPlatform
