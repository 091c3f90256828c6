/-
AgentPlatform/Workflow/Validation.lean

Which task lists `build_workflow_graph` accepts: those that describe a graph without
cycles (`ValidWorkflow`). **Main result:** `validation_exact`. The three passes are
exact one by one (`collectNames_isOk`, `checkDependencies_iff`, `checkSources_iff`);
the last one, Kahn's algorithm, is exact by `Kahn.run_complete_iff`.
-/
import AgentPlatform.Order.Acyclic
import AgentPlatform.Workflow.Graph

namespace AgentPlatform

open Py Relation

/-! ### Valid task lists -/

/-- The task `a` names `b` in its `dependsOn`. -/
def DependsOn (tasks : List TaskSpec) (a b : String) : Prop := ∃ t ∈ tasks, t.name = a ∧ b ∈ t.dependsOn

/-- What a task list must satisfy apart from cycles. -/
structure Checked (tasks : List TaskSpec) : Prop where
  nonempty : tasks ≠ []
  names : (tasks.map TaskSpec.name).Nodup
  dependencies : ∀ t ∈ tasks, t.dependsOn.Nodup ∧
    ∀ d ∈ t.dependsOn, d ≠ t.name ∧ ∃ u ∈ tasks, u.name = d
  sources : ∀ t ∈ tasks, t.sources.Nodup ∧ ∀ s ∈ t.sources, s ∈ t.dependsOn

/-- A task list that describes a Workflow. -/
structure ValidWorkflow (tasks : List TaskSpec) : Prop extends Checked tasks where
  acyclic : ∀ a, ¬ TransGen (DependsOn tasks) a a

/-- The graph that the passes lead to. -/
def graphOf (tasks : List TaskSpec) : WorkflowGraph := ⟨tasks.map TaskSpec.name, dependenciesOf tasks⟩

/-! ### The passes -/

theorem collectNames_isOk {tasks : List TaskSpec} {names : List String}
    (h : (names ++ tasks.map TaskSpec.name).Nodup) :
    collectNames tasks names = .ok (names ++ tasks.map TaskSpec.name) := by
  induction tasks generalizing names with
  | nil =>
    rw [collectNames, List.map_nil, List.append_nil]
  | cons task tasks ih =>
    have hnew : task.name ∉ names := fun hm =>
      (List.nodup_append.mp h).2.2 _ hm _ List.mem_cons_self rfl
    have hsplit : names ++ (task :: tasks).map TaskSpec.name
        = (names ++ [task.name]) ++ tasks.map TaskSpec.name := by simp
    rw [collectNames, if_neg hnew, hsplit]
    exact ih (hsplit ▸ h)

theorem checkDependencies_iff {names : List String} {task : TaskSpec} :
    checkDependencies names task = .ok () ↔
      task.dependsOn.Nodup ∧ ∀ d ∈ task.dependsOn, d ≠ task.name ∧ d ∈ names := by
  refine ⟨checkDependencies_ok, fun ⟨hnd, hall⟩ => ?_⟩
  rw [checkDependencies, if_neg (not_not.mpr hnd)]
  apply forM_eq_ok.mpr
  intro d hd
  obtain ⟨hself, hknown⟩ := hall d hd
  rw [checkDependency, if_neg hself, if_neg (not_not.mpr hknown)]

theorem checkSources_iff {names : List String} {task : TaskSpec} {sources seen : List String}
    (hd : ∀ d ∈ task.dependsOn, d ≠ task.name ∧ d ∈ names) :
    checkSources names task sources seen = .ok () ↔
      sources.Nodup ∧ (∀ s ∈ sources, s ∉ seen) ∧ ∀ s ∈ sources, s ∈ task.dependsOn := by
  refine ⟨checkSources_ok, ?_⟩
  induction sources generalizing seen with
  | nil => exact fun _ => rfl
  | cons source sources ih =>
    rintro ⟨hnd, hnew, hdeps⟩
    obtain ⟨hsource, hnd⟩ := List.nodup_cons.mp hnd
    have hdep : source ∈ task.dependsOn := hdeps source List.mem_cons_self
    obtain ⟨hself, hknown⟩ := hd source hdep
    rw [checkSources, if_neg hself, if_neg (not_not.mpr hknown), if_neg (hnew source List.mem_cons_self),
      if_neg (not_not.mpr hdep)]
    refine ih ⟨hnd, fun s hs => ?_, fun s hs => hdeps s (List.mem_cons_of_mem _ hs)⟩
    rw [List.mem_cons, not_or]
    exact ⟨fun heq => hsource (heq ▸ hs), hnew s (List.mem_cons_of_mem _ hs)⟩

section Graphs

variable {tasks : List TaskSpec}

/-! ### Cycles -/

theorem Checked.dependsOn_iff (h : Checked tasks) {a b : String} :
    b ∈ dependenciesOf tasks a ↔ DependsOn tasks a b := by
  constructor
  · exact mem_dependenciesOf
  · rintro ⟨t, ht, rfl, hb⟩
    rw [dependenciesOf_eq h.names ht]
    exact hb

theorem Checked.closed (h : Checked tasks) :
    ∀ a ∈ tasks.map TaskSpec.name, ∀ b ∈ dependenciesOf tasks a, b ∈ tasks.map TaskSpec.name := by
  intro a _ b hb
  obtain ⟨t, ht, -, hd⟩ := mem_dependenciesOf hb
  obtain ⟨u, hu, rfl⟩ := ((h.dependencies t ht).2 b hd).2
  exact List.mem_map_of_mem hu

theorem Checked.deps_nodup (h : Checked tasks) :
    ∀ a ∈ tasks.map TaskSpec.name, (dependenciesOf tasks a).Nodup := by
  intro a ha
  obtain ⟨t, ht, rfl⟩ := List.mem_map.mp ha
  rw [dependenciesOf_eq h.names ht]
  exact (h.dependencies t ht).1

/-- The relation of the claim and that of the algorithm. -/
theorem Checked.acyclic_iff (h : Checked tasks) :
    Kahn.Acyclic (tasks.map TaskSpec.name) (dependenciesOf tasks) ↔
      ∀ a, ¬ TransGen (DependsOn tasks) a a := by
  have hsame : (fun a b => b ∈ dependenciesOf tasks a) = DependsOn tasks := by
    funext a b
    exact propext h.dependsOn_iff
  rw [Kahn.Acyclic, hsame]
  refine ⟨fun hall a hcycle => ?_, fun hall a _ => hall a⟩
  obtain ⟨b, ⟨t, ht, rfl, -⟩, -⟩ := TransGen.head'_iff.mp hcycle
  exact hall t.name (List.mem_map_of_mem ht) hcycle

theorem Checked.ends (h : Checked tasks) :
    (Kahn.run (graphOf tasks).taskNames (graphOf tasks).dependencies).ready = [] :=
  Kahn.run_ready h.names h.deps_nodup

theorem Checked.topologicalOrder_iff (h : Checked tasks) :
    (∃ order, (graphOf tasks).topologicalOrder = .ok order) ↔ ∀ a, ¬ TransGen (DependsOn tasks) a a := by
  rw [← h.acyclic_iff, ← Kahn.run_complete_iff h.names h.deps_nodup h.closed]
  constructor
  · rintro ⟨order, horder⟩
    rw [WorkflowGraph.topologicalOrder, ite_error_eq_ok', not_not] at horder
    exact horder.1
  · intro hlength
    exact ⟨_, if_neg (not_not.mpr hlength)⟩

/-- Without defects but cycles the passes lead to the last check. -/
theorem Checked.build_eq (h : Checked tasks) :
    buildWorkflowGraph tasks = (graphOf tasks).topologicalOrder.map fun _ => graphOf tasks := by
  have hnames : collectNames tasks [] = .ok (tasks.map TaskSpec.name) := collectNames_isOk h.names
  have hknown : ∀ t ∈ tasks, ∀ d ∈ t.dependsOn, d ≠ t.name ∧ d ∈ tasks.map TaskSpec.name := by
    intro t ht d hd
    obtain ⟨hself, u, hu, rfl⟩ := (h.dependencies t ht).2 d hd
    exact ⟨hself, List.mem_map_of_mem hu⟩
  have hdeps : tasks.forM (checkDependencies (tasks.map TaskSpec.name)) = .ok () :=
    forM_eq_ok.mpr fun t ht => checkDependencies_iff.mpr ⟨(h.dependencies t ht).1, hknown t ht⟩
  have hsources : (tasks.forM fun task => checkSources (tasks.map TaskSpec.name) task task.sources [])
      = .ok () := by
    apply forM_eq_ok.mpr
    intro t ht
    exact (checkSources_iff (hknown t ht)).mpr ⟨(h.sources t ht).1, fun _ _ => List.not_mem_nil, (h.sources t ht).2⟩
  rw [buildWorkflowGraph, if_neg h.nonempty, hnames]
  show (tasks.forM (checkDependencies (tasks.map TaskSpec.name)) >>= _) = _
  rw [hdeps]
  show ((tasks.forM fun task => checkSources (tasks.map TaskSpec.name) task task.sources []) >>= _) = _
  rw [hsources]
  show ((graphOf tasks).topologicalOrder >>= fun _ => .ok (graphOf tasks)) = _
  cases (graphOf tasks).topologicalOrder <;> rfl

theorem WorkflowGraph.Accepts.checked {graph : WorkflowGraph} (h : graph.Accepts tasks) : Checked tasks := by
  refine ⟨h.nonempty, h.names ▸ h.nodup, fun t ht => ⟨h.dependencies_nodup t ht, fun d hd => ?_⟩, h.sources⟩
  obtain ⟨hself, hd⟩ := h.known t ht d hd
  exact ⟨hself, h.exists_task hd⟩

/-- **Validation is exact.** A task list is accepted if and only if it is valid; then the
topological order lists every task once, after its dependencies. Where only cycles are
wrong the order is refused, after the loop has come to its end. -/
theorem validation_exact (tasks : List TaskSpec) :
    ((∃ graph, buildWorkflowGraph tasks = .ok graph) ↔ ValidWorkflow tasks) ∧
    (∀ graph, buildWorkflowGraph tasks = .ok graph →
      (Kahn.run graph.taskNames graph.dependencies).ready = [] ∧
      ∃ order, graph.topologicalOrder = .ok order ∧ order.Perm (tasks.map TaskSpec.name) ∧
        ∀ l₁ a l₂, order = l₁ ++ a :: l₂ → ∀ b, DependsOn tasks a b → b ∈ l₁) ∧
    (Checked tasks → ¬ (∀ a, ¬ TransGen (DependsOn tasks) a a) →
      (Kahn.run (graphOf tasks).taskNames (graphOf tasks).dependencies).ready = [] ∧
      (graphOf tasks).topologicalOrder = .error .cycle ∧ buildWorkflowGraph tasks = .error .cycle) := by
  have hgraph : ∀ graph, buildWorkflowGraph tasks = .ok graph → Checked tasks ∧ graph = graphOf tasks := by
    intro graph hbuild
    have hchecked := (buildWorkflowGraph_ok hbuild).checked
    rw [hchecked.build_eq] at hbuild
    obtain ⟨order, -, heq⟩ := map_eq_ok.mp hbuild
    exact ⟨hchecked, heq.symm⟩
  refine ⟨⟨?_, fun hvalid => ?_⟩, fun graph hbuild => ?_, fun hchecked hcyclic => ?_⟩
  · rintro ⟨graph, hbuild⟩
    obtain ⟨hchecked, rfl⟩ := hgraph graph hbuild
    exact ⟨hchecked, hchecked.topologicalOrder_iff.mp (buildWorkflowGraph_ok hbuild).acyclic⟩
  · obtain ⟨order, horder⟩ := hvalid.toChecked.topologicalOrder_iff.mpr hvalid.acyclic
    refine ⟨graphOf tasks, ?_⟩
    rw [hvalid.toChecked.build_eq, horder]
    rfl
  · obtain ⟨hchecked, rfl⟩ := hgraph graph hbuild
    obtain ⟨order, horder⟩ := (buildWorkflowGraph_ok hbuild).acyclic
    obtain ⟨hperm, hordered⟩ := (buildWorkflowGraph_ok hbuild).order horder
    refine ⟨hchecked.ends, order, horder, hperm, fun l₁ a l₂ he b hb => ?_⟩
    exact hordered l₁ a l₂ he b (hchecked.dependsOn_iff.mpr hb)
  · have hcycle : (graphOf tasks).topologicalOrder = .error .cycle := by
      apply if_pos
      intro hlength
      apply hcyclic
      exact hchecked.topologicalOrder_iff.mp ⟨_, if_neg (not_not.mpr hlength)⟩
    refine ⟨hchecked.ends, hcycle, ?_⟩
    rw [hchecked.build_eq, hcycle]
    rfl

end Graphs

end AgentPlatform
