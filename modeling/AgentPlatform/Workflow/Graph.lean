/-
AgentPlatform/Workflow/Graph.lean

The dependency graph of a Workflow (`workflow_graph.py`): validation of the
task list, the topological order, and the two questions the controller asks of
a graph and the phases seen so far.

`buildWorkflowGraph` rejects a list for the first defect it meets, in three
passes and a last check for cycles; `buildWorkflowGraph_ok` says what an
accepted list satisfies. `findSkippedTasks` walks the topological order once:
what it skips follows from unsuccessful dependencies
(`skip_induction`), and what it leaves has none (`skip_complete`).
-/
import AgentPlatform.Order.Kahn
import AgentPlatform.Py.Text
import AgentPlatform.Py.Transaction

namespace AgentPlatform

open Py

/-! ### Data -/

/-- An item of `spec.tasks`. `sources` are the tasks named in `input.from`. -/
structure TaskSpec where
  name : String
  agentRef : String
  prompt : String
  sources : List String
  dependsOn : List String
  timeoutSeconds : Option Int
  deriving DecidableEq

inductive WorkflowValidationError where
  | noTasks
  | duplicateName (name : String)
  | duplicateDependencies (name : String)
  | selfDependency (name : String)
  | unknownDependency (name dependency : String)
  | ownResult (name : String)
  | unknownSource (name source : String)
  | duplicateSource (name source : String)
  | sourceNotDependency (name source : String)
  | cycle
  deriving DecidableEq

/-- The dictionary `dependencies` has one entry for each task name, in their
order. -/
structure WorkflowGraph where
  taskNames : List String
  dependencies : String → List String

def WorkflowGraph.topologicalOrder (graph : WorkflowGraph) :
    Except WorkflowValidationError (List String) :=
  let ordered := (Kahn.run graph.taskNames graph.dependencies).ordered
  if ordered.length ≠ graph.taskNames.length then .error .cycle else .ok ordered

/-! ### Validation -/

/-- Pass 1: the names, each once. -/
def collectNames : List TaskSpec → List String → Except WorkflowValidationError (List String)
  | [], names => .ok names
  | task :: tasks, names =>
    if task.name ∈ names then .error (.duplicateName task.name)
    else collectNames tasks (names ++ [task.name])

/-- Pass 2 at one dependency. -/
def checkDependency (names : List String) (name dependency : String) :
    Except WorkflowValidationError Unit :=
  if dependency = name then .error (.selfDependency name)
  else if dependency ∉ names then .error (.unknownDependency name dependency)
  else .ok ()

/-- Pass 2: control flow. -/
def checkDependencies (names : List String) (task : TaskSpec) :
    Except WorkflowValidationError Unit :=
  if ¬ task.dependsOn.Nodup then .error (.duplicateDependencies task.name)
  else task.dependsOn.forM (checkDependency names task.name)

/-- Pass 3: data flow. -/
def checkSources (names : List String) (task : TaskSpec) :
    List String → List String → Except WorkflowValidationError Unit
  | [], _ => .ok ()
  | source :: sources, seen =>
    if source = task.name then .error (.ownResult task.name)
    else if source ∉ names then .error (.unknownSource task.name source)
    else if source ∈ seen then .error (.duplicateSource task.name source)
    else if source ∉ task.dependsOn then .error (.sourceNotDependency task.name source)
    else checkSources names task sources (source :: seen)

/-- `dependencies[name]` after pass 2. -/
def dependenciesOf (tasks : List TaskSpec) (name : String) : List String :=
  ((tasks.find? (·.name = name)).map TaskSpec.dependsOn).getD []

def buildWorkflowGraph (tasks : List TaskSpec) : Except WorkflowValidationError WorkflowGraph := do
  if tasks = [] then .error .noTasks
  else
    let names ← collectNames tasks []
    tasks.forM (checkDependencies names)
    tasks.forM fun task => checkSources names task task.sources []
    let graph : WorkflowGraph := ⟨names, dependenciesOf tasks⟩
    let _ ← graph.topologicalOrder
    .ok graph

/-! ### What an accepted list satisfies -/

theorem collectNames_ok {tasks : List TaskSpec} {names names' : List String}
    (h : collectNames tasks names = .ok names') (hn : names.Nodup) :
    names' = names ++ tasks.map TaskSpec.name ∧ names'.Nodup := by
  induction tasks generalizing names with
  | nil =>
    cases h
    simpa using hn
  | cons task tasks ih =>
    rw [collectNames, ite_error_eq_ok'] at h
    obtain ⟨hnew, h⟩ := h
    have hnd : (names ++ [task.name]).Nodup := by
      rw [List.nodup_append]
      refine ⟨hn, List.nodup_singleton _, ?_⟩
      rintro x hx y hy rfl
      rw [List.mem_singleton.mp hy] at hx
      exact hnew hx
    obtain ⟨e, hnd'⟩ := ih h hnd
    exact ⟨by rw [e]; simp, hnd'⟩

theorem checkDependencies_ok {names : List String} {task : TaskSpec}
    (h : checkDependencies names task = .ok ()) :
    task.dependsOn.Nodup ∧ ∀ d ∈ task.dependsOn, d ≠ task.name ∧ d ∈ names := by
  rw [checkDependencies, ite_error_eq_ok'] at h
  obtain ⟨hnd, h⟩ := h
  refine ⟨not_not.mp hnd, fun d hd => ?_⟩
  have := forM_eq_ok.mp h d hd
  rw [checkDependency, ite_error_eq_ok', ite_error_eq_ok'] at this
  exact ⟨this.1, not_not.mp this.2.1⟩

theorem checkSources_ok {names : List String} {task : TaskSpec} {sources seen : List String}
    (h : checkSources names task sources seen = .ok ()) :
    sources.Nodup ∧ (∀ s ∈ sources, s ∉ seen) ∧ ∀ s ∈ sources, s ∈ task.dependsOn := by
  induction sources generalizing seen with
  | nil => simp
  | cons source sources ih =>
    rw [checkSources, ite_error_eq_ok', ite_error_eq_ok', ite_error_eq_ok', ite_error_eq_ok'] at h
    obtain ⟨-, -, hseen, hdep, h⟩ := h
    obtain ⟨hnd, hns, hd⟩ := ih h
    refine ⟨List.nodup_cons.mpr ⟨fun hm => hns source hm List.mem_cons_self, hnd⟩, ?_, ?_⟩
    · intro s hs
      rcases List.mem_cons.mp hs with rfl | hs
      · exact hseen
      · exact fun hm => hns s hs (List.mem_cons_of_mem _ hm)
    · intro s hs
      rcases List.mem_cons.mp hs with rfl | hs
      · exact not_not.mp hdep
      · exact hd s hs

/-- A task is found by its name, where names are unique. -/
theorem find_task {tasks : List TaskSpec} (hn : (tasks.map TaskSpec.name).Nodup) {task : TaskSpec}
    (ht : task ∈ tasks) : tasks.find? (·.name = task.name) = some task := by
  induction tasks with
  | nil => cases ht
  | cons t tasks ih =>
    obtain ⟨hnew, hn⟩ := List.nodup_cons.mp hn
    rcases List.mem_cons.mp ht with rfl | ht
    · simp
    · have hne : t.name ≠ task.name := fun e => hnew (e ▸ List.mem_map_of_mem ht)
      rw [List.find?_cons_of_neg (by simpa using hne)]
      exact ih hn ht

theorem dependenciesOf_eq {tasks : List TaskSpec} (hn : (tasks.map TaskSpec.name).Nodup)
    {task : TaskSpec} (ht : task ∈ tasks) : dependenciesOf tasks task.name = task.dependsOn := by
  rw [dependenciesOf, find_task hn ht]
  rfl

/-- Every edge comes from a task of the list. -/
theorem mem_dependenciesOf {tasks : List TaskSpec} {n d : String} (h : d ∈ dependenciesOf tasks n) :
    ∃ t ∈ tasks, t.name = n ∧ d ∈ t.dependsOn := by
  rw [dependenciesOf] at h
  rcases hf : tasks.find? (·.name = n) with _ | t
  · rw [hf] at h
    cases h
  · rw [hf] at h
    exact ⟨t, List.mem_of_find?_eq_some hf, by simpa using List.find?_some hf, h⟩

/-- What `buildWorkflowGraph` checks. -/
structure WorkflowGraph.Accepts (graph : WorkflowGraph) (tasks : List TaskSpec) : Prop where
  nonempty : tasks ≠ []
  names : graph.taskNames = tasks.map TaskSpec.name
  nodup : graph.taskNames.Nodup
  dependencies : ∀ t ∈ tasks, graph.dependencies t.name = t.dependsOn
  edges : ∀ n, ∀ d ∈ graph.dependencies n, ∃ t ∈ tasks, t.name = n ∧ d ∈ t.dependsOn
  dependencies_nodup : ∀ t ∈ tasks, t.dependsOn.Nodup
  known : ∀ t ∈ tasks, ∀ d ∈ t.dependsOn, d ≠ t.name ∧ d ∈ graph.taskNames
  sources : ∀ t ∈ tasks, t.sources.Nodup ∧ ∀ s ∈ t.sources, s ∈ t.dependsOn
  acyclic : ∃ order, graph.topologicalOrder = .ok order

theorem buildWorkflowGraph_ok {tasks : List TaskSpec} {graph : WorkflowGraph}
    (h : buildWorkflowGraph tasks = .ok graph) : graph.Accepts tasks := by
  rw [buildWorkflowGraph, ite_error_eq_ok'] at h
  obtain ⟨hne, h⟩ := h
  obtain ⟨names, hnames, h⟩ := bind_eq_ok.mp h
  obtain ⟨⟨⟩, hdeps, h⟩ := bind_eq_ok.mp h
  obtain ⟨⟨⟩, hsources, h⟩ := bind_eq_ok.mp h
  obtain ⟨order, horder, h⟩ := bind_eq_ok.mp h
  cases h
  obtain ⟨e, hnd⟩ := collectNames_ok hnames List.nodup_nil
  rw [List.nil_append] at e
  have hdeps' := fun t ht => checkDependencies_ok (forM_eq_ok.mp hdeps t ht)
  exact {
    nonempty := hne
    names := e
    nodup := hnd
    dependencies := fun t ht => dependenciesOf_eq (e ▸ hnd) ht
    edges := fun n d hd => mem_dependenciesOf hd
    dependencies_nodup := fun t ht => (hdeps' t ht).1
    known := fun t ht => (hdeps' t ht).2
    sources := fun t ht =>
      have := checkSources_ok (forM_eq_ok.mp hsources t ht)
      ⟨this.1, this.2.2⟩
    acyclic := ⟨order, horder⟩ }

section Accepted

variable {graph : WorkflowGraph} {tasks : List TaskSpec}

/-- Every node of an accepted graph is a task of the list. -/
theorem WorkflowGraph.Accepts.exists_task (h : graph.Accepts tasks) {name : String}
    (hn : name ∈ graph.taskNames) : ∃ t ∈ tasks, t.name = name := by
  rw [h.names] at hn
  exact List.mem_map.mp hn

theorem WorkflowGraph.Accepts.mem_names (h : graph.Accepts tasks) {t : TaskSpec} (ht : t ∈ tasks) :
    t.name ∈ graph.taskNames := by
  rw [h.names]
  exact List.mem_map_of_mem ht

theorem WorkflowGraph.Accepts.deps_nodup (h : graph.Accepts tasks) :
    ∀ n ∈ graph.taskNames, (graph.dependencies n).Nodup := by
  intro n hn
  obtain ⟨t, ht, rfl⟩ := h.exists_task hn
  rw [h.dependencies t ht]
  exact h.dependencies_nodup t ht

/-- **The topological order** lists every task once, after its dependencies. -/
theorem WorkflowGraph.Accepts.order (h : graph.Accepts tasks) {order : List String}
    (ho : graph.topologicalOrder = .ok order) :
    order.Perm graph.taskNames ∧ Kahn.Ordered graph.dependencies order := by
  rw [WorkflowGraph.topologicalOrder, ite_error_eq_ok'] at ho
  obtain ⟨hl, ho⟩ := ho
  cases ho
  exact ⟨Kahn.perm_of_length h.nodup h.deps_nodup (not_not.mp hl),
    (Kahn.run_inv h.nodup h.deps_nodup).ordered⟩

end Accepted

/-! ### Phases -/

inductive TaskPhase where
  | pending
  | running
  | succeeded
  | failed
  | timedOut
  deriving DecidableEq

/-- The phase of a node: that of its Task, or `Skipped`. -/
inductive NodePhase where
  | task (phase : TaskPhase)
  | skipped
  deriving DecidableEq

/-- Membership in `TERMINAL_UNSUCCESSFUL_PHASES`. -/
def unsuccessful : Option NodePhase → Bool
  | some (.task .failed) | some (.task .timedOut) | some .skipped => true
  | _ => false

/-- A map from nodes to phases. -/
abbrev Phases := String → Option NodePhase

def findReadyTasks (graph : WorkflowGraph) (phases : Phases) : List String :=
  graph.taskNames.filter fun name =>
    (phases name).isNone &&
      (graph.dependencies name).all fun d => phases d = some (.task .succeeded)

/-- One step of the walk: the effective phases and the tasks skipped so far. -/
def skipStep (graph : WorkflowGraph) (s : Phases × List String) (name : String) :
    Phases × List String :=
  if (s.1 name).isSome then s
  else if (graph.dependencies name).any fun d => unsuccessful (s.1 d) then
    (Function.update s.1 name (some .skipped), s.2 ++ [name])
  else s

def findSkippedTasks (graph : WorkflowGraph) (phases : Phases) :
    Except WorkflowValidationError (List String) := do
  let order ← graph.topologicalOrder
  .ok (order.foldl (skipStep graph) (phases, [])).2

section Skipping

variable {graph : WorkflowGraph} {phases : Phases}

/-- The three things a step of the walk can do. -/
theorem skipStep_cases (graph : WorkflowGraph) (s : Phases × List String) (name : String) :
    ((s.1 name).isSome = true ∧ skipStep graph s name = s) ∨
      (s.1 name = none ∧ (∃ d ∈ graph.dependencies name, unsuccessful (s.1 d) = true) ∧
        skipStep graph s name = (Function.update s.1 name (some .skipped), s.2 ++ [name])) ∨
      (s.1 name = none ∧ (∀ d ∈ graph.dependencies name, unsuccessful (s.1 d) = false) ∧
        skipStep graph s name = s) := by
  unfold skipStep
  rcases hs : s.1 name with _ | p
  · right
    by_cases hany : (graph.dependencies name).any (fun d => unsuccessful (s.1 d)) = true
    · left
      exact ⟨rfl, List.any_eq_true.mp hany, by simp [hany]⟩
    · right
      refine ⟨rfl, fun d hd => ?_, by simp [hany]⟩
      by_contra hd'
      exact hany (List.any_eq_true.mpr ⟨d, hd, by simpa using hd'⟩)
  · exact .inl ⟨rfl, rfl⟩

/-- The effective phases are the given ones with the skipped tasks added. -/
theorem skip_phases (order : List String) (n : String) :
    (order.foldl (skipStep graph) (phases, [])).1 n =
      if n ∈ (order.foldl (skipStep graph) (phases, [])).2 then some .skipped else phases n := by
  induction order using List.reverseRecOn with
  | nil => simp
  | append_singleton order a ih =>
    rw [List.foldl_append, List.foldl_cons, List.foldl_nil]
    obtain ⟨-, e⟩ | ⟨-, -, e⟩ | ⟨-, -, e⟩ := skipStep_cases graph
      (order.foldl (skipStep graph) (phases, [])) a
    · rw [e]
      exact ih
    · rw [e]
      by_cases hn : n = a
      · simp [hn]
      · simpa [hn] using ih
    · rw [e]
      exact ih

/-- Only tasks without a phase are skipped. -/
theorem skip_absent {order : List String} {n : String}
    (hn : n ∈ (order.foldl (skipStep graph) (phases, [])).2) : n ∈ order ∧ phases n = none := by
  induction order using List.reverseRecOn with
  | nil => cases hn
  | append_singleton order a ih =>
    rw [List.foldl_append, List.foldl_cons, List.foldl_nil] at hn
    obtain ⟨-, e⟩ | ⟨ha, -, e⟩ | ⟨-, -, e⟩ := skipStep_cases graph
      (order.foldl (skipStep graph) (phases, [])) a
    · rw [e] at hn
      exact (ih hn).imp_left fun h => List.mem_append_left _ h
    · rw [e] at hn
      rcases List.mem_append.mp hn with hn | hn
      · exact (ih hn).imp_left fun h => List.mem_append_left _ h
      · rw [List.mem_singleton.mp hn]
        rw [skip_phases] at ha
        refine ⟨List.mem_append_right _ List.mem_cons_self, ?_⟩
        split at ha
        · cases ha
        · exact ha
    · rw [e] at hn
      exact (ih hn).imp_left fun h => List.mem_append_left _ h

/-- An unsuccessful effective phase was given or comes from a skip. -/
theorem unsuccessful_effective {order : List String} {d : String}
    (h : unsuccessful ((order.foldl (skipStep graph) (phases, [])).1 d) = true) :
    unsuccessful (phases d) = true ∨ d ∈ (order.foldl (skipStep graph) (phases, [])).2 := by
  rw [skip_phases] at h
  split at h
  · next hd => exact .inr hd
  · exact .inl h

/-- **Skips are justified.** A property that passes from an unsuccessful
dependency to its dependents, and on from there, holds of every skipped task. -/
theorem skip_induction {P : String → Prop}
    (step : ∀ n, ∀ d ∈ graph.dependencies n, unsuccessful (phases d) = true ∨ P d → P n)
    (order : List String) :
    ∀ n ∈ (order.foldl (skipStep graph) (phases, [])).2, P n := by
  induction order using List.reverseRecOn with
  | nil =>
    intro n hn
    cases hn
  | append_singleton order a ih =>
    intro n hn
    rw [List.foldl_append, List.foldl_cons, List.foldl_nil] at hn
    obtain ⟨-, e⟩ | ⟨-, ⟨d, hd, hu⟩, e⟩ | ⟨-, -, e⟩ := skipStep_cases graph
      (order.foldl (skipStep graph) (phases, [])) a
    · rw [e] at hn
      exact ih n hn
    · rw [e] at hn
      rcases List.mem_append.mp hn with hn | hn
      · exact ih n hn
      · rw [List.mem_singleton.mp hn]
        exact step a d hd ((unsuccessful_effective hu).imp_right (ih d))
    · rw [e] at hn
      exact ih n hn

/-- **One pass is enough.** In a dependency order, a task that is left without
a phase has no unsuccessful dependency, skipped ones included. -/
theorem skip_complete {order : List String} (ho : Kahn.Ordered graph.dependencies order)
    (hnd : order.Nodup) {n : String} (hn : n ∈ order) (hp : phases n = none)
    (hs : n ∉ (order.foldl (skipStep graph) (phases, [])).2) :
    ∀ d ∈ graph.dependencies n,
      unsuccessful ((order.foldl (skipStep graph) (phases, [])).1 d) = false := by
  induction order using List.reverseRecOn with
  | nil => cases hn
  | append_singleton order a ih =>
    obtain ⟨ho, hdeps⟩ := Kahn.ordered_concat.mp ho
    have ha : a ∉ order := fun hm =>
      (List.nodup_append.mp hnd).2.2 a hm a List.mem_cons_self rfl
    rw [List.foldl_append, List.foldl_cons, List.foldl_nil] at hs ⊢
    generalize hst : order.foldl (skipStep graph) (phases, []) = st at ih hs ⊢
    rcases List.mem_append.mp hn with hn | hn
    · -- dependencies of an earlier task stand before `a` and keep their phase
      have hna : ∀ d ∈ graph.dependencies n, d ≠ a := fun d hd e => by
        obtain ⟨l₁, l₂, e'⟩ := List.append_of_mem hn
        exact ha (e ▸ e' ▸ List.mem_append_left _ (ho l₁ n l₂ e' d hd))
      obtain ⟨-, e⟩ | ⟨-, -, e⟩ | ⟨-, -, e⟩ := skipStep_cases graph st a
      · rw [e] at hs ⊢
        exact ih ho (List.nodup_append.mp hnd).1 hn hs
      · rw [e] at hs ⊢
        intro d hd
        show unsuccessful (Function.update st.1 a (some .skipped) d) = false
        rw [Function.update_of_ne (hna d hd)]
        exact ih ho (List.nodup_append.mp hnd).1 hn
          (fun h => hs (List.mem_append_left _ h)) d hd
      · rw [e] at hs ⊢
        exact ih ho (List.nodup_append.mp hnd).1 hn hs
    · rw [List.mem_singleton.mp hn] at hp hs ⊢
      have hnone : st.1 a = none := by
        rw [← hst, skip_phases, if_neg fun h => ha (skip_absent h).1]
        exact hp
      obtain ⟨h, -⟩ | ⟨-, -, e⟩ | ⟨-, hall, e⟩ := skipStep_cases graph st a
      · rw [hnone] at h
        cases h
      · rw [e] at hs
        exact absurd (List.mem_append_right _ List.mem_cons_self) hs
      · rw [e]
        exact hall

end Skipping

end AgentPlatform
