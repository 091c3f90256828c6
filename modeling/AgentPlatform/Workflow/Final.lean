/-
AgentPlatform/Workflow/Final.lean

What a reconcile of a Workflow computes once the Workflow has come to its end, and how
many Tasks a run creates for one Workflow.

A reconcile may read a status that is long outdated, so that skips need not be
recorded where they are seen. `Doomed.skipped` says that a doomed node is skipped by
every reconcile nevertheless; with Tasks that stay as they ended, the phases of all
nodes are settled for good (**`final_phases_stay`**).
-/
import AgentPlatform.Workflow.Naming

namespace AgentPlatform

open Py

/-! ### What a reconcile sees -/

section Seen

variable {spec : String → Option (List TaskSpec)} {ns : String} {c c' : Cluster} {w n : String}
  {t : TaskResource} {tasks : List TaskSpec} {graph : WorkflowGraph} {order : List String}

/-- The states of the Tasks of `w`, as a reconcile lists them. -/
abbrev Cluster.states (c : Cluster) (w : String) : Table String TaskState :=
  listWorkflowTaskStates w c.items

/-- The Task of a node is listed with its state. -/
theorem Cluster.Inv.listed (h : c.Inv spec ns) (ht : c.TaskOf w n t) (hn : n ≠ "") :
    (c.states w).lookup n = some t.state := by
  obtain ⟨s, hs⟩ := Option.ne_none_iff_exists'.mp (listed_of_taskOf ht hn)
  obtain ⟨t', ht', rfl⟩ := listed_taskOf hs
  rw [hs, h.unique ht ht']

theorem not_listed (h : ∀ t, ¬ c.TaskOf w n t) :
    (c.states w).lookup n = none := by
  by_contra hne
  obtain ⟨s, hs⟩ := Option.ne_none_iff_exists'.mp hne
  obtain ⟨t, ht, -⟩ := listed_taskOf hs
  exact h t ht

/-- **A doomed node is skipped**, whatever is recorded. -/
theorem Doomed.skipped (hd : Doomed spec c w n) (h : c.Inv spec ns)
    (hnames : ∀ n, IsNode spec w n → n ≠ "") (hs : spec w = some tasks)
    (hg : buildWorkflowGraph tasks = .ok graph) (ho : graph.topologicalOrder = .ok order)
    (existing : Table String NodeStatus) :
    effectivePhases graph order (c.states w) existing n = some .skipped := by
  have hacc := buildWorkflowGraph_ok hg
  obtain ⟨hperm, hord⟩ := hacc.order ho
  -- a node without a Task is skipped as soon as one dependency is unsuccessful
  have hskip : ∀ task ∈ tasks, Doomed spec c w task.name → ∀ d ∈ task.dependsOn,
      unsuccessful (effectivePhases graph order (c.states w) existing d) = true →
      effectivePhases graph order (c.states w) existing task.name
        = some .skipped := by
    intro task hm hdoom d hdm hu
    refine (effective_of_none graph order existing (not_listed (hdoom.no_task h))).resolve_right
      fun hopen => ?_
    have hleft := effective_complete hord (hperm.nodup_iff.mpr hacc.nodup)
      (hperm.mem_iff.mpr (hacc.mem_names hm)) hopen d (by rw [hacc.dependencies task hm]; exact hdm)
    rw [hu] at hleft
    cases hleft
  induction hd with
  | @failed tasks' task d t hs' hm hdm ht hp =>
    obtain rfl : tasks = tasks' := Option.some.inj (hs.symm.trans hs')
    refine hskip task hm (.failed hs hm hdm ht hp) d hdm ?_
    obtain ⟨dep, hdep, rfl⟩ := hacc.exists_task (hacc.known task hm d hdm).2
    rw [effective_of_state (h.listed ht (hnames _ ⟨tasks, hs, dep, hdep, rfl⟩))]
    rcases hp with hp | hp <;> simp [TaskResource.state, hp, unsuccessful]
  | @blocked tasks' task d hs' hm hdm hdoom ih =>
    obtain rfl : tasks = tasks' := Option.some.inj (hs.symm.trans hs')
    refine hskip task hm (.blocked hs hm hdm hdoom) d hdm ?_
    rw [ih]
    rfl

end Seen

/-! ### Final phases -/

section Final

/-- Only when every node has a final phase the Workflow has one. -/
theorem terminal_of_final {names : List String} {phases : Phases}
    (h : aggregateWorkflowPhase names phases ≠ .running) :
    ∀ n ∈ names, ∃ p, phases n = some p ∧ terminalNode p = true := by
  have hall : ∀ p ∈ names.map fun n => (phases n).getD (.task .pending), terminalNode p = true := by
    rw [aggregateWorkflowPhase] at h
    split at h
    · next hsucc =>
      intro p hp
      rw [hsucc.2 p hp]
      rfl
    · split at h
      · next hterm => exact hterm.2
      · exact absurd rfl h
  intro n hn
  have hp := hall _ (List.mem_map_of_mem hn)
  rcases e : phases n with _ | p
  · rw [e] at hp
    cases hp
  · rw [e] at hp
    exact ⟨p, rfl, hp⟩

variable [Printable] {spec : String → Option (List TaskSpec)} {ns : String} {c c' : Cluster}
  {w n : String} {tasks : List TaskSpec} {graph : WorkflowGraph} {order : List String}
  {body body' : WorkflowStatus} {plan plan' : Plan}

/-- **A final phase of a node is seen by every later reconcile.** -/
theorem final_phase_seen (h' : c'.Inv spec ns) (he : c.Extends c')
    (hnames : ∀ n, IsNode spec w n → n ≠ "")
    (hgood : (Reconcile.fetched w tasks body).Good spec ns c)
    (hg : buildWorkflowGraph tasks = .ok graph) (ho : graph.topologicalOrder = .ok order)
    (hp : planWorkflow w ns tasks (c.states w) body.tasks = .ok plan)
    (hd : Decides w ns tasks (c.states w) graph
      (effectivePhases graph order (c.states w) body.tasks) plan)
    (hn : n ∈ graph.taskNames) {p : NodePhase}
    (hphase : effectivePhases graph order (c.states w) body.tasks n = some p)
    (hfinal : terminalNode p = true) :
    effectivePhases graph order (c'.states w) body'.tasks n = some p := by
  have hacc := buildWorkflowGraph_ok hg
  cases p with
  | skipped =>
    -- the plan records the skip, and what it records is doomed
    obtain ⟨st, hl⟩ := hd.complete n hn
    have hst := hd.statuses n st hl
    rw [hphase] at hst
    have hdoom := (planned_good hgood hp).2 n ⟨st, hl, hst⟩
    exact (hdoom.extend he).skipped h' hnames hgood.1 hg ho body'.tasks
  | task q =>
    obtain ⟨s, hs, rfl⟩ := effective_task hphase
    obtain ⟨t, ht, rfl⟩ := listed_taskOf hs
    have hend : t.ended = true := by
      rw [TaskResource.state] at hfinal
      rcases e : t.phase with _ | q
      · rw [e] at hfinal
        cases hfinal
      · rw [e] at hfinal
        cases q <;> simp [terminalNode] at hfinal <;> simp [TaskResource.ended, e]
    obtain ⟨task, hm, rfl⟩ := hacc.exists_task hn
    exact effective_of_state (h'.listed (ht.ended he hend) (hnames _ ⟨tasks, hgood.1, task, hm, rfl⟩))

/-- A reconcile of `w` that lists the Tasks now computes `plan`. -/
def Cluster.Computes (ns : String) (c : Cluster) (w : String) (plan : Plan) : Prop :=
  ∃ tasks body, .fetched w tasks body ∈ c.inFlight ∧
    planWorkflow w ns tasks (c.states w) body.tasks = .ok plan

/-- The plan `plan'` says of the Workflow and of each of its nodes what `plan` says. -/
structure Plan.Repeats (spec : String → Option (List TaskSpec)) (w : String) (plan plan' : Plan) :
    Prop where
  phase : plan'.phase = plan.phase
  creates : plan'.creates = []
  nodes : ∀ n, IsNode spec w n → ∀ st st', plan.taskStatuses.lookup n = some st →
    plan'.taskStatuses.lookup n = some st' → st'.phase = st.phase

/-- **A final plan is computed again.** -/
theorem Cluster.Computes.repeats (h : c.Computes ns w plan) (hinv : c.Inv spec ns)
    (hfinal : plan.phase ≠ .running) (h' : c'.Computes ns w plan') (hinv' : c'.Inv spec ns)
    (he : c.Extends c') (hnames : ∀ n, IsNode spec w n → n ≠ "") : plan.Repeats spec w plan' := by
  obtain ⟨tasks, body, hmem, hp⟩ := h
  obtain ⟨tasks', body', hmem', hp'⟩ := h'
  have hgood := hinv.inFlight _ hmem
  obtain rfl : tasks = tasks' := Option.some.inj (hgood.1.symm.trans (hinv'.inFlight _ hmem').1)
  obtain ⟨graph, hg, -⟩ := bind_eq_ok.mp hp
  obtain ⟨order, plan₁, ho, hp₁, hd⟩ := planWorkflow_spec w ns hg (c.states w) body.tasks
  obtain rfl : plan = plan₁ := Except.ok.inj (hp.symm.trans hp₁)
  obtain ⟨order', plan₂, ho', hp₂, hd'⟩ := planWorkflow_spec w ns hg (c'.states w) body'.tasks
  obtain rfl : plan' = plan₂ := Except.ok.inj (hp'.symm.trans hp₂)
  obtain rfl : order = order' := Except.ok.inj (ho.symm.trans ho')
  have hterm := terminal_of_final (hd.phase ▸ hfinal)
  have hsame : ∀ n ∈ graph.taskNames, effectivePhases graph order (c'.states w) body'.tasks n
      = effectivePhases graph order (c.states w) body.tasks n := by
    intro n hn
    obtain ⟨p, hphase, hpf⟩ := hterm n hn
    rw [hphase]
    exact final_phase_seen hinv' he hnames hgood hg ho hp hd hn hphase hpf
  constructor
  · rw [hd'.phase, hd.phase]
    exact aggregateWorkflowPhase_congr fun n hn => by rw [hsame n hn]
  · rw [hd'.creates, List.filterMap_eq_nil_iff]
    intro n hn
    obtain ⟨hnode, hnone, -⟩ := mem_findReadyTasks.mp hn
    obtain ⟨p, hphase, -⟩ := hterm n hnode
    rw [hsame n hnode, hphase] at hnone
    cases hnone
  · rintro n ⟨tasks', hs, task, hm, rfl⟩ st st' hst hst'
    obtain rfl : tasks = tasks' := Option.some.inj (hgood.1.symm.trans hs)
    rw [hd.statuses _ st hst, hd'.statuses _ st' hst',
      hsame _ ((buildWorkflowGraph_ok hg).mem_names hm)]

/-- **Final phases stay.** Once a reconcile of a Workflow computes `Succeeded` or
`Failed`, every reconcile from then on computes the same phase of the Workflow, whatever
status it has read, and the same phase of every node; and none creates a Task. -/
theorem final_phases_stay (hnames : ∀ n, IsNode spec w n → n ≠ "") {c₀ : Cluster} (h₀ : c₀.Fresh)
    (actions later : List Action) (h : (c₀.run spec ns actions).Computes ns w plan)
    (hfinal : plan.phase ≠ .running)
    (h' : ((c₀.run spec ns actions).run spec ns later).Computes ns w plan') :
    plan.Repeats spec w plan' := by
  have hinv : (c₀.run spec ns actions).Inv spec ns := (Cluster.Inv.fresh h₀).run actions
  exact h.repeats hinv hfinal h' (hinv.run later) (Cluster.run_extends spec ns _ later) hnames

/-- Every Task that a run creates is that of a node. -/
theorem Cluster.Inv.createdIn_isNode (h : c.Inv spec ns) (actions : List Action) :
    ∀ t ∈ c.createdIn spec ns actions, ∃ w n, IsNode spec w n ∧ t.workflow = some w ∧
      t.name = taskResourceName w n := by
  induction actions generalizing c with
  | nil => simp [Cluster.createdIn]
  | cons a actions ih =>
    intro t ht
    rw [Cluster.createdIn] at ht
    rcases List.mem_append.mp ht with ht | ht
    · obtain ⟨w, n, hnode, hw, -, hname⟩ := (h.created (Option.mem_toList.mp ht)).1.isNode
      exact ⟨w, n, hnode, hw, hname⟩
    · exact ih (h.step a) t ht

end Final

namespace Sample

/-- The first Task fails, and the Workflow is reconciled again. -/
def failing : List Action :=
  [.fetch "report", .list 0, .create 0, .patch 0, .setPhase "report-research" .failed none,
    .fetch "report"]

/-- The phase that the first reconcile in flight computes for `report`. -/
def computed (c : Cluster) : Option WorkflowPhase :=
  match c.inFlight with
  | .fetched "report" tasks body :: _ =>
    (planWorkflow "report" "default" tasks (c.states "report") body.tasks).toOption.map Plan.phase
  | _ => none

theorem computes_of_computed (c : Cluster) (phase : WorkflowPhase) (h : computed c = some phase) :
    ∃ plan, c.Computes "default" "report" plan ∧ plan.phase = phase := by
  rw [computed] at h
  split at h
  · next tasks body rest e =>
    obtain ⟨plan, hp, rfl⟩ := Option.map_eq_some_iff.mp h
    refine ⟨plan, ⟨tasks, body, e ▸ List.mem_cons_self, ?_⟩, rfl⟩
    rcases hplan : planWorkflow "report" "default" tasks (c.states "report") body.tasks with _ | plan'
    · rw [hplan] at hp
      cases hp
    · rw [hplan] at hp
      exact congrArg _ (Option.some.inj hp)
  · cases h

end Sample

open Sample in
/-- The Workflow has failed for every later reconcile. -/
theorem final_phases_stay_sample :
    ∃ plan', ((emptyNamespace.run workflows "default" failing).run workflows "default"
      [.list 0, .patch 0, .fetch "report"]).Computes "default" "report" plan' ∧
        plan'.phase = .failed := by
  obtain ⟨plan, hp, hphase⟩ := computes_of_computed
    (emptyNamespace.run workflows "default" failing) .failed (by decide +kernel)
  obtain ⟨plan', hp', -⟩ := computes_of_computed
    ((emptyNamespace.run workflows "default" failing).run workflows "default"
      [.list 0, .patch 0, .fetch "report"]) .failed (by decide +kernel)
  refine ⟨plan', hp', ?_⟩
  rw [← hphase]
  exact (final_phases_stay (fun n hn => (isNode_workflows hn).2) emptyNamespace_fresh failing _ hp
    (by rw [hphase]; decide) hp').phase

end AgentPlatform
