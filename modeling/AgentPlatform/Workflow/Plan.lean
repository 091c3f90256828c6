/-
AgentPlatform/Workflow/Plan.lean

What a reconcile decides, stated through the effective phases of the nodes: the
phase of the Task where there is one, `Skipped` where a skip is recorded or
follows from the dependencies, and nothing for a node that is still to come.

* `planWorkflow_spec` reads the plan off the effective phases.
* `effective_skipped_induction` and `effective_complete` bound the skips from
  both sides, and `mem_creates` says who is created and with which prompt.
* `no_stuck_workflow`: when every Task has ended, a reconcile attempts a create
  or computes a final phase.
-/
import AgentPlatform.Workflow.Controller

namespace AgentPlatform

open Py

/-! ### Listing -/

/-- A listed state is that of a Task which carries both labels. -/
theorem listed_task {w n : String} {items : List TaskResource} {s : TaskState}
    (h : (listWorkflowTaskStates w items).lookup n = some s) :
    ∃ item ∈ items, item.workflow = some w ∧ item.workflowTask = some n ∧ item.state = s := by
  have hfold : ∀ l : List TaskResource, (l.foldl addState ∅).lookup n = some s →
      ∃ item ∈ l, item.workflowTask = some n ∧ item.state = s := by
    intro l
    induction l using List.reverseRecOn with
    | nil =>
      intro h
      cases h
    | append_singleton l item ih =>
      intro h
      rw [List.foldl_append, List.foldl_cons, List.foldl_nil, addState] at h
      have hold : (l.foldl addState ∅).lookup n = some s →
          ∃ x ∈ l ++ [item], x.workflowTask = some n ∧ x.state = s := fun h => by
        obtain ⟨x, hx, hp⟩ := ih h
        exact ⟨x, List.mem_append_left _ hx, hp⟩
      split at h
      · exact hold h
      · next name hname =>
        split at h
        · exact hold h
        · rcases Table.lookup_insert_cases h with ⟨rfl, rfl⟩ | ⟨-, h⟩
          · exact ⟨item, List.mem_append_right _ List.mem_cons_self, hname, rfl⟩
          · exact hold h
  obtain ⟨item, hm, hn, hs⟩ := hfold _ h
  obtain ⟨hm, hw⟩ := List.mem_filter.mp hm
  exact ⟨item, hm, by simpa using hw, hn, hs⟩

/-- A Task that carries both labels is listed. -/
theorem listed_of_item {w n : String} {items : List TaskResource} {item : TaskResource}
    (hm : item ∈ items) (hw : item.workflow = some w) (hn : item.workflowTask = some n)
    (hne : n ≠ "") : (listWorkflowTaskStates w items).lookup n ≠ none := by
  have hfold : ∀ l : List TaskResource, item ∈ l → (l.foldl addState ∅).lookup n ≠ none := by
    intro l
    induction l using List.reverseRecOn with
    | nil =>
      intro h
      cases h
    | append_singleton l x ih =>
      intro h
      rw [List.foldl_append, List.foldl_cons, List.foldl_nil, addState]
      rcases List.mem_append.mp h with h | h
      · -- an entry may be overwritten, never removed
        split
        · exact ih h
        · next name _ =>
          split
          · exact ih h
          · by_cases hk : n = name
            · rw [hk, AList.lookup_insert]
              exact Option.some_ne_none _
            · rw [AList.lookup_insert_ne hk]
              exact ih h
      · rw [← List.mem_singleton.mp h, hn]
        simp only [hne, if_false, AList.lookup_insert]
        exact Option.some_ne_none _
  exact hfold _ (List.mem_filter.mpr ⟨hm, by simpa using hw⟩)

/-! ### Prompts -/

/-- A prompt followed by the results of the sources, each under its name. -/
def promptText (prompt : String) : List (String × String) → String
  | [] => prompt
  | r :: results => prompt ++ "\n\nPrevious task results:" ++
      String.join ((r :: results).map fun r => "\n\n[" ++ r.1 ++ "]\n" ++ r.2)

section Prompt

variable {states : Table String TaskState}

/-- The collected results are those of the sources, in their order. -/
theorem taskResults_eq_some {sources : List String} {results : List (String × String)} :
    taskResults states sources = some results ↔
      results.map Prod.fst = sources ∧ ∀ r ∈ results, sourceResult states r.1 = some r.2 := by
  induction sources generalizing results with
  | nil =>
    rw [taskResults]
    constructor
    · rintro h
      cases h
      simp
    · rintro ⟨h, -⟩
      rw [List.map_eq_nil_iff.mp h]
  | cons source sources ih =>
    simp only [taskResults, Option.bind_eq_bind, Option.bind_eq_some_iff, Option.some.injEq]
    constructor
    · rintro ⟨r, hr, rest, hrest, rfl⟩
      obtain ⟨hkeys, hvals⟩ := ih.mp hrest
      refine ⟨by simp [hkeys], ?_⟩
      intro p hp
      rcases List.mem_cons.mp hp with rfl | hp
      · exact hr
      · exact hvals p hp
    · rintro ⟨hkeys, hvals⟩
      rcases results with _ | ⟨⟨s, r⟩, rest⟩
      · cases hkeys
      · rw [List.map_cons, List.cons.injEq] at hkeys
        obtain ⟨rfl, hkeys⟩ := hkeys
        exact ⟨r, hvals _ List.mem_cons_self, rest,
          ih.mpr ⟨hkeys, fun p hp => hvals p (List.mem_cons_of_mem _ hp)⟩, rfl⟩

/-- Results are missing only where a source has none. -/
theorem taskResults_isSome (states : Table String TaskState) (sources : List String)
    (h : ∀ s ∈ sources, (sourceResult states s).isSome = true) :
    ∃ results, taskResults states sources = some results := by
  refine ⟨sources.map fun s => (s, (sourceResult states s).getD ""), taskResults_eq_some.mpr ⟨?_, ?_⟩⟩
  · rw [List.map_map]
    exact List.map_id _
  · intro r hr
    obtain ⟨s, hs, rfl⟩ := List.mem_map.mp hr
    obtain ⟨v, hv⟩ := Option.isSome_iff_exists.mp (h s hs)
    rw [hv]
    rfl

theorem lookup_results {results : List (String × String)}
    (h : ∀ r ∈ results, sourceResult states r.1 = some r.2) :
    ∀ r ∈ results, results.lookup r.1 = some r.2 := by
  induction results with
  | nil => simp
  | cons p rest ih =>
    intro r hr
    rw [List.lookup_cons]
    by_cases hk : r.1 = p.1
    · -- equal sources have equal results
      have := h r hr
      rw [hk, h p List.mem_cons_self] at this
      simp [hk, Option.some.inj this]
    · rcases List.mem_cons.mp hr with rfl | hr
      · exact absurd rfl hk
      · rw [beq_false_of_ne hk]
        exact ih (fun q hq => h q (List.mem_cons_of_mem _ hq)) r hr

theorem intercalate_sections (line : String) (results : List (String × String)) :
    "\n".intercalate (line :: results.flatMap fun r => ["", "[" ++ r.1 ++ "]", r.2])
      = line ++ String.join (results.map fun r => "\n\n[" ++ r.1 ++ "]\n" ++ r.2) := by
  induction results generalizing line with
  | nil => simp
  | cons r rest ih =>
    have h₁ : "\n\n[" = "\n" ++ ("\n" ++ "[") := rfl
    have h₂ : "]\n" = "]" ++ "\n" := rfl
    rw [List.flatMap_cons, List.cons_append, List.cons_append, List.cons_append, List.nil_append,
      String.intercalate_cons_cons, String.intercalate_cons_cons, String.intercalate_cons_cons, ih,
      List.map_cons, String.join_cons, h₁, h₂]
    simp only [String.append_assoc, String.empty_append]

/-- The prompt of a task holds the results of its sources, in declared order. -/
theorem resolveTaskPrompt_eq {task : TaskSpec} {results : List (String × String)}
    (h : taskResults states task.sources = some results) :
    resolveTaskPrompt task results = promptText task.prompt results := by
  obtain ⟨hkeys, hvals⟩ := taskResults_eq_some.mp h
  rcases results with _ | ⟨p, rest⟩
  · rw [resolveTaskPrompt, ← hkeys]
    rfl
  · have hne : task.sources ≠ [] := by rw [← hkeys]; exact List.cons_ne_nil _ _
    have hsections : (task.sources.flatMap fun s =>
        ["", "[" ++ s ++ "]", ((p :: rest).lookup s).getD ""])
          = (p :: rest).flatMap fun r => ["", "[" ++ r.1 ++ "]", r.2] := by
      rw [← hkeys, List.flatMap_map]
      refine List.flatMap_congr fun r hr => ?_
      rw [lookup_results hvals r hr]
      rfl
    have hhead : "\n\nPrevious task results:" = "\n" ++ ("" ++ ("\n" ++ "Previous task results:")) := rfl
    rw [resolveTaskPrompt, if_neg hne, hsections, List.cons_append, List.cons_append,
      List.singleton_append, String.intercalate_cons_cons, String.intercalate_cons_cons,
      intercalate_sections, promptText, hhead]
    simp only [String.append_assoc]

end Prompt

/-! ### Effective phases -/

/-- The phases of the nodes as a reconcile sees them. -/
def effectivePhases (graph : WorkflowGraph) (order : List String) (states : Table String TaskState)
    (existing : Table String NodeStatus) : Phases :=
  (order.foldl (skipStep graph) (observedPhases states existing, [])).1

section Effective

variable {graph : WorkflowGraph} {order : List String} {states : Table String TaskState}
  {existing : Table String NodeStatus} {n : String}

theorem observed_of_state {s : TaskState} (h : states.lookup n = some s) :
    observedPhases states existing n = some (.task s.phase) := by
  simp only [observedPhases, h]

theorem observed_of_none (h : states.lookup n = none) :
    observedPhases states existing n
      = if recordedSkipped existing n then some .skipped else none := by
  simp only [observedPhases, h]

theorem effective_of_state {s : TaskState} (h : states.lookup n = some s) :
    effectivePhases graph order states existing n = some (.task s.phase) := by
  rw [effectivePhases, skip_phases, if_neg, observed_of_state h]
  intro hn
  have := (skip_absent hn).2
  rw [observed_of_state h] at this
  cases this

/-- A node without a Task is skipped or still to come. -/
theorem effective_of_none (graph : WorkflowGraph) (order : List String)
    (existing : Table String NodeStatus) (h : states.lookup n = none) :
    effectivePhases graph order states existing n = some .skipped ∨
      effectivePhases graph order states existing n = none := by
  rw [effectivePhases, skip_phases, observed_of_none h]
  split
  · exact .inl rfl
  · split
    · exact .inl rfl
    · exact .inr rfl

theorem effective_task {p : TaskPhase}
    (h : effectivePhases graph order states existing n = some (.task p)) :
    ∃ s, states.lookup n = some s ∧ s.phase = p := by
  rcases hs : states.lookup n with _ | s
  · rcases effective_of_none graph order existing hs with e | e
    · rw [e] at h
      cases h
    · rw [e] at h
      cases h
  · rw [effective_of_state hs] at h
    cases h
    exact ⟨s, rfl, rfl⟩

/-- **A skip has a cause**: it was recorded, or some dependency failed, or some
dependency is skipped for such a cause. -/
theorem effective_skipped_induction {P : String → Prop}
    (recorded : ∀ n, recordedSkipped existing n → P n)
    (failed : ∀ n, ∀ d ∈ graph.dependencies n, ∀ s, states.lookup d = some s →
      s.phase = .failed ∨ s.phase = .timedOut → P n)
    (step : ∀ n, ∀ d ∈ graph.dependencies n, P d → P n)
    (h : effectivePhases graph order states existing n = some .skipped) : P n := by
  have hstep : ∀ n, ∀ d ∈ graph.dependencies n,
      unsuccessful (observedPhases states existing d) = true ∨ P d → P n := by
    rintro n d hd (hu | hp)
    · rcases hs : states.lookup d with _ | s
      · rw [observed_of_none hs] at hu
        split at hu
        · next hr => exact step n d hd (recorded d hr)
        · cases hu
      · rw [observed_of_state hs] at hu
        refine failed n d hd s hs ?_
        rcases s with ⟨_ | _ | _ | _ | _, r⟩ <;> simp [unsuccessful] at hu ⊢
    · exact step n d hd hp
  rw [effectivePhases, skip_phases] at h
  split at h
  · next hn => exact skip_induction hstep order n hn
  · rcases hs : states.lookup n with _ | s
    · rw [observed_of_none hs] at h
      split at h
      · next hr => exact recorded n hr
      · cases h
    · rw [observed_of_state hs] at h
      cases h

/-- **A node that is left has no unsuccessful dependency.** -/
theorem effective_complete (ho : Kahn.Ordered graph.dependencies order) (hnd : order.Nodup)
    (hn : n ∈ order) (h : effectivePhases graph order states existing n = none) :
    ∀ d ∈ graph.dependencies n,
      unsuccessful (effectivePhases graph order states existing d) = false := by
  rw [effectivePhases, skip_phases] at h
  split at h
  · cases h
  · next hs => exact skip_complete ho hnd hn h hs

theorem taskStatus_phase (w n : String) :
    (taskStatus w states existing n).phase
      = some ((observedPhases states existing n).getD (.task .pending)) := by
  unfold taskStatus observedPhases
  rcases states.lookup n with _ | s
  · rcases he : existing.lookup n with _ | st
    · have : ¬ recordedSkipped existing n := by rintro ⟨st, h, -⟩; rw [he] at h; cases h
      simp [this]
    · by_cases hp : st.phase = some .skipped
      · have : recordedSkipped existing n := ⟨st, he, hp⟩
        simp [this, hp]
      · have : ¬ recordedSkipped existing n := by
          rintro ⟨st', h, hp'⟩
          rw [he] at h
          cases h
          exact hp hp'
        simp [this, hp]
  · rfl

/-- A plan's phase depends on the phases of the nodes only. -/
theorem aggregateWorkflowPhase_congr {names : List String} {phases phases' : Phases}
    (h : ∀ n ∈ names, (phases n).getD (.task .pending) = (phases' n).getD (.task .pending)) :
    aggregateWorkflowPhase names phases = aggregateWorkflowPhase names phases' := by
  unfold aggregateWorkflowPhase
  rw [List.map_congr_left h]

theorem statuses_lookup (w : String) (graph : WorkflowGraph) (order : List String) {marked : Table String NodeStatus}
    (hother : ∀ n, n ∉ (order.foldl (skipStep graph) (observedPhases states existing, [])).2 →
      marked.lookup n = none)
    (hstatus : ∀ n ∈ (order.foldl (skipStep graph) (observedPhases states existing, [])).2,
      ∃ st, marked.lookup n = some st ∧ st.phase = some .skipped) (n : String) :
    (∀ st, (marked ∪ buildWorkflowTaskStatuses w graph.taskNames states existing).lookup n = some st →
      st.phase = some ((effectivePhases graph order states existing n).getD (.task .pending))) ∧
    (n ∈ graph.taskNames → ∃ st,
      (marked ∪ buildWorkflowTaskStatuses w graph.taskNames states existing).lookup n = some st) := by
  rw [effectivePhases, skip_phases]
  by_cases hn : n ∈ (order.foldl (skipStep graph) (observedPhases states existing, [])).2
  · obtain ⟨st, hl, hp⟩ := hstatus n hn
    have hmem : n ∈ marked := AList.lookup_isSome.mp (by rw [hl]; rfl)
    rw [AList.lookup_union_left hmem, hl, if_pos hn]
    refine ⟨?_, fun _ => ⟨st, rfl⟩⟩
    rintro st' h
    cases h
    exact hp
  · have hmem : n ∉ marked := AList.lookup_eq_none.mp (hother n hn)
    rw [AList.lookup_union_right hmem, buildWorkflowTaskStatuses, Table.lookup_ofKeys, if_neg hn]
    constructor
    · intro st h
      split at h
      · cases h
        exact taskStatus_phase w n
      · cases h
    · intro hnode
      exact ⟨_, if_pos hnode⟩

end Effective

/-! ### The plan -/

section Spec

variable [Printable]

/-- Marking the skipped tasks, as `reconcile_workflow` does. -/
theorem foldl_recordSkip (graph : WorkflowGraph) (skipped : List String)
    (s : Phases × Table String NodeStatus) :
    (∀ n, (skipped.foldl (recordSkip graph) s).1 n
      = if n ∈ skipped then some .skipped else s.1 n) ∧
    (∀ n, n ∉ skipped → (skipped.foldl (recordSkip graph) s).2.lookup n = s.2.lookup n) ∧
    ∀ n ∈ skipped, ∃ st, (skipped.foldl (recordSkip graph) s).2.lookup n = some st ∧
      st.phase = some .skipped := by
  induction skipped using List.reverseRecOn with
  | nil => simp
  | append_singleton skipped a ih =>
    obtain ⟨hphase, hother, hstatus⟩ := ih
    rw [List.foldl_append, List.foldl_cons, List.foldl_nil, recordSkip]
    refine ⟨fun n => ?_, fun n hn => ?_, fun n hn => ?_⟩
    · by_cases hn : n = a
      · simp [hn]
      · simp [hn, hphase]
    · simp only [List.mem_append, List.mem_singleton, not_or] at hn
      rw [AList.lookup_insert_ne hn.2]
      exact hother n hn.1
    · by_cases ha : n = a
      · subst ha
        exact ⟨_, AList.lookup_insert _, rfl⟩
      · simp only [List.mem_append, List.mem_singleton, ha, or_false] at hn
        rw [AList.lookup_insert_ne ha]
        exact hstatus n hn

/-- What a plan is, in terms of the effective phases. -/
structure Decides (w ns : String) (tasks : List TaskSpec) (states : Table String TaskState)
    (graph : WorkflowGraph) (phases : Phases) (plan : Plan) : Prop where
  creates : plan.creates
    = (findReadyTasks graph phases).filterMap (resolvedTask w ns tasks states)
  statuses : ∀ n st, plan.taskStatuses.lookup n = some st →
    st.phase = some ((phases n).getD (.task .pending))
  complete : ∀ n ∈ graph.taskNames, ∃ st, plan.taskStatuses.lookup n = some st
  phase : plan.phase = aggregateWorkflowPhase graph.taskNames phases
  taskCount : plan.taskCount = tasks.length

/-- **The plan of a reconcile.** -/
theorem planWorkflow_spec (w ns : String) {tasks : List TaskSpec} {graph : WorkflowGraph}
    (hg : buildWorkflowGraph tasks = .ok graph) (states : Table String TaskState)
    (existing : Table String NodeStatus) :
    ∃ order plan, graph.topologicalOrder = .ok order ∧
      planWorkflow w ns tasks states existing = .ok plan ∧
      Decides w ns tasks states graph (effectivePhases graph order states existing) plan := by
  obtain ⟨order, ho⟩ := (buildWorkflowGraph_ok hg).acyclic
  have hskip : findSkippedTasks graph (observedPhases states existing)
      = .ok (order.foldl (skipStep graph) (observedPhases states existing, [])).2 := by
    rw [findSkippedTasks, ho]
    rfl
  obtain ⟨hphase, hother, hstatus⟩ := foldl_recordSkip graph
    (order.foldl (skipStep graph) (observedPhases states existing, [])).2
    (observedPhases states existing, ∅)
  have hmarked : (List.foldl (recordSkip graph) (observedPhases states existing, ∅)
      (order.foldl (skipStep graph) (observedPhases states existing, [])).2).1
        = effectivePhases graph order states existing := by
    funext n
    rw [hphase, effectivePhases, skip_phases]
  have hlook := statuses_lookup w graph order
    (fun n hn => by rw [hother n hn, AList.lookup_empty]) hstatus
  refine ⟨order, ?_, ho, ?_, ?_⟩
  rotate_left
  · simp only [planWorkflow, hg, hskip, hmarked, bind, Except.bind]
    rfl
  · refine ⟨rfl, fun n => (hlook n).1, fun n => (hlook n).2, ?_, rfl⟩
    refine aggregateWorkflowPhase_congr fun n hn => ?_
    obtain ⟨st, hl⟩ := (hlook n).2 hn
    rw [hl]
    show st.phase.getD _ = _
    rw [(hlook n).1 st hl]
    rfl

end Spec

/-! ### Who is created -/

section Creates

variable {w ns : String} {tasks : List TaskSpec} {states : Table String TaskState}
  {graph : WorkflowGraph} {phases : Phases} {plan : Plan}

theorem mem_findReadyTasks {n : String} :
    n ∈ findReadyTasks graph phases ↔ n ∈ graph.taskNames ∧ phases n = none ∧
      ∀ d ∈ graph.dependencies n, phases d = some (.task .succeeded) := by
  simp [findReadyTasks]

/-- **The creates of a plan** are the nodes without a phase whose dependencies
have all succeeded and whose sources have results; the Task is given its prompt
with these results. -/
theorem mem_creates (hacc : graph.Accepts tasks) (hd : Decides w ns tasks states graph phases plan)
    {t : TaskResource} :
    t ∈ plan.creates ↔ ∃ task ∈ tasks, phases task.name = none ∧
      (∀ d ∈ task.dependsOn, phases d = some (.task .succeeded)) ∧
      ∃ results, taskResults states task.sources = some results ∧
        t = buildWorkflowTask w ns
          { task with prompt := promptText task.prompt results, sources := [] } := by
  have hnodup : (tasks.map TaskSpec.name).Nodup := hacc.names ▸ hacc.nodup
  rw [hd.creates, List.mem_filterMap]
  constructor
  · rintro ⟨n, hn, hr⟩
    obtain ⟨hnode, hnone, hdeps⟩ := mem_findReadyTasks.mp hn
    obtain ⟨task, ht, rfl⟩ := hacc.exists_task hnode
    rw [hacc.dependencies task ht] at hdeps
    simp only [resolvedTask, find_task hnodup ht, Option.bind_eq_bind, Option.bind_some,
      Option.bind_eq_some_iff, Option.some.injEq] at hr
    obtain ⟨results, hres, rfl⟩ := hr
    exact ⟨task, ht, hnone, hdeps, results, hres, by rw [resolveTaskPrompt_eq hres]⟩
  · rintro ⟨task, ht, hnone, hdeps, results, hres, rfl⟩
    refine ⟨task.name, mem_findReadyTasks.mpr ⟨hacc.mem_names ht, hnone, ?_⟩, ?_⟩
    · rw [hacc.dependencies task ht]
      exact hdeps
    · simp only [resolvedTask, find_task hnodup ht, hres, Option.bind_eq_bind, Option.bind_some,
        resolveTaskPrompt_eq hres]

end Creates

/-! ### Progress -/

/-- A Task that has ended, as `create_task` ends it. -/
def TaskState.Ended (s : TaskState) : Prop :=
  (s.phase = .succeeded ∧ s.result.isSome = true) ∨ s.phase = .failed ∨ s.phase = .timedOut

section Progress

variable {w ns : String} {tasks : List TaskSpec} {states : Table String TaskState}
  {existing : Table String NodeStatus} {graph : WorkflowGraph} {order : List String} {plan : Plan}

theorem aggregate_succeeded {names : List String} (hne : names ≠ []) {phases : Phases} :
    aggregateWorkflowPhase names phases = .succeeded ↔
      ∀ n ∈ names, phases n = some (.task .succeeded) := by
  have hne' : (names.map fun n => (phases n).getD (.task .pending)) ≠ [] := by simpa using hne
  have hall : (∀ p ∈ names.map fun n => (phases n).getD (.task .pending), p = .task .succeeded) ↔
      ∀ n ∈ names, phases n = some (.task .succeeded) := by
    rw [List.forall_mem_map]
    refine forall₂_congr fun n _ => ?_
    rcases phases n with _ | p <;> simp
  rw [← hall]
  constructor
  · intro h
    by_contra hn
    simp only [aggregateWorkflowPhase] at h
    rw [if_neg fun hc => hn hc.2] at h
    split at h <;> cases h
  · intro h
    exact if_pos ⟨hne', h⟩

/-- Final phases of all nodes give a final phase of the Workflow. -/
theorem aggregate_final {names : List String} (hne : names ≠ []) {phases : Phases}
    (h : ∀ n ∈ names, ∃ p, phases n = some p ∧ terminalNode p = true) :
    aggregateWorkflowPhase names phases = .succeeded ∨
      aggregateWorkflowPhase names phases = .failed := by
  have hne' : (names.map fun n => (phases n).getD (.task .pending)) ≠ [] := by simpa using hne
  have hall : ∀ p ∈ names.map fun n => (phases n).getD (.task .pending), terminalNode p = true := by
    rw [List.forall_mem_map]
    intro n hn
    obtain ⟨p, hp, ht⟩ := h n hn
    rw [hp]
    exact ht
  simp only [aggregateWorkflowPhase]
  rw [if_pos (c := _ ∧ ∀ p ∈ _, terminalNode p = true) ⟨hne', hall⟩]
  split
  · exact .inl rfl
  · exact .inr rfl

/-- A node whose dependencies have all ended is skipped or created. -/
theorem decided_of_dependencies (hacc : graph.Accepts tasks)
    (ho : graph.topologicalOrder = .ok order)
    (hd : Decides w ns tasks states graph (effectivePhases graph order states existing) plan)
    (hended : ∀ n s, states.lookup n = some s → s.Ended) (hnone : plan.creates = []) {n : String}
    (hn : n ∈ graph.taskNames)
    (hdeps : ∀ d ∈ graph.dependencies n, effectivePhases graph order states existing d ≠ none) :
    effectivePhases graph order states existing n ≠ none := by
  intro hopen
  obtain ⟨hperm, hord⟩ := hacc.order ho
  have hleft := effective_complete hord (hperm.nodup_iff.mpr hacc.nodup) (hperm.mem_iff.mpr hn) hopen
  obtain ⟨task, ht, rfl⟩ := hacc.exists_task hn
  rw [hacc.dependencies task ht] at hdeps hleft
  -- every dependency has a Task that succeeded, with a result
  have hsucc : ∀ d ∈ task.dependsOn, ∃ s, states.lookup d = some s ∧ s.phase = .succeeded ∧
      s.result.isSome = true := by
    intro d hdm
    have hu := hleft d hdm
    obtain ⟨p, hp⟩ := Option.ne_none_iff_exists'.mp (hdeps d hdm)
    rw [hp] at hu
    cases p with
    | skipped => cases hu
    | task q =>
      obtain ⟨s, hs, rfl⟩ := effective_task hp
      rcases hended d s hs with ⟨hq, hr⟩ | hq | hq
      · exact ⟨s, hs, hq, hr⟩
      · rw [hq] at hu
        cases hu
      · rw [hq] at hu
        cases hu
  obtain ⟨results, hres⟩ := taskResults_isSome states task.sources
    fun src hsrc => by
      obtain ⟨s, hs, -, hr⟩ := hsucc src ((hacc.sources task ht).2 src hsrc)
      rw [sourceResult, hs]
      exact hr
  have hcreated : buildWorkflowTask w ns
      { task with prompt := promptText task.prompt results, sources := [] } ∈ plan.creates := by
    refine (mem_creates hacc hd).mpr ⟨task, ht, hopen, fun d hdm => ?_, results, hres, rfl⟩
    obtain ⟨s, hs, hp, -⟩ := hsucc d hdm
    rw [effective_of_state hs, hp]
  rw [hnone] at hcreated
  cases hcreated

/-- **No stuck Workflow.** When every Task of an accepted Workflow has ended, a
reconcile attempts to create a Task or computes a final phase, whatever skips
are recorded; and it computes `Succeeded` exactly when the Task of every node
has succeeded. -/
theorem no_stuck_workflow [Printable] (w ns : String) (tasks : List TaskSpec)
    (graph : WorkflowGraph) (hg : buildWorkflowGraph tasks = .ok graph) (items : List TaskResource)
    (existing : Table String NodeStatus)
    (hended : ∀ item ∈ items, item.workflow = some w → item.state.Ended) :
    ∃ plan, planWorkflow w ns tasks (listWorkflowTaskStates w items) existing = .ok plan ∧
      (plan.creates ≠ [] ∨ plan.phase = .succeeded ∨ plan.phase = .failed) ∧
      (plan.phase = .succeeded ↔ ∀ task ∈ tasks, ∃ s,
        (listWorkflowTaskStates w items).lookup task.name = some s ∧ s.phase = .succeeded) := by
  have hacc := buildWorkflowGraph_ok hg
  have hstate : ∀ n s, (listWorkflowTaskStates w items).lookup n = some s → s.Ended := by
    intro n s hs
    obtain ⟨item, hm, hw, -, rfl⟩ := listed_task hs
    exact hended item hm hw
  obtain ⟨order, plan, ho, hplan, hd⟩ :=
    planWorkflow_spec w ns hg (listWorkflowTaskStates w items) existing
  obtain ⟨hperm, hord⟩ := hacc.order ho
  have hne : graph.taskNames ≠ [] := by
    rw [hacc.names]
    exact fun h => hacc.nonempty (List.map_eq_nil_iff.mp h)
  refine ⟨plan, hplan, ?_, ?_⟩
  · by_cases hc : plan.creates = []
    · right
      rw [hd.phase]
      -- along the order: every node has a phase
      have hall := hord.induction fun n hn hdeps =>
        decided_of_dependencies hacc ho hd hstate hc (hperm.mem_iff.mp hn) hdeps
      refine aggregate_final hne fun n hn => ?_
      obtain ⟨p, hp⟩ := Option.ne_none_iff_exists'.mp (hall n (hperm.mem_iff.mpr hn))
      refine ⟨p, hp, ?_⟩
      cases p with
      | skipped => rfl
      | task q =>
        obtain ⟨s, hs, rfl⟩ := effective_task hp
        rcases hstate n s hs with ⟨e, -⟩ | e | e <;> rw [e] <;> rfl
    · exact .inl hc
  · rw [hd.phase, aggregate_succeeded hne, hacc.names, List.forall_mem_map]
    refine forall₂_congr fun task _ => ?_
    constructor
    · exact effective_task
    · rintro ⟨s, hs, hp⟩
      rw [effective_of_state hs, hp]

end Progress

namespace Sample

scoped instance : Printable := ⟨fun _ => true⟩

/-- The second node of `report`, which takes the result of the first. -/
def write : TaskSpec := ⟨"write", "agent-1", "Write it up", ["research"], ["research"], some 300⟩

/-- A Workflow with two nodes. -/
def report : List TaskSpec := [⟨"research", "agent-1", "Find sources", [], [], some 300⟩, write]

/-- The Task of the first node when it has succeeded. -/
def research : TaskResource :=
  { buildWorkflowTask "report" "default"
      ⟨"research", "agent-1", "Find sources", [], [], some 300⟩ with
    phase := some .succeeded
    result := some "notes" }

end Sample

open Sample in
/-- One node has succeeded, the other is still to come. -/
theorem no_stuck_workflow_sample :
    ∃ plan, planWorkflow "report" "default" report
        (listWorkflowTaskStates "report" [research]) ∅ = .ok plan ∧
      (plan.creates ≠ [] ∨ plan.phase = .succeeded ∨ plan.phase = .failed) ∧
      plan.phase ≠ .succeeded := by
  have hok : (buildWorkflowGraph report).isOk = true := by decide +kernel
  rcases hg : buildWorkflowGraph report with e | graph
  · rw [hg] at hok
    cases hok
  · have hended : ∀ item ∈ [research], item.workflow = some "report" → item.state.Ended := by
      intro item hm _
      rw [List.mem_singleton.mp hm]
      exact .inl ⟨rfl, rfl⟩
    obtain ⟨plan, hp, hprogress, hsucc⟩ :=
      no_stuck_workflow "report" "default" report graph hg [research] ∅ hended
    refine ⟨plan, hp, hprogress, fun h => ?_⟩
    obtain ⟨s, hs, -⟩ := hsucc.mp h write (by decide +kernel)
    have hnone : (listWorkflowTaskStates "report" [research]).lookup "write" = none := by
      decide +kernel
    rw [show write.name = "write" from rfl, hnone] at hs
    cases hs

end AgentPlatform
