/-
AgentPlatform/Workflow/Runs.lean

Runs of the Workflow controller in one namespace. A reconcile is not atomic:
it reads the Workflow, lists its Tasks, creates Tasks one after another and
patches the status, and any number of reconciles, of any Workflows, may be at
any of these points at the same time. In between, Tasks move from `Pending` or
`Running` to any phase until they have ended. A reconcile may also die at any
point.

The invariant says that everything in flight is true of the cluster as it is:
what is about to be created is justified by Tasks that have succeeded, and what
is recorded, or about to be recorded, as skipped is doomed by a Task that has
failed. Both facts are stable, since Tasks that have ended stay as they are
(`Cluster.Extends`); and no node is both (`Doomed.no_task`).
-/
import AgentPlatform.Workflow.Plan

namespace AgentPlatform

open Py

/-! ### The namespace -/

/-- A reconcile in flight, with what it has read and what is left to do. -/
inductive Reconcile where
  | fetched (workflow : String) (tasks : List TaskSpec) (body : WorkflowStatus)
  | planned (workflow : String) (body : WorkflowStatus) (plan : Plan)
      (pending : List TaskResource)

structure Cluster where
  tasks : Table String TaskResource
  status : String → WorkflowStatus
  inFlight : List Reconcile

def Cluster.items (c : Cluster) : List TaskResource := c.tasks.entries.map (·.2)

/-- The Task has reached `Succeeded`, `Failed` or `TimedOut`. -/
def TaskResource.ended (t : TaskResource) : Bool :=
  t.phase = some .succeeded || t.phase = some .failed || t.phase = some .timedOut

inductive Action where
  | fetch (workflow : String)
  | list (i : Nat)
  | create (i : Nat)
  | patch (i : Nat)
  | abort (i : Nat)
  | setPhase (task : String) (phase : TaskPhase) (result : Option String)

section Run

variable [Printable] (spec : String → Option (List TaskSpec)) (ns : String)

/-- One action; `spec` gives the Workflows of the namespace `ns`. -/
def Cluster.step (c : Cluster) : Action → Cluster
  | .fetch w =>
    match spec w with
    | some tasks => { c with inFlight := c.inFlight ++ [.fetched w tasks (c.status w)] }
    | none => c
  | .list i =>
    match c.inFlight[i]? with
    | some (.fetched w tasks body) =>
      match planWorkflow w ns tasks (listWorkflowTaskStates w c.items) body.tasks with
      | .ok plan => { c with inFlight := c.inFlight.set i (.planned w body plan plan.creates) }
      | .error _ => { c with inFlight := c.inFlight.eraseIdx i }
    | _ => c
  | .create i =>
    match c.inFlight[i]? with
    | some (.planned w body plan (t :: pending)) =>
      { c with
        tasks := (ensureWorkflowTask t c.tasks).2
        inFlight := c.inFlight.set i (.planned w body plan pending) }
    | _ => c
  | .patch i =>
    match c.inFlight[i]? with
    | some (.planned w body plan []) =>
      { c with
        status := match patchWorkflowStatus body plan with
          | some patch => Function.update c.status w (patch.apply (c.status w))
          | none => c.status
        inFlight := c.inFlight.eraseIdx i }
    | _ => c
  | .abort i => { c with inFlight := c.inFlight.eraseIdx i }
  | .setPhase name phase result =>
    match c.tasks.lookup name with
    | some t =>
      if t.ended then c
      else { c with tasks := c.tasks.insert name { t with phase := some phase, result := result } }
    | none => c

def Cluster.run (c : Cluster) (actions : List Action) : Cluster :=
  actions.foldl (Cluster.step spec ns) c

end Run

def Cluster.attempted (c : Cluster) : Action → Option TaskResource
  | .create i =>
    match c.inFlight[i]? with
    | some (.planned _ _ _ (t :: _)) => some t
    | _ => none
  | _ => none

/-- The Task an action creates: a create that meets a conflict makes none. -/
def Cluster.created (c : Cluster) (a : Action) : Option TaskResource :=
  (c.attempted a).filter fun t => (ensureWorkflowTask t c.tasks).1

/-- The Tasks created along a run. -/
def Cluster.createdIn [Printable] (spec : String → Option (List TaskSpec)) (ns : String)
    (c : Cluster) : List Action → List TaskResource
  | [] => []
  | a :: actions => (c.created a).toList ++ (c.step spec ns a).createdIn spec ns actions

/-- `t` is the Task of node `n` of Workflow `w`: it carries both labels. -/
def Cluster.TaskOf (c : Cluster) (w n : String) (t : TaskResource) : Prop :=
  ∃ k, c.tasks.lookup k = some t ∧ t.workflow = some w ∧ t.workflowTask = some n

/-- Nothing has been reconciled yet: no Task belongs to a Workflow, no status
is recorded and nothing is in flight. -/
structure Cluster.Fresh (c : Cluster) : Prop where
  tasks : ∀ k t, c.tasks.lookup k = some t → t.workflow = none
  status : ∀ w, (c.status w).tasks = ∅
  inFlight : c.inFlight = []

/-! ### What is stable -/

/-- The Task as it was created. -/
def TaskResource.fresh (t : TaskResource) : TaskResource := { t with phase := none, result := none }

@[simp] theorem TaskResource.fresh_workflow (t : TaskResource) : t.fresh.workflow = t.workflow := rfl

@[simp] theorem TaskResource.fresh_workflowTask (t : TaskResource) :
    t.fresh.workflowTask = t.workflowTask := rfl

@[simp] theorem TaskResource.fresh_name (t : TaskResource) : t.fresh.name = t.name := rfl

/-- A Task keeps everything but its status, and that too once it has ended. -/
structure TaskResource.Later (t t' : TaskResource) : Prop where
  same : t'.fresh = t.fresh
  final : t.ended = true → t' = t

theorem TaskResource.Later.refl (t : TaskResource) : t.Later t := ⟨rfl, fun _ => rfl⟩

theorem TaskResource.Later.labels {t t' : TaskResource} (h : t.Later t') :
    t'.workflow = t.workflow ∧ t'.workflowTask = t.workflowTask ∧ t'.name = t.name := by
  rw [← t'.fresh_workflow, ← t'.fresh_workflowTask, ← t'.fresh_name, h.same]
  exact ⟨rfl, rfl, rfl⟩

/-- Tasks are never removed. -/
def Cluster.Extends (c c' : Cluster) : Prop :=
  ∀ k t, c.tasks.lookup k = some t → ∃ t', c'.tasks.lookup k = some t' ∧ t.Later t'

theorem Cluster.Extends.of_tasks {c c' : Cluster} (h : c'.tasks = c.tasks) : c.Extends c' :=
  fun _ t ht => ⟨t, h ▸ ht, .refl t⟩

section Stable

variable {c c' : Cluster} {w n : String}

/-- Creating a Task under a free name. -/
theorem ensureWorkflowTask_cases (t : TaskResource) (tasks : Table String TaskResource) :
    (∃ old, tasks.lookup t.name = some old ∧ ensureWorkflowTask t tasks = (false, tasks)) ∨
      (tasks.lookup t.name = none ∧
        ensureWorkflowTask t tasks = (true, tasks.insert t.name t)) := by
  unfold ensureWorkflowTask
  rcases tasks.lookup t.name with _ | old
  · exact .inr ⟨rfl, rfl⟩
  · exact .inl ⟨old, rfl, rfl⟩

/-- **Tasks stay.** -/
theorem Cluster.step_extends [Printable] (spec : String → Option (List TaskSpec)) (ns : String)
    (c : Cluster) (a : Action) : c.Extends (c.step spec ns a) := by
  cases a with
  | fetch w =>
    rw [Cluster.step]
    split <;> exact .of_tasks rfl
  | list i =>
    rw [Cluster.step]
    split
    · split <;> exact .of_tasks rfl
    · exact .of_tasks rfl
  | create i =>
    rw [Cluster.step]
    split
    · next w body plan t pending _ =>
      rcases ensureWorkflowTask_cases t c.tasks with ⟨old, -, e⟩ | ⟨hfree, e⟩
      · rw [e]
        exact .of_tasks rfl
      · rw [e]
        intro k t' ht'
        refine ⟨t', ?_, .refl t'⟩
        have hk : k ≠ t.name := by
          rintro rfl
          rw [hfree] at ht'
          cases ht'
        show (c.tasks.insert t.name t).lookup k = some t'
        rw [AList.lookup_insert_ne hk]
        exact ht'
    · exact .of_tasks rfl
  | patch i =>
    rw [Cluster.step]
    split <;> exact .of_tasks rfl
  | abort i => exact .of_tasks rfl
  | setPhase name phase result =>
    rw [Cluster.step]
    split
    · next t ht =>
      split
      · exact .of_tasks rfl
      · next hend =>
        intro k t' ht'
        by_cases hk : k = name
        · subst hk
          rw [ht] at ht'
          cases ht'
          exact ⟨_, AList.lookup_insert _, rfl, fun h => absurd h hend⟩
        · refine ⟨t', ?_, .refl t'⟩
          show (c.tasks.insert name _).lookup k = some t'
          rw [AList.lookup_insert_ne hk]
          exact ht'
    · exact .of_tasks rfl

theorem Cluster.Extends.trans {c c' c'' : Cluster} (h : c.Extends c') (h' : c'.Extends c'') :
    c.Extends c'' := by
  intro k t ht
  obtain ⟨t', ht', hl⟩ := h k t ht
  obtain ⟨t'', ht'', hl'⟩ := h' k t' ht'
  refine ⟨t'', ht'', hl'.same.trans hl.same, fun hend => ?_⟩
  have e := hl.final hend
  rw [hl'.final (e ▸ hend), e]

theorem Cluster.run_extends [Printable] (spec : String → Option (List TaskSpec)) (ns : String)
    (c : Cluster) (actions : List Action) : c.Extends (c.run spec ns actions) := by
  induction actions generalizing c with
  | nil => exact .of_tasks rfl
  | cons a actions ih => exact (c.step_extends spec ns a).trans (ih _)

theorem Cluster.TaskOf.extend {t : TaskResource} (h : c.TaskOf w n t) (he : c.Extends c') :
    ∃ t', c'.TaskOf w n t' ∧ t.Later t' := by
  obtain ⟨k, hk, hw, hn⟩ := h
  obtain ⟨t', ht', hlater⟩ := he k t hk
  obtain ⟨ew, en, -⟩ := hlater.labels
  exact ⟨t', ⟨k, ht', ew ▸ hw, en ▸ hn⟩, hlater⟩

theorem Cluster.TaskOf.ended {t : TaskResource} (h : c.TaskOf w n t) (he : c.Extends c')
    (hend : t.ended = true) : c'.TaskOf w n t := by
  obtain ⟨t', ht', hlater⟩ := h.extend he
  rw [hlater.final hend] at ht'
  exact ht'

end Stable

/-! ### Justified and doomed -/

section Facts

variable (spec : String → Option (List TaskSpec)) (ns : String)

/-- A node may have the Task `t`: it is a node of an accepted Workflow, the Task
of every dependency has succeeded, and `t` is the Task built for the node, its
prompt followed by the results of exactly its sources, in declared order. -/
def Justified (c : Cluster) (t : TaskResource) : Prop :=
  ∃ w tasks graph task results, spec w = some tasks ∧ buildWorkflowGraph tasks = .ok graph ∧
    task ∈ tasks ∧ (∀ d ∈ task.dependsOn, ∃ t', c.TaskOf w d t' ∧ t'.phase = some .succeeded) ∧
    results.map Prod.fst = task.sources ∧
    (∀ r ∈ results, ∃ t', c.TaskOf w r.1 t' ∧ t'.phase = some .succeeded ∧
      t'.result = some r.2) ∧
    t = buildWorkflowTask w ns
      { task with prompt := promptText task.prompt results, sources := [] }

/-- A node that can never run: some dependency has failed, or is doomed. -/
inductive Doomed (c : Cluster) (w : String) : String → Prop
  | failed {tasks : List TaskSpec} {task : TaskSpec} {d : String} {t : TaskResource}
      (hs : spec w = some tasks) (ht : task ∈ tasks) (hd : d ∈ task.dependsOn)
      (hd' : c.TaskOf w d t) (hp : t.phase = some .failed ∨ t.phase = some .timedOut) :
      Doomed c w task.name
  | blocked {tasks : List TaskSpec} {task : TaskSpec} {d : String} (hs : spec w = some tasks)
      (ht : task ∈ tasks) (hd : d ∈ task.dependsOn) (hd' : Doomed c w d) : Doomed c w task.name

variable {spec ns} {c c' : Cluster} {w n : String} {t : TaskResource}

theorem ended_of_phase (h : t.phase = some .succeeded ∨ t.phase = some .failed ∨
    t.phase = some .timedOut) : t.ended = true := by
  rcases h with h | h | h <;> simp [TaskResource.ended, h]

theorem Justified.extend (h : Justified spec ns c t) (he : c.Extends c') :
    Justified spec ns c' t := by
  obtain ⟨w, tasks, graph, task, results, hs, hg, ht, hdeps, hkeys, hres, e⟩ := h
  refine ⟨w, tasks, graph, task, results, hs, hg, ht, fun d hd => ?_, hkeys, fun r hr => ?_, e⟩
  · obtain ⟨t', ht', hp⟩ := hdeps d hd
    exact ⟨t', ht'.ended he (ended_of_phase (.inl hp)), hp⟩
  · obtain ⟨t', ht', hp, hv⟩ := hres r hr
    exact ⟨t', ht'.ended he (ended_of_phase (.inl hp)), hp, hv⟩

theorem Doomed.extend (h : Doomed spec c w n) (he : c.Extends c') : Doomed spec c' w n := by
  induction h with
  | failed hs ht hd hd' hp => exact .failed hs ht hd (hd'.ended he (ended_of_phase (.inr hp))) hp
  | blocked hs ht hd _ ih => exact .blocked hs ht hd ih

theorem Justified.labelled (h : Justified spec ns c t) :
    ∃ w n, t.workflow = some w ∧ t.workflowTask = some n ∧ t.name = taskResourceName w n := by
  obtain ⟨w, tasks, graph, task, results, -, -, -, -, -, -, rfl⟩ := h
  exact ⟨w, task.name, by simp, by simp, by simp⟩

end Facts

/-! ### The invariant -/

section Invariant

variable (spec : String → Option (List TaskSpec)) (ns : String)

/-- What a reconcile in flight carries is true of the cluster. -/
def Reconcile.Good (c : Cluster) : Reconcile → Prop
  | .fetched w tasks body =>
    spec w = some tasks ∧ ∀ n, recordedSkipped body.tasks n → Doomed spec c w n
  | .planned w _ plan pending =>
    (∀ t ∈ pending, Justified spec ns c t) ∧
      ∀ n, recordedSkipped plan.taskStatuses n → Doomed spec c w n

structure Cluster.Inv (c : Cluster) : Prop where
  tasks : ∀ k t, c.tasks.lookup k = some t → t.workflow ≠ none →
    k = t.name ∧ Justified spec ns c t.fresh
  status : ∀ w n, recordedSkipped (c.status w).tasks n → Doomed spec c w n
  inFlight : ∀ r ∈ c.inFlight, r.Good spec ns c

variable {spec ns} {c c' : Cluster} {w n : String} {t t' : TaskResource}

theorem Reconcile.Good.extend {r : Reconcile} (h : r.Good spec ns c) (he : c.Extends c') :
    r.Good spec ns c' := by
  cases r with
  | fetched w tasks body => exact ⟨h.1, fun n hn => (h.2 n hn).extend he⟩
  | planned w body plan pending =>
    exact ⟨fun t ht => (h.1 t ht).extend he, fun n hn => (h.2 n hn).extend he⟩

theorem Cluster.Inv.fresh (h : c.Fresh) : c.Inv spec ns where
  tasks k t ht hw := absurd (h.tasks k t ht) hw
  status w n hn := by
    obtain ⟨s, hs, -⟩ := hn
    rw [h.status w] at hs
    cases hs
  inFlight r hr := by
    rw [h.inFlight] at hr
    cases hr

/-- A Task stands under the name its labels give. -/
theorem Cluster.Inv.key (h : c.Inv spec ns) {k : String} (hk : c.tasks.lookup k = some t)
    (hw : t.workflow = some w) (hn : t.workflowTask = some n) : k = taskResourceName w n := by
  obtain ⟨rfl, hj⟩ := h.tasks k t hk (by rw [hw]; exact Option.some_ne_none w)
  obtain ⟨w', n', hw', hn', e⟩ := hj.labelled
  rw [t.fresh_workflow, hw] at hw'
  rw [t.fresh_workflowTask, hn] at hn'
  cases hw'
  cases hn'
  exact e

/-- A node has at most one Task. -/
theorem Cluster.Inv.unique (h : c.Inv spec ns) (ht : c.TaskOf w n t) (ht' : c.TaskOf w n t') :
    t = t' := by
  obtain ⟨k, hk, hw, hn⟩ := ht
  obtain ⟨k', hk', hw', hn'⟩ := ht'
  rw [h.key hk hw hn] at hk
  rw [h.key hk' hw' hn', hk] at hk'
  exact Option.some.inj hk'

/-- The Task of a node of an accepted Workflow: its dependencies have Tasks that
succeeded. -/
theorem Cluster.Inv.dependencies (h : c.Inv spec ns) (ht : c.TaskOf w n t) {tasks : List TaskSpec}
    (hs : spec w = some tasks) {task : TaskSpec} (hm : task ∈ tasks) (hname : task.name = n) :
    ∀ d ∈ task.dependsOn, ∃ t', c.TaskOf w d t' ∧ t'.phase = some .succeeded := by
  obtain ⟨k, hk, hw, hn⟩ := ht
  obtain ⟨-, w', tasks', graph, task', results, hs', hg, hm', hdeps, -, -, e⟩ :=
    h.tasks k t hk (by rw [hw]; exact Option.some_ne_none w)
  have hw' : t.fresh.workflow = some w' := by rw [e, buildWorkflowTask_workflow]
  have hn' : t.fresh.workflowTask = some task'.name := by rw [e, buildWorkflowTask_workflowTask]
  rw [t.fresh_workflow, hw] at hw'
  rw [t.fresh_workflowTask, hn] at hn'
  cases hw'
  rw [hs] at hs'
  cases hs'
  -- names are unique in an accepted Workflow
  have hacc := buildWorkflowGraph_ok hg
  have hnd : (tasks.map TaskSpec.name).Nodup := hacc.names ▸ hacc.nodup
  have hf := find_task hnd hm
  rw [hname, Option.some.inj hn', find_task hnd hm'] at hf
  cases hf
  exact hdeps

/-- **Doomed nodes have no Task.** -/
theorem Doomed.no_task (hd : Doomed spec c w n) (h : c.Inv spec ns) : ∀ t, ¬ c.TaskOf w n t := by
  induction hd with
  | failed hs ht hdep hd' hp =>
    intro t htask
    obtain ⟨t', ht', hsucc⟩ := h.dependencies htask hs ht rfl _ hdep
    rw [h.unique ht' hd'] at hsucc
    rcases hp with hp | hp <;> rw [hp] at hsucc <;> cases hsucc
  | blocked hs ht hdep _ ih =>
    intro t htask
    obtain ⟨t', ht', -⟩ := h.dependencies htask hs ht rfl _ hdep
    exact ih t' ht'

/-! ### Each action keeps it -/

theorem mem_items {item : TaskResource} (h : item ∈ c.items) :
    ∃ k, c.tasks.lookup k = some item := by
  obtain ⟨e, he, rfl⟩ := List.mem_map.mp h
  exact ⟨e.1, AList.mem_lookup_iff.mpr he⟩

/-- What a reconcile sees of a node is the Task of the node. -/
theorem listed_taskOf {s : TaskState}
    (h : (listWorkflowTaskStates w c.items).lookup n = some s) :
    ∃ t, c.TaskOf w n t ∧ t.state = s := by
  obtain ⟨t, hm, hw, hn, hs⟩ := listed_task h
  obtain ⟨k, hk⟩ := mem_items hm
  exact ⟨t, ⟨k, hk, hw, hn⟩, hs⟩

theorem phase_of_state {p : TaskPhase} (h : t.state.phase = p) (hp : p ≠ .pending) :
    t.phase = some p := by
  rw [TaskResource.state] at h
  rcases e : t.phase with _ | q
  · rw [e] at h
    exact absurd h.symm hp
  · rw [e] at h
    exact congrArg some h

/-- **A plan is true when it is made.** -/
theorem planned_good [Printable] {tasks : List TaskSpec} {body : WorkflowStatus} {plan : Plan}
    (h : (Reconcile.fetched w tasks body).Good spec ns c)
    (hp : planWorkflow w ns tasks (listWorkflowTaskStates w c.items) body.tasks = .ok plan) :
    (Reconcile.planned w body plan plan.creates).Good spec ns c := by
  obtain ⟨hs, hbody⟩ := h
  obtain ⟨graph, hg, -⟩ := bind_eq_ok.mp hp
  have hacc := buildWorkflowGraph_ok hg
  obtain ⟨order, plan', -, hp', hd⟩ :=
    planWorkflow_spec w ns hg (listWorkflowTaskStates w c.items) body.tasks
  rw [hp] at hp'
  cases hp'
  have hsucc : ∀ d, effectivePhases graph order (listWorkflowTaskStates w c.items) body.tasks d
      = some (.task .succeeded) → ∃ t, c.TaskOf w d t ∧ t.phase = some .succeeded ∧
        (listWorkflowTaskStates w c.items).lookup d = some t.state := by
    intro d hd
    obtain ⟨s, hs, hph⟩ := effective_task hd
    obtain ⟨t, ht, rfl⟩ := listed_taskOf hs
    exact ⟨t, ht, phase_of_state hph (by decide), hs⟩
  constructor
  · intro t ht
    obtain ⟨task, hm, -, hdeps, results, hres, rfl⟩ := (mem_creates hacc hd).mp ht
    obtain ⟨hkeys, hvals⟩ := taskResults_eq_some.mp hres
    refine ⟨w, tasks, graph, task, results, hs, hg, hm, fun d hdm => ?_, hkeys, fun r hr => ?_, rfl⟩
    · obtain ⟨t', ht', hph, -⟩ := hsucc d (hdeps d hdm)
      exact ⟨t', ht', hph⟩
    · -- a source is a dependency
      have hsrc : r.1 ∈ task.sources := hkeys ▸ List.mem_map_of_mem hr
      obtain ⟨t', ht', hph, hl⟩ := hsucc r.1 (hdeps r.1 ((hacc.sources task hm).2 r.1 hsrc))
      have hv := hvals r hr
      rw [sourceResult, hl] at hv
      exact ⟨t', ht', hph, hv⟩
  · intro n hn
    obtain ⟨st, hl, hst⟩ := hn
    have hph := hd.statuses n st hl
    rw [hst, Option.some.injEq] at hph
    have heff : effectivePhases graph order (listWorkflowTaskStates w c.items) body.tasks n
        = some .skipped := by
      rcases e : effectivePhases graph order (listWorkflowTaskStates w c.items) body.tasks n
        with _ | p
      · rw [e] at hph
        cases hph
      · rw [e] at hph
        exact congrArg some hph.symm
    refine effective_skipped_induction hbody (fun n d hdm s hl hfail => ?_) (fun n d hdm hdoom => ?_)
      heff
    · obtain ⟨task, hm, rfl, hdep⟩ := hacc.edges n d hdm
      obtain ⟨t, ht, rfl⟩ := listed_taskOf hl
      exact .failed hs hm hdep ht (hfail.imp (phase_of_state · (by decide))
        (phase_of_state · (by decide)))
    · obtain ⟨task, hm, rfl, hdep⟩ := hacc.edges n d hdm
      exact .blocked hs hm hdep hdoom

/-- A skip that is recorded after a patch comes from the patch or was recorded. -/
theorem recordedSkipped_merge {entries : List (String × Option NodeStatus)}
    {tasks : Table String NodeStatus} (h : recordedSkipped (entries.foldl mergeTask tasks) n) :
    (∃ st, (n, some st) ∈ entries ∧ st.phase = some .skipped) ∨ recordedSkipped tasks n := by
  induction entries using List.reverseRecOn with
  | nil => exact .inr h
  | append_singleton entries e ih =>
    rw [List.foldl_append, List.foldl_cons, List.foldl_nil] at h
    obtain ⟨name, entry⟩ := e
    have hold : recordedSkipped (entries.foldl mergeTask tasks) n →
        (∃ st, (n, some st) ∈ entries ++ [(name, entry)] ∧ st.phase = some .skipped) ∨
          recordedSkipped tasks n := fun h =>
      (ih h).imp_left fun ⟨st, hm, hp⟩ => ⟨st, List.mem_append_left _ hm, hp⟩
    obtain ⟨st, hl, hp⟩ := h
    by_cases hn : n = name
    · subst hn
      cases entry with
      | none =>
        rw [mergeTask, AList.lookup_erase] at hl
        cases hl
      | some new =>
        rw [mergeTask, AList.lookup_insert] at hl
        cases hl
        -- the patch names the phase, or keeps the old one
        by_cases hnew : new.phase = some .skipped
        · exact .inl ⟨new, List.mem_append_right _ List.mem_cons_self, hnew⟩
        · rcases hold' : (entries.foldl mergeTask tasks).lookup n with _ | old
          · rw [hold'] at hp
            exact absurd hp hnew
          · rw [hold'] at hp
            refine hold ⟨old, hold', ?_⟩
            simp only [Option.map_some, Option.getD_some, NodeStatus.merge] at hp
            rcases e : new.phase with _ | p
            · rw [e] at hp
              exact hp
            · rw [e] at hp
              exact absurd (e.trans hp) hnew
    · have hl' : (entries.foldl mergeTask tasks).lookup n = some st := by
        cases entry with
        | none =>
          rw [mergeTask, AList.lookup_erase_ne hn] at hl
          exact hl
        | some new =>
          rw [mergeTask, AList.lookup_insert_ne hn] at hl
          exact hl
      exact hold ⟨st, hl', hp⟩

theorem recordedSkipped_patch {body status : WorkflowStatus} {plan : Plan} {patch : StatusPatch}
    (hp : patchWorkflowStatus body plan = some patch)
    (h : recordedSkipped (patch.apply status).tasks n) :
    recordedSkipped plan.taskStatuses n ∨ recordedSkipped status.tasks n := by
  rw [patchWorkflowStatus] at hp
  split at hp
  · cases hp
  · cases hp
    refine (recordedSkipped_merge h).imp_left ?_
    rintro ⟨st, hm, hst⟩
    rcases List.mem_append.mp hm with hm | hm
    · obtain ⟨e, he, heq⟩ := List.mem_map.mp hm
      cases heq
      exact ⟨e.2, AList.mem_lookup_iff.mpr he, hst⟩
    · obtain ⟨k, -, heq⟩ := List.mem_map.mp hm
      cases heq

theorem good_of_set {l : List Reconcile} {i : Nat} {r : Reconcile}
    (h : ∀ r ∈ l, r.Good spec ns c) (hr : r.Good spec ns c) :
    ∀ r' ∈ l.set i r, r'.Good spec ns c := by
  intro r' hr'
  rcases List.mem_or_eq_of_mem_set hr' with hm | rfl
  · exact h r' hm
  · exact hr

theorem good_of_eraseIdx {l : List Reconcile} {i : Nat} (h : ∀ r ∈ l, r.Good spec ns c) :
    ∀ r ∈ l.eraseIdx i, r.Good spec ns c :=
  fun r hr => h r (List.mem_of_mem_eraseIdx hr)

/-- **Where the Tasks after an action come from.** -/
theorem Cluster.step_lookup [Printable] {a : Action} {k : String}
    (h : (c.step spec ns a).tasks.lookup k = some t) :
    (∃ t₀, c.tasks.lookup k = some t₀ ∧ t₀.Later t) ∨ (c.created a = some t ∧ k = t.name) := by
  have old : c.tasks.lookup k = some t →
      (∃ t₀, c.tasks.lookup k = some t₀ ∧ t₀.Later t) ∨ (c.created a = some t ∧ k = t.name) :=
    fun h => .inl ⟨t, h, .refl t⟩
  cases a with
  | fetch w =>
    rw [Cluster.step] at h
    split at h <;> exact old h
  | list i =>
    rw [Cluster.step] at h
    split at h
    · split at h <;> exact old h
    · exact old h
  | create i =>
    rw [Cluster.step] at h
    split at h
    · next w body plan t' pending hi =>
      rcases ensureWorkflowTask_cases t' c.tasks with ⟨_, -, e⟩ | ⟨-, e⟩
      · simp only [e] at h
        exact old h
      · simp only [e] at h
        rcases Table.lookup_insert_cases h with ⟨rfl, rfl⟩ | ⟨-, h⟩
        · refine .inr ⟨Option.filter_eq_some_iff.mpr ⟨?_, by rw [e]⟩, rfl⟩
          simp only [Cluster.attempted, hi]
        · exact old h
    · exact old h
  | patch i =>
    rw [Cluster.step] at h
    split at h <;> exact old h
  | abort i => exact old h
  | setPhase name phase result =>
    rw [Cluster.step] at h
    split at h
    · next t₀ ht₀ =>
      split at h
      · exact old h
      · next hend =>
        rcases Table.lookup_insert_cases h with ⟨rfl, rfl⟩ | ⟨-, h⟩
        · exact .inl ⟨t₀, ht₀, rfl, fun h => absurd h hend⟩
        · exact old h
    · exact old h

/-- An attempt leaves the Tasks as `ensureWorkflowTask` does. -/
theorem Cluster.step_attempted [Printable] {a : Action} (ha : c.attempted a = some t) :
    (c.step spec ns a).tasks = (ensureWorkflowTask t c.tasks).2 := by
  cases a with
  | create i =>
    rw [Cluster.attempted] at ha
    split at ha
    · next hi =>
      cases ha
      simp only [Cluster.step, hi]
    · cases ha
  | _ => cases ha

/-- Only what is pending is attempted. -/
theorem Cluster.Inv.attempted (h : c.Inv spec ns) {a : Action} (ha : c.attempted a = some t) :
    Justified spec ns c t := by
  cases a with
  | create i =>
    rw [Cluster.attempted] at ha
    split at ha
    · next w body plan t' pending hi =>
      cases ha
      exact (h.inFlight _ (List.mem_of_getElem? hi)).1 t List.mem_cons_self
    · cases ha
  | _ => cases ha

theorem Justified.fresh_eq (h : Justified spec ns c t) : t.fresh = t := by
  obtain ⟨w, tasks, graph, task, results, -, -, -, -, -, -, rfl⟩ := h
  rfl

/-- A skip recorded after an action was recorded or planned before. -/
theorem Cluster.Inv.step_status [Printable] (h : c.Inv spec ns) (a : Action) :
    ∀ w n, recordedSkipped ((c.step spec ns a).status w).tasks n → Doomed spec c w n := by
  intro w' n hn
  cases a with
  | fetch w =>
    rw [Cluster.step] at hn
    split at hn <;> exact h.status w' n hn
  | list i =>
    rw [Cluster.step] at hn
    split at hn
    · split at hn <;> exact h.status w' n hn
    · exact h.status w' n hn
  | create i =>
    rw [Cluster.step] at hn
    split at hn <;> exact h.status w' n hn
  | patch i =>
    rw [Cluster.step] at hn
    split at hn
    · next w body plan hi =>
      obtain ⟨-, hplan⟩ := h.inFlight _ (List.mem_of_getElem? hi)
      rcases hp : patchWorkflowStatus body plan with _ | patch
      · rw [hp] at hn
        exact h.status w' n hn
      · rw [hp] at hn
        by_cases hw : w' = w
        · subst hw
          simp only [Function.update_self] at hn
          exact (recordedSkipped_patch hp hn).elim (hplan n) (h.status w' n)
        · simp only [Function.update_of_ne hw] at hn
          exact h.status w' n hn
    · exact h.status w' n hn
  | abort i => exact h.status w' n hn
  | setPhase name phase result =>
    rw [Cluster.step] at hn
    split at hn
    · split at hn <;> exact h.status w' n hn
    · exact h.status w' n hn

/-- What is in flight after an action is true of the cluster before it. -/
theorem Cluster.Inv.step_inFlight [Printable] (h : c.Inv spec ns) (a : Action) :
    ∀ r ∈ (c.step spec ns a).inFlight, r.Good spec ns c := by
  cases a with
  | fetch w =>
    rw [Cluster.step]
    split
    · next tasks hs =>
      intro r hr
      rcases List.mem_append.mp hr with hr | hr
      · exact h.inFlight r hr
      · rw [List.mem_singleton.mp hr]
        exact ⟨hs, h.status w⟩
    · exact h.inFlight
  | list i =>
    rw [Cluster.step]
    split
    · next w tasks body hi =>
      have hgood := h.inFlight _ (List.mem_of_getElem? hi)
      split
      · next plan hp => exact good_of_set h.inFlight (planned_good hgood hp)
      · exact good_of_eraseIdx h.inFlight
    · exact h.inFlight
  | create i =>
    rw [Cluster.step]
    split
    · next w body plan t pending hi =>
      obtain ⟨hpend, hplan⟩ := h.inFlight _ (List.mem_of_getElem? hi)
      exact good_of_set h.inFlight ⟨fun t' ht' => hpend t' (List.mem_cons_of_mem _ ht'), hplan⟩
    · exact h.inFlight
  | patch i =>
    rw [Cluster.step]
    split
    · exact good_of_eraseIdx h.inFlight
    · exact h.inFlight
  | abort i => exact good_of_eraseIdx h.inFlight
  | setPhase name phase result =>
    rw [Cluster.step]
    split
    · split <;> exact h.inFlight
    · exact h.inFlight

/-- **Every action keeps the invariant.** -/
theorem Cluster.Inv.step [Printable] (h : c.Inv spec ns) (a : Action) :
    (c.step spec ns a).Inv spec ns := by
  have he := c.step_extends spec ns a
  refine ⟨fun k t hk hw => ?_, fun w n hn => (h.step_status a w n hn).extend he,
    fun r hr => (h.step_inFlight a r hr).extend he⟩
  rcases Cluster.step_lookup hk with ⟨t₀, hk₀, hlater⟩ | ⟨hc, rfl⟩
  · obtain ⟨ew, -, en⟩ := hlater.labels
    obtain ⟨rfl, hj⟩ := h.tasks k t₀ hk₀ (ew ▸ hw)
    rw [hlater.same]
    exact ⟨en.symm, hj.extend he⟩
  · have hj := h.attempted (Option.filter_eq_some_iff.mp hc).1
    rw [hj.fresh_eq]
    exact ⟨rfl, hj.extend he⟩

theorem Cluster.Inv.run [Printable] (h : c.Inv spec ns) (actions : List Action) :
    (c.run spec ns actions).Inv spec ns := by
  induction actions generalizing c with
  | nil => exact h
  | cons a actions ih => exact ih (h.step a)

end Invariant

/-! ### Whole runs -/

section Safety

variable [Printable] {spec : String → Option (List TaskSpec)} {ns : String} {c : Cluster}

/-- A Task is created under a free name, and justified. -/
theorem Cluster.Inv.created (h : c.Inv spec ns) {a : Action} {t : TaskResource}
    (ht : c.created a = some t) :
    Justified spec ns c t ∧ c.tasks.lookup t.name = none ∧
      (c.step spec ns a).tasks.lookup t.name = some t := by
  obtain ⟨hatt, hnew⟩ := Option.filter_eq_some_iff.mp ht
  refine ⟨h.attempted hatt, ?_⟩
  rcases ensureWorkflowTask_cases t c.tasks with ⟨old, -, e⟩ | ⟨hfree, e⟩
  · rw [e] at hnew
    cases hnew
  · refine ⟨hfree, ?_⟩
    rw [Cluster.step_attempted hatt, e]
    exact AList.lookup_insert _

theorem Cluster.step_keeps (spec : String → Option (List TaskSpec)) (ns : String) {k : String}
    (a : Action) (h : (c.tasks.lookup k).isSome = true) :
    ((c.step spec ns a).tasks.lookup k).isSome = true := by
  obtain ⟨t, ht⟩ := Option.isSome_iff_exists.mp h
  obtain ⟨t', ht', -⟩ := c.step_extends spec ns a k t ht
  rw [ht']
  rfl

/-- Along a run every name is taken at most once, and every node with it. -/
theorem Cluster.Inv.createdIn (h : c.Inv spec ns) (actions : List Action) :
    (∀ t ∈ c.createdIn spec ns actions, c.tasks.lookup t.name = none) ∧
      (∀ t ∈ c.createdIn spec ns actions, ∃ w n, t.workflow = some w ∧ t.workflowTask = some n ∧
        t.name = taskResourceName w n) ∧
      ((c.createdIn spec ns actions).map TaskResource.name).Nodup := by
  induction actions generalizing c with
  | nil => simp [Cluster.createdIn]
  | cons a actions ih =>
    obtain ⟨hfree, hlab, hnd⟩ := ih (h.step a)
    have hfree' : ∀ t ∈ (c.step spec ns a).createdIn spec ns actions,
        c.tasks.lookup t.name = none := by
      intro t ht
      by_contra hne
      have := Cluster.step_keeps spec ns a (Option.isSome_iff_ne_none.mpr hne)
      rw [hfree t ht] at this
      cases this
    rw [Cluster.createdIn]
    rcases hc : c.created a with _ | t
    · exact ⟨hfree', hlab, hnd⟩
    · obtain ⟨hj, hnone, hsome⟩ := h.created hc
      refine ⟨?_, ?_, ?_⟩
      · rintro t' ht'
        rcases List.mem_append.mp ht' with ht' | ht'
        · cases List.mem_singleton.mp ht'
          exact hnone
        · exact hfree' t' ht'
      · rintro t' ht'
        rcases List.mem_append.mp ht' with ht' | ht'
        · cases List.mem_singleton.mp ht'
          exact hj.labelled
        · exact hlab t' ht'
      · refine List.nodup_cons.mpr ⟨fun hm => ?_, hnd⟩
        obtain ⟨t', ht', e⟩ := List.mem_map.mp hm
        have := hfree t' ht'
        rw [e, hsome] at this
        cases this

/-- **Workflow scheduling is safe.** In every run of reconciles of any
Workflows, overlapping in any way, and of phase changes of their Tasks:

* a Task is created for a node only when the Task of every dependency has
  succeeded, and its prompt holds the results of exactly its sources, in
  declared order;
* at most one create succeeds for a node;
* a node that is ever recorded as skipped never has a Task. -/
theorem workflow_scheduling_safety (spec : String → Option (List TaskSpec)) (ns : String)
    (c₀ : Cluster) (h₀ : c₀.Fresh) (actions : List Action) :
    (∀ a t, (c₀.run spec ns actions).created a = some t →
      Justified spec ns (c₀.run spec ns actions) t) ∧
    ((c₀.createdIn spec ns actions).map fun t => (t.workflow, t.workflowTask)).Nodup ∧
    (∀ w n, recordedSkipped ((c₀.run spec ns actions).status w).tasks n → ∀ later t,
      ¬ ((c₀.run spec ns actions).run spec ns later).TaskOf w n t) := by
  have hfresh : c₀.Inv spec ns := .fresh h₀
  have hinv := hfresh.run actions
  refine ⟨fun a t ht => (hinv.created ht).1, ?_, fun w n hn later t ht => ?_⟩
  · -- Tasks of one node have one name
    obtain ⟨-, hlab, hnd⟩ := hfresh.createdIn actions
    refine List.Nodup.of_map (fun p => taskResourceName (p.1.getD "") (p.2.getD "")) ?_
    rw [List.map_map]
    convert hnd using 1
    refine List.map_congr_left fun t ht => ?_
    obtain ⟨w, n, hw, hn, e⟩ := hlab t ht
    rw [e, Function.comp_apply, hw, hn]
    rfl
  · have hext := (c₀.run spec ns actions).run_extends spec ns later
    exact ((hinv.status w n hn).extend hext).no_task (hinv.run later) t ht

end Safety

namespace Sample

/-- A namespace in which nothing has happened yet. -/
def emptyNamespace : Cluster := ⟨∅, fun _ => .empty, []⟩

theorem emptyNamespace_fresh : emptyNamespace.Fresh where
  tasks _ _ h := by cases h
  status _ := rfl
  inFlight := rfl

/-- The only Workflow is `report`. -/
def workflows (w : String) : Option (List TaskSpec) := if w = "report" then some report else none

/-- Two overlapping reconciles, the end of the first Task, and a third reconcile. -/
def actions : List Action :=
  [.fetch "report", .fetch "report", .list 0, .list 1, .create 0, .create 1, .patch 0, .patch 0,
    .setPhase "report-research" .succeeded (some "notes"), .fetch "report", .list 0]

end Sample

open Sample in
/-- The overlapping reconciles create one Task; the next one may create the
second, with the result of the first. -/
theorem workflow_scheduling_safety_sample :
    ∃ t, (emptyNamespace.run workflows "default" actions).created (.create 0) = some t ∧
      Justified workflows "default" (emptyNamespace.run workflows "default" actions) t ∧
      t.prompt = "Write it up\n\nPrevious task results:\n\n[research]\nnotes" := by
  have hprompt : ((emptyNamespace.run workflows "default" actions).created (.create 0)).map
      TaskResource.prompt = some "Write it up\n\nPrevious task results:\n\n[research]\nnotes" := by
    decide +kernel
  obtain ⟨t, ht, hp⟩ := Option.map_eq_some_iff.mp hprompt
  exact ⟨t, ht, (workflow_scheduling_safety workflows "default" emptyNamespace emptyNamespace_fresh
    actions).1 _ t ht, hp⟩

end AgentPlatform
