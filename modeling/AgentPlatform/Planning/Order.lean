/-
AgentPlatform/Planning/Order.lean

`_ordered_tasks`: the order in which the tasks of a plan are listed.

It is Kahn's algorithm with the ready tasks sorted by ordinal and id, so an
instance of `Kahn.runBy`. The order depends on the set of tasks only
(`orderedTasks_perm`). It is the least of all orders in which tasks come after those
they depend on, and there is one unless tasks depend on each other in a circle
(`ordered_least`).
-/
import AgentPlatform.Order.Acyclic
import AgentPlatform.Order.PriorityKahn
import AgentPlatform.Planning.Contract

namespace AgentPlatform
namespace Planning

/-! ### The sort key -/

/-- `(item.canonical_ordinal, item.future_task_id)`, compared. -/
def before (ordinal : String → Nat) (a b : String) : Prop :=
  ordinal a < ordinal b ∨ ordinal a = ordinal b ∧ a ≤ b

instance (ordinal : String → Nat) : DecidableRel (before ordinal) := fun _ _ =>
  inferInstanceAs (Decidable (_ ∨ _))

instance (ordinal : String → Nat) : Std.Total (before ordinal) where
  total a b := by
    rcases lt_trichotomy (ordinal a) (ordinal b) with h | h | h
    · exact .inl (.inl h)
    · rcases le_total a b with hab | hba
      · exact .inl (.inr ⟨h, hab⟩)
      · exact .inr (.inr ⟨h.symm, hba⟩)
    · exact .inr (.inl h)

instance (ordinal : String → Nat) : IsTrans String (before ordinal) where
  trans a b c := by
    rintro (hab | ⟨hab, hle⟩) (hbc | ⟨hbc, hle'⟩)
    · exact .inl (hab.trans hbc)
    · exact .inl (hbc ▸ hab)
    · exact .inl (hab ▸ hbc)
    · exact .inr ⟨hab.trans hbc, hle.trans hle'⟩

instance (ordinal : String → Nat) : Std.Antisymm (before ordinal) where
  antisymm a b := by
    rintro (hab | ⟨hab, hle⟩) (hba | ⟨hba, hle'⟩)
    · exact absurd hab (lt_asymm hba)
    · exact absurd hab (by rw [hba]; exact lt_irrefl _)
    · exact absurd hba (by rw [hab]; exact lt_irrefl _)
    · exact le_antisymm hle hle'

/-! ### The order -/

/-- `by_id.get(id)`. -/
def byId (tasks : List TaskRequirement) (id : String) : Option TaskRequirement :=
  tasks.find? fun t => t.futureTaskId = id

def ordinalOf (tasks : List TaskRequirement) (id : String) : Nat :=
  ((byId tasks id).map TaskRequirement.canonicalOrdinal).getD 0

def dependenciesOf (tasks : List TaskRequirement) (id : String) : List String :=
  ((byId tasks id).map TaskRequirement.dependencies).getD []

def orderedTasks (tasks : List TaskRequirement) : Except String (List String) :=
  let ordered := (Kahn.runBy (before (ordinalOf tasks)) (tasks.map TaskRequirement.futureTaskId)
    (dependenciesOf tasks)).ordered
  if ordered.length ≠ tasks.length then .error "DEPENDENCY_CYCLE" else .ok ordered

section Distinct

variable {tasks tasks' : List TaskRequirement}

theorem byId_eq_some (hn : (tasks.map TaskRequirement.futureTaskId).Nodup) {id : String}
    {t : TaskRequirement} : byId tasks id = some t ↔ t ∈ tasks ∧ t.futureTaskId = id := by
  constructor
  · intro h
    exact ⟨List.mem_of_find?_eq_some h, by simpa using List.find?_some h⟩
  · rintro ⟨ht, rfl⟩
    obtain ⟨u, hu⟩ : ∃ u, byId tasks t.futureTaskId = some u := by
      rw [← Option.isSome_iff_exists, byId, List.find?_isSome]
      exact ⟨t, ht, by simp⟩
    have hid : u.futureTaskId = t.futureTaskId := by simpa using List.find?_some hu
    rw [hu, List.inj_on_of_nodup_map hn (List.mem_of_find?_eq_some hu) ht hid]

theorem byId_perm (hn : (tasks.map TaskRequirement.futureTaskId).Nodup) (h : tasks.Perm tasks') :
    byId tasks = byId tasks' := by
  have hn' : (tasks'.map TaskRequirement.futureTaskId).Nodup := (h.map _).nodup_iff.mp hn
  funext id
  ext t
  rw [byId_eq_some hn, byId_eq_some hn', h.mem_iff]

/-- **The order does not depend on how the tasks are listed.** -/
theorem orderedTasks_perm (hn : (tasks.map TaskRequirement.futureTaskId).Nodup)
    (h : tasks.Perm tasks') : orderedTasks tasks = orderedTasks tasks' := by
  have hid := byId_perm hn h
  have hord : ordinalOf tasks = ordinalOf tasks' := by
    funext id
    rw [ordinalOf, ordinalOf, hid]
  have hdeps : dependenciesOf tasks = dependenciesOf tasks' := by
    funext id
    rw [dependenciesOf, dependenciesOf, hid]
  simp only [orderedTasks, hord, hdeps, Kahn.runBy_perm _ (h.map TaskRequirement.futureTaskId),
    h.length_eq]

/-- The loop ends because no task is ready, and each task is listed once. -/
theorem orderedTasks_spec (hn : (tasks.map TaskRequirement.futureTaskId).Nodup) {ids : List String}
    (h : orderedTasks tasks = .ok ids) :
    ids.Perm (tasks.map TaskRequirement.futureTaskId) ∧
      Kahn.Ordered (dependenciesOf tasks) ids ∧
      (Kahn.runBy (before (ordinalOf tasks)) (tasks.map TaskRequirement.futureTaskId)
        (dependenciesOf tasks)).ready = [] := by
  simp only [orderedTasks, Py.ite_error_eq_ok', not_not, Except.ok.injEq] at h
  obtain ⟨hl, rfl⟩ := h
  exact ⟨Kahn.runBy_perm_names _ hn (by rw [hl, List.length_map]), (Kahn.runBy_inv _ hn).ordered,
    Kahn.runBy_ready _ hn⟩

/-! ### The least order -/

/-- The task `a` names `b` among its dependencies. -/
def Requires (tasks : List TaskRequirement) (a b : String) : Prop :=
  ∃ t ∈ tasks, t.futureTaskId = a ∧ b ∈ t.dependencies

theorem mem_dependenciesOf_iff (hn : (tasks.map TaskRequirement.futureTaskId).Nodup) {a b : String} :
    b ∈ dependenciesOf tasks a ↔ Requires tasks a b := by
  rw [dependenciesOf]
  constructor
  · intro h
    rcases hid : byId tasks a with - | t
    · rw [hid] at h
      cases h
    · rw [hid] at h
      obtain ⟨ht, rfl⟩ := (byId_eq_some hn).mp hid
      exact ⟨t, ht, rfl, h⟩
  · rintro ⟨t, ht, rfl, hb⟩
    rw [(byId_eq_some hn).mpr ⟨ht, rfl⟩]
    exact hb

/-- A list of ids in which each task comes after those it depends on. -/
def Respects (tasks : List TaskRequirement) (ids : List String) : Prop :=
  ∀ l₁ a l₂, ids = l₁ ++ a :: l₂ → ∀ b, Requires tasks a b → b ∈ l₁

theorem respects_iff (hn : (tasks.map TaskRequirement.futureTaskId).Nodup) {ids : List String} :
    Respects tasks ids ↔ Kahn.Ordered (dependenciesOf tasks) ids :=
  forall₄_congr fun _ _ _ _ => forall_congr' fun _ => imp_congr_left (mem_dependenciesOf_iff hn).symm

/-- At each position stands the available task with the least ordinal and id. -/
def PicksLeast (tasks : List TaskRequirement) (ids : List String) : Prop :=
  ∀ l₁ a l₂, ids = l₁ ++ a :: l₂ → ∀ t ∈ tasks, t.futureTaskId ∉ l₁ → (∀ d ∈ t.dependencies, d ∈ l₁) →
    before (ordinalOf tasks) a t.futureTaskId

/-- **The tasks are listed in the least order.** Where ids are distinct and dependencies
are tasks of the list, the loop comes to its end, and there is an order exactly if no
task depends on itself. It lists each task once, after all that it depends on, and at
each position the least task that could stand there; so in any other such list the first
difference is a greater task. -/
theorem ordered_least (hn : (tasks.map TaskRequirement.futureTaskId).Nodup)
    (hknown : ∀ t ∈ tasks, ∀ d ∈ t.dependencies, d ∈ tasks.map TaskRequirement.futureTaskId) :
    (Kahn.runBy (before (ordinalOf tasks)) (tasks.map TaskRequirement.futureTaskId)
      (dependenciesOf tasks)).ready = [] ∧
    (∀ ids, orderedTasks tasks = .ok ids →
      ids.Perm (tasks.map TaskRequirement.futureTaskId) ∧ Respects tasks ids ∧ PicksLeast tasks ids ∧
      ∀ ids', ids'.Perm (tasks.map TaskRequirement.futureTaskId) → Respects tasks ids' →
        ids' = ids ∨ ∃ p a b r r', ids = p ++ a :: r ∧ ids' = p ++ b :: r' ∧ a ≠ b ∧
          before (ordinalOf tasks) a b) ∧
    ((∃ ids, orderedTasks tasks = .ok ids) ↔ ∀ a, ¬ Relation.TransGen (Requires tasks) a a) ∧
    (orderedTasks tasks = .error "DEPENDENCY_CYCLE" ↔ ∃ a, Relation.TransGen (Requires tasks) a a) := by
  have hclosed : ∀ a ∈ tasks.map TaskRequirement.futureTaskId, ∀ b ∈ dependenciesOf tasks a,
      b ∈ tasks.map TaskRequirement.futureTaskId := by
    intro a _ b hb
    obtain ⟨t, ht, -, hd⟩ := (mem_dependenciesOf_iff hn).mp hb
    exact hknown t ht b hd
  have hacyclic : Kahn.Acyclic (tasks.map TaskRequirement.futureTaskId) (dependenciesOf tasks) ↔
      ∀ a, ¬ Relation.TransGen (Requires tasks) a a := by
    have hsame : (fun a b => b ∈ dependenciesOf tasks a) = Requires tasks := by
      funext a b
      exact propext (mem_dependenciesOf_iff hn)
    rw [Kahn.Acyclic, hsame]
    refine ⟨fun hall a hcycle => ?_, fun hall a _ => hall a⟩
    obtain ⟨b, ⟨t, ht, rfl, -⟩, -⟩ := Relation.TransGen.head'_iff.mp hcycle
    exact hall t.futureTaskId (List.mem_map_of_mem ht) hcycle
  have hcomplete := Kahn.runBy_complete_iff (before (ordinalOf tasks)) hn hclosed
  rw [hacyclic, List.length_map] at hcomplete
  have hgreedy : Kahn.Greedy (before (ordinalOf tasks)) (tasks.map TaskRequirement.futureTaskId)
      (dependenciesOf tasks) (Kahn.runBy (before (ordinalOf tasks))
        (tasks.map TaskRequirement.futureTaskId) (dependenciesOf tasks)).ordered :=
    Kahn.runBy_greedy _ hn
  refine ⟨Kahn.runBy_ready _ hn, fun ids hids => ?_, ?_, ?_⟩
  · obtain ⟨hperm, hordered, -⟩ := orderedTasks_spec hn hids
    simp only [orderedTasks, Py.ite_error_eq_ok', not_not, Except.ok.injEq] at hids
    rw [hids.2] at hgreedy
    refine ⟨hperm, (respects_iff hn).mpr hordered, fun l₁ a l₂ he t ht hnew havailable => ?_,
      fun ids' hperm' hrespects => hgreedy.least hperm hperm' hn ((respects_iff hn).mp hrespects)⟩
    refine hgreedy l₁ a l₂ he _ (List.mem_map_of_mem ht) hnew fun d hd => ?_
    obtain ⟨u, hu, hid, hdep⟩ := (mem_dependenciesOf_iff hn).mp hd
    rw [List.inj_on_of_nodup_map hn hu ht hid] at hdep
    exact havailable d hdep
  · rw [← hcomplete, orderedTasks]
    constructor
    · rintro ⟨ids, hids⟩
      rw [Py.ite_error_eq_ok', not_not] at hids
      exact hids.1
    · intro hlength
      exact ⟨_, if_neg (not_not.mpr hlength)⟩
  · rw [← not_iff_not, not_exists, ← hcomplete, orderedTasks]
    split
    · next h => simpa using h
    · next h => simpa using h

end Distinct

/-- A task with this id, these dependencies and this ordinal. -/
def sampleTask (id : String) (dependencies : List String) (ordinal : Nat) : TaskRequirement where
  taskRequirementId := "task-requirement:intent:" ++ id
  futureTaskId := id
  intentRevisionId := "intent"
  taskType := "ANALYZE"
  businessPurpose := "Analyze"
  inputs := []
  outputs := ["report"]
  dependencies := dependencies
  constraints := []
  acceptanceConditions := ["reviewable"]
  riskClassification := "LOW"
  approvalClassification := "HUMAN"
  unresolvedRequirements := []
  canonicalOrdinal := ordinal

/-- A task that names its dependency twice comes after it. -/
theorem ordered_least_of_two :
    Respects [sampleTask "report" ["fetch", "fetch"] 0, sampleTask "fetch" [] 1] ["fetch", "report"] ∧
    PicksLeast [sampleTask "report" ["fetch", "fetch"] 0, sampleTask "fetch" [] 1] ["fetch", "report"] := by
  obtain ⟨-, hids, -⟩ :=
    ordered_least (show ([sampleTask "report" ["fetch", "fetch"] 0, sampleTask "fetch" [] 1].map
      TaskRequirement.futureTaskId).Nodup by decide) (by decide)
  obtain ⟨-, hrespects, hleast, -⟩ := hids ["fetch", "report"] (by decide +kernel)
  exact ⟨hrespects, hleast⟩

end Planning
end AgentPlatform
