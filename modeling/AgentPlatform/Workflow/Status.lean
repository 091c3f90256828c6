/-
AgentPlatform/Workflow/Status.lean

The status of a Workflow: `patch_workflow_status` sends the whole desired status as a
merge patch, with `null` for the tasks that are no longer desired.

Below the names of the tasks nothing is removed, so the desired status is reached exactly
if the present status of each task settles under the desired one. **Main result:**
`status_converges_iff`.
-/
import AgentPlatform.Py.MergePatch

namespace AgentPlatform
namespace StatusPatch

open Py Json

/-! ### Definitions -/

/-- `body.get("status", {})`. -/
def currentStatus (body : Json) : List (String × Json) :=
  ((Dict.find "status" body.members).getD (.obj [])).members

/-- `current_status.get("tasks", {})`. -/
def currentTaskStatuses (body : Json) : List (String × Json) :=
  ((Dict.find "tasks" (currentStatus body)).getD (.obj [])).members

/-- A status as it is compared and sent. -/
def statusOf (phase taskCount : Json) (tasks : List (String × Json)) : Json :=
  .obj [("phase", phase), ("taskCount", taskCount), ("tasks", .obj tasks)]

def desiredStatus (phase : String) (taskCount : Int) (taskStatuses : List (String × Json)) : Json :=
  statusOf (.str phase) (.int taskCount) taskStatuses

def currentProjection (body : Json) : Json :=
  statusOf ((Dict.find "phase" (currentStatus body)).getD .null)
    ((Dict.find "taskCount" (currentStatus body)).getD .null) (currentTaskStatuses body)

/-- `task_status_patch`: the desired statuses, and `None` for the names that are stale. -/
def taskStatusPatch (present desired : List (String × Json)) : List (String × Json) :=
  desired ++ ((present.map Prod.fst).filter (· ∉ desired.map Prod.fst)).map fun name => (name, .null)

/-- `patch_workflow_status`: nothing where the status is as desired, or the body of the
patch that is sent. -/
def patchWorkflowStatus (body : Json) (phase : String) (taskCount : Int) (taskStatuses : List (String × Json)) :
    Option Json :=
  if same (currentProjection body) (desiredStatus phase taskCount taskStatuses) then none
  else some (.obj [("status", statusOf (.str phase) (.int taskCount)
    (taskStatusPatch (currentTaskStatuses body) taskStatuses))])

/-- `existing_status.get("phase") == "Skipped"`. -/
def isSkipped (status : Json) : Bool := same ((Dict.find "phase" status.members).getD .null) (.str "Skipped")

def nodeStatus (workflowName taskName : String) (taskPhase : Option String) (existing : Option Json) : Json :=
  match taskPhase with
  | some phase => .obj [("phase", .str phase), ("taskRef", .obj [("name", .str (workflowName ++ "-" ++ taskName))])]
  | none => match existing with
    | some status => if isSkipped status then status else .obj [("phase", .str "Pending")]
    | none => .obj [("phase", .str "Pending")]

def buildWorkflowTaskStatuses (workflowName : String) (taskNames : List String)
    (taskPhases : String → Option String) (existing : List (String × Json)) : List (String × Json) :=
  taskNames.foldl
    (fun statuses name => setField name (nodeStatus workflowName name (taskPhases name) (Dict.find name existing)) statuses)
    []

/-! ### The patch -/

section Patch

variable {body : Json} {present desired : List (String × Json)}

/-- The object of a Workflow: its status, if there is one, is an object, and the tasks in
it a map. -/
structure IsWorkflow (body : Json) : Prop where
  distinct : body.distinctKeys = true
  object : ∃ fields, body = .obj fields
  status : ∀ v, Dict.find "status" body.members = some v → ∃ fields, v = .obj fields
  tasks : ∀ v, Dict.find "tasks" (currentStatus body) = some v → ∃ fields, v = .obj fields

theorem find_stale (present desired : List (String × Json)) (k : String) :
    Dict.find k (((present.map Prod.fst).filter (· ∉ desired.map Prod.fst)).map fun name => (name, Json.null))
      = if k ∈ present.map Prod.fst ∧ k ∉ desired.map Prod.fst then some .null else none := by
  have hfind : ∀ names : List String, Dict.find k (names.map fun name => (name, Json.null))
      = if k ∈ names then some .null else none := by
    intro names
    induction names with
    | nil => rfl
    | cons name names ih =>
      rw [List.map_cons, Dict.find, ih]
      by_cases hk : name = k
      · simp [hk]
      · simp [hk, Ne.symm hk]
  rw [hfind]
  simp only [List.mem_filter, decide_eq_true_eq]

theorem keys_taskStatusPatch_nodup (hp : (present.map Prod.fst).Nodup) (hd : (desired.map Prod.fst).Nodup) :
    ((taskStatusPatch present desired).map Prod.fst).Nodup := by
  have hkeys : (((present.map Prod.fst).filter (· ∉ desired.map Prod.fst)).map
      fun name => (name, Json.null)).map Prod.fst = (present.map Prod.fst).filter (· ∉ desired.map Prod.fst) := by
    rw [List.map_map]
    exact List.map_id _
  rw [taskStatusPatch, List.map_append, hkeys, List.nodup_append]
  refine ⟨hd, hp.filter _, ?_⟩
  rintro k hk _ hk' rfl
  exact of_decide_eq_true (List.mem_filter.mp hk').2 hk

/-- **The tasks after the patch.** -/
theorem same_tasks_iff (hp : (Json.obj present).distinctKeys = true) (hd : (Json.obj desired).distinctKeys = true) :
    same (.obj (mergeFields present (taskStatusPatch present desired))) (.obj desired) = true ↔
      settlesFields present desired = true := by
  have hpn := (distinctKeys_members hp).1
  have hdn := (distinctKeys_members hd).1
  have hfind : ∀ k, Dict.find k (mergeFields present (taskStatusPatch present desired)) =
      (Dict.find k desired).bind fun v =>
        if v.isNull then none else some (mergePatch ((Dict.find k present).getD .null) v) := by
    intro k
    rw [find_mergeFields (keys_taskStatusPatch_nodup hpn hdn), taskStatusPatch, Dict.find_append, find_stale]
    cases hk : Dict.find k desired with
    | some v => rfl
    | none =>
      have hnot : k ∉ desired.map Prod.fst := Dict.find_eq_none.mp hk
      by_cases hmem : k ∈ present.map Prod.fst
      · rw [if_pos ⟨hmem, hnot⟩]
        rfl
      · rw [if_neg fun h => hmem h.1]
        exact Dict.find_eq_none.mpr hmem
  have hmem : ∀ {l : List (String × Json)} {k : String}, k ∈ l.map Prod.fst ↔ Dict.find k l ≠ none := fun {l k} =>
    ⟨fun hk h => Dict.find_eq_none.mp h hk, fun h => by
      by_contra hk
      exact h (Dict.find_eq_none.mpr hk)⟩
  have hmember : ∀ k, ((Dict.find k present).getD .null).distinctKeys = true := distinctKeys_member hp
  rw [same_obj_iff (keys_mergeFields_nodup hpn) hdn, settlesFields_iff hdn]
  simp only [hmem, hfind]
  constructor
  · rintro ⟨hkeys, hvalues⟩ k v hk
    have hnotNull : v.isNull = false := by
      by_contra hnull
      rw [Bool.not_eq_false] at hnull
      have hpresent := (hkeys k).mpr
      simp only [hk, hnull, Option.bind_some, if_true] at hpresent
      exact hpresent (Option.some_ne_none _) rfl
    have hsame := hvalues k (mergePatch ((Dict.find k present).getD .null) v) v
      (by simp only [hk, hnotNull, Option.bind_some, Bool.false_eq_true, if_false]) hk
    exact ⟨hnotNull, (same_mergePatch_iff v _ ((distinctKeys_members hd).2 k v hk) (hmember k)).mp hsame⟩
  · intro hall
    refine ⟨fun k => ?_, fun k v w hv hw => ?_⟩
    · cases hk : Dict.find k desired with
      | none => simp
      | some v => simp [(hall k v hk).1]
    · obtain ⟨hnotNull, hsettles⟩ := hall k w hw
      simp only [hw, hnotNull, Option.bind_some, Bool.false_eq_true, if_false, Option.some.injEq] at hv
      subst hv
      exact (same_mergePatch_iff w _ ((distinctKeys_members hd).2 k w hw) (hmember k)).mpr hsettles

theorem same_statusOf (phase taskCount : Json) (tasks : List (String × Json)) (phase' taskCount' : Json)
    (tasks' : List (String × Json)) :
    same (statusOf phase taskCount tasks) (statusOf phase' taskCount' tasks')
      = (same phase phase' && same taskCount taskCount' && same (.obj tasks) (.obj tasks')) := by
  simp [statusOf, same, sameFields, Dict.find, Bool.and_assoc]

theorem currentStatus_merged (body : Json) (phase taskCount : Json) (tasks : List (String × Json)) :
    currentStatus (mergePatch body (.obj [("status", statusOf phase taskCount tasks)]))
      = mergeFields (currentStatus body) [("phase", phase), ("taskCount", taskCount), ("tasks", .obj tasks)] := by
  have hstatus : Dict.find "status" (mergePatch body (.obj [("status", statusOf phase taskCount tasks)])).members
      = some (mergePatch ((Dict.find "status" body.members).getD .null) (statusOf phase taskCount tasks)) := by
    rw [mergePatch]
    show Dict.find "status" (mergeFields body.members [("status", statusOf phase taskCount tasks)]) = _
    have hn : ([("status", statusOf phase taskCount tasks)].map Prod.fst).Nodup := List.nodup_singleton "status"
    rw [find_mergeFields hn]
    rfl
  rw [currentStatus, hstatus]
  show mergeFields ((Dict.find "status" body.members).getD .null).members _ = _
  congr 1
  rw [currentStatus]
  cases Dict.find "status" body.members <;> rfl

/-- **The status after a patch.** -/
theorem currentProjection_merged (body : Json) (phase : String) (taskCount : Int) (tasks : List (String × Json)) :
    currentProjection (mergePatch body (.obj [("status", statusOf (.str phase) (.int taskCount) tasks)]))
      = statusOf (.str phase) (.int taskCount) (mergeFields (currentTaskStatuses body) tasks) := by
  have hn : ([("phase", Json.str phase), ("taskCount", .int taskCount), ("tasks", .obj tasks)].map Prod.fst).Nodup := by
    show ["phase", "taskCount", "tasks"].Nodup
    decide
  have hfind := @find_mergeFields _ (currentStatus body) hn
  have hphase := hfind "phase"
  have hcount := hfind "taskCount"
  have htasks := hfind "tasks"
  rw [currentProjection, currentTaskStatuses, currentStatus_merged, hphase, hcount, htasks]
  show statusOf (.str phase) (.int taskCount) (mergeFields ((Dict.find "tasks" (currentStatus body)).getD .null).members
    tasks) = _
  congr 2
  rw [currentTaskStatuses]
  cases Dict.find "tasks" (currentStatus body) <;> rfl

theorem distinct_currentTaskStatuses (h : body.distinctKeys = true) :
    (Json.obj (currentTaskStatuses body)).distinctKeys = true := by
  have hobj : ∀ {v : Json}, v.distinctKeys = true → (Json.obj v.members).distinctKeys = true := by
    intro v hv
    cases v with
    | obj fields => exact hv
    | _ => rfl
  have hmember : ∀ {v : Json} (k : String), v.distinctKeys = true →
      ((Dict.find k v.members).getD (.obj [])).distinctKeys = true := by
    intro v k hv
    have hd := distinctKeys_member hv k
    cases hk : Dict.find k v.members with
    | none => rfl
    | some w =>
      rw [hk] at hd
      exact hd
  exact hobj (hmember "tasks" (hmember "status" h))

/-- The patch leads to the desired status. -/
def Converges (body : Json) (phase : String) (taskCount : Int) (taskStatuses : List (String × Json)) : Prop :=
  ∀ patch, patchWorkflowStatus body phase taskCount taskStatuses = some patch →
    same (currentProjection (mergePatch body patch)) (desiredStatus phase taskCount taskStatuses) = true ∧
      patchWorkflowStatus (mergePatch body patch) phase taskCount taskStatuses = none

/-- **A Workflow status converges** exactly if it is as desired already, or the status of each
task settles under the desired one. Nothing is sent exactly if it is as desired. -/
theorem status_converges_iff (hbody : IsWorkflow body) (phase : String) (taskCount : Int)
    (hd : (Json.obj desired).distinctKeys = true) :
    (Converges body phase taskCount desired ↔
      same (currentProjection body) (desiredStatus phase taskCount desired) = true ∨
        settlesFields (currentTaskStatuses body) desired = true) ∧
    (patchWorkflowStatus body phase taskCount desired = none ↔
      same (currentProjection body) (desiredStatus phase taskCount desired) = true) := by
  have hp := distinct_currentTaskStatuses hbody.distinct
  have hmerged : ∀ patch, patchWorkflowStatus body phase taskCount desired = some patch →
      (same (currentProjection (mergePatch body patch)) (desiredStatus phase taskCount desired) = true ↔
        settlesFields (currentTaskStatuses body) desired = true) := by
    intro patch hpatch
    rw [patchWorkflowStatus] at hpatch
    split at hpatch
    · cases hpatch
    · cases hpatch
      rw [currentProjection_merged, desiredStatus, same_statusOf, Bool.and_eq_true, same_tasks_iff hp hd]
      simp [same]
  have hnone : ∀ body, patchWorkflowStatus body phase taskCount desired = none ↔
      same (currentProjection body) (desiredStatus phase taskCount desired) = true := by
    intro body
    rw [patchWorkflowStatus]
    split
    · next h => simp [h]
    · next h => simp [h]
  refine ⟨?_, hnone body⟩
  constructor
  · intro hconverges
    cases hpatch : patchWorkflowStatus body phase taskCount desired with
    | none => exact .inl ((hnone body).mp hpatch)
    | some patch => exact .inr ((hmerged patch hpatch).mp (hconverges patch hpatch).1)
  · rintro (hsame | hsettles) patch hpatch
    · rw [(hnone body).mpr hsame] at hpatch
      cases hpatch
    · have hreached := (hmerged patch hpatch).mpr hsettles
      exact ⟨hreached, (hnone _).mpr hreached⟩

end Patch

/-! ### A task that is gone -/

/-- A Workflow whose one task runs. -/
def running : Json :=
  .obj [("status", statusOf (.str "Running") (.int 1)
    [("fetch", .obj [("phase", .str "Running"), ("taskRef", .obj [("name", .str "report-fetch")])])])]

theorem isWorkflow_running : IsWorkflow running where
  distinct := by decide
  object := ⟨_, rfl⟩
  status v h := ⟨_, (Option.some.inj h).symm⟩
  tasks v h := ⟨_, (Option.some.inj h).symm⟩

theorem status_converges_of_succeeded : Converges running "Succeeded" 1
    (buildWorkflowTaskStatuses "report" ["fetch"] (fun _ => some "Succeeded") (currentTaskStatuses running)) :=
  (status_converges_iff isWorkflow_running "Succeeded" 1 (by decide)).1.mpr (.inr (by decide))

/-- **The reference to a Task that is gone stays**: the node is pending again, and the
patch does not take its `taskRef` away. -/
theorem reference_stays : ¬ ∀ (body : Json) (phase : String) (taskCount : Int) (taskStatuses : List (String × Json)),
    IsWorkflow body → (Json.obj taskStatuses).distinctKeys = true → Converges body phase taskCount taskStatuses := by
  intro hclaim
  have hconverges := hclaim running "Pending" 1
    (buildWorkflowTaskStatuses "report" ["fetch"] (fun _ => none) (currentTaskStatuses running))
    isWorkflow_running (by decide)
  have hreached := (hconverges _ rfl).1
  revert hreached
  decide

end StatusPatch
end AgentPlatform
