/-
AgentPlatform/Planning/Tasks.lean

What the parser of a candidate accepts, without its loops and accumulators. **Main
result:** `accepted_wellFormed_iff`.

`Reads rev raw t` says field by field that the raw task `raw` is read as `t`.
`parseTasks_eq_ok` describes the tasks of an accepted candidate: one for each raw
task, with distinct ids, bounded dependencies on tasks of the same candidate, and
nothing unresolved.
-/
import AgentPlatform.Planning.Contract
import AgentPlatform.Py.Transaction

namespace AgentPlatform
namespace Planning

open Py

section Reading

variable [Whitespace]

theorem identifier_eq_ok [CharacterTables] {code : String} {v : Json} {i : Identifier} :
    identifier code v = .ok i ↔
      ∃ t, text code 200 v = .ok t ∧ CharacterTables.lower t = i.value := by
  rw [identifier, bind_eq_ok]
  constructor
  · rintro ⟨t, ht, h⟩
    dsimp only at h
    split at h
    · cases h
      exact ⟨t, ht, rfl⟩
    · cases h
  · rintro ⟨t, ht, hi⟩
    obtain ⟨value, valid⟩ := i
    subst hi
    exact ⟨t, ht, dif_pos valid⟩

theorem stringItems_eq_ok {code : String} {allowEmpty : Bool} {v : Json} {r : List String} :
    stringItems code allowEmpty v = .ok r ↔
      ∃ items found, v = .arr items ∧ items.length ≤ taskLimit ∧
        List.Forall₂ (fun a b => text code itemTextLimit a = .ok b) items found ∧
        (allowEmpty = true ∨ found ≠ []) ∧ found.Nodup ∧ r = found.insertionSort (· ≤ ·) := by
  cases v with
  | arr items =>
    simp only [stringItems, ite_error_eq_ok', bind_eq_ok, mapM_eq_ok, Json.arr.injEq,
      Nat.not_lt, not_not, Except.ok.injEq]
    constructor
    · rintro ⟨hl, found, hf, he, hn, rfl⟩
      refine ⟨items, found, rfl, hl, hf, ?_, hn, rfl⟩
      by_cases ha : allowEmpty = true
      · exact .inl ha
      · exact .inr fun h => he (by simp [h, ha])
    · rintro ⟨_, found, rfl, hl, hf, he, hn, rfl⟩
      refine ⟨hl, found, hf, ?_, hn, rfl⟩
      rcases he with ha | he
      · simp [ha]
      · simp [he]
  | _ => simp [stringItems]

/-- Accepted items are in normal form. -/
theorem stringItems_nfc {code : String} {allowEmpty : Bool} {v : Json} {r : List String}
    (h : stringItems code allowEmpty v = .ok r) : ∀ t ∈ r, nfc t = t := by
  obtain ⟨items, found, -, -, hf, -, -, rfl⟩ := stringItems_eq_ok.mp h
  intro t ht
  have hmem : t ∈ found := (List.mem_insertionSort _).mp ht
  obtain ⟨v, -, hv⟩ := exists_of_forall₂ hf t hmem
  exact text_nfc hv

end Reading

section Parsed

/-! ### One task -/

theorem identifier_mem_iff {i : Identifier} {ds : List Identifier} :
    i.value ∈ (ds.map Identifier.value).insertionSort (· ≤ ·) ↔ i ∈ ds := by
  rw [List.mem_insertionSort, List.mem_map]
  constructor
  · rintro ⟨j, hj, hv⟩
    obtain ⟨v, hv'⟩ := i
    obtain ⟨w, hw'⟩ := j
    cases hv
    exact hj
  · exact fun h => ⟨i, h, rfl⟩

variable [Whitespace] [CharacterTables]

/-- The raw task `raw` is read as `t`. -/
structure Reads (rev : String) (raw : Json) (t : TaskRequirement) : Prop where
  keys : keysAre taskFields raw = true
  id : ∃ i, identifier "INVALID_TASK_ID" (item raw "id") = .ok i ∧ t.futureTaskId = i.value
  requirementId : t.taskRequirementId = "task-requirement:" ++ rev ++ ":" ++ t.futureTaskId
  revision : t.intentRevisionId = rev
  taskType : ∃ i, identifier "INVALID_TASK_TYPE" (item raw "type") = .ok i ∧
    i.upper ∈ supportedTaskTypes ∧ t.taskType = i.upper
  dependencies : ∃ listed ds,
    stringItems "INVALID_DEPENDENCIES" true (item raw "dependencies") = .ok listed ∧
    List.Forall₂ (fun d i => identifier "INVALID_DEPENDENCY" (.str d) = .ok i) listed ds ∧
    t.dependencies = (ds.map Identifier.value).insertionSort (· ≤ ·)
  others : t.futureTaskId ∉ t.dependencies
  ordinal : taskOrdinal (item raw "ordinal") = .ok t.canonicalOrdinal
  purpose : text "INVALID_TASK_PURPOSE" itemTextLimit (item raw "purpose") = .ok t.businessPurpose
  inputs : stringItems "INVALID_TASK_INPUTS" true (item raw "inputs") = .ok t.inputs
  outputs : stringItems "INVALID_TASK_OUTPUTS" false (item raw "outputs") = .ok t.outputs
  constraints :
    stringItems "INVALID_TASK_CONSTRAINTS" true (item raw "constraints") = .ok t.constraints
  acceptance : stringItems "INVALID_ACCEPTANCE_CONDITIONS" false (item raw "acceptance_conditions")
    = .ok t.acceptanceConditions
  risk : ∃ i, identifier "INVALID_RISK" (item raw "risk") = .ok i ∧ t.riskClassification = i.upper
  approval : ∃ i, identifier "INVALID_APPROVAL_CLASSIFICATION" (item raw "approval") = .ok i ∧
    t.approvalClassification = i.upper
  unresolved : stringItems "INVALID_UNRESOLVED_REQUIREMENTS" true (item raw "unresolved")
    = .ok t.unresolvedRequirements

variable {rev : String}

/-- **One round of the loop.** -/
theorem parseTask_eq_ok {seen : List String} {count n : Nat} {raw : Json} {t : TaskRequirement} :
    parseTask rev seen count raw = .ok (t, n) ↔
      Reads rev raw t ∧ t.futureTaskId ∉ seen ∧ n = count + t.dependencies.length ∧
        n ≤ dependencyLimit := by
  simp only [parseTask, ite_error_eq_ok', bind_eq_ok, mapM_eq_ok, not_not, Except.ok.injEq,
    Prod.mk.injEq, Nat.not_lt]
  constructor
  · rintro ⟨hk, i, hi, hs, ty, hty, hsup, listed, hlisted, ds, hds, hcount, hself, o, ho, p, hp,
      ins, hins, outs, houts, cs, hcs, acc, hacc, r, hr, ap, hap, u, hu, rfl, rfl⟩
    refine ⟨⟨hk, ⟨i, hi, rfl⟩, rfl, rfl, ⟨ty, hty, hsup, rfl⟩, ⟨listed, ds, hlisted, hds, rfl⟩,
      fun h => hself (identifier_mem_iff.mp h), ho, hp, hins, houts, hcs, hacc, ⟨r, hr, rfl⟩,
      ⟨ap, hap, rfl⟩, hu⟩, hs, ?_, hcount⟩
    rw [List.length_insertionSort, List.length_map]
  · rintro ⟨h, hs, hn, hle⟩
    obtain ⟨i, hi, hid⟩ := h.id
    obtain ⟨ty, hty, hsup, htype⟩ := h.taskType
    obtain ⟨listed, ds, hlisted, hds, hdeps⟩ := h.dependencies
    obtain ⟨r, hr, hrisk⟩ := h.risk
    obtain ⟨ap, hap, happroval⟩ := h.approval
    have hlen : t.dependencies.length = ds.length := by
      rw [hdeps, List.length_insertionSort, List.length_map]
    rw [hlen] at hn
    refine ⟨h.keys, i, hi, hid ▸ hs, ty, hty, hsup, listed, hlisted, ds, hds, hn ▸ hle,
      fun hm => h.others ?_, _, h.ordinal, _, h.purpose, _, h.inputs, _, h.outputs, _,
      h.constraints, _, h.acceptance, r, hr, ap, hap, _, h.unresolved, ?_, hn.symm⟩
    · rw [hid, hdeps]
      exact identifier_mem_iff.mpr hm
    · have hreq := h.requirementId
      have hrev := h.revision
      clear h
      obtain ⟨⟩ := t
      dsimp only at hid htype hdeps hrisk happroval hreq hrev
      subst hreq hid htype hdeps hrisk happroval hrev
      rfl

/-! ### All tasks -/

/-- The dependencies of all tasks. -/
def dependencyCount (tasks : List TaskRequirement) : Nat :=
  (tasks.map fun t => t.dependencies.length).sum

theorem parseRawTasks_eq_ok {seen : List String} {count : Nat} (hc : count ≤ dependencyLimit)
    {raws : List Json} {ts : List TaskRequirement} :
    parseRawTasks rev seen count raws = .ok ts ↔
      List.Forall₂ (Reads rev) raws ts ∧ (ts.map TaskRequirement.futureTaskId).Nodup ∧
        (∀ t ∈ ts, t.futureTaskId ∉ seen) ∧ count + dependencyCount ts ≤ dependencyLimit := by
  -- the ids seen and the count are generalised along the loop
  induction raws generalizing seen count ts with
  | nil =>
    rw [parseRawTasks, List.forall₂_nil_left_iff, Except.ok.injEq]
    constructor
    · rintro rfl
      simp [dependencyCount, hc]
    · rintro ⟨rfl, -⟩
      rfl
  | cons raw raws ih =>
    rw [parseRawTasks, bind_eq_ok, List.forall₂_cons_left_iff]
    constructor
    · rintro ⟨⟨t, n⟩, ht, h⟩
      obtain ⟨hr, hs, rfl, hn⟩ := parseTask_eq_ok.mp ht
      obtain ⟨ts', hts, h⟩ := bind_eq_ok.mp h
      cases h
      obtain ⟨hall, hnd, hseen, hcount⟩ := (ih hn).mp hts
      refine ⟨⟨t, ts', hr, hall, rfl⟩, ?_, ?_, ?_⟩
      · rw [List.map_cons, List.nodup_cons]
        refine ⟨fun hm => ?_, hnd⟩
        obtain ⟨u, hu, hid⟩ := List.mem_map.mp hm
        exact hseen u hu (by rw [hid]; exact List.mem_cons_self)
      · rw [List.forall_mem_cons]
        exact ⟨hs, fun u hu hm => hseen u hu (List.mem_cons_of_mem _ hm)⟩
      · simp only [dependencyCount, List.map_cons, List.sum_cons] at hcount ⊢
        omega
    · rintro ⟨⟨t, ts', hr, hall, rfl⟩, hnd, hseen, hcount⟩
      rw [List.map_cons, List.nodup_cons] at hnd
      rw [List.forall_mem_cons] at hseen
      simp only [dependencyCount, List.map_cons, List.sum_cons] at hcount
      have hn : count + t.dependencies.length ≤ dependencyLimit := by omega
      refine ⟨(t, count + t.dependencies.length),
        parseTask_eq_ok.mpr ⟨hr, hseen.1, rfl, hn⟩, bind_eq_ok.mpr ⟨ts', (ih hn).mpr ?_, rfl⟩⟩
      refine ⟨hall, hnd.2, fun u hu hm => ?_, by simp only [dependencyCount]; omega⟩
      rcases List.mem_cons.mp hm with hm | hm
      · exact hnd.1 (List.mem_map.mpr ⟨u, hu, hm⟩)
      · exact hseen.2 u hu hm

/-- The tasks of one candidate. -/
structure Accepted (ts : List TaskRequirement) : Prop where
  nodup : (ts.map TaskRequirement.futureTaskId).Nodup
  count_le : dependencyCount ts ≤ dependencyLimit
  known : ∀ t ∈ ts, ∀ d ∈ t.dependencies, d ∈ ts.map TaskRequirement.futureTaskId
  resolved : ∀ t ∈ ts, t.unresolvedRequirements = []

/-- **What `_parse_tasks` accepts.** -/
theorem parseTasks_eq_ok {raws : List Json} {ts : List TaskRequirement} :
    parseTasks rev raws = .ok ts ↔ List.Forall₂ (Reads rev) raws ts ∧ Accepted ts := by
  rw [parseTasks, bind_eq_ok]
  have hcheck : ∀ {ts : List TaskRequirement} {t : TaskRequirement},
      checkTask (ts.map TaskRequirement.futureTaskId) t = .ok () ↔
        (∀ d ∈ t.dependencies, d ∈ ts.map TaskRequirement.futureTaskId) ∧
          t.unresolvedRequirements = [] := by
    intro ts t
    simp only [checkTask, ite_error_eq_ok', not_not, and_true, List.any_eq_true, decide_eq_true_eq,
      not_exists, not_and]
  constructor
  · rintro ⟨found, hfound, h⟩
    obtain ⟨⟨⟩, hall, h⟩ := bind_eq_ok.mp h
    cases h
    obtain ⟨hr, hn, -, hc⟩ := (parseRawTasks_eq_ok (Nat.zero_le _)).mp hfound
    have hchecks := forM_eq_ok.mp hall
    exact ⟨hr, hn, by simpa using hc, fun t ht => (hcheck.mp (hchecks t ht)).1,
      fun t ht => (hcheck.mp (hchecks t ht)).2⟩
  · rintro ⟨hr, h⟩
    refine ⟨ts, (parseRawTasks_eq_ok (Nat.zero_le _)).mpr
      ⟨hr, h.nodup, by simp, by simpa using h.count_le⟩, bind_eq_ok.mpr ⟨(), ?_, rfl⟩⟩
    exact forM_eq_ok.mpr fun t ht => hcheck.mpr ⟨h.known t ht, h.resolved t ht⟩

/-! ### Well-formed tasks -/

/-- `" ".join(unicodedata.normalize("NFC", s).split())`. -/
def normalForm (s : String) : String := collapse (nfc s)

omit [CharacterTables] in
theorem normalForm_normalForm (s : String) : normalForm (normalForm s) = normalForm s := by
  rw [normalForm, normalForm, Whitespace.nfc_collapse_nfc, collapse_collapse]

omit [CharacterTables] in
theorem text_eq_ok {code : String} {limit : Nat} {v : Json} {t : String} (h : text code limit v = .ok t) :
    ∃ s, v = .str s ∧ t = normalForm s := by
  cases v with
  | str s =>
    simp only [text, ite_error_eq_ok', Except.ok.injEq] at h
    obtain ⟨-, -, -, -, rfl⟩ := h
    exact ⟨s, rfl, rfl⟩
  | _ => cases h

/-- Texts in normal form, each once, in ascending order. -/
def IsSet (items : List String) : Prop := items.Pairwise (· < ·) ∧ ∀ s ∈ items, normalForm s = s

omit [Whitespace] [CharacterTables] in
theorem sorted_lt_iff {items : List String} :
    (items.insertionSort (· ≤ ·)).Pairwise (· < ·) ↔ items.Nodup := by
  have hperm := List.perm_insertionSort (· ≤ ·) items
  constructor
  · intro h
    exact hperm.nodup_iff.mp (h.imp fun hlt => ne_of_lt hlt)
  · intro h
    have hsorted := List.pairwise_insertionSort (· ≤ ·) items
    exact (hsorted.and (hperm.nodup_iff.mpr h)).imp fun ⟨hle, hne⟩ => lt_of_le_of_ne hle hne

omit [CharacterTables] in
/-- **Items that were accepted** are a set. -/
theorem stringItems_isSet {code : String} {allowEmpty : Bool} {v : Json} {r : List String}
    (h : stringItems code allowEmpty v = .ok r) : IsSet r := by
  obtain ⟨items, found, -, -, hf, -, hn, rfl⟩ := stringItems_eq_ok.mp h
  refine ⟨sorted_lt_iff.mpr hn, fun t ht => ?_⟩
  obtain ⟨v, -, hv⟩ := exists_of_forall₂ hf t ((List.mem_insertionSort _).mp ht)
  obtain ⟨s, -, rfl⟩ := text_eq_ok hv
  exact normalForm_normalForm s

/-- The tasks of a candidate, well formed. -/
structure WellFormed (ts : List TaskRequirement) : Prop where
  ids : (ts.map TaskRequirement.futureTaskId).Nodup
  dependencies : ∀ t ∈ ts, t.dependencies.Pairwise (· < ·) ∧
    ∀ d ∈ t.dependencies, d ≠ t.futureTaskId ∧ d ∈ ts.map TaskRequirement.futureTaskId
  sets : ∀ t ∈ ts, IsSet t.inputs ∧ IsSet t.outputs ∧ IsSet t.constraints ∧ IsSet t.acceptanceConditions ∧
    IsSet t.unresolvedRequirements
  count : dependencyCount ts ≤ dependencyLimit

/-- A dependency as it is compared with ids: in normal form and in lower case. -/
def foldedDependency : Json → Option String
  | .str s => some (CharacterTables.lower (normalForm s))
  | _ => none

/-- No two dependencies of the raw task name the same id. -/
def DistinctDependencies (raw : Json) : Prop :=
  match item raw "dependencies" with
  | .arr items => (items.map foldedDependency).Nodup
  | _ => True

/-- The dependencies of a task are the folded ones. -/
theorem Reads.dependencies_lt_iff {raw : Json} {t : TaskRequirement} (h : Reads rev raw t) :
    t.dependencies.Pairwise (· < ·) ↔ DistinctDependencies raw := by
  obtain ⟨listed, ds, hlisted, hds, hdeps⟩ := h.dependencies
  obtain ⟨items, found, hitems, -, hf, -, -, rfl⟩ := stringItems_eq_ok.mp hlisted
  have hvalues : ds.map Identifier.value = (found.insertionSort (· ≤ ·)).map CharacterTables.lower := by
    have hall : ∀ {listed : List String} {ds : List Identifier}, (∀ d ∈ listed, normalForm d = d) →
        List.Forall₂ (fun d i => identifier "INVALID_DEPENDENCY" (.str d) = .ok i) listed ds →
        ds.map Identifier.value = listed.map CharacterTables.lower := by
      intro listed ds hnormal hall
      induction hall with
      | nil => rfl
      | @cons d i listed ds hd _ ih =>
        obtain ⟨u, hu, hi⟩ := identifier_eq_ok.mp hd
        obtain ⟨s, hs, rfl⟩ := text_eq_ok hu
        cases hs
        rw [hnormal d List.mem_cons_self] at hi
        rw [List.map_cons, List.map_cons, ih fun d hd => hnormal d (List.mem_cons_of_mem _ hd), hi]
    exact hall (stringItems_isSet hlisted).2 hds
  have hfound : items.map foldedDependency = (found.map CharacterTables.lower).map some := by
    clear hitems hlisted hds hdeps hvalues
    induction hf with
    | nil => rfl
    | cons hv _ ih =>
      obtain ⟨s, rfl, rfl⟩ := text_eq_ok hv
      rw [List.map_cons, ih]
      rfl
  have hperm := (List.perm_insertionSort (· ≤ ·) found).map CharacterTables.lower
  rw [hdeps, sorted_lt_iff, hvalues, hperm.nodup_iff, DistinctDependencies, hitems]
  show _ ↔ (items.map foldedDependency).Nodup
  rw [hfound, List.nodup_map_iff (Option.some_injective _)]

theorem distinctDependencies_iff {raws : List Json} {ts : List TaskRequirement}
    (h : List.Forall₂ (Reads rev) raws ts) :
    (∀ raw ∈ raws, DistinctDependencies raw) ↔ ∀ t ∈ ts, t.dependencies.Pairwise (· < ·) := by
  induction h with
  | nil => simp
  | cons hr _ ih => rw [List.forall_mem_cons, List.forall_mem_cons, ih, hr.dependencies_lt_iff]

/-- **Accepted tasks are well formed** exactly if no raw task names one dependency in two
spellings that differ in case only. -/
theorem accepted_wellFormed_iff {raws : List Json} {ts : List TaskRequirement}
    (h : parseTasks rev raws = .ok ts) : WellFormed ts ↔ ∀ raw ∈ raws, DistinctDependencies raw := by
  obtain ⟨hreads, haccepted⟩ := parseTasks_eq_ok.mp h
  rw [distinctDependencies_iff hreads]
  refine ⟨fun hw t ht => (hw.dependencies t ht).1, fun hall => ⟨haccepted.nodup, fun t ht => ?_, fun t ht => ?_,
    haccepted.count_le⟩⟩
  · obtain ⟨raw, -, hr⟩ := exists_of_forall₂ hreads t ht
    exact ⟨hall t ht, fun d hd => ⟨fun heq => hr.others (heq ▸ hd), haccepted.known t ht d hd⟩⟩
  · obtain ⟨raw, -, hr⟩ := exists_of_forall₂ hreads t ht
    exact ⟨stringItems_isSet hr.inputs, stringItems_isSet hr.outputs, stringItems_isSet hr.constraints,
      stringItems_isSet hr.acceptance, stringItems_isSet hr.unresolved⟩

end Parsed

section Spellings

local instance : Whitespace := .identity

local instance : CharacterTables := .ascii

/-- A raw task with this id and these dependencies. -/
def rawTask (id : String) (dependencies : List String) : Json :=
  .obj [
    ("id", .str id), ("type", .str "analyze"), ("purpose", .str "Analyze"), ("inputs", texts []),
    ("outputs", texts ["report"]), ("dependencies", texts dependencies), ("constraints", texts []),
    ("acceptance_conditions", texts ["reviewable"]), ("risk", .str "low"), ("approval", .str "human"),
    ("unresolved", texts []), ("ordinal", .int 0)]

theorem parses_of_isOk {raws : List Json} (h : (parseTasks "intent" raws).isOk = true) :
    ∃ ts, parseTasks "intent" raws = .ok ts := by
  rcases hp : parseTasks "intent" raws with code | ts
  · rw [hp] at h
    cases h
  · exact ⟨ts, rfl⟩

/-- Two tasks, one after the other. -/
theorem accepted_wellFormed_of_two :
    ∃ ts, parseTasks "intent" [rawTask "fetch" [], rawTask "report" ["fetch"]] = .ok ts ∧ WellFormed ts := by
  obtain ⟨ts, hts⟩ := parses_of_isOk (show (parseTasks "intent" [rawTask "fetch" [],
    rawTask "report" ["fetch"]]).isOk = true by decide +kernel)
  refine ⟨ts, hts, (accepted_wellFormed_iff hts).mpr fun raw hraw => ?_⟩
  rcases List.mem_cons.mp hraw with rfl | hraw
  · exact List.nodup_nil
  · rw [List.mem_singleton.mp hraw]
    exact List.nodup_singleton _

/-- **A dependency in two spellings** is accepted and stands twice. -/
theorem accepted_twice : ¬ ∀ (rev : String) (raws : List Json) (ts : List TaskRequirement),
    parseTasks rev raws = .ok ts → WellFormed ts := by
  intro hclaim
  obtain ⟨ts, hts⟩ := parses_of_isOk (show (parseTasks "intent" [rawTask "fetch" [],
    rawTask "report" ["Fetch", "fetch"]]).isOk = true by decide +kernel)
  have hordered : ∀ t ∈ ts, t.dependencies.Pairwise (· < ·) := fun t ht =>
    ((hclaim _ _ _ hts).dependencies t ht).1
  have hdistinct := (distinctDependencies_iff (parseTasks_eq_ok.mp hts).1).mpr hordered
    (rawTask "report" ["Fetch", "fetch"]) (List.mem_cons_of_mem _ (List.mem_singleton.mpr rfl))
  have hnodup : ([foldedDependency (.str "Fetch"), foldedDependency (.str "fetch")]).Nodup := hdistinct
  revert hnodup
  decide +kernel

end Spellings

end Planning
end AgentPlatform
