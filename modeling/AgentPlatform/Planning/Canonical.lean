/-
AgentPlatform/Planning/Canonical.lean

A candidate digest stands for the content of a candidate, and for nothing else.

`Permuted raw raw'` relates two raw candidates that differ in the order of the
tasks and of the items of set-valued fields. Acceptance goes through the
description of the parser in `Tasks` and the order independence of the sort, so
that a permuted candidate is accepted with the very same workflow candidate
(`buildCandidate_permuted`).

In the other direction every text of an accepted candidate is in normal form, so
the canonical text determines the content (`content_injective`).
-/
import AgentPlatform.Planning.Engine

namespace AgentPlatform
namespace Planning

open Py

/-! ### Permuted candidates -/

/-- A list with its items in another order. -/
inductive Shuffled : Json → Json → Prop
  | items {xs ys : List Json} (h : xs.Perm ys) : Shuffled (.arr xs) (.arr ys)

/-- Two records with the same keys and, under each key, related values. -/
inductive Alike (rel : String → Json → Json → Prop) : Json → Json → Prop
  | record {fs gs : List (String × Json)}
      (h : List.Forall₂ (fun p q => p.1 = q.1 ∧ rel p.1 p.2 q.2) fs gs) :
      Alike rel (.obj fs) (.obj gs)

/-- The set-valued fields of a task. -/
def taskSets : List String :=
  ["inputs", "outputs", "dependencies", "constraints", "acceptance_conditions"]

/-- A task with the items of its set-valued fields in another order. -/
def PermutedTask : Json → Json → Prop :=
  Alike fun k v w => v = w ∨ k ∈ taskSets ∧ Shuffled v w

/-- Permuted tasks, in another order. -/
inductive PermutedTasks : Json → Json → Prop
  | tasks {xs us ys : List Json} (h : List.Forall₂ PermutedTask xs us) (hp : us.Perm ys) :
      PermutedTasks (.arr xs) (.arr ys)

/-- The set-valued fields of a candidate. -/
def candidateSets : List String := ["constraints", "success_criteria"]

/-- A candidate with its tasks and the items of its set-valued fields in another
order. -/
def Permuted : Json → Json → Prop :=
  Alike fun k v w => v = w ∨ (k ∈ candidateSets ∧ Shuffled v w) ∨ (k = "tasks" ∧ PermutedTasks v w)

section Records

variable {rel : String → Json → Json → Prop} {v w : Json}

theorem Alike.keys (h : Alike rel v w) (allowed : List String) :
    keysAre allowed v = keysAre allowed w := by
  obtain ⟨h⟩ := h
  have hk : ∀ {fs gs : List (String × Json)},
      List.Forall₂ (fun p q => p.1 = q.1 ∧ rel p.1 p.2 q.2) fs gs →
      fs.map Prod.fst = gs.map Prod.fst := by
    intro fs gs h
    induction h with
    | nil => rfl
    | cons hpq _ ih => rw [List.map_cons, List.map_cons, hpq.1, ih]
  have hall : ∀ fs : List (String × Json), (fs.all fun p => p.1 ∈ allowed)
      = (fs.map Prod.fst).all fun k => k ∈ allowed := fun fs => by rw [List.all_map]; rfl
  rw [keysAre, keysAre, hall, hall, hk h]

/-- The values under a key are related. -/
theorem Alike.item (h : Alike rel v w) (hrefl : ∀ k, rel k .null .null) (k : String) :
    rel k (item v k) (item w k) := by
  obtain ⟨h⟩ := h
  rw [Planning.item, Planning.item, Json.get?, Json.get?]
  induction h with
  | nil => exact hrefl k
  | @cons p q fs gs hpq _ ih =>
    rw [List.find?_cons, List.find?_cons]
    by_cases hk : p.1 = k
    · have hq : q.1 = k := hpq.1 ▸ hk
      rw [decide_eq_true hk, decide_eq_true hq]
      exact hk ▸ hpq.2
    · have hq : ¬ q.1 = k := hpq.1 ▸ hk
      rw [decide_eq_false hk, decide_eq_false hq]
      exact ih

theorem Alike.isMapping (h : Alike rel v w) : isMapping w = true := by
  obtain ⟨h⟩ := h
  rfl

theorem Alike.length (h : Alike rel v w)
    (hlen : ∀ k v w, rel k v w → v.spaced.length = w.spaced.length) :
    v.spaced.length = w.spaced.length := by
  obtain ⟨h⟩ := h
  exact Json.spaced_length_obj (h.imp fun p q hpq => ⟨hpq.1, hlen _ _ _ hpq.2⟩)

theorem Shuffled.length (h : Shuffled v w) : v.spaced.length = w.spaced.length := by
  obtain ⟨h⟩ := h
  exact Json.spaced_length_arr (h.map _)

theorem PermutedTask.length (h : PermutedTask v w) : v.spaced.length = w.spaced.length := by
  refine Alike.length h fun k v w hvw => ?_
  rcases hvw with rfl | ⟨-, hs⟩
  · rfl
  · exact hs.length

theorem PermutedTasks.length (h : PermutedTasks v w) : v.spaced.length = w.spaced.length := by
  obtain ⟨h, hp⟩ := h
  refine Json.spaced_length_arr (List.Perm.trans (List.Perm.of_eq ?_) (hp.map _))
  clear hp
  induction h with
  | nil => rfl
  | cons hvw _ ih => rw [List.map_cons, List.map_cons, PermutedTask.length hvw, ih]

theorem Permuted.length (h : Permuted v w) : v.spaced.length = w.spaced.length := by
  refine Alike.length h fun k v w hvw => ?_
  rcases hvw with rfl | ⟨-, hs⟩ | ⟨-, ht⟩
  · rfl
  · exact hs.length
  · exact ht.length

theorem PermutedTask.item_eq {raw raw' : Json} (h : PermutedTask raw raw') {k : String}
    (hk : k ∉ taskSets) : item raw' k = item raw k := by
  rcases Alike.item h (fun _ => .inl rfl) k with he | ⟨hm, -⟩
  · exact he.symm
  · exact absurd hm hk

/-- Acceptance does not depend on the order of the tasks. -/
theorem Accepted.perm {ts ts' : List TaskRequirement} (h : Accepted ts) (hp : ts.Perm ts') :
    Accepted ts' where
  nodup := (hp.map _).nodup_iff.mp h.nodup
  count_le := by
    have hsum := (hp.map fun t => t.dependencies.length).sum_nat
    rw [dependencyCount, ← hsum]
    exact h.count_le
  known t ht d hd := (hp.map _).mem_iff.mp (h.known t (hp.mem_iff.mpr ht) d hd)
  resolved t ht := h.resolved t (hp.mem_iff.mpr ht)

end Records

/-! ### Accepting a permuted candidate -/

section Accepting

variable [Whitespace]

/-- Set-valued fields are read as sets. -/
theorem stringItems_shuffled {code : String} {allowEmpty : Bool} {v w : Json} {r : List String}
    (h : stringItems code allowEmpty v = .ok r) (hs : Shuffled v w) :
    stringItems code allowEmpty w = .ok r := by
  obtain ⟨xs, found, hv, hl, hf, he, hn, rfl⟩ := stringItems_eq_ok.mp h
  obtain ⟨hp⟩ := hs
  cases hv
  -- the texts of the permuted items are the permuted texts
  obtain ⟨found', hf', hp'⟩ := List.perm_comp_forall₂ hp.symm hf
  refine stringItems_eq_ok.mpr ⟨_, found', rfl, hp.length_eq ▸ hl, hf', ?_, hp'.nodup_iff.mpr hn,
    Kahn.insertionSort_eq_of_perm hp'.symm⟩
  rcases he with he | he
  · exact .inl he
  · exact .inr fun h0 => he (by rw [h0] at hp'; exact hp'.nil_eq.symm)

theorem PermutedTask.stringItems_eq {raw raw' : Json} (h : PermutedTask raw raw') {k code : String}
    {allowEmpty : Bool} {r : List String} (hr : stringItems code allowEmpty (item raw k) = .ok r) :
    stringItems code allowEmpty (item raw' k) = .ok r := by
  rcases Alike.item h (fun _ => .inl rfl) k with he | ⟨-, hs⟩
  · rwa [← he]
  · exact stringItems_shuffled hr hs

variable [CharacterTables] {rev : String}

theorem Reads.permuted {raw raw' : Json} {t : TaskRequirement} (hr : Reads rev raw t)
    (h : PermutedTask raw raw') : Reads rev raw' t where
  keys := by rw [← Alike.keys h]; exact hr.keys
  id := by rw [h.item_eq (by decide)]; exact hr.id
  requirementId := hr.requirementId
  revision := hr.revision
  taskType := by rw [h.item_eq (by decide)]; exact hr.taskType
  dependencies := by
    obtain ⟨listed, ds, hlisted, hds, he⟩ := hr.dependencies
    exact ⟨listed, ds, h.stringItems_eq hlisted, hds, he⟩
  others := hr.others
  ordinal := by rw [h.item_eq (by decide)]; exact hr.ordinal
  purpose := by rw [h.item_eq (by decide)]; exact hr.purpose
  inputs := h.stringItems_eq hr.inputs
  outputs := h.stringItems_eq hr.outputs
  constraints := h.stringItems_eq hr.constraints
  acceptance := h.stringItems_eq hr.acceptance
  risk := by rw [h.item_eq (by decide)]; exact hr.risk
  approval := by rw [h.item_eq (by decide)]; exact hr.approval
  unresolved := h.stringItems_eq hr.unresolved

theorem parseTasks_permuted {xs us ys : List Json} {ts : List TaskRequirement}
    (h : parseTasks rev xs = .ok ts) (hu : List.Forall₂ PermutedTask xs us) (hp : us.Perm ys) :
    ∃ ts', parseTasks rev ys = .ok ts' ∧ ts.Perm ts' := by
  obtain ⟨hreads, hacc⟩ := parseTasks_eq_ok.mp h
  have hreads' : List.Forall₂ (Reads rev) us ts := by
    clear h hp hacc
    induction hu generalizing ts with
    | nil => exact hreads
    | cons hab _ ih =>
      obtain ⟨t, ts', hr, hrest, rfl⟩ := List.forall₂_cons_left_iff.mp hreads
      exact .cons (hr.permuted hab) (ih hrest)
  obtain ⟨ts', hf, hp'⟩ := List.perm_comp_forall₂ hp.symm hreads'
  exact ⟨ts', parseTasks_eq_ok.mpr ⟨hf, hacc.perm hp'.symm⟩, hp'.symm⟩

/-- A permuted candidate is parsed with the same content and permuted tasks. -/
theorem parseIntentCandidate_permuted {question : BusinessQuestion} {raw raw' : Json}
    {generator : Generator} {c : IntentCandidate}
    (h : parseIntentCandidate question raw generator = .ok c) (hp : Permuted raw raw') :
    ∃ id raws us, parseIntentCandidate question raw' generator
        = .ok { c with candidateId := id, rawTasks := raws } ∧
      List.Forall₂ PermutedTask c.rawTasks us ∧ us.Perm raws := by
  have hrefl : ∀ k, (Json.null = Json.null ∨ (k ∈ candidateSets ∧ Shuffled .null .null) ∨
      (k = "tasks" ∧ PermutedTasks .null .null)) := fun _ => .inl rfl
  have hitem : ∀ k, k ∉ candidateSets → k ≠ "tasks" → item raw' k = item raw k := by
    intro k hk ht
    rcases Alike.item hp hrefl k with he | ⟨hm, -⟩ | ⟨he, -⟩
    · exact he.symm
    · exact absurd hm hk
    · exact absurd he ht
  have hset : ∀ k {code : String} {allowEmpty : Bool} {r : List String}, k ≠ "tasks" →
      stringItems code allowEmpty (item raw k) = .ok r →
      stringItems code allowEmpty (item raw' k) = .ok r := by
    intro k code allowEmpty r ht hr
    rcases Alike.item hp hrefl k with he | ⟨-, hs⟩ | ⟨he, -⟩
    · rwa [← he]
    · exact stringItems_shuffled hr hs
    · exact absurd he ht
  simp only [parseIntentCandidate, ite_error_eq_ok', bind_eq_ok, not_not, Nat.not_lt,
    Except.ok.injEq] at h ⊢
  obtain ⟨-, hlen, hkeys, tasks, htasks, gid, hgid, gv, hgv, o, ho, cs, hcs, sc, hsc, as, has, us,
    hus, rfl⟩ := h
  obtain ⟨hraw, hne, hl, hm⟩ := rawTasks_eq_ok.mp htasks
  -- the raw tasks of the permuted candidate pass the same checks
  have htasks' : ∃ vs ys, rawTasks (item raw' "tasks") = .ok ys ∧
      List.Forall₂ PermutedTask tasks vs ∧ vs.Perm ys := by
    rcases Alike.item hp hrefl "tasks" with he | ⟨hmem, -⟩ | ⟨-, ht⟩
    · refine ⟨tasks, tasks, by rw [← he]; exact htasks, ?_, .refl _⟩
      refine List.forall₂_same.mpr fun raw hr => ?_
      have hmap := hm raw hr
      cases raw with
      | obj fs => exact .record (List.forall₂_same.mpr fun p _ => ⟨rfl, .inl rfl⟩)
      | _ => cases hmap
    · exact absurd hmem (by decide)
    · rw [hraw] at ht
      generalize hw : item raw' "tasks" = w at ht ⊢
      obtain ⟨hf, hperm⟩ := ht
      rename_i vs ys
      have hlen : ys.length = tasks.length := hperm.length_eq.symm.trans hf.length_eq.symm
      refine ⟨vs, ys, rawTasks_eq_ok.mpr ⟨rfl, fun h0 => hne ?_, hlen ▸ hl, fun raw hr => ?_⟩, hf,
        hperm⟩
      · rw [h0] at hlen
        exact List.length_eq_zero_iff.mp hlen.symm
      · obtain ⟨raw₀, -, hr₀⟩ := exists_of_forall₂ hf raw (hperm.mem_iff.mpr hr)
        exact Alike.isMapping hr₀
  obtain ⟨vs, ys, hys, hf, hperm⟩ := htasks'
  refine ⟨_, ys, vs, ⟨Alike.isMapping hp, hp.length ▸ hlen, (Alike.keys hp _) ▸ hkeys, ys, hys, gid,
    hgid, gv, hgv, o, ?_, cs, hset _ (by decide) hcs, sc, hset _ (by decide) hsc, as,
    hset _ (by decide) has, us, hset _ (by decide) hus, rfl⟩, hf, hperm⟩
  rw [hitem "objective" (by decide) (by decide)]
  exact ho

/-- **A permuted candidate is accepted as the same workflow candidate.** -/
theorem buildCandidate_permuted {policy : Identifier} {question : BusinessQuestion}
    {raw raw' : Json} {generator : Generator} {predecessor : Option CanonicalWorkflowRevision}
    {c : IntentCandidate} {w : WorkflowCandidate}
    (h : buildCandidate policy question raw generator predecessor = .ok (c, w))
    (hp : Permuted raw raw') :
    ∃ c', buildCandidate policy question raw' generator predecessor = .ok (c', w) := by
  simp only [buildCandidate, attach_bind_eq_ok] at h
  obtain ⟨c₀, hc, ts, hts, ids, hids, h⟩ := h
  obtain ⟨id, raws, us, hc', hf, hperm⟩ := parseIntentCandidate_permuted hc hp
  obtain ⟨ts', hts', hpt⟩ := parseTasks_permuted hts hf hperm
  have hn := (parseTasks_eq_ok.mp hts).2.nodup
  have hids' : orderedTasks ts' = .ok ids := by rw [← orderedTasks_perm hn hpt]; exact hids
  refine ⟨{ c₀ with candidateId := id, rawTasks := raws }, ?_⟩
  simp only [buildCandidate, attach_bind_eq_ok]
  refine ⟨_, hc', ts', hts', ids, hids', ?_⟩
  cases h
  have htasks : tasksInOrder ts' ids = tasksInOrder ts ids := by
    rw [tasksInOrder, tasksInOrder, byId_perm hn hpt]
  simp only [intentOf, htasks]

end Accepting

/-! ### Canonical forms -/

theorem texts_injective {l l' : List String} (h : texts l = texts l') : l = l' :=
  List.map_injective_iff.mpr (fun _ _ he => by cases he; rfl) (Json.arr.inj h)

theorem ascii_append {a b : String} (ha : ∀ c ∈ a.toList, c.toNat < 128)
    (hb : ∀ c ∈ b.toList, c.toNat < 128) : ∀ c ∈ (a ++ b).toList, c.toNat < 128 := by
  intro c hc
  rw [String.toList_append, List.mem_append] at hc
  rcases hc with hc | hc
  · exact ha c hc
  · exact hb c hc

theorem isHex64_ascii {s : String} (h : isHex64 s = true) : ∀ c ∈ s.toList, c.toNat < 128 := by
  intro c hc
  simp only [isHex64_eq, Bool.and_eq_true, List.all_eq_true] at h
  have hdigits : ∀ d ∈ ['0', '1', '2', '3', '4', '5', '6', '7', '8', '9', 'a', 'b', 'c', 'd', 'e',
    'f'], d.toNat < 128 := by decide
  exact hdigits c (by simpa [isHexDigit] using h.2 c hc)

theorem IntentRevision.ascii (i : IntentRevision) :
    ∀ c ∈ i.intentRevisionId.toList, c.toNat < 128 := by
  rw [i.id_eq]
  exact ascii_append (by decide) (isHex64_ascii i.digest_hex)

theorem CanonicalWorkflowRevision.ascii (r : CanonicalWorkflowRevision) :
    ∀ c ∈ r.canonicalWorkflowRevisionId.toList, c.toNat < 128 := by
  rw [r.id_eq]
  exact ascii_append (by decide) (isHex64_ascii r.digest_hex)

section Forms

variable [Unicodedata]

/-- What the canonical text of a value determines. -/
def form (v : Json) : Json := (canonicalValue v).sortKeys

theorem canonicalFields_eq_map (fs : List (String × Json)) :
    canonicalFields fs = fs.map fun p => (p.1, canonicalValue p.2) := by
  induction fs with
  | nil => rfl
  | cons p fs ih => rw [canonicalFields, ih, List.map_cons]

theorem form_arr (vs : List Json) : form (.arr vs) = .arr (vs.map form) := by
  have h : Json.sortItems (canonicalItems vs) = vs.map form := by
    induction vs with
    | nil => rfl
    | cons v vs ih => rw [canonicalItems, Json.sortItems, ih, List.map_cons]; rfl
  rw [form, canonicalValue, Json.sortKeys, h]

@[simp] theorem form_str (s : String) : form (.str s) = .str (nfc s) := by
  rw [form, canonicalValue, Json.sortKeys]

@[simp] theorem form_int (n : Int) : form (.int n) = .int n := by
  rw [form, canonicalValue, Json.sortKeys]

theorem form_texts {l : List String} (h : ∀ s ∈ l, nfc s = s) : form (texts l) = texts l := by
  rw [texts, form_arr, List.map_map]
  refine congrArg Json.arr (List.map_congr_left fun s hs => ?_)
  rw [Function.comp_apply, form_str, h s hs]

theorem form_optStr {o : Option String} (h : ∀ s ∈ o, nfc s = s) :
    form (.optStr o) = .optStr o := by
  cases o with
  | none => rw [Json.optStr, form, canonicalValue, Json.sortKeys]
  | some s => rw [Json.optStr, form_str, h s rfl]

/-- Records with the same distinct keys and equal forms have fields with equal forms. -/
theorem form_obj_inj {fs gs : List (String × Json)} (hk : fs.map Prod.fst = gs.map Prod.fst)
    (hn : (fs.map Prod.fst).Nodup) (h : form (.obj fs) = form (.obj gs)) :
    fs.map (fun p => form p.2) = gs.map fun p => form p.2 := by
  have hperm : ∀ l : List (String × Json), ∃ l', form (.obj l) = .obj l' ∧
      l'.Perm (l.map fun p => (p.1, form p.2)) := by
    intro l
    refine ⟨_, by rw [form, canonicalValue, Json.sortKeys], ?_⟩
    refine (List.perm_insertionSort _ _).trans ?_
    rw [Json.sortFields_eq_map, canonicalFields_eq_map]
    refine ((List.perm_insertionSort _ _).map _).trans (List.Perm.of_eq ?_)
    rw [List.map_map]
    rfl
  obtain ⟨l, hl, hpl⟩ := hperm fs
  obtain ⟨l', hl', hpl'⟩ := hperm gs
  rw [hl, hl', Json.obj.injEq] at h
  subst h
  have hfst : ∀ l : List (String × Json),
      (l.map fun p => (p.1, form p.2)).map Prod.fst = l.map Prod.fst := by
    intro l
    rw [List.map_map]
    rfl
  have heq := Json.eq_of_perm_of_keys (hpl.symm.trans hpl') (by rw [hfst, hfst, hk])
    (by rw [hfst]; exact hn)
  have hsnd := congrArg (List.map Prod.snd) heq
  rwa [List.map_map, List.map_map] at hsnd

end Forms

/-! ### Normal candidates -/

section Normal

variable [Whitespace] [CharacterTables]

/-- Every text of a task is in normal form. -/
structure NormalTask (t : TaskRequirement) : Prop where
  requirementId : nfc t.taskRequirementId = t.taskRequirementId
  id : nfc t.futureTaskId = t.futureTaskId
  revision : nfc t.intentRevisionId = t.intentRevisionId
  taskType : nfc t.taskType = t.taskType
  purpose : nfc t.businessPurpose = t.businessPurpose
  inputs : ∀ s ∈ t.inputs, nfc s = s
  outputs : ∀ s ∈ t.outputs, nfc s = s
  dependencies : ∀ s ∈ t.dependencies, nfc s = s
  constraints : ∀ s ∈ t.constraints, nfc s = s
  acceptance : ∀ s ∈ t.acceptanceConditions, nfc s = s
  risk : nfc t.riskClassification = t.riskClassification
  approval : nfc t.approvalClassification = t.approvalClassification
  unresolved : ∀ s ∈ t.unresolvedRequirements, nfc s = s

theorem Reads.normal {rev : String} (hrev : ∀ c ∈ rev.toList, c.toNat < 128) {raw : Json}
    {t : TaskRequirement} (h : Reads rev raw t) : NormalTask t := by
  obtain ⟨i, -, hid⟩ := h.id
  obtain ⟨ty, -, -, hty⟩ := h.taskType
  obtain ⟨listed, ds, -, -, hdeps⟩ := h.dependencies
  obtain ⟨r, -, hrisk⟩ := h.risk
  obtain ⟨ap, -, happ⟩ := h.approval
  refine ⟨?_, ?_, ?_, ?_, text_nfc h.purpose, stringItems_nfc h.inputs, stringItems_nfc h.outputs,
    ?_, stringItems_nfc h.constraints, stringItems_nfc h.acceptance, ?_, ?_,
    stringItems_nfc h.unresolved⟩
  · rw [h.requirementId, hid]
    refine Unicodedata.nfc_ascii _ (ascii_append (ascii_append (ascii_append ?_ hrev) ?_) i.ascii)
    · decide
    · decide
  · rw [hid]
    exact i.nfc_value
  · rw [h.revision]
    exact Unicodedata.nfc_ascii _ hrev
  · rw [hty]
    exact ty.nfc_upper
  · intro s hs
    rw [hdeps, List.mem_insertionSort] at hs
    obtain ⟨d, -, rfl⟩ := List.mem_map.mp hs
    exact d.nfc_value
  · rw [hrisk]
    exact r.nfc_upper
  · rw [happ]
    exact ap.nfc_upper

/-- Every text of a workflow candidate is in normal form. -/
structure NormalCandidate (w : WorkflowCandidate) : Prop where
  intentId : nfc w.intentRevision.intentId = w.intentRevision.intentId
  intentPredecessor : ∀ s ∈ w.intentRevision.predecessorRevisionId, nfc s = s
  objective : nfc w.intentRevision.objective = w.intentRevision.objective
  constraints : ∀ s ∈ w.intentRevision.constraints, nfc s = s
  successCriteria : ∀ s ∈ w.intentRevision.successCriteria, nfc s = s
  tasks : ∀ t ∈ w.tasks, NormalTask t
  orderedTaskIds : ∀ s ∈ w.orderedTaskIds, nfc s = s
  predecessor : ∀ s ∈ w.predecessorRevisionId, nfc s = s
  -- what `validate` derives from the rest
  schema : w.intentRevision.schemaVersion = schemaVersion
  digest : w.intentRevision.canonicalDigest
    = digest (w.intentRevision.seed w.tenantId w.securityDomain)

theorem parseIntentCandidate_normal {question : BusinessQuestion} {raw : Json}
    {generator : Generator} {c : IntentCandidate}
    (h : parseIntentCandidate question raw generator = .ok c) :
    nfc c.objective = c.objective ∧ (∀ s ∈ c.constraints, nfc s = s) ∧
      ∀ s ∈ c.successCriteria, nfc s = s := by
  simp only [parseIntentCandidate, ite_error_eq_ok', bind_eq_ok, Except.ok.injEq] at h
  obtain ⟨-, -, -, _, -, _, -, _, -, o, ho, cs, hcs, sc, hsc, _, -, _, -, rfl⟩ := h
  exact ⟨text_nfc ho, stringItems_nfc hcs, stringItems_nfc hsc⟩

/-- **An accepted candidate is in normal form.** -/
theorem buildCandidate_normal {policy : Identifier} {question : BusinessQuestion} {raw : Json}
    {generator : Generator} {predecessor : Option CanonicalWorkflowRevision} {c : IntentCandidate}
    {w : WorkflowCandidate}
    (h : buildCandidate policy question raw generator predecessor = .ok (c, w)) :
    NormalCandidate w := by
  simp only [buildCandidate, attach_bind_eq_ok] at h
  obtain ⟨c₀, hc, ts, hts, ids, hids, h⟩ := h
  cases h
  obtain ⟨ho, hcs, hsc⟩ := parseIntentCandidate_normal hc
  obtain ⟨hreads, hacc⟩ := parseTasks_eq_ok.mp hts
  obtain ⟨hperm, -, -⟩ := orderedTasks_spec hacc.nodup hids
  have hnormal : ∀ t ∈ ts, NormalTask t := by
    intro t ht
    obtain ⟨raw, -, hr⟩ := exists_of_forall₂ hreads t ht
    exact hr.normal (IntentRevision.ascii _)
  refine ⟨?_, ?_, ho, hcs, hsc, fun t ht => ?_, fun s hs => ?_, ?_, rfl, rfl⟩
  · exact Unicodedata.nfc_ascii _ (ascii_append (by decide) question.requestId.ascii)
  · intro s hs
    obtain ⟨p, -, rfl⟩ := Option.map_eq_some_iff.mp hs
    exact Unicodedata.nfc_ascii _ p.intentRevision.ascii
  · exact hnormal t ((tasksInOrder_perm hacc.nodup hperm).mem_iff.mp ht)
  · obtain ⟨t, ht, rfl⟩ := List.mem_map.mp (hperm.mem_iff.mp hs)
    exact (hnormal t ht).id
  · intro s hs
    obtain ⟨p, -, rfl⟩ := Option.map_eq_some_iff.mp hs
    exact Unicodedata.nfc_ascii _ p.ascii

end Normal

/-! ### The digest determines the content -/

section Content

variable [Unicodedata]

/-- The content a candidate digest is taken of. -/
def WorkflowCandidate.content (w : WorkflowCandidate) : Json :=
  semantic w.policyVersion w.tenantId w.securityDomain
    (w.intentRevision.seed w.tenantId w.securityDomain) w.tasks w.orderedTaskIds
    w.predecessorRevisionId

theorem identifier_ext {i j : Identifier} (h : nfc i.value = nfc j.value) : i = j := by
  rw [i.nfc_value, j.nfc_value] at h
  obtain ⟨v, hv⟩ := i
  obtain ⟨w, hw⟩ := j
  cases h
  rfl

theorem form_of_digest {T : Set String} (hc : CollisionFreeOn T) {v w : Json}
    (hv : canonicalJson v ∈ T) (hw : canonicalJson w ∈ T) (h : digest v = digest w) :
    form v = form w :=
  Json.dumps_injective (hc hv hw h)

/-- The policy and the scope can be read off a digest. -/
theorem semantic_scope {p p' t t' d d' : Identifier} {i i' : Json} {ts ts' : List TaskRequirement}
    {ids ids' : List String} {q q' : Option String}
    (h : form (semantic p t d i ts ids q) = form (semantic p' t' d' i' ts' ids' q')) :
    p = p' ∧ t = t' ∧ d = d' := by
  rw [semantic, semantic] at h
  have hf := form_obj_inj (by rfl) (by simp) h
  simp only [List.map_cons, List.map_nil, List.cons.injEq, form_str, Json.str.injEq, true_and] at hf
  exact ⟨identifier_ext hf.1, identifier_ext hf.2.1, identifier_ext hf.2.2.1⟩

end Content

section Injective

variable [Whitespace]

theorem semanticTask_injective {t t' : TaskRequirement} (ht : NormalTask t) (ht' : NormalTask t')
    (h : form (semanticTask t) = form (semanticTask t')) : t = t' := by
  rw [semanticTask, semanticTask] at h
  have hf := form_obj_inj (by rfl) (by simp) h
  simp only [List.map_cons, List.map_nil, List.cons.injEq, form_str, form_int, Json.str.injEq,
    Json.int.injEq, Nat.cast_inj, and_true, form_texts ht.inputs, form_texts ht'.inputs,
    form_texts ht.outputs, form_texts ht'.outputs, form_texts ht.dependencies,
    form_texts ht'.dependencies, form_texts ht.constraints, form_texts ht'.constraints,
    form_texts ht.acceptance, form_texts ht'.acceptance, form_texts ht.unresolved,
    form_texts ht'.unresolved, ht.requirementId, ht'.requirementId, ht.id, ht'.id, ht.revision,
    ht'.revision, ht.taskType, ht'.taskType, ht.purpose, ht'.purpose, ht.risk, ht'.risk,
    ht.approval, ht'.approval] at hf
  obtain ⟨h1, h2, h3, h4, h5, h6, h7, h8, h9, h10, h11, h12, h13, h14⟩ := hf
  cases t
  cases t'
  simp only [TaskRequirement.mk.injEq]
  exact ⟨h1, h2, h3, h4, h5, texts_injective h6, texts_injective h7, texts_injective h8,
    texts_injective h9, texts_injective h10, h11, h12, texts_injective h13, h14⟩

theorem tasks_injective {ts ts' : List TaskRequirement} (ht : ∀ t ∈ ts, NormalTask t)
    (ht' : ∀ t ∈ ts', NormalTask t)
    (h : (ts.map fun t => form (semanticTask t)) = ts'.map fun t => form (semanticTask t)) :
    ts = ts' := by
  induction ts generalizing ts' with
  | nil => exact (List.map_eq_nil_iff.mp h.symm).symm
  | cons t ts ih =>
    cases ts' with
    | nil => cases h
    | cons t' ts' =>
      rw [List.map_cons, List.map_cons, List.cons.injEq] at h
      rw [List.forall_mem_cons] at ht ht'
      rw [semanticTask_injective ht.1 ht'.1 h.1, ih ht.2 ht'.2 h.2]

theorem intentRevision_ext {w w' : WorkflowCandidate} (hw : NormalCandidate w)
    (hw' : NormalCandidate w') (ht : w.tenantId = w'.tenantId)
    (hd : w.securityDomain = w'.securityDomain)
    (h : form (w.intentRevision.seed w.tenantId w.securityDomain)
      = form (w'.intentRevision.seed w'.tenantId w'.securityDomain)) :
    w.intentRevision = w'.intentRevision := by
  rw [IntentRevision.seed, IntentRevision.seed, intentSeed, intentSeed] at h
  have hf := form_obj_inj (by rfl) (by simp) h
  simp only [List.map_cons, List.map_nil, List.cons.injEq, form_str, form_int, Json.str.injEq,
    Json.int.injEq, Nat.cast_inj, and_true, true_and, form_texts hw.constraints,
    form_texts hw'.constraints, form_texts hw.successCriteria, form_texts hw'.successCriteria,
    form_optStr hw.intentPredecessor, form_optStr hw'.intentPredecessor, hw.intentId, hw'.intentId,
    hw.objective, hw'.objective] at hf
  obtain ⟨hpol, hid, hrev, hpred, hq, ho, hcs, hsc, -, -⟩ := hf
  have hpol := identifier_ext hpol
  have hq := identifier_ext hq
  have hpred := Json.optStr_injective hpred
  have hcs := texts_injective hcs
  have hsc := texts_injective hsc
  have hdigest : w.intentRevision.canonicalDigest = w'.intentRevision.canonicalDigest := by
    rw [hw.digest, hw'.digest, ht, hd, IntentRevision.seed, IntentRevision.seed, hpol, hid, hrev,
      hpred, hq, ho, hcs, hsc]
  have hschema : w.intentRevision.schemaVersion = w'.intentRevision.schemaVersion := by
    rw [hw.schema, hw'.schema]
  have hrid : w.intentRevision.intentRevisionId = w'.intentRevision.intentRevisionId := by
    rw [w.intentRevision.id_eq, w'.intentRevision.id_eq, hdigest]
  cases hi : w.intentRevision
  cases hi' : w'.intentRevision
  simp only [hi, hi'] at hpol hid hrev hpred hq ho hcs hsc hdigest hschema hrid
  simp only [IntentRevision.mk.injEq]
  exact ⟨hid, hrid, hrev, hpred, hschema, hpol, hq, ho, hcs, hsc, hdigest⟩

/-- **The canonical text determines the content** of candidates in normal form. -/
theorem content_injective {w w' : WorkflowCandidate} (hw : NormalCandidate w)
    (hw' : NormalCandidate w') (h : form w.content = form w'.content) :
    w.tenantId = w'.tenantId ∧ w.securityDomain = w'.securityDomain ∧
      w.predecessorRevisionId = w'.predecessorRevisionId ∧
      w.intentRevision = w'.intentRevision ∧ w.tasks = w'.tasks ∧
      w.orderedTaskIds = w'.orderedTaskIds := by
  rw [WorkflowCandidate.content, WorkflowCandidate.content] at h
  obtain ⟨-, ht, hd⟩ := semantic_scope h
  rw [semantic, semantic] at h
  have hf := form_obj_inj (by rfl) (by simp) h
  simp only [List.map_cons, List.map_nil, List.cons.injEq, form_arr, List.map_map, and_true,
    form_texts hw.orderedTaskIds, form_texts hw'.orderedTaskIds, form_optStr hw.predecessor,
    form_optStr hw'.predecessor, Json.arr.injEq] at hf
  obtain ⟨-, -, -, -, -, hi, hts, hids, hp⟩ := hf
  exact ⟨ht, hd, Json.optStr_injective hp, intentRevision_ext hw hw' ht hd hi,
    tasks_injective hw.tasks hw'.tasks hts, texts_injective hids⟩

end Injective

/-! ### Validation -/

section Validation

variable [Whitespace] [CharacterTables] {e : Engine} {question : BusinessQuestion} {raw : Json}
  {generator : Generator} {predecessor : Option CanonicalWorkflowRevision}

/-- A result with a workflow candidate comes from a candidate that was built. -/
theorem validate_accepted {result : PlanningResult} {w : WorkflowCandidate}
    (h : (e.validate question raw generator predecessor).1 = .ok result)
    (hw : result.workflowCandidate = some w) :
    predecessor.toList.forM (assertScope question.tenantId question.securityDomain) = .ok () ∧
      ∃ c, buildCandidate e.policyVersion question raw generator predecessor = .ok (c, w) := by
  rw [Engine.validate] at h
  split at h
  · cases h
  · rename_i hscope
    refine ⟨hscope, ?_⟩
    split at h
    · split at h
      · cases h
      · -- a refused candidate has no workflow
        rename_i hrefused
        cases h
        simp only [refused, bind_eq_ok, Except.ok.injEq] at hrefused
        obtain ⟨_, -, _, -, rfl⟩ := hrefused
        cases hw
    · rename_i c w' hbuild
      cases h
      cases hw
      exact ⟨c, hbuild⟩

/-- A candidate that was built is returned. -/
theorem validate_of_build
    (hscope : predecessor.toList.forM (assertScope question.tenantId question.securityDomain)
      = .ok ()) {c : IntentCandidate} {w : WorkflowCandidate}
    (h : buildCandidate e.policyVersion question raw generator predecessor = .ok (c, w)) :
    ∃ result, (e.validate question raw generator predecessor).1 = .ok result ∧
      result.workflowCandidate = some w := by
  rw [Engine.validate, hscope]
  dsimp only
  rw [h]
  exact ⟨_, rfl, rfl⟩

/-- **Planning digests are canonical.** Permuting an accepted candidate changes
neither its tasks nor their order nor its digest, and equal digests are digests of
equal scope, predecessor, intent and tasks. -/
theorem planning_digest_canonical (e : Engine) (question : BusinessQuestion) (raw : Json)
    (generator : Generator) (predecessor : Option CanonicalWorkflowRevision)
    (result : PlanningResult) (w : WorkflowCandidate)
    (h : (e.validate question raw generator predecessor).1 = .ok result)
    (hw : result.workflowCandidate = some w) :
    (∀ raw', Permuted raw raw' → ∃ result' w',
      (e.validate question raw' generator predecessor).1 = .ok result' ∧
      result'.workflowCandidate = some w' ∧ w'.tasks = w.tasks ∧
      w'.orderedTaskIds = w.orderedTaskIds ∧ w'.candidateDigest = w.candidateDigest) ∧
    ∀ (e' : Engine) (question' : BusinessQuestion) (raw' : Json) (generator' : Generator)
      (predecessor' : Option CanonicalWorkflowRevision) (result' : PlanningResult)
      (w' : WorkflowCandidate),
      (e'.validate question' raw' generator' predecessor').1 = .ok result' →
      result'.workflowCandidate = some w' →
      CollisionFreeOn {canonicalJson w.content, canonicalJson w'.content} →
      w.candidateDigest = w'.candidateDigest →
      w.tenantId = w'.tenantId ∧ w.securityDomain = w'.securityDomain ∧
        w.predecessorRevisionId = w'.predecessorRevisionId ∧
        w.intentRevision = w'.intentRevision ∧ w.tasks = w'.tasks ∧
        w.orderedTaskIds = w'.orderedTaskIds := by
  obtain ⟨hscope, c, hbuild⟩ := validate_accepted h hw
  constructor
  · intro raw' hp
    obtain ⟨c', hbuild'⟩ := buildCandidate_permuted hbuild hp
    obtain ⟨result', hr, hw'⟩ := validate_of_build hscope hbuild'
    exact ⟨result', w, hr, hw', rfl, rfl, rfl⟩
  · intro e' question' raw' generator' predecessor' result' w' h' hw' hcf hdigest
    obtain ⟨-, c', hbuild'⟩ := validate_accepted h' hw'
    have hsame : digest w.content = digest w'.content := by
      rw [WorkflowCandidate.content, WorkflowCandidate.content, ← w.digest_eq, ← w'.digest_eq]
      exact hdigest
    have hform := form_of_digest hcf (.inl rfl) (.inr rfl) hsame
    exact content_injective (buildCandidate_normal hbuild) (buildCandidate_normal hbuild') hform

end Validation

/-! ### A sample plan -/

namespace Sample

scoped instance : Whitespace := .identity

scoped instance : CharacterTables := .ascii

/-- An identifier, checked by evaluation. -/
abbrev ident (value : String) (h : isIdentifier value = true := by exact Eq.refl true) :
    Identifier :=
  ⟨value, h⟩

def question : BusinessQuestion :=
  ⟨ident "request.q-1042", ident "tenant.acme", ident "quality.restricted", ident "human.reviewer",
    "en-us", ident "supplier-quality", "Assess supplier defect trends for lot Q-1042",
    ⟨0, zero_lt_maxMicros⟩, ident "product.question"⟩

def generator : Generator := ⟨"reference", "v1"⟩

def task (id : String) (inputs dependencies : List String) (ordinal : Nat) : Json :=
  .obj [
    ("id", .str id), ("type", .str "analyze"), ("purpose", .str "Analyze"),
    ("inputs", texts inputs), ("outputs", texts ["report"]), ("dependencies", texts dependencies),
    ("constraints", texts []), ("acceptance_conditions", texts ["reviewable"]),
    ("risk", .str "low"), ("approval", .str "human"), ("unresolved", texts []),
    ("ordinal", .int ordinal)]

def candidate (tasks : List Json) : Json :=
  .obj [
    ("objective", .str "Assess defects"), ("constraints", texts ["read only"]),
    ("success_criteria", texts ["trend is known"]), ("assumptions", texts []),
    ("uncertainties", texts []), ("tasks", .arr tasks)]

def collect : Json := task "collect" ["lots", "defects"] [] 0

def analyze : Json := task "analyze" [] ["collect"] 1

/-- `collect` with its inputs in the other order. -/
def collect' : Json := task "collect" ["defects", "lots"] [] 0

def engine : Engine := .new (ident "supplier-quality.v1")

theorem permuted : Permuted (candidate [collect, analyze]) (candidate [analyze, collect']) := by
  have htask : ∀ id inputs inputs' deps n, inputs.Perm inputs' →
      PermutedTask (task id inputs deps n) (task id inputs' deps n) := by
    intro id inputs inputs' deps n hp
    refine .record (.cons ⟨rfl, .inl rfl⟩ (.cons ⟨rfl, .inl rfl⟩ (.cons ⟨rfl, .inl rfl⟩
      (.cons ⟨rfl, .inr ⟨?_, .items (hp.map _)⟩⟩ (List.forall₂_same.mpr fun _ _ => ⟨rfl, .inl rfl⟩)))))
    simp [taskSets]
  have htasks : PermutedTasks (.arr [collect, analyze]) (.arr [analyze, collect']) :=
    .tasks (.cons (htask _ _ _ _ _ (.swap _ _ _)) (.cons (htask _ _ _ _ _ (.refl _)) .nil))
      (.swap _ _ _)
  refine .record (.cons ⟨rfl, .inl rfl⟩ (.cons ⟨rfl, .inl rfl⟩ (.cons ⟨rfl, .inl rfl⟩
    (.cons ⟨rfl, .inl rfl⟩ (.cons ⟨rfl, .inl rfl⟩ (.cons ⟨rfl, ?_⟩ .nil))))))
  exact .inr (.inr ⟨rfl, htasks⟩)

theorem accepted : ∃ c w,
    buildCandidate engine.policyVersion question (candidate [collect, analyze]) generator none
      = .ok (c, w) := by
  have h : (buildCandidate engine.policyVersion question (candidate [collect, analyze]) generator
    none).isOk = true := by decide +kernel
  rcases hb : buildCandidate engine.policyVersion question (candidate [collect, analyze]) generator
    none with code | ⟨c, w⟩
  · rw [hb] at h
    cases h
  · exact ⟨c, w, rfl⟩

end Sample

open Sample in
/-- Two tasks and their reversal have one plan. -/
theorem planning_digest_canonical_sample : ∃ (result result' : PlanningResult)
    (w w' : WorkflowCandidate),
    (engine.validate question (candidate [collect, analyze]) generator none).1 = .ok result ∧
    result.workflowCandidate = some w ∧
    (engine.validate question (candidate [analyze, collect']) generator none).1 = .ok result' ∧
    result'.workflowCandidate = some w' ∧ w'.tasks = w.tasks ∧
    w'.orderedTaskIds = w.orderedTaskIds ∧ w'.candidateDigest = w.candidateDigest ∧
    w.tenantId = w'.tenantId ∧ w.intentRevision = w'.intentRevision := by
  obtain ⟨c, w, hbuild⟩ := accepted
  obtain ⟨result, h, hw⟩ := validate_of_build (e := engine) rfl hbuild
  obtain ⟨hperm, hinj⟩ := planning_digest_canonical engine question _ generator none result w h hw
  obtain ⟨result', w', h', hw', htasks, hids, hdigest⟩ := hperm _ permuted
  -- both candidates hash one text
  have hsame : w' = w := by
    obtain ⟨c', hbuild'⟩ := buildCandidate_permuted hbuild permuted
    obtain ⟨-, c'', hbuild''⟩ := validate_accepted h' hw'
    rw [hbuild'] at hbuild''
    cases hbuild''
    rfl
  have hcf : CollisionFreeOn {canonicalJson w.content, canonicalJson w'.content} := by
    rw [hsame, Set.pair_eq_singleton]
    exact Set.injOn_singleton _ _
  obtain ⟨ht, -, -, hi, -⟩ := hinj engine question _ generator none result' w' h' hw' hcf hdigest.symm
  exact ⟨result, result', w, w', h, hw, h', hw', htasks, hids, hdigest, ht, hi⟩

end Planning
end AgentPlatform
