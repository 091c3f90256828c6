/-
AgentPlatform/Execution/Snapshot.lean

`assemble_execution_snapshot`: one shared snapshot of a workflow, its tasks and the
evidence of an execution, and `_validated_snapshots`, which takes the identifier of a
snapshot for the snapshot.

The identifier is a digest of a part of the snapshot: whether it is stale, the names of
the resources and what the repository adds to a record are left out, and two tasks that
share their identifier and name are not told apart by the sort. **`snapshot_exact`**
says for each of these that nothing else can differ.
-/
import AgentPlatform.ExecutionEvidence
import AgentPlatform.Graph.Build
import AgentPlatform.Order.Buckets
import AgentPlatform.Order.Register
import AgentPlatform.Py.Isoformat

namespace AgentPlatform
namespace ExecutionSnapshot

open Py
open Graph (CanonicalGraph)
open Sorting (sortBy firsts register)

deriving instance DecidableEq for EvidenceFields

/-! ### Records -/

/-- A record with the metadata of the repository, which is no part of its payload. -/
structure StoredRecord where
  record : ExecutionEvidenceRecord
  storageSequence : Option Int
  recordedAt : Option Datetime
  deriving DecidableEq

structure KubernetesIdentityVersion where
  uid : String
  resourceVersion : String
  name : String
  deriving DecidableEq

inductive SnapshotState
  | complete
  | incomplete
  | stale
  | authorityMissing
  | denied
  | notFound
  | error
  deriving DecidableEq

structure SharedExecutionSnapshot where
  schemaVersion : Int
  assemblerVersion : String
  state : SnapshotState
  namespaceName : String
  securityDomain : String
  platformExecutionIdentity : String
  sharedSnapshotId : String
  graphSnapshotId : String
  evidenceHighWaterMark : Int
  workflow : KubernetesIdentityVersion
  tasks : List KubernetesIdentityVersion
  evidence : List StoredRecord
  terminalEvidence : StoredRecord
  graph : CanonicalGraph
  limitationCodes : List String
  deriving DecidableEq

/-- The arguments of the assembler; `namespaceName` and `securityDomain` are its scope. -/
structure Inputs where
  namespaceName : String
  securityDomain : String
  workflow : List (String × Json)
  tasks : List (List (String × Json))
  evidence : List StoredRecord
  evidenceHighWaterMark : Int
  graph : CanonicalGraph
  selectedTaskIdentity : String
  stale : Bool

/-! ### The assembler -/

def identityVersion (resource : List (String × Json)) : Except String KubernetesIdentityVersion :=
  match resource.lookup "metadata" with
  | some (.obj metadata) =>
    match metadata.lookup "uid", metadata.lookup "resourceVersion", metadata.lookup "name" with
    | some (.str uid), some (.str resourceVersion), some (.str name) =>
      if strip uid = "" ∨ strip resourceVersion = "" ∨ strip name = "" then
        .error "KUBERNETES_IDENTITY_MISSING"
      else .ok ⟨uid, resourceVersion, name⟩
    | _, _, _ => .error "KUBERNETES_IDENTITY_MISSING"
  | _ => .error "KUBERNETES_IDENTITY_MISSING"

/-- The key the tasks are sorted by. -/
def taskSort (t : KubernetesIdentityVersion) : String ×ₗ String := toLex (t.uid, t.name)

/-- The key the evidence is sorted by. -/
def evidenceSort (e : StoredRecord) : Int ×ₗ (Int ×ₗ (String ×ₗ (String ×ₗ String))) :=
  toLex (e.record.attemptOrdinal, toLex (e.record.eventOrdinal,
    toLex (e.record.occurredAt.isoformatZ, toLex ((e.recordedAt.map Datetime.isoformatZ).getD "",
      e.record.evidenceRecordId))))

/-- All references of the evidence. -/
def references (evidence : List StoredRecord) : List AuthorizedReference :=
  evidence.flatMap (·.record.references)

/-- What the decision on a reference is kept under. -/
def referenceKey (r : AuthorizedReference) : ReferenceType × String :=
  (r.referenceType, r.referenceIdentity)

/-- One round of the loop over the references; a payload holds every field. -/
def addReference : List ((ReferenceType × String) × AuthorizedReference) → AuthorizedReference →
    Except String (List ((ReferenceType × String) × AuthorizedReference)) :=
  register referenceKey "REFERENCE_AUTHORIZATION_CONFLICT"

/-- The checks on the evidence; they return the execution it is of. -/
def checkEvidence (i : Inputs) (workflow : KubernetesIdentityVersion)
    (tasks : List KubernetesIdentityVersion) : Except String String :=
  if i.evidence.any fun e => e.record.namespaceName ≠ i.namespaceName ||
      e.record.securityDomain ≠ i.securityDomain || e.record.workflowIdentity ≠ workflow.uid ||
      e.record.taskIdentity ≠ i.selectedTaskIdentity then
    .error "EVIDENCE_SUBJECT_MISMATCH"
  else if i.selectedTaskIdentity ∉ tasks.map KubernetesIdentityVersion.uid then
    .error "TASK_IDENTITY_MISMATCH"
  else if (references i.evidence).any fun r =>
      r.namespaceName ≠ i.namespaceName || r.securityDomain ≠ i.securityDomain then
    .error "REFERENCE_SCOPE_MISMATCH"
  else do
    let _ ← (references i.evidence).foldlM addReference []
    if i.evidence.any fun e => e.storageSequence.any (i.evidenceHighWaterMark < ·) then
      .error "EVIDENCE_HIGH_WATER_CONFLICT"
    else
      match firsts (i.evidence.map (·.record.platformExecutionIdentity)) with
      | [execution] => .ok execution
      | _ => .error "EXECUTION_IDENTITY_CONFLICT"

/-- The record claims an allowed capability without a call of its provider. -/
def lacksCall (e : StoredRecord) : Bool :=
  e.record.authorizationDecision = .allow && e.record.capabilityIdentity.isSome &&
    decide (e.record.providerCallCount < 1)

def attemptRecords (evidence : List StoredRecord) (attempt : Int) : List StoredRecord :=
  evidence.filter (·.record.attemptOrdinal = attempt)

/-- The records of an attempt that end it. -/
def attemptTerminals (evidence : List StoredRecord) (attempt : Int) : List StoredRecord :=
  (attemptRecords evidence attempt).filter (·.record.eventType = .executionOutcome)

/-- `list(range(1, n + 1))`. -/
def ordinalsTo (n : Nat) : List Int := (List.range n).map fun k : Nat => (k : Int) + 1

/-- One round of the loop over the attempts: whether something is missing so far, and the
records that end an attempt. -/
def inspectAttempt (ordered : List StoredRecord) (found : Bool × List StoredRecord) (attempt : Int) :
    Except String (Bool × List StoredRecord) :=
  let ordinals := (attemptRecords ordered attempt).map (·.record.eventOrdinal)
  let gap := decide (ordinals ≠ ordinalsTo ordinals.length)
  match attemptTerminals ordered attempt with
  | [] => .ok (true, found.2)
  | [terminal] =>
    if ordinals.max? ≠ some terminal.record.eventOrdinal then .error "EVENT_AFTER_TERMINAL_EVIDENCE"
    else .ok (found.1 || gap || lacksCall terminal, found.2 ++ [terminal])
  | _ => .error "CONTRADICTORY_TERMINAL_EVIDENCE"

/-- `sorted({item.attempt_ordinal for item in ordered})`. -/
def attempts (ordered : List StoredRecord) : List Int :=
  (firsts (ordered.map (·.record.attemptOrdinal))).insertionSort (· ≤ ·)

/-- The record that ends the execution: that of the last attempt with one, or the last
record. -/
def terminalOf (ordered terminals : List StoredRecord) : Except String StoredRecord :=
  match terminals with
  | terminal :: rest => .ok (rest.foldl (fun best t =>
      if best.record.attemptOrdinal < t.record.attemptOrdinal then t else best) terminal)
  | [] =>
    match ordered.getLast? with
    | some terminal => .ok terminal
    | none => .error "IndexError"

def assemblerVersion : String := "execution-snapshot-v2"

/-- What the identifier of a snapshot is the digest of. -/
def identityInput (i : Inputs) (workflow : KubernetesIdentityVersion)
    (tasks : List KubernetesIdentityVersion) (execution : String) (ordered : List StoredRecord) : Json :=
  .obj [
    ("assemblerVersion", .str assemblerVersion),
    ("namespace", .str i.namespaceName),
    ("securityDomain", .str i.securityDomain),
    ("workflow", .arr [.str workflow.uid, .str workflow.resourceVersion]),
    ("tasks", .arr (tasks.map fun t => .arr [.str t.uid, .str t.resourceVersion])),
    ("platformExecutionIdentity", .str execution),
    ("evidenceHighWaterMark", .int i.evidenceHighWaterMark),
    ("evidence", .arr (ordered.map fun e =>
      .arr [.str e.record.evidenceRecordId, .str e.record.payloadDigest])),
    ("graphSnapshotId", .str i.graph.graphSnapshotId)]

def stateOf (stale missing : Bool) : SnapshotState :=
  if stale then .stale else if missing then .incomplete else .complete

/-- `tuple(sorted({item.limitation_code for item in ordered if item.limitation_code}))`. -/
def limitationCodes (ordered : List StoredRecord) : List String :=
  (firsts (ordered.filterMap fun e => e.record.limitationCode.filter (· ≠ ""))).insertionSort (· ≤ ·)

/-- The part after the checks, on the sorted tasks and the sorted evidence. -/
def assembleOrdered (i : Inputs) (workflow : KubernetesIdentityVersion)
    (tasks : List KubernetesIdentityVersion) (execution : String) (ordered : List StoredRecord) :
    Except String SharedExecutionSnapshot := do
  let (missing, terminals) ← (attempts ordered).foldlM (inspectAttempt ordered) (false, [])
  let terminal ← terminalOf ordered terminals
  let digest := sha256 (Json.dumps false (identityInput i workflow tasks execution ordered))
  .ok ⟨1, assemblerVersion, stateOf i.stale missing, i.namespaceName, i.securityDomain, execution,
    "execution-snapshot:v2:" ++ digest, i.graph.graphSnapshotId, i.evidenceHighWaterMark, workflow,
    tasks, ordered, terminal, i.graph, limitationCodes ordered⟩

def assembleExecutionSnapshot (i : Inputs) : Except String SharedExecutionSnapshot :=
  if i.evidence = [] then .error "EXECUTION_EVIDENCE_MISSING"
  else do
    let workflow ← identityVersion i.workflow
    let identities ← i.tasks.mapM identityVersion
    let tasks := sortBy taskSort identities
    if tasks = [] then .error "TASK_AUTHORITY_MISSING"
    else do
      let execution ← checkEvidence i workflow tasks
      assembleOrdered i workflow tasks execution (sortBy evidenceSort i.evidence)

/-! ### Accounting -/

/-- One round of the loop over the snapshots. -/
def validateSnapshot (namespaceName domain : String) (byId : List (String × SharedExecutionSnapshot))
    (s : SharedExecutionSnapshot) : Except String (List (String × SharedExecutionSnapshot)) :=
  if s.namespaceName ≠ namespaceName ∨ s.securityDomain ≠ domain then .error "ACCOUNTING_SCOPE_DENIED"
  else if s.sharedSnapshotId = "" ∨ s.platformExecutionIdentity = "" then
    .error "ACCOUNTING_IDENTITY_AMBIGUOUS"
  else if s.evidence.any fun e => e.record.namespaceName ≠ namespaceName ||
      e.record.securityDomain ≠ domain ||
      e.record.platformExecutionIdentity ≠ s.platformExecutionIdentity then
    .error "ACCOUNTING_EVIDENCE_SCOPE_DENIED"
  else
    register SharedExecutionSnapshot.sharedSnapshotId "ACCOUNTING_SNAPSHOT_IDENTITY_CONFLICT" byId s

def validatedSnapshots (snapshots : List SharedExecutionSnapshot) (namespaceName domain : String) :
    Except String (List SharedExecutionSnapshot) := do
  let byId ← snapshots.foldlM (validateSnapshot namespaceName domain) []
  .ok ((sortBy Prod.fst byId).map Prod.snd)

/-! ### What is accepted -/

/-- The checks on the evidence, item by item. -/
structure Checked (i : Inputs) (workflow : KubernetesIdentityVersion)
    (tasks : List KubernetesIdentityVersion) (execution : String) : Prop where
  subject : ∀ e ∈ i.evidence, e.record.namespaceName = i.namespaceName ∧
    e.record.securityDomain = i.securityDomain ∧ e.record.workflowIdentity = workflow.uid ∧
    e.record.taskIdentity = i.selectedTaskIdentity
  selected : i.selectedTaskIdentity ∈ tasks.map KubernetesIdentityVersion.uid
  scope : ∀ r ∈ references i.evidence,
    r.namespaceName = i.namespaceName ∧ r.securityDomain = i.securityDomain
  decisions : ∀ r ∈ references i.evidence, ∀ r' ∈ references i.evidence,
    referenceKey r = referenceKey r' → r = r'
  highWater : ∀ e ∈ i.evidence, ∀ n, e.storageSequence = some n → n ≤ i.evidenceHighWaterMark
  execution : ∀ e ∈ i.evidence, e.record.platformExecutionIdentity = execution

/-- A list whose items all have one value has one distinct value. -/
theorem firsts_eq_singleton {l : List String} {x : String} :
    firsts l = [x] ↔ l ≠ [] ∧ ∀ y ∈ l, y = x := by
  constructor
  · intro h
    refine ⟨?_, fun y hy => ?_⟩
    · rintro rfl
      cases h
    · have hmem := Sorting.mem_firsts.mpr hy
      rw [h] at hmem
      exact List.mem_singleton.mp hmem
  · rintro ⟨hne, hall⟩
    have hmem : ∀ y, y ∈ firsts l ↔ y ∈ [x] := by
      intro y
      rw [Sorting.mem_firsts, List.mem_singleton]
      constructor
      · exact hall y
      · rintro rfl
        obtain ⟨z, hz⟩ := List.exists_mem_of_ne_nil _ hne
        exact hall z hz ▸ hz
    exact List.perm_singleton.mp ((List.perm_ext_iff_of_nodup (Sorting.nodup_firsts l)
      (List.nodup_singleton x)).mpr hmem)

theorem checkEvidence_eq_ok {i : Inputs} {workflow : KubernetesIdentityVersion}
    {tasks : List KubernetesIdentityVersion} {execution : String} (hne : i.evidence ≠ []) :
    checkEvidence i workflow tasks = .ok execution ↔ Checked i workflow tasks execution := by
  have hexecution : ∀ {x}, (match firsts (i.evidence.map (·.record.platformExecutionIdentity)) with
      | [execution] => .ok execution
      | _ => .error "EXECUTION_IDENTITY_CONFLICT" : Except String String) = .ok x ↔
      ∀ e ∈ i.evidence, e.record.platformExecutionIdentity = x := by
    intro x
    have hsingle : (match firsts (i.evidence.map (·.record.platformExecutionIdentity)) with
        | [execution] => .ok execution
        | _ => .error "EXECUTION_IDENTITY_CONFLICT" : Except String String) = .ok x ↔
        firsts (i.evidence.map (·.record.platformExecutionIdentity)) = [x] := by
      split
      · rename_i y hy
        rw [hy]
        simp
      · rename_i hnot
        exact iff_of_false (by simp) (hnot x)
    rw [hsingle, firsts_eq_singleton, and_iff_right (by simpa using hne), List.forall_mem_map]
  unfold checkEvidence
  simp only [ite_error_eq_ok', bind_eq_ok, List.any_eq_true, not_exists, not_and, hexecution,
    Bool.or_eq_true, decide_eq_true_eq, not_or, not_not, Option.any_eq_true, not_lt]
  constructor
  · rintro ⟨hsubject, hselected, hscope, decided, hdecided, hwater, hexec⟩
    refine ⟨fun e he => ?_, hselected, hscope, Sorting.foldlM_register_nil.mp ⟨decided, hdecided⟩,
      fun e he n hn => hwater e he n hn, hexec⟩
    obtain ⟨⟨⟨h₁, h₂⟩, h₃⟩, h₄⟩ := hsubject e he
    exact ⟨h₁, h₂, h₃, h₄⟩
  · rintro ⟨hsubject, hselected, hscope, hdecisions, hwater, hexec⟩
    obtain ⟨decided, hdecided⟩ := Sorting.foldlM_register_nil.mpr hdecisions
    refine ⟨fun e he => ?_, hselected, hscope, decided, hdecided, fun e he n hn => hwater e he n hn, hexec⟩
    obtain ⟨h₁, h₂, h₃, h₄⟩ := hsubject e he
    exact ⟨⟨⟨h₁, h₂⟩, h₃⟩, h₄⟩

/-- **What the assembler accepts**, and what it makes of it. -/
theorem assemble_eq_ok {i : Inputs} {s : SharedExecutionSnapshot} :
    assembleExecutionSnapshot i = .ok s ↔
      i.evidence ≠ [] ∧ ∃ workflow identities execution, identityVersion i.workflow = .ok workflow ∧
        i.tasks.mapM identityVersion = .ok identities ∧ identities ≠ [] ∧
        Checked i workflow (sortBy taskSort identities) execution ∧
        assembleOrdered i workflow (sortBy taskSort identities) execution
          (sortBy evidenceSort i.evidence) = .ok s := by
  unfold assembleExecutionSnapshot
  rw [ite_error_eq_ok']
  refine and_congr_right fun hne => ?_
  simp only [bind_eq_ok, ite_error_eq_ok', Sorting.sortBy_eq_nil, checkEvidence_eq_ok hne]
  constructor
  · rintro ⟨workflow, hworkflow, identities, hidentities, htasks, execution, hchecked, hs⟩
    exact ⟨workflow, identities, execution, hworkflow, hidentities, htasks, hchecked, hs⟩
  · rintro ⟨workflow, identities, execution, hworkflow, hidentities, htasks, hchecked, hs⟩
    exact ⟨workflow, hworkflow, identities, hidentities, htasks, execution, hchecked, hs⟩

/-! ### The payload of a record determines it -/

theorem authorizationDecision_injective : Function.Injective AuthorizationDecision.value := by
  intro a b h
  cases a <;> cases b <;> first | rfl | exact absurd h (by decide)

theorem eventType_injective : Function.Injective EvidenceEventType.value := by
  intro a b h
  cases a <;> cases b <;> first | rfl | exact absurd h (by decide)

theorem outcomeClassification_injective : Function.Injective OutcomeClassification.value := by
  intro a b h
  cases a <;> cases b <;> first | rfl | exact absurd h (by decide)

theorem referenceType_injective : Function.Injective ReferenceType.value := by
  intro a b h
  cases a <;> cases b <;> first | rfl | exact absurd h (by decide)

theorem referenceVisibility_injective : Function.Injective ReferenceVisibility.value := by
  intro a b h
  cases a <;> cases b <;> first | rfl | exact absurd h (by decide)

theorem isoformatZ_injective : Function.Injective Datetime.isoformatZ := by
  intro t t' h
  apply Datetime.isoformat_injective
  rw [← Datetime.spellOffset_isoformatZ, ← Datetime.spellOffset_isoformatZ, h]

theorem reference_injective {r r' : AuthorizedReference}
    (h : Json.sortKeys r.canonicalPayload = Json.sortKeys r'.canonicalPayload) : r = r' := by
  have hfields := Json.sortKeys_obj_inj (by rfl) (by simp) h
  simp only [List.map_cons, List.map_nil, List.cons.injEq, Json.sortKeys, Json.str.injEq, and_true]
    at hfields
  obtain ⟨h₁, h₂, h₃, h₄, h₅, h₆, h₇, h₈, h₉⟩ := hfields
  cases r
  cases r'
  simp only [AuthorizedReference.mk.injEq]
  exact ⟨h₁, referenceType_injective h₂, h₃, h₄, authorizationDecision_injective h₅, h₆,
    referenceVisibility_injective h₇, h₈, h₉⟩

theorem sortItems_eq_map (vs : List Json) : Json.sortItems vs = vs.map Json.sortKeys := by
  induction vs with
  | nil => rfl
  | cons v vs ih => rw [Json.sortItems, ih, List.map_cons]

/-- **A record is determined by its canonical bytes.** -/
theorem record_injective {r r' : ExecutionEvidenceRecord} (h : r.canonicalBytes = r'.canonicalBytes) :
    r = r' := by
  have hkeys : r.fields.map Prod.fst = r'.fields.map Prod.fst := by
    rw [ExecutionEvidenceRecord.fields_keys, ExecutionEvidenceRecord.fields_keys]
  have hnodup : (r.fields.map Prod.fst).Nodup := by
    rw [ExecutionEvidenceRecord.fields_keys]
    decide
  have hfields := Json.sortKeys_obj_inj hkeys hnodup (Json.dumps_injective h)
  simp only [ExecutionEvidenceRecord.fields, List.map_cons, List.map_nil, List.cons.injEq,
    Json.sortKeys, Json.sortKeys_optStr, Json.str.injEq, Json.int.injEq, Json.arr.injEq, and_true,
    sortItems_eq_map, List.map_map] at hfields
  obtain ⟨h₁, h₂, h₃, h₄, h₅, h₆, h₇, h₈, h₉, h₁₀, h₁₁, h₁₂, h₁₃, h₁₄, h₁₅, h₁₆, h₁₇, h₁₈, h₁₉, h₂₀,
    h₂₁, h₂₂, h₂₃⟩ := hfields
  have hreferences : r.references = r'.references := by
    refine List.map_injective_iff.mpr ?_ h₂₁
    exact fun a b hab => reference_injective hab
  cases r
  cases r'
  simp only [EvidenceFields.mk.injEq]
  exact ⟨h₂, h₃, h₄, h₅, h₆, h₇, h₈, h₉, eventType_injective h₁₀, isoformatZ_injective h₁₁, h₁₂, h₁₃,
    Json.optStr_injective h₁₄, authorizationDecision_injective h₁₅, h₁₆, Json.optStr_injective h₁₇, h₁₈,
    outcomeClassification_injective h₁₉, Json.optStr_injective h₂₀, hreferences,
    Json.optStr_injective h₂₂, Json.optStr_injective h₂₃, h₁⟩

/-! ### The order of the inputs -/

/-- The identities of the tasks, in the order they are given. -/
def taskIdentities (i : Inputs) : List KubernetesIdentityVersion :=
  i.tasks.filterMap fun t => (identityVersion t).toOption

theorem taskIdentities_eq {i : Inputs} {identities : List KubernetesIdentityVersion}
    (h : i.tasks.mapM identityVersion = .ok identities) : taskIdentities i = identities := by
  have hforall := mapM_eq_ok.mp h
  unfold taskIdentities
  clear h
  generalize i.tasks = tasks at hforall ⊢
  induction hforall with
  | nil => rfl
  | cons hone _ ih => rw [List.filterMap_cons_some (by rw [hone]; rfl), ih]

/-- Tasks and records that the sorts do not tell apart stand in the same order. -/
def SameOrder (i i' : Inputs) : Prop :=
  (∀ k, (taskIdentities i).filter (taskSort · = k) = (taskIdentities i').filter (taskSort · = k)) ∧
    ∀ k, i.evidence.filter (evidenceSort · = k) = i'.evidence.filter (evidenceSort · = k)

theorem sameOrder_iff {i i' : Inputs} : SameOrder i i' ↔
    sortBy taskSort (taskIdentities i) = sortBy taskSort (taskIdentities i') ∧
      sortBy evidenceSort i.evidence = sortBy evidenceSort i'.evidence := by
  rw [SameOrder, Sorting.sortBy_eq_iff, Sorting.sortBy_eq_iff]

theorem assembleOrdered_eq_ok {i : Inputs} {workflow : KubernetesIdentityVersion}
    {tasks : List KubernetesIdentityVersion} {execution : String} {ordered : List StoredRecord}
    {s : SharedExecutionSnapshot} :
    assembleOrdered i workflow tasks execution ordered = .ok s ↔
      ∃ missing terminals terminal,
        (attempts ordered).foldlM (inspectAttempt ordered) (false, []) = .ok (missing, terminals) ∧
        terminalOf ordered terminals = .ok terminal ∧
        s = ⟨1, assemblerVersion, stateOf i.stale missing, i.namespaceName, i.securityDomain, execution,
          "execution-snapshot:v2:" ++
            sha256 (Json.dumps false (identityInput i workflow tasks execution ordered)),
          i.graph.graphSnapshotId, i.evidenceHighWaterMark, workflow, tasks, ordered, terminal, i.graph,
          limitationCodes ordered⟩ := by
  simp only [assembleOrdered, bind_eq_ok, Prod.exists, Except.ok.injEq]
  constructor
  · rintro ⟨missing, terminals, hloop, terminal, hterminal, rfl⟩
    exact ⟨missing, terminals, terminal, hloop, hterminal, rfl⟩
  · rintro ⟨missing, terminals, terminal, hloop, hterminal, rfl⟩
    exact ⟨missing, terminals, hloop, terminal, hterminal, rfl⟩

theorem assembled_sorted {i : Inputs} {s : SharedExecutionSnapshot}
    (h : assembleExecutionSnapshot i = .ok s) :
    s.tasks = sortBy taskSort (taskIdentities i) ∧ s.evidence = sortBy evidenceSort i.evidence := by
  obtain ⟨-, workflow, identities, execution, -, hidentities, -, -, hs⟩ := assemble_eq_ok.mp h
  obtain ⟨missing, terminals, terminal, -, -, rfl⟩ := assembleOrdered_eq_ok.mp hs
  rw [taskIdentities_eq hidentities]
  exact ⟨rfl, rfl⟩

/-- The checks do not look at the order of the inputs. -/
theorem Checked.perm {i : Inputs} {workflow : KubernetesIdentityVersion}
    {tasks tasks' : List KubernetesIdentityVersion} {execution : String}
    (h : Checked i workflow tasks execution) (htasks : tasks.Perm tasks')
    {resources : List (List (String × Json))} {evidence : List StoredRecord}
    (hevidence : i.evidence.Perm evidence) :
    Checked { i with tasks := resources, evidence := evidence } workflow tasks' execution := by
  have hreferences : (references i.evidence).Perm (references evidence) := hevidence.flatMap_right _
  exact ⟨fun e he => h.subject e (hevidence.mem_iff.mpr he),
    (htasks.map KubernetesIdentityVersion.uid).mem_iff.mp h.selected,
    fun r hr => h.scope r (hreferences.mem_iff.mpr hr),
    fun r hr r' hr' => h.decisions r (hreferences.mem_iff.mpr hr) r' (hreferences.mem_iff.mpr hr'),
    fun e he => h.highWater e (hevidence.mem_iff.mpr he),
    fun e he => h.execution e (hevidence.mem_iff.mpr he)⟩

/-- **Permuted inputs** give the same snapshot exactly if what the sorts do not tell apart
keeps its order. -/
theorem assemble_perm_iff {i : Inputs} {s : SharedExecutionSnapshot}
    (h : assembleExecutionSnapshot i = .ok s) {tasks : List (List (String × Json))}
    (htasks : i.tasks.Perm tasks) {evidence : List StoredRecord} (hevidence : i.evidence.Perm evidence) :
    assembleExecutionSnapshot { i with tasks := tasks, evidence := evidence } = .ok s ↔
      SameOrder i { i with tasks := tasks, evidence := evidence } := by
  constructor
  · intro h'
    obtain ⟨htasks, hordered⟩ := assembled_sorted h
    obtain ⟨htasks', hordered'⟩ := assembled_sorted h'
    exact sameOrder_iff.mpr ⟨htasks.symm.trans htasks', hordered.symm.trans hordered'⟩
  · intro hsame
    obtain ⟨hsortedTasks, hsortedEvidence⟩ := sameOrder_iff.mp hsame
    obtain ⟨hne, workflow, identities, execution, hworkflow, hidentities, hsome, hchecked, hs⟩ :=
      assemble_eq_ok.mp h
    obtain ⟨identities', hidentities', hperm⟩ := Graph.mapM_perm htasks hidentities
    have hidentified : taskIdentities { i with tasks := tasks, evidence := evidence } = identities' :=
      taskIdentities_eq hidentities'
    rw [taskIdentities_eq hidentities, hidentified] at hsortedTasks
    have hsorted : (sortBy taskSort identities).Perm (sortBy taskSort identities') :=
      List.Perm.of_eq hsortedTasks
    refine assemble_eq_ok.mpr ⟨?_, workflow, identities', execution, hworkflow, hidentities', ?_,
      hchecked.perm hsorted hevidence, ?_⟩
    · exact fun hnil => hne (List.perm_nil.mp (hnil ▸ hevidence))
    · exact fun hnil => hsome (List.perm_nil.mp (hnil ▸ hperm))
    · rw [← hsortedTasks, ← hsortedEvidence]
      exact hs

/-! ### What the identifier determines -/

/-- What is hashed for the identifier of a snapshot. -/
def identityOf (s : SharedExecutionSnapshot) : Json :=
  .obj [
    ("assemblerVersion", .str s.assemblerVersion),
    ("namespace", .str s.namespaceName),
    ("securityDomain", .str s.securityDomain),
    ("workflow", .arr [.str s.workflow.uid, .str s.workflow.resourceVersion]),
    ("tasks", .arr (s.tasks.map fun t => .arr [.str t.uid, .str t.resourceVersion])),
    ("platformExecutionIdentity", .str s.platformExecutionIdentity),
    ("evidenceHighWaterMark", .int s.evidenceHighWaterMark),
    ("evidence", .arr (s.evidence.map fun e =>
      .arr [.str e.record.evidenceRecordId, .str e.record.payloadDigest])),
    ("graphSnapshotId", .str s.graphSnapshotId)]

def hashedTexts (s : SharedExecutionSnapshot) : Set String :=
  insert (Json.dumps false (identityOf s)) {t | ∃ e ∈ s.evidence, t = e.record.canonicalBytes}

theorem assembled_id {i : Inputs} {s : SharedExecutionSnapshot}
    (h : assembleExecutionSnapshot i = .ok s) :
    s.sharedSnapshotId = "execution-snapshot:v2:" ++ sha256 (Json.dumps false (identityOf s)) := by
  obtain ⟨-, workflow, identities, execution, -, -, -, -, hs⟩ := assemble_eq_ok.mp h
  obtain ⟨missing, terminals, terminal, -, -, rfl⟩ := assembleOrdered_eq_ok.mp hs
  rfl

/-- Records with equal digests are equal up to the metadata of the repository. -/
theorem records_of_digests {T : Set String} (hfree : CollisionFreeOn T) {l l' : List StoredRecord}
    (hl : ∀ e ∈ l, e.record.canonicalBytes ∈ T) (hl' : ∀ e ∈ l', e.record.canonicalBytes ∈ T)
    (h : l.map (·.record.payloadDigest) = l'.map (·.record.payloadDigest)) :
    l.map StoredRecord.record = l'.map StoredRecord.record := by
  induction l generalizing l' with
  | nil =>
    rw [List.map_nil, List.nil_eq, List.map_eq_nil_iff] at h
    rw [h]
  | cons e l ih =>
    rcases l' with _ | ⟨e', l'⟩
    · cases h
    · obtain ⟨hhead, htail⟩ := List.cons.inj h
      have hrecord := record_injective (hfree (hl e List.mem_cons_self) (hl' e' List.mem_cons_self) hhead)
      rw [List.map_cons, List.map_cons, hrecord, ih (fun e he => hl e (List.mem_cons_of_mem _ he))
        (fun e he => hl' e (List.mem_cons_of_mem _ he)) htail]

/-- The fields of a snapshot its identifier determines. -/
structure SameIdentity (s s' : SharedExecutionSnapshot) : Prop where
  namespaceName : s.namespaceName = s'.namespaceName
  securityDomain : s.securityDomain = s'.securityDomain
  workflow : s.workflow.uid = s'.workflow.uid ∧ s.workflow.resourceVersion = s'.workflow.resourceVersion
  tasks : (s.tasks.map fun t => (t.uid, t.resourceVersion)) =
    s'.tasks.map fun t => (t.uid, t.resourceVersion)
  execution : s.platformExecutionIdentity = s'.platformExecutionIdentity
  highWaterMark : s.evidenceHighWaterMark = s'.evidenceHighWaterMark
  evidence : s.evidence.map StoredRecord.record = s'.evidence.map StoredRecord.record
  graph : s.graphSnapshotId = s'.graphSnapshotId

/-- The two texts of a list of two texts. -/
def pairOf : Json → String × String
  | .arr [.str uid, .str version] => (uid, version)
  | _ => ("", "")

theorem sameIdentity_of_id {i i' : Inputs} {s s' : SharedExecutionSnapshot}
    (h : assembleExecutionSnapshot i = .ok s) (h' : assembleExecutionSnapshot i' = .ok s')
    (hfree : CollisionFreeOn (hashedTexts s ∪ hashedTexts s'))
    (hid : s.sharedSnapshotId = s'.sharedSnapshotId) : SameIdentity s s' := by
  rw [assembled_id h, assembled_id h'] at hid
  have htext := hfree (.inl (.inl rfl)) (.inr (.inl rfl)) ((String.append_right_inj _).mp hid)
  have hfields := Json.sortKeys_obj_inj (by rfl) (by simp) (Json.dumps_injective htext)
  simp only [List.map_cons, List.map_nil, List.cons.injEq, Json.sortKeys, Json.str.injEq, Json.int.injEq,
    Json.arr.injEq, Json.sortItems, and_true, sortItems_eq_map, List.map_map] at hfields
  obtain ⟨-, hnamespace, hdomain, hworkflow, htasks, hexecution, hwater, hevidence, hgraph⟩ := hfields
  refine ⟨hnamespace, hdomain, hworkflow, ?_, hexecution, hwater, ?_, hgraph⟩
  · have hpairs := congrArg (List.map pairOf) htasks
    simpa [Function.comp_def, pairOf, Json.sortKeys, Json.sortItems] using hpairs
  · have hdigests := congrArg (List.map fun v => (pairOf v).2) hevidence
    refine records_of_digests hfree (fun e he => .inl (.inr ⟨e, he, rfl⟩))
      (fun e he => .inr (.inr ⟨e, he, rfl⟩)) ?_
    simpa [Function.comp_def, pairOf, Json.sortKeys, Json.sortItems] using hdigests

def workflowName (i : Inputs) : Option String :=
  (identityVersion i.workflow).toOption.map KubernetesIdentityVersion.name

/-- What the identifier of a snapshot leaves open. -/
structure Agrees (i i' : Inputs) : Prop where
  stale : i.stale = i'.stale
  workflow : workflowName i = workflowName i'
  tasks : (sortBy taskSort (taskIdentities i)).map KubernetesIdentityVersion.name =
    (sortBy taskSort (taskIdentities i')).map KubernetesIdentityVersion.name
  metadata : ((sortBy evidenceSort i.evidence).map fun e => (e.storageSequence, e.recordedAt)) =
    (sortBy evidenceSort i'.evidence).map fun e => (e.storageSequence, e.recordedAt)

/-- Lists that agree in two parts of their items, which make up an item, are equal. -/
theorem eq_of_maps {α β γ : Type*} {f : α → β} {g : α → γ}
    (hinj : ∀ a b, f a = f b → g a = g b → a = b) {l l' : List α} (hf : l.map f = l'.map f)
    (hg : l.map g = l'.map g) : l = l' := by
  induction l generalizing l' with
  | nil => exact (List.map_eq_nil_iff.mp hf.symm).symm
  | cons a l ih =>
    rcases l' with _ | ⟨b, l'⟩
    · cases hf
    · obtain ⟨hfa, hf⟩ := List.cons.inj hf
      obtain ⟨hga, hg⟩ := List.cons.inj hg
      rw [hinj a b hfa hga, ih hf hg]

theorem assembled_fields {i : Inputs} {s : SharedExecutionSnapshot}
    (h : assembleExecutionSnapshot i = .ok s) :
    (s.state = .stale ↔ i.stale = true) ∧ workflowName i = some s.workflow.name ∧ s.graph = i.graph ∧
      s.graphSnapshotId = i.graph.graphSnapshotId := by
  obtain ⟨-, workflow, identities, execution, hworkflow, -, -, -, hs⟩ := assemble_eq_ok.mp h
  obtain ⟨missing, terminals, terminal, -, -, rfl⟩ := assembleOrdered_eq_ok.mp hs
  refine ⟨?_, ?_, rfl, rfl⟩
  · show stateOf i.stale missing = .stale ↔ i.stale = true
    cases i.stale <;> cases missing <;> decide
  · rw [workflowName, hworkflow]
    rfl

/-- **Snapshots with one identifier** are equal exactly if their inputs agree in what the
identifier leaves open. -/
theorem assembled_eq_iff {i i' : Inputs} {s s' : SharedExecutionSnapshot}
    (h : assembleExecutionSnapshot i = .ok s) (h' : assembleExecutionSnapshot i' = .ok s')
    (hgraph : s.graphSnapshotId = s'.graphSnapshotId → s.graph = s'.graph)
    (hfree : CollisionFreeOn (hashedTexts s ∪ hashedTexts s'))
    (hid : s.sharedSnapshotId = s'.sharedSnapshotId) : s = s' ↔ Agrees i i' := by
  obtain ⟨htasks, hevidence⟩ := assembled_sorted h
  obtain ⟨htasks', hevidence'⟩ := assembled_sorted h'
  obtain ⟨hstale, hname, -, -⟩ := assembled_fields h
  obtain ⟨hstale', hname', -, -⟩ := assembled_fields h'
  constructor
  · rintro rfl
    refine ⟨?_, hname.trans hname'.symm, ?_, ?_⟩
    · exact Bool.eq_iff_iff.mpr (hstale.symm.trans hstale')
    · rw [← htasks, ← htasks']
    · rw [← hevidence, ← hevidence']
  · intro hagrees
    have hsame := sameIdentity_of_id h h' hfree hid
    have hnames : s.tasks.map KubernetesIdentityVersion.name =
        s'.tasks.map KubernetesIdentityVersion.name := by
      rw [htasks, htasks']
      exact hagrees.tasks
    have hmetadata : (s.evidence.map fun e => (e.storageSequence, e.recordedAt)) =
        s'.evidence.map fun e => (e.storageSequence, e.recordedAt) := by
      rw [hevidence, hevidence']
      exact hagrees.metadata
    have hequalTasks : s.tasks = s'.tasks := by
      refine eq_of_maps (fun a b hpair hname => ?_) hsame.tasks hnames
      obtain ⟨huid, hversion⟩ := Prod.mk.inj hpair
      cases a
      cases b
      simp only [KubernetesIdentityVersion.mk.injEq]
      exact ⟨huid, hversion, hname⟩
    have hequalEvidence : s.evidence = s'.evidence := by
      refine eq_of_maps (fun a b hrecord hpair => ?_) hsame.evidence hmetadata
      obtain ⟨hsequence, hrecorded⟩ := Prod.mk.inj hpair
      cases a
      cases b
      simp only [StoredRecord.mk.injEq]
      exact ⟨hrecord, hsequence, hrecorded⟩
    have hequalWorkflow : s.workflow = s'.workflow := by
      have hnames := Option.some.inj (hname.symm.trans (hagrees.workflow.trans hname'))
      obtain ⟨huid, hversion⟩ := hsame.workflow
      rcases hw : s.workflow with ⟨uid, version, name⟩
      rcases hw' : s'.workflow with ⟨uid', version', name'⟩
      rw [hw, hw'] at huid hversion hnames
      simp only [KubernetesIdentityVersion.mk.injEq]
      exact ⟨huid, hversion, hnames⟩
    have hequalGraph := hgraph hsame.graph
    -- everything else is computed from the sorted evidence
    obtain ⟨-, workflow, identities, execution, -, -, -, -, hs⟩ := assemble_eq_ok.mp h
    obtain ⟨-, workflow', identities', execution', -, -, -, -, hs'⟩ := assemble_eq_ok.mp h'
    obtain ⟨missing, terminals, terminal, hloop, hterminal, rfl⟩ := assembleOrdered_eq_ok.mp hs
    obtain ⟨missing', terminals', terminal', hloop', hterminal', rfl⟩ := assembleOrdered_eq_ok.mp hs'
    have hordered : sortBy evidenceSort i.evidence = sortBy evidenceSort i'.evidence := hequalEvidence
    rw [hordered, hloop'] at hloop
    cases hloop
    rw [hordered, hterminal'] at hterminal
    cases hterminal
    simp only [SharedExecutionSnapshot.mk.injEq]
    exact ⟨trivial, trivial, by rw [hagrees.stale], hsame.namespaceName, hsame.securityDomain,
      hsame.execution, hid, hsame.graph, hsame.highWaterMark, hequalWorkflow, hequalTasks, hordered,
      trivial, hequalGraph, by rw [hordered]⟩

/-! ### Accounting -/

/-- The snapshot is in the scope the accounting is for. -/
structure InScope (namespaceName domain : String) (s : SharedExecutionSnapshot) : Prop where
  scope : s.namespaceName = namespaceName ∧ s.securityDomain = domain
  identified : s.sharedSnapshotId ≠ "" ∧ s.platformExecutionIdentity ≠ ""
  evidence : ∀ e ∈ s.evidence, e.record.namespaceName = namespaceName ∧
    e.record.securityDomain = domain ∧ e.record.platformExecutionIdentity = s.platformExecutionIdentity

theorem validateSnapshot_inScope {namespaceName domain : String} {s : SharedExecutionSnapshot}
    (h : InScope namespaceName domain s) (byId : List (String × SharedExecutionSnapshot)) :
    validateSnapshot namespaceName domain byId s =
      register SharedExecutionSnapshot.sharedSnapshotId "ACCOUNTING_SNAPSHOT_IDENTITY_CONFLICT" byId s := by
  have hany : ¬ (s.evidence.any fun e => e.record.namespaceName ≠ namespaceName ||
      e.record.securityDomain ≠ domain ||
      e.record.platformExecutionIdentity ≠ s.platformExecutionIdentity) = true := by
    rw [List.any_eq_true]
    rintro ⟨e, he, hdiffers⟩
    obtain ⟨h₁, h₂, h₃⟩ := h.evidence e he
    simp [h₁, h₂, h₃] at hdiffers
  rw [validateSnapshot, if_neg (by simp [h.scope]), if_neg (by simp [h.identified]),
    if_neg hany]

/-- Within its scope the accounting is the loop that registers the snapshots. -/
theorem foldlM_validate_inScope {snapshots : List SharedExecutionSnapshot}
    {namespaceName domain : String} (h : ∀ s ∈ snapshots, InScope namespaceName domain s)
    (byId : List (String × SharedExecutionSnapshot)) :
    snapshots.foldlM (validateSnapshot namespaceName domain) byId =
      snapshots.foldlM (register SharedExecutionSnapshot.sharedSnapshotId
        "ACCOUNTING_SNAPSHOT_IDENTITY_CONFLICT") byId := by
  induction snapshots generalizing byId with
  | nil => rfl
  | cons s snapshots ih =>
    rw [List.foldlM_cons, List.foldlM_cons, validateSnapshot_inScope (h s List.mem_cons_self)]
    exact congrArg _ (funext (ih fun s hs => h s (List.mem_cons_of_mem _ hs)))

theorem inScope_of_validated {snapshots : List SharedExecutionSnapshot} {namespaceName domain : String}
    {byId out : List (String × SharedExecutionSnapshot)}
    (h : snapshots.foldlM (validateSnapshot namespaceName domain) byId = .ok out) :
    ∀ s ∈ snapshots, InScope namespaceName domain s := by
  induction snapshots generalizing byId with
  | nil => simp
  | cons s snapshots ih =>
    rw [List.foldlM_cons, bind_eq_ok] at h
    obtain ⟨next, hnext, hrest⟩ := h
    refine List.forall_mem_cons.mpr ⟨?_, ih hrest⟩
    rw [validateSnapshot, ite_error_eq_ok', ite_error_eq_ok', ite_error_eq_ok'] at hnext
    obtain ⟨hscope, hidentified, hevidence, -⟩ := hnext
    simp only [List.any_eq_true, not_exists, not_and, Bool.or_eq_true, decide_eq_true_eq, not_or,
      not_not] at hevidence
    exact ⟨⟨not_not.mp (not_or.mp hscope).1, not_not.mp (not_or.mp hscope).2⟩, not_or.mp hidentified,
      fun e he => ⟨(hevidence e he).1.1, (hevidence e he).1.2, (hevidence e he).2⟩⟩

/-- A conflict is one of the loop that registers the snapshots. -/
theorem foldlM_validate_conflict {snapshots : List SharedExecutionSnapshot}
    {namespaceName domain : String} {byId : List (String × SharedExecutionSnapshot)}
    (h : snapshots.foldlM (validateSnapshot namespaceName domain) byId =
      .error "ACCOUNTING_SNAPSHOT_IDENTITY_CONFLICT") :
    snapshots.foldlM (register SharedExecutionSnapshot.sharedSnapshotId
      "ACCOUNTING_SNAPSHOT_IDENTITY_CONFLICT") byId = .error "ACCOUNTING_SNAPSHOT_IDENTITY_CONFLICT" := by
  induction snapshots generalizing byId with
  | nil => cases h
  | cons s snapshots ih =>
    rw [List.foldlM_cons] at h ⊢
    have hstep : validateSnapshot namespaceName domain byId s =
        register SharedExecutionSnapshot.sharedSnapshotId "ACCOUNTING_SNAPSHOT_IDENTITY_CONFLICT" byId s := by
      unfold validateSnapshot at h ⊢
      split_ifs at h ⊢
      all_goals first
        | rfl
        | exact absurd (Except.error.inj h) (by decide)
    rw [hstep] at h
    rcases hnext : register SharedExecutionSnapshot.sharedSnapshotId
        "ACCOUNTING_SNAPSHOT_IDENTITY_CONFLICT" byId s with code | next
    · rw [hnext] at h
      exact h
    · rw [hnext] at h
      exact ih h

/-- A conflict is between two snapshots with one identifier. -/
theorem exists_of_conflict {snapshots : List SharedExecutionSnapshot} {namespaceName domain : String}
    (h : validatedSnapshots snapshots namespaceName domain =
      .error "ACCOUNTING_SNAPSHOT_IDENTITY_CONFLICT") :
    ∃ s ∈ snapshots, ∃ s' ∈ snapshots, s.sharedSnapshotId = s'.sharedSnapshotId ∧ s ≠ s' := by
  rw [validatedSnapshots] at h
  rcases hrun : snapshots.foldlM (validateSnapshot namespaceName domain) [] with code | byId
  · rw [hrun] at h
    cases h
    by_contra hnone
    push Not at hnone
    obtain ⟨out, hout⟩ := Sorting.foldlM_register_nil.mpr hnone
    rw [foldlM_validate_conflict hrun] at hout
    cases hout
  · rw [hrun] at h
    cases h

/-- **Within its scope** the accounting reports a conflict exactly if two snapshots with one
identifier differ. -/
theorem validatedSnapshots_conflict_iff {snapshots : List SharedExecutionSnapshot}
    {namespaceName domain : String} (h : ∀ s ∈ snapshots, InScope namespaceName domain s) :
    validatedSnapshots snapshots namespaceName domain = .error "ACCOUNTING_SNAPSHOT_IDENTITY_CONFLICT" ↔
      ∃ s ∈ snapshots, ∃ s' ∈ snapshots, s.sharedSnapshotId = s'.sharedSnapshotId ∧ s ≠ s' := by
  constructor
  · exact exists_of_conflict
  · rintro ⟨s, hs, s', hs', hid, hne⟩
    rw [validatedSnapshots, foldlM_validate_inScope h]
    rcases hrun : snapshots.foldlM (register SharedExecutionSnapshot.sharedSnapshotId
        "ACCOUNTING_SNAPSHOT_IDENTITY_CONFLICT") [] with code | byId
    · rw [Sorting.foldlM_register_error hrun]
      rfl
    · exact absurd (Sorting.foldlM_register_nil.mp ⟨byId, hrun⟩ s hs s' hs' hid) hne

theorem assembled_inScope {i : Inputs} {s : SharedExecutionSnapshot}
    (h : assembleExecutionSnapshot i = .ok s) (hidentified : s.platformExecutionIdentity ≠ "") :
    InScope s.namespaceName s.securityDomain s := by
  have hid := assembled_id h
  obtain ⟨-, workflow, identities, execution, -, -, -, hchecked, hs⟩ := assemble_eq_ok.mp h
  obtain ⟨missing, terminals, terminal, -, -, rfl⟩ := assembleOrdered_eq_ok.mp hs
  refine ⟨⟨rfl, rfl⟩, ⟨?_, hidentified⟩, fun e he => ?_⟩
  · rw [hid]
    exact fun hnil => absurd (congrArg String.length hnil) (by simp)
  · have he := (Sorting.mem_sortBy _).mp he
    obtain ⟨hnamespace, hdomain, -, -⟩ := hchecked.subject e he
    exact ⟨hnamespace, hdomain, hchecked.execution e he⟩

/-! ### Complete evidence -/

/-- The records of an attempt are numbered without a gap, and the last one, and it alone,
ends the attempt without claiming a call that was not made. -/
def AttemptComplete (records : List StoredRecord) : Prop :=
  (records.map (·.record.eventOrdinal)).Perm (ordinalsTo records.length) ∧
    ∃ terminal, records.filter (·.record.eventType = .executionOutcome) = [terminal] ∧
      terminal.record.eventOrdinal = records.length ∧ lacksCall terminal = false

/-- Every attempt is complete. -/
def CompleteEvidence (evidence : List StoredRecord) : Prop :=
  ∀ e ∈ evidence, AttemptComplete (attemptRecords evidence e.record.attemptOrdinal)

/-- Nothing is missing from an attempt, in the order the loop sees it. -/
def Passes (ordered : List StoredRecord) (attempt : Int) : Prop :=
  (attemptRecords ordered attempt).map (·.record.eventOrdinal) =
      ordinalsTo (attemptRecords ordered attempt).length ∧
    ∃ terminal, attemptTerminals ordered attempt = [terminal] ∧
      ((attemptRecords ordered attempt).map (·.record.eventOrdinal)).max? =
        some terminal.record.eventOrdinal ∧ lacksCall terminal = false

/-- One round of the loop. -/
theorem inspectAttempt_missing {ordered : List StoredRecord} {found next : Bool × List StoredRecord}
    {attempt : Int} (h : inspectAttempt ordered found attempt = .ok next) :
    next.1 = false ↔ found.1 = false ∧ Passes ordered attempt := by
  unfold inspectAttempt at h
  dsimp only at h
  unfold Passes
  split at h
  · rename_i hnone
    cases h
    rw [hnone]
    simp
  · rename_i terminal hone
    rw [ite_error_eq_ok', not_not] at h
    obtain ⟨hmax, h⟩ := h
    cases h
    rw [hone, hmax]
    simp [ordinalsTo, and_assoc, List.length_map]
  · cases h

/-- The loop over the attempts. -/
theorem inspectAttempts_missing {ordered : List StoredRecord} {attempts : List Int}
    {found out : Bool × List StoredRecord}
    (h : attempts.foldlM (inspectAttempt ordered) found = .ok out) :
    out.1 = false ↔ found.1 = false ∧ ∀ a ∈ attempts, Passes ordered a := by
  induction attempts generalizing found with
  | nil =>
    cases h
    simp
  | cons a attempts ih =>
    rw [List.foldlM_cons] at h
    obtain ⟨next, hnext, hrest⟩ := bind_eq_ok.mp h
    rw [ih hrest, inspectAttempt_missing hnext, List.forall_mem_cons, and_assoc]

theorem ordinalsTo_pairwise (n : Nat) : (ordinalsTo n).Pairwise (· ≤ ·) := by
  rw [ordinalsTo, List.pairwise_map]
  exact List.pairwise_lt_range.imp fun h => by omega

theorem mem_ordinalsTo {n : Nat} {x : Int} : x ∈ ordinalsTo n ↔ 1 ≤ x ∧ x ≤ n := by
  rw [ordinalsTo, List.mem_map]
  constructor
  · rintro ⟨m, hm, rfl⟩
    have := List.mem_range.mp hm
    omega
  · rintro ⟨hpos, hle⟩
    exact ⟨(x - 1).toNat, List.mem_range.mpr (by omega), by omega⟩

/-- Within an attempt the evidence is sorted by the event ordinals. -/
theorem ordinals_sorted (evidence : List StoredRecord) (attempt : Int) :
    ((attemptRecords (sortBy evidenceSort evidence) attempt).map (·.record.eventOrdinal)).Pairwise
      (· ≤ ·) := by
  rw [List.pairwise_map]
  have hsorted := (Sorting.pairwise_sortBy evidenceSort evidence).filter
    (·.record.attemptOrdinal = attempt)
  refine hsorted.imp_of_mem fun {a b} ha hb hle => ?_
  have ha : a.record.attemptOrdinal = attempt := of_decide_eq_true (List.mem_filter.mp ha).2
  have hb : b.record.attemptOrdinal = attempt := of_decide_eq_true (List.mem_filter.mp hb).2
  simp only [evidenceSort, Prod.Lex.toLex_le_toLex, ha, hb, lt_irrefl, true_and, false_or] at hle
  rcases hle with hlt | ⟨heq, -⟩
  · exact hlt.le
  · exact heq.le

/-- What the loop looks for is complete evidence. -/
theorem passes_iff {evidence : List StoredRecord} {attempt : Int}
    (hne : attemptRecords evidence attempt ≠ []) :
    Passes (sortBy evidenceSort evidence) attempt ↔ AttemptComplete (attemptRecords evidence attempt) := by
  have hperm : (attemptRecords (sortBy evidenceSort evidence) attempt).Perm
      (attemptRecords evidence attempt) := (Sorting.perm_sortBy _ _).filter _
  have hterminals : ∀ terminal, attemptTerminals (sortBy evidenceSort evidence) attempt = [terminal] ↔
      (attemptRecords evidence attempt).filter (·.record.eventType = .executionOutcome) = [terminal] := by
    intro terminal
    have hfilter : (attemptTerminals (sortBy evidenceSort evidence) attempt).Perm
        ((attemptRecords evidence attempt).filter (·.record.eventType = .executionOutcome)) :=
      hperm.filter _
    constructor
    · intro h
      rw [h] at hfilter
      exact List.perm_singleton.mp hfilter.symm
    · intro h
      rw [h] at hfilter
      exact List.perm_singleton.mp hfilter
  have hordinals : (attemptRecords (sortBy evidenceSort evidence) attempt).map (·.record.eventOrdinal) =
        ordinalsTo (attemptRecords (sortBy evidenceSort evidence) attempt).length ↔
      ((attemptRecords evidence attempt).map (·.record.eventOrdinal)).Perm
        (ordinalsTo (attemptRecords evidence attempt).length) := by
    rw [hperm.length_eq]
    constructor
    · intro h
      exact h ▸ (hperm.map _).symm
    · intro h
      exact ((hperm.map _).trans h).eq_of_pairwise' (ordinals_sorted evidence attempt)
        (ordinalsTo_pairwise _)
  have hpos := List.length_pos_of_ne_nil hne
  rw [Passes, AttemptComplete, hordinals]
  refine and_congr_right fun hrange => exists_congr fun terminal => ?_
  rw [hterminals]
  refine and_congr_right fun hterminal => and_congr_left fun _ => ?_
  -- the greatest of the ordinals is their number
  have hmem : ∀ x : Int, x ∈ (attemptRecords (sortBy evidenceSort evidence) attempt).map
      (fun e => e.record.eventOrdinal) ↔ 1 ≤ x ∧ x ≤ (attemptRecords evidence attempt).length := by
    intro x
    rw [((hperm.map _).trans hrange).mem_iff, mem_ordinalsTo]
  rw [List.max?_eq_some_iff]
  constructor
  · rintro ⟨hin, hmax⟩
    have hlast := hmax (attemptRecords evidence attempt).length ((hmem _).mpr ⟨by omega, le_rfl⟩)
    exact le_antisymm ((hmem _).mp hin).2 hlast
  · intro heq
    rw [heq]
    exact ⟨(hmem _).mpr ⟨by omega, le_rfl⟩, fun x hx => ((hmem x).mp hx).2⟩

theorem mem_attempts {ordered : List StoredRecord} {a : Int} :
    a ∈ attempts ordered ↔ ∃ e ∈ ordered, e.record.attemptOrdinal = a := by
  rw [attempts, List.mem_insertionSort, Sorting.mem_firsts, List.mem_map]

/-- **A snapshot that is not stale is complete** exactly if its evidence is. -/
theorem complete_iff {i : Inputs} {s : SharedExecutionSnapshot}
    (h : assembleExecutionSnapshot i = .ok s) (hstale : i.stale = false) :
    s.state = .complete ↔ CompleteEvidence i.evidence := by
  obtain ⟨-, workflow, identities, execution, -, -, -, -, hs⟩ := assemble_eq_ok.mp h
  obtain ⟨missing, terminals, terminal, hloop, -, rfl⟩ := assembleOrdered_eq_ok.mp hs
  have hstate : stateOf i.stale missing = .complete ↔ missing = false := by
    rw [hstale]
    cases missing <;> decide
  show stateOf i.stale missing = .complete ↔ _
  rw [hstate]
  refine (inspectAttempts_missing hloop).trans ?_
  rw [and_iff_right rfl]
  constructor
  · intro hall e he
    have hrecords : attemptRecords i.evidence e.record.attemptOrdinal ≠ [] :=
      List.ne_nil_of_mem (List.mem_filter.mpr ⟨he, decide_eq_true rfl⟩)
    exact (passes_iff hrecords).mp (hall _ (mem_attempts.mpr ⟨e, (Sorting.mem_sortBy _).mpr he, rfl⟩))
  · intro hall a ha
    obtain ⟨e, he, rfl⟩ := mem_attempts.mp ha
    have he := (Sorting.mem_sortBy _).mp he
    have hrecords : attemptRecords i.evidence e.record.attemptOrdinal ≠ [] :=
      List.ne_nil_of_mem (List.mem_filter.mpr ⟨he, decide_eq_true rfl⟩)
    exact (passes_iff hrecords).mpr (hall e he)

/-! ### The identifier and the snapshot -/

/-- The texts that are hashed for the snapshots of some runs. -/
def textsOf (runs : List (Inputs × SharedExecutionSnapshot)) : Set String :=
  {t | ∃ r ∈ runs, t ∈ hashedTexts r.2}

/-- Two of the runs have one identifier and differ in what it leaves open. -/
def Ambiguous (runs : List (Inputs × SharedExecutionSnapshot)) : Prop :=
  ∃ r ∈ runs, ∃ r' ∈ runs, r.2.sharedSnapshotId = r'.2.sharedSnapshotId ∧ ¬ Agrees r.1 r'.1

/-- **The snapshot, its identifier and its inputs.** Permuted inputs give the same snapshot
exactly if what the sorts do not tell apart keeps its order; a snapshot that is not stale is
complete exactly if its evidence is; two snapshots with one identifier are equal exactly if
their inputs agree in what the identifier leaves open, and exactly otherwise does the
accounting of their scope report a conflict. -/
theorem snapshot_exact (runs : List (Inputs × SharedExecutionSnapshot)) :
    (∀ i s, assembleExecutionSnapshot i = .ok s →
      (∀ tasks evidence, i.tasks.Perm tasks → i.evidence.Perm evidence →
        (assembleExecutionSnapshot { i with tasks := tasks, evidence := evidence } = .ok s ↔
          SameOrder i { i with tasks := tasks, evidence := evidence })) ∧
      (i.stale = false → (s.state = .complete ↔ CompleteEvidence i.evidence))) ∧
    ((∀ r ∈ runs, assembleExecutionSnapshot r.1 = .ok r.2) →
      (∀ r ∈ runs, ∀ r' ∈ runs, r.2.graphSnapshotId = r'.2.graphSnapshotId → r.2.graph = r'.2.graph) →
      CollisionFreeOn (textsOf runs) →
      (∀ r ∈ runs, ∀ r' ∈ runs, r.2.sharedSnapshotId = r'.2.sharedSnapshotId →
        (r.2 = r'.2 ↔ Agrees r.1 r'.1)) ∧
      ∀ namespaceName domain,
        (validatedSnapshots (runs.map Prod.snd) namespaceName domain =
          .error "ACCOUNTING_SNAPSHOT_IDENTITY_CONFLICT" → Ambiguous runs) ∧
        ((∀ r ∈ runs, r.2.namespaceName = namespaceName ∧ r.2.securityDomain = domain ∧
            r.2.platformExecutionIdentity ≠ "") → Ambiguous runs →
          validatedSnapshots (runs.map Prod.snd) namespaceName domain =
            .error "ACCOUNTING_SNAPSHOT_IDENTITY_CONFLICT")) := by
  refine ⟨fun i s h => ⟨fun tasks evidence htasks hevidence => assemble_perm_iff h htasks hevidence,
    complete_iff h⟩, fun hruns hgraph hfree => ?_⟩
  have hequal : ∀ r ∈ runs, ∀ r' ∈ runs, r.2.sharedSnapshotId = r'.2.sharedSnapshotId →
      (r.2 = r'.2 ↔ Agrees r.1 r'.1) := by
    intro r hr r' hr'
    refine assembled_eq_iff (hruns r hr) (hruns r' hr') (hgraph r hr r' hr') (hfree.mono ?_)
    rintro t (ht | ht)
    · exact ⟨r, hr, ht⟩
    · exact ⟨r', hr', ht⟩
  refine ⟨hequal, fun namespaceName domain => ⟨fun hconflict => ?_, fun hscope hambiguous => ?_⟩⟩
  · obtain ⟨s, hs, s', hs', hid, hne⟩ := exists_of_conflict hconflict
    obtain ⟨r, hr, rfl⟩ := List.mem_map.mp hs
    obtain ⟨r', hr', rfl⟩ := List.mem_map.mp hs'
    exact ⟨r, hr, r', hr', hid, fun hagrees => hne ((hequal r hr r' hr' hid).mpr hagrees)⟩
  · obtain ⟨r, hr, r', hr', hid, hdiffers⟩ := hambiguous
    refine (validatedSnapshots_conflict_iff fun s hs => ?_).mpr
      ⟨r.2, List.mem_map_of_mem hr, r'.2, List.mem_map_of_mem hr', hid,
        fun hsame => hdiffers ((hequal r hr r' hr' hid).mp hsame)⟩
    obtain ⟨r, hr, rfl⟩ := List.mem_map.mp hs
    obtain ⟨hnamespace, hdomain, hidentified⟩ := hscope r hr
    rw [← hnamespace, ← hdomain]
    exact assembled_inScope (hruns r hr) hidentified

/-! ### A stale snapshot and a fresh one -/

namespace Sample

local instance : Unicodedata := .identity

def resource (uid version name : String) : List (String × Json) :=
  [("metadata", .obj [("name", .str name), ("uid", .str uid), ("resourceVersion", .str version)])]

/-- The record of a first attempt that succeeded. -/
def outcome : StoredRecord where
  record := {
    evidenceRecordId := "evidence.native.pei-001.1.1"
    namespaceName := "agent-workloads"
    securityDomain := "domain-a"
    platformExecutionIdentity := "pei-001"
    workflowIdentity := "workflow-uid"
    taskIdentity := "task-uid"
    attemptOrdinal := 1
    eventOrdinal := 1
    eventType := .executionOutcome
    occurredAt := ⟨0, zero_lt_maxMicros⟩
    runtimeClassification := "NATIVE"
    selectedInstanceIdentity := "instance-001"
    capabilityIdentity := some "lookup"
    authorizationDecision := .allow
    reasonCode := "TASK_RUNTIME_SUCCEEDED"
    providerCorrelationId := some "provider-001"
    providerCallCount := 1
    outcomeClassification := .succeeded
    outcomeReference := none
    references := []
    limitationCode := none
    supersedesRecordId := none
    schemaVersion := 1 }
  storageSequence := some 1
  recordedAt := none

def inputs (graph : CanonicalGraph) (stale : Bool) : Inputs where
  namespaceName := "agent-workloads"
  securityDomain := "domain-a"
  workflow := resource "workflow-uid" "10" "workflow"
  tasks := [resource "task-uid" "20" "task"]
  evidence := [outcome]
  evidenceHighWaterMark := 1
  graph := graph
  selectedTaskIdentity := "task-uid"
  stale := stale

theorem graph_built : ∃ graph,
    Graph.buildGraph Graph.Sample.sampleContext [Graph.Sample.taskSpec "task-uid"] [] none = .ok graph := by
  have hchecked : Graph.Checked Graph.Sample.sampleContext [Graph.Sample.taskSpec "task-uid"] [] none := by
    refine ⟨by decide, by decide, ?_, ?_, List.nodup_nil, ?_⟩
    all_goals exact fun s hs => absurd hs List.not_mem_nil
  refine (Graph.buildGraph_of_checked hchecked).1.mpr ?_
  rintro ⟨a, hcycle⟩
  obtain ⟨b, ⟨r, hr, -⟩, -⟩ := Relation.TransGen.head'_iff.mp hcycle
  exact absurd hr List.not_mem_nil

def workflowVersion : KubernetesIdentityVersion := ⟨"workflow-uid", "10", "workflow"⟩
def taskVersion : KubernetesIdentityVersion := ⟨"task-uid", "20", "task"⟩

/-- What the inputs are assembled to. -/
def snapshot (graph : CanonicalGraph) (stale : Bool) : SharedExecutionSnapshot where
  schemaVersion := 1
  assemblerVersion := assemblerVersion
  state := stateOf stale false
  namespaceName := "agent-workloads"
  securityDomain := "domain-a"
  platformExecutionIdentity := "pei-001"
  sharedSnapshotId := "execution-snapshot:v2:" ++ sha256 (Json.dumps false
    (identityInput (inputs graph false) workflowVersion [taskVersion] "pei-001" [outcome]))
  graphSnapshotId := graph.graphSnapshotId
  evidenceHighWaterMark := 1
  workflow := workflowVersion
  tasks := [taskVersion]
  evidence := [outcome]
  terminalEvidence := outcome
  graph := graph
  limitationCodes := []

theorem workflow_identified : identityVersion (resource "workflow-uid" "10" "workflow") =
    .ok workflowVersion := by
  decide

theorem tasks_identified : [resource "task-uid" "20" "task"].mapM identityVersion =
    .ok [taskVersion] := by
  decide

theorem inspected : (attempts [outcome]).foldlM (inspectAttempt [outcome]) (false, []) =
    .ok (false, [outcome]) := by
  decide

theorem checked (graph : CanonicalGraph) (stale : Bool) :
    Checked (inputs graph stale) workflowVersion [taskVersion] "pei-001" where
  subject := by
    intro e he
    rw [List.mem_singleton.mp he]
    exact ⟨rfl, rfl, rfl, rfl⟩
  selected := List.mem_singleton_self _
  scope := fun r hr => absurd hr List.not_mem_nil
  decisions := fun r hr => absurd hr List.not_mem_nil
  highWater := by
    intro e he n hn
    rw [List.mem_singleton.mp he] at hn
    cases hn
    exact le_rfl
  execution := by
    intro e he
    rw [List.mem_singleton.mp he]
    rfl

theorem assembled (graph : CanonicalGraph) (stale : Bool) :
    assembleExecutionSnapshot (inputs graph stale) = .ok (snapshot graph stale) :=
  assemble_eq_ok.mpr ⟨List.cons_ne_nil _ _, workflowVersion, [taskVersion], "pei-001",
    workflow_identified, tasks_identified, List.cons_ne_nil _ _, checked graph stale,
    assembleOrdered_eq_ok.mpr ⟨false, [outcome], outcome, inspected, rfl, rfl⟩⟩

/-- **A stale snapshot and a fresh one** of the same inputs have one identifier, and the
accounting reports a conflict. -/
theorem stale_shares_identifier : ∃ graph fresh stale,
    Graph.buildGraph Graph.Sample.sampleContext [Graph.Sample.taskSpec "task-uid"] [] none = .ok graph ∧
      assembleExecutionSnapshot (inputs graph false) = .ok fresh ∧
      assembleExecutionSnapshot (inputs graph true) = .ok stale ∧
      fresh.sharedSnapshotId = stale.sharedSnapshotId ∧ fresh.graph = stale.graph ∧ fresh ≠ stale ∧
      validatedSnapshots [fresh, stale] "agent-workloads" "domain-a" =
        .error "ACCOUNTING_SNAPSHOT_IDENTITY_CONFLICT" := by
  obtain ⟨graph, hgraph⟩ := graph_built
  have hne : snapshot graph false ≠ snapshot graph true := by
    intro hsame
    have hstate : stateOf false false = stateOf true false := congrArg SharedExecutionSnapshot.state hsame
    exact absurd hstate (by decide)
  have hexecution : "pei-001" ≠ "" := by decide
  refine ⟨graph, snapshot graph false, snapshot graph true, hgraph, assembled graph false,
    assembled graph true, rfl, rfl, hne, (validatedSnapshots_conflict_iff ?_).mpr ?_⟩
  · intro s hs
    rcases List.mem_cons.mp hs with rfl | hs
    · exact assembled_inScope (assembled graph false) hexecution
    · rw [List.mem_singleton.mp hs]
      exact assembled_inScope (assembled graph true) hexecution
  · exact ⟨snapshot graph false, List.mem_cons_self, snapshot graph true,
      List.mem_cons_of_mem _ List.mem_cons_self, rfl, hne⟩

/-- The fresh one is complete, and given again it is the same snapshot. -/
theorem snapshot_exact_of_fresh : ∃ graph,
    Graph.buildGraph Graph.Sample.sampleContext [Graph.Sample.taskSpec "task-uid"] [] none = .ok graph ∧
      (snapshot graph false).state = .complete ∧
      assembleExecutionSnapshot { inputs graph false with
        tasks := [resource "task-uid" "20" "task"], evidence := [outcome] } =
        .ok (snapshot graph false) := by
  obtain ⟨graph, hgraph⟩ := graph_built
  obtain ⟨hperm, hcomplete⟩ := (snapshot_exact []).1 _ _ (assembled graph false)
  refine ⟨graph, hgraph, (hcomplete rfl).mpr ?_, (hperm _ _ (List.Perm.refl _) (List.Perm.refl _)).mpr ⟨?_, ?_⟩⟩
  · intro e he
    rw [List.mem_singleton.mp he]
    exact ⟨List.Perm.refl _, outcome, rfl, rfl, rfl⟩
  · exact fun k => rfl
  · exact fun k => rfl

end Sample

end ExecutionSnapshot
end AgentPlatform
