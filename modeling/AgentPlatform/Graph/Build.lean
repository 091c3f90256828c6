/-
AgentPlatform/Graph/Build.lean

`build_graph`: a canonical graph from node and relation specs.

Every identifier is a digest of the whole input, which is sorted by its canonical text
before it is hashed, and the nodes and relations are sorted by keys that tell them
apart. So **`buildGraph_perm`**: the order of the specs does not matter. The check of
the dependency layer is Kahn's algorithm with a queue, which counts parallel edges one
by one; by the library's result on what it leaves over, specs that pass the other checks are
refused for a cycle exactly when there is one (**`buildGraph_exact`**).
-/
import AgentPlatform.Graph.Records
import AgentPlatform.Order.Acyclic
import AgentPlatform.Py.Transaction

namespace AgentPlatform
namespace Graph

open Py
open Sorting (sortBy)

/-! ### The dependency layer -/

def executionDependencies (relations : List RawRelation) : List RawRelation :=
  relations.filter (·.layer = .executionDependency)

/-- One round of the loop; without a ready node nothing happens. -/
def dependencyStep (dependents : String → List String) (s : Kahn.State String) : Kahn.State String :=
  match s.ready with
  | [] => s
  | node :: rest =>
    let next := ((dependents node).insertionSort (· ≤ ·)).foldl Kahn.visit (s.indegree, rest)
    ⟨next.1, next.2, s.ordered ++ [node]⟩

def validateExecutionDependencyDag (nodes : List GraphNode) (relations : List RawRelation) :
    Except String Unit :=
  let nodeIds := (nodes.map GraphNode.nodeId).dedup
  let layer := executionDependencies relations
  if layer.any fun r => .dependsOn ∉ r.relationTypes then
    .error "INVALID_EXECUTION_DEPENDENCY_RELATION"
  else
    let indegree : String → Int := fun a => (layer.filter (·.sourceNodeId = a)).length
    let dependents : String → List String := fun b =>
      (layer.filter (·.targetNodeId = b)).map RawRelation.sourceNodeId
    let start : Kahn.State String :=
      ⟨indegree, (nodeIds.filter (indegree · = 0)).insertionSort (· ≤ ·), []⟩
    let stop := (dependencyStep dependents)^[nodeIds.length] start
    if stop.ordered.length ≠ nodeIds.length then .error "EXECUTION_DEPENDENCY_CYCLE" else .ok ()

/-! ### Building -/

section Build

variable [Unicodedata]

def snapshotIdentity (context : SnapshotContext) (nodeSpecs : List NodeSpec)
    (relationSpecs : List RelationSpec) (effects : Option ProjectionEffects) : String :=
  let normalizedNodes := sortBy canonicalJson (nodeSpecs.map fun s => s.payload.normalize)
  let normalizedRelations := sortBy canonicalJson (relationSpecs.map fun s => s.payload.normalize)
  identity "gps:v0.2-candidate" (.obj [
    ("context", context.payload),
    ("nodes", .arr normalizedNodes),
    ("relations", .arr normalizedRelations),
    ("effects", (effects.map ProjectionEffects.payload).getD (.leaf .null))])

def graphNode (snapshotId : String) (spec : NodeSpec) : GraphNode :=
  ⟨identity "gpn:v0.2-candidate"
      (textList [snapshotId, spec.nodeType.value, spec.entityId, spec.occurrenceContext]),
    spec.nodeType, spec.entityId, spec.labelKey, spec.phase, spec.progress, spec.executionIdentity,
    spec.summary, spec.evidenceIds, spec.limitationCodes, spec.visibility, spec.groupKind,
    spec.groupParentId⟩

/-- One round of the loop over the node specs. -/
def addNode (snapshotId : String) (found : List GraphNode) (spec : NodeSpec) :
    Except String (List GraphNode) :=
  if spec.entityId ∈ found.map GraphNode.entityId then .error "DUPLICATE_ENTITY_ID"
  else .ok (found ++ [graphNode snapshotId spec])

/-- `nodes_by_entity[entity_id]`. -/
def nodeOf (nodes : List GraphNode) (entityId : String) : Option GraphNode :=
  nodes.find? (·.entityId = entityId)

/-- `sorted(spec.relation_types, key=...)`. -/
def orderedTypes (types : List RelationType) : List RelationType :=
  sortBy (fun t => toLex (t.rank, t.value)) types

/-- The relation of a spec between two nodes. -/
def rawRelation (snapshotId : String) (spec : RelationSpec) (source target : String) : RawRelation :=
  let types := orderedTypes spec.relationTypes
  ⟨identity "gpr:v0.2-candidate" (.leaf (.arr [
      .str snapshotId, .str spec.layer.value, .str source, .str target,
      .str Direction.sourceToTarget.value,
      Definition.texts ((types.map RelationType.value).insertionSort (· ≤ ·)),
      .str spec.declaredCardinality.value, .str spec.state.value, .str spec.semanticDiscriminator])),
    source, target, types, spec.layer, .sourceToTarget, spec.declaredCardinality,
    spec.observedSourceCount, spec.observedTargetCount, spec.state, spec.evidenceIds,
    spec.displayPriority, spec.projectionVisibility, spec.semanticDiscriminator, spec.pathClass,
    spec.blockingClass, spec.authorizationClass, spec.evidenceAuthorityClass,
    spec.executionOrHistoricalContext, spec.tenantOrSecurityDomain, spec.aggregationKey⟩

/-- The part of a round that looks at one relation spec only. -/
def relationOf (context : SnapshotContext) (snapshotId : String) (nodes : List GraphNode)
    (spec : RelationSpec) : Except String RawRelation :=
  if spec.tenantOrSecurityDomain ≠ context.securityDomain then
    .error "SECURITY_DOMAIN_INPUT_MISMATCH"
  else
    match nodeOf nodes spec.sourceEntityId, nodeOf nodes spec.targetEntityId with
    | some source, some target => .ok (rawRelation snapshotId spec source.nodeId target.nodeId)
    | _, _ => .error "UNKNOWN_RELATION_ENDPOINT"

/-- One round of the loop over the relation specs. -/
def addRelation (context : SnapshotContext) (snapshotId : String) (nodes : List GraphNode)
    (found : List RawRelation) (spec : RelationSpec) : Except String (List RawRelation) := do
  let relation ← relationOf context snapshotId nodes spec
  if relation.relationId ∈ found.map RawRelation.relationId then .error "DUPLICATE_RELATION_ID"
  else .ok (found ++ [relation])

def nodeSort (n : GraphNode) : Nat ×ₗ (String ×ₗ String) :=
  toLex (n.nodeType.rank, toLex (n.entityId, n.nodeId))

def relationSort (r : RawRelation) :
    String ×ₗ (String ×ₗ (String ×ₗ (Int ×ₗ (Nat ×ₗ String)))) :=
  toLex (r.sourceNodeId, toLex (r.targetNodeId, toLex (r.direction.value,
    toLex (r.displayPriority, toLex (r.declaredCardinality.rank, r.relationId)))))

/-- The checks that look at no identifier of the graph. -/
def checkInputs (nodeSpecs : List NodeSpec) (relationSpecs : List RelationSpec)
    (effects : Option ProjectionEffects) : Except String Unit :=
  if nodeSpecs = [] then .error "GRAPH_REQUIRES_NODES"
  else
    match effects with
    | none =>
      if relationSpecs.any (.authorizedBy ∈ ·.relationTypes) then
        .error "CAPABILITY_EFFECT_EVIDENCE_REQUIRED"
      else .ok ()
    | some effects =>
      let graphEvidence :=
        nodeSpecs.flatMap NodeSpec.evidenceIds ++ relationSpecs.flatMap RelationSpec.evidenceIds
      if ¬ effects.citationEvidenceIds ⊆ graphEvidence then .error "CITATION_EVIDENCE_NOT_IN_GRAPH"
      else .ok ()

def buildGraph (context : SnapshotContext) (nodeSpecs : List NodeSpec)
    (relationSpecs : List RelationSpec) (effects : Option ProjectionEffects) :
    Except String CanonicalGraph := do
  checkInputs nodeSpecs relationSpecs effects
  let snapshotId := snapshotIdentity context nodeSpecs relationSpecs effects
  let nodes ← nodeSpecs.foldlM (addNode snapshotId) []
  let relations ← relationSpecs.foldlM (addRelation context snapshotId nodes) []
  let orderedNodes := sortBy nodeSort nodes
  let orderedRelations := sortBy relationSort relations
  validateExecutionDependencyDag orderedNodes orderedRelations
  .ok ⟨snapshotId, context, orderedNodes, orderedRelations⟩

end Build

/-! ### The check of the dependency layer -/

/-- `a` is the dependent and `b` the prerequisite of a relation of the layer. -/
def DependsOn (relations : List RawRelation) (a b : String) : Prop :=
  ∃ r ∈ executionDependencies relations, r.sourceNodeId = a ∧ r.targetNodeId = b

/-- The dependency layer has a directed cycle. -/
def HasCycle (relations : List RawRelation) : Prop :=
  ∃ a, Relation.TransGen (DependsOn relations) a a

/-- A queue is a list of ready items that is not sorted. -/
theorem visitBy_fifo : Kahn.visitBy (fun _ _ : String => True) = Kahn.visit := by
  funext s dependent
  have hkeep : ∀ l : List String, l.insertionSort (fun _ _ => True) = l := fun l =>
    List.Pairwise.insertionSort_eq (List.pairwise_of_forall fun _ _ => trivial)
  rw [Kahn.visitBy, Kahn.visit, hkeep]

/-- A round does not look at the order of the dependents. -/
theorem dependencyStep_eq {dependents dependents' : String → List String}
    (h : ∀ b, (dependents b).Perm (dependents' b)) :
    dependencyStep dependents = Kahn.stepBy (fun _ _ => True) dependents' := by
  funext s
  rcases hready : s.ready with - | ⟨node, rest⟩
  · rw [dependencyStep, Kahn.stepBy, hready]
  · rw [dependencyStep, Kahn.stepBy, hready]
    dsimp only
    rw [visitBy_fifo, Kahn.insertionSort_eq_of_perm (h node)]

section Layer

variable {nodes : List GraphNode} {relations : List RawRelation}

/-- What a node depends on, once for each relation. -/
def prerequisites (relations : List RawRelation) (a : String) : List String :=
  ((executionDependencies relations).filter (·.sourceNodeId = a)).map RawRelation.targetNodeId

theorem mem_prerequisites {a b : String} : b ∈ prerequisites relations a ↔ DependsOn relations a b := by
  rw [prerequisites, List.mem_map]
  constructor
  · rintro ⟨r, hr, rfl⟩
    obtain ⟨hr, ha⟩ := List.mem_filter.mp hr
    exact ⟨r, hr, of_decide_eq_true ha, rfl⟩
  · rintro ⟨r, hr, ha, rfl⟩
    exact ⟨r, List.mem_filter.mpr ⟨hr, decide_eq_true ha⟩, rfl⟩

def Connected (nodes : List GraphNode) (relations : List RawRelation) : Prop :=
  ∀ r ∈ relations, r.sourceNodeId ∈ nodes.map GraphNode.nodeId ∧
    r.targetNodeId ∈ nodes.map GraphNode.nodeId

/-- The waiting nodes of the loop are those of the library, in another order. -/
theorem dependents_perm {names : List String} (hn : names.Nodup)
    (hsource : ∀ r ∈ executionDependencies relations, r.sourceNodeId ∈ names) (b : String) :
    (((executionDependencies relations).filter (·.targetNodeId = b)).map RawRelation.sourceNodeId).Perm
      (Kahn.dependents names (prerequisites relations) b) := by
  apply List.perm_iff_count.mpr
  intro a
  by_cases ha : a ∈ names
  · rw [Kahn.count_dependents hn _ _ ha, prerequisites, List.count_eq_length_filter,
      List.count_eq_length_filter, List.filter_map, List.filter_map, List.length_map, List.length_map,
      List.filter_filter, List.filter_filter]
    congr 1
    apply List.filter_congr
    intro r _
    simp [Bool.and_comm, beq_eq_decide]
  · rw [List.count_eq_zero_of_not_mem, List.count_eq_zero_of_not_mem]
    · exact fun hmem => ha (Kahn.mem_dependents.mp hmem).1
    · intro hmem
      obtain ⟨r, hr, rfl⟩ := List.mem_map.mp hmem
      exact ha (hsource r (List.mem_filter.mp hr).1)

theorem acyclic_iff {names : List String}
    (hsource : ∀ r ∈ executionDependencies relations, r.sourceNodeId ∈ names) :
    Kahn.Acyclic names (prerequisites relations) ↔ ¬ HasCycle relations := by
  have hrel : (fun a b => b ∈ prerequisites relations a) = DependsOn relations := by
    funext a b
    exact propext mem_prerequisites
  unfold Kahn.Acyclic HasCycle
  rw [hrel, not_exists]
  constructor
  · intro h a hcycle
    obtain ⟨b, ⟨r, hr, ha, -⟩, -⟩ := Relation.TransGen.head'_iff.mp hcycle
    exact h a (ha ▸ hsource r hr) hcycle
  · exact fun h a _ => h a

/-- The loop visits every node exactly if the layer has no cycle. -/
theorem validateExecutionDependencyDag_eq (h : Connected nodes relations) :
    (validateExecutionDependencyDag nodes relations = .ok () ↔
        (∀ r ∈ executionDependencies relations, .dependsOn ∈ r.relationTypes) ∧ ¬ HasCycle relations) ∧
      (validateExecutionDependencyDag nodes relations = .error "EXECUTION_DEPENDENCY_CYCLE" ↔
        (∀ r ∈ executionDependencies relations, .dependsOn ∈ r.relationTypes) ∧ HasCycle relations) := by
  let nodeIds := (nodes.map GraphNode.nodeId).dedup
  let names := nodeIds.insertionSort (· ≤ ·)
  have hperm : names.Perm nodeIds := List.perm_insertionSort _ _
  have hnames : names.Nodup := hperm.nodup_iff.mpr (List.nodup_dedup _)
  have hmem : ∀ {id}, id ∈ nodes.map GraphNode.nodeId → id ∈ names := fun hid =>
    hperm.mem_iff.mpr (List.mem_dedup.mpr hid)
  have hsource : ∀ r ∈ executionDependencies relations, r.sourceNodeId ∈ names := fun r hr =>
    hmem (h r (List.mem_filter.mp hr).1).1
  have hclosed : ∀ a ∈ names, ∀ b ∈ prerequisites relations a, b ∈ names := by
    intro a _ b hb
    obtain ⟨r, hr, -, rfl⟩ := mem_prerequisites.mp hb
    exact hmem (h r (List.mem_filter.mp hr).1).2
  let indegree : String → Int := fun a =>
    ((executionDependencies relations).filter (·.sourceNodeId = a)).length
  have hindegree : (fun a => ((prerequisites relations a).length : Int)) = indegree := by
    funext a
    rw [prerequisites, List.length_map]
  -- the queue starts in the order of the sorted names
  have hready : (nodeIds.filter (indegree · = 0)).insertionSort (· ≤ ·) =
      (names.filter (indegree · = 0)).insertionSort (fun _ _ => True) := by
    rw [Kahn.insertionSort_eq_of_perm (hperm.symm.filter _),
      ((List.pairwise_insertionSort (· ≤ ·) nodeIds).filter _).insertionSort_eq]
    exact (List.Pairwise.insertionSort_eq (List.pairwise_of_forall fun _ _ => trivial)).symm
  have hstart : (⟨indegree, (nodeIds.filter (indegree · = 0)).insertionSort (· ≤ ·), []⟩ :
      Kahn.State String) = Kahn.startBy (fun _ _ => True) names (prerequisites relations) := by
    rw [hready]
    simp only [Kahn.startBy, ← hindegree]
  have hcomplete := (Kahn.runBy_complete_iff (fun _ _ : String => True) hnames hclosed).trans
    (acyclic_iff hsource)
  rw [Kahn.runBy, ← dependencyStep_eq (dependents_perm hnames hsource), ← hstart,
    hperm.length_eq] at hcomplete
  unfold validateExecutionDependencyDag
  dsimp only
  by_cases htypes : ∀ r ∈ executionDependencies relations, .dependsOn ∈ r.relationTypes
  swap
  · have hany : ((executionDependencies relations).any fun r => .dependsOn ∉ r.relationTypes) = true := by
      simpa using htypes
    rw [if_pos hany]
    simp [htypes]
  · have hany : ¬ ((executionDependencies relations).any fun r =>
        .dependsOn ∉ r.relationTypes) = true := by
      simpa using htypes
    rw [if_neg hany]
    by_cases hcycle : HasCycle relations
    · rw [if_pos fun hlength => hcomplete.mp hlength hcycle]
      exact ⟨iff_of_false (by simp) fun hok => hok.2 hcycle, iff_of_true rfl ⟨htypes, hcycle⟩⟩
    · rw [if_neg (not_not.mpr (hcomplete.mpr hcycle))]
      exact ⟨iff_of_true rfl ⟨htypes, hcycle⟩, iff_of_false (by simp) fun herror => hcycle herror.2⟩

end Layer

/-! ### What a graph is built from -/

section Build

variable [Unicodedata] {context : SnapshotContext} {nodeSpecs nodeSpecs' : List NodeSpec}
  {relationSpecs relationSpecs' : List RelationSpec} {effects : Option ProjectionEffects}

omit [Unicodedata] in
/-- A list with one more item, with distinct keys. -/
theorem nodup_map_concat {α β : Type*} {f : α → β} {l : List α} {a : α} :
    ((l ++ [a]).map f).Nodup ↔ (l.map f).Nodup ∧ f a ∉ l.map f := by
  rw [List.map_append, List.map_singleton, List.nodup_append_comm, List.singleton_append,
    List.nodup_cons, and_comm]

/-- The loop over the node specs, after `found`. -/
theorem foldlM_addNode_eq_ok {snapshotId : String} {found out : List GraphNode}
    (hfound : (found.map GraphNode.entityId).Nodup) :
    nodeSpecs.foldlM (addNode snapshotId) found = .ok out ↔
      out = found ++ nodeSpecs.map (graphNode snapshotId) ∧ (out.map GraphNode.entityId).Nodup := by
  induction nodeSpecs generalizing found with
  | nil =>
    rw [List.foldlM_nil, List.map_nil, List.append_nil]
    constructor
    · intro h
      cases h
      exact ⟨rfl, hfound⟩
    · rintro ⟨rfl, -⟩
      rfl
  | cons spec specs ih =>
    rw [List.foldlM_cons, bind_eq_ok]
    have hnodup : spec.entityId ∉ found.map GraphNode.entityId ↔
        ((found ++ [graphNode snapshotId spec]).map GraphNode.entityId).Nodup :=
      ((nodup_map_concat (a := graphNode snapshotId spec)).trans (and_iff_right hfound)).symm
    constructor
    · rintro ⟨next, hadd, hrest⟩
      rw [addNode, ite_error_eq_ok'] at hadd
      cases hadd.2
      rw [ih (hnodup.mp hadd.1)] at hrest
      rwa [List.map_cons, List.append_cons]
    · rintro ⟨rfl, hout⟩
      have hfresh : spec.entityId ∉ found.map GraphNode.entityId := by
        rw [hnodup]
        refine List.Nodup.sublist ((List.Sublist.append_left ?_ _).map _) hout
        exact List.singleton_sublist.mpr List.mem_cons_self
      refine ⟨found ++ [graphNode snapshotId spec], if_neg hfresh, ?_⟩
      rw [ih (hnodup.mp hfresh), ← List.append_cons]
      exact ⟨rfl, hout⟩

/-- The loop over the relation specs, after `found`. -/
theorem foldlM_addRelation_eq_ok {snapshotId : String} {nodes : List GraphNode}
    {found out : List RawRelation} (hfound : (found.map RawRelation.relationId).Nodup) :
    relationSpecs.foldlM (addRelation context snapshotId nodes) found = .ok out ↔
      ∃ rs, relationSpecs.mapM (relationOf context snapshotId nodes) = .ok rs ∧ out = found ++ rs ∧
        (out.map RawRelation.relationId).Nodup := by
  induction relationSpecs generalizing found with
  | nil =>
    rw [List.foldlM_nil, List.mapM_nil]
    constructor
    · intro h
      cases h
      exact ⟨[], rfl, (List.append_nil _).symm, hfound⟩
    · rintro ⟨rs, hrs, rfl, -⟩
      cases hrs
      rw [List.append_nil]
      rfl
  | cons spec specs ih =>
    rw [List.foldlM_cons, List.mapM_cons, bind_eq_ok]
    constructor
    · rintro ⟨next, hadd, hrest⟩
      obtain ⟨r, hr, hadd⟩ := bind_eq_ok.mp hadd
      rw [ite_error_eq_ok'] at hadd
      cases hadd.2
      have hnext : ((found ++ [r]).map RawRelation.relationId).Nodup :=
        nodup_map_concat.mpr ⟨hfound, hadd.1⟩
      obtain ⟨rs, hrs, rfl, hnodup⟩ := (ih hnext).mp hrest
      rw [List.append_assoc, List.singleton_append] at hnodup ⊢
      exact ⟨r :: rs, bind_eq_ok.mpr ⟨r, hr, bind_eq_ok.mpr ⟨rs, hrs, rfl⟩⟩, rfl, hnodup⟩
    · rintro ⟨out', hmap, rfl, hnodup⟩
      obtain ⟨r, hr, hmap⟩ := bind_eq_ok.mp hmap
      obtain ⟨rs, hrs, hmap⟩ := bind_eq_ok.mp hmap
      cases hmap
      have hnext : ((found ++ [r]).map RawRelation.relationId).Nodup := by
        rw [List.append_cons] at hnodup
        exact hnodup.sublist ((List.sublist_append_left _ _).map _)
      have hfresh := (nodup_map_concat.mp hnext).2
      refine ⟨found ++ [r], bind_eq_ok.mpr ⟨r, hr, if_neg hfresh⟩, ?_⟩
      exact (ih hnext).mpr ⟨rs, hrs, List.append_cons _ _ _, hnodup⟩

/-- The nodes of the specs, as they are given. -/
def builtNodes (context : SnapshotContext) (nodeSpecs : List NodeSpec)
    (relationSpecs : List RelationSpec) (effects : Option ProjectionEffects) : List GraphNode :=
  nodeSpecs.map (graphNode (snapshotIdentity context nodeSpecs relationSpecs effects))

/-- **What `build_graph` builds**, and when. -/
theorem buildGraph_eq_ok {g : CanonicalGraph} :
    buildGraph context nodeSpecs relationSpecs effects = .ok g ↔
      checkInputs nodeSpecs relationSpecs effects = .ok () ∧
        (nodeSpecs.map NodeSpec.entityId).Nodup ∧
        ∃ relations, relationSpecs.mapM (relationOf context
            (snapshotIdentity context nodeSpecs relationSpecs effects)
            (builtNodes context nodeSpecs relationSpecs effects)) = .ok relations ∧
          (relations.map RawRelation.relationId).Nodup ∧
          validateExecutionDependencyDag
            (sortBy nodeSort (builtNodes context nodeSpecs relationSpecs effects))
            (sortBy relationSort relations) = .ok () ∧
          g = ⟨snapshotIdentity context nodeSpecs relationSpecs effects, context,
            sortBy nodeSort (builtNodes context nodeSpecs relationSpecs effects),
            sortBy relationSort relations⟩ := by
  have hentities : ∀ sid, ((nodeSpecs.map (graphNode sid)).map GraphNode.entityId) =
      nodeSpecs.map NodeSpec.entityId := by
    intro sid
    rw [List.map_map]
    rfl
  have hempty : ∀ {α : Type} {f : α → String}, (([] : List α).map f).Nodup := List.nodup_nil
  simp only [buildGraph, bind_eq_ok, foldlM_addNode_eq_ok hempty, foldlM_addRelation_eq_ok hempty,
    List.nil_append]
  constructor
  · rintro ⟨⟨⟩, hinputs, nodes, ⟨rfl, hnodes⟩, relations, ⟨_, hrelations, rfl, hnodup⟩, ⟨⟩, hdag, hg⟩
    cases hg
    rw [hentities] at hnodes
    exact ⟨hinputs, hnodes, relations, hrelations, hnodup, hdag, rfl⟩
  · rintro ⟨hinputs, hnodes, relations, hrelations, hnodup, hdag, rfl⟩
    exact ⟨(), hinputs, _, ⟨rfl, by rwa [hentities]⟩, relations, ⟨relations, hrelations, rfl, hnodup⟩, (),
      hdag, rfl⟩

/-! ### The order of the specs -/

/-- The whole input is hashed in a sorted form. -/
theorem snapshotIdentity_perm (hnodes : nodeSpecs.Perm nodeSpecs')
    (hrelations : relationSpecs.Perm relationSpecs') :
    snapshotIdentity context nodeSpecs relationSpecs effects =
      snapshotIdentity context nodeSpecs' relationSpecs' effects := by
  have hn := @Sorting.map_sortBy_eq_of_perm _ _ _ canonicalJson _ _
    (hnodes.map fun s => s.payload.normalize)
  have hr := @Sorting.map_sortBy_eq_of_perm _ _ _ canonicalJson _ _
    (hrelations.map fun s => s.payload.normalize)
  simp only [snapshotIdentity, identity, canonicalJson_obj, List.map_cons, canonicalJson_arr, hn, hr]

/-- What the first checks ask for. -/
theorem checkInputs_eq_ok : checkInputs nodeSpecs relationSpecs effects = .ok () ↔
    nodeSpecs ≠ [] ∧ (effects = none → ∀ s ∈ relationSpecs, .authorizedBy ∉ s.relationTypes) ∧
      ∀ e, effects = some e → ∀ id ∈ e.citationEvidenceIds,
        (∃ s ∈ nodeSpecs, id ∈ s.evidenceIds) ∨ ∃ s ∈ relationSpecs, id ∈ s.evidenceIds := by
  unfold checkInputs
  rw [ite_error_eq_ok']
  refine and_congr_right fun _ => ?_
  rcases effects with _ | e
  · simp [List.any_eq_true]
  · rw [ite_error_eq_ok', not_not]
    simp [List.subset_def, List.mem_flatMap]

theorem checkInputs_perm (hnodes : nodeSpecs.Perm nodeSpecs')
    (hrelations : relationSpecs.Perm relationSpecs')
    (h : checkInputs nodeSpecs relationSpecs effects = .ok ()) :
    checkInputs nodeSpecs' relationSpecs' effects = .ok () := by
  obtain ⟨hne, hauthorized, hcited⟩ := checkInputs_eq_ok.mp h
  refine checkInputs_eq_ok.mpr ⟨fun hnil => hne ?_, fun he s hs => ?_, fun e he id hid => ?_⟩
  · exact (hnil ▸ hnodes).eq_nil
  · exact hauthorized he s (hrelations.mem_iff.mpr hs)
  · refine (hcited e he id hid).imp ?_ ?_
    · rintro ⟨s, hs, hid⟩
      exact ⟨s, hnodes.mem_iff.mp hs, hid⟩
    · rintro ⟨s, hs, hid⟩
      exact ⟨s, hrelations.mem_iff.mp hs, hid⟩

omit [Unicodedata] in
/-- Entities are looked up by an identifier no two nodes share. -/
theorem nodeOf_eq_some {nodes : List GraphNode} (hn : (nodes.map GraphNode.entityId).Nodup)
    {entityId : String} {node : GraphNode} :
    nodeOf nodes entityId = some node ↔ node ∈ nodes ∧ node.entityId = entityId := by
  constructor
  · intro h
    exact ⟨List.mem_of_find?_eq_some h, of_decide_eq_true (List.find?_some h :)⟩
  · rintro ⟨hmem, rfl⟩
    rcases hfind : nodeOf nodes node.entityId with _ | found
    · exact absurd (List.find?_eq_none.mp hfind node hmem) (by simp)
    · have hid := of_decide_eq_true (List.find?_some hfind :)
      rw [List.inj_on_of_nodup_map hn (List.mem_of_find?_eq_some hfind) hmem hid]

omit [Unicodedata] in
theorem nodeOf_perm {nodes nodes' : List GraphNode} (h : nodes.Perm nodes')
    (hn : (nodes.map GraphNode.entityId).Nodup) : nodeOf nodes = nodeOf nodes' := by
  funext entityId
  apply Option.ext
  intro node
  rw [nodeOf_eq_some hn, nodeOf_eq_some ((h.map _).nodup_iff.mp hn), h.mem_iff]

omit [Unicodedata] in
/-- A loop over a permuted list collects permuted results. -/
theorem mapM_perm {ε α β : Type*} {f : α → Except ε β} {l l' : List α} {r : List β} (h : l.Perm l')
    (hr : l.mapM f = .ok r) : ∃ r', l'.mapM f = .ok r' ∧ r.Perm r' := by
  obtain ⟨r', hr', hperm⟩ := List.perm_comp_forall₂ h.symm (mapM_eq_ok.mp hr)
  exact ⟨r', mapM_eq_ok.mpr hr', hperm.symm⟩

theorem builtNodes_entities :
    (builtNodes context nodeSpecs relationSpecs effects).map GraphNode.entityId =
      nodeSpecs.map NodeSpec.entityId := by
  rw [builtNodes, List.map_map]
  rfl

theorem buildGraph_perm_ok (hnodes : nodeSpecs.Perm nodeSpecs')
    (hrelations : relationSpecs.Perm relationSpecs') {g : CanonicalGraph}
    (h : buildGraph context nodeSpecs relationSpecs effects = .ok g) :
    buildGraph context nodeSpecs' relationSpecs' effects = .ok g := by
  obtain ⟨hinputs, hentities, relations, hmap, hids, hdag, rfl⟩ := buildGraph_eq_ok.mp h
  have hsnapshot : snapshotIdentity context nodeSpecs relationSpecs effects =
      snapshotIdentity context nodeSpecs' relationSpecs' effects :=
    snapshotIdentity_perm hnodes hrelations
  have hbuilt : (builtNodes context nodeSpecs relationSpecs effects).Perm
      (builtNodes context nodeSpecs' relationSpecs' effects) := by
    rw [builtNodes, builtNodes, ← hsnapshot]
    exact hnodes.map _
  have hkeys : ((builtNodes context nodeSpecs relationSpecs effects).map GraphNode.entityId).Nodup := by
    rwa [builtNodes_entities]
  have hrelationOf : relationOf context (snapshotIdentity context nodeSpecs relationSpecs effects)
        (builtNodes context nodeSpecs relationSpecs effects) =
      relationOf context (snapshotIdentity context nodeSpecs' relationSpecs' effects)
        (builtNodes context nodeSpecs' relationSpecs' effects) := by
    funext spec
    rw [relationOf, relationOf, nodeOf_perm hbuilt hkeys, hsnapshot]
  obtain ⟨relations', hmap', hperm⟩ := mapM_perm hrelations hmap
  -- the keys of the two sorts tell nodes and relations apart
  have hsortedNodes : sortBy nodeSort (builtNodes context nodeSpecs relationSpecs effects) =
      sortBy nodeSort (builtNodes context nodeSpecs' relationSpecs' effects) := by
    refine Sorting.sortBy_eq_of_perm hbuilt fun a ha b hb hkey => ?_
    apply List.inj_on_of_nodup_map hkeys ha hb
    have hkey := (Prod.mk.inj (toLex.injective hkey)).2
    exact (Prod.mk.inj (toLex.injective hkey)).1
  have hsortedRelations : sortBy relationSort relations = sortBy relationSort relations' := by
    refine Sorting.sortBy_eq_of_perm hperm fun a ha b hb hkey => ?_
    apply List.inj_on_of_nodup_map hids ha hb
    simp only [relationSort, EmbeddingLike.apply_eq_iff_eq, Prod.mk.injEq] at hkey
    exact hkey.2.2.2.2.2
  rw [hsortedNodes, hsortedRelations] at hdag ⊢
  rw [hrelationOf] at hmap'
  rw [hsnapshot]
  exact buildGraph_eq_ok.mpr ⟨checkInputs_perm hnodes hrelations hinputs,
    (hnodes.map _).nodup_iff.mp hentities, relations', hmap', (hperm.map _).nodup_iff.mp hids, hdag, rfl⟩

/-- **The order of the specs does not matter.** -/
theorem buildGraph_perm (hnodes : nodeSpecs.Perm nodeSpecs')
    (hrelations : relationSpecs.Perm relationSpecs') :
    (buildGraph context nodeSpecs relationSpecs effects).toOption =
      (buildGraph context nodeSpecs' relationSpecs' effects).toOption := by
  apply Option.ext
  intro g
  have hsome : ∀ {x : Except String CanonicalGraph}, x.toOption = some g ↔ x = .ok g := by
    intro x
    cases x <;> simp [Except.toOption]
  rw [hsome, hsome]
  exact ⟨buildGraph_perm_ok hnodes hrelations, buildGraph_perm_ok hnodes.symm hrelations.symm⟩

/-! ### Cycles -/

/-- The identifier of an entity's node. -/
def nodeIdOf (nodes : List GraphNode) (entityId : String) : String :=
  ((nodeOf nodes entityId).map GraphNode.nodeId).getD ""

/-- The relations of the specs, as they are given. -/
def builtRelations (context : SnapshotContext) (nodeSpecs : List NodeSpec)
    (relationSpecs : List RelationSpec) (effects : Option ProjectionEffects) : List RawRelation :=
  let nodes := builtNodes context nodeSpecs relationSpecs effects
  relationSpecs.map fun s =>
    rawRelation (snapshotIdentity context nodeSpecs relationSpecs effects) s
      (nodeIdOf nodes s.sourceEntityId) (nodeIdOf nodes s.targetEntityId)

/-- The checks other than the one for cycles. -/
structure Checked (context : SnapshotContext) (nodeSpecs : List NodeSpec)
    (relationSpecs : List RelationSpec) (effects : Option ProjectionEffects) : Prop where
  inputs : checkInputs nodeSpecs relationSpecs effects = .ok ()
  entities : (nodeSpecs.map NodeSpec.entityId).Nodup
  domain : ∀ s ∈ relationSpecs, s.tenantOrSecurityDomain = context.securityDomain
  endpoints : ∀ s ∈ relationSpecs, s.sourceEntityId ∈ nodeSpecs.map NodeSpec.entityId ∧
    s.targetEntityId ∈ nodeSpecs.map NodeSpec.entityId
  relationIds : ((builtRelations context nodeSpecs relationSpecs effects).map
    RawRelation.relationId).Nodup
  dependsOn : ∀ s ∈ relationSpecs, s.layer = .executionDependency → .dependsOn ∈ s.relationTypes

omit [Unicodedata] in
theorem nodeOf_of_mem {nodes : List GraphNode} {entityId : String}
    (h : entityId ∈ nodes.map GraphNode.entityId) : ∃ node, nodeOf nodes entityId = some node := by
  obtain ⟨node, hmem, rfl⟩ := List.mem_map.mp h
  apply Option.isSome_iff_exists.mp
  rw [nodeOf, List.find?_isSome]
  exact ⟨node, hmem, by simp⟩

theorem relationOf_eq_ok {snapshotId : String} {nodes : List GraphNode} {spec : RelationSpec}
    {r : RawRelation} : relationOf context snapshotId nodes spec = .ok r ↔
      (spec.tenantOrSecurityDomain = context.securityDomain ∧
        spec.sourceEntityId ∈ nodes.map GraphNode.entityId ∧
        spec.targetEntityId ∈ nodes.map GraphNode.entityId) ∧
      r = rawRelation snapshotId spec (nodeIdOf nodes spec.sourceEntityId)
        (nodeIdOf nodes spec.targetEntityId) := by
  have hmem : ∀ {entityId : String} {node : GraphNode}, nodeOf nodes entityId = some node →
      entityId ∈ nodes.map GraphNode.entityId := by
    intro entityId node h
    have hid : node.entityId = entityId := of_decide_eq_true (List.find?_some h :)
    exact hid ▸ List.mem_map_of_mem (List.mem_of_find?_eq_some h)
  unfold relationOf
  rw [ite_error_eq_ok', not_not, and_assoc]
  refine and_congr_right fun _ => ?_
  rcases hsource : nodeOf nodes spec.sourceEntityId with _ | source
  · refine iff_of_false (by simp) fun h => ?_
    obtain ⟨node, hnode⟩ := nodeOf_of_mem h.1.1
    rw [hsource] at hnode
    cases hnode
  rcases htarget : nodeOf nodes spec.targetEntityId with _ | target
  · refine iff_of_false (by simp) fun h => ?_
    obtain ⟨node, hnode⟩ := nodeOf_of_mem h.1.2
    rw [htarget] at hnode
    cases hnode
  rw [and_iff_right ⟨hmem hsource, hmem htarget⟩, nodeIdOf, nodeIdOf, hsource, htarget]
  constructor
  · intro h
    exact (Except.ok.inj h).symm
  · rintro rfl
    rfl

/-- The loop over the relation specs, when it passes. -/
theorem mapM_relationOf_eq_ok {rs : List RawRelation} :
    relationSpecs'.mapM (relationOf context (snapshotIdentity context nodeSpecs relationSpecs effects)
        (builtNodes context nodeSpecs relationSpecs effects)) = .ok rs ↔
      (∀ s ∈ relationSpecs', s.tenantOrSecurityDomain = context.securityDomain ∧
        s.sourceEntityId ∈ nodeSpecs.map NodeSpec.entityId ∧
        s.targetEntityId ∈ nodeSpecs.map NodeSpec.entityId) ∧
      rs = relationSpecs'.map fun s =>
        rawRelation (snapshotIdentity context nodeSpecs relationSpecs effects) s
          (nodeIdOf (builtNodes context nodeSpecs relationSpecs effects) s.sourceEntityId)
          (nodeIdOf (builtNodes context nodeSpecs relationSpecs effects) s.targetEntityId) := by
  rw [mapM_eq_ok]
  induction relationSpecs' generalizing rs with
  | nil => simp
  | cons s specs ih =>
    rw [List.forall₂_cons_left_iff, List.forall_mem_cons, List.map_cons]
    constructor
    · rintro ⟨r, rest, hr, hrest, rfl⟩
      obtain ⟨hs, rfl⟩ := relationOf_eq_ok.mp hr
      rw [builtNodes_entities] at hs
      obtain ⟨hspecs, rfl⟩ := ih.mp hrest
      exact ⟨⟨hs, hspecs⟩, rfl⟩
    · rintro ⟨⟨hs, hspecs⟩, rfl⟩
      refine ⟨_, _, relationOf_eq_ok.mpr ⟨?_, rfl⟩, ih.mpr ⟨hspecs, rfl⟩, rfl⟩
      rwa [builtNodes_entities]

theorem Checked.connected (h : Checked context nodeSpecs relationSpecs effects) :
    Connected (builtNodes context nodeSpecs relationSpecs effects)
      (builtRelations context nodeSpecs relationSpecs effects) := by
  have hid : ∀ entityId ∈ nodeSpecs.map NodeSpec.entityId,
      nodeIdOf (builtNodes context nodeSpecs relationSpecs effects) entityId ∈
        (builtNodes context nodeSpecs relationSpecs effects).map GraphNode.nodeId := by
    intro entityId hmem
    have hbuilt : entityId ∈
        (builtNodes context nodeSpecs relationSpecs effects).map GraphNode.entityId := by
      rwa [builtNodes_entities]
    obtain ⟨node, hnode⟩ := nodeOf_of_mem hbuilt
    rw [nodeIdOf, hnode]
    exact List.mem_map_of_mem (List.mem_of_find?_eq_some hnode)
  intro r hr
  obtain ⟨s, hs, rfl⟩ := List.mem_map.mp hr
  exact ⟨hid _ (h.endpoints s hs).1, hid _ (h.endpoints s hs).2⟩

omit [Unicodedata] in
theorem hasCycle_perm {relations relations' : List RawRelation} (h : relations.Perm relations') :
    HasCycle relations ↔ HasCycle relations' := by
  have hrel : DependsOn relations = DependsOn relations' := by
    funext a b
    unfold DependsOn executionDependencies
    simp only [List.mem_filter, h.mem_iff]
  rw [HasCycle, HasCycle, hrel]

/-- Specs that pass the other checks are built, or refused for a cycle. -/
theorem buildGraph_of_checked (h : Checked context nodeSpecs relationSpecs effects) :
    ((∃ g, buildGraph context nodeSpecs relationSpecs effects = .ok g) ↔
        ¬ HasCycle (builtRelations context nodeSpecs relationSpecs effects)) ∧
      (buildGraph context nodeSpecs relationSpecs effects = .error "EXECUTION_DEPENDENCY_CYCLE" ↔
        HasCycle (builtRelations context nodeSpecs relationSpecs effects)) := by
  let nodes := builtNodes context nodeSpecs relationSpecs effects
  let relations := builtRelations context nodeSpecs relationSpecs effects
  have hnodes : nodeSpecs.foldlM
      (addNode (snapshotIdentity context nodeSpecs relationSpecs effects)) [] = .ok nodes := by
    refine (foldlM_addNode_eq_ok (by simp)).mpr ⟨rfl, ?_⟩
    rw [builtNodes_entities]
    exact h.entities
  have hrelations : relationSpecs.foldlM (addRelation context
      (snapshotIdentity context nodeSpecs relationSpecs effects) nodes) [] = .ok relations :=
    (foldlM_addRelation_eq_ok (by simp)).mpr ⟨relations, mapM_relationOf_eq_ok.mpr
      ⟨fun s hs => ⟨h.domain s hs, h.endpoints s hs⟩, rfl⟩, rfl, h.relationIds⟩
  have hbuild : buildGraph context nodeSpecs relationSpecs effects =
      (validateExecutionDependencyDag (sortBy nodeSort nodes) (sortBy relationSort relations) >>=
        fun _ => .ok ⟨snapshotIdentity context nodeSpecs relationSpecs effects, context,
          sortBy nodeSort nodes, sortBy relationSort relations⟩) := by
    rw [buildGraph, h.inputs]
    show (nodeSpecs.foldlM (addNode (snapshotIdentity context nodeSpecs relationSpecs effects)) []
      >>= _) = _
    rw [hnodes]
    show (relationSpecs.foldlM (addRelation context
      (snapshotIdentity context nodeSpecs relationSpecs effects) nodes) [] >>= _) = _
    rw [hrelations]
    rfl
  have hconnected : Connected (sortBy nodeSort nodes) (sortBy relationSort relations) := by
    intro r hr
    obtain ⟨hsource, htarget⟩ := h.connected r ((Sorting.mem_sortBy _).mp hr)
    have hids := (Sorting.perm_sortBy nodeSort nodes).map GraphNode.nodeId
    exact ⟨hids.mem_iff.mpr hsource, hids.mem_iff.mpr htarget⟩
  have htypes : ∀ r ∈ executionDependencies (sortBy relationSort relations),
      .dependsOn ∈ r.relationTypes := by
    intro r hr
    obtain ⟨hr, hlayer⟩ := List.mem_filter.mp hr
    obtain ⟨s, hs, rfl⟩ := List.mem_map.mp ((Sorting.mem_sortBy _).mp hr)
    exact (Sorting.mem_sortBy _).mpr (h.dependsOn s hs (of_decide_eq_true hlayer))
  obtain ⟨hok, herror⟩ := validateExecutionDependencyDag_eq hconnected
  rw [and_iff_right htypes, hasCycle_perm (Sorting.perm_sortBy _ _)] at hok herror
  rw [hbuild, ← hok, ← herror]
  rcases validateExecutionDependencyDag (sortBy nodeSort nodes) (sortBy relationSort relations)
    with code | ⟨⟩
  · refine ⟨iff_of_false ?_ (by simp), ?_⟩
    · rintro ⟨g, hg⟩
      cases hg
    · constructor
      · intro hcode
        cases hcode
        rfl
      · intro hcode
        cases hcode
        rfl
  · refine ⟨iff_of_true ⟨_, rfl⟩ rfl, iff_of_false ?_ (by simp)⟩
    intro hg
    cases hg

/-! ### Cycles of entities -/

/-- The entity `a` depends on the entity `b`. -/
def EntityDependsOn (relationSpecs : List RelationSpec) (a b : String) : Prop :=
  ∃ s ∈ relationSpecs, s.layer = .executionDependency ∧ s.sourceEntityId = a ∧ s.targetEntityId = b

/-- The specs of the dependency layer have a directed cycle. -/
def HasEntityCycle (relationSpecs : List RelationSpec) : Prop :=
  ∃ a, Relation.TransGen (EntityDependsOn relationSpecs) a a

/-- What is hashed for the identifiers of the nodes. -/
def nodeTexts (context : SnapshotContext) (nodeSpecs : List NodeSpec)
    (relationSpecs : List RelationSpec) (effects : Option ProjectionEffects) : Set String :=
  {t | ∃ s ∈ nodeSpecs, t = canonicalJson (textList
    [snapshotIdentity context nodeSpecs relationSpecs effects, s.nodeType.value, s.entityId,
      s.occurrenceContext])}

theorem entity_of_text {a b c d a' b' c' d' : String} (hc : nfc c = c) (hc' : nfc c' = c')
    (h : canonicalJson (textList [a, b, c, d]) = canonicalJson (textList [a', b', c', d'])) : c = c' := by
  have hforms := Json.dumps_injective h
  simp only [Definition.texts, Definition.canonical, Definition.canonicalItems, Json.sortKeys,
    Json.sortItems, List.map_cons, List.map_nil, Json.arr.injEq, List.cons.injEq, Json.str.injEq] at hforms
  rw [← hc, ← hc', hforms.2.2.1]

theorem entity_of_nodeId (hfree : CollisionFreeOn (nodeTexts context nodeSpecs relationSpecs effects))
    {s s' : NodeSpec} (hs : s ∈ nodeSpecs) (hs' : s' ∈ nodeSpecs)
    (h : (graphNode (snapshotIdentity context nodeSpecs relationSpecs effects) s).nodeId =
      (graphNode (snapshotIdentity context nodeSpecs relationSpecs effects) s').nodeId) :
    s.entityId = s'.entityId := by
  have hdigest : sha256 _ = sha256 _ := (String.append_right_inj _).mp h
  exact entity_of_text s.entityId_normal s'.entityId_normal (hfree ⟨s, hs, rfl⟩ ⟨s', hs', rfl⟩ hdigest)

theorem nodeIdOf_injOn (h : Checked context nodeSpecs relationSpecs effects)
    (hfree : CollisionFreeOn (nodeTexts context nodeSpecs relationSpecs effects)) :
    Set.InjOn (nodeIdOf (builtNodes context nodeSpecs relationSpecs effects))
      {e | e ∈ nodeSpecs.map NodeSpec.entityId} := by
  have hspec : ∀ e ∈ nodeSpecs.map NodeSpec.entityId, ∃ s ∈ nodeSpecs, s.entityId = e ∧
      nodeIdOf (builtNodes context nodeSpecs relationSpecs effects) e =
        (graphNode (snapshotIdentity context nodeSpecs relationSpecs effects) s).nodeId := by
    intro e he
    obtain ⟨s, hs, rfl⟩ := List.mem_map.mp he
    refine ⟨s, hs, rfl, ?_⟩
    have hfind : nodeOf (builtNodes context nodeSpecs relationSpecs effects) s.entityId =
        some (graphNode (snapshotIdentity context nodeSpecs relationSpecs effects) s) := by
      refine (nodeOf_eq_some ?_).mpr ⟨List.mem_map_of_mem hs, rfl⟩
      rw [builtNodes_entities]
      exact h.entities
    rw [nodeIdOf, hfind]
    rfl
  intro e he e' he' heq
  obtain ⟨s, hs, rfl, hid⟩ := hspec e he
  obtain ⟨s', hs', rfl, hid'⟩ := hspec e' he'
  rw [hid, hid'] at heq
  exact entity_of_nodeId hfree hs hs' heq

/-- The cycles of the nodes are those of the entities. -/
theorem hasCycle_iff_entities (h : Checked context nodeSpecs relationSpecs effects)
    (hfree : CollisionFreeOn (nodeTexts context nodeSpecs relationSpecs effects)) :
    HasCycle (builtRelations context nodeSpecs relationSpecs effects) ↔ HasEntityCycle relationSpecs := by
  let id := nodeIdOf (builtNodes context nodeSpecs relationSpecs effects)
  let entity := Function.invFunOn id {e | e ∈ nodeSpecs.map NodeSpec.entityId}
  have hinj := nodeIdOf_injOn h hfree
  have hentity : ∀ e ∈ nodeSpecs.map NodeSpec.entityId, entity (id e) = e := fun e he =>
    hinj.leftInvOn_invFunOn he
  constructor
  · rintro ⟨a, hcycle⟩
    refine ⟨entity a, hcycle.lift entity ?_⟩
    rintro _ _ ⟨r, hr, rfl, rfl⟩
    obtain ⟨hr, hlayer⟩ := List.mem_filter.mp hr
    obtain ⟨s, hs, rfl⟩ := List.mem_map.mp hr
    obtain ⟨hsource, htarget⟩ := h.endpoints s hs
    exact ⟨s, hs, of_decide_eq_true hlayer, (hentity _ hsource).symm, (hentity _ htarget).symm⟩
  · rintro ⟨a, hcycle⟩
    refine ⟨id a, hcycle.lift id ?_⟩
    rintro _ _ ⟨s, hs, hlayer, rfl, rfl⟩
    exact ⟨_, List.mem_filter.mpr ⟨List.mem_map_of_mem hs, decide_eq_true hlayer⟩, rfl, rfl⟩

/-- **The graph does not depend on the order of the specs, and it is refused for a cycle
exactly when its dependency layer has one.** -/
theorem buildGraph_exact (context : SnapshotContext) (effects : Option ProjectionEffects)
    (hnodes : nodeSpecs.Perm nodeSpecs') (hrelations : relationSpecs.Perm relationSpecs') :
    (buildGraph context nodeSpecs relationSpecs effects).toOption =
        (buildGraph context nodeSpecs' relationSpecs' effects).toOption ∧
      (Checked context nodeSpecs relationSpecs effects →
        (buildGraph context nodeSpecs relationSpecs effects = .error "EXECUTION_DEPENDENCY_CYCLE" ↔
          HasCycle (builtRelations context nodeSpecs relationSpecs effects)) ∧
        (CollisionFreeOn (nodeTexts context nodeSpecs relationSpecs effects) →
          (buildGraph context nodeSpecs relationSpecs effects = .error "EXECUTION_DEPENDENCY_CYCLE" ↔
            HasEntityCycle relationSpecs))) := by
  refine ⟨buildGraph_perm hnodes hrelations, fun h => ⟨(buildGraph_of_checked h).2, fun hfree => ?_⟩⟩
  rw [(buildGraph_of_checked h).2, hasCycle_iff_entities h hfree]

end Build

namespace Sample

local instance : Unicodedata := .identity

def sampleContext : SnapshotContext := ⟨"input-1", "plan-1", "execution-1", "v0.2-candidate", "default"⟩

/-- A task without evidence. -/
def taskSpec (entityId : String) : NodeSpec where
  nodeType := .task
  entityId := entityId
  labelKey := "task"
  phase := .unknown
  progress := none
  executionIdentity := none
  occurrenceContext := "default"
  summary := ""
  evidenceIds := []
  limitationCodes := []
  visibility := .both
  groupKind := none
  groupParentId := none
  entityId_normal := rfl

/-- The task waits for the other one. -/
def waitsFor (source target : String) : RelationSpec where
  sourceEntityId := source
  targetEntityId := target
  relationTypes := [.dependsOn]
  layer := .executionDependency
  declaredCardinality := .oneToOne
  state := .unknown
  evidenceIds := []
  displayPriority := 100
  projectionVisibility := .both
  semanticDiscriminator := "default"
  pathClass := .normal
  blockingClass := "INFORMATIONAL"
  authorizationClass := none
  evidenceAuthorityClass := "UPSTREAM"
  executionOrHistoricalContext := "CURRENT"
  tenantOrSecurityDomain := "default"
  aggregationKey := none
  observedSourceCount := 1
  observedTargetCount := 1
  relationTypes_ne_nil := List.cons_ne_nil _ _
  relationTypes_nodup := List.nodup_singleton _

theorem selfLoop_checked : Checked sampleContext [taskSpec "a", taskSpec "b"] [waitsFor "a" "a"] none where
  inputs := by decide
  entities := by decide
  domain := by
    intro s hs
    rw [List.mem_singleton.mp hs]
    rfl
  endpoints := by
    intro s hs
    rw [List.mem_singleton.mp hs]
    decide
  relationIds := List.nodup_singleton _
  dependsOn := by
    intro s hs _
    rw [List.mem_singleton.mp hs]
    exact List.mem_singleton_self _

/-- A task that waits for itself is a cycle, in whichever order the tasks are given. -/
theorem buildGraph_exact_of_selfLoop :
    (buildGraph sampleContext [taskSpec "a", taskSpec "b"] [waitsFor "a" "a"] none).toOption =
        (buildGraph sampleContext [taskSpec "b", taskSpec "a"] [waitsFor "a" "a"] none).toOption ∧
      buildGraph sampleContext [taskSpec "a", taskSpec "b"] [waitsFor "a" "a"] none =
        .error "EXECUTION_DEPENDENCY_CYCLE" := by
  have hexact := buildGraph_exact sampleContext none (List.Perm.swap (taskSpec "b") (taskSpec "a") [])
    (List.Perm.refl [waitsFor "a" "a"])
  have hloop : rawRelation _ (waitsFor "a" "a") _ _ ∈
      builtRelations sampleContext [taskSpec "a", taskSpec "b"] [waitsFor "a" "a"] none :=
    List.mem_singleton_self _
  have hdepends : DependsOn _ _ _ := ⟨_, List.mem_filter.mpr ⟨hloop, decide_eq_true rfl⟩, rfl, rfl⟩
  exact ⟨hexact.1, (hexact.2 selfLoop_checked).1.mpr ⟨_, .single hdepends⟩⟩

end Sample

end Graph
end AgentPlatform
