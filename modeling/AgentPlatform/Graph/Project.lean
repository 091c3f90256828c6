/-
AgentPlatform/Graph/Project.lean

`project_graph`: the product and the technical view of a canonical graph.

A view shows the visible nodes, some of them folded into groups, and bundles the
visible relations between what it shows. **`project_conserves`**: nothing visible is
lost, nothing is shown twice, and nothing that is invisible leaks. Relations are
bundled by a key that holds all that a bundle must not mix, so the facts about an edge
are read off its bucket (`Sorting.mem_buckets`).
-/
import AgentPlatform.Graph.Build
import AgentPlatform.Order.Buckets

namespace AgentPlatform
namespace Graph

open Py
open Sorting (sortBy firsts buckets)

/-! ### Views -/

inductive ProjectionContext
  | product
  | technical
  deriving DecidableEq

def ProjectionContext.value : ProjectionContext → String
  | product => "PRODUCT"
  | technical => "TECHNICAL"

structure VisualEdge where
  aggregationId : String
  sourceNodeId : String
  targetNodeId : String
  primaryType : RelationType
  secondaryTypes : List RelationType
  remainingTypeCount : Nat
  cardinalities : List Cardinality
  rawRelationIds : List String
  evidenceIds : List String

structure VisualGroup where
  groupId : String
  groupKind : GroupKind
  parentId : String
  memberNodeIds : List String
  memberCount : Nat
  phaseSummary : List (Phase × Nat)
  evidenceIds : List String
  limitationCodes : List String

structure GraphView where
  graphSnapshotId : String
  context : ProjectionContext
  nodes : List GraphNode
  groups : List VisualGroup
  edges : List VisualEdge
  rawRelations : List RawRelation

def visible (visibility : ProjectionVisibility) (context : ProjectionContext) : Bool :=
  visibility = .both || visibility.value = context.value

def sortedSet (items : List String) : List String := (firsts items).insertionSort (· ≤ ·)

/-! ### Edges -/

/-- What the relations of an edge have in common; a missing authorization class is
replaced by the relation itself. -/
structure EdgeKey where
  source : String
  target : String
  direction : Direction
  context : ProjectionContext
  tenantOrSecurityDomain : String
  executionOrHistoricalContext : String
  pathClass : PathClass
  blockingClass : String
  authorizationBoundary : String ⊕ String
  evidenceAuthorityClass : String
  deriving DecidableEq

def boundaryPayload : String ⊕ String → Json
  | .inl authorizationClass => .str authorizationClass
  | .inr relationId => .arr [.str "MISSING", .str relationId]

def EdgeKey.payload (k : EdgeKey) : Json :=
  .arr [.str k.source, .str k.target, .str k.direction.value, .str k.context.value,
    .str k.tenantOrSecurityDomain, .str k.executionOrHistoricalContext, .str k.pathClass.value,
    .str k.blockingClass, boundaryPayload k.authorizationBoundary, .str k.evidenceAuthorityClass]

/-- The key a relation is collected under. -/
def edgeKey (context : ProjectionContext) (endpoint : String → String) (r : RawRelation) : EdgeKey :=
  ⟨endpoint r.sourceNodeId, endpoint r.targetNodeId, r.direction, context, r.tenantOrSecurityDomain,
    r.executionOrHistoricalContext, r.pathClass, r.blockingClass,
    match r.authorizationClass with
    | some authorizationClass => .inl authorizationClass
    | none => .inr r.relationId,
    r.evidenceAuthorityClass⟩

/-- The relations of an edge with their types, in the order of presentation. -/
def occurrences (members : List RawRelation) : List (RawRelation × RelationType) :=
  sortBy (fun p => toLex (p.1.displayPriority, toLex (p.2.rank, p.1.relationId)))
    (members.flatMap fun r => r.relationTypes.map fun t => (r, t))

section Project

variable [Unicodedata]

/-- The edge of a bucket; without a type there would be no primary one. -/
def visualEdge (graph : CanonicalGraph) (key : EdgeKey) (members : List RawRelation) :
    Except String VisualEdge :=
  let shown := occurrences members
  let identityRelationIds := (members.map RawRelation.relationId).insertionSort (· ≤ ·)
  let aggregationId := identity "gpa:v0.2-candidate"
    (.leaf (.arr [.str graph.graphSnapshotId, key.payload, Definition.texts identityRelationIds]))
  match firsts (shown.map Prod.snd) with
  | [] => .error "IndexError"
  | primary :: rest => .ok
    ⟨aggregationId, key.source, key.target, primary, rest.take 2, rest.length - 2,
      sortBy (fun c => toLex (c.rank, c.value)) (firsts (members.map RawRelation.declaredCardinality)),
      firsts (shown.map fun p => p.1.relationId), sortedSet (members.flatMap RawRelation.evidenceIds)⟩

/-- `_aggregate_relations(graph, context, relations, endpoint_aliases)`. -/
def aggregateRelations (graph : CanonicalGraph) (context : ProjectionContext)
    (relations : List RawRelation) (endpoint : String → String) : Except String (List VisualEdge) := do
  let result ← (buckets (edgeKey context endpoint) relations).mapM fun p => visualEdge graph p.1 p.2
  .ok (sortBy (fun e => toLex (e.sourceNodeId, toLex (e.targetNodeId, e.aggregationId))) result)

/-! ### Groups -/

/-- The group of a bucket of candidates. -/
def visualGroup (graph : CanonicalGraph) (context : ProjectionContext) (key : GroupKind × String)
    (members : List GraphNode) : VisualGroup :=
  let orderedMembers := sortBy nodeSort members
  let memberIds := orderedMembers.map GraphNode.nodeId
  let groupId := identity "gpg:v0.2-candidate" (.leaf (.arr [.str graph.context.policyVersion,
    .str context.value, .str graph.context.securityDomain, .str key.1.value, .str key.2,
    Definition.texts (memberIds.insertionSort (· ≤ ·))]))
  ⟨groupId, key.1, key.2, memberIds, members.length,
    sortBy (fun p => p.1.value) ((firsts (orderedMembers.map GraphNode.phase)).map fun phase =>
      (phase, (orderedMembers.filter (·.phase = phase)).length)),
    sortedSet (orderedMembers.flatMap GraphNode.evidenceIds),
    sortedSet (orderedMembers.flatMap GraphNode.limitationCodes)⟩

/-- The nodes that may be grouped, under the kind and the parent they name. -/
def groupKey (n : GraphNode) : Option ((GroupKind × String) × GraphNode) :=
  match n.groupKind, n.groupParentId with
  | some kind, some parent => some ((kind, parent), n)
  | _, _ => none

/-- The groups `_build_groups` returns; its aliases and hidden nodes are their members. -/
def buildGroups (graph : CanonicalGraph) (context : ProjectionContext) (nodes : List GraphNode)
    (threshold : Nat) (expandedGroupIds : List String) : List VisualGroup :=
  let candidates := buckets Prod.fst (nodes.filterMap groupKey)
  let ordered := sortBy (fun p => toLex (p.1.1.rank, p.1.2)) candidates
  ordered.filterMap fun p =>
    if p.2.length < threshold then none
    else
      let group := visualGroup graph context p.1 (p.2.map Prod.snd)
      if group.groupId ∈ expandedGroupIds then none else some group

/-- `aliases.get(node_id, node_id)`; a node's last group counts. -/
def aliasOf (groups : List VisualGroup) (nodeId : String) : String :=
  match groups.reverse.find? (nodeId ∈ ·.memberNodeIds) with
  | some group => group.groupId
  | none => nodeId

/-! ### The projection -/

def visibleNodes (graph : CanonicalGraph) (context : ProjectionContext) : List GraphNode :=
  graph.nodes.filter (visible ·.visibility context)

/-- The visible relations between visible nodes. -/
def visibleRelations (graph : CanonicalGraph) (context : ProjectionContext) : List RawRelation :=
  let visibleIds := (visibleNodes graph context).map GraphNode.nodeId
  graph.relations.filter fun r =>
    visible r.projectionVisibility context && decide (r.sourceNodeId ∈ visibleIds) &&
      decide (r.targetNodeId ∈ visibleIds)

def projectGraph (graph : CanonicalGraph) (context : ProjectionContext)
    (expandedGroupIds : List String) (groupingThreshold : Int) : Except String GraphView :=
  if groupingThreshold < 1 then .error "INVALID_GROUP_THRESHOLD"
  else do
    let nodes := visibleNodes graph context
    let relations := visibleRelations graph context
    let groups := buildGroups graph context nodes groupingThreshold.toNat expandedGroupIds
    let hidden := groups.flatMap VisualGroup.memberNodeIds
    let displayedNodes := nodes.filter (·.nodeId ∉ hidden)
    let edges ← aggregateRelations graph context relations (aliasOf groups)
    .ok ⟨graph.graphSnapshotId, context, displayedNodes, groups, edges, relations⟩

/-! ### One edge -/

omit [Unicodedata] in
theorem mem_sortedSet {items : List String} {x : String} : x ∈ sortedSet items ↔ x ∈ items := by
  rw [sortedSet, List.mem_insertionSort, Sorting.mem_firsts]

omit [Unicodedata] in
theorem mem_occurrences {members : List RawRelation} {r : RawRelation} {t : RelationType} :
    (r, t) ∈ occurrences members ↔ r ∈ members ∧ t ∈ r.relationTypes := by
  rw [occurrences, Sorting.mem_sortBy, List.mem_flatMap]
  constructor
  · rintro ⟨r', hr, hmem⟩
    obtain ⟨t', ht, heq⟩ := List.mem_map.mp hmem
    cases heq
    exact ⟨hr, ht⟩
  · rintro ⟨hr, ht⟩
    exact ⟨r, hr, List.mem_map_of_mem ht⟩

/-- The types shown on an edge, and how many are left, count `types`. -/
structure ShowsTypes (e : VisualEdge) (types : List RelationType) : Prop where
  nodup : (e.primaryType :: e.secondaryTypes).Nodup
  subset : e.primaryType :: e.secondaryTypes ⊆ types
  secondary : e.secondaryTypes.length ≤ 2
  count : 1 + e.secondaryTypes.length + e.remainingTypeCount = (firsts types).length
  full : e.remainingTypeCount = 0 ∨ e.secondaryTypes.length = 2

/-- What an edge is to the relations of its bucket. -/
structure Bundles (key : EdgeKey) (members : List RawRelation) (e : VisualEdge) : Prop where
  source : e.sourceNodeId = key.source
  target : e.targetNodeId = key.target
  relations : e.rawRelationIds.Perm (members.map RawRelation.relationId)
  types : ShowsTypes e (members.flatMap RawRelation.relationTypes)
  evidence : ∀ id, id ∈ e.evidenceIds ↔ ∃ r ∈ members, id ∈ r.evidenceIds

theorem visualEdge_bundles {graph : CanonicalGraph} {key : EdgeKey} {members : List RawRelation}
    (hids : (members.map RawRelation.relationId).Nodup)
    (htypes : ∀ r ∈ members, r.relationTypes ≠ []) (hne : members ≠ []) :
    ∃ e, visualEdge graph key members = .ok e ∧ Bundles key members e := by
  have hids' : ∀ id, id ∈ firsts ((occurrences members).map fun p => p.1.relationId) ↔
      id ∈ members.map RawRelation.relationId := by
    intro id
    rw [Sorting.mem_firsts, List.mem_map, List.mem_map]
    constructor
    · rintro ⟨⟨r, t⟩, hp, rfl⟩
      exact ⟨r, (mem_occurrences.mp hp).1, rfl⟩
    · rintro ⟨r, hr, rfl⟩
      obtain ⟨t, ht⟩ := List.exists_mem_of_ne_nil _ (htypes r hr)
      exact ⟨(r, t), mem_occurrences.mpr ⟨hr, ht⟩, rfl⟩
  have hmem : ∀ t, t ∈ firsts ((occurrences members).map Prod.snd) ↔
      t ∈ members.flatMap RawRelation.relationTypes := by
    intro t
    rw [Sorting.mem_firsts, List.mem_map, List.mem_flatMap]
    constructor
    · rintro ⟨⟨r, t⟩, hp, rfl⟩
      exact ⟨r, mem_occurrences.mp hp⟩
    · rintro ⟨r, hr⟩
      exact ⟨(r, t), mem_occurrences.mpr hr, rfl⟩
  have hnodup := Sorting.nodup_firsts ((occurrences members).map Prod.snd)
  rw [visualEdge]
  rcases hfirsts : firsts ((occurrences members).map Prod.snd) with _ | ⟨primary, rest⟩
  · obtain ⟨r, hr⟩ := List.exists_mem_of_ne_nil _ hne
    obtain ⟨t, ht⟩ := List.exists_mem_of_ne_nil _ (htypes r hr)
    have hin := (hmem t).mpr (List.mem_flatMap.mpr ⟨r, hr, ht⟩)
    rw [hfirsts] at hin
    cases hin
  · rw [hfirsts] at hmem hnodup
    have hsub : (primary :: rest.take 2).Sublist (primary :: rest) := (List.take_sublist _ _).cons_cons _
    refine ⟨_, rfl, rfl, rfl, ?_, ⟨?_, ?_, ?_, ?_, ?_⟩, ?_⟩
    · exact (List.perm_ext_iff_of_nodup (Sorting.nodup_firsts _) hids).mpr hids'
    · exact hnodup.sublist hsub
    · exact fun t ht => (hmem t).mp (hsub.subset ht)
    · exact List.length_take_le _ _
    · have hlength : (primary :: rest).length =
          (firsts (members.flatMap RawRelation.relationTypes)).length := by
        refine ((List.perm_ext_iff_of_nodup hnodup (Sorting.nodup_firsts _)).mpr fun t => ?_).length_eq
        rw [hmem, Sorting.mem_firsts]
      show 1 + (rest.take 2).length + (rest.length - 2) = _
      rw [← hlength, List.length_take, List.length_cons]
      omega
    · show rest.length - 2 = 0 ∨ (rest.take 2).length = 2
      rw [List.length_take]
      omega
    · intro id
      rw [mem_sortedSet, List.mem_flatMap]

/-! ### All edges -/

omit [Unicodedata] in
theorem nodup_bucket {context : ProjectionContext} {endpoint : String → String}
    {relations : List RawRelation} (hids : (relations.map RawRelation.relationId).Nodup) {key : EdgeKey}
    {members : List RawRelation} (h : (key, members) ∈ buckets (edgeKey context endpoint) relations) :
    (members.map RawRelation.relationId).Nodup := by
  obtain ⟨rfl, -⟩ := Sorting.mem_buckets.mp h
  exact hids.sublist (List.filter_sublist.map _)

/-- Every bucket has its edge, and every edge its bucket. -/
theorem aggregateRelations_spec {graph : CanonicalGraph} {context : ProjectionContext}
    {relations : List RawRelation} {endpoint : String → String}
    (hids : (relations.map RawRelation.relationId).Nodup)
    (htypes : ∀ r ∈ relations, r.relationTypes ≠ []) :
    ∃ edges, aggregateRelations graph context relations endpoint = .ok edges ∧
      (edges.flatMap VisualEdge.rawRelationIds).Perm (relations.map RawRelation.relationId) ∧
      ∀ e ∈ edges, ∃ key members, (key, members) ∈ buckets (edgeKey context endpoint) relations ∧
        Bundles key members e := by
  have hloop : ∀ bs : List (EdgeKey × List RawRelation),
      (∀ p ∈ bs, p ∈ buckets (edgeKey context endpoint) relations) →
      ∃ edges, (bs.mapM fun p => visualEdge graph p.1 p.2) = .ok edges ∧
        (edges.flatMap VisualEdge.rawRelationIds).Perm
          ((bs.flatMap Prod.snd).map RawRelation.relationId) ∧
        ∀ e ∈ edges, ∃ key members, (key, members) ∈ buckets (edgeKey context endpoint) relations ∧
          Bundles key members e := by
    intro bs
    induction bs with
    | nil => exact fun _ => ⟨[], rfl, List.Perm.refl _, fun e he => absurd he List.not_mem_nil⟩
    | cons p bs ih =>
      intro hbs
      obtain ⟨key, members⟩ := p
      have hp := hbs _ List.mem_cons_self
      obtain ⟨hmembers, hne⟩ := Sorting.mem_buckets.mp hp
      obtain ⟨e, he, hbundles⟩ := @visualEdge_bundles _ graph key members (nodup_bucket hids hp)
        (fun r hr => htypes r (List.mem_filter.mp (hmembers ▸ hr)).1) hne
      obtain ⟨edges, hedges, hperm, hall⟩ := ih fun p hp => hbs p (List.mem_cons_of_mem _ hp)
      refine ⟨e :: edges, ?_, ?_, ?_⟩
      · rw [List.mapM_cons]
        exact bind_eq_ok.mpr ⟨e, he, bind_eq_ok.mpr ⟨edges, hedges, rfl⟩⟩
      · rw [List.flatMap_cons, List.flatMap_cons, List.map_append]
        exact hbundles.relations.append hperm
      · intro e' he'
        rcases List.mem_cons.mp he' with rfl | he'
        · exact ⟨key, members, hp, hbundles⟩
        · exact hall e' he'
  obtain ⟨edges, hedges, hperm, hall⟩ := hloop _ fun _ hp => hp
  refine ⟨_, bind_eq_ok.mpr ⟨edges, hedges, rfl⟩, ?_, ?_⟩
  · refine (List.Perm.flatMap_right _ (Sorting.perm_sortBy _ edges)).trans (hperm.trans ?_)
    exact (Sorting.flatMap_buckets _ relations).map _
  · intro e he
    exact hall e ((Sorting.mem_sortBy _).mp he)

/-! ### All groups -/

omit [Unicodedata] in
theorem groupKey_eq_some {n : GraphNode} {q : (GroupKind × String) × GraphNode}
    (h : groupKey n = some q) : q.2 = n := by
  unfold groupKey at h
  split at h
  · cases h
    rfl
  · cases h

omit [Unicodedata] in
theorem groupable_sublist (nodes : List GraphNode) :
    ((nodes.filterMap groupKey).map fun q => q.2.nodeId).Sublist (nodes.map GraphNode.nodeId) := by
  induction nodes with
  | nil => exact List.Sublist.refl _
  | cons n nodes ih =>
    rcases hkey : groupKey n with _ | q
    · rw [List.filterMap_cons_none hkey]
      exact ih.cons _
    · rw [List.filterMap_cons_some hkey, List.map_cons, List.map_cons, groupKey_eq_some hkey]
      exact ih.cons_cons _

theorem visualGroup_spec (graph : CanonicalGraph) (context : ProjectionContext)
    (key : GroupKind × String) (members : List GraphNode) :
    (visualGroup graph context key members).memberNodeIds.Perm (members.map GraphNode.nodeId) ∧
      ∀ id ∈ (visualGroup graph context key members).evidenceIds, ∃ n ∈ members, id ∈ n.evidenceIds := by
  refine ⟨(Sorting.perm_sortBy _ _).map _, fun id hid => ?_⟩
  obtain ⟨n, hn, hid⟩ := List.mem_flatMap.mp (mem_sortedSet.mp hid)
  exact ⟨n, (Sorting.mem_sortBy _).mp hn, hid⟩

/-- Where every group comes from. -/
theorem exists_of_mem_buildGroups {graph : CanonicalGraph} {context : ProjectionContext}
    {nodes : List GraphNode} {threshold : Nat} {expanded : List String} {g : VisualGroup}
    (h : g ∈ buildGroups graph context nodes threshold expanded) :
    ∃ p ∈ buckets Prod.fst (nodes.filterMap groupKey),
      g = visualGroup graph context p.1 (p.2.map Prod.snd) := by
  obtain ⟨p, hp, hg⟩ := List.mem_filterMap.mp h
  refine ⟨p, (Sorting.mem_sortBy _).mp hp, ?_⟩
  dsimp only at hg
  split at hg
  · cases hg
  · split at hg
    · cases hg
    · exact (Option.some.inj hg).symm

/-- The members of the groups are distinct visible nodes. -/
theorem members_subperm {graph : CanonicalGraph} {context : ProjectionContext}
    {nodes : List GraphNode} {threshold : Nat} {expanded : List String} :
    ((buildGroups graph context nodes threshold expanded).flatMap VisualGroup.memberNodeIds).Subperm
      (nodes.map GraphNode.nodeId) := by
  let ids := fun p : (GroupKind × String) × List ((GroupKind × String) × GraphNode) =>
    p.2.map fun q => q.2.nodeId
  have hloop : ∀ (f : (GroupKind × String) × List ((GroupKind × String) × GraphNode) → Option VisualGroup),
      (∀ p g, f p = some g → g.memberNodeIds.Perm (ids p)) →
      ∀ bs : List ((GroupKind × String) × List ((GroupKind × String) × GraphNode)),
      ((bs.filterMap f).flatMap VisualGroup.memberNodeIds).Subperm (bs.flatMap ids) := by
    intro f hf bs
    induction bs with
    | nil => exact List.Subperm.refl _
    | cons p bs ih =>
      rcases hp : f p with _ | g
      · rw [List.filterMap_cons_none hp, List.flatMap_cons]
        exact ih.trans (List.sublist_append_right _ _).subperm
      · rw [List.filterMap_cons_some hp, List.flatMap_cons, List.flatMap_cons]
        exact (hf p g hp).subperm.append ih
  refine (hloop _ ?_ _).trans ?_
  · intro p g hg
    dsimp only at hg
    split at hg
    · cases hg
    split at hg
    · cases hg
    cases hg
    have hperm := (visualGroup_spec graph context p.1 (p.2.map Prod.snd)).1
    rwa [List.map_map] at hperm
  · have hbuckets := (Sorting.flatMap_buckets Prod.fst (nodes.filterMap groupKey)).map fun q => q.2.nodeId
    rw [List.map_flatMap] at hbuckets
    exact ((List.Perm.flatMap_right ids (Sorting.perm_sortBy _ _)).trans hbuckets).subperm.trans
      (groupable_sublist nodes).subperm

/-! ### Conservation -/

/-- Two relations that may stand on one edge. -/
structure SameBoundary (r r' : RawRelation) : Prop where
  domain : r.tenantOrSecurityDomain = r'.tenantOrSecurityDomain
  context : r.executionOrHistoricalContext = r'.executionOrHistoricalContext
  path : r.pathClass = r'.pathClass
  blocking : r.blockingClass = r'.blockingClass
  evidence : r.evidenceAuthorityClass = r'.evidenceAuthorityClass
  authorization : ∃ c, r.authorizationClass = some c ∧ r'.authorizationClass = some c

/-- All evidence a view shows. -/
def GraphView.evidence (view : GraphView) : List String :=
  view.nodes.flatMap GraphNode.evidenceIds ++ view.groups.flatMap VisualGroup.evidenceIds ++
    view.edges.flatMap VisualEdge.evidenceIds ++ view.rawRelations.flatMap RawRelation.evidenceIds

/-- A view shows what is visible, and nothing else. -/
structure Conserves (graph : CanonicalGraph) (context : ProjectionContext) (view : GraphView) : Prop where
  relations : (view.edges.flatMap VisualEdge.rawRelationIds).Perm
    ((visibleRelations graph context).map RawRelation.relationId)
  once : (view.edges.flatMap VisualEdge.rawRelationIds).Nodup
  endpoints : ∀ e ∈ view.edges, ∀ id ∈ [e.sourceNodeId, e.targetNodeId],
    id ∈ view.nodes.map GraphNode.nodeId ∨ id ∈ view.groups.map VisualGroup.groupId
  boundaries : ∀ e ∈ view.edges, ∀ r ∈ visibleRelations graph context,
    ∀ r' ∈ visibleRelations graph context, r.relationId ∈ e.rawRelationIds →
      r'.relationId ∈ e.rawRelationIds → r ≠ r' → SameBoundary r r'
  types : ∀ e ∈ view.edges, ShowsTypes e
    (((visibleRelations graph context).filter (·.relationId ∈ e.rawRelationIds)).flatMap
      RawRelation.relationTypes)
  evidence : ∀ id ∈ view.evidence, (∃ n ∈ visibleNodes graph context, id ∈ n.evidenceIds) ∨
    ∃ r ∈ visibleRelations graph context, id ∈ r.evidenceIds

/-- Every visible node is shown once, by itself or in one group. -/
def ShowsNodes (graph : CanonicalGraph) (context : ProjectionContext) (view : GraphView) : Prop :=
  (view.nodes.map GraphNode.nodeId ++ view.groups.flatMap VisualGroup.memberNodeIds).Perm
      ((visibleNodes graph context).map GraphNode.nodeId) ∧
    ((visibleNodes graph context).map GraphNode.nodeId).Nodup

omit [Unicodedata] in
/-- Relations under one key do not differ in what an edge must not mix. -/
theorem sameBoundary_of_edgeKey {context : ProjectionContext} {endpoint : String → String}
    {relations : List RawRelation} (hids : (relations.map RawRelation.relationId).Nodup)
    {r r' : RawRelation} (hr : r ∈ relations) (hr' : r' ∈ relations) (hne : r ≠ r')
    (h : edgeKey context endpoint r = edgeKey context endpoint r') : SameBoundary r r' := by
  have hboundary := congrArg EdgeKey.authorizationBoundary h
  refine ⟨congrArg EdgeKey.tenantOrSecurityDomain h, congrArg EdgeKey.executionOrHistoricalContext h,
    congrArg EdgeKey.pathClass h, congrArg EdgeKey.blockingClass h,
    congrArg EdgeKey.evidenceAuthorityClass h, ?_⟩
  simp only [edgeKey] at hboundary
  rcases hc : r.authorizationClass with _ | c <;> rcases hc' : r'.authorizationClass with _ | c'
  · rw [hc, hc'] at hboundary
    exact absurd (List.inj_on_of_nodup_map hids hr hr' (Sum.inr.inj hboundary)) hne
  · rw [hc, hc'] at hboundary
    cases hboundary
  · rw [hc, hc'] at hboundary
    cases hboundary
  · rw [hc, hc'] at hboundary
    exact ⟨c, rfl, congrArg some (Sum.inl.inj hboundary).symm⟩

omit [Unicodedata] in
/-- What stands for a visible node is shown. -/
theorem aliasOf_shown {nodes : List GraphNode} {groups : List VisualGroup} {id : String}
    (h : id ∈ nodes.map GraphNode.nodeId) :
    aliasOf groups id ∈
        (nodes.filter (·.nodeId ∉ groups.flatMap VisualGroup.memberNodeIds)).map GraphNode.nodeId ∨
      aliasOf groups id ∈ groups.map VisualGroup.groupId := by
  unfold aliasOf
  split
  · rename_i group hfind
    exact .inr (List.mem_map_of_mem (List.mem_reverse.mp (List.mem_of_find?_eq_some hfind)))
  · rename_i hfind
    obtain ⟨n, hn, rfl⟩ := List.mem_map.mp h
    refine .inl (List.mem_map_of_mem (List.mem_filter.mpr ⟨hn, decide_eq_true fun hhidden => ?_⟩))
    obtain ⟨g, hg, hmember⟩ := List.mem_flatMap.mp hhidden
    exact List.find?_eq_none.mp hfind g (List.mem_reverse.mpr hg) (decide_eq_true hmember)

omit [Unicodedata] in
/-- Nodes that are hidden and nodes that are not make up the nodes. -/
theorem shown_perm {nodes : List GraphNode} {hidden : List String}
    (hn : (nodes.map GraphNode.nodeId).Nodup) (h : hidden.Subperm (nodes.map GraphNode.nodeId)) :
    ((nodes.filter (·.nodeId ∉ hidden)).map GraphNode.nodeId ++ hidden).Perm
      (nodes.map GraphNode.nodeId) := by
  have hnodup : hidden.Nodup := by
    obtain ⟨l, hl, hsub⟩ := h
    exact hl.nodup_iff.mp (hn.sublist hsub)
  have hshown : ∀ id ∈ (nodes.filter (·.nodeId ∉ hidden)).map GraphNode.nodeId,
      id ∈ nodes.map GraphNode.nodeId ∧ id ∉ hidden := by
    intro id hid
    obtain ⟨n, hn, rfl⟩ := List.mem_map.mp hid
    obtain ⟨hn, hnot⟩ := List.mem_filter.mp hn
    exact ⟨List.mem_map_of_mem hn, of_decide_eq_true hnot⟩
  refine (List.perm_ext_iff_of_nodup (List.nodup_append.mpr ⟨hn.sublist (List.filter_sublist.map _),
    hnodup, ?_⟩) hn).mpr fun id => ?_
  · rintro id hid _ hhidden rfl
    exact (hshown id hid).2 hhidden
  · rw [List.mem_append]
    constructor
    · rintro (hid | hid)
      · exact (hshown id hid).1
      · exact h.subset hid
    · intro hid
      by_cases hhidden : id ∈ hidden
      · exact .inr hhidden
      · obtain ⟨n, hn, rfl⟩ := List.mem_map.mp hid
        exact .inl (List.mem_map_of_mem (List.mem_filter.mpr ⟨hn, decide_eq_true hhidden⟩))

/-- What is known of a graph that was built. -/
theorem buildGraph_facts {context : SnapshotContext} {nodeSpecs : List NodeSpec}
    {relationSpecs : List RelationSpec} {effects : Option ProjectionEffects} {graph : CanonicalGraph}
    (h : buildGraph context nodeSpecs relationSpecs effects = .ok graph) :
    (graph.relations.map RawRelation.relationId).Nodup ∧
      (∀ r ∈ graph.relations, r.relationTypes ≠ []) ∧
      (CollisionFreeOn (nodeTexts context nodeSpecs relationSpecs effects) →
        (graph.nodes.map GraphNode.nodeId).Nodup) := by
  obtain ⟨-, hentities, relations, hmap, hids, -, rfl⟩ := buildGraph_eq_ok.mp h
  obtain ⟨-, rfl⟩ := mapM_relationOf_eq_ok.mp hmap
  refine ⟨((Sorting.perm_sortBy _ _).map _).nodup_iff.mpr hids, fun r hr => ?_, fun hfree => ?_⟩
  · obtain ⟨s, -, rfl⟩ := List.mem_map.mp ((Sorting.mem_sortBy _).mp hr)
    exact mt (Sorting.sortBy_eq_nil _).mp s.relationTypes_ne_nil
  · apply ((Sorting.perm_sortBy _ _).map _).nodup_iff.mpr
    rw [builtNodes, List.map_map]
    refine List.Nodup.map_on (fun s hs s' hs' hid => ?_) (List.Nodup.of_map _ hentities)
    exact List.inj_on_of_nodup_map hentities hs hs' (entity_of_nodeId hfree hs hs' hid)

/-- **A view conserves the graph**: it exists for every threshold the projection takes,
shows every visible relation on one edge, and every visible node once. -/
theorem project_conserves {snapshotContext : SnapshotContext} {nodeSpecs : List NodeSpec}
    {relationSpecs : List RelationSpec} {effects : Option ProjectionEffects} {graph : CanonicalGraph}
    (h : buildGraph snapshotContext nodeSpecs relationSpecs effects = .ok graph)
    (context : ProjectionContext) (expandedGroupIds : List String) (groupingThreshold : Int) :
    (1 ≤ groupingThreshold →
        ∃ view, projectGraph graph context expandedGroupIds groupingThreshold = .ok view) ∧
      ∀ view, projectGraph graph context expandedGroupIds groupingThreshold = .ok view →
        Conserves graph context view ∧
          (CollisionFreeOn (nodeTexts snapshotContext nodeSpecs relationSpecs effects) →
            ShowsNodes graph context view) := by
  obtain ⟨hids, htypes, hnodes⟩ := buildGraph_facts h
  let groups := buildGroups graph context (visibleNodes graph context) groupingThreshold.toNat
    expandedGroupIds
  have hvisible : ((visibleRelations graph context).map RawRelation.relationId).Nodup :=
    hids.sublist (List.filter_sublist.map _)
  obtain ⟨edges, hedges, hperm, hbundles⟩ := aggregateRelations_spec hvisible
    (fun r hr => htypes r (List.mem_filter.mp hr).1)
  have hproject : 1 ≤ groupingThreshold →
      projectGraph graph context expandedGroupIds groupingThreshold =
        .ok ⟨graph.graphSnapshotId, context, (visibleNodes graph context).filter
          (·.nodeId ∉ groups.flatMap VisualGroup.memberNodeIds), groups, edges,
          visibleRelations graph context⟩ := by
    intro hthreshold
    rw [projectGraph, if_neg (by omega)]
    exact bind_eq_ok.mpr ⟨edges, hedges, rfl⟩
  refine ⟨fun hthreshold => ⟨_, hproject hthreshold⟩, fun view hview => ?_⟩
  have hthreshold : 1 ≤ groupingThreshold := by
    by_contra hlow
    rw [projectGraph, if_pos (by omega)] at hview
    cases hview
  rw [hproject hthreshold] at hview
  cases hview
  -- the relations of an edge are those of its bucket
  have hmembers : ∀ {key members e}, (key, members) ∈
      buckets (edgeKey context (aliasOf groups)) (visibleRelations graph context) →
      Bundles key members e → ∀ r ∈ visibleRelations graph context,
        r.relationId ∈ e.rawRelationIds ↔ edgeKey context (aliasOf groups) r = key := by
    intro key members e hbucket he r hr
    obtain ⟨rfl, -⟩ := Sorting.mem_buckets.mp hbucket
    rw [he.relations.mem_iff, List.mem_map]
    constructor
    · rintro ⟨r', hr', hid⟩
      obtain ⟨hr', hkey⟩ := List.mem_filter.mp hr'
      rw [← List.inj_on_of_nodup_map hvisible hr' hr hid]
      exact of_decide_eq_true hkey
    · intro hkey
      exact ⟨r, List.mem_filter.mpr ⟨hr, decide_eq_true hkey⟩, rfl⟩
  refine ⟨⟨hperm, hperm.nodup_iff.mpr hvisible, ?_, ?_, ?_, ?_⟩, fun hfree => ?_⟩
  · intro e he id hid
    obtain ⟨key, members, hbucket, hbundle⟩ := hbundles e he
    obtain ⟨hfilter, hne⟩ := Sorting.mem_buckets.mp hbucket
    obtain ⟨r, hr⟩ := List.exists_mem_of_ne_nil _ hne
    rw [hfilter] at hr
    obtain ⟨hr, hkey⟩ := List.mem_filter.mp hr
    have hkey := of_decide_eq_true hkey
    have hends := (List.mem_filter.mp hr).2
    simp only [Bool.and_eq_true, decide_eq_true_eq] at hends
    rw [hbundle.source, hbundle.target, ← hkey] at hid
    rcases List.mem_pair.mp hid with rfl | rfl
    · exact aliasOf_shown hends.1.2
    · exact aliasOf_shown hends.2
  · intro e he r hr r' hr' hin hin' hne
    obtain ⟨key, members, hbucket, hbundle⟩ := hbundles e he
    have hkey := (hmembers hbucket hbundle r hr).mp hin
    have hkey' := (hmembers hbucket hbundle r' hr').mp hin'
    exact sameBoundary_of_edgeKey hvisible hr hr' hne (hkey.trans hkey'.symm)
  · intro e he
    obtain ⟨key, members, hbucket, hbundle⟩ := hbundles e he
    have hfilter : (visibleRelations graph context).filter (·.relationId ∈ e.rawRelationIds) = members := by
      rw [(Sorting.mem_buckets.mp hbucket).1]
      apply List.filter_congr
      intro r hr
      exact decide_eq_decide.mpr (hmembers hbucket hbundle r hr)
    rw [hfilter]
    exact hbundle.types
  · intro id hid
    simp only [GraphView.evidence, List.mem_append, List.mem_flatMap] at hid
    rcases hid with ((⟨n, hn, hid⟩ | ⟨g, hg, hid⟩) | ⟨e, he, hid⟩) | ⟨r, hr, hid⟩
    · exact .inl ⟨n, (List.mem_filter.mp hn).1, hid⟩
    · obtain ⟨p, hp, rfl⟩ := exists_of_mem_buildGroups hg
      obtain ⟨n, hn, hid⟩ := (visualGroup_spec _ _ _ _).2 id hid
      obtain ⟨q, hq, rfl⟩ := List.mem_map.mp hn
      rw [(Sorting.mem_buckets.mp hp).1] at hq
      obtain ⟨n, hn, hkey⟩ := List.mem_filterMap.mp (List.mem_filter.mp hq).1
      rw [groupKey_eq_some hkey] at hid
      exact .inl ⟨n, hn, hid⟩
    · obtain ⟨key, members, hbucket, hbundle⟩ := hbundles e he
      obtain ⟨r, hr, hid⟩ := (hbundle.evidence id).mp hid
      rw [(Sorting.mem_buckets.mp hbucket).1] at hr
      exact .inr ⟨r, (List.mem_filter.mp hr).1, hid⟩
    · exact .inr ⟨r, hr, hid⟩
  · have hnodup : ((visibleNodes graph context).map GraphNode.nodeId).Nodup :=
      (hnodes hfree).sublist (List.filter_sublist.map _)
    exact ⟨shown_perm hnodup members_subperm, hnodup⟩

end Project

namespace Sample

local instance : Unicodedata := .identity

/-- A relation of another layer. -/
def planned : RelationSpec := { waitsFor "a" "b" with layer := .plan }

theorem planned_checked : Checked sampleContext [taskSpec "a", taskSpec "b"] [planned] none where
  inputs := by decide
  entities := by decide
  domain := by
    intro s hs
    rw [List.mem_singleton.mp hs]
    rfl
  endpoints := by
    intro s hs
    rw [List.mem_singleton.mp hs]
    decide
  relationIds := List.nodup_singleton _
  dependsOn := by
    intro s hs _
    rw [List.mem_singleton.mp hs]
    exact List.mem_singleton_self _

/-- A graph of two tasks is built and shown. -/
theorem project_conserves_of_two : ∃ graph view,
    buildGraph sampleContext [taskSpec "a", taskSpec "b"] [planned] none = .ok graph ∧
      projectGraph graph .product [] 4 = .ok view ∧ Conserves graph .product view := by
  obtain ⟨graph, hgraph⟩ := (buildGraph_of_checked planned_checked).1.mpr (by
    rintro ⟨a, hcycle⟩
    obtain ⟨b, ⟨r, hr, -, -⟩, -⟩ := Relation.TransGen.head'_iff.mp hcycle
    cases hr)
  obtain ⟨hsome, hall⟩ := project_conserves hgraph .product [] 4
  obtain ⟨view, hview⟩ := hsome (by decide)
  exact ⟨graph, view, hgraph, hview, (hall view hview).1⟩

end Sample

end Graph
end AgentPlatform
