/-
AgentPlatform/Graph/Records.lean

The records of `graph_projection` and its canonical JSON.

What the records hold is text, numbers and members of enumerations; a progress that is
a float is known by its `repr`, which is what the writer puts out for it.
-/
import AgentPlatform.Definition.Contract
import AgentPlatform.Order.SortBy

namespace AgentPlatform
namespace Graph

open Py
open Sorting (sortBy)

/-! ### Canonical JSON -/

/-- The values `canonical_json` writes: one without floats is a `Json`, and a float is
given by its `repr`. -/
inductive Value
  | leaf (v : Json)
  | float (repr : String)
  | arr (items : List Value)
  | obj (fields : List (String × Value))

mutual

/-- `json.dumps(value, ensure_ascii=False, sort_keys=True, separators=(",", ":"))`. -/
def Value.dumps : Value → String
  | .leaf v => Json.dumps false v
  | .float repr => repr
  | .arr items => "[" ++ ",".intercalate (dumpsItems items) ++ "]"
  | .obj fields =>
    "\x7b" ++ ",".intercalate ((sortBy Prod.fst (dumpsFields fields)).map fun p =>
      Json.dumps false (.str p.1) ++ ":" ++ p.2) ++ "\x7d"

def dumpsItems : List Value → List String
  | [] => []
  | v :: vs => v.dumps :: dumpsItems vs

def dumpsFields : List (String × Value) → List (String × String)
  | [] => []
  | (k, v) :: fs => (k, v.dumps) :: dumpsFields fs

end

section Canonical

variable [Unicodedata]

mutual

/-- `_normalize(value)`; the order of the fields is that of the writer. -/
def Value.normalize : Value → Value
  | .leaf v => .leaf (Definition.canonical v)
  | .float repr => .float repr
  | .arr items => .arr (normalizeItems items)
  | .obj fields => .obj (normalizeFields fields)

def normalizeItems : List Value → List Value
  | [] => []
  | v :: vs => v.normalize :: normalizeItems vs

def normalizeFields : List (String × Value) → List (String × Value)
  | [] => []
  | (k, v) :: fs => (nfc k, v.normalize) :: normalizeFields fs

end

def canonicalJson (v : Value) : String := v.normalize.dumps

def identity (domain : String) (v : Value) : String := domain ++ ":" ++ sha256 (canonicalJson v)

theorem dumpsItems_normalizeItems (items : List Value) :
    dumpsItems (normalizeItems items) = items.map canonicalJson := by
  induction items with
  | nil => rfl
  | cons v vs ih =>
    rw [normalizeItems, dumpsItems, ih]
    rfl

theorem dumpsFields_normalizeFields (fields : List (String × Value)) :
    dumpsFields (normalizeFields fields) = fields.map fun p => (nfc p.1, canonicalJson p.2) := by
  induction fields with
  | nil => rfl
  | cons p fs ih =>
    obtain ⟨k, v⟩ := p
    rw [normalizeFields, dumpsFields, ih]
    rfl

theorem canonicalJson_arr (items : List Value) :
    canonicalJson (.arr items) = "[" ++ ",".intercalate (items.map canonicalJson) ++ "]" := by
  rw [canonicalJson, Value.normalize, Value.dumps, dumpsItems_normalizeItems]

/-- A record is written from what its fields are written as. -/
theorem canonicalJson_obj (fields : List (String × Value)) :
    canonicalJson (.obj fields) =
      "\x7b" ++ ",".intercalate ((sortBy Prod.fst (fields.map fun p => (nfc p.1, canonicalJson p.2))).map
        fun p => Json.dumps false (.str p.1) ++ ":" ++ p.2) ++ "\x7d" := by
  rw [canonicalJson, Value.normalize, Value.dumps, dumpsFields_normalizeFields]

end Canonical

/-! ### Enumerations -/

inductive GraphLayer
  | plan
  | executionDependency
  | assignment
  | dataEvidence
  | approvalDecision
  deriving DecidableEq

def GraphLayer.value : GraphLayer → String
  | plan => "PLAN"
  | executionDependency => "EXECUTION_DEPENDENCY"
  | assignment => "ASSIGNMENT"
  | dataEvidence => "DATA_EVIDENCE"
  | approvalDecision => "APPROVAL_DECISION"

inductive NodeType
  | businessProblem
  | plan
  | workflow
  | task
  | definition
  | instance_
  | runtimeRealization
  | capability
  | knowledge
  | approval
  | outcome
  deriving DecidableEq

namespace NodeType

def value : NodeType → String
  | businessProblem => "BUSINESS_PROBLEM"
  | plan => "PLAN"
  | workflow => "WORKFLOW"
  | task => "TASK"
  | definition => "DEFINITION"
  | instance_ => "INSTANCE"
  | runtimeRealization => "RUNTIME_REALIZATION"
  | capability => "CAPABILITY"
  | knowledge => "KNOWLEDGE"
  | approval => "APPROVAL"
  | outcome => "OUTCOME"

/-- `_NODE_RANK`. -/
def rank (t : NodeType) : Nat :=
  [businessProblem, plan, workflow, task, definition, instance_, runtimeRealization, capability,
    knowledge, approval, outcome].idxOf t

end NodeType

inductive Phase
  | pending
  | running
  | succeeded
  | failed
  | denied
  | skipped
  | blocked
  | unknown
  deriving DecidableEq

def Phase.value : Phase → String
  | pending => "PENDING"
  | running => "RUNNING"
  | succeeded => "SUCCEEDED"
  | failed => "FAILED"
  | denied => "DENIED"
  | skipped => "SKIPPED"
  | blocked => "BLOCKED"
  | unknown => "UNKNOWN"

inductive RelationType
  | contains
  | decomposesTo
  | dependsOn
  | dataFlow
  | triggers
  | assignedTo
  | executedBy
  | requests
  | authorizedBy
  | produces
  | references
  | approvedBy
  | blocks
  | compensates
  deriving DecidableEq

namespace RelationType

def value : RelationType → String
  | contains => "CONTAINS"
  | decomposesTo => "DECOMPOSES_TO"
  | dependsOn => "DEPENDS_ON"
  | dataFlow => "DATA_FLOW"
  | triggers => "TRIGGERS"
  | assignedTo => "ASSIGNED_TO"
  | executedBy => "EXECUTED_BY"
  | requests => "REQUESTS"
  | authorizedBy => "AUTHORIZED_BY"
  | produces => "PRODUCES"
  | references => "REFERENCES"
  | approvedBy => "APPROVED_BY"
  | blocks => "BLOCKS"
  | compensates => "COMPENSATES"

/-- `_TYPE_RANK`. -/
def rank (t : RelationType) : Nat :=
  [blocks, dependsOn, triggers, dataFlow, assignedTo, executedBy, requests, authorizedBy, approvedBy,
    produces, compensates, decomposesTo, contains, references].idxOf t

end RelationType

inductive Cardinality
  | oneToOne
  | oneToMany
  | manyToOne
  | manyToMany
  deriving DecidableEq

namespace Cardinality

def value : Cardinality → String
  | oneToOne => "ONE_TO_ONE"
  | oneToMany => "ONE_TO_MANY"
  | manyToOne => "MANY_TO_ONE"
  | manyToMany => "MANY_TO_MANY"

/-- `_CARDINALITY_RANK`. -/
def rank (c : Cardinality) : Nat := [oneToOne, oneToMany, manyToOne, manyToMany].idxOf c

end Cardinality

inductive Direction
  | sourceToTarget
  deriving DecidableEq

def Direction.value : Direction → String
  | sourceToTarget => "SOURCE_TO_TARGET"

inductive ProjectionVisibility
  | product
  | technical
  | both
  | detailOnly
  deriving DecidableEq

def ProjectionVisibility.value : ProjectionVisibility → String
  | product => "PRODUCT"
  | technical => "TECHNICAL"
  | both => "BOTH"
  | detailOnly => "DETAIL_ONLY"

inductive PathClass
  | normal
  | failure
  | compensation
  | historical
  deriving DecidableEq

def PathClass.value : PathClass → String
  | normal => "NORMAL"
  | failure => "FAILURE"
  | compensation => "COMPENSATION"
  | historical => "HISTORICAL"

inductive GroupKind
  | definitionInstances
  | repeatedTasks
  | parallelBranches
  | evidenceCollection
  | capabilityGroup
  | runtimePool
  | fan
  deriving DecidableEq

namespace GroupKind

def value : GroupKind → String
  | definitionInstances => "DEFINITION_INSTANCES"
  | repeatedTasks => "REPEATED_TASKS"
  | parallelBranches => "PARALLEL_BRANCHES"
  | evidenceCollection => "EVIDENCE_COLLECTION"
  | capabilityGroup => "CAPABILITY_GROUP"
  | runtimePool => "RUNTIME_POOL"
  | fan => "FAN"

/-- `_GROUP_RANK`. -/
def rank (k : GroupKind) : Nat :=
  [definitionInstances, repeatedTasks, parallelBranches, evidenceCollection, capabilityGroup,
    runtimePool, fan].idxOf k

end GroupKind

inductive AuthorizationDecision
  | allow
  | deny
  deriving DecidableEq

def AuthorizationDecision.value : AuthorizationDecision → String
  | allow => "ALLOW"
  | deny => "DENY"

/-- A progress between 0 and 1. -/
inductive Progress
  | int (n : Int)
  | float (repr : String)
  deriving DecidableEq

/-! ### Records -/

structure SnapshotContext where
  authoritativeInputId : String
  approvedPlanRevision : String
  executionSnapshotId : String
  policyVersion : String
  securityDomain : String
  deriving DecidableEq

structure ProjectionEffects where
  capabilityDecision : AuthorizationDecision
  providerCallCount : Nat
  citationEvidenceIds : List String

/-- A `NodeSpec`; its constructor normalises the entity's identifier. -/
structure NodeSpec [Unicodedata] where
  nodeType : NodeType
  entityId : String
  labelKey : String
  phase : Phase
  progress : Option Progress
  executionIdentity : Option String
  occurrenceContext : String
  summary : String
  evidenceIds : List String
  limitationCodes : List String
  visibility : ProjectionVisibility
  groupKind : Option GroupKind
  groupParentId : Option String
  entityId_normal : nfc entityId = entityId

structure GraphNode where
  nodeId : String
  nodeType : NodeType
  entityId : String
  labelKey : String
  phase : Phase
  progress : Option Progress
  executionIdentity : Option String
  summary : String
  evidenceIds : List String
  limitationCodes : List String
  visibility : ProjectionVisibility
  groupKind : Option GroupKind
  groupParentId : Option String
  deriving DecidableEq

/-- A `RelationSpec`; its constructor asks for types, each of them once. -/
structure RelationSpec where
  sourceEntityId : String
  targetEntityId : String
  relationTypes : List RelationType
  layer : GraphLayer
  declaredCardinality : Cardinality
  state : Phase
  evidenceIds : List String
  displayPriority : Int
  projectionVisibility : ProjectionVisibility
  semanticDiscriminator : String
  pathClass : PathClass
  blockingClass : String
  authorizationClass : Option String
  evidenceAuthorityClass : String
  executionOrHistoricalContext : String
  tenantOrSecurityDomain : String
  aggregationKey : Option String
  observedSourceCount : Nat
  observedTargetCount : Nat
  relationTypes_ne_nil : relationTypes ≠ []
  relationTypes_nodup : relationTypes.Nodup

structure RawRelation where
  relationId : String
  sourceNodeId : String
  targetNodeId : String
  relationTypes : List RelationType
  layer : GraphLayer
  direction : Direction
  declaredCardinality : Cardinality
  observedSourceCount : Nat
  observedTargetCount : Nat
  state : Phase
  evidenceIds : List String
  displayPriority : Int
  projectionVisibility : ProjectionVisibility
  semanticDiscriminator : String
  pathClass : PathClass
  blockingClass : String
  authorizationClass : Option String
  evidenceAuthorityClass : String
  executionOrHistoricalContext : String
  tenantOrSecurityDomain : String
  aggregationKey : Option String
  deriving DecidableEq

structure CanonicalGraph where
  graphSnapshotId : String
  context : SnapshotContext
  nodes : List GraphNode
  relations : List RawRelation
  deriving DecidableEq

/-! ### What is hashed -/

def text (s : String) : Value := .leaf (.str s)
def textOrNull (s : Option String) : Value := .leaf (.optStr s)
def textList (items : List String) : Value := .leaf (Definition.texts items)
def number (n : Int) : Value := .leaf (.int n)

def Progress.payload : Progress → Value
  | int n => number n
  | float repr => .float repr

/-- `asdict(context)`. -/
def SnapshotContext.payload (c : SnapshotContext) : Value :=
  .obj [
    ("authoritative_input_id", text c.authoritativeInputId),
    ("approved_plan_revision", text c.approvedPlanRevision),
    ("execution_snapshot_id", text c.executionSnapshotId),
    ("policy_version", text c.policyVersion),
    ("security_domain", text c.securityDomain)]

/-- `asdict(effects)`. -/
def ProjectionEffects.payload (e : ProjectionEffects) : Value :=
  .obj [
    ("capability_decision", text e.capabilityDecision.value),
    ("provider_call_count", number e.providerCallCount),
    ("citation_evidence_ids", textList e.citationEvidenceIds)]

/-- `asdict(spec)`. -/
def NodeSpec.payload [Unicodedata] (s : NodeSpec) : Value :=
  .obj [
    ("node_type", text s.nodeType.value),
    ("entity_id", text s.entityId),
    ("label_key", text s.labelKey),
    ("phase", text s.phase.value),
    ("progress", (s.progress.map Progress.payload).getD (.leaf .null)),
    ("execution_identity", (s.executionIdentity.map fun i => .obj [("value", text i)]).getD (.leaf .null)),
    ("occurrence_context", text s.occurrenceContext),
    ("summary", text s.summary),
    ("evidence_ids", textList s.evidenceIds),
    ("limitation_codes", textList s.limitationCodes),
    ("visibility", text s.visibility.value),
    ("group_kind", textOrNull (s.groupKind.map GroupKind.value)),
    ("group_parent_id", textOrNull s.groupParentId)]

/-- `asdict(spec)`. -/
def RelationSpec.payload (s : RelationSpec) : Value :=
  .obj [
    ("source_entity_id", text s.sourceEntityId),
    ("target_entity_id", text s.targetEntityId),
    ("relation_types", textList (s.relationTypes.map RelationType.value)),
    ("layer", text s.layer.value),
    ("declared_cardinality", text s.declaredCardinality.value),
    ("state", text s.state.value),
    ("evidence_ids", textList s.evidenceIds),
    ("display_priority", number s.displayPriority),
    ("projection_visibility", text s.projectionVisibility.value),
    ("semantic_discriminator", text s.semanticDiscriminator),
    ("path_class", text s.pathClass.value),
    ("blocking_class", text s.blockingClass),
    ("authorization_class", textOrNull s.authorizationClass),
    ("evidence_authority_class", text s.evidenceAuthorityClass),
    ("execution_or_historical_context", text s.executionOrHistoricalContext),
    ("tenant_or_security_domain", text s.tenantOrSecurityDomain),
    ("aggregation_key", textOrNull s.aggregationKey),
    ("observed_source_count", number s.observedSourceCount),
    ("observed_target_count", number s.observedTargetCount)]

end Graph
end AgentPlatform
