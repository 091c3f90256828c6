/-
AgentPlatform/Authority/GrantTargets.lean

The exact resources that grants name for models and employees.

A target is what a grant is meant for: its kind and the identifiers it was built
from. Owners build its `exact_resource` by joining the identifiers with colons, some
when a grant is asked for and some when it is checked, and identifiers may carry
colons of their own. **Main result:** `grant_targets_named_iff`. Two targets of
one owner and action are told apart by their exact resources, and a grant for
one does not authorize the other, exactly if they differ in what lies between
the colons or carry as many colons in each identifier.
-/
import AgentPlatform.Authority.Contracts
import AgentPlatform.Employee.Definition
import AgentPlatform.Py.Delimited

namespace AgentPlatform

open Py

namespace Authority

/-! ### Model identities -/

/-- The checks of `ExactModelBinding.__post_init__`. -/
def bindingValid (resourceId revisionId digest : String) : Bool :=
  strip resourceId ≠ "" && strip revisionId ≠ "" && isHex64 digest

/-- `ExactModelBinding`. -/
structure ModelBinding where
  resourceId : String
  revisionId : String
  digest : String
  valid : bindingValid resourceId revisionId digest = true
  deriving DecidableEq

/-- `ModelManagementOperation`. -/
inductive ManagementOperation
  | revise | publish | disable | enable | deprecate | revoke
  deriving DecidableEq, Repr

def ManagementOperation.value : ManagementOperation → String
  | .revise => "REVISE"
  | .publish => "PUBLISH"
  | .disable => "DISABLE"
  | .enable => "ENABLE"
  | .deprecate => "DEPRECATE"
  | .revoke => "REVOKE"

/-! ### Requests -/

/-- What a port is asked to authorize. -/
structure Request where
  owner : String
  action : String
  exactResource : String
  deriving DecidableEq, Repr

def exactGrant (owner action exactResource : String) : Except String Request :=
  match ExactGrant.make owner action exactResource with
  | none => .error "INVALID_GRANT_TARGET"
  | some g => .ok ⟨g.owner, g.action, g.exactResource⟩

def part (value : String) : Except String String :=
  if value = "" ∨ strip value ≠ value then .error "INVALID_MODEL_GRANT_TARGET" else .ok value

def createModelGrant : Except String Request :=
  exactGrant "MODEL_GOVERNANCE" "CREATE_MODEL" "model:collection"

def modelCatalogGrant : Except String Request :=
  exactGrant "MODEL_GOVERNANCE" "READ_MODEL" "model:catalog"

def modelRevisionGrant (binding : ModelBinding) : Except String Request := do
  let resource ← part binding.resourceId
  let revision ← part binding.revisionId
  exactGrant "MODEL_GOVERNANCE" "READ_MODEL"
    ("model:revision:" ++ resource ++ ":" ++ revision ++ ":" ++ binding.digest)

/-- `ExactModelUse(binding, action, exact_resource)`, asked for by its action. -/
def exactModelUse (binding : ModelBinding) (action start exactResource : String) :
    Except String Request :=
  let suffix := ":" ++ binding.resourceId ++ ":" ++ binding.revisionId ++ ":" ++ binding.digest
  if strip exactResource = "" ∨ ¬ begins exactResource start
      ∨ ¬ suffix.toList <:+ exactResource.toList
      ∨ exactResource.length ≤ start.length + suffix.length then
    .error "MODEL_AUTHORIZATION_INVALID"
  else .ok ⟨"MODEL_GOVERNANCE", action, exactResource⟩

def bindModelUse (consumerKind consumerId consumerRevisionId : String) (binding : ModelBinding) :
    Except String Request := do
  let kind ← part consumerKind
  let consumer ← part consumerId
  let consumerRevision ← part consumerRevisionId
  let resource ← part binding.resourceId
  let revision ← part binding.revisionId
  exactModelUse binding "BIND_MODEL" "model:binding:"
    ("model:binding:" ++ kind ++ ":" ++ consumer ++ ":" ++ consumerRevision ++ ":" ++ resource ++ ":"
      ++ revision ++ ":" ++ binding.digest)

def invokeModelUse (attemptId bindingSnapshotId : String) (binding : ModelBinding) :
    Except String Request := do
  let attempt ← part attemptId
  let snapshot ← part bindingSnapshotId
  let resource ← part binding.resourceId
  let revision ← part binding.revisionId
  exactModelUse binding "INVOKE_MODEL" "model:invocation:"
    ("model:invocation:" ++ attempt ++ ":" ++ snapshot ++ ":" ++ resource ++ ":" ++ revision ++ ":"
      ++ binding.digest)

def modelManagementGrant (operation : ManagementOperation) (modelId targetRevisionOrNew : String) :
    Except String Request := do
  let model ← part modelId
  let target ← part targetRevisionOrNew
  exactGrant "MODEL_GOVERNANCE" "MANAGE_MODEL_REVISION"
    ("model:management:" ++ operation.value ++ ":" ++ model ++ ":" ++ target)

/-- The actions that an employee command decides. -/
inductive EmployeeAction
  | validate | approve | publish
  deriving DecidableEq, Repr

def EmployeeAction.value : EmployeeAction → String
  | .validate => "VALIDATE"
  | .approve => "APPROVE"
  | .publish => "PUBLISH"

/-- The kinds of members that are read before a command. -/
inductive ReadKind
  | agent | workflow
  deriving DecidableEq, Repr

/-- `_MEMBER_READ_OWNERS`. -/
def ReadKind.owner : ReadKind → String
  | .agent => "AGENT"
  | .workflow => "WORKFLOW"

/-- `owner.lower()`. -/
def ReadKind.start : ReadKind → String
  | .agent => "agent"
  | .workflow => "workflow"

/-- The adapters ask for an aggregate of the employee owner. -/
def employeeAggregateRequest (action : EmployeeAction) (definitionId : String) :
    Except String Request := do
  let definition ← Employee.identifier definitionId
  .ok ⟨"EMPLOYEE", action.value, "employee:" ++ definition ++ ":aggregate"⟩

/-- A revision of the employee owner is read. -/
def employeeRevisionRequest (definitionId revisionId : String) : Except String Request := do
  let definition ← Employee.identifier definitionId
  let revision ← Employee.identifier revisionId
  .ok ⟨"EMPLOYEE", "READ", "employee:" ++ definition ++ ":" ++ revision⟩

/-- `_require_member_reads`, for one member. -/
def memberReadRequest (kind : ReadKind) (resourceId revisionId : String) : Except String Request := do
  let resource ← Employee.identifier resourceId
  let revision ← Employee.identifier revisionId
  .ok ⟨kind.owner, "READ", kind.start ++ ":" ++ resource ++ ":" ++ revision⟩

/-! ### Targets -/

/-- What a grant is meant for. -/
inductive Target
  | modelCollection
  | modelCatalog
  | modelRevision (binding : ModelBinding)
  | modelUse (consumerKind consumerId consumerRevisionId : String) (binding : ModelBinding)
  | modelInvocation (attemptId bindingSnapshotId : String) (binding : ModelBinding)
  | modelManagement (operation : ManagementOperation) (modelId targetRevisionOrNew : String)
  | employeeCollection
  | employeeAggregate (action : EmployeeAction) (definitionId : String)
  | employeeRevision (definitionId revisionId : String)
  | member (kind : ReadKind) (resourceId revisionId : String)
  deriving DecidableEq

/-- The request for a target, where its identifiers are accepted. -/
def Target.request : Target → Except String Request
  | .modelCollection => createModelGrant
  | .modelCatalog => modelCatalogGrant
  | .modelRevision binding => modelRevisionGrant binding
  | .modelUse kind consumer revision binding => bindModelUse kind consumer revision binding
  | .modelInvocation attempt snapshot binding => invokeModelUse attempt snapshot binding
  | .modelManagement operation model target => modelManagementGrant operation model target
  | .employeeCollection => .ok ⟨"EMPLOYEE", "CREATE", "employee:collection"⟩
  | .employeeAggregate action definition => employeeAggregateRequest action definition
  | .employeeRevision definition revision => employeeRevisionRequest definition revision
  | .member kind resource revision => memberReadRequest kind resource revision

def Target.owner : Target → String
  | .employeeCollection | .employeeAggregate .. | .employeeRevision .. => "EMPLOYEE"
  | .member kind _ _ => kind.owner
  | _ => "MODEL_GOVERNANCE"

def Target.action : Target → String
  | .modelCollection => "CREATE_MODEL"
  | .modelCatalog | .modelRevision _ => "READ_MODEL"
  | .modelUse .. => "BIND_MODEL"
  | .modelInvocation .. => "INVOKE_MODEL"
  | .modelManagement .. => "MANAGE_MODEL_REVISION"
  | .employeeCollection => "CREATE"
  | .employeeAggregate action _ => action.value
  | .employeeRevision .. | .member .. => "READ"

/-- The identifiers of a target and the words between them. -/
def Target.parts : Target → List String
  | .modelCollection => ["model", "collection"]
  | .modelCatalog => ["model", "catalog"]
  | .modelRevision b => ["model", "revision", b.resourceId, b.revisionId, b.digest]
  | .modelUse kind consumer revision b =>
    ["model", "binding", kind, consumer, revision, b.resourceId, b.revisionId, b.digest]
  | .modelInvocation attempt snapshot b =>
    ["model", "invocation", attempt, snapshot, b.resourceId, b.revisionId, b.digest]
  | .modelManagement operation model target =>
    ["model", "management", operation.value, model, target]
  | .employeeCollection => ["employee", "collection"]
  | .employeeAggregate _ definition => ["employee", definition, "aggregate"]
  | .employeeRevision definition revision => ["employee", definition, revision]
  | .member kind resource revision => [kind.start, resource, revision]

/-- The texts of a target, as lists of characters. -/
def Target.texts (t : Target) : List (List Char) := t.parts.map String.toList

/-- What lies between the colons of a target's identifiers. -/
def Target.pieces (t : Target) : List (List Char) := Py.pieces ':' t.texts

/-- How many colons each identifier of a target carries. -/
def Target.colons (t : Target) : List Nat := separators ':' t.texts

theorem Target.texts_ne_nil (t : Target) : t.texts ≠ [] := by
  cases t <;> exact List.cons_ne_nil _ _

theorem ManagementOperation.value_injective : Function.Injective ManagementOperation.value := by
  intro o o' h
  cases o <;> cases o' <;> first | rfl | exact absurd h (by decide)

theorem EmployeeAction.value_injective : Function.Injective EmployeeAction.value := by
  intro a a' h
  cases a <;> cases a' <;> first | rfl | exact absurd h (by decide)

/-! ### What is asked for -/

theorem exactGrant_eq_ok {owner action resource : String} {g : Request}
    (h : exactGrant owner action resource = .ok g) : g = ⟨owner, action, resource⟩ := by
  unfold exactGrant ExactGrant.make at h
  split at h
  · cases h
  · next made hmade =>
    split at hmade
    · cases hmade
      cases h
      rfl
    · cases hmade

theorem exactModelUse_eq_ok {binding : ModelBinding} {action start resource : String} {g : Request}
    (h : exactModelUse binding action start resource = .ok g) :
    g = ⟨"MODEL_GOVERNANCE", action, resource⟩ := by
  unfold exactModelUse at h
  dsimp only at h
  split at h
  · cases h
  · cases h
    rfl

theorem part_eq_ok {value accepted : String} (h : part value = .ok accepted) : value = accepted := by
  unfold part at h
  split at h
  · cases h
  · cases h
    rfl

theorem identifier_eq_ok {value accepted : String} (h : Employee.identifier value = .ok accepted) :
    value = accepted := by
  unfold Employee.identifier at h
  split at h
  · cases h
    rfl
  · cases h

/-- Texts joined by colons. -/
def colonJoined (parts : List String) : String := String.ofList (join ':' (parts.map String.toList))

theorem colonJoined_cons (p q : String) (ps : List String) :
    colonJoined (p :: q :: ps) = p ++ ":" ++ colonJoined (q :: ps) := by
  apply String.toList_injective
  have hrest : (q :: ps).map String.toList ≠ [] := List.cons_ne_nil _ _
  rw [colonJoined, List.map_cons, join_cons _ hrest]
  simp [colonJoined]

theorem colonJoined_singleton (p : String) : colonJoined [p] = p := by
  apply String.toList_injective
  simp [colonJoined, join, List.intercalate]

theorem modelRevisionGrant_eq_ok {b : ModelBinding} {g : Request} (h : modelRevisionGrant b = .ok g) :
    g = ⟨"MODEL_GOVERNANCE", "READ_MODEL",
      colonJoined ["model", "revision", b.resourceId, b.revisionId, b.digest]⟩ := by
  unfold modelRevisionGrant at h
  obtain ⟨_, hr, h⟩ := bind_eq_ok.mp h
  obtain ⟨_, hv, h⟩ := bind_eq_ok.mp h
  obtain rfl := part_eq_ok hr
  obtain rfl := part_eq_ok hv
  rw [exactGrant_eq_ok h]
  simp only [colonJoined_cons, colonJoined_singleton, ← String.append_assoc]
  rfl

theorem bindModelUse_eq_ok {kind consumer consumerRevision : String} {b : ModelBinding} {g : Request}
    (h : bindModelUse kind consumer consumerRevision b = .ok g) :
    g = ⟨"MODEL_GOVERNANCE", "BIND_MODEL",
      colonJoined ["model", "binding", kind, consumer, consumerRevision, b.resourceId, b.revisionId,
        b.digest]⟩ := by
  unfold bindModelUse at h
  obtain ⟨_, hk, h⟩ := bind_eq_ok.mp h
  obtain ⟨_, hc, h⟩ := bind_eq_ok.mp h
  obtain ⟨_, hw, h⟩ := bind_eq_ok.mp h
  obtain ⟨_, hr, h⟩ := bind_eq_ok.mp h
  obtain ⟨_, hv, h⟩ := bind_eq_ok.mp h
  obtain rfl := part_eq_ok hk
  obtain rfl := part_eq_ok hc
  obtain rfl := part_eq_ok hw
  obtain rfl := part_eq_ok hr
  obtain rfl := part_eq_ok hv
  rw [exactModelUse_eq_ok h]
  simp only [colonJoined_cons, colonJoined_singleton, ← String.append_assoc]
  rfl

theorem invokeModelUse_eq_ok {attempt snapshot : String} {b : ModelBinding} {g : Request}
    (h : invokeModelUse attempt snapshot b = .ok g) :
    g = ⟨"MODEL_GOVERNANCE", "INVOKE_MODEL",
      colonJoined ["model", "invocation", attempt, snapshot, b.resourceId, b.revisionId,
        b.digest]⟩ := by
  unfold invokeModelUse at h
  obtain ⟨_, ha, h⟩ := bind_eq_ok.mp h
  obtain ⟨_, hs, h⟩ := bind_eq_ok.mp h
  obtain ⟨_, hr, h⟩ := bind_eq_ok.mp h
  obtain ⟨_, hv, h⟩ := bind_eq_ok.mp h
  obtain rfl := part_eq_ok ha
  obtain rfl := part_eq_ok hs
  obtain rfl := part_eq_ok hr
  obtain rfl := part_eq_ok hv
  rw [exactModelUse_eq_ok h]
  simp only [colonJoined_cons, colonJoined_singleton, ← String.append_assoc]
  rfl

theorem modelManagementGrant_eq_ok {operation : ManagementOperation} {model target : String}
    {g : Request} (h : modelManagementGrant operation model target = .ok g) :
    g = ⟨"MODEL_GOVERNANCE", "MANAGE_MODEL_REVISION",
      colonJoined ["model", "management", operation.value, model, target]⟩ := by
  unfold modelManagementGrant at h
  obtain ⟨_, hm, h⟩ := bind_eq_ok.mp h
  obtain ⟨_, ht, h⟩ := bind_eq_ok.mp h
  obtain rfl := part_eq_ok hm
  obtain rfl := part_eq_ok ht
  rw [exactGrant_eq_ok h]
  simp only [colonJoined_cons, colonJoined_singleton, ← String.append_assoc]
  rfl

theorem employeeAggregateRequest_eq_ok {action : EmployeeAction} {definition : String} {g : Request}
    (h : employeeAggregateRequest action definition = .ok g) :
    g = ⟨"EMPLOYEE", action.value,
      colonJoined ["employee", definition, "aggregate"]⟩ := by
  unfold employeeAggregateRequest at h
  obtain ⟨_, hd, h⟩ := bind_eq_ok.mp h
  obtain rfl := identifier_eq_ok hd
  cases h
  have hstart : "employee:" = "employee" ++ ":" := rfl
  have hend : ":aggregate" = ":" ++ "aggregate" := rfl
  rw [hstart, hend]
  simp only [colonJoined_cons, colonJoined_singleton, String.append_assoc]

theorem employeeRevisionRequest_eq_ok {definition revision : String} {g : Request}
    (h : employeeRevisionRequest definition revision = .ok g) :
    g = ⟨"EMPLOYEE", "READ",
      colonJoined ["employee", definition, revision]⟩ := by
  unfold employeeRevisionRequest at h
  obtain ⟨_, hd, h⟩ := bind_eq_ok.mp h
  obtain ⟨_, hv, h⟩ := bind_eq_ok.mp h
  obtain rfl := identifier_eq_ok hd
  obtain rfl := identifier_eq_ok hv
  cases h
  simp only [colonJoined_cons, colonJoined_singleton, ← String.append_assoc]
  rfl

theorem memberReadRequest_eq_ok {kind : ReadKind} {resource revision : String} {g : Request}
    (h : memberReadRequest kind resource revision = .ok g) :
    g = ⟨kind.owner, "READ",
      colonJoined [kind.start, resource, revision]⟩ := by
  unfold memberReadRequest at h
  obtain ⟨_, hr, h⟩ := bind_eq_ok.mp h
  obtain ⟨_, hv, h⟩ := bind_eq_ok.mp h
  obtain rfl := identifier_eq_ok hr
  obtain rfl := identifier_eq_ok hv
  cases h
  simp only [colonJoined_cons, colonJoined_singleton, ← String.append_assoc]

/-- **A request names its target** by the joined parts. -/
theorem Target.request_eq_ok {t : Target} {g : Request} (h : t.request = .ok g) :
    g = ⟨t.owner, t.action, colonJoined t.parts⟩ := by
  cases t with
  | modelCollection => exact exactGrant_eq_ok h
  | modelCatalog => exact exactGrant_eq_ok h
  | modelRevision => exact modelRevisionGrant_eq_ok h
  | modelUse => exact bindModelUse_eq_ok h
  | modelInvocation => exact invokeModelUse_eq_ok h
  | modelManagement => exact modelManagementGrant_eq_ok h
  | employeeCollection => exact (Except.ok.inj h).symm
  | employeeAggregate => exact employeeAggregateRequest_eq_ok h
  | employeeRevision => exact employeeRevisionRequest_eq_ok h
  | member => exact memberReadRequest_eq_ok h

theorem ModelBinding.ext {b b' : ModelBinding} (hresource : b.resourceId = b'.resourceId)
    (hrevision : b.revisionId = b'.revisionId) (hdigest : b.digest = b'.digest) : b = b' := by
  obtain ⟨_, _, _, _⟩ := b
  obtain ⟨_, _, _, _⟩ := b'
  cases hresource
  cases hrevision
  cases hdigest
  rfl

theorem EmployeeAction.value_ne_read (action : EmployeeAction) : action.value ≠ "READ" := by
  cases action <;> decide

theorem ReadKind.owner_injective : Function.Injective ReadKind.owner := by
  intro k k' h
  cases k <;> cases k' <;> first | rfl | exact absurd h (by decide)

theorem ReadKind.start_ne (kind : ReadKind) : kind.start ≠ "employee" := by
  cases kind <;> decide

theorem Target.eq_of_parts {t t' : Target} (howner : t.owner = t'.owner)
    (haction : t.action = t'.action) (hparts : t.parts = t'.parts) : t = t' := by
  cases t <;> cases t' <;>
    simp only [parts, List.cons.injEq, reduceCtorEq, and_false, and_true, true_and, String.reduceEq,
      false_and] at hparts
  case modelCollection.modelCollection => rfl
  case modelCatalog.modelCatalog => rfl
  case employeeCollection.employeeCollection => rfl
  case modelRevision.modelRevision b b' =>
    rw [ModelBinding.ext hparts.1 hparts.2.1 hparts.2.2]
  case modelUse.modelUse b _ _ _ b' =>
    obtain ⟨rfl, rfl, rfl, hr, hv, hd⟩ := hparts
    rw [ModelBinding.ext hr hv hd]
  case modelInvocation.modelInvocation b _ _ b' =>
    obtain ⟨rfl, rfl, hr, hv, hd⟩ := hparts
    rw [ModelBinding.ext hr hv hd]
  case modelManagement.modelManagement =>
    obtain ⟨ho, rfl, rfl⟩ := hparts
    rw [ManagementOperation.value_injective ho]
  case employeeAggregate.employeeAggregate =>
    obtain rfl := hparts
    rw [EmployeeAction.value_injective haction]
  case employeeRevision.employeeRevision =>
    obtain ⟨rfl, rfl⟩ := hparts
    rfl
  case member.member =>
    obtain ⟨-, rfl, rfl⟩ := hparts
    rw [ReadKind.owner_injective howner]
  -- the kinds that have parts of one length differ in their action or their owner
  case employeeAggregate.employeeRevision => exact absurd haction (EmployeeAction.value_ne_read _)
  case employeeRevision.employeeAggregate =>
    exact absurd haction.symm (EmployeeAction.value_ne_read _)
  case employeeAggregate.member => exact absurd hparts.1.symm (ReadKind.start_ne _)
  case employeeRevision.member => exact absurd hparts.1.symm (ReadKind.start_ne _)
  case member.employeeAggregate => exact absurd hparts.1 (ReadKind.start_ne _)
  case member.employeeRevision => exact absurd hparts.1 (ReadKind.start_ne _)

/-- **Exact resources tell targets apart** as far as their colons do. -/
theorem Target.colonJoined_eq_iff {t t' : Target} (howner : t.owner = t'.owner)
    (haction : t.action = t'.action) :
    (colonJoined t.parts = colonJoined t'.parts → t = t') ↔
      (t.pieces = t'.pieces → t.colons = t'.colons) := by
  have hjoined : colonJoined t.parts = colonJoined t'.parts ↔ join ':' t.texts = join ':' t'.texts :=
    ⟨fun h => String.ofList_injective h, congrArg String.ofList⟩
  have htexts : t = t' ↔ t.texts = t'.texts := by
    constructor
    · intro h
      rw [h]
    · intro h
      exact eq_of_parts howner haction
        (List.map_injective_iff.mpr (fun _ _ => String.toList_injective) h)
  rw [hjoined, htexts]
  exact join_determines_iff t.texts_ne_nil t'.texts_ne_nil

/-! ### Stored resources -/

/-- What the owners store in one scope: model definitions, model revisions, and
employee definitions with their revisions. -/
structure StoredResources where
  models : List String
  modelRevisions : List ModelBinding
  employees : List String
  employeeRevisions : List (String × String)

def isKnownExactTarget (s : StoredResources) (grant : Request) : Bool :=
  if .ok grant = createModelGrant ∨ .ok grant = modelCatalogGrant then true
  else if grant.action = "READ_MODEL" then
    s.modelRevisions.any fun b =>
      "model:revision:" ++ b.resourceId ++ ":" ++ b.revisionId ++ ":" ++ b.digest
        = grant.exactResource
  else if grant.action = "MANAGE_MODEL_REVISION" then
    (s.models.any fun model => "model:management:REVISE:" ++ model ++ ":new" = grant.exactResource)
      || [ManagementOperation.publish, .disable, .enable, .deprecate, .revoke].any fun operation =>
        s.modelRevisions.any fun b =>
          "model:management:" ++ operation.value ++ ":" ++ b.resourceId ++ ":" ++ b.revisionId
            = grant.exactResource
  else false

/-- `is_known_grant_target_for_workbench`. -/
def isKnownGrantTarget (s : StoredResources) (action exactResource : String) : Bool :=
  if exactResource = "employee:collection" then action = "CREATE"
  else if action ∈ ["VALIDATE", "APPROVE", "PUBLISH"] then
    s.employees.any fun definition => "employee:" ++ definition ++ ":aggregate" = exactResource
  else if action = "READ" then
    s.employeeRevisions.any fun r => "employee:" ++ r.1 ++ ":" ++ r.2 = exactResource
  else false

/-- The owner of a request finds its target. -/
def isKnown (s : StoredResources) (g : Request) : Bool :=
  if g.owner = "MODEL_GOVERNANCE" then isKnownExactTarget s g
  else if g.owner = "EMPLOYEE" then isKnownGrantTarget s g.action g.exactResource
  else false

/-- The target is a whole collection, which is known without a row. -/
def Target.isCollection : Target → Bool
  | .modelCollection | .modelCatalog | .employeeCollection => true
  | _ => false

def Target.StoredIn (s : StoredResources) : Target → Prop
  | .modelRevision b => b ∈ s.modelRevisions
  | .modelManagement .revise model target => target = "new" ∧ model ∈ s.models
  | .modelManagement _ model target =>
    ∃ b ∈ s.modelRevisions, b.resourceId = model ∧ b.revisionId = target
  | .employeeAggregate _ definition => definition ∈ s.employees
  | .employeeRevision definition revision => (definition, revision) ∈ s.employeeRevisions
  | _ => False

/-- A target that is found under the text of another. -/
def Target.Found (s : StoredResources) (t u : Target) : Prop :=
  u.StoredIn s ∧ u.owner = t.owner ∧ u.action = t.action ∧ colonJoined u.parts = colonJoined t.parts

theorem colonJoined_revision (b : ModelBinding) :
    colonJoined (Target.modelRevision b).parts
      = "model:revision:" ++ b.resourceId ++ ":" ++ b.revisionId ++ ":" ++ b.digest := by
  simp only [Target.parts, colonJoined_cons, colonJoined_singleton, ← String.append_assoc]
  rfl

theorem colonJoined_management (operation : ManagementOperation) (model target : String) :
    colonJoined (Target.modelManagement operation model target).parts
      = "model:management:" ++ operation.value ++ ":" ++ model ++ ":" ++ target := by
  simp only [Target.parts, colonJoined_cons, colonJoined_singleton, ← String.append_assoc]
  rfl

theorem colonJoined_aggregate (action : EmployeeAction) (definition : String) :
    colonJoined (Target.employeeAggregate action definition).parts
      = "employee:" ++ definition ++ ":aggregate" := by
  have hstart : "employee:" = "employee" ++ ":" := rfl
  have hend : ":aggregate" = ":" ++ "aggregate" := rfl
  rw [hstart, hend]
  simp only [Target.parts, colonJoined_cons, colonJoined_singleton, String.append_assoc]

theorem colonJoined_employee (definition revision : String) :
    colonJoined (Target.employeeRevision definition revision).parts
      = "employee:" ++ definition ++ ":" ++ revision := by
  simp only [Target.parts, colonJoined_cons, colonJoined_singleton, ← String.append_assoc]
  rfl

theorem revision_ne_catalog (b : ModelBinding) :
    colonJoined (Target.modelRevision b).parts ≠ "model:catalog" := by
  rw [colonJoined_revision]
  intro h
  have hchars := congrArg String.toList h
  simp at hchars

theorem employee_ne_collection (definition revision : String) :
    colonJoined (Target.employeeRevision definition revision).parts ≠ "employee:collection" := by
  rw [colonJoined_employee]
  intro h
  have hchars := congrArg String.toList h
  simp only [String.toList_append] at hchars
  have htail : definition.toList ++ ":".toList ++ revision.toList = "collection".toList :=
    (List.append_right_inj "employee:".toList).mp (by simpa using hchars)
  have hcolon : ':' ∈ "collection".toList := by
    rw [← htail]
    simp
  exact absurd hcolon (by decide)

theorem aggregate_ne_collection (action : EmployeeAction) (definition : String) :
    colonJoined (Target.employeeAggregate action definition).parts ≠ "employee:collection" := by
  have h := employee_ne_collection definition "aggregate"
  exact h

theorem known_of_model {s : StoredResources} {g : Request} (howner : g.owner = "MODEL_GOVERNANCE")
    (hknown : isKnown s g = true) : isKnownExactTarget s g = true := by
  rw [isKnown, if_pos howner] at hknown
  exact hknown

theorem known_of_employee {s : StoredResources} {g : Request} (howner : g.owner = "EMPLOYEE")
    (hknown : isKnown s g = true) : isKnownGrantTarget s g.action g.exactResource = true := by
  have hother : g.owner ≠ "MODEL_GOVERNANCE" := by
    rw [howner]
    decide
  rw [isKnown, if_neg hother, if_pos howner] at hknown
  exact hknown

/-- The two requests that need no row. -/
theorem not_collection {g : Request} (hcreate : g.action ≠ "CREATE_MODEL")
    (hcatalog : g.action = "READ_MODEL" → g.exactResource ≠ "model:catalog") :
    ¬ (.ok g = createModelGrant ∨ .ok g = modelCatalogGrant) := by
  rintro (h | h)
  · obtain rfl := exactGrant_eq_ok h.symm
    exact hcreate rfl
  · obtain rfl := exactGrant_eq_ok h.symm
    exact hcatalog rfl rfl

/-- A known request to read a revision was found under the text of a stored one. -/
theorem revision_found {s : StoredResources} {g : Request} (haction : g.action = "READ_MODEL")
    (hcatalog : g.exactResource ≠ "model:catalog") (hknown : isKnownExactTarget s g = true) :
    ∃ b ∈ s.modelRevisions, colonJoined (Target.modelRevision b).parts = g.exactResource := by
  have hcreate : g.action ≠ "CREATE_MODEL" := by
    rw [haction]
    decide
  rw [isKnownExactTarget, if_neg (not_collection hcreate fun _ => hcatalog), if_pos haction] at hknown
  obtain ⟨b, hb, hresource⟩ := List.any_eq_true.mp hknown
  exact ⟨b, hb, (colonJoined_revision b).trans (of_decide_eq_true hresource)⟩

/-- A known request to manage a model was found under the text of a stored revision,
or of a stored model where it asks for a new revision. -/
theorem management_found {s : StoredResources} {g : Request}
    (haction : g.action = "MANAGE_MODEL_REVISION") (hknown : isKnownExactTarget s g = true) :
    ∃ operation model target, (Target.modelManagement operation model target).StoredIn s ∧
      colonJoined (Target.modelManagement operation model target).parts = g.exactResource := by
  have hcreate : g.action ≠ "CREATE_MODEL" := by
    rw [haction]
    decide
  have hread : g.action ≠ "READ_MODEL" := by
    rw [haction]
    decide
  rw [isKnownExactTarget, if_neg (not_collection hcreate fun h => absurd h hread), if_neg hread,
    if_pos haction, Bool.or_eq_true] at hknown
  rcases hknown with hnew | hstored
  · obtain ⟨model, hmodel, hresource⟩ := List.any_eq_true.mp hnew
    refine ⟨.revise, model, "new", ⟨rfl, hmodel⟩, ?_⟩
    rw [← of_decide_eq_true hresource, colonJoined_management]
    have hend : ":new" = ":" ++ "new" := rfl
    rw [hend, ← String.append_assoc]
    rfl
  · obtain ⟨operation, hoperation, hstored⟩ := List.any_eq_true.mp hstored
    obtain ⟨b, hb, hresource⟩ := List.any_eq_true.mp hstored
    refine ⟨operation, b.resourceId, b.revisionId, ?_, ?_⟩
    · cases operation with
      | revise => exact absurd hoperation (by decide)
      | _ => exact ⟨b, hb, rfl, rfl⟩
    · rw [colonJoined_management]
      exact of_decide_eq_true hresource

/-- A known request that decides an employee definition was found under its text. -/
theorem aggregate_found {s : StoredResources} {action : EmployeeAction} {resource : String}
    (hcollection : resource ≠ "employee:collection")
    (hknown : isKnownGrantTarget s action.value resource = true) :
    ∃ definition ∈ s.employees,
      colonJoined (Target.employeeAggregate action definition).parts = resource := by
  have hdecides : action.value ∈ ["VALIDATE", "APPROVE", "PUBLISH"] := by
    cases action <;> decide
  rw [isKnownGrantTarget, if_neg hcollection, if_pos hdecides] at hknown
  obtain ⟨definition, hdefinition, hresource⟩ := List.any_eq_true.mp hknown
  exact ⟨definition, hdefinition,
    (colonJoined_aggregate action definition).trans (of_decide_eq_true hresource)⟩

/-- A known request to read an employee revision was found under its text. -/
theorem employee_found {s : StoredResources} {resource : String}
    (hcollection : resource ≠ "employee:collection")
    (hknown : isKnownGrantTarget s "READ" resource = true) :
    ∃ r ∈ s.employeeRevisions, colonJoined (Target.employeeRevision r.1 r.2).parts = resource := by
  rw [isKnownGrantTarget, if_neg hcollection, if_neg (by decide), if_pos rfl] at hknown
  obtain ⟨r, hr, hresource⟩ := List.any_eq_true.mp hknown
  exact ⟨r, hr, (colonJoined_employee r.1 r.2).trans (of_decide_eq_true hresource)⟩

/-- The uses of a model are requests that no owner knows. -/
theorem use_unknown {s : StoredResources} {g : Request}
    (haction : g.action = "BIND_MODEL" ∨ g.action = "INVOKE_MODEL")
    (hknown : isKnownExactTarget s g = true) : False := by
  have hcreate : g.action ≠ "CREATE_MODEL" := by
    rcases haction with haction | haction <;> rw [haction] <;> decide
  have hread : g.action ≠ "READ_MODEL" := by
    rcases haction with haction | haction <;> rw [haction] <;> decide
  have hmanage : g.action ≠ "MANAGE_MODEL_REVISION" := by
    rcases haction with haction | haction <;> rw [haction] <;> decide
  rw [isKnownExactTarget, if_neg (not_collection hcreate fun h => absurd h hread), if_neg hread,
    if_neg hmanage] at hknown
  exact Bool.false_ne_true hknown

/-- **A known request was found** under the text of a stored resource. -/
theorem Target.found_of_known {s : StoredResources} {t : Target} {g : Request}
    (h : t.request = .ok g) (hcollection : t.isCollection = false) (hknown : isKnown s g = true) :
    ∃ u, t.Found s u := by
  obtain rfl := request_eq_ok h
  cases t with
  | modelCollection => cases hcollection
  | modelCatalog => cases hcollection
  | employeeCollection => cases hcollection
  | member kind => cases kind <;> cases hknown
  | modelUse =>
    exact (use_unknown (.inl rfl) (known_of_model rfl hknown)).elim
  | modelInvocation =>
    exact (use_unknown (.inr rfl) (known_of_model rfl hknown)).elim
  | modelRevision b =>
    obtain ⟨b', hb', hresource⟩ := revision_found rfl (revision_ne_catalog b)
      (known_of_model rfl hknown)
    exact ⟨.modelRevision b', hb', rfl, rfl, hresource⟩
  | modelManagement operation model target =>
    obtain ⟨operation', model', target', hstored, hresource⟩ :=
      management_found rfl (known_of_model rfl hknown)
    exact ⟨.modelManagement operation' model' target', hstored, rfl, rfl, hresource⟩
  | employeeAggregate action definition =>
    obtain ⟨definition', hdefinition, hresource⟩ := aggregate_found
      (aggregate_ne_collection action definition) (known_of_employee rfl hknown)
    exact ⟨.employeeAggregate action definition', hdefinition, rfl, rfl, hresource⟩
  | employeeRevision definition revision =>
    obtain ⟨r, hr, hresource⟩ := employee_found
      (employee_ne_collection definition revision) (known_of_employee rfl hknown)
    exact ⟨.employeeRevision r.1 r.2, hr, rfl, rfl, hresource⟩

/-! ### Grants -/

/-- A grant that was asked for and approved for one target authorizes a request
for another. -/
def Target.Authorizes (t t' : Target) : Prop := ∃ g, t.request = .ok g ∧ t'.request = .ok g

/-- Grants for the two targets name one resource each. -/
structure Target.Named (t t' : Target) : Prop where
  apart : ∀ g g', t.request = .ok g → t'.request = .ok g' → g.owner = g'.owner →
    g.action = g'.action → g.exactResource = g'.exactResource → t = t'
  /-- A request for one that the row of the other makes known. -/
  validated : ∀ s g, t.request = .ok g → t.isCollection = false → isKnown s g = true →
    (∀ u : Target, u.StoredIn s → u.owner = t.owner → u.action = t.action → u = t') → t = t'
  confined : t.Authorizes t' → t' = t

/-- **Grant targets name one resource** exactly if the two targets differ in what
lies between their colons, or carry as many colons in each identifier. -/
theorem grant_targets_named_iff (t t' : Target) (g g' : Request) (h : t.request = .ok g)
    (h' : t'.request = .ok g') :
    t.Named t' ↔ (t.owner = t'.owner → t.action = t'.action → t.pieces = t'.pieces →
      t.colons = t'.colons) := by
  obtain rfl := Target.request_eq_ok h
  obtain rfl := Target.request_eq_ok h'
  constructor
  · intro hnamed howner haction
    refine (Target.colonJoined_eq_iff howner haction).mp ?_
    exact hnamed.apart _ _ h h' howner haction
  · intro hcolons
    have happart : t.owner = t'.owner → t.action = t'.action →
        colonJoined t.parts = colonJoined t'.parts → t = t' := fun howner haction =>
      (Target.colonJoined_eq_iff howner haction).mpr (hcolons howner haction)
    constructor
    · intro g g' hg hg' howner haction hresource
      obtain rfl := Target.request_eq_ok hg
      obtain rfl := Target.request_eq_ok hg'
      exact happart howner haction hresource
    · intro s g hg hcollection hknown honly
      obtain ⟨u, hstored, howner, haction, hresource⟩ := Target.found_of_known hg hcollection hknown
      obtain rfl := honly u hstored howner haction
      exact happart howner.symm haction.symm hresource.symm
    · rintro ⟨g, hg, hg'⟩
      have hsame := (Target.request_eq_ok hg).symm.trans (Target.request_eq_ok hg')
      rw [Request.mk.injEq] at hsame
      exact (happart hsame.1 hsame.2.1 hsame.2.2).symm

/-- Two targets of the model owner whose identifiers carry no colons. -/
theorem grant_targets_named_sample :
    (Target.modelManagement .publish "model-1" "revision-1").Named
      (.modelManagement .publish "model-2" "revision-1") :=
  (grant_targets_named_iff (.modelManagement .publish "model-1" "revision-1")
    (.modelManagement .publish "model-2" "revision-1") _ _ rfl rfl).mpr (fun _ _ => by decide)

/-- **A grant for one revision authorizes another.** The identity `a:b` with the
revision `c` is written like the identity `a` with the revision `b:c`. -/
theorem colon_targets_not_named :
    ¬ ∀ t t' : Target, ∀ g g', t.request = .ok g → t'.request = .ok g' → t.Named t' := by
  intro hclaim
  have hnamed := hclaim (.modelManagement .publish "a:b" "c") (.modelManagement .publish "a" "b:c")
    _ _ rfl rfl
  have hsame := hnamed.confined ⟨_, rfl, rfl⟩
  exact absurd hsame (by decide)

end Authority

end AgentPlatform
