/-
AgentPlatform/Employee/Instances.lean

Digital employee instances and their assignments: the records, the tables, and the
operations of the repository, each as one transaction.

An instance is created from a published definition and has one row, which a transition
replaces under the version that its caller expects. Assignments are rows that are only
added. What an operation writes is said once: `createInstance_eq_ok`,
`replaceInstance_eq_ok` and `createAssignment_eq_ok`.
-/
import AgentPlatform.Employee.Calls
import AgentPlatform.Py.Isoformat

namespace AgentPlatform

open Py

namespace Employee

/-! ### Records -/

inductive InstanceLifecycle
  | enabled | disabled | retired
  deriving DecidableEq, Repr

inductive AssignmentLifecycle
  | active | ended
  deriving DecidableEq, Repr

structure DefinitionReference where
  definitionId : String
  revisionId : String
  digest : String
  published : Bool
  eligible : Bool
  authorityKind : String
  primaryAgentId : Option String
  primaryAgentRevisionId : Option String
  primaryAgentDigest : Option String
  deriving DecidableEq

section Tables

variable [Unicodedata]

structure InstanceRecord where
  scope : ScopeIdentity
  instanceId : OpaqueId
  version : Nat
  definition : DefinitionReference
  ownerId : String
  organizationId : String
  lifecycle : InstanceLifecycle
  workspaceReference : Option String
  modelReference : Option String
  policyReferences : List String
  createdAt : LocalDatetime
  updatedAt : LocalDatetime
  reobservationId : Option String
  deriving DecidableEq

structure AssignmentRecord where
  scope : ScopeIdentity
  assignmentId : AssignmentId
  instanceId : OpaqueId
  assigneeId : String
  businessRole : String
  lifecycle : AssignmentLifecycle
  effectiveFrom : LocalDatetime
  effectiveUntil : Option LocalDatetime
  version : Int
  commandId : String
  predecessorAssignmentId : Option AssignmentId
  deriving DecidableEq

/-- What `_instance_record` stores. -/
structure InstanceData where
  definition : DefinitionReference
  ownerId : String
  organizationId : String
  lifecycle : InstanceLifecycle
  workspaceReference : Option String
  modelReference : Option String
  policyReferences : List String
  createdAt : LocalDatetime
  updatedAt : LocalDatetime
  reobservationId : Option String
  commandId : String
  deriving DecidableEq

/-- A row of `digital_employee_instances`. -/
structure InstanceRow where
  version : Nat
  record : InstanceData
  deriving DecidableEq

structure AssignmentRow where
  value : AssignmentRecord
  digest : String
  deriving DecidableEq

abbrev InstanceKey := ScopeIdentity × OpaqueId

abbrev AssignmentKey := ScopeIdentity × AssignmentId

def AssignmentRecord.key (v : AssignmentRecord) : AssignmentKey := (v.scope, v.assignmentId)

def AssignmentRecord.instanceKey (v : AssignmentRecord) : InstanceKey := (v.scope, v.instanceId)

def InstanceRecord.key (v : InstanceRecord) : InstanceKey := (v.scope, v.instanceId)

/-- The tables: employee definitions, the bound resources, instances with the revision
that each is bound to, and assignments in the order in which they were inserted. -/
structure Tables where
  definitions : Ledger
  resources : ScopeIdentity → MemberKind → String → Option ResourceRecord
  instances : InstanceKey → Option InstanceRow
  bindings : InstanceKey → Option (String × String × String)
  assignments : List AssignmentRow

/-- `_instance_record(value, command_id)`. -/
def InstanceRecord.data (v : InstanceRecord) (commandId : String) : InstanceData where
  definition := v.definition
  ownerId := v.ownerId
  organizationId := v.organizationId
  lifecycle := v.lifecycle
  workspaceReference := v.workspaceReference
  modelReference := v.modelReference
  policyReferences := v.policyReferences
  createdAt := v.createdAt
  updatedAt := v.updatedAt
  reobservationId := v.reobservationId
  commandId := commandId

/-- `_instance_from_record(scope, instance_id, version, record)`. -/
def InstanceRow.value (key : InstanceKey) (row : InstanceRow) : InstanceRecord where
  scope := key.1
  instanceId := key.2
  version := row.version
  definition := row.record.definition
  ownerId := row.record.ownerId
  organizationId := row.record.organizationId
  lifecycle := row.record.lifecycle
  workspaceReference := row.record.workspaceReference
  modelReference := row.record.modelReference
  policyReferences := row.record.policyReferences
  createdAt := row.record.createdAt
  updatedAt := row.record.updatedAt
  reobservationId := row.record.reobservationId

def Tables.getInstance (s : Tables) (key : InstanceKey) : Option InstanceRecord :=
  (s.instances key).map (InstanceRow.value key)

/-! ### Definitions -/

/-- What `EmployeeAuthorization.require(scope, action, identity)` lets pass. -/
abbrev Permits := String → String → Bool

def requirePermit (permits : Permits) (action identity : String) : Except String Unit :=
  if permits action identity then .ok () else .error "EMPLOYEE_NOT_FOUND"

/-- `next(m for m in revision.members if m.kind is MemberKind.AGENT)`. -/
def EmployeeRevision.primaryAgent (r : EmployeeRevision) : Except String CompositionMember :=
  match r.members.find? (·.kind = .agent) with
  | some m => .ok m
  | none => .error "StopIteration"

/-- The key of a definition, as it is queried. -/
def rowKey (scope : ScopeIdentity) (definitionId : String) : DefinitionKey :=
  ⟨scope.namespaceName.value, scope.securityDomain.value, definitionId⟩

/-- The reference to a revision that was read. -/
def referenceTo (definitionId revisionId : String) (view : View) (agent : CompositionMember) :
    DefinitionReference where
  definitionId := definitionId
  revisionId := revisionId
  digest := view.digest
  published := view.published
  eligible := view.published
  authorityKind := "DIGITAL_EMPLOYEE_DEFINITION_V1"
  primaryAgentId := some agent.resourceId
  primaryAgentRevisionId := some agent.revisionId
  primaryAgentDigest := some agent.digest

/-- `PublishedEmployeeDefinitionAuthority.resolve`. -/
def resolve (permits : Permits) (scope : ScopeIdentity) (definitionId revisionId : String) (s : Ledger) :
    Except String DefinitionReference := do
  requirePermit permits "INSTANTIATE" definitionId
  let _ ← identifier definitionId
  let _ ← identifier revisionId
  let view ← (s.rows (rowKey scope definitionId)).read revisionId
  let revision ← EmployeeRevision.fromRecord view.revision
  revision.members.forM fun m => requirePermit permits "READ_MEMBER" m.resourceId
  let agent ← revision.primaryAgent
  .ok (referenceTo definitionId revisionId view agent)

/-! ### Creating an instance -/

/-- A text has no place for the character NUL in the database. -/
def storableText (text : String) : Bool := !text.toList.contains '\x00'

/-- The texts that an instance is stored with. -/
def InstanceData.texts (d : InstanceData) : List String :=
  d.ownerId :: d.organizationId :: d.commandId :: d.workspaceReference.toList ++ d.modelReference.toList
    ++ d.policyReferences ++ d.reobservationId.toList

/-- `aggregate_version` is a `bigint`. -/
def maxVersion : Nat := 2 ^ 63 - 1

def InstanceRow.storable (row : InstanceRow) : Bool :=
  row.record.texts.all storableText && row.version ≤ maxVersion

def Tables.addInstance (s : Tables) (key : InstanceKey) (row : InstanceRow) : Tables where
  definitions := s.definitions
  resources := s.resources
  instances k := if k = key then some row else s.instances k
  bindings k := if k = key then
      some (row.record.definition.definitionId, row.record.definition.revisionId, row.record.definition.digest)
    else s.bindings k
  assignments := s.assignments

/-- The record that a repeated call compares with: its own, at the times of the
stored one. -/
def InstanceData.comparable (d stored : InstanceData) : InstanceData :=
  { d with createdAt := stored.createdAt, updatedAt := stored.updatedAt }

/-- `create_instance` of the repository, after the definition was compared. -/
def createRow (value : InstanceRecord) (commandId : String) (view : View) (revision : EmployeeRevision)
    (s : Tables) : Except String (AppendDisposition × Tables) :=
  let record := value.data commandId
  match s.instances value.key with
  | some existing =>
    if existing.version = value.version ∧ existing.record = record.comparable existing.record then
      .ok (.replayed, s)
    else .error "INSTANCE_IDENTITY_CONFLICT"
  | none =>
    if view.published = false then .error "DEFINITION_INELIGIBLE"
    else do
      validateMembers (fun m => s.resources value.scope m.kind m.resourceId) revision.members
      if InstanceRow.storable ⟨value.version, record⟩ = false ∨ storableText value.instanceId.value = false
          ∨ (s.bindings value.key).isSome then
        .error "EXECUTION_CONFLICT"
      else .ok (.appended, s.addInstance value.key ⟨value.version, record⟩)

/-- `create_instance` of the repository. -/
def createInstance (value : InstanceRecord) (commandId : String) (s : Tables) :
    Except String (AppendDisposition × Tables) :=
  if value.definition.authorityKind ≠ "DIGITAL_EMPLOYEE_DEFINITION_V1" then
    .error "EXACT_EMPLOYEE_DEFINITION_REQUIRED"
  else do
    let view ← (s.definitions.rows (rowKey value.scope value.definition.definitionId)).read
      value.definition.revisionId
    let revision ← EmployeeRevision.fromRecord view.revision
    let agent ← revision.primaryAgent
    if view.digest ≠ value.definition.digest
        ∨ value.definition.primaryAgentId ≠ some agent.resourceId
        ∨ value.definition.primaryAgentRevisionId ≠ some agent.revisionId
        ∨ value.definition.primaryAgentDigest ≠ some agent.digest then
      .error "EMPLOYEE_DEFINITION_MISMATCH"
    else createRow value commandId view revision s

/-! ### Replacing an instance -/

def Tables.setInstance (s : Tables) (key : InstanceKey) (row : InstanceRow) : Tables :=
  { s with instances := fun k => if k = key then some row else s.instances k }

/-- The first statement of `replace_instance`: the command that created the instance. -/
def replaceCommand (s : Tables) (key : InstanceKey) : String :=
  ((s.instances key).map fun row => row.record.commandId).getD "transition"

/-- `replace_aggregate`: `UPDATE ... WHERE aggregate_version=expected`. -/
def replaceInstance (value : InstanceRecord) (commandId : String) (expectedVersion : Int) (s : Tables) :
    Except String Tables :=
  if value.definition.revisionId = "" then .error "EXECUTION_AGGREGATE_FIELD_INVALID"
  else match s.instances value.key with
    | none => .error "STALE_INSTANCE_VERSION"
    | some row =>
      if (row.version : Int) ≠ expectedVersion then .error "STALE_INSTANCE_VERSION"
      else if InstanceRow.storable ⟨value.version, value.data commandId⟩ = false then
        .error "EXECUTION_CONFLICT"
      else .ok (s.setInstance value.key ⟨value.version, value.data commandId⟩)

/-! ### Assignments -/

/-- What the repository asks of Python: the text of a value, `str(value)`. -/
class Representation where
  text : AssignmentRecord → String

/-- `assignment_command_digest(value)`. -/
def AssignmentRecord.commandDigest [Representation] (v : AssignmentRecord) : String :=
  sha256 (Json.dumps true (.str (Representation.text v)))

def AssignmentRecord.row [Representation] (v : AssignmentRecord) : AssignmentRow := ⟨v, v.commandDigest⟩

def Tables.findAssignment (s : Tables) (key : AssignmentKey) : Option AssignmentRow :=
  s.assignments.find? (·.value.key = key)

def AssignmentRecord.activeFor (key : InstanceKey) (role : String) (v : AssignmentRecord) : Bool :=
  v.instanceKey = key && v.lifecycle = .active && v.businessRole = role

/-- The predecessor of an assignment is one of the same instance, one version before. -/
def checkPredecessor (v : AssignmentRecord) (s : Tables) : Except String Unit :=
  match v.predecessorAssignmentId with
  | none => .ok ()
  | some predecessor =>
    match s.findAssignment (v.scope, predecessor) with
    | none => .error "STALE_ASSIGNMENT_VERSION"
    | some row =>
      if row.value.instanceId ≠ v.instanceId ∨ row.value.version ≠ v.version - 1 then
        .error "STALE_ASSIGNMENT_VERSION"
      else .ok ()

def AssignmentRecord.storable (v : AssignmentRecord) : Bool :=
  [v.assignmentId.value, v.assigneeId, v.businessRole, v.commandId].all storableText

/-- `create_assignment` of the repository. -/
def createAssignment [Representation] (v : AssignmentRecord) (s : Tables) :
    Except String (AppendDisposition × Tables) :=
  if (s.instances v.instanceKey).isNone then .error "INSTANCE_NOT_FOUND"
  else match s.findAssignment v.key with
    | some existing =>
      if existing.digest ≠ v.commandDigest then .error "ASSIGNMENT_REPLAY_CONFLICT" else .ok (.replayed, s)
    | none =>
      if v.lifecycle = .active ∧ s.assignments.any (fun a => a.value.activeFor v.instanceKey v.businessRole) then
        .error "ACTIVE_ASSIGNMENT_CONFLICT"
      else do
        checkPredecessor v s
        if v.storable = false then .error "EXECUTION_CONFLICT"
        else .ok (.appended, { s with assignments := s.assignments ++ [v.row] })

/-! ### What the operations do -/

variable {value : InstanceRecord} {commandId : String} {s s' : Tables} {d : AppendDisposition}

/-- The stored revision that an instance is created from. -/
structure Referenced (r : DefinitionReference) (scope : ScopeIdentity) (view : View)
    (agent : CompositionMember) (s : Ledger) : Prop where
  read : (s.rows (rowKey scope r.definitionId)).read r.revisionId = .ok view
  member : ∃ revision, EmployeeRevision.fromRecord view.revision = .ok revision ∧
    revision.primaryAgent = .ok agent
  digest : view.digest = r.digest
  agentId : r.primaryAgentId = some agent.resourceId
  agentRevisionId : r.primaryAgentRevisionId = some agent.revisionId
  agentDigest : r.primaryAgentDigest = some agent.digest

/-- An instance is inserted, or the one that is there is the same. -/
theorem createInstance_eq_ok (h : createInstance value commandId s = .ok (d, s')) :
    value.definition.authorityKind = "DIGITAL_EMPLOYEE_DEFINITION_V1" ∧
    ∃ view agent, Referenced value.definition value.scope view agent s.definitions ∧
      ((d = .replayed ∧ s' = s ∧ ∃ existing, s.instances value.key = some existing ∧
          existing.version = value.version ∧
          existing.record = (value.data commandId).comparable existing.record) ∨
        (d = .appended ∧ s.instances value.key = none ∧
          s' = s.addInstance value.key ⟨value.version, value.data commandId⟩)) := by
  rw [createInstance, ite_error_eq_ok', not_not] at h
  obtain ⟨hkind, h⟩ := h
  obtain ⟨view, hview, h⟩ := bind_eq_ok.mp h
  obtain ⟨revision, hrevision, h⟩ := bind_eq_ok.mp h
  obtain ⟨agent, hagent, h⟩ := bind_eq_ok.mp h
  rw [ite_error_eq_ok', not_or, not_or, not_or, not_not, not_not, not_not, not_not] at h
  obtain ⟨⟨hdigest, hid, hrevisionId, hagentDigest⟩, h⟩ := h
  refine ⟨hkind, view, agent, ⟨hview, ⟨revision, hrevision, hagent⟩, hdigest, hid, hrevisionId,
    hagentDigest⟩, ?_⟩
  rw [createRow] at h
  cases hrow : s.instances value.key with
  | some existing =>
    simp only [hrow] at h
    split at h
    · next hsame =>
      cases h
      exact .inl ⟨rfl, rfl, existing, rfl, hsame⟩
    · cases h
  | none =>
    simp only [hrow] at h
    rw [ite_error_eq_ok'] at h
    obtain ⟨-, h⟩ := h
    obtain ⟨⟨⟩, -, h⟩ := bind_eq_ok.mp h
    rw [ite_error_eq_ok'] at h
    cases h.2
    exact .inr ⟨rfl, rfl, rfl⟩

theorem createInstance_eq_createRow {view : View} {agent : CompositionMember}
    (hkind : value.definition.authorityKind = "DIGITAL_EMPLOYEE_DEFINITION_V1")
    (href : Referenced value.definition value.scope view agent s.definitions) :
    ∃ revision, EmployeeRevision.fromRecord view.revision = .ok revision ∧
      createInstance value commandId s = createRow value commandId view revision s := by
  obtain ⟨revision, hrevision, hagent⟩ := href.member
  refine ⟨revision, hrevision, ?_⟩
  rw [createInstance, if_neg (not_not.mpr hkind), href.read]
  show (EmployeeRevision.fromRecord view.revision >>= _) = _
  rw [hrevision]
  show (revision.primaryAgent >>= _) = _
  rw [hagent]
  refine if_neg ?_
  rw [not_or, not_or, not_or, not_not, not_not, not_not, not_not]
  exact ⟨href.digest, href.agentId, href.agentRevisionId, href.agentDigest⟩

/-- **A repeated creation** is compared with the stored row. -/
theorem createInstance_again {view : View} {agent : CompositionMember} {existing : InstanceRow}
    (hkind : value.definition.authorityKind = "DIGITAL_EMPLOYEE_DEFINITION_V1")
    (href : Referenced value.definition value.scope view agent s.definitions)
    (hrow : s.instances value.key = some existing) :
    createInstance value commandId s =
      if existing.version = value.version ∧
          existing.record = (value.data commandId).comparable existing.record then .ok (.replayed, s)
      else .error "INSTANCE_IDENTITY_CONFLICT" := by
  obtain ⟨revision, -, heq⟩ := createInstance_eq_createRow hkind href
  rw [heq, createRow]
  simp only [hrow]

/-- An instance is created from a published revision whose members are eligible. -/
theorem createInstance_new {view : View} {agent : CompositionMember}
    (hkind : value.definition.authorityKind = "DIGITAL_EMPLOYEE_DEFINITION_V1")
    (href : Referenced value.definition value.scope view agent s.definitions)
    (hrow : s.instances value.key = none) (hpublished : view.published = true)
    (hmembers : ∀ revision, EmployeeRevision.fromRecord view.revision = .ok revision →
      validateMembers (fun m => s.resources value.scope m.kind m.resourceId) revision.members = .ok ())
    (hstorable : InstanceRow.storable ⟨value.version, value.data commandId⟩ = true)
    (hid : storableText value.instanceId.value = true) (hbinding : s.bindings value.key = none) :
    createInstance value commandId s
      = .ok (.appended, s.addInstance value.key ⟨value.version, value.data commandId⟩) := by
  obtain ⟨revision, hrevision, heq⟩ := createInstance_eq_createRow hkind href
  rw [heq, createRow]
  simp only [hrow, hpublished, Bool.true_eq_false, ↓reduceIte]
  rw [hmembers revision hrevision]
  refine if_neg ?_
  rw [hstorable, hid, hbinding]
  decide

theorem replaceInstance_eq_ok {expectedVersion : Int}
    (h : replaceInstance value commandId expectedVersion s = .ok s') :
    ∃ row, s.instances value.key = some row ∧ (row.version : Int) = expectedVersion ∧
      s' = s.setInstance value.key ⟨value.version, value.data commandId⟩ := by
  rw [replaceInstance, ite_error_eq_ok'] at h
  obtain ⟨-, h⟩ := h
  cases hrow : s.instances value.key with
  | none =>
    simp only [hrow] at h
    cases h
  | some row =>
    simp only [hrow] at h
    rw [ite_error_eq_ok', ite_error_eq_ok', not_not] at h
    obtain ⟨hversion, -, h⟩ := h
    exact ⟨row, rfl, hversion, (Except.ok.inj h).symm⟩

variable [Representation] {v : AssignmentRecord}

/-- An assignment is inserted, or the one that is there is the same. -/
theorem createAssignment_eq_ok (h : createAssignment v s = .ok (d, s')) :
    (s.instances v.instanceKey).isSome = true ∧
    ((d = .replayed ∧ s' = s ∧ ∃ existing, s.findAssignment v.key = some existing ∧
        existing.digest = v.commandDigest) ∨
      (d = .appended ∧ s.findAssignment v.key = none ∧
        (v.lifecycle = .active → ∀ a ∈ s.assignments,
          a.value.activeFor v.instanceKey v.businessRole = false) ∧
        checkPredecessor v s = .ok () ∧ v.storable = true ∧
        s' = { s with assignments := s.assignments ++ [v.row] })) := by
  rw [createAssignment, ite_error_eq_ok', Bool.not_eq_true, Option.isNone_eq_false_iff] at h
  obtain ⟨hinstance, h⟩ := h
  refine ⟨hinstance, ?_⟩
  cases hfound : s.findAssignment v.key with
  | some existing =>
    simp only [hfound] at h
    rw [ite_error_eq_ok', not_not] at h
    cases h.2
    exact .inl ⟨rfl, rfl, existing, rfl, h.1⟩
  | none =>
    simp only [hfound] at h
    rw [ite_error_eq_ok', not_and] at h
    obtain ⟨hactive, h⟩ := h
    obtain ⟨⟨⟩, hpredecessor, h⟩ := bind_eq_ok.mp h
    rw [ite_error_eq_ok', Bool.not_eq_false] at h
    cases h.2
    refine .inr ⟨rfl, rfl, fun hlifecycle a ha => ?_, hpredecessor, h.1, rfl⟩
    have hnone := hactive hlifecycle
    rw [Bool.not_eq_true, List.any_eq_false] at hnone
    exact Bool.not_eq_true _ ▸ hnone a ha

end Tables

end Employee

end AgentPlatform
