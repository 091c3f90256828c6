/-
AgentPlatform/Employee/InstanceCalls.lean

The calls of the digital employee service, several of them at once.

A call is a few operations of the repository, each of them atomic; between two of them
the others do what they do. A transition reads the instance in one operation and
writes it in another, under the version that its caller names; an assignment is checked
against the instance in one and inserted in another. `Orderly` is what a run must
respect for this to be sound. **Main result:** `instances_kept`. In orderly runs
transitions follow the lifecycle, assignments are inserted on enabled instances, and
what was accepted is answered again while the instance is as it was.
-/
import AgentPlatform.Employee.Instances

namespace AgentPlatform

open Py

namespace Employee

/-! ### Calls -/

def required (value code : String) : Except String Unit :=
  if value = "" ∨ 200 < value.utf8ByteSize then .error code else .ok ()

/-- The table `allowed` of `transition`. -/
def Edge : InstanceLifecycle → InstanceLifecycle → Bool
  | .enabled, .disabled => true
  | .disabled, .enabled => true
  | .disabled, .retired => true
  | _, _ => false

/-- `a <= b` for datetimes; `none` is the `TypeError` of a naive and an aware one. -/
def notAfter (a b : LocalDatetime) : Option Bool :=
  match a.offset, b.offset with
  | none, none => some (a.micros ≤ b.micros)
  | some x, some y => some ((a.micros : Int) - x ≤ (b.micros : Int) - y)
  | _, _ => none

section Calls

variable [Unicodedata]

/-- The arguments of `create_instance`, with the time that it takes place at and what
its caller may do. -/
structure CreateInstance where
  scope : ScopeIdentity
  instanceId : OpaqueId
  definitionId : String
  definitionRevisionId : String
  ownerId : String
  organizationId : String
  commandId : String
  workspaceReference : Option String
  modelReference : Option String
  policyReferences : List String
  now : LocalDatetime
  permits : Permits

/-- The arguments of `transition`. -/
structure Transition where
  scope : ScopeIdentity
  instanceId : OpaqueId
  lifecycle : InstanceLifecycle
  expectedVersion : Int
  reobservationId : Option String
  now : LocalDatetime

inductive InstanceCall
  | create (c : CreateInstance)
  | transition (t : Transition)
  | assign (v : AssignmentRecord)

/-- What a call returns. -/
inductive Result
  | instance (value : InstanceRecord) (disposition : AppendDisposition)
  | transitioned (value : InstanceRecord)
  | assigned (disposition : AppendDisposition)

/-- Where a call stands between two operations, with its local values. -/
inductive Point
  | start
  | creating (value : InstanceRecord)
  | created (value : InstanceRecord) (disposition : AppendDisposition)
  | replacing (current : InstanceRecord)
  | updating (current : InstanceRecord) (commandId : String)
  | replaced (current : InstanceRecord)
  | assigning

def CreateInstance.key (c : CreateInstance) : InstanceKey := (c.scope, c.instanceId)

def Transition.key (t : Transition) : InstanceKey := (t.scope, t.instanceId)

/-- The record of a new instance. -/
def CreateInstance.value (c : CreateInstance) (definition : DefinitionReference) : InstanceRecord where
  scope := c.scope
  instanceId := c.instanceId
  version := 1
  definition := definition
  ownerId := c.ownerId
  organizationId := c.organizationId
  lifecycle := .enabled
  workspaceReference := c.workspaceReference
  modelReference := c.modelReference
  policyReferences := sortedBy id c.policyReferences.dedup
  createdAt := c.now
  updatedAt := c.now
  reobservationId := none

/-- What `create_instance` does before it asks the repository. -/
def CreateInstance.prepare (c : CreateInstance) (s : Ledger) : Except String InstanceRecord := do
  required c.definitionId "DEFINITION_ID_INVALID"
  let definition ← resolve c.permits c.scope c.definitionId c.definitionRevisionId s
  if definition.published = false ∨ definition.eligible = false then .error "DEFINITION_INELIGIBLE"
  else do
    required c.ownerId "OWNER_INVALID"
    required c.organizationId "ORGANIZATION_INVALID"
    required c.commandId "COMMAND_ID_INVALID"
    .ok (c.value definition)

/-- The record that a transition writes. -/
def Transition.value (t : Transition) (current : InstanceRecord) : InstanceRecord :=
  { current with
    version := current.version + 1
    lifecycle := t.lifecycle
    updatedAt := t.now
    reobservationId := t.reobservationId }

def checkAssignment (v : AssignmentRecord) : Except String Unit := do
  required v.assigneeId "ASSIGNEE_INVALID"
  required v.businessRole "BUSINESS_ROLE_INVALID"
  if v.version < 1 then .error "ASSIGNMENT_EFFECTIVE_PERIOD_INVALID"
  else match v.effectiveUntil with
    | none => .ok ()
    | some until_ => match notAfter until_ v.effectiveFrom with
      | none => .error "TypeError"
      | some true => .error "ASSIGNMENT_EFFECTIVE_PERIOD_INVALID"
      | some false => .ok ()

/-! ### What a call knows -/

/-- The stored revision that a creation refers to, with all that its authorization
needs. -/
structure Known (c : CreateInstance) (r : DefinitionReference) (s : Ledger) : Prop where
  row : ∃ row ∈ s.revisions (rowKey c.scope c.definitionId), row.revisionId = c.definitionRevisionId ∧
    ∃ revision agent, EmployeeRevision.fromRecord row.record = .ok revision ∧
      revision.primaryAgent = .ok agent ∧
      (revision.members.forM fun m => requirePermit c.permits "READ_MEMBER" m.resourceId) = .ok () ∧
      r = ⟨c.definitionId, c.definitionRevisionId, row.digest, true, true, "DIGITAL_EMPLOYEE_DEFINITION_V1",
        some agent.resourceId, some agent.revisionId, some agent.digest⟩
  permitted : requirePermit c.permits "INSTANTIATE" c.definitionId = .ok ()
  identifiers : isIdentifier c.definitionId = true ∧ isIdentifier c.definitionRevisionId = true
  required : required c.definitionId "DEFINITION_ID_INVALID" = .ok () ∧
    required c.ownerId "OWNER_INVALID" = .ok () ∧
    required c.organizationId "ORGANIZATION_INVALID" = .ok () ∧
    required c.commandId "COMMAND_ID_INVALID" = .ok ()

def CreateInstance.Published (c : CreateInstance) (s : Ledger) : Prop :=
  ∃ view, (s.rows (rowKey c.scope c.definitionId)).read c.definitionRevisionId = .ok view ∧
    view.published = true

variable {c : CreateInstance} {r : DefinitionReference} {s s' : Ledger}

/-- The definition is published and the caller may instantiate it. -/
theorem prepare_eq_ok {value : InstanceRecord} (h : c.prepare s = .ok value) :
    ∃ r, value = c.value r ∧ Known c r s := by
  obtain ⟨⟨⟩, hdefinition, h⟩ := bind_eq_ok.mp h
  obtain ⟨r, hresolve, h⟩ := bind_eq_ok.mp h
  rw [ite_error_eq_ok', not_or, Bool.not_eq_false, Bool.not_eq_false] at h
  obtain ⟨⟨hpublished, -⟩, h⟩ := h
  obtain ⟨⟨⟩, howner, h⟩ := bind_eq_ok.mp h
  obtain ⟨⟨⟩, horganization, h⟩ := bind_eq_ok.mp h
  obtain ⟨⟨⟩, hcommand, h⟩ := bind_eq_ok.mp h
  obtain ⟨⟨⟩, hpermit, hresolve⟩ := bind_eq_ok.mp hresolve
  obtain ⟨_, hid, hresolve⟩ := bind_eq_ok.mp hresolve
  obtain ⟨_, hrevisionId, hresolve⟩ := bind_eq_ok.mp hresolve
  obtain ⟨view, hview, hresolve⟩ := bind_eq_ok.mp hresolve
  obtain ⟨revision, hrevision, hresolve⟩ := bind_eq_ok.mp hresolve
  obtain ⟨⟨⟩, hmembers, hresolve⟩ := bind_eq_ok.mp hresolve
  obtain ⟨agent, hagent, hresolve⟩ := bind_eq_ok.mp hresolve
  obtain ⟨row, hrow, -, hrecord, hdigest, -, -⟩ := Rows.read_eq_ok hview
  cases hresolve
  have hmem := Rows.find_eq_some hrow
  refine ⟨_, (Except.ok.inj h).symm, ⟨row, hmem.1, hmem.2, revision, agent, hrecord ▸ hrevision, hagent,
    hmembers, ?_⟩, hpermit, ⟨(identifier_eq_ok.mp hid).1, (identifier_eq_ok.mp hrevisionId).1⟩,
    hdefinition, howner, horganization, hcommand⟩
  have hviewed : view.published = true := hpublished
  rw [referenceTo, hviewed, hdigest]

/-- What is known of the stored revision, in a sound ledger. -/
theorem Known.read (h : Known c r s) (hs : Sound s) : ∃ view revision agent,
    (s.rows (rowKey c.scope c.definitionId)).read c.definitionRevisionId = .ok view ∧
      EmployeeRevision.fromRecord view.revision = .ok revision ∧ revision.primaryAgent = .ok agent ∧
      (revision.members.forM fun m => requirePermit c.permits "READ_MEMBER" m.resourceId) = .ok () ∧
      r = ⟨c.definitionId, c.definitionRevisionId, view.digest, true, true, "DIGITAL_EMPLOYEE_DEFINITION_V1",
        some agent.resourceId, some agent.revisionId, some agent.digest⟩ := by
  obtain ⟨row, hrow, hid, revision, agent, hrevision, hagent, hmembers, rfl⟩ := h.row
  obtain ⟨view, hview, hrecord, hdigest, -⟩ := hs.read hrow
  rw [hid] at hview
  refine ⟨view, revision, agent, hview, hrecord ▸ hrevision, hagent, hmembers, ?_⟩
  rw [hdigest]

/-- **A creation that was accepted** is prepared again in the same way while its
definition is published. -/
theorem Known.prepare (h : Known c r s) (hs : Sound s) (hp : c.Published s) : c.prepare s = .ok (c.value r) := by
  obtain ⟨view, revision, agent, hview, hrevision, hagent, hmembers, hr⟩ := h.read hs
  obtain ⟨view', hview', hpublished⟩ := hp
  rw [hview] at hview'
  cases hview'
  have hresolve : resolve c.permits c.scope c.definitionId c.definitionRevisionId s = .ok r := by
    rw [resolve, h.permitted]
    refine bind_eq_ok.mpr ⟨(), rfl, bind_eq_ok.mpr ⟨_, identifier_eq_ok.mpr ⟨h.identifiers.1, rfl⟩,
      bind_eq_ok.mpr ⟨_, identifier_eq_ok.mpr ⟨h.identifiers.2, rfl⟩, bind_eq_ok.mpr ⟨view, hview,
        bind_eq_ok.mpr ⟨revision, hrevision, bind_eq_ok.mpr ⟨(), hmembers,
          bind_eq_ok.mpr ⟨agent, hagent, ?_⟩⟩⟩⟩⟩⟩⟩
    rw [hr, referenceTo, hpublished]
  obtain ⟨hdefinition, howner, horganization, hcommand⟩ := h.required
  rw [CreateInstance.prepare]
  refine bind_eq_ok.mpr ⟨(), hdefinition, bind_eq_ok.mpr ⟨r, hresolve, ?_⟩⟩
  rw [if_neg (by rw [hr]; simp)]
  exact bind_eq_ok.mpr ⟨(), howner, bind_eq_ok.mpr ⟨(), horganization, bind_eq_ok.mpr ⟨(), hcommand, rfl⟩⟩⟩

theorem Known.referenced (h : Known c r s) (hs : Sound s) :
    r.authorityKind = "DIGITAL_EMPLOYEE_DEFINITION_V1" ∧ ∃ view agent, Referenced r c.scope view agent s := by
  obtain ⟨view, revision, agent, hview, hrevision, hagent, -, rfl⟩ := h.read hs
  exact ⟨rfl, view, agent, hview, ⟨revision, hrevision, hagent⟩, rfl, rfl, rfl, rfl⟩

theorem Known.later (h : Known c r s) (hrevisions : ∀ k, s.revisions k <+: s'.revisions k) : Known c r s' := by
  obtain ⟨row, hrow, hrest⟩ := h.row
  exact ⟨⟨row, (hrevisions _).subset hrow, hrest⟩, h.permitted, h.identifiers, h.required⟩

/-! ### Operations -/

variable [Representation]

/-- One operation of a call: where it goes on, or what it returns, and the tables after
it. A call is at its own points only. -/
def advance (call : InstanceCall) (p : Point) (s : Tables) : Except String ((Point ⊕ Result) × Tables) :=
  match call, p with
  | .create c, .start => do
    let value ← c.prepare s.definitions
    .ok (.inl (.creating value), s)
  | .create c, .creating value => do
    let (disposition, s') ← createInstance value c.commandId s
    .ok (.inl (.created value disposition), s')
  | .create c, .created value disposition =>
    match s.getInstance c.key with
    | none => .error "AUTHORITATIVE_READBACK_FAILED"
    | some readback =>
      if disposition = .appended ∧ readback ≠ value then .error "AUTHORITATIVE_READBACK_FAILED"
      else .ok (.inr (.instance readback disposition), s)
  | .transition t, .start =>
    match s.getInstance t.key with
    | none => .error "INSTANCE_NOT_FOUND"
    | some current =>
      if Edge current.lifecycle t.lifecycle = false then .error "INVALID_INSTANCE_LIFECYCLE_TRANSITION"
      else .ok (.inl (.replacing current), s)
  | .transition _, .replacing current => .ok (.inl (.updating current (replaceCommand s current.key)), s)
  | .transition t, .updating current commandId => do
    let s' ← replaceInstance (t.value current) commandId t.expectedVersion s
    .ok (.inl (.replaced current), s')
  | .transition t, .replaced current =>
    if s.getInstance t.key ≠ some (t.value current) then .error "AUTHORITATIVE_READBACK_FAILED"
    else .ok (.inr (.transitioned (t.value current)), s)
  | .assign v, .start =>
    match s.getInstance v.instanceKey with
    | none => .error "INSTANCE_NOT_FOUND"
    | some current =>
      if current.lifecycle ≠ .enabled then .error "INSTANCE_NOT_ASSIGNABLE"
      else do
        checkAssignment v
        .ok (.inl .assigning, s)
  | .assign v, .assigning => do
    let (disposition, s') ← createAssignment v s
    .ok (.inr (.assigned disposition), s')
  | _, _ => .error "unreachable"

/-! ### Worlds -/

/-- The tables, the call that each process is in, and what calls have returned. -/
structure InstanceWorld (ι : Type) where
  tables : Tables
  calls : ι → Option (InstanceCall × Point)
  answers : List (InstanceCall × Result)

variable {ι : Type} [DecidableEq ι]

/-- Process `i` is now at `x`, or in no call. -/
def InstanceWorld.put (w : InstanceWorld ι) (i : ι) (x : Option (InstanceCall × Point)) : InstanceWorld ι :=
  { w with calls := Function.update w.calls i x }

omit [Representation] in
theorem InstanceWorld.put_calls_eq_some {w : InstanceWorld ι} {i j : ι} {x : Option (InstanceCall × Point)}
    {y : InstanceCall × Point} (h : (w.put i x).calls j = some y) :
    (j = i ∧ x = some y) ∨ (j ≠ i ∧ w.calls j = some y) := by
  by_cases hj : j = i
  · subst hj
    have hself : (w.put j x).calls j = x := Function.update_self ..
    exact .inl ⟨rfl, hself.symm.trans h⟩
  · have hother : (w.put i x).calls j = w.calls j := Function.update_of_ne hj ..
    exact .inr ⟨hj, hother.symm.trans h⟩

/-- The surroundings: a command on employee definitions, or a change of the tables of
bound resources. -/
def Surroundings (s s' : Tables) : Prop :=
  ((∃ call bound view, Call.body bound s.definitions call = .ok (view, s'.definitions)) ∨
      s'.definitions = s.definitions) ∧
    s'.instances = s.instances ∧ s'.bindings = s.bindings ∧ s'.assignments = s.assignments

/-- One operation of a process, or a step of the surroundings. A call that raises or
crashes stops. -/
inductive InstanceStep : InstanceWorld ι → InstanceWorld ι → Prop
  | start {w : InstanceWorld ι} {i : ι} {call : InstanceCall} (idle : w.calls i = none) :
      InstanceStep w (w.put i (some (call, .start)))
  | go {w : InstanceWorld ι} {i : ι} {call : InstanceCall} {p p' : Point} {s : Tables}
      (at_p : w.calls i = some (call, p)) (h : advance call p w.tables = .ok (.inl p', s)) :
      InstanceStep w ({ w with tables := s }.put i (some (call, p')))
  | answer {w : InstanceWorld ι} {i : ι} {call : InstanceCall} {p : Point} {r : Result} {s : Tables}
      (at_p : w.calls i = some (call, p)) (h : advance call p w.tables = .ok (.inr r, s)) :
      InstanceStep w ({ w with tables := s, answers := w.answers ++ [(call, r)] }.put i none)
  | stop {w : InstanceWorld ι} {i : ι} : InstanceStep w (w.put i none)
  | other {w : InstanceWorld ι} {s : Tables} (h : Surroundings w.tables s) :
      InstanceStep w { w with tables := s }

/-- The step of process `i` is the update of a transition. -/
def Updates (w w' : InstanceWorld ι) (i : ι) (t : Transition) (current : InstanceRecord) : Prop :=
  (∃ commandId, w.calls i = some (.transition t, .updating current commandId)) ∧
    w'.calls i = some (.transition t, .replaced current)

/-- A transition writes under the version that it has read, and while no assignment of
its instance stands between its check and its insertion. -/
structure Orderly (w w' : InstanceWorld ι) : Prop where
  expected : ∀ i t current, Updates w w' i t current → t.expectedVersion = current.version
  alone : ∀ i t current, Updates w w' i t current →
    ∀ j v, w.calls j = some (.assign v, .assigning) → v.instanceKey ≠ t.key

/-! ### What a call in flight relies on -/

/-- The instance of a creation: a row that is still as it was created where its version
is the first one. -/
structure CreatedFrom (c : CreateInstance) (value : InstanceRecord) (s : Tables) : Prop where
  known : ∃ r, value = c.value r ∧ Known c r s.definitions
  row : ∃ row, s.instances c.key = some row ∧ 1 ≤ row.version ∧
    (row.version = 1 → row.record = (value.data c.commandId).comparable row.record)

/-- The instance that a transition has read: it is the stored one where the version is. -/
structure Seen (t : Transition) (current : InstanceRecord) (s : Tables) : Prop where
  key : current.key = t.key
  edge : Edge current.lifecycle t.lifecycle = true
  row : ∃ row, s.instances t.key = some row ∧ current.version ≤ row.version ∧
    (row.version = current.version → row.value t.key = current)

/-- What holds between two operations of a call. -/
def InFlight (s : Tables) : InstanceCall → Point → Prop
  | .create c, .creating value => ∃ r, value = c.value r ∧ Known c r s.definitions
  | .create c, .created value _ => CreatedFrom c value s
  | .transition t, .replacing current => Seen t current s
  | .transition t, .updating current _ => Seen t current s
  | .assign v, .assigning => checkAssignment v = .ok () ∧
      ∃ row, s.instances v.instanceKey = some row ∧ row.record.lifecycle = .enabled
  | _, _ => True

/-- What holds of a call that has returned. -/
def Accepted (s : Tables) : InstanceCall → Prop
  | .create c => ∃ value, CreatedFrom c value s
  | .transition _ => True
  | .assign v => checkAssignment v = .ok () ∧ (s.instances v.instanceKey).isSome = true ∧
      ∃ row, s.findAssignment v.key = some row ∧ row.digest = v.commandDigest

/-- What any operation leaves of the tables: revisions, rows of instances, of which the
version may be higher, and assignments. -/
structure Later (s s' : Tables) : Prop where
  revisions : ∀ k, s.definitions.revisions k <+: s'.definitions.revisions k
  instances : ∀ key row, s.instances key = some row →
    ∃ row', s'.instances key = some row' ∧ (row' = row ∨ row.version < row'.version)
  assignments : s.assignments <+: s'.assignments

section Stability

variable {s s' : Tables} {c : CreateInstance} {t : Transition} {v : AssignmentRecord}
  {value current : InstanceRecord} {call : InstanceCall} {p : Point}

omit [Representation] in
theorem CreatedFrom.later (h : CreatedFrom c value s) (hl : Later s s') : CreatedFrom c value s' := by
  obtain ⟨⟨r, hvalue, hknown⟩, row, hrow, hpositive, hsame⟩ := h
  obtain ⟨row', hrow', hnext⟩ := hl.instances c.key row hrow
  refine ⟨⟨r, hvalue, hknown.later hl.revisions⟩, row', hrow', ?_⟩
  rcases hnext with rfl | hlt
  · exact ⟨hpositive, hsame⟩
  · exact ⟨by omega, fun hone => by omega⟩

omit [Representation] in
theorem Seen.later (h : Seen t current s) (hl : Later s s') : Seen t current s' := by
  obtain ⟨hkey, hedge, row, hrow, hle, hsame⟩ := h
  obtain ⟨row', hrow', hnext⟩ := hl.instances t.key row hrow
  refine ⟨hkey, hedge, row', hrow', ?_⟩
  rcases hnext with rfl | hlt
  · exact ⟨hle, hsame⟩
  · exact ⟨by omega, fun heq => by omega⟩

omit [Representation] in
theorem findAssignment_later {key : AssignmentKey} {row : AssignmentRow}
    (h : s.findAssignment key = some row) (hl : Later s s') : s'.findAssignment key = some row := by
  obtain ⟨rest, hrest⟩ := hl.assignments
  rw [Tables.findAssignment] at h ⊢
  rw [← hrest, List.find?_append, h]
  rfl

theorem Accepted.later (h : Accepted s call) (hl : Later s s') : Accepted s' call := by
  cases call with
  | create c =>
    obtain ⟨value, hcreated⟩ := h
    exact ⟨value, hcreated.later hl⟩
  | transition t => trivial
  | assign v =>
    obtain ⟨hchecked, hinstance, row, hrow, hdigest⟩ := h
    obtain ⟨old, hold⟩ := Option.isSome_iff_exists.mp hinstance
    obtain ⟨new, hnew, -⟩ := hl.instances _ old hold
    exact ⟨hchecked, by rw [hnew]; rfl, row, findAssignment_later hrow hl, hdigest⟩

omit [Representation] in
/-- What a call relies on stays, where the instance of an assignment that was checked
does. -/
theorem InFlight.later (h : InFlight s call p) (hl : Later s s')
    (hassign : ∀ v, call = .assign v → p = .assigning → s'.instances v.instanceKey = s.instances v.instanceKey) :
    InFlight s' call p := by
  cases call with
  | create c =>
    cases p with
    | creating value =>
      obtain ⟨r, hvalue, hknown⟩ := h
      exact ⟨r, hvalue, hknown.later hl.revisions⟩
    | created value d => exact CreatedFrom.later h hl
    | _ => trivial
  | transition t =>
    cases p with
    | replacing current => exact Seen.later h hl
    | updating current commandId => exact Seen.later h hl
    | _ => trivial
  | assign v =>
    cases p with
    | assigning =>
      obtain ⟨hchecked, row, hrow, henabled⟩ := h
      exact ⟨hchecked, row, (hassign v rfl rfl).trans hrow, henabled⟩
    | _ => trivial

end Stability

/-! ### What an operation does -/

/-- The effect of an operation on the tables. -/
inductive Effect : InstanceCall → Point → Tables → Point ⊕ Result → Tables → Prop
  | reads {call : InstanceCall} {p : Point} {s : Tables} {o : Point ⊕ Result} : Effect call p s o s
  | creates {c : CreateInstance} {value : InstanceRecord} {s : Tables}
      (new : s.instances value.key = none) :
      Effect (.create c) (.creating value) s (.inl (.created value .appended))
        (s.addInstance value.key ⟨value.version, value.data c.commandId⟩)
  | updates {t : Transition} {current : InstanceRecord} {commandId : String} {s : Tables} {row : InstanceRow}
      (found : s.instances current.key = some row) (expected : (row.version : Int) = t.expectedVersion) :
      Effect (.transition t) (.updating current commandId) s (.inl (.replaced current))
        (s.setInstance current.key ⟨current.version + 1, (t.value current).data commandId⟩)
  | assigns {v : AssignmentRecord} {s : Tables} (found : (s.instances v.instanceKey).isSome = true)
      (new : s.findAssignment v.key = none)
      (active : v.lifecycle = .active → ∀ a ∈ s.assignments,
        a.value.activeFor v.instanceKey v.businessRole = false)
      (predecessor : checkPredecessor v s = .ok ()) :
      Effect (.assign v) .assigning s (.inr (.assigned .appended))
        { s with assignments := s.assignments ++ [v.row] }

section Operations

variable {s s' : Tables} {call : InstanceCall} {p p' : Point} {r : Result} {o : Point ⊕ Result}

omit [Representation] in
theorem getInstance_eq_some {key : InstanceKey} {current : InstanceRecord}
    (h : s.getInstance key = some current) : ∃ row, s.instances key = some row ∧ row.value key = current :=
  Option.map_eq_some_iff.mp h

/-- What is known of a call after an operation. -/
def Promised (s : Tables) (call : InstanceCall) : Point ⊕ Result → Prop
  | .inl p => InFlight s call p
  | .inr _ => Accepted s call

/-- **One operation** reads, or writes one row, and gives what the next one relies on. -/
theorem advance_spec (h : advance call p s = .ok (o, s')) :
    Effect call p s o s' ∧ (InFlight s call p → Promised s' call o) := by
  cases call with
  | create c =>
    cases p with
    | start =>
      obtain ⟨value, hprepare, h⟩ := bind_eq_ok.mp h
      cases h
      exact ⟨.reads, fun _ => prepare_eq_ok hprepare⟩
    | creating value =>
      obtain ⟨⟨d, t⟩, hcreate, h⟩ := bind_eq_ok.mp h
      cases h
      obtain ⟨-, _, _, -, ⟨rfl, rfl, row, hrow, hversion, hsame⟩ | ⟨rfl, hnone, rfl⟩⟩ :=
        createInstance_eq_ok hcreate
      · refine ⟨.reads, ?_⟩
        rintro ⟨r, rfl, hknown⟩
        have hone : row.version = 1 := hversion
        exact ⟨⟨r, rfl, hknown⟩, row, hrow, hone.ge, fun _ => hsame⟩
      · refine ⟨.creates hnone, ?_⟩
        rintro ⟨r, rfl, hknown⟩
        exact ⟨⟨r, rfl, hknown⟩, _, if_pos rfl, le_refl 1, fun _ => rfl⟩
    | created value d =>
      simp only [advance] at h
      split at h
      · cases h
      · rw [ite_error_eq_ok'] at h
        cases h.2
        exact ⟨.reads, fun hin => ⟨value, hin⟩⟩
    | _ => cases h
  | transition t =>
    cases p with
    | start =>
      simp only [advance] at h
      split at h
      · cases h
      · next current hcurrent =>
        rw [ite_error_eq_ok', Bool.not_eq_false] at h
        obtain ⟨hedge, h⟩ := h
        cases h
        obtain ⟨row, hrow, rfl⟩ := getInstance_eq_some hcurrent
        exact ⟨.reads, fun _ => ⟨rfl, hedge, row, hrow, le_refl _, fun _ => rfl⟩⟩
    | replacing current =>
      cases h
      exact ⟨.reads, id⟩
    | updating current commandId =>
      obtain ⟨t', hreplace, h⟩ := bind_eq_ok.mp h
      cases h
      obtain ⟨row, hrow, hexpected, rfl⟩ := replaceInstance_eq_ok hreplace
      exact ⟨.updates hrow hexpected, fun _ => trivial⟩
    | replaced current =>
      simp only [advance] at h
      rw [ite_error_eq_ok'] at h
      cases h.2
      exact ⟨.reads, fun _ => trivial⟩
    | _ => cases h
  | assign v =>
    cases p with
    | start =>
      simp only [advance] at h
      split at h
      · cases h
      · next current hcurrent =>
        rw [ite_error_eq_ok', not_not] at h
        obtain ⟨henabled, h⟩ := h
        obtain ⟨⟨⟩, hchecked, h⟩ := bind_eq_ok.mp h
        cases h
        obtain ⟨row, hrow, rfl⟩ := getInstance_eq_some hcurrent
        exact ⟨.reads, fun _ => ⟨hchecked, row, hrow, henabled⟩⟩
    | assigning =>
      obtain ⟨⟨d, t⟩, hassign, h⟩ := bind_eq_ok.mp h
      cases h
      obtain ⟨hinstance, ⟨rfl, rfl, row, hrow, hdigest⟩ | ⟨rfl, hnew, hactive, hpredecessor, -, rfl⟩⟩ :=
        createAssignment_eq_ok hassign
      · exact ⟨.reads, fun hin => ⟨hin.1, hinstance, row, hrow, hdigest⟩⟩
      · refine ⟨.assigns hinstance hnew hactive hpredecessor, fun hin =>
          ⟨hin.1, hinstance, v.row, ?_, rfl⟩⟩
        rw [Tables.findAssignment] at hnew ⊢
        have hown : decide (v.row.value.key = v.key) = true := decide_eq_true rfl
        rw [List.find?_append, hnew, List.find?_singleton, if_pos hown]
        rfl
    | _ => cases h

theorem advance_effect (h : advance call p s = .ok (o, s')) : Effect call p s o s' := (advance_spec h).1

/-- What the next point of a call relies on. -/
theorem inFlight_of_advance (hin : InFlight s call p) (h : advance call p s = .ok (.inl p', s')) :
    InFlight s' call p' := (advance_spec h).2 hin

/-- What is known of a call that returns. -/
theorem accepted_of_advance (hin : InFlight s call p) (h : advance call p s = .ok (.inr r, s')) :
    Accepted s' call := (advance_spec h).2 hin

omit [Representation] in
/-- **A transition that writes under the version it has read** follows the lifecycle. -/
theorem update_edge {t : Transition} {current : InstanceRecord} {commandId : String} {row : InstanceRow}
    (hseen : Seen t current s) (hrow : s.instances t.key = some row)
    (hversion : row.version = current.version) :
    Edge row.record.lifecycle ((t.value current).data commandId).lifecycle = true := by
  obtain ⟨-, hedge, row', hrow', -, hsame⟩ := hseen
  rw [hrow] at hrow'
  cases hrow'
  have hlifecycle : row.record.lifecycle = current.lifecycle :=
    congrArg InstanceRecord.lifecycle (hsame hversion)
  rw [hlifecycle]
  exact hedge

/-- What a step of an orderly run does to the instances. -/
def Follows (s s' : Tables) : Prop :=
  ∀ key row, s.instances key = some row → ∃ row', s'.instances key = some row' ∧
    (row' = row ∨ (Edge row.record.lifecycle row'.record.lifecycle = true ∧ row'.version = row.version + 1))

omit [Representation] in
theorem Follows.refl (s : Tables) : Follows s s := fun _ row h => ⟨row, h, .inl rfl⟩

theorem Effect.follows (h : Effect call p s o s') (hin : InFlight s call p)
    (hexpected : ∀ t current commandId, call = .transition t → p = .updating current commandId →
      o = .inl (.replaced current) → t.expectedVersion = current.version) : Follows s s' := by
  cases h with
  | reads => exact .refl s
  | @creates c value s hnew =>
    intro key row hrow
    have hne : key ≠ value.key := by
      rintro rfl
      rw [hrow] at hnew
      cases hnew
    exact ⟨row, (if_neg hne).trans hrow, .inl rfl⟩
  | @updates t current commandId s old hfound hversion =>
    have hkey : current.key = t.key := hin.key
    have hcurrent : old.version = current.version := by
      have heq := hversion.trans (hexpected t current commandId rfl rfl rfl)
      exact_mod_cast heq
    rw [hkey] at hfound ⊢
    intro key row hrow
    by_cases hk : key = t.key
    · subst hk
      rw [hrow] at hfound
      cases hfound
      refine ⟨_, if_pos rfl, .inr ⟨update_edge hin hrow hcurrent, ?_⟩⟩
      rw [hcurrent]
    · exact ⟨row, (if_neg hk).trans hrow, .inl rfl⟩
  | assigns => exact .refl s

theorem Effect.later (h : Effect call p s o s') (hf : Follows s s') : Later s s' := by
  refine ⟨?_, fun key row hrow => ?_, ?_⟩
  · cases h <;> exact fun _ => List.prefix_refl _
  · obtain ⟨row', hrow', hnext⟩ := hf key row hrow
    exact ⟨row', hrow', hnext.imp_right fun hnext => by omega⟩
  · cases h with
    | assigns => exact List.prefix_append _ _
    | _ => exact List.prefix_refl _

/-- An operation that changes an instance that there is is the update of a transition. -/
theorem Effect.instance_changed (h : Effect call p s o s') {key : InstanceKey} (hsome : (s.instances key).isSome = true)
    (hne : s'.instances key ≠ s.instances key) :
    ∃ t current commandId, call = .transition t ∧ p = .updating current commandId ∧
      o = .inl (.replaced current) ∧ current.key = key := by
  cases h with
  | reads => exact absurd rfl hne
  | @creates c value s hnew =>
    have hk : key = value.key := by
      by_contra hk
      exact hne (if_neg hk)
    rw [hk, hnew] at hsome
    cases hsome
  | @updates t current commandId s row hfound hversion =>
    have hk : key = current.key := by
      by_contra hk
      exact hne (if_neg hk)
    exact ⟨t, current, commandId, rfl, rfl, rfl, hk.symm⟩
  | assigns => exact absurd rfl hne

end Operations

/-! ### Orderly runs -/

/-- At most one assignment is active for a role of an instance. -/
def OneActive (s : Tables) : Prop :=
  ∀ key role, ∀ a ∈ s.assignments, ∀ b ∈ s.assignments, a.value.activeFor key role = true →
    b.value.activeFor key role = true → a = b

/-- What holds of the world in an orderly run. -/
structure Steady (w : InstanceWorld ι) : Prop where
  definitions : Sound w.tables.definitions
  inFlight : ∀ i call p, w.calls i = some (call, p) → InFlight w.tables call p
  answered : ∀ a ∈ w.answers, Accepted w.tables a.1
  active : OneActive w.tables

/-- An assignment is inserted while its instance is enabled. -/
def InsertsEnabled (s s' : Tables) : Prop :=
  ∀ a, s'.assignments = s.assignments ++ [a] →
    ∃ row, s.instances a.value.instanceKey = some row ∧ row.record.lifecycle = .enabled

section Steps

variable {w w' : InstanceWorld ι} {s s' : Tables} {call : InstanceCall} {p : Point} {o : Point ⊕ Result}

omit [Representation] in
theorem oneActive_concat {v : AssignmentRow} (h : OneActive s)
    (hv : v.value.lifecycle = .active → ∀ a ∈ s.assignments,
      a.value.activeFor v.value.instanceKey v.value.businessRole = false) :
    OneActive { s with assignments := s.assignments ++ [v] } := by
  have hfree : ∀ {key role}, v.value.activeFor key role = true → ∀ a ∈ s.assignments,
      a.value.activeFor key role = false := by
    intro key role hactive
    simp only [AssignmentRecord.activeFor, Bool.and_eq_true, decide_eq_true_eq] at hactive
    obtain ⟨⟨rfl, hlifecycle⟩, rfl⟩ := hactive
    exact hv hlifecycle
  intro key role a ha b hb hactive hactive'
  rcases List.mem_append.mp ha with ha | ha <;> rcases List.mem_append.mp hb with hb | hb
  · exact h key role a ha b hb hactive hactive'
  · rw [List.mem_singleton.mp hb] at hactive'
    rw [hfree hactive' a ha] at hactive
    cases hactive
  · rw [List.mem_singleton.mp ha] at hactive
    rw [hfree hactive b hb] at hactive'
    cases hactive'
  · rw [List.mem_singleton.mp ha, List.mem_singleton.mp hb]

theorem Effect.oneActive (h : Effect call p s o s') (ha : OneActive s) : OneActive s' := by
  cases h with
  | assigns found new active predecessor => exact oneActive_concat ha active
  | _ => exact ha

theorem Effect.insertsEnabled (h : Effect call p s o s') (hin : InFlight s call p) : InsertsEnabled s s' := by
  intro a hadded
  cases h with
  | assigns found new active predecessor =>
    have heq := List.append_cancel_left hadded
    cases heq
    exact hin.2
  | _ =>
    have hlength := congrArg List.length hadded
    rw [List.length_append, List.length_singleton] at hlength
    exact absurd hlength.symm (Nat.succ_ne_self _)

/-- An operation keeps what all other calls rely on. -/
theorem Steady.advance {i : ι} {x : Option (InstanceCall × Point)} (h : Steady w)
    (hat : w.calls i = some (call, p)) (heffect : Effect call p w.tables o s')
    (hfollows : Follows w.tables s')
    (halone : ∀ t current commandId, call = .transition t → p = .updating current commandId →
      o = .inl (.replaced current) → ∀ j v, w.calls j = some (.assign v, .assigning) → v.instanceKey ≠ t.key)
    (hx : ∀ y, x = some y → InFlight s' y.1 y.2) {answers : List (InstanceCall × Result)}
    (hanswers : ∀ a ∈ answers, a ∈ w.answers ∨ Accepted s' a.1) :
    Steady ({ w with tables := s', answers := answers }.put i x) := by
  have hlater := heffect.later hfollows
  refine ⟨?_, fun j call' p' hj => ?_, fun a ha => ?_, heffect.oneActive h.active⟩
  · cases heffect with
    | _ => exact h.definitions
  · rcases InstanceWorld.put_calls_eq_some hj with ⟨-, hj'⟩ | ⟨-, hj'⟩
    · exact hx (call', p') hj'
    · have hj' : w.calls j = some (call', p') := hj'
      refine (h.inFlight j call' p' hj').later hlater fun v hcall hp => ?_
      subst hcall hp
      by_contra hne
      obtain ⟨row, hrow, -⟩ := (h.inFlight j _ _ hj').2
      obtain ⟨t, current, commandId, rfl, rfl, rfl, hkey⟩ := heffect.instance_changed (by rw [hrow]; rfl) hne
      have hseen : Seen t current w.tables := h.inFlight i _ _ hat
      exact halone t current commandId rfl rfl rfl j v hj' (hkey.symm.trans hseen.key)
  · rcases hanswers a ha with ha | ha
    · exact (h.answered a ha).later hlater
    · exact ha

/-- A step of an orderly run. -/
def OrderlyStep (w w' : InstanceWorld ι) : Prop := InstanceStep w w' ∧ Orderly w w'

omit [Representation] in
theorem insertsEnabled_of_eq (h : s'.assignments = s.assignments) : InsertsEnabled s s' := by
  intro a hadded
  have hlength := congrArg List.length (h.symm.trans hadded)
  rw [List.length_append, List.length_singleton] at hlength
  exact absurd hlength.symm (Nat.succ_ne_self _)

theorem Steady.put {i : ι} {x : Option (InstanceCall × Point)} (h : Steady w)
    (hx : ∀ y, x = some y → InFlight w.tables y.1 y.2) : Steady (w.put i x) := by
  refine ⟨h.definitions, fun j call p hj => ?_, h.answered, h.active⟩
  rcases InstanceWorld.put_calls_eq_some hj with ⟨-, hj⟩ | ⟨-, hj⟩
  · exact hx (call, p) hj
  · exact h.inFlight j call p hj

omit [Representation] in
/-- The surroundings leave instances and assignments alone, and revisions stay. -/
theorem Surroundings.later (h : Surroundings s s') (hs : Sound s.definitions) :
    Sound s'.definitions ∧ Later s s' := by
  obtain ⟨hdefinitions, hinstances, -, hassignments⟩ := h
  have hrows : ∀ key row, s.instances key = some row →
      ∃ row', s'.instances key = some row' ∧ (row' = row ∨ row.version < row'.version) :=
    fun key row hrow => ⟨row, by rw [hinstances, hrow], .inl rfl⟩
  have hprefix : s.assignments <+: s'.assignments := hassignments ▸ List.prefix_refl _
  rcases hdefinitions with ⟨call, bound, view, hbody⟩ | heq
  · refine ⟨Call.body_sound hs hbody, fun k => ?_, hrows, hprefix⟩
    obtain ⟨-, -, -, -, -, ⟨-, -, -, hsame⟩ | ⟨-, -, -, -, -, hrevisions⟩⟩ := Call.body_eq_ok hbody
    · exact hsame ▸ List.prefix_refl _
    · exact hrevisions k
  · exact ⟨heq ▸ hs, fun k => heq ▸ List.prefix_refl _, hrows, hprefix⟩

/-- **One step** of an orderly run. -/
theorem Steady.step (h : Steady w) (hs : OrderlyStep w w') :
    Steady w' ∧ Follows w.tables w'.tables ∧ InsertsEnabled w.tables w'.tables := by
  obtain ⟨hstep, horderly⟩ := hs
  cases hstep with
  | @start i call hidle =>
    refine ⟨h.put ?_, .refl _, insertsEnabled_of_eq rfl⟩
    rintro _ ⟨⟩
    cases call <;> trivial
  | @go i call p p' s hat hadvance =>
    have heffect := advance_effect hadvance
    have hin := h.inFlight i call p hat
    have hupdates : ∀ t current commandId, call = .transition t → p = .updating current commandId →
        (.inl p' : Point ⊕ Result) = .inl (.replaced current) →
        Updates w ({ w with tables := s }.put i (some (call, p'))) i t current := by
      rintro t current commandId rfl rfl ⟨⟩
      exact ⟨⟨commandId, hat⟩, Function.update_self ..⟩
    have hfollows := heffect.follows hin fun t current commandId hcall hp ho =>
      horderly.expected i t current (hupdates t current commandId hcall hp ho)
    refine ⟨h.advance hat heffect hfollows ?_ ?_ fun a ha => .inl ha, hfollows, heffect.insertsEnabled hin⟩
    · exact fun t current commandId hcall hp ho => horderly.alone i t current (hupdates t current commandId hcall hp ho)
    · rintro _ ⟨⟩
      exact inFlight_of_advance hin hadvance
  | @answer i call p r s hat hadvance =>
    have heffect := advance_effect hadvance
    have hin := h.inFlight i call p hat
    have hfollows := heffect.follows hin fun _ _ _ _ _ ho => absurd ho Sum.inr_ne_inl
    refine ⟨h.advance hat heffect hfollows (fun _ _ _ _ _ ho => absurd ho Sum.inr_ne_inl)
      (fun y hy => absurd hy.symm (Option.some_ne_none y)) fun a ha => ?_, hfollows,
      heffect.insertsEnabled hin⟩
    rcases List.mem_append.mp ha with ha | ha
    · exact .inl ha
    · rw [List.mem_singleton.mp ha]
      exact .inr (accepted_of_advance hin hadvance)
  | @stop i =>
    exact ⟨h.put fun y hy => absurd hy.symm (Option.some_ne_none y), .refl _, insertsEnabled_of_eq rfl⟩
  | @other s henv =>
    obtain ⟨hsound, hlater⟩ := henv.later h.definitions
    obtain ⟨-, hinstances, -, hassignments⟩ := henv
    refine ⟨⟨hsound, fun j call p hj => ?_, fun a ha => (h.answered a ha).later hlater, ?_⟩, ?_,
      insertsEnabled_of_eq hassignments⟩
    · exact (h.inFlight j call p hj).later hlater fun v _ _ => by rw [hinstances]
    · show OneActive s
      rw [OneActive, hassignments]
      exact h.active
    · intro key row hrow
      exact ⟨row, by rw [← hrow]; exact congrFun hinstances key, .inl rfl⟩

/-- At the start there are definitions, and no instances yet. -/
structure Initial (w : InstanceWorld ι) : Prop where
  definitions : Sound w.tables.definitions
  instances : ∀ key, w.tables.instances key = none
  assignments : w.tables.assignments = []
  calls : ∀ i, w.calls i = none
  answers : w.answers = []

omit [DecidableEq ι] in
theorem Initial.steady (h : Initial w) : Steady w := by
  refine ⟨h.definitions, fun i call p hi => ?_, fun a ha => ?_, fun key role a ha => ?_⟩
  · rw [h.calls i] at hi
    cases hi
  · rw [h.answers] at ha
    exact absurd ha List.not_mem_nil
  · rw [h.assignments] at ha
    exact absurd ha List.not_mem_nil

theorem steady_of_run {w₀ : InstanceWorld ι} (h : Steady w₀) (hrun : Relation.ReflTransGen OrderlyStep w₀ w) :
    Steady w := by
  induction hrun with
  | refl => exact h
  | tail _ hs ih => exact (ih.step hs).1

end Steps

/-! ### Calls that come again -/

/-- The same call at another time. -/
def CreateInstance.at_ (c : CreateInstance) (now : LocalDatetime) : CreateInstance := { c with now := now }

/-- What each operation of an accepted creation does when the call comes again, at any
time: the definition is resolved in the same way while it is published, and the row is
the same exactly where its version is the first one. -/
def CreationAgain (c : CreateInstance) (s : Tables) : Prop :=
  ∃ r row, s.instances c.key = some row ∧ ∀ now,
    (c.Published s.definitions → advance (.create (c.at_ now)) .start s
      = .ok (.inl (.creating ((c.at_ now).value r)), s)) ∧
    (advance (.create (c.at_ now)) (.creating ((c.at_ now).value r)) s
      = if row.version = 1 then .ok (.inl (.created ((c.at_ now).value r) .replayed), s)
        else .error "INSTANCE_IDENTITY_CONFLICT") ∧
    advance (.create (c.at_ now)) (.created ((c.at_ now).value r) .replayed) s
      = .ok (.inr (.instance (row.value c.key) .replayed), s)

/-- What each operation of an accepted assignment does when the call comes again: it is
the same exactly where the instance is enabled. -/
def AssignmentAgain (v : AssignmentRecord) (s : Tables) : Prop :=
  ∃ row, s.instances v.instanceKey = some row ∧
    (advance (.assign v) .start s = if row.record.lifecycle = .enabled then .ok (.inl .assigning, s)
      else .error "INSTANCE_NOT_ASSIGNABLE") ∧
    advance (.assign v) .assigning s = .ok (.inr (.assigned .replayed), s)

section Again

variable {s : Tables} {c : CreateInstance} {v : AssignmentRecord}

theorem creationAgain (hs : Sound s.definitions) (h : Accepted s (.create c)) : CreationAgain c s := by
  obtain ⟨value, ⟨r, rfl, hknown⟩, row, hrow, -, hsame⟩ := h
  refine ⟨r, row, hrow, fun now => ⟨fun hpublished => ?_, ?_, ?_⟩⟩
  · have hknown' : Known (c.at_ now) r s.definitions :=
      ⟨hknown.row, hknown.permitted, hknown.identifiers, hknown.required⟩
    have hprepare : (c.at_ now).prepare s.definitions = .ok ((c.at_ now).value r) :=
      hknown'.prepare hs hpublished
    rw [advance, hprepare]
    rfl
  · obtain ⟨hkind, view, agent, href⟩ := hknown.referenced hs
    have hcreate : createInstance ((c.at_ now).value r) c.commandId s =
        if row.version = 1 ∧ row.record = ((c.value r).data c.commandId).comparable row.record then
          .ok (.replayed, s)
        else .error "INSTANCE_IDENTITY_CONFLICT" := createInstance_again hkind href hrow
    show (createInstance ((c.at_ now).value r) c.commandId s >>= _) = _
    rw [hcreate]
    by_cases hone : row.version = 1
    · rw [if_pos ⟨hone, hsame hone⟩, if_pos hone]
      rfl
    · rw [if_neg fun h => hone h.1, if_neg hone]
      rfl
  · have hget : s.getInstance (c.at_ now).key = some (row.value c.key) := by
      have hrow' : s.instances (c.at_ now).key = some row := hrow
      rw [Tables.getInstance, hrow']
      rfl
    simp only [advance, hget, reduceCtorEq, false_and, ↓reduceIte]

theorem assignmentAgain (h : Accepted s (.assign v)) : AssignmentAgain v s := by
  obtain ⟨hchecked, hinstance, found, hfound, hdigest⟩ := h
  obtain ⟨row, hrow⟩ := Option.isSome_iff_exists.mp hinstance
  refine ⟨row, hrow, ?_, ?_⟩
  · have hget : s.getInstance v.instanceKey = some (row.value v.instanceKey) := by
      rw [Tables.getInstance, hrow]
      rfl
    simp only [advance, hget, hchecked]
    by_cases henabled : row.record.lifecycle = .enabled
    · rw [if_pos henabled]
      exact if_neg (not_not.mpr henabled)
    · rw [if_neg henabled]
      exact if_pos henabled
  · have hreplay : createAssignment v s = .ok (.replayed, s) := by
      rw [createAssignment, hrow, hfound]
      simp only [Option.isNone_some, Bool.false_eq_true, ↓reduceIte, hdigest, ne_eq, not_true_eq_false]
    rw [advance, hreplay]
    rfl

end Again

/-- **Instances and assignments in orderly runs.** Every step of the run leaves an
instance alone or takes it along an edge of the lifecycle and raises its version by one;
an assignment is inserted while its instance is enabled; at most one assignment is active
for a role; and what was accepted is answered again, as far as the instance is as it
was. -/
theorem instances_kept {w₀ w : InstanceWorld ι} (h : Initial w₀)
    (hrun : Relation.ReflTransGen OrderlyStep w₀ w) :
    (∀ w', OrderlyStep w w' → Follows w.tables w'.tables ∧ InsertsEnabled w.tables w'.tables) ∧
    OneActive w.tables ∧
    (∀ c r, (.create c, r) ∈ w.answers → CreationAgain c w.tables) ∧
    ∀ v r, (.assign v, r) ∈ w.answers → AssignmentAgain v w.tables := by
  have hsteady := steady_of_run h.steady hrun
  exact ⟨fun w' hs => (hsteady.step hs).2, hsteady.active,
    fun c r hr => creationAgain hsteady.definitions (hsteady.answered _ hr),
    fun v r hr => assignmentAgain (hsteady.answered _ hr)⟩

end Calls

namespace Sample

local instance : Whitespace := .kelvin

/-! ### A published definition -/

/-- What all tables of bound resources answer: an agent that is published. -/
def agentRecord : ResourceRecord where
  revisions := [⟨"agent-1", some agent.digest, some "PUBLISHED"⟩]
  publishedRevisionId := some "agent-1"
  enabled := true
  archived := false
  lifecycleState := none

/-- The members of any reading of the revision are eligible. -/
theorem members_eligible {revision : EmployeeRevision}
    (h : EmployeeRevision.fromRecord letterK.record = .ok revision) :
    validateMembers (fun _ => some agentRecord) revision.members = .ok () := by
  rw [letterK.fromRecord_record] at h
  cases h
  decide +kernel

/-- The decision with which the ledger goes from version `n` to the next. -/
def decision (n : Nat) (action : FactAction) : DecideCommand :=
  ⟨scope, "employee", "employee-1", letterK.digest, action.value, n, "decision", action.value⟩

def decided (n : Nat) (action : FactAction) (s : Ledger) : Ledger :=
  (s.setVersion key (n + 1)).addFact ((decision n action).fact key action)

/-- The ledger holds the revision, with this history. -/
structure Stage (s : Ledger) (history : List FactAction) : Prop where
  sound : Sound s
  revisions : s.revisions key = [letterK.row]
  version : s.definitions key = some history.length
  spells : s.history key "employee-1" = history

theorem Stage.view {s : Ledger} {history : List FactAction} (h : Stage s history) :
    ∃ view, (s.rows key).read "employee-1" = .ok view ∧ view.revision = letterK.record ∧
      view.digest = letterK.digest ∧ view.aggregateVersion = history.length ∧
      view.facts.map Prod.fst = history ∧
      view.published = decide (lastOf FactAction.isPublication history = some .publish) := by
  have hrow : letterK.row ∈ s.revisions key := by
    rw [h.revisions]
    exact List.mem_singleton.mpr rfl
  obtain ⟨view, hview, hrecord, hdigest, -⟩ := h.sound.read hrow
  have hview' : (s.rows key).read "employee-1" = .ok view := hview
  obtain ⟨_, -, hversion, -, -, hfacts, hpublished⟩ := Rows.read_eq_ok hview'
  have hhistory : ((s.rows key).factsAt "employee-1").map Fact.action = history := by
    rw [h.sound.factsAt]
    exact h.spells
  rw [hhistory] at hfacts hpublished
  have hversion' : s.definitions key = some view.aggregateVersion := hversion
  rw [h.version] at hversion'
  exact ⟨view, hview', hrecord, hdigest, (Option.some.inj hversion').symm, hfacts, hpublished⟩

/-- What is allowed after the history is decided. -/
theorem Stage.next {s : Ledger} {history : List FactAction} {action : FactAction} (h : Stage s history)
    (hnamed : FactAction.ofValue action.value = some action)
    (hallowed : allowed history (lastOf FactAction.isPublication history = some .publish) action = true)
    (hids : isIdentifier action.value = true)
    (hfree : s.factTaken ((decision history.length action).fact key action) = false) :
    Stage (decided history.length action s) (history ++ [action]) := by
  obtain ⟨view, hview, hrecord, hdigest, hversion, hfacts, hpublished⟩ := h.view
  have hdecided : Decided (decision history.length action) (fun _ => some agentRecord) key view action s
      (decided history.length action s) := by
    have hid : isIdentifier "decision" = true := by decide
    refine ⟨hdigest, congrArg _ hversion, hnamed, ?_, fun _ => ?_, hid, hids, hfree, ?_⟩
    · rw [hfacts, hpublished]
      exact hallowed
    · exact ⟨letterK.ordered, hrecord ▸ letterK.fromRecord_record, members_eligible letterK.fromRecord_record⟩
    · rw [hversion]
      rfl
  have hrows : (decided history.length action s).factsOf key
      = s.factsOf key ++ [(decision history.length action).fact key action] :=
    congrArg Rows.facts (rows_addFact (s.setVersion key (history.length + 1))
      (rfl : ((decision history.length action).fact key action).key = key))
  refine ⟨hdecided.sound h.sound hview, h.revisions, ?_, ?_⟩
  · rw [List.length_append]
    rfl
  · have hspells := h.spells
    rw [Ledger.history] at hspells ⊢
    rw [hrows, List.filter_append, List.map_append, hspells]
    rfl

theorem stage_opened : Stage (opened letterK) [.create] :=
  ⟨created.sound sound_empty, rfl, rfl, rfl⟩

/-- The ledger in which the revision is published. -/
def published : Ledger :=
  decided 3 .publish (decided 2 .approve (decided 1 .validate (opened letterK)))

theorem stage_published : Stage published [.create, .validate, .approve, .publish] := by
  have hvalidated : Stage (decided 1 .validate (opened letterK)) [.create, .validate] :=
    stage_opened.next rfl rfl (by decide) (by decide)
  have happroved : Stage (decided 2 .approve (decided 1 .validate (opened letterK)))
      [.create, .validate, .approve] := hvalidated.next rfl rfl (by decide) (by decide)
  exact happroved.next rfl rfl (by decide) (by decide)

/-! ### A run -/

/-- How Python writes the one assignment below. -/
local instance : Representation where
  text _ := "AssignmentRecord(scope=ScopeIdentity(namespace='default', security_domain='prod'), "
    ++ "assignment_id=AssignmentId(value='assignment'), instance_id=DigitalEmployeeInstanceId(value='instance'), "
    ++ "assignee_id='assignee', business_role='role', lifecycle=<AssignmentLifecycle.ACTIVE: 'ACTIVE'>, "
    ++ "effective_from=datetime.datetime(1, 1, 1, 0, 0, tzinfo=datetime.timezone.utc), effective_until=None, "
    ++ "version=1, command_id='command', predecessor_assignment_id=None)"

def opaqueText (value : String)
    (h : decide (normalize value = value ∧ value ≠ "" ∧ value.utf8ByteSize ≤ maxIdBytes) = true := by
      exact Eq.refl true) : OpaqueId :=
  ⟨value, (of_decide_eq_true h).1, (of_decide_eq_true h).2.1, (of_decide_eq_true h).2.2⟩

/-- An instance of the published definition is created. -/
def employee : CreateInstance where
  scope := scope
  instanceId := opaqueText "instance"
  definitionId := "employee"
  definitionRevisionId := "employee-1"
  ownerId := "owner"
  organizationId := "organization"
  commandId := "command"
  workspaceReference := none
  modelReference := none
  policyReferences := []
  now := ⟨0, some 0⟩
  permits _ _ := true

def definition : DefinitionReference where
  definitionId := "employee"
  revisionId := "employee-1"
  digest := letterK.row.digest
  published := true
  eligible := true
  authorityKind := "DIGITAL_EMPLOYEE_DEFINITION_V1"
  primaryAgentId := some "agent"
  primaryAgentRevisionId := some "agent-1"
  primaryAgentDigest := some agent.digest

def empty : Tables := ⟨published, fun _ _ _ => some agentRecord, fun _ => none, fun _ => none, []⟩

def row : InstanceRow := ⟨1, (employee.value definition).data "command"⟩

def created₁ : Tables := empty.addInstance employee.key row

theorem known : Known employee definition published where
  row := by
    refine ⟨letterK.row, ?_, rfl, letterK.ordered, agent, letterK.fromRecord_record, rfl, rfl, rfl⟩
    have hrevisions : published.revisions key = [letterK.row] := stage_published.revisions
    show letterK.row ∈ published.revisions key
    rw [hrevisions]
    exact List.mem_singleton.mpr rfl
  permitted := rfl
  identifiers := by decide
  required := by decide

theorem definition_published : employee.Published published := by
  obtain ⟨view, hview, -, -, -, -, hpublished⟩ := stage_published.view
  exact ⟨view, hview, hpublished⟩

theorem creates : createInstance (employee.value definition) "command" empty = .ok (.appended, created₁) := by
  obtain ⟨hkind, view, agent, href⟩ := known.referenced stage_published.sound
  obtain ⟨view', hview', hrecord, -, -, -, hpublished⟩ := stage_published.view
  have hsame : view = view' := Except.ok.inj (href.read.symm.trans hview')
  refine createInstance_new hkind href rfl ?_ (fun revision hrevision => ?_) (by decide) (by decide) rfl
  · rw [hsame, hpublished]
    decide
  · rw [hsame, hrecord] at hrevision
    exact members_eligible hrevision

/-- No instance yet, and nobody calls. -/
def world₀ : InstanceWorld Bool := ⟨empty, fun _ => none, []⟩

theorem initial : Initial world₀ := ⟨stage_published.sound, fun _ => rfl, rfl, fun _ => rfl, rfl⟩

theorem run_creation : ∃ w, Relation.ReflTransGen OrderlyStep world₀ w ∧ w.tables = created₁ ∧
    (∀ i, w.calls i = none) ∧ ∃ r, (.create employee, r) ∈ w.answers := by
  have horderly : ∀ {w w' : InstanceWorld Bool}, (∀ i t p, w.calls i ≠ some (.transition t, p)) →
      Orderly w w' := by
    intro w w' hnone
    have hupdates : ∀ i t current, ¬ Updates w w' i t current :=
      fun i t current ⟨⟨commandId, hat⟩, _⟩ => hnone i t _ hat
    exact ⟨fun i t current h => absurd h (hupdates i t current),
      fun i t current h => absurd h (hupdates i t current)⟩
  have hprepare : advance (.create employee) .start empty
      = .ok (.inl (.creating (employee.value definition)), empty) := by
    show (employee.prepare published >>= _) = _
    rw [known.prepare stage_published.sound definition_published]
    rfl
  have hcreate : advance (.create employee) (.creating (employee.value definition)) empty
      = .ok (.inl (.created (employee.value definition) .appended), created₁) := by
    show (createInstance (employee.value definition) "command" empty >>= _) = _
    rw [creates]
    rfl
  have hreadback : advance (.create employee) (.created (employee.value definition) .appended) created₁
      = .ok (.inr (.instance (employee.value definition) .appended), created₁) := by
    have hget : created₁.getInstance employee.key = some (employee.value definition) := rfl
    simp only [advance, hget, ne_eq, not_true_eq_false, and_false, ↓reduceIte]
  refine ⟨_, .tail (.tail (.tail (.single ⟨.start (i := true) rfl, horderly ?_⟩)
    ⟨.go (i := true) rfl hprepare, horderly ?_⟩) ⟨.go (i := true) rfl hcreate, horderly ?_⟩)
    ⟨.answer (i := true) rfl hreadback, horderly ?_⟩, rfl, ?_, _, List.mem_singleton.mpr rfl⟩
  · rintro (_ | _) t p h <;> cases h
  · rintro (_ | _) t p h <;> cases h
  · rintro (_ | _) t p h <;> cases h
  · rintro (_ | _) t p h <;> cases h
  · rintro (_ | _) <;> rfl

/-- The instance is created, and the same call comes again. -/
theorem instances_kept_of_creation : ∃ w : InstanceWorld Bool, OneActive w.tables ∧
    CreationAgain employee w.tables := by
  obtain ⟨w, hrun, -, -, r, hr⟩ := run_creation
  obtain ⟨-, hactive, hcreations, -⟩ := instances_kept initial hrun
  exact ⟨w, hactive, hcreations employee r hr⟩

/-! ### An assignment while the instance is disabled -/

def assignment : AssignmentRecord where
  scope := scope
  assignmentId := opaqueText "assignment"
  instanceId := opaqueText "instance"
  assigneeId := "assignee"
  businessRole := "role"
  lifecycle := .active
  effectiveFrom := ⟨0, some 0⟩
  effectiveUntil := none
  version := 1
  commandId := "command"
  predecessorAssignmentId := none

def disabling : Transition := ⟨scope, opaqueText "instance", .disabled, 1, none, ⟨1, some 0⟩⟩

/-- The instance as it is created. -/
def enabled : InstanceRecord := employee.value definition

def disabledRow : InstanceRow := ⟨2, (disabling.value enabled).data "command"⟩

def disabled₁ : Tables := created₁.setInstance employee.key disabledRow

/-- **An assignment is inserted on a disabled instance**: the instance is disabled after
the check of the assignment. -/
theorem inserted_while_disabled : ¬ ∀ w₀ w w' : InstanceWorld Bool, Initial w₀ →
    Relation.ReflTransGen InstanceStep w₀ w → InstanceStep w w' → InsertsEnabled w.tables w'.tables := by
  intro hclaim
  obtain ⟨w, hrun, htables, hcalls, -⟩ := run_creation
  have hcreated : Relation.ReflTransGen InstanceStep world₀ w :=
    Relation.ReflTransGen.mono (fun _ _ h => h.1) _ _ hrun
  have hcheck : advance (.assign assignment) .start created₁ = .ok (.inl .assigning, created₁) := by
    have hget : created₁.getInstance assignment.instanceKey = some enabled := rfl
    have hchecked : checkAssignment assignment = .ok () := by decide
    have hlifecycle : enabled.lifecycle = .enabled := rfl
    simp only [advance, hget, hlifecycle, ne_eq, not_true_eq_false, ↓reduceIte, hchecked]
    rfl
  have hread : advance (.transition disabling) .start created₁ = .ok (.inl (.replacing enabled), created₁) := by
    have hget : created₁.getInstance disabling.key = some enabled := rfl
    have hedge : Edge enabled.lifecycle disabling.lifecycle = true := rfl
    simp only [advance, hget, hedge, Bool.true_eq_false, ↓reduceIte]
  have hcommand : advance (.transition disabling) (.replacing enabled) created₁
      = .ok (.inl (.updating enabled "command"), created₁) := rfl
  have hwrite : advance (.transition disabling) (.updating enabled "command") created₁
      = .ok (.inl (.replaced enabled), disabled₁) := by
    have hreplace : replaceInstance (disabling.value enabled) "command" 1 created₁ = .ok disabled₁ := by
      have hrow : created₁.instances (disabling.value enabled).key = some row := rfl
      have hid : ¬(disabling.value enabled).definition.revisionId = "" := by decide
      have hversion : ¬((row.version : Int) ≠ 1) := by decide
      have hstorable : ¬InstanceRow.storable ⟨2, (disabling.value enabled).data "command"⟩ = false := by decide
      rw [replaceInstance, if_neg hid, hrow]
      exact (if_neg hversion).trans (if_neg hstorable)
    show (replaceInstance (disabling.value enabled) "command" 1 created₁ >>= _) = _
    rw [hreplace]
    rfl
  have hinsert : advance (.assign assignment) .assigning disabled₁
      = .ok (.inr (.assigned .appended), { disabled₁ with assignments := [assignment.row] }) := by
    have hassign : createAssignment assignment disabled₁
        = .ok (.appended, { disabled₁ with assignments := [assignment.row] }) := by
      have hrow : disabled₁.instances assignment.instanceKey = some disabledRow := rfl
      have hstorable : ¬assignment.storable = false := by decide
      have hfree : ¬(assignment.lifecycle = .active ∧ disabled₁.assignments.any
          (fun a => a.value.activeFor assignment.instanceKey assignment.businessRole)) := by
        rintro ⟨-, ⟨⟩⟩
      have hnone : disabled₁.findAssignment assignment.key = none := rfl
      have hfirst : checkPredecessor assignment disabled₁ = .ok () := rfl
      rw [createAssignment, hrow, hnone]
      simp only [Option.isNone_some, Bool.false_eq_true, ↓reduceIte, if_neg hfree, hfirst, if_neg hstorable]
      rfl
    rw [advance, hassign]
    rfl
  obtain ⟨tables, calls, answers⟩ := w
  subst htables
  -- the assignment is checked, the instance is disabled, and only then the row is added
  have hrun := hcreated.tail (@InstanceStep.start _ _ Bool _ _ false (.assign assignment) (hcalls false))
  have hrun := hrun.tail (.go (i := false) rfl hcheck)
  have hrun := hrun.tail (@InstanceStep.start _ _ Bool _ _ true (.transition disabling) (hcalls true))
  have hrun := hrun.tail (.go (i := true) rfl hread)
  have hrun := hrun.tail (.go (i := true) rfl hcommand)
  have hrun := hrun.tail (.go (i := true) rfl hwrite)
  obtain ⟨stored, hstored, henabled⟩ :=
    hclaim _ _ _ initial hrun (.answer (i := false) rfl hinsert) assignment.row rfl
  have hdisabled : disabled₁.instances assignment.instanceKey = some disabledRow := rfl
  cases hdisabled.symm.trans hstored
  cases henabled

end Sample

end Employee

end AgentPlatform
