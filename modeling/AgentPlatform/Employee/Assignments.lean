/-
AgentPlatform/Employee/Assignments.lean

The chains of assignments of an instance, and the two checks that judge whether an
assignment is active: `validate_plan_identity`, when a plan is approved, and
`validate_lineage`, when an execution starts.

Rows of assignments are only added. An assignment is ended by a second row, of
lifecycle ENDED, that names it as its predecessor; but each check looks at the row of
the assignment itself, and so does the conflict of active assignments. An ending
takes effect where the row that it ends is not the active one. **Main result:**
`ended_takes_effect`.
-/
import AgentPlatform.Employee.InstanceCalls

namespace AgentPlatform

open Py

namespace Employee

section Assignments

variable [Unicodedata]

/-! ### The checks -/

/-- The arguments of `validate_plan_identity`. -/
structure PlanIdentity where
  scope : ScopeIdentity
  instanceId : OpaqueId
  assignmentId : AssignmentId
  definitionId : String
  revisionId : String
  digest : String
  authorized : Bool

/-- `effective_from > now or (effective_until is not None and effective_until <= now)`. -/
def outsidePeriod (v : AssignmentRecord) (now : LocalDatetime) : Except String Bool :=
  match notAfter v.effectiveFrom now with
  | none => .error "TypeError"
  | some false => .ok true
  | some true => match v.effectiveUntil with
    | none => .ok false
    | some until_ => match notAfter until_ now with
      | none => .error "TypeError"
      | some ended => .ok ended

/-- The rows that `validate_plan_identity` selects. -/
def Tables.joined (s : Tables) (key : InstanceKey) (assignmentId : AssignmentId) :
    Option (InstanceRow × AssignmentRow) :=
  match s.instances key, s.findAssignment (key.1, assignmentId) with
  | some row, some a => if a.value.instanceId = key.2 then some (row, a) else none
  | _, _ => none

def validatePlanIdentity (p : PlanIdentity) (now : LocalDatetime) (s : Tables) : Except String Unit :=
  if p.authorized = false then .error "EMPLOYEE_NOT_FOUND"
  else match s.joined (p.scope, p.instanceId) p.assignmentId with
    | none => .error "EMPLOYEE_NOT_FOUND"
    | some (row, a) =>
      if row.record.definition.definitionId ≠ p.definitionId
          ∨ row.record.definition.revisionId ≠ p.revisionId
          ∨ row.record.definition.digest ≠ p.digest
          ∨ row.record.definition.authorityKind ≠ "DIGITAL_EMPLOYEE_DEFINITION_V1"
          ∨ row.record.lifecycle ≠ .enabled
          ∨ a.value.lifecycle ≠ .active then
        .error "EMPLOYEE_PLAN_BINDING_MISMATCH"
      else do
        let outside ← outsidePeriod a.value now
        if outside then .error "EMPLOYEE_PLAN_BINDING_MISMATCH" else .ok ()

/-- What `validate_lineage` is called with, as far as it concerns the employee and the
assignment, and the two readings of the clock. -/
structure StartRequest where
  scope : ScopeIdentity
  instanceId : OpaqueId
  assignmentId : AssignmentId
  authorizationDecisionId : String
  startedAt : LocalDatetime
  checkedAt : LocalDatetime

/-- The employee of `validate_lineage`: the instance is enabled and its definition, as it
is bound, published. -/
def validateEmployee (p : StartRequest) (s : Tables) : Except String Unit :=
  match s.instances (p.scope, p.instanceId), s.bindings (p.scope, p.instanceId) with
  | some row, some (definitionId, revisionId, digest) =>
    if row.record.definition.authorityKind ≠ "DIGITAL_EMPLOYEE_DEFINITION_V1"
        ∨ (row.record.definition.definitionId, row.record.definition.revisionId, row.record.definition.digest)
          ≠ (definitionId, revisionId, digest) then
      .error "EMPLOYEE_LINEAGE_CORRUPT"
    else do
      let definition ← (s.definitions.rows (rowKey p.scope definitionId)).read revisionId
      if definition.digest ≠ digest ∨ definition.published = false ∨ row.record.lifecycle ≠ .enabled then
        .error "EMPLOYEE_NOT_EXECUTABLE"
      else do
        let revision ← EmployeeRevision.fromRecord definition.revision
        validateMembers (fun m => s.resources p.scope m.kind m.resourceId) revision.members
  | _, _ => .error "EXACT_EMPLOYEE_LINEAGE_REQUIRED"

/-- The assignment of `validate_lineage`. -/
def validateAssignment (p : StartRequest) (s : Tables) : Except String Unit :=
  match s.findAssignment (p.scope, p.assignmentId) with
  | none => .error "ASSIGNMENT_NOT_FOUND"
  | some a =>
    if a.value.instanceId ≠ p.instanceId then .error "ASSIGNMENT_NOT_FOUND"
    else if a.value.effectiveFrom.offset = none
        ∨ a.value.effectiveUntil.any (·.offset.isNone)
        ∨ a.value.lifecycle ≠ .active
        ∨ notAfter a.value.effectiveFrom p.startedAt ≠ some true
        ∨ a.value.effectiveUntil.any (notAfter · p.checkedAt = some true) then
      .error "ASSIGNMENT_NOT_ACTIVE"
    else .ok ()

/-- `validate_lineage`: the employee, the assignment, and then `rest`, which judges the
attempt, the plan and its approval. -/
def validateLineage {β : Type} (rest : Tables → Except String β) (p : StartRequest) (s : Tables) :
    Except String β :=
  if p.authorizationDecisionId = "" then .error "EXECUTION_NOT_FOUND"
  else do
    validateEmployee p s
    validateAssignment p s
    rest s

/-- The row of an assignment is not an active one. -/
def Inactive (s : Tables) (key : AssignmentKey) : Prop :=
  ∀ a, s.findAssignment key = some a → a.value.lifecycle ≠ .active

section Checks

variable {s : Tables} {a : AssignmentRow} {row : InstanceRow}

/-- **The plan check** accepts assignments whose own row is active. -/
theorem validatePlanIdentity_inactive {p : PlanIdentity} {now : LocalDatetime}
    (h : Inactive s (p.scope, p.assignmentId)) : validatePlanIdentity p now s ≠ .ok () := by
  intro hok
  rw [validatePlanIdentity, ite_error_eq_ok'] at hok
  obtain ⟨-, hok⟩ := hok
  cases hjoined : s.joined (p.scope, p.instanceId) p.assignmentId with
  | none =>
    simp only [hjoined] at hok
    cases hok
  | some found =>
    obtain ⟨row, a⟩ := found
    simp only [hjoined, ite_error_eq_ok', not_or, not_not] at hok
    obtain ⟨⟨-, -, -, -, -, hactive⟩, -⟩ := hok
    refine h a ?_ hactive
    rw [Tables.joined] at hjoined
    split at hjoined
    · next hrow hfound =>
      split at hjoined
      · cases hjoined
        exact hfound
      · cases hjoined
    · cases hjoined

/-- **The start check** accepts assignments whose own row is active. -/
theorem validateLineage_inactive {β : Type} {rest : Tables → Except String β} {p : StartRequest} {b : β}
    (h : Inactive s (p.scope, p.assignmentId)) : validateLineage rest p s ≠ .ok b := by
  intro hok
  rw [validateLineage, ite_error_eq_ok'] at hok
  obtain ⟨⟨⟩, -, hok⟩ := bind_eq_ok.mp hok.2
  obtain ⟨⟨⟩, hassignment, -⟩ := bind_eq_ok.mp hok
  rw [validateAssignment] at hassignment
  split at hassignment
  · cases hassignment
  · next a hfound =>
    simp only [ite_error_eq_ok', not_or, not_not] at hassignment
    obtain ⟨-, ⟨-, -, hactive, -⟩, -⟩ := hassignment
    exact h a hfound hactive

end Checks

/-! ### An instance that never had an assignment -/

def Tables.without (s : Tables) (key : AssignmentKey) : Tables :=
  { s with assignments := s.assignments.filter (·.value.key ≠ key) }

variable {s s' : Tables} {key k : AssignmentKey}

theorem findAssignment_without (h : k ≠ key) : (s.without key).findAssignment k = s.findAssignment k := by
  rw [Tables.findAssignment, Tables.findAssignment, Tables.without, List.find?_filter]
  congr 1
  funext a
  by_cases hk : a.value.key = k
  · simp [hk, h]
  · simp [hk]

theorem findAssignment_without_self : (s.without key).findAssignment key = none := by
  rw [Tables.findAssignment, List.find?_eq_none]
  intro a ha
  have hne := (List.mem_filter.mp ha).2
  simpa using hne

theorem mem_of_findAssignment {a : AssignmentRow} (h : s.findAssignment k = some a) :
    a ∈ s.assignments ∧ a.value.key = k := by
  refine ⟨List.mem_of_find?_eq_some h, ?_⟩
  have hkey := List.find?_some h
  exact of_decide_eq_true hkey

/-- Each assignment is stored once. -/
def Unique (s : Tables) : Prop := ∀ a ∈ s.assignments, s.findAssignment a.value.key = some a

theorem checkPredecessor_without {v : AssignmentRecord} (h : checkPredecessor v (s.without key) = .ok ()) :
    checkPredecessor v s = .ok () := by
  rw [checkPredecessor] at h ⊢
  cases hp : v.predecessorAssignmentId with
  | none => rfl
  | some predecessor =>
    rw [hp] at h
    by_cases hk : (v.scope, predecessor) = key
    · subst hk
      simp only [findAssignment_without_self] at h
      cases h
    · simp only [findAssignment_without hk] at h
      exact h

variable [Representation]

/-- **An assignment that is not active is no obstacle** to others. -/
theorem createAssignment_without {v : AssignmentRecord} {t : Tables} (hunique : Unique s)
    (hinactive : Inactive s key) (hkey : v.key ≠ key)
    (h : createAssignment v (s.without key) = .ok (.appended, t)) :
    createAssignment v s = .ok (.appended, { s with assignments := s.assignments ++ [v.row] }) := by
  obtain ⟨hinstance, ⟨hd, -⟩ | ⟨-, hnew, hactive, hpredecessor, hstorable, -⟩⟩ := createAssignment_eq_ok h
  · cases hd
  · have hinstance' : (s.instances v.instanceKey).isNone = false := Option.isNone_eq_false_iff.mpr hinstance
    have hnew' : s.findAssignment v.key = none := (findAssignment_without hkey).symm.trans hnew
    have hfree : ¬(v.lifecycle = .active ∧
        s.assignments.any (fun a => a.value.activeFor v.instanceKey v.businessRole) = true) := by
      rintro ⟨hlifecycle, hany⟩
      obtain ⟨a, ha, hafor⟩ := List.any_eq_true.mp hany
      by_cases hk : a.value.key = key
      · have hfound : s.findAssignment key = some a := hk ▸ hunique a ha
        refine hinactive a hfound ?_
        simp only [AssignmentRecord.activeFor, Bool.and_eq_true, decide_eq_true_eq] at hafor
        exact hafor.1.2
      · have hkept : a ∈ (s.without key).assignments := List.mem_filter.mpr ⟨ha, by simpa using hk⟩
        rw [hactive hlifecycle a hkept] at hafor
        cases hafor
    rw [createAssignment, hinstance', hnew']
    simp only [Bool.false_eq_true, ↓reduceIte, if_neg hfree, checkPredecessor_without hpredecessor, hstorable,
      Bool.true_eq_false]
    rfl

/-! ### Runs -/

/-- The tables, and the assignments that were accepted. -/
structure AssignmentWorld where
  tables : Tables
  accepted : List AssignmentRecord

/-- A call of `create_assignment` that is accepted, or a step that leaves assignments
alone. A call that is refused changes nothing. -/
inductive AssignmentStep : AssignmentWorld → AssignmentWorld → Prop
  | assign {w : AssignmentWorld} {v : AssignmentRecord} {d : AppendDisposition} {t : Tables}
      (h : createAssignment v w.tables = .ok (d, t)) :
      AssignmentStep w ⟨t, w.accepted ++ [v]⟩
  | other {w : AssignmentWorld} {t : Tables} (h : t.assignments = w.tables.assignments) :
      AssignmentStep w { w with tables := t }

/-- What an accepted call must respect: its predecessor has no successor yet, and an
ending names one whose own row is not active. A call that is replayed is the one that
is stored; no other has its digest. -/
structure Tidy (v : AssignmentRecord) (s : Tables) : Prop where
  same : ∀ a, s.findAssignment v.key = some a → a.digest = v.commandDigest → a.value = v
  first : s.findAssignment v.key = none → ∀ p, v.predecessorAssignmentId = some p →
    ∀ a ∈ s.assignments, a.value.scope = v.scope → a.value.predecessorAssignmentId ≠ some p
  ended : s.findAssignment v.key = none → v.lifecycle = .ended →
    ∀ p, v.predecessorAssignmentId = some p → Inactive s (v.scope, p)

/-- A step whose call, if it is one, is tidy. -/
def TidyStep (w w' : AssignmentWorld) : Prop :=
  AssignmentStep w w' ∧ ∀ v, w'.accepted = w.accepted ++ [v] → Tidy v w.tables

/-- An assignment that names a predecessor, and the one that it names. -/
structure Succeeds (b a : AssignmentRow) : Prop where
  named : b.value.predecessorAssignmentId = some a.value.assignmentId
  scope : b.value.scope = a.value.scope
  sameInstance : b.value.instanceId = a.value.instanceId
  version : b.value.version = a.value.version + 1

/-- What holds of the tables in a tidy run. -/
structure Chained (s : Tables) : Prop where
  unique : Unique s
  linked : ∀ b ∈ s.assignments, ∀ p, b.value.predecessorAssignmentId = some p →
    ∃ a, s.findAssignment (b.value.scope, p) = some a ∧ Succeeds b a ∧
      (b.value.lifecycle = .ended → a.value.lifecycle ≠ .active)
  single : ∀ b ∈ s.assignments, ∀ c ∈ s.assignments, b.value.scope = c.value.scope →
    b.value.predecessorAssignmentId = c.value.predecessorAssignmentId →
    b.value.predecessorAssignmentId ≠ none → b = c

/-- What holds of the world in a tidy run. -/
structure InChains (w : AssignmentWorld) : Prop where
  chained : Chained w.tables
  stored : ∀ v ∈ w.accepted, ∃ a ∈ w.tables.assignments, a.value = v

section Steps

variable {w w' : AssignmentWorld} {v : AssignmentRecord}

omit [Representation] in
theorem findAssignment_concat {row a : AssignmentRow} (h : s.findAssignment k = some a) :
    ({ s with assignments := s.assignments ++ [row] } : Tables).findAssignment k = some a := by
  rw [Tables.findAssignment] at h ⊢
  rw [List.find?_append, h]
  rfl

omit [Representation] in
theorem checkPredecessor_eq_ok {p : AssignmentId} (h : checkPredecessor v s = .ok ())
    (hp : v.predecessorAssignmentId = some p) : ∃ a, s.findAssignment (v.scope, p) = some a ∧
      a.value.instanceId = v.instanceId ∧ v.version = a.value.version + 1 := by
  rw [checkPredecessor, hp] at h
  cases hfound : s.findAssignment (v.scope, p) with
  | none =>
    simp only [hfound] at h
    cases h
  | some a =>
    simp only [hfound, ite_error_eq_ok', not_or, not_not] at h
    obtain ⟨⟨hinstance, hversion⟩, -⟩ := h
    exact ⟨a, rfl, hinstance, by omega⟩

/-- **A tidy insertion** keeps the chains. -/
theorem Chained.insert (h : Chained s) (hnew : s.findAssignment v.key = none)
    (hpredecessor : checkPredecessor v s = .ok ()) (htidy : Tidy v s) :
    Chained { s with assignments := s.assignments ++ [v.row] } := by
  have hmem : ∀ {a}, a ∈ s.assignments ++ [v.row] → a ∈ s.assignments ∨ a = v.row := fun ha =>
    (List.mem_append.mp ha).imp_right List.mem_singleton.mp
  constructor
  case unique =>
    intro a ha
    rcases hmem ha with ha | rfl
    · exact findAssignment_concat (h.unique a ha)
    · rw [Tables.findAssignment] at hnew ⊢
      have hown : decide (v.row.value.key = v.row.value.key) = true := decide_eq_true rfl
      have hnew' : List.find? (fun a => decide (a.value.key = v.row.value.key)) s.assignments = none := hnew
      rw [List.find?_append, hnew', List.find?_singleton, if_pos hown]
      rfl
  case linked =>
    intro b hb p hp
    rcases hmem hb with hb | rfl
    · obtain ⟨a, ha, hrest⟩ := h.linked b hb p hp
      exact ⟨a, findAssignment_concat ha, hrest⟩
    · obtain ⟨a, ha, hinstance, hversion⟩ := checkPredecessor_eq_ok hpredecessor hp
      have hkey : (a.value.scope, a.value.assignmentId) = (v.scope, p) := (mem_of_findAssignment ha).2
      obtain ⟨hscope, rfl⟩ := Prod.ext_iff.mp hkey
      exact ⟨a, findAssignment_concat ha, ⟨hp, hscope.symm, hinstance.symm, hversion⟩,
        fun hended => htidy.ended hnew hended _ hp a ha⟩
  case single =>
    have hold : ∀ b ∈ s.assignments, b.value.scope = v.scope →
        b.value.predecessorAssignmentId = v.predecessorAssignmentId → v.predecessorAssignmentId = none := by
      intro b hb hscope hsame
      by_contra hne
      obtain ⟨p, hp⟩ := Option.ne_none_iff_exists'.mp hne
      exact htidy.first hnew p hp b hb hscope (hsame.trans hp)
    intro b hb c hc hscope hsame hne
    rcases hmem hb with hb | rfl <;> rcases hmem hc with hc | rfl
    · exact h.single b hb c hc hscope hsame hne
    · exact absurd (hsame.trans (hold b hb hscope hsame)) hne
    · exact absurd (hold c hc hscope.symm hsame.symm) hne
    · rfl

omit [Representation] in
theorem Chained.of_eq (h : Chained s) (heq : s'.assignments = s.assignments) : Chained s' := by
  have hfind : s'.findAssignment = s.findAssignment := by
    funext k
    rw [Tables.findAssignment, heq]
    rfl
  constructor
  case unique =>
    intro a ha
    rw [hfind]
    exact h.unique a (heq ▸ ha)
  case linked =>
    intro b hb p hp
    rw [hfind]
    exact h.linked b (heq ▸ hb) p hp
  case single =>
    intro b hb c hc
    exact h.single b (heq ▸ hb) c (heq ▸ hc)

/-- **One step** of a tidy run. -/
theorem InChains.step (h : InChains w) (hs : TidyStep w w') : InChains w' := by
  obtain ⟨hstep, htidy⟩ := hs
  cases hstep with
  | @assign v d t hassign =>
    have hcall : Tidy v w.tables := htidy v rfl
    obtain ⟨-, ⟨-, rfl, a, ha, hdigest⟩ | ⟨-, hnew, -, hpredecessor, -, rfl⟩⟩ := createAssignment_eq_ok hassign
    · refine ⟨h.chained, fun u hu => ?_⟩
      rcases List.mem_append.mp hu with hu | hu
      · exact h.stored u hu
      · rw [List.mem_singleton.mp hu]
        exact ⟨a, (mem_of_findAssignment ha).1, hcall.same a ha hdigest⟩
    · refine ⟨h.chained.insert hnew hpredecessor hcall, fun u hu => ?_⟩
      rcases List.mem_append.mp hu with hu | hu
      · obtain ⟨a, ha, heq⟩ := h.stored u hu
        exact ⟨a, List.mem_append_left _ ha, heq⟩
      · rw [List.mem_singleton.mp hu]
        exact ⟨v.row, List.mem_append_right _ (List.mem_singleton.mpr rfl), rfl⟩
  | @other t hsame =>
    refine ⟨h.chained.of_eq hsame, fun u hu => ?_⟩
    obtain ⟨a, ha, heq⟩ := h.stored u hu
    exact ⟨a, hsame ▸ ha, heq⟩

theorem inChains_of_run {w₀ : AssignmentWorld} (h : InChains w₀) (hrun : Relation.ReflTransGen TidyStep w₀ w) :
    InChains w := by
  induction hrun with
  | refl => exact h
  | tail _ hs ih => exact ih.step hs

omit [Representation] in
theorem inChains_nil (h : s.assignments = []) : InChains ⟨s, []⟩ := by
  refine ⟨⟨fun a ha => ?_, fun a ha => ?_, fun a ha => ?_⟩, fun v hv => ?_⟩
  · cases h ▸ (show a ∈ s.assignments from ha)
  · cases h ▸ (show a ∈ s.assignments from ha)
  · cases h ▸ (show a ∈ s.assignments from ha)
  · cases hv

end Steps

/-- An ending has taken effect: neither check accepts the assignment, and it is no
obstacle to another one for its role. -/
structure TakenEffect (s : Tables) (a : AssignmentRow) : Prop where
  plan : ∀ p : PlanIdentity, (p.scope, p.assignmentId) = a.value.key →
    ∀ now, validatePlanIdentity p now s ≠ .ok ()
  start : ∀ p : StartRequest, (p.scope, p.assignmentId) = a.value.key →
    ∀ (β : Type) (rest : Tables → Except String β) (b : β), validateLineage rest p s ≠ .ok b
  next : ∀ (v : AssignmentRecord) (t : Tables), v.lifecycle = .active →
    v.businessRole = a.value.businessRole → v.key ≠ a.value.key →
    createAssignment v (s.without a.value.key) = .ok (.appended, t) →
    createAssignment v s = .ok (.appended, { s with assignments := s.assignments ++ [v.row] })

/-- **Ending an assignment takes effect** in runs whose endings name a predecessor that
is not itself active, each predecessor being named once; and assignments form chains
along which versions grow by one. -/
theorem ended_takes_effect {s₀ : Tables} {w : AssignmentWorld} (h : s₀.assignments = [])
    (hrun : Relation.ReflTransGen TidyStep ⟨s₀, []⟩ w) :
    (∀ e ∈ w.accepted, e.lifecycle = .ended → ∀ p, e.predecessorAssignmentId = some p →
      ∃ a ∈ w.tables.assignments, a.value.key = (e.scope, p) ∧ TakenEffect w.tables a) ∧
    (∀ b ∈ w.tables.assignments, ∀ p, b.value.predecessorAssignmentId = some p →
      ∃ a ∈ w.tables.assignments, Succeeds b a) ∧
    ∀ a ∈ w.tables.assignments, ∀ b ∈ w.tables.assignments, ∀ c ∈ w.tables.assignments,
      Succeeds b a → Succeeds c a → b = c := by
  have hkept := inChains_of_run (inChains_nil h) hrun
  refine ⟨fun e he hended p hp => ?_, fun b hb p hp => ?_, fun a _ b hb c hc hba hca => ?_⟩
  · obtain ⟨row, hrow, rfl⟩ := hkept.stored e he
    obtain ⟨a, ha, -, hinactive⟩ := hkept.chained.linked row hrow p hp
    obtain ⟨hmem, hkey⟩ := mem_of_findAssignment ha
    have hown : Inactive w.tables a.value.key := by
      intro b hb
      rw [hkey, ha] at hb
      cases hb
      exact hinactive hended
    refine ⟨a, hmem, hkey, ?_, ?_, ?_⟩
    · intro q hq now
      exact validatePlanIdentity_inactive (hq ▸ hown)
    · intro q hq β rest b
      exact validateLineage_inactive (hq ▸ hown)
    · intro v t _ _ hne hcreated
      exact createAssignment_without hkept.chained.unique hown hne hcreated
  · obtain ⟨a, ha, hsucceeds, -⟩ := hkept.chained.linked b hb p hp
    exact ⟨a, (mem_of_findAssignment ha).1, hsucceeds⟩
  · refine hkept.chained.single b hb c hc (hba.scope.trans hca.scope.symm) (hba.named.trans hca.named.symm) ?_
    rw [hba.named]
    exact Option.some_ne_none _

end Assignments

namespace Sample

local instance : Whitespace := .kelvin

/-- How Python writes the two assignments below. -/
local instance : Representation where
  text v := "AssignmentRecord(scope=ScopeIdentity(namespace='default', security_domain='prod'), assignment_id="
    ++ "AssignmentId(value='" ++ v.assignmentId.value ++ "'), instance_id=DigitalEmployeeInstanceId("
    ++ "value='instance'), assignee_id='assignee', business_role='role', lifecycle=<AssignmentLifecycle."
    ++ (if v.lifecycle = .active then "ACTIVE: 'ACTIVE'" else "ENDED: 'ENDED'") ++ ">, effective_from="
    ++ "datetime.datetime(1, 1, 1, 0, 0, tzinfo=datetime.timezone.utc), effective_until=None, version="
    ++ toString v.version ++ ", command_id='command', predecessor_assignment_id="
    ++ (match v.predecessorAssignmentId with
      | none => "None"
      | some p => "AssignmentId(value='" ++ p.value ++ "')") ++ ")"

/-- The assignment that ends the one before. -/
def ending : AssignmentRecord where
  scope := scope
  assignmentId := opaqueText "ending"
  instanceId := opaqueText "instance"
  assigneeId := "assignee"
  businessRole := "role"
  lifecycle := .ended
  effectiveFrom := ⟨0, some 0⟩
  effectiveUntil := none
  version := 2
  commandId := "command"
  predecessorAssignmentId := some (opaqueText "assignment")

def assigned (v : AssignmentRecord) : Tables := { created₁ with assignments := [v.row] }

def endedAfter (v : AssignmentRecord) : Tables := { created₁ with assignments := [v.row, ending.row] }

/-- An assignment of the new instance is inserted. -/
theorem assigns {v : AssignmentRecord} (hinstance : v.instanceKey = employee.key)
    (hfirst : v.predecessorAssignmentId = none) (hstorable : v.storable = true) :
    createAssignment v created₁ = .ok (.appended, assigned v) := by
  have hrow : created₁.instances v.instanceKey = some row := by
    rw [hinstance]
    rfl
  have hnone : created₁.findAssignment v.key = none := rfl
  have hfree : created₁.assignments.any (fun a => a.value.activeFor v.instanceKey v.businessRole) = false := rfl
  have hpredecessor : checkPredecessor v created₁ = .ok () := by
    rw [checkPredecessor, hfirst]
  rw [createAssignment, hrow, hnone]
  simp only [Option.isNone_some, Bool.false_eq_true, ↓reduceIte, hfree, and_false, hpredecessor, hstorable,
    Bool.true_eq_false]
  rfl

/-- The ending of the sample assignment, whatever its own lifecycle. -/
theorem ends {v : AssignmentRecord} (hkey : v.key = assignment.key) (hinstance : v.instanceId = assignment.instanceId)
    (hversion : v.version = 1) : createAssignment ending (assigned v) = .ok (.appended, endedAfter v) := by
  have hrow : (assigned v).instances ending.instanceKey = some row := rfl
  have hother : v.key ≠ ending.key := by
    rw [hkey]
    decide
  have hfound : ∀ k, (assigned v).findAssignment k = if v.key = k then some v.row else none := by
    intro k
    rw [Tables.findAssignment]
    show List.find? _ [v.row] = _
    rw [List.find?_singleton]
    simp only [decide_eq_true_eq]
    rfl
  have hnamed : (assigned v).findAssignment (ending.scope, opaqueText "assignment") = some v.row :=
    (hfound _).trans (if_pos hkey)
  have hpredecessor : checkPredecessor ending (assigned v) = .ok () := by
    have hnames : ending.predecessorAssignmentId = some (opaqueText "assignment") := rfl
    simp only [checkPredecessor, hnames, hnamed]
    refine if_neg ?_
    rw [not_or, not_not, not_not]
    exact ⟨hinstance, hversion⟩
  have hactive : ¬ending.lifecycle = .active := by decide
  have hstorable : ending.storable = true := by decide
  rw [createAssignment, hrow, hfound, if_neg hother]
  simp only [Option.isNone_some, Bool.false_eq_true, ↓reduceIte, hactive, false_and, hpredecessor, hstorable,
    Bool.true_eq_false]
  rfl

theorem ended_takes_effect_of_ended : TakenEffect (endedAfter { assignment with lifecycle := .ended })
    ({ assignment with lifecycle := .ended } : AssignmentRecord).row := by
  have hnone : ∀ (a : AssignmentRow) (k : AssignmentKey), created₁.findAssignment k ≠ some a := by
    rintro a k ⟨⟩
  have hsingle : ∀ {v : AssignmentRecord} {k : AssignmentKey} {a : AssignmentRow},
      (assigned v).findAssignment k = some a → a = v.row := fun h =>
    List.mem_singleton.mp (mem_of_findAssignment h).1
  have hrun : Relation.ReflTransGen TidyStep ⟨created₁, []⟩
      ⟨endedAfter { assignment with lifecycle := .ended }, [{ assignment with lifecycle := .ended }, ending]⟩ := by
    refine .tail (.single ⟨.assign (assigns rfl rfl (by decide)), ?_⟩) ⟨.assign (ends rfl rfl rfl), ?_⟩
    · rintro v hv
      rw [← List.singleton_inj.mp hv]
      exact ⟨fun a ha => absurd ha (hnone a _), fun _ p hp => (by cases hp), fun _ _ p hp => (by cases hp)⟩
    · rintro v hv
      have hlast := (List.append_right_inj [_]).mp hv
      rw [← List.singleton_inj.mp hlast]
      refine ⟨fun a ha => ?_, fun _ p hp a ha => ?_, fun _ _ p hp a ha => ?_⟩
      · have hkey := (mem_of_findAssignment ha).2
        rw [hsingle ha] at hkey
        exact absurd hkey (by decide)
      · rw [List.mem_singleton.mp ha]
        intro _ hnames
        cases hnames
      · rw [hsingle ha]
        decide
  obtain ⟨heffect, -, -⟩ := ended_takes_effect rfl hrun
  obtain ⟨a, ha, hkey, htaken⟩ := heffect ending (List.mem_cons_of_mem _ (List.mem_singleton.mpr rfl)) rfl _ rfl
  rcases List.mem_cons.mp ha with rfl | ha
  · exact htaken
  · rw [List.mem_singleton.mp ha] at hkey
    exact absurd hkey (by decide)

/-- The plan of an approval that names the assignment. -/
def identity : PlanIdentity :=
  ⟨scope, opaqueText "instance", opaqueText "assignment", "employee", "employee-1", letterK.row.digest, true⟩

/-- **An ended assignment is still accepted**: the check of the plan judges the row of the
assignment, which is active as before. -/
theorem ended_still_accepted : ¬ ∀ (s₀ : Tables) (w : AssignmentWorld), s₀.assignments = [] →
    Relation.ReflTransGen AssignmentStep ⟨s₀, []⟩ w → ∀ e ∈ w.accepted, e.lifecycle = .ended →
      ∀ (p : PlanIdentity) (now : LocalDatetime), e.predecessorAssignmentId = some p.assignmentId →
        e.scope = p.scope → validatePlanIdentity p now w.tables ≠ .ok () := by
  intro hclaim
  have hrun : Relation.ReflTransGen AssignmentStep ⟨created₁, []⟩ ⟨endedAfter assignment, [assignment, ending]⟩ :=
    .tail (.single (.assign (assigns rfl rfl (by decide)))) (.assign (ends rfl rfl rfl))
  refine hclaim created₁ _ rfl hrun ending (List.mem_cons_of_mem _ (List.mem_singleton.mpr rfl)) rfl
    identity ⟨1, some 0⟩ rfl rfl ?_
  have hjoined : (endedAfter assignment).joined (identity.scope, identity.instanceId) identity.assignmentId
      = some (row, assignment.row) := rfl
  have houtside : outsidePeriod assignment.row.value ⟨1, some 0⟩ = .ok false := by decide
  have hauthorized : identity.authorized ≠ false := by decide
  rw [validatePlanIdentity, if_neg hauthorized, hjoined]
  simp only [houtside]
  refine if_neg ?_
  rw [not_or, not_or, not_or, not_or, not_or, not_not, not_not, not_not, not_not, not_not, not_not]
  exact ⟨rfl, rfl, rfl, rfl, rfl, rfl⟩

end Sample

end Employee

end AgentPlatform
