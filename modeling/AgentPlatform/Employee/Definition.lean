/-
AgentPlatform/Employee/Definition.lean

Employee revisions: which agent, workflow, skills and other resources an
employee is composed of.

A member and a revision are checked where they are constructed, so that none
exists that breaks a rule. The record of a revision is what is stored; it lists the
members in the order of their kinds and identities. **Main result:**
`fromRecord_record`. The record of a revision is read back as that revision
with its members in this order, which has the same record and so the same digest.
-/
import AgentPlatform.ExecutionContract
import AgentPlatform.Py.CanonicalJson
import AgentPlatform.Py.Sorted

namespace AgentPlatform

open Py

namespace Employee

/-! ### Identifiers -/

/-- What follows the first character of an identifier. -/
def isIdentifierChar (c : Char) : Bool := c.isAlphanum || ":._/-".toList.contains c

/-- The texts that `identifier` accepts. -/
def isIdentifier (value : String) : Bool :=
  match value.toList with
  | [] => false
  | c :: cs => c.isAlphanum && cs.all isIdentifierChar && cs.length ≤ 199

def identifier (value : String) : Except String String :=
  if isIdentifier value = true then .ok value else .error "INVALID_IDENTITY"

/-- `re.fullmatch(r"(?:sha256:)?[a-f0-9]{64}", digest)`. -/
def isMemberDigest (digest : String) : Bool :=
  isHex64 digest || isHex64 (String.ofList (digest.toList.drop 7))
    && "sha256:".toList.isPrefixOf digest.toList

/-! ### Members -/

inductive MemberKind
  | agent | workflow | skill | mcp | knowledge | runtimeProfile
  deriving DecidableEq, Repr

def MemberKind.value : MemberKind → String
  | .agent => "AGENT"
  | .workflow => "WORKFLOW"
  | .skill => "SKILL"
  | .mcp => "MCP"
  | .knowledge => "KNOWLEDGE"
  | .runtimeProfile => "RUNTIME_PROFILE"

def MemberKind.ofValue : String → Option MemberKind
  | "AGENT" => some .agent
  | "WORKFLOW" => some .workflow
  | "SKILL" => some .skill
  | "MCP" => some .mcp
  | "KNOWLEDGE" => some .knowledge
  | "RUNTIME_PROFILE" => some .runtimeProfile
  | _ => none

@[simp] theorem MemberKind.ofValue_value (kind : MemberKind) : ofValue kind.value = some kind := by
  cases kind <;> rfl

/-- The checks of `CompositionMember.__post_init__`. -/
def checkMember (resourceId revisionId digest : String) : Except String Unit :=
  if isIdentifier resourceId = false then .error "INVALID_IDENTITY"
  else if isIdentifier revisionId = false then .error "INVALID_IDENTITY"
  else if isMemberDigest digest = false then .error "INVALID_MEMBER_DIGEST"
  else .ok ()

structure CompositionMember where
  kind : MemberKind
  resourceId : String
  revisionId : String
  digest : String
  valid : checkMember resourceId revisionId digest = .ok ()
  deriving DecidableEq

def CompositionMember.create (kind : MemberKind) (resourceId revisionId digest : String) :
    Except String CompositionMember :=
  match h : checkMember resourceId revisionId digest with
  | .error code => .error code
  | .ok () => .ok ⟨kind, resourceId, revisionId, digest, h⟩

theorem CompositionMember.create_self (m : CompositionMember) :
    create m.kind m.resourceId m.revisionId m.digest = .ok m := by
  unfold create
  split
  · next h => exact absurd (m.valid.symm.trans h) nofun
  · rfl

/-- The key by which a record lists its members. -/
def CompositionMember.key (m : CompositionMember) : String ×ₗ String :=
  toLex (m.kind.value, m.resourceId)

/-! ### Revisions -/

/-- The checks of `EmployeeRevision.__post_init__`. -/
def checkRevision (definitionId revisionId role : String) (responsibilities : List String)
    (members : List CompositionMember) (predecessorRevisionId : Option String) : Except String Unit :=
  if isIdentifier definitionId = false then .error "INVALID_IDENTITY"
  else if isIdentifier revisionId = false then .error "INVALID_IDENTITY"
  else if predecessorRevisionId.any (!isIdentifier ·) = true then .error "INVALID_IDENTITY"
  else if predecessorRevisionId = some revisionId then .error "INVALID_PREDECESSOR"
  else if strip role = "" ∨ 200 < role.length ∨ ¬ (1 ≤ responsibilities.length
      ∧ responsibilities.length ≤ 32) then .error "INVALID_ROLE"
  else if ∃ value ∈ responsibilities, strip value = "" ∨ 500 < value.length then
    .error "INVALID_RESPONSIBILITY"
  else if ¬ (1 ≤ members.length ∧ members.length ≤ 128) then .error "INVALID_COMPOSITION"
  else if members.countP (·.kind = .agent) ≠ 1 then .error "PRIMARY_AGENT_CARDINALITY"
  else if 1 < members.countP (·.kind = .runtimeProfile) then .error "DEFAULT_RUNTIME_CARDINALITY"
  else if ¬ (members.map fun m => (m.kind, m.resourceId)).Nodup then
    .error "DUPLICATE_COMPOSITION_MEMBER"
  else .ok ()

variable [Unicodedata]

structure EmployeeRevision where
  scope : ScopeIdentity
  definitionId : String
  revisionId : String
  role : String
  responsibilities : List String
  members : List CompositionMember
  predecessorRevisionId : Option String
  valid : checkRevision definitionId revisionId role responsibilities members predecessorRevisionId
    = .ok ()
  deriving DecidableEq

def EmployeeRevision.create (scope : ScopeIdentity) (definitionId revisionId role : String)
    (responsibilities : List String) (members : List CompositionMember)
    (predecessorRevisionId : Option String) : Except String EmployeeRevision :=
  match h : checkRevision definitionId revisionId role responsibilities members
      predecessorRevisionId with
  | .error code => .error code
  | .ok () => .ok ⟨scope, definitionId, revisionId, role, responsibilities, members,
      predecessorRevisionId, h⟩

/-! ### Records -/

/-- A member in a record, `asdict(m)`. -/
structure MemberRecord where
  kind : String
  resourceId : String
  revisionId : String
  digest : String
  deriving DecidableEq

def CompositionMember.record (m : CompositionMember) : MemberRecord :=
  ⟨m.kind.value, m.resourceId, m.revisionId, m.digest⟩

/-- The record of a revision. -/
structure EmployeeRecord where
  namespaceName : String
  securityDomain : String
  definitionId : String
  revisionId : String
  role : String
  responsibilities : List String
  members : List MemberRecord
  predecessorRevisionId : Option String
  deriving DecidableEq

def EmployeeRevision.record (r : EmployeeRevision) : EmployeeRecord where
  namespaceName := r.scope.namespaceName.value
  securityDomain := r.scope.securityDomain.value
  definitionId := r.definitionId
  revisionId := r.revisionId
  role := r.role
  responsibilities := r.responsibilities
  members := (sortedBy CompositionMember.key r.members).map CompositionMember.record
  predecessorRevisionId := r.predecessorRevisionId

def MemberRecord.json (m : MemberRecord) : Json :=
  .obj [("kind", .str m.kind), ("resource_id", .str m.resourceId),
    ("revision_id", .str m.revisionId), ("digest", .str m.digest)]

def EmployeeRecord.json (r : EmployeeRecord) : Json :=
  .obj [("schemaVersion", .str "digital-employee-composition.v1"),
    ("namespace", .str r.namespaceName), ("securityDomain", .str r.securityDomain),
    ("definitionId", .str r.definitionId), ("revisionId", .str r.revisionId),
    ("role", .str r.role), ("responsibilities", .arr (r.responsibilities.map .str)),
    ("members", .arr (r.members.map MemberRecord.json)),
    ("predecessorRevisionId", .optStr r.predecessorRevisionId)]

def EmployeeRevision.digest (r : EmployeeRevision) : String := r.record.json.canonicalDigest

/-- A member of a record read back. -/
def MemberRecord.read (m : MemberRecord) : Except String CompositionMember :=
  match MemberKind.ofValue m.kind with
  | none => .error "ValueError"
  | some kind => CompositionMember.create kind m.resourceId m.revisionId m.digest

/-- `ScopeIdentity(namespace, security_domain)`. -/
def readScope (namespaceName securityDomain : String) : Except String ScopeIdentity :=
  match normalizedText maxScopeBytes "SCOPE_INVALID" namespaceName,
      normalizedText maxScopeBytes "SCOPE_INVALID" securityDomain with
  | .ok n, .ok d => .ok ⟨n, d⟩
  | _, _ => .error "ExecutionContractError"

def EmployeeRevision.fromRecord (r : EmployeeRecord) : Except String EmployeeRevision := do
  let scope ← readScope r.namespaceName r.securityDomain
  let members ← r.members.mapM MemberRecord.read
  create scope r.definitionId r.revisionId r.role r.responsibilities members r.predecessorRevisionId

/-! ### Reading back -/

omit [Unicodedata] in
theorem CompositionMember.read_record (m : CompositionMember) : m.record.read = .ok m := by
  rw [record, MemberRecord.read, MemberKind.ofValue_value]
  exact m.create_self

omit [Unicodedata] in
theorem mapM_read_record (ms : List CompositionMember) :
    (ms.map CompositionMember.record).mapM MemberRecord.read = .ok ms := by
  induction ms with
  | nil => rfl
  | cons m ms ih =>
    rw [List.map_cons, List.mapM_cons, m.read_record, ih]
    rfl

theorem readScope_value (scope : ScopeIdentity) :
    readScope scope.namespaceName.value scope.securityDomain.value = .ok scope := by
  rw [readScope, normalizedText_value, normalizedText_value]

omit [Unicodedata] in
/-- The checks do not depend on the order of the members. -/
theorem checkRevision_perm {definitionId revisionId role : String} {responsibilities : List String}
    {ms ms' : List CompositionMember} {predecessor : Option String} (hp : ms.Perm ms') :
    checkRevision definitionId revisionId role responsibilities ms predecessor
      = checkRevision definitionId revisionId role responsibilities ms' predecessor := by
  simp only [checkRevision, hp.length_eq, hp.countP_eq, (hp.map _).nodup_iff]

/-- A revision with its members in the order of its record. -/
def EmployeeRevision.ordered (r : EmployeeRevision) : EmployeeRevision where
  __ := r
  members := sortedBy CompositionMember.key r.members
  valid := by
    rw [checkRevision_perm (perm_sortedBy CompositionMember.key r.members)]
    exact r.valid

/-- **A record is read back** as the revision with its members in order. -/
theorem EmployeeRevision.fromRecord_record (r : EmployeeRevision) :
    fromRecord r.record = .ok r.ordered := by
  have hcreate : create r.scope r.definitionId r.revisionId r.role r.responsibilities
      (sortedBy CompositionMember.key r.members) r.predecessorRevisionId = .ok r.ordered := by
    unfold create
    split
    · next h => exact absurd (r.ordered.valid.symm.trans h) nofun
    · rfl
  unfold fromRecord record
  rw [readScope_value, mapM_read_record]
  exact hcreate

theorem EmployeeRevision.record_ordered (r : EmployeeRevision) : r.ordered.record = r.record := by
  rw [record, record]
  show EmployeeRecord.mk _ _ _ _ _ _
    ((sortedBy CompositionMember.key (sortedBy CompositionMember.key r.members)).map _) _ = _
  rw [sortedBy_eq_self (pairwise_sortedBy CompositionMember.key r.members)]
  rfl

@[simp] theorem EmployeeRevision.digest_ordered (r : EmployeeRevision) : r.ordered.digest = r.digest := by
  rw [digest, digest, record_ordered]

end Employee

end AgentPlatform
