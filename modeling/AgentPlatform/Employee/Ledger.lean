/-
AgentPlatform/Employee/Ledger.lean

The ledger of employee definitions: its tables, what is read from them, and what a
transaction writes.

A definition has a version, its revisions, and one fact for each command that was
accepted. `createBody` and `decideBody` are the transactions as they run by
themselves; what they write is said once, by `Ledger.opened`, `Ledger.revised` and
`Ledger.decided`.
-/
import AgentPlatform.Employee.Definition
import AgentPlatform.Order.Chain

namespace AgentPlatform

open Py

namespace Employee

/-! ### Tables -/

/-- The key of a row of `definitions`. -/
structure DefinitionKey where
  namespaceName : String
  securityDomain : String
  definitionId : String
  deriving DecidableEq, Repr

inductive FactAction
  | create | validate | approve | reject | publish | unpublish | revokePublication | deprecate
  | grantMatch | denyMatch | revokeMatch
  deriving DecidableEq, Repr

def FactAction.value : FactAction → String
  | .create => "CREATE"
  | .validate => "VALIDATE"
  | .approve => "APPROVE"
  | .reject => "REJECT"
  | .publish => "PUBLISH"
  | .unpublish => "UNPUBLISH"
  | .revokePublication => "REVOKE_PUBLICATION"
  | .deprecate => "DEPRECATE"
  | .grantMatch => "GRANT_MATCH"
  | .denyMatch => "DENY_MATCH"
  | .revokeMatch => "REVOKE_MATCH"

/-- The keys of `allowed`. -/
def FactAction.ofValue : String → Option FactAction
  | "VALIDATE" => some .validate
  | "APPROVE" => some .approve
  | "REJECT" => some .reject
  | "PUBLISH" => some .publish
  | "UNPUBLISH" => some .unpublish
  | "REVOKE_PUBLICATION" => some .revokePublication
  | "DEPRECATE" => some .deprecate
  | "GRANT_MATCH" => some .grantMatch
  | "DENY_MATCH" => some .denyMatch
  | "REVOKE_MATCH" => some .revokeMatch
  | _ => none

structure RevisionRow where
  revisionId : String
  predecessorRevisionId : Option String
  digest : String
  record : EmployeeRecord
  deriving DecidableEq

/-- A row of `facts`. -/
structure Fact where
  key : DefinitionKey
  ordinal : Nat
  revisionId : String
  action : FactAction
  revisionDigest : String
  decisionId : String
  commandId : String
  payloadDigest : String
  deriving DecidableEq

/-- The tables: the version of each definition, its revisions in the order in which
they were inserted, and all facts. -/
structure Ledger where
  definitions : DefinitionKey → Option Nat
  revisions : DefinitionKey → List RevisionRow
  facts : List Fact

def Ledger.empty : Ledger := ⟨fun _ => none, fun _ => [], []⟩

/-- The namespace, the security domain and the command of a fact are unique. -/
abbrev CommandKey := String × String × String

def Fact.command (f : Fact) : CommandKey := (f.key.namespaceName, f.key.securityDomain, f.commandId)

/-! ### What is read -/

/-- The lifecycle actions that publish or end a publication, `_PUBLICATION_ACTIONS`. -/
def FactAction.isPublication : FactAction → Bool
  | .publish | .unpublish | .revokePublication | .deprecate => true
  | _ => false

/-- `GRANT_MATCH`, `DENY_MATCH` and `REVOKE_MATCH`. -/
def FactAction.isMatch : FactAction → Bool
  | .grantMatch | .denyMatch | .revokeMatch => true
  | _ => false

/-- `next((a for a in reversed(actions) if p(a)), None)`. -/
def lastOf (p : FactAction → Bool) (actions : List FactAction) : Option FactAction :=
  actions.reverse.find? p

def lifecycleState (actions : List FactAction) : Except String String :=
  if actions.head? ≠ some .create then .error "EMPLOYEE_RECORD_CORRUPT"
  else match lastOf FactAction.isPublication actions with
    | some .deprecate => .ok "DEPRECATED"
    | some .publish => .ok "PUBLISHED"
    | some .unpublish | some .revokePublication => .ok "APPROVED"
    | _ => match actions.getLast? with
      | some .create => .ok "DRAFT"
      | some .validate => .ok "VALIDATED"
      | some .approve => .ok "APPROVED"
      | some .reject => .ok "REJECTED"
      | _ => .ok "DRAFT"

/-- What `_read` returns. -/
structure View where
  revision : EmployeeRecord
  digest : String
  aggregateVersion : Nat
  facts : List (FactAction × String × Nat)
  lifecycleState : String
  published : Bool
  matchable : Bool
  deriving DecidableEq

/-- The rows of one definition. -/
structure Rows where
  version : Option Nat
  revisions : List RevisionRow
  facts : List Fact

def Ledger.factsOf (s : Ledger) (key : DefinitionKey) : List Fact := s.facts.filter (·.key = key)

def Ledger.rows (s : Ledger) (key : DefinitionKey) : Rows :=
  ⟨s.definitions key, s.revisions key, s.factsOf key⟩

/-- The facts of one revision, `ORDER BY ordinal`. -/
def Rows.factsAt (rows : Rows) (revisionId : String) : List Fact :=
  sortedBy Fact.ordinal (rows.facts.filter (·.revisionId = revisionId))

def Rows.find (rows : Rows) (revisionId : String) : Option RevisionRow :=
  rows.revisions.find? (·.revisionId = revisionId)

section Reads

variable [Unicodedata]

/-- `_read`, for the rows of its definition. -/
def Rows.read (rows : Rows) (revisionId : String) : Except String View :=
  match rows.find revisionId, rows.version with
  | some row, some version => do
    let revision ← EmployeeRevision.fromRecord row.record
    if revision.digest ≠ row.digest then .error "EMPLOYEE_RECORD_CORRUPT"
    else do
      let facts := rows.factsAt revisionId
      let actions := facts.map Fact.action
      let state ← Employee.lifecycleState actions
      let published := decide (lastOf FactAction.isPublication actions = some .publish)
      .ok ⟨row.record, row.digest, version,
        facts.map fun f => (f.action, f.decisionId, f.ordinal), state, published,
        published && lastOf FactAction.isMatch actions = some .grantMatch⟩
  | _, _ => .error "EMPLOYEE_NOT_FOUND"

def definitionKey (scope : ScopeIdentity) (definitionId : String) : Except String DefinitionKey := do
  let definition ← identifier definitionId
  .ok ⟨scope.namespaceName.value, scope.securityDomain.value, definition⟩

def Ledger.factOf (s : Ledger) (command : CommandKey) : Option Fact :=
  s.facts.find? (·.command = command)

def commandKey (scope : ScopeIdentity) (commandId : String) : CommandKey :=
  (scope.namespaceName.value, scope.securityDomain.value, commandId)

/-- The payload of the fact that a command left is the same. -/
def checkReplay (found : Option Fact) (payloadDigest : String) : Except String Unit :=
  if ∃ f ∈ found, f.payloadDigest ≠ payloadDigest then .error "IDEMPOTENCY_PAYLOAD_MISMATCH" else .ok ()

/-- `_replay`: the fact that the command left, if its payload is the same. -/
def Ledger.replay (s : Ledger) (scope : ScopeIdentity) (commandId payloadDigest : String) :
    Except String (Option Fact) := do
  let command ← identifier commandId
  let found := s.factOf (commandKey scope command)
  checkReplay found payloadDigest
  .ok found

end Reads

/-! ### Bound resources -/

/-- A revision of a bound resource. -/
structure ResourceRevision where
  revisionId : String
  digest : Option String
  state : Option String

/-- The record of a bound resource, of whichever table. -/
structure ResourceRecord where
  revisions : List ResourceRevision
  publishedRevisionId : Option String
  enabled : Bool
  archived : Bool
  lifecycleState : Option String

/-- The 64 digits of `[sha256:]digest`, `_same_sha256_digest`. -/
def bareDigest (value : String) : Option String :=
  if isHex64 value then some value
  else if "sha256:".toList.isPrefixOf value.toList && isHex64 (String.ofList (value.toList.drop 7)) then
    some (String.ofList (value.toList.drop 7))
  else none

/-- `_same_sha256_digest(left, right)`. -/
def sameDigest (left : Option String) (right : String) : Bool :=
  match left.bind bareDigest, bareDigest right with
  | some l, some r => l = r
  | _, _ => false

/-- The loop of `validate_members`, for one member and the record it finds. -/
def checkBound (m : CompositionMember) : Option ResourceRecord → Except String Unit
  | none => .error "BOUND_RESOURCE_NOT_FOUND"
  | some record =>
    match record.revisions.find? (·.revisionId = m.revisionId) with
    | none => .error "BOUND_RESOURCE_MISMATCH"
    | some exact =>
      if ¬ sameDigest exact.digest m.digest then .error "BOUND_RESOURCE_MISMATCH"
      else if record.publishedRevisionId ≠ some m.revisionId ∨ exact.state ≠ some "PUBLISHED"
          ∨ (m.kind ∈ [.agent, .skill, .mcp] ∧ ¬ record.enabled) ∨ record.archived
          ∨ record.lifecycleState = some "DEPRECATED" ∨ record.lifecycleState = some "ARCHIVED" then
        .error "BOUND_RESOURCE_INELIGIBLE"
      else .ok ()

/-- What the tables of bound resources answer for each member. -/
abbrev Bound := CompositionMember → Option ResourceRecord

def validateMembers (bound : Bound) (members : List CompositionMember) : Except String Unit :=
  members.forM fun m => checkBound m (bound m)

/-! ### What is written -/

section Writes

variable (s : Ledger) (key : DefinitionKey)

def Ledger.setVersion (version : Nat) : Ledger :=
  { s with definitions := fun k => if k = key then some version else s.definitions k }

def Ledger.addRevision (row : RevisionRow) : Ledger :=
  { s with revisions := fun k => if k = key then s.revisions k ++ [row] else s.revisions k }

def Ledger.addFact (f : Fact) : Ledger := { s with facts := s.facts ++ [f] }

/-- What breaks a unique constraint or a type of the database. -/
def databaseError : String := "psycopg.Error"

/-- A text has no place for the character NUL in `jsonb`. -/
def storable (record : EmployeeRecord) : Bool :=
  (record.role :: record.responsibilities).all fun text => !text.toList.contains '\x00'

/-- The primary key of `revisions`, or the uniqueness of predecessors, is broken. -/
def Ledger.revisionTaken (row : RevisionRow) : Bool :=
  (s.revisions key).any fun r => r.revisionId = row.revisionId
    || (row.predecessorRevisionId.isSome && r.predecessorRevisionId = row.predecessorRevisionId)

/-- `INSERT INTO revisions`. -/
def Ledger.insertRevision (row : RevisionRow) : Except String Ledger :=
  if storable row.record = false ∨ s.revisionTaken key row = true then .error databaseError
  else .ok (s.addRevision key row)

/-- The primary key of `facts`, or the uniqueness of commands, is broken. -/
def Ledger.factTaken (f : Fact) : Bool :=
  s.facts.any fun g => (g.key = f.key && g.ordinal = f.ordinal) || g.command = f.command

def Ledger.insertFact (f : Fact) : Except String Ledger := do
  let _ ← identifier f.decisionId
  let _ ← identifier f.commandId
  if s.factTaken f = true then .error databaseError else .ok (s.addFact f)

end Writes

/-! ### Transactions -/

section Transactions

variable [Unicodedata]

/-- The arguments of `create` and `create_for_workbench`. -/
structure CreateCommand where
  revision : EmployeeRevision
  expectedVersion : Int
  decisionId : String
  commandId : String

/-- The arguments of `decide` and `decide_for_workbench`. -/
structure DecideCommand where
  scope : ScopeIdentity
  definitionId : String
  revisionId : String
  revisionDigest : String
  action : String
  expectedVersion : Int
  decisionId : String
  commandId : String

/-- The payload that a command of `create` stands for. -/
def CreateCommand.payload (c : CreateCommand) : Json :=
  .arr [c.revision.record.json, .int c.expectedVersion, .str c.decisionId, .str "CREATE"]

/-- The payload that a command of `decide` stands for. -/
def DecideCommand.payload (c : DecideCommand) : Json :=
  .arr [.str c.definitionId, .str c.revisionId, .str c.revisionDigest, .str c.action,
    .int c.expectedVersion, .str c.decisionId]

/-- The row of a new revision. -/
def EmployeeRevision.row (r : EmployeeRevision) : RevisionRow :=
  ⟨r.revisionId, r.predecessorRevisionId, r.digest, r.record⟩

/-- The fact of a new revision. -/
def CreateCommand.fact (c : CreateCommand) (key : DefinitionKey) : Fact :=
  ⟨key, c.expectedVersion.toNat + 1, c.revision.revisionId, .create, c.revision.digest, c.decisionId,
    c.commandId, c.payload.canonicalDigest⟩

def DecideCommand.fact (c : DecideCommand) (key : DefinitionKey) (action : FactAction) : Fact :=
  ⟨key, c.expectedVersion.toNat + 1, c.revisionId, action, c.revisionDigest, c.decisionId, c.commandId,
    c.payload.canonicalDigest⟩

/-- The first revision opens its definition, any other one raises the version after
its predecessor was read. -/
def openVersion (c : CreateCommand) (key : DefinitionKey) (s : Ledger) : Except String Ledger :=
  match s.definitions key with
  | none => .ok (s.setVersion key 1)
  | some version => do
    let _ ← (s.rows key).read (c.revision.predecessorRevisionId.getD "")
    .ok (s.setVersion key (version + 1))

/-- `create`, after the command was not found again. -/
def createNew (c : CreateCommand) (key : DefinitionKey) (s : Ledger) : Except String Ledger :=
  let head := s.definitions key
  if ((head.getD 0 : Nat) : Int) ≠ c.expectedVersion then .error "STALE_AGGREGATE_VERSION"
  else if head.isNone ≠ c.revision.predecessorRevisionId.isNone then .error "EXACT_PREDECESSOR_REQUIRED"
  else do
    let opened ← openVersion c key s
    let revised ← opened.insertRevision key c.revision.row
    revised.insertFact (c.fact key)

/-- `create`, run by itself. -/
def createBody (c : CreateCommand) (s : Ledger) : Except String (View × Ledger) := do
  let key ← definitionKey c.revision.scope c.revision.definitionId
  match ← s.replay c.revision.scope c.commandId c.payload.canonicalDigest with
  | some _ =>
    let view ← (s.rows key).read c.revision.revisionId
    .ok (view, s)
  | none =>
    let s' ← createNew c key s
    let view ← (s'.rows key).read c.revision.revisionId
    .ok (view, s')

/-- `allowed.get(action, False)`. -/
def allowed (actions : List FactAction) (published : Bool) : FactAction → Bool
  | .create => false
  | .validate => actions = [.create]
  | .approve | .reject => actions.getLast? = some .validate
  | .publish => actions.getLast? = some .approve
  | .unpublish | .revokePublication | .deprecate | .grantMatch | .denyMatch | .revokeMatch => published

/-- The actions before which the members are validated. -/
def FactAction.needsMembers : FactAction → Bool
  | .validate | .approve | .publish | .grantMatch => true
  | _ => false

/-- The members are validated before the actions that need them. -/
def checkMembers (action : FactAction) (bound : Bound) (current : View) : Except String Unit :=
  if action.needsMembers then do
    let revision ← EmployeeRevision.fromRecord current.revision
    validateMembers bound revision.members
  else .ok ()

/-- `decide`, after the command was not found again and the revision was read. -/
def decideNew (c : DecideCommand) (bound : Bound) (key : DefinitionKey) (current : View) (s : Ledger) :
    Except String Ledger :=
  if current.digest ≠ c.revisionDigest then .error "EMPLOYEE_REVISION_MISMATCH"
  else if (current.aggregateVersion : Int) ≠ c.expectedVersion then .error "STALE_AGGREGATE_VERSION"
  else match FactAction.ofValue c.action with
    | none => .error "INVALID_EMPLOYEE_TRANSITION"
    | some action =>
      if allowed (current.facts.map Prod.fst) current.published action = false then
        .error "INVALID_EMPLOYEE_TRANSITION"
      else do
        checkMembers action bound current
        -- the row is locked, so that it is found under the expected version
        (s.setVersion key (current.aggregateVersion + 1)).insertFact (c.fact key action)

/-- `decide`, run by itself. -/
def decideBody (c : DecideCommand) (bound : Bound) (s : Ledger) : Except String (View × Ledger) := do
  let key ← definitionKey c.scope c.definitionId
  let replay ← s.replay c.scope c.commandId c.payload.canonicalDigest
  let current ← (s.rows key).read c.revisionId
  match replay with
  | some _ => .ok (current, s)
  | none =>
    let s' ← decideNew c bound key current s
    let view ← (s'.rows key).read c.revisionId
    .ok (view, s')

end Transactions

end Employee

end AgentPlatform
