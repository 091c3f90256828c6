/-
AgentPlatform/Employee/Calls.lean

The four commands of the employee definitions, each as one transaction.

`createBody_eq_ok` and `decideBody_eq_ok` say what a command does: nothing, where it left
a fact with the same payload before, and else it writes. **Main result:**
`Call.body_sound`. A command keeps a sound ledger sound, and every revision in it can be
read back.
-/
import AgentPlatform.Employee.Histories
import AgentPlatform.Py.Words

namespace AgentPlatform

open Py

namespace Employee

/-! ### Commands -/

section Commands

variable [Unicodedata]

/-- The four commands. -/
inductive Call
  | create (c : CreateCommand)
  | createForWorkbench (authorized : Bool) (c : CreateCommand)
  | decide (c : DecideCommand)
  | decideForWorkbench (authorized : Bool) (c : DecideCommand)

/-- What a call does when it runs by itself. -/
def Call.body (bound : Bound) (s : Ledger) : Call → Except String (View × Ledger)
  | .create c => createBody c s
  | .createForWorkbench authorized c =>
    if authorized then createBody c s else .error "EMPLOYEE_NOT_FOUND"
  | .decide c => decideBody c bound s
  | .decideForWorkbench authorized c =>
    if authorized then decideBody c bound s else .error "EMPLOYEE_NOT_FOUND"

def Call.commandKey : Call → CommandKey
  | .create c | .createForWorkbench _ c => Employee.commandKey c.revision.scope c.commandId
  | .decide c | .decideForWorkbench _ c => Employee.commandKey c.scope c.commandId

/-- The payload that the command of a call stands for. -/
def Call.payload : Call → Json
  | .create c | .createForWorkbench _ c => c.payload
  | .decide c | .decideForWorkbench _ c => c.payload

end Commands

section Bodies

variable [Unicodedata] {s s' : Ledger} {key : DefinitionKey} {view : View}

/-! ### Calls by themselves -/

omit [Unicodedata] in
theorem identifier_eq_ok {value x : String} : identifier value = .ok x ↔ isIdentifier value = true ∧ x = value := by
  rw [identifier]
  split
  · next h => exact ⟨fun hx => ⟨h, (Except.ok.inj hx).symm⟩, fun hx => by rw [hx.2]⟩
  · next h => exact ⟨(fun hx => by cases hx), fun hx => absurd hx.1 h⟩

omit [Unicodedata] in
theorem checkReplay_eq_ok {found : Option Fact} {digest : String} :
    checkReplay found digest = .ok () ↔ ∀ f ∈ found, f.payloadDigest = digest := by
  rw [checkReplay]
  split
  · next h =>
    obtain ⟨f, hf, hne⟩ := h
    exact ⟨nofun, fun hall => absurd (hall f hf) hne⟩
  · next h =>
    refine ⟨fun _ f hf => ?_, fun _ => rfl⟩
    by_contra hne
    exact h ⟨f, hf, hne⟩

theorem replay_eq_ok {scope : ScopeIdentity} {commandId digest : String} {found : Option Fact} :
    s.replay scope commandId digest = .ok found ↔ isIdentifier commandId = true ∧
      found = s.factOf (commandKey scope commandId) ∧ ∀ f ∈ found, f.payloadDigest = digest := by
  rw [Ledger.replay, bind_eq_ok]
  constructor
  · rintro ⟨command, hcommand, h⟩
    obtain ⟨hid, rfl⟩ := identifier_eq_ok.mp hcommand
    obtain ⟨⟨⟩, hcheck, h⟩ := bind_eq_ok.mp h
    cases h
    exact ⟨hid, rfl, checkReplay_eq_ok.mp hcheck⟩
  · rintro ⟨hid, rfl, hcheck⟩
    exact ⟨commandId, identifier_eq_ok.mpr ⟨hid, rfl⟩,
      bind_eq_ok.mpr ⟨(), checkReplay_eq_ok.mpr hcheck, rfl⟩⟩

/-- What a transaction does with its command: nothing where the command left a fact
with the same payload, and else it writes. -/
def Commanded (s : Ledger) (command : CommandKey) (digest : String) (same writes : Prop) : Prop :=
  (∃ f, s.factOf command = some f ∧ f.payloadDigest = digest ∧ same) ∨ (s.factOf command = none ∧ writes)

theorem createBody_eq_ok {c : CreateCommand} : createBody c s = .ok (view, s') ↔
    ∃ key, definitionKey c.revision.scope c.revision.definitionId = .ok key ∧
      isIdentifier c.commandId = true ∧
      Commanded s (commandKey c.revision.scope c.commandId) c.payload.canonicalDigest (s' = s)
        (Created c key s s') ∧
      (s'.rows key).read c.revision.revisionId = .ok view := by
  rw [createBody, bind_eq_ok]
  refine exists_congr fun key => and_congr_right fun _ => ?_
  rw [bind_eq_ok]
  constructor
  · rintro ⟨found, hfound, h⟩
    obtain ⟨hid, hfact, hsame⟩ := replay_eq_ok.mp hfound
    cases found with
    | some f =>
      obtain ⟨view', hview, h⟩ := bind_eq_ok.mp h
      cases h
      exact ⟨hid, .inl ⟨f, hfact.symm, hsame f rfl, rfl⟩, hview⟩
    | none =>
      obtain ⟨written, hwritten, h⟩ := bind_eq_ok.mp h
      obtain ⟨view', hview, h⟩ := bind_eq_ok.mp h
      cases h
      exact ⟨hid, .inr ⟨hfact.symm, createNew_eq_ok.mp hwritten⟩, hview⟩
  · rintro ⟨hid, ⟨f, hfact, hsame, rfl⟩ | ⟨hfact, hcreated⟩, hview⟩
    · refine ⟨some f, replay_eq_ok.mpr ⟨hid, hfact.symm, ?_⟩, bind_eq_ok.mpr ⟨view, hview, rfl⟩⟩
      rintro _ ⟨⟩
      exact hsame
    · exact ⟨none, replay_eq_ok.mpr ⟨hid, hfact.symm, nofun⟩,
        bind_eq_ok.mpr ⟨s', createNew_eq_ok.mpr hcreated, bind_eq_ok.mpr ⟨view, hview, rfl⟩⟩⟩

theorem decideBody_eq_ok {c : DecideCommand} {bound : Bound} : decideBody c bound s = .ok (view, s') ↔
    ∃ key current, definitionKey c.scope c.definitionId = .ok key ∧
      isIdentifier c.commandId = true ∧ (s.rows key).read c.revisionId = .ok current ∧
      Commanded s (commandKey c.scope c.commandId) c.payload.canonicalDigest (s' = s)
        (∃ action, Decided c bound key current action s s') ∧
      (s'.rows key).read c.revisionId = .ok view := by
  rw [decideBody, bind_eq_ok]
  constructor
  · rintro ⟨key, hkey, h⟩
    obtain ⟨found, hfound, h⟩ := bind_eq_ok.mp h
    obtain ⟨current, hcurrent, h⟩ := bind_eq_ok.mp h
    obtain ⟨hid, hfact, hsame⟩ := replay_eq_ok.mp hfound
    cases found with
    | some f =>
      cases h
      exact ⟨key, _, hkey, hid, hcurrent, .inl ⟨f, hfact.symm, hsame f rfl, rfl⟩, hcurrent⟩
    | none =>
      obtain ⟨written, hwritten, h⟩ := bind_eq_ok.mp h
      obtain ⟨view', hview, h⟩ := bind_eq_ok.mp h
      cases h
      exact ⟨key, current, hkey, hid, hcurrent, .inr ⟨hfact.symm, decideNew_eq_ok.mp hwritten⟩, hview⟩
  · rintro ⟨key, current, hkey, hid, hcurrent, ⟨f, hfact, hsame, rfl⟩ | ⟨hfact, hdecided⟩, hview⟩
    · refine ⟨key, hkey, bind_eq_ok.mpr ⟨some f, replay_eq_ok.mpr ⟨hid, hfact.symm, ?_⟩,
        bind_eq_ok.mpr ⟨current, hcurrent, ?_⟩⟩⟩
      · rintro _ ⟨⟩
        exact hsame
      · rw [hcurrent] at hview
        rw [Except.ok.inj hview]
    · exact ⟨key, hkey, bind_eq_ok.mpr ⟨none, replay_eq_ok.mpr ⟨hid, hfact.symm, nofun⟩,
        bind_eq_ok.mpr ⟨current, hcurrent,
          bind_eq_ok.mpr ⟨s', decideNew_eq_ok.mpr hdecided, bind_eq_ok.mpr ⟨view, hview, rfl⟩⟩⟩⟩⟩

theorem createBody_sound {c : CreateCommand} (h : Sound s) (hc : createBody c s = .ok (view, s')) :
    Sound s' := by
  obtain ⟨key, -, -, ⟨f, -, -, rfl⟩ | ⟨-, hcreated⟩, -⟩ := createBody_eq_ok.mp hc
  · exact h
  · exact hcreated.sound h

theorem decideBody_sound {c : DecideCommand} {bound : Bound} (h : Sound s)
    (hc : decideBody c bound s = .ok (view, s')) : Sound s' := by
  obtain ⟨key, current, -, -, hread, ⟨f, -, -, rfl⟩ | ⟨-, action, hdecided⟩, -⟩ := decideBody_eq_ok.mp hc
  · exact h
  · exact hdecided.sound h hread

/-- The workbench operations are the plain ones, where they are authorized. -/
theorem Call.body_cases {bound : Bound} {call : Call} (h : call.body bound s = .ok (view, s')) :
    (∃ c, call.commandKey = Employee.commandKey c.revision.scope c.commandId ∧ call.payload = c.payload ∧
      createBody c s = .ok (view, s')) ∨
    (∃ c, call.commandKey = Employee.commandKey c.scope c.commandId ∧ call.payload = c.payload ∧
      decideBody c bound s = .ok (view, s')) := by
  cases call with
  | create c => exact .inl ⟨c, rfl, rfl, h⟩
  | createForWorkbench authorized c =>
    cases authorized with
    | false => cases h
    | true => exact .inl ⟨c, rfl, rfl, h⟩
  | decide c => exact .inr ⟨c, rfl, rfl, h⟩
  | decideForWorkbench authorized c =>
    cases authorized with
    | false => cases h
    | true => exact .inr ⟨c, rfl, rfl, h⟩

theorem Call.body_sound {bound : Bound} {call : Call} (h : Sound s)
    (hc : call.body bound s = .ok (view, s')) : Sound s' := by
  obtain ⟨c, -, -, hbody⟩ | ⟨c, -, -, hbody⟩ := Call.body_cases hc
  · exact createBody_sound h hbody
  · exact decideBody_sound h hbody

omit [Unicodedata] in
theorem rows_addFact (s : Ledger) {f : Fact} (hkey : f.key = key) :
    (s.addFact f).rows key = ⟨s.definitions key, s.revisions key, s.factsOf key ++ [f]⟩ := by
  rw [Ledger.rows, Ledger.factsOf, Ledger.addFact, List.filter_append, List.filter_singleton,
    decide_eq_true hkey]
  rfl

theorem command_of_key {scope : ScopeIdentity} {definitionId : String}
    (h : definitionKey scope definitionId = .ok key) (commandId : String) :
    (key.namespaceName, key.securityDomain, commandId) = commandKey scope commandId := by
  obtain ⟨_, -, h⟩ := bind_eq_ok.mp h
  cases h
  rfl

end Bodies

section Reading

variable [Unicodedata] {s s' : Ledger} {key : DefinitionKey} {view : View}

/-! ### Reading -/

omit [Unicodedata] in
theorem Spelled.head {l : List FactAction} (h : Spelled l) : l.head? = some .create := by
  cases h <;> rfl

omit [Unicodedata] in
theorem lifecycleState_isOk {l : List FactAction} (h : l.head? = some .create) :
    ∃ state, lifecycleState l = .ok state := by
  rw [lifecycleState, if_neg (not_not.mpr h)]
  split
  · exact ⟨_, rfl⟩
  · exact ⟨_, rfl⟩
  · exact ⟨_, rfl⟩
  · exact ⟨_, rfl⟩
  · split <;> exact ⟨_, rfl⟩

/-- A row that is found can be read if its record and its facts are whole. -/
theorem Rows.read_of_find {rows : Rows} {revisionId : String} {row : RevisionRow} {version : Nat}
    {revision : EmployeeRevision} {state : String} (hrow : rows.find revisionId = some row)
    (hversion : rows.version = some version)
    (hrevision : EmployeeRevision.fromRecord row.record = .ok revision) (hdigest : revision.digest = row.digest)
    (hstate : Employee.lifecycleState ((rows.factsAt revisionId).map Fact.action) = .ok state) :
    ∃ view, rows.read revisionId = .ok view ∧ view.revision = row.record ∧ view.digest = row.digest := by
  have hread : rows.read revisionId = .ok ⟨row.record, row.digest, version,
      (rows.factsAt revisionId).map fun f => (f.action, f.decisionId, f.ordinal), state,
      decide (lastOf FactAction.isPublication ((rows.factsAt revisionId).map Fact.action) = some .publish),
      decide (lastOf FactAction.isPublication ((rows.factsAt revisionId).map Fact.action) = some .publish) &&
        lastOf FactAction.isMatch ((rows.factsAt revisionId).map Fact.action) = some .grantMatch⟩ := by
    rw [read, hrow, hversion]
    refine bind_eq_ok.mpr ⟨revision, hrevision, ?_⟩
    rw [if_neg (not_not.mpr hdigest)]
    exact bind_eq_ok.mpr ⟨state, hstate, rfl⟩
  exact ⟨_, hread, rfl, rfl⟩

/-- **A stored revision reads back**, with the digest that is stored. -/
theorem Sound.read (h : Sound s) {row : RevisionRow} (hrow : row ∈ s.revisions key) :
    ∃ view, (s.rows key).read row.revisionId = .ok view ∧ view.revision = row.record ∧
      view.digest = row.digest ∧ ∃ revision, EmployeeRevision.fromRecord view.revision = .ok revision ∧
        revision.digest = row.digest := by
  have hfind : (s.rows key).find row.revisionId = some row := by
    obtain ⟨found, hfound⟩ : ∃ found, (s.rows key).find row.revisionId = some found :=
      Option.isSome_iff_exists.mp (List.find?_isSome.mpr ⟨row, hrow, decide_eq_true rfl⟩)
    obtain ⟨hmem, hid⟩ : found ∈ s.revisions key ∧ found.revisionId = row.revisionId :=
      Rows.find_eq_some hfound
    rw [hfound, List.inj_on_of_nodup_map (h.distinct key) hmem hrow hid]
  obtain ⟨version, hversion⟩ : ∃ version, s.definitions key = some version := by
    refine Option.ne_none_iff_exists'.mp fun hnone => ?_
    rw [(h.opened key).mp hnone] at hrow
    exact absurd hrow List.not_mem_nil
  obtain ⟨state, hstate⟩ := lifecycleState_isOk (h.spelled key row hrow).head
  have hhistory : ((s.rows key).factsAt row.revisionId).map Fact.action = s.history key row.revisionId := by
    rw [h.factsAt, Ledger.history]
  obtain ⟨r, rfl⟩ := h.stored key row hrow
  obtain ⟨view, hview, hrecord, hdigest⟩ := Rows.read_of_find hfind hversion r.fromRecord_record
    r.digest_ordered (hhistory ▸ hstate)
  refine ⟨view, hview, hrecord, hdigest, r.ordered, ?_, r.digest_ordered⟩
  rw [hrecord]
  exact r.fromRecord_record

end Reading

/-! ### Commands that were accepted -/

section Answers

variable [Unicodedata] {s s' : Ledger} {view : View} {bound : Bound}

/-- The key of the definition that a call is about. -/
def Call.definitionKey : Call → Except String DefinitionKey
  | .create c | .createForWorkbench _ c => Employee.definitionKey c.revision.scope c.revision.definitionId
  | .decide c | .decideForWorkbench _ c => Employee.definitionKey c.scope c.definitionId

/-- The revision that a call is about. -/
def Call.revisionId : Call → String
  | .create c | .createForWorkbench _ c => c.revision.revisionId
  | .decide c | .decideForWorkbench _ c => c.revisionId

def Call.commandId : Call → String
  | .create c | .createForWorkbench _ c => c.commandId
  | .decide c | .decideForWorkbench _ c => c.commandId

/-- The plain commands need no authorization. -/
def Call.authorized : Call → Bool
  | .create _ | .decide _ => true
  | .createForWorkbench authorized _ | .decideForWorkbench authorized _ => authorized

/-- What a call that returns has done: nothing, for a command with a fact of its
payload, or one fact, for a command without. -/
theorem Call.body_eq_ok {call : Call} (h : call.body bound s = .ok (view, s')) :
    call.authorized = true ∧ isIdentifier call.commandId = true ∧
      ∃ key, call.definitionKey = .ok key ∧ (s'.rows key).read call.revisionId = .ok view ∧
        Commanded s call.commandKey call.payload.canonicalDigest (s' = s)
          (∃ f, f.command = call.commandKey ∧ f.payloadDigest = call.payload.canonicalDigest ∧
            s'.facts = s.facts ++ [f] ∧ ∀ k, s.revisions k <+: s'.revisions k) := by
  have hcreate : ∀ {c : CreateCommand}, createBody c s = .ok (view, s') →
      isIdentifier c.commandId = true ∧
      ∃ key, Employee.definitionKey c.revision.scope c.revision.definitionId = .ok key ∧
        (s'.rows key).read c.revision.revisionId = .ok view ∧
        Commanded s (Employee.commandKey c.revision.scope c.commandId) c.payload.canonicalDigest (s' = s)
          (∃ f, f.command = Employee.commandKey c.revision.scope c.commandId ∧
            f.payloadDigest = c.payload.canonicalDigest ∧ s'.facts = s.facts ++ [f] ∧
            ∀ k, s.revisions k <+: s'.revisions k) := by
    intro c hc
    obtain ⟨key, hkey, hid, hcommand, hview⟩ := createBody_eq_ok.mp hc
    refine ⟨hid, key, hkey, hview, hcommand.imp_right fun ⟨hnone, hcreated⟩ => ⟨hnone, c.fact key,
      command_of_key hkey _, rfl, by rw [hcreated.writes]; rfl, fun k => ?_⟩⟩
    rw [hcreated.writes]
    show s.revisions k <+: if k = key then s.revisions k ++ [c.revision.row] else s.revisions k
    split
    · exact List.prefix_append _ _
    · exact List.prefix_refl _
  have hdecide : ∀ {c : DecideCommand}, decideBody c bound s = .ok (view, s') →
      isIdentifier c.commandId = true ∧
      ∃ key, Employee.definitionKey c.scope c.definitionId = .ok key ∧
        (s'.rows key).read c.revisionId = .ok view ∧
        Commanded s (Employee.commandKey c.scope c.commandId) c.payload.canonicalDigest (s' = s)
          (∃ f, f.command = Employee.commandKey c.scope c.commandId ∧
            f.payloadDigest = c.payload.canonicalDigest ∧ s'.facts = s.facts ++ [f] ∧
            ∀ k, s.revisions k <+: s'.revisions k) := by
    intro c hc
    obtain ⟨key, current, hkey, hid, -, hcommand, hview⟩ := decideBody_eq_ok.mp hc
    refine ⟨hid, key, hkey, hview, hcommand.imp_right fun ⟨hnone, action, hdecided⟩ => ⟨hnone, c.fact key action,
      command_of_key hkey _, rfl, by rw [hdecided.writes]; rfl, fun k => ?_⟩⟩
    rw [hdecided.writes]
    exact List.prefix_refl _
  cases call with
  | create c => exact ⟨rfl, hcreate h⟩
  | createForWorkbench authorized c =>
    cases authorized with
    | false => cases h
    | true => exact ⟨rfl, hcreate h⟩
  | decide c => exact ⟨rfl, hdecide h⟩
  | decideForWorkbench authorized c =>
    cases authorized with
    | false => cases h
    | true => exact ⟨rfl, hdecide h⟩

end Answers

namespace Sample

local instance : Whitespace := .kelvin

def scopeText (value : String)
    (h : decide (normalize value = value ∧ value ≠ "" ∧ value.utf8ByteSize ≤ maxScopeBytes)
      = true := by exact Eq.refl true) : NormalizedText maxScopeBytes :=
  ⟨value, (of_decide_eq_true h).1, (of_decide_eq_true h).2.1, (of_decide_eq_true h).2.2⟩

def scope : ScopeIdentity := ⟨scopeText "default", scopeText "prod"⟩

def agent : CompositionMember where
  kind := .agent
  resourceId := "agent"
  revisionId := "agent-1"
  digest := "0123456789abcdef0123456789abcdef0123456789abcdef0123456789abcdef"
  valid := by decide +kernel

/-- The first revision of an employee. -/
def revision (role : String) (h : checkRevision "employee" "employee-1" role ["Answer questions"] [agent]
    none = .ok ()) : EmployeeRevision where
  scope := scope
  definitionId := "employee"
  revisionId := "employee-1"
  role := role
  responsibilities := ["Answer questions"]
  members := [agent]
  predecessorRevisionId := none
  valid := h

def letterK : EmployeeRevision := revision "K" (by decide +kernel)

def command (r : EmployeeRevision) : CreateCommand := ⟨r, 0, "decision", "command"⟩

def key : DefinitionKey := ⟨"default", "prod", "employee"⟩

/-- The ledger after the revision was created. -/
def opened (r : EmployeeRevision) : Ledger :=
  ((Ledger.empty.setVersion key 1).addRevision key r.row).addFact ((command r).fact key)

theorem created : Created (command letterK) key Ledger.empty (opened letterK) where
  expected := rfl
  root := rfl
  predecessor _ := nofun
  storable := by decide
  newRevision := rfl
  decisionId := by decide
  commandId := by decide
  newFact := rfl
  writes := rfl

end Sample

end Employee

end AgentPlatform
