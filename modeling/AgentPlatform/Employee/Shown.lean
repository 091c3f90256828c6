/-
AgentPlatform/Employee/Shown.lean

What the lifecycle state that is shown of an employee revision says about the next
decision.

The state is made of all facts of the revision, while `decide` looks at the last fact
and at the publication. On every history that commands can lead to, the state and
whether the publication was withdrawn determine the actions that are permitted
(`Spelled.allowed_iff`). **Main result:** `shown_state_decides_iff`. Both readers show
the same state; it decides which actions are accepted, except that a revision whose
publication was withdrawn is shown like one that can be published.
-/
import AgentPlatform.Employee.Calls

namespace AgentPlatform

open Py

namespace Employee

/-! ### What is shown -/

/-- What `read_revision_for_workbench` returns. -/
structure WorkbenchView where
  revision : EmployeeRecord
  digest : String
  lifecycleState : String
  publicationState : String
  deriving DecidableEq

section Readers

variable [Unicodedata]

/-- `read_revision_for_workbench`, for the rows of its definition. -/
def Rows.readForWorkbench (rows : Rows) (revisionId : String) : Except String WorkbenchView :=
  match rows.find revisionId, rows.version with
  | some row, some _ =>
    match EmployeeRevision.fromRecord row.record with
    | .error code =>
      -- only the errors of the employee contract are named again
      .error (if code = "ValueError" ∨ code = "ExecutionContractError" then code
        else "EMPLOYEE_RECORD_CORRUPT")
    | .ok revision =>
      let facts := rows.factsAt revisionId
      if revision.digest ≠ row.digest then .error "EMPLOYEE_RECORD_CORRUPT"
      else if facts = [] then .error "EMPLOYEE_RECORD_CORRUPT"
      else if ∃ f ∈ facts, sameDigest (some f.revisionDigest) row.digest = false then
        .error "EMPLOYEE_RECORD_CORRUPT"
      else do
        let actions := facts.map Fact.action
        let state ← Employee.lifecycleState actions
        .ok ⟨row.record, row.digest, state,
          if lastOf FactAction.isPublication actions = some .publish then "PUBLISHED"
          else "NOT_PUBLISHED"⟩
  | _, _ => .error "EMPLOYEE_NOT_FOUND"

def Ledger.readRevisionForWorkbench (s : Ledger) (scope : ScopeIdentity)
    (definitionId revisionId : String) (authorized : Bool) : Except String WorkbenchView :=
  if authorized = false then .error "EMPLOYEE_NOT_FOUND"
  else do
    let key ← definitionKey scope definitionId
    let revision ← identifier revisionId
    (s.rows key).readForWorkbench revision

/-- The ledgers that commands lead to. The bound resources may change in between. -/
inductive Reachable : Ledger → Prop
  | empty : Reachable Ledger.empty
  | call {s s' : Ledger} {view : View} (bound : Bound) (call : Call) (h : Reachable s)
      (hc : call.body bound s = .ok (view, s')) : Reachable s'

theorem Reachable.sound {s : Ledger} (h : Reachable s) : Sound s := by
  induction h with
  | empty => exact sound_empty
  | call bound call _ hc ih => exact Call.body_sound ih hc

end Readers

/-! ### Histories -/

/-- The publication was ended, but the definition is not deprecated. -/
def withdrawn (actions : List FactAction) : Bool :=
  lastOf FactAction.isPublication actions ∈ [some .unpublish, some .revokePublication]

/-- The actions that a shown state stands for. -/
def nextActions : String → Bool → List FactAction
  | "DRAFT", _ => [.validate]
  | "VALIDATED", _ => [.approve, .reject]
  | "APPROVED", false => [.publish]
  | "PUBLISHED", _ => [.unpublish, .revokePublication, .deprecate, .grantMatch, .denyMatch, .revokeMatch]
  | _, _ => []

theorem lastOf_matches {decisions : List FactAction} (h : ∀ a ∈ decisions, a.isMatch = true) :
    lastOf FactAction.isPublication decisions = none := by
  rw [lastOf, List.find?_eq_none]
  intro a ha
  have hmatch := h a (List.mem_reverse.mp ha)
  cases a <;> first | decide | cases hmatch

/-- **The state and a withdrawal determine what is permitted.** -/
theorem Spelled.allowed_iff {l : List FactAction} {state : String} (h : Spelled l)
    (hstate : lifecycleState l = .ok state) (a : FactAction) :
    allowed l (lastOf FactAction.isPublication l = some .publish) a = true
      ↔ a ∈ nextActions state (withdrawn l) := by
  cases h with
  | created =>
    cases hstate
    cases a <;> decide
  | validated =>
    cases hstate
    cases a <;> decide
  | rejected =>
    cases hstate
    cases a <;> decide
  | approved =>
    cases hstate
    cases a <;> decide
  | @published decisions hmatches =>
    have hlast : lastOf FactAction.isPublication
        ([FactAction.create, .validate, .approve, .publish] ++ decisions) = some .publish := by
      rw [lastOf_append, lastOf_matches hmatches]
      rfl
    have hpublished : lifecycleState ([FactAction.create, .validate, .approve, .publish] ++ decisions)
        = .ok "PUBLISHED" := by
      rw [lifecycleState, if_neg (by simp), hlast]
    obtain rfl := Except.ok.inj (hpublished.symm.trans hstate)
    rw [withdrawn, hlast]
    cases a with
    | validate =>
      have hne : [FactAction.create, .validate, .approve, .publish] ++ decisions ≠ [.create] :=
        fun heq => by simpa using congrArg List.length heq
      rw [allowed, decide_eq_true_eq]
      exact iff_of_false hne (by decide)
    | approve | reject | publish =>
      rw [allowed, decide_eq_true_eq]
      refine iff_of_false (fun heq => ?_) (by decide)
      rcases getLast?_published hmatches heq with heq | heq <;> cases heq
    | create => exact iff_of_false Bool.false_ne_true (by decide)
    | _ => exact iff_of_true rfl (by decide)
  | @ended decisions hmatches e he =>
    have hlast : lastOf FactAction.isPublication
        ([FactAction.create, .validate, .approve, .publish] ++ decisions ++ [e]) = some e := by
      rw [lastOf_append, lastOf, List.reverse_singleton, List.find?_singleton, if_pos]
      · rfl
      · cases e <;> first | decide | exact absurd he (by decide)
    have hended : lifecycleState ([FactAction.create, .validate, .approve, .publish] ++ decisions ++ [e])
        = .ok (if e = .deprecate then "DEPRECATED" else "APPROVED") := by
      rw [lifecycleState, if_neg (by simp), hlast]
      cases e <;> first | rfl | exact absurd he (by decide)
    obtain rfl := Except.ok.inj (hended.symm.trans hstate)
    have hnone : nextActions (if e = .deprecate then "DEPRECATED" else "APPROVED")
        (withdrawn ([FactAction.create, .validate, .approve, .publish] ++ decisions ++ [e])) = [] := by
      rw [withdrawn, hlast]
      cases e <;> first | rfl | exact absurd he (by decide)
    rw [hnone, hlast]
    refine iff_of_false ?_ List.not_mem_nil
    cases a with
    | validate =>
      have hne : [FactAction.create, .validate, .approve, .publish] ++ decisions ++ [e] ≠ [.create] :=
        fun heq => by simpa using congrArg List.length heq
      rwa [allowed, decide_eq_true_eq]
    | approve | reject | publish =>
      rw [allowed, decide_eq_true_eq, List.getLast?_concat]
      rintro ⟨⟩
      exact absurd he (by decide)
    | create => exact Bool.false_ne_true
    | _ =>
      intro hpublished
      have heq : e = .publish := Option.some.inj (of_decide_eq_true hpublished)
      rw [heq] at he
      exact absurd he (by decide)

/-- A withdrawn publication is shown as an approval. -/
theorem Spelled.approved_of_withdrawn {l : List FactAction} {state : String} (h : Spelled l)
    (hstate : lifecycleState l = .ok state) (hw : withdrawn l = true) : state = "APPROVED" := by
  rw [withdrawn, decide_eq_true_eq] at hw
  rw [lifecycleState, if_neg (not_not.mpr h.head)] at hstate
  simp only [List.mem_cons, List.not_mem_nil, or_false] at hw
  rcases hw with hw | hw
  · rw [hw] at hstate
    exact (Except.ok.inj hstate).symm
  · rw [hw] at hstate
    exact (Except.ok.inj hstate).symm

/-- Only a publication in effect is shown as one. -/
theorem Spelled.published_iff {l : List FactAction} {state : String} (h : Spelled l)
    (hstate : lifecycleState l = .ok state) :
    lastOf FactAction.isPublication l = some .publish ↔ state = "PUBLISHED" := by
  rw [lifecycleState, if_neg (not_not.mpr h.head)] at hstate
  split at hstate
  · next hlast => cases hstate; rw [hlast]; decide
  · next hlast => cases hstate; rw [hlast]; decide
  · next hlast => cases hstate; rw [hlast]; decide
  · next hlast => cases hstate; rw [hlast]; decide
  · next hpublish _ _ =>
    refine iff_of_false hpublish ?_
    split at hstate <;> cases hstate <;> decide

section Revisions

variable [Unicodedata] {s s' : Ledger} {key : DefinitionKey} {view : View}

/-! ### What is read -/

theorem Rows.read_state {rows : Rows} {revisionId : String} (h : rows.read revisionId = .ok view) :
    lifecycleState ((rows.factsAt revisionId).map Fact.action) = .ok view.lifecycleState := by
  unfold read at h
  split at h
  · obtain ⟨revision, -, h⟩ := bind_eq_ok.mp h
    rw [ite_error_eq_ok'] at h
    obtain ⟨state, hstate, h⟩ := bind_eq_ok.mp h.2
    cases h
    exact hstate
  · cases h

omit [Unicodedata] in
theorem sameDigest_self {digest : String} (h : isHex64 digest = true) :
    sameDigest (some digest) digest = true := by
  have hbare : bareDigest digest = some digest := if_pos h
  rw [sameDigest, Option.bind_some, hbare]
  exact decide_eq_true rfl

theorem EmployeeRevision.revisionId_valid (r : EmployeeRevision) : isIdentifier r.revisionId = true := by
  have hvalid := r.valid
  rw [checkRevision, ite_error_eq_ok', ite_error_eq_ok', Bool.not_eq_false, Bool.not_eq_false] at hvalid
  exact hvalid.2.1

theorem Sound.history_eq (h : Sound s) (key : DefinitionKey) (revisionId : String) :
    ((s.rows key).factsAt revisionId).map Fact.action = s.history key revisionId := by
  rw [h.factsAt, Ledger.history]

/-- **Both readers show the same state** of a stored revision, and a publication exactly in
the state of one. -/
theorem Sound.readers_agree (h : Sound s) {scope : ScopeIdentity} {definitionId : String}
    (hkey : definitionKey scope definitionId = .ok key) {row : RevisionRow} (hrow : row ∈ s.revisions key) :
    ∃ view shown, (s.rows key).read row.revisionId = .ok view ∧
      s.readRevisionForWorkbench scope definitionId row.revisionId true = .ok shown ∧
      shown.lifecycleState = view.lifecycleState ∧
      (shown.publicationState = "PUBLISHED" ↔ view.published = true) ∧
      (view.published = true ↔ view.lifecycleState = "PUBLISHED") := by
  obtain ⟨view, hview, -⟩ := h.read hrow
  obtain ⟨found, hfind, hversion, -, -, -, hpublished⟩ := Rows.read_eq_ok hview
  obtain ⟨hmem, hid⟩ : found ∈ s.revisions key ∧ found.revisionId = row.revisionId :=
    Rows.find_eq_some hfind
  obtain rfl := List.inj_on_of_nodup_map (h.distinct key) hmem hrow hid
  have hstate := Rows.read_state hview
  have hspelled := h.spelled key found hrow
  rw [h.history_eq] at hstate hpublished
  have hpublication := hspelled.published_iff hstate
  obtain ⟨r, rfl⟩ := h.stored key found hrow
  have hfacts : (s.rows key).factsAt r.row.revisionId ≠ [] := by
    intro hnil
    have hhead := hspelled.head
    rw [← h.history_eq, hnil] at hhead
    cases hhead
  have hsame : ¬ ∃ f ∈ (s.rows key).factsAt r.row.revisionId,
      sameDigest (some f.revisionDigest) r.row.digest = false := by
    rintro ⟨f, hf, hne⟩
    rw [h.factsAt, Ledger.factsOf, List.mem_filter, List.mem_filter] at hf
    obtain ⟨owner, howner, hownerId, hdigest⟩ := h.owned f hf.1.1
    rw [of_decide_eq_true hf.1.2] at howner
    obtain rfl := List.inj_on_of_nodup_map (h.distinct key) howner hrow
      (hownerId.trans (of_decide_eq_true hf.2))
    have hhex : isHex64 r.row.digest = true := hexdigest_isHex64 _
    rw [hdigest, sameDigest_self hhex] at hne
    cases hne
  have hshown : (s.rows key).readForWorkbench r.row.revisionId = .ok ⟨r.row.record, r.row.digest,
      view.lifecycleState, if lastOf FactAction.isPublication (s.history key r.row.revisionId)
        = some .publish then "PUBLISHED" else "NOT_PUBLISHED"⟩ := by
    rw [Rows.readForWorkbench, hfind, hversion]
    show (match EmployeeRevision.fromRecord r.record with | .error _ => _ | .ok _ => _) = _
    rw [r.fromRecord_record]
    have hdigest : r.ordered.digest = r.row.digest := r.digest_ordered
    dsimp only
    rw [if_neg (not_not.mpr hdigest), if_neg hfacts, if_neg hsame, h.history_eq]
    exact bind_eq_ok.mpr ⟨_, hstate, rfl⟩
  have hauthorized : s.readRevisionForWorkbench scope definitionId r.row.revisionId true
      = (s.rows key).readForWorkbench r.row.revisionId := by
    have hid : identifier r.row.revisionId = .ok r.row.revisionId :=
      identifier_eq_ok.mpr ⟨r.revisionId_valid, rfl⟩
    rw [Ledger.readRevisionForWorkbench, if_neg (by decide), hkey, hid]
    rfl
  refine ⟨view, _, hview, hauthorized.trans hshown, rfl, ?_, ?_⟩
  · rw [hpublished, decide_eq_true_eq]
    split
    · next hlast => exact iff_of_true rfl hlast
    · next hlast => exact iff_of_false (show ¬ "NOT_PUBLISHED" = "PUBLISHED" by decide) hlast
  · rw [hpublished, decide_eq_true_eq]
    exact hpublication

/-! ### What is accepted -/

/-- A revision that `_read` reports in a state of the store. -/
structure Shown where
  ledger : Ledger
  reachable : Reachable ledger
  scope : ScopeIdentity
  definitionId : String
  revisionId : String
  key : DefinitionKey
  named : definitionKey scope definitionId = .ok key
  view : View
  read : (ledger.rows key).read revisionId = .ok view

namespace Shown

/-- The facts of the revision. -/
def actions (x : Shown) : List FactAction := x.view.facts.map Prod.fst

/-- The revision passes `validate_members`. -/
def MembersValid (x : Shown) (bound : Bound) : Prop :=
  ∃ revision, EmployeeRevision.fromRecord x.view.revision = .ok revision ∧
    validateMembers bound revision.members = .ok ()

/-- The identifiers of a decision and of a command that was not used in the scope. -/
def Fresh (x : Shown) (decisionId commandId : String) : Prop :=
  isIdentifier decisionId = true ∧ isIdentifier commandId = true ∧
    commandKey x.scope commandId ∉ x.ledger.facts.map Fact.command

def command (x : Shown) (decisionId commandId action : String) : DecideCommand :=
  ⟨x.scope, x.definitionId, x.revisionId, x.view.digest, action, x.view.aggregateVersion, decisionId,
    commandId⟩

/-- `decide` accepts an action. -/
def Accepts (x : Shown) (bound : Bound) (decisionId commandId action : String) : Prop :=
  ∃ result, decideBody (x.command decisionId commandId action) bound x.ledger = .ok result

theorem actions_eq (x : Shown) : x.actions = x.ledger.history x.key x.revisionId := by
  obtain ⟨row, -, -, -, -, hactions, -⟩ := Rows.read_eq_ok x.read
  rw [actions, hactions, x.reachable.sound.history_eq]

theorem exists_row (x : Shown) :
    ∃ row ∈ x.ledger.revisions x.key, row.revisionId = x.revisionId ∧ x.view.revision = row.record := by
  obtain ⟨row, hfind, -, hrecord, -⟩ := Rows.read_eq_ok x.read
  obtain ⟨hmem, hid⟩ : row ∈ x.ledger.revisions x.key ∧ row.revisionId = x.revisionId :=
    Rows.find_eq_some hfind
  exact ⟨row, hmem, hid, hrecord⟩

theorem spelled (x : Shown) : Spelled x.actions := by
  obtain ⟨row, hrow, hid, -⟩ := x.exists_row
  rw [x.actions_eq, ← hid]
  exact x.reachable.sound.spelled x.key row hrow

theorem lifecycleState_actions (x : Shown) : lifecycleState x.actions = .ok x.view.lifecycleState := by
  rw [x.actions_eq, ← x.reachable.sound.history_eq]
  exact Rows.read_state x.read

theorem published_eq (x : Shown) :
    x.view.published = decide (lastOf FactAction.isPublication x.actions = some .publish) := by
  obtain ⟨row, -, -, -, -, hactions, hpublished⟩ := Rows.read_eq_ok x.read
  rw [hpublished, actions, hactions]

theorem factOf_eq_none (x : Shown) {decisionId commandId : String} (hfresh : x.Fresh decisionId commandId) :
    x.ledger.factOf (commandKey x.scope commandId) = none := by
  apply List.find?_eq_none.mpr
  intro g hg hcommand
  exact hfresh.2.2 (List.mem_map.mpr ⟨g, hg, of_decide_eq_true hcommand⟩)

/-- A new decision with the version that is shown is the next fact. -/
theorem factTaken_eq_false (x : Shown) {decisionId commandId action : String} (a : FactAction)
    (hfresh : x.Fresh decisionId commandId) :
    x.ledger.factTaken ((x.command decisionId commandId action).fact x.key a) = false := by
  apply Employee.factTaken_eq_false.mpr
  intro g hg
  constructor
  · rintro ⟨hkey, hordinal⟩
    have hfact : g ∈ x.ledger.factsOf x.key := List.mem_filter.mpr ⟨hg, decide_eq_true hkey⟩
    have hmem := List.mem_map_of_mem (f := Fact.ordinal) hfact
    rw [x.reachable.sound.numbered, List.mem_range'_1, ← x.reachable.sound.counted] at hmem
    obtain ⟨-, -, hversion, -⟩ := Rows.read_eq_ok x.read
    have hstored : x.ledger.definitions x.key = some x.view.aggregateVersion := hversion
    have hnext : g.ordinal = x.view.aggregateVersion + 1 := hordinal
    rw [hstored, hnext, Option.getD_some] at hmem
    omega
  · intro hcommand
    apply hfresh.2.2
    rw [← command_of_key x.named]
    exact List.mem_map.mpr ⟨g, hg, hcommand⟩

/-- **An action that is permitted is accepted**, and is the next fact of the revision. -/
theorem exists_next (x : Shown) {bound : Bound} (hmembers : x.MembersValid bound)
    {decisionId commandId action : String} (hfresh : x.Fresh decisionId commandId) {a : FactAction}
    (hnamed : FactAction.ofValue action = some a)
    (hallowed : allowed x.actions (lastOf FactAction.isPublication x.actions = some .publish) a = true) :
    x.Accepts bound decisionId commandId action ∧ ∃ y : Shown, y.scope = x.scope ∧
      y.view.revision = x.view.revision ∧ y.actions = x.actions ++ [a] ∧
      y.ledger.facts.map Fact.command = x.ledger.facts.map Fact.command ++ [commandKey x.scope commandId] := by
  let c := x.command decisionId commandId action
  let s' := (x.ledger.setVersion x.key (x.view.aggregateVersion + 1)).addFact (c.fact x.key a)
  have hdecided : Decided c bound x.key x.view a x.ledger s' := by
    refine ⟨rfl, rfl, hnamed, ?_, fun _ => hmembers, hfresh.1, hfresh.2.1,
      x.factTaken_eq_false a hfresh, rfl⟩
    rw [x.published_eq]
    exact hallowed
  have hsound : Sound s' := hdecided.sound x.reachable.sound x.read
  obtain ⟨row, hrow, hid, hrecord⟩ := x.exists_row
  have hrow' : row ∈ s'.revisions x.key := hrow
  obtain ⟨view, hview, hrecord', -⟩ := hsound.read hrow'
  rw [hid] at hview
  have hbody : decideBody c bound x.ledger = .ok (view, s') :=
    decideBody_eq_ok.mpr ⟨x.key, x.view, x.named, hfresh.2.1, x.read,
      .inr ⟨x.factOf_eq_none hfresh, a, hdecided⟩, hview⟩
  let y : Shown :=
    ⟨s', .call bound (.decide c) x.reachable hbody, x.scope, x.definitionId, x.revisionId, x.key, x.named,
      view, hview⟩
  refine ⟨⟨_, hbody⟩, y, rfl, hrecord'.trans hrecord.symm, ?_, ?_⟩
  · rw [y.actions_eq, x.actions_eq]
    show ((s'.factsOf x.key).filter (·.revisionId = x.revisionId)).map Fact.action = _
    have hfacts : s'.factsOf x.key = x.ledger.factsOf x.key ++ [c.fact x.key a] :=
      congrArg Rows.facts (rows_addFact (x.ledger.setVersion x.key (x.view.aggregateVersion + 1))
        (show (c.fact x.key a).key = x.key from rfl))
    rw [hfacts, List.filter_append, List.map_append, List.filter_singleton,
      decide_eq_true (show (c.fact x.key a).revisionId = x.revisionId from rfl)]
    rfl
  · show (x.ledger.facts ++ [c.fact x.key a]).map Fact.command = _
    rw [List.map_append, ← command_of_key x.named]
    rfl

/-- **What is accepted** are the actions of the state that is shown, unless the publication
was withdrawn. -/
theorem accepts_iff (x : Shown) {bound : Bound} (hmembers : x.MembersValid bound)
    {decisionId commandId : String} (hfresh : x.Fresh decisionId commandId) (action : String) :
    x.Accepts bound decisionId commandId action ↔ ∃ a, FactAction.ofValue action = some a ∧
      a ∈ nextActions x.view.lifecycleState (withdrawn x.actions) := by
  constructor
  · rintro ⟨⟨view, s'⟩, h⟩
    obtain ⟨key, current, hkey, -, hread, hcommanded, -⟩ := decideBody_eq_ok.mp h
    obtain rfl := Except.ok.inj (x.named.symm.trans hkey)
    obtain rfl := Except.ok.inj (x.read.symm.trans hread)
    rcases hcommanded with ⟨f, hf, -, -⟩ | ⟨-, a, hdecided⟩
    · cases (x.factOf_eq_none hfresh).symm.trans hf
    · refine ⟨a, hdecided.named, (x.spelled.allowed_iff x.lifecycleState_actions a).mp ?_⟩
      rw [← x.published_eq]
      exact hdecided.permitted
  · rintro ⟨a, hnamed, ha⟩
    exact (x.exists_next hmembers hfresh hnamed
      ((x.spelled.allowed_iff x.lifecycleState_actions a).mpr ha)).1

end Shown

/-- **What is shown of a revision**, and what it says about the next decision. Both readers
agree on every stored revision. Two revisions that are shown in the same state, and whose
members are eligible, accept the same actions exactly if both or neither of them
had its publication withdrawn. -/
theorem shown_state_decides_iff :
    (∀ s, Reachable s → ∀ scope definitionId key, definitionKey scope definitionId = .ok key →
      ∀ row ∈ s.revisions key, ∃ view shown, (s.rows key).read row.revisionId = .ok view ∧
        s.readRevisionForWorkbench scope definitionId row.revisionId true = .ok shown ∧
        shown.lifecycleState = view.lifecycleState ∧
        (shown.publicationState = "PUBLISHED" ↔ view.published = true) ∧
        (view.published = true ↔ view.lifecycleState = "PUBLISHED")) ∧
    ∀ (x y : Shown) (bound bound' : Bound) (d c d' c' : String),
      x.view.lifecycleState = y.view.lifecycleState → x.MembersValid bound → y.MembersValid bound' →
      x.Fresh d c → y.Fresh d' c' →
      ((∀ action, x.Accepts bound d c action ↔ y.Accepts bound' d' c' action) ↔
        withdrawn x.actions = withdrawn y.actions) := by
  refine ⟨fun s h scope definitionId key hkey row hrow => h.sound.readers_agree hkey hrow, ?_⟩
  intro x y bound bound' d c d' c' hstate hx hy hfresh hfresh'
  simp only [x.accepts_iff hx hfresh, y.accepts_iff hy hfresh']
  constructor
  · intro hsame
    have happroved : withdrawn x.actions = true ∨ withdrawn y.actions = true →
        x.view.lifecycleState = "APPROVED" := by
      rintro (hw | hw)
      · exact x.spelled.approved_of_withdrawn x.lifecycleState_actions hw
      · rw [hstate]
        exact y.spelled.approved_of_withdrawn y.lifecycleState_actions hw
    -- of an approved revision and a withdrawn publication only the first can be published
    have hpublish := hsame "PUBLISH"
    simp only [show FactAction.ofValue "PUBLISH" = some .publish from rfl, Option.some.injEq,
      exists_eq_left'] at hpublish
    by_cases hw : withdrawn x.actions = true ∨ withdrawn y.actions = true
    · rw [← hstate, happroved hw] at hpublish
      revert hpublish
      cases withdrawn x.actions <;> cases withdrawn y.actions <;> decide
    · rw [not_or, Bool.not_eq_true, Bool.not_eq_true] at hw
      rw [hw.1, hw.2]
  · intro hw action
    rw [hstate, hw]

end Revisions

namespace Sample

local instance shownWhitespace : Whitespace := .kelvin

/-- The agent of the sample is published. -/
def eligible : Bound := fun m =>
  some ⟨[⟨m.revisionId, some m.digest, some "PUBLISHED"⟩], some m.revisionId, true, false, none⟩

/-- The first revision of the sample is shown, after some actions by some commands. -/
structure Follows (x : Shown) (actions : List FactAction) (commands : List String) : Prop where
  scope : x.scope = scope
  revision : x.view.revision = letterK.record
  actions : x.actions = actions
  commands : x.ledger.facts.map Fact.command = commands.map (commandKey Sample.scope)

variable {x : Shown} {actions : List FactAction} {commands : List String}

theorem Follows.membersValid (h : Follows x actions commands) : x.MembersValid eligible := by
  refine ⟨letterK.ordered, ?_, by decide +kernel⟩
  rw [h.revision]
  exact letterK.fromRecord_record

theorem Follows.fresh (h : Follows x actions commands) (commandId : String)
    (hid : isIdentifier commandId = true) (hnew : commandId ∉ commands) :
    x.Fresh "decision" commandId := by
  refine ⟨by decide, hid, ?_⟩
  rw [h.commands, h.scope]
  intro hmem
  obtain ⟨c, hc, heq⟩ := List.mem_map.mp hmem
  rw [commandKey, commandKey] at heq
  simp only [Prod.mk.injEq, true_and] at heq
  exact hnew (heq ▸ hc)

theorem Follows.next (h : Follows x actions commands) (a : FactAction) (action commandId : String)
    (hid : isIdentifier commandId = true) (hnew : commandId ∉ commands)
    (hnamed : FactAction.ofValue action = some a)
    (hallowed : allowed actions (lastOf FactAction.isPublication actions = some .publish) a = true) :
    ∃ y, Follows y (actions ++ [a]) (commands ++ [commandId]) := by
  obtain ⟨-, y, hscope, hrevision, hactions, hcommands⟩ :=
    x.exists_next h.membersValid (h.fresh commandId hid hnew) hnamed (by rwa [h.actions])
  refine ⟨y, hscope.trans h.scope, hrevision.trans h.revision, by rw [hactions, h.actions], ?_⟩
  rw [hcommands, h.commands, h.scope, List.map_append]
  rfl

theorem exists_created : ∃ x, Follows x [.create] ["command"] := by
  have hsound : Sound (opened letterK) := created.sound sound_empty
  have hrow : letterK.row ∈ (opened letterK).revisions key := List.mem_singleton.mpr rfl
  obtain ⟨view, hview, hrevision, -⟩ := hsound.read hrow
  have hkey : definitionKey scope "employee" = .ok key := by decide +kernel
  have hbody : createBody (command letterK) Ledger.empty = .ok (view, opened letterK) :=
    createBody_eq_ok.mpr ⟨key, hkey, by decide, .inr ⟨rfl, created⟩, hview⟩
  let x : Shown := ⟨opened letterK, .call eligible (.create (command letterK)) .empty hbody, scope,
    "employee", "employee-1", key, hkey, view, hview⟩
  exact ⟨x, rfl, hrevision, x.actions_eq, rfl⟩

theorem exists_approved :
    ∃ x, Follows x [.create, .validate, .approve] ["command", "validate", "approve"] := by
  obtain ⟨x, hx⟩ := exists_created
  obtain ⟨x, hx⟩ := hx.next .validate "VALIDATE" "validate" (by decide) (by decide) rfl rfl
  exact hx.next .approve "APPROVE" "approve" (by decide) (by decide) rfl rfl

theorem exists_withdrawn : ∃ x, Follows x [.create, .validate, .approve, .publish, .unpublish]
    ["command", "validate", "approve", "publish", "unpublish"] := by
  obtain ⟨x, hx⟩ := exists_approved
  obtain ⟨x, hx⟩ := hx.next .publish "PUBLISH" "publish" (by decide) (by decide) rfl rfl
  exact hx.next .unpublish "UNPUBLISH" "unpublish" (by decide) (by decide) rfl rfl

/-- An approved revision and a withdrawn one are shown in the same state, and only the
first can be published. -/
theorem withdrawn_shown_as_approved :
    ¬ ∀ (x y : Shown) (bound bound' : Bound) (d c d' c' : String),
      x.view.lifecycleState = y.view.lifecycleState → x.MembersValid bound → y.MembersValid bound' →
      x.Fresh d c → y.Fresh d' c' →
      ∀ action, x.Accepts bound d c action ↔ y.Accepts bound' d' c' action := by
  intro h
  obtain ⟨x, hx⟩ := exists_approved
  obtain ⟨y, hy⟩ := exists_withdrawn
  have hxstate := x.lifecycleState_actions
  have hystate := y.lifecycleState_actions
  rw [hx.actions] at hxstate
  rw [hy.actions] at hystate
  have hstate : x.view.lifecycleState = y.view.lifecycleState :=
    (Except.ok.inj hxstate).symm.trans (Except.ok.inj hystate)
  have hxfresh := hx.fresh "again" (by decide) (by decide)
  have hyfresh := hy.fresh "again" (by decide) (by decide)
  have hsame := h x y eligible eligible _ _ _ _ hstate hx.membersValid hy.membersValid hxfresh hyfresh
    "PUBLISH"
  rw [x.accepts_iff hx.membersValid hxfresh, y.accepts_iff hy.membersValid hyfresh, hx.actions, hy.actions,
    ← Except.ok.inj hxstate, ← Except.ok.inj hystate] at hsame
  obtain ⟨a, -, ha⟩ := hsame.mp ⟨.publish, rfl, by decide⟩
  exact List.not_mem_nil ha

/-- The created revision of the sample, read twice. -/
theorem shown_state_decides_iff_created : ∃ x, Follows x [.create] ["command"] ∧
    ∀ action, x.Accepts eligible "decision" "first" action ↔ x.Accepts eligible "decision" "second" action := by
  obtain ⟨x, hx⟩ := exists_created
  exact ⟨x, hx, (shown_state_decides_iff.2 x x eligible eligible _ _ _ _ rfl hx.membersValid hx.membersValid
    (hx.fresh "first" (by decide) (by decide)) (hx.fresh "second" (by decide) (by decide))).mpr rfl⟩

end Sample

end Employee

end AgentPlatform
