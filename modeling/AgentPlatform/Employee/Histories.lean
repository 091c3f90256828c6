/-
AgentPlatform/Employee/Histories.lean

What the ledger of employee definitions holds after any transactions.

`createNew_eq_ok` and `decideNew_eq_ok` say what a transaction writes, and under which
conditions. From them, **main result:** `Created.sound` and `Decided.sound`. The version of a definition
counts its facts, which are numbered; its revisions are one chain; the facts of a
revision spell a lifecycle; and every fact carries the digest of its revision.
-/
import AgentPlatform.Employee.Ledger

namespace AgentPlatform

open Py

namespace Employee

/-! ### Lifecycles -/

/-- The histories of a revision. -/
inductive Spelled : List FactAction → Prop
  | created : Spelled [.create]
  | validated : Spelled [.create, .validate]
  | rejected : Spelled [.create, .validate, .reject]
  | approved : Spelled [.create, .validate, .approve]
  | published {decisions : List FactAction} (h : ∀ a ∈ decisions, a.isMatch = true) :
      Spelled ([.create, .validate, .approve, .publish] ++ decisions)
  | ended {decisions : List FactAction} (h : ∀ a ∈ decisions, a.isMatch = true) {a : FactAction}
      (ha : a ∈ [.unpublish, .revokePublication, .deprecate]) :
      Spelled ([.create, .validate, .approve, .publish] ++ decisions ++ [a])

theorem lastOf_append (p : FactAction → Bool) (l m : List FactAction) :
    lastOf p (l ++ m) = (lastOf p m).or (lastOf p l) := by
  rw [lastOf, List.reverse_append, List.find?_append]
  rfl

/-- While a publication is in effect, the last fact is it or a decision on a match. -/
theorem getLast?_published {decisions : List FactAction} (h : ∀ a ∈ decisions, a.isMatch = true)
    {b : FactAction} (hb : ([FactAction.create, .validate, .approve, .publish] ++ decisions).getLast? = some b) :
    b = .publish ∨ b.isMatch = true := by
  rcases List.eq_nil_or_concat decisions with rfl | ⟨init, c, rfl⟩
  · exact .inl (Option.some.inj hb).symm
  · rw [List.concat_eq_append, ← List.append_assoc, List.getLast?_concat] at hb
    cases hb
    exact .inr (h _ (by simp))

/-- **A history goes on** by what is allowed. -/
theorem Spelled.concat {l : List FactAction} {a : FactAction} (h : Spelled l)
    (ha : allowed l (lastOf FactAction.isPublication l = some .publish) a = true) : Spelled (l ++ [a]) := by
  cases h with
  | created =>
    cases a with
    | validate => exact .validated
    | _ => exact absurd ha (by decide)
  | validated =>
    cases a with
    | approve => exact .approved
    | reject => exact .rejected
    | _ => exact absurd ha (by decide)
  | rejected => cases a <;> exact absurd ha (by decide)
  | approved =>
    cases a with
    | publish =>
      have hpublished : Spelled ([.create, .validate, .approve, .publish] ++ []) :=
        .published fun _ hmem => absurd hmem List.not_mem_nil
      exact hpublished
    | _ => exact absurd ha (by decide)
  | @published decisions hmatches =>
    cases a with
    | create => cases ha
    | validate =>
      rw [allowed, decide_eq_true_eq] at ha
      have := congrArg List.length ha
      simp at this
    | approve | reject | publish =>
      rcases getLast?_published hmatches (of_decide_eq_true ha) with heq | heq <;> cases heq
    | grantMatch | denyMatch | revokeMatch =>
      rw [List.append_assoc]
      refine .published fun b hb => ?_
      rcases List.mem_append.mp hb with hb | hb
      · exact hmatches b hb
      · rw [List.mem_singleton.mp hb]
        rfl
    | _ => exact .ended hmatches (by decide)
  | @ended decisions hmatches e he =>
    have hkind : e.isPublication = true ∧ e ≠ .publish ∧ e ≠ .validate ∧ e ≠ .approve := by
      cases e <;> first | decide | exact absurd he (by decide)
    obtain ⟨hpublication, hne⟩ := hkind
    have hended : lastOf FactAction.isPublication
        ([FactAction.create, .validate, .approve, .publish] ++ decisions ++ [e]) = some e := by
      rw [lastOf_append, lastOf, List.reverse_singleton, List.find?_singleton, if_pos hpublication]
      rfl
    rw [hended] at ha
    cases a with
    | create => cases ha
    | validate =>
      rw [allowed, decide_eq_true_eq] at ha
      have := congrArg List.length ha
      simp at this
    | approve | reject =>
      rw [allowed, List.getLast?_concat] at ha
      exact absurd (Option.some.inj (of_decide_eq_true ha)) hne.2.1
    | publish =>
      rw [allowed, List.getLast?_concat] at ha
      exact absurd (Option.some.inj (of_decide_eq_true ha)) hne.2.2
    | _ =>
      have hpublished : decide (some e = some FactAction.publish) = true := ha
      exact absurd (Option.some.inj (of_decide_eq_true hpublished)) hne.1

section Transactions

variable [Unicodedata] {s s' : Ledger} {key : DefinitionKey} {view current : View}

/-! ### What a transaction writes -/

omit [Unicodedata] in
theorem identifier_isOk {value : String} : (∃ x, identifier value = .ok x) ↔ isIdentifier value = true := by
  by_cases h : isIdentifier value = true
  · rw [identifier, if_pos h]
    exact ⟨fun _ => h, fun _ => ⟨value, rfl⟩⟩
  · rw [identifier, if_neg h]
    exact ⟨fun ⟨_, hx⟩ => (nomatch hx), fun h' => absurd h' h⟩

omit [Unicodedata] in
theorem Rows.find_eq_some {rows : Rows} {revisionId : String} {row : RevisionRow}
    (h : rows.find revisionId = some row) : row ∈ rows.revisions ∧ row.revisionId = revisionId := by
  have hid := List.find?_some h
  exact ⟨List.mem_of_find?_eq_some h, of_decide_eq_true hid⟩

/-- What `_read` finds. -/
theorem Rows.read_eq_ok {rows : Rows} {revisionId : String} (h : rows.read revisionId = .ok view) :
    ∃ row, rows.find revisionId = some row ∧ rows.version = some view.aggregateVersion ∧
      view.revision = row.record ∧ view.digest = row.digest ∧
      view.facts.map Prod.fst = (rows.factsAt revisionId).map Fact.action ∧
      view.published = decide
        (lastOf FactAction.isPublication ((rows.factsAt revisionId).map Fact.action) = some .publish) := by
  unfold read at h
  split at h
  · next row version hrow hversion =>
    obtain ⟨revision, -, h⟩ := bind_eq_ok.mp h
    rw [ite_error_eq_ok'] at h
    obtain ⟨-, h⟩ := h
    obtain ⟨state, -, h⟩ := bind_eq_ok.mp h
    cases h
    refine ⟨row, hrow, hversion, rfl, rfl, ?_, rfl⟩
    rw [List.map_map]
    rfl
  · cases h

omit [Unicodedata] in
theorem insertFact_eq_ok {f : Fact} : s.insertFact f = .ok s' ↔ isIdentifier f.decisionId = true ∧
    isIdentifier f.commandId = true ∧ s.factTaken f = false ∧ s' = s.addFact f := by
  rw [Ledger.insertFact, bind_eq_ok]
  simp only [bind_eq_ok, ite_error_eq_ok', Bool.not_eq_true, Except.ok.injEq]
  rw [← identifier_isOk, ← identifier_isOk]
  constructor
  · rintro ⟨d, hd, c, hc, htaken, rfl⟩
    exact ⟨⟨d, hd⟩, ⟨c, hc⟩, htaken, rfl⟩
  · rintro ⟨⟨d, hd⟩, ⟨c, hc⟩, htaken, rfl⟩
    exact ⟨d, hd, c, hc, htaken, rfl⟩

omit [Unicodedata] in
theorem insertRevision_eq_ok {row : RevisionRow} : s.insertRevision key row = .ok s' ↔
    storable row.record = true ∧ s.revisionTaken key row = false ∧ s' = s.addRevision key row := by
  rw [Ledger.insertRevision, ite_error_eq_ok', not_or, Bool.not_eq_false, Bool.not_eq_true,
    Except.ok.injEq, and_assoc, eq_comm (b := s')]

/-- A new revision is created. -/
structure Created (c : CreateCommand) (key : DefinitionKey) (s s' : Ledger) : Prop where
  expected : (((s.definitions key).getD 0 : Nat) : Int) = c.expectedVersion
  root : (s.definitions key).isNone = c.revision.predecessorRevisionId.isNone
  predecessor : ∀ p, c.revision.predecessorRevisionId = some p → ∃ view, (s.rows key).read p = .ok view
  storable : storable c.revision.record = true
  newRevision : s.revisionTaken key c.revision.row = false
  decisionId : isIdentifier c.decisionId = true
  commandId : isIdentifier c.commandId = true
  newFact : s.factTaken (c.fact key) = false
  writes : s' = ((s.setVersion key ((s.definitions key).getD 0 + 1)).addRevision key c.revision.row).addFact
    (c.fact key)

theorem openVersion_eq_ok {c : CreateCommand}
    (hroot : (s.definitions key).isNone = c.revision.predecessorRevisionId.isNone) :
    openVersion c key s = .ok s' ↔ s' = s.setVersion key ((s.definitions key).getD 0 + 1) ∧
      ∀ p, c.revision.predecessorRevisionId = some p → ∃ view, (s.rows key).read p = .ok view := by
  rw [openVersion]
  cases hhead : s.definitions key with
  | none =>
    rw [hhead] at hroot
    have hnone : c.revision.predecessorRevisionId = none := Option.isNone_iff_eq_none.mp hroot.symm
    rw [hnone]
    exact ⟨fun h => ⟨(Except.ok.inj h).symm, nofun⟩, fun h => by rw [h.1]; rfl⟩
  | some version =>
    rw [hhead] at hroot
    obtain ⟨p, hp⟩ : ∃ p, c.revision.predecessorRevisionId = some p :=
      Option.ne_none_iff_exists'.mp fun h => by
        rw [h] at hroot
        cases hroot
    rw [hp, bind_eq_ok]
    constructor
    · rintro ⟨view, hview, h⟩
      refine ⟨(Except.ok.inj h).symm, ?_⟩
      rintro _ ⟨⟩
      exact ⟨view, hview⟩
    · rintro ⟨rfl, h⟩
      obtain ⟨view, hview⟩ := h p rfl
      exact ⟨view, hview, rfl⟩

theorem createNew_eq_ok {c : CreateCommand} : createNew c key s = .ok s' ↔ Created c key s s' := by
  rw [createNew, ite_error_eq_ok', ite_error_eq_ok', not_not, not_not]
  constructor
  · rintro ⟨hexpected, hroot, h⟩
    obtain ⟨opened, hopened, h⟩ := bind_eq_ok.mp h
    obtain ⟨revised, hrevised, h⟩ := bind_eq_ok.mp h
    obtain ⟨hstorable, hnew, rfl⟩ := insertRevision_eq_ok.mp hrevised
    obtain ⟨hdecision, hcommand, hfact, rfl⟩ := insertFact_eq_ok.mp h
    obtain ⟨rfl, hpredecessor⟩ := (openVersion_eq_ok hroot).mp hopened
    exact ⟨hexpected, hroot, hpredecessor, hstorable, hnew, hdecision, hcommand, hfact, rfl⟩
  · rintro ⟨hexpected, hroot, hpredecessor, hstorable, hnew, hdecision, hcommand, hfact, rfl⟩
    exact ⟨hexpected, hroot,
      bind_eq_ok.mpr ⟨_, (openVersion_eq_ok hroot).mpr ⟨rfl, hpredecessor⟩,
        bind_eq_ok.mpr ⟨_, insertRevision_eq_ok.mpr ⟨hstorable, hnew, rfl⟩,
          insertFact_eq_ok.mpr ⟨hdecision, hcommand, hfact, rfl⟩⟩⟩⟩

/-- A decision on a revision is recorded. -/
structure Decided (c : DecideCommand) (bound : Bound) (key : DefinitionKey) (current : View)
    (action : FactAction) (s s' : Ledger) : Prop where
  digest : current.digest = c.revisionDigest
  expected : (current.aggregateVersion : Int) = c.expectedVersion
  named : FactAction.ofValue c.action = some action
  permitted : allowed (current.facts.map Prod.fst) current.published action = true
  members : action.needsMembers = true → ∃ revision,
    EmployeeRevision.fromRecord current.revision = .ok revision ∧
      validateMembers bound revision.members = .ok ()
  decisionId : isIdentifier c.decisionId = true
  commandId : isIdentifier c.commandId = true
  newFact : s.factTaken (c.fact key action) = false
  writes : s' = (s.setVersion key (current.aggregateVersion + 1)).addFact (c.fact key action)

theorem decideNew_eq_ok {c : DecideCommand} {bound : Bound} :
    decideNew c bound key current s = .ok s' ↔ ∃ action, Decided c bound key current action s s' := by
  rw [decideNew, ite_error_eq_ok', ite_error_eq_ok', not_not, not_not]
  constructor
  · rintro ⟨hdigest, hexpected, h⟩
    split at h
    · cases h
    · next action hnamed =>
      rw [ite_error_eq_ok', Bool.not_eq_false] at h
      obtain ⟨hpermitted, h⟩ := h
      obtain ⟨⟨⟩, hmembers, h⟩ := bind_eq_ok.mp h
      obtain ⟨hdecision, hcommand, hfact, rfl⟩ := insertFact_eq_ok.mp h
      refine ⟨action, hdigest, hexpected, hnamed, hpermitted, fun hneeds => ?_, hdecision, hcommand,
        hfact, rfl⟩
      rw [checkMembers, if_pos hneeds] at hmembers
      obtain ⟨revision, hrevision, hmembers⟩ := bind_eq_ok.mp hmembers
      exact ⟨revision, hrevision, hmembers⟩
  · rintro ⟨action, hdigest, hexpected, hnamed, hpermitted, hmembers, hdecision, hcommand, hfact, rfl⟩
    refine ⟨hdigest, hexpected, ?_⟩
    rw [hnamed]
    dsimp only
    rw [ite_error_eq_ok', Bool.not_eq_false]
    refine ⟨hpermitted, bind_eq_ok.mpr ⟨(), ?_, insertFact_eq_ok.mpr ⟨hdecision, hcommand, hfact, rfl⟩⟩⟩
    rw [checkMembers]
    split
    · next hneeds =>
      obtain ⟨revision, hrevision, hvalid⟩ := hmembers hneeds
      exact bind_eq_ok.mpr ⟨revision, hrevision, hvalid⟩
    · rfl

/-! ### Sound ledgers -/

def Ledger.history (s : Ledger) (key : DefinitionKey) (revisionId : String) : List FactAction :=
  ((s.factsOf key).filter (·.revisionId = revisionId)).map Fact.action

/-- What holds of the ledger after any transactions. -/
structure Sound (s : Ledger) : Prop where
  counted : ∀ key, (s.definitions key).getD 0 = (s.factsOf key).length
  opened : ∀ key, s.definitions key = none ↔ s.revisions key = []
  numbered : ∀ key, Chain.Numbered Fact.ordinal (s.factsOf key)
  linked : ∀ key, Chain.Linked none (some ∘ RevisionRow.revisionId) RevisionRow.predecessorRevisionId
    (s.revisions key)
  distinct : ∀ key, ((s.revisions key).map RevisionRow.revisionId).Nodup
  stored : ∀ key, ∀ row ∈ s.revisions key, ∃ r : EmployeeRevision, row = r.row
  owned : ∀ f ∈ s.facts, ∃ row ∈ s.revisions f.key, row.revisionId = f.revisionId ∧
    f.revisionDigest = row.digest
  spelled : ∀ key, ∀ row ∈ s.revisions key, Spelled (s.history key row.revisionId)
  commands : (s.facts.map Fact.command).Nodup

theorem sound_empty : Sound Ledger.empty where
  counted _ := rfl
  opened _ := ⟨fun _ => rfl, fun _ => rfl⟩
  numbered _ := rfl
  linked _ := rfl
  distinct _ := List.nodup_nil
  stored _ _ h := absurd h List.not_mem_nil
  owned _ h := absurd h List.not_mem_nil
  spelled _ _ h := absurd h List.not_mem_nil
  commands := List.nodup_nil

omit [Unicodedata] in
theorem factTaken_eq_false {f : Fact} : s.factTaken f = false ↔
    ∀ g ∈ s.facts, ¬ (g.key = f.key ∧ g.ordinal = f.ordinal) ∧ g.command ≠ f.command := by
  rw [Ledger.factTaken, List.any_eq_false]
  simp only [Bool.or_eq_true, Bool.and_eq_true, decide_eq_true_eq, not_or, ne_eq]

omit [Unicodedata] in
theorem revisionTaken_eq_false {row : RevisionRow} : s.revisionTaken key row = false ↔
    ∀ r ∈ s.revisions key, r.revisionId ≠ row.revisionId ∧
      ∀ p, row.predecessorRevisionId = some p → r.predecessorRevisionId ≠ some p := by
  rw [Ledger.revisionTaken, List.any_eq_false]
  refine forall₂_congr fun r _ => ?_
  simp only [Bool.or_eq_true, Bool.and_eq_true, decide_eq_true_eq, not_or, not_and, ne_eq]
  refine and_congr_right fun _ => ?_
  cases hrow : row.predecessorRevisionId with
  | none => simp
  | some p => simp

/-- **One command** writes one fact, and at most one revision of its definition. -/
theorem Sound.write (f : Fact) (rows : List RevisionRow) (h : Sound s) (hkey : f.key = key)
    (hordinal : f.ordinal = (s.definitions key).getD 0 + 1)
    (hcommand : ∀ g ∈ s.facts, g.command ≠ f.command)
    (hgrows : ∀ row ∈ s.revisions key, row ∈ rows)
    (hlinked : Chain.Linked none (some ∘ RevisionRow.revisionId) RevisionRow.predecessorRevisionId rows)
    (hdistinct : (rows.map RevisionRow.revisionId).Nodup)
    (hstored : ∀ row ∈ rows, ∃ r : EmployeeRevision, row = r.row)
    (howned : ∃ row ∈ rows, row.revisionId = f.revisionId ∧ f.revisionDigest = row.digest)
    (hspelled : ∀ row ∈ rows, Spelled (s.history key row.revisionId
      ++ if f.revisionId = row.revisionId then [f.action] else []))
    (hdefinitions : s'.definitions key = some ((s.definitions key).getD 0 + 1))
    (hothers : ∀ k, k ≠ key → s'.definitions k = s.definitions k ∧ s'.revisions k = s.revisions k)
    (hrevisions : s'.revisions key = rows) (hfacts : s'.facts = s.facts ++ [f]) : Sound s' := by
  have hfactsOf : s'.factsOf key = s.factsOf key ++ [f] := by
    rw [Ledger.factsOf, hfacts, List.filter_append, List.filter_singleton, decide_eq_true hkey]
    rfl
  have hfactsOf' : ∀ k, k ≠ key → s'.factsOf k = s.factsOf k := by
    intro k hk
    have hne : ¬ f.key = k := fun heq => hk (heq.symm.trans hkey)
    rw [Ledger.factsOf, hfacts, List.filter_append, List.filter_singleton, decide_eq_false hne]
    exact List.append_nil _
  have hhistory : ∀ revisionId, s'.history key revisionId
      = s.history key revisionId ++ if f.revisionId = revisionId then [f.action] else [] := by
    intro revisionId
    rw [Ledger.history, hfactsOf, List.filter_append, List.map_append]
    congr 1
    rw [List.filter_singleton]
    split
    · next heq =>
      rw [decide_eq_true heq]
      rfl
    · next hne =>
      rw [decide_eq_false hne]
      rfl
  have hcases : ∀ {P : DefinitionKey → Prop}, P key → (∀ k, k ≠ key → P k) → ∀ k, P k := by
    intro P hp hq k
    by_cases hk : k = key
    · exact hk ▸ hp
    · exact hq k hk
  refine ⟨hcases ?_ ?_, hcases ?_ ?_, hcases ?_ ?_, hcases ?_ ?_, hcases ?_ ?_, hcases ?_ ?_, ?_,
    hcases ?_ ?_, ?_⟩
  · rw [hdefinitions, hfactsOf, List.length_append, ← h.counted]
    rfl
  · intro k hk
    rw [(hothers k hk).1, hfactsOf' k hk]
    exact h.counted k
  · rw [hdefinitions, hrevisions]
    obtain ⟨row, hrow, -⟩ := howned
    exact ⟨fun heq => (nomatch heq), fun heq => absurd hrow (heq ▸ List.not_mem_nil)⟩
  · intro k hk
    rw [(hothers k hk).1, (hothers k hk).2]
    exact h.opened k
  · rw [hfactsOf, Chain.numbered_concat]
    exact ⟨h.numbered key, by rw [hordinal, h.counted]⟩
  · intro k hk
    rw [hfactsOf' k hk]
    exact h.numbered k
  · rw [hrevisions]
    exact hlinked
  · intro k hk
    rw [(hothers k hk).2]
    exact h.linked k
  · rw [hrevisions]
    exact hdistinct
  · intro k hk
    rw [(hothers k hk).2]
    exact h.distinct k
  · rw [hrevisions]
    exact hstored
  · intro k hk
    rw [(hothers k hk).2]
    exact h.stored k
  · intro g hg
    rw [hfacts] at hg
    rcases List.mem_append.mp hg with hg | hg
    · obtain ⟨row, hrow, hsame⟩ := h.owned g hg
      by_cases hk : g.key = key
      · rw [hk, hrevisions]
        rw [hk] at hrow
        exact ⟨row, hgrows row hrow, hsame⟩
      · rw [(hothers _ hk).2]
        exact ⟨row, hrow, hsame⟩
    · rw [List.mem_singleton.mp hg, hkey, hrevisions]
      exact howned
  · rw [hrevisions]
    intro row hrow
    rw [hhistory]
    exact hspelled row hrow
  · intro k hk
    rw [(hothers k hk).2]
    intro row hrow
    rw [Ledger.history, hfactsOf' k hk]
    exact h.spelled k row hrow
  · rw [hfacts, List.map_append, List.nodup_append]
    refine ⟨h.commands, List.nodup_singleton _, ?_⟩
    intro a ha b hb
    obtain ⟨g, hg, rfl⟩ := List.mem_map.mp ha
    obtain ⟨f', hf', rfl⟩ := List.mem_map.mp hb
    rw [List.mem_singleton.mp hf']
    exact hcommand g hg

/-- The facts of a revision are stored in the order of their numbers. -/
theorem Sound.factsAt (h : Sound s) (key : DefinitionKey) (revisionId : String) :
    (s.rows key).factsAt revisionId = (s.factsOf key).filter (·.revisionId = revisionId) := by
  have hsorted : (s.factsOf key).Pairwise fun f g => f.ordinal ≤ g.ordinal := by
    have hpairs : ((s.factsOf key).map Fact.ordinal).Pairwise (· < ·) := by
      rw [h.numbered key]
      exact List.pairwise_lt_range' ..
    exact (List.pairwise_map.mp hpairs).imp le_of_lt
  exact sortedBy_eq_self (hsorted.filter _)

/-- A new revision follows the last one of its definition. -/
theorem Created.previous {c : CreateCommand} (h : Sound s) (hc : Created c key s s') :
    c.revision.predecessorRevisionId
      = ((s.revisions key).getLast?.map (some ∘ RevisionRow.revisionId)).getD none := by
  cases hp : c.revision.predecessorRevisionId with
  | none =>
    have hnone : s.definitions key = none := by
      have hroot := hc.root
      rw [hp] at hroot
      exact Option.isNone_iff_eq_none.mp hroot
    rw [(h.opened key).mp hnone]
    rfl
  | some p =>
    -- the predecessor is a revision that no other one names, and so the last one
    obtain ⟨view, hview⟩ := hc.predecessor p hp
    obtain ⟨row, hrow, -⟩ := Rows.read_eq_ok hview
    obtain ⟨hmem, hid⟩ : row ∈ s.revisions key ∧ row.revisionId = p := Rows.find_eq_some hrow
    have hlast : (s.revisions key).getLast? = some row := by
      by_contra hne
      obtain ⟨b, hb, hnames⟩ := ((h.linked key).named_iff (h.distinct key) hmem).mpr hne
      rw [hid] at hnames
      exact (revisionTaken_eq_false.mp hc.newRevision b hb).2 p hp hnames
    rw [hlast, Option.map_some, Option.getD_some, Function.comp_apply, hid]

theorem Created.sound {c : CreateCommand} (h : Sound s) (hc : Created c key s s') : Sound s' := by
  have hnew := revisionTaken_eq_false.mp hc.newRevision
  have hfacts := factTaken_eq_false.mp hc.newFact
  have hexpected : (c.fact key).ordinal = (s.definitions key).getD 0 + 1 := by
    rw [CreateCommand.fact, ← hc.expected, Int.toNat_natCast]
  have hadded : ∀ k, s'.revisions k = if k = key then s.revisions k ++ [c.revision.row]
      else s.revisions k := fun k => by rw [hc.writes]; rfl
  have hfact : (c.fact key).key = key := rfl
  refine Sound.write (c.fact key) (s.revisions key ++ [c.revision.row]) h hfact hexpected
    (fun g hg => (hfacts g hg).2) (fun row hrow => List.mem_append_left _ hrow) ?_ ?_ ?_ ?_ ?_ ?_ ?_ ?_ ?_
  · exact Chain.linked_concat.mpr ⟨h.linked key, hc.previous h⟩
  · rw [List.map_append, List.nodup_append]
    refine ⟨h.distinct key, List.nodup_singleton _, ?_⟩
    intro a ha b hb
    obtain ⟨row, hrow, rfl⟩ := List.mem_map.mp ha
    obtain ⟨row', hrow', rfl⟩ := List.mem_map.mp hb
    rw [List.mem_singleton.mp hrow']
    exact (hnew row hrow).1
  · intro row hrow
    rcases List.mem_append.mp hrow with hrow | hrow
    · exact h.stored key row hrow
    · exact ⟨c.revision, List.mem_singleton.mp hrow⟩
  · exact ⟨c.revision.row, by simp, rfl, rfl⟩
  · intro row hrow
    rcases List.mem_append.mp hrow with hrow | hrow
    · have hother : ¬ (c.fact key).revisionId = row.revisionId := (hnew row hrow).1.symm
      rw [if_neg hother, List.append_nil]
      exact h.spelled key row hrow
    · -- no fact is about a revision that was not there
      rw [List.mem_singleton.mp hrow]
      have hnone : s.history key c.revision.row.revisionId = [] := by
        rw [Ledger.history, List.map_eq_nil_iff, List.filter_eq_nil_iff]
        intro f hf hid
        rw [Ledger.factsOf, List.mem_filter, decide_eq_true_eq] at hf
        obtain ⟨row', hrow', hid', -⟩ := h.owned f hf.1
        rw [hf.2] at hrow'
        exact (hnew row' hrow').1 (hid'.trans (of_decide_eq_true hid))
      have hcreated : (c.fact key).revisionId = c.revision.row.revisionId := rfl
      rw [hnone, if_pos hcreated]
      exact .created
  · rw [hc.writes]
    exact if_pos rfl
  · intro k hk
    refine ⟨?_, by rw [hadded, if_neg hk]⟩
    rw [hc.writes]
    exact if_neg hk
  · rw [hadded, if_pos rfl]
  · rw [hc.writes]
    rfl

theorem Decided.sound {c : DecideCommand} {bound : Bound} {action : FactAction} (h : Sound s)
    (hread : (s.rows key).read c.revisionId = .ok current)
    (hd : Decided c bound key current action s s') : Sound s' := by
  obtain ⟨row, hrow, hversion, -, hdigest, hactions, hpublished⟩ := Rows.read_eq_ok hread
  obtain ⟨hmem, hid⟩ : row ∈ s.revisions key ∧ row.revisionId = c.revisionId := Rows.find_eq_some hrow
  have hstored : s.definitions key = some current.aggregateVersion := hversion
  have hfacts := factTaken_eq_false.mp hd.newFact
  have hfact : (c.fact key action).key = key := rfl
  refine Sound.write (c.fact key action) (s.revisions key) h hfact ?_
    (fun g hg => (hfacts g hg).2) (fun row hrow => hrow) (h.linked key) (h.distinct key) (h.stored key)
    ?_ ?_ ?_ ?_ ?_ ?_
  · rw [hstored, DecideCommand.fact, ← hd.expected, Int.toNat_natCast]
    rfl
  · exact ⟨row, hmem, hid, hd.digest.symm.trans hdigest⟩
  · intro row' hrow'
    split
    · next heq =>
      have heq' : row'.revisionId = c.revisionId := heq.symm
      have hhistory : current.facts.map Prod.fst = s.history key row.revisionId := by
        rw [hactions, h.factsAt, hid, Ledger.history]
      have hpermitted := hd.permitted
      rw [hpublished, ← hactions, hhistory] at hpermitted
      rw [heq', ← hid]
      exact (h.spelled key row hmem).concat hpermitted
    · rw [List.append_nil]
      exact h.spelled key row' hrow'
  · rw [hd.writes, hstored]
    exact if_pos rfl
  · intro k hk
    rw [hd.writes]
    exact ⟨if_neg hk, rfl⟩
  · rw [hd.writes]
    rfl
  · rw [hd.writes]
    rfl

end Transactions

end Employee

end AgentPlatform
