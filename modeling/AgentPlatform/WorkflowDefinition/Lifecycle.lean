/-
AgentPlatform/WorkflowDefinition/Lifecycle.lean

What every run of calls keeps of the stored definitions.

`Stored` says what a stored change does to a record: one version and one fact
more, revisions and published revisions as they were. A pending call has a
record that the stored one has grown out of, and the very same one if the version
is the same; so compare and swap stores changes of the current record only.

An edit of a draft that is validated or reviewed makes a new draft, but leaves
`lifecycleState` as it was. **Main result:** `lifecycles_kept`, in every run in
which only drafts in the state DRAFT are edited.
-/
import AgentPlatform.WorkflowDefinition.Service

namespace AgentPlatform

open Py

namespace WorkflowDefinition

/-! ### Revisions of a record -/

/-- What never changes of a revision. -/
def Revision.core (v : Revision) : String × Option String × WorkflowContent × String × String :=
  (v.revisionId, v.predecessorRevisionId, v.content, v.createdAt, v.digest)

section Modify

variable {rid : String} {f : Revision → Revision} {vs : List Revision}

theorem map_core_modifyRevision (hf : ∀ v ∈ vs, v.revisionId = rid → (f v).core = v.core) :
    (modifyRevision rid f vs).map Revision.core = vs.map Revision.core := by
  induction vs with
  | nil => rfl
  | cons v vs ih =>
    rw [modifyRevision]
    split
    · next h => rw [List.map_cons, List.map_cons, hf v List.mem_cons_self h]
    · rw [List.map_cons, List.map_cons, ih fun v hv => hf v (List.mem_cons_of_mem _ hv)]

theorem mem_modifyRevision {v : Revision} (h : v ∈ modifyRevision rid f vs) :
    (∃ v₀ ∈ vs, v₀.revisionId = rid ∧ v = f v₀) ∨ v ∈ vs := by
  induction vs with
  | nil => cases h
  | cons v₀ vs ih =>
    rw [modifyRevision] at h
    split at h
    · next hid =>
      rcases List.mem_cons.mp h with rfl | h
      · exact .inl ⟨v₀, List.mem_cons_self, hid, rfl⟩
      · exact .inr (List.mem_cons_of_mem _ h)
    · rcases List.mem_cons.mp h with rfl | h
      · exact .inr List.mem_cons_self
      · exact (ih h).imp (fun ⟨v₁, hv₁, hrest⟩ => ⟨v₁, List.mem_cons_of_mem _ hv₁, hrest⟩)
          (List.mem_cons_of_mem _)

theorem mem_modifyRevision_of_ne {v : Revision} (h : v ∈ vs) (hne : v.revisionId ≠ rid) :
    v ∈ modifyRevision rid f vs := by
  induction vs with
  | nil => cases h
  | cons v₀ vs ih =>
    rw [modifyRevision]
    split
    · next hid =>
      rcases List.mem_cons.mp h with rfl | h
      · exact absurd hid hne
      · exact List.mem_cons_of_mem _ h
    · rcases List.mem_cons.mp h with rfl | h
      · exact List.mem_cons_self
      · exact List.mem_cons_of_mem _ (ih h)

theorem exists_mem_modifyRevision {v : Revision} (h : v ∈ vs) (hid : v.revisionId = rid) :
    ∃ v₀ ∈ vs, v₀.revisionId = rid ∧ f v₀ ∈ modifyRevision rid f vs := by
  induction vs with
  | nil => cases h
  | cons v₀ vs ih =>
    rw [modifyRevision]
    split
    · next hid₀ => exact ⟨v₀, List.mem_cons_self, hid₀, List.mem_cons_self⟩
    · next hid₀ =>
      rcases List.mem_cons.mp h with rfl | h
      · exact absurd hid hid₀
      · obtain ⟨v₁, hv₁, hid₁, hmem⟩ := ih h
        exact ⟨v₁, List.mem_cons_of_mem _ hv₁, hid₁, List.mem_cons_of_mem _ hmem⟩

end Modify

/-! ### What a record keeps -/

/-- The state of the current draft, or PUBLISHED when there is none. -/
def Definition.Shows (r : Definition) : Prop :=
  match r.currentDraftRevisionId with
  | none => r.lifecycleState = .published
  | some rid => ∃ v ∈ r.revisions, v.revisionId = rid ∧ r.lifecycleState = v.state

structure Definition.Lawful (r : Definition) : Prop where
  /-- The version is the number of the facts. -/
  version : r.aggregateVersion = r.facts.length
  distinct : (r.revisions.map (·.revisionId)).Nodup
  /-- The digest of a revision is that of its content and predecessor. -/
  digests : ∀ v ∈ r.revisions,
    v.digest = digestOf r.scope r.workflowDefinitionId v.predecessorRevisionId v.content
  /-- A published revision has an approved review of its digest. -/
  reviewed : ∀ v ∈ r.revisions, v.state = .published →
    ∃ x ∈ r.reviews, x.decision = "APPROVED" ∧ x.digest = v.digest
  /-- Reviews are approvals. -/
  approvals : ∀ x ∈ r.reviews, x.decision = "APPROVED"
  /-- The current draft is a revision that is not published. -/
  current : ∀ rid, r.currentDraftRevisionId = some rid →
    rid ≠ "" ∧ ∃ v ∈ r.revisions, v.revisionId = rid ∧ v.state ≠ .published
  lifecycle : r.Shows

/-- What a stored change does to a record. -/
structure Stored (r r' : Definition) : Prop where
  key : r'.key = r.key
  version : r'.aggregateVersion = r.aggregateVersion + 1
  facts : ∃ fact, r'.facts = r.facts ++ [fact]
  /-- Content, predecessor and digest of a revision stay. -/
  cores : r.revisions.map Revision.core <+: r'.revisions.map Revision.core
  /-- A published revision stays as it is. -/
  published : ∀ v ∈ r.revisions, v.state = .published → v ∈ r'.revisions
  reviews : r.reviews <+: r'.reviews

/-- The revisions were there, but for one with a new ID. -/
def Drawn (r r' : Definition) (id : String) : Prop :=
  ∀ v ∈ r'.revisions, v.revisionId ∈ r.revisions.map (·.revisionId) ∨ v.revisionId = id

theorem map_revisionId (vs : List Revision) :
    vs.map (·.revisionId) = (vs.map Revision.core).map Prod.fst := by
  rw [List.map_map]
  rfl

/-! ### Changes -/

section Changes

variable {r : Definition} {resolver : Resolver} {stamp : Stamp} {call : Call} {c : Change}

/-- The record of a change, with the fact that the repository adds. -/
def Change.stored (c : Change) (facts : List Fact) : Definition :=
  { c.record with facts := facts ++ [c.fact] }

theorem draft_eq_ok {v : Revision} (h : r.draft = .ok v) :
    r.currentDraftRevisionId = some v.revisionId ∧ v ∈ r.revisions := by
  rw [Definition.draft] at h
  split at h
  · cases h
  · next rid hrid =>
    split at h
    · cases h
    · split at h
      · cases h
      · next v' hfind =>
        obtain rfl : v' = v := Except.ok.inj h
        have hfound := List.find?_some hfind
        have hid : v'.revisionId = rid := of_decide_eq_true hfound
        exact ⟨hid ▸ hrid, List.mem_of_find?_eq_some hfind⟩

theorem expectedDraft_eq_ok {expected : Int} {v : Revision} (h : r.expectedDraft expected = .ok v) :
    r.aggregateVersion = expected ∧ r.currentDraftRevisionId = some v.revisionId ∧ v ∈ r.revisions := by
  rw [Definition.expectedDraft] at h
  split at h
  · cases h
  · next hversion => exact ⟨not_not.mp hversion, draft_eq_ok h⟩

/-- The current draft is not published, and no other revision has its ID. -/
theorem Definition.Lawful.draft_only (h : r.Lawful) {v : Revision}
    (hcurrent : r.currentDraftRevisionId = some v.revisionId) (hv : v ∈ r.revisions) :
    v.state ≠ .published ∧ ∀ v' ∈ r.revisions, v'.revisionId = v.revisionId → v' = v := by
  have honly : ∀ v' ∈ r.revisions, v'.revisionId = v.revisionId → v' = v :=
    fun v' hv' hid => List.inj_on_of_nodup_map h.distinct hv' hv hid
  obtain ⟨-, v', hv', hid, hstate⟩ := h.current _ hcurrent
  rw [honly v' hv' hid] at hstate
  exact ⟨hstate, honly⟩

/-- A change with one fact more, which leaves the identity of the record. -/
structure Told (r r' : Definition) : Prop where
  scope : r'.scope = r.scope
  workflowDefinitionId : r'.workflowDefinitionId = r.workflowDefinitionId
  version : r'.aggregateVersion = r.aggregateVersion + 1
  facts : ∃ fact, r'.facts = r.facts ++ [fact]

theorem Told.lawful_version {r' : Definition} (ht : Told r r') (h : r.Lawful) :
    r'.aggregateVersion = r'.facts.length := by
  obtain ⟨fact, hfacts⟩ := ht.facts
  rw [ht.version, h.version, hfacts, List.length_append, List.length_singleton]
  exact (Int.natCast_succ _).symm

theorem Told.key {r' : Definition} (ht : Told r r') : r'.key = r.key := by
  rw [Definition.key, ht.scope, ht.workflowDefinitionId, Definition.key]

/-- **The draft is marked** with a state. -/
theorem marked {v : Revision} (v' : Revision) {r' : Definition} (h : r.Lawful) (ht : Told r r')
    (hcurrent : r.currentDraftRevisionId = some v.revisionId) (hv : v ∈ r.revisions)
    (hcore : v'.core = v.core)
    (hrevisions : r'.revisions = modifyRevision v.revisionId (fun _ => v') r.revisions)
    (hlifecycle : r'.lifecycleState = v'.state)
    (hdraft : v'.state = .published ∧ r'.currentDraftRevisionId = none
      ∨ v'.state ≠ .published ∧ r'.currentDraftRevisionId = r.currentDraftRevisionId)
    (hreviews : r.reviews <+: r'.reviews) (happrovals : ∀ x ∈ r'.reviews, x.decision = "APPROVED")
    (hpublished : v'.state = .published →
      ∃ x ∈ r'.reviews, x.decision = "APPROVED" ∧ x.digest = v.digest) :
    r'.Lawful ∧ Stored r r' ∧ Drawn r r' stamp.revisionId := by
  obtain ⟨hstate, honly⟩ := h.draft_only hcurrent hv
  have hcores : r'.revisions.map Revision.core = r.revisions.map Revision.core := by
    rw [hrevisions]
    exact map_core_modifyRevision fun v₀ hv₀ hid => (honly v₀ hv₀ hid) ▸ hcore
  have hid : v'.revisionId = v.revisionId := congrArg Prod.fst hcore
  have hcases : ∀ v₀ ∈ r'.revisions, v₀ = v' ∨ v₀ ∈ r.revisions := by
    intro v₀ hv₀
    rw [hrevisions] at hv₀
    rcases mem_modifyRevision hv₀ with ⟨-, -, -, heq⟩ | hmem
    · exact .inl heq
    · exact .inr hmem
  have hmem : v' ∈ r'.revisions := by
    obtain ⟨-, -, -, hmem⟩ := exists_mem_modifyRevision (f := fun _ => v') hv rfl
    rw [hrevisions]
    exact hmem
  refine ⟨⟨ht.lawful_version h, ?_, fun v₀ hv₀ => ?_, fun v₀ hv₀ hstate₀ => ?_, happrovals,
    fun rid hrid => ?_, ?_⟩, ⟨ht.key, ht.version, ht.facts, hcores ▸ List.prefix_rfl,
    fun v₀ hv₀ hstate₀ => ?_, hreviews⟩, fun v₀ hv₀ => ?_⟩
  · rw [map_revisionId, hcores, ← map_revisionId]
    exact h.distinct
  · rw [ht.scope, ht.workflowDefinitionId]
    rcases hcases v₀ hv₀ with rfl | hv₀
    · have hdigest := h.digests v hv
      rw [show v.digest = v₀.digest from (congrArg (·.2.2.2.2) hcore).symm,
        show v.predecessorRevisionId = v₀.predecessorRevisionId from (congrArg (·.2.1) hcore).symm,
        show v.content = v₀.content from (congrArg (·.2.2.1) hcore).symm] at hdigest
      exact hdigest
    · exact h.digests v₀ hv₀
  · rcases hcases v₀ hv₀ with rfl | hv₀
    · rw [show v₀.digest = v.digest from congrArg (·.2.2.2.2) hcore]
      exact hpublished hstate₀
    · obtain ⟨x, hx, hrest⟩ := h.reviewed v₀ hv₀ hstate₀
      exact ⟨x, hreviews.subset hx, hrest⟩
  · rcases hdraft with ⟨-, hnone⟩ | ⟨hp, hsame⟩
    · rw [hnone] at hrid
      cases hrid
    · rw [hsame] at hrid
      have hrid' : rid = v.revisionId := Option.some.inj (hrid.symm.trans hcurrent)
      exact ⟨(h.current rid hrid).1, v', hmem, hid.trans hrid'.symm, hp⟩
  · rw [Definition.Shows]
    rcases hdraft with ⟨hp, hnone⟩ | ⟨-, hsame⟩
    · rw [hnone]
      exact hlifecycle.trans hp
    · rw [hsame, hcurrent]
      exact ⟨v', hmem, hid, hlifecycle⟩
  · rw [hrevisions]
    refine mem_modifyRevision_of_ne hv₀ fun hid₀ => ?_
    rw [honly v₀ hv₀ hid₀] at hstate₀
    exact hstate hstate₀
  · rcases hcases v₀ hv₀ with rfl | hv₀
    · exact .inl (hid ▸ List.mem_map_of_mem hv)
    · exact .inl (List.mem_map_of_mem hv₀)

theorem Stamp.revisionId_ne (stamp : Stamp) : stamp.revisionId ≠ "" := by
  unfold Stamp.revisionId
  rw [Ne, String.append_eq_empty_iff]
  simp

/-- **A revision is added** as the current draft. -/
theorem added {v : Revision} {r' : Definition} {predecessor : String} {content : WorkflowContent}
    (h : r.Lawful) (ht : Told r r') (hv : v = r.newRevision predecessor content stamp)
    (hfresh : stamp.revisionId ∉ r.revisions.map (·.revisionId))
    (hrevisions : r'.revisions = r.revisions ++ [v])
    (hcurrent : r'.currentDraftRevisionId = some v.revisionId) (hlifecycle : r'.lifecycleState = .draft)
    (hreviews : r'.reviews = r.reviews) :
    r'.Lawful ∧ Stored r r' ∧ Drawn r r' stamp.revisionId := by
  have hid : v.revisionId = stamp.revisionId := by
    rw [hv]
    rfl
  have hstate : v.state = .draft := by
    rw [hv]
    rfl
  have hmem : v ∈ r'.revisions := hrevisions ▸ List.mem_append_right _ List.mem_cons_self
  have hcases : ∀ v₀ ∈ r'.revisions, v₀ ∈ r.revisions ∨ v₀ = v := by
    intro v₀ hv₀
    rw [hrevisions] at hv₀
    exact (List.mem_append.mp hv₀).imp id List.mem_singleton.mp
  refine ⟨⟨ht.lawful_version h, ?_, fun v₀ hv₀ => ?_, fun v₀ hv₀ hstate₀ => ?_,
    hreviews ▸ h.approvals, fun rid hrid => ?_, ?_⟩, ⟨ht.key, ht.version, ht.facts, ?_,
    fun v₀ hv₀ _ => hrevisions ▸ List.mem_append_left _ hv₀, hreviews ▸ List.prefix_rfl⟩,
    fun v₀ hv₀ => ?_⟩
  · rw [hrevisions, List.map_append, List.map_singleton, ← List.concat_eq_append, List.nodup_concat, hid]
    exact ⟨hfresh, h.distinct⟩
  · rw [ht.scope, ht.workflowDefinitionId]
    rcases hcases v₀ hv₀ with hv₀ | rfl
    · exact h.digests v₀ hv₀
    · rw [hv]
      rfl
  · rw [hreviews]
    rcases hcases v₀ hv₀ with hv₀ | rfl
    · exact h.reviewed v₀ hv₀ hstate₀
    · rw [hstate] at hstate₀
      cases hstate₀
  · rw [hcurrent] at hrid
    cases hrid
    refine ⟨?_, v, hmem, rfl, ?_⟩
    · exact hid ▸ stamp.revisionId_ne
    · rw [hstate]
      exact nofun
  · rw [Definition.Shows, hcurrent]
    exact ⟨v, hmem, rfl, hlifecycle.trans hstate.symm⟩
  · rw [hrevisions, List.map_append]
    exact List.prefix_append _ _
  · rcases hcases v₀ hv₀ with hv₀ | rfl
    · exact .inl (List.mem_map_of_mem hv₀)
    · exact .inr hid

def Call.EditsDraft (r : Definition) : Call → Prop
  | .edit .. => ∀ v, r.draft = .ok v → v.state = .draft
  | _ => True

/-- **A change of the stored record** is lawful, where drafts in the state DRAFT are
edited only. -/
theorem stored_of_run (h : r.Lawful) (hedit : call.EditsDraft r)
    (hfresh : stamp.revisionId ∉ r.revisions.map (·.revisionId))
    (hrun : r.run resolver stamp call = .ok c) :
    r.aggregateVersion = c.expected ∧ c.record.key = r.key
      ∧ (c.stored r.facts).Lawful ∧ Stored r (c.stored r.facts)
      ∧ Drawn r (c.stored r.facts) stamp.revisionId := by
  cases call with
  | edit actor expected content =>
    rw [Definition.run, Definition.edit] at hrun
    split at hrun
    · cases hrun
    · next prior hprior =>
      obtain ⟨rfl, hcurrent, hmem⟩ := expectedDraft_eq_ok hprior
      split at hrun
      · cases hrun
      · dsimp only at hrun
        split at hrun
        · cases hrun
        · cases hrun
          have hlifecycle : r.lifecycleState = .draft := by
            have hshows := h.lifecycle
            rw [Definition.Shows, hcurrent] at hshows
            obtain ⟨v, hv, hid, hstate⟩ := hshows
            rw [(h.draft_only hcurrent hmem).2 v hv hid] at hstate
            rw [Definition.expectedDraft, if_neg (not_not.mpr rfl)] at hprior
            exact hstate.trans (hedit prior hprior)
          exact ⟨rfl, rfl, added h ⟨rfl, rfl, rfl, _, rfl⟩ rfl hfresh rfl rfl hlifecycle rfl⟩
  | validate actor expected =>
    rw [Definition.run, Definition.validate] at hrun
    split at hrun
    · cases hrun
    · next draft hdraft =>
      obtain ⟨rfl, hcurrent, hmem⟩ := expectedDraft_eq_ok hdraft
      split at hrun
      · cases hrun
      · cases hrun
        refine ⟨rfl, rfl, marked { draft with
          state := .validated, validatedAt := some stamp.markedAt } h ⟨rfl, rfl, rfl, _, rfl⟩ hcurrent
          hmem rfl rfl rfl (.inr ⟨nofun, rfl⟩) List.prefix_rfl h.approvals nofun⟩
  | review actor expected digest decision reason =>
    rw [Definition.run, Definition.review] at hrun
    split at hrun
    · cases hrun
    · next draft hdraft =>
      obtain ⟨rfl, hcurrent, hmem⟩ := expectedDraft_eq_ok hdraft
      split at hrun
      · cases hrun
      · split at hrun
        · cases hrun
        · split at hrun
          · cases hrun
          · cases hrun
            refine ⟨rfl, rfl, marked { draft with state := .humanReviewed } h
              ⟨rfl, rfl, rfl, _, rfl⟩ hcurrent hmem rfl rfl rfl (.inr ⟨nofun, rfl⟩)
              (List.prefix_append _ _) ?_ nofun⟩
            intro x hx
            rcases List.mem_append.mp hx with hx | hx
            · exact h.approvals x hx
            · rw [List.mem_singleton.mp hx]
  | publish actor expected digest reviewId =>
    rw [Definition.run, Definition.publish] at hrun
    split at hrun
    · cases hrun
    · next draft hdraft =>
      obtain ⟨rfl, hcurrent, hmem⟩ := expectedDraft_eq_ok hdraft
      split at hrun
      · cases hrun
      · next review hreview =>
        split at hrun
        · cases hrun
        · next hexact =>
          split at hrun
          · cases hrun
          · cases hrun
            refine ⟨rfl, rfl, marked { draft with
              state := .published, publishedAt := some stamp.markedAt } h ⟨rfl, rfl, rfl, _, rfl⟩
              hcurrent hmem rfl rfl rfl (.inl ⟨rfl, rfl⟩) List.prefix_rfl h.approvals fun _ => ?_⟩
            have hx := List.mem_of_find?_eq_some hreview
            rw [not_or, not_or, not_not, not_not] at hexact
            exact ⟨review, hx, h.approvals review hx, hexact.1.trans hexact.2.1.symm⟩
  | successor actor expected =>
    rw [Definition.run, Definition.successor] at hrun
    split at hrun
    · cases hrun
    · next hversion =>
      split at hrun
      · cases hrun
      · split at hrun
        · cases hrun
        · cases hrun
          rw [← not_not.mp hversion]
          exact ⟨rfl, rfl, added h ⟨rfl, rfl, rfl, _, rfl⟩ rfl hfresh rfl rfl rfl rfl⟩

end Changes

/-! ### Runs -/

/-- A record out of which the stored one has grown. -/
structure Behind (r stored : Definition) : Prop where
  lawful : r.Lawful
  key : stored.key = r.key
  version : r.aggregateVersion ≤ stored.aggregateVersion
  same : r.aggregateVersion = stored.aggregateVersion → r = stored
  ids : r.revisions.map (·.revisionId) <+: stored.revisions.map (·.revisionId)

theorem Behind.refl {r : Definition} (h : r.Lawful) : Behind r r :=
  ⟨h, rfl, le_refl _, fun _ => rfl, List.prefix_rfl⟩

theorem Behind.stored {r stored stored' : Definition} (h : Behind r stored) (hs : Stored stored stored') :
    Behind r stored' := by
  have hlt : r.aggregateVersion < stored'.aggregateVersion := by
    rw [hs.version]
    exact Int.lt_add_one_of_le h.version
  refine ⟨h.lawful, hs.key.trans h.key, le_of_lt hlt, fun heq => absurd heq (ne_of_lt hlt), ?_⟩
  refine h.ids.trans ?_
  rw [map_revisionId, map_revisionId]
  exact hs.cores.map Prod.fst

structure World.Kept (w : World) : Prop where
  lawful : ∀ key r, w.repository.get? key = some r → r.Lawful ∧ r.key = key
  pending : ∀ p ∈ w.pending, ∃ stored, w.repository.get? p.2.key = some stored ∧ Behind p.2 stored
  issued : ∀ key r, w.repository.get? key = some r → ∀ v ∈ r.revisions, v.revisionId ∈ w.issued

/-- The random part of a new revision's ID has not been drawn before. -/
def Fresh (w : World) : Action → Prop
  | .create _ _ _ _ stamp | .finish _ _ stamp => stamp.revisionId ∉ w.issued
  | .load .. => True

instance (w : World) : ∀ a, Decidable (Fresh w a)
  | .create _ _ _ _ stamp | .finish _ _ stamp => inferInstanceAs (Decidable (stamp.revisionId ∉ w.issued))
  | .load .. => inferInstanceAs (Decidable True)

/-- Only drafts in the state DRAFT are edited. -/
def EditsDrafts (w : World) : Action → Prop
  | .finish i _ _ => ∀ p, w.pending[i]? = some p → p.1.EditsDraft p.2
  | _ => True

/-- Stored records stay, or are changed by one stored change. -/
def Moves (w w' : World) : Prop :=
  ∀ key r, w.repository.get? key = some r →
    ∃ r', w'.repository.get? key = some r' ∧ (r' = r ∨ Stored r r')

section Runs

variable {w : World}

theorem Moves.refl (w : World) : Moves w w := fun _ r hr => ⟨r, hr, .inl rfl⟩

/-- Nothing is stored; some calls may have been dropped, and IDs drawn. -/
theorem World.Kept.quiet (h : w.Kept) {pending : List (Call × Definition)} {issued : List String}
    (hpending : ∀ p ∈ pending, p ∈ w.pending) (hissued : ∀ id ∈ w.issued, id ∈ issued) :
    World.Kept ⟨w.repository, pending, issued⟩ :=
  ⟨h.lawful, fun p hp => h.pending p (hpending p hp), fun key r hr v hv => hissued _ (h.issued key r hr v hv)⟩

theorem lawful_created (scope : Scope) (actor name : String) (content : WorkflowContent) (stamp : Stamp) :
    (created scope actor name content stamp).Lawful := by
  refine ⟨rfl, List.nodup_singleton _, fun v hv => ?_, fun v hv hstate => ?_, fun _ hx => (nomatch hx),
    fun rid hrid => ?_, ⟨_, List.mem_cons_self, rfl, rfl⟩⟩
  · rw [List.mem_singleton.mp hv]
    rfl
  · rw [List.mem_singleton.mp hv] at hstate
    cases hstate
  · cases hrid
    exact ⟨stamp.revisionId_ne, _, List.mem_cons_self, rfl, nofun⟩

theorem World.Kept.create (h : w.Kept) (scope : Scope) (actor name : String) (content : WorkflowContent)
    (stamp : Stamp) : (w.act (.create scope actor name content stamp)).2.Kept
      ∧ Moves w (w.act (.create scope actor name content stamp)).2 := by
  have hquiet : World.Kept ⟨w.repository, w.pending, w.issued ++ [stamp.revisionId]⟩ :=
    h.quiet (fun _ hp => hp) fun _ hid => List.mem_append_left _ hid
  rw [World.act]
  dsimp only
  split
  · exact ⟨hquiet, Moves.refl w⟩
  · next repository hcreate =>
    rw [Repository.create] at hcreate
    split at hcreate
    · cases hcreate
    · dsimp only at hcreate
      split at hcreate
      · cases hcreate
      · next hnone =>
        cases hcreate
        have hold : ∀ key r, w.repository.get? key = some r →
            (w.repository.set (created scope actor name content stamp).key
              (created scope actor name content stamp)).get? key = some r := by
          intro key r hr
          rw [Dict.get?_set_of_ne _ _ fun heq => ?_]
          · exact hr
          · rw [heq, hr] at hnone
            cases hnone
        refine ⟨⟨fun key r hr => ?_, fun p hp => ?_, fun key r hr v hv => ?_⟩,
          fun key r hr => ⟨r, hold key r hr, .inl rfl⟩⟩
        · rw [Dict.get?_set] at hr
          split at hr
          · next heq =>
            cases hr
            exact ⟨lawful_created _ _ _ _ _, heq⟩
          · exact h.lawful key r hr
        · obtain ⟨stored, hstored, hbehind⟩ := h.pending p hp
          exact ⟨stored, hold _ _ hstored, hbehind⟩
        · rw [Dict.get?_set] at hr
          split at hr
          · cases hr
            rw [List.mem_singleton.mp hv]
            exact List.mem_append_right _ List.mem_cons_self
          · exact List.mem_append_left _ (h.issued key r hr v hv)

theorem World.Kept.finish (h : w.Kept) (i : Nat) (resolver : Resolver) (stamp : Stamp)
    (hfresh : stamp.revisionId ∉ w.issued) (hedits : EditsDrafts w (.finish i resolver stamp)) :
    (w.act (.finish i resolver stamp)).2.Kept ∧ Moves w (w.act (.finish i resolver stamp)).2 := by
  rw [World.act]
  split
  · exact ⟨h, Moves.refl w⟩
  · next call r hpending =>
    have hquiet : World.Kept ⟨w.repository, w.pending.eraseIdx i, w.issued ++ [stamp.revisionId]⟩ :=
      h.quiet (fun _ hp => List.mem_of_mem_eraseIdx hp) fun _ hid => List.mem_append_left _ hid
    obtain ⟨stored, hstored, hbehind⟩ := h.pending (call, r) (List.mem_of_getElem? hpending)
    dsimp only
    split
    · exact ⟨hquiet, Moves.refl w⟩
    · next c hrun =>
      have hids : stamp.revisionId ∉ r.revisions.map (·.revisionId) := by
        intro hmem
        obtain ⟨v, hv, hid⟩ := List.mem_map.mp (hbehind.ids.subset hmem)
        exact hfresh (hid ▸ h.issued _ _ hstored v hv)
      obtain ⟨hversion, hkey, hlawful, hchange, hdrawn⟩ :=
        stored_of_run hbehind.lawful (hedits _ hpending) hids hrun
      rw [Repository.replace, hkey, hstored]
      dsimp only
      split
      · exact ⟨hquiet, Moves.refl w⟩
      · next repository hreplace =>
        split at hreplace
        · cases hreplace
        · next hcas =>
          -- the stored record is the one that was loaded
          obtain rfl : r = stored := hbehind.same (hversion.trans (not_not.mp hcas).symm)
          cases hreplace
          have hget : ∀ key, (w.repository.set r.key (c.stored r.facts)).get? key
              = if r.key = key then some (c.stored r.facts) else w.repository.get? key :=
            Dict.get?_set _ _ _
          refine ⟨⟨fun key r' hr' => ?_, fun p hp => ?_, fun key r' hr' v hv => ?_⟩, fun key r' hr' => ?_⟩
          · have hr'' := (hget key).symm.trans hr'
            split at hr''
            · next heq =>
              cases hr''
              exact ⟨hlawful, hkey.trans heq⟩
            · exact h.lawful key r' hr''
          · obtain ⟨stored', hstored', hbehind'⟩ := h.pending p (List.mem_of_mem_eraseIdx hp)
            by_cases heq : r.key = p.2.key
            · rw [← heq, hstored] at hstored'
              cases hstored'
              exact ⟨c.stored r.facts, (hget _).trans (if_pos heq), hbehind'.stored hchange⟩
            · exact ⟨stored', ((hget _).trans (if_neg heq)).trans hstored', hbehind'⟩
          · have hr'' := (hget key).symm.trans hr'
            split at hr''
            · next heq =>
              cases hr''
              rcases hdrawn v hv with hid | hid
              · obtain ⟨v₀, hv₀, hid₀⟩ := List.mem_map.mp hid
                exact List.mem_append_left _ (hid₀ ▸ h.issued _ _ hstored v₀ hv₀)
              · rw [hid]
                exact List.mem_append_right _ List.mem_cons_self
            · exact List.mem_append_left _ (h.issued key r' hr'' v hv)
          · by_cases heq : r.key = key
            · rw [← heq, hstored] at hr'
              cases hr'
              exact ⟨c.stored r.facts, (hget _).trans (if_pos heq), .inr hchange⟩
            · exact ⟨r', ((hget _).trans (if_neg heq)).trans hr', .inl rfl⟩

theorem World.Kept.act (h : w.Kept) {a : Action} (hfresh : Fresh w a) (hedits : EditsDrafts w a) :
    (w.act a).2.Kept ∧ Moves w (w.act a).2 := by
  cases a with
  | create scope actor name content stamp => exact h.create scope actor name content stamp
  | load scope resourceId call =>
    rw [World.act]
    split
    · exact ⟨h, Moves.refl w⟩
    · next r hr =>
      refine ⟨⟨h.lawful, fun p hp => ?_, h.issued⟩, Moves.refl w⟩
      rcases List.mem_append.mp hp with hp | hp
      · exact h.pending p hp
      · rw [List.mem_singleton.mp hp]
        obtain ⟨hlawful, hkey⟩ := h.lawful _ r hr
        exact ⟨r, hkey ▸ hr, Behind.refl hlawful⟩
  | finish i resolver stamp => exact h.finish i resolver stamp hfresh hedits

/-- What raises stores nothing. -/
theorem repository_of_error (w : World) (a : Action) {f : Failure} :
    (w.act a).1 = .error f → (w.act a).2.repository = w.repository := by
  cases a with
  | create scope actor name content stamp =>
    rw [World.act]
    dsimp only
    split
    · exact fun _ => rfl
    · exact nofun
  | load scope resourceId call =>
    rw [World.act]
    split
    · exact fun _ => rfl
    · exact fun _ => rfl
  | finish i resolver stamp =>
    rw [World.act]
    split
    · exact nofun
    · dsimp only
      split
      · exact fun _ => rfl
      · split
        · exact fun _ => rfl
        · exact nofun

/-- **In every run in which only drafts in the state DRAFT are edited**, stored
definitions are lawful and change as they should, and what raises changes nothing. -/
theorem lifecycles_kept {ok : World → Action → Prop} (h : Run ok w)
    (hok : ∀ w a, ok w a → Fresh w a ∧ EditsDrafts w a) :
    (∀ key r, w.repository.get? key = some r → r.Lawful)
      ∧ ∀ a, ok w a → Moves w (w.act a).2
        ∧ ∀ f, (w.act a).1 = .error f → (w.act a).2.repository = w.repository := by
  have hkept : w.Kept := by
    induction h with
    | start =>
      have hnone : ∀ key r, ({} : World).repository.get? key = some r → False := by
        intro key r hr
        cases (Dict.get?_empty).symm.trans hr
      exact ⟨fun _ _ hr => (hnone _ _ hr).elim, fun _ hp => (nomatch hp), fun _ _ hr => (hnone _ _ hr).elim⟩
    | act a _ ha ih => exact (ih.act (hok _ a ha).1 (hok _ a ha).2).1
  exact ⟨fun key r hr => (hkept.lawful key r hr).1, fun a ha =>
    ⟨(hkept.act (hok w a ha).1 (hok w a ha).2).2, fun _ => repository_of_error w a⟩⟩

end Runs

/-! ### An edit of a validated draft -/

namespace Sample

def stamp (uuid : String) : Stamp := ⟨uuid, uuid, uuid, uuid, "created", "marked", "recorded", "updated"⟩

def content : WorkflowContent where
  tasks := [{ taskId := "collect", name := "Collect" }]
  runtimeProfile := ⟨.runtimeProfile, "profile", "profile-1", none⟩

def scope : Scope := ⟨"namespace", "domain"⟩

def creation : Action := .create scope "actor" "Workflow" content (stamp "1")

/-- A definition is created and validated, and its draft is then edited. -/
def actions : List Action :=
  [creation, .load scope "workflow-definition:1" (.validate "actor" 1),
    .finish 0 (some fun _ _ => .found) (stamp "2"),
    .load scope "workflow-definition:1" (.edit "actor" 2 content), .finish 0 none (stamp "3")]

def edited : World := actions.foldl (fun w a => (w.act a).2) {}

theorem lifecycle_of_edited :
    (edited.repository.get? (scope, "workflow-definition:1")).any (fun r =>
      r.lifecycleState = .validated && r.currentDraftRevisionId = some "workflow-revision:3"
        && r.revisions.all fun v => v.revisionId ≠ "workflow-revision:3" || v.state = .draft) = true := by
  decide +kernel

/-- `lifecycles_kept` after a creation: the created record is lawful. -/
theorem lifecycles_kept_of_creation :
    ∃ r, (({} : World).act creation).2.repository.get? (scope, "workflow-definition:1") = some r ∧
      r.Lawful := by
  have hrun : Run (fun w a => Fresh w a ∧ EditsDrafts w a) (({} : World).act creation).2 :=
    .act creation .start ⟨fun hmem => (nomatch hmem), trivial⟩
  have hstored :
      ((({} : World).act creation).2.repository.get? (scope, "workflow-definition:1")).isSome = true := by
    decide +kernel
  obtain ⟨r, hr⟩ := Option.isSome_iff_exists.mp hstored
  exact ⟨r, hr, (lifecycles_kept hrun fun _ _ h => h).1 _ r hr⟩

/-- After the edit the record is shown as validated, and its draft is not. -/
theorem edited_not_lawful : ¬ ∀ w : World, Run Fresh w → ∀ key r,
    w.repository.get? key = some r → r.Lawful := by
  intro h
  have hrun : Run Fresh edited :=
    .act _ (.act _ (.act _ (.act _ (.act _ .start (nofun)) trivial) (by decide +kernel)) trivial)
      (by decide +kernel)
  obtain ⟨r, hr, hshown⟩ := (Option.any_eq_true _ _).mp lifecycle_of_edited
  simp only [Bool.and_eq_true, decide_eq_true_eq, List.all_eq_true, Bool.or_eq_true] at hshown
  obtain ⟨⟨hlifecycle, hcurrent⟩, hdraft⟩ := hshown
  have hshows := (h edited hrun _ r hr).lifecycle
  rw [Definition.Shows, hcurrent] at hshows
  obtain ⟨v, hv, hid, hstate⟩ := hshows
  rw [(hdraft v hv).resolve_left (not_not.mpr hid), hlifecycle] at hstate
  cases hstate

end Sample

end WorkflowDefinition

end AgentPlatform
