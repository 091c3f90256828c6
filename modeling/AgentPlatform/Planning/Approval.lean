/-
AgentPlatform/Planning/Approval.lean

Approval as a state machine: what holds of an engine after any run of calls.

`call_outcome` says once what a call can do: raise and leave the state alone, or
write one of the engine's maps. From it follow the invariant of the maps
(`Inv`) and that a step forgets nothing a decision rests on (`Grows`): a request
stays what it was, since its identity holds the digest of the candidate; the
canonical revision of a decision stays, since its approval identity holds the
replay identity. Both rest on the hashed texts being free of collisions.
-/
import AgentPlatform.Planning.Canonical

namespace AgentPlatform
namespace Planning

open Py

/-! ### Calls -/

section Calls

variable [Whitespace]

/-- A call of a public operation. -/
inductive Call
  | validate (question : BusinessQuestion) (raw : Json) (generator : Generator)
      (predecessor : Option CanonicalWorkflowRevision)
  | requestApproval (result : PlanningResult)
  | decide (c : Decide)
  | correctedSuccessor (predecessor : CanonicalWorkflowRevision)
      (correction : ProductSemanticCorrection) (question : BusinessQuestion) (raw : Json)
      (generator : Generator)
  | markSuperseded (predecessor successor : CanonicalWorkflowRevision)

/-- What a call returns. -/
inductive Answer
  | result (r : PlanningResult)
  | request (r : ApprovalRequest)
  | revision (r : Option CanonicalWorkflowRevision)

variable [CharacterTables]

def Engine.call (e : Engine) : Call → Except String Answer × Engine
  | .validate question raw generator predecessor =>
    (e.validate question raw generator predecessor).map (Except.map .result) id
  | .requestApproval result => (e.requestApproval result).map (Except.map .request) id
  | .decide c => (e.decide c).map (Except.map .revision) id
  | .correctedSuccessor predecessor correction question raw generator =>
    (e.correctedSuccessor predecessor correction question raw generator).map
      (Except.map .result) id
  | .markSuperseded predecessor successor =>
    (e.markSuperseded predecessor successor).map (Except.map fun r => .revision (some r)) id

/-- The state after a run of calls, some of which may raise. -/
def Engine.run (e : Engine) (calls : List Call) : Engine :=
  calls.foldl (fun e call => (e.call call).2) e

/-- The texts whose digests tell requests and approvals apart. -/
def Call.hashed : Call → Set String
  | .requestApproval result => { t | ∃ w ∈ result.workflowCandidate, t = canonicalJson w.content }
  | .decide c => { t | ∃ i, identifier "INVALID_REPLAY_IDENTITY" c.replayIdentity = .ok i ∧
      t = canonicalJson (approvalIdentity c.request.approvalRequestId i) }
  | _ => ∅

theorem Engine.run_append (e : Engine) (calls later : List Call) :
    e.run (calls ++ later) = (e.run calls).run later := List.foldl_append ..

/-! ### What a call can do -/

/-- The answer of a call and the state after it. -/
inductive Outcome (e : Engine) : Call → Except String Answer × Engine → Prop
  | raised (call : Call) (code : String) : Outcome e call (.error code, e)
  | validated (call : Call) (hc : ∀ c, call ≠ .decide c) (r : PlanningResult)
      (t : Table String PlanningResult) :
      Outcome e call (.ok (.result r), { e with results := t })
  | requested (result : PlanningResult) (w : WorkflowCandidate) (h : approvable result = .ok w) :
      Outcome e (.requestApproval result) (.ok (.request (requestOf w)),
        { e with requests := e.requests.insert (requestOf w).approvalRequestId (requestOf w) })
  | replayed (c : Decide) (w : WorkflowCandidate) (d : ApprovalDecisionRecord)
      (h : e.authorize c = .ok (w, d)) (hd : e.decisions.lookup d.replayIdentity.value = some d) :
      Outcome e (.decide c) (.ok (.revision (e.canonical.lookup d.approvalId)), e)
  | rejected (c : Decide) (w : WorkflowCandidate) (d : ApprovalDecisionRecord)
      (h : e.authorize c = .ok (w, d)) (hd : e.decisions.lookup d.replayIdentity.value = none)
      (hr : d.decision = .reject) :
      Outcome e (.decide c) (.ok (.revision none),
        { e with decisions := e.decisions.insert d.replayIdentity.value d })
  | approved (c : Decide) (w : WorkflowCandidate) (d : ApprovalDecisionRecord)
      (h : e.authorize c = .ok (w, d)) (hd : e.decisions.lookup d.replayIdentity.value = none)
      (ha : d.decision = .approve) (s : Finset String) (hs : e.superseded ⊆ s) :
      Outcome e (.decide c) (.ok (.revision (some (canonicalOf w d.approvalId c.predecessor))),
        { e with
          decisions := e.decisions.insert d.replayIdentity.value d
          canonical := e.canonical.insert d.approvalId (canonicalOf w d.approvalId c.predecessor)
          superseded := s })
  | marked (call : Call) (hc : ∀ c, call ≠ .decide c) (r : CanonicalWorkflowRevision)
      (s : Finset String) (hs : e.superseded ⊆ s) :
      Outcome e call (.ok (.revision (some r)), { e with superseded := s })

theorem validate_outcome (e : Engine) {call : Call} (hc : ∀ c, call ≠ .decide c)
    (question : BusinessQuestion) (raw : Json) (generator : Generator)
    (predecessor : Option CanonicalWorkflowRevision) :
    Outcome e call
      ((e.validate question raw generator predecessor).map (Except.map .result) id) := by
  rw [Engine.validate]
  split
  · exact .raised call _
  · split
    · split
      · exact .raised call _
      · exact .validated call hc _ _
    · exact .validated call hc _ _

theorem decide_outcome (e : Engine) (c : Decide) :
    Outcome e (.decide c) ((e.decide c).map (Except.map .revision) id) := by
  rw [Engine.decide]
  split
  · exact .raised _ _
  · rename_i w d h
    split
    · rename_i existing hd
      split
      · exact .raised _ _
      · rename_i heq
        rw [not_not.mp heq] at hd ⊢
        exact .replayed c w d h hd
    · rename_i hd
      dsimp only
      split
      · rename_i hr
        exact .rejected c w d h hd hr
      · rename_i ha
        split
        · exact .approved c w d h hd ha _ (Finset.Subset.refl _)
        · exact .approved c w d h hd ha _ (Finset.subset_insert _ _)

/-- **What a call can do.** -/
theorem call_outcome (e : Engine) (call : Call) : Outcome e call (e.call call) := by
  cases call with
  | validate question raw generator predecessor =>
    exact validate_outcome e (fun _ h => by cases h) question raw generator predecessor
  | requestApproval result =>
    rw [Engine.call, Engine.requestApproval]
    split
    · exact .raised _ _
    · rename_i w h
      exact .requested result w h
  | decide c => exact decide_outcome e c
  | correctedSuccessor predecessor correction question raw generator =>
    rw [Engine.call, Engine.correctedSuccessor]
    split
    · exact .raised _ _
    · split
      · exact .raised _ _
      · exact validate_outcome e (fun _ h => by cases h) question raw generator _
  | markSuperseded predecessor successor =>
    rw [Engine.call, Engine.markSuperseded]
    split
    · exact .raised _ _
    · split
      · exact .raised _ _
      · exact .marked _ (fun _ h => by cases h) _ _ (Finset.subset_insert _ _)

/-! ### What `decide` has checked -/

omit [CharacterTables] in
theorem approvable_workflow {result : PlanningResult} {w : WorkflowCandidate}
    (h : approvable result = .ok w) : result.workflowCandidate = some w := by
  rw [approvable] at h
  split at h
  · cases h
  · rename_i w' hw'
    split at h
    · cases h
      exact hw'
    · cases h

/-- The record of a decision repeats the request, which is stored and is for the
candidate. -/
theorem authorize_spec {e : Engine} {c : Decide} {w : WorkflowCandidate}
    {d : ApprovalDecisionRecord} (h : e.authorize c = .ok (w, d)) :
    e.requests.lookup c.request.approvalRequestId = some c.request ∧
      c.request.candidateDigest = w.candidateDigest ∧
      c.request.policyVersion = w.policyVersion.value ∧
      identifier "INVALID_REPLAY_IDENTITY" c.replayIdentity = .ok d.replayIdentity ∧
      d.requestId = c.request.approvalRequestId ∧ d.candidateDigest = c.request.candidateDigest ∧
      d.policyVersion = c.request.policyVersion ∧
      d.approvalId
        = "planning-approval:" ++ digest (approvalIdentity d.requestId d.replayIdentity) := by
  simp only [Engine.authorize, ite_error_eq_ok', bind_eq_ok, not_not, not_or] at h
  obtain ⟨w', -, t, -, s, -, -, -, hreq, ⟨hdig, hpol, -, -⟩, -, -, a, -, i, hi, r, -, at', -, h⟩ := h
  split at h
  · cases h
  · cases h
    exact ⟨hreq, hdig, hpol, hi, rfl, rfl, rfl, rfl⟩

/-- The checks look at the engine for the stored request only. -/
theorem authorize_congr {e e' : Engine} {c : Decide}
    (h : e'.requests.lookup c.request.approvalRequestId
      = e.requests.lookup c.request.approvalRequestId) : e'.authorize c = e.authorize c := by
  simp only [Engine.authorize, h]

end Calls

/-! ### The invariant -/

theorem append_left_inj {a b c : String} (h : a ++ b = a ++ c) : b = c := by
  have hl := congrArg String.toList h
  rw [String.toList_append, String.toList_append] at hl
  exact String.toList_injective (List.append_cancel_left hl)

section Invariant

variable [Whitespace]

/-- What the maps of an engine say of each other, for hashed texts in `T`. -/
structure Inv (T : Set String) (e : Engine) : Prop where
  requests : ∀ id r, e.requests.lookup id = some r → ∃ w : WorkflowCandidate,
    canonicalJson w.content ∈ T ∧ r = requestOf w ∧ id = r.approvalRequestId
  decisions : ∀ k d, e.decisions.lookup k = some d → k = d.replayIdentity.value ∧
    canonicalJson (approvalIdentity d.requestId d.replayIdentity) ∈ T ∧
    d.approvalId = "planning-approval:" ++ digest (approvalIdentity d.requestId d.replayIdentity) ∧
    ∃ r, e.requests.lookup d.requestId = some r ∧ r.candidateDigest = d.candidateDigest
  canonical : ∀ id r, e.canonical.lookup id = some r → r.approvalId = id ∧
    ∃ d, e.decisions.lookup d.replayIdentity.value = some d ∧ d.decision = .approve ∧
      d.approvalId = id ∧ d.candidateDigest = r.approvedCandidateDigest ∧
      d.policyVersion = r.policyVersion.value

/-- What later states keep. -/
structure Grows (e e' : Engine) : Prop where
  requests : ∀ id r, e.requests.lookup id = some r → e'.requests.lookup id = some r
  decisions : ∀ k d, e.decisions.lookup k = some d → e'.decisions.lookup k = some d
  canonical : ∀ k d, e.decisions.lookup k = some d →
    e'.canonical.lookup d.approvalId = e.canonical.lookup d.approvalId
  superseded : e.superseded ⊆ e'.superseded

theorem Grows.refl (e : Engine) : Grows e e :=
  ⟨fun _ _ h => h, fun _ _ h => h, fun _ _ _ => rfl, Finset.Subset.refl _⟩

theorem Grows.trans {e₁ e₂ e₃ : Engine} (h : Grows e₁ e₂) (h' : Grows e₂ e₃) : Grows e₁ e₃ where
  requests id r hr := h'.requests id r (h.requests id r hr)
  decisions k d hd := h'.decisions k d (h.decisions k d hd)
  canonical k d hd := (h'.canonical k d (h.decisions k d hd)).trans (h.canonical k d hd)
  superseded := h.superseded.trans h'.superseded

theorem Inv.new (T : Set String) (policy : Identifier) : Inv T (.new policy) where
  requests id r h := by cases h
  decisions k d h := by cases h
  canonical id r h := by cases h

/-! ### One step -/

/-- A request is determined by its identity. -/
theorem requestOf_eq {T : Set String} (hcf : CollisionFreeOn T) {w w' : WorkflowCandidate}
    (hw : canonicalJson w.content ∈ T) (hw' : canonicalJson w'.content ∈ T)
    (h : (requestOf w).approvalRequestId = (requestOf w').approvalRequestId) :
    requestOf w = requestOf w' := by
  have happend : "planning-approval-request:" ++ w.candidateDigest
      = "planning-approval-request:" ++ w'.candidateDigest := h
  have hdigest : w.candidateDigest = w'.candidateDigest := append_left_inj happend
  have hsame : digest w.content = digest w'.content := by
    rw [WorkflowCandidate.content, WorkflowCandidate.content, ← w.digest_eq, ← w'.digest_eq]
    exact hdigest
  have hform := form_of_digest hcf hw hw' hsame
  rw [WorkflowCandidate.content, WorkflowCandidate.content] at hform
  obtain ⟨hp, ht, hd⟩ := semantic_scope hform
  unfold requestOf
  refine (ApprovalRequest.mk.injEq ..).mpr ⟨happend, ?_, ?_, hdigest, ?_, rfl⟩
  · rw [ht]
  · rw [hd]
  · rw [hp]

/-- An approval identity determines the replay identity it was made with. -/
theorem replay_of_approvalId {T : Set String} (hcf : CollisionFreeOn T) {q q' : String}
    {i i' : Identifier} (h : canonicalJson (approvalIdentity q i) ∈ T)
    (h' : canonicalJson (approvalIdentity q' i') ∈ T)
    (he : "planning-approval:" ++ digest (approvalIdentity q i)
      = "planning-approval:" ++ digest (approvalIdentity q' i')) : i = i' := by
  have hform := form_of_digest hcf h h' (append_left_inj he)
  rw [approvalIdentity, approvalIdentity] at hform
  have hf := form_obj_inj (by rfl) (by simp) hform
  simp only [List.map_cons, List.map_nil, List.cons.injEq, form_str, Json.str.injEq, and_true] at hf
  exact identifier_ext hf.2

section Step

variable {T : Set String} {e : Engine}

/-- Storing a request forgets none. -/
theorem Inv.stored (hcf : CollisionFreeOn T) (hi : Inv T e) {w : WorkflowCandidate}
    (hw : canonicalJson w.content ∈ T) :
    Inv T { e with
        requests := e.requests.insert (requestOf w).approvalRequestId (requestOf w) } ∧
      Grows e { e with
        requests := e.requests.insert (requestOf w).approvalRequestId (requestOf w) } := by
  have hkeep : ∀ id r, e.requests.lookup id = some r →
      (e.requests.insert (requestOf w).approvalRequestId (requestOf w)).lookup id = some r := by
    intro id r hr
    by_cases hid : id = (requestOf w).approvalRequestId
    · obtain ⟨w', hw', rfl, hid'⟩ := hi.requests id r hr
      rw [hid, AList.lookup_insert, requestOf_eq hcf hw hw' (hid.symm.trans hid')]
    · rw [AList.lookup_insert_ne hid]
      exact hr
  refine ⟨⟨?_, ?_, hi.canonical⟩, ⟨hkeep, fun _ _ h => h, fun _ _ _ => rfl, Finset.Subset.refl _⟩⟩
  · intro id r hr
    by_cases hid : id = (requestOf w).approvalRequestId
    · rw [hid, AList.lookup_insert] at hr
      cases hr
      exact ⟨w, hw, rfl, hid⟩
    · rw [AList.lookup_insert_ne hid] at hr
      exact hi.requests id r hr
  · intro k d hd
    obtain ⟨hk, htext, haid, r, hr, hdig⟩ := hi.decisions k d hd
    exact ⟨hk, htext, haid, r, hkeep _ _ hr, hdig⟩

variable [CharacterTables]

/-- A decision that is not recorded yet has an approval identity of its own. -/
theorem Inv.fresh (hcf : CollisionFreeOn T) (hi : Inv T e) {c : Decide} {w : WorkflowCandidate}
    {d : ApprovalDecisionRecord} (h : e.authorize c = .ok (w, d)) (hT : (Call.decide c).hashed ⊆ T)
    (hd : e.decisions.lookup d.replayIdentity.value = none) {k : String}
    {d' : ApprovalDecisionRecord} (hd' : e.decisions.lookup k = some d') :
    d'.approvalId ≠ d.approvalId := by
  obtain ⟨-, -, -, hrep, hreq, -, -, haid⟩ := authorize_spec h
  obtain ⟨hk, htext, haid', -⟩ := hi.decisions k d' hd'
  intro heq
  rw [haid, haid'] at heq
  have hmem : canonicalJson (approvalIdentity d.requestId d.replayIdentity) ∈ T := by
    rw [hreq]
    exact hT ⟨_, hrep, rfl⟩
  have hrid := replay_of_approvalId hcf htext hmem heq
  rw [hk, hrid, hd] at hd'
  cases hd'

theorem Inv.no_canonical (hcf : CollisionFreeOn T) (hi : Inv T e) {c : Decide}
    {w : WorkflowCandidate} {d : ApprovalDecisionRecord} (h : e.authorize c = .ok (w, d))
    (hT : (Call.decide c).hashed ⊆ T)
    (hd : e.decisions.lookup d.replayIdentity.value = none) :
    e.canonical.lookup d.approvalId = none := by
  rcases hc : e.canonical.lookup d.approvalId with _ | r
  · rfl
  · obtain ⟨-, d', hd', -, haid, -⟩ := hi.canonical _ _ hc
    exact absurd haid (hi.fresh hcf h hT hd hd')

/-- What a new decision and, where it approves, its revision do to the maps. -/
theorem Inv.decided (hcf : CollisionFreeOn T) (hi : Inv T e) {c : Decide} {w : WorkflowCandidate}
    {d : ApprovalDecisionRecord} (h : e.authorize c = .ok (w, d)) (hT : (Call.decide c).hashed ⊆ T)
    (hd : e.decisions.lookup d.replayIdentity.value = none)
    (t : Table String CanonicalWorkflowRevision) (s : Finset String) (hs : e.superseded ⊆ s)
    (ht : t = e.canonical ∨ d.decision = .approve ∧
      t = e.canonical.insert d.approvalId (canonicalOf w d.approvalId c.predecessor)) :
    Inv T { e with
        decisions := e.decisions.insert d.replayIdentity.value d, canonical := t, superseded := s } ∧
      Grows e { e with
        decisions := e.decisions.insert d.replayIdentity.value d, canonical := t,
        superseded := s } := by
  obtain ⟨hstored, hdig, hpol, hrep, hreq, hcand, hpolicy, haid⟩ := authorize_spec h
  have hkeep : ∀ k d', e.decisions.lookup k = some d' →
      (e.decisions.insert d.replayIdentity.value d).lookup k = some d' := by
    intro k d' hd'
    rw [AList.lookup_insert_ne fun hk => by rw [hk, hd] at hd'; cases hd']
    exact hd'
  refine ⟨⟨hi.requests, ?_, ?_⟩, ⟨fun _ _ hr => hr, hkeep, ?_, hs⟩⟩
  · intro k d' hd'
    by_cases hk : k = d.replayIdentity.value
    · rw [hk, AList.lookup_insert] at hd'
      cases hd'
      refine ⟨hk, ?_, haid, c.request, hreq ▸ hstored, hcand.symm⟩
      rw [hreq]
      exact hT ⟨_, hrep, rfl⟩
    · rw [AList.lookup_insert_ne hk] at hd'
      exact hi.decisions k d' hd'
  · intro id r hr
    rcases ht with rfl | ⟨happ, rfl⟩
    · obtain ⟨hid, d', hd', hrest⟩ := hi.canonical id r hr
      exact ⟨hid, d', hkeep _ _ hd', hrest⟩
    · by_cases hid : id = d.approvalId
      · rw [hid, AList.lookup_insert] at hr
        cases hr
        exact ⟨hid.symm, d, AList.lookup_insert _, happ, hid.symm, hcand.trans hdig,
          hpolicy.trans hpol⟩
      · rw [AList.lookup_insert_ne hid] at hr
        obtain ⟨hid', d', hd', hrest⟩ := hi.canonical id r hr
        exact ⟨hid', d', hkeep _ _ hd', hrest⟩
  · intro k d' hd'
    rcases ht with rfl | ⟨-, rfl⟩
    · rfl
    · exact AList.lookup_insert_ne (hi.fresh hcf h hT hd hd')

/-- **One call keeps the invariant and forgets nothing.** -/
theorem call_inv (hcf : CollisionFreeOn T) (hi : Inv T e) (call : Call) (hT : call.hashed ⊆ T) :
    Inv T (e.call call).2 ∧ Grows e (e.call call).2 := by
  have h := call_outcome e call
  generalize e.call call = out at h
  cases h with
  | raised code => exact ⟨hi, .refl e⟩
  | validated _ _ r t =>
    exact ⟨⟨hi.requests, hi.decisions, hi.canonical⟩,
      ⟨fun _ _ h => h, fun _ _ h => h, fun _ _ _ => rfl, Finset.Subset.refl _⟩⟩
  | requested result w h =>
    exact hi.stored hcf (hT ⟨w, approvable_workflow h, rfl⟩)
  | replayed c w d h hd => exact ⟨hi, .refl e⟩
  | rejected c w d h hd hr =>
    exact hi.decided hcf h hT hd e.canonical e.superseded (Finset.Subset.refl _) (.inl rfl)
  | approved c w d h hd ha s hs => exact hi.decided hcf h hT hd _ s hs (.inr ⟨ha, rfl⟩)
  | marked _ _ r s hs =>
    exact ⟨⟨hi.requests, hi.decisions, hi.canonical⟩,
      ⟨fun _ _ h => h, fun _ _ h => h, fun _ _ _ => rfl, hs⟩⟩

/-! ### Runs -/

theorem run_inv (hcf : CollisionFreeOn T) (hi : Inv T e) (calls : List Call)
    (hT : ∀ call ∈ calls, call.hashed ⊆ T) : Inv T (e.run calls) ∧ Grows e (e.run calls) := by
  induction calls generalizing e with
  | nil => exact ⟨hi, .refl e⟩
  | cons call calls ih =>
    rw [List.forall_mem_cons] at hT
    obtain ⟨hi', hg⟩ := call_inv hcf hi call hT.1
    obtain ⟨hi'', hg'⟩ := ih hi' hT.2
    exact ⟨hi'', hg.trans hg'⟩

/-- The request was returned by a call of the run, for a candidate with its digest. -/
def Issued (e : Engine) (calls : List Call) (r : ApprovalRequest) : Prop :=
  ∃ pre result post, calls = pre ++ .requestApproval result :: post ∧
    ((e.run pre).call (.requestApproval result)).1 = .ok (.request r) ∧
    ∃ w ∈ result.workflowCandidate, w.candidateDigest = r.candidateDigest

/-- A stored request was stored before the run or issued by it. -/
theorem run_issued (e : Engine) (calls : List Call) {id : String} {r : ApprovalRequest}
    (h : (e.run calls).requests.lookup id = some r) :
    e.requests.lookup id = some r ∨ Issued e calls r := by
  induction calls using List.reverseRecOn with
  | nil => exact .inl h
  | append_singleton calls call ih =>
    -- a request that was there before the last call was issued before it
    have hbefore : (e.run calls).requests.lookup id = some r →
        e.requests.lookup id = some r ∨ Issued e (calls ++ [call]) r := by
      intro hold
      rcases ih hold with hold | ⟨pre, result, post, rfl, hrest⟩
      · exact .inl hold
      · exact .inr ⟨pre, result, post ++ [call], by simp, hrest⟩
    have hcall : e.run (calls ++ [call]) = ((e.run calls).call call).2 := e.run_append calls [call]
    rw [hcall] at h
    have hout := call_outcome (e.run calls) call
    generalize hc : (e.run calls).call call = out at h hout
    cases hout with
    | requested result w hw =>
      rcases Table.lookup_insert_cases h with ⟨rfl, rfl⟩ | ⟨-, h⟩
      · exact .inr ⟨calls, result, [], rfl, by rw [hc], w, approvable_workflow hw, rfl⟩
      · exact hbefore h
    | _ => exact hbefore h

/-- **Replay.** A decision that was answered is answered the same way in every later
state, which it leaves alone. -/
theorem decide_again (hcf : CollisionFreeOn T) (hi : Inv T e) {c : Decide}
    (hT : (Call.decide c).hashed ⊆ T) {a : Answer} (h : (e.call (.decide c)).1 = .ok a)
    {e' : Engine} (hg : Grows (e.call (.decide c)).2 e') :
    e'.call (.decide c) = (.ok a, e') := by
  have hout := call_outcome e (.decide c)
  have hno := fun {w d} (h : e.authorize c = .ok (w, d)) => hi.no_canonical hcf h hT
  generalize e.call (.decide c) = out at h hg hout
  -- the decision is on record after the call, and its answer is the revision on record
  obtain ⟨w, d, hauth, hrec, ha⟩ : ∃ w d, e.authorize c = .ok (w, d) ∧
      out.2.decisions.lookup d.replayIdentity.value = some d ∧
      a = .revision (out.2.canonical.lookup d.approvalId) := by
    cases hout with
    | replayed _ w d hauth hd =>
      cases h
      exact ⟨w, d, hauth, hd, rfl⟩
    | rejected _ w d hauth hd hr =>
      cases h
      exact ⟨w, d, hauth, AList.lookup_insert _, by rw [hno hauth hd]⟩
    | approved _ w d hauth hd happ s hs =>
      cases h
      exact ⟨w, d, hauth, AList.lookup_insert _, by rw [AList.lookup_insert]⟩
    | raised => cases h
    | validated _ hc => exact absurd rfl (hc c)
    | marked _ hc => exact absurd rfl (hc c)
  have hreq := (authorize_spec hauth).1
  have hreq' : out.2.requests = e.requests := by
    cases hout with
    | validated _ hc => rfl
    | _ => rfl
  have hstored : e'.requests.lookup c.request.approvalRequestId = some c.request :=
    hg.requests _ _ (by rw [hreq']; exact hreq)
  have hauth' : e'.authorize c = .ok (w, d) := by
    rw [authorize_congr (e := e) (hstored.trans hreq.symm)]
    exact hauth
  have hrec' := hg.decisions _ _ hrec
  rw [Engine.call, Engine.decide, hauth']
  simp only [hrec', ne_eq, not_true_eq_false, if_false, hg.canonical _ _ hrec, ha, Prod.map,
    Except.map, id]

end Step

/-! ### The approval state machine -/

section Machine

variable [CharacterTables]

/-- The texts a run hashes to tell requests and approvals apart. -/
def hashedTexts (calls : List Call) : Set String := { t | ∃ call ∈ calls, t ∈ call.hashed }

/-- A call that raises leaves the state alone. -/
theorem raise_unchanged (e : Engine) (call : Call) {code : String}
    (h : (e.call call).1 = .error code) : (e.call call).2 = e := by
  have hout := call_outcome e call
  generalize e.call call = out at h hout
  cases hout with
  | raised => rfl
  | _ => cases h

omit [CharacterTables] in
/-- Eligibility is lost for good. -/
theorem Grows.ineligible {e e' : Engine} (hg : Grows e e') {r : CanonicalWorkflowRevision}
    (h : e.isMatchingEligible r = false) : e'.isMatchingEligible r = false := by
  rw [Engine.isMatchingEligible, Bool.and_eq_false_iff, decide_eq_false_iff_not, not_not] at h ⊢
  rcases h with h | h
  · exact .inl h
  · exact .inr (hg.superseded h)

theorem markSuperseded_ineligible (e : Engine) {p s : CanonicalWorkflowRevision}
    (ht : s.tenantId = p.tenantId) (hd : s.securityDomain = p.securityDomain)
    (hl : s.predecessorRevisionId = some p.canonicalWorkflowRevisionId) :
    (e.call (.markSuperseded p s)).2.isMatchingEligible p = false := by
  have hscope : assertScope s.tenantId s.securityDomain p = .ok () := by
    rw [assertScope, if_neg (not_not.mpr ht), if_neg (not_not.mpr hd)]
  rw [Engine.call, Engine.markSuperseded, hscope]
  simp [hl, Engine.isMatchingEligible]

/-- **The approval state machine.** After any run of calls on a new engine: every
stored revision has a recorded approval of its candidate for a request the run
issued; a decision that was answered is answered the same way again and nothing
changes; a call that raises changes nothing; and a revision that is no longer
eligible stays so. -/
theorem approval_state_machine (policy : Identifier) (calls : List Call)
    (hcf : CollisionFreeOn (hashedTexts calls)) :
    (∀ id r, ((Engine.new policy).run calls).canonical.lookup id = some r →
      ∃ d, ((Engine.new policy).run calls).decisions.lookup d.replayIdentity.value = some d ∧
        d.decision = .approve ∧ d.approvalId = r.approvalId ∧
        d.candidateDigest = r.approvedCandidateDigest ∧ d.policyVersion = r.policyVersion.value ∧
        ∃ q, Issued (.new policy) calls q ∧ q.approvalRequestId = d.requestId ∧
          q.candidateDigest = r.approvedCandidateDigest) ∧
    (∀ pre c post a, calls = pre ++ .decide c :: post →
      (((Engine.new policy).run pre).call (.decide c)).1 = .ok a →
      ((Engine.new policy).run calls).call (.decide c)
        = (.ok a, (Engine.new policy).run calls)) ∧
    (∀ call code, (((Engine.new policy).run calls).call call).1 = .error code →
      (((Engine.new policy).run calls).call call).2 = (Engine.new policy).run calls) ∧
    ∀ pre post r, calls = pre ++ post →
      ((Engine.new policy).run pre).isMatchingEligible r = false →
      ((Engine.new policy).run calls).isMatchingEligible r = false := by
  have hT : ∀ call ∈ calls, call.hashed ⊆ hashedTexts calls := fun call hc t ht => ⟨call, hc, ht⟩
  -- the invariant after a part of the run, and what the rest of it keeps
  have hpart : ∀ pre post, calls = pre ++ post →
      Inv (hashedTexts calls) ((Engine.new policy).run pre) ∧
        Grows ((Engine.new policy).run pre) ((Engine.new policy).run calls) := by
    intro pre post hsplit
    have hpre := (run_inv hcf (.new _ policy) pre fun call hc =>
      hT call (by rw [hsplit]; exact List.mem_append_left _ hc)).1
    have hpost := (run_inv hcf hpre post fun call hc =>
      hT call (by rw [hsplit]; exact List.mem_append_right _ hc)).2
    rw [← Engine.run_append, ← hsplit] at hpost
    exact ⟨hpre, hpost⟩
  refine ⟨?_, ?_, fun call code h => raise_unchanged _ call h, ?_⟩
  · intro id r hr
    have hi := (hpart calls [] (List.append_nil _).symm).1
    obtain ⟨hid, d, hd, happ, haid, hdig, hpol⟩ := hi.canonical id r hr
    obtain ⟨-, -, -, q, hq, hqdig⟩ := hi.decisions _ d hd
    obtain ⟨w, -, rfl, hqid⟩ := hi.requests _ q hq
    refine ⟨d, hd, happ, haid.trans hid.symm, hdig, hpol, _, ?_, hqid.symm, hqdig.trans hdig⟩
    rcases run_issued _ _ hq with h | h
    · cases h
    · exact h
  · intro pre c post a hsplit ha
    obtain ⟨hi, -⟩ := hpart pre _ hsplit
    have hsplit' : calls = (pre ++ [.decide c]) ++ post := by rw [hsplit]; simp
    obtain ⟨-, hg⟩ := hpart (pre ++ [.decide c]) post hsplit'
    rw [Engine.run_append] at hg
    refine decide_again hcf hi (hT _ ?_) ha hg
    rw [hsplit]
    exact List.mem_append_right _ List.mem_cons_self
  · intro pre post r hsplit h
    exact (hpart pre post hsplit).2.ineligible h

end Machine

end Invariant

namespace Sample

/-- A revision of the sample plan and a successor of it. -/
def revision (w : WorkflowCandidate) : CanonicalWorkflowRevision := canonicalOf w "approval-1" none

def successor (w : WorkflowCandidate) : CanonicalWorkflowRevision :=
  canonicalOf w "approval-2" (some (revision w))

def supersede (result : PlanningResult) (w : WorkflowCandidate) : List Call :=
  [.requestApproval result, .markSuperseded (revision w) (successor w)]

end Sample

open Sample in
/-- A revision that is superseded early in a run is not eligible after it. -/
theorem approval_state_machine_sample : ∃ (result : PlanningResult) (w : WorkflowCandidate),
    result.workflowCandidate = some w ∧ engine.isMatchingEligible (revision w) = true ∧
    (engine.run (supersede result w)).isMatchingEligible (revision w) = false ∧
    (engine.run (supersede result w ++ [.validate question (candidate [analyze]) generator
      none])).isMatchingEligible (revision w) = false := by
  obtain ⟨c, w, hbuild⟩ := accepted
  obtain ⟨result, -, hw⟩ := validate_of_build (e := engine) rfl hbuild
  have hcf : CollisionFreeOn (hashedTexts (supersede result w ++
      [.validate question (candidate [analyze]) generator none])) := by
    -- one text is hashed
    have hone : ∀ t ∈ hashedTexts (supersede result w ++
        [.validate question (candidate [analyze]) generator none]), t = canonicalJson w.content := by
      rintro t ⟨call, hcall, ht⟩
      simp only [supersede, List.cons_append, List.nil_append, List.mem_cons, List.not_mem_nil,
        or_false] at hcall
      rcases hcall with rfl | rfl | rfl
      · obtain ⟨w', hw', rfl⟩ := ht
        rw [hw] at hw'
        cases hw'
        rfl
      · cases ht
      · cases ht
    intro t ht t' ht' _
    rw [hone t ht, hone t' ht']
  have hmark : ∀ e : Engine,
      (e.call (.markSuperseded (revision w) (successor w))).2.isMatchingEligible (revision w)
        = false := fun e => markSuperseded_ineligible e rfl rfl rfl
  refine ⟨result, w, hw, rfl, hmark _, ?_⟩
  exact (approval_state_machine _ _ hcf).2.2.2 (supersede result w) _ (revision w) rfl (hmark _)

end Planning
end AgentPlatform
