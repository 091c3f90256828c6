/-
AgentPlatform/Control/Interventions.lean

The intervention ledger. Seven transactions write it: `request_intervention`,
`append_transition`, `append_review`, `append_decision`, `persist` and the
request, decision and application parts of `persist_operation`.

All they do to the ledger is one of four moves (`Move`): record a request, advance
an intervention along an edge of `_TRANSITIONS`, record a review, record a
decision with its transition. A move keeps the ledger sound (`Sound.move`), and
so does every run (`run_sound`); `LedgerLaw` is what soundness says about one
intervention in terms of its stored rows.

`append_transition` takes the ordinal from its caller and the version from the
row: it is a move when the caller numbers the transition right after the
expected version.
-/
import AgentPlatform.Control.Sample
import AgentPlatform.Order.History

namespace AgentPlatform

open Py

namespace Control

section Interventions

/-! ### Soundness -/

/-- The transitions of an intervention, in the order they were appended. -/
def Ledger.history (k : RowKey) (l : Ledger) : List TransitionRow :=
  l.transitions.filter fun r => r.intervention = k

def TransitionRow.step (r : TransitionRow) : History.Step InterventionState :=
  ⟨r.ordinal, r.fromState, r.toState⟩

/-- `_TRANSITIONS` as a relation. -/
abbrev Edge (x : Option InterventionState) (y : InterventionState) : Prop := y ∈ transitions x

theorem edge_verdict (v : InterventionVerdict) : Edge (some .requested) v.state := by
  cases v <;> decide

/-- Every intervention is where its history leads, and no row stands without its
intervention. -/
structure Ledger.Sound (l : Ledger) : Prop where
  path : ∀ {k row}, l.interventions.lookup k = some row →
    History.Path Edge ((l.history k).map TransitionRow.step) row.currentState
  version : ∀ {k row}, l.interventions.lookup k = some row →
    row.aggregateVersion = (l.history k).length
  known : ∀ r ∈ l.transitions, (l.interventions.lookup r.intervention).isSome
  reviews : (l.reviews.map (·.intervention)).Nodup
  decisions : (l.decisions.map (·.intervention)).Nodup
  decided : ∀ d ∈ l.decisions, ∃ r ∈ l.transitions,
    r.key = d.key ∧ r.intervention = d.intervention ∧ r.toState = d.decision.state

/-- A ledger in which nothing was requested. -/
def Ledger.empty : Ledger := ⟨∅, [], [], []⟩

theorem Ledger.sound_empty : Ledger.empty.Sound where
  path h := by cases h
  version h := by cases h
  known := by simp [Ledger.empty]
  reviews := List.nodup_nil
  decisions := List.nodup_nil
  decided := by simp [Ledger.empty]

/-! ### Moves -/

/-- An intervention takes one more transition. -/
def Ledger.advanced (l : Ledger) (k key : RowKey) (row : InterventionRow)
    (y : InterventionState) : Ledger :=
  { l with
    interventions := l.interventions.insert k
      { row with currentState := y, aggregateVersion := row.aggregateVersion + 1 }
    transitions := l.transitions ++
      [⟨key, k, row.aggregateVersion + 1, some row.currentState, y⟩] }

/-- What a transaction can do to the ledger. -/
inductive Ledger.Move (l : Ledger) : Ledger → Prop
  | request (k key : RowKey) (target : InterventionTarget) (new : l.interventions.lookup k = none) :
      Move l { l with
        interventions := l.interventions.insert k ⟨target, .requested, 1⟩
        transitions := l.transitions ++ [⟨key, k, 1, none, .requested⟩] }
  | advance (k key : RowKey) {row : InterventionRow} {y : InterventionState}
      (stored : l.interventions.lookup k = some row)
      (edge : Edge (some row.currentState) y) : Move l (l.advanced k key row y)
  | review (r : ReviewRow) (new : r.intervention ∉ l.reviews.map (·.intervention)) :
      Move l { l with reviews := l.reviews ++ [r] }
  | decide (d : DecisionRow) {row : InterventionRow}
      (stored : l.interventions.lookup d.intervention = some row)
      (requested : row.currentState = .requested)
      (new : d.intervention ∉ l.decisions.map (·.intervention)) :
      Move l { l.advanced d.intervention d.key row d.decision.state with
        decisions := l.decisions ++ [d] }

variable {l l' : Ledger} {k : RowKey}

theorem Ledger.history_append {r : TransitionRow} (h : l'.transitions = l.transitions ++ [r])
    (k : RowKey) : l'.history k = l.history k ++ if r.intervention = k then [r] else [] := by
  rw [Ledger.history, h, List.filter_append, Ledger.history]
  congr 1
  by_cases hk : r.intervention = k <;> simp [hk]

theorem Ledger.Sound.history_eq_nil (hl : l.Sound) (h : l.interventions.lookup k = none) :
    l.history k = [] := by
  rw [Ledger.history, List.filter_eq_nil_iff]
  intro r hr hk
  have hs := hl.known r hr
  rw [of_decide_eq_true hk, h] at hs
  cases hs

theorem Ledger.Sound.first (hl : l.Sound) {row : InterventionRow}
    (h : l.interventions.lookup k = some row) :
    ∃ r ∈ l.transitions, r.intervention = k ∧ r.ordinal = 1 := by
  obtain ⟨s, hs, hone, -, -⟩ := (hl.path h).head
  obtain ⟨r, hr, rfl⟩ := List.mem_map.mp (List.mem_of_mem_head? hs)
  obtain ⟨hr, hi⟩ := List.mem_filter.mp hr
  exact ⟨r, hr, of_decide_eq_true hi, hone⟩

/-- A transition together with the row it leads to. -/
theorem Ledger.Sound.append (hl : l.Sound) (row : InterventionRow) {r : TransitionRow}
    (hi : l'.interventions = l.interventions.insert r.intervention row)
    (ht : l'.transitions = l.transitions ++ [r]) (hr : l'.reviews = l.reviews)
    (hd : l'.decisions = l.decisions)
    (path : History.Path Edge ((l.history r.intervention).map TransitionRow.step ++ [r.step])
      row.currentState)
    (version : row.aggregateVersion = (l.history r.intervention).length + 1) : l'.Sound where
  path := by
    intro k' row' h
    rw [hi] at h
    rw [Ledger.history_append ht]
    rcases Table.lookup_insert_cases h with ⟨rfl, rfl⟩ | ⟨hne, h⟩
    · rw [if_pos rfl, List.map_append]
      exact path
    · rw [if_neg (Ne.symm hne), List.append_nil]
      exact hl.path h
  version := by
    intro k' row' h
    rw [hi] at h
    rw [Ledger.history_append ht]
    rcases Table.lookup_insert_cases h with ⟨rfl, rfl⟩ | ⟨hne, h⟩
    · rw [if_pos rfl, List.length_append]
      exact version
    · rw [if_neg (Ne.symm hne), List.append_nil]
      exact hl.version h
  known := by
    intro r' hr'
    rw [hi]
    by_cases hk : r'.intervention = r.intervention
    · rw [hk, AList.lookup_insert]
      rfl
    · rw [AList.lookup_insert_ne hk]
      rw [ht] at hr'
      rcases List.mem_append.mp hr' with hr' | hr'
      · exact hl.known r' hr'
      · cases List.mem_singleton.mp hr'
        exact absurd rfl hk
  reviews := hr ▸ hl.reviews
  decisions := hd ▸ hl.decisions
  decided := by
    intro d hd'
    rw [hd] at hd'
    obtain ⟨r', hr', h⟩ := hl.decided d hd'
    exact ⟨r', ht ▸ List.mem_append_left _ hr', h⟩

theorem Ledger.Sound.advanced (hl : l.Sound) (key : RowKey) {row : InterventionRow}
    {y : InterventionState} (stored : l.interventions.lookup k = some row)
    (edge : Edge (some row.currentState) y) : (l.advanced k key row y).Sound := by
  refine hl.append
    { row with currentState := y, aggregateVersion := row.aggregateVersion + 1 } rfl rfl rfl rfl ?_ ?_
  · have hp := (hl.path stored).next edge
    rw [List.length_map, ← hl.version stored] at hp
    exact hp
  · rw [hl.version stored]

/-- **A move keeps the ledger sound.** -/
theorem Ledger.Sound.move (hl : l.Sound) (hm : l.Move l') : l'.Sound := by
  cases hm with
  | request k key target new =>
    refine hl.append ⟨target, .requested, 1⟩ rfl rfl rfl rfl ?_ ?_
    · rw [hl.history_eq_nil new]
      exact .start (List.mem_singleton_self _)
    · rw [hl.history_eq_nil new]
      rfl
  | advance k key stored edge => exact hl.advanced key stored edge
  | review r new =>
    exact ⟨hl.path, hl.version, hl.known, nodup_map_concat hl.reviews new, hl.decisions, hl.decided⟩
  | @decide d row stored requested new =>
    have ha := hl.advanced d.key stored (requested ▸ edge_verdict d.decision)
    refine ⟨ha.path, ha.version, ha.known, ha.reviews, nodup_map_concat hl.decisions new, ?_⟩
    intro d' hd'
    rcases List.mem_append.mp hd' with hd' | hd'
    · exact ha.decided d' hd'
    · cases List.mem_singleton.mp hd'
      exact ⟨_, List.mem_append_right _ (List.mem_singleton_self _), rfl, rfl, rfl⟩

/-- Several moves. -/
abbrev Ledger.Moves : Ledger → Ledger → Prop := Relation.ReflTransGen Ledger.Move

theorem Ledger.Sound.moves (hl : l.Sound) (hm : l.Moves l') : l'.Sound :=
  invariant_of_run (fun _ _ h hs => h.move hs) hm hl

/-! ### The statements as moves -/

section Writers

variable [Unicodedata] {scope : ScopeIdentity} {t : Targets}

theorem insertRequest_spec {request : InterventionRequest}
    (h : l.insertRequest scope request t = some l') :
    l.interventions.lookup (scope.key request.interventionId) = none ∧
    l' = { l with interventions :=
      l.interventions.insert (scope.key request.interventionId) ⟨request.target, .requested, 1⟩ } := by
  obtain ⟨hc, rfl⟩ := guarded_eq_some.mp h
  simp only [Bool.and_eq_true, Option.isNone_iff_eq_none] at hc
  exact ⟨hc.1.2, rfl⟩

theorem insertTransition_spec {transition : InterventionTransition}
    (h : l.insertTransition scope transition = some l') :
    (l.interventions.lookup (scope.key transition.interventionId)).isSome ∧
    (∀ r ∈ l.transitions, r.intervention = scope.key transition.interventionId →
      r.ordinal ≠ transition.ordinal) ∧
    l' = { l with transitions := l.transitions ++ [⟨scope.key transition.transitionId,
      scope.key transition.interventionId, transition.ordinal, transition.fromState,
      transition.toState⟩] } := by
  obtain ⟨hc, rfl⟩ := guarded_eq_some.mp h
  simp only [Bool.and_eq_true, Bool.not_eq_true', List.any_eq_false, decide_eq_true_eq,
    not_or, not_and] at hc
  exact ⟨hc.1.2, fun r hr => (hc.2 r hr).2, rfl⟩

theorem move_of_request {request : InterventionRequest} {l₁ : Ledger}
    {transition : InterventionTransition} (h₁ : l.insertRequest scope request t = some l₁)
    (h₂ : l₁.insertTransition scope transition = some l')
    (hi : transition.interventionId = request.interventionId) (ho : transition.ordinal = 1)
    (hf : transition.fromState = none) (ht : transition.toState = .requested) : l.Move l' := by
  obtain ⟨hnew, rfl⟩ := insertRequest_spec h₁
  obtain ⟨-, -, rfl⟩ := insertTransition_spec h₂
  rw [hi, ho, hf, ht]
  exact .request _ _ _ hnew

/-- A transition from the present state, with the update of its intervention. -/
theorem move_of_transition {transition : InterventionTransition} {row : InterventionRow}
    {l₁ : Ledger} (stored : l.interventions.lookup (scope.key transition.interventionId) = some row)
    (hf : transition.fromState = some row.currentState)
    (ho : transition.ordinal = row.aggregateVersion + 1)
    (edge : transition.toState ∈ transitions transition.fromState)
    (h : l.insertTransition scope transition = some l₁) :
    l.Move (l₁.setState (scope.key transition.interventionId) transition.toState
      transition.ordinal) := by
  obtain ⟨-, -, rfl⟩ := insertTransition_spec h
  rw [hf] at edge
  have hm := Ledger.Move.advance (l := l) _ (scope.key transition.transitionId) stored edge
  simp only [Ledger.setState, stored, ho, hf]
  exact hm

/-- The update first, as `append_transition` does it. -/
theorem move_of_update {transition : InterventionTransition} {row : InterventionRow}
    (stored : l.interventions.lookup (scope.key transition.interventionId) = some row)
    (hf : transition.fromState = some row.currentState)
    (ho : transition.ordinal = row.aggregateVersion + 1)
    (edge : transition.toState ∈ transitions transition.fromState)
    (h : (l.setState (scope.key transition.interventionId) transition.toState
      transition.ordinal).insertTransition scope transition = some l') : l.Move l' := by
  obtain ⟨-, -, rfl⟩ := insertTransition_spec h
  rw [hf] at edge
  have hm := Ledger.Move.advance (l := l) _ (scope.key transition.transitionId) stored edge
  simp only [Ledger.setState, stored, ho, hf]
  exact hm

theorem move_of_review {review : InterventionReview}
    (h : l.insertReview scope review = some l') : l.Move l' := by
  obtain ⟨hc, rfl⟩ := guarded_eq_some.mp h
  simp only [Bool.and_eq_true, Bool.not_eq_true', List.any_eq_false, decide_eq_true_eq,
    not_or] at hc
  refine .review ⟨scope.key review.reviewId, scope.key review.interventionId⟩ ?_
  intro hm
  obtain ⟨r, hr, he⟩ := List.mem_map.mp hm
  exact (hc.1.2 r hr).2 he

theorem insertDecision_spec {d : InterventionDecision}
    (h : l.insertDecision scope d = some l') :
    scope.key d.interventionId ∉ l.decisions.map (·.intervention) ∧
    l' = { l with decisions := l.decisions ++ [⟨scope.key d.decisionId,
      scope.key d.interventionId, scope.key d.reviewId, d.decision⟩] } := by
  obtain ⟨hc, rfl⟩ := guarded_eq_some.mp h
  simp only [Bool.and_eq_true, Bool.not_eq_true', List.any_eq_false, decide_eq_true_eq,
    not_or] at hc
  refine ⟨?_, rfl⟩
  intro hm
  obtain ⟨r, hr, he⟩ := List.mem_map.mp hm
  exact (hc.1.1.2 r hr).2 he

theorem decide_spec {d : InterventionDecision} {row : InterventionRow}
    (stored : l.interventions.lookup (scope.key d.interventionId) = some row)
    (requested : row.currentState = .requested)
    (h : l.decide scope d row.aggregateVersion = some l') :
    l.Move l' ∧ l'.interventions.lookup (scope.key d.interventionId) = some { row with
      currentState := d.decision.state, aggregateVersion := row.aggregateVersion + 1 } := by
  unfold Ledger.decide at h
  obtain ⟨l₁, h₁, h⟩ := Option.bind_eq_some_iff.mp h
  obtain ⟨l₂, h₂, h⟩ := Option.bind_eq_some_iff.mp h
  cases h
  obtain ⟨hnew, rfl⟩ := insertDecision_spec h₁
  obtain ⟨-, -, rfl⟩ := insertTransition_spec h₂
  have hm := Ledger.Move.decide (l := l) ⟨scope.key d.decisionId, scope.key d.interventionId,
    scope.key d.reviewId, d.decision⟩ stored requested hnew
  simp only [Ledger.setState, stored, decisionTransition]
  rw [Ledger.advanced, requested] at hm
  exact ⟨hm, AList.lookup_insert _⟩

/-! ### The transactions -/

variable {s s' : Authority}

theorem requestIntervention_moves {request a : InterventionRequest}
    (h : requestIntervention scope request s = .ok (a, s')) : s.ledger.Moves s'.ledger := by
  unfold requestIntervention at h
  simp only [bind_eq_ok, orRaise_eq_ok] at h
  obtain ⟨l₁, h₁, l₂, h₂, h⟩ := h
  cases h
  exact .single (move_of_request h₁ h₂ rfl rfl rfl rfl)

omit [Unicodedata] in
theorem validateTransition_eq_ok {transition : InterventionTransition} {u : Unit} :
    validateTransition transition = .ok u ↔
      transition.toState ∈ transitions transition.fromState := by
  unfold validateTransition
  split <;> simp_all

theorem appendTransition_moves {transition a : InterventionTransition} {expected : Nat}
    (ho : transition.ordinal = expected + 1)
    (h : appendTransition scope transition expected s = .ok (a, s')) :
    s.ledger.Moves s'.ledger := by
  unfold appendTransition at h
  simp only [bind_eq_ok, ite_error_eq_ok', validateTransition_eq_ok] at h
  obtain ⟨_, hv, -, h⟩ := h
  split at h
  · cases h
  next row hrow =>
    simp only [ite_error_eq_ok', bind_eq_ok, orRaise_eq_ok, not_or, not_not] at h
    obtain ⟨⟨hver, hf⟩, l₁, h₁, h⟩ := h
    cases h
    rw [← hver] at ho
    rw [← ho] at h₁
    exact .single (move_of_update hrow hf.symm ho hv h₁)

theorem appendReview_moves {review a : InterventionReview}
    (h : appendReview scope review s = .ok (a, s')) : s.ledger.Moves s'.ledger := by
  unfold appendReview at h
  simp only [bind_eq_ok, orRaise_eq_ok, ite_error_eq_ok'] at h
  obtain ⟨-, -, l₁, h₁, h⟩ := h
  cases h
  exact .single (move_of_review h₁)

theorem appendDecision_moves {decision a : InterventionDecision}
    (h : appendDecision scope decision s = .ok (a, s')) : s.ledger.Moves s'.ledger := by
  unfold appendDecision at h
  simp only [ite_error_eq_ok'] at h
  obtain ⟨-, h⟩ := h
  split at h
  · cases h
  next row hrow =>
    simp only [ite_error_eq_ok', bind_eq_ok, orRaise_eq_ok, not_or, not_not] at h
    obtain ⟨⟨-, hreq⟩, l₁, h₁, h⟩ := h
    cases h
    exact .single (decide_spec hrow hreq h₁).1

/-- `persist` records its request and settles it. A command whose transition is
for another intervention fails: that intervention has its first transition. -/
theorem persist_moves {c : AtomicControlCommand} {authorized : Bool} {a : AtomicControlResult}
    (hl : s.ledger.Sound) (h : persist c authorized s = .ok (a, s')) :
    s.ledger.Moves s'.ledger := by
  unfold persist at h
  simp only [ite_error_eq_ok'] at h
  obtain ⟨-, -, h⟩ := h
  split at h
  · obtain ⟨_, -, he⟩ := map_eq_ok.mp h
    cases he
    exact .refl
  · simp only [ite_error_eq_ok', bind_eq_ok, orRaise_eq_ok] at h
    obtain ⟨-, l₁, h₁, ⟨version, targets⟩, -, l₂, h₂, ⟨plans, targets'⟩, -, -, h⟩ := h
    cases h
    show s.ledger.Moves l₂
    obtain ⟨l₀, h₀, h₁⟩ := Option.bind_eq_some_iff.mp h₁
    have hsame : c.transition.interventionId = c.request.interventionId := by
      by_contra hne
      obtain ⟨-, rfl⟩ := insertRequest_spec h₀
      obtain ⟨hstored, hfree, -⟩ := insertTransition_spec h₁
      have hkey : c.scope.key c.transition.interventionId ≠
          c.scope.key c.request.interventionId := by
        intro he
        exact hne (congrArg RowKey.id he)
      simp only [AList.lookup_insert_ne hkey] at hstored
      obtain ⟨row, hrow⟩ := Option.isSome_iff_exists.mp hstored
      obtain ⟨r, hr, hi, hone⟩ := hl.first hrow
      exact hfree r hr hi hone
    have hm₁ := move_of_request h₀ h₁ hsame rfl rfl rfl
    have hm₂ : l₁.Move l₂ := by
      unfold AtomicControlCommand.recordApplied at h₂
      simp only [bind_eq_ok, orRaise_eq_ok, validateTransition_eq_ok] at h₂
      obtain ⟨_, hv, l₃, h₃, h₂⟩ := h₂
      cases h₂
      have hkey : c.scope.key c.request.interventionId =
          c.scope.key c.applied.interventionId := congrArg c.scope.key hsame.symm
      have hstored : l₁.interventions.lookup (c.scope.key c.applied.interventionId)
          = some ⟨c.request.target, .requested, 1⟩ := by
        obtain ⟨-, rfl⟩ := insertRequest_spec h₀
        obtain ⟨-, -, rfl⟩ := insertTransition_spec h₁
        rw [← hkey]
        exact AList.lookup_insert _
      rw [hkey]
      exact move_of_transition hstored rfl rfl hv h₃
    exact .tail (.single hm₁) hm₂

/-! ### persist_operation -/

section Operation

variable {op : WorkflowControlOperation} {id : String} {c : Cursor}

/-- Every applied transition was there before. -/
def NoneApplied (l l' : Ledger) : Prop :=
  ∀ r ∈ l'.transitions, r.toState = .applied → r ∈ l.transitions

omit [Unicodedata] in
@[simp] theorem setState_transitions (l : Ledger) (k : RowKey) (x : InterventionState) (n : Nat) :
    (l.setState k x n).transitions = l.transitions := by
  unfold Ledger.setState
  split <;> rfl

omit [Unicodedata] in
@[simp] theorem setState_decisions (l : Ledger) (k : RowKey) (x : InterventionState) (n : Nat) :
    (l.setState k x n).decisions = l.decisions := by
  unfold Ledger.setState
  split <;> rfl

theorem insertTransition_noneApplied {transition : InterventionTransition}
    (h : l.insertTransition scope transition = some l') (hn : transition.toState ≠ .applied) :
    NoneApplied l l' := by
  obtain ⟨-, -, rfl⟩ := insertTransition_spec h
  intro r hr ha
  rcases List.mem_append.mp hr with hr | hr
  · exact hr
  · cases List.mem_singleton.mp hr
    exact absurd ha hn

theorem recordRequest_spec (h : op.recordRequest id t l = .ok l') :
    l.Moves l' ∧ NoneApplied l l' := by
  unfold WorkflowControlOperation.recordRequest at h
  split at h
  · cases h
    exact ⟨.refl, fun _ hr _ => hr⟩
  · split at h
    · cases h
    · simp only [ite_error_eq_ok', bind_eq_ok, orRaise_eq_ok] at h
      obtain ⟨-, l₁, h₁, h₂⟩ := h
      refine ⟨.single (move_of_request h₁ h₂ rfl rfl rfl rfl), ?_⟩
      obtain ⟨-, rfl⟩ := insertRequest_spec h₁
      have hna := insertTransition_noneApplied h₂ (by simp [requestedTransition])
      exact hna

theorem openIntervention_spec (h : op.openIntervention id l = .ok c) :
    ∃ row, l.interventions.lookup (op.scope.key id) = some row ∧ row.currentState = c.state ∧
      row.aggregateVersion = c.version ∧ row.aggregateVersion = c.ordinal := by
  unfold WorkflowControlOperation.openIntervention at h
  simp only [ite_error_eq_ok'] at h
  obtain ⟨-, h⟩ := h
  split at h
  · cases h
  next row hrow =>
    simp only [ite_error_eq_ok'] at h
    obtain ⟨-, h⟩ := h
    cases h
    exact ⟨row, hrow, rfl, rfl, rfl⟩

theorem recordReview_spec (h : op.recordReview id c l = .ok l') :
    l.Moves l' ∧ l'.interventions = l.interventions ∧ l'.transitions = l.transitions := by
  unfold WorkflowControlOperation.recordReview at h
  split at h
  · cases h
    exact ⟨.refl, rfl, rfl⟩
  · simp only [ite_error_eq_ok', orRaise_eq_ok] at h
    refine ⟨.single (move_of_review h.2), ?_⟩
    obtain ⟨-, rfl⟩ := guarded_eq_some.mp h.2
    exact ⟨rfl, rfl⟩

theorem decide_noneApplied {d : InterventionDecision} {version : Nat}
    (h : l.decide scope d version = some l') : NoneApplied l l' := by
  unfold Ledger.decide at h
  obtain ⟨l₁, h₁, h⟩ := Option.bind_eq_some_iff.mp h
  obtain ⟨l₂, h₂, h⟩ := Option.bind_eq_some_iff.mp h
  cases h
  obtain ⟨-, rfl⟩ := insertDecision_spec h₁
  have hn : (decisionTransition d version).toState ≠ .applied := by
    show d.decision.state ≠ _
    cases d.decision <;> nofun
  intro r hr ha
  rw [setState_transitions] at hr
  exact insertTransition_noneApplied h₂ hn r hr ha

theorem recordDecision_spec {c' : Cursor} {row : InterventionRow}
    (stored : l.interventions.lookup (op.scope.key id) = some row)
    (hs : row.currentState = c.state) (hv : row.aggregateVersion = c.version)
    (ho : row.aggregateVersion = c.ordinal) (h : op.recordDecision id c l = .ok (c', l')) :
    l.Moves l' ∧ NoneApplied l l' ∧ ∃ row', l'.interventions.lookup (op.scope.key id) = some row' ∧
      row'.currentState = c'.state ∧ row'.aggregateVersion = c'.ordinal := by
  unfold WorkflowControlOperation.recordDecision at h
  split at h
  · cases h
    exact ⟨.refl, fun _ hr _ => hr, row, stored, hs, ho⟩
  next d hd =>
    simp only [ite_error_eq_ok', bind_eq_ok, orRaise_eq_ok, not_or, not_not] at h
    obtain ⟨⟨-, rfl, hreq⟩, -, -, l₁, h₁, h⟩ := h
    cases h
    rw [← hv] at h₁
    obtain ⟨hm, hl'⟩ := decide_spec stored (hs.trans hreq) h₁
    refine ⟨.single hm, decide_noneApplied h₁, _, hl', rfl, ?_⟩
    show row.aggregateVersion + 1 = c.ordinal + 1
    rw [ho]

/-- What a command records of its intervention: moves, none of them to
`APPLIED`, and a cursor at the intervention. -/
theorem recordIntervention_spec (h : op.recordIntervention id t l = .ok (c, l')) :
    l.Moves l' ∧ NoneApplied l l' ∧ ∃ row, l'.interventions.lookup (op.scope.key id) = some row ∧
      row.currentState = c.state ∧ row.aggregateVersion = c.ordinal := by
  unfold WorkflowControlOperation.recordIntervention at h
  simp only [bind_eq_ok] at h
  obtain ⟨l₁, h₁, c₀, h₀, l₂, h₂, h₃⟩ := h
  obtain ⟨hm₁, ha₁⟩ := recordRequest_spec h₁
  obtain ⟨row, hrow, hs, hv, ho⟩ := openIntervention_spec h₀
  obtain ⟨hm₂, hi, ht⟩ := recordReview_spec h₂
  rw [← hi] at hrow
  obtain ⟨hm₃, ha₃, hrow'⟩ := recordDecision_spec hrow hs hv ho h₃
  refine ⟨(hm₁.trans hm₂).trans hm₃, ?_, hrow'⟩
  intro r hr ha
  have hr₂ := ha₃ r hr ha
  rw [ht] at hr₂
  exact ha₁ r hr₂ ha

/-- The application of a decision: two moves, after which the transition to
`APPLIED` is the last. -/
theorem applyDecision_moves {row : InterventionRow} {t' : Targets} {version : Nat}
    {applied : String} (stored : l.interventions.lookup (op.scope.key id) = some row)
    (hs : row.currentState = c.state) (ho : row.aggregateVersion = c.ordinal)
    (h : op.applyDecision id c l t = .ok (l', t', version, applied)) :
    l.Moves l' ∧ l'.decisions = l.decisions ∧
    (∀ r ∈ l.transitions, r ∈ l'.transitions) ∧
    (∀ r ∈ l'.transitions, r.toState = .applied → r ∈ l.transitions ∨
      (r.intervention = op.scope.key id ∧ r.ordinal = c.ordinal + 2)) := by
  obtain ⟨hc, -, ⟨l₁, l₂, h₁, h₂, rfl⟩, -⟩ := applyDecision_spec h
  have hm₁ := move_of_transition (l := l) stored (by rw [hs, hc]; rfl)
    (by rw [ho]; rfl) (by show InterventionState.applicationPending ∈ transitions (some .authorized); decide) h₁
  have hstored : (l₁.setState (op.scope.key id) .applicationPending (c.ordinal + 1)).interventions.lookup
      (op.scope.key id) = some { row with
        currentState := .applicationPending, aggregateVersion := c.ordinal + 1 } := by
    obtain ⟨-, -, rfl⟩ := insertTransition_spec h₁
    simp only [Ledger.setState, stored]
    exact AList.lookup_insert _
  have hm₂ := move_of_transition hstored rfl rfl
    (by show InterventionState.applied ∈ transitions (some .applicationPending); decide) h₂
  refine ⟨.tail (.single hm₁) hm₂, ?_, ?_, ?_⟩
  · obtain ⟨-, -, e₁⟩ := insertTransition_spec h₁
    obtain ⟨-, -, e₂⟩ := insertTransition_spec h₂
    rw [setState_decisions, e₂, setState_decisions, e₁]
  · obtain ⟨-, -, e₁⟩ := insertTransition_spec h₁
    obtain ⟨-, -, e₂⟩ := insertTransition_spec h₂
    intro r hr
    rw [setState_transitions, e₂, setState_transitions, e₁]
    exact List.mem_append_left _ (List.mem_append_left _ hr)
  · intro r hr ha
    have ha₁ := insertTransition_noneApplied h₁ (by simp [WorkflowControlOperation.applicationTransition])
    obtain ⟨-, -, e₂⟩ := insertTransition_spec h₂
    rw [setState_transitions, e₂, setState_transitions] at hr
    rcases List.mem_append.mp hr with hr | hr
    · exact .inl (ha₁ r hr ha)
    · cases List.mem_singleton.mp hr
      exact .inr ⟨rfl, rfl⟩

end Operation

theorem persistOperation_moves {x : LineageAnswers} {op : WorkflowControlOperation}
    {authorized : Bool} {r : WorkflowControlOperationResult}
    (h : persistOperation x op authorized s = .ok (r, s')) : s.ledger.Moves s'.ledger := by
  obtain ⟨-, -, -, ⟨_, -, -, rfl⟩ | ⟨-, h⟩⟩ := persistOperation_cases h
  · exact .refl
  · obtain ⟨id, c, l₁, e, tid, n, ev, oc, hc, -, rfl⟩ := runOperation_spec h
    obtain ⟨hm, -, row, hrow, hs, ho⟩ := recordIntervention_spec hc.recorded
    show s.ledger.Moves e.ledger
    obtain he | ⟨-, _, _, _, ha⟩ := carryOut_ledger hc.carried
    · rw [he]
      exact hm
    · exact hm.trans (applyDecision_moves hrow hs ho ha).1

/-- The decision behind a transition to `APPLIED`: its own transition comes
before. -/
def Ledger.AppliedAfterDecision (l : Ledger) (r : TransitionRow) : Prop :=
  ∃ d ∈ l.decisions, d.intervention = r.intervention ∧ d.decision = .authorize ∧
    ∃ r' ∈ l.transitions, r'.key = d.key ∧ r'.intervention = r.intervention ∧
      r'.toState = .authorized ∧ r'.ordinal < r.ordinal

/-- A transition to `APPLIED` that `persist_operation` writes comes after an
authorizing decision. -/
theorem persistOperation_applied {x : LineageAnswers} {op : WorkflowControlOperation}
    {authorized : Bool} {a : WorkflowControlOperationResult} (hl : s.ledger.Sound)
    (h : persistOperation x op authorized s = .ok (a, s')) {r : TransitionRow}
    (hr : r ∈ s'.ledger.transitions) (hnew : r ∉ s.ledger.transitions)
    (happ : r.toState = .applied) : s'.ledger.AppliedAfterDecision r := by
  obtain ⟨-, -, -, ⟨_, -, -, rfl⟩ | ⟨-, h⟩⟩ := persistOperation_cases h
  · exact absurd hr hnew
  · obtain ⟨id, c, l₁, e, tid, n, ev, oc, hc, -, rfl⟩ := runOperation_spec h
    obtain ⟨hm, hna, row, hrow, hs, ho⟩ := recordIntervention_spec hc.recorded
    have hr' : r ∈ e.ledger.transitions := hr
    show e.ledger.AppliedAfterDecision r
    obtain he | ⟨-, _, _, _, ha⟩ := carryOut_ledger hc.carried
    · rw [he] at hr'
      exact absurd (hna r hr' happ) hnew
    · obtain ⟨-, hdec, hsub, hall⟩ := applyDecision_moves hrow hs ho ha
      obtain hold | ⟨hi, hord⟩ := hall r hr' happ
      · exact absurd (hna r hold happ) hnew
      · have hl₁ := hl.moves hm
        obtain ⟨-, ⟨d, hd, hdi, hda⟩, -, -⟩ := applyDecision_spec ha
        obtain ⟨r', hr', hkey, hint, hto⟩ := hl₁.decided d hd
        refine ⟨d, hdec ▸ hd, hdi.trans hi.symm, hda, r', hsub r' hr', hkey,
          hint.trans (hdi.trans hi.symm), by rw [hto, hda]; rfl, ?_⟩
        -- the history of the intervention was as long as the cursor says
        have hmem : r'.step ∈ (l₁.history (op.scope.key id)).map TransitionRow.step :=
          List.mem_map_of_mem (List.mem_filter.mpr ⟨hr', decide_eq_true (hint.trans hdi)⟩)
        have hle := ((hl₁.path hrow).ordinal_le hmem).2
        rw [List.length_map, ← hl₁.version hrow, ho] at hle
        show r'.step.ordinal < _
        omega

end Writers

/-! ### Runs -/

section Runs

variable [Unicodedata]

/-- `append_transition` is called with the ordinal after the expected version. -/
def Command.Numbered : Command → Prop
  | .appendTransition _ transition expected => transition.ordinal = expected + 1
  | _ => True

theorem body_moves {c : Command} {s s' : Authority} (hn : c.Numbered) (hl : s.ledger.Sound)
    (h : c.body s = .ok ((), s')) : s.ledger.Moves s'.ledger := by
  cases c <;> obtain ⟨a, h⟩ := ignoring_eq_ok.mp h
  case requestIntervention => exact requestIntervention_moves h
  case appendTransition => exact appendTransition_moves hn h
  case appendReview => exact appendReview_moves h
  case appendDecision => exact appendDecision_moves h
  case preparePlanEntry =>
    unfold Control.preparePlanEntry at h
    simp only [ite_error_eq_ok', bind_eq_ok, orRaise_eq_ok] at h
    obtain ⟨-, -, _, -, h⟩ := h
    cases h
    exact .refl
  case approvePlanEntry =>
    unfold Control.approvePlanEntry at h
    simp only [ite_error_eq_ok', bind_eq_ok] at h
    obtain ⟨-, -, -, _, -, h⟩ := h
    cases h
    exact .refl
  case persist => exact persist_moves hl h
  case persistOperation => exact persistOperation_moves h
  case save =>
    obtain ⟨-, _, _, _, -, -, -, he⟩ := save_spec h
    rw [he]

/-- **Every run keeps the ledger sound.** -/
theorem run_sound {cs : List Command} (hcs : ∀ c ∈ cs, c.Numbered) {s : Authority}
    (hs : s.ledger.Sound) : (run cs s).ledger.Sound :=
  run_induction (P := fun s => s.ledger.Sound)
    (fun _ _ _ hn hl h => hl.moves (body_moves hn hl h)) hcs hs

end Runs

/-! ### One intervention -/

/-- The rows of an intervention agree with each other. -/
structure LedgerLaw (l : Ledger) (k : RowKey) (row : InterventionRow) : Prop where
  ordinals : (l.history k).map (·.ordinal) = List.range' 1 row.aggregateVersion
  starts : ∃ r, (l.history k).head? = some r ∧ r.fromState = none ∧ r.toState = .requested
  linked : (l.history k).IsChain fun r r' => r'.fromState = some r.toState
  edges : ∀ r ∈ l.history k, r.toState ∈ transitions r.fromState
  last : (l.history k).getLast?.map (·.toState) = some row.currentState
  oneReview : (l.reviews.filter fun r => r.intervention = k).length ≤ 1
  oneDecision : (l.decisions.filter fun d => d.intervention = k).length ≤ 1

/-- What soundness says about an intervention. -/
theorem Ledger.Sound.law (hl : l.Sound) {row : InterventionRow}
    (h : l.interventions.lookup k = some row) : LedgerLaw l k row where
  ordinals := by
    have ho := (hl.path h).ordinals
    rw [List.map_map, List.length_map, ← hl.version h] at ho
    exact ho
  starts := by
    obtain ⟨s, hs, -, hsource, hto⟩ := (hl.path h).head
    rw [List.head?_map, Option.map_eq_some_iff] at hs
    obtain ⟨r, hr, rfl⟩ := hs
    exact ⟨r, hr, hsource, List.mem_singleton.mp hto⟩
  linked := (List.isChain_map _).mp (hl.path h).chain
  edges r hr := (hl.path h).edges _ (List.mem_map_of_mem hr)
  last := by
    have hlast := (hl.path h).last
    rw [List.getLast?_map, Option.map_map] at hlast
    exact hlast
  oneReview := length_filter_map_le_one hl.reviews k
  oneDecision := length_filter_map_le_one hl.decisions k

/-- **The intervention ledger.** After any run of the repository's
transactions, every intervention's transitions are numbered without gaps, follow
`_TRANSITIONS` from the request to the stored state, and carry at most one
review and one decision; and a transition to `APPLIED` that `persist_operation`
writes comes after an authorizing decision. -/
theorem ledger_law_of_run [Unicodedata] (cs : List Command) (s : Authority)
    (hcs : ∀ c ∈ cs, c.Numbered) (hs : s.ledger = Ledger.empty) :
    (∀ k row, (run cs s).ledger.interventions.lookup k = some row →
      LedgerLaw (run cs s).ledger k row) ∧
    ∀ x op authorized a s', persistOperation x op authorized (run cs s) = .ok (a, s') →
      ∀ r ∈ s'.ledger.transitions, r ∉ (run cs s).ledger.transitions → r.toState = .applied →
        s'.ledger.AppliedAfterDecision r := by
  have hsound : (run cs s).ledger.Sound := run_sound hcs (hs ▸ Ledger.sound_empty)
  constructor
  · intro k row h
    exact hsound.law h
  · intro x op authorized a s' h r hr hnew happ
    exact persistOperation_applied hsound h hr hnew happ

open AgentPlatform.Sample in
open Sample in
theorem ledger_law_of_sample :
    let s := run [.requestIntervention scope (request "intervention-1" "POLICY"),
      .appendReview scope ⟨"review-1", "intervention-1", "actor-1", "owner", instant 0⟩] runStore
    ∃ row, s.ledger.interventions.lookup (scope.key "intervention-1") = some row ∧
      LedgerLaw s.ledger (scope.key "intervention-1") row := by
  intro s
  have hrow : s.ledger.interventions.lookup (scope.key "intervention-1")
      = some ⟨.workflowRun "run-1", .requested, 1⟩ := by
    rfl
  exact ⟨_, hrow, (ledger_law_of_run _ runStore (by simp [Command.Numbered]) rfl).1 _ _ hrow⟩

end Interventions

end Control

end AgentPlatform
