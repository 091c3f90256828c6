/-
AgentPlatform/Draft/Settled.lean

A settled draft invocation stays settled, in the runs where the provider is
asked about unsettled invocations only, where its observations and the linked
problems have identifiers, and where a lost write of `REQUESTED` is followed by
a version that may be dispatched (`stays_settled`).

`observe` asks the provider about every version that has a correlation and no
terminal observation, whatever its state: an invocation of unknown outcome that
its user rejected is moved on by the next observation (`unsettled_by_observe`).
-/
import AgentPlatform.Draft.Dispatch

namespace AgentPlatform

open Py

namespace Draft

variable {ι : Type} {c : Care} {s : State ι} {key : InvocationKey} {r r' v : DraftInvocation}

/-- The provider has ended the invocation. -/
def DraftInvocationState.Answered (state : DraftInvocationState) : Prop :=
  state = .succeeded ∨ state = .failed ∨ state = .cancellationConfirmed

/-- `r'` is the version after `r`. -/
structure Next (s : State ι) (key : InvocationKey) (r r' : DraftInvocation) : Prop where
  stored : r ∈ s.history key
  stored_next : r' ∈ s.history key
  version : r'.aggregateVersion = r.aggregateVersion + 1

/-- What is to hold of the versions that are stored: they are numbered from
one; no version after one in `REJECTED`, `FAILED_PRE_DISPATCH`,
`REJECTED_BY_USER` or `CONFLICT_REVIEW_REQUIRED` has another state; the version
after one in `SUCCEEDED`, `FAILED` or `CANCELLATION_CONFIRMED` keeps its state,
is rejected by its user in `reject`, or is in conflict; and a problem is linked
to an invocation in `SUCCEEDED` that has none, at most once. -/
structure StaysSettled (s : State ι) : Prop where
  numbered : ∀ key n, ∀ h : n < (s.history key).length,
    ((s.history key).get ⟨n, h⟩).aggregateVersion = n + 1
  settled : ∀ key, ∀ r ∈ s.history key, ∀ v ∈ s.history key,
    r.aggregateVersion ≤ v.aggregateVersion → r.state.Settled → v.state = r.state
  answered : ∀ key r r', Next s key r r' → r.state.Answered →
    r'.state = r.state ∨ r'.state = .conflictReviewRequired
      ∨ (r'.state = .rejectedByUser ∧ s.site (r'.key, r'.aggregateVersion) = some .rejection)
  linked : ∀ key r r', Next s key r r' → ¬ SameProblem r r' →
    r.state = .succeeded ∧ truthy r.problemId = false ∧ truthy r'.problemId = true
  once : ∀ key r r' v v', Next s key r r' → Next s key v v' → ¬ SameProblem r r' →
    ¬ SameProblem v v' → r = v

/-! ### One write -/

/-- The version before one that is not the first. -/
theorem Inv.exists_previous (hi : Inv c s) (h : r' ∈ s.history key)
    (hn : r'.aggregateVersion ≠ 1) : ∃ r, Next s key r r' := by
  have hbounds := hi.version_bounds h
  obtain ⟨r, hr, hrn⟩ := hi.exists_version key
    (show 1 ≤ r'.aggregateVersion - 1 by omega) (by omega)
  exact ⟨r, hr, h, by omega⟩

theorem Inv.next (hi : Inv c s) (h : Next s key r r') :
    ∃ site, s.site (r'.key, r'.aggregateVersion) = some site
      ∧ Follows c (fun _ => True) True site r r' :=
  hi.follows key r h.stored r' h.stored_next h.version

/-- An ended invocation has a terminal observation. -/
theorem Inv.terminal (hi : Inv c s) (hc : c.settled = true) (h : r' ∈ s.history key)
    (hstate : r'.state.Answered) : truthy r'.terminalObservationId = true := by
  -- by induction on the number of the version
  obtain ⟨n, hn⟩ : ∃ n, r'.aggregateVersion = n := ⟨_, rfl⟩
  induction n generalizing r' with
  | zero => exact absurd (hi.version_bounds h).1 (by omega)
  | succ n ih =>
    by_cases hone : r'.aggregateVersion = 1
    · have hfresh := (hi.first key r' h hone).state
      rw [hfresh] at hstate
      rcases hstate with hstate | hstate | hstate <;> cases hstate
    obtain ⟨r, hnext⟩ := hi.exists_previous h hone
    have hprevious : r.state = r'.state → truthy r.terminalObservationId = true := fun heq =>
      ih hnext.stored (heq ▸ hstate) (by have := hnext.version; omega)
    have hno : ∀ state : DraftInvocationState, r'.state = state → ¬ state.Answered → False :=
      fun state heq hne => hne (heq ▸ hstate)
    obtain ⟨site, -, hf⟩ := hi.next hnext
    cases hf.edge with
    | authorized start stop =>
      rcases stop with stop | stop | stop | stop <;>
        exact (hno _ stop (by rintro (h | h | h) <;> cases h)).elim
    | ended start stop => exact (hno _ stop (by rintro (h | h | h) <;> cases h)).elim
    | recorded start stop => exact (hno _ stop (by rintro (h | h | h) <;> cases h)).elim
    | undispatched start writer stop =>
      rcases stop with stop | stop <;>
        exact (hno _ stop (by rintro (h | h | h) <;> cases h)).elim
    | withdrawn start stop => exact (hno _ stop (by rintro (h | h | h) <;> cases h)).elim
    | cancelled start stop => exact (hno _ stop (by rintro (h | h | h) <;> cases h)).elim
    | rejected start by_ stop => exact (hno _ stop (by rintro (h | h | h) <;> cases h)).elim
    | linked start unlinked stop same =>
      rw [same.terminalObservationId]
      exact hprevious (start.trans stop.symm)
    | touched o received stop same =>
      rw [same.terminalObservationId]
      exact hprevious stop.symm
    | conflicted o received start stop =>
      exact (hno _ stop (by rintro (h | h | h) <;> cases h)).elim
    | observed o received start unsettled stop => exact stop hc hstate

/-- **A settled version** is followed by one in the same state. -/
theorem Inv.next_settled (hi : Inv c s) (hr : c.requested = true) (hc : c.settled = true)
    (h : Next s key r r') (hstate : r.state.Settled) : r'.state = r.state := by
  have hready : ¬ r.state.Ready := by
    rintro (hready | hready) <;> rw [hready] at hstate <;>
      rcases hstate with hstate | hstate | hstate | hstate <;> cases hstate
  have hno : ∀ state : DraftInvocationState, r.state = state → ¬ state.Settled → False :=
    fun state heq hne => hne (heq ▸ hstate)
  obtain ⟨site, -, hf⟩ := hi.next h
  cases hf.edge with
  | authorized start => exact (hno _ start (by decide)).elim
  | ended start => exact absurd (start hr) hready
  | recorded start => exact absurd (start hr) hready
  | undispatched start => exact (hno _ start (by decide)).elim
  | withdrawn start =>
    rcases start with start | start
    · exact (hno _ start (by decide)).elim
    · exact absurd start hready
  | cancelled start =>
    rcases start with start | start | start | start | start <;>
      exact (hno _ start (by decide)).elim
  | rejected start => rcases start with start | start | start <;> exact (hno _ start (by decide)).elim
  | linked start => exact (hno _ start (by decide)).elim
  | touched o received stop => exact stop
  | conflicted o received start => exact absurd hstate (start hc)
  | observed o received start => exact absurd hstate (start hc)

/-- **An ended version** is followed by one in the same state, by its rejection,
or by a conflict. -/
theorem Inv.next_answered (hi : Inv c s) (hr : c.requested = true) (hc : c.settled = true)
    (h : Next s key r r') (hstate : r.state.Answered) :
    r'.state = r.state ∨ r'.state = .conflictReviewRequired
      ∨ (r'.state = .rejectedByUser ∧ s.site (r'.key, r'.aggregateVersion) = some .rejection) := by
  have hready : ¬ r.state.Ready := by
    rintro (hready | hready) <;> rw [hready] at hstate <;>
      rcases hstate with hstate | hstate | hstate <;> cases hstate
  have hno : ∀ state : DraftInvocationState, r.state = state → ¬ state.Answered → False :=
    fun state heq hne => hne (heq ▸ hstate)
  obtain ⟨site, hsite, hf⟩ := hi.next h
  cases hf.edge with
  | authorized start => exact (hno _ start (by rintro (h | h | h) <;> cases h)).elim
  | ended start => exact absurd (start hr) hready
  | recorded start => exact absurd (start hr) hready
  | undispatched start => exact (hno _ start (by rintro (h | h | h) <;> cases h)).elim
  | withdrawn start =>
    rcases start with start | start
    · exact (hno _ start (by rintro (h | h | h) <;> cases h)).elim
    · exact absurd start hready
  | cancelled start =>
    rcases start with start | start | start | start | start <;>
      exact (hno _ start (by rintro (h | h | h) <;> cases h)).elim
  | rejected start by_ stop => exact .inr (.inr ⟨stop, by_ ▸ hsite⟩)
  | linked start unlinked stop => exact .inl (stop.trans start.symm)
  | touched o received stop => exact .inl stop
  | conflicted o received start stop => exact .inr (.inl stop)
  | observed o received start unsettled =>
    rw [hi.terminal hc h.stored hstate] at unsettled
    cases unsettled

/-! ### All versions -/

/-- What each version passes on to the next is passed on to all later ones. -/
theorem Inv.later (hi : Inv c s) {P : DraftInvocation → Prop}
    (hnext : ∀ r r', Next s key r r' → P r → P r') (hr : r ∈ s.history key) (hv : v ∈ s.history key)
    (hle : r.aggregateVersion ≤ v.aggregateVersion) (h : P r) : P v := by
  obtain ⟨d, hd⟩ := Nat.exists_eq_add_of_le hle
  clear hle
  induction d generalizing v with
  | zero => exact hi.valid.eq_of_version hv hr hd ▸ h
  | succ d ih =>
    have hbounds := hi.version_bounds hr
    obtain ⟨q, hq⟩ := hi.exists_previous hv (by omega)
    exact hnext q v hq (ih hq.stored (by have := hq.version; omega))

theorem Inv.next_linked (hi : Inv c s) (h : Next s key r r') (hlinked : truthy r.problemId = true) :
    truthy r'.problemId = true := by
  obtain ⟨site, -, hf⟩ := hi.next h
  rcases hf.problem with hsame | ⟨-, -, hunlinked, -⟩
  · rw [hsame.1]
    exact hlinked
  · rw [hlinked] at hunlinked
    cases hunlinked

theorem Inv.next_problem (hi : Inv c s) (hc : c.settled = true) (h : Next s key r r')
    (hne : ¬ SameProblem r r') :
    r.state = .succeeded ∧ truthy r.problemId = false ∧ truthy r'.problemId = true := by
  obtain ⟨site, -, hf⟩ := hi.next h
  rcases hf.problem with hsame | ⟨hstate, -, hunlinked, hlinked⟩
  · exact absurd hsame hne
  · exact ⟨hstate, hunlinked, hlinked hc⟩

/-- The conditions on a run: those of `dispatchCare`, the provider is asked
about unsettled versions only, and identifiers are not empty. -/
def settledCare : Care := { requested := true, settled := true }

theorem Inv.staysSettled (hi : Inv settledCare s) : StaysSettled s where
  numbered key n h := hi.valid.numbered key n h
  settled key r hr v hv hle hstate := by
    have hlater : v.state.Settled ∧ v.state = r.state :=
      hi.later (P := fun v => v.state.Settled ∧ v.state = r.state)
        (fun q q' hq hP => by
          have heq := hi.next_settled rfl rfl hq hP.1
          exact ⟨heq ▸ hP.1, heq.trans hP.2⟩) hr hv hle ⟨hstate, rfl⟩
    exact hlater.2
  answered key r r' h hstate := hi.next_answered rfl rfl h hstate
  linked key r r' h hne := hi.next_problem rfl h hne
  once key r r' v v' h h' hne hne' := by
    -- the earlier of two links would leave the later one nothing to link
    have hno : ∀ {r r' v v'}, Next s key r r' → Next s key v v' → ¬ SameProblem r r' →
        ¬ SameProblem v v' → ¬ r.aggregateVersion < v.aggregateVersion := by
      intro r r' v v' h h' hne hne' hlt
      have hlinked := (hi.next_problem rfl h hne).2.2
      have hversion := h.version
      have hlater : truthy v.problemId = true :=
        hi.later (fun q q' hq hP => hi.next_linked hq hP) h.stored_next h'.stored (by omega) hlinked
      rw [(hi.next_problem rfl h' hne').2.1] at hlater
      cases hlater
    have h1 := hno h h' hne hne'
    have h2 := hno h' h hne' hne
    exact hi.valid.eq_of_version h.stored h'.stored (by omega)

variable [DecidableEq ι] {w : DraftWorld ι}

/-- **Settled invocations stay settled.** -/
theorem stays_settled (h : Run settledCare (start ι) w) : StaysSettled w.state :=
  (holds_run h).inv.staysSettled

namespace Sample

def unknown : ProviderObservation where
  observationId := "first"
  state := .unknown
  correlation := some "correlation"
  valid := Eq.refl true

def running : ProviderObservation where
  observationId := "second"
  state := .running
  correlation := some "correlation"

def reject : Call Reply := service.reject context invocationId

def observe : Call Reply := service.observe context invocationId

/-- The dispatch of `true` is answered with `o`, and recorded. Then `false`
rejects the invocation. -/
def rejected (o : ProviderObservation) (rest : Moves Bool) : Moves Bool :=
  .start true begin_ :: (steps true 21 (provider o)
    ++ .start false reject :: (steps false 3 (provider o) ++ .return_ false :: rest))

theorem calls_rejected {o : ProviderObservation} {rest : Moves Bool} (h : Calls c rest) :
    Calls c (rejected o rest) :=
  ((h.return_.steps.start (.reject service context invocationId)).steps).start isCall_begin

/-- `stays_settled` in a run with a rejection. -/
theorem stays_settled_of_reject : ∃ w, Run settledCare (start Bool) w
    ∧ w.results.length = 1 ∧ StaysSettled w.state := by
  obtain ⟨w, m, hrun, hm, hp⟩ := run_of_script settledCare (rejected success [])
    (p := fun m => decide (m.results.length = 1)) (calls_rejected calls_nil) (by decide +kernel)
  exact ⟨w, hrun, hm.results ▸ of_decide_eq_true hp, stays_settled hrun⟩

/-- An invocation of unknown outcome that was rejected is moved on by the next
observation. -/
theorem unsettled_by_observe : ∃ w, Run {} (start Bool) w ∧ ¬ StaysSettled w.state := by
  obtain ⟨w, m, hrun, hm, hp⟩ := run_of_script {}
    (rejected unknown (.start false observe :: (steps false 5 (provider running) ++ [])))
    (p := fun m => m.state.log.any fun r => r.state = .rejectedByUser
      && m.state.log.any fun v => v.key = r.key && r.aggregateVersion < v.aggregateVersion
        && v.state = .running)
    (calls_rejected (calls_nil.steps.start (.observe service context invocationId)))
    (by decide +kernel)
  simp only [List.any_eq_true, Bool.and_eq_true, decide_eq_true_eq] at hp
  obtain ⟨r, hr, hstate, v, hv, ⟨hkey, hlt⟩, hstate'⟩ := hp
  have hmem : ∀ u ∈ m.state.log, u.key = r.key → u ∈ w.state.history r.key := fun u hu hk => by
    rw [← hm.state.log r.key]
    exact List.mem_filter.mpr ⟨hu, decide_eq_true hk⟩
  refine ⟨w, hrun, fun h => ?_⟩
  have heq := h.settled r.key r (hmem r hr rfl) v (hmem v hv hkey) hlt.le (.inr (.inr (.inl hstate)))
  rw [hstate, hstate'] at heq
  cases heq

end Sample

end Draft

end AgentPlatform
