/-
AgentPlatform/Draft/Observations.lean

An observation of the provider that a call has received is recorded by a stored
version when the call returns, or the invocation is in conflict
(`observations_kept`), in the runs where a lost write of an observation finds
that observation recorded, and where the provider's observations are consistent.

`_record_observation` takes the version that it rereads after a lost write for
its own. A cancellation between its read and its write is enough to lose the
observation, and to return its content with an invocation that has none
(`lost_observation`).
-/
import AgentPlatform.Draft.Dispatch

namespace AgentPlatform

open Py

namespace Draft

variable {ι : Type} [DecidableEq ι] {w : DraftWorld ι}

/-- What is to hold where a call is about to return: the observation that it
received is recorded, with its correlation and its measurement, by a stored
version, or the invocation it returns is in conflict; and it returns content
only with an invocation that succeeded with the observation it received. -/
structure ObservationsKept (w : DraftWorld ι) : Prop where
  recorded : ∀ i reply o, w.calls i = some (.pure reply) → reply.received = some o →
    (∃ r ∈ w.state.history reply.response.invocation.key, Records r o)
      ∨ reply.response.invocation.state = .conflictReviewRequired
  content : ∀ i reply, w.calls i = some (.pure reply) →
    ¬ DraftAssistanceService.DraftResponse.Bare reply.response →
    ∃ o, reply.received = some o ∧ o.SucceededIn reply.response.invocation

/-- The conditions of `Care.recorded`. -/
def recordedCare : Care := { recorded := true }

/-- **No observation is lost.** -/
theorem observations_kept (h : Run recordedCare (start ι) w) : ObservationsKept w where
  recorded _ _ o hreply ho := ((holds_run h).returned hreply).recorded rfl o ho
  content _ _ hreply hbare := ((holds_run h).returned hreply).content rfl hbare

/-- **Histories only grow, by moves of the service,** in every run: versions are
numbered, the first is fresh, and each other one follows the one before it. -/
theorem histories_grow {w' : DraftWorld ι} (h : Run {} (start ι) w) (hr : Run {} w w')
    (key : InvocationKey) :
    w.state.history key <+: w'.state.history key
      ∧ (∀ n, ∀ hn : n < (w.state.history key).length,
        ((w.state.history key).get ⟨n, hn⟩).aggregateVersion = n + 1)
      ∧ (∀ r ∈ w.state.history key, r.aggregateVersion = 1 → r.Fresh)
      ∧ (∀ r ∈ w.state.history key, ∀ r' ∈ w.state.history key,
        r'.aggregateVersion = r.aggregateVersion + 1 →
        ∃ site, Follows {} (fun _ => True) True site r r')
      ∧ ∀ o, w.state.Heard key o → w.state.Dispatched key := by
  have hw := holds_run h
  have hgrows := hw.run_keeps (draftLogic_keeps ι {}) (fun _ _ _ hx hi => safe_call hx hi) hr
  refine ⟨hgrows.history key, hw.inv.valid.numbered key, hw.inv.first key, ?_, hw.inv.heard key⟩
  intro r hmem r' hmem' hversion
  obtain ⟨site, -, hfollows⟩ := hw.inv.follows key r hmem r' hmem' hversion
  exact ⟨site, hfollows⟩

namespace Sample

/-- Process `i` is about to return a reply with `p`. -/
def returns (m : MirrorWorld Bool) (i : Bool) (p : Reply → Bool) : Bool :=
  match m.calls i with
  | some (.pure reply) => p reply
  | _ => false

theorem returns_spec {m : MirrorWorld Bool} {i : Bool} {p : Reply → Bool}
    (h : returns m i p = true) : ∃ reply, m.calls i = some (.pure reply) ∧ p reply = true := by
  rw [returns] at h
  split at h
  · next reply hcall => exact ⟨reply, hcall, h⟩
  · cases h

/-- The first call of the key, up to its return. -/
def answered : Moves Bool := .start true begin_ :: (steps true 26 (provider success) ++ [])

/-- `observations_kept` in a run that returns an observation. -/
theorem observations_kept_of_begin : ∃ w, Run recordedCare (start Bool) w
    ∧ (∃ reply, w.calls true = some (.pure reply) ∧ reply.received.isSome = true)
    ∧ ObservationsKept w := by
  obtain ⟨w, m, hrun, hm, hp⟩ := run_of_script recordedCare answered
    (p := fun m => returns m true fun reply => reply.received.isSome)
    (calls_nil.steps.start isCall_begin) (by decide +kernel)
  exact ⟨w, hrun, hm.calls ▸ returns_spec hp, observations_kept hrun⟩

/-- `histories_grow` in a run that dispatches. -/
theorem histories_grow_of_begin : ∃ w, Run {} (start Bool) w ∧ w.state.sent.length = 1
    ∧ ∀ key o, w.state.Heard key o → w.state.Dispatched key := by
  obtain ⟨w, m, hrun, hm, hp⟩ := run_of_script {} answered
    (p := fun m => decide (m.state.sent.length = 1)) (calls_nil.steps.start isCall_begin)
    (by decide +kernel)
  exact ⟨w, hrun, hm.state.sent ▸ of_decide_eq_true hp,
    fun key => (histories_grow hrun .refl key).2.2.2.2⟩

def cancel : Call Reply := service.cancel context invocationId

/-- `true` has its dispatch answered and reads the invocation, `false` requests
its cancellation, and `true` loses its write. -/
def overtakenByCancel : Moves Bool :=
  .start true begin_ :: (steps true 20 (provider success)
    ++ .start false cancel :: (steps false 4 (provider success)
      ++ (steps true 7 (provider success) ++ [])))

/-- A success is returned with its content, and no version records it. -/
theorem lost_observation : ∃ w, Run {} (start Bool) w ∧ ¬ ObservationsKept w := by
  obtain ⟨w, m, hrun, hm, hp⟩ := run_of_script {} overtakenByCancel
    (p := fun m => returns m true fun reply =>
      reply.received.any (fun o => o.observationId = success.observationId)
      && reply.response.invocation.state = .cancellationRequested
      && m.state.log.all fun r => r.lastObservationId ≠ some success.observationId)
    ((calls_nil.steps.steps.start (.cancel service context invocationId)).steps.start isCall_begin)
    (by decide +kernel)
  obtain ⟨reply, hreply, hcond⟩ := returns_spec hp
  rw [Bool.and_eq_true, Bool.and_eq_true, List.all_eq_true, decide_eq_true_eq] at hcond
  obtain ⟨⟨hreceived, hstate⟩, hlog⟩ := hcond
  obtain ⟨o, ho, hid⟩ := (Option.any_eq_true _ _).mp hreceived
  refine ⟨w, hrun, fun h => ?_⟩
  rcases h.recorded true reply o (hm.calls ▸ hreply) ho with ⟨r, hr, hrecords⟩ | hconflict
  · rw [← hm.state.log] at hr
    have hne := hlog r (List.mem_of_mem_filter hr)
    rw [hrecords.identifier, of_decide_eq_true hid] at hne
    exact absurd rfl (of_decide_eq_true hne)
  · rw [hstate] at hconflict
    cases hconflict

end Sample

end Draft

end AgentPlatform
