/-
AgentPlatform/Journey/Streams.lean

Runs of a coordinator and its broker: commands, publications of others,
subscriptions, readers, and scopes that are cleared.

A buffer that has been evicted starts again with the number one, and the
coordinator goes on with its own numbers. Publications may also raise after
the broker has changed: where others have been pruned to make room, where the
first event of a scope has another number than one, and where the cutoff is out
of range. `Attempt.Roomy` excludes these. **Main result:** `streams_kept`, in
every run whose publications are roomy, streams have no gaps and do not restart.
-/
import AgentPlatform.Journey.Coordinator

namespace AgentPlatform

open Py

namespace Journey

/-! ### Runs -/

inductive Call
  | command (c : Command)
  /-- A publication of somebody else. -/
  | publish (clock : Clock) (e : JourneyEventEnvelope)
  | replayAndSubscribe (clock : Clock) (scope : JourneyStreamScope) (lastEventId : Option String)
  | read (i : Nat)
  | close (i : Nat)
  | clearScope (scope : JourneyStreamScope)

/-- A coordinator, with the commands that it has accepted, the publications of
others and the scopes that others have cleared. -/
structure World where
  service : Coordinator := {}
  accepted : List Command := []
  others : List Attempt := []
  cleared : List JourneyStreamScope := []

section Runs

variable [TextTables] (bounds : Bounds)

def World.after (w : World) : Call → World
  | .command c =>
    { w with
      service := (w.service.command bounds c).2
      accepted := match (w.service.command bounds c).1 with
        | .ok () => w.accepted ++ [c]
        | .error _ => w.accepted }
  | .publish clock e =>
    { w with
      service := { w.service with broker := (bounds.publish clock e w.service.broker).2 }
      others := w.others ++ [⟨w.service.broker, clock, e.toEventFields⟩] }
  | .replayAndSubscribe clock scope lastEventId =>
    { w with service := {
        w.service with
        broker := (bounds.replayAndSubscribe clock scope lastEventId w.service.broker).2 } }
  | .read i => { w with service := { w.service with broker := w.service.broker.read i } }
  | .close i => { w with service := { w.service with broker := w.service.broker.close i } }
  | .clearScope scope =>
    { w with
      service := { w.service with broker := (w.service.broker.clearScope scope).2 }
      cleared := w.cleared ++ [scope] }

/-- The runs of which every call meets a condition. -/
inductive Run (ok : World → Call → Prop) : World → Prop
  | start : Run ok {}
  | call {w : World} (c : Call) : Run ok w → ok w c → Run ok (w.after bounds c)

end Runs

/-! ### Streams -/

/-- The events that a scope has accepted since it was last cleared. -/
def stream (scope : JourneyStreamScope) (log : List StreamEvent) : List JourneyEventEnvelope :=
  log.foldl (fun events event =>
    match event with
    | .accepted e => if e.scope = scope then events ++ [e] else events
    | .cleared scope' => if scope' = scope then [] else events) []

theorem stream_accepted (scope : JourneyStreamScope) (log : List StreamEvent) (e : JourneyEventEnvelope) :
    stream scope (log ++ [.accepted e])
      = if e.scope = scope then stream scope log ++ [e] else stream scope log := by
  simp [stream, List.foldl_append]

theorem stream_cleared (scope scope' : JourneyStreamScope) (log : List StreamEvent) :
    stream scope (log ++ [.cleared scope']) = if scope' = scope then [] else stream scope log := by
  simp [stream, List.foldl_append]

/-- The numbers of a scope go from one to the last without a gap or a
repetition, and a terminal event is the last one. -/
structure Broker.Streamed (s : Broker) (scope : JourneyStreamScope) : Prop where
  numbered : Numbered 1 (stream scope s.log)
  next : (stream scope s.log).length + 1 = s.nextSequence scope
  ended : (stream scope s.log).Pairwise fun e _ => e.terminal = false
  open_ : ∀ b, s.buffers.get? scope = some b → b.terminal = false →
    ∀ e ∈ stream scope s.log, e.terminal = false

namespace Bounds

variable (bounds : Bounds) (clock : Clock) (e : JourneyEventEnvelope) (s : Broker)

/-- A publication that neither changes the broker and raises nor starts a stream
again: it goes to a buffer, or there is room for one more and it has the number
one, or no buffer can be evicted or pruned; and retention succeeds where the event
is appended. -/
def Room : Prop :=
  match s.buffers.get? e.scope with
  | some b => Admitted s b e → bounds.Prunes clock.now
  | none =>
    (s.buffers.size < bounds.maxJourneys ∧ e.sequence = 1 ∧ bounds.Prunes clock.now)
      ∨ (bounds.maxJourneys ≤ s.buffers.size
        ∧ bounds.evict clock s.buffers.entries = (.ok (), s.buffers.entries))

variable {bounds clock e s}

/-- **The ends of a publication for which there is room**: the broker is unchanged,
or the event has been appended to the buffer of its scope. -/
theorem publish_cases (h : bounds.Room clock e s) :
    ((bounds.publish clock e s).2 = s ∧ (bounds.publish clock e s).1 ≠ .ok .appended
        ∧ ((bounds.publish clock e s).1 = .error .eventSequenceInvalid →
          e.sequence ≠ s.nextSequence e.scope)
        ∧ ((bounds.publish clock e s).1 = .ok .duplicate → ∃ b, s.buffers.get? e.scope = some b
          ∧ b.serialized.get? e.eventId = some (serializeEnvelope e)))
      ∨ ∃ b s₀, (s₀ = s ∨ s.buffers.get? e.scope = none
            ∧ s₀ = { s with buffers := s.buffers.set e.scope {} })
          ∧ s₀.buffers.get? e.scope = some b ∧ Admitted s₀ b e ∧ bounds.Prunes clock.now
          ∧ bounds.publish clock e s = (.ok .appended, bounds.appended clock e b s₀) := by
  rw [Room] at h
  rw [publish]
  split at h
  · next b hb =>
    rw [hb]
    rcases bounds.append_cases clock e b s with
      ⟨hs, hr, -, hinvalid, hduplicate⟩ | ⟨ha, hs⟩ | ⟨ha, hnot, -⟩
    · refine .inl ⟨hs, hr, fun hr' => ?_, fun hr' => ⟨b, rfl, hduplicate hr'⟩⟩
      rw [Broker.nextSequence, hb]
      exact hinvalid hr'
    · exact .inr ⟨b, s, .inl rfl, hb, ha, h ha, hs⟩
    · exact absurd (h ha) hnot
  · next hb =>
    rw [hb]
    rcases h with ⟨hsize, hsequence, hprunes⟩ | ⟨hsize, hevict⟩
    · simp only [if_neg (not_le.mpr hsize)]
      have hget : (s.buffers.set e.scope {}).get? e.scope = some {} := Dict.get?_set_self _ _ _
      have ha : Admitted { s with buffers := s.buffers.set e.scope {} } {} e :=
        ⟨rfl, rfl, hsequence, rfl⟩
      rcases bounds.append_cases clock e {} { s with buffers := s.buffers.set e.scope {} } with
        ⟨-, -, hnot, -⟩ | ⟨-, hs⟩ | ⟨-, hnot, -⟩
      · exact absurd ha hnot
      · exact .inr ⟨{}, _, .inr ⟨trivial, rfl⟩, hget, ha, hprunes, hs⟩
      · exact absurd hprunes hnot
    · refine .inl ?_
      have hevicted := Dict.restrict_eq_self (bounds.keys_evict clock s.buffers.entries)
        (congrArg Prod.snd hevict)
      simp only [if_pos hsize, hevicted, congrArg Prod.fst hevict]
      refine ⟨trivial, ?_, ?_, ?_⟩ <;> (intro h; cases h)

end Bounds

namespace Broker

variable {s : Broker} {bounds : Bounds} {clock : Clock} {e : JourneyEventEnvelope} {b : Buffer}
  {scope : JourneyStreamScope}

theorem get?_appended (scope : JourneyStreamScope) : (bounds.appended clock e b s).buffers.get? scope
    = if e.scope = scope then some (bounds.prune clock.now (b.extend e)).2
      else s.buffers.get? scope := by
  rw [Bounds.appended, Dict.get?_moveToEnd, Dict.get?_set]

theorem nextSequence_appended (bounds : Bounds) (clock : Clock) (hv : s.Valid)
    (hget : s.buffers.get? e.scope = some b) (ha : Bounds.Admitted s b e) (scope : JourneyStreamScope) :
    (bounds.appended clock e b s).nextSequence scope
      = if e.scope = scope then s.nextSequence scope + 1 else s.nextSequence scope := by
  have halike := (bounds.prune_spec clock.now
    (Bounds.extend_retained (hv.retained _ _ hget) ha)).2
  by_cases hscope : e.scope = scope
  · rw [if_pos hscope, nextSequence, nextSequence, get?_appended, if_pos hscope, ← hscope, hget]
    exact halike.nextSequence
  · rw [if_neg hscope, nextSequence, nextSequence, get?_appended, if_neg hscope]

theorem Streamed.appended (h : s.Streamed scope) (hv : s.Valid) (hget : s.buffers.get? e.scope = some b)
    (ha : Bounds.Admitted s b e) : (bounds.appended clock e b s).Streamed scope := by
  have hnext := nextSequence_appended bounds clock hv hget ha scope
  have hlog : stream scope (bounds.appended clock e b s).log = _ := stream_accepted scope s.log e
  by_cases hscope : e.scope = scope
  · subst hscope
    rw [if_pos rfl] at hnext hlog
    have hlast : b.nextSequence = (stream e.scope s.log).length + 1 := by
      rw [h.next, nextSequence, hget]
    refine ⟨?_, ?_, ?_, fun b' hb' hopen => ?_⟩
    · rw [hlog, numbered_append, numbered_singleton, ha.sequence]
      exact ⟨h.numbered, hlast.trans (Nat.add_comm _ _)⟩
    · rw [hlog, hnext, List.length_append, List.length_singleton, h.next]
    · rw [hlog, List.pairwise_append]
      exact ⟨h.ended, List.pairwise_singleton _ _, fun e' he' _ _ => h.open_ b hget ha.open_ e' he'⟩
    · rw [get?_appended, if_pos rfl] at hb'
      cases hb'
      have halike := (bounds.prune_spec clock.now
        (Bounds.extend_retained (hv.retained _ _ hget) ha)).2
      rw [halike.terminal] at hopen
      intro e' he'
      rw [hlog] at he'
      rcases List.mem_append.mp he' with he' | he'
      · exact h.open_ b hget ha.open_ e' he'
      · cases List.mem_singleton.mp he'
        exact hopen
  · rw [if_neg hscope] at hnext hlog
    refine ⟨hlog ▸ h.numbered, ?_, hlog ▸ h.ended, fun b' hb' hopen => ?_⟩
    · rw [hlog, hnext, h.next]
    · rw [get?_appended, if_neg hscope] at hb'
      rw [hlog]
      exact h.open_ b' hb' hopen

/-- A scope without a buffer is given an empty one. -/
theorem Streamed.create (h : s.Streamed scope) {scope' : JourneyStreamScope}
    (hget : s.buffers.get? scope' = none) :
    Streamed { s with buffers := s.buffers.set scope' {} } scope := by
  have hnext : ({ s with buffers := s.buffers.set scope' {} } : Broker).nextSequence scope
      = s.nextSequence scope := by
    rw [nextSequence, nextSequence, Dict.get?_set]
    by_cases hscope : scope' = scope
    · rw [if_pos hscope, ← hscope, hget]
    · rw [if_neg hscope]
  refine ⟨h.numbered, h.next.trans hnext.symm, h.ended, fun b hb hopen => ?_⟩
  by_cases hscope : scope' = scope
  · intro e he
    have hlength := h.next
    rw [nextSequence, ← hscope, hget] at hlength
    rw [← hscope] at he
    rw [List.length_eq_zero_iff.mp (Nat.succ.inj hlength)] at he
    cases he
  · rw [Dict.get?_set_of_ne _ _ hscope] at hb
    exact h.open_ b hb hopen

/-- The next number of a scope, and whether it has ended. -/
def mark (s : Broker) (scope : JourneyStreamScope) : Option (Nat × Bool) :=
  (s.buffers.get? scope).map fun b => (b.nextSequence, b.terminal)

/-- Nothing has been accepted or cleared. -/
structure Level (s s' : Broker) : Prop where
  log : s'.log = s.log
  mark : ∀ scope, s'.mark scope = s.mark scope

theorem nextSequence_eq (s : Broker) (scope : JourneyStreamScope) :
    s.nextSequence scope = ((s.mark scope).map Prod.fst).getD 1 := by
  rw [nextSequence, mark]
  cases s.buffers.get? scope <;> rfl

theorem Level.nextSequence {s' : Broker} (h : Level s s') (scope : JourneyStreamScope) :
    s'.nextSequence scope = s.nextSequence scope := by
  rw [nextSequence_eq, nextSequence_eq, h.mark]

theorem Streamed.level {s' : Broker} (h : s.Streamed scope) (hl : Level s s') : s'.Streamed scope := by
  refine ⟨hl.log ▸ h.numbered, ?_, hl.log ▸ h.ended, fun b' hb' hopen => ?_⟩
  · rw [hl.log, hl.nextSequence]
    exact h.next
  · have hmark := hl.mark scope
    rw [mark, hb', mark] at hmark
    obtain ⟨b, hb, heq⟩ := Option.map_eq_some_iff.mp hmark.symm
    rw [hl.log]
    exact h.open_ b hb ((congrArg Prod.snd heq).trans hopen)

/-- A buffer is put in place of one with the same number and end. -/
theorem level_put {b' : Buffer} {buffers : Dict JourneyStreamScope Buffer}
    {subscriptions : List JourneySubscription} (hget : s.buffers.get? scope = some b)
    (hnext : b'.nextSequence = b.nextSequence) (hterminal : b'.terminal = b.terminal)
    (hbuffers : ∀ scope', buffers.get? scope' = if scope = scope' then some b' else s.buffers.get? scope') :
    Level s ⟨buffers, subscriptions, s.log⟩ := by
  refine ⟨rfl, fun scope' => ?_⟩
  rw [mark, mark, hbuffers]
  split
  · next hscope => rw [← hscope, hget, Option.map_some, Option.map_some, hnext, hterminal]
  · rfl

theorem level_replayAndSubscribe (bounds : Bounds) (hv : s.Valid) (clock : Clock) (scope : JourneyStreamScope)
    (lastEventId : Option String) :
    Level s (bounds.replayAndSubscribe clock scope lastEventId s).2 := by
  rw [Bounds.replayAndSubscribe]
  split
  · exact ⟨rfl, fun _ => rfl⟩
  · next b hget =>
    obtain ⟨-, halike⟩ := bounds.prune_spec clock.now (hv.retained _ _ hget)
    split
    · next f b' hprune =>
      rw [hprune] at halike
      exact level_put hget halike.nextSequence halike.terminal (Dict.get?_set _ _ _)
    · next b' hprune =>
      rw [hprune] at halike
      have hopen : ∀ queue scope', ((s.buffers.set scope b').set scope
          { b' with subscribers := b'.subscribers ++ [queue] } |>.moveToEnd scope).get? scope'
          = if scope = scope' then some { b' with subscribers := b'.subscribers ++ [queue] }
            else s.buffers.get? scope' := by
        intro queue scope'
        rw [Dict.get?_moveToEnd, Dict.get?_set, Dict.get?_set]
        split <;> rfl
      dsimp only
      split
      · exact level_put hget halike.nextSequence halike.terminal (Dict.get?_set _ _ _)
      · split
        · refine level_put hget ?_ ?_ (hopen _)
          · exact halike.nextSequence
          · exact halike.terminal
        · split
          · exact level_put hget halike.nextSequence halike.terminal (Dict.get?_set _ _ _)
          · refine level_put hget ?_ ?_ (hopen _)
            · exact halike.nextSequence
            · exact halike.terminal

theorem level_close (i : Nat) : Level s (s.close i) := by
  rw [Broker.close]
  split
  · exact ⟨rfl, fun _ => rfl⟩
  · split
    · exact ⟨rfl, fun _ => rfl⟩
    · next sub _ _ =>
      rw [Broker.unsubscribe]
      split
      · exact ⟨rfl, fun _ => rfl⟩
      · next b hget =>
        have hset := Dict.get?_set s.buffers sub.scope { b with subscribers := b.subscribers.filter (· ≠ i) }
        refine level_put hget ?_ ?_ hset
        · rfl
        · rfl

/-- **A publication for which there is room** keeps the broker. -/
theorem publish_kept (hroom : bounds.Room clock e s) (hv : s.Valid) (hs : ∀ scope, s.Streamed scope) :
    (bounds.publish clock e s).2.Valid ∧ (∀ scope, (bounds.publish clock e s).2.Streamed scope)
      ∧ (((bounds.publish clock e s).2 = s ∧ (bounds.publish clock e s).1 ≠ .ok .appended)
        ∨ ((bounds.publish clock e s).1 = .ok .appended ∧ ∀ scope,
          (bounds.publish clock e s).2.nextSequence scope
            = if e.scope = scope then s.nextSequence scope + 1 else s.nextSequence scope)) := by
  rcases Bounds.publish_cases hroom with ⟨heq, hr, -⟩ | ⟨b, s₀, hs₀, hget, ha, -, hpublish⟩
  · rw [heq]
    exact ⟨hv, hs, .inl ⟨rfl, hr⟩⟩
  · rw [hpublish]
    rcases hs₀ with rfl | ⟨hnone, rfl⟩
    · exact ⟨hv.appended hget ha, fun scope => (hs scope).appended hv hget ha,
        .inr ⟨rfl, nextSequence_appended bounds clock hv hget ha⟩⟩
    · have hv₀ := hv.create e.scope
      refine ⟨hv₀.appended hget ha, fun scope => ((hs scope).create hnone).appended hv₀ hget ha,
        .inr ⟨rfl, fun scope => (nextSequence_appended bounds clock hv₀ hget ha scope).trans ?_⟩⟩
      have hnext := ((hs scope).create hnone).next.symm.trans (hs scope).next
      rw [hnext]

/-- A publication that changes nothing and does not raise repeats a number. -/
theorem sequence_lt_of_duplicate (hroom : bounds.Room clock e s) (hv : s.Valid)
    (h : (bounds.publish clock e s).1 = .ok .duplicate) : e.sequence < s.nextSequence e.scope := by
  rcases Bounds.publish_cases hroom with ⟨-, -, -, hduplicate⟩ | ⟨b, s₀, -, -, -, -, hpublish⟩
  · obtain ⟨b, hget, htext⟩ := hduplicate h
    have hretained := hv.retained _ _ hget
    obtain ⟨e', he', -, heq⟩ := hretained.texts _ _ htext
    rw [nextSequence, hget, sequence_eq_of_serialize heq]
    exact Bounds.sequence_lt hretained he'
  · rw [hpublish] at h
    cases h

theorem ne_of_sequenceInvalid (hroom : bounds.Room clock e s)
    (h : (bounds.publish clock e s).1 = .error .eventSequenceInvalid) :
    e.sequence ≠ s.nextSequence e.scope := by
  rcases Bounds.publish_cases hroom with ⟨-, -, hinvalid, -⟩ | ⟨b, s₀, -, -, -, -, hpublish⟩
  · exact hinvalid h
  · rw [hpublish] at h
    cases h

theorem nextSequence_clearScope (scope scope' : JourneyStreamScope) :
    (s.clearScope scope).2.nextSequence scope'
      = if scope = scope' then 1 else s.nextSequence scope' := by
  rw [clearScope]
  split
  · next hget =>
    by_cases hscope : scope = scope'
    · rw [if_pos hscope, nextSequence, ← hscope, hget]
    · rw [if_neg hscope]
  · next b hget =>
    by_cases hscope : scope = scope'
    · rw [if_pos hscope, nextSequence, Dict.get?_pop, if_pos hscope]
    · rw [if_neg hscope, nextSequence, nextSequence, Dict.get?_pop, if_neg hscope]

theorem Streamed.clearScope {scope' : JourneyStreamScope} (h : s.Streamed scope) :
    (s.clearScope scope').2.Streamed scope := by
  have hnext := nextSequence_clearScope (s := s) scope' scope
  rw [Broker.clearScope] at hnext ⊢
  split
  · exact h
  · next b hget =>
    rw [hget] at hnext
    have hlog := stream_cleared scope scope' s.log
    by_cases hscope : scope' = scope
    · rw [if_pos hscope] at hnext hlog
      refine ⟨?_, ?_, ?_, ?_⟩
      · rw [hlog]
        exact numbered_nil 1
      · rw [hlog]
        exact hnext.symm
      · rw [hlog]
        exact List.Pairwise.nil
      · intro b' _ _ e he
        rw [hlog] at he
        cases he
    · rw [if_neg hscope] at hnext hlog
      refine ⟨hlog ▸ h.numbered, ?_, hlog ▸ h.ended, fun b' hb' hopen => ?_⟩
      · rw [hlog]
        exact h.next.trans hnext.symm
      · rw [Dict.get?_pop, if_neg hscope] at hb'
        rw [hlog]
        exact h.open_ b' hb' hopen

end Broker

/-! ### The coordinator -/

/-- The scope of a publication. -/
def Attempt.scope (a : Attempt) : JourneyStreamScope :=
  ⟨a.fields.identity.tenantId, a.fields.identity.securityDomain, a.fields.journeyId⟩

/-- There was room for a publication, if its event was accepted by the model. -/
def Attempt.Roomy (bounds : Bounds) (a : Attempt) : Prop :=
  ∀ e, JourneyEventEnvelope.create a.fields = some e → bounds.Room a.clock e a.broker

/-- A publication that raised has not changed the broker. -/
def Attempt.Unchanged (bounds : Bounds) (a : Attempt) : Prop :=
  ∀ e, JourneyEventEnvelope.create a.fields = some e → ∀ f,
    (bounds.publish a.clock e a.broker).1 = .error f → (bounds.publish a.clock e a.broker).2 = a.broker

namespace Coordinator

/-- The broker keeps its streams, and the coordinator goes on where they end, except
in the scopes that others have written to. -/
structure Kept (apart : JourneyStreamScope → Prop) (s : Coordinator) : Prop where
  valid : s.broker.Valid
  streamed : ∀ scope, s.broker.Streamed scope
  aligned : ∀ scope, ¬ apart scope →
    (s.eventSequences.get? scope).getD 0 + 1 = s.broker.nextSequence scope
  refused : ∀ p ∈ s.refused, ¬ apart p.1 → p.2 ≠ .eventSequenceInvalid

theorem Attempt.unchanged_of_roomy {bounds : Bounds} {a : Attempt} (h : a.Roomy bounds) :
    a.Unchanged bounds := by
  intro e he f hf
  rcases Bounds.publish_cases (h e he) with ⟨heq, -⟩ | ⟨b, s₀, -, -, -, -, hpublish⟩
  · exact heq
  · rw [hpublish] at hf
    cases hf

section Kept

variable {bounds : Bounds} {apart apart' : JourneyStreamScope → Prop} {s s' : Coordinator}

theorem Kept.quiet (h : s.Kept apart) (hq : Quiet s s') : s'.Kept apart := by
  refine ⟨hq.broker ▸ h.valid, fun scope => hq.broker ▸ h.streamed scope, ?_, hq.refused ▸ h.refused⟩
  rw [hq.broker, hq.eventSequences]
  exact h.aligned

theorem Kept.clear (h : s.Kept apart) (scope : JourneyStreamScope) :
    ({ s with
      eventSequences := s.eventSequences.pop scope
      broker := (s.broker.clearScope scope).2 } : Coordinator).Kept apart := by
  refine ⟨h.valid.clearScope scope, fun scope' => (h.streamed scope').clearScope,
    fun scope' hscope' => ?_, h.refused⟩
  rw [Dict.get?_pop, Broker.nextSequence_clearScope]
  split
  · rfl
  · exact h.aligned scope' hscope'

variable [TextTables]

/-- **A publication of the coordinator**, if there is room for it. -/
theorem Kept.publish (h : s.Kept apart) (journeyId : String) (revision : JourneyRevision)
    (notice : Notice) (moment : Moment)
    (hroom : ∀ a ∈ (s.publish bounds journeyId revision notice moment).2.attempts, a.Roomy bounds) :
    (s.publish bounds journeyId revision notice moment).2.Kept apart := by
  generalize hscope : streamScope journeyId revision = scope
  generalize hsequence : (s.eventSequences.get? scope).getD 0 + 1 = sequence
  generalize hfields : eventFields journeyId revision notice sequence moment.occurredAt = fields
  unfold Coordinator.publish at hroom ⊢
  simp only [hscope, hsequence, hfields] at hroom ⊢
  split at hroom
  · exact ⟨h.valid, h.streamed, h.aligned, h.refused⟩
  · next e he =>
    have hroomy : Attempt.Roomy bounds ⟨s.broker, moment.clock, fields⟩ := by
      refine hroom _ ?_
      split <;> exact List.mem_append_right _ List.mem_cons_self
    have hevent := JourneyEventEnvelope.create_eq_some.mp he
    have hescope : e.scope = scope := by
      rw [← hscope, JourneyEventEnvelope.scope, hevent, ← hfields]
      rfl
    have hesequence : e.sequence = sequence := by
      rw [hevent, ← hfields]
      rfl
    have haligned : ¬ apart scope → e.sequence = s.broker.nextSequence e.scope := by
      intro hapart
      rw [hesequence, hescope, ← hsequence]
      exact h.aligned scope hapart
    have hroom' := hroomy e he
    obtain ⟨hvalid, hstreamed, hends⟩ := Broker.publish_kept hroom' h.valid h.streamed
    split
    · next f broker hpublish =>
      rw [hpublish] at hvalid hstreamed hends
      have hsame : broker = s.broker := by
        rcases hends with ⟨hsame, -⟩ | ⟨hr, -⟩
        · exact hsame
        · cases hr
      refine ⟨hvalid, hstreamed, fun scope' hscope' => ?_, fun p hp hapart => ?_⟩
      · show _ = broker.nextSequence scope'
        rw [hsame]
        exact h.aligned scope' hscope'
      · rcases List.mem_append.mp hp with hp | hp
        · exact h.refused p hp hapart
        · cases List.mem_singleton.mp hp
          rintro rfl
          exact Broker.ne_of_sequenceInvalid hroom' (congrArg Prod.fst hpublish) (haligned hapart)
    · next r broker hpublish =>
      rw [hpublish] at hvalid hstreamed hends
      refine ⟨hvalid, hstreamed, fun scope' hscope' => ?_, h.refused⟩
      show ((s.eventSequences.set scope sequence).get? scope').getD 0 + 1 = broker.nextSequence scope'
      rw [Dict.get?_set]
      rcases hends with ⟨hsame, hr⟩ | ⟨-, hnext⟩
      · have hduplicate : (bounds.publish moment.clock e s.broker).1 = .ok .duplicate := by
          rw [hpublish]
          cases r with
          | appended => exact absurd rfl hr
          | duplicate => rfl
        have hlt := Broker.sequence_lt_of_duplicate hroom' h.valid hduplicate
        have hne : scope ≠ scope' := by
          rintro rfl
          exact absurd (haligned hscope') (Nat.ne_of_lt hlt)
        rw [if_neg hne, show broker = s.broker from hsame]
        exact h.aligned scope' hscope'
      · have hnext' := hnext scope'
        rw [hescope] at hnext'
        rw [show broker.nextSequence scope' = _ from hnext']
        by_cases heq : scope = scope'
        · rw [if_pos heq, if_pos heq, Option.getD_some, ← heq, ← hescope]
          rw [← heq] at hscope'
          rw [← haligned hscope', hesequence]
        · rw [if_neg heq, if_neg heq]
          exact h.aligned scope' hscope'

theorem attempts_publish (s : Coordinator) (journeyId : String) (revision : JourneyRevision)
    (notice : Notice) (moment : Moment) :
    s.attempts ⊆ (s.publish bounds journeyId revision notice moment).2.attempts := by
  rw [Coordinator.publish]
  dsimp only
  split
  · exact List.subset_append_left _ _
  · split <;> exact List.subset_append_left _ _

/-- **What a command does keeps the streams**, if there is room for its
publications. -/
theorem Kept.steps (h : s.Kept apart) (hs : Steps bounds s s')
    (hroom : ∀ a ∈ s'.attempts, a.Roomy bounds) : s'.Kept apart := by
  induction hs with
  | refl => exact h
  | quiet _ hq ih => exact (ih fun a ha => hroom a (hq.attempts ▸ ha)).quiet hq
  | publish journeyId revision notice moment _ ih =>
    exact (ih fun a ha => hroom a (attempts_publish _ _ _ _ _ ha)).publish _ _ _ _ hroom
  | clear scope _ ih => exact (ih hroom).clear scope

theorem attempts_steps (hs : Steps bounds s s') : s.attempts ⊆ s'.attempts := by
  induction hs with
  | refl => exact List.Subset.refl _
  | quiet _ hq ih => exact hq.attempts ▸ ih
  | publish journeyId revision notice moment _ ih =>
    exact fun a ha => attempts_publish _ _ _ _ _ (ih ha)
  | clear scope _ ih => exact ih

/-- A publication that was refused is one of those of the coordinator. -/
def Told (s : Coordinator) : Prop := ∀ p ∈ s.refused, p.1 ∈ s.attempts.map (·.scope)

theorem Told.publish (h : s.Told) (journeyId : String) (revision : JourneyRevision) (notice : Notice)
    (moment : Moment) : (s.publish bounds journeyId revision notice moment).2.Told := by
  have hmem : ∀ a : Attempt, ∀ p ∈ s.refused, p.1 ∈ (s.attempts ++ [a]).map (·.scope) := by
    intro a p hp
    obtain ⟨a', ha', heq⟩ := List.mem_map.mp (h p hp)
    exact heq ▸ List.mem_map_of_mem (List.mem_append_left _ ha')
  unfold Coordinator.publish
  dsimp only
  split
  · exact hmem _
  · split
    · intro p hp
      rcases List.mem_append.mp hp with hp | hp
      · exact hmem _ p hp
      · cases List.mem_singleton.mp hp
        exact List.mem_map.mpr ⟨_, List.mem_append_right _ List.mem_cons_self, rfl⟩
    · exact hmem _

theorem Told.steps (h : s.Told) (hs : Steps bounds s s') : s'.Told := by
  induction hs with
  | refl => exact h
  | quiet _ hq ih =>
    intro p hp
    rw [hq.attempts]
    exact ih p (hq.refused ▸ hp)
  | publish journeyId revision notice moment _ ih => exact ih.publish _ _ _ _
  | clear scope _ ih => exact ih

end Kept

end Coordinator

/-! ### Runs -/

/-- The publications of a run. -/
def World.attempts (w : World) : List Attempt := w.service.attempts ++ w.others

/-- Scopes that others have published to or cleared. -/
def World.Apart (w : World) (scope : JourneyStreamScope) : Prop :=
  scope ∈ w.others.map (·.scope) ∨ scope ∈ w.cleared

/-- **Streams have no gaps and do not restart.** -/
structure World.StreamsKept (bounds : Bounds) (w : World) : Prop where
  /-- Retained events have consecutive numbers up to the next one, and `serialized`
  holds exactly their IDs. -/
  retained : ∀ scope b, w.service.broker.buffers.get? scope = some b → b.Retained
  /-- Readers are given consecutive numbers, right after the event from which they
  resumed. -/
  received : ∀ sub ∈ w.service.broker.subscriptions, sub.Consecutive
  /-- A publication that raises changes nothing. -/
  unchanged : ∀ a ∈ w.attempts, a.Unchanged bounds
  /-- Since it was cleared, a scope has accepted each number once, and nothing after
  a terminal event. -/
  accepted : ∀ scope, Numbered 1 (stream scope w.service.broker.log)
    ∧ (stream scope w.service.broker.log).Pairwise fun e _ => e.terminal = false
  /-- The coordinator's numbers are never refused. -/
  refused : ∀ p ∈ w.service.refused, p.1 ∉ w.cleared → p.2 ≠ .eventSequenceInvalid

section Runs

variable [TextTables] {bounds : Bounds} {ok : World → Call → Prop} {w : World}

theorem attempts_after (w : World) (c : Call) : w.attempts ⊆ (w.after bounds c).attempts := by
  cases c with
  | command c =>
    have hsteps : w.service.attempts ⊆ (w.service.command bounds c).2.attempts :=
      Coordinator.attempts_steps (Coordinator.steps_command _ _)
    exact List.append_subset.mpr
      ⟨List.Subset.trans hsteps (List.subset_append_left _ _), List.subset_append_right _ _⟩
  | publish clock e =>
    exact List.append_subset.mpr ⟨List.subset_append_left _ _,
      List.Subset.trans (List.subset_append_left _ _) (List.subset_append_right _ _)⟩
  | _ => exact List.Subset.refl _

/-- One call keeps the streams, if there is room for its publications. -/
theorem Coordinator.Kept.after (h : w.service.Kept w.Apart) (c : Call)
    (hroom : ∀ a ∈ (w.after bounds c).attempts, a.Roomy bounds) :
    (w.after bounds c).service.Kept (w.after bounds c).Apart := by
  cases c with
  | command c => exact h.steps (steps_command _ _) fun a ha => hroom a (List.mem_append_left _ ha)
  | publish clock e =>
    have hroomy := hroom _ (List.mem_append_right _ (List.mem_append_right _ List.mem_cons_self))
    have hcreate : JourneyEventEnvelope.create e.toEventFields = some e :=
      JourneyEventEnvelope.create_eq_some.mpr rfl
    have hapart : ∀ scope, w.Apart scope → (w.after bounds (.publish clock e)).Apart scope := by
      rintro scope (hscope | hscope)
      · refine .inl ?_
        obtain ⟨a, ha, rfl⟩ := List.mem_map.mp hscope
        exact List.mem_map_of_mem (List.mem_append_left _ ha)
      · exact .inr hscope
    obtain ⟨hvalid, hstreamed, hends⟩ := Broker.publish_kept (hroomy e hcreate) h.valid h.streamed
    refine ⟨hvalid, hstreamed, fun scope hscope => ?_,
      fun p hp hp' => h.refused p hp fun ha => hp' (hapart p.1 ha)⟩
    have hne : e.scope ≠ scope := by
      rintro rfl
      exact hscope (.inl (List.mem_map.mpr
        ⟨_, List.mem_append_right _ List.mem_cons_self, rfl⟩))
    have haligned := h.aligned scope fun ha => hscope (hapart scope ha)
    show _ = (bounds.publish clock e w.service.broker).2.nextSequence scope
    rcases hends with ⟨hsame, -⟩ | ⟨-, hnext⟩
    · rw [hsame]
      exact haligned
    · rw [hnext, if_neg hne]
      exact haligned
  | replayAndSubscribe clock scope lastEventId =>
    have hlevel := Broker.level_replayAndSubscribe bounds h.valid clock scope lastEventId
    exact ⟨h.valid.replayAndSubscribe clock scope lastEventId,
      fun scope' => (h.streamed scope').level hlevel,
      fun scope' hscope' => (h.aligned scope' hscope').trans (hlevel.nextSequence scope').symm, h.refused⟩
  | read i =>
    exact ⟨h.valid.modify Broker.read_alike i, fun scope => (h.streamed scope).level ⟨rfl, fun _ => rfl⟩,
      h.aligned, h.refused⟩
  | close i =>
    have hlevel := Broker.level_close (s := w.service.broker) i
    exact ⟨h.valid.close i, fun scope => (h.streamed scope).level hlevel,
      fun scope hscope => (h.aligned scope hscope).trans (hlevel.nextSequence scope).symm, h.refused⟩
  | clearScope scope =>
    refine ⟨h.valid.clearScope scope, fun scope' => (h.streamed scope').clearScope,
      fun scope' hscope' => ?_,
      fun p hp hapart => h.refused p hp fun ha => hapart (ha.imp id (List.mem_append_left _))⟩
    have hne : scope ≠ scope' := by
      rintro rfl
      exact hscope' (.inr (List.mem_append_right _ List.mem_cons_self))
    show _ = (w.service.broker.clearScope scope).2.nextSequence scope'
    rw [Broker.nextSequence_clearScope, if_neg hne]
    exact h.aligned scope' fun ha => hscope' (ha.imp id (List.mem_append_left _))

omit [TextTables] in
theorem kept_start : ({} : World).service.Kept ({} : World).Apart := by
  have hnone : ∀ scope, ({} : World).service.broker.buffers.get? scope = none := fun scope => rfl
  have hget : ∀ {scope b}, ({} : World).service.broker.buffers.get? scope = some b → False := by
    intro scope b hb
    rw [hnone] at hb
    cases hb
  exact ⟨⟨fun _ _ hb => (hget hb).elim, fun _ hsub => (nomatch hsub), fun _ _ hb => (hget hb).elim⟩,
    fun scope => ⟨numbered_nil 1, rfl, List.Pairwise.nil, fun _ hb => (hget hb).elim⟩,
    fun _ _ => rfl, fun _ hp => (nomatch hp)⟩

theorem kept_run (h : Run bounds ok w) (hroom : ∀ a ∈ w.attempts, a.Roomy bounds) :
    w.service.Kept w.Apart := by
  induction h with
  | start => exact kept_start
  | call c _ _ ih => exact (ih fun a ha => hroom a (attempts_after _ c ha)).after c hroom

theorem refused_run (h : Run bounds ok w) : w.service.Told := by
  induction h with
  | start => exact fun p hp => nomatch hp
  | call c _ _ ih =>
    cases c with
    | command c => exact ih.steps (Coordinator.steps_command _ _)
    | _ => exact ih

/-- **In every run whose publications are roomy, streams have no gaps and do not
restart**, where others publish to scopes of their own. -/
theorem streams_kept (h : Run bounds ok w) (hroom : ∀ a ∈ w.attempts, a.Roomy bounds)
    (hown : ∀ a ∈ w.service.attempts, a.scope ∉ w.others.map (·.scope)) : w.StreamsKept bounds := by
  have hkept := kept_run h hroom
  refine ⟨hkept.valid.retained, hkept.valid.consecutive,
    fun a ha => Coordinator.Attempt.unchanged_of_roomy (hroom a ha),
    fun scope => ⟨(hkept.streamed scope).numbered, (hkept.streamed scope).ended⟩, fun p hp hcleared => ?_⟩
  obtain ⟨a, ha, hscope⟩ := List.mem_map.mp (refused_run h p hp)
  refine hkept.refused p hp fun hapart => ?_
  rcases hapart with hapart | hapart
  · exact hown a ha (hscope ▸ hapart)
  · exact hcleared hapart

end Runs

/-! ### A stream that starts again -/

namespace Sample

def identity : JourneyIdentity where
  tenantId := "tenant"
  securityDomain := "domain"
  canonicalWorkflowRevisionId := "revision-1"
  canonicalDigest := "digest-1"
  sharedSnapshotId := "snapshot"
  graphSnapshotId := "graph"
  platformExecutionIdentity := none
  approvalId := "approval"
  placementDecisionId := "placement"
  evidenceIds := []
  citationIds := []

/-- An hour of the first day. -/
def hour (hours : Nat) (h : decide (hours * 3600000000 < maxMicros) = true := by exact Eq.refl true) :
    Datetime :=
  ⟨hours * 3600000000, of_decide_eq_true h⟩

/-- A clock that stands still. -/
def clock (now : Datetime) : Clock := ⟨now, fun _ => now⟩

/-- The first event of a journey, which is the last one too. -/
def fields (journeyId : String) (occurredAt : Datetime) : EventFields where
  journeyId
  eventId := "event-1"
  sequence := 1
  occurredAt
  eventType := .journeyError
  stage := .execution
  status := .error
  terminal := true
  reasonCode := "ERROR"
  localizationKey := "error"
  identity
  payload := ⟨none, none, none, none, none, [], [], []⟩

theorem valid_fields : (fields "journey-1" (hour 1)).valid = true
    ∧ (fields "journey-2" (hour 2)).valid = true ∧ (fields "journey-1" (hour 3)).valid = true := by
  simp only [EventFields.valid, JourneyEventPayload.valid, Json.utf8ByteSize_dumps]
  decide +kernel

def first : JourneyEventEnvelope := ⟨fields "journey-1" (hour 1), valid_fields.1⟩

def second : JourneyEventEnvelope := ⟨fields "journey-2" (hour 2), valid_fields.2.1⟩

def third : JourneyEventEnvelope := ⟨fields "journey-1" (hour 3), valid_fields.2.2⟩

/-- `streams_kept` in a run with a publication. -/
theorem streams_kept_of_publication :
    (@World.after TextTables.ascii {} {} (.publish (clock (hour 1)) first)).StreamsKept {} := by
  let tables := TextTables.ascii
  have hrun : Run {} (fun _ _ => True) (({} : World).after {} (.publish (clock (hour 1)) first)) :=
    .call _ .start trivial
  refine streams_kept hrun ?_ ?_
  · intro a ha e he
    cases List.mem_singleton.mp ha
    have hevent := JourneyEventEnvelope.create_eq_some.mp he
    refine .inl ⟨by decide, ?_, ?_, by decide⟩
    · rw [hevent]
      rfl
    · decide
  · exact fun a ha => nomatch ha

/-- A broker with room for one journey. -/
def single : Bounds := { maxJourneys := 1 }

/-- The second event evicts the buffer of the first one, and the third one starts
the stream again. -/
def evicted : World :=
  letI := TextTables.ascii
  (({} : World).after single (.publish (clock (hour 1)) first)).after single
      (.publish (clock (hour 2)) second) |>.after single (.publish (clock (hour 3)) third)

theorem numbers_of_evicted :
    (stream first.scope evicted.service.broker.log).map (·.sequence) = [1, 1] := by
  decide +kernel

/-- After an eviction a number is accepted twice, and after a terminal event. -/
theorem streams_restart : ¬ ∀ (bounds : Bounds) (w : World),
    @Run TextTables.ascii bounds (fun _ _ => True) w → w.StreamsKept bounds := by
  let tables := TextTables.ascii
  intro h
  have hrun : Run single (fun _ _ => True) evicted :=
    .call _ (.call _ (.call _ .start trivial) trivial) trivial
  have haccepted := ((h single evicted hrun).accepted first.scope).1
  rw [Numbered, numbers_of_evicted] at haccepted
  have hlength := congrArg List.length numbers_of_evicted
  rw [List.length_map] at hlength
  rw [hlength] at haccepted
  exact absurd haccepted (by decide)

end Sample

end Journey

end AgentPlatform
