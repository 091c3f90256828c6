/-
AgentPlatform/Journey/Commands.lean

What the commands of the live journey coordinator leave behind.

A command writes the journey and the replay before it publishes, so that it
leaves them behind where the event is refused: by its model, or by the broker
because the stream has ended, a queue is full, there is no room or the number is
another one. A decision that is neither of the two is refused after the replay
has been written. A rejected revision stays pending, and can be approved.
`Coordinator.Sound` excludes these. **Main result:** `commands_atomic`, in every
run of sound commands.
-/
import AgentPlatform.Journey.Streams

namespace AgentPlatform

open Py

namespace Journey

/-! ### Publications that are appended -/

/-- The event passes the checks of the broker, where there is a buffer for it or
room for one. -/
def Bounds.Appends (bounds : Bounds) (clock : Clock) (e : JourneyEventEnvelope) (s : Broker) : Prop :=
  bounds.Prunes clock.now ∧
    match s.buffers.get? e.scope with
    | some b => Bounds.Admitted s b e
    | none => e.sequence = 1 ∧ (s.buffers.size < bounds.maxJourneys
      ∨ (bounds.evict clock s.buffers.entries).1 = .ok ()
        ∧ (bounds.evict clock s.buffers.entries).2.length < bounds.maxJourneys)

/-- **A publication that passes the checks** is appended, and nothing else is. -/
theorem Bounds.publish_of_appends {bounds : Bounds} {clock : Clock} {e : JourneyEventEnvelope}
    {s : Broker} (h : bounds.Appends clock e s) :
    (bounds.publish clock e s).1 = .ok .appended
      ∧ (bounds.publish clock e s).2.log = s.log ++ [.accepted e] := by
  obtain ⟨hprunes, h⟩ := h
  have happend : ∀ b s₀, Admitted s₀ b e → s₀.log = s.log →
      (bounds.append clock e b s₀).1 = .ok .appended
        ∧ (bounds.append clock e b s₀).2.log = s.log ++ [.accepted e] := by
    intro b s₀ ha hlog
    rcases bounds.append_cases clock e b s₀ with ⟨-, -, hnot, -⟩ | ⟨-, hs⟩ | ⟨-, hnot, -⟩
    · exact absurd ha hnot
    · rw [hs, ← hlog]
      exact ⟨rfl, rfl⟩
    · exact absurd hprunes hnot
  have hnew : ∀ s₀ : Broker, e.sequence = 1 → s₀.log = s.log →
      (bounds.append clock e {} s₀).1 = .ok .appended
        ∧ (bounds.append clock e {} s₀).2.log = s.log ++ [.accepted e] :=
    fun s₀ hsequence => happend {} s₀ ⟨rfl, rfl, hsequence, rfl⟩
  rw [publish]
  rcases Option.eq_none_or_eq_some (s.buffers.get? e.scope) with hb | ⟨b, hb⟩
  on_goal 2 =>
    rw [hb] at h ⊢
    exact happend b s h rfl
  · rw [hb] at h ⊢
    obtain ⟨hsequence, hroom⟩ := h
    by_cases hsize : bounds.maxJourneys ≤ s.buffers.size
    · obtain ⟨hevict, hlength⟩ := hroom.resolve_left (not_lt.mpr hsize)
      simp only [if_pos hsize, hevict]
      split
      · next hfull => exact absurd hlength (not_lt.mpr hfull)
      · exact hnew _ hsequence rfl
    · simp only [if_neg hsize]
      exact hnew _ hsequence rfl

/-- The event of a publication could be built, and the broker appends it. -/
def Attempt.Appends (bounds : Bounds) (a : Attempt) : Prop :=
  ∃ e, JourneyEventEnvelope.create a.fields = some e ∧ bounds.Appends a.clock e a.broker

/-! ### Commands -/

/-- `register_live`, `register_authoritative_transition`, `correct` and `approve`. -/
def Command.tells : Command → Bool
  | .registerLive .. | .registerAuthoritativeTransition .. | .correct .. | .approve .. => true
  | .unregisterLive .. | .rerun .. => false

def Command.journeyId : Command → String
  | .registerLive seed _ => seed.journeyId
  | .registerAuthoritativeTransition journeyId .. | .unregisterLive journeyId _
  | .correct journeyId .. | .approve journeyId .. | .rerun journeyId .. => journeyId

/-- A decision is one of the two. -/
def Command.Decided : Command → Prop
  | .approve _ _ _ decision _ _ _ _ => decision = "REJECT" ∨ decision = "APPROVE"
  | _ => True

def Command.Warrants (revisionId digest : String) : Command → Prop
  | .registerLive seed _ => seed.canonicalWorkflowRevisionId = revisionId ∧ seed.canonicalDigest = digest
  | .registerAuthoritativeTransition _ _ _ successor _ _ =>
    successor.approvalState = .approved ∧ successor.identity.canonicalWorkflowRevisionId = revisionId
      ∧ successor.identity.canonicalDigest = digest
  | .approve _ _ candidateDigest decision _ _ _ _ => decision = "APPROVE" ∧ candidateDigest = digest
  | _ => False

namespace Coordinator

/-- A revision has been shown as rejected. -/
def Rejected (s : Coordinator) (journeyId revisionId digest : String) : Prop :=
  ∃ r, (journeyId, r) ∈ s.shown ∧ r.approvalState = .rejected
    ∧ r.identity.canonicalWorkflowRevisionId = revisionId ∧ r.identity.canonicalDigest = digest

/-- A command makes a rejected revision executable. -/
def Revives (s : Coordinator) : Command → Prop
  | .registerLive seed _ =>
    s.Rejected seed.journeyId seed.canonicalWorkflowRevisionId seed.canonicalDigest
  | .registerAuthoritativeTransition journeyId _ _ successor _ _ =>
    successor.lifecycle = .executable ∧ (successor.approvalState = .rejected
      ∨ s.Rejected journeyId successor.identity.canonicalWorkflowRevisionId
        successor.identity.canonicalDigest)
  | .approve journeyId _ candidateDigest decision _ _ _ _ =>
    decision = "APPROVE" ∧ ∃ pair, s.journeys.get? journeyId = some pair
      ∧ s.Rejected journeyId pair.2.identity.canonicalWorkflowRevisionId candidateDigest
  | _ => False

section Sound

variable [TextTables] (bounds : Bounds)

def publications (s : Coordinator) (c : Command) : List Attempt :=
  (s.command bounds c).2.attempts.drop s.attempts.length

/-- What a command publishes is appended, its decision is one of the two, and it does
not make a rejected revision executable. -/
structure Sound (s : Coordinator) (c : Command) : Prop where
  appends : c.tells = true → ∀ a ∈ s.publications bounds c, a.Appends bounds
  decided : c.Decided
  revives : ¬ s.Revives c

/-- **A command is atomic with its event.** -/
structure Atomic (s : Coordinator) (c : Command) : Prop where
  /-- A command that raises changes nothing. -/
  raised : ∀ f, (s.command bounds c).1 = .error f →
    (s.command bounds c).2.journeys = s.journeys ∧ (s.command bounds c).2.replays = s.replays
      ∧ (s.command bounds c).2.eventSequences = s.eventSequences
      ∧ (s.command bounds c).2.broker.buffers = s.broker.buffers
  /-- One that is accepted appends one event to the stream of the journey. -/
  accepted : (s.command bounds c).1 = .ok () → ∃ e pair,
    (s.command bounds c).2.broker.log = s.broker.log ++ [.accepted e]
      ∧ (s.command bounds c).2.journeys.get? c.journeyId = some pair
      ∧ e.scope = streamScope c.journeyId pair.2

end Sound

/-! ### What a command presents -/

/-- Only the broker, the numbers of the events and the publications change. -/
structure Aside (s s' : Coordinator) : Prop where
  journeys : s'.journeys = s.journeys
  provenance : s'.provenance = s.provenance
  shown : s'.shown = s.shown
  handoffs : s'.handoffs = s.handoffs

theorem Aside.trans {s s' s'' : Coordinator} (h : Aside s s') (h' : Aside s' s'') : Aside s s'' :=
  ⟨h'.journeys.trans h.journeys, h'.provenance.trans h.provenance, h'.shown.trans h.shown,
    h'.handoffs.trans h.handoffs⟩

/-- Every journey has a provenance. -/
def Provided (s : Coordinator) : Prop :=
  ∀ journeyId pair, s.journeys.get? journeyId = some pair → (s.provenance.get? journeyId).isSome = true

section Presents

variable [TextTables] {bounds : Bounds} {s : Coordinator} {c : Command}

theorem aside_publish (bounds : Bounds) (journeyId : String) (revision : JourneyRevision)
    (notice : Notice) (moment : Moment) (s : Coordinator) : Aside s (s.publish bounds journeyId revision notice moment).2 := by
  unfold Coordinator.publish
  dsimp only
  split
  · exact ⟨rfl, rfl, rfl, rfl⟩
  · split <;> exact ⟨rfl, rfl, rfl, rfl⟩

/-- The publication of a revision. -/
def attempt (journeyId : String) (revision : JourneyRevision) (notice : Notice) (moment : Moment)
    (s : Coordinator) : Attempt :=
  ⟨s.broker, moment.clock, eventFields journeyId revision notice
    ((s.eventSequences.get? (streamScope journeyId revision)).getD 0 + 1) moment.occurredAt⟩

theorem attempts_publish_eq (bounds : Bounds) (journeyId : String) (revision : JourneyRevision)
    (notice : Notice) (moment : Moment) (s : Coordinator) : (s.publish bounds journeyId revision notice moment).2.attempts
      = s.attempts ++ [s.attempt journeyId revision notice moment] := by
  unfold Coordinator.publish
  dsimp only
  split
  · rfl
  · split <;> rfl

theorem attempts_present_eq (journeyId : String) (principal : TrustedJourneyPrincipal)
    (predecessor : Option JourneyRevision) (successor : JourneyRevision) (notice : Notice)
    (moment : Moment) :
    (s.present bounds journeyId principal predecessor successor notice moment).2.attempts
      = s.attempts ++ [s.attempt journeyId successor notice moment] := by
  have hpublish := attempts_publish_eq bounds journeyId successor notice moment
    (s.show_ journeyId predecessor successor)
  unfold present
  split
  · next hr => exact (congrArg (·.2.attempts) hr).symm.trans hpublish
  · next hr => exact (congrArg (·.2.attempts) hr).symm.trans hpublish

theorem publish_of_appends {journeyId : String} {revision : JourneyRevision} {notice : Notice}
    {moment : Moment} (h : (s.attempt journeyId revision notice moment).Appends bounds) :
    (s.publish bounds journeyId revision notice moment).1 = .ok () ∧ ∃ e,
      (s.publish bounds journeyId revision notice moment).2.broker.log = s.broker.log ++ [.accepted e]
        ∧ e.scope = streamScope journeyId revision := by
  obtain ⟨e, he, happends⟩ := h
  rw [attempt] at he happends
  obtain ⟨hresult, hlog⟩ := Bounds.publish_of_appends happends
  have hscope : e.scope = streamScope journeyId revision := by
    rw [JourneyEventEnvelope.scope, JourneyEventEnvelope.create_eq_some.mp he]
    rfl
  unfold Coordinator.publish
  simp only [he]
  split
  · next f broker hpublish =>
    rw [hpublish] at hresult
    cases hresult
  · next r broker hpublish =>
    rw [hpublish] at hlog
    exact ⟨rfl, e, hlog, hscope⟩

theorem publications_registerLive {seed : LiveJourneySeed} {moment : Moment} {revision : JourneyRevision}
    (h : seed.revision = .ok revision) : ∃ base : Coordinator, base.broker = s.broker
      ∧ base.eventSequences = s.eventSequences
      ∧ s.publications bounds (.registerLive seed moment) = [base.attempt seed.journeyId revision
        ⟨.journeyRegistered, .journey, .registered, false, "JOURNEY_REGISTERED",
          "liveJourney.event.journeyRegistered"⟩ moment] := by
  refine ⟨{ s with provenance := s.provenance.set seed.journeyId seed.provenance }, rfl, rfl, ?_⟩
  simp only [publications, command]
  rw [registerLive, h]
  simp only [attempts_present_eq]
  exact List.drop_left

/-- A registration whose event is refused by its model. -/
theorem registerLive_of_invalid {seed : LiveJourneySeed} {moment : Moment} {revision : JourneyRevision}
    (h : seed.revision = .ok revision)
    (hinvalid : ∀ sequence, (eventFields seed.journeyId revision ⟨.journeyRegistered, .journey,
      .registered, false, "JOURNEY_REGISTERED", "liveJourney.event.journeyRegistered"⟩ sequence
      moment.occurredAt).valid = false) :
    (s.command bounds (.registerLive seed moment)).1 = .error .validation
      ∧ (s.command bounds (.registerLive seed moment)).2.journeys.get? seed.journeyId
        = some (none, revision) := by
  have hcreate : ∀ sequence, JourneyEventEnvelope.create (eventFields seed.journeyId revision
      ⟨.journeyRegistered, .journey, .registered, false, "JOURNEY_REGISTERED",
        "liveJourney.event.journeyRegistered"⟩ sequence moment.occurredAt) = none := by
    intro sequence
    rw [JourneyEventEnvelope.create, dif_neg]
    rw [hinvalid]
    decide
  simp only [command]
  rw [registerLive, h]
  simp only [present, publish, hcreate]
  exact ⟨rfl, Dict.get?_set_self _ _ _⟩

/-- A command that raises and leaves a journey behind. -/
theorem not_atomic {journeyId : String} {f : Failure} {pair : Option JourneyRevision × JourneyRevision}
    (hfailed : (s.command bounds c).1 = .error f)
    (hleft : (s.command bounds c).2.journeys.get? journeyId = some pair)
    (hnone : s.journeys.get? journeyId = none) : ¬ s.Atomic bounds c := by
  intro h
  rw [(h.raised f hfailed).1, hnone] at hleft
  cases hleft

/-- What a command presents, and from where. -/
structure Presents (s base : Coordinator) (c : Command) (principal : TrustedJourneyPrincipal)
    (successor : JourneyRevision) : Prop where
  journeys : base.journeys = s.journeys
  shown : base.shown = s.shown
  handoffs : base.handoffs = s.handoffs
  attempts : base.attempts = s.attempts
  log : base.broker.log = s.broker.log
  provenance : ∀ journeyId, (s.provenance.get? journeyId).isSome = true →
    (base.provenance.get? journeyId).isSome = true
  provided : (base.provenance.get? c.journeyId).isSome = true
  permits : principal.permits successor.identity.tenantId successor.identity.securityDomain = true
  revives : successor.lifecycle = .executable → ¬ s.Revives c →
    successor.approvalState ≠ .rejected ∧ ¬ s.Rejected c.journeyId
      successor.identity.canonicalWorkflowRevisionId successor.identity.canonicalDigest
  warrants : successor.lifecycle = .executable → successor.approvalState = .approved →
    c.Warrants successor.identity.canonicalWorkflowRevisionId successor.identity.canonicalDigest

omit [TextTables] in
theorem authorized_eq_ok {journeyId : String} {principal : TrustedJourneyPrincipal}
    {pair : Option JourneyRevision × JourneyRevision} (h : s.authorized journeyId principal = .ok pair) :
    s.journeys.get? journeyId = some pair
      ∧ principal.permits pair.2.identity.tenantId pair.2.identity.securityDomain = true := by
  rw [authorized] at h
  split at h
  · cases h
  · split at h
    · cases h
    · next pair' hget =>
      split at h
      · next hpermits =>
        cases h
        exact ⟨hget, hpermits⟩
      · cases h

omit [TextTables] in
theorem get_eq_ok {journeyId : String} {principal : TrustedJourneyPrincipal}
    {pair : Option JourneyRevision × JourneyRevision} (hget : s.journeys.get? journeyId = some pair)
    (hprovided : (s.provenance.get? journeyId).isSome = true)
    (hpermits : principal.permits pair.2.identity.tenantId pair.2.identity.securityDomain = true) :
    ∃ response, s.get journeyId principal = .ok response := by
  have hpermits' := hpermits
  simp only [TrustedJourneyPrincipal.permits, Bool.and_eq_true, decide_eq_true_eq] at hpermits'
  obtain ⟨⟨⟨hauthorized, hid⟩, -⟩, -⟩ := hpermits'
  have hok : s.authorized journeyId principal = .ok pair := by
    rw [authorized, if_neg, hget]
    · exact if_pos hpermits
    · rintro (hfalse | hempty)
      · exact Bool.noConfusion (hfalse.symm.trans hauthorized)
      · exact hid hempty
  obtain ⟨provenance, hprovenance⟩ := Option.isSome_iff_exists.mp hprovided
  rw [Coordinator.get, hok]
  dsimp only
  rw [hprovenance]
  exact ⟨_, rfl⟩

omit [TextTables] in
theorem permits_systemPrincipal (seed : LiveJourneySeed) :
    (systemPrincipal seed).permits seed.tenantId seed.securityDomain = true := by
  simp [systemPrincipal, TrustedJourneyPrincipal.permits]

/-- The revision of a seed is executable and approved, and has its identity. -/
theorem revision_eq_ok {seed : LiveJourneySeed} {revision : JourneyRevision}
    (h : seed.revision = .ok revision) :
    revision.identity = seed.identity ∧ revision.approvalState = .approved := by
  unfold LiveJourneySeed.revision at h
  split at h
  · cases h
  · split at h
    · cases h
    · split at h
      · cases h
      · split at h
        · cases h
        · split at h
          · cases h
          · split at h
            · cases h
            · cases h
              exact ⟨rfl, rfl⟩

/-- How one of the four commands ends: it is refused, has no decision, or presents
a revision. -/
def Ends (bounds : Bounds) (s : Coordinator) (c : Command)
    (result : Except Failure LiveJourneyResponse × Coordinator) : Prop :=
  (∃ f, result = (.error f, s)) ∨ ¬ c.Decided
    ∨ ∃ base principal predecessor successor notice moment, Presents s base c principal successor
      ∧ result = base.present bounds c.journeyId principal predecessor successor notice moment

theorem ends_registerLive (seed : LiveJourneySeed) (moment : Moment) :
    Ends bounds s (.registerLive seed moment) (s.registerLive bounds seed moment) := by
  rw [Ends, registerLive]
  split
  · exact .inl ⟨_, rfl⟩
  · next revision hrevision =>
    obtain ⟨hidentity, happroved⟩ := revision_eq_ok hrevision
    refine .inr (.inr ⟨{ s with provenance := s.provenance.set seed.journeyId seed.provenance }, _, _,
      revision, _, _, ⟨rfl, rfl, rfl, rfl, rfl, ?_, ?_, ?_, ?_, ?_⟩, rfl⟩)
    · intro journeyId hsome
      show ((s.provenance.set _ _).get? journeyId).isSome = true
      rw [Dict.get?_set]
      split
      · rfl
      · exact hsome
    · show ((s.provenance.set _ _).get? seed.journeyId).isSome = true
      rw [Dict.get?_set_self]
      rfl
    · rw [hidentity]
      exact permits_systemPrincipal seed
    · intro _ hrevives
      rw [happroved, hidentity]
      exact ⟨(fun h => by cases h), hrevives⟩
    · intro _ _
      rw [hidentity]
      exact ⟨rfl, rfl⟩

theorem ends_registerAuthoritativeTransition (hs : s.Provided) (journeyId : String)
    (principal : TrustedJourneyPrincipal) (predecessor : Option JourneyRevision)
    (successor : JourneyRevision) (notice : Notice) (moment : Moment) :
    Ends bounds s
      (.registerAuthoritativeTransition journeyId principal predecessor successor notice moment)
      (s.registerAuthoritativeTransition bounds journeyId principal predecessor successor notice moment) := by
  rw [Ends, registerAuthoritativeTransition]
  split
  · exact .inl ⟨_, rfl⟩
  · next current hauthorized =>
    split
    · exact .inl ⟨_, rfl⟩
    · next hpermits =>
      split
      · exact .inl ⟨_, rfl⟩
      · split
        · exact .inl ⟨_, rfl⟩
        · refine .inr (.inr ⟨s, principal, predecessor, successor, notice, moment,
            ⟨rfl, rfl, rfl, rfl, rfl, fun _ h => h, hs _ _ (authorized_eq_ok hauthorized).1,
              eq_true_of_ne_false hpermits, fun hexecutable hrevives => ?_,
              fun _ happroved => ⟨happroved, rfl, rfl⟩⟩, rfl⟩)
          exact ⟨fun h => hrevives ⟨hexecutable, .inl h⟩, fun h => hrevives ⟨hexecutable, .inr h⟩⟩

theorem ends_correct (hs : s.Provided) (journeyId : String) (principal : TrustedJourneyPrincipal)
    (predecessorRevisionId predecessorDigest objective reasonCode : String) (moment : Moment) :
    Ends bounds s (.correct journeyId principal predecessorRevisionId predecessorDigest objective
        reasonCode moment)
      (s.correct bounds journeyId principal predecessorRevisionId predecessorDigest objective
        reasonCode moment) := by
  rw [Ends, correct]
  split
  · exact .inl ⟨_, rfl⟩
  · next predecessor current hauthorized =>
    obtain ⟨hget, hpermits⟩ := authorized_eq_ok hauthorized
    split
    · exact .inl ⟨_, rfl⟩
    · split
      · exact .inl ⟨_, rfl⟩
      · dsimp only
        split
        · exact .inl ⟨_, rfl⟩
        · split
          · exact .inl ⟨_, rfl⟩
          · refine .inr (.inr ⟨s, principal, _, _, _, moment, ?_, rfl⟩)
            exact ⟨rfl, rfl, rfl, rfl, rfl, fun _ h => h, hs _ _ hget, hpermits,
              (fun h => by cases h), fun h => by cases h⟩

theorem ends_approve (hs : s.Provided) (journeyId : String) (principal : TrustedJourneyPrincipal)
    (candidateDigest decision reasonCode replayIdentity : String) (decidedAt : Datetime)
    (moment : Moment) :
    Ends bounds s (.approve journeyId principal candidateDigest decision reasonCode replayIdentity
        decidedAt moment)
      (s.approve bounds journeyId principal candidateDigest decision reasonCode replayIdentity decidedAt
        moment) := by
  rw [Ends, approve]
  split
  · exact .inl ⟨_, rfl⟩
  · next predecessor successor hauthorized =>
    obtain ⟨hget, hpermits⟩ := authorized_eq_ok hauthorized
    split
    · exact .inl ⟨_, rfl⟩
    · next hpending =>
      split
      · exact .inl ⟨_, rfl⟩
      · next hdigest =>
        have hdigest : candidateDigest = successor.identity.canonicalDigest := not_not.mp hdigest
        split
        · exact .inl ⟨_, rfl⟩
        · split
          · exact .inl ⟨_, rfl⟩
          · next replay _ =>
            split
            · exact .inl ⟨_, rfl⟩
            · refine .inr ?_
              dsimp only
              split
              · refine .inr ⟨{ s with replays := s.replays.set replay (candidateDigest, decision) },
                  principal, _, _, _, moment, ?_, rfl⟩
                refine ⟨rfl, rfl, rfl, rfl, rfl, fun _ h => h, hs _ _ hget, hpermits, ?_,
                  fun _ h => by cases h⟩
                intro hexecutable
                have hlifecycle : successor.lifecycle = .executable := hexecutable
                rw [not_not.mp hpending] at hlifecycle
                cases hlifecycle
              · split
                · next happrove =>
                  refine .inr ⟨{ s with replays := s.replays.set replay (candidateDigest, decision) },
                    principal, _, _, _, moment, ?_, rfl⟩
                  refine ⟨rfl, rfl, rfl, rfl, rfl, fun _ h => h, hs _ _ hget, hpermits, ?_, ?_⟩
                  · intro _ hrevives
                    refine ⟨(fun h => by cases h), fun h => hrevives ⟨happrove, _, hget, ?_⟩⟩
                    rw [hdigest]
                    exact h
                  · exact fun _ _ => ⟨happrove, hdigest⟩
                · next hreject happrove => exact .inl (not_or.mpr ⟨hreject, happrove⟩)

theorem ends_of_tells (bounds : Bounds) (hs : s.Provided) (hc : c.tells = true) : ∃ result,
    s.command bounds c = (result.1.map fun _ => (), result.2) ∧ Ends bounds s c result := by
  cases c with
  | registerLive seed moment => exact ⟨_, rfl, ends_registerLive _ _⟩
  | registerAuthoritativeTransition =>
    exact ⟨_, rfl, ends_registerAuthoritativeTransition hs _ _ _ _ _ _⟩
  | correct => exact ⟨_, rfl, ends_correct hs _ _ _ _ _ _ _⟩
  | approve => exact ⟨_, rfl, ends_approve hs _ _ _ _ _ _ _ _⟩
  | unregisterLive => cases hc
  | rerun => cases hc

/-- **A sound command is refused, or presents a revision and appends its event.** -/
theorem sound_cases (hs : s.Provided) (hc : c.tells = true) (h : s.Sound bounds c) :
    (∃ f, s.command bounds c = (.error f, s))
      ∨ ∃ base principal predecessor successor e, Presents s base c principal successor
        ∧ (s.command bounds c).1 = .ok ()
        ∧ Aside (base.show_ c.journeyId predecessor successor) (s.command bounds c).2
        ∧ (s.command bounds c).2.broker.log = s.broker.log ++ [.accepted e]
        ∧ e.scope = streamScope c.journeyId successor := by
  obtain ⟨result, hcommand, hends⟩ := ends_of_tells bounds hs hc
  have happends := h.appends hc
  rw [publications, hcommand] at happends
  rw [hcommand]
  rcases hends with ⟨f, rfl⟩ | hnot | ⟨base, principal, predecessor, successor, notice, moment, hp, rfl⟩
  · exact .inl ⟨f, rfl⟩
  · exact absurd h.decided hnot
  · refine .inr ⟨base, principal, predecessor, successor, ?_⟩
    have haside : Aside (base.show_ c.journeyId predecessor successor) _ :=
      aside_publish bounds c.journeyId successor notice moment _
    have hattempt : ((base.show_ c.journeyId predecessor successor).attempt c.journeyId successor notice
        moment).Appends bounds := by
      refine happends _ ?_
      rw [attempts_present_eq, hp.attempts, List.drop_left]
      exact List.mem_cons_self
    obtain ⟨hok, e, hlog, hscope⟩ := publish_of_appends hattempt
    unfold present
    split
    · next hr =>
      rw [hr] at hok
      cases hok
    · next s' hr =>
      rw [hr] at haside hlog
      have hget : s'.journeys.get? c.journeyId = some (predecessor, successor) := by
        rw [haside.journeys]
        exact Dict.get?_set_self _ _ _
      have hprovided : (s'.provenance.get? c.journeyId).isSome = true := by
        rw [haside.provenance]
        exact hp.provided
      obtain ⟨response, hresponse⟩ := get_eq_ok hget hprovided hp.permits
      refine ⟨e, hp, ?_, haside, hlog.trans ?_, hscope⟩
      · rw [hresponse]
        rfl
      · rw [← hp.log]
        rfl

end Presents

/-! ### What sound commands keep -/

def Same (p q : String × JourneyRevision) : Prop :=
  p.1 = q.1 ∧ p.2.identity.canonicalWorkflowRevisionId = q.2.identity.canonicalWorkflowRevisionId
    ∧ p.2.identity.canonicalDigest = q.2.identity.canonicalDigest

/-- A revision that was rejected is not executable, then or later. -/
structure Rests (shown : List (String × JourneyRevision)) : Prop where
  then_ : ∀ p ∈ shown, p.2.approvalState = .rejected → p.2.lifecycle ≠ .executable
  later : shown.Pairwise fun p q =>
    Same p q → p.2.approvalState = .rejected → q.2.lifecycle ≠ .executable

structure Secure (accepted : List Command) (s : Coordinator) : Prop where
  provided : s.Provided
  rests : Rests s.shown
  current : ∀ journeyId pair, s.journeys.get? journeyId = some pair → pair.2.lifecycle = .executable →
    ¬ s.Rejected journeyId pair.2.identity.canonicalWorkflowRevisionId pair.2.identity.canonicalDigest
  warranted : ∀ journeyId pair, s.journeys.get? journeyId = some pair →
    pair.2.lifecycle = .executable → pair.2.approvalState = .approved → ∃ c ∈ accepted,
      c.Warrants pair.2.identity.canonicalWorkflowRevisionId pair.2.identity.canonicalDigest
  handoffs : ∀ p ∈ s.handoffs, ∃ c ∈ accepted, c.Warrants p.1 p.2

section Secure

variable {accepted accepted' : List Command} {s s' : Coordinator}

theorem Secure.aside (h : s.Secure accepted) (ha : Aside s s') : s'.Secure accepted := by
  refine ⟨?_, ha.shown ▸ h.rests, ?_, ha.journeys ▸ h.warranted, ha.handoffs ▸ h.handoffs⟩
  · rw [Provided, ha.journeys, ha.provenance]
    exact h.provided
  · simp only [Rejected, ha.shown, ha.journeys]
    exact h.current

theorem Secure.mono (h : s.Secure accepted) (hsub : accepted ⊆ accepted') : s.Secure accepted' := by
  refine ⟨h.provided, h.rests, h.current, fun journeyId pair hget hexecutable happroved => ?_,
    fun p hp => ?_⟩
  · obtain ⟨c, hc, hw⟩ := h.warranted journeyId pair hget hexecutable happroved
    exact ⟨c, hsub hc, hw⟩
  · obtain ⟨c, hc, hw⟩ := h.handoffs p hp
    exact ⟨c, hsub hc, hw⟩

/-- A revision is made current that is not to rest. -/
theorem Secure.show (h : s.Secure accepted) {journeyId : String} (predecessor : Option JourneyRevision)
    {successor : JourneyRevision} (hprovided : (s.provenance.get? journeyId).isSome = true)
    (hrests : successor.lifecycle = .executable → successor.approvalState ≠ .rejected
      ∧ ¬ s.Rejected journeyId successor.identity.canonicalWorkflowRevisionId
        successor.identity.canonicalDigest)
    (hwarrants : successor.lifecycle = .executable → successor.approvalState = .approved →
      ∃ c ∈ accepted, c.Warrants successor.identity.canonicalWorkflowRevisionId
        successor.identity.canonicalDigest) :
    (s.show_ journeyId predecessor successor).Secure accepted := by
  have hget : ∀ {journeyId' pair},
      (s.show_ journeyId predecessor successor).journeys.get? journeyId' = some pair →
      journeyId = journeyId' ∧ pair = (predecessor, successor)
        ∨ journeyId ≠ journeyId' ∧ s.journeys.get? journeyId' = some pair := by
    intro journeyId' pair hget
    have hset : (s.journeys.set journeyId (predecessor, successor)).get? journeyId' = some pair := hget
    rw [Dict.get?_set] at hset
    split at hset
    · next heq => exact .inl ⟨heq, (Option.some.inj hset).symm⟩
    · next hne => exact .inr ⟨hne, hset⟩
  refine ⟨fun journeyId' pair hpair => ?_, ⟨?_, ?_⟩, fun journeyId' pair hpair hexecutable => ?_,
    fun journeyId' pair hpair hexecutable happroved => ?_, h.handoffs⟩
  · rcases hget hpair with ⟨rfl, -⟩ | ⟨-, hpair⟩
    · exact hprovided
    · exact h.provided journeyId' pair hpair
  · intro p hp hrejected hexecutable
    rcases List.mem_append.mp hp with hp | hp
    · exact h.rests.then_ p hp hrejected hexecutable
    · cases List.mem_singleton.mp hp
      exact (hrests hexecutable).1 hrejected
  · show (s.shown ++ [(journeyId, successor)]).Pairwise _
    rw [List.pairwise_append]
    refine ⟨h.rests.later, List.pairwise_singleton _ _, fun p hp q hq hsame hrejected hexecutable => ?_⟩
    cases List.mem_singleton.mp hq
    obtain ⟨hjourney, hid, hdigest⟩ := hsame
    refine (hrests hexecutable).2 ⟨p.2, ?_, hrejected, hid, hdigest⟩
    rw [← show p.1 = journeyId from hjourney]
    exact hp
  · rintro ⟨r, hr, hrejected, hid, hdigest⟩
    rcases hget hpair with ⟨rfl, rfl⟩ | ⟨hne, hpair⟩
    · rcases List.mem_append.mp hr with hr | hr
      · exact (hrests hexecutable).2 ⟨r, hr, hrejected, hid, hdigest⟩
      · cases List.mem_singleton.mp hr
        exact (hrests hexecutable).1 hrejected
    · rcases List.mem_append.mp hr with hr | hr
      · exact h.current journeyId' pair hpair hexecutable ⟨r, hr, hrejected, hid, hdigest⟩
      · cases List.mem_singleton.mp hr
        exact hne rfl
  · rcases hget hpair with ⟨-, rfl⟩ | ⟨-, hpair⟩
    · exact hwarrants hexecutable happroved
    · exact h.warranted journeyId' pair hpair hexecutable happroved

end Secure

section Runs

variable [TextTables] {bounds : Bounds} {accepted : List Command} {s s' : Coordinator} {c : Command}

theorem Secure.tells (h : s.Secure accepted) (hc : c.tells = true) (hsound : s.Sound bounds c) :
    (s.command bounds c).2.Secure (match (s.command bounds c).1 with
      | .ok () => accepted ++ [c]
      | .error _ => accepted) := by
  rcases sound_cases h.provided hc hsound with
    ⟨f, hcommand⟩ | ⟨base, principal, predecessor, successor, e, hp, hok, haside, -⟩
  · rw [hcommand]
    exact h
  · rw [hok]
    have hbase : base.Secure (accepted ++ [c]) := by
      have hmono := h.mono (List.subset_append_left accepted [c])
      refine ⟨fun journeyId pair hpair => ?_, hp.shown ▸ hmono.rests, ?_, hp.journeys ▸ hmono.warranted,
        hp.handoffs ▸ hmono.handoffs⟩
      · exact hp.provenance journeyId (h.provided journeyId pair (hp.journeys ▸ hpair))
      · simp only [Rejected, hp.shown, hp.journeys]
        exact h.current
    refine Secure.aside (hbase.show predecessor hp.provided (fun hexecutable => ?_)
      fun hexecutable happroved => ?_) haside
    · simp only [Rejected, hp.shown]
      exact hp.revives hexecutable hsound.revives
    · exact ⟨c, List.mem_append_right _ List.mem_cons_self, hp.warrants hexecutable happroved⟩

omit [TextTables] in
theorem Secure.unregisterLive (h : s.Secure accepted) (journeyId : String)
    (principal : TrustedJourneyPrincipal) : (s.unregisterLive journeyId principal).2.Secure accepted := by
  rw [Coordinator.unregisterLive]
  split
  · exact h
  · have hget : ∀ {journeyId' pair}, (s.journeys.pop journeyId).get? journeyId' = some pair →
        journeyId ≠ journeyId' ∧ s.journeys.get? journeyId' = some pair := by
      intro journeyId' pair hpair
      rw [Dict.get?_pop] at hpair
      split at hpair
      · cases hpair
      · next hne => exact ⟨hne, hpair⟩
    refine ⟨fun journeyId' pair hpair => ?_, h.rests, fun journeyId' pair hpair => ?_,
      fun journeyId' pair hpair => h.warranted journeyId' pair (hget hpair).2, h.handoffs⟩
    · show ((s.provenance.pop journeyId).get? journeyId').isSome = true
      rw [Dict.get?_pop, if_neg (hget hpair).1]
      exact h.provided journeyId' pair (hget hpair).2
    · exact h.current journeyId' pair (hget hpair).2

theorem Secure.rerunEnded (h : s.Secure accepted) {journeyId : String}
    {pair : Option JourneyRevision × JourneyRevision} (hget : s.journeys.get? journeyId = some pair)
    (hexecutable : pair.2.lifecycle = .executable) (happroved : pair.2.approvalState = .approved)
    (principal : TrustedJourneyPrincipal) (moment : Moment) (handoff : Handoff) :
    (s.rerunEnded bounds journeyId principal pair.1 pair.2 moment handoff).2.Secure accepted := by
  cases handoff with
  | missing code =>
    have haside := h.aside (aside_publish bounds journeyId pair.2 ⟨.journeyUnavailable,
      .execution, .unavailable, true, "EXECUTION_AUTHORITY_UNAVAILABLE",
      "liveJourney.event.journeyUnavailable"⟩ moment s)
    dsimp only [Coordinator.rerunEnded]
    split
    · next hr => rwa [hr] at haside
    · next hr => rwa [hr] at haside
  | raised =>
    have haside := h.aside (aside_publish bounds journeyId pair.2 ⟨.journeyError, .execution,
      .error, true, "EXECUTION_AUTHORITY_ERROR", "liveJourney.event.journeyError"⟩ moment s)
    dsimp only [Coordinator.rerunEnded]
    split
    · next hr => rwa [hr] at haside
    · next hr => rwa [hr] at haside
  | other => exact h
  | result result =>
    dsimp only [Coordinator.rerunEnded]
    split
    · exact h
    · split
      · exact h
      · have hshow : (s.show_ journeyId pair.1 (rerunning pair.2 result)).Secure accepted := by
          refine h.show pair.1 (h.provided _ _ hget) (fun _ => ⟨?_, h.current _ _ hget hexecutable⟩)
            fun _ _ => h.warranted _ _ hget hexecutable happroved
          rw [show (rerunning pair.2 result).approvalState = .approved from happroved]
          exact nofun
        unfold present
        split
        · next hr => exact hshow.aside (by rw [← congrArg Prod.snd hr]; exact aside_publish _ _ _ _ _ _)
        · next hr => exact hshow.aside (by rw [← congrArg Prod.snd hr]; exact aside_publish _ _ _ _ _ _)

theorem Secure.rerun (h : s.Secure accepted) (journeyId : String) (principal : TrustedJourneyPrincipal)
    (revisionId digest : String) (handoff : Handoff) (authorizedAt startedAt endedAt : Moment) :
    (s.rerun bounds journeyId principal revisionId digest handoff authorizedAt startedAt endedAt).2.Secure
      accepted := by
  rw [Coordinator.rerun]
  split
  · exact h
  · next predecessor successor hauthorized =>
    obtain ⟨hget, -⟩ := authorized_eq_ok hauthorized
    split
    · exact h
    · next hexact =>
      obtain ⟨hexecutable, happroved⟩ := not_or.mp hexact
      have hexecutable := not_not.mp hexecutable
      have happroved := not_not.mp happroved
      split
      · exact h
      · next hmatch =>
        obtain ⟨hid, hdigest⟩ := not_or.mp hmatch
        have hfirst := aside_publish bounds journeyId { successor with executionState := .authorizedHandoff }
          ⟨.executionAuthorized, .execution, .authorized, false, "EXACT_DIGEST_EXECUTION_AUTHORIZED",
            "liveJourney.event.executionAuthorized"⟩ authorizedAt s
        split
        · next hr => exact h.aside (congrArg Prod.snd hr ▸ hfirst)
        · next s₁ hr =>
          rw [hr] at hfirst
          have hsecond := hfirst.trans (aside_publish bounds journeyId
            { successor with executionState := .running }
            ⟨.executionStarted, .execution, .started, false, "EXISTING_EXECUTION_AUTHORITY_STARTED",
              "liveJourney.event.executionStarted"⟩ startedAt s₁)
          split
          · next hr => exact h.aside (congrArg Prod.snd hr ▸ hsecond)
          · next s₂ hr =>
            rw [hr] at hsecond
            have hs₂ := h.aside hsecond
            have hget₂ : s₂.journeys.get? journeyId = some (predecessor, successor) := by
              rw [hsecond.journeys]
              exact hget
            have hhanded : Secure accepted
                { s₂ with handoffs := s₂.handoffs ++ [(revisionId, digest)] } := by
              refine ⟨hs₂.provided, hs₂.rests, hs₂.current, hs₂.warranted, fun p hp => ?_⟩
              rcases List.mem_append.mp hp with hp | hp
              · exact hs₂.handoffs p hp
              · cases List.mem_singleton.mp hp
                rw [not_not.mp hid, not_not.mp hdigest]
                exact h.warranted _ _ hget hexecutable happroved
            exact hhanded.rerunEnded hget₂ hexecutable happroved principal endedAt handoff

theorem Secure.command (h : s.Secure accepted) (hsound : s.Sound bounds c) :
    (s.command bounds c).2.Secure (match (s.command bounds c).1 with
      | .ok () => accepted ++ [c]
      | .error _ => accepted) := by
  by_cases hc : c.tells = true
  · exact h.tells hc hsound
  · have hkeep : (s.command bounds c).2.Secure accepted := by
      cases c with
      | unregisterLive => exact h.unregisterLive _ _
      | rerun => exact h.rerun _ _ _ _ _ _ _ _
      | _ => exact absurd rfl hc
    split
    · exact hkeep.mono (List.subset_append_left _ _)
    · exact hkeep

/-- One of the four commands is atomic, if it is sound. -/
theorem Secure.atomic (h : s.Secure accepted) (hc : c.tells = true) (hsound : s.Sound bounds c) :
    s.Atomic bounds c := by
  rcases sound_cases h.provided hc hsound with
    ⟨f, hcommand⟩ | ⟨base, principal, predecessor, successor, e, hp, hok, haside, hlog, hscope⟩
  · refine ⟨fun _ _ => ?_, fun hok => ?_⟩
    · rw [hcommand]
      exact ⟨rfl, rfl, rfl, rfl⟩
    · rw [hcommand] at hok
      cases hok
  · refine ⟨fun f hf => ?_, fun _ => ⟨e, (predecessor, successor), hlog, ?_, hscope⟩⟩
    · rw [hok] at hf
      cases hf
    · rw [haside.journeys]
      exact Dict.get?_set_self _ _ _

end Runs

end Coordinator

/-! ### Runs -/

/-- Every command of a run is sound when it is called. -/
def SoundCall [TextTables] (bounds : Bounds) (w : World) : Call → Prop
  | .command c => w.service.Sound bounds c
  | _ => True

/-- Rejected revisions rest, and the execution authority was called for what was
registered as approved or approved. -/
structure World.Secured (w : World) : Prop where
  rests : Coordinator.Rests w.service.shown
  handoffs : ∀ p ∈ w.service.handoffs, ∃ c ∈ w.accepted, c.Warrants p.1 p.2

section Runs

variable [TextTables] {bounds : Bounds} {w : World}

theorem secure_run (h : Run bounds (SoundCall bounds) w) : w.service.Secure w.accepted := by
  induction h with
  | start =>
    have hnone : ∀ journeyId pair, ({} : World).service.journeys.get? journeyId = some pair → False := by
      intro journeyId pair hget
      cases (Dict.get?_empty).symm.trans hget
    exact ⟨fun _ _ hget => (hnone _ _ hget).elim, ⟨fun _ hp => (nomatch hp), List.Pairwise.nil⟩,
      fun _ _ hget => (hnone _ _ hget).elim, fun _ _ hget => (hnone _ _ hget).elim,
      fun _ hp => (nomatch hp)⟩
  | call c _ hsound ih =>
    cases c with
    | command c => exact ih.command hsound
    | _ => exact ih.aside ⟨rfl, rfl, rfl, rfl⟩

/-- **In every run of sound commands**, rejected revisions rest, executions are
warranted, and a sound command is atomic with its event. -/
theorem commands_atomic (h : Run bounds (SoundCall bounds) w) : w.Secured
    ∧ ∀ c : Command, c.tells = true → w.service.Sound bounds c → w.service.Atomic bounds c := by
  have hsecure := secure_run h
  exact ⟨⟨hsecure.rests, hsecure.handoffs⟩, fun c hc hsound => hsecure.atomic hc hsound⟩

end Runs

/-! ### A registration that is left behind -/

namespace Sample

/-- A seed with a number of evidence IDs. -/
def seed (evidence : Nat) : LiveJourneySeed where
  journeyId := "journey-1"
  tenantId := "tenant"
  securityDomain := "domain"
  canonicalWorkflowRevisionId := "revision-1"
  canonicalDigest := String.ofList (List.replicate 64 '0')
  approvalId := "approval"
  objective := "objective"
  taskIds := []
  sharedSnapshotId := "snapshot"
  graphSnapshotId := "graph"
  platformExecutionIdentity := "execution"
  placementDecisionId := "placement"
  evidenceIds := List.replicate evidence "e"
  citations := []
  outcome := ⟨"outcome", .succeeded, "summary", "metric"⟩
  answer := "answer"

def registration (evidence : Nat) : Command :=
  .registerLive (seed evidence) ⟨hour 1, clock (hour 1)⟩

def registered (evidence : Nat) : JourneyRevision where
  revision := 1
  predecessorRevisionId := none
  objective := "objective"
  lifecycle := .executable
  approvalState := .approved
  identity := (seed evidence).identity
  planTaskIds := []
  matchState := .matched
  placementState := .placed
  knowledgeState := "AVAILABLE"
  executionState := .succeeded
  answer := some "answer"
  citations := []
  outcome := some ⟨"outcome", .succeeded, "summary", "metric"⟩
  limitationCodes := []

theorem revision_registration {evidence : Nat}
    (hids : @identifiers TextTables.ascii "INVALID_LIVE_AUTHORITY_IDENTITY" (["journey-1", "tenant",
      "domain", "revision-1", "approval", "snapshot", "graph", "execution", "placement"]
        ++ List.replicate evidence "e") = .ok ()) :
    @LiveJourneySeed.revision TextTables.ascii (seed evidence) = .ok (registered evidence) := by
  let tables := TextTables.ascii
  have hprovenance : ¬ (seed evidence).provenance ≠ "LIVE_EXECUTION" := not_not.mpr rfl
  have hdigest : ¬ isHex64 (seed evidence).canonicalDigest = false := by
    have hhex : isHex64 (String.ofList (List.replicate 64 '0')) = true := by
      decide +kernel
    exact fun h => Bool.noConfusion (hhex.symm.trans h)
  unfold LiveJourneySeed.revision
  rw [if_neg hprovenance, if_neg hdigest]
  generalize hresult : identifiers "INVALID_LIVE_AUTHORITY_IDENTITY" _ = result
  rw [show result = .ok () from hresult.symm.trans hids]
  rfl

def registeredFields (evidence sequence : Nat) : EventFields :=
  @eventFields TextTables.ascii "journey-1" (registered evidence) ⟨.journeyRegistered, .journey,
    .registered, false, "JOURNEY_REGISTERED", "liveJourney.event.journeyRegistered"⟩ sequence (hour 1)

theorem registration_refused :
    (@Coordinator.command TextTables.ascii {} ({} : World).service (registration 65)).1
        = .error .validation
      ∧ (@Coordinator.command TextTables.ascii {} ({} : World).service
        (registration 65)).2.journeys.get? "journey-1" = some (none, registered 65) := by
  have hinvalid : ∀ sequence, (registeredFields 65 sequence).valid = false := by
    intro sequence
    rw [EventFields.valid, JourneyEventPayload.valid]
    have hmany : decide ((registeredFields 65 sequence).payload.evidenceIds.length ≤ 64) = false := rfl
    rw [hmany]
    simp only [Bool.false_and, Bool.and_false]
  have hids : @LiveJourneySeed.revision TextTables.ascii (seed 65) = .ok (registered 65) :=
    revision_registration (by decide +kernel)
  exact @Coordinator.registerLive_of_invalid TextTables.ascii _ _ _ ⟨hour 1, clock (hour 1)⟩ _ hids hinvalid

/-- A registration that raises leaves its journey behind. -/
theorem registration_left_behind : ¬ ∀ (bounds : Bounds) (w : World),
    @Run TextTables.ascii bounds (fun _ _ => True) w → ∀ c : Command, c.tells = true →
      @Coordinator.Atomic TextTables.ascii bounds w.service c := by
  intro h
  obtain ⟨hfailed, hleft⟩ := registration_refused
  exact @Coordinator.not_atomic TextTables.ascii _ _ _ _ _ _ hfailed hleft rfl
    (h {} {} (@Run.start TextTables.ascii _ _) (registration 65) rfl)

theorem valid_registeredFields : (registeredFields 0 1).valid = true := by
  simp only [EventFields.valid, JourneyEventPayload.valid, Json.utf8ByteSize_dumps]
  decide +kernel

theorem publications_registration : @Coordinator.publications TextTables.ascii {} {} (registration 0)
    = [⟨{}, clock (hour 1), registeredFields 0 1⟩] := by
  have hrevision : @LiveJourneySeed.revision TextTables.ascii (seed 0) = .ok (registered 0) :=
    revision_registration (by decide +kernel)
  obtain ⟨base, hbroker, hsequences, hpublications⟩ := @Coordinator.publications_registerLive
    TextTables.ascii {} {} _ ⟨hour 1, clock (hour 1)⟩ _ hrevision
  refine hpublications.trans (congrArg (fun a => [a]) ?_)
  unfold Coordinator.attempt
  rw [hbroker, hsequences]
  rfl

/-- `commands_atomic` after a registration. -/
theorem commands_atomic_of_registration :
    (@World.after TextTables.ascii {} {} (.command (registration 0))).Secured := by
  let tables := TextTables.ascii
  have hrun : Run {} (SoundCall {}) (({} : World).after {} (.command (registration 0))) := by
    refine .call _ .start ⟨fun _ a ha => ?_, trivial, ?_⟩
    · rw [show Coordinator.publications {} ({} : World).service (registration 0) = _ from
        publications_registration] at ha
      cases List.mem_singleton.mp ha
      exact ⟨⟨registeredFields 0 1, valid_registeredFields⟩, JourneyEventEnvelope.create_eq_some.mpr rfl,
        ⟨by decide, by decide⟩, rfl, .inl (by decide)⟩
    · rintro ⟨r, hr, -⟩
      cases hr
  exact (commands_atomic hrun).1

end Sample

end Journey

end AgentPlatform
