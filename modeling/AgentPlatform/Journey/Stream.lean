/-
AgentPlatform/Journey/Stream.lean

The process-local broker of journey events (`live_journey_stream.py`): buffers
with retention, and subscriptions with their queues.

A call that raises may have changed the broker before, so that a call returns
its result and the broker. The clock answers anything; `cutoff` is `None` where
`now - retention` is out of range. A queue is the number of its subscription.

`Buffer.Retained` and `JourneySubscription.Consecutive` are what the
broker keeps.
-/
import AgentPlatform.Journey.Schemas
import AgentPlatform.Py.Dict

namespace AgentPlatform

open Py

namespace Journey

/-! ### State -/

inductive StreamFailure
  | bufferLimit
  | conflictingEventId
  | eventAfterTerminal
  | eventSequenceInvalid
  | subscriberBackpressure
  | resumeUnavailable
  | subscriberLimit
  /-- `OverflowError` of `now - retention`. -/
  | overflow
  /-- `IndexError` of `popleft` on an empty deque. -/
  | emptyDeque
  deriving DecidableEq

structure JourneyStreamScope where
  tenantId : String
  securityDomain : String
  journeyId : String
  deriving DecidableEq

def JourneyEventEnvelope.scope (e : JourneyEventEnvelope) : JourneyStreamScope :=
  ⟨e.identity.tenantId, e.identity.securityDomain, e.journeyId⟩

structure Buffer where
  events : List JourneyEventEnvelope := []
  serialized : Dict String String := .empty
  nextSequence : Nat := 1
  terminal : Bool := false
  subscribers : List Nat := []

/-- A buffer with one more event. -/
def Buffer.extend (b : Buffer) (e : JourneyEventEnvelope) : Buffer :=
  { b with
    events := b.events ++ [e]
    serialized := b.serialized.set e.eventId (serializeEnvelope e)
    nextSequence := b.nextSequence + 1
    terminal := e.terminal }

/-- A subscription with its queue. `received` is what its reader has been given,
`start` the number of the first event that it is to be given, and `resumed` that
of the event after which it was opened. -/
structure JourneySubscription where
  scope : JourneyStreamScope
  replay : List JourneyEventEnvelope
  queue : List JourneyEventEnvelope := []
  closed : Bool := false
  received : List JourneyEventEnvelope := []
  start : Nat
  resumed : Option Nat

/-- `asyncio.Queue(maxsize=256)`. -/
def queueSize : Nat := 256

inductive StreamEvent
  | accepted (e : JourneyEventEnvelope)
  | cleared (scope : JourneyStreamScope)

/-- A broker. No call reads `log`: it holds what has been accepted and cleared. -/
structure Broker where
  buffers : Dict JourneyStreamScope Buffer := .empty
  subscriptions : List JourneySubscription := []
  log : List StreamEvent := []

/-- The bounds of a broker; the retention in microseconds. -/
structure Bounds where
  maxJourneys : Int := 64
  maxEvents : Int := 256
  retention : Int := 900000000
  maxSubscribers : Int := 8

/-- What the clock answers: at the publication or subscription, and where the
buffers of other scopes are pruned. -/
structure Clock where
  now : Datetime
  pruning : JourneyStreamScope → Datetime

/-- How a publication ends that does not raise. -/
inductive Published
  | appended
  | duplicate
  deriving DecidableEq

/-! ### Retention -/

namespace Bounds

variable (bounds : Bounds)

/-- `now - retention`. -/
def cutoff (now : Datetime) : Option Datetime := now.addMicros (-bounds.retention)

def kept (cutoff : Datetime) (events : List JourneyEventEnvelope) : List JourneyEventEnvelope :=
  let recent := events.dropWhile fun e => e.occurredAt ≤ cutoff
  recent.drop (recent.length - bounds.maxEvents.toNat)

def prune (now : Datetime) (b : Buffer) : Except StreamFailure Unit × Buffer :=
  match bounds.cutoff now with
  | none => (.error .overflow, b)
  | some cutoff =>
    let events := bounds.kept cutoff b.events
    let removed := b.events.take (b.events.length - events.length)
    (if bounds.maxEvents < 0 then .error .emptyDeque else .ok (),
      { b with events, serialized := b.serialized.popAll (removed.map (·.eventId)) })

/-! ### Publishing -/

/-- The loop over the buffers that may be evicted. -/
def evict (clock : Clock) :
    List (JourneyStreamScope × Buffer) →
      Except StreamFailure Unit × List (JourneyStreamScope × Buffer)
  | [] => (.ok (), [])
  | (scope, b) :: rest =>
    match bounds.prune (clock.pruning scope) b with
    | (.error f, b') => (.error f, (scope, b') :: rest)
    | (.ok (), b') =>
      let (result, rest') := evict clock rest
      (result, if b'.events = [] ∧ b'.subscribers = [] then rest' else (scope, b') :: rest')

theorem keys_evict (clock : Clock) (entries : List (JourneyStreamScope × Buffer)) :
    ((bounds.evict clock entries).2.map Prod.fst).Sublist (entries.map Prod.fst) := by
  induction entries with
  | nil => exact List.Sublist.refl _
  | cons e rest ih =>
    obtain ⟨scope, b⟩ := e
    rw [evict]
    split
    · exact List.Sublist.refl _
    · dsimp only
      split
      · exact ih.cons _
      · exact ih.cons_cons _

/-- Give an event to the queues of the subscribers. -/
def deliver (e : JourneyEventEnvelope) (queues : List Nat) (subscriptions : List JourneySubscription) :
    List JourneySubscription :=
  subscriptions.mapIdx fun i sub => if i ∈ queues then { sub with queue := sub.queue ++ [e] } else sub

/-- A queue has no room. -/
def full (subscriptions : List JourneySubscription) (i : Nat) : Bool :=
  subscriptions[i]?.any fun sub => queueSize ≤ sub.queue.length

/-- `publish` from the buffer of the scope on. -/
def append (clock : Clock) (e : JourneyEventEnvelope) (b : Buffer) (s : Broker) :
    Except StreamFailure Published × Broker :=
  match b.serialized.get? e.eventId with
  | some duplicate =>
    (if duplicate = serializeEnvelope e then .ok .duplicate else .error .conflictingEventId, s)
  | none =>
    if b.terminal = true then (.error .eventAfterTerminal, s)
    else if e.sequence ≠ b.nextSequence then (.error .eventSequenceInvalid, s)
    else if b.subscribers.any (full s.subscriptions) then (.error .subscriberBackpressure, s)
    else
      match bounds.prune clock.now (b.extend e) with
      | (.error f, pruned) => (.error f, { s with buffers := s.buffers.set e.scope pruned })
      | (.ok (), pruned) =>
        (.ok .appended, {
          buffers := (s.buffers.set e.scope pruned).moveToEnd e.scope
          subscriptions := deliver e b.subscribers s.subscriptions
          log := s.log ++ [.accepted e] })

def publish (clock : Clock) (e : JourneyEventEnvelope) (s : Broker) :
    Except StreamFailure Published × Broker :=
  match s.buffers.get? e.scope with
  | some b => bounds.append clock e b s
  | none =>
    if bounds.maxJourneys ≤ s.buffers.size then
      let evicted := s.buffers.restrict (bounds.evict clock s.buffers.entries).2
        (bounds.keys_evict clock s.buffers.entries)
      match (bounds.evict clock s.buffers.entries).1 with
      | .error f => (.error f, { s with buffers := evicted })
      | .ok () =>
        if bounds.maxJourneys ≤ evicted.size then (.error .bufferLimit, { s with buffers := evicted })
        else bounds.append clock e {} { s with buffers := evicted.set e.scope {} }
    else bounds.append clock e {} { s with buffers := s.buffers.set e.scope {} }

/-! ### Subscriptions -/

def replayAndSubscribe (clock : Clock) (scope : JourneyStreamScope) (lastEventId : Option String)
    (s : Broker) : Except StreamFailure Nat × Broker :=
  match s.buffers.get? scope with
  | none => (.error .resumeUnavailable, s)
  | some b =>
    match bounds.prune clock.now b with
    | (.error f, b) => (.error f, { s with buffers := s.buffers.set scope b })
    | (.ok (), b) =>
      let s := { s with buffers := s.buffers.set scope b }
      if bounds.maxSubscribers ≤ b.subscribers.length then (.error .subscriberLimit, s)
      else
        let open_ (replay : List JourneyEventEnvelope) (resumed : Option Nat) :
            Except StreamFailure Nat × Broker :=
          let queue := s.subscriptions.length
          (.ok queue, {
            s with
            buffers := (s.buffers.set scope
              { b with subscribers := b.subscribers ++ [queue] }).moveToEnd scope
            subscriptions := s.subscriptions ++
              [{ scope, replay, start := b.nextSequence - replay.length, resumed }] })
        match lastEventId with
        | none => open_ b.events none
        | some id =>
          match b.events.dropWhile fun e => e.eventId ≠ id with
          | [] => (.error .resumeUnavailable, s)
          | last :: rest => open_ rest (some last.sequence)

end Bounds

/-- One step of the reader of a subscription: the next event, if there is one. -/
def JourneySubscription.read (sub : JourneySubscription) : JourneySubscription :=
  match sub.replay with
  | e :: replay => { sub with replay, received := sub.received ++ [e] }
  | [] =>
    if sub.closed then sub
    else
      match sub.queue with
      | e :: queue => { sub with queue, received := sub.received ++ [e] }
      | [] => sub

namespace Broker

/-- The reader of a subscription goes on. -/
def read (i : Nat) (s : Broker) : Broker :=
  { s with subscriptions := s.subscriptions.modify i JourneySubscription.read }

def unsubscribe (scope : JourneyStreamScope) (i : Nat) (s : Broker) : Broker :=
  match s.buffers.get? scope with
  | none => s
  | some b =>
    { s with buffers := s.buffers.set scope { b with subscribers := b.subscribers.filter (· ≠ i) } }

/-- `close` of a subscription. -/
def close (i : Nat) (s : Broker) : Broker :=
  match s.subscriptions[i]? with
  | none => s
  | some sub =>
    if sub.closed then s
    else
      unsubscribe sub.scope i
        { s with subscriptions := s.subscriptions.modify i ({ · with closed := true }) }

def nextSequence (scope : JourneyStreamScope) (s : Broker) : Nat :=
  match s.buffers.get? scope with
  | none => 1
  | some b => b.nextSequence

def clearScope (scope : JourneyStreamScope) (s : Broker) : Bool × Broker :=
  match s.buffers.get? scope with
  | none => (false, s)
  | some _ => (true, { s with buffers := s.buffers.pop scope, log := s.log ++ [.cleared scope] })

end Broker

/-! ### Consecutive numbers -/

/-- Events with consecutive numbers, from `start` on. -/
def Numbered (start : Nat) (events : List JourneyEventEnvelope) : Prop :=
  events.map (·.sequence) = List.range' start events.length

theorem numbered_nil (start : Nat) : Numbered start [] := rfl

theorem numbered_append {start : Nat} {first second : List JourneyEventEnvelope} :
    Numbered start (first ++ second)
      ↔ Numbered start first ∧ Numbered (start + first.length) second := by
  rw [Numbered, List.map_append, List.length_append, ← List.range'_append_1]
  constructor
  · intro h
    exact List.append_inj h (by simp)
  · rintro ⟨hfirst, hsecond⟩
    rw [hfirst, hsecond]

theorem numbered_singleton {start : Nat} {e : JourneyEventEnvelope} :
    Numbered start [e] ↔ e.sequence = start := by
  simp [Numbered]

/-! ### What the broker keeps -/

/-- The retained events have consecutive numbers that end before the next one, and
`serialized` holds exactly their IDs, with their texts. -/
structure Buffer.Retained (b : Buffer) : Prop where
  short : b.events.length < b.nextSequence
  numbered : Numbered (b.nextSequence - b.events.length) b.events
  serialized : b.serialized.keys = b.events.map (·.eventId)
  texts : ∀ id text, b.serialized.get? id = some text →
    ∃ e ∈ b.events, e.eventId = id ∧ text = serializeEnvelope e

/-- What a reader has been given, is still to be given, and finds in its queue. -/
def JourneySubscription.events (sub : JourneySubscription) : List JourneyEventEnvelope :=
  sub.received ++ sub.replay ++ sub.queue

/-- The reader is given consecutive numbers, right after the event from which it
resumed. -/
structure JourneySubscription.Consecutive (sub : JourneySubscription) : Prop where
  numbered : Numbered sub.start sub.events
  resumed : ∀ n, sub.resumed = some n → sub.start = n + 1

def Broker.Waits (s : Broker) (scope : JourneyStreamScope) (b : Buffer) (i : Nat) : Prop :=
  ∃ sub, s.subscriptions[i]? = some sub ∧ sub.scope = scope
    ∧ sub.start + sub.events.length = b.nextSequence

structure Broker.Valid (s : Broker) : Prop where
  retained : ∀ scope b, s.buffers.get? scope = some b → b.Retained
  consecutive : ∀ sub ∈ s.subscriptions, sub.Consecutive
  waits : ∀ scope b, s.buffers.get? scope = some b → ∀ i ∈ b.subscribers, s.Waits scope b i

/-! ### Retention -/

namespace Bounds

variable {bounds : Bounds} {now cutoff : Datetime} {clock : Clock} {b : Buffer}
  {e : JourneyEventEnvelope} {s : Broker}

theorem kept_suffix (bounds : Bounds) (cutoff : Datetime) (events : List JourneyEventEnvelope) :
    bounds.kept cutoff events <:+ events :=
  (List.drop_suffix _ _).trans (List.dropWhile_suffix _)

/-- What pruning does not touch. -/
structure Alike (b b' : Buffer) : Prop where
  nextSequence : b'.nextSequence = b.nextSequence
  terminal : b'.terminal = b.terminal
  subscribers : b'.subscribers = b.subscribers

/-- **Retention removes the oldest events.** -/
theorem prune_spec (bounds : Bounds) (now : Datetime) (h : b.Retained) :
    (bounds.prune now b).2.Retained ∧ Alike b (bounds.prune now b).2 := by
  rw [prune]
  split
  · exact ⟨h, rfl, rfl, rfl⟩
  · next cutoff _ =>
    obtain ⟨removed, hremoved⟩ := bounds.kept_suffix cutoff b.events
    have hlength : b.events.length = removed.length + (bounds.kept cutoff b.events).length := by
      rw [← hremoved, List.length_append, hremoved]
    have htake : b.events.take (b.events.length - (bounds.kept cutoff b.events).length) = removed := by
      rw [hlength, Nat.add_sub_cancel, ← hremoved]
      exact List.take_left
    refine ⟨⟨?_, ?_, ?_, fun id text hid => ?_⟩, rfl, rfl, rfl⟩
    · have := h.short
      show (bounds.kept cutoff b.events).length < b.nextSequence
      omega
    · have hnumbered := h.numbered
      rw [← hremoved, numbered_append] at hnumbered
      have hstart : b.nextSequence - (bounds.kept cutoff b.events).length
          = b.nextSequence - (removed ++ bounds.kept cutoff b.events).length + removed.length := by
        have := h.short
        rw [List.length_append]
        omega
      show Numbered (b.nextSequence - (bounds.kept cutoff b.events).length) (bounds.kept cutoff b.events)
      rw [hstart]
      exact hnumbered.2
    · show (b.serialized.popAll _).keys = (bounds.kept cutoff b.events).map (·.eventId)
      have hkeys : (removed ++ bounds.kept cutoff b.events).map (·.eventId) = b.serialized.keys := by
        rw [hremoved, h.serialized]
      have hnodup : ((removed ++ bounds.kept cutoff b.events).map (·.eventId)).Nodup := by
        rw [hkeys]
        exact b.serialized.nodup
      rw [htake, Dict.keys_popAll, ← hkeys, List.map_append, List.filter_append]
      rw [List.map_append] at hnodup
      have hdisjoint := List.disjoint_of_nodup_append hnodup
      rw [List.filter_eq_nil_iff.mpr, List.nil_append, List.filter_eq_self.mpr]
      · intro id hid
        exact decide_eq_true fun hmem => hdisjoint hmem hid
      · intro id hid
        simpa using List.mem_map.mp hid
    · rw [Dict.get?_eq_some, Dict.entries_popAll, List.mem_filter, htake] at hid
      obtain ⟨e, he, heq, htext⟩ := h.texts id text (Dict.get?_eq_some.mpr hid.1)
      rw [← hremoved, List.mem_append] at he
      rcases he with he | he
      · exact absurd (heq ▸ List.mem_map_of_mem he) (of_decide_eq_true hid.2)
      · exact ⟨e, he, heq, htext⟩

/-- Pruning succeeds: the cutoff is in range, and so is the bound. -/
def Prunes (bounds : Bounds) (now : Datetime) : Prop :=
  (bounds.cutoff now).isSome = true ∧ 0 ≤ bounds.maxEvents

theorem prune_eq_ok (h : bounds.Prunes now) (b : Buffer) : (bounds.prune now b).1 = .ok () := by
  obtain ⟨cutoff, hcutoff⟩ := Option.isSome_iff_exists.mp h.1
  simp only [prune, hcutoff]
  exact if_neg (not_lt.mpr h.2)

/-! ### Publications -/

/-- The event passes the checks of `publish`. -/
structure Admitted (s : Broker) (b : Buffer) (e : JourneyEventEnvelope) : Prop where
  fresh : b.serialized.get? e.eventId = none
  open_ : b.terminal = false
  sequence : e.sequence = b.nextSequence
  room : b.subscribers.any (full s.subscriptions) = false

/-- The broker after an event has been appended. -/
def appended (bounds : Bounds) (clock : Clock) (e : JourneyEventEnvelope) (b : Buffer) (s : Broker) :
    Broker where
  buffers := (s.buffers.set e.scope (bounds.prune clock.now (b.extend e)).2).moveToEnd e.scope
  subscriptions := deliver e b.subscribers s.subscriptions
  log := s.log ++ [.accepted e]

/-- **The ends of a publication** to a buffer. -/
theorem append_cases (bounds : Bounds) (clock : Clock) (e : JourneyEventEnvelope) (b : Buffer)
    (s : Broker) :
    ((bounds.append clock e b s).2 = s ∧ (bounds.append clock e b s).1 ≠ .ok .appended
        ∧ ¬ Admitted s b e
        ∧ ((bounds.append clock e b s).1 = .error .eventSequenceInvalid → e.sequence ≠ b.nextSequence)
        ∧ ((bounds.append clock e b s).1 = .ok .duplicate →
          b.serialized.get? e.eventId = some (serializeEnvelope e)))
      ∨ (Admitted s b e ∧ bounds.append clock e b s = (.ok .appended, bounds.appended clock e b s))
      ∨ (Admitted s b e ∧ ¬ bounds.Prunes clock.now ∧ (∃ f, f ≠ .eventSequenceInvalid
        ∧ bounds.append clock e b s = (.error f, {
            s with buffers := s.buffers.set e.scope (bounds.prune clock.now (b.extend e)).2 }))) := by
  rw [append]
  split
  · next duplicate hduplicate =>
    refine .inl ⟨rfl, ?_, ?_, ?_, ?_⟩
    · dsimp only
      split <;> (intro h; cases h)
    · intro h
      rw [h.fresh] at hduplicate
      cases hduplicate
    · dsimp only
      split <;> (intro h; cases h)
    · dsimp only
      split
      · next heq => exact fun _ => heq ▸ hduplicate
      · exact fun h => by cases h
  · next hfresh =>
    split
    · next hterminal =>
      refine .inl ⟨rfl, ?_, fun h => Bool.noConfusion (hterminal.symm.trans h.open_), ?_, ?_⟩ <;>
        (intro h; cases h)
    · next hterminal =>
      split
      · next hsequence =>
        refine .inl ⟨rfl, ?_, fun h => hsequence h.sequence, fun _ => hsequence, ?_⟩ <;>
          (intro h; cases h)
      · next hsequence =>
        split
        · next hfull =>
          refine .inl ⟨rfl, ?_, fun h => Bool.noConfusion (hfull.symm.trans h.room), ?_, ?_⟩ <;>
            (intro h; cases h)
        · next hfull =>
          have hadmitted : Admitted s b e :=
            ⟨hfresh, eq_false_of_ne_true hterminal, not_not.mp hsequence, eq_false_of_ne_true hfull⟩
          split
          · next f pruned hprune =>
            refine .inr (.inr ⟨hadmitted, ?_, f, ?_, ?_⟩)
            · intro hprunes
              have := prune_eq_ok hprunes (b.extend e)
              rw [hprune] at this
              cases this
            · rintro rfl
              rw [prune] at hprune
              split at hprune
              · cases hprune
              · dsimp only at hprune
                split at hprune <;> cases hprune
            · rw [hprune]
          · next pruned hprune =>
            refine .inr (.inl ⟨hadmitted, ?_⟩)
            rw [appended, hprune]

theorem extend_retained (h : b.Retained) (ha : Admitted s b e) : (b.extend e).Retained := by
  have hshort := h.short
  refine ⟨?_, ?_, ?_, fun id text hid => ?_⟩
  · show (b.events ++ [e]).length < b.nextSequence + 1
    rw [List.length_append, List.length_singleton]
    omega
  · show Numbered (b.nextSequence + 1 - (b.events ++ [e]).length) (b.events ++ [e])
    have hstart : b.nextSequence + 1 - (b.events ++ [e]).length = b.nextSequence - b.events.length := by
      rw [List.length_append, List.length_singleton]
      omega
    rw [hstart, numbered_append, numbered_singleton, ha.sequence]
    exact ⟨h.numbered, by omega⟩
  · show (b.serialized.set e.eventId _).keys = (b.events ++ [e]).map (·.eventId)
    rw [Dict.keys, Dict.entries_set_of_new ha.fresh, List.map_append, List.map_append, ← h.serialized]
    rfl
  · rw [show (b.extend e).serialized = b.serialized.set e.eventId (serializeEnvelope e) from rfl,
      Dict.get?_set] at hid
    split at hid
    · next heq => exact ⟨e, List.mem_append_right _ List.mem_cons_self, heq, (Option.some.inj hid).symm⟩
    · obtain ⟨e', he', hrest⟩ := h.texts id text hid
      exact ⟨e', List.mem_append_left _ he', hrest⟩

theorem sequence_lt (h : b.Retained) {e : JourneyEventEnvelope} (he : e ∈ b.events) :
    e.sequence < b.nextSequence := by
  have hmem : e.sequence ∈ b.events.map (·.sequence) := List.mem_map_of_mem he
  rw [h.numbered, List.mem_range'_1] at hmem
  have := h.short
  omega

theorem getElem?_deliver (e : JourneyEventEnvelope) (queues : List Nat)
    (subscriptions : List JourneySubscription) (i : Nat) :
    (deliver e queues subscriptions)[i]? = subscriptions[i]?.map fun sub =>
      if i ∈ queues then { sub with queue := sub.queue ++ [e] } else sub := by
  rw [deliver, List.getElem?_mapIdx]

end Bounds

namespace Broker

variable {s : Broker} {bounds : Bounds} {clock : Clock} {scope : JourneyStreamScope} {b : Buffer}
  {e : JourneyEventEnvelope} {i : Nat}

theorem Valid.put (h : s.Valid) {buffers : Dict JourneyStreamScope Buffer} {log : List StreamEvent}
    (hget : ∀ scope', buffers.get? scope' = if scope = scope' then some b else s.buffers.get? scope')
    (hb : b.Retained) (hwaits : ∀ i ∈ b.subscribers, s.Waits scope b i) :
    Valid ⟨buffers, s.subscriptions, log⟩ := by
  refine ⟨fun scope' b' hb' => ?_, h.consecutive, fun scope' b' hb' => ?_⟩
  · rw [hget] at hb'
    split at hb'
    · cases hb'
      exact hb
    · exact h.retained scope' b' hb'
  · rw [hget] at hb'
    split at hb'
    · next heq =>
      cases hb'
      exact heq ▸ hwaits
    · exact h.waits scope' b' hb'

/-- A subscription is waiting for one buffer only. -/
theorem Waits.scope_eq {scope' : JourneyStreamScope} {b' : Buffer} (h : s.Waits scope b i)
    (h' : s.Waits scope' b' i) : scope = scope' := by
  obtain ⟨sub, hsub, hscope, -⟩ := h
  obtain ⟨sub', hsub', hscope', -⟩ := h'
  rw [hsub] at hsub'
  cases hsub'
  exact hscope.symm.trans hscope'

theorem Waits.alike {b' : Buffer} (h : s.Waits scope b i) (ha : Bounds.Alike b b') :
    s.Waits scope b' i := by
  obtain ⟨sub, hsub, hscope, hlength⟩ := h
  exact ⟨sub, hsub, hscope, hlength.trans ha.nextSequence.symm⟩

/-! ### Publications -/

theorem Valid.appended (h : s.Valid) (hget : s.buffers.get? e.scope = some b)
    (ha : Bounds.Admitted s b e) : (bounds.appended clock e b s).Valid := by
  have hextend := Bounds.extend_retained (h.retained _ _ hget) ha
  obtain ⟨hretained, halike⟩ := bounds.prune_spec clock.now hextend
  have hgets : ∀ scope', (bounds.appended clock e b s).buffers.get? scope'
      = if e.scope = scope' then some (bounds.prune clock.now (b.extend e)).2
        else s.buffers.get? scope' := by
    intro scope'
    rw [Bounds.appended, Dict.get?_moveToEnd, Dict.get?_set]
  have hsubs : ∀ i, (bounds.appended clock e b s).subscriptions[i]? = _ :=
    Bounds.getElem?_deliver e b.subscribers s.subscriptions
  refine ⟨fun scope' b' hb' => ?_, fun sub hsub => ?_, fun scope' b' hb' i hi => ?_⟩
  · rw [hgets] at hb'
    split at hb'
    · cases hb'
      exact hretained
    · exact h.retained scope' b' hb'
  · obtain ⟨i, hi⟩ := List.mem_iff_getElem?.mp hsub
    rw [hsubs] at hi
    obtain ⟨sub₀, hsub₀, heq⟩ := Option.map_eq_some_iff.mp hi
    have hconsecutive := h.consecutive sub₀ (List.mem_iff_getElem?.mpr ⟨i, hsub₀⟩)
    split at heq
    · next hmem =>
      obtain ⟨sub₁, hsub₁, -, hnext⟩ := h.waits _ _ hget i hmem
      rw [hsub₀] at hsub₁
      cases hsub₁
      subst heq
      refine ⟨?_, hconsecutive.resumed⟩
      show Numbered sub₀.start (sub₀.received ++ sub₀.replay ++ (sub₀.queue ++ [e]))
      rw [← List.append_assoc, numbered_append, numbered_singleton, ha.sequence]
      exact ⟨hconsecutive.numbered, hnext.symm⟩
    · subst heq
      exact hconsecutive
  · rw [hgets] at hb'
    split at hb'
    · next hscope =>
      subst hscope
      cases hb'
      rw [halike.subscribers] at hi
      obtain ⟨sub, hsub, hscope, hnext⟩ := h.waits _ _ hget i hi
      refine ⟨{ sub with queue := sub.queue ++ [e] }, ?_, hscope, ?_⟩
      · have hi' : i ∈ b.subscribers := hi
        rw [hsubs, hsub, Option.map_some, if_pos hi']
      · rw [halike.nextSequence]
        show sub.start + (sub.received ++ sub.replay ++ (sub.queue ++ [e])).length = b.nextSequence + 1
        rw [← List.append_assoc, List.length_append, List.length_singleton, ← hnext]
        rfl
    · next hscope =>
      have hwaits := h.waits scope' b' hb' i hi
      have hi' : i ∉ b.subscribers := fun hmem => hscope ((h.waits _ _ hget i hmem).scope_eq hwaits)
      obtain ⟨sub, hsub, hrest⟩ := hwaits
      refine ⟨sub, ?_, hrest⟩
      rw [hsubs, hsub, Option.map_some, if_neg hi']

/-- A scope without a buffer is given an empty one. -/
theorem Valid.create (h : s.Valid) (scope : JourneyStreamScope) :
    Valid { s with buffers := s.buffers.set scope {} } :=
  h.put (Dict.get?_set _ _ _) ⟨Nat.one_pos, numbered_nil _, rfl, nofun⟩ fun _ hi => nomatch hi

/-! ### Subscriptions -/

/-- What retention has done before a subscription. -/
theorem Valid.pruned (h : s.Valid) (hget : s.buffers.get? scope = some b) (bounds : Bounds)
    (now : Datetime) :
    Valid { s with buffers := s.buffers.set scope (bounds.prune now b).2 } := by
  obtain ⟨hretained, halike⟩ := bounds.prune_spec now (h.retained _ _ hget)
  refine h.put (Dict.get?_set _ _ _) hretained fun i hi => ?_
  rw [halike.subscribers] at hi
  exact (h.waits _ _ hget i hi).alike halike

/-- A new subscription that is to be given the last events of a buffer. -/
theorem Valid.opened (h : s.Valid) (hget : s.buffers.get? scope = some b)
    {skipped replay : List JourneyEventEnvelope} (hevents : skipped ++ replay = b.events)
    {resumed : Option Nat} (hresumed : ∀ n, resumed = some n → skipped.getLast?.map (·.sequence) = some n) :
    Valid {
      s with
      buffers := (s.buffers.set scope
        { b with subscribers := b.subscribers ++ [s.subscriptions.length] }).moveToEnd scope
      subscriptions := s.subscriptions ++
        [{ scope, replay, start := b.nextSequence - replay.length, resumed }] } := by
  have hretained := h.retained _ _ hget
  have hlength : b.events.length = skipped.length + replay.length := by
    rw [← hevents, List.length_append]
  have hshort := hretained.short
  have hnumbered := hretained.numbered
  rw [← hevents, numbered_append, List.length_append] at hnumbered
  have hstart : b.nextSequence - replay.length
      = b.nextSequence - (skipped.length + replay.length) + skipped.length := by
    omega
  have hgets : ∀ scope', ((s.buffers.set scope
      { b with subscribers := b.subscribers ++ [s.subscriptions.length] }).moveToEnd scope).get? scope'
      = if scope = scope' then some { b with subscribers := b.subscribers ++ [s.subscriptions.length] }
        else s.buffers.get? scope' := by
    intro scope'
    rw [Dict.get?_moveToEnd, Dict.get?_set]
  have hkeep : ∀ {scope' b' i}, s.Waits scope' b' i → ∃ sub,
      (s.subscriptions ++ [{ scope, replay, start := b.nextSequence - replay.length, resumed }])[i]?
        = some sub ∧ sub.scope = scope' ∧ sub.start + sub.events.length = b'.nextSequence := by
    rintro scope' b' i ⟨sub, hsub, hrest⟩
    exact ⟨sub, (List.getElem?_append_left (List.getElem?_eq_some_iff.mp hsub).1).trans hsub, hrest⟩
  refine ⟨fun scope' b' hb' => ?_, fun sub hsub => ?_, fun scope' b' hb' i hi => ?_⟩
  · rw [hgets] at hb'
    split at hb'
    · cases hb'
      exact ⟨hretained.short, hretained.numbered, hretained.serialized, hretained.texts⟩
    · exact h.retained scope' b' hb'
  · rcases List.mem_append.mp hsub with hsub | hsub
    · exact h.consecutive sub hsub
    · cases List.mem_singleton.mp hsub
      refine ⟨?_, fun n hn => ?_⟩
      · show Numbered (b.nextSequence - replay.length) ([] ++ replay ++ [])
        rw [List.nil_append, List.append_nil, hstart]
        exact hnumbered.2
      · show b.nextSequence - replay.length = n + 1
        obtain ⟨e, he, hsequence⟩ := Option.map_eq_some_iff.mp (hresumed n hn)
        obtain ⟨init, hinit⟩ := List.getLast?_eq_some_iff.mp he
        have hlast := hnumbered.1
        rw [hinit, numbered_append, numbered_singleton, hsequence] at hlast
        rw [List.length_append, List.length_singleton] at hlast
        rw [hinit, List.length_append, List.length_singleton] at hstart hlength
        omega
  · rw [hgets] at hb'
    split at hb'
    · next hscope =>
      subst hscope
      cases hb'
      rcases List.mem_append.mp hi with hi | hi
      · exact hkeep (h.waits _ _ hget i hi)
      · cases List.mem_singleton.mp hi
        refine ⟨_, List.getElem?_concat_length, rfl, ?_⟩
        show b.nextSequence - replay.length + ([] ++ replay ++ []).length = b.nextSequence
        rw [List.nil_append, List.append_nil]
        omega
    · exact hkeep (h.waits scope' b' hb' i hi)

theorem Valid.replayAndSubscribe (h : s.Valid) (clock : Clock) (scope : JourneyStreamScope)
    (lastEventId : Option String) :
    (bounds.replayAndSubscribe clock scope lastEventId s).2.Valid := by
  rw [Bounds.replayAndSubscribe]
  split
  · exact h
  · next b hget =>
    have hpruned := h.pruned hget bounds clock.now
    split
    · next f b' hprune =>
      rw [hprune] at hpruned
      exact hpruned
    · next b' hprune =>
      rw [hprune] at hpruned
      have hget' : (s.buffers.set scope b').get? scope = some b' := Dict.get?_set_self _ _ _
      dsimp only
      split
      · exact hpruned
      · split
        · exact hpruned.opened hget' (List.nil_append _) nofun
        · next id =>
          split
          · exact hpruned
          · next last rest hdrop =>
            have hevents : b'.events.takeWhile (fun e => e.eventId ≠ id) ++ [last] ++ rest = b'.events := by
              have := List.takeWhile_append_dropWhile (p := fun e => decide (e.eventId ≠ id))
                (l := b'.events)
              rw [hdrop] at this
              rw [List.append_assoc]
              exact this
            refine hpruned.opened hget' hevents ?_
            rintro n hn
            cases hn
            rw [List.getLast?_concat]
            rfl

/-- Readers and closing do not touch what a reader is given. -/
theorem Valid.modify (h : s.Valid) {f : JourneySubscription → JourneySubscription}
    (hf : ∀ sub, (f sub).scope = sub.scope ∧ (f sub).start = sub.start
      ∧ (f sub).resumed = sub.resumed ∧ (f sub).events = sub.events) (i : Nat) :
    Valid { s with subscriptions := s.subscriptions.modify i f } := by
  have hget : ∀ j, (s.subscriptions.modify i f)[j]? = _ := fun j => List.getElem?_modify f i s.subscriptions j
  refine ⟨h.retained, fun sub hsub => ?_, fun scope b hb j hj => ?_⟩
  · obtain ⟨j, hj⟩ := List.mem_iff_getElem?.mp hsub
    rw [hget] at hj
    obtain ⟨sub₀, hsub₀, heq⟩ := Option.map_eq_some_iff.mp hj
    have hconsecutive := h.consecutive sub₀ (List.mem_iff_getElem?.mpr ⟨j, hsub₀⟩)
    split at heq
    · subst heq
      obtain ⟨-, hstart, hresumed, hevents⟩ := hf sub₀
      refine ⟨?_, ?_⟩
      · rw [hstart, hevents]
        exact hconsecutive.numbered
      · rw [hstart, hresumed]
        exact hconsecutive.resumed
    · subst heq
      exact hconsecutive
  · obtain ⟨sub, hsub, hscope, hnext⟩ := h.waits scope b hb j hj
    rw [Waits, hget, hsub]
    refine ⟨_, rfl, ?_, ?_⟩
    · split
      · exact (hf sub).1.trans hscope
      · exact hscope
    · split
      · rw [(hf sub).2.1, (hf sub).2.2.2]
        exact hnext
      · exact hnext

theorem read_alike (sub : JourneySubscription) : sub.read.scope = sub.scope
    ∧ sub.read.start = sub.start ∧ sub.read.resumed = sub.resumed ∧ sub.read.events = sub.events := by
  rw [JourneySubscription.read]
  split
  · next e replay hreplay =>
    refine ⟨rfl, rfl, rfl, ?_⟩
    simp [JourneySubscription.events, hreplay]
  · next hreplay =>
    split
    · exact ⟨rfl, rfl, rfl, rfl⟩
    · split
      · next e queue hqueue =>
        refine ⟨rfl, rfl, rfl, ?_⟩
        simp [JourneySubscription.events, hreplay, hqueue]
      · exact ⟨rfl, rfl, rfl, rfl⟩

theorem Valid.unsubscribe (h : s.Valid) (scope : JourneyStreamScope) (i : Nat) :
    (s.unsubscribe scope i).Valid := by
  rw [Broker.unsubscribe]
  split
  · exact h
  · next b hget =>
    have hretained := h.retained _ _ hget
    refine h.put (Dict.get?_set _ _ _) ⟨hretained.short, hretained.numbered, hretained.serialized, hretained.texts⟩ ?_
    intro j hj
    exact h.waits _ _ hget j (List.mem_of_mem_filter hj)

theorem Valid.close (h : s.Valid) (i : Nat) : (s.close i).Valid := by
  rw [Broker.close]
  split
  · exact h
  · split
    · exact h
    · exact Valid.unsubscribe
        (h.modify (f := ({ · with closed := true })) (fun _ => ⟨rfl, rfl, rfl, rfl⟩) i) _ _

theorem Valid.clearScope (h : s.Valid) (scope : JourneyStreamScope) : (s.clearScope scope).2.Valid := by
  rw [Broker.clearScope]
  split
  · exact h
  · have hold : ∀ scope' b, (s.buffers.pop scope).get? scope' = some b →
        s.buffers.get? scope' = some b := by
      intro scope' b hb
      rw [Dict.get?_pop] at hb
      split at hb
      · cases hb
      · exact hb
    exact ⟨fun scope' b hb => h.retained scope' b (hold scope' b hb), h.consecutive,
      fun scope' b hb => h.waits scope' b (hold scope' b hb)⟩

end Broker

end Journey

end AgentPlatform
