/-
AgentPlatform/Feedback/Ledgers.lean

The ledgers of interventions and of outcome feedback, over whole runs.

The records of an event share the binding that they are found by, so that a
lifecycle call that finds one of them finds all (`filter_event`); the records on a
piece of evidence are found by their subject (`filter_subject`). What is appended
therefore goes on with the last record of its chain.

**Main result:** `ledgers_kept`. The factory of identifiers is assumed to draw
identifiers that differ after normalisation.
-/
import AgentPlatform.Feedback.Service
import AgentPlatform.Order.Chain
import AgentPlatform.Py.Transaction

namespace AgentPlatform

open Py Chain

namespace Feedback

/-! ### Chains of records -/

/-- The records of an event: the first one is RECORDED, and each other supersedes the one
before it along a transition. -/
structure EventChain (records : List InterventionEventRecord) : Prop where
  linked : Linked none (some ∘ InterventionEventRecord.recordId)
    InterventionEventRecord.supersedesRecordId records
  first : ∀ r, records.head? = some r → r.lifecycle = .recorded
  edges : (records.map InterventionEventRecord.lifecycle).IsChain fun x y => y ∈ transitions x

/-- The records on a piece of evidence: numbered, and each supersedes the one before it. -/
structure SubjectChain (records : List OutcomeFeedbackRecord) : Prop where
  numbered : Numbered OutcomeFeedbackRecord.revision records
  linked : Linked none (some ∘ OutcomeFeedbackRecord.feedbackId)
    OutcomeFeedbackRecord.supersedesFeedbackId records

theorem eventChain_singleton {r : InterventionEventRecord} (hlifecycle : r.lifecycle = .recorded)
    (hsupersedes : r.supersedesRecordId = none) : EventChain [r] where
  linked := by
    show [r.supersedesRecordId] = [none]
    rw [hsupersedes]
  first := by
    intro r' hr'
    cases hr'
    exact hlifecycle
  edges := List.isChain_singleton _

theorem EventChain.append {records : List InterventionEventRecord} {r latest : InterventionEventRecord}
    (h : EventChain records) (hlast : records.getLast? = some latest)
    (hsupersedes : r.supersedesRecordId = some latest.recordId)
    (hedge : r.lifecycle ∈ transitions latest.lifecycle) : EventChain (records ++ [r]) where
  linked := by
    rw [linked_concat, hlast, hsupersedes]
    exact ⟨h.linked, rfl⟩
  first := by
    intro r' hr'
    apply h.first r'
    have hne : records ≠ [] := by
      rintro rfl
      cases hlast
    rwa [List.head?_append_of_ne_nil _ hne] at hr'
  edges := by
    rw [List.map_append, List.isChain_append]
    refine ⟨h.edges, List.isChain_singleton _, ?_⟩
    intro x hx y hy
    rw [List.getLast?_map, hlast] at hx
    cases hx
    cases hy
    exact hedge

/-- Nothing follows TOMBSTONED. -/
theorem EventChain.last_of_tombstoned {records : List InterventionEventRecord}
    {r : InterventionEventRecord} (h : EventChain records) (hr : r ∈ records)
    (hlifecycle : r.lifecycle = .tombstoned) : records.getLast? = some r := by
  obtain ⟨before, rest, rfl⟩ := List.append_of_mem hr
  cases rest with
  | nil => exact List.getLast?_concat
  | cons next rest =>
    have hedges := h.edges
    rw [List.map_append, List.map_cons, List.map_cons, List.isChain_append_cons_cons] at hedges
    have := hedges.2.1
    rw [hlifecycle] at this
    cases this

theorem subjectChain_nil : SubjectChain [] := ⟨numbered_nil _, linked_nil _ _ _⟩

/-- The next record on a piece of evidence. -/
theorem SubjectChain.append {records : List OutcomeFeedbackRecord} {r : OutcomeFeedbackRecord}
    (h : SubjectChain records)
    (hrevision : r.revision = (records.getLast?.map fun r => r.revision + 1).getD 1)
    (hsupersedes : r.supersedesFeedbackId = records.getLast?.map OutcomeFeedbackRecord.feedbackId) :
    SubjectChain (records ++ [r]) where
  numbered := by
    rw [numbered_concat, hrevision]
    refine ⟨h.numbered, ?_⟩
    rcases List.eq_nil_or_concat' records with rfl | ⟨init, last, rfl⟩
    · rfl
    · have hlast := (numbered_concat.mp h.numbered).2
      simp [hlast]
  linked := by
    rw [linked_concat, hsupersedes]
    refine ⟨h.linked, ?_⟩
    cases records.getLast? <;> rfl

/-! ### Records that belong together -/

def Ledger.eventRecords (l : Ledger) (eventId : String) : List InterventionEventRecord :=
  l.interventions.filter fun r => r.interventionEventId = eventId

/-- The records on a piece of evidence. -/
def Ledger.subjectRecords (l : Ledger) (k : OutcomeFeedbackRecord.Subject) :
    List OutcomeFeedbackRecord :=
  l.feedback.filter fun r => r.subject = k

/-! ### Reading -/

theorem interventionsOf_ok {t : Target} {c : Checked} {l : Ledger} {records : List InterventionEventRecord}
    (h : l.interventionsOf t c = .ok records) :
    records = l.interventions.filter fun r => r.binding = t.binding c := by
  unfold Ledger.interventionsOf at h
  dsimp only at h
  split at h
  · cases h
  · cases h
    rw [List.filter_filter]
    apply List.filter_congr
    intro r _
    simp only [InterventionEventRecord.binding, Target.binding, Target.journey,
      InterventionEventRecord.Binding.mk.injEq]
    grind

theorem feedbackOf_ok {t : Target} {c : Checked} {l : Ledger} {records : List OutcomeFeedbackRecord}
    (h : l.feedbackOf t c = .ok records) :
    records = l.feedback.filter fun r =>
      r.evidenceId ∈ t.executionEvidenceIds && r.subject = t.subject c r.evidenceId := by
  unfold Ledger.feedbackOf at h
  dsimp only at h
  split at h
  · cases h
  · cases h
    rw [List.filter_filter]
    apply List.filter_congr
    intro r _
    simp only [OutcomeFeedbackRecord.subject, Target.subject, Target.journey,
      OutcomeFeedbackRecord.Subject.mk.injEq]
    grind

/-- What a target finds on one of its pieces of evidence. -/
theorem filter_subject {t : Target} {c : Checked} (l : Ledger) {evidenceId : String} (he : evidenceId ∈ t.executionEvidenceIds) :
    (l.feedback.filter fun r =>
        r.evidenceId ∈ t.executionEvidenceIds && r.subject = t.subject c r.evidenceId).filter
      (fun r => r.outcomeId = c.outcomeId && r.evidenceId = evidenceId)
      = l.subjectRecords (t.subject c evidenceId) := by
  rw [List.filter_filter, Ledger.subjectRecords]
  apply List.filter_congr
  intro r _
  simp only [OutcomeFeedbackRecord.subject, Target.subject, OutcomeFeedbackRecord.Subject.mk.injEq]
  grind

/-! ### Appending -/

theorem appendIntervention_new {record : InterventionEventRecord}
    {records : List InterventionEventRecord} (h : ∀ r ∈ records, r.recordId ≠ record.recordId) :
    appendIntervention record records = (records ++ [record], .ok record) := by
  have hnone : records.find? (fun existing => existing.recordId = record.recordId) = none := by
    rw [List.find?_eq_none]
    intro r hr
    simpa using h r hr
  rw [appendIntervention, hnone]

theorem appendFeedback_new {record : OutcomeFeedbackRecord} {records : List OutcomeFeedbackRecord}
    (h : ∀ r ∈ records, r.feedbackId ≠ record.feedbackId) :
    appendFeedback record records = (records ++ [record], .ok record) := by
  have hnone : records.find? (fun existing => existing.feedbackId = record.feedbackId) = none := by
    rw [List.find?_eq_none]
    intro r hr
    simpa using h r hr
  rw [appendFeedback, hnone]

theorem storeIntervention_new {w : State} {record : InterventionEventRecord} (hintact : record.Intact)
    (hnew : ∀ r ∈ w.ledger.interventions, r.recordId ≠ record.recordId) :
    w.storeIntervention record = ({ w with
      ledger := { w.ledger with interventions := w.ledger.interventions ++ [record] } },
      .ok record) := by
  rw [State.storeIntervention, appendIntervention_new hnew]
  simp [Except.bind, verifyIntervention, hintact]

/-- A record that is intact is stored, or nothing is changed. -/
theorem storeIntervention_raises {w w' : State} {record : InterventionEventRecord} {f : Failure}
    (hintact : record.Intact) (h : w.storeIntervention record = (w', .error f)) :
    w'.ledger = w.ledger := by
  cases hfind : w.ledger.interventions.find? fun existing => existing.recordId = record.recordId with
  | none =>
    simp [State.storeIntervention, appendIntervention, hfind, Except.bind, verifyIntervention,
      hintact] at h
  | some existing =>
    have hsame : (appendIntervention record w.ledger.interventions).1 = w.ledger.interventions := by
      rw [appendIntervention, hfind]
      dsimp only
      split <;> rfl
    rw [← (Prod.mk.inj h).1, hsame]

theorem newIntervention_intact {principal : Principal} {t : Target} {c : Checked}
    {now : Option String} {command : InterventionCaptureCommand} {eventId recordId : String}
    {record : InterventionEventRecord}
    (h : (decisionTime now).bind (newIntervention principal t c command eventId recordId)
      = .ok record) : record.Intact := by
  cases htime : decisionTime now with
  | error f =>
    rw [htime] at h
    cases h
  | ok time =>
    rw [htime] at h
    simp only [Except.bind, newIntervention] at h
    split at h
    · cases h
    · cases h
      exact InterventionEventRecord.intact_sealed _

/-! ### The invariant -/

section Runs

variable [Unicodedata] {ids : Nat → String} {w : State} {principal : Principal} {t : Target}
  {c : Checked} {now : Option String}

/-- The identifier of the `n`-th draw. -/
def drawn (ids : Nat → String) (kind : String) (n : Nat) : String := kind ++ ":" ++ nfc (ids n)

theorem issuedId_ok {kind s : String} {n : Nat} (h : issuedId ids kind n = .ok s) :
    s = drawn ids kind n := by
  obtain ⟨suffix, hsuffix, rfl⟩ := map_eq_ok.mp h
  rw [identifier] at hsuffix
  split at hsuffix
  · cases hsuffix
    rfl
  · cases hsuffix

/-- An identifier that has been drawn. -/
def Drawn (ids : Nat → String) (kind : String) (issued : Nat) (s : String) : Prop :=
  ∃ n < issued, s = drawn ids kind n

theorem Drawn.mono {kind s : String} {m n : Nat} (h : Drawn ids kind m s) (hle : m ≤ n) :
    Drawn ids kind n s := by
  obtain ⟨k, hk, rfl⟩ := h
  exact ⟨k, by omega, rfl⟩

/-- A draw differs from those before it. -/
theorem Drawn.ne (hfresh : Function.Injective fun n => nfc (ids n)) {kind s : String} {m n : Nat}
    (h : Drawn ids kind m s) (hle : m ≤ n) : s ≠ drawn ids kind n := by
  obtain ⟨k, hk, rfl⟩ := h
  intro heq
  have hlists := congrArg String.toList heq
  simp only [drawn, String.toList_append] at hlists
  have : k = n := hfresh (String.toList_injective (List.append_cancel_left hlists))
  omega

structure Sound (ids : Nat → String) (w : State) : Prop where
  intact : ∀ r ∈ w.ledger.interventions, r.Intact
  events : ∀ eventId, w.ledger.eventRecords eventId = [] ∨
    EventChain (w.ledger.eventRecords eventId)
  bound : ∀ r ∈ w.ledger.interventions, ∀ r' ∈ w.ledger.interventions,
    r.interventionEventId = r'.interventionEventId → r.binding = r'.binding
  eventIds : ∀ r ∈ w.ledger.interventions,
    Drawn ids "intervention-event" w.issued r.interventionEventId
  recordIds : ∀ r ∈ w.ledger.interventions, Drawn ids "intervention-record" w.issued r.recordId
  feedbackIntact : ∀ r ∈ w.ledger.feedback, r.Intact
  subjects : ∀ k, SubjectChain (w.ledger.subjectRecords k)
  feedbackIds : ∀ r ∈ w.ledger.feedback, Drawn ids "outcome-feedback" w.issued r.feedbackId
  distinct : (w.ledger.feedback.map OutcomeFeedbackRecord.feedbackId).Nodup

/-- The state with which a service begins. -/
def State.empty : State := ⟨⟨[], [], Dict.empty, Dict.empty⟩, 0⟩

theorem sound_empty : Sound ids State.empty where
  intact := by
    intro r hr
    cases hr
  events _ := .inl rfl
  bound := by
    intro r hr
    cases hr
  eventIds := by
    intro r hr
    cases hr
  recordIds := by
    intro r hr
    cases hr
  feedbackIntact := by
    intro r hr
    cases hr
  subjects _ := subjectChain_nil
  feedbackIds := by
    intro r hr
    cases hr
  distinct := List.nodup_nil

/-- What the invariant depends on: the records, and a number of draws. -/
theorem Sound.congr {w' : State} (h : Sound ids w)
    (hinterventions : w'.ledger.interventions = w.ledger.interventions)
    (hfeedback : w'.ledger.feedback = w.ledger.feedback) (hissued : w.issued ≤ w'.issued) :
    Sound ids w' := by
  obtain ⟨⟨interventions, feedback, _, _⟩, issued⟩ := w'
  cases hinterventions
  cases hfeedback
  exact ⟨h.intact, h.events, h.bound, fun r hr => (h.eventIds r hr).mono hissued,
    fun r hr => (h.recordIds r hr).mono hissued, h.feedbackIntact, h.subjects,
    fun r hr => (h.feedbackIds r hr).mono hissued, h.distinct⟩

/-- The records of an event that a target finds are all of them. -/
theorem filter_event (h : Sound ids w) {b : InterventionEventRecord.Binding} {eventId : String}
    {r : InterventionEventRecord}
    (hr : r ∈ (w.ledger.interventions.filter fun r => r.binding = b).filter
      fun r => r.interventionEventId = eventId) :
    (w.ledger.interventions.filter fun r => r.binding = b).filter
      (fun r => r.interventionEventId = eventId) = w.ledger.eventRecords eventId := by
  rw [List.mem_filter, List.mem_filter, decide_eq_true_eq, decide_eq_true_eq] at hr
  obtain ⟨⟨hmem, hbinding⟩, hevent⟩ := hr
  rw [List.filter_filter, Ledger.eventRecords]
  apply List.filter_congr
  intro r' hr'
  by_cases hsame : r'.interventionEventId = eventId
  · have := h.bound r' hr' r hmem (hsame.trans hevent.symm)
    simp [hsame, this, hbinding]
  · simp [hsame]

/-! ### Storing -/

theorem Sound.addIntervention (h : Sound ids w) {w' : State} {record : InterventionEventRecord}
    (hintact : record.Intact)
    (hchain : EventChain (w.ledger.eventRecords record.interventionEventId ++ [record]))
    (hbound : ∀ r ∈ w.ledger.interventions, r.interventionEventId = record.interventionEventId →
      r.binding = record.binding)
    (heventId : Drawn ids "intervention-event" w'.issued record.interventionEventId)
    (hrecordId : Drawn ids "intervention-record" w'.issued record.recordId)
    (hinterventions : w'.ledger.interventions = w.ledger.interventions ++ [record])
    (hfeedback : w'.ledger.feedback = w.ledger.feedback) (hissued : w.issued ≤ w'.issued) :
    Sound ids w' := by
  have hall : ∀ {P : InterventionEventRecord → Prop}, (∀ r ∈ w.ledger.interventions, P r) →
      P record → ∀ r ∈ w'.ledger.interventions, P r := by
    intro P hold hnew r hr
    rw [hinterventions, List.mem_append, List.mem_singleton] at hr
    rcases hr with hr | rfl
    · exact hold r hr
    · exact hnew
  obtain ⟨⟨interventions, feedback, _, _⟩, issued⟩ := w'
  cases hfeedback
  refine ⟨hall h.intact hintact, ?_, ?_, ?_, ?_, h.feedbackIntact, h.subjects,
    fun r hr => (h.feedbackIds r hr).mono hissued, h.distinct⟩
  · intro eventId
    have hrecords : interventions.filter (fun r => r.interventionEventId = eventId)
        = w.ledger.eventRecords eventId
          ++ [record].filter fun r => r.interventionEventId = eventId := by
      rw [show interventions = _ from hinterventions, List.filter_append]
      rfl
    rw [Ledger.eventRecords, hrecords]
    by_cases he : record.interventionEventId = eventId
    · right
      rw [he] at hchain
      rwa [List.filter_cons_of_pos (by simpa using he)]
    · rw [List.filter_cons_of_neg (by simpa using he), List.filter_nil, List.append_nil]
      exact h.events eventId
  · apply hall
    · intro r hr
      apply hall (h.bound r hr)
      exact hbound r hr
    · apply hall
      · exact fun r hr heq => (hbound r hr heq.symm).symm
      · exact fun _ => rfl
  · exact hall (fun r hr => (h.eventIds r hr).mono hissued) heventId
  · exact hall (fun r hr => (h.recordIds r hr).mono hissued) hrecordId

theorem Sound.addFeedback (h : Sound ids w) {w' : State} {record : OutcomeFeedbackRecord}
    (hintact : record.Intact)
    (hrevision : record.revision
      = ((w.ledger.subjectRecords record.subject).getLast?.map fun r => r.revision + 1).getD 1)
    (hsupersedes : record.supersedesFeedbackId
      = (w.ledger.subjectRecords record.subject).getLast?.map OutcomeFeedbackRecord.feedbackId)
    (hnew : ∀ r ∈ w.ledger.feedback, r.feedbackId ≠ record.feedbackId)
    (hfeedbackId : Drawn ids "outcome-feedback" w'.issued record.feedbackId)
    (hfeedback : w'.ledger.feedback = w.ledger.feedback ++ [record])
    (hinterventions : w'.ledger.interventions = w.ledger.interventions)
    (hissued : w.issued ≤ w'.issued) : Sound ids w' := by
  have hall : ∀ {P : OutcomeFeedbackRecord → Prop}, (∀ r ∈ w.ledger.feedback, P r) →
      P record → ∀ r ∈ w'.ledger.feedback, P r := by
    intro P hold hlast r hr
    rw [hfeedback, List.mem_append, List.mem_singleton] at hr
    rcases hr with hr | rfl
    · exact hold r hr
    · exact hlast
  obtain ⟨⟨interventions, feedback, _, _⟩, issued⟩ := w'
  cases hinterventions
  refine ⟨h.intact, h.events, h.bound, fun r hr => (h.eventIds r hr).mono hissued,
    fun r hr => (h.recordIds r hr).mono hissued, hall h.feedbackIntact hintact, ?_, ?_, ?_⟩
  · intro k
    have hrecords : feedback.filter (fun r => r.subject = k)
        = w.ledger.subjectRecords k ++ [record].filter fun r => r.subject = k := by
      rw [show feedback = _ from hfeedback, List.filter_append]
      rfl
    rw [Ledger.subjectRecords, hrecords]
    by_cases hk : record.subject = k
    · rw [List.filter_cons_of_pos (by simpa using hk)]
      exact (h.subjects k).append (hk ▸ hrevision) (hk ▸ hsupersedes)
    · rw [List.filter_cons_of_neg (by simpa using hk), List.filter_nil, List.append_nil]
      exact h.subjects k
  · exact hall (fun r hr => (h.feedbackIds r hr).mono hissued) hfeedbackId
  · rw [show feedback = _ from hfeedback, List.map_append, List.map_singleton, ← List.concat_eq_append]
    apply h.distinct.concat
    intro hmem
    obtain ⟨r, hr, heq⟩ := List.mem_map.mp hmem
    exact hnew r hr heq

/-! ### One call -/

/-- **`capture_intervention` begins a chain.** -/
theorem captureIntervention_sound (hfresh : Function.Injective fun n => nfc (ids n))
    (h : Sound ids w) (command : InterventionCaptureCommand) :
    Sound ids (captureIntervention ids w principal t command now).1 := by
  unfold captureIntervention
  split
  · exact h
  · exact h
  · split
    · exact h.congr rfl rfl (Nat.le_add_right _ _)
    · next eventId hevent =>
      split
      · exact h.congr rfl rfl (Nat.le_add_right _ _)
      · next recordId hrecord =>
        split
        · exact h.congr rfl rfl (Nat.le_add_right _ _)
        · next record hnew =>
          obtain ⟨hid, hrecordId, hlifecycle, hsupersedes, hintact⟩ :
              record.interventionEventId = eventId ∧ record.recordId = recordId ∧
              record.lifecycle = .recorded ∧ record.supersedesRecordId = none ∧ record.Intact := by
            cases htime : decisionTime now with
            | error f =>
              rw [htime] at hnew
              cases hnew
            | ok time =>
              rw [htime] at hnew
              simp only [Except.bind, newIntervention] at hnew
              split at hnew
              · cases hnew
              · cases hnew
                exact ⟨rfl, rfl, rfl, rfl, rfl⟩
          have hne : ∀ r ∈ (w.draw 2).ledger.interventions, r.recordId ≠ record.recordId := by
            intro r hr
            rw [hrecordId, issuedId_ok hrecord]
            exact (h.recordIds r hr).ne hfresh (Nat.le_add_right _ _)
          have hneEvent : ∀ r ∈ w.ledger.interventions,
              r.interventionEventId ≠ record.interventionEventId := by
            intro r hr
            rw [hid, issuedId_ok hevent]
            exact (h.eventIds r hr).ne hfresh (Nat.le_refl _)
          have hnone : w.ledger.eventRecords record.interventionEventId = [] := by
            rw [Ledger.eventRecords, List.filter_eq_nil_iff]
            intro r hr
            simpa using hneEvent r hr
          rw [storeIntervention_new hintact hne]
          refine h.addIntervention hintact ?_ ?_ ?_ ?_ rfl rfl (Nat.le_add_right _ _)
          · rw [hnone]
            exact eventChain_singleton hlifecycle hsupersedes
          · exact fun r hr heq => absurd heq (hneEvent r hr)
          · rw [hid, issuedId_ok hevent]
            exact ⟨w.issued, Nat.lt_add_of_pos_right (by decide), rfl⟩
          · rw [hrecordId, issuedId_ok hrecord]
            exact ⟨w.issued + 1, Nat.lt_succ_self _, rfl⟩

/-- What a lifecycle call goes on with: the last record of an event. -/
theorem admitLifecycle_ok (h : Sound ids w) {eventId : String} {change : LifecycleChange}
    {latest : InterventionEventRecord}
    (hadm : admitLifecycle w.ledger principal t eventId change = .ok (latest, false)) :
    latest ∈ w.ledger.interventions ∧
      (w.ledger.eventRecords latest.interventionEventId).getLast? = some latest ∧
      change.lifecycle ∈ transitions latest.lifecycle := by
  rw [admitLifecycle] at hadm
  obtain ⟨c, -, hadm⟩ := bind_eq_ok.mp hadm
  obtain ⟨eventId, -, hadm⟩ := bind_eq_ok.mp hadm
  obtain ⟨records, hrecords, hadm⟩ := bind_eq_ok.mp hadm
  rw [interventionsOf_ok hrecords] at hadm
  split at hadm
  · cases hadm
  · next last hlast =>
    split at hadm
    · cases hadm
    · split at hadm
      · cases hadm
      · split at hadm
        · cases hadm
        · next hedge =>
          cases hadm
          have hmem := List.mem_of_getLast? hlast
          rw [filter_event h hmem] at hlast
          have hevent : latest.interventionEventId = eventId := by
            simpa using (List.mem_filter.mp hmem).2
          refine ⟨List.mem_of_mem_filter (List.mem_of_mem_filter hmem), ?_, ?_⟩
          · rw [hevent]
            exact hlast
          · exact not_not.mp hedge

/-- **`append_intervention_lifecycle` goes on with a chain.** -/
theorem appendLifecycle_sound (hfresh : Function.Injective fun n => nfc (ids n)) (h : Sound ids w)
    (eventId : String) (change : LifecycleChange) :
    Sound ids (appendLifecycle ids w principal t eventId change now).1 := by
  unfold appendLifecycle
  split
  · exact h
  · exact h
  · next latest hadm =>
    obtain ⟨hmem, hlast, hedge⟩ := admitLifecycle_ok h hadm
    split
    · exact h.congr rfl rfl (Nat.le_add_right _ _)
    · next recordId hrecord =>
      split
      · exact h.congr rfl rfl (Nat.le_add_right _ _)
      · next time _ =>
        have hintact : (lifecycleRecord latest principal change recordId time).Intact :=
          InterventionEventRecord.intact_sealed _
        have hne : ∀ r ∈ (w.draw 1).ledger.interventions,
            r.recordId ≠ (lifecycleRecord latest principal change recordId time).recordId := by
          intro r hr
          show r.recordId ≠ recordId
          rw [issuedId_ok hrecord]
          exact (h.recordIds r hr).ne hfresh (Nat.le_refl _)
        rw [storeIntervention_new hintact hne]
        refine h.addIntervention hintact ?_ ?_ ?_ ?_ rfl rfl (Nat.le_add_right _ _)
        · have hchain : EventChain (w.ledger.eventRecords latest.interventionEventId) := by
            rcases h.events latest.interventionEventId with hnil | hchain
            · rw [hnil] at hlast
              cases hlast
            · exact hchain
          exact hchain.append hlast rfl hedge
        · exact fun r hr heq => h.bound r hr latest hmem heq
        · exact (h.eventIds latest hmem).mono (Nat.le_add_right _ _)
        · show Drawn ids "intervention-record" (w.issued + 1) recordId
          rw [issuedId_ok hrecord]
          exact ⟨w.issued, Nat.lt_succ_self _, rfl⟩

/-- What new feedback goes on with: the last record on the evidence, if there is one. -/
theorem admitFeedback_ok {l : Ledger} {command : OutcomeFeedbackCommand}
    {current : Option OutcomeFeedbackRecord}
    (hadm : admitFeedback l principal t command = .ok (c, .fresh current)) :
    current = (l.subjectRecords (t.subject c command.evidenceId)).getLast? := by
  rw [admitFeedback] at hadm
  obtain ⟨c', -, hadm⟩ := bind_eq_ok.mp hadm
  split at hadm
  · cases hadm
  · next hcurrent =>
    split at hadm
    · cases hadm
    · obtain ⟨records, hrecords, hadm⟩ := bind_eq_ok.mp hadm
      have he : command.evidenceId ∈ t.executionEvidenceIds := by
        by_contra hnot
        exact hcurrent (.inr hnot)
      rw [feedbackOf_ok hrecords, filter_subject l he] at hadm
      dsimp only at hadm
      split at hadm
      · cases hadm
      · next hlast _ =>
        split at hadm
        · cases hadm
          exact hlast.symm
        · split at hadm <;> cases hadm
      · split at hadm <;> cases hadm
      · next hlast _ =>
        split at hadm
        · split at hadm
          · cases hadm
          · cases hadm
            exact hlast.symm
        · split at hadm <;> cases hadm

/-- **`capture_feedback` goes on with a chain.** -/
theorem captureFeedback_sound (hfresh : Function.Injective fun n => nfc (ids n)) (h : Sound ids w)
    (command : OutcomeFeedbackCommand) :
    Sound ids (captureFeedback ids w principal t command now).1 := by
  unfold captureFeedback
  split
  · exact h
  · exact h.congr rfl rfl (Nat.le_refl _)
  · exact h
  · next c current hadm =>
    have hcurrent := admitFeedback_ok hadm
    split
    · exact h.congr rfl rfl (Nat.le_add_right _ _)
    · next feedbackId hid =>
      split
      · exact h.congr rfl rfl (Nat.le_add_right _ _)
      · next time _ =>
        have hne : ∀ r ∈ w.ledger.feedback,
            r.feedbackId ≠ (newFeedback principal t c command current feedbackId time).feedbackId := by
          intro r hr
          show r.feedbackId ≠ feedbackId
          rw [issuedId_ok hid]
          exact (h.feedbackIds r hr).ne hfresh (Nat.le_refl _)
        have hintact : (newFeedback principal t c command current feedbackId time).Intact :=
          OutcomeFeedbackRecord.intact_sealed _
        have hverified : verifyFeedback (newFeedback principal t c command current feedbackId time)
            = .ok (newFeedback principal t c command current feedbackId time) := if_pos hintact
        simp only [appendFeedback_new hne, Except.bind, hverified]
        refine h.addFeedback hintact ?_ ?_ hne ?_ rfl rfl (Nat.le_add_right _ _)
        · show (current.map fun r => r.revision + 1).getD 1 = _
          rw [hcurrent]
          rfl
        · show current.map OutcomeFeedbackRecord.feedbackId = _
          rw [hcurrent]
          rfl
        · show Drawn ids "outcome-feedback" (w.issued + 1) feedbackId
          rw [issuedId_ok hid]
          exact ⟨w.issued, Nat.lt_succ_self _, rfl⟩

/-! ### Calls that raise -/

theorem captureIntervention_raises {command : InterventionCaptureCommand} {w' : State} {f : Failure}
    (h : captureIntervention ids w principal t command now = (w', .error f)) :
    w'.ledger = w.ledger := by
  unfold captureIntervention at h
  split at h
  · cases h
    rfl
  · cases h
  · split at h
    · cases h
      rfl
    · split at h
      · cases h
        rfl
      · split at h
        · cases h
          rfl
        · next hrecord =>
          split at h
          · next hstore =>
            cases h
            have := storeIntervention_raises (newIntervention_intact hrecord) hstore
            exact this
          · cases h

theorem appendLifecycle_raises {eventId : String} {change : LifecycleChange} {w' : State} {f : Failure}
    (h : appendLifecycle ids w principal t eventId change now = (w', .error f)) :
    w'.ledger = w.ledger := by
  unfold appendLifecycle at h
  split at h
  · cases h
    rfl
  · cases h
  · split at h
    · cases h
      rfl
    · split at h
      · cases h
        rfl
      · have := storeIntervention_raises (w := w.draw 1) (InterventionEventRecord.intact_sealed _) h
        exact this

theorem captureFeedback_raises {command : OutcomeFeedbackCommand} {w' : State} {f : Failure}
    (h : captureFeedback ids w principal t command now = (w', .error f)) :
    w'.ledger = w.ledger := by
  unfold captureFeedback at h
  split at h
  · cases h
    rfl
  · cases h
  · cases h
  · next c current _ =>
    split at h
    · cases h
      rfl
    · next feedbackId _ =>
      split at h
      · cases h
        rfl
      · next time _ =>
        have hverified : verifyFeedback (newFeedback principal t c command current feedbackId time)
            = .ok (newFeedback principal t c command current feedbackId time) :=
          if_pos (OutcomeFeedbackRecord.intact_sealed _)
        unfold appendFeedback at h
        dsimp only at h
        split at h
        · next hstored =>
          cases h
          split at hstored
          · rw [Except.bind, hverified] at hstored
            cases hstored
          · split <;> rfl
        · cases h

/-! ### Runs -/

inductive Call
  | intervention (principal : Principal) (t : Target) (command : InterventionCaptureCommand)
      (now : Option String)
  | lifecycle (principal : Principal) (t : Target) (eventId : String) (change : LifecycleChange)
      (now : Option String)
  | feedback (principal : Principal) (t : Target) (command : OutcomeFeedbackCommand)
      (now : Option String)

/-- A call: the state that it leaves, and whether it raises. -/
def State.step (ids : Nat → String) (w : State) : Call → State × Except Failure Unit
  | .intervention principal t command now =>
    (captureIntervention ids w principal t command now).map id fun result => result.map fun _ => ()
  | .lifecycle principal t eventId change now =>
    (appendLifecycle ids w principal t eventId change now).map id fun result => result.map fun _ => ()
  | .feedback principal t command now =>
    (captureFeedback ids w principal t command now).map id fun result => result.map fun _ => ()

inductive Run (ids : Nat → String) : State → State → Prop
  | refl (w : State) : Run ids w w
  | tail {w w' : State} (run : Run ids w w') (call : Call) : Run ids w (w'.step ids call).1

theorem step_sound (hfresh : Function.Injective fun n => nfc (ids n)) (h : Sound ids w) (call : Call) :
    Sound ids (w.step ids call).1 := by
  cases call with
  | intervention principal t command now => exact captureIntervention_sound hfresh h command
  | lifecycle principal t eventId change now => exact appendLifecycle_sound hfresh h eventId change
  | feedback principal t command now => exact captureFeedback_sound hfresh h command

omit [Unicodedata] in
theorem of_map_error {α : Type} {r : State × Except Failure α} {f : Failure}
    (h : (r.map id fun result => result.map fun _ => ()).2 = .error f) :
    r = (r.1, .error f) := by
  obtain ⟨w', result⟩ := r
  cases result with
  | error f' =>
    cases h
    rfl
  | ok a => cases h

/-- **A call that raises leaves the records and the replays.** -/
theorem step_raises {call : Call} {f : Failure} (h : (w.step ids call).2 = .error f) :
    (w.step ids call).1.ledger = w.ledger := by
  cases call with
  | intervention principal t command now => exact captureIntervention_raises (of_map_error h)
  | lifecycle principal t eventId change now => exact appendLifecycle_raises (of_map_error h)
  | feedback principal t command now => exact captureFeedback_raises (of_map_error h)

theorem run_sound (hfresh : Function.Injective fun n => nfc (ids n)) {w' : State}
    (h : Sound ids w) (hrun : Run ids w w') : Sound ids w' := by
  induction hrun with
  | refl => exact h
  | tail _ call ih => exact step_sound hfresh ih call

/-! ### The projection -/

/-- Feedback of a target that another record of the target supersedes is not the last on its
evidence. -/
theorem superseded_iff (h : Sound ids w) {found : List OutcomeFeedbackRecord}
    (hfound : found = w.ledger.feedback.filter fun r =>
      r.evidenceId ∈ t.executionEvidenceIds && r.subject = t.subject c r.evidenceId)
    {r : OutcomeFeedbackRecord} (hr : r ∈ found) :
    r.feedbackId ∈ found.filterMap OutcomeFeedbackRecord.supersedesFeedbackId ↔
      (w.ledger.subjectRecords r.subject).getLast? ≠ some r := by
  subst hfound
  have hall : ∀ k, w.ledger.subjectRecords k ⊆ w.ledger.feedback := fun k =>
    List.filter_subset_self _
  have hmem : r ∈ w.ledger.feedback := List.mem_of_mem_filter hr
  have hself : r ∈ w.ledger.subjectRecords r.subject := by
    rw [Ledger.subjectRecords, List.mem_filter]
    simpa using hmem
  have hdistinct : ∀ k, ((w.ledger.subjectRecords k).map OutcomeFeedbackRecord.feedbackId).Nodup :=
    fun k => h.distinct.sublist (List.filter_sublist.map _)
  rw [← (h.subjects r.subject).linked.named_iff (hdistinct _) hself, List.mem_filterMap]
  constructor
  · rintro ⟨r', hr', hsupersedes⟩
    -- the record that is superseded is in the chain of the other one
    have hself' : r' ∈ w.ledger.subjectRecords r'.subject := by
      rw [Ledger.subjectRecords, List.mem_filter]
      simpa using List.mem_of_mem_filter hr'
    obtain ⟨q, hq, hid⟩ := List.mem_map.mp
      ((h.subjects r'.subject).linked.mem_of_previous hself' hsupersedes)
    have hsame : q = r := List.inj_on_of_nodup_map h.distinct (hall _ hq) hmem hid
    have hsubject : r.subject = r'.subject := by
      have := (List.mem_filter.mp (hsame ▸ hq)).2
      simpa using this
    exact ⟨r', hsubject ▸ hself', hsupersedes⟩
  · rintro ⟨r', hr', hsupersedes⟩
    refine ⟨r', ?_, hsupersedes⟩
    have hsubject : r'.subject = r.subject := by simpa using (List.mem_filter.mp hr').2
    have hevidence : r'.evidenceId = r.evidenceId :=
      congrArg OutcomeFeedbackRecord.Subject.evidenceId hsubject
    have hshown := (List.mem_filter.mp hr).2
    rw [List.mem_filter, hsubject, hevidence]
    exact ⟨hall _ hr', hshown⟩

/-- **What a target shows**: the records on each of its pieces of evidence, the last of them as
RECORDED and the others as SUPERSEDED. -/
theorem project_shows (h : Sound ids w) (hc : admitted principal t = .ok c) :
    ∃ p, project w.ledger principal t = .ok p ∧
      (∀ e ∈ t.executionEvidenceIds,
        (p.outcomeFeedback.filter fun v => v.record.evidenceId = e).map OutcomeFeedbackView.record
          = w.ledger.subjectRecords (t.subject c e)) ∧
      ∀ v ∈ p.outcomeFeedback, v.lifecycle
        = if (w.ledger.subjectRecords v.record.subject).getLast? = some v.record then .recorded
          else .superseded := by
  have hinterventions : ∃ records, w.ledger.interventionsOf t c = .ok records := by
    unfold Ledger.interventionsOf
    dsimp only
    rw [if_neg]
    · exact ⟨_, rfl⟩
    · rintro ⟨r, hr, hnot⟩
      exact hnot (h.intact r (List.mem_of_mem_filter hr))
  have hfeedback : ∃ records, w.ledger.feedbackOf t c = .ok records := by
    unfold Ledger.feedbackOf
    dsimp only
    rw [if_neg]
    · exact ⟨_, rfl⟩
    · rintro ⟨r, hr, hnot⟩
      exact hnot (h.feedbackIntact r (List.mem_of_mem_filter hr))
  obtain ⟨interventions, hinterventions⟩ := hinterventions
  obtain ⟨found, hfound⟩ := hfeedback
  rw [project, hc]
  refine ⟨_, by
    show (w.ledger.interventionsOf t c >>= _) = _
    rw [hinterventions]
    show (w.ledger.feedbackOf t c >>= _) = _
    rw [hfound]
    rfl, ?_, ?_⟩
  · intro e he
    rw [← filter_subject w.ledger he, ← feedbackOf_ok hfound, List.filter_map, List.map_map,
      List.map_id'']
    · apply List.filter_congr
      intro r hr
      rw [feedbackOf_ok hfound] at hr
      have hshown := (List.mem_filter.mp hr).2
      simp only [Bool.and_eq_true, decide_eq_true_eq] at hshown
      have houtcome : r.outcomeId = c.outcomeId :=
        congrArg OutcomeFeedbackRecord.Subject.outcomeId hshown.2
      simp [houtcome]
    · exact fun _ => rfl
  · intro v hv
    obtain ⟨r, hr, rfl⟩ := List.mem_map.mp hv
    have := superseded_iff h (feedbackOf_ok hfound) hr
    dsimp only
    by_cases hlast : (w.ledger.subjectRecords r.subject).getLast? = some r
    · rw [if_pos hlast, if_neg]
      rw [this]
      exact not_not.mpr hlast
    · rw [if_neg hlast, if_pos (this.mpr hlast)]

/-- **The ledgers of interventions and of feedback**, in every state that is reached. -/
theorem ledgers_kept (hfresh : Function.Injective fun n => nfc (ids n)) {w : State}
    (h : Run ids State.empty w) :
    (∀ r ∈ w.ledger.interventions, EventChain (w.ledger.eventRecords r.interventionEventId) ∧
        (r.lifecycle = .tombstoned →
          (w.ledger.eventRecords r.interventionEventId).getLast? = some r)) ∧
      (∀ k, SubjectChain (w.ledger.subjectRecords k)) ∧
      (∀ principal t c, admitted principal t = .ok c → ∃ p, project w.ledger principal t = .ok p ∧
        (∀ e ∈ t.executionEvidenceIds,
          (p.outcomeFeedback.filter fun v => v.record.evidenceId = e).map OutcomeFeedbackView.record
            = w.ledger.subjectRecords (t.subject c e)) ∧
        ∀ v ∈ p.outcomeFeedback, v.lifecycle
          = if (w.ledger.subjectRecords v.record.subject).getLast? = some v.record then .recorded
            else .superseded) ∧
      (∀ r ∈ w.ledger.interventions, r.Intact) ∧ (∀ r ∈ w.ledger.feedback, r.Intact) ∧
      ∀ call f, (w.step ids call).2 = .error f → (w.step ids call).1.ledger = w.ledger := by
  have hsound := run_sound hfresh sound_empty h
  refine ⟨?_, hsound.subjects, fun _ _ _ => project_shows hsound, hsound.intact,
    hsound.feedbackIntact, fun _ _ => step_raises⟩
  intro r hr
  have hmem : r ∈ w.ledger.eventRecords r.interventionEventId := by
    rw [Ledger.eventRecords, List.mem_filter]
    simpa using hr
  rcases hsound.events r.interventionEventId with hnil | hchain
  · rw [hnil] at hmem
    cases hmem
  · exact ⟨hchain, hchain.last_of_tombstoned hmem⟩

end Runs

/-! ### A correction that is captured -/

namespace Sample

@[reducible] def unicode : Unicodedata := Unicodedata.identity

/-- A factory that draws longer and longer identifiers. -/
def ids (n : Nat) : String := String.ofList (List.replicate (n + 1) 'a')

def user : Principal := ⟨"user", "tenant", "domain", true⟩

def target : Target where
  journeyId := "journey"
  tenantId := "tenant"
  securityDomain := "domain"
  provenance := "SYNTHETIC_PREVIEW"
  predecessorRevisionId := some "revision-1"
  predecessorDigest := some "0123456789abcdef0123456789abcdef0123456789abcdef0123456789abcdef"
  successorRevisionId := "revision-2"
  successorDigest := "0123456789abcdef0123456789abcdef0123456789abcdef0123456789abcdef"
  platformExecutionIdentity := some "execution"
  outcomeId := some "outcome"
  executionEvidenceIds := ["evidence"]

def command : InterventionCaptureCommand :=
  ⟨"revision-1", "revision-2", "outcome", "evidence", .taskAdded, .workflow, .taskSetPatch,
    .missingTask, .denied⟩

def now : Option String := some "2026-01-01T00:00:00Z"

theorem ids_fresh : Function.Injective fun n => unicode.nfc (ids n) := by
  intro m n h
  have hlists : List.replicate (m + 1) 'a' = List.replicate (n + 1) 'a' := String.ofList_injective h
  have := congrArg List.length hlists
  simpa using this

/-- The theorem, after a call that captures an intervention. -/
theorem ledgers_kept_of_capture :
    (∀ r ∈ (@State.step unicode ids State.empty
        (.intervention user target command now)).1.ledger.interventions,
      EventChain ((@State.step unicode ids State.empty
        (.intervention user target command now)).1.ledger.eventRecords r.interventionEventId)) ∧
    ∀ k, SubjectChain ((@State.step unicode ids State.empty
        (.intervention user target command now)).1.ledger.subjectRecords k) := by
  have hrun := @Run.tail unicode ids State.empty State.empty (@Run.refl unicode ids State.empty)
    (.intervention user target command now)
  have h := @ledgers_kept unicode ids ids_fresh _ hrun
  exact ⟨fun r hr => (h.1 r hr).1, h.2.1⟩

end Sample

end Feedback

end AgentPlatform
