/-
AgentPlatform/Feedback/Replays.lean

Captures that are made again, and the targets of what they return.

A replay of an intervention is kept for good under its key (`Kept`). A replay of
feedback that supersedes nothing is kept under a key that later records on the same
evidence use again; it answers the same as long as the record it was answered with
is the current one. A key covers only a part of the target, so that what is
returned from it may belong to another one.

**Main result:** `captures_faithful`: in a run whose calls meet a replay only of
their own target, and repeat feedback that supersedes nothing only while its record
is current, a repeated capture returns the same record and changes nothing, and
every record is that of the target it is captured for.
-/
import AgentPlatform.Feedback.Ledgers

namespace AgentPlatform

open Py

namespace Feedback

/-! ### The target of a record -/

/-- The record carries what the target has. -/
def InterventionEventRecord.BoundTo (r : InterventionEventRecord) (t : Target) : Prop :=
  r.successorRevisionId = t.successorRevisionId
    ∧ t.platformExecutionIdentity = some r.platformExecutionIdentity
    ∧ t.outcomeId = some r.outcomeId ∧ r.executionEvidenceIds = t.executionEvidenceIds

/-- The record carries what the target has, and one piece of its evidence. -/
def OutcomeFeedbackRecord.BoundTo (r : OutcomeFeedbackRecord) (t : Target) : Prop :=
  r.canonicalWorkflowRevisionId = t.successorRevisionId
    ∧ t.platformExecutionIdentity = some r.platformExecutionIdentity
    ∧ t.outcomeId = some r.outcomeId ∧ r.evidenceId ∈ t.executionEvidenceIds

/-- What the calls about interventions keep: the feedback, and every replay. -/
structure Ledger.Kept (l l' : Ledger) : Prop where
  feedback : l'.feedback = l.feedback
  feedbackReplays : l'.feedbackReplays = l.feedbackReplays
  replays : ∀ key replay, l.interventionReplays.get? key = some replay →
    l'.interventionReplays.get? key = some replay

theorem Ledger.kept_refl (l : Ledger) : l.Kept l := ⟨rfl, rfl, fun _ _ h => h⟩

section Calls

variable [Unicodedata] {ids : Nat → String} {w : State} {l : Ledger} {principal : Principal}
  {t : Target} {c : Checked} {now : Option String}

/-- What a target is checked to have, it has. -/
theorem admitted_ok (h : admitted principal t = .ok c) :
    t.platformExecutionIdentity = some c.platformExecutionIdentity
      ∧ t.outcomeId = some c.outcomeId := by
  rw [admitted] at h
  split at h
  · rw [validateTarget] at h
    split at h
    · next hidentity houtcome =>
      rw [hidentity, houtcome]
      split at h
      · cases h
      · split at h
        · cases h
        · split at h
          · cases h
          · split at h
            · cases h
            · split at h
              · cases h
              · split at h
                · cases h
                · cases h
                  exact ⟨rfl, rfl⟩
    · cases h
  · cases h

/-! ### Interventions -/

/-- What `capture_intervention` checks before it looks for a replay. -/
structure InterventionChecks (principal : Principal) (t : Target)
    (command : InterventionCaptureCommand) (c : Checked) : Prop where
  admitted : admitted principal t = .ok c
  current : currentBinding t c command = .ok ()
  patch : ¬(command.correctionPatchReference = .noPatch
    ∧ command.eventKind ≠ .resultFeedbackProvided)

variable {command : InterventionCaptureCommand}

/-- The checks depend on the arguments alone. -/
theorem admitIntervention_eq (hc : InterventionChecks principal t command c) (l : Ledger) :
    admitIntervention l principal t command
      = match l.interventionReplays.get? (interventionKey t command) with
        | none => .ok (c, none)
        | some replay =>
          if replay.1 = canonicalDigest command.json then .ok (c, some replay.2)
          else .error (.conflict "INTERVENTION_REPLAY_CONFLICT") := by
  rw [admitIntervention, hc.admitted]
  show (currentBinding t c command >>= _) = _
  rw [hc.current]
  exact if_neg hc.patch

theorem checks_of_admitIntervention {o : Option InterventionEventRecord}
    (h : admitIntervention l principal t command = .ok (c, o)) :
    InterventionChecks principal t command c := by
  have hh := h
  rw [admitIntervention] at hh
  obtain ⟨c', hadmitted, hh⟩ := bind_eq_ok.mp hh
  obtain ⟨⟨⟩, hcurrent, hh⟩ := bind_eq_ok.mp hh
  split at hh
  · cases hh
  · next hpatch =>
    have hc : InterventionChecks principal t command c' := ⟨hadmitted, hcurrent, hpatch⟩
    rw [admitIntervention_eq hc] at h
    split at h
    · cases h
      exact hc
    · split at h
      · cases h
        exact hc
      · cases h

theorem newIntervention_ok (hadmitted : admitted principal t = .ok c) {eventId recordId : String}
    {record : InterventionEventRecord}
    (h : (decisionTime now).bind (newIntervention principal t c command eventId recordId)
      = .ok record) : record.recordId = recordId ∧ record.BoundTo t := by
  obtain ⟨hidentity, houtcome⟩ := admitted_ok hadmitted
  cases htime : decisionTime now with
  | error f =>
    rw [htime] at h
    cases h
  | ok time =>
    rw [htime] at h
    simp only [Except.bind, newIntervention] at h
    split at h
    · cases h
    · cases h
      exact ⟨rfl, rfl, hidentity, houtcome, rfl⟩

/-- **A replay returns its record** and changes nothing. -/
theorem captureIntervention_replay (hc : InterventionChecks principal t command c)
    {r : InterventionEventRecord}
    (hget : w.ledger.interventionReplays.get? (interventionKey t command)
      = some (canonicalDigest command.json, r)) (now : Option String) :
    captureIntervention ids w principal t command now = (w, .ok r) := by
  rw [captureIntervention, admitIntervention_eq hc, hget]
  simp only [if_true]

/-- **What an accepted call returns**: the record of a replay, or a new record of the
target, which is kept for replays. -/
theorem captureIntervention_ok {r : InterventionEventRecord}
    (hok : (captureIntervention ids w principal t command now).2 = .ok r)
    (hfresh : Function.Injective fun n => nfc (ids n)) (h : Sound ids w) :
    ∃ c, InterventionChecks principal t command c
      ∧ (w.ledger.interventionReplays.get? (interventionKey t command)
            = some (canonicalDigest command.json, r)
          ∨ w.ledger.interventionReplays.get? (interventionKey t command) = none ∧ r.BoundTo t
            ∧ (captureIntervention ids w principal t command now).1.ledger
              = { w.ledger with
                  interventions := w.ledger.interventions ++ [r]
                  interventionReplays := w.ledger.interventionReplays.set
                    (interventionKey t command) (canonicalDigest command.json, r) }) := by
  cases hadm : admitIntervention w.ledger principal t command with
  | error f =>
    rw [captureIntervention, hadm] at hok
    cases hok
  | ok result =>
    obtain ⟨c, o⟩ := result
    have hc := checks_of_admitIntervention hadm
    refine ⟨c, hc, ?_⟩
    have hget := hadm
    rw [admitIntervention_eq hc] at hget
    cases hreplay : w.ledger.interventionReplays.get? (interventionKey t command) with
    | some replay =>
      left
      rw [hreplay] at hget
      dsimp only at hget
      split at hget
      · next hfingerprint =>
        cases hget
        rw [captureIntervention, hadm] at hok
        cases hok
        rw [← hfingerprint]
      · cases hget
    | none =>
      right
      rw [hreplay] at hget
      cases hget
      refine ⟨rfl, ?_⟩
      rw [captureIntervention, hadm] at hok ⊢
      dsimp only at hok ⊢
      split at hok
      · cases hok
      · next eventId hevent =>
        split at hok
        · cases hok
        · next recordId hrecordId =>
          split at hok
          · cases hok
          · next record hnew =>
            obtain ⟨hid, hbound⟩ := newIntervention_ok hc.admitted hnew
            have hne : ∀ r ∈ (w.draw 2).ledger.interventions, r.recordId ≠ record.recordId := by
              intro r hr
              rw [hid, issuedId_ok hrecordId]
              exact (h.recordIds r hr).ne hfresh (Nat.le_add_right _ _)
            simp only [storeIntervention_new (newIntervention_intact hnew) hne] at hok ⊢
            cases hok
            exact ⟨hbound, rfl⟩

/-- A correction that passes the checks and meets no replay is accepted. -/
theorem captureIntervention_accepted (hc : InterventionChecks principal t command c)
    (hget : w.ledger.interventionReplays.get? (interventionKey t command) = none)
    (hevent : isIdentifier (nfc (ids w.issued)) = true)
    (hrecord : isIdentifier (nfc (ids (w.issued + 1))) = true) {time digest : String}
    (hdigest : t.predecessorDigest = some digest)
    (hfresh : Function.Injective fun n => nfc (ids n)) (h : Sound ids w) :
    ∃ r, (captureIntervention ids w principal t command (some time)).2 = .ok r := by
  have hissued : ∀ kind n, isIdentifier (nfc (ids n)) = true →
      issuedId ids kind n = .ok (drawn ids kind n) := by
    intro kind n hn
    rw [issuedId, identifier, if_pos hn]
    rfl
  have hnew : ∃ record, (decisionTime (some time)).bind (newIntervention principal t c command
      (drawn ids "intervention-event" w.issued) (drawn ids "intervention-record" (w.issued + 1)))
      = .ok record := by
    simp only [decisionTime, Except.bind, newIntervention, hdigest]
    exact ⟨_, rfl⟩
  obtain ⟨record, hnew⟩ := hnew
  obtain ⟨hid, -⟩ := newIntervention_ok hc.admitted hnew
  have hne : ∀ r ∈ (w.draw 2).ledger.interventions, r.recordId ≠ record.recordId := by
    intro r hr
    rw [hid]
    exact (h.recordIds r hr).ne hfresh (Nat.le_add_right _ _)
  refine ⟨record, ?_⟩
  rw [captureIntervention, admitIntervention_eq hc, hget, hissued _ _ hevent, hissued _ _ hrecord]
  dsimp only
  rw [hnew]
  simp only [storeIntervention_new (newIntervention_intact hnew) hne]

theorem captureIntervention_kept (hfresh : Function.Injective fun n => nfc (ids n))
    (h : Sound ids w) :
    w.ledger.Kept (captureIntervention ids w principal t command now).1.ledger := by
  cases hresult : (captureIntervention ids w principal t command now).2 with
  | error f =>
    have hsame := captureIntervention_raises (Prod.ext rfl hresult)
    rw [hsame]
    exact Ledger.kept_refl _
  | ok r =>
    obtain ⟨c, hc, hreplay | ⟨hnone, -, hledger⟩⟩ := captureIntervention_ok hresult hfresh h
    · rw [captureIntervention_replay hc hreplay]
      exact Ledger.kept_refl _
    · rw [hledger]
      refine ⟨rfl, rfl, ?_⟩
      intro key replay hget
      rw [Dict.get?_set, if_neg]
      · exact hget
      · rintro rfl
        rw [hnone] at hget
        cases hget

theorem appendLifecycle_kept {eventId : String} {change : LifecycleChange} :
    w.ledger.Kept (appendLifecycle ids w principal t eventId change now).1.ledger := by
  unfold appendLifecycle
  split
  · exact Ledger.kept_refl _
  · exact Ledger.kept_refl _
  · split
    · exact Ledger.kept_refl _
    · split
      · exact Ledger.kept_refl _
      · exact ⟨rfl, rfl, fun _ _ h => h⟩

/-! ### Feedback -/

/-- What `capture_feedback` checks before it reads the records. -/
structure FeedbackChecks (principal : Principal) (t : Target) (command : OutcomeFeedbackCommand)
    (c : Checked) : Prop where
  admitted : admitted principal t = .ok c
  outcome : command.outcomeId = c.outcomeId
  evidence : command.evidenceId ∈ t.executionEvidenceIds
  reasons : command.reasonCodes.Nodup

def Ledger.current (l : Ledger) (t : Target) (c : Checked) (command : OutcomeFeedbackCommand) :
    Option OutcomeFeedbackRecord :=
  (l.subjectRecords (t.subject c command.evidenceId)).getLast?

/-- What is decided from the current record and the replay. -/
def decision (command : OutcomeFeedbackCommand) (current : Option OutcomeFeedbackRecord)
    (replay : Option (String × OutcomeFeedbackRecord)) : Except Failure FeedbackDecision :=
  let replayOr (fresh : Except Failure FeedbackDecision) : Except Failure FeedbackDecision :=
    match replay with
    | none => fresh
    | some replay =>
      if replay.1 = canonicalDigest command.json then .ok (.replayed replay.2)
      else .error (.conflict "OUTCOME_FEEDBACK_REPLAY_CONFLICT")
  match current, command.supersedesFeedbackId with
  | none, some _ => .error (.conflict "OUTCOME_FEEDBACK_SUPERSESSION_MISMATCH")
  | none, none => replayOr (.ok (.fresh none))
  | some record, none =>
    if record.assessment = command.assessment ∧ record.reasonCodes = command.reasonCodes then
      .ok (.again record)
    else .error (.conflict "OUTCOME_FEEDBACK_SUPERSESSION_REQUIRED")
  | some record, some superseded =>
    replayOr <|
      if superseded ≠ record.feedbackId then
        .error (.conflict "OUTCOME_FEEDBACK_SUPERSESSION_MISMATCH")
      else .ok (.fresh (some record))

variable {feedback : OutcomeFeedbackCommand}

theorem admitFeedback_eq (hc : FeedbackChecks principal t feedback c)
    (hintact : ∀ r ∈ l.feedback, r.Intact) :
    admitFeedback l principal t feedback
      = (decision feedback (l.current t c feedback)
          (l.feedbackReplays.get? (feedbackKey t c feedback))).map fun d => (c, d) := by
  have hrecords : ∃ records, l.feedbackOf t c = .ok records := by
    unfold Ledger.feedbackOf
    dsimp only
    rw [if_neg]
    · exact ⟨_, rfl⟩
    · rintro ⟨r, hr, hnot⟩
      exact hnot (hintact r (List.mem_of_mem_filter hr))
  obtain ⟨records, hrecords⟩ := hrecords
  have hmatch : ¬(feedback.outcomeId ≠ c.outcomeId
      ∨ feedback.evidenceId ∉ t.executionEvidenceIds) := by
    rintro (hne | hnot)
    · exact hne hc.outcome
    · exact hnot hc.evidence
  rw [admitFeedback, hc.admitted]
  show (if _ then _ else _) = _
  rw [if_neg hmatch, if_neg (not_not.mpr hc.reasons), hrecords]
  simp only [bind, Except.bind]
  rw [feedbackOf_ok hrecords, filter_subject l hc.evidence, ← Ledger.current]
  unfold decision
  cases l.current t c feedback with
  | none =>
    cases feedback.supersedesFeedbackId with
    | none =>
      cases l.feedbackReplays.get? (feedbackKey t c feedback) with
      | none => rfl
      | some replay =>
        dsimp only
        split <;> rfl
    | some superseded => rfl
  | some record =>
    cases feedback.supersedesFeedbackId with
    | none =>
      dsimp only
      split <;> rfl
    | some superseded =>
      cases l.feedbackReplays.get? (feedbackKey t c feedback) with
      | none =>
        dsimp only
        split <;> rfl
      | some replay =>
        dsimp only
        split <;> rfl

theorem checks_of_admitFeedback (hintact : ∀ r ∈ l.feedback, r.Intact) {d : FeedbackDecision}
    (h : admitFeedback l principal t feedback = .ok (c, d)) :
    FeedbackChecks principal t feedback c ∧ decision feedback (l.current t c feedback)
      (l.feedbackReplays.get? (feedbackKey t c feedback)) = .ok d := by
  have hh := h
  rw [admitFeedback] at hh
  obtain ⟨c', hadmitted, hh⟩ := bind_eq_ok.mp hh
  split at hh
  · cases hh
  · next hmatch =>
    split at hh
    · cases hh
    · next hreasons =>
      obtain ⟨houtcome, hevidence⟩ := not_or.mp hmatch
      have hc : FeedbackChecks principal t feedback c' :=
        ⟨hadmitted, not_not.mp houtcome, not_not.mp hevidence, not_not.mp hreasons⟩
      rw [admitFeedback_eq hc hintact] at h
      obtain ⟨d', hd, heq⟩ := map_eq_ok.mp h
      cases heq
      exact ⟨hc, hd⟩

omit [Unicodedata] in
theorem decision_ok {current : Option OutcomeFeedbackRecord}
    {replay : Option (String × OutcomeFeedbackRecord)} {d : FeedbackDecision}
    (h : decision feedback current replay = .ok d) :
    match d with
    | .again r => feedback.supersedesFeedbackId = none ∧ current = some r
        ∧ r.assessment = feedback.assessment ∧ r.reasonCodes = feedback.reasonCodes
    | .replayed r => replay = some (canonicalDigest feedback.json, r)
        ∧ current.isSome = feedback.supersedesFeedbackId.isSome
    | .fresh current' => current' = current ∧ replay = none
        ∧ feedback.supersedesFeedbackId = current.map OutcomeFeedbackRecord.feedbackId := by
  unfold decision at h
  cases current with
  | none =>
    cases hsupersedes : feedback.supersedesFeedbackId with
    | some superseded =>
      rw [hsupersedes] at h
      cases h
    | none =>
      rw [hsupersedes] at h
      cases replay with
      | none =>
        cases h
        exact ⟨rfl, rfl, rfl⟩
      | some replay =>
        dsimp only at h
        split at h
        · next hfingerprint =>
          cases h
          exact ⟨by rw [← hfingerprint], rfl⟩
        · cases h
  | some record =>
    cases hsupersedes : feedback.supersedesFeedbackId with
    | none =>
      rw [hsupersedes] at h
      dsimp only at h
      split at h
      · next hsame =>
        cases h
        exact ⟨rfl, rfl, hsame⟩
      · cases h
    | some superseded =>
      rw [hsupersedes] at h
      cases replay with
      | none =>
        dsimp only at h
        split at h
        · cases h
        · next hid =>
          cases h
          exact ⟨rfl, rfl, congrArg some (not_not.mp hid)⟩
      | some replay =>
        dsimp only at h
        split at h
        · next hfingerprint =>
          cases h
          exact ⟨by rw [← hfingerprint], rfl⟩
        · cases h

omit [Unicodedata] in
/-- A replay is what is decided, unless the current record is asked for. -/
theorem decision_replayed {current : Option OutcomeFeedbackRecord} {r : OutcomeFeedbackRecord}
    (hsome : current.isSome = feedback.supersedesFeedbackId.isSome) :
    decision feedback current (some (canonicalDigest feedback.json, r)) = .ok (.replayed r) := by
  unfold decision
  cases current <;> cases hsupersedes : feedback.supersedesFeedbackId <;>
    simp_all

/-- The tag of a replay: the record that is superseded. -/
def OutcomeFeedbackCommand.tag (command : OutcomeFeedbackCommand) : String :=
  (command.supersedesFeedbackId.filter (· ≠ "")).getD "NONE"

/-- The keys of the replays that return a record. -/
def OutcomeFeedbackRecord.key (r : OutcomeFeedbackRecord) (tag : String) : List String :=
  [r.tenantId, r.securityDomain, r.journeyId, r.outcomeId, r.evidenceId, tag]

/-- The fingerprint of the feedback that supersedes nothing and says the same. -/
def OutcomeFeedbackRecord.fingerprint (r : OutcomeFeedbackRecord) : String :=
  canonicalDigest (OutcomeFeedbackCommand.json
    ⟨r.outcomeId, r.evidenceId, r.assessment, r.reasonCodes, none⟩)

omit [Unicodedata] in
theorem feedbackKey_eq {r : OutcomeFeedbackRecord}
    (hsubject : r.subject = t.subject c feedback.evidenceId) :
    feedbackKey t c feedback = r.key feedback.tag := by
  simp only [OutcomeFeedbackRecord.subject, Target.subject,
    OutcomeFeedbackRecord.Subject.mk.injEq] at hsubject
  obtain ⟨h₁, h₂, h₃, -, -, h₄, h₅, -⟩ := hsubject
  rw [feedbackKey, OutcomeFeedbackRecord.key, h₁, h₂, h₃, h₄, h₅]
  rfl

theorem boundTo_of_subject (hc : FeedbackChecks principal t feedback c) {r : OutcomeFeedbackRecord}
    (hsubject : r.subject = t.subject c feedback.evidenceId) : r.BoundTo t := by
  obtain ⟨hidentity, houtcome⟩ := admitted_ok hc.admitted
  simp only [OutcomeFeedbackRecord.subject, Target.subject,
    OutcomeFeedbackRecord.Subject.mk.injEq] at hsubject
  obtain ⟨-, -, -, h₁, h₂, h₃, h₄, -⟩ := hsubject
  exact ⟨h₁, by rw [hidentity, h₂], by rw [houtcome, h₃], by rw [h₄]; exact hc.evidence⟩

omit [Unicodedata] in
theorem mem_of_current {r : OutcomeFeedbackRecord} (h : l.current t c feedback = some r) :
    r ∈ l.feedback ∧ r.subject = t.subject c feedback.evidenceId := by
  have hmem := List.mem_filter.mp (List.mem_of_getLast? h)
  exact ⟨hmem.1, by simpa using hmem.2⟩

/-- **What accepted feedback returns**: the current record, the record of a replay, or
a new record on the evidence of the target. -/
theorem captureFeedback_ok {r : OutcomeFeedbackRecord}
    (hok : (captureFeedback ids w principal t feedback now).2 = .ok r)
    (hfresh : Function.Injective fun n => nfc (ids n)) (h : Sound ids w) :
    ∃ c, FeedbackChecks principal t feedback c
      ∧ ((feedback.supersedesFeedbackId = none ∧ w.ledger.current t c feedback = some r
            ∧ r.assessment = feedback.assessment ∧ r.reasonCodes = feedback.reasonCodes
            ∧ (captureFeedback ids w principal t feedback now).1
              = { w with ledger := w.ledger.remember t c feedback r })
        ∨ (w.ledger.feedbackReplays.get? (feedbackKey t c feedback)
              = some (canonicalDigest feedback.json, r)
            ∧ (w.ledger.current t c feedback).isSome = feedback.supersedesFeedbackId.isSome
            ∧ (captureFeedback ids w principal t feedback now).1 = w)
        ∨ (w.ledger.feedbackReplays.get? (feedbackKey t c feedback) = none
            ∧ feedback.supersedesFeedbackId
              = (w.ledger.current t c feedback).map OutcomeFeedbackRecord.feedbackId
            ∧ r.subject = t.subject c feedback.evidenceId
            ∧ r.assessment = feedback.assessment ∧ r.reasonCodes = feedback.reasonCodes
            ∧ (∀ x ∈ w.ledger.feedback, x.feedbackId ≠ r.feedbackId)
            ∧ (captureFeedback ids w principal t feedback now).1.ledger
              = { w.ledger with feedback := w.ledger.feedback ++ [r] }.remember t c feedback r)) := by
  cases hadm : admitFeedback w.ledger principal t feedback with
  | error f =>
    rw [captureFeedback, hadm] at hok
    cases hok
  | ok result =>
    obtain ⟨c, d⟩ := result
    obtain ⟨hc, hdecision⟩ := checks_of_admitFeedback h.feedbackIntact hadm
    refine ⟨c, hc, ?_⟩
    have hd := decision_ok hdecision
    cases d with
    | again current =>
      left
      rw [captureFeedback, hadm] at hok ⊢
      cases hok
      exact ⟨hd.1, hd.2.1, hd.2.2.1, hd.2.2.2, rfl⟩
    | replayed record =>
      right; left
      rw [captureFeedback, hadm] at hok ⊢
      cases hok
      exact ⟨hd.1, hd.2, rfl⟩
    | fresh current =>
      right; right
      obtain ⟨rfl, hnone, hsupersedes⟩ := hd
      rw [captureFeedback, hadm] at hok ⊢
      dsimp only at hok ⊢
      split at hok
      · cases hok
      · next feedbackId hid =>
        split at hok
        · cases hok
        · next time htime =>
          have hne : ∀ x ∈ w.ledger.feedback, x.feedbackId
              ≠ (newFeedback principal t c feedback (w.ledger.current t c feedback) feedbackId
                time).feedbackId := by
            intro x hx
            show x.feedbackId ≠ feedbackId
            rw [issuedId_ok hid]
            exact (h.feedbackIds x hx).ne hfresh (Nat.le_refl _)
          have hverified : verifyFeedback (newFeedback principal t c feedback
              (w.ledger.current t c feedback) feedbackId time)
              = .ok (newFeedback principal t c feedback (w.ledger.current t c feedback)
                feedbackId time) := if_pos (OutcomeFeedbackRecord.intact_sealed _)
          simp only [appendFeedback_new hne, Except.bind, hverified] at hok ⊢
          cases hok
          exact ⟨hnone, hsupersedes, rfl, rfl, rfl, hne, rfl⟩

/-! ### The index of the feedback -/

/-- What the replays of feedback are to the records. -/
structure Indexed (l : Ledger) : Prop where
  /-- A replay returns a stored record under one of its keys. -/
  entries : ∀ key fingerprint x, l.feedbackReplays.get? key = some (fingerprint, x) →
    x ∈ l.feedback ∧ ∃ tag, key = x.key tag ∧ (tag = "NONE" → fingerprint = x.fingerprint)
  /-- Records that share a key are on one subject. -/
  groups : ∀ x ∈ l.feedback, ∀ y ∈ l.feedback, x.key "NONE" = y.key "NONE" → x.subject = y.subject
  /-- There is a replay of feedback that supersedes nothing for every record. -/
  indexed : ∀ x ∈ l.feedback, l.feedbackReplays.get? (x.key "NONE") ≠ none

omit [Unicodedata] in
theorem key_of_subject {x y : OutcomeFeedbackRecord} (h : x.subject = y.subject) {tag : String} :
    x.key tag = y.key tag := by
  simp only [OutcomeFeedbackRecord.subject, OutcomeFeedbackRecord.Subject.mk.injEq] at h
  obtain ⟨h₁, h₂, h₃, -, -, h₄, h₅, -⟩ := h
  rw [OutcomeFeedbackRecord.key, OutcomeFeedbackRecord.key, h₁, h₂, h₃, h₄, h₅]

omit [Unicodedata] in
theorem indexed_empty : Indexed State.empty.ledger := by
  refine ⟨?_, ?_, ?_⟩
  · intro key fingerprint x hget
    cases hget
  · intro x hx
    cases hx
  · intro x hx
    cases hx

omit [Unicodedata] in
theorem Indexed.congr (h : Indexed l) {l' : Ledger} (hk : l.Kept l') : Indexed l' := by
  obtain ⟨hentries, hgroups, hindexed⟩ := h
  refine ⟨?_, ?_, ?_⟩
  · rw [hk.feedback, hk.feedbackReplays]
    exact hentries
  · rw [hk.feedback]
    exact hgroups
  · rw [hk.feedback, hk.feedbackReplays]
    exact hindexed

/-- The tag of feedback that goes on with the current record is the record's. -/
theorem tag_ne_none (h : Sound ids w) {x : OutcomeFeedbackRecord} (hx : x ∈ w.ledger.feedback)
    (hsupersedes : feedback.supersedesFeedbackId = some x.feedbackId) : feedback.tag ≠ "NONE" := by
  obtain ⟨n, -, hid⟩ := h.feedbackIds x hx
  have hlist : x.feedbackId.toList = "outcome-feedback:".toList ++ (nfc (ids n)).toList := by
    rw [hid, drawn, String.toList_append, String.toList_append]
    rfl
  have hnonempty : x.feedbackId ≠ "" := by
    intro hempty
    rw [hempty] at hlist
    cases hlist
  have htag : feedback.tag = x.feedbackId := by
    rw [OutcomeFeedbackCommand.tag, hsupersedes]
    simp [Option.filter, hnonempty]
  rw [htag]
  intro hnone
  rw [hnone] at hlist
  cases hlist

omit [Unicodedata] in
theorem tag_none (h : feedback.supersedesFeedbackId = none) : feedback.tag = "NONE" := by
  rw [OutcomeFeedbackCommand.tag, h]
  rfl

/-- Feedback that supersedes nothing has the fingerprint of a record that says the
same. -/
theorem fingerprint_eq (hc : FeedbackChecks principal t feedback c) {r : OutcomeFeedbackRecord}
    (hsubject : r.subject = t.subject c feedback.evidenceId)
    (hassessment : r.assessment = feedback.assessment)
    (hreasons : r.reasonCodes = feedback.reasonCodes)
    (hnone : feedback.supersedesFeedbackId = none) :
    canonicalDigest feedback.json = r.fingerprint := by
  simp only [OutcomeFeedbackRecord.subject, Target.subject,
    OutcomeFeedbackRecord.Subject.mk.injEq] at hsubject
  obtain ⟨-, -, -, -, -, houtcome, hevidence, -⟩ := hsubject
  rw [OutcomeFeedbackRecord.fingerprint, houtcome, hevidence, hassessment, hreasons,
    ← hc.outcome, ← hnone]

omit [Unicodedata] in
/-- A record is put into the index. -/
theorem Indexed.remember (h : Indexed l) {l' : Ledger} {r : OutcomeFeedbackRecord}
    (hsub : ∀ x ∈ l.feedback, x ∈ l'.feedback) (hreplays : l'.feedbackReplays = l.feedbackReplays)
    (hgroups : ∀ x ∈ l'.feedback, ∀ y ∈ l'.feedback, x.key "NONE" = y.key "NONE" →
      x.subject = y.subject)
    (hindexed : ∀ x ∈ l'.feedback, x.key "NONE" = feedbackKey t c feedback
      ∨ l.feedbackReplays.get? (x.key "NONE") ≠ none)
    (hr : r ∈ l'.feedback) (hkey : feedbackKey t c feedback = r.key feedback.tag)
    (hprint : feedback.tag = "NONE" → canonicalDigest feedback.json = r.fingerprint) :
    Indexed (l'.remember t c feedback r) := by
  refine ⟨?_, hgroups, ?_⟩
  · intro key fingerprint x hget
    rw [Ledger.remember, Dict.get?_set, hreplays] at hget
    split at hget
    · next heq =>
      cases hget
      exact ⟨hr, feedback.tag, heq ▸ hkey, hprint⟩
    · obtain ⟨hx, hrest⟩ := h.entries key fingerprint x hget
      exact ⟨hsub x hx, hrest⟩
  · intro x hx
    rw [Ledger.remember, Dict.get?_set, hreplays]
    split
    · exact Option.some_ne_none _
    · next hne => exact (hindexed x hx).resolve_left fun heq => hne heq.symm

/-- **Feedback keeps the index.** -/
theorem captureFeedback_indexed (hfresh : Function.Injective fun n => nfc (ids n)) (h : Sound ids w)
    (hi : Indexed w.ledger) :
    Indexed (captureFeedback ids w principal t feedback now).1.ledger := by
  cases hresult : (captureFeedback ids w principal t feedback now).2 with
  | error f =>
    rw [captureFeedback_raises (Prod.ext rfl hresult)]
    exact hi
  | ok r =>
    obtain ⟨c, hc, ⟨hnone, hcurrent, hassessment, hreasons, hledger⟩ | ⟨-, -, hsame⟩
      | ⟨hget, hsupersedes, hsubject, hassessment, hreasons, hne, hledger⟩⟩ :=
        captureFeedback_ok hresult hfresh h
    · obtain ⟨hmem, hsubject⟩ := mem_of_current hcurrent
      rw [hledger]
      exact hi.remember (fun _ hx => hx) rfl hi.groups (fun x hx => .inr (hi.indexed x hx)) hmem
        (feedbackKey_eq hsubject) fun _ => fingerprint_eq hc hsubject hassessment hreasons hnone
    · rw [hsame]
      exact hi
    · rw [hledger]
      have hkey := feedbackKey_eq hsubject
      -- either the record is the first under its key, or it goes on with a stored one
      have hfirst : (feedback.supersedesFeedbackId = none ∧ feedbackKey t c feedback = r.key "NONE")
          ∨ ∃ x ∈ w.ledger.feedback, x.subject = r.subject
            ∧ feedback.supersedesFeedbackId = some x.feedbackId := by
        cases hcurrent : w.ledger.current t c feedback with
        | none =>
          left
          rw [hcurrent] at hsupersedes
          exact ⟨hsupersedes, by rw [hkey, tag_none hsupersedes]⟩
        | some x =>
          right
          obtain ⟨hx, hxsubject⟩ := mem_of_current hcurrent
          rw [hcurrent] at hsupersedes
          exact ⟨x, hx, hxsubject.trans hsubject.symm, hsupersedes⟩
      have hgroup : ∀ x ∈ w.ledger.feedback, x.key "NONE" = r.key "NONE" →
          x.subject = r.subject := by
        intro x hx hxkey
        rcases hfirst with ⟨-, hfirst⟩ | ⟨y, hy, hysubject, -⟩
        · refine absurd ?_ (hi.indexed x hx)
          rw [hxkey, ← hfirst, hget]
        · refine (hi.groups x hx y hy ?_).trans hysubject
          rw [hxkey, key_of_subject hysubject]
      refine hi.remember (fun x hx => List.mem_append_left _ hx) rfl ?_ ?_
        (List.mem_append_right _ (List.mem_singleton.mpr rfl)) hkey ?_
      · intro x hx y hy hxy
        rcases List.mem_append.mp hx with hx' | hx' <;> rcases List.mem_append.mp hy with hy' | hy'
        · exact hi.groups x hx' y hy' hxy
        · rw [List.mem_singleton.mp hy'] at hxy ⊢
          exact hgroup x hx' hxy
        · rw [List.mem_singleton.mp hx'] at hxy ⊢
          exact (hgroup y hy' hxy.symm).symm
        · rw [List.mem_singleton.mp hx', List.mem_singleton.mp hy']
      · intro x hx
        rcases List.mem_append.mp hx with hx | hx
        · exact .inr (hi.indexed x hx)
        · obtain rfl := List.mem_singleton.mp hx
          rcases hfirst with ⟨-, hfirst⟩ | ⟨y, hy, hysubject, -⟩
          · exact .inl hfirst.symm
          · right
            rw [← key_of_subject hysubject]
            exact hi.indexed y hy
      · intro htag
        rcases hfirst with ⟨hnone, -⟩ | ⟨y, hy, -, hsome⟩
        · exact fingerprint_eq hc hsubject hassessment hreasons hnone
        · exact absurd htag (tag_ne_none h hy hsome)

/-! ### What an answered call is remembered by -/

/-- The record is the current one on its evidence. -/
def Ledger.IsCurrent (l : Ledger) (r : OutcomeFeedbackRecord) : Prop :=
  (l.subjectRecords r.subject).getLast? = some r

/-- What is kept of feedback that was answered with a record. -/
structure Remembered (l : Ledger) (t : Target) (c : Checked) (command : OutcomeFeedbackCommand)
    (r : OutcomeFeedbackRecord) : Prop where
  stored : r ∈ l.feedback
  /-- What went on with a record still can. -/
  goesOn : command.supersedesFeedbackId ≠ none → (l.current t c command).isSome = true
  /-- A replay that names a record is kept for good. -/
  named : command.tag ≠ "NONE" → l.feedbackReplays.get? (feedbackKey t c command)
    = some (canonicalDigest command.json, r)
  key : command.tag = "NONE" → feedbackKey t c command = r.key "NONE"
  print : command.tag = "NONE" → canonicalDigest command.json = r.fingerprint
  /-- A replay that names none is kept while its record is the current one. -/
  latest : command.tag = "NONE" → l.IsCurrent r →
    l.feedbackReplays.get? (feedbackKey t c command) = some (canonicalDigest command.json, r)
  same : command.supersedesFeedbackId = none → r.subject = t.subject c command.evidenceId →
    r.assessment = command.assessment ∧ r.reasonCodes = command.reasonCodes

omit [Unicodedata] in
theorem subjectRecords_append (l : Ledger) (y : OutcomeFeedbackRecord)
    (k : OutcomeFeedbackRecord.Subject) :
    ({ l with feedback := l.feedback ++ [y] } : Ledger).subjectRecords k
      = l.subjectRecords k ++ if y.subject = k then [y] else [] := by
  rw [Ledger.subjectRecords, List.filter_append, Ledger.subjectRecords]
  by_cases hk : y.subject = k
  · rw [if_pos hk, List.filter_cons_of_pos (by simpa using hk), List.filter_nil]
  · rw [if_neg hk, List.filter_cons_of_neg (by simpa using hk), List.filter_nil]

omit [Unicodedata] in
theorem tag_of_key {command command' : OutcomeFeedbackCommand} {t' : Target} {c' : Checked}
    (h : feedbackKey t c command = feedbackKey t' c' command') : command.tag = command'.tag := by
  simp only [feedbackKey, List.cons.injEq, and_true] at h
  exact h.2.2.2.2.2

omit [Unicodedata] in
theorem Remembered.congr {command : OutcomeFeedbackCommand} {r : OutcomeFeedbackRecord}
    (h : Remembered l t c command r) {l' : Ledger} (hk : l.Kept l') :
    Remembered l' t c command r := by
  have hsubject : ∀ k, l'.subjectRecords k = l.subjectRecords k := by
    intro k
    rw [Ledger.subjectRecords, hk.feedback]
    rfl
  refine ⟨?_, ?_, ?_, h.key, h.print, ?_, h.same⟩
  · rw [hk.feedback]
    exact h.stored
  · rw [Ledger.current, hsubject]
    exact h.goesOn
  · rw [hk.feedbackReplays]
    exact h.named
  · rw [Ledger.IsCurrent, hsubject, hk.feedbackReplays]
    exact h.latest

/-- **An answered call is remembered.** -/
theorem remembered_of_ok {r : OutcomeFeedbackRecord}
    (hok : (captureFeedback ids w principal t feedback now).2 = .ok r)
    (hfresh : Function.Injective fun n => nfc (ids n)) (h : Sound ids w) (hi : Indexed w.ledger) :
    ∃ c, FeedbackChecks principal t feedback c
      ∧ Remembered (captureFeedback ids w principal t feedback now).1.ledger t c feedback r := by
  obtain ⟨c, hc, ⟨hnone, hcurrent, hassessment, hreasons, hledger⟩ | ⟨hget, hsome, hsame⟩
    | ⟨hget, hsupersedes, hsubject, hassessment, hreasons, hne, hledger⟩⟩ :=
      captureFeedback_ok hok hfresh h
  · obtain ⟨hmem, hsubject⟩ := mem_of_current hcurrent
    have hkey := feedbackKey_eq hsubject
    refine ⟨c, hc, ?_⟩
    rw [hledger]
    refine ⟨hmem, fun hne => absurd hnone hne, fun hne => absurd (tag_none hnone) hne, ?_, ?_, ?_,
      fun _ _ => ⟨hassessment, hreasons⟩⟩
    · intro htag
      rw [hkey, htag]
    · exact fun _ => fingerprint_eq hc hsubject hassessment hreasons hnone
    · exact fun _ _ => Dict.get?_set_self _ _ _
  · refine ⟨c, hc, ?_⟩
    rw [hsame]
    obtain ⟨hmem, tag, hkey, hprint⟩ := hi.entries _ _ _ hget
    have htag : feedback.tag = tag := by
      simp only [feedbackKey, OutcomeFeedbackRecord.key, List.cons.injEq, and_true] at hkey
      exact hkey.2.2.2.2.2
    refine ⟨hmem, ?_, fun _ => hget, ?_, ?_, fun _ _ => hget, ?_⟩
    · intro hne
      rw [hsome]
      exact Option.isSome_iff_ne_none.mpr hne
    · intro hnone
      rw [hkey, ← htag, hnone]
    · exact fun hnone => hprint (htag.symm.trans hnone)
    · intro hnone hsubject
      -- nothing is current, so that the record is on another subject
      rw [hnone] at hsome
      have hempty := Option.not_isSome_iff_eq_none.mp (by rw [hsome]; simp)
      rw [Ledger.current, List.getLast?_eq_none_iff] at hempty
      have hself : r ∈ w.ledger.subjectRecords (t.subject c feedback.evidenceId) := by
        rw [Ledger.subjectRecords, List.mem_filter]
        exact ⟨hmem, by simpa using hsubject⟩
      rw [hempty] at hself
      cases hself
  · have hkey := feedbackKey_eq hsubject
    refine ⟨c, hc, ?_⟩
    rw [hledger]
    refine ⟨List.mem_append_right _ (List.mem_singleton.mpr rfl), ?_,
      fun _ => Dict.get?_set_self _ _ _, ?_, ?_, fun _ _ => Dict.get?_set_self _ _ _,
      fun _ _ => ⟨hassessment, hreasons⟩⟩
    · intro _
      show (({ w.ledger with feedback := w.ledger.feedback ++ [r] } : Ledger).subjectRecords
        (t.subject c feedback.evidenceId)).getLast?.isSome = true
      rw [subjectRecords_append, if_pos hsubject, List.getLast?_concat]
      rfl
    · intro htag
      rw [hkey, htag]
    · intro htag
      refine fingerprint_eq hc hsubject hassessment hreasons ?_
      cases hcurrent : w.ledger.current t c feedback with
      | none =>
        rw [hcurrent] at hsupersedes
        exact hsupersedes
      | some x =>
        rw [hcurrent] at hsupersedes
        exact absurd htag (tag_ne_none h (mem_of_current hcurrent).1 hsupersedes)

/-- **Other feedback leaves what is remembered.** -/
theorem Remembered.captureFeedback {t' : Target} {c' : Checked} {command : OutcomeFeedbackCommand}
    {r : OutcomeFeedbackRecord} (hr : Remembered w.ledger t' c' command r)
    (hfresh : Function.Injective fun n => nfc (ids n)) (h : Sound ids w) (hi : Indexed w.ledger) :
    Remembered (Feedback.captureFeedback ids w principal t feedback now).1.ledger t' c' command r := by
  cases hresult : (Feedback.captureFeedback ids w principal t feedback now).2 with
  | error f =>
    rw [captureFeedback_raises (Prod.ext rfl hresult)]
    exact hr
  | ok y =>
    obtain ⟨c, hc, ⟨hnone, hcurrent, hassessment, hreasons, hledger⟩ | ⟨-, -, hsame⟩
      | ⟨hget, -, hsubject, -, -, hne, hledger⟩⟩ := captureFeedback_ok hresult hfresh h
    · obtain ⟨hy, hsubject⟩ := mem_of_current hcurrent
      have htag := tag_none hnone
      have hkey := feedbackKey_eq hsubject
      rw [hledger]
      refine ⟨hr.stored, hr.goesOn, ?_, hr.key, hr.print, ?_, hr.same⟩
      · intro hnamed
        refine (Dict.get?_set_of_ne _ _ ?_).trans (hr.named hnamed)
        intro heq
        exact hnamed ((tag_of_key heq).symm.trans htag)
      · intro hnamed hcur
        show (w.ledger.feedbackReplays.set _ _).get? _ = _
        rw [Dict.get?_set]
        split
        · next heq =>
          -- the record that is current under the key is the remembered one
          have hgroup : y.subject = r.subject := by
            refine hi.groups y hy r hr.stored ?_
            rw [← hr.key hnamed, ← heq, hkey, htag]
          have hlast : w.ledger.IsCurrent y := by
            rw [Ledger.IsCurrent, hsubject]
            exact hcurrent
          have hyr : y = r := by
            rw [Ledger.IsCurrent, hgroup] at hlast
            exact Option.some.inj (hlast.symm.trans hcur)
          rw [hr.print hnamed, ← hyr,
            fingerprint_eq hc hsubject hassessment hreasons hnone]
        · exact hr.latest hnamed hcur
    · rw [hsame]
      exact hr
    · have hother : ∀ {replay}, w.ledger.feedbackReplays.get? (feedbackKey t' c' command)
          = some replay → feedbackKey t c feedback ≠ feedbackKey t' c' command := by
        intro replay hsome heq
        rw [← heq, hget] at hsome
        cases hsome
      rw [hledger]
      refine ⟨List.mem_append_left _ hr.stored, ?_, ?_, hr.key, hr.print, ?_, hr.same⟩
      · intro hsupersedes
        show (({ w.ledger with feedback := w.ledger.feedback ++ [y] } : Ledger).subjectRecords
          (t'.subject c' command.evidenceId)).getLast?.isSome = true
        rw [subjectRecords_append, List.getLast?_append, Option.isSome_or]
        have hgoes := hr.goesOn hsupersedes
        rw [Ledger.current] at hgoes
        rw [hgoes, Bool.or_true]
      · intro hnamed
        have hold := hr.named hnamed
        exact (Dict.get?_set_of_ne _ _ (hother hold)).trans hold
      · intro hnamed hcur
        have hcur' : (({ w.ledger with feedback := w.ledger.feedback ++ [y] } : Ledger).subjectRecords
          r.subject).getLast? = some r := hcur
        rw [subjectRecords_append] at hcur'
        by_cases hgroup : y.subject = r.subject
        · rw [if_pos hgroup, List.getLast?_concat] at hcur'
          exact absurd (congrArg OutcomeFeedbackRecord.feedbackId (Option.some.inj hcur').symm)
            (hne r hr.stored)
        · rw [if_neg hgroup, List.append_nil] at hcur'
          have hold := hr.latest hnamed hcur'
          exact (Dict.get?_set_of_ne _ _ (hother hold)).trans hold

/-- **A remembered call is answered again** with the same record, and changes nothing. -/
theorem Remembered.again (hc : FeedbackChecks principal t feedback c) {r : OutcomeFeedbackRecord}
    (hr : Remembered w.ledger t c feedback r) (h : Sound ids w) (hi : Indexed w.ledger)
    (hcurrent : feedback.tag = "NONE" → w.ledger.IsCurrent r) (now : Option String) :
    Feedback.captureFeedback ids w principal t feedback now = (w, .ok r) := by
  have hget : w.ledger.feedbackReplays.get? (feedbackKey t c feedback)
      = some (canonicalDigest feedback.json, r) := by
    by_cases htag : feedback.tag = "NONE"
    · exact hr.latest htag (hcurrent htag)
    · exact hr.named htag
  have hreplayed : (w.ledger.current t c feedback).isSome = feedback.supersedesFeedbackId.isSome →
      Feedback.captureFeedback ids w principal t feedback now = (w, .ok r) := by
    intro hsome
    rw [Feedback.captureFeedback, admitFeedback_eq hc h.feedbackIntact, hget,
      decision_replayed hsome]
    rfl
  cases hsupersedes : feedback.supersedesFeedbackId with
  | some superseded =>
    apply hreplayed
    rw [hr.goesOn (by rw [hsupersedes]; exact Option.some_ne_none _), hsupersedes]
    rfl
  | none =>
    cases hcur : w.ledger.current t c feedback with
    | none =>
      apply hreplayed
      rw [hcur, hsupersedes]
      rfl
    | some y =>
      have htag := tag_none hsupersedes
      obtain ⟨hy, hsubject⟩ := mem_of_current hcur
      have hgroup : y.subject = r.subject := by
        refine hi.groups y hy r hr.stored ?_
        rw [← hr.key htag, feedbackKey_eq hsubject, htag]
      have hlast := hcurrent htag
      rw [Ledger.IsCurrent, ← hgroup, hsubject] at hlast
      obtain rfl : y = r := Option.some.inj (hcur.symm.trans hlast)
      obtain ⟨hassessment, hreasons⟩ := hr.same hsupersedes hsubject
      have hdecision : decision feedback (some y)
          (some (canonicalDigest feedback.json, y)) = .ok (.again y) := by
        unfold decision
        rw [hsupersedes]
        exact if_pos ⟨hassessment, hreasons⟩
      have hremember : w.ledger.remember t c feedback y = w.ledger := by
        rw [Ledger.remember, Dict.set_eq_self hget]
      rw [Feedback.captureFeedback, admitFeedback_eq hc h.feedbackIntact, hget, hcur, hdecision]
      show ({ w with ledger := w.ledger.remember t c feedback y }, Except.ok y) = _
      rw [hremember]

/-! ### Runs of captures -/

/-- What a capture returns. -/
inductive Captured
  | intervention (r : InterventionEventRecord)
  | feedback (r : OutcomeFeedbackRecord)

def Captured.BoundTo : Captured → Target → Prop
  | .intervention r, t => r.BoundTo t
  | .feedback r, t => r.BoundTo t

def Call.target : Call → Target
  | .intervention _ t _ _ => t
  | .lifecycle _ t _ _ _ => t
  | .feedback _ t _ _ => t

/-- What a call returns, if it is a capture that is accepted. -/
def State.answer (ids : Nat → String) (w : State) : Call → Option Captured
  | .intervention principal t command now =>
    match (captureIntervention ids w principal t command now).2 with
    | .ok r => some (.intervention r)
    | .error _ => none
  | .lifecycle _ _ _ _ _ => none
  | .feedback principal t command now =>
    match (captureFeedback ids w principal t command now).2 with
    | .ok r => some (.feedback r)
    | .error _ => none

/-- The captures with the same principal, target and command, at any time. -/
def Call.Repeats : Call → Call → Prop
  | .intervention principal t command _, .intervention principal' t' command' _ =>
    principal = principal' ∧ t = t' ∧ command = command'
  | .feedback principal t command _, .feedback principal' t' command' _ =>
    principal = principal' ∧ t = t' ∧ command = command'
  | _, _ => False

/-- The state after calls, from the empty service. -/
def State.after (ids : Nat → String) (calls : List Call) : State :=
  calls.foldl (fun w call => (w.step ids call).1) State.empty

/-- A replay that answers the call is of the execution of its target. The key of an
intervention leaves out the platform execution, the outcome and the evidence, and the
key of feedback the successor revision and the platform execution. -/
def State.Own (w : State) : Call → Prop
  | .intervention principal t command _ => ∀ c r, InterventionChecks principal t command c →
    w.ledger.interventionReplays.get? (interventionKey t command)
      = some (canonicalDigest command.json, r) →
    t.platformExecutionIdentity = some r.platformExecutionIdentity
      ∧ t.outcomeId = some r.outcomeId ∧ r.executionEvidenceIds = t.executionEvidenceIds
  | .lifecycle _ _ _ _ _ => True
  | .feedback principal t command _ => ∀ c r, FeedbackChecks principal t command c →
    w.ledger.feedbackReplays.get? (feedbackKey t c command)
      = some (canonicalDigest command.json, r) →
    (w.ledger.current t c command).isSome = command.supersedesFeedbackId.isSome →
    r.canonicalWorkflowRevisionId = t.successorRevisionId
      ∧ t.platformExecutionIdentity = some r.platformExecutionIdentity

/-- Feedback that supersedes nothing is made again while its record is the current one. -/
def State.Latest (w : State) : Call → Captured → Prop
  | .feedback _ _ command _, .feedback r => command.tag = "NONE" → w.ledger.IsCurrent r
  | _, _ => True

/-- The condition on the calls of a run, each in the state that it meets. -/
structure Undisturbed (ids : Nat → String) (calls : List Call) : Prop where
  own : ∀ before call rest, calls = before ++ call :: rest → (State.after ids before).Own call
  latest : ∀ before first middle call rest answer,
    calls = before ++ first :: middle ++ call :: rest → call.Repeats first →
    (State.after ids before).answer ids first = some answer →
    (State.after ids (before ++ first :: middle)).Latest call answer

/-- Captures are bound to their targets, and made again they return the same record and
change nothing. -/
structure Faithful (ids : Nat → String) (calls : List Call) : Prop where
  bound : ∀ before call rest answer, calls = before ++ call :: rest →
    (State.after ids before).answer ids call = some answer → answer.BoundTo call.target
  again : ∀ before first middle call rest answer,
    calls = before ++ first :: middle ++ call :: rest → call.Repeats first →
    (State.after ids before).answer ids first = some answer →
    (State.after ids (before ++ first :: middle)).answer ids call = some answer
      ∧ ((State.after ids (before ++ first :: middle)).step ids call).1
        = State.after ids (before ++ first :: middle)

/-- What holds of every state of a run. -/
structure Reached (ids : Nat → String) (w : State) : Prop where
  sound : Sound ids w
  indexed : Indexed w.ledger
  /-- The key of a replay of an intervention has the successor of its record. -/
  origins : ∀ key fingerprint r, w.ledger.interventionReplays.get? key = some (fingerprint, r) →
    key[3]? = some r.successorRevisionId

theorem reached_empty : Reached ids State.empty := by
  refine ⟨sound_empty, indexed_empty, ?_⟩
  intro key fingerprint r hget
  cases hget

theorem captureFeedback_interventionReplays (hfresh : Function.Injective fun n => nfc (ids n))
    (h : Sound ids w) :
    (captureFeedback ids w principal t feedback now).1.ledger.interventionReplays
      = w.ledger.interventionReplays := by
  cases hresult : (captureFeedback ids w principal t feedback now).2 with
  | error f => rw [captureFeedback_raises (Prod.ext rfl hresult)]
  | ok r =>
    obtain ⟨c, -, ⟨-, -, -, -, hstate⟩ | ⟨-, -, hstate⟩ | ⟨-, -, -, -, -, -, hledger⟩⟩ :=
      captureFeedback_ok hresult hfresh h
    · rw [hstate]
      rfl
    · rw [hstate]
    · rw [hledger]
      rfl

theorem appendLifecycle_interventionReplays {eventId : String} {change : LifecycleChange} :
    (appendLifecycle ids w principal t eventId change now).1.ledger.interventionReplays
      = w.ledger.interventionReplays := by
  unfold appendLifecycle
  split
  · rfl
  · rfl
  · split
    · rfl
    · split <;> rfl

theorem captureIntervention_origins (hfresh : Function.Injective fun n => nfc (ids n))
    (h : Reached ids w) {key : List String} {fingerprint : String} {r : InterventionEventRecord}
    (hget : (captureIntervention ids w principal t command now).1.ledger.interventionReplays.get? key
      = some (fingerprint, r)) : key[3]? = some r.successorRevisionId := by
  cases hresult : (captureIntervention ids w principal t command now).2 with
  | error f =>
    rw [captureIntervention_raises (Prod.ext rfl hresult)] at hget
    exact h.origins key fingerprint r hget
  | ok record =>
    obtain ⟨c, hc, hreplay | ⟨-, hbound, hledger⟩⟩ := captureIntervention_ok hresult hfresh h.sound
    · rw [captureIntervention_replay hc hreplay] at hget
      exact h.origins key fingerprint r hget
    · rw [hledger, Dict.get?_set] at hget
      split at hget
      · next heq =>
        cases hget
        rw [← heq, hbound.1]
        rfl
      · exact h.origins key fingerprint r hget

/-- **A call keeps what holds of the states of a run.** -/
theorem Reached.step (hfresh : Function.Injective fun n => nfc (ids n)) (h : Reached ids w)
    (call : Call) : Reached ids (w.step ids call).1 := by
  have hsound := step_sound hfresh h.sound call
  cases call with
  | intervention principal t command now =>
    exact ⟨hsound, h.indexed.congr (captureIntervention_kept hfresh h.sound),
      fun _ _ _ => captureIntervention_origins hfresh h⟩
  | lifecycle principal t eventId change now =>
    refine ⟨hsound, h.indexed.congr appendLifecycle_kept, ?_⟩
    intro key fingerprint r hget
    exact h.origins key fingerprint r (appendLifecycle_interventionReplays ▸ hget)
  | feedback principal t command now =>
    refine ⟨hsound, captureFeedback_indexed hfresh h.sound h.indexed, ?_⟩
    intro key fingerprint r hget
    exact h.origins key fingerprint r (captureFeedback_interventionReplays hfresh h.sound ▸ hget)

theorem after_concat (before : List Call) (call : Call) :
    State.after ids (before ++ [call]) = ((State.after ids before).step ids call).1 := by
  rw [State.after, List.foldl_append]
  rfl

theorem reached_after (hfresh : Function.Injective fun n => nfc (ids n)) (calls : List Call) :
    Reached ids (State.after ids calls) := by
  induction calls using List.reverseRecOn with
  | nil => exact reached_empty
  | append_singleton before call ih =>
    rw [after_concat]
    exact ih.step hfresh call

/-- What is kept of a call that was answered. -/
def Answered (w : State) : Call → Captured → Prop
  | .intervention principal t command _, .intervention r =>
    ∃ c, InterventionChecks principal t command c
      ∧ w.ledger.interventionReplays.get? (interventionKey t command)
        = some (canonicalDigest command.json, r)
  | .feedback principal t command _, .feedback r =>
    ∃ c, FeedbackChecks principal t command c ∧ Remembered w.ledger t c command r
  | _, _ => False

theorem answer_intervention {r : Captured}
    (h : w.answer ids (.intervention principal t command now) = some r) :
    ∃ record, r = .intervention record
      ∧ (captureIntervention ids w principal t command now).2 = .ok record := by
  rw [State.answer] at h
  split at h
  · next record hok =>
    cases h
    exact ⟨record, rfl, hok⟩
  · cases h

theorem answer_feedback {r : Captured}
    (h : w.answer ids (.feedback principal t feedback now) = some r) :
    ∃ record, r = .feedback record
      ∧ (captureFeedback ids w principal t feedback now).2 = .ok record := by
  rw [State.answer] at h
  split at h
  · next record hok =>
    cases h
    exact ⟨record, rfl, hok⟩
  · cases h

/-- **What is answered is kept.** -/
theorem answered_of_answer (hfresh : Function.Injective fun n => nfc (ids n)) (h : Reached ids w)
    {call : Call} {answer : Captured} (hanswer : w.answer ids call = some answer) :
    Answered (w.step ids call).1 call answer := by
  cases call with
  | intervention principal t command now =>
    obtain ⟨r, rfl, hok⟩ := answer_intervention hanswer
    obtain ⟨c, hc, hreplay | ⟨-, -, hledger⟩⟩ := captureIntervention_ok hok hfresh h.sound
    · refine ⟨c, hc, ?_⟩
      show (captureIntervention ids w principal t command now).1.ledger.interventionReplays.get? _ = _
      rw [captureIntervention_replay hc hreplay]
      exact hreplay
    · refine ⟨c, hc, ?_⟩
      show (captureIntervention ids w principal t command now).1.ledger.interventionReplays.get? _ = _
      rw [hledger]
      exact Dict.get?_set_self _ _ _
  | lifecycle principal t eventId change now => cases hanswer
  | feedback principal t command now =>
    obtain ⟨r, rfl, hok⟩ := answer_feedback hanswer
    exact remembered_of_ok hok hfresh h.sound h.indexed

/-- **What is kept of an answered call stays**, whatever is called next. -/
theorem Answered.step (hfresh : Function.Injective fun n => nfc (ids n)) (h : Reached ids w)
    {first : Call} {answer : Captured} (hfirst : Answered w first answer) (call : Call) :
    Answered (w.step ids call).1 first answer := by
  cases first with
  | lifecycle principal t eventId change now => exact hfirst.elim
  | intervention principal t command now =>
    cases answer with
    | feedback r => exact hfirst.elim
    | intervention r =>
      obtain ⟨c, hc, hreplay⟩ := hfirst
      refine ⟨c, hc, ?_⟩
      cases call with
      | intervention principal' t' command' now' =>
        exact (captureIntervention_kept hfresh h.sound).replays _ _ hreplay
      | lifecycle principal' t' eventId change now' =>
        exact appendLifecycle_kept.replays _ _ hreplay
      | feedback principal' t' command' now' =>
        exact captureFeedback_interventionReplays hfresh h.sound ▸ hreplay
  | feedback principal t command now =>
    cases answer with
    | intervention r => exact hfirst.elim
    | feedback r =>
      obtain ⟨c, hc, hremembered⟩ := hfirst
      refine ⟨c, hc, ?_⟩
      cases call with
      | intervention principal' t' command' now' =>
        exact hremembered.congr (captureIntervention_kept hfresh h.sound)
      | lifecycle principal' t' eventId change now' =>
        exact hremembered.congr appendLifecycle_kept
      | feedback principal' t' command' now' =>
        exact hremembered.captureFeedback hfresh h.sound h.indexed

theorem answered_after (hfresh : Function.Injective fun n => nfc (ids n)) {before : List Call}
    {first : Call} {answer : Captured} (middle : List Call)
    (hanswer : (State.after ids before).answer ids first = some answer) :
    Answered (State.after ids (before ++ first :: middle)) first answer := by
  induction middle using List.reverseRecOn with
  | nil =>
    rw [after_concat]
    exact answered_of_answer hfresh (reached_after hfresh before) hanswer
  | append_singleton middle call ih =>
    have hassoc : before ++ first :: (middle ++ [call]) = before ++ first :: middle ++ [call] := by
      simp
    rw [hassoc, after_concat]
    exact ih.step hfresh (reached_after hfresh _) call

/-- **A call that is made again** is answered the same. -/
theorem Answered.again (h : Reached ids w) {first call : Call} {answer : Captured}
    (hfirst : Answered w first answer) (hrepeats : call.Repeats first)
    (hlatest : w.Latest call answer) :
    w.answer ids call = some answer ∧ (w.step ids call).1 = w := by
  cases first with
  | lifecycle principal t eventId change now => exact hfirst.elim
  | intervention principal t command now =>
    cases answer with
    | feedback r => exact hfirst.elim
    | intervention r =>
      cases call with
      | lifecycle principal' t' eventId change now' => exact hrepeats.elim
      | feedback principal' t' command' now' => exact hrepeats.elim
      | intervention principal' t' command' now' =>
        obtain ⟨rfl, rfl, rfl⟩ := hrepeats
        obtain ⟨c, hc, hreplay⟩ := hfirst
        rw [State.answer, State.step, captureIntervention_replay hc hreplay now']
        exact ⟨rfl, rfl⟩
  | feedback principal t command now =>
    cases answer with
    | intervention r => exact hfirst.elim
    | feedback r =>
      cases call with
      | lifecycle principal' t' eventId change now' => exact hrepeats.elim
      | intervention principal' t' command' now' => exact hrepeats.elim
      | feedback principal' t' command' now' =>
        obtain ⟨rfl, rfl, rfl⟩ := hrepeats
        obtain ⟨c, hc, hremembered⟩ := hfirst
        have hagain := hremembered.again hc h.sound h.indexed hlatest now'
        rw [State.answer, State.step, hagain]
        exact ⟨rfl, rfl⟩

/-- A capture that meets a replay only of its own execution is bound to its target. -/
theorem bound_of_own (hfresh : Function.Injective fun n => nfc (ids n)) (h : Reached ids w)
    {call : Call} (hown : w.Own call) {answer : Captured}
    (hanswer : w.answer ids call = some answer) : answer.BoundTo call.target := by
  cases call with
  | lifecycle principal t eventId change now => cases hanswer
  | intervention principal t command now =>
    obtain ⟨r, rfl, hok⟩ := answer_intervention hanswer
    obtain ⟨c, hc, hreplay | ⟨-, hbound, -⟩⟩ := captureIntervention_ok hok hfresh h.sound
    · obtain ⟨hidentity, houtcome, hevidence⟩ := hown c r hc hreplay
      have hsuccessor := h.origins _ _ _ hreplay
      exact ⟨(Option.some.inj hsuccessor).symm, hidentity, houtcome, hevidence⟩
    · exact hbound
  | feedback principal t command now =>
    obtain ⟨r, rfl, hok⟩ := answer_feedback hanswer
    obtain ⟨c, hc, ⟨-, hcurrent, -⟩ | ⟨hreplay, hsome, -⟩ | ⟨-, -, hsubject, -⟩⟩ :=
      captureFeedback_ok hok hfresh h.sound
    · exact boundTo_of_subject hc (mem_of_current hcurrent).2
    · obtain ⟨hrevision, hidentity⟩ := hown c r hc hreplay hsome
      obtain ⟨-, tag, hkey, -⟩ := h.indexed.entries _ _ _ hreplay
      simp only [feedbackKey, OutcomeFeedbackRecord.key, List.cons.injEq, and_true] at hkey
      obtain ⟨-, -, -, houtcome, hevidence, -⟩ := hkey
      refine ⟨hrevision, hidentity, ?_, ?_⟩
      · show t.outcomeId = _
        rw [(admitted_ok hc.admitted).2, houtcome]
      · rw [← hevidence]
        exact hc.evidence
    · exact boundTo_of_subject hc hsubject

/-- **Captures are idempotent and bound to their targets**, in every run whose calls meet
replays only of their own execution, and repeat feedback that supersedes nothing only
while its record is the current one. -/
theorem captures_faithful (hfresh : Function.Injective fun n => nfc (ids n)) (calls : List Call)
    (h : Undisturbed ids calls) : Faithful ids calls := by
  refine ⟨?_, ?_⟩
  · intro before call rest answer hcalls hanswer
    exact bound_of_own hfresh (reached_after hfresh before) (h.own before call rest hcalls) hanswer
  · intro before first middle call rest answer hcalls hrepeats hanswer
    have hlatest := h.latest before first middle call rest answer hcalls hrepeats hanswer
    exact (answered_after hfresh middle hanswer).again (reached_after hfresh _) hrepeats hlatest

/-- A correction that is captured twice meets its own replay. -/
theorem undisturbed_of_again (hfresh : Function.Injective fun n => nfc (ids n)) :
    Undisturbed ids
      [.intervention principal t command now, .intervention principal t command now] := by
  refine ⟨?_, ?_⟩
  · intro before call rest hcalls
    cases before with
    | nil =>
      obtain ⟨rfl, -⟩ := List.cons_eq_cons.mp hcalls
      intro c r _ hget
      cases hget
    | cons first before =>
      obtain ⟨rfl, hrest⟩ := List.cons_eq_cons.mp hcalls
      cases before with
      | nil =>
        obtain ⟨rfl, -⟩ := List.cons_eq_cons.mp hrest
        intro c r _ hget
        have hget' : (captureIntervention ids State.empty principal t command
          now).1.ledger.interventionReplays.get? (interventionKey t command)
            = some (canonicalDigest command.json, r) := hget
        cases hresult : (captureIntervention ids State.empty principal t command now).2 with
        | error f =>
          rw [captureIntervention_raises (Prod.ext rfl hresult)] at hget'
          cases hget'
        | ok record =>
          obtain ⟨-, -, hreplay | ⟨-, hbound, hledger⟩⟩ :=
            captureIntervention_ok hresult hfresh sound_empty
          · cases hreplay
          · rw [hledger, Dict.get?_set_self] at hget'
            cases hget'
            exact hbound.2
      | cons second before =>
        obtain ⟨-, hnil⟩ := List.cons_eq_cons.mp hrest
        cases before <;> cases hnil
  · intro before first middle call rest answer hcalls _ _
    have hmem : call ∈ [Call.intervention principal t command now,
        Call.intervention principal t command now] := by
      rw [hcalls]
      simp
    obtain rfl : call = Call.intervention principal t command now := by simpa using hmem
    trivial

/-- A correction that is captured for other evidence under the same key is answered with
the record of the evidence before. -/
theorem unbound_of_evidence {t' : Target} {c' : Checked} {time digest : String}
    (hc : InterventionChecks principal t command c) (hc' : InterventionChecks principal t' command c')
    (hkey : interventionKey t' command = interventionKey t command)
    (hevidence : t'.executionEvidenceIds ≠ t.executionEvidenceIds)
    (hevent : isIdentifier (nfc (ids 0)) = true) (hrecord : isIdentifier (nfc (ids 1)) = true)
    (hdigest : t.predecessorDigest = some digest)
    (hfresh : Function.Injective fun n => nfc (ids n)) :
    ¬ Faithful ids [.intervention principal t command (some time),
      .intervention principal t' command (some time)] := by
  intro h
  obtain ⟨r, hok⟩ : ∃ r, (captureIntervention ids State.empty principal t command
      (some time)).2 = .ok r :=
    captureIntervention_accepted hc rfl hevent hrecord hdigest hfresh sound_empty
  obtain ⟨-, -, hreplay | ⟨-, hbound, hledger⟩⟩ := captureIntervention_ok hok hfresh sound_empty
  · cases hreplay
  · have hget : (State.after ids
        [.intervention principal t command (some time)]).ledger.interventionReplays.get?
          (interventionKey t' command) = some (canonicalDigest command.json, r) := by
      show (captureIntervention ids State.empty principal t command
        (some time)).1.ledger.interventionReplays.get? _ = _
      rw [hledger, hkey]
      exact Dict.get?_set_self _ _ _
    have hanswer : (State.after ids [.intervention principal t command (some time)]).answer ids
        (.intervention principal t' command (some time)) = some (.intervention r) := by
      rw [State.answer, captureIntervention_replay hc' hget]
    have hbound' : r.BoundTo t' :=
      h.bound [.intervention principal t command (some time)] _ [] _ rfl hanswer
    exact hevidence (hbound'.2.2.2.symm.trans hbound.2.2.2)

end Calls

/-! ### A correction that is captured again -/

namespace Sample

def capture : Call := .intervention user target command now

/-- The target, once there is more evidence of its execution. -/
def grown : Target := { target with executionEvidenceIds := ["evidence", "evidence-2"] }

theorem checks_of_evidence {evidence : List String} (hmem : "evidence" ∈ evidence)
    (hids : ∀ e ∈ evidence, isIdentifier e = true) (hlength : evidence.length ≤ 32)
    (hnodup : evidence.Nodup) :
    @InterventionChecks unicode user { target with executionEvidenceIds := evidence } command
      ⟨.syntheticPreview, "execution", "outcome"⟩ := by
  let _ := unicode
  have hidentifiers : ({ target with executionEvidenceIds := evidence } : Target).identifiers.any
      (fun value => value.all fun s => !isIdentifier (nfc s)) = false := by
    rw [List.any_eq_false]
    intro o ho
    simp only [Target.identifiers, target, List.mem_append, List.mem_cons,
      List.mem_map, Option.toList, List.not_mem_nil, or_false, List.map_cons, List.map_nil] at ho
    rcases ho with ((rfl | rfl | rfl | rfl | rfl | rfl) | ⟨e, he, rfl⟩) | rfl
    · decide +kernel
    · decide +kernel
    · decide +kernel
    · decide +kernel
    · decide +kernel
    · decide +kernel
    · show ¬(!isIdentifier e) = true
      rw [hids e he]
      decide
    · decide +kernel
  refine ⟨?_, ?_, fun h => nomatch h.1⟩
  · have hpermits : user.permits target.tenantId target.securityDomain = true := by decide
    have hpredecessor : target.predecessorDigest.any (fun d => !isHex64 d) = false := by
      decide +kernel
    have hsuccessor : isHex64 target.successorDigest = true := by decide +kernel
    have hevidence : ¬(evidence = [] ∨ evidence.length > 32) := by
      rintro (hnil | hlong)
      · exact List.ne_nil_of_mem hmem hnil
      · exact absurd hlength (Nat.not_le.mpr hlong)
    have hhex : (!isHex64 target.successorDigest) = false := by rw [hsuccessor, Bool.not_true]
    rw [admitted, if_pos hpermits, validateTarget]
    show (if _ then _ else _) = _
    rw [if_neg (by rw [hidentifiers]; decide)]
    show (if target.predecessorDigest.any (fun d => !isHex64 d) then _ else _) = _
    rw [hpredecessor, if_neg Bool.false_ne_true]
    show (if !isHex64 target.successorDigest then _ else _) = _
    rw [hhex, if_neg Bool.false_ne_true, if_neg hevidence, if_neg (not_not.mpr hnodup)]
  · show (if _ then _ else _) = _
    rw [if_neg]
    rintro (hpredecessor | hsuccessor | houtcome | hnot)
    · exact hpredecessor rfl
    · exact hsuccessor rfl
    · exact houtcome rfl
    · exact hnot hmem

/-- The theorem, for a correction that is captured twice. -/
theorem captures_faithful_of_again : @Faithful unicode ids [capture, capture] :=
  @captures_faithful unicode ids ids_fresh [capture, capture]
    (@undisturbed_of_again unicode ids user target now command ids_fresh)

/-- **Defect:** a correction that is captured again after the evidence of the execution
has grown is answered with the record of the evidence before. -/
theorem grown_target_unbound :
    ¬ @Faithful unicode ids
      [.intervention user target command now, .intervention user grown command now] := by
  let _ := unicode
  exact unbound_of_evidence
    (checks_of_evidence List.mem_cons_self (by simp; decide +kernel) (by decide) (by decide))
    (checks_of_evidence List.mem_cons_self (by simp; decide +kernel) (by decide) (by decide))
    rfl (by decide) (by decide +kernel) (by decide +kernel) rfl ids_fresh

end Sample

end Feedback

end AgentPlatform
