/-
AgentPlatform/Execution/Accounting.lean

`build_execution_accounting`: one read model over snapshots, outcome comparisons,
interventions and feedback of a scope.

Snapshots are told apart by their identifiers, evidence by that of its record, and
interventions and feedback are counted by theirs, so that **`accounting_invariant`**
nothing depends on the order of the inputs or on repetitions, the four outcomes add up
to the snapshots, and what several snapshots of one execution share is counted once.
-/
import AgentPlatform.Execution.Snapshot
import AgentPlatform.Feedback.Records
import AgentPlatform.Py.TrueDivision

namespace AgentPlatform
namespace ExecutionAccounting

open Py
open ExecutionSnapshot (SharedExecutionSnapshot SnapshotState StoredRecord InScope validatedSnapshots
  validateSnapshot inScope_of_validated foldlM_validate_inScope)
open Feedback (InterventionEventRecord OutcomeFeedbackRecord)
open Sorting (sortBy firsts register ByKey)

/-! ### The read model -/

inductive Availability
  | measured
  | incomplete
  | notMeasurable
  deriving DecidableEq

inductive OutcomeChange
  | improvement
  | regression
  | noChange
  deriving DecidableEq

def OutcomeChange.value : OutcomeChange → String
  | improvement => "IMPROVEMENT"
  | regression => "REGRESSION"
  | noChange => "NO_CHANGE"

/-- `tuple(OutcomeChange)`. -/
def OutcomeChange.all : List OutcomeChange := [improvement, regression, noChange]

/-- `F` are the floats; the accounting only compares them. -/
structure JourneyOutcome (F : Type) where
  outcomeId : String
  comparableMetric : String
  comparableValue : Option F

structure ScopedOutcomeComparison (F : Type) where
  namespaceName : String
  securityDomain : String
  predecessorExecutionIdentity : String
  successorExecutionIdentity : String
  predecessor : JourneyOutcome F
  successor : JourneyOutcome F

structure AccountingRate where
  numerator : Nat
  denominator : Nat
  value : Option Double
  availability : Availability
  deriving DecidableEq

structure AccountingReadModel where
  schemaVersion : Int
  namespaceName : String
  securityDomain : String
  sourceSnapshotIds : List String
  evidenceIdentities : List String
  outcomeIdentities : List String
  sourceHighWaterMark : Int
  executionCount : Nat
  attemptCount : Nat
  providerCallCount : Int
  success : AccountingRate
  failure : AccountingRate
  denial : AccountingRate
  unknown : AccountingRate
  workflowIdentityCoverage : AccountingRate
  taskIdentityCoverage : AccountingRate
  platformExecutionIdentityCoverage : AccountingRate
  evidenceCompleteness : AccountingRate
  limitationCounts : List (String × Nat)
  interventionLinkageCount : Nat
  feedbackLinkageCount : Nat
  outcomeChangeCounts : List (String × Nat)
  outcomeComparisonAvailability : Availability
  sourceAvailability : Availability
  tokenUsageAvailability : Availability
  monetaryCostAvailability : Availability
  elapsedLatencyAvailability : Availability
  deriving DecidableEq

/-! ### The builder -/

/-- `_rate(numerator, denominator, partial)`. -/
def rate (numerator denominator : Nat) (incomplete : Bool) : AccountingRate :=
  if denominator = 0 then ⟨0, 0, none, .notMeasurable⟩
  else ⟨numerator, denominator, Double.ofQuotient numerator denominator,
    if incomplete then .incomplete else .measured⟩

def recordId (e : StoredRecord) : String := e.record.evidenceRecordId

/-- The loop over the evidence: every record under its identifier. -/
def evidenceById (ordered : List SharedExecutionSnapshot) :
    Except String (List (String × StoredRecord)) :=
  (ordered.flatMap (·.evidence)).foldlM (register recordId "ACCOUNTING_EVIDENCE_IDENTITY_CONFLICT") []

section Checks

variable (namespaceName domain : String) (executions evidence : List String)

/-- One round of the loop over the interventions; `executions` and `evidence` are the
identifiers that are known. -/
def checkIntervention (item : InterventionEventRecord) : Except String Unit :=
  if item.tenantId ≠ namespaceName ∨ item.securityDomain ≠ domain then
    .error "ACCOUNTING_INTERVENTION_SCOPE_DENIED"
  else if item.platformExecutionIdentity ∉ executions then
    .error "ACCOUNTING_INTERVENTION_LINKAGE_INVALID"
  else if item.executionEvidenceIds.any fun id => id ∉ evidence then
    .error "ACCOUNTING_INTERVENTION_LINKAGE_INVALID"
  else .ok ()

/-- One round of the loop over the feedback. -/
def checkFeedback (item : OutcomeFeedbackRecord) : Except String Unit :=
  if item.tenantId ≠ namespaceName ∨ item.securityDomain ≠ domain then
    .error "ACCOUNTING_FEEDBACK_SCOPE_DENIED"
  else if item.platformExecutionIdentity ∉ executions ∨ item.evidenceId ∉ evidence then
    .error "ACCOUNTING_FEEDBACK_LINKAGE_INVALID"
  else .ok ()

/-- One round of the loop over the comparisons that checks them. -/
def checkComparison {F : Type} (item : ScopedOutcomeComparison F) : Except String Unit :=
  if item.namespaceName ≠ namespaceName ∨ item.securityDomain ≠ domain then
    .error "ACCOUNTING_OUTCOME_SCOPE_DENIED"
  else if item.predecessorExecutionIdentity ∉ executions ∨
      item.successorExecutionIdentity ∉ executions then
    .error "ACCOUNTING_OUTCOME_LINKAGE_INVALID"
  else .ok ()

end Checks

/-- What the snapshot adds to the counts of the limitations. -/
def limitationsOf (s : SharedExecutionSnapshot) : List String :=
  s.limitationCodes ++ match s.state with
    | .stale => ["SOURCE_STALE"]
    | .incomplete => ["SOURCE_PARTIAL"]
    | _ => []

/-- `tuple(sorted(counts.items()))` of a dictionary that counts `items`. -/
def counted (items : List String) : List (String × Nat) :=
  sortBy (fun p : String × Nat => toLex p) ((firsts items).map fun k => (k, items.count k))

/-- `tuple(sorted(set(items)))`. -/
def distinctSorted (items : List String) : List String := (firsts items).insertionSort (· ≤ ·)

/-- The state of the snapshot, or a limitation, says that something is missing. -/
def lacks (s : SharedExecutionSnapshot) : Bool :=
  s.state = .incomplete || s.state = .stale || s.limitationCodes ≠ []

/-- How many snapshots end with the outcome. -/
def ending (ordered : List SharedExecutionSnapshot) (c : OutcomeClassification) : Nat :=
  (ordered.map (·.terminalEvidence.record.outcomeClassification.value)).count c.value

section Comparisons

variable {F : Type} [LT F] [DecidableLT F]

/-- The change between two comparable outcomes. -/
def changeOf (c : ScopedOutcomeComparison F) : Option OutcomeChange :=
  match c.predecessor.comparableValue, c.successor.comparableValue with
  | some before, some after =>
    if c.predecessor.comparableMetric ≠ c.successor.comparableMetric then none
    else if before < after then some .improvement
    else if after < before then some .regression
    else some .noChange
  | _, _ => none

/-- `tuple(sorted(change_counts.items()))`. -/
def changeCounts (comparisons : List (ScopedOutcomeComparison F)) : List (String × Nat) :=
  sortBy (fun p : String × Nat => toLex p)
    (OutcomeChange.all.map fun c => (c.value, (comparisons.filterMap changeOf).count c))

def comparisonAvailability (comparisons : List (ScopedOutcomeComparison F)) (incomplete : Bool) :
    Availability :=
  let comparable := (comparisons.filterMap changeOf).length
  if comparisons = [] ∨ comparable = 0 then .notMeasurable
  else if comparable < comparisons.length ∨ incomplete then .incomplete
  else .measured

/-- The read model of what has been checked: `ordered` are the snapshots by identifier and
`evidence` are the records by identifier. -/
def readModel (namespaceName domain : String) (ordered : List SharedExecutionSnapshot)
    (evidence : List StoredRecord) (comparisons : List (ScopedOutcomeComparison F))
    (interventions : List InterventionEventRecord) (feedback : List OutcomeFeedbackRecord) :
    AccountingReadModel :=
  let incomplete := ordered.any lacks
  let rateOf := fun n => rate n ordered.length incomplete
  { schemaVersion := 1
    namespaceName := namespaceName
    securityDomain := domain
    sourceSnapshotIds := ordered.map (·.sharedSnapshotId)
    evidenceIdentities := evidence.map recordId
    outcomeIdentities := distinctSorted
      (comparisons.flatMap (fun c => [c.predecessor.outcomeId, c.successor.outcomeId]) ++
        (interventions.map (·.outcomeId) ++ feedback.map (·.outcomeId)))
    sourceHighWaterMark := (ordered.map (·.evidenceHighWaterMark)).max?.getD 0
    executionCount := (firsts (ordered.map (·.platformExecutionIdentity))).length
    attemptCount := (firsts (evidence.map fun e =>
      (e.record.platformExecutionIdentity, e.record.attemptOrdinal))).length
    providerCallCount := (evidence.map (·.record.providerCallCount)).sum
    success := rateOf (ending ordered .succeeded)
    failure := rateOf (ending ordered .failed)
    denial := rateOf (ending ordered .denied)
    unknown := rateOf (ending ordered .unknown)
    workflowIdentityCoverage := rateOf (ordered.countP fun s => s.workflow.uid ≠ "")
    taskIdentityCoverage := rateOf (ordered.countP fun s => s.tasks ≠ [])
    platformExecutionIdentityCoverage :=
      rateOf (ordered.countP fun s => s.platformExecutionIdentity ≠ "")
    evidenceCompleteness :=
      rateOf (ordered.countP fun s => s.state = .complete && s.limitationCodes = [])
    limitationCounts := counted (ordered.flatMap limitationsOf)
    interventionLinkageCount := (firsts (interventions.map (·.recordId))).length
    feedbackLinkageCount := (firsts (feedback.map (·.feedbackId))).length
    outcomeChangeCounts := changeCounts comparisons
    outcomeComparisonAvailability := comparisonAvailability comparisons incomplete
    sourceAvailability :=
      if ordered = [] then .notMeasurable else if incomplete then .incomplete else .measured
    tokenUsageAvailability := .notMeasurable
    monetaryCostAvailability := .notMeasurable
    elapsedLatencyAvailability := .notMeasurable }

def buildExecutionAccounting (namespaceName domain : String)
    (snapshots : List SharedExecutionSnapshot) (comparisons : List (ScopedOutcomeComparison F))
    (interventions : List InterventionEventRecord) (feedback : List OutcomeFeedbackRecord) :
    Except String AccountingReadModel :=
  if namespaceName = "" ∨ domain = "" then .error "ACCOUNTING_SCOPE_REQUIRED"
  else do
    let ordered ← validatedSnapshots snapshots namespaceName domain
    let byId ← evidenceById ordered
    let executions := ordered.map (·.platformExecutionIdentity)
    interventions.forM (checkIntervention namespaceName domain executions (byId.map Prod.fst))
    feedback.forM (checkFeedback namespaceName domain executions (byId.map Prod.fst))
    comparisons.forM (checkComparison namespaceName domain executions)
    .ok (readModel namespaceName domain ordered ((sortBy Prod.fst byId).map Prod.snd) comparisons
      interventions feedback)

end Comparisons

/-! ### What is accepted -/

/-- Two lists with the same items, whatever their order and how often each comes. -/
def SameItems {α : Type} (l l' : List α) : Prop := ∀ a, a ∈ l ↔ a ∈ l'

/-- The snapshots that are accepted, by identifier. -/
theorem validatedSnapshots_eq_ok {namespaceName domain : String}
    {snapshots ordered : List SharedExecutionSnapshot} :
    validatedSnapshots snapshots namespaceName domain = .ok ordered ↔
      (∀ s ∈ snapshots, InScope namespaceName domain s) ∧
        ByKey SharedExecutionSnapshot.sharedSnapshotId snapshots ordered := by
  have hsorted : (∃ out, snapshots.foldlM (register SharedExecutionSnapshot.sharedSnapshotId
        "ACCOUNTING_SNAPSHOT_IDENTITY_CONFLICT") [] = .ok out ∧
        ordered = (sortBy Prod.fst out).map Prod.snd) ↔
      ByKey SharedExecutionSnapshot.sharedSnapshotId snapshots ordered := Sorting.byKey_iff
  rw [← hsorted, validatedSnapshots, bind_eq_ok]
  constructor
  · rintro ⟨out, hout, hordered⟩
    have hscope := inScope_of_validated hout
    rw [foldlM_validate_inScope hscope] at hout
    exact ⟨hscope, out, hout, (Except.ok.inj hordered).symm⟩
  · rintro ⟨hscope, out, hout, hordered⟩
    refine ⟨out, ?_, congrArg _ hordered.symm⟩
    rw [foldlM_validate_inScope hscope, hout]

section Accepted

variable {F : Type} [LT F] [DecidableLT F] {namespaceName domain : String}
  {snapshots snapshots' : List SharedExecutionSnapshot}
  {comparisons comparisons' : List (ScopedOutcomeComparison F)}
  {interventions interventions' : List InterventionEventRecord}
  {feedback feedback' : List OutcomeFeedbackRecord} {m : AccountingReadModel}

/-- The inputs pass every check; `ordered` and `evidence` are the snapshots and the records
by identifier. -/
structure Accepted (namespaceName domain : String) (snapshots : List SharedExecutionSnapshot)
    (comparisons : List (ScopedOutcomeComparison F)) (interventions : List InterventionEventRecord)
    (feedback : List OutcomeFeedbackRecord) (ordered : List SharedExecutionSnapshot)
    (evidence : List StoredRecord) : Prop where
  required : ¬ (namespaceName = "" ∨ domain = "")
  inScope : ∀ s ∈ snapshots, InScope namespaceName domain s
  snapshotsById : ByKey SharedExecutionSnapshot.sharedSnapshotId snapshots ordered
  recordsById : ByKey recordId (snapshots.flatMap (·.evidence)) evidence
  intervened : ∀ i ∈ interventions, checkIntervention namespaceName domain
    (ordered.map (·.platformExecutionIdentity)) (evidence.map recordId) i = .ok ()
  assessed : ∀ i ∈ feedback, checkFeedback namespaceName domain
    (ordered.map (·.platformExecutionIdentity)) (evidence.map recordId) i = .ok ()
  compared : ∀ c ∈ comparisons, checkComparison namespaceName domain
    (ordered.map (·.platformExecutionIdentity)) c = .ok ()

/-- The checks look at which identifiers are known only. -/
theorem checkIntervention_congr {executions evidence evidence' : List String}
    (h : SameItems evidence evidence') :
    checkIntervention namespaceName domain executions evidence =
      checkIntervention namespaceName domain executions evidence' := by
  funext item
  simp only [checkIntervention, h _]

theorem checkFeedback_congr {executions evidence evidence' : List String}
    (h : SameItems evidence evidence') :
    checkFeedback namespaceName domain executions evidence =
      checkFeedback namespaceName domain executions evidence' := by
  funext item
  simp only [checkFeedback, h _]

theorem evidenceById_eq_ok {ordered : List SharedExecutionSnapshot} {byId : List (String × StoredRecord)}
    (h : evidenceById ordered = .ok byId) :
    ByKey recordId (ordered.flatMap (·.evidence)) ((sortBy Prod.fst byId).map Prod.snd) ∧
      SameItems (byId.map Prod.fst) (((sortBy Prod.fst byId).map Prod.snd).map recordId) := by
  refine ⟨Sorting.byKey_iff.mp ⟨byId, h, rfl⟩, fun id => ?_⟩
  have hnil : (([] : List (String × StoredRecord)).map Prod.fst).Nodup := List.nodup_nil
  have hholds := (Sorting.foldlM_register_holds hnil h).2
  have hkey : ∀ p ∈ byId, p.1 = recordId p.2 := by
    intro p hp
    rcases (hholds p).mp hp with hp | hp
    · cases hp
    · exact hp.2
  rw [List.map_map, List.mem_map, List.mem_map]
  constructor
  · rintro ⟨p, hp, rfl⟩
    exact ⟨p, (Sorting.mem_sortBy _).mpr hp, (hkey p hp).symm⟩
  · rintro ⟨p, hp, rfl⟩
    have hmem := (Sorting.mem_sortBy _).mp hp
    exact ⟨p, hmem, hkey p hmem⟩

theorem flatMap_congr {ordered : List SharedExecutionSnapshot} (h : SameItems ordered snapshots) :
    SameItems (ordered.flatMap (·.evidence)) (snapshots.flatMap (·.evidence)) := by
  intro e
  simp only [List.mem_flatMap, h _]

/-- **What is accepted**, and what is made of it. -/
theorem build_eq_ok :
    buildExecutionAccounting namespaceName domain snapshots comparisons interventions feedback = .ok m ↔
      ∃ ordered evidence, Accepted namespaceName domain snapshots comparisons interventions feedback
        ordered evidence ∧
        m = readModel namespaceName domain ordered evidence comparisons interventions feedback := by
  rw [buildExecutionAccounting, ite_error_eq_ok']
  simp only [bind_eq_ok, validatedSnapshots_eq_ok, Except.ok.injEq]
  constructor
  · rintro ⟨hrequired, ordered, ⟨hscope, hordered⟩, byId, hbyId, ⟨⟩, hinterventions, ⟨⟩, hfeedback, ⟨⟩,
      hcomparisons, rfl⟩
    obtain ⟨hevidence, hsame⟩ := evidenceById_eq_ok hbyId
    rw [checkIntervention_congr hsame] at hinterventions
    rw [checkFeedback_congr hsame] at hfeedback
    exact ⟨ordered, _, ⟨hrequired, hscope, hordered, hevidence.congr (flatMap_congr hordered.mem),
      forM_eq_ok.mp hinterventions, forM_eq_ok.mp hfeedback, forM_eq_ok.mp hcomparisons⟩, rfl⟩
  · rintro ⟨ordered, evidence, h, rfl⟩
    have hevidence := h.recordsById.congr fun e => (flatMap_congr h.snapshotsById.mem e).symm
    have hout : ∃ byId, evidenceById ordered = .ok byId ∧
        evidence = (sortBy Prod.fst byId).map Prod.snd := Sorting.byKey_iff.mpr hevidence
    obtain ⟨byId, hbyId, rfl⟩ := hout
    obtain ⟨-, hsame⟩ := evidenceById_eq_ok hbyId
    refine ⟨h.required, ordered, ⟨h.inScope, h.snapshotsById⟩, byId, hbyId, ⟨⟩,
      forM_eq_ok.mpr fun i hi => ?_, ⟨⟩, forM_eq_ok.mpr fun i hi => ?_, ⟨⟩,
      forM_eq_ok.mpr h.compared, rfl⟩
    · rw [checkIntervention_congr hsame]
      exact h.intervened i hi
    · rw [checkFeedback_congr hsame]
      exact h.assessed i hi

/-! ### The order of the inputs -/

theorem distinctSorted_congr {l l' : List String} (h : SameItems l l') :
    distinctSorted l = distinctSorted l' := by
  have hperm : (distinctSorted l).Perm (distinctSorted l') :=
    (List.perm_insertionSort _ _).trans
      ((Sorting.firsts_perm h).trans (List.perm_insertionSort _ _).symm)
  exact hperm.eq_of_pairwise' (List.pairwise_insertionSort _ _) (List.pairwise_insertionSort _ _)

theorem length_firsts_congr {α : Type} [DecidableEq α] {l l' : List α} (h : SameItems l l') :
    (firsts l).length = (firsts l').length :=
  (Sorting.firsts_perm h).length_eq

theorem SameItems.map {α β : Type} {l l' : List α} (h : SameItems l l') (f : α → β) :
    SameItems (l.map f) (l'.map f) := by
  intro b
  simp only [List.mem_map, h _]

theorem SameItems.flatMap {α β : Type} {l l' : List α} (h : SameItems l l') (f : α → List β) :
    SameItems (l.flatMap f) (l'.flatMap f) := by
  intro b
  simp only [List.mem_flatMap, h _]

theorem SameItems.append {α : Type} {l l' k k' : List α} (h : SameItems l l') (hk : SameItems k k') :
    SameItems (l ++ k) (l' ++ k') := by
  intro a
  rw [List.mem_append, List.mem_append, h a, hk a]

theorem changeCounts_perm (h : comparisons.Perm comparisons') :
    changeCounts comparisons = changeCounts comparisons' := by
  have hcount := fun c => (h.filterMap changeOf).count_eq c
  simp only [changeCounts, hcount]

theorem comparisonAvailability_perm (h : comparisons.Perm comparisons') (incomplete : Bool) :
    comparisonAvailability comparisons incomplete = comparisonAvailability comparisons' incomplete := by
  have hnil : comparisons = [] ↔ comparisons' = [] := by
    rw [← List.length_eq_zero_iff, ← List.length_eq_zero_iff, h.length_eq]
  simp only [comparisonAvailability, (h.filterMap changeOf).length_eq, h.length_eq, hnil]

/-- The read model does not look at the order of the inputs, nor at repetitions of
interventions and feedback. -/
theorem readModel_congr (ordered : List SharedExecutionSnapshot) (evidence : List StoredRecord)
    (hc : comparisons.Perm comparisons') (hi : SameItems interventions interventions')
    (hf : SameItems feedback feedback') :
    readModel namespaceName domain ordered evidence comparisons interventions feedback =
      readModel namespaceName domain ordered evidence comparisons' interventions' feedback' := by
  have houtcomes := distinctSorted_congr (((show SameItems comparisons comparisons' from
    fun _ => hc.mem_iff).flatMap fun c => [c.predecessor.outcomeId, c.successor.outcomeId]).append
    ((hi.map (·.outcomeId)).append (hf.map (·.outcomeId))))
  simp only [readModel, houtcomes, length_firsts_congr (hi.map (·.recordId)),
    length_firsts_congr (hf.map (·.feedbackId)), changeCounts_perm hc, comparisonAvailability_perm hc]

omit [LT F] [DecidableLT F] in
theorem Accepted.congr {ordered : List SharedExecutionSnapshot} {evidence : List StoredRecord}
    (h : Accepted namespaceName domain snapshots comparisons interventions feedback ordered evidence)
    (hs : SameItems snapshots snapshots') (hc : comparisons.Perm comparisons')
    (hi : SameItems interventions interventions') (hf : SameItems feedback feedback') :
    Accepted namespaceName domain snapshots' comparisons' interventions' feedback' ordered evidence where
  required := h.required
  inScope s hmem := h.inScope s ((hs s).mpr hmem)
  snapshotsById := h.snapshotsById.congr hs
  recordsById := h.recordsById.congr (flatMap_congr hs)
  intervened i hmem := h.intervened i ((hi i).mpr hmem)
  assessed i hmem := h.assessed i ((hf i).mpr hmem)
  compared c hmem := h.compared c (hc.mem_iff.mpr hmem)

/-! ### What is counted -/

/-- A snapshot ends with one of the four outcomes. -/
theorem ending_sum (ordered : List SharedExecutionSnapshot) :
    ending ordered .succeeded + ending ordered .failed + ending ordered .denied +
      ending ordered .unknown = ordered.length := by
  induction ordered with
  | nil => rfl
  | cons s ordered ih =>
    have hcons : ∀ c, ending (s :: ordered) c = ending ordered c +
        if s.terminalEvidence.record.outcomeClassification = c then 1 else 0 := by
      intro c
      rw [ending, List.map_cons, List.count_cons, ending]
      simp only [beq_iff_eq, ExecutionSnapshot.outcomeClassification_injective.eq_iff]
    simp only [hcons, List.length_cons]
    cases s.terminalEvidence.record.outcomeClassification <;> simp <;> omega

theorem rate_denominator (n d : Nat) (incomplete : Bool) : (rate n d incomplete).denominator = d := by
  rw [rate]
  split
  · next h => exact h.symm
  · rfl

theorem rate_numerator {n d : Nat} (h : n ≤ d) (incomplete : Bool) :
    (rate n d incomplete).numerator = n := by
  rw [rate]
  split
  · next hd => exact (Nat.le_zero.mp (hd ▸ h)).symm
  · rfl

theorem length_ordered {ordered : List SharedExecutionSnapshot}
    (h : ByKey SharedExecutionSnapshot.sharedSnapshotId snapshots ordered) :
    ordered.length = (snapshots.map (·.sharedSnapshotId)).toFinset.card := by
  have hnodup : (ordered.map (·.sharedSnapshotId)).Nodup := h.sorted.imp ne_of_lt
  rw [← List.length_map (f := (·.sharedSnapshotId)), ← List.toFinset_card_of_nodup hnodup]
  refine congrArg _ (Finset.ext fun id => ?_)
  rw [List.mem_toFinset, List.mem_toFinset]
  exact (show SameItems ordered snapshots from h.mem).map _ id

/-- **The accounting.** What is accepted is accepted in any order and with any repetition
of snapshots, interventions and feedback, with the same result; the four outcomes add up to
the number of distinct snapshots; and attempts and provider calls are those of the union of
the evidence of all snapshots. -/
theorem accounting_invariant
    (h : buildExecutionAccounting namespaceName domain snapshots comparisons interventions feedback =
      .ok m) :
    (∀ snapshots' (comparisons' : List (ScopedOutcomeComparison F)) interventions' feedback',
      SameItems snapshots snapshots' → comparisons.Perm comparisons' →
      SameItems interventions interventions' → SameItems feedback feedback' →
      buildExecutionAccounting namespaceName domain snapshots' comparisons' interventions' feedback' =
        .ok m) ∧
    m.success.numerator + m.failure.numerator + m.denial.numerator + m.unknown.numerator =
      (snapshots.map (·.sharedSnapshotId)).toFinset.card ∧
    (∀ r ∈ [m.success, m.failure, m.denial, m.unknown],
      r.denominator = (snapshots.map (·.sharedSnapshotId)).toFinset.card) ∧
    m.attemptCount = ((snapshots.flatMap (·.evidence)).map fun e =>
      (e.record.platformExecutionIdentity, e.record.attemptOrdinal)).toFinset.card ∧
    m.providerCallCount =
      ∑ e ∈ (snapshots.flatMap (·.evidence)).toFinset, e.record.providerCallCount := by
  obtain ⟨ordered, evidence, haccepted, rfl⟩ := build_eq_ok.mp h
  have hlength := length_ordered haccepted.snapshotsById
  have hsum := ending_sum ordered
  refine ⟨fun snapshots' comparisons' interventions' feedback' hs hc hi hf => ?_, ?_, ?_, ?_, ?_⟩
  · exact build_eq_ok.mpr ⟨ordered, evidence, haccepted.congr hs hc hi hf,
      readModel_congr ordered evidence hc hi hf⟩
  · simp only [readModel]
    rw [rate_numerator (by omega), rate_numerator (by omega), rate_numerator (by omega),
      rate_numerator (by omega), hsum, hlength]
  · intro r hr
    simp only [readModel, List.mem_cons, List.not_mem_nil, or_false] at hr
    rcases hr with rfl | rfl | rfl | rfl <;> rw [rate_denominator, hlength]
  · simp only [readModel]
    rw [Sorting.length_firsts]
    refine congrArg _ (Finset.ext fun k => ?_)
    rw [List.mem_toFinset, List.mem_toFinset]
    exact (show SameItems evidence _ from haccepted.recordsById.mem).map _ k
  · simp only [readModel]
    rw [← List.sum_toFinset _ haccepted.recordsById.nodup]
    refine congrArg (fun t : Finset StoredRecord => ∑ e ∈ t, e.record.providerCallCount)
      (Finset.ext fun e => ?_)
    rw [List.mem_toFinset, List.mem_toFinset, haccepted.recordsById.mem]

end Accepted

/-! ### A sample -/

namespace Sample

open Graph (CanonicalGraph)
open ExecutionSnapshot.Sample (snapshot outcome)

/-- The sample execution, at two high-water marks. -/
def snapshotAt (graph : CanonicalGraph) (id : String) (mark : Int) : SharedExecutionSnapshot :=
  { snapshot graph false with sharedSnapshotId := id, evidenceHighWaterMark := mark }

theorem accepted (graph : CanonicalGraph) :
    Accepted "agent-workloads" "domain-a" [snapshotAt graph "snapshot-1" 1, snapshotAt graph "snapshot-2" 2]
      ([] : List (ScopedOutcomeComparison Int)) [] []
      [snapshotAt graph "snapshot-1" 1, snapshotAt graph "snapshot-2" 2] [outcome] where
  required := by decide
  inScope s hs := by
    simp only [List.mem_cons, List.not_mem_nil, or_false] at hs
    have hevidence : ∀ e ∈ [outcome], e.record.namespaceName = "agent-workloads" ∧
        e.record.securityDomain = "domain-a" ∧ e.record.platformExecutionIdentity = "pei-001" := by
      intro e he
      rw [List.mem_singleton.mp he]
      exact ⟨rfl, rfl, rfl⟩
    have hexecution : "pei-001" ≠ "" := by decide
    rcases hs with rfl | rfl
    · exact ⟨⟨rfl, rfl⟩, ⟨show "snapshot-1" ≠ "" by decide, hexecution⟩, hevidence⟩
    · exact ⟨⟨rfl, rfl⟩, ⟨show "snapshot-2" ≠ "" by decide, hexecution⟩, hevidence⟩
  snapshotsById := ⟨fun _ => Iff.rfl, by
    show ["snapshot-1", "snapshot-2"].Pairwise (· < ·)
    decide⟩
  recordsById := ⟨fun e => by
    show e ∈ [outcome] ↔ e ∈ [outcome, outcome]
    simp, List.pairwise_singleton _ _⟩
  intervened i hi := absurd hi List.not_mem_nil
  assessed i hi := absurd hi List.not_mem_nil
  compared c hc := absurd hc List.not_mem_nil

/-- Both snapshots are counted, their common evidence once. -/
theorem accounting_invariant_of_two : ∃ graph m,
    buildExecutionAccounting "agent-workloads" "domain-a"
      [snapshotAt graph "snapshot-1" 1, snapshotAt graph "snapshot-2" 2]
      ([] : List (ScopedOutcomeComparison Int)) [] [] = .ok m ∧
    buildExecutionAccounting "agent-workloads" "domain-a"
      [snapshotAt graph "snapshot-2" 2, snapshotAt graph "snapshot-1" 1, snapshotAt graph "snapshot-2" 2]
      ([] : List (ScopedOutcomeComparison Int)) [] [] = .ok m ∧
    m.success.numerator + m.failure.numerator + m.denial.numerator + m.unknown.numerator = 2 ∧
    m.attemptCount = 1 ∧ m.providerCallCount = 1 := by
  obtain ⟨graph, -⟩ := ExecutionSnapshot.Sample.graph_built
  have hbuild := build_eq_ok.mpr ⟨_, _, accepted graph, rfl⟩
  obtain ⟨horder, hsum, -, hattempts, hcalls⟩ := accounting_invariant hbuild
  refine ⟨graph, _, hbuild, horder _ _ _ _ ?_ (.refl _) (fun _ => Iff.rfl) (fun _ => Iff.rfl), hsum,
    hattempts, hcalls⟩
  intro s
  simp only [List.mem_cons, List.not_mem_nil, or_false]
  tauto

end Sample

end ExecutionAccounting
end AgentPlatform
