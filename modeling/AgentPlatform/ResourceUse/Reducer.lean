/-
AgentPlatform/ResourceUse/Reducer.lean

The facts of a resource use and the reducer that reads its effective state off
them (`resource_use_domain.py`).

The reducer looks for conflicts by three scans: the terminal states, the digest
of each observation of each owner, and each state beside the one before it.
`conflicts_eq_nil_iff` says what the scans accept (`Consistent`). What they
find stays found in every longer history, and a terminal state stays or is in
conflict.

The last scan has no rank for `STALE`, so that a state may fall back behind one,
and two owners may report one observation with two digests. **Main result:**
`detects_iff`, every illegal history is detected exactly if none of its prefixes
hides such a fall or such an observation behind an otherwise consistent history.
-/
import AgentPlatform.Order.Buckets
import AgentPlatform.Py.Aware
import AgentPlatform.Py.Dict
import AgentPlatform.Py.Hash

namespace AgentPlatform

open Py Sorting

namespace ResourceUse

/-! ### Facts -/

inductive ResourceUseFactKind
  | configured
  | bound
  | selected
  | requested
  | dispatchRecorded
  | accepted
  | running
  | succeeded
  | failed
  | cancellationRequested
  | cancellationConfirmed
  | outcomeUnknown
  | rejected
  | unavailable
  | stale
  | notExecuted
  | noResult
  | measurementRecorded
  | measurementNotCollected
  | measurementNotMeasurable
  deriving DecidableEq

inductive EffectiveUseState
  | configured
  | bound
  | selected
  | requested
  | dispatchRecorded
  | accepted
  | running
  | succeeded
  | failed
  | cancellationRequested
  | cancellationConfirmed
  | outcomeUnknown
  | rejected
  | unavailable
  | stale
  | notExecuted
  | noResult
  | conflicted
  deriving DecidableEq

def EffectiveUseState.value : EffectiveUseState → String
  | configured => "CONFIGURED"
  | bound => "BOUND"
  | selected => "SELECTED"
  | requested => "REQUESTED"
  | dispatchRecorded => "DISPATCH_RECORDED"
  | accepted => "ACCEPTED"
  | running => "RUNNING"
  | succeeded => "SUCCEEDED"
  | failed => "FAILED"
  | cancellationRequested => "CANCELLATION_REQUESTED"
  | cancellationConfirmed => "CANCELLATION_CONFIRMED"
  | outcomeUnknown => "OUTCOME_UNKNOWN"
  | rejected => "REJECTED"
  | unavailable => "UNAVAILABLE"
  | stale => "STALE"
  | notExecuted => "NOT_EXECUTED"
  | noResult => "NO_RESULT"
  | conflicted => "CONFLICTED"

def ResourceUseFactKind.state : ResourceUseFactKind → Option EffectiveUseState
  | configured => some .configured
  | bound => some .bound
  | selected => some .selected
  | requested => some .requested
  | dispatchRecorded => some .dispatchRecorded
  | accepted => some .accepted
  | running => some .running
  | succeeded => some .succeeded
  | failed => some .failed
  | cancellationRequested => some .cancellationRequested
  | cancellationConfirmed => some .cancellationConfirmed
  | outcomeUnknown => some .outcomeUnknown
  | rejected => some .rejected
  | unavailable => some .unavailable
  | stale => some .stale
  | notExecuted => some .notExecuted
  | noResult => some .noResult
  | measurementRecorded => none
  | measurementNotCollected => none
  | measurementNotMeasurable => none

def EffectiveUseState.terminal : EffectiveUseState → Bool
  | succeeded | failed | cancellationConfirmed | outcomeUnknown | rejected | unavailable
  | notExecuted | noResult => true
  | _ => false

def EffectiveUseState.rank : EffectiveUseState → Option Nat
  | configured => some 0
  | bound => some 1
  | selected => some 2
  | requested => some 3
  | dispatchRecorded => some 4
  | accepted => some 5
  | running => some 6
  | cancellationRequested => some 7
  | _ => none

theorem ResourceUseFactKind.state_ne_conflicted (kind : ResourceUseFactKind) :
    kind.state ≠ some .conflicted := by
  cases kind <;> simp [state]

/-- What `_required` accepts. -/
def Required (value : String) : Prop := value ≠ "" ∧ value.utf8ByteSize ≤ 500

instance (value : String) : Decidable (Required value) := inferInstanceAs (Decidable (_ ∧ _))

/-- `ResourceUseFact`, with what its constructor checks. -/
structure ResourceUseFact where
  factId : String
  resourceUseId : String
  kind : ResourceUseFactKind
  sourceOwner : String
  sourceObservationId : String
  sourceDigest : String
  observedAt : Aware
  recordedAt : Aware
  evidenceReferences : List String
  limitationCodes : List String
  supersedesFactId : Option String
  factIdRequired : Required factId
  resourceUseIdRequired : Required resourceUseId
  sourceOwnerRequired : Required sourceOwner
  sourceObservationRequired : Required sourceObservationId
  sourceDigestRequired : Required sourceDigest

/-- The observation that a fact reports. -/
def ResourceUseFact.source (f : ResourceUseFact) : String × String :=
  (f.sourceOwner, f.sourceObservationId)

/-- The measurements of a use, of which the reducer reads two fields. -/
structure ResourceMeasurement where
  measurementId : String
  resourceUseId : String

structure ResourceUseSnapshot where
  snapshotId : String
  digest : String
  resourceUseId : String
  highWater : Nat
  reducerVersion : String
  effectiveState : EffectiveUseState
  factIds : List String
  measurementIds : List String
  evidenceReferences : List String
  limitationCodes : List String
  conflicts : List String
  createdAt : Aware

def reducerVersion : String := "resource-use-reducer.v1"

def canonicalDigest (value : Json) : String := sha256 (Json.dumps false value)

def stableId (kind : String) (parts : List String) : Except String String :=
  if parts = [] ∨ "" ∈ parts then .error "RESOURCE_USE_IDENTITY_INVALID"
  else .ok (kind ++ ":" ++ sha256 ("\x00".intercalate parts))

/-! ### The scans -/

/-- The states of some facts. -/
def statesOf (facts : List ResourceUseFact) : List EffectiveUseState :=
  facts.filterMap fun f => f.kind.state

/-- More than one terminal state. -/
def terminalConflicts (states : List EffectiveUseState) : List String :=
  if 1 < (firsts (states.filter (·.terminal))).length then ["CONFLICTING_TERMINAL_FACTS"] else []

/-- The scan of the sources: the first digest of each is kept. -/
def sourceConflicts (seen : Dict (String × String) String) : List ResourceUseFact → List String
  | [] => []
  | f :: fs =>
    match seen.get? f.source with
    | some prior =>
      (if prior ≠ f.sourceDigest then ["CONFLICTING_SOURCE_OBSERVATION"] else [])
        ++ sourceConflicts seen fs
    | none => sourceConflicts (seen.set f.source f.sourceDigest) fs

/-- `_STATE_RANK[state] < _STATE_RANK[prior_state]`, where both have a rank. -/
def falls (prior state : EffectiveUseState) : Bool :=
  match prior.rank, state.rank with
  | some i, some j => j < i
  | _, _ => false

/-- The scan of the states, each beside the one before it. -/
def stateConflicts : Option EffectiveUseState → List EffectiveUseState → List String
  | _, [] => []
  | none, s :: ss => stateConflicts (some s) ss
  | some prior, s :: ss =>
    (if prior.terminal ∧ s ≠ prior then ["STATE_AFTER_TERMINAL"]
      else if falls prior s then ["ILLEGAL_STATE_REGRESSION"] else [])
      ++ stateConflicts (some s) ss

/-- The conflicts of some facts. -/
def conflictsOf (facts : List ResourceUseFact) : List String :=
  firsts (terminalConflicts (statesOf facts) ++ sourceConflicts .empty facts
    ++ stateConflicts none (statesOf facts))

/-- The snapshot of the selected facts, of which `last` is the last state. -/
def snapshotOf (resourceUseId : String) (selected : List ResourceUseFact)
    (measurements : List ResourceMeasurement) (highWater : Nat) (createdAt : Aware)
    (last : EffectiveUseState) : Except String ResourceUseSnapshot := do
  let conflicts := conflictsOf selected
  let effective := if conflicts = [] then last else .conflicted
  let evidence := firsts (selected.flatMap (·.evidenceReferences))
  let limitations := firsts (selected.flatMap (·.limitationCodes))
  let factIds := selected.map (·.factId)
  let measurementIds := measurements.map (·.measurementId)
  let digest := canonicalDigest (.obj [("resourceUseId", .str resourceUseId),
    ("highWater", .int highWater), ("reducerVersion", .str reducerVersion),
    ("effectiveState", .str effective.value), ("factIds", .arr (factIds.map .str)),
    ("measurementIds", .arr (measurementIds.map .str)),
    ("evidenceReferences", .arr (evidence.map .str)),
    ("limitationCodes", .arr (limitations.map .str)), ("conflicts", .arr (conflicts.map .str))])
  let snapshotId ← stableId "resource-use-snapshot" [resourceUseId, toString highWater, digest]
  return { snapshotId, digest, resourceUseId, highWater, reducerVersion,
           effectiveState := effective, factIds, measurementIds, evidenceReferences := evidence,
           limitationCodes := limitations, conflicts, createdAt }

def reduceResourceUse (resourceUseId : String) (facts : List ResourceUseFact)
    (measurements : List ResourceMeasurement) (highWater : Nat) (createdAt : Aware) :
    Except String ResourceUseSnapshot :=
  let selected := facts.take highWater
  if highWater < 1 ∨ facts.length < highWater then .error "RESOURCE_USE_HIGH_WATER_INVALID"
  else if (∃ f ∈ selected, f.resourceUseId ≠ resourceUseId)
      ∨ ∃ m ∈ measurements, m.resourceUseId ≠ resourceUseId then
    .error "RESOURCE_USE_SCOPE_MISMATCH"
  else
    match (statesOf selected).getLast? with
    | none => .error "RESOURCE_USE_STATE_FACT_REQUIRED"
    | some last => snapshotOf resourceUseId selected measurements highWater createdAt last

/-! ### What the scans accept -/

/-- A state may follow another: nothing but itself follows a terminal state, and
no rank falls. -/
def Follows (prior state : EffectiveUseState) : Prop :=
  (prior.terminal = true → state = prior) ∧ falls prior state = false

/-- Every observation of an owner has one digest in some facts. -/
def OneDigest (facts : List ResourceUseFact) : Prop :=
  ∀ f ∈ facts, ∀ g ∈ facts, f.source = g.source → f.sourceDigest = g.sourceDigest

/-- Facts in which the scans find no conflict. -/
structure Consistent (facts : List ResourceUseFact) : Prop where
  /-- There is at most one terminal state. -/
  terminal : ∀ s ∈ statesOf facts, ∀ t ∈ statesOf facts, s.terminal = true → t.terminal = true →
    s = t
  /-- Every observation of an owner has one digest. -/
  source : OneDigest facts
  /-- Each state may follow the one before it. -/
  follows : (statesOf facts).IsChain Follows

theorem terminalConflicts_eq_nil {states : List EffectiveUseState} :
    terminalConflicts states = []
      ↔ ∀ s ∈ states, ∀ t ∈ states, s.terminal = true → t.terminal = true → s = t := by
  rw [terminalConflicts, length_firsts]
  have hcard : ¬ 1 < (states.filter (·.terminal)).toFinset.card
      ↔ ∀ s ∈ states, ∀ t ∈ states, s.terminal = true → t.terminal = true → s = t := by
    rw [Nat.not_lt, Finset.card_le_one]
    simp only [List.mem_toFinset, List.mem_filter]
    constructor
    · exact fun h s hs t ht hs' ht' => h s ⟨hs, hs'⟩ t ⟨ht, ht'⟩
    · exact fun h s hs t ht => h s hs.1 t ht.1 hs.2 ht.2
  rw [← hcard, ite_eq_right_iff]
  simp only [List.cons_ne_nil, imp_false]

theorem oneDigest_cons {f : ResourceUseFact} {fs : List ResourceUseFact} :
    OneDigest (f :: fs)
      ↔ (∀ g ∈ fs, f.source = g.source → f.sourceDigest = g.sourceDigest) ∧ OneDigest fs := by
  constructor
  · intro h
    exact ⟨fun g hg => h f List.mem_cons_self g (List.mem_cons_of_mem _ hg),
      fun g hg k hk => h g (List.mem_cons_of_mem _ hg) k (List.mem_cons_of_mem _ hk)⟩
  · rintro ⟨hf, hfs⟩ g hg k hk hsource
    rcases List.mem_cons.mp hg with hg' | hg' <;> rcases List.mem_cons.mp hk with hk' | hk'
    · rw [hg', hk']
    · rw [hg'] at hsource ⊢
      exact hf k hk' hsource
    · rw [hk'] at hsource ⊢
      exact (hf g hg' hsource.symm).symm
    · exact hfs g hg' k hk' hsource

theorem sourceConflicts_eq_nil {seen : Dict (String × String) String}
    {facts : List ResourceUseFact} :
    sourceConflicts seen facts = []
      ↔ (∀ f ∈ facts, ∀ d, seen.get? f.source = some d → d = f.sourceDigest)
        ∧ OneDigest facts := by
  induction facts generalizing seen with
  | nil => simp [sourceConflicts, OneDigest]
  | cons f fs ih =>
    rw [sourceConflicts, oneDigest_cons, List.forall_mem_cons]
    cases hget : seen.get? f.source with
    | some prior =>
      have hhead : (if prior ≠ f.sourceDigest then ["CONFLICTING_SOURCE_OBSERVATION"] else []) = []
          ↔ prior = f.sourceDigest := by
        by_cases h : prior = f.sourceDigest <;> simp [h]
      show _ ++ sourceConflicts seen fs = [] ↔ _
      rw [List.append_eq_nil_iff, hhead, ih]
      constructor
      · rintro ⟨rfl, hseen, hrest⟩
        refine ⟨⟨fun d hd => (Option.some.inj hd).symm, hseen⟩, ?_, hrest⟩
        intro g hg hsource
        exact hseen g hg _ (hsource ▸ hget)
      · rintro ⟨⟨hprior, hseen⟩, -, hrest⟩
        exact ⟨hprior prior rfl, hseen, hrest⟩
    | none =>
      show sourceConflicts (seen.set f.source f.sourceDigest) fs = [] ↔ _
      rw [ih]
      constructor
      · rintro ⟨hseen, hrest⟩
        refine ⟨⟨fun d hd => (by cases hd), ?_⟩, ?_, hrest⟩
        · intro g hg d hd
          refine hseen g hg d ?_
          rw [Dict.get?_set_of_ne _ _ ?_]
          · exact hd
          · intro hsource
            rw [← hsource, hget] at hd
            cases hd
        · intro g hg hsource
          exact hseen g hg _ (by rw [hsource, Dict.get?_set_self])
      · rintro ⟨⟨-, hseen⟩, hfirst, hrest⟩
        refine ⟨?_, hrest⟩
        intro g hg d hd
        rw [Dict.get?_set] at hd
        split at hd
        · next hsource => exact (Option.some.inj hd).symm.trans (hfirst g hg hsource)
        · exact hseen g hg d hd

theorem stateConflicts_some_eq_nil {prior : EffectiveUseState} {states : List EffectiveUseState} :
    stateConflicts (some prior) states = [] ↔ (prior :: states).IsChain Follows := by
  induction states generalizing prior with
  | nil => simp [stateConflicts]
  | cons s ss ih =>
    rw [stateConflicts, List.append_eq_nil_iff, ih, List.isChain_cons_cons]
    refine and_congr_left fun _ => ?_
    by_cases hterminal : prior.terminal = true ∧ s ≠ prior
    · rw [if_pos hterminal]
      constructor
      · intro h
        cases h
      · intro h
        exact absurd (h.1 hterminal.1) hterminal.2
    · rw [if_neg hterminal]
      have hstay : prior.terminal = true → s = prior := fun h => by
        by_contra hne
        exact hterminal ⟨h, hne⟩
      cases hfalls : falls prior s
      · simpa [Follows, hfalls] using hstay
      · simp [Follows, hfalls]

theorem stateConflicts_eq_nil {states : List EffectiveUseState} :
    stateConflicts none states = [] ↔ states.IsChain Follows := by
  cases states with
  | nil => simp [stateConflicts]
  | cons s ss => rw [stateConflicts, stateConflicts_some_eq_nil]

/-- **What the scans accept.** -/
theorem conflicts_eq_nil_iff {facts : List ResourceUseFact} :
    conflictsOf facts = [] ↔ Consistent facts := by
  have hfirsts : ∀ l : List String, firsts l = [] ↔ l = [] := by
    intro l
    constructor
    · intro h
      by_contra hne
      exact firsts_ne_nil hne h
    · rintro rfl
      rfl
  rw [conflictsOf, hfirsts, List.append_eq_nil_iff, List.append_eq_nil_iff,
    terminalConflicts_eq_nil, sourceConflicts_eq_nil, stateConflicts_eq_nil]
  constructor
  · rintro ⟨⟨ht, -, hs⟩, hf⟩
    exact ⟨ht, hs, hf⟩
  · intro h
    refine ⟨⟨h.terminal, ?_, h.source⟩, h.follows⟩
    intro f _ d hd
    cases hd

/-! ### Longer histories -/

variable {facts : List ResourceUseFact} {h h' : Nat}

theorem statesOf_take (hle : h ≤ h') :
    statesOf (facts.take h') = statesOf (facts.take h) ++ statesOf ((facts.take h').drop h) := by
  have hsplit : facts.take h' = facts.take h ++ (facts.take h').drop h := by
    conv_lhs => rw [← List.take_append_drop h (facts.take h'), List.take_take, Nat.min_eq_left hle]
  conv_lhs => rw [hsplit, statesOf, List.filterMap_append]
  rfl

theorem Consistent.take (hle : h ≤ h') (hc : Consistent (facts.take h')) :
    Consistent (facts.take h) := by
  have hmem : ∀ s ∈ statesOf (facts.take h), s ∈ statesOf (facts.take h') := by
    intro s hs
    rw [statesOf_take hle]
    exact List.mem_append_left _ hs
  have hfacts : ∀ f ∈ facts.take h, f ∈ facts.take h' := fun f hf =>
    (List.take_subset_take_left facts hle) hf
  refine ⟨fun s hs t ht => hc.terminal s (hmem s hs) t (hmem t ht),
    fun f hf g hg => hc.source f (hfacts f hf) g (hfacts g hg), ?_⟩
  have hfollows := hc.follows
  rw [statesOf_take hle] at hfollows
  exact hfollows.left_of_append

/-- Nothing but itself follows a terminal state, at any distance. -/
theorem Consistent.final (hc : Consistent facts) :
    (statesOf facts).Pairwise fun s t => s.terminal = true → t = s := by
  have : IsTrans EffectiveUseState fun s t => s.terminal = true → t = s :=
    ⟨fun s t u hst htu hs => by rw [htu (by rw [hst hs]; exact hs), hst hs]⟩
  exact List.isChain_iff_pairwise.mp (hc.follows.imp fun _ _ hf => hf.1)

/-- A terminal state stays in a consistent history. -/
theorem Consistent.getLast?_eq (hle : h ≤ h') (hc : Consistent (facts.take h'))
    {s : EffectiveUseState} (hs : (statesOf (facts.take h)).getLast? = some s)
    (hterminal : s.terminal = true) : (statesOf (facts.take h')).getLast? = some s := by
  have hfinal := hc.final
  rw [statesOf_take hle] at hfinal ⊢
  rw [List.getLast?_append]
  cases hmore : (statesOf ((facts.take h').drop h)).getLast? with
  | none => rw [Option.none_or, hs]
  | some t =>
    have ht : t = s := (List.pairwise_append.mp hfinal).2.2 s (List.mem_of_getLast? hs) t
      (List.mem_of_getLast? hmore) hterminal
    rw [ht]
    rfl

/-- The facts themselves do not say that they are in conflict. -/
theorem ne_conflicted_of_getLast? {s : EffectiveUseState}
    (hs : (statesOf facts).getLast? = some s) : s ≠ .conflicted := by
  rintro rfl
  obtain ⟨f, -, hf⟩ := List.mem_filterMap.mp (List.mem_of_getLast? hs)
  exact f.kind.state_ne_conflicted hf

/-! ### What the reducer gives -/

variable {resourceUseId : String} {measurements : List ResourceMeasurement} {createdAt : Aware}
  {snapshot : ResourceUseSnapshot}

/-- The facts are those of one resource use. -/
def Own (resourceUseId : String) (facts : List ResourceUseFact) : Prop :=
  ∀ f ∈ facts, f.resourceUseId = resourceUseId

/-- What the reducer asks of its arguments. -/
structure Accepted (resourceUseId : String) (facts : List ResourceUseFact)
    (measurements : List ResourceMeasurement) (highWater : Nat) : Prop where
  positive : 1 ≤ highWater
  within : highWater ≤ facts.length
  own : Own resourceUseId (facts.take highWater)
  measured : ∀ m ∈ measurements, m.resourceUseId = resourceUseId
  state : statesOf (facts.take highWater) ≠ []

theorem snapshotOf_ok (huse : resourceUseId ≠ "") (selected : List ResourceUseFact)
    (measurements : List ResourceMeasurement) (highWater : Nat) (createdAt : Aware)
    (last : EffectiveUseState) :
    ∃ snapshot, snapshotOf resourceUseId selected measurements highWater createdAt last = .ok snapshot
      ∧ snapshot.effectiveState = if conflictsOf selected = [] then last else .conflicted := by
  have hid : ∀ digest : Json, ¬([resourceUseId, toString highWater, canonicalDigest digest] = []
      ∨ "" ∈ [resourceUseId, toString highWater, canonicalDigest digest]) := by
    intro digest hbad
    rcases hbad with hnil | hmem
    · cases hnil
    · simp only [List.mem_cons, List.not_mem_nil, or_false] at hmem
      rcases hmem with h₁ | h₁ | h₁
      · exact huse h₁.symm
      · obtain ⟨c, cs, hdigits, -⟩ := Json.toDigits_head highWater
        have hnil : "".toList = c :: cs := by
          rw [h₁, ← hdigits]
          exact String.toList_ofList
        cases hnil
      · have hlength := hexdigest_length (Json.dumps false digest)
        rw [canonicalDigest] at h₁
        rw [← h₁] at hlength
        cases hlength
  rw [snapshotOf]
  simp only [stableId]
  rw [if_neg (hid _)]
  exact ⟨_, rfl, rfl⟩

/-- **What the reducer gives**: it answers exactly what it accepts, with the last
state if the facts are consistent and with a conflict otherwise. -/
theorem reduce_spec (createdAt : Aware) (hacc : Accepted resourceUseId facts measurements h) :
    ∃ last snapshot, (statesOf (facts.take h)).getLast? = some last
      ∧ reduceResourceUse resourceUseId facts measurements h createdAt = .ok snapshot
      ∧ (Consistent (facts.take h) → snapshot.effectiveState = last)
      ∧ (¬ Consistent (facts.take h) → snapshot.effectiveState = .conflicted) := by
  obtain ⟨last, hlast⟩ := Option.ne_none_iff_exists'.mp
    (mt List.getLast?_eq_none_iff.mp hacc.state)
  have hrange : ¬(h < 1 ∨ facts.length < h) := by
    have h₁ := hacc.positive
    have h₂ := hacc.within
    omega
  have hscope : ¬((∃ f ∈ facts.take h, f.resourceUseId ≠ resourceUseId)
      ∨ ∃ m ∈ measurements, m.resourceUseId ≠ resourceUseId) := by
    rintro (⟨f, hf, hne⟩ | ⟨m, hm, hne⟩)
    · exact hne (hacc.own f hf)
    · exact hne (hacc.measured m hm)
  have huse : resourceUseId ≠ "" := by
    obtain ⟨s, hs⟩ := List.exists_mem_of_ne_nil _ hacc.state
    obtain ⟨f, hf, -⟩ := List.mem_filterMap.mp hs
    rw [← hacc.own f hf]
    exact f.resourceUseIdRequired.1
  obtain ⟨snapshot, hsnapshot, heffective⟩ :=
    snapshotOf_ok huse (facts.take h) measurements h createdAt last
  refine ⟨last, snapshot, hlast, ?_, ?_, ?_⟩
  · rw [reduceResourceUse, if_neg hrange, if_neg hscope, hlast]
    exact hsnapshot
  · intro hc
    rw [heffective, if_pos (conflicts_eq_nil_iff.mpr hc)]
  · intro hc
    rw [heffective, if_neg (mt conflicts_eq_nil_iff.mp hc)]

theorem accepted_of_reduce
    (hr : reduceResourceUse resourceUseId facts measurements h createdAt = .ok snapshot) :
    Accepted resourceUseId facts measurements h := by
  rw [reduceResourceUse] at hr
  split at hr
  · cases hr
  · next hrange =>
    split at hr
    · cases hr
    · next hscope =>
      obtain ⟨hown, hmeasured⟩ := not_or.mp hscope
      refine ⟨by omega, by omega, ?_, ?_, ?_⟩
      · intro f hf
        by_contra hne
        exact hown ⟨f, hf, hne⟩
      · intro m hm
        by_contra hne
        exact hmeasured ⟨m, hm, hne⟩
      · intro hnil
        rw [hnil] at hr
        cases hr

/-- **A longer history** of the same use is accepted too. -/
theorem Accepted.longer (hacc : Accepted resourceUseId facts measurements h) (hle : h ≤ h')
    (hlen : h' ≤ facts.length) (hown : Own resourceUseId (facts.take h')) :
    Accepted resourceUseId facts measurements h' := by
  refine ⟨hacc.positive.trans hle, hlen, hown, hacc.measured, ?_⟩
  rw [statesOf_take hle]
  intro hnil
  exact hacc.state (List.append_eq_nil_iff.mp hnil).1

/-! ### Legal histories -/

/-- A history as it should be. -/
structure Legal (facts : List ResourceUseFact) : Prop where
  /-- There is at most one terminal state. -/
  terminal : ∀ s ∈ statesOf facts, ∀ t ∈ statesOf facts, s.terminal = true → t.terminal = true →
    s = t
  /-- No other state follows a terminal one. -/
  final : (statesOf facts).Pairwise fun s t => s.terminal = true → t = s
  /-- No rank falls, however far apart. -/
  ranks : (statesOf facts).Pairwise fun s t => falls s t = false
  /-- Every observation has one digest, whoever reports it. -/
  observations : ∀ f ∈ facts, ∀ g ∈ facts, f.sourceObservationId = g.sourceObservationId →
    f.sourceDigest = g.sourceDigest

/-- What is legal and hidden from the scans does not go wrong: where the history is
consistent, no rank falls behind a state without one, and no two owners report one
observation with two digests. -/
def Unmasked (facts : List ResourceUseFact) : Prop :=
  Consistent facts → (statesOf facts).Pairwise (fun s t => falls s t = false)
    ∧ ∀ f ∈ facts, ∀ g ∈ facts, f.sourceObservationId = g.sourceObservationId →
      f.sourceDigest = g.sourceDigest

theorem legal_iff_of_consistent (hc : Consistent facts) : Legal facts ↔ Unmasked facts :=
  ⟨fun hl _ => ⟨hl.ranks, hl.observations⟩,
    fun hu => ⟨hc.terminal, hc.final, (hu hc).1, (hu hc).2⟩⟩

/-- **Every illegal history is detected.** What the reducer gives for the first `h`
facts bounds what it gives for more of them, and it is in conflict unless the first
`h` facts are legal. -/
def Detects (resourceUseId : String) (facts : List ResourceUseFact)
    (measurements : List ResourceMeasurement) (createdAt : Aware) : Prop :=
  ∀ h h' snapshot, h ≤ h' → h' ≤ facts.length → Own resourceUseId (facts.take h') →
    reduceResourceUse resourceUseId facts measurements h createdAt = .ok snapshot →
    ∃ snapshot', reduceResourceUse resourceUseId facts measurements h' createdAt = .ok snapshot'
      ∧ (snapshot.effectiveState.terminal = true →
          snapshot'.effectiveState = snapshot.effectiveState
            ∨ snapshot'.effectiveState = .conflicted)
      ∧ (snapshot.effectiveState = .conflicted → snapshot'.effectiveState = .conflicted)
      ∧ (snapshot.effectiveState ≠ .conflicted → Legal (facts.take h))

/-- **The reducer detects every illegal history exactly if none is masked.** -/
theorem detects_iff (resourceUseId : String) (facts : List ResourceUseFact)
    (measurements : List ResourceMeasurement) (createdAt : Aware) :
    Detects resourceUseId facts measurements createdAt
      ↔ ∀ h, Accepted resourceUseId facts measurements h → Unmasked (facts.take h) := by
  constructor
  · intro hdetects h hacc hc
    obtain ⟨last, snapshot, hlast, hreduce, hconsistent, -⟩ := reduce_spec createdAt hacc
    obtain ⟨-, -, -, -, hlegal⟩ := hdetects h h snapshot le_rfl hacc.within hacc.own hreduce
    have hstate : snapshot.effectiveState ≠ .conflicted := by
      rw [hconsistent hc]
      exact ne_conflicted_of_getLast? hlast
    exact (legal_iff_of_consistent hc).mp (hlegal hstate) hc
  · intro hunmasked h h' snapshot hle hlen hown hreduce
    have hacc := accepted_of_reduce hreduce
    obtain ⟨last, snapshot₁, hlast, hreduce₁, hconsistent, hconflict⟩ :=
      reduce_spec createdAt hacc
    obtain ⟨last', snapshot', hlast', hreduce', hconsistent', hconflict'⟩ :=
      reduce_spec createdAt (hacc.longer hle hlen hown)
    obtain rfl := Except.ok.inj (hreduce.symm.trans hreduce₁)
    refine ⟨snapshot', hreduce', ?_, ?_, ?_⟩
    · intro hterminal
      by_cases hc' : Consistent (facts.take h')
      · left
        rw [hconsistent (hc'.take hle)] at hterminal ⊢
        have hstays := hc'.getLast?_eq hle hlast hterminal
        rw [hlast'] at hstays
        rw [hconsistent' hc', Option.some.inj hstays]
      · right
        exact hconflict' hc'
    · intro hconflicted
      refine hconflict' fun hc' => ?_
      rw [hconsistent (hc'.take hle)] at hconflicted
      exact ne_conflicted_of_getLast? hlast hconflicted
    · intro hstate
      have hc : Consistent (facts.take h) := by
        by_contra hc
        exact hstate (hconflict hc)
      exact (legal_iff_of_consistent hc).mpr (hunmasked h hacc)

/-! ### A fall behind a stale state -/

namespace Sample

def now : Aware := .utc ⟨0, zero_lt_maxMicros⟩

def running : ResourceUseFact :=
  ⟨"fact-1", "use-1", .running, "runtime", "observation-1", "digest-1", now, now, [], [], none,
    by decide, by decide, by decide, by decide, by decide⟩

def stale : ResourceUseFact :=
  ⟨"fact-2", "use-1", .stale, "monitor", "observation-2", "digest-2", now, now, [], [], none,
    by decide, by decide, by decide, by decide, by decide⟩

def requested : ResourceUseFact :=
  ⟨"fact-3", "use-1", .requested, "runtime", "observation-3", "digest-3", now, now, [], [], none,
    by decide, by decide, by decide, by decide, by decide⟩

/-- A use that runs, is stale and is then requested. -/
def history : List ResourceUseFact := [running, stale, requested]

theorem consistent_history : Consistent history := by
  refine ⟨by decide, by unfold OneDigest; decide, ?_⟩
  rw [← stateConflicts_eq_nil]
  rfl

/-- **The fall is not detected.** -/
theorem fall_behind_stale :
    ¬ ∀ resourceUseId facts measurements createdAt,
      Detects resourceUseId facts measurements createdAt := by
  intro h
  have hacc : Accepted "use-1" history [] 3 := by
    refine ⟨by decide, by decide, by unfold Own; decide, ?_, by decide⟩
    intro m hm
    cases hm
  obtain ⟨last, snapshot, hlast, hreduce, hconsistent, -⟩ := reduce_spec now hacc
  obtain ⟨-, -, -, -, hlegal⟩ :=
    h "use-1" history [] now 3 3 snapshot le_rfl hacc.within hacc.own hreduce
  have hstate : snapshot.effectiveState ≠ .conflicted := by
    rw [hconsistent consistent_history]
    exact ne_conflicted_of_getLast? hlast
  have hranks : ([.running, .stale, .requested] : List EffectiveUseState).Pairwise
      fun s t => falls s t = false := (hlegal hstate).ranks
  exact absurd hranks (by decide)

end Sample

end ResourceUse

end AgentPlatform
