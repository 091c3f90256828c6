/-
AgentPlatform/Dispatch/Ledger.lean

Whole runs of the dispatch store. An `Operation` is one call of the repository
or the completion writer with arbitrary arguments, or a write of some other
component to the tables dispatch does not own.

Every operation that writes a command row moves that row by one `RowStep` and
appends one fact of the step's kind. The invariant `Inv` follows by induction: the
rows satisfy the `CHECK` constraints of migration 0022, and the facts of a command
spell out its row (`CommandRow.ledger`).

The replay path of `append_native_completion` inserts its terminal fact again
and relies on `ON CONFLICT DO NOTHING`; there collision freedom of SHA-256 is used,
on a set `T` of the canonical texts of all observations presented in the run.
-/
import AgentPlatform.Dispatch.Sample

namespace AgentPlatform

open Py

/-! ### Dispatch states -/

def NativeDispatchState.terminalKind : NativeDispatchState → Option NativeTerminalKind
  | succeeded => some .succeeded
  | failed => some .failed
  | unknown => some .unknown
  | recoveryRequired => some .recoveryRequired
  | _ => none

/-- The effect has started. -/
def NativeDispatchState.isStarted : NativeDispatchState → Bool
  | queued | claimed => false
  | _ => true

namespace NativeDispatchState

@[simp] theorem isStarted_claimed : claimed.isStarted = false := rfl
@[simp] theorem isStarted_effectStarted : effectStarted.isStarted = true := rfl
@[simp] theorem terminalKind_claimed : claimed.terminalKind = none := rfl
@[simp] theorem terminalKind_effectStarted : effectStarted.terminalKind = none := rfl

end NativeDispatchState

@[simp] theorem NativeTerminalKind.state_isStarted (k : NativeTerminalKind) :
    k.state.isStarted = true := by
  cases k <;> rfl

@[simp] theorem NativeTerminalKind.state_terminalKind (k : NativeTerminalKind) :
    k.state.terminalKind = some k := by
  cases k <;> rfl

section Ledger

variable [Unicodedata]

/-! ### Operations and runs -/

/-- One call on the dispatch store. -/
inductive Operation
  | enqueue (c : NativeDispatchCommand)
  | claimNext (workerId : String) (now : Datetime) (leaseSeconds : Int) (token : Digest)
      (locked : RowKey → Bool)
  | permitEffect (claim : NativeDispatchClaim) (taskName : String)
      (authorizationCheck : NativeDispatchCommand → Except Failure Bool) (now : Datetime)
  | recordKubernetesCorrelation (claim : NativeDispatchClaim) (taskName taskUid : String)
  | recordUncertain (claim : NativeDispatchClaim) (o : NativeTerminalObservation)
  | appendNativeCompletion (checkpoint : String → Except Failure Unit)
      (claim : NativeDispatchClaim) (o : NativeTerminalObservation)
      (evidence : List ExecutionEvidenceRecord) (outcomeId workflowRunId : String) (outcome : Json)
  /-- Other components write attempts, evidence, outcomes and bindings. -/
  | others (attempts : RowKey → Option AttemptRow) (evidence : List EvidenceRow)
      (outcomes : List OutcomeRow) (bindings : Bindings)

/-- The store an operation leaves behind. -/
def Operation.apply (s : Store) : Operation → Store
  | enqueue c => (transaction (AgentPlatform.enqueue c) s).2
  | claimNext w now lease token locked =>
      (transaction (AgentPlatform.claimNext w now lease token locked) s).2
  | permitEffect claim name auth now =>
      (transaction (AgentPlatform.permitEffect claim name auth now) s).2
  | recordKubernetesCorrelation claim name uid =>
      (transaction (AgentPlatform.recordKubernetesCorrelation claim name uid) s).2
  | recordUncertain claim o => (transaction (AgentPlatform.recordUncertain claim o) s).2
  | appendNativeCompletion checkpoint claim o evidence outcomeId workflowRunId outcome =>
      (transaction (AgentPlatform.appendNativeCompletion checkpoint claim o evidence outcomeId
        workflowRunId outcome) s).2
  | others attempts evidence outcomes bindings => { s with attempts, evidence, outcomes, bindings }

/-- The store after a sequence of calls. -/
def runAll (ops : List Operation) (s : Store) : Store := ops.foldl Operation.apply s

/-- Canonical texts of the observations an operation presents. -/
def Operation.observed : Operation → Set String
  | recordUncertain _ o => {canonicalBytes o.payload}
  | appendNativeCompletion _ _ o _ _ _ _ => {canonicalBytes o.payload}
  | _ => ∅

/-- Canonical texts of the observations of a run. -/
def observedTexts (ops : List Operation) : Set String := { t | ∃ op ∈ ops, t ∈ op.observed }

/-! ### What a row must look like -/

/-- The `CHECK` constraints of `native_dispatch_commands`; those on the columns
of the command itself hold by the types of `NativeDispatchCommand`. -/
structure CommandRow.Checks (row : CommandRow) : Prop where
  holder :
    (row.state = .queued ∧ row.claimGeneration = 0 ∧ row.fencingToken = none ∧
      row.workerId = none ∧ row.leaseExpiresAt = none) ∨
    (row.state = .claimed ∧ 0 < row.claimGeneration ∧ row.fencingToken.isSome ∧
      row.workerId.isSome ∧ row.leaseExpiresAt.isSome) ∨
    (row.state ≠ .queued ∧ row.state ≠ .claimed ∧ 0 < row.claimGeneration ∧
      row.fencingToken.isSome ∧ row.workerId.isSome ∧ row.leaseExpiresAt = none)
  effect : row.state.isStarted = row.effectStartedAt.isSome
  terminal : row.state.isTerminal = (row.terminalObservationDigest.isSome &&
    row.terminalRecord.isSome && row.terminalAt.isSome)
  task : row.state.isStarted = true → row.kubernetesTaskName.isSome
  digests : row.commandDigest.length = 64 ∧
    ∀ d ∈ row.terminalObservationDigest, d.length = 64

/-- The kinds of a row's facts: `QUEUED`, one `CLAIMED` per generation, then
`EFFECT_STARTED`, `CORRELATED` and the terminal kind as far as the row got. -/
def CommandRow.ledger (row : CommandRow) : List FactKind :=
  [.queued] ++ List.replicate row.claimGeneration .claimed ++
    (if row.state.isStarted then [.effectStarted] else []) ++
    (if row.kubernetesTaskUid.isSome then [.correlated] else []) ++
    (row.state.terminalKind.map FactKind.terminal).toList

/-- The terminal digest of a row is that of an observation in `T`, and its fact
is recorded. -/
def TerminalRecorded (T : Set String) (s : Store) (k : RowKey) (row : CommandRow) : Prop :=
  ∀ d ∈ row.terminalObservationDigest, ∃ o : NativeTerminalObservation,
    canonicalBytes o.payload ∈ T ∧ o.digest = d ∧ o.kind.state = row.state ∧
      s.factExists k (.terminal o.kind) (factDigest o.payload) = true

/-- What holds of the columns of a row stored under `k`. -/
structure ColumnInv (k : RowKey) (row : CommandRow) : Prop where
  key : row.payload.key = k
  storable : nulFree row.payload.texts = true
  digest : row.commandDigest = row.payload.digest
  checks : row.Checks
  settled : row.terminalObservationDigest.isSome = row.state.isTerminal
  uncorrelated : row.state.isStarted = false → row.kubernetesTaskUid = none
  held : row.state.isStarted = true → ∃ claim, row.heldBy claim = true
  named : ∀ n ∈ row.kubernetesTaskName, nulFree [n] = true

/-- The invariant of one row and its facts. -/
structure RowInv (T : Set String) (s : Store) (k : RowKey) (row : CommandRow) : Prop
    extends ColumnInv k row where
  kinds : (s.factsOf k).map (·.kind) = row.ledger
  ordinals : (s.factsOf k).map (·.ordinal) = List.range' 1 (s.factsOf k).length
  recorded : TerminalRecorded T s k row

/-- The column invariant of every row. -/
def Columns (s : Store) : Prop :=
  ∀ k row, s.commands.lookup k = some row → ColumnInv k row

structure Inv (T : Set String) (s : Store) : Prop where
  rows : ∀ k row, s.commands.lookup k = some row → RowInv T s k row
  owned : ∀ f ∈ s.facts, (s.commands.lookup f.key).isSome

theorem Inv.fresh {s : Store} (h : s.Fresh) (T : Set String) : Inv T s where
  rows k row hl := by
    rw [h.commands] at hl
    cases hl
  owned f hf := by
    rw [h.facts] at hf
    cases hf

theorem Inv.columns {T : Set String} {s : Store} (h : Inv T s) : Columns s :=
  fun k row hl => (h.rows k row hl).toColumnInv

/-! ### Steps of a row -/

/-- The ways a row can move, with the kind and the record of the fact each
appends; a terminal step records an observation in `T`. -/
inductive RowStep (T : Set String) (k : RowKey) :
    Option CommandRow → CommandRow → FactKind → Json → Prop
  | queue {c : NativeDispatchCommand} (hk : c.key = k) (hn : nulFree c.texts = true) :
      RowStep T k none (.queued c) .queued (queuedRecord c)
  | claim {row : CommandRow} {token : Digest} {workerId : String} {lease now : Datetime}
      (hc : row.claimable now = true) :
      RowStep T k (some row) (row.claimedBy token workerId lease) .claimed
        (claimedRecord (row.claimGeneration + 1) workerId lease)
  | start {row : CommandRow} {claim : NativeDispatchClaim} {taskName : String} {now : Datetime}
      (hh : row.heldBy claim = true) (hs : row.state = .claimed)
      (hn : nulFree [taskName] = true) :
      RowStep T k (some row) (row.started taskName now) .effectStarted
        (startedRecord claim.claimGeneration.value taskName)
  | correlate {row : CommandRow} {claim : NativeDispatchClaim} {taskName uid : String}
      (hh : row.heldBy claim = true) (hs : row.state = .effectStarted)
      (hu : row.kubernetesTaskUid = none) :
      RowStep T k (some row) { row with kubernetesTaskUid := some uid } .correlated
        (correlatedRecord taskName uid)
  | terminate {row : CommandRow} {claim : NativeDispatchClaim} {o : NativeTerminalObservation}
      (hh : row.heldBy claim = true) (hs : row.state = .effectStarted)
      (hd : row.terminalObservationDigest = none) (ho : canonicalBytes o.payload ∈ T) :
      RowStep T k (some row) (row.terminated o) (.terminal o.kind) o.payload

/-- What an operation does to the ledger: nothing, or one step of one row
together with its fact. -/
inductive Change (T : Set String) (s s' : Store) : Prop
  | same (hc : s'.commands = s.commands) (hf : s'.facts = s.facts)
  | step {k : RowKey} {row' : CommandRow} {kind : FactKind} {record : Json}
      (hr : RowStep T k (s.commands.lookup k) row' kind record)
      (hc : s'.commands = s.commands.insert k row')
      (hf : s'.facts = s.facts ++
        [⟨k, nextOrdinal (s.factsOf k), kind, factDigest record, record⟩])

/-! ### Steps keep the invariant -/

theorem claimable_state {row : CommandRow} {now : Datetime} (h : row.claimable now = true) :
    row.state = .queued ∨ row.state = .claimed := by
  unfold CommandRow.claimable at h
  rcases e : row.state <;> simp_all

/-- A step appends its own kind to the ledger of the row. -/
theorem RowStep.ledger {T : Set String} {k : RowKey} {old : Option CommandRow}
    {row' : CommandRow} {kind : FactKind} {record : Json} (h : RowStep T k old row' kind record)
    (hi : ∀ row ∈ old, ColumnInv k row) :
    row'.ledger = (old.elim [] (·.ledger)) ++ [kind] := by
  cases h with
  | queue hk hn => rfl
  | @claim row token workerId lease now hc =>
    have hu : row.kubernetesTaskUid = none := by
      refine (hi row rfl).uncorrelated ?_
      rcases claimable_state hc with e | e <;> rw [e] <;> rfl
    have hb : row.state.isStarted = false ∧ row.state.terminalKind = none := by
      rcases claimable_state hc with e | e <;> rw [e] <;> exact ⟨rfl, rfl⟩
    simp [CommandRow.ledger, CommandRow.claimedBy, hu, hb, List.replicate_succ']
  | @start row claim taskName now hh hs hn =>
    have hu : row.kubernetesTaskUid = none := (hi row rfl).uncorrelated (by rw [hs]; rfl)
    simp [CommandRow.ledger, CommandRow.started, hu, hs]
  | correlate hh hs hu => simp [CommandRow.ledger, hu, hs]
  | @terminate row claim o hh hs hd ho =>
    rcases hu : row.kubernetesTaskUid <;> simp [CommandRow.ledger, CommandRow.terminated, hs, hu]

/-- A step keeps the `CHECK` constraints. -/
theorem RowStep.checks {T : Set String} {k : RowKey} {old : Option CommandRow}
    {row' : CommandRow} {kind : FactKind} {record : Json} (h : RowStep T k old row' kind record)
    (hi : ∀ row ∈ old, ColumnInv k row) : row'.Checks := by
  cases h with
  | queue hk hn =>
    exact ⟨.inl ⟨rfl, rfl, rfl, rfl, rfl⟩, rfl, rfl, nofun, hexdigest_length _, nofun⟩
  | @claim row token workerId lease now hc =>
    have hr := hi row rfl
    have hb : row.state.isStarted = false ∧ row.state.isTerminal = false := by
      rcases claimable_state hc with e | e <;> rw [e] <;> exact ⟨rfl, rfl⟩
    refine ⟨.inr (.inl ⟨rfl, Nat.succ_pos _, rfl, rfl, rfl⟩), ?_, ?_, nofun, hr.checks.digests⟩
    · rw [show (row.claimedBy token workerId lease).effectStartedAt = row.effectStartedAt from rfl,
        ← hr.checks.effect, hb.1]
      rfl
    · rw [show (row.claimedBy token workerId lease).terminalObservationDigest
          = row.terminalObservationDigest from rfl, hr.settled, hb.2]
      rfl
  | @start row claim taskName now hh hs hn =>
    have hr := hi row rfl
    obtain ⟨hg, ht, hw⟩ := heldBy_iff.mp hh
    have hp : 0 < row.claimGeneration := by
      rw [hg]
      exact claim.claimGeneration.positive
    refine ⟨.inr (.inr ⟨by simp [CommandRow.started], by simp [CommandRow.started], hp, ?_, ?_,
      rfl⟩), rfl, ?_, fun _ => rfl, hr.checks.digests⟩
    · simp [CommandRow.started, ht]
    · simp [CommandRow.started, hw]
    · rw [show (row.started taskName now).terminalObservationDigest
          = row.terminalObservationDigest from rfl, hr.settled, hs]
      rfl
  | @correlate row claim taskName uid hh hs hu =>
    have hr := hi row rfl
    exact ⟨hr.checks.holder, hr.checks.effect, hr.checks.terminal, hr.checks.task,
      hr.checks.digests⟩
  | @terminate row claim o hh hs hd ho =>
    have hr := hi row rfl
    have hn : o.kind.state ≠ .queued ∧ o.kind.state ≠ .claimed := by
      cases o.kind <;> exact ⟨by decide, by decide⟩
    obtain ⟨hg, ht, hw⟩ := heldBy_iff.mp hh
    have hl : row.leaseExpiresAt = none := by
      rcases hr.checks.holder with h | h | h
      · rw [hs] at h
        cases h.1
      · rw [hs] at h
        cases h.1
      · exact h.2.2.2.2.2
    refine ⟨.inr (.inr ⟨hn.1, hn.2, ?_, ?_, ?_, hl⟩), ?_, ?_, fun _ => ?_,
      hr.checks.digests.1, ?_⟩
    · rw [show (row.terminated o).claimGeneration = row.claimGeneration from rfl, hg]
      exact claim.claimGeneration.positive
    · simp [CommandRow.terminated, ht]
    · simp [CommandRow.terminated, hw]
    · rw [show (row.terminated o).effectStartedAt = row.effectStartedAt from rfl,
        ← hr.checks.effect, hs, show (row.terminated o).state = o.kind.state from rfl,
        o.kind.state_isStarted]
      rfl
    · rw [show (row.terminated o).state = o.kind.state from rfl, o.kind.state_isTerminal]
      rfl
    · exact hr.checks.task (by rw [hs]; rfl)
    · rintro d ⟨⟩
      exact hexdigest_length _

theorem ColumnInv.digest_none {k : RowKey} {row : CommandRow} (h : ColumnInv k row)
    (hs : row.state.isTerminal = false) : row.terminalObservationDigest = none := by
  rw [← Option.not_isSome_iff_eq_none, h.settled, hs]
  simp

/-- A step keeps the column invariant. -/
theorem RowStep.columns {T : Set String} {k : RowKey} {old : Option CommandRow}
    {row' : CommandRow} {kind : FactKind} {record : Json} (h : RowStep T k old row' kind record)
    (hi : ∀ row ∈ old, ColumnInv k row) : ColumnInv k row' := by
  have checks := h.checks hi
  cases h with
  | queue hk hn =>
    exact ⟨hk, hn, rfl, checks, rfl, fun _ => rfl, nofun, nofun⟩
  | @claim row token workerId lease now hc =>
    have h := hi row rfl
    have hb : row.state.isStarted = false ∧ row.state.isTerminal = false := by
      rcases claimable_state hc with e | e <;> rw [e] <;> exact ⟨rfl, rfl⟩
    refine ⟨h.key, h.storable, h.digest, checks, ?_, fun _ => h.uncorrelated hb.1, nofun, h.named⟩
    rw [CommandRow.claimedBy, h.digest_none hb.2]
    rfl
  | @start row claim taskName now hh hs hn =>
    have h := hi row rfl
    refine ⟨h.key, h.storable, h.digest, checks, ?_, nofun, fun _ => ⟨claim, hh⟩, ?_⟩
    · rw [CommandRow.started, h.digest_none (by rw [hs]; rfl)]
      rfl
    · rintro n ⟨⟩
      exact hn
  | @correlate row claim taskName uid hh hs hu =>
    have h := hi row rfl
    refine ⟨h.key, h.storable, h.digest, checks, h.settled, ?_, fun _ => ⟨claim, hh⟩, h.named⟩
    intro (hst : row.state.isStarted = false)
    rw [hs] at hst
    cases hst
  | @terminate row claim o hh hs hd ho =>
    have h := hi row rfl
    refine ⟨h.key, h.storable, h.digest, checks, o.kind.state_isTerminal.symm, ?_,
      fun _ => ⟨claim, hh⟩, h.named⟩
    intro (hst : o.kind.state.isStarted = false)
    rw [o.kind.state_isStarted] at hst
    cases hst

/-! ### Facts after a step -/

theorem factsOf_append {s s' : Store} {f : Fact} (h : s'.facts = s.facts ++ [f]) (k : RowKey) :
    s'.factsOf k = s.factsOf k ++ if f.key = k then [f] else [] := by
  unfold Store.factsOf
  rw [h, List.filter_append]
  by_cases hk : f.key = k <;> simp [hk]

theorem factExists_append {s s' : Store} {f : Fact} (h : s'.facts = s.facts ++ [f]) {k : RowKey}
    {kind : FactKind} {digest : String} (he : s.factExists k kind digest = true) :
    s'.factExists k kind digest = true := by
  unfold Store.factExists at he ⊢
  rw [h, List.any_append, he]
  rfl

omit [Unicodedata] in
/-- Ordinals `1..n` continue with `n + 1`. -/
theorem nextOrdinal_eq {facts : List Fact}
    (h : facts.map (·.ordinal) = List.range' 1 facts.length) :
    nextOrdinal facts = facts.length + 1 := by
  have hm : ∀ n m, (List.range' m n).foldr max 0 = if n = 0 then 0 else m + n - 1 := by
    intro n
    induction n with
    | zero =>
      intro m
      rfl
    | succ n ih =>
      intro m
      rw [List.range'_succ, List.foldr_cons, ih, if_neg (Nat.succ_ne_zero n)]
      split <;> omega
  rw [nextOrdinal, h, hm]
  split <;> omega

theorem TerminalRecorded.append {T : Set String} {s s' : Store} {k : RowKey} {row : CommandRow}
    {f : Fact} (h : TerminalRecorded T s k row) (hf : s'.facts = s.facts ++ [f]) :
    TerminalRecorded T s' k row := by
  intro d hd
  obtain ⟨o, h1, h2, h3, h4⟩ := h d hd
  exact ⟨o, h1, h2, h3, factExists_append hf h4⟩

/-- A row that a step does not touch keeps its invariant. -/
theorem RowInv.frame {T : Set String} {s s' : Store} {k : RowKey} {row : CommandRow} {f : Fact}
    (h : RowInv T s k row) (hf : s'.facts = s.facts ++ [f]) (hk : f.key ≠ k) :
    RowInv T s' k row := by
  have hs : s'.factsOf k = s.factsOf k := by
    rw [factsOf_append hf, if_neg hk, List.append_nil]
  exact { h with
    kinds := by rw [hs, h.kinds]
    ordinals := by rw [hs, h.ordinals]
    recorded := h.recorded.append hf }

/-- A stored command has the facts of its ledger, a command that is not stored
has none. -/
theorem Inv.ledger_lookup {T : Set String} {s : Store} (hi : Inv T s) (k : RowKey) :
    (s.factsOf k).map (·.kind) = ((s.commands.lookup k).elim [] (·.ledger)) ∧
      (s.factsOf k).map (·.ordinal) = List.range' 1 (s.factsOf k).length := by
  rcases e : s.commands.lookup k with _ | row
  · have hn : s.factsOf k = [] := by
      rw [Store.factsOf, List.filter_eq_nil_iff]
      intro f hm he
      simp only [decide_eq_true_eq] at he
      have := hi.owned f hm
      rw [he, e] at this
      cases this
    rw [hn]
    exact ⟨rfl, rfl⟩
  · exact ⟨(hi.rows k row e).kinds, (hi.rows k row e).ordinals⟩

/-- A step records the observation whose digest it writes. -/
theorem RowStep.recorded {T : Set String} {s s' : Store} {k : RowKey} {old : Option CommandRow}
    {row' : CommandRow} {kind : FactKind} {record : Json} {n : Nat}
    (hr : RowStep T k old row' kind record) (hi : ∀ row ∈ old, ColumnInv k row)
    (hf : s'.facts = s.facts ++ [⟨k, n, kind, factDigest record, record⟩]) :
    TerminalRecorded T s' k row' := by
  cases hr with
  | queue hk hn => nofun
  | @claim row token workerId lease now hc =>
    have hb : row.state.isTerminal = false := by
      rcases claimable_state hc with e | e <;> rw [e] <;> rfl
    intro d (hd : d ∈ row.terminalObservationDigest)
    rw [(hi row rfl).digest_none hb] at hd
    cases hd
  | @start row claim taskName now hh hs hn =>
    intro d (hd : d ∈ row.terminalObservationDigest)
    rw [(hi row rfl).digest_none (by rw [hs]; rfl)] at hd
    cases hd
  | @correlate row claim taskName uid hh hs hu =>
    intro d (hd : d ∈ row.terminalObservationDigest)
    rw [(hi row rfl).digest_none (by rw [hs]; rfl)] at hd
    cases hd
  | @terminate row claim o hh hs hd ho =>
    rintro d ⟨⟩
    refine ⟨o, ho, rfl, rfl, ?_⟩
    unfold Store.factExists
    rw [hf]
    simp

/-- The row a step writes satisfies the invariant. -/
theorem RowStep.inv {T : Set String} {s s' : Store} {k : RowKey} {row' : CommandRow}
    {kind : FactKind} {record : Json}
    (hr : RowStep T k (s.commands.lookup k) row' kind record) (hi : Inv T s)
    (hf : s'.facts = s.facts ++
      [⟨k, nextOrdinal (s.factsOf k), kind, factDigest record, record⟩]) :
    RowInv T s' k row' := by
  have hold : ∀ row ∈ s.commands.lookup k, ColumnInv k row :=
    fun row h => (hi.rows k row h).toColumnInv
  have hs : s'.factsOf k = s.factsOf k ++
      [⟨k, nextOrdinal (s.factsOf k), kind, factDigest record, record⟩] := by
    rw [factsOf_append hf, if_pos rfl]
  obtain ⟨hk, ho⟩ := hi.ledger_lookup k
  refine ⟨hr.columns hold, ?_, ?_, hr.recorded hold hf⟩
  · rw [hs, List.map_append, hk, hr.ledger hold]
    rfl
  · rw [hs, List.map_append, ho, List.map_singleton, List.length_append,
      nextOrdinal_eq ho, List.length_singleton, List.range'_concat]
    simp [Nat.add_comm]

/-- **Steps keep the ledger invariant.** -/
theorem Change.inv {T : Set String} {s s' : Store} (h : Change T s s') (hi : Inv T s) :
    Inv T s' := by
  cases h with
  | same hc hf =>
    have hs : ∀ k, s'.factsOf k = s.factsOf k := fun k => by rw [Store.factsOf, hf]; rfl
    have he : ∀ k kind d, s'.factExists k kind d = s.factExists k kind d := fun k kind d => by
      rw [Store.factExists, hf]; rfl
    refine ⟨fun k row hl => ?_, fun f hm => ?_⟩
    · rw [hc] at hl
      have h := hi.rows k row hl
      exact { h with
        kinds := by rw [hs, h.kinds]
        ordinals := by rw [hs, h.ordinals]
        recorded := fun d hd => by simpa only [he] using h.recorded d hd }
    · rw [hc]
      rw [hf] at hm
      exact hi.owned f hm
  | @step k row' kind record hr hc hf =>
    refine ⟨fun k' row hl => ?_, fun f hm => ?_⟩
    · rw [hc] at hl
      by_cases hk : k' = k
      · subst hk
        rw [AList.lookup_insert] at hl
        cases hl
        exact hr.inv hi hf
      · rw [AList.lookup_insert_ne hk] at hl
        exact (hi.rows k' row hl).frame hf fun e => hk e.symm
    · rw [hf, List.mem_append, List.mem_singleton] at hm
      rw [hc]
      rcases hm with hm | rfl
      · by_cases hk : f.key = k
        · rw [hk, AList.lookup_insert]
          rfl
        · rw [AList.lookup_insert_ne hk]
          exact hi.owned f hm
      · rw [AList.lookup_insert]
        rfl

/-! ### Operations are steps -/

/-- While the effect runs there is no terminal fact. -/
theorem Inv.no_terminal_fact {T : Set String} {s : Store} (hi : Inv T s) {k : RowKey}
    {row : CommandRow} (hl : s.commands.lookup k = some row) (hs : row.state = .effectStarted)
    (kind : NativeTerminalKind) (d : String) : s.factExists k (.terminal kind) d = false := by
  rw [← Bool.not_eq_true]
  intro he
  simp only [Store.factExists, List.any_eq_true, decide_eq_true_eq] at he
  obtain ⟨f, hf, hk, hkind, -⟩ := he
  have hm : f.kind ∈ row.ledger := by
    rw [← (hi.rows k row hl).kinds]
    exact List.mem_map_of_mem (List.mem_filter.mpr ⟨hf, by simpa using hk⟩)
  rw [hkind] at hm
  rcases hu : row.kubernetesTaskUid with _ | uid <;> simp [CommandRow.ledger, hs, hu] at hm

theorem enqueue_change {T : Set String} {s s' : Store} {c : NativeDispatchCommand}
    {d : AppendDisposition} (h : enqueue c s = .ok (d, s')) : Change T s s' := by
  obtain ⟨-, ⟨existing, -, -, -, rfl⟩ | ⟨hl, hi, -, rfl⟩⟩ := enqueue_ok h
  · exact .same rfl rfl
  · have hn : nulFree c.texts = true := by
      simp only [Store.insertable, Bool.and_eq_true] at hi
      exact hi.1.1.1
    exact .step (by rw [hl]; exact .queue rfl hn) rfl rfl

theorem claimNext_change {T : Set String} {s s' : Store} (hi : Columns s) {workerId : String}
    {now : Datetime} {leaseSeconds : Int} {token : Digest} {locked : RowKey → Bool}
    {r : Option NativeDispatchClaim}
    (h : claimNext workerId now leaseSeconds token locked s = .ok (r, s')) : Change T s s' := by
  rcases claimNext_ok h with ⟨-, rfl⟩ | ⟨k, row, lease, claim, hc, -, rfl⟩
  · exact .same rfl rfl
  · rw [(hi k row hc.found).key]
    exact .step (by rw [hc.found]; exact .claim hc.claimable) rfl rfl

theorem permitEffect_change {T : Set String} {s s' : Store} {claim : NativeDispatchClaim}
    {taskName : String} {authorizationCheck : NativeDispatchCommand → Except Failure Bool}
    {now : Datetime} {d : AppendDisposition}
    (h : permitEffect claim taskName authorizationCheck now s = .ok (d, s')) : Change T s s' := by
  rcases permitEffect_ok h with ⟨row, -, -, -, -, -, rfl⟩ | ⟨row, hp, -, rfl⟩
  · exact .same rfl rfl
  · exact .step (by rw [hp.found]; exact .start hp.held hp.claimed hp.nameStorable) rfl rfl

theorem recordKubernetesCorrelation_change {T : Set String} {s s' : Store}
    {claim : NativeDispatchClaim} {taskName taskUid : String} {d : AppendDisposition}
    (h : recordKubernetesCorrelation claim taskName taskUid s = .ok (d, s')) :
    Change T s s' := by
  obtain ⟨row, hl, hh, hs, -, ⟨-, -, rfl⟩ | ⟨hu, -, -, rfl⟩⟩ := recordKubernetesCorrelation_ok h
  · exact .same rfl rfl
  · exact .step (by rw [hl]; exact .correlate hh hs hu) rfl rfl

theorem recordUncertain_change {T : Set String} {s s' : Store} {claim : NativeDispatchClaim}
    {o : NativeTerminalObservation} (hT : canonicalBytes o.payload ∈ T) {d : AppendDisposition}
    (h : recordUncertain claim o s = .ok (d, s')) : Change T s s' := by
  obtain ⟨-, -, row, hl, hh, -, ⟨-, -, rfl⟩ | ⟨hd, hs, -, rfl⟩⟩ := recordUncertain_ok h
  · exact .same rfl rfl
  · exact .step (by rw [hl]; exact .terminate hh hs hd hT) rfl rfl

/-- A completion that finds the row terminal adds no fact: the stored digest is
that of an observation with the same canonical text, whose fact is there. -/
theorem appendNativeCompletion_change {T : Set String} (hc : CollisionFreeOn T) {s s' : Store}
    (hi : Inv T s) {checkpoint : String → Except Failure Unit} {claim : NativeDispatchClaim}
    {o : NativeTerminalObservation} (hT : canonicalBytes o.payload ∈ T)
    {evidence : List ExecutionEvidenceRecord} {outcomeId workflowRunId : String} {outcome : Json}
    {d : AppendDisposition}
    (h : appendNativeCompletion checkpoint claim o evidence outcomeId workflowRunId outcome s
      = .ok (d, s')) : Change T s s' := by
  obtain ⟨row, s₁, s₂, s₃, b₁, b₂, b₃, hs⟩ := appendNativeCompletion_ok h
  obtain ⟨hl, hh, -, -⟩ := completionRow_ok hs.locked
  obtain ⟨hcmd, hfacts, -, -⟩ := hs.frame
  have hexists : ∀ kind dg, s₃.factExists claim.key kind dg = s₁.factExists claim.key kind dg :=
    fun kind dg => by rw [Store.factExists, hfacts]; rfl
  rcases markTerminal_ok hs.marked with ⟨hd, -, rfl⟩ | ⟨hd, hst, -, rfl⟩
  · obtain ⟨o₀, ho₀, hdg, -, hf⟩ := (hi.rows _ _ hl).recorded _ hd
    obtain ⟨hkind, hdump⟩ := NativeTerminalObservation.eq_of_digest hc ho₀ hT hdg
    have hpresent : s₃.factExists claim.key (.terminal o.kind) (factDigest o.payload) = true := by
      rw [hexists, ← hkind, factDigest, ← hdump, ← factDigest, hf]
    rcases appendTerminalFact_ok hs.recorded with ⟨-, rfl⟩ | ⟨he, -⟩
    · exact .same hcmd hfacts
    · rw [hpresent] at he
      cases he
  · have habsent : s₃.factExists claim.key (.terminal o.kind) (factDigest o.payload) = false := by
      rw [hexists]
      exact hi.no_terminal_fact hl hst _ _
    rcases appendTerminalFact_ok hs.recorded with ⟨he, -⟩ | ⟨-, rfl⟩
    · rw [habsent] at he
      cases he
    · refine .step (by rw [hl]; exact .terminate hh hst hd hT) hcmd ?_
      rw [Store.addFact, Store.factsOf, hfacts]
      rfl

/-- **Every operation is one change of the ledger.** -/
theorem Operation.change {T : Set String} (hc : CollisionFreeOn T) {s : Store} (hi : Inv T s)
    (op : Operation) (hT : op.observed ⊆ T) : Change T s (op.apply s) := by
  have same : Change T s s := .same rfl rfl
  cases op with
  | enqueue c => exact transaction_state same fun _ _ h => enqueue_change h
  | claimNext w now lease token locked =>
    exact transaction_state same fun _ _ h => claimNext_change hi.columns h
  | permitEffect claim name auth now =>
    exact transaction_state same fun _ _ h => permitEffect_change h
  | recordKubernetesCorrelation claim name uid =>
    exact transaction_state same fun _ _ h => recordKubernetesCorrelation_change h
  | recordUncertain claim o =>
    exact transaction_state same fun _ _ h => recordUncertain_change (hT rfl) h
  | appendNativeCompletion checkpoint claim o evidence outcomeId workflowRunId outcome =>
    exact transaction_state same fun _ _ h => appendNativeCompletion_change hc hi (hT rfl) h
  | others attempts evidence outcomes bindings => exact .same rfl rfl

/-! ### Runs -/

theorem observedTexts_cons (op : Operation) (ops : List Operation) :
    op.observed ⊆ observedTexts (op :: ops) ∧ observedTexts ops ⊆ observedTexts (op :: ops) :=
  ⟨fun _ h => ⟨op, List.mem_cons_self, h⟩,
    fun _ ⟨op', hm, h⟩ => ⟨op', List.mem_cons_of_mem _ hm, h⟩⟩

/-- The invariant holds after every run. -/
theorem runAll_inv {T : Set String} (hc : CollisionFreeOn T) {ops : List Operation}
    (hT : observedTexts ops ⊆ T) {s : Store} (hi : Inv T s) : Inv T (runAll ops s) := by
  induction ops generalizing s with
  | nil => exact hi
  | cons op ops ih =>
    obtain ⟨h₁, h₂⟩ := observedTexts_cons op ops
    exact ih (h₂.trans hT) ((op.change hc hi (h₁.trans hT)).inv hi)

def claimedFacts (facts : List Fact) : Nat := facts.countP (·.kind = .claimed)

/-- How a row and its facts grow: facts are only added, the generation counts
the new `CLAIMED` facts, and a terminal row stays as it is. -/
structure Grows (s s' : Store) (k : RowKey) (row row' : CommandRow) (new : List Fact) : Prop where
  found : s'.commands.lookup k = some row'
  facts : s'.factsOf k = s.factsOf k ++ new
  generation : row'.claimGeneration = row.claimGeneration + claimedFacts new
  payload : row'.payload = row.payload
  terminal : row.terminalObservationDigest.isSome → row' = row ∧ new = []

theorem Grows.refl {s : Store} {k : RowKey} {row : CommandRow}
    (h : s.commands.lookup k = some row) : Grows s s k row row [] :=
  ⟨h, by simp, rfl, rfl, fun _ => ⟨rfl, rfl⟩⟩

theorem Grows.trans {s₁ s₂ s₃ : Store} {k : RowKey} {row₁ row₂ row₃ : CommandRow}
    {new new' : List Fact} (h : Grows s₁ s₂ k row₁ row₂ new) (h' : Grows s₂ s₃ k row₂ row₃ new') :
    Grows s₁ s₃ k row₁ row₃ (new ++ new') := by
  refine ⟨h'.found, ?_, ?_, h'.payload.trans h.payload, fun ht => ?_⟩
  · rw [h'.facts, h.facts, List.append_assoc]
  · rw [h'.generation, h.generation, claimedFacts, claimedFacts, claimedFacts, List.countP_append,
      Nat.add_assoc]
  · obtain ⟨rfl, rfl⟩ := h.terminal ht
    obtain ⟨rfl, rfl⟩ := h'.terminal ht
    exact ⟨rfl, rfl⟩

/-- A step of a row adds one fact, and only to a row that is not terminal. -/
theorem RowStep.grows {T : Set String} {k : RowKey} {row row' : CommandRow} {kind : FactKind}
    {record : Json} (h : RowStep T k (some row) row' kind record) (hi : ColumnInv k row) :
    row'.claimGeneration = row.claimGeneration + (if kind = .claimed then 1 else 0) ∧
      row'.payload = row.payload ∧ row.terminalObservationDigest = none := by
  cases h with
  | claim hc =>
    refine ⟨rfl, rfl, hi.digest_none ?_⟩
    rcases claimable_state hc with e | e <;> rw [e] <;> rfl
  | start hh hs hn => exact ⟨rfl, rfl, hi.digest_none (by rw [hs]; rfl)⟩
  | correlate hh hs hu => exact ⟨rfl, rfl, hi.digest_none (by rw [hs]; rfl)⟩
  | terminate hh hs hd ho => exact ⟨rfl, rfl, hd⟩

theorem Change.grows {T : Set String} {s s' : Store} (h : Change T s s') (hi : Inv T s)
    {k : RowKey} {row : CommandRow} (hl : s.commands.lookup k = some row) :
    ∃ row' new, Grows s s' k row row' new := by
  cases h with
  | same hc hf =>
    refine ⟨row, [], by rw [hc, hl], ?_, rfl, rfl, fun _ => ⟨rfl, rfl⟩⟩
    rw [Store.factsOf, hf, List.append_nil]
    rfl
  | @step k' row' kind record hr hc hf =>
    by_cases hk : k = k'
    · subst hk
      rw [hl] at hr
      obtain ⟨hg, hp, hd⟩ := hr.grows (hi.rows k row hl).toColumnInv
      refine ⟨row', [⟨k, nextOrdinal (s.factsOf k), kind, factDigest record, record⟩], ?_, ?_, ?_,
        hp, fun ht => ?_⟩
      · rw [hc, AList.lookup_insert]
      · rw [factsOf_append hf, if_pos rfl]
      · rw [hg]
        simp [claimedFacts, List.countP_cons]
      · rw [hd] at ht
        cases ht
    · refine ⟨row, [], ?_, ?_, rfl, rfl, fun _ => ⟨rfl, rfl⟩⟩
      · rw [hc, AList.lookup_insert_ne hk, hl]
      · rw [factsOf_append hf, if_neg fun e => hk e.symm]

/-- Rows and facts only grow along a run. -/
theorem runAll_grows {T : Set String} (hc : CollisionFreeOn T) {ops : List Operation}
    (hT : observedTexts ops ⊆ T) {s : Store} (hi : Inv T s) {k : RowKey} {row : CommandRow}
    (hl : s.commands.lookup k = some row) : ∃ row' new, Grows s (runAll ops s) k row row' new := by
  induction ops generalizing s row with
  | nil => exact ⟨row, [], .refl hl⟩
  | cons op ops ih =>
    obtain ⟨h₁, h₂⟩ := observedTexts_cons op ops
    have hch := op.change hc hi (h₁.trans hT)
    obtain ⟨row₁, new₁, hg₁⟩ := hch.grows hi hl
    obtain ⟨row₂, new₂, hg₂⟩ := ih (h₂.trans hT) (hch.inv hi) hg₁.found
    exact ⟨row₂, new₁ ++ new₂, hg₁.trans hg₂⟩

theorem observedTexts_append (ops later : List Operation) :
    observedTexts ops ⊆ observedTexts (ops ++ later) ∧
      observedTexts later ⊆ observedTexts (ops ++ later) :=
  ⟨fun _ ⟨op, hm, h⟩ => ⟨op, List.mem_append_left _ hm, h⟩,
    fun _ ⟨op, hm, h⟩ => ⟨op, List.mem_append_right _ hm, h⟩⟩

/-- **The row and ledger invariant.** After any run from a store in which
nothing was dispatched, every row satisfies the table's `CHECK` constraints and
its facts, numbered `1..n`, spell out its ledger. After any further calls the
row is still there, facts were only added, its generation grew by the number of
new `CLAIMED` facts, and if it was terminal then nothing changed. -/
theorem dispatch_ledger_invariant {s : Store} (hs : s.Fresh) (ops later : List Operation)
    (hc : CollisionFreeOn (observedTexts (ops ++ later))) (k : RowKey) (row : CommandRow)
    (hl : (runAll ops s).commands.lookup k = some row) :
    row.Checks ∧
      ((runAll ops s).factsOf k).map (·.kind) = row.ledger ∧
      ((runAll ops s).factsOf k).map (·.ordinal)
        = List.range' 1 ((runAll ops s).factsOf k).length ∧
      ∃ row' new, (runAll later (runAll ops s)).commands.lookup k = some row' ∧
        (runAll later (runAll ops s)).factsOf k = (runAll ops s).factsOf k ++ new ∧
        row'.claimGeneration = row.claimGeneration + claimedFacts new ∧
        (row.terminalObservationDigest.isSome → row' = row ∧ new = []) := by
  obtain ⟨h₁, h₂⟩ := observedTexts_append ops later
  have hi := runAll_inv hc h₁ (.fresh hs _)
  have hr := hi.rows k row hl
  obtain ⟨row', new, hg⟩ := runAll_grows hc h₂ hi hl
  exact ⟨hr.checks, hr.kinds, hr.ordinals, row', new, hg.found, hg.facts, hg.generation,
    hg.terminal⟩

end Ledger

section Sample

open Sample

/-- The life of `command` up to an uncertain end. -/
def Sample.calls : List Operation :=
  [.enqueue command, .claimNext "worker-1" (instant 2000000) 30 (digest 'c') fun _ => false,
    .permitEffect claim "task-name" (fun _ => .ok true) (instant 3000000),
    .recordKubernetesCorrelation claim "task-name" "uid-1", .recordUncertain claim unknownTask]

theorem Sample.runAll_calls :
    ((runAll calls store).commands.lookup command.key).map (·.state) = some .unknown := by
  have hq : Operation.apply store (.enqueue command) = queuedStore := by
    rw [Operation.apply, transaction_ok enqueue_store]
  rw [runAll, calls, List.foldl_cons, hq]
  decide +kernel

theorem Sample.observedTexts_calls :
    (observedTexts (calls ++ [])).Subsingleton := by
  have key : ∀ t ∈ observedTexts (calls ++ []), t = canonicalBytes unknownTask.payload := by
    rintro t ⟨op, hm, ht⟩
    simp only [calls, List.append_nil, List.mem_cons, List.not_mem_nil, or_false] at hm
    rcases hm with rfl | rfl | rfl | rfl | rfl <;> first | exact ht | exact ht.elim
  exact fun t ht t' ht' => (key t ht).trans (key t' ht').symm

theorem dispatch_ledger_invariant_sample :
    ∃ row, (runAll calls store).commands.lookup command.key = some row ∧ row.state = .unknown ∧
      row.Checks ∧ ((runAll calls store).factsOf command.key).map (·.kind) = row.ledger := by
  have h := runAll_calls
  rw [Option.map_eq_some_iff] at h
  obtain ⟨row, hl, hs⟩ := h
  obtain ⟨hc, hk, -⟩ := dispatch_ledger_invariant (s := store) ⟨rfl, rfl, rfl, rfl⟩ calls []
    (observedTexts_calls.injOn sha256) command.key row hl
  exact ⟨row, hl, hs, hc, hk⟩

end Sample

end AgentPlatform
