/-
AgentPlatform/Dispatch/Fencing.lean

Fencing: who may still act on a command.

`RowsChange` is what an operation does to the command rows alone; it needs no
assumption about SHA-256, because a replayed completion leaves the rows as they
are whatever it does to the facts. Rows move by `RowStep`s, so the claim
generation never decreases (`runAll_later`), and a claim whose generation
was passed is refused by all four operations that take a claim
(`stale_claim_refused`). Claims of one command that `claim_next` issued have
increasing generations, so that at most one of them is accepted at any time.
-/
import AgentPlatform.Dispatch.Ledger

namespace AgentPlatform

open Py

section Fencing

variable [Unicodedata]

/-! ### Rows along a run -/

/-- What an operation does to the command rows. -/
inductive RowsChange (s s' : Store) : Prop
  | same (hc : s'.commands = s.commands)
  | step {k : RowKey} {row' : CommandRow} {kind : FactKind} {record : Json}
      (hr : RowStep Set.univ k (s.commands.lookup k) row' kind record)
      (hc : s'.commands = s.commands.insert k row')

theorem RowStep.mono {T T' : Set String} (hT : T ⊆ T') {k : RowKey} {old : Option CommandRow}
    {row' : CommandRow} {kind : FactKind} {record : Json} (h : RowStep T k old row' kind record) :
    RowStep T' k old row' kind record := by
  cases h with
  | queue hk hn => exact .queue hk hn
  | claim hc => exact .claim hc
  | start hh hs hn => exact .start hh hs hn
  | correlate hh hs hu => exact .correlate hh hs hu
  | terminate hh hs hd ho => exact .terminate hh hs hd (hT ho)

theorem Change.rowsChange {T : Set String} {s s' : Store} (h : Change T s s') :
    RowsChange s s' := by
  cases h with
  | same hc hf => exact .same hc
  | step hr hc hf => exact .step (hr.mono (Set.subset_univ T)) hc

theorem appendNativeCompletion_rowsChange {s s' : Store}
    {checkpoint : String → Except Failure Unit} {claim : NativeDispatchClaim}
    {o : NativeTerminalObservation} {evidence : List ExecutionEvidenceRecord}
    {outcomeId workflowRunId : String} {outcome : Json} {d : AppendDisposition}
    (h : appendNativeCompletion checkpoint claim o evidence outcomeId workflowRunId outcome s
      = .ok (d, s')) : RowsChange s s' := by
  obtain ⟨row, s₁, s₂, s₃, b₁, b₂, b₃, hs⟩ := appendNativeCompletion_ok h
  obtain ⟨hl, hh, -, -⟩ := completionRow_ok hs.locked
  have hc : s'.commands = s₁.commands := by
    rw [← hs.frame.1]
    rcases appendTerminalFact_ok hs.recorded with ⟨-, rfl⟩ | ⟨-, rfl⟩ <;> rfl
  rcases markTerminal_ok hs.marked with ⟨-, -, rfl⟩ | ⟨hd, hst, -, rfl⟩
  · exact .same hc
  · refine .step (by rw [hl]; exact .terminate hh hst hd (Set.mem_univ _)) hc

/-- Every operation moves at most one row, by one step. -/
theorem Operation.rowsChange {s : Store} (hi : Columns s) (op : Operation) :
    RowsChange s (op.apply s) := by
  have same : RowsChange s s := .same rfl
  cases op with
  | enqueue c =>
    exact transaction_state same fun _ _ h => (enqueue_change (T := Set.univ) h).rowsChange
  | claimNext w now lease token locked =>
    exact transaction_state same fun _ _ h => (claimNext_change (T := Set.univ) hi h).rowsChange
  | permitEffect claim name auth now =>
    exact transaction_state same fun _ _ h => (permitEffect_change (T := Set.univ) h).rowsChange
  | recordKubernetesCorrelation claim name uid =>
    exact transaction_state same fun _ _ h =>
      (recordKubernetesCorrelation_change (T := Set.univ) h).rowsChange
  | recordUncertain claim o =>
    exact transaction_state same fun _ _ h =>
      (recordUncertain_change (Set.mem_univ _) h).rowsChange
  | appendNativeCompletion checkpoint claim o evidence outcomeId workflowRunId outcome =>
    exact transaction_state same fun _ _ h => appendNativeCompletion_rowsChange h
  | others attempts evidence outcomes bindings => exact .same rfl

theorem RowsChange.columns {s s' : Store} (h : RowsChange s s') (hi : Columns s) :
    Columns s' := by
  cases h with
  | same hc =>
    intro k row hl
    rw [hc] at hl
    exact hi k row hl
  | @step k row' kind record hr hc =>
    intro k' row hl
    rw [hc] at hl
    by_cases hk : k' = k
    · subst hk
      rw [AList.lookup_insert] at hl
      cases hl
      exact hr.columns (hi k')
    · rw [AList.lookup_insert_ne hk] at hl
      exact hi k' row hl

/-- What stays of a row: its command, a generation that only grows, and all of
it once it is terminal. -/
structure Later (row row' : CommandRow) : Prop where
  payload : row'.payload = row.payload
  generation : row.claimGeneration ≤ row'.claimGeneration
  terminal : row.terminalObservationDigest.isSome → row' = row
  started : row.state.isStarted = true → row'.state.isStarted = true ∧
    row'.claimGeneration = row.claimGeneration

theorem Later.refl (row : CommandRow) : Later row row :=
  ⟨rfl, le_rfl, fun _ => rfl, fun h => ⟨h, rfl⟩⟩

theorem Later.trans {row₁ row₂ row₃ : CommandRow} (h : Later row₁ row₂) (h' : Later row₂ row₃) :
    Later row₁ row₃ := by
  refine ⟨h'.payload.trans h.payload, h.generation.trans h'.generation, fun ht => ?_, fun hs => ?_⟩
  · obtain rfl := h.terminal ht
    exact h'.terminal ht
  · obtain ⟨hs₂, hg₂⟩ := h.started hs
    obtain ⟨hs₃, hg₃⟩ := h'.started hs₂
    exact ⟨hs₃, hg₃.trans hg₂⟩

theorem RowStep.later {T : Set String} {k : RowKey} {row row' : CommandRow} {kind : FactKind}
    {record : Json} (h : RowStep T k (some row) row' kind record) (hi : ColumnInv k row) :
    Later row row' := by
  obtain ⟨hg, hp, hd⟩ := h.grows hi
  refine ⟨hp, hg ▸ Nat.le_add_right _ _, fun ht => ?_, fun hs => ?_⟩
  · rw [hd] at ht
    cases ht
  cases h with
  | claim hc =>
    rcases claimable_state hc with e | e <;> rw [e] at hs <;> cases hs
  | start hh hs' hn => exact ⟨rfl, rfl⟩
  | correlate hh hs' hu => exact ⟨hs, rfl⟩
  | @terminate _ _ o hh hs' hd ho => exact ⟨o.kind.state_isStarted, rfl⟩

theorem RowsChange.later {s s' : Store} (h : RowsChange s s') (hi : Columns s) {k : RowKey}
    {row : CommandRow} (hl : s.commands.lookup k = some row) :
    ∃ row', s'.commands.lookup k = some row' ∧ Later row row' := by
  cases h with
  | same hc => exact ⟨row, by rw [hc, hl], .refl row⟩
  | @step k' row' kind record hr hc =>
    by_cases hk : k = k'
    · subst hk
      rw [hl] at hr
      exact ⟨row', by rw [hc, AList.lookup_insert], hr.later (hi k row hl)⟩
    · exact ⟨row, by rw [hc, AList.lookup_insert_ne hk, hl], .refl row⟩

theorem Columns.fresh {s : Store} (h : s.Fresh) : Columns s := by
  intro k row hl
  rw [h.commands] at hl
  cases hl

theorem runAll_columns {ops : List Operation} {s : Store} (hi : Columns s) :
    Columns (runAll ops s) := by
  induction ops generalizing s with
  | nil => exact hi
  | cons op ops ih => exact ih ((op.rowsChange hi).columns hi)

/-- Along a run a row keeps its command and never loses a generation. -/
theorem runAll_later (ops : List Operation) {s : Store} (hi : Columns s) {k : RowKey}
    {row : CommandRow} (hl : s.commands.lookup k = some row) :
    ∃ row', (runAll ops s).commands.lookup k = some row' ∧ Later row row' := by
  induction ops generalizing s row with
  | nil => exact ⟨row, hl, .refl row⟩
  | cons op ops ih =>
    obtain ⟨row₁, hl₁, h₁⟩ := (op.rowsChange hi).later hi hl
    obtain ⟨row₂, hl₂, h₂⟩ := ih ((op.rowsChange hi).columns hi) hl₁
    exact ⟨row₂, hl₂, h₁.trans h₂⟩

/-! ### Accepted claims -/

/-- The calls that take a claim. -/
inductive ClaimCall
  | permitEffect (taskName : String)
      (authorizationCheck : NativeDispatchCommand → Except Failure Bool) (now : Datetime)
  | recordKubernetesCorrelation (taskName taskUid : String)
  | recordUncertain (o : NativeTerminalObservation)
  | appendNativeCompletion (checkpoint : String → Except Failure Unit)
      (o : NativeTerminalObservation) (evidence : List ExecutionEvidenceRecord)
      (outcomeId workflowRunId : String) (outcome : Json)

/-- The transaction of the call, for a given claim. -/
def ClaimCall.body (claim : NativeDispatchClaim) : ClaimCall → Body Store Failure AppendDisposition
  | permitEffect name auth now => AgentPlatform.permitEffect claim name auth now
  | recordKubernetesCorrelation name uid =>
      AgentPlatform.recordKubernetesCorrelation claim name uid
  | recordUncertain o => AgentPlatform.recordUncertain claim o
  | appendNativeCompletion checkpoint o evidence outcomeId workflowRunId outcome =>
      AgentPlatform.appendNativeCompletion checkpoint claim o evidence outcomeId workflowRunId
        outcome

/-- Some call with the claim returns. -/
def Accepted (s : Store) (claim : NativeDispatchClaim) : Prop :=
  ∃ (call : ClaimCall) (r : AppendDisposition × Store), call.body claim s = .ok r

/-- Only the holder of a row is accepted. -/
theorem Accepted.held {s : Store} {claim : NativeDispatchClaim} (h : Accepted s claim) :
    ∃ row, s.commands.lookup claim.key = some row ∧ row.heldBy claim = true := by
  obtain ⟨call, ⟨d, s'⟩, h⟩ := h
  cases call with
  | permitEffect name auth now =>
    rcases permitEffect_ok h with ⟨row, hl, hh, -⟩ | ⟨row, hp, -⟩
    · exact ⟨row, hl, hh⟩
    · exact ⟨row, hp.found, hp.held⟩
  | recordKubernetesCorrelation name uid =>
    obtain ⟨row, hl, hh, -⟩ := recordKubernetesCorrelation_ok h
    exact ⟨row, hl, hh⟩
  | recordUncertain o =>
    obtain ⟨-, -, row, hl, hh, -⟩ := recordUncertain_ok h
    exact ⟨row, hl, hh⟩
  | appendNativeCompletion checkpoint o evidence outcomeId workflowRunId outcome =>
    obtain ⟨row, s₁, s₂, s₃, b₁, b₂, b₃, hs⟩ := appendNativeCompletion_ok h
    obtain ⟨hl, hh, -⟩ := completionRow_ok hs.locked
    exact ⟨row, hl, hh⟩

/-- Accepted claims of one command agree in generation, token and worker. -/
theorem Accepted.unique {s : Store} {claim claim' : NativeDispatchClaim} (h : Accepted s claim)
    (h' : Accepted s claim') (hk : claim.key = claim'.key) :
    claim.claimGeneration = claim'.claimGeneration ∧ claim.fencingToken = claim'.fencingToken ∧
      claim.workerId = claim'.workerId := by
  obtain ⟨row, hl, hh⟩ := h.held
  obtain ⟨row', hl', hh'⟩ := h'.held
  rw [hk, hl'] at hl
  cases hl
  obtain ⟨hg, ht, hw⟩ := heldBy_iff.mp hh
  obtain ⟨hg', ht', hw'⟩ := heldBy_iff.mp hh'
  refine ⟨?_, ?_, ?_⟩
  · ext
    rw [← hg, ← hg']
  · ext1
    rw [ht] at ht'
    exact Option.some.inj ht'
  · ext1
    rw [hw] at hw'
    exact Option.some.inj hw'

/-- A claim whose generation was passed is refused, and the refused call
changes nothing. -/
theorem stale_claim_refused {s : Store} {claim : NativeDispatchClaim} {row : CommandRow}
    (hl : s.commands.lookup claim.key = some row)
    (hg : claim.claimGeneration.value < row.claimGeneration) (call : ClaimCall) :
    ∃ e, transaction (call.body claim) s = (.error e, s) := by
  rcases transaction_cases (call.body claim) s with ⟨d, s', hb, -⟩ | ⟨e, -, h⟩
  · obtain ⟨row', hl', hh⟩ := Accepted.held ⟨call, (d, s'), hb⟩
    rw [hl] at hl'
    cases hl'
    have := (heldBy_iff.mp hh).1
    omega
  · exact ⟨e, h⟩

/-! ### Issued claims -/

/-- The claim an operation hands out. -/
def Operation.issued (s : Store) : Operation → List NativeDispatchClaim
  | claimNext w now lease token locked =>
      match AgentPlatform.claimNext w now lease token locked s with
      | .ok (some claim, _) => [claim]
      | _ => []
  | _ => []

/-- The claims `claim_next` issues along a run, in order. -/
def issuedClaims : List Operation → Store → List NativeDispatchClaim
  | [], _ => []
  | op :: ops, s => op.issued s ++ issuedClaims ops (op.apply s)

/-- An issued claim takes the next generation of its row. -/
theorem Operation.issued_spec {s : Store} (hi : Columns s) {op : Operation}
    {claim : NativeDispatchClaim} (h : claim ∈ op.issued s) :
    (op.issued s = [claim]) ∧
      ∃ row row', s.commands.lookup claim.key = some row ∧
        claim.claimGeneration.value = row.claimGeneration + 1 ∧
        (op.apply s).commands.lookup claim.key = some row' ∧
        row'.claimGeneration = claim.claimGeneration.value := by
  cases op with
  | claimNext w now lease token locked =>
    rcases e : AgentPlatform.claimNext w now lease token locked s with err | ⟨_ | c, s'⟩
    · simp [issued, e] at h
    · simp [issued, e] at h
    · have hiss : issued s (claimNext w now lease token locked) = [c] := by
        simp only [issued, e]
      rw [hiss, List.mem_singleton] at h
      subst h
      refine ⟨hiss, ?_⟩
      rcases claimNext_ok e with ⟨h, -⟩ | ⟨k, row, l, c', hc, h, rfl⟩
      · cases h
      · cases h
        have hk : claim.key = k := by
          rw [NativeDispatchClaim.key, hc.command, (hi k row hc.found).key]
        refine ⟨row, row.claimedBy token w l, by rw [hk, hc.found], hc.generation, ?_,
          hc.generation.symm⟩
        rw [Operation.apply, transaction_ok e, hk]
        exact AList.lookup_insert _
  | _ => cases h

theorem issuedClaims_increasing {ops : List Operation} {s : Store} (hi : Columns s) :
    (∀ c ∈ issuedClaims ops s, ∀ row, s.commands.lookup c.key = some row →
        row.claimGeneration < c.claimGeneration.value) ∧
      (issuedClaims ops s).Pairwise fun c c' =>
        c.key = c'.key → c.claimGeneration.value < c'.claimGeneration.value := by
  induction ops generalizing s with
  | nil =>
    refine ⟨fun c hc => ?_, .nil⟩
    simp only [issuedClaims, List.not_mem_nil] at hc
  | cons op ops ih =>
    obtain ⟨hlt, hpw⟩ := ih ((op.rowsChange hi).columns hi)
    refine ⟨fun c hc row hl => ?_, ?_⟩
    · rcases List.mem_append.mp hc with hc | hc
      · obtain ⟨-, row', -, hl', hg, -⟩ := Operation.issued_spec hi hc
        rw [hl] at hl'
        cases hl'
        omega
      · obtain ⟨row', hl', h⟩ := (op.rowsChange hi).later hi hl
        exact h.generation.trans_lt (hlt c hc row' hl')
    · refine List.pairwise_append.mpr ⟨?_, hpw, fun c hc c' hc' hk => ?_⟩
      · rcases e : op.issued s with _ | ⟨c, cs⟩
        · exact .nil
        · have hc : c ∈ op.issued s := by rw [e]; exact List.mem_cons_self
          rw [← e, (Operation.issued_spec hi hc).1]
          exact List.pairwise_singleton _ _
      · obtain ⟨-, row, row', -, -, hl', hg⟩ := Operation.issued_spec hi hc
        rw [← hg]
        exact hlt c' hc' row' (by rw [← hk, hl'])

/-- **Fencing.** Take any run, and a claim whose generation the row of its
command has passed. After any further calls, each call that presents the claim
raises and changes nothing. And in the store reached, of all claims
`claim_next` issued for one command at most one is accepted; any two accepted
claims, however obtained, are the same generation, token and worker. -/
theorem stale_claims_are_fenced {s : Store} (hs : s.Fresh) (ops : List Operation) :
    (∀ (later : List Operation) (claim : NativeDispatchClaim) (row : CommandRow),
        (runAll ops s).commands.lookup claim.key = some row →
        claim.claimGeneration.value < row.claimGeneration → ∀ call : ClaimCall, ∃ e,
          transaction (call.body claim) (runAll later (runAll ops s))
            = (.error e, runAll later (runAll ops s))) ∧
      ((issuedClaims ops s).Pairwise fun c c' =>
        c.key = c'.key → ¬ (Accepted (runAll ops s) c ∧ Accepted (runAll ops s) c')) ∧
      ∀ c c', Accepted (runAll ops s) c → Accepted (runAll ops s) c' → c.key = c'.key →
        c.claimGeneration = c'.claimGeneration ∧ c.fencingToken = c'.fencingToken ∧
          c.workerId = c'.workerId := by
  have hi := Columns.fresh hs
  refine ⟨fun later claim row hl hg call => ?_, ?_, fun c c' h h' hk => h.unique h' hk⟩
  · obtain ⟨row', hl', h⟩ := runAll_later later (runAll_columns hi) hl
    exact stale_claim_refused hl' (hg.trans_le h.generation) call
  · refine (issuedClaims_increasing hi).2.imp fun hlt hk ⟨h, h'⟩ => ?_
    have hg := (h.unique h' hk).1
    have := hlt hk
    rw [hg] at this
    omega

end Fencing

section Sample

open Sample

/-- `worker-1` lets its lease run out and `worker-2` takes over. -/
def Sample.takeover : List Operation :=
  [.enqueue command, .claimNext "worker-1" (instant 2000000) 30 (digest 'c') fun _ => false,
    .claimNext "worker-2" (instant 60000000) 30 (digest 'd') fun _ => false]

theorem Sample.runAll_takeover :
    ((runAll takeover store).commands.lookup claim.key).map (·.claimGeneration) = some 2 := by
  have hq : Operation.apply store (.enqueue command) = queuedStore := by
    rw [Operation.apply, transaction_ok enqueue_store]
  rw [runAll, takeover, List.foldl_cons, hq]
  decide +kernel

theorem stale_claims_are_fenced_sample :
    ∃ row, (runAll takeover store).commands.lookup claim.key = some row ∧
      claim.claimGeneration.value < row.claimGeneration ∧
      ∀ call : ClaimCall, ∃ e, transaction (call.body claim) (runAll [] (runAll takeover store))
        = (.error e, runAll [] (runAll takeover store)) := by
  have h := runAll_takeover
  rw [Option.map_eq_some_iff] at h
  obtain ⟨row, hl, hg⟩ := h
  have hlt : claim.claimGeneration.value < row.claimGeneration := by
    rw [hg]
    decide
  exact ⟨row, hl, hlt,
    (stale_claims_are_fenced (s := store) ⟨rfl, rfl, rfl, rfl⟩ takeover).1 [] claim row hl hlt⟩

end Sample

end AgentPlatform
