/-
AgentPlatform/Dispatch/Replay.lean

Repeating a completion. Each stage of `append_native_completion` compares with
what it finds stored, so a stage that went through once goes through again and
writes nothing, on every store in which its rows are still there.

`Extends` says that nothing was taken away: evidence, outcomes and facts were
only added, terminal rows stayed, the identities of attempts in use stayed and
the evidence writer is the same. `complete_again` is the result: after any
extension a successful `complete`, called again with the same observation,
returns `REPLAYED` and leaves the store as it is.
-/
import AgentPlatform.Dispatch.Fencing

namespace AgentPlatform

open Py

section Replay

variable [Unicodedata]

/-! ### Stages, a second time -/

theorem appendEvidence_again {s s' s'' : Store} {scope : ScopeIdentity}
    {item : ExecutionEvidenceRecord} {b : Bool} (h : appendEvidence scope item s = .ok (b, s'))
    (he : s'.evidence <+: s''.evidence) : appendEvidence scope item s'' = .ok (false, s'') := by
  obtain ⟨new, he⟩ := he
  unfold appendEvidence at h ⊢
  rw [ite_error_eq_ok'] at h
  obtain ⟨hs, h⟩ := h
  rw [if_neg hs, ← he, List.find?_append]
  split at h
  · next hn =>
    rw [ite_error_eq_ok'] at h
    obtain ⟨-, h⟩ := h
    cases h
    -- the row inserted then is the one found now
    rw [List.find?_append, hn]
    simp [evidenceRow]
  · next stored hf =>
    rw [ite_error_eq_ok'] at h
    obtain ⟨hc, h⟩ := h
    cases h
    rw [hf]
    exact if_neg hc

theorem appendOutcome_again {s s' s'' : Store} {k : RowKey} {workflowRunId : String}
    {outcome : Json} {b : Bool} (h : appendOutcome k workflowRunId outcome s = .ok (b, s'))
    (ho : s'.outcomes <+: s''.outcomes) :
    appendOutcome k workflowRunId outcome s'' = .ok (false, s'') := by
  obtain ⟨new, ho⟩ := ho
  unfold appendOutcome at h ⊢
  rw [ite_error_eq_ok'] at h
  obtain ⟨hs, h⟩ := h
  rw [if_neg hs, ← ho, List.find?_append]
  split at h
  · next hn =>
    rw [ite_error_eq_ok'] at h
    obtain ⟨-, h⟩ := h
    cases h
    rw [List.find?_append, hn]
    simp
  · next stored hf =>
    rw [ite_error_eq_ok'] at h
    obtain ⟨hc, h⟩ := h
    cases h
    rw [hf]
    exact if_neg hc

theorem factExists_mono {s s' : Store} (h : s.facts <+: s'.facts) {k : RowKey}
    {kind : FactKind} {d : String} (he : s.factExists k kind d = true) :
    s'.factExists k kind d = true := by
  obtain ⟨new, h⟩ := h
  unfold Store.factExists at he ⊢
  rw [← h, List.any_append, he]
  rfl

theorem appendTerminalFact_again {s s' s'' : Store} {k : RowKey} {o : NativeTerminalObservation}
    (h : appendTerminalFact k o s = .ok s') (hf : s'.facts <+: s''.facts) :
    appendTerminalFact k o s'' = .ok s'' := by
  have hstored : s'.factExists k (.terminal o.kind) (factDigest o.payload) = true := by
    rcases appendTerminalFact_ok h with ⟨he, rfl⟩ | ⟨-, rfl⟩
    · exact he
    · simp [Store.factExists, Store.addFact]
  unfold appendTerminalFact at h ⊢
  rw [ite_error_eq_ok'] at h
  rw [if_neg h.1, if_pos (factExists_mono hf hstored)]

/-- The row that was locked once is locked again as long as its holder and its
Task are the same. -/
theorem completionRow_again {s s'' : Store} {claim : NativeDispatchClaim}
    {o : NativeTerminalObservation} {row row'' : CommandRow}
    (h : completionRow claim o s = .ok row) (hl : s''.commands.lookup claim.key = some row'')
    (hh : row''.heldBy claim = row.heldBy claim)
    (hn : row''.kubernetesTaskName = row.kubernetesTaskName)
    (hu : row''.kubernetesTaskUid = row.kubernetesTaskUid) :
    completionRow claim o s'' = .ok row'' := by
  unfold completionRow at h ⊢
  rw [ite_error_eq_ok'] at h
  obtain ⟨hs, h⟩ := h
  rw [if_neg hs, hl]
  split at h
  · cases h
  · rw [ite_error_eq_ok] at h
    obtain ⟨hc, h⟩ := h
    cases h
    simp only [hh, hn, hu, hc, if_true]

/-! ### Extensions of a store -/

/-- What no step of a dispatch run takes away. -/
structure Extends (s s' : Store) : Prop where
  evidence : s.evidence <+: s'.evidence
  outcomes : s.outcomes <+: s'.outcomes
  facts : s.facts <+: s'.facts
  cutover : s'.bindings.evidenceCutover = s.bindings.evidenceCutover
  rows : ∀ k row, s.commands.lookup k = some row →
    ∃ row', s'.commands.lookup k = some row' ∧ Later row row'
  attempts : ∀ k row, s.commands.lookup k = some row → ∀ a,
    s.attempts row.payload.attemptKey = some a → ∃ a',
      s'.attempts row.payload.attemptKey = some a' ∧ a'.record = a.record ∧
        a'.attemptOrdinal = a.attemptOrdinal

theorem Extends.refl (s : Store) : Extends s s where
  evidence := List.prefix_rfl
  outcomes := List.prefix_rfl
  facts := List.prefix_rfl
  cutover := rfl
  rows _ row hl := ⟨row, hl, .refl row⟩
  attempts _ _ _ a ha := ⟨a, ha, rfl, rfl⟩

theorem Extends.trans {s₁ s₂ s₃ : Store} (h : Extends s₁ s₂) (h' : Extends s₂ s₃) :
    Extends s₁ s₃ where
  evidence := h.evidence.trans h'.evidence
  outcomes := h.outcomes.trans h'.outcomes
  facts := h.facts.trans h'.facts
  cutover := h'.cutover.trans h.cutover
  rows k row hl := by
    obtain ⟨row₂, hl₂, hr₂⟩ := h.rows k row hl
    obtain ⟨row₃, hl₃, hr₃⟩ := h'.rows k row₂ hl₂
    exact ⟨row₃, hl₃, hr₂.trans hr₃⟩
  attempts k row hl a ha := by
    obtain ⟨row₂, hl₂, hr₂⟩ := h.rows k row hl
    obtain ⟨a₂, ha₂, hrec₂, hord₂⟩ := h.attempts k row hl a ha
    obtain ⟨a₃, ha₃, hrec₃, hord₃⟩ := h'.attempts k row₂ hl₂ a₂ (by rw [hr₂.payload, ha₂])
    exact ⟨a₃, by rw [← hr₂.payload, ha₃], hrec₃.trans hrec₂, hord₃.trans hord₂⟩

/-- Setting a control state keeps the identities of all attempts. -/
theorem setAttemptState_identity (s : Store) (k k' : RowKey) (x : AttemptControlState)
    {a : AttemptRow} (ha : s.attempts k' = some a) :
    ∃ a', (s.setAttemptState k x).attempts k' = some a' ∧ a'.record = a.record ∧
      a'.attemptOrdinal = a.attemptOrdinal := by
  by_cases hk : k' = k
  · subst hk
    refine ⟨{ a with controlState := x, aggregateVersion := a.aggregateVersion + 1 }, ?_, rfl, rfl⟩
    simp [Store.setAttemptState, ha]
  · refine ⟨a, ?_, rfl, rfl⟩
    simp [Store.setAttemptState, Function.update_of_ne hk, ha]

/-- A completion that returned extends the store it began with. -/
theorem appendNativeCompletion_extends {s s' : Store} (hi : Columns s)
    {checkpoint : String → Except Failure Unit} {claim : NativeDispatchClaim}
    {o : NativeTerminalObservation} {evidence : List ExecutionEvidenceRecord}
    {outcomeId workflowRunId : String} {outcome : Json} {d : AppendDisposition}
    (h : appendNativeCompletion checkpoint claim o evidence outcomeId workflowRunId outcome s
      = .ok (d, s')) : Extends s s' := by
  have hrows := appendNativeCompletion_rowsChange h
  obtain ⟨row, s₁, s₂, s₃, b₁, b₂, b₃, hs⟩ := appendNativeCompletion_ok h
  obtain ⟨-, hfacts, hatt, hbind⟩ := hs.frame
  have h₁ : s₁.evidence = s.evidence ∧ s₁.outcomes = s.outcomes ∧ s₁.facts = s.facts ∧
      s₁.bindings = s.bindings := by
    rcases markTerminal_ok hs.marked with ⟨-, -, rfl⟩ | ⟨-, -, -, rfl⟩ <;> exact ⟨rfl, rfl, rfl, rfl⟩
  have h₃ : s₁.evidence <+: s₃.evidence ∧ s₁.outcomes <+: s₃.outcomes := by
    obtain ⟨new, rfl⟩ := appendEvidenceItems_ok hs.evidenced
    rcases appendOutcome_ok hs.concluded with ⟨-, -, rfl⟩ | ⟨r, -, -, -, -, rfl⟩
    · exact ⟨List.prefix_append _ _, List.prefix_append _ _⟩
    · exact ⟨List.prefix_append _ _, List.prefix_rfl⟩
  have h₄ : s'.evidence = s₃.evidence ∧ s'.outcomes = s₃.outcomes ∧ s₃.facts <+: s'.facts ∧
      s'.bindings = s₃.bindings ∧ s'.attempts = s₃.attempts := by
    rcases appendTerminalFact_ok hs.recorded with ⟨-, rfl⟩ | ⟨-, rfl⟩
    · exact ⟨rfl, rfl, List.prefix_rfl, rfl, rfl⟩
    · exact ⟨rfl, rfl, List.prefix_append _ _, rfl, rfl⟩
  refine ⟨?_, ?_, ?_, ?_, fun k row hl => hrows.later hi hl, fun k row hl a ha => ?_⟩
  · rw [h₄.1, ← h₁.1]
    exact h₃.1
  · rw [h₄.2.1, ← h₁.2.1]
    exact h₃.2
  · rw [← h₁.2.2.1, ← hfacts]
    exact h₄.2.2.1
  · rw [h₄.2.2.2.1, hbind, h₁.2.2.2]
  · rw [h₄.2.2.2.2, hatt]
    rcases markTerminal_ok hs.marked with ⟨-, -, rfl⟩ | ⟨-, -, -, rfl⟩
    · exact ⟨a, ha, rfl, rfl⟩
    · exact setAttemptState_identity _ _ _ _ ha

/-! ### The completion, a second time -/

theorem appendNativeCompletion_row {s s' : Store} {checkpoint : String → Except Failure Unit}
    {claim : NativeDispatchClaim} {o : NativeTerminalObservation}
    {evidence : List ExecutionEvidenceRecord} {outcomeId workflowRunId : String} {outcome : Json}
    {d : AppendDisposition}
    (h : appendNativeCompletion checkpoint claim o evidence outcomeId workflowRunId outcome s
      = .ok (d, s')) :
    ∃ row row', completionRow claim o s = .ok row ∧
      s'.commands.lookup claim.key = some row' ∧ row'.terminalObservationDigest = some o.digest ∧
      row'.payload = row.payload ∧
      row'.heldBy claim = row.heldBy claim ∧ row'.kubernetesTaskName = row.kubernetesTaskName ∧
      row'.kubernetesTaskUid = row.kubernetesTaskUid := by
  obtain ⟨row, s₁, s₂, s₃, b₁, b₂, b₃, hs⟩ := appendNativeCompletion_ok h
  obtain ⟨hl, -⟩ := completionRow_ok hs.locked
  have hc : s'.commands = s₁.commands := by
    rw [← hs.frame.1]
    rcases appendTerminalFact_ok hs.recorded with ⟨-, rfl⟩ | ⟨-, rfl⟩ <;> rfl
  rcases markTerminal_ok hs.marked with ⟨hd, -, rfl⟩ | ⟨-, -, -, rfl⟩
  · exact ⟨row, row, hs.locked, by rw [hc, hl], hd, rfl, rfl, rfl, rfl⟩
  · exact ⟨row, row.terminated o, hs.locked, by rw [hc]; exact AList.lookup_insert _, rfl, rfl,
      rfl, rfl, rfl⟩

/-- A completion repeated on an extension of its result is replayed. -/
theorem appendNativeCompletion_again {s s' s'' : Store}
    {checkpoint checkpoint' : String → Except Failure Unit} {claim : NativeDispatchClaim}
    {o : NativeTerminalObservation} {item : ExecutionEvidenceRecord}
    {outcomeId workflowRunId : String} {outcome : Json} {d : AppendDisposition}
    (h : appendNativeCompletion checkpoint claim o [item] outcomeId workflowRunId outcome s
      = .ok (d, s')) (hx : Extends s' s'') (hq : ∀ name, checkpoint' name = .ok ()) :
    appendNativeCompletion checkpoint' claim o [item] outcomeId workflowRunId outcome s''
      = .ok (.replayed, s'') := by
  obtain ⟨row, row', hlock, hl', hd', -, hh', hn', hu'⟩ := appendNativeCompletion_row h
  obtain ⟨row₀, s₁, s₂, s₃, b₁, b₂, b₃, hs⟩ := appendNativeCompletion_ok h
  -- the row is terminal, so it is the same in the extension
  obtain ⟨row'', hl'', hr⟩ := hx.rows _ _ hl'
  obtain rfl := hr.terminal (by rw [hd']; rfl)
  have hlock' : completionRow claim o s'' = .ok row'' :=
    completionRow_again hlock hl'' hh' hn' hu'
  have hmark : markTerminal checkpoint' claim o row'' s'' = .ok (true, s'') := by
    simp [markTerminal, hd']
  have hcut : s''.bindings.evidenceCutover = (.postgresActive, .postgres) := by
    obtain ⟨-, -, -, hb⟩ := hs.frame
    have hb' : s'.bindings = s₃.bindings := by
      rcases appendTerminalFact_ok hs.recorded with ⟨-, rfl⟩ | ⟨-, rfl⟩ <;> rfl
    rw [hx.cutover, hb', hb, markTerminal_bindings hs.marked, hs.active]
  -- the one evidence item, and where it is stored
  obtain ⟨⟨b, s₂'⟩, hev, hrest⟩ := bind_eq_ok.mp hs.evidenced
  obtain ⟨-, -, hrest⟩ := bind_eq_ok.mp hrest
  obtain ⟨⟨b', s₂''⟩, hnil, hrest⟩ := bind_eq_ok.mp hrest
  cases hnil
  cases hrest
  have hs' : s₂.evidence <+: s'.evidence ∧ s₃.outcomes <+: s'.outcomes := by
    have h₃ : s₃.evidence = s₂.evidence := by
      rcases appendOutcome_ok hs.concluded with ⟨-, -, e⟩ | ⟨r, -, -, -, -, e⟩ <;> subst e <;> rfl
    have h₄ : s'.evidence = s₃.evidence ∧ s'.outcomes = s₃.outcomes := by
      rcases appendTerminalFact_ok hs.recorded with ⟨-, e⟩ | ⟨-, e⟩ <;> subst e <;> exact ⟨rfl, rfl⟩
    rw [h₄.1, h₄.2, h₃]
    exact ⟨List.prefix_rfl, List.prefix_rfl⟩
  have hev' : appendEvidenceItems checkpoint' claim.command.scope [item] s'' = .ok (false, s'') := by
    rw [appendEvidenceItems, appendEvidence_again hev (hs'.1.trans hx.evidence)]
    simp only [bind, Except.bind, hq]
    rfl
  have hout := appendOutcome_again hs.concluded (hs'.2.trans hx.outcomes)
  have hfact := appendTerminalFact_again hs.recorded hx.facts
  rw [appendNativeCompletion, hlock']
  simp only [bind, Except.bind, hmark, hcut, ne_eq, not_true_eq_false, if_false, hev', hout, hq,
    hfact]
  rfl

/-- **Repeating a completion.** A `complete` that returned, repeated with the
same observation on any extension of the store it left, is replayed and changes
nothing. -/
theorem complete_again {s s' s'' : Store} {checkpoint checkpoint' : String → Except Failure Unit}
    {claim : NativeDispatchClaim} {o : NativeTerminalObservation} {d : AppendDisposition}
    {row : CommandRow} (hl : s.commands.lookup claim.key = some row)
    (hp : row.payload = claim.command) (hi : Columns s)
    (h : complete checkpoint claim o s = .ok (d, s')) (hx : Extends s' s'')
    (hq : ∀ name, checkpoint' name = .ok ()) :
    complete checkpoint' claim o s'' = .ok (.replayed, s'') := by
  obtain ⟨attempt, item, ha, hev, -, -, -, -, happ⟩ := complete_ok h
  have hx₀ : Extends s s'' := (appendNativeCompletion_extends hi happ).trans hx
  obtain ⟨a'', ha'', hrec, hord⟩ := hx₀.attempts _ _ hl attempt (by rw [hp, ha])
  rw [hp] at ha''
  have hsrc : completionEvidence claim.command o a'' = completionEvidence claim.command o attempt := by
    simp only [completionEvidence, hrec, hord]
  have hout : completionOutcome claim.command o a'' = completionOutcome claim.command o attempt := by
    simp only [completionOutcome, hrec]
  have hagain := appendNativeCompletion_again happ hx hq
  unfold complete at h ⊢
  obtain ⟨r, hr, h⟩ := bind_eq_ok.mp h
  unfold getAttempt at hr
  rw [ite_error_eq_ok'] at hr
  obtain ⟨hn, hr⟩ := hr
  cases hr
  have hget : getAttempt claim.command.attemptKey s'' = .ok (some a'') := by
    rw [getAttempt, if_neg hn, ha'']
  rw [ha] at h
  simp only [hev, bind, Except.bind] at h
  simp only [hget, hsrc, hev, hout, bind, Except.bind]
  -- `record_native` makes the same checks on the same identity
  unfold recordNative at h ⊢
  simp only at h ⊢
  rw [ite_error_eq_ok'] at h
  obtain ⟨hk, h⟩ := h
  rw [ite_error_eq_ok'] at h
  obtain ⟨hc, h⟩ := h
  rw [if_neg hk, if_neg hc, hget]
  obtain ⟨r', hr', h⟩ := bind_eq_ok.mp h
  rw [getAttempt, if_neg hn, ha] at hr'
  cases hr'
  simp only [bind, Except.bind] at h ⊢
  rw [ite_error_eq_ok'] at h
  obtain ⟨hm, h⟩ := h
  rw [ite_error_eq_ok'] at h
  obtain ⟨ho, -⟩ := h
  rw [hrec, if_neg hm, if_neg ho]
  exact hagain

end Replay

end AgentPlatform
