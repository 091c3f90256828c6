/-
AgentPlatform/Dispatch/Recovery.lean

Recovery of a started effect: a worker that restarts is handed its
`EFFECT_STARTED` command by `resume_effect_started`, finds the effect permitted
already, reads the Task and records what it sees.

`Recoverable` is the exact condition under which this ends the command: the Task of
the row is the worker's, its texts are accepted and can be stored, and the uid read
agrees with the uid recorded. In particular a command whose Task uid is recorded
cannot recover once its Task is deleted: `_terminal_observation` then has no
uid, and `record_uncertain` refuses an observation without the recorded one.
-/
import AgentPlatform.Dispatch.Endings
import AgentPlatform.Dispatch.Replay
import AgentPlatform.Dispatch.Worker

namespace AgentPlatform

open Py

section Recovery

variable [Unicodedata] {s s' : Store}

/-! ### Terminal facts along a run -/

theorem RowsChange.terminal (h : RowsChange s s') (hi : Columns s) {k : RowKey} {row : CommandRow}
    (hl : s.commands.lookup k = some row) (ht : row.state.isTerminal = true) :
    s'.commands.lookup k = some row := by
  obtain ⟨row', hl', hr⟩ := h.later hi hl
  rw [hl', hr.terminal (by rw [(hi k row hl).settled, ht])]

theorem TerminalFacts.change {T : Set String} (h : TerminalFacts s) (hi : Columns s)
    (hc : Change T s s') : TerminalFacts s' := by
  have old : ∀ f ∈ s.facts, ∀ kind, f.kind = .terminal kind →
      ∃ row, s'.commands.lookup f.key = some row ∧ row.state.isTerminal = true := by
    intro f hf kind hk
    obtain ⟨row, hl, ht⟩ := h f hf kind hk
    exact ⟨row, hc.rowsChange.terminal hi hl ht, ht⟩
  intro f hf kind hk
  cases hc with
  | same hc hfacts =>
    rw [hfacts] at hf
    exact old f hf kind hk
  | @step k row' kind' record hr hc hfacts =>
    rw [hfacts, List.mem_append, List.mem_singleton] at hf
    rcases hf with hf | rfl
    · exact old f hf kind hk
    · refine ⟨row', by rw [hc, AList.lookup_insert], ?_⟩
      -- only a terminal step appends a terminal fact
      generalize e : s.commands.lookup k = row₀ at hr
      cases hr with
      | @terminate row claim o hh hs hd ho => exact o.kind.state_isTerminal
      | _ => cases hk

theorem TerminalFacts.completion (h : TerminalFacts s) (hi : Columns s)
    {checkpoint : String → Except Failure Unit} {claim : NativeDispatchClaim}
    {o : NativeTerminalObservation} {evidence : List ExecutionEvidenceRecord}
    {outcomeId workflowRunId : String} {outcome : Json} {d : AppendDisposition}
    (hr : appendNativeCompletion checkpoint claim o evidence outcomeId workflowRunId outcome s
      = .ok (d, s')) : TerminalFacts s' := by
  have hrows := appendNativeCompletion_rowsChange hr
  obtain ⟨-, row', -, hl', hd, -⟩ := appendNativeCompletion_row hr
  obtain ⟨row, s₁, s₂, s₃, b₁, b₂, b₃, hs⟩ := appendNativeCompletion_ok hr
  have hfacts : s₃.facts = s.facts := by
    rw [hs.frame.2.1]
    rcases markTerminal_ok hs.marked with ⟨-, -, rfl⟩ | ⟨-, -, -, rfl⟩ <;> rfl
  have old : ∀ f ∈ s.facts, ∀ kind, f.kind = .terminal kind →
      ∃ row, s'.commands.lookup f.key = some row ∧ row.state.isTerminal = true := by
    intro f hf kind hk
    obtain ⟨row, hl, ht⟩ := h f hf kind hk
    exact ⟨row, hrows.terminal hi hl ht, ht⟩
  intro f hf kind hk
  rcases appendTerminalFact_ok hs.recorded with ⟨-, e⟩ | ⟨-, e⟩
  · rw [e, hfacts] at hf
    exact old f hf kind hk
  · rw [e, Store.addFact, hfacts] at hf
    rcases List.mem_append.mp hf with hf | hf
    · exact old f hf kind hk
    · rw [List.mem_singleton] at hf
      refine ⟨row', by rw [hf]; exact hl', ?_⟩
      rw [← (hrows.columns hi _ _ hl').settled, hd]
      rfl

theorem Operation.terminalFacts (hi : Columns s) (h : TerminalFacts s) (op : Operation) :
    TerminalFacts (op.apply s) := by
  cases op with
  | enqueue c =>
    exact transaction_state h fun _ _ hb => h.change hi (enqueue_change (T := Set.univ) hb)
  | claimNext w now lease token locked =>
    exact transaction_state h fun _ _ hb => h.change hi (claimNext_change (T := Set.univ) hi hb)
  | permitEffect claim name auth now =>
    exact transaction_state h fun _ _ hb => h.change hi (permitEffect_change (T := Set.univ) hb)
  | recordKubernetesCorrelation claim name uid =>
    exact transaction_state h fun _ _ hb =>
      h.change hi (recordKubernetesCorrelation_change (T := Set.univ) hb)
  | recordUncertain claim o =>
    exact transaction_state h fun _ _ hb =>
      h.change hi (recordUncertain_change (T := Set.univ) (Set.mem_univ _) hb)
  | appendNativeCompletion checkpoint claim o evidence outcomeId workflowRunId outcome =>
    exact transaction_state h fun _ _ hb => h.completion hi hb
  | others attempts evidence outcomes bindings => exact h

theorem runAll_terminalFacts {ops : List Operation} (hi : Columns s) (h : TerminalFacts s) :
    TerminalFacts (runAll ops s) := by
  induction ops generalizing s with
  | nil => exact h
  | cons op ops ih => exact ih ((op.rowsChange hi).columns hi) (op.terminalFacts hi h)

theorem TerminalFacts.fresh (h : s.Fresh) : TerminalFacts s := by
  intro f hf
  rw [h.facts] at hf
  cases hf

/-! ### The claim that is resumed -/

/-- `resume_effect_started` hands out a claim that still holds its row. -/
theorem resumed_startedClaim (hi : Columns s) {workerId : String} {locked : RowKey → Bool}
    {claim : NativeDispatchClaim} (h : resumeEffectStarted workerId locked s = .ok (some claim)) :
    ∃ row, StartedClaim s claim row := by
  obtain ⟨k, row, hl, hs, -, hr⟩ := resumeEffectStarted_ok h
  obtain ⟨token, worker, ht, hw, hp, hg, het, hew⟩ := resumed_ok hr
  have hcol := hi k row hl
  have hk : claim.key = k := by rw [NativeDispatchClaim.key, hp, hcol.key]
  -- the row was claimed with normalised texts
  obtain ⟨claim', hh⟩ := hcol.held (by rw [hs]; rfl)
  obtain ⟨-, ht', hw'⟩ := heldBy_iff.mp hh
  rw [ht, Option.some.injEq] at ht'
  rw [hw, Option.some.injEq] at hw'
  refine ⟨row, hk ▸ hcol, by rw [hk, hl], heldBy_iff.mpr ⟨hg.symm, ?_, ?_⟩, hp.symm, hs⟩
  · rw [ht, het, ht', claim'.fencingToken.normalized]
  · rw [hw, hew, hw', claim'.workerId.normalized]

/-- On a started row `permit_effect` only compares the Task name. -/
theorem permitEffect_started {claim : NativeDispatchClaim} {row : CommandRow}
    (h : StartedClaim s claim row) (taskName : String)
    (authorizationCheck : NativeDispatchCommand → Except Failure Bool) (now : Datetime) :
    permitEffect claim taskName authorizationCheck now s =
      if row.kubernetesTaskName ≠ some taskName then
        .error (conflict "NATIVE_DISPATCH_EFFECT_CONFLICT")
      else .ok (.replayed, s) := by
  simp only [permitEffect, h.locked, bind, Except.bind, h.started, if_true]

/-! ### Names of Tasks -/

omit [Unicodedata] in
/-- The characters of a Task name lie between `-` and `z`. -/
theorem isTaskPrefix_chars {t : String} (h : isTaskPrefix t = true) {c : Char}
    (hc : c ∈ t.toList) : 45 ≤ c.toNat ∧ c.toNat ≤ 122 := by
  simp only [isTaskPrefix, Bool.and_eq_true, List.all_eq_true, Bool.or_eq_true,
    decide_eq_true_eq] at h
  rcases h.1.2 c hc with (hl | hd) | rfl
  · simp only [Char.isLower, Bool.and_eq_true, decide_eq_true_eq] at hl
    exact ⟨Nat.le_trans (by decide) (show 97 ≤ c.toNat from hl.1), show c.toNat ≤ 122 from hl.2⟩
  · simp only [Char.isDigit, Bool.and_eq_true, decide_eq_true_eq] at hd
    exact ⟨Nat.le_trans (by decide) (show 48 ≤ c.toNat from hd.1),
      Nat.le_trans (show c.toNat ≤ 57 from hd.2) (by decide)⟩
  · decide

omit [Unicodedata] in
theorem plain_char {c : Char} (h : 45 ≤ c.toNat ∧ c.toNat ≤ 122) :
    c.toNat < 128 ∧ isSpace c = false ∧ c ≠ '\x00' := by
  refine ⟨by omega, ?_, ?_⟩
  · simp only [isSpace, decide_eq_false_iff_not]
    omega
  · rintro rfl
    exact absurd h.1 (by decide)

omit [Unicodedata] in
theorem taskName_chars (w : Worker) (commandId : String) {c : Char}
    (hc : c ∈ (w.taskPrefix ++ "-" ++
      String.ofList ((sha256 commandId).toList.take 32)).toList) :
    45 ≤ c.toNat ∧ c.toNat ≤ 122 := by
  simp only [String.toList_append, String.toList_ofList, List.mem_append] at hc
  rcases hc with (hc | hc) | hc
  · exact isTaskPrefix_chars w.prefix_valid hc
  · have hdash : ∀ c ∈ "-".toList, 45 ≤ c.toNat ∧ c.toNat ≤ 122 := by decide
    exact hdash c hc
  · have hx := isHexDigit_of_mem_hexdigest (List.mem_of_mem_take hc)
    have hhex : ∀ c ∈ ['0', '1', '2', '3', '4', '5', '6', '7', '8', '9', 'a', 'b', 'c', 'd', 'e',
        'f'], 45 ≤ c.toNat ∧ c.toNat ≤ 122 := by decide
    simp only [isHexDigit, decide_eq_true_eq] at hx
    exact hhex c hx

theorem taskName_taken (w : Worker) (c : NativeDispatchCommand) :
    normalize (w.taskName c) = w.taskName c ∧ Taken maxValueBytes (w.taskName c) ∧
      '\x00' ∉ (w.taskName c).toList := by
  have hchars : ∀ x ∈ (w.taskName c).toList, x.toNat < 128 ∧ isSpace x = false ∧ x ≠ '\x00' :=
    fun x hx => plain_char (taskName_chars w c.commandId.value hx)
  have hn : normalize (w.taskName c) = w.taskName c :=
    normalize_of_ascii fun x hx => ⟨(hchars x hx).1, (hchars x hx).2.1⟩
  have hlen : (w.taskName c).length ≤ 63 := by
    have hp : w.taskPrefix.length ≤ 30 := by
      have := w.prefix_valid
      simp only [isTaskPrefix, Bool.and_eq_true, decide_eq_true_eq] at this
      exact this.2
    have ht : ((sha256 c.commandId.value).toList.take 32).length ≤ 32 := List.length_take_le _ _
    have hd : ("-" : String).length = 1 := rfl
    rw [Worker.taskName, String.length_append, String.length_append, hd, String.length_ofList]
    omega
  refine ⟨hn, ⟨?_, ?_⟩, fun hm => (hchars _ hm).2.2 rfl⟩
  · rw [hn]
    intro he
    have := congrArg String.length he
    rw [Worker.taskName, String.length_append, String.length_append] at this
    simp at this
  · rw [hn]
    calc (w.taskName c).utf8ByteSize ≤ 4 * (w.taskName c).length := utf8ByteSize_le _
      _ ≤ 4 * 63 := Nat.mul_le_mul_left 4 hlen
      _ ≤ maxValueBytes := by decide

/-! ### The exact condition -/

/-- A text that `_normalized_text` accepts and the database stores. -/
def StorableText (maximum : Nat) (value : String) : Prop :=
  Taken maximum value ∧ '\x00' ∉ (normalize value).toList

/-- What is read of the Task can be recorded on the row. A missing Task can be
recorded only while no uid is; a finished one must have the recorded uid, and
texts within the limits; of any other Task the uid, if one is recorded, must be
the recorded one. -/
def Recoverable (s : Store) (w : Worker) (row : CommandRow) (now : Datetime) :
    Option TaskBody → Prop
  | none => row.kubernetesTaskName = some (w.taskName row.payload) ∧ row.kubernetesTaskUid = none
  | some body =>
    row.kubernetesTaskName = some (w.taskName row.payload) ∧
      (∀ uid ∈ body.uid, StorableText maxValueBytes uid) ∧
      if body.phase = some "Succeeded" ∧ body.result.isSome then
        body.uid.isSome ∧ (∀ result ∈ body.result, StorableText maxContentBytes result) ∧
          row.kubernetesTaskUid = body.uid.map normalize ∧
          ∀ o : NativeTerminalObservation, o.Describes row.payload.commandId .succeeded
            (w.taskName row.payload) body.uid body.result none now →
            ∃ attempt n, Completable s row.payload o attempt n
      else if body.phase = some "Failed" ∨ body.phase = some "TimedOut" then
        StorableText maxContentBytes (failureReason body.reason) ∧
          row.kubernetesTaskUid = body.uid.map normalize ∧
          ∀ o : NativeTerminalObservation, o.Describes row.payload.commandId .failed
            (w.taskName row.payload) body.uid none (some (failureReason body.reason)) now →
            ∃ attempt n, Completable s row.payload o attempt n
      else row.kubernetesTaskUid = none ∨ row.kubernetesTaskUid = body.uid.map normalize

/-! ### The run -/

/-- `run_claim` on its own: the worker goes on until it is idle. -/
def Worker.runClaim (w : Worker) : List Answers → Pc × Store → Pc × Store
  | [], r => r
  | _ :: _, (.idle, s) => (.idle, s)
  | x :: xs, (pc, s) => w.runClaim xs ((w.step x pc s).1, (w.step x pc s).2.1)

/-- The run leaves the command in a terminal state; the worker is not handed it
again and, if it was the only one started, goes on to `claim_next`. -/
def Settles (w : Worker) (claim : NativeDispatchClaim) (xs : List Answers) (s : Store) : Prop :=
  let s' := (w.runClaim xs (.holding claim, s)).2
  (∃ row, s'.commands.lookup claim.key = some row ∧ row.state.isTerminal = true) ∧
    (∀ locked claim', resumeEffectStarted w.workerId locked s' = .ok (some claim') →
      claim'.key ≠ claim.key) ∧
    ((∀ k row, s.commands.lookup k = some row → row.state = .effectStarted →
      row.workerId = some w.workerId → k = claim.key) → ∀ x, (w.step x .idle s').1 = .polled)

/-- The call `_finish` makes returns. -/
def Finishes (checkpoint : String → Except Failure Unit) (claim : NativeDispatchClaim)
    (o : NativeTerminalObservation) (s : Store) : Prop :=
  if o.kind.isUncertain then ∃ r, recordUncertain claim o s = .ok r
  else ∃ r, complete checkpoint claim o s = .ok r

/-- `_finish` on a started row makes it terminal or changes nothing. -/
theorem finish_started {claim : NativeDispatchClaim} {row : CommandRow}
    (h : StartedClaim s claim row) (checkpoint : String → Except Failure Unit)
    (o : NativeTerminalObservation) :
    (Finishes checkpoint claim o s ∧
        (finish checkpoint claim o s).commands = s.commands.insert claim.key (row.terminated o)) ∨
      (¬ Finishes checkpoint claim o s ∧ finish checkpoint claim o s = s) := by
  unfold Finishes finish
  by_cases hk : o.kind.isUncertain = true
  · simp only [hk, if_true]
    rcases transaction_cases (recordUncertain claim o) s with ⟨d, s', hb, ht⟩ | ⟨e, hb, ht⟩
    · refine .inl ⟨⟨_, hb⟩, ?_⟩
      rw [ht]
      exact recordUncertain_commands h hb
    · refine .inr ⟨fun ⟨r, hr⟩ => ?_, by rw [ht]⟩
      rw [hb] at hr
      cases hr
  · simp only [hk, Bool.false_eq_true, if_false]
    rcases transaction_cases (complete checkpoint claim o) s with ⟨d, s', hb, ht⟩ | ⟨e, hb, ht⟩
    · refine .inl ⟨⟨_, hb⟩, ?_⟩
      rw [ht]
      exact complete_commands h hb
    · refine .inr ⟨fun ⟨r, hr⟩ => ?_, by rw [ht]⟩
      rw [hb] at hr
      cases hr

/-- The run after a restart: permission is found, the Task is read and the
observation recorded, unless one of the three raises. -/
theorem runClaim_resumed {claim : NativeDispatchClaim} {row : CommandRow}
    (h : StartedClaim s claim row) (w : Worker) (x₁ x₂ x₃ : Answers) {body : Option TaskBody}
    (hread : x₂.read = .ok body) :
    (w.runClaim [x₁, x₂, x₃] (.holding claim, s)).2 =
      if row.kubernetesTaskName ≠ some (w.taskName claim.command) then s
      else match terminalObservation claim.command (w.taskName claim.command) body x₂.now with
        | .error _ => s
        | .ok o => finish x₃.checkpoint claim o s := by
  have hp := permitEffect_started h (w.taskName claim.command) x₁.authorizationCheck x₁.now
  by_cases hn : row.kubernetesTaskName = some (w.taskName claim.command)
  · rw [if_neg (not_not.mpr hn)] at hp ⊢
    have h₁ : w.step x₁ (.holding claim) s = (.reading claim, s, []) := by
      rw [Worker.step]
      simp only [transaction_ok hp]
    have h₂ : w.step x₂ (.reading claim) s = (.finishingWith claim (terminalObservation claim.command
        (w.taskName claim.command) body x₂.now), s, []) := by
      rw [Worker.step]
      simp only [hread]
    simp only [Worker.runClaim, h₁, h₂]
    rcases terminalObservation claim.command (w.taskName claim.command) body x₂.now with e | o
    · rfl
    · rfl
  · rw [if_pos hn] at hp ⊢
    have h₁ : w.step x₁ (.holding claim) s = (.idle, s, []) := by
      rw [Worker.step]
      simp only [transaction_error hp]
    simp only [Worker.runClaim, h₁]

/-! ### Which observations finish -/

theorem StorableText.forall_iff {maximum : Nat} {v : Option String} :
    (∀ t ∈ v, StorableText maximum t) ↔
      (∀ t ∈ v, Taken maximum t) ∧ nulFree (v.map normalize).toList = true := by
  cases v <;> simp [StorableText, nulFree_iff]

/-- Building an observation of the row's Task and recording it. -/
theorem observed_finishes {claim : NativeDispatchClaim} {row : CommandRow}
    (h : StartedClaim s claim row) (hf : TerminalFacts s) {w : Worker}
    (hname : row.kubernetesTaskName = some (w.taskName claim.command))
    {checkpoint : String → Except Failure Unit} (hq : ∀ name, checkpoint name = .ok ())
    {kind : NativeTerminalKind} {uid output reason : Option String} {now : Datetime} :
    (∃ o, NativeTerminalObservation.create claim.command.commandId kind (w.taskName claim.command)
        uid output reason now = .ok o ∧ Finishes checkpoint claim o s) ↔
      (∀ t ∈ uid, StorableText maxValueBytes t) ∧ (∀ t ∈ output, StorableText maxContentBytes t) ∧
        (∀ t ∈ reason, StorableText maxContentBytes t) ∧
        (kind = .succeeded → output.isSome ∧ uid.isSome) ∧ (kind ≠ .succeeded → reason.isSome) ∧
        if kind.isUncertain then
          row.kubernetesTaskUid = none ∨ row.kubernetesTaskUid = uid.map normalize
        else row.kubernetesTaskUid = uid.map normalize ∧
          ∀ o : NativeTerminalObservation, o.Describes claim.command.commandId kind
            (w.taskName claim.command) uid output reason now →
            ∃ attempt n, Completable s claim.command o attempt n := by
  obtain ⟨hnorm, htaken, hnul⟩ := taskName_taken w claim.command
  -- the call returns when uid, texts and store are right; the name always is
  have hfin : ∀ o : NativeTerminalObservation, o.Describes claim.command.commandId kind
      (w.taskName claim.command) uid output reason now →
      (Finishes checkpoint claim o s ↔
        (if kind.isUncertain then
          row.kubernetesTaskUid = none ∨ row.kubernetesTaskUid = uid.map normalize
        else row.kubernetesTaskUid = uid.map normalize ∧
          ∃ attempt n, Completable s claim.command o attempt n) ∧
        nulFree (uid.map normalize).toList = true ∧
        nulFree (output.map normalize).toList = true ∧
        nulFree (reason.map normalize).toList = true) := by
    intro o hd
    have hon : row.kubernetesTaskName = some o.kubernetesTaskName.value := by
      rw [hname, hd.taskName, hnorm]
    have hcid : '\x00' ∉ claim.command.commandId.value.toList :=
      nulFree_iff.mp h.storable _ (by simp [NativeDispatchCommand.texts])
    have htexts : nulFree o.texts = true ↔ nulFree (uid.map normalize).toList = true ∧
        nulFree (output.map normalize).toList = true ∧
        nulFree (reason.map normalize).toList = true := by
      have hhead : nulFree [claim.command.commandId.value, w.taskName claim.command] = true := by
        rw [nulFree_iff]
        simp [hcid, hnul]
      rw [NativeTerminalObservation.texts, nulFree_append, nulFree_append, nulFree_append,
        hd.commandId, hd.taskName, hnorm, hd.taskUid, hd.output, hd.reason, hhead]
      tauto
    unfold Finishes
    rw [hd.kind]
    by_cases hk : kind.isUncertain = true
    · rw [if_pos hk, if_pos hk, recordUncertain_started h hf hd.commandId, hd.taskUid, htexts,
        hd.kind, hk]
      tauto
    · rw [if_neg hk, if_neg hk, complete_started h hq hd.commandId, hd.taskUid, htexts, hd.kind]
      simp only [Bool.not_eq_true] at hk
      tauto
  constructor
  · rintro ⟨o, hc, hfo⟩
    obtain ⟨-, hu, ho, hr, hs, hk, hd⟩ := NativeTerminalObservation.create_eq_ok.mp hc
    obtain ⟨hcond, hnu, hno, hnr⟩ := (hfin o hd).mp hfo
    refine ⟨StorableText.forall_iff.mpr ⟨hu, hnu⟩, StorableText.forall_iff.mpr ⟨ho, hno⟩,
      StorableText.forall_iff.mpr ⟨hr, hnr⟩, hs, hk, ?_⟩
    by_cases hu : kind.isUncertain = true
    · rw [if_pos hu] at hcond ⊢
      exact hcond
    · rw [if_neg hu] at hcond ⊢
      exact ⟨hcond.1, fun o' hd' => hd.unique hd' ▸ hcond.2⟩
  · rintro ⟨hu, ho, hr, hs, hk, hcond⟩
    rw [StorableText.forall_iff] at hu ho hr
    obtain ⟨o, hd⟩ := NativeTerminalObservation.exists_describes
      claim.command.commandId now htaken hu.1 ho.1 hr.1 hs hk
    refine ⟨o, NativeTerminalObservation.create_eq_ok.mpr
      ⟨htaken, hu.1, ho.1, hr.1, hs, hk, hd⟩, (hfin o hd).mpr ⟨?_, hu.2, ho.2, hr.2⟩⟩
    by_cases hku : kind.isUncertain = true
    · rw [if_pos hku] at hcond ⊢
      exact hcond
    · rw [if_neg hku] at hcond ⊢
      exact ⟨hcond.1, hcond.2 o hd⟩

/-- ASCII constants without white space can be stored. -/
theorem storable_of_ascii {maximum : Nat} {t : String} (hne : t ≠ "")
    (hchars : ∀ c ∈ t.toList, c.toNat < 128 ∧ isSpace c = false ∧ c ≠ '\x00')
    (hlen : t.utf8ByteSize ≤ maximum) : StorableText maximum t := by
  have hn : normalize t = t := normalize_of_ascii fun c hc => ⟨(hchars c hc).1, (hchars c hc).2.1⟩
  rw [StorableText, Taken, hn]
  exact ⟨⟨hne, hlen⟩, fun hm => (hchars _ hm).2.2 rfl⟩

/-- What is read can be recorded exactly when it is recoverable. -/
theorem observation_finishes {claim : NativeDispatchClaim} {row : CommandRow}
    (h : StartedClaim s claim row) (hf : TerminalFacts s) (w : Worker)
    {checkpoint : String → Except Failure Unit} (hq : ∀ name, checkpoint name = .ok ())
    (body : Option TaskBody) (now : Datetime) :
    (row.kubernetesTaskName = some (w.taskName claim.command) ∧
        ∃ o, terminalObservation claim.command (w.taskName claim.command) body now = .ok o ∧
          Finishes checkpoint claim o s) ↔
      Recoverable s w row now body := by
  have hconst : ∀ t ∈ ["KUBERNETES_TASK_MISSING", "TERMINAL_OBSERVATION_UNAVAILABLE"],
      StorableText maxContentBytes t := by
    intro t ht
    simp only [List.mem_cons, List.not_mem_nil, or_false] at ht
    rcases ht with rfl | rfl <;>
      exact storable_of_ascii (by decide) (by decide) (by decide)
  have hmissing := hconst "KUBERNETES_TASK_MISSING" (by simp)
  have hunavailable := hconst "TERMINAL_OBSERVATION_UNAVAILABLE" (by simp)
  by_cases hname : row.kubernetesTaskName = some (w.taskName claim.command)
  · rw [and_iff_right hname]
    unfold terminalObservation
    simp only
    rw [observed_finishes h hf hname hq]
    cases body with
    | none =>
      simp only [terminalFields, Recoverable, h.command, hname, NativeTerminalKind.isUncertain]
      simp [hmissing]
    | some body =>
      simp only [Recoverable]
      rw [h.command, and_iff_right hname]
      by_cases hs : body.phase = some "Succeeded" ∧ body.result.isSome
      · have hf : terminalFields (some body) = (.succeeded, body.uid, body.result, none) := by
          rw [terminalFields, if_pos hs]
        rw [hf, if_pos hs]
        simp only [NativeTerminalKind.isUncertain]
        simp [hs.2]
        tauto
      · by_cases hfl : body.phase = some "Failed" ∨ body.phase = some "TimedOut"
        · have hf : terminalFields (some body) =
              (.failed, body.uid, none, some (failureReason body.reason)) := by
            rw [terminalFields, if_neg hs, if_pos hfl]
          rw [hf, if_neg hs, if_pos hfl]
          simp only [NativeTerminalKind.isUncertain]
          simp
        · have hf : terminalFields (some body) =
              (.unknown, body.uid, none, some "TERMINAL_OBSERVATION_UNAVAILABLE") := by
            rw [terminalFields, if_neg hs, if_neg hfl]
          rw [hf, if_neg hs, if_neg hfl]
          simp only [NativeTerminalKind.isUncertain]
          simp [hunavailable]
  · refine ⟨fun hc => absurd hc.1 hname, fun hr => absurd ?_ hname⟩
    rw [← h.command]
    cases body with
    | none => exact hr.1
    | some body => exact hr.1

theorem settles_of_terminated (hi : Columns s) {claim : NativeDispatchClaim} {row : CommandRow}
    {w : Worker} {locked : RowKey → Bool}
    (hres : resumeEffectStarted w.workerId locked s = .ok (some claim)) {xs : List Answers}
    {o : NativeTerminalObservation}
    (hc : (w.runClaim xs (.holding claim, s)).2.commands
      = s.commands.insert claim.key (row.terminated o)) : Settles w claim xs s := by
  -- rows that are started afterwards were started before, under another key
  have started : ∀ k row', (w.runClaim xs (.holding claim, s)).2.commands.lookup k = some row' →
      row'.state = .effectStarted → k ≠ claim.key ∧ s.commands.lookup k = some row' := by
    intro k row' hl hs
    rw [hc] at hl
    rcases Table.lookup_insert_cases hl with ⟨-, rfl⟩ | hl
    · have ht := o.kind.state_isTerminal
      rw [show o.kind.state = .effectStarted from hs] at ht
      cases ht
    · exact hl
  refine ⟨⟨row.terminated o, by rw [hc, AList.lookup_insert], o.kind.state_isTerminal⟩, ?_, ?_⟩
  · intro locked' claim' hres'
    obtain ⟨k, row', hl, hs, -, hr⟩ := resumeEffectStarted_ok hres'
    obtain ⟨-, -, -, -, hp, -⟩ := resumed_ok hr
    obtain ⟨hk, hl⟩ := started k row' hl hs
    rw [NativeDispatchClaim.key, hp, (hi k row' hl).key]
    exact hk
  · intro honly x
    have hn : resumeEffectStarted w.workerId x.locked (w.runClaim xs (.holding claim, s)).2
        = .ok none := by
      unfold resumeEffectStarted at hres ⊢
      rw [ite_error_eq_ok'] at hres
      obtain ⟨hw, hres⟩ := hres
      rw [ite_error_eq_ok'] at hres
      obtain ⟨hnul, -⟩ := hres
      rw [if_neg hw, if_neg hnul]
      split
      · rfl
      · next k row' e =>
        obtain ⟨hl, hp⟩ := Table.selectFirst_spec e
        simp only [Bool.and_eq_true, decide_eq_true_eq] at hp
        obtain ⟨hk, hl⟩ := started k row' hl hp.1.2
        exact absurd (honly k row' hl hp.1.2 hp.2) hk
    rw [Worker.step]
    simp only [hn]

/-- **When recovery ends the command.** Take any reachable store, a worker, the
claim `resume_effect_started` hands it and the row of that claim, and whatever
is read of the Task. If nothing crashes, the run settles the command exactly
when what was read is recoverable on that row. -/
theorem recovery_settles_iff {s₀ : Store} (hs : s₀.Fresh) (ops : List Operation) (w : Worker)
    (locked : RowKey → Bool) (claim : NativeDispatchClaim)
    (hres : resumeEffectStarted w.workerId locked (runAll ops s₀) = .ok (some claim))
    (row : CommandRow) (hl : (runAll ops s₀).commands.lookup claim.key = some row)
    (x₁ x₂ x₃ : Answers) (body : Option TaskBody) (hread : x₂.read = .ok body)
    (hq : ∀ name, x₃.checkpoint name = .ok ()) :
    Settles w claim [x₁, x₂, x₃] (runAll ops s₀) ↔
      Recoverable (runAll ops s₀) w row x₂.now body := by
  have hi : Columns (runAll ops s₀) := runAll_columns (.fresh hs)
  have hf : TerminalFacts (runAll ops s₀) := runAll_terminalFacts (.fresh hs) (.fresh hs)
  obtain ⟨row', h⟩ := resumed_startedClaim hi hres
  have hfound := h.found
  rw [hl] at hfound
  cases hfound
  rw [← observation_finishes h hf w hq body x₂.now]
  have hrun := runClaim_resumed h w x₁ x₂ x₃ hread
  -- where the store stays as it is, the row is still started
  have stuck : (w.runClaim [x₁, x₂, x₃] (.holding claim, runAll ops s₀)).2 = runAll ops s₀ →
      ¬ Settles w claim [x₁, x₂, x₃] (runAll ops s₀) := by
    rintro heq ⟨⟨row', hl', ht⟩, -⟩
    rw [heq, hl] at hl'
    cases hl'
    rw [h.started] at ht
    cases ht
  by_cases hname : row.kubernetesTaskName = some (w.taskName claim.command)
  · rw [if_neg (not_not.mpr hname)] at hrun
    rw [and_iff_right hname]
    rcases e : terminalObservation claim.command (w.taskName claim.command) body x₂.now with err | o
    · rw [e] at hrun
      refine ⟨fun hset => absurd hset (stuck hrun), ?_⟩
      rintro ⟨o, ho, -⟩
      cases ho
    · rw [e] at hrun
      simp only at hrun
      rcases finish_started h x₃.checkpoint o with ⟨hfin, hc⟩ | ⟨hnot, heq⟩
      · rw [← hrun] at hc
        exact ⟨fun _ => ⟨o, rfl, hfin⟩, fun _ => settles_of_terminated hi hres hc⟩
      · refine ⟨fun hset => absurd hset (stuck (hrun.trans heq)), ?_⟩
        rintro ⟨o', ho', hfin⟩
        cases ho'
        exact absurd hfin hnot
  · rw [if_pos hname] at hrun
    exact ⟨fun hset => absurd hset (stuck hrun), fun hc => absurd hc.1 hname⟩

end Recovery

section Sample

open Sample

/-- `command` is claimed and its effect started. -/
def Sample.startCalls : List Operation :=
  [.enqueue command, .claimNext "worker-1" (instant 2000000) 30 (digest 'c') fun _ => false,
    .permitEffect claim (worker.taskName command) (fun _ => .ok true) (instant 3000000)]

/-- The uid of its Task is recorded as well. -/
def Sample.correlateCalls : List Operation :=
  startCalls ++ [.recordKubernetesCorrelation claim (worker.taskName command) "uid-1"]

/-- The claim a restarted worker is handed. -/
def Sample.resumedClaim : NativeDispatchClaim := { claim with leaseExpiresAt := instant 3000000 }

/-- The Task is gone. -/
def Sample.deleted : Answers := { answers with read := .ok none }

theorem Sample.runAll_queued (ops : List Operation) :
    runAll (.enqueue command :: ops) store = runAll ops queuedStore := by
  rw [runAll, List.foldl_cons, Operation.apply, transaction_ok enqueue_store]
  rfl

theorem Sample.resume_started :
    resumeEffectStarted worker.workerId (fun _ => false) (runAll startCalls store)
        = .ok (some resumedClaim) ∧
      ((runAll startCalls store).commands.lookup resumedClaim.key).map (fun row =>
        (row.payload, row.kubernetesTaskName, row.kubernetesTaskUid))
        = some (command, some (worker.taskName command), none) := by
  rw [startCalls, runAll_queued]
  decide +kernel

/-- A restarted worker records that the Task is missing. -/
theorem recovery_settles_iff_sample :
    Settles worker resumedClaim [answers, deleted, answers] (runAll startCalls store) := by
  obtain ⟨hres, hrow⟩ := resume_started
  obtain ⟨row, hl, hrow⟩ := Option.map_eq_some_iff.mp hrow
  simp only [Prod.mk.injEq] at hrow
  obtain ⟨hp, hn, hu⟩ := hrow
  refine (recovery_settles_iff ⟨rfl, rfl, rfl, rfl⟩ startCalls worker (fun _ => false) resumedClaim
    hres row hl answers deleted answers none rfl fun _ => rfl).mpr ⟨?_, hu⟩
  rw [hn, hp]

/-- Once the uid is recorded, a deleted Task leaves the command started for
ever: the run changes nothing and the worker is handed the same claim again. -/
theorem recovery_stuck_on_deleted_task :
    resumeEffectStarted worker.workerId (fun _ => false) (runAll correlateCalls store)
        = .ok (some resumedClaim) ∧
      ¬ Settles worker resumedClaim [answers, deleted, answers] (runAll correlateCalls store) ∧
      resumeEffectStarted worker.workerId (fun _ => false)
        (worker.runClaim [answers, deleted, answers]
          (.holding resumedClaim, runAll correlateCalls store)).2 = .ok (some resumedClaim) := by
  have hev : resumeEffectStarted worker.workerId (fun _ => false) (runAll correlateCalls store)
        = .ok (some resumedClaim) ∧
      resumeEffectStarted worker.workerId (fun _ => false)
        (worker.runClaim [answers, deleted, answers]
          (.holding resumedClaim, runAll correlateCalls store)).2 = .ok (some resumedClaim) := by
    rw [correlateCalls, startCalls, List.cons_append, runAll_queued]
    decide +kernel
  exact ⟨hev.1, fun hset => hset.2.1 _ _ hev.2 rfl, hev.2⟩

end Sample

end AgentPlatform
