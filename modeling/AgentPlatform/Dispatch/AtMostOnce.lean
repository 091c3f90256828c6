/-
AgentPlatform/Dispatch/AtMostOnce.lean

The effect of a command happens at most once.

A worker is armed from the moment `permit_effect` commits `APPENDED` for it
until it invokes the transport (`Pc.armed`). `permit_effect` arms a worker only
on a row that has not started, and leaves the row started for good, so that the
invariant `Inv` holds of every run: for each command at most one worker is
armed, no invocation was made while one is, and there is at most one invocation
altogether. Crashes and expired leases only disarm workers; a resumed claim
meets a started row and is given `REPLAYED`.
-/
import AgentPlatform.Dispatch.Worker

namespace AgentPlatform

open Py

section AtMostOnce

variable [Unicodedata]

/-- The claim of a worker that may still invoke the transport. -/
def Pc.armed : Pc → Option NativeDispatchClaim
  | started claim => some claim
  | created claim _ => some claim
  | correlated claim _ => some claim
  | running claim _ => some claim
  | _ => none

/-! ### What a worker's step does -/

theorem complete_rowsChange {s s' : Store} {checkpoint : String → Except Failure Unit}
    {claim : NativeDispatchClaim} {o : NativeTerminalObservation} {d : AppendDisposition}
    (h : complete checkpoint claim o s = .ok (d, s')) : RowsChange s s' := by
  obtain ⟨attempt, evidence, -, -, -, -, -, -, ha⟩ := complete_ok h
  exact appendNativeCompletion_rowsChange ha

theorem finish_rowsChange (checkpoint : String → Except Failure Unit)
    (claim : NativeDispatchClaim) (o : NativeTerminalObservation) (s : Store) :
    RowsChange s (finish checkpoint claim o s) := by
  have same : RowsChange s s := .same rfl
  unfold finish
  split
  · exact transaction_state same fun _ _ h =>
      (recordUncertain_change (T := Set.univ) (Set.mem_univ _) h).rowsChange
  · exact transaction_state same fun _ _ h => complete_rowsChange h

/-- A step of a worker is quiet, arms it, or invokes the transport. -/
inductive StepKind (w : Worker) (x : Answers) (pc : Pc) (s : Store) :
    Pc × Store × List Event → Prop
  | quiet {pc' : Pc} {s' : Store} (hs : RowsChange s s')
      (ha : pc'.armed = none ∨ pc'.armed = pc.armed) : StepKind w x pc s (pc', s', [])
  | permit {claim : NativeDispatchClaim} {s' : Store}
      (h : permitEffect claim (w.taskName claim.command) x.authorizationCheck x.now s
        = .ok (.appended, s')) :
      StepKind w x pc s (.started claim, s',
        [.permitted s claim (w.taskName claim.command) x.authorizationCheck x.now])
  | invoke {claim : NativeDispatchClaim} {pc' : Pc} (hp : pc.armed = some claim)
      (hp' : pc'.armed = none) : StepKind w x pc s (pc', s, [.invoked claim.command])

theorem finishingWith_armed (claim : NativeDispatchClaim)
    (r : Except Failure NativeTerminalObservation) :
    (Pc.finishingWith claim r).armed = none := by
  cases r <;> rfl

/-- The three kinds are all there is. -/
theorem Worker.step_kind (w : Worker) (x : Answers) (pc : Pc) {s : Store} (hi : Columns s) :
    StepKind w x pc s (w.step x pc s) := by
  have same : RowsChange s s := .same rfl
  cases pc with
  | idle =>
    rw [Worker.step]
    split <;> exact .quiet same (.inl rfl)
  | polled =>
    rw [Worker.step]
    have hs : RowsChange s (transaction (claimNext w.workerId x.now 30 x.token x.locked) s).2 :=
      transaction_state same fun _ _ h => (claimNext_change (T := Set.univ) hi h).rowsChange
    split
    · next claim s' e =>
      rw [e] at hs
      exact .quiet hs (.inl rfl)
    · next r s' _ e =>
      rw [e] at hs
      exact .quiet hs (.inl rfl)
  | holding claim =>
    rw [Worker.step]
    rcases transaction_cases
        (permitEffect claim (w.taskName claim.command) x.authorizationCheck x.now) s with
      ⟨d, s', hb, ht⟩ | ⟨e, -, ht⟩
    · rw [ht]
      cases d with
      | appended => exact .permit hb
      | replayed => exact .quiet (permitEffect_change (T := Set.univ) hb).rowsChange (.inl rfl)
    · rw [ht]
      exact .quiet same (.inl rfl)
  | started claim =>
    rw [Worker.step]
    split
    · exact .quiet same (.inl rfl)
    · split
      · exact .quiet same (.inl (finishingWith_armed _ _))
      · exact .quiet same (.inr rfl)
  | created claim uid =>
    rw [Worker.step]
    rcases transaction_cases
        (recordKubernetesCorrelation claim (w.taskName claim.command) uid) s with
      ⟨d, s', hb, ht⟩ | ⟨e, -, ht⟩
    · rw [ht]
      exact .quiet (recordKubernetesCorrelation_change (T := Set.univ) hb).rowsChange (.inr rfl)
    · rw [ht]
      exact .quiet same (.inl rfl)
  | correlated claim uid =>
    rw [Worker.step]
    split
    · exact .quiet same (.inr rfl)
    · exact .quiet same (.inl rfl)
  | running claim uid =>
    rw [Worker.step]
    refine .invoke rfl ?_
    split
    · rfl
    · rfl
    · split
      · exact finishingWith_armed _ _
      · rfl
  | invoked claim =>
    rw [Worker.step]
    split <;> exact .quiet same (.inl rfl)
  | reading claim =>
    rw [Worker.step]
    split
    · exact .quiet same (.inl rfl)
    · exact .quiet same (.inl (finishingWith_armed _ _))
  | finishing claim o =>
    rw [Worker.step]
    exact .quiet (finish_rowsChange _ _ _ _) (.inl rfl)

/-! ### The invariant -/

def StartedRow (s : Store) (k : RowKey) : Prop :=
  ∃ row, s.commands.lookup k = some row ∧ row.state.isStarted = true

theorem StartedRow.mono {s s' : Store} (h : RowsChange s s') (hi : Columns s) {k : RowKey}
    (hs : StartedRow s k) : StartedRow s' k := by
  obtain ⟨row, hl, hst⟩ := hs
  obtain ⟨row', hl', hr⟩ := h.later hi hl
  exact ⟨row', hl', (hr.started hst).1⟩

/-- How often the transport was invoked for a command. -/
def invocations (k : RowKey) (log : List Event) : Nat :=
  log.countP fun
    | .invoked c => c.key = k
    | _ => false

/-- A `permit_effect` for the claim committed `APPENDED`: the claim was the
row's current one, its lease had not expired, the binding was exact with the
attempt still `PENDING`, and the authorization check said yes. -/
def PermittedIn (log : List Event) (claim : NativeDispatchClaim) : Prop :=
  ∃ before row taskName authorizationCheck now,
    Event.permitted before claim taskName authorizationCheck now ∈ log ∧
      Permitted before row claim taskName authorizationCheck now

namespace AtMostOnce

variable {ι : Type*}

structure Inv (σ : System ι) : Prop where
  columns : Columns σ.store
  armed_started : ∀ i c, (σ.pcs i).armed = some c → StartedRow σ.store c.key
  invoked_started : ∀ k, invocations k σ.log ≠ 0 → StartedRow σ.store k
  armed_unique : ∀ i j c c', (σ.pcs i).armed = some c → (σ.pcs j).armed = some c' →
    c.key = c'.key → i = j
  armed_fresh : ∀ i c, (σ.pcs i).armed = some c → invocations c.key σ.log = 0
  once : ∀ k, invocations k σ.log ≤ 1
  armed_permitted : ∀ i c, (σ.pcs i).armed = some c → PermittedIn σ.log c
  ordered : ∀ l₁ c l₂, σ.log = l₁ ++ Event.invoked c :: l₂ →
    ∃ claim, claim.command = c ∧ PermittedIn l₂ claim

theorem Inv.initial {σ : System ι} (h : σ.Initial) : Inv σ where
  columns := .fresh h.store
  armed_started i c hc := by
    rw [h.pcs i] at hc
    cases hc
  invoked_started k hk := by
    rw [h.log] at hk
    exact absurd rfl hk
  armed_unique i j c c' hc := by
    rw [h.pcs i] at hc
    cases hc
  armed_fresh i c hc := by
    rw [h.pcs i] at hc
    cases hc
  once k := by
    rw [h.log]
    exact Nat.zero_le 1
  armed_permitted i c hc := by
    rw [h.pcs i] at hc
    cases hc
  ordered l₁ c l₂ hl := by
    rw [h.log] at hl
    simp at hl

/-- Changes of the store and disarming keep the invariant. -/
theorem Inv.quiet {σ σ' : System ι} (h : Inv σ) (hs : RowsChange σ.store σ'.store)
    (hl : σ'.log = σ.log)
    (ha : ∀ i, (σ'.pcs i).armed = none ∨ (σ'.pcs i).armed = (σ.pcs i).armed) : Inv σ' := by
  have armed : ∀ i c, (σ'.pcs i).armed = some c → (σ.pcs i).armed = some c := by
    intro i c hc
    rcases ha i with h' | h'
    · rw [h'] at hc
      cases hc
    · rw [← h', hc]
  exact {
    columns := hs.columns h.columns
    armed_started := fun i c hc => (h.armed_started i c (armed i c hc)).mono hs h.columns
    invoked_started := fun k hk => (h.invoked_started k (hl ▸ hk)).mono hs h.columns
    armed_unique := fun i j c c' hc hc' => h.armed_unique i j c c' (armed i c hc) (armed j c' hc')
    armed_fresh := fun i c hc => hl ▸ h.armed_fresh i c (armed i c hc)
    once := fun k => hl ▸ h.once k
    armed_permitted := fun i c hc => hl ▸ h.armed_permitted i c (armed i c hc)
    ordered := fun l₁ c l₂ e => h.ordered l₁ c l₂ (hl ▸ e) }

variable [DecidableEq ι]

/-- Arming a worker: the row had not started, so nobody else was armed for the
command and nobody had invoked. -/
theorem Inv.permit {σ : System ι} (h : Inv σ) (i : ι) {claim : NativeDispatchClaim}
    {taskName : String} {authorizationCheck : NativeDispatchCommand → Except Failure Bool}
    {now : Datetime} {s' : Store}
    (hp : permitEffect claim taskName authorizationCheck now σ.store = .ok (.appended, s')) :
    Inv (⟨s', Function.update σ.pcs i (.started claim),
      .permitted σ.store claim taskName authorizationCheck now :: σ.log⟩ : System ι) := by
  have hs : RowsChange σ.store s' := (permitEffect_change (T := Set.univ) hp).rowsChange
  rcases permitEffect_ok hp with ⟨row, -, -, -, -, hd, -⟩ | ⟨row, hpm, -, rfl⟩
  · cases hd
  have hnot : ¬ StartedRow σ.store claim.key := by
    rintro ⟨row', hl', hst⟩
    rw [hpm.found] at hl'
    cases hl'
    rw [hpm.claimed] at hst
    cases hst
  have hnone : ∀ j c, (σ.pcs j).armed = some c → c.key ≠ claim.key :=
    fun j c hc e => hnot (e ▸ h.armed_started j c hc)
  have hzero : invocations claim.key σ.log = 0 := by
    by_contra hne
    exact hnot (h.invoked_started _ hne)
  have hcount : ∀ k, invocations k
      (.permitted σ.store claim taskName authorizationCheck now :: σ.log) = invocations k σ.log :=
    fun k => List.countP_cons_of_neg (by simp)
  -- an armed worker is the new one or was armed before
  have armed : ∀ j c, ((Function.update σ.pcs i (.started claim)) j).armed = some c →
      (j = i ∧ c = claim) ∨ (j ≠ i ∧ (σ.pcs j).armed = some c) := by
    intro j c hc
    by_cases hj : j = i
    · subst hj
      rw [Function.update_self] at hc
      cases hc
      exact .inl ⟨rfl, rfl⟩
    · rw [Function.update_of_ne hj] at hc
      exact .inr ⟨hj, hc⟩
  refine ⟨hs.columns h.columns, fun j c hc => ?_, fun k hk => ?_, fun j j' c c' hc hc' hk => ?_,
    fun j c hc => ?_, fun k => ?_, fun j c hc => ?_, fun l₁ c l₂ hl => ?_⟩
  · rcases armed j c hc with ⟨-, rfl⟩ | ⟨-, hc⟩
    · exact ⟨row.started taskName now, AList.lookup_insert _, rfl⟩
    · exact (h.armed_started j c hc).mono hs h.columns
  · exact (h.invoked_started k (hcount k ▸ hk)).mono hs h.columns
  · rcases armed j c hc with ⟨rfl, rfl⟩ | ⟨-, ho⟩ <;>
      rcases armed j' c' hc' with ⟨rfl, rfl⟩ | ⟨-, ho'⟩
    · rfl
    · exact absurd hk.symm (hnone j' c' ho')
    · exact absurd hk (hnone j c ho)
    · exact h.armed_unique j j' c c' ho ho' hk
  · rw [hcount]
    rcases armed j c hc with ⟨-, rfl⟩ | ⟨-, hc⟩
    · exact hzero
    · exact h.armed_fresh j c hc
  · exact (hcount k).le.trans (h.once k)
  · rcases armed j c hc with ⟨-, rfl⟩ | ⟨-, hc⟩
    · exact ⟨_, row, _, _, _, List.mem_cons_self, hpm⟩
    · obtain ⟨b, r, t, a, n, hm, hp'⟩ := h.armed_permitted j c hc
      exact ⟨b, r, t, a, n, List.mem_cons_of_mem _ hm, hp'⟩
  · rcases l₁ with _ | ⟨e, l₁⟩
    · cases hl
    · exact h.ordered l₁ c l₂ (List.cons.inj hl).2

/-- An invocation disarms the worker, which was the only one armed. -/
theorem Inv.invoke {σ : System ι} (h : Inv σ) (i : ι) {claim : NativeDispatchClaim}
    (ha : (σ.pcs i).armed = some claim) {pc' : Pc} (hp : pc'.armed = none) :
    Inv (⟨σ.store, Function.update σ.pcs i pc', .invoked claim.command :: σ.log⟩ : System ι) := by
  have armed : ∀ j c, ((Function.update σ.pcs i pc') j).armed = some c →
      (σ.pcs j).armed = some c ∧ c.key ≠ claim.key := by
    intro j c hc
    by_cases hj : j = i
    · subst hj
      rw [Function.update_self, hp] at hc
      cases hc
    · rw [Function.update_of_ne hj] at hc
      exact ⟨hc, fun e => hj (h.armed_unique j i c claim hc ha e)⟩
  have hcount : ∀ k, invocations k (.invoked claim.command :: σ.log) =
      invocations k σ.log + if claim.key = k then 1 else 0 := by
    intro k
    rw [invocations, List.countP_cons]
    simp [invocations]
  refine ⟨h.columns, fun j c hc => h.armed_started j c (armed j c hc).1, fun k hk => ?_,
    fun j j' c c' hc hc' => h.armed_unique j j' c c' (armed j c hc).1 (armed j' c' hc').1,
    fun j c hc => ?_, fun k => ?_, fun j c hc => ?_, fun l₁ c l₂ hl => ?_⟩
  · rw [hcount] at hk
    by_cases e : claim.key = k
    · exact e ▸ h.armed_started i claim ha
    · rw [if_neg e] at hk
      exact h.invoked_started k hk
  · obtain ⟨hc, hne⟩ := armed j c hc
    rw [hcount, if_neg fun e => hne e.symm, h.armed_fresh j c hc]
  · rw [hcount]
    by_cases e : claim.key = k
    · rw [if_pos e, ← e, h.armed_fresh i claim ha]
    · rw [if_neg e]
      exact h.once k
  · obtain ⟨b, r, t, a, n, hm, hp'⟩ := h.armed_permitted j c (armed j c hc).1
    exact ⟨b, r, t, a, n, List.mem_cons_of_mem _ hm, hp'⟩
  · rcases l₁ with _ | ⟨e, l₁⟩
    · cases hl
      exact ⟨claim, rfl, h.armed_permitted i claim ha⟩
    · exact h.ordered l₁ c l₂ (List.cons.inj hl).2

theorem armed_update {pcs : ι → Pc} {i : ι} {pc' : Pc}
    (h : pc'.armed = none ∨ pc'.armed = (pcs i).armed) (j : ι) :
    ((Function.update pcs i pc') j).armed = none ∨
      ((Function.update pcs i pc') j).armed = (pcs j).armed := by
  by_cases hj : j = i
  · subst hj
    rwa [Function.update_self]
  · rw [Function.update_of_ne hj]
    exact .inr rfl

theorem Inv.step {workers : ι → Worker} {σ σ' : System ι} (h : Inv σ)
    (hs : SystemStep workers σ σ') : Inv σ' := by
  cases hs with
  | work i x =>
    have hk := (workers i).step_kind x (σ.pcs i) h.columns
    generalize (workers i).step x (σ.pcs i) σ.store = r at hk
    cases hk with
    | quiet hs ha => exact h.quiet hs rfl (armed_update ha)
    | permit hp => exact h.permit i hp
    | invoke hp hp' => exact h.invoke i hp hp'
  | crash i => exact h.quiet (.same rfl) rfl (armed_update (.inl rfl))
  | runClaim i claim _ => exact h.quiet (.same rfl) rfl (armed_update (.inl rfl))
  | call op => exact h.quiet (op.rowsChange h.columns) rfl fun j => .inr rfl

/-- A command that has started stays started. -/
theorem Inv.startedRow {workers : ι → Worker} {σ σ' : System ι} {k : RowKey} (h : Inv σ)
    (hk : StartedRow σ.store k) (hs : SystemStep workers σ σ') : StartedRow σ'.store k := by
  cases hs with
  | work i x =>
    have hkind := (workers i).step_kind x (σ.pcs i) h.columns
    generalize (workers i).step x (σ.pcs i) σ.store = r at hkind ⊢
    cases hkind with
    | quiet hs => exact hk.mono hs h.columns
    | permit hp => exact hk.mono (permitEffect_change (T := Set.univ) hp).rowsChange h.columns
    | invoke => exact hk
  | crash | runClaim => exact hk
  | call op => exact hk.mono (op.rowsChange h.columns) h.columns

end AtMostOnce

/-- **The effect of a command happens at most once.** For any workers on one
store, in every state of every interleaving of their calls with crashes, with
other users of the repository and with `run_claim` on arbitrary claims: the
transport was invoked at most once for each command, and each invocation was
preceded by a `permit_effect` for it that committed `APPENDED`, with the claim
the row's current one, the lease unexpired, the binding exact and the
authorization check true. -/
theorem effect_at_most_once {ι : Type*} [DecidableEq ι] (workers : ι → Worker)
    {σ₀ σ : System ι} (h₀ : σ₀.Initial)
    (h : Relation.ReflTransGen (SystemStep workers) σ₀ σ) :
    (∀ k, invocations k σ.log ≤ 1) ∧
      ∀ l₁ c l₂, σ.log = l₁ ++ Event.invoked c :: l₂ →
        ∃ claim, claim.command = c ∧ PermittedIn l₂ claim := by
  have hi : AtMostOnce.Inv σ :=
    invariant_of_run (fun _ _ hi hs => hi.step hs) h (.initial h₀)
  exact ⟨hi.once, hi.ordered⟩

/-- **One worker at a time, and after a durable start.** In every state of every
interleaving at most one worker is about to invoke the transport for a command; it was
permitted to, and nobody has invoked it before. A command that was invoked, or is about to
be, is stored as started, then and in every later state. -/
theorem start_precedes_effect {ι : Type*} [DecidableEq ι] (workers : ι → Worker)
    {σ₀ σ : System ι} (h₀ : σ₀.Initial) (h : Relation.ReflTransGen (SystemStep workers) σ₀ σ) :
    (∀ i j c c', (σ.pcs i).armed = some c → (σ.pcs j).armed = some c' → c.key = c'.key → i = j) ∧
    (∀ i c, (σ.pcs i).armed = some c → invocations c.key σ.log = 0 ∧ PermittedIn σ.log c) ∧
    ∀ k, (invocations k σ.log ≠ 0 ∨ ∃ i c, (σ.pcs i).armed = some c ∧ c.key = k) →
      ∀ σ', Relation.ReflTransGen (SystemStep workers) σ σ' → StartedRow σ'.store k := by
  have hi : AtMostOnce.Inv σ :=
    invariant_of_run (fun _ _ hi hs => hi.step hs) h (.initial h₀)
  refine ⟨hi.armed_unique, fun i c hc => ⟨hi.armed_fresh i c hc, hi.armed_permitted i c hc⟩,
    fun k hk σ' h' => ?_⟩
  have hnow : StartedRow σ.store k := by
    rcases hk with hk | ⟨i, c, hc, rfl⟩
    · exact hi.invoked_started k hk
    · exact hi.armed_started i c hc
  exact (invariant_of_run (P := fun σ => AtMostOnce.Inv σ ∧ StartedRow σ.store k)
    (fun _ _ hs hstep => ⟨hs.1.step hstep, hs.1.startedRow hs.2 hstep⟩) h' ⟨hi, hnow⟩).2

end AtMostOnce

section Sample

open Sample

/-- The worker and the system before anything was queued. -/
def Sample.system : System Unit := ⟨store, fun _ => .idle, []⟩

/-- Where the worker is after it invoked the transport for `command`. -/
def Sample.afterInvoke : Pc × Store × List Event :=
  worker.run (List.replicate 7 answers) (.idle, queuedStore, [])

theorem Sample.afterInvoke_log : invocations command.key afterInvoke.2.2 = 1 := by
  decide +kernel

theorem Sample.afterInvoke_reachable :
    Relation.ReflTransGen (SystemStep fun _ => worker) system
      ⟨afterInvoke.2.1, Function.update (fun _ => .idle) () afterInvoke.1, afterInvoke.2.2⟩ := by
  have hq : Operation.apply store (.enqueue command) = queuedStore := by
    rw [Operation.apply, transaction_ok enqueue_store]
  refine .head (.call system (.enqueue command)) ?_
  have h := run_reachable (fun _ => worker) () (List.replicate 7 answers)
    ⟨Operation.apply store (.enqueue command), fun _ => .idle, []⟩
  rw [hq] at h
  rw [show system.store = store from rfl, hq]
  exact h

theorem effect_at_most_once_sample :
    invocations command.key afterInvoke.2.2 = 1 ∧
      (∀ k, invocations k afterInvoke.2.2 ≤ 1) ∧
      ∀ l₁ c l₂, afterInvoke.2.2 = l₁ ++ Event.invoked c :: l₂ →
        ∃ claim, claim.command = c ∧ PermittedIn l₂ claim :=
  ⟨afterInvoke_log, effect_at_most_once (fun _ => worker)
    ⟨⟨rfl, rfl, rfl, rfl⟩, fun _ => rfl, rfl⟩ afterInvoke_reachable⟩

theorem start_precedes_effect_sample : StartedRow afterInvoke.2.1 command.key :=
  (start_precedes_effect (fun _ => worker) ⟨⟨rfl, rfl, rfl, rfl⟩, fun _ => rfl, rfl⟩
    afterInvoke_reachable).2.2 command.key (.inl (by rw [afterInvoke_log]; exact one_ne_zero)) _ .refl

end Sample

end AgentPlatform
