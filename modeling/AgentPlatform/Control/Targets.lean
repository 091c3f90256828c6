/-
AgentPlatform/Control/Targets.lean

What the commands of Workflow Control do to runs, task runs and attempts.

`Targets.Controlled` is the part all commands share: rows move by
compare-and-swap, out of a state that is not terminal, and successor runs are
added. `body_targets` says that a committed command does this, retries an
attempt, or saves an execution identity.
-/
import AgentPlatform.Control.Sample

namespace AgentPlatform

open Py

namespace Control

/-! ### Choices that leave a live state -/

/-- The transition table has no edge out of a terminal state. -/
class LawfulColumn (σ : Type) [ControlColumn σ] : Prop where
  transitions_terminal : ∀ x : σ, isTerminal x = true → ControlColumn.transitions x = []

instance : LawfulColumn RunControlState where
  transitions_terminal x h := by
    revert h
    cases x <;> decide

instance : LawfulColumn TaskControlState where
  transitions_terminal x h := by
    revert h
    cases x <;> decide

instance : LawfulColumn AttemptControlState where
  transitions_terminal x h := by
    revert h
    cases x <;> decide

/-- The choice refuses a terminal state. -/
def Choice.Live (choose : Choice) : Prop :=
  ∀ (σ : Type) [ControlColumn σ] [LawfulColumn σ] (x y : σ), choose σ x = .ok y →
    isTerminal x = false

theorem chooseListed_live (wanted : String) : Choice.Live (chooseListed wanted) := by
  intro σ _ _ x y h
  rw [chooseListed, orRaise_eq_ok] at h
  by_contra hx
  rw [LawfulColumn.transitions_terminal x (by simpa using hx)] at h
  cases h

section Live

variable [Unicodedata]

omit [Unicodedata] in
theorem chooseCancelled_live : Choice.Live WorkflowControlOperation.chooseCancelled := by
  intro σ _ _ x y h
  rw [WorkflowControlOperation.chooseCancelled, ite_error_eq_ok'] at h
  simpa using h.1

theorem chooseCompleted_live (op : WorkflowControlOperation) : Choice.Live op.chooseCompleted := by
  intro σ _ _ x y h
  unfold WorkflowControlOperation.chooseCompleted at h
  split at h
  · cases h
  · simp only [ite_error_eq_ok', not_or] at h
    simpa using h.1.1

theorem chooseApplied_live (op : WorkflowControlOperation) : Choice.Live op.chooseApplied := by
  intro σ _ _ x y h
  unfold WorkflowControlOperation.chooseApplied at h
  split at h
  next wanted _ => exact chooseListed_live wanted σ x y h
  all_goals cases h

end Live

section Targets

variable [Unicodedata]

/-! ### What all commands can do -/

/-- Rows move out of states that are not terminal, and successor runs are
added. -/
inductive Targets.Controlled (t : Targets) : Targets → Prop
  | unchanged : Controlled t t
  | advanced {t₁ t₂ : Targets} {scope : ScopeIdentity} {target : InterventionTarget}
      {choose : Choice} {expected version : Nat} (before : Controlled t t₁)
      (live : Choice.Live choose)
      (h : t₁.advance scope target choose expected = .ok (version, t₂)) : Controlled t t₂
  | resumed {t₁ : Targets} {k : RowKey} {expected version : Nat} {runs : Table RowKey RunRow}
      (before : Controlled t t₁)
      (h : advanceRow WorkflowControlOperation.resumed expected k t₁.runs = .ok (version, runs)) :
      Controlled t { t₁ with runs := runs }
  | rerun {t₁ t₂ : Targets} {scope : ScopeIdentity} {plans : PlanTables} {refs : References}
      {run : SuccessorRun} (before : Controlled t t₁)
      (h : t₁.insertSuccessorRun scope plans refs run = some t₂) : Controlled t t₂

theorem continueRun_controlled {op : WorkflowControlOperation} {runId : String} {version : Nat}
    {t t' : Targets} (h : op.continueRun runId t = .ok (version, t')) : t.Controlled t' := by
  unfold WorkflowControlOperation.continueRun at h
  split at h
  · cases h
    exact .unchanged
  · rw [bind_eq_ok] at h
    obtain ⟨⟨version', runs⟩, hr, h⟩ := h
    cases h
    exact .resumed .unchanged hr

theorem successors_targets {c : AtomicControlCommand} {refs : References} {plans plans' : PlanTables}
    {t t' : Targets} (h : c.successors refs plans t = some (plans', t')) :
    t' = t ∨ ∃ plans refs run, t.insertSuccessorRun c.scope plans refs run = some t' := by
  unfold AtomicControlCommand.successors at h
  rcases hp : c.successorPlan with _ | p <;> rcases hr : c.successorWorkflowRun with _ | run <;>
    simp only [hp, hr, Option.bind_eq_bind, Option.bind_some, Option.bind_eq_some_iff,
      Option.some.injEq, Prod.mk.injEq] at h
  · exact .inl h.2.symm
  · obtain ⟨t₁, h, -, rfl⟩ := h
    exact .inr ⟨_, _, _, h⟩
  · obtain ⟨_, -, -, rfl⟩ := h
    exact .inl rfl
  · obtain ⟨_, -, _, h, -, rfl⟩ := h
    exact .inr ⟨_, _, _, h⟩

/-- `persist` moves its target and may add a successor run. -/
theorem persist_controlled {c : AtomicControlCommand} {authorized : Bool} {s s' : Authority}
    {r : AtomicControlResult} (h : persist c authorized s = .ok (r, s')) :
    s.targets.Controlled s'.targets := by
  unfold persist at h
  simp only [ite_error_eq_ok'] at h
  obtain ⟨-, -, h⟩ := h
  split at h
  · obtain ⟨_, -, he⟩ := map_eq_ok.mp h
    cases he
    exact .unchanged
  · simp only [ite_error_eq_ok', bind_eq_ok, orRaise_eq_ok] at h
    obtain ⟨-, _, -, ⟨version, t₁⟩, ht, _, -, ⟨plans, t₂⟩, hsucc, -, h⟩ := h
    cases h
    have hadv := Targets.Controlled.advanced .unchanged (chooseListed_live c.targetState) ht
    obtain rfl | ⟨plans', refs, run, hrun⟩ := successors_targets hsucc
    · exact hadv
    · exact .rerun hadv hrun

/-- The targets a committed command leaves. -/
theorem body_targets {c : Command} {s s' : Authority} (h : c.body s = .ok ((), s')) :
    s.targets.Controlled s'.targets ∨
    (∃ x op authorized successor, c = .persistOperation x op authorized ∧
      op.commandType = .retryAttempt ∧
      op.retryAttempt x s.references s.plans s.targets = .ok (s'.targets, successor)) ∨
    (∃ x scope a arguments, c = .save x scope a arguments ∧
      save x scope a arguments s = .ok (a, s')) := by
  have same : s'.targets = s.targets → s.targets.Controlled s'.targets := fun he =>
    he.symm ▸ .unchanged
  by_cases hl : c.ledgerOnly = true
  · exact .inl (same (by rw [body_ledgerOnly hl h]))
  by_cases hp : c.plansOnly = true
  · exact .inl (same (by rw [body_plansOnly hp h]))
  cases c <;> simp only [Command.ledgerOnly, Command.plansOnly, not_true_eq_false,
      Bool.false_eq_true, not_false_eq_true] at hl hp
  case persist =>
    obtain ⟨_, h⟩ := ignoring_eq_ok.mp h
    exact .inl (persist_controlled h)
  case persistOperation x op authorized =>
    obtain ⟨_, h⟩ := ignoring_eq_ok.mp h
    obtain ⟨-, -, -, ⟨_, -, -, rfl⟩ | ⟨-, h⟩⟩ := persistOperation_cases h
    · exact .inl .unchanged
    · obtain ⟨id, cur, l₁, e, tid, n, ev, oc, hcar, -, rfl⟩ := runOperation_spec h
      have ht := carryOut_targets hcar.carried
      have he : (afterOperation op s id e tid ev oc).targets = e.targets := rfl
      rw [he]
      generalize e.targets = t' at ht
      cases ht with
      | unchanged => exact .inl .unchanged
      | continued _ _ hrun => exact .inl (continueRun_controlled hrun)
      | retried hk hr => exact .inr (.inl ⟨x, op, authorized, _, rfl, hk, hr⟩)
      | rerun _ hr =>
        obtain ⟨_, _, _, _, -, -, -, -, -, hrun⟩ := createSuccessorRun_spec hr
        exact .inl (.rerun .unchanged hrun)
      | cancelled ha => exact .inl (.advanced .unchanged chooseCancelled_live ha)
      | completed ha => exact .inl (.advanced .unchanged (chooseCompleted_live op) ha)
      | applied ha => exact .inl (.advanced .unchanged (chooseApplied_live op) ha)
  case save x scope a' arguments =>
    obtain ⟨_, h⟩ := ignoring_eq_ok.mp h
    obtain ⟨rfl, -⟩ := save_spec h
    exact .inr (.inr ⟨x, scope, _, arguments, rfl, h⟩)

end Targets

end Control

end AgentPlatform
