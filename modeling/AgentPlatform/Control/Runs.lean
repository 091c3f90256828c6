/-
AgentPlatform/Control/Runs.lean

Runs of Workflow Control: any sequence of calls of the repository's
transactions, with any arguments. A call that raises leaves the store as it was
(`call_error`). Concurrent callers are such a sequence, since each call is one
serializable transaction.

`start` and `retry` read before they call `save`; `save` is a command of its
own here, with any aggregate, so that other calls may come between.
-/
import AgentPlatform.Control.Specs

namespace AgentPlatform

open Py

namespace Control

section Runs

variable [Unicodedata]

inductive Command
  | requestIntervention (scope : ScopeIdentity) (request : InterventionRequest)
  | appendTransition (scope : ScopeIdentity) (transition : InterventionTransition) (expected : Nat)
  | appendReview (scope : ScopeIdentity) (review : InterventionReview)
  | appendDecision (scope : ScopeIdentity) (decision : InterventionDecision)
  | preparePlanEntry (plan : PlanRecord) (authorized : Bool)
  | approvePlanEntry (scope : ScopeIdentity) (decision : ApprovalDecision) (expected : Nat)
      (authorized : Bool)
  | persist (command : AtomicControlCommand) (authorized : Bool)
  | persistOperation (answers : LineageAnswers) (operation : WorkflowControlOperation)
      (authorized : Bool)
  | save (answers : LineageAnswers) (scope : ScopeIdentity)
      (aggregate : ExecutionIdentityAggregate) (arguments : SaveArguments)

/-- A body whose result is not looked at. -/
def ignoring {ε α : Type} (f : ε → ControlFailure) (body : Body Authority ε α) :
    Body Authority ControlFailure Unit := fun s =>
  match body s with
  | .ok (_, s') => .ok ((), s')
  | .error e => .error (f e)

theorem ignoring_eq_ok {ε α : Type} {f : ε → ControlFailure} {body : Body Authority ε α}
    {s s' : Authority} : ignoring f body s = .ok ((), s') ↔ ∃ a, body s = .ok (a, s') := by
  unfold ignoring
  rcases body s with e | ⟨a, s''⟩ <;> simp

def Command.body : Command → Body Authority ControlFailure Unit
  | requestIntervention scope request => ignoring id (Control.requestIntervention scope request)
  | appendTransition scope transition expected =>
    ignoring id (Control.appendTransition scope transition expected)
  | appendReview scope review => ignoring id (Control.appendReview scope review)
  | appendDecision scope decision => ignoring id (Control.appendDecision scope decision)
  | preparePlanEntry plan authorized => ignoring id (Control.preparePlanEntry plan authorized)
  | approvePlanEntry scope decision expected authorized =>
    ignoring id (Control.approvePlanEntry scope decision expected authorized)
  | persist command authorized => ignoring id (Control.persist command authorized)
  | persistOperation answers operation authorized =>
    ignoring id (Control.persistOperation answers operation authorized)
  | save answers scope aggregate arguments =>
    ignoring .execution (Control.save answers scope aggregate arguments)

/-- A call: what the caller gets, and the store it leaves. -/
def Command.call (c : Command) (s : Authority) : Except ControlFailure Unit × Authority :=
  transaction c.body s

/-- The store after a sequence of calls. -/
def run (cs : List Command) (s : Authority) : Authority := cs.foldl (fun s c => (c.call s).2) s

@[simp] theorem run_nil (s : Authority) : run [] s = s := rfl

theorem run_cons (c : Command) (cs : List Command) (s : Authority) :
    run (c :: cs) s = run cs (c.call s).2 := rfl

theorem run_append (cs ds : List Command) (s : Authority) :
    run (cs ++ ds) s = run ds (run cs s) := by
  simp [run]

/-- **A call that raises changes no row.** -/
theorem call_error {c : Command} {s : Authority} {e : ControlFailure}
    (h : (c.call s).1 = .error e) : (c.call s).2 = s := by
  rcases transaction_cases c.body s with ⟨a, s', -, ht⟩ | ⟨e', -, ht⟩
  · rw [Command.call, ht] at h
    cases h
  · rw [Command.call, ht]

/-- An invariant of every committed command is an invariant of every run. -/
theorem run_induction {P : Authority → Prop} {allowed : Command → Prop}
    (step : ∀ c s s', allowed c → P s → c.body s = .ok ((), s') → P s') {cs : List Command}
    (hcs : ∀ c ∈ cs, allowed c) {s : Authority} (hs : P s) : P (run cs s) := by
  induction cs generalizing s with
  | nil => exact hs
  | cons c cs ih =>
    show P (run cs (c.call s).2)
    apply ih fun d hd => hcs d (List.mem_cons_of_mem _ hd)
    exact transaction_state hs fun _ s' => step c s s' (hcs c List.mem_cons_self) hs

/-! ### Frames -/

/-- Commands on the intervention ledger alone. -/
def Command.ledgerOnly : Command → Bool
  | .requestIntervention .. | .appendTransition .. | .appendReview .. | .appendDecision .. => true
  | _ => false

theorem body_ledgerOnly {c : Command} {s s' : Authority} (hc : c.ledgerOnly = true)
    (h : c.body s = .ok ((), s')) : s' = { s with ledger := s'.ledger } := by
  cases c <;> simp only [Command.ledgerOnly, Bool.false_eq_true] at hc <;>
    obtain ⟨a, h⟩ := ignoring_eq_ok.mp h
  case requestIntervention =>
    unfold Control.requestIntervention at h
    simp only [bind_eq_ok] at h
    obtain ⟨_, -, _, -, h⟩ := h
    cases h
    rfl
  case appendTransition =>
    unfold Control.appendTransition at h
    simp only [bind_eq_ok, ite_error_eq_ok'] at h
    obtain ⟨_, -, -, h⟩ := h
    split at h
    · cases h
    · simp only [ite_error_eq_ok', bind_eq_ok] at h
      obtain ⟨-, _, -, h⟩ := h
      cases h
      rfl
  case appendReview =>
    unfold Control.appendReview at h
    simp only [bind_eq_ok, ite_error_eq_ok'] at h
    obtain ⟨-, -, _, -, h⟩ := h
    cases h
    rfl
  case appendDecision =>
    unfold Control.appendDecision at h
    simp only [ite_error_eq_ok'] at h
    obtain ⟨-, h⟩ := h
    split at h
    · cases h
    · simp only [ite_error_eq_ok', bind_eq_ok] at h
      obtain ⟨-, _, -, h⟩ := h
      cases h
      rfl

/-- Commands on the plans alone. -/
def Command.plansOnly : Command → Bool
  | .preparePlanEntry .. | .approvePlanEntry .. => true
  | _ => false

theorem body_plansOnly {c : Command} {s s' : Authority} (hc : c.plansOnly = true)
    (h : c.body s = .ok ((), s')) : s' = { s with plans := s'.plans } := by
  cases c <;> simp only [Command.plansOnly, Bool.false_eq_true] at hc <;>
    obtain ⟨a, h⟩ := ignoring_eq_ok.mp h
  case preparePlanEntry =>
    unfold Control.preparePlanEntry at h
    simp only [ite_error_eq_ok', bind_eq_ok] at h
    obtain ⟨-, -, _, -, h⟩ := h
    cases h
    rfl
  case approvePlanEntry =>
    unfold Control.approvePlanEntry at h
    simp only [ite_error_eq_ok', bind_eq_ok] at h
    obtain ⟨-, -, -, _, -, h⟩ := h
    cases h
    rfl

/-- `persist` writes plans, interventions, targets and the journal. -/
theorem persist_frame {c : AtomicControlCommand} {authorized : Bool} {s s' : Authority}
    {r : AtomicControlResult} (h : persist c authorized s = .ok (r, s')) :
    s' = { s with
      plans := s'.plans
      ledger := s'.ledger
      targets := s'.targets
      journal := s'.journal } := by
  unfold persist at h
  simp only [ite_error_eq_ok'] at h
  obtain ⟨-, -, h⟩ := h
  split at h
  · obtain ⟨_, -, he⟩ := map_eq_ok.mp h
    cases he
    rfl
  · simp only [ite_error_eq_ok', bind_eq_ok, orRaise_eq_ok] at h
    obtain ⟨-, _, -, _, -, _, -, _, -, -, h⟩ := h
    cases h
    rfl

/-- No command writes the dispatch ledger or the rows of other components. -/
theorem body_dispatch {c : Command} {s s' : Authority} (h : c.body s = .ok ((), s')) :
    s'.dispatchCommands = s.dispatchCommands ∧ s'.references = s.references := by
  by_cases hl : c.ledgerOnly = true
  · rw [body_ledgerOnly hl h]
    exact ⟨rfl, rfl⟩
  by_cases hp : c.plansOnly = true
  · rw [body_plansOnly hp h]
    exact ⟨rfl, rfl⟩
  cases c <;> simp only [Command.ledgerOnly, Command.plansOnly, not_true_eq_false] at hl hp <;>
    obtain ⟨_, h⟩ := ignoring_eq_ok.mp h
  case persist =>
    rw [persist_frame h]
    exact ⟨rfl, rfl⟩
  case persistOperation =>
    obtain ⟨-, -, -, ⟨_, -, -, rfl⟩ | ⟨-, h⟩⟩ := persistOperation_cases h
    · exact ⟨rfl, rfl⟩
    · obtain ⟨_, _, _, _, _, _, _, _, -, -, rfl⟩ := runOperation_spec h
      exact ⟨rfl, rfl⟩
  case save =>
    obtain ⟨-, _, _, _, -, -, -, he⟩ := save_spec h
    rw [he]
    exact ⟨rfl, rfl⟩

end Runs

end Control

end AgentPlatform
