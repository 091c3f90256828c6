/-
AgentPlatform/Execution/Retry.lean

`execute_with_retry`: an operation is called again after retryable errors, within a
total deadline.

Time is rational. The clock is an arbitrary sequence of readings, one for each call of
`time.monotonic`, and the operation an arbitrary sequence of outcomes, so that a run is a
function of both; it keeps a log of its readings, calls and sleeps. **Main result:**
`retry_within_budget`.
-/
import Mathlib

namespace AgentPlatform

namespace Retry

/-- `TaskExecutionError`. -/
structure TaskExecutionError where
  reason : String
  message : String
  retryable : Bool
  deriving DecidableEq, Repr

def executionTimeoutError : TaskExecutionError :=
  ⟨"ExecutionTimeout", "task execution deadline exceeded", false⟩

def rateLimitInitialBackoffSeconds : ℚ := 5

def calculateBackoffSeconds (error : TaskExecutionError) (attempt : Nat) (initialBackoffSeconds : ℚ) : ℚ :=
  let baseBackoffSeconds := if error.reason = "RateLimited" then
      max initialBackoffSeconds rateLimitInitialBackoffSeconds
    else initialBackoffSeconds
  baseBackoffSeconds * 2 ^ (attempt - 1)

/-! ### Runs -/

/-- What a call of the operation comes to. -/
inductive Outcome
  | result (text : String)
  | error (e : TaskExecutionError)
  deriving DecidableEq, Repr

/-- How `execute_with_retry` ends. -/
inductive Ending
  | returned (result : String) (attempts : Nat)
  | exhausted (error : TaskExecutionError) (attempts : Nat)
  | valueError (message : String)
  | runtimeError (message : String)
  deriving DecidableEq, Repr

/-- What a run does: it reads the clock, calls the operation with the remaining time, or
sleeps. -/
inductive Event
  | reads (time : ℚ)
  | call (remainingSeconds : ℚ) (outcome : Outcome)
  | sleep (seconds : ℚ)
  deriving DecidableEq

def Event.isCall : Event → Bool
  | .call _ _ => true
  | _ => false

section Loop

variable (clock : Nat → ℚ) (operation : Nat → ℚ → Outcome) (deadline initialBackoffSeconds : ℚ) (maxAttempts : Nat)

/-- The loop `for attempt in range(attempt, max_attempts + 1)`, of which `left` rounds are
left; `reading` is the number of the next reading of the clock. -/
def attempts : (left attempt reading : Nat) → Ending × List Event
  | 0, _, _ => (.runtimeError "retry loop exited unexpectedly", [])
  | left + 1, attempt, reading =>
    let remaining := deadline - clock reading
    if remaining ≤ 0 then (.exhausted executionTimeoutError (attempt - 1), [.reads (clock reading)])
    else
      let outcome := operation attempt remaining
      match outcome with
      | .result text => (.returned text attempt, [.reads (clock reading), .call remaining outcome])
      | .error e =>
        if e.retryable = false ∨ attempt = maxAttempts then
          (.exhausted e attempt, [.reads (clock reading), .call remaining outcome])
        else
          let backoff := calculateBackoffSeconds e attempt initialBackoffSeconds
          let now := clock (reading + 1)
          if deadline - now ≤ backoff then
            (.exhausted executionTimeoutError attempt, [.reads (clock reading), .call remaining outcome, .reads now])
          else
            let rest := attempts left (attempt + 1) (reading + 2)
            (rest.1, .reads (clock reading) :: .call remaining outcome :: .reads now :: .sleep backoff :: rest.2)

end Loop

def executeWithRetry (clock : Nat → ℚ) (operation : Nat → ℚ → Outcome) (timeoutSeconds : ℚ) (maxAttempts : Int)
    (initialBackoffSeconds : ℚ) : Ending × List Event :=
  if maxAttempts < 1 then (.valueError "max_attempts must be at least 1", [])
  else if timeoutSeconds ≤ 0 then (.valueError "timeout_seconds must be greater than 0", [])
  else
    let run := attempts clock operation (clock 0 + timeoutSeconds) initialBackoffSeconds maxAttempts.toNat
      maxAttempts.toNat 1 1
    (run.1, .reads (clock 0) :: run.2)

/-! ### The budget -/

/-- Nothing may come after this outcome. -/
def Outcome.isFinal : Outcome → Bool
  | .result _ => true
  | .error e => !e.retryable

/-- A log that keeps the budget, where `last` is the reading just before: a call starts
with the time that is left, which is positive, and a sleep fits into it; after a result
or an error that is not retryable nothing comes. -/
def WithinBudget (deadline : ℚ) : (last : Option ℚ) → List Event → Prop
  | _, [] => True
  | _, .reads time :: events => WithinBudget deadline (some time) events
  | last, .call remaining outcome :: events =>
    (∃ time, last = some time ∧ remaining = deadline - time ∧ 0 < remaining) ∧
      (outcome.isFinal = true → events = []) ∧ WithinBudget deadline none events
  | last, .sleep seconds :: events =>
    (∃ time, last = some time ∧ 0 < deadline - time ∧ 0 ≤ seconds ∧ seconds < deadline - time) ∧
      WithinBudget deadline none events

/-- The calls of a log. -/
def calls (events : List Event) : Nat := events.countP Event.isCall

@[simp] theorem calls_reads (time : ℚ) (events : List Event) : calls (.reads time :: events) = calls events :=
  List.countP_cons_of_neg Bool.false_ne_true

@[simp] theorem calls_sleep (seconds : ℚ) (events : List Event) : calls (.sleep seconds :: events) = calls events :=
  List.countP_cons_of_neg Bool.false_ne_true

@[simp] theorem calls_call (remaining : ℚ) (outcome : Outcome) (events : List Event) :
    calls (.call remaining outcome :: events) = calls events + 1 := List.countP_cons_of_pos rfl

/-- The attempts that an ending reports. -/
def Ending.attempts? : Ending → Option Nat
  | .returned _ n => some n
  | .exhausted _ n => some n
  | _ => none

section Budget

variable {clock : Nat → ℚ} {operation : Nat → ℚ → Outcome} {deadline initialBackoffSeconds : ℚ} {maxAttempts : Nat}

theorem calculateBackoffSeconds_nonneg (e : TaskExecutionError) (attempt : Nat) (h : 0 ≤ initialBackoffSeconds) :
    0 ≤ calculateBackoffSeconds e attempt initialBackoffSeconds := by
  have hbase : 0 ≤ if e.reason = "RateLimited" then max initialBackoffSeconds rateLimitInitialBackoffSeconds
      else initialBackoffSeconds := by
    split
    · exact le_max_of_le_left h
    · exact h
  exact mul_nonneg hbase (by positivity)

/-- **The rounds that are left** keep the budget; what they report are the calls before
them and their own. -/
theorem attempts_spec (hinitial : 0 ≤ initialBackoffSeconds) {left attempt : Nat} (reading : Nat) (hleft : 0 < left)
    (hattempt : 1 ≤ attempt) (htotal : attempt + left = maxAttempts + 1) (last : Option ℚ) :
    let run := attempts clock operation deadline initialBackoffSeconds maxAttempts left attempt reading
    WithinBudget deadline last run.2 ∧ calls run.2 ≤ left ∧
      run.1.attempts? = some (attempt - 1 + calls run.2) := by
  induction left generalizing attempt reading last with
  | zero => exact absurd hleft (lt_irrefl 0)
  | succ left ih =>
    rw [attempts]
    dsimp only
    split
    · -- the deadline has passed
      exact ⟨trivial, Nat.zero_le _, rfl⟩
    · next hpositive =>
      rw [not_le] at hpositive
      have hcall : ∃ time, some (clock reading) = some time ∧ deadline - clock reading = deadline - time ∧
          0 < deadline - clock reading := ⟨_, rfl, rfl, hpositive⟩
      have hreports : some attempt = some (attempt - 1 + 1) := by rw [Nat.sub_add_cancel hattempt]
      cases hout : operation attempt (deadline - clock reading) with
      | result text => exact ⟨⟨hcall, fun _ => rfl, trivial⟩, Nat.succ_le_succ (Nat.zero_le _), hreports⟩
      | error e =>
        dsimp only
        split
        · exact ⟨⟨hcall, fun _ => rfl, trivial⟩, Nat.succ_le_succ (Nat.zero_le _), hreports⟩
        · next hretry =>
          rw [not_or, Bool.not_eq_false] at hretry
          have hfinal : (Outcome.error e).isFinal = true → ∀ events : List Event, events = [] := fun h => by
            simp [Outcome.isFinal, hretry.1] at h
          split
          · exact ⟨⟨hcall, fun h => hfinal h _, trivial⟩, Nat.succ_le_succ (Nat.zero_le _), hreports⟩
          · next hfits =>
            rw [not_le] at hfits
            have hbackoff := calculateBackoffSeconds_nonneg e attempt hinitial
            have hsleep : ∃ time, some (clock (reading + 1)) = some time ∧ 0 < deadline - time ∧
                0 ≤ calculateBackoffSeconds e attempt initialBackoffSeconds ∧
                calculateBackoffSeconds e attempt initialBackoffSeconds < deadline - time :=
              ⟨_, rfl, by linarith, hbackoff, hfits⟩
            -- this was not the last attempt, so there is a round left
            obtain ⟨hkept, hcalls, hreported⟩ := ih (reading + 2) (by omega) (Nat.le_add_left 1 attempt) (by omega) none
            refine ⟨⟨hcall, fun h => hfinal h _, hsleep, hkept⟩, ?_, ?_⟩
            · simp only [calls_reads, calls_call, calls_sleep]
              exact Nat.succ_le_succ hcalls
            · simp only [calls_reads, calls_call, calls_sleep, hreported]
              congr 1
              omega

end Budget

/-- **Retry stays within its budget**: for every clock and every operation, the operation is
called at most `max_attempts` times, each call and sleep starts within the deadline, and
the attempts that are returned or reported are the calls; no other exception is raised. -/
theorem retry_within_budget (clock : Nat → ℚ) (operation : Nat → ℚ → Outcome) {timeoutSeconds initialBackoffSeconds : ℚ}
    {maxAttempts : Int} (hattempts : 1 ≤ maxAttempts) (htimeout : 0 < timeoutSeconds)
    (hinitial : 0 ≤ initialBackoffSeconds) :
    let run := executeWithRetry clock operation timeoutSeconds maxAttempts initialBackoffSeconds
    WithinBudget (clock 0 + timeoutSeconds) none run.2 ∧ (calls run.2 : Int) ≤ maxAttempts ∧
      run.1.attempts? = some (calls run.2) := by
  obtain ⟨hkept, hcalls, hreported⟩ := attempts_spec hinitial 1
    (show 0 < maxAttempts.toNat by omega) (le_refl 1) (Nat.add_comm 1 _) (some (clock 0))
  rw [executeWithRetry, if_neg (by omega), if_neg (not_le.mpr htimeout)]
  refine ⟨hkept, ?_, ?_⟩
  · simp only [calls_reads]
    omega
  · simp only [calls_reads, hreported, Nat.sub_self, Nat.zero_add]

/-- An operation that is refused once. -/
def refusedOnce (attempt : Nat) (_ : ℚ) : Outcome :=
  if attempt = 1 then .error ⟨"NetworkError", "unreachable", true⟩ else .result "done"

/-- Two attempts, with a clock that goes on by one second at each reading. -/
theorem retry_within_budget_of_two :
    let run := executeWithRetry (fun n => n) refusedOnce 30 3 1
    WithinBudget ((0 : Nat) + 30) none run.2 ∧ (calls run.2 : Int) ≤ 3 ∧ run.1.attempts? = some (calls run.2) :=
  retry_within_budget (fun n => n) refusedOnce (by decide) (by norm_num) (by norm_num)

example : executeWithRetry (fun n => n) refusedOnce 30 3 1
    = (.returned "done" 2, [.reads 0, .reads 1, .call 29 (.error ⟨"NetworkError", "unreachable", true⟩), .reads 2,
      .sleep 1, .reads 3, .call 27 (.result "done")]) := by decide +kernel

end Retry

end AgentPlatform
