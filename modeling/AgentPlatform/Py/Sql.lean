/-
AgentPlatform/Py/Sql.lean

Truth in SQL: a condition is true, false or unknown, and a row is selected only
where its condition is true. `EXISTS` and `NOT EXISTS` are never unknown.
-/
import AgentPlatform.Py.Chars

namespace Py

/-- True, false, or `NULL`. -/
abbrev Truth := Option Bool

namespace Truth

/-- `a OR b`. -/
def or : Truth → Truth → Truth
  | some true, _ => some true
  | _, some true => some true
  | some false, some false => some false
  | _, _ => none

def not (a : Truth) : Truth := a.map (! ·)

/-- A comparison with a scalar subquery, unknown where that has no row. -/
def compare {α : Type*} (p : α → Bool) (o : Option α) : Truth := o.map p

theorem or_eq_true {a b : Truth} : or a b = some true ↔ a = some true ∨ b = some true := by
  rcases a with - | - | - <;> rcases b with - | - | - <;> decide

theorem some_or {a : Bool} {b : Truth} : or (some a) b = some true ↔ a = true ∨ b = some true := by
  rw [or_eq_true, Option.some_inj]

theorem not_eq_true {a : Truth} : not a = some true ↔ a = some false := by
  rcases a with - | - | - <;> decide

theorem or_eq_false {a b : Truth} : or a b = some false ↔ a = some false ∧ b = some false := by
  rcases a with - | - | - <;> rcases b with - | - | - <;> decide

end Truth

end Py
