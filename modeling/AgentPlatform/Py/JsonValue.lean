/-
AgentPlatform/Py/JsonValue.lean

Built-in functions of Python on decoded JSON values, as a program applies them
to fields that it has not checked: `bool` and iteration.
-/
import AgentPlatform.Py.Json
import AgentPlatform.Py.Text

namespace Py

/-- The exceptions of the built-in functions. -/
inductive Raised
  | typeError
  | valueError
  deriving DecidableEq

namespace Json

/-- `bool(value)`. -/
def truthy : Json → Bool
  | null => false
  | bool b => b
  | int n => n ≠ 0
  | str s => s ≠ ""
  | arr items => !items.isEmpty
  | obj fields => !fields.isEmpty

/-- `iter(value)`: the characters of a string, the keys of a dictionary. -/
def iterate : Json → Except Raised (List Json)
  | arr items => .ok items
  | obj fields => .ok (fields.map fun p => str p.1)
  | str s => .ok (s.toList.map fun c => str c.toString)
  | _ => .error .typeError

end Json

end Py
