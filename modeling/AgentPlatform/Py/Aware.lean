/-
AgentPlatform/Py/Aware.lean

Aware Python datetimes with their offset from UTC, as the application handles
them.
-/
import AgentPlatform.Py.Isoformat

namespace Py

open Datetime (microsPerDay)

/-- An aware datetime: the local clock and the offset, in microseconds. -/
structure Aware where
  clock : Datetime
  offset : Int
  lower : -(microsPerDay : Int) < offset
  upper : offset < microsPerDay
  deriving DecidableEq

namespace Aware

def utc (t : Datetime) : Aware := ⟨t, 0, by decide, by decide⟩

end Aware

end Py
