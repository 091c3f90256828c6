/-
AgentPlatform/Py/CanonicalJson.lean

Canonical JSON texts: every text in the value is brought to NFC, keys are
sorted, and what is left is written without spaces.
-/
import AgentPlatform.Py.Hash
import AgentPlatform.Py.Json
import AgentPlatform.Py.Text

namespace Py
namespace Json

section Canonical

variable [Unicodedata]

mutual

/-- All texts of a value in NFC; the keys stay as they are. -/
def normalized : Json → Json
  | null => null
  | bool b => bool b
  | int n => int n
  | str s => str (nfc s)
  | arr items => arr (normalizedItems items)
  | obj fields => obj (normalizedFields fields)

def normalizedItems : List Json → List Json
  | [] => []
  | v :: vs => normalized v :: normalizedItems vs

def normalizedFields : List (String × Json) → List (String × Json)
  | [] => []
  | (k, v) :: fs => (k, normalized v) :: normalizedFields fs

end

/-- The canonical text of a value. -/
def canonical (v : Json) : String := dumps false (normalized v)

/-- The digest of the canonical text. -/
def canonicalDigest (v : Json) : String := sha256 (canonical v)

end Canonical

end Json
end Py
