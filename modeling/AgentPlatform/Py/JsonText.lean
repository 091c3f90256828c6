/-
AgentPlatform/Py/JsonText.lean

`json.dumps(value)` with its defaults: `ensure_ascii`, fields in the order of the
dictionary, and the separators `", "` and `": "`.

The length of the text does not depend on the order of a list (`spaced_length_arr`).
-/
import AgentPlatform.Py.Json

namespace Py
namespace Json

mutual

/-- `json.dumps(value)`. -/
def spaced : Json → List Char
  | null => "null".toList
  | bool true => "true".toList
  | bool false => "false".toList
  | int n => printInt n
  | str s => printStr true s
  | arr items => '[' :: (spacedItems items ++ [']'])
  | obj fields => '\x7b' :: (spacedFields fields ++ ['\x7d'])

def spacedItems : List Json → List Char
  | [] => []
  | [v] => spaced v
  | v :: w :: vs => spaced v ++ ',' :: ' ' :: spacedItems (w :: vs)

def spacedFields : List (String × Json) → List Char
  | [] => []
  | [(k, v)] => printStr true k ++ ':' :: ' ' :: spaced v
  | (k, v) :: f :: fs =>
      printStr true k ++ ':' :: ' ' :: (spaced v ++ ',' :: ' ' :: spacedFields (f :: fs))

end

example : spaced (obj [("b", arr [int 1, null]), ("a", str "é")])
    = "\x7b\"b\": [1, null], \"a\": \"\\u00e9\"\x7d".toList := by decide +kernel

/-! ### The length of a text -/

theorem spacedItems_length (vs : List Json) :
    (spacedItems vs).length = (vs.map fun v => (spaced v).length).sum + 2 * (vs.length - 1) := by
  induction vs with
  | nil => rfl
  | cons v vs ih =>
    cases vs with
    | nil => simp [spacedItems]
    | cons w vs =>
      rw [spacedItems, List.length_append, List.length_cons, List.length_cons, ih]
      simp only [List.map_cons, List.sum_cons, List.length_cons]
      omega

theorem spacedFields_length (fs : List (String × Json)) :
    (spacedFields fs).length
      = (fs.map fun p => (printStr true p.1).length + (spaced p.2).length + 2).sum
        + 2 * (fs.length - 1) := by
  induction fs with
  | nil => rfl
  | cons p fs ih =>
    obtain ⟨k, v⟩ := p
    cases fs with
    | nil =>
      simp [spacedFields]
      omega
    | cons f fs =>
      rw [spacedFields, List.length_append, List.length_cons, List.length_cons, List.length_append,
        List.length_cons, List.length_cons, ih]
      simp only [List.map_cons, List.sum_cons, List.length_cons]
      omega

/-- Lists with the same lengths of items, in any order. -/
theorem spaced_length_arr {vs ws : List Json}
    (h : (vs.map fun v => (spaced v).length).Perm (ws.map fun v => (spaced v).length)) :
    (spaced (arr vs)).length = (spaced (arr ws)).length := by
  have hlen : vs.length = ws.length := by simpa using h.length_eq
  rw [spaced, spaced, List.length_cons, List.length_cons, List.length_append, List.length_append,
    spacedItems_length, spacedItems_length, h.sum_nat, hlen]

/-- Objects with the same keys and the same lengths of values. -/
theorem spaced_length_obj {fs gs : List (String × Json)}
    (h : List.Forall₂ (fun p q => p.1 = q.1 ∧ (spaced p.2).length = (spaced q.2).length) fs gs) :
    (spaced (obj fs)).length = (spaced (obj gs)).length := by
  have hmap : fs.map (fun p => (printStr true p.1).length + (spaced p.2).length + 2)
      = gs.map fun p => (printStr true p.1).length + (spaced p.2).length + 2 := by
    induction h with
    | nil => rfl
    | cons hpq _ ih => rw [List.map_cons, List.map_cons, ih, hpq.1, hpq.2]
  rw [spaced, spaced, List.length_cons, List.length_cons, List.length_append, List.length_append,
    spacedFields_length, spacedFields_length, hmap, h.length_eq]

end Json
end Py
