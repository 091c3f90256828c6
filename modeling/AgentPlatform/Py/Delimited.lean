/-
AgentPlatform/Py/Delimited.lean

Lists joined by a separator that may also occur inside the parts.

A joined list says which pieces lie between its separators, but not which
separators joined and which ones were there before. `join_eq_join_iff`: two
lists of parts are joined alike exactly if they have the same pieces. **Main
result:** `join_determines_iff`. The join tells two lists of parts apart exactly
if they have different pieces, or carry the same number of separators in each
part.
-/
import Mathlib

namespace Py

variable {α : Type*} {sep : α} {ps qs : List (List α)}

def join (sep : α) (parts : List (List α)) : List α := [sep].intercalate parts

theorem join_cons (p : List α) (hps : ps ≠ []) : join sep (p :: ps) = p ++ sep :: join sep ps := by
  obtain ⟨q, qs, rfl⟩ := List.exists_cons_of_ne_nil hps
  simp [join, List.intercalate]

variable [DecidableEq α]

/-- What lies between the separators of all parts. -/
def pieces (sep : α) (parts : List (List α)) : List (List α) := parts.flatMap (List.splitOn sep)

/-- How many separators each part carries. -/
def separators (sep : α) (parts : List (List α)) : List Nat := parts.map (List.count sep)

/-- Splitting a joined list gives the pieces. -/
theorem splitOn_join (hps : ps ≠ []) : (join sep ps).splitOn sep = pieces sep ps := by
  induction ps with
  | nil => exact absurd rfl hps
  | cons p ps ih =>
    rw [pieces, List.flatMap_cons]
    rcases eq_or_ne ps [] with rfl | hne
    · simp [join, List.intercalate]
    · rw [join_cons p hne, List.splitOn_append_cons_self, ih hne, pieces]

/-- **Joined alike** means the same pieces. -/
theorem join_eq_join_iff (hps : ps ≠ []) (hqs : qs ≠ []) :
    join sep ps = join sep qs ↔ pieces sep ps = pieces sep qs := by
  rw [← splitOn_join hps, ← splitOn_join hqs]
  constructor
  · intro h
    rw [h]
  · intro h
    rw [← @List.intercalate_splitOn _ (join sep ps) _ _ sep, h, List.intercalate_splitOn]

/-- A part has one piece more than separators. -/
theorem length_splitOn (sep : α) (l : List α) : (l.splitOn sep).length = l.count sep + 1 := by
  induction l with
  | nil => rfl
  | cons a l ih =>
    rw [List.splitOn_eq_splitOnP, List.splitOnP_cons_eq_if_modifyHead, List.count_cons]
    rw [List.splitOn_eq_splitOnP] at ih
    by_cases h : (a == sep) = true
    · rw [if_pos h, if_pos h, List.length_cons, ih]
    · rw [if_neg h, if_neg h, List.length_modifyHead, ih]

/-- Pieces and separators determine the parts. -/
theorem eq_of_pieces (hpieces : pieces sep ps = pieces sep qs)
    (hseparators : separators sep ps = separators sep qs) : ps = qs := by
  induction ps generalizing qs with
  | nil => exact (List.map_eq_nil_iff.mp hseparators.symm).symm
  | cons p ps ih =>
    obtain ⟨q, qs, rfl⟩ : ∃ q rest, qs = q :: rest := by
      cases qs with
      | nil => cases hseparators
      | cons q qs => exact ⟨q, qs, rfl⟩
    obtain ⟨hcount, hrest⟩ := List.cons.inj hseparators
    -- as many separators, so as many pieces: the first parts end at the same place
    have hlength : (p.splitOn sep).length = (q.splitOn sep).length := by
      rw [length_splitOn, length_splitOn, hcount]
    obtain ⟨hfirst, hlater⟩ := List.append_inj hpieces hlength
    have hpq : p = q := by
      rw [← @List.intercalate_splitOn _ p _ _ sep, hfirst, List.intercalate_splitOn]
    rw [hpq, ih hlater hrest]

/-- **The join tells two lists of parts apart** exactly if their pieces differ or
their separators are in the same parts. -/
theorem join_determines_iff (hps : ps ≠ []) (hqs : qs ≠ []) :
    (join sep ps = join sep qs → ps = qs) ↔
      (pieces sep ps = pieces sep qs → separators sep ps = separators sep qs) := by
  rw [join_eq_join_iff hps hqs]
  constructor
  · intro h hpieces
    rw [h hpieces]
  · intro h hpieces
    exact eq_of_pieces hpieces (h hpieces)

end Py
