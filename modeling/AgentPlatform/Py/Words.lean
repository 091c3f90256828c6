/-
AgentPlatform/Py/Words.lean

`" ".join(s.split())`: the words of a text, one space between them.

White space never takes part in a composition, so that replacing it keeps a
normalised text normalised; `Whitespace` adds this fact to the ones about
`unicodedata.normalize` (`nfc_collapse_nfc`).
-/
import AgentPlatform.Py.Text

namespace Py

/-- The words of a text; `word` holds the characters of the word that is open, the
last one first. -/
def wordsFrom (word : List Char) : List Char → List (List Char)
  | [] => if word = [] then [] else [word.reverse]
  | c :: cs =>
    if isSpace c then
      if word = [] then wordsFrom [] cs else word.reverse :: wordsFrom [] cs
    else wordsFrom (c :: word) cs

def split (s : String) : List String := (wordsFrom [] s.toList).map String.ofList

/-- `" ".join(s.split())`. -/
def collapse (s : String) : String := " ".intercalate (split s)

/-! ### Splitting what was joined -/

theorem wordsFrom_space {word w cs : List Char} (hw : ∀ c ∈ w, isSpace c = false) (hne : word ≠ [] ∨ w ≠ []) :
    wordsFrom word (w ++ ' ' :: cs) = (word.reverse ++ w) :: wordsFrom [] cs := by
  induction w generalizing word with
  | nil =>
    have hword : word ≠ [] := hne.resolve_right fun h => h rfl
    have hspace : isSpace ' ' = true := by decide
    rw [List.nil_append, wordsFrom, if_pos hspace, if_neg hword, List.append_nil]
  | cons c w ih =>
    have hc : ¬ isSpace c = true := by simp [hw c List.mem_cons_self]
    rw [List.cons_append, wordsFrom, if_neg hc,
      ih (fun d hd => hw d (List.mem_cons_of_mem _ hd)) (.inl (List.cons_ne_nil _ _)), List.reverse_cons,
      List.append_assoc, List.singleton_append]

theorem wordsFrom_last {word w : List Char} (hw : ∀ c ∈ w, isSpace c = false) (hne : word ≠ [] ∨ w ≠ []) :
    wordsFrom word w = [word.reverse ++ w] := by
  induction w generalizing word with
  | nil =>
    have hword : word ≠ [] := hne.resolve_right fun h => h rfl
    rw [wordsFrom, if_neg hword, List.append_nil]
  | cons c w ih =>
    have hc : ¬ isSpace c = true := by simp [hw c List.mem_cons_self]
    rw [wordsFrom, if_neg hc, ih (fun d hd => hw d (List.mem_cons_of_mem _ hd)) (.inl (List.cons_ne_nil _ _)),
      List.reverse_cons, List.append_assoc, List.singleton_append]

/-- Words are not empty and hold no white space. -/
theorem wordsFrom_spec {word cs : List Char} (hword : ∀ c ∈ word, isSpace c = false) :
    ∀ w ∈ wordsFrom word cs, w ≠ [] ∧ ∀ c ∈ w, isSpace c = false := by
  have hreverse : ∀ {word : List Char}, (∀ c ∈ word, isSpace c = false) → word ≠ [] →
      word.reverse ≠ [] ∧ ∀ c ∈ word.reverse, isSpace c = false := fun hall hne =>
    ⟨fun h => hne (List.reverse_eq_nil_iff.mp h), fun c hc => hall c (List.mem_reverse.mp hc)⟩
  induction cs generalizing word with
  | nil =>
    intro w hw
    rw [wordsFrom] at hw
    split at hw
    · cases hw
    · next hne =>
      rw [List.mem_singleton.mp hw]
      exact hreverse hword hne
  | cons d cs ih =>
    intro w hw
    have hnil : ∀ c ∈ ([] : List Char), isSpace c = false := fun c hc => absurd hc List.not_mem_nil
    rw [wordsFrom] at hw
    split at hw
    · split at hw
      · exact ih hnil w hw
      · next hne =>
        rcases List.mem_cons.mp hw with rfl | hw
        · exact hreverse hword hne
        · exact ih hnil w hw
    · next hd =>
      apply ih _ w hw
      intro c hc
      rcases List.mem_cons.mp hc with rfl | hc
      · exact Bool.not_eq_true _ ▸ hd
      · exact hword c hc

/-- **Words joined by spaces** are split into the same words. -/
theorem wordsFrom_intercalate {ws : List (List Char)} (h : ∀ w ∈ ws, w ≠ [] ∧ ∀ c ∈ w, isSpace c = false) :
    wordsFrom [] ([' '].intercalate ws) = ws := by
  induction ws with
  | nil => rfl
  | cons w ws ih =>
    obtain ⟨hne, hw⟩ := h w List.mem_cons_self
    rcases ws with - | ⟨w', ws⟩
    · have hone : [' '].intercalate [w] = w := by simp [List.intercalate]
      rw [hone, wordsFrom_last hw (.inr hne), List.reverse_nil, List.nil_append]
    · show wordsFrom [] (w ++ ' ' :: [' '].intercalate (w' :: ws)) = _
      rw [wordsFrom_space hw (.inr hne), ih fun u hu => h u (List.mem_cons_of_mem _ hu), List.reverse_nil,
        List.nil_append]

theorem toList_collapse (s : String) : (collapse s).toList = [' '].intercalate (wordsFrom [] s.toList) := by
  have htexts : (split s).map String.toList = wordsFrom [] s.toList := by
    rw [split, List.map_map]
    refine (List.map_congr_left fun w _ => ?_).trans (List.map_id _)
    exact String.toList_ofList
  rw [collapse, String.toList_intercalate, htexts]
  rfl

/-- **A collapsed text stays as it is.** -/
theorem collapse_collapse (s : String) : collapse (collapse s) = collapse s := by
  have hsplit : split (collapse s) = split s := by
    rw [split, toList_collapse, wordsFrom_intercalate (wordsFrom_spec fun c hc => absurd hc List.not_mem_nil)]
    rfl
  rw [collapse, hsplit]
  rfl

/-- `unicodedata.normalize("NFC", ·)` on texts whose white space is replaced. -/
class Whitespace extends Unicodedata where
  nfc_collapse_nfc : ∀ s, nfc (collapse (nfc s)) = collapse (nfc s)

/-- On texts that are already in normal form normalisation is the identity. -/
@[reducible] def Whitespace.identity : Whitespace where
  toUnicodedata := .identity
  nfc_collapse_nfc _ := rfl

/-! ### A character with a canonical equivalent -/

/-- KELVIN SIGN is canonically equivalent to the letter K. -/
def foldKelvin (c : Char) : Char := if c = '\u212a' then 'K' else c

/-- Normalisation of texts in which KELVIN SIGN is the only character that is not in
normal form. -/
def nfcKelvin (s : String) : String := String.ofList (s.toList.map foldKelvin)

theorem nfcKelvin_of_not_mem {s : String} (h : '\u212a' ∉ s.toList) : nfcKelvin s = s := by
  have hmap : s.toList.map foldKelvin = s.toList := by
    refine (List.map_congr_left fun c hc => ?_).trans (List.map_id _)
    refine if_neg ?_
    rintro rfl
    exact h hc
  rw [nfcKelvin, hmap, String.ofList_toList]

theorem not_mem_nfcKelvin (s : String) : '\u212a' ∉ (nfcKelvin s).toList := by
  rw [nfcKelvin, String.toList_ofList, List.mem_map]
  rintro ⟨c, -, hc⟩
  rw [foldKelvin] at hc
  split at hc
  · cases hc
  · rename_i hne
    exact hne hc

theorem mem_of_mem_strip {c : Char} {s : String} (h : c ∈ (strip s).toList) : c ∈ s.toList := by
  rw [strip, String.toList_ofList, stripRight, List.mem_reverse] at h
  exact List.dropWhile_subset _ (List.mem_reverse.mp (List.dropWhile_subset _ h))

theorem mem_of_mem_wordsFrom {c : Char} {word cs w : List Char} (hw : w ∈ wordsFrom word cs)
    (hc : c ∈ w) : c ∈ word ∨ c ∈ cs := by
  induction cs generalizing word with
  | nil =>
    rw [wordsFrom] at hw
    split at hw
    · exact absurd hw List.not_mem_nil
    · rw [List.mem_singleton.mp hw, List.mem_reverse] at hc
      exact .inl hc
  | cons d cs ih =>
    have hempty : w ∈ wordsFrom [] cs → c ∈ word ∨ c ∈ d :: cs := fun hw =>
      .inr (List.mem_cons_of_mem _ ((ih hw).resolve_left List.not_mem_nil))
    rw [wordsFrom] at hw
    split at hw
    · split at hw
      · exact hempty hw
      · rcases List.mem_cons.mp hw with rfl | hw
        · exact .inl (List.mem_reverse.mp hc)
        · exact hempty hw
    · rcases ih hw with h | h
      · rcases List.mem_cons.mp h with rfl | h
        · exact .inr List.mem_cons_self
        · exact .inl h
      · exact .inr (List.mem_cons_of_mem _ h)

theorem mem_of_mem_collapse {c : Char} {s : String} (h : c ∈ (collapse s).toList) :
    c ∈ s.toList ∨ c = ' ' := by
  have key : ∀ {ws : List (List Char)}, c ∈ ([' '].intercalate ws) → (∃ w ∈ ws, c ∈ w) ∨ c = ' ' := by
    intro ws hc
    induction ws with
    | nil => exact absurd hc List.not_mem_nil
    | cons w ws ih =>
      rcases ws with - | ⟨w', ws⟩
      · have hw : c ∈ w := by simpa [List.intercalate] using hc
        exact .inl ⟨w, List.mem_cons_self, hw⟩
      · have hw : c ∈ w ++ ' ' :: [' '].intercalate (w' :: ws) := hc
        rcases List.mem_append.mp hw with hw | hw
        · exact .inl ⟨w, List.mem_cons_self, hw⟩
        · rcases List.mem_cons.mp hw with hw | hw
          · exact .inr hw
          · exact (ih hw).imp_left fun ⟨u, hu, hc⟩ => ⟨u, List.mem_cons_of_mem _ hu, hc⟩
  rw [collapse, String.toList_intercalate, split, List.map_map] at h
  rcases key h with ⟨w, hw, hc⟩ | hc
  · obtain ⟨w', hw', rfl⟩ := List.mem_map.mp hw
    rw [Function.comp_apply, String.toList_ofList] at hc
    exact .inl ((mem_of_mem_wordsFrom hw' hc).resolve_left List.not_mem_nil)
  · exact .inr hc

@[reducible] def Whitespace.kelvin : Whitespace where
  nfc := nfcKelvin
  nfc_nfc s := nfcKelvin_of_not_mem (not_mem_nfcKelvin s)
  nfc_strip_nfc s := nfcKelvin_of_not_mem fun h => not_mem_nfcKelvin s (mem_of_mem_strip h)
  nfc_ascii s h := nfcKelvin_of_not_mem fun hmem => absurd (h _ hmem) (by decide)
  nfc_collapse_nfc s := nfcKelvin_of_not_mem fun h =>
    (mem_of_mem_collapse h).elim (not_mem_nfcKelvin s) (by decide)

example : collapse " a\t b\x0bc  " = "a b c" := by decide +kernel

end Py
