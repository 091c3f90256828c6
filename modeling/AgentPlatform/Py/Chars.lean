/-
AgentPlatform/Py/Chars.lean

The characters of a text.

A statement about all characters of a text can be decided in two ways: one goes
through the characters of the text, or through all characters there are. The
instances here make the first one the way that is taken.

A text is kept as its bytes. `ofChars` and `chars` go from characters to bytes and
back in one pass over the list, which matters where a text is evaluated; they are
`String.ofList` and `String.toList` (`ofChars_eq`, `chars_eq`).
-/
import Mathlib

namespace Py

/-- A statement about the characters of a text is decided character by character. -/
instance (priority := 2000) decidableForallMem (p : Char → Prop) [DecidablePred p] (l : List Char) :
    Decidable (∀ c ∈ l, p c) :=
  List.decidableBAll p l

instance (priority := 2000) decidableExistsMem (p : Char → Prop) [DecidablePred p] (l : List Char) :
    Decidable (∃ c ∈ l, p c) :=
  List.decidableBEx p l

/-! ### Characters and bytes -/

/-- The text of some characters, made from their bytes. -/
def ofChars (cs : List Char) : String :=
  ⟨⟨⟨cs.flatMap String.utf8EncodeChar⟩⟩, cs, by
    apply ByteArray.ext
    rw [List.utf8Encode, List.data_toByteArray]⟩

theorem ofChars_eq (cs : List Char) : ofChars cs = String.ofList cs := by
  apply String.toByteArray_inj.mp
  apply ByteArray.ext
  show (⟨cs.flatMap String.utf8EncodeChar⟩ : Array UInt8) = cs.utf8Encode.data
  rw [List.utf8Encode, List.data_toByteArray]

/-- The characters of a text. Those of an ASCII text are its bytes. -/
def chars (s : String) : List Char :=
  let bytes := s.toByteArray.data.toList
  if bytes.all fun b => b.toNat < 128 then bytes.map fun b => Char.ofNat b.toNat else s.toList

theorem utf8EncodeChar_of_lt {c : Char} (h : c.toNat < 128) :
    String.utf8EncodeChar c = [UInt8.ofNat c.toNat] := if_pos (Nat.le_of_lt_succ h)

theorem toNat_lt_of_utf8EncodeChar {c : Char} (h : ∀ b ∈ String.utf8EncodeChar c, b.toNat < 128) :
    c.toNat < 128 := by
  by_contra hc
  have hv : ¬ c.val.toNat ≤ 0x7f := by
    show ¬ c.toNat ≤ 127
    omega
  unfold String.utf8EncodeChar at h
  simp only [if_neg hv] at h
  split at h
  · have := h _ (List.mem_cons_self ..)
    simp at this
    omega
  · split at h
    all_goals
      have := h _ (List.mem_cons_self ..)
      simp at this
      omega

theorem toByteArray_eq (s : String) :
    s.toByteArray.data.toList = s.toList.flatMap String.utf8EncodeChar := by
  have h : (String.ofList s.toList).toByteArray.data.toList
      = s.toList.flatMap String.utf8EncodeChar := by
    show (s.toList.flatMap String.utf8EncodeChar).toByteArray.data.toList = _
    simp
  rwa [String.ofList_toList] at h

theorem chars_eq (s : String) : chars s = s.toList := by
  rw [chars, toByteArray_eq]
  show (if _ then _ else _) = _
  split
  case isFalse => rfl
  case isTrue h =>
    generalize s.toList = cs at h
    induction cs with
    | nil => rfl
    | cons c cs ih =>
      rw [List.flatMap_cons, List.all_append, Bool.and_eq_true, List.all_eq_true] at h
      have hc : c.toNat < 128 := toNat_lt_of_utf8EncodeChar fun b hb => of_decide_eq_true (h.1 b hb)
      rw [List.flatMap_cons, List.map_append, ih h.2, utf8EncodeChar_of_lt hc]
      have hbyte : (UInt8.ofNat c.toNat).toNat = c.toNat := Nat.mod_eq_of_lt (Nat.lt_trans hc (by decide))
      show Char.ofNat (UInt8.ofNat c.toNat).toNat :: cs = _
      rw [hbyte, Char.ofNat_toNat]

end Py
