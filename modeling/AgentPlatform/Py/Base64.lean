/-
AgentPlatform/Py/Base64.lean

`base64.urlsafe_b64encode` without its padding, and `urlsafe_b64decode`, which
is lenient: it passes over characters outside the alphabet and stops at the
padding (`binascii.a2b_base64`). Main result: what is encoded is decoded again
once the padding is restored (`decode_encode`).
-/
import AgentPlatform.Py.Chars

namespace Py

namespace Base64

/-- The URL-safe alphabet. -/
def alphabet : List Char :=
  "ABCDEFGHIJKLMNOPQRSTUVWXYZabcdefghijklmnopqrstuvwxyz0123456789-_".toList

def digit (n : Nat) : Char := alphabet.getD n 'A'

/-- The value of a character; the two characters that the URL-safe alphabet
replaces count too. -/
def value (c : Char) : Option Nat :=
  if c = '+' then some 62
  else if c = '/' then some 63
  else if c ∈ alphabet then some (alphabet.idxOf c)
  else none

/-- `base64.urlsafe_b64encode(data).rstrip(b"=")`. -/
def encode : List UInt8 → List Char
  | a :: b :: c :: rest =>
    digit (a.toNat / 4) :: digit (a.toNat % 4 * 16 + b.toNat / 16)
      :: digit (b.toNat % 16 * 4 + c.toNat / 64) :: digit (c.toNat % 64) :: encode rest
  | [a, b] =>
    [digit (a.toNat / 4), digit (a.toNat % 4 * 16 + b.toNat / 16), digit (b.toNat % 16 * 4)]
  | [a] => [digit (a.toNat / 4), digit (a.toNat % 4 * 16)]
  | [] => []

/-- `binascii.a2b_base64`: the position in a group of four, the bits left over
from the last character, and the padding seen. -/
def decodeFrom : Nat → Nat → Nat → List Char → Option (List UInt8)
  | position, _, _, [] => if position = 0 then some [] else none
  | position, left, pads, c :: cs =>
    if c = '=' then
      if 2 ≤ position then
        if 4 ≤ position + (pads + 1) then some [] else decodeFrom position left (pads + 1) cs
      else decodeFrom position left pads cs
    else
      match value c with
      | none => decodeFrom position left pads cs
      | some v =>
        match position with
        | 0 => decodeFrom 1 v 0 cs
        | 1 => (decodeFrom 2 (v % 16) 0 cs).map (UInt8.ofNat (left * 4 + v / 16) :: ·)
        | 2 => (decodeFrom 3 (v % 4) 0 cs).map (UInt8.ofNat (left * 16 + v / 4) :: ·)
        | _ => (decodeFrom 0 0 0 cs).map (UInt8.ofNat (left * 64 + v) :: ·)

/-- `base64.urlsafe_b64decode(text)`; text outside ASCII is refused. -/
def decode (text : List Char) : Option (List UInt8) :=
  if text.all fun c => c.toNat < 128 then decodeFrom 0 0 0 text else none

/-- `"=" * (-len(encoded) % 4)`. -/
def padding (text : List Char) : List Char := List.replicate ((4 - text.length % 4) % 4) '='

/-! ### Round trip -/

theorem value_digit {n : Nat} (h : n < 64) : value (digit n) = some n := by
  have key : ∀ n : Fin 64, value (digit n) = some n.val := by decide +kernel
  exact key ⟨n, h⟩

theorem digit_ne_pad (n : Nat) : digit n ≠ '=' := by
  have hmem : ∀ c ∈ alphabet, c ≠ '=' := by decide
  rw [digit, List.getD_eq_getElem?_getD]
  rcases h : alphabet[n]? with _ | c
  · decide
  · exact hmem c (List.mem_of_getElem? h)

section Digits

variable {n : Nat} (h : n < 64) (left pads : Nat) (cs : List Char)

include h

theorem decodeFrom_first : decodeFrom 0 left pads (digit n :: cs) = decodeFrom 1 n 0 cs := by
  simp only [decodeFrom, if_neg (digit_ne_pad n), value_digit h]

theorem decodeFrom_second : decodeFrom 1 left pads (digit n :: cs)
    = (decodeFrom 2 (n % 16) 0 cs).map (UInt8.ofNat (left * 4 + n / 16) :: ·) := by
  simp only [decodeFrom, if_neg (digit_ne_pad n), value_digit h]

theorem decodeFrom_third : decodeFrom 2 left pads (digit n :: cs)
    = (decodeFrom 3 (n % 4) 0 cs).map (UInt8.ofNat (left * 16 + n / 4) :: ·) := by
  simp only [decodeFrom, if_neg (digit_ne_pad n), value_digit h]

theorem decodeFrom_fourth : decodeFrom 3 left pads (digit n :: cs)
    = (decodeFrom 0 0 0 cs).map (UInt8.ofNat (left * 64 + n) :: ·) := by
  simp only [decodeFrom, if_neg (digit_ne_pad n), value_digit h]

end Digits

theorem ofNat_eq {n : Nat} {a : UInt8} (h : n = a.toNat) : UInt8.ofNat n = a := by
  rw [h, UInt8.ofNat_toNat]

/-- **What is encoded is decoded again.** -/
theorem decodeFrom_encode (bytes : List UInt8) :
    decodeFrom 0 0 0 (encode bytes ++ padding (encode bytes)) = some bytes := by
  fun_induction encode bytes with
  | case1 a b c rest ih =>
    have ha := a.toNat_lt
    have hb := b.toNat_lt
    have hc := c.toNat_lt
    have hpad : padding (digit (a.toNat / 4) :: digit (a.toNat % 4 * 16 + b.toNat / 16)
        :: digit (b.toNat % 16 * 4 + c.toNat / 64) :: digit (c.toNat % 64) :: encode rest)
        = padding (encode rest) := by
      simp only [padding, List.length_cons]
      congr 1
      omega
    rw [hpad]
    simp only [List.cons_append]
    rw [decodeFrom_first (by omega), decodeFrom_second (by omega), decodeFrom_third (by omega),
      decodeFrom_fourth (by omega), ih]
    simp only [Option.map_some]
    rw [ofNat_eq (a := a) (by omega), ofNat_eq (a := b) (by omega), ofNat_eq (a := c) (by omega)]
  | case2 a b =>
    have ha := a.toNat_lt
    have hb := b.toNat_lt
    show decodeFrom 0 0 0 (_ :: _ :: _ :: ['=']) = _
    have hend : ∀ left, decodeFrom 3 left 0 ['='] = some [] := fun _ => rfl
    rw [decodeFrom_first (by omega), decodeFrom_second (by omega), decodeFrom_third (by omega), hend]
    simp only [Option.map_some]
    rw [ofNat_eq (a := a) (by omega), ofNat_eq (a := b) (by omega)]
  | case3 a =>
    have ha := a.toNat_lt
    show decodeFrom 0 0 0 (_ :: _ :: ['=', '=']) = _
    have hend : ∀ left, decodeFrom 2 left 0 ['=', '='] = some [] := fun _ => rfl
    rw [decodeFrom_first (by omega), decodeFrom_second (by omega), hend]
    simp only [Option.map_some]
    rw [ofNat_eq (a := a) (by omega)]
  | case4 => rfl

/-- Four characters for three bytes, and no padding. -/
theorem length_encode (bytes : List UInt8) : (encode bytes).length = (4 * bytes.length + 2) / 3 := by
  fun_induction encode bytes with
  | case1 a b c rest ih =>
    simp only [List.length_cons, ih]
    omega
  | case2 a b => simp only [List.length_cons, List.length_nil]
  | case3 a => simp only [List.length_cons, List.length_nil]
  | case4 => rfl

theorem mem_alphabet_of_mem_encode {bytes : List UInt8} {c : Char} (h : c ∈ encode bytes) :
    c ∈ alphabet := by
  have hdigit : ∀ n, digit n ∈ alphabet := by
    intro n
    rw [digit, List.getD_eq_getElem?_getD]
    rcases hn : alphabet[n]? with _ | c
    · decide
    · exact List.mem_of_getElem? hn
  fun_induction encode bytes with
  | case1 a b d rest ih =>
    simp only [List.mem_cons] at h
    rcases h with rfl | rfl | rfl | rfl | h
    · exact hdigit _
    · exact hdigit _
    · exact hdigit _
    · exact hdigit _
    · exact ih h
  | case2 a b =>
    simp only [List.mem_cons, List.not_mem_nil, or_false] at h
    rcases h with rfl | rfl | rfl <;> exact hdigit _
  | case3 a =>
    simp only [List.mem_cons, List.not_mem_nil, or_false] at h
    rcases h with rfl | rfl <;> exact hdigit _
  | case4 => cases h

theorem decode_encode (bytes : List UInt8) :
    decode (encode bytes ++ padding (encode bytes)) = some bytes := by
  have halphabet : ∀ c ∈ alphabet, c.toNat < 128 := by decide
  rw [decode, if_pos, decodeFrom_encode]
  rw [List.all_eq_true]
  intro c hc
  rw [decide_eq_true_eq]
  rcases List.mem_append.mp hc with hc | hc
  · exact halphabet c (mem_alphabet_of_mem_encode hc)
  · rw [List.eq_of_mem_replicate hc]
    decide

end Base64

end Py
