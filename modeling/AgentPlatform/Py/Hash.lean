/-
AgentPlatform/Py/Hash.lean

`hashlib.sha256(text.encode()).hexdigest()`: the SHA-256 of the UTF-8 bytes of
a text, as 64 lower-case hexadecimal digits.

The function is the real one, so that a digest in the model is the digest the
program computes; no proof unfolds it. Collision freedom is never a fact
about it: a result that needs it assumes it, on the texts that are hashed
(`CollisionFreeOn`). What is proved is the shape of a digest
(`hexdigest_isHex64`).
-/
import AgentPlatform.Py.Chars

namespace Py

namespace Sha256

/-! ### The compression function

Words are numbers below 2 ^ 32. Every new word is evaluated when it is made, so that
a digest can be computed in a proof. -/

/-- `k x`, where `x` is evaluated first. -/
def evaluated {α : Type} (x : Nat) (k : Nat → α) : α :=
  match x with
  | 0 => k 0
  | n + 1 => k (n + 1)

def wrap (n : Nat) : Nat := n % 4294967296

/-- Fractional parts of the cube roots of the first 64 primes. -/
def roundConstants : List Nat :=
  [0x428a2f98, 0x71374491, 0xb5c0fbcf, 0xe9b5dba5, 0x3956c25b, 0x59f111f1,
    0x923f82a4, 0xab1c5ed5, 0xd807aa98, 0x12835b01, 0x243185be, 0x550c7dc3,
    0x72be5d74, 0x80deb1fe, 0x9bdc06a7, 0xc19bf174, 0xe49b69c1, 0xefbe4786,
    0x0fc19dc6, 0x240ca1cc, 0x2de92c6f, 0x4a7484aa, 0x5cb0a9dc, 0x76f988da,
    0x983e5152, 0xa831c66d, 0xb00327c8, 0xbf597fc7, 0xc6e00bf3, 0xd5a79147,
    0x06ca6351, 0x14292967, 0x27b70a85, 0x2e1b2138, 0x4d2c6dfc, 0x53380d13,
    0x650a7354, 0x766a0abb, 0x81c2c92e, 0x92722c85, 0xa2bfe8a1, 0xa81a664b,
    0xc24b8b70, 0xc76c51a3, 0xd192e819, 0xd6990624, 0xf40e3585, 0x106aa070,
    0x19a4c116, 0x1e376c08, 0x2748774c, 0x34b0bcb5, 0x391c0cb3, 0x4ed8aa4a,
    0x5b9cca4f, 0x682e6ff3, 0x748f82ee, 0x78a5636f, 0x84c87814, 0x8cc70208,
    0x90befffa, 0xa4506ceb, 0xbef9a3f7, 0xc67178f2]

/-- The eight working variables. -/
structure State where
  a : Nat
  b : Nat
  c : Nat
  d : Nat
  e : Nat
  f : Nat
  g : Nat
  h : Nat

/-- Fractional parts of the square roots of the first eight primes. -/
def initial : State :=
  ⟨0x6a09e667, 0xbb67ae85, 0x3c6ef372, 0xa54ff53a,
   0x510e527f, 0x9b05688c, 0x1f83d9ab, 0x5be0cd19⟩

def rotr (x n : Nat) : Nat := (x >>> n) ||| wrap (x <<< (32 - n))

def bigSigma0 (x : Nat) : Nat := rotr x 2 ^^^ rotr x 13 ^^^ rotr x 22
def bigSigma1 (x : Nat) : Nat := rotr x 6 ^^^ rotr x 11 ^^^ rotr x 25
def smallSigma0 (x : Nat) : Nat := rotr x 7 ^^^ rotr x 18 ^^^ (x >>> 3)
def smallSigma1 (x : Nat) : Nat := rotr x 17 ^^^ rotr x 19 ^^^ (x >>> 10)
def choose (x y z : Nat) : Nat := (x &&& y) ^^^ ((4294967295 - x) &&& z)
def majority (x y z : Nat) : Nat := (x &&& y) ^^^ (x &&& z) ^^^ (y &&& z)

/-- One round with schedule word `w` and constant `k`. -/
def round : State → Nat → Nat → State
  | ⟨a, b, c, d, e, f, g, h⟩, w, k =>
    evaluated (wrap (h + bigSigma1 e + choose e f g + k + w)) fun t1 =>
    evaluated (wrap (t1 + bigSigma0 a + majority a b c)) fun first =>
    evaluated (wrap (d + t1)) fun fifth => ⟨first, a, b, c, fifth, e, f, g⟩

/-- The sixteen schedule words in use. -/
structure Window where
  w0 : Nat
  w1 : Nat
  w2 : Nat
  w3 : Nat
  w4 : Nat
  w5 : Nat
  w6 : Nat
  w7 : Nat
  w8 : Nat
  w9 : Nat
  w10 : Nat
  w11 : Nat
  w12 : Nat
  w13 : Nat
  w14 : Nat
  w15 : Nat

/-- Drop the oldest word and add the next. -/
def slide (w : Window) : Window :=
  evaluated (wrap (smallSigma1 w.w14 + w.w9 + smallSigma0 w.w1 + w.w0)) fun next =>
    ⟨w.w1, w.w2, w.w3, w.w4, w.w5, w.w6, w.w7, w.w8, w.w9, w.w10, w.w11, w.w12, w.w13, w.w14, w.w15,
      next⟩

/-- The rounds over the remaining constants. -/
def rounds : List Nat → Window → State → State
  | [], _, s => s
  | k :: ks, window, s => rounds ks (slide window) (round s window.w0 k)

/-- Absorb one block of sixteen words. -/
def compress (s : State) (block : Window) : State :=
  let t := rounds roundConstants block s
  ⟨wrap (s.a + t.a), wrap (s.b + t.b), wrap (s.c + t.c), wrap (s.d + t.d), wrap (s.e + t.e),
    wrap (s.f + t.f), wrap (s.g + t.g), wrap (s.h + t.h)⟩

/-! ### Padding and blocks -/

def bigEndian64 (n : Nat) : List UInt8 :=
  [n / 2 ^ 56, n / 2 ^ 48, n / 2 ^ 40, n / 2 ^ 32, n / 2 ^ 24, n / 2 ^ 16, n / 2 ^ 8, n].map
    UInt8.ofNat

/-- A one bit, zeros up to 56 bytes modulo 64, and the length in bits. -/
def pad (bytes : List UInt8) : List UInt8 :=
  bytes ++ 0x80 :: (List.replicate ((119 - bytes.length % 64) % 64) 0
    ++ bigEndian64 (8 * bytes.length))

/-- Big-endian 32-bit words. -/
def words : List UInt8 → List Nat
  | w :: x :: y :: z :: rest =>
    evaluated (w.toNat * 16777216 + x.toNat * 65536 + y.toNat * 256 + z.toNat) fun n => n :: words rest
  | _ => []

/-- Absorb the first `n` blocks of sixteen words. -/
def absorb : Nat → List Nat → State → State
  | n + 1, w0 :: w1 :: w2 :: w3 :: w4 :: w5 :: w6 :: w7 :: w8 :: w9 :: w10 :: w11 :: w12 :: w13 :: w14
      :: w15 :: ws, s =>
    absorb n ws (compress s ⟨w0, w1, w2, w3, w4, w5, w6, w7, w8, w9, w10, w11, w12, w13, w14, w15⟩)
  | _, _, s => s

/-! ### The digest -/

def hex8 (x : Nat) : List Char :=
  [28, 24, 20, 16, 12, 8, 4, 0].map fun shift => Nat.digitChar ((x >>> shift) % 16)

def State.hex (s : State) : List Char :=
  hex8 s.a ++ hex8 s.b ++ hex8 s.c ++ hex8 s.d ++ hex8 s.e ++ hex8 s.f ++ hex8 s.g ++ hex8 s.h

end Sha256

/-- `text.encode()`: the bytes that a string is kept as. -/
def utf8 (text : String) : List UInt8 := text.toByteArray.data.toList

/-- They are the codes of its characters. -/
theorem utf8_eq (text : String) : utf8 text = text.toList.flatMap String.utf8EncodeChar :=
  toByteArray_eq text

/-- Decode UTF-8 with `k` continuation bytes of a character to come: `v` is its
value so far and `lower` the least value of its length. -/
def decodeFrom : Nat → Nat → Nat → List UInt8 → Option (List Char)
  | 0, _, _, [] => some []
  | _ + 1, _, _, [] => none
  | 0, _, _, b :: bs =>
    let n := b.toNat
    if n < 0x80 then (decodeFrom 0 0 0 bs).map (Char.ofNat n :: ·)
    else if 0xC0 ≤ n ∧ n < 0xE0 then decodeFrom 1 (n - 0xC0) 0x80 bs
    else if 0xE0 ≤ n ∧ n < 0xF0 then decodeFrom 2 (n - 0xE0) 0x800 bs
    else if 0xF0 ≤ n ∧ n < 0xF8 then decodeFrom 3 (n - 0xF0) 0x10000 bs
    else none
  | k + 1, v, lower, b :: bs =>
    let n := b.toNat
    let v := v * 64 + (n - 0x80)
    if n < 0x80 ∨ 0xC0 ≤ n then none
    else if 0 < k then decodeFrom k v lower bs
    else if lower ≤ v ∧ Nat.isValidChar v then (decodeFrom 0 0 0 bs).map (Char.ofNat v :: ·)
    else none

def decodeUtf8 (bytes : List UInt8) : Option String :=
  (decodeFrom 0 0 0 bytes).map String.ofList

theorem toNat_continuation {n : Nat} (h : n < 64) : (UInt8.ofNat (n + 128)).toNat = n + 128 := by
  rw [UInt8.toNat_ofNat']
  omega

theorem decodeFrom_more {k v lower n : Nat} (h : n < 64) (bs : List UInt8) :
    decodeFrom (k + 2) v lower (UInt8.ofNat (n + 128) :: bs)
      = decodeFrom (k + 1) (v * 64 + n) lower bs := by
  rw [decodeFrom]
  simp only [toNat_continuation h]
  rw [if_neg (by omega), if_pos (by omega), Nat.add_sub_cancel]

theorem decodeFrom_last {v lower n : Nat} (h : n < 64) (hl : lower ≤ v * 64 + n)
    (hv : (v * 64 + n).isValidChar) (bs : List UInt8) :
    decodeFrom 1 v lower (UInt8.ofNat (n + 128) :: bs)
      = (decodeFrom 0 0 0 bs).map (Char.ofNat (v * 64 + n) :: ·) := by
  rw [decodeFrom]
  simp only [toNat_continuation h]
  rw [if_neg (by omega), if_neg (by omega), Nat.add_sub_cancel, if_pos ⟨hl, hv⟩]

/-- The first byte of a character says how many follow. -/
theorem decodeFrom_utf8EncodeChar (c : Char) (bs : List UInt8) :
    decodeFrom 0 0 0 (String.utf8EncodeChar c ++ bs) = (decodeFrom 0 0 0 bs).map (c :: ·) := by
  have hv : c.val.toNat.isValidChar := c.valid
  have hc : Char.ofNat c.val.toNat = c := Char.ofNat_toNat c
  have hmax : c.val.toNat < 1114112 := by
    rcases hv with hv | hv <;> omega
  simp only [String.utf8EncodeChar]
  generalize c.val.toNat = v at *
  by_cases h₁ : v ≤ 127
  · have hb : (UInt8.ofNat v).toNat = v := by
      rw [UInt8.toNat_ofNat']
      omega
    rw [if_pos h₁, List.singleton_append, decodeFrom]
    simp only [hb]
    rw [if_pos (by omega), hc]
  rw [if_neg h₁]
  by_cases h₂ : v ≤ 2047
  · have hb : (UInt8.ofNat (v / 64 % 32 + 192)).toNat = v / 64 + 192 := by
      rw [UInt8.toNat_ofNat']
      omega
    have hsum : v / 64 * 64 + v % 64 = v := by omega
    rw [if_pos h₂, List.cons_append, List.singleton_append, decodeFrom]
    simp only [hb]
    rw [if_neg (by omega), if_pos (by omega), Nat.add_sub_cancel,
      decodeFrom_last (by omega) (by omega) (by rwa [hsum]), hsum, hc]
  rw [if_neg h₂]
  by_cases h₃ : v ≤ 65535
  · have hb : (UInt8.ofNat (v / 4096 % 16 + 224)).toNat = v / 4096 + 224 := by
      rw [UInt8.toNat_ofNat']
      omega
    have hsum : (v / 4096 * 64 + v / 64 % 64) * 64 + v % 64 = v := by omega
    rw [if_pos h₃]
    simp only [List.cons_append, List.nil_append]
    rw [decodeFrom]
    simp only [hb]
    rw [if_neg (by omega), if_neg (by omega), if_pos (by omega), Nat.add_sub_cancel,
      decodeFrom_more (by omega), decodeFrom_last (by omega) (by omega) (by rwa [hsum]), hsum, hc]
  · have hb : (UInt8.ofNat (v / 262144 % 8 + 240)).toNat = v / 262144 + 240 := by
      rw [UInt8.toNat_ofNat']
      omega
    have hsum : ((v / 262144 * 64 + v / 4096 % 64) * 64 + v / 64 % 64) * 64 + v % 64 = v := by
      omega
    rw [if_neg h₃]
    simp only [List.cons_append, List.nil_append]
    rw [decodeFrom]
    simp only [hb]
    rw [if_neg (by omega), if_neg (by omega), if_neg (by omega), if_pos (by omega),
      Nat.add_sub_cancel, decodeFrom_more (by omega), decodeFrom_more (by omega),
      decodeFrom_last (by omega) (by omega) (by rwa [hsum]), hsum, hc]

/-- **UTF-8 is read back.** -/
theorem decodeUtf8_utf8 (t : String) : decodeUtf8 (utf8 t) = some t := by
  have h : ∀ cs : List Char, decodeFrom 0 0 0 (cs.flatMap String.utf8EncodeChar) = some cs := by
    intro cs
    induction cs with
    | nil => rfl
    | cons c cs ih =>
      rw [List.flatMap_cons, decodeFrom_utf8EncodeChar, ih]
      rfl
  rw [decodeUtf8, utf8_eq, h, Option.map_some, String.ofList_toList]

/-- `hashlib.sha256(text.encode()).hexdigest()`. -/
@[irreducible] def sha256 (text : String) : String :=
  let ws := Sha256.words (Sha256.pad (utf8 text))
  ofChars (Sha256.absorb (ws.length / 16) ws Sha256.initial).hex

/-- `hashlib.sha256(bytes).hexdigest()`. -/
@[irreducible] def sha256Bytes (bytes : List UInt8) : String :=
  let ws := Sha256.words (Sha256.pad bytes)
  ofChars (Sha256.absorb (ws.length / 16) ws Sha256.initial).hex

def hexBytes (bytes : List UInt8) : String :=
  String.ofList (bytes.flatMap fun b =>
    [Nat.digitChar (b.toNat / 16), Nat.digitChar (b.toNat % 16)])

theorem hexBytes_injective {bytes bytes' : List UInt8} (h : hexBytes bytes = hexBytes bytes') :
    bytes = bytes' := by
  have hdigit : ∀ a b : Fin 16, Nat.digitChar a = Nat.digitChar b → a = b := by decide
  replace h := String.ofList_injective h
  induction bytes generalizing bytes' with
  | nil =>
    cases bytes' with
    | nil => rfl
    | cons b' bs' => simp at h
  | cons b bs ih =>
    cases bytes' with
    | nil => simp at h
    | cons b' bs' =>
      simp only [List.flatMap_cons, List.cons_append, List.nil_append, List.cons.injEq] at h
      have hb := b.toNat_lt
      have hb' := b'.toNat_lt
      have hhigh := hdigit ⟨b.toNat / 16, by omega⟩ ⟨b'.toNat / 16, by omega⟩ h.1
      have hlow := hdigit ⟨b.toNat % 16, by omega⟩ ⟨b'.toNat % 16, by omega⟩ h.2.1
      simp only [Fin.mk.injEq] at hhigh hlow
      rw [ih h.2.2, UInt8.toNat_inj.mp (show b.toNat = b'.toNat by omega)]

/-- No two of the texts have the same digest. -/
def CollisionFreeOn (texts : Set String) : Prop := Set.InjOn sha256 texts

/-! ### The shape of a digest -/

/-- A lower-case hexadecimal digit. -/
def isHexDigit (c : Char) : Bool :=
  decide (c ∈ ['0', '1', '2', '3', '4', '5', '6', '7', '8', '9', 'a', 'b', 'c', 'd', 'e', 'f'])

/-- Sixty-four lower-case hexadecimal digits. -/
def isHex64 (s : String) : Bool := (chars s).length == 64 && (chars s).all isHexDigit

theorem isHex64_eq (s : String) : isHex64 s = (s.toList.length == 64 && s.toList.all isHexDigit) := by
  rw [isHex64, chars_eq]

theorem isHexDigit_digitChar (n : Nat) : isHexDigit (Nat.digitChar (n % 16)) = true := by
  have key : ∀ k : Fin 16, isHexDigit (Nat.digitChar k) = true := by decide
  exact key ⟨n % 16, Nat.mod_lt _ (by decide)⟩

theorem Sha256.hex8_isHex (x : Nat) : (Sha256.hex8 x).all isHexDigit = true := by
  simp [Sha256.hex8, isHexDigit_digitChar]

theorem Sha256.State.hex_isHex64 (s : Sha256.State) : isHex64 (String.ofList s.hex) = true := by
  simp only [isHex64_eq, String.toList_ofList, Sha256.State.hex, Bool.and_eq_true,
    List.all_append, Sha256.hex8_isHex, and_true]
  simp [Sha256.hex8]

/-- Every digest is 64 lower-case hexadecimal digits. -/
theorem hexdigest_isHex64 (text : String) : isHex64 (sha256 text) = true := by
  rw [sha256, ofChars_eq]
  exact Sha256.State.hex_isHex64 _

theorem hexdigestBytes_isHex64 (bytes : List UInt8) : isHex64 (sha256Bytes bytes) = true := by
  rw [sha256Bytes, ofChars_eq]
  exact Sha256.State.hex_isHex64 _

theorem isHexDigit_of_mem_hexdigest {text : String} {c : Char} (h : c ∈ (sha256 text).toList) :
    isHexDigit c = true := by
  have hx := hexdigest_isHex64 text
  simp only [isHex64_eq, Bool.and_eq_true, List.all_eq_true] at hx
  exact hx.2 c h

theorem hexdigest_length (text : String) : (sha256 text).length = 64 := by
  have h := hexdigest_isHex64 text
  simp only [isHex64_eq, Bool.and_eq_true, beq_iff_eq] at h
  rw [← String.length_toList]
  exact h.1

end Py
