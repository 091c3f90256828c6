/-
AgentPlatform/Py/Text.lean

Python strings. A `str` is a Lean `String`: lone surrogates, which no encoder
accepts, are outside the model.

`strip` removes the characters for which `str.isspace` holds. Unicode
normalisation is the one library function whose tables are not embedded: it is
the parameter `Unicodedata.nfc`, with the documented facts validators rely on:
normalising is idempotent, trimming keeps a normalised text normalised, and an
ASCII text is normalised.

`normalize s` is the composite `unicodedata.normalize("NFC", s).strip()`;
its values are its fixed points (`normalize_normalize`).
-/
import AgentPlatform.Py.Chars

namespace Py

/-! ### Trimming -/

/-- `c.isspace()`. -/
def isSpace (c : Char) : Bool :=
  let n := c.toNat
  decide ((9 ≤ n ∧ n ≤ 13) ∨ (28 ≤ n ∧ n ≤ 32) ∨ n = 133 ∨ n = 160 ∨ n = 5760 ∨
    (8192 ≤ n ∧ n ≤ 8202) ∨ n = 8232 ∨ n = 8233 ∨ n = 8239 ∨ n = 8287 ∨ n = 12288)

/-- Drop a leading run. -/
def stripLeft (l : List Char) : List Char := l.dropWhile isSpace

/-- Drop a trailing run. -/
def stripRight (l : List Char) : List Char := (stripLeft l.reverse).reverse

def strip (s : String) : String := String.ofList (stripRight (stripLeft s.toList))

theorem stripLeft_of_head {l : List Char} (h : ∀ c ∈ l.head?, isSpace c = false) :
    stripLeft l = l := by
  rcases l with _ | ⟨c, l⟩
  · rfl
  · simp [stripLeft, h c (by simp)]

theorem stripLeft_head (l : List Char) : ∀ c ∈ (stripLeft l).head?, isSpace c = false := by
  intro c hc
  have := List.head?_dropWhile_not isSpace l
  simp only [stripLeft] at hc
  rw [hc] at this
  simpa using this

theorem stripRight_eq_self {l : List Char} (h : ∀ c ∈ l.getLast?, isSpace c = false) :
    stripRight l = l := by
  have hrev := stripLeft_of_head (l := l.reverse) (by simpa [List.head?_reverse] using h)
  rw [stripRight, hrev, List.reverse_reverse]

theorem stripRight_getLast (l : List Char) :
    ∀ c ∈ (stripRight l).getLast?, isSpace c = false := by
  simpa [stripRight, List.getLast?_reverse] using stripLeft_head l.reverse

/-- Trimming on the right keeps the first character. -/
theorem stripRight_head {l : List Char} (h : ∀ c ∈ l.head?, isSpace c = false) :
    ∀ c ∈ (stripRight l).head?, isSpace c = false := by
  intro c hc
  have hp : stripRight l <+: l := by
    rw [stripRight, ← List.reverse_suffix]
    simpa [stripLeft] using List.dropWhile_suffix isSpace
  rcases hs : stripRight l with _ | ⟨d, ds⟩
  · simp [hs] at hc
  · obtain ⟨t, ht⟩ := hp
    rw [hs] at ht hc
    simp only [List.head?_cons, Option.mem_def, Option.some.injEq] at hc
    subst hc
    exact h d (by simp [← ht])

/-- Trimming twice is trimming once. -/
theorem strip_strip (s : String) : strip (strip s) = strip s := by
  have h1 : stripLeft (stripRight (stripLeft s.toList)) = stripRight (stripLeft s.toList) :=
    stripLeft_of_head (stripRight_head (stripLeft_head _))
  have h2 : stripRight (stripRight (stripLeft s.toList)) = stripRight (stripLeft s.toList) :=
    stripRight_eq_self (stripRight_getLast _)
  simp only [strip, String.toList_ofList, h1, h2]

/-- A text without white space is trimmed already. -/
theorem strip_of_no_space {s : String} (h : ∀ c ∈ s.toList, isSpace c = false) :
    strip s = s := by
  have hl : stripLeft s.toList = s.toList :=
    stripLeft_of_head fun c hc => h c (List.mem_of_mem_head? hc)
  have hr : stripRight s.toList = s.toList :=
    stripRight_eq_self fun c hc => h c (List.mem_of_getLast? hc)
  rw [strip, hl, hr, String.ofList_toList]

/-- A character takes at most four bytes. -/
theorem utf8ByteSize_le (s : String) : s.utf8ByteSize ≤ 4 * s.length := by
  have h : ∀ cs : List Char, (String.ofList cs).utf8ByteSize ≤ 4 * cs.length := by
    intro cs
    induction cs with
    | nil => simp
    | cons c cs ih =>
      have := c.utf8Size_le_four
      rw [String.ofList_cons, String.utf8ByteSize_append, String.utf8ByteSize_singleton,
        List.length_cons]
      omega
  have := h s.toList
  rwa [String.ofList_toList, String.length_toList] at this

theorem isAlphanum_ascii {c : Char} (h : c.isAlphanum = true) : c.toNat < 128 := by
  have hval : c.toNat = c.val.toNat := rfl
  simp only [Char.isAlphanum, Char.isAlpha, Char.isUpper, Char.isLower, Char.isDigit,
    Bool.or_eq_true, Bool.and_eq_true, decide_eq_true_eq, ge_iff_le, UInt32.le_iff_toNat_le] at h
  rw [hval]
  rcases h with (⟨-, h⟩ | ⟨-, h⟩) | ⟨-, h⟩
  all_goals exact Nat.lt_of_le_of_lt h (by decide)

/-! ### Normalisation -/

/-- `unicodedata.normalize("NFC", ·)` and what validators rely on. -/
class Unicodedata where
  nfc : String → String
  nfc_nfc : ∀ s, nfc (nfc s) = nfc s
  nfc_strip_nfc : ∀ s, nfc (strip (nfc s)) = strip (nfc s)
  nfc_ascii : ∀ s, (∀ c ∈ s.toList, c.toNat < 128) → nfc s = s

export Unicodedata (nfc)

section Normalize

variable [Unicodedata]

/-- `unicodedata.normalize("NFC", s).strip()`. -/
def normalize (s : String) : String := strip (nfc s)

theorem nfc_normalize (s : String) : nfc (normalize s) = normalize s :=
  Unicodedata.nfc_strip_nfc s

@[simp] theorem normalize_normalize (s : String) : normalize (normalize s) = normalize s := by
  rw [normalize, nfc_normalize, normalize, strip_strip]

/-- ASCII text without white space is normalised already. -/
theorem normalize_of_ascii {s : String} (h : ∀ c ∈ s.toList, c.toNat < 128 ∧ isSpace c = false) :
    normalize s = s := by
  rw [normalize, Unicodedata.nfc_ascii s fun c hc => (h c hc).1,
    strip_of_no_space fun c hc => (h c hc).2]

/-- A fixed point of normalisation is in normal form. -/
theorem nfc_of_normalize_eq {s : String} (h : normalize s = s) : nfc s = s := by
  rw [← h, nfc_normalize]

end Normalize

/-- On texts that are already in normal form, such as all ASCII texts,
normalisation is the identity. -/
@[reducible] def Unicodedata.identity : Unicodedata where
  nfc := id
  nfc_nfc _ := rfl
  nfc_strip_nfc _ := rfl
  nfc_ascii _ _ := rfl

/-! ### Quoting -/

/-- `c.isprintable()` outside ASCII, a table of the Unicode database. -/
class Printable where
  isprintable : Char → Bool

/-- The hexadecimal digits of `n`, filled up with zeros. -/
def hexPadded (width n : Nat) : List Char :=
  let digits := Nat.toDigits 16 n
  List.replicate (width - digits.length) '0' ++ digits

/-- A character of a string in `repr`, between the given quotes. -/
def reprChar [Printable] (quote c : Char) : List Char :=
  if c = quote ∨ c = '\\' then ['\\', c]
  else if c = '\t' then ['\\', 't']
  else if c = '\n' then ['\\', 'n']
  else if c = '\r' then ['\\', 'r']
  else if c.toNat < 32 ∨ c.toNat = 127 then '\\' :: 'x' :: hexPadded 2 c.toNat
  else if c.toNat < 127 ∨ Printable.isprintable c then [c]
  else if c.toNat < 256 then '\\' :: 'x' :: hexPadded 2 c.toNat
  else if c.toNat < 65536 then '\\' :: 'u' :: hexPadded 4 c.toNat
  else '\\' :: 'U' :: hexPadded 8 c.toNat

/-- `repr(s)`: double quotes only where they save escaping single ones. -/
def quoted [Printable] (s : String) : String :=
  let quote := if '\'' ∈ s.toList ∧ '"' ∉ s.toList then '"' else '\''
  String.ofList (quote :: s.toList.flatMap (reprChar quote) ++ [quote])

/-! ### Hexadecimal numbers -/

/-- Decimal digits outside ASCII and lower case, tables of the Unicode database. -/
class CharacterTables where
  decimal : Char → Option Nat
  lower : String → String
  lower_ascii : ∀ s, (∀ c ∈ s.toList, c.toNat < 128) →
    lower s = String.ofList (s.toList.map Char.toLower)

/-- The tables for texts that are all ASCII. -/
@[reducible] def CharacterTables.ascii : CharacterTables where
  decimal _ := none
  lower s := String.ofList (s.toList.map Char.toLower)
  lower_ascii _ _ := rfl

/-- Hexadecimal digits with single underscores between them; `again` says that no
underscore may come next, nor the end. -/
def isHexNumber : Bool → List Char → Bool
  | again, [] => !again
  | again, c :: cs =>
    if c = '_' then !again && isHexNumber true cs
    else (c.isDigit || 'a' ≤ c && c ≤ 'f' || 'A' ≤ c && c ≤ 'F') && isHexNumber false cs

/-- `int(s, 16)` does not raise: spaces around, a sign, `0x` and underscores are
accepted, and digits of any script. -/
def isInt16 [CharacterTables] (s : String) : Bool :=
  let plain := s.toList.map fun c =>
    if c.toNat < 127 then c
    else if isSpace c then ' '
    else ((CharacterTables.decimal c).map Nat.digitChar).getD '?'
  let blank := fun c : Char => c = ' ' || 9 ≤ c.toNat && c.toNat ≤ 13
  let trimmed := ((plain.dropWhile blank).reverse.dropWhile blank).reverse
  let unsigned := if trimmed.head? = some '+' ∨ trimmed.head? = some '-' then trimmed.drop 1 else trimmed
  if unsigned.take 2 = ['0', 'x'] ∨ unsigned.take 2 = ['0', 'X'] then
    isHexNumber true (if unsigned[2]? = some '_' then unsigned.drop 3 else unsigned.drop 2)
  else isHexNumber true unsigned

end Py
