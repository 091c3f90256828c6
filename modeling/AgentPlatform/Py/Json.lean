/-
AgentPlatform/Py/Json.lean

The part of Python's `json` module that canonical encoders rely on: values
built from `None`, booleans, integers, strings, lists and string-keyed
dictionaries, written with `sort_keys=True` and `separators=(",", ":")`.

Dictionary order is insertion order, so an object is a list of fields; `sort_keys`
is a function on values (`Json.sortKeys`) and the writer (`Json.print`) writes
fields in the order it finds them.

Main result: without `ensure_ascii` the text determines the sorted value
(`dumps_injective`), because a printed value cannot be continued
(`print_append_inj`). With `sortKeys_obj_inj` this recovers the fields of a record
written under fixed, distinct keys.
-/
import AgentPlatform.Py.Chars

namespace Py

/-- The values `json.dumps` writes. -/
inductive Json
  | null
  | bool (b : Bool)
  | int (n : Int)
  | str (s : String)
  | arr (items : List Json)
  | obj (fields : List (String × Json))

namespace Json

/-- `None` is written as `null`, a string as itself. -/
def optStr : Option String → Json
  | none => null
  | some s => str s

theorem optStr_injective {o o' : Option String} (h : optStr o = optStr o') : o = o' := by
  cases o <;> cases o' <;> simp [optStr] at h
  · rfl
  · rw [h]

/-! ### Characters -/

/-- Lower-case hexadecimal digit. -/
def hexDigit (n : Nat) : Char := Nat.digitChar (n % 16)

/-- The four digits of a `\uXXXX` escape. -/
def hex4 (n : Nat) : List Char :=
  [hexDigit (n / 4096), hexDigit (n / 256), hexDigit (n / 16), hexDigit n]

/-- The two-character escapes. -/
def shortEscape (c : Char) : Option Char :=
  if c = '"' then some '"'
  else if c = '\\' then some '\\'
  else if c = '\n' then some 'n'
  else if c = '\r' then some 'r'
  else if c = '\t' then some 't'
  else if c = '\x08' then some 'b'
  else if c = '\x0c' then some 'f'
  else none

/-- What a character is written as inside a JSON string. With `ascii`, every
character outside `' '..'~'` becomes one `\uXXXX` escape, or two for a
character beyond the basic plane. -/
def escapeChar (ascii : Bool) (c : Char) : List Char :=
  match shortEscape c with
  | some e => ['\\', e]
  | none =>
      if c.toNat < 32 then '\\' :: 'u' :: hex4 c.toNat
      else if ascii && decide (126 < c.toNat) then
        if c.toNat < 65536 then '\\' :: 'u' :: hex4 c.toNat
        else
          '\\' :: 'u' :: hex4 (55296 + (c.toNat - 65536) / 1024)
            ++ '\\' :: 'u' :: hex4 (56320 + (c.toNat - 65536) % 1024)
      else [c]

def escapes (ascii : Bool) : List Char → List Char
  | [] => []
  | c :: cs => escapeChar ascii c ++ escapes ascii cs

/-- A quoted string. -/
def printStr (ascii : Bool) (s : String) : List Char :=
  '"' :: (escapes ascii (chars s) ++ ['"'])

theorem printStr_eq (ascii : Bool) (s : String) :
    printStr ascii s = '"' :: (escapes ascii s.toList ++ ['"']) := by
  rw [printStr, chars_eq]

/-- An integer in decimal. -/
def printInt : Int → List Char
  | .ofNat n => Nat.toDigits 10 n
  | .negSucc n => '-' :: Nat.toDigits 10 (n + 1)

/-! ### The writer -/

mutual

/-- The text of a value, fields in the order given. -/
def print (ascii : Bool) : Json → List Char
  | null => "null".toList
  | bool true => "true".toList
  | bool false => "false".toList
  | int n => printInt n
  | str s => printStr ascii s
  | arr [] => "[]".toList
  | arr (v :: vs) => '[' :: (print ascii v ++ printItems ascii vs)
  | obj [] => "{}".toList
  | obj ((k, v) :: fs) =>
      '{' :: (printStr ascii k ++ ':' :: (print ascii v ++ printFields ascii fs))

/-- The rest of a list after its first item. -/
def printItems (ascii : Bool) : List Json → List Char
  | [] => [']']
  | v :: vs => ',' :: (print ascii v ++ printItems ascii vs)

/-- The rest of an object after its first field. -/
def printFields (ascii : Bool) : List (String × Json) → List Char
  | [] => ['}']
  | (k, v) :: fs =>
      ',' :: (printStr ascii k ++ ':' :: (print ascii v ++ printFields ascii fs))

end

mutual

/-- `sort_keys=True`, at every depth. -/
def sortKeys : Json → Json
  | null => null
  | bool b => bool b
  | int n => int n
  | str s => str s
  | arr items => arr (sortItems items)
  | obj fields => obj ((sortFields fields).insertionSort fun a b => a.1 ≤ b.1)

def sortItems : List Json → List Json
  | [] => []
  | v :: vs => sortKeys v :: sortItems vs

def sortFields : List (String × Json) → List (String × Json)
  | [] => []
  | (k, v) :: fs => (k, sortKeys v) :: sortFields fs

end

/-- `json.dumps(value, ensure_ascii=ascii, sort_keys=True, separators=(",", ":"))`. -/
def dumps (ascii : Bool) (v : Json) : String :=
  ofChars (print ascii (sortKeys v))

theorem dumps_eq (ascii : Bool) (v : Json) :
    dumps ascii v = String.ofList (print ascii (sortKeys v)) := ofChars_eq _

/-- `dict.get` on a decoded object. -/
def get? (key : String) : Json → Option Json
  | obj fields => (fields.find? fun p => p.1 = key).map Prod.snd
  | _ => none

mutual

/-- No string or key of the value holds U+0000, which a `jsonb` column
rejects. -/
def nulFree : Json → Bool
  | null => true
  | bool _ => true
  | int _ => true
  | str s => !s.toList.contains '\x00'
  | arr items => nulFreeItems items
  | obj fields => nulFreeFields fields

def nulFreeItems : List Json → Bool
  | [] => true
  | v :: vs => nulFree v && nulFreeItems vs

def nulFreeFields : List (String × Json) → Bool
  | [] => true
  | (k, v) :: fs => !k.toList.contains '\x00' && nulFree v && nulFreeFields fs

end

theorem nulFree_str {s : String} : (str s).nulFree = true ↔ '\x00' ∉ s.toList := by
  simp [nulFree]

theorem nulFree_optStr {o : Option String} :
    (optStr o).nulFree = true ↔ ∀ s ∈ o, '\x00' ∉ s.toList := by
  cases o <;> simp [optStr, nulFree]

theorem nulFree_obj {fields : List (String × Json)} :
    (obj fields).nulFree = true ↔ ∀ p ∈ fields, '\x00' ∉ p.1.toList ∧ p.2.nulFree = true := by
  rw [nulFree]
  induction fields with
  | nil => simp [nulFreeFields]
  | cons p fields ih => simp [nulFreeFields, ih]

/-- No byte of the text in UTF-8 is zero. -/
def zeroFreeText (s : String) : Bool := !s.toByteArray.data.toList.contains 0

/-- A text without zero bytes does not hold U+0000. -/
theorem not_mem_of_zeroFreeText {s : String} (h : zeroFreeText s = true) : '\x00' ∉ s.toList := by
  intro hm
  have hbyte : (0 : UInt8) ∈ s.toByteArray.data.toList := by
    rw [← String.utf8Encode_toList, List.utf8Encode, List.data_toByteArray, List.toList_toArray,
      List.mem_flatMap]
    exact ⟨'\x00', hm, by decide⟩
  rw [zeroFreeText, Bool.not_eq_true', List.contains_eq_mem, decide_eq_false_iff_not] at h
  exact h hbyte

mutual

/-- `nulFree`, computed on bytes. -/
def zeroFree : Json → Bool
  | null => true
  | bool _ => true
  | int _ => true
  | str s => zeroFreeText s
  | arr items => zeroFreeItems items
  | obj fields => zeroFreeFields fields

def zeroFreeItems : List Json → Bool
  | [] => true
  | v :: vs => zeroFree v && zeroFreeItems vs

def zeroFreeFields : List (String × Json) → Bool
  | [] => true
  | (k, v) :: fs => zeroFreeText k && zeroFree v && zeroFreeFields fs

end

mutual

theorem nulFree_of_zeroFree : ∀ v : Json, v.zeroFree = true → v.nulFree = true
  | null, _ => rfl
  | bool _, _ => rfl
  | int _, _ => rfl
  | str _, h => nulFree_str.mpr (not_mem_of_zeroFreeText h)
  | arr items, h => nulFreeItems_of_zeroFree items h
  | obj fields, h => nulFreeFields_of_zeroFree fields h

theorem nulFreeItems_of_zeroFree : ∀ vs : List Json, zeroFreeItems vs = true → nulFreeItems vs = true
  | [], _ => rfl
  | v :: vs, h => by
    rw [zeroFreeItems, Bool.and_eq_true] at h
    rw [nulFreeItems, nulFree_of_zeroFree v h.1, nulFreeItems_of_zeroFree vs h.2]
    rfl

theorem nulFreeFields_of_zeroFree :
    ∀ fs : List (String × Json), zeroFreeFields fs = true → nulFreeFields fs = true
  | [], _ => rfl
  | (k, v) :: fs, h => by
    rw [zeroFreeFields, Bool.and_eq_true, Bool.and_eq_true] at h
    have hk := not_mem_of_zeroFreeText h.1.1
    rw [nulFreeFields, nulFree_of_zeroFree v h.1.2, nulFreeFields_of_zeroFree fs h.2]
    simpa using hk

end

/-! ### Prefix properties of the pieces -/

/-- What can follow a printed value. -/
def Delimited (r : List Char) : Prop :=
  ∀ c ∈ r.head?, c = ',' ∨ c = ']' ∨ c = '}'

theorem delimited_nil : Delimited [] := by
  intro c hc
  cases hc

theorem delimited_printItems (ascii : Bool) (vs : List Json) (r : List Char) :
    Delimited (printItems ascii vs ++ r) := by
  intro c hc
  cases vs <;> simp [printItems] at hc <;> simp [← hc]

theorem delimited_printFields (ascii : Bool) (fs : List (String × Json))
    (r : List Char) : Delimited (printFields ascii fs ++ r) := by
  intro c hc
  rcases fs with _ | ⟨⟨k, v⟩, fs⟩ <;> simp [printFields] at hc <;> simp [← hc]

theorem Delimited.not_digit {r : List Char} (h : Delimited r) :
    ∀ c ∈ r.head?, c.isDigit = false := by
  intro c hc
  rcases h c hc with rfl | rfl | rfl <;> decide

/-- Two runs of digits that are each followed by a non-digit split alike. -/
theorem digits_append_inj {d d' r r' : List Char}
    (hd : ∀ c ∈ d, c.isDigit = true) (hd' : ∀ c ∈ d', c.isDigit = true)
    (hr : ∀ c ∈ r.head?, c.isDigit = false)
    (hr' : ∀ c ∈ r'.head?, c.isDigit = false)
    (h : d ++ r = d' ++ r') : d = d' ∧ r = r' := by
  have key : ∀ {e s : List Char}, (∀ c ∈ e, c.isDigit = true) →
      (∀ c ∈ s.head?, c.isDigit = false) →
      (e ++ s).takeWhile Char.isDigit = e := by
    intro e s he hs
    rw [List.takeWhile_append_of_pos he]
    rcases s with _ | ⟨c, s⟩
    · simp
    · simp [hs c (by simp)]
  have hdd : d = d' := by
    rw [← key hd hr, h, key hd' hr']
  subst hdd
  exact ⟨rfl, List.append_cancel_left h⟩

theorem toDigits_isDigit (n : Nat) : ∀ c ∈ Nat.toDigits 10 n, c.isDigit = true :=
  fun _ hc => Nat.isDigit_of_mem_toDigits (by decide) (by decide) hc

theorem toDigits_injective {m n : Nat} (h : Nat.toDigits 10 m = Nat.toDigits 10 n) :
    m = n := by
  rw [← Nat.ofDigitChars_ten_toDigits (n := m), h, Nat.ofDigitChars_ten_toDigits]

/-- The first character of a natural number is a digit. -/
theorem toDigits_head (n : Nat) : ∃ c cs, Nat.toDigits 10 n = c :: cs ∧ c.isDigit = true := by
  rcases h : Nat.toDigits 10 n with _ | ⟨c, cs⟩
  · exact absurd h Nat.toDigits_ne_nil
  · exact ⟨c, cs, rfl, toDigits_isDigit n c (by simp [h])⟩

theorem printInt_append_inj {m n : Int} {r r' : List Char}
    (hr : Delimited r) (hr' : Delimited r')
    (h : printInt m ++ r = printInt n ++ r') : m = n ∧ r = r' := by
  -- a minus sign is not a digit, so the signs agree first
  rcases m with m | m <;> rcases n with n | n <;> simp only [printInt] at h
  · obtain ⟨hd, hr⟩ := digits_append_inj (toDigits_isDigit m) (toDigits_isDigit n)
      hr.not_digit hr'.not_digit h
    exact ⟨congrArg Int.ofNat (toDigits_injective hd), hr⟩
  · obtain ⟨c, cs, hc, hdig⟩ := toDigits_head m
    rw [hc] at h
    simp only [List.cons_append, List.cons.injEq] at h
    rw [h.1] at hdig
    exact absurd hdig (by decide)
  · obtain ⟨c, cs, hc, hdig⟩ := toDigits_head n
    rw [hc] at h
    simp only [List.cons_append, List.cons.injEq] at h
    rw [← h.1] at hdig
    exact absurd hdig (by decide)
  · simp only [List.cons_append, List.cons.injEq, true_and] at h
    obtain ⟨hd, hr⟩ := digits_append_inj (toDigits_isDigit _) (toDigits_isDigit _)
      hr.not_digit hr'.not_digit h
    have := toDigits_injective hd
    exact ⟨congrArg Int.negSucc (by omega), hr⟩

/-! ### Strings -/

/-- The character a two-character escape stands for. -/
def shortUnescape (e : Char) : Char :=
  if e = 'n' then '\n'
  else if e = 'r' then '\r'
  else if e = 't' then '\t'
  else if e = 'b' then '\x08'
  else if e = 'f' then '\x0c'
  else e

theorem shortUnescape_shortEscape {c e : Char} (h : shortEscape c = some e) :
    shortUnescape e = c := by
  unfold shortEscape at h
  split_ifs at h with h1 h2 h3 h4 h5 h6 h7 <;> cases h <;> subst c <;> decide

theorem shortEscape_ne_u {c : Char} : shortEscape c ≠ some 'u' := by
  intro h
  have hc := shortUnescape_shortEscape h
  rw [show shortUnescape 'u' = 'u' by decide] at hc
  subst hc
  exact absurd h (by decide)

theorem shortEscape_none {c : Char} (h : shortEscape c = none) : c ≠ '"' ∧ c ≠ '\\' := by
  constructor
  · rintro rfl
    exact absurd h (by decide)
  · rintro rfl
    exact absurd h (by decide)

theorem digitChar_injective {a b : Nat} (ha : a < 16) (hb : b < 16)
    (h : Nat.digitChar a = Nat.digitChar b) : a = b := by
  have key : ∀ a : Fin 16, ∀ b : Fin 16, Nat.digitChar a = Nat.digitChar b → a = b := by
    decide
  exact congrArg Fin.val (key ⟨a, ha⟩ ⟨b, hb⟩ h)

theorem hex4_length (n : Nat) : (hex4 n).length = 4 := rfl

/-- The digits of an escape determine its code. -/
theorem hex4_injective {m n : Nat} (hm : m < 65536) (hn : n < 65536)
    (h : hex4 m = hex4 n) : m = n := by
  simp only [hex4, hexDigit, List.cons.injEq, and_true] at h
  have hdigit : ∀ {a b : Nat}, Nat.digitChar (a % 16) = Nat.digitChar (b % 16) →
      a % 16 = b % 16 := fun h =>
    digitChar_injective (Nat.mod_lt _ (by decide)) (Nat.mod_lt _ (by decide)) h
  have h1 := hdigit h.1
  have h2 := hdigit h.2.1
  have h3 := hdigit h.2.2.1
  have h4 := hdigit h.2.2.2
  omega

/-- The shapes of an escape in general: short, numeric, a pair, or none. -/
theorem escapeChar_shapes (ascii : Bool) (c : Char) :
    (∃ e, shortEscape c = some e ∧ escapeChar ascii c = ['\\', e]) ∨
    (c.toNat < 65536 ∧ escapeChar ascii c = '\\' :: 'u' :: hex4 c.toNat) ∨
    (65536 ≤ c.toNat ∧ escapeChar ascii c =
      '\\' :: 'u' :: hex4 (55296 + (c.toNat - 65536) / 1024)
        ++ '\\' :: 'u' :: hex4 (56320 + (c.toNat - 65536) % 1024)) ∨
    (c ≠ '"' ∧ c ≠ '\\' ∧ escapeChar ascii c = [c]) := by
  unfold escapeChar
  rcases h : shortEscape c with _ | e
  · by_cases hc : c.toNat < 32
    · exact .inr (.inl ⟨by omega, by simp [hc]⟩)
    · by_cases ha : (ascii && decide (126 < c.toNat)) = true
      · by_cases hb : c.toNat < 65536
        · exact .inr (.inl ⟨hb, by simp only [hc, if_false, ha, if_true, hb]⟩)
        · exact .inr (.inr (.inl ⟨by omega, by simp only [hc, if_false, ha, if_true, hb]⟩))
      · exact .inr (.inr (.inr ⟨(shortEscape_none h).1, (shortEscape_none h).2,
          by simp only [hc, if_false, ha, Bool.false_eq_true]⟩))
  · exact .inl ⟨e, rfl, rfl⟩

/-- A character is no half of a pair. -/
theorem not_surrogate (c : Char) {n : Nat} (hn : n < 1024) : c.toNat ≠ 55296 + n := by
  have hv : c.toNat < 55296 ∨ 57343 < c.toNat ∧ c.toNat < 1114112 := c.valid
  omega

variable {ascii : Bool}

/-- Two escapes before equal texts agree, and so do the rests. -/
theorem hex4_append_inj {m n : Nat} {r r' : List Char} (hm : m < 65536) (hn : n < 65536)
    (h : hex4 m ++ r = hex4 n ++ r') : m = n ∧ r = r' := by
  obtain ⟨hx, hr⟩ := List.append_inj h ((hex4_length m).trans (hex4_length n).symm)
  exact ⟨hex4_injective hm hn hx, hr⟩

theorem escapeChar_append_inj {c c' : Char} {r r' : List Char}
    (h : escapeChar ascii c ++ r = escapeChar ascii c' ++ r') : c = c' ∧ r = r' := by
  have hpair : ∀ d : Char, (d.toNat - 65536) / 1024 < 1024 := by
    intro d
    have hd : d.toNat < 55296 ∨ 57343 < d.toNat ∧ d.toNat < 1114112 := d.valid
    omega
  rcases escapeChar_shapes ascii c with ⟨e, he, hc⟩ | ⟨hlt, hc⟩ | ⟨hge, hc⟩ | ⟨_, hb, hc⟩ <;>
    rcases escapeChar_shapes ascii c' with
      ⟨e', he', hc'⟩ | ⟨hlt', hc'⟩ | ⟨hge', hc'⟩ | ⟨_, hb', hc'⟩ <;>
    rw [hc, hc'] at h <;>
    simp only [List.cons_append, List.nil_append, List.append_assoc, List.cons.injEq,
      true_and] at h
  case inl.inl =>
    obtain ⟨rfl, hr⟩ := h
    exact ⟨(shortUnescape_shortEscape he).symm.trans (shortUnescape_shortEscape he'), hr⟩
  case inr.inl.inr.inl =>
    obtain ⟨hx, hr⟩ := hex4_append_inj hlt hlt' h
    exact ⟨Char.toNat_inj.mp hx, hr⟩
  case inr.inr.inl.inr.inr.inl =>
    have := hpair c
    have := hpair c'
    obtain ⟨hhi, hrest⟩ := hex4_append_inj (by omega) (by omega) h
    simp only [List.cons.injEq, true_and] at hrest
    obtain ⟨hlo, hr⟩ := hex4_append_inj (by omega) (by omega) hrest
    exact ⟨Char.toNat_inj.mp (by omega), hr⟩
  case inr.inr.inr.inr.inr.inr => exact h
  -- a code of its own is no first half of a pair
  case inr.inl.inr.inr.inl =>
    have := hpair c'
    exact absurd (hex4_append_inj hlt (by omega) h).1 (not_surrogate c (hpair c'))
  case inr.inr.inl.inr.inl =>
    have := hpair c
    exact absurd (hex4_append_inj (by omega) hlt' h).1.symm (not_surrogate c' (hpair c))
  case inl.inr.inl | inl.inr.inr.inl =>
    rw [h.1] at he
    exact absurd he shortEscape_ne_u
  case inr.inl.inl | inr.inr.inl.inl =>
    rw [← h.1] at he'
    exact absurd he' shortEscape_ne_u
  case inl.inr.inr.inr | inr.inl.inr.inr.inr | inr.inr.inl.inr.inr.inr =>
    exact absurd h.1.symm hb'
  case inr.inr.inr.inl | inr.inr.inr.inr.inl | inr.inr.inr.inr.inr.inl =>
    exact absurd h.1 hb

theorem escapeChar_ne_quote (c : Char) (r s : List Char) :
    escapeChar ascii c ++ r ≠ '"' :: s := by
  intro h
  rcases escapeChar_shapes ascii c with ⟨e, _, hc⟩ | ⟨_, hc⟩ | ⟨_, hc⟩ | ⟨hq, _, hc⟩ <;>
    rw [hc] at h <;> simp only [List.cons_append, List.cons.injEq] at h
  case inr.inr.inr => exact hq h.1
  all_goals exact absurd h.1 (by decide)

theorem escapes_append_inj {cs cs' r r' : List Char}
    (h : escapes ascii cs ++ '"' :: r = escapes ascii cs' ++ '"' :: r') :
    cs = cs' ∧ r = r' := by
  induction cs generalizing cs' with
  | nil =>
      rcases cs' with _ | ⟨c', cs'⟩
      · simpa [escapes] using h
      · simp only [escapes, List.nil_append, List.append_assoc] at h
        exact absurd h.symm (escapeChar_ne_quote _ _ _)
  | cons c cs ih =>
      rcases cs' with _ | ⟨c', cs'⟩
      · simp only [escapes, List.nil_append, List.append_assoc] at h
        exact absurd h (escapeChar_ne_quote _ _ _)
      · simp only [escapes, List.append_assoc] at h
        obtain ⟨rfl, htail⟩ := escapeChar_append_inj h
        obtain ⟨rfl, hr⟩ := ih htail
        exact ⟨rfl, hr⟩

theorem printStr_append_inj {s s' : String} {r r' : List Char}
    (h : printStr ascii s ++ r = printStr ascii s' ++ r') : s = s' ∧ r = r' := by
  simp only [printStr_eq, List.cons_append, List.append_assoc, List.nil_append,
    List.cons.injEq, true_and] at h
  obtain ⟨hs, hr⟩ := escapes_append_inj h
  exact ⟨String.toList_inj.mp hs, hr⟩

/-! ### The text determines the value -/

/-- The kinds of value a first character tells apart; `close` is no value. -/
inductive Lead
  | null | yes | no | int | str | arr | obj | close
  deriving DecidableEq

/-- The kind a first character announces. -/
def leadOf (c : Char) : Lead :=
  if c = 'n' then .null
  else if c = 't' then .yes
  else if c = 'f' then .no
  else if c = '"' then .str
  else if c = '[' then .arr
  else if c = '{' then .obj
  else if c = ']' then .close
  else .int

/-- The kind of a value. -/
def lead : Json → Lead
  | null => .null
  | bool true => .yes
  | bool false => .no
  | int _ => .int
  | str _ => .str
  | arr _ => .arr
  | obj _ => .obj

theorem leadOf_digit {c : Char} (h : c.isDigit = true) : leadOf c = .int := by
  unfold leadOf
  split_ifs
  case neg => rfl
  all_goals
    subst c
    exact absurd h (by decide)

theorem print_lead (v : Json) : ∃ c cs, print ascii v = c :: cs ∧ leadOf c = v.lead := by
  cases v with
  | null => exact ⟨'n', _, rfl, rfl⟩
  | bool b =>
      cases b
      · exact ⟨'f', _, rfl, rfl⟩
      · exact ⟨'t', _, rfl, rfl⟩
  | int n =>
      cases n with
      | ofNat n =>
          obtain ⟨c, cs, hc, hdig⟩ := toDigits_head n
          exact ⟨c, cs, hc, leadOf_digit hdig⟩
      | negSucc n => exact ⟨'-', _, rfl, rfl⟩
  | str s => exact ⟨'"', _, rfl, rfl⟩
  | arr items => cases items <;> exact ⟨'[', _, rfl, rfl⟩
  | obj fields => rcases fields with _ | ⟨⟨k, v⟩, fs⟩ <;> exact ⟨'{', _, rfl, rfl⟩

/-- Equal texts announce the same kind. -/
theorem lead_eq_of_print {v w : Json} {r r' : List Char}
    (h : print ascii v ++ r = print ascii w ++ r') : v.lead = w.lead := by
  obtain ⟨c, cs, hv, hc⟩ := print_lead v
  obtain ⟨d, ds, hw, hd⟩ := print_lead w
  rw [hv, hw] at h
  simp only [List.cons_append, List.cons.injEq] at h
  rw [← hc, ← hd, h.1]

/-- A value does not start with a closing bracket. -/
theorem print_ne_close (v : Json) (r s : List Char) : print ascii v ++ r ≠ ']' :: s := by
  intro h
  obtain ⟨c, cs, hv, hc⟩ := print_lead v
  rw [hv] at h
  simp only [List.cons_append, List.cons.injEq] at h
  rw [h.1, show leadOf ']' = .close from rfl] at hc
  rcases v with _ | b | _ | _ | _ | _
  case bool => cases b <;> cases hc
  all_goals cases hc

mutual

/-- **A printed value cannot be continued**: two values printed before
delimited rests are equal when the whole texts are. -/
theorem print_append_inj : ∀ (v w : Json) {r r' : List Char}, Delimited r → Delimited r' →
    print ascii v ++ r = print ascii w ++ r' → v = w ∧ r = r' := by
  intro v w r r' hr hr' h
  have hl := lead_eq_of_print h
  match v, w with
  | null, null => exact ⟨rfl, List.append_cancel_left h⟩
  | bool true, bool true => exact ⟨rfl, List.append_cancel_left h⟩
  | bool false, bool false => exact ⟨rfl, List.append_cancel_left h⟩
  | int m, int n =>
      obtain ⟨rfl, hr⟩ := printInt_append_inj hr hr' h
      exact ⟨rfl, hr⟩
  | str s, str s' =>
      obtain ⟨rfl, hr⟩ := printStr_append_inj h
      exact ⟨rfl, hr⟩
  | arr [], arr [] => exact ⟨rfl, List.append_cancel_left h⟩
  | arr [], arr (w :: ws) =>
      simp only [print, List.cons_append, List.append_assoc] at h
      exact absurd (List.cons.inj h).2.symm (print_ne_close _ _ _)
  | arr (v :: vs), arr [] =>
      simp only [print, List.cons_append, List.append_assoc] at h
      exact absurd (List.cons.inj h).2 (print_ne_close _ _ _)
  | arr (v :: vs), arr (w :: ws) =>
      simp only [print, List.cons_append, List.append_assoc, List.cons.injEq, true_and] at h
      obtain ⟨rfl, hrest⟩ := print_append_inj v w
        (delimited_printItems _ _ _) (delimited_printItems _ _ _) h
      obtain ⟨rfl, hr⟩ := printItems_append_inj vs ws hrest
      exact ⟨rfl, hr⟩
  | obj [], obj [] => exact ⟨rfl, List.append_cancel_left h⟩
  | obj [], obj ((k, w) :: gs) =>
      simp [print, printStr_eq] at h
  | obj ((k, v) :: fs), obj [] =>
      simp [print, printStr_eq] at h
  | obj ((k, v) :: fs), obj ((k', w) :: gs) =>
      simp only [print, List.cons_append, List.append_assoc, List.cons.injEq, true_and] at h
      obtain ⟨rfl, hfield⟩ := printStr_append_inj h
      simp only [List.cons.injEq, true_and] at hfield
      obtain ⟨rfl, hrest⟩ := print_append_inj v w
        (delimited_printFields _ _ _) (delimited_printFields _ _ _) hfield
      obtain ⟨rfl, hr⟩ := printFields_append_inj fs gs hrest
      exact ⟨rfl, hr⟩

theorem printItems_append_inj : ∀ (vs ws : List Json) {r r' : List Char},
    printItems ascii vs ++ r = printItems ascii ws ++ r' → vs = ws ∧ r = r' := by
  intro vs ws r r' h
  match vs, ws with
  | [], [] => exact ⟨rfl, List.append_cancel_left h⟩
  | [], w :: ws => simp [printItems] at h
  | v :: vs, [] => simp [printItems] at h
  | v :: vs, w :: ws =>
      simp only [printItems, List.cons_append, List.append_assoc, List.cons.injEq,
        true_and] at h
      obtain ⟨rfl, hrest⟩ := print_append_inj v w
        (delimited_printItems _ _ _) (delimited_printItems _ _ _) h
      obtain ⟨rfl, hr⟩ := printItems_append_inj vs ws hrest
      exact ⟨rfl, hr⟩

theorem printFields_append_inj : ∀ (fs gs : List (String × Json)) {r r' : List Char},
    printFields ascii fs ++ r = printFields ascii gs ++ r' → fs = gs ∧ r = r' := by
  intro fs gs r r' h
  match fs, gs with
  | [], [] => exact ⟨rfl, List.append_cancel_left h⟩
  | [], (k, w) :: gs => simp [printFields] at h
  | (k, v) :: fs, [] => simp [printFields] at h
  | (k, v) :: fs, (k', w) :: gs =>
      simp only [printFields, List.cons_append, List.append_assoc, List.cons.injEq,
        true_and] at h
      obtain ⟨rfl, hfield⟩ := printStr_append_inj h
      simp only [List.cons.injEq, true_and] at hfield
      obtain ⟨rfl, hrest⟩ := print_append_inj v w
        (delimited_printFields _ _ _) (delimited_printFields _ _ _) hfield
      obtain ⟨rfl, hr⟩ := printFields_append_inj fs gs hrest
      exact ⟨rfl, hr⟩

end

/-- **Canonical text is injective** up to the order of keys. -/
theorem dumps_injective {v w : Json} (h : dumps ascii v = dumps ascii w) :
    sortKeys v = sortKeys w := by
  have hp : print ascii (sortKeys v) = print ascii (sortKeys w) := by
    rw [dumps_eq, dumps_eq] at h
    exact String.ofList_injective h
  have happend : print ascii (sortKeys v) ++ [] = print ascii (sortKeys w) ++ [] := by rw [hp]
  exact (print_append_inj _ _ delimited_nil delimited_nil happend).1

theorem dumps_eq_iff {v w : Json} : dumps ascii v = dumps ascii w ↔ sortKeys v = sortKeys w := by
  constructor
  · exact dumps_injective
  · intro h
    rw [dumps, dumps, h]

/-! ### Records under fixed keys -/

@[simp] theorem sortKeys_optStr (o : Option String) : sortKeys (optStr o) = optStr o := by
  cases o <;> rfl

theorem sortFields_eq_map (fs : List (String × Json)) :
    sortFields fs = fs.map fun p => (p.1, sortKeys p.2) := by
  induction fs with
  | nil => rfl
  | cons p fs ih =>
      obtain ⟨k, v⟩ := p
      simp [sortFields, ih]

/-- Two lists under the same distinct keys that are permutations of each
other are equal. -/
theorem eq_of_perm_of_keys {α : Type*} {fs gs : List (String × α)} (hp : fs.Perm gs)
    (hk : fs.map Prod.fst = gs.map Prod.fst) (hn : (fs.map Prod.fst).Nodup) : fs = gs := by
  refine List.ext_getElem hp.length_eq fun i hi hi' => ?_
  have hkey : (fs[i]).1 = (gs[i]).1 := by
    have := congrArg (fun l => l[i]?) hk
    simpa [hi, hi'] using this
  have hmem : fs[i] ∈ gs := hp.subset (List.getElem_mem hi)
  refine List.inj_on_of_nodup_map (f := Prod.fst) (hk ▸ hn) hmem (List.getElem_mem hi') hkey

/-- Two records under the same distinct keys with equal sorted forms agree
field by field. -/
theorem sortKeys_obj_inj {fs gs : List (String × Json)}
    (hk : fs.map Prod.fst = gs.map Prod.fst) (hn : (fs.map Prod.fst).Nodup)
    (h : sortKeys (obj fs) = sortKeys (obj gs)) :
    fs.map (fun p => sortKeys p.2) = gs.map (fun p => sortKeys p.2) := by
  simp only [sortKeys, obj.injEq, sortFields_eq_map] at h
  have hp : (fs.map fun p => (p.1, sortKeys p.2)).Perm (gs.map fun p => (p.1, sortKeys p.2)) :=
    ((List.perm_insertionSort _ _).symm.trans (List.Perm.of_eq h)).trans
      (List.perm_insertionSort _ _)
  have hfst : ∀ l : List (String × Json),
      (l.map fun p => (p.1, sortKeys p.2)).map Prod.fst = l.map Prod.fst := by
    intro l
    simp [Function.comp_def]
  have heq := eq_of_perm_of_keys hp (by rw [hfst, hfst, hk]) (by rw [hfst]; exact hn)
  have := congrArg (List.map Prod.snd) heq
  simpa [Function.comp_def] using this

/-! ### Sizes -/

/-- The bytes of a field, with the mark before it. -/
def fieldSize (ascii : Bool) (field : String × Json) : Nat :=
  1 + (String.utf8Len (printStr ascii field.1) + (1 + String.utf8Len (print ascii field.2)))

theorem utf8Len_printFields (fs : List (String × Json)) :
    String.utf8Len (printFields ascii fs) = (fs.map (fieldSize ascii)).sum + 1 := by
  induction fs with
  | nil => rfl
  | cons f fs ih =>
      obtain ⟨k, v⟩ := f
      rw [printFields, List.map_cons, List.sum_cons, fieldSize]
      simp only [String.utf8Len_cons, String.utf8Len_append, ih]
      have hcomma : ','.utf8Size = 1 := rfl
      have hcolon : ':'.utf8Size = 1 := rfl
      omega

theorem utf8Len_print_obj {fs : List (String × Json)} (h : fs ≠ []) :
    String.utf8Len (print ascii (obj fs)) = (fs.map (fieldSize ascii)).sum + 1 := by
  cases fs with
  | nil => exact absurd rfl h
  | cons f fs =>
      obtain ⟨k, v⟩ := f
      rw [← utf8Len_printFields, print, printFields]
      rfl

mutual

/-- The order of the keys does not matter to the size of a text. -/
theorem utf8Len_print_sortKeys : ∀ v : Json,
    String.utf8Len (print ascii (sortKeys v)) = String.utf8Len (print ascii v)
  | null => rfl
  | bool _ => rfl
  | int _ => rfl
  | str _ => rfl
  | arr [] => rfl
  | arr (v :: vs) => by
      simp only [sortKeys, sortItems, print, String.utf8Len_cons, String.utf8Len_append,
        utf8Len_print_sortKeys v, utf8Len_printItems_sortItems vs]
  | obj [] => rfl
  | obj (f :: fs) => by
      have hperm := List.perm_insertionSort (fun a b : String × Json => a.1 ≤ b.1)
        (sortFields (f :: fs))
      have hne : (sortFields (f :: fs)).insertionSort (fun a b => a.1 ≤ b.1) ≠ [] := by
        intro h
        have hlength := hperm.length_eq
        rw [h, sortFields_eq_map] at hlength
        cases hlength
      rw [sortKeys, utf8Len_print_obj hne, utf8Len_print_obj (List.cons_ne_nil f fs),
        (hperm.map (fieldSize ascii)).sum_eq, map_fieldSize_sortFields (f :: fs)]

theorem utf8Len_printItems_sortItems : ∀ vs : List Json,
    String.utf8Len (printItems ascii (sortItems vs)) = String.utf8Len (printItems ascii vs)
  | [] => rfl
  | v :: vs => by
      simp only [sortItems, printItems, String.utf8Len_cons, String.utf8Len_append,
        utf8Len_print_sortKeys v, utf8Len_printItems_sortItems vs]

theorem map_fieldSize_sortFields : ∀ fs : List (String × Json),
    (sortFields fs).map (fieldSize ascii) = fs.map (fieldSize ascii)
  | [] => rfl
  | (k, v) :: fs => by
      simp only [sortFields, List.map_cons, fieldSize, utf8Len_print_sortKeys v,
        map_fieldSize_sortFields fs]

end

/-- The size of a text without sorting its keys. -/
theorem utf8ByteSize_dumps (v : Json) :
    (dumps ascii v).utf8ByteSize = String.utf8Len (print ascii v) := by
  rw [dumps_eq, String.utf8ByteSize_ofList, utf8Len_print_sortKeys]

end Json
end Py
