/-
AgentPlatform/Py/JsonRead.lean

`json.loads`, as a recursive descent over the characters of the text with fuel.
Whitespace, the escapes of strings, surrogate pairs and repeated keys (the last
value wins, in the place of the first) follow the scanner of the `json` module.
Two things Python reads have no value here, and the reader fails on them: numbers
with a fraction or an exponent (and `NaN`, `Infinity`), and escapes that stand
for half of a surrogate pair.

Main result: a value whose objects have distinct keys is read back from its
canonical text, with sorted keys (`loads_dumps`).
-/
import AgentPlatform.Py.Json

namespace Py
namespace Json

/-! ### The reader -/

def isBlank (c : Char) : Bool := c = ' ' || c = '\t' || c = '\n' || c = '\r'

def skip (cs : List Char) : List Char := cs.dropWhile isBlank

def hexValue (c : Char) : Option Nat :=
  if '0' ≤ c ∧ c ≤ '9' then some (c.toNat - 48)
  else if 'a' ≤ c ∧ c ≤ 'f' then some (c.toNat - 87)
  else if 'A' ≤ c ∧ c ≤ 'F' then some (c.toNat - 55)
  else none

def readHex4 : List Char → Option (Nat × List Char)
  | a :: b :: c :: d :: r => do
    let a ← hexValue a
    let b ← hexValue b
    let c ← hexValue c
    let d ← hexValue d
    some (((a * 16 + b) * 16 + c) * 16 + d, r)
  | _ => none

/-- The character with a code point; half of a surrogate pair has none. -/
def charOf (n : Nat) : Option Char :=
  if n.isValidChar then some (Char.ofNat n) else none

/-- What follows a backslash. -/
def readEscape : List Char → Option (Char × List Char)
  | 'u' :: r => do
    let (n, r) ← readHex4 r
    if 0xd800 ≤ n ∧ n ≤ 0xdbff then
      match r with
      | '\\' :: 'u' :: r => do
        let (m, r) ← readHex4 r
        if 0xdc00 ≤ m ∧ m ≤ 0xdfff then
          let c ← charOf (0x10000 + (n - 0xd800) * 1024 + (m - 0xdc00))
          some (c, r)
        else none
      | _ => none
    else do
      let c ← charOf n
      some (c, r)
  | e :: r =>
    if e ∈ ['"', '\\', '/', 'b', 'f', 'n', 'r', 't'] then some (shortUnescape e, r) else none
  | [] => none

/-- The characters of a string up to its closing quote. -/
def readChars : Nat → List Char → Option (List Char × List Char)
  | 0, _ => none
  | _ + 1, [] => none
  | n + 1, c :: r =>
    if c = '"' then some ([], r)
    else if c = '\\' then do
      let (c, r) ← readEscape r
      let (cs, r) ← readChars n r
      some (c :: cs, r)
    else if c.toNat < 32 then none
    else do
      let (cs, r) ← readChars n r
      some (c :: cs, r)

/-- The rest of a string after its opening quote. -/
def readString (r : List Char) : Option (String × List Char) := do
  let (cs, r) ← readChars (r.length + 1) r
  some (String.ofList cs, r)

/-- `0` or a run of digits that does not start with `0`. -/
def readNat : List Char → Option (Nat × List Char)
  | [] => none
  | c :: r =>
    if c = '0' then some (0, r)
    else if c.isDigit then
      some (Nat.ofDigitChars 10 ((c :: r).takeWhile Char.isDigit) 0, (c :: r).dropWhile Char.isDigit)
    else none

def readInt : List Char → Option (Int × List Char)
  | '-' :: r => (readNat r).map fun p => (-p.1, p.2)
  | r => (readNat r).map fun p => (p.1, p.2)

/-- `d[key] = value` on the fields of a dictionary. -/
def setItem (fields : List (String × Json)) (item : String × Json) : List (String × Json) :=
  if fields.any (·.1 = item.1) then fields.map fun p => if p.1 = item.1 then item else p
  else fields ++ [item]

/-- The dictionary of the fields in the order they are read. -/
def dict (fields : List (String × Json)) : List (String × Json) := fields.foldl setItem []

mutual

def readValue : Nat → List Char → Option (Json × List Char)
  | 0, _ => none
  | _ + 1, [] => none
  | n + 1, c :: r =>
    if c = '"' then do
      let (s, r) ← readString r
      some (str s, r)
    else if c = '{' then
      match skip r with
      | '}' :: r => some (obj [], r)
      | r => do
        let (fields, r) ← readFields n r
        some (obj (dict fields), r)
    else if c = '[' then
      match skip r with
      | ']' :: r => some (arr [], r)
      | r => do
        let (items, r) ← readItems n r
        some (arr items, r)
    else if c = 'n' ∧ r.take 3 = ['u', 'l', 'l'] then some (null, r.drop 3)
    else if c = 't' ∧ r.take 3 = ['r', 'u', 'e'] then some (bool true, r.drop 3)
    else if c = 'f' ∧ r.take 4 = ['a', 'l', 's', 'e'] then some (bool false, r.drop 4)
    else do
      let (i, r) ← readInt (c :: r)
      some (int i, r)

/-- The items of a list that is not empty. -/
def readItems : Nat → List Char → Option (List Json × List Char)
  | 0, _ => none
  | n + 1, cs => do
    let (v, r) ← readValue n cs
    match skip r with
    | ']' :: r => some ([v], r)
    | ',' :: r => do
      let (vs, r) ← readItems n (skip r)
      some (v :: vs, r)
    | _ => none

/-- The fields of an object that is not empty. -/
def readFields : Nat → List Char → Option (List (String × Json) × List Char)
  | 0, _ => none
  | n + 1, '"' :: r => do
    let (k, r) ← readString r
    match skip r with
    | ':' :: r => do
      let (v, r) ← readValue n (skip r)
      match skip r with
      | '}' :: r => some ([(k, v)], r)
      | ',' :: r => do
        let (fields, r) ← readFields n (skip r)
        some ((k, v) :: fields, r)
      | _ => none
    | _ => none
  | _ + 1, _ => none

end

def loads (text : String) : Option Json := do
  let (v, r) ← readValue (text.toList.length + 1) (skip text.toList)
  if skip r = [] then some v else none

example : (loads " [1, -20, null, \"\\u00e9\\n\", \x7b\"b\": 1, \"a\": 0, \"b\": true\x7d] ").map (dumps false)
    = some "[1,-20,null,\"é\\n\",\x7b\"a\":0,\"b\":true\x7d]" := by decide +kernel

/-! ### Pieces -/

theorem skip_cons {c : Char} (h : isBlank c = false) (r : List Char) : skip (c :: r) = c :: r := by
  rw [skip, List.dropWhile_cons_of_neg (by simp [h])]

theorem hexValue_hexDigit (n : Nat) : hexValue (hexDigit n) = some (n % 16) := by
  have key : ∀ m : Fin 16, hexValue (Nat.digitChar m) = some m.val := by decide
  exact key ⟨n % 16, Nat.mod_lt _ (by decide)⟩

theorem readHex4_hex4 {n : Nat} (h : n < 65536) (r : List Char) :
    readHex4 (hex4 n ++ r) = some (n, r) := by
  simp only [hex4, List.cons_append, List.nil_append, readHex4, hexValue_hexDigit,
    Option.bind_eq_bind, Option.bind_some]
  congr 2
  omega

theorem charOf_toNat (c : Char) : charOf c.toNat = some c := by
  have hvalid : c.toNat.isValidChar := c.valid
  rw [charOf, if_pos hvalid, Char.ofNat_toNat]

variable {ascii : Bool}

/-- Two escapes for a character beyond the basic plane are read as one. -/
theorem readEscape_pair {c : Char} (hge : 65536 ≤ c.toNat) (r : List Char) :
    readEscape ('u' :: (hex4 (55296 + (c.toNat - 65536) / 1024)
      ++ '\\' :: 'u' :: (hex4 (56320 + (c.toNat - 65536) % 1024) ++ r))) = some (c, r) := by
  have hv : c.toNat < 55296 ∨ 57343 < c.toNat ∧ c.toNat < 1114112 := c.valid
  obtain ⟨d, hd⟩ : ∃ d, c.toNat = 65536 + d := ⟨c.toNat - 65536, by omega⟩
  have hchar : charOf (65536 + d) = some c := by rw [← hd, charOf_toNat]
  have hsub : c.toNat - 65536 = d := by omega
  rw [hsub]
  have hlt : d < 1048576 := by omega
  have hhigh : 0xd800 ≤ 55296 + d / 1024 ∧ 55296 + d / 1024 ≤ 0xdbff := by omega
  have hlow : 0xdc00 ≤ 56320 + d % 1024 ∧ 56320 + d % 1024 ≤ 0xdfff := by omega
  have hsum : 0x10000 + (55296 + d / 1024 - 0xd800) * 1024 + (56320 + d % 1024 - 0xdc00)
      = 65536 + d := by omega
  rw [readEscape, readHex4_hex4 (by omega)]
  simp only [Option.bind_eq_bind, Option.bind_some]
  rw [if_pos hhigh, readHex4_hex4 (by omega)]
  simp only [Option.bind_some]
  rw [if_pos hlow, hsum, hchar]
  rfl

/-- An escaped character is read back. -/
theorem readChars_escapeChar (n : Nat) (c : Char) (r : List Char) :
    readChars (n + 1) (escapeChar ascii c ++ r)
      = (readChars n r).map fun p => (c :: p.1, p.2) := by
  have hmap : ∀ o : Option (List Char × List Char),
      (o >>= fun p => some (c :: p.1, p.2)) = o.map fun p => (c :: p.1, p.2) := by
    intro o
    cases o <;> rfl
  have hescape : ∀ {t : List Char}, readEscape t = some (c, r) →
      readChars (n + 1) ('\\' :: t) = (readChars n r).map fun p => (c :: p.1, p.2) := by
    intro t hread
    rw [readChars, if_neg (by decide), if_pos rfl, hread]
    exact hmap _
  rcases escapeChar_shapes ascii c with ⟨e, he, hc⟩ | ⟨hlt, hc⟩ | ⟨hge, hc⟩ | ⟨hq, hb, hc⟩
  · have hmem : e ∈ ['"', '\\', '/', 'b', 'f', 'n', 'r', 't'] := by
      unfold shortEscape at he
      split_ifs at he <;> cases he <;> decide
    have hne : e ≠ 'u' := fun h => shortEscape_ne_u (h ▸ he)
    have hread : readEscape (e :: r) = some (c, r) := by
      rw [readEscape, if_pos hmem, shortUnescape_shortEscape he]
      exact hne
    rw [hc]
    exact hescape hread
  · have hread : readEscape ('u' :: (hex4 c.toNat ++ r)) = some (c, r) := by
      have hpair : ¬(0xd800 ≤ c.toNat ∧ c.toNat ≤ 0xdbff) := by
        rintro ⟨hlow, hhigh⟩
        exact not_surrogate c (n := c.toNat - 55296) (by omega) (by omega)
      rw [readEscape, readHex4_hex4 hlt]
      simp only [Option.bind_eq_bind, Option.bind_some]
      rw [if_neg hpair, charOf_toNat]
      rfl
    rw [hc]
    exact hescape hread
  · rw [hc, List.append_assoc]
    exact hescape (readEscape_pair hge r)
  · have hge : ¬c.toNat < 32 := by
      intro hlt
      unfold escapeChar at hc
      split at hc
      · cases hc
      · rw [if_pos hlt] at hc
        cases hc
    rw [hc]
    show (if _ then _ else if _ then _ else if _ then _ else _) = _
    rw [if_neg hq, if_neg hb, if_neg hge]
    exact hmap _

theorem escapes_length (cs : List Char) : cs.length ≤ (escapes ascii cs).length := by
  induction cs with
  | nil => simp
  | cons c cs ih =>
    have : 1 ≤ (escapeChar ascii c).length := by
      rcases escapeChar_shapes ascii c with ⟨e, -, hc⟩ | ⟨-, hc⟩ | ⟨-, hc⟩ | ⟨-, -, hc⟩ <;> rw [hc] <;>
        simp
    simp only [escapes, List.length_append, List.length_cons]
    omega

theorem readChars_escapes (cs : List Char) {n : Nat} (h : cs.length < n) (r : List Char) :
    readChars n (escapes ascii cs ++ '"' :: r) = some (cs, r) := by
  induction cs generalizing n with
  | nil =>
    obtain ⟨n, rfl⟩ := Nat.exists_eq_succ_of_ne_zero (Nat.ne_of_gt h)
    rfl
  | cons c cs ih =>
    obtain ⟨n, rfl⟩ := Nat.exists_eq_succ_of_ne_zero (Nat.ne_of_gt (Nat.zero_lt_of_lt h))
    rw [escapes, List.append_assoc, readChars_escapeChar, ih (by simpa using h)]
    rfl

theorem readString_printStr (s : String) (r : List Char) :
    readString (escapes ascii s.toList ++ '"' :: r) = some (s, r) := by
  have hlen : s.toList.length ≤ (escapes ascii s.toList).length := escapes_length s.toList
  have h : s.toList.length < (escapes ascii s.toList ++ '"' :: r).length + 1 := by
    rw [List.length_append]
    omega
  rw [readString, readChars_escapes _ h]
  simp

theorem takeWhile_digits {d r : List Char} (hd : ∀ c ∈ d, c.isDigit = true)
    (hr : ∀ c ∈ r.head?, c.isDigit = false) :
    (d ++ r).takeWhile Char.isDigit = d ∧ (d ++ r).dropWhile Char.isDigit = r := by
  rw [List.takeWhile_append_of_pos hd, List.dropWhile_append_of_pos hd]
  rcases r with _ | ⟨c, r⟩
  · simp
  · simp [hr c (by simp)]

/-- A positive number does not start with a zero. -/
theorem toDigits_head_ne_zero (n : Nat) (h : 0 < n) : (Nat.toDigits 10 n).head? ≠ some '0' := by
  induction n using Nat.strongRecOn with
  | ind n ih =>
    by_cases hlt : n < 10
    · have key : ∀ d : Fin 10, d.val ≠ 0 → [Nat.digitChar d].head? ≠ some '0' := by decide
      rw [Nat.toDigits_of_lt_base hlt]
      exact key ⟨n, hlt⟩ (Nat.ne_of_gt h)
    · rw [Nat.toDigits_of_base_le (by decide) (by omega),
        List.head?_append_of_ne_nil _ Nat.toDigits_ne_nil]
      exact ih (n / 10) (by omega) (by omega)

theorem readNat_toDigits (n : Nat) {r : List Char} (hr : ∀ c ∈ r.head?, c.isDigit = false) :
    readNat (Nat.toDigits 10 n ++ r) = some (n, r) := by
  rcases Nat.eq_zero_or_pos n with rfl | hpos
  · rfl
  · obtain ⟨c, cs, hc, hdig⟩ := toDigits_head n
    have hzero : c ≠ '0' := by
      rintro rfl
      exact toDigits_head_ne_zero n hpos (by rw [hc]; rfl)
    have hsplit := takeWhile_digits (toDigits_isDigit n) hr
    rw [hc] at hsplit ⊢
    simp only [List.cons_append] at hsplit ⊢
    rw [readNat, if_neg hzero, if_pos hdig, hsplit.1, hsplit.2, ← hc, Nat.ofDigitChars_ten_toDigits]

theorem readInt_printInt (i : Int) {r : List Char} (hr : Delimited r) :
    readInt (printInt i ++ r) = some (i, r) := by
  cases i with
  | ofNat n =>
    obtain ⟨c, cs, hc, hdig⟩ := toDigits_head n
    have hminus : c ≠ '-' := by
      rintro rfl
      exact absurd hdig (by decide)
    have hnat := readNat_toDigits n hr.not_digit
    rw [printInt]
    rw [hc] at hnat ⊢
    rw [List.cons_append] at hnat ⊢
    rw [readInt, hnat]
    · rfl
    · intro r' h
      exact hminus (List.cons.inj h).1
  | negSucc n =>
    rw [printInt, List.cons_append, readInt, readNat_toDigits _ hr.not_digit]
    rfl

/-! ### Distinct keys -/

mutual

/-- Every object of the value has distinct keys. -/
def distinctKeys : Json → Bool
  | null => true
  | bool _ => true
  | int _ => true
  | str _ => true
  | arr items => distinctItems items
  | obj fields => decide (fields.map Prod.fst).Nodup && distinctFields fields

def distinctItems : List Json → Bool
  | [] => true
  | v :: vs => distinctKeys v && distinctItems vs

def distinctFields : List (String × Json) → Bool
  | [] => true
  | (_, v) :: fs => distinctKeys v && distinctFields fs

end

theorem distinctFields_iff {fs : List (String × Json)} :
    distinctFields fs = true ↔ ∀ p ∈ fs, p.2.distinctKeys = true := by
  induction fs with
  | nil => simp [distinctFields]
  | cons p fs ih => simp [distinctFields, ih]

theorem distinctKeys_obj {fs : List (String × Json)} :
    (obj fs).distinctKeys = true ↔
      (fs.map Prod.fst).Nodup ∧ ∀ p ∈ fs, p.2.distinctKeys = true := by
  simp [distinctKeys, distinctFields_iff]

theorem keys_sortFields (fs : List (String × Json)) :
    (sortFields fs).map Prod.fst = fs.map Prod.fst := by
  rw [sortFields_eq_map, List.map_map]
  rfl

mutual

/-- Sorting keeps the keys apart. -/
theorem distinctKeys_sortKeys : ∀ v : Json, v.distinctKeys = true →
    v.sortKeys.distinctKeys = true
  | null, _ => rfl
  | bool _, _ => rfl
  | int _, _ => rfl
  | str _, _ => rfl
  | arr items, h => distinctItems_sortItems items h
  | obj fields, h => by
    rw [distinctKeys_obj] at h
    have hp := List.perm_insertionSort (fun a b : String × Json => a.1 ≤ b.1) (sortFields fields)
    rw [sortKeys, distinctKeys_obj]
    constructor
    · rw [(hp.map Prod.fst).nodup_iff, keys_sortFields]
      exact h.1
    · intro p hm
      have hf := distinctFields_sortFields fields (distinctFields_iff.mpr h.2)
      exact distinctFields_iff.mp hf p (hp.mem_iff.mp hm)

theorem distinctItems_sortItems : ∀ vs : List Json, distinctItems vs = true →
    distinctItems (sortItems vs) = true
  | [], _ => rfl
  | v :: vs, h => by
    simp only [distinctItems, Bool.and_eq_true] at h
    simp only [sortItems, distinctItems, Bool.and_eq_true]
    exact ⟨distinctKeys_sortKeys v h.1, distinctItems_sortItems vs h.2⟩

theorem distinctFields_sortFields : ∀ fs : List (String × Json), distinctFields fs = true →
    distinctFields (sortFields fs) = true
  | [], _ => rfl
  | (k, v) :: fs, h => by
    simp only [distinctFields, Bool.and_eq_true] at h
    simp only [sortFields, distinctFields, Bool.and_eq_true]
    exact ⟨distinctKeys_sortKeys v h.1, distinctFields_sortFields fs h.2⟩

end

theorem setItem_new {fs : List (String × Json)} {p : String × Json}
    (h : p.1 ∉ fs.map Prod.fst) : setItem fs p = fs ++ [p] := by
  rw [setItem, if_neg]
  simpa using h

/-- Distinct keys are kept as they are. -/
theorem dict_eq {fs : List (String × Json)} (h : (fs.map Prod.fst).Nodup) : dict fs = fs := by
  have aux : ∀ (before after : List (String × Json)), ((before ++ after).map Prod.fst).Nodup →
      after.foldl setItem before = before ++ after := by
    intro before after
    induction after generalizing before with
    | nil => simp
    | cons p after ih =>
      intro hn
      have hp : p.1 ∉ before.map Prod.fst := by
        intro hm
        rw [List.map_append, List.nodup_append] at hn
        exact hn.2.2 _ hm _ (by simp) rfl
      rw [List.foldl_cons, setItem_new hp, ih]
      · simp
      · simpa using hn
  exact aux [] fs h

/-! ### Reading back -/

theorem isBlank_digit {c : Char} (h : c.isDigit = true) : isBlank c = false := by
  rw [Bool.eq_false_iff]
  intro hb
  simp only [isBlank, Bool.or_eq_true, decide_eq_true_eq] at hb
  rcases hb with ((rfl | rfl) | rfl) | rfl <;> exact absurd h (by decide)

/-- A printed value starts with neither a blank nor a closing bracket. -/
theorem print_head (v : Json) :
    ∃ c cs, print ascii v = c :: cs ∧ isBlank c = false ∧ c ≠ ']' := by
  have close : ∀ {c cs}, print ascii v = c :: cs → c ≠ ']' := by
    rintro c cs hv rfl
    exact print_ne_close v [] cs (by rw [hv, List.append_nil])
  have blank : ∃ c cs, print ascii v = c :: cs ∧ isBlank c = false := by
    cases v with
    | null => exact ⟨'n', _, rfl, rfl⟩
    | bool b => cases b <;> exact ⟨_, _, rfl, rfl⟩
    | int n =>
      cases n with
      | ofNat n =>
        obtain ⟨c, cs, hc, hdig⟩ := toDigits_head n
        exact ⟨c, cs, hc, isBlank_digit hdig⟩
      | negSucc n => exact ⟨'-', _, rfl, rfl⟩
    | str s => exact ⟨'"', _, rfl, rfl⟩
    | arr items => cases items <;> exact ⟨'[', _, rfl, rfl⟩
    | obj fields => rcases fields with _ | ⟨⟨k, v⟩, fs⟩ <;> exact ⟨'{', _, rfl, rfl⟩
  obtain ⟨c, cs, hv, hb⟩ := blank
  exact ⟨c, cs, hv, hb, close hv⟩

theorem skip_print (v : Json) (r : List Char) : skip (print ascii v ++ r) = print ascii v ++ r := by
  obtain ⟨c, cs, hv, hb, -⟩ := print_head v
  rw [hv, List.cons_append, skip_cons hb]

theorem readValue_int (n : Nat) (i : Int) {r : List Char} (hr : Delimited r) :
    readValue (n + 1) (print ascii (int i) ++ r) = some (int i, r) := by
  have hread := readInt_printInt i hr
  have hhead : ∃ c cs, printInt i = c :: cs ∧ (c.isDigit = true ∨ c = '-') := by
    cases i with
    | ofNat n =>
      obtain ⟨c, cs, hc, hdig⟩ := toDigits_head n
      exact ⟨c, cs, hc, .inl hdig⟩
    | negSucc n => exact ⟨'-', _, rfl, .inr rfl⟩
  obtain ⟨c, cs, hc, hkind⟩ := hhead
  have hne : ∀ d ∈ ['"', '{', '[', 'n', 't', 'f'], c ≠ d := by
    have key : ∀ d ∈ ['"', '{', '[', 'n', 't', 'f'], d.isDigit = false ∧ d ≠ '-' := by decide
    rintro d hd rfl
    rcases hkind with h | h
    · rw [(key c hd).1] at h
      cases h
    · exact (key c hd).2 h
  rw [print]
  rw [hc] at hread ⊢
  rw [List.cons_append] at hread ⊢
  rw [readValue, if_neg (hne '"' (by decide)), if_neg (hne '{' (by decide)),
    if_neg (hne '[' (by decide)), if_neg (fun h => hne 'n' (by decide) h.1),
    if_neg (fun h => hne 't' (by decide) h.1), if_neg (fun h => hne 'f' (by decide) h.1), hread]
  rfl

mutual

/-- **A printed value is read back**, whatever delimited text follows it. -/
theorem readValue_print (v : Json) (hv : v.distinctKeys = true) {n : Nat}
    (hn : (print ascii v).length ≤ n) {r : List Char} (hr : Delimited r) :
    readValue n (print ascii v ++ r) = some (v, r) := by
  obtain ⟨c, cs, hc, -⟩ := print_head v
  obtain ⟨n, rfl⟩ : ∃ m, n = m + 1 := by
    rw [hc, List.length_cons] at hn
    exact ⟨n - 1, by omega⟩
  match v with
  | null => rfl
  | bool true => rfl
  | bool false => rfl
  | int i => exact readValue_int n i hr
  | str s =>
    have hread : readString (escapes ascii s.toList ++ '"' :: r) = some (s, r) :=
      readString_printStr s r
    rw [print, printStr_eq, List.cons_append, List.append_assoc, List.cons_append, List.nil_append,
      readValue, if_pos rfl, hread]
    rfl
  | arr [] => rfl
  | arr (v :: vs) =>
    rw [distinctKeys, distinctItems, Bool.and_eq_true] at hv
    simp only [print, List.length_cons, List.length_append] at hn
    have hread := readItems_print v vs hv.1 hv.2 (n := n) (by omega) r
    obtain ⟨d, ds, hd, hblank, hclose⟩ := print_head v
    have hskip : skip (print ascii v ++ (printItems ascii vs ++ r))
        = print ascii v ++ (printItems ascii vs ++ r) := skip_print v _
    rw [print, List.cons_append, List.append_assoc, readValue, if_neg (by decide),
      if_neg (by decide), if_pos rfl, hskip]
    rw [hd, List.cons_append] at hread ⊢
    split
    · next r' heq => exact absurd (List.cons.inj heq).1 hclose
    · rw [hread]
      rfl
  | obj [] => rfl
  | obj ((k, v) :: fs) =>
    have hkeys := (distinctKeys_obj.mp hv).1
    rw [distinctKeys, distinctFields, Bool.and_eq_true, Bool.and_eq_true] at hv
    simp only [print, List.length_cons, List.length_append] at hn
    have hread := readFields_print k v fs hv.2.1 hv.2.2 (n := n) (by omega) r
    simp only [printStr_eq, List.cons_append, List.append_assoc, List.nil_append] at hread
    simp only [print, printStr_eq, List.cons_append, List.append_assoc, List.nil_append]
    rw [readValue, if_neg (by decide), if_pos rfl, skip_cons (by decide)]
    show (readFields n ('"' :: _) >>= _) = _
    rw [hread]
    show some (obj (dict ((k, v) :: fs)), r) = _
    rw [dict_eq hkeys]
termination_by n

theorem readItems_print (v : Json) (vs : List Json) (hv : v.distinctKeys = true)
    (hvs : distinctItems vs = true) {n : Nat}
    (hn : (print ascii v).length + (printItems ascii vs).length ≤ n) (r : List Char) :
    readItems n (print ascii v ++ (printItems ascii vs ++ r)) = some (v :: vs, r) := by
  obtain ⟨c, cs, hc, -⟩ := print_head v
  obtain ⟨n, rfl⟩ : ∃ m, n = m + 1 := by
    rw [hc, List.length_cons] at hn
    exact ⟨n - 1, by omega⟩
  match vs with
  | [] =>
    simp only [printItems, List.length_cons, List.length_nil] at hn
    have hfirst := readValue_print v hv (n := n) (by omega) (delimited_printItems ascii [] r)
    rw [readItems, hfirst]
    rfl
  | w :: ws =>
    rw [distinctItems, Bool.and_eq_true] at hvs
    rw [hc] at hn
    simp only [printItems, List.length_cons, List.length_append] at hn
    have hfirst := readValue_print v hv (n := n) (by rw [hc, List.length_cons]; omega)
      (delimited_printItems ascii (w :: ws) r)
    have hrest := readItems_print w ws hvs.1 hvs.2 (n := n) (by omega) r
    rw [readItems, hfirst]
    simp only [printItems, List.cons_append, List.append_assoc, Option.bind_eq_bind,
      Option.bind_some]
    rw [skip_cons (by decide)]
    show (readItems n (skip (print ascii w ++ _)) >>= _) = _
    rw [skip_print, hrest]
    rfl
termination_by n

theorem readFields_print (k : String) (v : Json) (fs : List (String × Json))
    (hv : v.distinctKeys = true) (hfs : distinctFields fs = true) {n : Nat}
    (hn : (printStr ascii k).length + (1 + ((print ascii v).length + (printFields ascii fs).length))
      ≤ n) (r : List Char) :
    readFields n (printStr ascii k ++ ':' :: (print ascii v ++ (printFields ascii fs ++ r)))
      = some ((k, v) :: fs, r) := by
  obtain ⟨n, rfl⟩ : ∃ m, n = m + 1 := ⟨n - 1, by omega⟩
  have hkey : readString (escapes ascii k.toList
      ++ '"' :: ':' :: (print ascii v ++ (printFields ascii fs ++ r)))
        = some (k, ':' :: (print ascii v ++ (printFields ascii fs ++ r))) :=
    readString_printStr k (':' :: (print ascii v ++ (printFields ascii fs ++ r)))
  have hskip : skip (print ascii v ++ (printFields ascii fs ++ r))
      = print ascii v ++ (printFields ascii fs ++ r) := skip_print v _
  have hpos : 1 ≤ (printFields ascii fs).length := by
    rcases fs with _ | ⟨⟨k, v⟩, fs⟩ <;> simp [printFields]
  have hfirst := readValue_print v hv (n := n) (by omega) (delimited_printFields ascii fs r)
  simp only [printStr_eq, List.cons_append, List.append_assoc, List.nil_append]
  rw [readFields, hkey]
  simp only [Option.bind_eq_bind, Option.bind_some]
  rw [skip_cons (by decide)]
  simp only
  rw [hskip, hfirst]
  match fs with
  | [] => rfl
  | (k', w) :: gs =>
    rw [distinctFields, Bool.and_eq_true] at hfs
    simp only [printFields, List.length_cons, List.length_append] at hn
    have hrest := readFields_print k' w gs hfs.1 hfs.2 (n := n) (by omega) r
    simp only [printFields, List.cons_append, List.append_assoc, Option.bind_some]
    rw [skip_cons (by decide)]
    simp only
    simp only [printStr_eq, List.cons_append, List.append_assoc, List.nil_append] at hrest ⊢
    rw [skip_cons (by decide), hrest]
    rfl
termination_by n

end

/-- **Canonical text is read back** with sorted keys. -/
theorem loads_dumps {v : Json} (h : v.distinctKeys = true) :
    loads (dumps ascii v) = some v.sortKeys := by
  have hread : readValue ((print ascii v.sortKeys).length + 1) (print ascii v.sortKeys ++ [])
      = some (v.sortKeys, []) :=
    readValue_print v.sortKeys (distinctKeys_sortKeys v h) (by omega) delimited_nil
  have hskip : skip (print ascii v.sortKeys ++ []) = print ascii v.sortKeys ++ [] :=
    skip_print v.sortKeys []
  rw [List.append_nil] at hread hskip
  rw [loads, dumps_eq, String.toList_ofList, hskip, hread]
  rfl

/-- Lookups do not depend on the order of distinct keys. -/
theorem find?_key_of_perm {α : Type*} {fs gs : List (String × α)} (hp : fs.Perm gs)
    (hn : (fs.map Prod.fst).Nodup) (key : String) :
    (fs.find? fun p => p.1 = key) = gs.find? fun p => p.1 = key := by
  have hmem : ∀ {l : List (String × α)} {p q}, (l.map Prod.fst).Nodup → p ∈ l → q ∈ l →
      p.1 = q.1 → p = q := fun hl hp hq h => List.inj_on_of_nodup_map hl hp hq h
  cases hf : fs.find? fun p => p.1 = key with
  | none =>
    rw [eq_comm, List.find?_eq_none]
    exact fun p hmem => List.find?_eq_none.mp hf p (hp.mem_iff.mpr hmem)
  | some p =>
    have hpk : p.1 = key := by simpa using List.find?_some hf
    have hpg : p ∈ gs := hp.mem_iff.mp (List.mem_of_find?_eq_some hf)
    obtain ⟨q, hq⟩ : ∃ q, (gs.find? fun p => p.1 = key) = some q :=
      Option.isSome_iff_exists.mp (List.find?_isSome.mpr ⟨p, hpg, by simpa using hpk⟩)
    have hqk : q.1 = key := by simpa using List.find?_some hq
    rw [hq, hmem hn (List.mem_of_find?_eq_some hf)
      (hp.mem_iff.mpr (List.mem_of_find?_eq_some hq)) (hpk.trans hqk.symm)]

theorem get?_sortKeys {fs : List (String × Json)} (hn : (fs.map Prod.fst).Nodup) (key : String) :
    (obj fs).sortKeys.get? key = ((obj fs).get? key).map sortKeys := by
  have hperm : ((sortFields fs).insertionSort fun a b => a.1 ≤ b.1).Perm
      (fs.map fun p => (p.1, sortKeys p.2)) := by
    rw [← sortFields_eq_map]
    exact List.perm_insertionSort _ _
  have hkeys : (((sortFields fs).insertionSort fun a b => a.1 ≤ b.1).map Prod.fst).Nodup := by
    rw [(hperm.map Prod.fst).nodup_iff, List.map_map]
    exact hn
  rw [sortKeys, get?, find?_key_of_perm hperm hkeys, get?, List.find?_map, Option.map_map,
    Option.map_map]
  rfl

end Json
end Py
