/-
AgentPlatform/Capability/Values.lean

Values of the capability gateway: which texts and keys look like a secret, and
which mappings are frozen as bounded JSON (`models.py`).

A value is a tree. A container that is met again, in a cycle or by another
reference, is the leaf `again`; the traversal of `_contains_secret` raises where
it comes to one. `raising` is a mapping that raises when it is read, and
`object` any other one. **Main result:** `frozen_operation_iff`, when the
mapping of an operation and of arguments that have been frozen is frozen itself.
-/
import AgentPlatform.Py.Json
import AgentPlatform.Py.Text

namespace AgentPlatform

open Py

namespace Capability

/-! ### Secret-like texts -/

/-- `re.IGNORECASE` for a lower-case letter: besides the two ASCII forms there is
one more for `s` and one for `k`. -/
def letter (lower c : Char) : Bool :=
  c.toLower = lower || (lower = 's' && c = '\u017f') || (lower = 'k' && c = '\u212a')

/-- `[a-z0-9]` with `re.IGNORECASE`. -/
def alphanumeric (c : Char) : Bool :=
  c.isAlphanum || c = '\u0130' || c = '\u0131' || c = '\u017f' || c = '\u212a'

/-- The text after a literal, of which every character is tested. -/
def after (tests : List (Char → Bool)) (l : List Char) : Option (List Char) :=
  match tests, l with
  | [], l => some l
  | test :: tests, c :: l => if test c then after tests l else none
  | _ :: _, [] => none

def literal (s : String) : List (Char → Bool) := s.toList.map fun c d => c = d

def foldedLiteral (s : String) : List (Char → Bool) := s.toList.map letter

/-- `X{n,}$`: at least `n` characters of the class up to the end, or up to a last
line feed. -/
def endsIn (n : Nat) (p : Char → Bool) (l : List Char) : Bool :=
  n ≤ (l.takeWhile p).length && (l.dropWhile p = [] || l.dropWhile p = ['\n'])

/-- `[A-Z0-9 ]+ PRIVATE KEY-----`. -/
def keyName : List Char → Bool
  | [] => false
  | c :: l => (c.isUpper || c.isDigit || c = ' ')
      && ((after (literal " PRIVATE KEY-----") l).isSome || keyName l)

/-- `-----BEGIN (?:[A-Z0-9 ]+ )?PRIVATE KEY-----`, anywhere. -/
def privateKey : List Char → Bool
  | [] => false
  | c :: l => ((after (literal "-----BEGIN ") (c :: l)).any fun rest =>
      (after (literal "PRIVATE KEY-----") rest).isSome || keyName rest) || privateKey l

/-- `^bearer\s+[a-z0-9._~+/=-]{8,}$`. -/
def bearer (l : List Char) : Bool :=
  (after (foldedLiteral "bearer") l).any fun rest =>
    rest.head?.any isSpace
      && endsIn 8 (fun c => alphanumeric c || "._~+/=-".toList.contains c) (rest.dropWhile isSpace)

def dash (c : Char) : Bool := c = '-' || c = '_'

/-- `^(?:sk|rk|pk)[-_](?:test[-_])?[a-z0-9]{16,}$`. -/
def keyText (l : List Char) : Bool :=
  ["sk", "rk", "pk"].any fun start =>
    (after (foldedLiteral start ++ [dash]) l).any fun rest =>
      endsIn 16 alphanumeric rest
        || (after (foldedLiteral "test" ++ [dash]) rest).any (endsIn 16 alphanumeric)

/-- A text that one of `SECRET_VALUE_PATTERNS` finds. -/
def secretText (s : String) : Bool := privateKey s.toList || bearer s.toList || keyText s.toList

/-- `str.casefold` and `str.isalnum`, tables of the Unicode database. -/
class FoldingTables where
  casefold : Char → List Char
  isalnum : Char → Bool
  ascii : ∀ c : Char, 'a' ≤ c → c ≤ 'z' → casefold c = [c] ∧ isalnum c = true

/-- The tables for texts that are all ASCII. -/
@[reducible] def FoldingTables.ofAscii : FoldingTables where
  casefold c := [c.toLower]
  isalnum c := c.isAlphanum
  ascii c ha hz := by
    have hlow : 97 ≤ c.toNat := ha
    have hhigh : c.toNat ≤ 122 := hz
    have hall : ∀ n < 26, [(Char.ofNat (97 + n)).toLower] = [Char.ofNat (97 + n)]
        ∧ (Char.ofNat (97 + n)).isAlphanum = true := by decide
    have := hall (c.toNat - 97) (by omega)
    rwa [Nat.add_sub_cancel' hlow, Char.ofNat_toNat] at this

def secretMarkers : List String :=
  ["authorization", "credential", "password", "secret", "token", "apikey"]

def secretKey [FoldingTables] (value : String) : Bool :=
  let normalized := (value.toList.flatMap FoldingTables.casefold).filter FoldingTables.isalnum
  secretMarkers.any fun marker => normalized.tails.any marker.toList.isPrefixOf

/-! ### Values -/

/-- A key of a dictionary: a text, a number (`int`, `float` or `bool`) by the text
that `json` writes, `None`, or another object. -/
inductive Key
  | str (s : String)
  | number (text : String)
  | null
  | other

/-- The objects that come to the gateway. -/
inductive Value
  | null
  | bool (b : Bool)
  | int (n : Int)
  | float (text : String)
  | str (s : String)
  /-- A list or a tuple. -/
  | list (items : List Value)
  | dict (entries : List (Key × Value))
  /-- A mapping that is no dictionary. -/
  | mapping (entries : List (Key × Value))
  | again (sequence : Bool)
  | raising
  | object

/-- An exception. -/
inductive Fault
  /-- `CapabilityModelError`. -/
  | model (message : String)
  | other
  deriving DecidableEq

def Key.text? : Key → Option String
  | .str s => some s
  | _ => none

mutual

/-- How many objects a value consists of. -/
def Value.nodes : Value → Nat
  | .list items => nodesItems items + 1
  | .dict entries => nodesEntries entries + 1
  | .mapping entries => nodesEntries entries + 1
  | _ => 1

def nodesItems : List Value → Nat
  | [] => 0
  | v :: vs => v.nodes + nodesItems vs

def nodesEntries : List (Key × Value) → Nat
  | [] => 0
  | (_, v) :: entries => v.nodes + nodesEntries entries

end

mutual

/-- How deep containers are nested in a value. -/
def Value.depth : Value → Nat
  | .list items => depthItems items + 1
  | .dict entries => depthEntries entries + 1
  | .mapping entries => depthEntries entries + 1
  | _ => 0

def depthItems : List Value → Nat
  | [] => 0
  | v :: vs => max v.depth (depthItems vs)

def depthEntries : List (Key × Value) → Nat
  | [] => 0
  | (_, v) :: entries => max v.depth (depthEntries entries)

end

/-- Keys that `json.dumps` can sort: all texts, all numbers, or one key. -/
def sortable (keys : List Key) : Bool :=
  keys.all (fun | .str _ => true | _ => false) || keys.all (fun | .number _ => true | _ => false)
    || (match keys with | [.null] => true | _ => false)

def Key.encoded : Key → Nat
  | .str s => (Json.printStr true s).length
  | .number text => text.length + 2
  | .null => 6
  | .other => 0

mutual

/-- The length of `json.dumps(value, separators=(",", ":"), sort_keys=True).encode()`
of a deep copy, which the order of the keys does not change; `none` where a copy
or its text cannot be made. An integer is written with 4300 digits at most. -/
def Value.encoded : Value → Option Nat
  | .null => some 4
  | .bool b => some (if b then 4 else 5)
  | .int n => if n.natAbs < 10 ^ 4300 then some (Json.printInt n).length else none
  | .float text => some text.length
  | .str s => some (Json.printStr true s).length
  | .list [] => some 2
  | .list (v :: vs) => do return 1 + (← v.encoded) + 1 + (← encodedItems vs)
  | .dict entries =>
    if sortable (entries.map (·.1)) then
      match entries with
      | [] => some 2
      | (k, v) :: entries => do return 1 + k.encoded + 1 + (← v.encoded) + 1 + (← encodedEntries entries)
    else none
  | _ => none

/-- Items, each with the comma or bracket after it. -/
def encodedItems : List Value → Option Nat
  | [] => some 0
  | v :: vs => do return (← v.encoded) + 1 + (← encodedItems vs)

/-- Entries, each with the colon in it and the comma or brace after it. -/
def encodedEntries : List (Key × Value) → Option Nat
  | [] => some 0
  | (k, v) :: entries => do return k.encoded + 1 + (← v.encoded) + 1 + (← encodedEntries entries)

end

/-! ### Frozen mappings -/

/-- `stack.extend(items)`. -/
def push (items stack : List Value) : List Value := items.reverse ++ stack

/-- The values of a mapping, pushed one by one. -/
def pushValues (entries : List (Key × Value)) (stack : List Value) : List Value :=
  push (entries.map (·.2)) stack

theorem nodesItems_append (vs ws : List Value) :
    nodesItems (vs ++ ws) = nodesItems vs + nodesItems ws := by
  induction vs with
  | nil => simp [nodesItems]
  | cons v vs ih => simp [nodesItems, ih, Nat.add_assoc]

theorem nodesItems_push (items stack : List Value) :
    nodesItems (push items stack) = nodesItems items + nodesItems stack := by
  rw [push, nodesItems_append, Nat.add_right_cancel_iff]
  induction items with
  | nil => rfl
  | cons v vs ih => simp [nodesItems_append, nodesItems, ih, Nat.add_comm]

theorem nodesItems_pushValues (entries : List (Key × Value)) (stack : List Value) :
    nodesItems (pushValues entries stack) = nodesEntries entries + nodesItems stack := by
  rw [pushValues, nodesItems_push, Nat.add_right_cancel_iff]
  induction entries with
  | nil => rfl
  | cons e entries ih => simp [nodesItems, nodesEntries, ih]

theorem push_append (items stack rest : List Value) :
    push items (stack ++ rest) = push items stack ++ rest := by
  simp [push]

/-- `MAX_REQUEST_BYTES` and `MAX_EVIDENCE_BYTES`. -/
def maxRequestBytes : Nat := 65536
def maxEvidenceBytes : Nat := 65536

variable [FoldingTables]

/-- A text of lower-case letters is its own normal form. -/
theorem secretKey_of_lower {s : String} (h : ∀ c ∈ s.toList, 'a' ≤ c ∧ c ≤ 'z') :
    secretKey s = secretMarkers.any fun marker => s.toList.tails.any marker.toList.isPrefixOf := by
  have hfold : ∀ l : List Char, (∀ c ∈ l, 'a' ≤ c ∧ c ≤ 'z') →
      (l.flatMap FoldingTables.casefold).filter FoldingTables.isalnum = l := by
    intro l hl
    induction l with
    | nil => rfl
    | cons c l ih =>
      have hc := hl c List.mem_cons_self
      obtain ⟨hcase, hisalnum⟩ := FoldingTables.ascii c hc.1 hc.2
      rw [List.flatMap_cons, List.filter_append, ih fun d hd => hl d (List.mem_cons_of_mem _ hd),
        hcase, List.filter_cons_of_pos hisalnum]
      rfl
  rw [secretKey, hfold _ h]

theorem secretKey_operation : secretKey "operation" = false := by
  rw [secretKey_of_lower (by decide)]
  decide

theorem secretKey_arguments : secretKey "arguments" = false := by
  rw [secretKey_of_lower (by decide)]
  decide

/-- A key that looks like a secret. -/
def Key.secret : Key → Bool
  | .str s => secretKey s
  | _ => false

/-- `_contains_secret`, from the objects that are left; the next one is the last
that was pushed. -/
def containsSecret : List Value → Except Fault Bool
  | [] => .ok false
  | .str s :: stack => if secretText s then .ok true else containsSecret stack
  | .dict entries :: stack | .mapping entries :: stack =>
    if entries.any (·.1.secret) then .ok true else containsSecret (pushValues entries stack)
  | .list items :: stack => containsSecret (push items stack)
  | .again sequence :: _ =>
    .error (.model (if sequence then "cyclic sequences are unsupported"
      else "cyclic mappings are unsupported"))
  | .raising :: _ => .error .other
  | .null :: stack | .bool _ :: stack | .int _ :: stack | .float _ :: stack | .object :: stack =>
    containsSecret stack
termination_by stack => nodesItems stack
decreasing_by
  all_goals
    simp only [nodesItems_push, nodesItems_pushValues, nodesItems, Value.nodes]
    omega

/-- `_frozen_json_mapping`. A copy is made and written by recursion; `nesting` is
how deep the recursion limit lets it come. -/
def frozenJsonMapping (nesting : Nat) (value : Value) (name : String) (maxBytes : Nat) :
    Except Fault (List (Key × Value)) :=
  match value with
  | .raising => .error .other
  | .dict entries | .mapping entries =>
    if entries.all (·.1.text?.isSome) = false then
      .error (.model (name ++ " must be a string-keyed mapping"))
    else
      match containsSecret [value] with
      | .error e => .error e
      | .ok true => .error (.model (name ++ " contains a secret-like key"))
      | .ok false =>
        match (if depthEntries entries ≤ nesting then (Value.dict entries).encoded else none) with
        | none => .error (.model (name ++ " must contain bounded JSON values"))
        | some length =>
          if maxBytes < length then .error (.model (name ++ " exceeds the size boundary"))
          else .ok entries
  | _ => .error (.model (name ++ " must be a string-keyed mapping"))

/-- **What is on the stack below is looked at last.** -/
theorem containsSecret_append (stack rest : List Value) :
    containsSecret (stack ++ rest) = match containsSecret stack with
      | .ok false => containsSecret rest
      | result => result := by
  fun_induction containsSecret stack with
  | case1 => rfl
  | case2 s stack h => rw [List.cons_append, containsSecret, if_pos h]
  | case3 s stack h ih => rw [List.cons_append, containsSecret, if_neg h, ih]
  | case4 entries stack h => rw [List.cons_append, containsSecret, if_pos h]
  | case5 entries stack h ih =>
    rw [List.cons_append, containsSecret, if_neg h, pushValues, push_append]
    exact ih
  | case6 entries stack h => rw [List.cons_append, containsSecret, if_pos h]
  | case7 entries stack h ih =>
    rw [List.cons_append, containsSecret, if_neg h, pushValues, push_append]
    exact ih
  | case8 items stack ih =>
    rw [List.cons_append, containsSecret, push_append]
    exact ih
  | case9 sequence stack => rw [List.cons_append, containsSecret]
  | case10 stack => rw [List.cons_append, containsSecret]
  | case11 stack ih => rwa [List.cons_append, containsSecret]
  | case12 b stack ih => rwa [List.cons_append, containsSecret]
  | case13 n stack ih => rwa [List.cons_append, containsSecret]
  | case14 text stack ih => rwa [List.cons_append, containsSecret]
  | case15 stack ih => rwa [List.cons_append, containsSecret]

/-- What a mapping maps. -/
def Value.entries? : Value → Option (List (Key × Value))
  | .dict entries | .mapping entries => some entries
  | _ => none

/-- What a frozen mapping fulfils. -/
structure Frozen (nesting maxBytes : Nat) (entries : List (Key × Value)) : Prop where
  keys : entries.all (·.1.text?.isSome) = true
  plain : containsSecret [.dict entries] = .ok false
  depth : depthEntries entries ≤ nesting
  size : ∃ length, (Value.dict entries).encoded = some length ∧ length ≤ maxBytes

variable {nesting maxBytes : Nat} {name : String} {entries : List (Key × Value)}

/-- **When a value is frozen**: it is a mapping, and what it maps fits. -/
theorem frozenJsonMapping_eq_ok {value : Value} :
    frozenJsonMapping nesting value name maxBytes = .ok entries
      ↔ value.entries? = some entries ∧ Frozen nesting maxBytes entries := by
  have hmain : ∀ (v : Value) (es : List (Key × Value)),
      containsSecret [v] = containsSecret [.dict es] →
      ((if es.all (·.1.text?.isSome) = false then
          (.error (.model (name ++ " must be a string-keyed mapping")) : Except Fault _)
        else match containsSecret [v] with
        | .error e => .error e
        | .ok true => .error (.model (name ++ " contains a secret-like key"))
        | .ok false =>
          match (if depthEntries es ≤ nesting then (Value.dict es).encoded else none) with
          | none => .error (.model (name ++ " must contain bounded JSON values"))
          | some length =>
            if maxBytes < length then .error (.model (name ++ " exceeds the size boundary"))
            else .ok es) = .ok entries
        ↔ some es = some entries ∧ Frozen nesting maxBytes entries) := by
    intro v es hsecret
    rw [hsecret]
    constructor
    · intro h
      split at h
      · cases h
      · next hkeys =>
        split at h
        · cases h
        · cases h
        · next hplain =>
          split at h
          · cases h
          · next length hlength =>
            split at h
            · cases h
            · next hsize =>
              cases h
              split at hlength
              · next hdepth =>
                exact ⟨rfl, eq_true_of_ne_false hkeys, hplain, hdepth, length, hlength,
                  Nat.le_of_not_lt hsize⟩
              · cases hlength
    · rintro ⟨heq, hkeys, hplain, hdepth, length, hlength, hsize⟩
      cases heq
      rw [if_neg (by rw [hkeys]; exact nofun), hplain, if_pos hdepth, hlength]
      exact if_neg (Nat.not_lt.mpr hsize)
  cases value with
  | dict es => exact hmain _ es rfl
  | mapping es => exact hmain _ es (by rw [containsSecret, containsSecret])
  | _ => exact ⟨nofun, fun h => nomatch h.1⟩

/-- The body of a request for an operation. -/
def operationBody (operation : String) (arguments : List (Key × Value)) : List (Key × Value) :=
  [(.str "operation", .str operation), (.str "arguments", .dict arguments)]

/-- **When the body of a request is frozen**, if the arguments have been: the
operation does not look like a secret, and the body is not nested too deep and
not too long. -/
theorem frozen_operation_iff {operation : String} {outer : Nat} {arguments : List (Key × Value)}
    {length : Nat} (h : Frozen outer maxBytes arguments)
    (hlength : (Value.dict arguments).encoded = some length) :
    Frozen nesting maxBytes (operationBody operation arguments)
      ↔ secretText operation = false ∧ depthEntries arguments + 1 ≤ nesting
        ∧ (Json.printStr true operation).length + length + 27 ≤ maxBytes := by
  have hsecret : containsSecret [.dict (operationBody operation arguments)]
      = .ok (secretText operation) := by
    have hkeys : ¬ (operationBody operation arguments).any (·.1.secret) = true := by
      simp [operationBody, Key.secret, secretKey_operation, secretKey_arguments]
    rw [containsSecret, if_neg hkeys]
    change containsSecret ([.dict arguments] ++ [.str operation]) = _
    rw [containsSecret_append, h.plain]
    cases htext : secretText operation <;> simp [containsSecret, htext]
  have hdepth : depthEntries (operationBody operation arguments) = depthEntries arguments + 1 := by
    simp [operationBody, depthEntries, Value.depth]
  have hencoded : (Value.dict (operationBody operation arguments)).encoded
      = some ((Json.printStr true operation).length + length + 27) := by
    have hsort : sortable ((operationBody operation arguments).map (·.1)) = true := rfl
    have hoperation : (Key.str "operation").encoded = 11 := rfl
    have harguments : (Key.str "arguments").encoded = 11 := rfl
    have htext : (Value.str operation).encoded = some (Json.printStr true operation).length := by
      rw [Value.encoded]
    rw [operationBody] at hsort ⊢
    rw [Value.encoded, if_pos hsort]
    simp only [encodedEntries, htext, hlength, hoperation, harguments,
      Option.pure_def, Option.bind_eq_bind, Option.bind_some]
    exact congrArg some (by omega)
  constructor
  · rintro ⟨-, hplain, hnesting, length', hlength', hsize⟩
    rw [hencoded] at hlength'
    cases hlength'
    rw [hsecret] at hplain
    exact ⟨Except.ok.inj hplain, hdepth ▸ hnesting, hsize⟩
  · rintro ⟨hplain, hnesting, hsize⟩
    exact ⟨rfl, by rw [hsecret, hplain], hdepth ▸ hnesting, _, hencoded, hsize⟩

end Capability

end AgentPlatform
