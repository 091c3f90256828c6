/-
AgentPlatform/Runtime/SecretScan.lean

The scan of a native configuration for secrets (`providers/native/binding.py`).

`_scan_secret_boundary` walks over a graph of objects with a stack of its own. Every
turn of its loop counts a node, and there is a limit on nodes, so that it ends whatever
the graph is (`scanLoop`). What it has taken off the stack is kept as the contents of a
part of a tree (`Visited`), and a turn goes on exactly if these contents stay clean.
**Main result:** `scan_exact`. The answer is CLEAN exactly for what unfolds into a tree
with clean contents, and a binding is translated only after this answer.
-/
import AgentPlatform.ExecutionEvidence
import AgentPlatform.Runtime.NativeProvider

namespace AgentPlatform

open Py

namespace NativeProvider

open Evidence (foldCase occurs)
open Placement (RuntimeTarget runtimeTarget)

/-! ### Secret texts -/

/-- A regular expression; its classes of characters are predicates. -/
inductive Regex
  | nil
  | one (p : Char → Bool)
  | start
  | stop
  | seq (r s : Regex)
  | alt (r s : Regex)
  | many (r : Regex)
  | ahead (r : Regex)

namespace Regex

/-- What can be left after up to `n` turns. -/
def turns (next : List Char → List (List Char)) : Nat → List Char → List (List Char)
  | 0, cs => [cs]
  | n + 1, cs => cs :: (next cs).flatMap (turns next n)

/-- What can be left of the characters after a match, in a text of some length. -/
def ends (length : Nat) : Regex → List Char → List (List Char)
  | nil, cs => [cs]
  | one _, [] => []
  | one p, c :: cs => if p c then [cs] else []
  | start, cs => if cs.length = length then [cs] else []
  -- `$` matches before a line feed at the end as well
  | stop, cs => if cs = [] ∨ cs = ['\n'] then [cs] else []
  | seq r s, cs => (r.ends length cs).flatMap (s.ends length)
  | alt r s, cs => r.ends length cs ++ s.ends length cs
  | many r, cs => turns (r.ends length) cs.length cs
  | ahead r, cs => if (r.ends length cs).isEmpty then [] else [cs]

/-- `pattern.search(value)`. -/
def search (r : Regex) (value : String) : Bool :=
  value.toList.tails.any fun cs => !(r.ends value.length cs).isEmpty

def concat (rs : List Regex) : Regex := rs.foldr seq nil

def anyOf (rs : List Regex) : Regex := rs.foldr alt (one fun _ => false)

def optional (r : Regex) : Regex := alt r nil

def atLeast (n : Nat) (r : Regex) : Regex := seq (concat (List.replicate n r)) (many r)

/-- The characters of a text, up to their case if `fold` takes it away. -/
def literal (fold : Char → Char) (text : String) : Regex :=
  concat (text.toList.map fun c => one fun d => fold d = c)

/-- `[...]` for the characters of a text. -/
def among (chars : String) : Regex := one chars.toList.contains

def space : Regex := one isSpace

end Regex

section Patterns

open Regex

/-- `[a-z0-9]`, with `re.IGNORECASE`. -/
def isLetterOrDigit (c : Char) : Bool := (foldCase c).isLower || c.isDigit

/-- `[a-z0-9._~+/=-]`, with `re.IGNORECASE`. -/
def tokenChar : Regex := one fun c => isLetterOrDigit c || "._~+/=-".toList.contains c

def secretValuePatterns : List Regex :=
  [ -- -----BEGIN (?:[A-Z0-9 ]+ )?PRIVATE KEY-----
    concat [literal id "-----BEGIN ",
      optional (seq (atLeast 1 (one fun c => c.isUpper || c.isDigit || c = ' ')) (literal id " ")),
      literal id "PRIVATE KEY-----"],
    -- (?:^|\s)bearer\s+(?=[a-z0-9._~+/=-]*[0-9._~+/=-])[a-z0-9._~+/=-]\x7b8,\x7d(?:$|\s)
    concat [alt start space, literal foldCase "bearer", atLeast 1 space,
      ahead (seq (many tokenChar) (one fun c => c.isDigit || "._~+/=-".toList.contains c)),
      atLeast 8 tokenChar, alt stop space],
    -- (?:api[-_ ]?key|credential|password|secret|token)\s*[:=]\s*['"]?[a-z0-9._~+/=-]\x7b8,\x7d
    concat [anyOf [concat [literal foldCase "api", optional (among "-_ "), literal foldCase "key"],
        literal foldCase "credential", literal foldCase "password", literal foldCase "secret",
        literal foldCase "token"],
      many space, among ":=", many space, optional (among "'\""), atLeast 8 tokenChar],
    -- (?:^|[^a-z0-9])(?:sk|rk|pk)[-_](?:test[-_])?[a-z0-9]\x7b16,\x7d
    concat [alt start (one fun c => !isLetterOrDigit c),
      anyOf [literal foldCase "sk", literal foldCase "rk", literal foldCase "pk"], among "-_",
      optional (seq (literal foldCase "test") (among "-_")), atLeast 16 (one isLetterOrDigit)]]

def isSecretValue (value : String) : Bool := secretValuePatterns.any (·.search value)

def secretMarkers : List String := ["apikey", "credential", "password", "secret", "token"]

/-- The characters `[a-z0-9]` of `c.casefold()`: besides the capital letters, a few other
characters are folded to some of them. -/
def foldedChars (c : Char) : List Char :=
  if c.isAlphanum then [c.toLower]
  else match c.toNat with
    | 0x00df | 0x1e9e => ['s', 's']
    | 0x0130 => ['i']
    | 0x0149 => ['n']
    | 0x017f => ['s']
    | 0x01f0 => ['j']
    | 0x1e96 => ['h']
    | 0x1e97 => ['t']
    | 0x1e98 => ['w']
    | 0x1e99 => ['y']
    | 0x1e9a => ['a']
    | 0x212a => ['k']
    | 0xfb00 => ['f', 'f']
    | 0xfb01 => ['f', 'i']
    | 0xfb02 => ['f', 'l']
    | 0xfb03 => ['f', 'f', 'i']
    | 0xfb04 => ['f', 'f', 'l']
    | 0xfb05 | 0xfb06 => ['s', 't']
    | _ => []

def isSecretKey (key : String) : Bool :=
  let normalized := key.toList.flatMap foldedChars
  secretMarkers.any fun marker => occurs marker.toList normalized

end Patterns

/-! ### Objects -/

/-- An object as the scan sees it. Strings have no identity for it. -/
inductive Obj (ι : Type*)
  | str (value : String)
  | container (identity : ι)
  | other

/-- A mapping with its items, where a key that is no string is `none`, or a sequence. -/
inductive Container (ι : Type*)
  | mapping (items : List (Option String × Obj ι))
  | sequence (items : List (Obj ι))

/-- The containers by identity. They may be shared and contain each other. -/
abbrev Heap (ι : Type*) := ι → Container ι

variable {ι : Type*}

/-- The keys, if all of them are strings. -/
def Container.keys : Container ι → Option (List String)
  | mapping items => items.mapM Prod.fst
  | sequence _ => some []

def Container.objects : Container ι → List (Obj ι)
  | mapping items => items.map Prod.snd
  | sequence items => items

/-! ### The scan -/

def maxDepth : Nat := 32
def maxNodes : Nat := 4096
def maxStringLength : Nat := 65536
def maxTotalCharacters : Nat := 262144

/-- The answers that end the scan before its stack is empty. -/
inductive Stop
  | secret
  | unsupported

def Stop.result : Stop → SecretScanResult
  | secret => .secret
  | unsupported => .unsupported

/-- The variables of `_scan_secret_boundary`; the stack begins with its top. -/
structure ScanState (ι : Type*) where
  stack : List (Obj ι × Nat)
  seen : List ι
  nodes : Nat
  characters : Nat
  unsupported : Bool

namespace ScanState

/-- The characters of a string or of a key are added. -/
def count (s : ScanState ι) (text : String) : Except Stop (ScanState ι) :=
  let characters := s.characters + text.length
  if maxStringLength < text.length ∨ maxTotalCharacters < characters then .error .unsupported
  else .ok { s with characters := characters }

def readValue (s : ScanState ι) (value : String) : Except Stop (ScanState ι) := do
  let s ← s.count value
  if isSecretValue value then .error .secret else .ok s

/-- A key of a mapping. -/
def readKey (s : ScanState ι) : Option String → Except Stop (ScanState ι)
  | none => .ok { s with unsupported := true }
  | some key => do
    let s ← s.count key
    if isSecretKey key then .error .secret else .ok s

/-- `stack.append(...)`, with the check behind it. -/
def push (s : ScanState ι) (nested : Obj ι) (depth : Nat) : Except Stop (ScanState ι) :=
  let stack := (nested, depth) :: s.stack
  if maxNodes < stack.length + s.nodes then .error .unsupported else .ok { s with stack := stack }

/-- The loop over the items of a mapping. -/
def pushItems (depth : Nat) : List (Option String × Obj ι) → ScanState ι → Except Stop (ScanState ι)
  | [], s => .ok s
  | (key, nested) :: items, s => do
    let s ← s.readKey key
    let s ← s.push nested depth
    pushItems depth items s

/-- The loop over a sequence. -/
def pushAll (depth : Nat) : List (Obj ι) → ScanState ι → Except Stop (ScanState ι)
  | [], s => .ok s
  | nested :: items, s => do
    let s ← s.push nested depth
    pushAll depth items s

/-- What is contained is put on the stack. -/
def enter (depth : Nat) : Container ι → ScanState ι → Except Stop (ScanState ι)
  | .mapping items, s => pushItems depth items s
  | .sequence items, s => pushAll depth items s

/-- `seen.add(identity)`. -/
def see (s : ScanState ι) (identity : ι) : ScanState ι := { s with seen := identity :: s.seen }

variable [DecidableEq ι]

/-- What is done with the object that was taken off the stack. -/
def visit (heap : Heap ι) (s : ScanState ι) (item : Obj ι) (depth : Nat) :
    Except Stop (ScanState ι) :=
  if maxNodes < s.nodes then .error .unsupported
  else match item with
    | .str value => s.readValue value
    | .container identity =>
      if identity ∈ s.seen ∨ maxDepth ≤ depth then .ok { s with unsupported := true }
      else enter (depth + 1) (heap identity) (s.see identity)
    | .other => .ok { s with unsupported := true }

/-- `stack.pop()` and `nodes += 1`. -/
def pop (s : ScanState ι) (stack : List (Obj ι × Nat)) : ScanState ι :=
  { s with stack := stack, nodes := s.nodes + 1 }

/-! ### What the parts of a turn do -/

variable {s s' : ScanState ι} {heap : Heap ι} {depth : Nat}

omit [DecidableEq ι] in
theorem count_eq_ok {text : String} : s.count text = .ok s' ↔ text.length ≤ maxStringLength ∧
    s.characters + text.length ≤ maxTotalCharacters ∧
    s' = { s with characters := s.characters + text.length } := by
  rw [count, ite_error_eq_ok', not_or, not_lt, not_lt, Except.ok.injEq, and_assoc, eq_comm (b := s')]

omit [DecidableEq ι] in
theorem readValue_eq_ok {value : String} : s.readValue value = .ok s' ↔
    isSecretValue value = false ∧ s.count value = .ok s' := by
  rw [readValue, bind_eq_ok]
  simp only [ite_error_eq_ok', Bool.not_eq_true, Except.ok.injEq]
  constructor
  · rintro ⟨_, hcount, hsecret, rfl⟩
    exact ⟨hsecret, hcount⟩
  · rintro ⟨hsecret, hcount⟩
    exact ⟨_, hcount, hsecret, rfl⟩

omit [DecidableEq ι] in
theorem push_eq_ok {nested : Obj ι} : s.push nested depth = .ok s' ↔
    s.stack.length + 1 + s.nodes ≤ maxNodes ∧ s' = { s with stack := (nested, depth) :: s.stack } := by
  rw [push, ite_error_eq_ok', not_lt, Except.ok.injEq, List.length_cons, eq_comm (b := s')]

omit [DecidableEq ι] in
/-- The loop over a mapping keeps the count of nodes, and notices a key that is no string. -/
theorem pushItems_frame {items : List (Option String × Obj ι)} (h : pushItems depth items s = .ok s') :
    s'.nodes = s.nodes ∧ (s.unsupported = true ∨ items.mapM Prod.fst = none → s'.unsupported = true) := by
  induction items generalizing s with
  | nil =>
    cases h
    exact ⟨rfl, fun h => h.resolve_right (by simp)⟩
  | cons item items ih =>
    obtain ⟨key, nested⟩ := item
    obtain ⟨s₁, hkey, h⟩ := bind_eq_ok.mp h
    obtain ⟨s₂, hpush, h⟩ := bind_eq_ok.mp h
    obtain ⟨-, rfl⟩ := push_eq_ok.mp hpush
    obtain ⟨hnodes, hflag⟩ := ih h
    cases key with
    | none =>
      cases hkey
      exact ⟨hnodes, fun _ => hflag (.inl rfl)⟩
    | some key =>
      obtain ⟨s₃, hcount, hsecret⟩ := bind_eq_ok.mp hkey
      rw [ite_error_eq_ok'] at hsecret
      cases hsecret.2
      obtain ⟨-, -, rfl⟩ := count_eq_ok.mp hcount
      refine ⟨hnodes, fun hor => hflag (hor.imp_right fun hnone => ?_)⟩
      rw [List.mapM_cons] at hnone
      cases hrest : items.mapM Prod.fst with
      | none => rfl
      | some keys =>
        rw [hrest] at hnone
        cases hnone

omit [DecidableEq ι] in
theorem pushAll_frame {objects : List (Obj ι)} (h : pushAll depth objects s = .ok s') :
    s'.nodes = s.nodes ∧ s'.unsupported = s.unsupported := by
  induction objects generalizing s with
  | nil =>
    cases h
    exact ⟨rfl, rfl⟩
  | cons nested objects ih =>
    obtain ⟨s₁, hpush, h⟩ := bind_eq_ok.mp h
    obtain ⟨-, rfl⟩ := push_eq_ok.mp hpush
    have hrest := ih h
    exact hrest

omit [DecidableEq ι] in
theorem enter_frame {container : Container ι} (h : enter depth container s = .ok s') :
    s'.nodes = s.nodes ∧ (s.unsupported = true ∨ container.keys = none → s'.unsupported = true) := by
  cases container with
  | mapping items => exact pushItems_frame h
  | sequence items =>
    obtain ⟨hnodes, hflag⟩ := pushAll_frame h
    refine ⟨hnodes, fun hor => ?_⟩
    rcases hor with h | h
    · rwa [hflag]
    · cases h

/-- A turn keeps the count of nodes, which is within the limit, and the flag. -/
theorem visit_frame {item : Obj ι} (h : s.visit heap item depth = .ok s') :
    s.nodes ≤ maxNodes ∧ s'.nodes = s.nodes ∧ (s.unsupported = true → s'.unsupported = true) := by
  unfold visit at h
  rw [ite_error_eq_ok', not_lt] at h
  refine ⟨h.1, ?_⟩
  replace h := h.2
  cases item with
  | str value =>
    obtain ⟨-, hcount⟩ := readValue_eq_ok.mp h
    obtain ⟨-, -, rfl⟩ := count_eq_ok.mp hcount
    exact ⟨rfl, id⟩
  | other =>
    cases h
    exact ⟨rfl, fun _ => rfl⟩
  | container identity =>
    dsimp only at h
    split at h
    · cases h
      exact ⟨rfl, fun _ => rfl⟩
    · obtain ⟨hnodes, hflag⟩ := enter_frame h
      exact ⟨hnodes, fun hs => hflag (.inl hs)⟩

/-- `while stack`, and what follows it. -/
def scanLoop (heap : Heap ι) (s : ScanState ι) : SecretScanResult :=
  match s.stack with
  | [] => if s.unsupported then .unsupported else .clean
  | (item, depth) :: stack =>
    match _hvisit : (s.pop stack).visit heap item depth with
    | .error stop => stop.result
    | .ok s' => scanLoop heap s'
termination_by maxNodes - s.nodes
decreasing_by
  -- every turn counts a node
  obtain ⟨hle, hnodes, -⟩ := visit_frame _hvisit
  have hpop : (s.pop stack).nodes = s.nodes + 1 := rfl
  omega

end ScanState

def scanSecretBoundary [DecidableEq ι] (heap : Heap ι) (value : Obj ι) : SecretScanResult :=
  ScanState.scanLoop heap ⟨[(value, 0)], [], 0, 0, false⟩

/-! ### Trees -/

/-- The contents of a tree: the number of its nodes, the identities of its containers, its
strings and its keys. -/
abbrev Contents (ι : Type*) := ℕ × Multiset ι × Multiset String × Multiset String

namespace Contents

def nodes (c : Contents ι) : ℕ := c.1
def identities (c : Contents ι) : Multiset ι := c.2.1
def values (c : Contents ι) : Multiset String := c.2.2.1
def keys (c : Contents ι) : Multiset String := c.2.2.2

def value (text : String) : Contents ι := (1, 0, {text}, 0)

/-- A container with its keys, without what it contains. -/
def container (identity : ι) (keys : List String) : Contents ι := (1, {identity}, 0, keys)

/-- Some strings. -/
def strings (texts : List String) : Contents ι := (texts.length, 0, texts, 0)

/-- All texts. -/
def texts (c : Contents ι) : Multiset String := c.values + c.keys

/-- The characters of some texts. -/
def total (texts : Multiset String) : ℕ := (texts.map String.length).sum

/-- The limits on a tree, without sharing and without secrets. -/
structure Clean (c : Contents ι) : Prop where
  nodes : c.nodes ≤ maxNodes
  unshared : c.identities.Nodup
  short : ∀ t ∈ c.texts, t.length ≤ maxStringLength
  total : total c.texts ≤ maxTotalCharacters
  values : ∀ v ∈ c.values, isSecretValue v = false
  keys : ∀ k ∈ c.keys, isSecretKey k = false

variable {a b : Contents ι}

@[simp] theorem nodes_add : (a + b).nodes = a.nodes + b.nodes := rfl
@[simp] theorem identities_add : (a + b).identities = a.identities + b.identities := rfl
@[simp] theorem values_add : (a + b).values = a.values + b.values := rfl
@[simp] theorem keys_add : (a + b).keys = a.keys + b.keys := rfl

@[simp] theorem texts_add : (a + b).texts = a.texts + b.texts := by
  rw [texts, texts, texts, values_add, keys_add, add_add_add_comm]

@[simp] theorem total_add (m n : Multiset String) : total (m + n) = total m + total n := by
  rw [total, Multiset.map_add, Multiset.sum_add]
  rfl

/-- A part of clean contents is clean. -/
theorem Clean.left (h : (a + b).Clean) : a.Clean where
  nodes := (Nat.le_add_right _ _).trans h.nodes
  unshared := (Multiset.nodup_add.mp h.unshared).1
  short t ht := h.short t (by rw [texts_add]; exact Multiset.mem_add.mpr (.inl ht))
  total := by
    have htotal := h.total
    rw [texts_add, total_add] at htotal
    omega
  values v hv := h.values v (Multiset.mem_add.mpr (.inl hv))
  keys k hk := h.keys k (Multiset.mem_add.mpr (.inl hk))

theorem clean_add_value {text : String} (ha : a.Clean) : (a + value text).Clean ↔
    a.nodes + 1 ≤ maxNodes ∧ text.length ≤ maxStringLength ∧
    total a.texts + text.length ≤ maxTotalCharacters ∧ isSecretValue text = false := by
  have htexts : (value text : Contents ι).texts = {text} := add_zero {text}
  have htotal : total {text} = text.length := by rw [total, Multiset.map_singleton, Multiset.sum_singleton]
  constructor
  · intro h
    have hsum := h.total
    rw [texts_add, total_add, htexts, htotal] at hsum
    exact ⟨h.nodes, h.short text (by rw [texts_add, htexts]; simp), hsum,
      h.values text (Multiset.mem_add.mpr (.inr (Multiset.mem_singleton_self _)))⟩
  · rintro ⟨hnodes, hshort, hsum, hsecret⟩
    refine ⟨hnodes, ?_, ?_, ?_, ?_, ?_⟩
    · rw [identities_add, show (value text : Contents ι).identities = 0 from rfl, add_zero]
      exact ha.unshared
    · intro t ht
      rw [texts_add, htexts] at ht
      rcases Multiset.mem_add.mp ht with ht | ht
      · exact ha.short t ht
      · rwa [Multiset.mem_singleton.mp ht]
    · rwa [texts_add, total_add, htexts, htotal]
    · intro v hv
      rcases Multiset.mem_add.mp hv with hv | hv
      · exact ha.values v hv
      · rwa [Multiset.mem_singleton.mp hv]
    · intro k hk
      rcases Multiset.mem_add.mp hk with hk | hk
      · exact ha.keys k hk
      · exact absurd hk (Multiset.notMem_zero _)

theorem clean_add_container {identity : ι} {names : List String} (ha : a.Clean) :
    (a + container identity names).Clean ↔ a.nodes + 1 ≤ maxNodes ∧ identity ∉ a.identities ∧
    (∀ k ∈ names, k.length ≤ maxStringLength ∧ isSecretKey k = false) ∧
    total a.texts + total names ≤ maxTotalCharacters := by
  have htexts : (container identity names : Contents ι).texts = names := zero_add (names : Multiset String)
  have hids : (container identity names : Contents ι).identities = {identity} := rfl
  constructor
  · intro h
    have hsum := h.total
    rw [texts_add, total_add, htexts] at hsum
    have hnodup := h.unshared
    rw [identities_add, hids, add_comm, Multiset.singleton_add, Multiset.nodup_cons] at hnodup
    refine ⟨h.nodes, hnodup.1, fun k hk => ⟨h.short k ?_, h.keys k ?_⟩, hsum⟩
    · rw [texts_add, htexts]
      exact Multiset.mem_add.mpr (.inr hk)
    · exact Multiset.mem_add.mpr (.inr hk)
  · rintro ⟨hnodes, hnew, hnames, hsum⟩
    refine ⟨hnodes, ?_, ?_, ?_, ?_, ?_⟩
    · rw [identities_add, hids, add_comm, Multiset.singleton_add]
      exact Multiset.nodup_cons.mpr ⟨hnew, ha.unshared⟩
    · intro t ht
      rw [texts_add, htexts] at ht
      rcases Multiset.mem_add.mp ht with ht | ht
      · exact ha.short t ht
      · exact (hnames t ht).1
    · rwa [texts_add, total_add, htexts]
    · intro v hv
      rcases Multiset.mem_add.mp hv with hv | hv
      · exact ha.values v hv
      · exact absurd hv (Multiset.notMem_zero _)
    · intro k hk
      rcases Multiset.mem_add.mp hk with hk | hk
      · exact ha.keys k hk
      · exact (hnames k hk).2

end Contents

open Contents

/-- Objects, each with the number of containers around it, unfold into finite trees with some
contents: their leaves are strings, the keys of their mappings are strings, and every
container is less than 32 levels deep. -/
inductive Unfolds (heap : Heap ι) : List (Obj ι × Nat) → Contents ι → Prop
  | nil : Unfolds heap [] 0
  | str {value : String} {depth : Nat} {rest : List (Obj ι × Nat)} {c : Contents ι}
      (h : Unfolds heap rest c) : Unfolds heap ((.str value, depth) :: rest) (Contents.value value + c)
  | container {identity : ι} {depth : Nat} {keys : List String} {rest : List (Obj ι × Nat)}
      {inner c : Contents ι} (hkeys : (heap identity).keys = some keys) (hdepth : depth < maxDepth)
      (hinner : Unfolds heap ((heap identity).objects.map (·, depth + 1)) inner) (h : Unfolds heap rest c) :
      Unfolds heap ((.container identity, depth) :: rest) (Contents.container identity keys + (inner + c))

section Trees

variable {heap : Heap ι} {l l' : List (Obj ι × Nat)} {o : Obj ι × Nat} {c : Contents ι}

theorem unfolds_append :
    Unfolds heap (l ++ l') c ↔ ∃ a b, Unfolds heap l a ∧ Unfolds heap l' b ∧ c = a + b := by
  constructor
  · intro h
    induction l generalizing c with
    | nil => exact ⟨0, c, .nil, h, (zero_add c).symm⟩
    | cons o l ih =>
      cases h with
      | str h =>
        obtain ⟨a, b, ha, hb, rfl⟩ := ih h
        exact ⟨_, b, .str ha, hb, (add_assoc ..).symm⟩
      | container hkeys hdepth hinner h =>
        obtain ⟨a, b, ha, hb, rfl⟩ := ih h
        exact ⟨_, b, .container hkeys hdepth hinner ha, hb, by simp only [add_assoc]⟩
  · rintro ⟨a, b, ha, hb, rfl⟩
    induction ha with
    | nil => rwa [zero_add]
    | str _ ih =>
      rw [add_assoc]
      exact .str ih
    | container hkeys hdepth hinner _ _ ih =>
      rw [add_assoc, add_assoc]
      exact .container hkeys hdepth hinner ih

theorem unfolds_cons :
    Unfolds heap (o :: l) c ↔ ∃ a b, Unfolds heap [o] a ∧ Unfolds heap l b ∧ c = a + b :=
  unfolds_append (l := [o])

/-- The order of the objects does not matter. -/
theorem Unfolds.perm (hperm : l.Perm l') (h : Unfolds heap l c) : Unfolds heap l' c := by
  induction hperm generalizing c with
  | nil => exact h
  | cons o _ ih =>
    obtain ⟨a, b, ha, hb, rfl⟩ := unfolds_cons.mp h
    exact unfolds_cons.mpr ⟨a, b, ha, ih hb, rfl⟩
  | swap o o' l =>
    obtain ⟨a, _, ha, hrest, rfl⟩ := unfolds_cons.mp h
    obtain ⟨b, d, hb, hd, rfl⟩ := unfolds_cons.mp hrest
    exact unfolds_cons.mpr ⟨b, a + d, hb, unfolds_cons.mpr ⟨a, d, ha, hd, rfl⟩, add_left_comm ..⟩
  | trans _ _ ih ih' => exact ih' (ih h)

/-- Every object is a node. -/
theorem Unfolds.length_le (h : Unfolds heap l c) : l.length ≤ c.nodes := by
  induction h with
  | nil => exact Nat.le_refl _
  | str _ ih =>
    rw [List.length_cons, nodes_add, add_comm]
    exact Nat.add_le_add_left ih 1
  | container _ _ _ _ _ ih =>
    rw [List.length_cons, nodes_add, nodes_add, add_comm]
    exact Nat.add_le_add_left (ih.trans (Nat.le_add_left _ _)) 1

end Trees

/-! ### The scan of a tree -/

namespace ScanState

variable {s s' : ScanState ι} {heap : Heap ι} {depth : Nat}

/-- What is contained is on the stack, and the characters of the keys are counted. -/
def entered (s : ScanState ι) (depth : Nat) (objects : List (Obj ι)) (keys : List String) : ScanState ι :=
  { s with stack := (objects.map (·, depth)).reverse ++ s.stack, characters := s.characters + total keys }

theorem total_cons (k : String) (keys : List String) :
    total ((k :: keys : List String) : Multiset String) = k.length + total keys := by
  rw [total, total, ← Multiset.cons_coe, Multiset.map_cons, Multiset.sum_cons]

theorem pushAll_eq_ok {objects : List (Obj ι)} (hs : s.stack.length + s.nodes ≤ maxNodes) :
    pushAll depth objects s = .ok s' ↔ s.stack.length + objects.length + s.nodes ≤ maxNodes ∧
      s' = s.entered depth objects [] := by
  induction objects generalizing s with
  | nil => exact ⟨fun h => ⟨hs, (Except.ok.inj h).symm⟩, fun h => by rw [h.2]; rfl⟩
  | cons nested objects ih =>
    rw [pushAll, bind_eq_ok]
    let s₂ : ScanState ι := { s with stack := (nested, depth) :: s.stack }
    have hpushed : s₂.entered depth objects [] = s.entered depth (nested :: objects) [] := by
      simp [s₂, entered]
    constructor
    · rintro ⟨s₁, hpush, h⟩
      obtain ⟨hle, rfl⟩ := push_eq_ok.mp hpush
      have hs₂ : s₂.stack.length + s₂.nodes ≤ maxNodes := hle
      obtain ⟨hlength, rfl⟩ := (ih hs₂).mp h
      refine ⟨?_, hpushed⟩
      simp only [s₂, List.length_cons] at hlength ⊢
      omega
    · rintro ⟨hlength, rfl⟩
      rw [List.length_cons] at hlength
      have hle : s.stack.length + 1 + s.nodes ≤ maxNodes := by omega
      have hs₂ : s₂.stack.length + s₂.nodes ≤ maxNodes := hle
      refine ⟨s₂, push_eq_ok.mpr ⟨hle, rfl⟩, (ih hs₂).mpr ⟨?_, hpushed.symm⟩⟩
      simp only [s₂, List.length_cons]
      omega

theorem pushItems_eq_ok {items : List (Option String × Obj ι)} {keys : List String}
    (hs : s.stack.length + s.nodes ≤ maxNodes) (hcharacters : s.characters ≤ maxTotalCharacters)
    (hkeys : items.mapM Prod.fst = some keys) :
    pushItems depth items s = .ok s' ↔ (∀ k ∈ keys, k.length ≤ maxStringLength ∧ isSecretKey k = false) ∧
      s.characters + total keys ≤ maxTotalCharacters ∧ s.stack.length + items.length + s.nodes ≤ maxNodes ∧
      s' = s.entered depth (items.map Prod.snd) keys := by
  induction items generalizing s keys with
  | nil =>
    cases hkeys
    exact ⟨fun h => ⟨nofun, hcharacters, hs, (Except.ok.inj h).symm⟩, fun h => by rw [h.2.2.2]; rfl⟩
  | cons item items ih =>
    obtain ⟨key, nested⟩ := item
    rw [List.mapM_cons] at hkeys
    cases key with
    | none => cases hkeys
    | some key =>
      cases hrest : items.mapM Prod.fst with
      | none =>
        rw [hrest] at hkeys
        cases hkeys
      | some names =>
        rw [hrest] at hkeys
        cases hkeys
        rw [pushItems, bind_eq_ok, total_cons]
        simp only [List.mem_cons, forall_eq_or_imp, List.length_cons]
        let s₁ : ScanState ι := { s with characters := s.characters + key.length }
        let s₂ : ScanState ι := { s₁ with stack := (nested, depth) :: s.stack }
        have hpushed : s₂.entered depth (items.map Prod.snd) names
            = s.entered depth (((some key, nested) :: items).map Prod.snd) (key :: names) := by
          simp [s₂, s₁, entered, total_cons, Nat.add_assoc]
        constructor
        · rintro ⟨_, hread, h⟩
          obtain ⟨_, hpush, h⟩ := bind_eq_ok.mp h
          obtain ⟨_, hcount, hsecret⟩ := bind_eq_ok.mp hread
          rw [ite_error_eq_ok', Bool.not_eq_true] at hsecret
          obtain ⟨hplain, rfl⟩ := hsecret.imp_right Except.ok.inj
          obtain ⟨hshort, htotal, rfl⟩ := count_eq_ok.mp hcount
          obtain ⟨hle, rfl⟩ := push_eq_ok.mp hpush
          have hs₂ : s₂.stack.length + s₂.nodes ≤ maxNodes := hle
          obtain ⟨hnames, hsum, hlength, rfl⟩ := (ih hs₂ htotal hrest).mp h
          refine ⟨⟨⟨hshort, hplain⟩, hnames⟩, ?_, ?_, hpushed⟩
          · rwa [← Nat.add_assoc]
          · simp only [s₂, s₁, List.length_cons] at hlength
            omega
        · rintro ⟨⟨⟨hshort, hsecret⟩, hnames⟩, hsum, hlength, rfl⟩
          have htotal : s.characters + key.length ≤ maxTotalCharacters := by omega
          have hle : s₁.stack.length + 1 + s₁.nodes ≤ maxNodes := by
            simp only [s₁]
            omega
          have hs₂ : s₂.stack.length + s₂.nodes ≤ maxNodes := hle
          refine ⟨s₁, bind_eq_ok.mpr ⟨s₁, count_eq_ok.mpr ⟨hshort, htotal, rfl⟩, ?_⟩,
            bind_eq_ok.mpr ⟨s₂, push_eq_ok.mpr ⟨hle, rfl⟩,
              (ih hs₂ htotal hrest).mpr ⟨hnames, ?_, ?_, hpushed.symm⟩⟩⟩
          · rw [if_neg (by rw [hsecret]; exact Bool.false_ne_true)]
          · simp only [s₂, s₁]
            omega
          · simp only [s₂, s₁, List.length_cons]
            omega

theorem enter_eq_ok {container : Container ι} {keys : List String}
    (hs : s.stack.length + s.nodes ≤ maxNodes) (hcharacters : s.characters ≤ maxTotalCharacters)
    (hkeys : container.keys = some keys) :
    enter depth container s = .ok s' ↔ (∀ k ∈ keys, k.length ≤ maxStringLength ∧ isSecretKey k = false) ∧
      s.characters + total keys ≤ maxTotalCharacters ∧
      s.stack.length + container.objects.length + s.nodes ≤ maxNodes ∧
      s' = s.entered depth container.objects keys := by
  cases container with
  | mapping items =>
    rw [enter, pushItems_eq_ok hs hcharacters hkeys, Container.objects, List.length_map]
  | sequence items =>
    cases hkeys
    rw [enter, pushAll_eq_ok hs]
    exact ⟨fun h => ⟨nofun, hcharacters, h⟩, fun h => h.2.2⟩

/-- Contents `p` were taken off the stack, and they are clean. -/
structure Visited (s : ScanState ι) (p : Contents ι) : Prop where
  nodes : s.nodes = p.nodes
  seen : (s.seen : Multiset ι) = p.identities
  characters : s.characters = total p.texts
  clean : p.Clean
  bound : s.stack.length + s.nodes ≤ maxNodes

/-- What is on the stack unfolds into trees that are clean together with what was visited. -/
def Rest (heap : Heap ι) (stack : List (Obj ι × Nat)) (p : Contents ι) : Prop :=
  ∃ c, Unfolds heap stack c ∧ (p + c).Clean

variable {stack : List (Obj ι × Nat)} {p : Contents ι} {identity : ι}

theorem Rest.clean (h : Rest heap stack p) : p.Clean := by
  obtain ⟨c, -, hclean⟩ := h
  exact hclean.left

theorem Rest.length_le (h : Rest heap stack p) : stack.length + p.nodes ≤ maxNodes := by
  obtain ⟨c, hunfolds, hclean⟩ := h
  have hlength := hunfolds.length_le
  have hnodes := hclean.nodes
  rw [nodes_add] at hnodes
  omega

theorem rest_nil : Rest heap [] p ↔ p.Clean := by
  constructor
  · exact Rest.clean
  · exact fun h => ⟨0, .nil, by rwa [add_zero]⟩

theorem rest_str {value : String} :
    Rest heap ((.str value, depth) :: stack) p ↔ Rest heap stack (p + Contents.value value) := by
  constructor
  · rintro ⟨_, h, hclean⟩
    cases h with
    | str h => exact ⟨_, h, by rwa [add_assoc]⟩
  · rintro ⟨c, h, hclean⟩
    exact ⟨_, .str h, by rwa [← add_assoc]⟩

theorem rest_container {keys : List String} (hkeys : (heap identity).keys = some keys) :
    Rest heap ((.container identity, depth) :: stack) p ↔ depth < maxDepth ∧
      Rest heap (((heap identity).objects.map (·, depth + 1)).reverse ++ stack)
        (p + Contents.container identity keys) := by
  have hreverse := (List.reverse_perm ((heap identity).objects.map (·, depth + 1))).append_right stack
  constructor
  · rintro ⟨_, h, hclean⟩
    cases h with
    | container hkeys' hdepth hinner h =>
      obtain rfl := Option.some.inj (hkeys.symm.trans hkeys')
      exact ⟨hdepth, _, (unfolds_append.mpr ⟨_, _, hinner, h, rfl⟩).perm hreverse.symm, by rwa [add_assoc]⟩
  · rintro ⟨hdepth, c, h, hclean⟩
    obtain ⟨a, b, ha, hb, rfl⟩ := unfolds_append.mp (h.perm hreverse)
    exact ⟨_, .container hkeys hdepth ha hb, by rwa [← add_assoc]⟩

variable [DecidableEq ι]

/-- **One turn.** Either it goes on, with more contents visited and the same question
about the rest, or there is no clean tree, and the scan ends or sets its flag. -/
theorem visit_rest {item : Obj ι} (hv : Visited s p) (hstack : s.stack = (item, depth) :: stack) :
    (∃ s' p', (s.pop stack).visit heap item depth = .ok s' ∧ s'.unsupported = s.unsupported ∧
      Visited s' p' ∧ (Rest heap s.stack p ↔ Rest heap s'.stack p')) ∨
    (¬ Rest heap s.stack p ∧
      ∀ s', (s.pop stack).visit heap item depth = .ok s' → s'.unsupported = true) := by
  have hbound : stack.length + (s.nodes + 1) ≤ maxNodes := by
    have hle := hv.bound
    rw [hstack, List.length_cons] at hle
    omega
  have hpop : ¬ maxNodes < (s.pop stack).nodes := by
    have hnodes : (s.pop stack).nodes = s.nodes + 1 := rfl
    omega
  have hcharacters : (s.pop stack).characters ≤ maxTotalCharacters := by
    have hle := hv.clean.total
    rwa [← hv.characters] at hle
  rw [hstack]
  unfold visit
  rw [if_neg hpop]
  cases item with
  | other =>
    right
    refine ⟨?_, ?_⟩
    · rintro ⟨c, h, -⟩
      cases h
    · rintro _ ⟨⟩
      rfl
  | str value =>
    dsimp only
    simp only [readValue_eq_ok, count_eq_ok, rest_str]
    by_cases hclean : (p + Contents.value value).Clean
    · left
      obtain ⟨-, hshort, htotal, hsecret⟩ := (clean_add_value hv.clean).mp hclean
      rw [← hv.characters] at htotal
      refine ⟨_, p + Contents.value value, ⟨hsecret, hshort, htotal, rfl⟩, rfl, ?_, Iff.rfl⟩
      refine ⟨congrArg (· + 1) hv.nodes, ?_, ?_, hclean, hbound⟩
      · exact hv.seen.trans (add_zero _).symm
      · rw [texts_add, total_add, ← hv.characters]
        rfl
    · right
      refine ⟨fun h => hclean h.clean, ?_⟩
      rintro s' ⟨hsecret, hshort, htotal, -⟩
      refine absurd ((clean_add_value hv.clean).mpr ⟨?_, hshort, ?_, hsecret⟩) hclean
      · rw [← hv.nodes]
        omega
      · rwa [← hv.characters]
  | container identity =>
    dsimp only
    split
    · next hout =>
      right
      refine ⟨?_, ?_⟩
      · rintro ⟨_, h, hclean⟩
        cases h with
        | @container _ _ keys _ inner c _ hdepth _ _ =>
          rcases hout with hseen | hdeep
          · rw [← add_assoc] at hclean
            have hnew := ((clean_add_container hv.clean).mp hclean.left).2.1
            rw [← hv.seen] at hnew
            exact hnew hseen
          · omega
      · rintro _ ⟨⟩
        rfl
    · next hin =>
      rw [not_or, not_le] at hin
      obtain ⟨hseen, hdepth⟩ := hin
      cases hkeys : (heap identity).keys with
      | none =>
        right
        refine ⟨?_, fun s' h => (enter_frame h).2 (.inr hkeys)⟩
        rintro ⟨_, h, -⟩
        cases h with
        | container hkeys' => cases hkeys.symm.trans hkeys'
      | some keys =>
        rw [rest_container hkeys]
        have henter : ∀ s', enter (depth + 1) (heap identity) ((s.pop stack).see identity) = .ok s' ↔ _ :=
          fun s' => enter_eq_ok hbound hcharacters hkeys
        simp only [henter]
        have hnew : identity ∉ p.identities := by
          rw [← hv.seen]
          exact hseen
        by_cases hrest : (p + Contents.container identity keys).Clean ∧
            stack.length + (heap identity).objects.length + (s.nodes + 1) ≤ maxNodes
        · left
          obtain ⟨-, -, hnames, htotal⟩ := (clean_add_container hv.clean).mp hrest.1
          rw [← hv.characters] at htotal
          refine ⟨_, p + Contents.container identity keys, ⟨hnames, htotal, hrest.2, rfl⟩, rfl, ?_,
            and_iff_right hdepth⟩
          refine ⟨congrArg (· + 1) hv.nodes, ?_, ?_, hrest.1, ?_⟩
          · have hsee : ((identity :: s.seen : List ι) : Multiset ι) = {identity} + p.identities := by
              rw [← Multiset.cons_coe, hv.seen, Multiset.singleton_add]
            exact hsee.trans (add_comm ..)
          · rw [texts_add, total_add, ← hv.characters, show (Contents.container identity keys).texts = keys
              from zero_add (keys : Multiset String)]
            rfl
          · rw [entered, List.length_append, List.length_reverse, List.length_map]
            have hlength := hrest.2
            have hstack' : ((s.pop stack).see identity).stack.length = stack.length := rfl
            have hnodes : ((s.pop stack).see identity).nodes = s.nodes + 1 := rfl
            dsimp only
            omega
        · right
          refine ⟨?_, ?_⟩
          · rintro ⟨-, h⟩
            have hlength := h.length_le
            rw [List.length_append, List.length_reverse, List.length_map, nodes_add, ← hv.nodes] at hlength
            have hone : (Contents.container identity keys).nodes = 1 := rfl
            exact hrest ⟨h.clean, by omega⟩
          · rintro s' ⟨hnames, htotal, hlength, -⟩
            refine absurd ⟨(clean_add_container hv.clean).mpr ⟨?_, hnew, hnames, ?_⟩, hlength⟩ hrest
            · rw [← hv.nodes]
              omega
            · rwa [← hv.characters]

theorem scanLoop_nil (hstack : s.stack = []) :
    scanLoop heap s = if s.unsupported then .unsupported else .clean := by
  rw [scanLoop]
  split
  · rfl
  · next heq => cases hstack.symm.trans heq

theorem scanLoop_cons {item : Obj ι} (hstack : s.stack = (item, depth) :: stack) :
    scanLoop heap s = match (s.pop stack).visit heap item depth with
      | .error stop => stop.result
      | .ok s' => scanLoop heap s' := by
  rw [scanLoop]
  split
  · next heq => cases hstack.symm.trans heq
  · next heq =>
    cases hstack.symm.trans heq
    split <;> next hvisit => rw [hvisit]

omit [DecidableEq ι] in
theorem result_ne_clean (stop : Stop) : stop.result ≠ .clean := by
  cases stop <;> nofun

/-- After its flag is set the scan is never clean. -/
theorem scanLoop_ne_clean (h : s.unsupported = true) : scanLoop heap s ≠ .clean := by
  induction hn : maxNodes - s.nodes using Nat.strong_induction_on generalizing s with
  | _ n ih =>
    subst hn
    cases hstack : s.stack with
    | nil =>
      rw [scanLoop_nil hstack, if_pos h]
      nofun
    | cons top stack =>
      obtain ⟨item, depth⟩ := top
      rw [scanLoop_cons hstack]
      split
      · next stop _ => exact result_ne_clean stop
      · next s' hvisit =>
        obtain ⟨hle, hnodes, hflag⟩ := visit_frame hvisit
        have hpop : (s.pop stack).nodes = s.nodes + 1 := rfl
        exact ih (maxNodes - s'.nodes) (by omega) (hflag h) rfl

/-- **The loop** answers CLEAN exactly if what is left unfolds into clean trees. -/
theorem scanLoop_eq_clean (hv : Visited s p) (hflag : s.unsupported = false) :
    scanLoop heap s = .clean ↔ Rest heap s.stack p := by
  induction hn : maxNodes - s.nodes using Nat.strong_induction_on generalizing s p with
  | _ n ih =>
    subst hn
    cases hstack : s.stack with
    | nil =>
      rw [scanLoop_nil hstack, hflag, rest_nil]
      exact iff_of_true rfl hv.clean
    | cons top stack =>
      obtain ⟨item, depth⟩ := top
      rw [scanLoop_cons hstack, ← hstack]
      rcases visit_rest hv hstack with ⟨s', p', hvisit, hkept, hv', hrest⟩ | ⟨hnone, hunsupported⟩
      · obtain ⟨hle, hnodes, -⟩ := visit_frame hvisit
        have hpop : (s.pop stack).nodes = s.nodes + 1 := rfl
        rw [hvisit, hrest]
        exact ih (maxNodes - s'.nodes) (by omega) hv' (hkept.trans hflag) rfl
      · refine iff_of_false ?_ hnone
        split
        · next stop _ => exact result_ne_clean stop
        · next s' hvisit => exact scanLoop_ne_clean (hunsupported s' hvisit)

end ScanState

/-- A tree that an object unfolds into is clean. -/
def HasCleanTree (heap : Heap ι) (value : Obj ι) : Prop := ∃ c, Unfolds heap [(value, 0)] c ∧ c.Clean

theorem scan_eq_clean [DecidableEq ι] {heap : Heap ι} {value : Obj ι} :
    scanSecretBoundary heap value = .clean ↔ HasCleanTree heap value := by
  have hclean : (0 : Contents ι).Clean :=
    ⟨Nat.zero_le _, Multiset.nodup_zero, nofun, Nat.zero_le _, nofun, nofun⟩
  have hvisited : ScanState.Visited ⟨[(value, 0)], [], 0, 0, false⟩ (0 : Contents ι) :=
    ⟨rfl, rfl, rfl, hclean, show 1 ≤ maxNodes by decide⟩
  rw [scanSecretBoundary, ScanState.scanLoop_eq_clean hvisited rfl, ScanState.Rest]
  simp only [zero_add]
  rfl

/-! ### The translation of a binding -/

/-- A mapping of the heap, as `desired.configuration` is one; its keys are distinct. -/
structure Configuration (heap : Heap ι) where
  identity : ι
  items : List (Option String × Obj ι)
  stored : heap identity = .mapping items
  distinct : (items.map Prod.fst).Nodup

/-- Items whose keys and values are strings. -/
def textItems : List (Option String × Obj ι) → Option (List (String × String))
  | [] => some []
  | (some key, .str value) :: items => (textItems items).map ((key, value) :: ·)
  | _ => none

/-- The items of a mapping of strings. -/
def itemsOf (texts : List (String × String)) : List (Option String × Obj ι) :=
  texts.map fun t => (some t.1, .str t.2)

theorem eq_itemsOf {items : List (Option String × Obj ι)} {texts : List (String × String)}
    (h : textItems items = some texts) : items = itemsOf texts := by
  induction items generalizing texts with
  | nil =>
    cases h
    rfl
  | cons item items ih =>
    obtain ⟨_ | key, value | identity | _⟩ := item
    case some.str =>
      obtain ⟨rest, hrest, rfl⟩ := Option.map_eq_some_iff.mp h
      rw [ih hrest]
      rfl
    all_goals cases h

/-- `dict(desired.configuration)`, if all its keys and values are strings. -/
def Configuration.copy {heap : Heap ι} (d : Configuration heap) : Option (Dict String String) :=
  match h : textItems d.items with
  | none => none
  | some texts => some ⟨texts, by
      have hdistinct := d.distinct
      rw [eq_itemsOf h, itemsOf, List.map_map] at hdistinct
      exact List.Nodup.of_map some (by rwa [List.map_map])⟩

/-- `translate_binding(desired)`, for any mapping. -/
def translateConfiguration [DecidableEq ι] (heap : Heap ι) (target : RuntimeTarget)
    (d : Configuration heap) : Except Reason BindingEvidence :=
  if target ≠ runtimeTarget then .error .bindingConfigurationUnsupported
  else match scanSecretBoundary heap (.container d.identity) with
    | .secret => .error .bindingSecretValueProhibited
    | .unsupported => .error .bindingConfigurationUnsupported
    | .clean => match d.copy with
      | none => .error .bindingConfigurationUnsupported
      -- the rest of the function, after its scan
      | some copied => translateBinding (fun _ => .clean) ⟨target, copied⟩

/-- The scan of a new dictionary of strings. -/
def scanDict (configuration : Dict String String) : SecretScanResult :=
  scanSecretBoundary (fun _ : Unit => .mapping (itemsOf configuration.entries)) (.container ())

section Translation

variable {heap : Heap ι}

theorem unfolds_texts {values : List String} {depth : Nat} {c : Contents ι} :
    Unfolds heap (values.map fun v => (.str v, depth)) c ↔ c = strings values := by
  induction values generalizing c with
  | nil =>
    constructor
    · intro h
      cases h
      rfl
    · rintro rfl
      exact .nil
  | cons v values ih =>
    have hcons : (Contents.value v + strings values : Contents ι) = strings (v :: values) := by
      rw [strings, strings, List.length_cons, add_comm values.length, ← Multiset.cons_coe,
        ← Multiset.singleton_add]
      rfl
    constructor
    · intro h
      cases h with
      | str h => rw [ih.mp h, hcons]
    · rintro rfl
      rw [← hcons]
      exact .str (ih.mpr rfl)

theorem keys_itemsOf (texts : List (String × String)) :
    (Container.mapping (itemsOf texts : List (Option String × Obj ι))).keys = some (texts.map Prod.fst) := by
  show (itemsOf texts).mapM Prod.fst = _
  induction texts with
  | nil => rfl
  | cons t texts ih =>
    rw [itemsOf, List.map_cons, List.mapM_cons, ← itemsOf, ih]
    rfl

theorem hasCleanTree_texts {identity : ι} {texts : List (String × String)}
    (hstored : heap identity = .mapping (itemsOf texts)) :
    HasCleanTree heap (.container identity) ↔
      (Contents.container identity (texts.map Prod.fst) + strings (texts.map Prod.snd)).Clean := by
  have hkeys : (heap identity).keys = some (texts.map Prod.fst) := by rw [hstored, keys_itemsOf]
  have hobjects : (heap identity).objects.map (·, 0 + 1)
      = (texts.map Prod.snd).map fun v => (Obj.str v, 1) := by
    rw [hstored]
    show ((texts.map _).map Prod.snd).map _ = _
    simp only [List.map_map]
    rfl
  constructor
  · rintro ⟨_, h, hclean⟩
    cases h with
    | container hkeys' _ hinner hnil =>
      obtain rfl := Option.some.inj (hkeys.symm.trans hkeys')
      rw [hobjects] at hinner
      cases hnil
      rw [add_zero, unfolds_texts.mp hinner] at hclean
      exact hclean
  · intro hclean
    refine ⟨_, .container hkeys (by decide) ?_ .nil, by rwa [add_zero]⟩
    rw [hobjects]
    exact unfolds_texts.mpr rfl

/-- A copy of a mapping of strings is as clean as the mapping. -/
theorem scanDict_eq_clean [DecidableEq ι] {d : Configuration heap} {copied : Dict String String}
    (hcopy : d.copy = some copied) (h : scanSecretBoundary heap (.container d.identity) = .clean) :
    scanDict copied = .clean := by
  unfold Configuration.copy at hcopy
  split at hcopy
  · cases hcopy
  · next texts htexts =>
    cases hcopy
    have hstored : heap d.identity = .mapping (itemsOf texts) := by rw [d.stored, eq_itemsOf htexts]
    have hclean := (hasCleanTree_texts hstored).mp (scan_eq_clean.mp h)
    apply scan_eq_clean.mpr
    apply (hasCleanTree_texts rfl).mpr
    exact ⟨hclean.nodes, Multiset.nodup_singleton (), hclean.short, hclean.total, hclean.values, hclean.keys⟩

theorem translateConfiguration_eq_ok [DecidableEq ι] {target : RuntimeTarget} {d : Configuration heap}
    {evidence : BindingEvidence} (h : translateConfiguration heap target d = .ok evidence) :
    scanSecretBoundary heap (.container d.identity) = .clean ∧
      d.copy = some evidence.desired.configuration := by
  rw [translateConfiguration, ite_error_eq_ok'] at h
  replace h := h.2
  split at h
  · cases h
  · cases h
  · next hscan =>
    split at h
    · cases h
    · next copied hcopy =>
      refine ⟨hscan, ?_⟩
      rw [translateBinding, ite_error_eq_ok', ite_error_eq_ok', ite_error_eq_ok'] at h
      cases h.2.2.2
      exact hcopy

end Translation

/-- **The scan of a native binding is exact.** It ends on every graph of objects, and
answers CLEAN exactly if the object unfolds into a finite tree with clean contents: at
most 4096 nodes, no container twice, all texts within their limits, none of them secret.
A binding is translated only from a configuration with this answer, and what is returned
of it has this answer as well. -/
theorem scan_exact :
    (∀ {ι : Type} [DecidableEq ι] (heap : Heap ι) (value : Obj ι),
      scanSecretBoundary heap value = .clean ↔ ∃ c, Unfolds heap [(value, 0)] c ∧ c.Clean) ∧
    ∀ {ι : Type} [DecidableEq ι] (heap : Heap ι) (target : RuntimeTarget) (d : Configuration heap)
      (evidence : BindingEvidence), translateConfiguration heap target d = .ok evidence →
        scanSecretBoundary heap (.container d.identity) = .clean ∧
        scanDict evidence.desired.configuration = .clean := by
  refine ⟨fun heap value => scan_eq_clean, fun heap target d evidence h => ?_⟩
  obtain ⟨hscan, hcopy⟩ := translateConfiguration_eq_ok h
  exact ⟨hscan, scanDict_eq_clean hcopy hscan⟩

/-- A configuration with one name. -/
def namedHeap : Heap Unit := fun _ => .mapping (itemsOf [("AGENT_NAME", "a")])

def named : Configuration namedHeap := ⟨(), _, rfl, by decide⟩

theorem scan_named : scanSecretBoundary namedHeap (.container ()) = .clean := by
  apply scan_eq_clean.mpr
  apply (hasCleanTree_texts rfl).mpr
  exact ⟨by decide, Multiset.nodup_singleton (), by decide +kernel, by decide +kernel, by decide +kernel,
    by decide +kernel⟩

theorem scan_exact_named : ∃ evidence, translateConfiguration namedHeap runtimeTarget named = .ok evidence ∧
    scanDict evidence.desired.configuration = .clean := by
  have h : ∃ evidence, translateConfiguration namedHeap runtimeTarget named = .ok evidence := by
    rw [translateConfiguration, if_neg (not_not.mpr rfl)]
    rw [show named.identity = () from rfl, scan_named]
    exact ⟨_, rfl⟩
  obtain ⟨evidence, h⟩ := h
  exact ⟨evidence, h, (scan_exact.2 namedHeap runtimeTarget named evidence h).2⟩

end NativeProvider

end AgentPlatform
