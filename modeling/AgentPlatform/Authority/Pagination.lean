/-
AgentPlatform/Authority/Pagination.lean

The signed cursors of the Workbench LIST operations.

`mint` writes the route, the scope, the page size and the last key of a page as
JSON, encodes the text and appends a signature; `resolve` checks the signature
and what it is asked for, and gives the last key back.

The reader bounds the token and every part of the key, and the writer bounds
nothing. **Main result:** `cursors_resolve_iff`, a cursor is resolved to its
last key exactly if it `Fits` the bounds of the reader; and an unforged token
is resolved only for what it was minted for.
-/
import AgentPlatform.Authority.Contracts
import AgentPlatform.Py.Base64
import AgentPlatform.Py.Hmac
import AgentPlatform.Py.Isoformat
import AgentPlatform.Py.JsonRead

namespace AgentPlatform

open Py

namespace WorkbenchPagination

open Authority

/-! ### Writing -/

def cursorVersion : String := "workbench-keyset-cursor.v1"

def signingDomain : List UInt8 := utf8 "workbench-keyset-cursor.v1\x00"

/-- The arguments of `mint`: of the context it reads the scope. -/
structure Page where
  route : String
  scope : AuthorityScope
  pageSize : Int
  lastKey : List String

def Page.payload (p : Page) : Json :=
  .obj [("schemaVersion", .str cursorVersion), ("route", .str p.route),
    ("tenantId", .str p.scope.tenantId), ("securityDomain", .str p.scope.securityDomain),
    ("pageSize", .int p.pageSize), ("lastKey", .arr (p.lastKey.map .str))]

def Page.encoded (p : Page) : List Char := Base64.encode (utf8 (p.payload.dumps true))

structure WorkbenchCursorCodec where
  signingKey : List UInt8
  long : 32 ≤ signingKey.length

namespace WorkbenchCursorCodec

variable (codec : WorkbenchCursorCodec)

/-- The signature of an encoded payload. -/
def signature (encoded : List Char) : String :=
  hmacSha256 codec.signingKey (signingDomain ++ utf8 (String.ofList encoded))

/-- `mint(route=..., context=..., page_size=..., last_key=...)`. -/
def mint (p : Page) : String :=
  String.ofList (p.encoded ++ '.' :: (codec.signature p.encoded).toList)

end WorkbenchCursorCodec

/-! ### Reading -/

def payloadKeys : List String :=
  ["schemaVersion", "route", "tenantId", "securityDomain", "pageSize", "lastKey"]

/-- `value == text`. -/
def isText (text : String) : Option Json → Bool
  | some (.str s) => s = text
  | _ => false

/-- `value == n`; a truth value counts as a number. -/
def isNumber (n : Int) : Option Json → Bool
  | some (.int k) => k = n
  | some (.bool true) => n = 1
  | some (.bool false) => n = 0
  | _ => false

/-- What `resolve` requires of a part of a key. -/
def Part (text : String) : Prop := text ≠ "" ∧ text.length ≤ 240

instance (text : String) : Decidable (Part text) := inferInstanceAs (Decidable (_ ∧ _))

/-- A part of a key. -/
def readPart : Json → Option String
  | .str s => if Part s then some s else none
  | _ => none

/-- `tuple(payload["lastKey"])`, of `key_size` parts. -/
def readKey (keySize : Nat) : Option Json → Option (List String)
  | some (.arr items) => if items.length = keySize then items.mapM readPart else none
  | _ => none

/-- The last key of a payload that is what `resolve` is asked for. -/
def readPayload (route : String) (scope : AuthorityScope) (pageSize : Int) (keySize : Nat) :
    Json → Option (List String)
  | .obj fields =>
    let keys := fields.map Prod.fst
    let get (key : String) := (Json.obj fields).get? key
    if keys.all (payloadKeys.contains ·) && payloadKeys.all (keys.contains ·)
        && isText cursorVersion (get "schemaVersion") && isText route (get "route")
        && isText scope.tenantId (get "tenantId")
        && isText scope.securityDomain (get "securityDomain")
        && isNumber pageSize (get "pageSize") then
      readKey keySize (get "lastKey")
    else none
  | _ => none

/-- The last key of an encoded payload. -/
def readEncoded (route : String) (scope : AuthorityScope) (pageSize : Int) (keySize : Nat)
    (encoded : List Char) : Option (List String) := do
  let bytes ← Base64.decode (encoded ++ Base64.padding encoded)
  let text ← decodeUtf8 bytes
  let payload ← Json.loads text
  readPayload route scope pageSize keySize payload

/-- `resolve(token, route=..., context=..., page_size=..., key_size=...)`;
`none` is `REQUEST_INVALID`. -/
def WorkbenchCursorCodec.resolve (codec : WorkbenchCursorCodec) (token route : String)
    (scope : AuthorityScope) (pageSize : Int) (keySize : Nat) : Option (List String) := do
  if token = "" ∨ 2048 < token.length then none
  let (encoded, signature) ← Datetime.cut '.' token.toList
  if String.ofList signature ≠ codec.signature encoded then none
  readEncoded route scope pageSize keySize encoded

/-! ### What a payload says -/

namespace Page

variable (p : Page)

/-- A page is what `resolve` is asked for. -/
def Answers (route : String) (scope : AuthorityScope) (pageSize : Int) (keySize : Nat) : Prop :=
  p.route = route ∧ p.scope = scope ∧ p.pageSize = pageSize ∧ p.lastKey.length = keySize

instance (route : String) (scope : AuthorityScope) (pageSize : Int) (keySize : Nat) :
    Decidable (p.Answers route scope pageSize keySize) :=
  inferInstanceAs (Decidable (_ ∧ _ ∧ _ ∧ _))

/-- The keys of a payload are the keys asked for, in another order. -/
theorem sortKeys_payload : ∃ fields, p.payload.sortKeys = .obj fields
    ∧ (fields.map Prod.fst).Perm payloadKeys := by
  refine ⟨_, by rw [payload, Json.sortKeys], ?_⟩
  have hperm := (List.perm_insertionSort (fun a b : String × Json => a.1 ≤ b.1)
    (Json.sortFields [("schemaVersion", .str cursorVersion), ("route", .str p.route),
      ("tenantId", .str p.scope.tenantId), ("securityDomain", .str p.scope.securityDomain),
      ("pageSize", .int p.pageSize), ("lastKey", .arr (p.lastKey.map .str))])).map Prod.fst
  rw [Json.keys_sortFields] at hperm
  exact hperm

theorem distinctKeys_payload : p.payload.distinctKeys = true := by
  have hkey : Json.distinctItems (p.lastKey.map .str) = true := by
    induction p.lastKey with
    | nil => rfl
    | cons s ss ih => rw [List.map_cons, Json.distinctItems, ih]; rfl
  rw [payload, Json.distinctKeys_obj]
  refine ⟨by simp, ?_⟩
  intro f hf
  simp only [List.mem_cons, List.not_mem_nil, or_false] at hf
  rcases hf with rfl | rfl | rfl | rfl | rfl | rfl
  all_goals first | exact hkey | rfl

theorem mapM_readPart (key : List String) :
    (Json.sortItems (key.map .str)).mapM readPart
      = if ∀ part ∈ key, Part part then some key else none := by
  induction key with
  | nil => simp [Json.sortItems]
  | cons s ss ih =>
    rw [List.map_cons, Json.sortItems, Json.sortKeys, List.mapM_cons, readPart, ih]
    by_cases hs : Part s
    · by_cases hss : ∀ part ∈ ss, Part part
      · have hall : ∀ part ∈ s :: ss, Part part := List.forall_mem_cons.mpr ⟨hs, hss⟩
        rw [if_pos hs, if_pos hss, if_pos hall]
        rfl
      · have hall : ¬∀ part ∈ s :: ss, Part part := fun h => hss (List.forall_mem_cons.mp h).2
        rw [if_pos hs, if_neg hss, if_neg hall]
        rfl
    · have hall : ¬∀ part ∈ s :: ss, Part part := fun h => hs (List.forall_mem_cons.mp h).1
      rw [if_neg hs, if_neg hall]
      rfl

theorem length_sortItems (vs : List Json) : (Json.sortItems vs).length = vs.length := by
  induction vs with
  | nil => rfl
  | cons v vs ih => rw [Json.sortItems, List.length_cons, ih, List.length_cons]

/-- **What is read out of a payload.** -/
theorem readPayload_payload (route : String) (scope : AuthorityScope) (pageSize : Int)
    (keySize : Nat) :
    readPayload route scope pageSize keySize p.payload.sortKeys
      = if p.Answers route scope pageSize keySize ∧ ∀ part ∈ p.lastKey, Part part then
          some p.lastKey
        else none := by
  obtain ⟨fields, hfields, hperm⟩ := p.sortKeys_payload
  have hget : ∀ key, (Json.obj fields).get? key = (p.payload.get? key).map Json.sortKeys := by
    intro key
    rw [← hfields, payload, Json.get?_sortKeys (by simp)]
  have hkeys : (fields.map Prod.fst).all (payloadKeys.contains ·) = true := by
    rw [List.all_eq_true]
    intro key hkey
    exact List.contains_iff_mem.mpr (hperm.mem_iff.mp hkey)
  have hnames : payloadKeys.all ((fields.map Prod.fst).contains ·) = true := by
    rw [List.all_eq_true]
    intro key hkey
    exact List.contains_iff_mem.mpr (hperm.mem_iff.mpr hkey)
  have hversion :
      isText cursorVersion ((p.payload.get? "schemaVersion").map Json.sortKeys) = true := by
    show decide (cursorVersion = cursorVersion) = true
    exact decide_eq_true rfl
  have hroute : isText route ((p.payload.get? "route").map Json.sortKeys)
      = decide (p.route = route) := rfl
  have htenant : isText scope.tenantId ((p.payload.get? "tenantId").map Json.sortKeys)
      = decide (p.scope.tenantId = scope.tenantId) := rfl
  have hdomain : isText scope.securityDomain ((p.payload.get? "securityDomain").map Json.sortKeys)
      = decide (p.scope.securityDomain = scope.securityDomain) := rfl
  have hsize : isNumber pageSize ((p.payload.get? "pageSize").map Json.sortKeys)
      = decide (p.pageSize = pageSize) := rfl
  have hkey : readKey keySize ((p.payload.get? "lastKey").map Json.sortKeys)
      = if p.lastKey.length = keySize then
          if ∀ part ∈ p.lastKey, Part part then some p.lastKey else none
        else none := by
    show (if (Json.sortItems (p.lastKey.map .str)).length = keySize then _ else _) = _
    rw [length_sortItems, List.length_map, mapM_readPart]
  have hscope : p.scope = scope ↔ p.scope.tenantId = scope.tenantId
      ∧ p.scope.securityDomain = scope.securityDomain := by
    cases p.scope
    cases scope
    simp
  rw [hfields, readPayload]
  simp only [hget, hkeys, hnames, hversion, hroute, htenant, hdomain, hsize, hkey, Answers, hscope,
    Bool.true_and, Bool.and_eq_true, decide_eq_true_eq, ite_and]

/-- **What is read out of an encoded payload.** -/
theorem readEncoded_encoded (route : String) (scope : AuthorityScope) (pageSize : Int)
    (keySize : Nat) :
    readEncoded route scope pageSize keySize p.encoded
      = if p.Answers route scope pageSize keySize ∧ ∀ part ∈ p.lastKey, Part part then
          some p.lastKey
        else none := by
  rw [readEncoded, encoded, Base64.decode_encode]
  simp only [Option.bind_eq_bind, Option.bind_some, decodeUtf8_utf8]
  rw [Json.loads_dumps p.distinctKeys_payload]
  exact p.readPayload_payload route scope pageSize keySize

end Page

/-! ### The bounds of the reader -/

/-- The bytes of the JSON text of a value, in ASCII. -/
def jsonSize (v : Json) : Nat := String.utf8Len (Json.print true v)

/-- The bytes of a payload: those of the five values it is written from, and
108 for the keys and the version. -/
theorem jsonSize_payload (p : Page) :
    jsonSize p.payload = 108 + jsonSize (.str p.route) + jsonSize (.str p.scope.tenantId)
      + jsonSize (.str p.scope.securityDomain) + jsonSize (.int p.pageSize)
      + jsonSize (.arr (p.lastKey.map .str)) := by
  have hkeys : payloadKeys.map (fun key => String.utf8Len (Json.printStr true key))
      = [15, 7, 10, 16, 10, 9] := by
    decide +kernel
  have hversion : String.utf8Len (Json.print true (.str cursorVersion)) = 28 := by
    decide +kernel
  simp only [payloadKeys, List.map_cons, List.map_nil, List.cons.injEq, and_true] at hkeys
  obtain ⟨h₁, h₂, h₃, h₄, h₅, h₆⟩ := hkeys
  simp only [jsonSize, Page.payload]
  rw [Json.utf8Len_print_obj (by simp)]
  simp only [List.map_cons, List.map_nil, List.sum_cons, List.sum_nil, Json.fieldSize,
    h₁, h₂, h₃, h₄, h₅, h₆, hversion]
  omega

/-- A cursor is within the bounds of the reader. -/
structure Page.Fits (p : Page) : Prop where
  /-- Every part of the key is non-empty and at most 240 characters. -/
  parts : ∀ part ∈ p.lastKey, Part part
  /-- The JSON text is at most 1487 bytes. -/
  size : 108 + jsonSize (.str p.route) + jsonSize (.str p.scope.tenantId)
    + jsonSize (.str p.scope.securityDomain) + jsonSize (.int p.pageSize)
    + jsonSize (.arr (p.lastKey.map .str)) ≤ 1487

theorem length_utf8 (text : String) : (utf8 text).length = text.utf8ByteSize := by
  have h : ∀ cs : List Char, (cs.flatMap String.utf8EncodeChar).length = String.utf8Len cs := by
    intro cs
    induction cs with
    | nil => rfl
    | cons c cs ih =>
      rw [List.flatMap_cons, List.length_append, ih, String.length_utf8EncodeChar,
        String.utf8Len_cons, Nat.add_comm]
  rw [utf8_eq, h, ← String.utf8ByteSize_ofList, String.ofList_toList]

namespace WorkbenchCursorCodec

variable (codec : WorkbenchCursorCodec) (p : Page)

/-- The characters of a cursor. -/
theorem length_mint : (codec.mint p).length = (4 * jsonSize p.payload + 2) / 3 + 65 := by
  have hsignature : (codec.signature p.encoded).toList.length = 64 := by
    have h := hmacSha256_isHex64 codec.signingKey (signingDomain ++ utf8 (String.ofList p.encoded))
    simp only [isHex64_eq, Bool.and_eq_true, beq_iff_eq] at h
    exact h.1
  rw [mint, String.length_ofList, List.length_append, List.length_cons, hsignature, Page.encoded,
    Base64.length_encode, length_utf8, Json.utf8ByteSize_dumps]
  rfl

/-- A cursor is within the bound on tokens if its payload is at most 1487 bytes. -/
theorem length_mint_le : (codec.mint p).length ≤ 2048 ↔ jsonSize p.payload ≤ 1487 := by
  rw [length_mint]
  omega

/-- The two parts of a cursor. -/
theorem cut_mint : Datetime.cut '.' (codec.mint p).toList
    = some (p.encoded, (codec.signature p.encoded).toList) := by
  have hdot : '.' ∉ p.encoded := by
    intro h
    exact absurd (Base64.mem_alphabet_of_mem_encode h) (by decide)
  rw [mint, String.toList_ofList, Datetime.cut_append hdot]

/-! ### What is resolved -/

/-- **What is minted is resolved to its last key** where the bounds of the
reader allow it, and is refused otherwise. -/
theorem resolve_mint (route : String) (scope : AuthorityScope) (pageSize : Int) (keySize : Nat) :
    codec.resolve (codec.mint p) route scope pageSize keySize
      = if jsonSize p.payload ≤ 1487 ∧ p.Answers route scope pageSize keySize
          ∧ ∀ part ∈ p.lastKey, Part part then
          some p.lastKey
        else none := by
  have hne : codec.mint p ≠ "" := by
    intro h
    have hlength := codec.length_mint p
    rw [h] at hlength
    simp only [String.length_empty] at hlength
    omega
  rw [resolve]
  by_cases hsize : jsonSize p.payload ≤ 1487
  · have hbound := (codec.length_mint_le p).mpr hsize
    have hopen : ¬(codec.mint p = "" ∨ 2048 < (codec.mint p).length) := by
      rintro (h | h)
      · exact hne h
      · omega
    rw [if_neg hopen, cut_mint]
    simp only [Option.bind_eq_bind, Option.bind_some, String.ofList_toList, ne_eq,
      not_true_eq_false, if_false]
    rw [p.readEncoded_encoded]
    simp only [hsize, true_and]
  · have hbound := mt (codec.length_mint_le p).mp hsize
    have hclosed : codec.mint p = "" ∨ 2048 < (codec.mint p).length := .inr (by omega)
    rw [if_pos hclosed, if_neg (fun h => hsize h.1)]
    rfl

/-- No one but the holder of the key signs: the token carries a right signature
only over a payload that was minted. -/
def Unforged (issued : Set Page) (token : String) : Prop :=
  ∀ encoded signature, Datetime.cut '.' token.toList = some (encoded, signature) →
    String.ofList signature = codec.signature encoded → ∃ p ∈ issued, p.encoded = encoded

/-- **An unforged token is resolved only for what it was minted for.** -/
theorem answers_of_resolve {issued : Set Page} {token route : String} {scope : AuthorityScope}
    {pageSize : Int} {keySize : Nat} {key : List String} (hu : codec.Unforged issued token)
    (h : codec.resolve token route scope pageSize keySize = some key) :
    ∃ p ∈ issued, token = codec.mint p ∧ p.Answers route scope pageSize keySize
      ∧ p.lastKey = key := by
  rw [resolve] at h
  split at h
  · cases h
  · cases hcut : Datetime.cut '.' token.toList with
    | none =>
      rw [hcut] at h
      cases h
    | some parts =>
      obtain ⟨encoded, signature⟩ := parts
      rw [hcut] at h
      simp only [Option.bind_eq_bind, Option.bind_some] at h
      split at h
      · cases h
      · next hsignature =>
        have hsigned := not_not.mp hsignature
        obtain ⟨p, hp, rfl⟩ := hu encoded signature hcut hsigned
        rw [p.readEncoded_encoded] at h
        split at h
        · next hanswers =>
          have htoken : token.toList
              = p.encoded ++ '.' :: (codec.signature p.encoded).toList := by
            rw [Datetime.append_of_cut hcut, ← hsigned, String.toList_ofList]
          refine ⟨p, hp, ?_, hanswers.1, Option.some.inj h⟩
          rw [mint, ← htoken, String.ofList_toList]
        · cases h

/-- **Cursors resolve exactly if they fit.** A minted cursor is resolved to its
last key if and only if it is within the bounds of the reader; an unforged token
is resolved only for the route, scope, page size and size of key that it was
minted for, to the key it was minted with. -/
theorem cursors_resolve_iff (issued : Set Page) :
    (∀ p : Page, codec.resolve (codec.mint p) p.route p.scope p.pageSize p.lastKey.length
        = some p.lastKey ↔ p.Fits)
      ∧ ∀ (token route : String) (scope : AuthorityScope) (pageSize : Int) (keySize : Nat)
          (key : List String), codec.Unforged issued token →
          codec.resolve token route scope pageSize keySize = some key →
          ∃ p ∈ issued, token = codec.mint p ∧ p.Answers route scope pageSize keySize
            ∧ p.lastKey = key := by
  refine ⟨?_, fun _ _ _ _ _ _ hu h => codec.answers_of_resolve hu h⟩
  intro p
  rw [resolve_mint]
  constructor
  · intro h
    split at h
    · next hfit => exact ⟨hfit.2.2, (jsonSize_payload p).symm.trans_le hfit.1⟩
    · cases h
  · intro hfit
    rw [if_pos ⟨(jsonSize_payload p).trans_le hfit.size, ⟨rfl, rfl, rfl, rfl⟩, hfit.parts⟩]

end WorkbenchCursorCodec

/-! ### A scope too long -/

/-- A text is at least as large as its characters. -/
theorem length_le_jsonSize (s : String) : s.length ≤ jsonSize (.str s) := by
  have hbytes : ∀ cs : List Char, cs.length ≤ String.utf8Len cs := by
    intro cs
    induction cs with
    | nil => rfl
    | cons c cs ih =>
      have hpos := c.utf8Size_pos
      rw [List.length_cons, String.utf8Len_cons]
      omega
  have hescapes : s.toList.length ≤ (Json.escapes true s.toList).length := Json.escapes_length s.toList
  have hprint := hbytes (Json.printStr true s)
  rw [Json.printStr_eq, List.length_cons, List.length_append, ← Json.printStr_eq] at hprint
  rw [String.length_toList] at hescapes
  show s.length ≤ String.utf8Len (Json.printStr true s)
  omega

/-- A page of `AGENT_LIST` in the scope of a tenant whose identifier has 1500
letters. -/
def longTenantPage : Page where
  route := "AGENT_LIST"
  scope := ⟨String.ofList (List.replicate 1500 'a'), "security-1"⟩
  pageSize := 50
  lastKey := ["agent-definition-1"]

/-- **Its cursor cannot be used.** -/
theorem long_tenant_refused :
    ¬ ∀ (codec : WorkbenchCursorCodec) (p : Page),
      codec.resolve (codec.mint p) p.route p.scope p.pageSize p.lastKey.length
        = some p.lastKey := by
  intro h
  let codec : WorkbenchCursorCodec := ⟨List.replicate 32 1, by rw [List.length_replicate]⟩
  have hpage := h codec longTenantPage
  rw [codec.resolve_mint] at hpage
  split at hpage
  · next hfit =>
    have hsize := hfit.1
    have htenant := length_le_jsonSize longTenantPage.scope.tenantId
    have hlength : longTenantPage.scope.tenantId.length = 1500 := by
      rw [longTenantPage, String.length_ofList, List.length_replicate]
    rw [jsonSize_payload] at hsize
    omega
  · cases hpage

end WorkbenchPagination

end AgentPlatform
