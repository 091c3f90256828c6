/-
AgentPlatform/Definition/Contract.lean

The records of the definition authority: definition versions, publication
decisions and match authorisations, and the checks each of them has to pass.

A record is data and may be malformed; `validate` and its siblings return the
reason code of the first check that fails. Timestamps are datetimes as written,
of which only those with offset zero are accepted, so that comparing two accepted
ones is comparing their clocks.
-/
import AgentPlatform.Py.Hash
import AgentPlatform.Py.Isoformat
import AgentPlatform.Py.Json
import AgentPlatform.Py.Transaction
import AgentPlatform.Py.Words

namespace AgentPlatform
namespace Definition

open Py

/-! ### Constants and enumerations -/

def digestAlgorithm : String := "SHA-256"
def digestContractVersion : String := "definition-match-v1"
def definitionSchemaVersion : String := "definition-version.v1"
def snapshotContractVersion : String := "effective-definition-catalog.v1"
def identifierLimit : Nat := 200
def semanticTextLimit : Nat := 500
def maxAuthorizedCandidates : Nat := 64

inductive PublicationAction
  | publish | unpublish | revokePublication
  deriving DecidableEq

inductive MatchAuthorizationAction
  | grant | deny | revoke
  deriving DecidableEq

inductive ReplacementEffect
  | none | excludePredecessorForMatch
  deriving DecidableEq

/-! ### Texts -/

/-- Letters, digits and the separators of an identifier. -/
def isIdentifierChar (c : Char) : Bool := c.isAlphanum || "._:/-".toList.contains c

/-- `_IDENTIFIER.fullmatch`. -/
def isIdentifier (s : String) : Bool :=
  match s.toList with
  | [] => false
  | c :: cs => c.isAlphanum && cs.all isIdentifierChar && cs.length ≤ 199

theorem isIdentifierChar_ascii {c : Char} (h : isIdentifierChar c = true) : c.toNat < 128 := by
  rw [isIdentifierChar, Bool.or_eq_true] at h
  rcases h with h | h
  · exact isAlphanum_ascii h
  · have hall : ∀ c ∈ "._:/-".toList, c.toNat < 128 := by decide
    exact hall c (List.contains_iff_mem.mp h)

theorem isIdentifier_ascii {s : String} (h : isIdentifier s = true) : ∀ c ∈ s.toList, c.toNat < 128 := by
  intro c hc
  rw [isIdentifier] at h
  split at h
  · cases h
  · rename_i c' cs hs
    rw [hs] at hc
    simp only [Bool.and_eq_true, List.all_eq_true] at h
    rcases List.mem_cons.mp hc with rfl | hc
    · exact isAlphanum_ascii h.1.1
    · exact isIdentifierChar_ascii (h.1.2 c hc)

theorem isIdentifier_length {s : String} (h : isIdentifier s = true) :
    s ≠ "" ∧ s.length ≤ identifierLimit := by
  rw [isIdentifier] at h
  split at h
  · cases h
  · rename_i c cs hs
    simp only [Bool.and_eq_true, decide_eq_true_eq] at h
    rw [← String.length_toList, hs]
    refine ⟨?_, Nat.succ_le_succ h.2⟩
    rintro rfl
    cases hs

/-- Sixty-four hexadecimal digits, `re.fullmatch(r"[0-9a-f]{64}", s)`. -/
def checkDigest (code : String) (s : String) : Except String Unit :=
  if isHex64 s then .ok () else .error code

section Texts

variable [Whitespace]

def identifier (code value : String) : Except String String :=
  let normalized := nfc value
  if normalized = "" then .error code
  else if identifierLimit < normalized.length then .error "IDENTIFIER_LIMIT_EXCEEDED"
  else if ¬ isIdentifier normalized then .error code
  else .ok normalized

/-- `if _identifier(value, code) != value: raise _fail(code)`. -/
def checkIdentifier (code value : String) : Except String Unit := do
  let normalized ← identifier code value
  if normalized ≠ value then .error code else .ok ()

theorem identifier_of_isIdentifier {s : String} (code : String) (h : isIdentifier s = true) :
    identifier code s = .ok s := by
  have hnfc : nfc s = s := Unicodedata.nfc_ascii s (isIdentifier_ascii h)
  have hlen := isIdentifier_length h
  rw [identifier, hnfc]
  show (if s = "" then _ else if identifierLimit < s.length then _ else
    if ¬ isIdentifier s = true then _ else Except.ok s) = _
  rw [if_neg hlen.1, if_neg (Nat.not_lt.mpr hlen.2), if_neg (not_not.mpr h)]

/-- What `_identifier` returns. -/
theorem identifier_eq_ok {code value x : String} (h : identifier code value = .ok x) :
    x = nfc value ∧ isIdentifier x = true := by
  rw [identifier] at h
  simp only [ite_error_eq_ok', Except.ok.injEq, not_not] at h
  exact ⟨h.2.2.2.symm, h.2.2.2 ▸ h.2.2.1⟩

/-- A value that `_identifier` keeps is an identifier as it stands. -/
theorem checkIdentifier_eq_ok {code s : String} :
    checkIdentifier code s = .ok () ↔ isIdentifier s = true := by
  rw [checkIdentifier, bind_eq_ok]
  constructor
  · rintro ⟨x, hx, h⟩
    rw [ite_error_eq_ok', not_not] at h
    rw [← h.1]
    exact (identifier_eq_ok hx).2
  · intro h
    exact ⟨s, identifier_of_isIdentifier code h, if_neg (not_not.mpr rfl)⟩

def text (code value : String) : Except String String :=
  let normalized := collapse (nfc value)
  if normalized = "" then .error code
  else if semanticTextLimit < normalized.length then .error "SEMANTIC_TEXT_LIMIT_EXCEEDED"
  else .ok normalized

/-- `_set_items(value, code)`. -/
def setItems (code : String) (values : List String) : Except String (List String) := do
  let items ← values.mapM (text code)
  if ¬ items.Nodup then .error "AMBIGUOUS_SET_LIKE_CONTENT"
  else .ok (items.insertionSort (· ≤ ·))

end Texts

/-- `_utc(value, code)`. -/
def utc (code : String) (t : LocalDatetime) : Except String Datetime :=
  if h : t.micros < maxMicros ∧ t.offset = some 0 then .ok ⟨t.micros, h.1⟩ else .error code

/-! ### Canonical digests -/

section Canonical

variable [Unicodedata]

mutual

/-- `_canonical(value)`, for records whose keys stay distinct under normalisation. -/
def canonical : Json → Json
  | .null => .null
  | .bool b => .bool b
  | .int n => .int n
  | .str s => .str (nfc s)
  | .arr items => .arr (canonicalItems items)
  | .obj fields => .obj ((canonicalFields fields).insertionSort fun a b => a.1 ≤ b.1)

def canonicalItems : List Json → List Json
  | [] => []
  | v :: vs => canonical v :: canonicalItems vs

def canonicalFields : List (String × Json) → List (String × Json)
  | [] => []
  | (k, v) :: fs => (nfc k, canonical v) :: canonicalFields fs

end

/-- `canonical_json(value)`. -/
def canonicalJson (v : Json) : String := Json.dumps false (canonical v)

/-- `canonical_digest(value, domain=domain)`. -/
def canonicalDigest (domain : String) (v : Json) : String :=
  sha256 (domain ++ "\n" ++ canonicalJson v)

end Canonical

/-- A tuple of texts. -/
def texts (items : List String) : Json := .arr (items.map .str)

/-! ### Definition versions -/

structure RoleDescriptor where
  title : String
  duties : List String
  data : List String
  knowledge : List String
  skills : List String
  capabilities : List String
  runtimes : List String
  deriving DecidableEq

structure DefinitionVersion where
  definitionId : String
  versionId : String
  definitionDigest : String
  role : RoleDescriptor
  sourceAuthoringRevisionId : String
  sourceAuthorityKind : String
  sourceAuthorityRevision : String
  sourceAuthoringState : String
  tenantId : String
  securityDomain : String
  provenance : String
  createdAt : LocalDatetime
  schemaVersion : String
  digestAlgorithm : String
  digestContractVersion : String
  deriving DecidableEq

/-- `asdict(role)`. -/
def RoleDescriptor.payload (r : RoleDescriptor) : Json :=
  .obj [
    ("title", .str r.title), ("duties", texts r.duties), ("data", texts r.data),
    ("knowledge", texts r.knowledge), ("skills", texts r.skills),
    ("capabilities", texts r.capabilities), ("runtimes", texts r.runtimes)]

/-- `semantic_payload`, with the instant of `created_at`. -/
def DefinitionVersion.semanticPayload (v : DefinitionVersion) (createdAt : Datetime) : Json :=
  .obj [
    ("definitionId", .str v.definitionId),
    ("versionId", .str v.versionId),
    ("role", v.role.payload),
    ("sourceAuthoringRevisionId", .str v.sourceAuthoringRevisionId),
    ("sourceAuthorityKind", .str v.sourceAuthorityKind),
    ("sourceAuthorityRevision", .str v.sourceAuthorityRevision),
    ("sourceAuthoringState", .str v.sourceAuthoringState),
    ("tenantId", .str v.tenantId),
    ("securityDomain", .str v.securityDomain),
    ("provenance", .str v.provenance),
    ("createdAt", .str createdAt.isoformatZ),
    ("schemaVersion", .str v.schemaVersion),
    ("digestAlgorithm", .str v.digestAlgorithm),
    ("digestContractVersion", .str v.digestContractVersion)]

section Versions

variable [Whitespace]

/-- `RoleDescriptor.create(...)`. -/
def RoleDescriptor.create (title : String)
    (duties data knowledge skills capabilities runtimes : List String) :
    Except String RoleDescriptor := do
  let title ← text "INVALID_ROLE_TITLE" title
  let duties ← setItems "INVALID_ROLE_DUTY" duties
  let data ← setItems "INVALID_DATA_COVERAGE" data
  let knowledge ← setItems "INVALID_KNOWLEDGE_COVERAGE" knowledge
  let skills ← setItems "INVALID_SKILL_COVERAGE" skills
  let capabilities ← setItems "INVALID_CAPABILITY_COVERAGE" capabilities
  let runtimes ← setItems "INVALID_RUNTIME_COVERAGE" runtimes
  .ok ⟨title, duties, data, knowledge, skills, capabilities, runtimes⟩

/-- The role is what `RoleDescriptor.create` makes of it. -/
def RoleDescriptor.check (r : RoleDescriptor) : Except String Unit := do
  let created ← RoleDescriptor.create r.title r.duties r.data r.knowledge r.skills r.capabilities
    r.runtimes
  if r ≠ created then .error "MALFORMED_AUTHORITY_RECORD" else .ok ()

def DefinitionVersion.validate (v : DefinitionVersion) : Except String Unit :=
  if v.schemaVersion ≠ definitionSchemaVersion ∨ v.digestAlgorithm ≠ Definition.digestAlgorithm ∨
      v.digestContractVersion ≠ Definition.digestContractVersion then
    .error "INVALID_DEFINITION_DIGEST"
  else do
    checkIdentifier "INVALID_DEFINITION_ID" v.definitionId
    checkIdentifier "INVALID_VERSION_ID" v.versionId
    v.role.check
    checkIdentifier "INVALID_AUTHORING_REVISION" v.sourceAuthoringRevisionId
    checkIdentifier "INVALID_SOURCE_AUTHORITY" v.sourceAuthorityKind
    checkIdentifier "INVALID_SOURCE_REVISION" v.sourceAuthorityRevision
    checkIdentifier "INVALID_AUTHORING_STATE" v.sourceAuthoringState
    checkIdentifier "TENANT_SCOPE_MISMATCH" v.tenantId
    checkIdentifier "SECURITY_DOMAIN_SCOPE_MISMATCH" v.securityDomain
    checkIdentifier "INVALID_PROVENANCE" v.provenance
    let createdAt ← utc "INVALID_CREATED_AT" v.createdAt
    if v.sourceAuthoringState ≠ "APPROVED" then .error "AUTHORING_APPROVAL_REQUIRED"
    else if v.definitionDigest ≠ canonicalDigest Definition.digestContractVersion
        (v.semanticPayload createdAt) then
      .error "INVALID_DEFINITION_DIGEST"
    else .ok ()

end Versions

/-! ### Decisions -/

/-- The fields publication decisions and match authorisations share. -/
structure Decision where
  decisionId : String
  replayIdentity : String
  definitionId : String
  versionId : String
  definitionDigest : String
  sourceAuthorityRevision : String
  tenantId : String
  securityDomain : String
  reasonCode : String
  policyRef : String
  decidedAt : LocalDatetime
  effectiveAt : LocalDatetime
  expiresAt : Option LocalDatetime
  provenance : String
  deriving DecidableEq

structure PublicationDecision extends Decision where
  action : PublicationAction
  actor : String
  predecessorDefinitionId : Option String
  predecessorVersionId : Option String
  predecessorDigest : Option String
  replacementEffect : ReplacementEffect
  deriving DecidableEq

structure MatchAuthorizationDecision extends Decision where
  purpose : String
  action : MatchAuthorizationAction
  authority : String
  deriving DecidableEq

def validateDecisionTime (decidedAt effectiveAt : LocalDatetime) (expiresAt : Option LocalDatetime) :
    Except String Unit := do
  let _ ← utc "INVALID_DECISION_TIMESTAMP" decidedAt
  let effective ← utc "INVALID_EFFECTIVE_TIMESTAMP" effectiveAt
  match expiresAt with
  | none => .ok ()
  | some t => do
    let expiry ← utc "INVALID_EXPIRY" t
    if expiry ≤ effective then .error "INVALID_EXPIRY" else .ok ()

section Decisions

variable [Whitespace]

def Decision.validateCommon (d : Decision) : Except String Unit := do
  checkIdentifier "INVALID_DECISION_ID" d.decisionId
  checkIdentifier "INVALID_REPLAY_IDENTITY" d.replayIdentity
  checkIdentifier "INVALID_DEFINITION_ID" d.definitionId
  checkIdentifier "INVALID_VERSION_ID" d.versionId
  checkIdentifier "INVALID_SOURCE_REVISION" d.sourceAuthorityRevision
  checkIdentifier "TENANT_SCOPE_MISMATCH" d.tenantId
  checkIdentifier "SECURITY_DOMAIN_SCOPE_MISMATCH" d.securityDomain
  checkIdentifier "INVALID_REASON_CODE" d.reasonCode
  checkIdentifier "INVALID_POLICY_REFERENCE" d.policyRef
  checkIdentifier "INVALID_PROVENANCE" d.provenance
  checkDigest "INVALID_DEFINITION_DIGEST" d.definitionDigest
  validateDecisionTime d.decidedAt d.effectiveAt d.expiresAt

/-- The checks on the predecessor a decision names. -/
def PublicationDecision.checkPredecessor (d : PublicationDecision) : Except String Unit :=
  match d.replacementEffect with
  | .none =>
    if d.predecessorDefinitionId ≠ none ∨ d.predecessorVersionId ≠ none ∨
        d.predecessorDigest ≠ none then
      .error "INVALID_PREDECESSOR_EXCLUSION"
    else .ok ()
  | .excludePredecessorForMatch =>
    match d.predecessorDefinitionId, d.predecessorVersionId, d.predecessorDigest with
    | some definitionId, some versionId, some digest =>
      if d.action ≠ .publish then .error "INVALID_PREDECESSOR_EXCLUSION"
      else do
        let _ ← identifier "INVALID_PREDECESSOR_EXCLUSION" definitionId
        let _ ← identifier "INVALID_PREDECESSOR_EXCLUSION" versionId
        checkDigest "INVALID_PREDECESSOR_EXCLUSION" digest
    | _, _, _ => .error "INVALID_PREDECESSOR_EXCLUSION"

def PublicationDecision.validate (d : PublicationDecision) : Except String Unit := do
  d.validateCommon
  checkIdentifier "INVALID_ACTOR" d.actor
  d.checkPredecessor

def MatchAuthorizationDecision.validate (d : MatchAuthorizationDecision) : Except String Unit := do
  d.validateCommon
  checkIdentifier "INVALID_MATCH_PURPOSE" d.purpose
  checkIdentifier "INVALID_AUTHORITY" d.authority

end Decisions

def Decision.active (d : Decision) (at' : Datetime) : Bool :=
  d.effectiveAt.micros ≤ at'.micros &&
    match d.expiresAt with
    | none => true
    | some t => at'.micros < t.micros

end Definition
end AgentPlatform
