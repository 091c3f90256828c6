/-
AgentPlatform/ExecutionEvidence.lean

The evidence domain (`agent_core.execution_evidence.domain`): the text checks
of `_text`, and `ExecutionEvidenceRecord` with its canonical payload.

`_text` refuses texts that look like secrets or host paths before it checks
their alphabet.
-/
import AgentPlatform.ExecutionContract
import AgentPlatform.Py.Transaction

namespace AgentPlatform

open Py

namespace Evidence

/-! ### Text checks -/

def maxText : Nat := 512

/-- `EvidenceValidationError(code)`. -/
abbrev invalid (code : String) : Failure := .evidenceValidation code

/-- Characters `re.IGNORECASE` does not tell apart. -/
def foldCase (c : Char) : Char :=
  if c = 'ſ' then 's' else if c = 'K' then 'k' else if c = 'İ' ∨ c = 'ı' then 'i'
  else c.toLower

/-- The words of `_SENSITIVE`, its optional separators written out. -/
def sensitiveWords : List String :=
  let separated (a b : String) := [a ++ b, a ++ "_" ++ b, a ++ "-" ++ b]
  separated "api" "key" ++ ["authorization", "bearer", "credential", "password", "secret", "token"]
    ++ ["prompt", "input", "output", "request", "response", "argument"].flatMap (separated "raw")
    ++ separated "stack" "trace" ++ separated "environment" "dump" ++ separated "host" "path"

/-- `word` occurs in `cs`. -/
def occurs (word cs : List Char) : Bool := cs.tails.any word.isPrefixOf

/-- `_SENSITIVE.search`. -/
def sensitive (cs : List Char) : Bool :=
  sensitiveWords.any fun w => occurs w.toList (cs.map foldCase)

/-- `/Users/`, `/home/`, `/private/` or a drive letter. -/
def startsHostPath (cs : List Char) : Bool :=
  ["/Users/", "/home/", "/private/"].any (fun p => p.toList.isPrefixOf cs) ||
    match cs with
    | c :: ':' :: '\\' :: _ => c.isAlpha
    | _ => false

/-- `_HOST_PATH.search`. -/
def hostPath (cs : List Char) : Bool :=
  startsHostPath cs || cs.tails.any fun
    | c :: rest => isSpace c && startsHostPath rest
    | [] => false

def isIdentityChar (c : Char) : Bool := c.isAlphanum || "._:@/-".toList.contains c

/-- `_IDENTITY.fullmatch`. -/
def isIdentity : List Char → Bool
  | [] => false
  | c :: cs => c.isAlphanum && cs.all isIdentityChar && decide (cs.length ≤ 255)

/-- `_CODE.fullmatch`. -/
def isCode : List Char → Bool
  | [] => false
  | c :: cs => c.isUpper && cs.all (fun c => c.isUpper || c.isDigit || c = '_') &&
      decide (cs.length ≤ 127)

section Text

variable [Unicodedata]

/-- `_text` accepts the value, against the pattern `p`. -/
def accepts (p : List Char → Bool) (value : String) : Bool :=
  strip value ≠ "" && value.length ≤ maxText && !sensitive (nfc value).toList &&
    !hostPath (nfc value).toList && p (nfc value).toList

/-- `_text(value, code, stable_code=...)`. -/
def text (p : List Char → Bool) (code value : String) : Except Failure String :=
  if strip value = "" ∨ maxText < value.length then .error (invalid code)
  else if sensitive (nfc value).toList || hostPath (nfc value).toList then
    .error (invalid "PROHIBITED_EVIDENCE_CONTENT")
  else if !p (nfc value).toList then .error (invalid code)
  else .ok (nfc value)

def optionalText (p : List Char → Bool) (code : String) :
    Option String → Except Failure (Option String)
  | none => .ok none
  | some value => (text p code value).map some

theorem text_eq_ok {p : List Char → Bool} {code value t : String} :
    text p code value = .ok t ↔ accepts p value = true ∧ nfc value = t := by
  unfold text accepts
  constructor
  · intro h
    split at h
    · cases h
    · split at h
      · cases h
      · split at h
        · cases h
        · cases h
          simp_all
  · rintro ⟨h, rfl⟩
    simp only [Bool.and_eq_true, Bool.not_eq_true', decide_eq_true_eq] at h
    obtain ⟨⟨⟨⟨h1, h2⟩, h3⟩, h4⟩, h5⟩ := h
    simp_all

theorem optionalText_eq_ok {p : List Char → Bool} {code : String} {value t : Option String} :
    optionalText p code value = .ok t ↔
      (∀ v ∈ value, accepts p v = true) ∧ value.map nfc = t := by
  cases value with
  | none => simp [optionalText]
  | some v =>
    rw [optionalText]
    rcases h : text p code v with e | w
    · have hn : accepts p v ≠ true := by
        intro ha
        rw [text_eq_ok.mpr ⟨ha, rfl⟩] at h
        cases h
      simp [Except.map, hn]
    · obtain ⟨ha, rfl⟩ := text_eq_ok.mp h
      simp [Except.map, ha]

/-! ### Harmless texts -/

/-- Lower-case letters that leave no sensitive word possible, digits and `-`. -/
def harmlessChars : List Char := "abcdefgijlmnoqtuvwxyz0123456789-".toList

/-- Letters of which every sensitive word has one, and the marks of a path. -/
def tellingChars : List Char := "prskh/:".toList

omit [Unicodedata] in
theorem harmlessChars_spec : ∀ c ∈ harmlessChars, c.toNat < 128 ∧ isSpace c = false ∧
    foldCase c = c ∧ isIdentityChar c = true ∧ c ∉ tellingChars := by
  decide

omit [Unicodedata] in
theorem sensitiveWords_telling : ∀ w ∈ sensitiveWords, ∃ c ∈ w.toList, c ∈ tellingChars := by
  decide +kernel

omit [Unicodedata] in
theorem mem_of_isPrefixOf {word cs : List Char} (h : word.isPrefixOf cs = true) {c : Char}
    (hc : c ∈ word) : c ∈ cs :=
  (List.isPrefixOf_iff_prefix.mp h).subset hc

omit [Unicodedata] in
theorem not_sensitive {cs : List Char} (h : ∀ c ∈ cs, c ∈ harmlessChars) :
    sensitive cs = false := by
  have hfold : cs.map foldCase = cs := by
    conv_rhs => rw [← List.map_id cs]
    exact List.map_congr_left fun c hc => (harmlessChars_spec c (h c hc)).2.2.1
  rw [← Bool.not_eq_true]
  intro hs
  simp only [sensitive, hfold, List.any_eq_true, occurs] at hs
  obtain ⟨w, hw, t, ht, hp⟩ := hs
  obtain ⟨c, hc, htell⟩ := sensitiveWords_telling w hw
  have hm : c ∈ cs := ((List.mem_tails _ _).mp ht).subset (mem_of_isPrefixOf hp hc)
  exact (harmlessChars_spec c (h c hm)).2.2.2.2 htell

omit [Unicodedata] in
/-- A host path shows one of its marks. -/
theorem startsHostPath_telling {cs : List Char} (h : startsHostPath cs = true) :
    ∃ c ∈ cs, c ∈ tellingChars := by
  unfold startsHostPath at h
  rw [Bool.or_eq_true] at h
  rcases h with h | h
  · simp only [List.any_eq_true] at h
    obtain ⟨p, hp, hpre⟩ := h
    have hslash : ∀ p ∈ ["/Users/", "/home/", "/private/"], '/' ∈ p.toList := by decide
    exact ⟨'/', mem_of_isPrefixOf hpre (hslash p hp), by decide⟩
  · split at h
    · exact ⟨':', by simp, by decide⟩
    · cases h

omit [Unicodedata] in
theorem not_hostPath {cs : List Char} (h : ∀ c ∈ cs, c ∈ harmlessChars) :
    hostPath cs = false := by
  have key : ∀ t, t ⊆ cs → startsHostPath t = false := by
    intro t ht
    rw [← Bool.not_eq_true]
    intro hs
    obtain ⟨c, hc, htell⟩ := startsHostPath_telling hs
    exact (harmlessChars_spec c (h c (ht hc))).2.2.2.2 htell
  rw [← Bool.not_eq_true]
  intro hs
  simp only [hostPath, key cs (List.Subset.refl _), Bool.false_or, List.any_eq_true] at hs
  obtain ⟨t, ht, hm⟩ := hs
  rcases t with _ | ⟨c, rest⟩
  · cases hm
  · have hsub := ((List.mem_tails _ _).mp ht).subset
    simp only [Bool.and_eq_true] at hm
    rw [key rest fun x hx => hsub (List.mem_cons_of_mem _ hx)] at hm
    cases hm.2

theorem nfc_harmless {value : String} (h : ∀ c ∈ value.toList, c ∈ harmlessChars) :
    nfc value = value :=
  Unicodedata.nfc_ascii value fun c hc => (harmlessChars_spec c (h c hc)).1

/-- **Harmless identities are accepted.** -/
theorem accepts_harmless {value : String} (h : ∀ c ∈ value.toList, c ∈ harmlessChars)
    (hhead : ∃ c cs, value.toList = c :: cs ∧ c.isAlphanum = true)
    (hlen : value.length ≤ 256) : accepts isIdentity value = true := by
  obtain ⟨c, cs, hv, hc⟩ := hhead
  have hstrip : strip value ≠ "" := by
    rw [strip_of_no_space fun d hd => (harmlessChars_spec d (h d hd)).2.1]
    rintro rfl
    cases hv
  have hident : isIdentity value.toList = true := by
    have hl : cs.length ≤ 255 := by
      have := congrArg List.length hv
      rw [String.length_toList, List.length_cons] at this
      omega
    have hall : cs.all isIdentityChar = true := by
      rw [List.all_eq_true]
      intro d hd
      exact (harmlessChars_spec d (h d (hv ▸ List.mem_cons_of_mem _ hd))).2.2.2.1
    simp [hv, isIdentity, hc, hall, hl]
  have hbound : value.length ≤ maxText := hlen.trans (by decide)
  simp [accepts, hstrip, hbound, nfc_harmless h, not_sensitive h, not_hostPath h, hident]

end Text

end Evidence

/-! ### Evidence records -/

inductive AuthorizationDecision
  | allow | deny | notApplicable
  deriving DecidableEq

def AuthorizationDecision.value : AuthorizationDecision → String
  | allow => "ALLOW"
  | deny => "DENY"
  | notApplicable => "NOT_APPLICABLE"

inductive EvidenceEventType
  | runtimeOutcome | capabilityOutcome | executionOutcome
  deriving DecidableEq

def EvidenceEventType.value : EvidenceEventType → String
  | runtimeOutcome => "RUNTIME_OUTCOME"
  | capabilityOutcome => "CAPABILITY_OUTCOME"
  | executionOutcome => "EXECUTION_OUTCOME"

inductive OutcomeClassification
  | succeeded | failed | denied | unknown
  deriving DecidableEq

def OutcomeClassification.value : OutcomeClassification → String
  | succeeded => "SUCCEEDED"
  | failed => "FAILED"
  | denied => "DENIED"
  | unknown => "UNKNOWN"

def OutcomeClassification.ofValue (value : String) : Except Failure OutcomeClassification :=
  match [succeeded, failed, denied, unknown].find? (·.value = value) with
  | some c => .ok c
  | none => .error (Evidence.invalid "INVALID_EVIDENCE")

inductive ReferenceType
  | evidence | citation
  deriving DecidableEq

def ReferenceType.value : ReferenceType → String
  | evidence => "EVIDENCE"
  | citation => "CITATION"

inductive ReferenceVisibility
  | product | technical | both | detailOnly
  deriving DecidableEq

def ReferenceVisibility.value : ReferenceVisibility → String
  | product => "PRODUCT"
  | technical => "TECHNICAL"
  | both => "BOTH"
  | detailOnly => "DETAIL_ONLY"

structure AuthorizedReference where
  referenceIdentity : String
  referenceType : ReferenceType
  namespaceName : String
  securityDomain : String
  authorizationDecision : AuthorizationDecision
  reasonCode : String
  visibility : ReferenceVisibility
  sourceIdentity : String
  provenance : String
  deriving DecidableEq

def AuthorizedReference.canonicalPayload (r : AuthorizedReference) : Json :=
  .obj [("reference_identity", .str r.referenceIdentity),
    ("reference_type", .str r.referenceType.value),
    ("namespace", .str r.namespaceName), ("security_domain", .str r.securityDomain),
    ("authorization_decision", .str r.authorizationDecision.value),
    ("reason_code", .str r.reasonCode), ("visibility", .str r.visibility.value),
    ("source_identity", .str r.sourceIdentity), ("provenance", .str r.provenance)]

/-- The fields a producer fills in. `Ordinal` is the type of the attempt
ordinal and `Outcome` that of the classification: still unchecked in the
mapping given to `from_allowlisted`, checked in the record. -/
structure EvidenceFields (Ordinal Outcome : Type) where
  evidenceRecordId : String
  namespaceName : String
  securityDomain : String
  platformExecutionIdentity : String
  workflowIdentity : String
  taskIdentity : String
  attemptOrdinal : Ordinal
  eventOrdinal : Int
  eventType : EvidenceEventType
  occurredAt : Datetime
  runtimeClassification : String
  selectedInstanceIdentity : String
  capabilityIdentity : Option String
  authorizationDecision : AuthorizationDecision
  reasonCode : String
  providerCorrelationId : Option String
  providerCallCount : Int
  outcomeClassification : Outcome
  outcomeReference : Option String
  references : List AuthorizedReference
  limitationCode : Option String
  supersedesRecordId : Option String
  schemaVersion : Int

/-- The mapping `from_allowlisted` takes. The ordinal may be the null of an
`attempts` row; timestamps are those of aware datetimes. -/
abbrev EvidenceSource := EvidenceFields (Option Int) String

abbrev ExecutionEvidenceRecord := EvidenceFields Int OutcomeClassification

namespace ExecutionEvidenceRecord

def maxRefs : Nat := 32

/-- `sorted(references, key=(type, identity))`. -/
def sortReferences (rs : List AuthorizedReference) : List AuthorizedReference :=
  rs.insertionSort fun a b =>
    a.referenceType.value < b.referenceType.value ∨
      (a.referenceType = b.referenceType ∧ a.referenceIdentity ≤ b.referenceIdentity)

/-- The attempt ordinal, which must not be the null of its column. -/
def ordinal : Option Int → Except Failure Int
  | some n => .ok n
  | none => .error (Evidence.invalid "INVALID_EVIDENCE_ORDINAL")

def fromAllowlisted [Unicodedata] (source : EvidenceSource) :
    Except Failure ExecutionEvidenceRecord := do
  let outcomeClassification ← OutcomeClassification.ofValue source.outcomeClassification
  let identity := Evidence.text Evidence.isIdentity "INVALID_EVIDENCE"
  let evidenceRecordId ← identity source.evidenceRecordId
  let namespaceName ← identity source.namespaceName
  let securityDomain ← identity source.securityDomain
  let platformExecutionIdentity ← identity source.platformExecutionIdentity
  let workflowIdentity ← identity source.workflowIdentity
  let taskIdentity ← identity source.taskIdentity
  let runtimeClassification ← identity source.runtimeClassification
  let selectedInstanceIdentity ← identity source.selectedInstanceIdentity
  let attemptOrdinal ← ordinal source.attemptOrdinal
  if attemptOrdinal < 1 ∨ source.eventOrdinal < 1 ∨ source.providerCallCount < 0 then
    .error (Evidence.invalid "INVALID_EVIDENCE_ORDINAL")
  else if source.schemaVersion ≠ 1 then .error (Evidence.invalid "UNSUPPORTED_EVIDENCE_SCHEMA")
  else do
    let reasonCode ← Evidence.text Evidence.isCode "INVALID_REASON_CODE" source.reasonCode
    let capabilityIdentity ← Evidence.optionalText Evidence.isIdentity
      "INVALID_CAPABILITY_IDENTITY" source.capabilityIdentity
    let providerCorrelationId ← Evidence.optionalText Evidence.isIdentity
      "INVALID_PROVIDER_CORRELATION" source.providerCorrelationId
    let outcomeReference ← Evidence.optionalText Evidence.isIdentity
      "INVALID_OUTCOME_REFERENCE" source.outcomeReference
    let supersedesRecordId ← Evidence.optionalText Evidence.isIdentity
      "INVALID_SUPERSESSION" source.supersedesRecordId
    let limitationCode ← Evidence.optionalText Evidence.isCode
      "INVALID_LIMITATION_CODE" source.limitationCode
    if maxRefs < source.references.length then
      .error (Evidence.invalid "INVALID_REFERENCE_AUTHORIZATION")
    else if ¬ (source.references.map fun r => (r.referenceType, r.referenceIdentity)).Nodup then
      .error (Evidence.invalid "DUPLICATE_REFERENCE_AUTHORIZATION")
    else if source.authorizationDecision = .deny ∧ (source.providerCallCount ≠ 0 ∨
        ∃ r ∈ source.references, r.authorizationDecision = .allow) then
      .error (Evidence.invalid "DENY_REQUIRES_ZERO_PROVIDER_EFFECTS")
    else
      .ok {
        evidenceRecordId, namespaceName, securityDomain, platformExecutionIdentity,
        workflowIdentity, taskIdentity, attemptOrdinal
        eventOrdinal := source.eventOrdinal
        eventType := source.eventType
        occurredAt := source.occurredAt
        runtimeClassification, selectedInstanceIdentity, capabilityIdentity
        authorizationDecision := source.authorizationDecision
        reasonCode, providerCorrelationId
        providerCallCount := source.providerCallCount
        outcomeClassification, outcomeReference
        references := sortReferences source.references
        limitationCode, supersedesRecordId
        schemaVersion := source.schemaVersion }

/-- What `from_allowlisted` requires of a mapping with attempt ordinal `n` and
classification `k`. -/
structure Accepted [Unicodedata] (source : EvidenceSource) (n : Int)
    (k : OutcomeClassification) : Prop where
  outcome : OutcomeClassification.ofValue source.outcomeClassification = .ok k
  identities : ∀ t ∈ [source.evidenceRecordId, source.namespaceName, source.securityDomain,
    source.platformExecutionIdentity, source.workflowIdentity, source.taskIdentity,
    source.runtimeClassification, source.selectedInstanceIdentity],
    Evidence.accepts Evidence.isIdentity t = true
  ordinal : source.attemptOrdinal = some n
  positive : 1 ≤ n ∧ 1 ≤ source.eventOrdinal ∧ 0 ≤ source.providerCallCount
  schema : source.schemaVersion = 1
  reason : Evidence.accepts Evidence.isCode source.reasonCode = true
  optional : ∀ o ∈ [source.capabilityIdentity, source.providerCorrelationId,
    source.outcomeReference, source.supersedesRecordId], ∀ t ∈ o,
    Evidence.accepts Evidence.isIdentity t = true
  limitation : ∀ t ∈ source.limitationCode, Evidence.accepts Evidence.isCode t = true
  references : source.references.length ≤ maxRefs ∧
    (source.references.map fun r => (r.referenceType, r.referenceIdentity)).Nodup
  denied : source.authorizationDecision = .deny →
    source.providerCallCount = 0 ∧ ∀ r ∈ source.references, r.authorizationDecision ≠ .allow

/-- The record of an accepted mapping: its texts in normal form. -/
def normalized [Unicodedata] (source : EvidenceSource) (n : Int) (k : OutcomeClassification) :
    ExecutionEvidenceRecord where
  evidenceRecordId := nfc source.evidenceRecordId
  namespaceName := nfc source.namespaceName
  securityDomain := nfc source.securityDomain
  platformExecutionIdentity := nfc source.platformExecutionIdentity
  workflowIdentity := nfc source.workflowIdentity
  taskIdentity := nfc source.taskIdentity
  attemptOrdinal := n
  eventOrdinal := source.eventOrdinal
  eventType := source.eventType
  occurredAt := source.occurredAt
  runtimeClassification := nfc source.runtimeClassification
  selectedInstanceIdentity := nfc source.selectedInstanceIdentity
  capabilityIdentity := source.capabilityIdentity.map nfc
  authorizationDecision := source.authorizationDecision
  reasonCode := nfc source.reasonCode
  providerCorrelationId := source.providerCorrelationId.map nfc
  providerCallCount := source.providerCallCount
  outcomeClassification := k
  outcomeReference := source.outcomeReference.map nfc
  references := sortReferences source.references
  limitationCode := source.limitationCode.map nfc
  supersedesRecordId := source.supersedesRecordId.map nfc
  schemaVersion := source.schemaVersion

/-- `from_allowlisted` returns the normalised record of exactly the accepted
mappings. -/
theorem fromAllowlisted_eq_ok [Unicodedata] {source : EvidenceSource}
    {r : ExecutionEvidenceRecord} :
    fromAllowlisted source = .ok r ↔
      ∃ n k, Accepted source n k ∧ r = normalized source n k := by
  unfold fromAllowlisted
  simp only [bind_eq_ok, Evidence.text_eq_ok, Evidence.optionalText_eq_ok, ite_error_eq_ok']
  constructor
  · rintro ⟨k, hk, _, ⟨h1, e1⟩, _, ⟨h2, e2⟩, _, ⟨h3, e3⟩, _, ⟨h4, e4⟩, _, ⟨h5, e5⟩, _, ⟨h6, e6⟩,
      _, ⟨h7, e7⟩, _, ⟨h8, e8⟩, n, hn, hpos, hschema, _, ⟨h9, e9⟩, _, ⟨h10, e10⟩, _, ⟨h11, e11⟩, _,
      ⟨h12, e12⟩, _, ⟨h13, e13⟩, _, ⟨h14, e14⟩, hrefs, hdup, hdeny, h⟩
    have hn' : source.attemptOrdinal = some n := by
      rcases e : source.attemptOrdinal with _ | m
      · rw [e] at hn
        cases hn
      · rw [e] at hn
        cases hn
        rfl
    refine ⟨n, k, ⟨hk, ?_, hn', by omega, not_not.mp hschema, h9, ?_, h14, ⟨by omega, ?_⟩, ?_⟩, ?_⟩
    · simp [h1, h2, h3, h4, h5, h6, h7, h8]
    · simp only [List.mem_cons, List.not_mem_nil, or_false]
      rintro o (rfl | rfl | rfl | rfl)
      · exact h10
      · exact h11
      · exact h12
      · exact h13
    · exact not_not.mp hdup
    · intro hd
      push Not at hdeny
      exact hdeny hd
    · rw [← Except.ok.inj h]
      simp only [normalized, e1, e2, e3, e4, e5, e6, e7, e8, e9, e10, e11, e12, e13, e14]
  · rintro ⟨n, k, ha, rfl⟩
    have hi := ha.identities
    simp only [List.mem_cons, List.not_mem_nil, or_false, forall_eq_or_imp, forall_eq] at hi
    have ho := ha.optional
    simp only [List.mem_cons, List.not_mem_nil, or_false, forall_eq_or_imp, forall_eq] at ho
    refine ⟨k, ha.outcome, _, ⟨hi.1, rfl⟩, _, ⟨hi.2.1, rfl⟩, _, ⟨hi.2.2.1, rfl⟩, _,
      ⟨hi.2.2.2.1, rfl⟩, _, ⟨hi.2.2.2.2.1, rfl⟩, _, ⟨hi.2.2.2.2.2.1, rfl⟩, _,
      ⟨hi.2.2.2.2.2.2.1, rfl⟩, _, ⟨hi.2.2.2.2.2.2.2, rfl⟩, n, by rw [ha.ordinal]; rfl, ?_,
      not_not.mpr ha.schema, _, ⟨ha.reason, rfl⟩, _, ⟨ho.1, rfl⟩, _, ⟨ho.2.1, rfl⟩, _,
      ⟨ho.2.2.1, rfl⟩, _, ⟨ho.2.2.2, rfl⟩, _, ⟨ha.limitation, rfl⟩, ?_, ?_, ?_, rfl⟩
    · have := ha.positive
      omega
    · exact Nat.not_lt.mpr ha.references.1
    · exact not_not.mpr ha.references.2
    · rintro ⟨hd, h⟩
      obtain ⟨hc, hr⟩ := ha.denied hd
      rcases h with h | ⟨r, hm, h⟩
      · exact h hc
      · exact hr r hm h

/-- Fields of `canonical_payload`. -/
def fields (r : ExecutionEvidenceRecord) : List (String × Json) :=
  [("schema_version", .int r.schemaVersion),
    ("evidence_record_id", .str r.evidenceRecordId),
    ("namespace", .str r.namespaceName),
    ("security_domain", .str r.securityDomain),
    ("platform_execution_identity", .str r.platformExecutionIdentity),
    ("workflow_identity", .str r.workflowIdentity),
    ("task_identity", .str r.taskIdentity),
    ("attempt_ordinal", .int r.attemptOrdinal),
    ("event_ordinal", .int r.eventOrdinal),
    ("event_type", .str r.eventType.value),
    ("occurred_at", .str r.occurredAt.isoformatZ),
    ("runtime_classification", .str r.runtimeClassification),
    ("selected_instance_identity", .str r.selectedInstanceIdentity),
    ("capability_identity", .optStr r.capabilityIdentity),
    ("authorization_decision", .str r.authorizationDecision.value),
    ("reason_code", .str r.reasonCode),
    ("provider_correlation_id", .optStr r.providerCorrelationId),
    ("provider_call_count", .int r.providerCallCount),
    ("outcome_classification", .str r.outcomeClassification.value),
    ("outcome_reference", .optStr r.outcomeReference),
    ("references", .arr (r.references.map (·.canonicalPayload))),
    ("limitation_code", .optStr r.limitationCode),
    ("supersedes_record_id", .optStr r.supersedesRecordId)]

def canonicalPayload (r : ExecutionEvidenceRecord) : Json := .obj r.fields

/-- `canonical_json(canonical_payload)`. -/
def canonicalBytes (r : ExecutionEvidenceRecord) : String := Json.dumps false r.canonicalPayload

def payloadDigest (r : ExecutionEvidenceRecord) : String := sha256 r.canonicalBytes

theorem fields_keys (r : ExecutionEvidenceRecord) :
    r.fields.map Prod.fst = ["schema_version", "evidence_record_id", "namespace",
      "security_domain", "platform_execution_identity", "workflow_identity", "task_identity",
      "attempt_ordinal", "event_ordinal", "event_type", "occurred_at", "runtime_classification",
      "selected_instance_identity", "capability_identity", "authorization_decision",
      "reason_code", "provider_correlation_id", "provider_call_count", "outcome_classification",
      "outcome_reference", "references", "limitation_code", "supersedes_record_id"] := rfl

/-- The canonical bytes name the scope and the attempt. -/
theorem subject_of_canonical {r r' : ExecutionEvidenceRecord}
    (h : r.canonicalBytes = r'.canonicalBytes) :
    r.namespaceName = r'.namespaceName ∧ r.securityDomain = r'.securityDomain ∧
      r.platformExecutionIdentity = r'.platformExecutionIdentity := by
  have hk : r.fields.map Prod.fst = r'.fields.map Prod.fst := by
    rw [fields_keys, fields_keys]
  have hn : (r.fields.map Prod.fst).Nodup := by
    rw [fields_keys]
    decide
  have hs := Json.sortKeys_obj_inj hk hn (Json.dumps_injective h)
  simp only [fields, List.map_cons, List.cons.injEq, Json.sortKeys, Json.str.injEq] at hs
  exact ⟨hs.2.2.1, hs.2.2.2.1, hs.2.2.2.2.1⟩

end ExecutionEvidenceRecord

end AgentPlatform
