/-
AgentPlatform/Planning/Contract.lean

The values of bounded planning: texts and identifiers, business questions, the
candidate a generator proposes, and the task requirements read from it.

A raw candidate is a JSON value. A `PlanningError` is its reason code, and a
function that can raise is a function into `Except String`. Texts are
normalised to NFC and single spaces, identifiers in addition to lower case; an
`Identifier` carries the pattern it was checked against, so that it is ASCII.

Every digest is the SHA-256 of a canonical text (`canonicalJson`): strings in
NFC, keys sorted, no blanks.
-/
import AgentPlatform.ExecutionEvidence
import AgentPlatform.Py.Isoformat
import AgentPlatform.Py.JsonText
import AgentPlatform.Py.Words

namespace AgentPlatform
namespace Planning

open Py Evidence

/-! ### Limits and states -/

def itemTextLimit : Nat := 500
def taskLimit : Nat := 32
def dependencyLimit : Nat := 128
def serializedCandidateLimit : Nat := 32000
def schemaVersion : String := "planning.v1"
def digestAlgorithm : String := "sha256-canonical-json-nfc-v1"

inductive PlanningState
  | draft | generated | validating | valid | pendingApproval | approved | canonicalized
  | invalid | unsupported | ambiguous | unknown | rejected | superseded
  deriving DecidableEq

inductive PlanningDecision
  | approve | reject
  deriving DecidableEq

/-! ### Texts -/

/-- `unicodedata.category(char) == "Cc"`. -/
def isControl (c : Char) : Bool := c.toNat < 32 || 127 ≤ c.toNat && c.toNat < 160

/-- The words of `_SECRET`, its optional separator written out. -/
def secretWords : List String :=
  ["apikey", "api_key", "api-key", "authorization", "bearer", "credential", "password", "secret",
    "token"]

/-- `_SECRET.search`. -/
def secretShaped (cs : List Char) : Bool :=
  secretWords.any fun w => occurs w.toList (cs.map foldCase)

section Texts

variable [Whitespace]

/-- `_text(value, code, limit=limit)`. -/
def text (code : String) (limit : Nat) : Json → Except String String
  | .str s =>
    let normalized := collapse (nfc s)
    if normalized = "" then .error code
    else if limit < normalized.length then .error "INPUT_LIMIT_EXCEEDED"
    else if normalized.toList.any isControl then .error "INVALID_CONTROL_CHARACTER"
    else if secretShaped normalized.toList then .error "SECRET_SHAPED_VALUE_REJECTED"
    else .ok normalized
  | _ => .error code

/-- An accepted text is in normal form. -/
theorem text_nfc {code : String} {limit : Nat} {v : Json} {t : String}
    (h : text code limit v = .ok t) : nfc t = t := by
  cases v with
  | str s =>
    simp only [text, ite_error_eq_ok', Except.ok.injEq] at h
    obtain ⟨-, -, -, -, rfl⟩ := h
    exact Whitespace.nfc_collapse_nfc s
  | _ => cases h

/-- `_string_items(value, code, allow_empty=allowEmpty)`. -/
def stringItems (code : String) (allowEmpty : Bool) : Json → Except String (List String)
  | .arr items =>
    if taskLimit < items.length then .error "INPUT_LIMIT_EXCEEDED"
    else do
      let texts ← items.mapM (text code itemTextLimit)
      if !allowEmpty && texts.isEmpty then .error code
      else if ¬ texts.Nodup then .error "AMBIGUOUS_DUPLICATE_VALUE"
      else .ok (texts.insertionSort (· ≤ ·))
  | _ => .error code

end Texts

/-! ### Identifiers -/

def isLowerOrDigit (c : Char) : Bool := 'a' ≤ c && c ≤ 'z' || '0' ≤ c && c ≤ '9'

/-- `_IDENTIFIER.fullmatch`. -/
def isIdentifier (s : String) : Bool :=
  match s.toList with
  | [] => false
  | c :: cs =>
    isLowerOrDigit c && cs.all (fun d => isLowerOrDigit d || "._:-".toList.contains d) &&
      cs.length ≤ 199

/-- A text `_identifier` returns. -/
structure Identifier where
  value : String
  valid : isIdentifier value = true
  deriving DecidableEq

section Identifiers

variable [Whitespace] [CharacterTables]

def identifier (code : String) (value : Json) : Except String Identifier := do
  let normalized := CharacterTables.lower (← text code 200 value)
  if h : isIdentifier normalized = true then .ok ⟨normalized, h⟩ else .error code

end Identifiers

/-- `s.upper()` on an identifier. -/
def Identifier.upper (i : Identifier) : String := String.ofList (i.value.toList.map Char.toUpper)

theorem isLowerOrDigit_toNat {c : Char} (h : isLowerOrDigit c = true) :
    48 ≤ c.toNat ∧ c.toNat ≤ 122 := by
  simp only [isLowerOrDigit, Bool.or_eq_true, Bool.and_eq_true, decide_eq_true_eq] at h
  rcases h with ⟨h₁, h₂⟩ | ⟨h₁, h₂⟩
  · exact ⟨le_trans (by decide) (show 'a'.toNat ≤ c.toNat from h₁), show c.toNat ≤ 'z'.toNat from h₂⟩
  · exact ⟨show '0'.toNat ≤ c.toNat from h₁, le_trans (show c.toNat ≤ '9'.toNat from h₂) (by decide)⟩

theorem isIdentifier_iff {s : String} :
    isIdentifier s = true ↔ ∃ c cs, s.toList = c :: cs ∧ isLowerOrDigit c = true ∧
      (∀ d ∈ cs, isLowerOrDigit d = true ∨ d ∈ "._:-".toList) ∧ cs.length ≤ 199 := by
  rw [isIdentifier]
  rcases hs : s.toList with _ | ⟨c, cs⟩
  · simp
  · simp only [Bool.and_eq_true, List.all_eq_true, Bool.or_eq_true, List.contains_iff_mem,
      decide_eq_true_eq, List.cons.injEq]
    constructor
    · rintro ⟨⟨hc, hcs⟩, hl⟩
      exact ⟨c, cs, ⟨rfl, rfl⟩, hc, hcs, hl⟩
    · rintro ⟨_, _, ⟨rfl, rfl⟩, hc, hcs, hl⟩
      exact ⟨⟨hc, hcs⟩, hl⟩

theorem Identifier.ascii (i : Identifier) : ∀ c ∈ i.value.toList, c.toNat < 128 := by
  obtain ⟨c, cs, hs, hc, hcs, -⟩ := isIdentifier_iff.mp i.valid
  intro d hd
  rw [hs] at hd
  rcases List.mem_cons.mp hd with rfl | hd
  · have := isLowerOrDigit_toNat hc
    omega
  · rcases hcs d hd with h | h
    · have := isLowerOrDigit_toNat h
      omega
    · have hall : ∀ x ∈ "._:-".toList, x.toNat < 128 := by decide
      exact hall d h

theorem Identifier.nfc_value [Unicodedata] (i : Identifier) : nfc i.value = i.value :=
  Unicodedata.nfc_ascii _ i.ascii

theorem toUpper_ascii {c : Char} (h : c.toNat < 128) : c.toUpper.toNat < 128 := by
  have hall : ∀ n : Fin 128, (Char.ofNat n).toUpper.toNat < 128 := by decide
  have hc := hall ⟨c.toNat, h⟩
  rwa [Char.ofNat_toNat] at hc

theorem Identifier.nfc_upper [Unicodedata] (i : Identifier) : nfc i.upper = i.upper := by
  refine Unicodedata.nfc_ascii _ fun c hc => ?_
  rw [Identifier.upper, String.toList_ofList] at hc
  obtain ⟨d, hd, rfl⟩ := List.mem_map.mp hc
  exact toUpper_ascii (i.ascii d hd)

/-! ### Timestamps -/

/-- `_timestamp(value, code)`; `none` is a value that is not a datetime. -/
def timestamp (code : String) : Option LocalDatetime → Except String Datetime
  | some ⟨micros, some 0⟩ => if h : micros < maxMicros then .ok ⟨micros, h⟩ else .error code
  | _ => .error code

/-! ### Business questions -/

/-- A `BusinessQuestion`; it is only built by `create_business_question`. -/
structure BusinessQuestion where
  requestId : Identifier
  tenantId : Identifier
  securityDomain : Identifier
  principal : Identifier
  locale : String
  scenarioId : Identifier
  question : String
  createdAt : Datetime
  provenance : Identifier
  deriving DecidableEq

/-! ### Canonical texts -/

section Canonical

variable [Unicodedata]

mutual

/-- `_canonical_value(value)` on values that have a canonical form. -/
def canonicalValue : Json → Json
  | .null => .null
  | .bool b => .bool b
  | .int n => .int n
  | .str s => .str (nfc s)
  | .arr items => .arr (canonicalItems items)
  | .obj fields => .obj ((canonicalFields fields).insertionSort fun a b => a.1 ≤ b.1)

def canonicalItems : List Json → List Json
  | [] => []
  | v :: vs => canonicalValue v :: canonicalItems vs

def canonicalFields : List (String × Json) → List (String × Json)
  | [] => []
  | (k, v) :: fs => (k, canonicalValue v) :: canonicalFields fs

end

def canonicalJson (v : Json) : String := Json.dumps false (canonicalValue v)

/-- `_digest(value)`. -/
def digest (v : Json) : String := sha256 (canonicalJson v)

end Canonical

/-- A tuple of texts. -/
def texts (items : List String) : Json := .arr (items.map .str)

/-! ### Candidates -/

/-- `set(raw) == allowed`. -/
def keysAre (allowed : List String) : Json → Bool
  | .obj fields => (fields.all fun p => p.1 ∈ allowed) && allowed.all fun k => k ∈ fields.map Prod.fst
  | _ => false

/-- `raw[key]`, for a key that is there. -/
def item (raw : Json) (key : String) : Json := (raw.get? key).getD .null

/-- `isinstance(value, Mapping)`. -/
def isMapping : Json → Bool
  | .obj _ => true
  | _ => false

/-- The identity of a `CandidateGenerator`. -/
structure Generator where
  generatorId : String
  generatorVersion : String
  deriving DecidableEq

structure IntentCandidate where
  candidateId : String
  sourceQuestionId : String
  generatorId : Identifier
  generatorVersion : Identifier
  objective : String
  constraints : List String
  successCriteria : List String
  assumptions : List String
  uncertainties : List String
  rawTasks : List Json
  lifecycle : PlanningState

def candidateFields : List String :=
  ["objective", "constraints", "success_criteria", "assumptions", "uncertainties", "tasks"]

section Parsing

variable [Whitespace] [CharacterTables]

/-- The checks on `raw["tasks"]`. -/
def rawTasks : Json → Except String (List Json)
  | .arr tasks =>
    if tasks = [] then .error "INVALID_TASKS"
    else if taskLimit < tasks.length ∨ ¬ tasks.all isMapping then .error "INPUT_LIMIT_EXCEEDED"
    else .ok tasks
  | _ => .error "INVALID_TASKS"

def parseIntentCandidate (question : BusinessQuestion) (raw : Json) (generator : Generator) :
    Except String IntentCandidate :=
  if ¬ isMapping raw then .error "MALFORMED_CANDIDATE"
  else if serializedCandidateLimit < raw.spaced.length then .error "INPUT_LIMIT_EXCEEDED"
  else if ¬ keysAre candidateFields raw then .error "UNKNOWN_OR_MISSING_FIELD"
  else do
    let tasks ← rawTasks (item raw "tasks")
    let semantic : Json := .obj [
      ("question", .str question.requestId.value),
      ("generator", texts [generator.generatorId, generator.generatorVersion]),
      ("candidate", raw)]
    let generatorId ← identifier "INVALID_GENERATOR" (.str generator.generatorId)
    let generatorVersion ← identifier "INVALID_GENERATOR_VERSION" (.str generator.generatorVersion)
    let objective ← text "INVALID_OBJECTIVE" itemTextLimit (item raw "objective")
    let constraints ← stringItems "INVALID_CONSTRAINTS" true (item raw "constraints")
    let successCriteria ←
      stringItems "INVALID_SUCCESS_CRITERIA" false (item raw "success_criteria")
    let assumptions ← stringItems "INVALID_ASSUMPTIONS" true (item raw "assumptions")
    let uncertainties ← stringItems "INVALID_UNCERTAINTIES" true (item raw "uncertainties")
    .ok ⟨"intent-candidate:" ++ digest semantic, question.requestId.value, generatorId,
      generatorVersion, objective, constraints, successCriteria, assumptions, uncertainties, tasks,
      .generated⟩

end Parsing

/-! ### Task requirements -/

structure TaskRequirement where
  taskRequirementId : String
  futureTaskId : String
  intentRevisionId : String
  taskType : String
  businessPurpose : String
  inputs : List String
  outputs : List String
  dependencies : List String
  constraints : List String
  acceptanceConditions : List String
  riskClassification : String
  approvalClassification : String
  unresolvedRequirements : List String
  canonicalOrdinal : Nat
  deriving DecidableEq

def supportedTaskTypes : List String := ["COLLECT", "ANALYZE", "VALIDATE", "SUMMARIZE", "REVIEW"]

def taskFields : List String :=
  ["id", "type", "purpose", "inputs", "outputs", "dependencies", "constraints",
    "acceptance_conditions", "risk", "approval", "unresolved", "ordinal"]

/-- The check on `raw["ordinal"]`. -/
def taskOrdinal : Json → Except String Nat
  | .int n => if n < 0 then .error "INVALID_TASK_ORDINAL" else .ok n.toNat
  | _ => .error "INVALID_TASK_ORDINAL"

section Tasks

variable [Whitespace] [CharacterTables] (intentRevisionId : String)

/-- One round of the loop of `_parse_tasks`: `seen` are the ids read so far and `count`
the dependencies. -/
def parseTask (seen : List String) (count : Nat) (raw : Json) :
    Except String (TaskRequirement × Nat) :=
  if ¬ keysAre taskFields raw then .error "UNKNOWN_OR_MISSING_TASK_FIELD"
  else do
    let taskId ← identifier "INVALID_TASK_ID" (item raw "id")
    if taskId.value ∈ seen then .error "DUPLICATE_TASK_ID"
    else do
      let taskType ← identifier "INVALID_TASK_TYPE" (item raw "type")
      if taskType.upper ∉ supportedTaskTypes then .error "UNSUPPORTED_TASK_TYPE"
      else do
        let listed ← stringItems "INVALID_DEPENDENCIES" true (item raw "dependencies")
        let dependencies ← listed.mapM fun d => identifier "INVALID_DEPENDENCY" (.str d)
        let count := count + dependencies.length
        if dependencyLimit < count then .error "DEPENDENCY_LIMIT_EXCEEDED"
        else if taskId ∈ dependencies then .error "SELF_DEPENDENCY"
        else do
          let ordinal ← taskOrdinal (item raw "ordinal")
          let purpose ← text "INVALID_TASK_PURPOSE" itemTextLimit (item raw "purpose")
          let inputs ← stringItems "INVALID_TASK_INPUTS" true (item raw "inputs")
          let outputs ← stringItems "INVALID_TASK_OUTPUTS" false (item raw "outputs")
          let constraints ← stringItems "INVALID_TASK_CONSTRAINTS" true (item raw "constraints")
          let acceptance ←
            stringItems "INVALID_ACCEPTANCE_CONDITIONS" false (item raw "acceptance_conditions")
          let risk ← identifier "INVALID_RISK" (item raw "risk")
          let approval ← identifier "INVALID_APPROVAL_CLASSIFICATION" (item raw "approval")
          let unresolved ←
            stringItems "INVALID_UNRESOLVED_REQUIREMENTS" true (item raw "unresolved")
          .ok (⟨"task-requirement:" ++ intentRevisionId ++ ":" ++ taskId.value, taskId.value,
            intentRevisionId, taskType.upper, purpose, inputs, outputs,
            (dependencies.map Identifier.value).insertionSort (· ≤ ·), constraints, acceptance,
            risk.upper, approval.upper, unresolved, ordinal⟩, count)

/-- The loop of `_parse_tasks` over the raw tasks. -/
def parseRawTasks (seen : List String) (count : Nat) :
    List Json → Except String (List TaskRequirement)
  | [] => .ok []
  | raw :: raws => do
    let (task, count) ← parseTask intentRevisionId seen count raw
    let tasks ← parseRawTasks (task.futureTaskId :: seen) count raws
    .ok (task :: tasks)

/-- The checks on a task once all ids are known. -/
def checkTask (seen : List String) (task : TaskRequirement) : Except String Unit :=
  if task.dependencies.any (· ∉ seen) then .error "MISSING_DEPENDENCY"
  else if task.unresolvedRequirements ≠ [] then .error "UNKNOWN_REQUIREMENT"
  else .ok ()

/-- `_parse_tasks(candidate, intent_revision_id)`. -/
def parseTasks (raws : List Json) : Except String (List TaskRequirement) := do
  let parsed ← parseRawTasks intentRevisionId [] 0 raws
  parsed.forM (checkTask (parsed.map TaskRequirement.futureTaskId))
  .ok parsed

end Tasks

end Planning
end AgentPlatform
