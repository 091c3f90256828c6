/-
AgentPlatform/Definition/Sample.lean

Well-formed records of the definition authority, for runs on concrete inputs.
They are accepted whatever the normalisation, since all their texts are ASCII.
-/
import AgentPlatform.Definition.Ledger

namespace AgentPlatform
namespace Definition

open Py

section Plain

variable [Whitespace]

/-- A text that `_text` keeps: ASCII words with one space between them. -/
def isPlain (s : String) : Bool :=
  s.toList.all (·.toNat < 128) && collapse s = s && s ≠ "" && s.length ≤ semanticTextLimit

theorem text_of_isPlain {s : String} (code : String) (h : isPlain s = true) : text code s = .ok s := by
  simp only [isPlain, Bool.and_eq_true, List.all_eq_true, decide_eq_true_eq] at h
  rw [text, Unicodedata.nfc_ascii s h.1.1.1, h.1.1.2]
  show (if s = "" then _ else if semanticTextLimit < s.length then _ else Except.ok s) = _
  rw [if_neg h.1.2, if_neg (Nat.not_lt.mpr h.2)]

theorem setItems_singleton {s : String} (code : String) (h : isPlain s = true) :
    setItems code [s] = .ok [s] := by
  rw [setItems, List.mapM_cons, text_of_isPlain code h]
  show (if ¬ [s].Nodup then Except.error "AMBIGUOUS_SET_LIKE_CONTENT" else
    Except.ok ([s].insertionSort (· ≤ ·))) = _
  exact if_neg (not_not.mpr (List.nodup_singleton s))

end Plain

namespace Sample

/-- Noon of some day, as a clock. -/
def noon : Nat := 63900000000000000

def instant (micros : Nat) : LocalDatetime := ⟨micros, some 0⟩

def role (duty : String) : RoleDescriptor := ⟨"analyst", [duty], [], [], [], [], []⟩

/-- A version before it has its digest. -/
def draft (id tenant duty : String) : DefinitionVersion :=
  ⟨id, "v1", "", role duty, "authoring.1", "console", "source.1", "APPROVED", tenant, "quality",
    "console", instant noon, definitionSchemaVersion, digestAlgorithm, digestContractVersion⟩

section Records

variable [Whitespace]

def version (id tenant duty : String) : DefinitionVersion :=
  { draft id tenant duty with
    definitionDigest := canonicalDigest digestContractVersion
      ((draft id tenant duty).semanticPayload ⟨noon, by decide⟩) }

/-- A decision about a version, effective some microseconds after noon. -/
def decision (id : String) (v : DefinitionVersion) (after : Nat) : Decision :=
  ⟨id, id, v.definitionId, v.versionId, v.definitionDigest, "source.1", v.tenantId, "quality", "reason",
    "policy", instant noon, instant (noon + after), none, "console"⟩

def publication (id : String) (v : DefinitionVersion) (after : Nat) (action : PublicationAction) :
    PublicationDecision :=
  ⟨decision id v after, action, "owner", none, none, none, .none⟩

/-- The publication of `v` that replaces `w`. -/
def replacement (id : String) (v w : DefinitionVersion) (after : Nat) : PublicationDecision :=
  ⟨decision id v after, .publish, "owner", some w.definitionId, some w.versionId,
    some w.definitionDigest, .excludePredecessorForMatch⟩

def grant (id : String) (v : DefinitionVersion) (after : Nat) : MatchAuthorizationDecision :=
  ⟨decision id v after, "match", .grant, "owner"⟩

theorem version_validate {id tenant duty : String} (hid : isIdentifier id = true)
    (htenant : isIdentifier tenant = true) (hduty : isPlain duty = true) :
    (version id tenant duty).validate = .ok () := by
  have hrole : (role duty).check = .ok () := by
    rw [RoleDescriptor.check, RoleDescriptor.create]
    show (do
      let created ← (do
        let title ← text "INVALID_ROLE_TITLE" "analyst"
        let duties ← setItems "INVALID_ROLE_DUTY" [duty]
        Except.ok (⟨title, duties, [], [], [], [], []⟩ : RoleDescriptor))
      if role duty ≠ created then Except.error _ else Except.ok ()) = _
    rw [text_of_isPlain _ (by decide +kernel), setItems_singleton _ hduty]
    exact if_neg (not_not.mpr rfl)
  have hcheck : ∀ {code : String} (s : String), isIdentifier s = true → checkIdentifier code s = .ok () :=
    fun _ h => checkIdentifier_eq_ok.mpr h
  rw [DefinitionVersion.validate, if_neg (by simp [version, draft])]
  simp only [bind_eq_ok]
  refine ⟨(), hcheck id hid, (), hcheck "v1" (by decide), (), hrole, (),
    hcheck "authoring.1" (by decide), (), hcheck "console" (by decide), (),
    hcheck "source.1" (by decide), (), hcheck "APPROVED" (by decide), (), hcheck tenant htenant, (),
    hcheck "quality" (by decide), (), hcheck "console" (by decide), ⟨noon, by decide⟩, rfl, ?_⟩
  exact (if_neg (not_not.mpr rfl)).trans (if_neg (not_not.mpr rfl))

theorem decision_validateCommon {id vid tenant duty : String} {after : Nat} (hid : isIdentifier id = true)
    (hvid : isIdentifier vid = true) (htenant : isIdentifier tenant = true)
    (hafter : noon + after < maxMicros) :
    (decision id (version vid tenant duty) after).validateCommon = .ok () := by
  have hcheck : ∀ {code : String} (s : String), isIdentifier s = true → checkIdentifier code s = .ok () :=
    fun _ h => checkIdentifier_eq_ok.mpr h
  have htime : ∀ {code : String} {micros : Nat} (h : micros < maxMicros),
      utc code (instant micros) = .ok ⟨micros, h⟩ := fun h => dif_pos ⟨h, rfl⟩
  rw [Decision.validateCommon]
  simp only [bind_eq_ok]
  refine ⟨(), hcheck id hid, (), hcheck id hid, (), hcheck vid hvid, (), hcheck "v1" (by decide), (),
    hcheck "source.1" (by decide), (), hcheck tenant htenant, (), hcheck "quality" (by decide), (),
    hcheck "reason" (by decide), (), hcheck "policy" (by decide), (), hcheck "console" (by decide), (),
    if_pos (hexdigest_isHex64 _), ?_⟩
  rw [validateDecisionTime, bind_eq_ok]
  refine ⟨_, htime (by decide), ?_⟩
  rw [bind_eq_ok]
  exact ⟨_, htime hafter, rfl⟩

variable {id vid wid tenant duty duty' : String} {after : Nat} (hid : isIdentifier id = true)
  (hvid : isIdentifier vid = true) (hwid : isIdentifier wid = true)
  (htenant : isIdentifier tenant = true) (hafter : noon + after < maxMicros)
include hid hvid htenant hafter

theorem publication_validate (action : PublicationAction) :
    (publication id (version vid tenant duty) after action).validate = .ok () := by
  rw [PublicationDecision.validate]
  simp only [bind_eq_ok]
  exact ⟨(), decision_validateCommon hid hvid htenant hafter, (),
    checkIdentifier_eq_ok.mpr (by decide : isIdentifier "owner" = true), rfl⟩

include hwid in
theorem replacement_validate :
    (replacement id (version vid tenant duty) (version wid tenant duty') after).validate = .ok () := by
  rw [PublicationDecision.validate]
  simp only [bind_eq_ok]
  refine ⟨(), decision_validateCommon hid hvid htenant hafter, (),
    checkIdentifier_eq_ok.mpr (by decide : isIdentifier "owner" = true), ?_⟩
  show (do
    let _ ← identifier "INVALID_PREDECESSOR_EXCLUSION" wid
    let _ ← identifier "INVALID_PREDECESSOR_EXCLUSION" "v1"
    checkDigest "INVALID_PREDECESSOR_EXCLUSION" (version wid tenant duty').definitionDigest) = _
  rw [identifier_of_isIdentifier _ hwid, identifier_of_isIdentifier _ (by decide)]
  exact if_pos (hexdigest_isHex64 _)

theorem grant_validate : (grant id (version vid tenant duty) after).validate = .ok () := by
  rw [MatchAuthorizationDecision.validate]
  simp only [bind_eq_ok]
  exact ⟨(), decision_validateCommon hid hvid htenant hafter, (),
    checkIdentifier_eq_ok.mpr (by decide : isIdentifier "match" = true),
    checkIdentifier_eq_ok.mpr (by decide : isIdentifier "owner" = true)⟩

omit hid hvid htenant hafter in
theorem decision_binds (id vid tenant duty : String) (after : Nat) :
    Binds (decision id (version vid tenant duty) after) (version vid tenant duty) :=
  ⟨rfl, rfl, rfl, rfl, rfl⟩

end Records

end Sample

end Definition
end AgentPlatform
