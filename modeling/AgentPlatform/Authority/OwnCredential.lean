/-
AgentPlatform/Authority/OwnCredential.lean

The two readers of authorization, `authorize_current` and `has_current_grants`, and
whose credential they honour.

What the first allows the second allows. Neither looks at the principal of the
credential that a context stands for, as `_credential_is_current` does for sessions: a
generation may bind the identifier of a credential to another principal, and the grants of
that principal are then honoured. **`readers_agree_iff`** says that nothing else goes
wrong.
-/
import AgentPlatform.Authority.Reader

namespace AgentPlatform

open Py

namespace Authority

/-! ### The credential of a context -/

def TrustedRequestContext.expectedSource (context : TrustedRequestContext) : GrantSource :=
  match context.authenticationSource with
  | .browserSession => .browserBootstrap
  | .serviceCredential => .serviceOnly

/-- The credential is of the scope and the source of the context, not revoked and not
expired. -/
structure StaticAuthorityGeneration.Current (generation : StaticAuthorityGeneration)
    (context : TrustedRequestContext) (now : Datetime) (credential : CredentialConfiguration) : Prop where
  scope : credential.scope = context.scope
  source : credential.authenticationSource = context.expectedSource
  untombstoned : credential.credentialId ∉ generation.credentialRevocationTombstones
  unexpired : now < credential.expiresAt

namespace AuthorizationReader

variable (reader : AuthorizationReader) (s : Database) (context : TrustedRequestContext)
  (grant : ExactGrant) (now clock : Datetime)

/-- The credential that the context stands for: that of its session, or the service
credential it names, as the generation has it. -/
def named : Option CredentialConfiguration :=
  (s.currentCredentialId context now reader.recoveryEpoch).bind reader.generation.credentialById

def stateOf : DynamicAuthorizationState :=
  s.readDynamicAuthorizationState context grant now clock reader.generation.generation
    reader.recoveryEpoch

/-- The credential is the principal's own and covers the grant. -/
structure Honours (credential : CredentialConfiguration) : Prop where
  unexpired : now < credential.expiresAt
  untombstoned : credential.credentialId ∉ reader.generation.credentialRevocationTombstones
  principal : credential.principalId = context.principalId
  scope : credential.scope = context.scope
  covers : (∃ item ∈ credential.grants, item.grant = grant ∧
      (item.source = context.expectedSource ∨ item.source = .staticMeta)) ∨
    ∃ g, g ∈ s.effectiveGrants context grant now clock reader.recoveryEpoch

/-- The context stands for a current credential of another principal, which answers for
the grant. -/
def Misbound : Prop :=
  ∃ credential, reader.named s context now = some credential ∧
    credential.principalId ≠ context.principalId ∧
    reader.generation.Current context now credential ∧
    reader.holds credential context.expectedSource grant (reader.stateOf s context grant now clock) = true

end AuthorizationReader

section Readers

variable {reader : AuthorizationReader} {s : Database} {context : TrustedRequestContext}
  {grant : ExactGrant} {now clock : Datetime} {credential : CredentialConfiguration}

theorem currentCredential_eq {generation : StaticAuthorityGeneration} {id : Option String} :
    generation.currentCredential context id now =
      match id.bind generation.credentialById with
      | none => (none, context.expectedSource)
      | some credential =>
        if credential.scope ≠ context.scope ∨ credential.authenticationSource ≠ context.expectedSource
            ∨ credential.credentialId ∈ generation.credentialRevocationTombstones
            ∨ credential.expiresAt ≤ now then (none, context.expectedSource)
        else (some credential, context.expectedSource) := rfl

theorem currentCredential_eq_some {generation : StaticAuthorityGeneration} {id : Option String} :
    (generation.currentCredential context id now).1 = some credential ↔
      id.bind generation.credentialById = some credential ∧ generation.Current context now credential := by
  rw [currentCredential_eq]
  cases hid : id.bind generation.credentialById with
  | none => simp
  | some c =>
    simp only [Option.some.injEq]
    split
    · next hbad =>
      simp only [reduceCtorEq, false_iff, not_and]
      rintro rfl hcurrent
      rcases hbad with h | h | h | h
      · exact h hcurrent.scope
      · exact h hcurrent.source
      · exact hcurrent.untombstoned h
      · exact Nat.not_lt_of_le h hcurrent.unexpired
    · next hgood =>
      simp only [not_or, not_not] at hgood
      obtain ⟨hscope, hsource, htombstone, hexpires⟩ := hgood
      simp only [Option.some.injEq]
      constructor
      · rintro rfl
        exact ⟨rfl, hscope, hsource, htombstone, Nat.lt_of_not_le hexpires⟩
      · exact fun h => h.1

theorem currentCredential_snd {generation : StaticAuthorityGeneration} {id : Option String} :
    (generation.currentCredential context id now).2 = context.expectedSource := by
  rw [currentCredential_eq]
  split
  · rfl
  · split <;> rfl

/-- **When a grant is current.** -/
theorem hasCurrentGrants_eq_true {generation recoveryEpoch : Int} :
    reader.hasCurrentGrants s context [grant] now clock generation recoveryEpoch = [true] ↔
      (generation = reader.generation.generation ∧ recoveryEpoch = reader.recoveryEpoch) ∧
        ∃ credential, reader.named s context now = some credential ∧
          reader.generation.Current context now credential ∧
          reader.holds credential context.expectedSource grant
            (reader.stateOf s context grant now clock) = true := by
  unfold AuthorizationReader.hasCurrentGrants
  split
  · next hother =>
    refine iff_of_false (by simp) ?_
    rintro ⟨⟨hgen, hepoch⟩, -⟩
    exact hother.elim (fun h => h hgen) fun h => h hepoch
  · next hsame =>
    simp only [not_or, not_not] at hsame
    obtain ⟨rfl, rfl⟩ := hsame
    rw [and_iff_right ⟨rfl, rfl⟩]
    have hsome : ∀ {credential}, (reader.generation.currentCredential context
        (s.currentCredentialId context now reader.recoveryEpoch) now).1 = some credential ↔
        reader.named s context now = some credential ∧
          reader.generation.Current context now credential := currentCredential_eq_some
    have hsource : (reader.generation.currentCredential context
        (s.currentCredentialId context now reader.recoveryEpoch) now).2 = context.expectedSource :=
      currentCredential_snd
    simp only [← and_assoc, ← hsome]
    generalize reader.generation.currentCredential context
      (s.currentCredentialId context now reader.recoveryEpoch) now = found at hsource ⊢
    obtain ⟨_ | credential, source⟩ := found
    · simp
    · cases hsource
      simp only [List.map_cons, List.map_nil, List.cons.injEq, and_true, Option.some.injEq,
        exists_eq_left']
      rfl

theorem authorizeCurrent_isSome {row : GrantRow}
    (h : reader.authorizeCurrent s context grant now clock = some row) :
    reader.stateOf s context grant now clock = .allowed ∧
      ∃ credential, reader.named s context now = some credential ∧
        reader.generation.Current context now credential ∧
        (credential.credentialId, grant) ∉ reader.generation.staticGrantRevocationTombstones := by
  unfold AuthorizationReader.authorizeCurrent at h
  dsimp only at h
  split at h
  · cases h
  · next hstate =>
    refine ⟨not_not.mp hstate, ?_⟩
    obtain ⟨row', -, h⟩ := Option.bind_eq_some_iff.mp h
    obtain ⟨credential, hcredential, h⟩ := Option.bind_eq_some_iff.mp h
    obtain ⟨hnamed, hcurrent⟩ := currentCredential_eq_some.mp hcredential
    refine ⟨credential, hnamed, hcurrent, fun htombstone => ?_⟩
    rw [if_pos htombstone] at h
    cases h

/-- **What the first reader allows the second does.** -/
theorem hasCurrentGrants_of_authorizeCurrent
    (h : (reader.authorizeCurrent s context grant now clock).isSome = true) :
    reader.hasCurrentGrants s context [grant] now clock reader.generation.generation
      reader.recoveryEpoch = [true] := by
  obtain ⟨row, hrow⟩ := Option.isSome_iff_exists.mp h
  obtain ⟨hstate, credential, hnamed, hcurrent, htombstone⟩ := authorizeCurrent_isSome hrow
  refine hasCurrentGrants_eq_true.mpr ⟨⟨rfl, rfl⟩, credential, hnamed, hcurrent, ?_⟩
  rw [hstate]
  simp [AuthorizationReader.holds, htombstone]

theorem covers_of_holds
    (h : reader.holds credential context.expectedSource grant
      (reader.stateOf s context grant now clock) = true) :
    (∃ item ∈ credential.grants, item.grant = grant ∧
      (item.source = context.expectedSource ∨ item.source = .staticMeta)) ∨
    ∃ g, g ∈ s.effectiveGrants context grant now clock reader.recoveryEpoch := by
  simp only [AuthorizationReader.holds, Bool.and_eq_true, Bool.or_eq_true, List.any_eq_true,
    decide_eq_true_eq] at h
  rcases h.2 with ⟨item, hitem, hgrant, hsource⟩ | hallowed
  · exact .inl ⟨item, hitem, hgrant, hsource⟩
  · obtain ⟨-, g, hg, -⟩ := readDynamicAuthorizationState_eq_allowed.mp hallowed
    exact .inr ⟨g, hg⟩

/-- **The readers agree and honour the caller's own credential**, unless the context stands
for a current credential of another principal. -/
theorem readers_agree_iff :
    (((reader.authorizeCurrent s context grant now clock).isSome = true →
        reader.hasCurrentGrants s context [grant] now clock reader.generation.generation
          reader.recoveryEpoch = [true]) ∧
      ∀ generation recoveryEpoch,
        reader.hasCurrentGrants s context [grant] now clock generation recoveryEpoch = [true] →
        ∃ credential ∈ reader.generation.credentials, reader.named s context now = some credential ∧
          reader.Honours s context grant now clock credential) ↔
      ¬ reader.Misbound s context grant now clock := by
  constructor
  · rintro ⟨-, hown⟩ ⟨credential, hnamed, hother, hcurrent, hholds⟩
    obtain ⟨c, -, hc, hhonours⟩ := hown _ _
      (hasCurrentGrants_eq_true.mpr ⟨⟨rfl, rfl⟩, credential, hnamed, hcurrent, hholds⟩)
    rw [hnamed] at hc
    cases hc
    exact hother hhonours.principal
  · intro hbound
    refine ⟨hasCurrentGrants_of_authorizeCurrent, fun generation recoveryEpoch h => ?_⟩
    obtain ⟨-, credential, hnamed, hcurrent, hholds⟩ := hasCurrentGrants_eq_true.mp h
    have hmem : credential ∈ reader.generation.credentials := by
      obtain ⟨id, -, hid⟩ := Option.bind_eq_some_iff.mp hnamed
      exact List.mem_of_find?_eq_some hid
    have hprincipal : credential.principalId = context.principalId := by
      by_contra hother
      exact hbound ⟨credential, hnamed, hother, hcurrent, hholds⟩
    exact ⟨credential, hmem, hnamed, hcurrent.unexpired, hcurrent.untombstoned, hprincipal,
      hcurrent.scope, covers_of_holds hholds⟩

end Readers

/-! ### A credential bound anew -/

namespace OwnCredentialSample

def scope : AuthorityScope := ⟨"tenant", "domain"⟩

def listing : ExactGrant := ⟨"AGENT", "LIST", "agent:collection", by decide +kernel⟩

/-- `principal-1` was authenticated with `credential-1`. -/
def context : TrustedRequestContext where
  principalId := "principal-1"
  scope := scope
  sessionIdOrServiceCredentialId := "credential-1"
  authenticationSource := .serviceCredential

/-- The generation has `credential-1` for `principal-2`. -/
def rebound : CredentialConfiguration where
  credentialId := "credential-1"
  credentialSha256 := "d"
  principalId := "principal-2"
  scope := scope
  expiresAt := ⟨1, one_lt_maxMicros⟩
  authenticationSource := .serviceOnly
  grants := [⟨listing, .serviceOnly⟩]

def reader : AuthorizationReader where
  generation := ⟨1, "d", "policy-1", "audit", [rebound], [], [], []⟩
  recoveryEpoch := 1

/-- A database without grants and sessions. -/
def database : Database where
  delegation := ⟨some ⟨1, "d", 1⟩, [], [], [], [], [], [], [], [], [], [], [], [], [], [], [], [], [], [],
    []⟩
  continuityInstalled := false
  nonces := []
  sessions := []
  sessionRevocations := []
  requests := []
  decisions := []
  grants := []
  effective := []
  grantRevocations := []
  offers := []
  consumptions := []
  claims := []
  records := []

def now : Datetime := ⟨0, zero_lt_maxMicros⟩

/-- **The grant of another principal is honoured.** -/
theorem other_principal_honoured :
    ¬ ∀ (reader : AuthorizationReader) (s : Database) (context : TrustedRequestContext)
        (grant : ExactGrant) (now clock : Datetime),
      ((reader.authorizeCurrent s context grant now clock).isSome = true →
        reader.hasCurrentGrants s context [grant] now clock reader.generation.generation
          reader.recoveryEpoch = [true]) ∧
      (reader.hasCurrentGrants s context [grant] now clock reader.generation.generation
          reader.recoveryEpoch = [true] →
        ∃ credential ∈ reader.generation.credentials, reader.Honours s context grant now clock credential) := by
  intro hall
  obtain ⟨credential, hmem, hhonours⟩ :=
    (hall reader database context listing now now).2 (by decide +kernel)
  rw [List.mem_singleton.mp hmem] at hhonours
  exact absurd hhonours.principal (by decide)

end OwnCredentialSample

end Authority

end AgentPlatform
