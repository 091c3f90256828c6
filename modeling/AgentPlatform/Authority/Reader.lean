/-
AgentPlatform/Authority/Reader.lean

Who may do what now: the credential behind a request context, the state of an
exact grant in the database, and the two answers built on them,
`has_current_grants` and `authorize_current`.

The readers run in one repeatable-read transaction, so that each is a function
of one state of the rows. `clock` is the database's clock, which the condition
on delegated grants reads; `now` is the application's.
-/
import AgentPlatform.Authority.Tables

namespace AgentPlatform

open Py

namespace Authority

/-! ### Latest times and rows -/

/-- `max(...)` of a column of times. -/
def latestTime : List Datetime → Option Datetime
  | [] => none
  | t :: ts =>
    match latestTime ts with
    | none => some t
    | some u => if u ≤ t then some t else some u

/-- `ORDER BY ... LIMIT 1`: the row that no other comes before. -/
def firstRow {α : Type} (before : α → α → Bool) : List α → Option α
  | [] => none
  | r :: rows =>
    match firstRow before rows with
    | none => some r
    | some r' => if before r' r then some r' else some r

theorem latestTime_eq_none {l : List Datetime} : latestTime l = none ↔ l = [] := by
  cases l with
  | nil => simp [latestTime]
  | cons t ts =>
    simp only [latestTime, reduceCtorEq, iff_false]
    split
    · simp
    · split <;> simp

theorem mem_of_latestTime {l : List Datetime} {t : Datetime} (h : latestTime l = some t) :
    t ∈ l := by
  induction l generalizing t with
  | nil => cases h
  | cons u us ih =>
    simp only [latestTime] at h
    split at h
    · cases h
      exact List.mem_cons_self
    · next v hv =>
      split at h
      · cases h
        exact List.mem_cons_self
      · cases h
        exact List.mem_cons_of_mem _ (ih hv)

theorem le_latestTime {l : List Datetime} {t u : Datetime} (h : latestTime l = some t)
    (hu : u ∈ l) : u ≤ t := by
  induction l generalizing t with
  | nil => cases hu
  | cons v vs ih =>
    simp only [latestTime] at h
    cases hv : latestTime vs with
    | none =>
      rw [hv] at h
      cases h
      rw [latestTime_eq_none.mp hv, List.mem_singleton] at hu
      rw [hu]
    | some w =>
      rw [hv] at h
      simp only at h
      split at h
      · next hwv =>
        cases h
        rcases List.mem_cons.mp hu with rfl | hu
        · exact le_refl _
        · exact le_trans (ih hv hu) hwv
      · next hwv =>
        cases h
        rcases List.mem_cons.mp hu with rfl | hu
        · exact Nat.le_of_lt (Nat.lt_of_not_le hwv)
        · exact ih hv hu

/-! ### The session behind a context -/

/-- The columns that make a session the current one of a context. -/
def SessionRow.current (r : SessionRow) (context : TrustedRequestContext) (now : Datetime)
    (recoveryEpoch : Int) : Bool :=
  r.principalId = context.principalId && r.scope = context.scope && r.rotatedTo.isNone
    && now < r.idleExpiresAt && now < r.absoluteExpiresAt && now < r.credentialExpiresAt
    && r.recoveryEpoch = recoveryEpoch

def Database.currentCredentialId (s : Database) (context : TrustedRequestContext) (now : Datetime)
    (recoveryEpoch : Int) : Option String :=
  match context.authenticationSource with
  | .serviceCredential => some context.sessionIdOrServiceCredentialId
  | .browserSession => do
    let r ← s.session context.sessionIdOrServiceCredentialId
    if r.current context now recoveryEpoch && !s.revoked r.sessionId then some r.credentialId
    else none

/-! ### The state of a grant -/

inductive DynamicAuthorizationState
  | none
  | allowed
  | revoked
  | unavailable
  deriving DecidableEq, Repr

/-- The grant is of the context's principal and scope, for this target. -/
def GrantRow.isOf (g : GrantRow) (context : TrustedRequestContext) (grant : ExactGrant) : Bool :=
  g.subjectPrincipalId = context.principalId && g.scope = context.scope && g.target = grant

/-- The grant is in its window and of the recovery epoch. -/
def GrantRow.inForce (g : GrantRow) (now : Datetime) (recoveryEpoch : Int) : Bool :=
  g.notBefore ≤ now && now < g.expiresAt && g.recoveryEpoch = recoveryEpoch

namespace Database

variable (s : Database)

/-- `grant_condition(connection, credential_id)` of a grant. -/
def grantCondition (credential : Option String) (clock : Datetime) (g : GrantRow) : Bool :=
  s.delegation.grantCondition credential clock ⟨g.decisionId, g.createdAt, g.recoveryEpoch⟩

/-- The times of the revocations of a target. -/
def revocationTimes (context : TrustedRequestContext) (grant : ExactGrant) : List Datetime :=
  s.grants.flatMap fun g =>
    if g.isOf context grant then
      (s.grantRevocations.filter fun r => r.grantId = g.grantId).map (·.revokedAt)
    else []

/-- The grants of a target that are effective, in force and not held up by a
delegation. -/
def effectiveGrants (context : TrustedRequestContext) (grant : ExactGrant) (now clock : Datetime)
    (recoveryEpoch : Int) : List GrantRow :=
  s.grants.filter fun g => s.effective.any (fun e => e.grantId = g.grantId)
    && g.isOf context grant && g.inForce now recoveryEpoch
    && s.grantCondition (s.currentCredentialId context now recoveryEpoch) clock g

def readDynamicAuthorizationState (context : TrustedRequestContext) (grant : ExactGrant)
    (now clock : Datetime) (generation recoveryEpoch : Int) : DynamicAuthorizationState :=
  match s.active with
  | none => .unavailable
  | some a =>
    if a.generation ≠ generation ∨ a.recoveryEpoch ≠ recoveryEpoch then .unavailable
    else
      match latestTime (s.revocationTimes context grant),
        latestTime ((s.effectiveGrants context grant now clock recoveryEpoch).map (·.createdAt)) with
      | some _, none => .revoked
      | some revokedAt, some grantedAt => if grantedAt ≤ revokedAt then .revoked else .allowed
      | none, some _ => .allowed
      | none, none => .none

end Database

/-! ### Answers -/

def StaticAuthorityGeneration.currentCredential (generation : StaticAuthorityGeneration)
    (context : TrustedRequestContext) (credentialId : Option String) (now : Datetime) :
    Option CredentialConfiguration × GrantSource :=
  let expectedSource : GrantSource :=
    match context.authenticationSource with
    | .browserSession => .browserBootstrap
    | .serviceCredential => .serviceOnly
  match credentialId.bind generation.credentialById with
  | none => (none, expectedSource)
  | some credential =>
    if credential.scope ≠ context.scope ∨ credential.authenticationSource ≠ expectedSource
        ∨ credential.credentialId ∈ generation.credentialRevocationTombstones
        ∨ credential.expiresAt ≤ now then (none, expectedSource)
    else (some credential, expectedSource)

/-- A `GenerationAuthorizationReader`: the pinned generation and the recovery
epoch it was built for. -/
structure AuthorizationReader where
  generation : StaticAuthorityGeneration
  recoveryEpoch : Int

/-- The answer of `has_current_grants` for one grant and its dynamic state. -/
def AuthorizationReader.holds (reader : AuthorizationReader) (credential : CredentialConfiguration)
    (expectedSource : GrantSource) (grant : ExactGrant) (state : DynamicAuthorizationState) : Bool :=
  state ≠ .revoked && state ≠ .unavailable
    && decide ((credential.credentialId, grant) ∉ reader.generation.staticGrantRevocationTombstones)
    && ((credential.grants.any fun item => item.grant = grant
        && (item.source = expectedSource || item.source = .staticMeta))
      || state = .allowed)

def AuthorizationReader.hasCurrentGrants (reader : AuthorizationReader) (s : Database)
    (context : TrustedRequestContext) (grants : List ExactGrant) (now clock : Datetime)
    (generation recoveryEpoch : Int) : List Bool :=
  if generation ≠ reader.generation.generation ∨ recoveryEpoch ≠ reader.recoveryEpoch then
    grants.map fun _ => false
  else
    match reader.generation.currentCredential context
      (s.currentCredentialId context now recoveryEpoch) now with
    | (none, _) => grants.map fun _ => false
    | (some credential, expectedSource) => grants.map fun grant =>
      reader.holds credential expectedSource grant
        (s.readDynamicAuthorizationState context grant now clock generation recoveryEpoch)

/-- `ORDER BY g.created_at DESC,g.grant_id DESC`. -/
def GrantRow.newer (a b : GrantRow) : Bool :=
  b.createdAt < a.createdAt || (a.createdAt = b.createdAt && b.grantId < a.grantId)

/-- `authorize_current`: the grant whose decision is returned. -/
def AuthorizationReader.authorizeCurrent (reader : AuthorizationReader) (s : Database)
    (context : TrustedRequestContext) (grant : ExactGrant) (now clock : Datetime) :
    Option GrantRow := do
  let generation := reader.generation.generation
  if s.readDynamicAuthorizationState context grant now clock generation reader.recoveryEpoch
      ≠ .allowed then none
  let row ← firstRow GrantRow.newer
    (s.effectiveGrants context grant now clock reader.recoveryEpoch)
  let credential ← (reader.generation.currentCredential context
    (s.currentCredentialId context now reader.recoveryEpoch) now).1
  if (credential.credentialId, grant) ∈ reader.generation.staticGrantRevocationTombstones then none
  return row

/-! ### What an answer rests on -/

section Answers

variable {s : Database} {context : TrustedRequestContext} {grant : ExactGrant} {now clock : Datetime}
  {generation recoveryEpoch : Int} {reader : AuthorizationReader} {g : GrantRow}

/-- A target is allowed by a grant that is effective and in force, under the
active generation, and that is newer than every revocation of the target. -/
theorem readDynamicAuthorizationState_eq_allowed :
    s.readDynamicAuthorizationState context grant now clock generation recoveryEpoch = .allowed ↔
      (∃ a, s.active = some a ∧ a.generation = generation ∧ a.recoveryEpoch = recoveryEpoch)
        ∧ ∃ g ∈ s.effectiveGrants context grant now clock recoveryEpoch,
          ∀ t ∈ s.revocationTimes context grant, t < g.createdAt := by
  unfold Database.readDynamicAuthorizationState
  cases ha : s.active with
  | none => simp
  | some a =>
    simp only [Option.some.injEq, exists_eq_left']
    by_cases hmatch : a.generation ≠ generation ∨ a.recoveryEpoch ≠ recoveryEpoch
    · rw [if_pos hmatch]
      simp only [reduceCtorEq, false_iff, not_and]
      intro h
      exact absurd h (by tauto)
    · rw [if_neg hmatch]
      have hgen : a.generation = generation ∧ a.recoveryEpoch = recoveryEpoch := by tauto
      simp only [hgen, and_self, true_and]
      generalize s.revocationTimes context grant = revoked
      generalize s.effectiveGrants context grant now clock recoveryEpoch = granted
      cases hr : latestTime revoked with
      | none =>
        rw [latestTime_eq_none] at hr
        subst hr
        cases hg : latestTime (granted.map (·.createdAt)) with
        | none =>
          rw [latestTime_eq_none, List.map_eq_nil_iff] at hg
          simp [hg]
        | some t =>
          obtain ⟨g, hg, -⟩ := List.mem_map.mp (mem_of_latestTime hg)
          simp only [List.not_mem_nil, false_implies, implies_true, and_true, true_iff]
          exact ⟨g, hg⟩
      | some u =>
        have hu := mem_of_latestTime hr
        cases hg : latestTime (granted.map (·.createdAt)) with
        | none =>
          rw [latestTime_eq_none, List.map_eq_nil_iff] at hg
          simp [hg]
        | some t =>
          obtain ⟨g, hgm, hgt⟩ := List.mem_map.mp (mem_of_latestTime hg)
          simp only
          split
          · next hle =>
            simp only [reduceCtorEq, false_iff, not_exists, not_and]
            intro g' hg' hall
            have h₁ : g'.createdAt ≤ t := le_latestTime hg (List.mem_map.mpr ⟨g', hg', rfl⟩)
            exact lt_irrefl _ (lt_of_lt_of_le (hall u hu) (le_trans h₁ hle))
          · next hlt =>
            simp only [true_iff]
            refine ⟨g, hgm, fun v hv => ?_⟩
            rw [hgt]
            exact lt_of_le_of_lt (le_latestTime hr hv) (Nat.lt_of_not_le hlt)

end Answers

end Authority

end AgentPlatform
