/-
AgentPlatform/Authority/Contracts.lean

The values of the authority: scopes, exact grants, request contexts, and the
immutable static generation with its credentials, requestability rules and
tombstones.

An exact grant is checked where it is constructed, so that none with a
wildcard, a control character or an open resource exists.
-/
import AgentPlatform.Py.Datetime
import AgentPlatform.Py.Hash
import AgentPlatform.Py.Text

namespace AgentPlatform

open Py

namespace Authority

structure AuthorityScope where
  tenantId : String
  securityDomain : String
  deriving DecidableEq, Repr

/-- `text.startswith(start)`. -/
def begins (text start : String) : Bool := start.toList.isPrefixOf text.toList

/-! ### Exact grants -/

/-- The checks of `ExactGrant.__post_init__`. -/
def exactGrantValid (owner action exactResource : String) : Bool :=
  [owner, action, exactResource].all (fun value => value ≠ "" && strip value = value)
    && owner.length ≤ 64 && action.length ≤ 64 && exactResource.length ≤ 512
    && [owner, action, exactResource].all (fun value => value.toList.all fun c => 32 ≤ c.toNat)
    && [owner, action, exactResource].all (fun value => value.toList.all fun c =>
      !decide (c ∈ "*?[]\x7b\x7d()\\".toList))
    && exactResource.toList.getLast? ≠ some ':'

structure ExactGrant where
  owner : String
  action : String
  exactResource : String
  valid : exactGrantValid owner action exactResource = true
  deriving DecidableEq

/-- `ExactGrant(owner, action, exact_resource)`; `none` is `INVALID_GRANT_TARGET`. -/
def ExactGrant.make (owner action exactResource : String) : Option ExactGrant :=
  if h : exactGrantValid owner action exactResource = true then
    some ⟨owner, action, exactResource, h⟩
  else none

/-! ### Contexts -/

inductive AuthenticationSource
  | browserSession
  | serviceCredential
  deriving DecidableEq, Repr

/-- `TrustedRequestContext`; the policy version is read by no modelled function. -/
structure TrustedRequestContext where
  principalId : String
  scope : AuthorityScope
  sessionIdOrServiceCredentialId : String
  authenticationSource : AuthenticationSource
  deriving DecidableEq, Repr

/-! ### The static generation -/

inductive GrantSource
  | serviceOnly
  | browserBootstrap
  | staticMeta
  | dynamic
  deriving DecidableEq, Repr

structure StaticGrant where
  grant : ExactGrant
  source : GrantSource
  deriving DecidableEq

structure CredentialConfiguration where
  credentialId : String
  credentialSha256 : String
  principalId : String
  scope : AuthorityScope
  expiresAt : Datetime
  authenticationSource : GrantSource
  grants : List StaticGrant
  deriving DecidableEq

structure RequestabilityRule where
  owner : String
  action : String
  resourcePrefix : String
  purpose : String
  deriving DecidableEq

/-- `StaticAuthorityGeneration`; the frozen sets are lists without order. -/
structure StaticAuthorityGeneration where
  generation : Int
  digest : String
  policyVersion : String
  auditSource : String
  credentials : List CredentialConfiguration
  requestability : List RequestabilityRule
  credentialRevocationTombstones : List String
  staticGrantRevocationTombstones : List (String × ExactGrant)
  deriving DecidableEq

def StaticAuthorityGeneration.credentialById (g : StaticAuthorityGeneration)
    (credentialId : String) : Option CredentialConfiguration :=
  g.credentials.find? fun item => item.credentialId = credentialId

end Authority

end AgentPlatform
