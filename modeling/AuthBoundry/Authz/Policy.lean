import AuthBoundry.Contract.Principal

/-!
# Policies, requests and decisions

A policy is a list of rules read in order.  A decision either allows with a
grant that explains itself or denies with a reason.
-/

namespace AuthBoundry

open Library

inductive Effect where
  | allow
  | deny
  deriving DecidableEq, Repr

structure Action where
  value : String
  deriving DecidableEq, Repr

structure ResourceRef where
  resourceType : String
  resourceId : String
  tenantId : TenantId
  deriving DecidableEq, Repr

/-- The `type:id` text under which audit records name a resource. -/
def ResourceRef.opaqueName (self : ResourceRef) : String :=
  s!"{self.resourceType}:{self.resourceId}"

structure ResourceSelector where
  resourceType : String
  resourceId : Option String
  deriving DecidableEq, Repr

namespace ResourceSelector

def any (resourceType : String) : ResourceSelector :=
  { resourceType, resourceId := none }

def selects (self : ResourceSelector) (resource : ResourceRef) : Bool :=
  self.resourceType == resource.resourceType &&
    (self.resourceId.map fun id => id == "*" || id == resource.resourceId).getD
      true

end ResourceSelector

structure ResourceAttributes where
  tenantId : Option TenantId
  values : KeyedMap String ClaimValue
  deriving DecidableEq

namespace ResourceAttributes

def new : ResourceAttributes := { tenantId := none, values := ∅ }

def withTenant (self : ResourceAttributes) (tenantId : TenantId) :
    ResourceAttributes :=
  { self with tenantId := some tenantId }

end ResourceAttributes

inductive PrincipalAttribute where
  | id
  | tenant
  | claim (key : String)
  deriving DecidableEq, Repr

inductive Condition where
  | always
  | all (conditions : List Condition)
  | claimEquals (key : String) (value : ClaimValue)
  | claimIn (key : String) (values : List ClaimValue)
  | timeBound (start finish : Int)
  | tenantCurrent
  | resourceAttributeEquals (key : String) (value : ClaimValue)
  | resourceAttributeIn (key : String) (values : List ClaimValue)
  | relationshipEquals (resourceAttribute : String)
      (principal : PrincipalAttribute)
  deriving Repr

structure Rule where
  capability : Capability
  condition : Condition
  resource : Option ResourceSelector
  action : Option Action
  effect : Effect
  deriving Repr

def Rule.allow (capability : Capability) (condition : Condition) : Rule :=
  { capability, condition, resource := none, action := none, effect := .allow }

structure Policy where
  id : PolicyId
  rules : List Rule
  deriving Repr

structure AuthorizationContext where
  values : KeyedMap String ClaimValue
  runId : Option RunId
  taskId : Option TaskId
  agentPrincipal : Option PrincipalId
  delegationId : Option DelegationId
  delegationChain : List DelegationId
  deriving DecidableEq

def AuthorizationContext.default : AuthorizationContext :=
  { values := ∅
    runId := none
    taskId := none
    agentPrincipal := none
    delegationId := none
    delegationChain := [] }

structure AuthorizationRequest where
  principal : PrincipalId
  tenant : TenantId
  capability : Capability
  action : Action
  resource : Option ResourceRef
  context : AuthorizationContext
  deriving DecidableEq

inductive ConditionResult where
  | pass
  | fail
  deriving DecidableEq, Repr

structure ConditionEvidence where
  condition : String
  result : ConditionResult
  fact : Option String
  deriving DecidableEq, Repr

/-- Where a grant's authority comes from. -/
inductive AuthorityBasis where
  | claim
  | delegated
  deriving DecidableEq, Repr

structure GrantedCapability where
  capability : Capability
  policyId : PolicyId
  tenantId : TenantId
  principalId : PrincipalId
  principalKind : PrincipalKind
  authority : AuthorityBasis
  claimBasis : List String
  delegationId : Option DelegationId
  delegationChain : List DelegationId
  delegatedBy : Option PrincipalId
  deriving DecidableEq, Repr

structure CapabilityEnvelope where
  grantedCapabilities : List GrantedCapability
  deriving DecidableEq, Repr

namespace CapabilityEnvelope

def empty : CapabilityEnvelope := { grantedCapabilities := [] }

def grant (self : CapabilityEnvelope) (capability : Capability) :
    Option GrantedCapability :=
  self.grantedCapabilities.find? fun grant => grant.capability == capability

def allows (self : CapabilityEnvelope) (capability : Capability) : Bool :=
  (self.grant capability).isSome

def capabilities (self : CapabilityEnvelope) : List Capability :=
  self.grantedCapabilities.map GrantedCapability.capability

theorem allows_iff {self : CapabilityEnvelope} {capability : Capability} :
    self.allows capability = true ↔
      ∃ grant ∈ self.grantedCapabilities, grant.capability = capability := by
  simp [allows, grant]

end CapabilityEnvelope

inductive DenialReason where
  | unknownTenant
  | unknownPrincipal
  | tenantMismatch
  | missingClaim
  | claimMismatch
  | policyNotFound
  | capabilityNotGranted
  | expiredSession
  | revokedSession
  | expiredDelegation
  | revokedDelegation
  | invalidDelegation
  | delegationMissing
  | delegationScopeDenied
  | delegationExceedsAuthority
  | runNotFound
  | runCancelled
  | runExpired
  | runScopeDenied
  | runExceedsDelegation
  | parentRunScopeDenied
  | agentRevoked
  | agentSuspended
  | unknownCapability
  | unsupportedConnector
  | invalidSession
  | missingCredential
  | passwordTooShort
  | passwordTooLong
  | passwordMissingUppercase
  | passwordMissingLowercase
  | passwordMissingNumber
  | passwordMissingSpecialCharacter
  | passwordReused
  | passwordExpired
  | policyDenied
  | conditionFailed
  | auditUnavailable
  deriving DecidableEq, Repr

namespace DenialReason

/-- The reason code that audit records and responses carry. -/
def asStr : DenialReason → String
  | .unknownTenant => "unknown_tenant"
  | .unknownPrincipal => "unknown_principal"
  | .tenantMismatch => "tenant_mismatch"
  | .missingClaim => "missing_claim"
  | .claimMismatch => "claim_mismatch"
  | .policyNotFound => "policy_not_found"
  | .capabilityNotGranted => "capability_not_granted"
  | .expiredSession => "expired_session"
  | .revokedSession => "revoked_session"
  | .expiredDelegation => "delegation_expired"
  | .revokedDelegation => "delegation_revoked"
  | .invalidDelegation => "invalid_delegation"
  | .delegationMissing => "delegation_missing"
  | .delegationScopeDenied => "delegation_scope_denied"
  | .delegationExceedsAuthority => "delegation_exceeds_authority"
  | .runNotFound => "run_not_found"
  | .runCancelled => "run_cancelled"
  | .runExpired => "run_expired"
  | .runScopeDenied => "run_scope_denied"
  | .runExceedsDelegation => "run_exceeds_delegation"
  | .parentRunScopeDenied => "parent_run_scope_denied"
  | .agentRevoked => "agent_revoked"
  | .agentSuspended => "agent_suspended"
  | .unknownCapability => "unknown_capability"
  | .unsupportedConnector => "unsupported_connector"
  | .invalidSession => "invalid_session"
  | .missingCredential => "missing_credential"
  | .passwordTooShort => "PASSWORD_TOO_SHORT"
  | .passwordTooLong => "PASSWORD_TOO_LONG"
  | .passwordMissingUppercase => "PASSWORD_MISSING_UPPERCASE"
  | .passwordMissingLowercase => "PASSWORD_MISSING_LOWERCASE"
  | .passwordMissingNumber => "PASSWORD_MISSING_NUMBER"
  | .passwordMissingSpecialCharacter => "PASSWORD_MISSING_SPECIAL_CHARACTER"
  | .passwordReused => "PASSWORD_REUSED"
  | .passwordExpired => "PASSWORD_EXPIRED"
  | .policyDenied => "policy_denied"
  | .conditionFailed => "condition_failed"
  | .auditUnavailable => "audit_unavailable"

end DenialReason

/-- The coarser reason that decision evidence carries. -/
inductive DecisionReason where
  | allowedByPolicy
  | capabilityMissing
  | policyDenied
  | tenantMismatch
  | conditionFailed
  | resourceResolutionFailed
  | principalMissing
  | sessionInvalid
  | routeUnprotected
  | authorityUnavailable
  | delegationMissing
  | delegationExpired
  | delegationRevoked
  | delegationScopeDenied
  | delegationExceedsAuthority
  | runNotFound
  | runCancelled
  | runExpired
  | runScopeDenied
  | runExceedsDelegation
  | parentRunScopeDenied
  | agentRevoked
  | agentSuspended
  | failClosed
  deriving DecidableEq, Repr

inductive AuthorizationDecision where
  | allow (grant : GrantedCapability) (resource : Option ResourceRef)
      (action : Option Action) (matchedRules : List String)
      (conditions : List ConditionEvidence)
      (auditEventId : Option AuditEventId)
  | deny (reason : DenialReason) (capability : Option Capability)
      (resource : Option ResourceRef) (action : Option Action)
      (policyId : Option PolicyId) (matchedRules : List String)
      (conditions : List ConditionEvidence)
      (auditEventId : Option AuditEventId)
  deriving DecidableEq, Repr

namespace AuthorizationDecision

def isAllowed : AuthorizationDecision → Bool
  | .allow .. => true
  | .deny .. => false

def denialReason : AuthorizationDecision → Option DenialReason
  | .deny reason _ _ _ _ _ _ _ => some reason
  | .allow .. => none

def grant : AuthorizationDecision → Option GrantedCapability
  | .allow grant _ _ _ _ _ => some grant
  | .deny .. => none

def auditEventId : AuthorizationDecision → Option AuditEventId
  | .allow _ _ _ _ _ auditEventId => auditEventId
  | .deny _ _ _ _ _ _ _ auditEventId => auditEventId

def reason : AuthorizationDecision → DecisionReason
  | .allow .. => .allowedByPolicy
  | .deny reason _ _ _ _ _ _ _ =>
      match reason with
      | .unknownPrincipal => .principalMissing
      | .tenantMismatch | .unknownTenant => .tenantMismatch
      | .policyNotFound | .unknownCapability => .authorityUnavailable
      | .capabilityNotGranted | .missingClaim | .claimMismatch =>
          .capabilityMissing
      | .expiredSession | .revokedSession | .invalidSession
      | .missingCredential => .sessionInvalid
      | .policyDenied => .policyDenied
      | .passwordTooShort | .passwordTooLong | .passwordMissingUppercase
      | .passwordMissingLowercase | .passwordMissingNumber
      | .passwordMissingSpecialCharacter | .passwordReused
      | .passwordExpired => .policyDenied
      | .conditionFailed => .conditionFailed
      | .delegationMissing => .delegationMissing
      | .expiredDelegation => .delegationExpired
      | .revokedDelegation => .delegationRevoked
      | .delegationScopeDenied => .delegationScopeDenied
      | .delegationExceedsAuthority => .delegationExceedsAuthority
      | .runNotFound => .runNotFound
      | .runCancelled => .runCancelled
      | .runExpired => .runExpired
      | .runScopeDenied => .runScopeDenied
      | .runExceedsDelegation => .runExceedsDelegation
      | .parentRunScopeDenied => .parentRunScopeDenied
      | .agentRevoked => .agentRevoked
      | .agentSuspended => .agentSuspended
      | .invalidDelegation | .unsupportedConnector | .auditUnavailable =>
          .failClosed

theorem isAllowed_iff_grant {decision : AuthorizationDecision} :
    decision.isAllowed = true ↔ ∃ grant, decision.grant = some grant := by
  cases decision <;> simp [isAllowed, grant]

end AuthorizationDecision

inductive AuthorizationOutcome where
  | allow
  | deny
  deriving DecidableEq, Repr

structure AuthorizationEvidence where
  decisionId : String
  timestamp : Int
  principal : PrincipalId
  tenant : TenantId
  capability : Capability
  action : Option Action
  resource : Option ResourceRef
  policyId : Option PolicyId
  matchedRules : List String
  conditions : List ConditionEvidence
  authority : Option AuthorityBasis
  delegatedBy : Option PrincipalId
  delegationChain : List DelegationId
  runId : Option RunId
  taskId : Option TaskId
  agentPrincipal : Option PrincipalId
  delegationId : Option DelegationId
  parentRunId : Option RunId
  executionScope : Option ResourceScope
  authorityRevision : Nat
  contractFingerprint : String
  decision : AuthorizationOutcome
  reason : DecisionReason
  auditEventId : Option AuditEventId
  deriving DecidableEq

end AuthBoundry
