import AuthBoundry.Contract.Delegation

/-!
# Tenants, principals, identities and runs
-/

namespace AuthBoundry

open Library

structure Claims where
  values : KeyedMap String ClaimValue
  deriving DecidableEq

structure ContractVersion where
  major : Nat
  minor : Nat
  deriving DecidableEq, Repr

structure OfflineSemantics where
  maxAgeSeconds : Nat
  mustRevalidate : Bool
  deriving DecidableEq, Repr

structure TenantContext where
  tenantId : TenantId
  tenantNamespace : String
  policyId : PolicyId
  storageRootId : StorageRootId
  deriving DecidableEq, Repr

structure Identity where
  id : IdentityId
  provider : ProviderName
  providerSubject : ProviderSubject
  tenantId : TenantId
  claims : Claims
  version : ContractVersion
  offline : OfflineSemantics
  deriving DecidableEq

inductive PrincipalKind where
  | human
  | agent
  | service
  deriving DecidableEq, Repr

inductive AgentState where
  | created
  | active
  | suspended
  | revoked
  | retired
  deriving DecidableEq, Repr

structure Principal where
  id : PrincipalId
  kind : PrincipalKind
  tenantId : TenantId
  claims : Claims
  version : ContractVersion
  agentState : Option AgentState
  deriving DecidableEq

structure TaskSpec where
  id : TaskId
  purpose : String
  capabilities : List Capability
  resourceScope : ResourceScope
  expiresAt : Int
  constraints : List String
  deriving DecidableEq

inductive RunStatus where
  | active
  | completed
  | cancelled
  | expired
  | failed
  deriving DecidableEq, Repr

structure AgentRun where
  id : RunId
  tenantId : TenantId
  agentPrincipal : PrincipalId
  delegator : PrincipalId
  delegationId : DelegationId
  delegationChain : List DelegationId
  task : TaskSpec
  parentRunId : Option RunId
  createdAt : Int
  expiresAt : Int
  status : RunStatus
  authorityRevision : Nat
  contractFingerprint : String
  capabilityScope : List Capability
  resourceScope : ResourceScope
  executionCredential : ExecutionCredentialId
  cancelledAt : Option Int
  deriving DecidableEq

end AuthBoundry
