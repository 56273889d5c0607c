import AuthBoundry.Authz.Policy

/-!
# Errors and contexts of the runtime

Every failure names the stage that refused and the denial it stands for.  A
context is what the application sees of the acting principal.
-/

namespace AuthBoundry

/-- Where in the lifecycle a request was refused. -/
inductive AuthLifecycleStage where
  | tenantResolution
  | connectorResolution
  | providerAuthentication
  | identityResolution
  | principalResolution
  | sessionValidation
  | claimsResolution
  | policyEvaluation
  | delegationManagement
  | agentLifecycle
  | runtimeContext
  | configuration
  deriving DecidableEq, Repr

structure AuthError where
  stage : AuthLifecycleStage
  message : String
  denial : DenialReason
  deriving DecidableEq, Repr

structure RuntimeContext where
  principal : Principal
  tenant : TenantContext
  sessionId : Option SessionId
  delegation : Option Delegation
  run : Option AgentRun
  claims : Claims
  capabilities : CapabilityEnvelope
  deriving DecidableEq

def RuntimeContext.withRun (self : RuntimeContext) (run : AgentRun) :
    RuntimeContext :=
  { self with run := some run }

end AuthBoundry
