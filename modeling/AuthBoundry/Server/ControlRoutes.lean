import AuthBoundry.Boundary.Request

/-!
# The routes of the control plane

Which handler of the control plane answers a request is decided by its method
and its path alone.
-/

namespace AuthBoundry

open Library

/-- The handlers of the control plane. -/
inductive ControlRoute where
  | overview
  | routes
  | authorityState
  | authorityProposal
  | authorityReconciliation
  | authorityDrift
  | passwordPolicy
  | storage
  | storageCapabilities
  | auditConfig
  | auditEvents
  | auditExport
  | reporting
  | approveAuthorityProposal
  | applyAuthorityProposal
  | approveBulk
  | applyBulk
  | policies
  | policy
  | authorizationDecisions
  | authorizationExplain
  | authorizationDecisionExplain
  | authorizationDecision
  | providers
  | agents
  | createAgent
  | agentRuns
  | createAgentRun
  | agentRun
  | cancelAgentRun
  | agent
  | suspendAgent
  | revokeAgent
  | retireAgent
  | delegations
  | createDelegation
  | delegation
  | revokeDelegation
  | propose
  | approve
  | apply
  | reject
  | revert
  | history
  | proposals
  | proposal
  deriving DecidableEq, Repr

/-- The test of a path in the table of the control plane. -/
inductive ControlPattern where
  | exactly (path : String)
  | within (start : String)
  | between (start finish : String)

def startsWith (start text : String) : Bool :=
  start.toList.isPrefixOf text.toList

def endsWith (finish text : String) : Bool :=
  finish.toList.isSuffixOf text.toList

def ControlPattern.accepts (path : String) : ControlPattern → Bool
  | .exactly expected => path == expected
  | .within start => startsWith start path
  | .between start finish => startsWith start path && endsWith finish path

/-- The table, in the order in which it is tried. -/
def controlTable : List (Method × ControlPattern × ControlRoute) :=
  [(.get, .exactly "/_authboundry/overview", .overview),
    (.get, .exactly "/_authboundry/routes", .routes),
    (.get, .exactly "/_authboundry/authority-state", .authorityState),
    (.get, .exactly "/_authboundry/authority-proposal", .authorityProposal),
    (.get, .exactly "/_authboundry/authority-reconciliation",
      .authorityReconciliation),
    (.post, .exactly "/_authboundry/authority-reconciliation/run",
      .authorityReconciliation),
    (.get, .exactly "/_authboundry/authority-drift", .authorityDrift),
    (.get, .exactly "/_authboundry/password-policy", .passwordPolicy),
    (.get, .exactly "/_authboundry/storage", .storage),
    (.get, .exactly "/_authboundry/storage/capabilities",
      .storageCapabilities),
    (.get, .exactly "/_authboundry/audit", .auditConfig),
    (.get, .exactly "/_authboundry/audit/events", .auditEvents),
    (.get, .exactly "/_authboundry/audit/export", .auditExport),
    (.get, .exactly "/_authboundry/reporting", .reporting),
    (.post, .between "/_authboundry/authority-proposal/" "/approve",
      .approveAuthorityProposal),
    (.post, .between "/_authboundry/authority-proposal/" "/apply",
      .applyAuthorityProposal),
    (.post, .exactly "/_authboundry/authority-proposals/approve",
      .approveBulk),
    (.post, .exactly "/_authboundry/authority-proposals/apply", .applyBulk),
    (.get, .exactly "/_authboundry/policies", .policies),
    (.get, .within "/_authboundry/policies/", .policy),
    (.get, .exactly "/_authboundry/authorization/decisions",
      .authorizationDecisions),
    (.get, .exactly "/_authboundry/authorization/explain",
      .authorizationExplain),
    (.get, .between "/_authboundry/authorization/decisions/" "/explain",
      .authorizationDecisionExplain),
    (.get, .within "/_authboundry/authorization/decisions/",
      .authorizationDecision),
    (.get, .exactly "/_authboundry/providers", .providers),
    (.get, .exactly "/_authboundry/agents", .agents),
    (.post, .exactly "/_authboundry/agents", .createAgent),
    (.get, .between "/_authboundry/agents/" "/runs", .agentRuns),
    (.post, .between "/_authboundry/agents/" "/runs", .createAgentRun),
    (.get, .within "/_authboundry/runs/", .agentRun),
    (.post, .between "/_authboundry/runs/" "/cancel", .cancelAgentRun),
    (.get, .within "/_authboundry/agents/", .agent),
    (.post, .between "/_authboundry/agents/" "/suspend", .suspendAgent),
    (.post, .between "/_authboundry/agents/" "/revoke", .revokeAgent),
    (.post, .between "/_authboundry/agents/" "/retire", .retireAgent),
    (.get, .exactly "/_authboundry/delegations", .delegations),
    (.post, .exactly "/_authboundry/delegations", .createDelegation),
    (.get, .within "/_authboundry/delegations/", .delegation),
    (.post, .between "/_authboundry/delegations/" "/revoke",
      .revokeDelegation),
    (.post, .exactly "/_authboundry/propose", .propose),
    (.post, .exactly "/_authboundry/approve", .approve),
    (.post, .exactly "/_authboundry/apply", .apply),
    (.post, .exactly "/_authboundry/reject", .reject),
    (.post, .exactly "/_authboundry/revert", .revert),
    (.get, .exactly "/_authboundry/history", .history),
    (.get, .exactly "/_authboundry/proposals", .proposals),
    (.get, .within "/_authboundry/proposals/", .proposal)]

/-- The handler of a request, if the control plane has one for it. -/
def controlRoute (method : Method) (path : String) : Option ControlRoute :=
  (controlTable.find? fun (expected, pattern, _) =>
    expected == method && pattern.accepts path).map fun entry => entry.2.2

end AuthBoundry
