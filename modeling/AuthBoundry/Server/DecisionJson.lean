import AuthBoundry.Server.Grants

/-!
# Policies and decisions as data

The texts in which the control plane hands out the policies in force and the
decisions taken.
-/

namespace AuthBoundry

open Library

/-! ## Text of data -/

/-- A whole number as the server writes it; no fraction is ever built. -/
def displayNumber (value : ℚ) : String :=
  toString (max (-9223372036854775808) (min 9223372036854775807 value.num))

mutual

/-- The text of a value whose numbers are whole. -/
def displayJson : JsonValue → String
  | .string value => "\"" ++ escape value ++ "\""
  | .number value => displayNumber value
  | .bool value => if value then "true" else "false"
  | .null => "null"
  | .array items => "[" ++ ", ".intercalate (displayItems items) ++ "]"
  | .object members =>
      "\x7b" ++ ", ".intercalate (displayMembers members) ++ "\x7d"

def displayItems : List JsonValue → List String
  | [] => []
  | item :: items => displayJson item :: displayItems items

def displayMembers : List (String × JsonValue) → List String
  | [] => []
  | (name, value) :: members =>
      ("\"" ++ escape name ++ "\": " ++ displayJson value) ::
        displayMembers members

end

def HttpResponse.okJson (value : JsonValue) : HttpResponse :=
  .json 200 (displayJson value)

def optionalText (value : Option String) : JsonValue :=
  (value.map JsonValue.string).getD .null

/-! ## Policies -/

def Effect.text : Effect → String
  | .allow => "allow"
  | .deny => "deny"

def ruleSummaryJson (rule : Rule) : JsonValue :=
  .object
    [("capability", .string rule.capability.value),
      ("effect", .string rule.effect.text),
      ("resource",
        optionalText (rule.resource.map ResourceSelector.resourceType)),
      ("action", optionalText (rule.action.map Action.value))]

def policySummaryJson (capability : String) (policy : Policy) : JsonValue :=
  .object
    [("id", .string policy.id.value), ("capability", .string capability),
      ("rules", .array (policy.rules.map ruleSummaryJson))]

def contractPolicyJson (policy : PolicyDef) : JsonValue :=
  .object
    [("id", .string policy.capability),
      ("capability", .string policy.capability),
      ("tenant",
        .string (if policy.tenantCurrent then "current" else "unspecified")),
      ("resource", optionalText policy.resource),
      ("action", optionalText policy.action)]

def policiesJson (authority : LiveAuthorityState) (config : AuthConfig) :
    JsonValue :=
  .object
    [("revision", .number (asF64 authority.revision)),
      ("live_policies", .array (authority.capabilityPolicies.toList.map
        fun (capability, policy) => policySummaryJson capability policy)),
      ("contract_policies", .array (config.policies.map contractPolicyJson))]

/-! ## Decisions -/

def ConditionResult.asStr : ConditionResult → String
  | .pass => "pass"
  | .fail => "fail"

def AuthorityBasis.asStr : AuthorityBasis → String
  | .claim => "claim"
  | .delegated => "delegated"

def AuthorizationOutcome.asStr : AuthorizationOutcome → String
  | .allow => "allow"
  | .deny => "deny"

def DecisionReason.asStr : DecisionReason → String
  | .allowedByPolicy => "allowed_by_policy"
  | .capabilityMissing => "capability_missing"
  | .policyDenied => "policy_denied"
  | .tenantMismatch => "tenant_mismatch"
  | .conditionFailed => "condition_failed"
  | .resourceResolutionFailed => "resource_resolution_failed"
  | .principalMissing => "principal_missing"
  | .sessionInvalid => "session_invalid"
  | .routeUnprotected => "route_unprotected"
  | .authorityUnavailable => "authority_unavailable"
  | .delegationMissing => "delegation_missing"
  | .delegationExpired => "delegation_expired"
  | .delegationRevoked => "delegation_revoked"
  | .delegationScopeDenied => "delegation_scope_denied"
  | .delegationExceedsAuthority => "delegation_exceeds_authority"
  | .runNotFound => "run_not_found"
  | .runCancelled => "run_cancelled"
  | .runExpired => "run_expired"
  | .runScopeDenied => "run_scope_denied"
  | .runExceedsDelegation => "run_exceeds_delegation"
  | .parentRunScopeDenied => "parent_run_scope_denied"
  | .agentRevoked => "agent_revoked"
  | .agentSuspended => "agent_suspended"
  | .failClosed => "fail_closed"

def conditionJson (condition : ConditionEvidence) : JsonValue :=
  .object
    [("condition", .string condition.condition),
      ("result", .string condition.result.asStr),
      ("fact", optionalText condition.fact)]

def authoritySourceJson (decision : AuthorizationEvidence) : JsonValue :=
  match decision.authority, decision.delegationChain.getLast? with
  | some .delegated, some delegationId =>
      .object
        [("type", .string "delegation"), ("id", .string delegationId.value),
          ("delegator",
            optionalText (decision.delegatedBy.map AuthorityId.value))]
  | some _, _ => .object [("type", .string "policy")]
  | none, _ => .null

def decisionSummary (decision : AuthorizationEvidence) : String :=
  let action := (decision.action.map Action.value).getD "use"
  let resource :=
    (decision.resource.map ResourceRef.opaqueName).getD "no resource"
  s!"{decision.capability.value} {action} {decision.decision.asStr} for " ++
    s!"{decision.principal} on {resource} because {decision.reason.asStr}"

def decisionSource (decision : AuthorizationEvidence) : String :=
  match decision.authority with
  | some .delegated => "delegation"
  | _ => "policy"

def decisionJson (decision : AuthorizationEvidence) : JsonValue :=
  .object
    [("decision_id", .string decision.decisionId),
      ("timestamp", .number (signedAsF64 decision.timestamp)),
      ("decision", .string decision.decision.asStr),
      ("allowed", .bool (decision.decision == .allow)),
      ("reason", .string decision.reason.asStr),
      ("principal", .string decision.principal.value),
      ("tenant", .string decision.tenant.value),
      ("capability", .string decision.capability.value),
      ("resource",
        optionalText (decision.resource.map ResourceRef.opaqueName)),
      ("action", optionalText (decision.action.map Action.value)),
      ("policy_id", optionalText (decision.policyId.map AuthorityId.value)),
      ("matched_rules", .array (decision.matchedRules.map JsonValue.string)),
      ("conditions", .array (decision.conditions.map conditionJson)),
      ("authority", optionalText (decision.authority.map AuthorityBasis.asStr)),
      ("source", .string (decisionSource decision)),
      ("authority_source", authoritySourceJson decision),
      ("delegation_chain", .array
        (decision.delegationChain.map fun id => JsonValue.string id.value)),
      ("run_id", optionalText (decision.runId.map AuthorityId.value)),
      ("task_id", optionalText (decision.taskId.map AuthorityId.value)),
      ("agent_principal",
        optionalText (decision.agentPrincipal.map AuthorityId.value)),
      ("delegation_id",
        optionalText (decision.delegationId.map AuthorityId.value)),
      ("parent_run_id",
        optionalText (decision.parentRunId.map AuthorityId.value)),
      ("execution_scope",
        (decision.executionScope.map resourceScopeJson).getD .null),
      ("authority_revision", .number (asF64 decision.authorityRevision)),
      ("contract_fingerprint", .string decision.contractFingerprint),
      ("audit_event_id",
        optionalText (decision.auditEventId.map AuthorityId.value)),
      ("summary", .string (decisionSummary decision))]

end AuthBoundry
