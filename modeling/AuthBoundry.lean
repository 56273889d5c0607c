import AuthBoundry.Runtime.Advertised
import AuthBoundry.Runtime.DelegationTraces
import AuthBoundry.Boundary.Recording
import AuthBoundry.Runtime.Interleavings
import AuthBoundry.Boundary.Approvals
import AuthBoundry.Dsl.Fingerprints
import AuthBoundry.Boundary.Reviews
import AuthBoundry.Server.ProposedChanges
import AuthBoundry.Clients.ResetBindings
import AuthBoundry.Server.Agents
import AuthBoundry.Boundary.BatchPreviews
import AuthBoundry.Server.GrantRestrictions
import AuthBoundry.Authz.ClockReadings
import AuthBoundry.Server.ConcealedAccounts
import AuthBoundry.Discovery.RouteOrders
import AuthBoundry.Server.LiveMappings
import AuthBoundry.Server.AdoptableRecommendations
import AuthBoundry.Server.SharedTargets
import AuthBoundry.Boundary.ChallengeRuns
import AuthBoundry.Cli.PathSpellings
import AuthBoundry.Cli.RouteRoles
import AuthBoundry.Authz.ConditionEvidence
import AuthBoundry.Boundary.SessionCredentials
import AuthBoundry.Server.QueryStrings
import AuthBoundry.Boundary.ConnectorParameters
import AuthBoundry.Server.MailTemplates
import AuthBoundry.Server.FlatBodies
import AuthBoundry.Dsl.AlteredTexts
import AuthBoundry.Dsl.EntryOrders
import AuthBoundry.Storage.AuditPages
import AuthBoundry.Providers.PasswordHistory
import AuthBoundry.Boundary.PasswordAges
import AuthBoundry.Server.WrittenJson
import AuthBoundry.Server.ContextVerifiers
import AuthBoundry.Cli.SettledUpgrades
