import Certctl.Guarantees.SingleIssuance
import Certctl.Guarantees.OrderTerminality
import Certctl.Guarantees.AuthorizationCascade
import Certctl.Guarantees.ChallengeBypass
import Certctl.Guarantees.IssuanceScope
import Certctl.Guarantees.TenantIsolation
import Certctl.Guarantees.SerialAgreement
import Certctl.Guarantees.RevocationAnswers
import Certctl.Guarantees.FreshAfterRevocation
import Certctl.Guarantees.RevocationTarget
import Certctl.Guarantees.SlidingWindowCap
import Certctl.Guarantees.ClusterRateCap
import Certctl.Guarantees.BackendEquivalence
import Certctl.Guarantees.ReplayCacheRaces
import Certctl.Guarantees.ChallengeSingleUse
import Certctl.Guarantees.DeployLocks
import Certctl.Guarantees.AtomicDeploy
import Certctl.Guarantees.NonceDiscipline
import Certctl.Guarantees.AccountKeys
import Certctl.Guarantees.ContentBinding
import Certctl.Guarantees.ApprovalGate
import Certctl.Guarantees.EntryPointGate
import Certctl.Guarantees.RevocationFinal
import Certctl.Guarantees.TerminalJobs
import Certctl.Guarantees.ExclusiveClaim
import Certctl.Guarantees.BoundedAttempts
import Certctl.Guarantees.DecisionEffects
import Certctl.Guarantees.DecidedOnce
import Certctl.Guarantees.StaleSweep
import Certctl.Guarantees.ProfileEdits
import Certctl.Guarantees.AgentIsolation
import Certctl.Guarantees.AgentCSRScope
import Certctl.Guarantees.DeployedPairs
import Certctl.Guarantees.HeartbeatsCount
import Certctl.Guarantees.RetirementFinal
import Certctl.Guarantees.AlertCoverage
import Certctl.Guarantees.NotificationRetry
import Certctl.Guarantees.AuditAlarms
import Certctl.Guarantees.AuditTamper
import Certctl.Guarantees.ScopeIntersection
import Certctl.Guarantees.BulkMatches
import Certctl.Guarantees.ScrubbedUsers
import Certctl.Guarantees.IntuneAcceptance
import Certctl.Guarantees.Unpadding
import Certctl.Guarantees.DeviceLimiter
import Certctl.Guarantees.RenewalWindows
import Certctl.Guarantees.CSRFRotation
import Certctl.Guarantees.FirstAdmin
import Certctl.Guarantees.ShellQuoting
import Certctl.Guarantees.HealthStatus
import Certctl.Guarantees.DiscoveryScans
import Certctl.Guarantees.InjectiveIDs
