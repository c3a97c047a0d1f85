import Jawnix.AccountMigration
import Jawnix.AcquisitionHealth
import Jawnix.AdminFactors
import Jawnix.AdminSessions
import Jawnix.ArchivedAccess
import Jawnix.Attribution
import Jawnix.ClosingTimes
import Jawnix.ConfigurationRaces
import Jawnix.CooldownGuard
import Jawnix.CorrectionUndo
import Jawnix.DecisionChannels
import Jawnix.DeliveryRuns
import Jawnix.EmissionRuns
import Jawnix.HoldRuns
import Jawnix.KeywordGeneration
import Jawnix.KeywordHistory
import Jawnix.KeywordSpend
import Jawnix.LeadUploadRuns
import Jawnix.ManifestBackends
import Jawnix.MappingAuthority
import Jawnix.MembershipHistory
import Jawnix.MfaThrottle
import Jawnix.OutcomeRaces
import Jawnix.PhoneYield
import Jawnix.Phones
import Jawnix.PipelinePause
import Jawnix.PolicyDrafts
import Jawnix.RotationPass
import Jawnix.ScrapeAttempts
import Jawnix.StateCampaigns
import Jawnix.StripeWebhook
import Jawnix.SubmissionRaces
import Jawnix.TopUp
import Jawnix.WalletRuns
import Jawnix.WorkerRaces
