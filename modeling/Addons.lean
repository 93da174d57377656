import Addons.AdaptiveLimits
import Addons.AddonPlans
import Addons.ApprovalAlarms
import Addons.CleanRestarts
import Addons.ConfirmedUploads
import Addons.ConsecutiveRollbacks
import Addons.CronFields
import Addons.FencingTokens
import Addons.FilesystemGuard
import Addons.FollowingAgreement
import Addons.GoEscapes
import Addons.IdempotencyKeys
import Addons.InsightsAlarms
import Addons.ListingDocuments
import Addons.MemberChanges
import Addons.OsvFindings
import Addons.ProtectiveCordon
import Addons.PublishedSegments
import Addons.RegisteredClusters
import Addons.SingleLeader
import Addons.SoleLeader
import Addons.UnusedImages
import Addons.NodeAccounting
import Addons.UploadSlots
import Addons.UpstreamBodies
import Addons.UpstreamCredentials
import Addons.VaultOperations
import Addons.VersionExpressions
import Addons.WalShippingExact
