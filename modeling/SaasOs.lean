import SaasOs.Tenancy.Tombstones
import SaasOs.Tenancy.PurgeRetry
import SaasOs.Tenancy.Disclosure
import SaasOs.Rbac.Removals
import SaasOs.Outbox.StartedMarker
import SaasOs.Outbox.RetryWindow
import SaasOs.Outbox.DeadlineCodec
import SaasOs.Outbox.FailureClassification
import SaasOs.Outbox.Consumption
import SaasOs.Idempotency.TwoStep
import SaasOs.AuditDigest.Digesting
import SaasOs.Platform.NoAmplification
import SaasOs.Credentials.Authentication
import SaasOs.Identity.RedemptionRuns
import SaasOs.PermissionGrants.Eligibility
import SaasOs.PermissionGrants.Application
import SaasOs.Approvals.Workflow
import SaasOs.Billing.Projections
import SaasOs.SelfLearning.Evaluations
import SaasOs.SelfLearning.Experiments
import SaasOs.PermissionGrants.LiveRequests
import SaasOs.PermissionGrants.OnePerson
import SaasOs.RateLimit.FixedWindow
import SaasOs.RateLimit.Leases
import SaasOs.Webhooks.ReplayLedger
import SaasOs.Webhooks.Reencryption
import SaasOs.Identity.Logins
import SaasOs.Platform.SubjectReferences
import SaasOs.AuditLog.Metadata
import SaasOs.Egress.WebhookDelivery
import SaasOs.Jobs.Queue
import SaasOs.Jobs.DeadLetters
import SaasOs.FeatureFlags.OverrideRuns
import SaasOs.Crypto.Envelope
import SaasOs.Database.TenantScope
import SaasOs.Egress.Pinning
import SaasOs.Egress.ProxyTunnel
import SaasOs.Rbac.SupportAccess
import SaasOs.Tenancy.PurgeCreations
import SaasOs.Billing.Convergence
import SaasOs.Inference.Accounting
import SaasOs.Usage.Ingestion
import SaasOs.Usage.Reporting
import SaasOs.Identity.SameOrigin
import SaasOs.Email.Resend
import SaasOs.Backup.Restore
import SaasOs.Outbox.Names
import SaasOs.Platform.Listings
import SaasOs.Observability.Redaction
import SaasOs.Database.SchemaInventory
