import SelfOtp.Lib.Transition
import SelfOtp.Lib.Pool
import SelfOtp.Lib.RowLocks
import SelfOtp.Lib.Ledger
import SelfOtp.Lib.Serial
import SelfOtp.Lib.Json
import SelfOtp.Lib.Utf16
import SelfOtp.Lib.JsonText
import SelfOtp.Lib.Registers
import SelfOtp.Lib.JsNumber
import SelfOtp.Lib.CodeStore
import SelfOtp.Lib.Machine
import SelfOtp.Lib.SlidingWindow
import SelfOtp.Lib.Once
import SelfOtp.Lib.ExpiringMap
import SelfOtp.Lib.Rounding
import SelfOtp.Lib.Progress
import SelfOtp.Model.Basic
import SelfOtp.Model.Wallet
import SelfOtp.Model.Tables
import SelfOtp.Model.World
import SelfOtp.Model.Middleware
import SelfOtp.Model.RequestHash
import SelfOtp.Model.Crypto
import SelfOtp.Model.OtpService
import SelfOtp.Model.Send
import SelfOtp.Model.Resend
import SelfOtp.Model.Worker
import SelfOtp.Model.Auth
import SelfOtp.Model.Dashboard
import SelfOtp.Model.System
import SelfOtp.Model.RefreshTokens
import SelfOtp.Model.WalletPool
import SelfOtp.Model.Webhooks
import SelfOtp.Model.Signatures
import SelfOtp.Model.EdgeDatabase
import SelfOtp.Model.EdgeOtp
import SelfOtp.Model.EdgeStatus
import SelfOtp.Model.EdgeSystem
import SelfOtp.Model.EdgeWebhook
import SelfOtp.Model.LimiterPool
import SelfOtp.Model.WebhookPool
import SelfOtp.Model.OtpPool
import SelfOtp.Model.Providers
import SelfOtp.Model.Sessions
import SelfOtp.Properties.Wallet
import SelfOtp.Properties.RefundReference
import SelfOtp.Properties.VerifyMoves
import SelfOtp.Properties.OtpPool
import SelfOtp.Properties.AttemptCap
import SelfOtp.Properties.SingleUse
import SelfOtp.Properties.LostUpdate
import SelfOtp.Properties.TwoTier
import SelfOtp.Properties.JobRefund
import SelfOtp.Properties.DispatchMoves
import SelfOtp.Properties.IdempotentSend
import SelfOtp.Properties.RequestRows
import SelfOtp.Properties.OtpEntries
import SelfOtp.Properties.Filing
import SelfOtp.Properties.VerifiedAbsorbing
import SelfOtp.Properties.Tenants
import SelfOtp.Properties.TenantIsolation
import SelfOtp.Properties.Billing
import SelfOtp.Properties.TokenMoves
import SelfOtp.Properties.TokenLineage
import SelfOtp.Properties.DeadFamily
import SelfOtp.Properties.WalletLedger
import SelfOtp.Properties.WalletSerial
import SelfOtp.Properties.WebhookIngestion
import SelfOtp.Properties.WebhookAuthenticity
import SelfOtp.Properties.StatusOrder
import SelfOtp.Properties.MessageMoves
import SelfOtp.Properties.MessageRecording
import SelfOtp.Properties.Dispatches
import SelfOtp.Properties.BlockedPhone
import SelfOtp.Properties.Cooldown
import SelfOtp.Properties.PhoneQuota
import SelfOtp.Properties.AttemptAccounting
import SelfOtp.Properties.Expiry
import SelfOtp.Properties.FailedRequest
import SelfOtp.Properties.EdgeMoves
import SelfOtp.Properties.EdgeRows
import SelfOtp.Properties.EdgeAttempts
import SelfOtp.Properties.EdgeSingleUse
import SelfOtp.Properties.EdgeCharge
import SelfOtp.Properties.EdgeRequests
import SelfOtp.Properties.EdgeSubmission
import SelfOtp.Properties.EdgeUsability
import SelfOtp.Properties.EdgeRefund
import SelfOtp.Properties.EdgeCooldown
import SelfOtp.Properties.LimiterRace
import SelfOtp.Properties.TwoWallets
import SelfOtp.Properties.VerifyRun
import SelfOtp.Properties.MemoryMode
import SelfOtp.Properties.TwoModes
import SelfOtp.Properties.LimiterLog
import SelfOtp.Properties.WebhookPayload
import SelfOtp.Properties.ExactlyOnce
import SelfOtp.Properties.Reprocess
import SelfOtp.Properties.Replay
import SelfOtp.Properties.RotationAlone
import SelfOtp.Properties.Fallback
import SelfOtp.Properties.SignatureCheckers
import SelfOtp.Properties.Deletion
import SelfOtp.Properties.EdgeCodes
import SelfOtp.Properties.RequestHash
import SelfOtp.Properties.Masking
import SelfOtp.Properties.SystemLedger
import SelfOtp.Properties.Reconciliation
import SelfOtp.Properties.RevokedKeys
import SelfOtp.Properties.MessageBound
import SelfOtp.Properties.Delivery
import SelfOtp.Properties.Sessions
import SelfOtp.Properties.Progress
import SelfOtp.Properties.IssuedCodes
import SelfOtp.Properties.PaidCodes
import SelfOtp.Properties.EdgeLedger
import SelfOtp.Properties.EdgeProvenance
import SelfOtp.Properties.EdgeTenants
import SelfOtp.Properties.EdgeProgress
import SelfOtp.Properties.EdgeAnswers
import SelfOtp.Properties.Accounts
import SelfOtp.Properties.LedgerPages
import SelfOtp.Properties.References
