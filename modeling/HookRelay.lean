import HookRelay.Alert
import HookRelay.Config.Summary
import HookRelay.Memory.Pool
import HookRelay.Proofs.Acceptance
import HookRelay.Proofs.Announcement
import HookRelay.Proofs.Breakdown
import HookRelay.Proofs.Broadcast.FanOut
import HookRelay.Proofs.Callback
import HookRelay.Proofs.Capture
import HookRelay.Proofs.Clearing.Exact
import HookRelay.Proofs.Config.Masking
import HookRelay.Proofs.Config.Readiness
import HookRelay.Proofs.Deployment
import HookRelay.Proofs.Freshness
import HookRelay.Proofs.Independence.Order
import HookRelay.Proofs.Interleaving
import HookRelay.Proofs.Json.Canonical
import HookRelay.Proofs.Json.RoundTrip
import HookRelay.Proofs.Json.Spelling
import HookRelay.Proofs.Ledger.Total
import HookRelay.Proofs.Outbound.Authenticity
import HookRelay.Proofs.Outbound.Handover
import HookRelay.Proofs.Progress
import HookRelay.Proofs.Queue.Lease
import HookRelay.Proofs.Receipt
import HookRelay.Proofs.Record.Budget
import HookRelay.Proofs.Record.Lifecycle
import HookRelay.Proofs.Record.Rank
import HookRelay.Proofs.Removal.Managed
import HookRelay.Proofs.Rotation.Grace
import HookRelay.Proofs.Rotation.InPlace
import HookRelay.Proofs.Schedule.Conclusion
import HookRelay.Proofs.Sql.Recording
import HookRelay.Proofs.Sql.Storage
import HookRelay.Proofs.Stranding
import HookRelay.Proofs.Verification
import HookRelay.Service.Router
import HookRelay.Sql.Database
import HookRelay.Sql.Schema
import HookRelay.Sql.Store
import HookRelay.Sweep
