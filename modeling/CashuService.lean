import CashuService.Base.RustStd
import CashuService.Base.Fallible
import CashuService.Base.BTreeMap
import CashuService.Base.StepRun
import CashuService.Base.KeyedRun
import CashuService.Base.SplitBalance
import CashuService.Base.TwoRuns
import CashuService.Base.Process
import CashuService.Base.Transaction
import CashuService.Base.Rounding
import CashuService.Base.Newest
import CashuService.Base.Serde
import CashuService.Base.Cdk
import CashuService.Base.AtomicObject
import CashuService.Base.Threads
import CashuService.Base.FileSystem
import CashuService.Base.Relocation
import CashuService.Credit.Protocol
import CashuService.Credit.Ledger
import CashuService.Credit.Account
import CashuService.Credit.Effect
import CashuService.Credit.Step
import CashuService.Credit.Coherent
import CashuService.Credit.Growth
import CashuService.Credit.Preservation
import CashuService.Credit.Snapshot
import CashuService.Credit.EventReplay
import CashuService.Credit.Validation
import CashuService.Credit.Restore
import CashuService.Credit.Runs
import CashuService.Credit.Revision
import CashuService.Credit.History
import CashuService.Credit.Determined
import CashuService.Credit.OfflineCredit
import CashuService.Credit.Settlement
import CashuService.Credit.Idempotence
import CashuService.Credit.Creation
import CashuService.Credit.Isolation
import CashuService.Credit.Order
import CashuService.Credit.Acceptance
import CashuService.Store.CreditStore
import CashuService.Store.Claims
import CashuService.Store.Sessions
import CashuService.Store.Restart
import CashuService.Spilman.Envelope
import CashuService.Spilman.Policy
import CashuService.Spilman.RoutePayment
import CashuService.Spilman.ClientStore
import CashuService.Wallet.Seed
import CashuService.Wallet.SeedSafety
import CashuService.Wallet.CrossMint
import CashuService.Wallet.CashuSettlement
import CashuService.Wallet.Transfer
import CashuService.Wallet.TransferSafety
import CashuService.Wallet.TransferRuns
import CashuService.Wallet.Proofs
import CashuService.Wallet.Activity
import CashuService.Wallet.ActivityLoad
import CashuService.Wallet.SettlementRuns
import CashuService.Wallet.Service
import CashuService.Wallet.ServiceRuns
import CashuService.Wallet.Preserve
import CashuService.Wallet.PreserveSafety
import CashuService.Wallet.PreserveRuns
import CashuService.Simulation.Network
import CashuService.Simulation.Conservation
import CashuService.Simulation.Status
import CashuService.Simulation.Clock
import CashuService.Client.PrivateFile
import CashuService.Client.SpilmanClient
import CashuService.Client.SpilmanSessions
import CashuService.Client.SpilmanSpecs
import CashuService.Client.SpilmanRuns
import CashuService.Client.SpilmanRefund
import CashuService.Client.SpilmanRefundRuns
import CashuService.Client.SpilmanOpening
import CashuService.Client.SpilmanOpeningRuns
