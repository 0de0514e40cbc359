import SwapDesk.Client.BuyerSafety
import SwapDesk.Client.FlowRecord
import SwapDesk.Client.FlowRecordReader
import SwapDesk.Client.FlowRecordSecrets
import SwapDesk.Client.FlowStoreSafety
import SwapDesk.Client.Journal
import SwapDesk.Client.JournalSafety
import SwapDesk.Client.Ledger
import SwapDesk.Client.Posting
import SwapDesk.Client.RehearsalSafety
import SwapDesk.Client.RunLock
import SwapDesk.Desk.AcceptedLocks
import SwapDesk.Desk.Board
import SwapDesk.Desk.BoardFacts
import SwapDesk.Desk.BoardPairing
import SwapDesk.Desk.BoardPartition
import SwapDesk.Desk.Deadlines
import SwapDesk.Desk.Profile
import SwapDesk.Desk.ProfileCodec
import SwapDesk.Desk.Replay
import SwapDesk.Desk.ReplayIsolation
import SwapDesk.Desk.Swap
import SwapDesk.Desk.SwapFacts
import SwapDesk.Desk.SwapSafety
import SwapDesk.Desk.SwapStability
import SwapDesk.Desk.Types
import SwapDesk.Desk.Window
import SwapDesk.HashRail.Chain
import SwapDesk.HashRail.Contract
import SwapDesk.HashRail.Effects
import SwapDesk.HashRail.Flat
import SwapDesk.HashRail.Safety
import SwapDesk.HashRail.Solvency
import SwapDesk.Lib.BitcoinScript
import SwapDesk.Lib.BitcoinTx
import SwapDesk.Lib.Bytes
import SwapDesk.Lib.ChangeLog
import SwapDesk.Lib.Check
import SwapDesk.Lib.Coverage
import SwapDesk.Lib.Double
import SwapDesk.Lib.Early
import SwapDesk.Lib.Hex
import SwapDesk.Lib.Htlc
import SwapDesk.Lib.HtlcWall
import SwapDesk.Lib.Insertion
import SwapDesk.Lib.Json
import SwapDesk.Lib.JsonLeaves
import SwapDesk.Lib.JsonPretty
import SwapDesk.Lib.JsonSyntax
import SwapDesk.Lib.JsonText
import SwapDesk.Lib.Machine
import SwapDesk.Lib.OrdMap
import SwapDesk.Lib.Pool
import SwapDesk.Lib.Radix
import SwapDesk.Lib.Replace
import SwapDesk.Lib.Routine
import SwapDesk.Lib.Runs
import SwapDesk.Lib.Separated
import SwapDesk.Lib.Serving
import SwapDesk.Lib.Snapshot
import SwapDesk.Near.Contract
import SwapDesk.Near.History
import SwapDesk.Near.Htlc
import SwapDesk.Near.Invariant
import SwapDesk.Near.Safety
import SwapDesk.Near.System
import SwapDesk.Near.Text
import SwapDesk.Near.Transfer
import SwapDesk.Rails.AccountLineCodec
import SwapDesk.Rails.AccountLineFormat
import SwapDesk.Rails.AccountLineText
import SwapDesk.Rails.AccountResolution
import SwapDesk.Rails.BtcClaimSearch
import SwapDesk.Rails.BtcConfig
import SwapDesk.Rails.BtcEvidence
import SwapDesk.Rails.BtcFee
import SwapDesk.Rails.BtcFreshEvidence
import SwapDesk.Rails.BtcRecovery
import SwapDesk.Rails.BtcScript
import SwapDesk.Rails.BtcSoundness
import SwapDesk.Rails.BtcSpend
import SwapDesk.Rails.BtcVsize
import SwapDesk.Rails.Capture
import SwapDesk.Rails.EvmConfig
import SwapDesk.Rails.EvmEvidence
import SwapDesk.Rails.EvmLockAbsence
import SwapDesk.Rails.EvmLogScan
import SwapDesk.Rails.EvmSoundness
import SwapDesk.Rails.HexBytes
import SwapDesk.Rails.NearBorsh
import SwapDesk.Rails.NearConfig
import SwapDesk.Rails.NearCounterRail
import SwapDesk.Rails.NearEvidence
import SwapDesk.Rails.NearRecovery
import SwapDesk.Rails.NearRef
import SwapDesk.Rails.NearSoundness
import SwapDesk.Rails.ProofBinding
import SwapDesk.Rails.Recorded
import SwapDesk.Rails.SolAccounts
import SwapDesk.Rails.SolClaim
import SwapDesk.Rails.SolClaimSearch
import SwapDesk.Rails.SolConfig
import SwapDesk.Rails.SolEvidence
import SwapDesk.Rails.SolKeys
import SwapDesk.Rails.SolLanding
import SwapDesk.Rails.SolRecovery
import SwapDesk.Rails.SolSoundness
import SwapDesk.Rails.SolTx
import SwapDesk.Rails.SolWire
import SwapDesk.Sol.Effects
import SwapDesk.Sol.Htlc
import SwapDesk.Sol.Invariant
import SwapDesk.Sol.Layout
import SwapDesk.Sol.Program
import SwapDesk.Sol.Reference
import SwapDesk.Sol.Safety
import SwapDesk.Sol.System
import SwapDesk.Watcher.Emission
import SwapDesk.Watcher.Nonces
