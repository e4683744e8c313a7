import Boltz.Async.Prog
import Boltz.Async.Machine
import Boltz.Async.Rely
import Boltz.Async.Guarded
import Boltz.Consts.Enums
import Boltz.Db.LockupIdentity
import Boltz.Db.Table
import Boltz.Db.Models
import Boltz.World
import Boltz.Db.Repositories
import Boltz.Swap.SendApproval
import Boltz.Service.DeferredClaimer
import Boltz.Swap.ServerLockup
import Boltz.Swap.ReverseSwaps
import Boltz.Swap.ChainSwaps
import Boltz.Swap.PaymentHandler
import Boltz.Swap.Settlement
import Boltz.Swap.SubmarineSwaps
import Boltz.Service.Signers
import Boltz.Service.AssetRescue
import Boltz.Backend
import Boltz.Logic.Acts
import Boltz.Logic.Uses.Lockups
import Boltz.Logic.Uses.Reverse
import Boltz.Logic.Uses.Chain
import Boltz.Logic.Uses.Claims
import Boltz.Logic.Uses.Payments
import Boltz.Logic.Uses.Submarine
import Boltz.Logic.Uses.Requests
import Boltz.Logic.Frames
import Boltz.Logic.Tasks
import Boltz.Logic.Sends
import Boltz.Logic.Rows
import Boltz.Logic.Locked
import Boltz.Logic.Kinds
import Boltz.Safety.Expiry
import Boltz.Safety.LockupOnce
import Boltz.Safety.UserLockup
import Boltz.Logic.Payments
import Boltz.Api.StatusSubscriptions
import Boltz.Rates.LockupTransactionTracker
import Boltz.Safety.LockupOwnership
import Boltz.Swap.Hook
import Boltz.Lightning.PaymentTracker
import Boltz.Service.PubkeyIterator
import Boltz.Service.SwapRescue
import Boltz.Logic.RescueWindows
import Boltz.Safety.RescueScans
import Boltz.Safety.RescueIndex
import Boltz.Service.ClaimBatches
import Boltz.Safety.ClaimConservation
import Boltz.Async.Lasting
import Boltz.Service.ChainSwapClaims
import Boltz.Safety.ClaimPreimages
import Boltz.Swap.HeldSends
import Boltz.Safety.ApprovedSends
import Boltz.Async.Runs
import Boltz.Safety.PaidSwaps
import Boltz.Safety.SettledSwaps
import Boltz.Service.TimeoutDelta
import Boltz.Rates.Quotes
import Boltz.Chain.TipTracking
import Boltz.Chain.Filters
import Boltz.Core.PreimageDetector
import Boltz.Safety.FailedSwaps
import Boltz.Safety.InvoiceSetting
import Boltz.Safety.LockupDeliveries
import Boltz.Caches.Refinement
import Boltz.Sidecar.ChannelBackup
import Boltz.Safety.WebhookDeliveries
import Boltz.Lightning.ClnTracker
import Boltz.Ethereum.ConsolidatedEventHandler
import Boltz.Ethereum.SequentialSigner
import Boltz.Sidecar.WsZeroConfTool
import Boltz.Ethereum.ContractUtils
import Boltz.Ethereum.Commitments
import Boltz.Ethereum.CommitmentSwaps
import Boltz.Ethereum.CommitmentSteps
import Boltz.Safety.CommitmentUse
import Boltz.Safety.ClaimableLockups
import Boltz.Async.Traced
import Boltz.Swap.SendFailures
import Boltz.Safety.FailedLockups
import Boltz.Ethereum.TokenAmounts
import Boltz.Swap.LockupAmounts
import Boltz.Safety.LockupVerdicts
import Boltz.Safety.ForeignKeys
import Boltz.Safety.ScanRanges
import Boltz.Safety.BlindingBalance
import Boltz.Safety.LiquidAmounts
import Boltz.Safety.BitcoinAmounts
import Boltz.Safety.MissedEventChecks
import Boltz.Safety.RefundEligibility
import Boltz.Safety.KnownPayments
import Boltz.Safety.NonceUse
import Boltz.Safety.ConservedAmounts
import Boltz.Safety.ExtraFees
import Boltz.Safety.SuggestedInvoices
import Boltz.Safety.CltvLimits
import Boltz.Safety.RoutableInvoices
import Boltz.Safety.ExpirationIsolation
import Boltz.Safety.SweepIsolation
import Boltz.Safety.WebhookTargets
import Boltz.Safety.TxMatching
import Boltz.Safety.RefundRows
import Boltz.Safety.CommitHandover
import Boltz.Safety.RefundSignatures
import Boltz.Safety.CommitAmounts
import Boltz.Swap.NodeSwitch
import Boltz.Safety.NodeSelection
import Boltz.Api.SwapInfos
import Boltz.Safety.StatusCache
import Boltz.Ethereum.InjectedListener
import Boltz.Safety.EventDelivery
import Boltz.Ethereum.Abi
import Boltz.Ethereum.UniswapV3
import Boltz.Safety.QuotedRoutes
import Boltz.Service.CooperativeBroadcasts
import Boltz.Safety.CooperativeClaims
import Boltz.Sidecar.DatabaseBackup
import Boltz.Safety.CompleteBackups
import Boltz.Core.ScriptMachine
import Boltz.Core.Introspection
import Boltz.Core.SignedInputs
import Boltz.Core.InputScripts
import Boltz.Core.SwapScripts
import Boltz.Safety.HashTimeLocks
import Boltz.Safety.PinnedOutputs
import Boltz.Safety.SpentSwaps
import Boltz.Safety.AcceptedSpends
import Boltz.Core.JointSchnorr
import Boltz.Core.Musig
import Boltz.Safety.JointSignatures
import Boltz.Safety.SigningParticipants
import Boltz.Sidecar.OfferSubscriptions
import Boltz.Safety.OfferRegistry
import Boltz.Safety.OfferOwners
import Boltz.Safety.OfferInvoices
import Boltz.Chain.MempoolSpace
import Boltz.Safety.FeeWaiters
import Boltz.Async.OrderedMap
import Boltz.Ethereum.ConfirmationTracker
import Boltz.Safety.ConfirmedLockups
import Boltz.Chain.ArkSubscription
import Boltz.Safety.ArkStreams
import Boltz.Api.MessageLimit
import Boltz.Safety.EstimatedFees
import Boltz.Core.KeyedFolds
import Boltz.Lightning.Gossip
import Boltz.Safety.GossipGraph
import Boltz.Core.Factors
import Boltz.Rates.DataAggregator
import Boltz.Safety.FetchedRates
