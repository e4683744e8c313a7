import Mathlib.Logic.Basic

/-!
# Statuses and kinds (`lib/consts/Enums.ts`, `lib/swap/Errors.ts`)
-/

namespace Boltz

inductive SwapUpdateEvent where
  | swapCreated | swapExpired
  | invoiceSet | invoicePaid | invoicePending | invoiceSettled | invoiceFailedToPay
  | transactionFailed
  | transactionMempool | transactionClaimPending | transactionClaimed | transactionRefunded
  | transactionConfirmed | transactionLockupFailed | transactionZeroConfRejected
  | transactionDirect
  | transactionServerMempool | transactionServerConfirmed
  | minerFeePaid | invoiceExpired
  deriving DecidableEq, Repr

namespace SwapUpdateEvent

/-- The text of a status in the database. -/
def value : SwapUpdateEvent → String
  | swapCreated => "swap.created"
  | swapExpired => "swap.expired"
  | invoiceSet => "invoice.set"
  | invoicePaid => "invoice.paid"
  | invoicePending => "invoice.pending"
  | invoiceSettled => "invoice.settled"
  | invoiceFailedToPay => "invoice.failedToPay"
  | transactionFailed => "transaction.failed"
  | transactionMempool => "transaction.mempool"
  | transactionClaimPending => "transaction.claim.pending"
  | transactionClaimed => "transaction.claimed"
  | transactionRefunded => "transaction.refunded"
  | transactionConfirmed => "transaction.confirmed"
  | transactionLockupFailed => "transaction.lockupFailed"
  | transactionZeroConfRejected => "transaction.zeroconf.rejected"
  | transactionDirect => "transaction.direct"
  | transactionServerMempool => "transaction.server.mempool"
  | transactionServerConfirmed => "transaction.server.confirmed"
  | minerFeePaid => "minerfee.paid"
  | invoiceExpired => "invoice.expired"

def successSwapUpdateEvents : List SwapUpdateEvent := [invoiceSettled, transactionClaimed]

def failedSwapUpdateEvents : List SwapUpdateEvent :=
  [swapExpired, transactionFailed, transactionLockupFailed, invoiceFailedToPay,
    transactionRefunded]

def finalChainSwapEvents : List SwapUpdateEvent :=
  [swapExpired, transactionFailed, transactionClaimed, transactionRefunded]

end SwapUpdateEvent

inductive SwapType where
  | submarine | reverseSubmarine | chain
  deriving DecidableEq, Repr

inductive OrderSide where
  | buy | sell
  deriving DecidableEq, Repr

inductive CurrencyType where
  | bitcoinLike | ether | erc20 | liquid | ark
  deriving DecidableEq, Repr

/-- Which of the three nurseries watches a chain. -/
inductive Backend where
  | utxo | evm | ark
  deriving DecidableEq, Repr

def CurrencyType.backend : CurrencyType → Backend
  | bitcoinLike | liquid => .utxo
  | ether | erc20 => .evm
  | ark => .ark

inductive SwapVersion where
  | legacy | taproot
  deriving DecidableEq, Repr

/-- `symbol` names the currency, `type` is what the configuration says about it. -/
structure Currency where
  symbol : Nat
  type : CurrencyType
  requiredConfirmations : Nat := 0
  deriving DecidableEq, Repr

inductive SendApprovalAction where
  | accept | reject | hold
  deriving DecidableEq, Repr

inductive RefundStatus where
  | pending | confirmed | failed
  deriving DecidableEq, Repr

inductive LightningPaymentStatus where
  | pending | success | permanentFailure | temporaryFailure
  deriving DecidableEq, Repr

/-- The reasons that `failureReason` of a swap is set to. -/
inductive SwapError where
  | coinsCouldNotBeSent
  | insufficientAmount (actual expected : Nat)
  | overpaidAmount (actual expected : Nat)
  | incorrectAssetSent
  | blockedAddress
  | invalidClaimAddress (actual expected : Nat)
  | invalidTokenLocked (actual expected : Nat)
  | invalidTimelock (actual expected : Nat)
  | invoiceCouldNotBePaid
  | refundedCoins (transactionId : Nat)
  | onchainHtlcTimedOut
  /-- of the checkers of the sidecar -/
  | invoiceExpired
  | swapExpired
  deriving DecidableEq, Repr

def SwapError.message : SwapError → String
  | coinsCouldNotBeSent => "onchain coins could not be sent"
  | insufficientAmount actual expected =>
    s!"locked {actual} is less than expected {expected}"
  | overpaidAmount actual expected => s!"locked {actual} is more than expected {expected}"
  | incorrectAssetSent => "incorrect asset was sent"
  | blockedAddress => "blocked address"
  | invalidClaimAddress actual expected =>
    s!"the specified claim address {actual} is not expected {expected}"
  | invalidTokenLocked actual expected =>
    s!"the locked token {actual} is not expected {expected}"
  | invalidTimelock actual expected =>
    s!"the specified timelock {actual} is not expected {expected}"
  | invoiceCouldNotBePaid => "invoice could not be paid"
  | refundedCoins transactionId => s!"refunded onchain coins: {transactionId}"
  | onchainHtlcTimedOut => "onchain HTLC timed out"
  | invoiceExpired => "invoice expired"
  | swapExpired => "swap expired"

/-- What `PaymentHandler` can tell apart in the error of a payment. -/
inductive PaymentError where
  | cltvTooSmall
  | invoicePaid
  | cltvLimitExceeded
  | invoiceExpired
  | incorrectPaymentDetails
  | paymentTimedOut
  | paymentInTransition
  | other
  deriving DecidableEq, Repr

/-- What a rejected promise carries. -/
inductive Error where
  | message (text : String)
  | payment (e : PaymentError)
  deriving DecidableEq, Repr

end Boltz
