import Boltz.Consts.Enums
import Boltz.Db.Table

/-!
# Rows (`lib/db/models`)

An instance keeps the values it was read with. `instance.update(values)` writes only the
fields whose value differs from the one in memory, so a field that another task changed in the
meantime is overwritten exactly when the update changes it in memory too.
-/

namespace Boltz

/-- The stored value after an instance with the value `old` was saved with `new`. -/
def saved {α : Type} [DecidableEq α] (old new stored : α) : α := if new = old then stored else new

@[simp] theorem saved_self {α : Type} [DecidableEq α] (a stored : α) : saved a a stored = stored :=
  if_pos rfl

theorem saved_of_ne {α : Type} [DecidableEq α] {old new : α} (h : new ≠ old) (stored : α) :
    saved old new stored = new := if_neg h

theorem saved_cases {α : Type} [DecidableEq α] (old new stored : α) :
    saved old new stored = stored ∨ saved old new stored = new := by
  unfold saved
  split <;> simp

/-- A submarine swap. `chainCurrency` is what the getter of that name computes from the pair. -/
structure Swap where
  preimageHash : Nat
  invoice : Option Nat
  version : SwapVersion
  chainCurrency : Currency
  lockupAddress : Nat
  timeoutBlockHeight : Nat
  acceptZeroConf : Bool
  expectedAmount : Option Nat
  status : SwapUpdateEvent
  failureReason : Option SwapError
  onchainAmount : Option Nat
  lockupTransactionId : Option Nat
  lockupTransactionVout : Option Nat
  refundAddress : Option Nat
  rate : Option Nat
  preimage : Option Nat
  routingFee : Option Nat
  minerFee : Option Nat
  createdRefundSignature : Bool
  referral : Option Nat := none
  deriving DecidableEq, Repr

def Swap.save (old new stored : Swap) : Swap :=
  { stored with
    status := saved old.status new.status stored.status
    failureReason := saved old.failureReason new.failureReason stored.failureReason
    refundAddress := saved old.refundAddress new.refundAddress stored.refundAddress
    rate := saved old.rate new.rate stored.rate
    preimage := saved old.preimage new.preimage stored.preimage
    routingFee := saved old.routingFee new.routingFee stored.routingFee
    minerFee := saved old.minerFee new.minerFee stored.minerFee }

structure ReverseSwap where
  preimageHash : Nat
  invoice : Nat
  minerFeeInvoice : Option Nat
  minerFeeInvoicePreimage : Option Nat
  version : SwapVersion
  chainCurrency : Currency
  timeoutBlockHeight : Nat
  onchainAmount : Nat
  status : SwapUpdateEvent
  failureReason : Option SwapError
  transactionId : Option Nat
  transactionVout : Option Nat
  minerFee : Option Nat
  preimage : Option Nat
  deriving DecidableEq, Repr

def ReverseSwap.save (old new stored : ReverseSwap) : ReverseSwap :=
  { stored with
    status := saved old.status new.status stored.status
    failureReason := saved old.failureReason new.failureReason stored.failureReason
    transactionId := saved old.transactionId new.transactionId stored.transactionId
    transactionVout := saved old.transactionVout new.transactionVout stored.transactionVout
    minerFee := saved old.minerFee new.minerFee stored.minerFee
    preimage := saved old.preimage new.preimage stored.preimage }

structure ChainSwapData where
  currency : Currency
  lockupAddress : Nat
  timeoutBlockHeight : Nat
  expectedAmount : Nat
  amount : Option Nat
  fee : Option Nat
  transactionId : Option Nat
  transactionVout : Option Nat
  deriving DecidableEq, Repr

def ChainSwapData.save (old new stored : ChainSwapData) : ChainSwapData :=
  { stored with
    expectedAmount := saved old.expectedAmount new.expectedAmount stored.expectedAmount
    amount := saved old.amount new.amount stored.amount
    fee := saved old.fee new.fee stored.fee
    transactionId := saved old.transactionId new.transactionId stored.transactionId
    transactionVout := saved old.transactionVout new.transactionVout stored.transactionVout }

/-- `ChainSwapInfo`: the swap with its two `ChainSwapData` rows. -/
structure ChainSwap where
  preimageHash : Nat
  acceptZeroConf : Bool
  status : SwapUpdateEvent
  failureReason : Option SwapError
  fee : Option Nat
  preimage : Option Nat
  createdRefundSignature : Bool
  sendingData : ChainSwapData
  receivingData : ChainSwapData
  deriving DecidableEq, Repr

def ChainSwap.save (old new stored : ChainSwap) : ChainSwap :=
  { stored with
    acceptZeroConf := saved old.acceptZeroConf new.acceptZeroConf stored.acceptZeroConf
    status := saved old.status new.status stored.status
    failureReason := saved old.failureReason new.failureReason stored.failureReason
    fee := saved old.fee new.fee stored.fee
    preimage := saved old.preimage new.preimage stored.preimage
    sendingData := old.sendingData.save new.sendingData stored.sendingData
    receivingData := old.receivingData.save new.receivingData stored.receivingData }

structure RefundTransaction where
  id : Nat
  vin : Option Nat
  status : RefundStatus
  deriving DecidableEq, Repr

def RefundTransaction.isFinal (tx : RefundTransaction) : Bool := tx.status == .confirmed

structure LightningPayment where
  preimageHash : Nat
  nodeId : Nat
  status : LightningPaymentStatus
  error : Option PaymentError
  retries : Nat
  deriving DecidableEq, Repr

end Boltz
