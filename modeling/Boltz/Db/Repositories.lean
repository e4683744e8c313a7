import Boltz.World

/-!
# Repositories (`lib/db/repositories`)
-/

namespace Boltz

open Async SwapUpdateEvent

/-! ## Submarine swaps -/

namespace SwapRepository

def lockupNonUpdatableStatuses : List SwapUpdateEvent :=
  [invoicePending, invoicePaid, invoiceFailedToPay, transactionClaimPending, transactionClaimed,
    swapExpired]

def getSwap (id : Nat) (l : Label := .other) : M (Option (Instance Swap)) :=
  read (fun w => w.swaps.byId id) l

def getSwapWhere (p : Swap → Bool) : M (Option (Instance Swap)) := read fun w => w.swaps.find p

def getSwaps (p : Swap → Bool) : M (List (Instance Swap)) := read fun w => w.swaps.all p

def getSwapsExpirable (height : Nat) : M (List (Instance Swap)) :=
  getSwaps fun s =>
    !([swapExpired, invoiceFailedToPay, transactionClaimed].contains s.status) &&
      decide (s.timeoutBlockHeight ≤ height)

/-- `swap.update(values)`. -/
def update (swap : Instance Swap) (values : Swap → Swap) (l : Label := .other) :
    M (Instance Swap) := do
  write (fun w => { w with swaps := w.swaps.modify swap.id (swap.row.save (values swap.row)) }) l
  pure ⟨swap.id, values swap.row⟩

def setSwapStatus (swap : Instance Swap) (status : SwapUpdateEvent)
    (failureReason : Option SwapError := none) (l : Label := .other) : M (Instance Swap) :=
  update swap (fun s =>
    { s with status, failureReason := s.failureReason.or failureReason }) l

/-- What the transaction of `setLockupTransaction` stores in the row. -/
def lockupWrite (row : Swap) (incoming : LockupIdentity) (onchainAmount : Nat)
    (status : SwapUpdateEvent) : LockupWriteOutcome × Swap :=
  let decision := decideLockupWrite (storedLockup row.lockupTransactionId row.lockupTransactionVout)
    incoming row.status status (!lockupNonUpdatableStatuses.contains row.status)
  (decision.outcome,
    if decision.write then
      { row with
        status
        onchainAmount := some onchainAmount
        lockupTransactionId := some incoming.transactionId
        lockupTransactionVout := decision.vout }
    else row)

/-- A lockup is stored with one of its statuses, and only while it can be updated. -/
theorem lockupWrite_status (s : Swap) (incoming : LockupIdentity) (amount : Nat)
    (status : SwapUpdateEvent) :
    (lockupWrite s incoming amount status).2.status = s.status ∨
      (s.status ∉ lockupNonUpdatableStatuses ∧
        (lockupWrite s incoming amount status).2.status = status) := by
  by_cases hclosed : s.status ∈ lockupNonUpdatableStatuses
  · refine .inl ?_
    have hcontains : lockupNonUpdatableStatuses.contains s.status = true :=
      List.contains_iff_mem.mpr hclosed
    unfold lockupWrite
    dsimp only
    rw [hcontains, Bool.not_true, decideLockupWrite_of_not_updatable]
    rfl
  · unfold lockupWrite
    dsimp only
    split
    · exact .inr ⟨hclosed, rfl⟩
    · exact .inl rfl

def setLockupTransaction (swap : Instance Swap) (incoming : LockupIdentity) (onchainAmount : Nat)
    (status : SwapUpdateEvent) : M (LockupWriteOutcome × Instance Swap) := do
  let outcome ← Prog.call
    { label := .other
      run := fun _ w _ => match w.swaps.get swap.id with
        | none => some (LockupWriteOutcome.rejected, w)
        | some row =>
          let r := lockupWrite row incoming onchainAmount status
          some (r.1, { w with swaps := w.swaps.modify swap.id fun _ => r.2 }) }
  let fetched ← getSwap swap.id
  pure (outcome, fetched.getD swap)

/-- What the transaction of `setZeroConfRejected` stores in the row. -/
def zeroConfRejectedWrite (row : Swap) (incoming : LockupIdentity) : Swap :=
  if shouldWriteZeroConfRejection (storedLockup row.lockupTransactionId row.lockupTransactionVout)
      incoming row.status then
    { row with status := transactionZeroConfRejected }
  else row

def setZeroConfRejected (swap : Instance Swap) (incoming : LockupIdentity) :
    M (Instance Swap) := do
  write fun w => { w with swaps := w.swaps.modify swap.id (zeroConfRejectedWrite · incoming) }
  let fetched ← getSwap swap.id
  pure (fetched.getD swap)

def setRefundAddress (swap : Instance Swap) (refundAddress : Nat) : M (Instance Swap) :=
  update swap fun s => { s with refundAddress := some refundAddress }

def setRate (swap : Instance Swap) (rate : Nat) : M (Instance Swap) :=
  update swap fun s => { s with rate := some rate }

def setInvoicePaid (swap : Instance Swap) (routingFee preimage : Nat) : M (Instance Swap) :=
  update swap fun s =>
    { s with
      preimage := some preimage
      routingFee := some routingFee
      failureReason := none
      status := invoicePaid }

def setMinerFee (swap : Instance Swap) (minerFee : Nat) : M (Instance Swap) :=
  update swap fun s => { s with minerFee := some minerFee, status := transactionClaimed }

def setRefundSignatureCreated (id : Nat) (l : Label := .other) : M Unit :=
  write (fun w =>
    { w with swaps := w.swaps.modify id fun s => { s with createdRefundSignature := true } }) l

end SwapRepository

/-! ## Reverse swaps -/

namespace ReverseSwapRepository

def getReverseSwap (id : Nat) (l : Label := .other) : M (Option (Instance ReverseSwap)) :=
  read (fun w => w.reverseSwaps.byId id) l

def getReverseSwapWhere (p : ReverseSwap → Bool) (l : Label := .other) :
    M (Option (Instance ReverseSwap)) :=
  read (fun w => w.reverseSwaps.find p) l

def getReverseSwaps (p : ReverseSwap → Bool) : M (List (Instance ReverseSwap)) :=
  read fun w => w.reverseSwaps.all p

def getReverseSwapsExpirable (height : Nat) : M (List (Instance ReverseSwap)) :=
  getReverseSwaps fun s =>
    !([swapExpired, transactionFailed, transactionRefunded, invoiceSettled].contains s.status) &&
      decide (s.timeoutBlockHeight ≤ height)

/-- `reverseSwap.update(values)`. -/
def update (swap : Instance ReverseSwap) (values : ReverseSwap → ReverseSwap)
    (l : Label := .other) : M (Instance ReverseSwap) := do
  write (fun w =>
    { w with
      reverseSwaps := w.reverseSwaps.modify swap.id (swap.row.save (values swap.row)) }) l
  pure ⟨swap.id, values swap.row⟩

def setInvoiceSettled (swap : Instance ReverseSwap) (preimage : Nat) :
    M (Instance ReverseSwap) :=
  update swap fun s => { s with preimage := some preimage, status := invoiceSettled }

end ReverseSwapRepository

/-! ## Chain swaps -/

namespace ChainSwapRepository

/-- `UserLockupTransactionOptions`. -/
structure Options where
  allowLockupFailedUpdate : Bool := false
  deriving DecidableEq, Repr

def defaultUserLockupTransactionStatuses : List SwapUpdateEvent :=
  [swapCreated, transactionMempool, transactionZeroConfRejected, transactionConfirmed]

def getUserLockupTransactionStatuses (options : Options) : List SwapUpdateEvent :=
  if options.allowLockupFailedUpdate then
    defaultUserLockupTransactionStatuses ++ [transactionLockupFailed]
  else defaultUserLockupTransactionStatuses

def canActOnUserLockup (swap : ChainSwap) (options : Options) : Bool :=
  swap.status != transactionLockupFailed || options.allowLockupFailedUpdate

def getChainSwap (id : Nat) (l : Label := .other) : M (Option (Instance ChainSwap)) :=
  read (fun w => w.chainSwaps.byId id) l

def getChainSwapWhere (p : ChainSwap → Bool) : M (Option (Instance ChainSwap)) :=
  read fun w => w.chainSwaps.find p

def getChainSwaps (p : ChainSwap → Bool) : M (List (Instance ChainSwap)) :=
  read fun w => w.chainSwaps.all p

/-- Both legs are queried for the timeout, but only the sending leg for the symbol. -/
def getChainSwapsExpirable (symbols : Currency → Bool) (blockHeight : Nat) :
    M (List (Instance ChainSwap)) :=
  getChainSwaps fun s =>
    [s.sendingData, s.receivingData].any (fun d =>
        symbols d.currency && decide (d.timeoutBlockHeight ≤ blockHeight)) &&
      !(finalChainSwapEvents ++ [transactionClaimPending]).contains s.status &&
      symbols s.sendingData.currency

/-- `chainSwap.update(values)` and the updates of its two data rows. -/
def update (swap : Instance ChainSwap) (values : ChainSwap → ChainSwap) (l : Label := .other) :
    M (Instance ChainSwap) := do
  write (fun w =>
    { w with chainSwaps := w.chainSwaps.modify swap.id (swap.row.save (values swap.row)) }) l
  pure ⟨swap.id, values swap.row⟩

def setRefundSignatureCreated (id : Nat) (l : Label := .other) : M Unit :=
  write (fun w =>
    { w with
      chainSwaps := w.chainSwaps.modify id fun s => { s with createdRefundSignature := true } }) l

/-- What the transaction of `setUserLockupTransaction` stores in the row. -/
def userLockupWrite (row : ChainSwap) (incoming : LockupIdentity) (onchainAmount : Nat)
    (status : SwapUpdateEvent) (options : Options) : LockupWriteOutcome × ChainSwap :=
  let updatable := (getUserLockupTransactionStatuses options).contains row.status
  let decision := decideLockupWrite
    (storedLockup row.receivingData.transactionId row.receivingData.transactionVout)
    incoming row.status status updatable
  (decision.outcome,
    if decision.write then
      { row with
        status
        receivingData :=
          { row.receivingData with
            amount := some onchainAmount
            transactionId := some incoming.transactionId
            transactionVout := decision.vout } }
    else row)

@[simp] theorem userLockupWrite_sendingData (row : ChainSwap) (incoming : LockupIdentity)
    (onchainAmount : Nat) (status : SwapUpdateEvent) (options : Options) :
    (userLockupWrite row incoming onchainAmount status options).2.sendingData =
      row.sendingData := by
  unfold userLockupWrite
  dsimp only
  split <;> rfl

/-- Outside the statuses of user lockups nothing is written. -/
theorem userLockupWrite_of_not_updatable {row : ChainSwap} {incoming : LockupIdentity}
    {onchainAmount : Nat} {status : SwapUpdateEvent} {options : Options}
    (h : (getUserLockupTransactionStatuses options).contains row.status = false) :
    (userLockupWrite row incoming onchainAmount status options).2 = row := by
  unfold userLockupWrite
  dsimp only
  rw [h, decideLockupWrite_of_not_updatable]
  rfl

def setUserLockupTransaction (swap : Instance ChainSwap) (incoming : LockupIdentity)
    (onchainAmount : Nat) (status : SwapUpdateEvent) (options : Options) :
    M (LockupWriteOutcome × Instance ChainSwap) := do
  let outcome ← Prog.call
    { label := .other
      run := fun _ w _ => match w.chainSwaps.get swap.id with
        | none => some (LockupWriteOutcome.rejected, w)
        | some row =>
          let r := userLockupWrite row incoming onchainAmount status options
          some (r.1, { w with chainSwaps := w.chainSwaps.modify swap.id fun _ => r.2 }) }
  let fetched ← getChainSwap swap.id
  pure (outcome, fetched.getD swap)

/-- What the transaction of `setZeroConfRejected` stores in the row. -/
def zeroConfRejectedWrite (row : ChainSwap) (incoming : LockupIdentity) : ChainSwap :=
  if shouldWriteZeroConfRejection
      (storedLockup row.receivingData.transactionId row.receivingData.transactionVout)
      incoming row.status then
    { row with status := transactionZeroConfRejected }
  else row

theorem zeroConfRejectedWrite_cases (row : ChainSwap) (incoming : LockupIdentity) :
    zeroConfRejectedWrite row incoming = row ∨ (row.status = transactionMempool ∧
      zeroConfRejectedWrite row incoming = { row with status := transactionZeroConfRejected }) := by
  unfold zeroConfRejectedWrite
  split
  · rename_i h
    exact .inr ⟨(of_shouldWriteZeroConfRejection h).1, rfl⟩
  · exact .inl rfl

@[simp] theorem zeroConfRejectedWrite_sendingData (row : ChainSwap) (incoming : LockupIdentity) :
    (zeroConfRejectedWrite row incoming).sendingData = row.sendingData := by
  unfold zeroConfRejectedWrite
  split <;> rfl

def setZeroConfRejected (swap : Instance ChainSwap) (incoming : LockupIdentity) :
    M (Instance ChainSwap) := do
  write (fun w =>
      { w with chainSwaps := w.chainSwaps.modify swap.id (zeroConfRejectedWrite · incoming) })
    (.setZeroConfRejected swap.id)
  let fetched ← getChainSwap swap.id
  pure (fetched.getD swap)

def setExpectedAmounts (swap : Instance ChainSwap) (fee userLockAmount serverLockAmount : Nat)
    (acceptZeroConf : Bool) : M (Instance ChainSwap) :=
  update swap fun s =>
    { s with
      fee := some fee
      failureReason := none
      acceptZeroConf
      receivingData := { s.receivingData with expectedAmount := userLockAmount }
      sendingData := { s.sendingData with expectedAmount := serverLockAmount } }

def setTransactionClaimPending (swap : Instance ChainSwap) (preimage : Nat) :
    M (Instance ChainSwap) :=
  update swap (fun s => { s with preimage := some preimage, status := transactionClaimPending })
    (.settleChainSwap swap.id)

def setClaimMinerFee (swap : Instance ChainSwap) (preimage minerFee : Nat) :
    M (Instance ChainSwap) :=
  update swap (fun s =>
    { s with
      status := transactionClaimed
      preimage := some preimage
      receivingData := { s.receivingData with fee := some minerFee } }) (.settleChainSwap swap.id)

end ChainSwapRepository

/-! ## Swaps in which the server locks up -/

namespace WrappedSwapRepository

def update (swap : ServerSwap) (onReverse : ReverseSwap → ReverseSwap)
    (onChain : ChainSwap → ChainSwap) (l : Label := .other) : M ServerSwap := do
  match swap with
  | .reverse swap => pure (.reverse (← ReverseSwapRepository.update swap onReverse l))
  | .chain swap => pure (.chain (← ChainSwapRepository.update swap onChain l))

def setStatus (swap : ServerSwap) (status : SwapUpdateEvent)
    (failureReason : Option SwapError := none) (l : Label := .other) : M ServerSwap :=
  update swap
    (fun s => { s with status, failureReason := s.failureReason.or failureReason })
    (fun s => { s with status, failureReason := s.failureReason.or failureReason }) l

def setServerLockupTransaction (swap : ServerSwap) (transactionId onchainAmount fee : Nat)
    (vout : Option Nat) : M ServerSwap :=
  update swap
    (fun s =>
      { s with
        transactionId := some transactionId
        minerFee := some fee
        transactionVout := vout.or s.transactionVout
        status := transactionMempool })
    (fun s =>
      { s with
        status := transactionServerMempool
        sendingData :=
          { s.sendingData with
            transactionId := some transactionId
            fee := some fee
            transactionVout := vout.or s.sendingData.transactionVout
            amount := some onchainAmount } })

def setPreimage (swap : ServerSwap) (preimage : Nat) : M ServerSwap :=
  update swap (fun s => { s with preimage := some preimage })
    (fun s => { s with preimage := some preimage })

def setTransactionRefunded (swap : ServerSwap) (minerFee : Nat) (failureReason : SwapError) :
    M ServerSwap :=
  update swap
    (fun s =>
      { s with
        failureReason := some failureReason
        status := transactionRefunded
        minerFee := some (s.minerFee.getD 0 + minerFee) })
    (fun s =>
      { s with
        failureReason := some failureReason
        status := transactionRefunded
        sendingData :=
          { s.sendingData with fee := some (s.sendingData.fee.getD 0 + minerFee) } })

end WrappedSwapRepository

/-! ## Holds, refunds and payments -/

namespace SendApprovalHoldRepository

/-- `findOrCreate`. -/
def create (swapId : Nat) (type : SwapType) : M Unit :=
  write fun w =>
    match w.sendApprovalHolds.get swapId with
    | some _ => w
    | none => { w with sendApprovalHolds := w.sendApprovalHolds.put swapId type }

def getAll : M (List (Instance SwapType)) := read fun w => w.sendApprovalHolds.all fun _ => true

def «exists» (swapId : Nat) : M Bool := read fun w => (w.sendApprovalHolds.get swapId).isSome

def remove (swapId : Nat) : M Unit :=
  write fun w => { w with sendApprovalHolds := w.sendApprovalHolds.erase swapId }

end SendApprovalHoldRepository

namespace RefundTransactionRepository

/-- `upsert` with the status `Pending`. -/
def addTransaction (swapId id : Nat) (vin : Option Nat) : M RefundTransaction := do
  let tx : RefundTransaction := ⟨id, vin, .pending⟩
  write fun w => { w with refundTransactions := w.refundTransactions.put swapId tx }
  pure tx

def setStatusConfirmedIfPending (swapId : Nat) : M Bool :=
  Prog.call
    { label := .other
      run := fun _ w _ =>
        if (w.refundTransactions.get swapId).any (·.status == .pending) then
          some (true, { w with refundTransactions :=
            w.refundTransactions.modify swapId fun tx => { tx with status := .confirmed } })
        else some (false, w) }

def getTransactionForSwap (swapId : Nat) : M (Option RefundTransaction) :=
  read fun w => w.refundTransactions.get swapId

def getTransaction (id : Nat) : M (Option (Instance RefundTransaction)) :=
  read fun w => w.refundTransactions.find fun tx => tx.id == id

def getPendingTransactions : M (List (Instance RefundTransaction)) :=
  read fun w => w.refundTransactions.all fun tx => tx.status == .pending

end RefundTransactionRepository

end Boltz
