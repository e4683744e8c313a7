import Boltz.Swap.PaymentHandler

/-!
# Settlement of swaps in which the server claims (`SwapNursery.ts`)
-/

namespace Boltz

open Async SwapUpdateEvent

def isSettled (status : SwapUpdateEvent) : Bool :=
  status == transactionClaimPending || successSwapUpdateEvents.contains status

/-! ## Claims -/

def claimUtxo (swap : ClaimSwap) (preimage : Nat) : M Unit := do
  if ← DeferredClaimer.deferClaim swap preimage then pure ()
  else
    external -- getAddress and estimateFee
    let claimTransactionFee ← ask Answer.number?
    external -- sendRawTransaction
    storeClaimed swap preimage claimTransactionFee

def claimVtxo (swap : ClaimSwap) (preimage : Nat) : M Unit := do
  external -- claimVHtlc
  storeClaimed swap preimage 0

/-- `claimEther` and `claimERC20`, which differ in the contract only. -/
def claimContract (swap : ClaimSwap) (preimage : Nat) : M Unit := do
  external -- the claim function of the contract handler
  let transactionFee ← ask Answer.number?
  storeClaimed swap preimage transactionFee

def claim (swap : ClaimSwap) (preimage : Nat) : M Unit :=
  match swap.receivingCurrency.type.backend with
  | .utxo => do
    external -- getRawTransaction
    claimUtxo swap preimage
  | .evm => do
    external -- contractsForAddress
    external -- querySwapValuesFromLock
    claimContract swap preimage
  | .ark => claimVtxo swap preimage

/-! ## Settlement -/

/-- A settled swap is not settled again. -/
def fetchSwapForSettlement (swap : ClaimSwap) : M (Option ClaimSwap) :=
  match swap with
  | .submarine swap => do
    let fetched ← SwapRepository.getSwap swap.id (.fetchForPayment swap.id)
    pure ((fetched.filter fun f => !isSettled f.row.status).map .submarine)
  | .chain swap => do
    let fetched ← ChainSwapRepository.getChainSwap swap.id
    pure ((fetched.filter fun f => !isSettled f.row.status).map .chain)

/-- The invoice of a submarine swap is paid for the preimage; in a chain swap the user revealed
it. -/
def preimageForSettlement (swap : ClaimSwap) (preimage : Option Nat) :
    M (ClaimSwap × Option Nat) :=
  match swap with
  | .submarine swap => do
    let (swap, preimage) ← PaymentHandler.payInvoice swap
    pure (.submarine swap, preimage)
  | .chain swap => pure (.chain swap, preimage)

def attemptSettleSwap (swap : ClaimSwap) (preimage : Option Nat) : M Unit := do
  match ← fetchSwapForSettlement swap with
  | none => pure ()
  | some swap =>
    match ← preimageForSettlement swap preimage with
    | (_, none) => pure ()
    | (swap, some preimage) =>
      if ← DeferredClaimer.deferClaim swap preimage then pure () else claim swap preimage

/-! ## Claims of chain swaps by the user -/

/-- The handler of `chainSwap.claimed`. -/
def chainSwapClaimed (swap : Instance ChainSwap) (preimage : Nat) : M Unit :=
  withLock .chainSwap do
    attemptSettleSwap (.chain swap) preimage
    ChainSwapSigner.removeFromClaimable swap.id

/-- The handler of `claim` of the EVM nurseries, for chain swaps. -/
def chainSwapClaimedEvm (swap : Instance ChainSwap) (preimage : Nat) : M Unit :=
  withLock .chainSwap (attemptSettleSwap (.chain swap) preimage)

/-- Whether one of the two legs has the outpoint. -/
def hasOutpoint (s : ChainSwap) (txid vout : Nat) : Bool :=
  [s.sendingData, s.receivingData].any fun d =>
    d.transactionVout == some vout && d.transactionId == some txid

namespace UtxoNursery

def checkChainSwapClaim (input : SpentInput) : M Unit := do
  match ← ChainSwapRepository.getChainSwapWhere fun s =>
      hasOutpoint s input.txid input.index &&
        [transactionServerMempool, transactionServerConfirmed, transactionRefunded].contains
          s.status with
  | none => pure ()
  | some swap =>
    match input.preimage with
    | some preimage => Prog.spawn (chainSwapClaimed swap preimage)
    | none => pure ()

/-- The refund transactions of the server are not claims. -/
def checkSwapClaims (transactionId : Nat) (inputs : List SpentInput) : M Unit := do
  match ← RefundTransactionRepository.getTransaction transactionId with
  | some _ => pure ()
  | none => Prog.forEach inputs fun input => do
    Prog.spawn (checkReverseSwapClaim input)
    checkChainSwapClaim input

end UtxoNursery

/-- `eth.claim` and `erc20.claim`, for the chain swap with the preimage hash. -/
def evmChainClaim (preimageHash preimage : Nat) : M Unit := do
  match ← ChainSwapRepository.getChainSwapWhere fun s =>
      s.preimageHash == preimageHash && s.status != transactionClaimed with
  | none => pure ()
  | some swap =>
    Prog.when (swap.row.sendingData.currency.type.backend = .evm)
      (Prog.spawn (chainSwapClaimedEvm swap preimage))

/-- `checkClaims` of the Ark nursery, for the chain swap with the spent lockup. -/
def arkChainClaim (txid vout preimage : Nat) : M Unit := do
  match ← ChainSwapRepository.getChainSwapWhere fun s =>
      hasOutpoint s txid vout &&
        [transactionServerMempool, transactionServerConfirmed, transactionRefunded].contains
          s.status with
  | none => pure ()
  | some swap =>
    -- the spending transaction may reveal the preimage
    Prog.when (← ask Answer.flag?) (Prog.spawn (chainSwapClaimed swap preimage))

end Boltz
