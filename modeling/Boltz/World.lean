import Boltz.Async.Rely
import Boltz.Db.LockupIdentity
import Boltz.Db.Models

/-!
# The shared state of the backend and its atomic steps

Everything that two tasks can both see: the tables, the locks and the maps in memory. Each
repository call and each call of a node, a wallet or a hook is one atomic step. Repository
calls succeed; what a call to the outside returns is the answer of its step.
-/

namespace Boltz

open Async

/-! ## Swaps of two types -/

/-- `ReverseSwap | ChainSwapInfo`: the swaps in which the server locks up coins. -/
inductive ServerSwap where
  | reverse (swap : Instance ReverseSwap)
  | chain (swap : Instance ChainSwap)
  deriving DecidableEq, Repr

namespace ServerSwap

def id : ServerSwap → Nat
  | reverse swap => swap.id
  | chain swap => swap.id

def type : ServerSwap → SwapType
  | reverse _ => .reverseSubmarine
  | chain _ => .chain

/-- The currency the server locks up. -/
def refundCurrency : ServerSwap → Currency
  | reverse swap => swap.row.chainCurrency
  | chain swap => swap.row.sendingData.currency

def serverLockupTransactionId : ServerSwap → Option Nat
  | reverse swap => swap.row.transactionId
  | chain swap => swap.row.sendingData.transactionId

end ServerSwap

/-- `Swap | ChainSwapInfo`: the swaps in which the server claims coins. -/
inductive ClaimSwap where
  | submarine (swap : Instance Swap)
  | chain (swap : Instance ChainSwap)
  deriving DecidableEq, Repr

namespace ClaimSwap

def id : ClaimSwap → Nat
  | submarine swap => swap.id
  | chain swap => swap.id

def type : ClaimSwap → SwapType
  | submarine _ => .submarine
  | chain _ => .chain

def status : ClaimSwap → SwapUpdateEvent
  | submarine swap => swap.row.status
  | chain swap => swap.row.status

def version : ClaimSwap → SwapVersion
  | submarine swap => swap.row.version
  | chain _ => .taproot

/-- The currency the user locked up. -/
def receivingCurrency : ClaimSwap → Currency
  | submarine swap => swap.row.chainCurrency
  | chain swap => swap.row.receivingData.currency

end ClaimSwap

/-! ## Locks, labels and answers -/

/-- The keys of the locks. -/
inductive Lock where
  | swap | reverseSwap | chainSwap
  | retry
  | invoice
  | selfPayment
  | lockupLock
  | swapLockupConfirmation
  | ethereumSwap (id : Nat)
  | vhtlcCreated (address : Nat)
  | reverseSwapClaimSignature
  | refundSignature
  | eipRefundSignature
  | pendingTransactions
  | batchClaim | swapsToClaim
  | chainSwapsToClaim | cooperativeBroadcast
  deriving DecidableEq, Repr

def lockForSwapType : SwapType → Lock
  | .submarine => .swap
  | .reverseSubmarine => .reverseSwap
  | .chain => .chainSwap

/-- What `payInvoice` wants to know about a swap. -/
inductive PaymentQuestion where
  /-- the payments of the preimage hash that are stored -/
  | payments
  /-- the reverse swap with the same preimage hash -/
  | reverseSwap
  | signerDisabled
  | approval
  | timedOut
  /-- what a node says about the payment -/
  | result
  deriving DecidableEq, Repr

/-- Where a labelled step is taken, for the steps that statements about runs refer to. -/
inductive Label where
  | other
  /-- `expireReverseSwap` queries the swap of the event again -/
  | expireReverseSwap (carried : Instance ReverseSwap)
  /-- `expireReverseSwap` sets `SwapExpired` -/
  | setReverseSwapExpired (id : Nat)
  /-- `expireChainSwap` queries the swap of the event again -/
  | expireChainSwap (id : Nat)
  /-- `expireChainSwap` sets `SwapExpired` -/
  | setChainSwapExpired (id : Nat)
  /-- `handleAcceptedInvoice` sets `MinerFeePaid` -/
  | setMinerFeePaid (id : Nat)
  /-- the node accepted the HTLCs of the hold invoice of the reverse swap -/
  | invoiceAccepted (id : Nat)
  /-- `getChainSwapForLockup` queries the swap, with the lock -/
  | loadLockup (id : Nat)
  /-- a `lockup` function calls `wallet.sendToAddress` or locks up in a contract -/
  | beginLockup (swap : ServerSwap)
  /-- that call ends -/
  | sendLockup (swap : ServerSwap)
  /-- `scanPendingTransactions` stores the status of a confirmed or failed lockup -/
  | confirmationTracker (type : SwapType) (id : Nat)
  /-- the handler of `server.lockup.confirmed` stores `TransactionServerConfirmed` -/
  | chainLockupConfirmed (id : Nat)
  /-- the transaction of `ChainSwapRepository.setZeroConfRejected` -/
  | setZeroConfRejected (id : Nat)
  /-- the server stores that it claims the lockup of the user -/
  | settleChainSwap (id : Nat)
  /-- a question of `payInvoice` -/
  | payInvoice (id : Nat) (question : PaymentQuestion)
  /-- `handleSelfPayment` rejects a payment in its checks: of the swap, to the reverse swap -/
  | rejectSelfPayment (id reverseId : Nat)
  /-- `abandonSwap` after `handleSelfPayment` threw -/
  | abandonSelfPayment (id : Nat)
  /-- `abandonSwap` elsewhere -/
  | abandonSwap (id : Nat)
  /-- a swap is fetched by a handler that may pay its invoice -/
  | fetchForPayment (id : Nat)
  /-- `expireSwap` queries the swap again -/
  | expireSwap (id : Nat)
  /-- `lockupFailed` queries the submarine swap again -/
  | lockupFailed (id : Nat)
  /-- `payInvoice` stores `InvoicePending` -/
  | setInvoicePending (id : Nat)
  /-- `PendingPaymentTracker.sendPayment` is called -/
  | sendPayment (id : Nat)
  /-- a checker of the sidecar fails the swap, when it still matches -/
  | updateStatusIfMatches (id : Nat)
  /-- `setSwapInvoice` queries the swap again, with the lock -/
  | fetchForInvoice (id : Nat)
  /-- `setSwapInvoice` stores the invoice through the swap it queried -/
  | setInvoice (carried : Instance Swap) (expectedAmount : Nat) (acceptZeroConf : Bool)
  /-- `setSwapInvoice` is done; `stored` is the row that the invoice was stored in -/
  | invoiceSet (id : Nat) (stored : Option Swap) (expectedAmount : Nat) (acceptZeroConf : Bool)
  /-- `signRefund` or `signRefundArk` reads the swap -/
  | signRefund (type : SwapType) (id : Nat)
  /-- the eligibility check of a signing call passed -/
  | refundEligible (type : SwapType) (id : Nat)
  /-- `setRefundSignatureCreated` -/
  | setRefundSignatureCreated (type : SwapType) (id : Nat)
  /-- a signing call returns the signature -/
  | refundSigned (type : SwapType) (id : Nat)
  /-- `signPartial` with the secret nonce -/
  | signPartial (nonce : Nat)
  /-- the broadcast of a cooperative claim that was just signed, and its fee calculation -/
  | broadcastSigned (nonce : Nat)
  deriving DecidableEq

/-- How an attempt to send coins ends. -/
inductive SendResult where
  | sent (transactionId vout fee : Nat)
  /-- the call throws and nothing was broadcast -/
  | failed
  /-- the transaction was broadcast, but the call throws afterwards -/
  | broadcastThenFailed (transactionId : Nat)
  deriving DecidableEq, Repr

def SendResult.broadcast : SendResult → Bool
  | .failed => false
  | _ => true

/-- How the node answers a payment within the time the caller waits. -/
inductive PaymentResult where
  | paid (feeMsat preimage : Nat)
  | failed (e : PaymentError) (permanent : Bool)
  | pending
  deriving DecidableEq, Repr

/-- What the outside answers in a step. -/
inductive Answer where
  | nothing
  | payment (r : PaymentResult)
  | flag (b : Bool)
  | number (n : Nat)
  | maybe (n : Option Nat)
  | send (r : SendResult)
  | approval (a : Option SendApprovalAction)
  deriving DecidableEq, Repr

namespace Answer

def flag? : Answer → Option Bool
  | flag b => some b
  | _ => none

def payment? : Answer → Option PaymentResult
  | payment r => some r
  | _ => none

def number? : Answer → Option Nat
  | number n => some n
  | _ => none

def maybe? : Answer → Option (Option Nat)
  | maybe n => some n
  | _ => none

def send? : Answer → Option SendResult
  | send r => some r
  | _ => none

def approval? : Answer → Option (Option SendApprovalAction)
  | approval a => some a
  | _ => none

end Answer

/-! ## The state -/

/-- `pendingSendApprovals`: the promise of each swap that waits for a decision. A promise is
named by a number; `decided` holds those that are resolved. -/
structure Approvals where
  pending : Nat → Option Nat := fun _ => none
  decided : Nat → Option SendApprovalAction := fun _ => none
  next : Nat := 0

/-- An object of `swapsToClaim`; `cooperative` names the nonce of its MuSig session. -/
structure ToClaim where
  swap : ClaimSwap
  preimage : Option Nat := none
  cooperative : Option Nat := none

/-- The memory of the two cooperative signers. The maps hold references to the objects, because
objects are taken out of a map and put back while others still hold them. -/
structure Cooperative where
  objects : Nat → Option ToClaim := fun _ => none
  nextObject : Nat := 0
  nextNonce : Nat := 0
  /-- `swapsToClaim` of the deferred claimer -/
  swapsToClaim : Table Nat := .empty
  /-- `chainSwapsToClaim` of the deferred claimer -/
  chainSwapsToClaim : Table Nat := .empty
  /-- `swapsToClaim` of the chain swap signer -/
  claimable : Table Nat := .empty
  /-- the cache of the asset rescue: the nonce of the pending rescue of a swap -/
  rescues : Table Nat := .empty

structure World where
  swaps : Table Swap := .empty
  reverseSwaps : Table ReverseSwap := .empty
  chainSwaps : Table ChainSwap := .empty
  sendApprovalHolds : Table SwapType := .empty
  refundTransactions : Table RefundTransaction := .empty
  lightningPayments : List LightningPayment := []
  locks : Lock → Option Nat := fun _ => none
  approvals : Approvals := {}
  /-- `pendingTransactions` of the confirmation tracker, by transaction hash -/
  tracked : Table ServerSwap := .empty
  scanning : Bool := false
  cooperative : Cooperative := {}
  /-- `deferredClaimSymbols` of the configuration -/
  deferredClaimSymbols : List Nat := []
  /-- `allowedRefunds` of the MuSig signer -/
  allowedRefunds : List Nat := []
  /-- the output of a transaction that pays the lockup address of a swap: index and value -/
  lockupOutput : SwapType → (swapId transactionId : Nat) → Option (Nat × Nat) := fun _ _ _ => none
  /-- which of the Lightning nodes are CLN nodes -/
  isCln : Nat → Bool := fun _ => false
  /-- `minFinalCltv` of an invoice -/
  minFinalCltv : Nat → Nat := fun _ => 0
  /-- `defaultAction` of the send approval hook -/
  defaultAction : SendApprovalAction := .accept

abbrev M := Prog Label World Answer Error
abbrev History := Hist Label World Answer

/-! ## Steps -/

/-- A step that only looks at the state. -/
def readAct (l : Label) {β : Type} (f : World → β) : Act Label World Answer β :=
  ⟨l, fun _ w _ => some (f w, w)⟩

/-- A step that changes the state. -/
def writeAct (l : Label) (f : World → World) : Act Label World Answer Unit :=
  ⟨l, fun _ w _ => some ((), f w)⟩

/-- A step that asks the outside; it waits until the answer has the right form. -/
def askAct (l : Label) {β : Type} (decode : Answer → Option β) : Act Label World Answer β :=
  ⟨l, fun _ w ω => (decode ω).map (·, w)⟩

def read {β : Type} (f : World → β) (l : Label := .other) : M β := Prog.call (readAct l f)

def write (f : World → World) (l : Label := .other) : M Unit := Prog.call (writeAct l f)

def ask {β : Type} (decode : Answer → Option β) (l : Label := .other) : M β :=
  Prog.call (askAct l decode)

/-- A labelled step that changes nothing. -/
def mark (l : Label) : M Unit := write (fun w => w) l

/-- A free lock is taken. The tasks that wait for a lock have no order here, so there are more
runs than with the queue of `AsyncLock`. -/
def acquireAct (key : Lock) : Act Label World Answer Unit where
  label := .other
  run := fun t w _ =>
    match w.locks key with
    | none => some ((), { w with locks := fun k => if k = key then some t else w.locks k })
    | some _ => none

def releaseAct (key : Lock) : Act Label World Answer Unit where
  label := .other
  run := fun t w _ =>
    if w.locks key = some t then
      some ((), { w with locks := fun k => if k = key then none else w.locks k })
    else some ((), w)

/-- `lock.acquire(key, body)`. -/
def withLock {α : Type} (key : Lock) (body : M α) : M α := do
  Prog.call (acquireAct key)
  body.finally_ (Prog.call (releaseAct key))

/-- A call that may reject, about which nothing but that is modelled. -/
def external : M Unit := do
  let ok ← ask Answer.flag?
  Prog.throwIf (!ok) (.message "external call failed")

end Boltz
