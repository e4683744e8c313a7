import Boltz.Async.Transitions
import Boltz.Ethereum.Commitments
import Mathlib.Logic.Function.Basic

/-!
# Swaps with commitments (`Commitments.ts`, `EipSigner.ts`, `EthereumNursery.ts`, `SwapNursery.ts`)

Commits and both kinds of refund signatures hold one lock, so at most one of them runs (`call`).
Lockup events go through the event handler to the listeners of the nursery, whose checks of a lockup
are an answer (`valid`). The locks of the swap nursery order its handlers; here they run in any
order. A step is one read or write of the database or one answer of a node. `history` has the newest
event first.
-/

namespace Boltz.Ethereum

open Async SwapUpdateEvent
open ConsolidatedEventHandler (LockupName Log Receipt LockupEventEntry)

set_option linter.unusedSectionVars false

/-! ## Calls under the refund signature lock -/

structure CommitLockup where
  swap : UserSwap
  contract : Contract
  lockup : LockupEvent
  deriving DecidableEq, Repr

inductive CommitPhase where
  | begun
  | loaded (swap : UserSwap)
  | found (c : CommitLockup)
  | checked (c : CommitLockup) (commitment : Commitment)
  /-- The row is stored. -/
  | created (c : CommitLockup) (commitment : Commitment)
  | fetched (c : CommitLockup) (commitment : Commitment)
  deriving DecidableEq, Repr

inductive RefundRequest where
  | swap (id : Nat)
  | commitment (request : CommitmentRefundRequest)
  deriving DecidableEq, Repr

/-- What is signed. -/
structure RefundTarget where
  contract : Contract
  lockup : LockupEvent
  transactionHash : Nat
  deriving DecidableEq, Repr

inductive RefundPhase where
  | begun
  | found (target : RefundTarget)
  | loaded (id : Nat) (swap : UserSwap) (target : Option RefundTarget)
  | eligible (id : Nat) (swap : UserSwap)
  | ready (id : Option Nat) (target : RefundTarget)
  | flagged (id : Option Nat) (target : RefundTarget)
  | marked (id : Option Nat) (target : RefundTarget)
  deriving DecidableEq, Repr

/-- The swap that the call read the row of. -/
def RefundPhase.swapId : RefundPhase → Option Nat
  | begun | found _ => none
  | loaded id _ _ | eligible id _ => some id
  | ready id _ | flagged id _ | marked id _ => id

inductive Call where
  | commit (number : Nat) (request : CommitRequest) (phase : CommitPhase)
  | refund (request : RefundRequest) (phase : RefundPhase)

/-! ## Tasks of the nurseries -/

/-- `processLockup`, with the row as the listener read it. -/
structure LockupTask where
  id : Nat
  row : UserSwap
  entry : LockupEventEntry SwapValues

inductive HandlerPhase where
  | waiting
  /-- Chain swaps are loaded once before the send approval. -/
  | approved
  | fetched (lockup : Option LockupIdentity)
  | settling (status : SwapUpdateEvent) (lockup : Option LockupIdentity)
  | pending (lockup : Option LockupIdentity)
  | sent
  deriving DecidableEq, Repr

/-- The handler read the row that it acts on. -/
def HandlerPhase.pastRead : HandlerPhase → Bool
  | waiting | approved => false
  | _ => true

/-- A handler of a lockup event, or of the retry loop when it has no `owner`. -/
structure Handler where
  id : Nat
  owner : Option LockupIdentity
  phase : HandlerPhase := .waiting
  deriving DecidableEq, Repr

inductive HistoryEvent where
  | linked (number lockupHash swapId : Nat)
  | committed (number lockupHash swapId : Nat)
  | commitFailed (number : Nat) (error : Option CommitError)
  /-- `swapId` is the swap of the lockup hash, and `reason` why it is not eligible. -/
  | refundSigned (lockupHash swapId : Option Nat) (reason : Option RefundRejectionReason)
  /-- A Lightning payment is started, or the lockup of the server sent. -/
  | acted (id : Nat) (lockup : Option LockupIdentity)
  deriving DecidableEq, Repr

structure State where
  events : ConsolidatedEventHandler.State SwapValues
  swaps : Nat → Option UserSwap := fun _ => none
  commitments : List Commitment := []
  payments : Nat → Option LightningPaymentStatus := fun _ => none
  refunds : Nat → Option RefundStatus := fun _ => none
  call : Option Call := none
  lockups : List LockupTask := []
  handlers : List Handler := []
  /-- Chain swaps whose lockup waits for an approval. -/
  holds : List Nat := []
  commits : Nat := 0
  listened : List (Nat × SwapType) := []
  /-- What was emitted before the last restart. -/
  past : List (LockupEventEntry SwapValues) := []
  /-- The transactions of the lockups that were stored. -/
  lockupTransactions : List Nat := []
  history : List HistoryEvent := []

inductive HandlerStep where
  | approve
  | fetch
  | settle
  | pay
  | send
  | finish (transactionId : Nat)
  /-- The approval hook holds the lockup of a chain swap. -/
  | hold
  /-- It throws, or a hook or a signer holds or rejects the payment. -/
  | giveUp

inductive Op where
  /-- A step of the event handler or of its node. -/
  | events (op : ConsolidatedEventHandler.Op SwapValues)
  | contractEvent (txHash logIndex : Nat)
  | restart
  | createSwap (id : Nat) (swap : UserSwap)
  | setInvoice (id invoice expectedAmount : Nat)
  /-- What other components store. -/
  | setStatus (id : Nat) (status : SwapUpdateEvent)
  | refundTransaction (id : Nat) (status : RefundStatus)
  | paymentResult (id : Nat) (status : LightningPaymentStatus)
  | listen (i id : Nat)
  | record (i : Nat) (valid : Bool)
  | retry (id : Nat)
  | handler (i : Nat) (step : HandlerStep)
  | commit (request : CommitRequest)
  | refund (request : RefundRequest)
  | advance
  /-- An external call of the running call throws. -/
  | fail

namespace State

variable (manager : EthereumManager) (s : State)

/-! ## Events -/

/-- What the event handler emitted since the last restart. -/
def delivered : List (LockupEventEntry SwapValues) :=
  (s.events.forwarded.filterMap fun
    | .lockup entry => some entry
    | .claim _ => none) ++ s.events.emitted.map (·.pending.event)

def handleEvent (entry : LockupEventEntry SwapValues) : State :=
  { s with events := s.events.handleEvent manager.requiredConfirmations (.lockup entry) }

/-- The events of contracts are handed in by `contractEvent` and by commits only. -/
def eventsStep (op : ConsolidatedEventHandler.Op SwapValues) : Option State :=
  match op with
  | .handleEvent _ => none
  | .destroy => none
  | op => (s.events.step manager.requiredConfirmations op).map fun events => { s with events }

def logEntry (txHash : Nat) (log : Log SwapValues) : LockupEventEntry SwapValues :=
  { name := log.name, version := log.version, transactionHash := some txHash,
    logIndex := log.index, values := log.values }

/-- A subscription or a rescan finds a log. -/
def contractEvent (txHash logIndex : Nat) : Option State :=
  ((s.events.receipts txHash).bind fun receipt =>
    receipt.logs.find? (·.index == logIndex)).map fun log =>
      s.handleEvent manager (logEntry txHash log)

/-- Only the chain and the database are left. -/
def restart : State :=
  { s with
    events :=
      { s.events with
        pendingEvents := [], waiting := [], flush := none, forwarded := [], queued := [],
        emitted := [], dropped := [] }
    call := none, lockups := [], handlers := [], listened := [],
    past := s.past ++ s.delivered }

/-! ## Rows -/

def setRow (id : Nat) (row : UserSwap) : State :=
  { s with swaps := Function.update s.swaps id (some row) }

/-- A row as it is created. -/
def isNew (swap : UserSwap) : Bool :=
  swap.status == swapCreated && swap.lockup.isNone && !swap.createdRefundSignature &&
    !swap.serverLocked && (swap.type == .chain || swap.expectedAmount.isNone)

def createSwap (id : Nat) (swap : UserSwap) : Option State :=
  if (s.swaps id).isNone && isNew swap then some (s.setRow id swap) else none

def push (handler : Handler) : State := { s with handlers := s.handlers ++ [handler] }

def withInvoice (row : Swap) (invoice expectedAmount : Nat) : Swap :=
  { row with
    invoice := some invoice, expectedAmount := some expectedAmount, status := invoiceSet }

/-- `setSwapInvoice`. A swap whose lockup is confirmed is settled at once. -/
def setInvoice (id invoice expectedAmount : Nat) : Option State :=
  match s.swaps id with
  | some (.submarine row) =>
    if row.createdRefundSignature || row.invoice.isSome ||
        row.onchainAmount.any (· < expectedAmount) then none
    else
      let s' := s.setRow id (.submarine (withInvoice row invoice expectedAmount))
      if row.lockupTransactionId.isSome && row.status == transactionConfirmed &&
          row.onchainAmount == some expectedAmount then
        some (s'.push
          { id, owner := none, phase := .fetched (UserSwap.submarine row).lockup })
      else some s'
  | _ => none

/-- The statuses that other components store. -/
def isForeign (status : SwapUpdateEvent) : Bool :=
  !([swapCreated, invoiceSet, invoicePending, invoicePaid].contains status)

def setStatus (id : Nat) (status : SwapUpdateEvent) : Option State :=
  match s.swaps id with
  | some row => if isForeign status then some (s.setRow id (row.setStatus status)) else none
  | none => none

def paymentOpen (id : Nat) : Bool :=
  s.payments id == some .pending || s.payments id == some .success

def paymentResult (id : Nat) (status : LightningPaymentStatus) : Option State :=
  if s.payments id = some .pending then
    some { s with payments := Function.update s.payments id (some status) }
  else none

/-! ## `EthereumNursery` -/

/-- The listener looks for one submarine and one chain swap. -/
def isListened (swap : UserSwap) (entry : LockupEventEntry SwapValues) : Bool :=
  swap.preimageHash == entry.values.preimageHash &&
    (swap.status == swapCreated || (swap.type == .submarine && swap.status == invoiceSet))

/-- `checkEtherSwapLockup` and `checkErc20SwapLockup` leave swaps of other currencies. -/
def isOfCurrency (swap : UserSwap) (entry : LockupEventEntry SwapValues) : Bool :=
  match entry.name with
  | .ethLockup => swap.chainSymbol == manager.symbol
  | .erc20Lockup => (manager.tokenAddresses swap.chainSymbol).isSome

def listen (i id : Nat) : Option State :=
  match s.delivered[i]?, s.swaps id with
  | some entry, some swap =>
    if isListened swap entry && !s.listened.contains (i, swap.type) then
      let s' := { s with listened := s.listened ++ [(i, swap.type)] }
      if isOfCurrency manager swap entry then
        some { s' with lockups := s.lockups ++ [{ id, row := swap, entry }] }
      else some s'
    else none
  | _, _ => none

def incomingLockup (entry : LockupEventEntry SwapValues) : LockupIdentity :=
  ⟨entry.transactionHash.getD 0, some entry.logIndex⟩

/-- What the transaction of the repository stores. -/
def lockupWrite (task : LockupTask) (valid : Bool) (row : UserSwap) :
    LockupWriteOutcome × UserSwap :=
  row.setLockup (incomingLockup task.entry)
    (manager.lockupAmount task.row.chainSymbol task.entry.values)
    (if valid then transactionConfirmed else transactionLockupFailed)

def addTransaction (transactionId : Nat) : State :=
  { s with lockupTransactions := transactionId :: s.lockupTransactions }

def storeLockup (task : LockupTask) (valid : Bool) : State :=
  match s.swaps task.id with
  | none => s
  | some current =>
    let (outcome, updated) := lockupWrite manager task valid current
    if outcome = .rejected then s
    else
      let s' := (s.setRow task.id updated).addTransaction (incomingLockup task.entry).transactionId
      if valid && (updated.type == .submarine || updated.status != transactionLockupFailed) then
        s'.push { id := task.id, owner := some (incomingLockup task.entry) }
      else s'

/-- `processLockup`. -/
def record (i : Nat) (valid : Bool) : Option State :=
  (s.lockups[i]?).map fun task =>
    let s' := { s with lockups := s.lockups.eraseIdx i }
    if shouldIgnoreCompetingLockup task.row.lockup (incomingLockup task.entry) task.row.status then
      s'
    else s'.storeLockup manager task valid

/-! ## `SwapNursery` -/

/-- `getChainSwapForLockup`. -/
def isLockable (row : ChainSwap) (owner : Option LockupIdentity) : Bool :=
  [swapCreated, transactionMempool, transactionConfirmed].contains row.status &&
    !row.createdRefundSignature && row.sendingData.transactionId.isNone &&
    (owner.isNone || (UserSwap.chain row).lockup == owner)

/-- What `handleLockup` and the retry loop look at before `attemptSettleSwap`. -/
def isPayable (row : Swap) (owner : Option LockupIdentity) : Bool :=
  match owner with
  | some _ =>
    row.status != transactionLockupFailed && (UserSwap.submarine row).lockup == owner &&
      row.invoice.isSome && !row.createdRefundSignature
  | none => [invoicePending, invoicePaid].contains row.status

/-- The retry loop looks at the held lockups of chain swaps. -/
def retry (id : Nat) : Option State :=
  match s.swaps id with
  | some (.submarine _) => some (s.push { id, owner := none })
  | some (.chain _) => if s.holds.contains id then some (s.push { id, owner := none }) else none
  | none => none

def setHandler (i : Nat) (handler : Handler) : State :=
  { s with handlers := s.handlers.set i handler }

def endHandler (i : Nat) : State := { s with handlers := s.handlers.eraseIdx i }

def act (id : Nat) (lockup : Option LockupIdentity) : State :=
  { s with history := .acted id lockup :: s.history }

def startPayment (id : Nat) (lockup : Option LockupIdentity) : State :=
  if s.paymentOpen id then s
  else { s.act id lockup with payments := Function.update s.payments id (some .pending) }

/-- What `payInvoice` stores when the result of the payment is known. -/
def storeResult (id : Nat) (row : UserSwap) : State :=
  match s.payments id with
  | some .success => s.setRow id (row.setStatus invoicePaid)
  | some .permanentFailure => s.setRow id (row.setStatus invoiceFailedToPay)
  | _ => s

def submarineStep (i : Nat) (h : Handler) (row : Swap) : HandlerStep → Option State
  | .fetch =>
    if h.phase = .waiting then
      if isPayable row h.owner then
        some (s.setHandler i { h with phase := .fetched (UserSwap.submarine row).lockup })
      else some (s.endHandler i)
    else none
  | .settle =>
    match h.phase with
    | .fetched _ =>
      if row.status = transactionClaimPending || successSwapUpdateEvents.contains row.status then
        some (s.endHandler i)
      else
        let phase : HandlerPhase := .settling row.status (UserSwap.submarine row).lockup
        some (s.setHandler i { h with phase })
    | _ => none
  | .pay =>
    match h.phase with
    | .settling status lockup =>
      let s' := s.setHandler i { h with phase := .pending lockup }
      if status = invoicePending then some s'
      else some (s'.setRow h.id (.submarine { row with status := invoicePending }))
    | _ => none
  | .send =>
    match h.phase with
    | .pending lockup => some ((s.setHandler i { h with phase := .sent }).startPayment h.id lockup)
    | _ => none
  | .finish _ =>
    if h.phase = .sent then some ((s.endHandler i).storeResult h.id (.submarine row)) else none
  | .giveUp => some (s.endHandler i)
  | .approve | .hold => none

def chainStep (i : Nat) (h : Handler) (row : ChainSwap) : HandlerStep → Option State
  | .approve =>
    if h.phase = .waiting then
      if isLockable row h.owner then some (s.setHandler i { h with phase := .approved })
      else some (s.endHandler i)
    else none
  | .fetch =>
    if h.phase = .approved then
      if isLockable row h.owner then
        some (s.setHandler i { h with phase := .fetched (UserSwap.chain row).lockup })
      else some (s.endHandler i)
    else none
  | .send =>
    match h.phase with
    | .fetched lockup => some ((s.setHandler i { h with phase := .sent }).act h.id lockup)
    | _ => none
  | .finish transactionId =>
    if h.phase = .sent then
      some ((s.endHandler i).setRow h.id ((UserSwap.chain row).setServerLockup transactionId))
    else none
  | .hold =>
    match h.phase with
    | .fetched _ => some { s.endHandler i with holds := h.id :: s.holds }
    | _ => none
  | .giveUp => some (s.endHandler i)
  | _ => none

def handlerStep (i : Nat) (step : HandlerStep) : Option State :=
  match s.handlers[i]? with
  | none => none
  | some h =>
    match s.swaps h.id with
    | some (.submarine row) => s.submarineStep i h row step
    | some (.chain row) => s.chainStep i h row step
    | none => none

/-! ## `commit` -/

def throwCommit (number : Nat) (error : Option CommitError) : State :=
  { s with call := none, history := .commitFailed number error :: s.history }

def inCommit (number : Nat) (request : CommitRequest) (phase : CommitPhase) : State :=
  { s with call := some (.commit number request phase) }

/-- The event of a commit has the preimage hash of the swap. -/
def commitEntry (request : CommitRequest) (c : CommitLockup) : LockupEventEntry SwapValues :=
  { name := c.contract.name, version := c.contract.version,
    transactionHash := some request.transactionHash, logIndex := c.lockup.logIndex,
    values := { c.lockup.values with preimageHash := c.swap.preimageHash } }

def advanceCommit (number : Nat) (request : CommitRequest) : CommitPhase → State
  | .begun =>
    match s.swaps request.swapId with
    | none => s.throwCommit number (some .swapNotFound)
    | some swap => s.inCommit number request (.loaded swap)
  | .loaded swap =>
    match Commitments.findContractForAddress manager swap.lockupAddress with
    | .error error => s.throwCommit number (some error)
    | .ok contract =>
      match Commitments.findLockupEvent (s.events.receipts request.transactionHash) contract
          request.logIndex with
      | .error error => s.throwCommit number (some error)
      | .ok lockup => s.inCommit number request (.found { swap, contract, lockup })
  | .found c =>
    match Commitments.checkCommit manager s.commitments request c.swap c.contract
        c.lockup.values with
    | .error error => s.throwCommit number (some error)
    | .ok commitment => s.inCommit number request (.checked c commitment)
  | .checked c commitment =>
    match CommitmentRepository.create s.commitments commitment with
    | none => s.throwCommit number none
    | some commitments =>
      { s.inCommit number request (.created c commitment) with
        commitments
        history := .linked number commitment.lockupHash request.swapId :: s.history }
  | .created c commitment => s.inCommit number request (.fetched c commitment)
  | .fetched c commitment =>
    { s.handleEvent manager (commitEntry request c) with
      call := none
      history := .committed number commitment.lockupHash request.swapId :: s.history }

/-! ## `signSwapRefund` and `signCommitmentRefund` -/

def endCall : State := { s with call := none }

def inRefund (request : RefundRequest) (phase : RefundPhase) : State :=
  { s with call := some (.refund request phase) }

def loadSwap (request : RefundRequest) (id : Nat) (target : Option RefundTarget) : State :=
  match s.swaps id with
  | none => s.endCall
  | some swap => s.inRefund request (.loaded id swap target)

/-- The lockup that is recorded for the swap, as it is on the chain. -/
def queryLockup (id : Nat) (swap : UserSwap) : Option RefundTarget :=
  swap.lockup.bind fun lockup =>
    (manager.contractForAddress swap.chainSymbol swap.lockupAddress).bind fun contract =>
      (querySwapValuesFromLock manager.hashValues (s.events.receipts lockup.transactionId) contract
        (some (getIdentifier s.commitments id swap.preimageHash)) lockup.vout).map fun event =>
          { contract, lockup := event, transactionHash := lockup.transactionId }

def RefundTarget.lockupHash (manager : EthereumManager) (target : RefundTarget) : Nat :=
  manager.hashValues target.contract target.lockup.values

/-- The lockup hash and the swap of a refund: `signSwapRefund` knows the swap, and
`signCommitmentRefund` the hash. -/
def refundedLockup (request : RefundRequest) (target : RefundTarget) :
    Option Nat × Option Nat :=
  match request with
  | .swap id => ((CommitmentRepository.getBySwapId s.commitments id).map (·.lockupHash), some id)
  | .commitment _ =>
    let hash := RefundTarget.lockupHash manager target
    (some hash, (CommitmentRepository.getByLockupHash s.commitments hash).bind (·.swapId))

def markRefunded (request : RefundRequest) (target : RefundTarget) : List Commitment :=
  match (s.refundedLockup manager request target).1 with
  | some hash => CommitmentRepository.markRefunded s.commitments hash target.transactionHash
  | none => s.commitments

def setRefundSignatureCreated (id : Option Nat) : State :=
  match id.bind fun id => (s.swaps id).map fun row => (id, row) with
  | some (id, row) => s.setRow id row.setRefundSignatureCreated
  | none => s

/-- Why the swap is not eligible now. -/
def refundNonEligibilityReason (id : Nat) : Option RefundRejectionReason :=
  (s.swaps id).bind fun row => row.refundNonEligibilityReason (s.paymentOpen id) (s.refunds id)

def signed (lockup : Option Nat × Option Nat) : State :=
  { s with
    call := none
    history :=
      .refundSigned lockup.1 lockup.2 (lockup.2.bind s.refundNonEligibilityReason) :: s.history }

def advanceRefund (request : RefundRequest) : RefundPhase → State
  | .begun =>
    match request with
    | .swap id => s.loadSwap request id none
    | .commitment r =>
      -- without a receipt the call ends with an error, whether the transaction is known or not
      let receipt := s.events.receipts r.transactionHash
      match EipSigner.findCommitmentLockup manager receipt.isSome receipt r with
      | .error _ => s.endCall
      | .ok (contract, lockup) =>
        s.inRefund request (.found { contract, lockup, transactionHash := r.transactionHash })
  | .found target =>
    match (s.refundedLockup manager request target).2 with
    | some id => s.loadSwap request id (some target)
    | none => s.inRefund request (.ready none target)
  | .loaded id swap target =>
    match swap.refundNonEligibilityReason (s.paymentOpen id) (s.refunds id) with
    | some _ => s.endCall
    | none =>
      match target with
      | some target => s.inRefund request (.ready (some id) target)
      | none => s.inRefund request (.eligible id swap)
  | .eligible id swap =>
    match s.queryLockup manager id swap with
    | none => s.endCall
    | some target => s.inRefund request (.ready (some id) target)
  | .ready id target =>
    (s.setRefundSignatureCreated id).inRefund request (.flagged id target)
  | .flagged id target =>
    { s.inRefund request (.marked id target) with
      commitments := s.markRefunded manager request target }
  | .marked _ target => s.signed (s.refundedLockup manager request target)

/-! ## Steps -/

def advance : Option State :=
  match s.call with
  | none => none
  | some (.commit number request phase) => some (s.advanceCommit manager number request phase)
  | some (.refund request phase) => some (s.advanceRefund manager request phase)

def fail : Option State :=
  match s.call with
  | none => none
  | some (.commit number _ _) => some (s.throwCommit number none)
  | some (.refund _ _) => some s.endCall

def step : Op → Option State
  | .events op => s.eventsStep manager op
  | .contractEvent txHash logIndex => s.contractEvent manager txHash logIndex
  | .restart => some s.restart
  | .createSwap id swap => s.createSwap id swap
  | .setInvoice id invoice expectedAmount => s.setInvoice id invoice expectedAmount
  | .setStatus id status => s.setStatus id status
  | .refundTransaction id status =>
    some { s with refunds := Function.update s.refunds id (some status) }
  | .paymentResult id status => s.paymentResult id status
  | .listen i id => s.listen manager i id
  | .record i valid => s.record manager i valid
  | .retry id => s.retry id
  | .handler i step => s.handlerStep i step
  | .commit request =>
    if s.call.isNone then
      some { s.inCommit s.commits request .begun with commits := s.commits + 1 }
    else none
  | .refund request => if s.call.isNone then some (s.inRefund request .begun) else none
  | .advance => s.advance manager
  | .fail => s.fail

/-- The process before anything happened, on any chain. -/
def start (time height : Nat) (receipts : Nat → Option (Receipt SwapValues)) : State :=
  { events := .start time height receipts }

end State

end Boltz.Ethereum
