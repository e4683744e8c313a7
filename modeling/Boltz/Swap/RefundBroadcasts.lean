import Boltz.Async.Transitions
import Boltz.Db.Models

/-!
# Refunds of a server lockup (`SwapNursery.ts`, `RefundWatcher.ts`, `bumper/handlers/refund.rs`)

The nursery, the fee bumper of the sidecar and the watcher of one swap, as steps between two awaits;
a call that throws and a process that stops are the same here, since nothing of either is kept. The
nursery holds a lock, and the bumper and the watcher are loops. A refund that is accepted spends the
lockup, so on a chain with transaction outputs it replaces the ones before it.
-/

namespace Boltz.RefundBroadcasts

open Async

/-- What a refund of the nursery waits for. -/
inductive RefundCall where
  | constructing
  /-- `addTransaction`, before the transaction is sent or after -/
  | adding (id : Nat) (sent : Bool)
  | sending (id : Nat)
  /-- `setTransactionRefunded` -/
  | refunding
  deriving DecidableEq, Repr

/-- What `check_transaction` of the bumper waits for. -/
inductive BumpCall where
  /-- the transaction with the id that was pending -/
  | fetched (id : Nat)
  | constructing
  | sending (id : Nat)
  /-- `update_transaction_id` -/
  | updating (id : Nat)
  deriving DecidableEq, Repr

structure State where
  row : Option RefundTransaction := none
  /-- the status of the swap is final -/
  refunded : Bool := false
  refund : Option RefundCall := none
  bump : Option BumpCall := none
  /-- ids that the watcher fetches the confirmations of -/
  watching : List Nat := []
  /-- refunds that the node accepted and that were not replaced -/
  accepted : List Nat := []
  /-- the one in a block, with its confirmations -/
  mined : Option (Nat × Nat) := none
  deriving DecidableEq, Repr

inductive Op where
  /-- `expireReverseSwap` and `expireChainSwap`, of a swap with a lockup -/
  | refundSwap
  | constructRefund (id : Nat)
  | addTransaction
  /-- the node accepts the refund -/
  | sendRawTransaction
  | setTransactionRefunded
  /-- what the nursery waits for throws, or its process stops -/
  | refundFailed
  | fetchPending
  | checkTransaction
  | bumpFee (id : Nat)
  /-- the node accepts the replacement -/
  | sendReplacement
  | updateTransactionId
  /-- what the bumper waits for fails, or its process stops -/
  | bumpFailed
  | mine (id : Nat)
  | block
  | getPendingTransactions
  /-- the confirmations of the `i`-th id that is watched -/
  | checkRefund (i : Nat)
  | checkFailed (i : Nat)
  deriving DecidableEq, Repr

namespace State

variable (currency : CurrencyType) (requiredConfirmations : Nat)

/-- `refundUtxo` stores the transaction before it is sent, and `refundVtxo`, `refundEther` and
`refundERC20` what they have sent. -/
def constructed (id : Nat) : RefundCall :=
  match currency.backend with
  | .utxo => .adding id false
  | .evm | .ark => .sending id

/-- The node accepts nothing that spends what a transaction in a block has spent. Nonces of accounts
do not conflict. -/
def accept (s : State) (id : Nat) : Option State :=
  match currency.backend with
  | .utxo => if s.mined.isSome then none else some { s with accepted := [id] }
  | .evm | .ark => some { s with accepted := id :: s.accepted }

def sent (id : Nat) : RefundCall :=
  match currency.backend with
  | .utxo => .refunding
  | .evm | .ark => .adding id true

/-- What is on Ark is always confirmed. -/
def getConfirmations (s : State) (id : Nat) : Nat :=
  match currency, s.mined with
  | .ark, _ => requiredConfirmations + 1
  | _, some (minedId, confirmations) => if minedId = id then confirmations else 0
  | _, none => 0

def setStatusConfirmedIfPending (s : State) : State :=
  { s with
    row := s.row.map fun tx =>
      if tx.status = .pending then { tx with status := .confirmed } else tx }

def checkRefund (s : State) (id : Nat) : State :=
  if s.getConfirmations currency requiredConfirmations id < requiredConfirmations then s
  else s.setStatusConfirmedIfPending

/-- The bumper runs on Bitcoin only, and finds only transactions that the node knows. -/
def step (s : State) : Op → Option State
  | .refundSwap =>
    if s.refund.isNone && !s.refunded then some { s with refund := some .constructing } else none
  | .constructRefund id =>
    match s.refund with
    | some .constructing => some { s with refund := some (constructed currency id) }
    | _ => none
  | .addTransaction =>
    match s.refund with
    | some (.adding id sent) =>
      some
        { s with
          row := some ⟨id, if currency.backend = .utxo then some 0 else none, .pending⟩
          refund := some (if sent then .refunding else .sending id) }
    | _ => none
  | .sendRawTransaction =>
    match s.refund with
    | some (.sending id) =>
      (s.accept currency id).map fun s => { s with refund := some (sent currency id) }
    | _ => none
  | .setTransactionRefunded =>
    match s.refund with
    | some .refunding => some { s with refund := none, refunded := true }
    | _ => none
  | .refundFailed =>
    match s.refund with
    | some _ => some { s with refund := none }
    | none => none
  | .fetchPending =>
    match currency, s.bump, s.row with
    | .bitcoinLike, none, some tx =>
      if tx.status = .pending then some { s with bump := some (.fetched tx.id) } else none
    | _, _, _ => none
  | .checkTransaction =>
    match s.bump with
    | some (.fetched id) =>
      if id ∈ s.accepted then some { s with bump := some .constructing } else none
    | _ => none
  | .bumpFee id =>
    match s.bump with
    | some .constructing => some { s with bump := some (.sending id) }
    | _ => none
  | .sendReplacement =>
    match s.bump with
    | some (.sending id) =>
      (s.accept currency id).map fun s => { s with bump := some (.updating id) }
    | _ => none
  | .updateTransactionId =>
    match s.bump with
    | some (.updating id) =>
      some { s with row := s.row.map fun tx => { tx with id := id, vin := some 0 }, bump := none }
    | _ => none
  | .bumpFailed =>
    match s.bump with
    | some _ => some { s with bump := none }
    | none => none
  | .mine id =>
    if s.mined.isNone && id ∈ s.accepted then some { s with mined := some (id, 1) } else none
  | .block => some { s with mined := s.mined.map fun tx => (tx.1, tx.2 + 1) }
  | .getPendingTransactions =>
    let pending := s.row.filter fun tx => tx.status = .pending
    some { s with watching := s.watching ++ (pending.map (·.id)).toList }
  | .checkRefund i =>
    s.watching[i]?.map fun id =>
      { s.checkRefund currency requiredConfirmations id with watching := s.watching.eraseIdx i }
  | .checkFailed i =>
    s.watching[i]?.map fun _ => { s with watching := s.watching.eraseIdx i }

/-- The call that has sent the transaction stores its id next. -/
def storing (s : State) (id : Nat) : Prop :=
  s.refund = some (.adding id true) ∨ s.bump = some (.updating id)

instance (s : State) (id : Nat) : Decidable (s.storing id) := inferInstanceAs (Decidable (_ ∨ _))

end State

end Boltz.RefundBroadcasts
