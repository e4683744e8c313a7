import Boltz.Rates.Quotes
import Boltz.Swap.Settlement

/-!
# The invoice of a submarine swap (`SwapManager.ts`, `Service.ts`)

A submarine swap can be created without an invoice and get it later, also after its lockup was
found. The invoice is stored through the swap that was queried with the lock.
-/

namespace Boltz

open Async SwapUpdateEvent

/-- What the lookups before `SwapManager.setSwapInvoice` return. -/
structure InvoiceTerms where
  invoiceAmount : Nat
  rate : ℚ
  baseFee : Int
  percentageFee : Int
  extraFee : Int := 0
  deriving DecidableEq, Repr

def InvoiceTerms.expectedAmount (terms : InvoiceTerms) : Nat :=
  (⌊terms.invoiceAmount * terms.rate⌋ + terms.baseFee + terms.percentageFee +
    terms.extraFee).toNat

/-- The swap in memory after `setInvoice`. -/
def Swap.withInvoice (s : Swap) (invoice expectedAmount : Nat) (acceptZeroConf : Bool) : Swap :=
  { s with
    invoice := some invoice
    acceptZeroConf
    expectedAmount := some expectedAmount
    status := invoiceSet }

/-- `Swap.save` for the update of `setInvoice`, which also sets columns that no other update
changes. -/
def Swap.saveInvoice (old new stored : Swap) : Swap :=
  { stored with
    invoice := saved old.invoice new.invoice stored.invoice
    acceptZeroConf := saved old.acceptZeroConf new.acceptZeroConf stored.acceptZeroConf
    expectedAmount := saved old.expectedAmount new.expectedAmount stored.expectedAmount
    status := saved old.status new.status stored.status }

/-- The write of `SwapRepository.setInvoice`; it returns the row that was stored before. -/
def setInvoiceAct (swap : Instance Swap) (invoice expectedAmount : Nat) (acceptZeroConf : Bool) :
    Act Label World Answer (Option Swap) where
  label := .setInvoice swap expectedAmount acceptZeroConf
  run := fun _ w _ =>
    some (w.swaps.get swap.id,
      { w with swaps := w.swaps.modify swap.id (swap.row.saveInvoice
        (swap.row.withInvoice invoice expectedAmount acceptZeroConf)) })

/-- Whether `setSwapInvoice` settles the swap right away: with the row as it was queried. -/
def settlesDirectly (row : Swap) (expectedAmount : Nat) : Bool :=
  row.lockupTransactionId.isSome && row.status == transactionConfirmed &&
    row.onchainAmount == some expectedAmount

/-- What `setSwapInvoice` does with the swap that it queried. -/
def storeInvoice (swap : Instance Swap) (invoice expectedAmount : Nat) : M Unit := do
  let acceptZeroConf ← ask Answer.flag?
  let expiresTooSoon ← ask Answer.flag?
  Prog.throwIf (!acceptZeroConf && expiresTooSoon) (.message "invoice expiry is too short")
  let stored ← Prog.call (setInvoiceAct swap invoice expectedAmount acceptZeroConf)
  Prog.when (settlesDirectly swap.row expectedAmount)
    ((attemptSettleSwap (.submarine ⟨swap.id,
      swap.row.withInvoice invoice expectedAmount acceptZeroConf⟩) none).catching fun _ => pure ())
  mark (.invoiceSet swap.id stored expectedAmount acceptZeroConf)

namespace SwapManager

/-- The part of `setSwapInvoice` that runs with the lock. -/
def setQueriedInvoice (id invoice expectedAmount : Nat) : M Unit := do
  match ← SwapRepository.getSwap id (.fetchForInvoice id) with
  | none => Prog.throw (.message "Cannot read properties of null")
  | some swap =>
    if swap.row.createdRefundSignature then Prog.throw (.message "swap was refunded already")
    else if swap.row.invoice.isSome then Prog.throw (.message "swap has an invoice already")
    else if swap.row.onchainAmount.any fun amount => amount != 0 && expectedAmount > amount then
      Prog.throw (.message "invalid invoice amount")
    else storeInvoice swap invoice expectedAmount

def setSwapInvoice (id invoice : Nat) (terms : InvoiceTerms) : M Unit := do
  external -- the invoice is decoded and checked, and the creation hook is called
  withLock .swap (setQueriedInvoice id invoice terms.expectedAmount)

end SwapManager

namespace Service

/-- The request that sets the invoice. The amounts are verified and a route is looked for before
the swap is queried again. -/
def setInvoice (id invoice : Nat) (terms : InvoiceTerms) : M Unit := do
  match ← SwapRepository.getSwap id with
  | none => Prog.throw (.message "swap not found")
  | some swap =>
    if swap.row.invoice.isSome then Prog.throw (.message "swap has an invoice already")
    else do
      external -- the onchain minimum
      external -- the limit of the timelock, the node and the route
      external -- the pair, the node and the amount
      SwapManager.setSwapInvoice id invoice terms

end Service

end Boltz
