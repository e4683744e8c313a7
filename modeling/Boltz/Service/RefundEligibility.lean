import Boltz.Ethereum.Commitments
import Boltz.Lightning.Nodes

/-!
# Eligibility for refunds (`refundNonEligibilityReason` of `cooperative/MusigSigner.ts`)

With each look-up that it makes. The rows of the payments and the self payments are not read.
-/

namespace Boltz.MusigSigner.Lookups

open Async Lightning Ethereum SwapUpdateEvent

/-- The loop over the LND clients. -/
def hasLndPayment (paymentHash : Nat) : List LndClient → Promise Thrown Bool
  | [] => pure false
  | client :: rest => do
    let found ← Promise.catching
      (do
        let pendingPayment ← (client.trackPayment paymentHash).mapRejected .object
        pure (pendingPayment.status ≠ .failed : Bool))
      fun _ => pure false
    if found then pure true else hasLndPayment paymentHash rest

def hasClnPayment (clnClient : Option ClnClient) (invoice : Option Nat) : Promise Thrown Bool :=
  Promise.catching
    (match clnClient, invoice with
    | some client, some invoice => do
      let payment ← client.checkPayStatus invoice
      pure payment.isSome
    | _, _ => pure false)
    fun e => pure (e = ClnClient.paymentPendingError : Bool)

def hasPendingOrSuccessfulLightningPayment (currency : LightningCurrency) :
    UserSwap → Promise Thrown Bool
  | .chain _ => pure false
  | .submarine row => do
    if ← hasLndPayment row.preimageHash currency.lndClients then pure true
    else hasClnPayment currency.clnClient row.invoice

/-- Swaps without a Lightning currency are not asked about. -/
def lightningPayment (lightningCurrency : Option LightningCurrency) (swap : UserSwap) :
    Promise Thrown Bool :=
  match lightningCurrency with
  | none => pure false
  | some currency => hasPendingOrSuccessfulLightningPayment currency swap

/-- The refund transaction is looked up only for chain swaps that were locked up. -/
def refundNotConfirmed (refundTransaction : Promise Thrown (Option RefundStatus))
    (swap : UserSwap) : Promise Thrown (Option RefundRejectionReason) := do
  if swap.serverLocked then
    let refundTx ← refundTransaction
    pure (if refundTx.any (· != .confirmed) then some .refundNotConfirmed else none)
  else pure none

def refundNonEligibilityReason (refundTransaction : Promise Thrown (Option RefundStatus))
    (swap : UserSwap) (lightningCurrency : Option LightningCurrency) :
    Promise Thrown (Option RefundRejectionReason) := do
  if swap.version ≠ .taproot then pure (some .versionNotTaproot)
  else if !failedSwapUpdateEvents.contains swap.status then pure (some .statusNotEligible)
  else
    if ← lightningPayment lightningCurrency swap then pure (some .lightningPaymentPending)
    else refundNotConfirmed refundTransaction swap

end Boltz.MusigSigner.Lookups
