import Boltz.Db.Repositories

/-!
# Checkers of the sidecar (`boltzr/src/swap/expiration`)

The sidecar is another process. It fails submarine swaps in the same table, without the locks of
the nursery: a checker reads the candidates and then updates them one by one, each only if it
still matches.
-/

namespace Boltz

open Async SwapUpdateEvent

namespace SwapHelper

/-- What `update_status_if_matches` makes of the row. -/
def statusIfMatches (status : SwapUpdateEvent) (failureReason : SwapError)
    (condition : Swap → Bool) (row : Swap) : Swap :=
  if condition row then { row with status, failureReason := some failureReason } else row

def updateStatusIfMatches (id : Nat) (status : SwapUpdateEvent) (failureReason : SwapError)
    (condition : Swap → Bool) : M Unit :=
  write (fun w =>
      { w with swaps := w.swaps.modify id (statusIfMatches status failureReason condition) })
    (.updateStatusIfMatches id)

end SwapHelper

/-- `InvoiceExpirationChecker` and `CustomExpirationChecker`. -/
inductive ExpirationChecker where
  | invoice | custom
  deriving DecidableEq, Repr

namespace ExpirationChecker

def expirableInvoiceSwapsCondition (s : Swap) : Bool :=
  !([swapExpired, invoicePending, invoicePaid, invoiceFailedToPay, transactionClaimed,
    transactionLockupFailed, transactionClaimPending].contains s.status) && s.invoice.isSome

def customExpirableSwapsCondition (s : Swap) : Bool :=
  [swapCreated, invoiceSet].contains s.status && s.referral.isSome

def condition : ExpirationChecker → Swap → Bool
  | invoice => expirableInvoiceSwapsCondition
  | custom => customExpirableSwapsCondition

def failureReason : ExpirationChecker → SwapError
  | invoice => .invoiceExpired
  | custom => .swapExpired

/-- What a checker does with one candidate: whether it is expired depends on the invoice, or on
the referral and on the age of the swap. -/
def checkSwap (checker : ExpirationChecker) (swap : Instance Swap) : M Unit := do
  external -- the currency and the invoice, or the configuration of the referral
  let expired ← ask Answer.flag?
  Prog.when expired (SwapHelper.updateStatusIfMatches swap.id invoiceFailedToPay
    checker.failureReason checker.condition)

def check (checker : ExpirationChecker) : M Unit := do
  Prog.when (checker = custom) external -- get_referrals
  let swaps ← SwapRepository.getSwaps checker.condition
  Prog.forEach swaps checker.checkSwap

/-! ## Swaps that no checker touches -/

/-- No checker fails a swap whose lockup is not updated any more. -/
theorem condition_eq_false_of_closed (checker : ExpirationChecker) {s : Swap}
    (h : s.status ∈ SwapRepository.lockupNonUpdatableStatuses) : checker.condition s = false := by
  simp only [SwapRepository.lockupNonUpdatableStatuses, List.mem_cons, List.not_mem_nil,
    or_false] at h
  cases checker with
  | invoice =>
    simp only [condition, expirableInvoiceSwapsCondition]
    rcases h with h | h | h | h | h | h <;> rw [h] <;> rfl
  | custom =>
    simp only [condition, customExpirableSwapsCondition]
    rcases h with h | h | h | h | h | h <;> rw [h] <;> rfl

/-- A checker does not touch a swap whose lockup is not updated any more. -/
theorem statusIfMatches_of_closed (checker : ExpirationChecker) {s : Swap}
    (h : s.status ∈ SwapRepository.lockupNonUpdatableStatuses) :
    SwapHelper.statusIfMatches invoiceFailedToPay checker.failureReason checker.condition s = s := by
  unfold SwapHelper.statusIfMatches
  rw [checker.condition_eq_false_of_closed h]
  rfl

/-- A checker writes no other status than `InvoiceFailedToPay`. -/
theorem status_of_statusIfMatches (checker : ExpirationChecker) {s : Swap}
    {status : SwapUpdateEvent} (hne : status ≠ invoiceFailedToPay)
    (h : (SwapHelper.statusIfMatches invoiceFailedToPay checker.failureReason checker.condition
      s).status = status) : s.status = status := by
  unfold SwapHelper.statusIfMatches at h
  split at h
  · exact absurd h.symm hne
  · exact h

end ExpirationChecker

end Boltz
