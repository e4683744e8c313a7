import Boltz.Sidecar.ExpirationSweeps

/-!
# Fault isolation of the expiration checkers

All errors of a candidate are returned early, so a candidate that fails keeps those behind it from
being failed, in every sweep again.
-/

namespace Boltz.ExpirationSweeps

open Async SwapUpdateEvent

variable {env : Env} {checker : ExpirationChecker} {swap : Candidate} {swaps : List Candidate}

/-- It is expired and still matches, and its row can be updated. -/
def Updates (env : Env) (checker : ExpirationChecker) (swap : Candidate) : Prop :=
  expired env checker swap = .ok true ∧ updateStatusIfMatches env checker swap.id = .ok 1

/-- One of the steps returns an error: what finds out whether it is expired, the update, or the
broadcast after it. -/
def Failing (env : Env) (checker : ExpirationChecker) (swap : Candidate) : Prop :=
  (∃ e, expired env checker swap = .error e) ∨
    expired env checker swap = .ok true ∧
      ((∃ e, updateStatusIfMatches env checker swap.id = .error e) ∨
        updateStatusIfMatches env checker swap.id = .ok 1 ∧
          ∃ e, env.send (failedStatus checker swap) = .error e)

/-! ## One candidate -/

theorem updateStatusIfMatches_cases (env : Env) (checker : ExpirationChecker) (id : Nat) :
    (∃ e, updateStatusIfMatches env checker id = .error e) ∨
      updateStatusIfMatches env checker id = .ok 0 ∨
      updateStatusIfMatches env checker id = .ok 1 := by
  unfold updateStatusIfMatches
  cases env.updateError id with
  | some e => exact .inl ⟨e, rfl⟩
  | none =>
    cases stillMatches env checker id with
    | false => exact .inr (.inl rfl)
    | true => exact .inr (.inr rfl)

theorem checkSwap_of_error {e : CheckError} (h : expired env checker swap = .error e) :
    checkSwap env checker swap = ⟨.rejected e, []⟩ := by
  unfold checkSwap
  rw [h]
  rfl

theorem checkSwap_of_not_expired (h : expired env checker swap = .ok false) :
    checkSwap env checker swap = ⟨.resolved (), []⟩ := by
  unfold checkSwap
  rw [h]
  rfl

theorem checkSwap_of_expired (h : expired env checker swap = .ok true) :
    checkSwap env checker swap = failSwap env checker swap := by
  unfold checkSwap
  rw [h]
  rfl

theorem failSwap_of_error {e : CheckError}
    (h : updateStatusIfMatches env checker swap.id = .error e) :
    failSwap env checker swap = ⟨.rejected e, []⟩ := by
  unfold failSwap
  rw [h]
  rfl

theorem failSwap_of_zero (h : updateStatusIfMatches env checker swap.id = .ok 0) :
    failSwap env checker swap = ⟨.resolved (), []⟩ := by
  unfold failSwap
  rw [h]
  rfl

theorem failSwap_of_one (h : updateStatusIfMatches env checker swap.id = .ok 1) :
    failSwap env checker swap =
      match env.send (failedStatus checker swap) with
      | .error e => ⟨.rejected e, [.updated swap.id invoiceFailedToPay checker.failureReason]⟩
      | .ok () => ⟨.resolved (), [.updated swap.id invoiceFailedToPay checker.failureReason,
          .published (failedStatus checker swap)]⟩ := by
  unfold failSwap
  rw [h]
  cases env.send (failedStatus checker swap) <;> rfl

/-- A candidate ends the sweep when it fails, and does something when it is updated. -/
theorem checkSwap_iff :
    (¬(checkSwap env checker swap).Settles ↔ Failing env checker swap) ∧
      ((checkSwap env checker swap).acts = [] ↔ ¬Updates env checker swap) := by
  unfold Failing Updates AsyncCall.Settles
  cases hexpired : expired env checker swap with
  | error e => simp [checkSwap_of_error hexpired]
  | ok isExpired =>
    cases isExpired with
    | false => simp [checkSwap_of_not_expired hexpired]
    | true =>
      rw [checkSwap_of_expired hexpired]
      rcases updateStatusIfMatches_cases env checker swap.id with ⟨e, h⟩ | h | h
      · simp [failSwap_of_error h, h]
      · simp [failSwap_of_zero h, h]
      · rw [failSwap_of_one h]
        cases hs : env.send (failedStatus checker swap) with
        | error e => simp [h]
        | ok _ => simp [h]

/-! ## A sweep -/

/-- In every order of the candidates, every one of them is failed and published as it is when it is
checked alone. -/
def FaultIsolated (env : Env) (checker : ExpirationChecker) (swaps : List Candidate) : Prop :=
  ∀ order, order.Perm swaps →
    (check env checker order).acts = order.flatMap fun swap => (checkSwap env checker swap).acts

theorem expiration_isolated_iff (env : Env) (checker : ExpirationChecker)
    (swaps : List Candidate) :
    FaultIsolated env checker swaps ↔
      ∀ failing others, swaps.Perm (failing :: others) → Failing env checker failing →
        ∀ other ∈ others, ¬Updates env checker other := by
  have hiff : FaultIsolated env checker swaps ↔ _ :=
    AsyncCall.isolated_iff
  simpa only [checkSwap_iff.1, checkSwap_iff.2] using hiff

/-! ## A broken row in front of an expired one -/

def storedSwap (invoice referral : Option Nat) : Swap where
  preimageHash := 0
  invoice := invoice
  version := .taproot
  chainCurrency := ⟨0, .bitcoinLike, 1⟩
  lockupAddress := 0
  timeoutBlockHeight := 800000
  acceptZeroConf := false
  expectedAmount := none
  status := invoiceSet
  failureReason := none
  onchainAmount := none
  lockupTransactionId := none
  lockupTransactionVout := none
  refundAddress := none
  rate := none
  preimage := none
  routingFee := none
  minerFee := none
  createdRefundSignature := false
  referral := referral

/-- Invoice and referral of swap 1 cannot be decoded. -/
def candidate (id : Nat) : Candidate :=
  ⟨id, "BTC/BTC", .buy, 0, storedSwap (some id) (some id)⟩

def brokenEnv : Env where
  currencies := fun symbol => if symbol = "BTC" then some 0 else none
  decode := fun _ invoice => if invoice = 1 then .error .decode else .ok true
  referrals := fun id =>
    some ⟨fun _ => if id = 1 then .error .referralConfig else .ok (some 3600)⟩
  now := 7200
  rows := fun id => some (storedSwap (some id) (some id))

/-- Swap 2 is failed when it is checked first, and by neither checker behind swap 1. -/
theorem broken_candidate_in_front :
    (∀ checker, (check brokenEnv checker [candidate 1, candidate 2]).acts = [] ∧
      (check brokenEnv checker [candidate 2, candidate 1]).acts =
        [.updated 2 invoiceFailedToPay checker.failureReason,
          .published ⟨2, invoiceFailedToPay, checker.failureReason⟩]) ∧
      ¬FaultIsolated brokenEnv .invoice [candidate 1, candidate 2] ∧
      ¬FaultIsolated brokenEnv .custom [candidate 1, candidate 2] := by
  refine ⟨fun checker => ?_, fun h => ?_, fun h => ?_⟩
  · cases checker <;> exact ⟨by decide +kernel, by decide +kernel⟩
  · exact absurd (h _ (.refl _)) (by decide +kernel)
  · exact absurd (h _ (.refl _)) (by decide +kernel)

end Boltz.ExpirationSweeps
