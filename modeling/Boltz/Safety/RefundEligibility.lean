import Boltz.Service.RefundEligibility

/-!
# Refunds while a payment may still succeed

A look-up that fails is read as a node without a payment. Which swaps are eligible is exactly
known from what the look-ups settle with; no payment is missed when a node reports one.
-/

namespace Boltz.MusigSigner.Lookups

open Async Lightning Ethereum SwapUpdateEvent

/-- A node says that it has a payment of the swap. -/
def ReportsPayment (currency : LightningCurrency) (row : Swap) : Prop :=
  (∃ client ∈ currency.lndClients, client.ReportsPayment row.preimageHash) ∨
    ∃ client ∈ currency.clnClient, ∃ invoice ∈ row.invoice, client.ReportsPayment invoice

/-- A look-up of a node never settles. -/
def NeverSettles (currency : LightningCurrency) (row : Swap) : Prop :=
  (∃ client ∈ currency.lndClients, client.trackPayment row.preimageHash = .unsettled) ∨
    ∃ client ∈ currency.clnClient, ∃ invoice ∈ row.invoice,
      client.checkPayStatus invoice = .unsettled

/-- A look-up of a node fails: an LND node rejects it with another error than those that say that it
has no payment of the hash, or a call to the CLN node is rejected. -/
def LookupFails (notFound : CallError → Prop) (currency : LightningCurrency) (row : Swap) : Prop :=
  (∃ client ∈ currency.lndClients, ∃ e,
    client.trackPayment row.preimageHash = .rejected e ∧ ¬notFound e) ∨
    ∃ client ∈ currency.clnClient, ∃ invoice ∈ row.invoice, ∃ e,
      client.checkPayStatus invoice = .rejected (.object e)

/-! ## The look-ups -/

section lookups

variable {client : LndClient} {paymentHash : Nat}

theorem reportsPayment_resolved {payment : LndPayment}
    (h : client.trackPayment paymentHash = .resolved payment) :
    client.ReportsPayment paymentHash ↔ payment.status ≠ .failed := by
  simp [LndClient.ReportsPayment, h]

theorem hasLndPayment_eq_false {clients : List LndClient} :
    hasLndPayment paymentHash clients = .resolved false ↔
      ∀ client ∈ clients, ¬client.ReportsPayment paymentHash ∧
        client.trackPayment paymentHash ≠ .unsettled := by
  induction clients with
  | nil => simp [hasLndPayment]
  | cons client rest ih =>
    rw [List.forall_mem_cons, ← ih, hasLndPayment]
    cases htrack : client.trackPayment paymentHash with
    | unsettled => simp [Promise.mapRejected]
    | rejected e => simp [Promise.mapRejected, LndClient.ReportsPayment, htrack]
    | resolved payment =>
      rw [reportsPayment_resolved htrack]
      by_cases hstatus : payment.status = .failed
      · simp [Promise.mapRejected, hstatus]
      · simp [Promise.mapRejected, hstatus]

variable {cln : ClnClient} {invoice : Nat}

theorem hasClnPayment_some_eq_false :
    hasClnPayment (some cln) (some invoice) = .resolved false ↔
      ¬cln.ReportsPayment invoice ∧ cln.checkPayStatus invoice ≠ .unsettled := by
  rw [← ClnClient.showsPayment_checkPayStatus, hasClnPayment, ClnClient.ShowsPayment]
  cases hcheck : cln.checkPayStatus invoice with
  | unsettled => simp
  | rejected e => simp
  | resolved payment => cases payment <;> simp

theorem hasClnPayment_eq_false {clnClient : Option ClnClient} {invoice : Option Nat} :
    hasClnPayment clnClient invoice = .resolved false ↔
      ∀ client ∈ clnClient, ∀ i ∈ invoice, ¬client.ReportsPayment i ∧
        client.checkPayStatus i ≠ .unsettled := by
  cases clnClient with
  | none => simp [hasClnPayment]
  | some client =>
    cases invoice with
    | none => simp [hasClnPayment]
    | some invoice =>
      rw [hasClnPayment_some_eq_false]
      simp

theorem hasPendingOrSuccessfulLightningPayment_eq_false {currency : LightningCurrency}
    {row : Swap} :
    hasPendingOrSuccessfulLightningPayment currency (.submarine row) = .resolved false ↔
      ¬ReportsPayment currency row ∧ ¬NeverSettles currency row := by
  unfold hasPendingOrSuccessfulLightningPayment
  rw [Promise.bind_eq_resolved]
  have hif : (∃ found, hasLndPayment row.preimageHash currency.lndClients = .resolved found ∧
      (if found = true then pure true else hasClnPayment currency.clnClient row.invoice) =
        Promise.resolved false) ↔
      hasLndPayment row.preimageHash currency.lndClients = .resolved false ∧
        hasClnPayment currency.clnClient row.invoice = .resolved false := by
    simp [Bool.exists_bool]
  rw [hif, hasLndPayment_eq_false, hasClnPayment_eq_false]
  unfold ReportsPayment NeverSettles
  constructor
  · rintro ⟨hlnd, hcln⟩
    constructor
    · rintro (⟨client, hmem, h⟩ | ⟨client, hmem, invoice, hinvoice, h⟩)
      · exact (hlnd client hmem).1 h
      · exact (hcln client hmem invoice hinvoice).1 h
    · rintro (⟨client, hmem, h⟩ | ⟨client, hmem, invoice, hinvoice, h⟩)
      · exact (hlnd client hmem).2 h
      · exact (hcln client hmem invoice hinvoice).2 h
  · rintro ⟨hreports, hsettles⟩
    constructor
    · intro client hmem
      exact ⟨fun h => hreports (.inl ⟨client, hmem, h⟩),
        fun h => hsettles (.inl ⟨client, hmem, h⟩)⟩
    · intro client hmem invoice hinvoice
      exact ⟨fun h => hreports (.inr ⟨client, hmem, invoice, hinvoice, h⟩),
        fun h => hsettles (.inr ⟨client, hmem, invoice, hinvoice, h⟩)⟩

theorem lightningPayment_eq_false {lightningCurrency : Option LightningCurrency} {row : Swap} :
    lightningPayment lightningCurrency (.submarine row) = .resolved false ↔
      ∀ currency ∈ lightningCurrency,
        ¬ReportsPayment currency row ∧ ¬NeverSettles currency row := by
  cases lightningCurrency with
  | none => simp [lightningPayment]
  | some currency =>
    rw [lightningPayment, hasPendingOrSuccessfulLightningPayment_eq_false]
    simp

end lookups

/-! ## Eligibility -/

section eligibility

variable {notFound : CallError → Prop} {refundTransaction : Promise Thrown (Option RefundStatus)}
  {row : Swap} {lightningCurrency : Option LightningCurrency}

/-- When a submarine swap is declared eligible. -/
theorem eligible_iff :
    refundNonEligibilityReason refundTransaction (.submarine row) lightningCurrency =
        .resolved none ↔
      row.version = .taproot ∧ row.status ∈ failedSwapUpdateEvents ∧
        ∀ currency ∈ lightningCurrency,
          ¬ReportsPayment currency row ∧ ¬NeverSettles currency row := by
  unfold refundNonEligibilityReason
  by_cases hversion : row.version = .taproot
  · have hv : ¬(UserSwap.submarine row).version ≠ .taproot := not_not_intro hversion
    rw [if_neg hv, and_iff_right hversion]
    by_cases hstatus : row.status ∈ failedSwapUpdateEvents
    · rw [if_neg (by simpa [UserSwap.status] using hstatus), and_iff_right hstatus]
      rw [Promise.bind_eq_resolved, ← lightningPayment_eq_false]
      simp [refundNotConfirmed, UserSwap.serverLocked]
    · rw [if_pos (by simpa [UserSwap.status] using hstatus)]
      simp [hstatus]
  · rw [if_pos (show UserSwap.version (.submarine row) ≠ .taproot from hversion)]
    simp [hversion]

variable (notFound refundTransaction row lightningCurrency) in
/-- A swap that is declared eligible has no payment that is pending or succeeded, and no look-up of
a node that may hold one has failed. -/
def FailsClosed : Prop :=
  refundNonEligibilityReason refundTransaction (.submarine row) lightningCurrency =
      .resolved none →
    ∀ currency ∈ lightningCurrency,
      ¬currency.HasPayment row.preimageHash ∧ ¬LookupFails notFound currency row

/-- A payment or a failed look-up is missed only when no node reports a payment and every look-up
settles. -/
theorem fails_closed_iff :
    FailsClosed notFound refundTransaction row lightningCurrency ↔
      row.version ≠ .taproot ∨ row.status ∉ failedSwapUpdateEvents ∨
        ∀ currency ∈ lightningCurrency,
          currency.HasPayment row.preimageHash ∨ LookupFails notFound currency row →
            ReportsPayment currency row ∨ NeverSettles currency row := by
  unfold FailsClosed
  rw [eligible_iff]
  by_cases hversion : row.version = .taproot
  swap
  · simp [hversion]
  by_cases hstatus : row.status ∈ failedSwapUpdateEvents
  swap
  · simp [hstatus]
  simp only [hversion, hstatus, true_and, ne_eq, not_true_eq_false, false_or]
  cases lightningCurrency with
  | none => simp
  | some currency =>
    simp only [Option.mem_def, Option.some.injEq, forall_eq', ← not_or]
    exact ⟨fun h hmissed => by_contra fun hno => h hno hmissed,
      fun h hno hmissed => hno (h hmissed)⟩

end eligibility

/-- An LND node with the payment that cannot be asked. -/
def unavailable (payment : Option LndPayment) : LndClient where
  id := 1
  payments _ := payment
  trackPayment _ := .rejected (.rpc "Deadline Exceeded")
  trackPayment_reports := by
    intro _ _ h
    cases h

def paid : LndPayment := { status := .succeeded, feeMsat := 1000, paymentPreimage := 7 }

/-- A swap that expired while its invoice was being paid. -/
def expiredSwap : Swap :=
  { preimageHash := 7, invoice := some 70, version := .taproot,
    chainCurrency := { symbol := 1, type := .bitcoinLike }, lockupAddress := 3,
    timeoutBlockHeight := 100, acceptZeroConf := false, expectedAmount := some 50000,
    status := swapExpired, failureReason := some .onchainHtlcTimedOut,
    onchainAmount := some 50000, lockupTransactionId := some 11,
    lockupTransactionVout := some 0, refundAddress := none, rate := none, preimage := none,
    routingFee := none, minerFee := none, createdRefundSignature := false }

/-- The deadline of the look-up passes, and the refund is signed, of a swap that is paid as of one
of which nobody knows. -/
theorem unavailable_node_missed :
    ¬FailsClosed (· = .rpc "payment isn't initiated") (.resolved none) expiredSwap
      (some { lndClients := [unavailable (some paid)] }) ∧
    ¬FailsClosed (· = .rpc "payment isn't initiated") (.resolved none) expiredSwap
      (some { lndClients := [unavailable none] }) := by
  have heligible : ∀ payment, refundNonEligibilityReason (.resolved none) (.submarine expiredSwap)
      (some { lndClients := [unavailable payment] }) = .resolved none := fun _ => rfl
  constructor
  · intro h
    refine (h (heligible _) _ rfl).1 (.inl ⟨_, List.mem_singleton_self _, ?_⟩)
    exact ⟨paid, rfl, by decide⟩
  · intro h
    refine (h (heligible _) _ rfl).2 (.inl ⟨_, List.mem_singleton_self _, ?_⟩)
    exact ⟨.rpc "Deadline Exceeded", rfl, by decide⟩

end Boltz.MusigSigner.Lookups
