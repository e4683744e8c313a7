import Boltz.Swap.SendFailures

/-!
# Lockups that failed after the coins were sent

`handleSwapSendFailed` moves the swap to `transaction.failed` and cancels the hold invoice. One
`catch` runs it for everything a lockup function does, so it also runs when the coins are sent
and what follows throws: a look-up of the wallet, the label, the row or a listener.
-/

namespace Boltz.SendFailures

open Async SwapUpdateEvent

/-! ## What an act means for the swap -/

def isBroadcast : Act → Bool
  | .broadcast _ _ => true
  | _ => false

/-- What `handleSwapSendFailed` does to the swap. -/
def isCompensation : Act → Bool
  | .cancelledHoldInvoice _ => true
  | .updated (.status status _) => status == transactionFailed
  | _ => false

/-- Coins that were broadcast are not given up. -/
def ReallyFailed (run : Run Unit) : Prop :=
  run.Takes (isBroadcast ·) → ¬run.Takes (isCompensation ·)

/-! ## What the outcomes of the calls lead to -/

def isOk {α : Type} : Call α → Bool
  | .ok _ => true
  | .error _ => false

def WalletCalls.broadcasts (calls : WalletCalls) : Bool := isOk calls.before && isOk calls.send

namespace Calls

def permitted (calls : Calls) (approval : SendApprovalAction) : Bool :=
  !calls.signerDisabled && approval == .accept

/-- The row is stored and the listeners return. -/
def booked (calls : Calls) : Bool := calls.storeLockup.returns && isOk calls.coinsSent

/-- The cancellation or the failed status takes effect. -/
def givesUp (calls : Calls) (lightningClient : Bool) : Bool :=
  lightningClient && calls.cancelHoldInvoice.happens || calls.storeStatus.happens

end Calls

namespace UtxoCalls

def feeKnown (calls : UtxoCalls) (swap : LockupSwap) : Bool :=
  match swap.minerFeeInvoice with
  | some invoice => isOk (calls.decodeMinerFeeInvoice invoice)
  | none => isOk calls.estimateFee

def broadcasts (calls : UtxoCalls) (swap : LockupSwap) (approval : SendApprovalAction) : Bool :=
  calls.permitted approval && calls.feeKnown swap && calls.wallet.broadcasts

def booksLockup (calls : UtxoCalls) : Bool := isOk calls.wallet.lookup && calls.booked

end UtxoCalls

namespace VtxoCalls

def broadcasts (calls : VtxoCalls) (approval : SendApprovalAction) : Bool :=
  calls.permitted approval && calls.wallet.broadcasts

def booksLockup (calls : VtxoCalls) : Bool := isOk calls.wallet.lookup && calls.booked

end VtxoCalls

namespace ContractCalls

def contractsFound (calls : ContractCalls) : Bool :=
  match calls.contractsForAddress with
  | .ok found => found
  | .error _ => false

def broadcasts (calls : ContractCalls) (approval : SendApprovalAction) : Bool :=
  calls.permitted approval && calls.nurseryFound && calls.contractsFound &&
    isOk calls.prepareLock && isOk calls.lock

/-- The fee of the transaction is known. -/
def feeKnown (calls : ContractCalls) : Bool :=
  match calls.lock with
  | .ok tx => isOk (calculateEthereumTransactionFee tx)
  | .error _ => true

def booksLockup (calls : ContractCalls) : Bool :=
  calls.addLabel.returns && calls.feeKnown && calls.booked

end ContractCalls

/-! ## The steps -/

section steps

variable {calls : Calls} {swap : LockupSwap} {approval : SendApprovalAction}

theorem error_iff {α : Type} {c : Call α} : (∃ e, c = .error e) ↔ isOk c = false := by
  cases c <;> simp [isOk]

@[simp] theorem fails_when (c : Bool) (e : Error) :
    (Traced.when c (Traced.throw e) : Run Unit).Fails ↔ c = true := by
  cases c <;> simp [Traced.when]

@[simp] theorem Effect.takes_run (effect : Effect) (x : Act) (kind : Act → Prop) :
    (effect.run x).Takes kind ↔ effect.happens = true ∧ kind x := by
  unfold Effect.run
  rw [Traced.takes_bind]
  simp

@[simp] theorem Effect.fails_run (effect : Effect) (x : Act) :
    (effect.run x).Fails ↔ effect.returns = false := by
  cases effect <;> simp [Effect.run, Traced.fails_bind, Effect.happens, Effect.returns, Traced.when]

variable (calls swap approval)

@[simp] theorem takes_assertLockupSignerEnabled (kind : Act → Prop) :
    ¬(assertLockupSignerEnabled calls swap).Takes kind := by
  simp [assertLockupSignerEnabled]

@[simp] theorem takes_assertSendApproved (kind : Act → Prop) :
    ¬(assertSendApproved approval).Takes kind := by
  simp [assertSendApproved]

/-- Both checks at the start of a lockup. -/
theorem permitted_iff :
    calls.permitted approval = true ↔ calls.signerDisabled = false ∧ approval = .accept := by
  unfold Calls.permitted
  rw [Bool.and_eq_true, Bool.not_eq_true', beq_iff_eq]

theorem setServerLockup_spec (transactionId amount fee : Nat) (vout : Option Nat) :
    ((setServerLockupTransaction calls swap transactionId amount fee vout).Fails ↔
        calls.storeLockup.returns = false) ∧
      ¬(setServerLockupTransaction calls swap transactionId amount fee vout).Takes (isBroadcast ·) ∧
      ¬(setServerLockupTransaction calls swap transactionId amount fee vout).Takes
        (isCompensation ·) := by
  unfold setServerLockupTransaction
  simp [isBroadcast, isCompensation]

/-- What `handleSwapSendFailed` does to the swap, whatever the error was. -/
theorem takes_handleSwapSendFailed (lightningClient : Bool) :
    (handleSwapSendFailed calls swap lightningClient).Takes (isCompensation ·) ↔
      calls.givesUp lightningClient = true := by
  have hcancel : ((calls.cancelHoldInvoice.run (.cancelledHoldInvoice swap.preimageHash)).catching
      fun _ => pure ()).Takes (isCompensation ·) ↔ calls.cancelHoldInvoice.happens = true := by
    rw [Traced.takes_catching]
    simp [isCompensation]
  have hended : ∃ u, (Traced.when lightningClient
      ((calls.cancelHoldInvoice.run (.cancelledHoldInvoice swap.preimageHash)).catching
        fun _ => pure ())).result = .ok u := by
    rw [← Traced.not_fails_iff]
    cases lightningClient <;> simp [Traced.when, Traced.fails_catching]
  obtain ⟨u, hu⟩ := hended
  unfold handleSwapSendFailed Calls.givesUp
  rw [Traced.takes_bind, Traced.takes_when, hcancel]
  simp [hu, Traced.takes_bind, setStatus, isCompensation]

theorem handleSwapSendFailed_broadcasts (lightningClient : Bool) :
    ¬(handleSwapSendFailed calls swap lightningClient).Takes (isBroadcast ·) := by
  unfold handleSwapSendFailed setStatus
  simp [Traced.takes_bind, Traced.takes_catching, isBroadcast]

end steps

/-! ## The parts of a lockup -/

/-- What holds of a body that is run until it throws: when it broadcasts, that it throws when it
does not or when the bookkeeping fails, and that it never gives up the swap itself. -/
structure BodySpec {α : Type} (body : Run α) (sends books : Prop) : Prop where
  broadcasts : body.Takes (isBroadcast ·) ↔ sends
  fails : body.Fails ↔ ¬sends ∨ ¬books
  keeps : ¬body.Takes (isCompensation ·)

namespace BodySpec

variable {α β : Type} {m : Run α} {f : α → Run β} {sends books C : Prop}

/-- A check before the coins are sent. -/
theorem check (hsent : ¬m.Takes (isBroadcast ·)) (hkeeps : ¬m.Takes (isCompensation ·))
    (hfails : m.Fails ↔ ¬C) (hf : ∀ a, m.result = .ok a → BodySpec (f a) sends books) :
    BodySpec (m >>= f) (C ∧ sends) books where
  broadcasts := by
    rw [Traced.takes_bind_right hsent fun a ha => (hf a ha).broadcasts, hfails, not_not]
  fails := by
    rw [Traced.fails_bind_of fun a ha => (hf a ha).fails, hfails]
    tauto
  keeps := by
    rw [Traced.takes_bind_of fun a ha => iff_false_intro (hf a ha).keeps, and_false, or_false]
    exact hkeeps

/-- The bookkeeping after the coins are sent. -/
theorem book {rest : Prop} (hm : BodySpec m sends books)
    (hsent : ∀ a, ¬(f a).Takes (isBroadcast ·)) (hkeeps : ∀ a, ¬(f a).Takes (isCompensation ·))
    (hfails : ∀ a, m.result = .ok a → ((f a).Fails ↔ ¬rest)) :
    BodySpec (m >>= f) sends (books ∧ rest) where
  broadcasts := by
    rw [Traced.takes_bind_of fun a _ => iff_false_intro (hsent a), and_false, or_false,
      hm.broadcasts]
  fails := by
    rw [Traced.fails_bind_of hfails, hm.fails]
    tauto
  keeps := Traced.not_takes_bind hm.keeps hkeeps

/-- The coins are given up exactly when they were sent, a later step threw and giving up takes
effect. -/
theorem reallyFailed_iff {body : Run α} (hbody : BodySpec body sends books)
    {handler : Error → Run α} (hsent : ∀ e, ¬(handler e).Takes (isBroadcast ·))
    (hgiven : ∀ e, (handler e).Takes (isCompensation ·) ↔ C) :
    ((body.catching handler).Takes (isBroadcast ·) →
        ¬(body.catching handler).Takes (isCompensation ·)) ↔
      (sends → books ∨ ¬C) := by
  have hundone := Traced.undone_iff hbody.keeps hsent hgiven
  rw [hbody.broadcasts, hbody.fails] at hundone
  tauto

theorem of_iff {sends' books' : Prop} (hm : BodySpec m sends books) (hsends : sends ↔ sends')
    (hbooks : books ↔ books') : BodySpec m sends' books' := by
  rwa [← propext hsends, ← propext hbooks]

theorem broadcast (transactionId : Nat) (payment : Payment) :
    BodySpec (Traced.act (.broadcast transactionId payment)) True True where
  broadcasts := by simp [isBroadcast]
  fails := by simp
  keeps := by simp [isCompensation]

theorem call {outcome : Call α} (hf : ∀ a, outcome = .ok a → BodySpec (f a) sends books) :
    BodySpec (Traced.call outcome >>= f) (isOk outcome = true ∧ sends) books :=
  check (Traced.takes_call outcome) (Traced.takes_call outcome)
    (by rw [Traced.fails_call, error_iff, Bool.not_eq_true]) hf

end BodySpec

section parts

variable (swap : LockupSwap) (approval : SendApprovalAction)

theorem sendToAddress_spec (calls : WalletCalls) (address amount : Nat) (rate : Option Nat) :
    BodySpec (sendToAddress calls address amount rate) (calls.broadcasts = true)
      (isOk calls.lookup = true) := by
  have hspec : BodySpec (sendToAddress calls address amount rate)
      (isOk calls.before = true ∧ isOk calls.send = true ∧ True)
      (True ∧ isOk calls.lookup = true) :=
    .call fun _ _ => .call fun _ _ => (BodySpec.broadcast _ _).book
      (fun _ => by simp [Traced.takes_bind]) (fun _ => by simp [Traced.takes_bind])
      (fun _ _ => by
        rw [Traced.fails_bind_of fun _ _ => iff_false_intro (Traced.fails_pure _), or_false,
          Traced.fails_call, error_iff, Bool.not_eq_true])
  refine hspec.of_iff ?_ (by rw [true_and])
  rw [WalletCalls.broadcasts, Bool.and_eq_true, and_true]

/-- The two checks in front of a lockup. -/
theorem permitted_spec {α : Type} {sends books : Prop} {rest : Run α} (calls : Calls)
    (hrest : BodySpec rest sends books) :
    BodySpec (do
      assertLockupSignerEnabled calls swap
      assertSendApproved approval
      rest) (calls.permitted approval = true ∧ sends) books := by
  have hspec := BodySpec.check (f := fun _ => assertSendApproved approval >>= fun _ => rest)
    (m := assertLockupSignerEnabled calls swap) (C := calls.signerDisabled = false)
    (takes_assertLockupSignerEnabled calls swap _) (takes_assertLockupSignerEnabled calls swap _)
    (by rw [assertLockupSignerEnabled, fails_when, Bool.not_eq_false]) fun _ _ =>
      BodySpec.check (C := approval = .accept) (takes_assertSendApproved approval _)
        (takes_assertSendApproved approval _)
        (by rw [assertSendApproved, fails_when, decide_eq_true_eq]) fun _ _ => hrest
  refine hspec.of_iff ?_ Iff.rfl
  rw [permitted_iff, and_assoc]

/-- Storing the row and telling the listeners. -/
theorem bookLockup_fails (calls : Calls) (transactionId amount fee : Nat) (vout : Option Nat) :
    (do setServerLockupTransaction calls swap transactionId amount fee vout
        Traced.call calls.coinsSent : Run Unit).Fails ↔ ¬calls.booked = true := by
  rw [Traced.fails_bind_of (fun _ _ => Traced.fails_call calls.coinsSent),
    (setServerLockup_spec calls swap transactionId amount fee vout).1, error_iff,
    Calls.booked, Bool.and_eq_true, not_and_or, Bool.not_eq_true, Bool.not_eq_true]

theorem feePerVbyte_takes (calls : UtxoCalls) (kind : Act → Prop) :
    ¬(feePerVbyte calls swap).Takes kind := by
  unfold feePerVbyte
  split <;> simp [Traced.takes_bind]

theorem feePerVbyte_fails (calls : UtxoCalls) :
    (feePerVbyte calls swap).Fails ↔ ¬calls.feeKnown swap = true := by
  unfold feePerVbyte UtxoCalls.feeKnown
  cases swap.minerFeeInvoice with
  | none => rw [Traced.fails_call, error_iff, Bool.not_eq_true]
  | some invoice =>
    rw [Traced.fails_bind_of fun _ _ => iff_false_intro (Traced.fails_pure _), or_false,
      Traced.fails_call, error_iff, Bool.not_eq_true]

theorem sendLock_spec (calls : ContractCalls) (label : String) (payment : Payment) :
    BodySpec (sendLock calls label payment)
      (isOk calls.prepareLock = true ∧ isOk calls.lock = true) (calls.addLabel.returns = true) := by
  have hspec : BodySpec (sendLock calls label payment)
      (isOk calls.prepareLock = true ∧ isOk calls.lock = true ∧ True)
      (True ∧ calls.addLabel.returns = true) :=
    .call fun _ _ => .call fun _ _ => (BodySpec.broadcast _ _).book
      (fun _ => by simp [Traced.takes_bind, isBroadcast])
      (fun _ => by simp [Traced.takes_bind, isCompensation])
      (fun _ _ => by
        rw [Traced.fails_bind_of fun _ _ => iff_false_intro (Traced.fails_pure _), or_false,
          Effect.fails_run, Bool.not_eq_true])
  exact hspec.of_iff (by rw [and_true]) (by rw [true_and])

end parts

/-! ## The lockup functions -/

section lockups

variable (swap : LockupSwap) (approval : SendApprovalAction) (lightningClient : Bool)

theorem reallyFailed_lockupVtxo (calls : VtxoCalls) :
    ReallyFailed (lockupVtxo calls swap approval lightningClient) ↔
      (calls.broadcasts approval = true →
        calls.booksLockup = true ∨ ¬calls.givesUp lightningClient = true) := by
  have hspec := permitted_spec swap approval calls.toCalls
    ((sendToAddress_spec calls.wallet swap.details.lockupAddress (lockupAmount swap) none).book
      (f := fun sent => do
        setServerLockupTransaction calls.toCalls swap sent.1 (lockupAmount swap) sent.2.2
          (some sent.2.1)
        Traced.call calls.coinsSent)
      (fun _ => Traced.not_takes_bind (setServerLockup_spec ..).2.1 fun _ => Traced.takes_call _)
      (fun _ => Traced.not_takes_bind (setServerLockup_spec ..).2.2 fun _ => Traced.takes_call _)
      (fun _ _ => bookLockup_fails ..))
  rw [← Bool.and_eq_true, ← Bool.and_eq_true] at hspec
  exact hspec.reallyFailed_iff (fun _ => handleSwapSendFailed_broadcasts _ _ _)
    fun _ => takes_handleSwapSendFailed _ _ _

theorem lockupUtxo_body_spec (calls : UtxoCalls) :
    BodySpec (do
      assertLockupSignerEnabled calls.toCalls swap
      assertSendApproved approval
      let feePerVbyte ← feePerVbyte calls swap
      let (transactionId, vout, fee) ← sendToAddress calls.wallet swap.details.lockupAddress
        (lockupAmount swap) (some feePerVbyte)
      setServerLockupTransaction calls.toCalls swap transactionId (lockupAmount swap) fee
        (some vout)
      Traced.call calls.coinsSent
      pure true : Run Bool) (calls.broadcasts swap approval = true)
      (calls.booksLockup = true) := by
  have hspec := permitted_spec swap approval calls.toCalls <|
    BodySpec.check (C := calls.feeKnown swap = true) (feePerVbyte_takes swap calls _)
      (feePerVbyte_takes swap calls _) (feePerVbyte_fails swap calls) fun rate _ =>
      (sendToAddress_spec calls.wallet swap.details.lockupAddress (lockupAmount swap)
        (some rate)).book
        (f := fun sent => do
          setServerLockupTransaction calls.toCalls swap sent.1 (lockupAmount swap) sent.2.2
            (some sent.2.1)
          Traced.call calls.coinsSent
          pure true)
        (fun _ => Traced.not_takes_bind (setServerLockup_spec ..).2.1 fun _ =>
          Traced.not_takes_bind (Traced.takes_call _) fun _ => Traced.takes_pure _)
        (fun _ => Traced.not_takes_bind (setServerLockup_spec ..).2.2 fun _ =>
          Traced.not_takes_bind (Traced.takes_call _) fun _ => Traced.takes_pure _)
        (fun sent _ => by
          rw [← bookLockup_fails swap calls.toCalls sent.1 (lockupAmount swap) sent.2.2
            (some sent.2.1)]
          refine (Traced.fails_bind_of fun _ _ => ?_).trans
            (Traced.fails_bind_of fun _ _ => Iff.rfl).symm
          rw [Traced.fails_bind_of fun _ _ => iff_false_intro (Traced.fails_pure _), or_false])
  rw [← Bool.and_eq_true, ← Bool.and_eq_true, ← Bool.and_eq_true, ← Bool.and_assoc] at hspec
  exact hspec

/-- Registering the claim neither sends coins nor gives them up. -/
theorem registerForClaim_takes (calls : UtxoCalls) (sent : Bool) {kind : Act → Prop}
    (hkind : ¬kind (.registeredForClaim swap.id)) :
    ¬(Traced.when (sent && swap.type == .chain) (do
      Traced.call calls.registerForClaim
      Traced.act (.registeredForClaim swap.id)) : Run Unit).Takes kind := by
  rw [Traced.takes_when]
  rintro ⟨-, h⟩
  exact Traced.not_takes_bind (Traced.takes_call _) (fun _ => by rwa [Traced.takes_act]) h

theorem reallyFailed_lockupUtxo (calls : UtxoCalls) :
    ReallyFailed (lockupUtxo calls swap approval lightningClient) ↔
      (calls.broadcasts swap approval = true →
        calls.booksLockup = true ∨ ¬calls.givesUp lightningClient = true) := by
  have hsent : ∀ _ : Error, ¬(do
      handleSwapSendFailed calls.toCalls swap lightningClient
      pure false : Run Bool).Takes (isBroadcast ·) := fun _ =>
    Traced.not_takes_bind (handleSwapSendFailed_broadcasts _ _ _) fun _ => Traced.takes_pure _
  have hgiven : ∀ _ : Error, (do
      handleSwapSendFailed calls.toCalls swap lightningClient
      pure false : Run Bool).Takes (isCompensation ·) ↔
        calls.givesUp lightningClient = true := fun _ => by
    rw [Traced.takes_bind_of fun _ _ => iff_false_intro (Traced.takes_pure _), and_false, or_false,
      takes_handleSwapSendFailed]
  have hcaught := (lockupUtxo_body_spec swap approval calls).reallyFailed_iff hsent hgiven
  rw [← hcaught]
  unfold ReallyFailed lockupUtxo
  rw [Traced.takes_bind_of fun sent _ => iff_false_intro
      (registerForClaim_takes swap calls sent Bool.false_ne_true),
    Traced.takes_bind_of fun sent _ => iff_false_intro
      (registerForClaim_takes swap calls sent Bool.false_ne_true),
    and_false, or_false, or_false]

/-- Calculating the fee, storing the row and telling the listeners. -/
theorem bookContract_fails (calls : ContractCalls) (label : String) (payment : Payment)
    {tx : ContractTransactionResponse} (htx : (sendLock calls label payment).result = .ok tx) :
    (do let fee ← Traced.call (calculateEthereumTransactionFee tx)
        setServerLockupTransaction calls.toCalls swap tx.hash swap.details.expectedAmount fee none
        Traced.act (.tracked tx.hash)
        Traced.call calls.coinsSent : Run Unit).Fails ↔
      ¬(calls.feeKnown = true ∧ calls.booked = true) := by
  have hlock : calls.lock = .ok tx := by
    unfold sendLock at htx
    obtain ⟨_, -, h⟩ := Traced.result_bind_ok.mp htx
    obtain ⟨response, hresponse, h⟩ := Traced.result_bind_ok.mp h
    obtain ⟨_, -, h⟩ := Traced.result_bind_ok.mp h
    obtain ⟨_, -, h⟩ := Traced.result_bind_ok.mp h
    rw [Traced.result_pure, Except.ok.injEq] at h
    rwa [← h]
  have hfee : calls.feeKnown = isOk (calculateEthereumTransactionFee tx) := by
    rw [ContractCalls.feeKnown, hlock]
  rw [hfee, Traced.fails_bind_of (C := ¬calls.booked = true) fun fee _ => ?_, Traced.fails_call,
    error_iff, ← Bool.not_eq_true, not_and_or]
  rw [← bookLockup_fails swap calls.toCalls tx.hash swap.details.expectedAmount fee none]
  refine (Traced.fails_bind_of fun _ _ => ?_).trans (Traced.fails_bind_of fun _ _ => Iff.rfl).symm
  rw [Traced.fails_bind_of fun _ _ => Iff.rfl]
  simp

/-- Finding the contracts of the lockup address. -/
theorem contracts_spec {α : Type} {sends books : Prop} {rest : Run α} (calls : ContractCalls)
    (hrest : BodySpec rest sends books) :
    BodySpec (do
      Traced.when (!calls.nurseryFound) (Traced.throw (.message "no nursery"))
      let contracts ← Traced.call calls.contractsForAddress
      Traced.when (!contracts) (Traced.throw (.message "no contracts"))
      rest) (calls.nurseryFound = true ∧ calls.contractsFound = true ∧ sends) books := by
  refine BodySpec.check (C := calls.nurseryFound = true) (by simp) (by simp) (by simp) fun _ _ => ?_
  have hspec : BodySpec (do
      let contracts ← Traced.call calls.contractsForAddress
      Traced.when (!contracts) (Traced.throw (.message "no contracts"))
      rest) (isOk calls.contractsForAddress = true ∧ calls.contractsFound = true ∧ sends) books := by
    refine .call fun found hfound => ?_
    have heq : calls.contractsFound = found := by rw [ContractCalls.contractsFound, hfound]
    rw [heq]
    exact BodySpec.check (by simp) (by simp) (by simp) fun _ _ => hrest
  refine hspec.of_iff (and_iff_right_of_imp fun ⟨hfound, _⟩ => ?_) Iff.rfl
  unfold ContractCalls.contractsFound at hfound
  cases hcalls : calls.contractsForAddress with
  | ok found => rfl
  | error e => rw [hcalls] at hfound; exact absurd hfound Bool.false_ne_true

theorem reallyFailed_lockupContract (formatAmount : Nat → Nat) (calls : ContractCalls) :
    ReallyFailed (lockupContract formatAmount calls swap approval lightningClient) ↔
      (calls.broadcasts approval = true →
        calls.booksLockup = true ∨ ¬calls.givesUp lightningClient = true) := by
  have hspec := permitted_spec swap approval calls.toCalls <| contracts_spec calls <|
    (sendLock_spec calls (lockupLabel swap swap.minerFeeOnchainAmount.isSome)
      (.lock swap.preimageHash (formatAmount swap.details.expectedAmount)
        (swap.minerFeeOnchainAmount.map (· * Ethereum.etherDecimals)) swap.details.claimAddress
        swap.details.timeoutBlockHeight)).book
      (fun _ => Traced.not_takes_bind (Traced.takes_call _) fun _ =>
        Traced.not_takes_bind (setServerLockup_spec ..).2.1 fun _ =>
          Traced.not_takes_bind (by simp [isBroadcast]) fun _ => Traced.takes_call _)
      (fun _ => Traced.not_takes_bind (Traced.takes_call _) fun _ =>
        Traced.not_takes_bind (setServerLockup_spec ..).2.2 fun _ =>
          Traced.not_takes_bind (by simp [isCompensation]) fun _ => Traced.takes_call _)
      (fun _ htx => bookContract_fails swap calls _ _ htx)
  have hsends : calls.broadcasts approval = true ↔
      calls.permitted approval = true ∧ calls.nurseryFound = true ∧ calls.contractsFound = true ∧
        isOk calls.prepareLock = true ∧ isOk calls.lock = true := by
    simp only [ContractCalls.broadcasts, Bool.and_eq_true, and_assoc]
  have hbooks : calls.booksLockup = true ↔
      calls.addLabel.returns = true ∧ calls.feeKnown = true ∧ calls.booked = true := by
    simp only [ContractCalls.booksLockup, Bool.and_eq_true, and_assoc]
  exact (hspec.of_iff hsends.symm hbooks.symm).reallyFailed_iff
    (fun _ => handleSwapSendFailed_broadcasts _ _ _) fun _ => takes_handleSwapSendFailed _ _ _

end lockups

/-- Coins that were broadcast are given up exactly when a later step throws and giving up takes
effect: for every outcome of every call of the four functions. -/
theorem failed_lockups_really_failed (swap : LockupSwap) (approval : SendApprovalAction)
    (lightningClient : Bool) :
    (∀ calls : UtxoCalls, ReallyFailed (lockupUtxo calls swap approval lightningClient) ↔
      (calls.broadcasts swap approval = true →
        calls.booksLockup = true ∨ ¬calls.givesUp lightningClient = true)) ∧
    (∀ calls : VtxoCalls, ReallyFailed (lockupVtxo calls swap approval lightningClient) ↔
      (calls.broadcasts approval = true →
        calls.booksLockup = true ∨ ¬calls.givesUp lightningClient = true)) ∧
    (∀ calls : ContractCalls, ReallyFailed (lockupEther calls swap approval lightningClient) ↔
      (calls.broadcasts approval = true →
        calls.booksLockup = true ∨ ¬calls.givesUp lightningClient = true)) ∧
    ∀ (decimals : Nat) (calls : ContractCalls),
      ReallyFailed (lockupERC20 decimals calls swap approval lightningClient) ↔
        (calls.broadcasts approval = true →
          calls.booksLockup = true ∨ ¬calls.givesUp lightningClient = true) :=
  ⟨reallyFailed_lockupUtxo swap approval lightningClient,
    reallyFailed_lockupVtxo swap approval lightningClient,
    reallyFailed_lockupContract swap approval lightningClient _,
    fun decimals => reallyFailed_lockupContract swap approval lightningClient
      (Ethereum.formatTokenAmount decimals)⟩

/-- A lockup whose coins are sent while the write of the row is rejected. -/
def rejectedWrite : UtxoCalls where
  signerDisabled := false
  storeLockup := .rejected
  coinsSent := .ok ()
  cancelHoldInvoice := .done
  storeStatus := .done
  coinsFailedToSend := .ok ()
  decodeMinerFeeInvoice _ := .ok 0
  estimateFee := .ok 2
  wallet := { before := .ok (), send := .ok 7, lookup := .ok (0, 300) }
  registerForClaim := .ok ()

def reverseLockup : LockupSwap where
  id := "rs"
  preimageHash := 1
  failureReason := none
  details :=
    { lockupAddress := 5, expectedAmount := 100000, claimAddress := none, timeoutBlockHeight := 800 }
  kind := .reverse none none

/-- The hold invoice is cancelled although the coins can be claimed. -/
theorem sent_and_given_up :
    (lockupUtxo rejectedWrite reverseLockup .accept true).acts =
      [.broadcast 7 (.utxo 5 100000 (some 2)), .cancelledHoldInvoice 1,
        .updated (.status transactionFailed (some "onchain coins could not be sent"))] ∧
    ¬ReallyFailed (lockupUtxo rejectedWrite reverseLockup .accept true) := by
  have hacts : (lockupUtxo rejectedWrite reverseLockup .accept true).acts =
      [.broadcast 7 (.utxo 5 100000 (some 2)), .cancelledHoldInvoice 1,
        .updated (.status transactionFailed (some "onchain coins could not be sent"))] := by
    decide
  refine ⟨hacts, fun h => h ⟨.broadcast 7 (.utxo 5 100000 (some 2)), ?_, rfl⟩
    ⟨.cancelledHoldInvoice 1, ?_, rfl⟩⟩
  · rw [hacts]
    decide
  · rw [hacts]
    decide

end Boltz.SendFailures
