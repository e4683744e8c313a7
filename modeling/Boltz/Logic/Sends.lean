import Boltz.Logic.Tasks

/-!
# Sends of the server under a lock

What a statement about lockups has to say about the four acts of a lockup, and the rules for the
skeleton around them.
-/

namespace Boltz

open Async SwapUpdateEvent

namespace Rules

variable {K V α β : Type} {𝓡 : Rules K V} {k : K} {ks : List K} {t : Nat} {h : History}
  {A B : Obs V Label World Answer → Prop} {Q : Logic.Post Label World Answer Error α}

/-- A program of quiet acts. -/
abbrev QuietProg (𝓡 : Rules K V) (m : M α) : Prop :=
  m.Uses (fun a => 𝓡.Quiet a) 𝓡.SafeTask

theorem wp_quiet {m : M α} (hm : 𝓡.QuietProg m) (hB : 𝓡.Steady ks B) (hA : 𝓡.On ks B t h) :
    𝓡.logic.wp m t (fun _ h' => 𝓡.On ks B t h') h :=
  Guarded.wp_uses hB (hm.mono (fun _ ha => ha.keeps) fun _ hc => hc) hA

theorem wp_quiet_bind {m : M β} {f : β → M α} (hm : 𝓡.QuietProg m) (hB : 𝓡.Steady ks B)
    (hA : 𝓡.On ks B t h) (hf : ∀ b h', 𝓡.On ks B t h' → 𝓡.logic.wp (f b) t Q h')
    (he : ∀ e h', 𝓡.On ks B t h' → Q (.error e) h') : 𝓡.logic.wp (m >>= f) t Q h :=
  Guarded.wp_uses_bind hB (hm.mono (fun _ ha => ha.keeps) fun _ hc => hc) hA hf he

/-- A query under a lock. -/
theorem does_read {f : World → β} {l : Label} {C : β → Obs V Label World Answer → Prop}
    (hl : 𝓡.relevant l = false)
    (hC : ∀ t h ω, 𝓡.logic.Inv h → 𝓡.On ks B t h → 𝓡.allow l t h ω = true →
      C (f h.world) (𝓡.obs h)) : 𝓡.Does ks B (readAct l f) C := by
  refine (quiet_read hl f).does_of fun t h ω b s hi hA ha he => ?_
  cases he
  exact hC t h ω hi hA ha

theorem wp_setStatus {swap : ServerSwap} {status : SwapUpdateEvent} {reason : Option SwapError}
    {l : Label} {R : Obs V Label World Answer → Prop} {f : ServerSwap → M α}
    (ha : 𝓡.Does ks B (setStatusAct swap status reason l) fun _ => R) (hB : 𝓡.Steady ks B)
    (hA : 𝓡.On ks B t h) (hf : ∀ swap h', 𝓡.On ks R t h' → 𝓡.logic.wp (f swap) t Q h') :
    𝓡.logic.wp (WrappedSwapRepository.setStatus swap status reason l >>= f) t Q h := by
  cases swap with
  | reverse swap => exact Guarded.wp_does_bind ha hB hA fun _ h' hR => hf _ h' hR
  | chain swap => exact Guarded.wp_does_bind ha hB hA fun _ h' hR => hf _ h' hR

theorem triple_setStatus {swap : ServerSwap} {status : SwapUpdateEvent}
    {reason : Option SwapError} {l : Label} {R : Obs V Label World Answer → Prop}
    {f : ServerSwap → M α} {X : Except Error α → Obs V Label World Answer → Prop}
    (ha : 𝓡.Does ks B (setStatusAct swap status reason l) fun _ => R) (hB : 𝓡.Steady ks B)
    (hf : ∀ swap, 𝓡.Triple ks R (f swap) X) :
    𝓡.Triple ks B (WrappedSwapRepository.setStatus swap status reason l >>= f) X :=
  fun t _ hA => wp_setStatus ha hB hA fun swap h' hR => hf swap t h' hR

/-! ## The skeleton of a send -/

/-- What `withSendApproval` does with the lock. -/
def approved (id : Nat) (type : SwapType) (loadEligible : M (Option β))
    (proceed : β → SendApprovalAction → M Unit) (approval : SendApprovalAction) : M Unit := do
  match ← loadEligible with
  | none => SendApprovalHoldRepository.remove id
  | some fresh => do
    let mayProceed ← handleSendApproval id type approval
    Prog.when mayProceed (proceed fresh approval)

theorem safe_withSendApproval {id : Nat} {type : SwapType} {loadEligible : Label → M (Option β)}
    {proceed : β → SendApprovalAction → M Unit} (hk : 𝓡.lock k = lockForSwapType type)
    (hremove : 𝓡.logic.Safe (SendApprovalHoldRepository.remove id))
    (hload : 𝓡.logic.Safe (loadEligible .other))
    (hbody : ∀ approval t h, 𝓡.On [k] (𝓡.Res k) t h →
      𝓡.logic.wp (approved id type (loadEligible (.loadLockup id)) proceed approval) t
        (fun _ h' => 𝓡.On [k] (𝓡.Res k) t h') h) :
    𝓡.logic.Safe (withSendApproval id type loadEligible proceed) := by
  have hp : Plain 𝓡.FreeAct := free_plain
  refine hload.bind fun eligible => ?_
  split
  · exact hremove
  refine Logic.Safe.bind (Logic.safe_of_uses (uses_resolveSendApproval hp safe_approvalTask id))
    fun promise => ?_
  refine Logic.Safe.bind (Logic.safe_of_uses (uses_awaitSendApproval hp promise)) fun approval => ?_
  refine Logic.Safe.finally_ (fun t h _ => ?_) (closed (uses_deletePendingSendApproval hp id))
  rw [← hk]
  have h₀ : 𝓡.On [] (fun _ => True) t h := ⟨by simp, trivial⟩
  refine wp_withLock h₀ Guarded.steady_true (Guarded.steady_res (by simp)) (by simp)
    (fun _ h => h) (fun h' hA => ?_) fun _ _ _ => trivial
  exact hbody approval t h' (hA.mono fun _ ho => ho.2)

/-- What a load with the lock `k` leaves: `C` about the swap when it is eligible. -/
def loaded (𝓡 : Rules K V) (k : K) (C : β → Obs V Label World Answer → Prop) (t : Nat) :
    Logic.Post Label World Answer Error (Option β)
  | .ok (some fresh), h => 𝓡.On [k] (C fresh) t h
  | .ok none, h => 𝓡.On [k] (𝓡.Res k) t h
  | .error _, h => 𝓡.On [k] (𝓡.Res k) t h

/-- The body, when the rows of holds are not seen. -/
theorem wp_approved {id : Nat} {type : SwapType} {loadEligible : M (Option β)}
    {proceed : β → SendApprovalAction → M Unit} {C : β → Obs V Label World Answer → Prop}
    (hh : Holds fun a => 𝓡.Quiet a)
    (hload : ∀ t h, 𝓡.On [k] (𝓡.Res k) t h →
      𝓡.logic.wp loadEligible t (𝓡.loaded k C t) h)
    (hC : ∀ fresh, 𝓡.Steady [k] (C fresh)) (hres : ∀ fresh o, C fresh o → 𝓡.Res k o)
    (hproceed : ∀ fresh approval t h, 𝓡.On [k] (C fresh) t h →
      𝓡.logic.wp (proceed fresh approval) t (fun _ h' => 𝓡.On [k] (𝓡.Res k) t h') h)
    (approval : SendApprovalAction) (hA : 𝓡.On [k] (𝓡.Res k) t h) :
    𝓡.logic.wp (approved id type loadEligible proceed approval) t
      (fun _ h' => 𝓡.On [k] (𝓡.Res k) t h') h := by
  have hsteady : 𝓡.Steady [k] (𝓡.Res k) := Guarded.steady_res (by simp)
  unfold approved
  rw [Logic.wp_bind]
  refine Logic.wp_mono (hload t h hA) fun r h' hr => ?_
  match r, hr with
  | .error e, hr => exact hr
  | .ok none, hr => exact wp_quiet (uses_removeHold hh id) hsteady hr
  | .ok (some fresh), hr =>
    refine wp_quiet_bind (uses_handleSendApproval quiet_plain hh id type approval) (hC fresh) hr
      (fun mayProceed h₁ h₁C => ?_) fun _ h₁ h₁C => h₁C.mono (hres fresh)
    rw [Logic.wp_when]
    split
    · exact hproceed fresh approval t h₁ h₁C
    · exact h₁C.mono (hres fresh)

/-! ## A lockup -/

/-- The states of a lockup: `ready` before the send, `sending` from its start on, `sent` with its
result, and `ended` when the result is stored. -/
structure LockupSpec (𝓡 : Rules K V) (ks : List K) (swap : ServerSwap)
    (ready sending : Obs V Label World Answer → Prop)
    (sent : SendResult → Obs V Label World Answer → Prop)
    (ended : Obs V Label World Answer → Prop) : Prop where
  begin : 𝓡.Does ks ready (writeAct (.beginLockup swap) fun w => w) fun _ => sending
  send : 𝓡.Does ks sending (askAct (.sendLockup swap) Answer.send?) sent
  store : ∀ transactionId vout fee amount stored,
    𝓡.Does ks (sent (.sent transactionId vout fee))
      (setServerLockupAct swap transactionId amount fee stored) fun _ => ended
  unsent : 𝓡.Does ks ready
    (setStatusAct swap transactionFailed (some .coinsCouldNotBeSent) .other) fun _ => ended
  failed : ∀ r, (∀ transactionId vout fee, r ≠ .sent transactionId vout fee) →
    𝓡.Does ks (sent r)
      (setStatusAct swap transactionFailed (some .coinsCouldNotBeSent) .other) fun _ => ended
  steady_ready : 𝓡.Steady ks ready
  steady_sending : 𝓡.Steady ks sending
  steady_sent : ∀ r, 𝓡.Steady ks (sent r)
  steady_ended : 𝓡.Steady ks ended

section lockup

variable {swap : ServerSwap} {ready sending ended : Obs V Label World Answer → Prop}
  {sent : SendResult → Obs V Label World Answer → Prop}

/-- One state holds until the result is stored, when neither the start nor the send is seen. -/
theorem lockupSpec_of_unseen {state : Obs V Label World Answer → Prop}
    (hbegin : 𝓡.relevant (.beginLockup swap) = false)
    (hsend : 𝓡.relevant (.sendLockup swap) = false)
    (hstore : ∀ transactionId fee amount stored, 𝓡.Does ks state
      (setServerLockupAct swap transactionId amount fee stored) fun _ => ended)
    (hfailed : 𝓡.Does ks state
      (setStatusAct swap transactionFailed (some .coinsCouldNotBeSent) .other) fun _ => ended)
    (hstate : 𝓡.Steady ks state) (hended : 𝓡.Steady ks ended) :
    𝓡.LockupSpec ks swap state state (fun _ => state) ended where
  begin := (quiet_write hbegin fun _ => ⟨rfl, rfl⟩).does
  send := (quiet_ask hsend _).does
  store transactionId _ fee amount stored := hstore transactionId fee amount stored
  unsent := hfailed
  failed _ _ := hfailed
  steady_ready := hstate
  steady_sending := hstate
  steady_sent _ := hstate
  steady_ended := hended

theorem wp_handleSwapSendFailed (hB : 𝓡.Steady ks B) (hA : 𝓡.On ks B t h)
    (ha : 𝓡.Does ks B (setStatusAct swap transactionFailed (some .coinsCouldNotBeSent) .other)
      fun _ => ended)
    (lightningClient : Bool) :
    𝓡.logic.wp (handleSwapSendFailed swap lightningClient) t (fun _ h' => 𝓡.On ks ended t h')
      h := by
  unfold handleSwapSendFailed
  rw [Logic.wp_bind]
  have hcancel : 𝓡.QuietProg
      (Prog.when lightningClient (cancelReverseInvoices.catching fun _ => pure ())) :=
    .when _ (.catching (uses_cancelReverseInvoices quiet_plain) fun _ => trivial)
  -- the cancellation never throws
  have hok : 𝓡.logic.wp
      (Prog.when lightningClient (cancelReverseInvoices.catching fun _ => pure ())) t
      (fun r h' => r = .ok () ∧ 𝓡.On ks B t h') h := by
    cases lightningClient
    · exact ⟨rfl, hA⟩
    · change 𝓡.logic.wp (cancelReverseInvoices.catching fun _ => pure ()) t _ h
      rw [Logic.wp_catching]
      refine Logic.wp_mono (wp_quiet (uses_cancelReverseInvoices quiet_plain) hB hA)
        fun r h' hr => ?_
      cases r <;> exact ⟨rfl, hr⟩
  refine Logic.wp_mono hok fun r h' hr => ?_
  obtain ⟨rfl, hA'⟩ := hr
  rw [Logic.andThen_ok]
  exact wp_setStatus ha hB hA' fun _ h₁ hR => hR

/-- The part of a lockup from the start of the send until the result is stored. -/
theorem wp_sendLockup (hs : 𝓡.LockupSpec ks swap ready sending sent ended)
    (hA : 𝓡.On ks ready t h) {v : Nat → Option Nat} {f : Nat → ServerSwap → M α}
    (hf : ∀ transactionId swap h', 𝓡.On ks ended t h' → 𝓡.logic.wp (f transactionId swap) t Q h')
    (he : ∀ r e h', (∀ transactionId vout fee, r ≠ .sent transactionId vout fee) →
      𝓡.On ks (sent r) t h' → Q (.error e) h') :
    𝓡.logic.wp (do
      let (transactionId, sentVout, fee) ← sendLockup swap
      let updated ← WrappedSwapRepository.setServerLockupTransaction swap transactionId
        (lockupAmount swap) fee (v sentVout)
      f transactionId updated) t Q h := by
  rw [Logic.wp_bind]
  refine Guarded.wp_does_bind hs.begin hs.steady_ready hA fun _ h₁ h₁A => ?_
  refine Guarded.wp_does_bind hs.send hs.steady_sending h₁A fun r h₂ h₂A => ?_
  cases r with
  | sent transactionId sentVout fee =>
    change 𝓡.logic.wp (WrappedSwapRepository.setServerLockupTransaction swap transactionId _ fee
      _ >>= f transactionId) t Q h₂
    have hstore := hs.store transactionId sentVout fee (lockupAmount swap) (v sentVout)
    have hst := hs.steady_sent (.sent transactionId sentVout fee)
    cases swap with
    | reverse swap => exact Guarded.wp_does_bind hstore hst h₂A fun _ h₃ h₃A => hf _ _ h₃ h₃A
    | chain swap => exact Guarded.wp_does_bind hstore hst h₂A fun _ h₃ h₃A => hf _ _ h₃ h₃A
  | failed => exact he .failed _ h₂ (by simp) h₂A
  | broadcastThenFailed transactionId =>
    exact he (.broadcastThenFailed transactionId) _ h₂ (by simp) h₂A

theorem wp_unsent (hs : 𝓡.LockupSpec ks swap ready sending sent ended) (lightningClient : Bool)
    (hA : 𝓡.On ks ready t h) :
    𝓡.logic.wp (handleSwapSendFailed swap lightningClient) t (fun _ h' => 𝓡.On ks ended t h') h :=
  wp_handleSwapSendFailed hs.steady_ready hA hs.unsent lightningClient

theorem wp_failed (hs : 𝓡.LockupSpec ks swap ready sending sent ended) (lightningClient : Bool)
    {r : SendResult} (hr : ∀ transactionId vout fee, r ≠ .sent transactionId vout fee)
    (hA : 𝓡.On ks (sent r) t h) :
    𝓡.logic.wp (handleSwapSendFailed swap lightningClient) t (fun _ h' => 𝓡.On ks ended t h') h :=
  wp_handleSwapSendFailed (hs.steady_sent r) hA (hs.failed r hr) lightningClient

/-- What `lockupUtxo` tries. -/
def tryLockupUtxo (swap : ServerSwap) (approval : SendApprovalAction) : M (Option ServerSwap) := do
  assertLockupSignerEnabled
  assertSendApproved approval
  external
  let (transactionId, vout, fee) ← sendLockup swap
  some <$> WrappedSwapRepository.setServerLockupTransaction swap transactionId
    (lockupAmount swap) fee (some vout)

theorem wp_tryLockupUtxo (hs : 𝓡.LockupSpec ks swap ready sending sent ended)
    {Q : Logic.Post Label World Answer Error (Option ServerSwap)} (approval : SendApprovalAction)
    (hA : 𝓡.On ks ready t h) (hQ : ∀ r h', 𝓡.On ks ended t h' → Q (.ok r) h')
    (he : ∀ e h', 𝓡.On ks ready t h' → Q (.error e) h')
    (hf : ∀ r e h', (∀ transactionId vout fee, r ≠ .sent transactionId vout fee) →
      𝓡.On ks (sent r) t h' → Q (.error e) h') :
    𝓡.logic.wp (tryLockupUtxo swap approval) t Q h := by
  have hp : Plain fun a => 𝓡.Quiet a := quiet_plain
  refine wp_quiet_bind (uses_assertLockupSignerEnabled hp) hs.steady_ready hA
    (fun _ h₁ h₁A => ?_) he
  refine wp_quiet_bind (uses_assertSendApproved approval) hs.steady_ready h₁A
    (fun _ h₂ h₂A => ?_) he
  refine wp_quiet_bind (uses_external hp) hs.steady_ready h₂A (fun _ h₃ h₃A => ?_) he
  exact wp_sendLockup hs h₃A (v := some) (f := fun _ updated => .pure (some updated))
    (fun _ _ h₄ h₄A => hQ _ h₄ h₄A) hf

theorem wp_lockupUtxo (hs : 𝓡.LockupSpec ks swap ready sending sent ended) (hc : 𝓡.IgnoresClaims)
    (approval : SendApprovalAction) (lightningClient : Bool) (hA : 𝓡.On ks ready t h) :
    𝓡.logic.wp (lockupUtxo swap approval lightningClient) t (fun _ h' => 𝓡.On ks ended t h')
      h := by
  unfold lockupUtxo
  rw [Logic.wp_bind, Logic.wp_catching]
  refine wp_tryLockupUtxo hs approval hA (fun locked h' hA' => ?_)
    (fun _ h' hA' => ?_) fun r _ h' hr hA' => ?_
  · rw [Logic.orCatch_ok, Logic.andThen_ok]
    split
    · exact wp_quiet (uses_registerForClaim hc.quiet (hc.quiet_lock (by decide)) _)
        hs.steady_ended hA'
    · exact hA'
  · rw [Logic.orCatch_error, Logic.wp_bind]
    refine Logic.wp_mono (wp_unsent hs lightningClient hA') fun r h₁ h₁A => ?_
    cases r <;> exact h₁A
  · rw [Logic.orCatch_error, Logic.wp_bind]
    refine Logic.wp_mono (wp_failed hs lightningClient hr hA') fun r h₁ h₁A => ?_
    cases r <;> exact h₁A

theorem wp_lockupContract (hs : 𝓡.LockupSpec ks swap ready sending sent ended)
    (hscan : 𝓡.logic.Safe scanPendingTransactions) (approval : SendApprovalAction)
    (lightningClient : Bool) (hA : 𝓡.On ks ready t h) :
    𝓡.logic.wp (lockupContract swap approval lightningClient) t
      (fun _ h' => 𝓡.On ks ended t h') h := by
  have hp : Plain fun a => 𝓡.Quiet a := quiet_plain
  unfold lockupContract
  rw [Logic.wp_catching]
  refine wp_quiet_bind (uses_assertLockupSignerEnabled hp) hs.steady_ready hA
    (fun _ h₁ h₁A => ?_) fun _ h' => wp_unsent hs lightningClient
  refine wp_quiet_bind (uses_assertSendApproved approval) hs.steady_ready h₁A
    (fun _ h₂ h₂A => ?_) fun _ h' => wp_unsent hs lightningClient
  refine wp_quiet_bind (uses_external hp) hs.steady_ready h₂A
    (fun _ h₃ h₃A => ?_) fun _ h' => wp_unsent hs lightningClient
  refine wp_sendLockup hs h₃A (v := fun _ => none) (f := fun transactionId updated => do
      EthereumConfirmationTracker.trackTransaction updated transactionId
      Prog.spawn scanPendingTransactions) (fun _ _ h₄ h₄A => ?_)
    fun r _ h₄ hr h₄A => ?_
  swap
  · exact wp_failed hs lightningClient hr h₄A
  refine Guarded.wp_does_bind (hp.write fun _ => ⟨_, _, _, rfl⟩).does hs.steady_ended h₄A
    fun _ h₅ h₅A => ?_
  exact Logic.wp_spawn hscan fun h₆ hr hi => h₅A.rely hs.steady_ended hr hi

theorem wp_lockupVtxo (hs : 𝓡.LockupSpec ks swap ready sending sent ended)
    (approval : SendApprovalAction) (lightningClient : Bool) (hA : 𝓡.On ks ready t h) :
    𝓡.logic.wp (lockupVtxo swap approval lightningClient) t (fun _ h' => 𝓡.On ks ended t h')
      h := by
  have hp : Plain fun a => 𝓡.Quiet a := quiet_plain
  unfold lockupVtxo
  rw [Logic.wp_catching]
  refine wp_quiet_bind (uses_assertLockupSignerEnabled hp) hs.steady_ready hA
    (fun _ h₁ h₁A => ?_) fun _ h' => wp_unsent hs lightningClient
  refine wp_quiet_bind (uses_assertSendApproved approval) hs.steady_ready h₁A
    (fun _ h₂ h₂A => ?_) fun _ h' => wp_unsent hs lightningClient
  exact wp_sendLockup hs h₂A (v := some) (f := fun _ _ => .pure ()) (fun _ _ h₃ h₃A => h₃A)
    fun r _ h₃ hr => wp_failed hs lightningClient hr

theorem wp_lockup (hs : 𝓡.LockupSpec ks swap ready sending sent ended) (hc : 𝓡.IgnoresClaims)
    (hscan : 𝓡.logic.Safe scanPendingTransactions) (approval : SendApprovalAction)
    (lightningClient : Bool) (hA : 𝓡.On ks ready t h) :
    𝓡.logic.wp (lockup swap approval lightningClient) t (fun _ h' => 𝓡.On ks ended t h') h := by
  unfold lockup
  split
  · exact wp_lockupUtxo hs hc approval lightningClient hA
  · exact wp_lockupContract hs hscan approval lightningClient hA
  · exact wp_lockupVtxo hs approval lightningClient hA

end lockup

end Rules

end Boltz
