import Boltz.Deployment
import Boltz.Logic.Payments

/-!
# Tasks of the backend with its sidecar

What a statement about submarine swaps has to say about the update of a checker and about the
acts of `setSwapInvoice`.
-/

namespace Boltz

open Async SwapUpdateEvent

/-- The update of a checker. -/
def checkerAct (checker : ExpirationChecker) (id : Nat) : Act Label World Answer Unit :=
  writeAct (.updateStatusIfMatches id) fun w =>
    setSwaps (w.swaps.modify id (SwapHelper.statusIfMatches invoiceFailedToPay
      checker.failureReason checker.condition)) w

theorem uses_check {P : OnActs} {C : M Unit → Prop} (hp : Plain P) (checker : ExpirationChecker)
    (hw : ∀ id, P (checkerAct checker id)) : checker.check.Uses P C := by
  refine .bind (.when _ (uses_external hp)) fun _ => .bind (uses_read (hp.read _)) fun swaps => ?_
  refine .forEach fun swap => .bind (uses_external hp) fun _ => ?_
  exact .bind (uses_ask (hp.ask _)) fun _ => .when _ (uses_write (hw swap.id))

namespace Rules

variable {K V : Type} {𝓡 : Rules K V} {k : K}

/-- The write of `setInvoice`, when the row that was stored does not matter. -/
theorem does_setInvoice {ks : List K} {B C : Seen V → Prop} {swap : Instance Swap}
    {invoice expectedAmount : Nat} {acceptZeroConf : Bool}
    (hw : 𝓡.Does ks B (writeAct (.setInvoice swap expectedAmount acceptZeroConf) fun w =>
      setSwaps (w.swaps.modify swap.id (swap.row.saveInvoice
        (swap.row.withInvoice invoice expectedAmount acceptZeroConf))) w) fun _ => C) :
    𝓡.Does ks B (setInvoiceAct swap invoice expectedAmount acceptZeroConf) fun _ => C := by
  intro t h ω b w hi hA ha he
  cases he
  exact hw t h ω () _ hi hA ha rfl

/-- The acts of `setSwapInvoice`: `queried` when the swap was queried with the lock, `stored` when
the invoice is stored, `ready` when the swap was settled or is not to be settled. -/
structure InvoiceSpec (𝓡 : Rules K V) (k : K) (queried : Instance Swap → Seen V → Prop)
    (stored ready : Instance Swap → Nat → Bool → Option Swap → Seen V → Prop) : Prop where
  query : ∀ id, 𝓡.Does [k] (𝓡.Res k) (readAct (.fetchForInvoice id) fun w => w.swaps.byId id)
    fun r o => 𝓡.Res k o ∧ ∀ swap, r = some swap → queried swap o
  back : ∀ swap o, queried swap o → 𝓡.Res k o
  store : ∀ swap invoice expectedAmount acceptZeroConf, 𝓡.Does [k] (queried swap)
    (setInvoiceAct swap invoice expectedAmount acceptZeroConf)
    (stored swap expectedAmount acceptZeroConf)
  settle : ∀ swap invoice expectedAmount acceptZeroConf row,
    settlesDirectly swap.row expectedAmount = true →
      𝓡.Triple [k] (stored swap expectedAmount acceptZeroConf row)
        (attemptSettleSwap (.submarine ⟨swap.id,
          swap.row.withInvoice invoice expectedAmount acceptZeroConf⟩) none)
        fun _ => ready swap expectedAmount acceptZeroConf row
  skip : ∀ swap expectedAmount acceptZeroConf row o,
    settlesDirectly swap.row expectedAmount = false →
      stored swap expectedAmount acceptZeroConf row o → ready swap expectedAmount acceptZeroConf row o
  done : ∀ swap expectedAmount acceptZeroConf row,
    𝓡.Does [k] (ready swap expectedAmount acceptZeroConf row)
      (writeAct (.invoiceSet swap.id row expectedAmount acceptZeroConf) fun w => w)
      fun _ => 𝓡.Res k
  steady_queried : ∀ swap, 𝓡.Steady [k] (queried swap)
  steady_ready : ∀ swap expectedAmount acceptZeroConf row,
    𝓡.Steady [k] (ready swap expectedAmount acceptZeroConf row)

section invoice

variable {queried : Instance Swap → Seen V → Prop}
  {stored ready : Instance Swap → Nat → Bool → Option Swap → Seen V → Prop}

theorem triple_storeInvoice (hs : 𝓡.InvoiceSpec k queried stored ready) (swap : Instance Swap)
    (invoice expectedAmount : Nat) :
    𝓡.Triple [k] (queried swap) (storeInvoice swap invoice expectedAmount) fun _ => 𝓡.Res k := by
  have hsteady := hs.steady_queried swap
  refine Guarded.Triple.act_bind (quiet_plain.ask _).does hsteady fun acceptZeroConf => ?_
  refine Guarded.Triple.act_bind (quiet_plain.ask _).does hsteady fun expiresTooSoon => ?_
  refine .throwIf_bind (fun _ o ho => hs.back swap o ho) fun _ => ?_
  refine Guarded.Triple.act_bind (hs.store swap invoice expectedAmount acceptZeroConf) hsteady
    fun row => ?_
  have hready := hs.steady_ready swap expectedAmount acceptZeroConf row
  -- an error of the settlement is caught
  have hsettled : 𝓡.Triple [k] (stored swap expectedAmount acceptZeroConf row)
      (Prog.when (settlesDirectly swap.row expectedAmount)
        ((attemptSettleSwap (.submarine ⟨swap.id,
          swap.row.withInvoice invoice expectedAmount acceptZeroConf⟩) none).catching
            fun _ => pure ()) : M Unit)
      fun r o => r = .ok () ∧ ready swap expectedAmount acceptZeroConf row o := by
    refine .when (fun hdirect => ?_) fun hskip o ho => ⟨rfl, hs.skip _ _ _ _ o hskip ho⟩
    intro t h hA
    rw [Logic.wp_catching]
    refine Logic.wp_mono (hs.settle swap invoice expectedAmount acceptZeroConf row hdirect t h hA)
      fun r h' hr => ?_
    have hdone : 𝓡.On [k] (fun o => (.ok () : Except Error Unit) = .ok () ∧
        ready swap expectedAmount acceptZeroConf row o) t h' := hr.mono fun _ ho => ⟨rfl, ho⟩
    cases r with
    | ok _ => exact hdone
    | error _ => exact hdone
  refine hsettled.bind (fun _ => ?_) fun _ _ ho => nomatch ho.1
  refine Guarded.Triple.conseq ?_ (fun _ ho => ho.2) fun _ _ ho => ho
  exact .act (hs.done swap expectedAmount acceptZeroConf row) hready

theorem locked_setQueriedInvoice (hs : 𝓡.InvoiceSpec k queried stored ready)
    (id invoice expectedAmount : Nat) :
    𝓡.Locked k (SwapManager.setQueriedInvoice id invoice expectedAmount) := by
  refine Guarded.Triple.act_bind (hs.query id) steady_own fun r => ?_
  cases r with
  | none => exact .throw fun _ ho => ho.1
  | some swap =>
    refine Guarded.Triple.conseq (B := queried swap) ?_ (fun _ ho => ho.2 swap rfl)
      fun _ _ ho => ho
    dsimp only
    split_ifs
    · exact .throw (hs.back swap)
    · exact .throw (hs.back swap)
    · exact .throw (hs.back swap)
    · exact triple_storeInvoice hs swap invoice expectedAmount

theorem safe_setInvoice (hs : 𝓡.InvoiceSpec k queried stored ready) (hk : 𝓡.lock k = .swap)
    (id invoice : Nat) (terms : InvoiceTerms) :
    𝓡.logic.Safe (Service.setInvoice id invoice terms) := by
  have hp : Plain 𝓡.FreeAct := free_plain
  have hext : 𝓡.logic.Safe external := closed (uses_external hp)
  refine .bind (.call (hp.read _)) fun swap => ?_
  cases swap with
  | none => exact Logic.safe_of_uses trivial
  | some swap =>
    dsimp only
    split
    · exact Logic.safe_of_uses trivial
    refine .bind hext fun _ => .bind hext fun _ => .bind hext fun _ => .bind hext fun _ => ?_
    exact (locked_setQueriedInvoice hs id invoice terms.expectedAmount).safe hk

/-- The tasks that the sidecar and the request add to those of the backend. -/
theorem safe_serve (hs : 𝓡.InvoiceSpec k queried stored ready) (hk : 𝓡.lock k = .swap)
    (hstart : ∀ e, 𝓡.logic.Safe (start e))
    (hchecker : ∀ checker id, 𝓡.logic.Free (checkerAct checker id)) (r : Request) :
    𝓡.logic.Safe (serve r) := by
  cases r with
  | backend e => exact hstart e
  | setInvoice id invoice terms => exact safe_setInvoice hs hk id invoice terms
  | checkExpiration checker => exact closed (uses_check free_plain checker (hchecker checker))

end invoice

end Rules

end Boltz
