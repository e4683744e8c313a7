import Boltz.Async.Guarded
import Boltz.World

/-!
# The acts of the backend, by what they touch

`Plain` collects the acts that no statement about swaps refers to: questions, queries, the maps
in memory and the locks of the nurseries. The other families are the rows a task writes.
-/

namespace Boltz

open Async

/-! ## Families of acts -/

/-- A predicate on acts. -/
abbrev OnActs := {β : Type} → Act Label World Answer β → Prop

/-- The maps in memory that are not about claims. -/
def Aside (w w' : World) : Prop :=
  ∃ approvals tracked scanning, w' = { w with approvals, tracked, scanning }

/-- The locks of the nurseries and of requests that no statement refers to. -/
def Lock.isHelper : Lock → Bool
  | retry | invoice | selfPayment | lockupLock | swapLockupConfirmation | ethereumSwap _
  | vhtlcCreated _ | reverseSwapClaimSignature | eipRefundSignature | pendingTransactions => true
  | _ => false

structure Plain (P : OnActs) : Prop where
  read : ∀ {β : Type} (f : World → β), P (readAct .other f)
  ask : ∀ {β : Type} (f : Answer → Option β), P (askAct .other f)
  aside : ∀ {β : Type} (a : Act Label World Answer β), a.label = .other →
    (∀ t w ω b w', a.run t w ω = some (b, w') → Aside w w') → P a
  acquire : ∀ key : Lock, key.isHelper = true → P (acquireAct key)
  release : ∀ key : Lock, key.isHelper = true → P (releaseAct key)

/-- Acts without a label that leave all of the state but the part set by `put` as it is. -/
def Within {T : Type} (put : T → World → World) (P : OnActs) : Prop :=
  ∀ {β : Type} (a : Act Label World Answer β), a.label = .other →
    (∀ t w ω b w', a.run t w ω = some (b, w') → ∃ x, w' = put x w) → P a

abbrev Holds (P : OnActs) : Prop := Within (fun x w => { w with sendApprovalHolds := x }) P
abbrev Refunds (P : OnActs) : Prop := Within (fun x w => { w with refundTransactions := x }) P
abbrev Payments (P : OnActs) : Prop := Within (fun x w => { w with lightningPayments := x }) P
abbrev Claims (P : OnActs) : Prop := Within (fun x w => { w with cooperative := x }) P

theorem Within.write {T : Type} {put : T → World → World} {P : OnActs} (h : Within put P)
    {f : World → World} (hf : ∀ w, ∃ x, f w = put x w) : P (writeAct .other f) := by
  refine h _ rfl fun t w ω b w' he => ?_
  cases he
  exact hf w

theorem Plain.write {P : OnActs} (h : Plain P) {f : World → World} (hf : ∀ w, Aside w (f w)) :
    P (writeAct .other f) := by
  refine h.aside _ rfl fun t w ω b w' he => ?_
  cases he
  exact hf w

/-- `lock.acquire` and its release. -/
structure Locks (P : OnActs) (key : Lock) : Prop where
  acquire : P (acquireAct key)
  release : P (releaseAct key)

theorem Plain.locks {P : OnActs} (h : Plain P) {key : Lock} (hk : key.isHelper = true) :
    Locks P key :=
  ⟨h.acquire key hk, h.release key hk⟩

/-! ## Rows -/

/-- `swap.update(values)` of a submarine swap that becomes `new` in memory. -/
def swapUpdateAct (swap : Instance Swap) (new : Swap) (l : Label) : Act Label World Answer Unit :=
  writeAct l fun w => { w with swaps := w.swaps.modify swap.id (swap.row.save new) }

def reverseUpdateAct (swap : Instance ReverseSwap) (new : ReverseSwap) (l : Label) :
    Act Label World Answer Unit :=
  writeAct l fun w => { w with reverseSwaps := w.reverseSwaps.modify swap.id (swap.row.save new) }

def chainUpdateAct (swap : Instance ChainSwap) (new : ChainSwap) (l : Label) :
    Act Label World Answer Unit :=
  writeAct l fun w => { w with chainSwaps := w.chainSwaps.modify swap.id (swap.row.save new) }

/-- The update of a swap in which the server locks up. -/
def serverUpdateAct (swap : ServerSwap) (onReverse : ReverseSwap → ReverseSwap)
    (onChain : ChainSwap → ChainSwap) (l : Label) : Act Label World Answer Unit :=
  match swap with
  | .reverse swap => reverseUpdateAct swap (onReverse swap.row) l
  | .chain swap => chainUpdateAct swap (onChain swap.row) l

/-! ## Locks of programs -/

section uses

variable {P : OnActs} {C : M Unit → Prop} {α : Type}

theorem uses_call {β : Type} {a : Act Label World Answer β} (h : P a) :
    (Prog.call a : M β).Uses P C :=
  ⟨h, fun _ => trivial⟩

theorem uses_read {β : Type} {f : World → β} {l : Label} (h : P (readAct l f)) :
    (read f l).Uses P C :=
  uses_call h

theorem uses_ask {β : Type} {f : Answer → Option β} {l : Label} (h : P (askAct l f)) :
    (ask f l).Uses P C :=
  uses_call h

theorem uses_write {f : World → World} {l : Label} (h : P (writeAct l f)) :
    (write f l).Uses P C :=
  uses_call h

theorem uses_spawn {child : M Unit} (h : C child) : (Prog.spawn child).Uses P C := ⟨h, trivial⟩

theorem uses_withLock {key : Lock} {body : M α} (hk : Locks P key) (hb : body.Uses P C) :
    (withLock key body).Uses P C :=
  (uses_call hk.acquire).bind fun _ => hb.finally_ (uses_call hk.release)

theorem uses_external (h : Plain P) : external.Uses P C :=
  (uses_ask (h.ask _)).bind fun _ => .throwIf _ _

end uses

/-! ## Rules of a logic about the backend -/

/-- A guarded logic whose locks are locks of the backend. -/
structure Rules (K V : Type) extends Guarded K V Label World Answer where
  lock : K → Lock
  lock_inj : Function.Injective lock
  holder_eq : ∀ w k, holder w k = w.locks (lock k)
  lock_helper : ∀ k, (lock k).isHelper = false
  view_locks : ∀ w f, view { w with locks := f } = view w
  view_aside : ∀ w w', Aside w w' → view w' = view w
  relevant_other : relevant .other = false

namespace Rules

variable {K V β : Type} {𝓡 : Rules K V} {l : Label}

theorem quiet_read (hl : 𝓡.relevant l = false) (f : World → β) : 𝓡.Quiet (readAct l f) := by
  refine ⟨hl, fun t w ω b w' he => ?_⟩
  cases he
  exact ⟨rfl, rfl⟩

theorem quiet_ask (hl : 𝓡.relevant l = false) (f : Answer → Option β) :
    𝓡.Quiet (askAct l f) := by
  refine ⟨hl, fun t w ω b w' he => ?_⟩
  obtain ⟨_, _, rfl, rfl⟩ := by simpa [askAct] using he
  exact ⟨rfl, rfl⟩

theorem holder_congr {w w' : World} (h : w'.locks = w.locks) :
    𝓡.holder w' = 𝓡.holder w := by
  funext k
  rw [𝓡.holder_eq, 𝓡.holder_eq, h]

theorem quiet_act {a : Act Label World Answer β} (hl : 𝓡.relevant a.label = false)
    (hf : ∀ t w ω b w', a.run t w ω = some (b, w') →
      𝓡.view w' = 𝓡.view w ∧ w'.locks = w.locks) : 𝓡.Quiet a := by
  refine ⟨hl, fun t w ω b w' he => ?_⟩
  obtain ⟨hv, hlocks⟩ := hf t w ω b w' he
  exact ⟨hv, holder_congr hlocks⟩

theorem quiet_write (hl : 𝓡.relevant l = false) {f : World → World}
    (hf : ∀ w, 𝓡.view (f w) = 𝓡.view w ∧ (f w).locks = w.locks) : 𝓡.Quiet (writeAct l f) := by
  refine quiet_act hl fun t w ω b w' he => ?_
  cases he
  exact hf w

theorem quiet_acquire {key : Lock} (hk : ∀ k, 𝓡.lock k ≠ key) : 𝓡.Quiet (acquireAct key) := by
  refine ⟨𝓡.relevant_other, fun t w ω b w' he => ?_⟩
  simp only [acquireAct] at he
  split at he
  · cases he
    refine ⟨𝓡.view_locks w _, ?_⟩
    funext k
    rw [𝓡.holder_eq, 𝓡.holder_eq]
    exact if_neg (hk k)
  · cases he

theorem quiet_release {key : Lock} (hk : ∀ k, 𝓡.lock k ≠ key) : 𝓡.Quiet (releaseAct key) := by
  refine ⟨𝓡.relevant_other, fun t w ω b w' he => ?_⟩
  simp only [releaseAct] at he
  split at he <;> cases he
  · refine ⟨𝓡.view_locks w _, ?_⟩
    funext k
    rw [𝓡.holder_eq, 𝓡.holder_eq]
    exact if_neg (hk k)
  · exact ⟨rfl, rfl⟩

theorem quiet_locks {key : Lock} (hk : ∀ k, 𝓡.lock k ≠ key) :
    Locks (fun a => 𝓡.Quiet a) key :=
  ⟨quiet_acquire hk, quiet_release hk⟩

theorem acquires (k : K) : 𝓡.Acquires k (acquireAct (𝓡.lock k)) := by
  refine ⟨𝓡.relevant_other, fun t w ω b w' he => ?_⟩
  simp only [acquireAct] at he
  split at he
  · rename_i hfree
    cases he
    refine ⟨𝓡.view_locks w _, by rw [𝓡.holder_eq]; exact hfree, ?_, fun k' hk' => ?_⟩
    · rw [𝓡.holder_eq]
      exact if_pos rfl
    · rw [𝓡.holder_eq, 𝓡.holder_eq]
      exact if_neg fun he => hk' (𝓡.lock_inj he)
  · cases he

theorem releases (k : K) : 𝓡.Releases k (releaseAct (𝓡.lock k)) := by
  refine ⟨𝓡.relevant_other, fun t w ω b w' he hheld => ?_⟩
  rw [𝓡.holder_eq] at hheld
  simp only [releaseAct, hheld, if_true] at he
  cases he
  refine ⟨𝓡.view_locks w _, by rw [𝓡.holder_eq]; exact hheld, ?_, fun k' hk' => ?_⟩
  · rw [𝓡.holder_eq]
    exact if_pos rfl
  · rw [𝓡.holder_eq, 𝓡.holder_eq]
    exact if_neg fun he => hk' (𝓡.lock_inj he)

theorem quiet_plain : Plain fun a => 𝓡.Quiet a where
  read f := quiet_read 𝓡.relevant_other f
  ask f := quiet_ask 𝓡.relevant_other f
  aside a hl hrun := by
    refine quiet_act (by rw [hl]; exact 𝓡.relevant_other) fun t w ω b w' he => ?_
    refine ⟨𝓡.view_aside w w' (hrun t w ω b w' he), ?_⟩
    obtain ⟨_, _, _, rfl⟩ := hrun t w ω b w' he
    rfl
  acquire key hk := quiet_acquire fun k he => by simp [← he, 𝓡.lock_helper] at hk
  release key hk := quiet_release fun k he => by simp [← he, 𝓡.lock_helper] at hk

theorem quiet_within {T : Type} {put : T → World → World}
    (hput : ∀ x w, 𝓡.view (put x w) = 𝓡.view w ∧ (put x w).locks = w.locks) :
    Within put fun a => 𝓡.Quiet a := by
  intro β a hl hrun
  refine quiet_act (by rw [hl]; exact 𝓡.relevant_other) fun t w ω b w' he => ?_
  obtain ⟨x, rfl⟩ := hrun t w ω b w' he
  exact hput x w

/-- `lock.acquire(key, body)`: the body starts with the resource of the lock and gives it back. -/
theorem wp_withLock {α : Type} {k : K} {ks : List K} {A B : Obs V Label World Answer → Prop}
    {t : Nat} {h : History} {body : M α} {Q : Logic.Post Label World Answer Error α}
    (hA : 𝓡.On ks A t h) (sA : 𝓡.Steady ks A) (sB : 𝓡.Steady (k :: ks) B) (hks : k ∉ ks)
    (hres : ∀ o, B o → 𝓡.Res k o)
    (hbody : ∀ h', 𝓡.On (k :: ks) (fun o => A o ∧ 𝓡.Res k o) t h' →
      𝓡.logic.wp body t (fun _ h'' => 𝓡.On (k :: ks) B t h'') h')
    (hQ : ∀ r h', 𝓡.On ks B t h' → Q r h') :
    𝓡.logic.wp (withLock (𝓡.lock k) body) t Q h := by
  refine Guarded.wp_acquire_bind (acquires k) sA hA hks fun _ h' hA' => ?_
  rw [Logic.wp_finally]
  refine Logic.wp_mono (hbody h' hA') fun r h'' hB => ?_
  refine Guarded.wp_release (releases k) sB hB hks hres fun h₃ hB' => ?_
  rw [Logic.andThen_ok, Logic.wp_ofExcept]
  exact hQ r h₃ hB'

end Rules

end Boltz
