import Boltz.Consts.Enums
import Mathlib

/-!
# Risk of 0-conf lockups (`lib/rates/LockupTransactionTracker.ts`)

The tracker keeps a counter of the amounts it accepted for each chain, next to a table with the
swaps whose lockup is not confirmed yet. The counter is raised before the row is created, and
lowered by what the swap says when its lockup confirms.
-/

namespace Boltz

/-- `Swap | ChainSwapInfo`, as far as the tracker reads it. `chain` is the chain of the user's
lockup, `amount` is `onchainAmount` or `receivingData.amount`. -/
structure LockupSwap where
  id : Nat
  type : SwapType
  chain : Nat
  amount : Option Nat
  deriving DecidableEq, Repr

def LockupSwap.getReceivingAmount (swap : LockupSwap) : Nat :=
  match swap.type with
  | .submarine | .chain => swap.amount.getD 0
  | .reverseSubmarine => 0

structure PendingLockupTransaction where
  swapId : Nat
  chain : Nat
  deriving DecidableEq, Repr

/-- What the node says about the lockup of a swap. -/
inductive LockupInfo where
  | confirmed | unconfirmed | notFound
  deriving DecidableEq, Repr

/-- The tracker and the tables it uses. `accepted` are the lockups that were accepted and did not
confirm yet, with the amounts they were accepted for. -/
structure LockupTransactionTracker where
  chains : List Nat
  maxRisk : Nat → Nat
  risk : Nat → Nat := fun _ => 0
  zeroConfAccepted : Nat → Bool := fun _ => true
  pending : List PendingLockupTransaction := []
  swaps : Nat → Option LockupSwap := fun _ => none
  accepted : List (PendingLockupTransaction × Nat) := []

namespace LockupTransactionTracker

inductive AcceptError where
  | symbolLockupsNotBeingTracked
  | swapDoesNotAcceptZeroConf
  | uniqueConstraint
  deriving DecidableEq, Repr

/-- `PendingLockupTransactionRepository.create`: the id of the swap is the primary key. -/
def create (t : LockupTransactionTracker) (swap : LockupSwap) :
    Except AcceptError Bool × LockupTransactionTracker :=
  if t.pending.any (·.swapId == swap.id) then (.error .uniqueConstraint, t)
  else
    let row : PendingLockupTransaction := ⟨swap.id, swap.chain⟩
    (.ok true,
      { t with
        pending := t.pending ++ [row]
        accepted := t.accepted ++ [(row, swap.getReceivingAmount)] })

def isAcceptable (t : LockupTransactionTracker) (swap : LockupSwap) :
    Except AcceptError Bool × LockupTransactionTracker :=
  if !t.chains.contains swap.chain then (.error .symbolLockupsNotBeingTracked, t)
  else if !t.zeroConfAccepted swap.chain then (.error .swapDoesNotAcceptZeroConf, t)
  else
    let risk := t.risk swap.chain + swap.getReceivingAmount
    if risk ≤ t.maxRisk swap.chain then
      { t with risk := Function.update t.risk swap.chain risk }.create swap
    else (.ok false, t)

/-- The rows of a chain, with the swaps that are stored for them. -/
def getForChain (t : LockupTransactionTracker) (chain : Nat) : List LockupSwap :=
  (t.pending.filter (·.chain == chain)).filterMap fun row => t.swaps row.swapId

/-- One round of the loop in `checkPendingLockupsForChain`. -/
def checkPendingLockup (chain : Nat) (info : Nat → LockupInfo) (t : LockupTransactionTracker)
    (swap : LockupSwap) : LockupTransactionTracker :=
  match info swap.id with
  | .confirmed =>
    { t with
      pending := t.pending.filter (·.swapId != swap.id)
      accepted := t.accepted.filter (·.1.swapId != swap.id)
      risk := Function.update t.risk chain (t.risk chain - swap.getReceivingAmount) }
  | .unconfirmed => t
  | .notFound => { t with zeroConfAccepted := Function.update t.zeroConfAccepted chain false }

def checkPendingLockupsForChain (t : LockupTransactionTracker) (chain : Nat)
    (info : Nat → LockupInfo) : LockupTransactionTracker :=
  (t.getForChain chain).foldl (checkPendingLockup chain info) t

/-- A new tracker over the same tables, after `init`. -/
def restart (t : LockupTransactionTracker) : LockupTransactionTracker :=
  { t with
    zeroConfAccepted := fun _ => true
    risk := fun chain =>
      if t.chains.contains chain then
        ((t.getForChain chain).map LockupSwap.getReceivingAmount).sum
      else 0 }

inductive Operation where
  | isAcceptable (swap : LockupSwap)
  /-- a block of the chain -/
  | block (chain : Nat) (info : Nat → LockupInfo)
  | restart
  /-- another part of the backend stores a swap -/
  | storeSwap (swap : LockupSwap)

def run (t : LockupTransactionTracker) : Operation → LockupTransactionTracker
  | .isAcceptable swap => (t.isAcceptable swap).2
  | .block chain info =>
    if t.chains.contains chain then t.checkPendingLockupsForChain chain info else t
  | .restart => t.restart
  | .storeSwap swap => { t with swaps := Function.update t.swaps swap.id (some swap) }

/-! ## Exact accounting -/

/-- The amount that is stored for a swap. -/
def storedAmount (t : LockupTransactionTracker) (swapId : Nat) : Nat :=
  (t.swaps swapId).elim 0 LockupSwap.getReceivingAmount

/-- The amounts of the swaps with a row of the chain. -/
def pendingAmount (t : LockupTransactionTracker) (chain : Nat) : Nat :=
  ((t.pending.filter (·.chain == chain)).map fun row => t.storedAmount row.swapId).sum

/-- The amounts that were accepted and are not confirmed. -/
def acceptedAmount (t : LockupTransactionTracker) (chain : Nat) : Nat :=
  ((t.accepted.filter (·.1.chain == chain)).map Prod.snd).sum

/-- The counter is the sum of the rows, and what was accepted stays within the limit. -/
def Exact (t : LockupTransactionTracker) : Prop :=
  ∀ chain, t.risk chain = t.pendingAmount chain ∧ t.acceptedAmount chain ≤ t.maxRisk chain

/-- A swap is accepted once, as it is stored, and what it receives does not change while its
lockup is pending. -/
def Admits (t : LockupTransactionTracker) : Operation → Prop
  | .isAcceptable swap =>
    t.chains.contains swap.chain = true → t.zeroConfAccepted swap.chain = true →
      t.risk swap.chain + swap.getReceivingAmount ≤ t.maxRisk swap.chain →
        (∀ row ∈ t.pending, row.swapId ≠ swap.id) ∧ ∃ stored, t.swaps swap.id = some stored ∧
          stored.getReceivingAmount = swap.getReceivingAmount
  | .storeSwap swap => ∀ row ∈ t.pending, row.swapId = swap.id →
      t.storedAmount swap.id = swap.getReceivingAmount
  | _ => True

inductive Reaches (admits : LockupTransactionTracker → Operation → Prop)
    (t₀ : LockupTransactionTracker) : LockupTransactionTracker → Prop
  | start : Reaches admits t₀ t₀
  | run {t : LockupTransactionTracker} (o : Operation) : Reaches admits t₀ t → admits t o →
      Reaches admits t₀ (t.run o)

/-- A tracker over empty tables. -/
def new (chains : List Nat) (maxRisk : Nat → Nat) : LockupTransactionTracker := { chains, maxRisk }

structure Inv (t : LockupTransactionTracker) : Prop where
  keyed : ∀ id swap, t.swaps id = some swap → swap.id = id
  keys : (t.pending.map (·.swapId)).Nodup
  stored : ∀ row ∈ t.pending, (t.swaps row.swapId).isSome = true
  tracked : ∀ row ∈ t.pending, t.chains.contains row.chain = true
  risk : ∀ chain, t.risk chain = t.pendingAmount chain
  accepted : t.accepted = t.pending.map fun row => (row, t.storedAmount row.swapId)
  limit : ∀ chain, t.risk chain ≤ t.maxRisk chain

theorem inv_new (chains : List Nat) (maxRisk : Nat → Nat) : (new chains maxRisk).Inv where
  keyed _ _ h := by cases h
  keys := List.nodup_nil
  stored _ h := by cases h
  tracked _ h := by cases h
  risk _ := rfl
  accepted := rfl
  limit _ := Nat.zero_le _

theorem acceptedAmount_eq {t : LockupTransactionTracker}
    (h : t.accepted = t.pending.map fun row => (row, t.storedAmount row.swapId)) (chain : Nat) :
    t.acceptedAmount chain = t.pendingAmount chain := by
  unfold acceptedAmount pendingAmount
  rw [h, List.filter_map, List.map_map]
  rfl

theorem Inv.exact {t : LockupTransactionTracker} (hi : t.Inv) : t.Exact := by
  intro chain
  refine ⟨hi.risk chain, ?_⟩
  rw [acceptedAmount_eq hi.accepted, ← hi.risk chain]
  exact hi.limit chain

/-! ### Rows -/

theorem storedAmount_eq {t : LockupTransactionTracker} {id : Nat} {swap : LockupSwap}
    (h : t.swaps id = some swap) : t.storedAmount id = swap.getReceivingAmount := by
  rw [storedAmount, h]
  rfl

/-- The sum over the rows of a chain, without one of them. -/
theorem sum_without_row {f : PendingLockupTransaction → Nat} {rows : List PendingLockupTransaction}
    (hk : (rows.map (·.swapId)).Nodup) {row : PendingLockupTransaction} (hr : row ∈ rows)
    (chain : Nat) :
    (((rows.filter (·.swapId != row.swapId)).filter (·.chain == chain)).map f).sum +
        (if row.chain = chain then f row else 0) =
      ((rows.filter (·.chain == chain)).map f).sum := by
  induction rows with
  | nil => cases hr
  | cons r rows ih =>
    rw [List.map_cons, List.nodup_cons] at hk
    rcases List.mem_cons.mp hr with rfl | hr
    · have hrest : rows.filter (·.swapId != row.swapId) = rows := by
        rw [List.filter_eq_self]
        intro x hx
        rw [bne_iff_ne]
        intro heq
        exact hk.1 (List.mem_map.mpr ⟨x, hx, heq⟩)
      rw [List.filter_cons_of_neg (by simp), hrest, List.filter_cons]
      by_cases hc : row.chain = chain
      · simp [hc, Nat.add_comm]
      · simp [hc]
    · have hne : r.swapId ≠ row.swapId := by
        intro heq
        exact hk.1 (List.mem_map.mpr ⟨row, hr, heq.symm⟩)
      rw [List.filter_cons_of_pos (by simpa using hne), List.filter_cons, List.filter_cons]
      have hih := ih hk.2 hr
      by_cases hc : r.chain = chain
      · simp only [hc, beq_self_eq_true, if_true, List.map_cons, List.sum_cons]
        omega
      · simp only [beq_iff_eq, hc, if_false]
        exact hih

/-! ### Operations -/

theorem inv_isAcceptable {t : LockupTransactionTracker} (hi : t.Inv) {swap : LockupSwap}
    (ha : t.Admits (.isAcceptable swap)) : (t.isAcceptable swap).2.Inv := by
  unfold isAcceptable
  split
  · exact hi
  rename_i hchain
  split
  · exact hi
  rename_i hzero
  dsimp only
  split
  swap
  · exact hi
  rename_i hrisk
  rw [Bool.not_eq_true, Bool.not_eq_false'] at hchain hzero
  obtain ⟨hnew, stored, hstored, hamount⟩ := ha hchain hzero hrisk
  have hany : t.pending.any (·.swapId == swap.id) = false := by
    rw [List.any_eq_false]
    intro row hrow
    simpa using hnew row hrow
  have hstoredAmount : t.storedAmount swap.id = swap.getReceivingAmount := by
    rw [storedAmount_eq hstored, hamount]
  unfold create
  rw [if_neg (by simp [hany])]
  refine ⟨hi.keyed, ?_, fun row hrow => ?_, fun row hrow => ?_, fun chain => ?_, ?_, fun chain => ?_⟩
  · simp only [List.map_append, List.map_cons, List.map_nil]
    refine List.nodup_append.mpr ⟨hi.keys, by simp, ?_⟩
    rintro a ha' b hb rfl
    obtain ⟨row, hrow, rfl⟩ := List.mem_map.mp ha'
    exact hnew row hrow (List.mem_singleton.mp hb)
  · rcases List.mem_append.mp hrow with hrow | hrow
    · exact hi.stored row hrow
    · rw [List.mem_singleton.mp hrow]
      simp [hstored]
  · rcases List.mem_append.mp hrow with hrow | hrow
    · exact hi.tracked row hrow
    · rw [List.mem_singleton.mp hrow]
      exact hchain
  · have hold := hi.risk chain
    unfold pendingAmount at hold ⊢
    simp only [List.filter_append, List.map_append, List.sum_append]
    by_cases hc : chain = swap.chain
    · subst hc
      simp only [Function.update_self, beq_self_eq_true, List.filter_cons_of_pos, List.filter_nil,
        List.map_cons, List.map_nil, List.sum_cons, List.sum_nil, Nat.add_zero]
      rw [hold]
      exact congrArg _ hstoredAmount.symm
    · simp only [Function.update_of_ne hc]
      rw [List.filter_cons_of_neg (by simpa using fun h => hc h.symm)]
      exact hold
  · simp only [List.map_append, List.map_cons, List.map_nil, hi.accepted]
    rw [← hstoredAmount]
    rfl
  · by_cases hc : chain = swap.chain
    · subst hc
      simpa only [Function.update_self] using hrisk
    · simpa only [Function.update_of_ne hc] using hi.limit chain

/-- A lockup confirms: its row goes, and the counter loses what is stored for it. -/
theorem inv_checkPendingLockup {t : LockupTransactionTracker} (hi : t.Inv) {chain : Nat}
    {info : Nat → LockupInfo} {swap : LockupSwap} (hrow : ⟨swap.id, chain⟩ ∈ t.pending)
    (hswap : t.swaps swap.id = some swap) : (checkPendingLockup chain info t swap).Inv := by
  unfold checkPendingLockup
  split
  · have hamount := storedAmount_eq hswap
    have hkeep : ∀ row, row ∈ t.pending.filter (·.swapId != swap.id) → row ∈ t.pending :=
      fun row h => (List.mem_filter.mp h).1
    refine ⟨hi.keyed, ?_, fun row h => hi.stored row (hkeep row h),
      fun row h => hi.tracked row (hkeep row h), fun c => ?_, ?_, fun c => ?_⟩
    · exact hi.keys.sublist ((List.filter_sublist).map _)
    · have hsum := sum_without_row (f := fun row => t.storedAmount row.swapId) hi.keys hrow c
      have hold := hi.risk c
      unfold pendingAmount at hold ⊢
      by_cases hc : c = chain
      · subst hc
        simp only [Function.update_self]
        simp only [if_true, hamount] at hsum
        rw [hold, ← hsum, Nat.add_sub_cancel]
        rfl
      · simp only [Function.update_of_ne hc]
        simp only [if_neg (fun h => hc h.symm : ¬chain = c), Nat.add_zero] at hsum
        rw [hold, ← hsum]
        rfl
    · simp only [hi.accepted, List.filter_map]
      rfl
    · by_cases hc : c = chain
      · subst hc
        simp only [Function.update_self]
        exact Nat.le_trans (Nat.sub_le _ _) (hi.limit c)
      · simpa only [Function.update_of_ne hc] using hi.limit c
  · exact hi
  · exact ⟨hi.keyed, hi.keys, hi.stored, hi.tracked, hi.risk, hi.accepted, hi.limit⟩

theorem swaps_checkPendingLockup (chain : Nat) (info : Nat → LockupInfo)
    (t : LockupTransactionTracker) (swap : LockupSwap) :
    (checkPendingLockup chain info t swap).swaps = t.swaps := by
  unfold checkPendingLockup
  split <;> rfl

theorem pending_checkPendingLockup (chain : Nat) (info : Nat → LockupInfo)
    (t : LockupTransactionTracker) (swap : LockupSwap) {row : PendingLockupTransaction}
    (hr : row ∈ t.pending) (hne : row.swapId ≠ swap.id) :
    row ∈ (checkPendingLockup chain info t swap).pending := by
  unfold checkPendingLockup
  split
  · exact List.mem_filter.mpr ⟨hr, by simpa using hne⟩
  · exact hr
  · exact hr

/-- The loop: the swaps that are still to be checked have their rows. -/
theorem inv_checkPendingLockups {chain : Nat} {info : Nat → LockupInfo} (swaps : List LockupSwap)
    {t : LockupTransactionTracker} (hi : t.Inv) (hkeys : (swaps.map (·.id)).Nodup)
    (hrows : ∀ swap ∈ swaps, ⟨swap.id, chain⟩ ∈ t.pending ∧ t.swaps swap.id = some swap) :
    (swaps.foldl (checkPendingLockup chain info) t).Inv := by
  induction swaps generalizing t with
  | nil => exact hi
  | cons swap swaps ih =>
    obtain ⟨hrow, hswap⟩ := hrows swap (by simp)
    rw [List.map_cons, List.nodup_cons] at hkeys
    refine ih (inv_checkPendingLockup hi hrow hswap) hkeys.2 fun other hother => ?_
    obtain ⟨hrow', hswap'⟩ := hrows other (by simp [hother])
    have hne : other.id ≠ swap.id := by
      intro heq
      exact hkeys.1 (List.mem_map.mpr ⟨other, hother, heq⟩)
    exact ⟨pending_checkPendingLockup chain info t swap hrow' hne,
      by rw [swaps_checkPendingLockup]; exact hswap'⟩

theorem of_mem_getForChain {t : LockupTransactionTracker} (hi : t.Inv) {chain : Nat}
    {swap : LockupSwap} (h : swap ∈ t.getForChain chain) :
    ⟨swap.id, chain⟩ ∈ t.pending ∧ t.swaps swap.id = some swap := by
  obtain ⟨row, hrow, hswap⟩ := List.mem_filterMap.mp h
  obtain ⟨hmem, hchain⟩ := List.mem_filter.mp hrow
  have hid : swap.id = row.swapId := hi.keyed row.swapId swap hswap
  rw [hid]
  refine ⟨?_, hswap⟩
  have hc : row.chain = chain := by simpa using hchain
  rw [← hc]
  exact hmem

/-- Every row has its swap, so the swaps of a chain are listed as its rows are. -/
theorem map_getForChain {t : LockupTransactionTracker} (hi : t.Inv) {β : Type} (chain : Nat)
    (f : LockupSwap → β) (g : PendingLockupTransaction → β)
    (hfg : ∀ row swap, t.swaps row.swapId = some swap → f swap = g row) :
    (t.getForChain chain).map f = (t.pending.filter (·.chain == chain)).map g := by
  unfold getForChain
  have hstored : ∀ row ∈ t.pending.filter (·.chain == chain), (t.swaps row.swapId).isSome = true :=
    fun row h => hi.stored row (List.mem_filter.mp h).1
  generalize t.pending.filter (·.chain == chain) = rows at hstored ⊢
  induction rows with
  | nil => rfl
  | cons row rows ih =>
    obtain ⟨swap, hswap⟩ := Option.isSome_iff_exists.mp (hstored row (by simp))
    rw [List.filterMap_cons, hswap, List.map_cons, List.map_cons, hfg row swap hswap]
    exact congrArg _ (ih fun row h => hstored row (by simp [h]))

theorem inv_block {t : LockupTransactionTracker} (hi : t.Inv) (chain : Nat)
    (info : Nat → LockupInfo) : (t.checkPendingLockupsForChain chain info).Inv := by
  refine inv_checkPendingLockups _ hi ?_ fun swap h => of_mem_getForChain hi h
  rw [map_getForChain hi chain _ (·.swapId) fun row swap h => hi.keyed _ swap h]
  exact hi.keys.sublist ((List.filter_sublist).map _)

theorem inv_restart {t : LockupTransactionTracker} (hi : t.Inv) : t.restart.Inv := by
  have hrisk : ∀ chain, t.restart.risk chain = t.pendingAmount chain := by
    intro chain
    unfold restart
    dsimp only
    split
    · rw [map_getForChain hi chain _ (fun row => t.storedAmount row.swapId)
        fun row swap h => (storedAmount_eq h).symm]
      rfl
    · rename_i hc
      have hnone : t.pending.filter (·.chain == chain) = [] := by
        rw [List.filter_eq_nil_iff]
        intro row hrow heq
        rw [beq_iff_eq] at heq
        exact hc (heq ▸ hi.tracked row hrow)
      rw [pendingAmount, hnone]
      rfl
  refine ⟨hi.keyed, hi.keys, hi.stored, hi.tracked, hrisk, hi.accepted, fun chain => ?_⟩
  rw [hrisk chain, ← hi.risk chain]
  exact hi.limit chain

theorem inv_storeSwap {t : LockupTransactionTracker} (hi : t.Inv) {swap : LockupSwap}
    (ha : t.Admits (.storeSwap swap)) : (t.run (.storeSwap swap)).Inv := by
  have hsame : ∀ row ∈ t.pending,
      (t.run (.storeSwap swap)).storedAmount row.swapId = t.storedAmount row.swapId := by
    intro row hrow
    by_cases hid : row.swapId = swap.id
    · rw [hid, ha row hrow hid]
      exact storedAmount_eq (Function.update_self ..)
    · unfold storedAmount
      simp only [run, Function.update_of_ne hid]
  refine ⟨fun id s hs => ?_, hi.keys, fun row hrow => ?_, hi.tracked, fun chain => ?_, ?_, hi.limit⟩
  · by_cases hid : id = swap.id
    · subst hid
      simp only [run, Function.update_self, Option.some.injEq] at hs
      rw [← hs]
    · simp only [run, Function.update_of_ne hid] at hs
      exact hi.keyed id s hs
  · by_cases hid : row.swapId = swap.id
    · simp [run, hid]
    · simp only [run, Function.update_of_ne hid]
      exact hi.stored row hrow
  · refine (hi.risk chain).trans (congrArg List.sum (List.map_congr_left fun row hrow => ?_))
    exact (hsame row (List.mem_filter.mp hrow).1).symm
  · refine hi.accepted.trans (List.map_congr_left fun row hrow => ?_)
    rw [hsame row hrow]

theorem inv_run {t : LockupTransactionTracker} (hi : t.Inv) (o : Operation) (ha : t.Admits o) :
    (t.run o).Inv := by
  cases o with
  | isAcceptable swap => exact inv_isAcceptable hi ha
  | block chain info =>
    change (if t.chains.contains chain then t.checkPendingLockupsForChain chain info else t).Inv
    split
    · exact inv_block hi chain info
    · exact hi
  | restart => exact inv_restart hi
  | storeSwap swap => exact inv_storeSwap hi ha

/-- The risk of every chain is counted exactly, in every run in which a swap is accepted once, as
it is stored, and its amount does not change while its lockup is pending. -/
theorem risk_exact {chains : List Nat} {maxRisk : Nat → Nat} {t : LockupTransactionTracker}
    (hr : Reaches Admits (new chains maxRisk) t) : t.Exact := by
  have hinv : t.Inv := by
    induction hr with
    | start => exact inv_new chains maxRisk
    | run o _ ha ih => exact inv_run ih o ha
  exact hinv.exact

/-! ## Runs of one swap -/

def sampleSwap : LockupSwap := ⟨1, .submarine, 0, some 60⟩

/-- The swap is accepted, and the tracker is restarted. -/
theorem risk_exact_restarted : ∃ t, Reaches Admits (new [0] fun _ => 100) t ∧
    t.risk 0 = 60 ∧ t.Exact := by
  have hr : Reaches Admits (new [0] fun _ => 100)
      ((((new [0] fun _ => 100).run (.storeSwap sampleSwap)).run (.isAcceptable sampleSwap)).run
        .restart) := by
    refine .run _ (.run _ (.run _ .start ?_) ?_) trivial
    · intro row hrow
      cases hrow
    · exact fun _ _ _ => ⟨by decide, sampleSwap, rfl, rfl⟩
  exact ⟨_, hr, by decide, risk_exact hr⟩

/-- The lockup of the swap is evaluated twice: the second row cannot be created, but the counter
was raised already. -/
theorem repeated_check_counts_twice : ∃ t, Reaches (fun _ _ => True) (new [0] fun _ => 200) t ∧
    t.risk 0 = 120 ∧ t.pendingAmount 0 = 60 ∧ ¬t.Exact := by
  refine ⟨_, .run (.isAcceptable sampleSwap) (.run (.isAcceptable sampleSwap)
    (.run (.storeSwap sampleSwap) .start trivial) trivial) trivial, by decide, by decide, ?_⟩
  intro h
  have heq := (h 0).1
  revert heq
  decide

end LockupTransactionTracker

end Boltz
