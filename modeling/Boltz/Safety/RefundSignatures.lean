import Boltz.Logic.Statuses
import Boltz.Safety.PaidSwaps

/-!
# Refund signatures of submarine swaps

`signRefund` and `signRefundArk` take no lock of the nursery: the swap is read and checked first,
and `createdRefundSignature`, at which the handlers of a lockup look, is stored later. Between the
two the handler of a lockup that was stored before the swap failed can start to pay.
-/

namespace Boltz

open Async SwapUpdateEvent

/-- The signing call of task `t` reads the swap. -/
def readsForRefund (id t : Nat) (e : Event Label World Answer) : Prop :=
  e.task = t ∧ e.label = .signRefund .submarine id

instance (id t : Nat) (e : Event Label World Answer) : Decidable (readsForRefund id t e) :=
  inferInstanceAs (Decidable (_ ∧ _))

/-- `payInvoice` stored `InvoicePending` after the signing call of task `t` read the swap. -/
def pendingSinceRead (h : History) (id t : Nat) : Bool :=
  !decide (h.trace.Pairwise fun later e =>
    readsForRefund id t e → later.label ≠ .setInvoicePending id)

/-- A signing call of task `t` returned a signature to the client. -/
def returnsRefund (trace : List (Event Label World Answer)) (id t : Nat) : Bool :=
  trace.any fun e => e.task == t && e.label == .refundSigned .submarine id

/-- No payment is started after the eligibility check of a signing call that returns a signature,
unless the refund was allowed. The newest event comes first. -/
def RefundExcludesPayment (h : History) : Prop :=
  ∀ id, h.world.allowedRefunds.contains id = false → h.trace.Pairwise fun later e =>
    e.label = .refundEligible .submarine id → returnsRefund h.trace id e.task = true →
      later.label ≠ .sendPayment id

/-- `InvoicePending` is not stored when the refund signature is, and the refund signature is not
stored when `InvoicePending` was stored since the swap was read for it. -/
def refundPolicy : Policy Request Label World Answer where
  spawn _ := true
  allow l t h _ := match l with
    | .setInvoicePending id => h.world.allowedRefunds.contains id ||
      (h.world.swaps.get id).any fun s => !s.createdRefundSignature
    | .setRefundSignatureCreated .submarine id => h.world.allowedRefunds.contains id ||
      !pendingSinceRead h id t
    | _ => true

/-! ## What a history says -/

/-- The swap that is read has failed. -/
def readsFailed (id : Nat) (e : Event Label World Answer) : Prop :=
  e.label = .signRefund .submarine id ∧
    ∃ s, e.before.swaps.get id = some s ∧ s.status ∈ failedSwapUpdateEvents

/-- The events since `InvoicePending` was stored. -/
def sincePending (id : Nat) (past : List (Event Label World Answer)) :
    List (Event Label World Answer) :=
  past.takeWhile fun e => e.label != .setInvoicePending id

/-- The refund signature is stored in the row. -/
def SignatureStored (row : Option Swap) : Prop :=
  ∀ s, row = some s → s.createdRefundSignature = true

/-- The invoice is pending or was paid, and no call has read the swap as failed since. -/
def PaidSincePending (id : Nat) (row : Option Swap) (past : List (Event Label World Answer)) :
    Prop :=
  (∀ e ∈ sincePending id past, ¬readsFailed id e) ∧ ∀ s, row = some s → s.status ∈ paidStatuses

/-- Task `t` stored the refund signature before `InvoicePending` was stored again. -/
def SignedBy (id t : Nat) (row : Option Swap) (past : List (Event Label World Answer)) : Prop :=
  SignatureStored row ∧
    past.Pairwise fun later e => readsForRefund id t e → later.label ≠ .setInvoicePending id

structure RefundSafe (id : Nat) (row : Option Swap) (past : List (Event Label World Answer)) :
    Prop where
  pending : ∀ s, row = some s → s.status = invoicePending →
    ∀ e ∈ sincePending id past, ¬readsFailed id e
  paid : (sincePending id past).Pairwise fun later e =>
    readsFailed id e → later.label ≠ .sendPayment id
  eligible : ∀ later e earlier, past = later ++ e :: earlier →
    e.label = .refundEligible .submarine id → ∃ r ∈ earlier, r.task = e.task ∧ readsFailed id r
  signed : ∀ e ∈ past, e.label = .refundSigned .submarine id → SignedBy id e.task row past

section history

variable {id t : Nat} {past : List (Event Label World Answer)} {e : Event Label World Answer}
  {row : Option Swap} {s s' : Swap}

theorem sincePending_cons (h : e.label ≠ .setInvoicePending id) :
    sincePending id (e :: past) = e :: sincePending id past := by
  unfold sincePending
  rw [List.takeWhile_cons_of_pos]
  simpa using h

theorem sincePending_pend (h : e.label = .setInvoicePending id) :
    sincePending id (e :: past) = [] := by
  unfold sincePending
  rw [List.takeWhile_cons_of_neg]
  simp [h]

/-- A list in which what comes first is as it should be for every element behind it. -/
theorem pairwise_of_split {α : Type} {R : α → α → Prop} {l : List α}
    (h : ∀ later x earlier, l = later ++ x :: earlier → ∀ y ∈ later, R y x) : l.Pairwise R := by
  induction l with
  | nil => exact .nil
  | cons y l ih =>
    refine List.pairwise_cons.mpr ⟨fun x hx => ?_, ih fun later x earlier hl z hz => ?_⟩
    · obtain ⟨later, earlier, rfl⟩ := List.append_of_mem hx
      exact h (y :: later) x earlier rfl y (by simp)
    · exact h (y :: later) x earlier (by rw [hl]; rfl) z (by simp [hz])

theorem eligible_cons {Q : Event Label World Answer → Event Label World Answer → Prop}
    (hold : ∀ later x earlier, past = later ++ x :: earlier →
      x.label = .refundEligible .submarine id → ∃ r ∈ earlier, Q r x)
    (hnew : e.label = .refundEligible .submarine id → ∃ r ∈ past, Q r e) :
    ∀ later x earlier, e :: past = later ++ x :: earlier →
      x.label = .refundEligible .submarine id → ∃ r ∈ earlier, Q r x := by
  intro later x earlier hsplit hx
  cases later with
  | nil =>
    cases hsplit
    exact hnew hx
  | cons y later =>
    rw [List.cons_append] at hsplit
    cases hsplit
    exact hold later x earlier rfl hx

/-- An event that does not make the invoice pending. -/
theorem SignedBy.cons (h : SignedBy id t row past) (he : e.label ≠ .setInvoicePending id) :
    SignedBy id t row (e :: past) :=
  ⟨h.1, List.pairwise_cons.mpr ⟨fun _ _ _ => he, h.2⟩⟩

namespace RefundSafe

theorem nil : RefundSafe id row [] where
  pending _ _ _ _ he := absurd he List.not_mem_nil
  paid := .nil
  eligible later _ _ hsplit := by cases later <;> cases hsplit
  signed _ he := absurd he List.not_mem_nil

theorem cons (hi : RefundSafe id row past) (he : e.label ≠ .setInvoicePending id)
    (hread : readsFailed id e → ∃ s, row = some s ∧ s.status ∉ paidStatuses)
    (hpay : e.label = .sendPayment id → ∀ x ∈ sincePending id past, ¬readsFailed id x)
    (heligible : e.label = .refundEligible .submarine id →
      ∃ r ∈ past, r.task = e.task ∧ readsFailed id r)
    (hsigned : e.label = .refundSigned .submarine id → SignedBy id e.task row past) :
    RefundSafe id row (e :: past) where
  pending s hs hst := by
    rw [sincePending_cons he]
    intro x hx
    rcases List.mem_cons.mp hx with rfl | hx
    · intro hfailed
      obtain ⟨s', hs', hnot⟩ := hread hfailed
      cases hs.symm.trans hs'
      rw [hst] at hnot
      exact hnot (by decide)
    · exact hi.pending s hs hst x hx
  paid := by
    rw [sincePending_cons he]
    exact List.pairwise_cons.mpr
      ⟨fun x hx hfailed hlabel => hpay hlabel x hx hfailed, hi.paid⟩
  eligible := eligible_cons hi.eligible heligible
  signed x hx hlabel := by
    rcases List.mem_cons.mp hx with rfl | hx
    · exact (hsigned hlabel).cons he
    · exact (hi.signed x hx hlabel).cons he

/-- `InvoicePending` is stored. -/
theorem pend (hi : RefundSafe id (some s) past) (he : e.label = .setInvoicePending id)
    (hunsigned : s.createdRefundSignature = false) : RefundSafe id row (e :: past) where
  pending _ _ _ := by
    rw [sincePending_pend he]
    exact fun _ hx => nomatch hx
  paid := by
    rw [sincePending_pend he]
    exact .nil
  eligible := eligible_cons hi.eligible fun hlabel => nomatch he.symm.trans hlabel
  signed x hx hlabel := by
    rcases List.mem_cons.mp hx with rfl | hx
    · exact nomatch he.symm.trans hlabel
    · have hstored : s.createdRefundSignature = true := (hi.signed x hx hlabel).1 s rfl
      rw [hunsigned] at hstored
      cases hstored

/-- A write of the row. -/
theorem write (hi : RefundSafe id (some s) past) (hpasses : Swap.Passes invoicePending s s') :
    RefundSafe id (some s') past where
  pending x hx hst := by
    cases hx
    exact hi.pending s rfl (hpasses.status hst)
  paid := hi.paid
  eligible := hi.eligible
  signed x hx hlabel := by
    refine ⟨fun y hy => ?_, (hi.signed x hx hlabel).2⟩
    cases hy
    exact hpasses.signed ((hi.signed x hx hlabel).1 s rfl)

/-- What the statement is about: a payment after the check of a call that returns. -/
theorem excludes (hi : RefundSafe id row past) : past.Pairwise fun later e =>
    e.label = .refundEligible .submarine id → returnsRefund past id e.task = true →
      later.label ≠ .sendPayment id := by
  refine pairwise_of_split fun later e earlier hsplit y hy heligible hreturns hpay => ?_
  obtain ⟨r, hr, htask, hfailed⟩ := hi.eligible later e earlier hsplit heligible
  obtain ⟨x, hx, hsigned⟩ := List.any_eq_true.mp hreturns
  rw [Bool.and_eq_true, beq_iff_eq, beq_iff_eq] at hsigned
  have hby := (hi.signed x hx hsigned.2).2
  rw [hsigned.1, ← htask] at hby
  obtain ⟨since, before, rfl⟩ := List.append_of_mem hr
  have hpast : past = (later ++ e :: since) ++ r :: before := by
    rw [hsplit, List.append_assoc, List.cons_append]
  -- no `InvoicePending` was stored since the swap was read as failed
  have hquiet : ∀ x ∈ later ++ e :: since, x.label ≠ .setInvoicePending id := by
    rw [hpast, List.pairwise_append] at hby
    exact fun x hx => hby.2.2 x hx r (by simp) ⟨rfl, hfailed.1⟩
  have hsince : sincePending id past =
      (later ++ e :: since) ++ sincePending id (r :: before) := by
    rw [hpast]
    unfold sincePending
    refine List.takeWhile_append_of_pos fun x hx => ?_
    simpa using hquiet x hx
  have hrlabel : r.label ≠ .setInvoicePending id := by
    rw [hfailed.1]
    exact nofun
  have hpaid := hi.paid
  rw [hsince, sincePending_cons hrlabel, List.pairwise_append] at hpaid
  exact hpaid.2.2 y (by simp [hy]) r (by simp) hfailed hpay

end RefundSafe

end history

/-! ## Rows -/

def refundView (id : Nat) (w : World) : Option Swap × Bool :=
  (w.swaps.get id, w.allowedRefunds.contains id)

theorem ofSubmarine_refund (id : Nat) : OfSubmarine (refundView id) :=
  ⟨fun hs ha => by rw [refundView, hs, ha]; rfl⟩

/-- The steps of the signing calls and of the payment. -/
def refundLabels (id : Nat) : List Label :=
  [.signRefund .submarine id, .refundEligible .submarine id,
    .setRefundSignatureCreated .submarine id, .refundSigned .submarine id, .setInvoicePending id,
    .sendPayment id]

/-- A refund signature that is stored stays, and `InvoicePending` is not stored after it. With the
lock, a swap whose invoice is pending is not read as failed. -/
def refundLogic (id : Nat) : RowLogic (Option Swap × Bool) Label.isSubmarine where
  relevant l := (refundLabels id).contains l
  allow := refundPolicy.allow
  Inv o := o.now.2 = false → RefundSafe id o.now.1 o.past
  Res _ := True
  Keep o o' := o'.now.2 = false →
    o.now.2 = false ∧
      (PaidSincePending id o.now.1 o.past → PaidSincePending id o'.now.1 o'.past)
  Any o o' := ∃ new, o'.past = new ++ o.past ∧ (o'.now.2 = false → o.now.2 = false ∧
    (SignatureStored o.now.1 →
      SignatureStored o'.now.1 ∧ ∀ e ∈ new, e.label ≠ .setInvoicePending id))
  keep_refl _ h := ⟨h, fun h => h⟩
  keep_trans h₁ h₂ h := by
    obtain ⟨hmid, hkept⟩ := h₂ h
    obtain ⟨hfirst, hkept'⟩ := h₁ hmid
    exact ⟨hfirst, fun hp => hkept (hkept' hp)⟩
  any_refl _ := ⟨[], rfl, fun h => ⟨h, fun hs => ⟨hs, fun _ he => absurd he List.not_mem_nil⟩⟩⟩
  any_trans := by
    rintro o₁ o₂ o₃ ⟨new, hnew, h₁⟩ ⟨new', hnew', h₂⟩
    refine ⟨new' ++ new, by rw [hnew', hnew, List.append_assoc], fun h => ?_⟩
    obtain ⟨hmid, hkept'⟩ := h₂ h
    obtain ⟨hfirst, hkept⟩ := h₁ hmid
    refine ⟨hfirst, fun hs => ?_⟩
    obtain ⟨hs₂, hnone⟩ := hkept hs
    obtain ⟨hs₃, hnone'⟩ := hkept' hs₂
    refine ⟨hs₃, fun e he => ?_⟩
    rcases List.mem_append.mp he with he | he
    · exact hnone' e he
    · exact hnone e he
  res_keep _ _ := trivial
  kind l hl := by
    have hmem : l ∈ refundLabels id := List.contains_iff_mem.mp hl
    simp only [refundLabels, List.mem_cons, List.not_mem_nil, or_false] at hmem
    rcases hmem with rfl | rfl | rfl | rfl | rfl | rfl <;> rfl
  other := rfl

abbrev refundRules (id : Nat) : Rules Unit (Option Swap × Bool) :=
  swapRules (refundLogic id) (ofSubmarine_refund id)

namespace refundRules

variable {id t : Nat} {ks : List Unit}
  {B C : Seen (Option Swap × Bool) → Prop} {o : Seen (Option Swap × Bool)}

theorem row : (refundRules id).RowOf (·.swaps) setSwaps id Prod.fst fun x v => (x, v.2) where
  row_view _ := rfl
  view_set _ _ := rfl
  put_row _ := rfl
  locks_set _ _ := rfl

theorem irrelevant_of {l : Label} (h : l ∉ refundLabels id) :
    (refundRules id).relevant l = false := by
  change (refundLabels id).contains l = false
  simpa using h

theorem any_write {s s' : Swap} (hnow : o.now.1 = some s)
    (hsigned : s.createdRefundSignature = true → s'.createdRefundSignature = true) :
    (refundRules id).Any o ⟨(some s', o.now.2), o.past⟩ := by
  refine ⟨[], rfl, fun h => ⟨h, fun hs => ⟨fun x hx => ?_, fun _ he => ?_⟩⟩⟩
  swap
  · exact absurd he List.not_mem_nil
  cases hx
  exact hsigned (hs s hnow)

theorem inv_write {s s' : Swap} (hi : (refundRules id).Inv o) (hnow : o.now.1 = some s)
    (hpasses : Swap.Passes invoicePending s s') :
    (refundRules id).Inv ⟨(some s', o.now.2), o.past⟩ := by
  intro h
  have hsafe := hi h
  rw [hnow] at hsafe
  exact hsafe.write hpasses

/-- A write with the lock. -/
theorem does_locked {j : Nat} {f : Swap → Swap} {l : Label}
    (hl : (refundRules id).relevant l = false)
    (hpasses : ∀ s, Swap.Passes invoicePending s (f s)) :
    (refundRules id).Does [()] B (writeAct l fun w => setSwaps (w.swaps.modify j f) w)
      fun _ _ => True := by
  refine Rules.does_modify row hl (fun _ _ _ => trivial) fun _ t h ω r hi _ _ hr => ?_
  exact ⟨inv_write hi hr (hpasses r), any_write hr (hpasses r).signed,
    fun k hk => absurd (by simp) hk, trivial⟩

/-- A write that everybody may do. -/
theorem does_keep {j : Nat} {f : Swap → Swap} {l : Label} (hB : (refundRules id).Steady [()] B)
    (hl : (refundRules id).relevant l = false)
    (hpasses : ∀ s, Swap.Passes invoicePending s (f s))
    (hpaid : ∀ s, s.status ∈ paidStatuses → (f s).status ∈ paidStatuses) :
    (refundRules id).Does ks B (writeAct l fun w => setSwaps (w.swaps.modify j f) w)
      fun _ => B := by
  refine Rules.does_modify row hl (fun _ _ hb => hb) fun _ t h ω r hi hb _ hr => ?_
  have hinv := inv_write hi hr (hpasses r)
  have hany : (refundRules id).Any ((refundRules id).obs h)
      ⟨(some (f r), ((refundRules id).obs h).now.2), ((refundRules id).obs h).past⟩ :=
    any_write hr (hpasses r).signed
  have hkeep : ∀ k, (refundRules id).Keep k ((refundRules id).obs h)
      ⟨(some (f r), ((refundRules id).obs h).now.2), ((refundRules id).obs h).past⟩ := by
    refine fun k hfalse => ⟨hfalse, fun hp => ⟨hp.1, fun s hs => ?_⟩⟩
    cases hs
    exact hpaid r (hp.2 r hr)
  exact ⟨hinv, hany, fun k _ => hkeep k, hB _ _ hany (fun k _ => hkeep k) hinv hb⟩

theorem steady_true : (refundRules id).Steady [()] fun _ => True := Guarded.steady_true

theorem statusSpec : (refundRules id).StatusSpec () invoicePending paidStatuses where
  chain := swapRules.ignoresChain
  claims := swapRules.ignoresClaims
  lock := rfl
  not_stored := by decide
  closed := by decide
  claimed := by decide
  claimPending := by decide
  free hB hl hpasses hkept := does_keep hB hl hpasses hkept
  locked hl hpasses := does_locked hl hpasses

/-! ## Events -/

/-- An event that changes nothing is recorded. -/
theorem moves_event {e : Event Label World Answer} (hi : (refundRules id).Inv o)
    (he : e.label ≠ .setInvoicePending id)
    (hread : readsFailed id e → ∃ s, o.now.1 = some s ∧ s.status ∉ paidStatuses)
    (hpay : e.label = .sendPayment id → o.now.2 = false →
      ∀ x ∈ sincePending id o.past, ¬readsFailed id x)
    (heligible : e.label = .refundEligible .submarine id → o.now.2 = false →
      ∃ r ∈ o.past, r.task = e.task ∧ readsFailed id r)
    (hsigned : e.label = .refundSigned .submarine id → o.now.2 = false →
      SignedBy id e.task o.now.1 o.past) (hC : C ⟨o.now, e :: o.past⟩) :
    (refundRules id).Moves ks o ⟨o.now, e :: o.past⟩ C where
  inv h := (hi h).cons he hread (fun hl => hpay hl h) (fun hl => heligible hl h)
    fun hl => hsigned hl h
  any := by
    refine ⟨[e], rfl, fun h => ⟨h, fun hs => ⟨hs, fun x hx => ?_⟩⟩⟩
    rw [List.mem_singleton.mp hx]
    exact he
  keep _ _ h := by
    refine ⟨h, fun hp => ⟨?_, hp.2⟩⟩
    change ∀ x ∈ sincePending id (e :: o.past), ¬readsFailed id x
    rw [sincePending_cons he]
    intro x hx hfailed
    rcases List.mem_cons.mp hx with rfl | hx
    · obtain ⟨s, hs, hnot⟩ := hread hfailed
      exact hnot (hp.2 s hs)
    · exact hp.1 x hx hfailed
  after := hC

/-- A labelled step that changes nothing is recorded. -/
theorem obs_event {h : History} {l : Label} {ω : Answer} (hl : l ∈ refundLabels id) :
    (refundRules id).obs (h.record t l ω h.world) = ⟨((refundRules id).obs h).now,
      ⟨t, l, ω, h.world, h.world⟩ :: ((refundRules id).obs h).past⟩ :=
  Guarded.obs_loud (List.contains_iff_mem.mpr hl)

/-- The call of task `t` read the swap as failed. -/
def ReadFailed (id t : Nat) (o : Seen (Option Swap × Bool)) : Prop :=
  ∃ r ∈ o.past, r.task = t ∧ readsFailed id r

theorem steady_of_mem {P : Event Label World Answer → Prop} :
    (refundRules id).Steady ks fun o => ∃ r ∈ o.past, P r := by
  rintro o o' ⟨new, hpast, -⟩ - - ⟨r, hr, hP⟩
  refine ⟨r, ?_, hP⟩
  rw [hpast]
  exact List.mem_append_right new hr

theorem steady_unless_allowed (hB : (refundRules id).Steady ks B) :
    (refundRules id).Steady ks fun o => o.now.2 = false → B o := by
  intro o o' hany hkeep hi hb h
  have hany' := hany
  obtain ⟨_, -, hguard⟩ := hany'
  exact hB o o' hany hkeep hi (hb (hguard h).1)

theorem not_paid_of_failed : ∀ status ∈ failedSwapUpdateEvents, status ∉ paidStatuses := by decide

/-- The swap is read for a refund. -/
theorem doesBy_readSwap : (refundRules id).DoesBy t [] (fun _ => True)
    (readAct (.signRefund .submarine id) fun w => w.swaps.byId id) fun r o =>
      ∀ swap, r = some swap →
        swap.id = id ∧ (swap.row.status ∈ failedSwapUpdateEvents → ReadFailed id t o) := by
  refine Rules.doesBy_of_moves (fun w ω b w' he => ?_) fun h ω b w hi _ _ he => ?_
  · cases he
    rfl
  · cases he
    have hl : .signRefund .submarine id ∈ refundLabels id := by simp [refundLabels]
    change (refundRules id).Moves [] ((refundRules id).obs h)
      ((refundRules id).obs (h.record t (.signRefund .submarine id) ω h.world)) _
    rw [obs_event hl]
    refine moves_event hi nofun (fun hfailed => ?_) nofun nofun nofun fun swap hswap => ?_
    · obtain ⟨-, s, hs, hst⟩ := hfailed
      exact ⟨s, hs, not_paid_of_failed _ hst⟩
    · obtain ⟨hid, hrow⟩ := Table.byId_eq_some.mp hswap
      exact ⟨hid, fun hst => ⟨_, List.mem_cons_self, rfl, rfl, swap.row, hrow, hst⟩⟩

/-! ## Signing calls -/

theorem doesBy_eligible : (refundRules id).DoesBy t []
    (fun o => o.now.2 = false → ReadFailed id t o)
    (writeAct (.refundEligible .submarine id) fun w => w) fun _ _ => True := by
  refine Rules.doesBy_of_moves (fun w ω b w' he => ?_) fun h ω b w hi hB _ he => ?_
  · cases he
    rfl
  · cases he
    have hl : .refundEligible .submarine id ∈ refundLabels id := by simp [refundLabels]
    change (refundRules id).Moves [] ((refundRules id).obs h)
      ((refundRules id).obs (h.record t (.refundEligible .submarine id) ω h.world)) _
    rw [obs_event hl]
    exact moves_event hi nofun (fun hfailed => nomatch hfailed.1) nofun (fun _ => hB) nofun trivial

/-- What a call that returns a signature knows. -/
def Returnable (id t : Nat) (o : Seen (Option Swap × Bool)) : Prop :=
  o.now.2 = false → SignedBy id t o.now.1 o.past

theorem steady_returnable : (refundRules id).Steady ks (Returnable id t) := by
  rintro o o' ⟨new, hpast, hguard⟩ - - hB h
  obtain ⟨hfalse, hstored⟩ := hguard h
  obtain ⟨hrow, hread⟩ := hB hfalse
  obtain ⟨hrow', hnone⟩ := hstored hrow
  refine ⟨hrow', ?_⟩
  rw [hpast, List.pairwise_append]
  refine ⟨?_, hread, fun x hx _ _ _ => hnone x hx⟩
  exact List.pairwise_of_forall_mem_list fun x hx _ _ _ => hnone x hx

/-- What the policy says about the history is seen. -/
theorem pairwise_of_not_pendingSinceRead {h : History} (hp : pendingSinceRead h id t = false) :
    ((refundRules id).obs h).past.Pairwise fun later e =>
      readsForRefund id t e → later.label ≠ .setInvoicePending id := by
  unfold pendingSinceRead at hp
  rw [Bool.not_eq_false', decide_eq_true_iff] at hp
  exact hp.filter _

/-- The row after `setRefundSignatureCreated`. -/
def signedRow (row : Option Swap) : Option Swap :=
  row.map fun s => { s with createdRefundSignature := true }

theorem signatureStored_signedRow (row : Option Swap) : SignatureStored (signedRow row) := by
  intro s hs
  obtain ⟨r, -, rfl⟩ := Option.map_eq_some_iff.mp hs
  rfl

theorem moves_store {e : Event Label World Answer} (hi : (refundRules id).Inv o)
    (hl : e.label = .setRefundSignatureCreated .submarine id)
    (hC : C ⟨(signedRow o.now.1, o.now.2), e :: o.past⟩) :
    (refundRules id).Moves ks o ⟨(signedRow o.now.1, o.now.2), e :: o.past⟩ C := by
  have hwritten : (refundRules id).Inv ⟨(signedRow o.now.1, o.now.2), o.past⟩ := by
    cases hrow : o.now.1 with
    | none =>
      intro h
      have hsafe := hi h
      rw [hrow] at hsafe
      exact hsafe
    | some s => exact inv_write hi hrow ⟨fun hst => hst, fun _ => rfl⟩
  have hsigned := signatureStored_signedRow o.now.1
  have hread : ¬readsFailed id e := fun hfailed => nomatch hl.symm.trans hfailed.1
  have hnot : e.label ≠ .setInvoicePending id := fun he => nomatch hl.symm.trans he
  have hevent : (refundRules id).Moves ks ⟨(signedRow o.now.1, o.now.2), o.past⟩
      ⟨(signedRow o.now.1, o.now.2), e :: o.past⟩ C :=
    moves_event hwritten hnot (fun hfailed => absurd hfailed hread)
      (fun he => nomatch hl.symm.trans he) (fun he => nomatch hl.symm.trans he)
      (fun he => nomatch hl.symm.trans he) hC
  refine ⟨hevent.inv, ⟨[e], rfl, fun h => ⟨h, fun _ => ⟨hsigned, fun x hx => ?_⟩⟩⟩,
    fun k hk h => ?_, hC⟩
  · rw [List.mem_singleton.mp hx]
    exact hnot
  · obtain ⟨-, hkept⟩ := hevent.keep k hk h
    refine ⟨h, fun hp => hkept ⟨hp.1, fun s hs => ?_⟩⟩
    obtain ⟨r, hr, rfl⟩ := Option.map_eq_some_iff.mp hs
    exact hp.2 r hr

theorem doesBy_store : (refundRules id).DoesBy t [] (fun _ => True) (swapRefundSignedAct id)
    fun _ => Returnable id t := by
  refine Rules.doesBy_of_moves (fun w ω b w' he => ?_) fun h ω b w hi _ ha he => ?_
  · cases he
    rfl
  · cases he
    have hl : .setRefundSignatureCreated .submarine id ∈ refundLabels id := by simp [refundLabels]
    change (refundRules id).Moves [] ((refundRules id).obs h) ((refundRules id).obs
      (h.record t (.setRefundSignatureCreated .submarine id) ω _)) _
    rw [Guarded.obs_loud (List.contains_iff_mem.mpr hl), row.view_modify, if_pos rfl]
    refine moves_store hi rfl fun hfalse => ⟨signatureStored_signedRow _, ?_⟩
    have hview : h.world.allowedRefunds.contains id = false := hfalse
    change (h.world.allowedRefunds.contains id || !pendingSinceRead h id t) = true at ha
    rw [hview, Bool.false_or, Bool.not_eq_true'] at ha
    refine List.pairwise_cons.mpr ⟨fun x _ _ => nofun, ?_⟩
    exact pairwise_of_not_pendingSinceRead ha

theorem doesBy_returned : (refundRules id).DoesBy t [] (Returnable id t)
    (writeAct (.refundSigned .submarine id) fun w => w) fun _ _ => True := by
  refine Rules.doesBy_of_moves (fun w ω b w' he => ?_) fun h ω b w hi hB _ he => ?_
  · cases he
    rfl
  · cases he
    have hl : .refundSigned .submarine id ∈ refundLabels id := by simp [refundLabels]
    change (refundRules id).Moves [] ((refundRules id).obs h)
      ((refundRules id).obs (h.record t (.refundSigned .submarine id) ω h.world)) _
    rw [obs_event hl]
    exact moves_event hi nofun (fun hfailed => nomatch hfailed.1) nofun nofun (fun _ => hB) trivial

section signing

variable {h : History}

/-- What is known after the eligibility check. -/
def checked (id t : Nat) : Except Error Unit → Seen (Option Swap × Bool) → Prop
  | .ok _, o => o.now.2 = false → ReadFailed id t o
  | .error _, _ => True

/-- Nothing but an explicit permission helps a swap that is not eligible. -/
theorem wp_allowed {swap : Instance Swap} (hid : swap.id = id) (reason : RefundRejectionReason)
    (hA : (refundRules id).On [] (fun _ => True) t h) :
    (refundRules id).logic.wp (do
      let allowed ← read fun w => w.allowedRefunds.contains swap.id
      Prog.throwIf (!allowed) (.message reason.message) : M Unit) t
      (fun r h' => (refundRules id).On [] (checked id t r) t h') h := by
  have hread : (refundRules id).Does [] (fun _ => True)
      (readAct .other fun w => w.allowedRefunds.contains swap.id)
      fun allowed o => allowed = true → o.now.2 = true :=
    Rules.does_read rfl fun t h ω hi _ _ htrue => by rw [hid] at htrue; exact htrue
  refine Guarded.wp_does_bind hread Guarded.steady_true hA fun allowed h₁ h₁A => ?_
  cases allowed with
  | false => exact h₁A.mono fun _ _ => trivial
  | true =>
    refine h₁A.mono fun o ho hfalse => ?_
    rw [ho rfl] at hfalse
    cases hfalse

theorem wp_validateEligibility {swap : Instance Swap} (hid : swap.id = id)
    (hA : (refundRules id).On []
      (fun o => swap.row.status ∈ failedSwapUpdateEvents → ReadFailed id t o) t h) :
    (refundRules id).logic.wp (MusigSigner.validateEligibility swap) t
      (fun r h' => (refundRules id).On [] (checked id t r) t h') h := by
  have hsteady : (refundRules id).Steady [] fun o =>
      swap.row.status ∈ failedSwapUpdateEvents → ReadFailed id t o := fun o o' ha hk hi hb hst =>
    steady_of_mem o o' ha hk hi (hb hst)
  unfold MusigSigner.validateEligibility MusigSigner.refundNonEligibilityReason
  split_ifs with hversion hstatus
  · exact wp_allowed hid _ (hA.mono fun _ _ => trivial)
  · exact wp_allowed hid _ (hA.mono fun _ _ => trivial)
  · rw [Bool.not_eq_true', Bool.not_eq_false, List.contains_iff_mem] at hstatus
    rw [Logic.wp_bind]
    refine Rules.wp_quiet_bind (uses_ask (Rules.quiet_plain.ask _)) hsteady hA
      (fun pending h₁ h₁A => ?_) fun _ _ h₁A => h₁A.mono fun _ _ => trivial
    cases pending with
    | true => exact wp_allowed hid _ (h₁A.mono fun _ _ => trivial)
    | false => exact h₁A.mono fun o ho _ => ho hstatus

/-- The part of a signing call up to the eligibility check. -/
theorem wp_eligibleForRefund (backend : Backend) (hA : (refundRules id).On [] (fun _ => True) t h) :
    (refundRules id).logic.wp (MusigSigner.eligibleForRefund id backend) t
      (fun _ h' => (refundRules id).On [] (fun _ => True) t h') h := by
  refine Guarded.wp_doesBy_bind doesBy_readSwap Guarded.steady_true hA fun r h₁ h₁A => ?_
  cases r with
  | none => exact h₁A.mono fun _ _ => trivial
  | some swap =>
    have hid : swap.id = id := (h₁A.2 swap rfl).1
    have hread := h₁A.mono fun o ho => (ho swap rfl).2
    have hsteady : (refundRules id).Steady [] fun o =>
        swap.row.status ∈ failedSwapUpdateEvents → ReadFailed id t o := fun o o' ha hk hi hb hst =>
      steady_of_mem o o' ha hk hi (hb hst)
    have hend : ∀ h', (refundRules id).On [] (fun o => swap.row.status ∈ failedSwapUpdateEvents →
        ReadFailed id t o) t h' → (refundRules id).On [] (fun _ => True) t h' :=
      fun _ hA => hA.mono fun _ _ => trivial
    refine Rules.wp_quiet_bind (uses_ask (Rules.quiet_plain.ask _)) hsteady hread
      (fun disabled h₂ h₂A => ?_) fun _ => hend
    refine Rules.wp_quiet_bind (.throwIf _ _) hsteady h₂A (fun _ h₃ h₃A => ?_) fun _ => hend
    refine Rules.wp_quiet_bind (.throwIf _ _) hsteady h₃A (fun _ h₄ h₄A => ?_) fun _ => hend
    rw [Logic.wp_bind]
    refine Logic.wp_mono (wp_validateEligibility hid h₄A) fun r h₅ h₅A => ?_
    cases r with
    | error e => exact h₅A.mono fun _ _ => trivial
    | ok _ =>
      refine Guarded.wp_doesBy_bind doesBy_eligible (steady_unless_allowed steady_of_mem) h₅A
        fun _ h₆ h₆A => ?_
      exact h₆A

theorem wp_returned (hA : (refundRules id).On [] (Returnable id t) t h) :
    (refundRules id).logic.wp (mark (.refundSigned .submarine id)) t Logic.top h := by
  intro h₁ hrely hi ω b w hallow he
  obtain ⟨hstep, -⟩ := doesBy_returned h₁ ω b w hi (hA.rely steady_returnable hrely hi) hallow he
  exact ⟨hstep, trivial⟩

/-- A signing call, whatever it does with the flag stored. -/
theorem safe_signing (backend : Backend) {sign : M Unit}
    (hsign : ∀ {t h}, (refundRules id).On [] (Returnable id t) t h →
      (refundRules id).logic.wp sign t Logic.top h) :
    (refundRules id).logic.Safe (do
      let _ ← MusigSigner.eligibleForRefund id backend
      external
      SwapRepository.setRefundSignatureCreated id (.setRefundSignatureCreated .submarine id)
      sign) := by
  intro t h _
  have h₀ : (refundRules id).On [] (fun _ => True) t h := ⟨by simp, trivial⟩
  rw [Logic.wp_bind]
  refine Logic.wp_mono (wp_eligibleForRefund _ h₀) fun r h₁ h₁A => ?_
  cases r with
  | error e => trivial
  | ok swap =>
    refine Rules.wp_quiet_bind (uses_external Rules.quiet_plain) Guarded.steady_true h₁A
      (fun _ h₂ h₂A => ?_) fun _ _ _ => trivial
    exact Guarded.wp_doesBy_bind doesBy_store Guarded.steady_true h₂A fun _ h₃ h₃A => hsign h₃A

theorem safe_signRefund : (refundRules id).logic.Safe (MusigSigner.signRefund id) :=
  safe_signing .utxo wp_returned

theorem safe_signRefundArk : (refundRules id).logic.Safe (MusigSigner.signRefundArk id) :=
  safe_signing .ark fun hA => Rules.wp_quiet_bind (uses_external Rules.quiet_plain) steady_returnable
    hA (fun _ _ h₁A => wp_returned h₁A) fun _ _ _ => trivial

end signing

/-! ## The other calls -/

theorem refundActs {j : Nat} (hj : j ≠ id) :
    RefundActs (refundRules id).FreeAct .submarine j where
  read f := (Rules.quiet_read (irrelevant_of (by simp [refundLabels, hj])) f).free
  eligible :=
    (Rules.quiet_write (irrelevant_of (by simp [refundLabels, hj])) fun _ => ⟨rfl, rfl⟩).free
  signed :=
    (Rules.quiet_write (irrelevant_of (by simp [refundLabels, hj])) fun _ => ⟨rfl, rfl⟩).free

theorem safe_sign (j : Nat) : (refundRules id).logic.Safe (MusigSigner.signRefund j) := by
  by_cases hj : j = id
  · subst hj
    exact safe_signRefund
  · exact Rules.closed (uses_signRefund Rules.free_plain (refundActs hj)
      (statusSpec.free_refundSigned (irrelevant_of (by simp [refundLabels, hj]))))

theorem safe_signArk (j : Nat) : (refundRules id).logic.Safe (MusigSigner.signRefundArk j) := by
  by_cases hj : j = id
  · subst hj
    exact safe_signRefundArk
  · exact Rules.closed (uses_signRefundArk Rules.free_plain (refundActs hj)
      (statusSpec.free_refundSigned (irrelevant_of (by simp [refundLabels, hj]))))

theorem free_allow (j : Nat) : (refundRules id).logic.Free
    (writeAct .other fun w => { w with allowedRefunds := j :: w.allowedRefunds }) := by
  refine Guarded.Does.free (Rules.does_of_moves (fun t w ω b w' he => ?_)
    fun t h ω b w hi _ _ he => (?_ : (refundRules id).Moves [] _ _ fun _ => True))
  · cases he
    rfl
  · cases he
    have hobs : ∀ {P : Prop}, ((j :: h.world.allowedRefunds).contains id = false →
        h.world.allowedRefunds.contains id = false → P) →
        (j :: h.world.allowedRefunds).contains id = false → P := by
      intro P hP hnew
      refine hP hnew ?_
      rw [List.contains_cons, Bool.or_eq_false_iff] at hnew
      exact hnew.2
    change (refundRules id).Moves [] ((refundRules id).obs h)
      ((refundRules id).obs (h.record t .other ω _)) _
    rw [Guarded.obs_changed rfl]
    exact ⟨hobs fun _ hold => hi hold,
      ⟨[], rfl, hobs fun _ hold => ⟨hold, fun hs => ⟨hs, fun _ he => absurd he List.not_mem_nil⟩⟩⟩,
      fun _ _ => hobs fun _ hold => ⟨hold, fun hp => hp⟩, trivial⟩

/-! ## Payments -/

/-- What is known while the invoice of the swap is paid. -/
def Paying (id : Nat) (swap : Instance Swap) (o : Seen (Option Swap × Bool)) : Prop :=
  swap.id = id → o.now.2 = false → PaidSincePending id o.now.1 o.past

/-- What is known of a swap that was fetched with the lock. -/
def Fetched (id : Nat) (swap : Instance Swap) (o : Seen (Option Swap × Bool)) : Prop :=
  swap.row.status = invoicePending → Paying id swap o

theorem steady_paying (swap : Instance Swap) : (refundRules id).Steady [()] (Paying id swap) := by
  intro o o' _ hkeep _ hB hid h
  obtain ⟨hfalse, hkept⟩ := hkeep () (by simp) h
  exact hkept (hB hid hfalse)

theorem steady_fetched (swap : Instance Swap) : (refundRules id).Steady [()] (Fetched id swap) :=
  fun o o' hany hkeep hi hB hst => steady_paying swap o o' hany hkeep hi (hB hst)

/-- A payment is started. -/
theorem does_send (swap : Instance Swap) : (refundRules id).Does [()] (Paying id swap)
    (writeAct (.sendPayment swap.id) fun w => w) fun _ => Paying id swap := by
  by_cases hid : swap.id = id
  · refine Rules.does_of_moves (fun t w ω b w' he => ?_) fun t h ω b w hi hB _ he => ?_
    · cases he
      rfl
    · cases he
      have hl : .sendPayment swap.id ∈ refundLabels id := by simp [refundLabels, hid]
      change (refundRules id).Moves [()] ((refundRules id).obs h)
        ((refundRules id).obs (h.record t (.sendPayment swap.id) ω h.world)) _
      rw [obs_event hl]
      have hevent : ¬readsFailed id ⟨t, .sendPayment swap.id, ω, h.world, h.world⟩ :=
        fun hfailed => nomatch hfailed.1
      refine moves_event hi nofun (fun hfailed => absurd hfailed hevent)
        (fun _ hfalse => (hB hid hfalse).1) nofun nofun fun _ hfalse => ?_
      obtain ⟨hnone, hpaid⟩ := hB hid hfalse
      refine ⟨?_, hpaid⟩
      have hcons : ∀ past, sincePending id
          (⟨t, .sendPayment swap.id, ω, h.world, h.world⟩ :: past) = _ :: sincePending id past :=
        fun _ => sincePending_cons nofun
      rw [hcons]
      intro x hx
      rcases List.mem_cons.mp hx with rfl | hx
      · exact hevent
      · exact hnone x hx
  · refine (Rules.quiet_write (irrelevant_of ?_) fun _ => ⟨rfl, rfl⟩).does
    simp [refundLabels, hid]

theorem quiet_payments : Payments fun a => (refundRules id).Quiet a :=
  Rules.quiet_payments fun _ _ => rfl

theorem irrelevant_question (j : Nat) (q : PaymentQuestion) :
    (refundRules id).relevant (.payInvoice j q) = false :=
  irrelevant_of (by simp [refundLabels])

theorem paymentSpec (swap : Instance Swap)
    (hacc : ∀ invoice, (refundRules id).logic.Safe (LightningNursery.htlcAccepted invoice)) :
    (refundRules id).PaymentSpec () swap.pendingInvoice (Paying id swap) (Paying id swap)
      (fun _ => True) (fun _ => Paying id swap) .unknown where
  toSelfPaymentSpec := Rules.selfPaymentSpec_of_steady (steady_paying swap)
    (irrelevant_question _ _) (fun _ => irrelevant_of (by simp [refundLabels])) hacc
  complete := .unknown
  quiet _ := irrelevant_question _ _
  payments := Rules.does_read (irrelevant_question _ _) fun _ _ _ _ hA _ => ⟨hA.2, trivial⟩
  result := by
    refine (Rules.quiet_ask (irrelevant_question _ _) _).does_of fun t h ω r s _ hA _ _ => ?_
    exact ⟨hA.2, trivial⟩
  send := by
    rw [paidRules.pendingInvoice_id]
    exact does_send swap
  settle _ _ := statusSpec.setStatus rfl (by simp [Swap.paid, storedStatuses])
  abandon _ := statusSpec.setStatus (irrelevant_of (by simp [refundLabels]))
    (by simp [Swap.withStatus, storedStatuses])
  abandonSelf := statusSpec.setStatus (irrelevant_of (by simp [refundLabels]))
    (by simp [Swap.withStatus, storedStatuses])
  done _ _ := trivial
  holds := Rules.quiet_holds fun _ _ => rfl
  rows := quiet_payments

/-- `InvoicePending` is stored in a row without a refund signature. -/
theorem moves_pend {e : Event Label World Answer} {s s' : Swap} (hi : (refundRules id).Inv o)
    (hl : e.label = .setInvoicePending id) (hrow : o.now.1 = some s)
    (hunsigned : s.createdRefundSignature = false) (hpaid : s'.status ∈ paidStatuses)
    (swap : Instance Swap) :
    (refundRules id).Moves [()] o ⟨(some s', o.now.2), e :: o.past⟩ (Paying id swap) where
  inv hfalse := by
    have hsafe := hi hfalse
    rw [hrow] at hsafe
    exact hsafe.pend hl hunsigned
  any := by
    refine ⟨[e], rfl, fun hfalse => ⟨hfalse, fun hstored => ?_⟩⟩
    rw [hstored s hrow] at hunsigned
    cases hunsigned
  keep k hk := absurd (by simp) hk
  after _ _ := by
    refine ⟨?_, fun x hx => ?_⟩
    · rw [sincePending_pend hl]
      exact fun _ hx => nomatch hx
    · cases hx
      exact hpaid

/-- Nothing is said about a swap whose refund was allowed. -/
theorem moves_allowed {e : Event Label World Answer} {row' : Option Swap} (h : o.now.2 = true)
    (swap : Instance Swap) :
    (refundRules id).Moves [()] o ⟨(row', o.now.2), e :: o.past⟩ (Paying id swap) := by
  have hnot : ∀ {P : Prop}, o.now.2 = false → P := fun hfalse => nomatch h.symm.trans hfalse
  exact ⟨fun hfalse => hnot hfalse, ⟨[e], rfl, fun hfalse => hnot hfalse⟩,
    fun k hk => absurd (by simp) hk, fun _ hfalse => hnot hfalse⟩

theorem does_pend (swap : Instance Swap) (hst : swap.row.status ≠ invoicePending) :
    (refundRules id).Does [()] (Fetched id swap)
      (swapUpdateAct swap (swap.row.withStatus invoicePending none) (.setInvoicePending swap.id))
      fun _ => Paying id swap := by
  by_cases hid : swap.id = id
  · refine Rules.does_of_moves (fun t w ω b w' he => ?_) fun t h ω b w hi hB ha he => ?_
    · cases he
      rfl
    · cases he
      have hl : .setInvoicePending swap.id ∈ refundLabels id := by simp [refundLabels, hid]
      change (refundRules id).Moves [()] ((refundRules id).obs h) ((refundRules id).obs
        (h.record t (.setInvoicePending swap.id) ω _)) _
      rw [Guarded.obs_loud (List.contains_iff_mem.mpr hl), row.view_modify, if_pos hid]
      by_cases hallowed : h.world.allowedRefunds.contains id = true
      · exact moves_allowed hallowed swap
      change (h.world.allowedRefunds.contains swap.id || (h.world.swaps.get swap.id).any
        fun s => !s.createdRefundSignature) = true at ha
      rw [Bool.not_eq_true] at hallowed
      rw [hid, hallowed, Bool.false_or, Option.any_eq_true] at ha
      obtain ⟨s, hs, hunsigned⟩ := ha
      have hview : ((refundRules id).view h.world).1 = some s := hs
      rw [hview]
      refine moves_pend hi (by rw [hid]) hview (by simpa using hunsigned) ?_ swap
      have hstatus : (swap.row.save (swap.row.withStatus invoicePending none) s).status =
          invoicePending := saved_of_ne (Ne.symm hst) s.status
      rw [hstatus]
      decide
  · refine Rules.does_modify row (irrelevant_of (by simp [refundLabels, hid]))
      (fun _ _ _ he => absurd he hid) fun he => absurd he hid

theorem payerSpec (swap : Instance Swap)
    (hacc : ∀ invoice, (refundRules id).logic.Safe (LightningNursery.htlcAccepted invoice)) :
    (refundRules id).PayerSpec () swap (Fetched id swap) (Paying id swap) (Paying id swap)
      (fun _ => True) (fun _ => Paying id swap) .unknown where
  toPaymentSpec := paymentSpec swap hacc
  pend := does_pend swap
  pended hst _ ho := ho hst
  steady_ready := steady_fetched swap

theorem payerTasks
    (hacc : ∀ invoice, (refundRules id).logic.Safe (LightningNursery.htlcAccepted invoice)) :
    (refundRules id).PayerTasks () (Fetched id) where
  lock := rfl
  fetch swapId := by
    refine Rules.does_read (irrelevant_of (by simp [refundLabels])) fun t h ω hi _ _ =>
      ⟨trivial, fun swap hswap hst hown hfalse => ?_⟩
    obtain ⟨hid, hrow⟩ := Table.byId_eq_some.mp hswap
    have hnow : ((refundRules id).obs h).now.1 = some swap.row := by
      change h.world.swaps.get id = some swap.row
      rw [← hown, hid]
      exact hrow
    refine ⟨(hi.1 hfalse).pending swap.row hnow hst, fun s hs => ?_⟩
    cases hnow.symm.trans hs
    rw [hst]
    decide
  back _ _ _ := trivial
  pay swap := Rules.triple_payInvoice (payerSpec swap hacc)
  rate _ _ := statusSpec.update steady_true rfl (.inl rfl)
  claim := statusSpec.claimActs steady_true

theorem tasks
    (hacc : ∀ invoice, (refundRules id).logic.Safe (LightningNursery.htlcAccepted invoice)) :
    SubmarineTasks (refundRules id).SafeTask :=
  statusSpec.submarineTasks (payerTasks hacc) (Rules.quiet_holds fun _ _ => rfl)
    (Rules.free_payments quiet_payments) (fun _ => irrelevant_of (by simp [refundLabels]))
    (fun _ => irrelevant_of (by simp [refundLabels])) safe_sign safe_signArk

theorem safe_start (e : Entry) : (refundRules id).logic.Safe (start e) :=
  Rules.safe_start_submarine swapRules.base swapRules.ignoresClaims.session
    statusSpec.free_claimActs swapRules.ignoresChain swapRules.ignoresReverse swapRules.shared
    tasks e fun swapId _ => Rules.closed (uses_allowRefund Rules.free_plain free_allow swapId)

/-! ## Invoices that are set -/

theorem invoiceSpec : (refundRules id).InvoiceSpec () (fun _ _ => True) (fun _ _ _ _ _ => True)
    fun _ _ _ _ _ => True where
  query _ := Rules.does_read (irrelevant_of (by simp [refundLabels])) fun _ _ _ _ _ _ =>
    ⟨trivial, fun _ _ => trivial⟩
  back _ _ _ := trivial
  store _ _ _ _ := statusSpec.setInvoice (irrelevant_of (by simp [refundLabels]))
  settle _ _ _ _ _ _ := Rules.triple_settleSubmarine
    (payerTasks fun invoice => safe_start (.htlcAccepted invoice)) _
  skip _ _ _ _ _ _ _ := trivial
  done _ _ _ _ :=
    (Rules.quiet_write (irrelevant_of (by simp [refundLabels])) fun _ => ⟨rfl, rfl⟩).does
  steady_queried _ := steady_true
  steady_ready _ _ _ _ := steady_true

theorem safe_serve (r : Request) : (refundRules id).logic.Safe (serve r) :=
  Rules.safe_serve invoiceSpec rfl safe_start
    (fun checker _ => statusSpec.free_checker checker (irrelevant_of (by simp [refundLabels]))) r

end refundRules

/-! ## Every run -/

/-- The signatures that were returned are seen. -/
theorem returnsRefund_obs (h : History) (id t : Nat) :
    returnsRefund ((refundRules id).obs h).past id t = returnsRefund h.trace id t := by
  change (h.trace.filter fun e => (refundLabels id).contains e.label).any _ = _
  rw [List.any_filter]
  refine congrArg h.trace.any (funext fun e => ?_)
  by_cases hlabel : e.label = .refundSigned .submarine id
  · have hseen : (refundLabels id).contains e.label = true := by
      rw [hlabel, List.contains_iff_mem]
      simp [refundLabels]
    rw [hseen, Bool.true_and]
  · have hother : (e.label == .refundSigned .submarine id) = false := by simpa using hlabel
    rw [hother, Bool.and_false, Bool.and_false]

/-- No payment of a swap is started after the eligibility check of a signing call that returns a
refund signature, in every run in which neither `InvoicePending` nor the refund signature is
stored behind the back of the other. -/
theorem refund_excludes_payment {s : World} {h : History}
    (hr : Reaches refundPolicy serve s h) : RefundExcludesPayment h := by
  intro id hallowed
  have hinit : (refundRules id).logic.Inv ⟨s, []⟩ := ⟨fun _ => .nil, fun _ _ => trivial⟩
  have hinv : (refundRules id).logic.Inv h :=
    Logic.inv_of_reaches rfl (fun r _ => refundRules.safe_serve r) hinit hr
  have hpast := (hinv.1 hallowed).excludes
  change (h.trace.filter fun e => (refundLabels id).contains e.label).Pairwise _ at hpast
  rw [List.pairwise_filter] at hpast
  refine hpast.imp fun {later e} hseen heligible hreturns hsend => ?_
  rw [← returnsRefund_obs] at hreturns
  have hmem : ∀ l ∈ refundLabels id, (refundLabels id).contains l = true := fun l hl =>
    List.contains_iff_mem.mpr hl
  refine hseen (hmem _ ?_) (hmem _ ?_) heligible hreturns hsend
  · rw [hsend]
    simp [refundLabels]
  · rw [heligible]
    simp [refundLabels]

/-! ## Runs of a submarine swap -/

/-- The payment of the retry loop (task 0) fails for good, and the signing call (task 1) returns. -/
theorem refund_excludes_payment_failed : ∃ h, Reaches refundPolicy serve pendingWorld h ∧
    h.trace.any (·.label == .sendPayment 1) = true ∧ returnsRefund h.trace 1 1 = true ∧
    RefundExcludesPayment h := by
  obtain ⟨h, hr, hboth⟩ := Reaches.of_run refundPolicy serve pendingWorld
    (List.flatten [[.spawn (.backend .retry)],
      steps 0 [.nothing, .nothing, .nothing, .nothing, .flag true, .number 100, .flag false,
        .flag false, .number 0, .nothing, .flag false, .nothing, .nothing, .nothing, .nothing,
        .approval (some .accept), .nothing, .nothing, .nothing,
        .payment (.failed .incorrectPaymentDetails true), .nothing, .nothing, .nothing,
        .payment (.failed .incorrectPaymentDetails true), .nothing, .nothing],
      [.spawn (.backend (.signRefund 1))],
      steps 1 [.nothing, .flag false, .flag false, .nothing, .flag true, .nothing, .nothing]])
    (fun h => h.trace.any (·.label == .sendPayment 1) && returnsRefund h.trace 1 1)
    (by decide +kernel)
  rw [Bool.and_eq_true] at hboth
  exact ⟨h, hr, hboth.1, hboth.2, refund_excludes_payment hr⟩

/-- A submarine swap that waits for its lockup until block 10. -/
def expiringSwap : Swap :=
  { pendingSwap with
    status := invoiceSet
    onchainAmount := none
    lockupTransactionId := none
    lockupTransactionVout := none }

/-- The transaction 5 pays to the swap. -/
def expiringWorld : World where
  swaps := Table.empty.put 1 expiringSwap
  lockupOutput _ id transactionId := if id = 1 ∧ transactionId = 5 then some (0, 1000) else none

/-- The lockup is found and stored (tasks 0 and 1). While the hook is asked about it, the swap
expires (tasks 2 and 3) and the signing call (task 4) finds no payment. The handler of the lockup
(task 5) then starts to pay, because the refund signature is stored only when task 4 goes on. -/
theorem refund_signed_while_paying : ∃ h, Reaches Policy.free serve expiringWorld h ∧
    ¬RefundExcludesPayment h := by
  obtain ⟨h, hr, hpaid⟩ := Reaches.of_run Policy.free serve expiringWorld
    (List.flatten [[.spawn (.backend (.checkOutputs 0 5 [3] .confirmed))],
      steps 0 [.nothing, .nothing],
      steps 1 [.nothing, .nothing, .nothing, .nothing, .flag false],
      [.spawn (.backend (.checkExpiredSwaps (fun _ => true) 10))],
      steps 2 [.nothing, .nothing],
      steps 3 [.nothing, .nothing, .nothing, .nothing],
      [.spawn (.backend (.signRefund 1))],
      steps 4 [.nothing, .flag false, .flag false, .nothing],
      steps 1 [.flag false, .nothing],
      steps 5 [.nothing, .nothing, .nothing, .flag true, .number 100, .flag false, .flag false,
        .number 0, .nothing, .flag false, .nothing, .nothing, .nothing, .nothing,
        .approval (some .accept), .nothing, .nothing],
      steps 4 [.flag true, .nothing, .nothing]])
    (fun h => !h.world.allowedRefunds.contains 1 &&
      !decide (h.trace.Pairwise fun (later e : Event Label World Answer) =>
        e.label = .refundEligible .submarine 1 → returnsRefund h.trace 1 e.task = true →
          later.label ≠ .sendPayment 1)) (by decide +kernel)
  rw [Bool.and_eq_true, Bool.not_eq_true', Bool.not_eq_true', decide_eq_false_iff_not] at hpaid
  exact ⟨h, hr, fun hkept => hpaid.2 (hkept 1 hpaid.1)⟩

end Boltz
