import Boltz.Swap.RefundBroadcasts

/-!
# The refund row holds the refund that can confirm

The row is written before a refund of the nursery is sent, so one that is tried again while the
first refund is still in the mempool takes its row away. The bumper writes it after the replacement
was accepted, and what fails in between leaves the replaced transaction in it.
-/

namespace Boltz.RefundBroadcasts

open Async

namespace State

variable {currency : CurrencyType} {requiredConfirmations : Nat} {s s' : State}

/-- Unless the call that has sent it is about to store it, an accepted refund is in the row. -/
def Tracked (s : State) : Prop :=
  ∀ id ∈ s.accepted, s.row.map (·.id) = some id ∨ s.storing id

instance (s : State) : Decidable s.Tracked := inferInstanceAs (Decidable (∀ _ ∈ _, _))

/-- One check of the watcher is enough for the refund that is confirmed. -/
def Watched (currency : CurrencyType) (requiredConfirmations : Nat) (s : State) : Prop :=
  ∀ id confirmations, s.mined = some (id, confirmations) → requiredConfirmations ≤ confirmations →
    ¬ s.storing id → ∃ tx, s.row = some tx ∧ tx.id = id ∧ (tx.status = .confirmed ∨
      (runFrom (step currency requiredConfirmations) (fun _ _ => true) s
        [.getPendingTransactions, .checkRefund s.watching.length]).bind (·.row) =
          some { tx with status := .confirmed })

/-- The nursery stores or sends no refund after one was accepted, and nothing fails between sending
a refund and storing what was sent. -/
def policy (currency : CurrencyType) (s : State) : Op → Bool
  | .addTransaction =>
    match s.refund with
    | some (.adding _ false) => s.accepted.isEmpty
    | _ => true
  | .sendRawTransaction => currency.backend = .utxo || s.accepted.isEmpty
  | .refundFailed =>
    match s.refund with
    | some (.adding _ true) => false
    | _ => true
  | .bumpFailed =>
    match s.bump with
    | some (.updating _) => false
    | _ => true
  | _ => true

/-! ## The invariant -/

def Refunds (currency : CurrencyType) (row : Option RefundTransaction) (accepted : List Nat) :
    Option RefundCall → Prop
  | some (.sending id) => currency.backend = .utxo → accepted = [] ∧ row.map (·.id) = some id
  | some (.adding id true) => currency.backend ≠ .utxo ∧ accepted = [id]
  | _ => True

/-- What is bumped was accepted, and nothing accepted is taken back. -/
def Bumps (currency : CurrencyType) (row : Option RefundTransaction) (accepted : List Nat) :
    Option BumpCall → Prop
  | none => True
  | some (.fetched _) => currency = .bitcoinLike ∧ row.isSome = true
  | some .constructing | some (.sending _) =>
    currency = .bitcoinLike ∧ row.isSome = true ∧ accepted ≠ []
  | some (.updating id) => currency = .bitcoinLike ∧ row.isSome = true ∧ accepted = [id]

structure Inv (currency : CurrencyType) (s : State) : Prop where
  tracked : s.Tracked
  status : ∀ tx, s.row = some tx → tx.status ≠ .failed
  mined : ∀ id confirmations, s.mined = some (id, confirmations) → id ∈ s.accepted
  refund : Refunds currency s.row s.accepted s.refund
  bump : Bumps currency s.row s.accepted s.bump

theorem inv_init (currency : CurrencyType) : Inv currency {} where
  tracked _ hid := nomatch hid
  status _ hrow := nomatch hrow
  mined _ _ hmined := nomatch hmined
  refund := trivial
  bump := trivial

/-! ## Calls that neither send nor store -/

theorem Inv.refundTo (h : Inv currency s) {call : Option RefundCall}
    (hstored : ∀ id, s.refund ≠ some (.adding id true))
    (hcall : Refunds currency s.row s.accepted call) : Inv currency { s with refund := call } where
  tracked id hid := by
    rcases h.tracked id hid with hrow | hrefund | hbump
    · exact .inl hrow
    · exact absurd hrefund (hstored id)
    · exact .inr (.inr hbump)
  status := h.status
  mined := h.mined
  refund := hcall
  bump := h.bump

theorem Inv.bumpTo (h : Inv currency s) {call : Option BumpCall}
    (hstored : ∀ id, s.bump ≠ some (.updating id))
    (hcall : Bumps currency s.row s.accepted call) : Inv currency { s with bump := call } where
  tracked id hid := by
    rcases h.tracked id hid with hrow | hrefund | hbump
    · exact .inl hrow
    · exact .inr (.inl hrefund)
    · exact absurd hbump (hstored id)
  status := h.status
  mined := h.mined
  refund := h.refund
  bump := hcall

theorem Bumps.bitcoinLike {row : Option RefundTransaction} {accepted : List Nat} {call : BumpCall}
    (h : Bumps currency row accepted (some call)) :
    currency = .bitcoinLike ∧ row.isSome = true := by
  cases call with
  | fetched id => exact h
  | constructing => exact ⟨h.1, h.2.1⟩
  | sending id => exact ⟨h.1, h.2.1⟩
  | updating id => exact ⟨h.1, h.2.1⟩

/-- Before a refund is accepted, a bump has only read the row. -/
theorem Bumps.of_nil {row row' : Option RefundTransaction} {accepted : List Nat}
    {call : Option BumpCall} (h : Bumps currency row [] call)
    (hrow : row.isSome = true → row'.isSome = true) : Bumps currency row' accepted call := by
  rcases call with _ | (id | _ | id | id)
  · trivial
  · exact ⟨h.1, hrow h.2⟩
  · exact absurd rfl h.2.2
  · exact absurd rfl h.2.2
  · exact absurd h.2.2 (List.cons_ne_nil _ _).symm

/-! ## Storing -/

/-- The id is in the row before it is sent, or the only one that was. -/
theorem Inv.addTransaction (h : Inv currency s) {id : Nat} {sent : Bool} (vin : Option Nat)
    (hrefund : s.refund = some (.adding id sent)) (hfirst : sent = false → s.accepted = []) :
    Inv currency
      { s with
        row := some ⟨id, vin, .pending⟩
        refund := some (if sent then .refunding else .sending id) } := by
  have hcall := h.refund
  have hbump := h.bump
  rw [hrefund] at hcall
  cases sent with
  | false =>
    rw [hfirst rfl] at hbump
    refine ⟨fun other hother => ?_, ?_, h.mined, fun _ => ⟨hfirst rfl, rfl⟩,
      hbump.of_nil fun _ => rfl⟩
    · rw [hfirst rfl] at hother
      cases hother
    · rintro tx htx
      cases htx
      exact fun hstatus => nomatch hstatus
  | true =>
    obtain ⟨hbackend, haccepted⟩ := hcall
    refine ⟨fun other hother => ?_, ?_, h.mined, trivial, ?_⟩
    · rw [haccepted, List.mem_singleton] at hother
      exact .inl (hother ▸ rfl)
    · rintro tx htx
      cases htx
      exact fun hstatus => nomatch hstatus
    · rcases hnone : s.bump with _ | call
      · trivial
      · rw [hnone] at hbump
        obtain ⟨rfl, -⟩ := hbump.bitcoinLike
        exact absurd rfl hbackend

theorem Inv.updateTransactionId (h : Inv currency s) {id : Nat}
    (hcall : s.bump = some (.updating id)) :
    Inv currency
      { s with row := s.row.map fun tx => { tx with id := id, vin := some 0 }, bump := none } := by
  have hbump := h.bump
  rw [hcall] at hbump
  obtain ⟨-, hsome, haccepted⟩ := hbump
  obtain ⟨tx, hrow⟩ := Option.isSome_iff_exists.mp hsome
  refine ⟨fun other hother => ?_, ?_, h.mined, ?_, trivial⟩
  · rw [haccepted, List.mem_singleton] at hother
    exact .inl (by rw [hrow, hother]; rfl)
  · rintro updated hupdated
    rw [hrow] at hupdated
    cases hupdated
    exact h.status tx hrow
  · have hrefund := h.refund
    rw [haccepted] at hrefund ⊢
    rcases hrefundCall : s.refund with _ | (_ | ⟨other, _ | _⟩ | other | _)
    · trivial
    · trivial
    · trivial
    · rw [hrefundCall] at hrefund
      exact hrefund
    · rw [hrefundCall] at hrefund
      exact fun hutxo => absurd (hrefund hutxo).1 (List.cons_ne_nil _ _)
    · trivial

/-! ## Sending -/

theorem accept_eq_some {id : Nat} (haccept : s.accept currency id = some s') :
    (currency.backend = .utxo ∧ s.mined = none ∧ s' = { s with accepted := [id] }) ∨
      (currency.backend ≠ .utxo ∧ s' = { s with accepted := id :: s.accepted }) := by
  unfold accept at haccept
  split at haccept
  · rename_i hbackend
    split at haccept
    · cases haccept
    · rename_i hmined
      exact .inl ⟨hbackend, Option.not_isSome_iff_eq_none.mp hmined,
        (Option.some.inj haccept).symm⟩
  · rename_i hbackend
    exact .inr ⟨by simp [hbackend], (Option.some.inj haccept).symm⟩
  · rename_i hbackend
    exact .inr ⟨by simp [hbackend], (Option.some.inj haccept).symm⟩

theorem Inv.sendRawTransaction (h : Inv currency s) {id : Nat} {accepting : State}
    (hrefund : s.refund = some (.sending id)) (haccept : s.accept currency id = some accepting)
    (hfirst : currency.backend = .utxo ∨ s.accepted = []) :
    Inv currency { accepting with refund := some (sent currency id) } := by
  have hcall := h.refund
  have hbump := h.bump
  rw [hrefund] at hcall
  have hempty : s.accepted = [] := hfirst.elim (fun hutxo => (hcall hutxo).1) fun hnil => hnil
  rw [hempty] at hbump
  rcases accept_eq_some haccept with ⟨hutxo, hmined, rfl⟩ | ⟨hbackend, rfl⟩
  · refine ⟨fun other hother => .inl ?_, h.status, fun other n hother => ?_, ?_,
      hbump.of_nil fun hsome => hsome⟩
    · rw [List.mem_singleton.mp hother]
      exact (hcall hutxo).2
    · exact absurd (hmined.symm.trans hother) (Option.some_ne_none _).symm
    · simp only [sent, hutxo]
      trivial
  · refine ⟨fun other hother => .inr (.inl ?_), h.status, fun other n hother => ?_, ?_,
      hbump.of_nil fun hsome => hsome⟩
    · rw [hempty, List.mem_singleton] at hother
      rw [hother]
      unfold sent
      cases hkind : currency.backend with
      | utxo => exact absurd hkind hbackend
      | evm => rfl
      | ark => rfl
    · exact List.mem_cons_of_mem _ (h.mined other n hother)
    · unfold sent
      cases hkind : currency.backend with
      | utxo => exact absurd hkind hbackend
      | evm => exact ⟨hbackend, by rw [hempty]⟩
      | ark => exact ⟨hbackend, by rw [hempty]⟩

theorem Inv.sendReplacement (h : Inv currency s) {id : Nat} {accepting : State}
    (hcall : s.bump = some (.sending id)) (haccept : s.accept currency id = some accepting) :
    Inv currency { accepting with bump := some (.updating id) } := by
  have hbump := h.bump
  rw [hcall] at hbump
  obtain ⟨rfl, hsome, haccepted⟩ := hbump
  rcases accept_eq_some haccept with ⟨-, hmined, rfl⟩ | ⟨hbackend, -⟩
  · refine ⟨fun other hother => .inr (.inr ?_), h.status, fun other n hother => ?_, ?_,
      ⟨rfl, hsome, rfl⟩⟩
    · rw [List.mem_singleton.mp hother]
    · exact absurd (hmined.symm.trans hother) (Option.some_ne_none _).symm
    · have hrefund := h.refund
      rcases hrefundCall : s.refund with _ | (_ | ⟨other, _ | _⟩ | other | _)
      · trivial
      · trivial
      · trivial
      · rw [hrefundCall] at hrefund
        exact absurd rfl hrefund.1
      · rw [hrefundCall] at hrefund
        exact absurd (hrefund rfl).1 haccepted
      · trivial
  · exact absurd rfl hbackend

/-! ## Watching -/

theorem Inv.watchingTo (h : Inv currency s) (watching : List Nat) :
    Inv currency { s with watching := watching } :=
  ⟨h.tracked, h.status, h.mined, h.refund, h.bump⟩

theorem map_id_confirmed (row : Option RefundTransaction) :
    (row.map fun tx => if tx.status = .pending then { tx with status := .confirmed } else tx).map
      (·.id) = row.map (·.id) := by
  cases row with
  | none => rfl
  | some tx =>
    rw [Option.map_some, Option.map_some, Option.map_some]
    split <;> rfl

/-- Only the ids of the rows count. -/
theorem Refunds.of_map_id {row row' : Option RefundTransaction} {accepted : List Nat}
    {call : Option RefundCall} (h : Refunds currency row accepted call)
    (hrow : row'.map (·.id) = row.map (·.id)) : Refunds currency row' accepted call := by
  rcases call with _ | (_ | ⟨id, _ | _⟩ | id | _)
  · trivial
  · trivial
  · trivial
  · exact h
  · exact fun hutxo => ⟨(h hutxo).1, hrow.trans (h hutxo).2⟩
  · trivial

theorem Bumps.of_isSome {row row' : Option RefundTransaction} {accepted : List Nat}
    {call : Option BumpCall} (h : Bumps currency row accepted call)
    (hrow : row'.isSome = row.isSome) : Bumps currency row' accepted call := by
  rcases call with _ | (id | _ | id | id)
  · trivial
  · exact ⟨h.1, hrow.trans h.2⟩
  · exact ⟨h.1, hrow.trans h.2.1, h.2.2⟩
  · exact ⟨h.1, hrow.trans h.2.1, h.2.2⟩
  · exact ⟨h.1, hrow.trans h.2.1, h.2.2⟩

theorem Inv.checkRefund (h : Inv currency s) (id : Nat) :
    Inv currency (s.checkRefund currency requiredConfirmations id) := by
  unfold State.checkRefund
  split
  · exact h
  · refine ⟨fun other hother => ?_, ?_, h.mined, h.refund.of_map_id (map_id_confirmed _),
      h.bump.of_isSome (Option.isSome_map ..)⟩
    · rw [setStatusConfirmedIfPending, map_id_confirmed]
      exact h.tracked other hother
    · intro tx htx
      obtain ⟨old, hold, rfl⟩ := Option.map_eq_some_iff.mp htx
      split
      · exact fun hstatus => nomatch hstatus
      · exact h.status old hold

theorem Inv.mine (h : Inv currency s) {id : Nat} (hid : id ∈ s.accepted) :
    Inv currency { s with mined := some (id, 1) } := by
  refine ⟨h.tracked, h.status, fun other confirmations hmined => ?_, h.refund, h.bump⟩
  cases hmined
  exact hid

theorem Inv.block (h : Inv currency s) :
    Inv currency { s with mined := s.mined.map fun tx => (tx.1, tx.2 + 1) } := by
  refine ⟨h.tracked, h.status, fun other confirmations hmined => ?_, h.refund, h.bump⟩
  obtain ⟨⟨id, n⟩, hid, htx⟩ := Option.map_eq_some_iff.mp hmined
  cases htx
  exact h.mined id n hid

/-! ## Runs -/

theorem inv_step (s : State) (op : Op) (s' : State) (h : Inv currency s)
    (hadmits : policy currency s op = true)
    (hstep : s.step currency requiredConfirmations op = some s') : Inv currency s' := by
  cases op with
  | refundSwap =>
    simp only [step] at hstep
    split at hstep
    · rename_i hidle
      obtain rfl := Option.some.inj hstep
      rw [Bool.and_eq_true, Option.isNone_iff_eq_none] at hidle
      exact h.refundTo (fun id hid => nomatch hidle.1.symm.trans hid) trivial
    · cases hstep
  | constructRefund id =>
    simp only [step] at hstep
    split at hstep
    · rename_i hcall
      obtain rfl := Option.some.inj hstep
      refine h.refundTo (fun id hid => nomatch hcall.symm.trans hid) ?_
      unfold constructed
      cases hkind : currency.backend with
      | utxo => trivial
      | evm => exact fun hutxo => nomatch hkind.symm.trans hutxo
      | ark => exact fun hutxo => nomatch hkind.symm.trans hutxo
    · cases hstep
  | addTransaction =>
    simp only [step] at hstep
    split at hstep
    · rename_i id sent hcall
      obtain rfl := Option.some.inj hstep
      refine h.addTransaction _ hcall fun hsent => ?_
      subst hsent
      simpa only [policy, hcall, List.isEmpty_iff] using hadmits
    · cases hstep
  | sendRawTransaction =>
    simp only [step] at hstep
    split at hstep
    · rename_i id hcall
      obtain ⟨accepting, haccept, rfl⟩ := Option.map_eq_some_iff.mp hstep
      refine h.sendRawTransaction hcall haccept ?_
      simpa only [policy, Bool.or_eq_true, decide_eq_true_iff, List.isEmpty_iff] using hadmits
    · cases hstep
  | setTransactionRefunded =>
    simp only [step] at hstep
    split at hstep
    · rename_i hcall
      obtain rfl := Option.some.inj hstep
      have hdone : Inv currency { s with refund := none } :=
        h.refundTo (fun id hid => nomatch hcall.symm.trans hid) trivial
      exact ⟨hdone.tracked, hdone.status, hdone.mined, hdone.refund, hdone.bump⟩
    · cases hstep
  | refundFailed =>
    simp only [step] at hstep
    split at hstep
    · obtain rfl := Option.some.inj hstep
      refine h.refundTo (fun id hid => ?_) trivial
      simp only [policy, hid] at hadmits
      cases hadmits
    · cases hstep
  | fetchPending =>
    simp only [step] at hstep
    split at hstep
    · rename_i tx hnone hrow
      split at hstep
      · obtain rfl := Option.some.inj hstep
        refine h.bumpTo (fun id hid => nomatch hnone.symm.trans hid) ⟨rfl, ?_⟩
        rw [hrow]
        rfl
      · cases hstep
    · cases hstep
  | checkTransaction =>
    simp only [step] at hstep
    split at hstep
    · rename_i id hcall
      split at hstep
      · rename_i hknown
        obtain rfl := Option.some.inj hstep
        have hbump := h.bump
        rw [hcall] at hbump
        exact h.bumpTo (fun id hid => nomatch hcall.symm.trans hid)
          ⟨hbump.1, hbump.2, List.ne_nil_of_mem hknown⟩
      · cases hstep
    · cases hstep
  | bumpFee id =>
    simp only [step] at hstep
    split at hstep
    · rename_i hcall
      obtain rfl := Option.some.inj hstep
      have hbump := h.bump
      rw [hcall] at hbump
      exact h.bumpTo (fun id hid => nomatch hcall.symm.trans hid) hbump
    · cases hstep
  | sendReplacement =>
    simp only [step] at hstep
    split at hstep
    · rename_i id hcall
      obtain ⟨accepting, haccept, rfl⟩ := Option.map_eq_some_iff.mp hstep
      exact h.sendReplacement hcall haccept
    · cases hstep
  | updateTransactionId =>
    simp only [step] at hstep
    split at hstep
    · rename_i id hcall
      obtain rfl := Option.some.inj hstep
      exact h.updateTransactionId hcall
    · cases hstep
  | bumpFailed =>
    simp only [step] at hstep
    split at hstep
    · obtain rfl := Option.some.inj hstep
      refine h.bumpTo (fun id hid => ?_) trivial
      simp only [policy, hid] at hadmits
      cases hadmits
    · cases hstep
  | mine id =>
    simp only [step] at hstep
    split at hstep
    · rename_i hknown
      obtain rfl := Option.some.inj hstep
      rw [Bool.and_eq_true, decide_eq_true_iff] at hknown
      exact h.mine hknown.2
    · cases hstep
  | block =>
    obtain rfl := Option.some.inj hstep
    exact h.block
  | getPendingTransactions =>
    obtain rfl := Option.some.inj hstep
    exact h.watchingTo _
  | checkRefund i =>
    obtain ⟨id, -, rfl⟩ := Option.map_eq_some_iff.mp hstep
    exact (h.checkRefund id).watchingTo _
  | checkFailed i =>
    obtain ⟨id, -, rfl⟩ := Option.map_eq_some_iff.mp hstep
    exact h.watchingTo _

theorem le_getConfirmations {id confirmations : Nat}
    (hmined : s.mined = some (id, confirmations))
    (henough : requiredConfirmations ≤ confirmations) :
    requiredConfirmations ≤ s.getConfirmations currency requiredConfirmations id := by
  unfold getConfirmations
  rw [hmined]
  split
  · omega
  · rename_i hsome
    cases hsome
    rw [if_pos rfl]
    exact henough
  · rename_i hnone
    cases hnone

theorem checkRefund_row {id : Nat} {tx : RefundTransaction} (hrow : s.row = some tx)
    (hstatus : tx.status = .pending)
    (henough : ¬ s.getConfirmations currency requiredConfirmations id < requiredConfirmations) :
    (s.checkRefund currency requiredConfirmations id).row =
      some { tx with status := .confirmed } := by
  rw [State.checkRefund, if_neg henough, setStatusConfirmedIfPending, hrow, Option.map_some,
    if_pos hstatus]

theorem Inv.watched (h : Inv currency s) : s.Watched currency requiredConfirmations := by
  intro id confirmations hmined henough hstoring
  obtain ⟨tx, hrow, hid⟩ := Option.map_eq_some_iff.mp
    ((h.tracked id (h.mined id confirmations hmined)).resolve_right hstoring)
  refine ⟨tx, hrow, hid, ?_⟩
  cases hstatus : tx.status with
  | confirmed => exact .inl rfl
  | failed => exact absurd hstatus (h.status tx hrow)
  | pending =>
    right
    have hpending : s.step currency requiredConfirmations .getPendingTransactions =
        some { s with watching := s.watching ++ [tx.id] } := by
      simp [step, hrow, hstatus]
    have hlast : (s.watching ++ [tx.id])[s.watching.length]? = some tx.id :=
      List.getElem?_concat_length
    have hchecked : ¬ ({ s with watching := s.watching ++ [tx.id] } : State).getConfirmations
        currency requiredConfirmations tx.id < requiredConfirmations := by
      rw [Nat.not_lt, hid]
      exact le_getConfirmations hmined henough
    have hcheck : step currency requiredConfirmations { s with watching := s.watching ++ [tx.id] }
        (.checkRefund s.watching.length) =
          some
            { State.checkRefund currency requiredConfirmations
                { s with watching := s.watching ++ [tx.id] } tx.id with
              watching := (s.watching ++ [tx.id]).eraseIdx s.watching.length } := by
      simp only [step, hlast, Option.map_some]
    rw [runFrom, if_pos rfl, hpending, Option.bind_some, runFrom, if_pos rfl, hcheck,
      Option.bind_some, runFrom, Option.bind_some]
    have hconfirmed : (State.checkRefund currency requiredConfirmations
        { s with watching := s.watching ++ [tx.id] } tx.id).row =
          some { tx with status := .confirmed } := checkRefund_row hrow hstatus hchecked
    exact hconfirmed

end State

end Boltz.RefundBroadcasts
