import Boltz.Async.Lasting
import Boltz.Service.ChainSwapClaims

/-!
# The preimage of a claimed chain swap is stored

A preimage gets into a row, or into an entry of the deferred claimer, only after it was compared
with the preimage hash, and it never leaves the row. An instance that was read before therefore
says something about the row that is still true, however old it is.
-/

namespace Boltz.ChainSwapClaims

open Async SwapUpdateEvent

section

variable (sha256 : Bytes → Bytes)

/-- The stored chain swap has a preimage with the right hash. -/
def Secured (w : World) (id : Nat) : Prop :=
  ∃ row p, w.chainSwaps.get id = some row ∧ row.preimage = some p ∧ sha256 p = row.preimageHash

/-- The statuses with which the server claims, or claimed, the lockup of the user. -/
def ClaimStatus (status : SwapUpdateEvent) : Prop :=
  status = transactionClaimPending ∨ status = transactionClaimed

structure PreimageSecured (h : History) : Prop where
  /-- whenever a partial signature is returned -/
  signed : ∀ e ∈ h.trace, ∀ id, e.label = .claimSigned id → Secured sha256 e.after id
  /-- whenever one of the statuses is stored -/
  claimed : ∀ id row, h.world.chainSwaps.get id = some row → ClaimStatus row.status →
    Secured sha256 h.world id

/-- The contracts compare the preimage of a claim with its hash. -/
def policy : Policy Entry Label World Answer where
  spawn
    | .evmClaim preimageHash preimage => sha256 preimage == preimageHash
    | _ => true
  allow _ _ _ _ := true

/-- A preimage is right, and a claimed row has one. -/
structure RowOk (row : ChainSwap) : Prop where
  valid : ∀ p, row.preimage = some p → sha256 p = row.preimageHash
  claimed : ClaimStatus row.status → row.preimage.isSome = true

/-- What an instance says about the rows, whenever it was read. -/
structure KnownRow (swap : Instance ChainSwap) (rows : Table ChainSwap) : Prop where
  ok : RowOk sha256 swap.row
  stored : ∃ row, rows.get swap.id = some row ∧ row.preimageHash = swap.row.preimageHash ∧
    (swap.row.preimage.isSome = true → row.preimage.isSome = true)

abbrev Known (swap : Instance ChainSwap) (w : World) : Prop := KnownRow sha256 swap w.chainSwaps

/-- The instance is known, and the preimage is that of the swap. -/
def Claims (swap : Instance ChainSwap) (preimage : Bytes) (w : World) : Prop :=
  Known sha256 swap w ∧ sha256 preimage = swap.row.preimageHash

def Extends (w w' : World) : Prop :=
  ∀ id row, w.chainSwaps.get id = some row → ∃ row', w'.chainSwaps.get id = some row' ∧
    row'.preimageHash = row.preimageHash ∧
    (row.preimage.isSome = true → row'.preimage.isSome = true)

structure StateOk (w : World) : Prop where
  rows : ∀ id row, w.chainSwaps.get id = some row → RowOk sha256 row
  toClaim : ∀ id e, w.toClaim.get id = some e → Claims sha256 e.swap e.preimage w

def growing : Growing Label World Answer where
  allow _ _ _ _ := true
  Inv h := StateOk sha256 h.world ∧
    ∀ e ∈ h.trace, ∀ id, e.label = .claimSigned id → Secured sha256 e.after id
  Extends := Extends
  refl _ id row h := ⟨row, h, rfl, fun h => h⟩
  trans h₁ h₂ id row h := by
    obtain ⟨row₂, hget₂, hhash₂, hkeep₂⟩ := h₁ id row h
    obtain ⟨row₃, hget₃, hhash₃, hkeep₃⟩ := h₂ id row₂ hget₂
    exact ⟨row₃, hget₃, hhash₃.trans hhash₂, fun h => hkeep₃ (hkeep₂ h)⟩

end

section

variable {sha256 : Bytes → Bytes} {α : Type} {A : World → Prop} {swap : Instance ChainSwap}
  {preimage : Bytes}

/-! ## Facts -/

theorem lasts_known (swap : Instance ChainSwap) :
    (growing sha256).Lasts (Known sha256 swap) := by
  rintro w w' he ⟨hok, row, hget, hhash, hkeep⟩
  obtain ⟨row', hget', hhash', hkeep'⟩ := he swap.id row hget
  exact ⟨hok, row', hget', hhash'.trans hhash, fun h => hkeep' (hkeep h)⟩

theorem lasts_claims (swap : Instance ChainSwap) (preimage : Bytes) :
    (growing sha256).Lasts (Claims sha256 swap preimage) :=
  (lasts_known swap).and (Growing.lasts_const _)

theorem known_of_get {w : World} (hw : StateOk sha256 w)
    (h : w.chainSwaps.get swap.id = some swap.row) : Known sha256 swap w :=
  ⟨hw.rows _ _ h, swap.row, h, rfl, fun h => h⟩

theorem secured_of_known {w : World} (hw : StateOk sha256 w) (hk : Known sha256 swap w)
    (hp : swap.row.preimage.isSome = true) : Secured sha256 w swap.id := by
  obtain ⟨row, hget, _, hkeep⟩ := hk.stored
  obtain ⟨p, hsome⟩ := Option.isSome_iff_exists.mp (hkeep hp)
  exact ⟨row, p, hget, hsome, (hw.rows _ _ hget).valid p hsome⟩

/-- Saving an instance: the row keeps its preimage, or gets that of the instance. -/
theorem rowOk_save {old new stored : ChainSwap} (hnew : RowOk sha256 new)
    (hstored : RowOk sha256 stored) (hhash : new.preimageHash = stored.preimageHash)
    (hkeep : old.preimage.isSome = true → new.preimage.isSome = true)
    (hknown : old.preimage.isSome = true → stored.preimage.isSome = true) :
    RowOk sha256 (old.save new stored) ∧
      (stored.preimage.isSome = true → (old.save new stored).preimage.isSome = true) ∧
      (new.preimage.isSome = true → (old.save new stored).preimage.isSome = true) := by
  have hpreimage := saved_cases old.preimage new.preimage stored.preimage
  have hfromStored : stored.preimage.isSome = true →
      (saved old.preimage new.preimage stored.preimage).isSome = true := by
    intro h
    unfold saved
    split
    · exact h
    · rename_i hne
      by_contra hnone
      have hold : ¬old.preimage.isSome = true := fun ho => hnone (hkeep ho)
      rw [Bool.not_eq_true, Option.isSome_eq_false_iff, Option.isNone_iff_eq_none] at hnone hold
      exact hne (hnone.trans hold.symm)
  have hfromNew : new.preimage.isSome = true →
      (saved old.preimage new.preimage stored.preimage).isSome = true := by
    intro h
    unfold saved
    split
    · rename_i heq
      exact hknown (heq ▸ h)
    · exact h
  refine ⟨⟨fun p hp => ?_, fun hc => ?_⟩, hfromStored, hfromNew⟩
  · change saved old.preimage new.preimage stored.preimage = some p at hp
    rcases hpreimage with h | h
    · exact hstored.valid p (h ▸ hp)
    · exact (hnew.valid p (h ▸ hp)).trans hhash
  · change ClaimStatus (saved old.status new.status stored.status) at hc
    rcases saved_cases old.status new.status stored.status with h | h
    · rw [h] at hc
      exact hfromStored (hstored.claimed hc)
    · rw [h] at hc
      exact hfromNew (hnew.claimed hc)

/-! ## Steps -/

/-- An act that neither signs nor forgets anything. -/
theorem triple_quiet {a : Act Label World Answer α} {Q : α → World → Prop}
    (hl : a.label = .other) (hA : (growing sha256).Lasts A)
    (ha : ∀ t w ω b w', StateOk sha256 w → A w → a.run t w ω = some (b, w') →
      StateOk sha256 w' ∧ Extends w w' ∧ Q b w') :
    (growing sha256).Triple A (Prog.call a : M α) Q := by
  refine Growing.Triple.call hA fun t h ω b w' hi hh _ he => ?_
  obtain ⟨hok, hext, hQ⟩ := ha t h.world ω b w' hi.1 hh he
  refine ⟨⟨hok, fun e hmem id hlabel => ?_⟩, hext, hQ⟩
  rcases List.mem_cons.mp hmem with rfl | hmem
  · rw [hl] at hlabel
    cases hlabel
  · exact hi.2 e hmem id hlabel

theorem triple_read {f : World → α} {Q : α → World → Prop} (hA : (growing sha256).Lasts A)
    (hQ : ∀ w, StateOk sha256 w → A w → Q (f w) w) :
    (growing sha256).Triple A (read f) Q := by
  refine triple_quiet rfl hA fun t w ω b w' hw hh he => ?_
  cases he
  exact ⟨hw, (growing sha256).refl w, hQ w hw hh⟩

theorem triple_ask {d : Answer → Option α} (hA : (growing sha256).Lasts A) :
    (growing sha256).Triple A (ask d) fun _ => A := by
  refine triple_quiet rfl hA fun t w ω b w' hw hh he => ?_
  obtain ⟨x, _, heq⟩ := Option.map_eq_some_iff.mp he
  cases heq
  exact ⟨hw, (growing sha256).refl w, hh⟩

theorem triple_write {f : World → World} {Q : Unit → World → Prop}
    (hA : (growing sha256).Lasts A)
    (hf : ∀ w, StateOk sha256 w → A w → StateOk sha256 (f w) ∧ Extends w (f w) ∧ Q () (f w)) :
    (growing sha256).Triple A (write f) Q := by
  refine triple_quiet rfl hA fun t w ω b w' hw hh he => ?_
  cases he
  exact hf w hw hh

/-- A step that leaves the rows and the entries alone. -/
theorem stateOk_rest {w : World} (w' : World) (hw : StateOk sha256 w)
    (hrows : w'.chainSwaps = w.chainSwaps) (hclaims : w'.toClaim = w.toClaim) :
    StateOk sha256 w' ∧ Extends w w' := by
  have hext : Extends w w' := by
    intro id row hget
    rw [hrows]
    exact ⟨row, hget, rfl, fun h => h⟩
  refine ⟨⟨fun id row hget => ?_, fun id e hget => ?_⟩, hext⟩
  · rw [hrows] at hget
    exact hw.rows id row hget
  · rw [hclaims] at hget
    exact lasts_claims _ _ _ _ hext (hw.toClaim id e hget)

theorem triple_writeRest {f : World → World} (hA : (growing sha256).Lasts A)
    (hrows : ∀ w, (f w).chainSwaps = w.chainSwaps) (hclaims : ∀ w, (f w).toClaim = w.toClaim) :
    (growing sha256).Triple A (write f) fun _ => A := by
  refine triple_write hA fun w hw hh => ?_
  obtain ⟨hok, hext⟩ := stateOk_rest (f w) hw (hrows w) (hclaims w)
  exact ⟨hok, hext, hA _ _ hext hh⟩

theorem triple_acquire (key : Lock) (hA : (growing sha256).Lasts A) :
    (growing sha256).Triple A (acquire key) fun _ => A := by
  refine triple_quiet rfl hA fun t w ω b w' hw hh he => ?_
  dsimp only at he
  split at he
  · simp only [Option.some.injEq, Prod.mk.injEq, true_and] at he
    subst he
    obtain ⟨hok, hext⟩ := stateOk_rest
      { w with locks := fun k => if k = key then some t else w.locks k } hw rfl rfl
    exact ⟨hok, hext, hA _ _ hext hh⟩
  · cases he

theorem triple_release (key : Lock) :
    (growing sha256).Triple (fun _ => True) (release key) fun _ _ => True :=
  triple_writeRest Growing.lasts_true (fun _ => rfl) fun _ => rfl

theorem triple_withLock {key : Lock} {body : M α} {Q : α → World → Prop}
    (hA : (growing sha256).Lasts A) (hQ : ∀ a, (growing sha256).Lasts (Q a))
    (hbody : (growing sha256).Triple A body Q) :
    (growing sha256).Triple A (withLock key body) Q :=
  (triple_acquire key hA).bind fun _ => Growing.Triple.finally_ hQ hbody (triple_release key)

theorem triple_external (hA : (growing sha256).Lasts A) :
    (growing sha256).Triple A external fun _ => A :=
  (triple_ask hA).bind fun _ => Growing.Triple.throwIf fun _ _ h => h

/-! ## Rows -/

theorem stateOk_modify {w : World} (hw : StateOk sha256 w) (id : Nat) (f : ChainSwap → ChainSwap)
    (hf : ∀ row, w.chainSwaps.get id = some row → RowOk sha256 (f row) ∧
      (f row).preimageHash = row.preimageHash ∧
      (row.preimage.isSome = true → (f row).preimage.isSome = true)) :
    StateOk sha256 { w with chainSwaps := w.chainSwaps.modify id f } ∧
      Extends w { w with chainSwaps := w.chainSwaps.modify id f } := by
  have hext : Extends w { w with chainSwaps := w.chainSwaps.modify id f } := by
    intro j row hget
    by_cases hj : j = id
    · subst hj
      obtain ⟨_, hhash, hkeep⟩ := hf row hget
      exact ⟨f row, by simp [hget], hhash, hkeep⟩
    · exact ⟨row, by simp only [Table.get_modify_ne _ hj, hget], rfl, fun h => h⟩
  refine ⟨⟨fun j row hget => ?_, fun j e hget => lasts_claims _ _ _ _ hext (hw.toClaim j e hget)⟩,
    hext⟩
  by_cases hj : j = id
  · subst hj
    simp only [Table.get_modify_self] at hget
    obtain ⟨row₀, hget₀, rfl⟩ := Option.map_eq_some_iff.mp hget
    exact (hf row₀ hget₀).1
  · simp only [Table.get_modify_ne _ hj] at hget
    exact hw.rows j row hget

/-- An instance that is known is saved with values that are right too. -/
theorem triple_update {values : ChainSwap → ChainSwap} (hA : (growing sha256).Lasts A)
    (hknown : ∀ w, A w → Known sha256 swap w)
    (hok : ∀ w, A w → RowOk sha256 (values swap.row))
    (hhash : (values swap.row).preimageHash = swap.row.preimageHash)
    (hkeep : swap.row.preimage.isSome = true → (values swap.row).preimage.isSome = true) :
    (growing sha256).Triple A (ChainSwapRepository.update swap values) fun r w =>
      r = ⟨swap.id, values swap.row⟩ ∧ Known sha256 r w := by
  have hwrite : (growing sha256).Triple A
      (write fun w => { w with
        chainSwaps := w.chainSwaps.modify swap.id (swap.row.save (values swap.row)) })
      fun _ => Known sha256 ⟨swap.id, values swap.row⟩ := by
    refine triple_write hA fun w hw hh => ?_
    obtain ⟨hrow, stored, hget, hsame, hstored⟩ := hknown w hh
    have hsave := rowOk_save (hok w hh) (hw.rows _ _ hget) (hhash.trans hsame.symm) hkeep hstored
    obtain ⟨hstate, hext⟩ := stateOk_modify hw swap.id (swap.row.save (values swap.row))
      fun row hrow' => by
        rw [hget] at hrow'
        cases hrow'
        exact ⟨hsave.1, rfl, hsave.2.1⟩
    refine ⟨hstate, hext, hok w hh, swap.row.save (values swap.row) stored, ?_, ?_, hsave.2.2⟩
    · simp [hget]
    · exact hsame.trans hhash.symm
  exact hwrite.bind fun _ => Growing.Triple.pure fun w h => ⟨rfl, h⟩

/-- The values that store the preimage with a status. -/
theorem triple_storePreimage {values : ChainSwap → ChainSwap}
    (hp : (values swap.row).preimage = some preimage)
    (hhash : (values swap.row).preimageHash = swap.row.preimageHash) :
    (growing sha256).Triple (Claims sha256 swap preimage)
      (ChainSwapRepository.update swap values) fun r w =>
        Claims sha256 r preimage w ∧ r.row.preimage.isSome = true := by
  have hsome : (values swap.row).preimage.isSome = true := by simp [hp]
  refine (triple_update (lasts_claims swap preimage) (fun w h => h.1) (fun w h => ?_) hhash
    fun _ => hsome).weaken (fun _ h => h) fun r w h => ?_
  · refine ⟨fun p hp' => ?_, fun _ => hsome⟩
    rw [hp] at hp'
    cases hp'
    exact h.2.trans hhash.symm
  · obtain ⟨rfl, hk⟩ := h
    exact ⟨⟨hk, (hk.ok.valid preimage hp)⟩, hsome⟩

theorem lasts_some (swap : Instance ChainSwap) :
    (growing sha256).Lasts fun w => Known sha256 swap w ∧ swap.row.preimage.isSome = true :=
  (lasts_known swap).and (Growing.lasts_const _)

theorem triple_setClaimMinerFee (fee : Nat) :
    (growing sha256).Triple (Claims sha256 swap preimage)
      (ChainSwapRepository.setClaimMinerFee swap preimage fee) fun r w =>
        Known sha256 r w ∧ r.row.preimage.isSome = true :=
  (triple_storePreimage rfl rfl).weaken (fun _ h => h) fun _ _ h => ⟨h.1.1, h.2⟩

theorem triple_storeClaimed (fee : Nat) :
    (growing sha256).Triple (Claims sha256 swap preimage)
      (do let _ ← ChainSwapRepository.setClaimMinerFee swap preimage fee) fun _ _ => True :=
  (triple_setClaimMinerFee fee).bind fun _ => Growing.Triple.pure fun _ _ => trivial

theorem triple_getChainSwap (id : Nat) (hA : (growing sha256).Lasts A) :
    (growing sha256).Triple A (ChainSwapRepository.getChainSwap id) fun r w =>
      ∀ swap, r = some swap → swap.id = id ∧ Known sha256 swap w := by
  refine triple_read hA fun w hw _ swap hswap => ?_
  obtain ⟨rfl, hget⟩ := Table.byId_eq_some.mp hswap
  exact ⟨rfl, known_of_get hw hget⟩

theorem triple_getChainSwapWhere (p : ChainSwap → Bool) :
    (growing sha256).Triple (fun _ => True) (ChainSwapRepository.getChainSwapWhere p) fun r w =>
      ∀ swap, r = some swap → p swap.row = true ∧ Known sha256 swap w := by
  refine triple_read Growing.lasts_true fun w hw _ swap hswap => ?_
  obtain ⟨hget, hp⟩ := Table.of_find hswap
  exact ⟨hp, known_of_get hw hget⟩

/-! ## The deferred claimer -/

theorem claims_put {w : World} (hw : StateOk sha256 w) {e : ToClaim} {id : Nat}
    (he : Claims sha256 e.swap e.preimage w) :
    StateOk sha256 { w with toClaim := w.toClaim.put id e } := by
  refine ⟨hw.rows, fun j x hget => ?_⟩
  change (if j = id then some e else w.toClaim.get j) = some x at hget
  split at hget
  · cases hget
    exact he
  · exact hw.toClaim j x hget

theorem triple_setToClaim : (growing sha256).Triple (Claims sha256 swap preimage)
    (DeferredClaimer.setToClaim swap preimage) fun _ _ => True :=
  triple_write (lasts_claims swap preimage) fun w hw h =>
    ⟨claims_put hw h, (growing sha256).refl w, trivial⟩

theorem triple_shouldBeDeferred (row : ChainSwap) :
    (growing sha256).Triple (fun _ => True) (DeferredClaimer.shouldBeDeferred row)
      fun _ _ => True := by
  refine (triple_read (Q := fun _ _ => True) Growing.lasts_true fun _ _ _ => trivial).bind
    fun symbols => ?_
  split
  · exact Growing.Triple.pure fun _ _ => trivial
  · split
    · exact Growing.Triple.pure fun _ _ => trivial
    · exact triple_ask Growing.lasts_true
    · exact Growing.Triple.pure fun _ _ => trivial

/-- Every entry of a list is known with its preimage. -/
def AllClaims (sha256 : Bytes → Bytes) (entries : List ToClaim) (w : World) : Prop :=
  ∀ e ∈ entries, Claims sha256 e.swap e.preimage w

theorem lasts_allClaims (entries : List ToClaim) :
    (growing sha256).Lasts (AllClaims sha256 entries) :=
  fun w w' he h e hmem => lasts_claims _ _ w w' he (h e hmem)

theorem triple_takeToClaim (symbol : Nat) :
    (growing sha256).Triple (fun _ => True) (DeferredClaimer.takeToClaim symbol)
      fun entries => AllClaims sha256 entries := by
  refine triple_quiet rfl Growing.lasts_true fun t w ω entries w' hw _ he => ?_
  simp only [Option.some.injEq, Prod.mk.injEq] at he
  obtain ⟨rfl, rfl⟩ := he
  refine ⟨⟨hw.rows, fun id e hget => ?_⟩, (growing sha256).refl w, fun e hmem => ?_⟩
  · exact hw.toClaim id e (Option.filter_eq_some_iff.mp hget).1
  · obtain ⟨i, hi, rfl⟩ := List.mem_map.mp hmem
    exact hw.toClaim i.id i.row (Table.of_mem_all hi).1

theorem triple_restoreToClaim (chunk : List ToClaim) :
    (growing sha256).Triple (AllClaims sha256 chunk) (DeferredClaimer.restoreToClaim chunk)
      fun _ _ => True := by
  refine triple_write (lasts_allClaims chunk) fun w hw h => ⟨?_, (growing sha256).refl w, trivial⟩
  -- the entries are put back one by one
  have hfold : ∀ (entries : List ToClaim) (m : Table ToClaim),
      AllClaims sha256 entries w → StateOk sha256 { w with toClaim := m } →
      StateOk sha256
        { w with toClaim := entries.foldl (fun m e => m.put e.swap.id e) m } := by
    intro entries
    induction entries with
    | nil => exact fun m _ hm => hm
    | cons e entries ih =>
      intro m hall hm
      refine ih (m.put e.swap.id e) (fun x hx => hall x (by simp [hx])) ?_
      exact claims_put (w := { w with toClaim := m }) hm (hall e (by simp))
  exact hfold chunk w.toClaim h hw

theorem triple_broadcastClaim (chunk : List ToClaim) :
    (growing sha256).Triple (AllClaims sha256 chunk) (DeferredClaimer.broadcastClaim chunk)
      fun _ _ => True := by
  refine (triple_ask (lasts_allClaims chunk)).bind fun fee => ?_
  cases fee with
  | none => exact Growing.Triple.throw
  | some fee =>
    refine (Growing.Triple.forEach fun e he => ?_).weaken (fun _ h => h) fun _ _ _ => trivial
    refine (Growing.Triple.frame (lasts_allClaims chunk) (triple_storeClaimed _)).weaken
      (fun w h => ⟨h e he, h⟩) fun _ _ h => h.2

theorem triple_claimChunks (fuel : Nat) (entries : List ToClaim) :
    (growing sha256).Triple (AllClaims sha256 entries) (DeferredClaimer.claimChunks fuel entries)
      fun _ _ => True := by
  induction fuel generalizing entries with
  | zero => exact Growing.Triple.pure fun _ _ => trivial
  | succ fuel ih =>
    cases entries with
    | nil => exact Growing.Triple.pure fun _ _ => trivial
    | cons e entries =>
      have htake : ∀ w, AllClaims sha256 (e :: entries) w →
          AllClaims sha256 ((e :: entries).take DeferredClaimer.maxBatchClaimChunk) w :=
        fun w h x hx => h x (List.mem_of_mem_take hx)
      have hdrop : ∀ w, AllClaims sha256 (e :: entries) w →
          AllClaims sha256 ((e :: entries).drop DeferredClaimer.maxBatchClaimChunk) w :=
        fun w h x hx => h x (List.mem_of_mem_drop hx)
      have hchunk : (growing sha256).Triple
          (AllClaims sha256 ((e :: entries).take DeferredClaimer.maxBatchClaimChunk))
          (DeferredClaimer.claimChunk ((e :: entries).take DeferredClaimer.maxBatchClaimChunk))
          fun _ _ => True := by
        refine Growing.Triple.catching (lasts_allClaims _) (triple_broadcastClaim _) fun _ => ?_
        exact triple_withLock (lasts_allClaims _) (fun _ => Growing.lasts_true)
          (triple_restoreToClaim _)
      have hframed := (Growing.Triple.frame (lasts_allClaims (e :: entries)) hchunk).weaken
        (fun w h => ⟨htake w h, h⟩) fun (_ : Unit) w h => hdrop w h.2
      exact hframed.bind fun _ => ih _

theorem triple_sweepSymbol (symbol : Nat) :
    (growing sha256).Triple (fun _ => True) (DeferredClaimer.sweepSymbol symbol)
      fun _ _ => True := by
  refine triple_withLock Growing.lasts_true (fun _ => Growing.lasts_true) ?_
  refine Growing.Triple.bind ?_ fun entries => triple_claimChunks entries.length entries
  exact triple_withLock Growing.lasts_true lasts_allClaims (triple_takeToClaim symbol)

theorem triple_deferClaim :
    (growing sha256).Triple (Claims sha256 swap preimage)
      (DeferredClaimer.deferClaim swap preimage) fun _ => Claims sha256 swap preimage := by
  have hlast : (growing sha256).Lasts (Claims sha256 swap preimage) := lasts_claims swap preimage
  refine Growing.Triple.next hlast (triple_shouldBeDeferred swap.row) fun deferred => ?_
  split
  · exact Growing.Triple.pure fun _ h => h
  · have hstore : (growing sha256).Triple (Claims sha256 swap preimage)
        (ChainSwapRepository.setTransactionClaimPending swap preimage) fun r w =>
          Claims sha256 r preimage w ∧ Claims sha256 swap preimage w :=
      (Growing.Triple.frame hlast (triple_storePreimage rfl rfl)).weaken (fun _ h => ⟨h, h⟩)
        fun _ _ h => ⟨h.1.1, h.2⟩
    refine hstore.bind fun r => ?_
    have hset : (growing sha256).Triple (Claims sha256 r preimage)
        (withLock .swapsToClaim (DeferredClaimer.setToClaim r preimage)) fun _ _ => True :=
      triple_withLock (lasts_claims r preimage) (fun _ => Growing.lasts_true) triple_setToClaim
    refine ((Growing.Triple.frame hlast hset).weaken (fun _ h => h) fun _ _ h => h.2).bind fun _ => ?_
    refine (triple_ask hlast).bind fun trigger => ?_
    refine Growing.Triple.next hlast (Growing.Triple.when trigger (triple_sweepSymbol _)
      fun _ _ => trivial) fun _ => ?_
    exact Growing.Triple.pure fun _ h => h

theorem triple_setLeftover :
    (growing sha256).Triple (Known sha256 swap) (DeferredClaimer.setLeftover swap)
      fun _ _ => True := by
  unfold DeferredClaimer.setLeftover
  split
  · rename_i p hp
    exact triple_setToClaim.weaken (fun w h => ⟨h, h.ok.valid p hp⟩) fun _ _ h => h
  · exact Growing.Triple.throw

theorem triple_batchClaimLeftovers :
    (growing sha256).Triple (fun _ => True) DeferredClaimer.batchClaimLeftovers
      fun _ _ => True := by
  have hread : (growing sha256).Triple (fun _ => True)
      (ChainSwapRepository.getChainSwaps fun s => s.status == transactionClaimPending)
      fun swaps w => ∀ swap ∈ swaps, Known sha256 swap w :=
    triple_read Growing.lasts_true fun w hw _ swap hmem => known_of_get hw (Table.of_mem_all hmem).1
  refine hread.bind fun swaps => ?_
  have hlast : (growing sha256).Lasts fun w => ∀ swap ∈ swaps, Known sha256 swap w :=
    fun w w' he h swap hmem => lasts_known swap w w' he (h swap hmem)
  have hset : (growing sha256).Triple (fun w => ∀ swap ∈ swaps, Known sha256 swap w)
      (withLock .swapsToClaim (Prog.forEach swaps DeferredClaimer.setLeftover))
      fun _ _ => True := by
    refine triple_withLock hlast (fun _ => Growing.lasts_true) ?_
    refine (Growing.Triple.forEach fun swap hmem => ?_).weaken (fun _ h => h) fun _ _ _ => trivial
    exact (Growing.Triple.frame hlast triple_setLeftover).weaken (fun w h => ⟨h swap hmem, h⟩)
      fun _ _ h => h.2
  refine hset.bind fun _ => ?_
  refine (triple_read (Q := fun _ _ => True) Growing.lasts_true fun _ _ _ => trivial).bind
    fun symbols => ?_
  exact Growing.Triple.forEach fun symbol _ => triple_sweepSymbol symbol

theorem triple_getToClaimDetails :
    (growing sha256).Triple (fun _ => True) (DeferredClaimer.getToClaimDetails swap)
      fun r w => ∀ e, r = some e → Claims sha256 e.swap e.preimage w := by
  unfold DeferredClaimer.getToClaimDetails
  split
  · exact Growing.Triple.pure fun w _ e h => by cases h
  · refine triple_withLock Growing.lasts_true (fun r => ?_) ?_
    · exact fun w w' he h e hr => lasts_claims _ _ w w' he (h e hr)
    · exact triple_read Growing.lasts_true fun w hw _ e he => hw.toClaim _ e he

theorem triple_broadcastCooperative :
    (growing sha256).Triple (fun _ => True) (DeferredClaimer.broadcastCooperative swap)
      fun _ _ => True := by
  refine triple_withLock Growing.lasts_true (fun _ => Growing.lasts_true) ?_
  refine (triple_ask Growing.lasts_true).bind fun disabled => ?_
  refine (Growing.Triple.throwIf (Q := fun _ _ => True) fun _ _ _ => trivial).bind fun _ => ?_
  refine triple_getToClaimDetails.bind fun r => ?_
  cases r with
  | none => exact Growing.Triple.throw
  | some e =>
    have hlast : (growing sha256).Lasts (Claims sha256 e.swap e.preimage) := lasts_claims _ _
    refine Growing.Triple.weaken (A := Claims sha256 e.swap e.preimage) ?_ (fun w h => h e rfl)
      fun _ _ h => h
    refine (triple_ask hlast).bind fun session => ?_
    refine (Growing.Triple.throwIf (Q := fun _ => Claims sha256 e.swap e.preimage)
      fun _ _ h => h).bind fun _ => ?_
    refine triple_withLock hlast (fun _ => Growing.lasts_true) ?_
    refine (triple_ask hlast).bind fun fee => ?_
    cases fee with
    | none => exact Growing.Triple.throw
    | some fee =>
      refine Growing.Triple.bind (Q := fun _ => Claims sha256 e.swap e.preimage) ?_
        fun _ => triple_storeClaimed fee
      refine triple_write hlast fun w hw h => ⟨⟨hw.rows, fun id x hget => ?_⟩,
        (growing sha256).refl w, h⟩
      change (if id = swap.id then none else w.toClaim.get id) = some x at hget
      split at hget
      · cases hget
      · exact hw.toClaim id x hget

/-! ## Settlement -/

theorem triple_claim : (growing sha256).Triple (Claims sha256 swap preimage)
    (claim swap preimage) fun _ _ => True := by
  refine (triple_ask (lasts_claims swap preimage)).bind fun fee => ?_
  cases fee with
  | none => exact Growing.Triple.throw
  | some fee => exact triple_storeClaimed fee

/-- The claim is deferred, or made now. -/
theorem triple_deferOr {m : M Unit}
    (hm : (growing sha256).Triple (Claims sha256 swap preimage) m fun _ _ => True) :
    (growing sha256).Triple (Claims sha256 swap preimage)
      (do if ← DeferredClaimer.deferClaim swap preimage then pure () else m)
      fun _ _ => True := by
  refine triple_deferClaim.bind fun deferred => ?_
  split
  · exact Growing.Triple.pure fun _ _ => trivial
  · exact hm

theorem triple_claimOf : (growing sha256).Triple (Claims sha256 swap preimage)
    (claimOf swap preimage) fun _ _ => True := by
  unfold claimOf
  split
  · exact (triple_external (lasts_claims swap preimage)).bind fun _ => triple_deferOr triple_claim
  · exact (triple_external (lasts_claims swap preimage)).bind fun _ => triple_claim
  · exact triple_claim

/-- The swap is fetched again; its preimage hash is still the same. -/
theorem triple_attemptSettleSwap : (growing sha256).Triple (Claims sha256 swap preimage)
    (attemptSettleSwap swap preimage) fun _ _ => True := by
  have hlast : (growing sha256).Lasts (Claims sha256 swap preimage) := lasts_claims swap preimage
  have hfetch : (growing sha256).Triple (Claims sha256 swap preimage)
      (fetchSwapForSettlement swap) fun r w =>
        ∀ fetched, r = some fetched → Claims sha256 fetched preimage w := by
    have hget : (growing sha256).Triple (Claims sha256 swap preimage)
        (ChainSwapRepository.getChainSwap swap.id) fun r w =>
          ∀ fetched, r = some fetched → Claims sha256 fetched preimage w := by
      refine triple_read hlast fun w hw h fetched hr => ?_
      obtain ⟨hid, hget⟩ := Table.byId_eq_some.mp hr
      obtain ⟨row, hstored, hhash, _⟩ := h.1.stored
      rw [hget] at hstored
      cases hstored
      exact ⟨known_of_get hw (hid ▸ hget), h.2.trans hhash.symm⟩
    refine hget.bind fun r => Growing.Triple.pure fun w h fetched hr => ?_
    exact h fetched (Option.filter_eq_some_iff.mp hr).1
  refine hfetch.bind fun r => ?_
  cases r with
  | none => exact Growing.Triple.pure fun _ _ => trivial
  | some fetched =>
    refine Growing.Triple.weaken (A := Claims sha256 fetched preimage) ?_ (fun w h => h fetched rfl)
      fun _ _ h => h
    exact triple_deferOr triple_claimOf

/-! ## The signer -/

theorem triple_claimable {f : World → World} (hrows : ∀ w, (f w).chainSwaps = w.chainSwaps)
    (hclaims : ∀ w, (f w).toClaim = w.toClaim) :
    (growing sha256).Triple (fun _ => True) (withLock .claimable (write f)) fun _ _ => True :=
  triple_withLock Growing.lasts_true (fun _ => Growing.lasts_true)
    (triple_writeRest Growing.lasts_true hrows hclaims)

theorem triple_registerForClaim :
    (growing sha256).Triple (fun _ => True) (ChainSwapSigner.registerForClaim swap)
      fun _ _ => True := by
  refine triple_claimable (fun w => ?_) fun w => ?_
  · split
    · rfl
    · split <;> rfl
  · split
    · rfl
    · split <;> rfl

theorem triple_removeFromClaimable (id : Nat) :
    (growing sha256).Triple (fun _ => True) (ChainSwapSigner.removeFromClaimable id)
      fun _ _ => True :=
  triple_claimable (fun _ => rfl) fun _ => rfl

theorem triple_claimableDetails (id : Nat) :
    (growing sha256).Triple (fun _ => True) (ChainSwapSigner.getToClaimDetails id)
      fun _ _ => True :=
  triple_withLock Growing.lasts_true (fun _ => Growing.lasts_true)
    (triple_read Growing.lasts_true fun _ _ _ => trivial)

theorem triple_getCooperativeDetails :
    (growing sha256).Triple (fun _ => True) (ChainSwapSigner.getCooperativeDetails swap)
      fun _ _ => True := by
  have hlast : (growing sha256).Lasts fun _ => True := Growing.lasts_true
  refine (triple_ask hlast).bind fun disabled => ?_
  refine (Growing.Triple.throwIf (Q := fun _ _ => True) fun _ _ _ => trivial).bind fun _ => ?_
  refine (Growing.Triple.throwIf (Q := fun _ _ => True) fun _ _ _ => trivial).bind fun _ => ?_
  refine (triple_claimableDetails swap.id).bind fun r => ?_
  cases r with
  | none => exact Growing.Triple.throw
  | some _ =>
    exact (triple_external hlast).bind fun _ => triple_writeRest hlast (fun _ => rfl) fun _ => rfl

theorem triple_claimCooperatively (theirSignature : Bool) :
    (growing sha256).Triple (Claims sha256 swap preimage)
      (ChainSwapSigner.claimCooperatively swap preimage theirSignature) fun r w =>
        Known sha256 r w ∧ r.row.preimage.isSome = true := by
  have hlast : (growing sha256).Lasts (Claims sha256 swap preimage) := lasts_claims swap preimage
  refine Growing.Triple.next hlast (triple_claimableDetails swap.id) fun details => ?_
  refine (Growing.Triple.throwIf (Q := fun _ => Claims sha256 swap preimage) fun _ _ h => h).bind
    fun _ => ?_
  refine (Growing.Triple.throwIf (Q := fun _ => Claims sha256 swap preimage) fun _ _ h => h).bind
    fun _ => ?_
  refine (triple_ask hlast).bind fun fee => ?_
  cases fee with
  | none => exact Growing.Triple.throw
  | some fee =>
    exact Growing.Triple.next hlast (triple_removeFromClaimable swap.id)
      fun _ => triple_setClaimMinerFee fee

/-- The preimage is compared with the hash of the instance, and stored. -/
theorem triple_settleClaim (preimage : Option Bytes) (theirSignature : Bool) :
    (growing sha256).Triple (Known sha256 swap)
      (ChainSwapSigner.settleClaim sha256 swap preimage theirSignature) fun r w =>
        Known sha256 r w ∧ r.row.preimage.isSome = true := by
  unfold ChainSwapSigner.settleClaim
  cases preimage with
  | none => exact Growing.Triple.throw
  | some preimage =>
    have hvalid : (growing sha256).Triple (Known sha256 swap)
        (Prog.throwIf (!ChainSwapSigner.isPreimageValid sha256 swap.row preimage)
          (Error.message "incorrect preimage")) fun _ => Claims sha256 swap preimage := by
      refine Growing.Triple.throwIf fun hv w h => ⟨h, ?_⟩
      rw [Bool.not_eq_false'] at hv
      unfold ChainSwapSigner.isPreimageValid at hv
      rw [Bool.and_eq_true, beq_iff_eq, beq_iff_eq] at hv
      exact hv.2
    refine hvalid.bind fun _ => ?_
    have hstore : (growing sha256).Triple (Claims sha256 swap preimage)
        (ChainSwapRepository.setPreimage swap preimage) fun r w =>
          Claims sha256 r preimage w ∧ r.row.preimage.isSome = true := triple_storePreimage rfl rfl
    refine hstore.bind fun r => ?_
    split
    · exact (triple_claimCooperatively theirSignature).weaken (fun _ h => h.1) fun _ _ h => h
    · refine Growing.Triple.bind ?_ fun _ => Growing.Triple.pure fun _ h => h
      exact (Growing.Triple.frame (lasts_some r) triple_attemptSettleSwap).weaken
        (fun w h => ⟨h.1, h.1.1, h.2⟩) fun _ _ h => h.2

theorem triple_sign : (growing sha256).Triple
    (fun w => Known sha256 swap w ∧ swap.row.preimage.isSome = true)
    (write (fun w => w) (.claimSigned swap.id)) fun _ _ => True := by
  refine Growing.Triple.call (lasts_some swap) fun t h ω b w' hi hh _ he => ?_
  cases he
  refine ⟨⟨hi.1, fun e hmem id hlabel => ?_⟩, (growing sha256).refl _, trivial⟩
  rcases List.mem_cons.mp hmem with rfl | hmem
  · cases hlabel
    exact secured_of_known hi.1 hh.1 hh.2
  · exact hi.2 e hmem id hlabel

/-- A settled instance has the preimage, any other one gets it. -/
theorem triple_swapToSign (preimage : Option Bytes) (theirSignature : Bool) :
    (growing sha256).Triple (Known sha256 swap)
      (ChainSwapSigner.swapToSign sha256 swap preimage theirSignature) fun r w =>
        Known sha256 r w ∧ r.row.preimage.isSome = true := by
  unfold ChainSwapSigner.swapToSign
  split
  · rename_i hs
    refine Growing.Triple.pure fun w h => ⟨h, h.ok.claimed (.inr ?_)⟩
    unfold ChainSwap.isSettled at hs
    exact of_decide_eq_true hs
  · exact triple_settleClaim preimage theirSignature

theorem triple_signClaim (preimage : Option Bytes) (theirSignature : Bool) :
    (growing sha256).Triple (Known sha256 swap)
      (ChainSwapSigner.signClaim sha256 swap preimage theirSignature) fun _ _ => True := by
  have hlast : (growing sha256).Lasts (Known sha256 swap) := lasts_known swap
  refine (Growing.Triple.throwIf (Q := fun _ => Known sha256 swap) fun _ _ h => h).bind fun _ => ?_
  refine triple_withLock hlast (fun _ => Growing.lasts_true) ?_
  refine (triple_ask hlast).bind fun disabled => ?_
  refine (Growing.Triple.throwIf (Q := fun _ => Known sha256 swap) fun _ _ h => h).bind fun _ => ?_
  refine (triple_swapToSign preimage theirSignature).bind fun r => ?_
  exact (triple_external (lasts_some r)).bind fun _ => triple_sign

/-! ## Tasks -/

theorem triple_handleChainSwapClaim : (growing sha256).Triple (Claims sha256 swap preimage)
    (handleChainSwapClaim swap preimage) fun _ _ => True :=
  triple_withLock (lasts_claims swap preimage) (fun _ => Growing.lasts_true)
    (triple_attemptSettleSwap.bind fun _ => triple_removeFromClaimable swap.id)

theorem triple_handleEvmClaim : (growing sha256).Triple (Claims sha256 swap preimage)
    (handleEvmClaim swap preimage) fun _ _ => True :=
  triple_withLock (lasts_claims swap preimage) (fun _ => Growing.lasts_true)
    triple_attemptSettleSwap

/-- A claim that was found for the spent lockup of a swap. -/
theorem triple_spentLockup (outpoint : Nat × Nat) (find : Bytes → Option Bytes)
    (hfind : ∀ hash p, find hash = some p → sha256 p = hash) :
    (growing sha256).Triple (fun _ => True)
      (do
        match ← swapOfOutpoint outpoint with
        | none => pure ()
        | some swap =>
          match find swap.row.preimageHash with
          | some preimage => Prog.spawn (handleChainSwapClaim swap preimage)
          | none => pure ()) fun _ _ => True := by
  refine (triple_getChainSwapWhere _).bind fun r => ?_
  cases r with
  | none => exact Growing.Triple.pure fun _ _ => trivial
  | some swap =>
    dsimp only
    split
    · rename_i p hp
      refine (Growing.Triple.spawn (lasts_claims swap p) triple_handleChainSwapClaim).weaken
        (fun w h => ⟨(h swap rfl).2, hfind _ p hp⟩) fun _ _ _ => trivial
    · exact Growing.Triple.pure fun _ _ => trivial

theorem triple_checkChainSwapClaim (outpoint : Nat × Nat) (witness : List Bytes) :
    (growing sha256).Triple (fun _ => True) (checkChainSwapClaim sha256 outpoint witness)
      fun _ _ => True := by
  refine triple_spentLockup outpoint (findWitnessPreimage sha256 witness) fun hash p hp => ?_
  have hsome := List.find?_some hp
  rw [Bool.and_eq_true, beq_iff_eq, beq_iff_eq] at hsome
  exact hsome.2

theorem triple_checkArkClaim (outpoint : Nat × Nat) (preimages : List Bytes) :
    (growing sha256).Triple (fun _ => True) (checkArkClaim sha256 outpoint preimages)
      fun _ _ => True := by
  refine triple_spentLockup outpoint (fetchClaimPreimage sha256 preimages) fun hash p hp => ?_
  simpa using List.find?_some hp

theorem triple_evmClaim {preimageHash preimage : Bytes} (hp : sha256 preimage = preimageHash) :
    (growing sha256).Triple (fun _ => True) (evmClaim preimageHash preimage) fun _ _ => True := by
  refine (triple_getChainSwapWhere _).bind fun r => ?_
  cases r with
  | none => exact Growing.Triple.pure fun _ _ => trivial
  | some swap =>
    refine Growing.Triple.when _ ?_ fun _ _ => trivial
    refine (Growing.Triple.spawn (lasts_claims swap preimage) triple_handleEvmClaim).weaken
      (fun w h => ?_) fun _ _ _ => trivial
    obtain ⟨hwhere, hknown⟩ := h swap rfl
    rw [Bool.and_eq_true, beq_iff_eq] at hwhere
    exact ⟨hknown, hp.trans hwhere.1.symm⟩

theorem triple_withSwap (id : Nat) {task : Instance ChainSwap → M Unit}
    (htask : ∀ swap, (growing sha256).Triple (Known sha256 swap) (task swap) fun _ _ => True) :
    (growing sha256).Triple (fun _ => True) (withSwap id task) fun _ _ => True := by
  refine (triple_getChainSwap id Growing.lasts_true).bind fun r => ?_
  cases r with
  | none => exact Growing.Triple.pure fun _ _ => trivial
  | some swap => exact (htask swap).weaken (fun w h => (h swap rfl).2) fun _ _ h => h

theorem triple_claimChainSwap (id : Nat) (preimage : Option Bytes) (toSign theirSignature : Bool) :
    (growing sha256).Triple (fun _ => True)
      (claimChainSwap sha256 id preimage toSign theirSignature) fun _ _ => True := by
  refine (triple_getChainSwap id Growing.lasts_true).bind fun r => ?_
  cases r with
  | none => exact Growing.Triple.throw
  | some swap =>
    refine Growing.Triple.weaken (A := Known sha256 swap) ?_ (fun w h => (h swap rfl).2)
      fun _ _ h => h
    dsimp only
    split
    · exact (Growing.Triple.throwIf (Q := fun _ => Known sha256 swap) fun _ _ h => h).bind
        fun _ => triple_signClaim preimage theirSignature
    · refine (Growing.Triple.throwIf (Q := fun _ _ => True) fun _ _ _ => trivial).bind fun _ => ?_
      exact triple_broadcastCooperative

/-- The other writers store none of the two statuses, and leave the preimage alone. -/
theorem triple_setStatus (status : SwapUpdateEvent)
    (sendingOutpoint receivingOutpoint : Option (Nat × Nat)) :
    (growing sha256).Triple (Known sha256 swap)
      (ChainSwapRepository.setStatus swap status sendingOutpoint receivingOutpoint)
      fun _ _ => True := by
  unfold ChainSwapRepository.setStatus
  cases hs : ChainSwapRepository.otherStatuses.contains status with
  | false => exact Growing.Triple.pure fun _ _ => trivial
  | true =>
    have hother : ¬ClaimStatus status := by
      rintro (rfl | rfl) <;> exact absurd hs (by decide)
    refine Growing.Triple.bind (Q := fun _ _ => True) ?_ fun _ =>
      Growing.Triple.pure fun _ _ => trivial
    refine (triple_update (lasts_known swap) (fun w h => h) (fun w h => ?_) rfl
      fun h => h).weaken (fun _ h => h) fun _ _ _ => trivial
    exact ⟨h.ok.valid, fun hc => absurd hc hother⟩

theorem triple_addChainSwap (id : Nat) (preimageHash : Bytes)
    (sendingCurrency receivingCurrency : Currency) :
    (growing sha256).Triple (fun _ => True)
      (ChainSwapRepository.addChainSwap id preimageHash sendingCurrency receivingCurrency)
      fun _ _ => True := by
  refine triple_write Growing.lasts_true fun w hw _ => ?_
  split
  · exact ⟨hw, (growing sha256).refl w, trivial⟩
  · rename_i hnone
    have hext : Extends w { w with
        chainSwaps := w.chainSwaps.put id { preimageHash, sendingCurrency, receivingCurrency } } := by
      intro j row hget
      refine ⟨row, ?_, rfl, fun h => h⟩
      change (if j = id then _ else w.chainSwaps.get j) = some row
      rw [if_neg, hget]
      rintro rfl
      rw [hnone] at hget
      cases hget
    refine ⟨⟨fun j row hget => ?_, fun j e hget => lasts_claims _ _ _ _ hext (hw.toClaim j e hget)⟩,
      hext, trivial⟩
    change (if j = id then _ else w.chainSwaps.get j) = some row at hget
    split at hget
    · cases hget
      refine ⟨fun p hp => ?_, fun hc => ?_⟩
      · cases hp
      · rcases hc with h | h <;> cases h
    · exact hw.rows j row hget

theorem triple_restart : (growing sha256).Triple (fun _ => True) restart fun _ _ => True := by
  refine Growing.Triple.bind (Q := fun _ _ => True) ?_ fun _ => triple_batchClaimLeftovers
  refine triple_write Growing.lasts_true fun w hw _ =>
    ⟨⟨hw.rows, fun id e hget => ?_⟩, (growing sha256).refl w, trivial⟩
  cases hget

theorem triple_start (e : Entry) (he : (policy sha256).spawn e = true) :
    (growing sha256).Triple (fun _ => True) (start sha256 e) fun _ _ => True := by
  cases e with
  | addChainSwap id preimageHash sending receiving => exact triple_addChainSwap _ _ _ _
  | setStatus id status sending receiving =>
    exact triple_withSwap id fun _ => triple_setStatus status sending receiving
  | registerForClaim id =>
    exact triple_withSwap id fun _ => triple_registerForClaim.weaken (fun _ _ => trivial)
      fun _ _ h => h
  | getCooperativeDetails id =>
    exact triple_withSwap id fun _ => triple_getCooperativeDetails.weaken (fun _ _ => trivial)
      fun _ _ h => h
  | claimChainSwap id preimage toSign theirSignature => exact triple_claimChainSwap _ _ _ _
  | checkChainSwapClaim outpoint witness => exact triple_checkChainSwapClaim outpoint witness
  | checkArkClaim outpoint preimages => exact triple_checkArkClaim outpoint preimages
  | evmClaim preimageHash preimage => exact triple_evmClaim (by simpa [policy] using he)
  | sweep symbol => exact triple_sweepSymbol symbol
  | restart => exact triple_restart

/-- Whenever the signer returns a partial signature, and whenever the claim is stored as pending or
made, the stored chain swap has its preimage. -/
theorem preimage_secured {symbols : List Nat} {h : History}
    (hr : Reaches (policy sha256) (start sha256) { deferredClaimSymbols := symbols } h) :
    PreimageSecured sha256 h := by
  have hinv : (growing sha256).Inv h := by
    refine Growing.inv_of_reaches rfl triple_start ⟨⟨fun id row hget => ?_, fun id e hget => ?_⟩,
      fun e hmem => ?_⟩ hr
    · cases hget
    · cases hget
    · cases hmem
  refine ⟨hinv.2, fun id row hget hc => ?_⟩
  have hok := hinv.1.rows id row hget
  obtain ⟨p, hp⟩ := Option.isSome_iff_exists.mp (hok.claimed hc)
  exact ⟨row, p, hget, hp, hok.valid p hp⟩

end

/-! ## A run of one swap -/

def samplePreimage : Bytes := List.replicate 32 0

/-- The hash of the sample preimage. -/
def sampleHash : Bytes :=
  [0x66, 0x68, 0x7a, 0xad, 0xf8, 0x62, 0xbd, 0x77, 0x6c, 0x8f, 0xc1,
    0x8b, 0x8e, 0x9f, 0x8e, 0x20, 0x08, 0x97, 0x14, 0x85, 0x6e, 0xe2,
    0x33, 0xb3, 0x90, 0x2a, 0x59, 0x1d, 0x0d, 0x5f, 0x29, 0x25]

def sampleSha256 (bytes : Bytes) : Bytes := if bytes = samplePreimage then sampleHash else []

/-- The user sends the preimage, the server claims on the EVM chain and signs. -/
theorem preimage_secured_claimed : ∃ h,
    Reaches (policy sampleSha256) (start sampleSha256) { deferredClaimSymbols := [] } h ∧
    h.trace.any (fun e => e.label = .claimSigned 1) = true ∧ PreimageSecured sampleSha256 h := by
  obtain ⟨h, hr, hp⟩ := Reaches.of_run (policy sampleSha256) (start sampleSha256)
    { deferredClaimSymbols := [] }
    ([.spawn (.addChainSwap 1 sampleHash ⟨0, .bitcoinLike, 0⟩ ⟨1, .ether, 0⟩),
      .spawn (.claimChainSwap 1 (some samplePreimage) true false)] ++
      steps 0 [.nothing] ++
      steps 1 [.nothing, .nothing, .flag false, .nothing, .nothing, .nothing, .flag true,
        .maybe (some 5), .nothing, .flag true, .nothing])
    (fun h => h.trace.any fun e => e.label = .claimSigned 1) (by decide +kernel)
  exact ⟨h, hr, hp, preimage_secured hr⟩

end Boltz.ChainSwapClaims
