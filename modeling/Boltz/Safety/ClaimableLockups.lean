import Boltz.Safety.CommitmentUse

/-!
# Recorded lockups of EVM chains can be claimed

Whether a lockup is looked up and claimed as a commitment depends on the row of a commitment, not on
the lockup that is recorded. The two agree as long as a commit comes before the lockup is recorded,
and only lockups of the contract of the swap are recorded: regular ones for a swap without a
commitment, and that of the commitment for the others.
-/

namespace Boltz.Ethereum

open Async SwapUpdateEvent
open ConsolidatedEventHandler (Log Receipt)

namespace State

variable (manager : EthereumManager) (s : State)

/-- The signature that the claim of the swap is built with. -/
def claimSignature (id : Nat) : Option Nat :=
  (CommitmentRepository.getBySwapId s.commitments id).bind (·.signature)

/-- The lookup of the values finds the log of the lockup, and the claim has the signature that this
log needs. -/
def Claimable (id : Nat) (lockup : LockupIdentity) : Prop :=
  ∃ row contract receipt log, s.swaps id = some row ∧
    manager.contractForAddress row.chainSymbol row.lockupAddress = some contract ∧
    s.events.receipts lockup.transactionId = some receipt ∧ log ∈ receipt.logs ∧
    lockup.vout = some log.index ∧ isLockupOf contract log = true ∧
    querySwapValuesFromLock manager.hashValues (some receipt) contract
      (some (getIdentifier s.commitments id row.preimageHash)) lockup.vout =
        some { logIndex := log.index, values := log.values } ∧
    ((s.claimSignature id).isSome = true ↔
      isCommitmentPreimageHash log.values.preimageHash = true) ∧
    ∀ signature, s.claimSignature id = some signature →
      ∃ c ∈ s.commitments, c.lockupHash = manager.hashValues contract log.values ∧
        c.swapId = some id ∧ c.signature = some signature

/-! ## Lockups that fit their swap -/

/-- The log of a lockup. The indices of logs are unique. -/
def lockupLog (lockup : LockupIdentity) : Option (Log SwapValues) :=
  ((s.events.receipts lockup.transactionId).map (·.logs)).bind fun logs =>
    match logs.filter fun log => lockup.vout == some log.index with
    | [log] => some log
    | _ => none

/-- The log is the lockup of the commitment of the swap, or a regular one when it has none. -/
def identifies (id : Nat) (row : UserSwap) (contract : Contract) (log : Log SwapValues) : Bool :=
  match (CommitmentRepository.getBySwapId s.commitments id).map (·.lockupHash) with
  | some hash =>
    manager.hashValues contract log.values == hash &&
      isCommitmentPreimageHash log.values.preimageHash
  | none =>
    log.values.preimageHash == row.preimageHash &&
      !isCommitmentPreimageHash log.values.preimageHash

def fits (id : Nat) (row : UserSwap) (lockup : LockupIdentity) : Bool :=
  match manager.contractForAddress row.chainSymbol row.lockupAddress, s.lockupLog lockup with
  | some contract, some log => isLockupOf contract log && s.identifies manager id row contract log
  | _, _ => false

/-- A lockup that is stored fits its swap, and a commit stores its row before the lockup is
recorded. The chain keeps the transactions of the lockups that are stored. -/
def storesFitting (op : Op) : Bool :=
  match op with
  | .events (.chain _ receipts) =>
    s.lockupTransactions.all fun tx =>
      decide ((receipts tx).map (·.logs) = (s.events.receipts tx).map (·.logs))
  | .record i valid =>
    (s.lockups[i]?).all fun task =>
      (s.swaps task.id).all fun row =>
        let lockup := incomingLockup task.entry
        shouldIgnoreCompetingLockup task.row.lockup lockup task.row.status ||
          (lockupWrite manager task valid row).1 == .rejected ||
            s.fits manager task.id row lockup
  | .advance =>
    match s.call with
    | some (.commit _ request (.checked _ _)) => (s.swaps request.swapId).all (·.lockup.isNone)
    | _ => true
  | _ => true

section Proofs

variable {manager : EthereumManager} {s s' : State} {op : Op} {id : Nat} {row row' : UserSwap}
  {lockup : LockupIdentity}

/-! ## Rows -/

theorem setLockup_lockup (incoming : LockupIdentity) (hvout : incoming.vout.isSome = true)
    (amount : Nat) (status : SwapUpdateEvent) (row : UserSwap) :
    (row.setLockup incoming amount status).2.lockup = row.lockup ∨
      (row.setLockup incoming amount status).2.lockup = some incoming := by
  obtain ⟨tx, vout⟩ := incoming
  obtain ⟨index, rfl⟩ := Option.isSome_iff_exists.mp hvout
  have hdecide : ∀ existing current updatable,
      let decision := decideLockupWrite existing ⟨tx, some index⟩ current status updatable
      decision.write = true → decision.vout = some index := by
    intro existing current updatable
    unfold decideLockupWrite
    cases existing with
    | none =>
      dsimp only
      split <;> simp
    | some e =>
      dsimp only
      split
      · simp
      · split <;> simp
  cases row with
  | submarine row =>
    simp only [UserSwap.setLockup, SwapRepository.lockupWrite]
    split
    · rename_i hwrite
      exact .inr (congrArg (fun vout => some (⟨tx, vout⟩ : LockupIdentity))
        (hdecide _ _ _ hwrite))
    · exact .inl rfl
  | chain row =>
    simp only [UserSwap.setLockup, ChainSwapRepository.userLockupWrite]
    split
    · rename_i hwrite
      exact .inr (congrArg (fun vout => some (⟨tx, vout⟩ : LockupIdentity))
        (hdecide _ _ _ hwrite))
    · exact .inl rfl

theorem setLockup_address (incoming : LockupIdentity) (amount : Nat) (status : SwapUpdateEvent)
    (row : UserSwap) :
    let row' := (row.setLockup incoming amount status).2
    row'.chainSymbol = row.chainSymbol ∧ row'.lockupAddress = row.lockupAddress ∧
      row'.preimageHash = row.preimageHash := by
  cases row with
  | submarine row =>
    simp only [UserSwap.setLockup, SwapRepository.lockupWrite]
    split <;> exact ⟨rfl, rfl, rfl⟩
  | chain row =>
    simp only [UserSwap.setLockup, ChainSwapRepository.userLockupWrite]
    split <;> exact ⟨rfl, rfl, rfl⟩

theorem RowStep.address (h : RowStep manager s op id row row') :
    row'.chainSymbol = row.chainSymbol ∧ row'.lockupAddress = row.lockupAddress ∧
      row'.preimageHash = row.preimageHash := by
  cases h with
  | record _ _ _ => exact setLockup_address _ _ _ row
  | setStatus _ => cases row <;> exact ⟨rfl, rfl, rfl⟩
  | storeResult _ _ _ => cases row <;> exact ⟨rfl, rfl, rfl⟩
  | flag _ => cases row <;> exact ⟨rfl, rfl, rfl⟩
  | _ => exact ⟨rfl, rfl, rfl⟩

/-- A recorded lockup is replaced, but not removed. -/
theorem RowStep.locked (h : RowStep manager s op id row row') (hlocked : row.lockup.isSome = true) :
    row'.lockup.isSome = true := by
  cases h with
  | @record i valid task row hget hcompeting howned =>
    rcases setLockup_lockup (incomingLockup task.entry) rfl
      (manager.lockupAmount task.row.chainSymbol task.entry.values)
      (if valid then transactionConfirmed else transactionLockupFailed) row with hsame | hnew
    · exact hsame ▸ hlocked
    · exact hnew ▸ rfl
  | setStatus _ => cases row <;> exact hlocked
  | storeResult _ _ _ => cases row <;> exact hlocked
  | flag _ => cases row <;> exact hlocked
  | _ => exact hlocked

/-! ## Lockups keep fitting -/

def Locked (s : State) (id : Nat) : Prop := ∃ row, s.swaps id = some row ∧ row.lockup.isSome = true

/-- The lockup was stored for the swap. -/
structure Fitting (manager : EthereumManager) (s : State) (id : Nat) (lockup : LockupIdentity) :
    Prop where
  fits : ∃ row, s.swaps id = some row ∧ row.lockup.isSome = true ∧
    s.fits manager id row lockup = true
  kept : lockup.transactionId ∈ s.lockupTransactions

theorem Fitting.locked (h : Fitting manager s id lockup) : Locked s id := by
  obtain ⟨row, hrow, hlocked, -⟩ := h.fits
  exact ⟨row, hrow, hlocked⟩

theorem Locked.step (h : Locked s id) (heffect : s.Effect manager op s') : Locked s' id := by
  obtain ⟨row, hrow, hlocked⟩ := h
  obtain ⟨row', hrow', hstep⟩ := row_of_effect heffect hrow
  exact ⟨row', hrow', hstep.locked hlocked⟩

/-- What `fits` depends on. -/
theorem fits_congr (haddress : row'.chainSymbol = row.chainSymbol ∧
      row'.lockupAddress = row.lockupAddress ∧ row'.preimageHash = row.preimageHash)
    (hlogs : (s'.events.receipts lockup.transactionId).map (·.logs) =
      (s.events.receipts lockup.transactionId).map (·.logs))
    (hlinked : (CommitmentRepository.getBySwapId s'.commitments id).map (·.lockupHash) =
      (CommitmentRepository.getBySwapId s.commitments id).map (·.lockupHash)) :
    s'.fits manager id row' lockup = s.fits manager id row lockup := by
  obtain ⟨hsymbol, haddress, hhash⟩ := haddress
  simp only [fits, lockupLog, identifies, hsymbol, haddress, hhash, hlogs, hlinked]

/-- The commitment of a swap stays when no other is created for it. -/
theorem linked_of_rows {commitments : List Commitment} (h : RowsStep manager s commitments)
    (hunique : UniqueRows s.commitments)
    (hother : ∀ number request c commitment,
      s.call = some (.commit number request (.checked c commitment)) → commitment.swapId ≠ some id) :
    (CommitmentRepository.getBySwapId commitments id).map (·.lockupHash) =
      (CommitmentRepository.getBySwapId s.commitments id).map (·.lockupHash) := by
  cases hfind : CommitmentRepository.getBySwapId s.commitments id with
  | some c =>
    obtain ⟨hmem, hid⟩ := of_getBySwapId hfind
    obtain ⟨c', hmem', hhash, hid', -⟩ := h.keeps hmem
    rw [(h.unique hunique).getBySwapId hmem' (hid'.trans hid)]
    exact congrArg some hhash
  | none =>
    have hfree := getBySwapId_eq_none.mp hfind
    have hnone : CommitmentRepository.getBySwapId commitments id = none := by
      refine getBySwapId_eq_none.mpr fun c hmem hid => ?_
      cases h with
      | same => exact hfree c hmem hid
      | create hcall hcreate =>
        obtain ⟨rfl, -, -⟩ := create_eq_some hcreate
        rcases List.mem_append.mp hmem with hold | hnew
        · exact hfree c hold hid
        · obtain rfl := List.mem_singleton.mp hnew
          exact hother _ _ _ _ hcall hid
      | refunded hcall =>
        rcases markRefunded_cases _ _ with heq | ⟨hash, _, heq⟩ <;> rw [heq] at hmem
        · exact hfree c hmem hid
        · rcases mem_markRefunded hmem with ⟨hold, -⟩ | ⟨-, -, ⟨c₀, hmem₀, -, hswap, -⟩ | ⟨hnone, -⟩⟩
          · exact hfree c hold hid
          · exact hfree c₀ hmem₀ (hswap.symm.trans hid)
          · exact absurd (hnone.symm.trans hid) (Option.some_ne_none _).symm
    rw [hnone]

theorem lockupTransactions_of_effect (heffect : s.Effect manager op s') {tx : Nat}
    (h : tx ∈ s.lockupTransactions) : tx ∈ s'.lockupTransactions := by
  cases heffect with
  | record _ _ _ _ => exact List.mem_cons_of_mem _ h
  | recordHandled _ _ _ _ => exact List.mem_cons_of_mem _ h
  | _ => exact h

theorem logs_of_effect (heffect : s.Effect manager op s')
    (hadmits : s.storesFitting manager op = true)
    (hkept : lockup.transactionId ∈ s.lockupTransactions) :
    (s'.events.receipts lockup.transactionId).map (·.logs) =
      (s.events.receipts lockup.transactionId).map (·.logs) := by
  rcases receipts_of_effect heffect with heq | ⟨height, receipts, rfl, heq⟩
  · rw [heq]
  · rw [heq]
    exact of_decide_eq_true (List.all_eq_true.mp hadmits _ hkept)

theorem record_of_effect {i : Nat} {valid : Bool} {task : LockupTask}
    (heffect : s.Effect manager (.record i valid) s') (hget : s.lockups[i]? = some task) :
    s'.swaps = s.swaps ∨
      ((incomingLockup task.entry).transactionId ∈ s'.lockupTransactions ∧
        s'.events = s.events ∧ s'.commitments = s.commitments) := by
  cases heffect with
  | record hget' _ _ _ =>
    obtain rfl := Option.some.inj (hget.symm.trans hget')
    exact .inr ⟨List.mem_cons_self .., rfl, rfl⟩
  | recordHandled hget' _ _ _ =>
    obtain rfl := Option.some.inj (hget.symm.trans hget')
    exact .inr ⟨List.mem_cons_self .., rfl, rfl⟩
  | skip _ => exact .inl rfl
  | throwCommit _ _ => exact .inl rfl
  | endRefund _ => exact .inl rfl

/-- Before a commit stores its row, its swap has no lockup. -/
theorem not_locked_of_create (hadmits : s.storesFitting manager .advance = true)
    {number : Nat} {request : CommitRequest} {c : CommitLockup} {commitment : Commitment}
    (hcall : s.call = some (.commit number request (.checked c commitment))) :
    ¬ Locked s request.swapId := by
  rintro ⟨row, hrow, hlocked⟩
  simp only [storesFitting, hcall, hrow, Option.all_some, Option.isNone_iff_eq_none] at hadmits
  rw [hadmits] at hlocked
  exact absurd hlocked Bool.false_ne_true

/-! ## The invariant -/

def HandlerOk (manager : EthereumManager) (s : State) (h : Handler) : Prop :=
  (h.owner = none →
    ∃ row, s.swaps h.id = some row ∧ (row.type = .chain → row.lockup.isSome = true)) ∧
    match h.phase with
    | .waiting | .approved => True
    | .fetched lockup | .settling _ lockup | .pending lockup =>
      ∃ l, lockup = some l ∧ Fitting manager s h.id l
    | .sent => Locked s h.id

structure ClaimInv (manager : EthereumManager) (s : State) : Prop where
  unique : UniqueRows s.commitments
  signatures : ∀ c ∈ s.commitments, c.swapId.isSome = true → c.signature.isSome = true
  call : ∀ number request c commitment,
    s.call = some (.commit number request (.checked c commitment)) →
      commitment.swapId = some request.swapId ∧ commitment.signature.isSome = true
  recorded : ∀ id row lockup, s.swaps id = some row → row.lockup = some lockup →
    Fitting manager s id lockup
  acted : ∀ id lockup, .acted id lockup ∈ s.history →
    ∃ l, lockup = some l ∧ Fitting manager s id l
  handlers : ∀ h ∈ s.handlers, HandlerOk manager s h
  holds : ∀ id ∈ s.holds, Locked s id
  pending : ∀ id row, s.swaps id = some row →
    row.status = invoicePending ∨ row.status = invoicePaid → row.lockup.isSome = true

theorem ClaimInv.linked (hinv : ClaimInv manager s) (heffect : s.Effect manager op s')
    (hadmits : s.storesFitting manager op = true) (hlocked : Locked s id) :
    (CommitmentRepository.getBySwapId s'.commitments id).map (·.lockupHash) =
      (CommitmentRepository.getBySwapId s.commitments id).map (·.lockupHash) := by
  cases heffect with
  | link hcall hcreate =>
    have hrows : RowsStep manager s _ := .create hcall hcreate
    refine linked_of_rows hrows hinv.unique fun _ _ _ _ hc hid => ?_
    have hswap := (hinv.call _ _ _ _ hc).1
    rw [hid] at hswap
    refine not_locked_of_create hadmits hc ?_
    rw [← Option.some.inj hswap]
    exact hlocked
  | mark hcall =>
    exact linked_of_rows (.refunded hcall) hinv.unique fun _ _ _ _ hc =>
      absurd (hcall.symm.trans hc) (by simp)
  | _ => rfl

theorem ClaimInv.fitting (hinv : ClaimInv manager s) (heffect : s.Effect manager op s')
    (hadmits : s.storesFitting manager op = true) (h : Fitting manager s id lockup) :
    Fitting manager s' id lockup := by
  obtain ⟨row, hrow, hlocked, hfits⟩ := h.fits
  obtain ⟨row', hrow', hstep⟩ := row_of_effect heffect hrow
  refine ⟨⟨row', hrow', hstep.locked hlocked, ?_⟩, lockupTransactions_of_effect heffect h.kept⟩
  rw [fits_congr hstep.address (logs_of_effect heffect hadmits h.kept)
    (hinv.linked heffect hadmits h.locked)]
  exact hfits

/-- A recorded lockup was recorded before, or is stored in this step. -/
theorem ClaimInv.recorded_step (hinv : ClaimInv manager s) (heffect : s.Effect manager op s')
    (hadmits : s.storesFitting manager op = true) (hrow' : s'.swaps id = some row')
    (hlockup : row'.lockup = some lockup) : Fitting manager s' id lockup := by
  cases hrow : s.swaps id with
  | none =>
    obtain ⟨-, hnew⟩ := new_of_effect heffect hrow hrow'
    simp only [isNew, Bool.and_eq_true, Option.isNone_iff_eq_none] at hnew
    exact absurd (hnew.1.1.1.2.symm.trans hlockup) (Option.some_ne_none _).symm
  | some row =>
    have hold : row.lockup = some lockup → Fitting manager s' id lockup :=
      fun h => hinv.fitting heffect hadmits (hinv.recorded id row lockup hrow h)
    obtain ⟨row'', hrow'', hstep⟩ := row_of_effect heffect hrow
    obtain rfl := Option.some.inj (hrow''.symm.trans hrow')
    cases hstep with
    | @record i valid task row hget hcompeting howned =>
      rcases record_of_effect heffect hget with hswaps | ⟨hkept, hevents, hcommitments⟩
      · rw [hswaps, hrow] at hrow'
        rw [← Option.some.inj hrow'] at hlockup
        exact hold hlockup
      rcases setLockup_lockup (incomingLockup task.entry) rfl
        (manager.lockupAmount task.row.chainSymbol task.entry.values)
        (if valid then transactionConfirmed else transactionLockupFailed) row with hsame | hnew
      · exact hold (hsame.symm.trans hlockup)
      · obtain rfl := Option.some.inj (hnew.symm.trans hlockup)
        refine ⟨⟨_, hrow', by rw [hlockup]; rfl, ?_⟩, hkept⟩
        have hcongr : s'.fits manager task.id (lockupWrite manager task valid row).2
            (incomingLockup task.entry) =
              s.fits manager task.id row (incomingLockup task.entry) :=
          fits_congr (setLockup_address _ _ _ row) (by rw [hevents]) (by rw [hcommitments])
        refine hcongr.trans ?_
        simp only [storesFitting, hget, Option.all_some, hrow, hcompeting, Bool.false_or,
          Bool.or_eq_true, beq_iff_eq] at hadmits
        exact hadmits.resolve_left howned
    | same => exact hold hlockup
    | setInvoice _ _ => exact hold hlockup
    | setStatus _ => exact hold (by cases row <;> exact hlockup)
    | pay _ _ => exact hold hlockup
    | storeResult _ _ _ => exact hold (by cases row <;> exact hlockup)
    | serverLockup _ _ => exact hold hlockup
    | flag _ => exact hold (by cases row <;> exact hlockup)

/-! ## Handlers -/

theorem locked_of_pastRead {h : Handler} (hok : HandlerOk manager s h)
    (hpast : h.phase.pastRead = true) : Locked s h.id := by
  have hphase := hok.2
  cases hp : h.phase with
  | waiting =>
    rw [hp] at hpast
    exact absurd hpast Bool.false_ne_true
  | approved =>
    rw [hp] at hpast
    exact absurd hpast Bool.false_ne_true
  | fetched x =>
    rw [hp] at hphase
    obtain ⟨l, -, hfit⟩ := hphase
    exact hfit.locked
  | settling status x =>
    rw [hp] at hphase
    obtain ⟨l, -, hfit⟩ := hphase
    exact hfit.locked
  | pending x =>
    rw [hp] at hphase
    obtain ⟨l, -, hfit⟩ := hphase
    exact hfit.locked
  | sent =>
    rw [hp] at hphase
    exact hphase

theorem HandlerOk.step {h : Handler} (hinv : ClaimInv manager s) (heffect : s.Effect manager op s')
    (hadmits : s.storesFitting manager op = true) (hok : HandlerOk manager s h) :
    HandlerOk manager s' h := by
  refine ⟨fun howner => ?_, ?_⟩
  · obtain ⟨row, hrow, hlocked⟩ := hok.1 howner
    obtain ⟨row', hrow', hstep⟩ := row_of_effect heffect hrow
    exact ⟨row', hrow', fun h => hstep.locked (hlocked (hstep.kind.1.symm.trans h))⟩
  · have hphase := hok.2
    cases hp : h.phase with
    | waiting => trivial
    | approved => trivial
    | fetched x =>
      rw [hp] at hphase
      obtain ⟨l, hx, hfit⟩ := hphase
      exact ⟨l, hx, hinv.fitting heffect hadmits hfit⟩
    | settling status x =>
      rw [hp] at hphase
      obtain ⟨l, hx, hfit⟩ := hphase
      exact ⟨l, hx, hinv.fitting heffect hadmits hfit⟩
    | pending x =>
      rw [hp] at hphase
      obtain ⟨l, hx, hfit⟩ := hphase
      exact ⟨l, hx, hinv.fitting heffect hadmits hfit⟩
    | sent =>
      rw [hp] at hphase
      exact Locked.step hphase heffect

theorem isSome_of_eq {x : Option LockupIdentity} (hrow : s.swaps id = some row)
    (h : row.lockup = x) (hlocked : row.lockup.isSome = true) (hinv : ClaimInv manager s) :
    ∃ l, x = some l ∧ Fitting manager s id l := by
  obtain ⟨l, hl⟩ := Option.isSome_iff_exists.mp hlocked
  exact ⟨l, h.symm.trans hl, hinv.recorded id row l hrow hl⟩

/-- A handler acts on the recorded lockup. -/
theorem Moves.ok {h : Handler} {phase : HandlerPhase} (hmove : s.Moves h phase)
    (hinv : ClaimInv manager s) (hok : HandlerOk manager s h) :
    HandlerOk manager s { h with phase } := by
  refine ⟨hok.1, ?_⟩
  have hphase := hok.2
  cases hmove with
  | approved _ _ _ => trivial
  | locked hrow _ hlockable =>
    refine isSome_of_eq hrow rfl ?_ hinv
    cases howner : h.owner with
    | none =>
      obtain ⟨row', hrow', hlocked⟩ := hok.1 howner
      obtain rfl := Option.some.inj (hrow.symm.trans hrow')
      exact hlocked rfl
    | some l =>
      simp only [isLockable, howner, Option.isNone_some, Bool.false_or, Bool.and_eq_true,
        beq_iff_eq] at hlockable
      rw [hlockable.2]
      rfl
  | fetched hrow _ hpayable =>
    refine isSome_of_eq hrow rfl ?_ hinv
    unfold isPayable at hpayable
    split at hpayable
    · rename_i l howner
      simp only [Bool.and_eq_true, beq_iff_eq] at hpayable
      rw [hpayable.1.1.2, howner]
      rfl
    · simp only [List.contains_iff_mem, List.mem_cons, List.not_mem_nil, or_false] at hpayable
      exact hinv.pending _ _ hrow hpayable
  | settling hrow hp =>
    rw [hp] at hphase
    obtain ⟨l, -, hfit⟩ := hphase
    obtain ⟨row', hrow', hlocked⟩ := hfit.locked
    obtain rfl := Option.some.inj (hrow.symm.trans hrow')
    exact isSome_of_eq hrow rfl hlocked hinv
  | pending _ hp =>
    rw [hp] at hphase
    exact hphase
  | sent _ hp _ =>
    rw [hp] at hphase
    obtain ⟨l, -, hfit⟩ := hphase
    exact hfit.locked

theorem HandlerOrigin.ok {h : Handler} (horigin : HandlerOrigin s h) (hinv : ClaimInv manager s) :
    HandlerOk manager s h := by
  cases horigin with
  | kept hmem => exact hinv.handlers _ hmem
  | waiting hheld =>
    refine ⟨fun howner => ?_, trivial⟩
    obtain ⟨row, hrow, hholds⟩ := hheld howner
    refine ⟨row, hrow, fun htype => ?_⟩
    obtain ⟨row', hrow', hlocked⟩ := hinv.holds _ (hholds htype)
    obtain rfl := Option.some.inj (hrow.symm.trans hrow')
    exact hlocked
  | settles hrow hlocked hflag =>
    exact ⟨fun _ => ⟨_, hrow, nofun⟩, isSome_of_eq hrow rfl hlocked hinv⟩
  | moved hmem hmove => exact hmove.ok hinv (hinv.handlers _ hmem)
  | pending hmem hphase =>
    obtain ⟨howner, hp⟩ := hinv.handlers _ hmem
    rw [hphase] at hp
    exact ⟨howner, hp⟩
  | sent hmem hpast =>
    have hok := hinv.handlers _ hmem
    have hlocked := locked_of_pastRead hok hpast
    exact ⟨hok.1, hlocked⟩

/-! ## Runs -/

theorem holds_of_effect (heffect : s.Effect manager op s') (hmem : id ∈ s'.holds) :
    id ∈ s.holds ∨ ∃ h ∈ s.handlers, h.id = id ∧ h.phase.pastRead = true := by
  cases heffect with
  | hold hget hphase =>
    rcases List.mem_cons.mp hmem with rfl | hold
    · exact .inr ⟨_, List.mem_of_getElem? hget, rfl, by rw [hphase]; rfl⟩
    · exact .inl hold
  | _ => exact .inl hmem

/-- An invoice is pending or paid for a swap that a handler acts on. -/
theorem ClaimInv.pending_step (hinv : ClaimInv manager s) (heffect : s.Effect manager op s')
    (hrow' : s'.swaps id = some row') (hstatus : row'.status = invoicePending ∨
      row'.status = invoicePaid) : row'.lockup.isSome = true := by
  have hlocked : Locked s id → row'.lockup.isSome = true := by
    intro h
    obtain ⟨row'', hrow'', hlocked⟩ := h.step heffect
    obtain rfl := Option.some.inj (hrow''.symm.trans hrow')
    exact hlocked
  cases hrow : s.swaps id with
  | none =>
    obtain ⟨-, hnew⟩ := new_of_effect heffect hrow hrow'
    simp only [isNew, Bool.and_eq_true, beq_iff_eq] at hnew
    rw [hnew.1.1.1.1] at hstatus
    exact absurd hstatus (by decide)
  | some row =>
    have hold : row.status = invoicePending ∨ row.status = invoicePaid →
        row'.lockup.isSome = true :=
      fun h => hlocked ⟨row, hrow, hinv.pending id row hrow h⟩
    have hhandler : ∀ {i : Nat} {h : Handler}, s.handlers[i]? = some h →
        h.phase.pastRead = true → h.id = id → row'.lockup.isSome = true := by
      rintro i h hget hpast rfl
      exact hlocked (locked_of_pastRead (hinv.handlers h (List.mem_of_getElem? hget)) hpast)
    obtain ⟨row'', hrow'', hstep⟩ := row_of_effect heffect hrow
    obtain rfl := Option.some.inj (hrow''.symm.trans hrow')
    cases hstep with
    | same => exact hold hstatus
    | setInvoice _ _ => exact absurd hstatus (by simp [UserSwap.status, withInvoice])
    | setStatus hforeign =>
      have hne := ne_of_isForeign hforeign
      cases row <;> exact absurd hstatus (not_or.mpr hne)
    | record _ _ _ =>
      obtain ⟨-, -, -, -, hcases⟩ := lockupWrite_keeps manager _ _ row
      rcases hcases with h | h | h <;> rw [h] at hstatus
      · exact hold hstatus
      · exact absurd hstatus (by decide)
      · exact absurd hstatus (by decide)
    | pay hget hphase => exact hhandler hget (by rw [hphase]; rfl) rfl
    | storeResult hget hphase _ => exact hhandler hget (by rw [hphase]; rfl) rfl
    | serverLockup _ _ => exact absurd hstatus (by simp [UserSwap.setServerLockup, UserSwap.status])
    | flag _ => exact hold (by cases row <;> exact hstatus)

theorem signatures_step (hinv : ClaimInv manager s) (heffect : s.Effect manager op s')
    {c : Commitment} (hmem : c ∈ s'.commitments) (hid : c.swapId.isSome = true) :
    c.signature.isSome = true := by
  cases heffect with
  | link hcall hcreate =>
    obtain ⟨rfl, -, -⟩ := create_eq_some hcreate
    rcases List.mem_append.mp hmem with hold | hnew
    · exact hinv.signatures c hold hid
    · obtain rfl := List.mem_singleton.mp hnew
      exact (hinv.call _ _ _ _ hcall).2
  | mark hcall =>
    rcases @markRefunded_cases manager _ _ _ with heq | ⟨hash, _, heq⟩
    · exact hinv.signatures c (heq ▸ hmem) hid
    · rcases mem_markRefunded (heq ▸ hmem) with
        ⟨hold, -⟩ | ⟨-, -, ⟨c₀, hmem₀, -, hswap, hsig⟩ | ⟨hnone, -⟩⟩
      · exact hinv.signatures c hold hid
      · rw [hsig]
        exact hinv.signatures c₀ hmem₀ (hswap ▸ hid)
      · rw [hnone] at hid
        exact absurd hid Bool.false_ne_true
  | _ => exact hinv.signatures c hmem hid

/-- The row that a commit is about to store. -/
theorem call_step (hinv : ClaimInv manager s) (heffect : s.Effect manager op s') {number : Nat}
    {request : CommitRequest} {c : CommitLockup} {commitment : Commitment}
    (hcall : s'.call = some (.commit number request (.checked c commitment))) :
    commitment.swapId = some request.swapId ∧ commitment.signature.isSome = true := by
  cases heffect with
  | moveCommit _ hmove =>
    cases hmove with
    | checked hcheck =>
      obtain ⟨rfl, -⟩ := Commitments.of_checkCommit manager hcheck
      cases hcall
      exact ⟨rfl, rfl⟩
    | _ => cases hcall
  | restart => cases hcall
  | commit _ => cases hcall
  | throwCommit _ _ => cases hcall
  | link _ _ => cases hcall
  | handOver _ => cases hcall
  | refund _ => cases hcall
  | endRefund _ => cases hcall
  | moveRefund _ _ => cases hcall
  | flag _ _ => cases hcall
  | mark _ => cases hcall
  | sign _ => cases hcall
  | _ => exact hinv.call _ _ _ _ hcall

theorem claimInv_step (s : State) (op : Op) (s' : State) (hinv : ClaimInv manager s)
    (hadmits : s.storesFitting manager op = true) (hstep : s.step manager op = some s') :
    ClaimInv manager s' := by
  have heffect := effect_of_step hstep
  refine ⟨(commitments_of_effect heffect).unique hinv.unique,
    fun c hmem hid => signatures_step hinv heffect hmem hid,
    fun _ _ _ _ hcall => call_step hinv heffect hcall,
    fun id row lockup hrow hlockup => hinv.recorded_step heffect hadmits hrow hlockup, ?_, ?_, ?_,
    fun id row hrow hstatus => hinv.pending_step heffect hrow hstatus⟩
  · intro id lockup hin
    have hkept : .acted id lockup ∈ s.history →
        ∃ l, lockup = some l ∧ Fitting manager s' id l := by
      intro hold
      obtain ⟨l, hl, hfit⟩ := hinv.acted id lockup hold
      exact ⟨l, hl, hinv.fitting heffect hadmits hfit⟩
    rcases history_of_effect heffect with heq | ⟨e, heq, hrec⟩ <;> rw [heq] at hin
    · exact hkept hin
    rcases List.mem_cons.mp hin with hnew | hold
    · subst hnew
      cases hrec with
      | acted hmem hphase =>
        have hok := (hinv.handlers _ hmem).2
        rcases hphase with hp | hp <;> rw [hp] at hok <;> obtain ⟨l, hl, hfit⟩ := hok <;>
          exact ⟨l, hl, hinv.fitting heffect hadmits hfit⟩
    · exact hkept hold
  · intro h hmem
    exact ((handler_of_effect heffect hmem).ok hinv).step hinv heffect hadmits
  · intro id hmem
    rcases holds_of_effect heffect hmem with hold | ⟨h, hh, rfl, hpast⟩
    · exact (hinv.holds id hold).step heffect
    · exact (locked_of_pastRead (hinv.handlers h hh) hpast).step heffect

/-! ## The lookup of a lockup that fits -/

theorem query_of_filter {hashValues : Contract → SwapValues → Nat} {receipt : Receipt SwapValues}
    {contract : Contract} {identifier : LockupIdentifier} {index : Nat} {log : Log SwapValues}
    (hfilter : receipt.logs.filter (fun l => some index == some l.index) = [log])
    (hcontract : isLockupOf contract log = true)
    (haccepts : identifier.accepts hashValues contract log.values = true) :
    querySwapValuesFromLock hashValues (some receipt) contract (some identifier) (some index) =
      some { logIndex := log.index, values := log.values } := by
  have hfind : findLockups hashValues receipt contract (some identifier) (some index) =
      [{ logIndex := log.index, values := log.values }] := by
    have hsplit : (fun l : Log SwapValues => (some index).all (l.index == ·) &&
        isLockupOf contract l && (some identifier).all (·.accepts hashValues contract l.values)) =
        fun l => (isLockupOf contract l && identifier.accepts hashValues contract l.values) &&
          (some index == some l.index) := by
      funext l
      have hindex : (some index == some l.index) = (l.index == index) := by
        by_cases h : l.index = index
        · subst h
          simp only [beq_self_eq_true]
        · rw [beq_eq_false_iff_ne.mpr h]
          exact beq_eq_false_iff_ne.mpr fun heq => h (Option.some.inj heq).symm
      rw [hindex, Option.all_some, Option.all_some, Bool.and_assoc, Bool.and_comm]
    unfold findLockups
    rw [hsplit, ← List.filter_filter, hfilter]
    simp [hcontract, haccepts]
  simp only [querySwapValuesFromLock, Option.bind_some, hfind]
  rfl

theorem ClaimInv.claimable (hinv : ClaimInv manager s) (h : Fitting manager s id lockup) :
    s.Claimable manager id lockup := by
  obtain ⟨row, hrow, -, hfits⟩ := h.fits
  unfold State.fits at hfits
  split at hfits
  swap
  · exact absurd hfits Bool.false_ne_true
  rename_i contract log hcontract hlog
  simp only [Bool.and_eq_true] at hfits
  obtain ⟨hof, hidentifies⟩ := hfits
  obtain ⟨logs, hlogs, hmatch⟩ := Option.bind_eq_some_iff.mp hlog
  obtain ⟨receipt, hreceipt, rfl⟩ := Option.map_eq_some_iff.mp hlogs
  split at hmatch
  swap
  · exact absurd hmatch (Option.some_ne_none _).symm
  rename_i log' hfilter
  obtain rfl := Option.some.inj hmatch
  have hmem : log' ∈ receipt.logs.filter fun log => lockup.vout == some log.index := by
    rw [hfilter]
    exact List.mem_singleton_self _
  obtain ⟨hin, hindex⟩ := List.mem_filter.mp hmem
  have hvout : lockup.vout = some log'.index := by simpa using hindex
  rw [hvout] at hfilter
  refine ⟨row, contract, receipt, log', hrow, hcontract, hreceipt, hin, hvout, hof, ?_⟩
  rw [hvout]
  unfold identifies at hidentifies
  cases hlinked : CommitmentRepository.getBySwapId s.commitments id with
  | some c =>
    obtain ⟨hmemc, hid⟩ := of_getBySwapId hlinked
    rw [hlinked] at hidentifies
    simp only [Option.map_some, Bool.and_eq_true, beq_iff_eq] at hidentifies
    obtain ⟨hhash, hzero⟩ := hidentifies
    have hsig := hinv.signatures c hmemc (by rw [hid]; rfl)
    refine ⟨query_of_filter hfilter hof ?_, ?_, fun signature hsignature => ⟨c, hmemc, hhash.symm,
      hid, ?_⟩⟩
    · simp only [getIdentifier, hlinked, LockupIdentifier.accepts, beq_iff_eq]
      exact hhash
    · simp only [claimSignature, hlinked, Option.bind_some]
      exact ⟨fun _ => hzero, fun _ => hsig⟩
    · simpa only [claimSignature, hlinked, Option.bind_some] using hsignature
  | none =>
    rw [hlinked] at hidentifies
    simp only [Option.map_none, Bool.and_eq_true, beq_iff_eq, Bool.not_eq_true'] at hidentifies
    obtain ⟨hhash, hzero⟩ := hidentifies
    refine ⟨query_of_filter hfilter hof ?_, ?_, fun signature hsignature => ?_⟩
    · simp only [getIdentifier, hlinked, LockupIdentifier.accepts, beq_iff_eq]
      exact hhash
    · simp only [claimSignature, hlinked, Option.bind_none, Option.isSome_none, hzero,
        Bool.false_eq_true]
    · simp only [claimSignature, hlinked, Option.bind_none] at hsignature
      exact absurd hsignature (Option.some_ne_none _).symm

/-- When commits come first, and only lockups that fit their swap are recorded, the server can claim
every lockup that it paid for, and the one that is recorded. -/
theorem paid_lockups_claimable (manager : EthereumManager) (time height : Nat)
    (receipts : Nat → Option (Receipt SwapValues)) (ops : List Op) (s : State)
    (hrun : runFrom (step manager) (storesFitting manager) (start time height receipts) ops =
      some s) (id : Nat) (lockup : Option LockupIdentity) (hacted : .acted id lockup ∈ s.history) :
    (∃ l, lockup = some l ∧ s.Claimable manager id l) ∧
      ∀ row l, s.swaps id = some row → row.lockup = some l → s.Claimable manager id l := by
  have hstart : ClaimInv manager (start time height receipts) :=
    { unique := ⟨nofun, nofun⟩
      signatures := nofun
      call := fun _ _ _ _ h => absurd h (Option.some_ne_none _).symm
      recorded := fun _ _ _ h => absurd h (Option.some_ne_none _).symm
      acted := fun _ _ h => absurd h List.not_mem_nil
      handlers := fun _ h => absurd h List.not_mem_nil
      holds := fun _ h => absurd h List.not_mem_nil
      pending := fun _ _ h => absurd h (Option.some_ne_none _).symm }
  have hinv := invariant_of_runFrom claimInv_step hstart hrun
  obtain ⟨l, hl, hfit⟩ := hinv.acted id lockup hacted
  exact ⟨⟨l, hl, hinv.claimable hfit⟩,
    fun row l hrow hlock => hinv.claimable (hinv.recorded id row l hrow hlock)⟩

end Proofs

/-! ## A commitment after the lockup -/

section Examples

def regularLog : Log SwapValues where
  name := .ethLockup
  version := 5
  index := 3
  values :=
    { preimageHash := 7, amount := 10 ^ 15, claimAddress := 100, refundAddress := 200,
      timelock := 1000 }

/-- Transaction 11 has a commitment lockup, and 12 a regular one for the same swap. -/
def lockedTwice (txHash : Nat) : Option (Receipt SwapValues) :=
  if txHash = 12 then some { blockNumber := some 5, status := 1, logs := [regularLog] }
  else lockedIn11 txHash

/-- The lockup of transaction 12 is recorded and the invoice paid. -/
def regularRun : List Op :=
  [.createSwap 1 createdSwap, .setInvoice 1 70 100000, .contractEvent 12 3, .listen 0 1,
    .record 0 true, .handler 0 .fetch, .handler 0 .settle, .handler 0 .pay, .handler 0 .send]

def lateCommitRun : List Op := regularRun ++ [.commit commitTo11] ++ List.replicate 6 .advance

theorem committed_after_payment : ∃ s,
    runFrom (step exampleManager) (fun _ _ => true) (start 0 10 lockedTwice) lateCommitRun =
      some s ∧ .acted 1 (some ⟨12, some 3⟩) ∈ s.history ∧
      ∀ row, s.swaps 1 = some row → row.lockup = some ⟨12, some 3⟩ ∧
        s.queryLockup exampleManager 1 row = none := by
  have hrun : ((runFrom (step exampleManager) (fun _ _ => true) (start 0 10 lockedTwice)
      lateCommitRun).map fun s =>
        (decide (.acted 1 (some ⟨12, some 3⟩) ∈ s.history), (s.swaps 1).map fun row =>
          (row.lockup, s.queryLockup exampleManager 1 row))) =
        some (true, some (some ⟨12, some 3⟩, none)) := by decide +kernel
  obtain ⟨s, hs, hout⟩ := Option.map_eq_some_iff.mp hrun
  obtain ⟨hacted, hrow⟩ := Prod.mk.inj hout
  refine ⟨s, hs, of_decide_eq_true hacted, fun row h => ?_⟩
  rw [h] at hrow
  exact Prod.mk.inj (Option.some.inj hrow)

/-- A commitment that is recorded and paid. -/
def commitmentRun : List Op :=
  committedRun ++ [.listen 0 1, .record 0 true, .handler 0 .fetch, .handler 0 .settle,
    .handler 0 .pay, .handler 0 .send]

theorem paid_commitment_claimable : ∃ s,
    runFrom (step exampleManager) (storesFitting exampleManager) (start 0 10 lockedTwice)
      commitmentRun = some s ∧ s.Claimable exampleManager 1 ⟨11, some 0⟩ := by
  have hrun : ((runFrom (step exampleManager) (storesFitting exampleManager)
      (start 0 10 lockedTwice) commitmentRun).map fun s =>
        decide (.acted 1 (some ⟨11, some 0⟩) ∈ s.history)) = some true := by decide +kernel
  obtain ⟨s, hs, hacted⟩ := Option.map_eq_some_iff.mp hrun
  obtain ⟨⟨l, hl, hclaimable⟩, -⟩ := paid_lockups_claimable exampleManager 0 10 lockedTwice
    commitmentRun s hs 1 (some ⟨11, some 0⟩) (of_decide_eq_true hacted)
  exact ⟨s, hs, Option.some.inj hl ▸ hclaimable⟩

end Examples

end State

end Boltz.Ethereum
