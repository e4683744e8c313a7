import Boltz.Ethereum.ConfirmationTracker

/-!
# Every sent lockup is settled

Transactions that are tracked stay pending until the provider has a receipt of them, whatever calls
and scans run at the same time. A scan also gets to those that are tracked while it runs.
-/

namespace Boltz.ConfirmationTracker

open Async

variable {s s' : State} {network hash : String} {settling : List String}

/-! ## Books -/

/-- The swap was tracked with the transaction, and the provider has the receipt. -/
def Settlement.Known (s : State) (settlement : Settlement) : Prop :=
  (settlement.transactionHash, settlement.swap) ∈ s.tracked ∧
    (settlement.transactionHash, some settlement.receipt) ∈ s.receipts

/-- In how many places a transaction is, when a scan is settling some. -/
def State.copies (s : State) (settling : List String) (hash : String) : Nat :=
  (if s.pendingTransactions.has hash then 1 else 0) + settling.count hash +
    s.events.countP (fun event => event.1 = hash) + s.notSet.count hash

def State.timesTracked (s : State) (hash : String) : Nat :=
  s.tracked.countP fun entry => entry.1 = hash

/-- What holds of everything but the scans. -/
structure Books (s : State) (settling : List String) : Prop where
  pending : ∀ {entry}, some entry ∈ s.pendingTransactions.slots → entry ∈ s.tracked
  events : ∀ {hash event}, (hash, event) ∈ s.events → ∃ settlement : Settlement,
    settlement.Known s ∧ settlement.transactionHash = hash ∧
      event = settlement.event s.network ∧ (settlement.swap, settlement.status) ∈ s.statuses
  copies_le : ∀ hash, s.copies settling hash ≤ s.timesTracked hash
  copies_pos : ∀ hash, 0 < s.timesTracked hash → 0 < s.copies settling hash

theorem Settlement.Known.mono {settlement : Settlement} (h : settlement.Known s)
    (htracked : s.tracked ⊆ s'.tracked) (hreceipts : s.receipts ⊆ s'.receipts) :
    settlement.Known s' :=
  ⟨htracked h.1, hreceipts h.2⟩

theorem Books.init (network : String) : Books (.init network) [] where
  pending h := absurd h List.not_mem_nil
  events h := absurd h List.not_mem_nil
  copies_le _ := Nat.le_refl 0
  copies_pos _ h := absurd h (Nat.lt_irrefl 0)

theorem Books.withScans (h : Books s settling) (scanning : Bool) (scans : List Scan) :
    Books { s with scanning := scanning, scans := scans } settling :=
  ⟨h.pending, h.events, h.copies_le, h.copies_pos⟩

theorem Books.withReceipt (h : Books s settling) (hash : String)
    (answer : Option TransactionReceipt) :
    Books { s with receipts := s.receipts ++ [(hash, answer)] } settling where
  pending := h.pending
  events hevent := by
    obtain ⟨settlement, hknown, hsame⟩ := h.events hevent
    exact ⟨settlement, hknown.mono (List.Subset.refl _) (List.subset_append_left _ _), hsame⟩
  copies_le := h.copies_le
  copies_pos := h.copies_pos

theorem timesTracked_append (s : State) (pending : OrderedMap String SentSwap)
    (swap : SentSwap) (other : String) :
    { s with pendingTransactions := pending, tracked := s.tracked ++ [(hash, swap)] }.timesTracked
      other = s.timesTracked other + if hash = other then 1 else 0 := by
  unfold State.timesTracked
  rw [List.countP_append, List.countP_singleton]
  simp only [decide_eq_true_eq]

theorem Books.track (h : Books s settling) (hash : String) (swap : SentSwap) :
    Books
      { s with
        pendingTransactions := s.pendingTransactions.set hash swap
        tracked := s.tracked ++ [(hash, swap)] } settling where
  pending hentry := by
    rcases OrderedMap.mem_set hentry with rfl | ⟨-, hold⟩
    · exact List.mem_append_right _ (List.mem_singleton_self _)
    · exact List.mem_append_left _ (h.pending hold)
  events hevent := by
    obtain ⟨settlement, hknown, hsame⟩ := h.events hevent
    exact ⟨settlement, hknown.mono (List.subset_append_left _ _) (List.Subset.refl _), hsame⟩
  copies_le other := by
    have hle := h.copies_le other
    rw [timesTracked_append]
    unfold State.copies at hle ⊢
    dsimp only
    by_cases hsame : hash = other
    · subst hsame
      rw [OrderedMap.has_set_self, if_pos rfl, if_pos rfl]
      omega
    · rwa [OrderedMap.has_set_of_ne (Ne.symm hsame), if_neg hsame]
  copies_pos other hpos := by
    rw [timesTracked_append] at hpos
    by_cases hsame : hash = other
    · subst hsame
      unfold State.copies
      dsimp only
      rw [OrderedMap.has_set_self, if_pos rfl]
      omega
    · rw [if_neg hsame] at hpos
      have hold := h.copies_pos other hpos
      unfold State.copies at hold ⊢
      dsimp only
      rwa [OrderedMap.has_set_of_ne (Ne.symm hsame)]

/-- A transaction with a receipt is not pending anymore. -/
theorem Books.delete (h : Books s []) (hhash : s.pendingTransactions.has hash = true) :
    Books { s with pendingTransactions := s.pendingTransactions.delete hash } [hash] := by
  have hcopies : ∀ other,
      { s with pendingTransactions := s.pendingTransactions.delete hash }.copies [hash] other =
        s.copies [] other := by
    intro other
    unfold State.copies
    dsimp only
    by_cases hsame : hash = other
    · subst hsame
      rw [OrderedMap.has_delete_self, hhash, List.count_singleton_self, List.count_nil,
        if_neg Bool.false_ne_true, if_pos rfl]
    · rw [OrderedMap.has_delete_of_ne (Ne.symm hsame), List.count_nil,
        List.count_eq_zero_of_not_mem fun hmem => hsame (List.mem_singleton.mp hmem).symm]
  exact
    { pending := fun hentry => h.pending (OrderedMap.mem_delete hentry).2
      events := h.events
      copies_le := fun other => hcopies other ▸ h.copies_le other
      copies_pos := fun other hpos => hcopies other ▸ h.copies_pos other hpos }

theorem Books.settle {settlement : Settlement} (h : Books s [settlement.transactionHash])
    (hknown : settlement.Known s) :
    Books
      { s with
        statuses := s.statuses ++ [(settlement.swap, settlement.status)]
        events := s.events ++ [(settlement.transactionHash, settlement.event s.network)] } [] := by
  have hcopies : ∀ other,
      { s with
        statuses := s.statuses ++ [(settlement.swap, settlement.status)]
        events := s.events ++
          [(settlement.transactionHash, settlement.event s.network)] }.copies [] other =
        s.copies [settlement.transactionHash] other := by
    intro other
    unfold State.copies
    dsimp only
    rw [List.countP_append, List.countP_singleton, List.count_singleton, List.count_nil]
    simp only [beq_iff_eq, decide_eq_true_eq]
    omega
  refine
    { pending := h.pending
      events := fun {other event} hevent => ?_
      copies_le := fun other => hcopies other ▸ h.copies_le other
      copies_pos := fun other hpos => hcopies other ▸ h.copies_pos other hpos }
  rcases List.mem_append.mp hevent with hevent | hevent
  · obtain ⟨old, hold, hsame, heq, hstatus⟩ := h.events hevent
    exact ⟨old, hold, hsame, heq, List.mem_append_left _ hstatus⟩
  · obtain ⟨rfl, rfl⟩ := Prod.mk.inj (List.mem_singleton.mp hevent)
    exact ⟨settlement, hknown, rfl, rfl, List.mem_append_right _ (List.mem_singleton_self _)⟩

theorem Books.giveUp (h : Books s [hash]) :
    Books { s with notSet := s.notSet ++ [hash] } [] := by
  have hcopies : ∀ other,
      { s with notSet := s.notSet ++ [hash] }.copies [] other = s.copies [hash] other := by
    intro other
    unfold State.copies
    dsimp only
    rw [List.count_append, List.count_nil]
    omega
  exact
    { pending := h.pending
      events := h.events
      copies_le := fun other => hcopies other ▸ h.copies_le other
      copies_pos := fun other hpos => hcopies other ▸ h.copies_pos other hpos }

/-! ## Scans -/

/-- At most one scan runs. -/
inductive Inv (s : State) : Prop where
  | idle (hscanning : s.scanning = false) (hscans : s.scans = []) (hbooks : Books s [])
  | asking {cursor : Nat} {hash : String} {swap : SentSwap} (hscanning : s.scanning = true)
      (hscans : s.scans = [{ cursor := cursor, stage := .getReceipt hash swap }])
      (hcursor : cursor ≤ s.pendingTransactions.slots.length)
      (hhas : s.pendingTransactions.has hash = true) (htracked : (hash, swap) ∈ s.tracked)
      (hbooks : Books s [])
  | settling {cursor : Nat} {settlement : Settlement} (hscanning : s.scanning = true)
      (hscans : s.scans = [{ cursor := cursor, stage := .setStatus settlement }])
      (hcursor : cursor ≤ s.pendingTransactions.slots.length) (hknown : settlement.Known s)
      (hbooks : Books s [settlement.transactionHash])

/-- A scan that starts or goes on. -/
theorem Books.asking (h : Books s []) {cursor : Nat} {scan : Scan}
    (hnext : s.nextScan cursor = some scan) :
    Inv { s with scanning := true, scans := [scan] } := by
  obtain ⟨⟨entry, cursor'⟩, hentry, rfl⟩ := Option.map_eq_some_iff.mp hnext
  exact .asking rfl rfl (OrderedMap.cursor_le_of_next hentry)
    (OrderedMap.has_of_mem (OrderedMap.mem_of_next hentry))
    (h.pending (OrderedMap.mem_of_next hentry)) (h.withScans _ _)

theorem Books.goOn (h : Books s []) {scan : Scan} (hscanning : s.scanning = true)
    (hscans : s.scans = [scan]) (cursor : Nat) : Inv (s.goOn 0 cursor) := by
  unfold State.goOn
  split
  · rename_i next hnext
    rw [hscans]
    have hinv := h.asking hnext
    rwa [← hscanning] at hinv
  · refine .idle rfl ?_ (h.withScans _ _)
    unfold State.endScan
    dsimp only
    rw [hscans]
    rfl

theorem Inv.scanPendingTransactions (hi : Inv s) : Inv s.scanPendingTransactions := by
  unfold State.scanPendingTransactions
  split
  · exact hi
  · rename_i hstart
    split
    · rename_i scan hscan
      cases hi with
      | idle hscanning hscans hbooks =>
        rw [hscans]
        exact hbooks.asking hscan
      | asking hscanning => exact absurd (by rw [hscanning]; rfl) hstart
      | settling hscanning => exact absurd (by rw [hscanning]; rfl) hstart
    · exact hi

theorem Inv.track (hi : Inv s) (swap : SentSwap) (hash : String) :
    Inv (s.trackTransaction swap hash) := by
  refine Inv.scanPendingTransactions ?_
  cases hi with
  | idle hscanning hscans hbooks => exact .idle hscanning hscans (hbooks.track hash swap)
  | asking hscanning hscans hcursor hhas htracked hbooks =>
    refine .asking hscanning hscans (Nat.le_trans hcursor OrderedMap.length_le_set) ?_
      (List.mem_append_left _ htracked) (hbooks.track hash swap)
    obtain ⟨i, hat⟩ := OrderedMap.exists_at hhas
    exact hat.set.has
  | settling hscanning hscans hcursor hknown hbooks =>
    exact .settling hscanning hscans (Nat.le_trans hcursor OrderedMap.length_le_set)
      (hknown.mono (List.subset_append_left _ _) (List.Subset.refl _)) (hbooks.track hash swap)

/-- The only scan, when it waits for a receipt. -/
theorem Inv.at_getReceipt (hi : Inv s) {i cursor : Nat} {swap : SentSwap}
    (hscan : s.scans[i]? = some { cursor := cursor, stage := .getReceipt hash swap }) :
    i = 0 ∧ s.scanning = true ∧
      s.scans = [{ cursor := cursor, stage := .getReceipt hash swap }] ∧
      cursor ≤ s.pendingTransactions.slots.length ∧ s.pendingTransactions.has hash = true ∧
      (hash, swap) ∈ s.tracked ∧ Books s [] := by
  cases hi with
  | idle _ hscans =>
    rw [hscans] at hscan
    cases hscan
  | asking hscanning hscans hcursor hhas htracked hbooks =>
    rw [hscans] at hscan
    obtain ⟨rfl, ⟨⟩⟩ := getElem?_singleton_cases hscan
    exact ⟨rfl, hscanning, hscans, hcursor, hhas, htracked, hbooks⟩
  | settling _ hscans =>
    rw [hscans] at hscan
    obtain ⟨-, ⟨⟩⟩ := getElem?_singleton_cases hscan

/-- The only scan, when it waits for the database. -/
theorem Inv.at_setStatus (hi : Inv s) {i cursor : Nat} {settlement : Settlement}
    (hscan : s.scans[i]? = some { cursor := cursor, stage := .setStatus settlement }) :
    i = 0 ∧ s.scanning = true ∧ s.scans = [{ cursor := cursor, stage := .setStatus settlement }] ∧
      settlement.Known s ∧ Books s [settlement.transactionHash] := by
  cases hi with
  | idle _ hscans =>
    rw [hscans] at hscan
    cases hscan
  | asking _ hscans =>
    rw [hscans] at hscan
    obtain ⟨-, ⟨⟩⟩ := getElem?_singleton_cases hscan
  | settling hscanning hscans hcursor hknown hbooks =>
    rw [hscans] at hscan
    obtain ⟨rfl, ⟨⟩⟩ := getElem?_singleton_cases hscan
    exact ⟨rfl, hscanning, hscans, hknown, hbooks⟩

theorem Inv.step (hi : Inv s) {op : Op} (h : step s op = some s') : Inv s' := by
  cases op with
  | trackTransaction swap hash =>
    cases h
    exact hi.track swap hash
  | scanPendingTransactions =>
    cases h
    exact hi.scanPendingTransactions
  | noReceipt i =>
    simp only [ConfirmationTracker.step] at h
    split at h
    · rename_i cursor hash swap hscan
      cases h
      obtain ⟨rfl, hscanning, hscans, -, -, -, hbooks⟩ := hi.at_getReceipt hscan
      exact (hbooks.withReceipt hash none).goOn hscanning hscans cursor
    · cases h
  | receipt i receipt =>
    simp only [ConfirmationTracker.step] at h
    split at h
    · rename_i cursor hash swap hscan
      cases h
      obtain ⟨rfl, hscanning, hscans, hcursor, hhas, htracked, hbooks⟩ := hi.at_getReceipt hscan
      rw [hscans]
      refine .settling hscanning rfl ?_
        ⟨htracked, List.mem_append_right _ (List.mem_singleton_self _)⟩
        (((hbooks.withReceipt hash (some receipt)).delete hhas).withScans _ _)
      rwa [OrderedMap.length_delete]
    · cases h
  | statusSet i =>
    simp only [ConfirmationTracker.step] at h
    split at h
    · rename_i cursor settlement hscan
      cases h
      obtain ⟨rfl, hscanning, hscans, hknown, hbooks⟩ := hi.at_setStatus hscan
      exact (hbooks.settle hknown).goOn hscanning hscans cursor
    · cases h
  | statusNotSet i =>
    simp only [ConfirmationTracker.step] at h
    split at h
    · rename_i settlement hscan
      cases h
      obtain ⟨rfl, -, hscans, -, hbooks⟩ := hi.at_setStatus hscan
      refine .idle rfl ?_ (hbooks.giveUp.withScans _ _)
      unfold State.endScan
      dsimp only
      rw [hscans]
      rfl
    · cases h

theorem network_scanPendingTransactions (s : State) :
    s.scanPendingTransactions.network = s.network := by
  unfold State.scanPendingTransactions
  split
  · rfl
  · split
    · rfl
    · rfl

theorem network_goOn (s : State) (i cursor : Nat) : (s.goOn i cursor).network = s.network := by
  unfold State.goOn
  split
  · rfl
  · rfl

theorem network_step {op : Op} (h : step s op = some s') : s'.network = s.network := by
  cases op with
  | trackTransaction swap hash =>
    cases h
    exact network_scanPendingTransactions _
  | scanPendingTransactions =>
    cases h
    exact network_scanPendingTransactions s
  | noReceipt i | statusSet i =>
    simp only [step] at h
    split at h
    · cases h
      exact network_goOn _ _ _
    · cases h
  | receipt i _ | statusNotSet i =>
    simp only [step] at h
    split at h
    · cases h
      rfl
    · cases h

/-- Any operation. -/
def anyOp : State → Op → Bool := fun _ _ => true

theorem inv_of_run {ops : List Op} (h : runFrom step anyOp (.init network) ops = some s) :
    Inv s :=
  invariant_of_runFrom (fun _ _ _ hi _ h => hi.step h)
    (.idle rfl rfl (Books.init network)) h

theorem network_of_run {ops : List Op} (h : runFrom step anyOp (.init network) ops = some s) :
    s.network = network :=
  invariant_of_runFrom (fun _ _ _ hi _ h => (network_step h).trans hi) rfl h

/-- The transactions that are being settled. -/
def State.inSettlement (s : State) : List String :=
  s.scans.filterMap fun scan =>
    match scan.stage with
    | .setStatus settlement => some settlement.transactionHash
    | .getReceipt _ _ => none

/-- There is at most one scan. A transaction that was tracked is pending, being settled or settled,
unless the status of its swap could not be set, and none of these more often than it was tracked.
What is emitted and stored about it is what its receipt says. -/
theorem lockups_settled_once {ops : List Op}
    (h : runFrom step anyOp (.init network) ops = some s) :
    s.scans.length ≤ 1 ∧
      (∀ hash, 0 < s.timesTracked hash → 0 < s.copies s.inSettlement hash) ∧
      (∀ hash, s.copies s.inSettlement hash ≤ s.timesTracked hash) ∧
      ∀ hash event, (hash, event) ∈ s.events → ∃ settlement : Settlement,
        settlement.Known s ∧ settlement.transactionHash = hash ∧
          event = settlement.event network ∧
          (settlement.swap, settlement.status) ∈ s.statuses := by
  have hnetwork := network_of_run h
  have hbooks : s.scans.length ≤ 1 ∧ Books s s.inSettlement := by
    unfold State.inSettlement
    cases inv_of_run h with
    | idle _ hscans hbooks =>
      rw [hscans]
      exact ⟨Nat.zero_le 1, hbooks⟩
    | asking _ hscans _ _ _ hbooks =>
      rw [hscans]
      exact ⟨Nat.le_refl 1, hbooks⟩
    | settling _ hscans _ _ hbooks =>
      rw [hscans]
      exact ⟨Nat.le_refl 1, hbooks⟩
  obtain ⟨hlength, hbooks⟩ := hbooks
  exact ⟨hlength, hbooks.copies_pos, hbooks.copies_le,
    fun hash event hevent => hnetwork ▸ hbooks.events hevent⟩

/-- A transaction that is tracked while a scan asks for another one. -/
def exampleRun : List Op :=
  [.trackTransaction { id := 1, type := .reverseSubmarine } "a",
    .trackTransaction { id := 2, type := .chain } "b"]

theorem lockups_settled_once_example : ∃ s : State,
    runFrom step anyOp (.init "RSK")
      (exampleRun ++ [.receipt 0 { status := some 1 }, .statusSet 0]) = some s ∧
      0 < s.copies s.inSettlement "a" ∧ s.copies s.inSettlement "a" ≤ 1 := by
  obtain ⟨s, hrun, htimes⟩ : ∃ s, runFrom step anyOp (.init "RSK")
      (exampleRun ++ [.receipt 0 { status := some 1 }, .statusSet 0]) = some s ∧
      s.timesTracked "a" = 1 := ⟨_, rfl, rfl⟩
  obtain ⟨-, hpos, hle, -⟩ := lockups_settled_once hrun
  exact ⟨s, hrun, hpos "a" (htimes ▸ Nat.one_pos), htimes ▸ hle "a"⟩

/-! ## What a scan gets to -/

/-- The scan asks for the transaction, or has not got to it yet. -/
def State.Covers (s : State) (hash : String) : Prop :=
  ∃ scan ∈ s.scans, (∃ swap, scan.stage = .getReceipt hash swap) ∨
    ∃ i, scan.cursor ≤ i ∧ s.pendingTransactions.At i hash

/-- How often the provider has answered about a transaction. -/
def State.answers (s : State) (hash : String) : Nat :=
  s.receipts.countP fun answer => answer.1 = hash

/-- Since a state the provider has answered about the transaction, or a status could not be set. -/
def State.CheckedSince (s : State) (before : State) (hash : String) : Prop :=
  before.answers hash < s.answers hash ∨ before.notSet.length < s.notSet.length ∨ s.Covers hash

section

variable {i cursor : Nat} {scan : Scan}

/-- What the scan that goes on gets to. -/
theorem covers_of_next (hat : s.pendingTransactions.At i hash) (hle : cursor ≤ i)
    (hnext : s.nextScan cursor = some scan) (hmem : scan ∈ s'.scans)
    (hpending : s'.pendingTransactions = s.pendingTransactions) : s'.Covers hash := by
  obtain ⟨⟨entry, cursor'⟩, hentry, rfl⟩ := Option.map_eq_some_iff.mp hnext
  refine ⟨_, hmem, ?_⟩
  rcases hat.of_next hle hentry with rfl | hle
  · exact .inl ⟨entry.2, rfl⟩
  · exact .inr ⟨i, hle, hpending ▸ hat⟩

theorem nextScan_ne_none (hat : s.pendingTransactions.At i hash) (hle : cursor ≤ i) :
    s.nextScan cursor ≠ none :=
  fun hnone => hat.next_ne_none hle (Option.map_eq_none_iff.mp hnone)

theorem covers_goOn (hat : s.pendingTransactions.At i hash) (hle : cursor ≤ i)
    (hscans : s.scans = [scan]) : (s.goOn 0 cursor).Covers hash := by
  unfold State.goOn
  split
  · rename_i next hnext
    refine covers_of_next hat hle hnext ?_ rfl
    rw [hscans]
    exact List.mem_singleton_self next
  · rename_i hnone
    exact absurd hnone (nextScan_ne_none hat hle)

/-- A scan that starts gets to all pending transactions. -/
theorem covers_scanPendingTransactions (hat : s.pendingTransactions.At i hash)
    (hscanning : s.scanning = false) : s.scanPendingTransactions.Covers hash := by
  unfold State.scanPendingTransactions
  rw [hscanning, OrderedMap.isEmpty_eq_false hat.has, Bool.or_self, if_neg Bool.false_ne_true]
  split
  · rename_i next hnext
    exact covers_of_next hat (Nat.zero_le i) hnext
      (List.mem_append_right _ (List.mem_singleton_self next)) rfl
  · rename_i hnone
    exact absurd hnone (nextScan_ne_none hat (Nat.zero_le i))

theorem scanPendingTransactions_of_scanning (h : s.scanning = true) :
    s.scanPendingTransactions = s := by
  unfold State.scanPendingTransactions
  rw [h, Bool.true_or, if_pos rfl]

theorem scanning_of_covers (hi : Inv s) (h : s.Covers hash) : s.scanning = true := by
  obtain ⟨scan, hscan, -⟩ := h
  cases hi with
  | idle _ hscans =>
    rw [hscans] at hscan
    cases hscan
  | asking hscanning => exact hscanning
  | settling hscanning => exact hscanning

/-- A transaction that is tracked for the first time is behind all scans. -/
theorem covers_trackTransaction (hi : Inv s) (swap : SentSwap)
    (hnew : s.pendingTransactions.has hash = false) :
    (s.trackTransaction swap hash).Covers hash := by
  have hat : (s.pendingTransactions.set hash swap).At s.pendingTransactions.slots.length hash :=
    OrderedMap.at_set_new hnew
  unfold State.trackTransaction
  cases hi with
  | idle hscanning =>
    exact covers_scanPendingTransactions (i := s.pendingTransactions.slots.length) hat hscanning
  | asking hscanning hscans hcursor =>
    have hsame := scanPendingTransactions_of_scanning
      (s := { s with
        pendingTransactions := s.pendingTransactions.set hash swap
        tracked := s.tracked ++ [(hash, swap)] }) hscanning
    rw [hsame]
    exact ⟨_, hscans ▸ List.mem_singleton_self _, .inr ⟨_, hcursor, hat⟩⟩
  | settling hscanning hscans hcursor =>
    have hsame := scanPendingTransactions_of_scanning
      (s := { s with
        pendingTransactions := s.pendingTransactions.set hash swap
        tracked := s.tracked ++ [(hash, swap)] }) hscanning
    rw [hsame]
    exact ⟨_, hscans ▸ List.mem_singleton_self _, .inr ⟨_, hcursor, hat⟩⟩

/-- Steps of others leave slots where they are. -/
theorem State.Covers.mono (h : s.Covers hash) (hscans : s'.scans = s.scans)
    (hat : ∀ i, s.pendingTransactions.At i hash → s'.pendingTransactions.At i hash) :
    s'.Covers hash := by
  obtain ⟨scan, hscan, hstage | ⟨i, hle, hslot⟩⟩ := h
  · exact ⟨scan, hscans ▸ hscan, .inl hstage⟩
  · exact ⟨scan, hscans ▸ hscan, .inr ⟨i, hle, hat i hslot⟩⟩

theorem receipts_goOn (s : State) (i cursor : Nat) : (s.goOn i cursor).receipts = s.receipts := by
  unfold State.goOn
  split
  · rfl
  · rfl

theorem notSet_goOn (s : State) (i cursor : Nat) : (s.goOn i cursor).notSet = s.notSet := by
  unfold State.goOn
  split
  · rfl
  · rfl

theorem receipts_scanPendingTransactions (s : State) :
    s.scanPendingTransactions.receipts = s.receipts := by
  unfold State.scanPendingTransactions
  split
  · rfl
  · split
    · rfl
    · rfl

theorem notSet_scanPendingTransactions (s : State) :
    s.scanPendingTransactions.notSet = s.notSet := by
  unfold State.scanPendingTransactions
  split
  · rfl
  · split
    · rfl
    · rfl

/-- The scan gets the answer of the provider about one transaction. -/
theorem covers_of_asked {other : String} {swap : SentSwap} (h : s.Covers hash)
    (hscans : s.scans = [{ cursor := cursor, stage := .getReceipt other swap }]) :
    other = hash ∨ ∃ i, cursor ≤ i ∧ s.pendingTransactions.At i hash := by
  obtain ⟨scan, hscan, hcovers⟩ := h
  rw [hscans] at hscan
  obtain rfl := List.mem_singleton.mp hscan
  rcases hcovers with ⟨_, hstage⟩ | hslot
  · cases hstage
    exact .inl rfl
  · exact .inr hslot

/-- What steps after a state do for a transaction. -/
structure After (s s' : State) (hash : String) : Prop where
  answers : s.answers hash ≤ s'.answers hash
  notSet : s.notSet.length ≤ s'.notSet.length
  covers : s.Covers hash → s'.CheckedSince s hash

theorem After.refl (s : State) (hash : String) : After s s hash :=
  ⟨Nat.le_refl _, Nat.le_refl _, fun h => .inr (.inr h)⟩

theorem After.trans {s₁ : State} (h : After s s₁ hash) (h' : After s₁ s' hash) :
    After s s' hash := by
  refine ⟨Nat.le_trans h.answers h'.answers, Nat.le_trans h.notSet h'.notSet, fun hcovers => ?_⟩
  rcases h.covers hcovers with hanswers | hnotSet | hcovers
  · exact .inl (Nat.lt_of_lt_of_le hanswers h'.answers)
  · exact .inr (.inl (Nat.lt_of_lt_of_le hnotSet h'.notSet))
  · rcases h'.covers hcovers with hanswers | hnotSet | hcovers
    · exact .inl (Nat.lt_of_le_of_lt h.answers hanswers)
    · exact .inr (.inl (Nat.lt_of_le_of_lt h.notSet hnotSet))
    · exact .inr (.inr hcovers)

/-- A step without an answer of the provider. -/
theorem After.silent (hreceipts : s'.receipts = s.receipts) (hnotSet : s'.notSet = s.notSet)
    (hcovers : s.Covers hash → s'.Covers hash) : After s s' hash := by
  have hanswers : s'.answers hash = s.answers hash := by
    unfold State.answers
    rw [hreceipts]
  exact ⟨Nat.le_of_eq hanswers.symm, Nat.le_of_eq (congrArg List.length hnotSet.symm),
    fun h => .inr (.inr (hcovers h))⟩

/-- The provider answers about some transaction. -/
theorem After.answered {other : String} {answer : Option TransactionReceipt}
    (hreceipts : s'.receipts = s.receipts ++ [(other, answer)]) (hnotSet : s'.notSet = s.notSet)
    (hcovers : s.Covers hash → other = hash ∨ s'.Covers hash) : After s s' hash := by
  have hanswers : s'.answers hash = s.answers hash + if other = hash then 1 else 0 := by
    unfold State.answers
    rw [hreceipts, List.countP_append, List.countP_singleton]
    simp only [decide_eq_true_eq]
  refine ⟨by omega, Nat.le_of_eq (congrArg List.length hnotSet.symm), fun h => ?_⟩
  rcases hcovers h with hsame | hcovers
  · rw [if_pos hsame] at hanswers
    exact .inl (by omega)
  · exact .inr (.inr hcovers)

theorem After.notStored {other : String} (hreceipts : s'.receipts = s.receipts)
    (hnotSet : s'.notSet = s.notSet ++ [other]) : After s s' hash := by
  have hlength : s'.notSet.length = s.notSet.length + 1 := by
    rw [hnotSet, List.length_append]
    rfl
  have hanswers : s'.answers hash = s.answers hash := by
    unfold State.answers
    rw [hreceipts]
  exact ⟨Nat.le_of_eq hanswers.symm, by omega, fun _ => .inr (.inl (by omega))⟩

theorem After.trackTransaction (hi : Inv s) (swap : SentSwap) (other hash : String) :
    After s (s.trackTransaction swap other) hash := by
  refine .silent (receipts_scanPendingTransactions _) (notSet_scanPendingTransactions _)
    fun hcovers => ?_
  have hscanning : s.scanning = true := scanning_of_covers hi hcovers
  unfold State.trackTransaction
  rw [scanPendingTransactions_of_scanning]
  · exact hcovers.mono rfl fun i hat => hat.set
  · exact hscanning

theorem After.step (hi : Inv s) (hash : String) {op : Op} (h : step s op = some s') :
    After s s' hash := by
  cases op with
  | trackTransaction swap other =>
    cases h
    exact .trackTransaction hi swap other hash
  | scanPendingTransactions =>
    cases h
    refine .silent (receipts_scanPendingTransactions s) (notSet_scanPendingTransactions s)
      fun hcovers => ?_
    rwa [scanPendingTransactions_of_scanning (scanning_of_covers hi hcovers)]
  | noReceipt i =>
    simp only [ConfirmationTracker.step] at h
    split at h
    · rename_i cursor other swap hscan
      cases h
      obtain ⟨rfl, -, hscans, -, -, -, -⟩ := hi.at_getReceipt hscan
      refine .answered (receipts_goOn _ _ _) (notSet_goOn _ _ _) fun hcovers => ?_
      rcases covers_of_asked hcovers hscans with hsame | ⟨i, hle, hat⟩
      · exact .inl hsame
      · exact .inr (covers_goOn (i := i) hat hle hscans)
    · cases h
  | receipt i receipt =>
    simp only [ConfirmationTracker.step] at h
    split at h
    · rename_i cursor other swap hscan
      cases h
      obtain ⟨rfl, -, hscans, -, -, -, -⟩ := hi.at_getReceipt hscan
      refine .answered rfl rfl fun hcovers => ?_
      rw [hscans]
      by_cases hsame : other = hash
      · exact .inl hsame
      · obtain ⟨i, hle, hat⟩ := (covers_of_asked hcovers hscans).resolve_left hsame
        exact .inr ⟨_, List.mem_singleton_self _, .inr ⟨i, hle, hat.delete (Ne.symm hsame)⟩⟩
    · cases h
  | statusSet i =>
    simp only [ConfirmationTracker.step] at h
    split at h
    · rename_i cursor settlement hscan
      cases h
      obtain ⟨rfl, -, hscans, -, -⟩ := hi.at_setStatus hscan
      refine .silent (receipts_goOn _ _ _) (notSet_goOn _ _ _) fun ⟨scan, hscan, hcovers⟩ => ?_
      rw [hscans] at hscan
      obtain rfl := List.mem_singleton.mp hscan
      rcases hcovers with ⟨_, hstage⟩ | ⟨i, hle, hat⟩
      · cases hstage
      · exact covers_goOn (i := i) hat hle hscans
    · cases h
  | statusNotSet i =>
    simp only [ConfirmationTracker.step] at h
    split at h
    · cases h
      exact .notStored rfl rfl
    · cases h

end

theorem after_of_run {ops : List Op} (hi : Inv s) (hash : String)
    (h : runFrom step anyOp s ops = some s') : Inv s' ∧ After s s' hash := by
  refine invariant_of_runFrom (fun s₁ op s₂ (hi : Inv s₁ ∧ After s s₁ hash) _ h => ?_)
    ⟨hi, .refl s hash⟩ h
  exact ⟨hi.1.step h, hi.2.trans (After.step hi.1 hash h)⟩

/-- The calls that get to a transaction: the first one that tracks it, and any scan that starts
while it is pending. -/
def Reaches (s : State) (hash : String) : Op → Prop
  | .trackTransaction _ transactionHash =>
    transactionHash = hash ∧ s.pendingTransactions.has hash = false
  | .scanPendingTransactions => s.scanning = false ∧ s.pendingTransactions.has hash = true
  | _ => False

theorem Reaches.covers (hi : Inv s) {op : Op} (hop : Reaches s hash op)
    (h : step s op = some s') : s'.Covers hash := by
  cases op with
  | trackTransaction swap other =>
    cases h
    obtain ⟨rfl, hnew⟩ := hop
    exact covers_trackTransaction hi swap hnew
  | scanPendingTransactions =>
    cases h
    obtain ⟨hscanning, hhas⟩ := hop
    obtain ⟨i, hat⟩ := OrderedMap.exists_at hhas
    exact covers_scanPendingTransactions hat hscanning
  | _ => exact hop.elim

/-- When the scan has ended that runs after a call that gets to a transaction, the provider has
answered about the transaction, or a status could not be set. -/
theorem tracked_lockups_checked {ops ops' : List Op} {op : Op}
    (h : runFrom step anyOp (.init network) ops = some s) (hop : Reaches s hash op)
    (h' : runFrom step anyOp s (op :: ops') = some s') (hended : s'.scanning = false) :
    s.answers hash < s'.answers hash ∨ s.notSet.length < s'.notSet.length := by
  have hi := inv_of_run h
  obtain ⟨s₁, -, hstep, hrest⟩ := runFrom_cons h'
  have hfirst := After.step hi hash hstep
  obtain ⟨hi', hafter⟩ := after_of_run (hi.step hstep) hash hrest
  rcases hafter.covers (hop.covers hi hstep) with hanswers | hnotSet | hcovers
  · exact .inl (Nat.lt_of_le_of_lt hfirst.answers hanswers)
  · exact .inr (Nat.lt_of_le_of_lt hfirst.notSet hnotSet)
  · rw [scanning_of_covers hi' hcovers] at hended
    cases hended

theorem tracked_lockups_checked_example : ∃ s s' : State,
    runFrom step anyOp s [.trackTransaction { id := 2, type := .chain } "b", .noReceipt 0,
      .noReceipt 0] = some s' ∧
      (s.answers "b" < s'.answers "b" ∨ s.notSet.length < s'.notSet.length) := by
  obtain ⟨s, s', hrun, hnew, hrun', hended⟩ : ∃ s s' : State,
      runFrom step anyOp (.init "RSK")
        [.trackTransaction { id := 1, type := .reverseSubmarine } "a"] = some s ∧
      s.pendingTransactions.has "b" = false ∧
      runFrom step anyOp s [.trackTransaction { id := 2, type := .chain } "b", .noReceipt 0,
        .noReceipt 0] = some s' ∧
      s'.scanning = false := ⟨_, _, rfl, rfl, rfl, rfl⟩
  have hop : Reaches s "b" (.trackTransaction { id := 2, type := .chain } "b") := ⟨rfl, hnew⟩
  exact ⟨s, s', hrun', tracked_lockups_checked hrun hop hrun' hended⟩

end Boltz.ConfirmationTracker
