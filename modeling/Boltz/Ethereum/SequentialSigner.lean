import Boltz.Async.Transitions
import Mathlib.Data.List.Pairwise

/-!
# Nonces of one EVM chain (`lib/wallet/ethereum/SequentialSigner.ts`)

The signer of a chain with its lock and its reserved nonce, the pending transactions in the
database, broadcasts and scans of the tracker, in one process. The lists of transactions are
histories, the newest first. Every wait of the code ends a step.
-/

namespace Boltz.SequentialSigner

open Boltz.Async

/-- The hash stands for all that is signed: transactions with one hash are one. -/
structure Tx where
  hash : Nat
  nonce : Nat
  value : Nat
  deriving DecidableEq, Repr

/-- Where the request that holds the lock is. -/
inductive Phase where
  /-- `getTransactionCount` asks the database and a provider; `none` has not answered yet. -/
  | resolving (highestNonce rpc : Option Nat)
  | reserved (nonce : Nat)
  | checked (nonce : Nat)
  | signed (tx : Tx)
  deriving DecidableEq, Repr

/-- The nonce the request has reserved. -/
def Phase.nonce? : Phase → Option Nat
  | .resolving _ _ => none
  | .reserved nonce => some nonce
  | .checked nonce => some nonce
  | .signed tx => some tx.nonce

structure Request where
  value : Option Nat
  previousReservedNonce : Option Nat
  phase : Phase
  deriving DecidableEq, Repr

/-- A run of `scanPendingTransactions`: the rows that are left, and the confirmed nonce once it is
known. -/
structure Scan where
  transactions : List Tx
  confirmedNonce : Option Nat
  deriving DecidableEq, Repr

structure State where
  rows : List Tx := []
  reservedNonce : Option Nat := none
  lock : Option Request := none
  scans : List Scan := []
  /-- The highest transaction count that a provider has answered. -/
  answered : Nat := 0
  nextHash : Nat := 0
  signed : List Tx := []
  /-- What `signTransaction` returned. -/
  returned : List Tx := []
  broadcasting : List Tx := []
  /-- The transactions that at least one provider accepted. -/
  accepted : List Tx := []
  deriving DecidableEq, Repr

/-- How the write of the pending transaction ends; an error does not say whether it was stored. -/
inductive Write where
  | ok
  | error (stored : Bool)
  deriving DecidableEq, Repr

inductive Op where
  | acquire (value : Option Nat)
  | readHighestNonce
  | readCount (count : Nat)
  | reserve
  | checkBalance (balance : Nat)
  | sign
  | store (write : Write)
  /-- A call of the request throws. -/
  | fail
  | broadcast (tx : Tx)
  | accept (tx : Tx)
  /-- Every provider has rejected the transaction, and none of them has it. -/
  | reject (tx : Tx)
  | scan
  | scanCount (i count : Nat)
  | scanRow (i : Nat) (receipt : Bool)
  deriving DecidableEq, Repr

/-! ## The repository -/

def getHighestNonce (rows : List Tx) : Option Nat := (rows.map (·.nonce)).max?.map (· + 1)

def getTotalSent (rows : List Tx) : Nat := rows.foldl (fun sent tx => sent + tx.value) 0

/-- `none` is the error of the unique index of the nonces. -/
def addTransaction (rows : List Tx) (tx : Tx) : Option (List Tx) :=
  if tx ∈ rows then some rows
  else if rows.any (·.nonce == tx.nonce) then none
  else some (rows ++ [tx])

namespace State

variable (s : State)

/-- The catch block, and the release of the lock. -/
def rollback (request : Request) (nonce : Option Nat) : State :=
  if nonce.isSome && s.reservedNonce == nonce then
    { s with lock := none, reservedNonce := request.previousReservedNonce }
  else { s with lock := none }

def goTo (request : Request) (phase : Phase) : State :=
  { s with lock := some { request with phase := phase } }

def acquire (value : Option Nat) : Option State :=
  match s.lock with
  | none => some { s with lock := some ⟨value, s.reservedNonce, .resolving none none⟩ }
  | some _ => none

def readHighestNonce : Option State :=
  match s.lock with
  | some request =>
    match request.phase with
    | .resolving none rpc =>
      some (s.goTo request (.resolving (some ((getHighestNonce s.rows).getD 0)) rpc))
    | _ => none
  | none => none

def readCount (count : Nat) : Option State :=
  match s.lock with
  | some request =>
    match request.phase with
    | .resolving highestNonce none =>
      some { s.goTo request (.resolving highestNonce (some count)) with
        answered := max s.answered count }
    | _ => none
  | none => none

def reserve : Option State :=
  match s.lock with
  | some request =>
    match request.phase with
    | .resolving (some highestNonce) (some rpc) =>
      let resolved := max highestNonce rpc
      let nonce := match request.previousReservedNonce with
        | none => resolved
        | some previous => max resolved (previous + 1)
      some { s.goTo request (.reserved nonce) with reservedNonce := some nonce }
    | _ => none
  | none => none

def checkBalance (balance : Nat) : Option State :=
  match s.lock with
  | some request =>
    match request.phase with
    | .reserved nonce =>
      match request.value with
      | none => some (s.goTo request (.checked nonce))
      | some value =>
        if (balance : Int) - getTotalSent s.rows < value then some (s.rollback request (some nonce))
        else some (s.goTo request (.checked nonce))
    | _ => none
  | none => none

def sign : Option State :=
  match s.lock with
  | some request =>
    match request.phase with
    | .checked nonce =>
      let tx : Tx := ⟨s.nextHash, nonce, request.value.getD 0⟩
      some { s.goTo request (.signed tx) with
        nextHash := s.nextHash + 1, signed := tx :: s.signed }
    | _ => none
  | none => none

def store (write : Write) : Option State :=
  match s.lock with
  | some request =>
    match request.phase with
    | .signed tx =>
      match addTransaction s.rows tx, write with
      | some rows, .ok =>
        some { s with rows := rows, lock := none, returned := tx :: s.returned }
      | some rows, .error true => some { s.rollback request (some tx.nonce) with rows := rows }
      | _, _ => some (s.rollback request (some tx.nonce))
    | _ => none
  | none => none

def fail : Option State := s.lock.map fun request => s.rollback request request.phase.nonce?

/-- `broadcastTransaction` writes the row again before it asks the providers. -/
def broadcast (tx : Tx) : Option State :=
  if tx ∈ s.returned then
    match addTransaction s.rows tx with
    | some rows => some { s with rows := rows, broadcasting := tx :: s.broadcasting }
    | none => some s
  else none

def accept (tx : Tx) : Option State :=
  if tx ∈ s.broadcasting then some { s with accepted := tx :: s.accepted } else none

/-- `broadcastTransaction` throws; the row of the transaction stays. -/
def reject (tx : Tx) : Option State :=
  if tx ∈ s.broadcasting then some { s with broadcasting := s.broadcasting.erase tx } else none

def scanCount (i count : Nat) : Option State :=
  match s.scans[i]? with
  | some ⟨transactions, none⟩ =>
    some { s with scans := s.scans.set i ⟨transactions, some count⟩
                  answered := max s.answered count }
  | _ => none

/-- A row goes when it has a receipt, and when its nonce is settled without one. -/
def scanRow (i : Nat) (receipt : Bool) : Option State :=
  match s.scans[i]? with
  | some ⟨tx :: transactions, some confirmedNonce⟩ =>
    let s' := { s with scans := s.scans.set i ⟨transactions, some confirmedNonce⟩ }
    if receipt || tx.nonce < confirmedNonce then some { s' with rows := s.rows.erase tx }
    else some s'
  | _ => none

def step (s : State) : Op → Option State
  | .acquire value => s.acquire value
  | .readHighestNonce => s.readHighestNonce
  | .readCount count => s.readCount count
  | .reserve => s.reserve
  | .checkBalance balance => s.checkBalance balance
  | .sign => s.sign
  | .store write => s.store write
  | .fail => s.fail
  | .broadcast tx => s.broadcast tx
  | .accept tx => s.accept tx
  | .reject tx => s.reject tx
  | .scan => some { s with scans := s.scans ++ [⟨s.rows, none⟩] }
  | .scanCount i count => s.scanCount i count
  | .scanRow i receipt => s.scanRow i receipt

end State

/-! ## Nonces that are accounted for -/

variable {earlier : Nat → Prop} {s s' : State}

/-- A transaction with the nonce was accepted: a provider counts the nonce, it was accepted before
the process started, or the transaction was signed here. -/
def State.Accepts (s : State) (earlier : Nat → Prop) (nonce : Nat) : Prop :=
  nonce < s.answered ∨ earlier nonce ∨ ∃ tx ∈ s.accepted, tx.nonce = nonce

/-- No two transactions that were signed share a nonce, and every nonce below one of them belongs
to a transaction that was accepted. -/
structure State.NoncesKept (s : State) (earlier : Nat → Prop) : Prop where
  distinct : s.signed.Pairwise fun later earlier => later.nonce ≠ earlier.nonce
  gapFree : ∀ tx ∈ s.signed, ∀ m < tx.nonce, s.Accepts earlier m

/-- A transaction is signed only when all that were signed before were accepted. -/
def allAccepted (s : State) : Op → Bool
  | .sign => s.signed.all fun tx => decide (tx ∈ s.accepted)
  | _ => true

/-- A provider counts the nonce, it was accepted earlier, or it was signed. -/
def State.Covers (s : State) (earlier : Nat → Prop) (nonce : Nat) : Prop :=
  nonce < s.answered ∨ earlier nonce ∨ ∃ tx ∈ s.signed, tx.nonce = nonce

/-- The reserved nonce as it was when the lock was taken. -/
def State.floor (s : State) : Option Nat :=
  match s.lock with
  | none => s.reservedNonce
  | some request => request.previousReservedNonce

structure State.Inv (s : State) (earlier : Nat → Prop) : Prop where
  rows : ∀ row ∈ s.rows, ∀ m ≤ row.nonce, s.Covers earlier m
  signed : ∀ tx ∈ s.signed, ∀ m < tx.nonce, s.Accepts earlier m
  sorted : s.signed.Pairwise fun later earlier => earlier.nonce < later.nonce
  accepted : s.accepted ⊆ s.returned
  broadcasting : s.broadcasting ⊆ s.returned
  returned : s.returned ⊆ s.signed
  floor : ∀ k, s.floor = some k → ∀ m ≤ k, s.Covers earlier m
  below : ∀ tx ∈ s.returned, ∃ k, s.floor = some k ∧ tx.nonce ≤ k
  resolving : ∀ request highestNonce rpc, s.lock = some request →
    request.phase = .resolving highestNonce rpc →
      s.reservedNonce = request.previousReservedNonce ∧
      (∀ highest, highestNonce = some highest → ∀ m < highest, s.Covers earlier m) ∧
      ∀ count, rpc = some count → count ≤ s.answered
  reserved : ∀ request nonce, s.lock = some request → request.phase.nonce? = some nonce →
    s.reservedNonce = some nonce ∧ (∀ m < nonce, s.Covers earlier m) ∧ ∀ tx ∈ s.returned, tx.nonce < nonce
  holding : ∀ request tx, s.lock = some request → request.phase = .signed tx → tx ∈ s.signed

theorem State.Accepts.mono {m : Nat} (h : s.Accepts earlier m) (hanswered : s.answered ≤ s'.answered)
    (haccepted : s.accepted ⊆ s'.accepted) : s'.Accepts earlier m := by
  rcases h with hlt | hearlier | ⟨tx, hmem, hm⟩
  · exact .inl (Nat.lt_of_lt_of_le hlt hanswered)
  · exact .inr (.inl hearlier)
  · exact .inr (.inr ⟨tx, haccepted hmem, hm⟩)

theorem State.Covers.mono {m : Nat} (h : s.Covers earlier m) (hanswered : s.answered ≤ s'.answered)
    (hsigned : s.signed ⊆ s'.signed) : s'.Covers earlier m := by
  rcases h with hlt | hearlier | ⟨tx, hmem, hm⟩
  · exact .inl (Nat.lt_of_lt_of_le hlt hanswered)
  · exact .inr (.inl hearlier)
  · exact .inr (.inr ⟨tx, hsigned hmem, hm⟩)

theorem State.Accepts.covers {m : Nat} (h : s.Accepts earlier m) (hsub : s.accepted ⊆ s.signed) :
    s.Covers earlier m := by
  rcases h with hlt | hearlier | ⟨tx, hmem, hm⟩
  · exact .inl hlt
  · exact .inr (.inl hearlier)
  · exact .inr (.inr ⟨tx, hsub hmem, hm⟩)

/-- A transaction that was signed accounts for its nonce and all below. -/
theorem State.Inv.covers_of_signed (h : s.Inv earlier) {tx : Tx} (htx : tx ∈ s.signed) :
    ∀ m ≤ tx.nonce, s.Covers earlier m := by
  intro m hm
  by_cases heq : m = tx.nonce
  · exact .inr (.inr ⟨tx, htx, heq.symm⟩)
  · exact (h.signed tx htx m (by omega)).covers (List.Subset.trans h.accepted h.returned)

/-- The requests and what was signed stay. -/
theorem State.Inv.frame (h : s.Inv earlier)
    (hrows : ∀ row ∈ s'.rows, row ∈ s.rows ∨ row ∈ s.signed) (hanswered : s.answered ≤ s'.answered)
    (hsigned : s'.signed = s.signed) (hreturned : s'.returned = s.returned)
    (haccepted : s.accepted ⊆ s'.accepted) (haccepted' : s'.accepted ⊆ s.returned)
    (hbroadcasting : s'.broadcasting ⊆ s.returned) (hlock : s'.lock = s.lock)
    (hreserved : s'.reservedNonce = s.reservedNonce) : s'.Inv earlier := by
  have hfloor : s'.floor = s.floor := by
    unfold State.floor
    rw [hlock, hreserved]
  have hcovers : ∀ m, s.Covers earlier m → s'.Covers earlier m := fun m hm =>
    hm.mono hanswered (by rw [hsigned]; exact List.Subset.refl _)
  exact
    { rows := fun row hmem m hm => hcovers m ((hrows row hmem).elim
        (fun hold => h.rows row hold m hm) fun hnew => h.covers_of_signed hnew m hm)
      signed := fun tx hmem m hm => (h.signed tx (hsigned ▸ hmem) m hm).mono hanswered haccepted
      sorted := hsigned ▸ h.sorted
      accepted := hreturned ▸ haccepted'
      broadcasting := hreturned ▸ hbroadcasting
      returned := by rw [hreturned, hsigned]; exact h.returned
      floor := fun k hk m hm => hcovers m (h.floor k (hfloor ▸ hk) m hm)
      below := fun tx hmem => hfloor ▸ h.below tx (hreturned ▸ hmem)
      resolving := by
        intro request highestNonce rpc hr hphase
        rw [hlock] at hr
        obtain ⟨hres, hhigh, hrpc⟩ := h.resolving request highestNonce rpc hr hphase
        exact ⟨hreserved.trans hres, fun x hx m hm => hcovers m (hhigh x hx m hm),
          fun count hc => Nat.le_trans (hrpc count hc) hanswered⟩
      reserved := by
        intro request nonce hr hphase
        rw [hlock] at hr
        obtain ⟨hres, hcov, hlt⟩ := h.reserved request nonce hr hphase
        exact ⟨hreserved.trans hres, fun m hm => hcovers m (hcov m hm), hreturned ▸ hlt⟩
      holding := fun request tx hr hphase =>
        hsigned ▸ h.holding request tx (hlock ▸ hr) hphase }

/-- The request that holds the lock goes on; a count may have been answered. -/
theorem State.Inv.goOn (h : s.Inv earlier) {request : Request} (hlock : s.lock = some request)
    {phase : Phase} (hlock' : s'.lock = some { request with phase := phase })
    (hrows : s'.rows = s.rows) (hanswered : s.answered ≤ s'.answered)
    (hsigned : s.signed ⊆ s'.signed)
    (hnew : ∀ tx ∈ s'.signed, tx ∈ s.signed ∨ ∀ m < tx.nonce, s.Accepts earlier m)
    (hsorted : s'.signed.Pairwise fun later earlier => earlier.nonce < later.nonce)
    (haccepted : s'.accepted = s.accepted) (hbroadcasting : s'.broadcasting = s.broadcasting)
    (hreturned : s'.returned = s.returned)
    (hresolving : ∀ highestNonce rpc, phase = .resolving highestNonce rpc →
      s'.reservedNonce = request.previousReservedNonce ∧
      (∀ highest, highestNonce = some highest → ∀ m < highest, s.Covers earlier m) ∧
      ∀ count, rpc = some count → count ≤ s'.answered)
    (hphase : ∀ nonce, phase.nonce? = some nonce → s'.reservedNonce = some nonce ∧
      (∀ m < nonce, s.Covers earlier m) ∧ ∀ tx ∈ s.returned, tx.nonce < nonce)
    (hholding : ∀ tx, phase = .signed tx → tx ∈ s'.signed) : s'.Inv earlier := by
  have hcovers : ∀ m, s.Covers earlier m → s'.Covers earlier m := fun m hm => hm.mono hanswered hsigned
  have hfloor : s'.floor = s.floor := by
    unfold State.floor
    rw [hlock, hlock']
  exact
    { rows := fun row hmem m hm => hcovers m (h.rows row (hrows ▸ hmem) m hm)
      signed := fun tx hmem m hm => ((hnew tx hmem).elim (fun hold => h.signed tx hold m hm)
        fun hlow => hlow m hm).mono hanswered (by rw [haccepted]; exact List.Subset.refl _)
      sorted := hsorted
      accepted := by rw [haccepted, hreturned]; exact h.accepted
      broadcasting := by rw [hbroadcasting, hreturned]; exact h.broadcasting
      returned := by rw [hreturned]; exact List.Subset.trans h.returned hsigned
      floor := fun k hk m hm => hcovers m (h.floor k (hfloor ▸ hk) m hm)
      below := fun tx hmem => hfloor ▸ h.below tx (hreturned ▸ hmem)
      resolving := by
        intro r highestNonce rpc hr hphase
        rw [hlock'] at hr
        obtain rfl := Option.some.inj hr
        obtain ⟨hres, hhigh, hrpc⟩ := hresolving highestNonce rpc hphase
        exact ⟨hres, fun x hx m hm => hcovers m (hhigh x hx m hm), hrpc⟩
      reserved := by
        intro r nonce hr hn
        rw [hlock'] at hr
        obtain rfl := Option.some.inj hr
        obtain ⟨hres, hcov, hlt⟩ := hphase nonce hn
        exact ⟨hres, fun m hm => hcovers m (hcov m hm), hreturned ▸ hlt⟩
      holding := by
        intro r tx hr hp
        rw [hlock'] at hr
        obtain rfl := Option.some.inj hr
        exact hholding tx hp }

/-- An error: the reservation is undone. -/
theorem State.Inv.rollback (h : s.Inv earlier) {request : Request} (hlock : s.lock = some request) :
    (s.rollback request request.phase.nonce?).Inv earlier := by
  have hfloor : (s.rollback request request.phase.nonce?).floor = s.floor := by
    unfold State.rollback State.floor
    rw [hlock]
    cases hphase : request.phase with
    | resolving highestNonce rpc =>
      obtain ⟨hres, -, -⟩ := h.resolving request highestNonce rpc hlock hphase
      simp [Phase.nonce?, hres]
    | reserved nonce =>
      obtain ⟨hres, -, -⟩ := h.reserved request nonce hlock (by rw [hphase]; rfl)
      simp [Phase.nonce?, hres]
    | checked nonce =>
      obtain ⟨hres, -, -⟩ := h.reserved request nonce hlock (by rw [hphase]; rfl)
      simp [Phase.nonce?, hres]
    | signed tx =>
      obtain ⟨hres, -, -⟩ := h.reserved request tx.nonce hlock (by rw [hphase]; rfl)
      simp [Phase.nonce?, hres]
  obtain ⟨reservedNonce, heq⟩ : ∃ reservedNonce, s.rollback request request.phase.nonce? =
      { s with lock := none, reservedNonce := reservedNonce } := by
    unfold State.rollback
    split <;> exact ⟨_, rfl⟩
  rw [heq] at hfloor ⊢
  exact
    { rows := h.rows
      signed := h.signed
      sorted := h.sorted
      accepted := h.accepted
      broadcasting := h.broadcasting
      returned := h.returned
      floor := fun k hk => h.floor k (hfloor ▸ hk)
      below := fun tx hmem => hfloor ▸ h.below tx hmem
      resolving := fun r _ _ hr => absurd hr.symm (Option.some_ne_none r)
      reserved := fun r _ hr => absurd hr.symm (Option.some_ne_none r)
      holding := fun r _ hr => absurd hr.symm (Option.some_ne_none r) }

/-! ## Steps -/

theorem mem_of_getHighestNonce {rows : List Tx} {k : Nat} (hk : getHighestNonce rows = some k) :
    ∃ row ∈ rows, k = row.nonce + 1 := by
  unfold getHighestNonce at hk
  obtain ⟨top, htop, rfl⟩ := Option.map_eq_some_iff.mp hk
  obtain ⟨row, hmem, rfl⟩ := List.mem_map.mp (List.max?_mem htop)
  exact ⟨row, hmem, rfl⟩

theorem mem_addTransaction {rows rows' : List Tx} {tx : Tx}
    (h : addTransaction rows tx = some rows') {signed : List Tx} (htx : tx ∈ signed) :
    ∀ row ∈ rows', row ∈ rows ∨ row ∈ signed := by
  unfold addTransaction at h
  split at h
  · rename_i hmem
    obtain rfl := Option.some.inj h
    exact fun _ => .inl
  · split at h
    · exact absurd h (Option.some_ne_none rows').symm
    · obtain rfl := Option.some.inj h
      intro row hmem
      rcases List.mem_append.mp hmem with hold | hnew
      · exact .inl hold
      · obtain rfl := List.mem_singleton.mp hnew
        exact .inr htx

theorem State.Inv.acquire (h : s.Inv earlier) {value : Option Nat} (hs : s.acquire value = some s') :
    s'.Inv earlier := by
  unfold State.acquire at hs
  split at hs
  · rename_i hlock
    obtain rfl := Option.some.inj hs
    have hfloor : s.floor = s.reservedNonce := by
      unfold State.floor
      rw [hlock]
    exact
      { rows := h.rows
        signed := h.signed
        sorted := h.sorted
        accepted := h.accepted
        broadcasting := h.broadcasting
        returned := h.returned
        floor := fun k hk => h.floor k (hfloor.trans hk)
        below := fun tx hmem => hfloor ▸ h.below tx hmem
        resolving := by
          intro r highestNonce rpc hr hphase
          obtain rfl := Option.some.inj hr
          obtain ⟨rfl, rfl⟩ := Phase.resolving.inj hphase
          exact ⟨rfl, fun x hx => absurd hx.symm (Option.some_ne_none x),
            fun count hc => absurd hc.symm (Option.some_ne_none count)⟩
        reserved := by
          intro r nonce hr hn
          obtain rfl := Option.some.inj hr
          exact absurd hn.symm (Option.some_ne_none nonce)
        holding := by
          intro r tx hr hphase
          obtain rfl := Option.some.inj hr
          exact Phase.noConfusion hphase }
  · exact absurd hs (Option.some_ne_none s').symm

theorem State.Inv.readHighestNonce (h : s.Inv earlier) (hs : s.readHighestNonce = some s') : s'.Inv earlier := by
  unfold State.readHighestNonce at hs
  split at hs
  · rename_i request hlock
    split at hs
    · rename_i rpc hphase
      obtain rfl := Option.some.inj hs
      obtain ⟨hres, -, hrpc⟩ := h.resolving request none rpc hlock hphase
      refine h.goOn hlock rfl rfl (Nat.le_refl _) (List.Subset.refl _) (fun _ => .inl) h.sorted rfl
        rfl rfl ?_ (fun nonce hn => absurd hn.symm (Option.some_ne_none nonce))
        fun _ he => Phase.noConfusion he
      intro highestNonce rpc' he
      obtain ⟨rfl, rfl⟩ := Phase.resolving.inj he
      refine ⟨hres, fun x hx m hm => ?_, hrpc⟩
      obtain rfl := Option.some.inj hx
      cases hhigh : getHighestNonce s.rows with
      | none => simp [hhigh] at hm
      | some k =>
        obtain ⟨row, hmem, rfl⟩ := mem_of_getHighestNonce hhigh
        rw [hhigh, Option.getD_some] at hm
        exact h.rows row hmem m (by omega)
    · exact absurd hs (Option.some_ne_none s').symm
  · exact absurd hs (Option.some_ne_none s').symm

theorem State.Inv.readCount (h : s.Inv earlier) {count : Nat} (hs : s.readCount count = some s') :
    s'.Inv earlier := by
  unfold State.readCount at hs
  split at hs
  · rename_i request hlock
    split at hs
    · rename_i highestNonce hphase
      obtain rfl := Option.some.inj hs
      obtain ⟨hres, hhigh, -⟩ := h.resolving request highestNonce none hlock hphase
      refine h.goOn hlock rfl rfl (Nat.le_max_left _ _) (List.Subset.refl _) (fun _ => .inl)
        h.sorted rfl rfl rfl ?_ (fun nonce hn => absurd hn.symm (Option.some_ne_none nonce))
        fun _ he => Phase.noConfusion he
      intro highestNonce' rpc he
      obtain ⟨rfl, rfl⟩ := Phase.resolving.inj he
      refine ⟨hres, hhigh, fun c hc => ?_⟩
      obtain rfl := Option.some.inj hc
      exact Nat.le_max_right _ _
    · exact absurd hs (Option.some_ne_none s').symm
  · exact absurd hs (Option.some_ne_none s').symm

/-- Everything below the new nonce is below the highest row, the count or the old reservation, and
it is above all that was returned so far. -/
theorem State.Inv.reserve (h : s.Inv earlier) (hs : s.reserve = some s') : s'.Inv earlier := by
  unfold State.reserve at hs
  split at hs
  · rename_i request hlock
    split at hs
    · rename_i highestNonce rpc hphase
      obtain rfl := Option.some.inj hs
      obtain ⟨hres, hhigh, hrpc⟩ := h.resolving request _ _ hlock hphase
      have hresolved : ∀ m < max highestNonce rpc, s.Covers earlier m := by
        intro m hm
        by_cases hlt : m < highestNonce
        · exact hhigh highestNonce rfl m hlt
        · have hle := hrpc rpc rfl
          exact .inl (by omega)
      have hfloor : s.floor = request.previousReservedNonce := by
        unfold State.floor
        rw [hlock]
      refine h.goOn hlock rfl rfl (Nat.le_refl _) (List.Subset.refl _) (fun _ => .inl) h.sorted rfl
        rfl rfl (fun _ _ he => Phase.noConfusion he) (fun nonce hn => ?_)
        fun _ he => Phase.noConfusion he
      obtain rfl := Option.some.inj hn
      refine ⟨rfl, ?_, ?_⟩
      · cases hprev : request.previousReservedNonce with
        | none => exact hresolved
        | some previous =>
          intro m hm
          by_cases hlt : m < max highestNonce rpc
          · exact hresolved m hlt
          · have hm' : m < max (max highestNonce rpc) (previous + 1) := hm
            exact h.floor previous (hfloor.trans hprev) m (by omega)
      · intro tx hmem
        obtain ⟨k, hk, hle⟩ := h.below tx hmem
        rw [hfloor] at hk
        rw [hk]
        dsimp only
        omega
    · exact absurd hs (Option.some_ne_none s').symm
  · exact absurd hs (Option.some_ne_none s').symm

theorem State.Inv.checkBalance (h : s.Inv earlier) {balance : Nat}
    (hs : s.checkBalance balance = some s') : s'.Inv earlier := by
  unfold State.checkBalance at hs
  split at hs
  · rename_i request hlock
    split at hs
    · rename_i nonce hphase
      have hnonce : request.phase.nonce? = some nonce := by rw [hphase]; rfl
      have hgo : (s.goTo request (.checked nonce)).Inv earlier := by
        refine h.goOn hlock rfl rfl (Nat.le_refl _) (List.Subset.refl _) (fun _ => .inl) h.sorted
          rfl rfl rfl (fun _ _ he => Phase.noConfusion he) (fun n hn => ?_)
          fun _ he => Phase.noConfusion he
        obtain rfl := Option.some.inj hn
        exact h.reserved request nonce hlock hnonce
      split at hs
      · obtain rfl := Option.some.inj hs
        exact hgo
      · split at hs
        · obtain rfl := Option.some.inj hs
          rw [← hnonce]
          exact h.rollback hlock
        · obtain rfl := Option.some.inj hs
          exact hgo
    · exact absurd hs (Option.some_ne_none s').symm
  · exact absurd hs (Option.some_ne_none s').symm

/-- All that was signed was accepted, so every nonce below the new one was, and all that was signed
is below it. -/
theorem State.Inv.sign (h : s.Inv earlier) (hall : s.signed ⊆ s.accepted) (hs : s.sign = some s') :
    s'.Inv earlier := by
  unfold State.sign at hs
  split at hs
  · rename_i request hlock
    split at hs
    · rename_i nonce hphase
      obtain rfl := Option.some.inj hs
      obtain ⟨hres, hcov, hlt⟩ := h.reserved request nonce hlock (by rw [hphase]; rfl)
      refine h.goOn hlock rfl rfl (Nat.le_refl _) (List.subset_cons_self _ _) (fun tx hmem => ?_)
        (List.pairwise_cons.mpr ⟨fun tx hmem => hlt tx (h.accepted (hall hmem)), h.sorted⟩) rfl rfl
        rfl (fun _ _ he => Phase.noConfusion he) (fun n hn => ?_) fun tx he => ?_
      · rcases List.mem_cons.mp hmem with rfl | hold
        · refine .inr fun m hm => ?_
          rcases hcov m hm with hanswered | hearlier | ⟨tx, hsigned, htx⟩
          · exact .inl hanswered
          · exact .inr (.inl hearlier)
          · exact .inr (.inr ⟨tx, hall hsigned, htx⟩)
        · exact .inl hold
      · obtain rfl := Option.some.inj hn
        exact ⟨hres, hcov, hlt⟩
      · obtain rfl := Phase.signed.inj he
        exact List.mem_cons_self
    · exact absurd hs (Option.some_ne_none s').symm
  · exact absurd hs (Option.some_ne_none s').symm

/-- A row is added for a transaction that was signed. -/
theorem State.Inv.addRow (h : s.Inv earlier) {tx : Tx} {rows : List Tx}
    (hadd : addTransaction s.rows tx = some rows) (htx : tx ∈ s.signed) :
    State.Inv { s with rows := rows } earlier :=
  h.frame (mem_addTransaction hadd htx) (Nat.le_refl _) rfl rfl (List.Subset.refl _) h.accepted
    h.broadcasting rfl rfl

theorem State.Inv.store (h : s.Inv earlier) {write : Write} (hs : s.store write = some s') : s'.Inv earlier := by
  unfold State.store at hs
  split at hs
  · rename_i request hlock
    split at hs
    · rename_i tx hphase
      have hnonce : request.phase.nonce? = some tx.nonce := by rw [hphase]; rfl
      have htx := h.holding request tx hlock hphase
      obtain ⟨hres, -, hlt⟩ := h.reserved request tx.nonce hlock hnonce
      split at hs
      · rename_i rows hadd
        obtain rfl := Option.some.inj hs
        have hadded := h.addRow hadd htx
        exact
          { rows := hadded.rows
            signed := hadded.signed
            sorted := hadded.sorted
            accepted := List.Subset.trans hadded.accepted (List.subset_cons_self _ _)
            broadcasting := List.Subset.trans hadded.broadcasting (List.subset_cons_self _ _)
            returned := List.cons_subset.mpr ⟨htx, hadded.returned⟩
            floor := by
              intro k hk
              obtain rfl := Option.some.inj (hk.symm.trans hres)
              exact hadded.covers_of_signed htx
            below := by
              intro t hmem
              refine ⟨tx.nonce, hres, ?_⟩
              rcases List.mem_cons.mp hmem with rfl | hold
              · exact Nat.le_refl _
              · exact Nat.le_of_lt (hlt t hold)
            resolving := fun r _ _ hr => absurd hr.symm (Option.some_ne_none r)
            reserved := fun r _ hr => absurd hr.symm (Option.some_ne_none r)
            holding := fun r _ hr => absurd hr.symm (Option.some_ne_none r) }
      · rename_i rows hadd
        obtain rfl := Option.some.inj hs
        have hroll := State.Inv.rollback (h.addRow hadd htx) hlock
        rw [hnonce] at hroll
        unfold State.rollback at hroll ⊢
        split at hroll <;> rename_i hif
        · simpa only [if_pos hif] using hroll
        · simpa only [if_neg hif] using hroll
      · obtain rfl := Option.some.inj hs
        rw [← hnonce]
        exact h.rollback hlock
    · exact absurd hs (Option.some_ne_none s').symm
  · exact absurd hs (Option.some_ne_none s').symm

theorem State.Inv.broadcast (h : s.Inv earlier) {tx : Tx} (hs : s.broadcast tx = some s') : s'.Inv earlier := by
  unfold State.broadcast at hs
  split at hs
  · rename_i hmem
    split at hs
    · rename_i rows hadd
      obtain rfl := Option.some.inj hs
      exact h.frame (mem_addTransaction hadd (h.returned hmem)) (Nat.le_refl _) rfl rfl
        (List.Subset.refl _) h.accepted (List.cons_subset.mpr ⟨hmem, h.broadcasting⟩) rfl rfl
    · obtain rfl := Option.some.inj hs
      exact h
  · exact absurd hs (Option.some_ne_none s').symm

theorem State.Inv.accept (h : s.Inv earlier) {tx : Tx} (hs : s.accept tx = some s') : s'.Inv earlier := by
  unfold State.accept at hs
  split at hs
  · rename_i hmem
    obtain rfl := Option.some.inj hs
    exact h.frame (fun _ => .inl) (Nat.le_refl _) rfl rfl (List.subset_cons_self _ _)
      (List.cons_subset.mpr ⟨h.broadcasting hmem, h.accepted⟩) h.broadcasting rfl rfl
  · exact absurd hs (Option.some_ne_none s').symm

theorem State.Inv.reject (h : s.Inv earlier) {tx : Tx} (hs : s.reject tx = some s') : s'.Inv earlier := by
  unfold State.reject at hs
  split at hs
  · obtain rfl := Option.some.inj hs
    exact h.frame (fun _ => .inl) (Nat.le_refl _) rfl rfl (List.Subset.refl _) h.accepted
      (List.Subset.trans List.erase_subset h.broadcasting) rfl rfl
  · exact absurd hs (Option.some_ne_none s').symm

theorem State.Inv.scanCount (h : s.Inv earlier) {i count : Nat} (hs : s.scanCount i count = some s') :
    s'.Inv earlier := by
  unfold State.scanCount at hs
  split at hs
  · obtain rfl := Option.some.inj hs
    exact h.frame (fun _ => .inl) (Nat.le_max_left _ _) rfl rfl (List.Subset.refl _) h.accepted
      h.broadcasting rfl rfl
  · exact absurd hs (Option.some_ne_none s').symm

theorem State.Inv.scanRow (h : s.Inv earlier) {i : Nat} {receipt : Bool}
    (hs : s.scanRow i receipt = some s') : s'.Inv earlier := by
  unfold State.scanRow at hs
  split at hs
  · split at hs
    · obtain rfl := Option.some.inj hs
      exact h.frame (fun row hmem => .inl (List.mem_of_mem_erase hmem)) (Nat.le_refl _) rfl rfl
        (List.Subset.refl _) h.accepted h.broadcasting rfl rfl
    · obtain rfl := Option.some.inj hs
      exact h.frame (fun _ => .inl) (Nat.le_refl _) rfl rfl (List.Subset.refl _) h.accepted
        h.broadcasting rfl rfl
  · exact absurd hs (Option.some_ne_none s').symm

theorem State.inv_step (s : State) (op : Op) (s' : State) (h : s.Inv earlier)
    (hop : allAccepted s op = true) (hs : s.step op = some s') : s'.Inv earlier := by
  unfold State.step at hs
  cases op with
  | acquire value => exact h.acquire hs
  | readHighestNonce => exact h.readHighestNonce hs
  | readCount count => exact h.readCount hs
  | reserve => exact h.reserve hs
  | checkBalance balance => exact h.checkBalance hs
  | sign => exact h.sign (fun tx hmem => of_decide_eq_true (List.all_eq_true.mp hop tx hmem)) hs
  | store write => exact h.store hs
  | fail =>
    obtain ⟨request, hlock, rfl⟩ := Option.map_eq_some_iff.mp hs
    exact h.rollback hlock
  | broadcast tx => exact h.broadcast hs
  | accept tx => exact h.accept hs
  | reject tx => exact h.reject hs
  | scan =>
    obtain rfl := Option.some.inj hs
    exact h.frame (fun _ => .inl) (Nat.le_refl _) rfl rfl (List.Subset.refl _) h.accepted
      h.broadcasting rfl rfl
  | scanCount i count => exact h.scanCount hs
  | scanRow i receipt => exact h.scanRow hs

/-! ## Whole runs -/

/-- A process starts with the rows that an earlier one left. Their nonces and all below belong to
transactions that a provider accepted or counts. -/
theorem inv_start {rows : List Tx} {answered nextHash : Nat}
    (hrows : ∀ row ∈ rows, ∀ m ≤ row.nonce, m < answered ∨ earlier m) :
    State.Inv { rows, answered, nextHash } earlier where
  rows row hmem m hm := (hrows row hmem m hm).imp id .inl
  signed _ hmem := absurd hmem List.not_mem_nil
  sorted := List.Pairwise.nil
  accepted := List.nil_subset _
  broadcasting := List.nil_subset _
  returned := List.nil_subset _
  floor k hk := absurd hk.symm (Option.some_ne_none k)
  below _ hmem := absurd hmem List.not_mem_nil
  resolving r _ _ hr := absurd hr.symm (Option.some_ne_none r)
  reserved r _ hr := absurd hr.symm (Option.some_ne_none r)
  holding r _ hr := absurd hr.symm (Option.some_ne_none r)

/-- The nonces of the signed transactions are distinct and without a gap in every run in which a
transaction is signed only when all that were signed before were accepted. -/
theorem nonces_increase_without_gap (earlier : Nat → Prop) (rows : List Tx)
    (answered nextHash : Nat) (hrows : ∀ row ∈ rows, ∀ m ≤ row.nonce, m < answered ∨ earlier m)
    (ops : List Op) (s : State)
    (hrun : runFrom State.step allAccepted { rows, answered, nextHash } ops = some s) :
    s.NoncesKept earlier := by
  have hinv : s.Inv earlier := invariant_of_runFrom State.inv_step (inv_start hrows) hrun
  exact ⟨hinv.sorted.imp Nat.ne_of_gt, hinv.signed⟩

/-! ## Runs -/

/-- A transaction is signed and returned. -/
def signOne (count : Nat) (write : Write) : List Op :=
  [.acquire none, .readHighestNonce, .readCount count, .reserve, .checkBalance 0, .sign,
    .store write]

/-- Every provider rejects the first transaction, and a scan leaves its row. -/
def rejectFirst : List Op :=
  [.broadcast ⟨0, 0, 0⟩, .reject ⟨0, 0, 0⟩, .scan, .scanCount 0 0, .scanRow 0 false]

/-- A transaction is signed above one that every provider rejected; and after a write that failed
the next transaction is signed with the same nonce. -/
theorem signed_above_rejected :
    (∃ s, runFrom State.step (fun _ _ => true) {} (signOne 0 .ok ++ rejectFirst ++ signOne 0 .ok) =
        some s ∧ s.signed = [⟨1, 1, 0⟩, ⟨0, 0, 0⟩] ∧ s.broadcasting = [] ∧
        ¬s.NoncesKept fun _ => False) ∧
    ∃ s, runFrom State.step (fun _ _ => true) {}
        (signOne 0 (.error false) ++ signOne 0 .ok) = some s ∧
      s.signed = [⟨1, 0, 0⟩, ⟨0, 0, 0⟩] ∧ ¬s.NoncesKept fun _ => False := by
  refine ⟨⟨_, rfl, rfl, rfl, fun hkept => ?_⟩, ⟨_, rfl, rfl, fun hkept => ?_⟩⟩
  · rcases hkept.gapFree ⟨1, 1, 0⟩ List.mem_cons_self 0 Nat.zero_lt_one with
      hlt | hearlier | ⟨tx, hmem, -⟩
    · exact Nat.lt_irrefl 0 hlt
    · exact hearlier
    · exact List.not_mem_nil hmem
  · exact (List.pairwise_cons.mp hkept.distinct).1 ⟨0, 0, 0⟩ List.mem_cons_self rfl

/-- A transaction of an earlier process was accepted and is still pending. The next one is signed
above it, the one after that when the row of both was removed, and a third one after that was
accepted too. -/
def signThree : List Op :=
  signOne 0 .ok ++ [.broadcast ⟨1, 1, 0⟩, .accept ⟨1, 1, 0⟩, .scan, .scanCount 0 2,
    .scanRow 0 true, .scanRow 0 true] ++ signOne 1 .ok ++
    [.broadcast ⟨2, 2, 0⟩, .accept ⟨2, 2, 0⟩] ++ signOne 2 .ok

theorem nonces_after_scan :
    ∃ s, runFrom State.step allAccepted { rows := [⟨0, 0, 0⟩], nextHash := 1 } signThree = some s ∧
      s.returned.map (·.nonce) = [3, 2, 1] ∧ s.rows = [⟨2, 2, 0⟩, ⟨3, 3, 0⟩] ∧
      s.NoncesKept (· = 0) :=
  ⟨_, rfl, rfl, rfl, nonces_increase_without_gap (· = 0) [⟨0, 0, 0⟩] 0 1 (by simp) signThree _
    rfl⟩

end Boltz.SequentialSigner
