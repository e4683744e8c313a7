import Boltz.Db.Models
import Boltz.Ethereum.ConsolidatedEventHandler

/-!
# Lockups of EVM contracts (`contracts/ContractUtils.ts`, `CommitmentRepository.ts`)

Hashes, addresses and transaction ids are numbers; the preimage hash of a commitment lockup is 0.
`hashValues` of a contract is a parameter. A log carries the contract that emitted it.
-/

namespace Boltz.Ethereum

open ConsolidatedEventHandler (LockupName Log Receipt)

/-- `EtherSwapValues` and `ERC20SwapValues`, of which only the second have a token. -/
structure SwapValues where
  preimageHash : Nat
  amount : Nat
  claimAddress : Nat
  refundAddress : Nat
  timelock : Nat
  tokenAddress : Option Nat := none
  deriving DecidableEq, Repr

def isCommitmentPreimageHash (preimageHash : Nat) : Bool := preimageHash == 0

/-- `EtherSwap` or `ERC20Swap` of one version. -/
structure Contract where
  name : LockupName
  version : Nat
  deriving DecidableEq, Repr

/-- A `Lockup` event that was found in a receipt. -/
structure LockupEvent where
  logIndex : Nat
  values : SwapValues
  deriving DecidableEq, Repr

/-! ## Commitments -/

structure Commitment where
  lockupHash : Nat
  swapId : Option Nat
  transactionHash : Nat
  signature : Option Nat
  refunded : Bool
  deriving DecidableEq, Repr

namespace CommitmentRepository

def getBySwapId (commitments : List Commitment) (swapId : Nat) : Option Commitment :=
  commitments.find? (·.swapId == some swapId)

def getByLockupHash (commitments : List Commitment) (lockupHash : Nat) : Option Commitment :=
  commitments.find? (·.lockupHash == lockupHash)

/-- The lockup hash is the primary key, and swap ids are unique. -/
def create (commitments : List Commitment) (commitment : Commitment) : Option (List Commitment) :=
  if (getByLockupHash commitments commitment.lockupHash).isSome ||
      commitment.swapId.any fun id => (getBySwapId commitments id).isSome then none
  else some (commitments ++ [commitment])

def markRefunded (commitments : List Commitment) (lockupHash transactionHash : Nat) :
    List Commitment :=
  match getByLockupHash commitments lockupHash with
  | some _ =>
    commitments.map fun c =>
      if c.lockupHash = lockupHash then { c with refunded := true, transactionHash } else c
  | none =>
    commitments ++
      [{ lockupHash, swapId := none, transactionHash, signature := none, refunded := true }]

end CommitmentRepository

/-! ## Values of a lockup -/

inductive LockupIdentifier where
  | preimageHash (preimageHash : Nat)
  | lockupHash (lockupHash : Nat)
  deriving DecidableEq, Repr

section Lookups

variable (hashValues : Contract → SwapValues → Nat)

def LockupIdentifier.accepts (contract : Contract) (values : SwapValues) :
    LockupIdentifier → Bool
  | .preimageHash hash => values.preimageHash == hash
  | .lockupHash hash => hashValues contract values == hash

/-- `getIdentifier` of a lockup of the user. -/
def getIdentifier (commitments : List Commitment) (swapId preimageHash : Nat) :
    LockupIdentifier :=
  match CommitmentRepository.getBySwapId commitments swapId with
  | some commitment => .lockupHash commitment.lockupHash
  | none => .preimageHash preimageHash

def isLockupOf (contract : Contract) (log : Log SwapValues) : Bool :=
  log.name == contract.name && log.version == contract.version

def findLockups (receipt : Receipt SwapValues) (contract : Contract)
    (identifier : Option LockupIdentifier) (index : Option Nat) : List LockupEvent :=
  (receipt.logs.filter fun log =>
    index.all (log.index == ·) && isLockupOf contract log &&
      identifier.all (·.accepts hashValues contract log.values)).map fun log =>
    { logIndex := log.index, values := log.values }

/-- When the recorded log has other values, all logs of the receipt are searched. `none` is the
error `invalidLockupTransaction`. -/
def querySwapValuesFromLock (receipt : Option (Receipt SwapValues)) (contract : Contract)
    (identifier : Option LockupIdentifier) (logIndex : Option Nat) : Option LockupEvent :=
  receipt.bind fun receipt =>
    let lockupsFound := findLockups hashValues receipt contract identifier logIndex
    let lockupsFound :=
      if lockupsFound.isEmpty && logIndex.isSome && identifier.isSome then
        findLockups hashValues receipt contract identifier none
      else lockupsFound
    match lockupsFound with
    | [lockup] => some lockup
    | _ => none

end Lookups

/-! ## Rows of the commitments -/

section Rows

open CommitmentRepository

variable {commitments commitments' : List Commitment} {c c' : Commitment} {hash tx id : Nat}

theorem of_getBySwapId (h : getBySwapId commitments id = some c) :
    c ∈ commitments ∧ c.swapId = some id :=
  ⟨List.mem_of_find?_eq_some h, by simpa using List.find?_some h⟩

theorem of_getByLockupHash (h : getByLockupHash commitments hash = some c) :
    c ∈ commitments ∧ c.lockupHash = hash :=
  ⟨List.mem_of_find?_eq_some h, by simpa using List.find?_some h⟩

theorem getByLockupHash_eq_none :
    getByLockupHash commitments hash = none ↔ ∀ c ∈ commitments, c.lockupHash ≠ hash := by
  simp [getByLockupHash]

theorem getBySwapId_eq_none :
    getBySwapId commitments id = none ↔ ∀ c ∈ commitments, c.swapId ≠ some id := by
  simp [getBySwapId]

theorem create_eq_some (h : create commitments c = some commitments') :
    commitments' = commitments ++ [c] ∧ getByLockupHash commitments c.lockupHash = none ∧
      ∀ id, c.swapId = some id → getBySwapId commitments id = none := by
  unfold create at h
  split at h
  · exact absurd h (Option.some_ne_none _).symm
  · rename_i hfree
    simp only [Bool.or_eq_true, not_or, Bool.not_eq_true, Option.isSome_eq_false_iff,
      Option.isNone_iff_eq_none] at hfree
    obtain ⟨hhash, hid⟩ := hfree
    refine ⟨(Option.some.inj h).symm, hhash, fun id hswap => ?_⟩
    rw [hswap] at hid
    simpa using hid

/-- A row as `markRefunded` leaves it. -/
theorem mem_markRefunded (h : c ∈ markRefunded commitments hash tx) :
    (c ∈ commitments ∧ c.lockupHash ≠ hash) ∨
      (c.lockupHash = hash ∧ c.refunded = true ∧
        ((∃ c₀ ∈ commitments, c₀.lockupHash = hash ∧ c.swapId = c₀.swapId ∧
          c.signature = c₀.signature) ∨
        (c.swapId = none ∧ ∀ c₀ ∈ commitments, c₀.lockupHash ≠ hash))) := by
  unfold markRefunded at h
  split at h
  · obtain ⟨c₀, hmem, rfl⟩ := List.mem_map.mp h
    by_cases hhash : c₀.lockupHash = hash
    · rw [if_pos hhash]
      exact .inr ⟨hhash, rfl, .inl ⟨c₀, hmem, hhash, rfl, rfl⟩⟩
    · rw [if_neg hhash]
      exact .inl ⟨hmem, hhash⟩
  · rename_i hnone
    have hfree := getByLockupHash_eq_none.mp hnone
    rcases List.mem_append.mp h with hmem | hmem
    · exact .inl ⟨hmem, hfree c hmem⟩
    · obtain rfl := List.mem_singleton.mp hmem
      exact .inr ⟨rfl, rfl, .inr ⟨rfl, hfree⟩⟩

/-- No row is lost, and none is linked to another swap. -/
theorem markRefunded_keeps (hash tx : Nat) (h : c ∈ commitments) :
    ∃ c' ∈ markRefunded commitments hash tx, c'.lockupHash = c.lockupHash ∧
      c'.swapId = c.swapId ∧ c'.signature = c.signature ∧
      (c'.refunded = false → c' = c) := by
  unfold markRefunded
  split
  · refine ⟨_, List.mem_map_of_mem h, ?_⟩
    by_cases hhash : c.lockupHash = hash
    · rw [if_pos hhash]
      exact ⟨rfl, rfl, rfl, nofun⟩
    · rw [if_neg hhash]
      exact ⟨rfl, rfl, rfl, fun _ => rfl⟩
  · exact ⟨c, List.mem_append_left _ h, rfl, rfl, rfl, fun _ => rfl⟩

theorem markRefunded_has (commitments : List Commitment) (hash tx : Nat) :
    ∃ c ∈ markRefunded commitments hash tx, c.lockupHash = hash := by
  by_cases hnone : getByLockupHash commitments hash = none
  · unfold markRefunded
    rw [hnone]
    exact ⟨_, List.mem_append_right _ (List.mem_singleton_self _), rfl⟩
  · obtain ⟨c, hc⟩ := Option.ne_none_iff_exists'.mp hnone
    obtain ⟨hmem, hhash⟩ := of_getByLockupHash hc
    obtain ⟨c', hmem', hhash', -⟩ := markRefunded_keeps hash tx hmem
    exact ⟨c', hmem', hhash'.trans hhash⟩

/-- Lockup hashes and swap ids of the rows are unique. -/
structure UniqueRows (commitments : List Commitment) : Prop where
  lockupHash : ∀ c ∈ commitments, ∀ c' ∈ commitments, c.lockupHash = c'.lockupHash → c = c'
  swapId : ∀ c ∈ commitments, ∀ c' ∈ commitments, c.swapId.isSome = true →
    c.swapId = c'.swapId → c = c'

theorem UniqueRows.getBySwapId (h : UniqueRows commitments) (hmem : c ∈ commitments)
    (hid : c.swapId = some id) : getBySwapId commitments id = some c := by
  cases hfind : CommitmentRepository.getBySwapId commitments id with
  | none => exact absurd hid (getBySwapId_eq_none.mp hfind c hmem)
  | some c' =>
    obtain ⟨hmem', hid'⟩ := of_getBySwapId hfind
    rw [h.swapId c hmem c' hmem' (by rw [hid]; rfl) (hid.trans hid'.symm)]

theorem UniqueRows.create (h : UniqueRows commitments)
    (hcreate : create commitments c = some commitments') : UniqueRows commitments' := by
  obtain ⟨rfl, hhash, hid⟩ := create_eq_some hcreate
  have hfree := getByLockupHash_eq_none.mp hhash
  have hunlinked : ∀ a ∈ commitments, c.swapId.isSome = true → a.swapId ≠ c.swapId := by
    intro a ha hsome heq
    obtain ⟨i, hi⟩ := Option.isSome_iff_exists.mp hsome
    exact getBySwapId_eq_none.mp (hid i hi) a ha (heq.trans hi)
  refine ⟨fun a ha b hb heq => ?_, fun a ha b hb hsome heq => ?_⟩
  · rcases List.mem_append.mp ha with hin | hnew <;> rcases List.mem_append.mp hb with hin' | hnew'
    · exact h.lockupHash a hin b hin' heq
    · obtain rfl := List.mem_singleton.mp hnew'
      exact absurd heq (hfree a hin)
    · obtain rfl := List.mem_singleton.mp hnew
      exact absurd heq.symm (hfree b hin')
    · rw [List.mem_singleton.mp hnew, List.mem_singleton.mp hnew']
  · rcases List.mem_append.mp ha with hin | hnew <;> rcases List.mem_append.mp hb with hin' | hnew'
    · exact h.swapId a hin b hin' hsome heq
    · obtain rfl := List.mem_singleton.mp hnew'
      exact absurd heq (hunlinked a hin (heq ▸ hsome))
    · obtain rfl := List.mem_singleton.mp hnew
      exact absurd heq.symm (hunlinked b hin' hsome)
    · rw [List.mem_singleton.mp hnew, List.mem_singleton.mp hnew']

theorem UniqueRows.markRefunded (h : UniqueRows commitments) (hash tx : Nat) :
    UniqueRows (markRefunded commitments hash tx) := by
  cases hfind : CommitmentRepository.getByLockupHash commitments hash with
  | none =>
    have hcreate : CommitmentRepository.create commitments
        { lockupHash := hash, swapId := none, transactionHash := tx, signature := none,
          refunded := true } = some (CommitmentRepository.markRefunded commitments hash tx) := by
      simp [CommitmentRepository.create, CommitmentRepository.markRefunded, hfind]
    exact h.create hcreate
  | some c₀ =>
    have hrows : CommitmentRepository.markRefunded commitments hash tx =
        commitments.map fun c =>
          if c.lockupHash = hash then { c with refunded := true, transactionHash := tx } else c := by
      simp only [CommitmentRepository.markRefunded, hfind]
    rw [hrows]
    have hsame : ∀ c : Commitment, ∀ c', (if c.lockupHash = hash then
        { c with refunded := true, transactionHash := tx } else c) = c' →
        c'.lockupHash = c.lockupHash ∧ c'.swapId = c.swapId := by
      rintro c _ rfl
      split <;> exact ⟨rfl, rfl⟩
    refine ⟨fun a ha b hb heq => ?_, fun a ha b hb hsome heq => ?_⟩
    · obtain ⟨a₀, ha₀, hae⟩ := List.mem_map.mp ha
      obtain ⟨b₀, hb₀, hbe⟩ := List.mem_map.mp hb
      obtain ⟨hahash, -⟩ := hsame a₀ a hae
      obtain ⟨hbhash, -⟩ := hsame b₀ b hbe
      obtain rfl := h.lockupHash a₀ ha₀ b₀ hb₀ (hahash.symm.trans (heq.trans hbhash))
      exact hae.symm.trans hbe
    · obtain ⟨a₀, ha₀, hae⟩ := List.mem_map.mp ha
      obtain ⟨b₀, hb₀, hbe⟩ := List.mem_map.mp hb
      obtain ⟨-, haid⟩ := hsame a₀ a hae
      obtain ⟨-, hbid⟩ := hsame b₀ b hbe
      obtain rfl := h.swapId a₀ ha₀ b₀ hb₀ (by rw [← haid]; exact hsome)
        (haid.symm.trans (heq.trans hbid))
      exact hae.symm.trans hbe

end Rows

end Boltz.Ethereum
