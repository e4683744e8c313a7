import Boltz.Consts.Enums
import Boltz.Service.PubkeyIterator

/-!
# Rescue and restore scans (`boltzr/src/service/rescue.rs`)

A scan walks over the key sequence of a client in windows of the gap limit and looks up the swaps
with a key in the window. Without pagination it stops at the first window without swaps. The
process function of a scan finds the index of a swap's key in the map of the keys derived so far.
-/

namespace Boltz.SwapRescue

/-! ## Rows -/

/-- A row of `swaps`. `details` is what the server adds to the swap: its own key, the blinding key
and the swap tree. -/
structure Swap (κ δ : Type) where
  id : Nat
  version : Int
  refundPublicKey : Option κ
  details : Except ScanError δ

/-- A row of `chainSwapData`. The side on an EVM chain has an address instead of a key. -/
structure ChainSwapData (κ δ : Type) where
  theirPublicKey : Option κ
  claimAddress : Option String
  details : Except ScanError δ
  evm : claimAddress.isSome → theirPublicKey = none

structure ChainSwapInfo (κ δ : Type) where
  id : Nat
  sending : ChainSwapData κ δ
  receiving : ChainSwapData κ δ

/-- A row of `reverseSwaps`, which also has a key or an address. -/
structure ReverseSwap (κ δ : Type) where
  id : Nat
  version : Int
  claimPublicKey : Option κ
  claimAddress : Option String
  details : Except ScanError δ
  evm : claimAddress.isSome → claimPublicKey = none

structure Database (κ δ : Type) where
  swaps : List (Swap κ δ) := []
  chainSwaps : List (ChainSwapInfo κ δ) := []
  reverseSwaps : List (ReverseSwap κ δ) := []

variable {κ δ : Type} [DecidableEq κ]

def Database.getSwaps (db : Database κ δ) (keys : List κ) : List (Swap κ δ) :=
  db.swaps.filter fun s => decide (0 < s.version) && s.refundPublicKey.any (keys.contains ·)

def Database.getChainSwaps (db : Database κ δ) (keys : List κ) : List (ChainSwapInfo κ δ) :=
  db.chainSwaps.filter fun s =>
    s.sending.theirPublicKey.any (keys.contains ·) ||
      s.receiving.theirPublicKey.any (keys.contains ·)

def Database.getReverseSwaps (db : Database κ δ) (keys : List κ) : List (ReverseSwap κ δ) :=
  db.reverseSwaps.filter fun s =>
    decide (0 < s.version) && s.claimPublicKey.any (keys.contains ·)

/-- The rows that the queries of one window return. -/
structure Rows (κ δ : Type) where
  swaps : List (Swap κ δ)
  chainSwaps : List (ChainSwapInfo κ δ)
  reverseSwaps : List (ReverseSwap κ δ)

def Rows.isEmpty (rows : Rows κ δ) : Bool :=
  rows.swaps.isEmpty && rows.chainSwaps.isEmpty && rows.reverseSwaps.isEmpty

def Database.query (db : Database κ δ) (swapTypes : List SwapType) (keys : List κ) : Rows κ δ where
  swaps := if .submarine ∈ swapTypes then db.getSwaps keys else []
  chainSwaps := if .chain ∈ swapTypes then db.getChainSwaps keys else []
  reverseSwaps := if .reverseSubmarine ∈ swapTypes then db.getReverseSwaps keys else []

/-! ## Processing the rows of a window -/

structure RescuableSwap (δ : Type) where
  id : Nat
  keyIndex : Nat
  details : δ
  deriving DecidableEq

inductive SwapDetails (δ : Type) where
  | utxo (keyIndex : Nat) (details : δ)
  | evm (claimAddress : String)
  deriving DecidableEq

structure RestorableSwap (δ : Type) where
  id : Nat
  claimDetails : Option (SwapDetails δ)
  refundDetails : Option (SwapDetails δ)
  deriving DecidableEq

def lookupFromKeys (keys : KeyMap κ) (key : Option κ) (id : Nat) : Except ScanError Nat :=
  match key with
  | none => .error (.noPublicKey id)
  | some key =>
    match keys key with
    | none => .error (.noKeyMapping id)
    | some index => .ok index

def lookupOptionalFromKeys (keys : KeyMap κ) (key : Option κ) : Option Nat := key.bind keys

def createRescuableSwap (keys : KeyMap κ) (s : Swap κ δ) : Except ScanError (RescuableSwap δ) := do
  let keyIndex ← lookupFromKeys keys s.refundPublicKey s.id
  let details ← s.details
  .ok { id := s.id, keyIndex, details }

def createRescuableChainSwap (keys : KeyMap κ) (s : ChainSwapInfo κ δ) :
    Except ScanError (RescuableSwap δ) := do
  let keyIndex ← lookupFromKeys keys s.receiving.theirPublicKey s.id
  let details ← s.receiving.details
  .ok { id := s.id, keyIndex, details }

def processRescuableSwaps (keys : KeyMap κ) (rows : Rows κ δ) :
    Except ScanError (List (RescuableSwap δ)) := do
  let swaps ← rows.swaps.mapM (createRescuableSwap keys)
  let chainSwaps ← (rows.chainSwaps.filter (·.receiving.theirPublicKey.isSome)).mapM
    (createRescuableChainSwap keys)
  .ok (swaps ++ chainSwaps)

def createRestorableSwap (keys : KeyMap κ) (s : Swap κ δ) :
    Except ScanError (RestorableSwap δ) := do
  let keyIndex ← lookupFromKeys keys s.refundPublicKey s.id
  let details ← s.details
  .ok { id := s.id, claimDetails := none, refundDetails := some (.utxo keyIndex details) }

/-- The details of a side of a chain swap whose key is in the map. -/
def utxoDetails (keys : KeyMap κ) (data : ChainSwapData κ δ) :
    Except ScanError (Option (SwapDetails δ)) :=
  match lookupOptionalFromKeys keys data.theirPublicKey with
  | some keyIndex => do
    let details ← data.details
    .ok (some (.utxo keyIndex details))
  | none => .ok none

/-- The details of the sending side. On an EVM chain the client claims with its address. -/
def sendingDetails (keys : KeyMap κ) (data : ChainSwapData κ δ) :
    Except ScanError (Option (SwapDetails δ)) :=
  match data.claimAddress with
  | some address => .ok (some (.evm address))
  | none => utxoDetails keys data

def createRestorableChainSwap (keys : KeyMap κ) (s : ChainSwapInfo κ δ) :
    Except ScanError (RestorableSwap δ) := do
  let claimDetails ← sendingDetails keys s.sending
  let refundDetails ← utxoDetails keys s.receiving
  if claimDetails.isNone && refundDetails.isNone then .error (.noKeyMapping s.id)
  else .ok { id := s.id, claimDetails, refundDetails }

def createRestorableReverseSwap (keys : KeyMap κ) (s : ReverseSwap κ δ) :
    Except ScanError (RestorableSwap δ) :=
  match s.claimAddress with
  | some address => .ok { id := s.id, claimDetails := some (.evm address), refundDetails := none }
  | none => do
    let keyIndex ← lookupFromKeys keys s.claimPublicKey s.id
    let details ← s.details
    .ok { id := s.id, claimDetails := some (.utxo keyIndex details), refundDetails := none }

def processRestorableSwaps (keys : KeyMap κ) (rows : Rows κ δ) :
    Except ScanError (List (RestorableSwap δ)) := do
  let swaps ← rows.swaps.mapM (createRestorableSwap keys)
  let chainSwaps ← rows.chainSwaps.mapM (createRestorableChainSwap keys)
  let reverseSwaps ← rows.reverseSwaps.mapM (createRestorableReverseSwap keys)
  .ok (swaps ++ chainSwaps ++ reverseSwaps)

/-! ## The scan -/

section Scan

variable {R : Type} (swapId : R → Nat)

/-- `result.insert`: the map of the results is keyed by the id of the swap. -/
def insert (result : List R) (swap : R) : List R :=
  result.filter (fun r => swapId r != swapId swap) ++ [swap]

def insertAll (result swaps : List R) : List R := swaps.foldl (insert swapId) result

variable (db : Database κ δ) (iterator : PubkeyIterator κ) (swapTypes : List SwapType)
  (process : KeyMap κ → Rows κ δ → Except ScanError (List R))

/-- The loop over the windows that start at `start`, `start + gapLimit`, ... below `scanEnd`, with
the map of the keys and the results so far. Additions are those of 32-bit integers. -/
def scanWindows (gapLimit scanEnd : Nat) (paginated : Bool) :
    Nat → Nat → KeyMap κ → List R → Except ScanError (List R)
  | 0, _, _, result => .ok result
  | fuel + 1, start, keysMap, result =>
    if start < scanEnd then do
      let last := min ((start + gapLimit) % 2 ^ 32) scanEnd
      let (keysMap, keys) ← iterator.deriveKeys keysMap start last
      let rows := db.query swapTypes keys
      if !paginated && rows.isEmpty then .ok result
      else do
        let swaps ← process keysMap rows
        let result := insertAll swapId result swaps
        if iterator.maxKeys ≤ last then .ok result
        else scanWindows gapLimit scanEnd paginated fuel (start + gapLimit) keysMap result
    else .ok result

/-- `gap_limit` of the scan, which the number of keys bounds. -/
def scanGap : Nat := min iterator.gapLimit iterator.maxKeys

/-- The indices that a scan is about. -/
def scanRange (startIndex : Option Nat) (pagination : Option Pagination) :
    Except ScanError (Nat × Nat) :=
  match pagination with
  | some page => do
    let last ← page.endIndex
    .ok (page.start, last)
  | none => .ok (startIndex.getD 0, iterator.maxKeys)

/-- `scan_swaps_paginated`. A window has at least one index, so the loop makes at most as many
steps as there are indices to scan. -/
def scanSwapsPaginated (startIndex : Option Nat) (pagination : Option Pagination) :
    Except ScanError (List R) :=
  if scanGap iterator = 0 then .ok []
  else do
    let (scanStart, scanEnd) ← scanRange iterator startIndex pagination
    scanWindows swapId db iterator swapTypes process (scanGap iterator) scanEnd pagination.isSome
      (scanEnd - scanStart) scanStart (fun _ => none) []

end Scan

/-- The scan of `rescue`. -/
def rescueScan (db : Database κ δ) (iterator : PubkeyIterator κ) :
    Except ScanError (List (RescuableSwap δ)) :=
  scanSwapsPaginated RescuableSwap.id db iterator [.submarine, .chain] processRescuableSwaps
    none none

/-- The scan of `restore`. -/
def restoreScan (db : Database κ δ) (iterator : PubkeyIterator κ) :
    Except ScanError (List (RestorableSwap δ)) :=
  scanSwapsPaginated RestorableSwap.id db iterator [.submarine, .chain, .reverseSubmarine]
    processRestorableSwaps none iterator.pagination

/-! ## The highest key index -/

def SwapDetails.keyIndex? : SwapDetails δ → Option Nat
  | .utxo keyIndex _ => some keyIndex
  | .evm _ => none

def RestorableSwap.keyIndex? (swap : RestorableSwap δ) : Option Nat :=
  match swap.refundDetails.bind SwapDetails.keyIndex?,
    swap.claimDetails.bind SwapDetails.keyIndex? with
  | some refund, some claim => some (max refund claim)
  | some refund, none => some refund
  | none, some claim => some claim
  | none, none => none

def highestIndex (restorable : List (RestorableSwap δ)) : Option Nat :=
  (restorable.filterMap RestorableSwap.keyIndex?).max?

/-- The scan of `index`, which starts after the cached index. -/
def indexScan (db : Database κ δ) (iterator : PubkeyIterator κ) (startIndex : Option Nat) :
    Except ScanError (List (RestorableSwap δ)) :=
  scanSwapsPaginated RestorableSwap.id db iterator [.submarine, .chain, .reverseSubmarine]
    processRestorableSwaps (startIndex.map (· + 1)) none

/-- What `index` returns. -/
def indexResult (highestIndex startIndex : Option Nat) : Int :=
  match highestIndex with
  | some index => index
  | none =>
    match startIndex with
    | some index => index
    | none => -1

end Boltz.SwapRescue
