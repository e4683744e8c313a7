import Boltz.Db.Repositories

/-!
# Cooperative and deferred claims (`CoopSignerBase.ts`, `DeferredClaimer.ts`)
-/

namespace Boltz

open Async SwapUpdateEvent

/-- `setMinerFee` or `setClaimMinerFee`: the swap was claimed by the server. -/
def storeClaimed (swap : ClaimSwap) (preimage minerFee : Nat) : M Unit := do
  match swap with
  | .submarine swap =>
    let _ ← SwapRepository.setMinerFee swap minerFee
  | .chain swap =>
    let _ ← ChainSwapRepository.setClaimMinerFee swap preimage minerFee

namespace CoopSignerBase

/-- A new nonce is generated and becomes the session of the object. -/
def generateNonce (object : Nat) : M Unit :=
  write fun w =>
    let c := w.cooperative
    { w with cooperative :=
      { c with
        objects := fun j =>
          if j = object then (c.objects j).map ({ · with cooperative := some c.nextNonce })
          else c.objects j
        nextNonce := c.nextNonce + 1 } }

/-- The nonce of the object's session. -/
def sessionOf (object : Nat) : M (Option Nat) :=
  read fun w => (w.cooperative.objects object).bind (·.cooperative)

def createCoopDetails (object : Nat) : M Unit := do
  Prog.when (← sessionOf object).isNone external -- wallet.getAddress
  external -- getRawTransaction
  external -- estimateFee
  external -- hashForWitnessV1
  generateNonce object

/-- Signs with the nonce once the client's partial signature is verified, then broadcasts. -/
def broadcastCooperativeTransaction (nonce : Nat) : M Nat := do
  Prog.throwIf (!(← ask Answer.flag?)) (.message "invalid partial signature")
  mark (.signPartial nonce)
  Prog.throwIf (!(← ask Answer.flag? (.broadcastSigned nonce)))
    (.message "sendRawTransaction failed")
  match ← ask Answer.maybe? (.broadcastSigned nonce) with
  | some fee => pure fee
  | none => Prog.throw (.message "calculateTransactionFee failed")

end CoopSignerBase

namespace DeferredClaimer

def maxBatchClaimChunk : Nat := 250

/-- `arrayToChunks`; `fuel` is the length of the list. -/
def arrayToChunks {α : Type} (size : Nat) : (fuel : Nat) → List α → List (List α)
  | 0, _ => []
  | _, [] => []
  | fuel + 1, xs => xs.take size :: arrayToChunks size fuel (xs.drop size)

def shouldBeDeferred (swap : ClaimSwap) : M Bool := do
  let symbols ← read fun w => w.deferredClaimSymbols
  if !symbols.contains swap.receivingCurrency.symbol then pure false
  else if swap.version ≠ .taproot then pure false
  else match swap.receivingCurrency.type.backend with
    | .ark => pure false
    | .evm => ask Answer.flag? -- the lockup is on the latest contracts
    | .utxo => pure true

/-- `map.set(swap.id, { swap, preimage })`: a new object. -/
def setToClaim (swap : ClaimSwap) (preimage : Nat) : M Unit :=
  write fun w =>
    let c := w.cooperative
    let c := { c with
      objects := fun j => if j = c.nextObject then some { swap, preimage } else c.objects j
      nextObject := c.nextObject + 1 }
    let object := w.cooperative.nextObject
    { w with cooperative :=
      match swap with
      | .submarine swap => { c with swapsToClaim := c.swapsToClaim.put swap.id object }
      | .chain swap => { c with chainSwapsToClaim := c.chainSwapsToClaim.put swap.id object } }

/-- The objects of a symbol, with the keys of the maps they are in. -/
def ofSymbol (c : Cooperative) (symbol : Nat) (map : Table Nat) : List Nat :=
  (map.all fun object =>
    (c.objects object).any fun o => o.swap.receivingCurrency.symbol == symbol).map (·.row)

/-- All objects of the symbol are taken out of both maps. -/
def takeToClaim (symbol : Nat) : M (List Nat) :=
  Prog.call
    { label := .other
      run := fun _ w _ =>
        let c := w.cooperative
        let swaps := ofSymbol c symbol c.swapsToClaim
        let chainSwaps := ofSymbol c symbol c.chainSwapsToClaim
        let clear (map : Table Nat) (taken : List Nat) : Table Nat :=
          { map with get := fun id => (map.get id).filter fun object => !taken.contains object }
        some (swaps ++ chainSwaps,
          { w with cooperative :=
            { c with
              swapsToClaim := clear c.swapsToClaim swaps
              chainSwapsToClaim := clear c.chainSwapsToClaim chainSwaps } }) }

def putBack (c : Cooperative) (object : Nat) : Cooperative :=
  match c.objects object with
  | some ⟨.submarine swap, _, _⟩ => { c with swapsToClaim := c.swapsToClaim.put swap.id object }
  | some ⟨.chain swap, _, _⟩ =>
    { c with chainSwapsToClaim := c.chainSwapsToClaim.put swap.id object }
  | none => c

/-- The same objects are put back. -/
def restoreToClaim (objects : List Nat) : M Unit :=
  write fun w => { w with cooperative := objects.foldl putBack w.cooperative }

def objectOf (object : Nat) : M (Option ToClaim) := read fun w => w.cooperative.objects object

/-- The swap of a claimed object is stored as claimed. -/
def storeObjectClaimed (object minerFee : Nat) : M Unit := do
  match ← objectOf object with
  | some toClaim => storeClaimed toClaim.swap (toClaim.preimage.getD 0) minerFee
  | none => pure ()

def broadcastClaim (objects : List Nat) : M Unit := do
  match ← ask Answer.maybe? with -- claimBatch and its broadcast
  | none => Prog.throw (.message "batch claim failed")
  | some transactionFee =>
    let transactionFeePerSwap := (transactionFee + objects.length - 1) / objects.length
    Prog.forEach objects fun object => storeObjectClaimed object transactionFeePerSwap

/-- One chunk of a batch; returns whether it was claimed. -/
def claimChunk (objects : List Nat) : M Bool := do
  (do broadcastClaim objects; pure true : M Bool).catching fun _ => do
    withLock .swapsToClaim (restoreToClaim objects)
    pure false

def claimChunks : List (List Nat) → Bool → M Bool
  | [], claimed => pure claimed
  | chunk :: chunks, claimed => do
    let ok ← claimChunk chunk
    claimChunks chunks (claimed || ok)

def batchClaim (symbol : Nat) : M Unit := do
  let objects ← withLock .swapsToClaim (takeToClaim symbol)
  if objects.isEmpty then pure ()
  else
    let claimed ← claimChunks (arrayToChunks maxBatchClaimChunk objects.length objects) false
    Prog.throwIf (!claimed) (.message "batch claim failed")

def sweepSymbol (symbol : Nat) : M Unit := withLock .batchClaim (batchClaim symbol)

def setClaimPending (swap : ClaimSwap) (preimage : Nat) : M ClaimSwap :=
  match swap with
  | .submarine swap => do
    pure (.submarine (← SwapRepository.setSwapStatus swap transactionClaimPending))
  | .chain swap => do
    pure (.chain (← ChainSwapRepository.setTransactionClaimPending swap preimage))

def deferClaim (swap : ClaimSwap) (preimage : Nat) : M Bool := do
  if !(← shouldBeDeferred swap) then pure false
  else
    let swap ← setClaimPending swap preimage
    withLock .swapsToClaim (setToClaim swap preimage)
    -- a sweep trigger may fire
    Prog.when (← ask Answer.flag?) (sweepSymbol swap.receivingCurrency.symbol)
    pure true

/-- Only UTXO based currencies can be claimed cooperatively. -/
def getToClaimDetails (type : SwapType) (id : Nat) (currency : Currency) : M (Option Nat) := do
  if currency.type.backend ≠ .utxo then pure none
  else withLock .swapsToClaim <| read fun w =>
    (if type = .submarine then w.cooperative.swapsToClaim
      else w.cooperative.chainSwapsToClaim).get id

def getCooperativeDetails (swap : ClaimSwap) : M Unit := do
  Prog.throwIf (← ask Answer.flag?) (.message "cooperative signatures are disabled")
  Prog.throwIf (← ask Answer.flag?) (.message "swap is batch-only")
  match ← getToClaimDetails swap.type swap.id swap.receivingCurrency with
  | none => Prog.throw (.message "not eligible for cooperative claim")
  | some object => CoopSignerBase.createCoopDetails object

def deleteToClaim (type : SwapType) (id : Nat) : M Unit :=
  write fun w =>
    let c := w.cooperative
    { w with cooperative :=
      if type = .submarine then { c with swapsToClaim := c.swapsToClaim.erase id }
      else { c with chainSwapsToClaim := c.chainSwapsToClaim.erase id } }

def broadcastCooperative (swap : ClaimSwap) : M Unit :=
  withLock .batchClaim do
    Prog.throwIf (← ask Answer.flag?) (.message "cooperative signatures are disabled")
    match ← getToClaimDetails swap.type swap.id swap.receivingCurrency with
    | none => Prog.throw (.message "not eligible for cooperative claim broadcast")
    | some object =>
      Prog.throwIf (← CoopSignerBase.sessionOf object).isNone
        (.message "not eligible for cooperative claim broadcast")
      withLock .swapsToClaim do
        match ← CoopSignerBase.sessionOf object with
        | none => Prog.throw (.message "no session")
        | some nonce =>
          let fee ← CoopSignerBase.broadcastCooperativeTransaction nonce
          deleteToClaim swap.type swap.id
          storeObjectClaimed object fee

end DeferredClaimer

end Boltz
