import Boltz.World

/-!
# Claims of chain swaps and the preimage (`ChainSwapSigner.ts`, `SwapNursery.ts`)

The claims of a chain swap, down to the bytes of the preimage: `sha256` is the hash function.
Every other part of the backend that writes the row of a chain swap is one task that stores a
status through an instance it read before.
-/

namespace Boltz.ChainSwapClaims

open Async SwapUpdateEvent

abbrev Bytes := List UInt8

/-- The fields of a chain swap that its claims read and write. The outpoints are the lockups of
the server and of the user. -/
structure ChainSwap where
  preimageHash : Bytes
  sendingCurrency : Currency
  receivingCurrency : Currency
  sendingOutpoint : Option (Nat × Nat) := none
  receivingOutpoint : Option (Nat × Nat) := none
  status : SwapUpdateEvent := swapCreated
  preimage : Option Bytes := none
  fee : Option Nat := none
  deriving DecidableEq

namespace ChainSwap

def isSettled (swap : ChainSwap) : Bool := swap.status = transactionClaimed

/-- Whether one of the two legs has the outpoint. -/
def hasOutpoint (swap : ChainSwap) (outpoint : Nat × Nat) : Bool :=
  [swap.sendingOutpoint, swap.receivingOutpoint].contains (some outpoint)

def save (old new stored : ChainSwap) : ChainSwap :=
  { stored with
    sendingOutpoint := saved old.sendingOutpoint new.sendingOutpoint stored.sendingOutpoint
    receivingOutpoint := saved old.receivingOutpoint new.receivingOutpoint stored.receivingOutpoint
    status := saved old.status new.status stored.status
    preimage := saved old.preimage new.preimage stored.preimage
    fee := saved old.fee new.fee stored.fee }

end ChainSwap

/-- An entry of `chainSwapsToClaim` of the deferred claimer. -/
structure ToClaim where
  swap : Instance ChainSwap
  preimage : Bytes

inductive Lock where
  | chainSwap | cooperativeBroadcast
  /-- `swapsToClaim` of the chain swap signer -/
  | claimable
  | batchClaim
  /-- `swapsToClaim` of the deferred claimer -/
  | swapsToClaim
  deriving DecidableEq, Repr

/-- `claimable` is the map of the chain swap signer, with whether there is a session. -/
structure World where
  chainSwaps : Table ChainSwap := .empty
  toClaim : Table ToClaim := .empty
  claimable : Table Bool := .empty
  locks : Lock → Option Nat := fun _ => none
  deferredClaimSymbols : List Nat := []

inductive Label where
  | other
  /-- `signClaim` returns a partial signature for the user's claim -/
  | claimSigned (id : Nat)
  deriving DecidableEq, Repr

abbrev M := Prog Label World Answer Error
abbrev History := Hist Label World Answer

/-! ## Steps -/

def read {β : Type} (f : World → β) : M β := Prog.call ⟨.other, fun _ w _ => some (f w, w)⟩

def write (f : World → World) (l : Label := .other) : M Unit :=
  Prog.call ⟨l, fun _ w _ => some ((), f w)⟩

def ask {β : Type} (decode : Answer → Option β) : M β :=
  Prog.call ⟨.other, fun _ w ω => (decode ω).map (·, w)⟩

def acquire (key : Lock) : M Unit :=
  Prog.call
    { label := .other
      run := fun t w _ =>
        match w.locks key with
        | none => some ((), { w with locks := fun k => if k = key then some t else w.locks k })
        | some _ => none }

def release (key : Lock) : M Unit :=
  write fun w => { w with locks := fun k => if k = key then none else w.locks k }

def withLock {α : Type} (key : Lock) (body : M α) : M α := do
  acquire key
  body.finally_ (release key)

/-- A call that may reject. -/
def external : M Unit := do
  Prog.throwIf (!(← ask Answer.flag?)) (.message "external call failed")

/-! ## Rows -/

namespace ChainSwapRepository

def getChainSwap (id : Nat) : M (Option (Instance ChainSwap)) := read fun w => w.chainSwaps.byId id

def getChainSwapWhere (p : ChainSwap → Bool) : M (Option (Instance ChainSwap)) :=
  read fun w => w.chainSwaps.find p

def getChainSwaps (p : ChainSwap → Bool) : M (List (Instance ChainSwap)) :=
  read fun w => w.chainSwaps.all p

/-- `chainSwap.update(values)` and the updates of its two data rows. -/
def update (swap : Instance ChainSwap) (values : ChainSwap → ChainSwap) :
    M (Instance ChainSwap) := do
  write fun w => { w with chainSwaps := w.chainSwaps.modify swap.id (swap.row.save (values swap.row)) }
  pure ⟨swap.id, values swap.row⟩

def setTransactionClaimPending (swap : Instance ChainSwap) (preimage : Bytes) :
    M (Instance ChainSwap) :=
  update swap fun s => { s with preimage := some preimage, status := transactionClaimPending }

def setClaimMinerFee (swap : Instance ChainSwap) (preimage : Bytes) (minerFee : Nat) :
    M (Instance ChainSwap) :=
  update swap fun s =>
    { s with status := transactionClaimed, preimage := some preimage, fee := some minerFee }

/-- `WrappedSwapRepository.setPreimage` -/
def setPreimage (swap : Instance ChainSwap) (preimage : Bytes) : M (Instance ChainSwap) :=
  update swap fun s => { s with preimage := some preimage }

/-- A new swap; its id is new too. -/
def addChainSwap (id : Nat) (preimageHash : Bytes) (sendingCurrency receivingCurrency : Currency) :
    M Unit :=
  write fun w =>
    match w.chainSwaps.get id with
    | some _ => w
    | none =>
      { w with
        chainSwaps := w.chainSwaps.put id { preimageHash, sendingCurrency, receivingCurrency } }

/-- The statuses that are stored by the handlers of lockups, confirmations, expiries and
refunds. -/
def otherStatuses : List SwapUpdateEvent :=
  [swapCreated, transactionMempool, transactionConfirmed, transactionZeroConfRejected,
    transactionLockupFailed, transactionServerMempool, transactionServerConfirmed,
    transactionFailed, transactionRefunded, swapExpired]

/-- One of these handlers: `swap` was read at some time before, and a lockup may be stored too. -/
def setStatus (swap : Instance ChainSwap) (status : SwapUpdateEvent)
    (sendingOutpoint receivingOutpoint : Option (Nat × Nat)) : M Unit := do
  Prog.when (otherStatuses.contains status) do
    let _ ← update swap fun s =>
      { s with
        status
        sendingOutpoint := sendingOutpoint.or s.sendingOutpoint
        receivingOutpoint := receivingOutpoint.or s.receivingOutpoint }

end ChainSwapRepository

/-! ## The deferred claimer -/

namespace DeferredClaimer

def shouldBeDeferred (swap : ChainSwap) : M Bool := do
  let symbols ← read fun w => w.deferredClaimSymbols
  if !symbols.contains swap.receivingCurrency.symbol then pure false
  else match swap.receivingCurrency.type.backend with
    | .ark => pure false
    | .evm => ask Answer.flag? -- the lockup is on the latest contracts
    | .utxo => pure true

def setToClaim (swap : Instance ChainSwap) (preimage : Bytes) : M Unit :=
  write fun w => { w with toClaim := w.toClaim.put swap.id ⟨swap, preimage⟩ }

/-- The entries of the symbol are taken out of the map. -/
def takeToClaim (symbol : Nat) : M (List ToClaim) :=
  Prog.call
    { label := .other
      run := fun _ w _ =>
        let ofSymbol (e : ToClaim) : Bool := e.swap.row.receivingCurrency.symbol == symbol
        some ((w.toClaim.all ofSymbol).map (·.row),
          { w with toClaim :=
            { w.toClaim with get := fun id => (w.toClaim.get id).filter fun e => !ofSymbol e } }) }

def restoreToClaim (chunk : List ToClaim) : M Unit :=
  write fun w =>
    { w with toClaim := chunk.foldl (fun m e => m.put e.swap.id e) w.toClaim }

def broadcastClaim (chunk : List ToClaim) : M Unit := do
  match ← ask Answer.maybe? with -- the claim transaction and its broadcast
  | none => Prog.throw (.message "batch claim failed")
  | some transactionFee =>
    let transactionFeePerSwap := (transactionFee + chunk.length - 1) / chunk.length
    Prog.forEach chunk fun toClaim => do
      let _ ← ChainSwapRepository.setClaimMinerFee toClaim.swap toClaim.preimage
        transactionFeePerSwap

def claimChunk (chunk : List ToClaim) : M Unit :=
  (broadcastClaim chunk).catching fun _ => withLock .swapsToClaim (restoreToClaim chunk)

def maxBatchClaimChunk : Nat := 250

/-- `fuel` is the length of the list. -/
def claimChunks : (fuel : Nat) → List ToClaim → M Unit
  | 0, _ => pure ()
  | _, [] => pure ()
  | fuel + 1, entries => do
    claimChunk (entries.take maxBatchClaimChunk)
    claimChunks fuel (entries.drop maxBatchClaimChunk)

def batchClaim (symbol : Nat) : M Unit := do
  let entries ← withLock .swapsToClaim (takeToClaim symbol)
  claimChunks entries.length entries

def sweepSymbol (symbol : Nat) : M Unit := withLock .batchClaim (batchClaim symbol)

def deferClaim (swap : Instance ChainSwap) (preimage : Bytes) : M Bool := do
  if !(← shouldBeDeferred swap.row) then pure false
  else
    let swap ← ChainSwapRepository.setTransactionClaimPending swap preimage
    withLock .swapsToClaim (setToClaim swap preimage)
    -- a sweep trigger may fire
    Prog.when (← ask Answer.flag?) (sweepSymbol swap.row.receivingCurrency.symbol)
    pure true

/-- The preimage of a row; `getHexBuffer(swap.preimage!)` throws when there is none. -/
def setLeftover (swap : Instance ChainSwap) : M Unit :=
  match swap.row.preimage with
  | some preimage => setToClaim swap preimage
  | none => Prog.throw (.message "no preimage")

def batchClaimLeftovers : M Unit := do
  let swaps ← ChainSwapRepository.getChainSwaps fun s => s.status == transactionClaimPending
  withLock .swapsToClaim (Prog.forEach swaps setLeftover)
  let symbols ← read fun w => w.deferredClaimSymbols
  Prog.forEach symbols sweepSymbol

def getToClaimDetails (swap : Instance ChainSwap) : M (Option ToClaim) := do
  if swap.row.receivingCurrency.type.backend ≠ .utxo then pure none
  else withLock .swapsToClaim (read fun w => w.toClaim.get swap.id)

def broadcastCooperative (swap : Instance ChainSwap) : M Unit :=
  withLock .batchClaim do
    Prog.throwIf (← ask Answer.flag?) (.message "cooperative signatures are disabled")
    match ← getToClaimDetails swap with
    | none => Prog.throw (.message "not eligible for cooperative claim broadcast")
    | some toClaim => do
      Prog.throwIf (!(← ask Answer.flag?)) (.message "no session")
      withLock .swapsToClaim do
        match ← ask Answer.maybe? with -- broadcastCooperativeTransaction
        | none => Prog.throw (.message "broadcast failed")
        | some fee => do
          write fun w => { w with toClaim := w.toClaim.erase swap.id }
          let _ ← ChainSwapRepository.setClaimMinerFee toClaim.swap toClaim.preimage fee

end DeferredClaimer

/-! ## Settlement -/

/-- `claimUtxo`, `claimEther`, `claimERC20` and `claimVtxo`: the claim transaction and its fee. -/
def claim (swap : Instance ChainSwap) (preimage : Bytes) : M Unit := do
  match ← ask Answer.maybe? with
  | none => Prog.throw (.message "claim failed")
  | some fee =>
    let _ ← ChainSwapRepository.setClaimMinerFee swap preimage fee

/-- `claimUtxo` asks for a deferred claim once more. -/
def claimOf (swap : Instance ChainSwap) (preimage : Bytes) : M Unit := do
  match swap.row.receivingCurrency.type.backend with
  | .utxo =>
    external -- getRawTransaction
    if ← DeferredClaimer.deferClaim swap preimage then pure () else claim swap preimage
  | .evm =>
    external -- querySwapValuesFromLock
    claim swap preimage
  | .ark => claim swap preimage

def fetchSwapForSettlement (swap : Instance ChainSwap) : M (Option (Instance ChainSwap)) := do
  let fetched ← ChainSwapRepository.getChainSwap swap.id
  pure (fetched.filter fun f =>
    !(f.row.status == transactionClaimPending || successSwapUpdateEvents.contains f.row.status))

def attemptSettleSwap (swap : Instance ChainSwap) (preimage : Bytes) : M Unit := do
  match ← fetchSwapForSettlement swap with
  | none => pure ()
  | some swap =>
    if ← DeferredClaimer.deferClaim swap preimage then pure () else claimOf swap preimage

/-! ## The signer -/

namespace ChainSwapSigner

section

variable (sha256 : Bytes → Bytes)

def isPreimageValid (swap : ChainSwap) (preimage : Bytes) : Bool :=
  preimage.length == 32 && sha256 preimage == swap.preimageHash

def canClaimCooperatively (swap : ChainSwap) : Bool :=
  swap.receivingCurrency.type == .bitcoinLike || swap.receivingCurrency.type == .liquid

def registerForClaim (swap : Instance ChainSwap) : M Unit :=
  withLock .claimable <| write fun w =>
    match w.claimable.get swap.id with
    | some _ => w
    | none =>
      if canClaimCooperatively swap.row then { w with claimable := w.claimable.put swap.id false }
      else w

def removeFromClaimable (id : Nat) : M Unit :=
  withLock .claimable (write fun w => { w with claimable := w.claimable.erase id })

def getToClaimDetails (id : Nat) : M (Option Bool) :=
  withLock .claimable (read fun w => w.claimable.get id)

/-- The details of a cooperative claim start a session. -/
def getCooperativeDetails (swap : Instance ChainSwap) : M Unit := do
  Prog.throwIf (← ask Answer.flag?) (.message "cooperative signatures are disabled")
  Prog.throwIf swap.row.isSettled (.message "server claim succeeded already")
  match ← getToClaimDetails swap.id with
  | none => Prog.throw (.message "not eligible for cooperative claim")
  | some _ => do
    external -- createCoopDetails
    write fun w => { w with claimable := w.claimable.modify swap.id fun _ => true }

/-- `broadcastReceivingClaimTransaction` -/
def broadcastReceivingClaimTransaction (swap : Instance ChainSwap) (preimage : Bytes) :
    M (Instance ChainSwap) := do
  match ← ask Answer.maybe? with -- broadcastCooperativeTransaction
  | none => Prog.throw (.message "broadcast failed")
  | some fee => do
    removeFromClaimable swap.id
    ChainSwapRepository.setClaimMinerFee swap preimage fee

def claimCooperatively (swap : Instance ChainSwap) (preimage : Bytes) (theirSignature : Bool) :
    M (Instance ChainSwap) := do
  Prog.throwIf ((← getToClaimDetails swap.id) != some true)
    (.message "not eligible for cooperative claim broadcast")
  Prog.throwIf (!theirSignature) (.message "invalid partial signature")
  broadcastReceivingClaimTransaction swap preimage

/-- The part of `signClaim` for swaps that are not settled. -/
def settleClaim (swap : Instance ChainSwap) (preimage : Option Bytes) (theirSignature : Bool) :
    M (Instance ChainSwap) := do
  match preimage with
  | none => Prog.throw (.message "incorrect preimage")
  | some preimage => do
    Prog.throwIf (!isPreimageValid sha256 swap.row preimage) (.message "incorrect preimage")
    let swap ← ChainSwapRepository.setPreimage swap preimage
    if canClaimCooperatively swap.row then claimCooperatively swap preimage theirSignature
    else do
      attemptSettleSwap swap preimage
      pure swap

/-- A settled swap is signed without a preimage. -/
def swapToSign (swap : Instance ChainSwap) (preimage : Option Bytes) (theirSignature : Bool) :
    M (Instance ChainSwap) :=
  if swap.row.isSettled then pure swap else settleClaim sha256 swap preimage theirSignature

/-- `swap` was read before. -/
def signClaim (swap : Instance ChainSwap) (preimage : Option Bytes) (theirSignature : Bool) :
    M Unit := do
  Prog.throwIf (swap.row.status = transactionRefunded)
    (.message "not eligible for cooperative claim")
  withLock .cooperativeBroadcast do
    Prog.throwIf (← ask Answer.flag?) (.message "cooperative signatures are disabled")
    let swap ← swapToSign sha256 swap preimage theirSignature
    external -- createPartialSignature
    write (fun w => w) (.claimSigned swap.id)

end

end ChainSwapSigner

/-! ## Claims of users -/

/-- The handler of `chainSwap.claimed`. -/
def handleChainSwapClaim (swap : Instance ChainSwap) (preimage : Bytes) : M Unit :=
  withLock .chainSwap do
    attemptSettleSwap swap preimage
    ChainSwapSigner.removeFromClaimable swap.id

/-- The handler of `claim` of the EVM nurseries. -/
def handleEvmClaim (swap : Instance ChainSwap) (preimage : Bytes) : M Unit :=
  withLock .chainSwap (attemptSettleSwap swap preimage)

section

variable (sha256 : Bytes → Bytes)

def findWitnessPreimage (witness : List Bytes) (preimageHash : Bytes) : Option Bytes :=
  witness.find? fun element => element.length == 32 && sha256 element == preimageHash

/-- The swap whose lockup was spent. -/
def swapOfOutpoint (outpoint : Nat × Nat) : M (Option (Instance ChainSwap)) :=
  ChainSwapRepository.getChainSwapWhere fun s =>
    s.hasOutpoint outpoint &&
      [transactionServerMempool, transactionServerConfirmed, transactionRefunded].contains s.status

def checkChainSwapClaim (outpoint : Nat × Nat) (witness : List Bytes) : M Unit := do
  match ← swapOfOutpoint outpoint with
  | none => pure ()
  | some swap =>
    match findWitnessPreimage sha256 witness swap.row.preimageHash with
    | some preimage => Prog.spawn (handleChainSwapClaim swap preimage)
    | none => pure ()

/-- `fetchClaimPreimage` of the Ark nursery: the condition witnesses of the spending
transaction. -/
def fetchClaimPreimage (preimages : List Bytes) (preimageHash : Bytes) : Option Bytes :=
  preimages.find? fun preimage => sha256 preimage == preimageHash

def checkArkClaim (outpoint : Nat × Nat) (preimages : List Bytes) : M Unit := do
  match ← swapOfOutpoint outpoint with
  | none => pure ()
  | some swap =>
    match fetchClaimPreimage sha256 preimages swap.row.preimageHash with
    | some preimage => Prog.spawn (handleChainSwapClaim swap preimage)
    | none => pure ()

/-- `eth.claim` and `erc20.claim`. -/
def evmClaim (preimageHash preimage : Bytes) : M Unit := do
  match ← ChainSwapRepository.getChainSwapWhere fun s =>
      s.preimageHash == preimageHash && s.status != transactionClaimed with
  | none => pure ()
  | some swap =>
    Prog.when (swap.row.sendingCurrency.type.backend = .evm)
      (Prog.spawn (handleEvmClaim swap preimage))

/-! ## Tasks -/

/-- `POST /swap/chain/:id/claim` -/
def claimChainSwap (id : Nat) (preimage : Option Bytes) (toSign theirSignature : Bool) :
    M Unit := do
  match ← ChainSwapRepository.getChainSwap id with
  | none => Prog.throw (.message "swap not found")
  | some swap =>
    if swap.row.status ≠ transactionClaimPending then do
      Prog.throwIf (!toSign) (.message "undefined parameter: toSign")
      ChainSwapSigner.signClaim sha256 swap preimage theirSignature
    else do
      Prog.throwIf (!theirSignature) (.message "undefined parameter: signature")
      DeferredClaimer.broadcastCooperative swap

/-- A new process over the same rows. Calls of the old one may still go on here. -/
def restart : M Unit := do
  write fun w => { w with toClaim := .empty, claimable := .empty, locks := fun _ => none }
  DeferredClaimer.batchClaimLeftovers

inductive Entry where
  | addChainSwap (id : Nat) (preimageHash : Bytes) (sendingCurrency receivingCurrency : Currency)
  /-- another part of the backend reads the swap and stores a status some time later -/
  | setStatus (id : Nat) (status : SwapUpdateEvent)
      (sendingOutpoint receivingOutpoint : Option (Nat × Nat))
  | registerForClaim (id : Nat)
  | getCooperativeDetails (id : Nat)
  | claimChainSwap (id : Nat) (preimage : Option Bytes) (toSign theirSignature : Bool)
  /-- an input of a transaction on a UTXO chain -/
  | checkChainSwapClaim (outpoint : Nat × Nat) (witness : List Bytes)
  /-- a vHTLC was spent -/
  | checkArkClaim (outpoint : Nat × Nat) (preimages : List Bytes)
  /-- a claim event of the contracts -/
  | evmClaim (preimageHash preimage : Bytes)
  | sweep (symbol : Nat)
  | restart

/-- A task that starts with the swap of an id. -/
def withSwap (id : Nat) (task : Instance ChainSwap → M Unit) : M Unit := do
  match ← ChainSwapRepository.getChainSwap id with
  | none => pure ()
  | some swap => task swap

def start : Entry → M Unit
  | .addChainSwap id preimageHash sendingCurrency receivingCurrency =>
    ChainSwapRepository.addChainSwap id preimageHash sendingCurrency receivingCurrency
  | .setStatus id status sendingOutpoint receivingOutpoint =>
    withSwap id fun swap =>
      ChainSwapRepository.setStatus swap status sendingOutpoint receivingOutpoint
  | .registerForClaim id => withSwap id ChainSwapSigner.registerForClaim
  | .getCooperativeDetails id => withSwap id ChainSwapSigner.getCooperativeDetails
  | .claimChainSwap id preimage toSign theirSignature =>
    claimChainSwap sha256 id preimage toSign theirSignature
  | .checkChainSwapClaim outpoint witness => checkChainSwapClaim sha256 outpoint witness
  | .checkArkClaim outpoint preimages => checkArkClaim sha256 outpoint preimages
  | .evmClaim preimageHash preimage => evmClaim preimageHash preimage
  | .sweep symbol => DeferredClaimer.sweepSymbol symbol
  | .restart => restart

end

end Boltz.ChainSwapClaims
