import Boltz.Chain.Transactions
import Boltz.Utils

/-!
# Filters of a rescan (`boltzr/src/swap/filters.rs`)

What a rescan looks for is read from the database: the lockup scripts of swaps that wait for a
transaction of the user, and the outpoints of the server's lockups that wait for a claim. The
nursery (`lib/swap/UtxoNursery.ts`) has lists of statuses of its own. The texts of the statuses in
the database are what both share.
-/

namespace Boltz

namespace Filters

/-! ## Rows of the sidecar (`boltzr/src/db/models`) -/

inductive SwapUpdate where
  | swapCreated | swapExpired
  | transactionMempool | transactionConfirmed | transactionClaimPending | transactionClaimed
  | transactionLockupFailed | transactionZeroconfRejected | transactionDirect | transactionRefunded
  | transactionServerMempool | transactionServerConfirmed
  | invoiceSet | invoicePending | invoicePaid | invoiceFailedToPay
  | unknown
  deriving DecidableEq, Repr

namespace SwapUpdate

def toString : SwapUpdate → String
  | swapCreated => "swap.created"
  | swapExpired => "swap.expired"
  | transactionMempool => "transaction.mempool"
  | transactionConfirmed => "transaction.confirmed"
  | transactionClaimPending => "transaction.claim.pending"
  | transactionClaimed => "transaction.claimed"
  | transactionLockupFailed => "transaction.lockupFailed"
  | transactionZeroconfRejected => "transaction.zeroconf.rejected"
  | transactionDirect => "transaction.direct"
  | transactionRefunded => "transaction.refunded"
  | transactionServerMempool => "transaction.server.mempool"
  | transactionServerConfirmed => "transaction.server.confirmed"
  | invoiceSet => "invoice.set"
  | invoicePending => "invoice.pending"
  | invoicePaid => "invoice.paid"
  | invoiceFailedToPay => "invoice.failedToPay"
  | unknown => "Unknown"

def all : List SwapUpdate :=
  [swapCreated, swapExpired, transactionMempool, transactionConfirmed, transactionClaimPending,
    transactionClaimed, transactionLockupFailed, transactionZeroconfRejected, transactionDirect,
    transactionRefunded, transactionServerMempool, transactionServerConfirmed, invoiceSet,
    invoicePending, invoicePaid, invoiceFailedToPay]

def parse (value : String) : SwapUpdate :=
  (all.find? fun status => status.toString = value).getD unknown

end SwapUpdate

def serializeSwapUpdates (statuses : List SwapUpdate) : List String :=
  statuses.map SwapUpdate.toString

inductive FilterError where
  | invalidPair (pair : String)
  | invalidHex
  | invalidDataCount
  | invalidData
  deriving DecidableEq, Repr

structure Pair where
  base : String
  quote : String
  deriving DecidableEq, Repr

def splitPair (pair : String) : Except FilterError Pair :=
  match (pair.toList.splitOn '/').map String.ofList with
  | [base, quote] => .ok { base, quote }
  | _ => .error (.invalidPair pair)

def hexDigit (c : Char) : Option UInt8 :=
  if '0' ≤ c ∧ c ≤ '9' then some (UInt8.ofNat (c.toNat - '0'.toNat))
  else if 'a' ≤ c ∧ c ≤ 'f' then some (UInt8.ofNat (c.toNat - 'a'.toNat + 10))
  else if 'A' ≤ c ∧ c ≤ 'F' then some (UInt8.ofNat (c.toNat - 'A'.toNat + 10))
  else none

/-- `hex::decode`. -/
def hexDecode : List Char → Option Bytes
  | [] => some []
  | high :: low :: rest => do
    return ((← hexDigit high) * 16 + (← hexDigit low)) :: (← hexDecode rest)
  | [_] => none

def parseTransactionId (id : String) : Except FilterError Bytes :=
  match hexDecode id.toList with
  | some hash => .ok hash.reverse
  | none => .error .invalidHex

/-- `vout as u32`. -/
def asU32 (vout : Int) : Nat := (vout % 2 ^ 32).toNat

/-- The side of an order that is stored as a number; `OrderSide::Buy` is zero. -/
def buySide : Int := 0

structure Swap where
  pair : String
  orderSide : Int
  status : String
  lockupAddress : String
  deriving DecidableEq, Repr

structure ReverseSwap where
  pair : String
  orderSide : Int
  status : String
  transactionId : Option String
  transactionVout : Option Int
  deriving DecidableEq, Repr

structure ChainSwap where
  pair : String
  orderSide : Int
  status : String
  deriving DecidableEq, Repr

structure ChainSwapData where
  symbol : String
  lockupAddress : String
  transactionId : Option String
  transactionVout : Option Int
  deriving DecidableEq, Repr

structure ChainSwapInfo where
  swap : ChainSwap
  sending : ChainSwapData
  receiving : ChainSwapData
  deriving DecidableEq, Repr

def Swap.chainSymbol (swap : Swap) : Except FilterError String := do
  let pair ← splitPair swap.pair
  return if swap.orderSide = buySide then pair.quote else pair.base

def ReverseSwap.chainSymbol (swap : ReverseSwap) : Except FilterError String := do
  let pair ← splitPair swap.pair
  return if swap.orderSide = buySide then pair.base else pair.quote

def findSide (data : List ChainSwapData) (symbol : String) : Option ChainSwapData :=
  data.find? fun entry => entry.symbol = symbol

def ChainSwapInfo.new (swap : ChainSwap) (data : List ChainSwapData) :
    Except FilterError ChainSwapInfo :=
  if data.length ≠ 2 then .error .invalidDataCount
  else do
    let pair ← splitPair swap.pair
    match findSide data (if swap.orderSide = buySide then pair.base else pair.quote),
        findSide data (if swap.orderSide = buySide then pair.quote else pair.base) with
    | some sending, some receiving => return { swap, sending, receiving }
    | _, _ => .error .invalidData

/-- The lockup transaction of a swap as outpoint; none before there is one. -/
def outpoint (transactionId : Option String) (transactionVout : Option Int) :
    Except FilterError (Option Outpoint) :=
  match transactionId, transactionVout with
  | some id, some vout => do return some { hash := ← parseTransactionId id, vout := asU32 vout }
  | _, _ => .ok none

/-- The rows of the three tables; a chain swap with its data rows. -/
structure Database where
  swaps : List Swap
  reverseSwaps : List ReverseSwap
  chainSwaps : List (ChainSwap × List ChainSwapData)
  deriving DecidableEq, Repr

/-- A wallet decodes addresses to scripts. -/
structure Currency where
  chain : Bool
  wallet : Option (String → Option Bytes)

abbrev Currencies := String → Option Currency

/-! ## The filters -/

end Filters

abbrev Filters := String → Option ScanFilters

namespace Filters

inductive Entry where
  | input (symbol : String) (outpoint : Outpoint)
  | output (symbol : String) (script : Bytes)
  deriving DecidableEq, Repr

def Entry.symbol : Entry → String
  | input symbol _ | output symbol _ => symbol

def Entry.addTo (filters : ScanFilters) : Entry → ScanFilters
  | input _ outpoint => { filters with inputs := outpoint :: filters.inputs }
  | output _ script => { filters with outputs := script :: filters.outputs }

/-- `filters.entry(symbol).or_insert(..)` and the insertion into one of its sets. -/
def insert (filters : Filters) (entry : Entry) : Filters := fun symbol =>
  if symbol = entry.symbol then
    some (entry.addTo ((filters symbol).getD { inputs := [], outputs := [] }))
  else filters symbol

/-- The loop over the rows of a query: a row that is skipped has no entry. -/
def addEntries {Row : Type} (entry : Row → Except FilterError (Option Entry)) :
    List Row → Filters → Except FilterError Filters
  | [], filters => .ok filters
  | row :: rows, filters => do
    match ← entry row with
    | some e => addEntries entry rows (filters.insert e)
    | none => addEntries entry rows filters

section

variable (currencies : Currencies)

def getCurrency (symbol : String) : Option Currency :=
  match currencies symbol with
  | some currency => if currency.chain then some currency else none
  | none => none

/-- The script of an address on a configured chain. -/
def decodeScript (symbol address : String) : Option Bytes := do
  let currency ← getCurrency currencies symbol
  let wallet ← currency.wallet
  wallet address

def outputEntry (symbol address : String) : Option Entry :=
  (decodeScript currencies symbol address).map (.output symbol)

def swapEntry (swap : Swap) : Except FilterError (Option Entry) := do
  let chainSymbol ← swap.chainSymbol
  return outputEntry currencies chainSymbol swap.lockupAddress

def pendingSwaps (swaps : List Swap) : List Swap :=
  swaps.filter fun swap =>
    !(serializeSwapUpdates [.swapExpired, .invoicePending, .invoiceFailedToPay, .transactionClaimed,
      .transactionClaimPending]).contains swap.status

def getSwapFilters (swaps : List Swap) : Filters → Except FilterError Filters :=
  addEntries (swapEntry currencies) (pendingSwaps swaps)

def reverseEntry (swap : ReverseSwap) : Except FilterError (Option Entry) :=
  match swap.transactionId, swap.transactionVout with
  | some id, some vout => do
    let chainSymbol ← swap.chainSymbol
    return some (.input chainSymbol { hash := ← parseTransactionId id, vout := asU32 vout })
  | _, _ => .ok none

def pendingReverse (swaps : List ReverseSwap) : List ReverseSwap :=
  swaps.filter fun swap =>
    (serializeSwapUpdates [.transactionMempool, .transactionConfirmed,
      .transactionRefunded]).contains swap.status && swap.transactionId.isSome

def getReverseFilters (swaps : List ReverseSwap) : Filters → Except FilterError Filters :=
  addEntries reverseEntry (pendingReverse swaps)

def chainEntry (swap : ChainSwapInfo) : Except FilterError (Option Entry) :=
  match SwapUpdate.parse swap.swap.status with
  | .swapCreated | .transactionMempool =>
    .ok (outputEntry currencies swap.receiving.symbol swap.receiving.lockupAddress)
  | .transactionServerMempool | .transactionServerConfirmed | .transactionRefunded =>
    match swap.sending.transactionId, swap.sending.transactionVout with
    | some id, some vout => do
      return some (.input swap.sending.symbol
        { hash := ← parseTransactionId id, vout := asU32 vout })
    | _, _ => .ok none
  | _ => .ok none

def listedChain (swaps : List (ChainSwap × List ChainSwapData)) :
    List (ChainSwap × List ChainSwapData) :=
  swaps.filter fun swap =>
    (serializeSwapUpdates [.swapCreated, .transactionMempool, .transactionServerMempool,
      .transactionServerConfirmed, .transactionZeroconfRejected,
      .transactionRefunded]).contains swap.1.status

/-- The query for chain swaps, which fails when the data rows of one do not fit. -/
def pendingChain (swaps : List (ChainSwap × List ChainSwapData)) :
    Except FilterError (List ChainSwapInfo) :=
  (listedChain swaps).mapM fun swap => ChainSwapInfo.new swap.1 swap.2

def getChainFilters (swaps : List (ChainSwap × List ChainSwapData)) (filters : Filters) :
    Except FilterError Filters := do
  addEntries (chainEntry currencies) (← pendingChain swaps) filters

def getInputOutputFilters (db : Database) : Except FilterError Filters := do
  let filters ← getSwapFilters currencies db.swaps fun _ => none
  let filters ← getReverseFilters db.reverseSwaps filters
  getChainFilters currencies db.chainSwaps filters

end

/-! ## What the sets hold -/

/-- An outpoint or a script is in the set of its chain. -/
def Has (filters : Filters) : Entry → Prop
  | .input symbol outpoint => ∃ sets, filters symbol = some sets ∧ outpoint ∈ sets.inputs
  | .output symbol script => ∃ sets, filters symbol = some sets ∧ script ∈ sets.outputs

theorem has_insert (filters : Filters) (entry e : Entry) :
    (filters.insert entry).Has e ↔ e = entry ∨ filters.Has e := by
  cases e with
  | input symbol o =>
    by_cases hsymbol : symbol = entry.symbol
    · cases entry with
      | input symbol' o' =>
        obtain rfl : symbol = symbol' := hsymbol
        cases hf : filters symbol <;> simp [Has, insert, Entry.symbol, Entry.addTo, hf]
      | output symbol' script' =>
        obtain rfl : symbol = symbol' := hsymbol
        cases hf : filters symbol <;> simp [Has, insert, Entry.symbol, Entry.addTo, hf]
    · have hne : Entry.input symbol o ≠ entry := fun h => hsymbol (h ▸ rfl)
      simp [Has, insert, hsymbol, hne]
  | output symbol script =>
    by_cases hsymbol : symbol = entry.symbol
    · cases entry with
      | input symbol' o' =>
        obtain rfl : symbol = symbol' := hsymbol
        cases hf : filters symbol <;> simp [Has, insert, Entry.symbol, Entry.addTo, hf]
      | output symbol' script' =>
        obtain rfl : symbol = symbol' := hsymbol
        cases hf : filters symbol <;> simp [Has, insert, Entry.symbol, Entry.addTo, hf]
    · have hne : Entry.output symbol script ≠ entry := fun h => hsymbol (h ▸ rfl)
      simp [Has, insert, hsymbol, hne]

/-- The loop succeeds when it does on each row, and adds the entries of the rows. -/
theorem addEntries_ok {Row : Type} {entry : Row → Except FilterError (Option Entry)}
    {rows : List Row} (h : ∀ row ∈ rows, ∃ o, entry row = .ok o) (filters : Filters) :
    ∃ filters', addEntries entry rows filters = .ok filters' := by
  induction rows generalizing filters with
  | nil => exact ⟨filters, rfl⟩
  | cons row rows ih =>
    obtain ⟨o, ho⟩ := h row (List.mem_cons_self ..)
    have hrest := ih fun r hr => h r (List.mem_cons_of_mem _ hr)
    rw [addEntries, ho]
    cases o with
    | none => exact hrest filters
    | some e => exact hrest (filters.insert e)

theorem addEntries_spec {Row : Type} {entry : Row → Except FilterError (Option Entry)}
    {rows : List Row} {filters filters' : Filters}
    (h : addEntries entry rows filters = .ok filters') :
    (∀ row ∈ rows, ∃ o, entry row = .ok o) ∧
      ∀ e, filters'.Has e ↔ filters.Has e ∨ ∃ row ∈ rows, entry row = .ok (some e) := by
  induction rows generalizing filters with
  | nil =>
    cases h
    simp
  | cons row rows ih =>
    rw [addEntries] at h
    obtain ⟨o, ho, h⟩ := bind_eq_ok.mp h
    cases o with
    | none =>
      obtain ⟨hall, hhas⟩ := ih h
      refine ⟨List.forall_mem_cons.mpr ⟨⟨none, ho⟩, hall⟩, fun e => ?_⟩
      rw [hhas]
      simp [ho]
    | some new =>
      obtain ⟨hall, hhas⟩ := ih h
      refine ⟨List.forall_mem_cons.mpr ⟨⟨some new, ho⟩, hall⟩, fun e => ?_⟩
      rw [hhas, has_insert]
      simp only [List.mem_cons, exists_eq_or_imp, ho, Except.ok.injEq, Option.some.injEq,
        eq_comm (a := e)]
      exact ⟨fun h => h.elim (·.elim (.inr ∘ .inl) .inl) (.inr ∘ .inr),
        fun h => h.elim (.inl ∘ .inr) (·.elim (.inl ∘ .inl) .inr)⟩

theorem mapM_ok {α β ε : Type} {f : α → Except ε β} {as : List α}
    (h : ∀ a ∈ as, ∃ b, f a = .ok b) : ∃ bs, as.mapM f = .ok bs := by
  induction as with
  | nil => exact ⟨[], rfl⟩
  | cons a as ih =>
    obtain ⟨b, hb⟩ := h a (List.mem_cons_self ..)
    obtain ⟨bs, hbs⟩ := ih fun a' h' => h a' (List.mem_cons_of_mem _ h')
    exact ⟨b :: bs, by rw [List.mapM_cons, hb, hbs]; rfl⟩

theorem mapM_spec {α β ε : Type} {f : α → Except ε β} {as : List α} {bs : List β}
    (h : as.mapM f = .ok bs) :
    (∀ a ∈ as, ∃ b, f a = .ok b) ∧ ∀ b, b ∈ bs ↔ ∃ a ∈ as, f a = .ok b := by
  induction as generalizing bs with
  | nil =>
    cases h
    simp
  | cons a as ih =>
    rw [List.mapM_cons] at h
    obtain ⟨b, hb, h⟩ := bind_eq_ok.mp h
    obtain ⟨rest, hrest, h⟩ := bind_eq_ok.mp h
    obtain rfl : b :: rest = bs := Except.ok.inj h
    obtain ⟨hall, hmem⟩ := ih hrest
    refine ⟨List.forall_mem_cons.mpr ⟨⟨b, hb⟩, hall⟩, fun b' => ?_⟩
    rw [List.mem_cons, hmem]
    simp only [List.mem_cons, exists_eq_or_imp, hb, Except.ok.injEq, eq_comm (a := b')]

section

variable {currencies : Currencies} {db : Database}

/-- All rows that the queries list have entries or are skipped. -/
structure Listed (currencies : Currencies) (db : Database) : Prop where
  swaps : ∀ swap ∈ pendingSwaps db.swaps, ∃ o, swapEntry currencies swap = .ok o
  reverseSwaps : ∀ swap ∈ pendingReverse db.reverseSwaps, ∃ o, reverseEntry swap = .ok o
  chainSwaps : ∀ row ∈ listedChain db.chainSwaps, ∃ info, ChainSwapInfo.new row.1 row.2 = .ok info ∧
    ∃ o, chainEntry currencies info = .ok o

theorem getInputOutputFilters_ok (h : Listed currencies db) :
    ∃ filters, getInputOutputFilters currencies db = .ok filters := by
  obtain ⟨swaps, hswaps⟩ := addEntries_ok h.swaps fun _ => none
  obtain ⟨reverse, hreverse⟩ := addEntries_ok h.reverseSwaps swaps
  obtain ⟨infos, hinfos⟩ := mapM_ok (f := fun row => ChainSwapInfo.new row.1 row.2)
    fun row hrow => ⟨_, (h.chainSwaps row hrow).choose_spec.1⟩
  have hentries : ∀ info ∈ infos, ∃ o, chainEntry currencies info = .ok o := by
    intro info hmem
    obtain ⟨row, hrow, hnew⟩ := ((mapM_spec hinfos).2 info).mp hmem
    obtain ⟨info', hinfo', ho⟩ := h.chainSwaps row hrow
    rw [hnew] at hinfo'
    cases hinfo'
    exact ho
  obtain ⟨filters, hfilters⟩ := addEntries_ok hentries reverse
  refine ⟨filters, ?_⟩
  rw [getInputOutputFilters, getSwapFilters, hswaps]
  change (getReverseFilters db.reverseSwaps swaps >>= getChainFilters currencies db.chainSwaps) = _
  rw [getReverseFilters, hreverse]
  change getChainFilters currencies db.chainSwaps reverse = _
  rw [getChainFilters, pendingChain, hinfos]
  exact hfilters

theorem getInputOutputFilters_spec {filters : Filters}
    (h : getInputOutputFilters currencies db = .ok filters) :
    Listed currencies db ∧ ∀ e, filters.Has e ↔
      (∃ swap ∈ pendingSwaps db.swaps, swapEntry currencies swap = .ok (some e)) ∨
      (∃ swap ∈ pendingReverse db.reverseSwaps, reverseEntry swap = .ok (some e)) ∨
      ∃ row ∈ listedChain db.chainSwaps, ∃ info, ChainSwapInfo.new row.1 row.2 = .ok info ∧
        chainEntry currencies info = .ok (some e) := by
  unfold getInputOutputFilters at h
  obtain ⟨swaps, hswaps, h⟩ := bind_eq_ok.mp h
  obtain ⟨reverse, hreverse, h⟩ := bind_eq_ok.mp h
  obtain ⟨infos, hinfos, hfilters⟩ := bind_eq_ok.mp h
  obtain ⟨hokSwaps, hhasSwaps⟩ := addEntries_spec hswaps
  obtain ⟨hokReverse, hhasReverse⟩ := addEntries_spec hreverse
  obtain ⟨hokChain, hhasChain⟩ := addEntries_spec hfilters
  obtain ⟨hnew, hmem⟩ := mapM_spec hinfos
  refine ⟨⟨hokSwaps, hokReverse, fun row hrow => ?_⟩, fun e => ?_⟩
  · obtain ⟨info, hinfo⟩ := hnew row hrow
    exact ⟨info, hinfo, hokChain info ((hmem info).mpr ⟨row, hrow, hinfo⟩)⟩
  · have hempty : ¬Has (fun _ => none) e := by cases e <;> simp [Has]
    rw [hhasChain, hhasReverse, hhasSwaps, or_assoc, or_assoc, or_iff_right hempty]
    refine or_congr_right (or_congr_right ⟨?_, ?_⟩)
    · rintro ⟨info, hinfo, hentry⟩
      obtain ⟨row, hrow, hnew⟩ := (hmem info).mp hinfo
      exact ⟨row, hrow, info, hnew, hentry⟩
    · rintro ⟨row, hrow, info, hnew, hentry⟩
      exact ⟨info, (hmem info).mpr ⟨row, hrow, hnew⟩, hentry⟩

/-! ## What the nursery acts on -/

/-- The statuses of submarine swaps that `checkOutputs` looks up. -/
def checkedSwapStatuses : List SwapUpdateEvent :=
  [.swapCreated, .invoiceSet, .transactionMempool, .transactionZeroConfRejected,
    .transactionConfirmed]

/-- The statuses of chain swaps whose user lockup is not confirmed, of those `checkOutputs` looks
up. -/
def unconfirmedChainStatuses : List SwapUpdateEvent :=
  [.swapCreated, .transactionMempool, .transactionZeroConfRejected]

/-- The statuses `checkReverseSwapClaim` looks up. -/
def reverseClaimStatuses : List SwapUpdateEvent :=
  [.transactionMempool, .transactionConfirmed, .transactionRefunded]

/-- The statuses `checkChainSwapClaim` looks up. -/
def chainClaimStatuses : List SwapUpdateEvent :=
  [.transactionServerMempool, .transactionServerConfirmed, .transactionRefunded]

/-- The sets have all lockup scripts and server lockups that the nursery can act on. -/
structure Covers (currencies : Currencies) (db : Database) (filters : Filters) : Prop where
  swaps : ∀ swap ∈ db.swaps, swap.status ∈ checkedSwapStatuses.map (·.value) →
    ∀ symbol script, swap.chainSymbol = .ok symbol →
      decodeScript currencies symbol swap.lockupAddress = some script →
      filters.Has (.output symbol script)
  chainSwaps : ∀ row ∈ db.chainSwaps, row.1.status ∈ unconfirmedChainStatuses.map (·.value) →
    ∀ info script, ChainSwapInfo.new row.1 row.2 = .ok info →
      decodeScript currencies info.receiving.symbol info.receiving.lockupAddress = some script →
      filters.Has (.output info.receiving.symbol script)
  reverseClaims : ∀ swap ∈ db.reverseSwaps, swap.status ∈ reverseClaimStatuses.map (·.value) →
    ∀ symbol o, swap.chainSymbol = .ok symbol →
      outpoint swap.transactionId swap.transactionVout = .ok (some o) →
      filters.Has (.input symbol o)
  chainClaims : ∀ row ∈ db.chainSwaps, row.1.status ∈ chainClaimStatuses.map (·.value) →
    ∀ info o, ChainSwapInfo.new row.1 row.2 = .ok info →
      outpoint info.sending.transactionId info.sending.transactionVout = .ok (some o) →
      filters.Has (.input info.sending.symbol o)

/-- The rows that are listed can be read: pairs, the data rows of chain swaps and the ids of the
server's lockups. -/
structure Readable (db : Database) : Prop where
  swaps : ∀ swap ∈ pendingSwaps db.swaps, ∃ symbol, swap.chainSymbol = .ok symbol
  reverseSwaps : ∀ swap ∈ pendingReverse db.reverseSwaps, swap.transactionVout.isSome = true →
    (∃ symbol, swap.chainSymbol = .ok symbol) ∧
      ∃ o, outpoint swap.transactionId swap.transactionVout = .ok o
  chainSwaps : ∀ row ∈ listedChain db.chainSwaps, ∃ info,
    ChainSwapInfo.new row.1 row.2 = .ok info ∧
      (row.1.status ∈ chainClaimStatuses.map (·.value) →
        ∃ o, outpoint info.sending.transactionId info.sending.transactionVout = .ok o)

/-- The lockup script of a chain swap whose lockup was rejected for 0-conf is also the one of a swap
in another status that is listed for its script. -/
def RejectedShared (currencies : Currencies) (db : Database) : Prop :=
  ∀ row ∈ db.chainSwaps, row.1.status = SwapUpdateEvent.transactionZeroConfRejected.value →
    ∀ info script, ChainSwapInfo.new row.1 row.2 = .ok info →
      decodeScript currencies info.receiving.symbol info.receiving.lockupAddress = some script →
      (∃ swap ∈ pendingSwaps db.swaps, swap.chainSymbol = .ok info.receiving.symbol ∧
        decodeScript currencies info.receiving.symbol swap.lockupAddress = some script) ∨
      ∃ other ∈ db.chainSwaps, ∃ info', ChainSwapInfo.new other.1 other.2 = .ok info' ∧
        (other.1.status = SwapUpdateEvent.swapCreated.value ∨
          other.1.status = SwapUpdateEvent.transactionMempool.value) ∧
        info'.receiving.symbol = info.receiving.symbol ∧
        decodeScript currencies info.receiving.symbol info'.receiving.lockupAddress = some script

/-! ## The entries of rows -/

theorem swapEntry_ok {swap : Swap} {symbol : String} (h : swap.chainSymbol = .ok symbol) :
    swapEntry currencies swap = .ok (outputEntry currencies symbol swap.lockupAddress) := by
  unfold swapEntry
  rw [h]
  rfl

theorem exists_swapEntry_iff {swap : Swap} :
    (∃ o, swapEntry currencies swap = .ok o) ↔ ∃ symbol, swap.chainSymbol = .ok symbol := by
  constructor
  · rintro ⟨o, ho⟩
    obtain ⟨symbol, hsymbol, -⟩ := bind_eq_ok.mp ho
    exact ⟨symbol, hsymbol⟩
  · rintro ⟨symbol, hsymbol⟩
    exact ⟨_, swapEntry_ok hsymbol⟩

theorem outputEntry_eq_some {symbol address : String} {e : Entry} :
    outputEntry currencies symbol address = some e ↔
      ∃ script, decodeScript currencies symbol address = some script ∧ e = .output symbol script := by
  unfold outputEntry
  rw [Option.map_eq_some_iff]
  simp only [eq_comm (a := e)]

theorem reverseEntry_ok {swap : ReverseSwap} {symbol : String} {o : Option Outpoint}
    (hsymbol : swap.chainSymbol = .ok symbol)
    (ho : outpoint swap.transactionId swap.transactionVout = .ok o) :
    reverseEntry swap = .ok (o.map (.input symbol)) := by
  unfold outpoint at ho
  unfold reverseEntry
  cases hid : swap.transactionId with
  | none =>
    rw [hid] at ho
    cases ho
    rfl
  | some id =>
    cases hvout : swap.transactionVout with
    | none =>
      rw [hid, hvout] at ho
      cases ho
      rfl
    | some vout =>
      rw [hid, hvout] at ho
      obtain ⟨hash, hhash, ho⟩ := bind_eq_ok.mp ho
      cases ho
      simp only [hsymbol, hhash]
      rfl

/-- Rows with no index of the output are skipped, whatever their pair is. -/
theorem exists_reverseEntry_iff {swap : ReverseSwap} (hid : swap.transactionId.isSome = true) :
    (∃ o, reverseEntry swap = .ok o) ↔
      (swap.transactionVout.isSome = true → (∃ symbol, swap.chainSymbol = .ok symbol) ∧
        ∃ o, outpoint swap.transactionId swap.transactionVout = .ok o) := by
  obtain ⟨id, hid⟩ := Option.isSome_iff_exists.mp hid
  cases hvout : swap.transactionVout with
  | none =>
    refine ⟨fun _ h => (nomatch h), fun _ => ⟨none, ?_⟩⟩
    simp only [reverseEntry, hid, hvout]
  | some vout =>
    constructor
    · rintro ⟨o, ho⟩ -
      simp only [reverseEntry, hid, hvout] at ho
      obtain ⟨symbol, hsymbol, ho⟩ := bind_eq_ok.mp ho
      obtain ⟨hash, hhash, -⟩ := bind_eq_ok.mp ho
      refine ⟨⟨symbol, hsymbol⟩, some { hash, vout := asU32 vout }, ?_⟩
      simp only [outpoint, hid, hhash]
      rfl
    · intro h
      obtain ⟨⟨symbol, hsymbol⟩, o, ho⟩ := h rfl
      exact ⟨_, reverseEntry_ok hsymbol (hvout ▸ ho)⟩

theorem parse_eq {value : String} {status : SwapUpdate} (h : SwapUpdate.parse value = status)
    (hne : status ≠ .unknown) : value = status.toString := by
  unfold SwapUpdate.parse at h
  cases hfind : SwapUpdate.all.find? (fun status => status.toString = value) with
  | none =>
    rw [hfind] at h
    exact absurd h.symm hne
  | some found =>
    rw [hfind] at h
    obtain rfl : found = status := h
    have hfound := List.find?_some hfind
    exact (of_decide_eq_true hfound).symm

theorem ChainSwapInfo.new_swap {swap : ChainSwap} {data : List ChainSwapData} {info : ChainSwapInfo}
    (h : ChainSwapInfo.new swap data = .ok info) : info.swap = swap := by
  unfold ChainSwapInfo.new at h
  split at h
  · cases h
  · obtain ⟨pair, -, h⟩ := bind_eq_ok.mp h
    split at h
    · cases h
      rfl
    · cases h

theorem chainEntry_lockup {info : ChainSwapInfo}
    (h : info.swap.status = SwapUpdateEvent.swapCreated.value ∨
      info.swap.status = SwapUpdateEvent.transactionMempool.value) :
    chainEntry currencies info =
      .ok (outputEntry currencies info.receiving.symbol info.receiving.lockupAddress) := by
  unfold chainEntry
  rcases h with h | h
  · rw [h, show SwapUpdate.parse SwapUpdateEvent.swapCreated.value = .swapCreated by decide]
  · rw [h, show SwapUpdate.parse SwapUpdateEvent.transactionMempool.value = .transactionMempool by
      decide]

theorem chainEntry_claim {info : ChainSwapInfo}
    (h : info.swap.status ∈ chainClaimStatuses.map (·.value)) :
    chainEntry currencies info =
      (outpoint info.sending.transactionId info.sending.transactionVout).map
        (·.map (.input info.sending.symbol)) := by
  have hclaim : (match info.sending.transactionId, info.sending.transactionVout with
      | some id, some vout => do
        return some (.input info.sending.symbol
          { hash := ← parseTransactionId id, vout := asU32 vout })
      | _, _ => .ok none) =
      (outpoint info.sending.transactionId info.sending.transactionVout).map
        (·.map (Entry.input info.sending.symbol)) := by
    unfold outpoint
    cases info.sending.transactionId with
    | none => rfl
    | some id =>
      cases info.sending.transactionVout with
      | none => rfl
      | some vout =>
        simp only
        cases parseTransactionId id <;> rfl
  unfold chainEntry
  simp only [chainClaimStatuses, List.map_cons, List.map_nil, List.mem_cons, List.not_mem_nil,
    or_false] at h
  rcases h with h | h | h
  · rw [h, show SwapUpdate.parse SwapUpdateEvent.transactionServerMempool.value =
      .transactionServerMempool by decide]
    exact hclaim
  · rw [h, show SwapUpdate.parse SwapUpdateEvent.transactionServerConfirmed.value =
      .transactionServerConfirmed by decide]
    exact hclaim
  · rw [h, show SwapUpdate.parse SwapUpdateEvent.transactionRefunded.value =
      .transactionRefunded by decide]
    exact hclaim

/-- Chain swaps in all other statuses are skipped. -/
theorem chainEntry_other {info : ChainSwapInfo}
    (hlockup : ¬(info.swap.status = SwapUpdateEvent.swapCreated.value ∨
      info.swap.status = SwapUpdateEvent.transactionMempool.value))
    (hclaim : info.swap.status ∉ chainClaimStatuses.map (·.value)) :
    chainEntry currencies info = .ok none := by
  unfold chainEntry
  split
  · exact absurd (.inl (parse_eq ‹_› (by decide))) hlockup
  · exact absurd (.inr (parse_eq ‹_› (by decide))) hlockup
  · rename_i hparse
    refine absurd ?_ hclaim
    rw [parse_eq hparse (by decide)]
    decide
  · rename_i hparse
    refine absurd ?_ hclaim
    rw [parse_eq hparse (by decide)]
    decide
  · rename_i hparse
    refine absurd ?_ hclaim
    rw [parse_eq hparse (by decide)]
    decide
  · rfl

/-! ## When the filters cover what the nursery acts on -/

theorem mem_listedChain {row : ChainSwap × List ChainSwapData} (hmem : row ∈ db.chainSwaps)
    (h : row.1.status ∈ (unconfirmedChainStatuses ++ chainClaimStatuses).map (·.value)) :
    row ∈ listedChain db.chainSwaps := by
  refine List.mem_filter.mpr ⟨hmem, ?_⟩
  rw [List.contains_iff_mem]
  revert h
  generalize row.1.status = status
  revert status
  decide

theorem mem_pendingSwaps {swap : Swap} (hmem : swap ∈ db.swaps)
    (h : swap.status ∈ checkedSwapStatuses.map (·.value)) : swap ∈ pendingSwaps db.swaps := by
  refine List.mem_filter.mpr ⟨hmem, ?_⟩
  revert h
  generalize swap.status = status
  revert status
  decide

theorem mem_pendingReverse {swap : ReverseSwap} (hmem : swap ∈ db.reverseSwaps)
    (h : swap.status ∈ reverseClaimStatuses.map (·.value))
    (hid : swap.transactionId.isSome = true) : swap ∈ pendingReverse db.reverseSwaps := by
  refine List.mem_filter.mpr ⟨hmem, ?_⟩
  rw [hid, Bool.and_true]
  revert h
  generalize swap.status = status
  revert status
  decide

theorem listed_iff_readable : Listed currencies db ↔ Readable db := by
  constructor
  · intro h
    refine ⟨fun swap hswap => exists_swapEntry_iff.mp (h.swaps swap hswap), fun swap hswap => ?_,
      fun row hrow => ?_⟩
    · have hid : swap.transactionId.isSome = true :=
        (Bool.and_eq_true_iff.mp (List.mem_filter.mp hswap).2).2
      exact (exists_reverseEntry_iff hid).mp (h.reverseSwaps swap hswap)
    · obtain ⟨info, hinfo, o, ho⟩ := h.chainSwaps row hrow
      refine ⟨info, hinfo, fun hclaim => ?_⟩
      rw [← ChainSwapInfo.new_swap hinfo] at hclaim
      rw [chainEntry_claim hclaim] at ho
      cases hout : outpoint info.sending.transactionId info.sending.transactionVout with
      | ok o => exact ⟨o, rfl⟩
      | error e =>
        rw [hout] at ho
        cases ho
  · intro h
    refine ⟨fun swap hswap => exists_swapEntry_iff.mpr (h.swaps swap hswap), fun swap hswap => ?_,
      fun row hrow => ?_⟩
    · have hid : swap.transactionId.isSome = true :=
        (Bool.and_eq_true_iff.mp (List.mem_filter.mp hswap).2).2
      exact (exists_reverseEntry_iff hid).mpr (h.reverseSwaps swap hswap)
    · obtain ⟨info, hinfo, hread⟩ := h.chainSwaps row hrow
      refine ⟨info, hinfo, ?_⟩
      rw [← ChainSwapInfo.new_swap hinfo] at hread
      by_cases hclaim : info.swap.status ∈ chainClaimStatuses.map (·.value)
      · obtain ⟨o, ho⟩ := hread hclaim
        rw [chainEntry_claim hclaim, ho]
        exact ⟨_, rfl⟩
      · by_cases hlockup : info.swap.status = SwapUpdateEvent.swapCreated.value ∨
            info.swap.status = SwapUpdateEvent.transactionMempool.value
        · exact ⟨_, chainEntry_lockup hlockup⟩
        · exact ⟨none, chainEntry_other hlockup hclaim⟩

/-- Where the script of a lockup in the sets is from. -/
theorem has_output_iff {filters : Filters} (h : getInputOutputFilters currencies db = .ok filters)
    (symbol : String) (script : Bytes) :
    filters.Has (.output symbol script) ↔
      (∃ swap ∈ pendingSwaps db.swaps, swap.chainSymbol = .ok symbol ∧
        decodeScript currencies symbol swap.lockupAddress = some script) ∨
      ∃ row ∈ db.chainSwaps, ∃ info, ChainSwapInfo.new row.1 row.2 = .ok info ∧
        (row.1.status = SwapUpdateEvent.swapCreated.value ∨
          row.1.status = SwapUpdateEvent.transactionMempool.value) ∧
        info.receiving.symbol = symbol ∧
        decodeScript currencies symbol info.receiving.lockupAddress = some script := by
  obtain ⟨hlisted, hhas⟩ := getInputOutputFilters_spec h
  rw [hhas]
  constructor
  · rintro (⟨swap, hswap, hentry⟩ | ⟨swap, hswap, hentry⟩ | ⟨row, hrow, info, hinfo, hentry⟩)
    · obtain ⟨symbol', hsymbol⟩ := exists_swapEntry_iff.mp ⟨_, hentry⟩
      rw [swapEntry_ok hsymbol, Except.ok.injEq, outputEntry_eq_some] at hentry
      obtain ⟨script', hscript, heq⟩ := hentry
      cases heq
      exact .inl ⟨swap, hswap, hsymbol, hscript⟩
    · -- the entries of reverse swaps are outpoints
      unfold reverseEntry at hentry
      split at hentry
      · obtain ⟨symbol', -, hentry⟩ := bind_eq_ok.mp hentry
        obtain ⟨hash, -, hentry⟩ := bind_eq_ok.mp hentry
        cases hentry
      · cases hentry
    · have hswap := ChainSwapInfo.new_swap hinfo
      have hmem : row ∈ db.chainSwaps := List.mem_of_mem_filter hrow
      by_cases hlockup : info.swap.status = SwapUpdateEvent.swapCreated.value ∨
          info.swap.status = SwapUpdateEvent.transactionMempool.value
      · rw [chainEntry_lockup hlockup, Except.ok.injEq, outputEntry_eq_some] at hentry
        obtain ⟨script', hscript, heq⟩ := hentry
        cases heq
        exact .inr ⟨row, hmem, info, hinfo, hswap ▸ hlockup, rfl, hscript⟩
      · by_cases hclaim : info.swap.status ∈ chainClaimStatuses.map (·.value)
        · rw [chainEntry_claim hclaim] at hentry
          cases hout : outpoint info.sending.transactionId info.sending.transactionVout with
          | error e =>
            rw [hout] at hentry
            cases hentry
          | ok o =>
            rw [hout] at hentry
            cases o <;> cases hentry
        · rw [chainEntry_other hlockup hclaim] at hentry
          cases hentry
  · rintro (⟨swap, hswap, hsymbol, hscript⟩ | ⟨row, hrow, info, hinfo, hstatus, rfl, hscript⟩)
    · refine .inl ⟨swap, hswap, ?_⟩
      rw [swapEntry_ok hsymbol, outputEntry_eq_some.mpr ⟨script, hscript, rfl⟩]
    · have hlisted : row ∈ listedChain db.chainSwaps := by
        refine mem_listedChain hrow ?_
        rcases hstatus with hstatus | hstatus
        · rw [hstatus]
          decide
        · rw [hstatus]
          decide
      rw [← ChainSwapInfo.new_swap hinfo] at hstatus
      refine .inr (.inr ⟨row, hlisted, info, hinfo, ?_⟩)
      rw [chainEntry_lockup hstatus, outputEntry_eq_some.mpr ⟨script, hscript, rfl⟩]

/-- The filters cover what the nursery acts on exactly when the listed rows can be read and no
script is only that of a chain swap whose lockup was rejected for 0-conf: these are queried, but
their status has no branch. -/
theorem covers_iff (currencies : Currencies) (db : Database) :
    (∃ filters, getInputOutputFilters currencies db = .ok filters ∧ Covers currencies db filters) ↔
      Readable db ∧ RejectedShared currencies db := by
  constructor
  · rintro ⟨filters, hfilters, hcovers⟩
    refine ⟨listed_iff_readable.mp (getInputOutputFilters_spec hfilters).1, ?_⟩
    intro row hrow hstatus info script hinfo hscript
    have hhas := hcovers.chainSwaps row hrow (by rw [hstatus]; decide) info script hinfo hscript
    exact (has_output_iff hfilters _ _).mp hhas
  · rintro ⟨hreadable, hshared⟩
    have hlisted : Listed currencies db := listed_iff_readable.mpr hreadable
    obtain ⟨filters, hfilters⟩ := getInputOutputFilters_ok hlisted
    have hspec := (getInputOutputFilters_spec hfilters).2
    refine ⟨filters, hfilters, ?_, ?_, ?_, ?_⟩
    · intro swap hswap hstatus symbol script hsymbol hscript
      refine (has_output_iff hfilters _ _).mpr (.inl ?_)
      exact ⟨swap, mem_pendingSwaps hswap hstatus, hsymbol, hscript⟩
    · intro row hrow hstatus info script hinfo hscript
      refine (has_output_iff hfilters _ _).mpr ?_
      simp only [unconfirmedChainStatuses, List.map_cons, List.map_nil, List.mem_cons,
        List.not_mem_nil, or_false] at hstatus
      rcases hstatus with hstatus | hstatus | hstatus
      · exact .inr ⟨row, hrow, info, hinfo, .inl hstatus, rfl, hscript⟩
      · exact .inr ⟨row, hrow, info, hinfo, .inr hstatus, rfl, hscript⟩
      · exact hshared row hrow hstatus info script hinfo hscript
    · intro swap hswap hstatus symbol o hsymbol ho
      have hid : swap.transactionId.isSome = true := by
        cases hid : swap.transactionId with
        | some id => rfl
        | none =>
          rw [hid] at ho
          cases ho
      refine (hspec _).mpr (.inr (.inl ⟨swap, mem_pendingReverse hswap hstatus hid, ?_⟩))
      rw [reverseEntry_ok hsymbol ho]
      rfl
    · intro row hrow hstatus info o hinfo ho
      have hlisted : row ∈ listedChain db.chainSwaps := by
        refine mem_listedChain hrow ?_
        rw [List.map_append]
        exact List.mem_append_right _ hstatus
      rw [← ChainSwapInfo.new_swap hinfo] at hstatus
      refine (hspec _).mpr (.inr (.inr ⟨row, hlisted, info, hinfo, ?_⟩))
      rw [chainEntry_claim hstatus, ho]
      rfl

end

/-! ## A chain swap whose lockup was rejected for 0-conf -/

def regtestCurrencies : Currencies := fun symbol =>
  if symbol = "BTC" then
    some { chain := true
           wallet := some fun address => if address = "bcrt1lockup" then some [0x51, 0x20] else none }
  else none

def rejectedSwap : ChainSwap :=
  { pair := "L-BTC/BTC", orderSide := 0, status := "transaction.zeroconf.rejected" }

def rejectedData : List ChainSwapData :=
  [{ symbol := "L-BTC", lockupAddress := "el1lockup", transactionId := none
     transactionVout := none },
   { symbol := "BTC", lockupAddress := "bcrt1lockup"
     transactionId := some "4a5e1e4baab89f3a32518a88c31bc87f618f76673e2cc77ab2127b7afdeda33b"
     transactionVout := some 0 }]

def rejectedDatabase : Database :=
  { swaps := [], reverseSwaps := [], chainSwaps := [(rejectedSwap, rejectedData)] }

/-- The query lists the swap, but its lockup script is not among the outputs. -/
theorem rejected_not_covered :
    ¬∃ filters, getInputOutputFilters regtestCurrencies rejectedDatabase = .ok filters ∧
      Covers regtestCurrencies rejectedDatabase filters := by
  rintro ⟨filters, hfilters, hcovers⟩
  have hnew : ∃ info, ChainSwapInfo.new rejectedSwap rejectedData = .ok info ∧
      decodeScript regtestCurrencies info.receiving.symbol info.receiving.lockupAddress =
        some [0x51, 0x20] :=
    bind_eq_ok.mp (show (ChainSwapInfo.new rejectedSwap rejectedData >>= fun info =>
      Except.ok (decodeScript regtestCurrencies info.receiving.symbol
        info.receiving.lockupAddress)) = Except.ok (some [0x51, 0x20]) by decide +kernel)
      |>.imp fun _ h => ⟨h.1, Except.ok.inj h.2⟩
  obtain ⟨info, hinfo, hscript⟩ := hnew
  have hhas := hcovers.chainSwaps (rejectedSwap, rejectedData) (List.mem_singleton.mpr rfl)
    (by decide) info _ hinfo hscript
  rcases (has_output_iff hfilters _ _).mp hhas with ⟨swap, hswap, -⟩ | ⟨row, hrow, -, -, hstatus, -⟩
  · exact absurd hswap List.not_mem_nil
  · obtain rfl := List.mem_singleton.mp hrow
    revert hstatus
    decide

end Filters

end Boltz
