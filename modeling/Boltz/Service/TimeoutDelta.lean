import Boltz.Utils
import Mathlib.Tactic.Ring
import Mathlib.Tactic.Positivity

/-!
# Timeouts of the swaps (`lib/service/TimeoutDeltaProvider.ts`, `boltzr/src/swap/timeout_delta.rs`)

The configuration gives the deltas of a pair in minutes, both backends convert them to blocks of
its chains. The hold invoice of a reverse swap and the lockup of the user of a chain swap have to
outlive what the server sends. Block times are exact rationals, in minutes.
-/

namespace Boltz

abbrev BlockTimes := String → Option ℚ

/-- The block times of both backends, before the tokens of the EVM chains are added. -/
def blockTimes : BlockTimes
  | "BTC" => some 10
  | "LTC" => some (5 / 2)
  | "RBTC" => some (25 / 60)
  | "ARK" => some 10
  | "ETH" => some (1 / 5)
  | "ARB" => some (1 / 5)
  | "L-BTC" => some 1
  | _ => none

/-- The table of `timeoutDelta` of a pair, in minutes. -/
structure TimeoutDeltaTable where
  chain : Option ℚ
  reverse : Option ℚ
  swapMinimal : Option ℚ
  swapMaximal : Option ℚ
  swapTaproot : Option ℚ
  deriving DecidableEq, Repr

/-- `timeoutDelta` of a pair in the configuration file: legacy ones are a single number. -/
inductive TimeoutDeltaConfig where
  | number (minutes : ℚ)
  | table (deltas : TimeoutDeltaTable)
  deriving DecidableEq, Repr

structure PairTimeoutConfig where
  pair : PairId
  timeoutDelta : Option TimeoutDeltaConfig
  deriving DecidableEq, Repr

inductive TimeoutError where
  | noTimeoutDelta (pair : PairId)
  | invalidTimeoutBlockDelta
  | pairNotFound (pair : PairId)
  | noBlockTime (symbol : String)
  | notImplemented
  deriving DecidableEq, Repr

/-! ## The TypeScript provider -/

structure PairTimeoutBlocksDelta where
  chain : ℚ
  reverse : ℚ
  swapMinimal : ℚ
  swapMaximal : ℚ
  swapTaproot : ℚ
  deriving DecidableEq, Repr

structure PairTimeoutBlockDeltas where
  base : PairTimeoutBlocksDelta
  quote : PairTimeoutBlocksDelta
  deriving DecidableEq, Repr

structure TimeoutDeltaProvider where
  timeoutDeltas : PairId → Option PairTimeoutBlockDeltas := fun _ => none

namespace TimeoutDeltaProvider

/-- A block time that is not known makes the result `NaN`. -/
def convertBlocks (times : BlockTimes) (fromSymbol toSymbol : String) (blocks : ℚ) : Option ℤ :=
  match times fromSymbol, times toSymbol with
  | some fromTime, some toTime => some ⌈blocks * fromTime / toTime⌉
  | _, _ => none

/-- `NaN` fails the first check. -/
def calculateBlocks (times : BlockTimes) (symbol : String) (minutes : Option ℚ) :
    Except TimeoutError ℚ :=
  match times symbol, minutes with
  | some minutesPerBlock, some minutes =>
    let blocks := minutes / minutesPerBlock
    if blocks ≠ ⌊blocks⌋ ∨ blocks < 1 then .error .invalidTimeoutBlockDelta else .ok blocks
  | _, _ => .error .invalidTimeoutBlockDelta

def convertToBlocks (times : BlockTimes) (symbol : String) (deltas : TimeoutDeltaTable) :
    Except TimeoutError PairTimeoutBlocksDelta := do
  let chain ← calculateBlocks times symbol deltas.chain
  let reverse ← calculateBlocks times symbol deltas.reverse
  let swapMinimal ← calculateBlocks times symbol deltas.swapMinimal
  let swapMaximal ← calculateBlocks times symbol deltas.swapMaximal
  let swapTaproot ← calculateBlocks times symbol deltas.swapTaproot
  return { chain, reverse, swapMinimal, swapMaximal, swapTaproot }

def minutesToBlocks (times : BlockTimes) (pair : PairId) (deltas : TimeoutDeltaTable) :
    Except TimeoutError PairTimeoutBlockDeltas := do
  let base ← convertToBlocks times pair.base deltas
  let quote ← convertToBlocks times pair.quote deltas
  return { base, quote }

/-- A single number counts for everything, a missing `chain` falls back to `reverse`. -/
def normalised : TimeoutDeltaConfig → TimeoutDeltaTable
  | .number minutes =>
    { chain := some minutes
      reverse := some minutes
      swapMinimal := some minutes
      swapMaximal := some minutes
      swapTaproot := some minutes }
  | .table deltas => { deltas with chain := deltas.chain.or deltas.reverse }

def init (times : BlockTimes) :
    List PairTimeoutConfig → TimeoutDeltaProvider → Except TimeoutError TimeoutDeltaProvider
  | [], p => .ok p
  | config :: pairs, p =>
    match config.timeoutDelta with
    | none => .error (.noTimeoutDelta config.pair)
    | some timeoutDelta => do
      let deltas ← minutesToBlocks times config.pair (normalised timeoutDelta)
      init times pairs
        { timeoutDeltas := fun id => if id = config.pair then some deltas else p.timeoutDeltas id }

/-- `getTimeout` of reverse and chain swaps. -/
def getTimeout (p : TimeoutDeltaProvider) (pair : PairId) (orderSide : OrderSide)
    (type : SwapType) : Except TimeoutError ℚ :=
  match p.timeoutDeltas pair with
  | none => .error (.pairNotFound pair)
  | some timeouts =>
    let deltas :=
      match orderSide with
      | .buy => timeouts.base
      | .sell => timeouts.quote
    match type with
    | .reverseSubmarine => .ok deltas.reverse
    | .chain => .ok deltas.chain
    | .submarine => .error .notImplemented

/-- `(onchainTimeoutBlockDelta, lightningTimeoutBlockDelta)` of `Service.createReverseSwap`. -/
def reverseTimeouts (times : BlockTimes) (p : TimeoutDeltaProvider) (pair : PairId)
    (orderSide : OrderSide) : Except TimeoutError (ℚ × ℤ) := do
  let sending := getSendingChain pair orderSide
  let receiving := getReceivingChain pair orderSide
  let onchainTimeoutBlockDelta ← p.getTimeout pair orderSide .reverseSubmarine
  match convertBlocks times sending receiving onchainTimeoutBlockDelta with
  | none => .error (.noBlockTime receiving)
  | some lightningTimeoutBlockDelta =>
    -- 15 blocks for same currency swaps and 25% for cross chain ones as buffer
    let buffer :=
      if sending = receiving then 15 else ⌈(lightningTimeoutBlockDelta : ℚ) * (1 / 4)⌉
    return (onchainTimeoutBlockDelta, lightningTimeoutBlockDelta + buffer)

/-- `(sendingTimeoutBlockDelta, receivingTimeoutBlockDelta)` of `Service.createChainSwap`. -/
def chainTimeouts (times : BlockTimes) (p : TimeoutDeltaProvider) (pair : PairId)
    (orderSide : OrderSide) : Except TimeoutError (ℚ × ℤ) := do
  let sending := getSendingChain pair orderSide
  let receiving := getReceivingChain pair orderSide
  let sendingTimeoutBlockDelta ← p.getTimeout pair orderSide .chain
  match convertBlocks times sending receiving (sendingTimeoutBlockDelta * (3 / 2)) with
  | none => .error (.noBlockTime receiving)
  | some receivingTimeoutBlockDelta =>
    return (sendingTimeoutBlockDelta, receivingTimeoutBlockDelta)

end TimeoutDeltaProvider

/-! ## The provider of the sidecar -/

namespace Sidecar

/-- `PairTimeoutBlockDelta` of the sidecar: minutes and blocks are `u64`. -/
structure PairTimeoutBlockDelta where
  chain : ℕ
  reverse : ℕ
  swapMinimal : ℕ
  swapMaximal : ℕ
  swapTaproot : ℕ
  deriving DecidableEq, Repr

structure PairTimeoutBlockDeltas where
  base : PairTimeoutBlockDelta
  quote : PairTimeoutBlockDelta
  deriving DecidableEq, Repr

def PairTimeoutBlockDeltas.ofSide (deltas : PairTimeoutBlockDeltas) :
    OrderSide → PairTimeoutBlockDelta
  | .buy => deltas.base
  | .sell => deltas.quote

/-- A `u64` field of the configuration. -/
def parseU64 (field : Option ℚ) : Option ℕ :=
  match field with
  | none => none
  | some value => if value = ⌊value⌋₊ ∧ value < 2 ^ 64 then some ⌊value⌋₊ else none

/-- All five fields are required, there is no form with a single number. -/
def parseTimeoutDelta : Option TimeoutDeltaConfig → Option PairTimeoutBlockDelta
  | some (.table deltas) => do
    let chain ← parseU64 deltas.chain
    let reverse ← parseU64 deltas.reverse
    let swapMinimal ← parseU64 deltas.swapMinimal
    let swapMaximal ← parseU64 deltas.swapMaximal
    let swapTaproot ← parseU64 deltas.swapTaproot
    return { chain, reverse, swapMinimal, swapMaximal, swapTaproot }
  | _ => none

/-- `x.ceil() as u64`, which saturates. -/
def ceilU64 (x : ℚ) : ℕ := min ⌈x⌉₊ (2 ^ 64 - 1)

def getBlockTime (times : BlockTimes) (symbol : String) : Except TimeoutError ℚ :=
  match times symbol with
  | none => .error (.noBlockTime symbol)
  | some time => .ok time

def calculateBlocks (times : BlockTimes) (symbol : String) (minutes : ℕ) :
    Except TimeoutError ℕ := do
  let minutesPerBlock ← getBlockTime times symbol
  let blocks := ceilU64 (minutes / minutesPerBlock)
  if blocks < 1 then .error .invalidTimeoutBlockDelta else .ok blocks

def convertToBlocks (times : BlockTimes) (symbol : String) (deltas : PairTimeoutBlockDelta) :
    Except TimeoutError PairTimeoutBlockDelta := do
  let chain ← calculateBlocks times symbol deltas.chain
  let reverse ← calculateBlocks times symbol deltas.reverse
  let swapMinimal ← calculateBlocks times symbol deltas.swapMinimal
  let swapMaximal ← calculateBlocks times symbol deltas.swapMaximal
  let swapTaproot ← calculateBlocks times symbol deltas.swapTaproot
  return { chain, reverse, swapMinimal, swapMaximal, swapTaproot }

def minutesToBlocks (times : BlockTimes) (pair : PairId) (deltas : PairTimeoutBlockDelta) :
    Except TimeoutError PairTimeoutBlockDeltas := do
  let base ← convertToBlocks times pair.base deltas
  let quote ← convertToBlocks times pair.quote deltas
  return { base, quote }

structure TimeoutDeltaProvider where
  timeoutDeltas : PairId → Option PairTimeoutBlockDeltas := fun _ => none

/-- `TimeoutDeltaProvider::new` behind the parser of the configuration, which fails as a whole. -/
def new (times : BlockTimes) :
    List PairTimeoutConfig → TimeoutDeltaProvider → Except TimeoutError TimeoutDeltaProvider
  | [], p => .ok p
  | config :: pairs, p =>
    match parseTimeoutDelta config.timeoutDelta with
    | none => .error (.noTimeoutDelta config.pair)
    | some timeoutDelta => do
      let deltas ← minutesToBlocks times config.pair timeoutDelta
      new times pairs
        { timeoutDeltas := fun id => if id = config.pair then some deltas else p.timeoutDeltas id }

def convertBlocks (times : BlockTimes) (fromSymbol toSymbol : String) (blocks : ℕ) :
    Except TimeoutError ℕ := do
  let fromTime ← getBlockTime times fromSymbol
  let toTime ← getBlockTime times toSymbol
  return ceilU64 (blocks * fromTime / toTime)

/-- The sum of two `u64`, which wraps in a release build. -/
def addU64 (a b : ℕ) : ℕ := (a + b) % 2 ^ 64

def getTimeouts (times : BlockTimes) (p : TimeoutDeltaProvider) (pair : PairId)
    (orderSide : OrderSide) (swapType : SwapType) : Except TimeoutError (ℕ × ℕ) :=
  match p.timeoutDeltas pair with
  | none => .error (.pairNotFound pair)
  | some timeouts =>
    match swapType with
    | .reverseSubmarine => do
      let onchainDelta := (timeouts.ofSide orderSide).reverse
      let lightningDelta ← convertBlocks times (getSendingChain pair orderSide)
        (getReceivingChain pair orderSide) onchainDelta
      let buffer :=
        if pair.base = pair.quote then 15 else ceilU64 ((lightningDelta : ℚ) * (1 / 4))
      return (onchainDelta, addU64 lightningDelta buffer)
    | _ => .error .notImplemented

/-- The timeouts of a reverse swap that the sidecar reads off the configuration. -/
def timeouts (times : BlockTimes) (pairs : List PairTimeoutConfig) (pair : PairId)
    (orderSide : OrderSide) : Except TimeoutError (ℕ × ℕ) := do
  let p ← new times pairs {}
  getTimeouts times p pair orderSide .reverseSubmarine

end Sidecar

/-! ## The order of the timeouts -/

def BlockTimes.Positive (times : BlockTimes) : Prop :=
  ∀ symbol time, times symbol = some time → 0 < time

/-- The hold invoice outlives the lockup of a reverse swap, with the buffer of its pair. -/
def ReverseOrdered (times : BlockTimes) (pair : PairId) (side : OrderSide) (onchain : ℚ)
    (lightning : ℤ) : Prop :=
  ∃ sendingTime receivingTime, times (getSendingChain pair side) = some sendingTime ∧
    times (getReceivingChain pair side) = some receivingTime ∧
    if pair.base = pair.quote then
      onchain * sendingTime + 15 * receivingTime ≤ lightning * receivingTime
    else onchain * sendingTime * (5 / 4) ≤ lightning * receivingTime

/-- The lockup of the user of a chain swap outlives that of the server one and a half times. -/
def ChainOrdered (times : BlockTimes) (pair : PairId) (side : OrderSide) (sending : ℚ)
    (receiving : ℤ) : Prop :=
  ∃ sendingTime receivingTime, times (getSendingChain pair side) = some sendingTime ∧
    times (getReceivingChain pair side) = some receivingTime ∧
    sending * sendingTime * (3 / 2) ≤ receiving * receivingTime

theorem sending_eq_receiving (pair : PairId) (side : OrderSide) :
    getSendingChain pair side = getReceivingChain pair side ↔ pair.base = pair.quote := by
  cases side
  · exact Iff.rfl
  · exact eq_comm

section

variable {times : BlockTimes} {pair : PairId} {side : OrderSide}

theorem convertBlocks_some {fromSymbol toSymbol : String} {blocks : ℚ} {converted : ℤ}
    (h : TimeoutDeltaProvider.convertBlocks times fromSymbol toSymbol blocks = some converted) :
    ∃ fromTime toTime, times fromSymbol = some fromTime ∧ times toSymbol = some toTime ∧
      converted = ⌈blocks * fromTime / toTime⌉ := by
  unfold TimeoutDeltaProvider.convertBlocks at h
  split at h
  · rename_i fromTime toTime hfrom hto
    exact ⟨fromTime, toTime, hfrom, hto, (Option.some.inj h).symm⟩
  · cases h

/-- The conversion rounds up: the blocks of the other chain take at least as long. -/
theorem le_convertBlocks (blocks fromTime : ℚ) {toTime : ℚ} (hto : 0 < toTime) :
    blocks * fromTime ≤ ⌈blocks * fromTime / toTime⌉ * toTime :=
  (div_le_iff₀ hto).mp (Int.le_ceil _)

theorem reverseTimeouts_ok {p : TimeoutDeltaProvider} {onchain : ℚ} {lightning : ℤ}
    (h : p.reverseTimeouts times pair side = .ok (onchain, lightning)) :
    p.getTimeout pair side .reverseSubmarine = .ok onchain ∧ ∃ converted,
      TimeoutDeltaProvider.convertBlocks times (getSendingChain pair side)
        (getReceivingChain pair side) onchain = some converted ∧
      lightning = converted +
        if pair.base = pair.quote then 15 else ⌈(converted : ℚ) * (1 / 4)⌉ := by
  obtain ⟨onchain', htimeout, h⟩ := bind_eq_ok.mp h
  split at h
  · cases h
  · rename_i converted hconverted
    simp only [sending_eq_receiving] at h
    cases h
    exact ⟨htimeout, converted, hconverted, rfl⟩

theorem reverseOrdered {p : TimeoutDeltaProvider} {onchain : ℚ} {lightning : ℤ}
    (hpos : times.Positive)
    (h : p.reverseTimeouts times pair side = .ok (onchain, lightning)) :
    ReverseOrdered times pair side onchain lightning := by
  obtain ⟨-, converted, hconverted, rfl⟩ := reverseTimeouts_ok h
  obtain ⟨fromTime, toTime, hfrom, hto, rfl⟩ := convertBlocks_some hconverted
  refine ⟨fromTime, toTime, hfrom, hto, ?_⟩
  have htoPos := hpos _ _ hto
  have hle := le_convertBlocks onchain fromTime htoPos
  split
  · push_cast
    linarith
  · have hbuffer := Int.le_ceil ((⌈onchain * fromTime / toTime⌉ : ℚ) * (1 / 4))
    have hbuffer' := mul_le_mul_of_nonneg_right hbuffer htoPos.le
    push_cast
    linarith

theorem chainOrdered {p : TimeoutDeltaProvider} {sending : ℚ} {receiving : ℤ}
    (hpos : times.Positive) (h : p.chainTimeouts times pair side = .ok (sending, receiving)) :
    ChainOrdered times pair side sending receiving := by
  obtain ⟨sending', -, h⟩ := bind_eq_ok.mp h
  split at h
  · cases h
  · rename_i converted hconverted
    cases h
    obtain ⟨fromTime, toTime, hfrom, hto, rfl⟩ := convertBlocks_some hconverted
    refine ⟨fromTime, toTime, hfrom, hto, ?_⟩
    have hle := le_convertBlocks (sending * (3 / 2)) fromTime (hpos _ _ hto)
    linarith

/-! ## Both providers on one configuration -/

/-- What the sidecar makes of a number of blocks. -/
def toU64 (deltas : PairTimeoutBlocksDelta) : Sidecar.PairTimeoutBlockDelta :=
  { chain := Sidecar.ceilU64 deltas.chain
    reverse := Sidecar.ceilU64 deltas.reverse
    swapMinimal := Sidecar.ceilU64 deltas.swapMinimal
    swapMaximal := Sidecar.ceilU64 deltas.swapMaximal
    swapTaproot := Sidecar.ceilU64 deltas.swapTaproot }

theorem ceilU64_natCast {n : ℕ} (h : n < 2 ^ 64) : Sidecar.ceilU64 n = n := by
  simp only [Sidecar.ceilU64, Nat.ceil_natCast]
  omega

theorem parseU64_some {field : Option ℚ} {n : ℕ} (h : Sidecar.parseU64 field = some n) :
    field = some (n : ℚ) := by
  unfold Sidecar.parseU64 at h
  split at h
  · cases h
  · split at h
    · rename_i hwhole
      cases h
      rw [← hwhole.1]
    · cases h

theorem calculateBlocks_ok {symbol : String} {minutes : Option ℚ} {blocks : ℚ}
    (h : TimeoutDeltaProvider.calculateBlocks times symbol minutes = .ok blocks) :
    ∃ minutesPerBlock m, times symbol = some minutesPerBlock ∧ minutes = some m ∧
      blocks = m / minutesPerBlock ∧ blocks = ⌊blocks⌋ ∧ 1 ≤ blocks := by
  unfold TimeoutDeltaProvider.calculateBlocks at h
  split at h
  · rename_i minutesPerBlock m hsymbol
    simp only at h
    split at h
    · cases h
    · rename_i hchecks
      rw [not_or, not_not, not_lt] at hchecks
      cases h
      exact ⟨minutesPerBlock, m, hsymbol, rfl, rfl, hchecks.1, hchecks.2⟩
  · cases h

theorem calculateBlocks_agree {symbol : String} {minutes : Option ℚ} {blocks : ℚ} {n : ℕ}
    (h : TimeoutDeltaProvider.calculateBlocks times symbol minutes = .ok blocks)
    (hn : Sidecar.parseU64 minutes = some n) :
    Sidecar.calculateBlocks times symbol n = .ok (Sidecar.ceilU64 blocks) := by
  obtain ⟨minutesPerBlock, m, hsymbol, rfl, rfl, -, hone⟩ := calculateBlocks_ok h
  obtain rfl : m = n := Option.some.inj (parseU64_some hn)
  have hceil : ¬Sidecar.ceilU64 (n / minutesPerBlock) < 1 := by
    have : 1 ≤ ⌈(n : ℚ) / minutesPerBlock⌉₊ := Nat.one_le_ceil_iff.mpr (by linarith)
    unfold Sidecar.ceilU64
    omega
  simp only [Sidecar.calculateBlocks, Sidecar.getBlockTime, hsymbol, bind, Except.bind, hceil,
    if_false]

theorem convertToBlocks_agree {symbol : String} {config : TimeoutDeltaTable}
    {parsed : Sidecar.PairTimeoutBlockDelta} {deltas : PairTimeoutBlocksDelta}
    (hparsed : Sidecar.parseTimeoutDelta (some (.table config)) = some parsed)
    (h : TimeoutDeltaProvider.convertToBlocks times symbol
      (TimeoutDeltaProvider.normalised (.table config)) = .ok deltas) :
    Sidecar.convertToBlocks times symbol parsed = .ok (toU64 deltas) := by
  simp only [Sidecar.parseTimeoutDelta, Option.bind_eq_bind, Option.bind_eq_some_iff] at hparsed
  obtain ⟨chain, hchain, reverse, hreverse, minimal, hminimal, maximal, hmaximal, taproot,
    htaproot, hparsed⟩ := hparsed
  cases hparsed
  have hnormal : TimeoutDeltaProvider.normalised (.table config) = config := by
    have hor : config.chain.or config.reverse = config.chain := by
      rw [parseU64_some hchain, Option.some_or]
    simp only [TimeoutDeltaProvider.normalised, hor]
  rw [hnormal] at h
  obtain ⟨chain', hchain', h⟩ := bind_eq_ok.mp h
  obtain ⟨reverse', hreverse', h⟩ := bind_eq_ok.mp h
  obtain ⟨minimal', hminimal', h⟩ := bind_eq_ok.mp h
  obtain ⟨maximal', hmaximal', h⟩ := bind_eq_ok.mp h
  obtain ⟨taproot', htaproot', h⟩ := bind_eq_ok.mp h
  cases h
  simp only [Sidecar.convertToBlocks, calculateBlocks_agree hchain' hchain,
    calculateBlocks_agree hreverse' hreverse, calculateBlocks_agree hminimal' hminimal,
    calculateBlocks_agree hmaximal' hmaximal, calculateBlocks_agree htaproot' htaproot, bind,
    Except.bind]
  rfl

/-- The maps of both providers hold the same pairs, with the same whole numbers of blocks. -/
structure SameDeltas (p : TimeoutDeltaProvider) (q : Sidecar.TimeoutDeltaProvider) : Prop where
  deltas : ∀ id, q.timeoutDeltas id = (p.timeoutDeltas id).map fun d =>
    { base := toU64 d.base, quote := toU64 d.quote }
  whole : ∀ id d, p.timeoutDeltas id = some d → ∃ base quote : ℕ,
    d.base.reverse = base ∧ d.quote.reverse = quote

theorem reverse_whole {symbol : String} {config : TimeoutDeltaTable}
    {deltas : PairTimeoutBlocksDelta}
    (h : TimeoutDeltaProvider.convertToBlocks times symbol config = .ok deltas) :
    ∃ n : ℕ, deltas.reverse = n := by
  obtain ⟨_, -, h⟩ := bind_eq_ok.mp h
  obtain ⟨reverse, hreverse, h⟩ := bind_eq_ok.mp h
  obtain ⟨_, -, h⟩ := bind_eq_ok.mp h
  obtain ⟨_, -, h⟩ := bind_eq_ok.mp h
  obtain ⟨_, -, h⟩ := bind_eq_ok.mp h
  cases h
  obtain ⟨_, _, -, -, -, hfloor, hone⟩ := calculateBlocks_ok hreverse
  have hnonneg : 0 ≤ ⌊reverse⌋ := Int.floor_nonneg.mpr (by linarith)
  refine ⟨⌊reverse⌋.toNat, ?_⟩
  have hcast : ((⌊reverse⌋.toNat : ℤ) : ℚ) = ⌊reverse⌋ := by
    rw [Int.toNat_of_nonneg hnonneg]
  exact hfloor.trans (by exact_mod_cast hcast.symm)

/-- What the service accepts and the sidecar can read, the sidecar accepts too. -/
theorem new_agrees {pairs : List PairTimeoutConfig}
    (hread : ∀ config ∈ pairs, (Sidecar.parseTimeoutDelta config.timeoutDelta).isSome = true) :
    ∀ {p p' : TimeoutDeltaProvider} {q : Sidecar.TimeoutDeltaProvider}, SameDeltas p q →
      TimeoutDeltaProvider.init times pairs p = .ok p' →
      ∃ q', Sidecar.new times pairs q = .ok q' ∧ SameDeltas p' q' := by
  induction pairs with
  | nil =>
    intro p p' q hsame h
    cases h
    exact ⟨q, rfl, hsame⟩
  | cons config pairs ih =>
    intro p p' q hsame h
    obtain ⟨parsed, hparsed⟩ := Option.isSome_iff_exists.mp (hread config (List.mem_cons_self ..))
    cases hdelta : config.timeoutDelta with
    | none =>
      rw [hdelta] at hparsed
      cases hparsed
    | some timeoutDelta =>
      cases timeoutDelta with
      | number minutes =>
        rw [hdelta] at hparsed
        cases hparsed
      | table table =>
        rw [hdelta] at hparsed
        unfold TimeoutDeltaProvider.init at h
        rw [hdelta] at h
        obtain ⟨deltas, hdeltas, h⟩ := bind_eq_ok.mp h
        obtain ⟨base, hbase, hdeltas⟩ := bind_eq_ok.mp hdeltas
        obtain ⟨quote, hquote, hdeltas⟩ := bind_eq_ok.mp hdeltas
        cases hdeltas
        have hblocks : Sidecar.minutesToBlocks times config.pair parsed =
            .ok { base := toU64 base, quote := toU64 quote } := by
          simp only [Sidecar.minutesToBlocks, convertToBlocks_agree hparsed hbase,
            convertToBlocks_agree hparsed hquote, bind, Except.bind]
          rfl
        unfold Sidecar.new
        rw [hdelta, hparsed]
        simp only [hblocks, bind, Except.bind]
        refine ih (fun c hc => hread c (List.mem_cons_of_mem _ hc)) ⟨fun id => ?_, fun id d hd => ?_⟩
          h
        · by_cases hid : id = config.pair
          · simp only [hid, if_true, Option.map_some]
          · simp only [hid, if_false]
            exact hsame.deltas id
        · simp only at hd
          split at hd
          · cases hd
            obtain ⟨b, hb⟩ := reverse_whole hbase
            obtain ⟨c, hc⟩ := reverse_whole hquote
            exact ⟨b, c, hb, hc⟩
          · exact hsame.whole id d hd

theorem getTimeout_reverse {p : TimeoutDeltaProvider} {q : Sidecar.TimeoutDeltaProvider}
    (hsame : SameDeltas p q) {onchain : ℚ}
    (h : p.getTimeout pair side .reverseSubmarine = .ok onchain) :
    ∃ (deltas : Sidecar.PairTimeoutBlockDeltas) (n : ℕ), q.timeoutDeltas pair = some deltas ∧
      onchain = n ∧ Sidecar.ceilU64 onchain = (deltas.ofSide side).reverse := by
  unfold TimeoutDeltaProvider.getTimeout at h
  split at h
  · cases h
  · rename_i timeouts htimeouts
    obtain ⟨base, quote, hbase, hquote⟩ := hsame.whole pair timeouts htimeouts
    have hq := hsame.deltas pair
    rw [htimeouts, Option.map_some] at hq
    cases side
    · cases h
      exact ⟨_, base, hq, hbase, rfl⟩
    · cases h
      exact ⟨_, quote, hq, hquote, rfl⟩

/-- Both providers give a reverse swap the same blocks, as long as these are 64-bit numbers. -/
theorem getTimeouts_agree {p : TimeoutDeltaProvider} {q : Sidecar.TimeoutDeltaProvider}
    (hpos : times.Positive) (hsame : SameDeltas p q) {onchain : ℚ} {lightning : ℤ}
    (h : p.reverseTimeouts times pair side = .ok (onchain, lightning))
    (honchain : onchain < 2 ^ 64) (hlightning : lightning < 2 ^ 64) :
    ∃ a b : ℕ, Sidecar.getTimeouts times q pair side .reverseSubmarine = .ok (a, b) ∧
      onchain = a ∧ lightning = b := by
  obtain ⟨htimeout, converted, hconverted, hsum⟩ := reverseTimeouts_ok h
  obtain ⟨fromTime, toTime, hfrom, hto, hceil⟩ := convertBlocks_some hconverted
  obtain ⟨deltas, n, hdeltas, rfl, hreverse⟩ := getTimeout_reverse hsame htimeout
  have hn : n < 2 ^ 64 := by exact_mod_cast honchain
  rw [ceilU64_natCast hn] at hreverse
  -- the converted blocks are a natural number below the sum
  have hnonneg : 0 ≤ (n : ℚ) * fromTime / toTime :=
    div_nonneg (mul_nonneg (Nat.cast_nonneg n) (hpos _ _ hfrom).le) (hpos _ _ hto).le
  obtain ⟨c, hc⟩ : ∃ c : ℕ, converted = c :=
    ⟨converted.toNat, (Int.toNat_of_nonneg (hceil ▸ Int.ceil_nonneg hnonneg)).symm⟩
  have hnat : ⌈(n : ℚ) * fromTime / toTime⌉₊ = c := by
    have := Int.natCast_ceil_eq_ceil hnonneg
    omega
  obtain ⟨buffer, hbuffer, hbuffer'⟩ : ∃ buffer : ℕ,
      (if pair.base = pair.quote then 15 else ⌈(c : ℚ) * (1 / 4)⌉₊) = buffer ∧
        lightning = c + buffer := by
    refine ⟨_, rfl, ?_⟩
    rw [hsum, hc]
    split
    · rfl
    · rw [Int.natCast_ceil_eq_ceil (by positivity), Int.cast_natCast]
  have hblocks : Sidecar.convertBlocks times (getSendingChain pair side)
      (getReceivingChain pair side) n = .ok c := by
    simp only [Sidecar.convertBlocks, Sidecar.getBlockTime, hfrom, hto, bind, Except.bind,
      Sidecar.ceilU64, hnat]
    exact congrArg Except.ok (by omega)
  have hsumU64 : Sidecar.addU64 c
      (if pair.base = pair.quote then 15 else Sidecar.ceilU64 ((c : ℚ) * (1 / 4))) =
        c + buffer := by
    have hsmall : (if pair.base = pair.quote then 15
        else Sidecar.ceilU64 ((c : ℚ) * (1 / 4))) = buffer := by
      rw [← hbuffer]
      split
      · rfl
      · rename_i hne
        rw [if_neg hne] at hbuffer
        unfold Sidecar.ceilU64
        omega
    rw [hsmall]
    unfold Sidecar.addU64
    omega
  refine ⟨n, c + buffer, ?_, rfl, by rw [hbuffer']; push_cast; rfl⟩
  unfold Sidecar.getTimeouts
  rw [hdeltas]
  simp only [← hreverse, hblocks, bind, Except.bind, hsumU64]
  rfl

/-- The timeouts of a configuration, for every pair and both sides: what the user pays with
outlives what the server pays with, and the sidecar computes the same for a configuration it can
read, as long as the blocks are 64-bit numbers. -/
theorem timeouts_ordered_and_agree {pairs : List PairTimeoutConfig} {p : TimeoutDeltaProvider}
    (hpos : times.Positive) (hinit : TimeoutDeltaProvider.init times pairs {} = .ok p)
    (pair : PairId) (side : OrderSide) :
    (∀ onchain lightning, p.reverseTimeouts times pair side = .ok (onchain, lightning) →
      ReverseOrdered times pair side onchain lightning) ∧
    (∀ sending receiving, p.chainTimeouts times pair side = .ok (sending, receiving) →
      ChainOrdered times pair side sending receiving) ∧
    ((∀ config ∈ pairs, (Sidecar.parseTimeoutDelta config.timeoutDelta).isSome = true) →
      ∀ onchain lightning, p.reverseTimeouts times pair side = .ok (onchain, lightning) →
        onchain < 2 ^ 64 → lightning < 2 ^ 64 →
        ∃ a b : ℕ, Sidecar.timeouts times pairs pair side = .ok (a, b) ∧
          onchain = a ∧ lightning = b) := by
  refine ⟨fun _ _ h => reverseOrdered hpos h, fun _ _ h => chainOrdered hpos h, ?_⟩
  intro hread onchain lightning h honchain hlightning
  have hempty : SameDeltas {} {} := ⟨fun _ => rfl, fun _ _ hd => by cases hd⟩
  obtain ⟨q, hnew, hsame⟩ := new_agrees hread hempty hinit
  obtain ⟨a, b, htimeouts, ha, hb⟩ := getTimeouts_agree hpos hsame h honchain hlightning
  exact ⟨a, b, bind_eq_ok.mpr ⟨q, hnew, htimeouts⟩, ha, hb⟩

end

/-! ## Configurations the two read differently -/

theorem blockTimes_positive : blockTimes.Positive := by
  intro symbol time h
  unfold blockTimes at h
  split at h <;> cases h <;> norm_num

/-- The deltas of `L-BTC/BTC`, in minutes. -/
def liquidTimeouts : List PairTimeoutConfig :=
  [{ pair := { base := "L-BTC", quote := "BTC" }
     timeoutDelta := some (.table
      { chain := some 120
        reverse := some 120
        swapMinimal := some 30
        swapMaximal := some 240
        swapTaproot := some 180 }) }]

theorem liquid_timeouts :
    ∃ a b : ℕ, Sidecar.timeouts blockTimes liquidTimeouts { base := "L-BTC", quote := "BTC" } .buy =
      .ok (a, b) ∧ (120 : ℚ) = a ∧ (15 : ℤ) = b := by
  have hrun : (TimeoutDeltaProvider.init blockTimes liquidTimeouts {} >>= fun p =>
      p.reverseTimeouts blockTimes { base := "L-BTC", quote := "BTC" } .buy) = .ok (120, 15) := by
    decide +kernel
  obtain ⟨p, hinit, hreverse⟩ := bind_eq_ok.mp hrun
  exact (timeouts_ordered_and_agree blockTimes_positive hinit _ .buy).2.2 (by decide) 120 15
    hreverse (by norm_num) (by norm_num)

/-- Every configuration of the service gives the same timeouts of reverse swaps in the sidecar. -/
def SidecarAgrees (times : BlockTimes) (pairs : List PairTimeoutConfig) : Prop :=
  ∀ p, TimeoutDeltaProvider.init times pairs {} = .ok p → ∀ pair side onchain lightning,
    p.reverseTimeouts times pair side = .ok (onchain, lightning) →
    ∃ a b : ℕ, Sidecar.timeouts times pairs pair side = .ok (a, b) ∧ onchain = a ∧ lightning = b

/-- A single number for all deltas, which only the service reads. -/
def legacyTimeouts : List PairTimeoutConfig :=
  [{ pair := { base := "BTC", quote := "BTC" }, timeoutDelta := some (.number 1440) }]

/-- `10^19` minutes are a 64-bit number, the blocks of Rootstock they make are not. -/
def hugeTimeouts : List PairTimeoutConfig :=
  [{ pair := { base := "RBTC", quote := "BTC" }
     timeoutDelta := some (.table
      { chain := some 1500
        reverse := some (10 ^ 19)
        swapMinimal := some 1500
        swapMaximal := some 1500
        swapTaproot := some 1500 }) }]

theorem sidecar_differs :
    ¬SidecarAgrees blockTimes legacyTimeouts ∧ ¬SidecarAgrees blockTimes hugeTimeouts := by
  constructor
  · intro h
    have hrun : (TimeoutDeltaProvider.init blockTimes legacyTimeouts {} >>= fun p =>
        p.reverseTimeouts blockTimes { base := "BTC", quote := "BTC" } .buy) = .ok (144, 159) := by
      decide +kernel
    obtain ⟨p, hinit, hreverse⟩ := bind_eq_ok.mp hrun
    obtain ⟨a, b, hsidecar, -, -⟩ := h p hinit _ .buy 144 159 hreverse
    have herror : Sidecar.timeouts blockTimes legacyTimeouts { base := "BTC", quote := "BTC" } .buy =
        .error (.noTimeoutDelta { base := "BTC", quote := "BTC" }) := by decide +kernel
    rw [herror] at hsidecar
    cases hsidecar
  · intro h
    have hrun : (TimeoutDeltaProvider.init blockTimes hugeTimeouts {} >>= fun p =>
        p.reverseTimeouts blockTimes { base := "RBTC", quote := "BTC" } .buy) =
          .ok (24 * 10 ^ 18, 125 * 10 ^ 16) := by
      decide +kernel
    obtain ⟨p, hinit, hreverse⟩ := bind_eq_ok.mp hrun
    obtain ⟨a, b, hsidecar, ha, -⟩ := h p hinit _ .buy _ _ hreverse
    have hsaturated : (Sidecar.timeouts blockTimes hugeTimeouts { base := "RBTC", quote := "BTC" }
        .buy).map (·.1) = .ok (2 ^ 64 - 1) := by decide +kernel
    rw [hsidecar] at hsaturated
    obtain rfl : a = 2 ^ 64 - 1 := Except.ok.inj hsaturated
    norm_num at ha

end Boltz
