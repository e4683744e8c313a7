import Boltz.Service.TimeoutDelta

/-!
# CLTV limits of invoices (`lib/service/TimeoutDeltaProvider.ts`)

The payment of a submarine swap has to end before the lockup of the user times out. The limit is
what is left of the timeout, in blocks of the Lightning chain, less a configured delta.
-/

namespace Boltz

structure ArkNode where
  usesLocktimeSeconds : Bool
  getBlockHeight : ℤ
  getBlockTimestamp : ℤ → ℤ

/-- The client of a currency by its type, with what it answers. -/
inductive LocktimeClient where
  | ark (arkNode : ArkNode)
  /-- `getBlockchainInfo` -/
  | bitcoinLike (blocks : ℤ)
  | liquid (blocks : ℤ)
  /-- `getLocktimeHeight` -/
  | ether (locktimeHeight : ℤ)
  | erc20 (locktimeHeight : ℤ)

structure LocktimeCurrency where
  symbol : String
  client : LocktimeClient

/-- What is read of a submarine swap. -/
structure SwapTimeout where
  pair : PairId
  orderSide : OrderSide
  timeoutBlockHeight : ℤ
  deriving DecidableEq, Repr

namespace LocktimeClient

/-- The node of an Ark whose locktimes are in seconds. -/
def secondsNode : LocktimeClient → Option ArkNode
  | ark arkNode => if arkNode.usesLocktimeSeconds then some arkNode else none
  | _ => none

def currentBlock : LocktimeClient → ℤ
  | ark arkNode => arkNode.getBlockHeight
  | bitcoinLike blocks | liquid blocks => blocks
  | ether locktimeHeight | erc20 locktimeHeight => locktimeHeight

end LocktimeClient

def ArkNode.currentTimestamp (arkNode : ArkNode) : ℤ :=
  arkNode.getBlockTimestamp arkNode.getBlockHeight

/-- What `getCltvLimit` reads: every currency of a pair is configured. -/
structure CltvConfig where
  blockTimes : BlockTimes
  currencies : String → LocktimeCurrency
  cltvDelta : ℚ

namespace CltvConfig

variable (cfg : CltvConfig) (swap : SwapTimeout)

def chainCurrency : LocktimeCurrency :=
  cfg.currencies (getChainCurrency swap.pair swap.orderSide false)

def lightningCurrency : String := getLightningCurrency swap.pair swap.orderSide false

/-- `blocksLeft`, in blocks of the Lightning chain. -/
def blocksLeft : Option ℤ :=
  match (cfg.chainCurrency swap).client.secondsNode with
  | some arkNode =>
    (cfg.blockTimes (lightningCurrency swap)).map fun blockTime =>
      ⌊((swap.timeoutBlockHeight - arkNode.currentTimestamp : ℤ) : ℚ) / 60 / blockTime⌋
  | none =>
    TimeoutDeltaProvider.convertBlocks cfg.blockTimes (cfg.chainCurrency swap).symbol
      (lightningCurrency swap)
      (swap.timeoutBlockHeight - (cfg.chainCurrency swap).client.currentBlock : ℤ)

/-- `none` is `NaN`, when a block time is not known. -/
def getCltvLimit : Option ℤ :=
  (cfg.blocksLeft swap).map fun (blocksLeft : ℤ) => ⌊blocksLeft - cfg.cltvDelta⌋

/-- Until the lockup of the user times out. -/
def remainingMinutes : Option ℚ :=
  match (cfg.chainCurrency swap).client.secondsNode with
  | some arkNode =>
    some (((swap.timeoutBlockHeight - arkNode.currentTimestamp : ℤ) : ℚ) / 60)
  | none =>
    (cfg.blockTimes (cfg.chainCurrency swap).symbol).map fun blockTime =>
      ((swap.timeoutBlockHeight - (cfg.chainCurrency swap).client.currentBlock : ℤ) : ℚ) *
        blockTime

end CltvConfig

/-- The check of `PaymentHandler.payInvoice`. -/
def acceptsCltvLimit (cltvLimit : ℤ) : Bool := !(cltvLimit < 2)

end Boltz
