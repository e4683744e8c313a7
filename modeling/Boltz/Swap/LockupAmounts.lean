import Boltz.Ethereum.TokenAmounts
import Boltz.Rates.Quotes

/-!
# The amount checks of the nurseries (`UtxoNursery.ts`, `EthereumNursery.ts`, `ArkNursery.ts`)

What each nursery makes of the amount of a user lockup, in the units of its chain. The rest of the
handlers (the competing lockup, the row, the hook) is in `Swap.SubmarineSwaps` and
`Swap.ChainSwaps`, where the amount check is an answer.
-/

namespace Boltz.LockupAmounts

open Ethereum

/-- `Swap | ChainSwapInfo`, as far as the amount of its lockup is concerned. The expected amount of
a submarine swap is `null` until its invoice is set. -/
inductive LockedSwap where
  | submarine (expectedAmount : Option Nat)
  | chain (expectedAmount : Nat)
  deriving DecidableEq, Repr

def LockedSwap.type : LockedSwap → SwapType
  | submarine _ => .submarine
  | chain _ => .chain

def LockedSwap.expectedAmount : LockedSwap → Option Nat
  | submarine expectedAmount => expectedAmount
  | chain expectedAmount => some expectedAmount

/-- A `number | null` in a comparison or a calculation. -/
def toNumber (amount : Option Nat) : Nat := amount.getD 0

/-- A `number | null` in a text. -/
def toText : Option Nat → String
  | some amount => toString amount
  | none => "null"

/-- Why the amount of a lockup is not accepted. -/
inductive AmountError where
  | incorrectAssetSent
  | insufficientAmount (actual : Nat) (expected : Option Nat)
  | overpaidAmount (actual : Nat) (expected : Option Nat)
  deriving DecidableEq, Repr

def AmountError.message : AmountError → String
  | incorrectAssetSent => "incorrect asset was sent"
  | insufficientAmount actual expected =>
    "locked " ++ toString actual ++ " is less than expected " ++ toText expected
  | overpaidAmount actual expected =>
    "locked " ++ toString actual ++ " is more than expected " ++ toText expected

inductive Verdict where
  | accept | insufficient | overpaid
  deriving DecidableEq, Repr

/-- An output of another asset counts as an insufficient amount. -/
def verdict : Option AmountError → Verdict
  | none => .accept
  | some .incorrectAssetSent => .insufficient
  | some (.insufficientAmount _ _) => .insufficient
  | some (.overpaidAmount _ _) => .overpaid

variable (protector : OverpaymentProtector)

def checkOverpayment (type : SwapType) (expected : Option Nat) (actual : Nat) :
    Option AmountError :=
  if protector.isUnacceptableOverpay type (toNumber expected) actual then
    some (.overpaidAmount actual expected)
  else none

namespace UtxoNursery

def insufficient (expectedAmount : Option Nat) (outputValue : Nat) : AmountError :=
  if outputValue = 0 then .incorrectAssetSent else .insufficientAmount outputValue expectedAmount

def checkSwapTransaction (expectedAmount : Option Nat) (outputValue : Nat) : Option AmountError :=
  if toNumber expectedAmount ≠ 0 then
    if toNumber expectedAmount > outputValue then some (insufficient expectedAmount outputValue)
    else checkOverpayment protector .submarine expectedAmount outputValue
  else none

def checkChainSwapTransaction (expectedAmount outputValue : Nat) : Option AmountError :=
  if expectedAmount > outputValue || outputValue = 0 then
    some (insufficient (some expectedAmount) outputValue)
  else checkOverpayment protector .chain (some expectedAmount) outputValue

def checkAmount : LockedSwap → Nat → Option AmountError
  | .submarine expectedAmount => checkSwapTransaction protector expectedAmount
  | .chain expectedAmount => checkChainSwapTransaction protector expectedAmount

end UtxoNursery

namespace EthereumNursery

/-- Whether the expected amount is a number to check against. -/
def shouldValidateAmount (swap : LockedSwap) : Option Nat :=
  swap.expectedAmount.filter fun expectedAmount => swap.type == .chain || expectedAmount > 0

/-- The check of `validateEtherSwapLockup`. All networks have the decimals of Ether. -/
def validateEtherSwapLockup (swap : LockedSwap) (wei : Nat) : Option AmountError :=
  match shouldValidateAmount swap with
  | none => none
  | some expectedAmount =>
    let actualAmountSat := wei / etherDecimals
    if expectedAmount * etherDecimals > wei then
      some (.insufficientAmount actualAmountSat expectedAmount)
    else checkOverpayment protector swap.type expectedAmount actualAmountSat

/-- The check of `validateErc20SwapLockup`. -/
def validateErc20SwapLockup (decimals : Nat) (swap : LockedSwap) (tokens : Nat) :
    Option AmountError :=
  match shouldValidateAmount swap with
  | none => none
  | some expectedAmount =>
    let actualAmount := normalizeTokenAmount decimals tokens
    if formatTokenAmount decimals expectedAmount > tokens then
      some (.insufficientAmount actualAmount expectedAmount)
    else checkOverpayment protector swap.type expectedAmount actualAmount

end EthereumNursery

namespace ArkNursery

/-- The check of `checkSubmarineLockup` and of `checkChainSwapLockup`. -/
def checkAmount (swap : LockedSwap) (amount : Nat) : Option AmountError :=
  if toNumber swap.expectedAmount > amount then
    some (.insufficientAmount amount swap.expectedAmount)
  else checkOverpayment protector swap.type swap.expectedAmount amount

end ArkNursery

end Boltz.LockupAmounts
