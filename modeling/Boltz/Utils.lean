import Boltz.Consts.Enums
import Mathlib.Data.Rat.Floor
import Mathlib.Algebra.Order.Field.Basic
import Mathlib.Tactic.FieldSimp
import Mathlib.Tactic.Linarith

/-!
# Pairs and rates (`lib/Utils.ts`)

A side says which currency of a pair the server sends: the base asset on the buy side, the quote
asset on the sell side. Rates are exact rationals.
-/

namespace Boltz

/-- A pair id `base/quote`, as `splitPairId` reads it. -/
structure PairId where
  base : String
  quote : String
  deriving DecidableEq, Repr

def getSendingChain (pair : PairId) : OrderSide → String
  | .buy => pair.base
  | .sell => pair.quote

def getReceivingChain (pair : PairId) : OrderSide → String
  | .buy => pair.quote
  | .sell => pair.base

def getChainCurrency (pair : PairId) (orderSide : OrderSide) (isReverse : Bool) : String :=
  if isReverse then
    match orderSide with
    | .buy => pair.base
    | .sell => pair.quote
  else
    match orderSide with
    | .buy => pair.quote
    | .sell => pair.base

def getLightningCurrency (pair : PairId) (orderSide : OrderSide) (isReverse : Bool) : String :=
  if isReverse then
    match orderSide with
    | .buy => pair.quote
    | .sell => pair.base
  else
    match orderSide with
    | .buy => pair.base
    | .sell => pair.quote

def getRate (rate : ℚ) (orderSide : OrderSide) (isReverse : Bool) : ℚ :=
  if isReverse then
    match orderSide with
    | .buy => 1 / rate
    | .sell => rate
  else
    match orderSide with
    | .buy => rate
    | .sell => 1 / rate

/-- `Math.round` of an exact number. -/
def mathRound (x : ℚ) : ℤ := ⌊x + 1 / 2⌋

@[simp] theorem getRate_one (side : OrderSide) (isReverse : Bool) :
    getRate 1 side isReverse = 1 := by
  cases side <;> cases isReverse <;> simp [getRate]

@[simp] theorem getChainCurrency_submarine (pair : PairId) (side : OrderSide) :
    getChainCurrency pair side false = getReceivingChain pair side := by
  cases side <;> rfl

@[simp] theorem getLightningCurrency_submarine (pair : PairId) (side : OrderSide) :
    getLightningCurrency pair side false = getSendingChain pair side := by
  cases side <;> rfl

@[simp] theorem getChainCurrency_reverse (pair : PairId) (side : OrderSide) :
    getChainCurrency pair side true = getSendingChain pair side := by
  cases side <;> rfl

@[simp] theorem getLightningCurrency_reverse (pair : PairId) (side : OrderSide) :
    getLightningCurrency pair side true = getReceivingChain pair side := by
  cases side <;> rfl

theorem bind_eq_ok {ε α β : Type} {x : Except ε α} {f : α → Except ε β} {b : β} :
    (x >>= f) = .ok b ↔ ∃ a, x = .ok a ∧ f a = .ok b := by
  cases x with
  | error e => exact ⟨fun h => (nomatch h), fun ⟨_, h, _⟩ => (nomatch h)⟩
  | ok a => exact ⟨fun h => ⟨a, rfl, h⟩, fun ⟨_, h, hf⟩ => by cases h; exact hf⟩

/-- A positive number is its own inverse only when it is one. -/
theorem inv_eq_self_iff_one {r : ℚ} (hr : 0 < r) : r⁻¹ = r ↔ r = 1 := by
  constructor
  · intro h
    have hmul : r * r = 1 := by
      have := congrArg (· * r) h
      simpa [hr.ne', eq_comm] using this
    nlinarith
  · rintro rfl
    norm_num

end Boltz
