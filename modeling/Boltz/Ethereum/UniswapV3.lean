import Boltz.Ethereum.Abi
import Mathlib.Data.List.ProdSigma
import Mathlib.Data.List.Nodup
import Mathlib.Logic.Function.Basic

/-!
# Quotes of Uniswap V3 (`boltz-evm/src/quoter/uniswap_v3`)

A quote looks up the pools between the tokens and the liquid ones, lets the quoter contract price
every route over them and returns the best one. The route is executed by the universal router.
Neither of them knows the native token, which is written as the zero address. Errors of the node and
of the cache are their messages.
-/

namespace Boltz.UniswapV3

abbrev Address := BitVec 160

abbrev U256 := BitVec 256

/-! ## Routes -/

structure Hop where
  fee : ℕ
  token : Address
  deriving DecidableEq, Repr

structure Data where
  tokenIn : Address
  hops : List Hop
  deriving DecidableEq, Repr

namespace Data

def tokens (data : Data) : List Address := data.tokenIn :: data.hops.map Hop.token

def reverse (data : Data) : Data :=
  match data.tokens.reverse, (data.hops.map Hop.fee).reverse with
  | token :: tokens, fee :: fees => ⟨token, List.zipWith Hop.mk (fee :: fees) tokens⟩
  | _, _ => data

/-- The tokens of the request take the place of the ones that were quoted. -/
def normalize (data : Data) (tokenIn tokenOut : Address) : Data :=
  match data.hops.getLast? with
  | none => { data with tokenIn := tokenIn }
  | some last => ⟨tokenIn, data.hops.dropLast ++ [{ last with token := tokenOut }]⟩

end Data

/-! ## Paths -/

def feeTooLarge : String := "fee must be a 24-bit value"

/-- `PathEncoder`, as the bytes it has collected. -/
abbrev PathEncoder := Abi.Bytes

namespace PathEncoder

variable (path : PathEncoder)

def addToken (token : Address) : PathEncoder := path ++ Abi.beBytes 20 token.toNat

def addFee (fee : ℕ) : Except String PathEncoder :=
  if fee > 0xFFFFFF then .error feeTooLarge
  else .ok (path ++ [UInt8.ofNat (fee / 2 ^ 16), UInt8.ofNat (fee / 2 ^ 8), UInt8.ofNat fee])

def addHop (fee : ℕ) (tokenOut : Address) : Except String PathEncoder := do
  let path ← path.addFee fee
  return path.addToken tokenOut

def addHops : PathEncoder → List Hop → Except String PathEncoder
  | path, [] => .ok path
  | path, hop :: hops => do
    let path ← path.addHop hop.fee hop.token
    addHops path hops

end PathEncoder

def Data.path (data : Data) : Except String Abi.Bytes :=
  (PathEncoder.addToken [] data.tokenIn).addHops data.hops

/-! ## Pools -/

/-- The smaller token first. -/
def normalized (pair : Address × Address) : Address × Address :=
  if pair.1 < pair.2 then pair else (pair.2, pair.1)

/-- The fees of the pools between two tokens, by the normalized pair. -/
structure RelevantPools where
  fees : Address × Address → List ℕ
  nodup : ∀ pair, (fees pair).Nodup

def RelevantPools.get (pools : RelevantPools) (tokenA tokenB : Address) : List ℕ :=
  pools.fees (normalized (tokenA, tokenB))

def feeOptions : List ℕ := [100, 500, 3000, 10000]

/-- The lists of fees that earlier lookups have stored, by the normalized pair. They are empty for
pairs with the zero address, for which there are no pools. -/
structure PoolCache where
  get : Address × Address → Option (List ℕ)
  nodup : ∀ pair, ∀ fees ∈ get pair, fees.Nodup
  no_zero : ∀ pair, ∀ fees ∈ get pair, fees ≠ [] → pair.1 ≠ 0 ∧ pair.2 ≠ 0

/-- What the node answers to the multicalls. An entry is `none` when the call in it failed. -/
structure Node where
  getPool : List ((Address × Address) × ℕ) → Except String (List (Option Address))
  quoteExactInput : List Abi.Bytes → U256 → Except String (List (Option U256))
  quoteExactOutput : List Abi.Bytes → U256 → Except String (List (Option U256))
  /-- The factory only has pools of two tokens that are not the zero address. -/
  getPool_no_zero : ∀ calls pools, getPool calls = .ok pools →
    ∀ call pool, (call, some pool) ∈ calls.zip pools → pool ≠ 0 →
      call.1.1 ≠ 0 ∧ call.1.2 ≠ 0

structure Quoter where
  weth : Address
  router : Address
  liquidTokens : List Address
  liquidTokens_nodup : liquidTokens.Nodup

namespace Quoter

variable (quoter : Quoter)

def lookups (tokenIn tokenOut : Address) : List (Address × Address) :=
  (tokenIn, tokenOut) :: quoter.liquidTokens.flatMap fun token =>
    if token = tokenIn ∨ token = tokenOut then [] else [(tokenIn, token), (token, tokenOut)]

end Quoter

/-- The pairs that were not seen before, in either order. -/
def unseen : List (Address × Address) → List (Address × Address) → List (Address × Address)
  | _, [] => []
  | seen, pair :: pairs =>
    if normalized pair ∈ seen then unseen seen pairs
    else pair :: unseen (normalized pair :: seen) pairs

/-- The fees for which the node has a pool, in the order of the calls. -/
def discovered (results : List (((Address × Address) × ℕ) × Option Address))
    (pair : Address × Address) : List ℕ :=
  (results.filter fun result =>
    normalized result.1.1 = pair ∧ result.2.any (· ≠ 0)).map fun result => result.1.2

def poolCalls (uncached : List (Address × Address)) : List ((Address × Address) × ℕ) :=
  uncached.product feeOptions

theorem normalized_cases (pair : Address × Address) :
    normalized pair = pair ∨ normalized pair = (pair.2, pair.1) := by
  unfold normalized
  split
  · exact .inl rfl
  · exact .inr rfl

theorem nodup_unseen (pairs seen : List (Address × Address)) :
    ((unseen seen pairs).map normalized).Nodup ∧
      ∀ pair ∈ unseen seen pairs, normalized pair ∉ seen := by
  induction pairs generalizing seen with
  | nil => simp [unseen]
  | cons pair pairs ih =>
    rw [unseen]
    split
    · exact ih seen
    case isFalse hpair =>
      obtain ⟨hnodup, hnew⟩ := ih (normalized pair :: seen)
      refine ⟨?_, fun other hother => ?_⟩
      · rw [List.map_cons, List.nodup_cons]
        refine ⟨fun hmem => ?_, hnodup⟩
        obtain ⟨other, hother, heq⟩ := List.mem_map.mp hmem
        exact hnew other hother (heq ▸ List.mem_cons_self)
      · rcases List.mem_cons.mp hother with rfl | hother
        · exact hpair
        · exact fun hseen => hnew other hother (List.mem_cons_of_mem _ hseen)

theorem sublist_map_fst_zip {α β : Type} :
    ∀ (l : List α) (r : List β), ((l.zip r).map Prod.fst).Sublist l
  | [], _ => by simp
  | a :: l, [] => by simp
  | a :: l, b :: r => by simpa using (sublist_map_fst_zip l r).cons_cons a

/-- Each fee is asked for once. -/
theorem discovered_nodup {uncached : List (Address × Address)}
    (h : (uncached.map normalized).Nodup) (results : List (Option Address))
    (pair : Address × Address) : (discovered ((poolCalls uncached).zip results) pair).Nodup := by
  have hcalls : ((poolCalls uncached).map fun call => (normalized call.1, call.2)).Nodup := by
    have hproduct : (poolCalls uncached).map (fun call => (normalized call.1, call.2)) =
        (uncached.map normalized).product feeOptions := by
      simp only [poolCalls, List.product, List.map_flatMap, List.flatMap_map, List.map_map]
      rfl
    rw [hproduct]
    exact h.product (by decide)
  have hpairs : (((poolCalls uncached).zip results).map
      fun result => (normalized result.1.1, result.1.2)).Nodup := by
    have hsub := (sublist_map_fst_zip (poolCalls uncached) results).map
      fun call : (Address × Address) × ℕ => (normalized call.1, call.2)
    rw [List.map_map] at hsub
    exact hcalls.sublist hsub
  have hfound := hpairs.sublist (List.filter_sublist.map _ :
    ((((poolCalls uncached).zip results).filter fun result =>
      normalized result.1.1 = pair ∧ result.2.any (· ≠ 0)).map
        fun result => (normalized result.1.1, result.1.2)).Sublist _)
  unfold discovered
  refine List.Nodup.of_map (fun fee => (pair, fee)) ?_
  rw [List.map_map]
  refine (List.map_congr_left fun result hresult => ?_) ▸ hfound
  have hpair := (List.mem_filter.mp hresult).2
  simp only [decide_eq_true_eq] at hpair
  exact Prod.ext hpair.1 rfl

/-- What is stored for a pair with the zero address is empty. -/
theorem discovered_no_zero {node : Node} {uncached : List (Address × Address)}
    {results : List (Option Address)} (h : node.getPool (poolCalls uncached) = .ok results)
    {pair : Address × Address}
    (hfees : discovered ((poolCalls uncached).zip results) pair ≠ []) :
    pair.1 ≠ 0 ∧ pair.2 ≠ 0 := by
  obtain ⟨fee, hfee⟩ := List.exists_mem_of_ne_nil _ hfees
  obtain ⟨⟨call, pool⟩, hmem, -⟩ := List.mem_map.mp hfee
  obtain ⟨hzip, hpair⟩ := List.mem_filter.mp hmem
  simp only [decide_eq_true_eq] at hpair
  obtain ⟨rfl, hpool⟩ := hpair
  cases pool with
  | none => cases hpool
  | some pool =>
    obtain ⟨hfirst, hsecond⟩ := node.getPool_no_zero _ _ h call pool hzip (by simpa using hpool)
    rcases normalized_cases call.1 with hsame | hswap
    · rw [hsame]
      exact ⟨hfirst, hsecond⟩
    · rw [hswap]
      exact ⟨hsecond, hfirst⟩

/-- What the node has answered is stored for the pairs that were asked for. -/
def PoolCache.store (cache : PoolCache) {node : Node} (uncached : List (Address × Address))
    (huncached : (uncached.map normalized).Nodup) {results : List (Option Address)}
    (h : node.getPool (poolCalls uncached) = .ok results) : PoolCache where
  get pair :=
    if pair ∈ uncached.map normalized then
      some (discovered ((poolCalls uncached).zip results) pair)
    else cache.get pair
  nodup := by
    intro pair fees hfees
    split at hfees
    · cases hfees
      exact discovered_nodup huncached results pair
    · exact cache.nodup pair fees hfees
  no_zero := by
    intro pair fees hfees hne
    split at hfees
    · cases hfees
      exact discovered_no_zero h hne
    · exact cache.no_zero pair fees hfees hne

/-- The pools of the pairs that were looked up. -/
def RelevantPools.ofCache (cache : PoolCache) (pairs : List (Address × Address)) :
    RelevantPools where
  fees pair := if pair ∈ pairs.map normalized then (cache.get pair).getD [] else []
  nodup := by
    intro pair
    split
    · cases hfees : cache.get pair with
      | none => exact List.nodup_nil
      | some fees => exact cache.nodup pair fees hfees
    · exact List.nodup_nil

theorem RelevantPools.ofCache_no_zero {cache : PoolCache} {pairs : List (Address × Address)}
    {pair : Address × Address} (h : (RelevantPools.ofCache cache pairs).fees pair ≠ []) :
    pair.1 ≠ 0 ∧ pair.2 ≠ 0 := by
  simp only [ofCache] at h
  split at h
  · cases hfees : cache.get pair with
    | none => exact absurd (by rw [hfees]; rfl) h
    | some fees =>
      rw [hfees] at h
      exact cache.no_zero pair fees hfees h
  · exact absurd rfl h

namespace Quoter

variable (quoter : Quoter)

/-- The pairs that are not in the cache are looked up at once and stored. -/
def lookupRelevantPools (cache : Except String PoolCache) (node : Node)
    (tokenIn tokenOut : Address) : Except String (RelevantPools × PoolCache) := do
  let cache ← cache
  let pairs := unseen [] (quoter.lookups tokenIn tokenOut)
  let uncached := pairs.filter fun pair => cache.get (normalized pair) = none
  have huncached : (uncached.map normalized).Nodup :=
    (nodup_unseen (quoter.lookups tokenIn tokenOut) []).1.sublist (List.filter_sublist.map _)
  if uncached = [] then .ok (.ofCache cache pairs, cache)
  else
    match h : node.getPool (poolCalls uncached) with
    | .error message => .error message
    | .ok _ =>
      let stored := cache.store uncached huncached h
      .ok (.ofCache stored pairs, stored)

def generateRoutes (tokenIn tokenOut : Address) (pools : RelevantPools) : List Data :=
  let direct := (pools.get tokenIn tokenOut).map fun fee => ⟨tokenIn, [⟨fee, tokenOut⟩]⟩
  let indirect := quoter.liquidTokens.flatMap fun intermediate =>
    if intermediate = tokenIn ∨ intermediate = tokenOut then []
    else
      (pools.get tokenIn intermediate).flatMap fun fee1 =>
        (pools.get intermediate tokenOut).map fun fee2 =>
          ⟨tokenIn, [⟨fee1, intermediate⟩, ⟨fee2, tokenOut⟩]⟩
  direct ++ indirect

/-- Uniswap V3 does not support the native token of the chain. -/
def handleEth (token : Address) : Address := if token = 0 then quoter.weth else token

end Quoter

/-! ## Quotes -/

def noResults : String := "no results"

/-- `max_by_key`: the last one of the largest. -/
def maxByAmount : List (Data × U256) → Option (Data × U256)
  | [] => none
  | first :: rest =>
    some (rest.foldl (fun best quote => if best.2 ≤ quote.2 then quote else best) first)

/-- `min_by_key`: the first one of the smallest. -/
def minByAmount : List (Data × U256) → Option (Data × U256)
  | [] => none
  | first :: rest =>
    some (rest.foldl (fun best quote => if quote.2 < best.2 then quote else best) first)

/-- The routes whose call succeeded. -/
def priced (routes : List Data) (results : List (Option U256)) : List (Data × U256) :=
  (routes.zip results).filterMap fun (data, result) => result.map fun amount => (data, amount)

namespace Quoter

variable (quoter : Quoter) (cache : Except String PoolCache) (node : Node)
  (tokenIn tokenOut : Address)

def lookupAndRoute (tokenIn tokenOut : Address) : Except String (List Data) := do
  let (pools, _) ← quoter.lookupRelevantPools cache node tokenIn tokenOut
  return quoter.generateRoutes tokenIn tokenOut pools

/-- The best of the routes that the node has priced. -/
def quote (path : Data → Except String Abi.Bytes)
    (price : List Abi.Bytes → U256 → Except String (List (Option U256)))
    (best : List (Data × U256) → Option (Data × U256)) (amount : U256) :
    Except String (U256 × Data) := do
  let routes ← quoter.lookupAndRoute cache node (quoter.handleEth tokenIn)
    (quoter.handleEth tokenOut)
  if routes = [] then .error noResults
  else
    let paths ← routes.mapM path
    let results ← price paths amount
    match best (priced routes results) with
    | none => .error noResults
    | some (data, answer) => return (answer, data.normalize tokenIn tokenOut)

def quoteInput (amountIn : U256) : Except String (U256 × Data) :=
  quoter.quote cache node tokenIn tokenOut Data.path node.quoteExactInput maxByAmount amountIn

/-- The path needs to be in reverse order. -/
def quoteOutput (amountOut : U256) : Except String (U256 × Data) :=
  quoter.quote cache node tokenIn tokenOut (fun route => route.reverse.path)
    node.quoteExactOutput minByAmount amountOut

end Quoter

/-! ## The universal router -/

/-- The calls that the ABI bindings encode. -/
inductive CallData where
  | transfer (recipient : Address) (value : U256)
  | execute (commands : Abi.Bytes) (inputs : List Abi.Bytes)
  deriving DecidableEq, Repr

structure Call where
  target : Address
  value : U256
  data : CallData
  deriving DecidableEq, Repr

inductive Command where
  | v3SwapExactIn | wrapEth | unwrapWeth
  deriving DecidableEq, Repr

def Command.code : Command → UInt8
  | v3SwapExactIn => 0x00
  | wrapEth => 0x0b
  | unwrapWeth => 0x0c

/-- The highest bit is set when the command may revert. -/
def Command.encode (command : Command) (allowRevert : Bool) : UInt8 :=
  (command.code &&& 0x3f) ||| (if allowRevert then 0x80 else 0)

structure Commands where
  commands : Abi.Bytes := []
  inputs : List Abi.Bytes := []
  deriving DecidableEq, Repr

namespace Commands

variable (commands : Commands)

def add (command : Command) (input : Abi.Bytes) : Commands :=
  ⟨commands.commands ++ [command.encode false], commands.inputs ++ [input]⟩

/-- The offset in front of the tuple is removed. -/
def v3SwapExactIn (recipient : Address) (amountIn amountOutMin : U256) (path : Abi.Bytes)
    (payerIsUser : Bool) : Commands :=
  commands.add .v3SwapExactIn
    ((Abi.encode [.address recipient, .uint amountIn, .uint amountOutMin, .bytes path,
      .bool payerIsUser]).drop 32)

def wrapEther (recipient : Address) (amount : U256) : Commands :=
  commands.add .wrapEth (Abi.encode [.address recipient, .uint amount])

def unwrapEther (recipient : Address) (amount : U256) : Commands :=
  commands.add .unwrapWeth (Abi.encode [.address recipient, .uint amount])

end Commands

def noHops : String := "no hops"

namespace Quoter

variable (quoter : Quoter)

/-- The swap, between the commands that wrap and unwrap the native token. -/
def commands (isEtherIn isEtherOut : Bool) (recipient : Address) (amountIn amountOutMin : U256)
    (path : Abi.Bytes) : Commands :=
  let wrapped : Commands :=
    if isEtherIn then ({} : Commands).wrapEther quoter.router amountIn else {}
  let swapped := wrapped.v3SwapExactIn (if isEtherOut then quoter.router else recipient)
    amountIn amountOutMin path false
  if isEtherOut then swapped.unwrapEther recipient amountOutMin else swapped

/-- `Router::encode` -/
def encode (data : Data) (recipient : Address) (amountIn amountOutMin : U256) :
    Except String (List Call) := do
  let isEtherIn : Bool := data.tokenIn = 0
  match data.hops.getLast? with
  | none => .error noHops
  | some lastHop =>
    let isEtherOut : Bool := lastHop.token = 0
    let path ← (PathEncoder.addToken [] (quoter.handleEth data.tokenIn)).addHops
      (data.hops.map fun hop => ⟨hop.fee, quoter.handleEth hop.token⟩)
    let commands := quoter.commands isEtherIn isEtherOut recipient amountIn amountOutMin path
    let transfer : List Call :=
      if isEtherIn then []
      else [⟨data.tokenIn, 0, .transfer quoter.router amountIn⟩]
    return transfer ++
      [⟨quoter.router, if isEtherIn then amountIn else 0,
        .execute commands.commands commands.inputs⟩]

end Quoter

end Boltz.UniswapV3
