import Boltz.Ethereum.UniswapV3

/-!
# The quoted route is the executed one

The path of a route can be read back, and so can the swap that the universal router is asked for. For
every quote, the call of the quoter and the swap are about the same route: the tokens of the request
that stand for the native one are exchanged before the quote and again in the swap.
-/

namespace Boltz.UniswapV3

/-! ## Reversing -/

namespace Data

def fees (data : Data) : List ℕ := data.hops.map Hop.fee

variable {data other : Data}

theorem map_zipWith_mk : ∀ {fees : List ℕ} {tokens : List Address}, fees.length = tokens.length →
    (List.zipWith Hop.mk fees tokens).map Hop.fee = fees ∧
      (List.zipWith Hop.mk fees tokens).map Hop.token = tokens
  | [], [], _ => ⟨rfl, rfl⟩
  | fee :: fees, token :: tokens, h => by
    obtain ⟨hfees, htokens⟩ := map_zipWith_mk (Nat.succ.inj h)
    exact ⟨congrArg (fee :: ·) hfees, congrArg (token :: ·) htokens⟩

theorem zipWith_mk_map (hops : List Hop) :
    List.zipWith Hop.mk (hops.map Hop.fee) (hops.map Hop.token) = hops := by
  induction hops with
  | nil => rfl
  | cons hop hops ih => rw [List.map_cons, List.map_cons, List.zipWith_cons_cons, ih]

/-- The tokens and fees say everything. -/
theorem ext_of_tokens (htokens : data.tokens = other.tokens) (hfees : data.fees = other.fees) :
    data = other := by
  obtain ⟨tokenIn, hops⟩ := data
  obtain ⟨tokenIn', hops'⟩ := other
  obtain ⟨rfl, htokens⟩ := List.cons.inj htokens
  have hhops : hops = hops' := by
    rw [← zipWith_mk_map hops, ← zipWith_mk_map hops', htokens]
    exact congrArg (fun fees => List.zipWith Hop.mk fees _) hfees
  rw [hhops]

/-- The reversed data are the same hops in the opposite order. -/
theorem reverse_parts (data : Data) :
    data.reverse.tokens = data.tokens.reverse ∧ data.reverse.fees = data.fees.reverse := by
  obtain ⟨tokenIn, hops⟩ := data
  cases hops with
  | nil => exact ⟨rfl, rfl⟩
  | cons hop hops =>
    set data : Data := ⟨tokenIn, hop :: hops⟩ with hdata
    obtain ⟨token, tokens, htokens⟩ := List.exists_cons_of_ne_nil
      (show data.tokens.reverse ≠ [] by simp [tokens])
    obtain ⟨fee, fees, hfees⟩ := List.exists_cons_of_ne_nil
      (show data.fees.reverse ≠ [] by simp [Data.fees, hdata])
    have hlength : (fee :: fees).length = tokens.length := by
      have htokensLength := congrArg List.length htokens
      have hfeesLength := congrArg List.length hfees
      simp only [List.length_reverse, Data.tokens, Data.fees, List.length_cons,
        List.length_map] at htokensLength hfeesLength ⊢
      omega
    have hreverse : data.reverse = ⟨token, List.zipWith Hop.mk (fee :: fees) tokens⟩ := by
      unfold reverse
      rw [htokens, show (data.hops.map Hop.fee).reverse = fee :: fees from hfees]
    obtain ⟨hmapFees, hmapTokens⟩ := map_zipWith_mk hlength
    rw [hreverse, htokens, hfees]
    exact ⟨congrArg (token :: ·) hmapTokens, hmapFees⟩

theorem reverse_reverse (data : Data) : data.reverse.reverse = data := by
  obtain ⟨htokens, hfees⟩ := data.reverse_parts
  obtain ⟨htokens', hfees'⟩ := data.reverse.reverse_parts
  refine ext_of_tokens ?_ ?_
  · rw [htokens', htokens, List.reverse_reverse]
  · rw [hfees', hfees, List.reverse_reverse]

end Data

/-! ## Paths -/

def hopBytes (hop : Hop) : Abi.Bytes := Abi.beBytes 3 hop.fee ++ Abi.beBytes 20 hop.token.toNat

/-- Fees that fit into the path. -/
def Data.FeesFit (data : Data) : Prop := ∀ hop ∈ data.hops, hop.fee ≤ 0xFFFFFF

/-- The hops that a path continues with. -/
def decodeHops (bytes : Abi.Bytes) : Option (List Hop) :=
  if bytes = [] then some []
  else if bytes.length < 23 then none
  else
    let fee := Abi.ofBeBytes (bytes.take 3)
    let token := BitVec.ofNat 160 (Abi.ofBeBytes ((bytes.drop 3).take 20))
    (decodeHops (bytes.drop 23)).map (⟨fee, token⟩ :: ·)
termination_by bytes.length

def decodePath (bytes : Abi.Bytes) : Option Data :=
  (decodeHops (bytes.drop 20)).map fun hops =>
    ⟨BitVec.ofNat 160 (Abi.ofBeBytes (bytes.take 20)), hops⟩

theorem ofNat_beBytes (token : Address) :
    BitVec.ofNat 160 (Abi.ofBeBytes (Abi.beBytes 20 token.toNat)) = token := by
  have hlt : token.toNat < 256 ^ 20 := token.isLt.trans_le (by norm_num)
  rw [Abi.ofBeBytes_beBytes hlt, BitVec.ofNat_toNat, BitVec.setWidth_eq]

theorem length_hopBytes (hop : Hop) : (hopBytes hop).length = 23 := by
  simp [hopBytes]

theorem decodeHops_hopBytes {hop : Hop} (h : hop.fee ≤ 0xFFFFFF) (rest : Abi.Bytes) :
    decodeHops (hopBytes hop ++ rest) = (decodeHops rest).map (hop :: ·) := by
  have hlength := length_hopBytes hop
  have hfee : (hopBytes hop ++ rest).take 3 = Abi.beBytes 3 hop.fee := by
    rw [hopBytes, List.append_assoc]
    exact List.take_left' (Abi.length_beBytes 3 _)
  have htoken : ((hopBytes hop ++ rest).drop 3).take 20 = Abi.beBytes 20 hop.token.toNat := by
    rw [hopBytes, List.append_assoc, List.drop_left' (Abi.length_beBytes 3 _)]
    exact List.take_left' (Abi.length_beBytes 20 _)
  rw [decodeHops, if_neg (by intro hnil; simp [List.append_eq_nil_iff.mp hnil] at hlength),
    if_neg (by rw [List.length_append, hlength]; omega)]
  simp only [hfee, htoken, List.drop_left' hlength, ofNat_beBytes,
    Abi.ofBeBytes_beBytes (show hop.fee < 256 ^ 3 by omega)]

theorem decodeHops_flatMap {hops : List Hop} (h : ∀ hop ∈ hops, hop.fee ≤ 0xFFFFFF) :
    decodeHops (hops.flatMap hopBytes) = some hops := by
  induction hops with
  | nil => rw [List.flatMap_nil, decodeHops, if_pos rfl]
  | cons hop hops ih =>
    obtain ⟨hhop, hhops⟩ := List.forall_mem_cons.mp h
    rw [List.flatMap_cons, decodeHops_hopBytes hhop, ih hhops, Option.map_some]

namespace PathEncoder

theorem addHop_eq (path : PathEncoder) (hop : Hop) :
    path.addHop hop.fee hop.token =
      if hop.fee > 0xFFFFFF then .error feeTooLarge else .ok (path ++ hopBytes hop) := by
  unfold addHop addFee
  split
  · rfl
  · have hbytes : Abi.beBytes 3 hop.fee =
        [UInt8.ofNat (hop.fee / 2 ^ 16), UInt8.ofNat (hop.fee / 2 ^ 8), UInt8.ofNat hop.fee] := by
      have hmod : ∀ n : ℕ, UInt8.ofNat (n % 256) = UInt8.ofNat n := fun n =>
        UInt8.toNat_inj.mp (by simp)
      simp only [Abi.beBytes, List.nil_append, List.cons_append, Nat.div_div_eq_div_mul, hmod,
        Nat.reduceMul, Nat.reducePow]
    simp only [bind, Except.bind, pure, Except.pure, addToken, hopBytes, hbytes,
      List.append_assoc]

theorem addHops_eq_ok {path : PathEncoder} {hops : List Hop} {bytes : Abi.Bytes} :
    path.addHops hops = .ok bytes ↔
      (∀ hop ∈ hops, hop.fee ≤ 0xFFFFFF) ∧ bytes = path ++ hops.flatMap hopBytes := by
  induction hops generalizing path with
  | nil => simp [addHops, eq_comm]
  | cons hop hops ih =>
    rw [addHops, addHop_eq]
    by_cases h : hop.fee > 0xFFFFFF
    · rw [if_pos h]
      refine iff_of_false nofun fun hall => ?_
      have := hall.1 hop List.mem_cons_self
      omega
    · rw [if_neg h]
      show addHops (path ++ hopBytes hop) hops = .ok bytes ↔ _
      rw [ih, List.forall_mem_cons, List.flatMap_cons, List.append_assoc]
      simp [not_lt.mp h]

end PathEncoder

theorem Data.path_eq_ok {data : Data} {bytes : Abi.Bytes} :
    data.path = .ok bytes ↔
      data.FeesFit ∧ bytes = Abi.beBytes 20 data.tokenIn.toNat ++ data.hops.flatMap hopBytes := by
  rw [Data.path, PathEncoder.addHops_eq_ok, PathEncoder.addToken, List.nil_append]
  exact Iff.rfl

/-- Nothing of a route is lost in its path. -/
theorem decodePath_path {data : Data} {bytes : Abi.Bytes} (h : data.path = .ok bytes) :
    decodePath bytes = some data := by
  obtain ⟨hfees, hbytes⟩ := Data.path_eq_ok.mp h
  have htoken : (Abi.beBytes 20 data.tokenIn.toNat).length = 20 := Abi.length_beBytes 20 _
  have htake : bytes.take 20 = Abi.beBytes 20 data.tokenIn.toNat := by
    rw [hbytes, List.take_left' htoken]
  have hdrop : bytes.drop 20 = data.hops.flatMap hopBytes := by
    rw [hbytes, List.drop_left' htoken]
  rw [decodePath, htake, hdrop, decodeHops_flatMap hfees, ofNat_beBytes, Option.map_some]

/-! ## Routes over pools -/

/-- The tokens and fee of each hop. -/
def legsFrom : Address → List Hop → List (Address × ℕ × Address)
  | _, [] => []
  | token, hop :: hops => (token, hop.fee, hop.token) :: legsFrom hop.token hops

namespace Quoter

variable {quoter : Quoter} {pools : RelevantPools} {tokenIn tokenOut : Address} {data : Data}

/-- One hop, or two hops over a liquid token, each of them over a pool. -/
structure IsRoute (quoter : Quoter) (pools : RelevantPools) (tokenIn tokenOut : Address)
    (data : Data) : Prop where
  tokenIn_eq : data.tokenIn = tokenIn
  tokenOut_eq : data.hops.getLast?.map Hop.token = some tokenOut
  hops_le : data.hops.length ≤ 2
  pool : ∀ leg ∈ legsFrom data.tokenIn data.hops, leg.2.1 ∈ pools.get leg.1 leg.2.2
  via : ∀ hop ∈ data.hops.dropLast,
    hop.token ∈ quoter.liquidTokens ∧ hop.token ≠ tokenIn ∧ hop.token ≠ tokenOut

theorem mem_generateRoutes :
    data ∈ quoter.generateRoutes tokenIn tokenOut pools ↔
      (∃ fee ∈ pools.get tokenIn tokenOut, data = ⟨tokenIn, [⟨fee, tokenOut⟩]⟩) ∨
      ∃ via ∈ quoter.liquidTokens, via ≠ tokenIn ∧ via ≠ tokenOut ∧
        ∃ fee1 ∈ pools.get tokenIn via, ∃ fee2 ∈ pools.get via tokenOut,
          data = ⟨tokenIn, [⟨fee1, via⟩, ⟨fee2, tokenOut⟩]⟩ := by
  simp only [generateRoutes, List.mem_append, List.mem_map, List.mem_flatMap]
  refine or_congr (by simp only [eq_comm]) (exists_congr fun via => and_congr_right fun _ => ?_)
  by_cases h : via = tokenIn ∨ via = tokenOut
  · rw [if_pos h]
    refine iff_of_false List.not_mem_nil fun hvia => ?_
    exact h.elim hvia.1 hvia.2.1
  · obtain ⟨hin, hout⟩ := not_or.mp h
    rw [if_neg h]
    simp only [List.mem_flatMap, List.mem_map, hin, hout, ne_eq, not_false_eq_true, true_and,
      eq_comm]

/-- The generated routes are the ones there are. -/
theorem mem_generateRoutes_iff :
    data ∈ quoter.generateRoutes tokenIn tokenOut pools ↔
      quoter.IsRoute pools tokenIn tokenOut data := by
  rw [mem_generateRoutes]
  constructor
  · rintro (⟨fee, hfee, rfl⟩ | ⟨via, hvia, hin, hout, fee1, hfee1, fee2, hfee2, rfl⟩)
    · exact ⟨rfl, rfl, by simp, by simpa [legsFrom] using hfee, by simp⟩
    · exact ⟨rfl, rfl, by simp, by simpa [legsFrom] using ⟨hfee1, hfee2⟩, by simp [hvia, hin, hout]⟩
  · intro h
    obtain ⟨token, hops⟩ := data
    obtain rfl : token = tokenIn := h.tokenIn_eq
    have hlast := h.tokenOut_eq
    have hpool := h.pool
    have hvia := h.via
    match hops, h.hops_le with
    | [], _ => cases hlast
    | [hop], _ =>
      obtain rfl : hop.token = tokenOut := Option.some.inj hlast
      exact .inl ⟨hop.fee, hpool _ List.mem_cons_self, rfl⟩
    | [first, second], _ =>
      obtain rfl : second.token = tokenOut := Option.some.inj hlast
      obtain ⟨hliquid, hin, hout⟩ := hvia first List.mem_cons_self
      exact .inr ⟨first.token, hliquid, hin, hout, first.fee, hpool _ List.mem_cons_self,
        second.fee, hpool _ (List.mem_cons_of_mem _ List.mem_cons_self), rfl⟩
    | _ :: _ :: _ :: _, hle =>
      simp only [List.length_cons] at hle
      omega

theorem nodup_generateRoutes : (quoter.generateRoutes tokenIn tokenOut pools).Nodup := by
  have hfees : ∀ a b, (pools.get a b).Nodup := fun a b => pools.nodup _
  refine List.Nodup.append ?_ ?_ ?_
  · exact (hfees _ _).map fun fee fee' h => by simpa using h
  · rw [List.nodup_flatMap]
    refine ⟨fun via _ => ?_, ?_⟩
    · split
      · exact List.nodup_nil
      · rw [List.nodup_flatMap]
        refine ⟨fun fee1 _ => (hfees _ _).map fun fee fee' h => by simpa using h, ?_⟩
        refine (hfees _ _).imp fun {fee fee'} hne => ?_
        intro data hdata hdata'
        obtain ⟨_, -, rfl⟩ := List.mem_map.mp hdata
        obtain ⟨_, -, heq⟩ := List.mem_map.mp hdata'
        simp only [Data.mk.injEq, List.cons.injEq, Hop.mk.injEq] at heq
        exact hne heq.2.1.1.symm
    · refine quoter.liquidTokens_nodup.imp fun {via via'} hne => ?_
      intro data hdata hdata'
      simp only at hdata hdata'
      split at hdata
      · cases hdata
      split at hdata'
      · cases hdata'
      obtain ⟨_, -, hdata⟩ := List.mem_flatMap.mp hdata
      obtain ⟨_, -, rfl⟩ := List.mem_map.mp hdata
      obtain ⟨_, -, hdata'⟩ := List.mem_flatMap.mp hdata'
      obtain ⟨_, -, heq⟩ := List.mem_map.mp hdata'
      simp only [Data.mk.injEq, List.cons.injEq, Hop.mk.injEq] at heq
      exact hne heq.2.1.2.symm
  · intro data hdirect hindirect
    obtain ⟨_, -, rfl⟩ := List.mem_map.mp hdirect
    obtain ⟨_, -, hindirect⟩ := List.mem_flatMap.mp hindirect
    split at hindirect
    · cases hindirect
    obtain ⟨_, -, hindirect⟩ := List.mem_flatMap.mp hindirect
    obtain ⟨_, -, heq⟩ := List.mem_map.mp hindirect
    simp at heq

/-- There are no looked-up pools with the zero address. -/
theorem lookup_no_zero {cache : Except String PoolCache} {node : Node} {stored : PoolCache}
    (h : quoter.lookupRelevantPools cache node tokenIn tokenOut = .ok (pools, stored))
    {tokenA tokenB : Address} (hfees : pools.get tokenA tokenB ≠ []) : tokenA ≠ 0 ∧ tokenB ≠ 0 := by
  have hpair : ∀ pair, pools.fees pair ≠ [] → pair.1 ≠ 0 ∧ pair.2 ≠ 0 := by
    cases cache with
    | error message => cases h
    | ok cache =>
      simp only [lookupRelevantPools, bind, Except.bind] at h
      split at h
      · obtain ⟨rfl, rfl⟩ := Prod.mk.inj (Except.ok.inj h)
        exact fun pair => RelevantPools.ofCache_no_zero
      · split at h
        · cases h
        · obtain ⟨rfl, rfl⟩ := Prod.mk.inj (Except.ok.inj h)
          exact fun pair => RelevantPools.ofCache_no_zero
  have hzero := hpair _ hfees
  rcases normalized_cases (tokenA, tokenB) with hsame | hswap
  · rwa [hsame] at hzero
  · rw [hswap] at hzero
    exact hzero.symm

end Quoter

/-! ## Quotes -/

/-- The node priced a path. -/
def Priced (quote : List Abi.Bytes → U256 → Except String (List (Option U256))) (path : Abi.Bytes)
    (amount answer : U256) : Prop :=
  ∃ paths results, quote paths amount = .ok results ∧ (path, some answer) ∈ paths.zip results

theorem foldl_mem {α : Type} {better : α → α → α} (h : ∀ a b, better a b = a ∨ better a b = b) :
    ∀ (items : List α) (first : α), items.foldl better first ∈ first :: items
  | [], _ => List.mem_cons_self
  | item :: items, first => by
    rw [List.foldl_cons]
    rcases List.mem_cons.mp (foldl_mem h items (better first item)) with hbest | hmem
    · rw [hbest]
      rcases h first item with hfirst | hitem
      · rw [hfirst]
        exact List.mem_cons_self
      · rw [hitem]
        exact List.mem_cons_of_mem _ List.mem_cons_self
    · exact List.mem_cons_of_mem _ (List.mem_cons_of_mem _ hmem)

theorem mem_of_maxByAmount {quotes : List (Data × U256)} {quote : Data × U256}
    (h : maxByAmount quotes = some quote) : quote ∈ quotes := by
  cases quotes with
  | nil => cases h
  | cons first rest =>
    cases h
    refine foldl_mem (fun best quote => ?_) rest first
    split
    · exact .inr rfl
    · exact .inl rfl

theorem mem_of_minByAmount {quotes : List (Data × U256)} {quote : Data × U256}
    (h : minByAmount quotes = some quote) : quote ∈ quotes := by
  cases quotes with
  | nil => cases h
  | cons first rest =>
    cases h
    refine foldl_mem (fun best quote => ?_) rest first
    split
    · exact .inr rfl
    · exact .inl rfl

/-- The paths of the routes, in the same order. -/
theorem forall₂_of_mapM {path : Data → Except String Abi.Bytes} :
    ∀ {routes : List Data} {paths : List Abi.Bytes}, routes.mapM path = .ok paths →
      List.Forall₂ (fun route bytes => path route = .ok bytes) routes paths
  | [], paths, h => by
    cases h
    exact .nil
  | route :: routes, paths, h => by
    rw [List.mapM_cons] at h
    cases hroute : path route with
    | error message => rw [hroute] at h; cases h
    | ok bytes =>
      cases hroutes : routes.mapM path with
      | error message => rw [hroute, hroutes] at h; cases h
      | ok rest =>
        rw [hroute, hroutes] at h
        cases h
        exact .cons hroute (forall₂_of_mapM hroutes)

theorem exists_path_of_zip {path : Data → Except String Abi.Bytes} {routes : List Data}
    {paths : List Abi.Bytes} (h : List.Forall₂ (fun route bytes => path route = .ok bytes) routes paths)
    {results : List (Option U256)} {route : Data} {result : Option U256}
    (hmem : (route, result) ∈ routes.zip results) :
    ∃ bytes, path route = .ok bytes ∧ (bytes, result) ∈ paths.zip results := by
  induction h generalizing results with
  | nil => cases hmem
  | @cons first bytes routes paths hfirst _ ih =>
    cases results with
    | nil => cases hmem
    | cons answer results =>
      rw [List.zip_cons_cons] at hmem ⊢
      rcases List.mem_cons.mp hmem with heq | hmem
      · obtain ⟨rfl, rfl⟩ := Prod.mk.inj heq
        exact ⟨bytes, hfirst, List.mem_cons_self⟩
      · obtain ⟨bytes, hbytes, hzip⟩ := ih hmem
        exact ⟨bytes, hbytes, List.mem_cons_of_mem _ hzip⟩

theorem mem_priced {routes : List Data} {results : List (Option U256)} {data : Data}
    {amount : U256} :
    (data, amount) ∈ priced routes results ↔ (data, some amount) ∈ routes.zip results := by
  simp [priced]

namespace Quoter

variable {quoter : Quoter} {cache : Except String PoolCache} {node : Node}
  {tokenIn tokenOut : Address} {data : Data}

/-- The looked-up routes between the tokens of a request. -/
def Candidate (quoter : Quoter) (cache : Except String PoolCache) (node : Node)
    (tokenIn tokenOut : Address) (route : Data) : Prop :=
  ∃ pools stored,
    quoter.lookupRelevantPools cache node (quoter.handleEth tokenIn) (quoter.handleEth tokenOut) =
      .ok (pools, stored) ∧
    quoter.IsRoute pools (quoter.handleEth tokenIn) (quoter.handleEth tokenOut) route

theorem candidate_of_lookupAndRoute {routes : List Data}
    (h : quoter.lookupAndRoute cache node (quoter.handleEth tokenIn)
      (quoter.handleEth tokenOut) = .ok routes) {route : Data} (hmem : route ∈ routes) :
    quoter.Candidate cache node tokenIn tokenOut route := by
  unfold lookupAndRoute at h
  cases hlookup : quoter.lookupRelevantPools cache node (quoter.handleEth tokenIn)
      (quoter.handleEth tokenOut) with
  | error message => rw [hlookup] at h; cases h
  | ok found =>
    rw [hlookup] at h
    cases h
    exact ⟨found.1, found.2, hlookup, mem_generateRoutes_iff.mp hmem⟩

/-- A quote is about one of the routes and has the answer to the call with its path. -/
theorem quote_spec {path : Data → Except String Abi.Bytes}
    {price : List Abi.Bytes → U256 → Except String (List (Option U256))}
    {best : List (Data × U256) → Option (Data × U256)}
    (hbest : ∀ quotes quote, best quotes = some quote → quote ∈ quotes) {amount answer : U256}
    (h : quoter.quote cache node tokenIn tokenOut path price best amount = .ok (answer, data)) :
    ∃ route bytes, quoter.Candidate cache node tokenIn tokenOut route ∧ path route = .ok bytes ∧
      Priced price bytes amount answer ∧ data = route.normalize tokenIn tokenOut := by
  unfold quote at h
  cases hroutes : quoter.lookupAndRoute cache node (quoter.handleEth tokenIn)
      (quoter.handleEth tokenOut) with
  | error message => rw [hroutes] at h; cases h
  | ok routes =>
    simp only [hroutes, bind, Except.bind, pure, Except.pure] at h
    split at h
    · cases h
    cases hpaths : routes.mapM path with
    | error message => rw [hpaths] at h; cases h
    | ok paths =>
      rw [hpaths] at h
      simp only at h
      cases hresults : price paths amount with
      | error message => rw [hresults] at h; cases h
      | ok results =>
        rw [hresults] at h
        simp only at h
        split at h
        · cases h
        case h_2 route amount hsome =>
          obtain ⟨rfl, rfl⟩ := Prod.mk.inj (Except.ok.inj h)
          have hzip := mem_priced.mp (hbest _ _ hsome)
          obtain ⟨bytes, hbytes, hmem⟩ := exists_path_of_zip (forall₂_of_mapM hpaths) hzip
          exact ⟨route, bytes, candidate_of_lookupAndRoute hroutes (List.of_mem_zip hzip).1, hbytes,
            ⟨paths, results, hresults, hmem⟩, rfl⟩

end Quoter

/-! ## The swap that is executed -/

/-- The parameters of a swap with an exact input. -/
structure Swap where
  recipient : Address
  amountIn : U256
  amountOutMin : U256
  route : Data
  payerIsUser : Bool
  deriving DecidableEq, Repr

/-- The router reads `(address, uint256, uint256, bytes, bool)`. -/
def decodeSwap (input : Abi.Bytes) : Option Swap :=
  (decodePath (Abi.bytesAt (Abi.wordAt 96 input) input)).map fun route =>
    { recipient := BitVec.ofNat 160 (Abi.wordAt 0 input)
      amountIn := BitVec.ofNat 256 (Abi.wordAt 32 input)
      amountOutMin := BitVec.ofNat 256 (Abi.wordAt 64 input)
      route
      payerIsUser := Abi.wordAt 128 input ≠ 0 }

namespace Commands

/-- The swaps among the commands. -/
def swaps (commands : Commands) : List (Option Swap) :=
  ((commands.commands.zip commands.inputs).filter
    (·.1 = Command.v3SwapExactIn.encode false)).map fun command => decodeSwap command.2

/-- Every command has its input. -/
def Aligned (commands : Commands) : Prop := commands.commands.length = commands.inputs.length

variable {commands : Commands}

theorem Aligned.add (h : commands.Aligned) (command : Command) (input : Abi.Bytes) :
    (commands.add command input).Aligned := by
  simpa [Aligned, Commands.add] using h

theorem swaps_add_swap (h : commands.Aligned) (input : Abi.Bytes) :
    (commands.add .v3SwapExactIn input).swaps = commands.swaps ++ [decodeSwap input] := by
  simp [swaps, add, List.zip_append h]

theorem swaps_add_of_ne (h : commands.Aligned) {command : Command}
    (hcommand : command ≠ .v3SwapExactIn) (input : Abi.Bytes) :
    (commands.add command input).swaps = commands.swaps := by
  have hcode : command.encode false ≠ Command.v3SwapExactIn.encode false := by
    revert hcommand
    cases command <;> decide
  simp [swaps, add, List.zip_append h, hcode]

end Commands

/-- The swaps in a call of the router. -/
def Call.swaps (call : Call) : List (Option Swap) :=
  match call.data with
  | .transfer _ _ => []
  | .execute commands inputs => Commands.swaps ⟨commands, inputs⟩

/-- The recipient of the swap: the native token is unwrapped by the router first. -/
def Quoter.receiver (quoter : Quoter) (isEtherOut : Bool) (recipient : Address) : Address :=
  if isEtherOut then quoter.router else recipient

/-- What the router is asked for is one swap over the route. -/
def Quoter.Executes (quoter : Quoter) (data route : Data) (recipient : Address)
    (amountIn amountOutMin : U256) : Prop :=
  ∃ calls, quoter.encode data recipient amountIn amountOutMin = .ok calls ∧
    calls.flatMap Call.swaps =
      [some ⟨quoter.receiver (data.hops.getLast?.map Hop.token = some 0) recipient, amountIn,
        amountOutMin, route, false⟩]

/-- The input of the command has the values at their places. -/
theorem decodeSwap_input {path : Abi.Bytes} {route : Data} (hlength : path.length < 2 ^ 256)
    (hpath : decodePath path = some route) (recipient : Address) (amountIn amountOutMin : U256)
    (payerIsUser : Bool) :
    decodeSwap ((Abi.encode [.address recipient, .uint amountIn, .uint amountOutMin, .bytes path,
      .bool payerIsUser]).drop 32) =
        some ⟨recipient, amountIn, amountOutMin, route, payerIsUser⟩ := by
  have hinput : (Abi.encode [.address recipient, .uint amountIn, .uint amountOutMin, .bytes path,
      .bool payerIsUser]).drop 32 =
        Abi.word recipient.toNat ++ (Abi.word amountIn.toNat ++ (Abi.word amountOutMin.toNat ++
          (Abi.word 160 ++ (Abi.word payerIsUser.toNat ++ (Abi.word path.length ++ (path ++
            List.replicate ((32 - path.length % 32) % 32) 0)))))) := by
    have hbody := Abi.drop_word 0 32 (Abi.encodeTuple [.address recipient, .uint amountIn,
      .uint amountOutMin, .bytes path, .bool payerIsUser])
    rw [Nat.zero_add, List.drop_zero] at hbody
    rw [Abi.encode, if_pos (by simp [Abi.Value.isDynamic]), hbody]
    simp [Abi.encodeTuple, Abi.Value.heads, Abi.Value.head, Abi.Value.tail]
  have hbool : payerIsUser.toNat < 2 ^ 256 := by
    cases payerIsUser <;> norm_num
  have haddress : recipient.toNat < 2 ^ 256 := recipient.isLt.trans_le (by norm_num)
  rw [hinput, decodeSwap]
  have hrecipient := Abi.wordAt_zero haddress
  have hin := Abi.wordAt_zero amountIn.isLt
  have hout := Abi.wordAt_zero amountOutMin.isLt
  have hoffset := Abi.wordAt_zero (show 160 < 2 ^ 256 by norm_num)
  have hpayer := Abi.wordAt_zero hbool
  have hbytes := Abi.bytesAt_zero hlength
  simp only [Abi.wordAt_add 0, Abi.wordAt_add 32, Abi.wordAt_add 64, Abi.wordAt_add 96,
    Abi.bytesAt_add 0, Abi.bytesAt_add 32, Abi.bytesAt_add 64, Abi.bytesAt_add 96,
    Abi.bytesAt_add 128, hrecipient, hin, hout, hoffset, hpayer, hbytes, hpath,
    Option.map_some, BitVec.ofNat_toNat, BitVec.setWidth_eq]
  cases payerIsUser <;> rfl

namespace Quoter

variable {quoter : Quoter} {cache : Except String PoolCache} {node : Node}
  {tokenIn tokenOut : Address} {data route : Data} {path : Abi.Bytes}

/-- The data with the native token exchanged. -/
def exchanged (quoter : Quoter) (data : Data) : Data :=
  ⟨quoter.handleEth data.tokenIn,
    data.hops.map fun hop => ⟨hop.fee, quoter.handleEth hop.token⟩⟩

/-- There is one swap in the commands. -/
theorem swaps_commands (quoter : Quoter) (isEtherIn isEtherOut : Bool) (recipient : Address)
    (amountIn amountOutMin : U256) (path : Abi.Bytes) :
    (quoter.commands isEtherIn isEtherOut recipient amountIn amountOutMin path).swaps =
      [decodeSwap ((Abi.encode [.address (quoter.receiver isEtherOut recipient), .uint amountIn,
        .uint amountOutMin, .bytes path, .bool false]).drop 32)] := by
  have hempty : ({} : Commands).Aligned := rfl
  have hwrap : Command.wrapEth ≠ .v3SwapExactIn := by decide
  have hunwrap : Command.unwrapWeth ≠ .v3SwapExactIn := by decide
  obtain ⟨wrapped, hwrapped, haligned, hswaps⟩ : ∃ wrapped : Commands,
      wrapped = (if isEtherIn then ({} : Commands).wrapEther quoter.router amountIn else {}) ∧
        wrapped.Aligned ∧ wrapped.swaps = [] := by
    cases isEtherIn with
    | false => exact ⟨_, rfl, hempty, rfl⟩
    | true => exact ⟨_, rfl, hempty.add _ _, Commands.swaps_add_of_ne hempty hwrap _⟩
  have hswap := Commands.swaps_add_swap haligned ((Abi.encode
    [.address (quoter.receiver isEtherOut recipient), .uint amountIn, .uint amountOutMin,
      .bytes path, .bool false]).drop 32)
  rw [hswaps, List.nil_append] at hswap
  unfold commands
  rw [← hwrapped]
  cases isEtherOut with
  | false => exact hswap
  | true => exact (Commands.swaps_add_of_ne (haligned.add _ _) hunwrap _).trans hswap

/-- Encoding asks for the swap of the exchanged data, whatever is wrapped or transferred with it. -/
theorem executes_of_path (hpath : (quoter.exchanged data).path = .ok path)
    (hhops : data.hops ≠ []) (hlength : path.length < 2 ^ 256) (recipient : Address)
    (amountIn amountOutMin : U256) :
    quoter.Executes data (quoter.exchanged data) recipient amountIn amountOutMin := by
  have hdecode := decodePath_path hpath
  obtain ⟨last, hlast⟩ : ∃ last, data.hops.getLast? = some last :=
    ⟨_, List.getLast?_eq_some_getLast hhops⟩
  have hswap := decodeSwap_input hlength hdecode (quoter.receiver (last.token = 0) recipient)
    amountIn amountOutMin false
  have hswaps := swaps_commands quoter (data.tokenIn = 0) (last.token = 0) recipient amountIn
    amountOutMin path
  rw [hswap] at hswaps
  rw [Data.path, exchanged] at hpath
  simp only [Executes, encode, hlast, hpath, bind, Except.bind, pure, Except.pure,
    Except.ok.injEq, exists_eq_left', List.flatMap_append, List.flatMap_cons, List.flatMap_nil,
    List.append_nil, Call.swaps, Option.map_some, Option.some.injEq]
  split
  · exact hswaps
  · exact hswaps

theorem handleEth_of_ne {token : Address} (h : token ≠ 0) : quoter.handleEth token = token :=
  if_neg h

/-- A route over pools is what its data stand for. -/
theorem exchanged_normalize (h : quoter.Candidate cache node tokenIn tokenOut route) :
    quoter.exchanged (route.normalize tokenIn tokenOut) = route ∧
      (route.normalize tokenIn tokenOut).hops ≠ [] ∧ route.hops.length ≤ 2 := by
  obtain ⟨pools, stored, hlookup, hroute⟩ := h
  refine ⟨?_, ?_, hroute.hops_le⟩
  · rcases mem_generateRoutes.mp (mem_generateRoutes_iff.mpr hroute) with
      ⟨fee, -, rfl⟩ | ⟨via, -, -, -, fee1, hfee1, fee2, -, rfl⟩
    · simp [exchanged, Data.normalize]
    · have hvia := (lookup_no_zero hlookup (List.ne_nil_of_mem hfee1)).2
      simp [exchanged, Data.normalize, handleEth_of_ne hvia]
  · rcases mem_generateRoutes.mp (mem_generateRoutes_iff.mpr hroute) with
      ⟨fee, -, rfl⟩ | ⟨via, -, -, -, fee1, hfee1, fee2, -, rfl⟩
    · simp [Data.normalize]
    · simp [Data.normalize]

theorem length_path (h : data.path = .ok path) : path.length = 20 + 23 * data.hops.length := by
  have hbytes := (Data.path_eq_ok.mp h).2
  have hhops : ∀ hops : List Hop, (hops.flatMap hopBytes).length = 23 * hops.length := by
    intro hops
    induction hops with
    | nil => rfl
    | cons hop hops ih =>
      rw [List.flatMap_cons, List.length_append, length_hopBytes, ih, List.length_cons]
      omega
  rw [hbytes, List.length_append, Abi.length_beBytes, hhops]

/-- The data of a quote are executed over the route that was quoted. -/
theorem executes_normalize (h : quoter.Candidate cache node tokenIn tokenOut route)
    (hfees : route.FeesFit) (recipient : Address) (amountIn amountOutMin : U256) :
    quoter.Executes (route.normalize tokenIn tokenOut) route recipient amountIn amountOutMin := by
  obtain ⟨hexchanged, hhops, hle⟩ := exchanged_normalize h
  obtain ⟨path, hpath⟩ : ∃ path, route.path = .ok path := ⟨_, Data.path_eq_ok.mpr ⟨hfees, rfl⟩⟩
  have hlength : path.length < 2 ^ 256 := by
    rw [length_path hpath]
    omega
  have hexecutes := executes_of_path (hexchanged.symm ▸ hpath) hhops hlength recipient amountIn
    amountOutMin
  rwa [hexchanged] at hexecutes

end Quoter

/-! ## Quotes and their execution -/

/-- The routes of a quoter are exact, and its quotes are about the swaps that are executed. -/
structure Quoter.QuotesExecuted (quoter : Quoter) (node : Node) : Prop where
  /-- Every route with one or two hops over pools is generated once. -/
  routes : ∀ tokenIn tokenOut pools, (quoter.generateRoutes tokenIn tokenOut pools).Nodup ∧
    ∀ data, data ∈ quoter.generateRoutes tokenIn tokenOut pools ↔
      quoter.IsRoute pools tokenIn tokenOut data
  /-- Reversing twice changes nothing, and once gives the same hops in the opposite order. -/
  reverse : ∀ data : Data, data.reverse.reverse = data ∧
    data.reverse.tokens = data.tokens.reverse ∧ data.reverse.fees = data.fees.reverse
  /-- The hops can be read from a path. -/
  path : ∀ (data : Data) bytes, data.path = .ok bytes → decodePath bytes = some data
  /-- A quote for an input is the price of the path of a route that is executed. -/
  input : ∀ cache tokenIn tokenOut amountIn amountOut data,
    quoter.quoteInput cache node tokenIn tokenOut amountIn = .ok (amountOut, data) →
      ∃ route bytes, quoter.Candidate cache node tokenIn tokenOut route ∧
        route.path = .ok bytes ∧ Priced node.quoteExactInput bytes amountIn amountOut ∧
        ∀ recipient, quoter.Executes data route recipient amountIn amountOut
  /-- A quote for an output is the price of the reversed path of a route that is executed. -/
  output : ∀ cache tokenIn tokenOut amountOut amountIn data,
    quoter.quoteOutput cache node tokenIn tokenOut amountOut = .ok (amountIn, data) →
      ∃ route bytes, quoter.Candidate cache node tokenIn tokenOut route ∧
        route.reverse.path = .ok bytes ∧ Priced node.quoteExactOutput bytes amountOut amountIn ∧
        ∀ recipient, quoter.Executes data route recipient amountIn amountOut

theorem Data.feesFit_reverse {data : Data} (h : data.reverse.FeesFit) : data.FeesFit := by
  intro hop hhop
  have hmem : hop.fee ∈ data.reverse.fees := by
    rw [data.reverse_parts.2, List.mem_reverse]
    exact List.mem_map_of_mem hhop
  obtain ⟨other, hother, heq⟩ := List.mem_map.mp hmem
  exact heq ▸ h other hother

theorem quotes_executed (quoter : Quoter) (node : Node) : quoter.QuotesExecuted node where
  routes _ _ _ := ⟨Quoter.nodup_generateRoutes, fun _ => Quoter.mem_generateRoutes_iff⟩
  reverse data := ⟨data.reverse_reverse, data.reverse_parts⟩
  path _ _ := decodePath_path
  input cache tokenIn tokenOut amountIn amountOut data h := by
    obtain ⟨route, bytes, hcandidate, hbytes, hpriced, rfl⟩ :=
      Quoter.quote_spec (fun _ _ => mem_of_maxByAmount) h
    have hfees := (Data.path_eq_ok.mp hbytes).1
    exact ⟨route, bytes, hcandidate, hbytes, hpriced,
      fun recipient => Quoter.executes_normalize hcandidate hfees recipient amountIn amountOut⟩
  output cache tokenIn tokenOut amountOut amountIn data h := by
    obtain ⟨route, bytes, hcandidate, hbytes, hpriced, rfl⟩ :=
      Quoter.quote_spec (fun _ _ => mem_of_minByAmount) h
    have hfees := Data.feesFit_reverse (Data.path_eq_ok.mp hbytes).1
    exact ⟨route, bytes, hcandidate, hbytes, hpriced,
      fun recipient => Quoter.executes_normalize hcandidate hfees recipient amountIn amountOut⟩

/-- A factory with two pools, and a quoter for which every route is at one to two. -/
def twoPoolNode : Node where
  getPool calls := .ok (calls.map fun call =>
    if (normalized call.1, call.2) ∈ [((1, 2), 500), ((2, 5), 3000)] then some 9 else some 0)
  quoteExactInput paths amountIn := .ok (paths.map fun _ => some (2 * amountIn))
  quoteExactOutput paths amountOut := .ok (paths.map fun _ => some (amountOut / 2))
  getPool_no_zero := by
    intro calls pools h call pool hmem hpool
    obtain rfl := Except.ok.inj h
    rw [List.zip_map_right, List.mem_map] at hmem
    obtain ⟨⟨first, second⟩, hzip, heq⟩ := hmem
    obtain ⟨rfl, hanswer⟩ := Prod.mk.inj heq
    have hsame : first = second := by
      obtain ⟨i, hi⟩ := List.mem_iff_getElem?.mp hzip
      rw [List.getElem?_zip_eq_some] at hi
      exact Option.some.inj (hi.1.symm.trans hi.2)
    subst hsame
    simp only [id] at hanswer ⊢
    split at hanswer
    · rename_i hcall
      have hpair : normalized first.1 = (1, 2) ∨ normalized first.1 = (2, 5) := by
        rcases List.mem_pair.mp hcall with heq | heq
        · exact .inl (Prod.mk.inj heq).1
        · exact .inr (Prod.mk.inj heq).1
      rcases normalized_cases first.1 with hsame | hswap
      · rw [hsame] at hpair
        rcases hpair with heq | heq <;> rw [heq] <;> decide
      · rw [hswap] at hpair
        rcases hpair with heq | heq <;> obtain ⟨hsnd, hfst⟩ := Prod.mk.inj heq <;>
          rw [hsnd, hfst] <;> decide
    · exact absurd (Option.some.inj hanswer).symm hpool

def exampleQuoter : Quoter := ⟨1, 3, [2], by decide⟩

def emptyCache : PoolCache := ⟨fun _ => none, by simp, by simp⟩

/-- The native token is exchanged for another token over a liquid one. -/
theorem quotes_executed_two_hops :
    exampleQuoter.quoteOutput (.ok emptyCache) twoPoolNode 0 5 10 =
        .ok (5, ⟨0, [⟨500, 2⟩, ⟨3000, 5⟩]⟩) ∧
      ∃ route bytes, exampleQuoter.Candidate (.ok emptyCache) twoPoolNode 0 5 route ∧
        route.reverse.path = .ok bytes ∧ Priced twoPoolNode.quoteExactOutput bytes 10 5 ∧
        ∀ recipient,
          exampleQuoter.Executes ⟨0, [⟨500, 2⟩, ⟨3000, 5⟩]⟩ route recipient 5 10 := by
  have hquote : exampleQuoter.quoteOutput (.ok emptyCache) twoPoolNode 0 5 10 =
      .ok (5, ⟨0, [⟨500, 2⟩, ⟨3000, 5⟩]⟩) := by
    decide +kernel
  exact ⟨hquote, (quotes_executed exampleQuoter twoPoolNode).output _ _ _ _ _ _ hquote⟩

end Boltz.UniswapV3
