import Boltz.Service.RouteTimeouts
import Mathlib.Tactic.Linarith

/-!
# Invoices that can be routed

`noRoutes` is also the start of the maximum over the routes, and for LND the current height is
subtracted from it as well. What the timeout of a Taproot swap is made of does not depend on the
routes.
-/

namespace Boltz.RouteTimeouts

/-- In blocks from now. -/
def relativeCltvs (client : LightningClient) : Answer → List ℤ
  | .final cltv => [(cltv : ℤ)]
  | .routes blocks cltvs =>
    cltvs.map fun (cltv : ℕ) => if client.type = .lnd then (cltv : ℤ) - blocks else cltv

def IsHighest (cltvs : List ℤ) (highest : ℤ) : Prop :=
  highest ∈ cltvs ∧ ∀ cltv ∈ cltvs, cltv ≤ highest

/-! ## The maximum over the routes -/

section highest

theorem foldl_highest (cltvs : List ℕ) (init : ℤ) :
    cltvs.foldl (fun (highest : ℤ) (cltv : ℕ) => if highest > cltv then highest else cltv) init =
      cltvs.foldl (fun (highest : ℤ) (cltv : ℕ) => max highest (cltv : ℤ)) init := by
  congr 1
  funext highest cltv
  by_cases h : highest > cltv
  · rw [if_pos h, max_eq_left h.le]
  · rw [if_neg h, max_eq_right (not_lt.mp h)]

theorem foldl_max_mem (cltvs : List ℕ) (init : ℤ) :
    IsHighest (init :: cltvs.map Nat.cast)
      (cltvs.foldl (fun (highest : ℤ) (cltv : ℕ) => max highest (cltv : ℤ)) init) := by
  induction cltvs generalizing init with
  | nil => exact ⟨List.mem_cons_self, fun cltv h => by rw [List.mem_singleton.mp h]; rfl⟩
  | cons cltv cltvs ih =>
    obtain ⟨hmem, hle⟩ := ih (max init cltv)
    have hinit := hle _ List.mem_cons_self
    simp only [List.map_cons, List.foldl_cons]
    constructor
    · rcases List.mem_cons.mp hmem with h | h
      · rw [h]
        rcases max_choice init (cltv : ℤ) with hmax | hmax <;> simp [hmax]
      · simp [h]
    · intro other hother
      rcases List.mem_cons.mp hother with rfl | hother
      · exact (le_max_left _ _).trans hinit
      rcases List.mem_cons.mp hother with rfl | hother
      · exact (le_max_right _ _).trans hinit
      · exact hle other (List.mem_cons_of_mem _ hother)

theorem highestCltv_isHighest {cltvs : List ℕ} (hne : cltvs ≠ []) :
    IsHighest (cltvs.map Nat.cast) (highestCltv cltvs) := by
  unfold highestCltv
  rw [foldl_highest]
  obtain ⟨hmem, hle⟩ := foldl_max_mem cltvs noRoutes
  refine ⟨?_, fun cltv h => hle cltv (List.mem_cons_of_mem _ h)⟩
  rcases List.mem_cons.mp hmem with h | h
  · obtain ⟨first, rest, rfl⟩ := List.exists_cons_of_ne_nil hne
    have hfirst := hle first (List.mem_cons_of_mem _ List.mem_cons_self)
    rw [h] at hfirst
    simp only [noRoutes] at hfirst
    omega
  · exact h

theorem IsHighest.unique {cltvs : List ℤ} {a b : ℤ} (ha : IsHighest cltvs a)
    (hb : IsHighest cltvs b) : a = b :=
  le_antisymm (hb.2 a ha.1) (ha.2 b hb.1)

end highest

/-! ## `checkRoutability` -/

section routability

variable {sources : Sources} {client : LightningClient} {decoded : DecodedInvoice} {cltvLimit : ℚ}

/-- Nothing but a failure or an empty list is reported as `noRoutes`, and all else with the highest
CLTV. -/
structure ReportsRoutes (sources : Sources) (client : LightningClient) (decoded : DecodedInvoice)
    (cltvLimit : ℚ) : Prop where
  noRoutes_iff : checkRoutability sources client decoded cltvLimit = noRoutes ↔
    ∀ known, answer sources client decoded cltvLimit = some known →
      relativeCltvs client known = []
  highest : ∀ known, answer sources client decoded cltvLimit = some known →
    relativeCltvs client known ≠ [] →
      IsHighest (relativeCltvs client known) (checkRoutability sources client decoded cltvLimit)

/-- The sentinel of LND is met exactly when there are no routes: no block has been found yet, or
the highest route does not end with the block before the next one. -/
def SentinelApart (client : LightningClient) : Answer → Prop
  | .final _ => True
  | .routes blocks cltvs => client.type = .lnd →
      (cltvs = [] → blocks = 0) ∧
        ∀ highest ∈ cltvs, (∀ cltv ∈ cltvs, cltv ≤ highest) → highest + 1 ≠ blocks

theorem checkRoutability_of_answer {known : Answer}
    (h : answer sources client decoded cltvLimit = some known) :
    checkRoutability sources client decoded cltvLimit = cltvOfAnswer client known := by
  unfold checkRoutability
  rw [h]

theorem cltvOfAnswer_isHighest {known : Answer} (hne : relativeCltvs client known ≠ []) :
    IsHighest (relativeCltvs client known) (cltvOfAnswer client known) := by
  cases known with
  | final cltv =>
    exact ⟨List.mem_singleton_self _, fun other h => (List.mem_singleton.mp h).le⟩
  | routes blocks cltvs =>
    have hcltvs : cltvs ≠ [] := fun h => hne (by rw [h]; rfl)
    obtain ⟨hmem, hle⟩ := highestCltv_isHighest hcltvs
    simp only [relativeCltvs, cltvOfAnswer]
    by_cases hlnd : client.type = .lnd
    · simp only [if_pos hlnd]
      obtain ⟨highest, hhighest, heq⟩ := List.mem_map.mp hmem
      refine ⟨List.mem_map.mpr ⟨highest, hhighest, by rw [heq]⟩, ?_⟩
      intro other hother
      obtain ⟨cltv, hcltv, rfl⟩ := List.mem_map.mp hother
      exact sub_le_sub_right (hle cltv (List.mem_map.mpr ⟨cltv, hcltv, rfl⟩)) _
    · simp only [if_neg hlnd]
      exact ⟨hmem, hle⟩

theorem cltvOfAnswer_eq_noRoutes_iff {known : Answer} (hapart : SentinelApart client known) :
    cltvOfAnswer client known = noRoutes ↔ relativeCltvs client known = [] := by
  cases known with
  | final cltv =>
    simp only [cltvOfAnswer, relativeCltvs, noRoutes, List.cons_ne_nil, iff_false]
    omega
  | routes blocks cltvs =>
    by_cases hcltvs : cltvs = []
    · subst hcltvs
      simp only [relativeCltvs, List.map_nil, iff_true, cltvOfAnswer]
      split
      · rename_i hlnd
        rw [(hapart hlnd).1 rfl]
        rfl
      · rfl
    · have hne : relativeCltvs client (.routes blocks cltvs) ≠ [] := by
        simpa [relativeCltvs] using hcltvs
      simp only [hne, iff_false]
      obtain ⟨hmem, hle⟩ := highestCltv_isHighest hcltvs
      obtain ⟨highest, hhighest, heq⟩ := List.mem_map.mp hmem
      simp only [cltvOfAnswer, noRoutes, ← heq]
      split
      · rename_i hlnd
        have hlast := (hapart hlnd).2 highest hhighest fun cltv hcltv => by
          have := hle cltv (List.mem_map.mpr ⟨cltv, hcltv, rfl⟩)
          rw [← heq] at this
          exact Nat.cast_le.mp this
        omega
      · omega

theorem reportsRoutes_iff : ReportsRoutes sources client decoded cltvLimit ↔
    ∀ known, answer sources client decoded cltvLimit = some known → SentinelApart client known := by
  constructor
  · rintro ⟨hnone, -⟩ known hanswer
    rw [checkRoutability_of_answer hanswer] at hnone
    have hempty : cltvOfAnswer client known = noRoutes ↔ relativeCltvs client known = [] := by
      rw [hnone]
      constructor
      · intro h
        exact h known hanswer
      · rintro h other hother
        obtain rfl := Option.some.inj (hanswer.symm.trans hother)
        exact h
    cases known with
    | final cltv => exact trivial
    | routes blocks cltvs =>
      intro hlnd
      simp only [cltvOfAnswer, if_pos hlnd, relativeCltvs, List.map_eq_nil_iff] at hempty
      constructor
      · intro hcltvs
        have heq := hempty.mpr hcltvs
        rw [hcltvs] at heq
        simp only [highestCltv, List.foldl_nil, noRoutes] at heq
        omega
      · intro highest hhighest hle hlast
        have hne := List.ne_nil_of_mem hhighest
        have heq : (highest : ℤ) = highestCltv cltvs := by
          refine IsHighest.unique ⟨List.mem_map.mpr ⟨highest, hhighest, rfl⟩, ?_⟩
            (highestCltv_isHighest hne)
          intro other hother
          obtain ⟨cltv, hcltv, rfl⟩ := List.mem_map.mp hother
          exact Nat.cast_le.mpr (hle cltv hcltv)
        refine hne (hempty.mp ?_)
        rw [← heq]
        simp only [noRoutes]
        omega
  · intro hapart
    cases hanswer : answer sources client decoded cltvLimit with
    | none =>
      exact ⟨by simp [checkRoutability, hanswer], fun known h => by rw [hanswer] at h; cases h⟩
    | some known =>
      have hempty := cltvOfAnswer_eq_noRoutes_iff (hapart known hanswer)
      constructor
      · rw [checkRoutability_of_answer hanswer, hempty, hanswer]
        simp
      · intro other hother hne
        rw [hanswer] at hother
        obtain rfl := Option.some.inj hother
        rw [checkRoutability_of_answer hanswer]
        exact cltvOfAnswer_isHighest hne

end routability

/-! ## The routing offset -/

section offset

variable {offsets : OffsetConfig} {pair : PairId}

/-- Without exceptions the offset is a number between the bounds. -/
def OffsetsBounded (offsets : OffsetConfig) (pair : PairId) : Prop :=
  ∀ amount lightningCurrency destinations,
    offsets.exceptions lightningCurrency destinations = [] →
      ∃ offset, offsets.getOffset pair amount lightningCurrency destinations = some offset ∧
        minOffset ≤ offset ∧ offset ≤ maxOffset

theorem calculateOffset_bounds (amount : ℕ)
    (hlimits : ∀ limits, offsets.limits pair = some limits →
      limits.minSwapAmount ≠ limits.maxSwapAmount) :
    ∃ offset, offsets.calculateOffset pair amount = some offset ∧
      minOffset ≤ offset ∧ offset ≤ maxOffset := by
  unfold OffsetConfig.calculateOffset
  cases hpair : offsets.limits pair with
  | none => exact ⟨maxOffset, rfl, by decide, le_rfl⟩
  | some limits =>
    simp only [OffsetConfig.linearOffset, if_neg (hlimits limits hpair), Option.map_some]
    refine ⟨_, rfl, le_max_right _ _, ?_⟩
    exact max_le (min_le_right _ _) (by decide)

theorem offsetsBounded_iff : OffsetsBounded offsets pair ↔
    ∀ limits, offsets.limits pair = some limits →
      limits.minSwapAmount ≠ limits.maxSwapAmount := by
  constructor
  · intro hbounded limits hpair hequal
    obtain ⟨offset, hoffset, -⟩ := hbounded 0 "" [] rfl
    have hnan : offsets.getOffset pair 0 "" [] = none := by
      unfold OffsetConfig.getOffset OffsetConfig.calculateOffset OffsetConfig.linearOffset
      simp [OffsetConfig.exceptions, hpair, hequal]
    rw [hnan] at hoffset
    cases hoffset
  · intro hlimits amount lightningCurrency destinations hexceptions
    obtain ⟨offset, hoffset, hmin, hmax⟩ := calculateOffset_bounds amount hlimits
    unfold OffsetConfig.getOffset
    rw [hexceptions]
    refine ⟨offset, ?_, by exact_mod_cast hmin, by exact_mod_cast hmax⟩
    simp only [hoffset, Option.map_some]

theorem getOffset_ne_none
    (hlimits : ∀ limits, offsets.limits pair = some limits →
      limits.minSwapAmount ≠ limits.maxSwapAmount) (amount : ℕ) (lightningCurrency : String)
    (destinations : List String) :
    ∃ offset, offsets.getOffset pair amount lightningCurrency destinations = some offset := by
  cases hexceptions : offsets.exceptions lightningCurrency destinations with
  | nil =>
    obtain ⟨offset, hoffset, -⟩ :=
      offsetsBounded_iff.mpr hlimits amount lightningCurrency destinations hexceptions
    exact ⟨offset, hoffset⟩
  | cons first rest =>
    unfold OffsetConfig.getOffset
    rw [hexceptions]
    exact ⟨_, rfl⟩

end offset

/-! ## `getTimeoutInvoice` -/

section timeouts

variable (times : BlockTimes) (offsets : OffsetConfig) (sources : Sources) (p : PairTimeouts)
  (client : LightningClient) (decoded : DecodedInvoice) (invoice : String)

/-- The blocks last as long as the highest CLTV, and of a legacy swap as long as the offset too and
within the limits of the pair. -/
def Sufficient (cltv : Option ℚ) : Prop :=
  ∃ blocks known highest chainTime lightningTime, cltv = some blocks ∧
    answer sources client decoded (lightningCltv p) = some known ∧
    IsHighest (relativeCltvs client known) highest ∧
    times p.chainCurrency = some chainTime ∧ times p.lightningCurrency = some lightningTime ∧
    match p.version with
    | .taproot => highest * lightningTime ≤ blocks * chainTime
    | .legacy =>
      p.chainTimeout.swapMinimal ≤ blocks ∧ blocks ≤ p.chainTimeout.swapMaximal ∧
        ∃ found offset, destinations decoded = some found ∧
          routingOffset offsets p decoded found = some offset ∧
          highest * lightningTime + offset ≤ blocks * chainTime

/-- Of one invoice, with the node that is chosen for it. -/
structure RoutedInTime : Prop where
  reports : ∀ cltvLimit, ReportsRoutes sources client decoded cltvLimit
  sufficient : ∀ cltv, getTimeoutInvoice times offsets sources p invoice = .ok (cltv, true) →
    Sufficient times offsets sources p client decoded cltv
  offsets : OffsetsBounded offsets p.pair

/-- No CLTV to the destination is above the one of the pair with the end of a chain block between
the two. -/
def TaprootFits : Prop :=
  ∀ known, answer sources client decoded (lightningCltv p) = some known →
    ∀ chainTime lightningTime, times p.chainCurrency = some chainTime →
      times p.lightningCurrency = some lightningTime →
        ∀ cltv ∈ relativeCltvs client known, cltv ≤ p.lightningTimeout.swapTaproot ∨
          ∀ blocks : ℤ, ¬(p.lightningTimeout.swapTaproot * lightningTime ≤ blocks * chainTime ∧
            blocks * chainTime < cltv * lightningTime)

/-- The limits of the pair are in order, unless no chain block within the maximum ends after the
highest CLTV, in whole minutes, and the offset. -/
def LimitsOrdered : Prop :=
  p.chainTimeout.swapMinimal ≤ p.chainTimeout.swapMaximal ∨
    ∀ known, answer sources client decoded (lightningCltv p) = some known →
      ∀ chainTime lightningTime, times p.chainCurrency = some chainTime →
        times p.lightningCurrency = some lightningTime →
          ∀ highest, IsHighest (relativeCltvs client known) highest →
            ∀ found, destinations decoded = some found →
              ∀ offset, routingOffset offsets p decoded found = some offset →
                ∀ blocks : ℤ, blocks ≤ p.chainTimeout.swapMaximal →
                  blocks * chainTime < ⌈highest * lightningTime⌉ + offset

structure InTimeWhen : Prop where
  sentinel : ∀ cltvLimit known, answer sources client decoded cltvLimit = some known →
    SentinelApart client known
  taproot : p.version = .taproot → TaprootFits times sources p client decoded
  legacy : p.version = .legacy → LimitsOrdered times offsets sources p client decoded
  limits : ∀ limits, offsets.limits p.pair = some limits →
    limits.minSwapAmount ≠ limits.maxSwapAmount

variable {times offsets sources p client decoded invoice}

/-- What is left of the function for a destination that is reported as routable. -/
theorem getTimeoutInvoice_of_routable
    (hdecoded : sources.decodeInvoiceOrOffer invoice = some decoded)
    (hclient : sources.getSwapNode decoded = some client)
    (hroutable : checkRoutability sources client decoded (lightningCltv p) ≠ noRoutes) :
    getTimeoutInvoice times offsets sources p invoice =
      match p.version with
      | .taproot =>
        .ok ((TimeoutDeltaProvider.convertBlocks times p.lightningCurrency p.chainCurrency
          (lightningCltv p)).map Int.cast, true)
      | .legacy => legacyTimeout times offsets p decoded
          (checkRoutability sources client decoded (lightningCltv p)) := by
  unfold getTimeoutInvoice
  rw [hdecoded]
  cases hversion : p.version with
  | legacy => simp only [hclient, if_neg hroutable]
  | taproot => simp only [hclient, if_neg hroutable]

theorem getTimeoutInvoice_unroutable
    (hdecoded : sources.decodeInvoiceOrOffer invoice = some decoded)
    (hclient : sources.getSwapNode decoded = some client)
    (hunroutable : checkRoutability sources client decoded (lightningCltv p) = noRoutes) :
    getTimeoutInvoice times offsets sources p invoice =
      .ok (some p.chainTimeout.swapMaximal, false) := by
  unfold getTimeoutInvoice
  rw [hdecoded]
  simp only [hclient, if_pos hunroutable]

/-- The route behind what is reported. -/
theorem ReportsRoutes.exists_highest
    (hreports : ReportsRoutes sources client decoded (lightningCltv p))
    (hroutable : checkRoutability sources client decoded (lightningCltv p) ≠ noRoutes) :
    ∃ known, answer sources client decoded (lightningCltv p) = some known ∧
      IsHighest (relativeCltvs client known)
        (checkRoutability sources client decoded (lightningCltv p)) := by
  rw [Ne, hreports.noRoutes_iff] at hroutable
  push Not at hroutable
  obtain ⟨known, hanswer, hne⟩ := hroutable
  exact ⟨known, hanswer, hreports.highest known hanswer hne⟩

theorem ReportsRoutes.routable {known : Answer}
    (hreports : ReportsRoutes sources client decoded (lightningCltv p))
    (hanswer : answer sources client decoded (lightningCltv p) = some known)
    (hne : relativeCltvs client known ≠ []) :
    checkRoutability sources client decoded (lightningCltv p) ≠ noRoutes :=
  fun h => hne (hreports.noRoutes_iff.mp h known hanswer)

theorem convertBlocks_eq {symbol other : String} {time otherTime : ℚ}
    (hsymbol : times symbol = some time) (hother : times other = some otherTime) (blocks : ℚ) :
    TimeoutDeltaProvider.convertBlocks times symbol other blocks =
      some ⌈blocks * time / otherTime⌉ := by
  unfold TimeoutDeltaProvider.convertBlocks
  rw [hsymbol, hother]

/-- What a legacy swap is answered with, for a destination that is reported as routable. -/
theorem legacyTimeout_eq {lightningTime chainTime offset : ℚ} {found : List String} {relative : ℤ}
    (hlightning : times p.lightningCurrency = some lightningTime)
    (hchain : times p.chainCurrency = some chainTime)
    (hfound : destinations decoded = some found)
    (hoffset : routingOffset offsets p decoded found = some offset) :
    legacyTimeout times offsets p decoded relative =
      if (⌈(⌈relative * lightningTime⌉ + offset) / chainTime⌉ : ℚ) > p.chainTimeout.swapMaximal
      then .error (.minExpiryTooBig ⌈p.chainTimeout.swapMaximal * chainTime⌉
        ⌈relative * lightningTime⌉ offset)
      else .ok (some (max p.chainTimeout.swapMinimal
        ⌈(⌈relative * lightningTime⌉ + offset) / chainTime⌉), true) := by
  unfold legacyTimeout routeDeltaMinutes
  rw [hfound, hlightning]
  simp only [hoffset, hchain, Option.map_some]

/-- Both block times are known, and the invoice gets to the choice of a node. -/
structure Asked (times : BlockTimes) (sources : Sources) (p : PairTimeouts)
    (client : LightningClient) (decoded : DecodedInvoice) (invoice : String)
    (chainTime lightningTime : ℚ) : Prop where
  chain : times p.chainCurrency = some chainTime
  lightning : times p.lightningCurrency = some lightningTime
  chain_pos : 0 < chainTime
  lightning_pos : 0 < lightningTime
  decodes : sources.decodeInvoiceOrOffer invoice = some decoded
  node : sources.getSwapNode decoded = some client

section asked

variable {chainTime lightningTime : ℚ}

theorem Asked.taproot_eq
    (hasked : Asked times sources p client decoded invoice chainTime lightningTime)
    (htaproot : p.version = .taproot)
    (hroutable : checkRoutability sources client decoded (lightningCltv p) ≠ noRoutes) :
    getTimeoutInvoice times offsets sources p invoice =
      .ok (some (⌈p.lightningTimeout.swapTaproot * lightningTime / chainTime⌉ : ℚ), true) := by
  rw [getTimeoutInvoice_of_routable hasked.decodes hasked.node hroutable, htaproot]
  simp only [convertBlocks_eq hasked.lightning hasked.chain, lightningCltv, htaproot,
    Option.map_some]

theorem Asked.legacy_eq
    (hasked : Asked times sources p client decoded invoice chainTime lightningTime)
    (hlegacy : p.version = .legacy)
    (hroutable : checkRoutability sources client decoded (lightningCltv p) ≠ noRoutes) :
    getTimeoutInvoice times offsets sources p invoice =
      legacyTimeout times offsets p decoded
        (checkRoutability sources client decoded (lightningCltv p)) := by
  rw [getTimeoutInvoice_of_routable hasked.decodes hasked.node hroutable, hlegacy]

/-- Chain blocks are enough exactly when they last as long. -/
theorem ceil_div_le_iff {minutes : ℚ} {blocks : ℤ} (hchain : 0 < chainTime) :
    ⌈minutes / chainTime⌉ ≤ blocks ↔ minutes ≤ blocks * chainTime := by
  rw [Int.ceil_le, div_le_iff₀ hchain]

theorem le_ceil_div_mul (minutes : ℚ) (hchain : 0 < chainTime) :
    minutes ≤ ⌈minutes / chainTime⌉ * chainTime :=
  (ceil_div_le_iff hchain).mp le_rfl

theorem RoutedInTime.taprootFits
    (hasked : Asked times sources p client decoded invoice chainTime lightningTime)
    (h : RoutedInTime times offsets sources p client decoded invoice)
    (htaproot : p.version = .taproot) : TaprootFits times sources p client decoded := by
  intro known hanswer chainTime' lightningTime' hchain hlightning cltv hcltv
  obtain rfl := Option.some.inj (hasked.chain.symm.trans hchain)
  obtain rfl := Option.some.inj (hasked.lightning.symm.trans hlightning)
  have hroutable := (h.reports _).routable hanswer (List.ne_nil_of_mem hcltv)
  obtain ⟨blocks, known', highest, chainTime', lightningTime', hblocks, hanswer', hhighest, hchain',
    hlightning', hlasts⟩ := h.sufficient _ (hasked.taproot_eq htaproot hroutable)
  obtain rfl := Option.some.inj (hanswer.symm.trans hanswer')
  obtain rfl := Option.some.inj (hchain.symm.trans hchain')
  obtain rfl := Option.some.inj (hlightning.symm.trans hlightning')
  obtain rfl := Option.some.inj hblocks
  rw [htaproot] at hlasts
  refine .inr fun other hother => ?_
  have hle : (cltv : ℚ) * lightningTime ≤ highest * lightningTime :=
    mul_le_mul_of_nonneg_right (Int.cast_le.mpr (hhighest.2 cltv hcltv)) hasked.lightning_pos.le
  have hceil := (ceil_div_le_iff hasked.chain_pos).mpr hother.1
  have hmul := mul_le_mul_of_nonneg_right (Int.cast_le (R := ℚ).mpr hceil) hasked.chain_pos.le
  exact absurd hother.2 (not_lt.mpr (hle.trans (hlasts.trans hmul)))

theorem RoutedInTime.limitsOrdered
    (hasked : Asked times sources p client decoded invoice chainTime lightningTime)
    (h : RoutedInTime times offsets sources p client decoded invoice)
    (hlegacy : p.version = .legacy) : LimitsOrdered times offsets sources p client decoded := by
  by_cases hordered : p.chainTimeout.swapMinimal ≤ p.chainTimeout.swapMaximal
  · exact .inl hordered
  refine .inr fun known hanswer chainTime' lightningTime' hchain hlightning highest hhighest found
    hfound offset hoffset blocks hblocks => ?_
  obtain rfl := Option.some.inj (hasked.chain.symm.trans hchain)
  obtain rfl := Option.some.inj (hasked.lightning.symm.trans hlightning)
  have hne := List.ne_nil_of_mem hhighest.1
  have hroutable := (h.reports _).routable hanswer hne
  obtain rfl := hhighest.unique ((h.reports _).highest known hanswer hne)
  by_contra hlong
  rw [not_lt, ← ceil_div_le_iff hasked.chain_pos] at hlong
  have hfits : ¬(⌈(⌈_ * lightningTime⌉ + offset) / chainTime⌉ : ℚ) > p.chainTimeout.swapMaximal :=
    not_lt.mpr ((Int.cast_le.mpr hlong).trans hblocks)
  have hreturned : getTimeoutInvoice times offsets sources p invoice = _ :=
    hasked.legacy_eq hlegacy hroutable
  rw [legacyTimeout_eq hasked.lightning hasked.chain hfound hoffset, if_neg hfits] at hreturned
  obtain ⟨blocks, _, _, _, _, -, -, -, -, -, hlimits⟩ := h.sufficient _ hreturned
  rw [hlegacy] at hlimits
  exact hordered (hlimits.1.trans hlimits.2.1)

theorem InTimeWhen.sufficient_taproot
    (hasked : Asked times sources p client decoded invoice chainTime lightningTime)
    (h : InTimeWhen times offsets sources p client decoded) (htaproot : p.version = .taproot)
    (hroutable : checkRoutability sources client decoded (lightningCltv p) ≠ noRoutes) :
    Sufficient times offsets sources p client decoded
      (some (⌈p.lightningTimeout.swapTaproot * lightningTime / chainTime⌉ : ℚ)) := by
  have hreports := reportsRoutes_iff.mpr (h.sentinel (lightningCltv p))
  obtain ⟨known, hanswer, hhighest⟩ := hreports.exists_highest hroutable
  refine ⟨_, known, _, chainTime, lightningTime, rfl, hanswer, hhighest, hasked.chain,
    hasked.lightning, ?_⟩
  rw [htaproot]
  have hlimit := le_ceil_div_mul (p.lightningTimeout.swapTaproot * lightningTime) hasked.chain_pos
  rcases h.taproot htaproot known hanswer _ _ hasked.chain hasked.lightning _ hhighest.1 with
    hle | hnone
  · exact (mul_le_mul_of_nonneg_right hle hasked.lightning_pos.le).trans hlimit
  · exact not_lt.mp fun hlt => hnone _ ⟨hlimit, hlt⟩

theorem InTimeWhen.sufficient_legacy
    (hasked : Asked times sources p client decoded invoice chainTime lightningTime)
    (h : InTimeWhen times offsets sources p client decoded) (hlegacy : p.version = .legacy)
    (hroutable : checkRoutability sources client decoded (lightningCltv p) ≠ noRoutes)
    {cltv : Option ℚ}
    (hreturned : legacyTimeout times offsets p decoded
      (checkRoutability sources client decoded (lightningCltv p)) = .ok (cltv, true)) :
    Sufficient times offsets sources p client decoded cltv := by
  have hreports := reportsRoutes_iff.mpr (h.sentinel (lightningCltv p))
  obtain ⟨known, hanswer, hhighest⟩ := hreports.exists_highest hroutable
  cases hfound : destinations decoded with
  | none =>
    rw [legacyTimeout, hfound] at hreturned
    cases hreturned
  | some found =>
    obtain ⟨offset, hoffset⟩ := getOffset_ne_none h.limits (msatToSat decoded.amountMsat)
      p.lightningCurrency found
    rw [legacyTimeout_eq hasked.lightning hasked.chain hfound hoffset] at hreturned
    split at hreturned
    · cases hreturned
    rename_i hfits
    rw [not_lt] at hfits
    cases hreturned
    refine ⟨_, known, _, chainTime, lightningTime, rfl, hanswer, hhighest, hasked.chain,
      hasked.lightning, ?_⟩
    rw [hlegacy]
    have hordered : p.chainTimeout.swapMinimal ≤ p.chainTimeout.swapMaximal := by
      rcases h.legacy hlegacy with hordered | htoo
      · exact hordered
      · have hlong := htoo known hanswer _ _ hasked.chain hasked.lightning _ hhighest found hfound
          offset hoffset _ hfits
        exact absurd hlong (not_lt.mpr (le_ceil_div_mul _ hasked.chain_pos))
    refine ⟨le_max_left _ _, max_le hordered hfits, found, offset, hfound, hoffset, ?_⟩
    generalize checkRoutability sources client decoded (lightningCltv p) = relative
    have hminutes := Int.le_ceil ((relative : ℚ) * lightningTime)
    have hlasts := le_ceil_div_mul ((⌈relative * lightningTime⌉ : ℚ) + offset) hasked.chain_pos
    have hmax := mul_le_mul_of_nonneg_right (le_max_right p.chainTimeout.swapMinimal
      (⌈((⌈relative * lightningTime⌉ : ℚ) + offset) / chainTime⌉ : ℚ)) hasked.chain_pos.le
    linarith

theorem routed_in_time_iff
    (hasked : Asked times sources p client decoded invoice chainTime lightningTime) :
    RoutedInTime times offsets sources p client decoded invoice ↔
      InTimeWhen times offsets sources p client decoded := by
  constructor
  · intro h
    exact ⟨fun cltvLimit => reportsRoutes_iff.mp (h.reports cltvLimit), h.taprootFits hasked,
      h.limitsOrdered hasked, offsetsBounded_iff.mp h.offsets⟩
  · intro h
    refine ⟨fun cltvLimit => reportsRoutes_iff.mpr (h.sentinel cltvLimit), ?_,
      offsetsBounded_iff.mpr h.limits⟩
    intro cltv hreturned
    by_cases hroutable : checkRoutability sources client decoded (lightningCltv p) = noRoutes
    · rw [getTimeoutInvoice_unroutable hasked.decodes hasked.node hroutable] at hreturned
      cases hreturned
    · cases hversion : p.version with
      | taproot =>
        rw [hasked.taproot_eq hversion hroutable] at hreturned
        cases hreturned
        exact h.sufficient_taproot hasked hversion hroutable
      | legacy =>
        rw [hasked.legacy_eq hversion hroutable] at hreturned
        exact h.sufficient_legacy hasked hversion hroutable hreturned

end asked

end timeouts

/-! ## A swap on Bitcoin with an LND node -/

def lndClient (routes : List LndRoute) : LightningClient := .lnd fun _ => some routes

def bolt11 : DecodedInvoice :=
  { paymentHash := some "f4fc9c57"
    payee := some "02d96eadea3d780104449aca5c93461ce67c1564e2e1d73225fa67dd3b997a6018"
    amountMsat := 100000000
    minFinalCltv := 80 }

def lndSources (routes : List LndRoute) : Sources where
  getReverseSwap := fun _ => some none
  decodeInvoiceOrOffer := fun _ => some bolt11
  getSwapNode := fun _ => some (lndClient routes)
  getBlockchainInfo := some 800000

def bitcoinDeltas : PairTimeoutBlocksDelta :=
  { chain := 144
    reverse := 144
    swapMinimal := 144
    swapMaximal := 288
    swapTaproot := 1008 }

def bitcoinTimeouts (version : SwapVersion) : PairTimeouts :=
  ⟨⟨"BTC", "BTC"⟩, "BTC", "BTC", bitcoinDeltas, bitcoinDeltas, version⟩

def bitcoinOffsets : OffsetConfig := { pairs := [⟨⟨"BTC", "BTC"⟩, 50000, 10000000⟩] }

theorem lnd_asked (routes : List LndRoute) (version : SwapVersion) :
    Asked blockTimes (lndSources routes) (bitcoinTimeouts version) (lndClient routes) bolt11 "lnbc1"
      10 10 :=
  ⟨rfl, rfl, by norm_num, by norm_num, rfl, rfl⟩

theorem lnd_answer (routes : List LndRoute) (cltvLimit : ℚ) :
    answer (lndSources routes) (lndClient routes) bolt11 cltvLimit =
      some (.routes 800000 (routes.map LndRoute.totalTimeLock)) := rfl

theorem lnd_route_in_time :
    RoutedInTime blockTimes bitcoinOffsets (lndSources [⟨800144, 0⟩]) (bitcoinTimeouts .legacy)
      (lndClient [⟨800144, 0⟩]) bolt11 "lnbc1" := by
  refine (routed_in_time_iff (lnd_asked [⟨800144, 0⟩] .legacy)).mpr ⟨?_, ?_, ?_, ?_⟩
  · intro cltvLimit known hanswer
    rw [lnd_answer] at hanswer
    obtain rfl := Option.some.inj hanswer
    intro _
    exact ⟨fun h => (nomatch h), by decide⟩
  · exact fun h => nomatch h
  · exact fun _ => .inl (by decide +kernel)
  · intro limits hlimits
    have hpair : bitcoinOffsets.limits (bitcoinTimeouts .legacy).pair =
        some ⟨⟨"BTC", "BTC"⟩, 50000, 10000000⟩ := by decide +kernel
    obtain rfl := Option.some.inj (hpair.symm.trans hlimits)
    decide

/-- LND answers with an empty list, and the swap gets the minimal timeout as one that can be
routed. -/
theorem lnd_no_route_routable :
    checkRoutability (lndSources []) (lndClient []) bolt11 288 = -800001 ∧
      getTimeoutInvoice blockTimes bitcoinOffsets (lndSources []) (bitcoinTimeouts .legacy)
        "lnbc1" = .ok (some 144, true) ∧
      ¬RoutedInTime blockTimes bitcoinOffsets (lndSources []) (bitcoinTimeouts .legacy)
        (lndClient []) bolt11 "lnbc1" := by
  refine ⟨by decide +kernel, by decide +kernel, fun h => ?_⟩
  have hsentinel := reportsRoutes_iff.mp (h.reports 288) _ (lnd_answer [] 288) rfl
  exact absurd (hsentinel.1 rfl) (by decide)

end Boltz.RouteTimeouts
