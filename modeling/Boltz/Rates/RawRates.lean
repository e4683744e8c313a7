import Boltz.Rates.RateProvider

/-!
# What the providers make of a raw rate

The raw rate of a pair is the one that was set last for its two currencies. From it follow the
entries of both directions, whatever else was updated before and afterwards.
-/

namespace Boltz

/-! ## Which entries a pair sets -/

@[simp] theorem fromAsset_eq (pair : PairId) (side : OrderSide) (type : SwapType) :
    fromAsset pair side type = getReceivingChain pair side := by
  cases type <;> simp [fromAsset]

@[simp] theorem toAsset_eq (pair : PairId) (side : OrderSide) (type : SwapType) :
    toAsset pair side type = getSendingChain pair side := by
  cases type <;> simp [toAsset]

/-- The pair is configured for the kind of swap, and the clients it needs are there. -/
def RateConfig.Offers (cfg : RateConfig) (pair : PairId) (side : OrderSide) (type : SwapType) :
    Prop :=
  type ∈ cfg.swapTypes pair ∧
    cfg.isPossibleCombination type (getReceivingChain pair side) (getSendingChain pair side) =
      true ∧
    (cfg.pairConfigs pair).isSome = true

instance (cfg : RateConfig) (pair : PairId) (side : OrderSide) (type : SwapType) :
    Decidable (cfg.Offers pair side type) := by
  unfold RateConfig.Offers
  infer_instance

theorem RateConfig.Offers.ne {cfg : RateConfig} {pair : PairId} {side : OrderSide}
    (h : cfg.Offers pair side .chain) : pair.base ≠ pair.quote := by
  obtain ⟨-, h, -⟩ := h
  simp only [RateConfig.isPossibleCombination, Bool.and_eq_true, bne_iff_ne] at h
  cases side
  · exact fun he => h.1.1 he.symm
  · exact h.1.1

/-- Which of the two sides writes the entry last: with one currency they share it. -/
def PairId.lastSide (pair : PairId) (side : OrderSide) : OrderSide :=
  if pair.base = pair.quote then .sell else side

namespace RateProviderTaproot

def rateAt (p : RateProviderTaproot) (type : SwapType) (f g : String) : Option ℚ :=
  (p.pairs type f g).map (·.rate)

section

variable {cfg : RateConfig} {pair : PairId} {p : RateProviderTaproot}

theorem setPair_of_not_offers {side : OrderSide} {type : SwapType} {rate : Option ℚ}
    {minerFees : Option PairMinerFees} (h : ¬cfg.Offers pair side type) :
    p.setPair cfg pair side type rate minerFees = p := by
  unfold setPair
  simp only [fromAsset_eq, toAsset_eq]
  split
  · rfl
  · rename_i htype
    split
    · rfl
    · rename_i hposs
      split
      · rename_i hconfig
        refine absurd ⟨not_not.mp htype, by simpa using hposs, ?_⟩ h
        rw [hconfig]
        rfl
      · rfl

theorem setPair_of_offers {side : OrderSide} {type : SwapType} {rate : Option ℚ}
    {minerFees : Option PairMinerFees} (h : cfg.Offers pair side type) (t : SwapType)
    (f g : String) :
    (p.setPair cfg pair side type rate minerFees).rateAt t f g =
      if t = type ∧ f = getReceivingChain pair side ∧ g = getSendingChain pair side then
        rate.or (p.rateAt t f g)
      else p.rateAt t f g := by
  obtain ⟨htype, hposs, hconfig⟩ := h
  obtain ⟨config, hconfig⟩ := Option.isSome_iff_exists.mp hconfig
  unfold setPair
  simp only [fromAsset_eq, toAsset_eq, htype, hposs, hconfig, not_true_eq_false, if_false,
    Bool.not_true, Bool.false_eq_true]
  by_cases hkey : t = type ∧ f = getReceivingChain pair side ∧ g = getSendingChain pair side
  · obtain ⟨rfl, rfl, rfl⟩ := hkey
    cases hrate : rate.or ((p.pairs t (getReceivingChain pair side)
        (getSendingChain pair side)).map (·.rate)) with
    | none =>
      obtain ⟨rfl, hold⟩ := Option.or_eq_none_iff.mp hrate
      simp
    | some new => simpa [rateAt, set] using hrate.symm
  · rw [if_neg hkey]
    split
    · rename_i hrate
      cases hrate
      simp only [rateAt, set, hkey, if_false]
    · rfl

theorem rateAt_setPair (side : OrderSide) (type : SwapType) (rate : Option ℚ)
    (minerFees : Option PairMinerFees) (t : SwapType) (f g : String) :
    (p.setPair cfg pair side type rate minerFees).rateAt t f g =
      if t = type ∧ f = getReceivingChain pair side ∧ g = getSendingChain pair side ∧
          cfg.Offers pair side type then
        rate.or (p.rateAt t f g)
      else p.rateAt t f g := by
  by_cases h : cfg.Offers pair side type
  · rw [setPair_of_offers h]
    simp [h]
  · rw [setPair_of_not_offers h]
    simp [h]

/-- What a round of the loops leaves in an entry: the side that sells writes last. -/
theorem rateAt_setPairs (rates : OrderSide → SwapType → Option ℚ)
    (minerFees : SwapType → Option PairMinerFees) (t : SwapType) (f g : String) :
    (p.setPairs cfg pair rates minerFees).rateAt t f g =
      if f = pair.base ∧ g = pair.quote ∧ cfg.Offers pair .sell t then
        (rates .sell t).or
          (if f = pair.quote ∧ g = pair.base ∧ cfg.Offers pair .buy t then
            (rates .buy t).or (p.rateAt t f g)
          else p.rateAt t f g)
      else if f = pair.quote ∧ g = pair.base ∧ cfg.Offers pair .buy t then
        (rates .buy t).or (p.rateAt t f g)
      else p.rateAt t f g := by
  cases t <;>
    simp [setPairs, rateAt_setPair, getReceivingChain, getSendingChain]

/-- What holds of every entry that is written holds of all. -/
theorem setPair_entries {P : PairTypeTaproot → Prop} {side : OrderSide}
    {type : SwapType} {rate : Option ℚ} {minerFees : Option PairMinerFees}
    (hnew : ∀ config, cfg.pairConfigs pair = some config → ∀ rate fees,
      P { rate := rate, limits := cfg.getLimits config pair side type rate, fees := fees })
    (hold : ∀ t f g entry, p.pairs t f g = some entry → P entry) :
    ∀ t f g entry, (p.setPair cfg pair side type rate minerFees).pairs t f g = some entry →
      P entry := by
  intro t f g entry h
  unfold setPair at h
  simp only at h
  split at h
  · exact hold t f g entry h
  split at h
  · exact hold t f g entry h
  split at h
  · rename_i hconfig
    simp only [set] at h
    split at h
    · cases h
      exact hnew _ hconfig _ _
    · exact hold t f g entry h
  · exact hold t f g entry h

theorem setPairs_entries {P : PairTypeTaproot → Prop}
    {rates : OrderSide → SwapType → Option ℚ} {minerFees : SwapType → Option PairMinerFees}
    (hnew : ∀ config, cfg.pairConfigs pair = some config → ∀ side type rate fees,
      P { rate := rate, limits := cfg.getLimits config pair side type rate, fees := fees })
    (hold : ∀ t f g entry, p.pairs t f g = some entry → P entry) :
    ∀ t f g entry, (p.setPairs cfg pair rates minerFees).pairs t f g = some entry → P entry := by
  simp only [setPairs, List.foldl_cons, List.foldl_nil]
  have hset : ∀ side type config, cfg.pairConfigs pair = some config → ∀ rate fees,
      P { rate := rate, limits := cfg.getLimits config pair side type rate, fees := fees } :=
    fun side type config hconfig => hnew config hconfig side type
  exact setPair_entries (hset _ _) <| setPair_entries (hset _ _) <| setPair_entries (hset _ _) <|
    setPair_entries (hset _ _) <| setPair_entries (hset _ _) <| setPair_entries (hset _ _) hold

/-- Updates of miner fees and limits keep the rates. -/
theorem rateAt_updateHardcodedPair (t : SwapType) (f g : String) :
    (p.updateHardcodedPair cfg pair).rateAt t f g = p.rateAt t f g := by
  unfold updateHardcodedPair
  rw [rateAt_setPairs]
  simp

end

end RateProviderTaproot

/-! ## The raw rate of a pair -/

/-- The two pairs trade the same two currencies. -/
def PairId.SameAssets (pair other : PairId) : Prop :=
  (other.base = pair.base ∧ other.quote = pair.quote) ∨
    (other.base = pair.quote ∧ other.quote = pair.base)

def RateUpdate.Sets (pair : PairId) : RateUpdate → Prop
  | .setRate _ other _ => pair.SameAssets other
  | .updateHardcodedPair _ => False

/-- The rate that was set last for the currencies of `pair` is `r`, for `pair` itself. -/
def RawRate (updates : List RateUpdate) (source : RateSource) (pair : PairId) (r : ℚ) : Prop :=
  ∃ before after, updates = before ++ .setRate source pair r :: after ∧
    ∀ u ∈ after, ¬u.Sets pair

def RateSource.rates : RateSource → ℚ → OrderSide → SwapType → ℚ
  | .hardcoded => RateProviderTaproot.hardcodedRates
  | .fetched => RateProviderTaproot.fetchedRates

namespace RateProvider

variable {cfg : RateConfig} {pair : PairId} {side : OrderSide} {type : SwapType}

theorem update_setRate_taproot (cfg : RateConfig) (rp : RateProvider) (source : RateSource)
    (other : PairId) (r : ℚ) (t : SwapType) (f g : String) :
    ∃ minerFees, (rp.update cfg (.setRate source other r)).taproot.rateAt t f g =
      (rp.taproot.setPairs cfg other (fun side type => some (source.rates r side type))
        minerFees).rateAt t f g := by
  cases source
  · exact ⟨fun type => some (RateProviderTaproot.noMinerFees type), rfl⟩
  · exact ⟨fun _ => none, rfl⟩

theorem rateAt_update_of_not_sets {u : RateUpdate} (h : ¬u.Sets pair) (rp : RateProvider) :
    (rp.update cfg u).taproot.rateAt type (getReceivingChain pair side)
        (getSendingChain pair side) =
      rp.taproot.rateAt type (getReceivingChain pair side) (getSendingChain pair side) := by
  cases u with
  | updateHardcodedPair other => exact RateProviderTaproot.rateAt_updateHardcodedPair ..
  | setRate source other r =>
    obtain ⟨minerFees, hupdate⟩ := update_setRate_taproot cfg rp source other r type
      (getReceivingChain pair side) (getSendingChain pair side)
    rw [hupdate, RateProviderTaproot.rateAt_setPairs]
    simp only [RateUpdate.Sets, PairId.SameAssets, not_or, not_and] at h
    have hsell : ¬(getReceivingChain pair side = other.base ∧
        getSendingChain pair side = other.quote ∧ cfg.Offers other .sell type) := by
      rintro ⟨h₁, h₂, -⟩
      cases side
      · exact h.2 h₁.symm h₂.symm
      · exact h.1 h₁.symm h₂.symm
    have hbuy : ¬(getReceivingChain pair side = other.quote ∧
        getSendingChain pair side = other.base ∧ cfg.Offers other .buy type) := by
      rintro ⟨h₁, h₂, -⟩
      cases side
      · exact h.1 h₂.symm h₁.symm
      · exact h.2 h₂.symm h₁.symm
    rw [if_neg hsell, if_neg hbuy]

theorem rateAt_run_of_not_sets {updates : List RateUpdate} (h : ∀ u ∈ updates, ¬u.Sets pair) :
    ∀ rp : RateProvider,
      (rp.run cfg updates).taproot.rateAt type (getReceivingChain pair side)
          (getSendingChain pair side) =
        rp.taproot.rateAt type (getReceivingChain pair side) (getSendingChain pair side) := by
  induction updates with
  | nil => exact fun _ => rfl
  | cons u updates ih =>
    intro rp
    have hu := h u (List.mem_cons_self ..)
    have hrest := ih (fun u hu => h u (List.mem_cons_of_mem _ hu)) (rp.update cfg u)
    exact hrest.trans (rateAt_update_of_not_sets hu rp)

theorem offers_sell_of_same {type : SwapType} (h : cfg.Offers pair side type)
    (hsame : pair.base = pair.quote) : cfg.Offers pair .sell type := by
  cases side with
  | sell => exact h
  | buy =>
    obtain ⟨htype, hposs, hconfig⟩ := h
    refine ⟨htype, ?_, hconfig⟩
    simpa [getReceivingChain, getSendingChain, hsame] using hposs

theorem rateAt_setRate (hoffers : cfg.Offers pair side type) (source : RateSource) (r : ℚ)
    (rp : RateProvider) :
    (rp.update cfg (.setRate source pair r)).taproot.rateAt type (getReceivingChain pair side)
        (getSendingChain pair side) =
      some (source.rates r (pair.lastSide side) type) := by
  obtain ⟨minerFees, hupdate⟩ := update_setRate_taproot cfg rp source pair r type
    (getReceivingChain pair side) (getSendingChain pair side)
  rw [hupdate, RateProviderTaproot.rateAt_setPairs]
  unfold PairId.lastSide
  by_cases hsame : pair.base = pair.quote
  · have hsell := offers_sell_of_same hoffers hsame
    rw [if_pos (by cases side <;> simp [getReceivingChain, getSendingChain, hsame, hsell]),
      if_pos hsame, Option.some_or]
  · rw [if_neg hsame]
    cases side with
    | sell =>
      rw [if_pos ⟨rfl, rfl, hoffers⟩, Option.some_or]
    | buy =>
      rw [if_neg (by rintro ⟨h, -⟩; exact hsame h.symm), if_pos ⟨rfl, rfl, hoffers⟩,
        Option.some_or]

/-- The entry of an offered direction, after any updates. -/
theorem rateAt_run {updates : List RateUpdate} {source : RateSource} {r : ℚ}
    (hraw : RawRate updates source pair r) (hoffers : cfg.Offers pair side type)
    (rp : RateProvider) :
    (rp.run cfg updates).taproot.rateAt type (getReceivingChain pair side)
        (getSendingChain pair side) =
      some (source.rates r (pair.lastSide side) type) := by
  obtain ⟨before, after, rfl, hafter⟩ := hraw
  simp only [run, List.foldl_append, List.foldl_cons]
  exact (rateAt_run_of_not_sets hafter _).trans (rateAt_setRate hoffers source r _)

/-- No update makes an entry whose clients are missing. -/
theorem rateAt_update_impossible {f g : String} (h : cfg.isPossibleCombination type f g = false)
    (u : RateUpdate) (rp : RateProvider) (hnone : rp.taproot.rateAt type f g = none) :
    (rp.update cfg u).taproot.rateAt type f g = none := by
  have hoff : ∀ other : PairId, ∀ s : OrderSide,
      f = getReceivingChain other s → g = getSendingChain other s →
        ¬cfg.Offers other s type := by
    rintro other s rfl rfl ⟨-, hposs, -⟩
    simp [h] at hposs
  have hset : ∀ other rates minerFees,
      (rp.taproot.setPairs cfg other rates minerFees).rateAt type f g = none := by
    intro other rates minerFees
    rw [RateProviderTaproot.rateAt_setPairs, if_neg, if_neg, hnone]
    · rintro ⟨hf, hg, hoffers⟩
      exact hoff other .buy hf hg hoffers
    · rintro ⟨hf, hg, hoffers⟩
      exact hoff other .sell hf hg hoffers
  cases u with
  | updateHardcodedPair other => exact hset other _ _
  | setRate source other r =>
    obtain ⟨minerFees, hupdate⟩ := update_setRate_taproot cfg rp source other r type f g
    rw [hupdate, hset]

theorem rateAt_run_impossible {f g : String} (h : cfg.isPossibleCombination type f g = false)
    (updates : List RateUpdate) :
    ∀ rp : RateProvider, rp.taproot.rateAt type f g = none →
      (rp.run cfg updates).taproot.rateAt type f g = none := by
  induction updates with
  | nil => exact fun _ hnone => hnone
  | cons u updates ih =>
    exact fun rp hnone => ih (rp.update cfg u) (rateAt_update_impossible h u rp hnone)

/-! ### The legacy provider -/

theorem legacy_setPair_self {p : RateProviderLegacy} {r : ℚ} {config : PairConfig}
    (hconfig : cfg.pairConfigs pair = some config) (hlegacy : config.isLegacy = true) :
    (p.setPair cfg pair r).getRate pair = some r := by
  simp [RateProviderLegacy.setPair, RateProviderLegacy.getRate, hconfig, hlegacy]

theorem legacy_setPair_other {p : RateProviderLegacy} {other : PairId} {r : ℚ}
    (h : pair ≠ other) : (p.setPair cfg other r).getRate pair = p.getRate pair := by
  unfold RateProviderLegacy.setPair
  split
  · rfl
  · split
    · simp [RateProviderLegacy.getRate, h]
    · rfl

theorem legacy_updateHardcodedPair {p : RateProviderLegacy} {other : PairId} :
    (p.updateHardcodedPair cfg other).getRate pair = p.getRate pair := by
  unfold RateProviderLegacy.updateHardcodedPair
  split
  · rfl
  · rename_i info hinfo
    by_cases h : pair = other
    · subst h
      unfold RateProviderLegacy.setPair
      split
      · rfl
      · split
        · simp [RateProviderLegacy.getRate, hinfo]
        · rfl
    · exact legacy_setPair_other h

theorem legacy_run {updates : List RateUpdate} {source : RateSource} {r : ℚ} {config : PairConfig}
    (hraw : RawRate updates source pair r) (hconfig : cfg.pairConfigs pair = some config)
    (hlegacy : config.isLegacy = true) (rp : RateProvider) :
    (rp.run cfg updates).legacy.getRate pair = some r := by
  obtain ⟨before, after, rfl, hafter⟩ := hraw
  simp only [run, List.foldl_append, List.foldl_cons]
  have hset : ((before.foldl (update cfg) rp).update cfg (.setRate source pair r)).legacy.getRate
      pair = some r := by
    cases source <;> exact legacy_setPair_self hconfig hlegacy
  revert hset
  generalize (before.foldl (update cfg) rp).update cfg (.setRate source pair r) = rp'
  induction after generalizing rp' with
  | nil => exact id
  | cons u after ih =>
    intro hset
    refine ih (fun u hu => hafter u (List.mem_cons_of_mem _ hu)) _ ?_
    have hu := hafter u (List.mem_cons_self ..)
    cases u with
    | updateHardcodedPair other => exact legacy_updateHardcodedPair.trans hset
    | setRate source' other r' =>
      have hne : pair ≠ other := by
        rintro rfl
        exact hu (.inl ⟨rfl, rfl⟩)
      cases source' <;> exact (legacy_setPair_other hne).trans hset

end RateProvider

end Boltz
