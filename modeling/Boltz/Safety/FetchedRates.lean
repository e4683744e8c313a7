import Boltz.Core.Factors
import Boltz.Rates.DataAggregator
import Boltz.Rates.RawRates
import Boltz.Safety.FeeWaiters

/-!
# Rates that are fetched

A minority of exchanges cannot make up a rate, however rounds of fetching overlap: what holds of the
answers of the majority and of inverse rates holds of every rate that is kept, shown or calculated.
-/

namespace Boltz

open Async Boltz.Core

namespace DataAggregator

variable {setup : RateSetup} {s s' : State} {op : Op} {m latestRates : RateMap} {pair : PairId}
  {rate : Option ℚ} {r : ℚ}

/-! ## The median of the prices -/

theorem getRate_eq_median (prices : List (Option ℚ)) :
    getRate prices = MempoolSpace.median (prices.filterMap id) := by
  unfold getRate MempoolSpace.median
  dsimp only
  generalize (prices.filterMap id).insertionSort (· ≤ ·) = sorted
  rw [if_congr List.length_eq_zero_iff rfl rfl]
  refine if_congr Iff.rfl rfl ?_
  split
  · simp only [bind, Option.bind]
    cases sorted[sorted.length / 2]? <;> cases sorted[sorted.length / 2 - 1]? <;>
      simp [add_comm]
  · rw [show (sorted.length - 1) / 2 = sorted.length / 2 by omega]

/-- The median is between the bounds that the majority of the prices keeps to. -/
theorem getRate_mem {prices : List (Option ℚ)} {lo hi : ℚ} (h : getRate prices = some r)
    (hmajority : (prices.filterMap id).length <
      2 * (prices.filterMap id).countP fun price => decide (lo ≤ price ∧ price ≤ hi)) :
    lo ≤ r ∧ r ≤ hi := by
  rw [getRate_eq_median] at h
  exact MempoolSpace.median_mem_of_majority h hmajority

theorem valid_ne_nil {prices : List (Option ℚ)} (h : getRate prices = some r) :
    prices.filterMap id ≠ [] := by
  intro hnil
  rw [getRate, hnil] at h
  cases h

/-! ## Maps of rates -/

/-- What a condition on rates and their inverses says about all rates of a map. -/
def MapRated (P : PairId → ℚ → Prop) (m : RateMap) : Prop :=
  ∀ ⦃pair r⦄, some (pair, some r) ∈ m.slots → P pair r

section

variable {P : PairId → ℚ → Prop}

theorem mapRated_empty : MapRated P .empty := nofun

theorem MapRated.get (h : MapRated P m) (hget : m.get pair = some (some r)) : P pair r :=
  h (OrderedMap.mem_of_get hget)

theorem MapRated.set (h : MapRated P m) (hrate : ∀ r, rate = some r → P pair r) :
    MapRated P (m.set pair rate) := by
  intro other r hmem
  rcases OrderedMap.mem_set hmem with heq | ⟨-, hold⟩
  · obtain ⟨rfl, rfl⟩ := Prod.mk.inj heq
    exact hrate r rfl
  · exact h hold

theorem MapRated.lastRate (h : MapRated P m) (hrate : lastRate m pair = some r) : P pair r :=
  h.get (Option.join_eq_some_iff.mp (Option.filter_eq_some_iff.mp hrate).1)

theorem MapRated.query_write (hinverse : ∀ pair r, P pair r → P pair.inverse (1 / r))
    (hlatest : MapRated P latestRates) (h : MapRated P m) {query : Query}
    (hrate : ∀ r, rate = some r → P query.pair r) :
    MapRated P (query.write latestRates rate m) := by
  unfold Query.write
  split
  · rename_i r
    refine (h.set hrate).set ?_
    rintro _ ⟨⟩
    exact hinverse _ _ (hrate r rfl)
  · exact (h.set fun r => hlatest.lastRate).set fun r => hlatest.lastRate

end

/-! ## Steps -/

/-- An answer gives the rate of the pair that was asked for, or of its inverse. -/
theorem answered_eq_some {query answered : Query} (h : query.answered rate = some answered) :
    answered.pair = query.pair ∧ ∀ r', answered.stage = .rated (some r') →
      ∃ asked r, query.asks = some asked ∧ rate = some r ∧
        (asked = query.pair ∧ r' = r ∨ asked = query.pair.inverse ∧ r' = 1 / r) := by
  obtain ⟨pair, shouldInvert, stage⟩ := query
  cases stage with
  | rated | done => cases h
  | first | second =>
    cases rate with
    | none =>
      cases h
      exact ⟨rfl, nofun⟩
    | some r =>
      cases h
      refine ⟨rfl, fun r' hr' => ⟨_, r, rfl, rfl, ?_⟩⟩
      obtain rfl := Option.some.inj (QueryStage.rated.inj hr')
      cases shouldInvert <;> first | exact .inl ⟨rfl, rfl⟩ | exact .inr ⟨rfl, rfl⟩

section

variable {i j : Nat}

theorem step_answer {prices : List (Option ℚ)} (h : step setup s (.answer i j prices) = some s') :
    ∃ round query answered, s.rounds[i]? = some round ∧ round.queries[j]? = some query ∧
      query.answered (getRate prices) = some answered ∧
      s' = { s.setRound i { round with queries := round.queries.set j answered } with
        invertedPairs := query.remember (getRate prices) s.invertedPairs } := by
  simp only [step, bind, Option.bind_eq_some_iff, Option.some.injEq] at h
  obtain ⟨round, hround, query, hquery, answered, hanswered, hs'⟩ := h
  exact ⟨round, query, answered, hround, hquery, hanswered, hs'.symm⟩

theorem step_write (h : step setup s (.write i j) = some s') :
    ∃ round query rate, s.rounds[i]? = some round ∧ round.queries[j]? = some query ∧
      query.stage = .rated rate ∧
      s' = s.setRound i { round with
        queries := round.queries.set j { query with stage := .done }
        rateMap := query.write s.latestRates rate round.rateMap } := by
  simp only [step, bind, Option.bind_eq_some_iff] at h
  obtain ⟨round, hround, query, hquery, h⟩ := h
  split at h
  · rename_i rate hstage
    exact ⟨round, query, rate, hround, hquery, hstage, (Option.some.inj h).symm⟩
  all_goals cases h

theorem step_setLatest (h : step setup s (.setLatest i) = some s') :
    ∃ round, s.rounds[i]? = some round ∧
      s' = { s.setRound i { round with stage := .updatingMinerFees } with
        latestRates := round.rateMap } := by
  simp only [step, bind, Option.bind_eq_some_iff] at h
  obtain ⟨round, hround, h⟩ := h
  split at h
  · exact ⟨round, hround, (Option.some.inj h).symm⟩
  · cases h

theorem step_updateProviders {feeProvider : FeeProvider}
    (h : step setup s (.updateProviders i feeProvider) = some s') :
    ∃ round, s.rounds[i]? = some round ∧
      s' = { s.setRound i { round with stage := .updated } with
        provider := s.provider.run { setup.config with feeProvider := feeProvider }
          (round.updates setup) } := by
  simp only [step, bind, Option.bind_eq_some_iff] at h
  obtain ⟨round, hround, h⟩ := h
  split at h
  · exact ⟨round, hround, (Option.some.inj h).symm⟩
  · cases h

theorem step_minerFeesFailed (h : step setup s (.minerFeesFailed i) = some s') :
    ∃ round, s.rounds[i]? = some round ∧
      s' = s.setRound i { round with stage := .failed } := by
  simp only [step, bind, Option.bind_eq_some_iff] at h
  obtain ⟨round, hround, h⟩ := h
  split at h
  · exact ⟨round, hround, (Option.some.inj h).symm⟩
  · cases h

end

/-! ## Entries of the providers -/

theorem taproot_update (cfg : RateConfig) (rp : RateProvider) (u : RateUpdate) (type : SwapType)
    (f g : String) :
    (rp.update cfg u).taproot.rateAt type f g = rp.taproot.rateAt type f g ∨
      ∃ source other raw, u = .setRate source other raw ∧
        (other = { base := g, quote := f } ∧ (rp.update cfg u).taproot.rateAt type f g =
            some (source.rates raw .buy type) ∨
          other = { base := f, quote := g } ∧ (rp.update cfg u).taproot.rateAt type f g =
            some (source.rates raw .sell type)) := by
  cases u with
  | updateHardcodedPair other => exact .inl (RateProviderTaproot.rateAt_updateHardcodedPair ..)
  | setRate source other raw =>
    obtain ⟨minerFees, hupdate⟩ :=
      RateProvider.update_setRate_taproot cfg rp source other raw type f g
    rw [hupdate, RateProviderTaproot.rateAt_setPairs]
    obtain ⟨base, quote⟩ := other
    split
    · rename_i hsell
      obtain ⟨rfl, rfl, -⟩ := hsell
      exact .inr ⟨source, _, raw, rfl, .inr ⟨rfl, rfl⟩⟩
    · split
      · rename_i hbuy
        obtain ⟨rfl, rfl, -⟩ := hbuy
        exact .inr ⟨source, _, raw, rfl, .inl ⟨rfl, rfl⟩⟩
      · exact .inl rfl

theorem legacy_update (cfg : RateConfig) (rp : RateProvider) (u : RateUpdate) (pair : PairId) :
    (rp.update cfg u).legacy.getRate pair = rp.legacy.getRate pair ∨
      ∃ source raw, u = .setRate source pair raw ∧
        (rp.update cfg u).legacy.getRate pair = some raw := by
  cases u with
  | updateHardcodedPair other => exact .inl RateProvider.legacy_updateHardcodedPair
  | setRate source other raw =>
    have hsame : (rp.update cfg (.setRate source other raw)).legacy =
        rp.legacy.setPair cfg other raw := by cases source <;> rfl
    rw [hsame]
    by_cases hpair : pair = other
    · subst hpair
      unfold RateProviderLegacy.setPair
      split
      · exact .inl rfl
      · split
        · exact .inr ⟨source, raw, rfl, by simp [RateProviderLegacy.getRate]⟩
        · exact .inl rfl
    · exact .inl (RateProvider.legacy_setPair_other hpair)

/-- The rate of the pair or of its inverse is in the configuration. -/
def Hardcoded (setup : RateSetup) (pair : PairId) : Prop :=
  pair ∈ setup.hardcodedPairs ∨ pair.inverse ∈ setup.hardcodedPairs

/-- What a condition says about the rates of the entries that are not hardcoded. -/
structure EntriesRated (P : PairId → ℚ → Prop) (setup : RateSetup) (rp : RateProvider) : Prop where
  taproot : ∀ type f g r, ¬Hardcoded setup { base := g, quote := f } →
    rp.taproot.rateAt type f g = some r → P { base := g, quote := f } r
  legacy : ∀ pair r, ¬Hardcoded setup pair → rp.legacy.getRate pair = some r → P pair r

section

variable {P : PairId → ℚ → Prop} {cfg : RateConfig} {rp : RateProvider} {u : RateUpdate}
  {updates : List RateUpdate}

/-- Rates of hardcoded pairs are never those of other entries. -/
theorem EntriesRated.update (hinverse : ∀ pair r, P pair r → P pair.inverse (1 / r))
    (h : EntriesRated P setup rp)
    (hu : ∀ source pair r, u = .setRate source pair r →
      pair ∈ setup.hardcodedPairs ∨ source = .fetched ∧ P pair r) :
    EntriesRated P setup (rp.update cfg u) := by
  refine ⟨fun type f g r hfetched hr => ?_, fun pair r hfetched hr => ?_⟩
  · rcases taproot_update cfg rp u type f g with hkept | ⟨source, other, raw, rfl, hset⟩
    · exact h.taproot type f g r hfetched (hkept ▸ hr)
    · rcases hset with ⟨rfl, hrate⟩ | ⟨rfl, hrate⟩
      · obtain rfl := Option.some.inj (hr.symm.trans hrate)
        rcases hu _ _ _ rfl with hcoded | ⟨rfl, hP⟩
        · exact absurd (.inl hcoded) hfetched
        · exact hP
      · obtain rfl := Option.some.inj (hr.symm.trans hrate)
        rcases hu _ _ _ rfl with hcoded | ⟨rfl, hP⟩
        · exact absurd (.inr hcoded) hfetched
        · exact hinverse _ _ hP
  · rcases legacy_update cfg rp u pair with hkept | ⟨source, raw, rfl, hrate⟩
    · exact h.legacy pair r hfetched (hkept ▸ hr)
    · obtain rfl := Option.some.inj (hr.symm.trans hrate)
      rcases hu _ _ _ rfl with hcoded | ⟨-, hP⟩
      · exact absurd (.inl hcoded) hfetched
      · exact hP

theorem EntriesRated.run (hinverse : ∀ pair r, P pair r → P pair.inverse (1 / r))
    (h : EntriesRated P setup rp)
    (hupdates : ∀ source pair r, .setRate source pair r ∈ updates →
      pair ∈ setup.hardcodedPairs ∨ source = .fetched ∧ P pair r) :
    EntriesRated P setup (rp.run cfg updates) := by
  induction updates generalizing rp with
  | nil => exact h
  | cons u updates ih =>
    refine ih (h.update hinverse fun source pair r hu => ?_) fun source pair r hmem => ?_
    · exact hupdates source pair r (hu ▸ List.mem_cons_self)
    · exact hupdates source pair r (List.mem_cons_of_mem _ hmem)

theorem entriesRated_init (hinverse : ∀ pair r, P pair r → P pair.inverse (1 / r)) :
    EntriesRated P setup setup.provider := by
  refine EntriesRated.run hinverse ⟨nofun, nofun⟩ fun source pair r hmem => .inl ?_
  obtain ⟨configured, hconfigured, hrate⟩ := List.mem_filterMap.mp hmem
  obtain ⟨rate, hrate, hset⟩ := Option.map_eq_some_iff.mp hrate
  cases hset
  refine List.mem_eraseDups.mpr (List.mem_map.mpr ⟨configured, ?_, rfl⟩)
  refine List.mem_filter.mpr ⟨hconfigured, ?_⟩
  rw [hrate]
  rfl

theorem mem_updates {round : Round} {source : RateSource}
    (h : .setRate source pair r ∈ round.updates setup) :
    source = .fetched ∧ some (pair, some r) ∈ round.rateMap.slots := by
  rcases List.mem_append.mp h with hfetched | hcoded
  · obtain ⟨entry, hentry, hset⟩ := List.mem_filterMap.mp hfetched
    obtain ⟨slot, hslot, hsome⟩ := List.mem_filterMap.mp hentry
    split at hset
    · obtain ⟨raw, hraw, hset⟩ := Option.map_eq_some_iff.mp hset
      cases hset
      obtain ⟨hvalue, -⟩ := Option.filter_eq_some_iff.mp hraw
      refine ⟨rfl, ?_⟩
      rw [← hvalue]
      exact hsome ▸ hslot
    · cases hset
  · obtain ⟨other, -, heq⟩ := List.mem_map.mp hcoded
    cases heq

end

/-! ## What holds of all rates -/

/-- Every rate that an answer gives keeps to the condition, for the pair it was asked for. -/
def Truthful (P : PairId → ℚ → Prop) (s : State) (op : Op) : Prop :=
  ∀ i j prices, op = .answer i j prices → ∀ query asked r, s.query i j = some query →
    query.asks = some asked → getRate prices = some r → P asked r

structure Round.Rated (P : PairId → ℚ → Prop) (round : Round) : Prop where
  queries : ∀ query ∈ round.queries, ∀ r, query.stage = .rated (some r) → P query.pair r
  map : MapRated P round.rateMap

structure Rated (P : PairId → ℚ → Prop) (setup : RateSetup) (s : State) : Prop where
  rounds : ∀ round ∈ s.rounds, round.Rated P
  latest : MapRated P s.latestRates
  entries : EntriesRated P setup s.provider

section

variable {P : PairId → ℚ → Prop} {i : Nat} {round : Round}

theorem rated_start : (s.start setup).Rated P := by
  refine ⟨fun query hquery r hstage => ?_, mapRated_empty⟩
  obtain ⟨pair, -, rfl⟩ := List.mem_map.mp hquery
  cases hstage

theorem Rated.roundAt (h : Rated P setup s) (hround : s.rounds[i]? = some round) :
    round.Rated P :=
  h.rounds round (List.mem_of_getElem? hround)

theorem Rated.set (h : Rated P setup s) (hround : round.Rated P) :
    ∀ other ∈ s.rounds.set i round, other.Rated P := by
  intro other hother
  rcases List.mem_or_eq_of_mem_set hother with hold | rfl
  · exact h.rounds other hold
  · exact hround

theorem Round.Rated.answered (hinverse : ∀ pair r, P pair r → P pair.inverse (1 / r))
    (h : round.Rated P) {j : Nat} {query answered : Query}
    (hanswered : query.answered rate = some answered)
    (hrate : ∀ asked r, query.asks = some asked → rate = some r → P asked r) :
    Round.Rated P { round with queries := round.queries.set j answered } := by
  refine ⟨fun other hother r' hstage => ?_, h.map⟩
  rcases List.mem_or_eq_of_mem_set hother with hold | rfl
  · exact h.queries other hold r' hstage
  · obtain ⟨hpair, hgives⟩ := answered_eq_some hanswered
    obtain ⟨asked, r, hasked, hr, ⟨rfl, rfl⟩ | ⟨rfl, rfl⟩⟩ := hgives r' hstage
    · rw [hpair]
      exact hrate _ _ hasked hr
    · rw [hpair]
      exact hinverse _ _ (hrate _ _ hasked hr)

theorem rated_step (hinverse : ∀ pair r, P pair r → P pair.inverse (1 / r))
    (h : Rated P setup s) (htrue : Truthful P s op) (hstep : step setup s op = some s') :
    Rated P setup s' := by
  cases op with
  | updateRates =>
    obtain rfl := Option.some.inj hstep
    refine ⟨fun round hround => ?_, h.latest, h.entries⟩
    rcases List.mem_append.mp hround with hold | hnew
    · exact h.rounds round hold
    · obtain rfl := List.mem_singleton.mp hnew
      exact rated_start
  | answer i j prices =>
    obtain ⟨round, query, answered, hround, hquery, hanswered, rfl⟩ := step_answer hstep
    refine ⟨h.set ((h.roundAt hround).answered hinverse hanswered ?_), h.latest, h.entries⟩
    intro asked r hasked hr
    refine htrue i j prices rfl query asked r ?_ hasked hr
    rw [State.query, hround, Option.bind_some, hquery]
  | write i j =>
    obtain ⟨round, query, rate, hround, hquery, hstage, rfl⟩ := step_write hstep
    have hold := h.roundAt hround
    refine ⟨h.set ⟨fun other hother r hother' => ?_, ?_⟩, h.latest, h.entries⟩
    · rcases List.mem_or_eq_of_mem_set hother with hother | rfl
      · exact hold.queries other hother r hother'
      · cases hother'
    · refine MapRated.query_write hinverse h.latest hold.map fun r hr => ?_
      subst hr
      exact hold.queries query (List.mem_of_getElem? hquery) r hstage
  | setLatest i =>
    obtain ⟨round, hround, rfl⟩ := step_setLatest hstep
    have hold := h.roundAt hround
    exact ⟨h.set ⟨hold.queries, hold.map⟩, hold.map, h.entries⟩
  | updateProviders i feeProvider =>
    obtain ⟨round, hround, rfl⟩ := step_updateProviders hstep
    have hold := h.roundAt hround
    refine ⟨h.set ⟨hold.queries, hold.map⟩, h.latest, ?_⟩
    refine h.entries.run hinverse fun source pair r hmem => .inr ?_
    obtain ⟨hsource, hslot⟩ := mem_updates hmem
    exact ⟨hsource, hold.map hslot⟩
  | minerFeesFailed i =>
    obtain ⟨round, hround, rfl⟩ := step_minerFeesFailed hstep
    have hold := h.roundAt hround
    exact ⟨h.set ⟨hold.queries, hold.map⟩, h.latest, h.entries⟩

end

/-! ## Fair prices -/

/-- The price of a pair by the values of its assets. -/
def fairRate (value : String → ℚ) (pair : PairId) : ℚ :=
  value (assetMapper pair.base) / value (assetMapper pair.quote)

/-- In every answer that has prices, more than half of them are fair up to the factor. -/
def majorityFair (value : String → ℚ) (factor : ℚ) (s : State) : Op → Bool
  | .answer i j prices =>
    match (s.query i j).bind Query.request with
    | none => true
    | some (base, quote) =>
      let validResults := prices.filterMap id
      validResults.isEmpty || validResults.length < 2 * validResults.countP fun price =>
        WithinFactor factor (value base / value quote) price
  | _ => true

section

variable {value : String → ℚ} {factor : ℚ}

def Fair (value : String → ℚ) (factor : ℚ) (pair : PairId) (rate : ℚ) : Prop :=
  WithinFactor factor (fairRate value pair) rate

theorem fairRate_pos (hvalue : ∀ asset, 0 < value asset) (pair : PairId) :
    0 < fairRate value pair := div_pos (hvalue _) (hvalue _)

theorem Fair.inverse (hfactor : 0 < factor) (hvalue : ∀ asset, 0 < value asset) (pair : PairId)
    (rate : ℚ) (h : Fair value factor pair rate) : Fair value factor pair.inverse (1 / rate) := by
  have hinverse : fairRate value pair.inverse = 1 / fairRate value pair :=
    (one_div_div _ _).symm
  rw [Fair, hinverse]
  exact WithinFactor.one_div hfactor (fairRate_pos hvalue pair) h

theorem truthful_of_majority (hfactor : 0 < factor) (h : majorityFair value factor s op = true) :
    Truthful (Fair value factor) s op := by
  rintro i j prices rfl query asked r hquery hasked hr
  have hrequest : (s.query i j).bind Query.request =
      some (assetMapper asked.base, assetMapper asked.quote) := by
    rw [hquery, Option.bind_some, Query.request, hasked, Option.map_some]
  rw [majorityFair, hrequest] at h
  rcases Bool.or_eq_true_iff.mp h with hempty | hmajority
  · exact absurd (List.isEmpty_iff.mp hempty) (valid_ne_nil hr)
  · refine (WithinFactor.iff_mem hfactor).mpr (getRate_mem hr ?_)
    refine Nat.lt_of_lt_of_eq (of_decide_eq_true hmajority) ?_
    congr 2
    funext price
    exact decide_eq_decide.mpr (WithinFactor.iff_mem hfactor)

theorem rated_run (hfactor : 0 < factor) (hvalue : ∀ asset, 0 < value asset) {ops : List Op}
    (h : runFrom (step setup) (majorityFair value factor) (.init setup) ops = some s) :
    Rated (Fair value factor) setup s := by
  have hinverse := Fair.inverse hfactor hvalue
  refine invariant_of_runFrom (fun s op s' (hs : Rated _ setup s) hadmitted hstep => ?_)
    ⟨fun _ h => absurd h List.not_mem_nil, mapRated_empty, entriesRated_init hinverse⟩ h
  exact rated_step hinverse hs (truthful_of_majority hfactor hadmitted) hstep

/-- No entry that is not hardcoded has a rate that only a minority of exchanges answered with. -/
theorem fetched_rates_fair (hfactor : 0 < factor) (hvalue : ∀ asset, 0 < value asset)
    {ops : List Op}
    (h : runFrom (step setup) (majorityFair value factor) (.init setup) ops = some s) :
    EntriesRated (Fair value factor) setup s.provider :=
  (rated_run hfactor hvalue h).entries

def exampleSetup : RateSetup :=
  { config :=
      { currencies := fun _ =>
          some { chainClient := true, provider := false, arkNode := false, lightning := true }
        feeProvider :=
          { percentageFees := fun _ => none
            minerFees := fun _ _ => { normal := 1, reverse := { claim := 1, lockup := 1 } } }
        minSwapSizeMultipliers := fun _ => 2
        pairConfigs := fun _ => some { minSwapAmount := 10, maxSwapAmount := 100 }
        swapTypes := fun _ => [.chain] }
    tokens := fun _ => none
    configured :=
      [{ id := { base := "LTC", quote := "BTC" }, rate := none },
        { id := { base := "BTC", quote := "ETH" }, rate := none }] }

/-- Two rounds that overlap. The exchanges that answer with 1000 are in the minority. Only the
inverse of the second pair has a price, which the second round asks for first; it gets no price of
the first pair and keeps the one of the first round. -/
def exampleRounds : List Op :=
  [.updateRates, .answer 0 1 [none], .answer 0 1 [some 4, some 5, some 1000], .updateRates,
    .answer 1 1 [some 4], .answer 0 0 [some 2, none, some 3, some 1000], .write 0 0, .write 0 1,
    .setLatest 0, .answer 1 0 [none], .answer 1 0 [none], .write 1 1, .write 1 0, .setLatest 1,
    .updateProviders 1 exampleSetup.config.feeProvider,
    .updateProviders 0 exampleSetup.config.feeProvider]

def exampleValue (asset : String) : ℚ :=
  if asset = "LTC" then 2 else if asset = "ETH" then 4 else 1

theorem exampleValue_pos (asset : String) : 0 < exampleValue asset := by
  unfold exampleValue
  split
  · norm_num
  · split <;> norm_num

theorem exampleRounds_run : ∃ s, runFrom (step exampleSetup) (majorityFair exampleValue 2)
    (.init exampleSetup) exampleRounds = some s ∧
      calculateRate s.latestRates "LTC" "ETH" = .ok (some (3 / 4)) ∧
      (s.latestRates.get { base := "LTC", quote := "ETH" }).isSome = false ∧
      (s.latestRates.get { base := "ETH", quote := "LTC" }).isSome = false := by
  have hruns : (runFrom (step exampleSetup) (majorityFair exampleValue 2) (.init exampleSetup)
      exampleRounds).any (fun s =>
        calculateRate s.latestRates "LTC" "ETH" = .ok (some (3 / 4)) ∧
          (s.latestRates.get { base := "LTC", quote := "ETH" }).isSome = false ∧
          (s.latestRates.get { base := "ETH", quote := "LTC" }).isSome = false) = true := by
    decide +kernel
  obtain ⟨s, hrun, hrates⟩ := (Option.any_eq_true _ _).mp hruns
  exact ⟨s, hrun, of_decide_eq_true hrates⟩

theorem fetched_rates_fair_example : ∃ s,
    runFrom (step exampleSetup) (majorityFair exampleValue 2) (.init exampleSetup) exampleRounds =
      some s ∧ EntriesRated (Fair exampleValue 2) exampleSetup s.provider := by
  obtain ⟨s, hrun, -⟩ := exampleRounds_run
  exact ⟨s, hrun, fetched_rates_fair (by norm_num) exampleValue_pos hrun⟩

/-- A rate that goes via BTC has the errors of two rates. -/
theorem calculated_rates_fair (hfactor : 0 < factor) (hvalue : ∀ asset, 0 < value asset)
    {ops : List Op}
    (h : runFrom (step setup) (majorityFair value factor) (.init setup) ops = some s)
    {base quote : String} (hrate : calculateRate s.latestRates base quote = .ok (some r)) :
    WithinFactor
      (if (s.latestRates.get { base := base, quote := quote }).isSome ∨
          (s.latestRates.get { base := quote, quote := base }).isSome then factor
        else factor * factor)
      (fairRate value { base := base, quote := quote }) r := by
  have hlatest := (rated_run hfactor hvalue h).latest
  unfold calculateRate at hrate
  split at hrate
  · rename_i rate hget
    obtain rfl : rate = some r := Except.ok.inj hrate
    rw [hget, if_pos (.inl rfl)]
    exact hlatest.get hget
  · rename_i hnone
    split at hrate
    · rename_i rate hget
      obtain ⟨inverse, rfl, rfl⟩ := Option.map_eq_some_iff.mp (Except.ok.inj hrate)
      rw [hget, if_pos (.inr rfl)]
      exact Fair.inverse hfactor hvalue _ _ (hlatest.get hget)
    · rename_i hnone'
      rw [hnone, hnone', if_neg (by simp)]
      split at hrate
      · rename_i baseBtc quoteBtc hbase hquote
        obtain ⟨b, rfl, hroute⟩ := Option.bind_eq_some_iff.mp (Except.ok.inj hrate)
        obtain ⟨q, rfl, rfl⟩ := Option.map_eq_some_iff.mp hroute
        have hdiv := WithinFactor.div hfactor (fairRate_pos hvalue _) (fairRate_pos hvalue _)
          hfactor (hlatest.get hbase) (hlatest.get hquote)
        rwa [fairRate, fairRate, div_div_div_cancel_right₀ (hvalue _).ne'] at hdiv
      · cases hrate

/-- Via BTC, from the kept price of one pair and the inverse of the other. -/
theorem calculated_rates_fair_example : ∃ s r,
    runFrom (step exampleSetup) (majorityFair exampleValue 2) (.init exampleSetup) exampleRounds =
      some s ∧ calculateRate s.latestRates "LTC" "ETH" = .ok (some r) ∧
      WithinFactor (2 * 2) (fairRate exampleValue { base := "LTC", quote := "ETH" }) r := by
  obtain ⟨s, hrun, hrate, hdirect, hinverse⟩ := exampleRounds_run
  have hfair := calculated_rates_fair (by norm_num) exampleValue_pos hrun hrate
  rw [hdirect, hinverse, if_neg (by simp)] at hfair
  exact ⟨s, 3 / 4, hrun, hrate, hfair⟩

end

end DataAggregator

end Boltz
