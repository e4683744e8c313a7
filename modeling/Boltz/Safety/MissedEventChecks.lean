import Boltz.Ethereum.ContractEventHandler

/-!
# Checks for missed events cover their callers

A call that finds a running loop is covered by the round that its flag asks for. The flag is read
for the last time when the loop ends, but calls find the promise until the callback has run, and a
rejected round ends the loop whatever the flag says.
-/

namespace Boltz.Ethereum.ContractEventHandler

open Boltz.Async

structure Covered (s : State) : Prop where
  /-- A round that started after the call was over when the promise of the call settled. -/
  calls : ∀ call ∈ s.settled, call.startedBefore < call.started
  requests : s.loop = none ∨ (∃ ok, s.loop = some (.ended ok)) → s.missedEventsCheckPending = false
  events : ∀ event ∈ s.chain, event.height ≤ s.rescanLastHeight → event ∈ s.emitted

/-- No call between the end of a loop and its callback, and no round is given up while another one
is asked for. -/
def policy (s : State) : Op → Bool
  | .checkMissedEvents =>
    match s.loop with
    | some (.ended _) => false
    | _ => true
  | .fail | .destroy => !s.missedEventsCheckPending
  | _ => true

/-- A handler after `init`: what happened up to the height it remembers was emitted before. -/
structure Started (s : State) : Prop where
  idle : s.loop = none
  noRequest : s.missedEventsCheckPending = false
  noCalls : s.waiting = [] ∧ s.settled = []
  heights : ∀ event ∈ s.chain, event.height ≤ s.tip
  last : s.rescanLastHeight ≤ s.tip
  emitted : ∀ event ∈ s.chain, event.height ≤ s.rescanLastHeight → event ∈ s.emitted

/-! ## The invariant -/

/-- The events of a contract in a range are emitted, or among those that will be. -/
def Scanned (s : State) (contract : Contract) (start current : Nat) (next : List Event) : Prop :=
  ∀ event ∈ s.chain, event.contract = contract → start ≤ event.height → event.height ≤ current →
    event ∈ s.emitted ∨ event ∈ next

/-- A call that waits was made before the running round, or has asked for another one. -/
def Waits (s : State) : Prop :=
  ∀ call ∈ s.waiting, call < s.started ∨
    (call = s.started ∧ s.missedEventsCheckPending = true)

/-- The range of a rescan, and the first contract when it is at the second. -/
structure Rescans (s : State) (contract : Contract) (start current : Nat) : Prop where
  fromLast : start = s.rescanLastHeight
  le : start ≤ current
  le_tip : current ≤ s.tip
  waits : Waits s
  first : contract = .erc20Swap → Scanned s .etherSwap start current []

/-- What the loop has done, by what it waits for. -/
def Progress (s : State) : Option Phase → Prop
  | none => s.waiting = [] ∧ s.missedEventsCheckPending = false
  | some (.fetching start) => start = s.rescanLastHeight ∧ Waits s
  | some (.querying contract start current) => Rescans s contract start current
  | some (.sending contract start current lockup lockups claims) =>
    Rescans s contract start current ∧
      Scanned s contract start current (lockup :: (lockups ++ claims))
  | some (.rescanned current) => s.rescanLastHeight ≤ current ∧ current ≤ s.tip ∧ Waits s ∧
      ∀ contract, Scanned s contract s.rescanLastHeight current []
  | some (.ended _) => s.missedEventsCheckPending = false ∧ ∀ call ∈ s.waiting, call < s.started

structure Inv (s : State) : Prop where
  settled : ∀ call ∈ s.settled, call.startedBefore < call.started
  heights : ∀ event ∈ s.chain, event.height ≤ s.tip
  last : s.rescanLastHeight ≤ s.tip
  events : ∀ event ∈ s.chain, event.height ≤ s.rescanLastHeight → event ∈ s.emitted
  progress : Progress s s.loop

variable {s s' : State}

theorem Started.inv (h : Started s) : Inv s where
  settled call hcall := by
    rw [h.noCalls.2] at hcall
    cases hcall
  heights := h.heights
  last := h.last
  events := h.emitted
  progress := by
    rw [h.idle]
    exact ⟨h.noCalls.1, h.noRequest⟩

theorem Inv.covered (h : Inv s) : Covered s where
  calls := h.settled
  requests hidle := by
    have hprogress := h.progress
    rcases hidle with hidle | ⟨ok, hidle⟩
    · rw [hidle] at hprogress
      exact hprogress.2
    · rw [hidle] at hprogress
      exact hprogress.1
  events := h.events

/-! ## The loop -/

/-- At the condition of its loop the handler does another round for every call that asked. -/
theorem inv_enterLoop (hsettled : ∀ call ∈ s.settled, call.startedBefore < call.started)
    (hheights : ∀ event ∈ s.chain, event.height ≤ s.tip) (hlast : s.rescanLastHeight ≤ s.tip)
    (hevents : ∀ event ∈ s.chain, event.height ≤ s.rescanLastHeight → event ∈ s.emitted)
    (hwaits : Waits s) : Inv s.enterLoop := by
  unfold State.enterLoop
  by_cases hpending : s.missedEventsCheckPending = true
  · rw [if_pos hpending]
    refine ⟨hsettled, hheights, hlast, hevents, rfl, fun call hcall => .inl ?_⟩
    rcases hwaits call hcall with hlt | ⟨heq, -⟩
    · exact Nat.lt_succ_of_lt hlt
    · exact heq ▸ Nat.lt_succ_self s.started
  · rw [if_neg hpending]
    refine ⟨hsettled, hheights, hlast, hevents, Bool.not_eq_true _ ▸ hpending, fun call hcall => ?_⟩
    rcases hwaits call hcall with hlt | ⟨-, htrue⟩
    · exact hlt
    · exact absurd htrue hpending

/-- What a step keeps that leaves the loop alone. -/
theorem Progress.frame {phase : Phase} (h : Progress s (some phase))
    (hlast : s'.rescanLastHeight = s.rescanLastHeight) (htip : s.tip ≤ s'.tip)
    (hscanned : ∀ contract start current next, current ≤ s.tip →
      Scanned s contract start current next → Scanned s' contract start current next)
    (hwaits : Waits s → Waits s')
    (hended : ∀ ok, phase = .ended ok → Progress s' (some (.ended ok))) :
    Progress s' (some phase) := by
  have hrescans : ∀ contract start current, Rescans s contract start current →
      Rescans s' contract start current := by
    intro contract start current h
    exact ⟨h.fromLast.trans hlast.symm, h.le, Nat.le_trans h.le_tip htip, hwaits h.waits,
      fun hsecond => hscanned _ _ _ _ h.le_tip (h.first hsecond)⟩
  cases phase with
  | fetching start =>
    obtain ⟨rfl, hw⟩ := h
    exact ⟨hlast.symm, hwaits hw⟩
  | querying contract start current => exact hrescans _ _ _ h
  | sending contract start current lockup lockups claims =>
    obtain ⟨hrescan, hnext⟩ := h
    exact ⟨hrescans _ _ _ hrescan, hscanned _ _ _ _ hrescan.le_tip hnext⟩
  | rescanned current =>
    obtain ⟨hle, hcurrent, hw, hall⟩ := h
    refine ⟨hlast.symm ▸ hle, Nat.le_trans hcurrent htip, hwaits hw, fun contract => ?_⟩
    rw [hlast]
    exact hscanned _ _ _ _ hcurrent (hall contract)
  | ended ok => exact hended ok rfl

theorem inv_checkMissedEvents (h : Inv s) (hadmits : policy s .checkMissedEvents = true) :
    Inv s.checkMissedEvents := by
  obtain ⟨hsettled, hheights, hlast, hevents, hprogress⟩ := h
  have hwaits : Waits s → Waits { s with
      missedEventsCheckPending := true, waiting := s.waiting ++ [s.started] } := by
    intro hw call hcall
    rcases List.mem_append.mp hcall with hcall | hcall
    · rcases hw call hcall with hlt | ⟨heq, -⟩
      · exact .inl hlt
      · exact .inr ⟨heq, rfl⟩
    · exact .inr ⟨List.mem_singleton.mp hcall, rfl⟩
  unfold State.checkMissedEvents
  cases hloop : s.loop with
  | none =>
    rw [hloop] at hprogress
    refine inv_enterLoop hsettled hheights hlast hevents (hwaits fun call hcall => ?_)
    rw [hprogress.1] at hcall
    cases hcall
  | some phase =>
    rw [hloop] at hprogress
    refine ⟨hsettled, hheights, hlast, hevents, ?_⟩
    refine hprogress.frame rfl (Nat.le_refl _) (fun _ _ _ _ _ hscan => hscan) hwaits ?_
    rintro ok rfl
    simp [policy, hloop] at hadmits

theorem Scanned.emit {contract : Contract} {start current : Nat} {next events : List Event}
    (h : Scanned s contract start current (events ++ next)) :
    Scanned (s.emit events) contract start current next := by
  intro event hevent hcontract hstart hcurrent
  rcases h event hevent hcontract hstart hcurrent with hemitted | hnext
  · exact .inl (List.mem_append_left _ hemitted)
  · rcases List.mem_append.mp hnext with hnow | hnext
    · exact .inl (List.mem_append_right _ hnow)
    · exact .inr hnext

theorem Scanned.mono {contract : Contract} {start current : Nat} {next : List Event}
    (h : Scanned s contract start current next) (events : List Event) :
    Scanned (s.emit events) contract start current next := by
  intro event hevent hcontract hstart hcurrent
  exact (h event hevent hcontract hstart hcurrent).imp_left (List.mem_append_left _)

theorem inv_mine (h : Inv s) (events : List (Contract × EventKind × Nat)) :
    Inv (s.mine events) := by
  have hnew : ∀ event ∈ (s.mine events).chain, event ∈ s.chain ∨ event.height = s.tip + 1 := by
    intro event hevent
    rcases List.mem_append.mp hevent with hevent | hevent
    · exact .inl hevent
    · obtain ⟨⟨contract, kind, id⟩, -, rfl⟩ := List.mem_map.mp hevent
      exact .inr rfl
  have hscanned : ∀ contract start current next, current ≤ s.tip →
      Scanned s contract start current next →
      Scanned (s.mine events) contract start current next := by
    intro contract start current next htip hscan event hevent hcontract hstart hcurrent
    rcases hnew event hevent with hevent | hheight
    · exact hscan event hevent hcontract hstart hcurrent
    · omega
  refine ⟨h.settled, fun event hevent => ?_, Nat.le_succ_of_le h.last,
    fun event hevent hle => ?_, ?_⟩
  · rcases hnew event hevent with hevent | hheight
    · exact Nat.le_succ_of_le (h.heights event hevent)
    · exact Nat.le_of_eq hheight
  · rcases hnew event hevent with hevent | hheight
    · exact h.events event hevent hle
    · have hlast : event.height ≤ s.rescanLastHeight := hle
      have htip := h.last
      omega
  · have hprogress := h.progress
    cases hloop : s.loop with
    | none =>
      rw [hloop] at hprogress
      simp only [State.mine, hloop]
      exact hprogress
    | some phase =>
      rw [hloop] at hprogress
      simp only [State.mine, hloop]
      exact hprogress.frame rfl (Nat.le_succ _) hscanned (fun hw => hw)
        (fun ok hok => by rw [hok] at hprogress; exact hprogress)

/-- An event may be emitted at any time. -/
theorem inv_emit (h : Inv s) (events : List Event) : Inv (s.emit events) := by
  refine ⟨h.settled, h.heights, h.last,
    fun event hevent hle => List.mem_append_left _ (h.events event hevent hle), ?_⟩
  have hprogress := h.progress
  cases hloop : s.loop with
  | none =>
    rw [hloop] at hprogress
    simp only [State.emit, hloop]
    exact hprogress
  | some phase =>
    rw [hloop] at hprogress
    simp only [State.emit, hloop]
    exact hprogress.frame rfl (Nat.le_refl _) (fun _ _ _ _ _ hscan => hscan.mono events)
      (fun hw => hw) (fun ok hok => by rw [hok] at hprogress; exact hprogress)

/-! ## Rescans -/

theorem inv_emitClaims (h : Inv s) {contract : Contract} {start current : Nat}
    {claims : List Event} (hrescan : Rescans s contract start current)
    (hscan : Scanned s contract start current claims) :
    Inv (s.emitClaims contract start current claims) := by
  have hall : Scanned (s.emit claims) contract start current [] := by
    refine Scanned.emit ?_
    rw [List.append_nil]
    exact hscan
  have hemit := inv_emit h claims
  obtain ⟨rfl, hle, htip, hwaits, hfirst⟩ := hrescan
  refine ⟨hemit.settled, hemit.heights, hemit.last, hemit.events, ?_⟩
  cases contract with
  | etherSwap => exact ⟨rfl, hle, htip, hwaits, fun _ => hall⟩
  | erc20Swap =>
    refine ⟨hle, htip, hwaits, fun contract => ?_⟩
    cases contract with
    | etherSwap => exact (hfirst rfl).mono claims
    | erc20Swap => exact hall

theorem inv_sendLockups (h : Inv s) {contract : Contract} {start current : Nat}
    {lockups claims : List Event} (hrescan : Rescans s contract start current)
    (hscan : Scanned s contract start current (lockups ++ claims)) :
    Inv (s.sendLockups contract start current lockups claims) := by
  cases lockups with
  | nil => exact inv_emitClaims h hrescan hscan
  | cons lockup lockups =>
    exact ⟨h.settled, h.heights, h.last, h.events, ⟨hrescan.fromLast, hrescan.le, hrescan.le_tip,
      hrescan.waits, hrescan.first⟩, hscan⟩

/-- Both queries together find every event of a contract in their range. -/
theorem scanned_queryFilter (contract : Contract) (start current : Nat) :
    Scanned s contract start current (s.queryFilter contract .lockup start current ++
      s.queryFilter contract .claim start current) := by
  intro event hevent hcontract hstart hcurrent
  refine .inr (List.mem_append.mpr ?_)
  cases hkind : event.kind with
  | lockup =>
    exact .inl (List.mem_filter.mpr ⟨hevent, by simp [hcontract, hkind, hstart, hcurrent]⟩)
  | claim =>
    exact .inr (List.mem_filter.mpr ⟨hevent, by simp [hcontract, hkind, hstart, hcurrent]⟩)

theorem Rescans.emit {contract : Contract} {start current : Nat}
    (h : Rescans s contract start current) (events : List Event) :
    Rescans (s.emit events) contract start current :=
  ⟨h.fromLast, h.le, h.le_tip, h.waits, fun hsecond => (h.first hsecond).mono events⟩

/-! ## Runs -/

theorem inv_step (s : State) (op : Op) (s' : State) (h : Inv s) (hadmits : policy s op = true)
    (hstep : s.step op = some s') : Inv s' := by
  have hprogress := h.progress
  cases op with
  | checkMissedEvents =>
    obtain rfl := Option.some.inj hstep
    exact inv_checkMissedEvents h hadmits
  | mine events =>
    obtain rfl := Option.some.inj hstep
    exact inv_mine h events
  | subscription event =>
    simp only [State.step] at hstep
    split at hstep
    · obtain rfl := Option.some.inj hstep
      exact inv_emit h [event]
    · cases hstep
  | blockNumber height =>
    simp only [State.step] at hstep
    split at hstep
    · rename_i start hloop
      split at hstep
      · rename_i hheight
        obtain rfl := Option.some.inj hstep
        rw [hloop] at hprogress
        obtain ⟨rfl, hwaits⟩ := hprogress
        exact ⟨h.settled, h.heights, h.last, h.events, rfl, Nat.le_max_right _ _,
          Nat.max_le.mpr ⟨hheight, h.last⟩, hwaits, fun hsecond => nomatch hsecond⟩
      · cases hstep
    · cases hstep
  | queryFilter =>
    simp only [State.step] at hstep
    split at hstep
    · rename_i contract start current hloop
      obtain rfl := Option.some.inj hstep
      rw [hloop] at hprogress
      exact inv_sendLockups h hprogress (scanned_queryFilter contract start current)
    · cases hstep
  | getTransaction =>
    simp only [State.step] at hstep
    split at hstep
    · rename_i contract start current lockup lockups claims hloop
      obtain rfl := Option.some.inj hstep
      rw [hloop] at hprogress
      obtain ⟨hrescan, hscan⟩ := hprogress
      have hscan : Scanned s contract start current ([lockup] ++ (lockups ++ claims)) := hscan
      exact inv_sendLockups (inv_emit h [lockup]) (hrescan.emit [lockup]) hscan.emit
    · cases hstep
  | resume =>
    simp only [State.step] at hstep
    split at hstep
    · rename_i current hloop
      obtain rfl := Option.some.inj hstep
      rw [hloop] at hprogress
      obtain ⟨hle, htip, hwaits, hall⟩ := hprogress
      refine inv_enterLoop h.settled h.heights htip (fun event hevent hcurrent => ?_) hwaits
      by_cases hold : event.height ≤ s.rescanLastHeight
      · exact h.events event hevent hold
      · rcases hall event.contract event hevent rfl (Nat.le_of_not_le hold) hcurrent with hin | hin
        · exact hin
        · cases hin
    · cases hstep
  | fail =>
    have hpending : s.missedEventsCheckPending = false := by simpa [policy] using hadmits
    have hended : ∀ (hwaits : Waits s), Inv { s with loop := some (.ended false) } := by
      intro hwaits
      refine ⟨h.settled, h.heights, h.last, h.events, hpending, fun call hcall => ?_⟩
      rcases hwaits call hcall with hlt | ⟨-, htrue⟩
      · exact hlt
      · rw [hpending] at htrue
        cases htrue
    simp only [State.step] at hstep
    split at hstep
    · rename_i hloop
      obtain rfl := Option.some.inj hstep
      rw [hloop] at hprogress
      exact hended hprogress.2
    · rename_i hloop
      obtain rfl := Option.some.inj hstep
      rw [hloop] at hprogress
      exact hended hprogress.waits
    · rename_i hloop
      obtain rfl := Option.some.inj hstep
      rw [hloop] at hprogress
      exact hended hprogress.1.waits
    · cases hstep
  | «finally» =>
    simp only [State.step] at hstep
    split at hstep
    · rename_i ok hloop
      obtain rfl := Option.some.inj hstep
      rw [hloop] at hprogress
      obtain ⟨hpending, hwaits⟩ := hprogress
      refine ⟨fun call hcall => ?_, h.heights, h.last, h.events, rfl, hpending⟩
      rcases List.mem_append.mp hcall with hcall | hcall
      · exact h.settled call hcall
      · obtain ⟨startedBefore, hbefore, rfl⟩ := List.mem_map.mp hcall
        exact hwaits startedBefore hbefore
    · cases hstep
  | destroy =>
    have hpending : s.missedEventsCheckPending = false := by simpa [policy] using hadmits
    obtain rfl := Option.some.inj hstep
    rw [← hpending]
    exact h

/-- In every run with no call between the end of a loop and its callback, and with no round given up
while another one is asked for, calls are covered by rounds and events by the height. -/
theorem checks_cover_callers {s s' : State} (hstarted : Started s) {ops : List Op}
    (hrun : runFrom State.step policy s ops = some s') : Covered s' :=
  (invariant_of_runFrom inv_step hstarted.inv hrun).covered

/-- A lockup is found by the second of two checks, and the third call waits for another round. -/
def sampleOps : List Op :=
  [.checkMissedEvents, .blockNumber 0, .queryFilter, .queryFilter, .resume, .finally,
    .mine [(.etherSwap, .lockup, 7)], .checkMissedEvents, .blockNumber 1, .queryFilter,
    .checkMissedEvents, .getTransaction, .queryFilter, .resume, .fail, .finally]

theorem sample_covered :
    ∃ s, runFrom State.step policy {} sampleOps = some s ∧ Covered s := by
  obtain ⟨s, hrun⟩ := Option.isSome_iff_exists.mp
    (show (runFrom State.step policy {} sampleOps).isSome = true by decide +kernel)
  have hstarted : Started {} :=
    ⟨rfl, rfl, ⟨rfl, rfl⟩, fun _ h => (by cases h), Nat.le_refl _, fun _ h => (by cases h)⟩
  exact ⟨s, hrun, checks_cover_callers hstarted hrun⟩

/-- A call between the end of the loop and the callback sets the flag and gets the promise of the
loop that has ended: the promise settles without another round. -/
theorem request_lost :
    (runFrom State.step (fun _ _ => true) {} [.checkMissedEvents, .blockNumber 0, .queryFilter,
      .queryFilter, .resume, .checkMissedEvents, .finally]).map
      (fun s => (s.loop, s.missedEventsCheckPending, s.settled)) =
        some (none, true, [⟨0, 1, true⟩, ⟨1, 1, true⟩]) := by
  decide +kernel

theorem missed_by_caller :
    ∃ s, runFrom State.step (fun _ _ => true) {} [.checkMissedEvents, .blockNumber 0, .queryFilter,
      .queryFilter, .resume, .checkMissedEvents, .finally] = some s ∧ ¬ Covered s := by
  obtain ⟨s, hrun, hs⟩ := Option.map_eq_some_iff.mp request_lost
  simp only [Prod.mk.injEq] at hs
  obtain ⟨hloop, hpending, -⟩ := hs
  refine ⟨s, hrun, fun hcovered => ?_⟩
  rw [hcovered.requests (.inl hloop)] at hpending
  cases hpending

end Boltz.Ethereum.ContractEventHandler
