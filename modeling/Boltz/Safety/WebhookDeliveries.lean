import Boltz.Sidecar.Webhooks

/-!
# Webhooks that fail are retried, and what a stored success says

The stored state of a hook is that of its last outcome, a retry gives up after enough failures, and
a stored success says that the last call was delivered. A failed IP check stores nothing, a retry
whose status is not one to report gives up at once, and an older call can end after a newer one.
-/

namespace Boltz.Sidecar.Webhooks

open Boltz.Async

set_option linter.unusedSectionVars false

variable {Id Status : Type} [DecidableEq Id] [DecidableEq Status]

variable {config : Config Id Status} {s s' : State Id Status}

/-! ## The order of calls -/

/-- The last call of the hook that the filter let through. -/
def lastStarted (hook : Id) : List (Event Id Status) → Option Nat
  | [] => none
  | .started n h _ :: log => if h = hook then some n else lastStarted hook log
  | _ :: log => lastStarted hook log

/-- The call `n` failed at the IP check or at its request. -/
def Event.isFailureOf (n : Nat) : Event Id Status → Bool
  | .refused m _ => m == n
  | .failed m _ => m == n
  | _ => false

def hasFailed (n : Nat) (log : List (Event Id Status)) : Bool := log.any (·.isFailureOf n)

/-- An IP check fails only for a hook that is stored as failed, a call stores its success only
while the last call of its hook has not failed, and the filter of a hook that is retried lets the
status of its swap through. -/
def orderly (config : Config Id Status) (s : State Id Status) : Op Id Status → Bool
  | .go number ok => (s.calls number).all fun call =>
    match call.phase with
    | .checking => config.allowInsecure || ok || s.state call.hook == .failed
    | .storing true => (lastStarted call.hook s.log).all fun n => !hasFailed n s.log
    | _ => true
  | .retryCall id => (s.swapStatus id).any fun status => !config.shouldBeSkipped id status
  | _ => true

theorem orderly_checking {n : Nat} {call : Call Id Status} {ok : Bool}
    (h : orderly config s (.go n ok) = true) (hcall : s.calls n = some call)
    (hphase : call.phase = .checking) (hrefused : ¬(config.allowInsecure || ok) = true) :
    s.state call.hook = .failed := by
  rw [Bool.not_eq_true] at hrefused
  simpa [orderly, hcall, hphase, hrefused] using h

theorem orderly_storing {n m : Nat} {call : Call Id Status} {ok : Bool}
    (h : orderly config s (.go n ok) = true) (hcall : s.calls n = some call)
    (hphase : call.phase = .storing true) (hlast : lastStarted call.hook s.log = some m) :
    hasFailed m s.log = false := by
  simpa [orderly, hcall, hphase, hlast] using h

/-- What an orderly step does. -/
theorem orderly_step {op : Op Id Status} (hop : orderly config s op = true)
    (h : s.step config op = some s') :
    (∃ id status, s' = { s with swapStatus := Function.update s.swapStatus id (some status) }) ∨
    s' = s ∨
    (∃ hook status, s' = s.start hook status false) ∨
    (s.round = [] ∧ s.running (·.retry) = false ∧
      s' = { s with round := config.hooks.filter fun hook => decide (s.state hook = .failed) }) ∨
    (∃ hook ∈ s.round, ∃ status,
      s' = State.start { s with round := s.round.erase hook } hook status true) ∨
    (∃ n call ok, orderly config s (.go n ok) = true ∧ s.calls n = some call ∧
      s' = s.goOn config n call ok) := by
  cases op with
  | update id status => exact .inl ⟨id, status, (Option.some.inj h).symm⟩
  | callWebhook id status =>
    simp only [State.step, State.callWebhook] at h
    split at h
    · split at h
      · exact .inr (.inl (Option.some.inj h).symm)
      · exact .inr (.inr (.inl ⟨id, status, (Option.some.inj h).symm⟩))
    · exact absurd h (Option.some_ne_none s').symm
  | retryCalls =>
    simp only [State.step, State.retryCalls] at h
    split at h
    · rename_i hguard
      exact .inr (.inr (.inr (.inl ⟨hguard.1, hguard.2, (Option.some.inj h).symm⟩)))
    · exact absurd h (Option.some_ne_none s').symm
  | retryCall id =>
    obtain ⟨status, hstatus, hskip⟩ := (Option.any_eq_true _ _).mp hop
    rw [Bool.not_eq_true'] at hskip
    simp only [State.step, State.retryCall] at h
    split at h
    · rename_i hround
      simp only [hstatus, hskip, Bool.false_eq_true, if_false] at h
      exact .inr (.inr (.inr (.inr (.inl ⟨id, hround, status, (Option.some.inj h).symm⟩))))
    · exact absurd h (Option.some_ne_none s').symm
  | go number ok =>
    obtain ⟨call, hcall, rfl⟩ := Option.map_eq_some_iff.mp h
    exact .inr (.inr (.inr (.inr (.inr ⟨number, call, ok, hop, hcall, rfl⟩))))

/-! ## The stored state is the last outcome -/

def Event.outcomeFor (hook : Id) : Event Id Status → Option WebHookState
  | .succeeded _ h => if h = hook then some .ok else Option.none
  | .failed _ h => if h = hook then some .failed else Option.none
  | .refused _ h => if h = hook then some .failed else Option.none
  | .abandoned h _ _ => if h = hook then some .abandoned else Option.none
  | _ => Option.none

def lastOutcome (hook : Id) (log : List (Event Id Status)) : Option WebHookState :=
  log.findSome? (·.outcomeFor hook)

def State.StoresOutcome (s : State Id Status) : Prop :=
  ∀ hook state, lastOutcome hook s.log = some state → s.state hook = state

theorem lastOutcome_cons (hook : Id) (e : Event Id Status) (log : List (Event Id Status)) :
    lastOutcome hook (e :: log) = (e.outcomeFor hook).or (lastOutcome hook log) := by
  unfold lastOutcome
  rw [List.findSome?_cons]
  cases e.outcomeFor hook <;> rfl

/-- A step that stores nothing and records no outcome. -/
theorem State.StoresOutcome.of_eq (h : s.StoresOutcome) (hstate : s'.state = s.state)
    (hlog : ∀ hook, lastOutcome hook s'.log = lastOutcome hook s.log) : s'.StoresOutcome := by
  intro hook state hlast
  rw [hstate]
  exact h hook state ((hlog hook).symm.trans hlast)

/-- A step that stores what it records. -/
theorem State.StoresOutcome.store (h : s.StoresOutcome) {e : Event Id Status} {hook : Id}
    {state : WebHookState}
    (he : ∀ k, e.outcomeFor k = if hook = k then some state else Option.none)
    (hstate : s'.state = Function.update s.state hook state) (hlog : s'.log = e :: s.log) :
    s'.StoresOutcome := by
  intro k st hlast
  rw [hlog, lastOutcome_cons, he] at hlast
  rw [hstate]
  by_cases hk : hook = k
  · subst hk
    rw [if_pos rfl, Option.some_or] at hlast
    rw [Function.update_self, Option.some.inj hlast]
  · rw [if_neg hk, Option.none_or] at hlast
    rw [Function.update_of_ne (Ne.symm hk)]
    exact h k st hlast

theorem State.StoresOutcome.goOn (h : s.StoresOutcome) {n : Nat} {call : Call Id Status}
    {ok : Bool} (hop : orderly config s (.go n ok) = true) (hcall : s.calls n = some call) :
    (s.goOn config n call ok).StoresOutcome := by
  unfold State.goOn
  split
  · rename_i hphase
    split
    · exact h.of_eq rfl fun _ => rfl
    · rename_i hrefused
      have hfailed := orderly_checking hop hcall hphase hrefused
      exact h.store (e := .refused n call.hook) (fun _ => rfl)
        (by simp [State.record, ← hfailed]) (by simp [State.record])
  · split
    · exact h.of_eq rfl fun _ => rfl
    · exact h.of_eq rfl fun _ => rfl
  · exact h.of_eq rfl fun _ => rfl
  · exact h.store (e := .succeeded n call.hook) (fun _ => rfl) (by simp [State.record, State.setState])
      (by simp [State.record, State.setState])
  · exact h.store (e := .failed n call.hook) (fun _ => rfl) (by simp [State.record, State.setState])
      (by simp [State.record, State.setState])
  · exact h.of_eq rfl fun _ => rfl
  · exact h.of_eq rfl fun _ => rfl
  · exact h.of_eq rfl fun _ => rfl
  · exact h.of_eq rfl fun _ => rfl
  · exact h.of_eq rfl fun _ => rfl
  · rename_i reason _
    exact h.store (e := .abandoned call.hook call.data reason) (fun _ => rfl) rfl rfl

theorem State.StoresOutcome.step (h : s.StoresOutcome) {op : Op Id Status}
    (hop : orderly config s op = true) (hs : s.step config op = some s') : s'.StoresOutcome := by
  rcases orderly_step hop hs with ⟨id, status, rfl⟩ | rfl | ⟨hook, status, rfl⟩ |
    ⟨-, -, rfl⟩ | ⟨hook, -, status, rfl⟩ | ⟨n, call, ok, hgo, hcall, rfl⟩
  · exact h.of_eq rfl fun _ => rfl
  · exact h
  · exact h.of_eq rfl fun _ => rfl
  · exact h.of_eq rfl fun _ => rfl
  · exact h.of_eq rfl fun _ => rfl
  · exact h.goOn hgo hcall

/-! ## Why a hook is abandoned -/

/-- The retries of the hook that failed since it was last abandoned. -/
def failuresSince (hook : Id) : List (Event Id Status) → Nat
  | [] => 0
  | .retryFailed h :: log => failuresSince hook log + if h = hook then 1 else 0
  | .abandoned h _ _ :: log => if h = hook then 0 else failuresSince hook log
  | _ :: log => failuresSince hook log

def Justified (config : Config Id Status) (log : List (Event Id Status)) (hook : Id) :
    Reason → Prop
  | .retries failedCount =>
    config.maxRetries ≤ failedCount ∧ failedCount ≤ failuresSince hook log
  | _ => False

def AllJustified (config : Config Id Status) : List (Event Id Status) → Prop
  | [] => True
  | .abandoned hook _ reason :: log => Justified config log hook reason ∧ AllJustified config log
  | _ :: log => AllJustified config log

/-- What the point a retry has reached says about the log. -/
def Call.Sound (config : Config Id Status) (log : List (Event Id Status))
    (call : Call Id Status) : Prop :=
  match call.phase with
  | .returned res => call.retry = true ∧ res ≠ .notIncluded
  | .counting failedCount => call.retry = true ∧ failedCount ≤ failuresSince call.hook log
  | .abandon reason => call.retry = true ∧ Justified config log call.hook reason
  | .abandoning reason => call.retry = true ∧ Justified config log call.hook reason
  | _ => True

theorem Justified.mono {log log' : List (Event Id Status)} {hook : Id} {reason : Reason}
    (h : Justified config log hook reason)
    (hle : failuresSince hook log ≤ failuresSince hook log') :
    Justified config log' hook reason := by
  cases reason with
  | retries failedCount => exact ⟨h.1, Nat.le_trans h.2 hle⟩
  | notIncluded => exact h
  | noData => exact h

theorem Call.Sound.mono {log log' : List (Event Id Status)} {call : Call Id Status}
    (h : call.Sound config log)
    (hle : failuresSince call.hook log ≤ failuresSince call.hook log') :
    call.Sound config log' := by
  obtain ⟨hook, data, retry, phase⟩ := call
  cases phase with
  | checking => trivial
  | requesting => trivial
  | called => trivial
  | storing ok => trivial
  | returned res => exact h
  | counting failedCount => exact ⟨h.1, Nat.le_trans h.2 hle⟩
  | abandon reason => exact ⟨h.1, h.2.mono hle⟩
  | abandoning reason => exact ⟨h.1, h.2.mono hle⟩

def Phase.isAbandoning : Phase → Bool
  | .abandoning _ => true
  | _ => false

structure State.Counts (config : Config Id Status) (s : State Id Status) : Prop where
  fresh : ∀ n, s.next ≤ n → s.calls n = none
  /-- A hook has one retry at a time. -/
  retries : ∀ m n c d, s.calls m = some c → s.calls n = some d → c.retry = true →
    d.retry = true → c.hook = d.hook → m = n
  nodup : s.round.Nodup
  inRound : ∀ hook ∈ s.round, ∀ n c, s.calls n = some c → c.retry = true → c.hook ≠ hook
  count : ∀ hook, s.retryCount hook ≤ failuresSince hook s.log
  /-- The count is removed before the hook is stored as abandoned. -/
  zero : ∀ n c, s.calls n = some c → c.phase.isAbandoning = true → s.retryCount c.hook = 0
  sound : ∀ n c, s.calls n = some c → c.Sound config s.log
  justified : AllJustified config s.log

theorem State.not_running {p : Call Id Status → Bool} (hfresh : ∀ n, s.next ≤ n → s.calls n = none)
    (h : s.running p = false) {n : Nat} {call : Call Id Status} (hcall : s.calls n = some call) :
    p call = false := by
  have hlt : n < s.next := by
    by_contra hge
    rw [hfresh n (by omega)] at hcall
    exact Option.some_ne_none call hcall.symm
  have hall := List.any_eq_false.mp h n (List.mem_range.mpr hlt)
  simpa [hcall] using hall

/-- The call `n` goes on or ends; the log may grow. -/
theorem State.Counts.replace (h : s.Counts config) {n : Nat} {call : Call Id Status}
    (hcall : s.calls n = some call) {call' : Option (Call Id Status)}
    (hcalls : s'.calls = Function.update s.calls n call')
    (hsame : ∀ c, call' = some c → c.hook = call.hook ∧ c.retry = call.retry ∧
      c.Sound config s'.log)
    (hnext : s'.next = s.next) (hround : s'.round = s.round)
    (hcount : ∀ hook, s'.retryCount hook ≤ failuresSince hook s'.log)
    (hnew : ∀ c, call' = some c → c.phase.isAbandoning = true → s'.retryCount c.hook = 0)
    (hzero : ∀ m c, m ≠ n → s.calls m = some c → c.phase.isAbandoning = true →
      s.retryCount c.hook = 0 → s'.retryCount c.hook = 0)
    (hothers : ∀ m c, m ≠ n → s.calls m = some c → c.Sound config s.log → c.Sound config s'.log)
    (hjust : AllJustified config s'.log) : s'.Counts config := by
  have hold : ∀ m c, s'.calls m = some c → ∃ d, s.calls m = some d ∧ c.hook = d.hook ∧
      c.retry = d.retry := by
    intro m c hc
    rw [hcalls] at hc
    by_cases hm : m = n
    · subst hm
      rw [Function.update_self] at hc
      obtain ⟨hhook, hretry, -⟩ := hsame c hc
      exact ⟨call, hcall, hhook, hretry⟩
    · rw [Function.update_of_ne hm] at hc
      exact ⟨c, hc, rfl, rfl⟩
  exact
    { fresh := by
        intro m hm
        rw [hnext] at hm
        have hne : m ≠ n := by
          rintro rfl
          rw [h.fresh m hm] at hcall
          exact Option.some_ne_none call hcall.symm
        rw [hcalls, Function.update_of_ne hne]
        exact h.fresh m hm
      retries := by
        intro m k c d hc hd hcr hdr hhook
        obtain ⟨c₀, hc₀, hch, hcr₀⟩ := hold m c hc
        obtain ⟨d₀, hd₀, hdh, hdr₀⟩ := hold k d hd
        exact h.retries m k c₀ d₀ hc₀ hd₀ (hcr₀ ▸ hcr) (hdr₀ ▸ hdr) (by rw [← hch, ← hdh, hhook])
      nodup := hround ▸ h.nodup
      inRound := by
        intro hook hmem m c hc hretry
        rw [hround] at hmem
        obtain ⟨d, hd, hhook, hr⟩ := hold m c hc
        rw [hhook]
        exact h.inRound hook hmem m d hd (hr ▸ hretry)
      count := hcount
      zero := by
        intro m c hc ha
        rw [hcalls] at hc
        by_cases hm : m = n
        · subst hm
          rw [Function.update_self] at hc
          exact hnew c hc ha
        · rw [Function.update_of_ne hm] at hc
          exact hzero m c hm hc ha (h.zero m c hc ha)
      sound := by
        intro m c hc
        rw [hcalls] at hc
        by_cases hm : m = n
        · subst hm
          rw [Function.update_self] at hc
          exact (hsame c hc).2.2
        · rw [Function.update_of_ne hm] at hc
          exact hothers m c hm hc (h.sound m c hc)
      justified := hjust }

/-- A step that records nothing a count looks at, and at most removes a count. -/
theorem State.Counts.quiet (h : s.Counts config) {n : Nat} {call : Call Id Status}
    (hcall : s.calls n = some call) {call' : Option (Call Id Status)}
    (hcalls : s'.calls = Function.update s.calls n call')
    (hsame : ∀ c, call' = some c → c.hook = call.hook ∧ c.retry = call.retry ∧
      c.Sound config s.log)
    (hnew : ∀ c, call' = some c → c.phase.isAbandoning = true → s'.retryCount c.hook = 0)
    (hnext : s'.next = s.next) (hround : s'.round = s.round)
    (hcount : ∀ hook, s'.retryCount hook = 0 ∨ s'.retryCount hook = s.retryCount hook)
    (hfail : ∀ hook, failuresSince hook s'.log = failuresSince hook s.log)
    (hjust : AllJustified config s'.log) : s'.Counts config := by
  refine h.replace hcall hcalls
    (fun c hc => ⟨(hsame c hc).1, (hsame c hc).2.1,
      (hsame c hc).2.2.mono (Nat.le_of_eq (hfail _).symm)⟩) hnext
    hround (fun hook => ?_) hnew (fun m c _ _ _ hz => ?_)
    (fun _ _ _ _ hs => hs.mono (Nat.le_of_eq (hfail _).symm)) hjust
  · rw [hfail]
    rcases hcount hook with hc | hc
    · rw [hc]
      exact Nat.zero_le _
    · rw [hc]
      exact h.count hook
  · rcases hcount c.hook with hc | hc
    · exact hc
    · rw [hc, hz]

/-- Only a retry is left of a call that has returned. -/
theorem after_eq_some {call c : Call Id Status} {res : CallResult} (hc : call.after res = some c) :
    call.retry = true ∧ c = { call with phase := .returned res } := by
  unfold Call.after at hc
  split at hc
  · rename_i hretry
    exact ⟨hretry, (Option.some.inj hc).symm⟩
  · exact absurd hc (Option.some_ne_none c).symm

theorem after_same {log : List (Event Id Status)} {call : Call Id Status} {res : CallResult}
    (hres : res ≠ .notIncluded) (c : Call Id Status) (hc : call.after res = some c) :
    c.hook = call.hook ∧ c.retry = call.retry ∧ c.Sound config log := by
  obtain ⟨hretry, rfl⟩ := after_eq_some hc
  exact ⟨rfl, rfl, hretry, hres⟩

theorem after_not_abandoning {call : Call Id Status} {res : CallResult} (c : Call Id Status)
    (hc : call.after res = some c) : c.phase.isAbandoning = false := by
  obtain ⟨-, rfl⟩ := after_eq_some hc
  rfl

theorem update_zero (count : Id → Nat) (hook k : Id) :
    Function.update count hook 0 k = 0 ∨ Function.update count hook 0 k = count k := by
  by_cases hk : k = hook
  · exact .inl (by rw [hk, Function.update_self])
  · exact .inr (Function.update_of_ne hk _ _)

/-- The call goes on to another point of `call_webhook`. -/
theorem State.Counts.goTo (h : s.Counts config) {n : Nat} {call : Call Id Status}
    (hcall : s.calls n = some call) {phase : Phase}
    (hcalls : s'.calls = Function.update s.calls n (some { call with phase := phase }))
    (hsound : Call.Sound config s.log { call with phase := phase })
    (hphase : phase.isAbandoning = true → s'.retryCount call.hook = 0)
    (hnext : s'.next = s.next) (hround : s'.round = s.round)
    (hcount : ∀ hook, s'.retryCount hook = 0 ∨ s'.retryCount hook = s.retryCount hook)
    (hfail : ∀ hook, failuresSince hook s'.log = failuresSince hook s.log)
    (hjust : AllJustified config s'.log) : s'.Counts config := by
  refine h.quiet hcall hcalls (fun c hc => ?_) (fun c hc ha => ?_) hnext hround hcount hfail hjust
  · obtain rfl := Option.some.inj hc
    exact ⟨rfl, rfl, hsound⟩
  · obtain rfl := Option.some.inj hc
    exact hphase ha

/-- `call_webhook` returns with an event that no count looks at. -/
theorem State.Counts.giveBack (h : s.Counts config) {n : Nat} {call : Call Id Status}
    (hcall : s.calls n = some call) {res : CallResult} (hres : res ≠ .notIncluded)
    {s₁ : State Id Status} (hcalls : s₁.calls = s.calls) (hnext : s₁.next = s.next)
    (hround : s₁.round = s.round) (hcount : s₁.retryCount = s.retryCount)
    (hfail : ∀ hook, failuresSince hook s₁.log = failuresSince hook s.log)
    (hjust : AllJustified config s₁.log) : (s₁.giveBack n call res).Counts config :=
  h.quiet hcall (by rw [State.giveBack_calls, hcalls]) (after_same hres)
    (fun c hc ha => absurd ((after_not_abandoning c hc).symm.trans ha) Bool.false_ne_true)
    (by rw [State.giveBack_next, hnext]) (by rw [State.giveBack_round, hround])
    (fun hook => .inr (by rw [State.giveBack_retryCount, hcount]))
    (fun hook => by rw [State.giveBack_log, hfail]) (by rwa [State.giveBack_log])

/-- A retry whose call failed counts the failure, which is in the log by then. -/
theorem State.Counts.countFailure (h : s.Counts config) {n : Nat} {call : Call Id Status}
    (hcall : s.calls n = some call) (hretry : call.retry = true) :
    ((s.record (.retryFailed call.hook)).setCall n
      (some { call with phase := config.afterFailure (s.retryCount call.hook + 1) })).Counts
        config := by
  have hle : ∀ hook, failuresSince hook s.log ≤
      failuresSince hook (.retryFailed call.hook :: s.log) :=
    fun hook => Nat.le_add_right _ _
  have hcounted : s.retryCount call.hook + 1 ≤
      failuresSince call.hook (.retryFailed call.hook :: s.log) := by
    have hcount := h.count call.hook
    simp only [failuresSince, if_true]
    omega
  refine h.replace hcall rfl (fun c hc => ?_) rfl rfl
    (fun hook => Nat.le_trans (h.count hook) (hle hook)) (fun c hc ha => ?_)
    (fun m c _ _ _ hz => hz) (fun m c _ _ hs => hs.mono (hle _)) h.justified
  · obtain rfl := Option.some.inj hc
    refine ⟨rfl, rfl, ?_⟩
    unfold Call.Sound Config.afterFailure
    by_cases hmax : config.maxRetries ≤ s.retryCount call.hook + 1
    · simp only [if_pos hmax]
      exact ⟨hretry, hmax, hcounted⟩
    · simp only [if_neg hmax]
      exact ⟨hretry, hcounted⟩
  · obtain rfl := Option.some.inj hc
    unfold Config.afterFailure at ha
    split at ha <;> exact absurd ha Bool.false_ne_true

/-- The hook is stored as abandoned, and the count begins anew. -/
theorem State.Counts.abandon (h : s.Counts config) {n : Nat} {call : Call Id Status}
    (hcall : s.calls n = some call) (hretry : call.retry = true) {reason : Reason}
    (hphase : call.phase = .abandoning reason)
    (hjust : Justified config s.log call.hook reason) :
    (((s.setState call.hook .abandoned).record (.abandoned call.hook call.data reason)).setCall n
      none).Counts config := by
  have hother : ∀ hook, hook ≠ call.hook →
      failuresSince hook (Event.abandoned call.hook call.data reason :: s.log) =
        failuresSince hook s.log := fun hook hne => if_neg (Ne.symm hne)
  refine h.replace hcall rfl (fun c hc => absurd hc.symm (Option.some_ne_none c)) rfl rfl
    (fun hook => ?_) (fun c hc => absurd hc.symm (Option.some_ne_none c)) (fun m c _ _ _ hz => hz)
    (fun m c hm hc hs => ?_) ⟨hjust, h.justified⟩
  · by_cases hk : hook = call.hook
    · subst hk
      have hzero := h.zero n call hcall (by rw [hphase]; rfl)
      exact Nat.le_trans (Nat.le_of_eq hzero) (Nat.zero_le _)
    · exact Nat.le_trans (h.count hook) (Nat.le_of_eq (hother hook hk).symm)
  · by_cases hk : c.hook = call.hook
    · -- another call of the hook is no retry, so its point says nothing
      have hnot : c.retry ≠ true := fun hr => hm (h.retries m n c call hc hcall hr hretry hk)
      obtain ⟨hook, data, retry, phase⟩ := c
      cases phase with
      | checking => trivial
      | requesting => trivial
      | called => trivial
      | storing ok => trivial
      | returned res => exact absurd hs.1 hnot
      | counting failedCount => exact absurd hs.1 hnot
      | abandon reason => exact absurd hs.1 hnot
      | abandoning reason => exact absurd hs.1 hnot
    · exact hs.mono (Nat.le_of_eq (hother c.hook hk).symm)

theorem State.Counts.goOn (h : s.Counts config) {n : Nat} {call : Call Id Status}
    (hcall : s.calls n = some call) (ok : Bool) : (s.goOn config n call ok).Counts config := by
  have hsound := h.sound n call hcall
  unfold Call.Sound at hsound
  unfold State.goOn
  split
  · split
    · exact h.goTo hcall rfl trivial (absurd · Bool.false_ne_true) rfl rfl (fun _ => .inr rfl)
        (fun _ => rfl) h.justified
    · exact h.giveBack hcall (by decide) rfl rfl rfl rfl (fun _ => rfl) h.justified
  · split
    · exact h.goTo hcall rfl trivial (absurd · Bool.false_ne_true) rfl rfl (fun _ => .inr rfl)
        (fun _ => rfl) h.justified
    · exact h.goTo hcall rfl trivial (absurd · Bool.false_ne_true) rfl rfl (fun _ => .inr rfl)
        (fun _ => rfl) h.justified
  · exact h.goTo hcall rfl trivial (absurd · Bool.false_ne_true) rfl rfl
      (update_zero s.retryCount call.hook) (fun _ => rfl) h.justified
  · exact h.giveBack hcall (by decide) rfl rfl rfl rfl (fun _ => rfl) h.justified
  · exact h.giveBack hcall (by decide) rfl rfl rfl rfl (fun _ => rfl) h.justified
  · exact h.quiet hcall rfl (fun c hc => absurd hc.symm (Option.some_ne_none c))
      (fun c hc => absurd hc.symm (Option.some_ne_none c)) rfl rfl
      (update_zero s.retryCount call.hook) (fun _ => rfl) h.justified
  · rename_i hphase
    rw [hphase] at hsound
    exact h.countFailure hcall hsound.1
  · rename_i hphase
    rw [hphase] at hsound
    exact absurd rfl hsound.2
  · rename_i failedCount hphase
    rw [hphase] at hsound
    refine h.replace hcall rfl (fun c hc => absurd hc.symm (Option.some_ne_none c)) rfl rfl
      (fun hook => ?_) (fun c hc => absurd hc.symm (Option.some_ne_none c))
      (fun m c hm hc ha hz => ?_) (fun _ _ _ _ hs => hs) h.justified
    · by_cases hk : hook = call.hook
      · subst hk
        simpa [State.setCall, State.setCount] using hsound.2
      · simpa [State.setCall, State.setCount, hk] using h.count hook
    · have hne : c.hook ≠ call.hook := by
        intro hk
        have hcr : c.retry = true := by
          have hs := h.sound m c hc
          obtain ⟨hook, data, retry, phase⟩ := c
          cases phase with
          | abandoning reason => exact hs.1
          | _ => exact absurd ha Bool.false_ne_true
        exact hm (h.retries m n c call hc hcall hcr hsound.1 hk)
      simpa [State.setCall, State.setCount, hne] using hz
  · rename_i reason hphase
    rw [hphase] at hsound
    exact h.goTo hcall rfl hsound (fun _ => by simp [State.setCall, State.setCount]) rfl rfl
      (update_zero s.retryCount call.hook) (fun _ => rfl) h.justified
  · rename_i reason hphase
    rw [hphase] at hsound
    exact h.abandon hcall hsound.1 hphase hsound.2

/-- A call is added; a retry has been taken from the round. -/
theorem State.Counts.add (h : s.Counts config) {s₁ : State Id Status} {call : Call Id Status}
    (hcalls : s₁.calls = s.calls) (hnext : s₁.next = s.next) (hround : s₁.round.Sublist s.round)
    (hcount : s₁.retryCount = s.retryCount)
    (hfail : ∀ hook, failuresSince hook s₁.log = failuresSince hook s.log)
    (hjust : AllJustified config s₁.log) (hsound : call.Sound config s.log)
    (hphase : call.phase.isAbandoning = false)
    (hretry : call.retry = true → call.hook ∈ s.round ∧ call.hook ∉ s₁.round) :
    (s₁.add call).Counts config := by
  have hnew : ∀ n c, (s₁.add call).calls n = some c →
      (n = s.next ∧ c = call) ∨ (n ≠ s.next ∧ s.calls n = some c) := by
    intro n c hc
    simp only [State.add, State.setCall, hcalls, hnext] at hc
    by_cases hn : n = s.next
    · subst hn
      rw [Function.update_self] at hc
      exact .inl ⟨rfl, (Option.some.inj hc).symm⟩
    · rw [Function.update_of_ne hn] at hc
      exact .inr ⟨hn, hc⟩
  exact
    { fresh := by
        intro n hn
        simp only [State.add, hnext] at hn
        have hne : n ≠ s.next := by omega
        simp only [State.add, State.setCall, hcalls, hnext, Function.update_of_ne hne]
        exact h.fresh n (by omega)
      retries := by
        intro m n c d hc hd hcr hdr hhook
        rcases hnew m c hc with ⟨hm, hcall⟩ | ⟨-, hc'⟩ <;>
          rcases hnew n d hd with ⟨hn, hdall⟩ | ⟨-, hd'⟩
        · rw [hm, hn]
        · subst hcall
          exact absurd hhook.symm (h.inRound _ (hretry hcr).1 n d hd' hdr)
        · subst hdall
          exact absurd hhook (h.inRound _ (hretry hdr).1 m c hc' hcr)
        · exact h.retries m n c d hc' hd' hcr hdr hhook
      nodup := hround.nodup h.nodup
      inRound := by
        intro hook hmem n c hc hr
        rcases hnew n c hc with ⟨-, rfl⟩ | ⟨-, hc⟩
        · rintro rfl
          exact (hretry hr).2 hmem
        · exact h.inRound hook (hround.subset hmem) n c hc hr
      count := by
        intro hook
        simp only [State.add, State.setCall, hcount, hfail]
        exact h.count hook
      zero := by
        intro n c hc ha
        rcases hnew n c hc with ⟨-, rfl⟩ | ⟨-, hc⟩
        · exact absurd (hphase.symm.trans ha) Bool.false_ne_true
        · simp only [State.add, State.setCall, hcount]
          exact h.zero n c hc ha
      sound := by
        intro n c hc
        rcases hnew n c hc with ⟨-, rfl⟩ | ⟨-, hc⟩
        · exact hsound.mono (Nat.le_of_eq (hfail _).symm)
        · exact (h.sound n c hc).mono (Nat.le_of_eq (hfail _).symm)
      justified := hjust }

theorem State.Counts.step (h : s.Counts config) {op : Op Id Status}
    (hop : orderly config s op = true) (hs : s.step config op = some s') : s'.Counts config := by
  rcases orderly_step hop hs with ⟨id, status, rfl⟩ | rfl | ⟨hook, status, rfl⟩ |
    ⟨-, hidle, rfl⟩ | ⟨hook, hround, status, rfl⟩ | ⟨n, call, ok, -, hcall, rfl⟩
  · exact { h with }
  · exact h
  · exact h.add rfl rfl (List.Sublist.refl _) rfl (fun _ => rfl) h.justified trivial rfl
      fun hr => absurd hr Bool.false_ne_true
  · exact
      { h with
        nodup := config.nodup.filter _
        inRound := fun _ _ n c hc hr =>
          absurd ((State.not_running h.fresh hidle hc).symm.trans hr) Bool.false_ne_true }
  · exact h.add rfl rfl List.erase_sublist rfl (fun _ => rfl) h.justified trivial rfl
      fun _ => ⟨hround, h.nodup.not_mem_erase⟩
  · exact h.goOn hcall ok

/-- The call will not store a success or a failure any more. -/
def Phase.isTail : Phase → Bool
  | .returned _ => true
  | .counting _ => true
  | .abandon _ => true
  | .abandoning _ => true
  | _ => false

def Phase.isCalled : Phase → Bool
  | .called => true
  | .storing ok => ok
  | _ => false

/-- The call `n` of the hook was delivered, will store how it ends, or failed with no success
stored after it. -/
def State.Decided (s : State Id Status) (hook : Id) (n : Nat) : Prop :=
  .delivered n ∈ s.log ∨ (∃ c, s.calls n = some c ∧ c.hook = hook ∧ c.phase.isTail = false) ∨
    hasFailed n s.log = true ∧ s.state hook ≠ .ok

structure State.Last (s : State Id Status) : Prop where
  fresh : ∀ n, s.next ≤ n → s.calls n = none
  called : ∀ n c, s.calls n = some c → c.phase.isCalled = true → .delivered n ∈ s.log
  decided : ∀ hook n, lastStarted hook s.log = some n → s.Decided hook n

theorem hasFailed_mono {log log' : List (Event Id Status)} {n : Nat} (hlog : log ⊆ log')
    (h : hasFailed n log = true) : hasFailed n log' = true := by
  obtain ⟨e, he, hfailure⟩ := List.any_eq_true.mp h
  exact List.any_eq_true.mpr ⟨e, hlog he, hfailure⟩

theorem hasFailed_cons_self {e : Event Id Status} {n : Nat} (h : e.isFailureOf n = true)
    (log : List (Event Id Status)) : hasFailed n (e :: log) = true :=
  List.any_eq_true.mpr ⟨e, List.mem_cons_self, h⟩

/-- The call `n` goes on or ends. It stores a success only while the last call of its hook has not
failed. -/
theorem State.Last.replace (h : s.Last) {n : Nat} {call : Call Id Status}
    (hcall : s.calls n = some call) {call' : Option (Call Id Status)}
    (hcalls : s'.calls = Function.update s.calls n call')
    (hsame : ∀ c, call' = some c → c.hook = call.hook ∧
      (c.phase.isCalled = true → .delivered n ∈ s'.log))
    (hnext : s'.next = s.next) (hlog : s.log ⊆ s'.log)
    (hlast : ∀ hook, lastStarted hook s'.log = lastStarted hook s.log)
    (hok : ∀ hook k, s'.state hook = .ok → s.state hook ≠ .ok →
      lastStarted hook s.log = some k → hasFailed k s.log = false)
    (hself : call.phase.isTail = false → .delivered n ∈ s'.log ∨
      (∃ c, call' = some c ∧ c.phase.isTail = false) ∨
      hasFailed n s'.log = true ∧ s'.state call.hook ≠ .ok) : s'.Last := by
  have hne : ∀ m, m ≠ n → s'.calls m = s.calls m := fun m hm => by
    rw [hcalls, Function.update_of_ne hm]
  have hn : s'.calls n = call' := by rw [hcalls, Function.update_self]
  refine ⟨fun m hm => ?_, fun m c hc hphase => ?_, fun hook k hk => ?_⟩
  · rw [hnext] at hm
    have hmn : m ≠ n := by
      rintro rfl
      rw [h.fresh m hm] at hcall
      exact Option.some_ne_none call hcall.symm
    rw [hne m hmn]
    exact h.fresh m hm
  · by_cases hmn : m = n
    · subst hmn
      exact (hsame c (hn ▸ hc)).2 hphase
    · exact hlog (h.called m c (hne m hmn ▸ hc) hphase)
  · rw [hlast] at hk
    rcases h.decided hook k hk with hd | ⟨c, hc, hhook, htail⟩ | ⟨hfailed, hstate⟩
    · exact .inl (hlog hd)
    · by_cases hkn : k = n
      · subst hkn
        obtain rfl := Option.some.inj (hcall.symm.trans hc)
        subst hhook
        rcases hself htail with hd | ⟨c', hc', htail'⟩ | hfailed
        · exact .inl hd
        · exact .inr (.inl ⟨c', hn.trans hc', (hsame c' hc').1, htail'⟩)
        · exact .inr (.inr hfailed)
      · exact .inr (.inl ⟨c, (hne k hkn).trans hc, hhook, htail⟩)
    · refine .inr (.inr ⟨hasFailed_mono hlog hfailed, fun hok' => ?_⟩)
      rw [hok hook k hok' hstate hk] at hfailed
      exact Bool.false_ne_true hfailed

/-- A call goes on to another point, and nothing is stored. -/
theorem State.Last.goTo (h : s.Last) {n : Nat} {call : Call Id Status}
    (hcall : s.calls n = some call) {phase : Phase}
    (hcalls : s'.calls = Function.update s.calls n (some { call with phase := phase }))
    (hhead : call.phase.isTail = false → phase.isTail = false)
    (hdelivered : phase.isCalled = true → .delivered n ∈ s'.log)
    (hnext : s'.next = s.next) (hlog : s.log ⊆ s'.log)
    (hlast : ∀ hook, lastStarted hook s'.log = lastStarted hook s.log)
    (hstate : s'.state = s.state) : s'.Last := by
  refine h.replace hcall hcalls (fun c hc => ?_) hnext hlog hlast
    (fun hook _ hok hne => absurd (hstate ▸ hok) hne) fun htail => ?_
  · obtain rfl := Option.some.inj hc
    exact ⟨rfl, hdelivered⟩
  · exact .inr (.inl ⟨_, rfl, hhead htail⟩)

theorem after_not_called {call : Call Id Status} {res : CallResult} (c : Call Id Status)
    (hc : call.after res = some c) : c.hook = call.hook ∧ c.phase.isCalled = false := by
  obtain ⟨-, rfl⟩ := after_eq_some hc
  exact ⟨rfl, rfl⟩

/-- `call_webhook` returns after storing the outcome in `s₁`, or refused. -/
theorem State.Last.giveBack (h : s.Last) {n : Nat} {call : Call Id Status}
    (hcall : s.calls n = some call) {res : CallResult} {s₁ : State Id Status}
    (hcalls : s₁.calls = s.calls) (hnext : s₁.next = s.next) (hlog : s.log ⊆ s₁.log)
    (hlast : ∀ hook, lastStarted hook s₁.log = lastStarted hook s.log)
    (hok : ∀ hook k, s₁.state hook = .ok → s.state hook ≠ .ok →
      lastStarted hook s.log = some k → hasFailed k s.log = false)
    (hself : .delivered n ∈ s₁.log ∨ hasFailed n s₁.log = true ∧ s₁.state call.hook ≠ .ok) :
    (s₁.giveBack n call res).Last := by
  refine h.replace hcall (by rw [State.giveBack_calls, hcalls]) (fun c hc => ?_)
    (by rw [State.giveBack_next, hnext]) (by rwa [State.giveBack_log])
    (fun hook => by rw [State.giveBack_log, hlast])
    (fun hook k => by rw [State.giveBack_state]; exact hok hook k) fun _ => ?_
  · obtain ⟨hhook, hcalled⟩ := after_not_called c hc
    exact ⟨hhook, fun ht => absurd (hcalled.symm.trans ht) Bool.false_ne_true⟩
  · rw [State.giveBack_log, State.giveBack_state]
    rcases hself with hd | hfailed
    · exact .inl hd
    · exact .inr (.inr hfailed)

/-- The retry around a call that has returned ends. -/
theorem State.Last.finish (h : s.Last) {n : Nat} {call : Call Id Status}
    (hcall : s.calls n = some call) (htail : call.phase.isTail = true)
    (hcalls : s'.calls = Function.update s.calls n none) (hnext : s'.next = s.next)
    (hlog : s.log ⊆ s'.log) (hlast : ∀ hook, lastStarted hook s'.log = lastStarted hook s.log)
    (hok : ∀ hook, s'.state hook = .ok → s.state hook = .ok) : s'.Last :=
  h.replace hcall hcalls (fun c hc => absurd hc.symm (Option.some_ne_none c)) hnext hlog hlast
    (fun hook _ hok' hne => absurd (hok hook hok') hne)
    fun hf => absurd (hf.symm.trans htail) Bool.false_ne_true

/-- Another state than `Ok` is stored for a hook. -/
theorem update_ne_ok {state : Id → WebHookState} {hook k : Id} {st : WebHookState} (hst : st ≠ .ok)
    (h : Function.update state hook st k = .ok) : state k = .ok := by
  by_cases hk : k = hook
  · subst hk
    rw [Function.update_self] at h
    exact absurd h hst
  · rwa [Function.update_of_ne hk] at h

theorem State.Last.goOn (h : s.Last) {n : Nat} {call : Call Id Status} {ok : Bool}
    (hop : orderly config s (.go n ok) = true) (hcall : s.calls n = some call) :
    (s.goOn config n call ok).Last := by
  have hcalled := h.called n call hcall
  unfold State.goOn
  split
  · rename_i hphase
    split
    · exact h.goTo hcall rfl (fun _ => rfl) (absurd · Bool.false_ne_true) rfl
        (List.Subset.refl _) (fun _ => rfl) rfl
    · rename_i hrefused
      have hfailed := orderly_checking hop hcall hphase hrefused
      refine h.giveBack hcall rfl rfl (List.subset_cons_self _ _) (fun _ => rfl)
        (fun hook k hok hne => absurd hok hne)
        (.inr ⟨hasFailed_cons_self (e := .refused n call.hook) (beq_self_eq_true n) _, ?_⟩)
      change s.state call.hook ≠ .ok
      rw [hfailed]
      decide
  · split
    · exact h.goTo hcall rfl (fun _ => rfl) (fun _ => List.mem_cons_self) rfl
        (List.subset_cons_self _ _) (fun _ => rfl) rfl
    · exact h.goTo hcall rfl (fun _ => rfl) (absurd · Bool.false_ne_true) rfl
        (List.Subset.refl _) (fun _ => rfl) rfl
  · rename_i hphase
    exact h.goTo hcall rfl (fun _ => rfl) (fun _ => hcalled (by rw [hphase]; rfl))
      rfl (List.Subset.refl _) (fun _ => rfl) rfl
  · rename_i hphase
    refine h.giveBack hcall rfl rfl (List.subset_cons_self _ _) (fun _ => rfl)
      (fun hook k hok hne hlast => ?_)
      (.inl (List.mem_cons_of_mem _ (hcalled (by rw [hphase]; rfl))))
    by_cases hhook : hook = call.hook
    · subst hhook
      exact orderly_storing hop hcall hphase hlast
    · exact absurd ((Function.update_of_ne hhook _ _).symm.trans hok) hne
  · refine h.giveBack hcall rfl rfl (List.subset_cons_self _ _) (fun _ => rfl)
      (fun hook k hok hne => absurd (update_ne_ok (by decide) hok) hne)
      (.inr ⟨hasFailed_cons_self (e := .failed n call.hook) (beq_self_eq_true n) _, ?_⟩)
    simp [State.record, State.setState]
  · rename_i hphase
    exact h.finish hcall (by rw [hphase]; rfl) rfl rfl (List.Subset.refl _) (fun _ => rfl)
      fun _ => id
  · rename_i hphase
    have htail : call.phase.isTail = true := by rw [hphase]; rfl
    have hafter : (config.afterFailure (s.retryCount call.hook + 1)).isCalled = false := by
      unfold Config.afterFailure
      split <;> rfl
    exact h.goTo hcall rfl (fun hf => absurd (hf.symm.trans htail) Bool.false_ne_true)
      (fun ht => absurd (hafter.symm.trans ht) Bool.false_ne_true) rfl
      (List.subset_cons_self _ _) (fun _ => rfl) rfl
  · rename_i hphase
    have htail : call.phase.isTail = true := by rw [hphase]; rfl
    exact h.goTo hcall rfl (fun hf => absurd (hf.symm.trans htail) Bool.false_ne_true)
      (absurd · Bool.false_ne_true) rfl (List.Subset.refl _) (fun _ => rfl) rfl
  · rename_i failedCount hphase
    exact h.finish hcall (by rw [hphase]; rfl) rfl rfl (List.Subset.refl _) (fun _ => rfl)
      fun _ => id
  · rename_i reason hphase
    have htail : call.phase.isTail = true := by rw [hphase]; rfl
    exact h.goTo hcall rfl (fun hf => absurd (hf.symm.trans htail) Bool.false_ne_true)
      (absurd · Bool.false_ne_true) rfl (List.Subset.refl _) (fun _ => rfl) rfl
  · rename_i reason hphase
    exact h.finish hcall (by rw [hphase]; rfl) rfl rfl (List.subset_cons_self _ _) (fun _ => rfl)
      fun _ => update_ne_ok (by decide)

/-- A call that the filter lets through is the last one of its hook. -/
theorem State.Last.start (h : s.Last) (hook : Id) (status : Status) (retry : Bool) :
    (s.start hook status retry).Last := by
  have hnext : (s.start hook status retry).calls s.next =
      some ⟨hook, some status, retry, .checking⟩ := Function.update_self ..
  have hne : ∀ n, n ≠ s.next → (s.start hook status retry).calls n = s.calls n :=
    fun n hn => Function.update_of_ne hn ..
  refine ⟨fun n hn => ?_, fun n c hc hphase => ?_, fun k n hk => ?_⟩
  · have hlt : s.next + 1 ≤ n := hn
    rw [hne n (by omega)]
    exact h.fresh n (by omega)
  · by_cases hn : n = s.next
    · subst hn
      obtain rfl := Option.some.inj (hnext.symm.trans hc)
      exact absurd hphase Bool.false_ne_true
    · exact List.mem_cons_of_mem _ (h.called n c (hne n hn ▸ hc) hphase)
  · simp only [State.start, State.add, State.record, State.setCall, lastStarted] at hk
    by_cases hhook : hook = k
    · rw [if_pos hhook] at hk
      obtain rfl := Option.some.inj hk
      exact .inr (.inl ⟨_, hnext, hhook, rfl⟩)
    · rw [if_neg hhook] at hk
      rcases h.decided k n hk with hd | ⟨c, hc, hrest⟩ | ⟨hfailed, hstate⟩
      · exact .inl (List.mem_cons_of_mem _ hd)
      · have hn : n ≠ s.next := by
          rintro rfl
          rw [h.fresh s.next (Nat.le_refl _)] at hc
          exact Option.some_ne_none c hc.symm
        exact .inr (.inl ⟨c, (hne n hn).trans hc, hrest⟩)
      · exact .inr (.inr ⟨hasFailed_mono (List.subset_cons_self _ _) hfailed, hstate⟩)

theorem State.Last.withRound (h : s.Last) (round : List Id) :
    State.Last { s with round := round } :=
  ⟨h.fresh, h.called, h.decided⟩

theorem State.Last.step (h : s.Last) {op : Op Id Status} (hop : orderly config s op = true)
    (hs : s.step config op = some s') : s'.Last := by
  rcases orderly_step hop hs with ⟨id, status, rfl⟩ | rfl | ⟨hook, status, rfl⟩ |
    ⟨-, -, rfl⟩ | ⟨hook, -, status, rfl⟩ | ⟨n, call, ok, hgo, hcall, rfl⟩
  · exact { h with }
  · exact h
  · exact h.start hook status false
  · exact h.withRound _
  · exact (h.withRound _).start hook status true
  · exact h.goOn hgo hcall

/-! ## Whole runs -/

def initial (state : Id → WebHookState) (swapStatus : Id → Option Status) : State Id Status where
  state := state
  swapStatus := swapStatus

/-- A hook that wants to hear of the statuses 1 and 2 only. -/
def sampleConfig : Config Nat Nat where
  allowInsecure := false
  maxRetries := 5
  hooks := [0]
  nodup := by decide
  statusInclude _ := some [1, 2]

/-- The call for status 1 fails at its request, and is over. -/
def firstFailed : List (Op Nat Nat) :=
  [.update 0 1, .callWebhook 0 1, .go 0 true, .go 0 false, .go 0 true]

/-- The call fails, the address of the first retry does not resolve, and the second one succeeds. -/
def retried : List (Op Nat Nat) :=
  firstFailed ++ [.retryCalls, .retryCall 0, .go 1 false, .go 1 true, .go 1 true] ++
    [.retryCalls, .retryCall 0, .go 2 true, .go 2 true, .go 2 true, .go 2 true, .go 2 true]

end Boltz.Sidecar.Webhooks
