import Mathlib.Logic.Function.Basic

/-!
# Hooks (`lib/swap/hooks/Hook.ts`)

A hook asks an approver on a stream. The pending questions are kept by the id they are about, and
every call has a timer of its own.
-/

namespace Boltz

/-- An entry of `pendingHooks`: the call whose promise it resolves. -/
structure PendingHook (P : Type) where
  call : Nat
  fallback : P

inductive HookTimer where
  | armed | cleared | fired
  deriving DecidableEq, Repr

/-- A call of `sendHook`. `resolutions` are the values its promise was resolved with. -/
structure HookCall (P : Type) where
  id : String
  onNotConnected : P
  onTimeout : P
  timer : HookTimer
  resolutions : List P

/-- `P` are the actions; `responses` are the answers of approvers so far. -/
structure Hook (P : Type) where
  defaultAction : P
  notConnectedAction : P
  connected : Bool := false
  pendingHooks : String → Option (PendingHook P) := fun _ => none
  calls : Nat → Option (HookCall P) := fun _ => none
  nextCall : Nat := 0
  responses : List (String × P) := []

inductive HookEvent (P : Type) where
  | sendHook (id : String) (fallback : Option P)
  | connectToStream
  /-- `data` of the stream; the action may be unknown -/
  | data (id : String) (parsed : Option P)
  /-- `error` or `end` of the stream -/
  | disconnect
  /-- the timer of a call fires -/
  | timeout (call : Nat)

namespace Hook

variable {P : Type}

/-- `resolve` of the promise of a call. -/
def resolve (h : Hook P) (call : Nat) (timer : HookTimer) (parsed : P) : Hook P :=
  { h with
    calls := Function.update h.calls call ((h.calls call).map fun c =>
      { c with timer, resolutions := parsed :: c.resolutions }) }

def delete (h : Hook P) (id : String) : Hook P :=
  { h with pendingHooks := Function.update h.pendingHooks id none }

def sendHook (h : Hook P) (id : String) (fallback : Option P) : Hook P :=
  let onNotConnected := fallback.getD h.notConnectedAction
  let onTimeout := fallback.getD h.defaultAction
  if !h.connected then
    { h with
      calls := Function.update h.calls h.nextCall
        (some ⟨id, onNotConnected, onTimeout, .cleared, [onNotConnected]⟩)
      nextCall := h.nextCall + 1 }
  else
    { h with
      calls := Function.update h.calls h.nextCall
        (some ⟨id, onNotConnected, onTimeout, .armed, []⟩)
      pendingHooks := Function.update h.pendingHooks id (some ⟨h.nextCall, onTimeout⟩)
      nextCall := h.nextCall + 1 }

/-- Every pending entry resolves its call with its fallback. -/
def closeStream (h : Hook P) : Hook P :=
  { h with
    connected := false
    calls := fun call => (h.calls call).map fun c =>
      match h.pendingHooks c.id with
      | some hook =>
        if hook.call = call then
          { c with timer := .cleared, resolutions := hook.fallback :: c.resolutions }
        else c
      | none => c
    pendingHooks := fun _ => none }

/-- An earlier stream is closed first. -/
def connectToStream (h : Hook P) : Hook P :=
  { (if h.connected then h.closeStream else h) with connected := true }

def data (h : Hook P) (id : String) (parsed : Option P) : Hook P :=
  match parsed with
  | none => h -- `parseGrpcAction` throws
  | some parsed =>
    let h := { h with responses := (id, parsed) :: h.responses }
    match h.pendingHooks id with
    | none => h
    | some hook => (h.delete id).resolve hook.call .cleared parsed

/-- The timer looks for an entry of its id, not for the one of its call. -/
def timeout (h : Hook P) (call : Nat) : Hook P :=
  match h.calls call with
  | none => h
  | some c =>
    if c.timer ≠ .armed then h
    else if (h.pendingHooks c.id).isSome then (h.delete c.id).resolve call .fired c.onTimeout
    else { h with calls := Function.update h.calls call (some { c with timer := .fired }) }

def step (h : Hook P) : HookEvent P → Hook P
  | .sendHook id fallback => h.sendHook id fallback
  | .connectToStream => h.connectToStream
  | .data id parsed => if h.connected then h.data id parsed else h
  | .disconnect => h.closeStream
  | .timeout call => h.timeout call

/-- A hook that is not connected and was never called. -/
def new (defaultAction notConnectedAction : P) : Hook P := { defaultAction, notConnectedAction }

/-! ## Promises -/

/-- The values that the promise of a call may be resolved with. -/
def Justified (h : Hook P) (c : HookCall P) (p : P) : Prop :=
  (c.id, p) ∈ h.responses ∨ p = c.onTimeout ∨ p = c.onNotConnected

/-- A call whose timer is up is resolved, and no promise is resolved twice or with a value that is
not its own. -/
def Resolves (h : Hook P) : Prop :=
  ∀ n c, h.calls n = some c →
    (c.timer = .fired → c.resolutions ≠ []) ∧ c.resolutions.length ≤ 1 ∧
      ∀ p ∈ c.resolutions, h.Justified c p

/-- No question is asked about an id while one is pending. -/
def Admits (h : Hook P) : HookEvent P → Prop
  | .sendHook id _ => h.connected = true → h.pendingHooks id = none
  | _ => True

/-- The states that events lead to, each of them admitted by `admits`. -/
inductive Reaches (admits : Hook P → HookEvent P → Prop) (h₀ : Hook P) : Hook P → Prop
  | start : Reaches admits h₀ h₀
  | step {h : Hook P} (e : HookEvent P) : Reaches admits h₀ h → admits h e →
      Reaches admits h₀ (h.step e)

/-- The pending entries are those of the calls with an armed timer; every other call is resolved
once. -/
structure Inv (h : Hook P) : Prop where
  entry : ∀ id hook, h.pendingHooks id = some hook → ∃ c, h.calls hook.call = some c ∧
    c.id = id ∧ c.timer = .armed ∧ hook.fallback = c.onTimeout
  armed : ∀ n c, h.calls n = some c → c.timer = .armed → c.resolutions = [] ∧
    ∃ hook, h.pendingHooks c.id = some hook ∧ hook.call = n
  done : ∀ n c, h.calls n = some c → c.timer ≠ .armed →
    ∃ p, c.resolutions = [p] ∧ h.Justified c p
  fresh : ∀ n, h.nextCall ≤ n → h.calls n = none

theorem inv_new (defaultAction notConnectedAction : P) :
    (new defaultAction notConnectedAction).Inv where
  entry _ _ he := by cases he
  armed _ _ hc := by cases hc
  done _ _ hc := by cases hc
  fresh _ _ := rfl

theorem Inv.resolves {h : Hook P} (hi : h.Inv) : h.Resolves := by
  intro n c hc
  by_cases harmed : c.timer = .armed
  · obtain ⟨hnil, _⟩ := hi.armed n c hc harmed
    rw [hnil, harmed]
    exact ⟨by rintro ⟨⟩, Nat.zero_le _, by rintro p ⟨⟩⟩
  · obtain ⟨p, hp, hj⟩ := hi.done n c hc harmed
    rw [hp]
    refine ⟨fun _ => List.cons_ne_nil p [], Nat.le_refl _, fun q hq => ?_⟩
    rw [List.mem_singleton] at hq
    rwa [hq]

theorem inv_sendHook {h : Hook P} (hi : h.Inv) {id : String} {fallback : Option P}
    (ha : h.Admits (.sendHook id fallback)) : (h.sendHook id fallback).Inv := by
  have hold : ∀ {n c}, h.calls n = some c → n ≠ h.nextCall := by
    rintro n c hc rfl
    rw [hi.fresh h.nextCall (Nat.le_refl _)] at hc
    cases hc
  have hfresh : ∀ x n, h.nextCall + 1 ≤ n → Function.update h.calls h.nextCall x n = none := by
    intro x n hn
    rw [Function.update_of_ne (by omega)]
    exact hi.fresh n (by omega)
  unfold sendHook
  dsimp only
  split
  · refine ⟨fun id' hook he => ?_, fun n c hc harmed => ?_, fun n c hc hne => ?_, hfresh _⟩
    · obtain ⟨c, hc, hrest⟩ := hi.entry id' hook he
      exact ⟨c, by simpa only [Function.update_of_ne (hold hc)] using hc, hrest⟩
    · by_cases hn : n = h.nextCall
      · subst hn
        simp only [Function.update_self, Option.some.injEq] at hc
        subst hc
        cases harmed
      · simp only [Function.update_of_ne hn] at hc
        exact hi.armed n c hc harmed
    · by_cases hn : n = h.nextCall
      · subst hn
        simp only [Function.update_self, Option.some.injEq] at hc
        subst hc
        exact ⟨_, rfl, .inr (.inr rfl)⟩
      · simp only [Function.update_of_ne hn] at hc
        exact hi.done n c hc hne
  · rename_i hconn
    have hnone : h.pendingHooks id = none := ha (by simpa using hconn)
    refine ⟨fun id' hook he => ?_, fun n c hc harmed => ?_, fun n c hc hne => ?_, hfresh _⟩
    · by_cases hid : id' = id
      · subst hid
        simp only [Function.update_self, Option.some.injEq] at he
        subst he
        exact ⟨_, Function.update_self .., rfl, rfl, rfl⟩
      · simp only [Function.update_of_ne hid] at he
        obtain ⟨c, hc, hrest⟩ := hi.entry id' hook he
        exact ⟨c, by simpa only [Function.update_of_ne (hold hc)] using hc, hrest⟩
    · by_cases hn : n = h.nextCall
      · subst hn
        simp only [Function.update_self, Option.some.injEq] at hc
        subst hc
        exact ⟨rfl, _, Function.update_self .., rfl⟩
      · simp only [Function.update_of_ne hn] at hc
        obtain ⟨hnil, hook, he, hcall⟩ := hi.armed n c hc harmed
        -- the entry of an earlier call is not overwritten
        have hid : c.id ≠ id := by
          intro hid
          rw [hid, hnone] at he
          cases he
        exact ⟨hnil, hook, by simpa only [Function.update_of_ne hid] using he, hcall⟩
    · by_cases hn : n = h.nextCall
      · subst hn
        simp only [Function.update_self, Option.some.injEq] at hc
        subst hc
        exact absurd rfl hne
      · simp only [Function.update_of_ne hn] at hc
        exact hi.done n c hc hne

/-- The promise of a pending call is resolved, and its entry is removed. -/
theorem inv_resolve {h : Hook P} (hi : h.Inv) {id : String} {hook : PendingHook P}
    (he : h.pendingHooks id = some hook) {timer : HookTimer} (ht : timer ≠ .armed) {p : P}
    (hp : ∀ c, h.calls hook.call = some c → h.Justified c p) :
    ((h.delete id).resolve hook.call timer p).Inv := by
  obtain ⟨c, hc, hid, harmed, _⟩ := hi.entry id hook he
  have hcalls : ((h.delete id).resolve hook.call timer p).calls =
      Function.update h.calls hook.call
        (some { c with timer, resolutions := p :: c.resolutions }) := by
    simp only [resolve, delete, hc, Option.map_some]
  have hpending : ((h.delete id).resolve hook.call timer p).pendingHooks =
      Function.update h.pendingHooks id none := rfl
  refine ⟨fun id' hook' he' => ?_, fun n c' hc' harmed' => ?_, fun n c' hc' hne => ?_,
    fun n hn => ?_⟩
  · rw [hpending] at he'
    have hne : id' ≠ id := by
      rintro rfl
      rw [Function.update_self] at he'
      cases he'
    rw [Function.update_of_ne hne] at he'
    obtain ⟨c', hc', hid', hrest⟩ := hi.entry id' hook' he'
    have hcall : hook'.call ≠ hook.call := by
      intro hcall
      rw [hcall, hc] at hc'
      cases hc'
      exact hne (hid'.symm.trans hid)
    exact ⟨c', by rwa [hcalls, Function.update_of_ne hcall], hid', hrest⟩
  · rw [hcalls] at hc'
    by_cases hn : n = hook.call
    · subst hn
      rw [Function.update_self] at hc'
      cases hc'
      exact absurd harmed' ht
    · rw [Function.update_of_ne hn] at hc'
      obtain ⟨hnil, hook', he', hcall'⟩ := hi.armed n c' hc' harmed'
      have hne : c'.id ≠ id := by
        intro hsame
        rw [hsame, he] at he'
        cases he'
        exact hn hcall'.symm
      exact ⟨hnil, hook', by rwa [hpending, Function.update_of_ne hne], hcall'⟩
  · rw [hcalls] at hc'
    by_cases hn : n = hook.call
    · subst hn
      rw [Function.update_self] at hc'
      cases hc'
      refine ⟨p, ?_, hp c hc⟩
      rw [(hi.armed _ c hc harmed).1]
    · rw [Function.update_of_ne hn] at hc'
      exact hi.done n c' hc' hne
  · rw [hcalls, Function.update_of_ne]
    · exact hi.fresh n hn
    · rintro rfl
      rw [hi.fresh _ hn] at hc
      cases hc

theorem inv_data {h : Hook P} (hi : h.Inv) (id : String) (parsed : Option P) :
    (h.data id parsed).Inv := by
  unfold data
  split
  · exact hi
  rename_i p
  have hi' : ({ h with responses := (id, p) :: h.responses } : Hook P).Inv := by
    refine ⟨hi.entry, hi.armed, fun n c hc hne => ?_, hi.fresh⟩
    obtain ⟨q, hq, hj⟩ := hi.done n c hc hne
    exact ⟨q, hq, hj.imp (fun hmem => by simp [hmem]) fun h => h⟩
  dsimp only
  split
  · exact hi'
  · rename_i hook he
    refine inv_resolve hi' he (by simp) fun c hc => .inl ?_
    obtain ⟨c', hc', hid, _⟩ := hi.entry id hook he
    have hcc : c' = c := Option.some.inj (hc'.symm.trans hc)
    rw [← hcc, hid]
    exact List.mem_cons_self

theorem inv_timeout {h : Hook P} (hi : h.Inv) (call : Nat) : (h.timeout call).Inv := by
  unfold timeout
  split
  · exact hi
  rename_i c hc
  split
  · exact hi
  rename_i harmed
  obtain ⟨_, hook, he, hcall⟩ := hi.armed call c hc (not_not.mp harmed)
  -- without overlapping calls, the entry is the one of the call
  rw [if_pos (by rw [he]; rfl)]
  subst hcall
  refine inv_resolve hi he (by simp) fun c' hc' => .inr (.inl ?_)
  rw [hc] at hc'
  cases hc'
  rfl

theorem closeStream_calls {h : Hook P} (hi : h.Inv) {n : Nat} {c : HookCall P}
    (hc : h.closeStream.calls n = some c) :
    ∃ c', h.calls n = some c' ∧ ((c'.timer ≠ .armed ∧ c = c') ∨
      (c'.timer = .armed ∧ c = { c' with timer := .cleared, resolutions := [c'.onTimeout] })) := by
  obtain ⟨c', hc', rfl⟩ := Option.map_eq_some_iff.mp hc
  refine ⟨c', hc', ?_⟩
  by_cases harmed : c'.timer = .armed
  · obtain ⟨hnil, hook, he, rfl⟩ := hi.armed n c' hc' harmed
    obtain ⟨c₁, hc₁, _, _, hf⟩ := hi.entry c'.id hook he
    have hcc : c₁ = c' := Option.some.inj (hc₁.symm.trans hc')
    refine .inr ⟨harmed, ?_⟩
    simp only [he, if_true, hf, hcc, hnil]
  · refine .inl ⟨harmed, ?_⟩
    split
    · rename_i hook he
      rw [if_neg]
      rintro rfl
      obtain ⟨c₁, hc₁, _, harmed₁, _⟩ := hi.entry c'.id hook he
      rw [hc'] at hc₁
      cases hc₁
      exact harmed harmed₁
    · rfl

theorem inv_closeStream {h : Hook P} (hi : h.Inv) : h.closeStream.Inv where
  entry _ _ he := by cases he
  armed n c hc harmed := by
    obtain ⟨c', _, ⟨hne, rfl⟩ | ⟨_, rfl⟩⟩ := closeStream_calls hi hc
    · exact absurd harmed hne
    · cases harmed
  done n c hc _ := by
    obtain ⟨c', hc', ⟨hne, rfl⟩ | ⟨_, rfl⟩⟩ := closeStream_calls hi hc
    · exact hi.done n c hc' hne
    · exact ⟨c'.onTimeout, rfl, .inr (.inl rfl)⟩
  fresh n hn := by
    rw [closeStream]
    simp only [hi.fresh n hn, Option.map_none]

theorem inv_step {h : Hook P} (hi : h.Inv) (e : HookEvent P) (ha : h.Admits e) :
    (h.step e).Inv := by
  cases e with
  | sendHook id fallback => exact inv_sendHook hi ha
  | connectToStream =>
    have hclosed : (if h.connected then h.closeStream else h).Inv := by
      split
      · exact inv_closeStream hi
      · exact hi
    exact ⟨hclosed.entry, hclosed.armed, hclosed.done, hclosed.fresh⟩
  | data id parsed =>
    change (if h.connected then h.data id parsed else h).Inv
    split
    · exact inv_data hi id parsed
    · exact hi
  | disconnect => exact inv_closeStream hi
  | timeout call => exact inv_timeout hi call

/-- Every call of a hook resolves once, in every run in which no question is asked about an id
while one is pending. -/
theorem every_call_resolves {h₀ h : Hook P} (h₀new : h₀ = new h₀.defaultAction h₀.notConnectedAction)
    (hr : Reaches Admits h₀ h) : h.Resolves := by
  have hinv : h.Inv := by
    induction hr with
    | start =>
      rw [h₀new]
      exact inv_new _ _
    | step e _ ha ih => exact inv_step ih e ha
  exact hinv.resolves

/-- Two calls, one of which is answered while the timer of the other fires. -/
def sampleEvents : List (HookEvent Bool) :=
  [.connectToStream, .sendHook "a" none, .sendHook "b" (some false), .data "a" (some false),
    .timeout 1]

theorem every_call_resolves_answered : ∃ h : Hook Bool, Reaches Admits (new true true) h ∧
    (h.calls 1).map (·.timer) = some .fired ∧ h.Resolves := by
  have hr : Reaches Admits (new true true) (sampleEvents.foldl step (new true true)) := by
    simp only [sampleEvents, List.foldl_cons, List.foldl_nil]
    refine .step _ (.step _ (.step _ (.step _ (.step _ .start ?_) ?_) ?_) ?_) ?_
    · trivial
    · exact fun _ => by decide
    · exact fun _ => by decide
    · trivial
    · trivial
  exact ⟨_, hr, by decide, every_call_resolves rfl hr⟩

/-- The timer of the first call removes the entry of the second one, whose own timer then finds
none. -/
theorem overlapping_calls_unresolved :
    ∃ h : Hook Bool, Reaches (fun _ _ => True) (new true true) h ∧ ¬h.Resolves := by
  refine ⟨_, .step (.timeout 1) (.step (.timeout 0) (.step (.sendHook "a" none)
    (.step (.sendHook "a" none) (.step .connectToStream .start trivial) trivial) trivial) trivial)
    trivial, fun hres => ?_⟩
  exact (hres 1 ⟨"a", true, true, .fired, []⟩ rfl).1 rfl rfl

end Hook

end Boltz
