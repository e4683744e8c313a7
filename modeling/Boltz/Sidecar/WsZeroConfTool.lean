import Boltz.Async.Transitions
import Mathlib.Data.List.Nodup
import Mathlib.Data.List.Perm.Basic

/-!
# Zero-conf checks over a websocket (`boltzr/src/chain/elements/zero_conf_tool/ws/`)

One worker owns the connection; `check_transaction` runs on other threads, as two steps: the entry
of the map, then the command. Every access to the map and every wait of the worker is a step of its
own. `frames` are the parsed frames that were handled, `ticks` the expiries of deadlines that are
over.
-/

namespace Boltz.Sidecar.WsZeroConfTool

open Boltz.Async

set_option linter.unusedSectionVars false

structure BridgeData where
  seen : Nat := 0
  total : Nat := 0
  deriving DecidableEq, Repr

structure Observations where
  bridge : Option BridgeData := none
  deriving DecidableEq, Repr

inductive Decision where
  | accept
  | pending
  deriving DecidableEq, Repr

def evaluate (observations : Option Observations) : Decision :=
  let bridge := ((observations.getD {}).bridge).getD {}
  if bridge.seen > 0 ∧ bridge.seen = bridge.total then .accept else .pending

inductive Inbound where
  | subscribed
  | snapshot (txid : String) (observations : Option Observations)
  | expired (txid : String)
  | error (txid reason message : Option String)
  deriving DecidableEq, Repr

/-- The text of a message that can not be parsed has no frame. -/
inductive Message where
  | text (frame : Option Inbound)
  | close
  | other
  deriving DecidableEq, Repr

/-- The receiver of a registration; `since` is how many frames were handled before it. -/
structure Listener where
  id : Nat
  txid : String
  since : Nat
  deriving DecidableEq, Repr

structure Verdict where
  listener : Listener
  accepted : Bool
  deriving DecidableEq, Repr

structure WsTxState where
  txid : String
  deadline : Nat
  snapshotsSeen : Nat := 0
  senders : List Listener
  deriving DecidableEq, Repr

structure WsConnection where
  subscribed : List String := []
  deriving DecidableEq, Repr

namespace WsConnection

variable (connection : WsConnection)

def isSubscribedTo (txid : String) : Bool := connection.subscribed.contains txid

/-- `sent` is whether the frame goes out. -/
def subscribe (txid : String) (sent : Bool) : Option WsConnection :=
  if connection.isSubscribedTo txid then some connection
  else if sent then some { subscribed := connection.subscribed ++ [txid] }
  else none

def unsubscribe (txid : String) (sent : Bool) : Option WsConnection :=
  if !connection.isSubscribedTo txid then some connection
  else if sent then some { subscribed := connection.subscribed.filter (· != txid) }
  else none

end WsConnection

/-- Where the worker is. -/
inductive Worker where
  /-- Connecting, or sleeping before the next try. -/
  | connecting
  | expiring (connection : Option WsConnection) (expired unsubs : List String)
  /-- `reconcile_subscriptions` on a connection that is not served yet. -/
  | reconciling (connection : WsConnection) (pending : List String)
  /-- In `select`. -/
  | serving (connection : WsConnection)
  | subscribing (connection : WsConnection) (txid : String)
  | unsubscribing (connection : WsConnection) (unsubs : List String)
  | rotating (current : WsConnection)
  | replaying (current replacement : WsConnection) (pending : List String)
  | stopped
  deriving DecidableEq, Repr

structure State where
  deadline : Nat
  time : Nat := 0
  toCheck : List WsTxState := []
  /-- Threads between the entry and the command. -/
  registering : List String := []
  commands : List String := []
  worker : Worker := .connecting
  listeners : Nat := 0
  verdicts : List Verdict := []
  frames : List Inbound := []
  ticks : Nat := 0
  deriving DecidableEq, Repr

inductive Op where
  | elapse (ms : Nat)
  | checkTransaction (txid : String)
  | send (i : Nat)
  | connected
  | tick
  | expire
  | subscribe (sent : Bool)
  | unsubscribe (sent : Bool)
  | incoming (msg : Message)
  | ping (sent : Bool)
  /-- The stream ends or fails. -/
  | disconnect
  | command
  | rotate
  | rotated (connected : Bool)
  | cancel
  deriving DecidableEq, Repr

/-- The sender goes to the entry of the transaction, or to a new one. -/
def pushSender (entry : WsTxState) (sender : Listener) : List WsTxState → List WsTxState
  | [] => [{ entry with senders := entry.senders ++ [sender] }]
  | e :: rest =>
    if e.txid = entry.txid then { e with senders := e.senders ++ [sender] } :: rest
    else e :: pushSender entry sender rest

namespace State

variable (s : State)

def containsKey (txid : String) : Bool := s.toCheck.any (·.txid == txid)

def checkTransaction (txid : String) : State :=
  let entry : WsTxState := { txid, deadline := s.time + s.deadline, senders := [] }
  let sender : Listener := { id := s.listeners, txid, since := s.frames.length }
  { s with
    toCheck := pushSender entry sender s.toCheck
    listeners := s.listeners + 1
    registering := s.registering ++ [txid] }

/-- `remove`, and a verdict for every sender of the entry. -/
def resolve (txid : String) (accepted : Bool) : State :=
  let senders := (s.toCheck.filter (·.txid == txid)).flatMap (·.senders)
  { s with
    toCheck := s.toCheck.filter (·.txid != txid)
    verdicts := s.verdicts ++ senders.map fun listener => { listener, accepted } }

def rejectAndRemove (txid : String) : State := s.resolve txid false

/-- Sending fails once the worker stopped. -/
def send (i : Nat) : Option State :=
  match s.registering[i]? with
  | some txid =>
    let s' := { s with registering := s.registering.eraseIdx i }
    match s.worker with
    | .stopped => some (s'.rejectAndRemove txid)
    | _ => some { s' with commands := s.commands ++ [txid] }
  | none => none

def collectPendingSubscribes (connection : WsConnection) : List String :=
  (s.toCheck.filter fun e => !connection.isSubscribedTo e.txid).map (·.txid)

def connected : Option State :=
  match s.worker with
  | .connecting =>
    let connection : WsConnection := {}
    let pending := s.collectPendingSubscribes connection
    some { s with worker := .reconciling connection pending }
  | _ => none

def expiredTxids : List String := (s.toCheck.filter (·.deadline ≤ s.time)).map (·.txid)

/-- A tick of `deadline_ticker`, while it is polled. -/
def tick : Option State :=
  match s.worker with
  | .connecting => some { s with worker := .expiring none s.expiredTxids [] }
  | .serving connection => some { s with worker := .expiring (some connection) s.expiredTxids [] }
  | _ => none

/-- One round of the loop of `expire_deadlines`, or its end. -/
def expire : Option State :=
  match s.worker with
  | .expiring connection (txid :: expired) unsubs =>
    let worker := .expiring connection expired (unsubs ++ [txid])
    some { s.rejectAndRemove txid with worker }
  | .expiring (some connection) [] unsubs =>
    some { s with worker := .unsubscribing connection unsubs, ticks := s.ticks + 1 }
  | .expiring none [] _ => some { s with worker := .connecting, ticks := s.ticks + 1 }
  | _ => none

/-- `subscribe` of the connection, in a loop or for one command. -/
def subscribe (sent : Bool) : Option State :=
  match s.worker with
  | .reconciling connection [] => some { s with worker := .serving connection }
  | .reconciling connection (txid :: pending) =>
    match connection.subscribe txid sent with
    | some connection => some { s with worker := .reconciling connection pending }
    | none => some { s with worker := .connecting }
  | .subscribing connection txid =>
    match connection.subscribe txid sent with
    | some connection => some { s with worker := .serving connection }
    | none => some { s with worker := .connecting }
  | .replaying _ replacement [] => some { s with worker := .serving replacement }
  | .replaying current replacement (txid :: pending) =>
    match replacement.subscribe txid sent with
    | some replacement => some { s with worker := .replaying current replacement pending }
    | none => some { s with worker := .serving current }
  | _ => none

def unsubscribe (sent : Bool) : Option State :=
  match s.worker with
  | .unsubscribing connection [] => some { s with worker := .serving connection }
  | .unsubscribing connection (txid :: unsubs) =>
    match connection.unsubscribe txid sent with
    | some connection => some { s with worker := .unsubscribing connection unsubs }
    | none => some { s with worker := .connecting }
  | _ => none

def handleSnapshot (txid : String) (observations : Option Observations) :
    State × Option (List String) :=
  match evaluate observations with
  | .accept =>
    if s.containsKey txid then (s.resolve txid true, some [txid]) else (s, none)
  | .pending =>
    let seen (e : WsTxState) : WsTxState :=
      if e.txid = txid then { e with snapshotsSeen := e.snapshotsSeen + 1 } else e
    ({ s with toCheck := s.toCheck.map seen }, none)

/-- What to unsubscribe from, and the map after the frame. -/
def handleFrame (frame : Inbound) : State × Option (List String) :=
  let s := { s with frames := s.frames ++ [frame] }
  match frame with
  | .subscribed => (s, none)
  | .snapshot txid observations => s.handleSnapshot txid observations
  | .expired txid => (s.rejectAndRemove txid, some [txid])
  | .error (some txid) _ _ => (s.rejectAndRemove txid, some [txid])
  | .error none _ _ => (s, none)

def handleMessage : Message → State × Option (List String)
  | .text (some frame) => s.handleFrame frame
  | _ => (s, none)

def incoming (msg : Message) : Option State :=
  match s.worker with
  | .serving connection =>
    match s.handleMessage msg with
    | (s, some unsubs) => some { s with worker := .unsubscribing connection unsubs }
    | (s, none) => some s
  | _ => none

/-- The worker leaves `select`. -/
def leave (worker : WsConnection → Worker) : Option State :=
  match s.worker with
  | .serving connection => some { s with worker := worker connection }
  | _ => none

def ping (sent : Bool) : Option State :=
  s.leave fun connection => if sent then .serving connection else .connecting

/-- `handle_command`, up to `subscribe` of the connection. -/
def command : Option State :=
  match s.worker, s.commands with
  | .serving connection, txid :: commands =>
    if s.containsKey txid then some { s with commands, worker := .subscribing connection txid }
    else some { s with commands }
  | _, _ => none

def rotated (connected : Bool) : Option State :=
  match s.worker with
  | .rotating current =>
    if connected then
      let replacement : WsConnection := {}
      let pending := s.collectPendingSubscribes replacement
      some { s with worker := .replaying current replacement pending }
    else some { s with worker := .serving current }
  | _ => none

def cancel : Option State :=
  match s.worker with
  | .connecting => some { s with worker := .stopped }
  | .serving _ => some { s with worker := .stopped }
  | _ => none

/-- The tool after `new_internal`, with its worker. -/
def start (deadline : Nat) : State := { deadline }

def step : Op → Option State
  | .elapse ms => some { s with time := s.time + ms }
  | .checkTransaction txid => some (s.checkTransaction txid)
  | .send i => s.send i
  | .connected => s.connected
  | .tick => s.tick
  | .expire => s.expire
  | .subscribe sent => s.subscribe sent
  | .unsubscribe sent => s.unsubscribe sent
  | .incoming msg => s.incoming msg
  | .ping sent => s.ping sent
  | .disconnect => s.leave fun _ => .connecting
  | .command => s.command
  | .rotate => s.leave .rotating
  | .rotated connected => s.rotated connected
  | .cancel => s.cancel

/-! ## Verdicts -/

variable {s s' : State} {i : Nat} {txid : String} {accepted : Bool}

/-- The listeners without a verdict. -/
def waiting (s : State) : List Listener := s.toCheck.flatMap (·.senders)

/-- Since the registration, a frame with the full quorum was handled. -/
def Justified (s : State) (listener : Listener) : Prop :=
  ∃ n observations, listener.since ≤ n ∧
    s.frames[n]? = some (.snapshot listener.txid observations) ∧ evaluate observations = .accept

structure Inv (s : State) : Prop where
  distinct : (s.verdicts.map (·.listener.id) ++ s.waiting.map (·.id)).Nodup
  fresh : ∀ id ∈ s.verdicts.map (·.listener.id) ++ s.waiting.map (·.id), id < s.listeners
  entries : ∀ e ∈ s.toCheck, ∀ listener ∈ e.senders,
    listener.txid = e.txid ∧ listener.since ≤ s.frames.length
  justified : ∀ v ∈ s.verdicts, v.accepted = true → s.Justified v.listener

theorem Inv.frame (h : Inv s) (hcheck : s'.toCheck = s.toCheck)
    (hverdicts : s'.verdicts = s.verdicts) (hlisteners : s'.listeners = s.listeners)
    (hframes : s'.frames = s.frames) : Inv s' where
  distinct := by
    rw [hverdicts, waiting, hcheck]
    exact h.distinct
  fresh := by
    rw [hverdicts, waiting, hcheck, hlisteners]
    exact h.fresh
  entries := by
    rw [hcheck, hframes]
    exact h.entries
  justified := by
    unfold Justified
    rw [hverdicts, hframes]
    exact h.justified

theorem pushSender_senders (entry : WsTxState) (sender : Listener) (l : List WsTxState)
    (hempty : entry.senders = []) :
    ((pushSender entry sender l).flatMap (·.senders)).Perm (l.flatMap (·.senders) ++ [sender]) := by
  induction l with
  | nil => simp [pushSender, hempty]
  | cons e rest ih =>
    rw [pushSender]
    split
    · simp only [List.flatMap_cons, List.append_assoc]
      exact List.Perm.append_left _ List.perm_append_comm
    · simp only [List.flatMap_cons, List.append_assoc]
      exact List.Perm.append_left _ ih

/-- An entry after a push was there before, or it got the sender. -/
theorem mem_pushSender {entry e : WsTxState} {sender : Listener} {l : List WsTxState}
    (h : e ∈ pushSender entry sender l) : e ∈ l ∨ e.txid = entry.txid ∧
      ((∃ e₀ ∈ l, e₀.txid = entry.txid ∧ e.senders = e₀.senders ++ [sender]) ∨
        e.senders = entry.senders ++ [sender]) := by
  induction l with
  | nil =>
    obtain rfl := List.mem_singleton.mp h
    exact .inr ⟨rfl, .inr rfl⟩
  | cons e₀ rest ih =>
    rw [pushSender] at h
    by_cases htxid : e₀.txid = entry.txid
    · rw [if_pos htxid] at h
      rcases List.mem_cons.mp h with rfl | h
      · exact .inr ⟨htxid, .inl ⟨e₀, List.mem_cons_self, htxid, rfl⟩⟩
      · exact .inl (List.mem_cons_of_mem _ h)
    · rw [if_neg htxid] at h
      rcases List.mem_cons.mp h with rfl | h
      · exact .inl List.mem_cons_self
      · rcases ih h with h | ⟨htxid', ⟨e₁, he₁, hcases⟩ | hnew⟩
        · exact .inl (List.mem_cons_of_mem _ h)
        · exact .inr ⟨htxid', .inl ⟨e₁, List.mem_cons_of_mem _ he₁, hcases⟩⟩
        · exact .inr ⟨htxid', .inr hnew⟩

/-- A push keeps the senders of every entry. -/
theorem mem_pushSender_of_mem {e : WsTxState} (entry : WsTxState) (sender : Listener)
    {l : List WsTxState} (h : e ∈ l) :
    ∃ e' ∈ pushSender entry sender l, e'.txid = e.txid ∧ e.senders ⊆ e'.senders := by
  induction l with
  | nil => exact absurd h List.not_mem_nil
  | cons e₀ rest ih =>
    rw [pushSender]
    by_cases htxid : e₀.txid = entry.txid
    · rw [if_pos htxid]
      rcases List.mem_cons.mp h with rfl | h
      · exact ⟨_, List.mem_cons_self, rfl, List.subset_append_left _ _⟩
      · exact ⟨e, List.mem_cons_of_mem _ h, rfl, List.Subset.refl _⟩
    · rw [if_neg htxid]
      rcases List.mem_cons.mp h with rfl | h
      · exact ⟨e, List.mem_cons_self, rfl, List.Subset.refl _⟩
      · obtain ⟨e', he', hkept⟩ := ih h
        exact ⟨e', List.mem_cons_of_mem _ he', hkept⟩

theorem Inv.checkTransaction (h : Inv s) (txid : String) : Inv (s.checkTransaction txid) := by
  have hperm := pushSender_senders { txid, deadline := s.time + s.deadline, senders := [] }
    { id := s.listeners, txid, since := s.frames.length } s.toCheck rfl
  have hids : (s.verdicts.map (·.listener.id) ++ (s.checkTransaction txid).waiting.map (·.id)).Perm
      (s.verdicts.map (·.listener.id) ++ s.waiting.map (·.id) ++ [s.listeners]) := by
    rw [List.append_assoc]
    refine List.Perm.append_left _ ?_
    have := hperm.map (·.id)
    rwa [List.map_append] at this
  constructor
  · refine hids.nodup_iff.mpr (List.nodup_append.mpr ⟨h.distinct, List.nodup_singleton _, ?_⟩)
    intro a ha b hb hab
    obtain rfl := List.mem_singleton.mp hb
    have hlt := h.fresh a ha
    omega
  · intro id hid
    rcases List.mem_append.mp (hids.mem_iff.mp hid) with hold | hnew
    · exact Nat.lt_succ_of_lt (h.fresh id hold)
    · rw [List.mem_singleton.mp hnew]
      exact Nat.lt_succ_self _
  · intro e he listener hl
    rcases mem_pushSender he with he | ⟨htxid, ⟨e₀, he₀, htxid₀, hsenders⟩ | hsenders⟩
    · exact h.entries e he listener hl
    · rw [hsenders] at hl
      rcases List.mem_append.mp hl with hl | hl
      · obtain ⟨htx, hsince⟩ := h.entries e₀ he₀ listener hl
        exact ⟨htx.trans (htxid₀.trans htxid.symm), hsince⟩
      · obtain rfl := List.mem_singleton.mp hl
        exact ⟨htxid.symm, Nat.le_refl _⟩
    · rw [hsenders] at hl
      obtain rfl := List.mem_singleton.mp hl
      exact ⟨htxid.symm, Nat.le_refl _⟩
  · exact h.justified

/-- What an entry leaves and what stays are all the senders. -/
theorem resolve_perm (s : State) (txid : String) (accepted : Bool) :
    ((s.resolve txid accepted).verdicts.map (·.listener.id) ++
        (s.resolve txid accepted).waiting.map (·.id)).Perm
      (s.verdicts.map (·.listener.id) ++ s.waiting.map (·.id)) := by
  have hperm := (List.filter_append_perm (·.txid == txid) s.toCheck).flatMap_right (·.senders)
  rw [List.flatMap_append] at hperm
  simp only [resolve, waiting, List.map_append, List.map_map, List.append_assoc]
  refine List.Perm.append_left _ ?_
  have hmap := hperm.map (·.id)
  rw [List.map_append] at hmap
  exact hmap

theorem Inv.resolve (h : Inv s) (hquorum : accepted = true → ∀ e ∈ s.toCheck, e.txid = txid →
    ∀ listener ∈ e.senders, s.Justified listener) : Inv (s.resolve txid accepted) where
  distinct := (resolve_perm s txid accepted).nodup_iff.mpr h.distinct
  fresh id hid := h.fresh id ((resolve_perm s txid accepted).mem_iff.mp hid)
  entries e he := h.entries e (List.mem_filter.mp he).1
  justified v hv haccepted := by
    rcases List.mem_append.mp hv with hv | hv
    · exact h.justified v hv haccepted
    obtain ⟨listener, hl, rfl⟩ := List.mem_map.mp hv
    obtain ⟨e, he, hsender⟩ := List.mem_flatMap.mp hl
    obtain ⟨he, htxid⟩ := List.mem_filter.mp he
    exact hquorum haccepted e he (eq_of_beq htxid) listener hsender

theorem Inv.rejectAndRemove (h : Inv s) (txid : String) : Inv (s.rejectAndRemove txid) :=
  h.resolve fun haccepted => Bool.noConfusion haccepted

theorem Justified.append {listener : Listener} (h : s.Justified listener) (frame : Inbound) :
    Justified { s with frames := s.frames ++ [frame] } listener := by
  obtain ⟨n, observations, hsince, hframe, haccept⟩ := h
  refine ⟨n, observations, hsince, ?_, haccept⟩
  obtain ⟨hlt, -⟩ := List.getElem?_eq_some_iff.mp hframe
  exact (List.getElem?_append_left hlt).trans hframe

theorem Inv.received (h : Inv s) (frame : Inbound) :
    Inv { s with frames := s.frames ++ [frame] } where
  distinct := h.distinct
  fresh := h.fresh
  entries e he listener hl := by
    obtain ⟨htxid, hsince⟩ := h.entries e he listener hl
    refine ⟨htxid, ?_⟩
    rw [List.length_append]
    omega
  justified v hv haccepted := (h.justified v hv haccepted).append frame

theorem Inv.seen (h : Inv s) {seen : WsTxState → WsTxState}
    (htxid : ∀ e, (seen e).txid = e.txid) (hsenders : ∀ e, (seen e).senders = e.senders) :
    Inv { s with toCheck := s.toCheck.map seen } := by
  have hwaiting : waiting { s with toCheck := s.toCheck.map seen } = s.waiting := by
    simp only [waiting, List.flatMap_map, hsenders]
  refine ⟨?_, ?_, ?_, h.justified⟩
  · rw [hwaiting]
    exact h.distinct
  · rw [hwaiting]
    exact h.fresh
  · intro e he listener hl
    obtain ⟨e₀, he₀, rfl⟩ := List.mem_map.mp he
    rw [hsenders] at hl
    rw [htxid]
    exact h.entries e₀ he₀ listener hl

theorem Inv.handleFrame (h : Inv s) (frame : Inbound) : Inv (s.handleFrame frame).1 := by
  have hreceived := h.received frame
  cases frame with
  | subscribed => exact hreceived
  | expired txid => exact hreceived.rejectAndRemove txid
  | error txid reason message =>
    cases txid with
    | none => exact hreceived
    | some txid => exact hreceived.rejectAndRemove txid
  | snapshot txid observations =>
    simp only [State.handleFrame, handleSnapshot]
    split
    · next haccept =>
      split
      · refine hreceived.resolve ?_
        intro _ e he htxid listener hl
        obtain ⟨htx, hsince⟩ := h.entries e he listener hl
        refine ⟨s.frames.length, observations, hsince, ?_, haccept⟩
        rw [htx, htxid]
        exact List.getElem?_concat_length
      · exact hreceived
    · refine hreceived.seen ?_ ?_
      · intro e
        split
        all_goals rfl
      · intro e
        split
        all_goals rfl

theorem Inv.incoming (h : Inv s) {msg : Message} (hstep : s.incoming msg = some s') : Inv s' := by
  have hmsg : Inv (s.handleMessage msg).1 := by
    cases msg with
    | text frame =>
      cases frame with
      | none => exact h
      | some frame => exact h.handleFrame frame
    | close => exact h
    | other => exact h
  unfold State.incoming at hstep
  split at hstep
  · split at hstep
    · next heq =>
      rw [heq] at hmsg
      obtain rfl := Option.some.inj hstep
      exact hmsg.frame rfl rfl rfl rfl
    · next heq =>
      rw [heq] at hmsg
      obtain rfl := Option.some.inj hstep
      exact hmsg
  · exact absurd hstep (Option.some_ne_none s').symm

theorem Inv.send (h : Inv s) (hstep : s.send i = some s') : Inv s' := by
  unfold State.send at hstep
  split at hstep
  · split at hstep
    · obtain rfl := Option.some.inj hstep
      refine Inv.rejectAndRemove ?_ _
      exact h.frame rfl rfl rfl rfl
    · obtain rfl := Option.some.inj hstep
      exact h.frame rfl rfl rfl rfl
  · exact absurd hstep (Option.some_ne_none s').symm

theorem Inv.expire (h : Inv s) (hstep : s.expire = some s') : Inv s' := by
  unfold State.expire at hstep
  split at hstep
  · obtain rfl := Option.some.inj hstep
    exact (h.rejectAndRemove _).frame rfl rfl rfl rfl
  · obtain rfl := Option.some.inj hstep
    exact h.frame rfl rfl rfl rfl
  · obtain rfl := Option.some.inj hstep
    exact h.frame rfl rfl rfl rfl
  · exact absurd hstep (Option.some_ne_none s').symm

/-! ## Subscriptions -/

end State

theorem WsConnection.mem_of_subscribe {connection connection' : WsConnection} {txid : String}
    {sent : Bool} (h : connection.subscribe txid sent = some connection') :
    txid ∈ connection'.subscribed ∧ ∀ t ∈ connection.subscribed, t ∈ connection'.subscribed := by
  unfold subscribe at h
  split at h
  · next hsubscribed =>
    obtain rfl := Option.some.inj h
    exact ⟨List.contains_iff_mem.mp hsubscribed, fun t ht => ht⟩
  · split at h
    · obtain rfl := Option.some.inj h
      exact ⟨List.mem_append_right _ (List.mem_singleton_self txid),
        fun t ht => List.mem_append_left _ ht⟩
    · exact absurd h (Option.some_ne_none connection').symm

theorem WsConnection.mem_of_unsubscribe {connection connection' : WsConnection} {txid t : String}
    {sent : Bool} (h : connection.unsubscribe txid sent = some connection') (hne : t ≠ txid)
    (ht : t ∈ connection.subscribed) : t ∈ connection'.subscribed := by
  unfold unsubscribe at h
  split at h
  · obtain rfl := Option.some.inj h
    exact ht
  · split at h
    · obtain rfl := Option.some.inj h
      exact List.mem_filter.mpr ⟨ht, bne_iff_ne.mpr hne⟩
    · exact absurd h (Option.some_ne_none connection').symm

/-- The sets of transactions the worker takes care of, without their commands: those of the live
connection, and while it is replaced those of its replacement. -/
def Worker.covers : Worker → List (String → Prop)
  | .connecting => []
  | .expiring none _ _ => []
  | .expiring (some connection) _ unsubs => [fun t => t ∈ connection.subscribed ∧ t ∉ unsubs]
  | .reconciling connection pending => [fun t => t ∈ connection.subscribed ∨ t ∈ pending]
  | .serving connection => [fun t => t ∈ connection.subscribed]
  | .subscribing connection txid => [fun t => t ∈ connection.subscribed ∨ t = txid]
  | .unsubscribing connection unsubs => [fun t => t ∈ connection.subscribed ∧ t ∉ unsubs]
  | .rotating current => [fun t => t ∈ current.subscribed]
  | .replaying current replacement pending =>
    [fun t => t ∈ current.subscribed, fun t => t ∈ replacement.subscribed ∨ t ∈ pending]
  | .stopped => []

/-- Every set of the second worker state contains one of the first. -/
def Worker.Keeps (worker worker' : Worker) : Prop :=
  ∀ covers' ∈ worker'.covers, ∃ covers ∈ worker.covers, ∀ t, covers t → covers' t

namespace State

variable {s s' : State} {i : Nat} {txid : String} {covers : String → Prop}

def CoveredBy (covers : String → Prop) (s : State) : Prop :=
  ∀ e ∈ s.toCheck, covers e.txid ∨ e.txid ∈ s.commands ∨ e.txid ∈ s.registering

def Covered (s : State) : Prop := ∀ covers ∈ s.worker.covers, s.CoveredBy covers

theorem Covered.keeps {worker : Worker} (h : s.Covered) (hkeeps : s.worker.Keeps worker) :
    Covered { s with worker } := by
  intro covers' hcovers' e he
  obtain ⟨covers, hcovers, himp⟩ := hkeeps covers' hcovers'
  exact (h covers hcovers e he).imp_left (himp e.txid)

theorem keeps_nil {worker worker' : Worker} (h : worker'.covers = []) : worker.Keeps worker' := by
  intro covers' hcovers'
  rw [h] at hcovers'
  exact absurd hcovers' List.not_mem_nil

theorem keeps_one {worker worker' : Worker} {covers covers' : String → Prop}
    (h : covers ∈ worker.covers) (h' : worker'.covers = [covers'])
    (himp : ∀ t, covers t → covers' t) : worker.Keeps worker' := by
  intro c hc
  rw [h'] at hc
  obtain rfl := List.mem_singleton.mp hc
  exact ⟨covers, h, himp⟩

theorem leave_cases {next : WsConnection → Worker} (h : s.leave next = some s') :
    ∃ connection, s.worker = .serving connection ∧ s' = { s with worker := next connection } := by
  unfold leave at h
  split at h
  · next connection hworker => exact ⟨connection, hworker, (Option.some.inj h).symm⟩
  · exact absurd h (Option.some_ne_none s').symm

theorem ping_keeps {sent : Bool} (h : s.ping sent = some s') :
    ∃ worker, s' = { s with worker } ∧ s.worker.Keeps worker := by
  obtain ⟨connection, hworker, rfl⟩ := leave_cases h
  refine ⟨_, rfl, ?_⟩
  rw [hworker]
  cases sent with
  | true => exact keeps_one (List.mem_singleton_self _) rfl fun t ht => ht
  | false => exact keeps_nil rfl

theorem disconnect_keeps (h : (s.leave fun _ => .connecting) = some s') :
    ∃ worker, s' = { s with worker } ∧ s.worker.Keeps worker := by
  obtain ⟨connection, hworker, rfl⟩ := leave_cases h
  exact ⟨_, rfl, keeps_nil rfl⟩

theorem rotate_keeps (h : s.leave .rotating = some s') :
    ∃ worker, s' = { s with worker } ∧ s.worker.Keeps worker := by
  obtain ⟨connection, hworker, rfl⟩ := leave_cases h
  refine ⟨_, rfl, ?_⟩
  rw [hworker]
  exact keeps_one (List.mem_singleton_self _) rfl fun t ht => ht

theorem cancel_keeps (h : s.cancel = some s') :
    ∃ worker, s' = { s with worker } ∧ s.worker.Keeps worker := by
  unfold cancel at h
  split at h
  · exact ⟨_, (Option.some.inj h).symm, keeps_nil rfl⟩
  · exact ⟨_, (Option.some.inj h).symm, keeps_nil rfl⟩
  · exact absurd h (Option.some_ne_none s').symm

theorem tick_keeps (h : s.tick = some s') :
    ∃ worker, s' = { s with worker } ∧ s.worker.Keeps worker := by
  unfold tick at h
  split at h
  · exact ⟨_, (Option.some.inj h).symm, keeps_nil rfl⟩
  · next connection hworker =>
    refine ⟨_, (Option.some.inj h).symm, ?_⟩
    rw [hworker]
    exact keeps_one (List.mem_singleton_self _) rfl fun t ht => ⟨ht, List.not_mem_nil⟩
  · exact absurd h (Option.some_ne_none s').symm

theorem subscribe_keeps {sent : Bool} (h : s.subscribe sent = some s') :
    ∃ worker, s' = { s with worker } ∧ s.worker.Keeps worker := by
  unfold subscribe at h
  split at h
  · next connection hworker =>
    refine ⟨_, (Option.some.inj h).symm, ?_⟩
    rw [hworker]
    refine keeps_one (List.mem_singleton_self _) rfl ?_
    rintro t (ht | ht)
    · exact ht
    · exact absurd ht List.not_mem_nil
  · next connection txid pending hworker =>
    split at h
    · next connection' hsubscribe =>
      obtain ⟨htxid, hmono⟩ := WsConnection.mem_of_subscribe hsubscribe
      refine ⟨_, (Option.some.inj h).symm, ?_⟩
      rw [hworker]
      refine keeps_one (List.mem_singleton_self _) rfl ?_
      rintro t (ht | ht)
      · exact .inl (hmono t ht)
      · rcases List.mem_cons.mp ht with rfl | ht
        · exact .inl htxid
        · exact .inr ht
    · exact ⟨_, (Option.some.inj h).symm, keeps_nil rfl⟩
  · next connection txid hworker =>
    split at h
    · next connection' hsubscribe =>
      obtain ⟨htxid, hmono⟩ := WsConnection.mem_of_subscribe hsubscribe
      refine ⟨_, (Option.some.inj h).symm, ?_⟩
      rw [hworker]
      refine keeps_one (List.mem_singleton_self _) rfl ?_
      rintro t (ht | rfl)
      · exact hmono t ht
      · exact htxid
    · exact ⟨_, (Option.some.inj h).symm, keeps_nil rfl⟩
  · next current replacement hworker =>
    refine ⟨_, (Option.some.inj h).symm, ?_⟩
    rw [hworker]
    refine keeps_one (List.mem_cons_of_mem _ (List.mem_singleton_self _)) rfl ?_
    rintro t (ht | ht)
    · exact ht
    · exact absurd ht List.not_mem_nil
  · next current replacement txid pending hworker =>
    split at h
    · next replacement' hsubscribe =>
      obtain ⟨htxid, hmono⟩ := WsConnection.mem_of_subscribe hsubscribe
      refine ⟨_, (Option.some.inj h).symm, ?_⟩
      rw [hworker]
      intro covers' hcovers'
      rcases List.mem_cons.mp hcovers' with rfl | hcovers'
      · exact ⟨_, List.mem_cons_self, fun t ht => ht⟩
      obtain rfl := List.mem_singleton.mp hcovers'
      refine ⟨_, List.mem_cons_of_mem _ (List.mem_singleton_self _), ?_⟩
      rintro t (ht | ht)
      · exact .inl (hmono t ht)
      · rcases List.mem_cons.mp ht with rfl | ht
        · exact .inl htxid
        · exact .inr ht
    · refine ⟨_, (Option.some.inj h).symm, ?_⟩
      rw [hworker]
      exact keeps_one List.mem_cons_self rfl fun t ht => ht
  · exact absurd h (Option.some_ne_none s').symm

theorem unsubscribe_keeps {sent : Bool} (h : s.unsubscribe sent = some s') :
    ∃ worker, s' = { s with worker } ∧ s.worker.Keeps worker := by
  unfold unsubscribe at h
  split at h
  · next connection hworker =>
    refine ⟨_, (Option.some.inj h).symm, ?_⟩
    rw [hworker]
    exact keeps_one (List.mem_singleton_self _) rfl fun t ht => ht.1
  · next connection txid unsubs hworker =>
    split at h
    · next connection' hunsubscribe =>
      refine ⟨_, (Option.some.inj h).symm, ?_⟩
      rw [hworker]
      refine keeps_one (List.mem_singleton_self _) rfl ?_
      rintro t ⟨ht, hnot⟩
      obtain ⟨hne, hnot⟩ := not_or.mp (List.mem_cons.not.mp hnot)
      exact ⟨WsConnection.mem_of_unsubscribe hunsubscribe hne ht, hnot⟩
    · exact ⟨_, (Option.some.inj h).symm, keeps_nil rfl⟩
  · exact absurd h (Option.some_ne_none s').symm

theorem Covered.checkTransaction (h : s.Covered) (txid : String) :
    (s.checkTransaction txid).Covered := by
  intro covers hcovers e he
  rcases mem_pushSender he with he | ⟨htxid, -⟩
  · exact (h covers hcovers e he).imp_right (Or.imp_right (List.mem_append_left _))
  · refine .inr (.inr ?_)
    rw [htxid]
    exact List.mem_append_right _ (List.mem_singleton_self txid)

theorem Covered.send (h : s.Covered) (hstep : s.send i = some s') : s'.Covered := by
  unfold State.send at hstep
  split at hstep
  · next txid hget =>
    split at hstep
    · next hworker =>
      obtain rfl := Option.some.inj hstep
      intro covers hcovers
      rw [show State.worker _ = .stopped from hworker] at hcovers
      exact absurd hcovers List.not_mem_nil
    · obtain rfl := Option.some.inj hstep
      intro covers hcovers e he
      rcases h covers hcovers e he with hc | hc | hc
      · exact .inl hc
      · exact .inr (.inl (List.mem_append_left _ hc))
      · rcases mem_eraseIdx_or hget hc with heq | hc
        · exact .inr (.inl (List.mem_append_right _ (List.mem_singleton.mpr heq)))
        · exact .inr (.inr hc)
  · exact absurd hstep (Option.some_ne_none s').symm

theorem coveredBy_collect (s : State) (connection : WsConnection) : s.CoveredBy fun t =>
    t ∈ connection.subscribed ∨ t ∈ s.collectPendingSubscribes connection := by
  intro e he
  refine .inl ?_
  by_cases hsubscribed : connection.isSubscribedTo e.txid = true
  · exact .inl (List.contains_iff_mem.mp hsubscribed)
  · refine .inr (List.mem_map.mpr ⟨e, List.mem_filter.mpr ⟨he, ?_⟩, rfl⟩)
    have hfalse : connection.isSubscribedTo e.txid = false := Bool.not_eq_true _ ▸ hsubscribed
    rw [hfalse]
    rfl

theorem connected_cases (hstep : s.connected = some s') :
    ∃ worker, s' = { s with worker } ∧
      worker.covers = [fun t => t ∈ ({} : WsConnection).subscribed ∨
        t ∈ s.collectPendingSubscribes {}] := by
  unfold connected at hstep
  split at hstep
  · exact ⟨_, (Option.some.inj hstep).symm, rfl⟩
  · exact absurd hstep (Option.some_ne_none s').symm

theorem Covered.connected (hstep : s.connected = some s') : s'.Covered := by
  obtain ⟨worker, rfl, hcovers⟩ := connected_cases hstep
  intro covers hmem
  rw [show State.worker _ = worker from rfl, hcovers] at hmem
  obtain rfl := List.mem_singleton.mp hmem
  exact coveredBy_collect s {}

theorem rotated_cases {connected : Bool} (hstep : s.rotated connected = some s') :
    ∃ current worker, s.worker = .rotating current ∧ s' = { s with worker } ∧
      ∀ covers ∈ worker.covers, covers = (fun t => t ∈ current.subscribed) ∨
        covers = fun t => t ∈ ({} : WsConnection).subscribed ∨
          t ∈ s.collectPendingSubscribes {} := by
  unfold rotated at hstep
  split at hstep
  · next current hworker =>
    split at hstep
    · refine ⟨current, _, hworker, (Option.some.inj hstep).symm, ?_⟩
      intro covers hcovers
      rcases List.mem_cons.mp hcovers with rfl | hcovers
      · exact .inl rfl
      · exact .inr (List.mem_singleton.mp hcovers)
    · refine ⟨current, _, hworker, (Option.some.inj hstep).symm, ?_⟩
      intro covers hcovers
      exact .inl (List.mem_singleton.mp hcovers)
  · exact absurd hstep (Option.some_ne_none s').symm

theorem Covered.rotated {connected : Bool} (h : s.Covered)
    (hstep : s.rotated connected = some s') : s'.Covered := by
  obtain ⟨current, worker, hworker, rfl, hcases⟩ := rotated_cases hstep
  intro covers hcovers
  rcases hcases covers hcovers with rfl | rfl
  · have hcurrent : (fun t => t ∈ current.subscribed) ∈ s.worker.covers := by
      rw [hworker]
      exact List.mem_singleton_self _
    exact h _ hcurrent
  · exact coveredBy_collect s {}

theorem Covered.expire (h : s.Covered) (hstep : s.expire = some s') : s'.Covered := by
  unfold State.expire at hstep
  split at hstep
  · next connection txid expired unsubs hworker =>
    obtain rfl := Option.some.inj hstep
    intro covers hcovers e he
    cases connection with
    | none => exact absurd hcovers List.not_mem_nil
    | some connection =>
      obtain rfl := List.mem_singleton.mp hcovers
      obtain ⟨he, hne⟩ := List.mem_filter.mp he
      have hold := h (fun t => t ∈ connection.subscribed ∧ t ∉ unsubs)
        (by rw [hworker]; exact List.mem_singleton_self _) e he
      refine hold.imp_left ?_
      rintro ⟨hsubscribed, hnot⟩
      refine ⟨hsubscribed, ?_⟩
      intro hmem
      rcases List.mem_append.mp hmem with hmem | hmem
      · exact hnot hmem
      · exact bne_iff_ne.mp hne (List.mem_singleton.mp hmem)
  · next connection unsubs hworker =>
    obtain rfl := Option.some.inj hstep
    have hkept : Covered { s with worker := .unsubscribing connection unsubs } := by
      refine h.keeps ?_
      rw [hworker]
      exact keeps_one (List.mem_singleton_self _) rfl fun t ht => ht
    exact hkept
  · obtain rfl := Option.some.inj hstep
    intro covers hcovers
    exact absurd hcovers List.not_mem_nil
  · exact absurd hstep (Option.some_ne_none s').symm

theorem Covered.command (h : s.Covered) (hstep : s.command = some s') : s'.Covered := by
  unfold State.command at hstep
  split at hstep
  · next connection txid commands hworker hcommands =>
    have hserving := h (fun t => t ∈ connection.subscribed)
      (by rw [hworker]; exact List.mem_singleton_self _)
    split at hstep
    · obtain rfl := Option.some.inj hstep
      intro covers hcovers e he
      obtain rfl := List.mem_singleton.mp hcovers
      rcases hserving e he with hc | hc | hc
      · exact .inl (.inl hc)
      · rw [hcommands] at hc
        rcases List.mem_cons.mp hc with heq | hc
        · exact .inl (.inr heq)
        · exact .inr (.inl hc)
      · exact .inr (.inr hc)
    · next habsent =>
      obtain rfl := Option.some.inj hstep
      intro covers hcovers e he
      rw [show State.worker _ = .serving connection from hworker] at hcovers
      obtain rfl := List.mem_singleton.mp hcovers
      rcases hserving e he with hc | hc | hc
      · exact .inl hc
      · rw [hcommands] at hc
        rcases List.mem_cons.mp hc with heq | hc
        · have hpresent : s.containsKey txid = true :=
            List.any_eq_true.mpr ⟨e, he, beq_iff_eq.mpr heq⟩
          exact absurd hpresent habsent
        · exact .inr (.inl hc)
      · exact .inr (.inr hc)
  · exact absurd hstep (Option.some_ne_none s').symm

/-- What a frame does to the map and to the rest. -/
structure Handled (s : State) (result : State × Option (List String)) : Prop where
  worker : result.1.worker = s.worker
  commands : result.1.commands = s.commands
  registering : result.1.registering = s.registering
  entries : ∀ e ∈ result.1.toCheck, ∃ e₀ ∈ s.toCheck, e₀.txid = e.txid
  unsubs : ∀ unsubs, result.2 = some unsubs → ∀ e ∈ result.1.toCheck, e.txid ∉ unsubs

theorem Handled.none (s : State) : Handled s (s, none) :=
  ⟨rfl, rfl, rfl, fun e he => ⟨e, he, rfl⟩, fun unsubs h =>
    absurd h (Option.some_ne_none unsubs).symm⟩

theorem handled_resolve (s : State) (txid : String) (accepted : Bool) :
    Handled s (s.resolve txid accepted, some [txid]) where
  worker := rfl
  commands := rfl
  registering := rfl
  entries e he := ⟨e, (List.mem_filter.mp he).1, rfl⟩
  unsubs unsubs h e he hmem := by
    obtain rfl := Option.some.inj h
    exact bne_iff_ne.mp (List.mem_filter.mp he).2 (List.mem_singleton.mp hmem)

theorem handled_frame (s : State) (frame : Inbound) : Handled s (s.handleFrame frame) := by
  let s₁ := { s with frames := s.frames ++ [frame] }
  have hlift : ∀ {result}, Handled s₁ result → Handled s result :=
    fun h => ⟨h.worker, h.commands, h.registering, h.entries, h.unsubs⟩
  cases frame with
  | subscribed => exact hlift (Handled.none s₁)
  | expired txid => exact hlift (handled_resolve s₁ txid false)
  | error txid reason message =>
    cases txid with
    | none => exact hlift (Handled.none s₁)
    | some txid => exact hlift (handled_resolve s₁ txid false)
  | snapshot txid observations =>
    refine hlift ?_
    simp only [handleFrame, handleSnapshot]
    split
    · split
      · exact handled_resolve s₁ txid true
      · exact Handled.none s₁
    · refine ⟨rfl, rfl, rfl, ?_, fun unsubs h => absurd h (Option.some_ne_none unsubs).symm⟩
      intro e he
      obtain ⟨e₀, he₀, rfl⟩ := List.mem_map.mp he
      refine ⟨e₀, he₀, ?_⟩
      split
      all_goals rfl

theorem handled_message (s : State) (msg : Message) : Handled s (s.handleMessage msg) := by
  cases msg with
  | text frame =>
    cases frame with
    | none => exact Handled.none s
    | some frame => exact handled_frame s frame
  | close => exact Handled.none s
  | other => exact Handled.none s

theorem Covered.incoming {msg : Message} (h : s.Covered) (hstep : s.incoming msg = some s') :
    s'.Covered := by
  have hmsg := handled_message s msg
  unfold State.incoming at hstep
  split at hstep
  · next connection hworker =>
    have hserving : ∀ e ∈ (s.handleMessage msg).1.toCheck, e.txid ∈ connection.subscribed ∨
        e.txid ∈ (s.handleMessage msg).1.commands ∨
          e.txid ∈ (s.handleMessage msg).1.registering := by
      intro e he
      obtain ⟨e₀, he₀, htxid⟩ := hmsg.entries e he
      rw [hmsg.commands, hmsg.registering, ← htxid]
      exact h (fun t => t ∈ connection.subscribed)
        (by rw [hworker]; exact List.mem_singleton_self _) e₀ he₀
    split at hstep
    · next s₁ unsubs heq =>
      rw [heq] at hmsg hserving
      obtain rfl := Option.some.inj hstep
      intro covers hcovers e he
      obtain rfl := List.mem_singleton.mp hcovers
      exact (hserving e he).imp_left fun hc => ⟨hc, hmsg.unsubs unsubs rfl e he⟩
    · next s₁ heq =>
      rw [heq] at hmsg hserving
      obtain rfl := Option.some.inj hstep
      intro covers hcovers
      rw [show s₁.worker = .serving connection from hmsg.worker.trans hworker] at hcovers
      obtain rfl := List.mem_singleton.mp hcovers
      exact hserving
  · exact absurd hstep (Option.some_ne_none s').symm

/-! ## Deadlines -/

def Resolved (listener : Listener) (s : State) : Prop := ∃ v ∈ s.verdicts, v.listener = listener

/-- Since `s₀` the listener got its verdict, or the expiry that is under way still has its entry. -/
structure Expiring (listener : Listener) (txid : String) (s₀ s : State) : Prop where
  found : s.Resolved listener ∨ s.ticks = s₀.ticks ∧
    (∃ e ∈ s.toCheck, e.txid = txid ∧ listener ∈ e.senders) ∧
    ∃ connection expired unsubs, s.worker = .expiring connection expired unsubs ∧ txid ∈ expired

theorem verdicts_step {op : Op} (hstep : s.step op = some s') : s.verdicts ⊆ s'.verdicts := by
  have hrfl := List.Subset.refl s.verdicts
  cases op with
  | elapse ms => exact Option.some.inj hstep ▸ hrfl
  | checkTransaction txid => exact Option.some.inj hstep ▸ hrfl
  | send i =>
    have hstep : s.send i = some s' := hstep
    unfold send at hstep
    split at hstep
    · split at hstep
      · exact Option.some.inj hstep ▸ List.subset_append_left _ _
      · exact Option.some.inj hstep ▸ hrfl
    · exact absurd hstep (Option.some_ne_none s').symm
  | connected =>
    obtain ⟨worker, rfl, -⟩ := connected_cases hstep
    exact hrfl
  | tick =>
    obtain ⟨worker, rfl, -⟩ := tick_keeps hstep
    exact hrfl
  | expire =>
    have hstep : s.expire = some s' := hstep
    unfold expire at hstep
    split at hstep
    · exact Option.some.inj hstep ▸ List.subset_append_left _ _
    · exact Option.some.inj hstep ▸ hrfl
    · exact Option.some.inj hstep ▸ hrfl
    · exact absurd hstep (Option.some_ne_none s').symm
  | subscribe sent =>
    obtain ⟨worker, rfl, -⟩ := subscribe_keeps hstep
    exact hrfl
  | unsubscribe sent =>
    obtain ⟨worker, rfl, -⟩ := unsubscribe_keeps hstep
    exact hrfl
  | incoming msg =>
    have hmsg : s.verdicts ⊆ (s.handleMessage msg).1.verdicts := by
      cases msg with
      | text frame =>
        cases frame with
        | none => exact hrfl
        | some frame =>
          cases frame with
          | subscribed => exact hrfl
          | expired txid => exact List.subset_append_left _ _
          | error txid reason message =>
            cases txid with
            | none => exact hrfl
            | some txid => exact List.subset_append_left _ _
          | snapshot txid observations =>
            simp only [handleMessage, handleFrame, handleSnapshot]
            split
            · split
              · exact List.subset_append_left _ _
              · exact hrfl
            · exact hrfl
      | close => exact hrfl
      | other => exact hrfl
    have hstep : s.incoming msg = some s' := hstep
    unfold incoming at hstep
    split at hstep
    · split at hstep
      · next heq =>
        rw [heq] at hmsg
        exact Option.some.inj hstep ▸ hmsg
      · next heq =>
        rw [heq] at hmsg
        exact Option.some.inj hstep ▸ hmsg
    · exact absurd hstep (Option.some_ne_none s').symm
  | ping sent =>
    obtain ⟨worker, rfl, -⟩ := ping_keeps hstep
    exact hrfl
  | disconnect =>
    obtain ⟨worker, rfl, -⟩ := disconnect_keeps hstep
    exact hrfl
  | command =>
    have hstep : s.command = some s' := hstep
    unfold command at hstep
    split at hstep
    · split at hstep
      all_goals exact Option.some.inj hstep ▸ hrfl
    · exact absurd hstep (Option.some_ne_none s').symm
  | rotate =>
    obtain ⟨worker, rfl, -⟩ := rotate_keeps hstep
    exact hrfl
  | rotated connected =>
    obtain ⟨current, worker, -, rfl, -⟩ := rotated_cases hstep
    exact hrfl
  | cancel =>
    obtain ⟨worker, rfl, -⟩ := cancel_keeps hstep
    exact hrfl

/-- While deadlines are expired, the worker does nothing else. -/
theorem step_of_expiring {op : Op} {connection : Option WsConnection} {expired unsubs : List String}
    (hworker : s.worker = .expiring connection expired unsubs) (hstep : s.step op = some s') :
    (∃ ms, op = .elapse ms) ∨ (∃ txid, op = .checkTransaction txid) ∨ (∃ i, op = .send i) ∨
      op = .expire := by
  cases op with
  | elapse ms => exact .inl ⟨ms, rfl⟩
  | checkTransaction txid => exact .inr (.inl ⟨txid, rfl⟩)
  | send i => exact .inr (.inr (.inl ⟨i, rfl⟩))
  | expire => exact .inr (.inr (.inr rfl))
  | connected | tick | subscribe | unsubscribe | incoming | ping | disconnect | command | rotate |
      rotated | cancel =>
    simp [step, connected, tick, subscribe, unsubscribe, incoming, ping, leave, command, rotated,
      cancel, hworker] at hstep

theorem Resolved.resolve {listener : Listener} {e : WsTxState} (he : e ∈ s.toCheck)
    (hl : listener ∈ e.senders) (accepted : Bool) :
    (s.resolve e.txid accepted).Resolved listener := by
  refine ⟨{ listener, accepted }, List.mem_append_right _ (List.mem_map.mpr ⟨listener, ?_, rfl⟩),
    rfl⟩
  exact List.mem_flatMap.mpr ⟨e, List.mem_filter.mpr ⟨he, beq_self_eq_true _⟩, hl⟩

theorem expiring_step (listener : Listener) (txid : String) (s₀ s : State) (op : Op) (s' : State)
    (h : Expiring listener txid s₀ s) (hstep : s.step op = some s') :
    Expiring listener txid s₀ s' := by
  rcases h.found with ⟨v, hv, hlistener⟩ | ⟨hticks, ⟨e, he, htxid, hl⟩, connection, expired, unsubs,
    hworker, hmem⟩
  · exact ⟨.inl ⟨v, verdicts_step hstep hv, hlistener⟩⟩
  rcases step_of_expiring hworker hstep with ⟨ms, rfl⟩ | ⟨txid', rfl⟩ | ⟨i, rfl⟩ | rfl
  · obtain rfl := Option.some.inj hstep
    exact ⟨.inr ⟨hticks, ⟨e, he, htxid, hl⟩, connection, expired, unsubs, hworker, hmem⟩⟩
  · obtain rfl := Option.some.inj hstep
    obtain ⟨e', he', htxid', hsenders⟩ := mem_pushSender_of_mem
      { txid := txid', deadline := s.time + s.deadline, senders := [] }
      { id := s.listeners, txid := txid', since := s.frames.length } he
    exact ⟨.inr ⟨hticks, ⟨e', he', htxid'.trans htxid, hsenders hl⟩, connection, expired, unsubs,
      hworker, hmem⟩⟩
  · have hstep : s.send i = some s' := hstep
    unfold send at hstep
    rw [hworker] at hstep
    split at hstep
    · obtain rfl := Option.some.inj hstep
      exact ⟨.inr ⟨hticks, ⟨e, he, htxid, hl⟩, connection, expired, unsubs, rfl, hmem⟩⟩
    · exact absurd hstep (Option.some_ne_none s').symm
  · have hstep : s.expire = some s' := hstep
    unfold expire at hstep
    rw [hworker] at hstep
    obtain ⟨t, rest, rfl⟩ := List.exists_cons_of_ne_nil (List.ne_nil_of_mem hmem)
    obtain rfl := Option.some.inj hstep
    by_cases ht : t = txid
    · refine ⟨.inl ?_⟩
      obtain rfl : e.txid = t := htxid.trans ht.symm
      exact Resolved.resolve he hl false
    · have hrest : txid ∈ rest := (List.mem_cons.mp hmem).resolve_left (Ne.symm ht)
      refine ⟨.inr ⟨hticks, ⟨e, List.mem_filter.mpr ⟨he, ?_⟩, htxid, hl⟩, connection, rest, _, rfl,
        hrest⟩⟩
      rw [htxid]
      exact bne_iff_ne.mpr (Ne.symm ht)

theorem expiring_of_tick {s₁ : State} {e : WsTxState} {listener : Listener}
    (htick : s.step .tick = some s₁) (he : e ∈ s.toCheck) (hdeadline : e.deadline ≤ s.time)
    (hl : listener ∈ e.senders) : Expiring listener e.txid s s₁ := by
  have hexpired : e.txid ∈ s.expiredTxids :=
    List.mem_map.mpr ⟨e, List.mem_filter.mpr ⟨he, decide_eq_true hdeadline⟩, rfl⟩
  have htick : s.tick = some s₁ := htick
  unfold tick at htick
  split at htick
  · obtain rfl := Option.some.inj htick
    exact ⟨.inr ⟨rfl, ⟨e, he, rfl, hl⟩, _, _, _, rfl, hexpired⟩⟩
  · obtain rfl := Option.some.inj htick
    exact ⟨.inr ⟨rfl, ⟨e, he, rfl, hl⟩, _, _, _, rfl, hexpired⟩⟩
  · exact absurd htick (Option.some_ne_none s₁).symm

/-- Once the expiry of a tick is over, every listener of a passed deadline has its verdict. -/
theorem resolved_of_tick {s₁ s₂ : State} {ops : List Op} {e : WsTxState} {listener : Listener}
    (htick : s.step .tick = some s₁) (hrun : runFrom step (fun _ _ => true) s₁ ops = some s₂)
    (hticks : s.ticks < s₂.ticks) (he : e ∈ s.toCheck) (hdeadline : e.deadline ≤ s.time)
    (hl : listener ∈ e.senders) : s₂.Resolved listener := by
  have h := invariant_of_runFrom
    (fun s' op s'' h _ => expiring_step listener e.txid s s' op s'' h)
    (expiring_of_tick htick he hdeadline hl) hrun
  rcases h.found with hresolved | ⟨hsame, -⟩
  · exact hresolved
  · omega

/-! ## Runs -/

theorem inv_step (s : State) (op : Op) (s' : State) (h : Inv s) (hstep : s.step op = some s') :
    Inv s' := by
  cases op with
  | elapse ms =>
    obtain rfl := Option.some.inj hstep
    exact h.frame rfl rfl rfl rfl
  | checkTransaction txid =>
    obtain rfl := Option.some.inj hstep
    exact h.checkTransaction txid
  | send i => exact h.send hstep
  | connected =>
    obtain ⟨worker, rfl, -⟩ := connected_cases hstep
    exact h.frame rfl rfl rfl rfl
  | tick =>
    obtain ⟨worker, rfl, -⟩ := tick_keeps hstep
    exact h.frame rfl rfl rfl rfl
  | expire => exact h.expire hstep
  | subscribe sent =>
    obtain ⟨worker, rfl, -⟩ := subscribe_keeps hstep
    exact h.frame rfl rfl rfl rfl
  | unsubscribe sent =>
    obtain ⟨worker, rfl, -⟩ := unsubscribe_keeps hstep
    exact h.frame rfl rfl rfl rfl
  | incoming msg => exact h.incoming hstep
  | ping sent =>
    obtain ⟨worker, rfl, -⟩ := ping_keeps hstep
    exact h.frame rfl rfl rfl rfl
  | disconnect =>
    obtain ⟨worker, rfl, -⟩ := disconnect_keeps hstep
    exact h.frame rfl rfl rfl rfl
  | command =>
    have hstep : s.command = some s' := hstep
    unfold command at hstep
    split at hstep
    · split at hstep
      · obtain rfl := Option.some.inj hstep
        exact h.frame rfl rfl rfl rfl
      · obtain rfl := Option.some.inj hstep
        exact h.frame rfl rfl rfl rfl
    · exact absurd hstep (Option.some_ne_none s').symm
  | rotate =>
    obtain ⟨worker, rfl, -⟩ := rotate_keeps hstep
    exact h.frame rfl rfl rfl rfl
  | rotated connected =>
    obtain ⟨current, worker, -, rfl, -⟩ := rotated_cases hstep
    exact h.frame rfl rfl rfl rfl
  | cancel =>
    obtain ⟨worker, rfl, -⟩ := cancel_keeps hstep
    exact h.frame rfl rfl rfl rfl

theorem covered_step (s : State) (op : Op) (s' : State) (h : s.Covered)
    (hstep : s.step op = some s') : s'.Covered := by
  cases op with
  | elapse ms =>
    obtain rfl := Option.some.inj hstep
    exact h
  | checkTransaction txid =>
    obtain rfl := Option.some.inj hstep
    exact h.checkTransaction txid
  | send i => exact h.send hstep
  | connected => exact Covered.connected hstep
  | tick =>
    obtain ⟨worker, rfl, hkeeps⟩ := tick_keeps hstep
    exact h.keeps hkeeps
  | expire => exact h.expire hstep
  | subscribe sent =>
    obtain ⟨worker, rfl, hkeeps⟩ := subscribe_keeps hstep
    exact h.keeps hkeeps
  | unsubscribe sent =>
    obtain ⟨worker, rfl, hkeeps⟩ := unsubscribe_keeps hstep
    exact h.keeps hkeeps
  | incoming msg => exact h.incoming hstep
  | ping sent =>
    obtain ⟨worker, rfl, hkeeps⟩ := ping_keeps hstep
    exact h.keeps hkeeps
  | disconnect =>
    obtain ⟨worker, rfl, hkeeps⟩ := disconnect_keeps hstep
    exact h.keeps hkeeps
  | command => exact h.command hstep
  | rotate =>
    obtain ⟨worker, rfl, hkeeps⟩ := rotate_keeps hstep
    exact h.keeps hkeeps
  | rotated connected => exact h.rotated hstep
  | cancel =>
    obtain ⟨worker, rfl, hkeeps⟩ := cancel_keeps hstep
    exact h.keeps hkeeps

/-- A listener gets at most one verdict, and a positive one only for a frame with the full quorum
that came after its registration; while the worker waits on a live connection, every pending
transaction is subscribed or has a command coming; what it does until it waits again keeps that; and
an expiry that is over has resolved every deadline that had passed. -/
theorem zero_conf_verdicts (deadline : Nat) {ops : List Op}
    (hrun : runFrom step (fun _ _ => true) (start deadline) ops = some s) :
    (s.verdicts.map (·.listener.id)).Nodup ∧
    (∀ v ∈ s.verdicts, v.accepted = true → s.Justified v.listener) ∧
    (∀ connection, s.worker = .serving connection → ∀ e ∈ s.toCheck,
      connection.isSubscribedTo e.txid = true ∨ e.txid ∈ s.commands ∨ e.txid ∈ s.registering) ∧
    s.Covered ∧
    ∀ s₁ ops' s₂, s.step .tick = some s₁ → runFrom step (fun _ _ => true) s₁ ops' = some s₂ →
      s.ticks < s₂.ticks → ∀ e ∈ s.toCheck, e.deadline ≤ s.time → ∀ listener ∈ e.senders,
        s₂.Resolved listener := by
  have hinv : Inv (start deadline) :=
    ⟨List.nodup_nil, List.forall_mem_nil _, List.forall_mem_nil _, List.forall_mem_nil _⟩
  have hcovered : (start deadline).Covered := List.forall_mem_nil _
  have h := invariant_of_runFrom (fun s op s' h _ => inv_step s op s' h) hinv hrun
  have hc := invariant_of_runFrom (fun s op s' h _ => covered_step s op s' h) hcovered hrun
  refine ⟨(List.nodup_append.mp h.distinct).1, h.justified, ?_, hc, ?_⟩
  · intro connection hworker e he
    have hserving := hc (fun t => t ∈ connection.subscribed)
      (by rw [hworker]; exact List.mem_singleton_self _) e he
    exact hserving.imp_left List.contains_iff_mem.mpr
  · intro s₁ ops' s₂ htick hrun' hticks e he hdeadline listener hl
    exact resolved_of_tick htick hrun' hticks he hdeadline hl

end State

/-! ## A transaction that is accepted, and one whose connection is lost -/

def serve : List Op := [.connected, .subscribe true]

def register (txid : String) : List Op :=
  [.checkTransaction txid, .send 0, .command, .subscribe true]

theorem verdict_of_quorum : ∃ s,
    runFrom State.step (fun _ _ => true) (State.start 6000)
      (serve ++ register "tx" ++
        [.incoming (.text (some (.snapshot "tx" (some { bridge := some ⟨3, 3⟩ }))))]) = some s ∧
    s.verdicts.map (fun v => (v.listener.id, v.accepted)) = [(0, true)] ∧
    (s.verdicts.map (·.listener.id)).Nodup := by
  obtain ⟨s, hrun, hverdicts⟩ : ∃ s,
      runFrom State.step (fun _ _ => true) (State.start 6000)
        (serve ++ register "tx" ++
          [.incoming (.text (some (.snapshot "tx" (some { bridge := some ⟨3, 3⟩ }))))]) = some s ∧
      s.verdicts.map (fun v => (v.listener.id, v.accepted)) = [(0, true)] := ⟨_, rfl, rfl⟩
  exact ⟨s, hrun, hverdicts, (State.zero_conf_verdicts 6000 hrun).1⟩

/-- After a disconnect the transaction is pending without a subscription or a command. -/
theorem pending_without_subscription : ∃ s,
    runFrom State.step (fun _ _ => true) (State.start 6000)
      (serve ++ register "tx" ++ [.disconnect]) = some s ∧
    s.worker = .connecting ∧ s.toCheck.map (·.txid) = ["tx"] ∧ s.commands = [] ∧
    s.registering = [] :=
  ⟨_, rfl, rfl, rfl, rfl, rfl⟩

end Boltz.Sidecar.WsZeroConfTool
