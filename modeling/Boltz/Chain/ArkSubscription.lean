import Boltz.Async.Transitions

/-!
# Streams of vHTLCs (`lib/chain/ArkSubscription.ts`)

A step is what runs until a promise is awaited. Streams are closed at any time, also those that were
replaced, and calls of `connect` and `disconnect` come at any time, too. A destroyed stream counts as
cancelled, and `getVtxoNotifications` is taken to return a stream: that it throws at once is not
modelled.
-/

namespace Boltz.ArkSubscription

open Async

structure Stream where
  /-- whether `cancel` or `destroy` was called -/
  cancelled : Bool
  /-- whether `close` was emitted -/
  closed : Bool
  deriving DecidableEq, Repr

structure WalletStatus where
  unlocked : Bool
  synced : Bool
  deriving DecidableEq, Repr

inductive Task where
  /-- `connect` waits for its rescan. -/
  | connect
  | sleep
  | getWalletStatus
  /-- `reconnect` waits for its rescan. -/
  | rescan
  deriving DecidableEq, Repr

def Task.isReconnect : Task → Bool
  | connect => false
  | sleep | getWalletStatus | rescan => true

structure State where
  shouldDisconnect : Bool
  isReconnecting : Bool
  /-- an index of `streams` -/
  vHtlcStream : Option Nat
  streams : List Stream
  tasks : List Task
  deriving DecidableEq, Repr

def State.init : State :=
  { shouldDisconnect := false
    isReconnecting := false
    vHtlcStream := none
    streams := []
    tasks := [] }

def State.cancelStream (s : State) : State :=
  match s.vHtlcStream with
  | some i =>
    { s with
      vHtlcStream := none
      streams := s.streams.modify i fun stream => { stream with cancelled := true } }
  | none => s

def State.streamVhtlcs (s : State) : State :=
  let s := s.cancelStream
  { s with
    vHtlcStream := some s.streams.length
    streams := s.streams ++ [{ cancelled := false, closed := false }] }

def State.reconnect (s : State) : State :=
  if s.shouldDisconnect || s.isReconnecting then s
  else
    let s := State.cancelStream { s with isReconnecting := true }
    { s with tasks := s.tasks ++ [.sleep] }

inductive Op where
  | connect
  | disconnect
  | close (i : Nat)
  /-- The interval of a reconnect is over. -/
  | slept (j : Nat)
  /-- Nothing when the wallet could not be asked. -/
  | walletStatus (j : Nat) (status : Option WalletStatus)
  | rescanned (j : Nat)

def step (s : State) : Op → Option State
  | .connect => some { s with shouldDisconnect := false, tasks := s.tasks ++ [.connect] }
  | .disconnect => some (State.cancelStream { s with shouldDisconnect := true })
  | .close i =>
    match s.streams[i]? with
    | some stream =>
      if stream.closed then none
      else some (State.reconnect { s with streams := s.streams.set i { stream with closed := true } })
    | none => none
  | .slept j =>
    match s.tasks[j]? with
    | some .sleep => some { s with tasks := s.tasks.set j .getWalletStatus }
    | _ => none
  | .walletStatus j status =>
    match s.tasks[j]? with
    | some .getWalletStatus =>
      let ready := status.any fun status => status.unlocked && status.synced
      some { s with tasks := s.tasks.set j (if ready then .rescan else .sleep) }
    | _ => none
  | .rescanned j =>
    match s.tasks[j]? with
    | some .connect => some (State.streamVhtlcs { s with tasks := s.tasks.eraseIdx j })
    | some .rescan => some
        { State.streamVhtlcs { s with tasks := s.tasks.eraseIdx j } with isReconnecting := false }
    | _ => none

end Boltz.ArkSubscription
