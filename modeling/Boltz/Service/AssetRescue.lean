import Boltz.World

/-!
# Rescue of assets (`boltzr/src/swap/asset_rescue.rs`)
-/

namespace Boltz

open Async

namespace AssetRescue

def pendingRescue (id : Nat) : M (Option Nat) := read fun w => w.cooperative.rescues.get id

/-- `generate_nonce`. -/
def generateNonce : M Nat :=
  Prog.call
    { label := .other
      run := fun _ w _ =>
        some (w.cooperative.nextNonce,
          { w with cooperative :=
            { w.cooperative with nextNonce := w.cooperative.nextNonce + 1 } }) }

/-- `cache.set`. -/
def setPending (id nonce : Nat) : M Unit :=
  write fun w =>
    { w with cooperative :=
      { w.cooperative with rescues := w.cooperative.rescues.put id nonce } }

/-- `cache.take`: the entry is read and removed in one step. -/
def takePending (id : Nat) : M (Option Nat) :=
  Prog.call
    { label := .other
      run := fun _ w _ =>
        some (w.cooperative.rescues.get id,
          { w with cooperative :=
            { w.cooperative with rescues := w.cooperative.rescues.erase id } }) }

def create (id : Nat) : M Unit := do
  match ← pendingRescue id with
  | some _ => Prog.throw (.message "another rescue is already pending")
  | none => do
    external -- get_swap, check_eligibility, the transactions and the funding UTXO
    let nonce ← generateNonce
    setPending id nonce

def broadcast (id : Nat) : M Unit := do
  match ← takePending id with
  | none => Prog.throw (.message "no rescue is pending")
  | some nonce => do
    external -- get_swap and the session with the nonces of the client
    mark (.signPartial nonce)
    external -- partial_aggregate, sign_raw_transaction_with_wallet, send_raw_transaction

/-- An entry of the cache expires. -/
def expire (id : Nat) : M Unit :=
  write fun w =>
    { w with cooperative := { w.cooperative with rescues := w.cooperative.rescues.erase id } }

end AssetRescue

end Boltz
