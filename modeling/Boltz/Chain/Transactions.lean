import Mathlib.Logic.Basic

/-!
# Transactions and filters (`boltzr/src/chain/utils.rs`, `boltzr/src/chain/chain_client.rs`)

What the scans read of a transaction: the outpoints it spends and the scripts it pays to.
-/

namespace Boltz

abbrev Bytes := List UInt8

structure Outpoint where
  hash : Bytes
  vout : Nat
  deriving DecidableEq, Repr

/-- `id` tells apart transactions; scans look at the rest. -/
structure ChainTransaction where
  id : Nat
  inputOutpoints : List Outpoint
  outputScriptPubkeys : List Bytes
  deriving DecidableEq, Repr

/-- The outpoints and scripts a scan looks for. -/
structure ScanFilters where
  inputs : List Outpoint
  outputs : List Bytes
  deriving DecidableEq, Repr

def ScanFilters.isRelevantTx (filters : ScanFilters) (tx : ChainTransaction) : Bool :=
  tx.inputOutpoints.any (fun input => filters.inputs.contains input) ||
    tx.outputScriptPubkeys.any (fun output => filters.outputs.contains output)

end Boltz
