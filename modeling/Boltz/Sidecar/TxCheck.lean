import Mathlib.Data.List.Basic
import Mathlib.Algebra.Order.BigOperators.Group.List

/-!
# Transactions of swaps (`boltzr/src/swap/tx_check.rs`)

A batch of transactions is looked up in chunks: the scripts of the outputs in `script_pubkeys`, the
transactions that the inputs spend in the tables of reverse and chain swaps. The hash maps are
lists here, of which only how often an entry occurs counts.
-/

namespace Boltz.TxCheck

structure Outpoint where
  hash : Nat
  vout : Nat
  deriving DecidableEq, Repr

/-- What is read of a transaction; `id` stands for the rest of it. -/
structure Transaction where
  id : Nat
  inputOutpoints : List Outpoint
  outputScriptPubkeys : List Nat
  deriving DecidableEq, Repr

/-- A row of `script_pubkeys`. -/
structure ScriptPubKey where
  swapId : String
  symbol : String
  scriptPubkey : Nat
  deriving DecidableEq, Repr

/-- The server lockup of a swap. -/
structure Lockup where
  symbol : String
  transactionId : Option Nat
  transactionVout : Option Nat
  deriving DecidableEq, Repr

/-- A reverse swap with its lockup, whose symbol is that of the chain. -/
structure ReverseSwap where
  id : String
  lockup : Lockup
  deriving DecidableEq, Repr

structure ChainSwap where
  id : String
  sending : Lockup
  receiving : Lockup
  deriving DecidableEq, Repr

structure Database where
  scriptPubkeys : List ScriptPubKey
  reverseSwaps : List ReverseSwap
  chainSwaps : List ChainSwap

/-- What is left of both kinds behind `dyn SomeSwap`. -/
structure SomeSwap where
  id : String
  sending : Lockup
  deriving DecidableEq, Repr

/-- Without the transaction or its output there is none. -/
def SomeSwap.sendingOutpoint (swap : SomeSwap) : Option Outpoint :=
  match swap.sending.transactionId, swap.sending.transactionVout with
  | some id, some vout => some ⟨id, vout⟩
  | _, _ => none

abbrev Association := Transaction × String

variable (db : Database) (symbol : String)

/-! ## Outputs -/

def scriptPubkeysOf (chunk : List Transaction) : List Nat :=
  chunk.flatMap Transaction.outputScriptPubkeys

/-- `script_to_txs`: a transaction is in it once for each of its outputs with the script. -/
def scriptToTxs (chunk : List Transaction) (script : Nat) : List Transaction :=
  chunk.flatMap fun tx => List.replicate (tx.outputScriptPubkeys.count script) tx

def getByScripts (scripts : List Nat) : List ScriptPubKey :=
  db.scriptPubkeys.filter fun row => row.symbol = symbol && scripts.contains row.scriptPubkey

def checkOutputs (chunk : List Transaction) : List Association :=
  (getByScripts db symbol (scriptPubkeysOf chunk)).flatMap fun pubkey =>
    (scriptToTxs chunk pubkey.scriptPubkey).map fun tx => (tx, pubkey.swapId)

/-! ## Inputs -/

/-- `inputs_to_tx`: what is collected later replaces what was there. -/
def inputsToTx (chunk : List Transaction) (outpoint : Outpoint) : Option Transaction :=
  chunk.reverse.find? fun tx => tx.inputOutpoints.contains outpoint

def inputIds (chunk : List Transaction) : List Nat :=
  (chunk.flatMap Transaction.inputOutpoints).map Outpoint.hash

def Lockup.isOf (ids : List Nat) (lockup : Lockup) : Bool :=
  lockup.transactionId.any fun id => ids.contains id

/-- Reverse swaps by the transaction alone, chain swaps by the symbol too, of any of their sides and
then of the sending one. -/
def relevantSwaps (ids : List Nat) : List SomeSwap :=
  ((db.reverseSwaps.filter fun swap => swap.lockup.isOf ids).map fun swap =>
      ⟨swap.id, swap.lockup⟩) ++
    (((db.chainSwaps.filter fun swap =>
        [swap.sending, swap.receiving].any fun lockup =>
          lockup.symbol = symbol && lockup.isOf ids).filter fun swap =>
      swap.sending.symbol = symbol).map fun swap => ⟨swap.id, swap.sending⟩)

def associate (chunk : List Transaction) (swap : SomeSwap) : Option Association :=
  match swap.sendingOutpoint with
  | none => none
  | some outpoint => (inputsToTx chunk outpoint).map fun tx => (tx, swap.id)

def checkInputs (chunk : List Transaction) : List Association :=
  (relevantSwaps db symbol (inputIds chunk)).filterMap (associate chunk)

/-! ## The check -/

def txChunkSize : Nat := 512

/-- Chunks of one more than `n`. -/
def chunks (n : Nat) : List Transaction → List (List Transaction)
  | [] => []
  | tx :: txs => (tx :: txs.take n) :: chunks n (txs.drop n)
termination_by txs => txs.length
decreasing_by simp only [List.length_drop, List.length_cons]; omega

/-- All outputs are checked before the inputs. -/
def checkChunks (txChunks : List (List Transaction)) : List Association :=
  txChunks.flatMap (checkOutputs db symbol) ++ txChunks.flatMap (checkInputs db symbol)

/-- The swaps of a transaction in the map that is returned. -/
def swapsOf (associations : List Association) (tx : Transaction) : List String :=
  (associations.filter fun entry => entry.1 = tx).map Prod.snd

/-- `TxChecker::check` -/
def check (txs : List Transaction) : Transaction → List String :=
  swapsOf (checkChunks db symbol (chunks (txChunkSize - 1) txs))

end Boltz.TxCheck
