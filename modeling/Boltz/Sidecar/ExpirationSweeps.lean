import Boltz.Async.Sweeps
import Boltz.Sidecar.Expiration
import Boltz.Utils

/-!
# One sweep of a checker (`boltzr/src/swap/expiration`)

The loops of `InvoiceExpirationChecker::check` and `CustomExpirationChecker::check` over the
candidates of one query, with all errors that return early. Results are promises that settle.
-/

namespace Boltz.ExpirationSweeps

open Async SwapUpdateEvent

inductive CheckError where
  | invalidPair (pair : String)
  | notConfigured (symbol : String)
  | decode
  | referralConfig
  | database
  /-- no receiver of the broadcast channel is left -/
  | channelClosed
  deriving DecidableEq, Repr

/-- A row of the query, with the columns that only the sidecar reads. -/
structure Candidate where
  id : Nat
  pair : String
  orderSide : OrderSide
  /-- in seconds -/
  createdAt : ℤ
  row : Swap
  deriving DecidableEq, Repr

/-- `SwapStatus` of the websocket. -/
structure SwapStatus where
  id : Nat
  status : SwapUpdateEvent
  failureReason : SwapError
  deriving DecidableEq, Repr

inductive Act where
  | updated (id : Nat) (status : SwapUpdateEvent) (failureReason : SwapError)
  | published (status : SwapStatus)
  deriving DecidableEq, Repr

abbrev Check := AsyncCall Act CheckError

def splitPair (pair : String) : Except CheckError PairId :=
  match pair.toList.splitOn '/' with
  | [base, quote] => .ok ⟨.ofList base, .ofList quote⟩
  | _ => .error (.invalidPair pair)

def lightningSymbol (swap : Candidate) : Except CheckError String := do
  let pair ← splitPair swap.pair
  return match swap.orderSide with
    | .buy => pair.base
    | .sell => pair.quote

/-- `custom_expiration_secs` of a referral for submarine swaps, which parses its configuration. -/
structure Referral where
  customExpirationSecs : String → Except CheckError (Option Nat)

/-- What the checkers read. The rows are those of the time of the update. -/
structure Env where
  /-- the network of a configured currency -/
  currencies : String → Option Nat
  /-- whether the decoded invoice is expired -/
  decode : Nat → Nat → Except CheckError Bool
  referrals : Nat → Option Referral
  now : ℤ
  rows : Nat → Option Swap
  /-- what the query of an update fails with -/
  updateError : Nat → Option CheckError := fun _ => none
  send : SwapStatus → Except CheckError Unit := fun _ => .ok ()

variable (env : Env)

def invoiceExpired (swap : Candidate) : Except CheckError Bool :=
  match swap.row.invoice with
  | none => .ok false
  | some invoice => do
    let symbol ← lightningSymbol swap
    match env.currencies symbol with
    | none => .error (.notConfigured symbol)
    | some network => env.decode network invoice

def customExpired (swap : Candidate) : Except CheckError Bool :=
  match swap.row.referral.bind env.referrals with
  | none => .ok false
  | some referral => do
    match ← referral.customExpirationSecs swap.pair with
    | none => return false
    | some expirationSecs => return !(env.now - swap.createdAt ≤ expirationSecs)

def expired : ExpirationChecker → Candidate → Except CheckError Bool
  | .invoice => invoiceExpired env
  | .custom => customExpired env

/-- Whether the row still matches. -/
def stillMatches (checker : ExpirationChecker) (id : Nat) : Bool :=
  (env.rows id).any checker.condition

/-- The number of updated rows. -/
def updateStatusIfMatches (checker : ExpirationChecker) (id : Nat) : Except CheckError Nat :=
  match env.updateError id with
  | some e => .error e
  | none => .ok (if stillMatches env checker id then 1 else 0)

def failedStatus (checker : ExpirationChecker) (swap : Candidate) : SwapStatus :=
  ⟨swap.id, invoiceFailedToPay, checker.failureReason⟩

/-- What is done with a swap that is expired. -/
def failSwap (checker : ExpirationChecker) (swap : Candidate) : Check Unit := do
  let updated ← AsyncCall.await (.ofExcept (updateStatusIfMatches env checker swap.id))
  if updated = 0 then pure ()
  else do
    AsyncCall.act (.updated swap.id invoiceFailedToPay checker.failureReason)
    AsyncCall.await (.ofExcept (env.send (failedStatus checker swap)))
    AsyncCall.act (.published (failedStatus checker swap))

def checkSwap (checker : ExpirationChecker) (swap : Candidate) : Check Unit := do
  let isExpired ← AsyncCall.await (.ofExcept (expired env checker swap))
  if isExpired then failSwap env checker swap else pure ()

/-- The loop of `check`. -/
def check (checker : ExpirationChecker) (swaps : List Candidate) : Check Unit :=
  AsyncCall.forEach (checkSwap env checker) swaps

end Boltz.ExpirationSweeps
