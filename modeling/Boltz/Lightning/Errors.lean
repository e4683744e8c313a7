import Boltz.Lightning.Nodes
import Mathlib.Data.List.Infix

/-!
# Texts of errors (`lib/Utils.ts`, `LndClient.ts`, `ClnClient.ts`, `LightningNursery.ts`)
-/

namespace Boltz.Lightning

open Async

def includes (text part : String) : Bool := decide (part.toList <:+: text.toList)

/-- What `formatError` does with `null`. -/
def detailsOfNull : Thrown :=
  .object (.error "Cannot use 'in' operator to search for 'details' in null")

def formatError : Thrown → Promise Thrown String
  | .string text => pure text
  | .object (.rpc details) => pure details
  | .object (.error message) => pure message
  | .number value => pure (toString value)
  | .null => .rejected detailsOfNull

/-! ## LND -/

def incorrectPaymentDetails : Nat := 4

def LndClient.formatPaymentFailureReason (reason : Nat) : String :=
  if reason = 1 then "timeout"
  else if reason = 2 then "no route"
  else if reason = 5 then "insufficient balance"
  else if reason = incorrectPaymentDetails then "incorrect payment details"
  else "unknown reason: " ++ toString reason

def LndClient.errorMessage : Thrown → Promise Thrown String
  | .number reason => pure (LndClient.formatPaymentFailureReason reason)
  | e => formatError e

/-! ## CLN -/

/-- `formatPaymentFailureReason`: the quoted part, when there is one. -/
def ClnClient.formatPaymentFailureReason (details : String) : String :=
  match details.toList.splitOn '"' with
  | [_, quoted, _] => String.ofList quoted
  | _ => details

/-- What `isRpcError` reads of an error; `null` has no details. -/
def ClnClient.errorMessage : Thrown → Promise Thrown String
  | .object (.rpc details) =>
    pure (if details = "" then details else ClnClient.formatPaymentFailureReason details)
  | .null => .rejected (.object (.error "Cannot read properties of null (reading 'details')"))
  | e => formatError e

def ClnClient.errIsIncorrectPaymentDetails (text : String) : Bool :=
  includes text "WIRE_INCORRECT_OR_UNKNOWN_PAYMENT_DETAILS" ||
    includes text "incorrect_or_unknown_payment_details"

/-! ## `LightningNursery` -/

namespace LightningNursery

def detailsOf : Thrown → Option String
  | .object (.rpc details) => some details
  | _ => none

def errIsInvoicePaid (e : Thrown) : Bool := detailsOf e = some "invoice is already paid"

def errIsPaymentInTransition (e : Thrown) : Bool := detailsOf e = some "payment is in transition"

def stripStart (start text : List Char) : Option (List Char) :=
  if start.isPrefixOf text then some (text.drop start.length) else none

/-- One to three digits. -/
def isShortNumber (digits : List Char) : Bool :=
  1 ≤ digits.length && digits.length ≤ 3 && digits.all Char.isDigit

/-- The regular expression on one line. -/
def isCltvLimitLine (line : List Char) : Bool :=
  match stripStart "cltv limit ".toList line with
  | none => false
  | some rest =>
    isShortNumber (rest.takeWhile Char.isDigit) &&
      match stripStart " should be greater than ".toList (rest.dropWhile Char.isDigit) with
      | none => false
      | some limit => isShortNumber limit

def isLineTerminator (c : Char) : Bool :=
  c = '\n' || c = '\r' || c.toNat = 0x2028 || c.toNat = 0x2029

def errIsCltvLimitExceeded (e : Thrown) : Bool :=
  match detailsOf e with
  | none => false
  | some details => (details.toList.splitOnP isLineTerminator).any isCltvLimitLine

def errIsInvoiceExpired (text : String) : Bool :=
  text = "InvoiceExpiredError()" || includes text.toLower "invoice expired"

def paymentTimedOut : String := "invoice payment timed out"

def errIsPaymentTimedOut (text : String) : Bool := text = paymentTimedOut

example : errIsCltvLimitExceeded (.object (.rpc "cltv limit 123 should be greater than 232")) := by
  decide +kernel

end LightningNursery

end Boltz.Lightning
