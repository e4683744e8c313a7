import Mathlib.Algebra.Ring.Int.Defs
import Mathlib.Algebra.Ring.Nat
import Mathlib.Data.List.AList

/-!
# Events of redundant providers (`InjectedProvider.ts`)

Every provider calls the same injected listener with each of its events. The listener that was
registered is called for the first delivery of an event, and the deliveries of a hash are counted
until all providers have made theirs.
-/

namespace Boltz.InjectedProvider

/-- A string of JavaScript is its UTF-16 code units. -/
abbrev JsString := List UInt16

/-- `x | 0` -/
def toInt32 (x : ℤ) : ℤ := x.bmod (2 ^ 32)

/-- The shift is one of 32 bit integers, too. -/
def hashCode (value : JsString) : ℤ :=
  value.foldl (fun hash char => toInt32 (toInt32 (hash * 2 ^ 5) - hash + char.toNat)) 0

/-- `join` without a separator puts commas between the entries. -/
def join (entries : List JsString) : JsString := [(44 : UInt16)].intercalate entries

/-- `providerDeltas`, by the hash of the arguments. -/
abbrev Deltas := AList fun _ : ℤ => ℕ

def maxDeltas : ℕ := 10000

section Listener

-- An event is what the listener is called with, `stringified` are its arguments after
-- `safeStringify`.
variable {Event : Type} (stringified : Event → List JsString) (providersCount : ℕ)

def argsHash (event : Event) : ℤ := hashCode (join (stringified event))

/-- One call of the injected listener: the counts after it and whether it calls the listener. -/
def receive (providerDeltas : Deltas) (event : Event) : Deltas × Bool :=
  if providersCount = 1 then (providerDeltas, true)
  else
    let hash := argsHash stringified event
    let currentDelta := (providerDeltas.lookup hash).getD 0
    let updated :=
      if currentDelta = providersCount - 1 then providerDeltas.erase hash
      else providerDeltas.insert hash (currentDelta + 1)
    (if updated.keys.length > maxDeltas then ∅ else updated, currentDelta = 0)

/-- What the listener is called with while the providers deliver events. -/
def heard : Deltas → List Event → List Event
  | _, [] => []
  | providerDeltas, event :: rest =>
    let (updated, called) := receive stringified providersCount providerDeltas event
    if called then event :: heard updated rest else heard updated rest

end Listener

end Boltz.InjectedProvider
