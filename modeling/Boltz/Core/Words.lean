import Mathlib.Algebra.Order.Field.Basic

/-!
# Machine words

Words are the numbers below a modulus. Sums and differences wrap around it, unless they are checked.
-/

namespace Boltz.Core

/-- The number of values of a `u64`. -/
def u64Size : Nat := 2 ^ 64

namespace Word

variable (m : Nat)

def add (a b : Nat) : Nat := (a + b) % m

def sub (a b : Nat) : Nat := (a + (m - b % m)) % m

def sum (l : List Nat) : Nat := l.foldl (add m) 0

def checkedSub (a b : Nat) : Option Nat := if b ≤ a then some (a - b) else none

variable {m}

theorem foldl_add (l : List Nat) (a : Nat) : l.foldl (add m) (a % m) = (a + l.sum) % m := by
  induction l generalizing a with
  | nil => simp
  | cons b l ih =>
    have hstep : add m (a % m) b = (a + b) % m := Nat.mod_add_mod a m b
    rw [List.foldl_cons, hstep, ih (a + b), List.sum_cons, Nat.add_assoc]

/-- Only the whole sum has to be reduced. -/
theorem sum_eq (l : List Nat) : sum m l = l.sum % m := by
  have h := foldl_add (m := m) l 0
  rwa [Nat.zero_mod, Nat.zero_add] at h

theorem checkedSub_eq_some {a b c : Nat} : checkedSub a b = some c ↔ b ≤ a ∧ c = a - b := by
  unfold checkedSub
  split <;> simp [*, eq_comm]

theorem checkedSub_eq_none {a b : Nat} : checkedSub a b = none ↔ a < b := by
  unfold checkedSub
  split <;> simp <;> omega

end Word

end Boltz.Core
