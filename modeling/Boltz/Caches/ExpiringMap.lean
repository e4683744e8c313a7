import Mathlib.Logic.Function.Basic

/-!
# Maps whose entries expire

An entry is gone from the time on that it carries. Two maps look the same when every lookup from
now on finds the same value; entries that are gone already do not matter then.
-/

namespace Boltz.Caches

structure Entry (V : Type) where
  value : V
  expiresAt : Option Nat
  deriving DecidableEq, Repr

def Entry.isLive {V : Type} (e : Entry V) (now : Nat) : Bool :=
  e.expiresAt.all fun expiresAt => decide (now < expiresAt)

abbrev ExpiringMap (K V : Type) := K → Option (Entry V)

namespace ExpiringMap

variable {K K' V : Type}

def empty : ExpiringMap K V := fun _ => none

def lookup (m : ExpiringMap K V) (now : Nat) (k : K) : Option V :=
  ((m k).filter (·.isLive now)).map (·.value)

/-- Only the entries that satisfy `keep` stay. -/
def retain (m : ExpiringMap K V) (keep : Entry V → Bool) : ExpiringMap K V :=
  fun k => (m k).filter keep

theorem isLive_of_le {e : Entry V} {t t' : Nat} (ht : t ≤ t') (hlive : e.isLive t' = true) :
    e.isLive t = true := by
  unfold Entry.isLive at hlive ⊢
  rw [Option.all_eq_true] at hlive ⊢
  intro expiresAt he
  have hlt := of_decide_eq_true (hlive expiresAt he)
  exact decide_eq_true (by omega)

theorem lookup_of_live {m : ExpiringMap K V} {now : Nat} {k : K} {e : Entry V} (hk : m k = some e)
    (hlive : e.isLive now = true) : m.lookup now k = some e.value := by
  rw [lookup, hk, Option.filter_some, if_pos hlive]
  rfl

theorem lookup_of_none {m : ExpiringMap K V} {k : K} (hk : m k = none) (now : Nat) :
    m.lookup now k = none := by
  simp [lookup, hk]

/-- What is gone stays gone. -/
theorem lookup_of_expired {m : ExpiringMap K V} {now t : Nat} {k : K} {e : Entry V}
    (hk : m k = some e) (hgone : e.isLive now = false) (ht : now ≤ t) : m.lookup t k = none := by
  have hlate : e.isLive t = false := by
    rw [← Bool.not_eq_true] at hgone ⊢
    exact fun hlive => hgone (isLive_of_le ht hlive)
  simp [lookup, hk, hlate]

theorem lookup_retain_live (m : ExpiringMap K V) {now t : Nat} (ht : now ≤ t) (k : K) :
    (m.retain (·.isLive now)).lookup t k = m.lookup t k := by
  simp only [lookup, retain]
  cases m k with
  | none => rfl
  | some e =>
    by_cases hlive : e.isLive t = true
    · rw [Option.filter_some, if_pos (isLive_of_le ht hlive)]
    · rw [Option.filter_some, Option.filter_some, if_neg hlive]
      split
      · rw [Option.filter_some, if_neg hlive]
      · rfl

/-! ## Maps that look the same -/

/-- From `now` on, `m` under the keys `f k` looks as `m'` under the keys `k` of `S`. -/
def Looks (f : K → K') (S : K → Prop) (now : Nat) (m : ExpiringMap K' V) (m' : ExpiringMap K V) :
    Prop :=
  ∀ k, S k → ∀ t, now ≤ t → m.lookup t (f k) = m'.lookup t k

variable {f : K → K'} {S : K → Prop} {now : Nat} {m m₁ : ExpiringMap K' V}
  {m' m₁' : ExpiringMap K V}

theorem looks_empty : Looks f S now (empty : ExpiringMap K' V) (empty : ExpiringMap K V) :=
  fun _ _ _ _ => rfl

theorem Looks.later (h : Looks f S now m m') {t : Nat} (ht : now ≤ t) : Looks f S t m m' :=
  fun k hk t' ht' => h k hk t' (Nat.le_trans ht ht')

theorem Looks.congr (h : Looks f S now m m')
    (hm : ∀ t, now ≤ t → ∀ k, m₁.lookup t k = m.lookup t k) : Looks f S now m₁ m' :=
  fun k hk t ht => (hm t ht _).trans (h k hk t ht)

/-- The two maps change at one key each, and look the same there. -/
theorem Looks.update (h : Looks f S now m m') {k : K}
    (hinj : ∀ k', S k' → f k' = f k → k' = k)
    (hself : ∀ t, now ≤ t → m₁.lookup t (f k) = m₁'.lookup t k)
    (hm : ∀ t k', k' ≠ f k → m₁.lookup t k' = m.lookup t k')
    (hm' : ∀ t k', k' ≠ k → m₁'.lookup t k' = m'.lookup t k') : Looks f S now m₁ m₁' := by
  intro k' hk' t ht
  by_cases hkk : k' = k
  · subst hkk
    exact hself t ht
  · rw [hm t _ fun he => hkk (hinj k' hk' he), hm' t _ hkk]
    exact h k' hk' t ht

/-! ## Writing -/

section Writing

variable [DecidableEq K] [DecidableEq K']

def insert (m : ExpiringMap K V) (k : K) (e : Entry V) : ExpiringMap K V :=
  Function.update m k (some e)

def erase (m : ExpiringMap K V) (k : K) : ExpiringMap K V := Function.update m k none

@[simp] theorem lookup_insert_self (m : ExpiringMap K V) (now : Nat) (k : K) (e : Entry V) :
    (m.insert k e).lookup now k = if e.isLive now then some e.value else none := by
  simp only [lookup, insert, Function.update_self, Option.filter_some]
  split <;> rfl

theorem lookup_insert_of_ne (m : ExpiringMap K V) (now : Nat) {k k' : K} (h : k' ≠ k)
    (e : Entry V) : (m.insert k e).lookup now k' = m.lookup now k' := by
  simp only [lookup, insert, Function.update_of_ne h]

@[simp] theorem lookup_erase_self (m : ExpiringMap K V) (now : Nat) (k : K) :
    (m.erase k).lookup now k = none := by
  simp [lookup, erase]

theorem lookup_erase_of_ne (m : ExpiringMap K V) (now : Nat) {k k' : K} (h : k' ≠ k) :
    (m.erase k).lookup now k' = m.lookup now k' := by
  simp only [lookup, erase, Function.update_of_ne h]

/-- Removing an entry that is gone is not noticed. -/
theorem lookup_erase_expired {m : ExpiringMap K V} {now t : Nat} {k : K} {e : Entry V}
    (hk : m k = some e) (hgone : e.isLive now = false) (ht : now ≤ t) (k' : K) :
    (m.erase k).lookup t k' = m.lookup t k' := by
  by_cases hkk : k' = k
  · subst hkk
    rw [lookup_erase_self, lookup_of_expired hk hgone ht]
  · exact lookup_erase_of_ne m t hkk

theorem Looks.erase (h : Looks f S now m m') {k : K}
    (hinj : ∀ k', S k' → f k' = f k → k' = k) :
    Looks f S now (m.erase (f k)) (m'.erase k) :=
  h.update hinj (fun t _ => by simp) (fun t _ hne => lookup_erase_of_ne m t hne)
    fun t _ hne => lookup_erase_of_ne m' t hne

theorem Looks.insert (h : Looks f S now m m') {k : K}
    (hinj : ∀ k', S k' → f k' = f k → k' = k) (e : Entry V) :
    Looks f S now (m.insert (f k) e) (m'.insert k e) :=
  h.update hinj (fun t _ => by simp) (fun t _ hne => lookup_insert_of_ne m t hne e)
    fun t _ hne => lookup_insert_of_ne m' t hne e

end Writing

end ExpiringMap

end Boltz.Caches
