import Mathlib.Data.List.Basic

/-!
# Promises

Only what becomes of a promise, not when. A function that awaits a promise that never settles does
not return. The second part is about async functions that also act: which calls return a value
without taking an act of some kind, composed rule by rule.
-/

namespace Boltz.Async

inductive Promise (ε α : Type) where
  | resolved (a : α)
  | rejected (e : ε)
  | unsettled
  deriving DecidableEq, Repr

namespace Promise

variable {ε α β : Type}

protected def bind (p : Promise ε α) (f : α → Promise ε β) : Promise ε β :=
  match p with
  | resolved a => f a
  | rejected e => rejected e
  | unsettled => unsettled

instance : Monad (Promise ε) where
  pure := resolved
  bind := Promise.bind

/-- `try { await p } catch (e) { handler(e) }` -/
def catching (p : Promise ε α) (handler : ε → Promise ε α) : Promise ε α :=
  match p with
  | resolved a => resolved a
  | rejected e => handler e
  | unsettled => unsettled

def mapRejected {ε' : Type} (g : ε → ε') : Promise ε α → Promise ε' α
  | resolved a => resolved a
  | rejected e => rejected (g e)
  | unsettled => unsettled

def ofExcept : Except ε α → Promise ε α
  | .ok a => resolved a
  | .error e => rejected e

section rules

variable {p : Promise ε α} {f : α → Promise ε β} {handler : ε → Promise ε α} {a : α} {b : β} {e : ε}

@[simp] theorem pure_eq (a : α) : (pure a : Promise ε α) = resolved a := rfl
@[simp] theorem resolved_bind : (resolved a >>= f) = f a := rfl
@[simp] theorem rejected_bind : (rejected e >>= f) = rejected e := rfl
@[simp] theorem unsettled_bind : (unsettled >>= f) = unsettled := rfl
@[simp] theorem catching_resolved : (resolved a).catching handler = resolved a := rfl
@[simp] theorem catching_rejected : (rejected e).catching handler = handler e := rfl
@[simp] theorem catching_unsettled : unsettled.catching handler = unsettled := rfl

theorem bind_eq_resolved : (p >>= f) = resolved b ↔ ∃ a, p = resolved a ∧ f a = resolved b := by
  cases p <;> simp

end rules

end Promise

/-- `Promise.all`: a rejection counts even when another promise never settles. -/
def Promise.all {ε α : Type} : List (Promise ε α) → Promise ε (List α)
  | [] => .resolved []
  | p :: ps =>
    match p, Promise.all ps with
    | .rejected e, _ => .rejected e
    | _, .rejected e => .rejected e
    | .resolved a, .resolved as => .resolved (a :: as)
    | _, _ => .unsettled

theorem Promise.all_map_resolved {ε α β : Type} {f : β → Promise ε α} {g : β → α} {xs : List β}
    (h : ∀ x ∈ xs, f x = .resolved (g x)) : Promise.all (xs.map f) = .resolved (xs.map g) := by
  induction xs with
  | nil => rfl
  | cons x xs ih =>
    have hrest := ih fun y hy => h y (List.mem_cons_of_mem _ hy)
    simp only [List.map_cons, Promise.all, h x List.mem_cons_self, hrest]

/-- Every promise has to be resolved. -/
theorem Promise.resolved_of_all {ε α : Type} {ps : List (Promise ε α)} {as : List α}
    (h : Promise.all ps = .resolved as) : ∀ p ∈ ps, ∃ a, p = .resolved a := by
  induction ps generalizing as with
  | nil => exact fun p hp => absurd hp List.not_mem_nil
  | cons p ps ih =>
    unfold Promise.all at h
    split at h <;> try cases h
    rename_i a as' hall
    exact List.forall_mem_cons.mpr ⟨⟨a, rfl⟩, ih hall⟩

/-- A call of an async function: what becomes of its promise and what it did, oldest first. -/
structure AsyncCall (E ε α : Type) where
  promise : Promise ε α
  acts : List E := []

namespace AsyncCall

variable {E ε α β : Type}

protected def bind (m : AsyncCall E ε α) (f : α → AsyncCall E ε β) : AsyncCall E ε β :=
  match m.promise with
  | .resolved a => ⟨(f a).promise, m.acts ++ (f a).acts⟩
  | .rejected e => ⟨.rejected e, m.acts⟩
  | .unsettled => ⟨.unsettled, m.acts⟩

instance : Monad (AsyncCall E ε) where
  pure a := ⟨.resolved a, []⟩
  bind := AsyncCall.bind

def await (p : Promise ε α) : AsyncCall E ε α := ⟨p, []⟩

def throw (e : ε) : AsyncCall E ε α := ⟨.rejected e, []⟩

def act (x : E) : AsyncCall E ε Unit := ⟨.resolved (), [x]⟩

def mapActs {E' : Type} (g : E → E') (m : AsyncCall E ε α) : AsyncCall E' ε α :=
  ⟨m.promise, m.acts.map g⟩

def catching (m : AsyncCall E ε α) (handler : ε → AsyncCall E ε α) : AsyncCall E ε α :=
  match m.promise with
  | .rejected e => ⟨(handler e).promise, m.acts ++ (handler e).acts⟩
  | _ => m

/-- Settles with a result and takes no act of the kind. -/
def Ends (m : AsyncCall E ε α) (kind : E → Prop) (result : Promise ε α) : Prop :=
  m.promise = result ∧ ∀ x ∈ m.acts, ¬kind x

section rules

variable {kind : E → Prop} {m : AsyncCall E ε α} {f : α → AsyncCall E ε β}
  {handler : ε → AsyncCall E ε α} {a : α} {b : β} {e : ε} {result : Promise ε α}

@[simp] theorem ends_pure : (pure a : AsyncCall E ε α).Ends kind result ↔ .resolved a = result :=
  ⟨And.left, fun h => ⟨h, fun _ hx => absurd hx List.not_mem_nil⟩⟩

@[simp] theorem ends_await {p : Promise ε α} :
    (await p : AsyncCall E ε α).Ends kind result ↔ p = result :=
  ⟨And.left, fun h => ⟨h, fun _ hx => absurd hx List.not_mem_nil⟩⟩

@[simp] theorem ends_throw : (throw e : AsyncCall E ε α).Ends kind result ↔ .rejected e = result :=
  ⟨And.left, fun h => ⟨h, fun _ hx => absurd hx List.not_mem_nil⟩⟩

@[simp] theorem ends_act {x : E} {result : Promise ε Unit} :
    (act x : AsyncCall E ε Unit).Ends kind result ↔ .resolved () = result ∧ ¬kind x := by
  simp [Ends, act]

theorem ends_bind_resolved : (m >>= f).Ends kind (.resolved b) ↔
    ∃ a, m.Ends kind (.resolved a) ∧ (f a).Ends kind (.resolved b) := by
  change (m.bind f).Ends kind _ ↔ _
  unfold Ends AsyncCall.bind
  cases m.promise with
  | rejected e => simp
  | unsettled => simp
  | resolved a =>
    simp only [Promise.resolved.injEq, List.mem_append, or_imp, forall_and]
    constructor
    · rintro ⟨hpromise, hm, hf⟩
      exact ⟨a, ⟨rfl, hm⟩, hpromise, hf⟩
    · rintro ⟨_, ⟨rfl, hm⟩, hpromise, hf⟩
      exact ⟨hpromise, hm, hf⟩

theorem ends_bind_rejected : (m >>= f).Ends kind (.rejected e) ↔
    m.Ends kind (.rejected e) ∨
      ∃ a, m.Ends kind (.resolved a) ∧ (f a).Ends kind (.rejected e) := by
  change (m.bind f).Ends kind _ ↔ _
  unfold Ends AsyncCall.bind
  cases m.promise with
  | rejected e => simp
  | unsettled => simp
  | resolved a =>
    simp only [reduceCtorEq, false_and, false_or, Promise.resolved.injEq, List.mem_append, or_imp,
      forall_and]
    constructor
    · rintro ⟨hpromise, hm, hf⟩
      exact ⟨a, ⟨rfl, hm⟩, hpromise, hf⟩
    · rintro ⟨_, ⟨rfl, hm⟩, hpromise, hf⟩
      exact ⟨hpromise, hm, hf⟩

theorem ends_catching_resolved : (m.catching handler).Ends kind (.resolved a) ↔
    m.Ends kind (.resolved a) ∨
      ∃ e, m.Ends kind (.rejected e) ∧ (handler e).Ends kind (.resolved a) := by
  unfold Ends catching
  cases hm : m.promise with
  | resolved a => simp [hm]
  | unsettled => simp [hm]
  | rejected e =>
    simp only [reduceCtorEq, false_and, false_or, Promise.rejected.injEq, List.mem_append, or_imp,
      forall_and]
    constructor
    · rintro ⟨hpromise, hm, hf⟩
      exact ⟨e, ⟨rfl, hm⟩, hpromise, hf⟩
    · rintro ⟨_, ⟨rfl, hm⟩, hpromise, hf⟩
      exact ⟨hpromise, hm, hf⟩

end rules

/-! ### Acts that are not taken -/

/-- Takes no act of the kind, however it ends. -/
def Avoids (m : AsyncCall E ε α) (kind : E → Prop) : Prop := ∀ x ∈ m.acts, ¬kind x

section avoids

variable {kind : E → Prop} {m : AsyncCall E ε α} {f : α → AsyncCall E ε β}
  {handler : ε → AsyncCall E ε α}

@[simp] theorem avoids_pure (a : α) : (pure a : AsyncCall E ε α).Avoids kind :=
  fun _ hx => absurd hx List.not_mem_nil

@[simp] theorem avoids_await (p : Promise ε α) : (await p : AsyncCall E ε α).Avoids kind :=
  fun _ hx => absurd hx List.not_mem_nil

@[simp] theorem avoids_throw (e : ε) : (throw e : AsyncCall E ε α).Avoids kind :=
  fun _ hx => absurd hx List.not_mem_nil

@[simp] theorem avoids_act {x : E} : (act x : AsyncCall E ε Unit).Avoids kind ↔ ¬kind x := by
  simp [Avoids, act]

theorem Avoids.bind (hm : m.Avoids kind)
    (hf : ∀ a, m.promise = .resolved a → (f a).Avoids kind) : (m >>= f).Avoids kind := by
  change (m.bind f).Avoids kind
  unfold AsyncCall.bind
  cases hp : m.promise with
  | rejected e => exact hm
  | unsettled => exact hm
  | resolved a =>
    intro x hx
    rcases List.mem_append.mp hx with hx | hx
    · exact hm x hx
    · exact hf a hp x hx

theorem Avoids.catching (hm : m.Avoids kind)
    (hhandler : ∀ e, m.promise = .rejected e → (handler e).Avoids kind) :
    (m.catching handler).Avoids kind := by
  unfold AsyncCall.catching
  split
  · rename_i e hp
    intro x hx
    rcases List.mem_append.mp hx with hx | hx
    · exact hm x hx
    · exact hhandler e hp x hx
  · exact hm

end avoids

end AsyncCall

end Boltz.Async
