import Mathlib.Logic.Basic

/-!
# Asynchronous programs

A program of a single-threaded asynchronous runtime is a tree of *acts*. An act is what
happens between two suspension points: it runs atomically on the shared state, it may ask
the outside for an answer, and it may have to wait (`none`). `fork` starts another task
that runs concurrently, as emitting an event to an asynchronous listener does.
-/

namespace Boltz.Async

/-- One atomic step of task `t`: the state before and the answer from outside give the
result and the state after. `none` means that the step has to wait. -/
structure Act (L S Ω β : Type) where
  label : L
  run : (t : Nat) → S → Ω → Option (β × S)

inductive Prog (L S Ω ε : Type) : Type → Type 1 where
  | pure {α : Type} (a : α) : Prog L S Ω ε α
  | throw {α : Type} (e : ε) : Prog L S Ω ε α
  | act {α β : Type} (a : Act L S Ω β) (k : β → Prog L S Ω ε α) : Prog L S Ω ε α
  | fork {α : Type} (child : Prog L S Ω ε Unit) (k : Prog L S Ω ε α) : Prog L S Ω ε α

namespace Prog

variable {L S Ω ε α β : Type}

def bind : {α β : Type} → Prog L S Ω ε α → (α → Prog L S Ω ε β) → Prog L S Ω ε β
  | _, _, .pure a, f => f a
  | _, _, .throw e, _ => .throw e
  | _, _, .act a k, f => .act a fun b => (k b).bind f
  | _, _, .fork c k, f => .fork c (k.bind f)

instance : Monad (Prog L S Ω ε) where
  pure := .pure
  bind := .bind

/-- Runs `m` and returns how it ended; never throws. -/
def attempt : {α : Type} → Prog L S Ω ε α → Prog L S Ω ε (Except ε α)
  | _, .pure a => .pure (.ok a)
  | _, .throw e => .pure (.error e)
  | _, .act a k => .act a fun b => (k b).attempt
  | _, .fork c k => .fork c k.attempt

def ofExcept : Except ε α → Prog L S Ω ε α
  | .ok a => .pure a
  | .error e => .throw e

/-- `try m catch h`. -/
def catching (m : Prog L S Ω ε α) (h : ε → Prog L S Ω ε α) : Prog L S Ω ε α := do
  match ← m.attempt with
  | .ok a => .pure a
  | .error e => h e

/-- `try m finally fin`. -/
def finally_ (m : Prog L S Ω ε α) (fin : Prog L S Ω ε Unit) : Prog L S Ω ε α := do
  let r ← m.attempt
  fin
  ofExcept r

def call (a : Act L S Ω β) : Prog L S Ω ε β := .act a .pure

/-- `if (c) await m`. -/
def when (c : Bool) (m : Prog L S Ω ε Unit) : Prog L S Ω ε Unit := if c then m else .pure ()

/-- `if (c) throw e`. -/
def throwIf (c : Bool) (e : ε) : Prog L S Ω ε Unit := if c then .throw e else .pure ()

/-- Starts `child` as a task of its own. -/
def spawn (child : Prog L S Ω ε Unit) : Prog L S Ω ε Unit := .fork child (.pure ())

/-- `for (const x of xs) await f(x)`. -/
def forEach (xs : List α) (f : α → Prog L S Ω ε Unit) : Prog L S Ω ε Unit :=
  match xs with
  | [] => .pure ()
  | x :: xs => do
    f x
    forEach xs f

@[simp] theorem pure_bind' (a : α) (f : α → Prog L S Ω ε β) :
    ((Pure.pure a : Prog L S Ω ε α) >>= f) = f a := rfl

@[simp] theorem pure_eq (a : α) : (Pure.pure a : Prog L S Ω ε α) = .pure a := rfl

@[simp] theorem bind_eq (m : Prog L S Ω ε α) (f : α → Prog L S Ω ε β) : m.bind f = m >>= f := rfl

/-! ## Which acts a program uses -/

/-- Every act of the program satisfies `P`, every task it forks satisfies `C`. -/
def Uses (P : {β : Type} → Act L S Ω β → Prop) (C : Prog L S Ω ε Unit → Prop) :
    {α : Type} → Prog L S Ω ε α → Prop
  | _, .pure _ => True
  | _, .throw _ => True
  | _, .act a k => P a ∧ ∀ b, (k b).Uses P C
  | _, .fork c k => C c ∧ k.Uses P C

section uses

variable {P : {β : Type} → Act L S Ω β → Prop} {C : Prog L S Ω ε Unit → Prop}

theorem Uses.bind {m : Prog L S Ω ε α} {f : α → Prog L S Ω ε β} (hm : m.Uses P C)
    (hf : ∀ a, (f a).Uses P C) : (m >>= f).Uses P C := by
  change (m.bind f).Uses P C
  induction m with
  | pure a => exact hf a
  | throw e => trivial
  | act a k ih => exact ⟨hm.1, fun b => ih b (hm.2 b) hf⟩
  | fork c k _ ih => exact ⟨hm.1, ih hm.2 hf⟩

theorem Uses.attempt {m : Prog L S Ω ε α} (hm : m.Uses P C) : m.attempt.Uses P C := by
  induction m with
  | pure a => trivial
  | throw e => trivial
  | act a k ih => exact ⟨hm.1, fun b => ih b (hm.2 b)⟩
  | fork c k _ ih => exact ⟨hm.1, ih hm.2⟩

theorem Uses.catching {m : Prog L S Ω ε α} {h : ε → Prog L S Ω ε α} (hm : m.Uses P C)
    (hh : ∀ e, (h e).Uses P C) : (m.catching h).Uses P C := by
  refine hm.attempt.bind fun r => ?_
  cases r with
  | ok a => trivial
  | error e => exact hh e

theorem Uses.ofExcept (r : Except ε α) :
    (Prog.ofExcept r : Prog L S Ω ε α).Uses P C := by
  cases r <;> trivial

theorem Uses.finally_ {m : Prog L S Ω ε α} {fin : Prog L S Ω ε Unit} (hm : m.Uses P C)
    (hf : fin.Uses P C) : (m.finally_ fin).Uses P C :=
  hm.attempt.bind fun r => hf.bind fun _ => Uses.ofExcept r

theorem Uses.when {m : Prog L S Ω ε Unit} (c : Bool) (hm : m.Uses P C) :
    (Prog.when c m).Uses P C := by
  cases c
  · trivial
  · exact hm

theorem Uses.throwIf (c : Bool) (e : ε) : (Prog.throwIf c e : Prog L S Ω ε Unit).Uses P C := by
  cases c <;> trivial

theorem Uses.forEach {xs : List α} {f : α → Prog L S Ω ε Unit} (hf : ∀ x, (f x).Uses P C) :
    (Prog.forEach xs f).Uses P C := by
  induction xs with
  | nil => trivial
  | cons x xs ih => exact (hf x).bind fun _ => ih

theorem Uses.mono {P' : {β : Type} → Act L S Ω β → Prop} {C' : Prog L S Ω ε Unit → Prop}
    (hP : ∀ {β : Type} (a : Act L S Ω β), P a → P' a) (hC : ∀ c, C c → C' c)
    {m : Prog L S Ω ε α} (hm : m.Uses P C) : m.Uses P' C' := by
  induction m with
  | pure a => trivial
  | throw e => trivial
  | act a k ih => exact ⟨hP a hm.1, fun b => ih b (hm.2 b)⟩
  | fork c k _ ih => exact ⟨hC c hm.1, ih hm.2⟩

end uses

end Prog

end Boltz.Async
