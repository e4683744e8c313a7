import Boltz.Async.Prog

/-!
# Runs of a set of tasks

A configuration is the history so far and the tasks started so far; the number of a task is
its position in the list. A run is a list of moves: outside events start tasks (`spawn`), and
one task at a time takes its next step. The history keeps the state and every act taken, the
newest first. A `Policy` says which moves are admitted; a run that would make another move is
`none`, so that `run P … = some c` says that every step of the run met the policy.
-/

namespace Boltz.Async

/-- An act that was taken: by which task, with which answer, from and to which state. -/
structure Event (L S Ω : Type) where
  task : Nat
  label : L
  answer : Ω
  before : S
  after : S

structure Hist (L S Ω : Type) where
  world : S
  trace : List (Event L S Ω)

structure Config (L S Ω ε : Type) extends Hist L S Ω where
  tasks : List (Prog L S Ω ε Unit)

inductive Move (Entry Ω : Type) where
  | spawn (e : Entry)
  | step (i : Nat) (ω : Ω)

structure Policy (Entry L S Ω : Type) where
  spawn : Entry → Bool
  allow : L → Nat → Hist L S Ω → Ω → Bool

/-- The policy that admits every move. -/
def Policy.free {Entry L S Ω : Type} : Policy Entry L S Ω :=
  ⟨fun _ => true, fun _ _ _ _ => true⟩

variable {Entry L S Ω ε : Type}

/-- The history after task `t` took an act labelled `l` to the state `s'`. -/
def Hist.record (h : Hist L S Ω) (t : Nat) (l : L) (ω : Ω) (s' : S) : Hist L S Ω :=
  ⟨s', ⟨t, l, ω, h.world, s'⟩ :: h.trace⟩

@[simp] theorem Hist.record_world (h : Hist L S Ω) (t : Nat) (l : L) (ω : Ω) (s' : S) :
    (h.record t l ω s').world = s' := rfl

@[simp] theorem Hist.record_trace (h : Hist L S Ω) (t : Nat) (l : L) (ω : Ω) (s' : S) :
    (h.record t l ω s').trace = ⟨t, l, ω, h.world, s'⟩ :: h.trace := rfl

/-- The next step of task `i`. -/
def advance (P : Policy Entry L S Ω) (i : Nat) (ω : Ω) (c : Config L S Ω ε) :
    Option (Config L S Ω ε) :=
  match c.tasks[i]? with
  | some (.act a k) =>
    if P.allow a.label i c.toHist ω then
      (a.run i c.world ω).map fun r => ⟨c.record i a.label ω r.2, c.tasks.set i (k r.1)⟩
    else none
  | some (.fork child k) => some ⟨c.toHist, c.tasks.set i k ++ [child]⟩
  | _ => none

def next (P : Policy Entry L S Ω) (start : Entry → Prog L S Ω ε Unit) (c : Config L S Ω ε) :
    Move Entry Ω → Option (Config L S Ω ε)
  | .spawn e => if P.spawn e then some ⟨c.toHist, c.tasks ++ [start e]⟩ else none
  | .step i ω => advance P i ω c

def run (P : Policy Entry L S Ω) (start : Entry → Prog L S Ω ε Unit) :
    List (Move Entry Ω) → Config L S Ω ε → Option (Config L S Ω ε)
  | [], c => some c
  | m :: ms, c => (next P start c m).bind (run P start ms)

/-- The next steps of task `i`, with these answers. -/
def steps (i : Nat) (answers : List Ω) : List (Move Entry Ω) := answers.map (.step i)

/-- The configuration before the first move. -/
def boot (s : S) : Config L S Ω ε := ⟨⟨s, []⟩, []⟩

/-- `h` is the history of some admitted run that starts in `s` with no task. -/
def Reaches (P : Policy Entry L S Ω) (start : Entry → Prog L S Ω ε Unit) (s : S)
    (h : Hist L S Ω) : Prop :=
  ∃ ms c, run P start ms (boot s) = some c ∧ c.toHist = h

/-- A run on fixed moves, evaluated. -/
theorem Reaches.of_run (P : Policy Entry L S Ω) (start : Entry → Prog L S Ω ε Unit) (s : S)
    (ms : List (Move Entry Ω)) (p : Hist L S Ω → Bool)
    (h : (run P start ms (boot s)).any (fun c => p c.toHist) = true) :
    ∃ h, Reaches P start s h ∧ p h = true := by
  cases hc : run P start ms (boot s) with
  | none => simp [hc] at h
  | some c => exact ⟨c.toHist, ⟨ms, c, hc, rfl⟩, by simpa [hc] using h⟩

end Boltz.Async
