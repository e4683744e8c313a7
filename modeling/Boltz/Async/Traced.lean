import Mathlib.Data.List.Basic

/-!
# Programs that throw and leave a trace

A program whose calls have fixed outcomes. It ends with a value or an error, and what it did
before it threw stays done. The rules say which acts a composed program takes and when it
throws; the last section is about handlers that undo what a failed program was meant to do.
-/

namespace Boltz.Async

/-- How a program ends and what it did, oldest first. -/
structure Traced (E ε α : Type) where
  result : Except ε α
  acts : List E

namespace Traced

variable {E ε α β : Type}

protected def bind (m : Traced E ε α) (f : α → Traced E ε β) : Traced E ε β :=
  match m.result with
  | .ok a => ⟨(f a).result, m.acts ++ (f a).acts⟩
  | .error e => ⟨.error e, m.acts⟩

instance : Monad (Traced E ε) where
  pure a := ⟨.ok a, []⟩
  bind := Traced.bind

/-- A call from outside the program, with its outcome. -/
def call (outcome : Except ε α) : Traced E ε α := ⟨outcome, []⟩

def throw (e : ε) : Traced E ε α := ⟨.error e, []⟩

def act (x : E) : Traced E ε Unit := ⟨.ok (), [x]⟩

def catching (m : Traced E ε α) (handler : ε → Traced E ε α) : Traced E ε α :=
  match m.result with
  | .ok _ => m
  | .error e => ⟨(handler e).result, m.acts ++ (handler e).acts⟩

def when (c : Bool) (m : Traced E ε Unit) : Traced E ε Unit := if c then m else pure ()

def Fails (m : Traced E ε α) : Prop := ∃ e, m.result = .error e

/-- Takes an act of the kind. -/
def Takes (m : Traced E ε α) (kind : E → Prop) : Prop := ∃ x ∈ m.acts, kind x

/-! ## Results -/

section results

variable {m : Traced E ε α} {f : α → Traced E ε β} {b : β}

@[simp] theorem result_pure (a : α) : (pure a : Traced E ε α).result = .ok a := rfl
@[simp] theorem result_throw (e : ε) : (throw e : Traced E ε α).result = .error e := rfl
@[simp] theorem result_call (outcome : Except ε α) :
    (call outcome : Traced E ε α).result = outcome := rfl
@[simp] theorem result_act (x : E) : (act x : Traced E ε Unit).result = .ok () := rfl

theorem result_bind_ok : (m >>= f).result = .ok b ↔ ∃ a, m.result = .ok a ∧ (f a).result = .ok b := by
  change (m.bind f).result = _ ↔ _
  unfold Traced.bind
  cases hm : m.result <;> simp

theorem not_fails_iff : ¬m.Fails ↔ ∃ a, m.result = .ok a := by
  unfold Fails
  cases m.result <;> simp

@[simp] theorem fails_pure (a : α) : ¬(pure a : Traced E ε α).Fails := by simp [Fails]
@[simp] theorem fails_throw (e : ε) : (throw e : Traced E ε α).Fails := ⟨e, rfl⟩
@[simp] theorem fails_act (x : E) : ¬(act x : Traced E ε Unit).Fails := by simp [Fails]
@[simp] theorem fails_call (outcome : Except ε α) :
    (call outcome : Traced E ε α).Fails ↔ ∃ e, outcome = .error e := Iff.rfl

theorem fails_bind : (m >>= f).Fails ↔ m.Fails ∨ ∃ a, m.result = .ok a ∧ (f a).Fails := by
  change (m.bind f).Fails ↔ _
  unfold Fails Traced.bind
  cases hm : m.result <;> simp

theorem fails_bind_of {C : Prop} (hf : ∀ a, m.result = .ok a → ((f a).Fails ↔ C)) :
    (m >>= f).Fails ↔ m.Fails ∨ C := by
  rw [fails_bind]
  constructor
  · rintro (h | ⟨a, ha, hfails⟩)
    · exact .inl h
    · exact .inr ((hf a ha).mp hfails)
  · rintro (h | hC)
    · exact .inl h
    · by_cases h : m.Fails
      · exact .inl h
      · obtain ⟨a, ha⟩ := not_fails_iff.mp h
        exact .inr ⟨a, ha, (hf a ha).mpr hC⟩

end results

/-! ## Acts -/

section acts

variable {kind : E → Prop} {m : Traced E ε α} {f : α → Traced E ε β}
  {handler : ε → Traced E ε α}

@[simp] theorem takes_pure (a : α) : ¬(pure a : Traced E ε α).Takes kind := by
  rintro ⟨x, hx, -⟩
  exact absurd hx List.not_mem_nil

@[simp] theorem takes_throw (e : ε) : ¬(throw e : Traced E ε α).Takes kind := by
  rintro ⟨x, hx, -⟩
  exact absurd hx List.not_mem_nil

@[simp] theorem takes_call (outcome : Except ε α) :
    ¬(call outcome : Traced E ε α).Takes kind := by
  rintro ⟨x, hx, -⟩
  exact absurd hx List.not_mem_nil

@[simp] theorem takes_act (x : E) : (act x : Traced E ε Unit).Takes kind ↔ kind x := by
  simp [Takes, act]

theorem takes_bind :
    (m >>= f).Takes kind ↔ m.Takes kind ∨ ∃ a, m.result = .ok a ∧ (f a).Takes kind := by
  change (m.bind f).Takes kind ↔ _
  unfold Takes Traced.bind
  cases hm : m.result <;> simp [or_and_right, exists_or]

theorem takes_bind_of {C : Prop} (hf : ∀ a, m.result = .ok a → ((f a).Takes kind ↔ C)) :
    (m >>= f).Takes kind ↔ m.Takes kind ∨ ¬m.Fails ∧ C := by
  rw [takes_bind, not_fails_iff, ← exists_and_right]
  refine or_congr_right (exists_congr fun a => ?_)
  exact and_congr_right fun ha => hf a ha

/-- A part that takes no such act only decides whether the rest is reached. -/
theorem takes_bind_right {C : Prop} (hm : ¬m.Takes kind)
    (hf : ∀ a, m.result = .ok a → ((f a).Takes kind ↔ C)) :
    (m >>= f).Takes kind ↔ ¬m.Fails ∧ C := by
  rw [takes_bind_of hf]
  simp only [hm, false_or]

theorem not_takes_bind (hm : ¬m.Takes kind) (hf : ∀ a, ¬(f a).Takes kind) :
    ¬(m >>= f).Takes kind := by
  rw [takes_bind]
  simp only [hm, hf, and_false, exists_false, or_false, not_false_eq_true]

@[simp] theorem takes_when (c : Bool) (m : Traced E ε Unit) :
    (when c m).Takes kind ↔ c = true ∧ m.Takes kind := by
  cases c <;> simp [when]

theorem takes_catching :
    (m.catching handler).Takes kind ↔
      m.Takes kind ∨ ∃ e, m.result = .error e ∧ (handler e).Takes kind := by
  unfold Takes catching
  cases hm : m.result <;> simp [or_and_right, exists_or]

theorem fails_catching :
    (m.catching handler).Fails ↔ ∃ e, m.result = .error e ∧ (handler e).Fails := by
  unfold Fails catching
  cases hm : m.result <;> simp [hm]

end acts

/-! ## Handlers that undo -/

section undoing

variable {body : Traced E ε α} {handler : ε → Traced E ε α} {done undone : E → Prop}

/-- What a program did is undone by its handler only when the program throws after it. -/
theorem undone_iff {C : Prop} (hbody : ¬body.Takes undone)
    (hdone : ∀ e, ¬(handler e).Takes done) (hundone : ∀ e, (handler e).Takes undone ↔ C) :
    (body.catching handler).Takes done ∧ (body.catching handler).Takes undone ↔
      body.Takes done ∧ body.Fails ∧ C := by
  simp only [takes_catching, hdone, hundone, and_false, exists_false, or_false, hbody, false_or,
    exists_and_right]
  rfl

end undoing

end Traced

end Boltz.Async
