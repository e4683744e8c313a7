import Boltz.Async.Rely

/-!
# What a run keeps

A task that never runs sees the whole run as steps of the others. What the rely of a logic keeps
is therefore kept from any state of a run to its end.
-/

namespace Boltz.Async

variable {Entry L S Ω ε : Type}

namespace Logic

variable {𝓛 : Logic L S Ω} {h : Hist L S Ω} {P : Policy Entry L S Ω}
  {start : Entry → Prog L S Ω ε Unit}

theorem length_tasks_of_next {c c' : Config L S Ω ε} {m : Move Entry Ω}
    (hn : next P start c m = some c') : c.tasks.length ≤ c'.tasks.length := by
  cases m with
  | spawn e =>
    simp only [next] at hn
    split at hn
    · cases hn
      simp
    · cases hn
  | step i ω =>
    simp only [next, Async.advance] at hn
    split at hn
    · split at hn
      · obtain ⟨_, _, rfl⟩ := Option.map_eq_some_iff.mp hn
        simp
      · cases hn
    · cases hn
      simp
    · cases hn

theorem length_tasks_of_run {c c' : Config L S Ω ε} {ms : List (Move Entry Ω)}
    (hr : Async.run P start ms c = some c') : c.tasks.length ≤ c'.tasks.length := by
  induction ms generalizing c with
  | nil => cases hr; exact Nat.le_refl _
  | cons m ms ih =>
    obtain ⟨c₁, hn, hr⟩ := Option.bind_eq_some_iff.mp hr
    exact Nat.le_trans (length_tasks_of_next hn) (ih hr)

/-- A task that does not run sees a move as a step of the others. -/
theorem Sound.rely_next {c c' : Config L S Ω ε} {m : Move Entry Ω} {u : Nat}
    (hP : P.allow = 𝓛.allow) (hc : 𝓛.Sound c) (hn : next P start c m = some c')
    (hu : c.tasks.length ≤ u) : 𝓛.Rely u c.toHist c'.toHist := by
  cases m with
  | spawn e =>
    simp only [next] at hn
    split at hn
    · cases hn
      exact 𝓛.refl u _
    · cases hn
  | step i ω =>
    simp only [next, Async.advance] at hn
    split at hn
    · rename_i a k hi
      split at hn
      · rename_i ha
        obtain ⟨⟨b, w⟩, hr, rfl⟩ := Option.map_eq_some_iff.mp hn
        have hlt : i < c.tasks.length := (List.getElem?_eq_some_iff.mp hi).1
        exact (hc.tasks i _ hi c.toHist (𝓛.refl i _) hc.inv ω b w (hP ▸ ha) hr).1.2 u (by omega)
      · cases hn
    · cases hn
      exact 𝓛.refl u _
    · cases hn

theorem Sound.rely_run {c c' : Config L S Ω ε} {ms : List (Move Entry Ω)} {u : Nat}
    (hP : P.allow = 𝓛.allow) (hstart : ∀ e, P.spawn e = true → 𝓛.Safe (start e))
    (hc : 𝓛.Sound c) (hr : Async.run P start ms c = some c') (hu : c'.tasks.length ≤ u) :
    𝓛.Rely u c.toHist c'.toHist := by
  induction ms generalizing c with
  | nil => cases hr; exact 𝓛.refl u _
  | cons m ms ih =>
    have hr₀ := hr
    obtain ⟨c₁, hn, hr⟩ := Option.bind_eq_some_iff.mp hr
    have hlen := length_tasks_of_run hr₀
    have hone : Async.run P start [m] c = some c₁ := Option.bind_eq_some_iff.mpr ⟨c₁, hn, rfl⟩
    have hc₁ : 𝓛.Sound c₁ := hc.run hP hstart hone
    exact 𝓛.trans (hc.rely_next hP hn (by omega)) (ih hc₁ hr)

/-- A run takes the step that an event of its history records. -/
theorem run_split {c c' : Config L S Ω ε} {ms : List (Move Entry Ω)} {e : Event L S Ω}
    (hr : Async.run P start ms c = some c') (he : e ∈ c'.trace) : e ∈ c.trace ∨
      ∃ ms₁ m ms₂ c₁ c₂, Async.run P start ms₁ c = some c₁ ∧ next P start c₁ m = some c₂ ∧
        Async.run P start ms₂ c₂ = some c' ∧ c₁.world = e.before ∧ c₂.world = e.after := by
  induction ms generalizing c with
  | nil => cases hr; exact .inl he
  | cons m ms ih =>
    obtain ⟨c₁, hn, hr⟩ := Option.bind_eq_some_iff.mp hr
    refine (ih hr).elim (fun hold => ?_) fun ⟨ms₁, m', ms₂, c₂, c₃, h₁, h₂, h₃, hb, ha⟩ =>
      .inr ⟨m :: ms₁, m', ms₂, c₂, c₃, Option.bind_eq_some_iff.mpr ⟨c₁, hn, h₁⟩, h₂, h₃, hb, ha⟩
    have hn₀ := hn
    cases m with
    | spawn e =>
      simp only [next] at hn
      split at hn
      · cases hn
        exact .inl hold
      · cases hn
    | step i ω =>
      simp only [next, Async.advance] at hn
      split at hn
      · split at hn
        · obtain ⟨_, _, rfl⟩ := Option.map_eq_some_iff.mp hn
          rcases List.mem_cons.mp hold with rfl | hold
          · exact .inr ⟨[], _, ms, c, _, rfl, hn₀, hr, rfl, rfl⟩
          · exact .inl hold
        · cases hn
      · cases hn
        exact .inl hold
      · cases hn

/-- What is left of the states before and after an event of the history. -/
theorem rely_of_mem_trace {s : S} {e : Event L S Ω} (hP : P.allow = 𝓛.allow)
    (hstart : ∀ e, P.spawn e = true → 𝓛.Safe (start e)) (h₀ : 𝓛.Inv ⟨s, []⟩)
    (hr : Reaches P start s h) (he : e ∈ h.trace) :
    ∃ h₁ h₂ u, h₁.world = e.before ∧ h₂.world = e.after ∧ 𝓛.Inv h₁ ∧ 𝓛.Inv h₂ ∧
      𝓛.Rely u h₁ h₂ ∧ 𝓛.Rely u h₂ h := by
  obtain ⟨ms, c, hr, rfl⟩ := hr
  have h0 : 𝓛.Sound (ε := ε) (boot s) := ⟨h₀, fun i p hp => by simp [boot] at hp⟩
  rcases run_split hr he with hnil | ⟨ms₁, m, ms₂, c₁, c₂, hr₁, hn, hr₂, hb, ha⟩
  · cases hnil
  have hone : Async.run P start [m] c₁ = some c₂ := Option.bind_eq_some_iff.mpr ⟨c₂, hn, rfl⟩
  have hc₁ := h0.run hP hstart hr₁
  have hc₂ := hc₁.run hP hstart hone
  have hlen := length_tasks_of_next hn
  have hlen' := length_tasks_of_run hr₂
  exact ⟨c₁.toHist, c₂.toHist, c.tasks.length, hb, ha, hc₁.inv, hc₂.inv,
    hc₁.rely_next hP hn (by omega), hc₂.rely_run hP hstart hr₂ (Nat.le_refl _)⟩

end Logic

end Boltz.Async
