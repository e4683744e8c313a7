import Boltz.Swap.HeldSends

/-!
# A held send is released by an approver only

While a swap is held, its row is there and nothing that was decided before can still let a send
through. The one exception is a run that carries out a rejection: it holds the lock of its swap
type until the swap has failed.
-/

namespace Boltz.HeldSends

open SwapUpdateEvent

/-- The stages with the lock of the swap type. -/
def Stage.inside : Stage → Bool
  | loadFresh _ | removeFresh | persist _ | proceed _ | setServerLockup _ | release => true
  | payInvoice | payWaiting _ | payPersist _ | pay _ | prune | pruneRemove | payRelease => true
  | load | remove | waiting _ | acquire _ | done => false

/-- A rejection that is carried out. -/
def Stage.rejecting : Stage → Bool
  | proceed .reject | pay .reject => true
  | _ => false

/-- The row of a hold is removed by a check. -/
def Stage.removes : Stage → Bool
  | remove | removeFresh | pruneRemove => true
  | _ => false

/-- A hold is about to be stored. -/
def Stage.holds : Stage → Bool
  | persist .hold | payPersist .hold => true
  | _ => false

/-- The decision that the run waits for. -/
def Stage.decision? : Stage → Option Nat
  | waiting d | payWaiting d => some d
  | acquire next => next.decision?
  | _ => none

/-- The run carries an approval. -/
def Stage.accepts : Stage → Bool
  | acquire next => next.accepts
  | loadFresh a | persist a | proceed a | payPersist a | pay a => a = .accept
  | _ => false

/-- A lockup is sent for swaps with one, and an invoice is paid for submarine swaps. -/
def Stage.suits (type : SwapType) : Stage → Prop
  | acquire next => next.suits type
  | persist _ | proceed _ | setServerLockup _ => type ≠ .submarine
  | payInvoice | payWaiting _ | payPersist _ | pay _ => type = .submarine
  | _ => True

namespace State

section

variable (cfg : Config)

/-- The decision lets a send through, or will do so without a response. -/
def mayAccept (s : State) (d : Nat) : Bool :=
  match s.decisions[d]? with
  | some ⟨_, .hooked fallback⟩ => fallback.getD cfg.defaultAction = .accept
  | some ⟨_, .resolved action⟩ => action = .accept
  | _ => false

/-- The run lets a send through, or will do so without a response. -/
def stageMayAccept (s : State) (stage : Stage) : Bool :=
  stage.accepts || stage.decision?.any (s.mayAccept cfg)

/-- No run and no decision can release the swap without a response. -/
def Settled (s : State) (id : Nat) : Prop :=
  (∀ run ∈ s.runs, run.swapId = id → s.stageMayAccept cfg run.stage = false) ∧
    ∀ d ∈ s.approvals id, s.mayAccept cfg d = false

/-- A hold is removed without a decision only when the swap is final, no decision that was taken
before is left when a hold is stored, and a rejection is not skipped. -/
def AdmitsRun (s : State) (outcome : Outcome) (run : Run) : Prop :=
  (run.stage.removes = true → s.holds run.swapId = true → s.isFinal cfg run.swapId = true) ∧
    (run.stage.holds = true → s.Settled cfg run.swapId) ∧
    (run.stage = .proceed .reject → outcome ≠ .skipped)

def Admits (s : State) : Op → Prop
  | .run i outcome => ∀ run ∈ s.runs[i]?, s.AdmitsRun cfg outcome run
  | _ => True

instance (s : State) (id : Nat) : Decidable (s.Settled cfg id) := inferInstanceAs (Decidable (_ ∧ _))

instance (s : State) (outcome : Outcome) (run : Run) : Decidable (s.AdmitsRun cfg outcome run) :=
  inferInstanceAs (Decidable (_ ∧ _ ∧ _))

instance (s : State) : (o : Op) → Decidable (s.Admits cfg o)
  | .run i outcome => inferInstanceAs (Decidable (∀ run ∈ s.runs[i]?, s.AdmitsRun cfg outcome run))
  | .store .. | .connect | .disconnect | .timeout _ | .respond .. | .decide _ | .lockup .. =>
    inferInstanceAs (Decidable True)
  | .payInvoice _ | .prune _ => inferInstanceAs (Decidable True)

inductive Reaches (admits : State → Op → Prop) (s₀ : State) : State → Prop
  | start : Reaches admits s₀ s₀
  | step {s s' : State} (o : Op) : Reaches admits s₀ s → admits s o → s.step cfg o = some s' →
      Reaches admits s₀ s'

/-- A run of the swap carries out a rejection. -/
def Rejecting (s : State) (id : Nat) : Prop :=
  ∃ (i : Nat) (run : Run), s.runs[i]? = some run ∧ run.swapId = id ∧ run.stage.rejecting = true

/-- What keeps the sends of a held swap back. -/
def Guard (s : State) (id : Nat) : Prop :=
  (s.holds id = true ∧ s.Settled cfg id) ∨ s.Rejecting id

structure Inv (s : State) : Prop where
  locked : ∀ (i : Nat) (run : Run), s.runs[i]? = some run → run.stage.inside = true →
    s.locks (cfg.typeOf run.swapId) = some i
  waiting : ∀ run ∈ s.runs, ∀ d, run.stage.decision? = some d →
    ∃ decision, s.decisions[d]? = some decision ∧ decision.swapId = run.swapId
  approvals : ∀ id d, s.approvals id = some d →
    ∃ decision, s.decisions[d]? = some decision ∧ decision.swapId = id
  hooks : ∀ id d, s.pendingHooks id = some d →
    ∃ decision, s.decisions[d]? = some decision ∧ decision.swapId = id
  open_ : ∀ id, s.held id = true → s.isFinal cfg id = false
  held : ∀ id, s.held id = true → s.Guard cfg id
  quiet : s.sentWhileHeld = []

def Suited (s : State) : Prop := ∀ run ∈ s.runs, run.stage.suits (cfg.typeOf run.swapId)

end

section

variable {cfg : Config} {s s' : State} {i : Nat} {run : Run} {stage : Stage}

/-! ## Runs that are changed -/

theorem mem_runs (hrun : s.runs[i]? = some run) : run ∈ s.runs := List.mem_of_getElem? hrun

/-- Two runs with the lock of one type are the same. -/
theorem Inv.exclusive (hi : s.Inv cfg) {j : Nat} {other : Run} (hrun : s.runs[i]? = some run)
    (hother : s.runs[j]? = some other) (hid : other.swapId = run.swapId)
    (hin : run.stage.inside = true) (hin' : other.stage.inside = true) : other = run := by
  have h1 := hi.locked i run hrun hin
  have h2 := hi.locked j other hother hin'
  rw [hid, h1] at h2
  cases h2
  rw [hrun] at hother
  exact (Option.some.inj hother).symm

theorem inside_of_rejecting (h : stage.rejecting = true) : stage.inside = true := by
  cases stage <;> first | rfl | cases h

/-- A run with the lock that carries no rejection excludes one that does. -/
theorem Inv.not_rejecting (hi : s.Inv cfg) (hrun : s.runs[i]? = some run)
    (hin : run.stage.inside = true) (hr : run.stage.rejecting = false) :
    ¬s.Rejecting run.swapId := by
  rintro ⟨j, other, hother, hid, hreject⟩
  have heq := hi.exclusive hrun hother hid hin (inside_of_rejecting hreject)
  rw [heq, hr] at hreject
  cases hreject

/-- An approval is carried out only when the swap is not held. -/
theorem Inv.not_held (hi : s.Inv cfg) (hrun : s.runs[i]? = some run)
    (hin : run.stage.inside = true) (hr : run.stage.rejecting = false)
    (ha : run.stage.accepts = true) : s.held run.swapId = false := by
  rw [← Bool.not_eq_true]
  intro hheld
  rcases hi.held _ hheld with ⟨_, hsettled⟩ | hreject
  · have hmay := hsettled.1 run (mem_runs hrun) rfl
    unfold stageMayAccept at hmay
    rw [ha] at hmay
    cases hmay
  · exact hi.not_rejecting hrun hin hr hreject

theorem mem_set {l : List Run} {x y : Run} (h : x ∈ l.set i y) : x ∈ l ∨ x = y :=
  List.mem_or_eq_of_mem_set h

/-- What is left of the guard of a swap after a run moved on. -/
theorem guard_set {run' : Run} {id : Nat} (hw : ∀ run ∈ s.runs, ∀ d,
      run.stage.decision? = some d →
        ∃ decision, s.decisions[d]? = some decision ∧ decision.swapId = run.swapId)
    (ha : ∀ id d, s.approvals id = some d →
      ∃ decision, s.decisions[d]? = some decision ∧ decision.swapId = id)
    (hguard : s.Guard cfg id) (hrun : s.runs[i]? = some run)
    (hruns : s'.runs = s.runs.set i run') (hid : run'.swapId = run.swapId)
    (hmay : ∀ d decision, s.decisions[d]? = some decision → decision.swapId = id →
      s.mayAccept cfg d = false → s'.mayAccept cfg d = false)
    (hholds : s.Settled cfg id → s.holds id = true → s'.holds id = true)
    (happr : ∀ d, s'.approvals id = some d →
      s.approvals id = some d ∨ s'.mayAccept cfg d = false)
    (hstage : run.swapId = id → s.Settled cfg id → s'.stageMayAccept cfg run'.stage = false)
    (hreject : run.swapId = id → run.stage.rejecting = true → run'.stage.rejecting = true) :
    s'.Guard cfg id := by
  rcases hguard with ⟨hhold, hsettled⟩ | ⟨j, other, hother, hother_id, hr⟩
  · refine .inl ⟨hholds hsettled hhold, fun x hx hxid => ?_, fun d hd => ?_⟩
    · rw [hruns] at hx
      rcases mem_set hx with hx | rfl
      · have hold := hsettled.1 x hx hxid
        unfold stageMayAccept at hold ⊢
        rw [Bool.or_eq_false_iff] at hold ⊢
        refine ⟨hold.1, ?_⟩
        cases hd : x.stage.decision? with
        | none => rfl
        | some d =>
          rw [hd] at hold
          obtain ⟨decision, hget, hown⟩ := hw x hx d hd
          exact hmay d decision hget (hown.trans hxid) hold.2
      · have hrid : run.swapId = id := hid.symm.trans hxid
        exact hstage hrid hsettled
    · rcases happr d hd with hd | hd
      · obtain ⟨decision, hget, hown⟩ := ha id d hd
        exact hmay d decision hget hown (hsettled.2 d hd)
      · exact hd
  · right
    by_cases hj : j = i
    · subst hj
      rw [hrun] at hother
      cases hother
      refine ⟨j, run', ?_, hid.trans hother_id, hreject hother_id hr⟩
      rw [hruns]
      have hlt : j < s.runs.length := (List.getElem?_eq_some_iff.mp hrun).1
      exact List.getElem?_set_self hlt
    · refine ⟨j, other, ?_, hother_id, hr⟩
      rw [hruns, List.getElem?_set_ne (fun h => hj h.symm)]
      exact hother

/-- The locks of a run that moves on without taking or giving one. -/
theorem locked_set (hi : s.Inv cfg) (hrun : s.runs[i]? = some run)
    (hin : stage.inside = true → run.stage.inside = true) :
    ∀ (j : Nat) (r : Run), (s.runs.set i { run with stage })[j]? = some r →
      r.stage.inside = true → s.locks (cfg.typeOf r.swapId) = some j := by
  intro j r hr hinside
  by_cases hj : i = j
  · subst hj
    have hlt : i < s.runs.length := (List.getElem?_eq_some_iff.mp hrun).1
    rw [List.getElem?_set_self hlt] at hr
    cases hr
    exact hi.locked i run hrun (hin hinside)
  · rw [List.getElem?_set_ne hj] at hr
    exact hi.locked j r hr hinside

theorem waiting_set (hi : s.Inv cfg)
    (hd : ∀ d, stage.decision? = some d → ∃ decision, s.decisions[d]? = some decision ∧
      decision.swapId = run.swapId) :
    ∀ r ∈ s.runs.set i { run with stage }, ∀ d, r.stage.decision? = some d →
      ∃ decision, s.decisions[d]? = some decision ∧ decision.swapId = r.swapId := by
  intro r hr d hdec
  rcases mem_set hr with hr | rfl
  · exact hi.waiting r hr d hdec
  · exact hd d hdec

theorem mayAccept_congr (h : s'.decisions = s.decisions) (d : Nat) :
    s'.mayAccept cfg d = s.mayAccept cfg d := by
  unfold mayAccept
  rw [h]

/-- A run that moved on, with the decisions as they were. -/
theorem guard_moved {id : Nat} (hi : s.Inv cfg) (hrun : s.runs[i]? = some run)
    (hruns : s'.runs = s.runs.set i { run with stage }) (hdecs : s'.decisions = s.decisions)
    (happr : ∀ d, s'.approvals id = some d → s.approvals id = some d)
    (hheld : s.held id = true)
    (hholds : s.Settled cfg id → s.holds id = true → s'.holds id = true)
    (hstage : run.swapId = id → s.stageMayAccept cfg run.stage = false →
      s'.stageMayAccept cfg stage = false)
    (hreject : run.swapId = id → run.stage.rejecting = true → stage.rejecting = true) :
    s'.Guard cfg id := by
  refine guard_set hi.waiting hi.approvals (hi.held id hheld) hrun hruns rfl
    (fun d _ _ _ h => ?_) hholds (fun d hd => .inl (happr d hd))
    (fun hid hs => hstage hid (hs.1 run (mem_runs hrun) hid)) hreject
  rw [mayAccept_congr hdecs]
  exact h

theorem Inv.of_run (hi : s.Inv cfg) (hrun : s.runs[i]? = some run)
    (hruns : s'.runs = s.runs.set i { run with stage }) (hdecs : s'.decisions = s.decisions)
    (hhooks : s'.pendingHooks = s.pendingHooks) (hlocks : s'.locks = s.locks)
    (happr : ∀ id d, s'.approvals id = some d → s.approvals id = some d)
    (hin : stage.inside = true → run.stage.inside = true) (hdec : stage.decision? = none)
    (hopen : ∀ id, s'.held id = true → s'.isFinal cfg id = false)
    (hguard : ∀ id, s'.held id = true → s'.Guard cfg id) (hquiet : s'.sentWhileHeld = []) :
    s'.Inv cfg where
  locked := by
    rw [hruns, hlocks]
    exact locked_set hi hrun hin
  waiting := by
    rw [hruns, hdecs]
    refine waiting_set hi fun d hd => ?_
    rw [hdec] at hd
    cases hd
  approvals id d hd := by
    rw [hdecs]
    exact hi.approvals id d (happr id d hd)
  hooks id d hd := by
    rw [hdecs]
    rw [hhooks] at hd
    exact hi.hooks id d hd
  open_ := hopen
  held := hguard
  quiet := hquiet

/-- A step that only moves a run on. -/
theorem inv_setStage (hi : s.Inv cfg) (hrun : s.runs[i]? = some run)
    (hin : stage.inside = true → run.stage.inside = true) (hdec : stage.decision? = none)
    (hstage : s.stageMayAccept cfg run.stage = false → stage.accepts = false)
    (hreject : run.stage.rejecting = true → stage.rejecting = true) :
    (s.setStage i run stage).Inv cfg := by
  refine hi.of_run hrun rfl rfl rfl rfl (fun _ _ h => h) hin hdec hi.open_ (fun id hheld => ?_)
    hi.quiet
  refine guard_moved hi hrun rfl rfl (fun _ h => h) hheld (fun _ h => h) (fun _ h => ?_)
    fun _ => hreject
  unfold stageMayAccept
  rw [hdec, hstage h]
  rfl

/-- The row of the hold is removed by a check: a held swap has none. -/
theorem inv_removeHold (hi : s.Inv cfg) (hrun : s.runs[i]? = some run)
    (ha : s.holds run.swapId = true → s.isFinal cfg run.swapId = true)
    (hin : stage.inside = true → run.stage.inside = true) (hdec : stage.decision? = none)
    (hacc : stage.accepts = false) (hreject : run.stage.rejecting = false) :
    ((s.removeHold run.swapId).setStage i run stage).Inv cfg := by
  refine hi.of_run hrun rfl rfl rfl rfl (fun _ _ h => h) hin hdec hi.open_ (fun id hheld => ?_)
    hi.quiet
  refine guard_moved hi hrun rfl rfl (fun _ h => h) hheld (fun _ hhold => ?_) (fun _ _ => ?_)
    fun _ h => ?_
  · change Function.update s.holds run.swapId false id = true
    by_cases hid : id = run.swapId
    · subst hid
      have hopen := hi.open_ _ hheld
      rw [ha hhold] at hopen
      cases hopen
    · rw [Function.update_of_ne hid]
      exact hhold
  · unfold stageMayAccept
    rw [hdec, hacc]
    rfl
  · rw [hreject] at h
    cases h

/-- A decision is stored: a hold keeps everything back, an approval is one of a swap that is not
held, and a rejection is carried out next. -/
theorem inv_persist (hi : s.Inv cfg) (hrun : s.runs[i]? = some run) {a : SendApprovalAction}
    {held next : Stage} (hin : run.stage.inside = true) (hr : run.stage.rejecting = false)
    (hacc : a = .accept → run.stage.accepts = true)
    (hsettled : a = .hold → s.Settled cfg run.swapId)
    (hheldDec : held.decision? = none) (hheldAcc : held.accepts = false)
    (hnextDec : next.decision? = none) (hnext : a = .reject → next.rejecting = true) :
    (s.persistSendApprovalDecision cfg i run a held next).Inv cfg := by
  unfold persistSendApprovalDecision
  split
  · rename_i ha
    refine hi.of_run hrun rfl rfl rfl rfl (fun _ _ h => h) (fun _ => hin) hheldDec
      (fun id hheld => ?_) (fun id hheld => ?_) hi.quiet
    · change Function.update s.held run.swapId (!s.isFinal cfg run.swapId) id = true at hheld
      by_cases hid : id = run.swapId
      · subst hid
        rw [Function.update_self, Bool.not_eq_true'] at hheld
        exact hheld
      · rw [Function.update_of_ne hid] at hheld
        exact hi.open_ id hheld
    · change Function.update s.held run.swapId (!s.isFinal cfg run.swapId) id = true at hheld
      have hstage : ∀ s₁ : State, s₁.stageMayAccept cfg held = false := by
        intro s₁
        unfold stageMayAccept
        rw [hheldDec, hheldAcc]
        rfl
      by_cases hid : id = run.swapId
      · subst hid
        left
        refine ⟨Function.update_self .., fun x hx hxid => ?_, (hsettled ha).2⟩
        rcases mem_set hx with hx | rfl
        · exact (hsettled ha).1 x hx hxid
        · exact hstage _
      · rw [Function.update_of_ne hid] at hheld
        refine guard_moved hi hrun rfl rfl (fun _ h => h) hheld (fun _ hhold => ?_)
          (fun _ _ => hstage _) fun h => absurd h.symm hid
        change Function.update s.holds run.swapId true id = true
        rw [Function.update_of_ne hid]
        exact hhold
  · rename_i ha
    refine hi.of_run hrun rfl rfl rfl rfl (fun _ _ h => h) (fun _ => hin) hnextDec hi.open_
      (fun id hheld => ?_) hi.quiet
    by_cases hid : id = run.swapId
    · subst hid
      cases a with
      | hold => exact absurd rfl ha
      | accept =>
        change s.held run.swapId = true at hheld
        rw [hi.not_held hrun hin hr (hacc rfl)] at hheld
        cases hheld
      | reject =>
        right
        have hlt : i < s.runs.length := (List.getElem?_eq_some_iff.mp hrun).1
        exact ⟨i, { run with stage := next }, List.getElem?_set_self hlt, rfl, hnext rfl⟩
    · refine guard_moved hi hrun rfl rfl (fun _ h => h) hheld (fun _ hhold => ?_)
        (fun h => absurd h.symm hid) fun h => absurd h.symm hid
      change Function.update s.holds run.swapId false id = true
      rw [Function.update_of_ne hid]
      exact hhold

theorem deleteApproval_some {id j d : Nat} (h : (s.deleteApproval id).approvals j = some d) :
    s.approvals j = some d := by
  change Function.update s.approvals id none j = some d at h
  by_cases hj : j = id
  · subst hj
    rw [Function.update_self] at h
    cases h
  · rwa [Function.update_of_ne hj] at h

/-- A pending approval is forgotten. -/
theorem inv_deleteApproval (hi : s.Inv cfg) (id : Nat) : (s.deleteApproval id).Inv cfg where
  locked := hi.locked
  waiting := hi.waiting
  approvals j d hd := hi.approvals j d (deleteApproval_some hd)
  hooks := hi.hooks
  open_ := hi.open_
  held j hheld := by
    rcases hi.held j hheld with ⟨hhold, hsettled⟩ | hreject
    · exact .inl ⟨hhold, hsettled.1, fun d hd => hsettled.2 d (deleteApproval_some hd)⟩
    · exact .inr hreject
  quiet := hi.quiet

/-! ## Rows -/

theorem held_storeRow {id j : Nat} {row : Row} (h : (s.storeRow cfg id row).held j = true) :
    s.held j = true ∧ (s.storeRow cfg id row).isFinal cfg j = s.isFinal cfg j ∧ j ≠ id ∨
      s.held j = true ∧ j = id ∧ (s.storeRow cfg id row).isFinal cfg j = false := by
  unfold storeRow at h ⊢
  dsimp only at h ⊢
  by_cases hj : j = id
  · subst hj
    rw [Function.update_self, Bool.and_eq_true, Bool.not_eq_true'] at h
    refine .inr ⟨h.1, rfl, ?_⟩
    unfold isFinal
    simp only [Function.update_self]
    exact h.2
  · rw [Function.update_of_ne hj] at h
    refine .inl ⟨h, ?_, hj⟩
    unfold isFinal
    simp only [Function.update_of_ne hj]

theorem inv_storeRow (hi : s.Inv cfg) (id : Nat) (row : Row) : (s.storeRow cfg id row).Inv cfg where
  locked := hi.locked
  waiting := hi.waiting
  approvals := hi.approvals
  hooks := hi.hooks
  open_ j hheld := by
    rcases held_storeRow hheld with ⟨hold, hfinal, _⟩ | ⟨_, _, hfinal⟩
    · rw [hfinal]
      exact hi.open_ j hold
    · exact hfinal
  held j hheld := by
    have hold : s.held j = true := by
      rcases held_storeRow hheld with ⟨hold, _⟩ | ⟨hold, _⟩ <;> exact hold
    exact hi.held j hold
  quiet := hi.quiet

/-- A final status releases the swap, so that the run may go on without its rejection. -/
theorem inv_fail (hi : s.Inv cfg) (hrun : s.runs[i]? = some run) {status : SwapUpdateEvent}
    (hfinal : ∀ row : Row, Row.isFinal { row with status } (cfg.typeOf run.swapId) = true)
    (hin : stage.inside = true → run.stage.inside = true) (hdec : stage.decision? = none) :
    ((s.storeStatus cfg run.swapId status).setStage i run stage).Inv cfg := by
  have hheld : ∀ id, (s.storeStatus cfg run.swapId status).held id = true →
      s.held id = true ∧ id ≠ run.swapId ∧
        (s.storeStatus cfg run.swapId status).isFinal cfg id = false := by
    intro id h
    unfold storeStatus at h ⊢
    split at h
    · rename_i hnone
      refine ⟨h, ?_, hi.open_ id h⟩
      rintro rfl
      have hopen := hi.open_ _ h
      unfold isFinal at hopen
      rw [hnone] at hopen
      cases hopen
    · rename_i row hrow
      rcases held_storeRow h with ⟨hold, hsame, hne⟩ | ⟨_, rfl, hopen⟩
      · exact ⟨hold, hne, by rw [hsame]; exact hi.open_ id hold⟩
      · unfold isFinal storeRow at hopen
        simp only [Function.update_self, hfinal] at hopen
        cases hopen
  have hsame : (s.storeStatus cfg run.swapId status).runs = s.runs ∧
      (s.storeStatus cfg run.swapId status).decisions = s.decisions ∧
      (s.storeStatus cfg run.swapId status).pendingHooks = s.pendingHooks ∧
      (s.storeStatus cfg run.swapId status).locks = s.locks ∧
      (s.storeStatus cfg run.swapId status).approvals = s.approvals ∧
      (s.storeStatus cfg run.swapId status).holds = s.holds ∧
      (s.storeStatus cfg run.swapId status).sentWhileHeld = s.sentWhileHeld := by
    unfold storeStatus
    split
    · exact ⟨rfl, rfl, rfl, rfl, rfl, rfl, rfl⟩
    · exact ⟨rfl, rfl, rfl, rfl, rfl, rfl, rfl⟩
  obtain ⟨hruns, hdecs, hhooks, hlocks, happr, hholds, hsent⟩ := hsame
  have hset : ((s.storeStatus cfg run.swapId status).setStage i run stage).runs =
      s.runs.set i { run with stage } := congrArg (·.set i { run with stage }) hruns
  refine hi.of_run hrun hset hdecs hhooks hlocks (fun id d h => ?_) hin hdec
    (fun id h => (hheld id h).2.2) (fun id h => ?_) (hsent.trans hi.quiet)
  · rw [← happr]
    exact h
  · obtain ⟨hold, hne, _⟩ := hheld id h
    refine guard_moved hi hrun hset hdecs (fun d hd => ?_) hold (fun _ hhold => ?_)
      (fun h => absurd h.symm hne) fun h => absurd h.symm hne
    · rw [← happr]
      exact hd
    · change (s.storeStatus cfg run.swapId status).holds id = true
      rw [hholds]
      exact hhold

/-- A send of a swap that is not held. -/
theorem inv_recordSend (hi : s.Inv cfg) {id : Nat} (h : s.held id = false) :
    (s.recordSend id).Inv cfg where
  locked := hi.locked
  waiting := hi.waiting
  approvals := hi.approvals
  hooks := hi.hooks
  open_ := hi.open_
  held := hi.held
  quiet := by
    unfold recordSend
    dsimp only
    rw [h]
    exact hi.quiet

/-! ## Locks -/

/-- The lock was free, so no other run is inside. -/
theorem inv_takeLock (hi : s.Inv cfg) (hrun : s.runs[i]? = some run) {next : Stage}
    (hs : run.stage = .acquire next) (h : s.takeLock cfg i run next = some s') : s'.Inv cfg := by
  unfold takeLock at h
  split at h
  · cases h
  rename_i hfree
  simp only [Option.some.injEq] at h
  subst h
  have hnone : s.locks (cfg.typeOf run.swapId) = none := by simpa using hfree
  refine ⟨fun j r hr hin => ?_, ?_, hi.approvals, hi.hooks, hi.open_, fun id hheld => ?_, hi.quiet⟩
  · change Function.update s.locks (cfg.typeOf run.swapId) (some i) (cfg.typeOf r.swapId) = some j
    by_cases hj : i = j
    · subst hj
      have hlt : i < s.runs.length := (List.getElem?_eq_some_iff.mp hrun).1
      change (s.runs.set i { run with stage := next })[i]? = some r at hr
      rw [List.getElem?_set_self hlt] at hr
      cases hr
      exact Function.update_self ..
    · change (s.runs.set i { run with stage := next })[j]? = some r at hr
      rw [List.getElem?_set_ne hj] at hr
      have hlock := hi.locked j r hr hin
      rw [Function.update_of_ne]
      · exact hlock
      · intro heq
        rw [heq, hnone] at hlock
        cases hlock
  · refine waiting_set hi fun d hd => hi.waiting run (mem_runs hrun) d ?_
    rw [hs]
    exact hd
  · have hguard : (s.setStage i run next).Guard cfg id := by
      refine guard_moved hi hrun rfl rfl (fun _ h => h) hheld (fun _ h => h) (fun _ h => ?_)
        fun _ h => ?_
      · rw [hs] at h
        exact h
      · rw [hs] at h
        cases h
    exact hguard

theorem inv_giveLock (hi : s.Inv cfg) (hrun : s.runs[i]? = some run)
    (hin : run.stage.inside = true) (hr : run.stage.rejecting = false) :
    (s.giveLock cfg i run).Inv cfg := by
  have hlock := hi.locked i run hrun hin
  refine ⟨fun j r hget hinside => ?_, ?_, hi.approvals, hi.hooks, hi.open_, fun id hheld => ?_,
    hi.quiet⟩
  · change Function.update s.locks (cfg.typeOf run.swapId) none (cfg.typeOf r.swapId) = some j
    change (s.runs.set i { run with stage := .done })[j]? = some r at hget
    by_cases hj : i = j
    · subst hj
      have hlt : i < s.runs.length := (List.getElem?_eq_some_iff.mp hrun).1
      rw [List.getElem?_set_self hlt] at hget
      cases hget
      cases hinside
    · rw [List.getElem?_set_ne hj] at hget
      have hother := hi.locked j r hget hinside
      rw [Function.update_of_ne]
      · exact hother
      · intro heq
        rw [heq, hlock] at hother
        exact hj (Option.some.inj hother)
  · refine waiting_set hi fun d hd => ?_
    cases hd
  · have hguard : (s.setStage i run .done).Guard cfg id := by
      refine guard_moved hi hrun rfl rfl (fun _ h => h) hheld (fun _ h => h) (fun _ _ => rfl)
        fun _ h => ?_
      rw [hr] at h
      cases h
    exact hguard

/-! ## Decisions -/

/-- The decisions keep their swaps. -/
def KeepsDecisions (s s' : State) : Prop :=
  ∀ (d : Nat) (decision : Decision), s.decisions[d]? = some decision →
    ∃ decision' : Decision, s'.decisions[d]? = some decision' ∧
      decision'.swapId = decision.swapId

/-- Steps of decisions: those of held swaps do not turn into approvals. -/
theorem Inv.of_decisions (hi : s.Inv cfg) (hkeeps : KeepsDecisions s s')
    (hruns : s'.runs = s.runs) (hlocks : s'.locks = s.locks) (happr : s'.approvals = s.approvals)
    (hrows : s'.rows = s.rows) (hholds : s'.holds = s.holds)
    (hhooks : ∀ id d, s'.pendingHooks id = some d →
      ∃ decision, s'.decisions[d]? = some decision ∧ decision.swapId = id)
    (hheld : ∀ id, s'.held id = true → s.held id = true)
    (hmay : ∀ (d : Nat) (decision : Decision), s.decisions[d]? = some decision →
      s'.held decision.swapId = true → s.holds decision.swapId = true →
      s.mayAccept cfg d = false → s'.mayAccept cfg d = false)
    (hquiet : s'.sentWhileHeld = []) : s'.Inv cfg where
  locked := by
    rw [hruns, hlocks]
    exact hi.locked
  waiting := by
    rw [hruns]
    intro run hrun d hd
    obtain ⟨decision, hget, hid⟩ := hi.waiting run hrun d hd
    obtain ⟨decision', hget', hid'⟩ := hkeeps d decision hget
    exact ⟨decision', hget', hid'.trans hid⟩
  approvals := by
    rw [happr]
    intro id d hd
    obtain ⟨decision, hget, hid⟩ := hi.approvals id d hd
    obtain ⟨decision', hget', hid'⟩ := hkeeps d decision hget
    exact ⟨decision', hget', hid'.trans hid⟩
  hooks := hhooks
  open_ id h := by
    unfold isFinal
    rw [hrows]
    exact hi.open_ id (hheld id h)
  held id h := by
    rcases hi.held id (hheld id h) with ⟨hhold, hsettled⟩ | hreject
    · refine .inl ⟨hholds ▸ hhold, fun run hrun hid => ?_, fun d hd => ?_⟩
      · rw [hruns] at hrun
        have hold := hsettled.1 run hrun hid
        unfold stageMayAccept at hold ⊢
        rw [Bool.or_eq_false_iff] at hold ⊢
        refine ⟨hold.1, ?_⟩
        cases hdec : run.stage.decision? with
        | none => rfl
        | some d =>
          rw [hdec] at hold
          obtain ⟨decision, hget, hown⟩ := hi.waiting run hrun d hdec
          have hown' : decision.swapId = id := hown.trans hid
          exact hmay d decision hget (hown' ▸ h) (hown' ▸ hhold) hold.2
      · rw [happr] at hd
        obtain ⟨decision, hget, hown⟩ := hi.approvals id d hd
        exact hmay d decision hget (hown ▸ h) (hown ▸ hhold) (hsettled.2 d hd)
    · right
      unfold Rejecting
      rw [hruns]
      exact hreject
  quiet := hquiet

theorem keepsDecisions_set {d id : Nat} {stage₀ : DecisionStage} (stage₁ : DecisionStage)
    (hget : s.decisions[d]? = some ⟨id, stage₀⟩)
    (hdecs : s'.decisions = s.decisions.set d ⟨id, stage₁⟩) : KeepsDecisions s s' := by
  intro j decision hj
  rw [hdecs]
  by_cases heq : d = j
  · subst heq
    rw [hget] at hj
    cases hj
    have hlt : d < s.decisions.length := (List.getElem?_eq_some_iff.mp hget).1
    exact ⟨_, List.getElem?_set_self hlt, rfl⟩
  · rw [List.getElem?_set_ne heq]
    exact ⟨decision, hj, rfl⟩

/-- A decision of a held swap takes the fallback. -/
theorem mayAccept_set {d id : Nat} {stage₀ : DecisionStage} (stage₁ : DecisionStage)
    (hget : s.decisions[d]? = some ⟨id, stage₀⟩)
    (hdecs : s'.decisions = s.decisions.set d ⟨id, stage₁⟩)
    (hheld : s'.held id = true → s.holds id = true → s.mayAccept cfg d = false →
      s'.mayAccept cfg d = false) :
    ∀ (j : Nat) (decision : Decision), s.decisions[j]? = some decision →
      s'.held decision.swapId = true → s.holds decision.swapId = true →
      s.mayAccept cfg j = false → s'.mayAccept cfg j = false := by
  intro j decision hj hh hhold hmay
  by_cases heq : d = j
  · subst heq
    rw [hget] at hj
    cases hj
    exact hheld hh hhold hmay
  · unfold mayAccept at hmay ⊢
    rw [hdecs, List.getElem?_set_ne heq]
    exact hmay

theorem hooks_of_keeps (hi : s.Inv cfg) (hkeeps : KeepsDecisions s s')
    (hhooks : ∀ id d, s'.pendingHooks id = some d → s.pendingHooks id = some d) :
    ∀ id d, s'.pendingHooks id = some d →
      ∃ decision, s'.decisions[d]? = some decision ∧ decision.swapId = id := by
  intro id d hd
  obtain ⟨decision, hget, hid⟩ := hi.hooks id d (hhooks id d hd)
  obtain ⟨decision', hget', hid'⟩ := hkeeps d decision hget
  exact ⟨decision', hget', hid'.trans hid⟩

theorem update_none_some {f : Nat → Option Nat} {id j d : Nat}
    (h : Function.update f id none j = some d) : f j = some d := by
  by_cases hj : j = id
  · subst hj
    rw [Function.update_self] at h
    cases h
  · rwa [Function.update_of_ne hj] at h

/-- The row of the hold is seen, so that the fallback is a hold. -/
theorem inv_decide (hi : s.Inv cfg) {d : Nat} (h : s.decide cfg d = some s') : s'.Inv cfg := by
  unfold decide at h
  split at h
  swap
  · cases h
  rename_i id hget
  have hlt : d < s.decisions.length := (List.getElem?_eq_some_iff.mp hget).1
  dsimp only at h
  split at h
  · simp only [Option.some.injEq] at h
    subst h
    have hkeeps : KeepsDecisions s { s.setDecision d id (.hooked (if s.holds id then some .hold
        else none)) with pendingHooks := Function.update s.pendingHooks id (some d) } :=
      keepsDecisions_set _ hget rfl
    refine hi.of_decisions hkeeps rfl rfl rfl rfl rfl (fun j e hj => ?_) (fun _ h => h)
      (mayAccept_set _ hget rfl fun _ hhold _ => ?_) hi.quiet
    · change Function.update s.pendingHooks id (some d) j = some e at hj
      by_cases hid : j = id
      · subst hid
        rw [Function.update_self] at hj
        cases hj
        exact ⟨_, List.getElem?_set_self hlt, rfl⟩
      · rw [Function.update_of_ne hid] at hj
        obtain ⟨decision, hdec, hown⟩ := hi.hooks j e hj
        obtain ⟨decision', hdec', hown'⟩ := hkeeps e decision hdec
        exact ⟨decision', hdec', hown'.trans hown⟩
    · unfold mayAccept setDecision
      simp only [List.getElem?_set_self hlt, hhold, if_true]
      rfl
  · simp only [Option.some.injEq] at h
    subst h
    have hkeeps : KeepsDecisions s (s.setDecision d id (.resolved ((if s.holds id then
        some SendApprovalAction.hold else none).getD cfg.defaultAction))) :=
      keepsDecisions_set _ hget rfl
    refine hi.of_decisions hkeeps rfl rfl rfl rfl rfl (hooks_of_keeps hi hkeeps fun _ _ h => h)
      (fun _ h => h) (mayAccept_set _ hget rfl fun _ hhold _ => ?_) hi.quiet
    unfold mayAccept setDecision
    simp only [List.getElem?_set_self hlt, hhold, if_true]
    rfl

theorem inv_timeout (hi : s.Inv cfg) {d : Nat} (h : s.timeout cfg d = some s') : s'.Inv cfg := by
  unfold timeout at h
  split at h
  swap
  · cases h
  rename_i id fallback hget
  split at h
  swap
  · cases h
  simp only [Option.some.injEq] at h
  subst h
  have hlt : d < s.decisions.length := (List.getElem?_eq_some_iff.mp hget).1
  have hkeeps : KeepsDecisions s { s.setDecision d id (.resolved
      (fallback.getD cfg.defaultAction)) with
      pendingHooks := Function.update s.pendingHooks id none } := keepsDecisions_set _ hget rfl
  refine hi.of_decisions hkeeps rfl rfl rfl rfl rfl
    (hooks_of_keeps hi hkeeps fun _ _ h => update_none_some h) (fun _ h => h)
    (mayAccept_set _ hget rfl fun _ _ hmay => ?_) hi.quiet
  unfold mayAccept at hmay ⊢
  rw [hget] at hmay
  unfold setDecision
  simp only [List.getElem?_set_self hlt]
  exact hmay

/-- An approval releases the swap, and any other response lets nothing through. -/
theorem inv_respond (hi : s.Inv cfg) (id : Nat) (action : SendApprovalAction) :
    (s.respond id action).Inv cfg := by
  have hheld : ∀ j, Function.update s.held id (s.held id && action != .accept) j = true →
      s.held j = true ∧ (j = id → action ≠ .accept) := by
    intro j h
    by_cases hj : j = id
    · subst hj
      rw [Function.update_self, Bool.and_eq_true, bne_iff_ne] at h
      exact ⟨h.1, fun _ => h.2⟩
    · rw [Function.update_of_ne hj] at h
      exact ⟨h, fun heq => absurd heq hj⟩
  unfold respond
  dsimp only
  split
  · exact ⟨hi.locked, hi.waiting, hi.approvals, hi.hooks, fun j h => hi.open_ j (hheld j h).1,
      fun j h => hi.held j (hheld j h).1, hi.quiet⟩
  · rename_i d hd
    obtain ⟨⟨own, stage₀⟩, hget, rfl⟩ := hi.hooks id d hd
    have hlt : d < s.decisions.length := (List.getElem?_eq_some_iff.mp hget).1
    have hkeeps : KeepsDecisions s { { s with
        held := Function.update s.held own
          (s.held own && action != SendApprovalAction.accept) }.setDecision d own
        (.resolved action) with pendingHooks := Function.update s.pendingHooks own none } :=
      keepsDecisions_set _ hget rfl
    refine hi.of_decisions hkeeps rfl rfl rfl rfl rfl
      (hooks_of_keeps hi hkeeps fun _ _ h => update_none_some h) (fun j h => (hheld j h).1)
      (mayAccept_set _ hget rfl fun h _ _ => ?_) hi.quiet
    have hne : action ≠ .accept := (hheld own h).2 rfl
    unfold mayAccept setDecision
    simp only [List.getElem?_set_self hlt]
    simpa using hne

theorem resolveFallback_swapId (d : Nat) (decision : Decision) :
    (s.resolveFallback cfg d decision).swapId = decision.swapId := by
  unfold resolveFallback
  split
  · split <;> rfl
  · rfl

/-- The requests that the stream loses take their fallback. -/
theorem inv_disconnect (hi : s.Inv cfg) : (s.disconnect cfg).Inv cfg := by
  have hkeeps : KeepsDecisions s (s.disconnect cfg) := by
    intro d decision hget
    refine ⟨s.resolveFallback cfg d decision, ?_, resolveFallback_swapId d decision⟩
    unfold disconnect
    simp only [List.getElem?_mapIdx, hget, Option.map_some]
  refine hi.of_decisions hkeeps rfl rfl rfl rfl rfl (fun _ _ h => ?_) (fun _ h => h)
    (fun d decision hget _ _ hmay => ?_) hi.quiet
  · cases h
  · obtain ⟨id, stage⟩ := decision
    unfold mayAccept disconnect at *
    rw [hget] at hmay
    simp only [List.getElem?_mapIdx, hget, Option.map_some]
    unfold resolveFallback
    cases stage with
    | asked => rfl
    | hooked fallback =>
      dsimp only
      by_cases hpending : s.pendingHooks id = some d
      · rw [if_pos hpending]
        exact hmay
      · rw [if_neg hpending]
        exact hmay
    | resolved action => exact hmay

/-! ## Requests -/

theorem getElem?_newDecision {id d : Nat} {decision : Decision}
    (h : s.decisions[d]? = some decision) :
    (s.newDecision id).decisions[d]? = some decision := by
  unfold newDecision
  dsimp only
  rw [List.getElem?_append_left (List.getElem?_eq_some_iff.mp h).1]
  exact h

theorem getElem?_newDecision_self (s : State) (id : Nat) :
    (s.newDecision id).decisions[s.decisions.length]? = some ⟨id, .asked⟩ :=
  List.getElem?_concat_length

/-- A request that was just sent is not decided. -/
theorem mayAccept_newDecision_self (s : State) (id : Nat) :
    (s.newDecision id).mayAccept cfg s.decisions.length = false := by
  unfold mayAccept
  rw [getElem?_newDecision_self]

theorem mayAccept_newDecision {id d : Nat} {decision : Decision}
    (h : s.decisions[d]? = some decision) :
    (s.newDecision id).mayAccept cfg d = s.mayAccept cfg d := by
  unfold mayAccept
  rw [getElem?_newDecision h, h]

/-- A run sends a request of its own and waits for it. -/
theorem inv_request (hi : s.Inv cfg) (hrun : s.runs[i]? = some run) (stage : Stage)
    (hin : stage.inside = true → run.stage.inside = true)
    (hdec : stage.decision? = some s.decisions.length) (hacc : stage.accepts = false)
    (hr : run.stage.rejecting = false) (hdecs : s'.decisions = (s.newDecision run.swapId).decisions)
    (hruns : s'.runs = s.runs.set i { run with stage }) (hlocks : s'.locks = s.locks)
    (hhooks : s'.pendingHooks = s.pendingHooks) (hrows : s'.rows = s.rows)
    (hholds : s'.holds = s.holds) (hheld : s'.held = s.held)
    (happr : ∀ id d, s'.approvals id = some d →
      s.approvals id = some d ∨ id = run.swapId ∧ d = s.decisions.length)
    (hquiet : s'.sentWhileHeld = s.sentWhileHeld) : s'.Inv cfg := by
  have hmay : ∀ d, s'.mayAccept cfg d = (s.newDecision run.swapId).mayAccept cfg d :=
    mayAccept_congr hdecs
  refine ⟨?_, ?_, fun id d hd => ?_, fun id d hd => ?_, fun id h => ?_, fun id h => ?_,
    hquiet.trans hi.quiet⟩
  · rw [hruns, hlocks]
    exact locked_set hi hrun hin
  · rw [hruns, hdecs]
    intro r hmem d hd
    rcases mem_set hmem with hmem | rfl
    · obtain ⟨decision, hget, hown⟩ := hi.waiting r hmem d hd
      exact ⟨decision, getElem?_newDecision hget, hown⟩
    · rw [hdec] at hd
      cases hd
      exact ⟨_, getElem?_newDecision_self s run.swapId, rfl⟩
  · rw [hdecs]
    rcases happr id d hd with hd | ⟨rfl, rfl⟩
    · obtain ⟨decision, hget, hown⟩ := hi.approvals id d hd
      exact ⟨decision, getElem?_newDecision hget, hown⟩
    · exact ⟨_, getElem?_newDecision_self s run.swapId, rfl⟩
  · rw [hhooks] at hd
    rw [hdecs]
    obtain ⟨decision, hget, hown⟩ := hi.hooks id d hd
    exact ⟨decision, getElem?_newDecision hget, hown⟩
  · unfold isFinal
    rw [hrows]
    rw [hheld] at h
    exact hi.open_ id h
  · rw [hheld] at h
    refine guard_set hi.waiting hi.approvals (hi.held id h) hrun hruns rfl
      (fun d decision hget _ hold => ?_) (fun _ hhold => hholds ▸ hhold) (fun d hd => ?_)
      (fun _ _ => ?_) fun _ hreject => ?_
    · rw [hmay, mayAccept_newDecision hget]
      exact hold
    · rcases happr id d hd with hd | ⟨_, rfl⟩
      · exact .inl hd
      · right
        rw [hmay]
        exact mayAccept_newDecision_self s run.swapId
    · unfold stageMayAccept
      rw [hdec, hacc, Option.any_some, hmay, mayAccept_newDecision_self]
      rfl
    · rw [hr] at hreject
      cases hreject

/-- A run joins the request that is sent already, or sends one. -/
theorem inv_resolveSendApproval (hi : s.Inv cfg) (hrun : s.runs[i]? = some run)
    (hr : run.stage.rejecting = false) : (s.resolveSendApproval i run).Inv cfg := by
  unfold resolveSendApproval
  split
  · rename_i d hd
    refine ⟨?_, ?_, hi.approvals, hi.hooks, hi.open_, fun id hheld => ?_, hi.quiet⟩
    · refine locked_set hi hrun fun h => ?_
      cases h
    · refine waiting_set hi fun e he => ?_
      cases he
      exact hi.approvals _ _ hd
    · refine guard_set hi.waiting hi.approvals (hi.held id hheld) hrun rfl rfl
        (fun _ _ _ _ h => h) (fun _ h => h) (fun _ h => .inl h) (fun hid hs => ?_) fun _ h => ?_
      · subst hid
        exact hs.2 d hd
      · rw [hr] at h
        cases h
  · refine inv_request hi hrun (.waiting s.decisions.length) (fun h => ?_) rfl rfl hr rfl
      rfl rfl rfl rfl rfl rfl (fun id d hd => ?_) rfl
    · cases h
    · change Function.update s.approvals run.swapId (some s.decisions.length) id = some d at hd
      by_cases hid : id = run.swapId
      · subst hid
        rw [Function.update_self] at hd
        exact .inr ⟨rfl, (Option.some.inj hd).symm⟩
      · rw [Function.update_of_ne hid] at hd
        exact .inl hd

/-- A run that just started holds no lock and no approval. -/
theorem inv_start (hi : s.Inv cfg) (hin : run.stage.inside = false)
    (hdec : run.stage.decision? = none) (hacc : run.stage.accepts = false) :
    (s.start run).Inv cfg := by
  have hsplit : ∀ {j : Nat} {r : Run}, (s.runs ++ [run])[j]? = some r →
      s.runs[j]? = some r ∨ r = run := by
    intro j r h
    by_cases hj : j < s.runs.length
    · rw [List.getElem?_append_left hj] at h
      exact .inl h
    · rw [List.getElem?_append_right (by omega)] at h
      exact .inr (List.mem_singleton.mp (List.mem_of_getElem? h))
  refine ⟨fun j r hget hinside => ?_, fun r hmem d hd => ?_, hi.approvals, hi.hooks, hi.open_,
    fun id hheld => ?_, hi.quiet⟩
  · rcases hsplit hget with hget | rfl
    · exact hi.locked j r hget hinside
    · rw [hin] at hinside
      cases hinside
  · rcases List.mem_append.mp hmem with hmem | hmem
    · exact hi.waiting r hmem d hd
    · rw [List.mem_singleton.mp hmem, hdec] at hd
      cases hd
  · rcases hi.held id hheld with ⟨hhold, hsettled⟩ | ⟨j, r, hget, hid, hreject⟩
    · refine .inl ⟨hhold, fun r hmem hid => ?_, hsettled.2⟩
      rcases List.mem_append.mp hmem with hmem | hmem
      · exact hsettled.1 r hmem hid
      · rw [List.mem_singleton.mp hmem]
        unfold stageMayAccept
        rw [hdec, hacc]
        rfl
    · refine .inr ⟨j, r, ?_, hid, hreject⟩
      change (s.runs ++ [run])[j]? = some r
      rw [List.getElem?_append_left (List.getElem?_eq_some_iff.mp hget).1]
      exact hget

/-! ## Steps -/

theorem typeOf_of_loadEligible {id : Nat} {event : Option (Nat × Option Nat)}
    (h : s.loadEligible cfg id event = true) : cfg.typeOf id ≠ .submarine := by
  intro htype
  unfold loadEligible at h
  rw [htype] at h
  split at h
  · cases h
  · cases h

theorem suited_set (hs : s.Suited cfg) (hruns : s'.runs = s.runs.set i { run with stage })
    (h : stage.suits (cfg.typeOf run.swapId)) : s'.Suited cfg := by
  intro r hr
  rw [hruns] at hr
  rcases mem_set hr with hr | rfl
  · exact hs r hr
  · exact h

theorem suited_congr (hs : s.Suited cfg) (hruns : s'.runs = s.runs) : s'.Suited cfg := by
  unfold Suited
  rw [hruns]
  exact hs

theorem runs_storeStatus (id : Nat) (status : SwapUpdateEvent) :
    (s.storeStatus cfg id status).runs = s.runs := by
  unfold storeStatus
  split <;> rfl

theorem runs_setServerLockup (id transactionId : Nat) :
    (s.setServerLockup cfg id transactionId).runs = s.runs := by
  unfold setServerLockup
  split <;> rfl

theorem inv_setServerLockup (hi : s.Inv cfg) (id transactionId : Nat) :
    (s.setServerLockup cfg id transactionId).Inv cfg := by
  unfold setServerLockup
  split
  · exact hi
  · exact inv_storeRow hi _ _

/-- A send of a run that was accepted. -/
theorem inv_sent (hi : s.Inv cfg) (hrun : s.runs[i]? = some run)
    (hin : run.stage.inside = true) (hr : run.stage.rejecting = false)
    (ha : run.stage.accepts = true) (hdec : stage.decision? = none)
    (hstage : stage.accepts = false) :
    ((s.recordSend run.swapId).setStage i run stage).Inv cfg := by
  have hheld : s.held run.swapId = false := hi.not_held hrun hin hr ha
  refine inv_setStage (inv_recordSend hi hheld) hrun (fun _ => hin) hdec (fun _ => hstage)
    fun h => ?_
  rw [hr] at h
  cases h

/-- Without an approval the lockup fails, and the swap is final then. -/
theorem inv_proceed (hi : s.Inv cfg) (hrun : s.runs[i]? = some run) {a : SendApprovalAction}
    {outcome : Outcome} (hs : run.stage = .proceed a) (htype : cfg.typeOf run.swapId ≠ .submarine)
    (ha : a = .reject → outcome ≠ .skipped) (h : s.proceed cfg i run a outcome = some s') :
    s'.Inv cfg := by
  have hin : run.stage.inside = true := by rw [hs]; rfl
  unfold proceed at h
  cases outcome with
  | sent transactionId =>
    dsimp only at h
    split at h
    swap
    · cases h
    rename_i hacc
    subst hacc
    simp only [Option.some.injEq] at h
    subst h
    exact inv_sent hi hrun hin (by rw [hs]; rfl) (by rw [hs]; rfl) rfl rfl
  | failed =>
    simp only [Option.some.injEq] at h
    subst h
    refine inv_fail hi hrun (fun row => ?_) (fun _ => hin) rfl
    unfold Row.isFinal
    cases htype' : cfg.typeOf run.swapId with
    | submarine => exact absurd htype' htype
    | reverseSubmarine => rfl
    | chain => rfl
  | skipped =>
    dsimp only at h
    split at h
    swap
    · cases h
    simp only [Option.some.injEq] at h
    subst h
    refine inv_setStage hi hrun (fun _ => hin) rfl (fun _ => rfl) fun h => ?_
    rw [hs] at h
    cases a with
    | reject => exact absurd rfl (ha rfl)
    | accept => cases h
    | hold => cases h
  | ok => cases h

theorem inv_pay (hi : s.Inv cfg) (hrun : s.runs[i]? = some run) {a : SendApprovalAction}
    {outcome : Outcome} (hs : run.stage = .pay a) (htype : cfg.typeOf run.swapId = .submarine)
    (h : s.pay cfg i run a outcome = some s') : s'.Inv cfg := by
  have hin : run.stage.inside = true := by rw [hs]; rfl
  unfold pay at h
  cases outcome with
  | sent transactionId =>
    dsimp only at h
    split at h
    swap
    · cases h
    rename_i hacc
    subst hacc
    simp only [Option.some.injEq] at h
    subst h
    exact inv_sent hi hrun hin (by rw [hs]; rfl) (by rw [hs]; rfl) rfl rfl
  | failed =>
    simp only [Option.some.injEq] at h
    subst h
    refine inv_fail hi hrun (fun row => ?_) (fun _ => hin) rfl
    unfold Row.isFinal
    rw [htype]
    rfl
  | skipped => cases h
  | ok => cases h

theorem stageMayAccept_decision {d : Nat} (hd : run.stage.decision? = some d)
    (h : s.stageMayAccept cfg run.stage = false) : s.mayAccept cfg d = false := by
  unfold stageMayAccept at h
  rw [hd, Bool.or_eq_false_iff] at h
  exact h.2

/-- The action of a decision is an approval only when the decision lets a send through. -/
theorem mayAccept_of_resolvedAction {d : Nat} {a : SendApprovalAction}
    (h : s.resolvedAction d = some a) : s.mayAccept cfg d = (a = .accept : Bool) := by
  unfold resolvedAction at h
  split at h
  · rename_i hget
    cases h
    unfold mayAccept
    rw [hget]
  · cases h

theorem inv_stepRun (hi : s.Inv cfg) (hs : s.Suited cfg) (hrun : s.runs[i]? = some run)
    {outcome : Outcome} (ha : s.Admits cfg (.run i outcome))
    (h : s.stepRun cfg i run outcome = some s') : s'.Inv cfg := by
  have hadmits := ha run hrun
  have hsuits := hs run (mem_runs hrun)
  obtain ⟨swapId, event, stage⟩ := run
  dsimp only at hsuits
  cases stage with
  | load =>
    cases h
    split
    · exact inv_resolveSendApproval hi hrun rfl
    · exact inv_setStage hi hrun id rfl (fun _ => rfl) id
  | remove =>
    cases h
    exact inv_removeHold hi hrun (hadmits.1 rfl) id rfl rfl rfl
  | waiting d =>
    obtain ⟨a, ha, rfl⟩ := Option.map_eq_some_iff.mp h
    refine inv_setStage hi hrun id rfl (fun hmay => ?_) id
    have hdec := stageMayAccept_decision rfl hmay
    rw [mayAccept_of_resolvedAction ha] at hdec
    exact hdec
  | acquire next => exact inv_takeLock hi hrun rfl h
  | loadFresh a =>
    cases h
    split
    · refine inv_setStage hi hrun (fun _ => rfl) rfl (fun hmay => ?_) fun h => ?_
      · exact (Bool.or_eq_false_iff.mp hmay).1
      · cases h
    · refine inv_setStage hi hrun (fun _ => rfl) rfl (fun _ => rfl) fun h => ?_
      cases h
  | removeFresh =>
    cases h
    exact inv_removeHold hi hrun (hadmits.1 rfl) (fun _ => rfl) rfl rfl rfl
  | persist a =>
    cases h
    refine inv_deleteApproval (inv_persist hi hrun rfl rfl (fun ha => ?_) (fun ha => ?_) rfl rfl rfl
      fun ha => ?_) swapId
    · subst ha
      rfl
    · subst ha
      exact hadmits.2.1 rfl
    · subst ha
      rfl
  | proceed a =>
    refine inv_proceed hi hrun rfl hsuits (fun ha => ?_) h
    subst ha
    exact hadmits.2.2 rfl
  | setServerLockup transactionId =>
    cases h
    refine inv_setStage (inv_setServerLockup hi swapId transactionId) ?_ (fun _ => rfl) rfl
      (fun _ => rfl) fun h => ?_
    · rw [runs_setServerLockup]
      exact hrun
    · cases h
  | release =>
    cases h
    exact inv_deleteApproval (inv_giveLock hi hrun rfl rfl) swapId
  | payInvoice =>
    unfold stepRun at h
    dsimp only at h
    split at h
    · cases h
      refine inv_setStage hi hrun (fun _ => rfl) rfl (fun _ => rfl) fun h => ?_
      cases h
    · cases h
      exact inv_request hi hrun (.payWaiting s.decisions.length) (fun _ => rfl) rfl rfl rfl rfl rfl
        rfl rfl rfl rfl rfl (fun _ _ hd => .inl hd) rfl
  | payWaiting d =>
    obtain ⟨a, ha, rfl⟩ := Option.map_eq_some_iff.mp h
    refine inv_setStage hi hrun (fun _ => rfl) rfl (fun hmay => ?_) fun h => ?_
    · have hdec := stageMayAccept_decision rfl hmay
      rw [mayAccept_of_resolvedAction ha] at hdec
      exact hdec
    · cases h
  | payPersist a =>
    cases h
    refine inv_persist hi hrun rfl rfl (fun ha => ?_) (fun ha => ?_) rfl rfl rfl fun ha => ?_
    · subst ha
      rfl
    · subst ha
      exact hadmits.2.1 rfl
    · subst ha
      rfl
  | pay a => exact inv_pay hi hrun rfl hsuits h
  | prune =>
    cases h
    split
    · refine inv_setStage hi hrun (fun _ => rfl) rfl (fun _ => rfl) fun h => ?_
      cases h
    · refine inv_setStage hi hrun (fun _ => rfl) rfl (fun _ => rfl) fun h => ?_
      cases h
  | pruneRemove =>
    cases h
    exact inv_removeHold hi hrun (hadmits.1 rfl) (fun _ => rfl) rfl rfl rfl
  | payRelease =>
    cases h
    exact inv_giveLock hi hrun rfl rfl
  | done => cases h

theorem suited_stepRun (hs : s.Suited cfg) (hrun : s.runs[i]? = some run) {outcome : Outcome}
    (h : s.stepRun cfg i run outcome = some s') : s'.Suited cfg := by
  have hsuits := hs run (mem_runs hrun)
  obtain ⟨swapId, event, stage⟩ := run
  dsimp only at hsuits
  cases stage with
  | load =>
    cases h
    split
    · unfold resolveSendApproval
      split
      · exact suited_set hs rfl trivial
      · exact suited_set hs rfl trivial
    · exact suited_set hs rfl trivial
  | remove | removeFresh | release | pruneRemove | payRelease =>
    cases h
    exact suited_set hs rfl trivial
  | waiting d =>
    obtain ⟨a, _, rfl⟩ := Option.map_eq_some_iff.mp h
    exact suited_set hs rfl trivial
  | acquire next =>
    change s.takeLock cfg i _ next = some s' at h
    unfold takeLock at h
    split at h
    · cases h
    · cases h
      exact suited_set hs rfl hsuits
  | loadFresh a =>
    cases h
    split
    · rename_i hload
      exact suited_set hs rfl (typeOf_of_loadEligible hload)
    · exact suited_set hs rfl trivial
  | persist a =>
    cases h
    unfold persistSendApprovalDecision
    split
    · exact suited_set hs rfl trivial
    · exact suited_set hs rfl hsuits
  | proceed a =>
    change s.proceed cfg i _ a outcome = some s' at h
    unfold proceed at h
    cases outcome with
    | sent transactionId =>
      dsimp only at h
      split at h
      · cases h
        exact suited_set hs rfl hsuits
      · cases h
    | failed =>
      cases h
      exact suited_set (suited_congr hs (runs_storeStatus swapId _)) rfl trivial
    | skipped =>
      dsimp only at h
      split at h
      · cases h
        exact suited_set hs rfl trivial
      · cases h
    | ok => cases h
  | setServerLockup transactionId =>
    cases h
    exact suited_set (suited_congr hs (runs_setServerLockup swapId transactionId)) rfl trivial
  | payInvoice =>
    unfold stepRun at h
    dsimp only at h
    split at h
    · cases h
      exact suited_set hs rfl trivial
    · cases h
      exact suited_set hs rfl hsuits
  | payWaiting d =>
    obtain ⟨a, _, rfl⟩ := Option.map_eq_some_iff.mp h
    exact suited_set hs rfl hsuits
  | payPersist a =>
    cases h
    unfold persistSendApprovalDecision
    split
    · exact suited_set hs rfl trivial
    · exact suited_set hs rfl hsuits
  | pay a =>
    change s.pay cfg i _ a outcome = some s' at h
    unfold pay at h
    cases outcome with
    | sent transactionId =>
      dsimp only at h
      split at h
      · cases h
        exact suited_set hs rfl trivial
      · cases h
    | failed =>
      cases h
      exact suited_set (suited_congr hs (runs_storeStatus swapId _)) rfl trivial
    | skipped => cases h
    | ok => cases h
  | prune =>
    cases h
    split <;> exact suited_set hs rfl trivial
  | done => cases h

theorem suited_start (hs : s.Suited cfg) (h : run.stage.suits (cfg.typeOf run.swapId)) :
    (s.start run).Suited cfg := by
  intro r hr
  rcases List.mem_append.mp hr with hr | hr
  · exact hs r hr
  · rw [List.mem_singleton.mp hr]
    exact h

theorem runs_of_decision {d : Nat} (h : s.decide cfg d = some s' ∨ s.timeout cfg d = some s') :
    s'.runs = s.runs := by
  rcases h with h | h
  · unfold decide at h
    split at h
    · dsimp only at h
      split at h <;> cases h <;> rfl
    · cases h
  · unfold timeout at h
    split at h
    · split at h <;> cases h
      rfl
    · cases h

theorem runs_respond (id : Nat) (action : SendApprovalAction) :
    (s.respond id action).runs = s.runs := by
  unfold respond
  dsimp only
  split <;> rfl

theorem inv_step (hi : s.Inv cfg) (hs : s.Suited cfg) (o : Op) (ha : s.Admits cfg o)
    (h : s.step cfg o = some s') : s'.Inv cfg ∧ s'.Suited cfg := by
  cases o with
  | store id row =>
    cases h
    exact ⟨inv_storeRow hi id row, hs⟩
  | connect =>
    unfold step at h
    dsimp only at h
    split at h
    · cases h
    · cases h
      exact ⟨⟨hi.locked, hi.waiting, hi.approvals, hi.hooks, hi.open_, hi.held, hi.quiet⟩, hs⟩
  | disconnect =>
    cases h
    exact ⟨inv_disconnect hi, hs⟩
  | timeout d => exact ⟨inv_timeout hi h, suited_congr hs (runs_of_decision (.inr h))⟩
  | respond id action =>
    unfold step at h
    dsimp only at h
    split at h
    · cases h
      exact ⟨inv_respond hi id action, suited_congr hs (runs_respond id action)⟩
    · cases h
  | decide d => exact ⟨inv_decide hi h, suited_congr hs (runs_of_decision (.inl h))⟩
  | lockup id event =>
    cases h
    exact ⟨inv_start hi rfl rfl rfl, suited_start hs trivial⟩
  | payInvoice id =>
    unfold step at h
    dsimp only at h
    split at h
    · rename_i htype
      cases h
      exact ⟨inv_start hi rfl rfl rfl, suited_start hs htype⟩
    · cases h
  | prune id =>
    unfold step at h
    dsimp only at h
    split at h
    · cases h
      exact ⟨inv_start hi rfl rfl rfl, suited_start hs trivial⟩
    · cases h
  | run i outcome =>
    obtain ⟨run, hrun, hstep⟩ := Option.bind_eq_some_iff.mp h
    exact ⟨inv_stepRun hi hs hrun ha hstep, suited_stepRun hs hrun hstep⟩

theorem inv_init : ({} : State).Inv cfg := by
  refine ⟨fun j r h => ?_, fun r h => ?_, fun id d h => ?_, fun id d h => ?_, fun id h => ?_,
    fun id h => ?_, rfl⟩
  all_goals cases h

theorem inv_of_reaches (h : Reaches cfg (Admits cfg) {} s) : s.Inv cfg ∧ s.Suited cfg := by
  induction h with
  | start =>
    refine ⟨inv_init, fun r hr => ?_⟩
    cases hr
  | step o _ ha hstep ih => exact inv_step ih.1 ih.2 o ha hstep

/-- No send of a swap that an approver holds, in any run. -/
theorem held_sends_approved (h : Reaches cfg (Admits cfg) {} s) : s.sentWhileHeld = [] :=
  (inv_of_reaches h).1.quiet

def runAll (cfg : Config) (s : State) : List Op → Option State
  | [] => some s
  | o :: ops => (s.step cfg o).bind fun next => runAll cfg next ops

/-- Every step of the run is admitted. -/
def admitsAll (cfg : Config) (s : State) : List Op → Bool
  | [] => true
  | o :: ops =>
    (if s.Admits cfg o then true else false) &&
      (s.step cfg o).all fun next => admitsAll cfg next ops

theorem Reaches.of_runAll {admits : State → Op → Prop} {s₀ s s' : State}
    (h : Reaches cfg admits s₀ s) (ops : List Op)
    (ha : (∀ s o, admits s o) ∨ admits = Admits cfg ∧ admitsAll cfg s ops = true)
    (hrun : runAll cfg s ops = some s') : Reaches cfg admits s₀ s' := by
  induction ops generalizing s with
  | nil =>
    cases hrun
    exact h
  | cons o ops ih =>
    obtain ⟨next, hnext, hrest⟩ := Option.bind_eq_some_iff.mp hrun
    rcases ha with ha | ⟨rfl, hall⟩
    · exact ih (.step o h (ha s o) hnext) (.inl ha) hrest
    · unfold admitsAll at hall
      rw [hnext, Option.all_some, Bool.and_eq_true] at hall
      have hadmits : s.Admits cfg o := by
        by_contra hnot
        rw [if_neg hnot] at hall
        cases hall.1
      exact ih (.step o h hadmits hnext) (.inr ⟨rfl, hall.2⟩) hrest

end

/-! ## A chain swap that is held -/

def chainConfig : Config := ⟨fun _ => .chain, .accept⟩

/-- The approver holds the lockup of the swap, and the run ends. -/
def heldOps : List Op :=
  [.store 0 { status := transactionMempool, userLockup := some (1, some 0) }, .connect,
    .lockup 0 (some (1, some 0)), .run 0 .ok, .decide 0, .respond 0 .hold, .run 0 .ok, .run 0 .ok,
    .run 0 .ok, .run 0 .ok, .run 0 .ok]

/-- The hold is retried and accepted, and the lockup is sent. -/
theorem held_sends_approved_accepted : ∃ s, Reaches chainConfig (Admits chainConfig) {} s ∧
    s.sent = [0] ∧ s.sentWhileHeld = [] := by
  obtain ⟨s, hs, hsent⟩ : ∃ s, runAll chainConfig {}
      (heldOps ++ [.lockup 0 none, .run 1 .ok, .decide 1, .respond 0 .accept, .run 1 .ok,
        .run 1 .ok, .run 1 .ok, .run 1 .ok, .run 1 (.sent 9)]) = some s ∧ s.sent = [0] :=
    ⟨_, rfl, rfl⟩
  have hr : Reaches chainConfig (Admits chainConfig) {} s :=
    .of_runAll .start _ (.inr ⟨rfl, by decide +kernel⟩) hs
  exact ⟨s, hr, hsent, held_sends_approved hr⟩

/-- The retry removes the row of the hold while the unconfirmed transaction is rejected. Without a
stream the event of its confirmation takes the default action, and the lockup is sent. -/
theorem held_send_released : ∃ s, Reaches chainConfig (fun _ _ => True) {} s ∧
    s.sentWhileHeld = [0] := by
  obtain ⟨s, hs, hsent⟩ : ∃ s, runAll chainConfig {}
      (heldOps ++ [.store 0 { status := transactionZeroConfRejected, userLockup := some (1, some 0) },
        .lockup 0 none, .run 1 .ok, .run 1 .ok, .disconnect,
        .store 0 { status := transactionConfirmed, userLockup := some (1, some 0) },
        .lockup 0 (some (1, some 0)), .run 2 .ok, .decide 1, .run 2 .ok, .run 2 .ok, .run 2 .ok,
        .run 2 .ok, .run 2 (.sent 9)]) = some s ∧ s.sentWhileHeld = [0] := ⟨_, rfl, rfl⟩
  exact ⟨s, .of_runAll .start _ (.inl fun _ _ => trivial) hs, hsent⟩

end State

end Boltz.HeldSends
