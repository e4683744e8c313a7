import Boltz.Chain.ArkSubscription

/-!
# The stream of vHTLCs is kept up

However streams close and clients connect, at most one reconnect is under way and at most one stream
is left open. As long as nobody disconnects, a stream that was closed is replaced.
-/

namespace Boltz.ArkSubscription

open Async

variable {s s' : State} {i j : Nat} {stream : Stream}

/-- The current stream is the only one that was not cancelled. -/
structure Streams (s : State) : Prop where
  current : ∀ {i}, s.vHtlcStream = some i → ∃ stream, s.streams[i]? = some stream
  others : ∀ {i stream}, s.streams[i]? = some stream → stream.cancelled = false →
    s.vHtlcStream = some i

def State.AllCancelled (s : State) : Prop :=
  ∀ (i : Nat) (stream : Stream), s.streams[i]? = some stream → stream.cancelled = true

/-- There is a task that reconnects exactly when the flag is set. -/
def Reconnects (s : State) : Prop :=
  s.tasks.countP Task.isReconnect = if s.isReconnecting then 1 else 0

/-- The current stream was neither cancelled nor closed. -/
def State.Streaming (s : State) : Prop :=
  ∃ i, s.vHtlcStream = some i ∧ s.streams[i]? = some { cancelled := false, closed := false }

def State.Connected (s : State) : Prop :=
  s.shouldDisconnect = false → .connect ∈ s.tasks ∨ s.isReconnecting = true ∨ s.Streaming

/-! ## Streams -/

theorem Streams.cancelStream (h : Streams s) :
    s.cancelStream.vHtlcStream = none ∧ s.cancelStream.AllCancelled := by
  unfold State.cancelStream
  split
  · rename_i current hcurrent
    refine ⟨rfl, fun i stream hstream => ?_⟩
    rw [List.getElem?_modify] at hstream
    obtain ⟨old, hold, rfl⟩ := Option.map_eq_some_iff.mp hstream
    split
    · rfl
    · rename_i hother
      cases hcancelled : old.cancelled with
      | true => rfl
      | false =>
        cases hcurrent.symm.trans (h.others hold hcancelled)
        exact absurd rfl hother
  · rename_i hnone
    refine ⟨hnone, fun i stream hstream => ?_⟩
    cases hcancelled : stream.cancelled with
    | true => rfl
    | false => cases hnone.symm.trans (h.others hstream hcancelled)

theorem Streams.cancel (h : Streams s) : Streams s.cancelStream := by
  obtain ⟨hnone, hcancelled⟩ := h.cancelStream
  constructor
  · intro i hcurrent
    cases hnone.symm.trans hcurrent
  · intro i stream hstream hopen
    cases (hcancelled i stream hstream).symm.trans hopen

theorem Streams.streamVhtlcs (h : Streams s) : Streams s.streamVhtlcs := by
  obtain ⟨-, hcancelled⟩ := h.cancelStream
  constructor
  · intro i hcurrent
    cases hcurrent
    exact ⟨_, List.getElem?_concat_length⟩
  · intro i stream hstream hopen
    rcases Nat.lt_or_ge i s.cancelStream.streams.length with hlt | hge
    · have hold := (List.getElem?_append_left hlt).symm.trans hstream
      cases (hcancelled i stream hold).symm.trans hopen
    · have hlt := (List.getElem?_eq_some_iff.mp hstream).1
      have hlength : s.streamVhtlcs.streams.length = s.cancelStream.streams.length + 1 :=
        List.length_append
      exact congrArg some (show s.cancelStream.streams.length = i by omega)

theorem streaming_streamVhtlcs (s : State) : s.streamVhtlcs.Streaming :=
  ⟨_, rfl, List.getElem?_concat_length⟩

/-- The stream that is closed. -/
theorem Streams.close (h : Streams s) (hstream : s.streams[i]? = some stream) :
    Streams { s with streams := s.streams.set i { stream with closed := true } } where
  current hcurrent := by
    obtain ⟨old, hold⟩ := h.current hcurrent
    have hlt := (List.getElem?_eq_some_iff.mp hold).1
    exact ⟨_, List.getElem?_eq_getElem (by rwa [List.length_set])⟩
  others hother hopen := by
    rcases getElem?_set_cases hother with ⟨rfl, rfl⟩ | ⟨-, hother⟩
    · exact h.others hstream hopen
    · exact h.others hother hopen

theorem Streams.reconnect (h : Streams s) : Streams s.reconnect := by
  unfold State.reconnect
  split
  · exact h
  · have hcancel : Streams (State.cancelStream { s with isReconnecting := true }) :=
      Streams.cancel ⟨h.current, h.others⟩
    exact ⟨hcancel.current, hcancel.others⟩

theorem Streams.step (h : Streams s) {op : Op} (hstep : step s op = some s') : Streams s' := by
  cases op with
  | connect =>
    cases hstep
    exact ⟨h.current, h.others⟩
  | disconnect =>
    cases hstep
    exact Streams.cancel ⟨h.current, h.others⟩
  | close i =>
    simp only [ArkSubscription.step] at hstep
    split at hstep
    · rename_i stream hstream
      split at hstep
      · cases hstep
      · cases hstep
        exact (h.close hstream).reconnect
    · cases hstep
  | slept j =>
    simp only [ArkSubscription.step] at hstep
    split at hstep
    · cases hstep
      exact ⟨h.current, h.others⟩
    · cases hstep
  | walletStatus j status =>
    simp only [ArkSubscription.step] at hstep
    split at hstep
    · cases hstep
      exact ⟨h.current, h.others⟩
    · cases hstep
  | rescanned j =>
    simp only [ArkSubscription.step] at hstep
    split at hstep
    · cases hstep
      exact Streams.streamVhtlcs ⟨h.current, h.others⟩
    · cases hstep
      have hstreams : Streams (State.streamVhtlcs { s with tasks := s.tasks.eraseIdx j }) :=
        Streams.streamVhtlcs ⟨h.current, h.others⟩
      exact ⟨hstreams.current, hstreams.others⟩
    · cases hstep

/-! ## Reconnects -/

theorem tasks_cancelStream (s : State) : s.cancelStream.tasks = s.tasks := by
  unfold State.cancelStream
  split
  · rfl
  · rfl

theorem isReconnecting_cancelStream (s : State) :
    s.cancelStream.isReconnecting = s.isReconnecting := by
  unfold State.cancelStream
  split
  · rfl
  · rfl

theorem shouldDisconnect_cancelStream (s : State) :
    s.cancelStream.shouldDisconnect = s.shouldDisconnect := by
  unfold State.cancelStream
  split
  · rfl
  · rfl

/-- Replaced and finished tasks, and new ones. -/
theorem Reconnects.set {task task' : Task} (h : Reconnects s) (hget : s.tasks[j]? = some task)
    (hsame : task'.isReconnect = task.isReconnect) :
    Reconnects { s with tasks := s.tasks.set j task' } :=
  (countP_set hget hsame).trans h

theorem Reconnects.reconnect (h : Reconnects s) : Reconnects s.reconnect := by
  unfold State.reconnect
  split
  · exact h
  · rename_i hstart
    have hidle : s.isReconnecting = false := by
      cases hreconnecting : s.isReconnecting with
      | true => exact absurd (by rw [hreconnecting, Bool.or_true]) hstart
      | false => rfl
    unfold Reconnects at h ⊢
    dsimp only
    rw [tasks_cancelStream, isReconnecting_cancelStream, List.countP_append, h, hidle]
    rfl

theorem Reconnects.step (h : Reconnects s) {op : Op} (hstep : step s op = some s') :
    Reconnects s' := by
  cases op with
  | connect =>
    cases hstep
    unfold Reconnects at h ⊢
    dsimp only
    rw [List.countP_append, h]
    rfl
  | disconnect =>
    cases hstep
    unfold Reconnects
    rw [tasks_cancelStream, isReconnecting_cancelStream]
    exact h
  | close i =>
    simp only [ArkSubscription.step] at hstep
    split at hstep
    · split at hstep
      · cases hstep
      · cases hstep
        exact Reconnects.reconnect h
    · cases hstep
  | slept j =>
    simp only [ArkSubscription.step] at hstep
    split at hstep
    · rename_i htask
      cases hstep
      exact h.set htask rfl
    · cases hstep
  | walletStatus j status =>
    simp only [ArkSubscription.step] at hstep
    split at hstep
    · rename_i htask
      cases hstep
      refine h.set htask ?_
      split
      · rfl
      · rfl
    · cases hstep
  | rescanned j =>
    simp only [ArkSubscription.step] at hstep
    split at hstep
    · rename_i htask
      cases hstep
      have hcount := countP_eraseIdx (p := Task.isReconnect) htask
      unfold Reconnects State.streamVhtlcs at *
      dsimp only at *
      rw [tasks_cancelStream, isReconnecting_cancelStream]
      exact hcount.symm.trans h
    · rename_i htask
      cases hstep
      have hcount := countP_eraseIdx (p := Task.isReconnect) htask
      unfold Reconnects State.streamVhtlcs at *
      dsimp only at *
      rw [tasks_cancelStream]
      rw [h] at hcount
      have hle : (if s.isReconnecting = true then 1 else 0) ≤ 1 := by split <;> omega
      show List.countP Task.isReconnect (s.tasks.eraseIdx j) = 0
      have hone : (if Task.isReconnect .rescan = true then 1 else 0) = 1 := rfl
      omega
    · cases hstep

/-! ## Connections -/

theorem State.Connected.of_tasks (h : s.Connected)
    (hshould : s'.shouldDisconnect = s.shouldDisconnect)
    (htasks : .connect ∈ s.tasks → .connect ∈ s'.tasks)
    (hreconnecting : s'.isReconnecting = s.isReconnecting) (hstream : s.Streaming → s'.Streaming) :
    s'.Connected := by
  intro hconnected
  rcases h (hshould.symm.trans hconnected) with htask | hloop | hstreaming
  · exact .inl (htasks htask)
  · exact .inr (.inl (hreconnecting.trans hloop))
  · exact .inr (.inr (hstream hstreaming))

theorem connect_mem_set {task task' : Task} (hget : s.tasks[j]? = some task)
    (hother : task ≠ .connect) (h : .connect ∈ s.tasks) : .connect ∈ s.tasks.set j task' :=
  (mem_set_or hget task' h).resolve_left (Ne.symm hother)

/-- A stream that closes is replaced by a reconnect, unless one is under way. -/
theorem connected_reconnect (s : State) : s.reconnect.Connected := by
  intro hconnected
  unfold State.reconnect at hconnected ⊢
  split
  · rename_i hrefused
    rw [if_pos hrefused] at hconnected
    rw [hconnected, Bool.false_or] at hrefused
    exact .inr (.inl hrefused)
  · exact .inr (.inl (isReconnecting_cancelStream _))

theorem State.Connected.step (h : s.Connected) {op : Op} (hstep : step s op = some s') :
    s'.Connected := by
  cases op with
  | connect =>
    cases hstep
    exact fun _ => .inl (List.mem_append_right _ (List.mem_singleton_self _))
  | disconnect =>
    cases hstep
    intro hconnected
    cases (shouldDisconnect_cancelStream _).symm.trans hconnected
  | close i =>
    simp only [ArkSubscription.step] at hstep
    split at hstep
    · split at hstep
      · cases hstep
      · cases hstep
        exact connected_reconnect _
    · cases hstep
  | slept j =>
    simp only [ArkSubscription.step] at hstep
    split at hstep
    · rename_i htask
      cases hstep
      exact h.of_tasks rfl (connect_mem_set htask (nomatch ·)) rfl id
    · cases hstep
  | walletStatus j status =>
    simp only [ArkSubscription.step] at hstep
    split at hstep
    · rename_i htask
      cases hstep
      exact h.of_tasks rfl (connect_mem_set htask (nomatch ·)) rfl id
    · cases hstep
  | rescanned j =>
    simp only [ArkSubscription.step] at hstep
    split at hstep
    · cases hstep
      exact fun _ => .inr (.inr (streaming_streamVhtlcs _))
    · cases hstep
      exact fun _ => .inr (.inr (streaming_streamVhtlcs { s with tasks := s.tasks.eraseIdx j }))
    · cases hstep

/-- Any operation. -/
def anyOp : State → Op → Bool := fun _ _ => true

theorem runs_cons {s₁ : State} {op : Op} {ops : List Op} (hstep : step s op = some s₁)
    (hrest : runFrom step anyOp s₁ ops = some s') : runFrom step anyOp s (op :: ops) = some s' := by
  rw [runFrom, anyOp, if_pos rfl, hstep]
  exact hrest

/-- There is never more than one reconnect, and never more than one stream that was not
cancelled. -/
theorem one_reconnect_one_stream {ops : List Op} (h : runFrom step anyOp .init ops = some s) :
    s.tasks.countP Task.isReconnect ≤ 1 ∧
      ∀ (i j : Nat) (stream stream' : Stream), s.streams[i]? = some stream →
        s.streams[j]? = some stream' → stream.cancelled = false → stream'.cancelled = false →
        i = j := by
  have hreconnects : Reconnects s :=
    invariant_of_runFrom (fun _ _ _ hi _ h => hi.step h) (show Reconnects .init from rfl) h
  have hinit : Streams .init := ⟨fun h => (nomatch h), fun h => (nomatch h)⟩
  have hstreams : Streams s := invariant_of_runFrom (fun _ _ _ hi _ h => hi.step h) hinit h
  constructor
  · rw [hreconnects]
    split <;> omega
  · intro i j stream stream' hi hj hopen hopen'
    exact Option.some.inj ((hstreams.others hi hopen).symm.trans (hstreams.others hj hopen'))

/-- A stream is closed, and the wallet is locked when it is asked first. -/
def exampleRun : List Op :=
  [.connect, .rescanned 0, .close 0, .slept 0,
    .walletStatus 0 (some { unlocked := false, synced := true })]

theorem one_reconnect_one_stream_example : ∃ s : State,
    runFrom step anyOp .init (exampleRun ++ [.connect, .rescanned 1]) = some s ∧
      s.streams.length = 2 ∧ s.tasks.countP Task.isReconnect ≤ 1 := by
  obtain ⟨s, hrun, hlength⟩ : ∃ s : State,
      runFrom step anyOp .init (exampleRun ++ [.connect, .rescanned 1]) = some s ∧
        s.streams.length = 2 := ⟨_, rfl, rfl⟩
  exact ⟨s, hrun, hlength, (one_reconnect_one_stream hrun).1⟩

/-! ## A closed stream is replaced -/

/-- What the open tasks wait for. -/
def Op.isAnswer : Op → Bool
  | slept _ | walletStatus _ _ | rescanned _ => true
  | connect | disconnect | close _ => false

/-- A few answers lead to a stream. -/
def State.Restores (s : State) (n : Nat) : Prop :=
  ∃ answers, answers.length ≤ n ∧ (∀ op ∈ answers, op.isAnswer = true) ∧
    ∃ s', runFrom step anyOp s answers = some s' ∧ s'.Streaming

theorem State.Restores.cons {s₁ : State} {n : Nat} (h : s₁.Restores n) (op : Op)
    (hanswer : op.isAnswer = true) (hstep : step s op = some s₁) : s.Restores (n + 1) := by
  obtain ⟨answers, hlength, hall, s', hrun, hstreaming⟩ := h
  exact ⟨op :: answers, Nat.succ_le_succ hlength, List.forall_mem_cons.mpr ⟨hanswer, hall⟩, s',
    runs_cons hstep hrun, hstreaming⟩

theorem State.Restores.of_streaming (h : s.Streaming) : s.Restores 0 :=
  ⟨[], Nat.le_refl 0, fun _ h => absurd h List.not_mem_nil, s, rfl, h⟩

theorem State.Restores.mono {m n : Nat} (h : s.Restores m) (hle : m ≤ n) : s.Restores n := by
  obtain ⟨answers, hlength, hrest⟩ := h
  exact ⟨answers, Nat.le_trans hlength hle, hrest⟩

theorem restores_of_connect (h : s.tasks[j]? = some .connect) : s.Restores 1 :=
  State.Restores.cons
    (State.Restores.of_streaming (streaming_streamVhtlcs { s with tasks := s.tasks.eraseIdx j }))
    (.rescanned j) rfl (by simp only [step, h])

theorem restores_of_rescan (h : s.tasks[j]? = some .rescan) : s.Restores 1 := by
  have hstreaming : State.Streaming
      { State.streamVhtlcs { s with tasks := s.tasks.eraseIdx j } with isReconnecting := false } :=
    streaming_streamVhtlcs { s with tasks := s.tasks.eraseIdx j }
  exact (State.Restores.of_streaming hstreaming).cons (.rescanned j) rfl
    (by simp only [step, h])

theorem restores_of_getWalletStatus (h : s.tasks[j]? = some .getWalletStatus) : s.Restores 2 := by
  obtain ⟨hlt, -⟩ := List.getElem?_eq_some_iff.mp h
  have hnext : State.Restores { s with tasks := s.tasks.set j .rescan } 1 :=
    restores_of_rescan (List.getElem?_set_self hlt)
  exact hnext.cons (.walletStatus j (some { unlocked := true, synced := true })) rfl
    (by simp only [step, h]; rfl)

theorem restores_of_sleep (h : s.tasks[j]? = some .sleep) : s.Restores 3 := by
  obtain ⟨hlt, -⟩ := List.getElem?_eq_some_iff.mp h
  have hnext : State.Restores { s with tasks := s.tasks.set j .getWalletStatus } 2 :=
    restores_of_getWalletStatus (List.getElem?_set_self hlt)
  exact hnext.cons (.slept j) rfl (by simp only [step, h])

/-- After the first call of `connect`, and as long as `disconnect` was not called last, there is a
stream that was neither cancelled nor closed, or it takes at most three answers to get one. -/
theorem stream_restored {ops : List Op}
    (h : runFrom step anyOp .init (.connect :: ops) = some s)
    (hconnected : s.shouldDisconnect = false) : s.Restores 3 := by
  obtain ⟨s₁, -, hstep, hrest⟩ := runFrom_cons h
  have hfirst : s₁.Connected := by
    cases hstep
    exact fun _ => .inl (List.mem_singleton_self _)
  have hkept : s.Connected := invariant_of_runFrom (fun _ _ _ hi _ h => hi.step h)
    hfirst hrest
  have hreconnects : Reconnects s :=
    invariant_of_runFrom (fun _ _ _ hi _ h => hi.step h) (show Reconnects .init from rfl) h
  rcases hkept hconnected with hconnect | hreconnecting | hstreaming
  · obtain ⟨j, hj⟩ := List.mem_iff_getElem?.mp hconnect
    exact (restores_of_connect hj).mono (by omega)
  · unfold Reconnects at hreconnects
    rw [hreconnecting, if_pos rfl] at hreconnects
    obtain ⟨task, htask, hreconnect⟩ :=
      List.countP_pos_iff.mp (show 0 < s.tasks.countP Task.isReconnect by omega)
    obtain ⟨j, hj⟩ := List.mem_iff_getElem?.mp htask
    cases task with
    | connect => cases hreconnect
    | sleep => exact restores_of_sleep hj
    | getWalletStatus => exact (restores_of_getWalletStatus hj).mono (by omega)
    | rescan => exact (restores_of_rescan hj).mono (by omega)
  · exact (State.Restores.of_streaming hstreaming).mono (by omega)

theorem stream_restored_example : ∃ s : State,
    runFrom step anyOp .init exampleRun = some s ∧ s.vHtlcStream = none ∧ s.Restores 3 := by
  obtain ⟨s, hrun, hnone, hconnected⟩ : ∃ s : State,
      runFrom step anyOp .init exampleRun = some s ∧ s.vHtlcStream = none ∧
        s.shouldDisconnect = false := ⟨_, rfl, rfl, rfl⟩
  exact ⟨s, hrun, hnone, stream_restored hrun hconnected⟩

end Boltz.ArkSubscription
