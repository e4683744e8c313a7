import Boltz.Sidecar.DatabaseBackup

/-!
# Complete backups

Every provider that has not failed gets all that was read of the dump, whatever happens to the
others, and a regular end of its input stands for the end of the dump. The end of the dump is that of
its process as well, whose failure is not seen, and a read that fails ends the inputs of the
providers as regularly as the dump does.
-/

namespace Boltz.Sidecar.DatabaseBackup

open Boltz.Async

/-! ## Removed writers -/

section

variable {writers failed : List ℕ} {i p : ℕ}

theorem removeAll_cons : removeAll writers (i :: failed) = (removeAll writers failed).eraseIdx i := by
  unfold removeAll
  rw [List.reverse_cons, List.foldl_append]
  rfl

/-- Writers in front of the removed ones keep their index. -/
theorem getElem?_removeAll (h : ∀ j ∈ failed, i < j) :
    (removeAll writers failed)[i]? = writers[i]? := by
  induction failed with
  | nil => rfl
  | cons j failed ih =>
    have hij : i < j := h j (List.mem_cons_self ..)
    rw [removeAll_cons, List.getElem?_eraseIdx_of_lt hij]
    exact ih fun k hk => h k (List.mem_cons_of_mem j hk)

theorem nodup_removeAll (h : writers.Nodup) : (removeAll writers failed).Nodup := by
  induction failed with
  | nil => exact h
  | cons j failed ih =>
    rw [removeAll_cons]
    exact ih.eraseIdx j

/-- Removing from the last index on takes out exactly the writers that failed. -/
theorem mem_removeAll (hnodup : writers.Nodup) (hsorted : failed.Pairwise (· < ·)) :
    p ∈ removeAll writers failed ↔ p ∈ writers ∧ ∀ i ∈ failed, writers[i]? ≠ some p := by
  induction failed with
  | nil => simp [removeAll]
  | cons j failed ih =>
    obtain ⟨hj, hsorted⟩ := List.pairwise_cons.mp hsorted
    have hget : (removeAll writers failed)[j]? = writers[j]? := getElem?_removeAll hj
    rw [removeAll_cons, List.mem_eraseIdx_iff_getElem?, List.forall_mem_cons, ← hget]
    constructor
    · rintro ⟨k, hkj, hk⟩
      obtain ⟨hmem, hrest⟩ := (ih hsorted).mp (List.mem_of_getElem? hk)
      refine ⟨hmem, fun hj' => hkj ?_, hrest⟩
      have hnodup' : (removeAll writers failed).Nodup := nodup_removeAll hnodup
      obtain ⟨hlt, hget'⟩ := List.getElem?_eq_some_iff.mp hk
      obtain ⟨hlt', hgetj⟩ := List.getElem?_eq_some_iff.mp hj'
      exact (hnodup'.getElem_inj_iff).mp (hget'.trans hgetj.symm)
    · rintro ⟨hmem, hne, hrest⟩
      obtain ⟨k, hk⟩ := List.mem_iff_getElem?.mp ((ih hsorted).mpr ⟨hmem, hrest⟩)
      refine ⟨k, ?_, hk⟩
      rintro rfl
      exact hne hk

end

/-! ## Uploads -/

namespace Upload

variable {u u' : Upload} {op : UploadOp}

def received (u : Upload) : List UInt8 := u.parts.flatten ++ u.buffer

/-- What is uploaded was read from the duplex, up to its end. -/
theorem step_spec (h : u.step op = some u') :
    u.result = none ∧ u'.closed = u.closed ∧
      (u'.result ≠ some false → u'.received ++ u'.pipe = u.received ++ u.pipe) ∧
      (u'.result = some true → u'.stored = some u'.received ∧ u'.pipe = [] ∧ u'.closed = true) := by
  unfold step at h
  split at h
  · cases h
  · rename_i hrunning
    have hnone : u.result = none := by simpa using hrunning
    have hsuccess : u.result ≠ some true := by
      rw [hnone]
      simp
    cases op with
    | readBuf n =>
      simp only [readBuf] at h
      split at h
      · cases h
        refine ⟨hnone, rfl, fun _ => ?_, fun hresult => absurd hresult hsuccess⟩
        simp only [received, List.append_assoc, List.take_append_drop]
      · cases h
    | uploadPart =>
      simp only [uploadPart] at h
      split at h
      · cases h
        refine ⟨hnone, rfl, fun _ => ?_, fun hresult => absurd hresult hsuccess⟩
        simp only [received, List.flatten_append, List.flatten_singleton, List.append_assoc]
        rw [← List.append_assoc (List.take _ _), List.take_append_drop]
      · split at h
        · cases h
          refine ⟨hnone, rfl, fun _ => ?_, fun hresult => absurd hresult hsuccess⟩
          simp only [received, List.flatten_append, List.flatten_singleton, List.append_nil]
        · cases h
    | complete =>
      simp only [complete, atEof, Option.ite_none_right_eq_some, Bool.and_eq_true,
        List.isEmpty_iff] at h
      obtain ⟨⟨⟨hpipe, hclosed⟩, hbuffer⟩, hstored⟩ := h
      cases hstored
      refine ⟨hnone, rfl, fun _ => rfl, fun _ => ⟨?_, hpipe, hclosed⟩⟩
      simp only [received, hbuffer, List.append_nil]
    | fail =>
      cases h
      exact ⟨hnone, rfl, fun hresult => absurd rfl hresult, fun hresult => absurd hresult (by simp)⟩

end Upload

/-! ## The invariant -/

namespace State

variable {s s' : State} {p : ℕ}

/-- What the copy task has read and not written to a provider yet. -/
def toWrite (s : State) (p : ℕ) : List UInt8 :=
  match s.task with
  | .writing chunk i rest _ =>
    if s.activeWriters.idxOf p < i then [] else if s.activeWriters.idxOf p = i then rest else chunk
  | _ => []

theorem toWrite_writing {chunk rest : List UInt8} {i : ℕ} {failed : List ℕ}
    (h : s.task = .writing chunk i rest failed) :
    s.toWrite p = if s.activeWriters.idxOf p < i then []
      else if s.activeWriters.idxOf p = i then rest else chunk := by
  rw [toWrite, h]

theorem toWrite_start {chunk : List UInt8} {failed : List ℕ}
    (h : s.task = .writing chunk 0 chunk failed) : s.toWrite p = chunk := by
  rw [toWrite_writing h, if_neg (Nat.not_lt_zero _), ite_self]

theorem toWrite_reading (h : s.task = .reading) : s.toWrite p = [] := by
  rw [toWrite, h]

theorem toWrite_finished {ok : Bool} (h : s.task = .finished ok) : s.toWrite p = [] := by
  rw [toWrite, h]

/-- A provider that has not failed gets the dump in order, and so it does not depend on the others. -/
def Conserved (s : State) : Prop :=
  ∀ p < s.providers, (s.uploads p).result ≠ some false →
    (s.uploads p).received ++ (s.uploads p).pipe ++ s.toWrite p ++ s.dump.unread = s.dump.written

/-- A backup that is reported as successful is complete. -/
structure Complete (s : State) : Prop where
  exited : s.result = some .ok → s.dump.exit = some true
  kept : s.result = some .ok → ∃ p < s.providers, (s.uploads p).stored = some s.dump.written
  stored : ∀ p < s.providers, (s.uploads p).result = some true →
    (s.uploads p).stored = some s.dump.written
  conserved : s.Conserved

def allFailed (s : State) : Bool :=
  (List.range s.providers).all fun p => (s.uploads p).result = some false

/-- Neither the process nor a read of its output fails before all providers have. -/
def policy (s : State) : Op → Bool
  | .dumpExits success => success || s.allFailed
  | .readFailed => s.allFailed
  | _ => true

theorem allFailed_iff : s.allFailed = true ↔ ∀ p < s.providers, (s.uploads p).result = some false := by
  simp [allFailed]

structure Inv (s : State) : Prop where
  nodup : s.activeWriters.Nodup
  active_lt : ∀ p ∈ s.activeWriters, p < s.providers
  removed : ∀ p < s.providers, p ∉ s.activeWriters → (s.uploads p).result = some false
  failed : ∀ chunk i rest failed, s.task = .writing chunk i rest failed →
    failed.Pairwise (· < ·) ∧ ∀ j ∈ failed, j < i ∧
      ∀ p, s.activeWriters[j]? = some p → (s.uploads p).result = some false
  closed : ∀ p, (s.uploads p).closed = true →
    s.task = .finished true ∨ (s.uploads p).result = some false
  succeeded : ∀ p, (s.uploads p).result = some true →
    (s.uploads p).stored = some (s.uploads p).received ∧ (s.uploads p).pipe = [] ∧
      (s.uploads p).closed = true
  eof : s.task = .finished true → s.dump.closed = true ∧ s.dump.unread = []
  aborted : s.task = .finished false → s.allFailed = true
  exited : s.dump.exit = some false → s.allFailed = true
  conserved : s.Conserved
  done : s.result = some .ok →
    s.task = .finished true ∧ s.dump.exit.isSome ∧
      ∃ p < s.providers, (s.uploads p).result = some true

theorem inv_init (providers : ℕ) : Inv { providers } where
  nodup := List.nodup_range
  active_lt _ hp := List.mem_range.mp hp
  removed _ hp hnot := absurd (List.mem_range.mpr hp) hnot
  failed _ _ _ _ htask := nomatch htask
  closed _ hclosed := nomatch hclosed
  succeeded _ hresult := nomatch hresult
  eof htask := nomatch htask
  aborted htask := nomatch htask
  exited hexit := nomatch hexit
  conserved _ _ _ := rfl
  done hresult := nomatch hresult

theorem Inv.stored (h : Inv s) (hp : p < s.providers) (hresult : (s.uploads p).result = some true) :
    (s.uploads p).stored = some s.dump.written := by
  obtain ⟨hstored, hpipe, hclosed⟩ := h.succeeded p hresult
  have hne : (s.uploads p).result ≠ some false := by simp [hresult]
  have htask := (h.closed p hclosed).resolve_right hne
  have hwrite : s.toWrite p = [] := toWrite_finished htask
  have hconserved := h.conserved p hp hne
  rw [hpipe, hwrite, (h.eof htask).2] at hconserved
  simp only [List.append_nil] at hconserved
  rw [hstored, hconserved]

theorem Inv.complete (h : Inv s) : s.Complete where
  exited hresult := by
    obtain ⟨-, hexit, p, hp, hsucceeded⟩ := h.done hresult
    obtain ⟨success, hsuccess⟩ := Option.isSome_iff_exists.mp hexit
    cases success with
    | true => exact hsuccess
    | false =>
      have hfailed := allFailed_iff.mp (h.exited hsuccess) p hp
      cases hfailed.symm.trans hsucceeded
  kept hresult := by
    obtain ⟨-, -, p, hp, hsucceeded⟩ := h.done hresult
    exact ⟨p, hp, h.stored hp hsucceeded⟩
  stored _ hp hresult := h.stored hp hresult
  conserved := h.conserved

/-! ## The process -/

theorem inv_dumpWrites (h : Inv s) {bytes : List UInt8} (hstep : s.dumpWrites bytes = some s') :
    Inv s' := by
  unfold dumpWrites at hstep
  split at hstep
  · cases hstep
  · rename_i hopen
    cases hstep
    refine { h with eof := fun htask => absurd (h.eof htask).1 hopen, conserved := fun p hp hne => ?_ }
    have hconserved := h.conserved p hp hne
    show (s.uploads p).received ++ (s.uploads p).pipe ++ s.toWrite p ++ (s.dump.unread ++ bytes) =
      s.dump.written ++ bytes
    rw [← hconserved, List.append_assoc _ s.dump.unread]

theorem inv_dumpCloses (h : Inv s) (hstep : s.dumpCloses = some s') : Inv s' := by
  cases hstep
  exact { h with eof := fun htask => ⟨rfl, (h.eof htask).2⟩ }

theorem inv_dumpExits (h : Inv s) {success : Bool} (hadmits : s.policy (.dumpExits success) = true)
    (hstep : s.dumpExits success = some s') : Inv s' := by
  unfold dumpExits at hstep
  split at hstep
  · cases hstep
  · cases hstep
    refine
      { h with
        eof := fun htask => ⟨rfl, (h.eof htask).2⟩
        exited := fun hexit => ?_
        done := fun hresult => ?_ }
    · have hsuccess : success = false := Option.some.inj hexit
      subst hsuccess
      exact hadmits
    · obtain ⟨htask, -, hsucceeded⟩ := h.done hresult
      exact ⟨htask, rfl, hsucceeded⟩

/-! ## The copy task -/

theorem inv_read (h : Inv s) {n : ℕ} (hstep : s.read n = some s') : Inv s' := by
  unfold read at hstep
  simp only [Option.ite_none_right_eq_some] at hstep
  obtain ⟨⟨htask, -, -, -⟩, hstep⟩ := hstep
  cases hstep
  have hwrite : ∀ p, s.toWrite p = [] := fun p => toWrite_reading htask
  refine
    { h with
      failed := ?_
      closed := fun p hclosed => ?_
      eof := fun heof => nomatch heof
      aborted := fun haborted => nomatch haborted
      conserved := fun p hp hne => ?_
      done := fun hresult => ?_ }
  · rintro chunk i rest failed ⟨⟩
    exact ⟨List.Pairwise.nil, fun j hj => nomatch hj⟩
  · rcases h.closed p hclosed with hfinished | hfailed
    · cases htask.symm.trans hfinished
    · exact .inr hfailed
  · have hconserved := h.conserved p hp hne
    rw [hwrite, List.append_nil] at hconserved
    rw [toWrite_start rfl]
    show (s.uploads p).received ++ (s.uploads p).pipe ++ s.dump.unread.take n ++
      s.dump.unread.drop n = s.dump.written
    rw [List.append_assoc _ (List.take _ _), List.take_append_drop, hconserved]
  · cases htask.symm.trans (h.done hresult).1

theorem allFailed_of_result (hproviders : s'.providers = s.providers)
    (hresult : ∀ p, (s'.uploads p).result = (s.uploads p).result) : s'.allFailed = s.allFailed := by
  unfold allFailed
  simp only [hproviders, hresult]

/-- While the copy task is not done, no provider has succeeded. -/
theorem Inv.result_ne (h : Inv s) (htask : s.task ≠ .finished true) :
    (s.uploads p).result ≠ some true := by
  intro hresult
  rcases h.closed p (h.succeeded p hresult).2.2 with hfinished | hfailed
  · exact htask hfinished
  · cases hfailed.symm.trans hresult

/-- Closing a duplex changes nothing else about it. -/
theorem closeWriters_uploads (s : State) (p : ℕ) :
    s.closeWriters.uploads p =
      { s.uploads p with closed := p ∈ s.activeWriters || (s.uploads p).closed } := by
  unfold closeWriters
  by_cases hp : p ∈ s.activeWriters <;> simp [hp]

theorem inv_closeWriters (h : Inv s) {ok : Bool} (htask : s.task = .reading)
    (heof : ok = true → s.dump.closed = true ∧ s.dump.unread = [])
    (haborted : ok = false → s.allFailed = true) :
    Inv { s.closeWriters with task := .finished ok } := by
  have hresult : ∀ p, (s.closeWriters.uploads p).result = (s.uploads p).result := by
    intro p
    rw [closeWriters_uploads]
  have hallFailed : s.closeWriters.allFailed = s.allFailed := allFailed_of_result rfl hresult
  have hreading : s.task ≠ .finished true := by simp [htask]
  refine
    { nodup := h.nodup
      active_lt := h.active_lt
      removed := fun p hp hnot => (hresult p).trans (h.removed p hp hnot)
      failed := fun chunk i rest failed hwriting => nomatch hwriting
      closed := fun p hclosed => ?_
      succeeded := fun p hsucceeded => ?_
      eof := fun hfinished => ?_
      aborted := fun hfinished => ?_
      exited := fun hexit => hallFailed.trans (h.exited hexit)
      conserved := fun p hp hne => ?_
      done := fun hdone => absurd (h.done hdone).1 hreading }
  · cases ok with
    | true => exact .inl rfl
    | false =>
      refine .inr ((hresult p).trans ?_)
      by_cases hmem : p ∈ s.activeWriters
      · exact allFailed_iff.mp (haborted rfl) p (h.active_lt p hmem)
      · have hbefore : (s.uploads p).closed = true := by
          simpa [closeWriters_uploads, hmem] using hclosed
        exact (h.closed p hbefore).resolve_left hreading
  · exact absurd ((hresult p).symm.trans hsucceeded) (h.result_ne hreading)
  · cases hfinished
    exact heof rfl
  · cases hfinished
    exact hallFailed.trans (haborted rfl)
  · rw [toWrite_finished rfl]
    have hconserved := h.conserved p hp (by rwa [← hresult p])
    rw [toWrite_reading htask] at hconserved
    show (s.closeWriters.uploads p).received ++ (s.closeWriters.uploads p).pipe ++ [] ++
      s.dump.unread = s.dump.written
    rw [closeWriters_uploads]
    exact hconserved

theorem inv_readEof (h : Inv s) (hstep : s.readEof = some s') : Inv s' := by
  unfold readEof at hstep
  simp only [Option.ite_none_right_eq_some] at hstep
  obtain ⟨⟨htask, hunread, hclosed⟩, hstep⟩ := hstep
  cases hstep
  exact inv_closeWriters h htask (fun _ => ⟨hclosed, hunread⟩) (fun hok => nomatch hok)

theorem inv_readFailed (h : Inv s) (hadmits : s.policy .readFailed = true)
    (hstep : s.readFailed = some s') : Inv s' := by
  unfold readFailed at hstep
  simp only [Option.ite_none_right_eq_some] at hstep
  obtain ⟨htask, hstep⟩ := hstep
  cases hstep
  exact inv_closeWriters h htask (fun hok => nomatch hok) (fun _ => hadmits)

/-! ## Writers -/

theorem idxOf_ne {i provider : ℕ} (hwriter : s.activeWriters[i]? = some provider)
    (hp : p ≠ provider) : s.activeWriters.idxOf p ≠ i := by
  rintro rfl
  obtain ⟨hlt, hget⟩ := List.getElem?_eq_some_iff.mp hwriter
  exact hp ((List.getElem_idxOf hlt).symm.trans hget)

theorem idxOf_eq (h : Inv s) {i provider : ℕ} (hwriter : s.activeWriters[i]? = some provider) :
    s.activeWriters.idxOf provider = i := by
  obtain ⟨hlt, hget⟩ := List.getElem?_eq_some_iff.mp hwriter
  rw [← hget]
  exact h.nodup.idxOf_getElem i hlt

/-- Going on with the next writer is seen by the current one only. -/
theorem toWrite_next {chunk rest : List UInt8} {i : ℕ} {failed failed' : List ℕ}
    (htask : s.task = .writing chunk i rest failed)
    (htask' : s'.task = .writing chunk (i + 1) chunk failed')
    (hwriters : s'.activeWriters = s.activeWriters) (hp : s.activeWriters.idxOf p ≠ i) :
    s'.toWrite p = s.toWrite p := by
  rw [toWrite_writing htask, toWrite_writing htask', hwriters, ite_self, if_neg hp]
  by_cases hlt : s.activeWriters.idxOf p < i
  · rw [if_pos hlt, if_pos (by omega)]
  · rw [if_neg hlt, if_neg (by omega)]

/-- What is written to one duplex is less to be written to it. -/
theorem Inv.conserved_write (h : Inv s) {chunk rest : List UInt8} {i n provider : ℕ}
    {failed : List ℕ} (htask : s.task = .writing chunk i rest failed)
    (hwriter : s.activeWriters[i]? = some provider)
    (hproviders : s'.providers = s.providers) (hwriters : s'.activeWriters = s.activeWriters)
    (hdump : s'.dump = s.dump)
    (htask' : s'.task = if n = rest.length then .writing chunk (i + 1) chunk failed
      else .writing chunk i (rest.drop n) failed)
    (huploads : s'.uploads = Function.update s.uploads provider
      { s.uploads provider with pipe := (s.uploads provider).pipe ++ rest.take n }) :
    s'.Conserved := by
  intro p hp hne
  rw [hproviders] at hp
  rw [huploads] at hne ⊢
  rw [hdump]
  by_cases hprovider : p = provider
  · subst hprovider
    simp only [Function.update_self] at hne ⊢
    have hidx := idxOf_eq h hwriter
    have hconserved := h.conserved p hp hne
    rw [toWrite_writing htask, hidx, if_neg (Nat.lt_irrefl i), if_pos rfl] at hconserved
    have hwrite : s'.toWrite p = rest.drop n := by
      by_cases hlength : n = rest.length
      · rw [if_pos hlength] at htask'
        rw [toWrite_writing htask', hwriters, hidx, if_pos (Nat.lt_succ_self i), hlength,
          List.drop_length]
      · rw [if_neg hlength] at htask'
        rw [toWrite_writing htask', hwriters, hidx, if_neg (Nat.lt_irrefl i), if_pos rfl]
    rw [hwrite]
    show (s.uploads p).received ++ ((s.uploads p).pipe ++ rest.take n) ++ rest.drop n ++
      s.dump.unread = s.dump.written
    rw [← List.append_assoc, List.append_assoc _ (rest.take n), List.take_append_drop, hconserved]
  · simp only [Function.update_of_ne hprovider] at hne ⊢
    have hidx := idxOf_ne hwriter hprovider
    have hwrite : s'.toWrite p = s.toWrite p := by
      by_cases hlength : n = rest.length
      · rw [if_pos hlength] at htask'
        exact toWrite_next htask htask' hwriters hidx
      · rw [if_neg hlength] at htask'
        rw [toWrite_writing htask, toWrite_writing htask', hwriters, if_neg hidx, if_neg hidx]
    rw [hwrite]
    exact h.conserved p hp hne

theorem inv_write (h : Inv s) {n : ℕ} (hstep : s.write n = some s') : Inv s' := by
  unfold write at hstep
  split at hstep
  · rename_i chunk i rest failed htask
    split at hstep
    · rename_i provider hwriter
      simp only [Option.ite_none_right_eq_some] at hstep
      have hs' := Option.some.inj hstep.2
      have hnotFinished : s.task ≠ .finished true := by simp [htask]
      have hupload : ∀ p, (s'.uploads p).result = (s.uploads p).result ∧
          (s'.uploads p).closed = (s.uploads p).closed := by
        intro p
        rw [← hs']
        by_cases hp : p = provider
        · subst hp
          simp [setUpload]
        · simp [setUpload, hp]
      have hallFailed : s'.allFailed = s.allFailed :=
        allFailed_of_result (by rw [← hs']; rfl) fun p => (hupload p).1
      have htask' : ∃ j rest', (j = i ∨ j = i + 1) ∧ s'.task = .writing chunk j rest' failed := by
        rw [← hs']
        by_cases hlength : n = rest.length
        · exact ⟨i + 1, chunk, .inr rfl, if_pos hlength⟩
        · exact ⟨i, rest.drop n, .inl rfl, if_neg hlength⟩
      obtain ⟨j, rest', hj, htask'⟩ := htask'
      have hconserved : s'.Conserved := by
        rw [← hs']
        exact h.conserved_write htask hwriter rfl rfl rfl rfl rfl
      subst hs'
      refine
        { nodup := h.nodup
          active_lt := h.active_lt
          removed := fun p hp hnot => (hupload p).1.trans (h.removed p hp hnot)
          failed := fun chunk' i' rest' failed' hwriting => ?_
          closed := fun p hclosed => ?_
          succeeded := fun p hsucceeded => ?_
          eof := fun hfinished => ?_
          aborted := fun hfinished => ?_
          exited := fun hexit => hallFailed.trans (h.exited hexit)
          conserved := hconserved
          done := fun hdone => absurd (h.done hdone).1 hnotFinished }
      · cases htask'.symm.trans hwriting
        obtain ⟨hsorted, hlt⟩ := h.failed chunk i rest failed htask
        refine ⟨hsorted, fun k hk => ⟨?_, fun p hp => (hupload p).1.trans ((hlt k hk).2 p hp)⟩⟩
        have hki := (hlt k hk).1
        omega
      · rw [(hupload p).2] at hclosed
        exact .inr ((hupload p).1.trans ((h.closed p hclosed).resolve_left hnotFinished))
      · exact absurd ((hupload p).1.symm.trans hsucceeded) (h.result_ne hnotFinished)
      · cases htask'.symm.trans hfinished
      · cases htask'.symm.trans hfinished
    · cases hstep
  · cases hstep

theorem inv_writeFailed (h : Inv s) (hstep : s.writeFailed = some s') : Inv s' := by
  unfold writeFailed at hstep
  split at hstep
  · rename_i chunk i rest failed htask
    split at hstep
    · rename_i provider hwriter
      simp only [Option.ite_none_right_eq_some] at hstep
      obtain ⟨hreturned, hstep⟩ := hstep
      cases hstep
      have hnotFinished : s.task ≠ .finished true := by simp [htask]
      obtain ⟨success, hsuccess⟩ := Option.isSome_iff_exists.mp hreturned
      have hfailed : (s.uploads provider).result = some false := by
        cases success with
        | true => exact absurd hsuccess (h.result_ne hnotFinished)
        | false => exact hsuccess
      refine
        { h with
          failed := ?_
          closed := fun p hclosed => .inr ((h.closed p hclosed).resolve_left hnotFinished)
          eof := fun hfinished => nomatch hfinished
          aborted := fun hfinished => nomatch hfinished
          conserved := fun p hp hne => ?_
          done := fun hdone => absurd (h.done hdone).1 hnotFinished }
      · rintro _ _ _ _ ⟨⟩
        obtain ⟨hsorted, hlt⟩ := h.failed chunk i rest failed htask
        constructor
        · refine List.pairwise_append.mpr ⟨hsorted, List.pairwise_singleton _ _, fun j hj k hk => ?_⟩
          rw [List.mem_singleton.mp hk]
          exact (hlt j hj).1
        · intro j hj
          rcases List.mem_append.mp hj with hj | hj
          · exact ⟨Nat.lt_succ_of_lt (hlt j hj).1, (hlt j hj).2⟩
          · rw [List.mem_singleton.mp hj]
            refine ⟨Nat.lt_succ_self i, fun p hp => ?_⟩
            cases hwriter.symm.trans hp
            exact hfailed
      · have hprovider : p ≠ provider := by
          rintro rfl
          exact hne hfailed
        refine Eq.trans ?_ (h.conserved p hp hne)
        congr 2
        exact toWrite_next htask rfl rfl (idxOf_ne hwriter hprovider)
    · cases hstep
  · cases hstep

theorem inv_removeFailed (h : Inv s) (hstep : s.removeFailed = some s') : Inv s' := by
  unfold removeFailed at hstep
  split at hstep
  · rename_i chunk i rest failed htask
    simp only [Option.ite_none_right_eq_some] at hstep
    obtain ⟨hall, hstep⟩ := hstep
    cases hstep
    have hnotFinished : s.task ≠ .finished true := by simp [htask]
    obtain ⟨hsorted, hlt⟩ := h.failed chunk i rest failed htask
    have hmem : ∀ p, p ∈ removeAll s.activeWriters failed ↔
        p ∈ s.activeWriters ∧ ∀ j ∈ failed, s.activeWriters[j]? ≠ some p :=
      fun p => mem_removeAll h.nodup hsorted
    have hremoved : ∀ p < s.providers, p ∉ removeAll s.activeWriters failed →
        (s.uploads p).result = some false := by
      intro p hp hnot
      by_cases hactive : p ∈ s.activeWriters
      · rw [hmem] at hnot
        push Not at hnot
        obtain ⟨j, hj, hget⟩ := hnot hactive
        exact (hlt j hj).2 p hget
      · exact h.removed p hp hactive
    refine
      { nodup := nodup_removeAll h.nodup
        active_lt := fun p hp => h.active_lt p ((hmem p).mp hp).1
        removed := hremoved
        failed := fun chunk i rest failed hwriting => ?_
        closed := fun p hclosed => .inr ((h.closed p hclosed).resolve_left hnotFinished)
        succeeded := h.succeeded
        eof := fun hfinished => ?_
        aborted := fun hfinished => ?_
        exited := h.exited
        conserved := fun p hp hne => ?_
        done := fun hdone => absurd (h.done hdone).1 hnotFinished }
    · simp only at hwriting
      split at hwriting <;> cases hwriting
    · simp only at hfinished
      split at hfinished <;> cases hfinished
    · simp only at hfinished
      split at hfinished
      · rename_i hempty
        rw [List.isEmpty_iff] at hempty
        refine allFailed_iff.mpr fun p hp => hremoved p hp ?_
        rw [hempty]
        exact List.not_mem_nil
      · cases hfinished
    · have hactive : p ∈ s.activeWriters := by
        by_contra hnot
        exact hne (h.removed p hp hnot)
      have hidx := List.idxOf_lt_length_of_mem hactive
      have hconserved := h.conserved p hp hne
      rw [toWrite_writing htask, if_pos (by omega)] at hconserved
      refine Eq.trans ?_ hconserved
      congr 2
      by_cases hempty : (removeAll s.activeWriters failed).isEmpty = true
      · exact toWrite_finished (if_pos hempty)
      · exact toWrite_reading (if_neg hempty)
  · cases hstep

/-! ## Uploads and the result -/

theorem inv_upload (h : Inv s) {provider : ℕ} {op : UploadOp}
    (hstep : s.step (.upload provider op) = some s') : Inv s' := by
  simp only [step, Option.ite_none_right_eq_some, Option.map_eq_some_iff] at hstep
  obtain ⟨hprovider, u, hu, hs'⟩ := hstep
  obtain ⟨hnone, hclosed, hreceived, hsucceeded⟩ := Upload.step_spec hu
  have hother : ∀ p, (s.uploads p).result ≠ none → s'.uploads p = s.uploads p := by
    intro p hp
    have hne : p ≠ provider := by
      rintro rfl
      exact hp hnone
    rw [← hs']
    exact Function.update_of_ne hne u s.uploads
  have hupdate : ∀ p, p = provider ∧ s'.uploads p = u ∨ s'.uploads p = s.uploads p := by
    intro p
    by_cases hp : p = provider
    · subst hp
      refine .inl ⟨rfl, ?_⟩
      rw [← hs']
      exact Function.update_self p u s.uploads
    · refine .inr ?_
      rw [← hs']
      exact Function.update_of_ne hp u s.uploads
  have hfailed : ∀ p, (s.uploads p).result = some false → (s'.uploads p).result = some false := by
    intro p hp
    rw [hother p (by simp [hp]), hp]
  have hrunning : s.allFailed ≠ true := by
    intro hall
    cases hnone.symm.trans (allFailed_iff.mp hall provider hprovider)
  subst hs'
  refine
    { nodup := h.nodup
      active_lt := h.active_lt
      removed := fun p hp hnot => hfailed p (h.removed p hp hnot)
      failed := fun chunk i rest failed htask => ?_
      closed := fun p hp => ?_
      succeeded := fun p hp => ?_
      eof := h.eof
      aborted := fun htask => absurd (h.aborted htask) hrunning
      exited := fun hexit => absurd (h.exited hexit) hrunning
      conserved := fun p hp hne => ?_
      done := fun hdone => ?_ }
  · obtain ⟨hsorted, hlt⟩ := h.failed chunk i rest failed htask
    exact ⟨hsorted, fun j hj => ⟨(hlt j hj).1, fun p hp => hfailed p ((hlt j hj).2 p hp)⟩⟩
  · have hbefore : (s.uploads p).closed = true := by
      rcases hupdate p with ⟨rfl, hp'⟩ | hp'
      · rwa [hp', hclosed] at hp
      · rwa [hp'] at hp
    exact (h.closed p hbefore).imp id (hfailed p)
  · rcases hupdate p with ⟨rfl, hp'⟩ | hp'
    · rw [hp'] at hp ⊢
      exact hsucceeded hp
    · rw [hp'] at hp ⊢
      exact h.succeeded p hp
  · have hwrite : (s.setUpload provider u).toWrite p = s.toWrite p := rfl
    rw [hwrite]
    rcases hupdate p with ⟨rfl, hp'⟩ | hp'
    · rw [hp'] at hne ⊢
      rw [hreceived hne]
      exact h.conserved p hp (by simp [hnone])
    · rw [hp'] at hne ⊢
      exact h.conserved p hp hne
  · obtain ⟨htask, hexit, p, hp, hresult⟩ := h.done hdone
    refine ⟨htask, hexit, p, hp, ?_⟩
    rw [hother p (by simp [hresult]), hresult]

theorem handleResults_eq_ok :
    s.handleResults = .ok ↔ ∃ p < s.providers, (s.uploads p).result = some true := by
  unfold handleResults
  split
  · rename_i hany
    simpa using hany
  · rename_i hnone
    simpa using hnone

theorem inv_finish (h : Inv s) (hstep : s.finish = some s') : Inv s' := by
  unfold finish at hstep
  split at hstep
  · rename_i ok htask
    simp only [Option.ite_none_right_eq_some] at hstep
    obtain ⟨⟨-, hexit, -⟩, hstep⟩ := hstep
    cases hstep
    refine { h with done := fun hdone => ?_ }
    cases ok with
    | true => exact ⟨htask, hexit, handleResults_eq_ok.mp (Option.some.inj hdone)⟩
    | false => cases hdone
  · cases hstep

theorem inv_step {op : Op} (h : Inv s) (hadmits : s.policy op = true)
    (hstep : s.step op = some s') : Inv s' := by
  cases op with
  | dumpWrites bytes => exact inv_dumpWrites h hstep
  | dumpCloses => exact inv_dumpCloses h hstep
  | dumpExits success => exact inv_dumpExits h hadmits hstep
  | read n => exact inv_read h hstep
  | readEof => exact inv_readEof h hstep
  | readFailed => exact inv_readFailed h hadmits hstep
  | write n => exact inv_write h hstep
  | writeFailed => exact inv_writeFailed h hstep
  | removeFailed => exact inv_removeFailed h hstep
  | upload provider op => exact inv_upload h hstep
  | finish => exact inv_finish h hstep

/-- Backups are complete if neither `pg_dump` nor a read of its output fails before all providers
have. -/
theorem backups_complete {providers : ℕ} {ops : List Op} {s : State}
    (h : runFrom step policy { providers } ops = some s) : s.Complete := by
  have hinv : Inv s :=
    invariant_of_runFrom (fun _ _ _ hinv hadmits hstep => inv_step hinv hadmits hstep)
      (inv_init providers) h
  exact hinv.complete

/-- Two providers, of which the first fails while it uploads. -/
def oneProviderFails : List Op :=
  [.dumpWrites [1, 2], .read 2, .upload 0 .fail, .writeFailed, .write 1, .write 1, .removeFailed,
    .dumpWrites [3], .read 1, .upload 1 (.readBuf 2), .write 1, .removeFailed, .dumpExits true,
    .readEof, .upload 1 (.readBuf 1), .upload 1 .uploadPart, .upload 1 .complete, .finish]

theorem oneProviderFails_complete :
    ∃ s, runFrom step policy { providers := 2 } oneProviderFails = some s ∧ s.Complete := by
  have hrun : (runFrom step policy { providers := 2 } oneProviderFails).isSome = true := by decide
  obtain ⟨s, hs⟩ := Option.isSome_iff_exists.mp hrun
  exact ⟨s, hs, backups_complete hs⟩

/-- `pg_dump` fails after it has written a part of the dump. -/
def dumpFails : List Op :=
  [.dumpWrites [1, 2], .read 2, .write 2, .removeFailed, .dumpExits false, .readEof,
    .upload 0 (.readBuf 2), .upload 0 .uploadPart, .upload 0 .complete, .finish]

/-- What a dump that failed has written is reported as a backup. -/
theorem dumpFails_incomplete :
    ¬∀ (providers : ℕ) (ops : List Op) (s : State),
      runFrom step (fun _ _ => true) { providers } ops = some s → s.Complete := by
  intro h
  have hrun : ((runFrom step (fun _ _ => true) { providers := 1 } dumpFails).map fun s =>
      (s.result, s.dump.exit)) = some (some .ok, some false) := by decide
  obtain ⟨s, hs, hresult⟩ := Option.map_eq_some_iff.mp hrun
  obtain ⟨hok, hexit⟩ := Prod.mk.inj hresult
  cases hexit.symm.trans ((h 1 dumpFails s hs).exited hok)

end State

end Boltz.Sidecar.DatabaseBackup
