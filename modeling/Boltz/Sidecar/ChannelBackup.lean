import Boltz.Async.Transitions
import Mathlib.Logic.Function.Basic

/-!
# Channel backups

Every source has a task that uploads what its stream announces, and one task retries the sources
that are marked. The backups of a source are numbered from 1 in the order in which its channels
change; `current` is the newest and `announced` the newest that was sent to the stream, 0 when
there is none.
-/

namespace Boltz.Sidecar.ChannelBackup

open Boltz.Async

/-- A backup that is put under `channel_backup_path(date)` of its source. -/
structure Upload where
  backup : Nat
  date : Nat
  deriving DecidableEq, Repr

inductive StreamTask where
  | starting
  /-- Subscribed, and the source is asked for its first backup. -/
  | firstBackup
  | firstUpload (upload : Upload)
  | listening
  | uploading (upload : Upload)
  /-- The upload failed and the source is about to be marked. -/
  | failed
  /-- The stream is closed. -/
  | stopped
  deriving DecidableEq, Repr

structure Source where
  current : Nat := 0
  announced : Nat := 0
  closed : Bool := false
  queue : List Nat := []
  stream : StreamTask := .starting
  /-- The uploads that succeeded, in order. -/
  uploads : List Upload := []
  deriving DecidableEq, Repr

inductive RetryTask (Id : Type) where
  | waiting
  | round (ids : List Id)
  | uploading (id : Id) (upload : Upload) (ids : List Id)
  /-- The upload succeeded and the mark is about to be removed. -/
  | removing (id : Id) (ids : List Id)
  deriving DecidableEq, Repr

structure State (Id : Type) where
  sources : Id → Source
  toRetry : List Id := []
  retry : RetryTask Id := .waiting

inductive Op (Id : Type) where
  /-- The channels of the source change. -/
  | change (id : Id)
  | announce (id : Id) (backup : Nat)
  | close (id : Id)
  | subscribe (id : Id)
  | firstBackup (id : Id) (ok : Bool) (date : Nat)
  | firstPut (id : Id) (results : List Bool)
  | recv (id : Id) (date : Nat)
  | lagged (id : Id) (skipped : Nat)
  | put (id : Id) (results : List Bool)
  | mark (id : Id)
  | stop (id : Id)
  | tick (ids : List Id)
  | retryBackup (ok : Bool) (date : Nat)
  | retryPut (results : List Bool)
  | unmark
  deriving DecidableEq, Repr

/-- The results of all providers: one success is enough. -/
def handleResults (results : List Bool) : Bool := results.any id

namespace State

variable {Id : Type} [DecidableEq Id]

def set (s : State Id) (id : Id) (source : Source) : State Id :=
  { s with sources := Function.update s.sources id source }

/-- What the source sends to the stream; only a subscriber gets it. -/
def announce (source : Source) (backup : Nat) : Option Source :=
  if source.closed || decide (backup < source.announced) || decide (source.current < backup) then
    none
  else if source.stream = .starting then some { source with announced := backup }
  else some { source with announced := backup, queue := source.queue ++ [backup] }

def firstBackup (source : Source) (ok : Bool) (date : Nat) : Option Source :=
  match source.stream with
  | .firstBackup =>
    if ok && decide (source.current ≠ 0) then
      some { source with stream := .firstUpload ⟨source.current, date⟩ }
    else some { source with stream := .listening }
  | _ => none

/-- An error of the first upload is logged, and that is all. -/
def firstPut (source : Source) (results : List Bool) : Option Source :=
  match source.stream with
  | .firstUpload upload =>
    if handleResults results then
      some { source with stream := .listening, uploads := source.uploads ++ [upload] }
    else some { source with stream := .listening }
  | _ => none

def recv (source : Source) (date : Nat) : Option Source :=
  match source.stream, source.queue with
  | .listening, backup :: queue =>
    some { source with stream := .uploading ⟨backup, date⟩, queue := queue }
  | _, _ => none

/-- The channel drops the oldest messages, never the newest. -/
def lagged (source : Source) (skipped : Nat) : Option Source :=
  if source.stream = .listening ∧ skipped < source.queue.length then
    some { source with queue := source.queue.drop skipped }
  else none

def put (source : Source) (results : List Bool) : Option Source :=
  match source.stream with
  | .uploading upload =>
    if handleResults results then
      some { source with stream := .listening, uploads := source.uploads ++ [upload] }
    else some { source with stream := .failed }
  | _ => none

def stop (source : Source) : Option Source :=
  if source.stream = .listening ∧ source.queue = [] ∧ source.closed = true then
    some { source with stream := .stopped }
  else none

/-- A step of the source `id` alone. -/
def onSource (s : State Id) (id : Id) (f : Source → Option Source) : Option (State Id) :=
  (f (s.sources id)).map (s.set id)

def mark (s : State Id) (id : Id) : Option (State Id) :=
  if (s.sources id).stream = .failed then
    some { s.set id { s.sources id with stream := .listening } with
      toRetry := if id ∈ s.toRetry then s.toRetry else s.toRetry ++ [id] }
  else none

def tick (s : State Id) (ids : List Id) : Option (State Id) :=
  match s.retry with
  | .waiting => if ids.isPerm s.toRetry then some { s with retry := .round ids } else none
  | _ => none

/-- The next source of a round is asked for its backup; one without a backup counts as done. -/
def retryBackup (s : State Id) (ok : Bool) (date : Nat) : Option (State Id) :=
  match s.retry with
  | .round [] => some { s with retry := .waiting }
  | .round (id :: ids) =>
    if !ok then some { s with retry := .round ids }
    else if (s.sources id).current = 0 then some { s with retry := .removing id ids }
    else some { s with retry := .uploading id ⟨(s.sources id).current, date⟩ ids }
  | _ => none

def retryPut (s : State Id) (results : List Bool) : Option (State Id) :=
  match s.retry with
  | .uploading id upload ids =>
    if handleResults results then
      some { s.set id { s.sources id with uploads := (s.sources id).uploads ++ [upload] } with
        retry := .removing id ids }
    else some { s with retry := .round ids }
  | _ => none

def unmark (s : State Id) : Option (State Id) :=
  match s.retry with
  | .removing id ids => some { s with toRetry := s.toRetry.erase id, retry := .round ids }
  | _ => none

def step (s : State Id) : Op Id → Option (State Id)
  | .change id => s.onSource id fun source => some { source with current := source.current + 1 }
  | .announce id backup => s.onSource id (announce · backup)
  | .close id => s.onSource id fun source => some { source with closed := true }
  | .subscribe id => s.onSource id fun source =>
      if source.stream = .starting then some { source with stream := .firstBackup } else none
  | .firstBackup id ok date => s.onSource id (firstBackup · ok date)
  | .firstPut id results => s.onSource id (firstPut · results)
  | .recv id date => s.onSource id (recv · date)
  | .lagged id skipped => s.onSource id (lagged · skipped)
  | .put id results => s.onSource id (put · results)
  | .mark id => s.mark id
  | .stop id => s.onSource id stop
  | .tick ids => s.tick ids
  | .retryBackup ok date => s.retryBackup ok date
  | .retryPut results => s.retryPut results
  | .unmark => s.unmark

end State

/-! ## The policy and what is left to upload -/

/-- An update is waiting, or nothing was announced yet. -/
def Source.spare (source : Source) : Bool := source.announced == 0 || !source.queue.isEmpty

def RetryTask.upload? {Id : Type} [DecidableEq Id] (id : Id) : RetryTask Id → Option Upload
  | .uploading i upload _ => if i = id then some upload else none
  | _ => none

def RetryTask.removes {Id : Type} [DecidableEq Id] (id : Id) : RetryTask Id → Bool
  | .removing i _ => decide (i = id)
  | _ => false

/-- The sources the round has not reached yet. -/
def RetryTask.ids {Id : Type} : RetryTask Id → List Id
  | .waiting => []
  | .round ids => ids
  | .uploading _ _ ids => ids
  | .removing _ ids => ids

def StreamTask.upload? : StreamTask → Option Upload
  | .firstUpload upload => some upload
  | .uploading upload => some upload
  | _ => none

/-- An upload is running or will be started without a further update, or the mark is about to be
set. -/
def StreamTask.busy : StreamTask → Bool
  | .listening => false
  | .stopped => false
  | _ => true

variable {Id : Type} [DecidableEq Id]

/-- The first backup fails only when an update is waiting or none was announced; the stream task
takes no update that is newer than what a retry is uploading; and no mark is set between the
success of a retry and the removal of its mark. -/
def State.admits (s : State Id) : Op Id → Bool
  | .firstBackup id ok _ => ok || (s.sources id).spare
  | .firstPut id results => handleResults results || (s.sources id).spare
  | .recv id _ =>
    (s.retry.upload? id).all fun upload =>
      (s.sources id).queue.head?.all fun backup => decide (backup ≤ upload.backup)
  | .mark id => !s.retry.removes id
  | _ => true

/-- What the other tasks can tell of a source. -/
structure View where
  source : Source
  upload : Option Upload
  removes : Bool
  marked : Prop
  queued : Prop

def State.view (s : State Id) (id : Id) : View :=
  ⟨s.sources id, s.retry.upload? id, s.retry.removes id, id ∈ s.toRetry, id ∈ s.retry.ids⟩

/-- The retry task has nothing to do with the source. -/
def View.untouched (v : View) : Prop :=
  v.upload = none ∧ v.removes = false ∧ ¬ v.marked ∧ ¬ v.queued

namespace Source

/-- An upload is outdated only while a newer update waits. -/
def Covers (source : Source) (upload : Upload) : Prop :=
  source.queue = [] → source.announced ≤ upload.backup

/-- The last upload that succeeded contains the newest backup that was announced. -/
def Delivered (source : Source) : Prop :=
  source.announced = 0 ∨
    ∃ upload, source.uploads.getLast? = some upload ∧ source.announced ≤ upload.backup

def Safe (source : Source) : Prop := source.queue = [] → source.Delivered

theorem Covers.safe {source : Source} {upload : Upload} (h : source.Covers upload)
    (hlast : source.uploads.getLast? = some upload) : source.Safe :=
  fun hempty => .inr ⟨upload, hlast, h hempty⟩

theorem safe_of_spare {source : Source} (h : source.spare = true) : source.Safe := by
  intro hempty
  rw [spare, hempty, Bool.or_eq_true] at h
  rcases h with h | h
  · exact .inl (by simpa using h)
  · exact absurd h (by decide)

end Source

/-- Whatever is being uploaded is outdated only while an update waits, and a source that is not
safe has a task that is busy with it or a mark that will stay. -/
structure View.Inv (v : View) : Prop where
  announced_le : v.source.announced ≤ v.source.current
  last : ∀ backup, v.source.queue.getLast? = some backup → backup = v.source.announced
  starting : v.source.stream = .starting → v.source.queue = [] ∧ v.untouched
  stopped : v.source.stream = .stopped → v.source.closed = true
  stream : ∀ upload, v.source.stream.upload? = some upload → v.source.Covers upload
  retry : ∀ upload, v.upload = some upload → v.source.Covers upload
  removing : v.removes = true → v.source.Safe ∨ v.source.stream.busy = true
  kept : v.source.Safe ∨ v.source.stream.busy = true ∨ v.marked

def State.Inv (s : State Id) : Prop := ∀ id, (s.view id).Inv

/-! ## Steps of one source -/

section Steps

variable {v : View} {source : Source}

theorem View.Inv.change (h : v.Inv) :
    View.Inv { v with source := { v.source with current := v.source.current + 1 } } :=
  { h with announced_le := Nat.le_succ_of_le h.announced_le }

theorem View.Inv.close (h : v.Inv) :
    View.Inv { v with source := { v.source with closed := true } } :=
  { h with stopped := fun _ => rfl }

theorem View.Inv.announce (h : v.Inv) {backup : Nat}
    (hs : State.announce v.source backup = some source) :
    View.Inv { v with source := source } := by
  unfold State.announce at hs
  split at hs
  · exact absurd hs (Option.some_ne_none source).symm
  rename_i hguard
  simp only [Bool.or_eq_true, decide_eq_true_eq, not_or, Bool.not_eq_true] at hguard
  obtain ⟨⟨hopen, hnew⟩, hcurrent⟩ := hguard
  split at hs
  · rename_i hstream
    obtain rfl := Option.some.inj hs
    obtain ⟨hqueue, hun⟩ := h.starting hstream
    have hnone : StreamTask.upload? v.source.stream = none := by rw [hstream]; rfl
    have hbusy : StreamTask.busy v.source.stream = true := by rw [hstream]; rfl
    exact
      { announced_le := by dsimp only; omega
        last := fun b hb => absurd (hb.symm.trans (by rw [hqueue]; rfl)) (Option.some_ne_none b)
        starting := h.starting
        stopped := h.stopped
        stream := fun u hu => absurd (hu.symm.trans hnone) (Option.some_ne_none u)
        retry := fun u hu => absurd (hu.symm.trans hun.1) (Option.some_ne_none u)
        removing := fun _ => .inr hbusy
        kept := .inr (.inl hbusy) }
  · rename_i hstream
    obtain rfl := Option.some.inj hs
    have hwaits : v.source.queue ++ [backup] ≠ [] := by simp
    exact
      { announced_le := by dsimp only; omega
        last := fun b hb => by simpa using hb.symm
        starting := fun he => absurd he hstream
        stopped := h.stopped
        stream := fun _ _ hempty => absurd hempty hwaits
        retry := fun _ _ hempty => absurd hempty hwaits
        removing := fun _ => .inl fun hempty => absurd hempty hwaits
        kept := .inl fun hempty => absurd hempty hwaits }

/-- The stream task goes on to another point; what waits and what was uploaded stays. -/
theorem View.Inv.goOn (h : v.Inv) {stream : StreamTask} (hstarting : stream ≠ .starting)
    (hstopped : stream = .stopped → v.source.closed = true)
    (hupload : ∀ u, stream.upload? = some u → v.source.Covers u)
    (hsafe : v.source.Safe ∨ stream.busy = true) :
    View.Inv { v with source := { v.source with stream := stream } } :=
  { announced_le := h.announced_le
    last := h.last
    starting := fun he => absurd he hstarting
    stopped := hstopped
    stream := hupload
    retry := h.retry
    removing := fun _ => hsafe
    kept := hsafe.elim .inl fun hb => .inr (.inl hb) }

/-- An upload of the stream task succeeds. -/
theorem View.Inv.uploaded (h : v.Inv) {upload : Upload}
    (hstream : v.source.stream.upload? = some upload) :
    View.Inv { v with source :=
      { v.source with stream := .listening, uploads := v.source.uploads ++ [upload] } } := by
  have hsafe : Source.Safe
      { v.source with stream := .listening, uploads := v.source.uploads ++ [upload] } :=
    Source.Covers.safe (h.stream upload hstream) (by simp)
  exact
    { announced_le := h.announced_le
      last := h.last
      starting := fun he => StreamTask.noConfusion he
      stopped := fun he => StreamTask.noConfusion he
      stream := fun u hu => absurd hu.symm (Option.some_ne_none u)
      retry := h.retry
      removing := fun _ => .inl hsafe
      kept := .inl hsafe }

theorem View.Inv.firstBackup (h : v.Inv) {ok : Bool} {date : Nat}
    (hok : (ok || v.source.spare) = true)
    (hs : State.firstBackup v.source ok date = some source) :
    View.Inv { v with source := source } := by
  unfold State.firstBackup at hs
  split at hs
  · rename_i hstream
    split at hs
    · obtain rfl := Option.some.inj hs
      refine h.goOn (by simp) (by simp) (fun u hu _ => ?_) (.inr rfl)
      obtain rfl := Option.some.inj hu
      exact h.announced_le
    · rename_i hnone
      obtain rfl := Option.some.inj hs
      refine h.goOn (by simp) (by simp) (by simp [StreamTask.upload?]) (.inl ?_)
      rw [Bool.or_eq_true] at hok
      rcases hok with hok | hspare
      · have hzero : v.source.current = 0 := by simpa [hok] using hnone
        have hle := h.announced_le
        exact fun _ => .inl (by omega)
      · exact Source.safe_of_spare hspare
  · exact absurd hs (Option.some_ne_none source).symm

theorem View.Inv.firstPut (h : v.Inv) {results : List Bool}
    (hok : (handleResults results || v.source.spare) = true)
    (hs : State.firstPut v.source results = some source) :
    View.Inv { v with source := source } := by
  unfold State.firstPut at hs
  split at hs
  · rename_i upload hstream
    split at hs
    · obtain rfl := Option.some.inj hs
      exact h.uploaded (by rw [hstream]; rfl)
    · rename_i hfailed
      obtain rfl := Option.some.inj hs
      have hspare := (Bool.or_eq_true_iff.mp hok).resolve_left hfailed
      exact h.goOn (by simp) (by simp) (by simp [StreamTask.upload?])
        (.inl (Source.safe_of_spare hspare))
  · exact absurd hs (Option.some_ne_none source).symm

theorem getLast?_of_cons {a b : Nat} {l : List Nat} (h : l.getLast? = some b) :
    (a :: l).getLast? = some b := by
  rw [List.getLast?_cons, h]
  rfl

/-- Taking an update: the last one is the newest that was announced. -/
theorem View.Inv.recv (h : v.Inv) {date : Nat}
    (hnew : ∀ upload, v.upload = some upload → ∀ backup, v.source.queue.head? = some backup →
      backup ≤ upload.backup)
    (hs : State.recv v.source date = some source) : View.Inv { v with source := source } := by
  unfold State.recv at hs
  split at hs
  · rename_i backup queue hstream hqueue
    obtain rfl := Option.some.inj hs
    have hlast : queue = [] → v.source.announced = backup := by
      intro hempty
      exact (h.last backup (by rw [hqueue, hempty]; rfl)).symm
    exact
      { announced_le := h.announced_le
        last := fun b hb => h.last b (by rw [hqueue]; exact getLast?_of_cons hb)
        starting := fun he => StreamTask.noConfusion he
        stopped := fun he => StreamTask.noConfusion he
        stream := by
          intro u hu hempty
          obtain rfl := Option.some.inj hu
          exact Nat.le_of_eq (hlast hempty)
        retry := by
          intro u hu hempty
          have hle := hnew u hu backup (by rw [hqueue]; rfl)
          have heq := hlast hempty
          dsimp only
          omega
        removing := fun _ => .inr rfl
        kept := .inr (.inl rfl) }
  · exact absurd hs (Option.some_ne_none source).symm

theorem View.Inv.lagged (h : v.Inv) {skipped : Nat}
    (hs : State.lagged v.source skipped = some source) :
    View.Inv { v with source := source } := by
  unfold State.lagged at hs
  split at hs
  · rename_i hguard
    obtain ⟨hstream, hlen⟩ := hguard
    obtain rfl := Option.some.inj hs
    have hwaits : v.source.queue.drop skipped ≠ [] := by
      rw [Ne, List.drop_eq_nil_iff]
      omega
    exact
      { announced_le := h.announced_le
        last := by
          intro b hb
          refine h.last b ?_
          rw [List.getLast?_drop, if_neg (by omega)] at hb
          exact hb
        starting := fun he => by simp [hstream] at he
        stopped := h.stopped
        stream := fun _ _ hempty => absurd hempty hwaits
        retry := fun _ _ hempty => absurd hempty hwaits
        removing := fun _ => .inl fun hempty => absurd hempty hwaits
        kept := .inl fun hempty => absurd hempty hwaits }
  · exact absurd hs (Option.some_ne_none source).symm

theorem View.Inv.put (h : v.Inv) {results : List Bool}
    (hs : State.put v.source results = some source) : View.Inv { v with source := source } := by
  unfold State.put at hs
  split at hs
  · rename_i upload hstream
    split at hs
    · obtain rfl := Option.some.inj hs
      exact h.uploaded (by rw [hstream]; rfl)
    · obtain rfl := Option.some.inj hs
      exact h.goOn (by simp) (by simp) (by simp [StreamTask.upload?]) (.inr rfl)
  · exact absurd hs (Option.some_ne_none source).symm

theorem View.Inv.stop (h : v.Inv) (hs : State.stop v.source = some source) :
    View.Inv { v with source := source } := by
  unfold State.stop at hs
  split at hs
  · rename_i hguard
    obtain ⟨hstream, -, hclosed⟩ := hguard
    obtain rfl := Option.some.inj hs
    have hidle : v.source.stream.busy = false := by rw [hstream]; rfl
    exact
      { h with
        starting := fun he => StreamTask.noConfusion he
        stopped := fun _ => hclosed
        stream := fun u hu => absurd hu.symm (Option.some_ne_none u)
        removing := fun hr => .inl ((h.removing hr).resolve_right (by simp [hidle]))
        kept := h.kept.imp_right fun hb => .inr (hb.resolve_left (by simp [hidle])) }
  · exact absurd hs (Option.some_ne_none source).symm

end Steps

theorem State.view_set (s : State Id) (id : Id) (source : Source) (j : Id) :
    (s.set id source).view j = if j = id then { s.view j with source := source } else s.view j := by
  by_cases hj : j = id
  · subst hj
    simp [State.view, State.set]
  · simp [State.view, State.set, hj]

theorem State.Inv.onSource {s s' : State Id} (h : s.Inv) {id : Id} {f : Source → Option Source}
    (hf : ∀ source, f (s.sources id) = some source → View.Inv { s.view id with source := source })
    (hs : s.onSource id f = some s') : s'.Inv := by
  obtain ⟨source, hsource, rfl⟩ := Option.map_eq_some_iff.mp hs
  intro j
  rw [State.view_set]
  split
  · rename_i hj
    subst hj
    exact hf source hsource
  · exact h j

/-! ## Steps that concern the mark -/

section Marks

variable {s s' : State Id}

/-- A source that the retry task holds has started. -/
theorem View.Inv.started {v : View} (h : v.Inv)
    (htouched : v.upload ≠ none ∨ v.removes = true ∨ v.queued) :
    v.source.stream ≠ .starting := by
  intro hstarting
  obtain ⟨hupload, hremoves, -, hqueued⟩ := (h.starting hstarting).2
  rcases htouched with hne | hr | hq
  · exact hne hupload
  · rw [hremoves] at hr
    exact Bool.noConfusion hr
  · exact hqueued hq

theorem View.Inv.queue {v : View} (h : v.Inv) {queued : Prop}
    (hq : queued → v.marked ∨ v.queued) :
    View.Inv { v with queued := queued } :=
  { h with
    starting := by
      intro hstarting
      obtain ⟨hqueue, hupload, hremoves, hmarked, hqueued⟩ := h.starting hstarting
      exact ⟨hqueue, hupload, hremoves, hmarked, fun hin => (hq hin).elim hmarked hqueued⟩ }

theorem State.Inv.mark (h : s.Inv) {id : Id} (hadmits : s.retry.removes id = false)
    (hs : s.mark id = some s') : s'.Inv := by
  unfold State.mark at hs
  split at hs
  · rename_i hfailed
    obtain rfl := Option.some.inj hs
    intro j
    by_cases hj : j = id
    · subst hj
      have hj := h j
      have hmarked : j ∈ if j ∈ s.toRetry then s.toRetry else s.toRetry ++ [j] := by
        split
        · assumption
        · simp
      exact
        { announced_le := by simpa [State.view, State.set] using hj.announced_le
          last := by simpa [State.view, State.set] using hj.last
          starting := by simp [State.view, State.set]
          stopped := by simp [State.view, State.set]
          stream := by simp [State.view, State.set, StreamTask.upload?]
          retry := by simpa [State.view, State.set, Source.Covers] using hj.retry
          removing := fun hr => absurd (hadmits.symm.trans hr) Bool.false_ne_true
          kept := .inr (.inr hmarked) }
    · have hview : State.view { s.set id { s.sources id with stream := .listening } with
            toRetry := if id ∈ s.toRetry then s.toRetry else s.toRetry ++ [id] } j = s.view j := by
        have hmem : (j ∈ if id ∈ s.toRetry then s.toRetry else s.toRetry ++ [id]) ↔
            j ∈ s.toRetry := by
          split <;> simp [hj]
        simp [State.view, State.set, hj, hmem]
      rw [hview]
      exact h j
  · exact absurd hs (Option.some_ne_none s').symm

theorem State.Inv.tick (h : s.Inv) {ids : List Id} (hs : s.tick ids = some s') : s'.Inv := by
  unfold State.tick at hs
  split at hs
  · rename_i hretry
    split at hs
    · rename_i hperm
      obtain rfl := Option.some.inj hs
      intro j
      have hview : State.view { s with retry := .round ids } j =
          { s.view j with queued := j ∈ ids } := by
        simp [State.view, hretry, RetryTask.upload?, RetryTask.removes, RetryTask.ids]
      rw [hview]
      refine (h j).queue fun hq => .inl ?_
      exact (List.isPerm_iff.mp hperm).mem_iff.mp hq
    · exact absurd hs (Option.some_ne_none s').symm
  · exact absurd hs (Option.some_ne_none s').symm

/-- The retry task turns to the next source: only that source can tell. -/
theorem State.view_retry_of_ne {s : State Id} {id j : Id} {ids : List Id} (hj : j ≠ id)
    (hretry : s.retry = .round (id :: ids)) {retry : RetryTask Id} (hids : retry.ids = ids)
    (hupload : retry.upload? j = none) (hremoves : retry.removes j = false) :
    State.view { s with retry := retry } j = s.view j := by
  simp only [State.view, hids, hupload, hremoves]
  simp [hretry, RetryTask.upload?, RetryTask.removes, RetryTask.ids, hj]

theorem State.Inv.retryBackup (h : s.Inv) {ok : Bool} {date : Nat}
    (hs : s.retryBackup ok date = some s') : s'.Inv := by
  unfold State.retryBackup at hs
  split at hs
  · rename_i hretry
    obtain rfl := Option.some.inj hs
    intro j
    have hj := h j
    simpa [State.view, hretry, RetryTask.upload?, RetryTask.removes, RetryTask.ids] using hj
  · rename_i id ids hretry
    have hstarted : (s.sources id).stream ≠ .starting :=
      (h id).started (.inr (.inr (by simp [State.view, hretry, RetryTask.ids])))
    split at hs
    · obtain rfl := Option.some.inj hs
      intro j
      have hview : State.view { s with retry := .round ids } j =
          { s.view j with queued := j ∈ ids } := by
        simp [State.view, hretry, RetryTask.upload?, RetryTask.removes, RetryTask.ids]
      rw [hview]
      refine (h j).queue fun hq => .inr ?_
      simp [State.view, hretry, RetryTask.ids, hq]
    · split at hs
      · rename_i hzero
        obtain rfl := Option.some.inj hs
        intro j
        by_cases hj : j = id
        · subst hj
          have hle := (h j).announced_le
          simp only [State.view] at hle
          exact
            { h j with
              starting := fun he => absurd he hstarted
              retry := by simp [State.view, RetryTask.upload?]
              removing := fun _ => .inl fun _ => .inl (by simp only [State.view]; omega) }
        · rw [State.view_retry_of_ne hj hretry rfl rfl (by simp [RetryTask.removes, Ne.symm hj])]
          exact h j
      · obtain rfl := Option.some.inj hs
        intro j
        by_cases hj : j = id
        · subst hj
          exact
            { h j with
              starting := fun he => absurd he hstarted
              retry := by
                intro u hu _
                have hu' : (⟨(s.sources j).current, date⟩ : Upload) = u := by
                  simpa [State.view, RetryTask.upload?] using hu
                rw [← hu']
                exact (h j).announced_le
              removing := by simp [State.view, RetryTask.removes] }
        · rw [State.view_retry_of_ne hj hretry rfl (by simp [RetryTask.upload?, Ne.symm hj]) rfl]
          exact h j
  · exact absurd hs (Option.some_ne_none s').symm

theorem State.Inv.retryPut (h : s.Inv) {results : List Bool}
    (hs : s.retryPut results = some s') : s'.Inv := by
  unfold State.retryPut at hs
  split at hs
  · rename_i id upload ids hretry
    have hupload : (s.view id).upload = some upload := by
      simp [State.view, hretry, RetryTask.upload?]
    have hstarted : (s.sources id).stream ≠ .starting :=
      (h id).started (.inl (by rw [hupload]; exact Option.some_ne_none upload))
    have hcovers : (s.sources id).Covers upload := (h id).retry upload hupload
    split at hs
    · obtain rfl := Option.some.inj hs
      intro j
      by_cases hj : j = id
      · subst hj
        have hj := h j
        have hsafe : Source.Safe
            { s.sources j with uploads := (s.sources j).uploads ++ [upload] } :=
          Source.Covers.safe hcovers (by simp)
        exact
          { announced_le := by simpa [State.view, State.set] using hj.announced_le
            last := by simpa [State.view, State.set] using hj.last
            starting := by simp [State.view, State.set, hstarted]
            stopped := by simpa [State.view, State.set] using hj.stopped
            stream := by simpa [State.view, State.set, Source.Covers] using hj.stream
            retry := by simp [State.view, RetryTask.upload?]
            removing := fun _ => .inl (by simpa [State.view, State.set] using hsafe)
            kept := .inl (by simpa [State.view, State.set] using hsafe) }
      · have hview : State.view { s.set id { s.sources id with
              uploads := (s.sources id).uploads ++ [upload] } with retry := .removing id ids } j =
            s.view j := by
          simp [State.view, State.set, hretry, RetryTask.upload?, RetryTask.removes, RetryTask.ids,
            hj, Ne.symm hj]
        rw [hview]
        exact h j
    · obtain rfl := Option.some.inj hs
      intro j
      by_cases hj : j = id
      · subst hj
        exact
          { h j with
            starting := fun he => absurd he hstarted
            retry := by simp [State.view, RetryTask.upload?]
            removing := by simp [State.view, RetryTask.removes] }
      · have hview : State.view { s with retry := .round ids } j = s.view j := by
          simp [State.view, hretry, RetryTask.upload?, RetryTask.removes, RetryTask.ids,
            Ne.symm hj]
        rw [hview]
        exact h j
  · exact absurd hs (Option.some_ne_none s').symm

theorem State.Inv.unmark (h : s.Inv) (hs : s.unmark = some s') : s'.Inv := by
  unfold State.unmark at hs
  split at hs
  · rename_i id ids hretry
    have hremoves : (s.view id).removes = true := by simp [State.view, hretry, RetryTask.removes]
    obtain rfl := Option.some.inj hs
    intro j
    by_cases hj : j = id
    · subst hj
      have hkept := (h j).removing hremoves
      exact
        { h j with
          starting := fun he => absurd he ((h j).started (.inr (.inl hremoves)))
          retry := by simp [State.view, RetryTask.upload?]
          removing := by simp [State.view, RetryTask.removes]
          kept := hkept.imp_right .inl }
    · have hview : State.view
          { s with toRetry := s.toRetry.erase id, retry := .round ids } j = s.view j := by
        simp [State.view, hretry, RetryTask.upload?, RetryTask.removes, RetryTask.ids,
          List.mem_erase_of_ne hj, Ne.symm hj]
      rw [hview]
      exact h j
  · exact absurd hs (Option.some_ne_none s').symm

end Marks

/-! ## Whole runs -/

theorem State.inv_step (s : State Id) (op : Op Id) (s' : State Id) (h : s.Inv)
    (hadmits : s.admits op = true) (hs : s.step op = some s') : s'.Inv := by
  unfold State.step at hs
  cases op with
  | change id =>
    refine h.onSource (fun source he => ?_) hs
    obtain rfl := Option.some.inj he
    exact (h id).change
  | announce id backup => exact h.onSource (fun source he => (h id).announce he) hs
  | close id =>
    refine h.onSource (fun source he => ?_) hs
    obtain rfl := Option.some.inj he
    exact (h id).close
  | subscribe id =>
    refine h.onSource (fun source he => ?_) hs
    split at he
    · obtain rfl := Option.some.inj he
      exact (h id).goOn (by simp) (by simp) (by simp [StreamTask.upload?]) (.inr rfl)
    · exact absurd he (Option.some_ne_none source).symm
  | firstBackup id ok date => exact h.onSource (fun source he => (h id).firstBackup hadmits he) hs
  | firstPut id results => exact h.onSource (fun source he => (h id).firstPut hadmits he) hs
  | recv id date =>
    refine h.onSource (fun source he => (h id).recv (fun upload hu backup hb => ?_) he) hs
    have hall := Option.all_eq_true _ _ |>.mp hadmits upload hu
    exact of_decide_eq_true (Option.all_eq_true _ _ |>.mp hall backup hb)
  | lagged id skipped => exact h.onSource (fun source he => (h id).lagged he) hs
  | put id results => exact h.onSource (fun source he => (h id).put he) hs
  | mark id => exact h.mark (by simpa [State.admits] using hadmits) hs
  | stop id => exact h.onSource (fun source he => (h id).stop he) hs
  | tick ids => exact h.tick hs
  | retryBackup ok date => exact h.retryBackup hs
  | retryPut results => exact h.retryPut hs
  | unmark => exact h.unmark hs

/-- Before the start: whatever the sources have announced so far. -/
def initial (current announced : Id → Nat) : State Id where
  sources id := { current := max (current id) (announced id), announced := announced id }

theorem inv_initial (current announced : Id → Nat) : (initial current announced).Inv := fun _ =>
  { announced_le := Nat.le_max_right _ _
    last := fun b hb => absurd hb.symm (Option.some_ne_none b)
    starting := fun _ => ⟨rfl, rfl, rfl, List.not_mem_nil, List.not_mem_nil⟩
    stopped := fun he => StreamTask.noConfusion he
    stream := fun u hu => absurd hu.symm (Option.some_ne_none u)
    retry := fun u hu => absurd hu.symm (Option.some_ne_none u)
    removing := fun hr => Bool.noConfusion hr
    kept := .inr (.inl rfl) }

/-- No upload of the source is running, no update waits, and it is not marked. -/
def State.Quiet (s : State Id) (id : Id) : Prop :=
  (s.sources id).stream.busy = false ∧ s.retry.upload? id = none ∧ s.retry.removes id = false ∧
    (s.sources id).queue = [] ∧ id ∉ s.toRetry

instance (s : State Id) (id : Id) : Decidable (s.Quiet id) := by
  unfold State.Quiet
  infer_instance

/-- An upload of the newest backup succeeded, and no upload of an older one after it. -/
def Source.HasNewest (source : Source) : Prop :=
  (∃ upload, source.uploads.getLast? = some upload ∧ source.announced ≤ upload.backup) ∧
    ∃ before upload after, source.uploads = before ++ upload :: after ∧
      source.announced ≤ upload.backup ∧ ∀ later ∈ after, source.announced ≤ later.backup

theorem newest_backup_uploaded (current announced : Id → Nat) (ops : List (Op Id)) (s : State Id)
    (hrun : runFrom State.step State.admits (initial current announced) ops = some s) (id : Id)
    (hquiet : s.Quiet id) (hannounced : (s.sources id).announced ≠ 0) :
    (s.sources id).HasNewest := by
  have hinv := invariant_of_runFrom State.inv_step (inv_initial current announced) hrun id
  obtain ⟨hidle, -, -, hempty, hunmarked⟩ := hquiet
  rcases hinv.kept with hsafe | hbusy | hmarked
  · obtain ⟨upload, hlast, hle⟩ := (hsafe hempty).resolve_left hannounced
    refine ⟨⟨upload, hlast, hle⟩, (s.sources id).uploads.dropLast, upload, [], ?_, hle, by simp⟩
    exact (List.dropLast_append_getLast? upload hlast).symm
  · exact absurd (hidle.symm.trans hbusy) Bool.false_ne_true
  · exact absurd hmarked hunmarked

/-! ## Lost backups -/

theorem Source.not_hasNewest {source : Source}
    (hold : ∀ upload, source.uploads.getLast? = some upload → upload.backup < source.announced) :
    ¬ source.HasNewest := by
  rintro ⟨⟨upload, hlast, hle⟩, -⟩
  have hlt := hold upload hlast
  omega

/-- The first upload of the first backup, and a second backup whose upload fails. -/
def secondFails : List (Op Unit) :=
  [.subscribe (), .firstBackup () true 0, .firstPut () [true], .change (), .announce () 2,
    .recv () 1, .put () [false, false], .mark (), .tick [()], .retryBackup true 2]

/-- A third backup comes while the second is retried: its upload fails, and the retry removes the
mark. -/
def markRemoved : List (Op Unit) :=
  secondFails ++ [.change (), .announce () 3, .recv () 2, .put () [false], .mark (),
    .retryPut [true], .unmark]

/-- It succeeds, and the second backup is put over it. -/
def olderPut : List (Op Unit) :=
  secondFails ++ [.change (), .announce () 3, .recv () 2, .put () [true], .retryPut [true],
    .unmark]

def firstFails : List (Op Unit) :=
  [.subscribe (), .firstBackup () true 0, .firstPut () [false]]

/-- What a run leaves behind. -/
def outcome (admits : State Unit → Op Unit → Bool) (ops : List (Op Unit)) :
    Option (Source × RetryTask Unit × List Unit) :=
  (runFrom State.step admits (initial (fun _ => 1) (fun _ => 1)) ops).map fun s =>
    (s.sources (), s.retry, s.toRetry)

/-- A run that ends with an idle source: it is quiet. -/
theorem run_of_outcome {admits : State Unit → Op Unit → Bool} {ops : List (Op Unit)}
    {source : Source} {retry : RetryTask Unit} (h : outcome admits ops = some (source, retry, []))
    (hidle : source.stream.busy = false) (hqueue : source.queue = [])
    (hretry : retry.upload? () = none ∧ retry.removes () = false) :
    ∃ s, runFrom State.step admits (initial (fun _ => 1) (fun _ => 1)) ops = some s ∧
      s.Quiet () ∧ s.sources () = source := by
  obtain ⟨s, hrun, hs⟩ := Option.map_eq_some_iff.mp h
  obtain ⟨rfl, hrest⟩ := Prod.mk.inj hs
  obtain ⟨rfl, hmarks⟩ := Prod.mk.inj hrest
  exact ⟨s, hrun, ⟨hidle, hretry.1, hretry.2, hqueue, by rw [hmarks]; exact List.not_mem_nil⟩, rfl⟩

theorem lost_of_outcome {ops : List (Op Unit)} {source : Source} {retry : RetryTask Unit}
    (h : outcome (fun _ _ => true) ops = some (source, retry, []))
    (hidle : source.stream.busy = false) (hqueue : source.queue = [])
    (hretry : retry.upload? () = none ∧ retry.removes () = false) (hannounced : source.announced ≠ 0)
    (hold : ∀ upload, source.uploads.getLast? = some upload → upload.backup < source.announced) :
    ∃ s, runFrom State.step (fun _ _ => true) (initial (fun _ => 1) (fun _ => 1)) ops = some s ∧
      s.Quiet () ∧ (s.sources ()).announced ≠ 0 ∧ ¬ (s.sources ()).HasNewest := by
  obtain ⟨s, hrun, hquiet, rfl⟩ := run_of_outcome h hidle hqueue hretry
  exact ⟨s, hrun, hquiet, hannounced, Source.not_hasNewest hold⟩

/-- Three runs after which nothing is left to do and the newest backup is not uploaded. -/
theorem newest_backup_lost :
    (∃ s, runFrom State.step (fun _ _ => true) (initial (fun _ => 1) (fun _ => 1)) firstFails =
        some s ∧ s.Quiet () ∧ (s.sources ()).announced ≠ 0 ∧ ¬ (s.sources ()).HasNewest) ∧
    (∃ s, runFrom State.step (fun _ _ => true) (initial (fun _ => 1) (fun _ => 1)) markRemoved =
        some s ∧ s.Quiet () ∧ (s.sources ()).announced ≠ 0 ∧ ¬ (s.sources ()).HasNewest) ∧
    ∃ s, runFrom State.step (fun _ _ => true) (initial (fun _ => 1) (fun _ => 1)) olderPut =
        some s ∧ s.Quiet () ∧ (s.sources ()).announced ≠ 0 ∧ ¬ (s.sources ()).HasNewest := by
  refine ⟨?_, ?_, ?_⟩
  · have hout : outcome (fun _ _ => true) firstFails =
        some (⟨1, 1, false, [], .listening, []⟩, .waiting, []) := by decide +kernel
    exact lost_of_outcome hout rfl rfl ⟨rfl, rfl⟩ (by decide)
      fun upload hlast => absurd hlast.symm (Option.some_ne_none upload)
  · have hout : outcome (fun _ _ => true) markRemoved =
        some (⟨3, 3, false, [], .listening, [⟨1, 0⟩, ⟨2, 2⟩]⟩, .round [], []) := by decide +kernel
    refine lost_of_outcome hout rfl rfl ⟨rfl, rfl⟩ (by decide) fun upload hlast => ?_
    obtain rfl := Option.some.inj hlast
    decide
  · have hout : outcome (fun _ _ => true) olderPut =
        some (⟨3, 3, false, [], .listening, [⟨1, 0⟩, ⟨3, 2⟩, ⟨2, 2⟩]⟩, .round [], []) := by
      decide +kernel
    refine lost_of_outcome hout rfl rfl ⟨rfl, rfl⟩ (by decide) fun upload hlast => ?_
    obtain rfl := Option.some.inj hlast
    decide

/-- The retry of a failed upload, while nothing newer comes. -/
theorem newest_backup_retried :
    ∃ s, runFrom State.step State.admits (initial (fun _ => 1) (fun _ => 1))
        (secondFails ++ [.retryPut [false, true], .unmark]) = some s ∧
      s.Quiet () ∧ (s.sources ()).HasNewest := by
  have hout : outcome State.admits (secondFails ++ [.retryPut [false, true], .unmark]) =
      some (⟨2, 2, false, [], .listening, [⟨1, 0⟩, ⟨2, 2⟩]⟩, .round [], []) := by decide +kernel
  obtain ⟨s, hrun, hquiet, hsource⟩ := run_of_outcome hout rfl rfl ⟨rfl, rfl⟩
  exact ⟨s, hrun, hquiet, newest_backup_uploaded (fun _ => 1) (fun _ => 1) _ s hrun () hquiet
    (by rw [hsource]; decide)⟩

end Boltz.Sidecar.ChannelBackup
