import Boltz.Async.Transitions
import Mathlib.Data.List.Nodup
import Mathlib.Logic.Function.Basic

/-!
# Database backups (`boltz-backup/src/lib.rs`, `providers/multi.rs`, `providers/s3.rs`)

The output of `pg_dump` is copied chunk by chunk into one duplex for each provider, which uploads
what it reads in parts. The process, the copy task and the providers run concurrently.
-/

namespace Boltz.Sidecar.DatabaseBackup

def streamBufferSize : ℕ := 16 * 1024 * 1024

def partSize : ℕ := 16 * 1024 * 1024

/-! ## Providers -/

/-- The duplex of a provider with `S3::multipart_upload` on its other end. -/
structure Upload where
  /-- in the duplex -/
  pipe : List UInt8 := []
  /-- the writer was shut down or dropped -/
  closed : Bool := false
  buffer : List UInt8 := []
  /-- in the order of their numbers -/
  parts : List (List UInt8) := []
  /-- the object at the path -/
  stored : Option (List UInt8) := none
  /-- whether `put_stream` succeeded; the reader is dropped when it returns -/
  result : Option Bool := none
  deriving DecidableEq, Repr

inductive UploadOp where
  | readBuf (n : ℕ)
  | uploadPart
  /-- The parts are completed, or the empty object is put. -/
  | complete
  /-- A request to the service fails. -/
  | fail
  deriving DecidableEq, Repr

namespace Upload

/-- A read returns no bytes. -/
def atEof (u : Upload) : Bool := u.pipe.isEmpty && u.closed

def readBuf (u : Upload) (n : ℕ) : Option Upload :=
  if u.buffer.length < partSize ∧ 0 < n ∧ n ≤ u.pipe.length then
    some { u with buffer := u.buffer ++ u.pipe.take n, pipe := u.pipe.drop n }
  else none

def uploadPart (u : Upload) : Option Upload :=
  if u.buffer.length ≥ partSize then
    some { u with
      parts := u.parts ++ [u.buffer.take partSize]
      buffer := u.buffer.drop partSize }
  else if u.atEof && !u.buffer.isEmpty then
    some { u with parts := u.parts ++ [u.buffer], buffer := [] }
  else none

def complete (u : Upload) : Option Upload :=
  if u.atEof && u.buffer.isEmpty then
    some { u with stored := some u.parts.flatten, result := some true }
  else none

def step (u : Upload) (op : UploadOp) : Option Upload :=
  if u.result.isSome then none
  else match op with
    | .readBuf n => u.readBuf n
    | .uploadPart => u.uploadPart
    | .complete => u.complete
    | .fail => some { u with result := some false }

end Upload

/-! ## The backup -/

/-- `pg_dump`; `unread` is in the pipe of its output. -/
structure Dump where
  written : List UInt8 := []
  unread : List UInt8 := []
  closed : Bool := false
  /-- whether its exit status is a success -/
  exit : Option Bool := none
  deriving DecidableEq, Repr

inductive CopyTask where
  | reading
  /-- `rest` of the chunk is being written to the `i`-th writer, `failed` are indices of writers -/
  | writing (chunk : List UInt8) (i : ℕ) (rest : List UInt8) (failed : List ℕ)
  | finished (ok : Bool)
  deriving DecidableEq, Repr

/-- What `database_backup` returns. -/
inductive Result where
  | ok
  /-- `Failed to copy data to providers` -/
  | copyFailed
  /-- `all backup providers failed` -/
  | allProvidersFailed
  deriving DecidableEq, Repr

/-- `uploads` are the ones of the `providers` first numbers, `activeWriters` have the numbers of their
providers. -/
structure State where
  providers : ℕ
  dump : Dump := {}
  task : CopyTask := .reading
  activeWriters : List ℕ := List.range providers
  uploads : ℕ → Upload := fun _ => {}
  result : Option Result := none

inductive Op where
  | dumpWrites (bytes : List UInt8)
  | dumpCloses
  | dumpExits (success : Bool)
  | read (n : ℕ)
  | readEof
  | readFailed
  | write (n : ℕ)
  | writeFailed
  /-- The chunk was written to all writers. -/
  | removeFailed
  | upload (provider : ℕ) (op : UploadOp)
  /-- The copy task, the uploads and the process are waited for. -/
  | finish
  deriving DecidableEq, Repr

/-- `active_writers.remove(*i)` for the failed indices, from the last one. -/
def removeAll (activeWriters failed : List ℕ) : List ℕ :=
  failed.reverse.foldl (fun writers i => writers.eraseIdx i) activeWriters

namespace State

def setDump (s : State) (dump : Dump) : State := { s with dump := dump }

def setUpload (s : State) (provider : ℕ) (u : Upload) : State :=
  { s with uploads := Function.update s.uploads provider u }

/-- The writers that are left are shut down or dropped. -/
def closeWriters (s : State) : State :=
  { s with
    uploads := fun provider =>
      if provider ∈ s.activeWriters then { s.uploads provider with closed := true }
      else s.uploads provider }

def dumpWrites (s : State) (bytes : List UInt8) : Option State :=
  if s.dump.closed then none
  else
    some (s.setDump
      { s.dump with
        written := s.dump.written ++ bytes
        unread := s.dump.unread ++ bytes })

def dumpCloses (s : State) : Option State := some (s.setDump { s.dump with closed := true })

def dumpExits (s : State) (success : Bool) : Option State :=
  if s.dump.exit.isSome then none
  else some (s.setDump { s.dump with closed := true, exit := some success })

def read (s : State) (n : ℕ) : Option State :=
  if s.task = .reading ∧ 0 < n ∧ n ≤ streamBufferSize ∧ n ≤ s.dump.unread.length then
    let chunk := s.dump.unread.take n
    some { s with
      dump := { s.dump with unread := s.dump.unread.drop n }
      task := .writing chunk 0 chunk [] }
  else none

def readEof (s : State) : Option State :=
  if s.task = .reading ∧ s.dump.unread = [] ∧ s.dump.closed then
    some { s.closeWriters with task := .finished true }
  else none

def readFailed (s : State) : Option State :=
  if s.task = .reading then some { s.closeWriters with task := .finished false } else none

/-- `write_all` makes progress while the reader is there and the duplex has room. -/
def write (s : State) (n : ℕ) : Option State :=
  match s.task with
  | .writing chunk i rest failed =>
    match s.activeWriters[i]? with
    | some provider =>
      let u := s.uploads provider
      if u.result.isNone ∧ 0 < n ∧ n ≤ rest.length ∧ u.pipe.length + n ≤ streamBufferSize * 2 then
        let s := s.setUpload provider { u with pipe := u.pipe ++ rest.take n }
        some { s with
          task :=
            if n = rest.length then .writing chunk (i + 1) chunk failed
            else .writing chunk i (rest.drop n) failed }
      else none
    | none => none
  | _ => none

def writeFailed (s : State) : Option State :=
  match s.task with
  | .writing chunk i _ failed =>
    match s.activeWriters[i]? with
    | some provider =>
      if (s.uploads provider).result.isSome then
        some { s with task := .writing chunk (i + 1) chunk (failed ++ [i]) }
      else none
    | none => none
  | _ => none

def removeFailed (s : State) : Option State :=
  match s.task with
  | .writing _ i _ failed =>
    if s.activeWriters.length ≤ i then
      let activeWriters := removeAll s.activeWriters failed
      some { s with
        activeWriters := activeWriters
        task := if activeWriters.isEmpty then .finished false else .reading }
    else none
  | _ => none

/-- `handle_results` -/
def handleResults (s : State) : Result :=
  if (List.range s.providers).any fun provider => (s.uploads provider).result = some true then .ok
  else .allProvidersFailed

/-- The exit status of the process is not looked at. -/
def finish (s : State) : Option State :=
  match s.task with
  | .finished ok =>
    if s.result = none ∧ s.dump.exit.isSome ∧
        (List.range s.providers).all fun provider => (s.uploads provider).result.isSome then
      some { s with result := some (if ok then s.handleResults else .copyFailed) }
    else none
  | _ => none

def step (s : State) : Op → Option State
  | .dumpWrites bytes => s.dumpWrites bytes
  | .dumpCloses => s.dumpCloses
  | .dumpExits success => s.dumpExits success
  | .read n => s.read n
  | .readEof => s.readEof
  | .readFailed => s.readFailed
  | .write n => s.write n
  | .writeFailed => s.writeFailed
  | .removeFailed => s.removeFailed
  | .upload provider op =>
    if provider < s.providers then ((s.uploads provider).step op).map (s.setUpload provider) else none
  | .finish => s.finish

end State

end Boltz.Sidecar.DatabaseBackup
