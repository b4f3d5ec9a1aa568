import Redfin.Dumpstate.Header

/-!
# Creating the archive

`createTarFile` of `DumpstateDevice.cpp`. The directory is the list of entries `readdir` returns, in
its order, each with what the later calls find: whether the file opens, what `fstat` reports and
the chunks `read` delivers before its first result that is not positive. The archive is a file that
keeps its old content, since it is opened without `O_TRUNC`, and is written from the start. Every
`write` call is answered by `Writes`, which may accept all of the bytes, some of them or none.

`TarState.log` records the writes that were made, with their results; the program does not read
it. `TarState.tarLen` is the C variable, in bytes; it stays below `2^63` as long as the archive
does, which no file exceeds.
-/

namespace Redfin.Dumpstate

open Bytes

/-- `BUFSIZE`, the most a `read` delivers. -/
abbrev BUFSIZE : Nat := 65536

/-- What the file system answers about an opened directory entry. -/
structure Source where
  /-- The `st_size` that `fstat` reports, if it succeeds. -/
  fstat : Option UInt64
  /-- The data of the reads up to the first one that returns no data or fails. -/
  reads : List (List UInt8)
  /-- A read that returns data returns at most a buffer of it. -/
  reads_le : ∀ c ∈ reads, 0 < c.length ∧ c.length ≤ BUFSIZE

/-- A directory entry: its name, and the file behind it if `open` succeeds. -/
structure Entry where
  d_name : FileName
  file : Option Source

/-- `d_name[0] == '.'`. -/
def Entry.hidden (e : Entry) : Bool := e.d_name.bytes.head? == some 46

/-- The answers to the successive `write` calls: how many of the bytes the call accepts. -/
structure Writes where
  res : Nat → Nat → Option Nat
  res_le : ∀ i n k, res i n = some k → k ≤ n

/-- The writes all complete. -/
def Writes.Complete (ws : Writes) : Prop := ∀ i n, ws.res i n = some n

/-- Every write accepts all of its bytes. -/
def Writes.full : Writes := ⟨fun _ n => some n, fun _ _ _ h => (Option.some.inj h).ge⟩

/-- Writing all that is asked is complete. -/
lemma Writes.complete_full : Writes.full.Complete := fun _ _ => rfl

/-- Which statement of `createTarFile` a write belongs to. -/
inductive WriteKind where
  | header
  | body
  | padding
  deriving DecidableEq

/-- A `write` call that was made: where in the archive, its data and its result. -/
structure Written where
  kind : WriteKind
  off : Nat
  data : List UInt8
  res : Option Nat
  deriving DecidableEq

/-- The variables of `createTarFile`, the archive and the record of the writes. -/
structure TarState where
  content : List UInt8
  /-- The file offset of `fdTar`: the number of bytes appended so far. -/
  offset : Nat
  tarLen : Nat
  /-- `st.st_size`, kept where `fstat` fails. -/
  st_size : UInt64
  log : List Written

/-- One `write` of `data` to `fdTar`: its result and the state after it. -/
def TarState.write (ws : Writes) (kind : WriteKind) (data : List UInt8) (s : TarState) :
    Option Nat × TarState :=
  let res := ws.res s.log.length data.length
  let accepted := res.getD 0
  (res, { s with
    content := writeAt s.content s.offset (data.take accepted)
    offset := s.offset + accepted
    log := s.log ++ [⟨kind, s.offset, data, res⟩] })

/-- `tarLen += n`. -/
def TarState.advance (n : Nat) (s : TarState) : TarState := { s with tarLen := s.tarLen + n }

/-- The loop that copies the file, one `write` for each `read`. -/
def copyBody (ws : Writes) : List (List UInt8) → TarState → TarState
  | [], s => s
  -- the result of the write is dropped and the whole chunk is counted
  | chunk :: reads, s => copyBody ws reads ((s.write ws .body chunk).2.advance chunk.length)

/-- The loop that pads the archive to a multiple of the block size. -/
def padBody (ws : Writes) (s : TarState) : TarState :=
  if s.tarLen % PosixTarHeader.blockSize ≠ 0 then
    padBody ws ((s.write ws .padding [0]).2.advance 1)
  else s
termination_by (512 - s.tarLen % 512) % 512
decreasing_by
  rename_i h
  simp only [TarState.advance, TarState.write, PosixTarHeader.blockSize] at h ⊢
  omega

/-- `st` after `fstat`. -/
def TarState.stat (src : Source) (s : TarState) : TarState :=
  { s with st_size := src.fstat.getD s.st_size }

/-- The write of the header succeeds unless its result is zero or negative. -/
def headerWritten : Option Nat → Bool
  | none => false
  | some k => 0 < k

/-- One turn of the loop over the directory. -/
def tarEntry (ws : Writes) (e : Entry) (s : TarState) : TarState :=
  if e.hidden then s
  else match e.file with
    | none => s
    | some src =>
      let s := s.stat src
      -- the size promised here is not what the copy loop goes by
      let (res, s) := s.write ws .header (tarHeader e.d_name s.st_size).bytes
      if headerWritten res then
        padBody ws (copyBody ws src.reads (s.advance PosixTarHeader.blockSize))
      else s

/-- The loop over the directory. -/
def tarLoop (ws : Writes) (dir : List Entry) (s : TarState) : TarState :=
  dir.foldl (fun s e => tarEntry ws e s) s

/-- The state when the loop starts: nothing written, `st` not yet assigned. -/
def TarState.start (old : List UInt8) (st_size : UInt64) : TarState :=
  ⟨old, 0, 0, st_size, []⟩

/-- The archive's content afterwards; `srcDir` is none if `opendir` fails, `opened` says whether
`open` of the archive succeeds and `old` is what the archive held before. -/
def createTarFile (ws : Writes) (srcDir : Option (List Entry)) (opened : Bool) (old : List UInt8)
    (st_size : UInt64) : List UInt8 :=
  match srcDir with
  | none => old
  | some dir => if opened then (tarLoop ws dir (.start old st_size)).content else old

end Redfin.Dumpstate
