import Peerc.Lib.Disk
import Peerc.Lib.Raising
import Peerc.Transfer.Chunker
import Peerc.Transfer.Filenames

/-!
The receiver that stands alone. It counts the bytes it has been given, and renames the .part file
into place once the count and the checksum are those that were declared.
-/
namespace Peerc.Transfer.Standalone
open List Disk

inductive StorageMode where
  | normal | secure

/-- What a FileReceiver is built with; equipped says that it has a key and a secure directory. -/
structure FileReceiver where
  size : Nat
  expectedChecksum : Text
  destPath : Text
  chunkSize : Nat
  positive : 0 < chunkSize
  storageMode : StorageMode
  equipped : Bool

inductive ReceiverStatus where
  | receiving | verifying | done | failed
  deriving DecidableEq

structure Receiving where
  disk : Disk Text
  bytesReceived : Nat
  expectedChunkIndex : Nat
  status : ReceiverStatus
  fileHandle : Option Handle
  secureId : Option Text

inductive ChunkValidationError where
  | inactive
  | outOfOrder (expected bytesReceived sequence offset : Nat)
  | sizeExceeded (total size : Nat)

/-- encryptFile gives the secure_id, or raises. -/
structure Machinery where
  sha256 : Bytes → Text
  lower : Text → Text
  encryptFile : Bytes → Option Text

namespace FileReceiver
variable (m : Machinery) (r : FileReceiver) (s : Receiving)

def partPath : Text := getPartPath r.destPath

def prepare (d : Disk Text) (resume : Bool) : Receiving × Nat :=
  match (d.inode r.partPath).filter fun i =>
      resume && 0 < (d.block i).length && (d.block i).length < r.size with
  | some i =>
      let existing := (d.block i).length
      (⟨d, existing, existing / r.chunkSize, .receiving, some ⟨i, existing, []⟩, none⟩, existing)
  | none =>
      let opened := (d.remove r.partPath).openFresh r.partPath
      (⟨opened.1, 0, 0, .receiving, some opened.2, none⟩, 0)

/-- Of what is buffered, some bytes go to the file. -/
def store (s : Receiving) (h : Handle) (data : Bytes) (drained : Nat) : Receiving :=
  let written := s.disk.drain { h with pending := h.pending ++ data } drained
  { s with
    disk := written.1
    fileHandle := some written.2
    bytesReceived := s.bytesReceived + data.length
    expectedChunkIndex := s.expectedChunkIndex + 1 }

def writeChunk (c : Chunk) (drained : Nat) : Except ChunkValidationError Receiving :=
  match s.fileHandle, s.status with
  | some h, .receiving =>
      if c.sequence ≠ s.expectedChunkIndex ∨ c.offset ≠ s.bytesReceived then
        .error (.outOfOrder s.expectedChunkIndex s.bytesReceived c.sequence c.offset)
      else if r.size < s.bytesReceived + c.data.length then
        .error (.sizeExceeded (s.bytesReceived + c.data.length) r.size)
      else .ok (store s h c.data drained)
  | _, _ => .error .inactive

def writeChunks (writes : List (Chunk × Nat)) : Except ChunkValidationError Receiving :=
  writes.foldlM (fun s write => r.writeChunk s write.1 write.2) s

def abort : Receiving :=
  { s with disk := s.disk.remove r.partPath, fileHandle := none, status := .failed }

def finalizeSecure (content : Bytes) : Bool × Receiving :=
  if r.equipped then
    match m.encryptFile content with
    | none => (false, r.abort s)
    | some id => (true, { s with
        disk := s.disk.remove r.partPath, secureId := some id, status := .done })
  else (false, r.abort s)

/-- finish once the file is closed and has been read. -/
def conclude (content : Bytes) : Bool × Receiving :=
  if m.lower (m.sha256 content) ≠ m.lower r.expectedChecksum then (false, r.abort s)
  else
    match r.storageMode with
    | .secure => r.finalizeSecure m s content
    | .normal => (true, { s with disk := s.disk.rename r.partPath r.destPath, status := .done })

/-- None if the file to be hashed is not there. -/
def finish : Option Bool × Receiving :=
  let disk := match s.fileHandle with
    | some h => (s.disk.flush h).1
    | none => s.disk
  let closed := { s with disk := disk, fileHandle := none, status := .verifying }
  if closed.bytesReceived ≠ r.size then (some false, r.abort closed)
  else
    match disk.read r.partPath with
    | none => (none, closed)
    | some content => ((r.conclude m closed content).map some id)

end FileReceiver

open FileReceiver

/-- The content is in the file and the buffer, and has been counted. -/
structure Held (r : FileReceiver) (s : Receiving) (content : Bytes) : Prop where
  receiving : s.status = .receiving
  counted : s.bytesReceived = content.length
  staged : ∃ h, s.fileHandle = some h ∧ s.disk.inode r.partPath = some h.inode ∧
    Appends s.disk h ∧ staged s.disk h = content

section Staged
variable {m : Machinery} {r : FileReceiver} {s s' : Receiving} {content : Bytes}

theorem prepare_held (r : FileReceiver) (d : Disk Text) (resume : Bool) :
    ∃ front, Held r (r.prepare d resume).1 front ∧ (r.prepare d resume).2 = front.length ∧
      (r.prepare d resume).1.expectedChunkIndex = front.length / r.chunkSize ∧
      (front = [] ∨ d.read r.partPath = some front) := by
  unfold prepare
  split
  · next i chosen =>
    have linked := (Option.filter_eq_some_iff.mp chosen).1
    refine ⟨d.block i, ⟨rfl, rfl, _, rfl, linked, rfl, append_nil _⟩, rfl, rfl, .inr ?_⟩
    simp [Disk.read, linked]
  · refine ⟨[], ⟨rfl, rfl, _, rfl, ?_⟩, rfl, (Nat.zero_div _).symm, .inl rfl⟩
    simp [openFresh, Appends, staged]

theorem write_chunk_iff (held : Held r s content) (c : Chunk) (drained : Nat) :
    (∃ s', r.writeChunk s c drained = .ok s') ↔ c.sequence = s.expectedChunkIndex ∧
      c.offset = content.length ∧ content.length + c.data.length ≤ r.size := by
  obtain ⟨receiving, counted, h, opened, _⟩ := held
  rw [← counted]
  simp only [writeChunk, opened, receiving]
  by_cases place : c.sequence ≠ s.expectedChunkIndex ∨ c.offset ≠ s.bytesReceived
  · rw [if_pos place]
    simp only [reduceCtorEq, exists_false, false_iff]
    omega
  · rw [if_neg place]
    split <;> simp <;> omega

theorem write_chunk_held (held : Held r s content) {c : Chunk} {drained : Nat}
    (written : r.writeChunk s c drained = .ok s') :
    s'.expectedChunkIndex = s.expectedChunkIndex + 1 ∧ Held r s' (content ++ c.data) := by
  obtain ⟨receiving, counted, h, opened, linked, appends, rfl⟩ := held
  have buffered : Appends s.disk { h with pending := h.pending ++ c.data } := appends
  simp only [writeChunk, opened, receiving] at written
  split at written
  · cases written
  · split at written
    · cases written
    · cases written
      refine ⟨rfl, receiving, ?_, _, rfl, linked, drain_appends buffered drained, ?_⟩
      · simp [store, counted]
      · exact (drain_staged buffered drained).trans (append_assoc _ _ _).symm

/-- The chunks of a file go in one after the other and make up its front. -/
theorem write_chunks_ok {file : Bytes} {offset : Nat} (inside : offset ≤ file.length)
    (size : r.size = file.length) (held : Held r s (file.take offset))
    {writes : List (Chunk × Nat)}
    (follows : Follows file s.expectedChunkIndex offset (writes.map Prod.fst)) :
    ∃ s', r.writeChunks s writes = .ok s' ∧
      Held r s' (file.take (offset + totalLength (writes.map Prod.fst))) := by
  induction writes generalizing s offset with
  | nil => exact ⟨s, rfl, held⟩
  | cons write writes ih =>
    obtain ⟨sequence, place, fits, extends_, later⟩ := follows
    have length : (file.take offset).length = offset := length_take_of_le inside
    obtain ⟨s', written⟩ := (write_chunk_iff held write.1 write.2).mpr
      ⟨sequence, place.trans length.symm, by rw [length, size]; exact fits⟩
    obtain ⟨index, held'⟩ := write_chunk_held held written
    rw [← extends_] at held'
    rw [← index] at later
    obtain ⟨last, rest, ended⟩ := ih fits held' later
    refine ⟨last, ?_, ?_⟩
    · rw [writeChunks, foldlM_cons, written]
      exact rest
    · simp only [totalLength, map_cons, sum_cons, ← Nat.add_assoc] at ended ⊢
      exact ended

theorem write_chunks_held {writes : List (Chunk × Nat)} (held : Held r s content)
    (written : r.writeChunks s writes = .ok s') : ∃ content', Held r s' content' := by
  induction writes generalizing s content with
  | nil =>
    cases written
    exact ⟨content, held⟩
  | cons write writes ih =>
    rw [writeChunks, foldlM_cons] at written
    obtain ⟨_, first, rest⟩ := Raising.except_bind_ok written
    exact ih (write_chunk_held held first).2 rest

/-- What finish finds in the file is what was staged. -/
theorem finish_held (m : Machinery) (held : Held r s content) :
    ∃ closed : Receiving, closed.disk.read r.partPath = some content ∧
      r.finish m s = if content.length ≠ r.size then (some false, r.abort closed)
        else (r.conclude m closed content).map some id := by
  obtain ⟨_, counted, h, opened, linked, appends, rfl⟩ := held
  have kept : (s.disk.flush h).1.inode r.partPath = some h.inode := linked
  have read : (s.disk.flush h).1.read r.partPath = some (staged s.disk h) := by
    rw [Disk.read, kept, Option.map_some, flush_block appends]
  refine ⟨{ s with disk := (s.disk.flush h).1, fileHandle := none, status := .verifying }, read, ?_⟩
  simp only [finish, opened, counted, read]

/-- A receiver that has concluded well has what was declared, where its mode says. -/
structure Declared (m : Machinery) (r : FileReceiver) (ended : Receiving) (content : Bytes) :
    Prop where
  size : content.length = r.size
  checksum : m.lower (m.sha256 content) = m.lower r.expectedChecksum
  stored : match r.storageMode with
    | .normal => ended.disk.read r.destPath = some content
    | .secure => ∃ id, m.encryptFile content = some id ∧ ended.secureId = some id

theorem rename_read {d : Disk Text} (read : d.read r.partPath = some content) :
    (d.rename r.partPath r.destPath).read r.destPath = some content := by
  obtain ⟨i, linked, rfl⟩ := Option.map_eq_some_iff.mp read
  rw [Disk.read, d.inode_rename _ _ _ linked, if_pos rfl, Option.map_some, block_rename]

theorem conclude_true (read : s.disk.read r.partPath = some content)
    (size : content.length = r.size) (concluded : (r.conclude m s content).1 = true) :
    Declared m r (r.conclude m s content).2 content := by
  unfold conclude at concluded ⊢
  split at concluded
  · cases concluded
  · next checksum =>
    rw [if_neg checksum]
    refine ⟨size, not_not.mp checksum, ?_⟩
    cases mode : r.storageMode with
    | normal => exact rename_read read
    | secure =>
      simp only [mode, finalizeSecure] at concluded ⊢
      split at concluded
      · next equipped =>
        rw [if_pos equipped]
        cases encrypted : m.encryptFile content with
        | none => simp [encrypted] at concluded
        | some id => exact ⟨id, rfl, rfl⟩
      · cases concluded

theorem finish_true (held : Held r s content) (finished : (r.finish m s).1 = some true) :
    Declared m r (r.finish m s).2 content := by
  obtain ⟨closed, read, ended⟩ := finish_held m held
  rw [ended] at finished ⊢
  split at finished
  · cases finished
  · next size =>
    rw [if_neg size]
    exact conclude_true read (not_not.mp size) (Option.some.inj finished)

end Staged

/-- A file is received whole from any front of it, and only what was declared is ever finished. -/
theorem standalone_transfer (m : Machinery) (r : FileReceiver) (d : Disk Text) :
    (∀ file, r.size = file.length → r.expectedChecksum = m.sha256 file → r.storageMode = .normal →
      (∀ front, d.read r.partPath = some front → front <+: file) →
      ∃ cs, readChunks file (r.prepare d true).2 r.chunkSize = some cs ∧
        ∀ writes, writes.map Prod.fst = cs → ∃ s,
          r.writeChunks (r.prepare d true).1 writes = .ok s ∧ (r.finish m s).1 = some true ∧
          (r.finish m s).2.disk.read r.destPath = some file) ∧
    ∀ resume writes s, r.writeChunks (r.prepare d resume).1 writes = .ok s →
      (r.finish m s).1 = some true → ∃ content, Declared m r (r.finish m s).2 content := by
  constructor
  · intro file size checksum normal fronts
    obtain ⟨front, held, offset, index, source⟩ := prepare_held r d true
    have isFront : front <+: file := by
      rcases source with rfl | read
      · exact nil_prefix
      · exact fronts front read
    have taken : file.take front.length = front := (prefix_iff_eq_take.mp isFront).symm
    have inside : front.length ≤ file.length := isFront.length_le
    rw [offset]
    cases stream : readChunks file front.length r.chunkSize with
    | none => simp [readChunks, inside] at stream
    | some cs =>
      obtain ⟨_, follows, whole⟩ := read_chunks_spec r.positive stream
      refine ⟨cs, rfl, ?_⟩
      rintro writes rfl
      rw [← taken] at held
      rw [← index] at follows
      obtain ⟨s, written, complete⟩ := write_chunks_ok inside size held follows
      rw [whole, take_length] at complete
      obtain ⟨closed, read, ended⟩ := finish_held m complete
      have finished : (r.finish m s).1 = some true := by
        rw [ended]
        simp [size, conclude, checksum, normal]
      have declared := (finish_true complete finished).stored
      rw [normal] at declared
      exact ⟨s, written, finished, declared⟩
  · intro resume writes s written finished
    obtain ⟨_, held, _⟩ := prepare_held r d resume
    obtain ⟨content, staged⟩ := write_chunks_held held written
    exact ⟨content, finish_true staged finished⟩

section Sample

def threeBytes : FileReceiver := ⟨3, "digest", "f", 2, by decide, .normal, false⟩

def plainMachinery : Machinery := ⟨fun _ => "digest", id, fun _ => none⟩

theorem three_bytes_received :
    ∃ cs, readChunks [1, 2, 3] (threeBytes.prepare (Disk.empty.create "f.part" [1]) true).2 2 =
        some cs ∧
      ∀ writes, writes.map Prod.fst = cs → ∃ s, threeBytes.writeChunks
          (threeBytes.prepare (Disk.empty.create "f.part" [1]) true).1 writes = .ok s ∧
        (threeBytes.finish plainMachinery s).1 = some true ∧
        (threeBytes.finish plainMachinery s).2.disk.read "f" = some [1, 2, 3] := by
  refine (standalone_transfer plainMachinery threeBytes _).1 [1, 2, 3] rfl rfl rfl ?_
  intro front found
  cases found
  exact ⟨[2, 3], rfl⟩

end Sample

end Peerc.Transfer.Standalone
