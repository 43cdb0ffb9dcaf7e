import Mathlib.Data.Nat.Bitwise
import Peerc.Channel.Transport
import Peerc.Lib.Runs
import Peerc.Lib.Segments

/-!
Length-prefixed frames on a byte stream, and the reader that stands in for a socket on a relayed
connection. Its one caller suspends on a future while too few bytes are there, and is resumed some
time after a chunk or the end of the stream has arrived.
-/
namespace Peerc.Transport
open List Peerc.Runs Segments
open Segments (complete)
open Channel (JsonCodec maxMessageSize)
variable {M : Type}

/-! ## Frames -/

def lengthPrefixSize : Nat := 4

def binaryFlag : Nat := 0x80000000

def lengthMask : Nat := 0x7fffffff

inductive FrameError where
  | unserialisable
  | messageTooLarge (length : Nat)
  | payloadTooLarge (length : Nat)
  | invalidLength (length : Nat)
  | malformedJson
  | incompleteRead (received : Bytes) (expected : Nat)
  deriving DecidableEq

inductive AnyFrame (M : Type) where
  | json (message : M)
  | binary (payload : Bytes)
  deriving DecidableEq

variable (codec : JsonCodec M)

def encodeFrame (message : M) : Except FrameError Bytes :=
  match codec.dumps message with
  | none => .error .unserialisable
  | some payload =>
      if maxMessageSize < payload.length then .error (.messageTooLarge payload.length)
      else .ok (be32 payload.length ++ payload)

def encodeBinaryFrame (payload : Bytes) : Except FrameError Bytes :=
  if maxMessageSize < payload.length then .error (.payloadTooLarge payload.length)
  else .ok (be32 (payload.length ||| binaryFlag) ++ payload)

def AnyFrame.encode : AnyFrame M → Except FrameError Bytes
  | .json message => encodeFrame codec message
  | .binary payload => encodeBinaryFrame payload

def encodeAll (codec : JsonCodec M) : List (AnyFrame M) → Except FrameError (List Bytes)
  | [] => .ok []
  | item :: items => do
      let frame ← item.encode codec
      let frames ← encodeAll codec items
      .ok (frame :: frames)

/-- The part of _read_raw between its two reads: is the frame binary, and how long is it. -/
def readHeader (header : Bytes) : Except FrameError (Bool × Nat) :=
  let rawLength := ofBigEndian header
  let isBinary := rawLength &&& binaryFlag ≠ 0
  let length := rawLength &&& lengthMask
  if length = 0 ∨ maxMessageSize < length then .error (.invalidLength length)
  else .ok (isBinary, length)

/-- What read_any_frame makes of the two results of _read_raw. -/
def decodePayload (isBinary : Bool) (payload : Bytes) : Except FrameError (AnyFrame M) :=
  if isBinary then .ok (.binary payload)
  else
    match codec.loads payload with
    | some message => .ok (.json message)
    | none => .error .malformedJson

/-! ## The reader of a relayed connection -/

inductive Waiter where
  | none
  | pending
  | done
  deriving DecidableEq

structure RelayedStreamReader where
  buffer : Bytes
  eof : Bool
  waiter : Waiter
  deriving DecidableEq

inductive Read where
  | exactly (data : Bytes)
  | incomplete (received : Bytes)
  | suspended

namespace RelayedStreamReader

def empty : RelayedStreamReader := ⟨[], false, .none⟩

variable (r : RelayedStreamReader)

def wake : RelayedStreamReader :=
  match r.waiter with
  | .pending => { r with waiter := .done }
  | _ => r

def feedData (data : Bytes) : RelayedStreamReader :=
  if r.eof ∨ data = [] then r else wake { r with buffer := r.buffer ++ data }

def feedEof : RelayedStreamReader :=
  if r.eof then r else wake { r with eof := true }

def readexactly (n : Nat) : RelayedStreamReader × Read :=
  if r.buffer.length < n then
    if r.eof then ({ r with buffer := [] }, .incomplete r.buffer)
    else ({ r with waiter := .pending }, .suspended)
  else ({ r with buffer := r.buffer.drop n }, .exactly (r.buffer.take n))

end RelayedStreamReader

open RelayedStreamReader

inductive Awaiting where
  | header
  | payload (isBinary : Bool) (length : Nat)
  deriving DecidableEq

def Awaiting.needs : Awaiting → Nat
  | .header => lengthPrefixSize
  | .payload _ length => length

/-- The bytes fed before the end of the stream and the number of calls made are history. -/
structure FrameLoop (M : Type) where
  reader : RelayedStreamReader
  awaiting : Option Awaiting
  results : List (Except FrameError (AnyFrame M))
  fed : Bytes
  calls : Nat

inductive LoopEvent where
  | call
  | feed (piece : Bytes)
  | eof
  | resume

namespace FrameLoop

def start : FrameLoop M := ⟨.empty, none, [], [], 0⟩

def returns (s : FrameLoop M) (result : Except FrameError (AnyFrame M)) : FrameLoop M :=
  { s with awaiting := none, results := s.results ++ [result] }

variable (codec : JsonCodec M)

def readPayload (s : FrameLoop M) (isBinary : Bool) (length : Nat) : FrameLoop M :=
  match s.reader.readexactly length with
  | (reader, .exactly payload) =>
      { s with reader := reader }.returns (decodePayload codec isBinary payload)
  | (reader, .incomplete received) =>
      { s with reader := reader }.returns (.error (.incompleteRead received length))
  | (reader, .suspended) =>
      { s with reader := reader, awaiting := some (.payload isBinary length) }

def readAnyFrame (s : FrameLoop M) : FrameLoop M :=
  match s.reader.readexactly lengthPrefixSize with
  | (reader, .exactly header) =>
      match readHeader header with
      | .ok (isBinary, length) => { s with reader := reader }.readPayload codec isBinary length
      | .error e => { s with reader := reader }.returns (.error e)
  | (reader, .incomplete received) =>
      { s with reader := reader }.returns (.error (.incompleteRead received lengthPrefixSize))
  | (reader, .suspended) => { s with reader := reader, awaiting := some .header }

def goOn (s : FrameLoop M) : Awaiting → FrameLoop M
  | .header => s.readAnyFrame codec
  | .payload isBinary length => s.readPayload codec isBinary length

def step (s : FrameLoop M) : LoopEvent → FrameLoop M
  | .call =>
      -- The task makes its next call when the last one has returned.
      match s.awaiting with
      | some _ => s
      | none => { s with calls := s.calls + 1 }.goOn codec .header
  | .feed piece =>
      { s with
        reader := s.reader.feedData piece
        fed := if s.reader.eof then s.fed else s.fed ++ piece }
  | .eof => { s with reader := s.reader.feedEof }
  | .resume =>
      match s.reader.waiter, s.awaiting with
      | .done, some awaiting =>
          { s with reader := { s.reader with waiter := .none } }.goOn codec awaiting
      | _, _ => s

end FrameLoop

open FrameLoop

/-! ## A frame read back -/

def ReadsBack (codec : JsonCodec M) (item : AnyFrame M) (frame : Bytes) : Prop :=
  ∃ header payload isBinary, frame = header ++ payload ∧ header.length = lengthPrefixSize ∧
    readHeader header = .ok (isBinary, payload.length) ∧
    decodePayload codec isBinary payload = .ok item

def AnyFrame.Fits (codec : JsonCodec M) : AnyFrame M → Prop
  | .json message => ∃ payload, codec.dumps message = some payload ∧
      0 < payload.length ∧ payload.length ≤ maxMessageSize
  | .binary payload => 0 < payload.length ∧ payload.length ≤ maxMessageSize

theorem length_be32 (n : Nat) : (be32 n).length = lengthPrefixSize := rfl

variable {n : Nat} {codec : JsonCodec M} {items : List (AnyFrame M)} {frames : List Bytes}

theorem small_length (fits : n ≤ maxMessageSize) : n < 2 ^ 31 :=
  Nat.lt_of_le_of_lt fits (by decide)

theorem read_plain_header (some : 0 < n) (fits : n ≤ maxMessageSize) :
    readHeader (be32 n) = .ok (false, n) := by
  have small := small_length fits
  have word : ofBigEndian (be32 n) = n := by
    rw [be32_eq, ofBigEndian_bigEndian, Nat.mod_eq_of_lt (by omega)]
  have flag : n &&& binaryFlag = 0 := by
    have bit : n.testBit 31 = false := Nat.testBit_lt_two_pow small
    have masked := Nat.and_two_pow n 31
    rw [bit] at masked
    exact masked
  have length : n &&& lengthMask = n := by
    have masked := Nat.and_two_pow_sub_one_eq_mod n 31
    rw [Nat.mod_eq_of_lt small] at masked
    exact masked
  unfold readHeader
  simp only [word, flag, length]
  rw [if_neg (by omega)]
  rfl

theorem read_flagged_header (some : 0 < n) (fits : n ≤ maxMessageSize) :
    readHeader (be32 (n ||| binaryFlag)) = .ok (true, n) := by
  have small := small_length fits
  have sum : n ||| binaryFlag = 2 ^ 31 + n := by
    rw [Nat.or_comm]
    exact (Nat.two_pow_add_eq_or_of_lt small 1).symm
  have word : ofBigEndian (be32 (n ||| binaryFlag)) = 2 ^ 31 + n := by
    rw [sum, be32_eq, ofBigEndian_bigEndian, Nat.mod_eq_of_lt (by omega)]
  have flag : (2 ^ 31 + n) &&& binaryFlag ≠ 0 := by
    have bit : (2 ^ 31 + n).testBit 31 = true := by
      rw [Nat.testBit_two_pow_add_eq, Nat.testBit_lt_two_pow small]
      rfl
    have masked : (2 ^ 31 + n) &&& 2 ^ 31 = ((2 ^ 31 + n).testBit 31).toNat * 2 ^ 31 :=
      Nat.and_two_pow _ 31
    rw [bit] at masked
    rw [show binaryFlag = 2 ^ 31 from rfl, masked]
    decide
  have length : (2 ^ 31 + n) &&& lengthMask = n := by
    have masked : (2 ^ 31 + n) &&& (2 ^ 31 - 1) = (2 ^ 31 + n) % 2 ^ 31 :=
      Nat.and_two_pow_sub_one_eq_mod _ 31
    rw [Nat.add_mod_left, Nat.mod_eq_of_lt small] at masked
    exact masked
  unfold readHeader
  simp only [word, length, flag, ne_eq, not_false_eq_true, decide_true]
  rw [if_neg (by omega)]

section Inverse
variable (inverse : ∀ message payload, codec.dumps message = some payload →
  codec.loads payload = some message)
include inverse

theorem encoded_reads_back {item : AnyFrame M} (fits : item.Fits codec) :
    ∃ frame, item.encode codec = .ok frame ∧ ReadsBack codec item frame := by
  cases item with
  | json message =>
    obtain ⟨payload, dumped, some, small⟩ := fits
    refine ⟨be32 payload.length ++ payload, ?_, be32 payload.length, payload, false, rfl,
      length_be32 _, read_plain_header some small, ?_⟩
    · simp only [AnyFrame.encode, encodeFrame, dumped]
      rw [if_neg (Nat.not_lt.mpr small)]
    · simp [decodePayload, inverse message payload dumped]
  | binary payload =>
    obtain ⟨some, small⟩ := fits
    refine ⟨be32 (payload.length ||| binaryFlag) ++ payload, ?_,
      be32 (payload.length ||| binaryFlag), payload, true, rfl, length_be32 _,
      read_flagged_header some small, rfl⟩
    simp only [AnyFrame.encode, encodeBinaryFrame]
    rw [if_neg (Nat.not_lt.mpr small)]

theorem encode_all_reads_back (fits : ∀ item ∈ items, item.Fits codec) :
    ∃ frames, encodeAll codec items = .ok frames ∧
      List.Forall₂ (ReadsBack codec) items frames := by
  induction items with
  | nil => exact ⟨[], rfl, .nil⟩
  | cons item _ ih =>
    obtain ⟨frame, encoded, back⟩ := encoded_reads_back inverse (fits item (by simp))
    obtain ⟨frames, rest, backs⟩ := ih fun other member => fits other (by simp [member])
    refine ⟨frame :: frames, ?_, .cons back backs⟩
    simp [encodeAll, encoded, rest, bind, Except.bind]

end Inverse

theorem frame_item (backs : List.Forall₂ (ReadsBack codec) items frames) {k : Nat} {frame : Bytes}
    (here : frames[k]? = some frame) :
    ∃ item, items[k]? = some item ∧ ReadsBack codec item frame := by
  induction backs generalizing k with
  | nil => cases here
  | cons back _ ih =>
    cases k with
    | zero =>
      cases here
      exact ⟨_, rfl, back⟩
    | succ => exact ih here

/-! ## Where the task stands in the stream -/

structure Reading (items : List (AnyFrame M)) (frames : List Bytes) (s : FrameLoop M) (k : Nat)
    (taken : Bytes) : Prop where
  within : k ≤ frames.length
  results : s.results = (items.take k).map .ok
  conserved : (frames.take k).flatten ++ (taken ++ s.reader.buffer) = s.fed

def Taken (frames : List Bytes) (k : Nat) (taken : Bytes) : Awaiting → Prop
  | .header => taken = []
  | .payload isBinary length => ∃ payload, frames[k]? = some (taken ++ payload) ∧
      readHeader taken = .ok (isBinary, length) ∧ taken.length = lengthPrefixSize ∧
      payload.length = length

def Incomplete (result : Except FrameError (AnyFrame M)) : Prop :=
  ∃ received expected, result = .error (.incompleteRead received expected)

inductive Tracks (items : List (AnyFrame M)) (frames : List Bytes) (s : FrameLoop M) : Prop where
  | idle (k : Nat) (reading : Reading items frames s k []) (free : s.awaiting = none)
      (quiet : s.reader.waiter = .none) (answered : s.calls = s.results.length)
  | suspended (k : Nat) (taken : Bytes) (awaiting : Awaiting)
      (reading : Reading items frames s k taken) (consumed : Taken frames k taken awaiting)
      (busy : s.awaiting = some awaiting) (waits : s.reader.waiter ≠ .none)
      (open_ : s.calls = s.results.length + 1)
      (short : s.reader.waiter = .pending →
        s.reader.eof = false ∧ s.reader.buffer.length < awaiting.needs)
  | ended (errors : List (Except FrameError (AnyFrame M))) (free : s.awaiting = none)
      (quiet : s.reader.waiter = .none) (eof : s.reader.eof = true) (empty : s.reader.buffer = [])
      (results : s.results = (items.take (complete frames s.fed.length)).map .ok ++ errors)
      (some : errors ≠ []) (incomplete : ∀ error ∈ errors, Incomplete error)
      (answered : s.calls = s.results.length)

variable {r : RelayedStreamReader}

theorem RelayedStreamReader.readexactly_ended (short : r.buffer.length < n) (eof : r.eof = true) :
    r.readexactly n = ({ r with buffer := [] }, .incomplete r.buffer) := by
  rw [readexactly, if_pos short, if_pos eof]

theorem RelayedStreamReader.readexactly_waits (short : r.buffer.length < n) (live : r.eof = false) :
    r.readexactly n = ({ r with waiter := .pending }, .suspended) := by
  rw [readexactly, if_pos short, live]
  rfl

theorem RelayedStreamReader.readexactly_front {front rest : Bytes}
    (split : front ++ rest = r.buffer) :
    r.readexactly front.length = ({ r with buffer := rest }, .exactly front) := by
  have enough : ¬ r.buffer.length < front.length := by
    rw [← split, length_append]
    omega
  rw [readexactly, if_neg enough, ← split, take_left, drop_left]

section Tracking
variable {s : FrameLoop M} {k : Nat} {taken : Bytes} {awaiting : Awaiting}

theorem Reading.length_fed (reading : Reading items frames s k taken) :
    s.fed.length = (frames.take k).flatten.length + taken.length + s.reader.buffer.length := by
  rw [← reading.conserved, length_append, length_append, Nat.add_assoc]

theorem wake_waiter (r : RelayedStreamReader) :
    (r.wake.waiter = .none ↔ r.waiter = .none) ∧ r.wake.waiter ≠ .pending ∧
      r.wake.buffer = r.buffer ∧ r.wake.eof = r.eof := by
  unfold wake
  cases woken : r.waiter <;> simp [woken]

theorem feed_tracks (tracks : Tracks items frames s) (piece : Bytes) :
    Tracks items frames (s.step codec (.feed piece)) := by
  unfold step feedData
  by_cases ignored : s.reader.eof = true ∨ piece = []
  · have same : (if s.reader.eof then s.fed else s.fed ++ piece) = s.fed := by
      rcases ignored with eof | empty
      · rw [if_pos eof]
      · rw [empty, append_nil, ite_self]
    simp only [if_pos ignored, same]
    exact tracks
  · have live : ¬ s.reader.eof = true := fun eof => ignored (.inl eof)
    simp only [if_neg ignored, if_neg live]
    obtain ⟨quietly, woken, buffer, eof⟩ :=
      wake_waiter { s.reader with buffer := s.reader.buffer ++ piece }
    cases tracks with
    | idle k reading free quiet answered =>
      refine .idle k ⟨reading.within, reading.results, ?_⟩ free (quietly.mpr quiet) answered
      rw [buffer, ← reading.conserved]
      simp
    | suspended k taken awaiting reading consumed busy waits open_ =>
      refine .suspended k taken awaiting ⟨reading.within, reading.results, ?_⟩ consumed busy
        (fun none => waits (quietly.mp none)) open_ (fun pending => absurd pending woken)
      rw [buffer, ← reading.conserved]
      simp
    | ended _ _ _ eof => exact absurd eof live

theorem eof_tracks (tracks : Tracks items frames s) : Tracks items frames (s.step codec .eof) := by
  unfold step feedEof
  cases already : s.reader.eof with
  | true => exact tracks
  | false =>
    obtain ⟨quietly, woken, buffer, eof⟩ := wake_waiter { s.reader with eof := true }
    cases tracks with
    | idle k reading free quiet answered =>
      refine .idle k ⟨reading.within, reading.results, ?_⟩ free (quietly.mpr quiet) answered
      rw [← reading.conserved]
      exact congrArg (fun kept => (frames.take k).flatten ++ ([] ++ kept)) buffer
    | suspended k taken awaiting reading consumed busy waits open_ =>
      refine .suspended k taken awaiting ⟨reading.within, reading.results, ?_⟩ consumed busy
        (fun none => waits (quietly.mp none)) open_ (fun pending => absurd pending woken)
      rw [← reading.conserved]
      exact congrArg (fun kept => (frames.take k).flatten ++ (taken ++ kept)) buffer
    | ended _ _ _ eof =>
      rw [eof] at already
      cases already

theorem fed_read_payload (s : FrameLoop M) (isBinary : Bool) (length : Nat) :
    (s.readPayload codec isBinary length).fed = s.fed := by
  unfold readPayload
  split <;> rfl

theorem fed_go_on (s : FrameLoop M) (awaiting : Awaiting) :
    (s.goOn codec awaiting).fed = s.fed := by
  cases awaiting with
  | header =>
    simp only [goOn, readAnyFrame]
    split
    · split
      · exact fed_read_payload _ _ _
      · rfl
    · rfl
    · rfl
  | payload isBinary length => exact fed_read_payload s isBinary length

theorem fed_grows (s : FrameLoop M) (event : LoopEvent) : s.fed <+: (s.step codec event).fed := by
  cases event with
  | call =>
    simp only [step]
    split
    · exact prefix_rfl
    · simp only [fed_go_on, prefix_rfl]
  | feed =>
    simp only [step]
    split
    · exact prefix_rfl
    · exact prefix_append _ _
  | eof => exact prefix_rfl
  | resume =>
    simp only [step]
    split
    · simp only [fed_go_on, prefix_rfl]
    · exact prefix_rfl

variable (backs : List.Forall₂ (ReadsBack codec) items frames)
include backs

theorem Reading.complete_eq
    (reading : Reading items frames s k taken) (consumed : Taken frames k taken awaiting)
    (short : s.reader.buffer.length < awaiting.needs) : complete frames s.fed.length = k := by
  have fed := reading.length_fed
  apply Segments.complete_eq reading.within
  · omega
  · intro _ here
    cases awaiting with
    | header =>
      obtain ⟨_, _, _, _, _, rfl, _, _⟩ := frame_item backs here
      rw [show taken = [] from consumed] at fed
      simp only [Awaiting.needs, length_nil] at short fed
      rw [length_append]
      omega
    | payload =>
      obtain ⟨_, there, _, _, _⟩ := consumed
      cases here.symm.trans there
      simp only [Awaiting.needs] at short
      rw [length_append]
      omega

theorem ended_of_short
    (reading : Reading items frames s k taken) (consumed : Taken frames k taken awaiting)
    (short : s.reader.buffer.length < awaiting.needs) (quiet : s.reader.waiter = .none)
    (eof : s.reader.eof = true) (open_ : s.calls = s.results.length + 1) : Tracks items frames
      ({ s with reader := { s.reader with buffer := [] } }.returns
        (.error (.incompleteRead s.reader.buffer awaiting.needs))) := by
  refine .ended [.error (.incompleteRead s.reader.buffer awaiting.needs)] rfl quiet eof rfl ?_
    (by simp) ?_ ?_
  · simp [returns, reading.complete_eq backs consumed short, reading.results]
  · intro _ member
    cases mem_singleton.mp member
    exact ⟨_, _, rfl⟩
  · simp only [returns, length_append, length_singleton]
    exact open_

section Front
variable (front : s.fed <+: frames.flatten)
include front

theorem read_payload_tracks (reading : Reading items frames s k taken) {isBinary : Bool}
    {length : Nat} (consumed : Taken frames k taken (.payload isBinary length))
    (quiet : s.reader.waiter = .none) (open_ : s.calls = s.results.length + 1) :
    Tracks items frames (s.readPayload codec isBinary length) := by
  unfold readPayload
  by_cases short : s.reader.buffer.length < length
  · cases eof : s.reader.eof with
    | true =>
      rw [readexactly_ended short eof]
      exact ended_of_short backs reading consumed short quiet eof open_
    | false =>
      rw [readexactly_waits short eof]
      exact .suspended k taken _ ⟨reading.within, reading.results, reading.conserved⟩ consumed
        rfl nofun open_ fun _ => ⟨eof, short⟩
  · obtain ⟨payload, here, header, _, _⟩ := consumed
    obtain ⟨_, there, _, _, _, same, _, read, decoded⟩ := frame_item backs here
    obtain ⟨rfl, rfl⟩ := List.append_inj same (by omega)
    cases header.symm.trans read
    -- The buffer starts with the payload, since it is the front of what is still to come.
    have behind : taken ++ s.reader.buffer <+:
        (taken ++ payload) ++ (frames.drop (k + 1)).flatten := by
      rw [← reading.conserved] at front
      rw [← drop_of_getElem? here]
      exact behind_prefix front
    rw [List.append_assoc, List.prefix_append_right_inj] at behind
    have starts : payload <+: s.reader.buffer :=
      List.prefix_of_prefix_length_le (List.prefix_append _ _) behind (Nat.le_of_not_lt short)
    obtain ⟨_, split⟩ := starts
    rw [readexactly_front split]
    dsimp only
    rw [decoded]
    refine .idle (k + 1) ⟨?_, ?_, ?_⟩ rfl quiet ?_
    · exact index_lt here
    · simp only [returns, reading.results]
      rw [List.take_add_one, there, List.map_append]
      rfl
    · simp only [returns]
      rw [List.take_add_one, here, List.flatten_append, Option.toList_some,
        List.flatten_singleton, ← reading.conserved, ← split]
      simp
    · simp only [returns, List.length_append, List.length_singleton]
      exact open_

theorem read_any_frame_tracks (reading : Reading items frames s k [])
    (quiet : s.reader.waiter = .none) (open_ : s.calls = s.results.length + 1) :
    Tracks items frames (s.readAnyFrame codec) := by
  have consumed : Taken frames k [] .header := rfl
  unfold readAnyFrame
  by_cases short : s.reader.buffer.length < lengthPrefixSize
  · cases eof : s.reader.eof with
    | true =>
      rw [readexactly_ended short eof]
      exact ended_of_short backs reading consumed short quiet eof open_
    | false =>
      rw [readexactly_waits short eof]
      exact .suspended k [] .header ⟨reading.within, reading.results, reading.conserved⟩ consumed
        rfl nofun open_ fun _ => ⟨eof, short⟩
  · have behind : s.reader.buffer <+: (frames.drop k).flatten := by
      rw [← reading.conserved] at front
      exact behind_prefix front
    -- There is a next frame, because the buffer is not empty.
    cases here : frames[k]? with
    | none =>
      have gone : frames.drop k = [] := drop_eq_nil_of_le (getElem?_eq_none_iff.mp here)
      rw [gone, flatten_nil, prefix_nil] at behind
      rw [behind] at short
      exact absurd (by decide) short
    | some =>
      obtain ⟨_, _, header, payload, isBinary, rfl, width, read, _⟩ := frame_item backs here
      rw [drop_of_getElem? here, append_assoc] at behind
      have starts : header <+: s.reader.buffer :=
        prefix_of_prefix_length_le (prefix_append _ _) behind (by omega)
      obtain ⟨rest, split⟩ := starts
      rw [← width, readexactly_front split]
      dsimp only
      rw [read]
      have taken : Taken frames k header (.payload isBinary payload.length) :=
        ⟨payload, here, read, width, rfl⟩
      have moved : Reading items frames
          { s with reader := { s.reader with buffer := rest } } k header := by
        refine ⟨reading.within, reading.results, ?_⟩
        rw [← reading.conserved, ← split, nil_append]
      exact read_payload_tracks (s := { s with reader := { s.reader with buffer := rest } })
        backs front moved taken quiet open_

/-! ## What one event keeps -/

theorem go_on_tracks (reading : Reading items frames s k taken)
    (consumed : Taken frames k taken awaiting) (quiet : s.reader.waiter = .none)
    (open_ : s.calls = s.results.length + 1) : Tracks items frames (s.goOn codec awaiting) := by
  cases awaiting with
  | header =>
    cases (consumed : taken = [])
    exact read_any_frame_tracks backs front reading quiet open_
  | payload => exact read_payload_tracks backs front reading consumed quiet open_

theorem call_tracks (tracks : Tracks items frames s) :
    Tracks items frames (s.step codec .call) := by
  cases tracks with
  | idle k reading free quiet answered =>
    have consumed : Taken frames k [] .header := rfl
    simp only [step, free]
    exact go_on_tracks (s := { s with calls := s.calls + 1 }) backs front
      ⟨reading.within, reading.results, reading.conserved⟩ consumed quiet
      (congrArg (· + 1) answered)
  | suspended k taken awaiting reading consumed busy waits open_ short =>
    simp only [step, busy]
    exact .suspended k taken awaiting reading consumed busy waits open_ short
  | ended errors free quiet eof empty results _ incomplete answered =>
    have short : s.reader.buffer.length < lengthPrefixSize := by
      rw [empty]
      decide
    simp only [step, free, goOn, readAnyFrame]
    rw [readexactly_ended short eof]
    refine .ended (errors ++ [.error (.incompleteRead s.reader.buffer lengthPrefixSize)]) rfl quiet
      eof rfl ?_ (by simp) ?_ ?_
    · simp [returns, results]
    · intro error member
      rcases mem_append.mp member with before | last
      · exact incomplete error before
      · cases mem_singleton.mp last
        exact ⟨_, _, rfl⟩
    · simp only [returns, length_append, length_singleton]
      exact congrArg (· + 1) answered

theorem resume_tracks (tracks : Tracks items frames s) :
    Tracks items frames (s.step codec .resume) := by
  cases tracks with
  | idle k reading free quiet answered =>
    simp only [step, free, quiet]
    exact .idle k reading free quiet answered
  | suspended k taken awaiting reading consumed busy waits open_ short =>
    cases woken : s.reader.waiter with
    | none => exact absurd woken waits
    | pending =>
      simp only [step, woken]
      exact .suspended k taken awaiting reading consumed busy waits open_ short
    | done =>
      simp only [step, woken, busy]
      exact go_on_tracks (s := { s with reader := { s.reader with waiter := .none } }) backs front
        ⟨reading.within, reading.results, reading.conserved⟩ consumed rfl open_
  | ended errors free quiet eof empty results some incomplete answered =>
    simp only [step, free, quiet]
    exact .ended errors free quiet eof empty results some incomplete answered

end Front

theorem step_tracks (event : LoopEvent)
    (tracked : s.fed <+: frames.flatten → Tracks items frames s)
    (front : (s.step codec event).fed <+: frames.flatten) :
    Tracks items frames (s.step codec event) := by
  have before : s.fed <+: frames.flatten := (fed_grows s event).trans front
  cases event with
  | call => exact call_tracks backs before (tracked before)
  | feed piece => exact feed_tracks (tracked before) piece
  | eof => exact eof_tracks (tracked before)
  | resume => exact resume_tracks backs before (tracked before)

theorem run_tracks (events : List LoopEvent)
    (front : (run (step codec) .start events).fed <+: frames.flatten) :
    Tracks items frames (run (step codec) .start events) := by
  have begun : (start (M := M)).fed <+: frames.flatten →
      Tracks items frames (start (M := M)) :=
    fun _ => .idle 0 ⟨Nat.zero_le _, rfl, rfl⟩ rfl rfl rfl
  exact invariant_free (fun (s : FrameLoop M) event
    (tracked : s.fed <+: frames.flatten → Tracks items frames s) => step_tracks backs event tracked)
    begun events front

end Tracking

/-! ## What the calls return -/

def FrameLoop.Settled (s : FrameLoop M) : Prop := s.reader.waiter ≠ .done

/-- The first n items, and after the end of the stream an IncompleteReadError for other calls. -/
def FrameLoop.Due (s : FrameLoop M) (items : List (AnyFrame M)) (n : Nat)
    (results : List (Except FrameError (AnyFrame M))) : Prop :=
  ∃ errors, results = (items.take (min n s.calls)).map .ok ++ errors ∧
    errors.length = (if s.reader.eof then s.calls - n else 0) ∧ ∀ error ∈ errors, Incomplete error

theorem due_of_settled (backs : List.Forall₂ (ReadsBack codec) items frames) {s : FrameLoop M}
    (tracks : Tracks items frames s) (settled : s.Settled) :
    s.Due items (complete frames s.fed.length) s.results := by
  have same : items.length = frames.length := backs.length_eq
  cases tracks with
  | idle k reading _ _ answered =>
    have fed := reading.length_fed
    have arrived : k ≤ complete frames s.fed.length :=
      le_complete reading.within (by omega)
    have within := reading.within
    have calls : s.calls = k := by
      rw [answered, reading.results, length_map, length_take]
      omega
    refine ⟨[], ?_, ?_, by simp⟩
    · rw [calls, Nat.min_eq_right arrived, append_nil, reading.results]
    · rw [calls, Nat.sub_eq_zero_of_le arrived, ite_self]
      rfl
  | suspended k _ _ reading consumed _ waits open_ short =>
    have pending : s.reader.waiter = .pending := by
      cases woken : s.reader.waiter with
      | none => exact absurd woken waits
      | pending => rfl
      | done => exact absurd woken settled
    obtain ⟨live, lacking⟩ := short pending
    have within := reading.within
    have calls : s.calls = k + 1 := by
      rw [open_, reading.results, length_map, length_take]
      omega
    refine ⟨[], ?_, ?_, by simp⟩
    · rw [calls, reading.complete_eq backs consumed lacking, Nat.min_eq_left (Nat.le_succ k),
        append_nil, reading.results]
    · rw [live]
      rfl
  | ended errors _ _ eof _ results _ incomplete answered =>
    have whole := complete_le frames s.fed.length
    have calls : s.calls = complete frames s.fed.length + errors.length := by
      rw [answered, results, length_append, length_map, length_take]
      omega
    refine ⟨errors, ?_, ?_, incomplete⟩
    · rw [calls, Nat.min_eq_left (Nat.le_add_right _ _), results]
    · rw [eof, calls, if_pos rfl]
      omega

theorem due_later (backs : List.Forall₂ (ReadsBack codec) items frames) {s : FrameLoop M}
    (tracks : Tracks items frames s) :
    ∃ due, s.Due items (complete frames s.fed.length) due ∧ s.results <+: due := by
  by_cases settled : s.Settled
  · exact ⟨s.results, due_of_settled backs tracks settled, prefix_rfl⟩
  · have same : items.length = frames.length := backs.length_eq
    have woken : s.reader.waiter = .done := Decidable.not_not.mp settled
    cases tracks with
    | idle _ _ _ quiet => rw [quiet] at woken; cases woken
    | suspended k _ _ reading _ _ _ open_ =>
      have fed := reading.length_fed
      have arrived : k ≤ complete frames s.fed.length :=
        le_complete reading.within (by omega)
      have within := reading.within
      have calls : s.calls = k + 1 := by
        rw [open_, reading.results, length_map, length_take]
        omega
      refine ⟨_, ⟨List.replicate _ (.error (.incompleteRead [] 0)), rfl, length_replicate, ?_⟩,
        ?_⟩
      · intro _ member
        exact ⟨[], 0, eq_of_mem_replicate member⟩
      · rw [reading.results]
        apply List.IsPrefix.trans _ (prefix_append _ _)
        exact (take_prefix_take_left (by omega)).map _
    | ended _ _ quiet =>
      rw [quiet] at woken
      cases woken

/-- What has been returned is a front of what is due, and all of it once nothing is outstanding. -/
theorem framing_lossless {codec : JsonCodec M}
    (inverse : ∀ message payload, codec.dumps message = some payload →
      codec.loads payload = some message)
    (items : List (AnyFrame M)) (fits : ∀ item ∈ items, item.Fits codec) :
    ∃ frames, encodeAll codec items = .ok frames ∧ ∀ (events : List LoopEvent) (s : FrameLoop M),
      s = run (step codec) .start events → s.fed <+: frames.flatten →
        ∃ n, (∃ due, s.Due items n due ∧ s.results <+: due) ∧
          (s.Settled → s.Due items n s.results) ∧
          (s.fed = frames.flatten → n = items.length) ∧
          (s.fed ≠ frames.flatten → n < items.length) := by
  obtain ⟨frames, encoded, backs⟩ := encode_all_reads_back inverse fits
  refine ⟨frames, encoded, fun events s reached front => ?_⟩
  rw [reached] at front
  have tracks := run_tracks backs events front
  rw [← reached] at tracks front
  have same : items.length = frames.length := backs.length_eq
  refine ⟨complete frames s.fed.length, due_later backs tracks, due_of_settled backs tracks, ?_, ?_⟩
  · intro all
    rw [all, same]
    exact complete_all frames
  · intro cut
    have shorter := Nat.lt_of_le_of_ne front.length_le fun equal => cut (front.eq_of_length equal)
    rw [same]
    exact complete_lt shorter

section Sample

def digitCodec : JsonCodec Bool where
  dumps b := some [if b then 49 else 48]
  loads payload := if payload = [49] then some true else if payload = [48] then some false else none

def twoFrames : List (AnyFrame Bool) := [.json true, .binary [7, 7]]

def cutFrames : List LoopEvent :=
  [.feed [0, 0], .call, .feed [0, 1, 49, 128, 0], .resume, .call, .feed [0, 2, 7], .resume,
    .feed [7], .resume, .eof, .call]

def cutRun : FrameLoop Bool := run (step digitCodec) .start cutFrames

theorem cut_frames_delivered :
    cutRun.results = [.ok (.json true), .ok (.binary [7, 7]), .error (.incompleteRead [] 4)] ∧
      cutRun.Due twoFrames twoFrames.length cutRun.results := by
  refine ⟨by rfl, ?_⟩
  have inverse : ∀ message payload, digitCodec.dumps message = some payload →
      digitCodec.loads payload = some message := by
    intro message _ dumped
    cases dumped
    cases message <;> rfl
  have fits : ∀ item ∈ twoFrames, item.Fits digitCodec := by
    intro _ member
    simp only [twoFrames, mem_cons, not_mem_nil, or_false] at member
    rcases member with rfl | rfl
    · exact ⟨[49], rfl, by decide, by decide⟩
    · exact ⟨by decide, by decide⟩
  obtain ⟨frames, encoded, all⟩ := framing_lossless inverse twoFrames fits
  cases (show Except.ok [[0, 0, 0, 1, 49], [128, 0, 0, 2, 7, 7]] = Except.ok frames from encoded)
  obtain ⟨n, _, due, whole, _⟩ := all cutFrames cutRun rfl (by decide)
  have two : n = twoFrames.length := whole (by decide)
  have settled : cutRun.reader.waiter ≠ .done := by decide
  rw [two] at due
  exact due settled

end Sample

end Peerc.Transport
