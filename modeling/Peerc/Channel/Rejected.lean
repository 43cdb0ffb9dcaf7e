import Peerc.Channel.Safety

/-!
Sends that fail on a connection that stays open. A frame that was encrypted and then not
written has used a number of the counter, and the receiver waits for that number.
-/
namespace Peerc.Channel
open List EncryptedTransport Aead SecureChannel
open Handshake (SessionKeys)
open Runs
variable {M : Type}

inductive Attempt (M : Type) where
  | message (message : Message M)
  | notDict
  | notBytes
  deriving DecidableEq

inductive AttemptError where
  | expectedDict
  | expectedBytes
  | channel (error : ChannelError)
  deriving DecidableEq

def AttemptError.isTransportError : AttemptError → Bool
  | .expectedDict => true
  | .expectedBytes => true
  | .channel error => error.isTransportError

def Endpoint.attempt (codec : JsonCodec M) (A : Aead) (e : Endpoint M) (ad : Bytes)
    (drains : Bool) : Attempt M → EncryptedTransport × Except AttemptError Unit
  | .message message =>
      let result := e.sendOne codec A ad drains message
      (result.1, result.2.mapError .channel)
  | .notDict => (e.transport, .error .expectedDict)
  | .notBytes => (e.transport, .error .expectedBytes)

open Endpoint

structure Wire (M : Type) where
  ends : World M
  read : Side → Nat

inductive WireEvent (M : Type) where
  | attempt (side : Side) (what : Attempt M)
  | receive (side : Side)

namespace Wire

def start (initiator responder : SecureChannel) : Wire M := ⟨.start initiator responder, fun _ => 0⟩

def counter (w : Wire M) (side : Side) : Nat := (w.ends side).channel.sendSequence

def written (w : Wire M) (side : Side) : List Bytes := (w.ends side).transport.written

variable (codec : JsonCodec M) (A : Aead)

def receive (w : Wire M) (side : Side) : Wire M :=
  if (w.ends side).transport.closed then w
  else
    match (w.written side.other)[w.read side]? with
    | none => w
    | some frame =>
        ⟨w.ends.step codec A (side, .receive (.binary frame) []),
          Function.update w.read side (w.read side + 1)⟩

def step (w : Wire M) : WireEvent M → Wire M
  | .attempt side (.message message) =>
      { w with ends := w.ends.step codec A (side, .send message [] true) }
  | .attempt _ .notDict => w
  | .attempt _ .notBytes => w
  | .receive side => w.receive codec A side

def Spares (side : Side) (w : Wire M) (event : WireEvent M) : Prop :=
  (w.step codec A event).counter side = w.counter side ∨
    (w.step codec A event).written side ≠ w.written side

structure Rejects (w : Wire M) (side : Side) (what : Attempt M) :
    Prop where
  raises : ∃ error, ((w.ends side).attempt codec A [] true what).2 = .error error ∧
    error.isTransportError = true
  nothing : (w.step codec A (.attempt side what)).written side = w.written side
  stays : ((w.step codec A (.attempt side what)).ends side).transport.closed = false

def Accepts (w : Wire M) (side : Side) (message : Message M) : Prop :=
  let sent := w.step codec A (.attempt side (.message message))
  let behind := (sent.written side).length - sent.read side.other - 1
  let ready := run (step codec A) sent (List.replicate behind (.receive side.other))
  ∃ frame, (sent.written side).getLast? = some frame ∧
    ((ready.ends side.other).transport.receiveFrame codec A (.binary frame) []).2 =
      .ok (.message message)

end Wire

def Tagged (A : Aead) : Prop :=
  ∀ key nonce plaintext ad ciphertext, key.length = keyLen →
    A.encrypt key nonce plaintext ad = some ciphertext → 16 ≤ ciphertext.length

/-! ## One send -/

inductive Sends (codec : JsonCodec M) (A : Aead) (transport : EncryptedTransport)
    (message : Message M) (ad : Bytes) : EncryptedTransport × Except ChannelError Unit → Prop where
  | refused {after error} (channel : after.channel = transport.channel)
      (written : after.written = transport.written) : Sends codec A transport message ad
        (after, .error error)
  | wasted {after error plaintext} (inner : codec.inner message = some plaintext)
      (channel : after.channel = transport.channel.advanced plaintext ad)
      (written : after.written = transport.written) : Sends codec A transport message ad
        (after, .error error)
  | sent {after plaintext ciphertext} (inner : codec.inner message = some plaintext)
      (encrypted : A.encrypt transport.channel.sessionKeys.sendKey
        (bigEndian nonceLen transport.channel.sendSequence) plaintext ad = some ciphertext)
      (packed : transport.channel.sendSequence < 256 ^ sequenceSize)
      (channel : after.channel = transport.channel.advanced plaintext ad)
      (written : after.written = transport.written ++
        [bigEndian sequenceSize transport.channel.sendSequence ++ ciphertext]) :
      Sends codec A transport message ad (after, .ok ())

theorem send_one_eq (codec : JsonCodec M) (A : Aead) (e : Endpoint M) (ad : Bytes) (drains : Bool)
    (message : Message M) : e.sendOne codec A ad drains message =
      match codec.inner message with
      | none => (e.transport, .error .unserialisable)
      | some plaintext => e.transport.sendEncrypted A plaintext ad drains := by
  cases message with
  | json message =>
    simp only [sendOne, sendMessage, JsonCodec.inner]
    cases codec.dumps message <;> rfl
  | binary | relay => rfl

theorem send_one_sends (codec : JsonCodec M) (A : Aead) (e : Endpoint M) (ad : Bytes)
    (message : Message M) :
    Sends codec A e.transport message ad (e.sendOne codec A ad true message) := by
  rw [send_one_eq]
  cases inner : codec.inner message with
  | none => exact .refused rfl rfl
  | some plaintext =>
    dsimp only
    rw [send_encrypted_eq, wire_payload_eq]
    by_cases exhausted : maxSequence < e.transport.channel.sendSequence
    · rw [if_pos exhausted]
      exact .refused rfl rfl
    · rw [if_neg exhausted]
      cases encrypted : A.encrypt e.transport.channel.sessionKeys.sendKey
          (bigEndian nonceLen e.transport.channel.sendSequence) plaintext ad with
      | none => exact .refused rfl rfl
      | some ciphertext =>
        by_cases wide : 256 ^ sequenceSize ≤ e.transport.channel.sendSequence
        · simp only [if_pos wide]
          exact .wasted inner rfl rfl
        · simp only [if_neg wide, writeBinaryFrame]
          split
          · exact .wasted inner rfl rfl
          · split
            · exact .wasted inner rfl rfl
            · exact .sent inner encrypted (Nat.lt_of_not_le wide) rfl rfl

variable {e : Endpoint M} {codec : JsonCodec M} {A : Aead} {ad : Bytes}
  {transport : EncryptedTransport}

theorem send_error_iff {drains : Bool} {message : Message M} {error : ChannelError}
    (failed : (e.sendOne codec A ad drains message).2 = .error error) :
    error.isTransportError = true ↔ ∃ plaintext, codec.inner message = some plaintext ∧
      (e.channel.sendSequence ≤ maxSequence → e.channel.sendSequence < 256 ^ sequenceSize ∧
        (A.encrypt e.channel.sessionKeys.sendKey (bigEndian nonceLen e.channel.sendSequence)
          plaintext ad).isSome = true) := by
  rw [send_one_eq] at failed
  unfold Endpoint.channel
  cases inner : codec.inner message with
  | none =>
    rw [inner] at failed
    cases failed
    simp [ChannelError.isTransportError]
  | some plaintext =>
    rw [inner] at failed
    dsimp only at failed
    rw [send_encrypted_eq, wire_payload_eq] at failed
    simp only [Option.some.injEq, exists_eq_left']
    by_cases exhausted : maxSequence < e.transport.channel.sendSequence
    · rw [if_pos exhausted] at failed
      cases failed
      exact iff_of_true rfl fun within => absurd exhausted (Nat.not_lt.mpr within)
    · rw [if_neg exhausted] at failed
      have within := Nat.le_of_not_lt exhausted
      cases encrypted : A.encrypt e.transport.channel.sessionKeys.sendKey
          (bigEndian nonceLen e.transport.channel.sendSequence) plaintext ad with
      | none =>
        rw [encrypted] at failed
        cases failed
        exact iff_of_false nofun fun fits => nomatch (fits within).2
      | some ciphertext =>
        rw [encrypted] at failed
        by_cases wide : 256 ^ sequenceSize ≤ e.transport.channel.sendSequence
        · simp only [if_pos wide] at failed
          cases failed
          exact iff_of_false nofun fun fits => absurd (fits within).1 (Nat.not_lt.mpr wide)
        · simp only [if_neg wide, writeBinaryFrame] at failed
          have fits : e.transport.channel.sendSequence < 256 ^ sequenceSize ∧
              (some ciphertext).isSome = true := ⟨Nat.lt_of_not_le wide, rfl⟩
          have surfaces : error.isTransportError = true := by
            split at failed
            · cases failed
              rfl
            · split at failed
              · cases failed
                rfl
              · cases drains with
                | true => cases failed
                | false =>
                  cases failed
                  rfl
          exact iff_of_true surfaces fun _ => fits

/-! ## One read -/

theorem receive_frame_keeps (codec : JsonCodec M) (A : Aead) (transport : EncryptedTransport)
    (frame : Bytes) : (transport.receiveFrame codec A (.binary frame) []).1.channel.sessionKeys =
        transport.channel.sessionKeys ∧
      (transport.receiveFrame codec A (.binary frame) []).1.channel.sendSequence =
        transport.channel.sendSequence ∧
      (transport.receiveFrame codec A (.binary frame) []).1.written = transport.written ∧
      (transport.receiveFrame codec A (.binary frame) []).1.closed = transport.closed ∧
      (transport.receiveFrame codec A (.binary frame) []).1.channel.expectedRecvSequence ≤
        transport.channel.expectedRecvSequence + 1 := by
  have still : transport.channel.expectedRecvSequence ≤
    transport.channel.expectedRecvSequence + 1 := Nat.le_succ _
  unfold receiveFrame
  split
  · exact ⟨rfl, rfl, rfl, rfl, still⟩
  · dsimp only
    split
    · exact ⟨rfl, rfl, rfl, rfl, still⟩
    · split
      · exact ⟨rfl, rfl, rfl, rfl, still⟩
      · next done =>
        obtain ⟨_, _, rfl⟩ := decrypt_ok done
        exact ⟨rfl, rfl, rfl, rfl, Nat.le_refl _⟩

def Numbers (A : Aead) (key : Bytes) (k : Nat) (frame plaintext : Bytes) : Prop :=
  ∃ ciphertext, A.encrypt key (bigEndian nonceLen k) plaintext [] = some ciphertext ∧
    frame = bigEndian sequenceSize k ++ ciphertext ∧ k < 256 ^ sequenceSize

section Reads
variable {key : Bytes} {k : Nat} {frame plaintext : Bytes}

theorem numbered_sequence (numbers : Numbers A key k frame plaintext) :
    ofBigEndian (frame.take sequenceSize) = k := by
  obtain ⟨_, _, rfl, small⟩ := numbers
  have header := length_bigEndian sequenceSize k
  rw [take_left' header, ofBigEndian_bigEndian, Nat.mod_eq_of_lt small]

theorem read_next (opens : A.Opens) (tagged : Tagged A) (opened : transport.closed = false)
    (same : transport.channel.sessionKeys.recvKey = key)
    (next : transport.channel.expectedRecvSequence = k)
    (numbers : Numbers A key k frame plaintext) :
    (transport.receiveFrame codec A (.binary frame) []).1.channel.expectedRecvSequence = k + 1 ∧
      (transport.receiveFrame codec A (.binary frame) []).2 =
        readInner codec plaintext := by
  have sequence := numbered_sequence numbers
  obtain ⟨ciphertext, encrypted, rfl, _⟩ := numbers
  have header := length_bigEndian sequenceSize k
  have sized : key.length = keyLen := same ▸ transport.channel.keysSized.2
  have long : ¬ (bigEndian sequenceSize k ++ ciphertext).length < minEncryptedPayloadLen := by
    have tag := tagged _ _ _ _ _ sized encrypted
    rw [length_append, header]
    unfold minEncryptedPayloadLen
    omega
  have within : ¬ maxSequence < k := by
    have narrow : 256 ^ sequenceSize ≤ maxSequence := by decide
    omega
  have decrypted : transport.channel.decrypt A k ciphertext [] =
      .ok ({ transport.channel with expectedRecvSequence := k + 1 }, plaintext) := by
    unfold SecureChannel.decrypt constructNonce
    simp only [next, ne_eq, not_true_eq_false, if_false, within, bind, Except.bind, same,
      opens _ _ _ _ _ encrypted]
  unfold receiveFrame
  rw [opened]
  simp only [Bool.false_eq_true, if_false, long, sequence, drop_left' header, decrypted,
    and_self]

theorem read_later (opened : transport.closed = false)
    (later : transport.channel.expectedRecvSequence < k)
    (numbers : Numbers A key k frame plaintext) (result : Received M) :
    (transport.receiveFrame codec A (.binary frame) []).2 ≠ .ok result := by
  have sequence := numbered_sequence numbers
  have rejected (ciphertext : Bytes) : transport.channel.decrypt A k ciphertext [] =
      .error (.replayOrReorder transport.channel.expectedRecvSequence k) := by
    unfold SecureChannel.decrypt
    rw [if_pos (Nat.ne_of_gt later)]
    rfl
  unfold receiveFrame
  rw [opened]
  simp only [Bool.false_eq_true, if_false]
  split
  · nofun
  · rw [sequence, rejected]
    nofun

end Reads

/-! ## One direction of the connection -/

structure Lane (A : Aead) (sendKey recvKey : Bytes) (counter : Nat) (written : List Bytes)
    (expected read : Nat) : Prop where
  key : recvKey = sendKey
  ahead : written.length ≤ counter
  within : read ≤ written.length
  behind : expected ≤ read
  clean : counter = written.length → expected = read ∧
    ∀ k frame, written[k]? = some frame → ∃ plaintext, Numbers A sendKey k frame plaintext

def Wire.Lane (A : Aead) (w : Wire M) (side : Side) : Prop :=
  Channel.Lane A (w.ends side).channel.sessionKeys.sendKey
    (w.ends side.other).channel.sessionKeys.recvKey (w.counter side) (w.written side)
    (w.ends side.other).channel.expectedRecvSequence (w.read side.other)

section Steps
variable {sendKey recvKey : Bytes} {counter expected read : Nat} {written : List Bytes}

theorem lane_wasted (lane : Lane A sendKey recvKey counter written expected read) :
    Lane A sendKey recvKey (counter + 1) written expected read := by
  refine ⟨lane.key, Nat.le_succ_of_le lane.ahead, lane.within, lane.behind, ?_⟩
  intro _
  have ahead := lane.ahead
  omega

theorem lane_sent (lane : Lane A sendKey recvKey counter written expected read)
    {plaintext ciphertext : Bytes}
    (encrypted : A.encrypt sendKey (bigEndian nonceLen counter) plaintext [] = some ciphertext)
    (packed : counter < 256 ^ sequenceSize) : Lane A sendKey recvKey (counter + 1)
      (written ++ [bigEndian sequenceSize counter ++ ciphertext]) expected read := by
  refine ⟨lane.key, ?_, ?_, lane.behind, ?_⟩
  · rw [length_append, length_singleton]
    exact Nat.succ_le_succ lane.ahead
  · rw [length_append, length_singleton]
    exact Nat.le_succ_of_le lane.within
  · intro same
    rw [length_append, length_singleton] at same
    have before : counter = written.length := by omega
    obtain ⟨counted, numbers⟩ := lane.clean before
    refine ⟨counted, fun k frame here => ?_⟩
    rw [getElem?_append] at here
    split at here
    · exact numbers k frame here
    · next beyond =>
      rw [getElem?_singleton] at here
      split at here
      · next first =>
        cases here
        have position : k = counter := by omega
        rw [position]
        exact ⟨plaintext, ciphertext, encrypted, rfl, packed⟩
      · cases here

theorem lane_read (opens : A.Opens) (tagged : Tagged A)
    (lane : Lane A sendKey transport.channel.sessionKeys.recvKey counter written
      transport.channel.expectedRecvSequence read) (opened : transport.closed = false)
    {frame : Bytes} (here : written[read]? = some frame) : Lane A sendKey
      (transport.receiveFrame codec A (.binary frame) []).1.channel.sessionKeys.recvKey counter
      written
      (transport.receiveFrame codec A (.binary frame) []).1.channel.expectedRecvSequence
      (read + 1) := by
  obtain ⟨keys, _, _, _, _⟩ := receive_frame_keeps codec A transport frame
  have behind := lane.behind
  rw [keys]
  refine ⟨lane.key, lane.ahead, index_lt here, by omega, ?_⟩
  intro same
  obtain ⟨counted, numbers⟩ := lane.clean same
  obtain ⟨_, numbered⟩ := numbers read frame here
  exact ⟨(read_next opens tagged opened lane.key counted numbered).1, numbers⟩

end Steps

theorem attempt_transport (codec : JsonCodec M) (A : Aead) (w : Wire M) (side : Side)
    (message : Message M) :
    ((w.step codec A (.attempt side (.message message))).ends side).transport =
      ((w.ends side).sendOne codec A [] true message).1 := by
  unfold Wire.step
  dsimp only
  rw [step_here]
  rfl

theorem attempt_peer (codec : JsonCodec M) (A : Aead) (w : Wire M) (side : Side)
    (message : Message M) :
    (w.step codec A (.attempt side (.message message))).ends side.other = w.ends side.other :=
  step_there codec A w.ends side _

section Run
variable {w : Wire M}

variable {message : Message M} {outcome : EncryptedTransport × Except ChannelError Unit}

theorem sends_keeps (sends : Sends codec A transport message ad outcome) :
    outcome.1.channel.sessionKeys = transport.channel.sessionKeys ∧
      outcome.1.channel.expectedRecvSequence = transport.channel.expectedRecvSequence := by
  cases sends with
  | refused channel | wasted _ channel | sent _ _ _ channel => rw [channel]; exact ⟨rfl, rfl⟩

theorem lane_sends (sends : Sends codec A transport message [] outcome) {recvKey : Bytes}
    {expected read : Nat}
    (lane : Lane A transport.channel.sessionKeys.sendKey recvKey transport.channel.sendSequence
      transport.written expected read) :
    Lane A outcome.1.channel.sessionKeys.sendKey recvKey outcome.1.channel.sendSequence
      outcome.1.written expected read := by
  cases sends with
  | refused channel written =>
    rw [channel, written]
    exact lane
  | wasted _ channel written =>
    rw [channel, written]
    exact lane_wasted lane
  | sent _ encrypted packed channel written =>
    rw [channel, written]
    exact lane_sent lane encrypted packed

theorem lane_attempt (lanes : ∀ side, w.Lane A side) (sender : Side) (message : Message M)
    (side : Side) : (w.step codec A (.attempt sender (.message message))).Lane A side := by
  have sends := send_one_sends codec A (w.ends sender) [] message
  have here := attempt_transport codec A w sender message
  have there := attempt_peer codec A w sender message
  unfold Wire.Lane Wire.counter Wire.written Endpoint.channel
  cases side using both_sides sender with
  | here =>
    rw [here, there]
    exact lane_sends sends (lanes sender)
  | there =>
    obtain ⟨keys, expected⟩ := sends_keeps sends
    rw [other_other, here, there, keys, expected]
    have before := lanes sender.other
    unfold Wire.Lane at before
    rw [other_other] at before
    exact before

theorem lane_receive (opens : A.Opens) (tagged : Tagged A) (lanes : ∀ side, w.Lane A side)
    (receiver side : Side) : (w.receive codec A receiver).Lane A side := by
  unfold Wire.receive
  split
  · exact lanes side
  · next opened =>
    split
    · exact lanes side
    · next frame next =>
      have here : (w.ends.step codec A (receiver, .receive (.binary frame) []) receiver).transport =
          ((w.ends receiver).transport.receiveFrame codec A (.binary frame) []).1 := by
        rw [step_here]
        rfl
      unfold Wire.Lane Wire.counter Wire.written Endpoint.channel
      cases side using both_sides receiver with
      | here =>
        obtain ⟨keys, sequence, written, _, _⟩ :=
          receive_frame_keeps codec A (w.ends receiver).transport frame
        dsimp only
        rw [here, step_there, keys, sequence, written, Function.update_of_ne (other_ne receiver)]
        exact lanes receiver
      | there =>
        have before := lanes receiver.other
        unfold Wire.Lane at before
        rw [other_other] at before
        dsimp only
        rw [other_other, here, step_there, Function.update_self]
        exact lane_read opens tagged before (Bool.eq_false_iff.mpr opened) next

theorem lanes_step (opens : A.Opens) (tagged : Tagged A) (lanes : ∀ side, w.Lane A side)
    (event : WireEvent M) (side : Side) : (w.step codec A event).Lane A side := by
  cases event with
  | attempt sender what =>
    cases what with
    | message message => exact lane_attempt lanes sender message side
    | notDict | notBytes => exact lanes side
  | receive receiver => exact lane_receive opens tagged lanes receiver side

theorem lanes_run (opens : A.Opens) (tagged : Tagged A) (lanes : ∀ side, w.Lane A side)
    (events : List (WireEvent M)) (side : Side) :
    (run (Wire.step codec A) w events).Lane A side := by
  revert side
  exact invariant_free (fun (v : Wire M) event (before : ∀ side, v.Lane A side) =>
    lanes_step opens tagged before event) lanes events

/-! ## The counter and the frames -/

inductive Counts (counter : Nat) (written : List Bytes) : Nat → List Bytes → Prop where
  | same : Counts counter written counter written
  | wasted : Counts counter written (counter + 1) written
  | sent (frame : Bytes) : Counts counter written (counter + 1) (written ++ [frame])

theorem sends_counts (sends : Sends codec A transport message ad outcome) :
    Counts transport.channel.sendSequence transport.written outcome.1.channel.sendSequence
      outcome.1.written := by
  cases sends with
  | refused channel written =>
    rw [channel, written]
    exact .same
  | wasted _ channel written =>
    rw [channel, written]
    exact .wasted
  | sent _ _ _ channel written =>
    rw [channel, written]
    exact .sent _

theorem receive_counts (codec : JsonCodec M) (A : Aead) (w : Wire M) (receiver side : Side) :
    Counts (w.counter side) (w.written side) ((w.receive codec A receiver).counter side)
      ((w.receive codec A receiver).written side) := by
  unfold Wire.receive
  split
  · exact .same
  · split
    · exact .same
    · next frame _ =>
      unfold Wire.counter Wire.written Endpoint.channel
      dsimp only
      cases side using both_sides receiver with
      | here =>
        obtain ⟨_, sequence, written, _, _⟩ :=
          receive_frame_keeps codec A (w.ends receiver).transport frame
        rw [step_here]
        unfold step
        rw [sequence, written]
        exact .same
      | there =>
        rw [step_there]
        exact .same

theorem attempt_counts (codec : JsonCodec M) (A : Aead) (w : Wire M) (sender : Side)
    (message : Message M) (side : Side) : Counts (w.counter side) (w.written side)
      ((w.step codec A (.attempt sender (.message message))).counter side)
      ((w.step codec A (.attempt sender (.message message))).written side) := by
  unfold Wire.step Wire.counter Wire.written Endpoint.channel
  dsimp only
  cases side using both_sides sender with
  | here =>
    rw [step_here]
    exact sends_counts (send_one_sends codec A (w.ends sender) [] message)
  | there =>
    rw [step_there]
    exact .same

theorem step_counts (codec : JsonCodec M) (A : Aead) (w : Wire M) (event : WireEvent M)
    (side : Side) : Counts (w.counter side) (w.written side) ((w.step codec A event).counter side)
      ((w.step codec A event).written side) := by
  cases event with
  | attempt sender what =>
    cases what with
    | message message => exact attempt_counts codec A w sender message side
    | notDict | notBytes => exact .same
  | receive receiver => exact receive_counts codec A w receiver side

def Wire.Clean (w : Wire M) (side : Side) : Prop := w.counter side = (w.written side).length

variable {side : Side}

theorem clean_step_iff (clean : w.Clean side) (event : WireEvent M) :
    (w.step codec A event).Clean side ↔ Wire.Spares codec A side w event := by
  unfold Wire.Clean at clean
  unfold Wire.Clean Wire.Spares
  have counts := step_counts codec A w event side
  generalize (w.step codec A event).counter side = counter at counts ⊢
  generalize (w.step codec A event).written side = written at counts ⊢
  cases counts with
  | same => exact iff_of_true clean (.inl rfl)
  | wasted =>
    refine iff_of_false ?_ ?_
    · omega
    · rintro (still | moved)
      · omega
      · exact moved rfl
  | sent =>
    refine iff_of_true ?_ (.inr ?_)
    · rw [length_append, length_singleton, clean]
    · simp

theorem ahead_stays (ahead : (w.written side).length < w.counter side)
    (events : List (WireEvent M)) : ((run (Wire.step codec A) w events).written side).length <
      (run (Wire.step codec A) w events).counter side := by
  refine invariant_free
    (fun (v : Wire M) event (before : (v.written side).length < v.counter side) => ?_) ahead events
  have counts := step_counts codec A v event side
  generalize (v.step codec A event).counter side = counter at counts ⊢
  generalize (v.step codec A event).written side = written at counts ⊢
  cases counts with
  | same => exact before
  | wasted => omega
  | sent =>
    rw [length_append, length_singleton]
    omega

theorem clean_run_iff (opens : A.Opens) (tagged : Tagged A) (lanes : ∀ side, w.Lane A side)
    (clean : w.Clean side) (events : List (WireEvent M)) :
    (run (Wire.step codec A) w events).Clean side ↔
      Along (Wire.step codec A) (Wire.Spares codec A side) w events := by
  induction events generalizing w with
  | nil => exact iff_of_true clean trivial
  | cons event events ih =>
    have after : ∀ side, (w.step codec A event).Lane A side := lanes_step opens tagged lanes event
    rw [run_cons, Along, ← clean_step_iff clean]
    by_cases spared : (w.step codec A event).Clean side
    · rw [ih after spared]
      exact (and_iff_right spared).symm
    · refine iff_of_false ?_ fun both => spared both.1
      have ahead : ((w.step codec A event).written side).length <
          (w.step codec A event).counter side :=
        Nat.lt_of_le_of_ne (after side).ahead (Ne.symm spared)
      exact Nat.ne_of_gt (ahead_stays ahead events)

/-! ## The next accepted send -/

structure ReadOn (receiver : Side) (n : Nat) (w v : Wire M) : Prop where
  read : v.read receiver = w.read receiver + n
  written : v.written receiver.other = w.written receiver.other
  counter : v.counter receiver.other = w.counter receiver.other
  opened : (v.ends receiver).transport.closed = false
  keys : (v.ends receiver).channel.sessionKeys = (w.ends receiver).channel.sessionKeys

theorem receive_reads {receiver : Side} (opened : (w.ends receiver).transport.closed = false)
    (more : w.read receiver < (w.written receiver.other).length) :
    ReadOn receiver 1 w (w.step codec A (.receive receiver)) := by
  have next := getElem?_eq_getElem more
  have stepped : w.step codec A (.receive receiver) =
      ⟨w.ends.step codec A
          (receiver, .receive (.binary (w.written receiver.other)[w.read receiver]) []),
        Function.update w.read receiver (w.read receiver + 1)⟩ := by
    simp [Wire.step, Wire.receive, opened, next]
  have kept := receive_frame_keeps codec A (w.ends receiver).transport
    (w.written receiver.other)[w.read receiver]
  rw [stepped]
  constructor
  · exact Function.update_self ..
  · unfold Wire.written
    dsimp only
    rw [step_there]
  · unfold Wire.counter
    dsimp only
    rw [step_there]
  · dsimp only
    rw [step_here]
    exact kept.2.2.2.1.trans opened
  · dsimp only
    rw [step_here]
    exact kept.1

theorem receives_read {receiver : Side} (opened : (w.ends receiver).transport.closed = false)
    (n : Nat) (enough : w.read receiver + n ≤ (w.written receiver.other).length) :
    ReadOn receiver n w
      (run (Wire.step codec A) w (List.replicate n (.receive receiver))) := by
  induction n generalizing w with
  | zero => exact ⟨rfl, rfl, rfl, opened, rfl⟩
  | succ _ ih =>
    have once : ReadOn receiver 1 w (w.step codec A (.receive receiver)) :=
      receive_reads opened (by omega)
    have rest := ih once.opened (by rw [once.read, once.written]; omega)
    rw [replicate_succ, run_cons]
    refine ⟨?_, rest.written.trans once.written, rest.counter.trans once.counter, rest.opened,
      rest.keys.trans once.keys⟩
    rw [rest.read, once.read]
    omega

structure SentOn (A : Aead) (side : Side) (plaintext frame : Bytes) (w v : Wire M) : Prop where
  numbers : Numbers A (w.ends side).channel.sessionKeys.sendKey (w.counter side) frame plaintext
  written : v.written side = w.written side ++ [frame]
  counter : v.counter side = w.counter side + 1
  read : v.read = w.read
  receiver : v.ends side.other = w.ends side.other

theorem accepted_sends (accepted : ((w.ends side).sendOne codec A [] true message).2 = .ok ()) :
    ∃ plaintext frame, codec.inner message = some plaintext ∧
      SentOn A side plaintext frame w (w.step codec A (.attempt side (.message message))) := by
  have sends := send_one_sends codec A (w.ends side) [] message
  have here := attempt_transport codec A w side message
  generalize (w.ends side).sendOne codec A [] true message = outcome at sends accepted here
  cases sends with
  | refused | wasted => cases accepted
  | @sent after plaintext ciphertext inner encrypted packed channel written =>
    refine ⟨plaintext, _, inner, ⟨ciphertext, encrypted, rfl, packed⟩, ?_, ?_, rfl,
      step_there codec A w.ends side _⟩
    · unfold Wire.written
      rw [here]
      exact written
    · unfold Wire.counter Endpoint.channel
      rw [here, channel]
      rfl

theorem accepted_iff_clean (reads : codec.ReadsBack) (opens : A.Opens) (tagged : Tagged A)
    (lanes : ∀ side, w.Lane A side)
    (accepted : ((w.ends side).sendOne codec A [] true message).2 = .ok ())
    (opened : (w.ends side.other).transport.closed = false) :
    w.Accepts codec A side message ↔ w.Clean side := by
  obtain ⟨_, frame, inner, sent⟩ := accepted_sends accepted
  unfold Wire.Accepts
  dsimp only
  have after : ∀ s, (w.step codec A (.attempt side (.message message))).Lane A s :=
    lane_attempt lanes side message
  generalize w.step codec A (.attempt side (.message message)) = v at sent after
  have length : (v.written side).length = (w.written side).length + 1 := by
    rw [sent.written, length_append, length_singleton]
  have within : w.read side.other ≤ (w.written side).length := (lanes side).within
  have behind : (v.written side).length - v.read side.other - 1 =
      (w.written side).length - w.read side.other := by
    rw [length, sent.read]
    omega
  have last : (v.written side).getLast? = some frame := by rw [sent.written]; simp
  have still : (v.ends side.other).transport.closed = false := by rw [sent.receiver]; exact opened
  rw [behind]
  have on : ReadOn side.other ((w.written side).length - w.read side.other) v
      (run (Wire.step codec A) v (List.replicate _ (.receive side.other))) :=
    receives_read still _ (by rw [other_other, length, sent.read]; omega)
  have ready : (run (Wire.step codec A) v (List.replicate
      ((w.written side).length - w.read side.other) (.receive side.other))).Lane A side :=
    lanes_run opens tagged after _ side
  generalize run (Wire.step codec A) v _ = u at on ready
  have written := on.written
  have counter := on.counter
  rw [other_other] at written counter
  have upto : u.read side.other = (w.written side).length := by
    rw [on.read, sent.read]
    omega
  have key : (u.ends side.other).channel.sessionKeys.recvKey =
      (w.ends side).channel.sessionKeys.sendKey := by
    rw [on.keys, sent.receiver]
    exact (lanes side).key
  constructor
  · rintro ⟨_, found, returned⟩
    cases last.symm.trans found
    have least := (lanes side).ahead
    have behind := ready.behind
    by_contra ahead
    have later : (u.ends side.other).channel.expectedRecvSequence < w.counter side := by
      unfold Wire.Clean at ahead
      omega
    exact read_later on.opened later sent.numbers _ returned
  · intro clean
    have same : u.counter side = (u.written side).length := by
      rw [counter, written, sent.counter, length, clean]
    obtain ⟨counted, _⟩ := ready.clean same
    have next : (u.ends side.other).channel.expectedRecvSequence = w.counter side := by
      rw [counted, upto, clean]
    refine ⟨frame, last, ?_⟩
    rw [(read_next opens tagged on.opened key next sent.numbers).2]
    exact read_inner_reads_back reads inner

end Run

/-! ## Rejected sends -/

theorem rejected_message_counts {message : Message M} {error : ChannelError}
    (failed : (e.sendOne codec A [] true message).2 = .error error)
    (surfaces : error.isTransportError = true)
    (stays : (e.sendOne codec A [] true message).1.closed = false) :
    (e.sendOne codec A [] true message).1.channel.sendSequence ≠ e.channel.sendSequence := by
  obtain ⟨_, inner, fits⟩ := (send_error_iff failed).mp surfaces
  unfold Endpoint.channel at fits
  rw [send_one_eq, inner] at stays ⊢
  dsimp only at stays ⊢
  rw [send_encrypted_eq, wire_payload_eq] at stays ⊢
  by_cases exhausted : maxSequence < e.transport.channel.sendSequence
  · rw [if_pos exhausted] at stays
    cases stays
  · obtain ⟨narrow, encrypts⟩ := fits (Nat.le_of_not_lt exhausted)
    obtain ⟨_, encrypted⟩ := Option.isSome_iff_exists.mp encrypts
    simp only [if_neg exhausted, encrypted, if_neg (Nat.not_le.mpr narrow), write_channel]
    exact Nat.succ_ne_self _

theorem rejected_spares_iff {w : Wire M} {side : Side} {what : Attempt M}
    (rejects : w.Rejects codec A side what) :
    Wire.Spares codec A side w (.attempt side what) ↔ ∀ message, what ≠ .message message := by
  obtain ⟨⟨error, failed, surfaces⟩, nothing, stays⟩ := rejects
  cases what with
  | notDict | notBytes => exact iff_of_true (.inl rfl) nofun
  | message message =>
    have here := attempt_transport codec A w side message
    have still := here ▸ stays
    refine iff_of_false ?_ fun none => none message rfl
    rintro (same | changed)
    · unfold Wire.counter Endpoint.channel at same
      rw [here] at same
      cases result : ((w.ends side).sendOne codec A [] true message).2 with
      | ok => simp [attempt, result, Except.mapError] at failed
      | error =>
        simp only [attempt, result, Except.mapError, Except.error.injEq] at failed
        subst failed
        exact rejected_message_counts result surfaces still same
    · exact changed nothing

theorem attempt_error_iff {drains : Bool} {what : Attempt M} {error : AttemptError}
    (failed : (e.attempt codec A ad drains what).2 = .error error) :
    error.isTransportError = true ↔ ∀ message, what = .message message →
      ∃ plaintext, codec.inner message = some plaintext ∧
        (e.channel.sendSequence ≤ maxSequence → e.channel.sendSequence < 256 ^ sequenceSize ∧
          (A.encrypt e.channel.sessionKeys.sendKey (bigEndian nonceLen e.channel.sendSequence)
            plaintext ad).isSome = true) := by
  cases what with
  | notDict | notBytes =>
    cases failed
    exact iff_of_true rfl nofun
  | message message =>
    cases result : (e.sendOne codec A ad drains message).2 with
    | ok => simp [attempt, result, Except.mapError] at failed
    | error =>
      simp only [attempt, result, Except.mapError, Except.error.injEq] at failed
      subst failed
      simp only [Attempt.message.injEq, forall_eq']
      exact send_error_iff result

theorem start_lanes {keys keys' : SessionKeys} (crossed : keys'.recvKey = keys.sendKey)
    (crossed' : keys.recvKey = keys'.sendKey) {initiator responder : SecureChannel}
    (made : create keys = .ok initiator)
    (made' : create keys' = .ok responder) (side : Side) :
    (Wire.start initiator responder : Wire M).Lane A side := by
  obtain ⟨_, rfl⟩ := create_ok made
  obtain ⟨_, rfl⟩ := create_ok made'
  cases side with
  | initiator => exact ⟨crossed, Nat.le_refl _, Nat.le_refl _, Nat.le_refl _, fun _ => ⟨rfl, nofun⟩⟩
  | responder => exact ⟨crossed', Nat.le_refl _, Nat.le_refl _, Nat.le_refl _,
      fun _ => ⟨rfl, nofun⟩⟩

theorem rejected_sends (codec : JsonCodec M) (A : Aead) (reads : codec.ReadsBack)
    (opens : A.Opens) (tagged : Tagged A) {keys keys' : SessionKeys}
    (crossed : keys'.recvKey = keys.sendKey) (crossed' : keys.recvKey = keys'.sendKey)
    {initiator responder : SecureChannel} (made : create keys = .ok initiator)
    (made' : create keys' = .ok responder) :
    (∀ (events : List (WireEvent M)) (w : Wire M) (side : Side) (message : Message M),
      w = run (Wire.step codec A) (.start initiator responder) events →
        (w.ends side.other).transport.closed = false →
          ((w.ends side).sendOne codec A [] true message).2 = .ok () →
            (w.Accepts codec A side message ↔ Along (Wire.step codec A)
              (Wire.Spares codec A side) (.start initiator responder) events)) ∧
      (∀ (w : Wire M) (side : Side) (what : Attempt M), w.Rejects codec A side what →
        (Wire.Spares codec A side w (.attempt side what) ↔
          ∀ message, what ≠ .message message)) ∧
      ∀ (e : Endpoint M) (ad : Bytes) (drains : Bool) (what : Attempt M) (error : AttemptError),
        (e.attempt codec A ad drains what).2 = .error error →
          (error.isTransportError = true ↔ ∀ message, what = .message message →
            ∃ plaintext, codec.inner message = some plaintext ∧
              (e.channel.sendSequence ≤ maxSequence →
                e.channel.sendSequence < 256 ^ sequenceSize ∧
                  (A.encrypt e.channel.sessionKeys.sendKey
                    (bigEndian nonceLen e.channel.sendSequence) plaintext ad).isSome = true)) := by
  refine ⟨?_, fun w side what rejects => rejected_spares_iff rejects,
    fun e ad drains what error failed => attempt_error_iff failed⟩
  intro events w side _ reached opened accepted
  have start : ∀ s, (Wire.start initiator responder : Wire M).Lane A s :=
    start_lanes crossed crossed' made made'
  have clean : (Wire.start initiator responder : Wire M).Clean side := by
    obtain ⟨_, rfl⟩ := create_ok made
    obtain ⟨_, rfl⟩ := create_ok made'
    cases side <;> rfl
  have lanes : ∀ s, w.Lane A s := by
    rw [reached]
    exact lanes_run opens tagged start events
  rw [accepted_iff_clean reads opens tagged lanes accepted opened, reached]
  exact clean_run_iff opens tagged start clean events

section Sample

theorem labelled_tagged : Tagged labelled := by
  intro _ _ _ _ _ sized encrypted
  cases encrypted
  simp only [Peerc.sized, length_append, be32, length_cons, length_nil, sized, keyLen]
  omega

def freshWire : Wire Bytes := .start (sampleChannel true) (sampleChannel false)

def oversized : Bytes := List.replicate maxMessageSize 0

def pastOversized : EncryptedTransport :=
  { (freshWire.ends .initiator).transport with
    channel := (sampleChannel true).advanced (typeBinary :: oversized) [] }

theorem oversized_refused : ∃ length,
    (freshWire.ends .initiator).sendOne plainCodec labelled [] true (.binary oversized) =
      (pastOversized, .error (.frameTooLarge length)) := by
  have small : ¬ maxSequence < (freshWire.ends .initiator).transport.channel.sendSequence := by
    decide
  have packs : ¬ 256 ^ sequenceSize ≤
      (freshWire.ends .initiator).transport.channel.sendSequence := by decide
  have large (front : Bytes) : maxMessageSize < (front ++ typeBinary :: oversized).length := by
    rw [length_append, length_cons, oversized, length_replicate]
    omega
  rw [send_one_eq]
  dsimp only [JsonCodec.inner]
  rw [send_encrypted_eq, wire_payload_eq, if_neg small]
  dsimp only [labelled]
  rw [if_neg packs, ← append_assoc]
  dsimp only [writeBinaryFrame]
  rw [if_neg (by decide), if_pos (large _)]
  exact ⟨_, rfl⟩

-- Stated of any wire in this state: evaluating the one at hand would run the send, which
-- counts a hundred million bytes.
theorem past_oversized_open {w : Wire Bytes}
    (transport : (w.ends .initiator).transport = pastOversized) :
    w.written .initiator = freshWire.written .initiator ∧
      (w.ends .initiator).transport.closed = false := by
  have written : w.written .initiator = [] := congrArg written transport
  exact ⟨written, congrArg closed transport⟩

theorem oversized_rejected :
    freshWire.Rejects plainCodec labelled .initiator (.message (.binary oversized)) := by
  obtain ⟨length, outcome⟩ := oversized_refused
  have transport := attempt_transport plainCodec labelled freshWire .initiator
    (.binary oversized)
  rw [outcome] at transport
  obtain ⟨written, stays⟩ := past_oversized_open transport
  refine ⟨⟨.channel (.frameTooLarge length), ?_, rfl⟩, written, stays⟩
  unfold attempt
  dsimp only
  rw [outcome]
  rfl

def wideCounter : Endpoint Bytes :=
  .create { sampleChannel true with sendSequence := 256 ^ sequenceSize }

/-- A send, one that is refused for its type, and the receiver reads what was sent. -/
def refusedOnce : List (WireEvent Bytes) :=
  [.attempt .initiator (.message (.binary [1])), .attempt .initiator .notBytes,
    .receive .responder]

theorem refused_send_spares :
    (run (Wire.step plainCodec labelled) freshWire refusedOnce).Accepts plainCodec labelled
      .initiator (.binary [7]) ∧
    Wire.Spares plainCodec labelled .initiator
      (freshWire.step plainCodec labelled (.attempt .initiator (.message (.binary [1]))))
      (.attempt .initiator .notBytes) ∧
    ¬ Wire.Spares plainCodec labelled .initiator freshWire
      (.attempt .initiator (.message (.binary oversized))) ∧
    (∃ error, ((freshWire.ends .initiator).attempt plainCodec labelled [] true .notBytes).2 =
      .error error ∧ error.isTransportError = true) ∧
    ∃ error, (wideCounter.attempt plainCodec labelled [] true (.message (.binary [7]))).2 =
      .error error ∧ ¬ error.isTransportError = true := by
  obtain ⟨accepts, spares, surfaces⟩ := rejected_sends plainCodec labelled plain_reads_back
    labelled_opens labelled_tagged rfl rfl (sample_made true) (sample_made false)
  refine ⟨?_, ?_, ?_, ⟨_, rfl, ?_⟩, ⟨_, rfl, ?_⟩⟩
  · refine (accepts refusedOnce _ .initiator (.binary [7]) rfl rfl rfl).mpr ?_
    exact ⟨.inr (by decide), .inl rfl, .inl rfl, trivial⟩
  · refine (spares _ .initiator .notBytes ⟨⟨_, rfl, rfl⟩, rfl, rfl⟩).mpr ?_
    intro _ same
    cases same
  · rw [spares freshWire .initiator _ oversized_rejected]
    exact fun none => none _ rfl
  · refine (surfaces (freshWire.ends .initiator) [] true .notBytes _ rfl).mpr ?_
    intro _ same
    cases same
  · rw [surfaces wideCounter [] true (.message (.binary [7])) _ rfl]
    intro fits
    obtain ⟨_, _, narrow⟩ := fits _ rfl
    exact absurd (narrow (by decide)).1 (by decide)

def poisonedWire : Wire Bytes :=
  freshWire.step plainCodec labelled (.attempt .initiator (.message (.binary oversized)))

theorem past_oversized_poisoned {w : Wire Bytes} (lanes : ∀ side, w.Lane labelled side)
    (transport : (w.ends .initiator).transport = pastOversized)
    (peer : w.ends Side.initiator.other = freshWire.ends .responder) :
    ((w.ends .initiator).sendOne plainCodec labelled [] true (.binary [7])).2 = .ok () ∧
      ¬ w.Accepts plainCodec labelled .initiator (.binary [7]) := by
  have accepted : ((w.ends .initiator).sendOne plainCodec labelled [] true
      (.binary [7])).2 = .ok () := by
    rw [send_one_eq, transport]
    rfl
  have opened : (w.ends Side.initiator.other).transport.closed = false := by
    rw [peer]
    rfl
  refine ⟨accepted, fun accepts => ?_⟩
  have clean : w.Clean .initiator :=
    (accepted_iff_clean plain_reads_back labelled_opens labelled_tagged lanes accepted
      opened).mp accepts
  have counter : w.counter .initiator = 1 := congrArg (·.channel.sendSequence) transport
  have written : w.written .initiator = [] := congrArg written transport
  rw [Wire.Clean, counter, written] at clean
  cases clean

theorem oversized_send_poisons :
    freshWire.Rejects plainCodec labelled .initiator (.message (.binary oversized)) ∧
      ((poisonedWire.ends .initiator).sendOne plainCodec labelled [] true (.binary [7])).2 =
        .ok () ∧
      ¬ poisonedWire.Accepts plainCodec labelled .initiator (.binary [7]) ∧
      (wideCounter.attempt plainCodec labelled [] true (.message (.binary [7]))).2 =
        .error (.channel (.headerRange (256 ^ sequenceSize))) := by
  have start : ∀ side, freshWire.Lane labelled side :=
    start_lanes rfl rfl (sample_made true) (sample_made false)
  obtain ⟨_, outcome⟩ := oversized_refused
  have transport := attempt_transport plainCodec labelled freshWire .initiator
    (.binary oversized)
  rw [outcome] at transport
  have lanes : ∀ side, (freshWire.step plainCodec labelled
      (.attempt .initiator (.message (.binary oversized)))).Lane labelled side :=
    lane_attempt start .initiator (.binary oversized)
  have peer := attempt_peer plainCodec labelled freshWire .initiator (.binary oversized)
  obtain ⟨accepted, refused⟩ := past_oversized_poisoned lanes transport peer
  exact ⟨oversized_rejected, accepted, refused, rfl⟩

end Sample

end Peerc.Channel
