import Peerc.Handshake.Kdf
import Peerc.Lib.Aead

/-!
The encrypted transport of a session: one counter and one key per direction, the counter as
nonce and in front of the ciphertext. The network decides what each read returns.
-/
namespace Peerc.Channel
open Handshake (SessionKeys)
variable {M : Type}

def nonceLen : Nat := 12

def keyLen : Nat := 32

def maxSequence : Nat := 2 ^ (nonceLen * 8) - 1

inductive ChannelError where
  | keyLength
  | sequenceExhausted (sequence : Nat)
  | plaintextTooLong
  | decryption
  | replayOrReorder (expected sequence : Nat)
  | unserialisable
  | headerRange (sequence : Nat)
  | frameTooLarge (length : Nat)
  | notBinary
  | frameTooShort (length : Nat)
  | readError
  | emptyPayload
  | malformedJson
  | connectionClosed
  deriving DecidableEq

def ChannelError.isTransportError : ChannelError → Bool
  | .keyLength => false
  | .sequenceExhausted _ => true
  | .plaintextTooLong => false
  | .decryption => false
  | .replayOrReorder _ _ => false
  | .unserialisable => false
  | .headerRange _ => false
  | .frameTooLarge _ => true
  | .notBinary => true
  | .frameTooShort _ => true
  | .readError => true
  | .emptyPayload => true
  | .malformedJson => true
  | .connectionClosed => true

def constructNonce (sequence : Nat) : Except ChannelError Bytes :=
  if maxSequence < sequence then .error (.sequenceExhausted sequence)
  else .ok (bigEndian nonceLen sequence)

structure EncryptedFrame where
  sequence : Nat
  ciphertext : Bytes

/-- used is a history variable: every encryption the send cipher has made. -/
structure SecureChannel where
  sessionKeys : SessionKeys
  sendSequence : Nat
  expectedRecvSequence : Nat
  used : List Encryption
  keysSized : sessionKeys.sendKey.length = keyLen ∧ sessionKeys.recvKey.length = keyLen

namespace SecureChannel

def create (keys : SessionKeys) : Except ChannelError SecureChannel :=
  if fits : keys.sendKey.length = keyLen ∧ keys.recvKey.length = keyLen then
    .ok ⟨keys, 0, 0, [], fits⟩
  else .error .keyLength

def encrypt (A : Aead) (channel : SecureChannel) (plaintext ad : Bytes) :
    Except ChannelError (SecureChannel × EncryptedFrame) := do
  let nonce ← constructNonce channel.sendSequence
  match A.encrypt channel.sessionKeys.sendKey nonce plaintext ad with
  | none => .error .plaintextTooLong
  | some ciphertext =>
      .ok ({ channel with
              sendSequence := channel.sendSequence + 1
              used := channel.used ++ [⟨channel.sessionKeys.sendKey, nonce, plaintext, ad⟩] },
            ⟨channel.sendSequence, ciphertext⟩)

def decrypt (A : Aead) (channel : SecureChannel) (sequence : Nat) (ciphertext ad : Bytes) :
    Except ChannelError (SecureChannel × Bytes) := do
  if sequence ≠ channel.expectedRecvSequence then
    throw (.replayOrReorder channel.expectedRecvSequence sequence)
  let nonce ← constructNonce sequence
  match A.decrypt channel.sessionKeys.recvKey nonce ciphertext ad with
  | none => .error .decryption
  | some plaintext =>
      .ok ({ channel with expectedRecvSequence := channel.expectedRecvSequence + 1 }, plaintext)

end SecureChannel

structure JsonCodec (M : Type) where
  dumps : M → Option Bytes
  loads : Bytes → Option M

inductive Message (M : Type) where
  | json (message : M)
  | binary (payload : Bytes)
  | relay (payload : Bytes)
  deriving DecidableEq

inductive Received (M : Type) where
  | message (message : Message M)
  | raw (plaintext : Bytes)
  deriving DecidableEq

def typeJson : UInt8 := 74

def typeBinary : UInt8 := 66

def typeRelay : UInt8 := 82

def sequenceSize : Nat := 8

def minEncryptedPayloadLen : Nat := sequenceSize + 16

def maxMessageSize : Nat := 100 * 1024 * 1024

structure EncryptedTransport where
  channel : SecureChannel
  closed : Bool
  written : List Bytes

inductive Incoming where
  | json
  | binary (payload : Bytes)
  | lost
  | malformed
  deriving DecidableEq

namespace EncryptedTransport

/-- A drain that fails finds the frame handed to the socket already. -/
def writeBinaryFrame (transport : EncryptedTransport) (payload : Bytes) (drains : Bool) :
    EncryptedTransport × Except ChannelError Unit :=
  if transport.closed then (transport, .error .connectionClosed)
  else if maxMessageSize < payload.length then
    (transport, .error (.frameTooLarge payload.length))
  else
    ({ transport with written := transport.written ++ [payload], closed := !drains },
      if drains then .ok () else .error .connectionClosed)

def sendEncrypted (A : Aead) (transport : EncryptedTransport) (innerPayload ad : Bytes)
    (drains : Bool) : EncryptedTransport × Except ChannelError Unit :=
  match transport.channel.encrypt A innerPayload ad with
  | .error (.sequenceExhausted sequence) =>
      ({ transport with closed := true }, .error (.sequenceExhausted sequence))
  | .error e => (transport, .error e)
  | .ok (channel, frame) =>
      -- The counter has moved on whatever happens to the frame.
      let transport := { transport with channel := channel }
      if 256 ^ sequenceSize ≤ frame.sequence then (transport, .error (.headerRange frame.sequence))
      else
        transport.writeBinaryFrame (bigEndian sequenceSize frame.sequence ++ frame.ciphertext)
          drains

/-- The part of _send_encrypted before the write: the payload of the frame. -/
def wirePayload (A : Aead) (transport : EncryptedTransport) (innerPayload ad : Bytes) :
    EncryptedTransport × Except ChannelError Bytes :=
  match transport.channel.encrypt A innerPayload ad with
  | .error (.sequenceExhausted sequence) =>
      ({ transport with closed := true }, .error (.sequenceExhausted sequence))
  | .error e => (transport, .error e)
  | .ok (channel, frame) =>
      ({ transport with channel := channel },
        if 256 ^ sequenceSize ≤ frame.sequence then .error (.headerRange frame.sequence)
        else .ok (bigEndian sequenceSize frame.sequence ++ frame.ciphertext))

variable (codec : JsonCodec M)

def sendMessage (A : Aead) (transport : EncryptedTransport) (message : M) (ad : Bytes)
    (drains : Bool) : EncryptedTransport × Except ChannelError Unit :=
  match codec.dumps message with
  | none => (transport, .error .unserialisable)
  | some rawJson => transport.sendEncrypted A (typeJson :: rawJson) ad drains

def sendBinary (A : Aead) (transport : EncryptedTransport) (payload ad : Bytes) (drains : Bool) :
    EncryptedTransport × Except ChannelError Unit :=
  transport.sendEncrypted A (typeBinary :: payload) ad drains

def sendRelay (A : Aead) (transport : EncryptedTransport) (payload ad : Bytes) (drains : Bool) :
    EncryptedTransport × Except ChannelError Unit :=
  transport.sendEncrypted A (typeRelay :: payload) ad drains

def readInner : Bytes → Except ChannelError (Received M)
  | [] => .error .emptyPayload
  | marker :: body =>
      if marker = typeJson then
        match codec.loads body with
        | some message => .ok (.message (.json message))
        | none => .error .malformedJson
      else if marker = typeBinary then .ok (.message (.binary body))
      else if marker = typeRelay then .ok (.message (.relay body))
      else .ok (.raw (marker :: body))

def receiveFrame (A : Aead) (transport : EncryptedTransport) (incoming : Incoming) (ad : Bytes) :
    EncryptedTransport × Except ChannelError (Received M) :=
  if transport.closed then (transport, .error .connectionClosed)
  else
    match incoming with
    | .lost => ({ transport with closed := true }, .error .connectionClosed)
    | .malformed => (transport, .error .readError)
    | .json => (transport, .error .notBinary)
    | .binary wirePayload =>
        if wirePayload.length < minEncryptedPayloadLen then
          (transport, .error (.frameTooShort wirePayload.length))
        else
          match transport.channel.decrypt A (ofBigEndian (wirePayload.take sequenceSize))
              (wirePayload.drop sequenceSize) ad with
          | .error e => (transport, .error e)
          | .ok (channel, plaintext) =>
              -- The counter has moved on before the plaintext is looked at.
              ({ transport with channel := channel }, readInner codec plaintext)

end EncryptedTransport

open EncryptedTransport

/-! ## Two ends and the network between them -/

structure Endpoint (M : Type) where
  transport : EncryptedTransport
  sent : List (Message M)
  accepted : List (Received M)

inductive Action (M : Type) where
  | send (message : Message M) (ad : Bytes) (drains : Bool)
  | receive (incoming : Incoming) (ad : Bytes)

namespace Endpoint

abbrev channel (e : Endpoint M) : SecureChannel := e.transport.channel

def create (channel : SecureChannel) : Endpoint M := ⟨⟨channel, false, []⟩, [], []⟩

def sendOne (codec : JsonCodec M) (A : Aead) (e : Endpoint M) (ad : Bytes) (drains : Bool) :
    Message M → EncryptedTransport × Except ChannelError Unit
  | .json message => e.transport.sendMessage codec A message ad drains
  | .binary payload => e.transport.sendBinary A payload ad drains
  | .relay payload => e.transport.sendRelay A payload ad drains

def step (codec : JsonCodec M) (A : Aead) (e : Endpoint M) : Action M → Endpoint M
  | .send message ad drains =>
      let transport := (e.sendOne codec A ad drains message).1
      { e with
        transport := transport
        sent := if transport.channel.sendSequence = e.channel.sendSequence then e.sent
          else e.sent ++ [message] }
  | .receive incoming ad =>
      let result := e.transport.receiveFrame codec A incoming ad
      { e with
        transport := result.1
        accepted := e.accepted ++ result.2.toOption.toList }

end Endpoint

inductive Side where
  | initiator
  | responder
  deriving DecidableEq

def Side.other : Side → Side
  | .initiator => .responder
  | .responder => .initiator

def World (M : Type) := Side → Endpoint M

variable (codec : JsonCodec M) (A : Aead)

def World.step (w : World M) (event : Side × Action M) : World M :=
  Function.update w event.1 ((w event.1).step codec A event.2)

def World.start (initiator responder : SecureChannel) : World M
  | .initiator => .create initiator
  | .responder => .create responder

/-! ## What one action does -/

def JsonCodec.inner : Message M → Option Bytes
  | .json message => (codec.dumps message).map (typeJson :: ·)
  | .binary payload => some (typeBinary :: payload)
  | .relay payload => some (typeRelay :: payload)

def SecureChannel.advanced (channel : SecureChannel) (plaintext ad : Bytes) : SecureChannel :=
  { channel with
    sendSequence := channel.sendSequence + 1
    used := channel.used ++
      [⟨channel.sessionKeys.sendKey, bigEndian nonceLen channel.sendSequence, plaintext, ad⟩] }

inductive Endpoint.Did (codec : JsonCodec M) (A : Aead) (e : Endpoint M) :
    Action M → SecureChannel → List (Message M) → List (Received M) → Prop
  | nothing {action} : Did codec A e action e.channel e.sent e.accepted
  | encrypted {message ad drains plaintext} (inner : codec.inner message = some plaintext)
      (range : e.channel.sendSequence ≤ maxSequence) :
      Did codec A e (.send message ad drains) (e.channel.advanced plaintext ad)
        (e.sent ++ [message]) e.accepted
  | opened {wirePayload ad plaintext} (range : e.channel.expectedRecvSequence ≤ maxSequence)
      (opens : A.decrypt e.channel.sessionKeys.recvKey
        (bigEndian nonceLen e.channel.expectedRecvSequence) (wirePayload.drop sequenceSize) ad =
          some plaintext) :
      Did codec A e (.receive (.binary wirePayload) ad)
        { e.channel with expectedRecvSequence := e.channel.expectedRecvSequence + 1 }
        e.sent
        (e.accepted ++ (readInner codec plaintext).toOption.toList)

theorem construct_nonce_ok {sequence : Nat} {nonce : Bytes}
    (made : constructNonce sequence = .ok nonce) :
    sequence ≤ maxSequence ∧ nonce = bigEndian nonceLen sequence := by
  unfold constructNonce at made
  split at made
  · cases made
  · next within =>
    cases made
    exact ⟨Nat.le_of_not_lt within, rfl⟩

theorem encrypt_ok {A : Aead} {channel after : SecureChannel} {plaintext ad : Bytes}
    {frame : EncryptedFrame} (done : channel.encrypt A plaintext ad = .ok (after, frame)) :
    channel.sendSequence ≤ maxSequence ∧ after = channel.advanced plaintext ad := by
  unfold SecureChannel.encrypt at done
  cases made : constructNonce channel.sendSequence with
  | error => rw [made] at done; cases done
  | ok =>
    obtain ⟨range, rfl⟩ := construct_nonce_ok made
    rw [made] at done
    simp only [bind, Except.bind] at done
    split at done
    · cases done
    · cases done
      exact ⟨range, rfl⟩

theorem decrypt_ok {A : Aead} {channel after : SecureChannel} {sequence : Nat}
    {ciphertext ad plaintext : Bytes}
    (done : channel.decrypt A sequence ciphertext ad = .ok (after, plaintext)) :
    channel.expectedRecvSequence ≤ maxSequence ∧
      A.decrypt channel.sessionKeys.recvKey (bigEndian nonceLen channel.expectedRecvSequence)
        ciphertext ad = some plaintext ∧
      after = { channel with expectedRecvSequence := channel.expectedRecvSequence + 1 } := by
  unfold SecureChannel.decrypt at done
  by_cases next : sequence = channel.expectedRecvSequence
  · subst next
    cases made : constructNonce channel.expectedRecvSequence with
    | error => simp [made, bind, Except.bind] at done
    | ok =>
      obtain ⟨range, rfl⟩ := construct_nonce_ok made
      simp only [ne_eq, not_true_eq_false, if_false, made, bind, Except.bind] at done
      split at done
      · cases done
      · next opens =>
        cases done
        exact ⟨range, opens, rfl⟩
  · simp [next, bind, Except.bind, throw, throwThe, MonadExceptOf.throw] at done

variable (transport : EncryptedTransport)

theorem write_channel (payload : Bytes) (drains : Bool) :
    (transport.writeBinaryFrame payload drains).1.channel = transport.channel := by
  unfold writeBinaryFrame
  split
  · rfl
  · split <;> rfl

theorem send_encrypted_eq (innerPayload ad : Bytes) (drains : Bool) :
    transport.sendEncrypted A innerPayload ad drains =
      match transport.wirePayload A innerPayload ad with
      | (after, .error e) => (after, .error e)
      | (after, .ok payload) => after.writeBinaryFrame payload drains := by
  unfold sendEncrypted wirePayload
  split
  · rfl
  · rfl
  · split <;> rfl

theorem send_encrypted_channel (innerPayload ad : Bytes) (drains : Bool) :
    (transport.sendEncrypted A innerPayload ad drains).1.channel = transport.channel ∨
      transport.channel.sendSequence ≤ maxSequence ∧
        (transport.sendEncrypted A innerPayload ad drains).1.channel =
          transport.channel.advanced innerPayload ad := by
  unfold sendEncrypted
  split
  · exact .inl rfl
  · exact .inl rfl
  · next channel frame done =>
    right
    obtain ⟨range, rfl⟩ := encrypt_ok done
    refine ⟨range, ?_⟩
    split
    · rfl
    · rw [write_channel]

theorem send_one_channel (e : Endpoint M) (ad : Bytes) (drains : Bool) (message : Message M) :
    (e.sendOne codec A ad drains message).1.channel = e.channel ∨
      ∃ plaintext, codec.inner message = some plaintext ∧
        e.channel.sendSequence ≤ maxSequence ∧
        (e.sendOne codec A ad drains message).1.channel = e.channel.advanced plaintext ad := by
  cases message with
  | json message =>
    unfold Endpoint.sendOne
    dsimp only
    unfold sendMessage
    cases dumped : codec.dumps message with
    | none => exact .inl rfl
    | some rawJson =>
      exact (send_encrypted_channel A e.transport (typeJson :: rawJson) ad drains).imp_right
        fun sent => ⟨typeJson :: rawJson, by simp [JsonCodec.inner, dumped], sent⟩
  | binary payload =>
    exact (send_encrypted_channel A e.transport (typeBinary :: payload) ad drains).imp_right
      fun sent => ⟨typeBinary :: payload, rfl, sent⟩
  | relay payload =>
    exact (send_encrypted_channel A e.transport (typeRelay :: payload) ad drains).imp_right
      fun sent => ⟨typeRelay :: payload, rfl, sent⟩

theorem receive_frame_cases (incoming : Incoming) (ad : Bytes) :
    ((transport.receiveFrame codec A incoming ad).1.channel = transport.channel ∧
      ∃ error, (transport.receiveFrame codec A incoming ad).2 = .error error) ∨
    ∃ wirePayload plaintext channel, incoming = .binary wirePayload ∧
      transport.channel.decrypt A (ofBigEndian (wirePayload.take sequenceSize))
        (wirePayload.drop sequenceSize) ad = .ok (channel, plaintext) ∧
      (transport.receiveFrame codec A incoming ad).1.channel = channel ∧
      (transport.receiveFrame codec A incoming ad).2 =
        readInner codec plaintext := by
  unfold receiveFrame
  split
  · exact .inl ⟨rfl, _, rfl⟩
  · cases incoming with
    | json | lost | malformed => exact .inl ⟨rfl, _, rfl⟩
    | binary wirePayload =>
      dsimp only
      split
      · exact .inl ⟨rfl, _, rfl⟩
      · split
        · exact .inl ⟨rfl, _, rfl⟩
        · next channel plaintext done =>
          exact .inr ⟨wirePayload, plaintext, channel, rfl, done, rfl, rfl⟩

theorem endpoint_did (e : Endpoint M) (action : Action M) :
    e.Did codec A action (e.step codec A action).channel (e.step codec A action).sent
      (e.step codec A action).accepted := by
  cases action with
  | send message ad drains =>
    unfold Endpoint.step Endpoint.channel
    dsimp only
    rcases send_one_channel codec A e ad drains message with same | ⟨plaintext, inner, range, after⟩
    · rw [same, if_pos rfl]
      exact .nothing
    · have moved : (e.channel.advanced plaintext ad).sendSequence ≠ e.channel.sendSequence :=
        Nat.succ_ne_self e.channel.sendSequence
      rw [after, if_neg moved]
      exact .encrypted inner range
  | receive incoming ad =>
    unfold Endpoint.step Endpoint.channel
    dsimp only
    rcases receive_frame_cases codec A e.transport incoming ad with
      ⟨same, error, rejected⟩ | ⟨wirePayload, plaintext, channel, rfl, done, after, returned⟩
    · rw [same, rejected]
      simp only [Except.toOption, Option.toList_none, List.append_nil]
      exact .nothing
    · obtain ⟨range, opens, rfl⟩ := decrypt_ok done
      rw [after, returned]
      exact .opened range opens

theorem encrypt_eq (A : Aead) (channel : SecureChannel) (plaintext ad : Bytes) :
    channel.encrypt A plaintext ad =
      if maxSequence < channel.sendSequence then .error (.sequenceExhausted channel.sendSequence)
      else
        match A.encrypt channel.sessionKeys.sendKey (bigEndian nonceLen channel.sendSequence)
            plaintext ad with
        | none => .error .plaintextTooLong
        | some ciphertext =>
            .ok (channel.advanced plaintext ad, ⟨channel.sendSequence, ciphertext⟩) := by
  unfold SecureChannel.encrypt constructNonce
  split
  · rfl
  · simp only [bind, Except.bind]
    cases A.encrypt channel.sessionKeys.sendKey (bigEndian nonceLen channel.sendSequence) plaintext
      ad <;> rfl

theorem wire_payload_eq (A : Aead) (transport : EncryptedTransport) (plaintext ad : Bytes) :
    transport.wirePayload A plaintext ad =
      if maxSequence < transport.channel.sendSequence then
        ({ transport with closed := true },
          .error (.sequenceExhausted transport.channel.sendSequence))
      else
        match A.encrypt transport.channel.sessionKeys.sendKey
            (bigEndian nonceLen transport.channel.sendSequence) plaintext ad with
        | none => (transport, .error .plaintextTooLong)
        | some ciphertext =>
            ({ transport with channel := transport.channel.advanced plaintext ad },
              if 256 ^ sequenceSize ≤ transport.channel.sendSequence then
                .error (.headerRange transport.channel.sendSequence)
              else .ok (bigEndian sequenceSize transport.channel.sendSequence ++ ciphertext)) := by
  unfold EncryptedTransport.wirePayload
  rw [encrypt_eq]
  by_cases exhausted : maxSequence < transport.channel.sendSequence
  · rw [if_pos exhausted, if_pos exhausted]
  · rw [if_neg exhausted, if_neg exhausted]
    cases A.encrypt transport.channel.sessionKeys.sendKey
      (bigEndian nonceLen transport.channel.sendSequence) plaintext ad <;> rfl

end Peerc.Channel
