import Mathlib.Logic.Function.Basic
import Peerc.Channel.Transport
import Peerc.Lib.Runs

/-!
What the encrypted transport guarantees against a network that decides every frame the two
ends read: the receiver's counter says which of the sender's encryptions comes next.
-/
namespace Peerc.Channel
open List SecureChannel World
open Handshake (SessionKeys Suite deriveSessionKeys infoInitToResp infoRespToInit directions_swap)
open Runs
variable {M : Type}

/-- The AEAD opens, for this read, only what one of the two ends has encrypted with the
    same key, nonce and associated data. -/
def Ideal (A : Aead) (w : World M) : Side × Action M → Prop
  | (side, .receive (.binary wirePayload) ad) =>
      let key := (w side).channel.sessionKeys.recvKey
      let nonce := bigEndian nonceLen (w side).channel.expectedRecvSequence
      ∀ plaintext ∈ A.decrypt key nonce (wirePayload.drop sequenceSize) ad,
        (⟨key, nonce, plaintext, ad⟩ : Encryption) ∈
          (w side).channel.used ++ (w side.other).channel.used
  | _ => True

instance (A : Aead) (w : World M) : ∀ event, Decidable (Ideal A w event)
  | (_, .receive (.binary _) _) => by unfold Ideal; infer_instance
  | (_, .receive .json _) => isTrue trivial
  | (_, .receive .lost _) => isTrue trivial
  | (_, .receive .malformed _) => isTrue trivial
  | (_, .send _ _ _) => isTrue trivial

variable (codec : JsonCodec M)

def RejectionKeepsSequence (A : Aead) (w : World M) : Side × Action M → Prop
  | (side, .receive incoming ad) =>
      ∀ error, ((w side).transport.receiveFrame codec A incoming ad).2 = .error error →
        (w.step codec A (side, .receive incoming ad) side).channel.expectedRecvSequence =
          (w side).channel.expectedRecvSequence
  | _ => True

structure Secure (w : World M) : Prop where
  inOrder : ∀ side, (w side).accepted <+: (w side.other).sent.map Received.message
  noncesOnce : (((w .initiator).channel.used ++ (w .responder).channel.used).map
    fun e => (e.key, e.nonce)).Nodup

def JsonCodec.ReadsBack : Prop :=
  ∀ message raw, codec.dumps message = some raw → codec.loads raw = some message

def SeparatesDirections (S : Suite) (sharedSecret salt : Bytes) : Prop :=
  S.hkdf sharedSecret salt infoInitToResp Handshake.keyLen ≠
    S.hkdf sharedSecret salt infoRespToInit Handshake.keyLen

/-! ## The two invariants -/

structure Sending (channel : SecureChannel) (sent : List (Message M)) :
    Prop where
  numbered : Numbered (bigEndian nonceLen) channel.sessionKeys.sendKey channel.used
  counter : channel.sendSequence = channel.used.length
  range : channel.used.length ≤ maxSequence + 1
  payloads : channel.used.map (fun e => some e.plaintext) = sent.map codec.inner

structure Delivered (sent : List (Message M)) (channel : SecureChannel)
    (accepted : List (Received M)) : Prop where
  bound : channel.expectedRecvSequence ≤ sent.length
  returned : accepted = (sent.take channel.expectedRecvSequence).map Received.message

structure Matching (keys : Side → SessionKeys) : Prop where
  crossed : ∀ side, (keys side).recvKey = (keys side.other).sendKey
  directions : ∀ side, (keys side).sendKey ≠ (keys side.other).sendKey

structure Linked (keys : Side → SessionKeys) (w : World M) : Prop where
  keyed : ∀ side, (w side).channel.sessionKeys = keys side
  sending : ∀ side, Sending codec (w side).channel (w side).sent
  delivered : ∀ side, Delivered (w side.other).sent (w side).channel (w side).accepted

variable (side : Side)

theorem both_sides {motive : Side → Prop} (here : motive side) (there : motive side.other)
    (s : Side) : motive s := by
  cases side <;> cases s <;> assumption

theorem other_ne : side.other ≠ side := by cases side <;> decide

@[simp] theorem other_other : side.other.other = side := by cases side <;> rfl

theorem nonces_distinct : DistinctBelow (bigEndian nonceLen) (maxSequence + 1) := by
  intro _ first _ second same
  have size : maxSequence + 1 = 256 ^ nonceLen := by decide
  rw [size] at first second
  exact bigEndian_injective first second same

theorem read_inner_reads_back {codec : JsonCodec M} (reads : codec.ReadsBack)
    {message : Message M} {plaintext : Bytes} (inner : codec.inner message = some plaintext) :
    EncryptedTransport.readInner codec plaintext = .ok (.message message) := by
  cases message with
  | json message =>
    obtain ⟨raw, dumped, rfl⟩ := Option.map_eq_some_iff.mp inner
    simp [EncryptedTransport.readInner, reads message raw dumped]
  | binary | relay =>
    cases inner
    rfl

section Step
variable {codec : JsonCodec M} {A : Aead} {e : Endpoint M} {action : Action M}
  {channel : SecureChannel} {sent : List (Message M)} {accepted : List (Received M)}

section Did
variable (did : e.Did codec A action channel sent accepted)
include did

theorem sent_grows : e.sent <+: sent := by
  cases did with
  | nothing | opened => exact prefix_rfl
  | encrypted => exact prefix_append _ _

theorem keys_kept : channel.sessionKeys = e.channel.sessionKeys := by
  cases did <;> rfl

theorem sending_did (sending : Sending codec e.channel e.sent) : Sending codec channel sent := by
  cases did with
  | nothing => exact sending
  | opened => exact ⟨sending.numbered, sending.counter, sending.range, sending.payloads⟩
  | @encrypted message ad _ plaintext inner range =>
    have counter := sending.counter
    constructor
    · unfold advanced
      rw [counter]
      exact numbered_concat sending.numbered plaintext ad
    · simp [advanced, counter]
    · simp only [advanced, length_append, length_singleton]
      omega
    · simp [advanced, sending.payloads, inner]

end Did

theorem delivered_grows {longer : List (Message M)} (grown : sent <+: longer)
    (delivered : Delivered sent channel accepted) : Delivered longer channel accepted := by
  obtain ⟨_, rfl⟩ := grown
  constructor
  · have bound := delivered.bound
    rw [length_append]
    omega
  · rw [take_append_of_le_length delivered.bound]
    exact delivered.returned

theorem next_message {peer : SecureChannel} {messages : List (Message M)}
    (sending : Sending codec peer messages) {n : Nat} (range : n ≤ maxSequence)
    {plaintext ad : Bytes}
    (logged : (⟨peer.sessionKeys.sendKey, bigEndian nonceLen n, plaintext, ad⟩ : Encryption) ∈
      peer.used) :
    ∃ message, messages[n]? = some message ∧ codec.inner message = some plaintext := by
  have found := numbered_index nonces_distinct sending.numbered sending.range
    (Nat.lt_succ_of_le range) logged rfl
  have row := congrArg (·[n]?) sending.payloads
  simp only [getElem?_map, found, Option.map_some] at row
  obtain ⟨message, here, inner⟩ := Option.map_eq_some_iff.mp row.symm
  exact ⟨message, here, inner⟩

theorem delivered_next {messages : List (Message M)} {message : Message M}
    (delivered : Delivered messages e.channel e.accepted)
    (here : messages[e.channel.expectedRecvSequence]? = some message) : Delivered messages
      { e.channel with expectedRecvSequence := e.channel.expectedRecvSequence + 1 }
      (e.accepted ++ [.message message]) := by
  obtain ⟨bound, _⟩ := List.getElem?_eq_some_iff.mp here
  constructor
  · exact bound
  · rw [delivered.returned, List.take_add_one, here]
    simp

end Step

section Worlds
variable {codec : JsonCodec M} {A : Aead} {keys : Side → SessionKeys} {w : World M}

theorem step_here (codec : JsonCodec M) (A : Aead) (w : World M) (side : Side)
    (action : Action M) : w.step codec A (side, action) side = (w side).step codec A action :=
  Function.update_self ..

theorem step_there (codec : JsonCodec M) (A : Aead) (w : World M) (side : Side)
    (action : Action M) : w.step codec A (side, action) side.other = w side.other :=
  Function.update_of_ne (other_ne side) ..

theorem opened_is_next (matching : Matching keys) (linked : Linked codec keys w) {side : Side}
    {wirePayload ad plaintext : Bytes} (ideal : Ideal A w (side, .receive (.binary wirePayload) ad))
    (range : (w side).channel.expectedRecvSequence ≤ maxSequence)
    (opens : A.decrypt (w side).channel.sessionKeys.recvKey
      (bigEndian nonceLen (w side).channel.expectedRecvSequence) (wirePayload.drop sequenceSize)
      ad = some plaintext) :
    ∃ message, (w side.other).sent[(w side).channel.expectedRecvSequence]? = some message ∧
      codec.inner message = some plaintext := by
  have crossed : (w side).channel.sessionKeys.recvKey =
      (w side.other).channel.sessionKeys.sendKey := by
    rw [linked.keyed, linked.keyed, matching.crossed]
  rcases mem_append.mp (ideal plaintext opens) with own | peer
  · -- An end never encrypts with the key it receives with.
    have key := (linked.sending side).numbered.keyed _ own
    rw [crossed, linked.keyed, linked.keyed] at key
    exact absurd key.symm (matching.directions side)
  · rw [crossed] at peer
    exact next_message (linked.sending side.other) range peer

theorem linked_step (reads : codec.ReadsBack) (matching : Matching keys)
    (linked : Linked codec keys w) {event : Side × Action M} (ideal : Ideal A w event) :
    Linked codec keys (w.step codec A event) := by
  obtain ⟨side, action⟩ := event
  have did := endpoint_did codec A (w side) action
  constructor
  · intro s
    cases s using both_sides side with
    | here => rw [step_here, keys_kept did, linked.keyed]
    | there => rw [step_there, linked.keyed]
  · intro s
    cases s using both_sides side with
    | here =>
      rw [step_here]
      exact sending_did did (linked.sending side)
    | there =>
      rw [step_there]
      exact linked.sending side.other
  · intro s
    cases s using both_sides side with
    | here =>
      rw [step_here, step_there]
      generalize ((w side).step codec A action).channel = channel at did ⊢
      generalize ((w side).step codec A action).sent = sent at did
      generalize ((w side).step codec A action).accepted = accepted at did ⊢
      cases did with
      | nothing => exact linked.delivered side
      | encrypted => exact ⟨(linked.delivered side).bound, (linked.delivered side).returned⟩
      | opened range opens =>
        obtain ⟨_, here, inner⟩ := opened_is_next matching linked ideal range opens
        rw [read_inner_reads_back reads inner]
        exact delivered_next (linked.delivered side) here
    | there =>
      rw [step_there, other_other, step_here]
      have before := linked.delivered side.other
      rw [other_other] at before
      exact delivered_grows (sent_grows did) before

theorem rejection_keeps_sequence (reads : codec.ReadsBack) (matching : Matching keys)
    (linked : Linked codec keys w) {event : Side × Action M} (ideal : Ideal A w event) :
    RejectionKeepsSequence codec A w event := by
  obtain ⟨side, action⟩ := event
  cases action with
  | send => trivial
  | receive incoming ad =>
    intro _ rejected
    rw [step_here]
    rcases receive_frame_cases codec A (w side).transport incoming ad with
      ⟨same, _⟩ | ⟨wirePayload, plaintext, channel, rfl, done, _, returned⟩
    · exact congrArg expectedRecvSequence same
    · -- What decrypts is an honest message, and those always read back.
      obtain ⟨range, opens, _⟩ := decrypt_ok done
      obtain ⟨_, _, inner⟩ := opened_is_next matching linked ideal range opens
      rw [returned, read_inner_reads_back reads inner] at rejected
      cases rejected

theorem linked_secure (matching : Matching keys) (linked : Linked codec keys w) : Secure w := by
  have once : ∀ side, ((w side).channel.used.map fun e => (e.key, e.nonce)).Nodup := by
    intro side
    have nonces := numbered_nodup nonces_distinct (linked.sending side).numbered
      (linked.sending side).range
    apply List.Nodup.of_map Prod.snd
    rw [map_map]
    exact nonces
  constructor
  · intro side
    rw [(linked.delivered side).returned]
    exact (List.take_prefix _ _).map Received.message
  · rw [map_append, nodup_append]
    refine ⟨once .initiator, once .responder, ?_⟩
    intro _ first _ second same
    subst same
    obtain ⟨e, member, rfl⟩ := mem_map.mp first
    obtain ⟨f, member', both⟩ := mem_map.mp second
    have mine := (linked.sending .initiator).numbered.keyed e member
    have theirs := (linked.sending .responder).numbered.keyed f member'
    rw [linked.keyed] at mine theirs
    apply matching.directions .initiator
    rw [← mine, ← (Prod.mk.inj both).1, theirs]
    rfl

end Worlds

theorem create_ok {keys : SessionKeys} {channel : SecureChannel}
    (made : create keys = .ok channel) : ∃ fits, channel = ⟨keys, 0, 0, [], fits⟩ := by
  unfold create at made
  split at made
  · next fits =>
    cases made
    exact ⟨fits, rfl⟩
  · cases made

def sideKeys (initiator responder : SessionKeys) : Side → SessionKeys
  | .initiator => initiator
  | .responder => responder

theorem derived_matching {S : Suite} {sharedSecret salt : Bytes}
    (separates : SeparatesDirections S sharedSecret salt) {keys keys' : SessionKeys}
    (derived : deriveSessionKeys S sharedSecret salt true = .ok keys)
    (derived' : deriveSessionKeys S sharedSecret salt false = .ok keys') :
    Matching (sideKeys keys keys') := by
  rw [directions_swap, derived] at derived'
  cases derived'
  have directions : keys.sendKey ≠ keys.recvKey := by
    unfold deriveSessionKeys at derived
    split at derived
    · cases derived
    · split at derived
      · cases derived
      · cases derived
        exact separates
  constructor
  · intro side
    cases side <;> rfl
  · intro side
    cases side
    · exact directions
    · exact directions.symm

theorem start_linked (codec : JsonCodec M) {keys keys' : SessionKeys}
    {initiator responder : SecureChannel} (made : create keys = .ok initiator)
    (made' : create keys' = .ok responder) :
    Linked codec (sideKeys keys keys') (start initiator responder) := by
  obtain ⟨_, rfl⟩ := create_ok made
  obtain ⟨_, rfl⟩ := create_ok made'
  constructor
  · intro side
    cases side <;> rfl
  · intro side
    cases side <;> exact ⟨numbered_nil _ _, rfl, Nat.zero_le _, rfl⟩
  · intro side
    cases side <;> exact ⟨Nat.zero_le _, rfl⟩

/-- Each end returns a front part of what the other sent, and no key and nonce encrypt twice. -/
theorem secure_channel (S : Suite) (A : Aead) (codec : JsonCodec M) (reads : codec.ReadsBack)
    {sharedSecret salt : Bytes} (separates : SeparatesDirections S sharedSecret salt)
    {keys keys' : SessionKeys} (derived : deriveSessionKeys S sharedSecret salt true = .ok keys)
    (derived' : deriveSessionKeys S sharedSecret salt false = .ok keys')
    {initiator responder : SecureChannel} (made : create keys = .ok initiator)
    (made' : create keys' = .ok responder) (events : List (Side × Action M))
    (ideal : Along (step codec A) (Ideal A) (start initiator responder) events) :
    Everywhere (step codec A) Secure (start initiator responder) events ∧
      Along (step codec A) (RejectionKeepsSequence codec A)
        (start initiator responder) events := by
  have matching := derived_matching separates derived derived'
  have start := start_linked codec made made'
  have keep w event (linked : Linked codec (sideKeys keys keys') w) (step : Ideal A w event) :=
    linked_step reads matching linked step
  constructor
  · intro _ front
    exact linked_secure matching (invariant_run keep start (along_front front ideal))
  · exact invariant_along keep
      (fun w event linked step => rejection_keeps_sequence reads matching linked step) start ideal

section Sample

def plainCodec : JsonCodec Bytes := ⟨some, some⟩

def sampleSuite : Suite := Suite.sample Handshake.tailDigest

def sampleSalt : Bytes := List.replicate 32 7

def sampleKeys (isInitiator : Bool) : SessionKeys :=
  let key := fun info => sampleSuite.hkdf sampleSalt sampleSalt info Handshake.keyLen
  let sessionId :=
    Hex.encode
      (sampleSuite.hkdf sampleSalt sampleSalt Handshake.infoSessionId Handshake.sessionIdLen)
  if isInitiator then ⟨key infoInitToResp, key infoRespToInit, sessionId⟩
  else ⟨key infoRespToInit, key infoInitToResp, sessionId⟩

def sampleChannel (isInitiator : Bool) : SecureChannel :=
  ⟨sampleKeys isInitiator, 0, 0, [], by cases isInitiator <;> decide⟩

theorem sample_made (first : Bool) :
    create (sampleKeys first) = .ok (sampleChannel first) := by
  cases first <;> rfl

theorem plain_reads_back : plainCodec.ReadsBack := fun _ _ dumped => dumped.symm

def initiatorFrame (sequence : Nat) (plaintext : Bytes) : Incoming :=
  .binary (bigEndian sequenceSize sequence ++
    (Aead.labelled.encrypt (sampleKeys true).sendKey (bigEndian nonceLen sequence) plaintext
      []).getD [])

def roughNetwork : List (Side × Action Bytes) :=
  [(.initiator, .send (.binary [1, 2]) [] true), (.initiator, .send (.relay [3]) [] true),
    (.responder, .receive (initiatorFrame 1 [typeRelay, 3]) []),
    (.responder, .receive (initiatorFrame 0 [typeBinary, 1, 2]) []),
    (.responder, .receive (initiatorFrame 0 [typeBinary, 1, 2]) []),
    (.responder, .receive (.binary [0, 0, 0, 0, 0, 0, 0, 1]) []),
    (.responder, .receive (.binary (bigEndian sequenceSize 1 ++ List.replicate 40 9)) []),
    (.responder, .receive (initiatorFrame 1 [typeRelay, 3]) [])]

theorem rough_network_in_order : (run (step plainCodec Aead.labelled)
        (start (sampleChannel true) (sampleChannel false)) roughNetwork .responder).accepted =
      [.message (.binary [1, 2]), .message (.relay [3])] ∧
    Along (step plainCodec Aead.labelled) (RejectionKeepsSequence plainCodec Aead.labelled)
      (start (sampleChannel true) (sampleChannel false)) roughNetwork := by
  have separates : SeparatesDirections sampleSuite sampleSalt sampleSalt := by
    unfold SeparatesDirections
    decide +kernel
  have derived : ∀ isInitiator, deriveSessionKeys sampleSuite sampleSalt sampleSalt isInitiator =
      .ok (sampleKeys isInitiator) := by
    intro isInitiator
    cases isInitiator <;> rfl
  constructor
  · decide +kernel
  · exact (secure_channel sampleSuite Aead.labelled plainCodec plain_reads_back separates
      (derived true) (derived false) (sample_made true) (sample_made false) roughNetwork
        (by decide +kernel)).2

end Sample

end Peerc.Channel
