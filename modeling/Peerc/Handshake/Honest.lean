import Peerc.Handshake.Steps

/-!
An honest handshake from the point of view of one of its ends: the peer follows the protocol,
its frames arrive as it wrote them, and neither the database nor the connection fails.
-/
namespace Peerc.Handshake
open Trust Runs Device
variable {S : Suite}

structure Suite.Correct (S : Suite) : Prop where
  verifies : ∀ k text, S.ed25519.verify (S.ed25519.publicKey k) (S.ed25519.sign k text) text = true
  keySize : ∀ k, (S.ed25519.publicKey k).length = 32
  signatureSize : ∀ k text, 0 < (S.ed25519.sign k text).length
  digestSize : ∀ data, 0 < (S.digest data).length
  ephemeralSize : ∀ e, (S.x25519.publicKey e).length = 32
  exchanges : ∀ a b, (S.x25519.exchange a (S.x25519.publicKey b)).isSome = true
  generates : Nonempty S.x25519.PrivateKey

structure Suite.Works (S : Suite) : Prop where
  verifies : ∀ k text, S.ed25519.verify (S.ed25519.publicKey k) (S.ed25519.sign k text) text = true
  keySize : ∀ k, (S.ed25519.publicKey k).length = 32
  signatureSize : ∀ k text, 0 < (S.ed25519.sign k text).length
  idSize : ∀ id : DeviceKeypair S, 0 < (S.digest id.publicKeyBytes).length
  ephemeralSize : ∀ e, (S.x25519.publicKey e).length = 32
  exchanges : ∀ a b, (S.x25519.exchange a (S.x25519.publicKey b)).isSome = true

theorem correct_works (correct : S.Correct) : S.Works where
  verifies := correct.verifies
  keySize := correct.keySize
  signatureSize := correct.signatureSize
  idSize id := correct.digestSize id.publicKeyBytes
  ephemeralSize := correct.ephemeralSize
  exchanges := correct.exchanges

structure Calm (c : Conditions S) : Prop where
  reads : c.readFails = false
  writes : c.writeFails = false

variable (d : Device S)

def NewNonce (c : Conditions S) (own : Own S) : Prop :=
  own.nonce ≠ [] ∧ (checkAndAdd d.cache c.now own.nonce).1 = true

theorem hex_nonempty {bs : Bytes} (size : 0 < bs.length) : Hex.encode bs ≠ [] := by
  cases bs with
  | nil => simp at size
  | cons =>
    rw [Hex.encode_cons]
    exact List.cons_ne_nil _ _

variable {own : Own S}

theorem hello_valid (works : S.Works) (peer : DeviceKeypair S)
    (nonce : own.nonce ≠ []) : (peer.hello own).valid = true := by
  have id : (peer.hello own).deviceId ≠ [] := by
    show S.sha256 _ ≠ []
    rw [S.hexDigest]
    exact hex_nonempty (works.idSize peer)
  have key : (peer.hello own).publicKey ≠ [] :=
    hex_nonempty (by rw [DeviceKeypair.publicKeyBytes, works.keySize]; omega)
  have ephemeral : (peer.hello own).ephemeralKey ≠ [] :=
    hex_nonempty (by rw [works.ephemeralSize]; omega)
  have drawn : (peer.hello own).nonce ≠ [] := nonce
  simp [Hello.valid, id, key, ephemeral, drawn]

variable (peer : DeviceKeypair S)

theorem honest_identity (own : Own S) :
    verifyDeviceIdentity S (peer.hello own).deviceId (peer.hello own).publicKey =
      .ok peer.publicKeyBytes := by
  simp [verifyDeviceIdentity, DeviceKeypair.hello, Hex.decode_encode, DeviceKeypair.deviceId]

theorem honest_signature (works : S.Works) (peer : DeviceKeypair S) {text : Bytes}
    {signature : Text} (spells : Hex.decode signature = some (peer.sign text)) :
    verifySignature S peer.publicKeyBytes signature text = .ok () := by
  have size : peer.publicKeyBytes.length = 32 := works.keySize _
  have verifies : S.ed25519.verify peer.publicKeyBytes (peer.sign text) text = true :=
    works.verifies _ _
  simp [verifySignature, size, spells, verifies]

theorem honest_secret (works : S.Works) (own : Own S) (peer : DeviceKeypair S) (peerOwn : Own S) :
    ∃ secret, computeSharedSecret own (peer.hello peerOwn).ephemeralKey = .ok secret := by
  obtain ⟨secret, computed⟩ :=
    Option.isSome_iff_exists.mp (works.exchanges own.ephemeral peerOwn.ephemeral)
  refine ⟨secret, ?_⟩
  simp [computeSharedSecret, DeviceKeypair.hello, Hex.decode_encode, works.ephemeralSize,
    computed]

def answerTalk (peerOwn own : Own S) : Talk S :=
  ⟨.responder, own, peer.hello peerOwn, Hex.encode (d.identity.sign
    (computeResponderTranscript (peer.hello peerOwn) (d.identity.hello own)))⟩

variable {k : Nat} {peerOwn : Own S} {c : Conditions S}

theorem read_honest_init (works : S.Works) (d : Device S)
    (found : d.sessions[k]? = some .awaitInit) (peer : DeviceKeypair S)
    (new : NewNonce d c peerOwn) :
    d.receive k (.frame (.init (peer.hello peerOwn))) c = d.receiveInit k (peer.hello peerOwn)
    c := by
  have valid := hello_valid works peer new.1
  simp [receive, found, readMessage, Frame.valid, valid]

theorem refuse_honest_init (works : S.Works) (d : Device S)
    (found : d.sessions[k]? = some .awaitInit) (peer : DeviceKeypair S)
    (new : NewNonce d c peerOwn) {error : HandshakeError}
    (refused : checkTrust c d.store (peer.hello peerOwn).deviceId (peer.hello peerOwn).publicKey =
      .error error) :
    (d.receive k (.frame (.init (peer.hello peerOwn))) c).sessions =
      d.sessions.set k (.failed none error) := by
  have reject : acceptInit c d.store (peer.hello peerOwn) = .error error := by
    simp [acceptInit, honest_identity, refused, bind, Except.bind]
  rw [read_honest_init works d found peer new, receiveInit]
  have fresh : (checkAndAdd d.cache c.now (peer.hello peerOwn).nonce).1 = true := new.2
  rw [if_pos fresh, reject]
  rfl

variable {pre : TrustDecision}

theorem answer_honest_init (works : S.Works) (d : Device S)
    (found : d.sessions[k]? = some .awaitInit) (peer : DeviceKeypair S) (new : NewNonce d c peerOwn)
    (checked : checkTrust c d.store (peer.hello peerOwn).deviceId (peer.hello peerOwn).publicKey =
      .ok pre) :
    d.receive k (.frame (.init (peer.hello peerOwn))) c =
      { d.put k (.awaitFinish (answerTalk d peer peerOwn c.own) peer.publicKeyBytes pre) with
        cache := (checkAndAdd d.cache c.now peerOwn.nonce).2
        signed := d.signed ++
          [computeResponderTranscript (peer.hello peerOwn) (d.identity.hello c.own)]
        sent := d.sent ++ [(k, .response (d.identity.hello c.own)
          (answerTalk d peer peerOwn c.own).responseSignature)] } := by
  have accept : acceptInit c d.store (peer.hello peerOwn) = .ok (peer.publicKeyBytes, pre) := by
    simp [acceptInit, honest_identity, checked, bind, Except.bind, pure, Except.pure]
  rw [read_honest_init works d found peer new, receiveInit]
  have fresh : (checkAndAdd d.cache c.now (peer.hello peerOwn).nonce).1 = true := new.2
  rw [if_pos fresh, accept]
  rfl

theorem finish_session_returns (works : S.Works) (d : Device S) (k : Nat) (peer : DeviceKeypair S)
    (peerOwn : Own S) (t : Talk S) (from_ : t.peer = peer.hello peerOwn) (finish : Text)
    (decision : TrustDecision) : ∃ secret, d.finishSession k t finish decision =
      d.put k (.done t finish (d.identity.conclude t finish decision secret)) := by
  obtain ⟨secret, computed⟩ := honest_secret works t.own peer peerOwn
  refine ⟨secret, ?_⟩
  rw [finishSession, from_, computed]

variable {decision : TrustDecision}

theorem finish_honest (works : S.Works) (d : Device S) {t : Talk S}
    (peer : DeviceKeypair S) (from_ : t.peer = peer.hello peerOwn)
    (found : d.sessions[k]? = some (.awaitFinish t peer.publicKeyBytes pre))
    {store : Option TrustStore}
    (recorded : recordTrust c d.store t.peer.deviceId t.peer.publicKey t.peer.senderName pre =
      .ok (store, decision)) {finish : Text}
    (spells : Hex.decode finish = some (peer.sign (d.identity.initiatorTranscript t))) :
    ∃ secret, d.receive k (.frame (.finish finish)) c =
      { d with store := store }.put k
        (.done t finish (d.identity.conclude t finish decision secret)) := by
  have nonempty : finish ≠ [] := by
    rintro rfl
    have empty := congrArg List.length (Option.some.inj spells)
    have size : 0 < (peer.sign (d.identity.initiatorTranscript t)).length := works.signatureSize _ _
    rw [← empty] at size
    cases size
  have accept : acceptFinish c d.store t.peer peer.publicKeyBytes pre finish
      (d.identity.initiatorTranscript t) = .ok (store, decision) := by
    simp [acceptFinish, honest_signature works peer spells, recorded, bind, Except.bind]
  have stepped : d.receive k (.frame (.finish finish)) c =
      { d with store := store }.finishSession k t finish decision := by
    simp [receive, found, readMessage, Frame.valid, nonempty, receiveFinish, accept]
  rw [stepped]
  exact finish_session_returns works { d with store := store } k peer peerOwn t from_
    finish decision

def DeviceKeypair.finishText (id : DeviceKeypair S) (t : Talk S) : Text :=
  Hex.encode (id.sign (id.initiatorTranscript t))

def responseTalk (peerOwn own : Own S) : Talk S :=
  ⟨.initiator, own, peer.hello peerOwn, Hex.encode (peer.sign
    (computeResponderTranscript (d.identity.hello own) (peer.hello peerOwn)))⟩

theorem read_honest_response (works : S.Works) (d : Device S)
    (found : d.sessions[k]? = some (.awaitResponse own)) (peer : DeviceKeypair S)
    (new : NewNonce d c peerOwn) : d.receive k (.frame (.response (peer.hello peerOwn)
        (responseTalk d peer peerOwn own).responseSignature)) c =
      d.receiveResponse k own (peer.hello peerOwn)
        (responseTalk d peer peerOwn own).responseSignature c := by
  have valid := hello_valid works peer new.1
  have nonempty : (responseTalk d peer peerOwn own).responseSignature ≠ [] :=
    hex_nonempty (works.signatureSize _ _)
  simp [receive, found, readMessage, Frame.valid, valid, nonempty]

theorem accept_honest_response (works : S.Works) (d : Device S)
    (found : d.sessions[k]? = some (.awaitResponse own)) (peer : DeviceKeypair S)
    (new : NewNonce d c peerOwn) {store : Option TrustStore}
    (checked : checkTrust c d.store (peer.hello peerOwn).deviceId (peer.hello peerOwn).publicKey =
      .ok pre)
    (recorded : recordTrust c d.store (peer.hello peerOwn).deviceId (peer.hello peerOwn).publicKey
      (peer.hello peerOwn).senderName pre = .ok (store, decision)) :
    d.receive k (.frame (.response (peer.hello peerOwn)
        (responseTalk d peer peerOwn own).responseSignature)) c =
      { d.put k (.draining (responseTalk d peer peerOwn own)
          (d.identity.finishText (responseTalk d peer peerOwn own)) decision) with
        store := store
        cache := (checkAndAdd d.cache c.now peerOwn.nonce).2
        signed := d.signed ++ [d.identity.initiatorTranscript (responseTalk d peer peerOwn own)]
        sent := d.sent ++
          [(k, .finish (d.identity.finishText (responseTalk d peer peerOwn own)))] } := by
  have accept : acceptResponse c d.store (d.identity.hello own) (peer.hello peerOwn)
      (responseTalk d peer peerOwn own).responseSignature = .ok (store, decision) := by
    simp [acceptResponse, responseTalk, honest_identity, checked,
      honest_signature works peer (Hex.decode_encode _), recorded, bind, Except.bind]
  rw [read_honest_response works d found peer new, receiveResponse]
  have fresh : (checkAndAdd d.cache c.now (peer.hello peerOwn).nonce).1 = true := new.2
  rw [if_pos fresh, accept]
  rfl

theorem drain_honest (works : S.Works) (d : Device S) {t : Talk S}
    (peer : DeviceKeypair S) (from_ : t.peer = peer.hello peerOwn) {finish : Text}
    (found : d.sessions[k]? = some (.draining t finish decision)) : ∃ secret, d.drained k =
      d.put k (.done t finish (d.identity.conclude t finish decision secret)) := by
  have stepped : d.drained k = d.finishSession k t finish decision := by
    simp [drained, found]
  rw [stepped]
  exact finish_session_returns works d k peer peerOwn t from_ finish decision

section Sample

theorem sample_works {digest : Bytes → Bytes}
    (ids : ∀ key : Bytes, key.length = 32 → 0 < (digest key).length) :
    (Suite.sample digest).Works where
  verifies k text := by
    show (decide (k.val.length = 32) && decide (k.val ++ text = k.val ++ text)) = true
    simp [k.property]
  keySize k := k.property
  signatureSize k text := by
    show 0 < (k.val ++ text).length
    rw [List.length_append, k.property]
    omega
  idSize id := ids id.publicKeyBytes id.privateKey.property
  ephemeralSize e := e.property
  exchanges a b := rfl

theorem tail_digest_size (data : Bytes) : (tailDigest data).length = 32 := by
  rw [tailDigest, List.length_drop, List.length_append, List.length_replicate]
  omega

end Sample
end Peerc.Handshake
