import Peerc.Handshake.Honest
import Peerc.Trust.Taint

/-!
Rotation and the next connection. A transition certificate carries keys in base64, a handshake
presents them in hexadecimal, and the trust store compares texts.
-/
namespace Peerc.Handshake
open Trust Runs Trust Hex
variable {S : Suite}

inductive RotationError where
  | sameDevice
  deriving DecidableEq

def signTransition (old new : DeviceKeypair S) (now : Time) : TransitionCertificate :=
  let unsigned : TransitionCertificate := ⟨old.deviceId, Base64.encode old.publicKeyBytes,
    new.deviceId, Base64.encode new.publicKeyBytes, now, []⟩
  { unsigned with
    signature := Base64.encode (old.sign (unsigned.buildPayload S.toPrimitives)) }

def createTransitionCertificate (old new : DeviceKeypair S) (now : Time) :
    Except RotationError TransitionCertificate :=
  if old.deviceId = new.deviceId then .error .sameDevice else .ok (signTransition old new now)

variable (d : Device S)

def ReturnsTrusted (k : Nat) (peer : DeviceKeypair S) : Prop :=
  ∃ t finish result, d.sessions[k]? = some (.done t finish result) ∧
    result.peerDeviceId = peer.deviceId ∧ result.trustDecision = .trusted

variable (peer : DeviceKeypair S)

def responderRun (peerOwn : Own S) (c c' : Conditions S) : Device S :=
  run Device.step d [.accept,
    .receive d.sessions.length (.frame (.init (peer.hello peerOwn))) c,
    .receive d.sessions.length (.frame (.finish (encode (peer.sign
      (peer.initiatorTranscript ⟨.initiator, peerOwn, d.identity.hello c.own,
        (answerTalk d peer peerOwn c.own).responseSignature⟩))))) c']

def initiatorRun (peerOwn own : Own S) (c : Conditions S) : Device S :=
  run Device.step d [.connect own,
    .receive d.sessions.length (.frame (.response (peer.hello peerOwn)
      (responseTalk d peer peerOwn own).responseSignature)) c,
    .drained d.sessions.length]

def HonestHandshakesTrusted : Prop :=
  ∀ (peerOwn own : Own S) (c c' : Conditions S), Calm c → Calm c' → NewNonce d c peerOwn →
    ReturnsTrusted (responderRun d peer peerOwn c c') d.sessions.length peer ∧
      ReturnsTrusted (initiatorRun d peer peerOwn own c) d.sessions.length peer

section Roles
variable (works : S.Works) {d : Device S} {s : TrustStore} (stored : d.store = some s)
  (peer : DeviceKeypair S) {peerOwn : Own S} {c : Conditions S}

include stored in
theorem lookup_stored (calm : Calm c)
    (checked : s.check peer.deviceId (encode peer.publicKeyBytes) = .trusted) :
    checkTrust c d.store (peer.hello peerOwn).deviceId (peer.hello peerOwn).publicKey =
      .ok .trusted := by
  simp [stored, checkTrust, calm.reads, DeviceKeypair.hello, checked]

include stored in
theorem record_stored (calm : Calm c) :
    recordTrust c d.store (peer.hello peerOwn).deviceId (peer.hello peerOwn).publicKey
        (peer.hello peerOwn).senderName .trusted =
      .ok (some (s.touchLastSeen peer.deviceId c.now), .trusted) := by
  simp [stored, recordTrust, calm.writes, DeviceKeypair.hello]

theorem done_returns_trusted {after : Device S} {k : Nat} {t : Talk S} {finish : Text}
    {id : DeviceKeypair S} {secret : Bytes}
    (returned : after = d.put k (.done t finish (id.conclude t finish .trusted secret)))
    {old : Session S} (found : d.sessions[k]? = some old) (from_ : t.peer = peer.hello peerOwn) :
    ReturnsTrusted after k peer := by
  subst returned
  refine ⟨t, finish, _, found_set found, ?_, rfl⟩
  show t.peer.deviceId = _
  rw [from_]
  rfl

include works stored in
theorem responder_returns_trusted (calm : Calm c) (new : NewNonce d c peerOwn)
    {c' : Conditions S} (calm' : Calm c')
    (checked : s.check peer.deviceId (encode peer.publicKeyBytes) = .trusted) :
    ReturnsTrusted (responderRun d peer peerOwn c c') d.sessions.length peer := by
  have waiting : (d.step .accept).sessions[d.sessions.length]? = some .awaitInit :=
    List.getElem?_concat_length
  have answered := answer_honest_init works (d.step .accept) waiting peer new
    (lookup_stored stored peer calm checked)
  have found : ((d.step .accept).receive d.sessions.length (.frame (.init (peer.hello peerOwn)))
      c).sessions[d.sessions.length]? = some (.awaitFinish
        (answerTalk (d.step .accept) peer peerOwn c.own) peer.publicKeyBytes .trusted) := by
    rw [answered]
    exact found_set waiting
  have kept : ((d.step .accept).receive d.sessions.length (.frame (.init (peer.hello peerOwn)))
      c).store = some s := by
    rw [answered]
    exact stored
  have identity := receive_identity (d.step .accept) d.sessions.length
    (.frame (.init (peer.hello peerOwn))) c
  show ReturnsTrusted (((d.step .accept).receive d.sessions.length
    (.frame (.init (peer.hello peerOwn))) c).receive _ _ c') _ peer
  generalize (d.step .accept).receive d.sessions.length
    (.frame (.init (peer.hello peerOwn))) c = after at found kept identity ⊢
  obtain ⟨_, finished⟩ := finish_honest works after peer rfl found
    (record_stored kept peer calm') (by rw [identity]; exact decode_encode _)
  exact done_returns_trusted peer finished found rfl

include works stored in
theorem initiator_returns_trusted (calm : Calm c) (new : NewNonce d c peerOwn) (own : Own S)
    (checked : s.check peer.deviceId (encode peer.publicKeyBytes) = .trusted) :
    ReturnsTrusted (initiatorRun d peer peerOwn own c) d.sessions.length peer := by
  have waiting : (d.step (.connect own)).sessions[d.sessions.length]? =
      some (.awaitResponse own) := List.getElem?_concat_length
  have answered := accept_honest_response works (d.step (.connect own)) waiting peer new
    (lookup_stored stored peer calm checked) (record_stored stored peer calm)
  have found : ((d.step (.connect own)).receive d.sessions.length (.frame (.response
      (peer.hello peerOwn) (responseTalk (d.step (.connect own)) peer peerOwn
        own).responseSignature)) c).sessions[d.sessions.length]? = some (.draining
      (responseTalk (d.step (.connect own)) peer peerOwn own) (d.identity.finishText
        (responseTalk (d.step (.connect own)) peer peerOwn own)) .trusted) := by
    rw [answered]
    exact found_set waiting
  show ReturnsTrusted (((d.step (.connect own)).receive d.sessions.length
    (.frame (.response (peer.hello peerOwn)
      (responseTalk (d.step (.connect own)) peer peerOwn own).responseSignature)) c).drained _) _
    peer
  obtain ⟨_, drained⟩ := drain_honest works _ peer rfl found
  exact done_returns_trusted peer drained found rfl

include works stored in
theorem changed_key_not_returned (calm : Calm c) (new : NewNonce d c peerOwn) (c' : Conditions S)
    (changed : s.check peer.deviceId (encode peer.publicKeyBytes) = .keyChanged) :
    ¬ ReturnsTrusted (responderRun d peer peerOwn c c') d.sessions.length peer := by
  have waiting : (d.step .accept).sessions[d.sessions.length]? = some .awaitInit :=
    List.getElem?_concat_length
  have lookup : checkTrust c (d.step .accept).store (peer.hello peerOwn).deviceId
      (peer.hello peerOwn).publicKey = .error .keyChanged := by
    have changed' : s.check (peer.hello peerOwn).deviceId (peer.hello peerOwn).publicKey =
      .keyChanged := changed
    show checkTrust c d.store _ _ = _
    simp [stored, checkTrust, calm.reads, changed']
  have sessions := refuse_honest_init works (d.step .accept) waiting peer new lookup
  show ¬ ReturnsTrusted (((d.step .accept).receive d.sessions.length
    (.frame (.init (peer.hello peerOwn))) c).receive _ _ c') _ peer
  generalize (d.step .accept).receive d.sessions.length
    (.frame (.init (peer.hello peerOwn))) c = refused at sessions ⊢
  have failed : refused.sessions[d.sessions.length]? = some (.failed none .keyChanged) := by
    rw [sessions]
    exact found_set waiting
  rintro ⟨_, _, _, done, _⟩
  simp [Device.receive, failed] at done

end Roles

theorem created_verifies (correct : S.Correct) {old new : DeviceKeypair S} {now : Time}
    {cert : TransitionCertificate} (made : createTransitionCertificate old new now = .ok cert) :
    verifyTransitionCertificate S.toPrimitives cert = true ∧ cert.oldDeviceId = old.deviceId ∧
      cert.newDeviceId = new.deviceId ∧
      cert.newPublicKey = Base64.encode new.publicKeyBytes := by
  unfold createTransitionCertificate at made
  split at made
  · cases made
  · cases made
    refine ⟨?_, rfl, rfl, rfl⟩
    simp only [verifyTransitionCertificate, Primitives.verifyB64, signTransition,
      Base64.decode_encode]
    exact correct.verifies _ _

theorem base64_ne_hex {key : Bytes} (size : key.length = 32) :
    Base64.encode key ≠ encode key := by
  intro same
  have lengths := congrArg List.length same
  rw [Base64.encode_length, encode_length, size] at lengths
  omega

theorem honest_conditions (correct : S.Correct) (id : DeviceKeypair S) (store : Option TrustStore) :
    ∃ (own : Own S) (c : Conditions S), Calm c ∧ NewNonce (Device.start id store) c own := by
  obtain ⟨ephemeral⟩ := correct.generates
  refine ⟨⟨ephemeral, ['n'], []⟩, ⟨0, fun _ => true, false, false, ⟨ephemeral, [], []⟩⟩, ⟨rfl, rfl⟩,
    nofun, rfl⟩

/-- Exactly when the store already had the new device under the key its handshakes present. -/
theorem rotation_carries_trust_iff (S : Suite) (correct : S.Correct) (O N : DeviceKeypair S)
    (s : TrustStore) (approved : TrustedWithKey s O.deviceId (encode O.publicKeyBytes))
    (created now : Time) (cert : TransitionCertificate)
    (made : createTransitionCertificate O N created = .ok cert) (live : ¬ Revoked s N.deviceId) :
    (∀ (ops : List TrustOp) (d : Device S),
        d.store = some (run (step S.toPrimitives) s (.recordRotation cert now :: ops)) →
        ¬ Revoked (run (step S.toPrimitives) s (.recordRotation cert now :: ops)) O.deviceId →
        ¬ Revoked (run (step S.toPrimitives) s (.recordRotation cert now :: ops)) N.deviceId →
        HonestHandshakesTrusted d N) ↔
      ∃ row, s.get N.deviceId = some row ∧ row.publicKey = encode N.publicKeyBytes := by
  obtain ⟨verified, oldId, newId, newKey⟩ := created_verifies correct made
  obtain ⟨_, known, trusted, _⟩ := approved
  rw [← oldId] at known
  rw [← newId] at live ⊢
  obtain ⟨row, rotated, status, key⟩ := rotated_row verified known trusted now live
  constructor
  · intro carries
    by_contra unknown
    have otherKey : row.publicKey ≠ encode N.publicKeyBytes := by
      rw [key]
      cases before : s.get cert.newDeviceId with
      | none =>
        rw [newKey]
        exact base64_ne_hex (correct.keySize _)
      | some kept => exact fun same => unknown ⟨kept, before, same⟩
    have liveO : ¬ Revoked (step S.toPrimitives s (.recordRotation cert now)) O.deviceId := by
      rintro ⟨_, found, revoked⟩
      rw [← oldId] at found
      obtain ⟨_, _, _, same⟩ := revoked_by_revocation known (by simp [trusted]) found revoked
      cases same
    have liveN : ¬ Revoked (step S.toPrimitives s (.recordRotation cert now))
        cert.newDeviceId := by
      rintro ⟨_, found, revoked⟩
      cases rotated.symm.trans found
      rw [status] at revoked
      cases revoked
    obtain ⟨own, c, calm, new⟩ := honest_conditions correct O
      (some (step S.toPrimitives s (.recordRotation cert now)))
    have changed := (check_of_row rotated).2 otherKey
    rw [newId] at changed
    exact changed_key_not_returned (correct_works correct) rfl N calm new c changed
      (carries [] (Device.start O _) rfl liveO liveN own own c c calm calm new).1
  · rintro ⟨_, found, sameKey⟩ ops _ stored _ liveN _ own _ _ calm calm' new
    rw [found] at key
    obtain ⟨_, foundLast, keyLast, statusLast⟩ := trusted_run rotated status ops liveN
    have checked := (check_of_row foundLast).1 (keyLast.trans (key.trans sameKey)) statusLast
    rw [newId] at checked
    exact ⟨responder_returns_trusted (correct_works correct) stored N calm new calm' checked,
      initiator_returns_trusted (correct_works correct) stored N calm new own checked⟩

section Sample

theorem sample_correct : (Suite.sample tailDigest).Correct :=
  have works := sample_works fun key _ => by rw [tail_digest_size]; omega
  { verifies := works.verifies
    keySize := works.keySize
    signatureSize := works.signatureSize
    digestSize := fun data => by
      show 0 < (tailDigest data).length
      rw [tail_digest_size]
      omega
    ephemeralSize := works.ephemeralSize
    exchanges := works.exchanges
    generates := ⟨⟨List.replicate 32 0, rfl⟩⟩ }

abbrev tailed : Suite := Suite.sample tailDigest

def seenInHandshake (id : DeviceKeypair tailed) (now : Time) : TrustOp :=
  .recordFirstSeen id.deviceId (encode id.publicKeyBytes) [] (fun _ => true) now

def annToBob : TransitionCertificate := signTransition (ann tailDigest) (bob tailDigest) 5

theorem ann_to_bob_created :
    createTransitionCertificate (ann tailDigest) (bob tailDigest) 5 = .ok annToBob :=
  if_neg (by decide +kernel)

def approvedAnn (others : List TrustOp) : TrustStore :=
  run (step tailed.toPrimitives) TrustStore.empty
    ([seenInHandshake (ann tailDigest) 1, .approve (ann tailDigest).deviceId] ++ others)

def knewBob : TrustStore :=
  run (step tailed.toPrimitives) (approvedAnn [seenInHandshake (bob tailDigest) 2])
    [.recordRotation annToBob 6]

theorem known_successor_trusted :
    HonestHandshakesTrusted (Device.start (ann tailDigest) (some knewBob)) (bob tailDigest) := by
  have carries :=
    (rotation_carries_trust_iff tailed sample_correct (ann tailDigest) (bob tailDigest)
    (approvedAnn [seenInHandshake (bob tailDigest) 2]) (by decide +kernel) 5 6 annToBob
    ann_to_bob_created (by decide +kernel)).mpr
  refine carries ⟨⟨(bob tailDigest).deviceId, encode (bob tailDigest).publicKeyBytes, [], 2, 2,
    .pending, none, none, none⟩, ?_, rfl⟩ [] _ rfl ?_ ?_
  · decide +kernel
  · have live : ¬ Revoked knewBob (ann tailDigest).deviceId := by decide +kernel
    exact live
  · have live : ¬ Revoked knewBob (bob tailDigest).deviceId := by decide +kernel
    exact live

def heardOfBob : TrustStore :=
  run (step tailed.toPrimitives) (approvedAnn []) [.recordRotation annToBob 6]

theorem unknown_successor_refused : ¬ ∀ (ops : List TrustOp) (d : Device tailed),
      d.store = some (run (step tailed.toPrimitives) (approvedAnn [])
        (.recordRotation annToBob 6 :: ops)) →
      ¬ Revoked (run (step tailed.toPrimitives) (approvedAnn [])
        (.recordRotation annToBob 6 :: ops)) (ann tailDigest).deviceId →
      ¬ Revoked (run (step tailed.toPrimitives) (approvedAnn [])
        (.recordRotation annToBob 6 :: ops)) (bob tailDigest).deviceId →
      HonestHandshakesTrusted d (bob tailDigest) := by
  intro carries
  obtain ⟨own, c, calm, new⟩ := honest_conditions sample_correct (ann tailDigest) (some heardOfBob)
  have changed : heardOfBob.check (bob tailDigest).deviceId
      (encode (bob tailDigest).publicKeyBytes) = .keyChanged := by
    decide +kernel
  have liveAnn : ¬ Revoked heardOfBob (ann tailDigest).deviceId := by decide +kernel
  have liveBob : ¬ Revoked heardOfBob (bob tailDigest).deviceId := by decide +kernel
  have trusted := carries [] (Device.start (ann tailDigest) (some heardOfBob)) rfl liveAnn liveBob
    own own c c calm calm new
  have stored : (Device.start (ann tailDigest) (some heardOfBob)).store = some heardOfBob := rfl
  exact changed_key_not_returned (correct_works sample_correct) stored
    (bob tailDigest) calm new c changed
    trusted.1

end Sample
end Peerc.Handshake
