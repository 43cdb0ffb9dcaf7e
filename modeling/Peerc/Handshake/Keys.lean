import Peerc.Handshake.Kdf
import Peerc.Handshake.Network

/-!
The session keys of the two ends. The hash they come from covers the text of the initiator's
signature, while the responder verifies only the bytes that text stands for.
-/
namespace Peerc.Handshake
open List Trust Runs Net
variable {S : Suite} {t : Talk S} {finish : Text}

def HandshakeResult.sessionKeys (S : Suite) (result : HandshakeResult) (isInitiator : Bool) :
    Except KdfError SessionKeys :=
  deriveSessionKeys S result.sharedSecret result.transcriptHash isInitiator

def KeysMatch (S : Suite) (initiator responder : HandshakeResult) : Prop :=
  initiator.transcriptHash = responder.transcriptHash ∧
    responder.sessionKeys S false = (initiator.sessionKeys S true).map SessionKeys.swap

def KeyExchange.Commutes (X : KeyExchange) : Prop :=
  ∀ a b, X.exchange a (X.publicKey b) = X.exchange b (X.publicKey a)

/-- The spelling hex() gives: lower case, no blanks. -/
def CanonicalHex (text : Text) : Prop := ∃ raw, text = Hex.encode raw

/-- The same identity, ephemeral key and nonce; display names may differ. -/
def Hello.SameKeys (g h : Hello) : Prop :=
  g.deviceId = h.deviceId ∧ g.publicKey = h.publicKey ∧ g.ephemeralKey = h.ephemeralKey ∧
    g.nonce = h.nonce

def SameKeys (v w : Hello × Hello) : Prop := Hello.SameKeys v.1 w.1 ∧ Hello.SameKeys v.2 w.2

structure Returned (net : Net S) (p : Nat × Nat) (role : Role) (d : Device S) (t : Talk S)
    (finish : Text) (result : HandshakeResult) : Prop where
  device : net[p.1]? = some d
  session : d.sessions[p.2]? = some (.done t finish result)
  role : t.role = role

theorem result_of_done {d : Device S} (sound : d.Sound) {k : Nat} {result : HandshakeResult}
    (found : d.sessions[k]? = some (.done t finish result)) :
    computeSharedSecret t.own t.peer.ephemeralKey = .ok result.sharedSecret ∧
      result.transcriptHash =
        computeFinalTranscriptHash S (d.identity.initiatorTranscript t) finish := by
  obtain ⟨_, _, _, computed, same⟩ := sound_at sound found
  subst same
  exact ⟨computed, rfl⟩

theorem initiator_of_done {d : Device S} (sound : d.Sound) {k : Nat} {result : HandshakeResult}
    (found : d.sessions[k]? = some (.done t finish result)) (role : t.role = .initiator) :
    finish = Hex.encode (d.identity.sign (d.identity.initiatorTranscript t)) := by
  obtain ⟨sides, _⟩ := sound_at sound found
  rcases sides with initiator | responder
  · exact initiator.finish_own
  · have clash := responder.role
    rw [role] at clash
    cases clash

theorem secret_from_own {own : Own S} {ephemeral : S.x25519.PrivateKey} {secret : Bytes}
    (computed : computeSharedSecret own (Hex.encode (S.x25519.publicKey ephemeral)) = .ok secret) :
    S.x25519.exchange own.ephemeral (S.x25519.publicKey ephemeral) = some secret := by
  unfold computeSharedSecret at computed
  rw [Hex.decode_encode] at computed
  dsimp only at computed
  split at computed
  · cases computed
  · split at computed
    · cases computed
    · rename_i found
      cases computed
      exact found

theorem secrets_equal (commutes : S.x25519.Commutes) {mine theirs : Own S} {secret secret' : Bytes}
    (first : computeSharedSecret mine (Hex.encode (S.x25519.publicKey theirs.ephemeral)) =
      .ok secret)
    (second : computeSharedSecret theirs (Hex.encode (S.x25519.publicKey mine.ephemeral)) =
      .ok secret') : secret = secret' := by
  have one := secret_from_own first
  rw [commutes, secret_from_own second] at one
  exact (Option.some.inj one).symm

theorem initiator_hellos {id : DeviceKeypair S} (role : t.role = .initiator) :
    id.hellos t = (id.hello t.own, t.peer) := by
  simp [DeviceKeypair.hellos, role]

theorem responder_hellos {id : DeviceKeypair S} (role : t.role = .responder) :
    id.hellos t = (t.peer, id.hello t.own) := by
  simp [DeviceKeypair.hellos, role]

theorem ends_saw_same {net : Net S} (inv : Authentic .strong net) {p q : Nat × Nat}
    {dI dR : Device S} {tI tR : Talk S} {fI fR : Text} {rI rR : HandshakeResult}
    (initiator : Returned net p .initiator dI tI fI rI)
    (responder : Returned net q .responder dR tR fR rR)
    (agree : SameKeys (dI.identity.hellos tI) (dR.identity.hellos tR)) :
    dI.identity.initiatorTranscript tI = dR.identity.initiatorTranscript tR ∧
      dI.identity.hellos tI = dR.identity.hellos tR ∧
      Hex.decode fR = some (dI.identity.sign (dI.identity.initiatorTranscript tI)) := by
  have insideI : dI ∈ net := mem_of_getElem? initiator.device
  have insideR : dR ∈ net := mem_of_getElem? responder.device
  have inits := agree.1
  rw [initiator_hellos initiator.role, responder_hellos responder.role] at inits
  have named : Hex.decode tR.peer.publicKey = some dI.identity.publicKeyBytes := by
    rw [← inits.2.1]
    exact Hex.decode_encode _
  have verified : (Session.done tR fR rR).verified dR.identity =
      some (tR.peer, dR.identity.initiatorTranscript tR, fR) := by
    simp [Session.verified, responder.role]
  obtain ⟨b, inside, _, signed, made⟩ := inv.backed dR insideR _
    (mem_of_getElem? responder.session) _ _ _ verified dI insideI named
  obtain ⟨k, t, said, role, hellos, signature⟩ := initiator_signed (inv.logged b inside) signed
  obtain ⟨i, found⟩ := getElem?_of_mem inside
  -- the nonce tells which session of which device it was
  have drawnI : net.ownAt p = some tI.own := by
    simp [ownAt, Device.ownAt, initiator.device, initiator.session, Session.own, Session.talk]
  have drawnB : net.ownAt (i, k) = some t.own := by
    obtain ⟨_, here, talk⟩ := Option.bind_eq_some_iff.mp said
    simp [ownAt, Device.ownAt, found, here, own_of_talk talk]
  have nonce : tI.own.nonce = t.own.nonce := by
    rw [initiator_hellos role, responder_hellos responder.role] at hellos
    have init : b.identity.hello t.own = tR.peer := congrArg Prod.fst hellos
    calc tI.own.nonce = tR.peer.nonce := inits.2.2.2
      _ = (b.identity.hello t.own).nonce := by rw [init]
  cases inv.distinct p (i, k) tI.own t.own drawnI drawnB nonce
  cases initiator.device.symm.trans found
  cases (talk_of_done initiator.session).symm.trans said
  have sameText : dI.identity.initiatorTranscript tI = dR.identity.initiatorTranscript tR := by
    simp [DeviceKeypair.initiatorTranscript, DeviceKeypair.responderTranscript, hellos, signature]
  refine ⟨sameText, hellos, ?_⟩
  rw [sameText]
  exact made rfl

/-- Exactly when the responder read the initiator's signature as it was written. -/
theorem keys_match_iff_canonical (S : Suite) (commutes : S.x25519.Commutes)
    (parties : List (DeviceKeypair S × Option TrustStore)) (moves : List (Nat × Event S))
    (admitted : Along step (fun net move => Unforged .strong net move ∧ FreshNonce net move)
      (start parties) moves)
    (p q : Nat × Nat) (dI dR : Device S) (tI tR : Talk S) (fI fR : Text) (rI rR : HandshakeResult)
    (initiator : Returned (run step (start parties) moves) p .initiator dI tI fI rI)
    (responder : Returned (run step (start parties) moves) q .responder dR tR fR rR)
    (agree : SameKeys (dI.identity.hellos tI) (dR.identity.hellos tR))
    (noCollision : S.digest (finalTranscript (dI.identity.initiatorTranscript tI) fI) =
        S.digest (finalTranscript (dR.identity.initiatorTranscript tR) fR) →
      finalTranscript (dI.identity.initiatorTranscript tI) fI =
        finalTranscript (dR.identity.initiatorTranscript tR) fR) :
    KeysMatch S rI rR ↔ CanonicalHex fR := by
  have inv := invariant_run authentic_step (authentic_start parties) admitted
  obtain ⟨sameText, hellos, read⟩ := ends_saw_same inv initiator responder agree
  have soundI := inv.sound dI (mem_of_getElem? initiator.device)
  have soundR := inv.sound dR (mem_of_getElem? responder.device)
  obtain ⟨secretI, hashI⟩ := result_of_done soundI initiator.session
  obtain ⟨secretR, hashR⟩ := result_of_done soundR responder.session
  have written := initiator_of_done soundI initiator.session initiator.role
  rw [← sameText] at hashR noCollision
  constructor
  · intro keys
    have digests := keys.1
    rw [hashI, hashR] at digests
    have same : fI = fR := utf8_injective (append_cancel_left (noCollision digests))
    exact ⟨_, same.symm.trans written⟩
  · intro canonical
    obtain ⟨raw, spelled⟩ := canonical
    have bytes : raw = dI.identity.sign (dI.identity.initiatorTranscript tI) := by
      rw [spelled, Hex.decode_encode] at read
      exact Option.some.inj read
    have same : fI = fR := by rw [written, spelled, bytes]
    have secrets : rI.sharedSecret = rR.sharedSecret := by
      rw [initiator_hellos initiator.role, responder_hellos responder.role] at hellos
      obtain ⟨inits, resps⟩ := Prod.mk.inj hellos
      rw [resps] at secretI
      rw [← inits] at secretR
      exact secrets_equal commutes secretI secretR
    have hashes : rI.transcriptHash = rR.transcriptHash := by rw [hashI, hashR, same]
    refine ⟨hashes, ?_⟩
    unfold HandshakeResult.sessionKeys
    rw [← secrets, ← hashes]
    exact directions_swap S _ _

section Sample

theorem sample_commutes : KeyExchange.sample.Commutes := by
  rintro ⟨_, _⟩ ⟨_, _⟩
  exact congrArg some (zipWith_comm_of_comm UInt8.add_comm)

def exchangeNet (finish : Text) : Net (Suite.sample tailDigest) :=
  run step (start (exchangeStart tailDigest)) (exchangeMoves tailDigest finish)

def ExchangeAdmitted (finish : Text) : Prop :=
  Along step (fun net move => Unforged .strong net move ∧ FreshNonce net move)
    (start (exchangeStart tailDigest)) (exchangeMoves tailDigest finish)

structure Seen where
  role : Role
  finish : Text
  hellos : Hello × Hello
  transcript : Bytes
  hash : Bytes
  deriving DecidableEq

def seen (o : Device S × Talk S × Text × HandshakeResult) : Seen :=
  ⟨o.2.1.role, o.2.2.1, o.1.identity.hellos o.2.1, o.1.identity.initiatorTranscript o.2.1,
    o.2.2.2.transcriptHash⟩

theorem returned_of_seen {net : Net S} {p : Nat × Nat} {view : Seen}
    (ended : (net.outcome p).map seen = some view) :
    ∃ d t result, Returned net p view.role d t view.finish result ∧
      d.identity.hellos t = view.hellos ∧ d.identity.initiatorTranscript t = view.transcript ∧
      result.transcriptHash = view.hash := by
  obtain ⟨⟨d, t, _, result⟩, found, rfl⟩ := Option.map_eq_some_iff.mp ended
  exact ⟨d, t, result, ⟨(outcome_some found).1, (outcome_some found).2, rfl⟩, rfl, rfl, rfl⟩

def exchangeSeen (role : Role) (finish : Text) : Seen :=
  let transcript := (ann tailDigest).initiatorTranscript (annTalk tailDigest)
  ⟨role, finish, (ann tailDigest).hellos (annTalk tailDigest), transcript,
    computeFinalTranscriptHash (Suite.sample tailDigest) transcript finish⟩

def Exchanged (finish : Text) : Prop :=
  ((exchangeNet finish).outcome (0, 0)).map seen =
      some (exchangeSeen .initiator (annFinish tailDigest)) ∧
    ((exchangeNet finish).outcome (1, 0)).map seen = some (exchangeSeen .responder finish) ∧
    Along step Checked (start (exchangeStart tailDigest)) (exchangeMoves tailDigest finish)

instance (finish : Text) : Decidable (Exchanged finish) := inferInstanceAs (Decidable (_ ∧ _))

-- The digest keeps the last bytes of its input, and only one of the two texts ends in a blank.
theorem exchanges_evaluated :
    Exchanged (annFinish tailDigest) ∧ Exchanged (annFinish tailDigest ++ [' ']) ∧
      (exchangeSeen .initiator (annFinish tailDigest)).hash ≠
        (exchangeSeen .responder (annFinish tailDigest ++ [' '])).hash := by
  decide +kernel

theorem exchange_ends (exchanged : Exchanged finish) :
    ExchangeAdmitted finish ∧ ∃ dI tI rI dR tR rR,
      Returned (exchangeNet finish) (0, 0) .initiator dI tI (annFinish tailDigest) rI ∧
      Returned (exchangeNet finish) (1, 0) .responder dR tR finish rR ∧
      dI.identity.hellos tI = dR.identity.hellos tR ∧
      dI.identity.initiatorTranscript tI = dR.identity.initiatorTranscript tR ∧
      rI.transcriptHash = (exchangeSeen .initiator (annFinish tailDigest)).hash ∧
      rR.transcriptHash = (exchangeSeen .responder finish).hash := by
  obtain ⟨endI, endR, checked⟩ := exchanged
  obtain ⟨dI, tI, rI, returnedI, hellosI, textI, hashI⟩ := returned_of_seen endI
  obtain ⟨dR, tR, rR, returnedR, hellosR, textR, hashR⟩ := returned_of_seen endR
  exact ⟨admitted_of_checked checked, dI, tI, rI, dR, tR, rR, returnedI, returnedR,
    hellosI.trans hellosR.symm, textI.trans textR.symm, hashI, hashR⟩

theorem same_hellos_agree {v w : Hello × Hello} (same : v = w) : SameKeys v w := by
  subst same
  exact ⟨⟨rfl, rfl, rfl, rfl⟩, ⟨rfl, rfl, rfl, rfl⟩⟩

theorem passed_on_finish_matches : ∃ dI tI fI rI dR tR rR,
      Returned (exchangeNet (annFinish tailDigest)) (0, 0) .initiator dI tI fI rI ∧
      Returned (exchangeNet (annFinish tailDigest)) (1, 0) .responder dR tR (annFinish tailDigest)
        rR ∧
      KeysMatch (Suite.sample tailDigest) rI rR := by
  obtain ⟨admitted, dI, tI, rI, dR, tR, rR, returnedI, returnedR, hellos, text, _⟩ :=
    exchange_ends exchanges_evaluated.1
  refine ⟨dI, tI, _, rI, dR, tR, rR, returnedI, returnedR, ?_⟩
  apply (keys_match_iff_canonical (Suite.sample tailDigest) sample_commutes
    (exchangeStart tailDigest) (exchangeMoves tailDigest (annFinish tailDigest)) admitted (0, 0)
    (1, 0) dI dR _ _ _ _ rI rR returnedI returnedR (same_hellos_agree hellos)
    (fun _ => by rw [text])).mpr
  exact ⟨(ann tailDigest).sign ((ann tailDigest).initiatorTranscript (annTalk tailDigest)), rfl⟩

theorem respelled_finish_splits_keys :
    ExchangeAdmitted (annFinish tailDigest ++ [' ']) ∧ ∃ dI tI fI rI dR tR rR,
      Returned (exchangeNet (annFinish tailDigest ++ [' '])) (0, 0) .initiator dI tI fI rI ∧
      Returned (exchangeNet (annFinish tailDigest ++ [' '])) (1, 0) .responder dR tR
        (annFinish tailDigest ++ [' ']) rR ∧
      SameKeys (dI.identity.hellos tI) (dR.identity.hellos tR) ∧
      ¬ KeysMatch (Suite.sample tailDigest) rI rR := by
  obtain ⟨_, respelled, differ⟩ := exchanges_evaluated
  obtain ⟨admitted, dI, tI, rI, dR, tR, rR, returnedI, returnedR, hellos, _, hashI, hashR⟩ :=
    exchange_ends respelled
  refine ⟨admitted, dI, tI, _, rI, dR, tR, rR, returnedI, returnedR, same_hellos_agree hellos, ?_⟩
  rw [← hashI, ← hashR] at differ
  exact fun keys => differ keys.1

end Sample
end Peerc.Handshake
