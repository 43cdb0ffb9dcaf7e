import Peerc.Handshake.Session
import Peerc.Lib.Runs

/-!
What one step of a device can do to its sessions, its store and its signatures, as an inversion
of the step function.
-/
namespace Peerc.Handshake
open Trust Runs
variable {S : Suite}

def ProvenKey (S : Suite) (h : Hello) (key : Bytes) : Prop :=
  Hex.decode h.publicKey = some key ∧ S.sha256 key = h.deviceId

def Verifies (S : Suite) (key : Bytes) (signature : Text) (transcript : Bytes) : Prop :=
  ∃ raw, Hex.decode signature = some raw ∧ S.ed25519.verify key raw transcript = true

inductive Concludes (id : DeviceKeypair S) (t : Talk S) (finish : Text)
    (decision : TrustDecision) : Session S → Prop
  | failed (error : HandshakeError) : Concludes id t finish decision (.failed (some t) error)
  | done (secret : Bytes) (computed : computeSharedSecret t.own t.peer.ephemeralKey = .ok secret) :
      Concludes id t finish decision (.done t finish (id.conclude t finish decision secret))

inductive Outcome (d : Device S) :
    Event S → List (Session S) → Option TrustStore → List Bytes → Prop
  | idle {e : Event S} : Outcome d e d.sessions d.store d.signed
  | connected (own : Own S) :
      Outcome d (.connect own) (d.sessions ++ [.awaitResponse own]) d.store d.signed
  | accepted : Outcome d .accept (d.sessions ++ [.awaitInit]) d.store d.signed
  | failed {e : Event S} {k : Nat} {s : Session S} (found : d.sessions[k]? = some s)
      (live : ∀ t finish result, s ≠ .done t finish result) (error : HandshakeError) :
      Outcome d e (d.sessions.set k (.failed s.talk error)) d.store d.signed
  | answered {k : Nat} {init : Hello} {c : Conditions S} {key : Bytes} {pre : TrustDecision}
      (found : d.sessions[k]? = some .awaitInit) (proven : ProvenKey S init key)
      (checked : checkTrust c d.store init.deviceId init.publicKey = .ok pre)
      {t : Talk S} (talk : t = ⟨.responder, c.own, init,
        Hex.encode (d.identity.sign (computeResponderTranscript init (d.identity.hello c.own)))⟩) :
      Outcome d (.receive k (.frame (.init init)) c) (d.sessions.set k (.awaitFinish t key pre))
        d.store (d.signed ++ [d.identity.responderTranscript t])
  | verified {k : Nat} {own : Own S} {resp : Hello} {signature : Text} {c : Conditions S}
      {key : Bytes} {pre decision : TrustDecision} {store : Option TrustStore}
      (found : d.sessions[k]? = some (.awaitResponse own)) (proven : ProvenKey S resp key)
      (checked : checkTrust c d.store resp.deviceId resp.publicKey = .ok pre)
      {t : Talk S} (talk : t = ⟨.initiator, own, resp, signature⟩)
      (signed : Verifies S key signature (d.identity.responderTranscript t))
      (recorded : recordTrust c d.store resp.deviceId resp.publicKey resp.senderName pre =
        .ok (store, decision)) :
      Outcome d (.receive k (.frame (.response resp signature)) c)
        (d.sessions.set k
          (.draining t (Hex.encode (d.identity.sign (d.identity.initiatorTranscript t))) decision))
        store (d.signed ++ [d.identity.initiatorTranscript t])
  | returned {k : Nat} {t : Talk S} {finish : Text} {decision : TrustDecision} {s : Session S}
      (found : d.sessions[k]? = some (.draining t finish decision))
      (concludes : Concludes d.identity t finish decision s) :
      Outcome d (.drained k) (d.sessions.set k s) d.store d.signed
  | finished {k : Nat} {t : Talk S} {key : Bytes} {pre decision : TrustDecision} {finish : Text}
      {c : Conditions S} {store : Option TrustStore} {s : Session S}
      (found : d.sessions[k]? = some (.awaitFinish t key pre))
      (signed : Verifies S key finish (d.identity.initiatorTranscript t))
      (recorded : recordTrust c d.store t.peer.deviceId t.peer.publicKey t.peer.senderName pre =
        .ok (store, decision))
      (concludes : Concludes d.identity t finish decision s) :
      Outcome d (.receive k (.frame (.finish finish)) c) (d.sessions.set k s) store d.signed
  | operated (op : TrustOp) :
      Outcome d (.operate op) d.sessions (d.store.map (fun s => Trust.step S.toPrimitives s op))
        d.signed
  | signedOther (domain : {t : Text // t ∈ otherDomains}) (payload : Bytes) :
      Outcome d (.signOther domain payload) d.sessions d.store
        (d.signed ++ [utf8 domain.val ++ payload])

variable {key : Bytes} {publicKey : Text}

theorem verify_identity_ok {id : Text} (ok : verifyDeviceIdentity S id publicKey = .ok key) :
    Hex.decode publicKey = some key ∧ S.sha256 key = id := by
  unfold verifyDeviceIdentity at ok
  split at ok
  · cases ok
  · rename_i decoded
    split at ok
    · rename_i named
      cases ok
      exact ⟨decoded, named⟩
    · cases ok

variable {signature : Text}

theorem verify_signature_ok {transcript : Bytes}
    (ok : verifySignature S key signature transcript = .ok ()) :
    Verifies S key signature transcript := by
  unfold verifySignature at ok
  split at ok
  · cases ok
  · split at ok
    · cases ok
    · rename_i raw decoded
      split at ok
      · rename_i valid
        exact ⟨raw, decoded, valid⟩
      · cases ok

variable {c : Conditions S} {store : Option TrustStore} {pre : TrustDecision} {init : Hello}

theorem accept_init_ok (ok : acceptInit c store init = .ok (key, pre)) :
    ProvenKey S init key ∧ checkTrust c store init.deviceId init.publicKey = .ok pre := by
  unfold acceptInit at ok
  cases identified : verifyDeviceIdentity S init.deviceId init.publicKey with
  | error => simp [identified, bind, Except.bind] at ok
  | ok =>
    cases checked : checkTrust c store init.deviceId init.publicKey with
    | error => simp [identified, checked, bind, Except.bind] at ok
    | ok =>
      simp only [identified, checked, bind, Except.bind, pure, Except.pure, Except.ok.injEq,
        Prod.mk.injEq] at ok
      obtain ⟨rfl, rfl⟩ := ok
      exact ⟨verify_identity_ok identified, rfl⟩

variable {store' : Option TrustStore} {decision : TrustDecision}

theorem accept_response_ok {resp : Hello}
    (ok : acceptResponse c store init resp signature = .ok (store', decision)) :
    ∃ key pre, ProvenKey S resp key ∧
      checkTrust c store resp.deviceId resp.publicKey = .ok pre ∧
      Verifies S key signature (computeResponderTranscript init resp) ∧
      recordTrust c store resp.deviceId resp.publicKey resp.senderName pre =
        .ok (store', decision) := by
  unfold acceptResponse at ok
  cases identified : verifyDeviceIdentity S resp.deviceId resp.publicKey with
  | error => simp [identified, bind, Except.bind] at ok
  | ok key =>
    cases checked : checkTrust c store resp.deviceId resp.publicKey with
    | error => simp [identified, checked, bind, Except.bind] at ok
    | ok pre =>
      cases verified : verifySignature S key signature (computeResponderTranscript init resp) with
      | error => simp [identified, checked, verified, bind, Except.bind] at ok
      | ok =>
        simp only [identified, checked, verified, bind, Except.bind] at ok
        exact ⟨key, pre, verify_identity_ok identified, rfl, verify_signature_ok verified, ok⟩

theorem accept_finish_ok {transcript : Bytes}
    (ok : acceptFinish c store init key pre signature transcript = .ok (store', decision)) :
    Verifies S key signature transcript ∧
      recordTrust c store init.deviceId init.publicKey init.senderName pre =
        .ok (store', decision) := by
  unfold acceptFinish at ok
  cases verified : verifySignature S key signature transcript with
  | error => simp [verified, bind, Except.bind] at ok
  | ok =>
    simp only [verified, bind, Except.bind] at ok
    exact ⟨verify_signature_ok verified, ok⟩

inductive Recorded (c : Conditions S) (deviceId publicKey peerName : Text) :
    Option TrustStore → TrustDecision → Option TrustStore → TrustDecision → Prop
  | unstored {pre : TrustDecision} : Recorded c deviceId publicKey peerName none pre none pre
  | seen {s t : TrustStore} (done : s.recordFirstSeen deviceId publicKey
        (peerName.take maxPeerNameLength) c.permitted c.now = .ok t) :
      Recorded c deviceId publicKey peerName (some s) .unknown (some t) .pending
  | touched {s : TrustStore} {pre : TrustDecision} (known : pre = .pending ∨ pre = .trusted) :
      Recorded c deviceId publicKey peerName (some s) pre
        (some (s.touchLastSeen deviceId c.now)) pre
  | barred {s : TrustStore} {pre : TrustDecision} (bad : pre = .keyChanged ∨ pre = .revoked) :
      Recorded c deviceId publicKey peerName (some s) pre (some s) pre

theorem record_ok {deviceId peerName : Text}
    (ok : recordTrust c store deviceId publicKey peerName pre = .ok (store', decision)) :
    Recorded c deviceId publicKey peerName store pre store' decision := by
  unfold recordTrust at ok
  split at ok
  · cases ok
    exact .unstored
  · split at ok
    · split at ok
      · cases ok
      · split at ok
        · rename_i done
          cases ok
          exact .seen done
        · cases ok
    · split at ok
      · cases ok
      · cases ok
        exact .touched (.inl rfl)
    · split at ok
      · cases ok
      · cases ok
        exact .touched (.inr rfl)
    · cases ok
      exact .barred (.inl rfl)
    · cases ok
      exact .barred (.inr rfl)

theorem check_ok {s : TrustStore} {deviceId : Text}
    (ok : checkTrust c (some s) deviceId publicKey = .ok pre) :
    s.check deviceId publicKey = pre ∧ pre ≠ .revoked ∧ pre ≠ .keyChanged := by
  simp only [checkTrust] at ok
  split at ok
  · cases ok
  · split at ok
    · cases ok
    · cases ok
    · rename_i notRevoked notChanged
      cases ok
      exact ⟨rfl, notRevoked, notChanged⟩

variable (d : Device S) (k : Nat) (t : Talk S)

theorem finish_session_concludes (finish : Text) (decision : TrustDecision) :
    ∃ s, Concludes d.identity t finish decision s ∧
      d.finishSession k t finish decision = d.put k s := by
  unfold Device.finishSession
  split
  · rename_i error _
    exact ⟨_, .failed error, rfl⟩
  · rename_i secret computed
    exact ⟨_, .done secret computed, rfl⟩

theorem read_frame {incoming : Incoming} {f : Frame} (ok : readMessage incoming = .ok f) :
    incoming = .frame f := by
  unfold readMessage at ok
  split at ok
  · split at ok
    · cases ok
      rfl
    · cases ok
  · cases ok
  · cases ok

variable (e : Event S)

def Device.Did (d' : Device S) : Prop :=
  Outcome d e d'.sessions d'.store d'.signed

theorem receive_response_outcome (own : Own S) (resp : Hello) (signature : Text) (c : Conditions S)
    (found : d.sessions[k]? = some (.awaitResponse own)) :
    d.Did (.receive k (.frame (.response resp signature)) c)
      (d.receiveResponse k own resp signature c) := by
  unfold Device.receiveResponse
  dsimp only
  split
  · split
    · rename_i error _
      exact .failed found nofun error
    · rename_i ok
      obtain ⟨_, _, proven, checked, signed, recorded⟩ := accept_response_ok ok
      exact .verified found proven checked rfl signed recorded
  · exact .failed found nofun .replayed

theorem receive_init_outcome (init : Hello) (c : Conditions S)
    (found : d.sessions[k]? = some .awaitInit) :
    d.Did (.receive k (.frame (.init init)) c) (d.receiveInit k init c) := by
  unfold Device.receiveInit
  dsimp only
  split
  · split
    · rename_i error _
      exact .failed found nofun error
    · rename_i ok
      obtain ⟨proven, checked⟩ := accept_init_ok ok
      exact .answered found proven checked rfl
  · exact .failed found nofun .replayed

theorem receive_finish_outcome (key : Bytes) (pre : TrustDecision) (signature : Text)
    (c : Conditions S) (found : d.sessions[k]? = some (.awaitFinish t key pre)) :
    d.Did (.receive k (.frame (.finish signature)) c)
      (d.receiveFinish k t key pre signature c) := by
  unfold Device.receiveFinish
  split
  · rename_i error _
    exact .failed found nofun error
  · rename_i store decision ok
    obtain ⟨signed, recorded⟩ := accept_finish_ok ok
    obtain ⟨_, concludes, same⟩ :=
      finish_session_concludes { d with store := store } k t signature decision
    rw [same]
    exact .finished found signed recorded concludes

theorem receive_outcome (incoming : Incoming) (c : Conditions S) :
    d.Did (.receive k incoming c) (d.receive k incoming c) := by
  unfold Device.receive
  split
  · rename_i own found
    split
    · rename_i resp signature ok
      rw [read_frame ok]
      exact receive_response_outcome d k own resp signature c found
    · exact .failed found nofun .unexpected
    · rename_i error _
      exact .failed found nofun error
  · rename_i found
    split
    · rename_i init ok
      rw [read_frame ok]
      exact receive_init_outcome d k init c found
    · exact .failed found nofun .unexpected
    · rename_i error _
      exact .failed found nofun error
  · rename_i t key pre found
    split
    · rename_i signature ok
      rw [read_frame ok]
      exact receive_finish_outcome d k t key pre signature c found
    · exact .failed found nofun .unexpected
    · rename_i error _
      exact .failed found nofun error
  · exact .idle

theorem step_outcome : d.Did e (d.step e) := by
  cases e with
  | connect own => exact .connected own
  | accept => exact .accepted
  | receive k incoming c => exact receive_outcome d k incoming c
  | drained k =>
    simp only [Device.step, Device.drained]
    split
    · rename_i t finish decision found
      obtain ⟨_, concludes, same⟩ := finish_session_concludes d k t finish decision
      rw [same]
      exact .returned found concludes
    · exact .idle
  | broken =>
    simp only [Device.step, Device.broken]
    split
    · exact .idle
    · exact .idle
    · exact .idle
    · rename_i notDone _ found
      exact .failed found notDone .raised
  | operate op => exact .operated op
  | signOther domain payload => exact .signedOther domain payload

@[elab_as_elim] theorem step_cases
    {motive : List (Session S) → Option TrustStore → List Bytes → Prop}
    (outcomes : ∀ sessions store signed, Outcome d e sessions store signed →
      motive sessions store signed) :
    motive (d.step e).sessions (d.step e).store (d.step e).signed :=
  outcomes _ _ _ (step_outcome d e)

theorem finish_session_identity (finish : Text) (decision : TrustDecision) :
    (d.finishSession k t finish decision).identity = d.identity := by
  obtain ⟨_, _, same⟩ := finish_session_concludes d k t finish decision
  rw [same]
  rfl

theorem receive_identity (incoming : Incoming) (c : Conditions S) :
    (d.receive k incoming c).identity = d.identity := by
  unfold Device.receive
  split
  · split
    · unfold Device.receiveResponse
      dsimp only
      split
      · split <;> rfl
      · rfl
    · rfl
    · rfl
  · split
    · unfold Device.receiveInit
      dsimp only
      split
      · split <;> rfl
      · rfl
    · rfl
    · rfl
  · split
    · unfold Device.receiveFinish
      split
      · rfl
      · exact finish_session_identity _ k _ _ _
    · rfl
    · rfl
  · rfl

theorem step_identity : (d.step e).identity = d.identity := by
  cases e with
  | receive k incoming c => exact receive_identity d k incoming c
  | drained k =>
    simp only [Device.step, Device.drained]
    split
    · exact finish_session_identity d k _ _ _
    · rfl
  | broken =>
    simp only [Device.step, Device.broken]
    split <;> rfl
  | connect | accept | operate | signOther => rfl

end Peerc.Handshake
