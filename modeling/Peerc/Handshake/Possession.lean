import Peerc.Handshake.Sessions
import Peerc.Trust.Monotone

/-!
When a handshake writes to the trust store: in the step that verifies the peer's signature over
this session's own transcript.
-/
namespace Peerc.Handshake
open Trust Runs
variable {S : Suite}

def rowOf (store : Option TrustStore) (deviceId : Text) : Option TrustedDevice :=
  store.bind (fun s => s.get deviceId)

inductive Proves (d : Device S) (deviceId : Text) : Event S → Prop
  | response {k : Nat} {own : Own S} {resp : Hello} {signature : Text} {c : Conditions S}
      {key : Bytes} (found : d.sessions[k]? = some (.awaitResponse own))
      (decoded : Hex.decode resp.publicKey = some key) (named : S.sha256 key = deviceId)
      (signed : Verifies S key signature
        (computeResponderTranscript (d.identity.hello own) resp)) :
      Proves d deviceId (.receive k (.frame (.response resp signature)) c)
  | finish {k : Nat} {t : Talk S} {key : Bytes} {pre : TrustDecision} {signature : Text}
      {c : Conditions S} (found : d.sessions[k]? = some (.awaitFinish t key pre))
      (decoded : Hex.decode t.peer.publicKey = some key) (named : S.sha256 key = deviceId)
      (signed : Verifies S key signature (computeInitiatorTranscript
        (computeResponderTranscript t.peer (d.identity.hello t.own)) t.responseSignature)) :
      Proves d deviceId (.receive k (.frame (.finish signature)) c)

def WritesAfterProof (d : Device S) (e : Event S) : Prop :=
  (∃ op, e = .operate op) ∨ (d.step e).store = d.store ∨
    ∃ deviceId, Proves d deviceId e ∧
      ∀ other, other ≠ deviceId → rowOf (d.step e).store other = rowOf d.store other

theorem record_other {c : Conditions S} {store store' : Option TrustStore}
    {deviceId publicKey peerName : Text} {pre decision : TrustDecision}
    (recorded : Recorded c deviceId publicKey peerName store pre store' decision)
    {other : Text} (apart : other ≠ deviceId) : rowOf store' other = rowOf store other := by
  cases recorded with
  | unstored | barred => rfl
  | @seen s t done =>
    have change := row_step S.toPrimitives s (.recordFirstSeen deviceId publicKey
      (peerName.take maxPeerNameLength) c.permitted c.now) other
    simp only [Trust.step, done, settle] at change
    show t.get other = s.get other
    generalize t.get other = after at change ⊢
    cases change with
    | same => rfl
    | seen => exact absurd rfl apart
  | @touched s _ known =>
    have change := row_step S.toPrimitives s (.touchLastSeen deviceId c.now) other
    show (s.touchLastSeen deviceId c.now).get other = s.get other
    simp only [Trust.step] at change
    generalize (s.touchLastSeen deviceId c.now).get other = after at change ⊢
    cases change with
    | same => rfl
    | touched => exact absurd rfl apart

theorem writes_after_proof_step {d : Device S} (sound : d.Sound) (e : Event S) :
    WritesAfterProof d e := by
  unfold WritesAfterProof
  refine step_cases d e fun sessions store signed outcome => ?_
  cases outcome with
  | verified found proven _ talk signed recorded =>
    subst talk
    refine .inr (.inr ⟨_, .response found proven.1 proven.2 signed, ?_⟩)
    exact fun other apart => record_other (record_ok recorded) apart
  | finished found signed recorded =>
    obtain ⟨role, proven, _⟩ := sound_at sound found
    refine .inr (.inr ⟨_, .finish found proven.1 proven.2 ?_, ?_⟩)
    · simpa [DeviceKeypair.initiatorTranscript, DeviceKeypair.responderTranscript,
        DeviceKeypair.hellos, role] using signed
    · exact fun other apart => record_other (record_ok recorded) apart
  | operated op => exact .inl ⟨op, rfl⟩
  | _ => exact .inr (.inl rfl)

/-- A handshake writes trust only in the step that proves possession of the key. -/
theorem trust_written_after_proof (S : Suite) (id : DeviceKeypair S) (store : Option TrustStore)
    (events : List (Event S)) :
    Along Device.step WritesAfterProof (Device.start id store) events := by
  exact invariant_along (fun _ e sound _ => sound_step sound e)
    (fun _ e sound _ => writes_after_proof_step sound e) (start_sound id store)
    (along_free _ events)

end Peerc.Handshake
