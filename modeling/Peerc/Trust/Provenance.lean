import Peerc.Lib.Runs
import Peerc.Trust.Store

/-!
Where trust comes from. A rotation certificate proves possession of the key it carries, and the
store does not ask whether that is the key on file for the old device.
-/
namespace Peerc.Trust
open Runs TrustStore Primitives Base64

def Trusted (s : TrustStore) (deviceId : Text) : Prop :=
  ∃ r, s.get deviceId = some r ∧ r.status = .trusted

variable (env : Primitives)

def SignedByKeyOnFile (s : TrustStore) (cert : TransitionCertificate) : Prop :=
  ∃ old key sig, s.get cert.oldDeviceId = some old ∧ old.status = .trusted ∧
    decode old.publicKey = some key ∧ decode cert.signature = some sig ∧
    env.ed25519.Signed key sig (cert.buildPayload env)

def Warrants (s : TrustStore) (deviceId : Text) : TrustOp → Prop
  | .approve d => d = deviceId
  | .recordRotation cert _ => cert.newDeviceId = deviceId ∧ SignedByKeyOnFile env s cert
  | _ => False

def CarriesKeyOnFile (s : TrustStore) : TrustOp → Prop
  | .recordRotation cert _ => verifyTransitionCertificate env cert = true →
      ∀ old ∈ s.get cert.oldDeviceId, old.status = .trusted →
        decode cert.oldPublicKey = decode old.publicKey
  | _ => True

instance (s : TrustStore) : ∀ op, Decidable (CarriesKeyOnFile env s op)
  | .recordRotation cert _ => inferInstanceAs (Decidable (_ → ∀ old ∈ s.get cert.oldDeviceId, _))
  | .recordFirstSeen .. => isTrue trivial
  | .touchLastSeen .. => isTrue trivial
  | .approve .. => isTrue trivial
  | .revoke .. => isTrue trivial

variable {s : TrustStore} {d : Text}

theorem untrusted_of_insert {r : TrustedDevice}
    (fresh : s.get r.deviceId = none) (before : ¬ Trusted s d)
    (after : Trusted { s with devices := s.devices.insert r } d) :
    d = r.deviceId ∧ r.status = .trusted := by
  obtain ⟨q, found, trusted⟩ := after
  rw [get_insert_device s r fresh] at found
  by_cases same : d = r.deviceId
  · rw [if_pos same] at found
    cases found
    exact ⟨same, trusted⟩
  · rw [if_neg same] at found
    exact absurd ⟨q, found, trusted⟩ before

variable {id : Text}

theorem untrusted_of_update {write : TrustedDevice → TrustedDevice}
    {sameId : ∀ r, (write r).deviceId = r.deviceId} (before : ¬ Trusted s d)
    (after : Trusted (s.updateDevice id write sameId) d) :
    d = id ∧ ∃ r, s.get d = some r ∧ (write r).status = .trusted := by
  obtain ⟨q, found, trusted⟩ := after
  rw [get_update_device] at found
  by_cases same : d = id
  · rw [if_pos same, Option.map_eq_some_iff] at found
    obtain ⟨r, found, rfl⟩ := found
    exact ⟨same, r, found, trusted⟩
  · rw [if_neg same] at found
    exact absurd ⟨q, found, trusted⟩ before

variable {now : Time} {t : TrustStore}

theorem first_seen_trusts_nobody {key name : Text} {permitted : Text → Bool}
    (done : s.recordFirstSeen id key name permitted now = .ok t)
    (before : ¬ Trusted s d) : ¬ Trusted t d := by
  unfold recordFirstSeen at done
  split at done
  · cases done
  · rename_i absent
    split at done
    · cases done
      intro after
      have fresh : s.get id = none := by simpa using absent
      obtain ⟨_, status⟩ := untrusted_of_insert fresh before after
      cases status
    · cases done

theorem touch_trusts_nobody (before : ¬ Trusted s d) : ¬ Trusted (s.touchLastSeen id now) d := by
  intro after
  obtain ⟨_, r, found, status⟩ := untrusted_of_update before after
  exact before ⟨r, found, status⟩

theorem approve_trusts_one (done : s.approve id = .ok t)
    (before : ¬ Trusted s d) (after : Trusted t d) : id = d := by
  unfold approve at done
  split at done
  · cases done
  · split at done
    · cases done
    · cases done
      exact (untrusted_of_update before after).1.symm

theorem revoke_trusts_nobody {by_ : Text} {reason : Option Text}
    (done : s.revokeDevice id by_ reason now = .ok t) (before : ¬ Trusted s d) : ¬ Trusted t d := by
  intro after
  unfold revokeDevice at done
  split at done
  · cases done
  · split at done
    · cases done
    · cases done
      obtain ⟨_, _, _, status⟩ := untrusted_of_update before after
      cases status

variable {cert : TransitionCertificate}

theorem carry_trusts_one {old : TrustedDevice} (before : ¬ Trusted s d)
    (after : Trusted (s.carryTrust old cert now) d) : d = cert.newDeviceId := by
  unfold carryTrust at after
  split at after
  · rename_i fresh
    exact (untrusted_of_insert fresh before after).1
  · split at after
    · exact absurd after before
    · exact (untrusted_of_update before after).1

variable {env : Primitives}

theorem rotation_trusts_one (done : s.recordRotation env cert now = .ok t)
    (before : ¬ Trusted s d) (after : Trusted t d) :
    cert.newDeviceId = d ∧ verifyTransitionCertificate env cert = true ∧
      ∃ old, s.get cert.oldDeviceId = some old ∧ old.status = .trusted := by
  unfold recordRotation at done
  split at done
  · rename_i verified
    have sameDevices : ¬ Trusted
        { s with transitions := s.transitions.replace ⟨cert, now⟩ } d := before
    split at done
    · cases done
      exact absurd after sameDevices
    · rename_i old found
      split at done
      · cases done
      · cases done
        exact absurd after sameDevices
      · rename_i status
        cases done
        exact ⟨(carry_trusts_one sameDevices after).symm, verified, old, found, status⟩
  · cases done

theorem verified_was_signed (unforgeable : env.ed25519.Unforgeable)
    (verified : verifyTransitionCertificate env cert = true) :
    ∃ key sig, decode cert.oldPublicKey = some key ∧
      decode cert.signature = some sig ∧
      env.ed25519.Signed key sig (cert.buildPayload env) := by
  unfold verifyTransitionCertificate verifyB64 at verified
  split at verified
  · rename_i key sig decodedKey decodedSig
    exact ⟨key, sig, decodedKey, decodedSig, unforgeable key sig _ verified⟩
  · cases verified

theorem settle_cases {result : Except TrustError TrustStore}
    {P : TrustStore → Prop} (holds : P (settle s result)) : P s ∨ ∃ t, result = .ok t ∧ P t := by
  cases result with
  | ok t => exact .inr ⟨t, rfl, holds⟩
  | error => exact .inl holds

theorem trusting_step_warranted (unforgeable : env.ed25519.Unforgeable) {op : TrustOp}
    (onFile : CarriesKeyOnFile env s op)
    (before : ¬ Trusted s d) (after : Trusted (step env s op) d) : Warrants env s d op := by
  cases op with
  | recordFirstSeen =>
    rcases settle_cases (P := fun t => Trusted t d) after with same | ⟨t, done, trusted⟩
    · exact absurd same before
    · exact absurd trusted (first_seen_trusts_nobody done before)
  | touchLastSeen => exact absurd after (touch_trusts_nobody before)
  | approve =>
    rcases settle_cases (P := fun t => Trusted t d) after with same | ⟨t, done, trusted⟩
    · exact absurd same before
    · exact approve_trusts_one done before trusted
  | revoke =>
    rcases settle_cases (P := fun t => Trusted t d) after with same | ⟨t, done, trusted⟩
    · exact absurd same before
    · exact absurd trusted (revoke_trusts_nobody done before)
  | recordRotation cert =>
    rcases settle_cases (P := fun t => Trusted t d) after with same | ⟨t, done, trusted⟩
    · exact absurd same before
    · obtain ⟨named, verified, old, found, status⟩ := rotation_trusts_one done before trusted
      obtain ⟨key, sig, decodedKey, decodedSig, signed⟩ := verified_was_signed unforgeable verified
      have stored := onFile verified old found status
      exact ⟨named, old, key, sig, found, status, stored ▸ decodedKey, decodedSig, signed⟩

/-- Each device made trusted is approved, or rotated to with the key of a trusted device. -/
theorem trust_provenance (env : Primitives) (unforgeable : env.ed25519.Unforgeable)
    (ops : List TrustOp) (onFile : Along (step env) (CarriesKeyOnFile env) empty ops)
    (pre : List TrustOp) (op : TrustOp) (front : pre ++ [op] <+: ops) (d : Text)
    (before : ¬ Trusted (run (step env) empty pre) d)
    (after : Trusted (run (step env) empty (pre ++ [op])) d) :
    Warrants env (run (step env) empty pre) d op := by
  rw [run_concat] at after
  have here := along_at (along_front front onFile)
  exact trusting_step_warranted unforgeable here before after

section Sample

def ownerKey : Bytes := List.replicate 32 7

def strangerKey : Bytes := List.replicate 32 9

def deviceIdOf (key : Bytes) : Text := sample.sha256 key

def rotationBy (oldDeviceId : Text) (key newKey : Bytes) : TransitionCertificate :=
  let unsigned : TransitionCertificate := ⟨oldDeviceId, encode key,
    deviceIdOf newKey, encode newKey, 5, []⟩
  { unsigned with
    signature := encode (key ++ unsigned.buildPayload sample) }

def approvedOwner : List TrustOp :=
  [.recordFirstSeen (deviceIdOf ownerKey) (encode ownerKey) "owner" (fun _ => true) 1,
    .approve (deviceIdOf ownerKey)]

theorem stranger_untrusted_before :
    ¬ Trusted (run (step sample) empty approvedOwner)
      (deviceIdOf strangerKey) := by
  intro trusted
  obtain ⟨_, found, _⟩ := trusted
  have absent : (run (step sample) empty approvedOwner).get
    (deviceIdOf strangerKey) = none := by decide +kernel
  exact absurd (absent.symm.trans found) (by simp)

theorem owner_rotation_is_warranted : Warrants sample
      (run (step sample) empty approvedOwner) (deviceIdOf strangerKey)
      (.recordRotation (rotationBy (deviceIdOf ownerKey) ownerKey strangerKey) 6) := by
  refine trust_provenance sample SignatureScheme.ideal_unforgeable
    (approvedOwner ++ [.recordRotation (rotationBy (deviceIdOf ownerKey) ownerKey strangerKey) 6])
      (by decide +kernel)
    approvedOwner _ (List.prefix_refl _) _ ?_ ?_
  · exact stranger_untrusted_before
  · refine ⟨⟨deviceIdOf strangerKey, encode strangerKey, "owner", 6, 6, .trusted,
      none, none, none⟩, ?_, rfl⟩
    decide +kernel

theorem stranger_rotation_is_trusted : ¬ ∀ (pre : List TrustOp) (op : TrustOp) (d : Text),
      pre ++ [op] <+: approvedOwner ++
    [.recordRotation (rotationBy (deviceIdOf ownerKey) strangerKey strangerKey) 6] →
      ¬ Trusted (run (step sample) empty pre) d →
      Trusted (run (step sample) empty (pre ++ [op])) d →
      Warrants sample (run (step sample) empty pre) d op := by
  intro provenance
  have warranted := provenance approvedOwner
    (.recordRotation (rotationBy (deviceIdOf ownerKey) strangerKey strangerKey) 6)
      (deviceIdOf strangerKey)
    (List.prefix_refl _) ?_ ?_
  · obtain ⟨_, _, _, _, found, _, decodedKey, decodedSig, signed⟩ := warranted
    have stored : (run (step sample) empty approvedOwner).get
        (deviceIdOf ownerKey) = some ⟨deviceIdOf ownerKey, encode ownerKey, "owner",
          1, 1, .trusted, none, none, none⟩ := by decide +kernel
    cases stored.symm.trans found
    cases (decode_encode ownerKey).symm.trans decodedKey
    cases (decode_encode _).symm.trans decodedSig
    have verified := (SignatureScheme.ideal_signed_iff _ _ _).mp signed
    exact absurd verified (by decide +kernel)
  · exact stranger_untrusted_before
  · refine ⟨⟨deviceIdOf strangerKey, encode strangerKey, "owner", 6, 6, .trusted,
      none, none, none⟩, ?_, rfl⟩
    decide +kernel

end Sample
end Peerc.Trust
