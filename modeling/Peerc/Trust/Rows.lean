import Peerc.Trust.Store

/-!
What one operation of the trust store can do to the row of one device: the seven cases below are
all there is.
-/
namespace Peerc.Trust
open TrustStore

inductive RowChange (env : Primitives) (s : TrustStore) (id : Text) :
    TrustOp → Option TrustedDevice → Prop
  | same {op : TrustOp} : RowChange env s id op (s.get id)
  | seen {key name : Text} {permitted : Text → Bool} {now : Time} (absent : s.get id = none) :
      RowChange env s id (.recordFirstSeen id key name permitted now)
        (some ⟨id, key, name, now, now, .pending, none, none, none⟩)
  | touched {row : TrustedDevice} {now : Time} (found : s.get id = some row) :
      RowChange env s id (.touchLastSeen id now) (some { row with lastSeen := now })
  | approved {row : TrustedDevice} (found : s.get id = some row) (live : row.status ≠ .revoked) :
      RowChange env s id (.approve id) (some { row with status := .trusted })
  | revoked {row : TrustedDevice} {revokedBy : Text} {reason : Option Text} {now : Time}
      (found : s.get id = some row) (live : row.status ≠ .revoked) :
      RowChange env s id (.revoke id revokedBy reason now) (some { row with
        status := .revoked
        revokedBy := some revokedBy
        revokedAt := some now
        revokeReason := reason })
  | carried {cert : TransitionCertificate} {now : Time} {old : TrustedDevice}
      (verified : verifyTransitionCertificate env cert = true) (new : cert.newDeviceId = id)
      (known : s.get cert.oldDeviceId = some old) (trusted : old.status = .trusted)
      (absent : s.get id = none) :
      RowChange env s id (.recordRotation cert now)
        (some ⟨id, cert.newPublicKey, old.name, now, now, .trusted, none, none, none⟩)
  | promoted {cert : TransitionCertificate} {now : Time} {old row : TrustedDevice}
      (verified : verifyTransitionCertificate env cert = true) (new : cert.newDeviceId = id)
      (known : s.get cert.oldDeviceId = some old) (trusted : old.status = .trusted)
      (found : s.get id = some row) (pending : row.status = .pending) :
      RowChange env s id (.recordRotation cert now) (some { row with
        status := .trusted
        lastSeen := now })

theorem update_row {env : Primitives} {s base : TrustStore} (rows : ∀ id, s.get id = base.get id)
    {op : TrustOp} {deviceId : Text} {write : TrustedDevice → TrustedDevice}
    {sameId : ∀ d, (write d).deviceId = d.deviceId} {row : TrustedDevice}
    (found : base.get deviceId = some row)
    (change : RowChange env base deviceId op (some (write row))) (id : Text) :
    RowChange env base id op ((s.updateDevice deviceId write sameId).get id) := by
  rw [get_update_device, rows]
  by_cases here : id = deviceId
  · subst here
    rw [if_pos rfl, found]
    exact change
  · rw [if_neg here]
    exact .same

theorem insert_row {env : Primitives} {s base : TrustStore} (rows : ∀ id, s.get id = base.get id)
    {op : TrustOp} {r : TrustedDevice} (absent : base.get r.deviceId = none)
    (change : RowChange env base r.deviceId op (some r)) (id : Text) :
    RowChange env base id op (({ s with devices := s.devices.insert r } : TrustStore).get id) := by
  rw [get_insert_device s r ((rows _).trans absent), rows]
  by_cases here : id = r.deviceId
  · subst here
    rw [if_pos rfl]
    exact change
  · rw [if_neg here]
    exact .same

variable (env : Primitives) (s : TrustStore)

theorem first_seen_row (deviceId key name : Text)
    (permitted : Text → Bool) (now : Time) (id : Text) :
    RowChange env s id (.recordFirstSeen deviceId key name permitted now)
      ((settle s (s.recordFirstSeen deviceId key name permitted now)).get id) := by
  unfold recordFirstSeen
  split
  · exact .same
  · rename_i unknown
    have absent : s.get deviceId = none := by simpa using unknown
    split
    · exact insert_row (fun _ => rfl) absent (.seen absent) id
    · exact .same

theorem touch_row (deviceId : Text) (now : Time) (id : Text) :
    RowChange env s id (.touchLastSeen deviceId now) ((s.touchLastSeen deviceId now).get id) := by
  cases found : s.get deviceId with
  | some => exact update_row (fun _ => rfl) found (.touched found) id
  | none =>
    unfold touchLastSeen
    rw [get_update_device]
    split
    · rename_i here
      have same : (s.get id).map (fun d => { d with lastSeen := now }) = s.get id := by
        rw [here, found]
        rfl
      rw [same]
      exact .same
    · exact .same

theorem approve_row (deviceId id : Text) :
    RowChange env s id (.approve deviceId) ((settle s (s.approve deviceId)).get id) := by
  unfold approve
  split
  · exact .same
  · rename_i found
    split
    · exact .same
    · rename_i live
      exact update_row (fun _ => rfl) found (.approved found live) id

theorem revoke_row (deviceId revokedBy : Text) (reason : Option Text) (now : Time) (id : Text) :
    RowChange env s id (.revoke deviceId revokedBy reason now)
      ((settle s (s.revokeDevice deviceId revokedBy reason now)).get id) := by
  unfold revokeDevice
  split
  · exact .same
  · rename_i found
    split
    · exact .same
    · rename_i live
      exact update_row (fun _ => rfl) found (.revoked found live) id

theorem rotation_row (cert : TransitionCertificate) (now : Time) (id : Text) :
    RowChange env s id (.recordRotation cert now)
      ((settle s (s.recordRotation env cert now)).get id) := by
  unfold recordRotation
  split
  · rename_i verified
    split
    · exact .same
    · rename_i old known
      split
      · exact .same
      · exact .same
      · rename_i trusted
        -- the device rows are those of the store before the transition was added
        show RowChange env s id _ (get (carryTrust _ old cert now) id)
        unfold carryTrust
        split
        · rename_i absent
          exact insert_row (fun _ => rfl) absent (.carried verified rfl known trusted absent) id
        · rename_i device found
          split
          · exact .same
          · rename_i open_
            have pending : device.status = .pending := by
              cases status : device.status with
              | pending => rfl
              | trusted => exact absurd (.inl status) open_
              | revoked => exact absurd (.inr status) open_
            have known' : s.get cert.newDeviceId = some device := found
            exact update_row (fun _ => rfl) known'
              (.promoted verified rfl known trusted known' pending) id
  · exact .same

theorem row_step (op : TrustOp) (id : Text) : RowChange env s id op ((step env s op).get id) := by
  cases op with
  | recordFirstSeen deviceId key name permitted now =>
    exact first_seen_row env s deviceId key name permitted now id
  | touchLastSeen deviceId now => exact touch_row env s deviceId now id
  | approve deviceId => exact approve_row env s deviceId id
  | revoke deviceId revokedBy reason now => exact revoke_row env s deviceId revokedBy reason now id
  | recordRotation cert now => exact rotation_row env s cert now id

end Peerc.Trust
