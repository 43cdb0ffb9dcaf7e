import Peerc.Trust.Rows
import Peerc.Trust.Provenance
import Peerc.Group.ExternalTrust

/-!
The trust store with the policy enforcer it is wired to. First sight asks the enforcer; a key
rotation that enters its new device does not.
-/
namespace Peerc.Trust
open Runs Groups TrustStore

structure Wired where
  trust : TrustStore
  groupStore : Option GroupState

inductive WiredOp where
  | trust (op : TrustOp)
  | groups (op : GroupOp)
  | setGroupStore (store : Option GroupState)

structure WiredEvent where
  op : WiredOp
  faulty : StoreQuery → Bool
  now : Time

def TrustOp.enforced (permitted : Text → Bool) : TrustOp → TrustOp
  | .recordFirstSeen deviceId publicKey name _ now =>
      .recordFirstSeen deviceId publicKey name permitted now
  | op => op

namespace Wired

def passes (s : Wired) (e : WiredEvent) (deviceId : Text) : Bool :=
  checkExternalTrust s.groupStore e.faulty e.now deviceId = .ok ()

def step (env : GroupEnv) (s : Wired) (e : WiredEvent) : Wired :=
  match e.op with
  | .trust op => { s with trust := Trust.step env.toPrimitives s.trust (op.enforced (s.passes e)) }
  | .groups op => { s with groupStore := s.groupStore.map (fun store => store.step env op) }
  | .setGroupStore store => { s with groupStore := store }

def Mediated (env : GroupEnv) (s : Wired) (e : WiredEvent) : Prop :=
  ∀ deviceId, s.trust.get deviceId = none → ((s.step env e).trust.get deviceId).isSome = true →
    s.passes e deviceId = true

/-- A rotation away from a trusted device to one not known yet is to a device that passes. -/
def RotationChecked (env : GroupEnv) (s : Wired) (e : WiredEvent) : Prop :=
  ∀ cert recordedAt old, e.op = .trust (.recordRotation cert recordedAt) →
    verifyTransitionCertificate env.toPrimitives cert = true →
    s.trust.get cert.oldDeviceId = some old → old.status = .trusted →
    s.trust.get cert.newDeviceId = none → s.passes e cert.newDeviceId = true

end Wired

variable {s : TrustStore}

theorem first_seen_permitted {deviceId key name : Text} {permitted : Text → Bool} {now : Time}
    {id : Text} (absent : s.get id = none)
    (entered : ((settle s (s.recordFirstSeen deviceId key name permitted now)).get id).isSome =
      true) :
    permitted id = true := by
  unfold recordFirstSeen at entered
  split at entered
  · simp [settle, absent] at entered
  · next unknown =>
    split at entered
    · next allowed =>
      have after := get_insert_device s
        ⟨deviceId, key, name, now, now, .pending, none, none, none⟩ (by simpa using unknown) id
      rw [settle, after] at entered
      split at entered
      · next here =>
        rw [here]
        exact allowed
      · simp [absent] at entered
    · simp [settle, absent] at entered

theorem rotation_enters {env : Primitives} {cert : TransitionCertificate} {now : Time}
    {old : TrustedDevice} (verified : verifyTransitionCertificate env cert = true)
    (known : s.get cert.oldDeviceId = some old) (trusted : old.status = .trusted)
    (absent : s.get cert.newDeviceId = none) :
    ((step env s (.recordRotation cert now)).get cert.newDeviceId).isSome = true := by
  have fresh : ({ s with transitions := s.transitions.replace ⟨cert, now⟩ } : TrustStore).get
      cert.newDeviceId = none := absent
  have rotated : step env s (.recordRotation cert now) =
      ({ s with transitions := s.transitions.replace ⟨cert, now⟩ } : TrustStore).carryTrust old cert
        now := by
    simp [step, recordRotation, verified, known, trusted, settle]
  rw [rotated, carryTrust, fresh]
  have after := get_insert_device
    { s with transitions := s.transitions.replace ⟨cert, now⟩ }
    ⟨cert.newDeviceId, cert.newPublicKey, old.name, now, now, .trusted, none, none, none⟩ fresh
    cert.newDeviceId
  rw [if_pos rfl] at after
  simp [after]

theorem entry_source {env : Primitives} {op : TrustOp} {id : Text} (absent : s.get id = none)
    (entered : ((step env s op).get id).isSome = true) :
    (∃ key name permitted now, op = .recordFirstSeen id key name permitted now ∧
      permitted id = true) ∨
    ∃ cert now old, op = .recordRotation cert now ∧ cert.newDeviceId = id ∧
      verifyTransitionCertificate env cert = true ∧ s.get cert.oldDeviceId = some old ∧
      old.status = .trusted := by
  have row := row_step env s op id
  generalize written : (step env s op).get id = after at row
  cases row with
  | same =>
    rw [written, absent] at entered
    cases entered
  | seen => exact .inl ⟨_, _, _, _, rfl, first_seen_permitted absent entered⟩
  | touched found | approved found | revoked found | promoted _ _ _ _ found =>
    cases absent.symm.trans found
  | carried verified new known trusted => exact .inr ⟨_, _, _, rfl, new, verified, known, trusted⟩

namespace Wired

theorem mediated_iff (env : GroupEnv) (s : Wired) (e : WiredEvent) :
    Mediated env s e ↔ RotationChecked env s e := by
  constructor
  · intro mediated _ _ _ rotation verified known trusted absent
    apply mediated _ absent
    simp only [step, rotation]
    exact rotation_enters verified known trusted absent
  · intro checked _ absent entered
    unfold step at entered
    split at entered
    · next op isTrust =>
      rcases entry_source absent entered with
        ⟨key, name, permitted, now, isFirst, allowed⟩ |
        ⟨cert, now, old, isRotation, rfl, verified, known, trusted⟩
      · cases op <;> cases isFirst
        exact allowed
      · cases op <;> cases isRotation
        exact checked cert now old isTrust verified known trusted absent
    · simp [absent] at entered
    · simp [absent] at entered

/-- If and only if the devices entered by a rotation pass the check. -/
theorem entries_mediated_iff (env : GroupEnv) (s : Wired) (events : List WiredEvent) :
    Along (step env) (Mediated env) s events ↔
      Along (step env) (RotationChecked env) s events := by
  constructor
  · exact along_mono (fun s e => (mediated_iff env s e).mp)
  · exact along_mono (fun s e => (mediated_iff env s e).mpr)

end Wired

section Sample

def eventAt (now : Time) (op : WiredOp) : WiredEvent := ⟨op, fun _ => false, now⟩

def restrictedOwner : List WiredEvent :=
  approvedOwner.map (fun op => eventAt 1 (.trust op)) ++
    [eventAt 2 (.groups (.tables (.createGroup foundedGroup))),
      eventAt 3 (.groups (.tables (.setPolicy (closedPolicy "g"))))]

theorem rotation_bypasses_restriction :
    ¬ Along (Wired.step GroupEnv.sample) (Wired.Mediated GroupEnv.sample)
      ⟨empty, some GroupState.start⟩ (restrictedOwner ++
        [eventAt 6 (.trust (.recordRotation
          (rotationBy (deviceIdOf ownerKey) ownerKey strangerKey) 6))]) := by
  intro along
  have last := along_at along
  have passed := last (deviceIdOf strangerKey) (by decide +kernel) (by decide +kernel)
  revert passed
  decide +kernel

end Sample
end Peerc.Trust
