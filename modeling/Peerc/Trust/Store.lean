import Peerc.Primitives
import Peerc.Lib.Table
import Peerc.Lib.Search
import Mathlib.Data.List.Sort

/-!
The trust store: the devices ever seen with their key and status, and the recorded key rotations.
An operation that raises has written nothing.
-/
namespace Peerc.Trust

inductive TrustStatus where
  | pending | trusted | revoked
  deriving DecidableEq

structure TrustedDevice where
  deviceId : Text
  publicKey : Text
  name : Text
  firstSeen : Time
  lastSeen : Time
  status : TrustStatus
  revokedBy : Option Text
  revokedAt : Option Time
  revokeReason : Option Text
  deriving DecidableEq

structure TransitionCertificate where
  oldDeviceId : Text
  oldPublicKey : Text
  newDeviceId : Text
  newPublicKey : Text
  timestamp : Time
  signature : Text
  deriving DecidableEq

def rotationDomain : Bytes := utf8 "peerc-key-rotation\x00"

/-- The signed text: the fields with a zero byte after each, then the time. -/
def TransitionCertificate.buildPayload (env : Primitives) (cert : TransitionCertificate) : Bytes :=
  rotationDomain ++ utf8 cert.oldDeviceId ++ [0] ++ utf8 cert.newDeviceId ++ [0] ++
    utf8 cert.oldPublicKey ++ [0] ++ utf8 cert.newPublicKey ++ [0] ++ env.packDouble cert.timestamp

def verifyTransitionCertificate (env : Primitives) (cert : TransitionCertificate) : Bool :=
  env.verifyB64 cert.oldPublicKey cert.signature (cert.buildPayload env)

structure Transition where
  cert : TransitionCertificate
  recordedAt : Time
  deriving DecidableEq

def Transition.ends (t : Transition) : Text × Text := (t.cert.oldDeviceId, t.cert.newDeviceId)

structure TrustStore where
  devices : Table TrustedDevice TrustedDevice.deviceId
  transitions : Table Transition Transition.ends

inductive TrustDecision where
  | unknown | pending | trusted | keyChanged | revoked
  deriving DecidableEq

inductive TrustError where
  | alreadyKnown (deviceId : Text)
  | externalTrustDenied (deviceId : Text)
  | unknownDevice (deviceId : Text)
  | isRevoked (deviceId : Text)
  | invalidCertificate (oldDeviceId newDeviceId : Text)
  | rotationOfRevoked (oldDeviceId : Text)
  deriving DecidableEq

namespace TrustStore

def empty : TrustStore := ⟨Table.empty, Table.empty⟩

variable (s : TrustStore) (deviceId : Text)

def get : Option TrustedDevice := s.devices.find deviceId

def check (deviceId publicKey : Text) : TrustDecision :=
  match s.get deviceId with
  | none => .unknown
  | some device =>
      if device.publicKey ≠ publicKey then .keyChanged
      else match device.status with
        | .revoked => .revoked
        | .trusted => .trusted
        | .pending => .pending

/-- `permitted` is the external-trust check of the policy enforcer, if one is wired. -/
def recordFirstSeen (deviceId publicKey name : Text) (permitted : Text → Bool) (now : Time) :
    Except TrustError TrustStore :=
  if (s.get deviceId).isSome then .error (.alreadyKnown deviceId)
  else if permitted deviceId then
    .ok { s with
      devices := s.devices.insert
        ⟨deviceId, publicKey, name, now, now, .pending, none, none, none⟩ }
  else .error (.externalTrustDenied deviceId)

def updateDevice (write : TrustedDevice → TrustedDevice)
    (sameId : ∀ d, (write d).deviceId = d.deviceId) : TrustStore :=
  { s with devices := s.devices.update (fun d => d.deviceId = deviceId) write sameId }

def touchLastSeen (now : Time) : TrustStore :=
  s.updateDevice deviceId (fun d => { d with lastSeen := now }) (fun _ => rfl)

def approve : Except TrustError TrustStore :=
  match s.get deviceId with
  | none => .error (.unknownDevice deviceId)
  | some device =>
      if device.status = .revoked then .error (.isRevoked deviceId)
      else .ok (s.updateDevice deviceId (fun d => { d with status := .trusted }) (fun _ => rfl))

def revokeDevice (deviceId revokedBy : Text) (reason : Option Text) (now : Time) :
    Except TrustError TrustStore :=
  match s.get deviceId with
  | none => .error (.unknownDevice deviceId)
  | some device =>
      if device.status = .revoked then .error (.isRevoked deviceId)
      else .ok (s.updateDevice deviceId (fun d => { d with
        status := .revoked
        revokedBy := some revokedBy
        revokedAt := some now
        revokeReason := reason }) (fun _ => rfl))

def carryTrust (old : TrustedDevice) (cert : TransitionCertificate) (now : Time) : TrustStore :=
  match s.get cert.newDeviceId with
  | none => { s with
      devices := s.devices.insert ⟨cert.newDeviceId, cert.newPublicKey, old.name, now, now,
        .trusted, none, none, none⟩ }
  | some device =>
      if device.status = .trusted ∨ device.status = .revoked then s
      else s.updateDevice cert.newDeviceId
        (fun d => { d with
          status := .trusted
          lastSeen := now }) (fun _ => rfl)

def recordRotation (env : Primitives) (s : TrustStore) (cert : TransitionCertificate) (now : Time) :
    Except TrustError TrustStore :=
  if verifyTransitionCertificate env cert then
    let recorded := { s with transitions := s.transitions.replace ⟨cert, now⟩ }
    match s.get cert.oldDeviceId with
    | none => .ok recorded
    | some old =>
        match old.status with
        | .revoked => .error (.rotationOfRevoked cert.oldDeviceId)
        | .pending => .ok recorded
        -- nothing compares the key in the certificate with the key on file
        | .trusted => .ok (recorded.carryTrust old cert now)
  else .error (.invalidCertificate cert.oldDeviceId cert.newDeviceId)

theorem get_update_device (deviceId d : Text) (write : TrustedDevice → TrustedDevice)
    (sameId : ∀ d, (write d).deviceId = d.deviceId) : (s.updateDevice deviceId write sameId).get d =
      if d = deviceId then (s.get d).map write else s.get d := by
  unfold updateDevice get
  rw [Table.find_update]
  cases found : s.devices.find d with
  | none => simp
  | some r =>
    have key : r.deviceId = d := ((Table.find_some_iff s.devices d r).mp found).2
    by_cases same : d = deviceId
    · simp [key, same]
    · simp [key, same]

theorem get_insert_device (r : TrustedDevice) (fresh : s.get r.deviceId = none) (d : Text) :
    ({ s with devices := s.devices.insert r } : TrustStore).get d =
      if d = r.deviceId then some r else s.get d :=
  Table.find_insert s.devices r fresh d

end TrustStore

inductive TrustOp where
  | recordFirstSeen (deviceId publicKey name : Text) (permitted : Text → Bool) (now : Time)
  | touchLastSeen (deviceId : Text) (now : Time)
  | approve (deviceId : Text)
  | revoke (deviceId revokedBy : Text) (reason : Option Text) (now : Time)
  | recordRotation (cert : TransitionCertificate) (now : Time)

def settle (s : TrustStore) : Except TrustError TrustStore → TrustStore
  | .ok t => t
  | .error _ => s

def step (env : Primitives) (s : TrustStore) : TrustOp → TrustStore
  | .recordFirstSeen d key name permitted now =>
    settle s (s.recordFirstSeen d key name permitted now)
  | .touchLastSeen d now => s.touchLastSeen d now
  | .approve d => settle s (s.approve d)
  | .revoke d revokedBy reason now => settle s (s.revokeDevice d revokedBy reason now)
  | .recordRotation cert now => settle s (s.recordRotation env cert now)

end Peerc.Trust
