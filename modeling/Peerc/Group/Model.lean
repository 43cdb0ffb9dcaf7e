import Peerc.Primitives

/-!
Records of the group authority, with the byte strings that are signed.
-/
namespace Peerc.Groups

structure Group where
  groupId : Text
  name : Text
  adminDeviceId : Text
  adminPublicKey : Text
  createdAt : Time
  deriving DecidableEq

inductive AdminStatus where
  | active
  | removed
  deriving DecidableEq

structure AdminRecord where
  groupId : Text
  deviceId : Text
  publicKey : Text
  addedAt : Time
  addedBy : Option Text
  status : AdminStatus
  removedAt : Option Time
  removedBy : Option Text
  deriving DecidableEq

inductive PolicyEffect where
  | allow
  | deny
  deriving DecidableEq

structure CommunicationRule where
  source : Text
  destination : Text
  action : Text
  effect : PolicyEffect
  deriving DecidableEq

structure GroupPolicy where
  groupId : Text
  allowExternalTrust : Bool
  allowExport : Bool
  leaveRequiresAdmin : Bool
  allowInterGroup : Bool
  communicationMatrix : List CommunicationRule
  defaultCommunicationEffect : PolicyEffect
  version : Nat
  updatedAt : Time
  adminDeviceId : Option Text
  signature : Option Text
  deriving DecidableEq

structure ExportCapability where
  capabilityId : Text
  requestId : Text
  deviceId : Text
  groupId : Text
  fileId : Text
  action : Text
  issuedAt : Time
  expiresAt : Time
  nonce : Text
  adminDeviceId : Option Text
  signature : Option Text
  deriving DecidableEq

def orEmpty (t : Option Text) : Text := t.getD []

namespace ExportCapability

def canonicalPayload (env : Primitives) (cap : ExportCapability) : Bytes :=
  utf8 "peerc-group-export-capability\x00"
    ++ sized (utf8 cap.capabilityId)
    ++ sized (utf8 cap.requestId)
    ++ sized (utf8 cap.deviceId)
    ++ sized (utf8 cap.groupId)
    ++ sized (utf8 cap.fileId)
    ++ sized (utf8 cap.action)
    ++ env.packDouble cap.issuedAt ++ env.packDouble cap.expiresAt
    ++ sized (utf8 cap.nonce)
    ++ sized (utf8 (orEmpty cap.adminDeviceId))

def isExpired (cap : ExportCapability) (now : Time) : Bool := now ≥ cap.expiresAt

end ExportCapability

def signedUnder (env : Primitives) (cap : ExportCapability) (pub : Text) : Bool :=
  match cap.signature with
  | none => false
  | some sig => env.verifyB64 pub sig (cap.canonicalPayload env)

def verifyExportCapability (env : Primitives) (cap : ExportCapability)
    (adminPublicKeys : List Text) (now : Time) : Bool :=
  if cap.isExpired now then false
  else adminPublicKeys.any (signedUnder env cap)

end Peerc.Groups
