import Peerc.Lib.Json
import Peerc.Group.Model

/-!
Membership certificates and the signed messages by which devices join, leave and are removed
from a group. A certificate is packed field by field, a message is its JSON text after a prefix.
-/
namespace Peerc.Groups

/-- The primitives together with the text json.dumps gives a float. -/
structure GroupEnv extends Primitives where
  floatText : Time → Text

def GroupEnv.computeDeviceId (env : GroupEnv) (publicKey : Bytes) : Text := env.sha256 publicKey

def GroupEnv.sample : GroupEnv :=
  { Primitives.sample with floatText := fun t => Nat.toDigits 10 t.toNat ++ ".0" }

/-- A float in a certificate. Two of them do not survive a REAL column. -/
inductive Instant where
  | finite (t : Time)
  | negativeZero
  | nan
  deriving DecidableEq

namespace Instant

instance (n : Nat) : OfNat Instant n := ⟨.finite n⟩

def pack (env : Primitives) : Instant → Bytes
  | .finite t => env.packDouble t
  | .negativeZero => [0x80, 0, 0, 0, 0, 0, 0, 0]
  | .nan => [0x7f, 0xf8, 0, 0, 0, 0, 0, 0]

def text (env : GroupEnv) : Instant → Text
  | .finite t => env.floatText t
  | .negativeZero => "-0.0"
  | .nan => "NaN"

/-- The number it is. SQLite stores that one, and NULL for a nan. -/
def number : Instant → Option Time
  | .finite t => some t
  | .negativeZero => some 0
  | .nan => none

end Instant

structure MembershipCertificate where
  deviceId : Text
  devicePublicKey : Text
  groupId : Text
  role : Text
  permissions : List Text
  issuedAt : Instant
  expiresAt : Option Instant
  adminDeviceId : Text
  signature : Text
  deriving DecidableEq

structure GroupJoinResponse where
  requestId : Text
  groupId : Text
  deviceId : Text
  approved : Bool
  adminDeviceId : Text
  certificate : Option MembershipCertificate
  reason : Option Text
  timestamp : Time
  signature : Text
  deriving DecidableEq

structure GroupLeaveRequest where
  requestId : Text
  groupId : Text
  deviceId : Text
  reason : Option Text
  timestamp : Time
  signature : Text
  deriving DecidableEq

structure MembershipRevocation where
  revocationId : Text
  groupId : Text
  deviceId : Text
  revokedBy : Text
  reason : Option Text
  timestamp : Time
  signature : Text
  deriving DecidableEq

structure GroupLeaveResponse where
  requestId : Text
  groupId : Text
  deviceId : Text
  approved : Bool
  adminDeviceId : Text
  revocation : Option MembershipRevocation
  reason : Option Text
  timestamp : Time
  signature : Text
  deriving DecidableEq

def joinPermissions (permissions : List Text) : Text :=
  List.intercalate [','] (permissions.insertionSort (· ≤ ·))

/-- A certificate that never expires is packed with the time -1. -/
def MembershipCertificate.buildPayload (env : GroupEnv) (cert : MembershipCertificate) : Bytes :=
  utf8 "peerc-group-membership\x00" ++ utf8 cert.deviceId ++ [0] ++
    utf8 cert.devicePublicKey ++ [0] ++ utf8 cert.groupId ++ [0] ++ utf8 cert.role ++ [0] ++
    utf8 (joinPermissions cert.permissions) ++ [0] ++ utf8 cert.adminDeviceId ++ [0] ++
    cert.issuedAt.pack env.toPrimitives ++
    (cert.expiresAt.getD (.finite (-1))).pack env.toPrimitives

def isMembershipExpired (cert : MembershipCertificate) (now : Time) : Bool :=
  (cert.expiresAt.bind Instant.number).any (fun expiry => now > expiry)

section Payloads
variable (env : GroupEnv)

def textValue (t : Text) : Json.Value := .string t

def optionalText : Option Text → Json.Value
  | some t => .string t
  | none => .null

def timeValue (t : Time) : Json.Value := .number (env.floatText t)

def jsonPayload (domain : String) (fields : List (Text × Json.Value)) : Bytes :=
  utf8 domain.toList ++ utf8 (Json.Value.sorted fields).write

def MembershipCertificate.value (cert : MembershipCertificate) : Json.Value :=
  .sorted [("device_id", textValue cert.deviceId),
    ("device_public_key", textValue cert.devicePublicKey),
    ("group_id", textValue cert.groupId), ("role", textValue cert.role),
    ("permissions", .array (cert.permissions.map textValue)),
    ("issued_at", .number (cert.issuedAt.text env)),
    ("expires_at", (cert.expiresAt.map fun t => .number (t.text env)).getD .null),
    ("admin_device_id", textValue cert.adminDeviceId),
    ("signature", textValue cert.signature)]

variable (r : MembershipRevocation)

def MembershipRevocation.value : Json.Value :=
  .sorted [("revocation_id", textValue r.revocationId),
    ("group_id", textValue r.groupId), ("device_id", textValue r.deviceId),
    ("revoked_by", textValue r.revokedBy), ("reason", optionalText r.reason),
    ("timestamp", timeValue env r.timestamp), ("signature", textValue r.signature)]

def GroupJoinResponse.payload (r : GroupJoinResponse) : Bytes :=
  jsonPayload "peerc-group-join-response\x00" [("request_id", textValue r.requestId),
    ("group_id", textValue r.groupId), ("device_id", textValue r.deviceId),
    ("approved", .bool r.approved), ("admin_device_id", textValue r.adminDeviceId),
    ("certificate", (r.certificate.map (MembershipCertificate.value env)).getD .null),
    ("reason", optionalText r.reason), ("timestamp", timeValue env r.timestamp)]

def GroupLeaveRequest.payload (r : GroupLeaveRequest) : Bytes :=
  jsonPayload "peerc-group-leave-request\x00" [("request_id", textValue r.requestId),
    ("group_id", textValue r.groupId), ("device_id", textValue r.deviceId),
    ("reason", optionalText r.reason), ("timestamp", timeValue env r.timestamp)]

def MembershipRevocation.payload : Bytes :=
  jsonPayload "peerc-group-membership-revoke\x00"
    [("revocation_id", textValue r.revocationId), ("group_id", textValue r.groupId),
      ("device_id", textValue r.deviceId), ("revoked_by", textValue r.revokedBy),
      ("reason", optionalText r.reason), ("timestamp", timeValue env r.timestamp)]

def GroupLeaveResponse.payload (r : GroupLeaveResponse) : Bytes :=
  jsonPayload "peerc-group-leave-response\x00" [("request_id", textValue r.requestId),
    ("group_id", textValue r.groupId), ("device_id", textValue r.deviceId),
    ("approved", .bool r.approved), ("admin_device_id", textValue r.adminDeviceId),
    ("revocation", (r.revocation.map (MembershipRevocation.value env)).getD .null),
    ("reason", optionalText r.reason), ("timestamp", timeValue env r.timestamp)]

def verifyRaw (publicKey : Bytes) (signature : Text) (payload : Bytes) : Bool :=
  match Base64.decode signature with
  | some raw => env.ed25519.verify publicKey raw payload
  | none => false

def verifyMembershipCertificate (cert : MembershipCertificate) (adminPublicKey : Bytes) : Bool :=
  verifyRaw env adminPublicKey cert.signature (cert.buildPayload env)

def verifyJoinResponse (r : GroupJoinResponse) (adminPublicKey : Bytes) : Bool :=
  verifyRaw env adminPublicKey r.signature (r.payload env)

def verifyLeaveRequest (r : GroupLeaveRequest) (memberPublicKey : Bytes) : Bool :=
  env.computeDeviceId memberPublicKey = r.deviceId &&
    verifyRaw env memberPublicKey r.signature (r.payload env)

def verifyMembershipRevocation (adminPublicKey : Bytes) : Bool :=
  verifyRaw env adminPublicKey r.signature (r.payload env)

def verifyLeaveResponse (r : GroupLeaveResponse) (adminPublicKey : Bytes) : Bool :=
  verifyRaw env adminPublicKey r.signature (r.payload env)

end Payloads

theorem verify_raw_signed {env : GroupEnv} (unforgeable : env.ed25519.Unforgeable)
    {key : Bytes} {sig : Text} {payload : Bytes} (verified : verifyRaw env key sig payload = true) :
    ∃ raw, Base64.decode sig = some raw ∧ env.ed25519.Signed key raw payload := by
  unfold verifyRaw at verified
  split at verified
  · next raw decoded => exact ⟨raw, decoded, unforgeable key raw payload verified⟩
  · cases verified

end Peerc.Groups
