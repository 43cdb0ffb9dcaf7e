import Peerc.Group.OneShot
import Peerc.Group.Protocol

/-!
The whole group database: the tables that decide exports and the memberships. The store may be
detached while the vault is locked; every operation then raises. The audit entry that follows
each commit is left out: for the empty group_id it raises, after the commit.
-/
namespace Peerc.Groups

inductive MembershipStatus where
  | active
  | revoked
  deriving DecidableEq

structure MembershipRow where
  groupId : Text
  deviceId : Text
  devicePublicKey : Text
  role : Text
  permissions : Text
  issuedAt : Time
  expiresAt : Option Time
  adminDeviceId : Text
  signature : Text
  status : MembershipStatus
  revokedBy : Option Text
  revokedAt : Option Time
  revokeReason : Option Text
  deriving DecidableEq

variable (r : MembershipRow)

def MembershipRow.holder : Text × Text := (r.groupId, r.deviceId)

structure GroupDatabase extends GroupStore where
  memberships : Table MembershipRow MembershipRow.holder

inductive MembershipError where
  | unknownGroup (groupId : Text)
  | notActiveAdmin (groupId deviceId : Text)
  | malformedKey (groupId deviceId : Text)
  | invalidCertificate (groupId deviceId : Text)
  | membershipExists (groupId deviceId : Text)
  | notApproved (requestId : Text)
  | missingCertificate
  | missingRevocation
  | invalidResponse (requestId : Text)
  | targetMismatch
  | issuerMismatch
  | unknownMembership (groupId deviceId : Text)
  | inactiveMembership (groupId deviceId : Text)
  | invalidLeaveRequest (deviceId : Text)
  | leaveRequiresAdmin (groupId deviceId : Text)
  | invalidRevocation (deviceId : Text)
  | notNull
  deriving DecidableEq

def MembershipCertificate.row (cert : MembershipCertificate) : MembershipRow where
  groupId := cert.groupId
  deviceId := cert.deviceId
  devicePublicKey := cert.devicePublicKey
  role := cert.role
  permissions := joinPermissions cert.permissions
  issuedAt := cert.issuedAt.number.getD 0
  expiresAt := cert.expiresAt.bind Instant.number
  adminDeviceId := cert.adminDeviceId
  signature := cert.signature
  status := .active
  revokedBy := none
  revokedAt := none
  revokeReason := none

def MembershipRow.cert : MembershipCertificate where
  deviceId := r.deviceId
  devicePublicKey := r.devicePublicKey
  groupId := r.groupId
  role := r.role
  permissions := if r.permissions = [] then [] else r.permissions.splitOn ','
  issuedAt := .finite r.issuedAt
  expiresAt := r.expiresAt.map .finite
  adminDeviceId := r.adminDeviceId
  signature := r.signature

def MembershipRow.revoke (revokedBy : Text) (revokedAt : Time) (reason : Option Text) :
    MembershipRow :=
  { r with
    status := .revoked
    revokedBy := some revokedBy
    revokedAt := some revokedAt
    revokeReason := reason }

/-- Of an optional text or time, the empty text and the time zero count as absent. -/
def orElse {α : Type} [DecidableEq α] (value : Option α) (empty fallback : α) : α :=
  match value with
  | some v => if v = empty then fallback else v
  | none => fallback

namespace GroupStore

def adminKey (s : GroupStore) (groupId deviceId : Text) : Except MembershipError Bytes :=
  match s.getAdmin groupId deviceId with
  | none => .error (.notActiveAdmin groupId deviceId)
  | some admin =>
      if admin.status = .active then
        match Base64.decode admin.publicKey with
        | some key => .ok key
        | none => .error (.malformedKey groupId deviceId)
      else .error (.notActiveAdmin groupId deviceId)

def step (env : Primitives) (s : GroupStore) (op : StoreOp) : GroupStore :=
  (History.step env ⟨s, []⟩ op).store

end GroupStore

namespace GroupDatabase

def empty : GroupDatabase := ⟨GroupStore.empty, Table.empty⟩

variable (s : GroupDatabase)

def getMembership (groupId deviceId : Text) : Option MembershipRow :=
  s.memberships.find (groupId, deviceId)

def getMembershipStatus (groupId deviceId : Text) : Option MembershipStatus :=
  (s.getMembership groupId deviceId).map MembershipRow.status

variable (env : GroupEnv)

def recordMembership (s : GroupDatabase) (cert : MembershipCertificate) :
    Except MembershipError GroupDatabase :=
  if (s.getGroup cert.groupId).isNone then .error (.unknownGroup cert.groupId)
  else
    match s.adminKey cert.groupId cert.adminDeviceId with
    | .error e => .error e
    | .ok key =>
        if ¬ verifyMembershipCertificate env cert key then
          .error (.invalidCertificate cert.groupId cert.deviceId)
        else if (s.getMembership cert.groupId cert.deviceId).isSome then
          .error (.membershipExists cert.groupId cert.deviceId)
        else if cert.issuedAt = .nan then .error .notNull
        else .ok { s with memberships := s.memberships.insert cert.row }

def markMembershipRevoked (groupId deviceId revokedBy : Text) (reason : Option Text)
    (revokedAt : Option Time) (now : Time) : Except MembershipError GroupDatabase :=
  match s.getMembershipStatus groupId deviceId with
  | none => .error (.unknownMembership groupId deviceId)
  | some .revoked => .error (.inactiveMembership groupId deviceId)
  | some .active =>
      .ok { s with
        memberships := s.memberships.update (fun r => r.holder = (groupId, deviceId))
          (fun r => r.revoke revokedBy (orElse revokedAt 0 now) reason) (fun _ => rfl) }

def revokeMembership (groupId deviceId revokedBy : Text) (reason : Option Text) (now : Time) :
    Except MembershipError GroupDatabase :=
  if ¬ s.isAdmin groupId revokedBy then .error (.notActiveAdmin groupId revokedBy)
  else s.markMembershipRevoked groupId deviceId revokedBy reason none now

def processJoinResponse (s : GroupDatabase) (response : GroupJoinResponse) :
    Except MembershipError GroupDatabase :=
  if ¬ response.approved then .error (.notApproved response.requestId)
  else
    match response.certificate with
    | none => .error .missingCertificate
    | some cert =>
        match s.adminKey response.groupId response.adminDeviceId with
        | .error e => .error e
        | .ok key =>
            if ¬ verifyJoinResponse env response key then
              .error (.invalidResponse response.requestId)
            else if cert.groupId ≠ response.groupId ∨ cert.deviceId ≠ response.deviceId then
              .error .targetMismatch
            else if cert.adminDeviceId ≠ response.adminDeviceId then .error .issuerMismatch
            else s.recordMembership env cert

def leaveNeedsAdmin (groupId : Text) : Bool :=
  (s.getPolicy groupId).any GroupPolicy.leaveRequiresAdmin

def processLeaveRequest (s : GroupDatabase) (request : GroupLeaveRequest) (now : Time) :
    Except MembershipError GroupDatabase :=
  match s.getMembership request.groupId request.deviceId with
  | none => .error (.unknownMembership request.groupId request.deviceId)
  | some row =>
      if row.status ≠ .active then
        .error (.inactiveMembership request.groupId request.deviceId)
      else
        match Base64.decode row.devicePublicKey with
        | none => .error (.malformedKey request.groupId request.deviceId)
        | some key =>
            if ¬ verifyLeaveRequest env request key then
              .error (.invalidLeaveRequest request.deviceId)
            else if s.leaveNeedsAdmin request.groupId then
              .error (.leaveRequiresAdmin request.groupId request.deviceId)
            else s.markMembershipRevoked request.groupId request.deviceId request.deviceId
              (some (orElse request.reason [] "member left group"))
              (some request.timestamp) now

def recordRevocation (s : GroupDatabase) (revocation : MembershipRevocation) (now : Time) :
    Except MembershipError GroupDatabase :=
  match s.adminKey revocation.groupId revocation.revokedBy with
  | .error e => .error e
  | .ok key =>
      if ¬ verifyMembershipRevocation env revocation key then
        .error (.invalidRevocation revocation.deviceId)
      else s.markMembershipRevoked revocation.groupId revocation.deviceId revocation.revokedBy
        revocation.reason (some revocation.timestamp) now

def processLeaveResponse (s : GroupDatabase) (response : GroupLeaveResponse) (now : Time) :
    Except MembershipError GroupDatabase :=
  if ¬ response.approved then .error (.notApproved response.requestId)
  else
    match response.revocation with
    | none => .error .missingRevocation
    | some revocation =>
        match s.adminKey response.groupId response.adminDeviceId with
        | .error e => .error e
        | .ok key =>
            if ¬ verifyLeaveResponse env response key then
              .error (.invalidResponse response.requestId)
            else if revocation.groupId ≠ response.groupId ∨
                revocation.deviceId ≠ response.deviceId then .error .targetMismatch
            else if revocation.revokedBy ≠ response.adminDeviceId then .error .issuerMismatch
            else s.recordRevocation env revocation now

end GroupDatabase

inductive GroupOp where
  | tables (op : StoreOp)
  | recordMembership (cert : MembershipCertificate)
  | revokeMembership (groupId deviceId revokedBy : Text) (reason : Option Text) (now : Time)
  | processJoinResponse (response : GroupJoinResponse)
  | processLeaveRequest (request : GroupLeaveRequest) (now : Time)
  | processLeaveResponse (response : GroupLeaveResponse) (now : Time)
  | recordRevocation (revocation : MembershipRevocation) (now : Time)
  | adoptConn (attached : Bool)

structure GroupState where
  database : GroupDatabase
  attached : Bool

namespace GroupState

def start : GroupState := ⟨GroupDatabase.empty, true⟩

def settle (s : GroupState) : Except MembershipError GroupDatabase → GroupState
  | .ok db => { s with database := db }
  | .error _ => s

def perform (env : GroupEnv) (s : GroupState) : GroupOp → GroupState
  | .tables op =>
      { s with database := { s.database with
        toGroupStore := s.database.toGroupStore.step env.toPrimitives op } }
  | .recordMembership cert => s.settle (s.database.recordMembership env cert)
  | .revokeMembership g d revokedBy reason now =>
      s.settle (s.database.revokeMembership g d revokedBy reason now)
  | .processJoinResponse response => s.settle (s.database.processJoinResponse env response)
  | .processLeaveRequest request now => s.settle (s.database.processLeaveRequest env request now)
  | .processLeaveResponse response now =>
      s.settle (s.database.processLeaveResponse env response now)
  | .recordRevocation revocation now => s.settle (s.database.recordRevocation env revocation now)
  | .adoptConn _ => s

def step (env : GroupEnv) (s : GroupState) (op : GroupOp) : GroupState :=
  match op with
  | .adoptConn attached => { s with attached := attached }
  | op => if s.attached then s.perform env op else s

end GroupState
end Peerc.Groups
