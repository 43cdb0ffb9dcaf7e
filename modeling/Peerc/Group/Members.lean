import Peerc.Group.Authority

/-!
Memberships over every run of the store: who can have a row written, and who can have it
revoked, whatever an attacker hands to the operations.
-/
namespace Peerc.Groups
open Runs GroupState GroupEnv

def MembershipRow.asIssued (r : MembershipRow) : MembershipRow :=
  { r with
    status := .active
    revokedBy := none
    revokedAt := none
    revokeReason := none }

variable (env : GroupEnv) (s : GroupState)

structure Vouched (cert : MembershipCertificate)
    (admin : AdminRecord) (key raw : Bytes) : Prop where
  found : s.database.getAdmin cert.groupId cert.adminDeviceId = some admin
  active : admin.status = .active
  adminKey : Base64.decode admin.publicKey = some key
  verified : verifyMembershipCertificate env cert key = true
  signature : Base64.decode cert.signature = some raw
  signed : env.ed25519.Signed key raw (cert.buildPayload env)

structure LeftByRequest (g d : Text) (row : MembershipRow)
    (request : GroupLeaveRequest) (key raw : Bytes) : Prop where
  group : request.groupId = g
  device : request.deviceId = d
  ownKey : Base64.decode row.devicePublicKey = some key
  deviceId : env.computeDeviceId key = d
  signature : Base64.decode request.signature = some raw
  signed : env.ed25519.Signed key raw (request.payload env)
  policy : ∀ policy, s.database.getPolicy g = some policy → policy.leaveRequiresAdmin = false

def EndedProperly (op : GroupOp) : Prop :=
  ∀ g d row row', s.database.getMembership g d = some row → row.status = .active →
    (s.step env op).database.getMembership g d = some row' → row'.status = .revoked →
    ∃ revokedBy, row'.revokedBy = some revokedBy ∧
      (s.database.isAdmin g revokedBy = true ∨
        ∃ request now key raw, op = .processLeaveRequest request now ∧ revokedBy = d ∧
          LeftByRequest env s g d row request key raw)

variable {env : GroupEnv} {row : MembershipRow}

theorem left_by_request (unforgeable : env.ed25519.Unforgeable) {s : GroupState}
    {request : GroupLeaveRequest} {key : Bytes}
    (decoded : Base64.decode row.devicePublicKey = some key)
    (verified : verifyLeaveRequest env request key = true)
    (allowed : s.database.leaveNeedsAdmin request.groupId = false) :
    ∃ raw, LeftByRequest env s request.groupId request.deviceId row request key raw := by
  simp only [verifyLeaveRequest, Bool.and_eq_true, decide_eq_true_eq] at verified
  obtain ⟨raw, signature, signed⟩ := verify_raw_signed unforgeable verified.2
  refine ⟨raw, rfl, rfl, decoded, verified.1, signature, signed, ?_⟩
  intro _ found
  simpa [GroupDatabase.leaveNeedsAdmin, found] using allowed

theorem ended_properly (unforgeable : env.ed25519.Unforgeable) (s : GroupState)
    (op : GroupOp) : EndedProperly env s op := by
  intro g d _ row' before active after revoked
  have change := member_step env s op g d
  rw [after] at change
  generalize written : some row' = now at change
  cases change with
  | same =>
    cases written.trans before
    rw [active] at revoked
    cases revoked
  | joined _ _ _ _ _ absent =>
    rw [absent] at before
    cases before
  | revoked found _ grounds =>
    cases written
    cases found.symm.trans before
    refine ⟨_, rfl, ?_⟩
    cases grounds with
    | admin authority => exact .inl authority
    | member group device known decoded verified allowed =>
      subst group device
      cases known.symm.trans before
      obtain ⟨raw, left⟩ := left_by_request unforgeable decoded verified allowed
      exact .inr ⟨_, _, _, raw, rfl, rfl, left⟩

theorem revoked_stays (env : GroupEnv) (s : GroupState) (ops : List GroupOp) {g d : Text}
    (found : s.database.getMembership g d = some row)
    (revoked : row.status = .revoked) :
    (run (step env) s ops).database.getMembership g d = some row := by
  induction ops generalizing s with
  | nil => exact found
  | cons op _ ih =>
    apply ih
    have change := member_step env s op g d
    generalize (s.step env op).database.getMembership g d = after at change ⊢
    cases change with
    | same => exact found
    | joined _ _ _ _ _ absent =>
      rw [absent] at found
      cases found
    | revoked known live =>
      cases known.symm.trans found
      rw [live] at revoked
      cases revoked

theorem row_from_certificate (unforgeable : env.ed25519.Unforgeable)
    (ops : List GroupOp) {g d : Text}
    (found : (run (step env) start ops).database.getMembership g d = some row) :
    ∃ xs op ys, ops = xs ++ op :: ys ∧ ∃ cert admin key raw, op.certificate = some cert ∧
      row.asIssued = cert.row ∧
      Vouched env (run (step env) start xs) cert admin key raw := by
  have each : ∀ (s : GroupState) (op : GroupOp) (issued : MembershipRow), True →
      (¬ ∃ row, s.database.getMembership g d = some row ∧ row.asIssued = issued) →
      (∃ row, (s.step env op).database.getMembership g d = some row ∧ row.asIssued = issued) →
      ∃ cert admin key raw, op.certificate = some cert ∧ issued = cert.row ∧
        Vouched env s cert admin key raw := by
    rintro s op _ _ unwritten ⟨row, after, rfl⟩
    have change := member_step env s op g d
    rw [after] at change
    generalize written : some row = now at change
    cases change with
    | same => exact absurd ⟨row, written.symm, rfl⟩ unwritten
    | revoked known =>
      cases written
      exact absurd ⟨_, known, rfl⟩ unwritten
    | joined offered group device admin verified =>
      cases written
      subst group device
      obtain ⟨a, foundAdmin, active, decoded⟩ := admin_key_active admin
      obtain ⟨raw, signature, signed⟩ := verify_raw_signed unforgeable verified
      exact ⟨_, a, _, raw, offered, rfl,
        ⟨foundAdmin, active, decoded, verified, signature, signed⟩⟩
  have absent : ¬ ∃ row', start.database.getMembership g d = some row' ∧
      row'.asIssued = row.asIssued := by
    rintro ⟨_, found', _⟩
    cases found'
  exact introduced each (along_free _ ops) absent ⟨row, found, rfl⟩

/-- One row for each group and device, written and ended only on proper grounds. -/
theorem memberships_sound (env : GroupEnv) (unforgeable : env.ed25519.Unforgeable)
    (ops : List GroupOp) :
    ((run (step env) start ops).database.memberships.rows.map
      (fun row => (row.groupId, row.deviceId))).Nodup ∧
    (∀ row ∈ (run (step env) start ops).database.memberships.rows,
      ∃ xs op ys, ops = xs ++ op :: ys ∧ ∃ cert admin key raw, op.certificate = some cert ∧
        row.asIssued = cert.row ∧
        Vouched env (run (step env) start xs) cert admin key raw) ∧
    (∀ more, ∀ row ∈ (run (step env) start ops).database.memberships.rows,
      row.status = .revoked →
        row ∈ (run (step env) start (ops ++ more)).database.memberships.rows) ∧
    Along (step env) (EndedProperly env) start ops := by
  have lookup : ∀ (s : GroupState) (row : MembershipRow), row ∈ s.database.memberships.rows ↔
      s.database.getMembership row.groupId row.deviceId = some row := by
    intro _ _
    constructor
    · intro member
      exact (Table.find_some_iff _ _ _).mpr ⟨member, rfl⟩
    · intro found
      exact ((Table.find_some_iff _ _ _).mp found).1
  refine ⟨(run (step env) start ops).database.memberships.unique, ?_, ?_, ?_⟩
  · intro row member
    exact row_from_certificate unforgeable ops ((lookup _ row).mp member)
  · intro more row member revoked
    rw [run_append]
    exact (lookup _ row).mpr (revoked_stays env _ more ((lookup _ row).mp member) revoked)
  · exact along_of_all (ended_properly unforgeable) _ ops

section Sample

def memberKey : Bytes := List.replicate 32 5

def memberId : Text := sample.computeDeviceId memberKey

def signWith (key payload : Bytes) : Text := Base64.encode (key ++ payload)

def unsignedCert (groupId : Text) : MembershipCertificate :=
  ⟨memberId, Base64.encode memberKey, groupId, "member", [], 1, none, "a", []⟩

def memberCert (groupId : Text) : MembershipCertificate :=
  { unsignedCert groupId with
    signature := signWith founderKey ((unsignedCert groupId).buildPayload sample) }

def unsignedLeave : GroupLeaveRequest := ⟨"r", "g", memberId, none, 2, []⟩

def memberLeave : GroupLeaveRequest :=
  { unsignedLeave with signature := signWith memberKey (unsignedLeave.payload sample) }

def joinAndLeave : List GroupOp :=
  [.tables (.createGroup foundedGroup), .recordMembership (memberCert "g"),
    .processLeaveRequest memberLeave 3]

theorem member_joins_and_leaves : ((run (step sample) start
        (joinAndLeave.take 2)).database.getMembershipStatus "g" memberId = some .active) ∧
      ((run (step sample) start
        joinAndLeave).database.getMembershipStatus "g" memberId = some .revoked) ∧
      Along (step sample) (EndedProperly sample) start
        joinAndLeave :=
  ⟨by decide +kernel, by decide +kernel,
    (memberships_sound sample SignatureScheme.ideal_unforgeable joinAndLeave).2.2.2⟩

end Sample
end Peerc.Groups
