import Peerc.Group.Database

/-!
What one operation of the group store can do to its tables. Every invariant of a run is read
off these cases.
-/
namespace Peerc.Groups
open GroupStore GroupDatabase

structure SameTables (s t : GroupStore) : Prop where
  groups : t.groups = s.groups
  admins : t.admins = s.admins
  policies : t.policies = s.policies

theorem SameTables.refl (s : GroupStore) : SameTables s s := ⟨rfl, rfl, rfl⟩

inductive TablesChange (s : GroupStore) : GroupOp → GroupStore → Prop
  | same {op : GroupOp} {t : GroupStore} (tables : SameTables s t) : TablesChange s op t
  | created {group : Group} (fresh : s.getGroup group.groupId = none) :
      TablesChange s (.tables (.createGroup group)) { s with
        groups := s.groups.insert group
        admins := s.admins.insert (founderOf group) }
  | policySet {policy : GroupPolicy} :
      TablesChange s (.tables (.setPolicy policy)) { s with
        policies := s.policies.upsert policy }
  | adminAdded {g d : Text} {key : Bytes} {addedBy : Text} {now : Time}
      (authority : s.isAdmin g addedBy = true) (absent : s.getAdmin g d = none) :
      TablesChange s (.tables (.addAdmin g d key addedBy now)) { s with
        admins := s.admins.insert
          ⟨g, d, Base64.encode key, now, some addedBy, .active, none, none⟩ }
  | adminRemoved {g d removedBy : Text} {now : Time} (active : s.isAdmin g d = true)
      (several : 1 < (s.listActiveAdmins g).length) :
      TablesChange s (.tables (.removeAdmin g d removedBy now)) { s with
        admins := s.admins.update (fun a => a.groupId = g && a.deviceId = d)
          (fun a => removedRow a removedBy now) (fun _ => rfl) }

theorem store_capability_tables {env : Primitives} {s t : GroupStore} {cap : ExportCapability}
    {now : Time} (stored : s.storeCapability env cap now = .ok t) : SameTables s t := by
  unfold storeCapability at stored
  split at stored
  · cases stored
  · split at stored
    · cases stored
      exact ⟨rfl, rfl, rfl⟩
    · cases stored

theorem gates_tables (env : Primitives) (deviceId fileId : Option Text) (now : Time)
    (gs : List Group) (s : GroupStore) (keys : Option (List Text)) :
    SameTables s (exportGates env deviceId fileId now gs s keys).store := by
  induction gs generalizing s keys with
  | nil => exact .refl s
  | cons _ _ ih =>
    unfold exportGates
    split
    · split
      · split
        · exact .refl s
        · next cap _ =>
          split
          · exact .refl s
          · next ks _ =>
            split
            · have rest := ih (s.markCapabilityUsed cap.capabilityId now) (some ks)
              exact ⟨rest.groups, rest.admins, rest.policies⟩
            · exact .refl s
      · exact .refl s
    · exact ih s keys

variable {s : GroupStore}

theorem settled_tables {op : GroupOp} (result : Except GroupStoreError GroupStore)
    (each : ∀ t, result = .ok t → TablesChange s op t) :
    TablesChange s op (History.settle ⟨s, []⟩ result).store := by
  cases result with
  | error => exact .same (.refl s)
  | ok t => exact each t rfl

theorem store_op_tables (env : Primitives) (s : GroupStore) (op : StoreOp) :
    TablesChange s (.tables op) (s.step env op) := by
  cases op with
  | createGroup =>
    apply settled_tables
    intro _ done
    obtain ⟨fresh, rfl⟩ := create_group_ok done
    exact .created fresh
  | setPolicy =>
    apply settled_tables
    intro _ done
    rw [set_policy_ok done]
    exact .policySet
  | addAdmin =>
    apply settled_tables
    intro _ done
    obtain ⟨authority, absent, rfl⟩ := add_admin_ok done
    exact .adminAdded authority absent
  | removeAdmin =>
    apply settled_tables
    intro _ done
    obtain ⟨active, several, rfl⟩ := remove_admin_ok done
    exact .adminRemoved active several
  | storeCapability =>
    apply settled_tables
    intro _ stored
    exact .same (store_capability_tables stored)
  | markCapabilityUsed | purgeExpiredCapabilities => exact .same ⟨rfl, rfl, rfl⟩
  | checkExport _ d f keys now => exact .same (gates_tables env d f now _ s keys)

/-! ## Memberships -/

def GroupOp.certificate : GroupOp → Option MembershipCertificate
  | .recordMembership cert => some cert
  | .processJoinResponse response => response.certificate
  | _ => none

inductive Grounds (env : GroupEnv) (s : GroupDatabase) (g d : Text) : GroupOp → Text → Prop
  | admin {op : GroupOp} {revokedBy : Text} (active : s.isAdmin g revokedBy = true) :
      Grounds env s g d op revokedBy
  | member {request : GroupLeaveRequest} {now : Time} {row : MembershipRow} {key : Bytes}
      (group : request.groupId = g) (device : request.deviceId = d)
      (found : s.getMembership g d = some row)
      (decoded : Base64.decode row.devicePublicKey = some key)
      (verified : verifyLeaveRequest env request key = true)
      (allowed : s.leaveNeedsAdmin g = false) :
      Grounds env s g d (.processLeaveRequest request now) d

inductive MemberChange (env : GroupEnv) (s : GroupDatabase) (g d : Text) :
    GroupOp → Option MembershipRow → Prop
  | same {op : GroupOp} : MemberChange env s g d op (s.getMembership g d)
  | joined {op : GroupOp} {cert : MembershipCertificate} {key : Bytes}
      (offered : op.certificate = some cert) (group : cert.groupId = g) (device : cert.deviceId = d)
      (admin : s.adminKey g cert.adminDeviceId = .ok key)
      (verified : verifyMembershipCertificate env cert key = true)
      (absent : s.getMembership g d = none) : MemberChange env s g d op (some cert.row)
  | revoked {op : GroupOp} {row : MembershipRow} {revokedBy : Text} {revokedAt : Time}
      {reason : Option Text} (found : s.getMembership g d = some row)
      (active : row.status = .active) (grounds : Grounds env s g d op revokedBy) :
      MemberChange env s g d op (some (row.revoke revokedBy revokedAt reason))

structure MemberStep (env : GroupEnv) (s : GroupDatabase) (op : GroupOp) (t : GroupDatabase) :
    Prop where
  tables : t.toGroupStore = s.toGroupStore
  rows : ∀ g d, MemberChange env s g d op (t.getMembership g d)

variable {cert : MembershipCertificate}

section Members
variable {env : GroupEnv} {s t : GroupDatabase} {op : GroupOp}

variable {g d : Text} {key : Bytes}

theorem admin_key_active (read : s.adminKey g d = .ok key) :
    ∃ a, s.getAdmin g d = some a ∧ a.status = .active ∧ Base64.decode a.publicKey = some key := by
  unfold adminKey at read
  split at read
  · cases read
  · next a found =>
    split at read
    · next active =>
      split at read
      · next raw decoded =>
        cases read
        exact ⟨a, found, active, decoded⟩
      · cases read
    · cases read

theorem admin_key_is_admin (read : s.adminKey g d = .ok key) : s.isAdmin g d = true := by
  obtain ⟨_, found, active, _⟩ := admin_key_active read
  simp [isAdmin, found, active]

theorem insert_member_step (offered : op.certificate = some cert)
    (admin : s.adminKey cert.groupId cert.adminDeviceId = .ok key)
    (verified : verifyMembershipCertificate env cert key = true)
    (absent : s.getMembership cert.groupId cert.deviceId = none) :
    MemberStep env s op { s with memberships := s.memberships.insert cert.row } := by
  refine ⟨rfl, ?_⟩
  intro g d
  have after := Table.find_insert s.memberships cert.row absent (g, d)
  unfold getMembership
  rw [after]
  split
  · next here =>
    obtain ⟨rfl, rfl⟩ := Prod.mk.inj here
    exact .joined offered rfl rfl admin verified absent
  · exact .same

variable {revokedBy : Text} {reason : Option Text}

theorem revoke_member_step {row : MembershipRow} {revokedAt : Time}
    (found : s.getMembership g d = some row) (active : row.status = .active)
    (grounds : Grounds env s g d op revokedBy) : MemberStep env s op { s with
      memberships := s.memberships.update (fun r => r.holder = (g, d))
        (fun r => r.revoke revokedBy revokedAt reason) (fun _ => rfl) } := by
  refine ⟨rfl, ?_⟩
  intro g' d'
  unfold getMembership
  rw [Table.find_update s.memberships (fun r => r.holder = (g, d))
    (fun r => r.revoke revokedBy revokedAt reason) (fun _ => rfl) (g', d')]
  cases member : s.memberships.find (g', d') with
  | none =>
    rw [Option.map_none, ← member]
    exact .same
  | some row' =>
    have holder : row'.holder = (g', d') := ((Table.find_some_iff _ _ _).mp member).2
    rw [Option.map_some]
    split
    · next here =>
      obtain ⟨rfl, rfl⟩ := Prod.mk.inj (holder.symm.trans (by simpa using here))
      cases found.symm.trans member
      exact .revoked found active grounds
    · rw [← member]
      exact .same

theorem record_membership_ok (done : s.recordMembership env cert = .ok t) :
    ∃ key, s.adminKey cert.groupId cert.adminDeviceId = .ok key ∧
      verifyMembershipCertificate env cert key = true ∧
      s.getMembership cert.groupId cert.deviceId = none ∧ cert.issuedAt ≠ .nan ∧
      t = { s with memberships := s.memberships.insert cert.row } := by
  unfold recordMembership at done
  split at done
  · cases done
  · split at done
    · cases done
    · next key admin =>
      split_ifs at done with verified absent timed
      cases done
      exact ⟨key, admin, verified, by simpa using absent, timed, rfl⟩

theorem record_membership_step
    (offered : op.certificate = some cert) (done : s.recordMembership env cert = .ok t) :
    MemberStep env s op t := by
  obtain ⟨_, admin, verified, absent, _, rfl⟩ := record_membership_ok done
  exact insert_member_step offered admin verified absent

variable {now : Time}

theorem mark_revoked_step {revokedAt : Option Time} (grounds : Grounds env s g d op revokedBy)
    (done : s.markMembershipRevoked g d revokedBy reason revokedAt now = .ok t) :
    MemberStep env s op t := by
  unfold markMembershipRevoked at done
  split at done
  · cases done
  · cases done
  · next status =>
    obtain ⟨_, found, active⟩ := Option.map_eq_some_iff.mp status
    cases done
    exact revoke_member_step found active grounds

theorem revoke_membership_step
    (done : s.revokeMembership g d revokedBy reason now = .ok t) : MemberStep env s op t := by
  unfold revokeMembership at done
  split at done
  · cases done
  · next active => exact mark_revoked_step (.admin (by simpa using active)) done

theorem record_revocation_step {revocation : MembershipRevocation}
    (done : s.recordRevocation env revocation now = .ok t) : MemberStep env s op t := by
  unfold recordRevocation at done
  split at done
  · cases done
  · next key read =>
    split at done
    · cases done
    · exact mark_revoked_step (.admin (admin_key_is_admin read)) done

theorem leave_request_step {request : GroupLeaveRequest}
    (done : s.processLeaveRequest env request now = .ok t) :
    MemberStep env s (.processLeaveRequest request now) t := by
  unfold processLeaveRequest at done
  split at done
  · cases done
  · next row found =>
    split at done
    · cases done
    · split at done
      · cases done
      · next key decoded =>
        split at done
        · cases done
        · next verified =>
          split at done
          · cases done
          · next allowed =>
            exact mark_revoked_step (.member rfl rfl found decoded (by simpa using verified)
              (by simpa using allowed)) done

theorem join_response_ok {response : GroupJoinResponse}
    (done : s.processJoinResponse env response = .ok t) :
    ∃ cert, response.certificate = some cert ∧ cert.groupId = response.groupId ∧
      cert.deviceId = response.deviceId ∧ s.recordMembership env cert = .ok t := by
  unfold processJoinResponse at done
  split at done
  · cases done
  · split at done
    · cases done
    · next cert offered =>
      split at done
      · cases done
      · split at done
        · cases done
        · split at done
          · cases done
          · next matched =>
            obtain ⟨group, device⟩ := not_or.mp matched
            split at done
            · cases done
            · exact ⟨cert, offered, not_not.mp group, not_not.mp device, done⟩

theorem join_response_step {response : GroupJoinResponse}
    (done : s.processJoinResponse env response = .ok t) :
    MemberStep env s (.processJoinResponse response) t := by
  obtain ⟨_, offered, _, _, recorded⟩ := join_response_ok done
  exact record_membership_step offered recorded

theorem leave_response_step {response : GroupLeaveResponse}
    (done : s.processLeaveResponse env response now = .ok t) : MemberStep env s op t := by
  unfold processLeaveResponse at done
  split at done
  · cases done
  · split at done
    · cases done
    · split at done
      · cases done
      · split at done
        · cases done
        · split at done
          · cases done
          · split at done
            · cases done
            · exact record_revocation_step done

theorem member_step_refl (env : GroupEnv) (s : GroupDatabase) (op : GroupOp) :
    MemberStep env s op s :=
  ⟨rfl, fun _ _ => .same⟩

theorem settled_member {s : GroupState} (result : Except MembershipError GroupDatabase)
    (each : ∀ t, result = .ok t → MemberStep env s.database op t) :
    MemberStep env s.database op (s.settle result).database := by
  cases result with
  | error => exact member_step_refl env s.database op
  | ok t => exact each t rfl

end Members

/-! ## One operation of the store -/

variable (env : GroupEnv)

theorem step_database (s : GroupState) (op : GroupOp) : (s.step env op).database =
    if s.attached then (s.perform env op).database else s.database := by
  cases op <;> simp only [GroupState.step, GroupState.perform] <;> split <;> rfl

theorem perform_cases (s : GroupState) (op : GroupOp) :
    MemberStep env s.database op (s.perform env op).database ∨
      ∃ tableOp, op = .tables tableOp ∧ (s.perform env op).database =
        { s.database with
          toGroupStore := s.database.toGroupStore.step env.toPrimitives tableOp } := by
  cases op with
  | tables tableOp => exact .inr ⟨tableOp, rfl, rfl⟩
  | recordMembership =>
    exact .inl (settled_member _ fun t done => record_membership_step rfl done)
  | revokeMembership => exact .inl (settled_member _ fun t done => revoke_membership_step done)
  | processJoinResponse => exact .inl (settled_member _ fun t done => join_response_step done)
  | processLeaveRequest => exact .inl (settled_member _ fun t done => leave_request_step done)
  | processLeaveResponse => exact .inl (settled_member _ fun t done => leave_response_step done)
  | recordRevocation => exact .inl (settled_member _ fun t done => record_revocation_step done)
  | adoptConn => exact .inl (member_step_refl env s.database _)

theorem tables_step (s : GroupState) (op : GroupOp) :
    TablesChange s.database.toGroupStore op (s.step env op).database.toGroupStore := by
  rw [step_database]
  split
  · rcases perform_cases env s op with member | ⟨tableOp, rfl, written⟩
    · rw [member.tables]
      exact .same (.refl _)
    · rw [written]
      exact store_op_tables env.toPrimitives s.database.toGroupStore tableOp
  · exact .same (.refl _)

theorem member_step (s : GroupState) (op : GroupOp) (g d : Text) :
    MemberChange env s.database g d op ((s.step env op).database.getMembership g d) := by
  rw [step_database]
  split
  · rcases perform_cases env s op with member | ⟨tableOp, rfl, written⟩
    · exact member.rows g d
    · rw [written]
      exact .same
  · exact .same

/-! ## One administrator -/

inductive AdminChange (s : GroupStore) (g d : Text) : GroupOp → Option AdminRecord → Prop
  | same {op : GroupOp} : AdminChange s g d op (s.getAdmin g d)
  | founded {group : Group} (fresh : s.getGroup g = none) (group_ : group.groupId = g)
      (founder : group.adminDeviceId = d) (absent : s.getAdmin g d = none) :
      AdminChange s g d (.tables (.createGroup group)) (some (founderOf group))
  | added {key : Bytes} {addedBy : Text} {now : Time} (authority : s.isAdmin g addedBy = true)
      (absent : s.getAdmin g d = none) :
      AdminChange s g d (.tables (.addAdmin g d key addedBy now))
        (some ⟨g, d, Base64.encode key, now, some addedBy, .active, none, none⟩)
  | removed {row : AdminRecord} {removedBy : Text} {now : Time}
      (found : s.getAdmin g d = some row) (active : row.status = .active)
      (several : 1 < (s.listActiveAdmins g).length) :
      AdminChange s g d (.tables (.removeAdmin g d removedBy now))
        (some (removedRow row removedBy now))

theorem get_admin_insert (s : GroupStore) (row : AdminRecord)
    (absent : s.getAdmin row.groupId row.deviceId = none) (g d : Text) :
    (s.admins.insert row).find (g, d) =
      if (g, d) = (row.groupId, row.deviceId) then some row else s.getAdmin g d :=
  Table.find_insert s.admins row absent (g, d)

theorem admin_row {s t : GroupStore} {op : GroupOp} (change : TablesChange s op t) (g d : Text) :
    AdminChange s g d op (t.getAdmin g d) := by
  cases change with
  | same tables =>
    have rows : t.getAdmin g d = s.getAdmin g d := by simp [getAdmin, tables.admins]
    rw [rows]
    exact .same
  | policySet => exact .same
  | @created group fresh =>
    cases absent : s.getAdmin group.groupId group.adminDeviceId with
    | none =>
      unfold getAdmin
      rw [get_admin_insert s (founderOf group) absent]
      split
      · next here =>
        obtain ⟨rfl, rfl⟩ := Prod.mk.inj here
        exact .founded fresh rfl rfl absent
      · exact .same
    | some =>
      have kept := Table.insert_taken s.admins (r := founderOf group) absent
      unfold getAdmin
      rw [kept]
      exact .same
  | @adminAdded g' d' key addedBy now authority absent =>
    unfold getAdmin
    rw [get_admin_insert s
      ⟨g', d', Base64.encode key, now, some addedBy, .active, none, none⟩ absent]
    split
    · next here =>
      obtain ⟨rfl, rfl⟩ := Prod.mk.inj here
      exact .added authority absent
    · exact .same
  | @adminRemoved g' d' removedBy now active several =>
    unfold getAdmin
    rw [Table.find_update s.admins (fun a => a.groupId = g' && a.deviceId = d')
      (fun a => removedRow a removedBy now) (fun _ => rfl) (g, d)]
    cases found : s.admins.find (g, d) with
    | none =>
      rw [Option.map_none, ← found]
      exact .same
    | some row =>
      have key := ((Table.find_some_iff _ _ _).mp found).2
      obtain ⟨rfl, rfl⟩ := Prod.mk.inj key
      rw [Option.map_some]
      split
      · next here =>
        simp only [Bool.and_eq_true, decide_eq_true_eq] at here
        obtain ⟨rfl, rfl⟩ := here
        have live : row.status = .active := by
          simpa [isAdmin, getAdmin, found] using active
        exact .removed found live several
      · rw [← found]
        exact .same

end Peerc.Groups
