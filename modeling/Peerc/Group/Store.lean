import Mathlib.Data.List.Sort
import Peerc.Lib.Table
import Peerc.Group.Model

/-!
The tables of the group store that decide exports. An operation that raises leaves the tables
as they were. Rows that ORDER BY leaves tied stay in rowid order.
-/
namespace Peerc.Groups

structure CapabilityRow where
  cap : ExportCapability
  used : Bool
  usedAt : Option Time
  deriving DecidableEq

structure GroupStore where
  groups : Table Group Group.groupId
  admins : Table AdminRecord (fun a => (a.groupId, a.deviceId))
  policies : Table GroupPolicy GroupPolicy.groupId
  capabilities : Table CapabilityRow (fun r => r.cap.capabilityId)

inductive GroupStoreError where
  | groupExists (groupId : Text)
  | unknownGroup (groupId : Text)
  | notActiveAdmin (groupId deviceId : Text)
  | adminExists (groupId deviceId : Text)
  | lastAdmin (groupId deviceId : Text)
  | expiredCapability (capabilityId : Text)
  | unverifiableCapability (capabilityId groupId : Text)
  deriving DecidableEq

namespace GroupStore

def empty : GroupStore := ⟨Table.empty, Table.empty, Table.empty, Table.empty⟩

variable (s : GroupStore)

def getGroup (groupId : Text) : Option Group := s.groups.find groupId

def listGroups : List Group :=
  s.groups.rows.insertionSort (fun a b => b.createdAt ≤ a.createdAt)

def createGroup (group : Group) : Except GroupStoreError GroupStore :=
  if (s.getGroup group.groupId).isSome then .error (.groupExists group.groupId)
  else .ok { s with
    groups := s.groups.insert group
    admins := s.admins.insert ⟨group.groupId, group.adminDeviceId, group.adminPublicKey,
      group.createdAt, none, .active, none, none⟩ }

def getPolicy (groupId : Text) : Option GroupPolicy := s.policies.find groupId

variable (groupId deviceId : Text)

def getAdmin : Option AdminRecord :=
  s.admins.find (groupId, deviceId)

def isAdmin : Bool :=
  (s.getAdmin groupId deviceId).any (fun a => a.status = .active)

def listActiveAdmins (groupId : Text) : List AdminRecord :=
  (s.admins.rows.filter (fun a => a.groupId = groupId && a.status = .active)).insertionSort
    (fun a b => a.addedAt ≤ b.addedAt)

/-- One key that does not decode makes the whole call raise. -/
def getActiveAdminPublicKeys (groupId : Text) : Option (List Bytes) :=
  (s.listActiveAdmins groupId).mapM (fun a => Base64.decode a.publicKey)

def setPolicy (policy : GroupPolicy) : Except GroupStoreError GroupStore :=
  if (s.getGroup policy.groupId).isNone then .error (.unknownGroup policy.groupId)
  else
    match policy.adminDeviceId with
    | some admin =>
        if admin ≠ [] ∧ ¬ s.isAdmin policy.groupId admin then
          .error (.notActiveAdmin policy.groupId admin)
        else .ok { s with policies := s.policies.upsert policy }
    | none => .ok { s with policies := s.policies.upsert policy }

def addAdmin (publicKey : Bytes) (addedBy : Text) (now : Time) :
    Except GroupStoreError GroupStore :=
  if (s.getGroup groupId).isNone then .error (.unknownGroup groupId)
  else if ¬ s.isAdmin groupId addedBy then .error (.notActiveAdmin groupId addedBy)
  else if (s.getAdmin groupId deviceId).isSome then .error (.adminExists groupId deviceId)
  else .ok { s with
    admins := s.admins.insert ⟨groupId, deviceId, Base64.encode publicKey, now, some addedBy,
      .active, none, none⟩ }

def removeAdmin (groupId deviceId removedBy : Text) (now : Time) :
    Except GroupStoreError GroupStore :=
  if ¬ s.isAdmin groupId deviceId then .error (.notActiveAdmin groupId deviceId)
  else if (s.listActiveAdmins groupId).length ≤ 1 then .error (.lastAdmin groupId deviceId)
  else .ok { s with
    admins := s.admins.update (fun a => a.groupId = groupId && a.deviceId = deviceId)
      (fun a => { a with status := .removed, removedBy := some removedBy, removedAt := some now })
      (fun _ => rfl) }

def storeCapability (env : Primitives) (s : GroupStore) (cap : ExportCapability) (now : Time) :
    Except GroupStoreError GroupStore :=
  if cap.isExpired now then .error (.expiredCapability cap.capabilityId)
  else if verifyExportCapability env cap
      ((s.listActiveAdmins cap.groupId).map AdminRecord.publicKey) now then
    -- the row is written unused, also when it replaces a row that was burned
    .ok { s with
      capabilities := s.capabilities.replace ⟨{ cap with
        adminDeviceId := some (orEmpty cap.adminDeviceId)
        signature := some (orEmpty cap.signature) }, false, none⟩ }
  else .error (.unverifiableCapability cap.capabilityId cap.groupId)

def usable (groupId deviceId fileId : Text) (now : Time) (r : CapabilityRow) : Bool :=
  r.cap.groupId = groupId && r.cap.deviceId = deviceId && !r.used && now < r.cap.expiresAt &&
    (r.cap.fileId = fileId || r.cap.fileId = ['*'])

def getValidCapability (groupId deviceId fileId : Text) (now : Time) : Option ExportCapability :=
  (((s.capabilities.rows.filter (usable groupId deviceId fileId now)).insertionSort
    (fun a b => b.cap.expiresAt ≤ a.cap.expiresAt)).head?).map CapabilityRow.cap

def markCapabilityUsed (capabilityId : Text) (now : Time) : GroupStore :=
  { s with
    capabilities := s.capabilities.update (fun r => r.cap.capabilityId = capabilityId)
      (fun r => { r with used := true, usedAt := some now }) (fun _ => rfl) }

def purgeExpiredCapabilities (now : Time) : GroupStore :=
  { s with
    capabilities := s.capabilities.delete (fun r => decide (r.cap.expiresAt ≤ now) || r.used) }

variable {s : GroupStore} {g d : Text} {now : Time}

theorem get_valid_capability_some {f : Text}
    {cap : ExportCapability} (found : s.getValidCapability g d f now = some cap) :
    ∃ r ∈ s.capabilities.rows, usable g d f now r = true ∧ r.cap = cap := by
  unfold getValidCapability at found
  obtain ⟨r, first, rfl⟩ := Option.map_eq_some_iff.mp found
  have member := List.mem_of_mem_head? (Option.mem_def.mpr first)
  rw [List.mem_insertionSort, List.mem_filter] at member
  exact ⟨r, member.1, member.2, rfl⟩

variable {t : GroupStore}

theorem get_valid_capability_congr {f : Text}
    (same : t.capabilities.rows.filter (usable g d f now) =
      s.capabilities.rows.filter (usable g d f now)) :
    t.getValidCapability g d f now = s.getValidCapability g d f now := by
  unfold getValidCapability
  rw [same]

theorem mem_mark_capability_used (s : GroupStore) (id : Text) (now : Time) (r : CapabilityRow) :
    r ∈ (s.markCapabilityUsed id now).capabilities.rows ↔
      (r ∈ s.capabilities.rows ∧ r.cap.capabilityId ≠ id) ∨
      ∃ q ∈ s.capabilities.rows, q.cap.capabilityId = id ∧
        r = { q with used := true, usedAt := some now } := by
  simp [markCapabilityUsed]

theorem mem_list_groups (s : GroupStore) (g : Group) : g ∈ s.listGroups ↔ g ∈ s.groups.rows :=
  List.mem_insertionSort _

theorem mem_list_active_admins (s : GroupStore) (g : Text) (a : AdminRecord) :
    a ∈ s.listActiveAdmins g ↔ a ∈ s.admins.rows ∧ a.groupId = g ∧ a.status = .active := by
  simp [listActiveAdmins, List.mem_insertionSort]

/-! What the writing operations have checked and written when they do not raise. -/

def founderOf (group : Group) : AdminRecord :=
  ⟨group.groupId, group.adminDeviceId, group.adminPublicKey, group.createdAt, none, .active, none,
    none⟩

theorem create_group_ok {group : Group} (done : s.createGroup group = .ok t) :
    s.getGroup group.groupId = none ∧
      t = { s with
        groups := s.groups.insert group
        admins := s.admins.insert (founderOf group) } := by
  unfold createGroup at done
  split at done
  · cases done
  · next fresh =>
    cases done
    exact ⟨by simpa using fresh, rfl⟩

theorem set_policy_ok {policy : GroupPolicy} (done : s.setPolicy policy = .ok t) :
    t = { s with policies := s.policies.upsert policy } := by
  unfold setPolicy at done
  split at done
  · cases done
  · split at done
    · split at done <;> cases done
      rfl
    · cases done
      rfl

theorem add_admin_ok {key : Bytes} {addedBy : Text}
    (done : s.addAdmin g d key addedBy now = .ok t) :
    s.isAdmin g addedBy = true ∧ s.getAdmin g d = none ∧
      t = { s with
        admins := s.admins.insert
          ⟨g, d, Base64.encode key, now, some addedBy, .active, none, none⟩ } := by
  unfold addAdmin at done
  split at done
  · cases done
  · split at done
    · cases done
    · next authority =>
      split at done
      · cases done
      · next absent =>
        cases done
        exact ⟨by simpa using authority, by simpa using absent, rfl⟩

def removedRow (a : AdminRecord) (removedBy : Text) (now : Time) : AdminRecord :=
  { a with
    status := .removed
    removedBy := some removedBy
    removedAt := some now }

theorem remove_admin_ok {removedBy : Text} (done : s.removeAdmin g d removedBy now = .ok t) :
    s.isAdmin g d = true ∧ 1 < (s.listActiveAdmins g).length ∧
      t = { s with
        admins := s.admins.update (fun a => a.groupId = g && a.deviceId = d)
          (fun a => removedRow a removedBy now) (fun _ => rfl) } := by
  unfold removeAdmin at done
  split at done
  · cases done
  · next active =>
    split at done
    · cases done
    · next several =>
      cases done
      exact ⟨by simpa using active, by omega, rfl⟩

end GroupStore
end Peerc.Groups
