import Peerc.Group.Changes

/-!
The administrators of a group over every run of the store. A group is never without an active
one, and rows are never deleted, rekeyed or made active again.
-/
namespace Peerc.Groups
open Runs GroupStore

structure Governed (s : GroupStore) : Prop where
  rooted : ∀ {g d}, (s.getAdmin g d).isSome = true → (s.getGroup g).isSome = true
  governed : ∀ {g}, (s.getGroup g).isSome = true → ∃ d, s.isAdmin g d = true

def AdminsExtend (s t : GroupStore) : Prop :=
  ∀ g d a, s.getAdmin g d = some a →
    ∃ b, t.getAdmin g d = some b ∧ b.publicKey = a.publicKey ∧
      (a.status = .removed → b.status = .removed)

theorem AdminsExtend.refl (s : GroupStore) : AdminsExtend s s :=
  fun _ _ a found => ⟨a, found, rfl, id⟩

theorem AdminsExtend.trans {s t u : GroupStore} (first : AdminsExtend s t)
    (second : AdminsExtend t u) : AdminsExtend s u := by
  intro g d a found
  obtain ⟨b, foundB, keyB, staysB⟩ := first g d a found
  obtain ⟨c, foundC, keyC, staysC⟩ := second g d b foundB
  exact ⟨c, foundC, keyC.trans keyB, fun removed => staysC (staysB removed)⟩

section Lookup
variable {s t : GroupStore} {g d : Text}

theorem is_admin_iff : s.isAdmin g d = true ↔
    ∃ a, s.getAdmin g d = some a ∧ a.status = .active := by
  simp [isAdmin, Option.any_eq_true]

theorem is_admin_iff_listed : s.isAdmin g d = true ↔
    ∃ a ∈ s.listActiveAdmins g, a.deviceId = d := by
  rw [is_admin_iff]
  constructor
  · rintro ⟨a, found, active⟩
    obtain ⟨member, key⟩ := (Table.find_some_iff _ _ _).mp found
    obtain ⟨group, device⟩ := Prod.mk.inj key
    exact ⟨a, (mem_list_active_admins s g a).mpr ⟨member, group, active⟩, device⟩
  · rintro ⟨a, listed, device⟩
    obtain ⟨member, group, active⟩ := (mem_list_active_admins s g a).mp listed
    refine ⟨a, ?_, active⟩
    exact (Table.find_some_iff _ _ _).mpr ⟨member, by rw [group, device]⟩

theorem active_devices_distinct (s : GroupStore) (g : Text) :
    ((s.listActiveAdmins g).map AdminRecord.deviceId).Nodup := by
  have rows : s.admins.rows.Nodup := List.Nodup.of_map _ s.admins.unique
  have listed : (s.listActiveAdmins g).Nodup :=
    (List.perm_insertionSort _ _).nodup_iff.mpr (rows.filter _)
  apply List.Nodup.map_on _ listed
  intro a memberA b memberB same
  obtain ⟨rowA, groupA, _⟩ := (mem_list_active_admins s g a).mp memberA
  obtain ⟨rowB, groupB, _⟩ := (mem_list_active_admins s g b).mp memberB
  exact Table.same_key_same_row s.admins rowA rowB (by rw [groupA, groupB, same])

theorem another_admin (several : 1 < (s.listActiveAdmins g).length) (d : Text) :
    ∃ other, other ≠ d ∧ s.isAdmin g other = true := by
  have distinct := active_devices_distinct s g
  have listed : ∀ a ∈ s.listActiveAdmins g, s.isAdmin g a.deviceId = true :=
    fun a member => is_admin_iff_listed.mpr ⟨a, member, rfl⟩
  match list : s.listActiveAdmins g with
  | [] => simp [list] at several
  | [a] => simp [list] at several
  | a :: b :: rest =>
    rw [list] at distinct listed
    have differ : a.deviceId ≠ b.deviceId := by
      intro same
      simp [same] at distinct
    by_cases first : a.deviceId = d
    · exact ⟨b.deviceId, fun second => differ (first.trans second.symm), listed b (by simp)⟩
    · exact ⟨a.deviceId, first, listed a (by simp)⟩

end Lookup

section Step
variable {s t : GroupStore} {op : GroupOp}

section Change
variable (change : TablesChange s op t)
include change

theorem step_groups (g : Text) : t.getGroup g = s.getGroup g ∨
      ∃ group, op = .tables (.createGroup group) ∧ group.groupId = g ∧ s.getGroup g = none ∧
        t.getGroup g = some group ∧
        t.admins = s.admins.insert (founderOf group) := by
  cases change with
  | same tables => exact .inl (by simp [getGroup, tables.groups])
  | policySet | adminAdded | adminRemoved => exact .inl rfl
  | @created group fresh =>
    have after := Table.find_insert s.groups group fresh g
    by_cases here : g = group.groupId
    · subst here
      rw [if_pos rfl] at after
      exact .inr ⟨group, rfl, rfl, fresh, after, rfl⟩
    · rw [if_neg here] at after
      exact .inl after

theorem rows_extend : AdminsExtend s t := by
  intro g d a before
  have row := admin_row change g d
  generalize t.getAdmin g d = after at row ⊢
  cases row with
  | same => exact ⟨a, before, rfl, id⟩
  | founded _ _ _ absent | added _ absent =>
    rw [absent] at before
    cases before
  | removed found =>
    cases found.symm.trans before
    exact ⟨_, rfl, rfl, fun _ => rfl⟩

theorem admin_stays {g d : Text} (before : s.isAdmin g d = true) :
    t.isAdmin g d = true ∨ 1 < (s.listActiveAdmins g).length ∧
      ∃ removedBy now, op = .tables (.removeAdmin g d removedBy now) := by
  obtain ⟨a, found, active⟩ := is_admin_iff.mp before
  have row := admin_row change g d
  generalize result : t.getAdmin g d = after at row
  cases row with
  | same => exact .inl (is_admin_iff.mpr ⟨a, result.trans found, active⟩)
  | founded _ _ _ absent | added _ absent =>
    rw [absent] at found
    cases found
  | removed _ _ several => exact .inr ⟨several, _, _, rfl⟩

theorem admin_source {g d : Text} (after : (t.getAdmin g d).isSome = true) :
    (∃ other, (s.getAdmin g other).isSome = true) ∨ (t.getGroup g).isSome = true := by
  have row := admin_row change g d
  generalize result : t.getAdmin g d = now at row after
  cases row with
  | same => exact .inl ⟨d, after⟩
  | added authority =>
    obtain ⟨_, found, _⟩ := is_admin_iff.mp authority
    exact .inl ⟨_, by rw [found]; rfl⟩
  | removed found => exact .inl ⟨d, by rw [found]; rfl⟩
  | founded fresh group_ _ absent =>
    subst group_
    cases change with
    | same tables =>
      simp only [getAdmin, tables.admins] at result absent
      cases result.symm.trans absent
    | created =>
      have found := Table.find_insert s.groups _ fresh
      exact .inr (by simp [getGroup, found])

theorem groups_persist {g : Text} (before : (s.getGroup g).isSome = true) :
    (t.getGroup g).isSome = true := by
  rcases step_groups change g with same | ⟨group, _, _, _, created, _⟩
  · rw [same]
    exact before
  · rw [created]
    rfl

end Change

theorem Governed.unfounded (inv : Governed s) {g : Text} (fresh : s.getGroup g = none) (d : Text) :
    s.getAdmin g d = none := by
  cases found : s.getAdmin g d with
  | none => rfl
  | some =>
    have known := inv.rooted (d := d) (by rw [found]; rfl)
    rw [fresh] at known
    cases known

theorem founder_written {group : Group} (inv : Governed s) (fresh : s.getGroup group.groupId = none)
    (inserted : t.admins = s.admins.insert (founderOf group)) :
    t.getAdmin group.groupId group.adminDeviceId = some (founderOf group) := by
  have absent := inv.unfounded fresh group.adminDeviceId
  unfold getAdmin
  rw [inserted]
  exact (get_admin_insert s (founderOf group) absent _ _).trans (if_pos rfl)

theorem governed_step (change : TablesChange s op t) (inv : Governed s) : Governed t := by
  constructor
  · intro _ _ after
    rcases admin_source change after with ⟨other, known⟩ | created
    · exact groups_persist change (inv.rooted known)
    · exact created
  · intro g exists_
    rcases step_groups change g with same | ⟨group, rfl, rfl, fresh, _, inserted⟩
    · rw [same] at exists_
      obtain ⟨d, active⟩ := inv.governed exists_
      rcases admin_stays change active with stays | ⟨several, removedBy, now, rfl⟩
      · exact ⟨d, stays⟩
      · obtain ⟨other, differs, activeOther⟩ := another_admin several d
        rcases admin_stays change activeOther with stays | ⟨_, _, _, removal⟩
        · exact ⟨other, stays⟩
        · cases removal
          exact absurd rfl differs
    · exact ⟨group.adminDeviceId, is_admin_iff.mpr
        ⟨founderOf group, founder_written inv fresh inserted, rfl⟩⟩

end Step

variable (env : GroupEnv)

theorem governed_run (ops : List GroupOp) :
    Governed (run (GroupState.step env) GroupState.start ops).database.toGroupStore := by
  have start : Governed GroupState.start.database.toGroupStore := by
    constructor
    · intro _ _ found
      cases found
    · intro _ found
      cases found
  exact invariant_free (fun (s : GroupState) op (inv : Governed s.database.toGroupStore) =>
    governed_step (tables_step env s op) inv) start ops

theorem governed_invariant {env : GroupEnv} {inv : GroupStore → Prop}
    {cond : GroupState → GroupOp → Prop} {ops : List GroupOp}
    (start : inv GroupState.start.database.toGroupStore)
    (keep : ∀ (s : GroupState) (op : GroupOp), Governed s.database.toGroupStore →
      inv s.database.toGroupStore → cond s op → inv (s.step env op).database.toGroupStore)
    (along : Along (GroupState.step env) cond GroupState.start ops) :
    inv (run (GroupState.step env) GroupState.start ops).database.toGroupStore := by
  have both (s : GroupState) (op : GroupOp)
      (held : Governed s.database.toGroupStore ∧ inv s.database.toGroupStore)
      (allowed : cond s op) :=
    And.intro (governed_step (tables_step env s op) held.1) (keep s op held.1 held.2 allowed)
  exact (invariant_run both ⟨governed_run env [], start⟩ along).2

variable (s : GroupState)

theorem rows_extend_run (ops : List GroupOp) : AdminsExtend s.database.toGroupStore
      (run (GroupState.step env) s ops).database.toGroupStore := by
  induction ops generalizing s with
  | nil => exact AdminsExtend.refl _
  | cons op _ ih => exact (rows_extend (tables_step env s op)).trans (ih (s.step env op))

/-- In every run each group has an active administrator, and a removed one stays removed. -/
theorem groups_keep_administrators (env : GroupEnv) (ops more : List GroupOp) :
    (∀ g, ((run (GroupState.step env) GroupState.start ops).database.getGroup g).isSome = true →
      ∃ d a, (run (GroupState.step env) GroupState.start ops).database.getAdmin g d = some a ∧
        a.status = .active) ∧
    AdminsExtend (run (GroupState.step env) GroupState.start ops).database.toGroupStore
      (run (GroupState.step env) GroupState.start (ops ++ more)).database.toGroupStore := by
  constructor
  · intro _ exists_
    obtain ⟨d, active⟩ := (governed_run env ops).governed exists_
    obtain ⟨a, found, live⟩ := is_admin_iff.mp active
    exact ⟨d, a, found, live⟩
  · rw [run_append]
    exact rows_extend_run env _ more

/-! ## In whose name the administrators change -/

def GroupOp.author : GroupOp → Option Text
  | .tables (.addAdmin _ _ _ addedBy _) => some addedBy
  | .tables (.removeAdmin _ _ removedBy _) => some removedBy
  | _ => none

variable (op : GroupOp)

def ChangesAdmin (g d : Text) : Prop :=
  (s.step env op).database.isAdmin g d ≠ s.database.isAdmin g d

def Authorised : Prop :=
  ∀ g d, (s.database.getGroup g).isSome = true → ChangesAdmin env s op g d →
    ∃ author, op.author = some author ∧ s.database.isAdmin g author = true

/-- A removal the store will carry out, with the database open, the device an active administrator
and not the only one, names an active administrator. -/
def RemovedByAdmin : GroupOp → Prop
  | .tables (.removeAdmin g d removedBy _) => s.attached = true → s.database.isAdmin g d = true →
      1 < (s.database.listActiveAdmins g).length → s.database.isAdmin g removedBy = true
  | _ => True

theorem removal_changes {env : GroupEnv} {s : GroupState} {g d : Text}
    (attached : s.attached = true)
    (active : s.database.isAdmin g d = true) (several : 1 < (s.database.listActiveAdmins g).length)
    (removedBy : Text) (now : Time) :
    ChangesAdmin env s (.tables (.removeAdmin g d removedBy now)) g d := by
  obtain ⟨row, found, _⟩ := is_admin_iff.mp active
  have place := ((Table.find_some_iff _ _ _).mp found).2
  obtain ⟨rfl, rfl⟩ := Prod.mk.inj place
  have after : (s.step env (.tables (.removeAdmin row.groupId row.deviceId removedBy
      now))).database.getAdmin row.groupId row.deviceId = some (removedRow row removedBy now) := by
    rw [step_database, if_pos attached]
    unfold getAdmin at found
    simp [GroupState.perform, GroupStore.step, History.step, History.settle, removeAdmin, active,
      Nat.not_le.mpr several, getAdmin, Table.find_update, found, removedRow]
  unfold ChangesAdmin
  rw [active]
  simp [isAdmin, after, removedRow]

theorem authorised_iff {env : GroupEnv} {s : GroupState}
    (inv : Governed s.database.toGroupStore) (op : GroupOp) :
    Authorised env s op ↔ RemovedByAdmin s op := by
  constructor
  · intro authorised
    unfold RemovedByAdmin
    split
    · intro attached active several
      obtain ⟨_, found, _⟩ := is_admin_iff.mp active
      obtain ⟨_, named, authority⟩ := authorised _ _ (inv.rooted (by rw [found]; rfl))
        (removal_changes attached active several _ _)
      cases named
      exact authority
    · trivial
  · intro removals g d known changes
    have row := admin_row (tables_step env s op) g d
    generalize result : (s.step env op).database.getAdmin g d = after at row
    cases row with
    | same => exact absurd (by simp [isAdmin, result]) changes
    | founded fresh =>
      rw [fresh] at known
      cases known
    | added authority => exact ⟨_, rfl, authority⟩
    | removed found active several =>
      have attached : s.attached = true := by
        by_contra closed
        unfold ChangesAdmin at changes
        rw [step_database, if_neg closed] at changes
        exact changes rfl
      exact ⟨_, rfl, removals attached (is_admin_iff.mpr ⟨_, found, active⟩) several⟩

/-- Administrators make all changes if and only if every removal carried out names one. -/
theorem changes_authorised_iff (env : GroupEnv) (ops : List GroupOp) :
    Along (GroupState.step env) (Authorised env) GroupState.start ops ↔
      Along (GroupState.step env) RemovedByAdmin GroupState.start ops := by
  exact along_congr (fun s op inv _ => governed_step (tables_step env s op) inv)
    (fun s op (inv : Governed s.database.toGroupStore) _ => authorised_iff inv op)
    (governed_run env []) (along_free _ ops)

section Sample

def founderKey : Bytes := List.replicate 32 1

def deputyKey : Bytes := List.replicate 32 2

def foundedGroup : Group := ⟨"g", "team", "a", Base64.encode founderKey, 0⟩

def twoAdmins : List GroupOp :=
  [.tables (.createGroup foundedGroup),
    .tables (.addAdmin "g" "b" deputyKey "a" 1)]

theorem stranger_removes_founder :
    ¬ Along (GroupState.step GroupEnv.sample) (Authorised GroupEnv.sample) GroupState.start
      (twoAdmins ++ [.tables (.removeAdmin "g" "a" "x" 2)]) := by
  intro along
  have last := along_at along
  obtain ⟨_, named, active⟩ := last "g" "a" (by decide +kernel)
    (by unfold ChangesAdmin; decide +kernel)
  cases named
  revert active
  decide +kernel

end Sample
end Peerc.Groups
