import Peerc.Lib.Reads
import Peerc.Group.Members

/-!
The external trust restriction of the policy enforcer. It does not ask the table of
administrators, and a store whose groups cannot be listed lets every device pass.
-/
namespace Peerc.Groups
open Runs Reads

inductive StoreQuery where
  | listGroups
  | getPolicy (groupId : Text)
  | getMembership (groupId deviceId : Text)
  | getMembershipStatus (groupId deviceId : Text)
  deriving DecidableEq

inductive ExternalTrustError where
  | externalTrustDenied (deviceId groupId groupName : Text)
  | readFailed (query : StoreQuery)
  deriving DecidableEq

abbrev StoreReading := Except ExternalTrustError

/-- A read raises on a detached store, and wherever the database fails. -/
def GroupState.raises (s : GroupState) (faulty : StoreQuery → Bool) (query : StoreQuery) : Bool :=
  !s.attached || faulty query

open GroupState

section Check
variable (s : GroupState) (faulty : StoreQuery → Bool) (now : Time) (deviceId : Text)

def GroupState.query {α : Type} (query : StoreQuery) (value : α) : StoreReading α :=
  ask (s.raises faulty) .readFailed query value

def isMember (group : Group) : StoreReading Bool :=
  if deviceId = group.adminDeviceId then pure true
  else do
    match ← s.query faulty (.getMembership group.groupId deviceId)
        (s.database.getMembership group.groupId deviceId) with
    | none => pure false
    | some row =>
        let status ← s.query faulty (.getMembershipStatus group.groupId deviceId)
          (s.database.getMembershipStatus group.groupId deviceId)
        pure (status = some .active && !isMembershipExpired row.cert now)

def trustGates : List Group → StoreReading Unit
  | [] => pure ()
  | group :: groups => do
      match ← s.query faulty (.getPolicy group.groupId) (s.database.getPolicy group.groupId) with
      | none => trustGates groups
      | some policy =>
          if policy.allowExternalTrust then trustGates groups
          else
            let member ← isMember s faulty now deviceId group
            if member then trustGates groups
            else .error (.externalTrustDenied deviceId group.groupId group.name)

end Check

/-- The enforcer has the store or, when there is none, lets everything pass. -/
def checkExternalTrust (store : Option GroupState) (faulty : StoreQuery → Bool) (now : Time)
    (deviceId : Text) : StoreReading Unit :=
  match store with
  | none => pure ()
  | some s =>
      match s.query faulty .listGroups s.database.listGroups with
      -- except Exception: return
      | .error _ => pure ()
      | .ok groups => trustGates s faulty now deviceId groups

def forbidsExternalTrust (s : GroupStore) (groupId : Text) : Bool :=
  (s.getPolicy groupId).any (fun policy => !policy.allowExternalTrust)

def activeMember (s : GroupDatabase) (groupId deviceId : Text) (now : Time) : Bool :=
  (s.getMembership groupId deviceId).any (fun row =>
    row.status = .active && !isMembershipExpired row.cert now)

def letsPass (s : GroupDatabase) (now : Time) (deviceId : Text) (group : Group) : Bool :=
  !forbidsExternalTrust s.toGroupStore group.groupId ||
    (deviceId = group.adminDeviceId || activeMember s group.groupId deviceId now)

section Consulted
variable (s : GroupDatabase) (now : Time) (deviceId : Text)

def memberReads (group : Group) : List StoreQuery :=
  if deviceId = group.adminDeviceId then []
  else .getMembership group.groupId deviceId ::
    if (s.getMembership group.groupId deviceId).isSome then
      [.getMembershipStatus group.groupId deviceId]
    else []

/-- The reads the decision rests on, up to the first group that keeps the device out. -/
def consulted : List Group → List StoreQuery
  | [] => []
  | group :: groups =>
      .getPolicy group.groupId ::
        ((if forbidsExternalTrust s.toGroupStore group.groupId then memberReads s deviceId group
          else []) ++
        if letsPass s now deviceId group then consulted groups else [])

end Consulted

/-- The groups can be listed, and what the decision rests on can be read. -/
def Readable (s : GroupState) (faulty : StoreQuery → Bool) (now : Time) (deviceId : Text) : Prop :=
  ∀ query ∈ .listGroups :: consulted s.database now deviceId s.database.listGroups,
    s.raises faulty query = false

instance (s : GroupState) (faulty : StoreQuery → Bool) (now : Time) (deviceId : Text) :
    Decidable (Readable s faulty now deviceId) :=
  List.decidableBAll _ _

section Answer
variable {s : GroupState} {faulty : StoreQuery → Bool} {now : Time} {deviceId : Text}

theorem query_yields {α : Type} (query : StoreQuery) (value : α) :
    Yields (s.raises faulty) [query] (s.query faulty query value) (some value) :=
  yields_ask _ query value

theorem is_member_yields (group : Group) :
    Yields (s.raises faulty) (memberReads s.database deviceId group)
      (isMember s faulty now deviceId group)
      (some (deviceId = group.adminDeviceId ||
        activeMember s.database group.groupId deviceId now)) := by
  unfold isMember memberReads
  split
  · next founder =>
    simp only [founder, decide_true, Bool.true_or]
    exact yields_pure true
  · next other =>
    simp only [other, decide_false, Bool.false_or, activeMember]
    refine yields_then (query_yields _ _) ?_
    cases found : s.database.getMembership group.groupId deviceId with
    | none => exact yields_pure false
    | some =>
      refine yields_then (query_yields _ _) ?_
      simp only [GroupDatabase.getMembershipStatus, found, Option.map_some, Option.any_some,
        Option.some.injEq]
      exact yields_pure _

theorem trust_gates_yields (groups : List Group) :
    Yields (s.raises faulty) (consulted s.database now deviceId groups)
      (trustGates s faulty now deviceId groups)
      (if groups.all (letsPass s.database now deviceId) then some () else none) := by
  induction groups with
  | nil => exact yields_pure ()
  | cons group _ ih =>
    unfold trustGates consulted
    refine yields_then (query_yields _ _) ?_
    have first : letsPass s.database now deviceId group =
        (!forbidsExternalTrust s.database.toGroupStore group.groupId ||
          (deviceId = group.adminDeviceId ||
            activeMember s.database group.groupId deviceId now)) := rfl
    unfold forbidsExternalTrust at first ⊢
    cases found : s.database.getPolicy group.groupId with
    | none => simpa [first, found] using ih
    | some policy =>
      cases allows : policy.allowExternalTrust with
      | true => simpa [first, found, allows] using ih
      | false =>
        simp only [found, allows, Option.any_some, Bool.not_false, Bool.not_true,
          Bool.false_or] at first
        simp only [allows, Bool.false_eq_true, ↓reduceIte, Option.any_some, Bool.not_false]
        refine yields_then (is_member_yields group) ?_
        rw [List.all_cons, first]
        split
        · next member => simpa [member] using ih
        · next stranger =>
          simp only [stranger, Bool.false_and, Bool.false_eq_true, ↓reduceIte]
          exact yields_refuse _

theorem external_trust_returns_iff : checkExternalTrust (some s) faulty now deviceId = .ok () ↔
    s.raises faulty .listGroups = true ∨ Readable s faulty now deviceId ∧
      ∀ group ∈ s.database.groups.rows, letsPass s.database now deviceId group = true := by
  unfold checkExternalTrust Readable
  rw [List.forall_mem_cons]
  cases raised : s.raises faulty .listGroups with
  | true => simp [query, ask, raised, pure, Except.pure]
  | false =>
    have listed : s.query faulty .listGroups s.database.listGroups = .ok s.database.listGroups := by
      simp [query, ask, raised]
    dsimp only
    rw [listed]
    dsimp only
    rw [trust_gates_yields s.database.listGroups ()]
    simp [GroupStore.mem_list_groups]

end Answer

/-! ## Against the administrators and members of the group -/

def Vetted (s : GroupState) (faulty : StoreQuery → Bool) (now : Time) (deviceId : Text) : Prop :=
  Readable s faulty now deviceId ∧ ∀ group ∈ s.database.groups.rows,
    forbidsExternalTrust s.database.toGroupStore group.groupId = true →
      s.database.isAdmin group.groupId deviceId = true ∨
        activeMember s.database group.groupId deviceId now = true

instance (s : GroupState) (faulty : StoreQuery → Bool) (now : Time) (deviceId : Text) :
    Decidable (Vetted s faulty now deviceId) :=
  inferInstanceAs (Decidable (_ ∧ ∀ group ∈ s.database.groups.rows, _))

/-- One gate lets the device pass only as the founder, who has been removed. -/
def RemovedFounderPasses (s : GroupDatabase) (now : Time) (deviceId : Text) : Prop :=
  (∀ group ∈ s.groups.rows, letsPass s now deviceId group = true) ∧
    ∃ group ∈ s.groups.rows, forbidsExternalTrust s.toGroupStore group.groupId = true ∧
      deviceId = group.adminDeviceId ∧
      (∃ a, s.getAdmin group.groupId deviceId = some a ∧ a.status = .removed) ∧
      activeMember s group.groupId deviceId now = false

/-- Of one group the device is only an administrator who did not found it. -/
def AdminRefused (s : GroupDatabase) (now : Time) (deviceId : Text) : Prop :=
  (∀ group ∈ s.groups.rows, forbidsExternalTrust s.toGroupStore group.groupId = true →
    s.isAdmin group.groupId deviceId = true ∨ activeMember s group.groupId deviceId now = true) ∧
    ∃ group ∈ s.groups.rows, forbidsExternalTrust s.toGroupStore group.groupId = true ∧
      s.isAdmin group.groupId deviceId = true ∧ deviceId ≠ group.adminDeviceId ∧
      activeMember s group.groupId deviceId now = false

def FoundersListed (s : GroupStore) : Prop :=
  ∀ g group, s.getGroup g = some group → (s.getAdmin g group.adminDeviceId).isSome = true

theorem founders_listed_step {s t : GroupStore} {op : GroupOp} (change : TablesChange s op t)
    (governed : Governed s) (listed : FoundersListed s) : FoundersListed t := by
  intro g group found
  rcases step_groups change g with same | ⟨created, rfl, rfl, fresh, written, inserted⟩
  · rw [same] at found
    obtain ⟨a, row⟩ := Option.isSome_iff_exists.mp (listed g group found)
    obtain ⟨_, row', _⟩ := rows_extend change g _ a row
    rw [row']
    rfl
  · cases written.symm.trans found
    rw [founder_written governed fresh inserted]
    rfl

theorem founders_listed_run (env : GroupEnv) (ops : List GroupOp) :
    FoundersListed (run (step env) start ops).database.toGroupStore := by
  have start : FoundersListed start.database.toGroupStore := by
    intro _ _ found
    cases found
  exact governed_invariant start (fun s op governed listed _ =>
    founders_listed_step (tables_step env s op) governed listed) (along_free _ ops)

theorem removed_of_not_admin {s : GroupStore} (listed : FoundersListed s) {group : Group}
    (row : group ∈ s.groups.rows) (inactive : s.isAdmin group.groupId group.adminDeviceId = false) :
    ∃ a, s.getAdmin group.groupId group.adminDeviceId = some a ∧ a.status = .removed := by
  have found := (Table.find_some_iff _ _ _).mpr ⟨row, rfl⟩
  obtain ⟨a, known⟩ := Option.isSome_iff_exists.mp (listed _ group found)
  refine ⟨a, known, ?_⟩
  cases status : a.status with
  | removed => rfl
  | active => simp [GroupStore.isAdmin, known, status] at inactive

theorem gates_agree_iff {s : GroupDatabase} (listed : FoundersListed s.toGroupStore) (now : Time)
    (deviceId : Text) : ((∀ group ∈ s.groups.rows, letsPass s now deviceId group = true) ↔
      ∀ group ∈ s.groups.rows, forbidsExternalTrust s.toGroupStore group.groupId = true →
        s.isAdmin group.groupId deviceId = true ∨
          activeMember s group.groupId deviceId now = true) ↔
      ¬ RemovedFounderPasses s now deviceId ∧ ¬ AdminRefused s now deviceId := by
  constructor
  · intro agrees
    constructor
    · rintro ⟨passes, group, row, forbids, _, ⟨_, known, removed⟩, stranger⟩
      rcases agrees.mp passes group row forbids with admin | member
      · simp [GroupStore.isAdmin, known, removed] at admin
      · rw [stranger] at member
        cases member
    · rintro ⟨vetted, group, row, forbids, _, other, stranger⟩
      have passes := agrees.mpr vetted group row
      simp [letsPass, forbids, other, stranger] at passes
  · rintro ⟨noFounder, noRefusal⟩
    constructor
    · intro passes group row forbids
      by_contra outsider
      obtain ⟨notAdmin, stranger⟩ := not_or.mp outsider
      simp only [Bool.not_eq_true] at notAdmin stranger
      have pass := passes group row
      simp only [letsPass, forbids, stranger, Bool.not_true, Bool.or_false, Bool.false_or,
        decide_eq_true_eq] at pass
      subst pass
      exact noFounder ⟨passes, group, row, forbids, rfl, removed_of_not_admin listed row notAdmin,
        stranger⟩
    · intro vetted group row
      by_contra refused
      simp only [letsPass, Bool.not_eq_true, Bool.or_eq_false_iff, Bool.not_eq_false',
        decide_eq_false_iff_not] at refused
      obtain ⟨forbids, other, stranger⟩ := refused
      rcases vetted group row forbids with admin | member
      · exact noRefusal ⟨vetted, group, row, forbids, admin, other, stranger⟩
      · rw [stranger] at member
        cases member

/-- Exactly if the groups can be listed, no removed founder passes and no administrator is
refused. -/
theorem external_trust_matches_iff (env : GroupEnv) (ops : List GroupOp)
    (faulty : StoreQuery → Bool) (now : Time) (deviceId : Text) :
    (checkExternalTrust (some (run (step env) start ops)) faulty now deviceId = .ok () ↔
      Vetted (run (step env) start ops) faulty now deviceId) ↔
    (run (step env) start ops).raises faulty .listGroups = false ∧
      (Readable (run (step env) start ops) faulty now deviceId →
        ¬ RemovedFounderPasses (run (step env) start ops).database now deviceId ∧
          ¬ AdminRefused (run (step env) start ops).database now deviceId) := by
  have agree := gates_agree_iff (founders_listed_run env ops) now deviceId
  generalize run (step env) start ops = s at agree ⊢
  rw [external_trust_returns_iff, Vetted]
  cases raised : s.raises faulty .listGroups with
  | true => simp [Readable, raised]
  | false =>
    simp only [Bool.false_eq_true, false_or, true_and]
    rw [← agree]
    exact and_congr_right_iff

section Sample

def closedPolicy (groupId : Text) : GroupPolicy :=
  ⟨groupId, false, true, false, true, [], .allow, 1, 0, some "a", none⟩

def closedGroup : GroupState :=
  run (step GroupEnv.sample) start
    (twoAdmins ++ [.tables (.setPolicy (closedPolicy "g"))])

theorem external_trust_diverges : (∃ s, s = closedGroup.step GroupEnv.sample
        (.tables (.removeAdmin "g" "a" "b" 2)) ∧
      ¬ ((checkExternalTrust (some s) (fun _ => false) 3 "a") = .ok () →
        Vetted s (fun _ => false) 3 "a") ∧
      ¬ (Vetted s (fun _ => false) 3 "b" →
        (checkExternalTrust (some s) (fun _ => false) 3 "b") = .ok ())) ∧
    ∃ s, s = closedGroup.step GroupEnv.sample (.adoptConn false) ∧
      ¬ ((checkExternalTrust (some s) (fun _ => false) 3 "x") = .ok () →
        Vetted s (fun _ => false) 3 "x") := by
  refine ⟨⟨_, rfl, ?_, ?_⟩, _, rfl, ?_⟩
  · decide +kernel
  · decide +kernel
  · decide +kernel

end Sample
end Peerc.Groups
