import Peerc.Group.Store

/-!
The export gate of the policy enforcer. Every group whose policy forbids export asks for one
capability, burned before the next group is looked at. The keys fetched for the first such
group are the ones every later group is checked against.
-/
namespace Peerc.Groups
open List GroupStore Base64 Primitives

inductive ExportError where
  | denied (groupId : Text)
  | malformedKey (groupId : Text)
  deriving DecidableEq

/-- With the capabilities that let a restricting group pass, in order. -/
structure ExportRun where
  store : GroupStore
  passed : List Text
  outcome : Except ExportError Unit

variable (s : GroupStore) (groupId : Text)

def restricts : Bool :=
  (s.getPolicy groupId).any (fun p => !p.allowExport)

def gateKeys : Option (List Text) → Option (List Text)
  | some keys => some keys
  | none => (s.getActiveAdminPublicKeys groupId).map (List.map encode)

def exportGates (env : Primitives) (deviceId fileId : Option Text) (now : Time) :
    List Group → GroupStore → Option (List Text) → ExportRun
  | [], s, _ => ⟨s, [], .ok ()⟩
  | g :: gs, s, keys =>
      if restricts s g.groupId then
        match deviceId, fileId with
        | some d, some f =>
            match s.getValidCapability g.groupId d f now with
            | none => ⟨s, [], .error (.denied g.groupId)⟩
            | some cap =>
                match gateKeys s g.groupId keys with
                | none => ⟨s, [], .error (.malformedKey g.groupId)⟩
                | some ks =>
                    if verifyExportCapability env cap ks now then
                      let rest := exportGates env deviceId fileId now gs
                        (s.markCapabilityUsed cap.capabilityId now) (some ks)
                      ⟨rest.store, cap.capabilityId :: rest.passed, rest.outcome⟩
                    else ⟨s, [], .error (.denied g.groupId)⟩
        | _, _ => ⟨s, [], .error (.denied g.groupId)⟩
      else exportGates env deviceId fileId now gs s keys

variable (env : Primitives)

def checkExport (s : GroupStore) (groupId deviceId fileId : Option Text)
    (activeAdminKeys : Option (List Text)) (now : Time) : ExportRun :=
  let groups := match groupId with
    | some g => if g = [] then s.listGroups else (s.getGroup g).toList
    | none => s.listGroups
  exportGates env deviceId fileId now groups s activeAdminKeys

def SignedByAdminOf (s : GroupStore) (groupId : Text) (cap : ExportCapability) : Prop :=
  ∃ a ∈ s.admins.rows, a.groupId = groupId ∧ a.status = .active ∧
    signedUnder env cap a.publicKey = true

instance (s : GroupStore) (groupId : Text) (cap : ExportCapability) :
    Decidable (SignedByAdminOf env s groupId cap) :=
  inferInstanceAs (Decidable (∃ a ∈ s.admins.rows, _))

def Covered (s : GroupStore) (d f : Text) (now : Time) (groupId : Text) : Prop :=
  ∃ r ∈ s.capabilities.rows, usable groupId d f now r = true ∧
    SignedByAdminOf env s groupId r.cap

instance (s : GroupStore) (d f : Text) (now : Time) (groupId : Text) :
    Decidable (Covered env s d f now groupId) :=
  inferInstanceAs (Decidable (∃ r ∈ s.capabilities.rows, _))

def EveryGateCovered (s : GroupStore) (d f : Text) (now : Time) : Prop :=
  ∀ g ∈ s.groups.rows, restricts s g.groupId = true → Covered env s d f now g.groupId

instance (s : GroupStore) (d f : Text) (now : Time) :
    Decidable (EveryGateCovered env s d f now) :=
  inferInstanceAs (Decidable (∀ g ∈ s.groups.rows, _))

def leadGate : Option Group :=
  s.listGroups.find? (fun g => restricts s g.groupId)

def KeysReadable : Prop :=
  ∀ a ∈ s.admins.rows, a.groupId = groupId → a.status = .active →
    (decode a.publicKey).isSome = true

def HonouredByLead (s : GroupStore) (lead d f : Text) (now : Time) (groupId : Text) : Prop :=
  ∃ cap, s.getValidCapability groupId d f now = some cap ∧ SignedByAdminOf env s lead cap

/-- Every gate is covered, but not by the administrators of the lead group. -/
def FalseDenial (s : GroupStore) (d f : Text) (now : Time) : Prop :=
  EveryGateCovered env s d f now ∧ ∃ lead, leadGate s = some lead ∧
    (¬ KeysReadable s lead.groupId ∨ ∃ g ∈ s.groups.rows, restricts s g.groupId = true ∧
      ¬ HonouredByLead env s lead.groupId d f now g.groupId)

/-- The lead group's administrators signed for every gate, and one of the others is not covered. -/
def FalseGrant (s : GroupStore) (d f : Text) (now : Time) : Prop :=
  ∃ lead, leadGate s = some lead ∧ KeysReadable s lead.groupId ∧
    (∀ g ∈ s.groups.rows, restricts s g.groupId = true →
      HonouredByLead env s lead.groupId d f now g.groupId) ∧
    ∃ g ∈ s.groups.rows, restricts s g.groupId = true ∧ g.groupId ≠ lead.groupId ∧
      ¬ Covered env s d f now g.groupId

theorem read_keys_some (admins : List AdminRecord) {raws : List Bytes}
    (read : admins.mapM (fun a => decode a.publicKey) = some raws) (cap : ExportCapability) :
    (raws.map encode).any (signedUnder env cap) =
      admins.any (fun a => signedUnder env cap a.publicKey) := by
  induction admins generalizing raws with
  | nil =>
    simp at read
    subst read
    rfl
  | cons _ _ ih =>
    simp only [mapM_cons, Option.bind_eq_bind, Option.bind_eq_some_iff, Option.pure_def,
      Option.some.injEq] at read
    obtain ⟨_, decoded, _, tail, rfl⟩ := read
    simp [signedUnder, verifyB64, decoded, decode_encode, ih tail]

theorem read_keys_none_iff (admins : List AdminRecord) :
    admins.mapM (fun a => decode a.publicKey) = none ↔
      ∃ a ∈ admins, decode a.publicKey = none := by
  induction admins with
  | nil => simp
  | cons a admins ih =>
    simp only [mapM_cons, Option.bind_eq_bind, Option.pure_def]
    cases decoded : decode a.publicKey with
    | none => simp [decoded]
    | some =>
      simp only [Option.bind_some, mem_cons, exists_eq_or_imp, decoded, reduceCtorEq, false_or]
      rw [← ih]
      cases admins.mapM (fun a => decode a.publicKey) <;> simp

theorem keys_readable_iff :
    KeysReadable s groupId ↔ ∃ raws, s.getActiveAdminPublicKeys groupId = some raws := by
  constructor
  · intro readable
    cases read : s.getActiveAdminPublicKeys groupId with
    | some raws => exact ⟨raws, rfl⟩
    | none =>
      obtain ⟨a, member, broken⟩ := (read_keys_none_iff _).mp read
      obtain ⟨row, group, active⟩ := (mem_list_active_admins s groupId a).mp member
      simpa [broken] using readable a row group active
  · intro read a row group active
    obtain ⟨_, read⟩ := read
    cases decoded : decode a.publicKey with
    | some => rfl
    | none =>
      have member := (mem_list_active_admins s groupId a).mpr ⟨row, group, active⟩
      have unread := (read_keys_none_iff _).mpr ⟨a, member, decoded⟩
      exact absurd (read.symm.trans unread) (by simp)

variable {d f g : Text} {now : Time}

theorem unexpired_of_usable {r : CapabilityRow}
    (live : usable g d f now r = true) : r.cap.isExpired now = false := by
  simp only [usable, Bool.and_eq_true, decide_eq_true_eq] at live
  simp only [ExportCapability.isExpired, decide_eq_false_iff_not, ge_iff_le, not_le]
  exact live.1.2

variable {s : GroupStore} {env : Primitives}

theorem verify_offered {cap : ExportCapability} (found : s.getValidCapability g d f now = some cap)
    (keys : List Text) :
    verifyExportCapability env cap keys now = keys.any (signedUnder env cap) := by
  obtain ⟨_, _, live, rfl⟩ := get_valid_capability_some found
  simp [verifyExportCapability, unexpired_of_usable live]

theorem any_lead_key_iff (env : Primitives) (s : GroupStore) (lead : Text) {raws : List Bytes}
    (read : s.getActiveAdminPublicKeys lead = some raws) (cap : ExportCapability) :
    (raws.map encode).any (signedUnder env cap) = true ↔ SignedByAdminOf env s lead cap := by
  rw [read_keys_some env _ read cap, any_eq_true]
  constructor
  · intro found
    obtain ⟨a, member, signed⟩ := found
    obtain ⟨row, group, active⟩ := (mem_list_active_admins s lead a).mp member
    exact ⟨a, row, group, active, signed⟩
  · intro signed
    obtain ⟨a, row, group, active, signed⟩ := signed
    exact ⟨a, (mem_list_active_admins s lead a).mpr ⟨row, group, active⟩, signed⟩

theorem mark_keeps_other_group {other : Text}
    {cap : ExportCapability} (found : s.getValidCapability g d f now = some cap)
    (differs : other ≠ g) :
    (s.markCapabilityUsed cap.capabilityId now).getValidCapability other d f now =
      s.getValidCapability other d f now := by
  obtain ⟨r, row, live, rfl⟩ := get_valid_capability_some found
  have ofGroup : r.cap.groupId = g := by
    simp only [usable, Bool.and_eq_true, decide_eq_true_eq] at live
    exact live.1.1.1.1
  apply get_valid_capability_congr
  simp only [markCapabilityUsed, Table.update, filter_map]
  have unusable : ∀ q ∈ s.capabilities.rows, q.cap.capabilityId = r.cap.capabilityId →
      q.cap.groupId ≠ other := by
    intro q member same group
    have : q = r := Table.same_key_same_row s.capabilities member row same
    exact differs (by rw [← group, this, ofGroup])
  have fixed : ∀ q ∈ s.capabilities.rows.filter (usable other d f now),
      (if decide (q.cap.capabilityId = r.cap.capabilityId) = true then
        { q with used := true, usedAt := some now } else q) = q := by
    intro q member
    obtain ⟨mq, usableQ⟩ := mem_filter.mp member
    simp only [usable, Bool.and_eq_true, decide_eq_true_eq] at usableQ
    rw [if_neg]
    simp only [decide_eq_true_eq]
    intro same
    exact unusable q mq same usableQ.1.1.1.1
  have sameChoice : s.capabilities.rows.filter (usable other d f now ∘ fun q =>
      if decide (q.cap.capabilityId = r.cap.capabilityId) = true then
        { q with used := true, usedAt := some now } else q) =
      s.capabilities.rows.filter (usable other d f now) := by
    apply filter_congr
    intro q member
    simp only [Function.comp_apply]
    split
    · rename_i same
      simp only [decide_eq_true_eq] at same
      simp [usable, unusable q member same]
    · rfl
  rw [sameChoice]
  exact (map_congr_left fixed).trans (map_id' _)

theorem gates_with_keys_succeed_iff (env : Primitives) (d f : Text) (now : Time) (ks : List Text)
    (gs : List Group) (s : GroupStore) (distinct : (gs.map Group.groupId).Nodup) :
    (exportGates env (some d) (some f) now gs s (some ks)).outcome = .ok () ↔
      ∀ g ∈ gs, restricts s g.groupId = true → ∃ cap,
        s.getValidCapability g.groupId d f now = some cap ∧
          ks.any (signedUnder env cap) = true := by
  induction gs generalizing s with
  | nil => simp [exportGates]
  | cons g gs ih =>
    obtain ⟨fresh, distinct⟩ := nodup_cons.mp distinct
    rw [forall_mem_cons, exportGates]
    by_cases gated : restricts s g.groupId = true
    · rw [if_pos gated]
      cases found : s.getValidCapability g.groupId d f now with
      | none => simp [gated]
      | some cap =>
        simp only [gateKeys, verify_offered found]
        by_cases signed : ks.any (signedUnder env cap) = true
        · have later : ∀ g' ∈ gs, g'.groupId ≠ g.groupId := by
            intro _ member same
            exact fresh (same ▸ mem_map_of_mem member)
          rw [if_pos signed, ih _ distinct]
          constructor
          · intro rest
            refine ⟨fun _ => ⟨cap, rfl, signed⟩, ?_⟩
            intro g' member gated'
            rw [← mark_keeps_other_group found (later g' member)]
            exact rest g' member gated'
          · intro all g' member gated'
            rw [mark_keeps_other_group found (later g' member)]
            exact all.2 g' member gated'
        · rw [if_neg signed]
          simp only [reduceCtorEq, false_iff]
          intro all
          obtain ⟨_, same, verified⟩ := all.1 gated
          cases same
          exact signed verified
    · rw [if_neg gated, ih s distinct]
      simp [gated]

theorem gates_fetched {lead : Group} {d f : Option Text} {keys : Option (List Text)}
    {ks : List Text}
    (gs : List Group) (first : gs.find? (fun g => restricts s g.groupId) = some lead)
    (fetched : gateKeys s lead.groupId keys = some ks) :
    exportGates env d f now gs s keys = exportGates env d f now gs s (some ks) := by
  induction gs with
  | nil => rfl
  | cons g _ ih =>
    by_cases gated : restricts s g.groupId = true
    · rw [find?_cons_of_pos (p := fun x : Group => restricts s x.groupId) gated] at first
      cases first
      have again : gateKeys s lead.groupId (some ks) = some ks := rfl
      simp only [exportGates, gated, fetched, again, if_true]
    · rw [find?_cons_of_neg (p := fun x : Group => restricts s x.groupId) gated] at first
      simp only [exportGates, gated, Bool.false_eq_true, if_false, ih first]

theorem gates_succeed_iff (env : Primitives) (d f : Text) (now : Time)
    (gs : List Group) (s : GroupStore) (distinct : (gs.map Group.groupId).Nodup) :
    (exportGates env (some d) (some f) now gs s none).outcome = .ok () ↔
      ∀ lead, gs.find? (fun g => restricts s g.groupId) = some lead →
        KeysReadable s lead.groupId ∧ ∀ g ∈ gs, restricts s g.groupId = true →
          HonouredByLead env s lead.groupId d f now g.groupId := by
  induction gs with
  | nil => simp [exportGates]
  | cons g gs ih =>
    by_cases gated : restricts s g.groupId = true
    · rw [find?_cons_of_pos (p := fun x : Group => restricts s x.groupId) gated]
      cases read : s.getActiveAdminPublicKeys g.groupId with
      | none =>
        have unreadable : ¬ KeysReadable s g.groupId := by
          rw [keys_readable_iff, read]
          simp
        rw [exportGates, if_pos gated]
        cases s.getValidCapability g.groupId d f now <;> simp [gateKeys, read, unreadable]
      | some raws =>
        have readable : KeysReadable s g.groupId := (keys_readable_iff s g.groupId).mpr ⟨raws, read⟩
        rw [gates_fetched (g :: gs) (find?_cons_of_pos gated) (by rw [gateKeys, read]; rfl),
          gates_with_keys_succeed_iff env d f now _ _ s distinct]
        simp only [any_lead_key_iff env s g.groupId read, Option.some.injEq, forall_eq',
          readable, true_and, HonouredByLead]
    · rw [find?_cons_of_neg (p := fun x : Group => restricts s x.groupId) gated, exportGates,
        if_neg gated, ih (nodup_cons.mp distinct).2]
      simp [gated]

theorem list_groups_distinct (s : GroupStore) : (s.listGroups.map Group.groupId).Nodup := by
  have sorted : (s.listGroups.map Group.groupId).Perm (s.groups.rows.map Group.groupId) :=
    (perm_insertionSort _ _).map _
  exact sorted.nodup_iff.mpr s.groups.unique

theorem check_export_succeeds_iff (env : Primitives) (s : GroupStore) (d f : Text) (now : Time) :
    (checkExport env s none (some d) (some f) none now).outcome = .ok () ↔
      ∀ lead, leadGate s = some lead → KeysReadable s lead.groupId ∧
        ∀ g ∈ s.groups.rows, restricts s g.groupId = true →
          HonouredByLead env s lead.groupId d f now g.groupId := by
  rw [checkExport, gates_succeed_iff env d f now s.listGroups s (list_groups_distinct s)]
  simp [mem_list_groups, leadGate]

theorem lead_exists {g : Group} (row : g ∈ s.groups.rows)
    (gated : restricts s g.groupId = true) : ∃ lead, leadGate s = some lead := by
  cases first : leadGate s with
  | some lead => exact ⟨lead, rfl⟩
  | none =>
    have unrestricted := find?_eq_none.mp first g ((mem_list_groups s g).mpr row)
    exact absurd gated unrestricted

theorem covered_of_honoured
    {groupId : Text} (honoured : HonouredByLead env s groupId d f now groupId) :
    Covered env s d f now groupId := by
  obtain ⟨_, found, signed⟩ := honoured
  obtain ⟨r, row, live, rfl⟩ := get_valid_capability_some found
  exact ⟨r, row, live, signed⟩

theorem covered_export_succeeds_iff (covered : EveryGateCovered env s d f now) :
    (checkExport env s none (some d) (some f) none now).outcome = .ok () ↔
      ¬ FalseDenial env s d f now := by
  rw [check_export_succeeds_iff]
  constructor
  · rintro grants ⟨_, lead, first, broken⟩
    obtain ⟨readable, honoured⟩ := grants lead first
    rcases broken with unreadable | ⟨g, row, gated, refused⟩
    · exact unreadable readable
    · exact refused (honoured g row gated)
  · intro noDenial lead first
    by_contra broken
    apply noDenial
    refine ⟨covered, lead, first, ?_⟩
    by_cases readable : KeysReadable s lead.groupId
    · right
      by_contra none
      apply broken
      refine ⟨readable, fun g row gated => ?_⟩
      by_contra refused
      exact none ⟨g, row, gated, refused⟩
    · exact .inl readable

/-- The gate answers as coverage demands exactly outside the two kinds of store above. -/
theorem export_matches_coverage_iff (env : Primitives) (s : GroupStore) (d f : Text) (now : Time) :
    ((checkExport env s none (some d) (some f) none now).outcome = .ok () ↔
        EveryGateCovered env s d f now) ↔
      ¬ FalseDenial env s d f now ∧ ¬ FalseGrant env s d f now := by
  constructor
  · intro agrees
    constructor
    · intro denial
      exact (covered_export_succeeds_iff denial.1).mp (agrees.mpr denial.1) denial
    · rintro ⟨_, first, readable, honoured, g, row, gated, _, bare⟩
      rw [check_export_succeeds_iff] at agrees
      have granted := agrees.mp (fun other isFirst => by
        cases first.symm.trans isFirst
        exact ⟨readable, honoured⟩)
      exact bare (granted g row gated)
  · rintro ⟨noDenial, noGrant⟩
    constructor
    · intro succeeds g row gated
      obtain ⟨lead, first⟩ := lead_exists row gated
      obtain ⟨readable, honoured⟩ :=
        (check_export_succeeds_iff env s d f now).mp succeeds lead first
      by_cases isLead : g.groupId = lead.groupId
      · have own := honoured g row gated
        rw [← isLead] at own
        exact covered_of_honoured own
      · by_contra bare
        exact noGrant ⟨lead, first, readable, honoured, g, row, gated, isLead, bare⟩
    · intro covered
      exact (covered_export_succeeds_iff covered).mpr noDenial

section Sample

def sampleAdminKey : Bytes := List.replicate 32 7

def otherAdminKey : Bytes := List.replicate 32 9

def sampleGroupOf (groupId : Text) (key : Bytes) : Group :=
  ⟨groupId, "team", "a", encode key, 0⟩

def noExportPolicy (groupId : Text) : GroupPolicy :=
  ⟨groupId, true, false, false, true, [], .allow, 1, 0, some "a", none⟩

def signedWith (key : Bytes) (cap : ExportCapability) : ExportCapability :=
  { cap with signature := some (encode (key ++ cap.canonicalPayload sample)) }

def sampleCapabilityOf (capabilityId groupId : Text) (key : Bytes) : ExportCapability :=
  signedWith key ⟨capabilityId, "r", "d", groupId, "f", "EXPORT", 0,
    300, "n", some "a", none⟩

def twoGateStore : Except GroupStoreError GroupStore := do
  let s ← empty.createGroup (sampleGroupOf "g" sampleAdminKey)
  let s ← s.createGroup (sampleGroupOf "h" otherAdminKey)
  let s ← s.setPolicy (noExportPolicy "g")
  let s ← s.setPolicy (noExportPolicy "h")
  let s ← s.storeCapability sample
    (sampleCapabilityOf "c" "g" sampleAdminKey) 1
  s.storeCapability sample (sampleCapabilityOf "e" "h" otherAdminKey) 1

theorem two_gates_each_covered_are_denied : ∃ s ∈ twoGateStore.toOption,
      ¬ ((checkExport sample s none (some "d") (some "f") none 2).outcome
          = .ok () ↔ EveryGateCovered sample s "d" "f" 2) := by
  decide +kernel

end Sample
end Peerc.Groups
