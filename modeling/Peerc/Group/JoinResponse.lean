import Peerc.Group.Members

/-!
What the application does with a group_join_response. It creates an unknown group before the
response is verified, and does not look at whom the certificate is for.
-/
namespace Peerc.Groups

structure DiscoveredPeer where
  addrKey : Text
  publicKey : Option Bytes

inductive AuditNote where
  | groupCreated (groupId : Text)
  | membershipIssued (groupId deviceId : Text)

structure GroupTables where
  database : GroupDatabase
  audit : List AuditNote

/-- The key of the peer with that id, or of the one at the address if the id is that of its key. -/
def founderKeyFor (env : GroupEnv) (registry : Dict Text DiscoveredPeer)
    (addrKey adminDeviceId : Text) : Option Bytes :=
  let known (peer : DiscoveredPeer) := peer.publicKey.filter (· ≠ [])
  match (registry.get adminDeviceId).bind known with
  | some key => some key
  | none => ((registry.values.find? (fun peer => peer.addrKey = addrKey)).bind known).filter
      (fun key => env.computeDeviceId key = adminDeviceId)

namespace GroupTables

/-- The rows are committed before the audit event is made, which raises for an empty group id. -/
def createGroup (s : GroupTables) (group : Group) : GroupTables :=
  match s.database.createGroup group with
  | .error _ => s
  | .ok store =>
      ⟨{ s.database with toGroupStore := store },
        if group.groupId = [] then s.audit else s.audit ++ [.groupCreated group.groupId]⟩

variable (env : GroupEnv)

/-- With whether it returned. -/
def processJoinResponse (s : GroupTables) (res : GroupJoinResponse) : GroupTables × Bool :=
  match s.database.processJoinResponse env res with
  | .error _ => (s, false)
  | .ok db =>
      if res.groupId = [] then (⟨db, s.audit⟩, false)
      else (⟨db, s.audit ++ [.membershipIssued res.groupId res.deviceId]⟩, true)

def creates (registry : Dict Text DiscoveredPeer) (addrKey : Text) (s : GroupTables)
    (res : GroupJoinResponse) : Option Bytes :=
  if res.approved ∧ s.database.getGroup res.groupId = none then
    founderKeyFor env registry addrKey res.adminDeviceId
  else none

/-- A message that cannot be read as a response is dropped before. -/
def onGroupJoinResponse (registry : Dict Text DiscoveredPeer) (addrKey : Text) (now : Time)
    (s : GroupTables) (res : GroupJoinResponse) : GroupTables × Bool :=
  if ¬ res.approved then (s, false)
  else
    match s.creates env registry addrKey res with
    | none => s.processJoinResponse env res
    | some key =>
        let created := s.createGroup
          ⟨res.groupId, res.groupId, res.adminDeviceId, Base64.encode key, now⟩
        if res.groupId = [] then (created, false) else created.processJoinResponse env res

/-- The memberships that t has and s has not are of that device, and there is one. -/
def NewFor (me : Text) (s t : GroupTables) : Prop :=
  (∃ g, t.database.getMembership g me ≠ s.database.getMembership g me) ∧
    ∀ g d, t.database.getMembership g d ≠ s.database.getMembership g d → d = me

end GroupTables

open GroupTables

section Join
variable {env : GroupEnv} {s : GroupTables} {res : GroupJoinResponse}

theorem processed_refused (named : res.groupId ≠ [])
    (refused : (s.processJoinResponse env res).2 = false) :
    (s.processJoinResponse env res).1 = s := by
  unfold processJoinResponse at refused ⊢
  split
  · rfl
  · next done => simp [done, named] at refused

theorem processed_joined (joined : (s.processJoinResponse env res).2 = true) :
    ∃ cert, res.certificate = some cert ∧
      s.database.getMembership res.groupId res.deviceId = none ∧
      ∀ g d, (s.processJoinResponse env res).1.database.getMembership g d =
        if (g, d) = (res.groupId, res.deviceId) then some cert.row
        else s.database.getMembership g d := by
  unfold processJoinResponse at joined ⊢
  split at joined
  · cases joined
  · next db done =>
    obtain ⟨cert, offered, group, device, recorded⟩ := join_response_ok done
    obtain ⟨_, _, _, absent, _, rfl⟩ := record_membership_ok recorded
    have rows (g d : Text) : (s.database.memberships.insert cert.row).find (g, d) =
        if (g, d) = (cert.groupId, cert.deviceId) then some cert.row
        else s.database.getMembership g d :=
      Table.find_insert s.database.memberships cert.row absent (g, d)
    rw [group, device] at absent rows
    refine ⟨cert, offered, absent, ?_⟩
    split <;> exact rows

theorem new_for_iff {t : GroupTables} {g d : Text} {row : MembershipRow}
    (absent : s.database.getMembership g d = none)
    (after : ∀ g' d', t.database.getMembership g' d' =
      if (g', d') = (g, d) then some row else s.database.getMembership g' d') (me : Text) :
    NewFor me s t ↔ d = me := by
  have here : t.database.getMembership g d ≠ s.database.getMembership g d := by
    rw [after, if_pos rfl, absent]
    nofun
  constructor
  · intro new
    exact new.2 g d here
  · rintro rfl
    refine ⟨⟨g, here⟩, fun g' d' changed => ?_⟩
    by_contra other
    rw [after, if_neg (fun same => other (Prod.mk.inj same).2)] at changed
    exact changed rfl

theorem created_group {group : Group} (unknown : s.database.getGroup group.groupId = none) :
    (s.createGroup group).database.getGroup group.groupId = some group := by
  simp only [createGroup, GroupStore.createGroup, unknown, Option.isSome_none,
    Bool.false_eq_true, if_false]
  exact (Table.find_insert _ _ unknown _).trans (if_pos rfl)

end Join

/-- Exactly if no group is created; the membership of an accepted response is for this device
exactly if the response names it. -/
theorem refused_join_changes_nothing_iff (env : GroupEnv) (registry : Dict Text DiscoveredPeer)
    (addrKey me : Text) (now : Time) (s : GroupTables) (res : GroupJoinResponse) :
    let after := s.onGroupJoinResponse env registry addrKey now res
    (after.2 = false → res.groupId ≠ [] →
      (after.1 = s ↔ s.creates env registry addrKey res = none)) ∧
    (after.2 = true → (NewFor me s after.1 ↔ res.deviceId = me) ∧
      ∃ cert, res.certificate = some cert ∧
        after.1.database.getMembership res.groupId res.deviceId = some cert.row) := by
  dsimp only
  unfold onGroupJoinResponse
  have accepted {t : GroupTables}
      (rows : ∀ g d, t.database.getMembership g d = s.database.getMembership g d)
      (joined : (t.processJoinResponse env res).2 = true) :
      (NewFor me s (t.processJoinResponse env res).1 ↔ res.deviceId = me) ∧
        ∃ cert, res.certificate = some cert ∧
          (t.processJoinResponse env res).1.database.getMembership
          res.groupId res.deviceId = some cert.row := by
    obtain ⟨cert, offered, absent, after⟩ := processed_joined joined
    refine ⟨new_for_iff (rows _ _ ▸ absent) (fun g d => rows g d ▸ after g d) me, cert, offered, ?_⟩
    rw [after, if_pos rfl]
  split
  · next unapproved => exact ⟨fun _ _ => by simp [creates, unapproved], nofun⟩
  · split
    · next none =>
      rw [none]
      exact ⟨fun refused named => by simp [processed_refused named refused],
        accepted fun _ _ => rfl⟩
    · next key found =>
      split
      · next nameless => exact ⟨fun _ named => absurd nameless named, nofun⟩
      · refine ⟨fun refused named => ?_, accepted fun _ _ => ?_⟩
        · rw [processed_refused named refused, found]
          refine iff_of_false (fun same => ?_) nofun
          have unknown : s.database.getGroup res.groupId = none := by
            unfold creates at found
            split at found
            · next fresh => exact fresh.2
            · cases found
          have known := congrArg (fun t => t.database.getGroup res.groupId) same
          rw [created_group unknown, unknown] at known
          cases known
        · unfold createGroup
          split <;> rfl

section Sample

def discovered : Dict Text DiscoveredPeer := Dict.empty.set "a" ⟨"A", some founderKey⟩

def bareResponse : GroupJoinResponse := ⟨"r", "g", memberId, true, "a", none, none, 1, []⟩

def signedResponse : GroupJoinResponse :=
  let unsigned := { bareResponse with certificate := some (memberCert "g") }
  { unsigned with signature := signWith founderKey (unsigned.payload GroupEnv.sample) }

theorem unsolicited_response_writes :
    let handle := onGroupJoinResponse GroupEnv.sample discovered "A" 1
      ⟨GroupDatabase.empty, []⟩
    (handle bareResponse).2 = false ∧
      (handle bareResponse).1.database.isAdmin "g" "a" = true ∧
      (handle signedResponse).2 = true ∧ memberId ≠ "me".toList ∧
      (handle signedResponse).1.database.getMembershipStatus "g" "me" = none := by
  decide +kernel

end Sample
end Peerc.Groups
