import Peerc.Connectivity.Relay
import Peerc.Connectivity.Rendezvous
import Peerc.Group.ExternalTrust

/-!
Who counts as an active member. Rendezvous and relay ask for the status alone, the external
trust check also for the expiry, and lets a founder pass without a membership.
-/
namespace Peerc.Connectivity
open Runs Groups RendezvousCache

def stopsAt {α : Type} (role : MemberRole) : Except RendezvousError α → Bool
  | .error (.auth r _ _) => r = role
  | .error .storeRaised => true
  | _ => false

def stopsRelay : Except RelayError Unit → Bool
  | .error (.auth _ _) => true
  | .error .storeRaised => true
  | _ => false

structure TakenForMember (store : GroupState) (groupId deviceId : Text) (now : Time)
    (condition : Prop) : Prop where
  register : ∀ env (c : RendezvousCache) (u : EndpointUpdate) key later, u.deviceId = deviceId →
    (stopsAt .sender (c.register env groupId deviceId u key store now later).1 = false ↔ condition)
  lookupRequester : ∀ (c : RendezvousCache) target,
    (stopsAt .requester (c.lookup groupId deviceId target store) = false ↔ condition)
  lookupTarget : ∀ (c : RendezvousCache) requester,
    stopsAt .requester (c.lookup groupId requester deviceId store) = false →
      (stopsAt .target (c.lookup groupId requester deviceId store) = false ↔ condition)
  relayRequest : ∀ groups connected, groupId ∈ groups →
    (stopsRelay (authorizeRelayRequest groupId deviceId groups store connected) = false ↔ condition)
  candidateQuery : ∀ groups, groupId ∈ groups →
    (stopsRelay (authorizeRelayCandidateQuery groupId deviceId groups store) = false ↔ condition)
  externalTrust : ∀ group, store.attached = true → store.database.getGroup groupId = some group →
    (isMember store (fun _ => false) now deviceId group = .ok true ↔ condition)

def RunOut (s : GroupDatabase) (groupId deviceId : Text) (now : Time) : Prop :=
  ∃ row, s.getMembership groupId deviceId = some row ∧ row.status = .active ∧
    isMembershipExpired row.cert now = true

section Points
variable {store : GroupState} {g d : Text} {now : Time} {c : RendezvousCache}

theorem status_active_iff (s : GroupDatabase) :
    s.getMembershipStatus g d = some .active ↔
      activeMember s g d now = true ∨ RunOut s g d now := by
  unfold GroupDatabase.getMembershipStatus activeMember RunOut
  cases s.getMembership g d with
  | none => simp
  | some row => cases expired : isMembershipExpired row.cert now <;> simp [expired]

theorem run_out_not_active {s : GroupDatabase} (ranOut : RunOut s g d now) :
    activeMember s g d now = false := by
  obtain ⟨_, found, _, expired⟩ := ranOut
  simp [activeMember, found, expired]

def saysActive (store : GroupState) (groupId deviceId : Text) : Prop :=
  store.attached = true ∧ store.database.getMembershipStatus groupId deviceId = some .active

theorem require_active_member_cases (store : GroupState) (g d : Text) (role : MemberRole) :
    (requireActiveMember store g d role = .ok () ∧ saysActive store g d) ∨
      ¬ saysActive store g d ∧ (requireActiveMember store g d role = .error (.auth role d g) ∨
        requireActiveMember store g d role = .error .storeRaised) := by
  unfold requireActiveMember saysActive
  by_cases attached : store.attached = true
  · by_cases member : store.database.getMembershipStatus g d = some .active
    · simp [attached, member]
    · simp [attached, member]
  · simp [attached]

theorem register_stops_iff {env : GroupEnv} {u : EndpointUpdate} {key : Bytes} {later : Time}
    (own : u.deviceId = d) :
    stopsAt .sender (c.register env g d u key store now later).1 = false ↔
      saysActive store g d := by
  rcases require_active_member_cases store g d .sender with ⟨passed, active⟩ | ⟨outside, stopped⟩
  · rw [register_of_member own passed]
    simp only [active, iff_true]
    split <;> rfl
  · simp only [outside, iff_false, register, own, ne_eq, not_true_eq_false,
      ↓reduceIte]
    rcases stopped with refused | raised
    · simp [refused, stopsAt]
    · simp [raised, stopsAt]

theorem lookup_requester_stops_iff {target : Text} :
    stopsAt .requester (c.lookup g d target store) = false ↔ saysActive store g d := by
  rcases require_active_member_cases store g d .requester with ⟨passed, active⟩ | ⟨outside, stopped⟩
  · simp only [active, iff_true]
    -- an attached store refuses the target, if at all, as the target
    rcases require_active_member_cases store g target .target with
      ⟨found, _⟩ | ⟨_, refused | raised⟩
    · rw [lookup_of_members passed found]
      rfl
    · simp [lookup, passed, refused, stopsAt, bind, Except.bind]
    · have detached : requireActiveMember store g target .target ≠ .error .storeRaised := by
        unfold requireActiveMember
        rw [if_neg (not_not.mpr active.1)]
        split <;> simp
      exact absurd raised detached
  · simp only [outside, iff_false]
    rcases stopped with refused | raised
    · simp [lookup, refused, stopsAt, bind, Except.bind]
    · simp [lookup, raised, stopsAt, bind, Except.bind]

theorem lookup_target_stops_iff {requester : Text}
    (passed : stopsAt .requester (c.lookup g requester d store) = false) :
    stopsAt .target (c.lookup g requester d store) = false ↔ saysActive store g d := by
  have allowed : requireActiveMember store g requester .requester = .ok () :=
    require_active_member_ok_iff.mpr (lookup_requester_stops_iff.mp passed)
  rcases require_active_member_cases store g d .target with ⟨found, active⟩ | ⟨outside, stopped⟩
  · rw [lookup_of_members allowed found]
    exact ⟨fun _ => active, fun _ => rfl⟩
  · simp only [outside, iff_false]
    rcases stopped with refused | raised
    · simp [lookup, allowed, refused, stopsAt, bind, Except.bind]
    · simp [lookup, allowed, raised, stopsAt, bind, Except.bind]

theorem relay_request_stops_iff {groups : List Text} {connected : Bool} (hosting : g ∈ groups) :
    stopsRelay (authorizeRelayRequest g d groups store connected) = false ↔
      saysActive store g d := by
  unfold authorizeRelayRequest saysActive
  by_cases attached : store.attached = true
  · by_cases member : store.database.getMembershipStatus g d = some .active
    · cases connected <;> simp [hosting, attached, member, stopsRelay]
    · simp [hosting, attached, member, stopsRelay]
  · simp [hosting, attached, stopsRelay]

theorem candidate_query_stops_iff {groups : List Text} (hosting : g ∈ groups) :
    stopsRelay (authorizeRelayCandidateQuery g d groups store) = false ↔ saysActive store g d := by
  unfold authorizeRelayCandidateQuery saysActive
  by_cases attached : store.attached = true
  · by_cases member : store.database.getMembershipStatus g d = some .active
    · simp [hosting, attached, member, stopsRelay]
    · simp [hosting, attached, member, stopsRelay]
  · simp [hosting, attached, stopsRelay]

theorem external_trust_member_iff (attached : store.attached = true) (group : Group) :
    isMember store (fun _ => false) now d group = .ok true ↔
      d = group.adminDeviceId ∨ activeMember store.database group.groupId d now = true := by
  rw [is_member_yields group true]
  simp [GroupState.raises, attached]

end Points

/-- They agree if and only if no expired membership is still ACTIVE and a founder's own is
current. -/
theorem taken_for_member_iff (store : GroupState) (groupId deviceId : Text) (now : Time) :
    TakenForMember store groupId deviceId now (store.attached = true ∧
        activeMember store.database groupId deviceId now = true) ↔
      (store.attached = true → ¬ RunOut store.database groupId deviceId now ∧
        ∀ group, store.database.getGroup groupId = some group → deviceId = group.adminDeviceId →
          activeMember store.database groupId deviceId now = true) := by
  have active : saysActive store groupId deviceId ↔ store.attached = true ∧
      (activeMember store.database groupId deviceId now = true ∨
        RunOut store.database groupId deviceId now) := by
    unfold saysActive
    rw [status_active_iff]
  constructor
  · intro taken attached
    constructor
    · intro ranOut
      have counted := (taken.lookupRequester empty deviceId).mp
        (lookup_requester_stops_iff.mpr (active.mpr ⟨attached, .inr ranOut⟩))
      rw [run_out_not_active ranOut] at counted
      cases counted.2
    · intro group found founder
      have passes : isMember store (fun _ => false) now deviceId group = .ok true :=
        (external_trust_member_iff attached group).mpr (.inl founder)
      exact ((taken.externalTrust group attached found).mp passes).2
  · intro current
    have same : saysActive store groupId deviceId ↔ store.attached = true ∧
        activeMember store.database groupId deviceId now = true := by
      rw [active]
      constructor
      · rintro ⟨attached, member | ranOut⟩
        · exact ⟨attached, member⟩
        · exact absurd ranOut (current attached).1
      · rintro ⟨attached, member⟩
        exact ⟨attached, .inl member⟩
    refine ⟨?_, ?_, ?_, ?_, ?_, ?_⟩
    · intro _ _ _ _ _ own
      rw [register_stops_iff own, same]
    · intro _ _
      rw [lookup_requester_stops_iff, same]
    · intro _ _ passed
      rw [lookup_target_stops_iff passed, same]
    · intro _ _ hosting
      rw [relay_request_stops_iff hosting, same]
    · intro _ hosting
      rw [candidate_query_stops_iff hosting, same]
    · intro group attached found
      obtain rfl : group.groupId = groupId := ((Table.find_some_iff _ _ _).mp found).2
      rw [external_trust_member_iff attached]
      constructor
      · rintro (founder | member)
        · exact ⟨attached, (current attached).2 group found founder⟩
        · exact ⟨attached, member⟩
      · rintro ⟨_, member⟩
        exact .inr member

section Sample

def expiringCert : MembershipCertificate :=
  let unsigned : MembershipCertificate :=
    ⟨"P", [], "g", "member", [], 1, some 5, "a", []⟩
  { unsigned with signature := signWith founderKey (unsigned.buildPayload GroupEnv.sample) }

def expiringGroup : GroupState :=
  run (GroupState.step GroupEnv.sample) GroupState.start
    [.tables (.createGroup foundedGroup), .recordMembership expiringCert]

theorem active_member_disagreement :
    activeMember expiringGroup.database "g" "P" 10 = false ∧
      stopsAt .requester (empty.lookup "g" "P" "P"
        expiringGroup) = false ∧
      stopsRelay (authorizeRelayRequest "g" "P" ["g"] expiringGroup true) =
        false ∧
      isMember expiringGroup (fun _ => false) 10 "P" foundedGroup = .ok false ∧
      stopsAt .requester (empty.lookup "g" "a" "a"
        expiringGroup) = true ∧
      isMember expiringGroup (fun _ => false) 10 "a" foundedGroup = .ok true := by
  decide +kernel

end Sample
end Peerc.Connectivity
