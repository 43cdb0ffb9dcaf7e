import Peerc.Transport.Pipes
import Peerc.Group.Members

/-!
The host side of relaying. The handler of relay_request looks neither at what the two addresses
are bridged with already nor whether they are one, and asks only the requester to be a member.
-/
namespace Peerc.Connectivity
open Runs Groups Transport Pairing

inductive RelayError where
  | notHosting (groupId : Text)
  | auth (requesterId groupId : Text)
  | targetUnreachable
  | storeRaised
  deriving DecidableEq

def authorizeRelayRequest (groupId requesterId : Text) (relayActiveGroups : List Text)
    (groupStore : GroupState) (isTargetConnected : Bool) : Except RelayError Unit :=
  if groupId ∉ relayActiveGroups then .error (.notHosting groupId)
  else if ¬ groupStore.attached then .error .storeRaised
  else if groupStore.database.getMembershipStatus groupId requesterId ≠ some .active then
    .error (.auth requesterId groupId)
  else if ¬ isTargetConnected then .error .targetUnreachable
  else .ok ()

def authorizeRelayCandidateQuery (groupId requesterId : Text) (relayActiveGroups : List Text)
    (groupStore : GroupState) : Except RelayError Unit :=
  if groupId ∉ relayActiveGroups then .error (.notHosting groupId)
  else if ¬ groupStore.attached then .error .storeRaised
  else if groupStore.database.getMembershipStatus groupId requesterId ≠ some .active then
    .error (.auth requesterId groupId)
  else .ok ()

/-- bridged is a history variable: the addresses between which pipes were opened. -/
structure RelayHost where
  peerId : Text
  manager : Manager
  groupStore : Option GroupState
  relayActiveGroups : List Text
  bridged : List (Text × Text)

inductive RelayEvent where
  | transport (e : Event)
  | groups (op : GroupOp)
  | handleGroupRelay (groupId : Text) (on : Bool)
  | relayRequest (addrKey : Text) (groupId targetDeviceId : Option Text)

inductive RelayAnswer where
  | silent
  | refused
  | bridge (targetAddrKey : Text)

namespace RelayHost

def start (peerId : Text) (maxConnections : Nat) (groupStore : Option GroupState) : RelayHost :=
  ⟨peerId, Manager.start maxConnections, groupStore, [], []⟩

variable (s : RelayHost)

def answer (addrKey : Text) (groupId targetDeviceId : Option Text) : RelayAnswer :=
  match groupId, targetDeviceId, s.groupStore with
  | some g, some target, some store =>
      if g = [] ∨ target = [] then .silent
      else
        match s.manager.getPeerDeviceId addrKey with
        | none => .silent
        | some requester =>
            match s.manager.findAddrKeyForDevice target with
            | none =>
                match authorizeRelayRequest g requester s.relayActiveGroups store false with
                | .error .targetUnreachable => .refused
                | _ => .silent
            | some targetAddrKey =>
                match authorizeRelayRequest g requester s.relayActiveGroups store true with
                | .ok () => .bridge targetAddrKey
                | .error _ => .silent
  | _, _, _ => .silent

def onRelayRequest (addrKey : Text) (groupId targetDeviceId : Option Text) : Manager :=
  match s.answer addrKey groupId targetDeviceId with
  | .silent => s.manager
  | .refused => s.manager.send addrKey
  | .bridge targetAddrKey => (s.manager.openRelayPipe addrKey targetAddrKey).send addrKey

def handleGroupRelay (groupId : Text) (on : Bool) : List Text :=
  match s.groupStore with
  | none => s.relayActiveGroups
  | some store =>
      if ¬ store.attached ∨ (store.database.getGroup groupId).isNone then s.relayActiveGroups
      else if ¬ on then s.relayActiveGroups.filter (· ≠ groupId)
      else if store.database.getMembershipStatus groupId s.peerId ≠ some .active then
        s.relayActiveGroups
      else groupId :: s.relayActiveGroups

def opens : RelayEvent → Option (Text × Text)
  | .transport (.openRelayPipe a b) => some (a, b)
  | .relayRequest addrKey groupId target =>
      match s.answer addrKey groupId target with
      | .bridge targetAddrKey => some (addrKey, targetAddrKey)
      | _ => none
  | _ => none

def step (env : GroupEnv) (s : RelayHost) (e : RelayEvent) : RelayHost :=
  { s with
    manager := match e with
      | .transport e => s.manager.step e
      | .relayRequest addrKey groupId target => s.onRelayRequest addrKey groupId target
      | _ => s.manager
    groupStore := match e with
      | .groups op => s.groupStore.map (fun store => store.step env op)
      | _ => s.groupStore
    relayActiveGroups := match e with
      | .handleGroupRelay groupId on => s.handleGroupRelay groupId on
      | _ => s.relayActiveGroups
    bridged := s.bridged ++ (s.opens e).toList }

def pipes : Dict Text Text := s.manager.relayPipes

def closes : RelayEvent → Option Text
  | .transport e => s.manager.closes e
  | _ => none

def Bridged (a b : Text) : Prop := (a, b) ∈ s.bridged ∨ (b, a) ∈ s.bridged

def JoinsSpare (e : RelayEvent) : Prop :=
  ∀ a b, s.opens e = some (a, b) → Spare s.pipes a b

structure RelayCorrect (env : GroupEnv) (s : RelayHost) (e : RelayEvent) : Prop where
  matched : Matched (s.step env e).pipes
  forwarded : ∀ i x, e = .transport (.frame i .relay) → s.manager.conns[i]? = some x →
    (s.step env e).manager.sends = s.manager.sends ∨
      ∃ b j, s.pipes.get x.addrKey = some b ∧ s.pipes.get b = some x.addrKey ∧ b ≠ x.addrKey ∧
        s.Bridged x.addrKey b ∧ s.manager.connections.get b = some j ∧
        (s.step env e).manager.sends = s.manager.sends ++ [(j, b)]
  opened : ∀ a b, s.opens e = some (a, b) →
    Pairing.pairs (s.step env e).pipes = insert s(a, b) (Pairing.pairs s.pipes)
  closed : ∀ a, s.closes e = some a →
    Pairing.pairs (s.step env e).pipes = {z ∈ Pairing.pairs s.pipes | a ∉ z}

structure WellPiped : Prop where
  matched : Matched s.pipes
  bridged : ∀ a b, s.pipes.get a = some b → s.Bridged a b

section Step
variable {env : GroupEnv} {s : RelayHost} {e : RelayEvent} {a b : Text}

theorem pipes_opened (opening : s.opens e = some (a, b)) :
    (s.step env e).pipes = join s.pipes a b := by
  cases e with
  | groups | handleGroupRelay => cases opening
  | transport e => cases e <;> cases opening; rfl
  | relayRequest =>
    unfold opens at opening
    dsimp only at opening
    split at opening
    · next targetKey answered =>
      cases opening
      simp only [pipes, step, onRelayRequest, answered]
      exact Manager.pipes_send _ _
    · cases opening

theorem pipes_otherwise (quiet : s.opens e = none) :
    (s.step env e).pipes = s.manager.pipesWithout (s.closes e) := by
  cases e with
  | groups | handleGroupRelay => rfl
  | transport e =>
    have after := Manager.pipes_step s.manager e
    cases e <;> first | exact after | cases quiet
  | relayRequest addrKey groupId target =>
    unfold opens at quiet
    dsimp only at quiet
    simp only [pipes, step, onRelayRequest]
    cases answered : s.answer addrKey groupId target with
    | silent => rfl
    | refused => exact Manager.pipes_send _ _
    | bridge =>
      rw [answered] at quiet
      cases quiet

theorem closing_opens_nothing {a : Text} (closing : s.closes e = some a) : s.opens e = none := by
  cases e with
  | transport e => cases e <;> first | rfl | cases closing
  | groups | handleGroupRelay => rfl
  | relayRequest => cases closing

theorem bridged_stays (before : s.Bridged a b) : (s.step env e).Bridged a b := by
  unfold Bridged step
  rcases before with forth | back
  · exact .inl (List.mem_append_left _ forth)
  · exact .inr (List.mem_append_left _ back)

theorem pipes_without_sub {key : Option Text}
    (found : (s.manager.pipesWithout key).get a = some b) :
    s.pipes.get a = some b := by
  cases key with
  | none => exact found
  | some =>
    simp only [Manager.pipesWithout, get_part] at found
    split at found
    · cases found
    · exact found

theorem matched_otherwise (matched : Matched s.pipes) (key : Option Text) :
    Matched (s.manager.pipesWithout key) := by
  cases key with
  | none => exact matched
  | some c => exact matched_part matched c

theorem well_piped_step (inv : WellPiped s) (spare : s.JoinsSpare e) :
    WellPiped (s.step env e) := by
  cases opening : s.opens e with
  | none =>
    have after : (s.step env e).pipes = _ := pipes_otherwise opening
    refine ⟨after ▸ matched_otherwise inv.matched _, ?_⟩
    intro a b found
    rw [after] at found
    exact bridged_stays (inv.bridged a b (pipes_without_sub found))
  | some ends =>
    obtain ⟨c, d⟩ := ends
    have after : (s.step env e).pipes = join s.pipes c d := pipes_opened opening
    refine ⟨after ▸ matched_join inv.matched (spare c d opening), ?_⟩
    intro a b found
    have new : (c, d) ∈ (s.step env e).bridged := by simp [step, opening]
    rw [after, get_join] at found
    split at found
    · next here =>
      cases found
      exact .inr (here ▸ new)
    · split at found
      · next here =>
        cases found
        exact .inl (here ▸ new)
      · exact bridged_stays (inv.bridged a b found)

theorem relay_correct_iff (inv : WellPiped s) : RelayCorrect env s e ↔ s.JoinsSpare e := by
  constructor
  · intro correct _ _ opening
    have joined := correct.matched
    rw [pipes_opened opening] at joined
    exact spare_of_matched_join inv.matched joined
  · intro spare
    refine ⟨(well_piped_step inv spare).matched, ?_, ?_, ?_⟩
    · rintro _ _ rfl found
      rcases Manager.relay_frame_sends found with nothing | ⟨b, j, piped, registered, sent⟩
      · exact .inl nothing
      · obtain ⟨differ, back⟩ := inv.matched _ _ piped
        exact .inr ⟨b, j, piped, back, Ne.symm differ, inv.bridged _ _ piped, registered, sent⟩
    · intro a b opening
      rw [pipes_opened opening]
      exact pairs_join inv.matched (spare a b opening)
    · intro a closing
      rw [pipes_otherwise (closing_opens_nothing closing), closing]
      exact pairs_part inv.matched a

end Step

/-- If and only if every pipe is opened between two different addresses that have none with a
third. -/
theorem pipes_match_iff (env : GroupEnv) (peerId : Text) (maxConnections : Nat)
    (groupStore : Option GroupState) (events : List RelayEvent) :
    Along (step env) (RelayCorrect env) (start peerId maxConnections groupStore) events ↔
      Along (step env) JoinsSpare (start peerId maxConnections groupStore) events := by
  have empty : WellPiped (start peerId maxConnections groupStore) := by
    refine ⟨matched_empty, ?_⟩
    rintro _ _ ⟨⟩
  exact along_iff (fun s _ (inv : WellPiped s) => relay_correct_iff inv)
    (fun _ _ inv spare => well_piped_step inv spare) empty events

end RelayHost

/-! ## Whom a pipe is opened between -/

theorem found_peer_is_device {s : Manager} {deviceId key : Text}
    (found : s.findAddrKeyForDevice deviceId = some key) :
    s.getPeerDeviceId key = some deviceId := by
  obtain ⟨⟨k, i⟩, first, rfl⟩ := Option.map_eq_some_iff.mp found
  have row : s.connections.get k = some i :=
    (Dict.get_some_iff _ _ _).mpr (List.mem_of_find?_eq_some first)
  have named := List.find?_some first
  simp only [Manager.getPeerDeviceId, row, Option.bind_some]
  exact of_decide_eq_true named

namespace RelayHost

def Active (s : RelayHost) (groupId deviceId : Text) : Prop :=
  ∃ store, s.groupStore = some store ∧
    store.database.getMembershipStatus groupId deviceId = some .active

structure BetweenMembers (s : RelayHost) (groupId a b requester target : Text) : Prop where
  hosting : groupId ∈ s.relayActiveGroups
  requesterAt : s.manager.getPeerDeviceId a = some requester
  targetAt : s.manager.getPeerDeviceId b = some target
  requesterActive : s.Active groupId requester
  targetActive : s.Active groupId target
  different : requester ≠ target

/-- What the handler looks at: the group and the requester, and of the target a session. -/
structure Admits (s : RelayHost) (addrKey : Text) (groupId target : Option Text)
    (g requester t key : Text) (store : GroupState) : Prop where
  group : groupId = some g ∧ g ≠ []
  targeted : target = some t ∧ t ≠ []
  attached : s.groupStore = some store ∧ store.attached = true
  hosting : g ∈ s.relayActiveGroups
  requesterAt : s.manager.getPeerDeviceId addrKey = some requester
  requesterActive : store.database.getMembershipStatus g requester = some .active
  connected : s.manager.findAddrKeyForDevice t = some key

variable {s : RelayHost} {addrKey key : Text} {groupId target : Option Text}

theorem bridge_admits (bridged : s.answer addrKey groupId target = .bridge key) :
    ∃ g requester t store, s.Admits addrKey groupId target g requester t key store := by
  unfold answer at bridged
  split at bridged
  · next g t store hosted =>
    split at bridged
    · cases bridged
    · next named =>
      obtain ⟨group, targeted⟩ := not_or.mp named
      split at bridged
      · cases bridged
      · next requester authenticated =>
        split at bridged
        · split at bridged <;> cases bridged
        · next connected =>
          split at bridged
          · next authorized =>
            cases bridged
            unfold authorizeRelayRequest at authorized
            split_ifs at authorized with hosting attached member
            exact ⟨g, requester, t, store, ⟨rfl, group⟩, ⟨rfl, targeted⟩,
              ⟨hosted, attached⟩, hosting, authenticated, not_not.mp member, connected⟩
          · cases bridged
  · cases bridged

theorem admitted_bridge {g requester t : Text} {store : GroupState}
    (admits : s.Admits addrKey groupId target g requester t key store) :
    s.answer addrKey groupId target = .bridge key := by
  obtain ⟨⟨rfl, group⟩, ⟨rfl, targeted⟩, ⟨hosted, attached⟩, hosting, authenticated, member,
    connected⟩ := admits
  simp [answer, hosted, group, targeted, authenticated, connected, authorizeRelayRequest, hosting,
    attached, member]

/-- If and only if the connected target of a request of a member is one as well, and another. -/
theorem bridges_members_iff (s : RelayHost) (addrKey : Text) (groupId target : Option Text) :
    (∀ a b, s.opens (.relayRequest addrKey groupId target) = some (a, b) →
        ∃ g requester t, groupId = some g ∧ target = some t ∧
          s.BetweenMembers g a b requester t) ↔
      ∀ g requester t key store, s.Admits addrKey groupId target g requester t key store →
        store.database.getMembershipStatus g t = some .active ∧ requester ≠ t := by
  simp only [opens]
  constructor
  · intro between g requester t key store admits
    have opened := between addrKey key (by rw [admitted_bridge admits])
    obtain ⟨⟨rfl, _⟩, ⟨rfl, _⟩, ⟨hosted, _⟩, _, authenticated, _, _⟩ := admits
    obtain ⟨_, _, _, ⟨⟩, ⟨⟩, members⟩ := opened
    cases members.requesterAt.symm.trans authenticated
    obtain ⟨_, known, active⟩ := members.targetActive
    cases known.symm.trans hosted
    exact ⟨active, members.different⟩
  · intro checked a b
    cases answered : s.answer addrKey groupId target with
    | silent | refused => simp
    | bridge key =>
      intro pair
      cases pair
      obtain ⟨g, requester, t, store, admits⟩ := bridge_admits answered
      obtain ⟨targetActive, different⟩ := checked _ _ _ _ _ admits
      obtain ⟨⟨rfl, _⟩, ⟨rfl, _⟩, ⟨hosted, _⟩, hosting, authenticated, member, connected⟩ := admits
      exact ⟨g, requester, t, rfl, rfl, hosting, authenticated, found_peer_is_device connected,
        ⟨store, hosted, member⟩, ⟨store, hosted, targetActive⟩, different⟩

end RelayHost

section Sample

def namedCert (deviceId : Text) : MembershipCertificate :=
  let unsigned : MembershipCertificate :=
    ⟨deviceId, [], "g", "member", [], 1, none, "a", []⟩
  { unsigned with signature := signWith founderKey (unsigned.buildPayload GroupEnv.sample) }

def peerAt (n : Nat) : Text × Nat := ("10.0.0.2", n)

def relaySetting : List RelayEvent :=
  [.groups (.tables (.createGroup foundedGroup)), .groups (.recordMembership (namedCert "P")),
    .groups (.recordMembership (namedCert "Q")),
    .groups (.recordMembership (namedCert "R")), .handleGroupRelay "g" true,
    .transport .handleIncoming, .transport .handleIncoming, .transport .handleIncoming,
    .transport (.handshakeReturns 0 (some (peerAt 1)) "P"),
    .transport (.handshakeReturns 1 (some (peerAt 2)) "Q"),
    .transport (.handshakeReturns 2 (some (peerAt 3)) "T")]

def relayedBy (n : Nat) (target : Text) : RelayEvent :=
  .relayRequest (socketKey (some (peerAt n))) (some "g") (some target)

def relayRun (requests : List RelayEvent) : RelayHost :=
  run (RelayHost.step GroupEnv.sample) (RelayHost.start "R" 8 (some GroupState.start))
    (relaySetting ++ requests)

theorem relay_requests_break_matching :
    (¬ Matched (relayRun [relayedBy 1 "T", relayedBy 2 "T"]).pipes) ∧
      ¬ Matched (relayRun [relayedBy 1 "P"]).pipes := by
  constructor
  · intro matched
    have forth : (relayRun [relayedBy 1 "T", relayedBy 2 "T"]).pipes.get
        (socketKey (some (peerAt 1))) = some (socketKey (some (peerAt 3))) := by decide +kernel
    have back := (matched _ _ forth).2
    revert back
    decide +kernel
  · intro matched
    have itself : (relayRun [relayedBy 1 "P"]).pipes.get
        (socketKey (some (peerAt 1))) = some (socketKey (some (peerAt 1))) := by decide +kernel
    exact (matched _ _ itself).1 rfl

theorem pipe_opened_for_non_member : ((relayRun []).opens (relayedBy 1 "T") =
        some (socketKey (some (peerAt 1)), socketKey (some (peerAt 3))) ∧
      (∃ store, (relayRun []).groupStore = some store ∧
        store.database.getMembershipStatus "g" "T" = none)) ∧
    (relayRun []).opens (relayedBy 1 "P") =
      some (socketKey (some (peerAt 1)), socketKey (some (peerAt 1))) := by
  refine ⟨⟨by decide +kernel, ?_⟩, by decide +kernel⟩
  cases hosted : (relayRun []).groupStore with
  | none => exact absurd hosted (by decide +kernel)
  | some store =>
    have absent : (relayRun []).groupStore.map
        (fun store => store.database.getMembershipStatus "g" "T") = some none := by
      decide +kernel
    rw [hosted] at absent
    exact ⟨store, rfl, Option.some.inj absent⟩

end Sample
end Peerc.Connectivity
