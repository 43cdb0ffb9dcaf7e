import Peerc.Handshake.Possession

/-!
Revocation against handshakes in flight. The trust lookup comes before the last await of either
role and its answer is used after it.
-/
namespace Peerc.Handshake
open List Trust Runs
variable {S : Suite}

def Session.lookedUp : Session S → Option Hello
  | .draining t _ _ => some t.peer
  | .awaitFinish t _ _ => some t.peer
  | _ => none

def Event.revokes : Event S → Option Text
  | .operate (.revoke deviceId _ _ _) => some deviceId
  | _ => none

/-- The step does not revoke a device while a handshake with it is past its lookup. -/
def NotRevokedInFlight (d : Device S) (e : Event S) : Prop :=
  ∀ deviceId, e.revokes = some deviceId →
    ∀ s ∈ d.sessions, ∀ peer, s.lookedUp = some peer → peer.deviceId ≠ deviceId

instance NotRevokedInFlight.decidable (d : Device S) (e : Event S) :
    Decidable (NotRevokedInFlight d e) :=
  decidable_of_iff (∀ deviceId ∈ e.revokes, ∀ s ∈ d.sessions, ∀ peer ∈ s.lookedUp,
    peer.deviceId ≠ deviceId) (by simp [NotRevokedInFlight])

def ReturnsUnrevoked (d : Device S) (e : Event S) : Prop :=
  ∀ (k : Nat) (result : HandshakeResult),
    (d.step e).sessions[k]?.bind Session.result = some result →
    d.sessions[k]?.bind Session.result = none →
    ∀ row, rowOf (d.step e).store result.peerDeviceId = some row →
      row.status ≠ .revoked ∧ row.publicKey = result.peerPublicKey

def InGoodStanding (s : TrustStore) (peer : Hello) : Prop :=
  ∃ row, s.get peer.deviceId = some row ∧ row.publicKey = peer.publicKey ∧ row.status ≠ .revoked

def Session.Current (store : Option TrustStore) : Session S → Prop
  | .draining t _ _ => ∀ s, store = some s → InGoodStanding s t.peer
  | .awaitFinish t _ pre => ∀ s, store = some s →
      pre = .unknown ∨ (pre = .pending ∨ pre = .trusted) ∧ InGoodStanding s t.peer
  | _ => True

def Device.Current (d : Device S) : Prop := ∀ s ∈ d.sessions, s.Current d.store

open Device

variable {peer : Hello}

theorem standing_step (env : Primitives) {s : TrustStore} (op : TrustOp)
    (good : InGoodStanding s peer)
    (spared : ∀ revokedBy reason now, op ≠ .revoke peer.deviceId revokedBy reason now) :
    InGoodStanding (Trust.step env s op) peer := by
  obtain ⟨row, found, key, live⟩ := good
  obtain ⟨row', found', key', _⟩ := step_extends env s op peer.deviceId row found
  refine ⟨row', found', key'.trans key, ?_⟩
  intro revoked
  obtain ⟨revokedBy, reason, now, same⟩ := revoked_by_revocation found live found' revoked
  exact spared revokedBy reason now same

variable {store : Option TrustStore} {s : Session S}

theorem current_kept (env : Primitives) (op : TrustOp) (current : s.Current store)
    (spared : ∀ peer, s.lookedUp = some peer →
      ∀ revokedBy reason now, op ≠ .revoke peer.deviceId revokedBy reason now) :
    s.Current (store.map (fun st => Trust.step env st op)) := by
  cases s with
  | draining t =>
    intro _ same
    obtain ⟨before, found, rfl⟩ := Option.map_eq_some_iff.mp same
    exact standing_step env op (current before found) (spared t.peer rfl)
  | awaitFinish t =>
    intro _ same
    obtain ⟨before, found, rfl⟩ := Option.map_eq_some_iff.mp same
    rcases current before found with unknown | ⟨known, good⟩
    · exact .inl unknown
    · exact .inr ⟨known, standing_step env op good (spared t.peer rfl)⟩
  | awaitResponse | awaitInit | done | failed => trivial

variable {pre decision : TrustDecision} {c : Conditions S}

theorem current_recorded {store' : Option TrustStore} {deviceId publicKey peerName : Text}
    (recorded : Recorded c deviceId publicKey peerName store pre store' decision)
    (current : s.Current store) : s.Current store' := by
  cases recorded with
  | unstored | barred => exact current
  | @seen before after done =>
    have kept := current_kept S.toPrimitives (.recordFirstSeen deviceId publicKey
      (peerName.take maxPeerNameLength) c.permitted c.now) current (by simp)
    simpa [Trust.step, done, settle] using kept
  | @touched before _ known =>
    exact current_kept S.toPrimitives (.touchLastSeen deviceId c.now) current (by simp)

theorem standing_of_check {s : TrustStore} (checked : s.check peer.deviceId peer.publicKey = pre)
    (known : pre = .pending ∨ pre = .trusted) : InGoodStanding s peer := by
  unfold TrustStore.check at checked
  cases found : s.get peer.deviceId with
  | none => rcases known with rfl | rfl <;> simp [found] at checked
  | some row =>
    by_cases sameKey : row.publicKey = peer.publicKey
    · refine ⟨row, found, sameKey, ?_⟩
      intro revoked
      rcases known with rfl | rfl <;> simp [found, sameKey, revoked] at checked
    · rcases known with rfl | rfl <;> simp [found, sameKey] at checked

theorem fresh_lookup (checked : checkTrust c store peer.deviceId peer.publicKey = .ok pre) :
    ∀ s, store = some s →
      pre = .unknown ∨ (pre = .pending ∨ pre = .trusted) ∧ InGoodStanding s peer := by
  rintro _ rfl
  obtain ⟨answer, notRevoked, notChanged⟩ := check_ok checked
  cases pre with
  | unknown => exact .inl rfl
  | pending => exact .inr ⟨.inl rfl, standing_of_check answer (.inl rfl)⟩
  | trusted => exact .inr ⟨.inr rfl, standing_of_check answer (.inr rfl)⟩
  | keyChanged => exact absurd rfl notChanged
  | revoked => exact absurd rfl notRevoked

theorem first_seen_standing {s t : TrustStore} {name : Text} {permitted : Text → Bool} {now : Time}
    (done : s.recordFirstSeen peer.deviceId peer.publicKey name permitted now = .ok t) :
    InGoodStanding t peer := by
  unfold TrustStore.recordFirstSeen at done
  split at done
  · cases done
  · rename_i unknown
    split at done
    · cases done
      refine ⟨⟨peer.deviceId, peer.publicKey, name, now, now, .pending, none, none, none⟩, ?_, rfl,
        nofun⟩
      rw [TrustStore.get_insert_device s _ (by simpa using unknown), if_pos rfl]
    · cases done

theorem recorded_standing {store' : Option TrustStore}
    (recorded : Recorded c peer.deviceId peer.publicKey peer.senderName store pre store' decision)
    (holds : ∀ s, store = some s →
      pre = .unknown ∨ (pre = .pending ∨ pre = .trusted) ∧ InGoodStanding s peer) :
    ∀ s, store' = some s → InGoodStanding s peer := by
  cases recorded with
  | unstored => nofun
  | seen done =>
    rintro _ ⟨⟩
    exact first_seen_standing done
  | @touched before _ known =>
    rintro _ ⟨⟩
    have good : InGoodStanding before peer := by
      rcases known with rfl | rfl <;> simpa using holds before rfl
    exact standing_step S.toPrimitives (.touchLastSeen peer.deviceId c.now) good nofun
  | @barred before _ bad =>
    have clash := holds before rfl
    rcases bad with rfl | rfl <;> simp at clash

theorem concludes_current {id : DeviceKeypair S} {t : Talk S} {finish : Text}
    (concludes : Concludes id t finish decision s)
    (store : Option TrustStore) : s.Current store := by
  cases concludes with
  | failed | done => trivial

variable {d : Device S}

theorem current_step (current : d.Current) (e : Event S)
    (spared : NotRevokedInFlight d e) : (d.step e).Current := by
  unfold Device.Current
  refine step_cases d e fun sessions store signed outcome => ?_
  cases outcome with
  | idle | signedOther => exact current
  | connected | accepted => exact all_append current trivial
  | failed => exact all_set current trivial
  | answered _ _ checked talk =>
    subst talk
    exact all_set current (fresh_lookup checked)
  | verified _ _ checked talk _ recorded =>
    subst talk
    have recorded := record_ok recorded
    apply all_set (fun s member => current_recorded recorded (current s member))
    exact recorded_standing recorded (fresh_lookup checked)
  | returned _ concludes => exact all_set current (concludes_current concludes _)
  | finished _ _ recorded concludes =>
    apply all_set (fun s member => current_recorded (record_ok recorded) (current s member))
    exact concludes_current concludes _
  | operated op =>
    intro s member
    apply current_kept S.toPrimitives op (current s member)
    intro peer lookedUp _ _ _ same
    exact spared _ (by rw [same, Event.revokes]) s member peer lookedUp rfl

variable {k : Nat} {result : HandshakeResult}

theorem new_result {ss : List (Session S)} {j : Nat} {new : Session S}
    (after : (ss.set j new)[k]?.bind Session.result = some result)
    (before : ss[k]?.bind Session.result = none) : new.result = some result := by
  by_cases same : j = k
  · subst same
    by_cases bound : j < ss.length
    · rw [getElem?_set_self bound] at after
      exact after
    · rw [getElem?_eq_none (by simpa using bound)] at after
      cases after
  · rw [getElem?_set_ne same, before] at after
    cases after

theorem no_new_result {ss : List (Session S)} {new : Session S} (fresh : new.result = none)
    (after : (ss ++ [new])[k]?.bind Session.result = some result)
    (before : ss[k]?.bind Session.result = none) : False := by
  rcases Nat.lt_trichotomy k ss.length with inside | here | beyond
  · rw [getElem?_append_left inside, before] at after
    cases after
  · subst here
    rw [getElem?_concat_length, Option.bind_some, fresh] at after
    cases after
  · rw [getElem?_eq_none (by simp; omega)] at after
    cases after

inductive NewResult (d : Device S) (store : Option TrustStore) (result : HandshakeResult) : Prop
  | returned {k : Nat} {t : Talk S} {finish : Text} {decision : TrustDecision} {s : Session S}
      (found : d.sessions[k]? = some (.draining t finish decision))
      (concludes : Concludes d.identity t finish decision s) (returns : s.result = some result)
      (same : store = d.store)
  | finished {k : Nat} {t : Talk S} {key : Bytes} {pre decision : TrustDecision} {finish : Text}
      {c : Conditions S} {s : Session S}
      (found : d.sessions[k]? = some (.awaitFinish t key pre))
      (recorded : Recorded c t.peer.deviceId t.peer.publicKey t.peer.senderName d.store pre store
        decision)
      (concludes : Concludes d.identity t finish decision s) (returns : s.result = some result)

theorem result_source {e : Event S}
    (after : (d.step e).sessions[k]?.bind Session.result = some result)
    (before : d.sessions[k]?.bind Session.result = none) : NewResult d (d.step e).store result := by
  revert after
  refine step_cases d e fun sessions store signed outcome after => ?_
  have unchanged : d.sessions[k]?.bind Session.result = some result → False := by
    rw [before]
    nofun
  cases outcome with
  | idle | operated | signedOther => exact (unchanged after).elim
  | connected | accepted => exact (no_new_result rfl after before).elim
  | failed | answered | verified => cases new_result after before
  | returned found concludes => exact .returned found concludes (new_result after before) rfl
  | finished found _ recorded concludes =>
    exact .finished found (record_ok recorded) concludes (new_result after before)

theorem concluded_unrevoked {id : DeviceKeypair S} {t : Talk S} {finish : Text}
    (concludes : Concludes id t finish decision s)
    (good : ∀ st, store = some st → InGoodStanding st t.peer) (returns : s.result = some result)
    {row : TrustedDevice} (found : rowOf store result.peerDeviceId = some row) :
    row.status ≠ .revoked ∧ row.publicKey = result.peerPublicKey := by
  cases concludes with
  | failed => cases returns
  | done =>
    cases returns
    obtain ⟨st, same, found⟩ := Option.bind_eq_some_iff.mp found
    obtain ⟨_, found', key, live⟩ := good st same
    cases found'.symm.trans found
    exact ⟨live, key⟩

theorem returns_unrevoked_step (current : d.Current) (e : Event S) : ReturnsUnrevoked d e := by
  intro _ _ after before _ held
  cases result_source after before with
  | returned found concludes returns same =>
    rw [same] at held
    have good := current _ (mem_of_getElem? found)
    exact concluded_unrevoked concludes good returns held
  | finished found recorded concludes returns =>
    have lookup := current _ (mem_of_getElem? found)
    exact concluded_unrevoked concludes (recorded_standing recorded lookup) returns held

/-- If no device is revoked while a handshake with it is past its lookup, none returns a revoked
peer. -/
theorem revocation_stops_handshakes (S : Suite) (id : DeviceKeypair S) (store : Option TrustStore)
    (events : List (Event S))
    (spared : Along step NotRevokedInFlight (start id store) events) :
    Along step ReturnsUnrevoked (start id store) events := by
  have start : (start id store).Current := nofun
  exact invariant_along (fun _ e current spared => current_step current e spared)
    (fun _ e current _ => returns_unrevoked_step current e) start spared

section Sample

def returnsRevoked (d : Device S) (e : Event S) (k : Nat) : Bool :=
  match (d.step e).sessions[k]?.bind Session.result, d.sessions[k]?.bind Session.result with
  | some result, none =>
      match rowOf (d.step e).store result.peerDeviceId with
      | some row => row.status = .revoked
      | none => false
  | _, _ => false

theorem revoked_return {d : Device S} {e : Event S} {k : Nat}
    (revoked : returnsRevoked d e k = true) : ¬ ReturnsUnrevoked d e := by
  intro unrevoked
  unfold returnsRevoked at revoked
  split at revoked
  · rename_i result after before
    split at revoked
    · rename_i row found
      exact (unrevoked k result after before row found).1 (of_decide_eq_true revoked)
    · cases revoked
  · cases revoked

def annSeen : Event (Suite.sample id) :=
  .operate (.recordFirstSeen (ann id).deviceId (Hex.encode (ann id).publicKeyBytes) "ann"
    (fun _ => true) 1)

def annRevoked : Event (Suite.sample id) :=
  .operate (.revoke (ann id).deviceId (bob id).deviceId none 3)

def annInit : Event (Suite.sample id) :=
  .receive 0 (.frame (.init ((ann id).hello (annOwn id)))) (.sample 2 (bobOwn id))

def annDone : Event (Suite.sample id) :=
  .receive 0 (.frame (.finish (annFinish id))) (.sample 4 (bobOwn id))

def bobStart : Device (Suite.sample id) := start (bob id) (some TrustStore.empty)

theorem late_revocation_harmless : Along step NotRevokedInFlight bobStart
        [annSeen, .accept, annInit, annDone, annRevoked] ∧
      Along step ReturnsUnrevoked bobStart
        [annSeen, .accept, annInit, annDone, annRevoked] := by
  have spared : Along step NotRevokedInFlight bobStart
      [annSeen, .accept, annInit, annDone, annRevoked] := by
    decide +kernel
  exact ⟨spared, revocation_stops_handshakes (Suite.sample id) (bob id)
    (some TrustStore.empty) _ spared⟩

theorem revoked_while_waiting_returns : ¬ Along step ReturnsUnrevoked bobStart
      ([annSeen, .accept, annInit, annRevoked] ++ [annDone]) := by
  intro along
  have revoked : returnsRevoked (run step bobStart
      [annSeen, .accept, annInit, annRevoked]) annDone 0 = true := by
    decide +kernel
  exact revoked_return revoked (along_at along)

end Sample
end Peerc.Handshake
