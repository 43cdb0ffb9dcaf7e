import Peerc.Connectivity.Rendezvous
import Peerc.Group.Members

/-!
Which of several updates of one device the caches end up with. Neither compares the stamps,
so it is the last to arrive.
-/
namespace Peerc.Connectivity
open List Runs Groups Handshake GroupEnv

/-- The comparison of floats; none with nan is true. -/
def Stamp.le : Stamp → Stamp → Bool
  | .nan, _ => false
  | _, .nan => false
  | .negInf, _ => true
  | _, .posInf => true
  | .finite a, .finite b => a ≤ b
  | _, _ => false

structure Delivery where
  update : EndpointUpdate
  now : Time
  later : Time

namespace Delivery

def nonce (x : Delivery) : Text := x.update.nonce

def stamp (x : Delivery) : Stamp := x.update.timestamp

structure Valid (env : GroupEnv) (deviceId : Text) (publicKey : Bytes) (x : Delivery) : Prop where
  own : x.update.deviceId = deviceId
  formed : ∃ endpoint, endpointUpdateToEndpoint x.update = .ok endpoint
  signed : ∃ payload, x.update.payload env = some payload ∧
    verifyRaw env publicKey x.update.signature payload = true
  fresh : x.stamp.stale x.now = false

end Delivery

open Delivery

def stampsAt (k : EndpointKey) (xs : List Delivery) : List Stamp :=
  (xs.filter (fun x => x.update.key = k)).map stamp

def LastGreatest (stamps : List Stamp) : Prop :=
  ∀ t ∈ stamps, ∃ last, stamps.getLast? = some last ∧ t.le last = true

instance (stamps : List Stamp) : Decidable (LastGreatest stamps) :=
  decidable_of_iff (∀ t ∈ stamps, stamps.getLast?.any t.le = true) (by
    simp [LastGreatest, Option.any_eq_true])

section Deliver
variable (env : GroupEnv) (groupId : Text) (peer : Authenticated) (store : GroupState)

def registerNext (c : RendezvousCache) (x : Delivery) : RendezvousCache :=
  (c.register env groupId peer.deviceId x.update peer.publicKey store x.now x.later).2

def announceNext (a : App) (x : Delivery) : App :=
  a.onEndpointUpdate env (some peer) x.update x.now x.later

end Deliver

/-! ## Every update is accepted -/

theorem check_and_add_unseen {cache : Dict Text Time} {now : Time} {nonce other : Text}
    (differ : other ≠ nonce) (absent : cache.get other = none) :
    (checkAndAdd cache now nonce).2.get other = none := by
  have purged : Dict.get (cache.delete (fun e => decide (nonceTtl < now - e.2))) other = none := by
    cases found : Dict.get (cache.delete (fun e => decide (nonceTtl < now - e.2))) other with
    | none => rfl
    | some => cases absent.symm.trans ((Dict.get_delete_iff _ _ _ _).mp found).1
  unfold checkAndAdd
  dsimp only
  split
  · exact purged
  · rw [Dict.get_set, if_neg differ]
    exact purged

theorem along_unseen {State : Type} {step : State → Delivery → State}
    {nonces : State → Dict Text Time} {valid : Delivery → Prop}
    (others : ∀ s x n, n ≠ x.nonce → (nonces s).get n = none → (nonces (step s x)).get n = none)
    {s : State} {xs : List Delivery} (all : ∀ x ∈ xs, valid x)
    (distinct : (xs.map nonce).Nodup) (unseen : ∀ x ∈ xs, (nonces s).get x.nonce = none) :
    Along step (fun s x => valid x ∧ (nonces s).get x.nonce = none) s xs := by
  induction xs generalizing s with
  | nil => trivial
  | cons x _ ih =>
    obtain ⟨own, rest⟩ := nodup_cons.mp distinct
    have first : valid x := all x mem_cons_self
    refine ⟨⟨first, unseen x mem_cons_self⟩, ih (fun y later => ?_) rest ?_⟩
    · exact all y (mem_cons_of_mem x later)
    · intro y later
      refine others s x y.nonce ?_ (unseen y (mem_cons_of_mem x later))
      intro same
      exact own (same ▸ mem_map_of_mem later)

variable {env : GroupEnv} {groupId : Text} {peer : Authenticated} {store : GroupState}
  {x : Delivery} {a : App}

section Verify
variable {deviceId : Text} {publicKey : Bytes} {cache : Dict Text Time}

theorem verify_leaves_others {n : Text} (u : EndpointUpdate) (now later : Time)
    (differ : n ≠ u.nonce) (absent : cache.get n = none) :
    (verifyEndpointUpdate env u publicKey cache now later).2.get n = none := by
  unfold verifyEndpointUpdate
  split
  · exact absent
  · split
    · exact absent
    · split
      · exact absent
      · exact check_and_add_unseen differ absent

theorem valid_verdict (valid : x.Valid env deviceId publicKey) :
    verifyEndpointUpdate env x.update publicKey cache x.now x.later =
      checkAndAdd cache x.later x.nonce := by
  obtain ⟨_, packed, signed⟩ := valid.signed
  have young : x.update.timestamp.stale x.now = false := valid.fresh
  simp only [verifyEndpointUpdate, packed, signed, young, not_true_eq_false, ↓reduceIte,
    Bool.false_eq_true, nonce]

theorem valid_verifies (valid : x.Valid env deviceId publicKey)
    (unseen : cache.get x.nonce = none) :
    (verifyEndpointUpdate env x.update publicKey cache x.now x.later).1 = true := by
  rw [valid_verdict valid, check_and_add_fresh_iff]
  intro _ found
  cases unseen.symm.trans found

end Verify

/-! ## The last to arrive is held -/

section Held

def entryOf (groupId deviceId : Text) (c : RendezvousCache) : Option EndpointUpdate :=
  c.entries.get (groupId, deviceId)

theorem register_leaves_others (c : RendezvousCache) (x : Delivery) (n : Text)
    (differ : n ≠ x.nonce) (absent : c.nonceCache.get n = none) :
    (registerNext env groupId peer store c x).nonceCache.get n = none := by
  have others : (verifyEndpointUpdate env x.update peer.publicKey c.nonceCache x.now
      x.later).2.get n = none := verify_leaves_others _ _ _ differ absent
  unfold registerNext RendezvousCache.register
  split
  · exact absent
  · split
    · exact absent
    · split
      · next verdict =>
        rw [verdict] at others
        exact others
      · next verdict =>
        rw [verdict] at others
        exact others

theorem announce_leaves_others (a : App) (x : Delivery) (n : Text)
    (differ : n ≠ x.nonce) (absent : a.nonces.get n = none) :
    (announceNext env peer a x).nonces.get n = none := by
  unfold announceNext App.onEndpointUpdate
  split
  · split
    · exact absent
    · exact verify_leaves_others _ _ _ differ absent
  · exact absent

theorem register_held (member : requireActiveMember store groupId peer.deviceId .sender = .ok ())
    (c : RendezvousCache) (x : Delivery) (accepted : x.Valid env peer.deviceId peer.publicKey ∧
      c.nonceCache.get x.nonce = none) :
    entryOf groupId peer.deviceId (registerNext env groupId peer store c x) =
      (some x.update).or (entryOf groupId peer.deviceId c) := by
  have verified := valid_verifies accepted.1 accepted.2
  unfold registerNext
  rw [registered_cache accepted.1.own member, verified]
  simp [entryOf]

variable (k : EndpointKey)

def heldAt (a : App) : Option Stamp :=
  a.locatorStore.bind (fun s => s.endpoints.get k)

def bringsTo (x : Delivery) : Option Stamp :=
  if x.update.key = k ∧ x.stamp ≠ .nan then some x.stamp else none

def Writable (a : App) : Prop := ∃ s, a.locatorStore = some s ∧ s.attached = true

section Announce
variable (a : App) (x : Delivery) (writable : Writable a)
  (accepted : x.Valid env peer.deviceId peer.publicKey ∧ a.nonces.get x.nonce = none)
include writable accepted

theorem announce_stores :
    ∃ s, a.locatorStore = some s ∧ s.attached = true ∧
      (announceNext env peer a x).locatorStore = some (if x.stamp = .nan then s
        else ⟨s.endpoints.set x.update.key x.stamp, s.attached⟩) := by
  obtain ⟨s, opened, attached⟩ := writable
  obtain ⟨valid, unseen⟩ := accepted
  obtain ⟨_, made⟩ := valid.formed
  refine ⟨s, opened, attached, ?_⟩
  have verified := valid_verifies valid unseen
  simp only [announceNext, App.onEndpointUpdate, opened, valid.own, ne_eq, not_true_eq_false,
    ↓reduceIte, App.verifyAndStore, verified, Option.map_some]
  exact congrArg some (record_stores attached made)

theorem announce_writable : Writable (announceNext env peer a x) := by
  obtain ⟨_, _, attached, after⟩ := announce_stores a x writable accepted
  refine ⟨_, after, ?_⟩
  split <;> exact attached

theorem announce_held :
    heldAt k (announceNext env peer a x) = (bringsTo k x).or (heldAt k a) := by
  obtain ⟨_, opened, _, after⟩ := announce_stores a x writable accepted
  simp only [heldAt, after, opened, Option.bind_some, bringsTo]
  by_cases nan : x.stamp = .nan
  · simp [nan]
  · by_cases here : x.update.key = k
    · simp [nan, here]
    · simp [nan, here, Ne.symm here]

end Announce
end Held

theorem greatest_held_iff {held : Option Stamp} {stamps : List Stamp}
    (last : stamps ≠ [] → held = stamps.getLast?) :
    (∀ t ∈ stamps, ∃ s ∈ stamps, held = some s ∧ t.le s = true) ↔ LastGreatest stamps := by
  constructor
  · intro all t member
    obtain ⟨s, _, same, greater⟩ := all t member
    exact ⟨s, (last (ne_nil_of_mem member)).symm.trans same, greater⟩
  · intro greatest t member
    obtain ⟨s, ends, greater⟩ := greatest t member
    exact ⟨s, mem_of_getLast? ends, (last (ne_nil_of_mem member)).trans ends, greater⟩

theorem greatest_entry_iff {before : Option EndpointUpdate} {xs : List Delivery} :
    (∀ x ∈ xs, ∃ y ∈ xs, (xs.getLast?.map update).or before = some y.update ∧
        x.stamp.le y.stamp = true) ↔ LastGreatest (xs.map stamp) := by
  cases ends : xs.getLast? with
  | none =>
    rw [getLast?_eq_none_iff] at ends
    subst ends
    simp [LastGreatest]
  | some z =>
    have last : (xs.map stamp).getLast? = some z.stamp := by
      rw [getLast?_map, ends, Option.map_some]
    constructor
    · intro all _ member
      obtain ⟨x, here, rfl⟩ := mem_map.mp member
      obtain ⟨y, _, same, greater⟩ := all x here
      have stamps : z.stamp = y.stamp := congrArg EndpointUpdate.timestamp (Option.some.inj same)
      exact ⟨z.stamp, last, stamps ▸ greater⟩
    · intro greatest x member
      obtain ⟨_, same, greater⟩ := greatest x.stamp (mem_map_of_mem member)
      cases last.symm.trans same
      exact ⟨z, mem_of_getLast? ends, rfl, greater⟩

section Newest
variable {xs : List Delivery}

theorem entry_is_last (member : requireActiveMember store groupId peer.deviceId .sender = .ok ())
    (valid : ∀ x ∈ xs, x.Valid env peer.deviceId peer.publicKey)
    (distinct : (xs.map nonce).Nodup) {c : RendezvousCache}
    (unseen : ∀ x ∈ xs, c.nonceCache.get x.nonce = none) :
    entryOf groupId peer.deviceId (run (registerNext env groupId peer store) c xs) =
      (xs.getLast?.map update).or (entryOf groupId peer.deviceId c) := by
  have held := held_run (register_held member)
    (along_unseen register_leaves_others valid distinct unseen)
  rwa [filterMap_eq_map', getLast?_map] at held

theorem time_is_last (valid : ∀ x ∈ xs, x.Valid env peer.deviceId peer.publicKey)
    (distinct : (xs.map nonce).Nodup) (writable : Writable a)
    (unseen : ∀ x ∈ xs, a.nonces.get x.nonce = none) (k : EndpointKey) :
    heldAt k (run (announceNext env peer) a xs) =
      (xs.filterMap (bringsTo k)).getLast?.or (heldAt k a) := by
  exact held_run (fun _ _ held => held)
    (invariant_along announce_writable (announce_held k) writable
      (along_unseen announce_leaves_others valid distinct unseen))

theorem brought_stamps {k : EndpointKey} (numbers : Stamp.nan ∉ stampsAt k xs) :
    xs.filterMap (bringsTo k) = stampsAt k xs := by
  induction xs with
  | nil => rfl
  | cons x xs ih =>
    by_cases here : x.update.key = k
    · have split : stampsAt k (x :: xs) = x.stamp :: stampsAt k xs := by simp [stampsAt, here]
      rw [split, mem_cons, not_or] at numbers
      have brought : bringsTo k x = some x.stamp := by simp [bringsTo, here, Ne.symm numbers.1]
      rw [split, filterMap_cons_some brought, ih numbers.2]
    · have same : stampsAt k (x :: xs) = stampsAt k xs := by simp [stampsAt, here]
      have nothing : bringsTo k x = none := by simp [bringsTo, here]
      rw [same, filterMap_cons_none nothing, ih (same ▸ numbers)]

end Newest

/-- The newest is held if and only if it arrives last. -/
theorem newest_wins_iff (env : GroupEnv) (groupId : Text) (peer : Authenticated)
    (store : GroupState) (c : RendezvousCache) (a : App) (xs : List Delivery)
    (member : requireActiveMember store groupId peer.deviceId .sender = .ok ())
    (writable : Writable a) (valid : ∀ x ∈ xs, x.Valid env peer.deviceId peer.publicKey)
    (distinct : (xs.map nonce).Nodup)
    (unseen : ∀ x ∈ xs, c.nonceCache.get x.nonce = none ∧ a.nonces.get x.nonce = none) :
    ((∀ x ∈ xs, ∃ y ∈ xs, entryOf groupId peer.deviceId
          (run (registerNext env groupId peer store) c xs) = some y.update ∧
            x.stamp.le y.stamp = true) ↔
        LastGreatest (xs.map stamp)) ∧
      ∀ k, (∀ t ∈ stampsAt k xs, ∃ s ∈ stampsAt k xs,
          heldAt k (run (announceNext env peer) a xs) = some s ∧ t.le s = true) ↔
        LastGreatest (stampsAt k xs) := by
  have entry := entry_is_last member valid distinct (fun x member => (unseen x member).1)
  have time := time_is_last valid distinct writable (fun x member => (unseen x member).2)
  constructor
  · rw [entry]
    exact greatest_entry_iff
  · intro k
    by_cases numbers : Stamp.nan ∈ stampsAt k xs
    · -- no stamp compares with one that is no number, on either side
      constructor
      · intro all
        obtain ⟨_, _, _, greater⟩ := all .nan numbers
        cases greater
      · intro greatest
        obtain ⟨_, _, greater⟩ := greatest .nan numbers
        cases greater
    · rw [time k, brought_stamps numbers]
      refine greatest_held_iff ?_
      intro any
      rw [getLast?_eq_some_getLast any]
      rfl

section Sample

def announcedWith (timestamp : Stamp) (nonce : Text) : EndpointUpdate :=
  let unsigned : EndpointUpdate := ⟨sample.computeDeviceId announcer.val,
    "direct-v4", "192.0.2.7", 5000, timestamp, nonce, []⟩
  { unsigned with
    signature := Base64.encode (announcer.val ++ (unsigned.payload sample).getD []) }

def early : Delivery := ⟨announcedWith (.finite 10) "n", 20, 20⟩

def late : Delivery := ⟨announcedWith (.finite 15) "m", 20, 20⟩

def announcerSession : Authenticated :=
  ⟨sample.computeDeviceId announcer.val, announcer.val⟩

def certFor (device : Authenticated) (groupId : Text) : MembershipCertificate :=
  let unsigned : MembershipCertificate := ⟨device.deviceId, Base64.encode device.publicKey,
    groupId, "member", [], 1, none, "a", []⟩
  { unsigned with signature := signWith founderKey (unsigned.buildPayload sample) }

def announcerGroup : GroupState :=
  run (GroupState.step sample) GroupState.start
    [.tables (.createGroup foundedGroup), .recordMembership (certFor announcerSession "g")]

def listener : App := ⟨"h", none, some LocatorStore.empty, [], RendezvousCache.empty⟩

theorem early_late_valid : ∀ x ∈ [early, late],
    x.Valid sample announcerSession.deviceId announcerSession.publicKey := by
  have checked : ∀ x ∈ [early, late], x.update.deviceId = announcerSession.deviceId ∧
      endpointUpdateToEndpoint x.update = .ok ⟨announcerSession.deviceId, "direct-v4",
        "192.0.2.7", 5000, x.stamp⟩ ∧
      x.update.payload sample = some ((x.update.payload sample).getD []) ∧
      verifyRaw sample announcerSession.publicKey x.update.signature
        ((x.update.payload sample).getD []) = true ∧
      x.stamp.stale x.now = false := by decide +kernel
  intro x member
  obtain ⟨own, formed, packed, signed, fresh⟩ := checked x member
  exact ⟨own, ⟨_, formed⟩, ⟨_, packed, signed⟩, fresh⟩

def registerAll (xs : List Delivery) : RendezvousCache :=
  run (registerNext sample "g" announcerSession announcerGroup)
    RendezvousCache.empty xs

def announceAll (xs : List Delivery) : App :=
  run (announceNext sample announcerSession) listener xs

theorem newest_last_held : (∀ x ∈ [early, late], ∃ y ∈ [early, late],
        entryOf "g" announcerSession.deviceId (registerAll [early, late]) = some y.update ∧
          x.stamp.le y.stamp = true) ∧
      ∀ k, LastGreatest (stampsAt k [early, late]) →
        ∀ t ∈ stampsAt k [early, late], ∃ s ∈ stampsAt k [early, late],
          heldAt k (announceAll [early, late]) = some s ∧ t.le s = true := by
  have held := newest_wins_iff sample "g" announcerSession announcerGroup
    RendezvousCache.empty listener [early, late] (by decide +kernel) ⟨_, rfl, rfl⟩
    early_late_valid (by decide +kernel) (by decide +kernel)
  exact ⟨held.1.mpr (by decide +kernel), fun k => (held.2 k).mpr⟩

theorem older_update_held :
    entryOf "g" announcerSession.deviceId (registerAll [late, early]) = some early.update ∧
      heldAt late.update.key (announceAll [late, early]) = some early.stamp ∧
      early.update.key = late.update.key ∧ late.stamp.le early.stamp = false := by
  decide +kernel

end Sample
end Peerc.Connectivity