import Peerc.Connectivity.Newest

/-!
A member registers with a host for all groups they share, and a requester asks the host for
the member. One update is made for all groups: either cache of nonces takes it only once.
-/
namespace Peerc.Connectivity
open List Runs Groups Handshake

def App.Hosts (a : App) (groupId : Text) : Prop :=
  groupId ≠ [] ∧ groupId ∈ a.rendezvousActiveGroups

instance (a : App) (groupId : Text) : Decidable (a.Hosts groupId) :=
  inferInstanceAs (Decidable (_ ∧ _))

structure Arrival where
  groupId : Text
  update : EndpointUpdate
  now : Time
  later : Time

def Arrival.delivery (x : Arrival) : Delivery := ⟨x.update, x.now, x.later⟩

def registerStep (env : GroupEnv) (peer : Authenticated) (host : App) (x : Arrival) : App :=
  host.onRendezvousRegister env (some peer) x.groupId x.update x.now x.later

variable (host : App) (store : GroupState)

def Served (deviceId groupId : Text) : Prop :=
  host.Hosts groupId ∧ requireActiveMember store groupId deviceId .sender = .ok ()

instance (deviceId groupId : Text) :
    Decidable (Served host store deviceId groupId) :=
  inferInstanceAs (Decidable (_ ∧ _))

def servedGroups (deviceId : Text) (xs : List Arrival) : List Text :=
  (xs.map Arrival.groupId).filter (Served host store deviceId)

def servedTimes (deviceId : Text) (xs : List Arrival) : List Time :=
  (xs.filter fun x => Served host store deviceId x.groupId).map Arrival.later

/-- The cache has forgotten the nonce of the one time before the next. -/
def Spaced : Option Time → List Time → Prop
  | _, [] => True
  | last, t :: times => (∀ entry, last = some entry → nonceTtl < t - entry) ∧ Spaced (some t) times

def asks (env : GroupEnv) (host : App) (session : Authenticated) (groupId target : Text) :
    App → List (Time × Time) → List Bool
  | _, [] => []
  | a, (now, later) :: rest =>
      match host.onRendezvousLookup (some session) groupId target with
      | none => false :: asks env host session groupId target a rest
      | some answer =>
          (a.onRendezvousLookupResponse env groupId target answer now later).1 ::
            asks env host session groupId target
              (a.onRendezvousLookupResponse env groupId target answer now later).2 rest

section Shared
variable {env : GroupEnv} {peer : Authenticated} {host : App} {store : GroupState}
  {u : EndpointUpdate} {g : Text}

/-! ## The host -/

section Host
variable {x : Arrival} {xs : List Arrival}

structure Carries (env : GroupEnv) (peer : Authenticated) (u : EndpointUpdate) (x : Arrival) :
    Prop where
  same : x.update = u
  valid : x.delivery.Valid env peer.deviceId peer.publicKey

theorem Carries.verdict (carries : Carries env peer u x) (cache : Dict Text Time) :
    verifyEndpointUpdate env x.update peer.publicKey cache x.now x.later =
      checkAndAdd cache x.later u.nonce := by
  rw [← carries.same]
  exact valid_verdict carries.valid

theorem register_step_settings (host : App) (x : Arrival) :
    (registerStep env peer host x).groupStore = host.groupStore ∧
      (registerStep env peer host x).rendezvousActiveGroups = host.rendezvousActiveGroups := by
  unfold registerStep App.onRendezvousRegister
  split
  · split <;> exact ⟨rfl, rfl⟩
  · exact ⟨rfl, rfl⟩

theorem register_step_ignored (opened : host.groupStore = some store)
    (carries : Carries env peer u x) (ignored : ¬ Served host store peer.deviceId x.groupId) :
    registerStep env peer host x = host := by
  have own : x.update.deviceId = peer.deviceId := carries.valid.own
  unfold registerStep App.onRendezvousRegister
  rw [opened]
  dsimp only
  split
  · rfl
  · next hosting =>
    have hosts : host.Hosts x.groupId := by simpa [App.Hosts, not_or] using hosting
    cases checked : requireActiveMember store x.groupId peer.deviceId .sender with
    | ok => exact absurd ⟨hosts, checked⟩ ignored
    | error =>
      simp only [RendezvousCache.register, own, ne_eq, not_true_eq_false, ↓reduceIte, checked]
      rw [← opened]

theorem register_step_served (opened : host.groupStore = some store)
    (carries : Carries env peer u x) (served : Served host store peer.deviceId x.groupId) :
    (registerStep env peer host x).nonces = (checkAndAdd host.nonces x.later u.nonce).2 ∧
      (registerStep env peer host x).rendezvousCache.entries =
        if (checkAndAdd host.nonces x.later u.nonce).1 then
          host.rendezvousCache.entries.set (x.groupId, peer.deviceId) u
        else host.rendezvousCache.entries := by
  have own : x.update.deviceId = peer.deviceId := carries.valid.own
  have hosting : ¬ (x.groupId = [] ∨ x.groupId ∉ host.rendezvousActiveGroups) := by
    rintro (empty | off)
    · exact served.1.1 empty
    · exact off served.1.2
  simp only [registerStep, App.onRendezvousRegister, opened, hosting, ↓reduceIte, App.nonces]
  rw [registered_cache own served.2, carries.verdict, carries.same]
  exact ⟨rfl, rfl⟩

theorem served_step (host : App) (x : Arrival) (d : Text) :
    Served (registerStep env peer host x) store d = Served host store d := by
  funext g
  simp only [Served, App.Hosts, (register_step_settings host x).2]

theorem others_kept (opened : host.groupStore = some store)
    (carries : ∀ x ∈ xs, Carries env peer u x) (absent : g ∉ xs.map Arrival.groupId) :
    (run (registerStep env peer) host xs).rendezvousCache.entries.get (g, peer.deviceId) =
      host.rendezvousCache.entries.get (g, peer.deviceId) := by
  induction xs generalizing host with
  | nil => rfl
  | cons x _ ih =>
    obtain ⟨first, rest⟩ := forall_mem_cons.mp carries
    obtain ⟨other, absent⟩ := not_or.mp (mem_cons.not.mp absent)
    have still : (registerStep env peer host x).groupStore = some store :=
      (register_step_settings host x).1.trans opened
    rw [run_cons, ih still rest absent]
    by_cases served : Served host store peer.deviceId x.groupId
    · rw [(register_step_served opened first served).2]
      split
      · rw [Dict.get_set, if_neg (fun same => other (Prod.mk.inj same).1)]
      · rfl
    · rw [register_step_ignored opened first served]

theorem groups_cached_iff (opened : host.groupStore = some store)
    (carries : ∀ x ∈ xs, Carries env peer u x) (distinct : (xs.map Arrival.groupId).Nodup)
    (new : ∀ g ∈ xs.map Arrival.groupId,
      host.rendezvousCache.entries.get (g, peer.deviceId) ≠ some u) :
    (∀ g ∈ servedGroups host store peer.deviceId xs,
      (run (registerStep env peer) host xs).rendezvousCache.entries.get (g, peer.deviceId) =
        some u) ↔
    Spaced (host.nonces.get u.nonce) (servedTimes host store peer.deviceId xs) := by
  induction xs generalizing host with
  | nil => simp [servedGroups, servedTimes, Spaced]
  | cons x xs ih =>
    obtain ⟨first, rest⟩ := forall_mem_cons.mp carries
    obtain ⟨own, distinct⟩ := nodup_cons.mp distinct
    obtain ⟨newFirst, newRest⟩ := forall_mem_cons.mp new
    have still : (registerStep env peer host x).groupStore = some store :=
      (register_step_settings host x).1.trans opened
    by_cases served : Served host store peer.deviceId x.groupId
    · obtain ⟨nonces, entries⟩ := register_step_served opened first served
      have groups : servedGroups host store peer.deviceId (x :: xs) =
          x.groupId :: servedGroups host store peer.deviceId xs := by simp [servedGroups, served]
      have times : servedTimes host store peer.deviceId (x :: xs) =
          x.later :: servedTimes host store peer.deviceId xs := by simp [servedTimes, served]
      rw [run_cons, groups, times, forall_mem_cons, others_kept still rest own, entries, Spaced,
        ← check_and_add_fresh_iff]
      cases passed : (checkAndAdd host.nonces x.later u.nonce).1 with
      | false => exact iff_of_false (fun found => newFirst found.1) (fun found => nomatch found.1)
      | true =>
        rw [if_pos rfl, Dict.get_set, if_pos rfl]
        have others : ∀ g ∈ xs.map Arrival.groupId,
            (registerStep env peer host x).rendezvousCache.entries.get (g, peer.deviceId) ≠
              some u := by
          intro g member
          have other : (g, peer.deviceId) ≠ (x.groupId, peer.deviceId) := by
            rintro same
            cases same
            exact own member
          rw [entries, if_pos passed, Dict.get_set, if_neg other]
          exact newRest g member
        have later := ih still rest distinct others
        rw [nonces, check_and_add_stores passed] at later
        simp only [servedGroups, servedTimes, served_step, true_and] at later ⊢
        exact later
    · have groups : servedGroups host store peer.deviceId (x :: xs) =
          servedGroups host store peer.deviceId xs := by simp [servedGroups, served]
      have times : servedTimes host store peer.deviceId (x :: xs) =
          servedTimes host store peer.deviceId xs := by simp [servedTimes, served]
      rw [run_cons, register_step_ignored opened first served, groups, times]
      exact ih opened rest distinct newRest

end Host

/-! ## The requester -/

section Requester
variable {groupId : Text} {a : App}

structure Equipped (peer : Authenticated) (groupId : Text) (a : App) : Prop where
  membership : ∃ store row, a.groupStore = some store ∧ store.attached = true ∧
    store.database.getMembership groupId peer.deviceId = some row ∧
    Base64.decode row.devicePublicKey = some peer.publicKey
  locator : a.locatorStore.isSome = true

theorem response_verified (equipped : Equipped peer groupId a) (own : u.deviceId = peer.deviceId)
    (now later : Time) :
    a.onRendezvousLookupResponse env groupId peer.deviceId (some u) now later =
      a.verifyAndStore env u peer.publicKey now later := by
  obtain ⟨_, _, opened, attached, found, key⟩ := equipped.membership
  obtain ⟨_, kept⟩ := Option.isSome_iff_exists.mp equipped.locator
  simp [App.onRendezvousLookupResponse, opened, kept, attached, found, key, own]

theorem equipped_after (equipped : Equipped peer groupId a) (key : Bytes) (now later : Time) :
    Equipped peer groupId (a.verifyAndStore env u key now later).2 := by
  refine ⟨equipped.membership, ?_⟩
  simp only [App.verifyAndStore]
  split
  · rw [Option.isSome_map]
    exact equipped.locator
  · exact equipped.locator

variable {session : Authenticated}

variable (answered : host.onRendezvousLookup (some session) groupId peer.deviceId = some (some u))
include answered

theorem answers_verify_iff {times : List (Time × Time)} (equipped : Equipped peer groupId a)
    (valid : ∀ t ∈ times, Delivery.Valid env peer.deviceId peer.publicKey ⟨u, t.1, t.2⟩) :
    (∀ verified ∈ asks env host session groupId peer.deviceId a times, verified = true) ↔
      Spaced (a.nonces.get u.nonce) (times.map Prod.snd) := by
  induction times generalizing a with
  | nil => simp [asks, Spaced]
  | cons t _ ih =>
    obtain ⟨now, later⟩ := t
    obtain ⟨first, rest⟩ := forall_mem_cons.mp valid
    have verdict : verifyEndpointUpdate env u peer.publicKey a.nonces now later =
        checkAndAdd a.nonces later u.nonce := valid_verdict first
    have next := ih (a := (a.verifyAndStore env u peer.publicKey now later).2)
      (equipped_after equipped _ _ _) rest
    have nonces : (a.verifyAndStore env u peer.publicKey now later).2.nonces =
        (checkAndAdd a.nonces later u.nonce).2 := by rw [← verdict]; rfl
    have passes : (a.verifyAndStore env u peer.publicKey now later).1 =
        (checkAndAdd a.nonces later u.nonce).1 := by rw [← verdict]; rfl
    simp only [asks, answered, response_verified equipped first.own, forall_mem_cons, map_cons,
      Spaced, ← check_and_add_fresh_iff, passes]
    refine and_congr_right fun passed => ?_
    rw [next, nonces, check_and_add_stores passed]

end Requester

/-! ## The update of one run -/

section Created
variable {identity : env.ed25519.PrivateKey} {kind ip : Text} {port : Int} {stamp : Time}
  {nonce : Text}

def ownSession (env : GroupEnv) (identity : env.ed25519.PrivateKey) : Authenticated :=
  ⟨env.computeDeviceId (env.ed25519.publicKey identity), env.ed25519.publicKey identity⟩

def VerifiesOwn (env : GroupEnv) (identity : env.ed25519.PrivateKey) : Prop :=
  ∀ message, env.ed25519.verify (env.ed25519.publicKey identity)
    (env.ed25519.sign identity message) message = true

theorem created_update
    (created : createEndpointUpdate env identity kind ip port stamp nonce = .ok u) :
    ∃ endpoint payload, endpointUpdateToEndpoint u = .ok endpoint ∧
      u.payload env = some payload ∧
      u = ⟨(ownSession env identity).deviceId, kind, ip, port, .finite stamp, nonce,
        Base64.encode (env.ed25519.sign identity payload)⟩ := by
  unfold createEndpointUpdate at created
  split at created
  · cases created
  · next kindValid =>
    split at created
    · cases created
    · next hostGiven =>
      split at created
      · cases created
      · next portValid =>
        dsimp only at created
        split at created
        · cases created
        · next payload packed =>
          cases created
          refine ⟨⟨(ownSession env identity).deviceId, kind, ip, port, .finite stamp⟩, payload,
            ?_, packed, rfl⟩
          simp only [endpointUpdateToEndpoint, Endpoint.make, kindValid, hostGiven, portValid,
            ↓reduceIte]
          rfl

theorem created_valid (signs : VerifiesOwn env identity)
    (created : createEndpointUpdate env identity kind ip port stamp nonce = .ok u) {now : Time}
    (fresh : Stamp.stale now (.finite stamp) = false) (later : Time) :
    Delivery.Valid env (ownSession env identity).deviceId (ownSession env identity).publicKey
      ⟨u, now, later⟩ := by
  obtain ⟨endpoint, payload, formed, packed, rfl⟩ := created_update created
  refine ⟨rfl, ⟨endpoint, formed⟩, ⟨payload, packed, ?_⟩, fresh⟩
  simp only [verifyRaw, Base64.decode_encode]
  exact signs payload

end Created

def arrivals (messages : List (Text × EndpointUpdate)) (times : List (Time × Time)) :
    List Arrival :=
  (messages.zip times).map fun p => ⟨p.1.1, p.1.2, p.2.1, p.2.2⟩

section Run
variable {messages : List (Text × EndpointUpdate)} {times : List (Time × Time)}

theorem arrival_groups (all : times.length = messages.length) :
    (arrivals messages times).map Arrival.groupId = messages.map Prod.fst := by
  have parts : (arrivals messages times).map Arrival.groupId =
      ((messages.zip times).map Prod.fst).map Prod.fst := by simp [arrivals]
  rw [parts, map_fst_zip (Nat.le_of_eq all.symm)]

theorem settings_after (host : App) (xs : List Arrival) :
    (run (registerStep env peer) host xs).groupStore = host.groupStore ∧
      (run (registerStep env peer) host xs).rendezvousActiveGroups =
        host.rendezvousActiveGroups := by
  induction xs generalizing host with
  | nil => exact ⟨rfl, rfl⟩
  | cons x _ ih =>
    obtain ⟨groups, active⟩ := register_step_settings host x
    rw [run_cons]
    exact ⟨(ih _).1.trans groups, (ih _).2.trans active⟩

theorem served_lookup {session : Authenticated} (xs : List Arrival)
    (opened : host.groupStore = some store) (served : Served host store peer.deviceId g)
    (allowed : requireActiveMember store g session.deviceId .requester = .ok ()) :
    (run (registerStep env peer) host xs).onRendezvousLookup (some session) g peer.deviceId =
      some ((run (registerStep env peer) host xs).rendezvousCache.entries.get
        (g, peer.deviceId)) := by
  have after : (run (registerStep env peer) host xs).groupStore = _ ∧ _ := settings_after host xs
  obtain ⟨groups, active⟩ := after
  have target : requireActiveMember store g peer.deviceId .target = .ok () :=
    require_active_member_ok_iff.mpr (require_active_member_ok_iff.mp served.2)
  have hosting : ¬ (g = [] ∨ g ∉ (run (registerStep env peer) host xs).rendezvousActiveGroups) := by
    rw [active]
    rintro (empty | off)
    · exact served.1.1 empty
    · exact off served.1.2
  simp only [App.onRendezvousLookup, groups.trans opened, hosting, ↓reduceIte]
  rw [lookup_of_members allowed target]
  rfl

end Run
end Shared

structure Announcement (env : GroupEnv) where
  identity : env.ed25519.PrivateKey
  member : App
  host : App
  store : GroupState
  requester : App
  session : Authenticated
  ip : Text
  port : Int
  stamp : Time
  nonce : Text
  update : EndpointUpdate
  times : List (Time × Time)
  askTimes : List (Time × Time)

namespace Announcement
variable {env : GroupEnv} {g : Text} (s : Announcement env)

def peer : Authenticated := ownSession env s.identity

def messages : List (Text × EndpointUpdate) :=
  s.member.registerWithRendezvousHosts env s.identity (some s.ip) s.port s.stamp s.nonce

def arrived : List Arrival := arrivals s.messages s.times

def served : List Text :=
  servedGroups s.host s.store s.peer.deviceId s.arrived

def servedAt : List Time := servedTimes s.host s.store s.peer.deviceId s.arrived

def after : App := run (registerStep env s.peer) s.host s.arrived

structure Regular : Prop where
  signs : VerifiesOwn env s.identity
  created : createEndpointUpdate env s.identity "direct-v4" s.ip s.port s.stamp s.nonce =
    .ok s.update
  delivered : s.times.length = s.messages.length
  opened : s.host.groupStore = some s.store
  fresh : ∀ t ∈ s.times ++ s.askTimes, Stamp.stale t.1 (.finite s.stamp) = false
  unseen : s.host.nonces.get s.nonce = none ∧ s.requester.nonces.get s.nonce = none
  new : ∀ g, s.host.rendezvousCache.entries.get (g, s.peer.deviceId) ≠ some s.update
  allowed : ∀ g ∈ s.served, requireActiveMember s.store g s.session.deviceId .requester = .ok ()
  equipped : ∀ g ∈ s.served, Equipped s.peer g s.requester

structure ServesEvery : Prop where
  found : ∀ g ∈ s.served, s.after.onRendezvousLookup (some s.session) g s.peer.deviceId =
    some (some s.update)
  usable : ∀ g ∈ s.served, ∀ verified ∈ asks env s.after s.session g s.peer.deviceId s.requester
    s.askTimes, verified = true

section Regular
variable (regular : s.Regular)
include regular

theorem messages_regular : (s.messages.map Prod.fst).Nodup ∧ ∀ m ∈ s.messages, m.2 = s.update := by
  unfold messages App.registerWithRendezvousHosts
  cases s.member.groupStore with
  | none => simp
  | some =>
    dsimp only
    split
    · simp
    · rw [regular.created]
      constructor
      · rw [map_map]
        have groups : (Prod.fst ∘ fun g : Text => (g, s.update)) = id := rfl
        rw [groups, map_id]
        exact (list_groups_distinct _).filter _
      · intro _ sent
        obtain ⟨_, _, rfl⟩ := mem_map.mp sent
        rfl

theorem update_valid {t : Time × Time} (reading : t ∈ s.times ++ s.askTimes) :
    Delivery.Valid env s.peer.deviceId s.peer.publicKey ⟨s.update, t.1, t.2⟩ :=
  created_valid regular.signs regular.created (regular.fresh t reading) t.2

theorem update_nonce : s.update.nonce = s.nonce := by
  obtain ⟨_, _, _, _, made⟩ := created_update regular.created
  rw [made]

theorem arrived_carries : ∀ x ∈ s.arrived, Carries env s.peer s.update x := by
  intro _ arrival
  obtain ⟨⟨message, _⟩, pair, rfl⟩ := mem_map.mp arrival
  obtain ⟨sent, reading⟩ := of_mem_zip pair
  have same : message.2 = s.update := (s.messages_regular regular).2 _ sent
  refine ⟨same, ?_⟩
  have valid := s.update_valid regular (mem_append_left _ reading)
  rwa [← same] at valid

theorem arrived_distinct : (s.arrived.map Arrival.groupId).Nodup := by
  rw [arrived, arrival_groups regular.delivered]
  exact (s.messages_regular regular).1

theorem found_iff (member : g ∈ s.served) :
    s.after.onRendezvousLookup (some s.session) g s.peer.deviceId = some (some s.update) ↔
      s.after.rendezvousCache.entries.get (g, s.peer.deviceId) = some s.update := by
  have served : Served s.host s.store s.peer.deviceId g := by
    simpa using (mem_filter.mp member).2
  rw [after, served_lookup s.arrived regular.opened served (regular.allowed g member),
    Option.some.injEq]

theorem all_found_iff :
    (∀ g ∈ s.served, s.after.onRendezvousLookup (some s.session) g s.peer.deviceId =
      some (some s.update)) ↔ Spaced none s.servedAt := by
  have unseen := s.update_nonce regular ▸ regular.unseen.1
  refine (forall₂_congr fun g (member : g ∈ s.served) =>
    s.found_iff regular member).trans ?_
  rw [← unseen]
  exact groups_cached_iff regular.opened (s.arrived_carries regular) (s.arrived_distinct regular)
    fun g _ => regular.new g

end Regular
end Announcement

/-- Each lookup is answered exactly if the registers that the host serves, and then the lookups,
come only after the nonce of the one before has been forgotten. -/
theorem rendezvous_serves_iff (env : GroupEnv) (s : Announcement env) (regular : s.Regular) :
    s.ServesEvery ↔ Spaced none s.servedAt ∧
      (s.served ≠ [] → Spaced none (s.askTimes.map Prod.snd)) := by
  have found := s.all_found_iff regular
  have asked {g : Text} (member : g ∈ s.served) (answered : s.after.onRendezvousLookup
      (some s.session) g s.peer.deviceId = some (some s.update)) :=
    answers_verify_iff answered (regular.equipped g member)
      fun t reading => s.update_valid regular (mem_append_right _ reading)
  rw [s.update_nonce regular, regular.unseen.2] at asked
  constructor
  · intro serves
    refine ⟨found.mp serves.found, fun some => ?_⟩
    obtain ⟨g, member⟩ := exists_mem_of_ne_nil _ some
    exact (asked member (serves.found g member)).mp (serves.usable g member)
  · rintro ⟨spaced, lookups⟩
    refine ⟨found.mpr spaced, fun g member => ?_⟩
    exact (asked member (found.mpr spaced g member)).mpr (lookups (ne_nil_of_mem member))

section Sample

def asker : Authenticated :=
  ⟨GroupEnv.sample.computeDeviceId (List.replicate 32 4), List.replicate 32 4⟩

def twoGroups : GroupState :=
  run (GroupState.step GroupEnv.sample) GroupState.start
    [.tables (.createGroup foundedGroup),
      .tables (.createGroup { foundedGroup with groupId := "h" }),
      .recordMembership (certFor announcerSession "g"),
      .recordMembership (certFor announcerSession "h"),
      .recordMembership (certFor asker "g"), .recordMembership (certFor asker "h")]

def appOf (peerId : Text) (hosted : List Text) : App :=
  ⟨peerId, some twoGroups, some LocatorStore.empty, hosted, RendezvousCache.empty⟩

def announcement (hosted : List Text) (askTimes : List (Time × Time)) :
    Announcement GroupEnv.sample where
  identity := announcer
  member := appOf announcerSession.deviceId []
  host := appOf "h" hosted
  store := twoGroups
  requester := appOf asker.deviceId []
  session := asker
  ip := "192.0.2.7"
  port := 5000
  stamp := 10
  nonce := "n"
  update := announcedWith (.finite 10) "n"
  times := [(20, 20), (20, 20)]
  askTimes := askTimes

theorem announcer_verifies : VerifiesOwn GroupEnv.sample announcer := by
  intro _
  exact (SignatureScheme.ideal_signed_iff _ _ _).mp ⟨announcer, rfl, rfl⟩

theorem one_group_known : (announcement ["g".toList] [(30, 30)]).served = ["g".toList] ∧
    (announcement ["g".toList] [(30, 30)]).servedAt = [20] ∧
    (announcement ["g".toList] [(30, 30)]).messages.length = 2 ∧ twoGroups.attached = true ∧
    requireActiveMember twoGroups "g".toList asker.deviceId .requester = .ok () ∧
    (twoGroups.database.getMembership "g".toList announcerSession.deviceId).any (fun row =>
      Base64.decode row.devicePublicKey = some announcer.val) = true := by
  decide +kernel

theorem one_group_regular : (announcement ["g"] [(30, 30)]).Regular := by
  obtain ⟨served, _, count, attached, allowed, known⟩ := one_group_known
  refine ⟨announcer_verifies, by decide +kernel, count.symm, by dsimp only [announcement, appOf],
    by decide +kernel, ⟨rfl, rfl⟩, ?_, ?_, ?_⟩
  · intro _ found
    cases found
  · rw [served]
    intro _ member
    rw [mem_singleton.mp member]
    dsimp only [announcement]
    exact allowed
  · rw [served]
    intro _ member
    rw [mem_singleton.mp member]
    obtain ⟨row, found, key⟩ := (Option.any_eq_true _ _).mp known
    refine ⟨⟨twoGroups, row, ?_, attached, found, of_decide_eq_true key⟩, rfl⟩
    dsimp only [announcement, appOf]

theorem one_group_served : (announcement ["g"] [(30, 30)]).ServesEvery := by
  have alone (t : Time) : Spaced none [t] := by simp [Spaced]
  refine (rendezvous_serves_iff GroupEnv.sample _ one_group_regular).mpr ⟨?_, fun _ => alone 30⟩
  rw [one_group_known.2.1]
  exact alone 20

theorem second_group_and_lookup_fail :
    ((announcement ["g", "h"] []).served.map fun g =>
        (announcement ["g", "h"] []).after.onRendezvousLookup (some asker) g
          announcerSession.deviceId) =
        [some (some (announcedWith (.finite 10) "n")), some none] ∧
      asks GroupEnv.sample (announcement ["g"] []).after asker "g"
        announcerSession.deviceId (appOf asker.deviceId []) [(30, 30), (40, 40)] =
          [true, false] := by
  decide +kernel

end Sample
end Peerc.Connectivity
