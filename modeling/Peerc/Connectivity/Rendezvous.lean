import Peerc.Connectivity.EndpointUpdate
import Peerc.Group.Database

/-!
The rendezvous cache of a host and the locator store of a device. What is written later
replaces what was there. The time at which an entry was cached is left out; nothing reads it.
-/
namespace Peerc.Connectivity
open Groups Handshake

inductive MemberRole where
  | sender
  | requester
  | target
  deriving DecidableEq

inductive RendezvousError where
  | auth (role : MemberRole) (deviceId groupId : Text)
  | signature (deviceId groupId : Text)
  | deviceIdMismatch (deviceId authenticatedDeviceId : Text)
  /-- The store is detached; not one of the module's own errors. -/
  | storeRaised
  deriving DecidableEq

structure RendezvousCache where
  entries : Dict (Text × Text) EndpointUpdate
  nonceCache : Dict Text Time

def requireActiveMember (groupStore : GroupState) (groupId deviceId : Text) (role : MemberRole) :
    Except RendezvousError Unit :=
  if ¬ groupStore.attached then .error .storeRaised
  else if groupStore.database.getMembershipStatus groupId deviceId ≠ some .active then
    .error (.auth role deviceId groupId)
  else .ok ()

namespace RendezvousCache

def empty : RendezvousCache := ⟨Dict.empty, Dict.empty⟩

/-- With the cache afterwards; `now` and `later` are the two readings of the clock. -/
def register (env : GroupEnv) (c : RendezvousCache) (groupId authenticatedDeviceId : Text)
    (update : EndpointUpdate) (senderPublicKey : Bytes) (groupStore : GroupState)
    (now later : Time) : Except RendezvousError Unit × RendezvousCache :=
  if update.deviceId ≠ authenticatedDeviceId then
    (.error (.deviceIdMismatch update.deviceId authenticatedDeviceId), c)
  else
    match requireActiveMember groupStore groupId authenticatedDeviceId .sender with
    | .error e => (.error e, c)
    | .ok () =>
        match verifyEndpointUpdate env update senderPublicKey c.nonceCache now later with
        | (false, nonces) => (.error (.signature update.deviceId groupId), ⟨c.entries, nonces⟩)
        | (true, nonces) =>
            (.ok (), ⟨c.entries.set (groupId, update.deviceId) update, nonces⟩)

def lookup (c : RendezvousCache) (groupId requesterDeviceId targetDeviceId : Text)
    (groupStore : GroupState) : Except RendezvousError (Option EndpointUpdate) := do
  requireActiveMember groupStore groupId requesterDeviceId .requester
  requireActiveMember groupStore groupId targetDeviceId .target
  return c.entries.get (groupId, targetDeviceId)

end RendezvousCache

/-! ## The locator store -/

structure Endpoint where
  deviceId : Text
  kind : Text
  host : Text
  port : Int
  updatedAt : Stamp
  deriving DecidableEq

inductive LocatorError where
  | invalidKind (kind : Text)
  | missingHost
  | invalidPort (port : Int)
  /-- updated_at REAL NOT NULL: a nan is stored as NULL. -/
  | notNull
  | storeRaised
  deriving DecidableEq

/-- Endpoint(...) with the checks of __post_init__. -/
def Endpoint.make (deviceId kind host : Text) (port : Int) (updatedAt : Stamp) :
    Except LocatorError Endpoint :=
  if kind ∉ validKinds then .error (.invalidKind kind)
  else if host = [] then .error .missingHost
  else if ¬ (0 < port ∧ port ≤ 65535) then .error (.invalidPort port)
  else .ok ⟨deviceId, kind, host, port, updatedAt⟩

def endpointUpdateToEndpoint (update : EndpointUpdate) : Except LocatorError Endpoint :=
  Endpoint.make update.deviceId update.kind update.host update.port update.timestamp

abbrev EndpointKey := Text × Text × Text × Int

def Endpoint.key (e : Endpoint) : EndpointKey := (e.deviceId, e.kind, e.host, e.port)

def EndpointUpdate.key (u : EndpointUpdate) : EndpointKey := (u.deviceId, u.kind, u.host, u.port)

structure LocatorStore where
  endpoints : Dict EndpointKey Stamp
  attached : Bool

namespace LocatorStore

def empty : LocatorStore := ⟨Dict.empty, true⟩

def upsertEndpoint (s : LocatorStore) (e : Endpoint) : Except LocatorError LocatorStore :=
  if ¬ s.attached then .error .storeRaised
  else if e.updatedAt = .nan then .error .notNull
  else .ok { s with endpoints := s.endpoints.set e.key e.updatedAt }

def record (s : LocatorStore) (update : EndpointUpdate) : LocatorStore :=
  match endpointUpdateToEndpoint update with
  | .error _ => s
  | .ok endpoint =>
      match s.upsertEndpoint endpoint with
      | .error _ => s
      | .ok t => t

end LocatorStore

/-! ## The handlers of the app -/

structure Authenticated where
  deviceId : Text
  publicKey : Bytes

structure App where
  peerId : Text
  groupStore : Option GroupState
  locatorStore : Option LocatorStore
  rendezvousActiveGroups : List Text
  rendezvousCache : RendezvousCache

namespace App

def nonces (a : App) : Dict Text Time := a.rendezvousCache.nonceCache

def verifyAndStore (env : GroupEnv) (a : App) (update : EndpointUpdate) (publicKey : Bytes)
    (now later : Time) : Bool × App :=
  let verdict := verifyEndpointUpdate env update publicKey a.nonces now later
  (verdict.1,
    { a with
      rendezvousCache := ⟨a.rendezvousCache.entries, verdict.2⟩
      locatorStore := if verdict.1 then a.locatorStore.map (·.record update) else a.locatorStore })

def onEndpointUpdate (env : GroupEnv) (a : App) (session : Option Authenticated)
    (update : EndpointUpdate) (now later : Time) : App :=
  match a.locatorStore, session with
  | some _, some peer =>
      if update.deviceId ≠ peer.deviceId then a
      else (a.verifyAndStore env update peer.publicKey now later).2
  | _, _ => a

/-- The groups and the update of the messages to a peer; stamp and nonce are drawn once for all. -/
def registerWithRendezvousHosts (env : GroupEnv) (a : App) (identity : env.ed25519.PrivateKey)
    (localIp : Option Text) (port : Int) (timestamp : Time) (nonce : Text) :
    List (Text × EndpointUpdate) :=
  match a.groupStore, localIp with
  | some store, some ip =>
      if ¬ store.attached then []
      else
        match createEndpointUpdate env identity "direct-v4" ip port timestamp nonce with
        | .error _ => []
        | .ok update =>
            ((store.database.listGroups.map Group.groupId).filter fun g =>
              store.database.getMembershipStatus g a.peerId = some .active).map (·, update)
  | _, _ => []

def onRendezvousRegister (env : GroupEnv) (a : App) (session : Option Authenticated)
    (groupId : Text) (update : EndpointUpdate) (now later : Time) : App :=
  match a.groupStore, session with
  | some store, some peer =>
      if groupId = [] ∨ groupId ∉ a.rendezvousActiveGroups then a
      else
        { a with
          rendezvousCache := (a.rendezvousCache.register env groupId peer.deviceId update
            peer.publicKey store now later).2 }
  | _, _ => a

def onRendezvousLookup (a : App) (session : Option Authenticated) (groupId target : Text) :
    Option (Option EndpointUpdate) :=
  match a.groupStore, session with
  | some store, some peer =>
      if groupId = [] ∨ groupId ∉ a.rendezvousActiveGroups then none
      else (a.rendezvousCache.lookup groupId peer.deviceId target store).toOption
  | _, _ => none

def onRendezvousLookupResponse (env : GroupEnv) (a : App) (groupId target : Text)
    (answer : Option EndpointUpdate) (now later : Time) : Bool × App :=
  match answer, a.groupStore, a.locatorStore with
  | some update, some store, some _ =>
      if ¬ store.attached then (false, a)
      else
        match store.database.getMembership groupId target with
        | none => (false, a)
        | some membership =>
            match Base64.decode membership.devicePublicKey with
            | none => (false, a)
            | some targetPublicKey =>
                if update.deviceId ≠ target then (false, a)
                else a.verifyAndStore env update targetPublicKey now later
  | _, _, _ => (false, a)

end App

/-! ## What the operations do to the entries -/

section Entries
variable {env : GroupEnv} {c : RendezvousCache} {g d : Text} {u : EndpointUpdate} {key : Bytes}
  {store : GroupState} {now later : Time}

theorem require_active_member_ok_iff {role : MemberRole} :
    requireActiveMember store g d role = .ok () ↔
      store.attached = true ∧ store.database.getMembershipStatus g d = some .active := by
  unfold requireActiveMember
  split
  · next detached => simp [detached]
  · next attached =>
    split
    · next outside => simp [outside]
    · next member => exact ⟨fun _ => ⟨not_not.mp attached, not_not.mp member⟩, fun _ => rfl⟩

theorem register_of_member (own : u.deviceId = d)
    (member : requireActiveMember store g d .sender = .ok ()) :
    c.register env g d u key store now later =
      match verifyEndpointUpdate env u key c.nonceCache now later with
      | (false, nonces) => (.error (.signature u.deviceId g), ⟨c.entries, nonces⟩)
      | (true, nonces) => (.ok (), ⟨c.entries.set (g, u.deviceId) u, nonces⟩) := by
  simp [RendezvousCache.register, own, ↓reduceIte, member]

theorem registered_cache (own : u.deviceId = d)
    (member : requireActiveMember store g d .sender = .ok ()) :
    (c.register env g d u key store now later).2 =
      ⟨if (verifyEndpointUpdate env u key c.nonceCache now later).1 then c.entries.set (g, d) u
        else c.entries, (verifyEndpointUpdate env u key c.nonceCache now later).2⟩ := by
  subst own
  rw [register_of_member rfl member]
  generalize verifyEndpointUpdate env u key c.nonceCache now later = verdict
  obtain ⟨passed, _⟩ := verdict
  cases passed <;> rfl

theorem lookup_of_members {target : Text}
    (requester : requireActiveMember store g d .requester = .ok ())
    (member : requireActiveMember store g target .target = .ok ()) :
    c.lookup g d target store = .ok (c.entries.get (g, target)) := by
  simp only [RendezvousCache.lookup, requester, member]
  rfl

theorem made_endpoint {endpoint : Endpoint} (made : endpointUpdateToEndpoint u = .ok endpoint) :
    endpoint = ⟨u.deviceId, u.kind, u.host, u.port, u.timestamp⟩ := by
  unfold endpointUpdateToEndpoint Endpoint.make at made
  split at made
  · cases made
  · split at made
    · cases made
    · split at made
      · cases made
      · exact (Except.ok.inj made).symm

theorem record_stores {s : LocatorStore} (attached : s.attached = true) {endpoint : Endpoint}
    (made : endpointUpdateToEndpoint u = .ok endpoint) : s.record u = if u.timestamp = .nan then s
      else ⟨s.endpoints.set u.key u.timestamp, s.attached⟩ := by
  cases made_endpoint made
  by_cases nan : u.timestamp = .nan
  · simp [LocatorStore.record, made, LocatorStore.upsertEndpoint, attached, nan]
  · simp only [LocatorStore.record, made, LocatorStore.upsertEndpoint, attached, nan,
      not_true_eq_false, ↓reduceIte]
    rfl

end Entries
end Peerc.Connectivity
