import Peerc.Handshake.Revocation
import Peerc.Handshake.Rotation

/-!
Revocation and rotation chains at the connection. The handshake does not use the lookup that
follows the chain, and recording a rotation asks only about the old device.
-/
namespace Peerc.Handshake
open Trust Runs Trust
variable {S : Suite}

def Event.hello : Event S → Option Hello
  | .receive _ (.frame (.init hello)) _ => some hello
  | .receive _ (.frame (.response hello _)) _ => some hello
  | _ => none

variable (d : Device S)

structure ChainSpared (e : Event S) : Prop where
  /-- A peer whose chain has a revoked device is revoked itself. -/
  peer : ∀ hello, e.hello = some hello → ∀ s, d.store = some s →
    ¬ Untainted s hello.deviceId → Revoked s hello.deviceId
  /-- Trust is carried between chains without a revoked device. -/
  rotation : ∀ cert now, e = .operate (.recordRotation cert now) → ∀ s, d.store = some s →
    Trusted s cert.oldDeviceId → ¬ Trusted s cert.newDeviceId →
      Untainted s cert.oldDeviceId ∧ Untainted s cert.newDeviceId
  /-- The chain of a peer that has been looked up is left alone until the return. -/
  inFlight : ∀ op, e = .operate op → ∀ s, d.store = some s →
    ∀ session ∈ d.sessions, ∀ peer, session.lookedUp = some peer → ¬ Touches s peer.deviceId op

structure ChainRespected (e : Event S) : Prop where
  handshake : ∀ (k : Nat) (result : HandshakeResult),
    (d.step e).sessions[k]?.bind Session.result = some result →
    d.sessions[k]?.bind Session.result = none →
    ∀ s, (d.step e).store = some s → Untainted s result.peerDeviceId
  rotation : ∀ cert now, e = .operate (.recordRotation cert now) → ∀ s, d.store = some s →
    ∀ x, ¬ Trusted s x → Trusted (step S.toPrimitives s (.recordRotation cert now)) x →
      Untainted (step S.toPrimitives s (.recordRotation cert now)) x

def Session.Clean (store : Option TrustStore) (session : Session S) : Prop :=
  ∀ peer, session.lookedUp = some peer → ∀ s, store = some s → Untainted s peer.deviceId

def Device.Clean : Prop := ∀ s ∈ d.sessions, s.Clean d.store

theorem lookup_clean {c : Conditions S} {s : TrustStore} {hello : Hello} {pre : TrustDecision}
    (checked : checkTrust c (some s) hello.deviceId hello.publicKey = .ok pre)
    (own : ¬ Untainted s hello.deviceId → Revoked s hello.deviceId) :
    Untainted s hello.deviceId := by
  by_contra tainted
  obtain ⟨row, found, status⟩ := own tainted
  obtain ⟨answer, notRevoked, notChanged⟩ := check_ok checked
  unfold TrustStore.check at answer
  rw [found] at answer
  by_cases same : row.publicKey = hello.publicKey
  · have revoked : pre = .revoked := by simpa [same, status] using answer.symm
    exact notRevoked revoked
  · have changed : pre = .keyChanged := by simpa [same] using answer.symm
    exact notChanged changed

theorem recorded_untainted {c : Conditions S} {store store' : Option TrustStore}
    {deviceId publicKey peerName : Text} {pre decision : TrustDecision}
    (recorded : Recorded c deviceId publicKey peerName store pre store' decision) {id : Text}
    (clean : ∀ s, store = some s → Untainted s id) : ∀ s, store' = some s → Untainted s id := by
  cases recorded with
  | unstored => nofun
  | @barred before _ bad =>
    rintro _ ⟨⟩
    exact clean before rfl
  | @seen before after done =>
    rintro _ ⟨⟩
    have kept : Untainted (step S.toPrimitives before (.recordFirstSeen deviceId publicKey
        (peerName.take maxPeerNameLength) c.permitted c.now)) id :=
      untainted_step (by intro touches; cases touches) (clean before rfl)
    simpa [step, done, settle] using kept
  | @touched before _ known =>
    rintro _ ⟨⟩
    have kept : Untainted (step S.toPrimitives before (.touchLastSeen deviceId c.now)) id :=
      untainted_step (by intro touches; cases touches) (clean before rfl)
    exact kept

variable {d : Device S} {e : Event S}

theorem clean_step (clean : d.Clean) (spared : ChainSpared d e) : (d.step e).Clean := by
  unfold Device.Clean
  refine step_cases d e fun sessions store signed outcome => ?_
  cases outcome with
  | idle | signedOther => exact clean
  | connected | accepted => exact all_append clean nofun
  | failed => exact all_set clean nofun
  | answered _ _ checked talk =>
    subst talk
    apply all_set clean
    rintro _ ⟨⟩ s stored
    rw [stored] at checked
    exact lookup_clean checked (spared.peer _ rfl s stored)
  | verified _ _ checked talk _ recorded =>
    subst talk
    have recorded := record_ok recorded
    apply all_set (fun s member peer lookedUp => recorded_untainted recorded
      (clean s member peer lookedUp))
    rintro _ ⟨⟩
    apply recorded_untainted recorded
    intro s stored
    rw [stored] at checked
    exact lookup_clean checked (spared.peer _ rfl s stored)
  | returned _ concludes =>
    apply all_set clean
    cases concludes with
    | failed | done => nofun
  | finished _ _ recorded concludes =>
    apply all_set (fun s member peer lookedUp => recorded_untainted (record_ok recorded)
      (clean s member peer lookedUp))
    cases concludes with
    | failed | done => nofun
  | operated op =>
    intro session member peer lookedUp _ same
    obtain ⟨before, stored, rfl⟩ := Option.map_eq_some_iff.mp same
    exact untainted_step (spared.inFlight op rfl before stored session member peer lookedUp)
      (clean session member peer lookedUp before stored)

theorem concluded_clean {id : DeviceKeypair S} {t : Talk S} {finish : Text}
    {decision : TrustDecision} {session : Session S}
    (concludes : Concludes id t finish decision session) {store : Option TrustStore}
    (clean : ∀ s, store = some s → Untainted s t.peer.deviceId) {result : HandshakeResult}
    (returns : session.result = some result) :
    ∀ s, store = some s → Untainted s result.peerDeviceId := by
  cases concludes with
  | failed => cases returns
  | done =>
    cases returns
    exact clean

theorem handshake_respects_chain (clean : d.Clean) {k : Nat}
    {result : HandshakeResult} (after : (d.step e).sessions[k]?.bind Session.result = some result)
    (before : d.sessions[k]?.bind Session.result = none) :
    ∀ s, (d.step e).store = some s → Untainted s result.peerDeviceId := by
  cases result_source after before with
  | returned found concludes returns same =>
    rw [same]
    exact concluded_clean concludes (clean _ (List.mem_of_getElem? found) _ rfl) returns
  | finished found recorded concludes returns =>
    exact concluded_clean concludes (recorded_untainted recorded
      (clean _ (List.mem_of_getElem? found) _ rfl)) returns

/-- Under the three conditions no handshake returns a peer of a tainted chain. -/
theorem revocation_taints_chain (S : Suite) (id : DeviceKeypair S) (store : Option TrustStore)
    (events : List (Event S))
    (spared : Along Device.step ChainSpared (Device.start id store) events) :
    Along Device.step ChainRespected (Device.start id store) events := by
  refine invariant_along (fun d _ (clean : d.Clean) spared => clean_step clean spared)
    ?_ nofun spared
  intro _ _ clean spared
  constructor
  · exact fun k result after before => handshake_respects_chain clean after before
  · rintro cert now rfl s stored _ before after
    exact rotation_untainted (spared.rotation cert now rfl s stored) before after

section Sample

def chainSpared (d : Device S) : Event S → Bool
  | .operate op => d.store.all (fun s =>
      (match op with
        | .recordRotation cert _ => !decide (Trusted s cert.oldDeviceId) ||
            decide (Trusted s cert.newDeviceId) || (decide (Untainted s cert.oldDeviceId) &&
              decide (Untainted s cert.newDeviceId))
        | _ => true) &&
      d.sessions.all (fun session => session.lookedUp.all (fun peer =>
        !decide (Touches s peer.deviceId op))))
  | e => e.hello.all (fun hello => d.store.all (fun s =>
      decide (Untainted s hello.deviceId) || decide (Revoked s hello.deviceId)))

theorem chain_spared (checked : chainSpared d e = true) :
    ChainSpared d e := by
  constructor
  · intro _ named _ stored tainted
    cases e with
    | operate => cases named
    | _ => simpa [chainSpared, named, stored, tainted] using checked
  · rintro _ _ rfl _ stored trusted untrusted
    simp only [chainSpared, stored, Option.all_some, trusted, untrusted, decide_true, decide_false,
      Bool.not_true, Bool.false_or, Bool.and_eq_true, decide_eq_true_eq] at checked
    exact checked.1
  · rintro _ rfl _ stored session member _ lookedUp
    simp only [chainSpared, stored, Option.all_some, Bool.and_eq_true, List.all_eq_true] at checked
    simpa [lookedUp] using checked.2 session member

def returnsTainted (d : Device S) (e : Event S) (k : Nat) (old : Text) : Bool :=
  match (d.step e).sessions[k]?.bind Session.result, d.sessions[k]?.bind Session.result,
    (d.step e).store with
  | some result, none, some s =>
      decide (Revoked s old) && decide (Rotated s old result.peerDeviceId)
  | _, _, _ => false

theorem tainted_of_rotated {s : TrustStore} {a b : Text} (edge : Rotated s a b)
    {x : Text} (path : SameComponent s a x) (revoked : Revoked s x) : ¬ Untainted s b :=
  fun clean => clean x (Relation.ReflTransGen.head (.inr edge) path) revoked

theorem tainted_return {k : Nat} {old : Text}
    (tainted : returnsTainted d e k old = true) : ¬ ChainRespected d e := by
  intro respected
  unfold returnsTainted at tainted
  split at tainted
  · rename_i result s after before stored
    simp only [Bool.and_eq_true, decide_eq_true_eq] at tainted
    exact tainted_of_rotated tainted.2 Relation.ReflTransGen.refl tainted.1
      (respected.handshake k result after before s stored)
  · cases tainted

def carl : DeviceKeypair (Suite.sample id) := ⟨⟨List.replicate 32 5, rfl⟩⟩

def dave : DeviceKeypair (Suite.sample id) := ⟨⟨List.replicate 32 6, rfl⟩⟩

def carlSeen : TrustOp :=
  .recordFirstSeen carl.deviceId (Hex.encode carl.publicKeyBytes) [] (fun _ => true) 1

def carlToAnn : TrustOp := .recordRotation (signTransition carl (ann id) 2) 2

def carlRevoked : TrustOp := .revoke carl.deviceId (bob id).deviceId none 3

def annToDave : TrustOp := .recordRotation (signTransition (ann id) dave 4) 4

def daveSeen : TrustOp :=
  .recordFirstSeen dave.deviceId (Hex.encode dave.publicKeyBytes) [] (fun _ => true) 3

/-- Carl's rotation to Ann is recorded and Ann connects while a device of no chain is revoked;
then both ends are revoked and Ann comes again. -/
def chainRevoked : List (Event (Suite.sample id)) :=
  [annSeen, .operate carlSeen, .operate (.approve carl.deviceId), .operate carlToAnn, .accept,
    annInit, .operate daveSeen, .operate (.revoke dave.deviceId (bob id).deviceId none 3), annDone,
    .operate carlRevoked, annRevoked, .accept,
    .receive 1 (.frame (.init ((ann id).hello ⟨⟨List.replicate 32 7, rfl⟩, "n3", "ann"⟩)))
      (.sample 5 (bobOwn id))]

def Session.error : Session S → Option HandshakeError
  | .failed _ error => some error
  | _ => none

theorem revoked_chain_refused : Along Device.step ChainSpared bobStart chainRevoked ∧
    Along Device.step ChainRespected bobStart chainRevoked ∧
    ∃ s ∈ (run Device.step bobStart chainRevoked).store,
      SameComponent s (ann id).deviceId carl.deviceId ∧ ¬ Untainted s (ann id).deviceId ∧
      (run Device.step bobStart chainRevoked).sessions.map (fun session =>
        (session.result.map HandshakeResult.peerDeviceId, session.error)) =
          [(some (ann id).deviceId, none), (none, some .deviceRevoked)] := by
  have checked : Along Device.step (fun d e => chainSpared d e = true) bobStart chainRevoked := by
    decide +kernel
  have spared := along_mono (fun _ _ => chain_spared) checked
  refine ⟨spared, revocation_taints_chain _ (bob id) (some TrustStore.empty) _ spared, ?_⟩
  decide +kernel

theorem store_of_operations (d : Device S) (ops : List TrustOp) :
    (run Device.step d (ops.map Event.operate)).store =
      d.store.map (fun s => run (step S.toPrimitives) s ops) := by
  induction ops generalizing d with
  | nil => simp [run]
  | cons _ _ ih =>
    rw [List.map_cons, run_cons, ih]
    simp [Device.step, Function.comp_def]

def approvedChain : TrustStore :=
  run (step (Suite.sample id).toPrimitives) TrustStore.empty
    [carlSeen, .approve carl.deviceId, carlToAnn, carlRevoked]

theorem chain_carries_on :
    (¬ Trusted approvedChain dave.deviceId ∧ Trusted (step (Suite.sample id).toPrimitives
        approvedChain annToDave) dave.deviceId) ∧
      Rotated (step (Suite.sample id).toPrimitives approvedChain annToDave)
        (ann id).deviceId dave.deviceId ∧
      SameComponent (step (Suite.sample id).toPrimitives approvedChain annToDave)
        (ann id).deviceId carl.deviceId ∧
      Revoked (step (Suite.sample id).toPrimitives approvedChain annToDave)
        carl.deviceId := by
  decide +kernel

theorem tainted_chain_connects_and_carries :
    ¬ Along Device.step ChainRespected bobStart ([.operate carlSeen, .operate carlToAnn,
        .operate carlRevoked, .accept, annInit] ++ [annDone]) ∧
      ¬ Along Device.step ChainRespected bobStart ([carlSeen, .approve carl.deviceId, carlToAnn,
        carlRevoked].map Event.operate ++ [.operate annToDave]) := by
  constructor
  · intro along
    have tainted : returnsTainted (run Device.step bobStart [.operate carlSeen, .operate carlToAnn,
        .operate carlRevoked, .accept, annInit]) annDone 0 carl.deviceId = true := by
      decide +kernel
    exact tainted_return tainted (along_at along)
  · intro along
    have respected := along_at along
    have stored := store_of_operations bobStart
      [carlSeen, .approve carl.deviceId, carlToAnn, carlRevoked]
    obtain ⟨⟨before, after⟩, edge, path, revoked⟩ := chain_carries_on
    exact tainted_of_rotated edge path revoked
      (respected.rotation _ _ rfl approvedChain stored _ before after)

end Sample
end Peerc.Handshake
