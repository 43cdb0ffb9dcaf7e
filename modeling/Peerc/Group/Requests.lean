import Peerc.Group.Database

/-!
The requests a device signs with its own key. The verifier of an export request does not
compare the key it carries with the device_id it names.
-/
namespace Peerc.Groups
open Base64

structure ExportRequest where
  requestId : Text
  deviceId : Text
  devicePublicKey : Option Text
  groupId : Text
  fileId : Text
  action : Text
  timestamp : Time
  reason : Option Text
  signature : Option Text
  deriving DecidableEq

structure GroupJoinRequest where
  requestId : Text
  groupId : Text
  deviceId : Text
  devicePublicKey : Text
  requestedRole : Text
  requestedPermissions : List Text
  reason : Option Text
  timestamp : Time
  signature : Text
  deriving DecidableEq

section Verifiers
variable (env : GroupEnv) (r : ExportRequest)

def ExportRequest.canonicalPayload : Option Bytes := do
  let place ← packFields [utf8 r.requestId, utf8 r.deviceId, utf8 r.groupId, utf8 r.fileId,
    utf8 r.action]
  let reason ← packFields [utf8 (orEmpty r.reason)]
  some (utf8 "peerc-group-export-request\x00" ++ place ++ env.packDouble r.timestamp ++ reason)

def verifyExportRequest : Bool :=
  match r.signature, r.devicePublicKey with
  | some signature, some publicKey =>
      match decode publicKey, r.canonicalPayload env with
      | some key, some payload => verifyRaw env key signature payload
      | _, _ => false
  | _, _ => false

def GroupJoinRequest.payload (r : GroupJoinRequest) : Bytes :=
  jsonPayload "peerc-group-join-request\x00" [("request_id", textValue r.requestId),
    ("group_id", textValue r.groupId), ("device_id", textValue r.deviceId),
    ("device_public_key", textValue r.devicePublicKey),
    ("requested_role", textValue r.requestedRole),
    ("requested_permissions",
      .array ((r.requestedPermissions.insertionSort (· ≤ ·)).map textValue)),
    ("reason", optionalText r.reason), ("timestamp", timeValue env r.timestamp)]

def verifyJoinRequest (r : GroupJoinRequest) : Bool :=
  match decode r.devicePublicKey with
  | some key =>
      env.computeDeviceId key = r.deviceId && verifyRaw env key r.signature (r.payload env)
  | none => false

/-- The requests an administrator has been shown, under the text they are confirmed with. -/
abbrev PendingExports := Dict Text (Text × ExportRequest)

def ExportRequest.pendingKey : Text :=
  r.groupId ++ ':' :: (r.deviceId ++ ':' :: r.fileId)

def onGroupExportRequest (store : Option GroupState) (peerId : Text) (pending : PendingExports)
    (addrKey : Text) (r : ExportRequest) : PendingExports :=
  match store with
  | none => pending
  | some store =>
      if ¬ verifyExportRequest env r then pending
      else if store.attached && store.database.isAdmin r.groupId peerId then
        pending.set r.pendingKey (addrKey, r)
      else pending

def ProducedBy (deviceId signature : Text) (payload : Bytes) : Prop :=
  ∃ key, env.computeDeviceId (env.ed25519.publicKey key) = deviceId ∧
    decode signature = some (env.ed25519.sign key payload) ∧
    ∀ other, env.computeDeviceId (env.ed25519.publicKey other) = deviceId →
      env.ed25519.publicKey other = env.ed25519.publicKey key

/-- The key it carries, if its signature was made with that one, is the key device_id names. -/
def ExportRequest.NamesItsKey : Prop :=
  ∀ publicKey key signature raw payload, r.devicePublicKey = some publicKey →
    decode publicKey = some key → r.signature = some signature → decode signature = some raw →
      r.canonicalPayload env = some payload → env.ed25519.Signed key raw payload →
        env.computeDeviceId key = r.deviceId

end Verifiers

section Bound
variable {env : GroupEnv}

theorem produced_of_verified (unforgeable : env.ed25519.Unforgeable)
    (collisionFree : Function.Injective env.sha256) {key : Bytes} {deviceId signature : Text}
    {payload : Bytes} (named : env.computeDeviceId key = deviceId)
    (verified : verifyRaw env key signature payload = true) :
    ProducedBy env deviceId signature payload := by
  obtain ⟨_, decoded, owner, rfl, rfl⟩ := verify_raw_signed unforgeable verified
  refine ⟨owner, named, decoded, ?_⟩
  intro _ sameId
  exact collisionFree (sameId.trans named.symm)

theorem export_request_verified {r : ExportRequest} (verified : verifyExportRequest env r = true) :
    ∃ signature publicKey key payload, r.signature = some signature ∧
      r.devicePublicKey = some publicKey ∧ decode publicKey = some key ∧
      r.canonicalPayload env = some payload ∧ verifyRaw env key signature payload = true := by
  unfold verifyExportRequest at verified
  split at verified
  · next signature publicKey signed carried =>
    split at verified
    · next key payload decoded packed =>
      exact ⟨signature, publicKey, key, payload, signed, carried, decoded, packed, verified⟩
    · cases verified
  · cases verified

theorem join_request_verified {r : GroupJoinRequest} (verified : verifyJoinRequest env r = true) :
    ∃ key, decode r.devicePublicKey = some key ∧ env.computeDeviceId key = r.deviceId ∧
      verifyRaw env key r.signature (r.payload env) = true := by
  unfold verifyJoinRequest at verified
  split at verified
  · next key decoded =>
    rw [Bool.and_eq_true, decide_eq_true_eq] at verified
    exact ⟨key, decoded, verified⟩
  · cases verified

end Bound

/-- Verified requests are the named device's; for exports if and only if they name their key. -/
theorem verified_requests_bound (env : GroupEnv) (unforgeable : env.ed25519.Unforgeable)
    (complete : ∀ k msg, env.ed25519.verify (env.ed25519.publicKey k) (env.ed25519.sign k msg) msg =
      true)
    (exclusive : ∀ k k' msg, env.ed25519.sign k msg = env.ed25519.sign k' msg →
      env.ed25519.publicKey k = env.ed25519.publicKey k')
    (collisionFree : Function.Injective env.sha256) :
    (∀ r : ExportRequest, (verifyExportRequest env r = true →
      ∃ signature payload, r.signature = some signature ∧ r.canonicalPayload env = some payload ∧
        ProducedBy env r.deviceId signature payload) ↔ r.NamesItsKey env) ∧
    (∀ r : GroupJoinRequest, verifyJoinRequest env r = true →
      ProducedBy env r.deviceId r.signature (r.payload env)) ∧
    (∀ (r : GroupLeaveRequest) (memberPublicKey : Bytes),
      verifyLeaveRequest env r memberPublicKey = true →
      ProducedBy env r.deviceId r.signature (r.payload env)) := by
  refine ⟨?_, ?_, ?_⟩
  · intro r
    constructor
    · rintro bound publicKey _ signature _ payload carried decoded signed made packed ⟨k, rfl, rfl⟩
      have verified : verifyExportRequest env r = true := by
        simp [verifyExportRequest, signed, carried, decoded, packed, verifyRaw, made, complete]
      obtain ⟨_, _, signed', packed', owner, named, made', _⟩ := bound verified
      cases signed.symm.trans signed'
      cases packed.symm.trans packed'
      rw [exclusive k owner payload (Option.some.inj (made.symm.trans made')), named]
    · intro named verified
      obtain ⟨signature, publicKey, key, payload, signed, carried, decoded, packed, valid⟩ :=
        export_request_verified verified
      obtain ⟨raw, made, by_⟩ := verify_raw_signed unforgeable valid
      have identity := named publicKey key signature raw payload carried decoded signed made packed
        by_
      exact ⟨signature, payload, signed, packed,
        produced_of_verified unforgeable collisionFree identity valid⟩
  · intro _ verified
    obtain ⟨_, _, identity, valid⟩ := join_request_verified verified
    exact produced_of_verified unforgeable collisionFree identity valid
  · intro _ _ verified
    unfold verifyLeaveRequest at verified
    rw [Bool.and_eq_true, decide_eq_true_eq] at verified
    exact produced_of_verified unforgeable collisionFree verified.1 verified.2

section Sample

def requestEnv : GroupEnv := { GroupEnv.sample with sha256 := Hex.encode }

theorem request_digest_injective : Function.Injective requestEnv.sha256 := by
  intro a b same
  have read := congrArg Hex.decode same
  change Hex.decode (Hex.encode a) = Hex.decode (Hex.encode b) at read
  rw [Hex.decode_encode, Hex.decode_encode] at read
  exact Option.some.inj read

def ownerKeyBytes : Bytes := List.replicate 32 1

def intruderKeyBytes : Bytes := List.replicate 32 2

def exportRequestBy (key : Bytes) : ExportRequest :=
  let unsigned : ExportRequest := ⟨"r", Hex.encode ownerKeyBytes, some (encode key),
    "g", "f", "EXPORT", 1, none, none⟩
  let signature := (unsigned.canonicalPayload requestEnv).map fun p => encode (key ++ p)
  { unsigned with signature := signature }

def requestedStore : GroupState :=
  GroupState.start.step requestEnv
    (.tables (.createGroup ⟨"g", "n", "a", encode ownerKeyBytes, 1⟩))

theorem owner_request_bound :
    verifyExportRequest requestEnv (exportRequestBy ownerKeyBytes) = true ∧
    ∃ signature payload, (exportRequestBy ownerKeyBytes).signature = some signature ∧
      (exportRequestBy ownerKeyBytes).canonicalPayload requestEnv = some payload ∧
      ProducedBy requestEnv (Hex.encode ownerKeyBytes) signature payload := by
  have verified : verifyExportRequest requestEnv (exportRequestBy ownerKeyBytes) = true := by
    decide +kernel
  have named : (exportRequestBy ownerKeyBytes).NamesItsKey requestEnv := by
    intro _ _ _ _ _ carried decoded _ _ _ _
    cases carried
    rw [decode_encode] at decoded
    cases decoded
    rfl
  have complete (k : {k : Bytes // k.length = 32}) (msg : Bytes) :
      SignatureScheme.ideal.verify k.val (k.val ++ msg) msg = true := by
    simp [SignatureScheme.ideal, k.property]
  have exclusive (k k' : {k : Bytes // k.length = 32}) (msg : Bytes)
      (same : k.val ++ msg = k'.val ++ msg) : k.val = k'.val := List.append_cancel_right same
  exact ⟨verified, ((verified_requests_bound requestEnv SignatureScheme.ideal_unforgeable complete
    exclusive request_digest_injective).1 _).mpr named verified⟩

theorem intruder_request_verifies :
    verifyExportRequest requestEnv (exportRequestBy intruderKeyBytes) = true ∧
    ∃ signature payload, (exportRequestBy intruderKeyBytes).signature = some signature ∧
      (exportRequestBy intruderKeyBytes).canonicalPayload requestEnv = some payload ∧
      ¬ ProducedBy requestEnv (exportRequestBy intruderKeyBytes).deviceId signature payload ∧
      (onGroupExportRequest requestEnv (some requestedStore) "a" Dict.empty "x"
        (exportRequestBy intruderKeyBytes)).get (exportRequestBy intruderKeyBytes).pendingKey =
          some ("x".toList, exportRequestBy intruderKeyBytes) := by
  refine ⟨by decide +kernel, ?_⟩
  obtain ⟨payload, packed⟩ : ∃ payload,
      (exportRequestBy intruderKeyBytes).canonicalPayload requestEnv = some payload :=
    Option.isSome_iff_exists.mp (by decide +kernel)
  have filed : (exportRequestBy intruderKeyBytes).signature =
      ((exportRequestBy intruderKeyBytes).canonicalPayload requestEnv).map
        (fun p => encode (intruderKeyBytes ++ p)) := rfl
  rw [packed, Option.map_some] at filed
  refine ⟨_, payload, filed, packed, ?_, by decide +kernel⟩
  rintro ⟨key, named, made, _⟩
  rw [decode_encode] at made
  have same : intruderKeyBytes = key.val := List.append_cancel_right (Option.some.inj made)
  change Hex.encode key.val = Hex.encode ownerKeyBytes at named
  rw [← same] at named
  exact absurd named (by decide)

end Sample
end Peerc.Groups
