import Peerc.Handshake.Transcript
import Peerc.Trust.Store

/-!
The handshake as a device runs it: any number of sessions in either role over one identity key,
one trust store and one nonce cache. What happens between two awaits is one step.
-/
namespace Peerc.Handshake
open Trust

/-- X25519: `exchange` has no result where the library raises. -/
structure KeyExchange where
  PrivateKey : Type
  publicKey : PrivateKey → Bytes
  exchange : PrivateKey → Bytes → Option Bytes

structure Suite extends Primitives where
  digest : Bytes → Bytes
  hexDigest : ∀ data, sha256 data = Hex.encode (digest data)
  x25519 : KeyExchange
  hkdf : Bytes → Bytes → Bytes → Nat → Bytes

variable {S : Suite}

structure DeviceKeypair (S : Suite) where
  privateKey : S.ed25519.PrivateKey

namespace DeviceKeypair

variable (id : DeviceKeypair S)

def publicKeyBytes : Bytes := S.ed25519.publicKey id.privateKey

def deviceId : Text := S.sha256 id.publicKeyBytes

def sign (data : Bytes) : Bytes := S.ed25519.sign id.privateKey data

end DeviceKeypair

inductive HandshakeError where
  | timedOut
  | unreadable
  | invalid
  | unexpected
  | replayed
  | identity
  | signature
  | deviceRevoked
  | keyChanged
  | ephemeralKey
  | trust (e : TrustError)
  /-- An exception of a library or of the connection, not one of the module's own. -/
  | raised
  deriving DecidableEq

inductive Frame where
  | init (hello : Hello)
  | response (hello : Hello) (signature : Text)
  | finish (signature : Text)
  deriving DecidableEq

def Hello.valid (h : Hello) : Bool :=
  h.deviceId ≠ [] && h.publicKey ≠ [] && h.ephemeralKey ≠ [] && h.nonce ≠ []

/-- validate_message on the fields a handshake reads. -/
def Frame.valid : Frame → Bool
  | .init h => h.valid
  | .response h sig => h.valid && sig ≠ []
  | .finish sig => sig ≠ []

inductive Incoming where
  | frame (f : Frame)
  | timedOut
  | unreadable
  deriving DecidableEq

def readMessage : Incoming → Except HandshakeError Frame
  | .frame f => if f.valid then .ok f else .error .invalid
  | .timedOut => .error .timedOut
  | .unreadable => .error .unreadable

structure Own (S : Suite) where
  ephemeral : S.x25519.PrivateKey
  nonce : Text
  name : Text

inductive Role where
  | initiator | responder
  deriving DecidableEq

/-- The signature is the text of the response as sent or as received. -/
structure Talk (S : Suite) where
  role : Role
  own : Own S
  peer : Hello
  responseSignature : Text

structure HandshakeResult where
  peerDeviceId : Text
  peerPublicKey : Text
  peerName : Text
  sharedSecret : Bytes
  transcriptHash : Bytes
  trustDecision : TrustDecision
  deriving DecidableEq

inductive Session (S : Suite) where
  | awaitResponse (own : Own S)
  /-- The finish is written and not yet drained. -/
  | draining (talk : Talk S) (finish : Text) (decision : TrustDecision)
  | awaitInit
  | awaitFinish (talk : Talk S) (peerKey : Bytes) (decision : TrustDecision)
  | done (talk : Talk S) (finish : Text) (result : HandshakeResult)
  | failed (talk : Option (Talk S)) (error : HandshakeError)

def Session.talk : Session S → Option (Talk S)
  | .awaitResponse _ | .awaitInit => none
  | .draining t _ _ | .awaitFinish t _ _ | .done t _ _ => some t
  | .failed t _ => t

def Session.result : Session S → Option HandshakeResult
  | .done _ _ result => some result
  | _ => none

structure Device (S : Suite) where
  identity : DeviceKeypair S
  store : Option TrustStore
  cache : Dict Text Time
  sessions : List (Session S)
  signed : List Bytes
  sent : List (Nat × Frame)

structure Conditions (S : Suite) where
  now : Time
  permitted : Text → Bool
  readFails : Bool
  writeFails : Bool
  own : Own S

def nonceTtl : Time := 300

def checkAndAdd (cache : Dict Text Time) (now : Time) (nonce : Text) : Bool × Dict Text Time :=
  let live : Dict Text Time := cache.delete (fun e => decide (nonceTtl < now - e.2))
  if (live.get nonce).isSome then (false, live) else (true, live.set nonce now)

def verifyDeviceIdentity (S : Suite) (deviceId publicKey : Text) : Except HandshakeError Bytes :=
  match Hex.decode publicKey with
  | none => .error .identity
  | some key => if S.sha256 key = deviceId then .ok key else .error .identity

variable (c : Conditions S) (store : Option TrustStore)

def checkTrust (deviceId publicKey : Text) : Except HandshakeError TrustDecision :=
  match store with
  | none => .ok .unknown
  | some s =>
      if c.readFails then .error .raised
      else match s.check deviceId publicKey with
        | .revoked => .error .deviceRevoked
        | .keyChanged => .error .keyChanged
        | decision => .ok decision

def maxPeerNameLength : Nat := 64

def recordTrust (deviceId publicKey peerName : Text) (decision : TrustDecision) :
    Except HandshakeError (Option TrustStore × TrustDecision) :=
  match store with
  | none => .ok (none, decision)
  | some s =>
      match decision with
      | .unknown =>
          if c.writeFails then .error .raised
          else match s.recordFirstSeen deviceId publicKey (peerName.take maxPeerNameLength)
              c.permitted c.now with
            | .ok t => .ok (some t, .pending)
            | .error e => .error (.trust e)
      | .pending | .trusted =>
          if c.writeFails then .error .raised
          else .ok (some (s.touchLastSeen deviceId c.now), decision)
      | .keyChanged | .revoked => .ok (some s, decision)

/-- public_key_from_bytes outside the try, then fromhex and verify inside it. -/
def verifySignature (S : Suite) (key : Bytes) (signature : Text) (transcript : Bytes) :
    Except HandshakeError Unit :=
  if key.length ≠ 32 then .error .raised
  else
    match Hex.decode signature with
    | none => .error .signature
    | some raw => if S.ed25519.verify key raw transcript then .ok () else .error .signature

def computeSharedSecret (own : Own S) (peerEphemeral : Text) : Except HandshakeError Bytes :=
  match Hex.decode peerEphemeral with
  | none => .error .ephemeralKey
  | some raw =>
      if raw.length ≠ 32 then .error .ephemeralKey
      else match S.x25519.exchange own.ephemeral raw with
        | none => .error .raised
        | some secret => .ok secret

def computeFinalTranscriptHash (S : Suite) (initiatorTranscript : Bytes)
    (initiatorSignature : Text) : Bytes :=
  S.digest (finalTranscript initiatorTranscript initiatorSignature)

variable (id : DeviceKeypair S)

def DeviceKeypair.hello (own : Own S) : Hello where
  deviceId := id.deviceId
  publicKey := Hex.encode id.publicKeyBytes
  ephemeralKey := Hex.encode (S.x25519.publicKey own.ephemeral)
  nonce := own.nonce
  senderName := own.name

variable (t : Talk S)

def DeviceKeypair.hellos : Hello × Hello :=
  match t.role with
  | .initiator => (id.hello t.own, t.peer)
  | .responder => (t.peer, id.hello t.own)

def DeviceKeypair.responderTranscript : Bytes :=
  computeResponderTranscript (id.hellos t).1 (id.hellos t).2

def DeviceKeypair.initiatorTranscript : Bytes :=
  computeInitiatorTranscript (id.responderTranscript t) t.responseSignature

/-- The result both roles return; the finish is the text this side has. -/
def DeviceKeypair.conclude (talk : Talk S) (finish : Text) (decision : TrustDecision)
    (secret : Bytes) : HandshakeResult where
  peerDeviceId := talk.peer.deviceId
  peerPublicKey := talk.peer.publicKey
  peerName := talk.peer.senderName
  sharedSecret := secret
  transcriptHash := computeFinalTranscriptHash S (id.initiatorTranscript talk) finish
  trustDecision := decision

def acceptResponse (init resp : Hello) (signature : Text) :
    Except HandshakeError (Option TrustStore × TrustDecision) := do
  let key ← verifyDeviceIdentity S resp.deviceId resp.publicKey
  let pre ← checkTrust c store resp.deviceId resp.publicKey
  verifySignature S key signature (computeResponderTranscript init resp)
  recordTrust c store resp.deviceId resp.publicKey resp.senderName pre

def acceptInit (init : Hello) : Except HandshakeError (Bytes × TrustDecision) := do
  let key ← verifyDeviceIdentity S init.deviceId init.publicKey
  let pre ← checkTrust c store init.deviceId init.publicKey
  return (key, pre)

def acceptFinish (init : Hello) (key : Bytes) (pre : TrustDecision) (signature : Text)
    (transcript : Bytes) : Except HandshakeError (Option TrustStore × TrustDecision) := do
  verifySignature S key signature transcript
  recordTrust c store init.deviceId init.publicKey init.senderName pre

namespace Device

variable (d : Device S) (k : Nat)

def put (s : Session S) : Device S :=
  { d with sessions := d.sessions.set k s }

def receiveResponse (own : Own S) (resp : Hello) (signature : Text) (c : Conditions S) : Device S :=
  let seen := checkAndAdd d.cache c.now resp.nonce
  let d := { d with cache := seen.2 }
  if seen.1 then
    match acceptResponse c d.store (d.identity.hello own) resp signature with
    | .error e => d.put k (.failed none e)
    | .ok (store, decision) =>
        let talk : Talk S := ⟨.initiator, own, resp, signature⟩
        let transcript := d.identity.initiatorTranscript talk
        let finish := Hex.encode (d.identity.sign transcript)
        { d.put k (.draining talk finish decision) with
          store := store
          signed := d.signed ++ [transcript]
          sent := d.sent ++ [(k, .finish finish)] }
  else d.put k (.failed none .replayed)

def finishSession (talk : Talk S) (finish : Text) (decision : TrustDecision) : Device S :=
  match computeSharedSecret talk.own talk.peer.ephemeralKey with
  | .error e => d.put k (.failed (some talk) e)
  | .ok secret => d.put k (.done talk finish (d.identity.conclude talk finish decision secret))

def receiveInit (init : Hello) (c : Conditions S) : Device S :=
  let seen := checkAndAdd d.cache c.now init.nonce
  let d := { d with cache := seen.2 }
  if seen.1 then
    match acceptInit c d.store init with
    | .error e => d.put k (.failed none e)
    | .ok (key, pre) =>
        let resp := d.identity.hello c.own
        let transcript := computeResponderTranscript init resp
        let signature := Hex.encode (d.identity.sign transcript)
        { d.put k (.awaitFinish ⟨.responder, c.own, init, signature⟩ key pre) with
          signed := d.signed ++ [transcript]
          sent := d.sent ++ [(k, .response resp signature)] }
  else d.put k (.failed none .replayed)

def receiveFinish (talk : Talk S) (key : Bytes) (pre : TrustDecision) (signature : Text)
    (c : Conditions S) : Device S :=
  match acceptFinish c d.store talk.peer key pre signature
    (d.identity.initiatorTranscript talk) with
  | .error e => d.put k (.failed (some talk) e)
  | .ok (store, decision) => { d with store := store }.finishSession k talk signature decision

def receive (incoming : Incoming) (c : Conditions S) : Device S :=
  match d.sessions[k]? with
  | some (.awaitResponse own) =>
      match readMessage incoming with
      | .ok (.response resp signature) => d.receiveResponse k own resp signature c
      | .ok _ => d.put k (.failed none .unexpected)
      | .error e => d.put k (.failed none e)
  | some .awaitInit =>
      match readMessage incoming with
      | .ok (.init init) => d.receiveInit k init c
      | .ok _ => d.put k (.failed none .unexpected)
      | .error e => d.put k (.failed none e)
  | some (.awaitFinish talk key pre) =>
      match readMessage incoming with
      | .ok (.finish signature) => d.receiveFinish k talk key pre signature c
      | .ok _ => d.put k (.failed (some talk) .unexpected)
      | .error e => d.put k (.failed (some talk) e)
  | _ => d

def drained : Device S :=
  match d.sessions[k]? with
  | some (.draining talk finish decision) => d.finishSession k talk finish decision
  | _ => d

/-- A drain raises, or the task is cancelled. -/
def broken : Device S :=
  match d.sessions[k]? with
  | none | some (.done ..) | some (.failed ..) => d
  | some s => d.put k (.failed s.talk .raised)

end Device

inductive Event (S : Suite) where
  | connect (own : Own S)
  | accept
  | receive (session : Nat) (incoming : Incoming) (c : Conditions S)
  | drained (session : Nat)
  | broken (session : Nat)
  | operate (op : TrustOp)
  /-- The identity key signs for another part of the program. -/
  | signOther (domain : {t : Text // t ∈ otherDomains}) (payload : Bytes)

def Device.step (d : Device S) : Event S → Device S
  | .connect own =>
      { d with
        sessions := d.sessions ++ [.awaitResponse own]
        sent := d.sent ++ [(d.sessions.length, .init (d.identity.hello own))] }
  | .accept => { d with sessions := d.sessions ++ [.awaitInit] }
  | .receive k incoming c => d.receive k incoming c
  | .drained k => d.drained k
  | .broken k => d.broken k
  | .operate op => { d with store := d.store.map (fun s => Trust.step S.toPrimitives s op) }
  | .signOther domain payload => { d with signed := d.signed ++ [utf8 domain.val ++ payload] }

def Device.start (identity : DeviceKeypair S) (store : Option TrustStore) : Device S :=
  ⟨identity, store, Dict.empty, [], [], []⟩

section Sample

def KeyExchange.sample : KeyExchange where
  PrivateKey := {k : Bytes // k.length = 32}
  publicKey k := k.val
  exchange k peer := some (List.zipWith (· + ·) k.val peer)

def Suite.sample (digest : Bytes → Bytes) : Suite where
  ed25519 := SignatureScheme.ideal
  sha256 data := Hex.encode (digest data)
  packDouble := Primitives.sample.packDouble
  digest := digest
  hexDigest _ := rfl
  x25519 := KeyExchange.sample
  hkdf material salt info size := (info ++ salt ++ material ++ List.replicate size 0).take size

def tailDigest (data : Bytes) : Bytes := (List.replicate 32 0 ++ data).drop data.length

def Conditions.sample {S : Suite} (now : Time) (own : Own S) : Conditions S :=
  ⟨now, fun _ => true, false, false, own⟩

variable (digest : Bytes → Bytes)

def ann : DeviceKeypair (Suite.sample digest) := ⟨⟨List.replicate 32 1, rfl⟩⟩

def bob : DeviceKeypair (Suite.sample digest) := ⟨⟨List.replicate 32 2, rfl⟩⟩

def annOwn : Own (Suite.sample digest) :=
  ⟨⟨List.replicate 32 3, rfl⟩, "n1", "ann"⟩

def bobOwn : Own (Suite.sample digest) :=
  ⟨⟨List.replicate 32 4, rfl⟩, "n2", "bob"⟩

def annTalk : Talk (Suite.sample digest) :=
  ⟨.initiator, annOwn digest, (bob digest).hello (bobOwn digest),
    Hex.encode ((bob digest).sign (computeResponderTranscript ((ann digest).hello (annOwn digest))
      ((bob digest).hello (bobOwn digest))))⟩

def annFinish : Text :=
  Hex.encode ((ann digest).sign ((ann digest).initiatorTranscript (annTalk digest)))

end Sample
end Peerc.Handshake
