import Peerc.Handshake.Session
import Peerc.Lib.Raising
import Peerc.Protocol.Validate

/-!
The exceptions that leave a handshake. Here a frame is whatever json.loads returned, its strings
may hold lone surrogates, and every exception of a callee is kept apart.
-/
namespace Peerc.Handshake.Escapes
open List Trust Decoded Protocol Raising Runs

inductive Failure where
  | timeout | protocol | identity | signature | deviceRevoked | keyChanged
  deriving DecidableEq

/-- A database call raises RuntimeError while the store is detached, else an sqlite3 error. -/
inductive StoreFault where
  | detached | database
  deriving DecidableEq

inductive Raised where
  | handshake (failure : Failure)
  | socket
  /-- KeyError or TypeError at a field of a message. -/
  | field
  | keyParsing
  | keyExchange
  | alreadyKnown
  | externalTrustDenied
  | unicodeEncode
  | store (fault : StoreFault)
  deriving DecidableEq

open Raised

def Raised.allowed (tolerated : StoreFault → Bool) : Raised → Bool
  | .handshake _ => true
  | .socket => true
  | .store fault => tolerated fault
  | _ => false

def Raised.classified : Raised → Bool := allowed (fun _ => false)

/-- The except clause of _handle_incoming, which closes the socket, has RuntimeError as well. -/
def Raised.caught : Raised → Bool := allowed (fun fault => fault = .detached)

/-! ## What a step is made of -/

variable {α : Type} {S : Suite}

def lift : Except Failure α → Except Raised α
  | .ok a => .ok a
  | .error failure => .error (.handshake failure)

def need (holds : Bool) (otherwise : Raised) : Except Raised Unit :=
  if holds then .ok () else .error otherwise

def call : Option StoreFault → Except Raised Unit
  | none => .ok ()
  | some fault => .error (.store fault)

section Rules
variable {tolerated : StoreFault → Bool}

def Fine (tolerated : StoreFault → Bool) (result : Except Raised α) : Prop :=
  Within (fun r => allowed tolerated r = true) result

theorem fine_bind {β : Type} (first : Except Raised α) (rest : α → Except Raised β) :
    Fine tolerated (first >>= rest) ↔
      Fine tolerated first ∧ ∀ a, first = .ok a → Fine tolerated (rest a) :=
  within_bind first rest

theorem fine_ok (a : α) : Fine tolerated (.ok a) := within_ok a

theorem fine_pure (a : α) : Fine tolerated (pure a) := within_ok a

theorem fine_lift (result : Except Failure α) : Fine tolerated (lift result) := by
  intro _ raised
  cases result with
  | ok => cases raised
  | error =>
    cases raised
    rfl

theorem fine_need {r : Raised} (escapes : allowed tolerated r = false) (holds : Bool) :
    Fine tolerated (need holds r) ↔ holds = true := by
  cases holds with
  | true => exact iff_of_true (within_ok ()) rfl
  | false =>
    refine iff_of_false ?_ Bool.false_ne_true
    intro fine
    have allowed : allowed tolerated r = true := fine r rfl
    rw [escapes] at allowed
    cases allowed

theorem fine_call (fault : Option StoreFault) :
    Fine tolerated (call fault) ↔ ∀ f, fault = some f → tolerated f = true := by
  cases fault with
  | none => exact iff_of_true (within_ok ()) nofun
  | some f =>
    constructor
    · intro fine _ same
      cases same
      exact fine _ rfl
    · intro fine _ raised
      cases raised
      exact fine f rfl

theorem need_ok (holds : Bool) (r : Raised) (u : Unit) : need holds r = .ok u ↔ holds = true := by
  cases holds with
  | true => exact iff_of_true rfl rfl
  | false => exact iff_of_false nofun nofun

theorem call_ok (fault : Option StoreFault) (u : Unit) : call fault = .ok u ↔ fault = none := by
  cases fault with
  | none => exact iff_of_true rfl rfl
  | some => exact iff_of_false nofun nofun

end Rules

/-! ## Messages -/

inductive Incoming where
  | value (v : Value)
  | timedOut
  | unreadable

def readMessage (expected : MessageType) : Incoming → Except Failure Fields
  | .timedOut => .error .timeout
  | .unreadable => .error .protocol
  | .value v =>
      match validateMessage v with
      | .error _ => .error .protocol
      | .ok message => if kindOf message = expected then .ok message else .error .protocol

def field (message : Fields) (name : Field) : Except Raised Str :=
  match entry message name with
  | some (.str s) => .ok s
  | _ => .error .field

structure Greeting where
  deviceId : Str
  publicKey : Str
  ephemeralKey : Str
  nonce : Str
  senderName : Str

def greeting (message : Fields) : Except Raised Greeting := do
  let deviceId ← field message .deviceId
  let publicKey ← field message .publicKey
  let ephemeralKey ← field message .ephemeralKey
  let nonce ← field message .nonce
  let senderName ← field message .senderName
  return ⟨deviceId, publicKey, ephemeralKey, nonce, senderName⟩

def Greeting.ofHello (h : Hello) : Greeting :=
  ⟨ofText h.deviceId, ofText h.publicKey, ofText h.ephemeralKey, ofText h.nonce,
    ofText h.senderName⟩

def Greeting.json (type : Text) (g : Greeting) : Text :=
  writeObject [("device_id", g.deviceId), ("ephemeral_key", g.ephemeralKey),
    ("nonce", g.nonce), ("public_key", g.publicKey),
    ("sender_name", g.senderName), ("type", ofText type)]

def responderTranscript (init resp : Greeting) : Bytes :=
  utf8 (responderDomain ++ ['\n']) ++ utf8 (init.json initType) ++ utf8 ['\n'] ++
    utf8 (resp.json responseType)

/-! ## The steps of a handshake -/

/-- fault is what the database calls of the step raise. -/
structure Conditions (S : Suite) where
  now : Time
  permitted : Text → Bool
  readFault : Option StoreFault
  writeFault : Option StoreFault
  own : Own S

def checkAndAdd (cache : Dict Str Time) (now : Time) (nonce : Str) : Bool × Dict Str Time :=
  let live : Dict Str Time := cache.delete (fun e => decide (nonceTtl < now - e.2))
  if (live.get nonce).isSome then (false, live) else (true, live.set nonce now)

def checkReplay (cache : Dict Str Time) (now : Time) (nonce : Str) : Except Failure Unit :=
  if (checkAndAdd cache now nonce).1 then .ok () else .error .protocol

structure Peer where
  deviceId : Text
  publicKey : Text
  key : Bytes

/-- bytes.fromhex; a string with a lone surrogate is no hexadecimal either. -/
def fromHex (s : Str) : Option Bytes := (toText s).bind Hex.decode

def verifyDeviceIdentity (S : Suite) (g : Greeting) : Except Failure Peer :=
  match toText g.publicKey, fromHex g.publicKey with
  | some publicKey, some key =>
      if ofText (S.sha256 key) = g.deviceId then .ok ⟨S.sha256 key, publicKey, key⟩
      else .error .identity
  | _, _ => .error .identity

def rejectDecision : TrustDecision → Except Failure TrustDecision
  | .revoked => .error .deviceRevoked
  | .keyChanged => .error .keyChanged
  | decision => .ok decision

def checkTrust (c : Conditions S) (peer : Peer) : Option TrustStore → Except Raised TrustDecision
  | none => .ok .unknown
  | some s => do
      call c.readFault
      lift (rejectDecision (s.check peer.deviceId peer.publicKey))

def recordFirstSeen (c : Conditions S) (s : TrustStore) (peer : Peer) (name : Str) :
    Except Raised TrustStore := do
  call c.readFault
  need (s.get peer.deviceId).isNone .alreadyKnown
  need (c.permitted peer.deviceId) .externalTrustDenied
  need (toText name).isSome .unicodeEncode
  call c.writeFault
  return settle s (s.recordFirstSeen peer.deviceId peer.publicKey ((toText name).getD [])
    c.permitted c.now)

def recordTrust (c : Conditions S) (peer : Peer) (name : Str) (decision : TrustDecision) :
    Option TrustStore → Except Raised (Option TrustStore)
  | none => .ok none
  | some s =>
      match decision with
      | .unknown => (recordFirstSeen c s peer (name.take maxPeerNameLength)).map some
      | .pending | .trusted => do
          call c.writeFault
          return some (s.touchLastSeen peer.deviceId c.now)
      | .keyChanged | .revoked => .ok (some s)

def checkSignature (S : Suite) (key : Bytes) (signature : Str) (transcript : Bytes) :
    Except Failure Unit :=
  match fromHex signature with
  | none => .error .signature
  | some raw => if S.ed25519.verify key raw transcript then .ok () else .error .signature

/-- public_key_from_bytes stands outside the try. -/
def verifySignature (S : Suite) (key : Bytes) (signature : Str) (transcript : Bytes) :
    Except Raised Unit := do
  need (key.length = 32) .keyParsing
  lift (checkSignature S key signature transcript)

def encodeAscii (s : Str) : Except Raised Text := do
  need ((toText s).any (fun t => t.all (fun c => c.toNat < 128))) .unicodeEncode
  return (toText s).getD []

def ephemeralPublicFromHex (s : Str) : Except Failure Bytes :=
  match fromHex s with
  | none => .error .protocol
  | some raw => if raw.length = 32 then .ok raw else .error .protocol

def computeSharedSecret (own : Own S) (ephemeralKey : Str) : Except Raised Unit := do
  let raw ← lift (ephemeralPublicFromHex ephemeralKey)
  need (S.x25519.exchange own.ephemeral raw).isSome .keyExchange

inductive Session (S : Suite) where
  | awaitResponse (own : Own S)
  | draining (own : Own S) (peer : Greeting) (signature : Bytes)
  | awaitInit
  | awaitFinish (own : Own S) (init : Greeting) (peer : Peer) (decision : TrustDecision)
      (transcript : Bytes)
  | returned
  | raised (r : Raised)

open Escapes.Session

structure Device (S : Suite) where
  identity : DeviceKeypair S
  store : Option TrustStore
  cache : Dict Str Time
  sessions : List (Session S)

namespace Device

def put (d : Device S) (k : Nat) (s : Session S) : Device S :=
  { d with sessions := d.sessions.set k s }

/-- The nonce is remembered once the message is of the expected type, whatever follows. -/
def remember (d : Device S) (expected : MessageType) (incoming : Incoming) (now : Time) :
    Device S :=
  match lift (readMessage expected incoming) >>= greeting with
  | .ok g => { d with cache := (checkAndAdd d.cache now g.nonce).2 }
  | .error _ => d

/-- The message, its fields and the peer it is from. -/
def greeted (d : Device S) (expected : MessageType) (incoming : Incoming) (now : Time) :
    Except Raised (Fields × Greeting × Peer) := do
  let message ← lift (readMessage expected incoming)
  let g ← greeting message
  lift (checkReplay d.cache now g.nonce)
  let peer ← lift (verifyDeviceIdentity S g)
  return (message, g, peer)

/-- Sections 6 to 9 of the initiator: the store, and the session once the finish is written. -/
def answer (d : Device S) (own : Own S) (c : Conditions S) (message : Fields) (g : Greeting)
    (peer : Peer) : Except Raised (Option TrustStore × Session S) := do
  let decision ← checkTrust c peer d.store
  let transcript := responderTranscript (.ofHello (d.identity.hello own)) g
  let signature ← field message .signature
  verifySignature S peer.key signature transcript
  let store ← recordTrust c peer g.senderName decision d.store
  let ascii ← encodeAscii signature
  return (store, .draining own g
    (d.identity.sign (computeInitiatorTranscript transcript ascii)))

def acceptResponse (d : Device S) (own : Own S) (incoming : Incoming) (c : Conditions S) :
    Except Raised (Option TrustStore × Session S) := do
  let (message, g, peer) ← d.greeted .handshakeResponse incoming c.now
  d.answer own c message g peer

/-- Sections 1 to 7 of the responder: the store as it is, and what the finish is waited for
    with. -/
def acceptInit (d : Device S) (incoming : Incoming) (c : Conditions S) :
    Except Raised (Option TrustStore × Session S) := do
  let (_, g, peer) ← d.greeted .handshakeInit incoming c.now
  let decision ← checkTrust c peer d.store
  let transcript := responderTranscript g (.ofHello (d.identity.hello c.own))
  let signature := Hex.encode (d.identity.sign transcript)
  return (d.store, .awaitFinish c.own g peer decision
    (computeInitiatorTranscript transcript signature))

/-- Sections 8 and 9 of the responder. -/
def acceptFinish (d : Device S) (init : Greeting) (peer : Peer) (decision : TrustDecision)
    (transcript : Bytes) (incoming : Incoming) (c : Conditions S) :
    Except Raised (Option TrustStore × Str) := do
  let message ← lift (readMessage .handshakeFinish incoming)
  let signature ← field message .signature
  verifySignature S peer.key signature transcript
  let store ← recordTrust c peer init.senderName decision d.store
  return (store, signature)

/-- Section 10, with the signature that the final transcript ends in. -/
def conclude (own : Own S) (ephemeralKey signature : Str) : Session S :=
  match (do computeSharedSecret own ephemeralKey; encodeAscii signature : Except Raised Text) with
  | .error r => .raised r
  | .ok _ => .returned

def resume (d : Device S) (k : Nat) : Except Raised (Option TrustStore × Session S) → Device S
  | .error r => d.put k (.raised r)
  | .ok (store, next) => { d.put k next with store := store }

def receive (d : Device S) (k : Nat) (incoming : Incoming) (c : Conditions S) : Device S :=
  match d.sessions[k]? with
  | some (.awaitResponse own) =>
      (d.remember .handshakeResponse incoming c.now).resume k (d.acceptResponse own incoming c)
  | some .awaitInit =>
      (d.remember .handshakeInit incoming c.now).resume k (d.acceptInit incoming c)
  | some (.awaitFinish own init peer decision transcript) =>
      d.resume k ((d.acceptFinish init peer decision transcript incoming c).map
        (fun done => (done.1, conclude own init.ephemeralKey done.2)))
  | _ => d

def drained (d : Device S) (k : Nat) : Device S :=
  match d.sessions[k]? with
  | some (.draining own peer signature) =>
      d.put k (conclude own peer.ephemeralKey (ofText (Hex.encode signature)))
  | _ => d

def broken (d : Device S) (k : Nat) : Device S :=
  match d.sessions[k]? with
  | none | some .returned | some (.raised _) => d
  | some _ => d.put k (.raised .socket)

end Device

open Escapes.Device

inductive Event (S : Suite) where
  | connect (own : Own S)
  | accept
  | receive (session : Nat) (incoming : Incoming) (c : Conditions S)
  | drained (session : Nat)
  | broken (session : Nat)
  | operate (op : TrustOp)

def Device.step (d : Device S) : Event S → Device S
  | .connect own => { d with sessions := d.sessions ++ [.awaitResponse own] }
  | .accept => { d with sessions := d.sessions ++ [.awaitInit] }
  | .receive k incoming c => d.receive k incoming c
  | .drained k => d.drained k
  | .broken k => d.broken k
  | .operate op => { d with store := d.store.map (fun s => Trust.step S.toPrimitives s op) }

def Device.start (identity : DeviceKeypair S) (store : Option TrustStore) : Device S :=
  ⟨identity, store, Dict.empty, []⟩

/-! ## What lets nothing else out -/

section Conditions
variable (tolerated : StoreFault → Bool)

def Readable (c : Conditions S) : Prop := ∀ fault, c.readFault = some fault → tolerated fault = true

def Writable (c : Conditions S) : Prop :=
  ∀ fault, c.writeFault = some fault → tolerated fault = true

structure Admissible (c : Conditions S) (s : TrustStore) (peer : Peer) (name : Str) : Prop where
  fresh : s.get peer.deviceId = none
  permitted : c.permitted peer.deviceId = true
  encodable : ∀ x ∈ name.take maxPeerNameLength, isSurrogate x = false
  writable : Writable tolerated c

def Recordable (c : Conditions S) (s : TrustStore) (peer : Peer) (name : Str) :
    TrustDecision → Prop
  | .unknown => Readable tolerated c ∧ (c.readFault = none → Admissible tolerated c s peer name)
  | .pending => Writable tolerated c
  | .trusted => Writable tolerated c
  | .keyChanged => True
  | .revoked => True

def Exchangeable (own : Own S) (ephemeralKey : Str) : Prop :=
  ∀ raw, fromHex ephemeralKey = some raw → raw.length = 32 →
    (S.x25519.exchange own.ephemeral raw).isSome = true

/-- Each condition is asked for only where the step gets as far. -/
def Orderly (d : Device S) : Event S → Prop
  | .receive k incoming c =>
      match d.sessions[k]? with
      | some (.awaitResponse own) =>
          ∀ message g peer, d.greeted .handshakeResponse incoming c.now = .ok (message, g, peer) →
            (d.store ≠ none → Readable tolerated c) ∧
            ∀ decision, checkTrust c peer d.store = .ok decision → peer.key.length = 32 ∧
              ∀ signature, field message .signature = .ok signature →
                verifySignature S peer.key signature
                  (responderTranscript (.ofHello (d.identity.hello own)) g) = .ok () →
                ∀ s, d.store = some s → Recordable tolerated c s peer g.senderName decision
      | some .awaitInit =>
          ∀ message g peer, d.greeted .handshakeInit incoming c.now = .ok (message, g, peer) →
            d.store ≠ none → Readable tolerated c
      | some (.awaitFinish own init peer decision transcript) =>
          ∀ message, readMessage .handshakeFinish incoming = .ok message →
            ∀ signature, field message .signature = .ok signature → peer.key.length = 32 ∧
              (verifySignature S peer.key signature transcript = .ok () →
                (∀ s, d.store = some s → Recordable tolerated c s peer init.senderName decision) ∧
                ∀ store, recordTrust c peer init.senderName decision d.store = .ok store →
                  Exchangeable own init.ephemeralKey)
      | _ => True
  | .drained k =>
      match d.sessions[k]? with
      | some (.draining own peer _) => Exchangeable own peer.ephemeralKey
      | _ => True
  | _ => True

end Conditions

/-! ## The pieces -/

section Pieces
variable {tolerated : StoreFault → Bool} {message : Fields} {kind expected : MessageType}
  {incoming : Incoming} {d : Device S} {k : Nat} {own : Own S} {g init : Greeting} {peer : Peer}
  {decision : TrustDecision} {transcript : Bytes} {signature : Str} {s : Session S}

theorem lift_ok_iff (result : Except Failure α) (a : α) : lift result = .ok a ↔ result = .ok a := by
  cases result with
  | ok => simp [lift]
  | error => exact iff_of_false nofun nofun

theorem read_message_ok (read : readMessage expected incoming = .ok message) :
    ∃ v, validateMessage v = .ok message ∧ kindOf message = expected := by
  cases incoming with
  | timedOut | unreadable => cases read
  | value v =>
    simp only [readMessage] at read
    split at read
    · cases read
    · rename_i accepted
      split at read
      · rename_i kind
        cases read
        exact ⟨v, accepted, kind⟩
      · cases read

theorem field_of_non_empty {name : Field}
    (check : (checkNonEmptyStr kind message name).holds = true) :
    ∃ s, field message name = .ok s := by
  obtain ⟨s, found⟩ := str_of_non_empty check
  exact ⟨s, by rw [field, found]⟩

theorem field_of_str {name : Field} (check : (checkStr kind message name).holds = true) :
    ∃ s, field message name = .ok s := by
  unfold field
  unfold checkStr at check
  cases found : entry message name with
  | none =>
    rw [found] at check
    cases check
  | some v =>
    rw [found] at check
    cases v with
    | str s => exact ⟨s, rfl⟩
    | _ => cases check

theorem greeting_of_checks
    (checks : ∀ check ∈ [Field.deviceId, .publicKey, .ephemeralKey, .nonce].map
      (checkNonEmptyStr kind message) ++ [checkStr kind message .senderName], check.holds = true) :
    ∃ g, greeting message = .ok g := by
  obtain ⟨deviceId, hasId⟩ :=
    field_of_non_empty (checks (checkNonEmptyStr kind message .deviceId) (by simp))
  obtain ⟨publicKey, hasKey⟩ :=
    field_of_non_empty (checks (checkNonEmptyStr kind message .publicKey) (by simp))
  obtain ⟨ephemeralKey, hasEphemeral⟩ :=
    field_of_non_empty (checks (checkNonEmptyStr kind message .ephemeralKey) (by simp))
  obtain ⟨nonce, hasNonce⟩ :=
    field_of_non_empty (checks (checkNonEmptyStr kind message .nonce) (by simp))
  obtain ⟨senderName, hasName⟩ :=
    field_of_str (checks (checkStr kind message .senderName) (by simp))
  refine ⟨⟨deviceId, publicKey, ephemeralKey, nonce, senderName⟩, ?_⟩
  rw [greeting, hasId, hasKey, hasEphemeral, hasNonce, hasName]
  rfl

theorem checks_of_read (read : readMessage expected incoming = .ok message)
    (known : (requiredFields expected).isSome = true) :
    ∀ check ∈ typeChecks message expected, check.holds = true := by
  obtain ⟨_, accepted, rfl⟩ := read_message_ok read
  obtain ⟨_, same⟩ := Option.isSome_iff_exists.mp known
  exact (validated_schema accepted same).2

theorem response_fields (read : readMessage .handshakeResponse incoming = .ok message) :
    (∃ g, greeting message = .ok g) ∧ ∃ s, field message .signature = .ok s := by
  have checks := checks_of_read read rfl
  constructor
  · apply greeting_of_checks
    intro check member
    apply checks check
    simp only [typeChecks, mem_append, mem_cons] at member ⊢
    tauto
  · exact field_of_non_empty (checks _ (mem_append_right _
      (mem_cons_of_mem _ mem_cons_self)))

theorem fine_greeted (d : Device S) (incoming : Incoming) (now : Time)
    (greets : expected = .handshakeInit ∨ expected = .handshakeResponse) :
    Fine tolerated (d.greeted expected incoming now) := by
  unfold greeted
  refine (fine_bind _ _).mpr ⟨fine_lift _, ?_⟩
  intro message read
  rw [lift_ok_iff] at read
  have present : ∃ g, greeting message = .ok g := by
    rcases greets with rfl | rfl
    · exact greeting_of_checks (checks_of_read read rfl)
    · exact (response_fields read).1
  obtain ⟨g, fields⟩ := present
  rw [fields]
  refine (fine_bind _ _).mpr ⟨fine_ok g, ?_⟩
  intro _ _
  refine (fine_bind _ _).mpr ⟨fine_lift _, ?_⟩
  intro _ _
  exact (fine_bind _ _).mpr ⟨fine_lift _, fun _ _ => fine_pure _⟩

theorem greeted_read {now : Time}
    (greeted : d.greeted expected incoming now = .ok (message, g, peer)) :
    readMessage expected incoming = .ok message := by
  obtain ⟨_, read, afterRead⟩ := except_bind_ok greeted
  obtain ⟨_, _, afterFields⟩ := except_bind_ok afterRead
  obtain ⟨_, _, afterReplay⟩ := except_bind_ok afterFields
  obtain ⟨_, _, returned⟩ := except_bind_ok afterReplay
  cases returned
  exact (lift_ok_iff _ _).mp read

theorem fine_check_trust (c : Conditions S) (peer : Peer) (store : Option TrustStore) :
    Fine tolerated (checkTrust c peer store) ↔ (store ≠ none → Readable tolerated c) := by
  cases store with
  | none => exact iff_of_true (fine_ok _) (fun present => absurd rfl present)
  | some =>
    rw [checkTrust, fine_bind, fine_call]
    exact (and_iff_left fun _ _ => fine_lift _).trans ⟨fun fine _ => fine, fun fine => fine nofun⟩

theorem encodable_iff (s : Str) : (toText s).isSome = true ↔ ∀ x ∈ s, isSurrogate x = false := by
  have lone := to_text_none_iff s
  cases text : toText s with
  | none =>
    obtain ⟨x, member, surrogate⟩ := lone.mp text
    refine iff_of_false nofun ?_
    intro clean
    rw [clean x member] at surrogate
    cases surrogate
  | some =>
    refine iff_of_true rfl ?_
    intro x member
    by_contra surrogate
    have none := lone.mpr ⟨x, member, Bool.not_eq_false _ ▸ surrogate⟩
    rw [text] at none
    cases none

theorem fine_record_first_seen (c : Conditions S) (s : TrustStore) (peer : Peer) (name : Str) :
    Fine tolerated (recordFirstSeen c s peer (name.take maxPeerNameLength)) ↔
      Recordable tolerated c s peer name .unknown := by
  unfold recordFirstSeen
  simp only [fine_bind, fine_call, call_ok, need_ok, fine_pure, implies_true, and_true,
    forall_const, fine_need (show allowed tolerated .alreadyKnown = false from rfl),
    fine_need (show allowed tolerated .externalTrustDenied = false from rfl),
    fine_need (show allowed tolerated .unicodeEncode = false from rfl), encodable_iff,
    Option.isNone_iff_eq_none]
  refine and_congr_right (fun _ => imp_congr_right (fun _ => ?_))
  constructor
  · intro ⟨fresh, rest⟩
    obtain ⟨permitted, rest⟩ := rest fresh
    obtain ⟨encodable, rest⟩ := rest permitted
    exact ⟨fresh, permitted, encodable, rest encodable⟩
  · intro fine
    exact ⟨fine.fresh, fun _ => ⟨fine.permitted, fun _ => ⟨fine.encodable, fun _ => fine.writable⟩⟩⟩

theorem fine_record_trust (c : Conditions S) (peer : Peer) (name : Str) (decision : TrustDecision)
    (store : Option TrustStore) : Fine tolerated (recordTrust c peer name decision store) ↔
      ∀ s, store = some s → Recordable tolerated c s peer name decision := by
  cases store with
  | none => exact iff_of_true (fine_ok none) nofun
  | some s =>
    have touched (t : TrustStore) : Fine tolerated (do call c.writeFault; return some t) ↔
        Writable tolerated c := by
      rw [fine_bind, fine_call]
      exact and_iff_left fun _ _ => fine_pure _
    simp only [Option.some.injEq, forall_eq']
    cases decision with
    | unknown => exact (within_map _ _).trans (fine_record_first_seen c s peer name)
    | pending | trusted => exact touched _
    | keyChanged | revoked => exact iff_of_true (fine_ok _) trivial

theorem fine_signature (key : Bytes) (signature : Str) (transcript : Bytes) :
    Fine tolerated (verifySignature S key signature transcript) ↔ key.length = 32 := by
  rw [verifySignature, fine_bind, fine_need rfl]
  exact (and_iff_left fun _ _ => fine_lift _).trans decide_eq_true_iff

theorem encode_ascii_of_hex {raw : Bytes} (hex : fromHex signature = some raw) :
    ∃ t, encodeAscii signature = .ok t := by
  obtain ⟨t, text, decoded⟩ := Option.bind_eq_some_iff.mp hex
  have ascii := all_eq_true.mpr fun c member => decide_eq_true (Hex.ascii_of_decode decoded c
    member)
  refine ⟨t, ?_⟩
  rw [encodeAscii, text, Option.any_some, ascii]
  rfl

theorem encode_ascii_verified {key : Bytes}
    (verified : verifySignature S key signature transcript = .ok ()) :
    ∃ t, encodeAscii signature = .ok t := by
  obtain ⟨_, _, checked⟩ := except_bind_ok verified
  rw [lift_ok_iff] at checked
  unfold checkSignature at checked
  split at checked
  · cases checked
  · rename_i hex
    exact encode_ascii_of_hex hex

theorem fine_secret (own : Own S) (ephemeralKey : Str) :
    Fine tolerated (computeSharedSecret own ephemeralKey) ↔ Exchangeable own ephemeralKey := by
  rw [computeSharedSecret, fine_bind, and_iff_right (fine_lift _)]
  simp only [fine_need (show allowed tolerated .keyExchange = false from rfl), lift_ok_iff]
  unfold Exchangeable ephemeralPublicFromHex
  cases fromHex ephemeralKey with
  | none => exact iff_of_true nofun nofun
  | some raw =>
    by_cases size : raw.length = 32
    · simp [size]
    · simp [size]

theorem fine_conclude {ephemeralKey : Str} {ascii : Text}
    (encoded : encodeAscii signature = .ok ascii) :
    (∀ r, conclude own ephemeralKey signature = .raised r →
      allowed tolerated r = true) ↔ Exchangeable own ephemeralKey := by
  have secret : Fine tolerated (computeSharedSecret own ephemeralKey) ↔ _ :=
    fine_secret own ephemeralKey
  rw [← secret, conclude, encoded]
  cases computeSharedSecret own ephemeralKey with
  | ok shared => exact iff_of_true nofun (fine_ok shared)
  | error e =>
    constructor
    · intro all _ raised
      cases raised
      exact all e rfl
    · intro fine _ raised
      cases raised
      exact fine e rfl

/-! ## Sessions -/

def Settles (tolerated : StoreFault → Bool)
    (outcome : Except Raised (Option TrustStore × Session S)) : Prop :=
  Fine tolerated outcome ∧ ∀ store next r, outcome = .ok (store, next) → next = .raised r →
    allowed tolerated r = true

theorem fine_answer (c : Conditions S) (signed : field message .signature = .ok signature) :
    Fine tolerated (d.answer own c message g peer) ↔
      (d.store ≠ none → Readable tolerated c) ∧
        ∀ decision, checkTrust c peer d.store = .ok decision → peer.key.length = 32 ∧
          (verifySignature S peer.key signature
              (responderTranscript (.ofHello (d.identity.hello own)) g) = .ok () →
            ∀ s, d.store = some s → Recordable tolerated c s peer g.senderName decision) := by
  unfold answer
  simp only [fine_bind, fine_check_trust, signed, fine_ok, fine_signature, fine_record_trust,
    true_and, Except.ok.injEq, forall_eq', fine_pure, implies_true, and_true]
  refine and_congr_right fun _ => forall_congr' fun decision => imp_congr_right fun _ =>
    and_congr_right fun _ => ?_
  constructor
  · intro all verified
    exact (all () verified).1
  · intro all _ verified
    obtain ⟨ascii, encoded⟩ := encode_ascii_verified verified
    exact ⟨all verified, fun _ _ => encoded ▸ fine_ok ascii⟩

theorem settles_response (found : d.sessions[k]? = some (.awaitResponse own))
    (incoming : Incoming) (c : Conditions S) : Settles tolerated (d.acceptResponse own incoming c) ↔
      Orderly tolerated d (.receive k incoming c) := by
  have live : ∀ store next r, d.acceptResponse own incoming c = .ok (store, next) →
      next = .raised r → allowed tolerated r = true := by
    intro _ _ _ returned ended
    obtain ⟨⟨_, _, _⟩, _, answered⟩ := except_bind_ok returned
    obtain ⟨_, _, afterCheck⟩ := except_bind_ok answered
    obtain ⟨_, _, afterField⟩ := except_bind_ok afterCheck
    obtain ⟨_, _, afterVerify⟩ := except_bind_ok afterField
    obtain ⟨_, _, afterRecord⟩ := except_bind_ok afterVerify
    obtain ⟨_, _, same⟩ := except_bind_ok afterRecord
    cases same
    cases ended
  rw [Settles, and_iff_left live, Device.acceptResponse, fine_bind,
    and_iff_right (fine_greeted d incoming c.now (.inr rfl))]
  simp only [Orderly, found, Prod.forall]
  refine forall_congr' fun message => forall_congr' fun g => forall_congr' fun peer =>
    imp_congr_right fun greeted => ?_
  obtain ⟨_, signed⟩ := (response_fields (greeted_read greeted)).2
  rw [fine_answer c signed]
  simp [signed]

theorem settles_init (found : d.sessions[k]? = some .awaitInit) (incoming : Incoming)
    (c : Conditions S) : Settles tolerated (d.acceptInit incoming c) ↔
      Orderly tolerated d (.receive k incoming c) := by
  have live : ∀ store next r, d.acceptInit incoming c = .ok (store, next) →
      next = .raised r → allowed tolerated r = true := by
    intro _ _ _ returned ended
    obtain ⟨⟨_, _, _⟩, _, greeted⟩ := except_bind_ok returned
    obtain ⟨_, _, same⟩ := except_bind_ok greeted
    cases same
    cases ended
  rw [Settles, and_iff_left live, Device.acceptInit, fine_bind,
    and_iff_right (fine_greeted d incoming c.now (Or.inl rfl))]
  simp only [Orderly, found, Prod.forall, fine_bind, fine_check_trust, fine_pure, implies_true,
    and_true]

theorem settles_finish
    (found : d.sessions[k]? = some (.awaitFinish own init peer decision transcript))
    (incoming : Incoming) (c : Conditions S) :
    Settles tolerated ((d.acceptFinish init peer decision transcript incoming c).map
        (fun done => (done.1, conclude own init.ephemeralKey done.2))) ↔
      Orderly tolerated d (.receive k incoming c) := by
  have split : Settles tolerated ((d.acceptFinish init peer decision transcript incoming c).map
        (fun done => (done.1, conclude own init.ephemeralKey done.2))) ↔
      Fine tolerated (d.acceptFinish init peer decision transcript incoming c) ∧
        ∀ done, d.acceptFinish init peer decision transcript incoming c = .ok done →
          ∀ r, conclude own init.ephemeralKey done.2 = .raised r →
            allowed tolerated r = true := by
    refine and_congr (within_map _ _) ?_
    cases d.acceptFinish init peer decision transcript incoming c with
    | error => exact iff_of_true nofun nofun
    | ok done =>
      constructor
      · intro all _ same r ended
        cases same
        exact all _ _ r rfl ended
      · intro all _ _ r same ended
        cases same
        exact all done rfl r ended
  rw [split]
  simp only [Orderly, found]
  unfold Device.acceptFinish
  cases read : readMessage .handshakeFinish incoming with
  | error r => exact iff_of_true ⟨fine_lift (.error r), nofun⟩ nofun
  | ok message =>
    obtain ⟨signature, signed⟩ := field_of_non_empty (checks_of_read read rfl _ mem_cons_self)
    change Fine tolerated (field message .signature >>= _) ∧ (∀ done,
      (field message .signature >>= _) = _ → _) ↔ _
    simp only [signed, Except.ok.injEq, forall_eq']
    change Fine tolerated (verifySignature S peer.key signature transcript >>= _) ∧ (∀ done,
      (verifySignature S peer.key signature transcript >>= _) = _ → _) ↔ _
    rw [fine_bind, fine_signature, and_assoc]
    refine and_congr_right fun _ => ?_
    cases verified : verifySignature S peer.key signature transcript with
    | error => exact iff_of_true ⟨nofun, nofun⟩ nofun
    | ok =>
      obtain ⟨_, encoded⟩ := encode_ascii_verified verified
      simp only [fine_bind, fine_record_trust, fine_pure, implies_true, and_true, forall_const]
      refine and_congr_right fun _ => ?_
      constructor
      · intro ends store recorded
        refine (fine_conclude encoded).mp (ends (store, signature) ?_)
        change (recordTrust c peer init.senderName decision d.store >>= _) = _
        rw [recorded]
        rfl
      · intro exchangeable _ returned
        obtain ⟨_, _, rest⟩ := except_bind_ok returned
        obtain ⟨store, recorded, same⟩ := except_bind_ok rest
        cases same
        exact (fine_conclude encoded).mpr (exchangeable store recorded)

/-! ## Steps and runs -/

def Clean (tolerated : StoreFault → Bool) (d : Device S) : Prop :=
  ∀ r, raised r ∈ d.sessions → allowed tolerated r = true

theorem clean_put {e : Device S} (found : d.sessions[k]? = some s) (live : ∀ r, s ≠ .raised r)
    {next : Session S} (written : e.sessions = d.sessions.set k next) :
    Clean tolerated e ↔
      Clean tolerated d ∧ ∀ r, next = .raised r → allowed tolerated r = true := by
  have bound : k < d.sessions.length := index_lt found
  unfold Clean
  rw [written]
  constructor
  · intro clean
    constructor
    · intro r member
      obtain ⟨i, at_i⟩ := List.mem_iff_getElem?.mp member
      have other : k ≠ i := by
        intro same
        rw [same, at_i] at found
        exact live r (Option.some.inj found).symm
      exact clean r (List.mem_iff_getElem?.mpr ⟨i, (List.getElem?_set_ne other).trans at_i⟩)
    · intro r same
      exact clean r (same ▸ List.mem_set bound next)
  · intro both r member
    rcases List.mem_or_eq_of_mem_set member with inside | same
    · exact both.1 r inside
    · exact both.2 r same.symm

theorem clean_resume {e : Device S} (found : d.sessions[k]? = some s) (live : ∀ r, s ≠ .raised r)
    (same : e.sessions = d.sessions) (outcome : Except Raised (Option TrustStore × Session S)) :
    Clean tolerated (e.resume k outcome) ↔ Clean tolerated d ∧ Settles tolerated outcome := by
  cases outcome with
  | error r =>
    refine (clean_put found live (congrArg (List.set · k (.raised r)) same)).trans
      (and_congr_right fun _ => ?_)
    constructor
    · intro all
      refine ⟨?_, nofun⟩
      intro _ raised
      cases raised
      exact all r rfl
    · intro settles _ ended
      cases ended
      exact settles.1 r rfl
  | ok done =>
    refine (clean_put found live (congrArg (List.set · k done.2) same)).trans
      (and_congr_right fun _ => ?_)
    constructor
    · intro all
      refine ⟨fine_ok done, ?_⟩
      intro _ _ r returned ended
      cases returned
      exact all r ended
    · intro settles r ended
      exact settles.2 done.1 done.2 r rfl ended

theorem sessions_remember (d : Device S) (expected : MessageType) (incoming : Incoming)
    (now : Time) : (d.remember expected incoming now).sessions = d.sessions := by
  unfold remember
  split
  · rfl
  · rfl

theorem clean_receive (d : Device S) (k : Nat) (incoming : Incoming) (c : Conditions S) :
    Clean tolerated (d.receive k incoming c) ↔
      Clean tolerated d ∧ Orderly tolerated d (.receive k incoming c) := by
  unfold receive
  cases found : d.sessions[k]? with
  | none => simp [Orderly, found]
  | some s =>
    cases s with
    | awaitResponse =>
      rw [← settles_response found]
      exact clean_resume found nofun (sessions_remember d _ incoming c.now) _
    | awaitInit =>
      rw [← settles_init found]
      exact clean_resume found nofun (sessions_remember d _ incoming c.now) _
    | awaitFinish =>
      rw [← settles_finish found]
      exact clean_resume found nofun rfl _
    | _ => simp [Orderly, found]

theorem clean_drained (d : Device S) (k : Nat) :
    Clean tolerated (d.drained k) ↔ Clean tolerated d ∧ Orderly tolerated d (.drained k) := by
  simp only [drained, Orderly]
  cases found : d.sessions[k]? with
  | none => exact (and_iff_left trivial).symm
  | some s =>
    cases s with
    | draining _ _ signature =>
      have hex : fromHex (ofText (Hex.encode signature)) = some signature := by
        rw [fromHex, to_text_of_text, Option.bind_some, Hex.decode_encode]
      obtain ⟨_, encoded⟩ := encode_ascii_of_hex hex
      exact (clean_put found nofun rfl).trans (and_congr_right fun _ => fine_conclude encoded)
    | _ => exact (and_iff_left trivial).symm

theorem clean_broken (d : Device S) (k : Nat) :
    Clean tolerated (d.broken k) ↔ Clean tolerated d := by
  unfold broken
  split
  · rfl
  · rfl
  · rfl
  · rename_i notRaised found
    refine (clean_put found notRaised rfl).trans (and_iff_left ?_)
    intro _ same
    cases same
    rfl

theorem clean_append (d : Device S) (live : ∀ r, s ≠ .raised r) :
    Clean tolerated { d with sessions := d.sessions ++ [s] } ↔ Clean tolerated d := by
  constructor
  · intro clean r member
    exact clean r (mem_append_left _ member)
  · intro clean r member
    rcases mem_append.mp member with inside | last
    · exact clean r inside
    · exact absurd (mem_singleton.mp last).symm (live r)

theorem clean_step (d : Device S) (event : Event S) :
    Clean tolerated (d.step event) ↔ Clean tolerated d ∧ Orderly tolerated d event := by
  cases event with
  | connect own =>
    exact (clean_append (s := .awaitResponse own) d nofun).trans (and_iff_left trivial).symm
  | accept => exact (clean_append (s := .awaitInit) d nofun).trans (and_iff_left trivial).symm
  | operate => exact (and_iff_left trivial).symm
  | drained k => exact clean_drained d k
  | broken k => exact (clean_broken d k).trans (and_iff_left trivial).symm
  | receive k incoming c => exact clean_receive d k incoming c

theorem clean_run (d : Device S) (events : List (Event S)) :
    Clean tolerated (run step d events) ↔
      Clean tolerated d ∧ Along step (Orderly tolerated) d events := by
  induction events generalizing d with
  | nil => exact (and_iff_left trivial).symm
  | cons _ _ ih =>
    rw [run_cons, ih, clean_step, and_assoc]
    rfl

end Pieces

/-- Nothing but the allowed leaves the handshake exactly when every step is orderly. -/
theorem handshake_failures_classified_iff (identity : DeviceKeypair S) (store : Option TrustStore)
    (events : List (Event S)) :
    ((∀ r, raised r ∈ (run step (.start identity store) events).sessions →
        r.classified = true) ↔
      Along step (Orderly (fun _ => false)) (.start identity store) events) ∧
    ((∀ r, raised r ∈ (run step (.start identity store) events).sessions →
        r.caught = true) ↔
      Along step (Orderly (fun fault => fault = .detached)) (.start identity store)
        events) := by
  have start (tolerated : StoreFault → Bool) : Clean tolerated (start identity store) := nofun
  exact ⟨(clean_run _ events).trans (and_iff_right (start _)),
    (clean_run _ events).trans (and_iff_right (start _))⟩

section Sample

def Session.failure : Session S → Option Raised
  | .raised r => some r
  | _ => none

theorem raised_of_failure {sessions : List (Session S)} {r : Raised}
    (member : some r ∈ sessions.map failure) : raised r ∈ sessions := by
  obtain ⟨s, inside, failed⟩ := mem_map.mp member
  cases s with
  | raised =>
    cases failed
    exact inside
  | _ => cases failed

def initMessage (g : Greeting) : Fields :=
  [(.type, .str (typeName "handshake_init")), (.deviceId, .str g.deviceId),
    (.publicKey, .str g.publicKey), (.ephemeralKey, .str g.ephemeralKey), (.nonce, .str g.nonce),
    (.senderName, .str g.senderName)]

def finishMessage (signature : Text) : Fields :=
  [(.type, .str (typeName "handshake_finish")), (.signature, .str (ofText signature))]

abbrev sample : Suite := Suite.sample tailDigest

def calm : Conditions sample := ⟨0, fun _ => true, none, none, bobOwn tailDigest⟩

def hear (k : Nat) (message : Fields) : Event sample := .receive k (.value (.dict message)) calm

def shortKey : Greeting :=
  .ofHello ⟨sample.sha256 [7], Hex.encode [7], Hex.encode (List.replicate 32 3), "n1",
    "eve"⟩

def shortKeyRun : List (Event sample) :=
  [.accept, hear 0 (initMessage shortKey), hear 0 (finishMessage "00")]

def annGreeting (nonce : Text) : Greeting :=
  .ofHello ((ann tailDigest).hello ⟨(annOwn tailDigest).ephemeral, nonce, "ann"⟩)

def annSignature (nonce : Text) : Text :=
  let transcript := responderTranscript (annGreeting nonce)
    (.ofHello ((bob tailDigest).hello (bobOwn tailDigest)))
  Hex.encode ((ann tailDigest).sign
    (computeInitiatorTranscript transcript (Hex.encode ((bob tailDigest).sign transcript))))

def twoConnections : List (Event sample) :=
  [.accept, .accept, hear 0 (initMessage (annGreeting "n1")),
    hear 1 (initMessage (annGreeting "n2")),
    hear 0 (finishMessage (annSignature "n1")),
    hear 1 (finishMessage (annSignature "n2"))]

theorem handshake_exceptions_escape : (∃ r, raised r ∈
        (run step (.start (bob tailDigest) none) shortKeyRun).sessions ∧
      r.classified = false ∧ r.caught = false) ∧
    ∃ r, raised r ∈
        (run step (.start (bob tailDigest) (some TrustStore.empty)) twoConnections).sessions ∧
      r.classified = false ∧ r.caught = false := by
  refine ⟨⟨.keyParsing, raised_of_failure ?_, rfl, rfl⟩,
    ⟨.alreadyKnown, raised_of_failure ?_, rfl, rfl⟩⟩
  · decide +kernel
  · decide +kernel

end Sample
end Peerc.Handshake.Escapes
