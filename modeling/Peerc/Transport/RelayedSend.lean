import Mathlib.Logic.Function.Basic
import Peerc.Transport.Framing
import Peerc.Transport.Tunnels

/-!
Sending on a session. The writer of a tunnelled session is the stand-in whose drain sends the
bytes on the session with the relay, through the manager again.
-/
namespace Peerc.Transport
open Runs Manager
open Channel (ChannelError EncryptedTransport JsonCodec Message maxMessageSize maxSequence nonceLen
  sequenceSize typeRelay)
variable {M : Type}

/-! ## The layers of a send -/

structure Net where
  manager : Manager
  transports : Nat → EncryptedTransport

/-- write is what write_binary_frame makes of an exception in a drain. -/
inductive SendError where
  | channel (error : ChannelError)
  | write
  | recursion
  deriving DecidableEq

def SendError.isTransportError : SendError → Bool
  | .channel e => e.isTransportError
  | .write => true
  | .recursion => false

inductive SendResult where
  | returned (ok : Bool)
  | raised (error : SendError)
  deriving DecidableEq

namespace Net

def rKey (net : Net) (i : Nat) : Option Text := net.manager.conns[i]?.bind fun x => x.role.rKey

def withTransport (net : Net) (i : Nat) (transport : EncryptedTransport) : Net :=
  { net with transports := Function.update net.transports i transport }

/-- A send up to the drain: the bytes that write_binary_frame gives to the writer. -/
def stage (A : Aead) (net : Net) (i : Nat) (innerPayload : Bytes) :
    Net × Except ChannelError Bytes :=
  match (net.transports i).wirePayload A innerPayload [] with
  | (transport, .error e) => (net.withTransport i transport, .error e)
  | (transport, .ok payload) =>
      if transport.closed then (net.withTransport i transport, .error .connectionClosed)
      else
        match encodeBinaryFrame payload with
        | .error _ => (net.withTransport i transport, .error (.frameTooLarge payload.length))
        | .ok chunk =>
            (net.withTransport i { transport with written := transport.written ++ [payload] },
              .ok chunk)

def drain (relay : Net → Text → Bytes → Net × SendResult) (drains : Bool) (net : Net) (i : Nat)
    (chunk : Bytes) : Net × Except SendError Unit :=
  match net.rKey i with
  | none =>
      if drains then (net, .ok ())
      else
        (net.withTransport i { net.transports i with closed := true },
          .error (.channel .connectionClosed))
  | some r =>
      match relay net r chunk with
      -- The _send of open_relay_tunnel drops what send_relay_data returns.
      | (net, .returned _) => (net, .ok ())
      | (net, .raised _) => (net, .error .write)

def sendEncrypted (A : Aead) (relay : Net → Text → Bytes → Net × SendResult) (drains : Bool)
    (net : Net) (i : Nat) (innerPayload : Bytes) : Net × Except SendError Unit :=
  match net.stage A i innerPayload with
  | (net, .error e) => (net, .error (.channel e))
  | (net, .ok chunk) => net.drain relay drains i chunk

/-- With the number of nested calls the interpreter still allows. -/
def dispatch (A : Aead) (drains : Bool) : Nat → Net → Text → Bytes → Net × SendResult
  | 0, net, _, _ => (net, .raised .recursion)
  | depth + 1, net, key, innerPayload =>
      match net.manager.connections.get key with
      | none => (net, .returned false)
      | some i =>
          match net.sendEncrypted A
              (fun net r chunk => dispatch A drains depth net r (typeRelay :: chunk))
              drains i innerPayload with
          | (net, .ok ()) => (net, .returned true)
          | (net, .error e) =>
              if e.isTransportError then
                ({ net with manager := net.manager.sendRaised i key }, .returned false)
              else (net, .raised e)

variable (codec : JsonCodec M)

def send (A : Aead) (drains : Bool) (depth : Nat) (net : Net) (key : Text) (message : Message M) :
    Net × SendResult :=
  match net.manager.connections.get key with
  | none => (net, .returned false)
  | some _ =>
      match codec.inner message with
      | none => (net, .raised (.channel .unserialisable))
      | some innerPayload => net.dispatch A drains depth key innerPayload

/-! ## When a frame is handed over -/

/-- Written to a socket that takes it, or handed as a chunk to a live session with the relay. -/
def handsOver (A : Aead) (drains : Bool) : Nat → Net → Text → Bytes → Bool
  | 0, _, _, _ => false
  | depth + 1, net, key, innerPayload =>
      match net.manager.connections.get key with
      | none => false
      | some i =>
          match net.stage A i innerPayload with
          | (_, .error _) => false
          | (net, .ok chunk) =>
              match net.rKey i with
              | none => drains
              | some r => handsOver A drains depth net r (typeRelay :: chunk)

def handsOverMessage (A : Aead) (drains : Bool) (depth : Nat) (net : Net) (key : Text)
    (message : Message M) : Bool :=
  (codec.inner message).any (net.handsOver A drains depth key)

def MarkedClosing (net : Net) (i : Nat) : Prop :=
  ∃ x, net.manager.conns[i]? = some x ∧ x.state.isTerminal = true

def Truthful (A : Aead) (drains : Bool) (depth : Nat) (net : Net) (key : Text) (i : Nat)
    (message : Message M) : Prop :=
  (net.send codec A drains depth key message).2 =
      .returned (net.handsOverMessage codec A drains depth key message) ∧
    (net.handsOverMessage codec A drains depth key message = false →
      (net.send codec A drains depth key message).1.MarkedClosing i)

end Net

/-! ## When a frame gets to the relay -/

section Conditions
variable (A : Aead) (t : EncryptedTransport) (innerPayload ciphertext : Bytes)

/-- What the cipher makes of a payload under the key and the counter of the session. -/
def ciphertextOf : Option Bytes :=
  A.encrypt t.channel.sessionKeys.sendKey (bigEndian nonceLen t.channel.sendSequence)
    innerPayload []

/-- The session takes the frame. -/
structure Ready : Prop where
  counter : t.channel.sendSequence < 256 ^ sequenceSize
  encrypted : ciphertextOf A t innerPayload = some ciphertext
  opened : t.closed = false
  fits : sequenceSize + ciphertext.length ≤ maxMessageSize

/-- A TransportError: no number is left, the connection is closed or the frame is too large. -/
def Refused : Prop :=
  maxSequence < t.channel.sendSequence ∨ t.channel.sendSequence < 256 ^ sequenceSize ∧
    ∃ ciphertext, ciphertextOf A t innerPayload = some ciphertext ∧
      (t.closed = true ∨ maxMessageSize < sequenceSize + ciphertext.length)

/-- Another exception: the number does not fit the header, or the cipher does not take the
payload. -/
def Raises : Prop :=
  t.channel.sendSequence ≤ maxSequence ∧
    (256 ^ sequenceSize ≤ t.channel.sendSequence ∨ ciphertextOf A t innerPayload = none)

def wireFrame : Bytes :=
  let payload := bigEndian sequenceSize t.channel.sendSequence ++ ciphertext
  be32 (payload.length ||| binaryFlag) ++ payload

def Net.spent (net : Net) (i : Nat) : Net :=
  net.withTransport i { net.transports i with
    channel := (net.transports i).channel.advanced innerPayload []
    written := (net.transports i).written ++
      [bigEndian sequenceSize (net.transports i).channel.sendSequence ++ ciphertext] }

end Conditions

namespace Net
variable (A : Aead)

/-- The session of the key is registered and takes the frame; its socket takes the bytes, or the
session with the next relay carries them. -/
def Carried (drains : Bool) : Nat → Net → Text → Bytes → Prop
  | 0, _, _, _ => False
  | depth + 1, net, key, innerPayload => ∃ j ciphertext,
      net.manager.connections.get key = some j ∧
        Ready A (net.transports j) innerPayload ciphertext ∧
      match net.rKey j with
      | none => drains = true
      | some r => Carried drains depth (net.spent innerPayload ciphertext j) r
          (typeRelay :: wireFrame (net.transports j) ciphertext)

def Breaks (depth : Nat) (net : Net) (key : Text) (innerPayload : Bytes) : Prop :=
  depth = 0 ∨
    ∃ j, net.manager.connections.get key = some j ∧ Raises A (net.transports j) innerPayload

def Honest (codec : JsonCodec M) (drains : Bool) (depth : Nat) (net : Net) (i : Nat) (r : Text)
    (message : Message M) : Prop :=
  ∃ innerPayload, codec.inner message = some innerPayload ∧
    (Refused A (net.transports i) innerPayload ∨
      ∃ ciphertext, Ready A (net.transports i) innerPayload ciphertext ∧
        let after := net.spent innerPayload ciphertext i
        let chunk := typeRelay :: wireFrame (net.transports i) ciphertext
        after.Carried A drains depth r chunk ∨ after.Breaks A depth r chunk)

end Net

/-! ## Every session has its state machine -/

structure Machined (s : Manager) : Prop where
  machine : ∀ key j, s.connectionStates.get key = some j →
    ∃ x, s.conns[j]? = some x ∧ x.addrKey = key ∧ x.phase ≠ .handshaking ∧ x.state ≠ .closed
  covered : ∀ key i, s.connections.get key = some i → s.connectionStates.get key = some i

def MachinesKept (conns after : List Conn) : Prop :=
  ∀ (j : Nat) (x : Conn), conns[j]? = some x → x.phase ≠ .handshaking → x.state ≠ .closed →
    ∃ y, after[j]? = some y ∧ y.addrKey = x.addrKey ∧ y.phase ≠ .handshaking ∧ y.state ≠ .closed

section Machines
variable {s t : Manager}

theorem machines_kept_refl (conns : List Conn) : MachinesKept conns conns :=
  fun _ x found registered alive => ⟨x, found, rfl, registered, alive⟩

theorem machines_kept_modify {conns after : List Conn} (kept : MachinesKept conns after) (i : Nat)
    {f : Conn → Conn} (key : ∀ x, (f x).addrKey = x.addrKey)
    (phase : ∀ x, x.phase ≠ .handshaking → (f x).phase ≠ .handshaking)
    (state : ∀ x, x.state ≠ .closed → (f x).state ≠ .closed) :
    MachinesKept conns (after.modify i f) := by
  intro j x found registered alive
  obtain ⟨y, there, same, later, living⟩ := kept j x found registered alive
  by_cases here : j = i
  · subst here
    exact ⟨f y, modify_at there, (key y).trans same, phase y later, state y living⟩
  · exact ⟨y, (modify_other here).trans there, same, later, living⟩

theorem closing_allowed {state : ConnectionState} (alive : state ≠ .closed) :
    state.transitionTo .closing = .ok .closing := by
  cases state <;> first | rfl | exact absurd rfl alive

theorem mark_closing_alive (x : Conn) (alive : x.state ≠ .closed) :
    x.markClosing.state ≠ .closed := by
  unfold Conn.markClosing
  split
  · exact alive
  · rw [closing_allowed alive]
    nofun

theorem mark_closing_session (x : Conn) :
    x.markClosing.addrKey = x.addrKey ∧ x.markClosing.phase = x.phase := by
  unfold Conn.markClosing
  split
  · exact ⟨rfl, rfl⟩
  · split <;> exact ⟨rfl, rfl⟩

section Machined
variable (machined : Machined s)
include machined

theorem machined_kept (kept : MachinesKept s.conns t.conns)
    (states : t.connectionStates = s.connectionStates)
    (fewer : ∀ key i, t.connections.get key = some i → s.connections.get key = some i) :
    Machined t := by
  constructor
  · intro key j filed
    rw [states] at filed
    obtain ⟨x, found, same, registered, alive⟩ := machined.machine key j filed
    obtain ⟨y, there, kept_key, later, living⟩ := kept j x found registered alive
    exact ⟨y, there, kept_key.trans same, later, living⟩
  · intro key i found
    rw [states]
    exact machined.covered key i (fewer key i found)

theorem machined_grown {conn : Conn} (conns : t.conns = s.conns ++ [conn])
    (states : t.connectionStates = s.connectionStates) (same : t.connections = s.connections) :
    Machined t := by
  refine machined_kept machined ?_ states fun key i found => same ▸ found
  intro _ x found registered alive
  rw [conns]
  exact ⟨x, found_append found, rfl, registered, alive⟩

theorem machined_register {i : Nat} {x : Conn} (found : s.conns[i]? = some x)
    (phase : x.phase = .handshaking) (key deviceId : Text) :
    Machined (s.registerSession i key deviceId) := by
  unfold registerSession
  rw [establish_ok]
  constructor
  · intro other j filed
    rw [Dict.get_set] at filed
    split at filed
    · next same =>
      cases filed
      subst same
      exact ⟨_, modify_at found, rfl, nofun, nofun⟩
    · obtain ⟨y, there, own, registered, alive⟩ := machined.machine other j filed
      have apart : j ≠ i := by
        rintro rfl
        cases found.symm.trans there
        exact registered phase
      exact ⟨y, (modify_other apart).trans there, own, registered, alive⟩
  · intro other j there
    rw [Dict.get_set] at there ⊢
    split
    · next same =>
      rw [if_pos same] at there
      exact there
    · next apart =>
      rw [if_neg apart] at there
      exact machined.covered other j there

theorem close_state_machines (key : Text) :
    ∃ conns, s.closeState key = .ok conns ∧ ∀ other j, other ≠ key →
      s.connectionStates.get other = some j →
        ∃ x, conns[j]? = some x ∧ x.addrKey = other ∧ x.phase ≠ .handshaking ∧
          x.state ≠ .closed := by
  unfold closeState
  cases filed : s.connectionStates.get key with
  | none => exact ⟨s.conns, rfl, fun other j _ there => machined.machine other j there⟩
  | some j =>
    obtain ⟨_, found, own, _, alive⟩ := machined.machine key j filed
    have closed : ConnectionState.closing.transitionTo .closed = .ok .closed := rfl
    dsimp only
    rw [found]
    simp only [closing_allowed alive, closed, bind, Except.bind]
    refine ⟨_, rfl, fun other k apart there => ?_⟩
    obtain ⟨y, held, key', phase, state⟩ := machined.machine other k there
    have distinct : k ≠ j := by
      rintro rfl
      cases found.symm.trans held
      exact apart (key'.symm.trans own)
    exact ⟨y, (modify_other distinct).trans held, key', phase, state⟩

theorem machined_read_loop_finally (i : Nat) (key : Text) : Machined (s.readLoopFinally i key) := by
  obtain ⟨conns, closed, others⟩ := close_state_machines machined key
  unfold readLoopFinally
  rw [closed]
  have fed (reader : Option Nat) : MachinesKept conns (feedEof conns reader) := by
    cases reader with
    | none => exact machines_kept_refl _
    | some k =>
      exact machines_kept_modify (machines_kept_refl _) k (fun _ => rfl) (fun _ kept => kept)
        fun _ kept => kept
  constructor
  · intro other j filed
    obtain ⟨apart, filed⟩ := Dict.of_get_pop filed
    obtain ⟨x, found, own, registered, alive⟩ := others other j apart filed
    have kept := machines_kept_modify (fed ((withoutTunnel s.relayTunnels
      (s.tunnelRKeys.get key)).get key)) i (f := fun x => x.inPhase .closing) (fun _ => rfl)
      (fun _ _ => nofun) (fun _ kept => kept)
    obtain ⟨y, there, same, later, living⟩ := kept j x found registered alive
    exact ⟨y, there, same.trans own, later, living⟩
  · intro other j there
    obtain ⟨apart, there⟩ := Dict.of_get_pop there
    rw [Dict.get_pop, if_neg apart]
    exact machined.covered other j there

end Machined

theorem send_raised_kept (s : Manager) (i : Nat) (key : Text) :
    MachinesKept s.conns (s.sendRaised i key).conns ∧
      (s.sendRaised i key).connectionStates = s.connectionStates ∧
      (s.sendRaised i key).connections = s.connections.pop key := by
  have failed : MachinesKept s.conns (s.conns.modify i fun x => { x with failed := true }) :=
    machines_kept_modify (machines_kept_refl _) i (fun _ => rfl) (fun _ kept => kept)
      fun _ kept => kept
  unfold sendRaised markClosing
  split
  · exact ⟨failed, rfl, rfl⟩
  · next j _ =>
    refine ⟨?_, rfl, rfl⟩
    refine machines_kept_modify failed j (fun x => (mark_closing_session x).1) ?_ mark_closing_alive
    intro x kept
    rw [(mark_closing_session x).2]
    exact kept

theorem machined_send_raised (machined : Machined s) (i : Nat) (key : Text) :
    Machined (s.sendRaised i key) := by
  obtain ⟨kept, states, connections⟩ := send_raised_kept s i key
  refine machined_kept machined kept states ?_
  intro _ _ there
  rw [connections] at there
  exact (Dict.of_get_pop there).2

theorem machined_finished (machined : Machined s) (i : Nat) (tunnels : Dict Text Nat) :
    Machined { s with
      relayTunnels := tunnels
      conns := s.conns.modify i fun x => x.inPhase .finished } :=
  machined_kept machined (machines_kept_modify (machines_kept_refl _) i (fun _ => rfl)
    (fun _ _ => nofun) fun _ alive => alive) rfl fun _ _ found => found

theorem machined_step (machined : Machined s) (e : Event) : Machined (s.step e) := by
  have change := s.step_change e
  generalize s.step e = t at change ⊢
  cases change with
  | same => exact machined
  | spawned | opened => exact machined_grown machined rfl rfl rfl
  | @joined _ x key deviceId found phase =>
    have noted : Machined (s.noteTunnelRKey key x.role) := ⟨machined.machine, machined.covered⟩
    exact machined_register noted found phase key deviceId
  | @failed i => exact machined_finished machined i _
  | ended => exact machined_read_loop_finally machined _ _
  | @returned i =>
    unfold taskReturns
    split <;> exact machined_finished machined i _
  | sent =>
    unfold send
    split
    · exact machined
    · exact ⟨machined.machine, machined.covered⟩
  | answered n =>
    unfold sendReturns
    split
    · exact machined
    · next i key _ =>
      have fewer : Machined { s with sends := s.sends.eraseIdx n } :=
        ⟨machined.machine, machined.covered⟩
      split
      · exact fewer
      · exact machined_send_raised fewer i key
  | piped => exact ⟨machined.machine, machined.covered⟩

theorem machined_run (maxConnections : Nat) (events : List Event) :
    Machined (run step (.start maxConnections) events) := by
  have start : Machined (.start maxConnections) := ⟨nofun, nofun⟩
  exact invariant_free (fun s e (machined : Machined s) => machined_step machined e) start events

end Machines

/-! ## What a send says about itself -/

theorem mark_closing_terminal (x : Conn) : x.markClosing.state.isTerminal = true := by
  unfold Conn.markClosing
  split
  · next terminal => exact terminal
  · next alive =>
    have open_ : x.state ≠ .closed := fun closed => alive (by rw [closed]; rfl)
    rw [closing_allowed open_]
    rfl

theorem send_raised_marks {s : Manager} {i : Nat} {key : Text}
    (filed : s.connectionStates.get key = some i) (within : i < s.conns.length) :
    ∃ x, (s.sendRaised i key).conns[i]? = some x ∧ x.state.isTerminal = true := by
  unfold sendRaised markClosing
  rw [filed]
  exact ⟨_, modify_at (modify_at (List.getElem?_eq_getElem within)), mark_closing_terminal _⟩

section Sends
variable {A : Aead} {drains : Bool}

theorem stage_manager (A : Aead) (net : Net) (i : Nat) (innerPayload : Bytes) :
    (net.stage A i innerPayload).1.manager = net.manager := by
  unfold Net.stage
  split
  · rfl
  · split
    · rfl
    · split <;> rfl

section Stage
variable {t : EncryptedTransport} {innerPayload ciphertext : Bytes}

theorem ready_unique (ready : Ready A t innerPayload ciphertext) (P : Bytes → Prop) :
    (∃ c, Ready A t innerPayload c ∧ P c) ↔ P ciphertext := by
  constructor
  · rintro ⟨_, other, holds⟩
    cases other.encrypted.symm.trans ready.encrypted
    exact holds
  · exact fun holds => ⟨ciphertext, ready, holds⟩

theorem ready_not_refused (ready : Ready A t innerPayload ciphertext) :
    ¬ Refused A t innerPayload := by
  rintro (exhausted | ⟨_, _, encrypted, shut⟩)
  · have narrow : 256 ^ sequenceSize ≤ maxSequence := by decide
    exact absurd (ready.counter.trans_le narrow) exhausted.asymm
  · cases encrypted.symm.trans ready.encrypted
    rcases shut with closed | large
    · cases closed.symm.trans ready.opened
    · exact absurd large ready.fits.not_gt

theorem raises_alone (raises : Raises A t innerPayload) :
    (∀ ciphertext, ¬ Ready A t innerPayload ciphertext) ∧ ¬ Refused A t innerPayload := by
  obtain ⟨within, wide | refuses⟩ := raises
  · refine ⟨fun _ ready => absurd ready.counter wide.not_gt, ?_⟩
    rintro (exhausted | ⟨counter, _⟩)
    · exact absurd exhausted within.not_gt
    · exact absurd counter wide.not_gt
  · refine ⟨fun _ ready => Option.some_ne_none _ (ready.encrypted.symm.trans refuses), ?_⟩
    rintro (exhausted | ⟨_, _, encrypted, _⟩)
    · exact absurd exhausted within.not_gt
    · cases encrypted.symm.trans refuses

/-- How a send goes up to the drain. -/
inductive Staged (A : Aead) (net : Net) (i : Nat) (innerPayload : Bytes) :
    Net × Except ChannelError Bytes → Prop
  | ready {ciphertext : Bytes} (ready : Ready A (net.transports i) innerPayload ciphertext) :
      Staged A net i innerPayload
        (net.spent innerPayload ciphertext i, .ok (wireFrame (net.transports i) ciphertext))
  | refused {after : Net} {e : ChannelError} (refused : Refused A (net.transports i) innerPayload)
      (caught : e.isTransportError = true) : Staged A net i innerPayload (after, .error e)
  | raises {after : Net} {e : ChannelError} (raises : Raises A (net.transports i) innerPayload)
      (escapes : e.isTransportError = false) : Staged A net i innerPayload (after, .error e)

theorem stage_staged (A : Aead) (net : Net) (i : Nat) (innerPayload : Bytes) :
    Staged A net i innerPayload (net.stage A i innerPayload) := by
  rw [Net.stage, Channel.wire_payload_eq]
  by_cases exhausted : maxSequence < (net.transports i).channel.sendSequence
  · rw [if_pos exhausted]
    exact .refused (.inl exhausted) rfl
  have within := Nat.le_of_not_lt exhausted
  rw [if_neg exhausted]
  cases encrypted : A.encrypt (net.transports i).channel.sessionKeys.sendKey
      (bigEndian nonceLen (net.transports i).channel.sendSequence) innerPayload [] with
  | none => exact .raises ⟨within, .inr encrypted⟩ rfl
  | some ciphertext =>
    dsimp only
    by_cases wide : 256 ^ sequenceSize ≤ (net.transports i).channel.sendSequence
    · rw [if_pos wide]
      exact .raises ⟨within, .inl wide⟩ rfl
    have counter := Nat.lt_of_not_le wide
    rw [if_neg wide]
    cases closed : (net.transports i).closed with
    | true => exact .refused (.inr ⟨counter, ciphertext, encrypted, .inl closed⟩) rfl
    | false =>
      have size : (bigEndian sequenceSize (net.transports i).channel.sendSequence ++
          ciphertext).length = sequenceSize + ciphertext.length := by
        rw [List.length_append, length_bigEndian]
      dsimp only
      rw [if_neg Bool.false_ne_true, encodeBinaryFrame, size]
      by_cases large : maxMessageSize < sequenceSize + ciphertext.length
      · rw [if_pos large]
        exact .refused (.inr ⟨counter, ciphertext, encrypted, .inr large⟩) rfl
      · have ready := Staged.ready ⟨counter, encrypted, closed, Nat.le_of_not_lt large⟩
        simpa only [if_neg large, Net.spent, wireFrame, size, closed] using ready

end Stage

structure Kept (before after : Net) : Prop where
  states : after.manager.connectionStates = before.manager.connectionStates
  conns : after.manager.conns.length = before.manager.conns.length

theorem Kept.trans {first second third : Net} (here : Kept first second)
    (there : Kept second third) : Kept first third :=
  ⟨there.states.trans here.states, there.conns.trans here.conns⟩

theorem drain_kept {relay : Net → Text → Bytes → Net × SendResult}
    (kept : ∀ net r chunk, Kept net (relay net r chunk).1) (net : Net) (i : Nat) (chunk : Bytes) :
    Kept net (net.drain relay drains i chunk).1 := by
  unfold Net.drain
  split
  · split <;> exact ⟨rfl, rfl⟩
  · next r _ =>
    have after := kept net r chunk
    split
    · next relayed =>
      rw [relayed] at after
      exact after
    · next relayed =>
      rw [relayed] at after
      exact after

theorem send_encrypted_kept {relay : Net → Text → Bytes → Net × SendResult}
    (kept : ∀ net r chunk, Kept net (relay net r chunk).1) (net : Net) (i : Nat)
    (innerPayload : Bytes) : Kept net (net.sendEncrypted A relay drains i innerPayload).1 := by
  have same := stage_manager A net i innerPayload
  have before : Kept net (net.stage A i innerPayload).1 := ⟨by rw [same], by rw [same]⟩
  unfold Net.sendEncrypted
  split
  · next staged =>
    rw [staged] at before
    exact before
  · next after chunk staged =>
    rw [staged] at before
    exact before.trans (drain_kept kept after i chunk)

theorem dispatch_kept (depth : Nat) (net : Net) (key : Text) (innerPayload : Bytes) :
    Kept net (net.dispatch A drains depth key innerPayload).1 := by
  induction depth generalizing net key innerPayload with
  | zero => exact ⟨rfl, rfl⟩
  | succ depth ih =>
    unfold Net.dispatch
    split
    · exact ⟨rfl, rfl⟩
    · next i _ =>
      have sent : Kept net (net.sendEncrypted A
          (fun net r chunk => net.dispatch A drains depth r (typeRelay :: chunk)) drains i
          innerPayload).1 :=
        send_encrypted_kept (fun net r chunk => ih net r (typeRelay :: chunk)) net i innerPayload
      split
      · next done =>
        rw [done] at sent
        exact sent
      · next after e failed =>
        rw [failed] at sent
        split
        · refine sent.trans ⟨(send_raised_kept after.manager i key).2.1, ?_⟩
          unfold sendRaised markClosing
          dsimp only
          split <;> simp
        · exact sent

section Level
variable {depth : Nat} {net after : Net} {key : Text} {i : Nat} {innerPayload : Bytes}

variable (found : net.manager.connections.get key = some i)
include found

theorem dispatch_failed {e : ChannelError}
    (staged : net.stage A i innerPayload = (after, .error e)) :
    net.dispatch A drains (depth + 1) key innerPayload =
      if e.isTransportError then
        ({ after with manager := after.manager.sendRaised i key }, .returned false)
      else (after, .raised (.channel e)) := by
  simp only [Net.dispatch, found, Net.sendEncrypted, staged]
  rfl

theorem dispatch_relayed {r : Text} {chunk : Bytes}
    (staged : net.stage A i innerPayload = (after, .ok chunk)) (carried : after.rKey i = some r) :
    net.dispatch A drains (depth + 1) key innerPayload =
      match after.dispatch A drains depth r (typeRelay :: chunk) with
      | (last, .returned _) => (last, .returned true)
      | (last, .raised _) =>
          ({ last with manager := last.manager.sendRaised i key }, .returned false) := by
  simp only [Net.dispatch, found, Net.sendEncrypted, staged, Net.drain, carried]
  rcases after.dispatch A drains depth r (typeRelay :: chunk) with ⟨last, ok | e⟩ <;> rfl

theorem hands_over_failed {e : ChannelError}
    (staged : net.stage A i innerPayload = (after, .error e)) :
    net.handsOver A drains (depth + 1) key innerPayload = false := by
  simp [Net.handsOver, found, staged]

theorem hands_over_staged {chunk : Bytes}
    (staged : net.stage A i innerPayload = (after, .ok chunk)) :
    net.handsOver A drains (depth + 1) key innerPayload =
      match after.rKey i with
      | none => drains
      | some r => after.handsOver A drains depth r (typeRelay :: chunk) := by
  simp [Net.handsOver, found, staged]

end Level

theorem handed_over_returns (depth : Nat) (net : Net) (key : Text) (innerPayload : Bytes)
    (handed : net.handsOver A drains depth key innerPayload = true) :
    (net.dispatch A drains depth key innerPayload).2 = .returned true := by
  induction depth generalizing net key innerPayload with
  | zero => cases handed
  | succ depth ih =>
    cases found : net.manager.connections.get key with
    | none =>
      simp only [Net.handsOver, found] at handed
      cases handed
    | some i =>
      rcases staged : net.stage A i innerPayload with ⟨after, e | chunk⟩
      · rw [hands_over_failed found staged] at handed
        cases handed
      · rw [hands_over_staged found staged] at handed
        cases carried : after.rKey i with
        | none =>
          rw [carried] at handed
          simp only [Net.dispatch, found, Net.sendEncrypted, staged, Net.drain, carried]
          rw [if_pos handed]
        | some r =>
          rw [carried] at handed
          have nested := ih after r (typeRelay :: chunk) handed
          rw [dispatch_relayed found staged carried]
          rcases relayed : after.dispatch A drains depth r (typeRelay :: chunk) with ⟨_, result⟩
          rw [relayed] at nested
          rw [show result = .returned true from nested]

theorem hands_over_iff (depth : Nat) (net : Net) (key : Text) (innerPayload : Bytes) :
    net.handsOver A drains depth key innerPayload = true ↔
      net.Carried A drains depth key innerPayload := by
  induction depth generalizing net key innerPayload with
  | zero => exact iff_of_false Bool.false_ne_true id
  | succ depth ih =>
    cases found : net.manager.connections.get key with
    | none => simp [Net.handsOver, Net.Carried, found]
    | some i =>
      have carried : net.Carried A drains (depth + 1) key innerPayload ↔
          ∃ ciphertext, Ready A (net.transports i) innerPayload ciphertext ∧
            match net.rKey i with
            | none => drains = true
            | some r => (net.spent innerPayload ciphertext i).Carried A drains depth r
                (typeRelay :: wireFrame (net.transports i) ciphertext) := by
        simp [Net.Carried, found]
      rw [carried]
      have outcome := stage_staged A net i innerPayload
      generalize staged : net.stage A i innerPayload = result at outcome
      cases outcome with
      | @ready c ready =>
        have same : (net.spent innerPayload c i).rKey i = net.rKey i := rfl
        rw [hands_over_staged found staged, ready_unique ready, same]
        cases net.rKey i with
        | none => rfl
        | some r => exact ih _ r _
      | refused refused =>
        rw [hands_over_failed found staged]
        exact iff_of_false Bool.false_ne_true fun ⟨_, ready, _⟩ => ready_not_refused ready refused
      | raises raises =>
        rw [hands_over_failed found staged]
        exact iff_of_false Bool.false_ne_true fun ⟨_, ready, _⟩ => (raises_alone raises).1 _ ready

theorem dispatch_returns_iff (depth : Nat) (net : Net) (key : Text) (innerPayload : Bytes) :
    (∃ ok, (net.dispatch A drains depth key innerPayload).2 = .returned ok) ↔
      ¬ net.Breaks A depth key innerPayload := by
  cases depth with
  | zero => simp [Net.dispatch, Net.Breaks]
  | succ depth =>
    cases found : net.manager.connections.get key with
    | none => simp [Net.dispatch, Net.Breaks, found]
    | some i =>
      have breaks : net.Breaks A (depth + 1) key innerPayload ↔
          Raises A (net.transports i) innerPayload := by
        simp [Net.Breaks, found]
      rw [breaks]
      have outcome := stage_staged A net i innerPayload
      generalize staged : net.stage A i innerPayload = result at outcome
      cases outcome with
      | @ready c ready =>
        refine iff_of_true ?_ fun raises => (raises_alone raises).1 c ready
        cases carrier : (net.spent innerPayload c i).rKey i with
        | none =>
          simp only [Net.dispatch, found, Net.sendEncrypted, staged, Net.drain, carrier]
          cases drains <;> exact ⟨_, rfl⟩
        | some r =>
          rw [dispatch_relayed found staged carrier]
          rcases (net.spent innerPayload c i).dispatch A drains depth r
            (typeRelay :: wireFrame (net.transports i) c) with ⟨_, _ | _⟩ <;> exact ⟨_, rfl⟩
      | refused refused caught =>
        rw [dispatch_failed found staged, if_pos caught]
        exact iff_of_true ⟨_, rfl⟩ fun raises => (raises_alone raises).2 refused
      | raises raises escapes =>
        rw [dispatch_failed found staged, escapes]
        simp [raises]

end Sends

/-- What a send on a tunnelled session returns is truthful if and only if the send is honest. -/
theorem relayed_send_truthful_iff (codec : JsonCodec M) (A : Aead) (drains : Bool) (depth : Nat)
    (maxConnections : Nat) (events : List Event) (net : Net)
    (reached : net.manager = run step (.start maxConnections) events) {key r : Text} {i : Nat}
    (session : net.manager.connections.get key = some i) (tunnelled : net.rKey i = some r)
    (message : Message M) : net.Truthful codec A drains (depth + 1) key i message ↔
      net.Honest A codec drains depth i r message := by
  have machined : Machined net.manager := reached ▸ machined_run maxConnections events
  have filed := machined.covered key i session
  have within : i < net.manager.conns.length := by
    obtain ⟨_, found, _⟩ := machined.machine key i filed
    exact index_lt found
  unfold Net.Truthful Net.Honest Net.send Net.handsOverMessage
  rw [session]
  cases codec.inner message with
  | none => simp
  | some innerPayload =>
    simp only [Option.any_some, Option.some.injEq, exists_eq_left']
    have outcome := stage_staged A net i innerPayload
    have same := stage_manager A net i innerPayload
    generalize staged : net.stage A i innerPayload = result at outcome same
    cases outcome with
    | @ready c ready =>
      have carried : (net.spent innerPayload c i).rKey i = some r := tunnelled
      rw [or_iff_right (ready_not_refused ready), ready_unique ready,
        dispatch_relayed session staged carried, hands_over_staged session staged, carried]
      dsimp only
      generalize net.spent innerPayload c i = after at same ⊢
      generalize typeRelay :: wireFrame (net.transports i) c = chunk
      have returns := @dispatch_returns_iff A drains depth after r chunk
      have reported := @handed_over_returns A drains depth after r chunk
      have kept := @dispatch_kept A drains depth after r chunk
      rw [← hands_over_iff]
      generalize after.dispatch A drains depth r chunk = outcome at returns reported kept ⊢
      rcases outcome with ⟨last, ok | e⟩
      · rw [or_iff_left (returns.mp ⟨ok, rfl⟩)]
        cases after.handsOver A drains depth r chunk with
        | true => exact iff_of_true ⟨rfl, nofun⟩ rfl
        | false => exact iff_of_false (fun truthful => nomatch truthful.1) Bool.false_ne_true
      · -- The exception comes up as a TransportError, which the manager catches.
        have broken : after.Breaks A depth r chunk := by
          by_contra whole
          obtain ⟨_, returned⟩ := returns.mpr whole
          cases returned
        have lost := Bool.eq_false_iff.mpr fun handed => nomatch reported handed
        rw [lost]
        rw [← same, ← kept.states] at filed
        rw [← same, ← kept.conns] at within
        exact iff_of_true ⟨rfl, fun _ => send_raised_marks filed within⟩ (.inr broken)
    | refused refused caught =>
      rw [dispatch_failed session staged, hands_over_failed session staged, if_pos caught]
      rw [← same] at filed within
      exact iff_of_true ⟨rfl, fun _ => send_raised_marks filed within⟩ (.inl refused)
    | raises raises escapes =>
      rw [dispatch_failed session staged, hands_over_failed session staged, escapes]
      refine iff_of_false (fun truthful => nomatch truthful.1) ?_
      rintro (refused | ⟨_, ready, _⟩)
      · exact (raises_alone raises).2 refused
      · exact (raises_alone raises).1 _ ready

section Sample

def tunnelChannel : Channel.SecureChannel :=
  ⟨⟨List.replicate 32 1, List.replicate 32 2, []⟩, 0, 0, [],
    List.length_replicate, List.length_replicate⟩

def relayNet (lost : Bool) : Net := ⟨tunnelRun [], fun i => ⟨tunnelChannel, i = 0 && lost, []⟩⟩

def overRelay : Text := relayedKey "T"

theorem live_relay_truthful :
    (relayNet false).Truthful digitCodec Aead.labelled true 9 overRelay 1 (.binary [7]) := by
  have session : (relayNet false).manager.connections.get overRelay = some 1 := by decide +kernel
  have carried : (relayNet false).rKey 1 = some relayAt := by decide +kernel
  apply (relayed_send_truthful_iff digitCodec Aead.labelled true 8 8 (tunnelled ++ [])
    (relayNet false) rfl session carried (.binary [7])).mpr
  refine ⟨_, rfl, .inr ⟨_, ⟨by decide, rfl, rfl, by decide +kernel⟩, .inl ?_⟩⟩
  have registered : (relayNet false).manager.connections.get relayAt = some 0 := by decide +kernel
  have direct (p c : Bytes) : ((relayNet false).spent p c 1).rKey 0 = none := by
    change (relayNet false).rKey 0 = none
    decide +kernel
  refine ⟨0, _, registered, ⟨by decide, rfl, rfl, by decide +kernel⟩, ?_⟩
  rw [direct]

theorem true_after_relay_lost :
    ((relayNet true).send digitCodec Aead.labelled true 9 overRelay (.binary [7])).2 =
        .returned true ∧
      (relayNet true).handsOverMessage digitCodec Aead.labelled true 9 overRelay (.binary [7]) =
        false := by
  decide +kernel

end Sample

end Peerc.Transport
