import Peerc.Lib.Bytes
import Peerc.Lib.Runs
import Peerc.Lib.Table

/-!
The connection manager: every connection is a task that runs a handshake, registers a session,
reads from it and cleans up. An event is what one task does between two suspensions.
-/
namespace Peerc.Transport

inductive ConnectionState where
  | new
  | tcpConnected
  | handshaking
  | authenticated
  | established
  | closing
  | closed
  deriving DecidableEq

structure InvalidConnectionTransition where
  source : ConnectionState
  target : ConnectionState
  deriving DecidableEq

namespace ConnectionState

def allowedTransitions : ConnectionState → List ConnectionState
  | new => [tcpConnected, closing]
  | tcpConnected => [handshaking, closing]
  | handshaking => [authenticated, closing]
  | authenticated => [established, closing]
  | established => [closing]
  | closing => [closing, closed]
  | closed => [closed]

def isTerminal (s : ConnectionState) : Bool := s = closing || s = closed

def transitionTo (s target : ConnectionState) :
    Except InvalidConnectionTransition ConnectionState :=
  if target ∈ s.allowedTransitions then .ok target else .error ⟨s, target⟩

end ConnectionState

/-- Which code started the connection. The relayed ones run over the session at r_key. -/
inductive Role where
  | incoming
  | dialled
  | relayedIn (rKey : Text)
  | relayedOut (rKey target : Text)
  deriving DecidableEq

def Role.rKey : Role → Option Text
  | .relayedIn r => some r
  | .relayedOut r _ => some r
  | _ => none

/-- closing is after the synchronous part of the finally block, finished after the whole task. -/
inductive Phase where
  | handshaking
  | reading
  | closing
  | finished
  deriving DecidableEq

/-- eof is that of the relayed stream reader; failed is history, set when a send has raised. -/
structure Conn where
  role : Role
  phase : Phase
  addrKey : Text
  peerDeviceId : Text
  state : ConnectionState
  eof : Bool
  failed : Bool
  deriving DecidableEq

def Conn.started (role : Role) : Conn := ⟨role, .handshaking, [], [], .new, false, false⟩

def Conn.registered (x : Conn) (key deviceId : Text) (state : ConnectionState) : Conn :=
  ⟨x.role, .reading, key, deviceId, state, x.eof, false⟩

def Conn.inPhase (x : Conn) (phase : Phase) : Conn := { x with phase := phase }

def Conn.markClosing (x : Conn) : Conn :=
  if x.state.isTerminal then x
  else
    match x.state.transitionTo .closing with
    | .ok state => { x with state := state }
    | .error _ => x

def addrKey (ip : Text) (port : Nat) : Text := ip ++ ':' :: Nat.toDigits 10 port

def socketKey : Option (Text × Nat) → Text
  | some (ip, port) => addrKey ip port
  | none => addrKey "0.0.0.0" 0

def relayedKey (deviceId : Text) : Text := addrKey ("relay-" ++ deviceId.take 8) 0

/-- None if connect_via_relay_tunnel refuses the peer. -/
def Role.sessionKey (peername : Option (Text × Nat)) (deviceId : Text) : Role → Option Text
  | .incoming => some (socketKey peername)
  | .dialled => some (socketKey peername)
  | .relayedIn _ => some (relayedKey deviceId)
  | .relayedOut _ target => if deviceId = target then some (relayedKey target) else none

/-- sends are the calls of send, send_binary and send_relay_data that wait for their session. -/
structure Manager where
  maxConnections : Nat
  conns : List Conn
  connections : Dict Text Nat
  connectionStates : Dict Text Nat
  relayPipes : Dict Text Text
  relayTunnels : Dict Text Nat
  tunnelRKeys : Dict Text Text
  sends : List (Nat × Text)

inductive FrameKind where
  | json
  | binary
  | relay
  | raw
  deriving DecidableEq

inductive Event where
  | handleIncoming
  | connectTo (ip : Text) (port : Nat)
  | connectViaRelayTunnel (rKey target : Text)
  | handshakeReturns (i : Nat) (peername : Option (Text × Nat)) (deviceId : Text)
  | handshakeFails (i : Nat)
  | frame (i : Nat) (kind : FrameKind)
  | readLoopStops (i : Nat)
  | taskReturns (i : Nat) (raised : Bool)
  | send (addrKey : Text)
  | sendReturns (n : Nat) (ok : Bool)
  | openRelayPipe (a b : Text)
  | closeRelayPipe (a : Text)
  deriving DecidableEq

namespace Manager

def start (maxConnections : Nat) : Manager :=
  ⟨maxConnections, [], .empty, .empty, .empty, .empty, .empty, []⟩

variable (s : Manager)

def atLimit : Bool := s.maxConnections ≤ s.connections.rows.length

def spawn (role : Role) : Manager :=
  { s with conns := s.conns ++ [.started role] }

variable (key : Text)

def registerRelayTunnel (reader : Nat) : Manager :=
  { s with relayTunnels := s.relayTunnels.set key reader }

def unregisterRelayTunnel : Manager :=
  { s with relayTunnels := s.relayTunnels.pop key }

def openTunnel (rKey : Text) (role : Role) : Manager :=
  (s.spawn role).registerRelayTunnel rKey s.conns.length

def findAddrKeyForDevice (deviceId : Text) : Option Text :=
  (s.connections.rows.find? fun row =>
    (s.conns[row.2]?.map Conn.peerDeviceId) = some deviceId).map Prod.fst

def getPeerDeviceId : Option Text :=
  (s.connections.get key).bind fun i => s.conns[i]?.map Conn.peerDeviceId

def handleIncoming : Manager :=
  if s.atLimit then s else s.spawn .incoming

def connectTo (ip : Text) (port : Nat) : Manager :=
  if (s.connections.get (addrKey ip port)).isSome then s
  else if s.atLimit then s
  else s.spawn .dialled

def connectViaRelayTunnel (rKey target : Text) : Manager :=
  if (s.findAddrKeyForDevice target).isSome then s
  else if s.atLimit then s
  else s.openTunnel rKey (.relayedOut rKey target)

def establish : Except InvalidConnectionTransition ConnectionState := do
  let s ← ConnectionState.new.transitionTo .tcpConnected
  let s ← s.transitionTo .handshaking
  let s ← s.transitionTo .authenticated
  s.transitionTo .established

variable (i : Nat)

def registerSession (key deviceId : Text) : Manager :=
  match establish with
  | .error _ => { s with connections := s.connections.set key i }
  | .ok state =>
      { s with
        connections := s.connections.set key i
        connectionStates := s.connectionStates.set key i
        conns := s.conns.modify i fun x => x.registered key deviceId state }

def withoutTunnel (tunnels : Dict Text Nat) : Option Text → Dict Text Nat
  | some r => tunnels.pop r
  | none => tunnels

def unregisterOwnTunnel (role : Role) : Manager :=
  { s with relayTunnels := withoutTunnel s.relayTunnels role.rKey }

def finish : Manager :=
  { s with conns := s.conns.modify i fun x => x.inPhase .finished }

def noteTunnelRKey (role : Role) : Manager :=
  { s with tunnelRKeys := match role.rKey with
      | some r => s.tunnelRKeys.set key r
      | none => s.tunnelRKeys }

def handshakeReturns (x : Conn) (peername : Option (Text × Nat)) (deviceId : Text) : Manager :=
  match x.role.sessionKey peername deviceId with
  | none => (s.unregisterOwnTunnel x.role).finish i
  | some key => (s.noteTunnelRKey key x.role).registerSession i key deviceId

def handshakeFails (x : Conn) : Manager :=
  (s.unregisterOwnTunnel x.role).finish i

def withoutPipe (pipes : Dict Text Text) (key : Text) : Dict Text Text :=
  match pipes.get key with
  | none => pipes
  | some paired => (pipes.pop key).pop paired

def closeRelayPipe : Manager :=
  { s with relayPipes := withoutPipe s.relayPipes key }

def openRelayPipe (a b : Text) : Manager :=
  { s with relayPipes := (s.relayPipes.set a b).set b a }

def closeState : Except InvalidConnectionTransition (List Conn) :=
  match s.connectionStates.get key with
  | none => .ok s.conns
  | some j =>
      match s.conns[j]? with
      | none => .ok s.conns
      | some x => do
          let state ← x.state.transitionTo .closing
          let state ← state.transitionTo .closed
          .ok (s.conns.modify j fun x => { x with state := state })

def feedEof (conns : List Conn) : Option Nat → List Conn
  | none => conns
  | some j => conns.modify j fun x => { x with eof := true }

def readLoopFinally (key : Text) : Manager :=
  match s.closeState key with
  | .error _ =>
      -- The transition raises out of the block and the rest of it does not run.
      { s with
        connectionStates := s.connectionStates.pop key
        conns := s.conns.modify i fun x => x.inPhase .closing }
  | .ok conns =>
      let tunnels := withoutTunnel s.relayTunnels (s.tunnelRKeys.get key)
      { s with
        connectionStates := s.connectionStates.pop key
        connections := s.connections.pop key
        relayPipes := withoutPipe s.relayPipes key
        tunnelRKeys := s.tunnelRKeys.pop key
        relayTunnels := tunnels.pop key
        conns := (feedEof conns (tunnels.get key)).modify i fun x => x.inPhase .closing }

def markClosing : Manager :=
  match s.connectionStates.get key with
  | none => s
  | some j => { s with conns := s.conns.modify j Conn.markClosing }

def send : Manager :=
  match s.connections.get key with
  | none => s
  | some i => { s with sends := s.sends ++ [(i, key)] }

def sendRaised (key : Text) : Manager :=
  { s with
    connections := s.connections.pop key
    conns := s.conns.modify i fun x => { x with failed := true } }.markClosing key

def sendReturns (n : Nat) (ok : Bool) : Manager :=
  match s.sends[n]? with
  | none => s
  | some (i, key) =>
      let rest := { s with sends := s.sends.eraseIdx n }
      if ok then rest else rest.sendRaised i key

/-- The state machine filed under the session's key lets a frame through. -/
def dispatches : Bool :=
  match (s.connectionStates.get key).bind (s.conns[·]?) with
  | none => true
  | some x => x.state = .established

def relayChunk : Manager :=
  match s.relayPipes.get key with
  | some paired => s.send paired
  | none =>
      match s.relayTunnels.get key with
      | some _ => s
      | none => if s.atLimit then s else s.openTunnel key (.relayedIn key)

def frame (x : Conn) (kind : FrameKind) : Manager :=
  if s.dispatches x.addrKey then
    match kind with
    | .relay => s.relayChunk x.addrKey
    | _ => s
  else s.readLoopFinally i x.addrKey

/-- What leaves the read loop of an incoming relayed connection is caught around the task. -/
def taskReturns (x : Conn) (raised : Bool) : Manager :=
  match raised, x.role with
  | true, .relayedIn r => (s.unregisterRelayTunnel r).finish i
  | _, _ => s.finish i

def inPhase (phase : Phase) (run : Conn → Manager) : Manager :=
  match s.conns[i]? with
  | none => s
  | some x => if x.phase = phase then run x else s

def step : Event → Manager
  | .handleIncoming => s.handleIncoming
  | .connectTo ip port => s.connectTo ip port
  | .connectViaRelayTunnel rKey target => s.connectViaRelayTunnel rKey target
  | .handshakeReturns i peername deviceId =>
      s.inPhase i .handshaking fun x => s.handshakeReturns i x peername deviceId
  | .handshakeFails i => s.inPhase i .handshaking fun x => s.handshakeFails i x
  | .frame i kind => s.inPhase i .reading fun x => s.frame i x kind
  | .readLoopStops i => s.inPhase i .reading fun x => s.readLoopFinally i x.addrKey
  | .taskReturns i raised => s.inPhase i .closing fun x => s.taskReturns i x raised
  | .send key => s.send key
  | .sendReturns n ok => s.sendReturns n ok
  | .openRelayPipe a b => s.openRelayPipe a b
  | .closeRelayPipe a => s.closeRelayPipe a

end Manager

@[simp] theorem establish_ok : Manager.establish = .ok .established := rfl

end Peerc.Transport
