import Peerc.Lib.Pairing
import Peerc.Transport.Manager

/-!
The relay pipes of the connection manager. A relay chunk is handed to the session at the other
end of the pipe and nowhere else.
-/
namespace Peerc.Transport
open Pairing

namespace Manager

variable (s : Manager)

def readingAt (i : Nat) : Option Conn :=
  s.conns[i]?.filter (fun x => x.phase = .reading)

def finallyCloses (key : Text) : Option Text :=
  match s.closeState key with
  | .ok _ => some key
  | .error _ => none

def closes : Event → Option Text
  | .closeRelayPipe a => some a
  | .readLoopStops i => (s.readingAt i).bind fun x => s.finallyCloses x.addrKey
  | .frame i _ => (s.readingAt i).bind fun x =>
      if s.dispatches x.addrKey then none else s.finallyCloses x.addrKey
  | _ => none

def pipesWithout : Option Text → Dict Text Text
  | some a => part s.relayPipes a
  | none => s.relayPipes

theorem without_pipe_eq (pipes : Dict Text Text) (key : Text) :
    withoutPipe pipes key = part pipes key := by
  unfold withoutPipe part
  cases pipes.get key <;> rfl

section Unchanged
variable (s : Manager)

theorem pipes_send (key : Text) : (s.send key).relayPipes = s.relayPipes := by
  unfold send
  split <;> rfl

theorem pipes_send_returns (n : Nat) (ok : Bool) :
    (s.sendReturns n ok).relayPipes = s.relayPipes := by
  unfold sendReturns
  split
  · rfl
  · split
    · rfl
    · unfold sendRaised markClosing
      dsimp only
      split <;> rfl

theorem pipes_relay_chunk (key : Text) : (s.relayChunk key).relayPipes = s.relayPipes := by
  unfold relayChunk
  split
  · exact pipes_send s _
  · split
    · rfl
    · split <;> rfl

end Unchanged

theorem pipes_read_loop_finally (s : Manager) (i : Nat) (key : Text) :
    (s.readLoopFinally i key).relayPipes = s.pipesWithout (s.finallyCloses key) := by
  unfold readLoopFinally finallyCloses
  cases s.closeState key with
  | error => rfl
  | ok => exact without_pipe_eq s.relayPipes key

variable {s : Manager}

theorem pipes_in_phase {i : Nat} {phase : Phase} {go : Conn → Manager}
    (each : ∀ x, (go x).relayPipes = s.relayPipes) :
    (s.inPhase i phase go).relayPipes = s.relayPipes := by
  unfold inPhase
  split
  · rfl
  · split
    · exact each _
    · rfl

theorem pipes_reading {i : Nat} {go : Conn → Manager} {closed : Conn → Option Text}
    (each : ∀ x, (go x).relayPipes = s.pipesWithout (closed x)) :
    (s.inPhase i .reading go).relayPipes = s.pipesWithout ((s.readingAt i).bind closed) := by
  unfold inPhase readingAt
  cases s.conns[i]? with
  | none => rfl
  | some x =>
    by_cases reading : x.phase = .reading
    · simp [reading, each, Option.filter]
    · simp [reading, pipesWithout, Option.filter]

theorem pipes_frame (s : Manager) (i : Nat) (x : Conn) (kind : FrameKind) :
    (s.frame i x kind).relayPipes = s.pipesWithout
      (if s.dispatches x.addrKey then none else s.finallyCloses x.addrKey) := by
  unfold frame
  split
  · cases kind with
    | relay => exact pipes_relay_chunk s x.addrKey
    | json | binary | raw => rfl
  · exact pipes_read_loop_finally s i x.addrKey

theorem pipes_step (s : Manager) (e : Event) : (s.step e).relayPipes =
    match e with
    | .openRelayPipe a b => join s.relayPipes a b
    | e => s.pipesWithout (s.closes e) := by
  cases e with
  | handleIncoming =>
    simp only [step, handleIncoming]
    split <;> rfl
  | connectTo =>
    simp only [step, connectTo]
    split
    · rfl
    · split <;> rfl
  | connectViaRelayTunnel =>
    simp only [step, connectViaRelayTunnel]
    split
    · rfl
    · split <;> rfl
  | handshakeReturns i peername deviceId =>
    refine pipes_in_phase fun x => ?_
    unfold handshakeReturns
    split <;> rfl
  | handshakeFails => exact pipes_in_phase fun _ => rfl
  | frame i kind => exact pipes_reading fun x => pipes_frame s i x kind
  | readLoopStops i => exact pipes_reading fun x => pipes_read_loop_finally s i x.addrKey
  | taskReturns =>
    refine pipes_in_phase fun x => ?_
    unfold taskReturns
    split <;> rfl
  | send key => exact pipes_send s key
  | sendReturns n ok => exact pipes_send_returns s n ok
  | openRelayPipe => rfl
  | closeRelayPipe a => exact without_pipe_eq s.relayPipes a

theorem relay_frame_sends {i : Nat} {x : Conn} (found : s.conns[i]? = some x) :
    (s.step (.frame i .relay)).sends = s.sends ∨
      ∃ b j, s.relayPipes.get x.addrKey = some b ∧ s.connections.get b = some j ∧
        (s.step (.frame i .relay)).sends = s.sends ++ [(j, b)] := by
  simp only [step, inPhase, found, frame]
  split
  · split
    · unfold relayChunk
      split
      · next b piped =>
        unfold send
        split
        · exact .inl rfl
        · next j registered => exact .inr ⟨b, j, piped, registered, rfl⟩
      · split
        · exact .inl rfl
        · split
          · exact .inl rfl
          · exact .inl rfl
    · unfold readLoopFinally
      split <;> exact .inl rfl
  · exact .inl rfl

end Manager
end Peerc.Transport
