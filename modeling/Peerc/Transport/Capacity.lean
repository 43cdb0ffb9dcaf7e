import Peerc.Transport.Bookkeeping

/-!
How many sessions the connection manager registers. The limit is compared before the handshake
and the session registered after it, so the limit does not see the handshakes in flight.
-/
namespace Peerc.Transport
open Runs

def Conn.inFlight (x : Conn) : Bool := x.phase = .handshaking

namespace Manager

variable (s : Manager)

def registered : Nat := s.connections.rows.length

def inFlight : Nat := s.conns.countP Conn.inFlight

def load : Nat := s.registered + s.inFlight

/-- A handshake is started: a connection or a tunnel that the manager does not turn away. -/
def Starts (e : Event) : Prop := s.spawns e = true ∨ (s.opens e).isSome = true

instance (e : Event) : Decidable (s.Starts e) :=
  inferInstanceAs (Decidable (_ ∨ _))

def HasRoom (e : Event) : Prop := s.Starts e → s.load < s.maxConnections

instance (e : Event) : Decidable (s.HasRoom e) :=
  inferInstanceAs (Decidable (_ → _))

structure Quiet (s t : Manager) : Prop where
  limit : t.maxConnections = s.maxConnections
  load : t.load ≤ s.load

inductive LoadChange (e : Event) : Prop
  | quiet (still : Quiet s (s.step e))
  | started (starts : s.Starts e) (limit : (s.step e).maxConnections = s.maxConnections)
      (load : (s.step e).load = s.load + 1)

theorem quiet_refl : Quiet s s := ⟨rfl, Nat.le_refl _⟩

variable {s t : Manager}

theorem Quiet.rebase {r : Manager} (still : Quiet r t) (limit : r.maxConnections = s.maxConnections)
    (conns : r.conns = s.conns) (connections : r.connections = s.connections) : Quiet s t := by
  have same : r.load = s.load := by simp [Manager.load, registered, inFlight, conns, connections]
  exact ⟨still.limit.trans limit, same ▸ still.load⟩

theorem load_spawn {role : Role} (conns : t.conns = s.conns ++ [.started role])
    (connections : t.connections = s.connections) : t.load = s.load + 1 := by
  simp [load, registered, inFlight, conns, connections, List.countP_append, Conn.started,
    Conn.inFlight]
  omega

variable {i : Nat} {x : Conn}

theorem load_modify {f : Conn → Conn}
    (found : s.conns[i]? = some x) (conns : t.conns = s.conns.modify i f)
    (settled : (f x).inFlight = false)
    (connections : t.registered ≤ s.registered + x.inFlight.toNat) : t.load ≤ s.load := by
  have change := count_modify (f := f) Conn.inFlight found
  rw [settled] at change
  simp only [load, inFlight, conns]
  simp only [Bool.toNat_false, Nat.add_zero] at change
  omega

theorem quiet_finish (found : s.conns[i]? = some x) : Quiet s (s.finish i) :=
  ⟨rfl, load_modify found rfl rfl (Nat.le_add_right _ _)⟩

theorem count_close_state {key : Text} {conns : List Conn}
    (closed : s.closeState key = .ok conns) : conns.countP Conn.inFlight = s.inFlight := by
  rcases close_state_cases closed with rfl | ⟨_, _, rfl⟩
  · rfl
  · exact count_modify_same _ fun _ => rfl

variable (conns : List Conn)

theorem count_feed_eof (reader : Option Nat) :
    (feedEof conns reader).countP Conn.inFlight = conns.countP Conn.inFlight := by
  cases reader with
  | none => rfl
  | some => exact count_modify_same _ fun _ => rfl

theorem count_to_closing (i : Nat) :
    (conns.modify i fun x => x.inPhase .closing).countP Conn.inFlight ≤
      conns.countP Conn.inFlight := by
  cases found : conns[i]? with
  | none => rw [List.modify_eq_self (by simpa using found)]
  | some x =>
    have change := count_modify (f := fun x : Conn => x.inPhase .closing) Conn.inFlight found
    have settled : (x.inPhase .closing).inFlight = false := rfl
    rw [settled] at change
    simp only [Bool.toNat_false, Nat.add_zero] at change
    omega

theorem quiet_read_loop_finally (s : Manager) (i : Nat) (key : Text) :
    Quiet s (s.readLoopFinally i key) := by
  unfold readLoopFinally
  split
  · exact ⟨rfl, Nat.add_le_add_left (count_to_closing s.conns i) _⟩
  · next conns closed =>
    refine ⟨rfl, Nat.add_le_add (Dict.length_pop_le s.connections key) ?_⟩
    apply Nat.le_trans (count_to_closing _ i)
    rw [count_feed_eof, count_close_state closed]

theorem quiet_send (s : Manager) (key : Text) : Quiet s (s.send key) := by
  unfold send
  split
  · exact quiet_refl s
  · exact ⟨rfl, Nat.le_refl _⟩

theorem count_mark_closing (j : Nat) :
    (conns.modify j Conn.markClosing).countP Conn.inFlight = conns.countP Conn.inFlight := by
  apply count_modify_same
  intro _
  unfold Conn.markClosing
  split
  · rfl
  · split <;> rfl

theorem quiet_send_raised (s : Manager) (i : Nat) (key : Text) : Quiet s (s.sendRaised i key) := by
  have marked : (s.conns.modify i fun x => { x with failed := true }).countP Conn.inFlight =
      s.inFlight := count_modify_same _ fun _ => rfl
  unfold sendRaised markClosing
  split
  · exact ⟨rfl, Nat.add_le_add (Dict.length_pop_le s.connections key) (Nat.le_of_eq marked)⟩
  · refine ⟨rfl, Nat.add_le_add (Dict.length_pop_le s.connections key) ?_⟩
    simp only [inFlight, count_mark_closing]
    exact Nat.le_of_eq marked

theorem quiet_send_returns (s : Manager) (n : Nat) (ok : Bool) : Quiet s (s.sendReturns n ok) := by
  unfold sendReturns
  split
  · exact quiet_refl s
  · next i key _ =>
    split
    · exact ⟨rfl, Nat.le_refl _⟩
    · exact (quiet_send_raised _ i key).rebase rfl rfl rfl

theorem quiet_task_returns (found : s.conns[i]? = some x)
    (raised : Bool) : Quiet s (s.taskReturns i x raised) := by
  unfold taskReturns
  split
  · exact (quiet_finish (s := s.unregisterRelayTunnel _) found).rebase rfl rfl rfl
  · exact quiet_finish found

theorem load_change (s : Manager) (e : Event) : LoadChange s e := by
  have change := s.step_change e
  generalize stepped : s.step e = t at change
  have quiet : Quiet s t → LoadChange s e := fun still => .quiet (stepped ▸ still)
  have started : ∀ role, t.conns = s.conns ++ [.started role] → t.connections = s.connections →
      t.maxConnections = s.maxConnections → s.Starts e → LoadChange s e := by
    rintro _ conns connections limit starts
    subst stepped
    exact .started starts limit (load_spawn conns connections)
  cases change with
  | same => exact quiet (quiet_refl s)
  | spawned _ spawns => exact started _ rfl rfl rfl (.inl spawns)
  | opened _ opens => exact started _ rfl rfl rfl (.inr (Option.isSome_of_eq_some opens))
  | @joined i x key _ found phase =>
    refine quiet ⟨rfl, load_modify found rfl rfl ?_⟩
    have flies : x.inFlight = true := by simp [Conn.inFlight, phase]
    rw [flies]
    exact Dict.length_set_le s.connections key i
  | @failed i x found =>
    exact quiet ((quiet_finish (s := s.unregisterOwnTunnel x.role) found).rebase rfl rfl rfl)
  | ended => exact quiet (quiet_read_loop_finally s _ _)
  | returned raised found => exact quiet (quiet_task_returns found raised)
  | sent key => exact quiet (quiet_send s key)
  | answered n ok => exact quiet (quiet_send_returns s n ok)
  | piped => exact quiet ⟨rfl, Nat.le_refl _⟩

def Within (s : Manager) (maxConnections : Nat) : Prop :=
  s.maxConnections = maxConnections ∧ s.load ≤ maxConnections

theorem room_step {e : Event} {maxConnections : Nat} (room : s.HasRoom e)
    (within : s.Within maxConnections) : (s.step e).Within maxConnections := by
  obtain ⟨limit, load⟩ := within
  cases load_change s e with
  | quiet still => exact ⟨still.limit.trans limit, Nat.le_trans still.load load⟩
  | started starts same =>
    have spare := room starts
    exact ⟨same.trans limit, by omega⟩

end Manager

open Manager

/-- If a handshake starts only while a session is left for it, the limit is kept. -/
theorem limit_kept_with_room (maxConnections : Nat) (events : List Event)
    (room : Along step Manager.HasRoom (start maxConnections) events) :
    Everywhere step (fun s => s.connections.rows.length ≤ maxConnections)
      (start maxConnections) events := by
  have begins : (start maxConnections).Within maxConnections := ⟨rfl, Nat.zero_le _⟩
  exact everywhere_mono (fun s within => Nat.le_trans (Nat.le_add_right _ s.inFlight) within.2)
    (invariant_everywhere (fun s _ (within : s.Within maxConnections) room =>
      room_step room within) begins room)

section Sample

def firstPeer : Text × Nat := ("10.0.0.2", 5000)

def secondPeer : Text × Nat := ("10.0.0.3", 5000)

def oneAfterAnother : List Event :=
  [.handleIncoming, .handshakeReturns 0 (some firstPeer) "a", .handleIncoming,
    .readLoopStops 0, .handleIncoming, .handshakeReturns 1 (some secondPeer) "b"]

theorem one_after_another_within_limit :
    (run step (start 1) oneAfterAnother).connections.rows =
        [(socketKey (some secondPeer), 1)] ∧
      Everywhere step (fun s => s.connections.rows.length ≤ 1) (start 1)
        oneAfterAnother :=
  ⟨by decide +kernel, limit_kept_with_room 1 oneAfterAnother (by decide +kernel)⟩

theorem suspended_handshakes_exceed_limit :
    (run step (start 1) [.handleIncoming, .handleIncoming,
      .handshakeReturns 0 (some firstPeer) "a",
      .handshakeReturns 1 (some secondPeer) "b"]).connections.rows.length = 2 := by
  decide +kernel

end Sample
end Peerc.Transport
