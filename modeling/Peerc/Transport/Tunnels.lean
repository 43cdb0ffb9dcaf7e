import Peerc.Transport.Bookkeeping
import Peerc.Transport.Pipes

/-!
Whether the tunnels over one relay session disturb each other. A relay chunk does not say which
tunnel it belongs to: it is fed to the one reader that relay_tunnels names.
-/
namespace Peerc.Transport
open Runs

def Conn.listens (x : Conn) (r : Text) : Prop :=
  x.live = true ∧ x.eof = false ∧ x.role.rKey = some r

def Receives (conns : List Conn) (i : Nat) (r : Text) : Prop :=
  ∃ x, conns[i]? = some x ∧ x.listens r

def Named (s : Manager) : Prop :=
  ∀ r i, s.relayTunnels.get r = some i → ∃ x, s.conns[i]? = some x ∧ x.role.rKey = some r

namespace Manager

variable (s : Manager)

def fedTo (key : Text) : Option Nat :=
  match s.relayPipes.get key with
  | some _ => none
  | none => s.relayTunnels.get key

def Routed : Prop := ∀ i r, Receives s.conns i r → s.fedTo r = some i

def unregistersAt (i : Nat) (key : Text) : Option (Text × Nat) :=
  match s.closeState key with
  | .error _ => none
  | .ok _ => (s.tunnelRKeys.get key).map (·, i)

def unregisters : Event → Option (Text × Nat)
  | .handshakeReturns i peername deviceId => do
      let x ← s.conns[i]?
      if x.phase = .handshaking ∧ x.role.sessionKey peername deviceId = none then
        x.role.rKey.map (·, i)
      else none
  | .handshakeFails i => do
      let x ← s.conns[i]?
      if x.phase = .handshaking then x.role.rKey.map (·, i) else none
  | .taskReturns i true => do
      let x ← s.conns[i]?
      match x.phase, x.role with
      | .closing, .relayedIn r => some (r, i)
      | _, _ => none
  | .readLoopStops i => do
      let x ← s.conns[i]?
      if x.phase = .reading then s.unregistersAt i x.addrKey else none
  | .frame i _ => do
      let x ← s.conns[i]?
      if x.phase = .reading ∧ s.dispatches x.addrKey = false then s.unregistersAt i x.addrKey
      else none
  | _ => none

def joins : Event → Option (Text × Nat)
  | .handshakeReturns i peername deviceId => do
      let x ← s.conns[i]?
      if x.phase = .handshaking ∧ (x.role.sessionKey peername deviceId).isSome ∧ x.eof = false then
        x.role.rKey.map (·, i)
      else none
  | _ => none

structure TunnelsApart (e : Event) : Prop where
  opening : ∀ r, s.opens e = some r → ∀ j, ¬ Receives s.conns j r
  leaving : ∀ r i, s.unregisters e = some (r, i) → ∀ j, j ≠ i → ¬ Receives s.conns j r
  joining : ∀ r i, s.joins e = some (r, i) → s.fedTo r = some i
  bridging : ∀ a b, e = .openRelayPipe a b → ∀ j, ¬ Receives s.conns j a ∧ ¬ Receives s.conns j b

end Manager

open Manager

/-! ## Who listens after a change of the connections -/

variable {s t : Manager} {conns : List Conn} {i j : Nat} {r key : Text}

section Conns
variable {f : Conn → Conn}

theorem receives_same (same : ∀ x, (f x).listens r ↔ x.listens r) :
    Receives (conns.modify i f) j r ↔ Receives conns j r := by
  constructor
  · rintro ⟨y, found, listens⟩
    rcases modify_cases found with ⟨rfl, x, old, rfl⟩ | ⟨_, old⟩
    · exact ⟨x, old, (same x).mp listens⟩
    · exact ⟨y, old, listens⟩
  · rintro ⟨x, found, listens⟩
    by_cases here : j = i
    · subst here
      exact ⟨f x, modify_at found, (same x).mpr listens⟩
    · exact ⟨x, (modify_other here).trans found, listens⟩

theorem receives_silenced (silent : ∀ x, ¬ (f x).listens r) :
    Receives (conns.modify i f) j r ↔ Receives conns j r ∧ j ≠ i := by
  constructor
  · rintro ⟨y, found, listens⟩
    rcases modify_cases found with ⟨rfl, x, old, rfl⟩ | ⟨other, old⟩
    · exact absurd listens (silent x)
    · exact ⟨⟨y, old, listens⟩, other⟩
  · rintro ⟨⟨x, found, listens⟩, other⟩
    exact ⟨x, (modify_other other).trans found, listens⟩

theorem receives_started (role : Role) :
    Receives (conns ++ [.started role]) j r ↔ Receives conns j r := by
  constructor
  · rintro ⟨y, found, listens⟩
    rcases concat_cases found with old | ⟨_, rfl⟩
    · exact ⟨y, old, listens⟩
    · cases listens.1
  · rintro ⟨x, found, listens⟩
    exact ⟨x, found_append found, listens⟩

theorem in_phase_silent (phase : Phase) (ended : phase ≠ .reading) (x : Conn) :
    ¬ (x.inPhase phase).listens r := by
  rintro ⟨live, _⟩
  simp [Conn.live, Conn.inPhase, ended] at live

theorem feed_eof_receives (reader : Option Nat) :
    Receives (feedEof conns reader) j r ↔ Receives conns j r ∧ reader ≠ some j := by
  cases reader with
  | none => simp [feedEof]
  | some =>
    have silent : ∀ x : Conn, ¬ Conn.listens { x with eof := true } r := by
      rintro _ ⟨_, ⟨⟩, _⟩
    rw [feedEof, receives_silenced silent]
    simp [eq_comm]

end Conns

/-! ## What a change of the tables does to the routing -/

section Tables

theorem fed_to_iff : s.fedTo key = some i ↔
    s.relayPipes.get key = none ∧ s.relayTunnels.get key = some i := by
  unfold fedTo
  split
  · next piped => simp [piped]
  · next free => simp [free]

theorem routed_quiet (routed : s.Routed)
    (fewer : ∀ i r, Receives t.conns i r → Receives s.conns i r)
    (tunnels : t.relayTunnels = s.relayTunnels)
    (pipes : ∀ r, s.relayPipes.get r = none → t.relayPipes.get r = none) : t.Routed := by
  intro i r receives
  obtain ⟨free, mine⟩ := fed_to_iff.mp (routed i r (fewer i r receives))
  exact fed_to_iff.mpr ⟨pipes r free, tunnels ▸ mine⟩

theorem routed_unregister {rKey : Option Text} (routed : s.Routed)
    (others : ∀ j r, Receives t.conns j r ↔ Receives s.conns j r ∧ j ≠ i)
    (tunnels : t.relayTunnels = withoutTunnel s.relayTunnels rKey)
    (pipes : t.relayPipes = s.relayPipes) :
    t.Routed ↔ ∀ r, rKey = some r → ∀ j, j ≠ i → ¬ Receives s.conns j r := by
  constructor
  · rintro after r rfl j other receives
    have mine := (fed_to_iff.mp (after j r ((others j r).mpr ⟨receives, other⟩))).2
    rw [tunnels] at mine
    simp [withoutTunnel] at mine
  · intro apart j r receives
    obtain ⟨before, other⟩ := (others j r).mp receives
    obtain ⟨free, mine⟩ := fed_to_iff.mp (routed j r before)
    refine fed_to_iff.mpr ⟨pipes ▸ free, ?_⟩
    rw [tunnels]
    cases rKey with
    | none => exact mine
    | some q =>
      have differ : r ≠ q := by
        rintro rfl
        exact apart r rfl j other before
      simp only [withoutTunnel, Dict.get_pop, differ, ↓reduceIte]
      exact mine

theorem routed_open (routed : s.Routed) (r : Text) (role : Role) :
    (s.openTunnel r role).Routed ↔ ∀ j, ¬ Receives s.conns j r := by
  have listeners : ∀ j q, Receives (s.openTunnel r role).conns j q ↔ Receives s.conns j q :=
    fun j q => receives_started role
  have tunnels : (s.openTunnel r role).relayTunnels = s.relayTunnels.set r s.conns.length := rfl
  have pipes : (s.openTunnel r role).relayPipes = s.relayPipes := rfl
  constructor
  · intro after j receives
    have mine := (fed_to_iff.mp (after j r ((listeners j r).mpr receives))).2
    rw [tunnels, Dict.get_set, if_pos rfl] at mine
    obtain ⟨_, found, _⟩ := receives
    have inside := index_lt found
    exact absurd (Option.some.inj mine).symm (Nat.ne_of_lt inside)
  · intro none j q receives
    have before := (listeners j q).mp receives
    obtain ⟨free, mine⟩ := fed_to_iff.mp (routed j q before)
    refine fed_to_iff.mpr ⟨pipes ▸ free, ?_⟩
    have differ : q ≠ r := by
      rintro rfl
      exact none j before
    rw [tunnels, Dict.get_set, if_neg differ]
    exact mine

theorem routed_bridge (routed : s.Routed) (a b : Text) : (s.openRelayPipe a b).Routed ↔
      ∀ j, ¬ Receives s.conns j a ∧ ¬ Receives s.conns j b := by
  have pipes : ∀ q, (s.openRelayPipe a b).relayPipes.get q =
      if q = b then some a else if q = a then some b else s.relayPipes.get q := by
    intro _
    simp [openRelayPipe]
  constructor
  · intro after j
    constructor
    · intro receives
      have free := (fed_to_iff.mp (after j a receives)).1
      rw [pipes] at free
      split at free <;> simp at free
    · intro receives
      have free := (fed_to_iff.mp (after j b receives)).1
      simp [pipes] at free
  · intro none j q receives
    obtain ⟨free, mine⟩ := fed_to_iff.mp (routed j q receives)
    have apart : q ≠ a ∧ q ≠ b := by
      constructor
      · rintro rfl
        exact (none j).1 receives
      · rintro rfl
        exact (none j).2 receives
    refine fed_to_iff.mpr ⟨?_, mine⟩
    rw [pipes, if_neg apart.2, if_neg apart.1]
    exact free

theorem routed_join {x : Conn} (routed : s.Routed) (found : s.conns[i]? = some x)
    (handshaking : x.phase = .handshaking) (key deviceId : Text) :
    ((s.noteTunnelRKey key x.role).registerSession i key deviceId).Routed ↔
      ∀ r, x.role.rKey = some r → x.eof = false → s.fedTo r = some i := by
  have fed : ∀ q, ((s.noteTunnelRKey key x.role).registerSession i key deviceId).fedTo q =
      s.fedTo q := fun q => rfl
  have conns : ((s.noteTunnelRKey key x.role).registerSession i key deviceId).conns =
      s.conns.modify i fun x => x.registered key deviceId .established := rfl
  have idle : ∀ r, ¬ x.listens r := by
    rintro _ ⟨live, _⟩
    simp [Conn.live, handshaking] at live
  constructor
  · intro after r carried open_
    rw [← fed r]
    refine after i r ⟨x.registered key deviceId .established, ?_, rfl, open_, carried⟩
    rw [conns]
    exact modify_at found
  · intro own j r receives
    rw [fed r]
    obtain ⟨y, at_, listens⟩ := receives
    rw [conns] at at_
    rcases changed_cases found at_ with ⟨rfl, rfl⟩ | ⟨_, old⟩
    · exact own r listens.2.2 listens.2.1
    · exact routed j r ⟨y, old, listens⟩

theorem close_state_receives {j : Nat} (closed : s.closeState key = .ok conns) :
    Receives conns j r ↔ Receives s.conns j r := by
  rcases close_state_cases closed with rfl | ⟨k, state, rfl⟩
  · exact Iff.rfl
  · exact receives_same fun x => Iff.rfl

theorem without_pipe_free {pipes : Dict Text Text} (key : Text) (free : pipes.get r = none) :
    (withoutPipe pipes key).get r = none := by
  unfold withoutPipe
  split
  · exact free
  · simp [free]

/-- The relay a connection unregisters is one that no other connection receives from. -/
def LeavesAlone (s : Manager) (left : Option (Text × Nat)) : Prop :=
  ∀ r k, left = some (r, k) → ∀ j, j ≠ k → ¬ Receives s.conns j r

theorem routed_read_loop_finally (routed : s.Routed) (named : Named s) (i : Nat) (key : Text) :
    (s.readLoopFinally i key).Routed ↔ LeavesAlone s (s.unregistersAt i key) := by
  unfold readLoopFinally unregistersAt
  cases closed : s.closeState key with
  | error =>
    have quiet : Manager.Routed { s with
        connectionStates := s.connectionStates.pop key
        conns := s.conns.modify i fun x => x.inPhase .closing } := by
      refine routed_quiet routed ?_ rfl (fun r free => free)
      intro _ _ receives
      exact ((receives_silenced (in_phase_silent .closing (by decide))).mp receives).1
    simp [quiet, LeavesAlone]
  | ok conns =>
    generalize noted : s.tunnelRKeys.get key = rKey
    generalize rest : withoutTunnel s.relayTunnels rKey = tunnels
    have listeners : ∀ j r, Receives ((feedEof conns (tunnels.get key)).modify i
        fun x => x.inPhase .closing) j r ↔
          (Receives s.conns j r ∧ tunnels.get key ≠ some j) ∧ j ≠ i := by
      intro _ _
      rw [receives_silenced (in_phase_silent .closing (by decide)), feed_eof_receives,
        close_state_receives closed]
    constructor
    · intro after r _ unregistered j other receives
      obtain ⟨_, own, same⟩ := Option.map_eq_some_iff.mp unregistered
      cases same
      subst own
      have gone : tunnels.get r = none := by simp [← rest, withoutTunnel]
      -- a reader that is cut runs over the session that ends, not over the relay of its tunnel
      have uncut : tunnels.get key ≠ some j := by
        intro cut
        have differ : key ≠ r := by
          rintro rfl
          rw [gone] at cut
          cases cut
        rw [← rest, withoutTunnel, Dict.get_pop, if_neg differ] at cut
        obtain ⟨_, found, carried⟩ := named key j cut
        obtain ⟨_, found', _, _, carried'⟩ := receives
        cases found.symm.trans found'
        cases carried.symm.trans carried'
        exact differ rfl
      have mine := (fed_to_iff.mp (after j r ((listeners j r).mpr ⟨⟨receives, uncut⟩, other⟩))).2
      rw [Dict.get_pop, gone] at mine
      simp at mine
    · intro apart j r receives
      obtain ⟨⟨before, uncut⟩, other⟩ := (listeners j r).mp receives
      obtain ⟨free, mine⟩ := fed_to_iff.mp (routed j r before)
      have foreign : rKey ≠ some r := by
        rintro rfl
        exact apart r i rfl j other before
      have kept : tunnels.get r = some j := by
        rw [← rest]
        cases rKey with
        | none => exact mine
        | some q =>
          have differ : r ≠ q := fun same => foreign (congrArg some same.symm)
          rw [withoutTunnel, Dict.get_pop, if_neg differ]
          exact mine
      have differ : r ≠ key := by
        rintro rfl
        exact uncut kept
      refine fed_to_iff.mpr ⟨without_pipe_free key free, ?_⟩
      rw [Dict.get_pop, if_neg differ]
      exact kept

end Tables

/-! ## One step -/

section Step
variable {e : Event}

def RolesKept (conns after : List Conn) : Prop :=
  ∀ (i : Nat) (x : Conn), conns[i]? = some x → ∃ y, after[i]? = some y ∧ y.role = x.role

theorem roles_kept_refl (conns : List Conn) : RolesKept conns conns :=
  fun _ x found => ⟨x, found, rfl⟩

theorem roles_kept_modify {conns after : List Conn} (kept : RolesKept conns after) (i : Nat)
    {f : Conn → Conn} (same : ∀ x, (f x).role = x.role) : RolesKept conns (after.modify i f) := by
  intro j x found
  obtain ⟨y, there, role⟩ := kept j x found
  by_cases here : j = i
  · subst here
    exact ⟨f y, modify_at there, (same y).trans role⟩
  · exact ⟨y, (modify_other here).trans there, role⟩

theorem roles_kept_close_state (closed : s.closeState key = .ok conns) :
    RolesKept s.conns conns := by
  rcases close_state_cases closed with rfl | ⟨k, state, rfl⟩
  · exact roles_kept_refl _
  · exact roles_kept_modify (roles_kept_refl _) k fun _ => rfl

theorem named_kept {t : Manager} (named : Named s) (roles : RolesKept s.conns t.conns)
    (fewer : ∀ r i, t.relayTunnels.get r = some i → s.relayTunnels.get r = some i) : Named t := by
  intro r i found
  obtain ⟨x, here, carried⟩ := named r i (fewer r i found)
  obtain ⟨y, there, same⟩ := roles i x here
  exact ⟨y, there, same ▸ carried⟩

theorem named_open (named : Named s) {role : Role} (carried : role.rKey = some r) :
    Named (s.openTunnel r role) := by
  intro q i found
  have tunnels : (s.openTunnel r role).relayTunnels = s.relayTunnels.set r s.conns.length := rfl
  have conns : (s.openTunnel r role).conns = s.conns ++ [.started role] := rfl
  rw [tunnels, Dict.get_set] at found
  rw [conns]
  split at found
  · next same =>
    cases found
    subst same
    exact ⟨.started role, by simp, carried⟩
  · obtain ⟨x, here, carried⟩ := named q i found
    exact ⟨x, found_append here, carried⟩

theorem without_tunnel_sub {tunnels : Dict Text Nat} {rKey : Option Text}
    (found : (withoutTunnel tunnels rKey).get r = some i) : tunnels.get r = some i := by
  cases rKey with
  | none => exact found
  | some => exact (Dict.of_get_pop found).2

theorem named_read_loop_finally (named : Named s) (i : Nat) (key : Text) :
    Named (s.readLoopFinally i key) := by
  unfold readLoopFinally
  cases closed : s.closeState key with
  | error =>
    exact named_kept named (roles_kept_modify (roles_kept_refl _) i fun _ => rfl)
      fun _ _ same => same
  | ok conns =>
    have roles : ∀ reader, RolesKept s.conns (feedEof conns reader) := by
      intro reader
      cases reader with
      | none => exact roles_kept_close_state closed
      | some j => exact roles_kept_modify (roles_kept_close_state closed) j fun _ => rfl
    refine named_kept named (roles_kept_modify (roles _) i fun _ => rfl) ?_
    intro _ _ found
    exact without_tunnel_sub (Dict.of_get_pop found).2

theorem mark_closing_role (x : Conn) : x.markClosing.role = x.role := by
  unfold Conn.markClosing
  split
  · rfl
  · split <;> rfl

theorem named_send_returns (named : Named s) (n : Nat) (ok : Bool) :
    Named (s.sendReturns n ok) := by
  unfold sendReturns
  split
  · exact named
  · next i key _ =>
    split
    · exact named
    · have failed : RolesKept s.conns (s.conns.modify i fun x => { x with failed := true }) :=
        roles_kept_modify (roles_kept_refl _) i fun _ => rfl
      unfold sendRaised markClosing
      dsimp only
      split
      · exact named_kept named failed fun _ _ same => same
      · next j _ =>
        exact named_kept named (roles_kept_modify failed j mark_closing_role) fun _ _ same => same

theorem named_step (named : Named s) : Named (s.step e) := by
  have finished : ∀ (i : Nat) (rKey : Option Text), Named { s with
      relayTunnels := withoutTunnel s.relayTunnels rKey
      conns := s.conns.modify i fun x => x.inPhase .finished } :=
    fun i rKey => named_kept named (roles_kept_modify (roles_kept_refl _) i fun _ => rfl)
      fun _ _ found => without_tunnel_sub found
  have change := s.step_change e
  generalize s.step e = t at change ⊢
  cases change with
  | same | piped => exact named
  | spawned =>
    intro r i found
    obtain ⟨x, here, carried⟩ := named r i found
    exact ⟨x, found_append here, carried⟩
  | opened carried => exact named_open named carried
  | @joined i =>
    exact named_kept named (roles_kept_modify (roles_kept_refl _) i fun _ => rfl)
      fun _ _ same => same
  | @failed i x => exact finished i x.role.rKey
  | ended => exact named_read_loop_finally named _ _
  | @returned i =>
    unfold taskReturns
    split
    · next r _ => exact finished i (some r)
    · exact finished i none
  | sent =>
    unfold send
    split <;> exact named
  | answered n ok => exact named_send_returns named n ok

theorem apart_quiet (opens : s.opens e = none) (leaves : s.unregisters e = none)
    (joins : s.joins e = none) (bridges : ∀ a b, e ≠ .openRelayPipe a b) : s.TunnelsApart e := by
  constructor
  · simp [opens]
  · simp [leaves]
  · simp [joins]
  · intro a b same
    exact absurd same (bridges a b)

theorem apart_leaving_iff (opens : s.opens e = none) (joins : s.joins e = none)
    (bridges : ∀ a b, e ≠ .openRelayPipe a b) :
    s.TunnelsApart e ↔ LeavesAlone s (s.unregisters e) := by
  constructor
  · exact fun apart => apart.leaving
  · intro leaving
    refine ⟨by simp [opens], leaving, by simp [joins], ?_⟩
    intro a b same
    exact absurd same (bridges a b)

variable (routed : s.Routed)
include routed

theorem routed_finished_iff (i : Nat) (rKey : Option Text) : Manager.Routed { s with
        relayTunnels := withoutTunnel s.relayTunnels rKey
        conns := s.conns.modify i fun x => x.inPhase .finished } ↔
      LeavesAlone s (rKey.map (·, i)) := by
  have others : ∀ j r, Receives (s.conns.modify i fun x => x.inPhase .finished) j r ↔
      Receives s.conns j r ∧ j ≠ i :=
    fun j r => receives_silenced (in_phase_silent .finished nofun)
  have unregistered : LeavesAlone s (rKey.map (·, i)) ↔
      ∀ r, rKey = some r → ∀ j, j ≠ i → ¬ Receives s.conns j r := by simp [LeavesAlone]
  rw [unregistered]
  exact routed_unregister routed others rfl rfl

theorem routed_send_returns (n : Nat) (ok : Bool) : (s.sendReturns n ok).Routed := by
  unfold sendReturns
  split
  · exact routed
  · next i key _ =>
    split
    · exact routed
    · have silent : ∀ (r : Text) (x : Conn), ¬ Conn.listens { x with failed := true } r := by
        rintro _ _ ⟨live, _⟩
        simp [Conn.live] at live
      have marked : ∀ (r : Text) (x : Conn), x.markClosing.listens r ↔ x.listens r := by
        intro _ _
        unfold Conn.markClosing
        split
        · exact Iff.rfl
        · split <;> exact Iff.rfl
      unfold sendRaised markClosing
      dsimp only
      split
      · refine routed_quiet routed (fun j r receives => ?_) rfl fun r free => free
        exact ((receives_silenced (silent r)).mp receives).1
      · refine routed_quiet routed (fun j r receives => ?_) rfl fun r free => free
        exact ((receives_silenced (silent r)).mp ((receives_same (marked r)).mp receives)).1

theorem routed_relay_chunk (key : Text) : (s.relayChunk key).Routed := by
  unfold relayChunk send
  split
  · split <;> exact routed
  · split
    · exact routed
    · next none =>
      split
      · exact routed
      · refine (routed_open routed key _).mpr ?_
        intro j receives
        cases none.symm.trans (fed_to_iff.mp (routed j key receives)).2

theorem frame_apart_iff (i : Nat) (kind : FrameKind) :
    s.TunnelsApart (.frame i kind) ↔ LeavesAlone s (s.unregisters (.frame i kind)) := by
  constructor
  · exact fun apart => apart.leaving
  · intro leaving
    refine ⟨?_, leaving, nofun, nofun⟩
    intro r opened j receives
    have mine := (fed_to_iff.mp (routed j r receives)).2
    cases kind with
    | relay =>
      simp only [opens, Option.bind_eq_bind, Option.bind_eq_some_iff] at opened
      obtain ⟨_, _, here⟩ := opened
      split at here
      · next checked =>
        cases here
        simp [mine] at checked
      · cases here
    | json | binary | raw => cases opened

theorem routed_frame (named : Named s) (i : Nat) (x : Conn) (kind : FrameKind) :
    (s.frame i x kind).Routed ↔ LeavesAlone s
      (if s.dispatches x.addrKey = false then s.unregistersAt i x.addrKey else none) := by
  unfold frame
  cases s.dispatches x.addrKey with
  | true =>
    refine iff_of_true ?_ nofun
    cases kind with
    | relay => exact routed_relay_chunk routed _
    | json | binary | raw => exact routed
  | false => exact routed_read_loop_finally routed named i x.addrKey

theorem routed_task_returns (i : Nat) (x : Conn) (raised : Bool) :
    (s.taskReturns i x raised).Routed ↔ ∀ r, raised = true → x.role = .relayedIn r →
      ∀ j, j ≠ i → ¬ Receives s.conns j r := by
  have quiet : (s.finish i).Routed :=
    routed_quiet routed (fun j r receives =>
      ((receives_silenced (in_phase_silent .finished nofun)).mp receives).1) rfl fun _ free => free
  unfold taskReturns
  split
  · next r relayed =>
    have finished := routed_finished_iff routed i (some r)
    simp only [LeavesAlone, Option.map_some, Option.some.injEq, Prod.mk.injEq] at finished
    refine finished.trans ⟨?_, ?_⟩
    · rintro apart _ _ same
      rw [relayed] at same
      cases same
      exact apart r i ⟨rfl, rfl⟩
    · rintro apart _ _ ⟨rfl, rfl⟩
      exact apart r rfl relayed
  · next other =>
    refine ⟨fun _ r failed relayed => ?_, fun _ => quiet⟩
    subst failed
    exact absurd relayed (other r rfl)

theorem routed_in_phase_iff {phase : Phase} {run : Conn → Manager}
    {left : Conn → Option (Text × Nat)} (active : ∀ x, (run x).Routed ↔ LeavesAlone s (left x)) :
    (s.inPhase i phase run).Routed ↔
      LeavesAlone s (s.conns[i]?.bind fun x => if x.phase = phase then left x else none) := by
  unfold inPhase
  cases s.conns[i]? with
  | none => exact iff_of_true routed nofun
  | some x =>
    dsimp only [Option.bind_some]
    split
    · exact active x
    · exact iff_of_true routed nofun

theorem routed_step_iff (named : Named s) : (s.step e).Routed ↔ s.TunnelsApart e := by
  have started : ∀ role : Role, (s.spawn role).Routed := fun role =>
    routed_quiet routed (fun j r receives => (receives_started role).mp receives) rfl
      fun _ free => free
  have quiet : (s.step e).Routed → s.TunnelsApart e → ((s.step e).Routed ↔ s.TunnelsApart e) :=
    fun after apart => ⟨fun _ => apart, fun _ => after⟩
  cases e with
  | handleIncoming =>
    refine quiet ?_ (apart_quiet rfl rfl rfl (by simp))
    simp only [step, handleIncoming]
    split
    · exact routed
    · exact started _
  | connectTo =>
    refine quiet ?_ (apart_quiet rfl rfl rfl (by simp))
    simp only [step, connectTo]
    split
    · exact routed
    · split
      · exact routed
      · exact started _
  | connectViaRelayTunnel r target =>
    simp only [step, connectViaRelayTunnel]
    by_cases known : (s.findAddrKeyForDevice target).isSome = true
    · have opens : s.opens (.connectViaRelayTunnel r target) = none := by
        simp [opens, known]
      rw [if_pos known]
      exact ⟨fun _ => apart_quiet opens rfl rfl (by simp), fun _ => routed⟩
    · by_cases full : s.atLimit = true
      · have opens : s.opens (.connectViaRelayTunnel r target) = none := by
          simp [opens, full]
        rw [if_neg known, if_pos full]
        exact ⟨fun _ => apart_quiet opens rfl rfl (by simp), fun _ => routed⟩
      · have opens : s.opens (.connectViaRelayTunnel r target) = some r := by
          simp [opens, known, full]
        rw [if_neg known, if_neg full, routed_open routed]
        constructor
        · intro none
          refine ⟨?_, by simp [unregisters], by simp [joins], by simp⟩
          intro _ opened
          cases opens.symm.trans opened
          exact none
        · intro apart
          exact apart.opening r opens
  | handshakeReturns i peername deviceId =>
    simp only [step, inPhase]
    cases found : s.conns[i]? with
    | none => exact ⟨fun _ => apart_quiet rfl (by simp [unregisters, found])
        (by simp [joins, found]) (by simp), fun _ => routed⟩
    | some x =>
      dsimp only
      by_cases phase : x.phase = .handshaking
      · rw [if_pos phase, handshakeReturns]
        cases key : x.role.sessionKey peername deviceId with
        | none =>
          have joins : s.joins (.handshakeReturns i peername deviceId) = none := by
            simp [joins, found, key]
          rw [apart_leaving_iff rfl joins (by simp)]
          have leaves : s.unregisters (.handshakeReturns i peername deviceId) =
              x.role.rKey.map (·, i) := by simp [unregisters, found, phase, key]
          rw [leaves]
          exact routed_finished_iff routed i x.role.rKey
        | some =>
          have leaves : s.unregisters (.handshakeReturns i peername deviceId) = none := by
            simp [unregisters, found, key]
          have joins : s.joins (.handshakeReturns i peername deviceId) =
              if x.eof = false then x.role.rKey.map (·, i) else none := by
            simp [joins, found, phase, key]
          rw [routed_join routed found phase]
          constructor
          · intro own
            refine ⟨by simp [opens], by simp [leaves], ?_, by simp⟩
            intro r _ joined
            rw [joins] at joined
            split at joined
            · next open_ =>
              obtain ⟨_, carried, same⟩ := Option.map_eq_some_iff.mp joined
              cases same
              exact own r carried open_
            · cases joined
          · intro apart r carried open_
            exact apart.joining r i (by rw [joins, if_pos open_, carried]; rfl)
      · rw [if_neg phase]
        exact ⟨fun _ => apart_quiet rfl (by simp [unregisters, found, phase])
          (by simp [joins, found, phase]) (by simp), fun _ => routed⟩
  | handshakeFails i =>
    rw [apart_leaving_iff (e := .handshakeFails i) rfl rfl (by simp)]
    exact routed_in_phase_iff routed fun x => routed_finished_iff routed i x.role.rKey
  | frame i kind =>
    rw [frame_apart_iff routed]
    simp only [unregisters, ite_and]
    exact routed_in_phase_iff routed fun x => routed_frame routed named i x kind
  | readLoopStops i =>
    rw [apart_leaving_iff (e := .readLoopStops i) rfl rfl (by simp)]
    exact routed_in_phase_iff routed fun x => routed_read_loop_finally routed named i x.addrKey
  | taskReturns i raised =>
    rw [apart_leaving_iff (e := .taskReturns i raised) rfl rfl (by simp)]
    simp only [step, inPhase, LeavesAlone]
    cases found : s.conns[i]? with
    | none => cases raised <;> simp [routed, unregisters, found]
    | some x =>
      by_cases phase : x.phase = .closing
      · simp only [phase, ↓reduceIte]
        rw [routed_task_returns routed]
        cases raised with
        | false => simp [unregisters]
        | true => cases role : x.role <;> simp [unregisters, found, phase, role]
      · cases raised with
        | false => simp [unregisters, phase, routed]
        | true =>
          have nothing : s.unregisters (.taskReturns i true) = none := by
            simp only [unregisters, found, Option.bind_eq_bind, Option.bind_some]
            split
            · next closing _ => exact absurd closing phase
            · rfl
          simp [nothing, phase, routed]
  | send =>
    refine quiet ?_ (apart_quiet rfl rfl rfl (by simp))
    simp only [step, send]
    split <;> exact routed
  | sendReturns n ok =>
    exact quiet (routed_send_returns routed n ok) (apart_quiet rfl rfl rfl (by simp))
  | openRelayPipe a b =>
    refine (routed_bridge routed a b).trans ⟨fun none => ?_, fun apart => apart.bridging a b rfl⟩
    refine ⟨by simp [opens], by simp [unregisters], by simp [joins], ?_⟩
    rintro _ _ ⟨⟩
    exact none
  | closeRelayPipe a =>
    refine quiet ?_ (apart_quiet rfl rfl rfl (by simp))
    exact routed_quiet routed (fun j r receives => receives) rfl fun r free =>
      without_pipe_free a free

end Step

/-- Chunks reach their session if and only if tunnels are kept apart at every event. -/
theorem tunnels_routed_iff (maxConnections : Nat) (events : List Event) :
    Everywhere step Manager.Routed (.start maxConnections) events ↔
      Along step Manager.TunnelsApart (.start maxConnections) events := by
  have start : (start maxConnections).Routed ∧ Named (start maxConnections) := by
    constructor
    · rintro _ _ ⟨_, found, _⟩
      simp [start] at found
    · rintro _ _ found
      simp [start] at found
  exact everywhere_iff_along (fun s (inv : s.Routed ∧ Named s) => inv.1)
    (fun s e inv apart => ⟨(routed_step_iff inv.1 inv.2).mpr apart, named_step inv.2⟩)
    (fun s e inv against after => against ((routed_step_iff inv.1 inv.2).mp after)) start events

section Sample

def relayAt : Text := socketKey (some ("10.0.0.9", 9))

def tunnelled : List Event :=
  [.handleIncoming, .handshakeReturns 0 (some ("10.0.0.9", 9)) "R",
    .connectViaRelayTunnel relayAt "T", .handshakeReturns 1 none "T"]

def tunnelRun (events : List Event) : Manager := run step (.start 8) (tunnelled ++ events)

theorem second_tunnel_takes_chunks : (tunnelRun []).fedTo relayAt = some 1 ∧
      (tunnelRun [.connectViaRelayTunnel relayAt "U"]).fedTo relayAt = some 2 ∧
      (tunnelRun [.connectViaRelayTunnel relayAt "U", .handshakeFails 2]).fedTo relayAt =
        none ∧
      ((tunnelRun [.connectViaRelayTunnel relayAt "U", .handshakeFails 2]).conns[1]?.map
        fun x => (x.live, x.eof, x.role)) = some (true, false, .relayedOut relayAt "T") := by
  decide +kernel

end Sample
end Peerc.Transport
