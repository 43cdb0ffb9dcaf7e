import Peerc.Lib.Index
import Peerc.Lib.Raising
import Peerc.Transport.Manager

/-!
Whether the tables of the connection manager, which know a session by its addr_key alone, keep
sessions apart.
-/
namespace Peerc.Transport
open List Runs

def Conn.live (x : Conn) : Bool := x.phase = .reading && !x.failed

def Conn.tunnelling (x : Conn) : Bool := x.phase = .handshaking || x.phase = .reading

def Conn.mayUnregister (x : Conn) : Bool :=
  x.tunnelling || match x.phase, x.role with
    | .closing, .relayedIn _ => true
    | _, _ => false

structure Held (s : Manager) (i : Nat) (x : Conn) : Prop where
  reachable : s.connections.get x.addrKey = some i
  ownState : s.connectionStates.get x.addrKey = some i
  established : x.state = .established
  connected : ∀ r ∈ x.role.rKey, s.relayTunnels.get r = some i ∧ x.eof = false

def PerSession (s : Manager) : Prop :=
  ∀ i x, s.conns[i]? = some x → x.live = true → Held s i x

/-! ## The condition on a step -/

namespace Manager

variable (s : Manager)

def registers : Event → Option Text
  | .handshakeReturns i peername deviceId => do
      let x ← s.conns[i]?
      if x.phase = .handshaking then x.role.sessionKey peername deviceId else none
  | _ => none

def spawns : Event → Bool
  | .handleIncoming => !s.atLimit
  | .connectTo ip port => (s.connections.get (addrKey ip port)).isNone && !s.atLimit
  | _ => false

def opens : Event → Option Text
  | .connectViaRelayTunnel rKey target =>
      if (s.findAddrKeyForDevice target).isSome || s.atLimit then none else some rKey
  | .frame i .relay => do
      let x ← s.conns[i]?
      if x.phase = .reading && s.dispatches x.addrKey && (s.relayPipes.get x.addrKey).isNone &&
          (s.relayTunnels.get x.addrKey).isNone && !s.atLimit then some x.addrKey
      else none
  | _ => none

def ends : Event → Option Text
  | .readLoopStops i => do
      let x ← s.conns[i]?
      if x.phase = .reading then some x.addrKey else none
  | .frame i _ => do
      let x ← s.conns[i]?
      if x.phase = .reading && !s.dispatches x.addrKey then some x.addrKey else none
  | _ => none

def KeyFree (key : Text) : Prop :=
  (∀ x ∈ s.conns, x.phase = .reading → x.addrKey ≠ key) ∧ ∀ p ∈ s.sends, p.2 ≠ key

def RelayFree (rKey : Text) : Prop :=
  ∀ x ∈ s.conns, x.mayUnregister = true → x.role.rKey ≠ some rKey

def CarriesNone (key : Text) : Prop :=
  ∀ x ∈ s.conns, x.tunnelling = true → x.role.rKey ≠ some key

def Separate (e : Event) : Prop :=
  (∀ key ∈ s.registers e, s.KeyFree key) ∧ (∀ r ∈ s.opens e, s.RelayFree r) ∧
    ∀ key ∈ s.ends e, s.CarriesNone key

instance (e : Event) : Decidable (s.Separate e) := by
  unfold Separate KeyFree RelayFree CarriesNone
  infer_instance

/-- What a step can do. It opens tunnels, registers and ends read loops only as told above. -/
inductive Change (s : Manager) (e : Event) : Manager → Prop
  | same : Change s e s
  | spawned {role : Role} (direct : role.rKey = none) (spawns : s.spawns e = true) :
      Change s e (s.spawn role)
  | opened {r : Text} {role : Role} (carried : role.rKey = some r) (opens : s.opens e = some r) :
      Change s e (s.openTunnel r role)
  | joined {i : Nat} {x : Conn} {key : Text} (deviceId : Text) (found : s.conns[i]? = some x)
      (phase : x.phase = .handshaking) (registers : s.registers e = some key) :
      Change s e ((s.noteTunnelRKey key x.role).registerSession i key deviceId)
  | failed {i : Nat} {x : Conn} (found : s.conns[i]? = some x) (phase : x.phase = .handshaking) :
      Change s e ((s.unregisterOwnTunnel x.role).finish i)
  | ended {i : Nat} {x : Conn} (found : s.conns[i]? = some x) (phase : x.phase = .reading)
      (ends : s.ends e = some x.addrKey) : Change s e (s.readLoopFinally i x.addrKey)
  | returned {i : Nat} {x : Conn} (raised : Bool) (found : s.conns[i]? = some x)
      (phase : x.phase = .closing) : Change s e (s.taskReturns i x raised)
  | sent (key : Text) : Change s e (s.send key)
  | answered (n : Nat) (ok : Bool) : Change s e (s.sendReturns n ok)
  | piped (pipes : Dict Text Text) : Change s e { s with relayPipes := pipes }

theorem change_in_phase {s : Manager} {e : Event} {i : Nat} {phase : Phase} {go : Conn → Manager}
    (active : ∀ x, s.conns[i]? = some x → x.phase = phase → Change s e (go x)) :
    Change s e (s.inPhase i phase go) := by
  unfold inPhase
  split
  · exact .same
  · next x found =>
    split
    · next here => exact active x found here
    · exact .same

theorem step_change (e : Event) : Change s e (s.step e) := by
  cases e with
  | handleIncoming =>
    simp only [step, handleIncoming]
    split
    · exact .same
    · next room => exact .spawned rfl (by simp [spawns, room])
  | connectTo =>
    simp only [step, connectTo]
    split
    · exact .same
    · next unknown =>
      split
      · exact .same
      · next room => exact .spawned rfl (by simp_all [spawns])
  | connectViaRelayTunnel =>
    simp only [step, connectViaRelayTunnel]
    split
    · exact .same
    · next known =>
      split
      · exact .same
      · next room => exact .opened rfl (by simp [opens, known, room])
  | handshakeReturns _ _ deviceId =>
    refine change_in_phase fun x found phase => ?_
    unfold handshakeReturns
    split
    · exact .failed found phase
    · next returned =>
      exact .joined deviceId found phase (by simp [registers, found, phase, returned])
  | handshakeFails => exact change_in_phase fun _ found phase => .failed found phase
  | frame _ kind =>
    refine change_in_phase fun x found phase => ?_
    unfold frame
    split
    · next dispatched =>
      cases kind with
      | relay =>
        dsimp only
        unfold relayChunk
        split
        · exact .sent _
        · next noPipe =>
          split
          · exact .same
          · next noTunnel =>
            split
            · exact .same
            · next room =>
              exact .opened rfl
                (by simp [opens, found, phase, dispatched, noPipe, noTunnel, room])
      | json | binary | raw => exact .same
    · next stopped => exact .ended found phase (by simp [ends, found, phase, stopped])
  | readLoopStops =>
    exact change_in_phase fun _ found phase => .ended found phase (by simp [ends, found, phase])
  | taskReturns _ raised => exact change_in_phase fun _ found phase => .returned raised found phase
  | send key => exact .sent key
  | sendReturns n ok => exact .answered n ok
  | openRelayPipe | closeRelayPipe => exact .piped _

theorem close_state_cases {s : Manager} {key : Text} {conns : List Conn}
    (closed : s.closeState key = .ok conns) :
    conns = s.conns ∨ ∃ j state, conns = s.conns.modify j fun x => { x with state := state } := by
  unfold closeState at closed
  split at closed
  · exact .inl (Except.ok.inj closed).symm
  · next j _ =>
    split at closed
    · exact .inl (Except.ok.inj closed).symm
    · obtain ⟨_, _, rest⟩ := Raising.except_bind_ok closed
      obtain ⟨last, _, ended⟩ := Raising.except_bind_ok rest
      exact .inr ⟨j, last, (Except.ok.inj ended).symm⟩

end Manager

open Manager

/-! ## The tables as indexes -/

def liveEntry (i : Nat) (x : Conn) : Option (Text × Nat) :=
  if x.live then some (x.addrKey, i) else none

def readingEntry (i : Nat) (x : Conn) : Option (Text × Nat) :=
  if x.phase = .reading then some (x.addrKey, i) else none

def rKeyEntry (_ : Nat) (x : Conn) : Option (Text × Text) :=
  if x.phase = .reading then x.role.rKey.map (x.addrKey, ·) else none

def tunnelEntry (i : Nat) (x : Conn) : Option (Text × Nat) :=
  if x.tunnelling then x.role.rKey.map (·, i) else none

structure Filed (s : Manager) : Prop where
  connections : Indexed s.connections (listing liveEntry s.conns)
  states : Indexed s.connectionStates (listing readingEntry s.conns)
  tunnelRKeys : Indexed s.tunnelRKeys (listing rKeyEntry s.conns)
  relayTunnels : Indexed s.relayTunnels (listing tunnelEntry s.conns)

structure Sound (conns : List Conn) (sends : List (Nat × Text)) : Prop where
  stateOf : ∀ {i : Nat} {x : Conn}, conns[i]? = some x → x.phase = .reading →
    x.state = if x.failed then .closing else .established
  streams : ∀ {i : Nat} {x : Conn}, conns[i]? = some x → x.tunnelling = true → x.eof = false
  late : ∀ {i j : Nat} {x y : Conn} {r : Text}, conns[i]? = some x → conns[j]? = some y →
    x.phase = .closing →
    x.role = .relayedIn r → y.tunnelling = true → y.role.rKey ≠ some r
  senders : ∀ p ∈ sends, ∃ x, conns[p.1]? = some x ∧ x.phase ≠ .handshaking ∧ x.addrKey = p.2
  alone : ∀ p ∈ sends, ∀ {j : Nat} {y : Conn}, conns[j]? = some y → y.phase = .reading →
    y.addrKey = p.2 → j = p.1

structure Orderly (s : Manager) : Prop where
  filed : Filed s
  sound : Sound s.conns s.sends

theorem orderly_start (maxConnections : Nat) : Orderly (start maxConnections) := by
  constructor
  · constructor <;> exact indexed_empty fun _ => rfl
  · constructor <;> simp [start]

variable {s : Manager} {i j : Nat} {x y : Conn} {k : Text}

theorem orderly_per_session (orderly : Orderly s) : PerSession s := by
  intro i x found live
  have reading : x.phase = .reading := by
    simp [Conn.live] at live
    exact live.1
  have tunnelling : x.tunnelling = true := by simp [Conn.tunnelling, reading]
  constructor
  · apply (orderly.filed.connections.lists _ _).mpr
    exact ⟨i, by rw [listing_at found, liveEntry, if_pos live]⟩
  · apply (orderly.filed.states.lists _ _).mpr
    exact ⟨i, by rw [listing_at found, readingEntry, if_pos reading]⟩
  · have state := orderly.sound.stateOf found reading
    simp [Conn.live] at live
    rwa [live.2] at state
  · intro _ carried
    refine ⟨(orderly.filed.relayTunnels.lists _ _).mpr ⟨i, ?_⟩,
      orderly.sound.streams found tunnelling⟩
    rw [listing_at found, tunnelEntry, if_pos tunnelling, carried]
    rfl

section Listed
variable {conns : List Conn}

def ByAddrKey {V : Type} (entry : Nat → Conn → Option (Text × V)) : Prop :=
  ∀ i x k v, entry i x = some (k, v) → x.phase = .reading ∧ x.addrKey = k

theorem live_by_addr_key : ByAddrKey liveEntry := by
  intro _ _ _ _ entry
  unfold liveEntry Conn.live at entry
  split at entry
  · next live =>
    cases entry
    simp only [Bool.and_eq_true, decide_eq_true_eq] at live
    exact ⟨live.1, rfl⟩
  · cases entry

theorem reading_by_addr_key : ByAddrKey readingEntry := by
  intro _ _ _ _ entry
  unfold readingEntry at entry
  split at entry
  · next reading =>
    cases entry
    exact ⟨reading, rfl⟩
  · cases entry

theorem rKey_by_addr_key : ByAddrKey rKeyEntry := by
  intro _ _ _ _ entry
  unfold rKeyEntry at entry
  split at entry
  · next reading =>
    obtain ⟨_, _, same⟩ := Option.map_eq_some_iff.mp entry
    cases same
    exact ⟨reading, rfl⟩
  · cases entry

theorem tunnel_listed {v : Nat} (listed : listing tunnelEntry conns i = some (k, v)) :
    ∃ x, conns[i]? = some x ∧ x.tunnelling = true ∧ x.role.rKey = some k := by
  obtain ⟨x, found, entry⟩ := listing_some listed
  unfold tunnelEntry at entry
  split at entry
  · next tunnelling =>
    obtain ⟨_, carried, same⟩ := Option.map_eq_some_iff.mp entry
    cases same
    exact ⟨x, found, tunnelling, carried⟩
  · cases entry

end Listed

variable {f : Conn → Conn} {role : Role}

section Unique

theorem reading_unique (filed : Filed s) (found : s.conns[i]? = some x)
    (found' : s.conns[j]? = some y) (reading : x.phase = .reading) (reading' : y.phase = .reading)
    (same : y.addrKey = x.addrKey) : j = i := by
  apply filed.states.once (k := x.addrKey) (v := j) (w := i)
  · rw [listing_at found', readingEntry, if_pos reading', same]
  · rw [listing_at found, readingEntry, if_pos reading]

theorem reading_filed (filed : Filed s) (found : s.conns[i]? = some x)
    (reading : x.phase = .reading) : s.connectionStates.get x.addrKey = some i := by
  apply (filed.states.lists _ _).mpr
  exact ⟨i, by rw [listing_at found, readingEntry, if_pos reading]⟩

theorem tunnel_unique (filed : Filed s) (found : s.conns[i]? = some x)
    (found' : s.conns[j]? = some y) (tunnelling : x.tunnelling = true)
    (tunnelling' : y.tunnelling = true) {r : Text} (carried : x.role.rKey = some r)
    (carried' : y.role.rKey = some r) : j = i := by
  apply filed.relayTunnels.once (k := r) (v := j) (w := i)
  · rw [listing_at found', tunnelEntry, if_pos tunnelling', carried']
    rfl
  · rw [listing_at found, tunnelEntry, if_pos tunnelling, carried]
    rfl

theorem noted_rKey (filed : Filed s) (found : s.conns[i]? = some x)
    (reading : x.phase = .reading) : s.tunnelRKeys.get x.addrKey = x.role.rKey := by
  cases carried : x.role.rKey with
  | some =>
    apply (filed.tunnelRKeys.lists _ _).mpr
    exact ⟨i, by rw [listing_at found, rKeyEntry, if_pos reading, carried]; rfl⟩
  | none =>
    apply indexed_get_none filed.tunnelRKeys
    intro _ _ listed
    obtain ⟨_, found', entry⟩ := listing_some listed
    obtain ⟨reading', same⟩ := rKey_by_addr_key _ _ _ _ entry
    have here := reading_unique filed found found' reading reading' same
    subst here
    cases found.symm.trans found'
    simp [rKeyEntry, carried] at entry

variable {V : Type} {entry : Nat → Conn → Option (Text × V)}

variable (byKey : ByAddrKey entry)
include byKey

theorem key_free_unlisted {key : Text} (free : s.KeyFree key) :
    Unlisted (listing entry s.conns) key := by
  intro _ _ listed
  obtain ⟨y, found, here⟩ := listing_some listed
  obtain ⟨reading, same⟩ := byKey _ _ _ _ here
  exact free.1 y (mem_of_getElem? found) reading same

theorem not_reading_none (idle : x.phase ≠ .reading) : entry i x = none := by
  cases listed : entry i x with
  | none => rfl
  | some => exact absurd (byKey _ _ _ _ listed).1 idle

theorem idle_stays_out {d : Dict Text V} (indexed : Indexed d (listing entry s.conns))
    (found : s.conns[i]? = some x) (idle : x.phase ≠ .reading) (still : (f x).phase ≠ .reading) :
    Indexed d (listing entry (s.conns.modify i f)) := by
  apply indexed_same indexed
  apply listing_modify_same found
  rw [not_reading_none byKey idle, not_reading_none byKey still]

theorem reader_leaves {d : Dict Text V} (filed : Filed s)
    (indexed : Indexed d (listing entry s.conns)) (found : s.conns[i]? = some x)
    (reading : x.phase = .reading) (gone : entry i (f x) = none) :
    Indexed (d.pop x.addrKey) (listing entry (s.conns.modify i f)) := by
  apply indexed_drop indexed (i := i)
  · intro _ _ listed
    obtain ⟨_, found', here⟩ := listing_some listed
    obtain ⟨reading', same⟩ := byKey _ _ _ _ here
    exact reading_unique filed found found' reading reading' same
  · intro _ _ listed
    rw [listing_at found] at listed
    exact (byKey _ _ _ _ listed).2.symm
  · rw [listing_modify_self found, gone]
  · intro _ other
    exact listing_modify_other other f

end Unique

/-! ## Starting connections -/

theorem sound_spawn (sound : Sound s.conns s.sends) (role : Role)
    (apart : ∀ x ∈ s.conns, x.phase = .closing → ∀ r, x.role = .relayedIn r → role.rKey ≠ some r) :
    Sound (s.conns ++ [.started role]) s.sends := by
  constructor
  · intro _ _ found reading
    rcases concat_cases found with old | ⟨_, rfl⟩
    · exact sound.stateOf old reading
    · cases reading
  · intro _ _ found tunnelling
    rcases concat_cases found with old | ⟨_, rfl⟩
    · exact sound.streams old tunnelling
    · rfl
  · intro _ _ x _ r found found' closing relayed tunnelling
    rcases concat_cases found with old | ⟨_, rfl⟩
    · rcases concat_cases found' with old' | ⟨_, rfl⟩
      · exact sound.late old old' closing relayed tunnelling
      · exact apart x (mem_of_getElem? old) closing r relayed
    · cases closing
  · intro p member
    obtain ⟨x, found, registered, key⟩ := sound.senders p member
    exact ⟨x, found_append found, registered, key⟩
  · intro p member _ _ found reading key
    rcases concat_cases found with old | ⟨_, rfl⟩
    · exact sound.alone p member old reading key
    · cases reading

theorem filed_spawn (filed : Filed s) {tunnels : Dict Text Nat}
    (indexed : Indexed tunnels (listing tunnelEntry (s.conns ++ [.started role]))) :
    Filed { s with conns := s.conns ++ [.started role], relayTunnels := tunnels } := by
  constructor
  · exact indexed_same filed.connections (listing_concat_none rfl)
  · exact indexed_same filed.states (listing_concat_none rfl)
  · exact indexed_same filed.tunnelRKeys (listing_concat_none rfl)
  · exact indexed

theorem orderly_spawn (orderly : Orderly s) (direct : role.rKey = none) :
    Orderly (s.spawn role) := by
  constructor
  · apply filed_spawn orderly.filed
    apply indexed_same orderly.filed.relayTunnels (listing_concat_none _)
    simp [tunnelEntry, Conn.started, direct]
  · apply sound_spawn orderly.sound role
    intro _ _ _ _ _
    rw [direct]
    nofun

theorem orderly_open_tunnel (orderly : Orderly s) {r : Text} (carried : role.rKey = some r)
    (free : s.RelayFree r) : Orderly (s.openTunnel r role) := by
  constructor
  · apply filed_spawn orderly.filed
    apply indexed_add orderly.filed.relayTunnels (i := s.conns.length)
    · intro _ _ listed
      obtain ⟨x, found, tunnelling, same⟩ := tunnel_listed listed
      exact free x (mem_of_getElem? found) (by simp [Conn.mayUnregister, tunnelling]) same
    · exact listing_past
    · rw [listing_concat_new]
      simp [tunnelEntry, Conn.started, Conn.tunnelling, carried]
    · intro _ other
      exact listing_concat_old other _
  · apply sound_spawn orderly.sound role
    intro x member closing q relayed same
    have both : q = r := by
      rw [carried] at same
      exact (Option.some.inj same).symm
    subst both
    exact free x member (by simp [Conn.mayUnregister, closing, relayed])
      (by simp [relayed, Role.rKey])

/-! ## Changing one connection -/

structure Respects (conns : List Conn) (sends : List (Nat × Text)) (i : Nat) (x z : Conn) :
    Prop where
  stateOf : z.phase = .reading → z.state = if z.failed then .closing else .established
  stream : z.eof = x.eof
  role : z.role = x.role
  tunnelling : z.tunnelling = true → x.tunnelling = true
  late : z.phase = .closing → ∀ r, x.role = .relayedIn r → ∀ j y, conns[j]? = some y →
    y.tunnelling = true → j ≠ i → y.role.rKey ≠ some r
  registered : x.phase ≠ .handshaking → z.phase ≠ .handshaking ∧ z.addrKey = x.addrKey
  fresh : z.phase = .reading → x.phase = .reading ∨ ∀ p ∈ sends, p.2 ≠ z.addrKey

theorem sound_modify {conns : List Conn} {sends : List (Nat × Text)} (sound : Sound conns sends)
    {i : Nat} (found : conns[i]? = some x) (respects : Respects conns sends i x (f x)) :
    Sound (conns.modify i f) sends := by
  constructor
  · intro _ _ found' reading
    rcases changed_cases found found' with ⟨rfl, rfl⟩ | ⟨_, old⟩
    · exact respects.stateOf reading
    · exact sound.stateOf old reading
  · intro _ _ found' tunnelling
    rcases changed_cases found found' with ⟨rfl, rfl⟩ | ⟨_, old⟩
    · rw [respects.stream]
      exact sound.streams found (respects.tunnelling tunnelling)
    · exact sound.streams old tunnelling
  · intro _ b _ w r first second closing relayed tunnelling
    rcases changed_cases found first with ⟨rfl, rfl⟩ | ⟨_, old⟩
    · rcases changed_cases found second with ⟨rfl, rfl⟩ | ⟨there, old'⟩
      · simp [Conn.tunnelling, closing] at tunnelling
      · exact respects.late closing r (respects.role ▸ relayed) b w old' tunnelling there
    · rcases changed_cases found second with ⟨rfl, rfl⟩ | ⟨_, old'⟩
      · rw [respects.role]
        exact sound.late old found closing relayed (respects.tunnelling tunnelling)
      · exact sound.late old old' closing relayed tunnelling
  · intro p member
    obtain ⟨y, old, registered, key⟩ := sound.senders p member
    by_cases here : p.1 = i
    · rw [here] at old ⊢
      cases found.symm.trans old
      obtain ⟨still, same⟩ := respects.registered registered
      exact ⟨f x, modify_at found, still, same.trans key⟩
    · exact ⟨y, (modify_other here).trans old, registered, key⟩
  · intro p member _ _ found' reading key
    rcases changed_cases found found' with ⟨rfl, rfl⟩ | ⟨_, old⟩
    · rcases respects.fresh reading with before | free
      · have same := (respects.registered (by rw [before]; nofun)).2
        exact sound.alone p member found before (same.symm.trans key)
      · exact absurd key.symm (free p member)
    · exact sound.alone p member old reading key

section Register
variable {key : Text}

theorem orderly_register (orderly : Orderly s) (found : s.conns[i]? = some x)
    (phase : x.phase = .handshaking) (free : s.KeyFree key) (deviceId : Text) :
    Orderly ((s.noteTunnelRKey key x.role).registerSession i key deviceId) := by
  have idle : x.phase ≠ .reading := by
    rw [phase]
    nofun
  have before : ∀ {V} {entry : Nat → Conn → Option (Text × V)}, ByAddrKey entry →
      listing entry s.conns i = none :=
    fun byKey => (listing_at found).trans (not_reading_none byKey idle)
  have others : ∀ {V} (entry : Nat → Conn → Option (Text × V)) (j : Nat), j ≠ i →
      listing entry (s.conns.modify i fun x => x.registered key deviceId .established) j =
        listing entry s.conns j := fun entry j other => listing_modify_other other _
  unfold noteTunnelRKey
  constructor
  · constructor
    · apply indexed_add orderly.filed.connections (key_free_unlisted live_by_addr_key free)
        (before live_by_addr_key) _ (others liveEntry)
      exact listing_modify_self found _
    · apply indexed_add orderly.filed.states (key_free_unlisted reading_by_addr_key free)
        (before reading_by_addr_key) _ (others readingEntry)
      exact listing_modify_self found _
    · have entry : listing rKeyEntry
          (s.conns.modify i fun x => x.registered key deviceId .established) i =
            x.role.rKey.map (key, ·) := listing_modify_self found _
      have absent := before rKey_by_addr_key
      cases carried : x.role.rKey with
      | none =>
        rw [carried] at entry
        apply indexed_same orderly.filed.tunnelRKeys
        intro j
        by_cases here : j = i
        · subst here
          exact entry.trans absent.symm
        · exact others rKeyEntry j here
      | some =>
        rw [carried] at entry
        exact indexed_add orderly.filed.tunnelRKeys (key_free_unlisted rKey_by_addr_key free) absent
          entry (others rKeyEntry)
    · apply indexed_same orderly.filed.relayTunnels
      apply listing_modify_same found
      simp [tunnelEntry, Conn.tunnelling, Conn.registered, phase]
  · apply sound_modify orderly.sound found
    constructor
    · intro _
      rfl
    · rfl
    · rfl
    · intro _
      simp [Conn.tunnelling, phase]
    · nofun
    · intro registered
      exact absurd phase registered
    · intro _
      exact .inr free.2

end Register

/-! ## Leaving the tables -/

section Leave

theorem tunnel_leaves (filed : Filed s) (found : s.conns[i]? = some x)
    (tunnelling : x.tunnelling = true) (gone : (f x).tunnelling = false) :
    Indexed (withoutTunnel s.relayTunnels x.role.rKey)
      (listing tunnelEntry (s.conns.modify i f)) := by
  have entry : tunnelEntry i (f x) = none := by simp [tunnelEntry, gone]
  have mine : listing tunnelEntry s.conns i = x.role.rKey.map (·, i) := by
    rw [listing_at found, tunnelEntry, if_pos tunnelling]
  cases carried : x.role.rKey with
  | none =>
    rw [carried] at mine
    apply indexed_same filed.relayTunnels
    apply listing_modify_same found
    exact entry.trans (mine.symm.trans (listing_at found))
  | some =>
    rw [carried] at mine
    apply indexed_drop filed.relayTunnels (i := i)
    · intro _ _ listed
      obtain ⟨_, found', tunnelling', carried'⟩ := tunnel_listed listed
      exact tunnel_unique filed found found' tunnelling tunnelling' carried carried'
    · intro _ _ listed
      rw [mine] at listed
      cases listed
      rfl
    · rw [listing_modify_self found, entry]
    · intro _ other
      exact listing_modify_other other f

theorem carries_none_unlisted {key : Text} (none : s.CarriesNone key) :
    Unlisted (listing tunnelEntry s.conns) key := by
  intro _ _ listed
  obtain ⟨y, found, tunnelling, carried⟩ := tunnel_listed listed
  exact none y (mem_of_getElem? found) tunnelling carried

variable (orderly : Orderly s) (found : s.conns[i]? = some x)
include orderly found

theorem orderly_finish {tunnels : Dict Text Nat} (idle : x.phase ≠ .reading)
    (indexed : Indexed tunnels (listing tunnelEntry (s.finish i).conns)) :
    Orderly { s.finish i with relayTunnels := tunnels } := by
  constructor
  · constructor
    · exact idle_stays_out live_by_addr_key orderly.filed.connections found idle nofun
    · exact idle_stays_out reading_by_addr_key orderly.filed.states found idle nofun
    · exact idle_stays_out rKey_by_addr_key orderly.filed.tunnelRKeys found idle nofun
    · exact indexed
  · apply sound_modify orderly.sound found
    constructor
    · nofun
    · rfl
    · rfl
    · nofun
    · nofun
    · intro _
      exact ⟨nofun, rfl⟩
    · nofun

theorem orderly_handshake_fails (phase : x.phase = .handshaking) :
    Orderly ((s.unregisterOwnTunnel x.role).finish i) := by
  apply orderly_finish orderly found
  · rw [phase]
    nofun
  · exact tunnel_leaves orderly.filed found (by simp [Conn.tunnelling, phase]) rfl

theorem orderly_task_returns (phase : x.phase = .closing) (raised : Bool) :
    Orderly (s.taskReturns i x raised) := by
  have idle : x.phase ≠ .reading := by
    rw [phase]
    nofun
  have still : Indexed s.relayTunnels (listing tunnelEntry (s.finish i).conns) := by
    apply indexed_same orderly.filed.relayTunnels
    apply listing_modify_same found
    simp [tunnelEntry, Conn.tunnelling, Conn.inPhase, phase]
  unfold taskReturns
  split
  · next r relayed =>
    -- No tunnel over r is in use, so the late unregistering hits nothing.
    apply orderly_finish orderly found idle
    apply indexed_pop_unlisted still
    intro _ _ listed
    obtain ⟨_, found', tunnelling, carried⟩ := tunnel_listed listed
    rcases changed_cases found found' with ⟨_, rfl⟩ | ⟨_, old⟩
    · cases tunnelling
    · exact orderly.sound.late found old phase relayed tunnelling carried
  · exact orderly_finish orderly found idle still

theorem close_state_ok (reading : x.phase = .reading) :
    s.closeState x.addrKey = .ok (s.conns.modify i fun x => { x with state := .closed }) := by
  have filed := reading_filed orderly.filed found reading
  have state := orderly.sound.stateOf found reading
  unfold closeState
  simp only [filed, found]
  cases failed : x.failed <;> rw [failed] at state <;> rw [state] <;> rfl

theorem orderly_read_loop_finally (reading : x.phase = .reading) (none : s.CarriesNone x.addrKey) :
    Orderly (s.readLoopFinally i x.addrKey) := by
  have tunnelling : x.tunnelling = true := by simp [Conn.tunnelling, reading]
  have unlisted := carries_none_unlisted none
  have deaf : (withoutTunnel s.relayTunnels x.role.rKey).get x.addrKey = Option.none := by
    have absent := indexed_get_none orderly.filed.relayTunnels unlisted
    cases x.role.rKey with
    | none => exact absent
    | some => simp [withoutTunnel, absent]
  unfold readLoopFinally
  rw [close_state_ok orderly found reading]
  simp only [noted_rKey orderly.filed found reading, deaf, feedEof,
    modify_modify_eq]
  constructor
  · constructor
    · exact reader_leaves live_by_addr_key orderly.filed orderly.filed.connections found reading rfl
    · exact reader_leaves reading_by_addr_key orderly.filed orderly.filed.states found reading rfl
    · exact reader_leaves rKey_by_addr_key orderly.filed orderly.filed.tunnelRKeys found reading rfl
    · apply indexed_pop_unlisted (tunnel_leaves orderly.filed found tunnelling rfl)
      intro _ _ listed
      obtain ⟨y, found', still, carried⟩ := tunnel_listed listed
      rcases changed_cases found found' with ⟨_, rfl⟩ | ⟨_, old⟩
      · cases still
      · exact none y (mem_of_getElem? old) still carried
  · apply sound_modify orderly.sound found
    constructor
    · nofun
    · rfl
    · rfl
    · nofun
    · intro _ _ relayed _ _ found' tunnelling' other carried
      apply other
      exact tunnel_unique orderly.filed found found' tunnelling tunnelling' (by rw [relayed]; rfl)
        carried
    · intro _
      exact ⟨nofun, rfl⟩
    · nofun

end Leave

/-! ## Sends -/

section Send

theorem mark_closing_closes (state : x.state = if x.failed then .closing else .established) :
    Conn.markClosing { x with failed := true } = { x with failed := true, state := .closing } := by
  unfold Conn.markClosing
  cases failed : x.failed <;> rw [failed] at state <;> simp only [state] <;> rfl

section Fails
variable (orderly : Orderly s) (found : s.conns[i]? = some x)
include orderly found

theorem orderly_reader_fails (reading : x.phase = .reading) : Orderly { s with
      connections := s.connections.pop x.addrKey
      conns := s.conns.modify i fun x => { x with failed := true, state := .closing } } := by
  constructor
  · constructor
    · apply reader_leaves live_by_addr_key orderly.filed orderly.filed.connections found reading
      simp [liveEntry, Conn.live]
    · exact indexed_same orderly.filed.states (listing_modify_same found rfl)
    · exact indexed_same orderly.filed.tunnelRKeys (listing_modify_same found rfl)
    · exact indexed_same orderly.filed.relayTunnels (listing_modify_same found rfl)
  · apply sound_modify orderly.sound found
    constructor
    · intro _
      rfl
    · rfl
    · rfl
    · intro tunnelling
      exact tunnelling
    · intro closing
      rw [reading] at closing
      cases closing
    · intro registered
      exact ⟨registered, rfl⟩
    · intro _
      exact .inl reading

theorem orderly_stale_fails (idle : x.phase ≠ .reading) (registered : x.phase ≠ .handshaking)
    (unlisted : ∀ {V : Type} {entry : Nat → Conn → Option (Text × V)}, ByAddrKey entry →
      Unlisted (listing entry s.conns) k) :
    Orderly { s with
      connections := s.connections.pop k
      conns := s.conns.modify i fun x => { x with failed := true } } := by
  constructor
  · constructor
    · exact idle_stays_out live_by_addr_key
        (indexed_pop_unlisted orderly.filed.connections (unlisted live_by_addr_key)) found idle idle
    · exact indexed_same orderly.filed.states (listing_modify_same found rfl)
    · exact indexed_same orderly.filed.tunnelRKeys (listing_modify_same found rfl)
    · exact indexed_same orderly.filed.relayTunnels (listing_modify_same found rfl)
  · apply sound_modify orderly.sound found
    constructor
    · intro reading
      exact absurd reading idle
    · rfl
    · rfl
    · intro tunnelling
      exact tunnelling
    · intro closing _ relayed _ _ found' tunnelling _
      exact orderly.sound.late found found' closing relayed tunnelling
    · intro _
      exact ⟨registered, rfl⟩
    · intro reading
      exact absurd reading idle

theorem orderly_send_raised (registered : x.phase ≠ .handshaking) (key : x.addrKey = k)
    (alone : ∀ {j y}, s.conns[j]? = some y → y.phase = .reading → y.addrKey = k → j = i) :
    Orderly (s.sendRaised i k) := by
  unfold sendRaised markClosing
  by_cases reading : x.phase = .reading
  · have filed := reading_filed orderly.filed found reading
    have marked : s.conns.modify i (Conn.markClosing ∘ fun x => { x with failed := true }) =
        s.conns.modify i fun x => { x with failed := true, state := .closing } :=
      modify_congr found (mark_closing_closes (orderly.sound.stateOf found reading))
    rw [← key, filed]
    dsimp only
    rw [modify_modify_eq, marked]
    exact orderly_reader_fails orderly found reading
  · have unlisted : ∀ {V : Type} {entry : Nat → Conn → Option (Text × V)}, ByAddrKey entry →
        Unlisted (listing entry s.conns) k := by
      intro _ _ byKey _ _ listed
      obtain ⟨_, found', here⟩ := listing_some listed
      obtain ⟨reading', same⟩ := byKey _ _ _ _ here
      have owner := alone found' reading' same
      subst owner
      cases found.symm.trans found'
      exact reading reading'
    rw [indexed_get_none orderly.filed.states (unlisted reading_by_addr_key)]
    exact orderly_stale_fails orderly found reading registered unlisted

end Fails

variable (orderly : Orderly s)
include orderly

theorem orderly_send (key : Text) : Orderly (s.send key) := by
  unfold send
  split
  · exact orderly
  · next i filed =>
    obtain ⟨j, listed⟩ := (orderly.filed.connections.lists key i).mp filed
    obtain ⟨x, found, entry⟩ := listing_some listed
    obtain ⟨reading, rfl⟩ := live_by_addr_key _ _ _ _ entry
    have here : j = i := by
      unfold liveEntry at entry
      split at entry
      · cases entry
        rfl
      · cases entry
    subst here
    refine ⟨⟨orderly.filed.connections, orderly.filed.states, orderly.filed.tunnelRKeys,
      orderly.filed.relayTunnels⟩, orderly.sound.stateOf, orderly.sound.streams,
      orderly.sound.late, ?_, ?_⟩
    · intro p member
      rcases mem_append.mp member with old | new
      · exact orderly.sound.senders p old
      · cases mem_singleton.mp new
        exact ⟨x, found, by rw [reading]; nofun, rfl⟩
    · intro p member _ _ found' reading' same
      rcases mem_append.mp member with old | new
      · exact orderly.sound.alone p old found' reading' same
      · cases mem_singleton.mp new
        exact reading_unique orderly.filed found found' reading reading' same

theorem orderly_fewer_sends {sends : List (Nat × Text)} (fewer : ∀ p ∈ sends, p ∈ s.sends) :
    Orderly { s with sends := sends } := by
  refine ⟨⟨orderly.filed.connections, orderly.filed.states, orderly.filed.tunnelRKeys,
    orderly.filed.relayTunnels⟩, orderly.sound.stateOf, orderly.sound.streams,
    orderly.sound.late, ?_, ?_⟩
  · intro p member
    exact orderly.sound.senders p (fewer p member)
  · intro p member _ _ found reading same
    exact orderly.sound.alone p (fewer p member) found reading same

theorem orderly_send_returns (n : Nat) (ok : Bool) : Orderly (s.sendReturns n ok) := by
  unfold sendReturns
  split
  · exact orderly
  · next i key waiting =>
    have waits := mem_of_getElem? waiting
    have rest : Orderly { s with sends := s.sends.eraseIdx n } :=
      orderly_fewer_sends orderly fun p member => mem_of_mem_eraseIdx member
    obtain ⟨_, found, registered, filed⟩ := orderly.sound.senders _ waits
    split
    · exact rest
    · exact orderly_send_raised rest found registered filed (orderly.sound.alone _ waits)

end Send

/-! ## Every step -/

theorem orderly_pipes (orderly : Orderly s) (pipes : Dict Text Text) :
    Orderly { s with relayPipes := pipes } :=
  ⟨⟨orderly.filed.connections, orderly.filed.states, orderly.filed.tunnelRKeys,
    orderly.filed.relayTunnels⟩, orderly.sound⟩

theorem orderly_step (orderly : Orderly s) {e : Event} (separate : s.Separate e) :
    Orderly (s.step e) := by
  obtain ⟨keys, relays, carriers⟩ := separate
  have change := s.step_change e
  generalize s.step e = t at change ⊢
  cases change with
  | same => exact orderly
  | spawned direct => exact orderly_spawn orderly direct
  | opened carried opens => exact orderly_open_tunnel orderly carried (relays _ opens)
  | joined deviceId found phase registers =>
    exact orderly_register orderly found phase (keys _ registers) deviceId
  | failed found phase => exact orderly_handshake_fails orderly found phase
  | ended found phase ends => exact orderly_read_loop_finally orderly found phase (carriers _ ends)
  | returned raised found phase => exact orderly_task_returns orderly found phase raised
  | sent key => exact orderly_send orderly key
  | answered n ok => exact orderly_send_returns orderly n ok
  | piped pipes => exact orderly_pipes orderly pipes

/-- With addr_keys and relays kept apart, each session stays reachable until it ends or fails. -/
theorem bookkeeping_per_session (maxConnections : Nat) (events : List Event)
    (separate : Along step Manager.Separate (start maxConnections) events) :
    Everywhere step PerSession (start maxConnections) events := by
  have all := invariant_everywhere (fun s _ (orderly : Orderly s) step => orderly_step orderly step)
    (orderly_start maxConnections) separate
  exact everywhere_mono (fun s orderly => orderly_per_session orderly) all

section Sample

def host : Text × Nat := ("10.0.0.2", 5000)

def relayHost : Text × Nat := ("10.0.0.9", 5000)

def ann : Text := "a1b2c3d4e5f6"

def bob : Text := "0f1e2d3c4b5a"

def threeSessions : List Event :=
  [.connectTo relayHost.1 relayHost.2, .handleIncoming,
    .handshakeReturns 0 (some relayHost) "relay", .handshakeReturns 1 (some host) ann,
    .connectViaRelayTunnel (addrKey relayHost.1 relayHost.2) bob, .send (addrKey host.1 host.2),
    .frame 0 .relay, .handshakeReturns 2 none bob, .sendReturns 0 false, .readLoopStops 1,
    .taskReturns 1 false]

theorem three_sessions_apart :
    (run step (start 64) threeSessions).conns.map Conn.live = [true, false, true] ∧
      PerSession (run step (start 64) threeSessions) := by
  constructor
  · decide +kernel
  · exact bookkeeping_per_session 64 threeSessions (by decide +kernel) threeSessions
      prefix_rfl

def twoDials : List Event :=
  [.connectTo host.1 host.2, .connectTo host.1 host.2, .handshakeReturns 0 (some host) ann,
    .handshakeReturns 1 (some host) ann]

theorem concurrent_dials_disturb :
    ¬ Everywhere step PerSession (start 64) twoDials ∧
      (run step (start 64) twoDials).connections.get (addrKey host.1 host.2) =
        some 1 ∧
      (run step (start 64) (twoDials ++ [.readLoopStops 0])).conns.map
        (fun x => (x.live, x.state)) = [(false, .established), (true, .closed)] ∧
      (run step (start 64) (twoDials ++ [.readLoopStops 0])).connections.get
        (addrKey host.1 host.2) = none := by
  refine ⟨?_, by decide +kernel, by decide +kernel, by decide +kernel⟩
  intro all
  let first : Conn :=
    ⟨.dialled, .reading, addrKey host.1 host.2, ann, .established, false, false⟩
  have held := all twoDials prefix_rfl 0 first (by decide +kernel) rfl
  have reachable := held.reachable
  revert reachable
  decide +kernel

end Sample

end Peerc.Transport
