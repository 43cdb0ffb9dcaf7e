import Peerc.Discovery.Broadcast
import Peerc.Lib.Runs

/-!
The registry of peers over a whole run of packets and prunings. What is called for a peer is its
part of the list of all calls.
-/
namespace Peerc.Discovery
open List Decoded Slices Runs

inductive Callback where
  | new | lost

/-- The registry and the calls of on_peer_new and on_peer_lost so far. -/
structure Watched where
  registry : PeerRegistry
  calls : List (Str × Callback)

inductive Event where
  | packet (data : Bytes) (ip : Str) (now : Time)
  | prune (now : Time)

def peerTimeout : Time := 10

namespace Watched

def start : Watched := ⟨⟨.empty, [], []⟩, []⟩

/-- A packet whose handling raises has not reached the registry. -/
def receive (lib : Libraries) (own : Str) (w : Watched) (data : Bytes) (ip : Str) (now : Time) :
    Watched :=
  match handlePacket lib own w.registry data ip now with
  | .error _ => w
  | .ok r => ⟨r, w.calls ++ (r.announced.drop w.registry.announced.length).map (·, .new)⟩

variable (w : Watched)

def lose (id : Str) : Watched :=
  ⟨{ w.registry with peers := w.registry.peers.pop id }, w.calls ++ [(id, .lost)]⟩

def staleIds (now : Time) : List Str :=
  (w.registry.peers.rows.filter (fun entry => now - entry.2.lastSeen > peerTimeout)).map Prod.fst

def pruneStale (now : Time) : Watched := (w.staleIds now).foldl lose w

def step (lib : Libraries) (own : Str) (w : Watched) : Event → Watched
  | .packet data ip now => w.receive lib own data ip now
  | .prune now => w.pruneStale now

def callsFor (id : Str) : List Callback :=
  (w.calls.filter (fun call => call.1 = id)).map Prod.snd

end Watched

open Watched

structure Vouched (lib : Libraries) (own id : Str) (peer : Peer) : Prop where
  keyLength : peer.publicKey.length = 32
  ownKey : id = ofText (lib.sha256Hex peer.publicKey)
  port : 1 ≤ peer.tcpPort ∧ peer.tcpPort ≤ 65535
  name : peer.name.length ≤ 64
  foreign : id ≠ own

def turn (n : Nat) : Callback := if n % 2 = 0 then .new else .lost

def Alternates (calls : List Callback) : Prop := ∀ i call, calls[i]? = some call → call = turn i

def Listed (r : PeerRegistry) (id : Str) : Prop := ∃ peer, r.peers.get id = some peer

structure Consistent (lib : Libraries) (own : Str) (w : Watched) : Prop where
  vouched : ∀ id peer, w.registry.peers.get id = some peer → Vouched lib own id peer
  alternates : ∀ id, Alternates (w.callsFor id)
  listed : ∀ id, Listed w.registry id ↔ (w.callsFor id).length % 2 = 1

section Calls
variable {lib : Libraries} {own id : Str} {w : Watched} {r : PeerRegistry}

theorem alternates_concat {calls : List Callback} (before : Alternates calls) :
    Alternates (calls ++ [turn calls.length]) := by
  intro i call found
  rcases concat_cases found with old | ⟨here, rfl⟩
  · exact before i call old
  · rw [here]

theorem calls_for_concat (r : PeerRegistry) (calls : List (Str × Callback)) (id q : Str)
    (call : Callback) : callsFor ⟨r, calls ++ [(id, call)]⟩ q =
      callsFor ⟨r, calls⟩ q ++ if q = id then [call] else [] := by
  unfold callsFor
  rw [filter_append, map_append]
  by_cases same : id = q
  · simp [same]
  · simp [same, Ne.symm same]

variable (consistent : Consistent lib own w)
include consistent

/-- A call for one peer keeps the order if it is that peer's turn and changes no other peer. -/
theorem consistent_call (vouched : ∀ q peer, r.peers.get q = some peer → Vouched lib own q peer)
    (toggled : Listed r id ↔ ¬ Listed w.registry id)
    (others : ∀ q, q ≠ id → (Listed r q ↔ Listed w.registry q)) :
    Consistent lib own ⟨r, w.calls ++ [(id, turn (w.callsFor id).length)]⟩ := by
  have before : ∀ q, callsFor ⟨r, w.calls⟩ q = w.callsFor q := fun q => rfl
  refine ⟨vouched, ?_, ?_⟩
  · intro q
    rw [calls_for_concat, before]
    split
    · next same =>
      subst same
      exact alternates_concat (consistent.alternates q)
    · rw [append_nil]
      exact consistent.alternates q
  · intro q
    rw [calls_for_concat, before, length_append]
    have parity := consistent.listed q
    split
    · next same =>
      subst same
      rw [toggled, parity, length_singleton]
      omega
    · next other =>
      rw [others q other, parity]
      rfl

theorem turn_of_listed (listed : Listed w.registry id) : turn (w.callsFor id).length = .lost := by
  have odd := (consistent.listed id).mp listed
  simp [turn, odd]

theorem turn_of_unlisted (absent : ¬ Listed w.registry id) :
    turn (w.callsFor id).length = .new := by
  have even : (w.callsFor id).length % 2 = 0 := by
    have odd := mt (consistent.listed id).mpr absent
    omega
  simp [turn, even]

end Calls

/-! ## Pruning -/

section Prune
variable {lib : Libraries} {own : Str} {w : Watched}

theorem listed_pop (r : PeerRegistry) (id q : Str) :
    Listed { r with peers := r.peers.pop id } q ↔ q ≠ id ∧ Listed r q := by
  unfold Listed
  by_cases same : q = id <;> simp [same]

variable (consistent : Consistent lib own w)
include consistent

theorem consistent_lose {id : Str} (listed : Listed w.registry id) :
    Consistent lib own (w.lose id) := by
  unfold lose
  rw [← turn_of_listed consistent listed]
  apply consistent_call consistent
  · intro q peer found
    exact consistent.vouched q peer (Dict.of_get_pop found).2
  · rw [listed_pop]
    simp [listed]
  · intro q other
    rw [listed_pop]
    simp [other]

theorem consistent_lose_all {ids : List Str} (distinct : ids.Nodup)
    (listed : ∀ id ∈ ids, Listed w.registry id) : Consistent lib own (ids.foldl lose w) := by
  induction ids generalizing w with
  | nil => exact consistent
  | cons id ids ih =>
    obtain ⟨fresh, rest⟩ := nodup_cons.mp distinct
    apply ih (consistent_lose consistent (listed id mem_cons_self)) rest
    intro q member
    have other : q ≠ id := fun same => fresh (same ▸ member)
    exact (listed_pop w.registry id q).mpr ⟨other, listed q (mem_cons_of_mem id member)⟩

theorem consistent_prune (now : Time) : Consistent lib own (w.pruneStale now) := by
  apply consistent_lose_all consistent
  · exact w.registry.peers.unique.sublist (filter_sublist.map Prod.fst)
  · intro id member
    obtain ⟨⟨_, peer⟩, stale, rfl⟩ := mem_map.mp member
    exact ⟨peer, (Dict.get_some_iff _ _ _).mpr (mem_filter.mp stale).1⟩

end Prune

/-! ## Packets -/

section Packet
variable {lib : Libraries} {own ip : Str} {a : Announce} {w : Watched} {now : Time}

theorem read_announce_vouched {v : Value} (read : readAnnounce lib own ip v = some a) (at_ : Str)
    (model : Str) (now : Time) :
    Vouched lib own a.deviceId ⟨a.name, at_, a.tcpPort, a.publicKey, model, now⟩ := by
  cases v with
  | dict msg =>
    obtain ⟨⟨deviceId, publicKey, tcpPort⟩, checked, rfl⟩ := Option.map_eq_some_iff.mp read
    simp only [checkPacket, Option.bind_eq_bind, Option.bind_eq_some_iff, Option.some.injEq,
      Prod.mk.injEq] at checked
    obtain ⟨_, _, _, _, _, _, _, _, _, _, _, _, _, _, _, keys, _, _, _, ports, rfl, rfl, rfl⟩ :=
      checked
    obtain ⟨keyLength, ownKey, foreign⟩ := (Option.guard_eq_some' _).mp keys
    obtain ⟨positive, small⟩ := (Option.guard_eq_some' _).mp ports
    exact ⟨keyLength, ownKey.symm, ⟨positive, Int.le_of_lt_add_one small⟩, length_take_le 64 _,
      foreign⟩
  | _ => cases read

theorem upsert_get (r : PeerRegistry) (ip : Str) (now : Time) (key : a.publicKey ≠ []) (q : Str) :
    ∃ model, (upsert r a ip now).peers.get q =
      if q = a.deviceId then some ⟨a.name, ip, a.tcpPort, a.publicKey, model, now⟩
      else r.peers.get q := by
  unfold upsert
  split
  · exact ⟨a.model, Dict.get_set _ _ _ _⟩
  · next old _ =>
    refine ⟨if a.model = [] then old.model else a.model, ?_⟩
    rw [if_neg key]
    exact Dict.get_set _ _ _ _

theorem consistent_upsert (consistent : Consistent lib own w)
    (vouched : ∀ model, Vouched lib own a.deviceId
      ⟨a.name, ip, a.tcpPort, a.publicKey, model, now⟩) (replies : List Str) :
    Consistent lib own ⟨{ upsert w.registry a ip now with replies := replies },
      w.calls ++ ((upsert w.registry a ip now).announced.drop w.registry.announced.length).map
        (·, .new)⟩ := by
  have key : a.publicKey ≠ [] := by
    intro empty
    have length := (vouched []).keyLength
    simp [empty] at length
  have get := upsert_get w.registry ip now key
  have sound : ∀ q peer, (upsert w.registry a ip now).peers.get q = some peer →
      Vouched lib own q peer := by
    intro q peer found
    obtain ⟨model, got⟩ := get q
    rw [got] at found
    split at found
    · next same =>
      cases found
      exact same ▸ vouched model
    · exact consistent.vouched q peer found
  have here : Listed (upsert w.registry a ip now) a.deviceId := by
    obtain ⟨_, got⟩ := get a.deviceId
    exact ⟨_, got.trans (if_pos rfl)⟩
  have others : ∀ q, q ≠ a.deviceId →
      (Listed (upsert w.registry a ip now) q ↔ Listed w.registry q) := by
    intro q other
    obtain ⟨_, got⟩ := get q
    rw [Listed, got, if_neg other, Listed]
  by_cases known : Listed w.registry a.deviceId
  · have quiet : (upsert w.registry a ip now).announced = w.registry.announced := by
      obtain ⟨_, found⟩ := known
      simp [upsert, found]
    rw [quiet, drop_length, map_nil, append_nil]
    refine ⟨sound, consistent.alternates, ?_⟩
    intro q
    by_cases same : q = a.deviceId
    · subst same
      exact (iff_of_true here known).trans (consistent.listed _)
    · exact (others q same).trans (consistent.listed q)
  · have called : (upsert w.registry a ip now).announced =
        w.registry.announced ++ [a.deviceId] := by
      have absent := Option.eq_none_iff_forall_ne_some.mpr fun peer found => known ⟨peer, found⟩
      simp [upsert, absent]
    rw [called, drop_left, map_singleton, ← turn_of_unlisted consistent known]
    exact consistent_call consistent sound (iff_of_true here known) others

theorem consistent_receive (consistent : Consistent lib own w) (data : Bytes) (ip : Str)
    (now : Time) : Consistent lib own (w.receive lib own data ip now) := by
  have quiet : Consistent lib own
      ⟨w.registry, w.calls ++ (w.registry.announced.drop w.registry.announced.length).map
        (·, .new)⟩ := by
    rw [drop_length, map_nil, append_nil]
    exact consistent
  unfold receive handlePacket
  cases decodeUtf8 data with
  | none => exact quiet
  | some text =>
    dsimp only
    cases lib.loads text with
    | error e =>
      cases e with
      | jsonDecodeError => exact quiet
      | recursionError => exact consistent
    | ok value =>
      dsimp only
      cases read : readAnnounce lib own ip value with
      | none => exact quiet
      | some a =>
        exact consistent_upsert consistent (fun model => read_announce_vouched read ip model now) _

end Packet

theorem consistent_start (lib : Libraries) (own : Str) : Consistent lib own .start := by
  constructor
  · intro _ _ found
    cases found
  · intro _ _ _ found
    cases found
  · intro _
    simp [Listed, start, callsFor]

/-- Entries stay vouched for, and each peer's callbacks alternate, over every run. -/
theorem registry_consistent (lib : Libraries) (own : Str) (events : List Event) :
    Everywhere (step lib own) (Consistent lib own) .start events := by
  refine invariant_everywhere ?_ (consistent_start lib own) (along_free _ events)
  intro w e consistent _
  cases e with
  | packet data ip now => exact consistent_receive consistent data ip now
  | prune now => exact consistent_prune consistent now

end Peerc.Discovery
