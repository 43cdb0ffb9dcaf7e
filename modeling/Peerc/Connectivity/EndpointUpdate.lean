import Peerc.Lib.Runs
import Peerc.Group.Protocol
import Peerc.Handshake.Session

/-!
Signed endpoint updates and their verification against one running nonce cache. A call reads
the clock twice: for the age of the update, and for the cache.
-/
namespace Peerc.Connectivity
open List Runs Groups Handshake GroupEnv

inductive Stamp where
  | finite (t : Time)
  | nan
  | posInf
  | negInf
  deriving DecidableEq

structure EndpointUpdate where
  deviceId : Text
  kind : Text
  host : Text
  port : Int
  timestamp : Stamp
  nonce : Text
  signature : Text
  deriving DecidableEq

def EndpointUpdate.unsigned (u : EndpointUpdate) : EndpointUpdate := { u with signature := [] }

variable (env : GroupEnv)

def Stamp.pack : Stamp → Bytes
  | .finite t => env.packDouble t
  | .nan => [0x7f, 0xf8, 0, 0, 0, 0, 0, 0]
  | .posInf => [0x7f, 0xf0, 0, 0, 0, 0, 0, 0]
  | .negInf => [0xff, 0xf0, 0, 0, 0, 0, 0, 0]

/-- _update_payload; a port or a length that does not fit in 32 bits raises. -/
def EndpointUpdate.payload (u : EndpointUpdate) : Option Bytes := do
  let place ← packFields [utf8 u.deviceId, utf8 u.kind, utf8 u.host]
  let nonce ← packFields [utf8 u.nonce]
  if 0 ≤ u.port ∧ u.port < 2 ^ 32 then
    some (utf8 "peerc-endpoint-update\x00" ++ place ++ be32 u.port.toNat ++
      u.timestamp.pack env ++ nonce)
  else none

inductive EndpointUpdateError where
  | invalidKind (kind : Text)
  | missingHost
  | invalidPort (port : Int)
  | oversizedField
  deriving DecidableEq

def validKinds : List Text := ["direct-v4", "direct-v6", "rendezvous"]

def createEndpointUpdate (key : env.ed25519.PrivateKey) (kind host : Text) (port : Int)
    (timestamp : Time) (nonce : Text) : Except EndpointUpdateError EndpointUpdate :=
  if kind ∉ validKinds then .error (.invalidKind kind)
  else if host = [] then .error .missingHost
  else if ¬ (0 < port ∧ port ≤ 65535) then .error (.invalidPort port)
  else
    let deviceId := env.computeDeviceId (env.ed25519.publicKey key)
    let unsigned : EndpointUpdate := ⟨deviceId, kind, host, port, .finite timestamp, nonce, []⟩
    match unsigned.payload env with
    | none => .error .oversizedField
    | some payload =>
        .ok { unsigned with signature := Base64.encode (env.ed25519.sign key payload) }

def maxAgeSeconds : Time := 300

def Stamp.stale (now : Time) : Stamp → Bool
  | .finite t => decide (maxAgeSeconds < ((now - t).natAbs : Int))
  | .nan => false
  | .posInf => true
  | .negInf => true

/-- The verdict and the cache afterwards; `now` and `later` are the two readings of the clock. -/
def verifyEndpointUpdate (u : EndpointUpdate) (publicKey : Bytes) (cache : Dict Text Time)
    (now later : Time) : Bool × Dict Text Time :=
  match u.payload env with
  | none => (false, cache)
  | some payload =>
      if ¬ verifyRaw env publicKey u.signature payload then (false, cache)
      else if u.timestamp.stale now then (false, cache)
      else checkAndAdd cache later u.nonce

structure Verifier where
  cache : Dict Text Time
  clock : Time
  accepted : List (EndpointUpdate × Time)

structure VerifyCall where
  update : EndpointUpdate
  publicKey : Bytes
  now : Time
  later : Time

namespace Verifier

def start (clock : Time) : Verifier := ⟨Dict.empty, clock, []⟩

def verdict (env : GroupEnv) (s : Verifier) (call : VerifyCall) : Bool × Dict Text Time :=
  verifyEndpointUpdate env call.update call.publicKey s.cache call.now call.later

def step (env : GroupEnv) (s : Verifier) (call : VerifyCall) : Verifier where
  cache := (s.verdict env call).2
  clock := call.later
  accepted := if (s.verdict env call).1 then s.accepted ++ [(call.update.unsigned, call.later)]
    else s.accepted

def Nondecreasing (s : Verifier) (call : VerifyCall) : Prop :=
  s.clock ≤ call.now ∧ call.now ≤ call.later

/-- The update is signed by the key, young, and its nonce is not remembered. -/
structure Acceptable (env : GroupEnv) (s : Verifier) (call : VerifyCall) : Prop where
  signed : ∃ payload, call.update.payload env = some payload ∧
    verifyRaw env call.publicKey call.update.signature payload = true
  young : call.update.timestamp.stale call.now = false
  unseen : ∀ entry, s.cache.get call.update.nonce = some entry → nonceTtl < call.later - entry

def NotAhead (env : GroupEnv) (slack : Time) (s : Verifier) (call : VerifyCall) : Prop :=
  s.Acceptable env call → call.later ≤ call.now + slack ∧
    ∃ t, call.update.timestamp = .finite t ∧ t + slack ≤ call.later

structure Guarded (slack : Time) (s : Verifier) : Prop where
  stamped : ∀ u stored, (u, stored) ∈ s.accepted →
    ∃ t, u.timestamp = .finite t ∧ t + slack ≤ stored
  remembered : ∀ u stored, (u, stored) ∈ s.accepted →
    (∃ entry, s.cache.get u.nonce = some entry ∧ stored ≤ entry) ∨ nonceTtl < s.clock - stored
  once : (s.accepted.map Prod.fst).Nodup

end Verifier

open Verifier

section Cache
variable {cache : Dict Text Time} {now entry : Time} {nonce other : Text}

theorem unexpired_kept (found : cache.get other = some entry) (live : ¬ nonceTtl < now - entry) :
    Dict.get (cache.delete (fun e => decide (nonceTtl < now - e.2))) other = some entry :=
  (Dict.get_delete_iff _ _ _ _).mpr ⟨found, decide_eq_false live⟩

theorem check_and_add_fresh_iff : (checkAndAdd cache now nonce).1 = true ↔
    ∀ entry, cache.get nonce = some entry → nonceTtl < now - entry := by
  constructor
  · intro fresh _ found
    by_contra live
    simp [checkAndAdd, unexpired_kept found live] at fresh
  · intro expired
    unfold checkAndAdd
    cases kept : Dict.get (cache.delete (fun e => decide (nonceTtl < now - e.2))) nonce with
    | none => simp [kept, ↓reduceIte]
    | some entry =>
      obtain ⟨found, live⟩ := (Dict.get_delete_iff _ _ _ _).mp kept
      exact absurd (expired entry found) (of_decide_eq_false live)

theorem check_and_add_keeps (found : cache.get other = some entry)
    (live : ¬ nonceTtl < now - entry) : (checkAndAdd cache now nonce).2.get other = some entry := by
  have kept := unexpired_kept found live
  unfold checkAndAdd
  dsimp only
  split
  · exact kept
  · next absent =>
    rw [Dict.get_set]
    split
    · next here =>
      subst here
      rw [kept] at absent
      exact absurd rfl absent
    · exact kept

theorem check_and_add_stores (fresh : (checkAndAdd cache now nonce).1 = true) :
    (checkAndAdd cache now nonce).2.get nonce = some now := by
  unfold checkAndAdd at fresh ⊢
  dsimp only at fresh ⊢
  split
  · next present => simp [present] at fresh
  · simp

end Cache

theorem verdict_cases (env : GroupEnv) (s : Verifier) (call : VerifyCall) :
    s.verdict env call = (false, s.cache) ∨
      s.verdict env call = checkAndAdd s.cache call.later call.update.nonce ∧
        ((s.verdict env call).1 = true → s.Acceptable env call) := by
  unfold verdict verifyEndpointUpdate
  split
  · exact .inl rfl
  · next payload packed =>
    split
    · exact .inl rfl
    · next signed =>
      split
      · exact .inl rfl
      · next fresh =>
        refine .inr ⟨rfl, fun accepted => ?_⟩
        exact ⟨⟨payload, packed, of_not_not signed⟩, Bool.eq_false_iff.mpr fresh,
          check_and_add_fresh_iff.mp accepted⟩

theorem accepted_acceptable {env : GroupEnv} {s : Verifier} {call : VerifyCall}
    (accepted : (s.verdict env call).1 = true) : s.Acceptable env call := by
  rcases verdict_cases env s call with refused | ⟨_, acceptable⟩
  · rw [refused] at accepted
    cases accepted
  · exact acceptable accepted

theorem window_covered {t slack stored now later : Int} (stamped : t + slack ≤ stored)
    (within : later ≤ now + slack) (fresh : Stamp.stale now (.finite t) = false) :
    ¬ nonceTtl < later - stored := by
  have young : ¬ (300 : Int) < (now - t).natAbs := of_decide_eq_false fresh
  show ¬ (300 : Int) < later - stored
  omega

namespace Verifier
variable {env : GroupEnv} {slack : Time} {s : Verifier} {call : VerifyCall}

theorem remembered_step (clock : s.Nondecreasing call) {nonce : Text} {stored : Time}
    (before : (∃ entry, s.cache.get nonce = some entry ∧ stored ≤ entry) ∨
      nonceTtl < s.clock - stored) :
    (∃ entry, (s.step env call).cache.get nonce = some entry ∧ stored ≤ entry) ∨
      nonceTtl < (s.step env call).clock - stored := by
  obtain ⟨reading, later⟩ := clock
  rcases before with ⟨entry, found, recent⟩ | past
  · rcases verdict_cases env s call with refused | ⟨decided, _⟩
    · exact .inl ⟨entry, by simp only [step, refused, found], recent⟩
    · by_cases expired : nonceTtl < call.later - entry
      · exact .inr (lt_of_lt_of_le expired (Int.sub_le_sub_left recent _))
      · exact .inl ⟨entry, by simp only [step, decided, check_and_add_keeps found expired], recent⟩
  · exact .inr (lt_of_lt_of_le past (Int.sub_le_sub_right (le_trans reading later) _))

theorem not_again (inv : Guarded slack s) (clock : s.Nondecreasing call)
    (condition : s.NotAhead env slack call) (accepted : (s.verdict env call).1 = true)
    {stored : Time} : (call.update.unsigned, stored) ∉ s.accepted := by
  intro member
  obtain ⟨_, young, unseen⟩ := accepted_acceptable accepted
  obtain ⟨within, _⟩ := condition (accepted_acceptable accepted)
  obtain ⟨t, stamp, early⟩ := inv.stamped _ _ member
  have stamped : call.update.timestamp = .finite t := stamp
  rw [stamped] at young
  have open_ : ¬ nonceTtl < call.later - stored := window_covered early within young
  rcases inv.remembered _ _ member with ⟨entry, found, recent⟩ | past
  · exact open_ (lt_of_lt_of_le (unseen entry found) (Int.sub_le_sub_left recent _))
  · exact open_ (lt_of_lt_of_le past (Int.sub_le_sub_right (le_trans clock.1 clock.2) _))

theorem guarded_step (inv : Guarded slack s) (clock : s.Nondecreasing call)
    (condition : s.NotAhead env slack call) : Guarded slack (s.step env call) := by
  cases accepted : (s.verdict env call).1 with
  | false =>
    have same : (s.step env call).accepted = s.accepted := by simp [step, accepted]
    refine ⟨?_, ?_, ?_⟩
    · rw [same]
      exact inv.stamped
    · intro u stored member
      rw [same] at member
      exact remembered_step clock (inv.remembered u stored member)
    · rw [same]
      exact inv.once
  | true =>
    have grown : (s.step env call).accepted =
        s.accepted ++ [(call.update.unsigned, call.later)] := by simp [step, accepted]
    obtain ⟨_, t, stamp, early⟩ := condition (accepted_acceptable accepted)
    refine ⟨?_, ?_, ?_⟩
    · intro u stored member
      rw [grown, mem_append, mem_singleton] at member
      rcases member with old | new
      · exact inv.stamped u stored old
      · cases new
        exact ⟨t, stamp, early⟩
    · intro u stored member
      rw [grown, mem_append, mem_singleton] at member
      rcases member with old | new
      · exact remembered_step clock (inv.remembered u stored old)
      · cases new
        rcases verdict_cases env s call with refused | ⟨decided, _⟩
        · rw [refused] at accepted
          cases accepted
        · rw [decided] at accepted
          have stores := check_and_add_stores accepted
          exact .inl ⟨call.later, by simp only [step, decided]; exact stores, le_refl _⟩
    · rw [grown, map_append, map_singleton, nodup_append]
      refine ⟨inv.once, nodup_singleton _, ?_⟩
      intro _ old _ new same
      obtain ⟨⟨_, _⟩, member, rfl⟩ := mem_map.mp old
      rw [mem_singleton] at new
      subst new
      cases same
      exact not_again inv clock condition accepted member

end Verifier

/-- If the clock does not go back and every accepted update keeps to the slack, none is accepted
twice. -/
theorem updates_accepted_once (env : GroupEnv) (slack clock : Time) (calls : List VerifyCall)
    (forward : Along (step env) Verifier.Nondecreasing (start clock) calls)
    (notAhead : Along (step env) (Verifier.NotAhead env slack) (start clock) calls) :
    ((run (step env) (start clock) calls).accepted.map Prod.fst).Nodup := by
  have start : Verifier.Guarded slack (start clock) := by
    refine ⟨?_, ?_, nodup_nil⟩
    · rintro _ _ ⟨⟩
    · rintro _ _ ⟨⟩
  have guarded := invariant_run (fun s _ (inv : s.Guarded slack) both =>
    guarded_step inv both.1 both.2) start (along_and forward notAhead)
  exact guarded.once

section Sample

def announcer : sample.ed25519.PrivateKey := ⟨List.replicate 32 3, length_replicate⟩

def announced (timestamp : Stamp) : EndpointUpdate :=
  let unsigned : EndpointUpdate := ⟨sample.computeDeviceId announcer.val,
    "direct-v4", "192.0.2.7", 5000, timestamp, "n", []⟩
  { unsigned with
    signature := Base64.encode (announcer.val ++ (unsigned.payload sample).getD []) }

def callAt (timestamp : Stamp) (now : Time) : VerifyCall :=
  ⟨announced timestamp, announcer.val, now, now⟩

theorem honest_update_accepted_once :
    createEndpointUpdate sample announcer "direct-v4" "192.0.2.7" 5000 10
        "n" = .ok (announced (.finite 10)) ∧
      (run (step sample) (start 0) [callAt (.finite 10) 10,
        callAt (.finite 10) 310, callAt (.finite 10) 400]).accepted =
          [((announced (.finite 10)).unsigned, 10)] ∧
      ((run (step sample) (start 0) [callAt (.finite 10) 10,
        callAt (.finite 10) 310, callAt (.finite 10) 400]).accepted.map Prod.fst).Nodup := by
  refine ⟨by decide +kernel, by decide +kernel, updates_accepted_once sample 0 0 _ ?_ ?_⟩
  · exact ⟨by constructor <;> decide, by constructor <;> decide, by constructor <;> decide, trivial⟩
  · refine ⟨fun _ => ⟨by decide, 10, rfl, by decide⟩, fun _ => ⟨by decide, 10, rfl, by decide⟩,
      fun _ => ⟨by decide, 10, rfl, by decide⟩, trivial⟩

theorem update_accepted_twice : ¬ ((run (step sample) (start 0)
        [callAt (.finite 300) 0, callAt (.finite 300) 600]).accepted.map Prod.fst).Nodup ∧
      ¬ ((run (step sample) (start 0)
        [callAt .nan 0, callAt .nan 600]).accepted.map Prod.fst).Nodup := by
  constructor <;> decide +kernel

end Sample
end Peerc.Connectivity
