import Peerc.Handshake.Honest
import Peerc.Handshake.Sessions

/-!
Any number of honest devices on a network that delivers what it likes. The network holds no
honest private key: what verifies under an honest key is a text that key has signed.
-/
namespace Peerc.Handshake
open List Trust Runs Suite
variable {S : Suite}

abbrev Net (S : Suite) := List (Device S)

namespace Net

def step (net : Net S) (move : Nat × Event S) : Net S :=
  List.modify net move.1 (fun d => d.step move.2)

def start (parties : List (DeviceKeypair S × Option TrustStore)) : Net S :=
  parties.map (fun p => Device.start p.1 p.2)

end Net

def Event.signature : Event S → Option Text
  | .receive _ (.frame (.response _ signature)) _ => some signature
  | .receive _ (.frame (.finish signature)) _ => some signature
  | _ => none

def Event.draws : Event S → Option (Own S)
  | .connect own => some own
  | .receive _ (.frame (.init _)) c => some c.own
  | _ => none

/-- Whether it cannot be forged that the text was signed, or also by which signature. -/
inductive Strength where
  | existential | strong
  deriving DecidableEq

def Unforged (strength : Strength) (net : Net S) (move : Nat × Event S) : Prop :=
  ∀ signature, move.2.signature = some signature → ∀ raw, Hex.decode signature = some raw →
    ∀ a ∈ net, ∀ text, S.ed25519.verify a.identity.publicKeyBytes raw text = true →
      ∃ b ∈ net, b.identity.publicKeyBytes = a.identity.publicKeyBytes ∧ text ∈ b.signed ∧
        (strength = .strong → raw = b.identity.sign text)

def Session.own : Session S → Option (Own S)
  | .awaitResponse own => some own
  | s => s.talk.map Talk.own

def FreshNonce (net : Net S) (move : Nat × Event S) : Prop :=
  ∀ own, move.2.draws = some own →
    ∀ d ∈ net, ∀ s ∈ d.sessions, ∀ other, s.own = some other → other.nonce ≠ own.nonce

structure View where
  device : Text
  role : Role
  init : Hello
  resp : Hello
  deriving DecidableEq

namespace Net

def view (net : Net S) (p : Nat × Nat) : Option View := do
  let d ← net[p.1]?
  let t ← d.talkAt p.2
  return ⟨d.identity.deviceId, t.role, (d.identity.hellos t).1, (d.identity.hellos t).2⟩

def Honest (net : Net S) (deviceId : Text) : Prop := ∃ a ∈ net, a.identity.deviceId = deviceId

def Completed (net : Net S) (p : Nat × Nat) (role : Role) (peer : Text) : Prop :=
  ∃ d t finish result, net[p.1]? = some d ∧ d.sessions[p.2]? = some (.done t finish result) ∧
    t.role = role ∧ result.peerDeviceId = peer

end Net

structure Agreement (net : Net S) : Prop where
  responders : ∃ partner : Nat × Nat → Nat × Nat,
    (∀ r peer, net.Completed r .responder peer → net.Honest peer →
      ∃ device init resp, net.view r = some ⟨device, .responder, init, resp⟩ ∧
        net.view (partner r) = some ⟨peer, .initiator, init, resp⟩) ∧
    ∀ r r' peer peer', net.Completed r .responder peer → net.Honest peer →
      net.Completed r' .responder peer' → net.Honest peer' → partner r = partner r' → r = r'
  initiators : ∀ r peer, net.Completed r .initiator peer → net.Honest peer →
    ∃ q device init resp, net.view r = some ⟨device, .initiator, init, resp⟩ ∧
      net.view q = some ⟨peer, .responder, init, resp⟩

def Session.verified (id : DeviceKeypair S) : Session S → Option (Hello × Bytes × Text)
  | .draining t _ _ => some (t.peer, id.responderTranscript t, t.responseSignature)
  | .done t finish _ =>
      match t.role with
      | .initiator => some (t.peer, id.responderTranscript t, t.responseSignature)
      | .responder => some (t.peer, id.initiatorTranscript t, finish)
  | _ => none

def Device.ownAt (d : Device S) (k : Nat) : Option (Own S) := d.sessions[k]?.bind Session.own

def Net.ownAt (net : Net S) (p : Nat × Nat) : Option (Own S) :=
  net[p.1]?.bind (fun d => d.ownAt p.2)

def SignedBy (strength : Strength) (net : Net S) (key text : Bytes) (signature : Text) : Prop :=
  ∃ b ∈ net, b.identity.publicKeyBytes = key ∧ text ∈ b.signed ∧
    (strength = .strong → Hex.decode signature = some (b.identity.sign text))

structure Authentic (strength : Strength) (net : Net S) : Prop where
  sound : ∀ d ∈ net, d.Sound
  logged : ∀ d ∈ net, d.AllLogged
  backed : ∀ d ∈ net, ∀ s ∈ d.sessions, ∀ peer text signature,
    s.verified d.identity = some (peer, text, signature) →
      ∀ a ∈ net, Hex.decode peer.publicKey = some a.identity.publicKeyBytes →
        SignedBy strength net a.identity.publicKeyBytes text signature
  distinct : ∀ p q own other, net.ownAt p = some own → net.ownAt q = some other →
    own.nonce = other.nonce → p = q

variable {strength : Strength}

theorem get_step (net : Net S) (i : Nat) (e : Event S) (j : Nat) :
    (net.step (i, e))[j]? = if j = i then net[j]?.map (fun d => d.step e) else net[j]? := by
  unfold Net.step
  rw [getElem?_modify]
  by_cases same : i = j
  · subst same
    simp
  · have apart : ¬ j = i := fun back => same back.symm
    cases net[j]? with
    | none => simp
    | some => simp [same, apart]

variable {net : Net S} {i : Nat} {e : Event S}

theorem mem_step {d' : Device S} (member : d' ∈ net.step (i, e)) :
    d' ∈ net ∨ ∃ d, net[i]? = some d ∧ d' = d.step e := by
  obtain ⟨_, found⟩ := getElem?_of_mem member
  rw [get_step] at found
  split at found
  · rename_i same
    subst same
    obtain ⟨d, old, rfl⟩ := Option.map_eq_some_iff.mp found
    exact .inr ⟨d, old, rfl⟩
  · exact .inl (mem_of_getElem? found)

variable {d : Device S}

theorem step_of_mem (member : d ∈ net) (i : Nat) (e : Event S) :
    d ∈ net.step (i, e) ∨ d.step e ∈ net.step (i, e) := by
  obtain ⟨j, found⟩ := getElem?_of_mem member
  by_cases same : j = i
  · right
    apply mem_of_getElem? (i := j)
    rw [get_step, if_pos same, found]
    rfl
  · left
    apply mem_of_getElem? (i := j)
    rw [get_step, if_neg same]
    exact found

variable {a : Device S}

theorem identity_before (member : a ∈ net.step (i, e)) : ∃ b ∈ net, b.identity = a.identity := by
  rcases mem_step member with old | ⟨b, found, rfl⟩
  · exact ⟨a, old, rfl⟩
  · exact ⟨b, mem_of_getElem? found, (step_identity b e).symm⟩

variable {text : Bytes} {signature : Text}

theorem signed_by_step {key : Bytes}
    (signed : SignedBy strength net key text signature) (i : Nat) (e : Event S) :
    SignedBy strength (net.step (i, e)) key text signature := by
  obtain ⟨b, member, holds, inside, made⟩ := signed
  rcases step_of_mem member i e with same | stepped
  · exact ⟨b, same, holds, inside, made⟩
  · refine ⟨b.step e, stepped, ?_, signed_grows b e inside, ?_⟩
    · rw [step_identity]
      exact holds
    · rw [step_identity]
      exact made

variable {t : Talk S} {s : Session S}

theorem own_of_talk (said : s.talk = some t) : s.own = some t.own := by
  cases s with
  | awaitResponse | awaitInit => cases said
  | draining | awaitFinish | done =>
    cases said
    rfl
  | failed =>
    simp only [Session.talk] at said
    simp [Session.own, Session.talk, said]

variable {k : Nat} {own : Own S} {p : Nat × Nat}

theorem own_set {ss : List (Session S)} {j : Nat} {new : Session S}
    (has : (ss.set j new)[k]?.bind Session.own = some own) :
    ss[k]?.bind Session.own = some own ∨ k = j ∧ new.own = some own := by
  by_cases same : j = k
  · subst same
    by_cases bound : j < ss.length
    · rw [getElem?_set_self bound] at has
      exact .inr ⟨rfl, has⟩
    · rw [getElem?_eq_none (by simpa using bound)] at has
      cases has
  · rw [getElem?_set_ne same] at has
    exact .inl has

theorem own_rewritten {ss : List (Session S)} {j : Nat} {old new : Session S}
    (found : ss[j]? = some old) (keeps : new.own = some own → old.own = some own)
    (has : (ss.set j new)[k]?.bind Session.own = some own) :
    ss[k]?.bind Session.own = some own := by
  rcases own_set has with before | ⟨rfl, now⟩
  · exact before
  · rw [found]
    exact keeps now

def Device.place (d : Device S) : Event S → Option Nat
  | .connect _ => some d.sessions.length
  | .receive k _ _ => some k
  | _ => none

theorem own_step (has : (d.step e).ownAt k = some own) :
    d.ownAt k = some own ∨ e.draws = some own ∧ d.place e = some k := by
  unfold Device.ownAt at has ⊢
  revert has
  refine step_cases d e fun sessions store signed outcome has => ?_
  cases outcome with
  | idle | operated | signedOther => exact .inl has
  | connected =>
    rcases Nat.lt_trichotomy k d.sessions.length with before | here | after
    · rw [getElem?_append_left before] at has
      exact .inl has
    · subst here
      rw [getElem?_concat_length] at has
      exact .inr ⟨has, rfl⟩
    · rw [getElem?_eq_none (by simp; omega)] at has
      cases has
  | accepted =>
    rcases Nat.lt_trichotomy k d.sessions.length with before | here | after
    · rw [getElem?_append_left before] at has
      exact .inl has
    · subst here
      rw [getElem?_concat_length] at has
      cases has
    · rw [getElem?_eq_none (by simp; omega)] at has
      cases has
  | @failed _ j s found live error =>
    refine .inl (own_rewritten found ?_ has)
    intro kept
    simp only [Session.own, Session.talk, Option.map_eq_some_iff] at kept
    obtain ⟨_, said, rfl⟩ := kept
    exact own_of_talk said
  | answered _ _ _ talk =>
    subst talk
    rcases own_set has with before | ⟨rfl, drawn⟩
    · exact .inl before
    · exact .inr ⟨drawn, rfl⟩
  | verified found _ _ talk =>
    subst talk
    refine .inl (own_rewritten found ?_ has)
    exact id
  | returned found concludes | finished found _ _ concludes =>
    refine .inl (own_rewritten found ?_ has)
    rw [own_of_talk (concludes_talk concludes)]
    exact id

theorem net_own_step (has : (net.step (i, e)).ownAt p = some own) :
    net.ownAt p = some own ∨
      e.draws = some own ∧ p.1 = i ∧ ∃ d, net[i]? = some d ∧ d.place e = some p.2 := by
  unfold Net.ownAt at has ⊢
  rw [get_step] at has
  split at has
  · rename_i here
    rw [here] at has ⊢
    cases found : net[i]? with
    | none => simp [found] at has
    | some d =>
      rw [found] at has
      rcases own_step (show (d.step e).ownAt p.2 = some own from has) with before | ⟨drawn, place⟩
      · exact .inl before
      · exact .inr ⟨drawn, rfl, d, rfl, place⟩
  · exact .inl has

theorem distinct_step
    (distinct : ∀ p q own other, net.ownAt p = some own → net.ownAt q = some other →
      own.nonce = other.nonce → p = q)
    (fresh : FreshNonce net (i, e)) (p q : Nat × Nat) (own other : Own S)
    (first : (net.step (i, e)).ownAt p = some own)
    (second : (net.step (i, e)).ownAt q = some other) (same : own.nonce = other.nonce) : p = q := by
  have unlike : ∀ p drawn old, e.draws = some drawn → net.ownAt p = some old →
      old.nonce ≠ drawn.nonce := by
    intro _ drawn old draws has
    unfold Net.ownAt Device.ownAt at has
    obtain ⟨d, found, has⟩ := Option.bind_eq_some_iff.mp has
    obtain ⟨s, here, has⟩ := Option.bind_eq_some_iff.mp has
    exact fresh drawn draws d (mem_of_getElem? found) s (mem_of_getElem? here) old has
  rcases net_own_step first with old | ⟨drawn, at1, d, found, place⟩
  · rcases net_own_step second with old' | ⟨drawn', _⟩
    · exact distinct p q own other old old' same
    · exact absurd same (unlike p other own drawn' old)
  · rcases net_own_step second with old' | ⟨_, at1', d', found', place'⟩
    · exact absurd same.symm (unlike q own other drawn old')
    · cases found.symm.trans found'
      exact Prod.ext (at1.trans at1'.symm) (Option.some.inj (place.symm.trans place'))

theorem accepted_was_signed {move : Nat × Event S}
    (unforged : Unforged strength net move) {peer : Hello} {key : Bytes}
    (carried : move.2.signature = some signature) (proven : ProvenKey S peer key)
    (verifies : Verifies S key signature text) (member : a ∈ net)
    (named : Hex.decode peer.publicKey = some a.identity.publicKeyBytes) :
    SignedBy strength net a.identity.publicKeyBytes text signature := by
  obtain ⟨raw, decoded, valid⟩ := verifies
  cases proven.1.symm.trans named
  obtain ⟨b, inside, sameKey, signed, made⟩ :=
    unforged signature carried raw decoded a member text valid
  exact ⟨b, inside, sameKey, signed, fun strong => decoded.trans (by rw [made strong])⟩

variable {finish : Text}

theorem concludes_verified {id : DeviceKeypair S}
    {decision : TrustDecision} (concludes : Concludes id t finish decision s)
    {v : Hello × Bytes × Text} (verified : s.verified id = some v) :
    t.role = .initiator ∧ v = (t.peer, id.responderTranscript t, t.responseSignature) ∨
      t.role = .responder ∧ v = (t.peer, id.initiatorTranscript t, finish) := by
  cases concludes with
  | failed => cases verified
  | done =>
    cases role : t.role with
    | initiator =>
      simp only [Session.verified, role, Option.some.injEq] at verified
      exact .inl ⟨rfl, verified.symm⟩
    | responder =>
      simp only [Session.verified, role, Option.some.injEq] at verified
      exact .inr ⟨rfl, verified.symm⟩

theorem backed_step (inv : Authentic strength net)
    (unforged : Unforged strength net (i, e)) (found : net[i]? = some d)
    (member : s ∈ (d.step e).sessions) {peer : Hello}
    (verified : s.verified d.identity = some (peer, text, signature)) (honest : a ∈ net)
    (named : Hex.decode peer.publicKey = some a.identity.publicKeyBytes) :
    SignedBy strength net a.identity.publicKeyBytes text signature := by
  have inside : d ∈ net := mem_of_getElem? found
  have before : ∀ s ∈ d.sessions, s.verified d.identity = some (peer, text, signature) →
      SignedBy strength net a.identity.publicKeyBytes text signature :=
    fun s old proved => inv.backed d inside s old peer text signature proved a honest named
  revert member
  refine step_cases d e fun sessions store signed outcome member => ?_
  cases outcome with
  | idle | operated | signedOther => exact before s member verified
  | connected | accepted => exact all_append before (by nofun) s member verified
  | failed | answered => exact all_set before (by nofun) s member verified
  | verified _ proven _ talk signed =>
    refine all_set before ?_ s member verified
    subst talk
    intro proved
    cases proved
    exact accepted_was_signed unforged rfl proven signed honest named
  | returned found concludes =>
    refine all_set before ?_ s member verified
    intro proved
    rcases concludes_verified concludes proved with ⟨_, same⟩ | ⟨role, _⟩
    · cases same
      exact before _ (mem_of_getElem? found) rfl
    · have sound := sound_at (inv.sound d inside) found
      rw [sound.role] at role
      cases role
  | finished found signed _ concludes =>
    refine all_set before ?_ s member verified
    intro proved
    obtain ⟨sound, proven, _⟩ := sound_at (inv.sound d inside) found
    rcases concludes_verified concludes proved with ⟨role, _⟩ | ⟨_, same⟩
    · rw [sound] at role
      cases role
    · cases same
      exact accepted_was_signed unforged rfl proven signed honest named

theorem authentic_step (net : Net S) (move : Nat × Event S) (inv : Authentic strength net)
    (admitted : Unforged strength net move ∧ FreshNonce net move) :
    Authentic strength (net.step move) := by
  obtain ⟨_, e⟩ := move
  constructor
  · intro d member
    rcases mem_step member with old | ⟨b, found, rfl⟩
    · exact inv.sound d old
    · exact sound_step (inv.sound b (mem_of_getElem? found)) e
  · intro d member
    rcases mem_step member with old | ⟨b, found, rfl⟩
    · exact inv.logged d old
    · exact logged_step (inv.logged b (mem_of_getElem? found)) e
  · intro d member s inside peer text signature verified _ honest named
    obtain ⟨a₀, honest₀, same⟩ := identity_before honest
    rw [← same] at named ⊢
    apply signed_by_step
    rcases mem_step member with old | ⟨b, found, rfl⟩
    · exact inv.backed d old s inside peer text signature verified a₀ honest₀ named
    · rw [step_identity] at verified
      exact backed_step inv admitted.1 found inside verified honest₀ named
  · exact distinct_step inv.distinct admitted.2

theorem authentic_start (parties : List (DeviceKeypair S × Option TrustStore)) :
    Authentic strength (Net.start parties) := by
  have fresh : ∀ d ∈ Net.start parties, d.sessions = [] ∧ d.signed = [] := by
    intro _ member
    obtain ⟨_, _, rfl⟩ := mem_map.mp member
    exact ⟨rfl, rfl⟩
  constructor
  · intro d member _ inside
    rw [(fresh d member).1] at inside
    cases inside
  · intro d member _ inside
    rw [(fresh d member).2] at inside
    cases inside
  · intro d member _ inside
    rw [(fresh d member).1] at inside
    cases inside
  · intro _ _ _ _ has
    unfold Net.ownAt Device.ownAt at has
    obtain ⟨d, found, has⟩ := Option.bind_eq_some_iff.mp has
    rw [(fresh d (mem_of_getElem? found)).1] at has
    cases has

theorem view_of_talk (found : net[i]? = some d) (said : d.talkAt k = some t) :
    net.view (i, k) = some ⟨d.identity.deviceId, t.role, (d.identity.hellos t).1,
      (d.identity.hellos t).2⟩ := by
  simp [Net.view, found, said]

variable {result : HandshakeResult}

theorem talk_of_done (found : d.sessions[k]? = some (.done t finish result)) :
    d.talkAt k = some t := by
  simp [Device.talkAt, found, Session.talk]

theorem key_of_done (sound : d.Sound) (collisionFree : Function.Injective S.sha256)
    (found : d.sessions[k]? = some (.done t finish result)) {a : DeviceKeypair S}
    (named : a.deviceId = result.peerDeviceId) :
    Hex.decode t.peer.publicKey = some a.publicKeyBytes := by
  obtain ⟨sides, _, _, _, rfl⟩ := sound_at sound found
  have proven : ∃ key, ProvenKey S t.peer key := by
    rcases sides with initiator | responder
    · obtain ⟨key, proven, _⟩ := initiator.verified
      exact ⟨key, proven⟩
    · obtain ⟨key, proven, _⟩ := responder.verified
      exact ⟨key, proven⟩
  obtain ⟨key, decoded, digest⟩ := proven
  have same : key = a.publicKeyBytes := collisionFree (digest.trans named.symm)
  rw [decoded, same]

def DeviceKeypair.awaited (id : DeviceKeypair S) (t : Talk S) : Bytes :=
  match t.role with
  | .initiator => id.responderTranscript t
  | .responder => id.initiatorTranscript t

open DeviceKeypair

variable {r : Nat × Nat} {peer : Text}

section Inv
variable (inv : Authentic strength net)
include inv

theorem peer_has_signed (collisionFree : Function.Injective S.sha256) {role : Role}
    (completed : net.Completed r role peer) (honest : net.Honest peer) :
    ∃ (d : Device S) (t : Talk S) (i : Nat) (b : Device S), t.role = role ∧
      net.view r = some ⟨d.identity.deviceId, role, (d.identity.hellos t).1,
        (d.identity.hellos t).2⟩ ∧
      net[i]? = some b ∧ b.AllLogged ∧ b.identity.deviceId = peer ∧
      d.identity.awaited t ∈ b.signed := by
  obtain ⟨d, t, finish, result, found, done, rfl, rfl⟩ := completed
  obtain ⟨a, member, named⟩ := honest
  have inside : d ∈ net := mem_of_getElem? found
  have verified : ∃ signature, (Session.done t finish result).verified d.identity =
      some (t.peer, d.identity.awaited t, signature) := by
    cases role : t.role with
    | initiator | responder =>
      exact ⟨_, by simp [Session.verified, awaited, role]; rfl⟩
  obtain ⟨_, verified⟩ := verified
  obtain ⟨b, bMember, sameKey, signed, _⟩ := inv.backed d inside _ (mem_of_getElem? done) _ _ _
    verified a member (key_of_done (inv.sound d inside) collisionFree done named)
  obtain ⟨i, bFound⟩ := getElem?_of_mem bMember
  have sameId : b.identity.deviceId = result.peerDeviceId := by
    rw [← named, deviceId, sameKey]
    rfl
  exact ⟨d, t, i, b, rfl, view_of_talk found (talk_of_done done), bFound, inv.logged b bMember,
    sameId, signed⟩

theorem responder_has_partner (collisionFree : Function.Injective S.sha256)
    (completed : net.Completed r .responder peer) (honest : net.Honest peer) :
    ∃ q device init resp, net.view r = some ⟨device, .responder, init, resp⟩ ∧
      net.view q = some ⟨peer, .initiator, init, resp⟩ := by
  obtain ⟨d, _, i, _, role, own, found, logged, rfl, signed⟩ :=
    peer_has_signed inv collisionFree completed honest
  rw [awaited, role] at signed
  obtain ⟨k, _, said, role', hellos, _⟩ := initiator_signed logged signed
  refine ⟨(i, k), d.identity.deviceId, _, _, own, ?_⟩
  rw [view_of_talk found said, hellos, role']

theorem initiator_has_partner (collisionFree : Function.Injective S.sha256)
    (completed : net.Completed r .initiator peer) (honest : net.Honest peer) :
    ∃ q device init resp, net.view r = some ⟨device, .initiator, init, resp⟩ ∧
      net.view q = some ⟨peer, .responder, init, resp⟩ := by
  obtain ⟨d, _, i, _, role, own, found, logged, rfl, signed⟩ :=
    peer_has_signed inv collisionFree completed honest
  rw [awaited, role] at signed
  obtain ⟨k, _, said, role', hellos⟩ := responder_signed logged signed
  refine ⟨(i, k), d.identity.deviceId, _, _, own, ?_⟩
  rw [view_of_talk found said, hellos, role']

theorem responder_view_unique {r' : Nat × Nat} {device device' : Text} {init init' resp : Hello}
    (first : net.view r = some ⟨device, .responder, init, resp⟩)
    (second : net.view r' = some ⟨device', .responder, init', resp⟩) : r = r' := by
  have drawn : ∀ {p : Nat × Nat} {device : Text} {init : Hello},
      net.view p = some ⟨device, .responder, init, resp⟩ →
      ∃ own, net.ownAt p = some own ∧ own.nonce = resp.nonce := by
    intro _ _ _ viewed
    simp only [Net.view, bind, Option.bind_eq_some_iff, pure, Option.some.injEq, View.mk.injEq]
      at viewed
    obtain ⟨_, found, t, said, _, role, _, rfl⟩ := viewed
    obtain ⟨_, here, said⟩ := Option.bind_eq_some_iff.mp said
    refine ⟨t.own, ?_, ?_⟩
    · simp [Net.ownAt, Device.ownAt, found, here, own_of_talk said]
    · simp [hellos, role, hello]
  obtain ⟨own, has, nonce⟩ := drawn first
  obtain ⟨own', has', nonce'⟩ := drawn second
  exact inv.distinct r r' own own' has has' (nonce.trans nonce'.symm)

theorem agreement_of_authentic (collisionFree : Function.Injective S.sha256) : Agreement net := by
  have each : ∀ r, ∃ q, ∀ peer, net.Completed r .responder peer → net.Honest peer →
      ∃ device init resp, net.view r = some ⟨device, .responder, init, resp⟩ ∧
        net.view q = some ⟨peer, .initiator, init, resp⟩ := by
    intro r
    by_cases some : ∃ peer, net.Completed r .responder peer ∧ net.Honest peer
    · obtain ⟨_, completed, honest⟩ := some
      obtain ⟨q, views⟩ := responder_has_partner inv collisionFree completed honest
      refine ⟨q, fun peer' completed' _ => ?_⟩
      -- a session returns one result
      obtain ⟨_, _, _, _, found, done, _, rfl⟩ := completed
      obtain ⟨_, _, _, _, found', done', _, rfl⟩ := completed'
      cases found.symm.trans found'
      cases done.symm.trans done'
      exact views
    · exact ⟨r, fun peer completed honest => absurd ⟨peer, completed, honest⟩ some⟩
  obtain ⟨partner, spec⟩ := Classical.skolem.mp each
  constructor
  · refine ⟨partner, spec, ?_⟩
    intro r r' peer peer' completed honest completed' honest' same
    obtain ⟨_, _, _, own, theirs⟩ := spec r peer completed honest
    obtain ⟨_, _, _, own', theirs'⟩ := spec r' peer' completed' honest'
    rw [same] at theirs
    cases theirs.symm.trans theirs'
    exact responder_view_unique inv own own'
  · intro _ _ completed honest
    exact initiator_has_partner inv collisionFree completed honest

end Inv

/-- Whoever completes with an honest device agrees with a session of it. -/
theorem handshake_agreement (S : Suite) (collisionFree : Function.Injective S.sha256)
    (parties : List (DeviceKeypair S × Option TrustStore)) (moves : List (Nat × Event S))
    (admitted : Along Net.step
      (fun net move => Unforged .existential net move ∧ FreshNonce net move)
      (Net.start parties) moves) :
    Agreement (run Net.step (Net.start parties) moves) :=
  agreement_of_authentic (invariant_run authentic_step (authentic_start parties) admitted)
    collisionFree

section Sample
variable {digest : Bytes → Bytes}

theorem sample_unforged {net : Net (sample digest)} {move : Nat × Event (sample digest)}
    (made : ∀ signature, move.2.signature = some signature → ∃ b ∈ net, ∃ text ∈ b.signed,
      Hex.decode signature = some (b.identity.sign text)) : Unforged strength net move := by
  intro signature carried raw decoded a _ text valid
  obtain ⟨b, there, _, logged, spells⟩ := made signature carried
  have shape : raw = a.identity.publicKeyBytes ++ text := by
    have both :
        a.identity.publicKeyBytes.length = 32 ∧ raw = a.identity.publicKeyBytes ++ text := by
      simpa [sample, SignatureScheme.ideal] using valid
    exact both.2
  have honest := Option.some.inj (decoded.symm.trans spells)
  have lengths := b.identity.privateKey.property.trans a.identity.privateKey.property.symm
  obtain ⟨sameKey, rfl⟩ := append_inj (honest.symm.trans shape) lengths
  exact ⟨b, there, sameKey, logged, fun _ => honest⟩

def Checked (net : Net (sample digest)) (move : Nat × Event (sample digest)) : Prop :=
  (∀ signature ∈ move.2.signature, ∃ b ∈ net, ∃ text ∈ b.signed,
    Hex.decode signature = some (b.identity.sign text)) ∧
  ∀ own ∈ move.2.draws, ∀ d ∈ net, ∀ s ∈ d.sessions, ∀ other ∈ s.own, other.nonce ≠ own.nonce

instance (net : Net (sample digest)) (move : Nat × Event (sample digest)) :
    Decidable (Checked net move) := inferInstanceAs (Decidable (_ ∧ _))

theorem admitted_of_checked {net : Net (sample digest)}
    {moves : List (Nat × Event (sample digest))} (checked : Along Net.step Checked net moves) :
    Along Net.step (fun net move => Unforged strength net move ∧ FreshNonce net move) net moves :=
  along_mono (fun _ _ checked => ⟨sample_unforged checked.1, checked.2⟩) checked

def exchangeMoves (digest : Bytes → Bytes) (finish : Text) :
    List (Nat × Event (sample digest)) :=
  [(0, .connect (annOwn digest)), (1, .accept),
    (1, .receive 0 (.frame (.init ((ann digest).hello (annOwn digest))))
      (.sample 1 (bobOwn digest))),
    (0, .receive 0 (.frame (.response (annTalk digest).peer (annTalk digest).responseSignature))
      (.sample 2 (annOwn digest))),
    (0, .drained 0),
    (1, .receive 0 (.frame (.finish finish)) (.sample 3 (bobOwn digest)))]

def exchangeStart (digest : Bytes → Bytes) :
    List (DeviceKeypair (sample digest) × Option TrustStore) :=
  [(ann digest, none), (bob digest, none)]

def Net.outcome (net : Net S) (p : Nat × Nat) :
    Option (Device S × Talk S × Text × HandshakeResult) := do
  let d ← net[p.1]?
  match ← d.sessions[p.2]? with
  | .done t finish result => some (d, t, finish, result)
  | _ => none

theorem outcome_some {net : Net S} {d : Device S} {t : Talk S} {finish : Text}
    {result : HandshakeResult} (ended : net.outcome p = some (d, t, finish, result)) :
    net[p.1]? = some d ∧ d.sessions[p.2]? = some (.done t finish result) := by
  obtain ⟨_, device, rest⟩ := Option.bind_eq_some_iff.mp ended
  obtain ⟨session, found, rest⟩ := Option.bind_eq_some_iff.mp rest
  cases session with
  | done =>
    cases rest
    exact ⟨device, found⟩
  | _ => cases rest

theorem completed_of_outcome {net : Net S} {role : Role} {peer : Text}
    (ended : (net.outcome p).map (fun o => (o.2.1.role, o.2.2.2.peerDeviceId)) =
      some (role, peer)) : net.Completed p role peer := by
  obtain ⟨⟨d, t, finish, result⟩, found, same⟩ := Option.map_eq_some_iff.mp ended
  cases same
  exact ⟨d, t, finish, result, (outcome_some found).1, (outcome_some found).2, rfl, rfl⟩

theorem plain_collision_free : Function.Injective (sample id).sha256 :=
  fun _ _ same => Hex.encode_injective same

def honestNet : Net (sample id) :=
  run Net.step (Net.start (exchangeStart id)) (exchangeMoves id (annFinish id))

theorem honest_moves_agree : honestNet.Completed (1, 0) .responder (ann id).deviceId ∧
      honestNet.Completed (0, 0) .initiator (bob id).deviceId ∧ Agreement honestNet := by
  refine ⟨completed_of_outcome (by decide +kernel), completed_of_outcome (by decide +kernel), ?_⟩
  exact handshake_agreement (sample id) plain_collision_free (exchangeStart id)
    (exchangeMoves id (annFinish id)) (admitted_of_checked (by decide +kernel))

end Sample
end Peerc.Handshake
