import Peerc.Handshake.Steps

/-!
What holds of the sessions of one device in every run, whatever the network delivers.
-/
namespace Peerc.Handshake
open List Trust Runs
variable {S : Suite} (id : DeviceKeypair S)

structure SoundInitiator (t : Talk S) (finish : Text) : Prop where
  role : t.role = .initiator
  verified : ∃ key, ProvenKey S t.peer key ∧
    Verifies S key t.responseSignature (id.responderTranscript t)
  finish_own : finish = Hex.encode (id.sign (id.initiatorTranscript t))

structure SoundResponder (t : Talk S) (finish : Text) : Prop where
  role : t.role = .responder
  response_own : t.responseSignature = Hex.encode (id.sign (id.responderTranscript t))
  verified : ∃ key, ProvenKey S t.peer key ∧ Verifies S key finish (id.initiatorTranscript t)

def Session.Sound : Session S → Prop
  | .awaitFinish t key _ => t.role = .responder ∧ ProvenKey S t.peer key ∧
      t.responseSignature = Hex.encode (id.sign (id.responderTranscript t))
  | .draining t finish _ => SoundInitiator id t finish
  | .done t finish result => (SoundInitiator id t finish ∨ SoundResponder id t finish) ∧
      ∃ decision secret, computeSharedSecret t.own t.peer.ephemeralKey = .ok secret ∧
        result = id.conclude t finish decision secret
  | _ => True

def Device.Sound (d : Device S) : Prop := ∀ s ∈ d.sessions, s.Sound d.identity

variable {d : Device S} {k : Nat} {s : Session S}

theorem sound_at (sound : d.Sound) (found : d.sessions[k]? = some s) : s.Sound d.identity :=
  sound s (mem_of_getElem? found)

variable {ss : List (Session S)} {new : Session S}

theorem all_set {P : Session S → Prop} (all : ∀ s ∈ ss, P s) (holds : P new) :
    ∀ s ∈ ss.set k new, P s := by
  intro s member
  rcases mem_or_eq_of_mem_set member with old | rfl
  · exact all s old
  · exact holds

theorem all_append {P : Session S → Prop} (all : ∀ s ∈ ss, P s) (holds : P new) : ∀ s ∈ ss ++
    [new], P s := by
  intro s member
  rcases mem_append.mp member with old | last
  · exact all s old
  · exact mem_singleton.mp last ▸ holds

variable {t : Talk S}

theorem concludes_sound {id : DeviceKeypair S} {finish : Text}
    {decision : TrustDecision} (concludes : Concludes id t finish decision s)
    (sides : SoundInitiator id t finish ∨ SoundResponder id t finish) : s.Sound id := by
  cases concludes with
  | failed => trivial
  | done secret computed => exact ⟨sides, decision, secret, computed, rfl⟩

theorem sound_step (sound : d.Sound) (e : Event S) : (d.step e).Sound := by
  unfold Device.Sound
  rw [step_identity]
  refine step_cases d e fun sessions store signed outcome => ?_
  cases outcome with
  | idle | operated | signedOther => exact sound
  | connected | accepted => exact all_append sound trivial
  | failed => exact all_set sound trivial
  | answered _ proven _ talk =>
    subst talk
    exact all_set sound ⟨rfl, proven, rfl⟩
  | verified _ proven _ talk signed =>
    subst talk
    exact all_set sound ⟨rfl, ⟨_, proven, signed⟩, rfl⟩
  | returned found concludes =>
    exact all_set sound (concludes_sound concludes (.inl (sound_at sound found)))
  | finished found signed _ concludes =>
    obtain ⟨role, proven, own⟩ := sound_at sound found
    exact all_set sound (concludes_sound concludes (.inr ⟨role, own, _, proven, signed⟩))

theorem start_sound (store : Option TrustStore) : (Device.start id store).Sound := nofun

def Device.talkAt (d : Device S) (k : Nat) : Option (Talk S) :=
  d.sessions[k]?.bind Session.talk

theorem talk_set {j : Nat} {old : Session S}
    (found : ss[j]? = some old) (keeps : ∀ t, old.talk = some t → new.talk = some t)
    (said : ss[k]?.bind Session.talk = some t) : (ss.set j new)[k]?.bind Session.talk = some t := by
  by_cases same : j = k
  · subst same
    rw [found] at said
    rw [found_set found]
    exact keeps t said
  · rw [List.getElem?_set_ne same]
    exact said

theorem talk_append (said : ss[k]?.bind Session.talk = some t) :
    (ss ++ [new])[k]?.bind Session.talk = some t := by
  cases found : ss[k]? with
  | none => simp [found] at said
  | some =>
    rw [found] at said
    rw [found_append found]
    exact said

theorem concludes_talk {id : DeviceKeypair S} {finish : Text}
    {decision : TrustDecision} (concludes : Concludes id t finish decision s) :
    s.talk = some t := by
  cases concludes with
  | failed | done => rfl

theorem talk_step (said : d.talkAt k = some t) (e : Event S) : (d.step e).talkAt k = some t := by
  unfold Device.talkAt at said ⊢
  refine step_cases d e fun sessions store signed outcome => ?_
  cases outcome with
  | idle | operated | signedOther => exact said
  | connected | accepted => exact talk_append said
  | failed found =>
    apply talk_set found _ said
    exact fun _ old => old
  | answered found | verified found => exact talk_set found nofun said
  | returned found concludes | finished found _ _ concludes =>
    exact talk_set found (fun _ old => old ▸ concludes_talk concludes) said

inductive Device.Logged (d : Device S) : Bytes → Prop
  | response {k : Nat} {t : Talk S} (said : d.talkAt k = some t) (role : t.role = .responder) :
      d.Logged (d.identity.responderTranscript t)
  | finish {k : Nat} {t : Talk S} (said : d.talkAt k = some t) (role : t.role = .initiator) :
      d.Logged (d.identity.initiatorTranscript t)
  | other {domain : Text} (member : domain ∈ otherDomains) (payload : Bytes) :
      d.Logged (utf8 domain ++ payload)

def Device.AllLogged (d : Device S) : Prop := ∀ text ∈ d.signed, d.Logged text

variable {text : Bytes}

theorem logged_kept {d' : Device S} (identity : d'.identity = d.identity)
    (talks : ∀ k t, d.talkAt k = some t → d'.talkAt k = some t)
    (logged : d.Logged text) : d'.Logged text := by
  cases logged with
  | response said role =>
    rw [← identity]
    exact .response (talks _ _ said) role
  | finish said role =>
    rw [← identity]
    exact .finish (talks _ _ said) role
  | other member payload => exact .other member payload

theorem talk_written {old : Session S}
    (found : ss[k]? = some old) : (ss.set k new)[k]?.bind Session.talk = new.talk := by
  rw [found_set found]
  rfl

theorem signed_step (d : Device S) (e : Event S) (member : text ∈ (d.step e).signed) :
    text ∈ d.signed ∨ (d.step e).Logged text := by
  have identity := step_identity d e
  have placed : ∀ k t, (d.step e).sessions[k]?.bind Session.talk = some t →
      (d.step e).talkAt k = some t := fun _ _ said => said
  revert placed member
  refine step_cases d e fun sessions store signed outcome member placed => ?_
  cases outcome with
  | idle | connected | accepted | failed | returned | finished | operated => exact .inl member
  | answered found _ _ talk =>
    rcases mem_append.mp member with old | new
    · exact .inl old
    · rw [mem_singleton.mp new, ← identity]
      exact .inr (.response (placed _ _ (talk_written found)) (talk ▸ rfl))
  | verified found _ _ talk =>
    rcases mem_append.mp member with old | new
    · exact .inl old
    · rw [mem_singleton.mp new, ← identity]
      exact .inr (.finish (placed _ _ (talk_written found)) (talk ▸ rfl))
  | signedOther domain payload =>
    rcases mem_append.mp member with old | new
    · exact .inl old
    · rw [mem_singleton.mp new]
      exact .inr (.other domain.property payload)

theorem logged_step (all : d.AllLogged) (e : Event S) : (d.step e).AllLogged := by
  intro text member
  rcases signed_step d e member with old | new
  · exact logged_kept (step_identity d e) (fun _ _ said => talk_step said e) (all text old)
  · exact new

theorem signed_grows (d : Device S) (e : Event S) (member : text ∈ d.signed) :
    text ∈ (d.step e).signed := by
  refine step_cases d e fun sessions store signed outcome => ?_
  cases outcome with
  | answered | verified | signedOther => exact mem_append_left _ member
  | _ => exact member

theorem responder_signed (all : d.AllLogged) {init resp : Hello}
    (member : computeResponderTranscript init resp ∈ d.signed) :
    ∃ k t, d.talkAt k = some t ∧ t.role = .responder ∧ d.identity.hellos t = (init, resp) := by
  have logged := all _ member
  generalize same : computeResponderTranscript init resp = text at logged
  cases logged with
  | response said role =>
    obtain ⟨rfl, rfl⟩ := responder_transcript_injective same
    exact ⟨_, _, said, role, rfl⟩
  | finish => exact absurd same (roles_separate _ _ _ _ _)
  | other other payload => exact absurd same (responder_separate _ _ other payload)

theorem initiator_signed (all : d.AllLogged) {init resp : Hello} {sig : Text}
    (member : computeInitiatorTranscript (computeResponderTranscript init resp) sig ∈ d.signed) :
    ∃ k t, d.talkAt k = some t ∧ t.role = .initiator ∧ d.identity.hellos t = (init, resp) ∧
      t.responseSignature = sig := by
  have logged := all _ member
  generalize same : computeInitiatorTranscript (computeResponderTranscript init resp) sig = text
    at logged
  cases logged with
  | response => exact absurd same.symm (roles_separate _ _ _ _ _)
  | finish said role =>
    obtain ⟨rfl, rfl, rfl⟩ := initiator_transcript_injective same
    exact ⟨_, _, said, role, rfl, rfl⟩
  | other other payload => exact absurd same (initiator_separate _ _ _ other payload)

end Peerc.Handshake
