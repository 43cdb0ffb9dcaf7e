import Peerc.Lib.JsonValues

/-!
The signed transcripts of the handshake. Canonical JSON has no line break, so a transcript
determines the messages and the role it was made for.
-/
namespace Peerc.Handshake
open List

/-- The strings are texts. A sender_name that json.loads gives a lone surrogate is followed in
Escapes, with what it can raise, and not here. -/
structure Hello where
  deviceId : Text
  publicKey : Text
  ephemeralKey : Text
  nonce : Text
  senderName : Text
  deriving DecidableEq

def Hello.json (type : Text) (h : Hello) : Text :=
  Json.object [("device_id", h.deviceId), ("ephemeral_key", h.ephemeralKey),
    ("nonce", h.nonce), ("public_key", h.publicKey),
    ("sender_name", h.senderName), ("type", type)]

def initType : Text := "handshake_init"

def responseType : Text := "handshake_response"

def responderDomain : Text := "peerc-v2-handshake-responder"

def initiatorDomain : Text := "peerc-v2-handshake-initiator"

variable (init resp : Hello)

def computeResponderTranscript : Bytes :=
  utf8 (responderDomain ++ ['\n']) ++ utf8 (init.json initType) ++ utf8 ['\n'] ++
    utf8 (resp.json responseType)

def computeInitiatorTranscript (responderTranscript : Bytes) (responderSignature : Text) : Bytes :=
  utf8 (initiatorDomain ++ ['\n']) ++ responderTranscript ++ utf8 ['\n'] ++ utf8 responderSignature

def finalTranscript (initiatorTranscript : Bytes) (initiatorSignature : Text) : Bytes :=
  initiatorTranscript ++ utf8 ['\n'] ++ utf8 initiatorSignature

/-- The domain tags of everything else a device key signs. -/
def otherDomains : List Text :=
  ["peerc-key-rotation\x00", "peerc-group-join-request\x00", "peerc-group-join-response\x00",
    "peerc-group-leave-request\x00", "peerc-group-leave-response\x00",
    "peerc-group-membership-revoke\x00", "peerc-group-export-request\x00",
    "peerc-group-export-capability\x00", "peerc-group-admin-approval\x00",
    "peerc-group-policy\x00", "peerc-group-membership\x00", "peerc-add-by-link\x00",
    "peerc-endpoint-update\x00", "peerc-security-event\x00"].map String.toList

theorem json_no_newline (type : Text) (h : Hello) : '\n' ∉ h.json type := by
  intro member
  have printable := Json.object_printable _ '\n' member
  exact absurd printable.1 (by decide)

theorem json_injective {type : Text} {g h : Hello} (same : g.json type = h.json type) : g = h := by
  have fields := Json.object_cancel same
  cases g
  cases h
  simp only [List.cons.injEq, Prod.mk.injEq] at fields
  simp [fields]

theorem responder_transcript_text : computeResponderTranscript init resp =
      utf8 (responderDomain ++ '\n' :: (init.json initType ++ '\n' :: resp.json responseType)) := by
  simp [computeResponderTranscript, ← utf8_append]

theorem initiator_transcript_text (sig : Text) :
    computeInitiatorTranscript (computeResponderTranscript init resp) sig =
      utf8 (initiatorDomain ++ '\n' :: (responderDomain ++ '\n' :: (init.json initType ++
        '\n' :: (resp.json responseType ++ '\n' :: sig)))) := by
  simp [computeInitiatorTranscript, responder_transcript_text, ← utf8_append]

theorem line_cancel {a b r s : Text} (first : '\n' ∉ a) (second : '\n' ∉ b)
    (same : a ++ '\n' :: r = b ++ '\n' :: s) : a = b ∧ r = s := by
  induction a generalizing b with
  | nil =>
    cases b with
    | nil => exact ⟨rfl, tail_eq_of_cons_eq same⟩
    | cons =>
      cases same
      exact absurd (mem_cons_self) second
  | cons _ _ ih =>
    cases b with
    | nil =>
      cases same
      exact absurd (mem_cons_self) first
    | cons =>
      obtain ⟨rfl, tails⟩ := List.cons.inj same
      obtain ⟨rfl, rest⟩ := ih (fun inside => first (mem_cons_of_mem _ inside))
        (fun inside => second (mem_cons_of_mem _ inside)) tails
      exact ⟨rfl, rest⟩

theorem responder_transcript_injective {i i' r r' : Hello}
    (same : computeResponderTranscript i r = computeResponderTranscript i' r') :
    i = i' ∧ r = r' := by
  rw [responder_transcript_text, responder_transcript_text] at same
  obtain ⟨_, body⟩ := line_cancel (by decide) (by decide) (utf8_injective same)
  obtain ⟨inits, resps⟩ := line_cancel (json_no_newline _ i) (json_no_newline _ i') body
  exact ⟨json_injective inits, json_injective resps⟩

theorem initiator_transcript_injective {i i' r r' : Hello} {sig sig' : Text}
    (same : computeInitiatorTranscript (computeResponderTranscript i r) sig =
      computeInitiatorTranscript (computeResponderTranscript i' r') sig') :
    i = i' ∧ r = r' ∧ sig = sig' := by
  rw [initiator_transcript_text, initiator_transcript_text] at same
  obtain ⟨_, inner⟩ := line_cancel (by decide) (by decide) (utf8_injective same)
  obtain ⟨_, body⟩ := line_cancel (by decide) (by decide) inner
  obtain ⟨inits, rest⟩ := line_cancel (json_no_newline _ i) (json_no_newline _ i') body
  obtain ⟨resps, sigs⟩ := line_cancel (json_no_newline _ r) (json_no_newline _ r') rest
  exact ⟨json_injective inits, json_injective resps, sigs⟩

theorem roles_separate (i r i' r' : Hello) (sig : Text) : computeResponderTranscript i r ≠
      computeInitiatorTranscript (computeResponderTranscript i' r') sig := by
  intro same
  rw [responder_transcript_text, initiator_transcript_text] at same
  obtain ⟨domains, _⟩ := line_cancel (by decide) (by decide) (utf8_injective same)
  exact absurd domains (by decide)

theorem other_domains_apart : ∀ domain ∈ otherDomains,
    6 < (utf8 domain).length ∧ (utf8 domain)[6]? ≠ (utf8 responderDomain)[6]? ∧
      (utf8 domain)[6]? ≠ (utf8 initiatorDomain)[6]? := by
  decide +kernel

variable {domain : Text}

theorem seventh_byte (long : 6 < (utf8 domain).length) (rest : Bytes) :
    (utf8 domain ++ rest)[6]? = (utf8 domain)[6]? :=
  getElem?_append_left long

theorem responder_separate (i r : Hello) (other : domain ∈ otherDomains) (payload : Bytes) :
    computeResponderTranscript i r ≠ utf8 domain ++ payload := by
  obtain ⟨long, apart, _⟩ := other_domains_apart domain other
  intro same
  rw [responder_transcript_text, utf8_append] at same
  have bytes := congrArg (fun bs : Bytes => bs[6]?) same
  rw [seventh_byte long, seventh_byte (by decide)] at bytes
  exact apart bytes.symm

theorem initiator_separate (i r : Hello) (sig : Text) (other : domain ∈ otherDomains)
    (payload : Bytes) :
    computeInitiatorTranscript (computeResponderTranscript i r) sig ≠ utf8 domain ++ payload := by
  obtain ⟨long, _, apart⟩ := other_domains_apart domain other
  intro same
  rw [initiator_transcript_text, utf8_append] at same
  have bytes := congrArg (fun bs : Bytes => bs[6]?) same
  rw [seventh_byte long, seventh_byte (by decide)] at bytes
  exact apart bytes.symm

end Peerc.Handshake
