import Peerc.Lib.Hex
import Peerc.Lib.Slices
import Peerc.Transfer.Receiver

/-!
The binary frame of a chunk. It carries the transfer id as the 16 bytes of a UUID, while an offer
is registered under the text of its transfer_id, which the UUID parser may accept in many spellings.
-/
namespace Peerc.Transfer
open List Slices

structure FileData where
  transferId : Text
  sequence : Nat
  offset : Nat
  data : Bytes
  deriving DecidableEq

def hyphenate : List Nat → Text → Text
  | [], t => t
  | n :: groups, t => t.take n ++ '-' :: hyphenate groups (t.drop n)

/-- str(uuid.UUID(bytes=bs)). -/
def uuidText (bs : Bytes) : Text := hyphenate [8, 4, 4, 4] (Hex.encode bs)

/-- The parser of the uuid module: sixteen bytes or ValueError, and it reads what str writes. -/
structure UuidParser where
  parse : Text → Option Bytes
  sixteen : ∀ {t bs}, parse t = some bs → bs.length = 16
  reads : ∀ bs, bs.length = 16 → parse (uuidText bs) = some bs

/-- none is ProtocolError. -/
def encodeFileData (uuid : UuidParser) (transferId : Text) (sequence offset : Nat) (data : Bytes) :
    Option Bytes :=
  (uuid.parse transferId).bind (fun tid =>
    if 0xFFFFFFFF < sequence ∨ 0xFFFFFFFFFFFFFFFF < offset then none
    else some (tid ++ bigEndian 4 sequence ++ bigEndian 8 offset ++ data))

def decodeFileData (payload : Bytes) : Option FileData :=
  if payload.length < 28 then none
  else some ⟨uuidText (slice payload 0 16), ofBigEndian (slice payload 16 4),
    ofBigEndian (slice payload 20 8), payload.drop 28⟩

theorem decode_encoded {tid : Bytes} (size : tid.length = 16) {sequence offset : Nat}
    (short : sequence < 256 ^ 4) (long : offset < 256 ^ 8) (data : Bytes) :
    decodeFileData (tid ++ bigEndian 4 sequence ++ bigEndian 8 offset ++ data) =
      some ⟨uuidText tid, sequence, offset, data⟩ := by
  generalize whole : tid ++ bigEndian 4 sequence ++ bigEndian 8 offset ++ data = payload
  have first : payload.drop 0 = tid ++ (bigEndian 4 sequence ++ (bigEndian 8 offset ++ data)) := by
    simp [← whole]
  have second := drop_of_drop first
  have third := drop_of_drop second
  have rest := drop_of_drop third
  have atTid := slice_of_drop first
  have atSequence := slice_of_drop second
  have atOffset := slice_of_drop third
  simp only [size, length_bigEndian, Nat.zero_add, Nat.reduceAdd] at rest atTid atSequence atOffset
  have enough : ¬ payload.length < 28 := by
    simp [← whole, size, length_bigEndian]
    omega
  rw [decodeFileData, if_neg enough, atTid, atSequence, atOffset, rest, ofBigEndian_bigEndian,
    ofBigEndian_bigEndian, Nat.mod_eq_of_lt short, Nat.mod_eq_of_lt long]

theorem encode_decoded (uuid : UuidParser) {payload : Bytes} (long : 28 ≤ payload.length) :
    encodeFileData uuid (uuidText (slice payload 0 16)) (ofBigEndian (slice payload 16 4))
      (ofBigEndian (slice payload 20 8)) (payload.drop 28) = some payload := by
  obtain ⟨sequence, low⟩ := word_of_slice payload 16 4 (by omega)
  obtain ⟨offset, high⟩ := word_of_slice payload 20 8 (by omega)
  have whole : payload = slice payload 0 16 ++ (slice payload 16 4 ++ (slice payload 20 8 ++
      payload.drop 28)) := by
    rw [← drop_eq_slice payload 20 8, ← drop_eq_slice payload 16 4, ← drop_eq_slice payload 0 16]
    rfl
  rw [encodeFileData, uuid.reads _ (by rw [length_slice]; omega), Option.bind_some,
    if_neg (by omega), sequence, offset, append_assoc, append_assoc, ← whole]

/-- Exactly if the offer spelt the id as str does; everything else comes back as it was. -/
theorem chunk_addresses_offer_iff (uuid : UuidParser) :
    (∀ (r : Receiver) (host : Host) (io : Io) (ctx : OfferContext) (sequence offset : Nat)
        (data payload : Bytes), (Receiver.openPart io r.disk ctx).2.isSome →
      encodeFileData uuid ctx.transferId sequence offset data = some payload →
      (r.accept host io ctx).incoming = r.incoming.set ctx.transferId r.ins.length ∧
        ∃ id, decodeFileData payload = some ⟨id, sequence, offset, data⟩ ∧
          (id = ctx.transferId ↔ ∃ bs, bs.length = 16 ∧ ctx.transferId = uuidText bs)) ∧
      ∀ payload, 28 ≤ payload.length → ∃ chunk, decodeFileData payload = some chunk ∧
        encodeFileData uuid chunk.transferId chunk.sequence chunk.offset chunk.data =
          some payload := by
  refine ⟨?_, ?_⟩
  · intro r host io ctx sequence offset data payload opens encoded
    obtain ⟨tid, parsed, encoded⟩ := Option.bind_eq_some_iff.mp encoded
    split at encoded
    · cases encoded
    · obtain rfl := Option.some.inj encoded
      have size := uuid.sixteen parsed
      refine ⟨?_, uuidText tid, decode_encoded size (by omega) (by omega) data, ?_, ?_⟩
      · cases opened : Receiver.openPart io r.disk ctx with
        | mk disk handle =>
          cases handle with
          | none => simp [opened] at opens
          | some handle => simp [Receiver.accept, opened]
      · intro same
        exact ⟨tid, size, same.symm⟩
      · rintro ⟨bs, length, spelt⟩
        rw [spelt, uuid.reads bs length] at parsed
        rw [spelt, Option.some.inj parsed]
  · intro payload long
    exact ⟨_, if_neg (Nat.not_lt.mpr long), encode_decoded uuid long⟩

section Sample

theorem without_hyphens (groups : List Nat) (t : Text) :
    (hyphenate groups t).filter (· ≠ '-') = t.filter (· ≠ '-') := by
  induction groups generalizing t with
  | nil => rfl
  | cons n _ ih =>
    rw [hyphenate, filter_append, filter_cons_of_neg (by simp), ih, ← filter_append,
      take_append_drop]

theorem uuid_text_digits (bs : Bytes) : (uuidText bs).filter (· ≠ '-') = Hex.encode bs := by
  rw [uuidText, without_hyphens, filter_eq_self]
  intro c member
  obtain ⟨b, _, written⟩ := mem_flatMap.mp member
  rcases mem_cons.mp written with rfl | written
  · simp
  · rw [mem_singleton.mp written]
    simp

def hexParser : UuidParser where
  parse t := (Hex.decode (t.filter (· ≠ '-'))).filter (fun bs => bs.length = 16)
  sixteen parsed := by simpa using (Option.filter_eq_some_iff.mp parsed).2
  reads bs size := by
    rw [uuid_text_digits, Hex.decode_encode]
    simp [size]

def capitals : Text := "01234567-89AB-CDEF-0123-456789ABCDEF"

theorem capitals_not_found :
    ((encodeFileData hexParser capitals 0 0 []).bind decodeFileData).any (fun chunk =>
      chunk.transferId ≠ capitals) = true := by
  decide +kernel

end Sample
end Peerc.Transfer
