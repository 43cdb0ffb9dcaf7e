import Mathlib.Data.List.DropRight
import Peerc.Lib.Bytes

/-!
Byte strings read by offset, and the encodings such a format is made of: big-endian words,
strict UTF-8, and base64url without padding.
-/
namespace Peerc.Slices
open List Base64

/-- buf[offset:offset + size], which is short where the buffer ends. -/
def slice (buf : Bytes) (offset size : Nat) : Bytes := (buf.drop offset).take size

variable {buf rest : Bytes} {offset : Nat}

theorem slice_of_drop {x : Bytes}
    (at_offset : buf.drop offset = x ++ rest) : slice buf offset x.length = x := by
  rw [slice, at_offset, take_left]

theorem drop_of_drop {x : Bytes}
    (at_offset : buf.drop offset = x ++ rest) : buf.drop (offset + x.length) = rest := by
  rw [← drop_drop, at_offset, drop_left]

theorem drop_eq_slice (buf : Bytes) (offset size : Nat) :
    buf.drop offset = slice buf offset size ++ buf.drop (offset + size) := by
  rw [slice, ← drop_drop, take_append_drop]

theorem getElem?_of_drop {b : UInt8}
    (at_offset : buf.drop offset = b :: rest) : buf[offset]? = some b := by
  have first := congrArg (fun bs : Bytes => bs[0]?) at_offset
  simpa using first

theorem drop_of_getElem? {b : UInt8} (found : buf[offset]? = some b) :
    buf.drop offset = b :: buf.drop (offset + 1) := by
  obtain ⟨bound, same⟩ := List.getElem?_eq_some_iff.mp found
  rw [List.drop_eq_getElem_cons bound, same]

theorem length_slice (buf : Bytes) (offset size : Nat) :
    (slice buf offset size).length = min size (buf.length - offset) := by
  rw [slice, length_take, length_drop]

/-! ## Words -/

variable (bs : Bytes)

theorem ofBigEndian_concat (b : UInt8) :
    ofBigEndian (bs ++ [b]) = ofBigEndian bs * 256 + b.toNat := by
  rw [ofBigEndian, ofBigEndian, foldl_append, foldl_cons, foldl_nil]

theorem ofBigEndian_lt : ofBigEndian bs < 256 ^ bs.length := by
  induction bs using List.reverseRecOn with
  | nil => decide
  | append_singleton _ b =>
    have low := b.toNat_lt
    rw [ofBigEndian_concat, length_append, length_singleton, Nat.pow_succ]
    omega

theorem bigEndian_ofBigEndian : bigEndian bs.length (ofBigEndian bs) = bs := by
  induction bs using List.reverseRecOn with
  | nil => rfl
  | append_singleton bs b ih =>
    have low := b.toNat_lt
    have quotient : (ofBigEndian bs * 256 + b.toNat) / 256 = ofBigEndian bs := by omega
    have remainder : UInt8.ofNat (ofBigEndian bs * 256 + b.toNat) = b := by
      apply UInt8.toNat_inj.mp
      rw [UInt8.toNat_ofNat']
      omega
    rw [ofBigEndian_concat, length_append, length_singleton, bigEndian, quotient, ih,
      remainder]

theorem word_of_slice (buf : Bytes) (offset size : Nat) (inside : offset + size ≤ buf.length) :
    bigEndian size (ofBigEndian (slice buf offset size)) = slice buf offset size ∧
      ofBigEndian (slice buf offset size) < 256 ^ size := by
  have length := length_slice buf offset size
  rw [Nat.min_eq_left (by omega)] at length
  have same := bigEndian_ofBigEndian (slice buf offset size)
  have low := ofBigEndian_lt (slice buf offset size)
  rw [length] at same low
  exact ⟨same, low⟩

/-! ## Strict UTF-8 -/

def decodeHead : Option (Char × Bytes) :=
  match bs.toByteArray.utf8DecodeChar? 0 with
  | none => none
  | some c =>
      if String.utf8EncodeChar c <+: bs then some (c, bs.drop (String.utf8EncodeChar c).length)
      else none

def decodeWithin : Nat → Bytes → Option Text
  | _, [] => some []
  | 0, _ :: _ => none
  | size + 1, b :: bs =>
      match decodeHead (b :: bs) with
      | none => none
      | some (c, rest) => (decodeWithin size rest).map (c :: ·)

/-- bytes.decode("utf-8"); none is UnicodeDecodeError. -/
def decodeUtf8 : Option Text := decodeWithin bs.length bs

theorem decode_head_utf8 (c : Char) (rest : Bytes) :
    decodeHead (String.utf8EncodeChar c ++ rest) = some (c, rest) := by
  rw [decodeHead, toByteArray_append, ByteArray.utf8DecodeChar?_utf8EncodeChar_append]
  dsimp only
  rw [if_pos (prefix_append _ _), drop_left]

variable {bs : Bytes}

theorem decode_head_sound {c : Char} (read : decodeHead bs = some (c, rest)) :
    bs = String.utf8EncodeChar c ++ rest := by
  unfold decodeHead at read
  split at read
  · cases read
  · split at read
    · rename_i front
      cases read
      obtain ⟨_, rfl⟩ := front
      rw [drop_left]
    · cases read

theorem decode_within_utf8 (t : Text) {size : Nat} (enough : (utf8 t).length ≤ size) :
    decodeWithin size (utf8 t) = some t := by
  induction t generalizing size with
  | nil =>
    change decodeWithin size [] = some []
    rw [decodeWithin]
  | cons c t ih =>
    have split : utf8 (c :: t) = String.utf8EncodeChar c ++ utf8 t := rfl
    have wide : 0 < (String.utf8EncodeChar c).length :=
      length_pos_iff.mpr String.utf8EncodeChar_ne_nil
    rw [split, length_append] at enough
    cases size with
    | zero => omega
    | succ =>
      have head := decode_head_utf8 c (utf8 t)
      rw [split]
      cases whole : String.utf8EncodeChar c ++ utf8 t with
      | nil =>
        rw [whole] at head
        cases head
      | cons =>
        rw [whole] at head
        rw [decodeWithin, head]
        dsimp only
        rw [ih (by omega), Option.map_some]

theorem decode_within_sound {size : Nat} {t : Text}
    (decoded : decodeWithin size bs = some t) : utf8 t = bs := by
  induction size generalizing bs t with
  | zero =>
    cases bs with
    | nil =>
      cases decoded
      rfl
    | cons => cases decoded
  | succ _ ih =>
    cases bs with
    | nil =>
      cases decoded
      rfl
    | cons =>
      simp only [decodeWithin] at decoded
      split at decoded
      · cases decoded
      · rename_i read
        obtain ⟨_, found, rfl⟩ := Option.map_eq_some_iff.mp decoded
        rw [decode_head_sound read, ← ih found]
        rfl

theorem decode_utf8 (t : Text) : decodeUtf8 (utf8 t) = some t :=
  decode_within_utf8 t (Nat.le_refl _)

/-! ## Base64url without padding -/

def toUrlSafe (c : Char) : Char := if c = '+' then '-' else if c = '/' then '_' else c

def ofUrlSafe (c : Char) : Char := if c = '-' then '+' else if c = '_' then '/' else c

/-- urlsafe_b64encode(raw).rstrip(b"="). -/
def b64urlEncode (raw : Bytes) : Text :=
  ((encode raw).map toUrlSafe).rdropWhile (fun c => c = '=')

/-- urlsafe_b64decode(s + "=" * (-len(s) % 4)). -/
def b64urlDecode (s : Text) : Option Bytes :=
  decode ((s ++ List.replicate ((4 - s.length % 4) % 4) '=').map ofUrlSafe)

theorem symbol_url_safe : ∀ n : Fin 64, ofUrlSafe (toUrlSafe (symbol n.val)) =
    symbol n.val ∧ toUrlSafe (symbol n.val) ≠ '=' := by
  decide

theorem encode_padded (raw : Bytes) : ∃ body pads, encode raw = body ++
    List.replicate pads '=' ∧ pads ≤ 2 ∧ ∀ c ∈ body, ∃ n : Fin 64, c = symbol n.val := by
  induction raw using encode.induct with
  | case1 => exact ⟨[], 0, rfl, by omega, by simp⟩
  | case2 a =>
    have ha := a.toNat_lt
    refine ⟨[symbol (a.toNat / 4), symbol (a.toNat % 4 * 16)], 2, rfl, by omega, ?_⟩
    intro _ member
    simp only [mem_cons, not_mem_nil, or_false] at member
    rcases member with rfl | rfl
    · exact ⟨⟨a.toNat / 4, by omega⟩, rfl⟩
    · exact ⟨⟨a.toNat % 4 * 16, by omega⟩, rfl⟩
  | case3 a b =>
    have ha := a.toNat_lt
    have hb := b.toNat_lt
    refine ⟨[symbol (a.toNat / 4), symbol (a.toNat % 4 * 16 + b.toNat / 16),
      symbol (b.toNat % 16 * 4)], 1, rfl, by omega, ?_⟩
    intro _ member
    simp only [mem_cons, not_mem_nil, or_false] at member
    rcases member with rfl | rfl | rfl
    · exact ⟨⟨a.toNat / 4, by omega⟩, rfl⟩
    · exact ⟨⟨a.toNat % 4 * 16 + b.toNat / 16, by omega⟩, rfl⟩
    · exact ⟨⟨b.toNat % 16 * 4, by omega⟩, rfl⟩
  | case4 a b c _ ih =>
    have ha := a.toNat_lt
    have hb := b.toNat_lt
    have hc := c.toNat_lt
    obtain ⟨body, pads, same, few, symbols⟩ := ih
    refine ⟨symbol (a.toNat / 4) :: symbol (a.toNat % 4 * 16 + b.toNat / 16) ::
      symbol (b.toNat % 16 * 4 + c.toNat / 64) :: symbol (c.toNat % 64) :: body,
      pads, ?_, few, ?_⟩
    · rw [encode, same]
      rfl
    · intro d member
      simp only [mem_cons] at member
      rcases member with rfl | rfl | rfl | rfl | inside
      · exact ⟨⟨a.toNat / 4, by omega⟩, rfl⟩
      · exact ⟨⟨a.toNat % 4 * 16 + b.toNat / 16, by omega⟩, rfl⟩
      · exact ⟨⟨b.toNat % 16 * 4 + c.toNat / 64, by omega⟩, rfl⟩
      · exact ⟨⟨c.toNat % 64, by omega⟩, rfl⟩
      · exact symbols d inside

theorem rdrop_pads {body : Text} (pads : Nat) (clean : ∀ c ∈ body, c ≠ '=') :
    (body ++ List.replicate pads '=').rdropWhile (fun c => c = '=') = body := by
  induction pads with
  | zero =>
    rw [replicate_zero, append_nil, rdropWhile_eq_self_iff]
    intro some
    simpa using clean _ (getLast_mem some)
  | succ _ ih =>
    rw [replicate_succ', ← append_assoc, rdropWhile_concat_pos _ _ _ (by simp), ih]

theorem b64url_decode_encode (raw : Bytes) : b64urlDecode (b64urlEncode raw) = some raw := by
  obtain ⟨body, pads, same, _, symbols⟩ := encode_padded raw
  have back : (body.map toUrlSafe).map ofUrlSafe = body := by
    rw [map_map]
    refine (map_congr_left ?_).trans (map_id body)
    intro c member
    obtain ⟨n, rfl⟩ := symbols c member
    exact (symbol_url_safe n).1
  have clean : ∀ c ∈ body.map toUrlSafe, c ≠ '=' := by
    intro _ member
    obtain ⟨d, inside, rfl⟩ := mem_map.mp member
    obtain ⟨n, rfl⟩ := symbols d inside
    exact (symbol_url_safe n).2
  have stripped : b64urlEncode raw = body.map toUrlSafe := by
    have pad : toUrlSafe '=' = '=' := by decide
    rw [b64urlEncode, same, map_append, map_replicate, pad, rdrop_pads pads clean]
  have whole : body.length + pads = 4 * ((raw.length + 2) / 3) := by
    rw [← encode_length, same, length_append, length_replicate]
  have filled : (4 - (body.map toUrlSafe).length % 4) % 4 = pads := by
    rw [length_map]
    omega
  have pad : ofUrlSafe '=' = '=' := by decide
  rw [b64urlDecode, stripped, filled, map_append, back, map_replicate, pad, ← same,
    decode_encode]

end Peerc.Slices
