import Peerc.Connectivity.Link

/-!
Which exceptions leave decode_link and create_link: the ValueError of an address cut short and
the LocatorError of an endpoint without host or port are not turned into a LinkError.
-/
namespace Peerc.Link
open Decoded Slices Raising

section Errors
variable {env : Env} {p : Bytes} {offset : Nat}

def Raised.Caught (e : Raised) : Prop := e.asFormat.inFamily = true

def InFamily {α : Type} (result : Except Raised α) : Prop :=
  Within (fun e => e.inFamily = true) result

def AddressFits (p : Bytes) (offset : Nat) : Prop :=
  ∀ family : Family, p[offset]? = some family.kind.tag → offset + 1 + family.width ≤ p.length

theorem unpack_host_caught (kind : Kind) : Within Raised.Caught (unpackHost env p offset kind) ↔
      ∀ family : Family, family.kind = kind → offset + family.width ≤ p.length := by
  have address (family : Family) : Within Raised.Caught (unpackAddress env family p offset) ↔
      offset + family.width ≤ p.length := by
    have positive : 0 < family.width := by cases family <;> decide
    unfold unpackAddress
    rw [length_slice]
    split
    · rename_i whole
      exact ⟨fun _ => by omega, fun _ => within_ok _⟩
    · rename_i short
      rw [within_error]
      exact ⟨nofun, fun room => absurd (Nat.min_eq_left (by omega)) short⟩
  cases kind with
  | directV4 =>
    refine (address .v4).trans ⟨?_, fun room => room .v4 rfl⟩
    intro room family same
    cases family with
    | v4 => exact room
    | v6 => cases same
  | directV6 =>
    refine (address .v6).trans ⟨?_, fun room => room .v6 rfl⟩
    intro room family same
    cases family with
    | v4 => cases same
    | v6 => exact room
  | rendezvous =>
    refine ⟨fun _ family same => (by cases family <;> cases same), fun _ => ?_⟩
    change Within _ (unpackName p offset)
    unfold unpackName
    rw [within_bind]
    constructor
    · unfold index
      split
      · exact within_ok _
      · exact (within_error _).mpr rfl
    · intro _ _
      split
      · exact (within_error _).mpr rfl
      · exact within_ok _

theorem unpack_one_caught :
    Within Raised.Caught (unpackOne env p offset) ↔ AddressFits p offset := by
  unfold unpackOne index AddressFits
  cases found : p[offset]? with
  | none => exact ⟨fun _ _ same => absurd same (by simp), fun _ => (within_error _).mpr rfl⟩
  | some tag =>
    rw [bind_of_ok rfl]
    dsimp only
    cases known : Kind.ofTag tag with
    | none =>
      refine ⟨?_, fun _ => (within_error _).mpr rfl⟩
      intro _ family same
      rw [(of_tag_iff family.kind tag).mpr (Option.some.inj same)] at known
      cases known
    | some kind =>
      have same := (of_tag_iff kind tag).mp known
      rw [within_bind, unpack_host_caught]
      constructor
      · rintro ⟨room, _⟩ family isTag
        refine room family (Option.some.inj ?_)
        rw [← known, (of_tag_iff family.kind tag).mpr (Option.some.inj isTag)]
      · intro room
        refine ⟨fun family isKind => room family (by rw [same, isKind]), ?_⟩
        intro _ _
        rw [within_bind]
        refine ⟨?_, fun _ _ => within_ok _⟩
        unfold unpackHalf
        split
        · exact within_ok _
        · exact (within_error _).mpr rfl

theorem unpack_endpoints_caught (count : Nat) :
    Within Raised.Caught (unpackEndpoints env p offset count) ↔
      ∀ k < count, ∀ records next, unpackEndpoints env p offset k = .ok (records, next) →
        AddressFits p next := by
  induction count generalizing offset with
  | zero => exact ⟨fun _ k below => absurd below (Nat.not_lt_zero k), fun _ => within_ok _⟩
  | succ _ ih =>
    rw [unpackEndpoints, within_bind, unpack_one_caught]
    constructor
    · rintro ⟨first, later⟩ k _ _ next read
      cases k with
      | zero =>
        cases read
        exact first
      | succ k =>
        obtain ⟨⟨r, middle⟩, one, after⟩ := except_bind_ok read
        obtain ⟨⟨rs, _⟩, others, same⟩ := except_bind_ok after
        cases same
        have rest := (within_bind _ _).mp (later (r, middle) one)
        exact ih.mp rest.1 k (by omega) rs next others
    · intro fits
      refine ⟨fits 0 (by omega) [] offset rfl, ?_⟩
      rintro ⟨r, middle⟩ one
      refine (within_bind _ _).mpr ⟨ih.mpr ?_, fun _ _ => within_ok _⟩
      intro k _ rs next others
      refine fits (k + 1) (by omega) (r :: rs) next ?_
      rw [unpackEndpoints, bind_of_ok one]
      change (unpackEndpoints env p middle k >>= _) = _
      rw [bind_of_ok others]
      rfl

def Record.Valid (r : Record) : Prop := ofText r.host ≠ [] ∧ 0 < r.port ∧ r.port ≤ 65535

theorem to_endpoints_in_family (deviceId : Text) (createdAt : Nat) (records : List Record) :
    InFamily (toEndpoints deviceId createdAt records) ↔ ∀ r ∈ records, r.Valid := by
  induction records with
  | nil => exact ⟨fun _ r member => absurd member List.not_mem_nil, fun _ => within_ok _⟩
  | cons r _ ih =>
    rw [List.forall_mem_cons, ← ih, toEndpoints]
    by_cases valid : r.Valid
    · have first : ∃ e, r.toEndpoint deviceId createdAt = .ok e :=
        ⟨_, by rw [Record.toEndpoint, dif_pos valid.1, dif_pos valid.2]⟩
      obtain ⟨_, first⟩ := first
      rw [bind_of_ok first]
      refine (within_bind _ _).trans ⟨fun both => ⟨valid, both.1⟩, ?_⟩
      exact fun both => ⟨both.2, fun _ _ => within_ok _⟩
    · have first : ∃ e, r.toEndpoint deviceId createdAt = .error (.locator e) := by
        unfold Record.toEndpoint
        split
        · rename_i filled
          rw [dif_neg (fun range => valid ⟨filled, range⟩)]
          exact ⟨_, rfl⟩
        · exact ⟨_, rfl⟩
      obtain ⟨_, first⟩ := first
      rw [first]
      exact (within_error _).trans ⟨Bool.noConfusion, fun both => absurd both.1 valid⟩

def ReadsInFamily (env : Env) (p : Bytes) : Prop :=
  101 ≤ p.length → ∀ count, p[publicKeyLen]? = some count →
    (∀ k < count.toNat, ∀ records next, unpackEndpoints env p 33 k = .ok (records, next) →
      AddressFits p next) ∧
    ∀ records next, unpackEndpoints env p 33 count.toNat = .ok (records, next) →
      next + 68 ≤ p.length →
      env.ed25519.verify (p.take publicKeyLen) (slice p (next + 4) signatureLen)
        (linkSignDomain ++ p.take (next + 4)) = true →
      ∀ r ∈ records, r.Valid

theorem map_error_in_family {α : Type} (result : Except Raised α) :
    InFamily (result.mapError Raised.asFormat) ↔ Within Raised.Caught result := by
  cases result with
  | ok a => exact ⟨fun _ => within_ok a, fun _ => within_ok a⟩
  | error e =>
    have caught : Within Raised.Caught (.error e : Except Raised α) ↔ e.asFormat.inFamily = true :=
      within_error e
    exact (within_error e.asFormat).trans caught.symm

theorem read_signed_in_family (records : List Record) (next : Nat) :
    InFamily (readSigned env p records next) ↔ (next + 68 ≤ p.length →
      env.ed25519.verify (p.take publicKeyLen) (slice p (next + 4) signatureLen)
        (linkSignDomain ++ p.take (next + 4)) = true → ∀ r ∈ records, r.Valid) := by
  unfold readSigned
  split
  · rename_i short
    unfold createdAtLen signatureLen at short
    exact ⟨fun _ room => (by omega), fun _ => (within_error _).mpr rfl⟩
  · rename_i room
    unfold createdAtLen at *
    unfold signatureLen at room
    dsimp only
    split
    · rename_i verified
      have converted := to_endpoints_in_family (env.sha256 (p.take publicKeyLen))
        (ofBigEndian (slice p next 4)) records
      refine (within_bind _ _).trans ⟨fun both _ _ => converted.mp both.1, ?_⟩
      exact fun valid => ⟨converted.mpr (valid (by omega) verified), fun _ _ => within_ok _⟩
    · rename_i forged
      exact ⟨fun _ _ verified => absurd verified forged, fun _ => (within_error _).mpr rfl⟩

theorem read_plaintext_in_family : InFamily (readPlaintext env p) ↔ ReadsInFamily env p := by
  unfold readPlaintext
  split
  · rename_i short
    have no : ¬ 101 ≤ p.length := by
      unfold publicKeyLen createdAtLen signatureLen at short
      omega
    exact ⟨fun _ long => absurd long no, fun _ => (within_error _).mpr rfl⟩
  · rename_i long
    have enough : 101 ≤ p.length := by
      unfold publicKeyLen createdAtLen signatureLen at long
      omega
    obtain ⟨count, found⟩ : ∃ count, p[publicKeyLen]? = some count :=
      ⟨_, List.getElem?_eq_getElem (by unfold publicKeyLen; omega)⟩
    have first : index p publicKeyLen = .ok count := by rw [index, found]
    have caught := (map_error_in_family (unpackEndpoints env p 33 count.toNat)).trans
      (unpack_endpoints_caught count.toNat)
    rw [bind_of_ok first]
    refine (within_bind _ _).trans ⟨?_, ?_⟩
    · intro both _ _ same
      cases found.symm.trans same
      refine ⟨caught.mp both.1, ?_⟩
      intro records next read
      refine (read_signed_in_family records next).mp (both.2 (records, next) ?_)
      change Except.mapError _ (unpackEndpoints env p 33 count.toNat) = _
      rw [read]
      rfl
    · intro fits
      obtain ⟨addresses, valid⟩ := fits enough count found
      refine ⟨caught.mpr addresses, ?_⟩
      intro ⟨records, next⟩ read
      exact (read_signed_in_family records next).mpr (valid records next (map_error_ok read))

theorem validate_pin_in_family (pin : Str) : InFamily (validatePin pin) := by
  unfold validatePin
  split
  · exact within_ok ()
  · exact (within_error _).mpr rfl

theorem open_link_in_family (env : Env) (link pin : Str) : InFamily (openLink env link pin) := by
  unfold openLink
  refine (within_bind _ _).mpr ⟨validate_pin_in_family pin, fun _ _ => ?_⟩
  split
  · split
    · exact (within_error _).mpr rfl
    · split
      · exact (within_error _).mpr rfl
      · dsimp only
        split
        · exact (within_error _).mpr rfl
        · exact within_ok _
  · exact (within_error _).mpr rfl

/-! ## Writing -/

def Endpoint.Encodable (e : Endpoint) : Prop :=
  ∃ text, toText e.host = some text ∧ (e.kind ≠ .rendezvous → '\x00' ∉ text)

theorem pack_one_in_family (e : Endpoint) : InFamily (packOneEndpoint env e) ↔ e.Encodable := by
  have port : ∃ x, packHalf e.port = .ok x :=
    ⟨_, if_pos (Nat.lt_succ_of_le e.portRange.2)⟩
  obtain ⟨_, port⟩ := port
  have rest (h : Bytes) : InFamily (packHalf e.port >>= fun port =>
      (pure (e.kind.tag :: (h ++ port)) : Except Raised Bytes)) := by
    rw [bind_of_ok port]
    exact within_ok _
  have address (family : Family) (isKind : e.kind ≠ .rendezvous) :
      InFamily (packAddress env family e.host) ↔ e.Encodable := by
    unfold packAddress Endpoint.Encodable
    cases text : toText e.host with
    | none => exact (within_error _).trans ⟨nofun, fun ⟨_, same, _⟩ => (nomatch same)⟩
    | some t =>
      dsimp only
      split
      · rename_i nul
        refine (within_error _).trans ⟨nofun, ?_⟩
        intro ⟨_, same, clean⟩
        cases same
        exact absurd nul (clean isKind)
      · rename_i clean
        refine ⟨fun _ => ⟨t, rfl, fun _ => clean⟩, fun _ => ?_⟩
        split
        · exact (within_error _).mpr rfl
        · exact within_ok _
  refine (within_bind _ _).trans ((and_iff_left (fun h _ => rest h)).trans ?_)
  cases kind : e.kind with
  | directV4 => exact address .v4 (by rw [kind]; decide)
  | directV6 => exact address .v6 (by rw [kind]; decide)
  | rendezvous =>
    change InFamily (packName e.host) ↔ _
    unfold packName Endpoint.Encodable
    cases text : toText e.host with
    | none => exact (within_error _).trans ⟨nofun, fun ⟨_, same, _⟩ => (nomatch same)⟩
    | some t =>
      refine ⟨fun _ => ⟨t, rfl, fun other => absurd kind other⟩, fun _ => ?_⟩
      dsimp only
      split
      · exact (within_error _).mpr rfl
      · rename_i short
        unfold maxRendezvousHostLen at short
        rw [packByte, if_pos (by omega)]
        exact within_ok _

theorem pack_endpoints_in_family (es : List Endpoint) : InFamily (packEndpoints env es) ↔
    ∀ pre e post, es = pre ++ e :: post → (∃ x, packEndpoints env pre = .ok x) → e.Encodable := by
  induction es with
  | nil =>
    refine ⟨fun _ pre e post same => ?_, fun _ => within_ok _⟩
    simp at same
  | cons e es ih =>
    refine (within_bind _ _).trans ((and_congr_left' (pack_one_in_family e)).trans ⟨?_, ?_⟩)
    · intro ⟨first, later⟩ pre e' post same ⟨_, packed⟩
      cases pre with
      | nil =>
        cases same
        exact first
      | cons _ pre =>
        cases same
        obtain ⟨y, one, after⟩ := except_bind_ok packed
        obtain ⟨z, others, _⟩ := except_bind_ok after
        exact ih.mp ((within_bind _ _).mp (later y one)).1 pre e' post rfl ⟨z, others⟩
    · intro all
      refine ⟨all [] e es rfl ⟨[], rfl⟩, ?_⟩
      intro y one
      refine (within_bind _ _).mpr ⟨ih.mpr ?_, fun _ _ => within_ok _⟩
      intro pre e' post same ⟨z, others⟩
      refine all (e :: pre) e' post (congrArg _ same) ⟨y ++ z, ?_⟩
      rw [packEndpoints, bind_of_ok one, bind_of_ok others]
      rfl

structure CreatesInFamily (env : Env) (endpoints : List Endpoint) (createdAt : Int) : Prop where
  encodable : ∀ pre e post, endpoints = pre ++ e :: post →
    (∃ x, packEndpoints env pre = .ok x) → e.Encodable
  fits : ∀ x, packEndpoints env endpoints = .ok x →
    endpoints.length ≤ 255 ∧ 0 ≤ createdAt ∧ createdAt < 2 ^ 32

theorem pack_signed_in_family (publicKey : Bytes) (endpoints : List Endpoint) (createdAt : Int) :
    InFamily (packSigned env publicKey endpoints createdAt) ↔
      CreatesInFamily env endpoints createdAt := by
  have tail (x : Bytes) : InFamily (do
      let count ← packByte endpoints.length
      let time ← packWord createdAt
      return publicKey ++ count ++ x ++ time) ↔
        endpoints.length ≤ 255 ∧ 0 ≤ createdAt ∧ createdAt < 2 ^ 32 := by
    unfold packByte packWord
    split
    · rename_i few
      split
      · rename_i range
        exact ⟨fun _ => ⟨by omega, range⟩, fun _ => within_ok _⟩
      · rename_i range
        exact (within_error _).trans ⟨nofun, fun all => absurd all.2 range⟩
    · rename_i many
      exact (within_error _).trans ⟨nofun, fun all => (by omega)⟩
  refine (within_bind _ _).trans ⟨?_, ?_⟩
  · intro ⟨packs, later⟩
    exact ⟨(pack_endpoints_in_family endpoints).mp packs,
      fun x packed => (tail x).mp (later x packed)⟩
  · intro ⟨encodable, fits⟩
    exact ⟨(pack_endpoints_in_family endpoints).mpr encodable,
      fun x packed => (tail x).mpr (fits x packed)⟩

theorem link_errors_in_family_iff (env : Env) : (∀ link pin, InFamily (decodeLink env link pin) ↔
      ∀ p, openLink env link pin = .ok p → ReadsInFamily env p) ∧
    ∀ key endpoints pin createdAt salt nonce,
      InFamily (createLink env key endpoints pin createdAt salt nonce) ↔
        (validatePin pin = .ok () → endpoints ≠ [] → CreatesInFamily env endpoints createdAt ∧
          ∀ p, buildPlaintext env (env.ed25519.publicKey key) endpoints createdAt
              (env.ed25519.sign key) = .ok p →
            env.aead.encrypt (env.deriveKek (pinBytes pin) salt) nonce p [] ≠ none) := by
  constructor
  · intro link pin
    refine (within_bind _ _).trans ((and_iff_right (open_link_in_family env link pin)).trans ?_)
    exact forall_congr' (fun p => imp_congr_right (fun _ => read_plaintext_in_family))
  · intro key endpoints pin createdAt _ _
    refine (within_bind _ _).trans ((and_iff_right (validate_pin_in_family pin)).trans ?_)
    refine Iff.trans ⟨fun all valid => all () valid, fun all _ valid => all valid⟩
      (imp_congr_right ?_)
    intro _
    refine (within_bind _ _).trans ?_
    by_cases empty : endpoints = []
    · rw [buildPlaintext, if_pos empty]
      refine ⟨fun _ filled => absurd empty filled, fun _ => ⟨(within_error _).mpr rfl, by simp⟩⟩
    · have built : InFamily (buildPlaintext env (env.ed25519.publicKey key) endpoints createdAt
          (env.ed25519.sign key)) ↔ CreatesInFamily env endpoints createdAt := by
        rw [buildPlaintext, if_neg empty]
        refine (within_bind _ _).trans ((and_iff_left (fun _ _ => within_ok _)).trans ?_)
        exact pack_signed_in_family _ endpoints createdAt
      refine Iff.trans (and_congr built (forall_congr' ?_))
        ⟨fun both _ => both, fun both => both empty⟩
      intro _
      refine imp_congr_right ?_
      intro _
      split
      · rename_i fails
        exact (within_error _).trans ⟨Bool.noConfusion, fun encrypts => absurd fails encrypts⟩
      · rename_i encrypted
        refine ⟨fun _ => ?_, fun _ => within_ok _⟩
        rw [encrypted]
        exact Option.some_ne_none _

end Errors

section Sample

def cutShort : Bytes := List.replicate 32 0 ++ 11 :: List.replicate 71 0

theorem relays_packed (n : Nat) : ∃ x, packEndpoints plainEnv (List.replicate n relay) = .ok x := by
  induction n with
  | zero => exact ⟨[], rfl⟩
  | succ _ ih =>
    obtain ⟨x, packed⟩ := ih
    have first : packOneEndpoint plainEnv relay = .ok [2, 1, 114, 19, 136] := rfl
    refine ⟨[2, 1, 114, 19, 136] ++ x, ?_⟩
    rw [List.replicate_succ, packEndpoints, bind_of_ok first, bind_of_ok packed]
    rfl

theorem link_errors_leave_family : (∃ link, decodeLink plainEnv link pin = .error .valueError) ∧
    (∃ link, decodeLink plainEnv link pin = .error (.locator (.invalidPort 0))) ∧
    (∃ endpoints, createLink plainEnv sender endpoints pin 7 [] [] = .error .unicodeEncode) ∧
    ∃ endpoints, createLink plainEnv sender endpoints pin 7 [] [] = .error .structError := by
  refine ⟨?_, ?_, ?_, ?_⟩
  · have read : readPlaintext plainEnv cutShort = .error .valueError := rfl
    obtain ⟨link, _, decoded⟩ := sealed_decoded read
    exact ⟨link, decoded⟩
  · have read := signed_read _ (relay_record_bytes 0 (by decide)) (by decide) []
    obtain ⟨link, _, decoded⟩ := sealed_decoded read
    exact ⟨link, decoded⟩
  · exact ⟨[endpointAt .rendezvous [0xD800] (List.cons_ne_nil _ _)], rfl⟩
  · obtain ⟨_, packed⟩ := relays_packed 256
    have valid : validatePin pin = .ok () := rfl
    have filled : List.replicate 256 relay ≠ [] := List.cons_ne_nil _ _
    refine ⟨List.replicate 256 relay, ?_⟩
    rw [createLink, bind_of_ok valid, buildPlaintext, if_neg filled, packSigned, bind_of_ok packed,
      List.length_replicate]
    rfl

end Sample
end Peerc.Link
