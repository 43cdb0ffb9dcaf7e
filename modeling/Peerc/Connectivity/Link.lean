import Peerc.Connectivity.Rendezvous
import Peerc.Lib.Aead
import Peerc.Lib.Decoded
import Peerc.Lib.Raising
import Peerc.Lib.Slices

/-!
Add-by-Link: a signed list of endpoints, encrypted under a key derived from a PIN and written
as base64url. The reader goes through the decrypted bytes by offsets.
-/
namespace Peerc.Link
open List Decoded Slices Raising
open Connectivity (LocatorError Stamp)

inductive Kind where
  | directV4 | directV6 | rendezvous
  deriving DecidableEq

def Kind.tag : Kind → UInt8
  | .directV4 => 0
  | .directV6 => 1
  | .rendezvous => 2

def Kind.ofTag (tag : UInt8) : Option Kind :=
  if tag = 0 then some .directV4
  else if tag = 1 then some .directV6
  else if tag = 2 then some .rendezvous
  else none

inductive Family where
  | v4 | v6
  deriving DecidableEq

def Family.width : Family → Nat
  | .v4 => 4
  | .v6 => 16

def Family.kind : Family → Kind
  | .v4 => .directV4
  | .v6 => .directV6

/-- socket.inet_pton on texts without NUL, and inet_ntop on addresses of the right size. -/
structure Inet where
  pton : Family → Text → Option Bytes
  ntop : Family → Bytes → Text

structure Inet.Lawful (inet : Inet) : Prop where
  back : ∀ family address, address.length = family.width →
    inet.pton family (inet.ntop family address) = some address
  some : ∀ family address, address.length = family.width → inet.ntop family address ≠ []
  clean : ∀ family address, address.length = family.width → '\x00' ∉ inet.ntop family address

structure Env extends Primitives where
  deriveKek : Bytes → Bytes → Bytes
  aead : Aead
  inet : Inet

/-- An Endpoint that __post_init__ let through. -/
structure Endpoint where
  deviceId : Text
  kind : Kind
  host : Str
  port : Nat
  updatedAt : Stamp
  hostRequired : host ≠ []
  portRange : 0 < port ∧ port ≤ 65535

inductive LinkError where
  | link | format | wrongPin | signature
  deriving DecidableEq

inductive Raised where
  | family (e : LinkError)
  | structError
  | indexError
  | unicodeDecode
  | unicodeEncode
  | valueError
  | overflowError
  | locator (e : LocatorError)
  deriving DecidableEq

def Raised.inFamily : Raised → Bool
  | .family _ => true
  | _ => false

def pinLength : Nat := 6

def validatePin (pin : Str) : Except Raised Unit :=
  if pin.length = pinLength ∧ pin.all (fun c => 48 ≤ c.val && c.val ≤ 57) then .ok ()
  else .error (.family .link)

def pinBytes (pin : Str) : Bytes := pin.map (fun c => UInt8.ofNat c.val)

/-! ## Writing -/

def packByte (n : Nat) : Except Raised Bytes :=
  if n < 256 then .ok [UInt8.ofNat n] else .error .structError

def packHalf (n : Nat) : Except Raised Bytes :=
  if n < 65536 then .ok (bigEndian 2 n) else .error .structError

def packWord (n : Int) : Except Raised Bytes :=
  if 0 ≤ n ∧ n < 2 ^ 32 then .ok (bigEndian 4 n.toNat) else .error .structError

variable (env : Env)

/-- inet_pton takes its argument as UTF-8 without NUL; only its OSError is turned into LinkError. -/
def packAddress (family : Family) (host : Str) : Except Raised Bytes :=
  match toText host with
  | none => .error .unicodeEncode
  | some text =>
      if '\x00' ∈ text then .error .valueError
      else match env.inet.pton family text with
        | none => .error (.family .link)
        | some address => .ok address

def maxRendezvousHostLen : Nat := 255

def packName (host : Str) : Except Raised Bytes :=
  match toText host with
  | none => .error .unicodeEncode
  | some text =>
      if maxRendezvousHostLen < (utf8 text).length then .error (.family .link)
      else do
        let size ← packByte (utf8 text).length
        return size ++ utf8 text

def packHost : Kind → Str → Except Raised Bytes
  | .directV4, host => packAddress env .v4 host
  | .directV6, host => packAddress env .v6 host
  | .rendezvous, host => packName host

def packOneEndpoint (e : Endpoint) : Except Raised Bytes := do
  let host ← packHost env e.kind e.host
  let port ← packHalf e.port
  return e.kind.tag :: (host ++ port)

def packEndpoints (env : Env) : List Endpoint → Except Raised Bytes
  | [] => .ok []
  | e :: es => do
      let first ← packOneEndpoint env e
      let rest ← packEndpoints env es
      return first ++ rest

def packSigned (publicKey : Bytes) (endpoints : List Endpoint) (createdAt : Int) :
    Except Raised Bytes := do
  let records ← packEndpoints env endpoints
  let count ← packByte endpoints.length
  let time ← packWord createdAt
  return publicKey ++ count ++ records ++ time

def linkSignDomain : Bytes := utf8 "peerc-add-by-link\x00"

def linkPrefix : Text := "PEERC1:"

/-- The plaintext that create_link encrypts, given what signs the payload. -/
def buildPlaintext (publicKey : Bytes) (endpoints : List Endpoint) (createdAt : Int)
    (sign : Bytes → Bytes) : Except Raised Bytes :=
  if endpoints = [] then .error (.family .link)
  else do
    let signed ← packSigned env publicKey endpoints createdAt
    return signed ++ sign (linkSignDomain ++ signed)

/-- create_link with the time, the salt and the nonce it draws. -/
def createLink (key : env.ed25519.PrivateKey) (endpoints : List Endpoint) (pin : Str)
    (createdAt : Int) (salt nonce : Bytes) : Except Raised Text := do
  validatePin pin
  let plaintext ← buildPlaintext env (env.ed25519.publicKey key) endpoints createdAt
    (env.ed25519.sign key)
  match env.aead.encrypt (env.deriveKek (pinBytes pin) salt) nonce plaintext [] with
  | none => .error .overflowError
  | some ciphertext => return linkPrefix ++ b64urlEncode (salt ++ nonce ++ ciphertext)

/-! ## Reading -/

def saltLen : Nat := 16
def nonceLen : Nat := 12
def publicKeyLen : Nat := 32
def signatureLen : Nat := 64
def createdAtLen : Nat := 4

structure Record where
  kind : Kind
  host : Text
  port : Nat
  deriving DecidableEq

structure LinkPayload where
  deviceId : Text
  publicKey : Bytes
  endpoints : List Endpoint
  createdAt : Nat

variable (buf : Bytes) (offset : Nat)

def index : Except Raised UInt8 :=
  match buf[offset]? with
  | some b => .ok b
  | none => .error .indexError

/-- inet_ntop raises ValueError for an address of the wrong size. -/
def unpackAddress (family : Family) (buf : Bytes) (offset : Nat) : Except Raised (Text × Nat) :=
  if (slice buf offset family.width).length = family.width then
    .ok (env.inet.ntop family (slice buf offset family.width), offset + family.width)
  else .error .valueError

def unpackName : Except Raised (Text × Nat) := do
  let size ← index buf offset
  match decodeUtf8 (slice buf (offset + 1) size.toNat) with
  | none => .error .unicodeDecode
  | some host => return (host, offset + 1 + size.toNat)

def unpackHost : Kind → Except Raised (Text × Nat)
  | .directV4 => unpackAddress env .v4 buf offset
  | .directV6 => unpackAddress env .v6 buf offset
  | .rendezvous => unpackName buf offset

def unpackHalf : Except Raised Nat :=
  if (slice buf offset 2).length = 2 then .ok (ofBigEndian (slice buf offset 2))
  else .error .structError

/-- One round of the loop of _unpack_endpoints: the record and the offset behind it. -/
def unpackOne : Except Raised (Record × Nat) := do
  let tag ← index buf offset
  match Kind.ofTag tag with
  | none => .error (.family .format)
  | some kind => do
      let (host, next) ← unpackHost env buf (offset + 1) kind
      let port ← unpackHalf buf next
      return (⟨kind, host, port⟩, next + 2)

def unpackEndpoints (env : Env) (buf : Bytes) : Nat → Nat → Except Raised (List Record × Nat)
  | offset, 0 => .ok ([], offset)
  | offset, count + 1 => do
      let (record, next) ← unpackOne env buf offset
      let (records, last) ← unpackEndpoints env buf next count
      return (record :: records, last)

/-- except (struct.error, IndexError, UnicodeDecodeError). -/
def Raised.asFormat : Raised → Raised
  | .structError => .family .format
  | .indexError => .family .format
  | .unicodeDecode => .family .format
  | r => r

def Record.toEndpoint (deviceId : Text) (createdAt : Nat) (r : Record) : Except Raised Endpoint :=
  if filled : ofText r.host ≠ [] then
    if range : 0 < r.port ∧ r.port ≤ 65535 then
      .ok ⟨deviceId, r.kind, ofText r.host, r.port, .finite createdAt, filled, range⟩
    else .error (.locator (.invalidPort r.port))
  else .error (.locator .missingHost)

def toEndpoints (deviceId : Text) (createdAt : Nat) : List Record → Except Raised (List Endpoint)
  | [] => .ok []
  | r :: rs => do
      let first ← r.toEndpoint deviceId createdAt
      let rest ← toEndpoints deviceId createdAt rs
      return first :: rest

/-- The part of decode_link behind the endpoints. -/
def readSigned (plaintext : Bytes) (records : List Record) (offset : Nat) :
    Except Raised LinkPayload :=
  let publicKey := plaintext.take publicKeyLen
  if plaintext.length < offset + createdAtLen + signatureLen then .error (.family .format)
  else
    let createdAt := ofBigEndian (slice plaintext offset createdAtLen)
    let signature := slice plaintext (offset + createdAtLen) signatureLen
    let signed := plaintext.take (offset + createdAtLen)
    if env.ed25519.verify publicKey signature (linkSignDomain ++ signed) then do
      let endpoints ← toEndpoints (env.sha256 publicKey) createdAt records
      return ⟨env.sha256 publicKey, publicKey, endpoints, createdAt⟩
    else .error (.family .signature)

/-- decode_link from the decrypted plaintext on. -/
def readPlaintext (plaintext : Bytes) : Except Raised LinkPayload :=
  if plaintext.length < publicKeyLen + 1 + createdAtLen + signatureLen then
    .error (.family .format)
  else do
    let count ← index plaintext publicKeyLen
    let (records, offset) ←
      (unpackEndpoints env plaintext (publicKeyLen + 1) count.toNat).mapError Raised.asFormat
    readSigned env plaintext records offset

/-- decode_link up to the decrypted plaintext. -/
def openLink (link pin : Str) : Except Raised Bytes := do
  validatePin pin
  if ofText linkPrefix <+: link then
    match (toText (link.drop linkPrefix.length)).bind b64urlDecode with
    | none => .error (.family .format)
    | some raw =>
        if raw.length < saltLen + nonceLen then .error (.family .format)
        else
          let kek := env.deriveKek (pinBytes pin) (raw.take saltLen)
          match env.aead.decrypt kek (slice raw saltLen nonceLen) (raw.drop (saltLen + nonceLen))
              [] with
          | none => .error (.family .wrongPin)
          | some plaintext => .ok plaintext
  else .error (.family .format)

def decodeLink (link pin : Str) : Except Raised LinkPayload :=
  openLink env link pin >>= readPlaintext env

/-! ## The bytes of a record -/

section Records
variable {env : Env} {buf rest : Bytes} {offset next : Nat}

def HostBytes (env : Env) (host : Text) (x : Bytes) : Kind → Prop
  | .directV4 => x.length = Family.v4.width ∧ host = env.inet.ntop .v4 x
  | .directV6 => x.length = Family.v6.width ∧ host = env.inet.ntop .v6 x
  | .rendezvous => (utf8 host).length < 256 ∧ x = UInt8.ofNat (utf8 host).length :: utf8 host

def RecordBytes (env : Env) (r : Record) (x : Bytes) : Prop :=
  ∃ h, HostBytes env r.host h r.kind ∧ r.port < 65536 ∧ x = r.kind.tag :: (h ++ bigEndian 2 r.port)

def RecordsBytes (env : Env) : List Record → Bytes → Prop
  | [], x => x = []
  | r :: rs, x => ∃ y z, RecordBytes env r y ∧ RecordsBytes env rs z ∧ x = y ++ z

theorem index_ok_iff (b : UInt8) :
    index buf offset = .ok b ↔ buf.drop offset = b :: buf.drop (offset + 1) := by
  unfold index
  constructor
  · intro read
    split at read
    · rename_i found
      cases read
      exact drop_of_getElem? found
    · cases read
  · intro here
    rw [getElem?_of_drop here]

theorem unpack_address_ok_iff (family : Family) (host : Text) :
    unpackAddress env family buf offset = .ok (host, next) ↔
      ∃ x, (x.length = family.width ∧ host = env.inet.ntop family x) ∧
        buf.drop offset = x ++ buf.drop next ∧ next = offset + x.length := by
  unfold unpackAddress
  constructor
  · intro read
    split at read
    · rename_i whole
      cases read
      refine ⟨_, ⟨whole, rfl⟩, ?_, by rw [whole]⟩
      exact drop_eq_slice buf offset family.width
    · cases read
  · intro ⟨_, ⟨size, same⟩, here, after⟩
    rw [← size, slice_of_drop here, if_pos rfl, same, after]

theorem unpack_name_ok_iff (host : Text) (within : next ≤ buf.length) :
    unpackName buf offset = .ok (host, next) ↔
      ∃ x, ((utf8 host).length < 256 ∧ x = UInt8.ofNat (utf8 host).length :: utf8 host) ∧
        buf.drop offset = x ++ buf.drop next ∧ next = offset + x.length := by
  unfold unpackName
  constructor
  · intro read
    obtain ⟨size, first, after⟩ := except_bind_ok read
    split at after
    · cases after
    · rename_i decoded
      cases after
      have text := decode_within_sound decoded
      have whole := length_slice buf (offset + 1) size.toNat
      have exact_size : (utf8 host).length = size.toNat := by
        rw [text, whole]
        omega
      have small := size.toNat_lt
      refine ⟨size :: utf8 host, ⟨by omega, by rw [exact_size, UInt8.ofNat_toNat]⟩, ?_, ?_⟩
      · rw [(index_ok_iff size).mp first, text, cons_append]
        exact congrArg _ (drop_eq_slice buf (offset + 1) size.toNat)
      · rw [length_cons, exact_size]
        omega
  · intro ⟨x, ⟨_, same⟩, here, after⟩
    subst same
    have size : (UInt8.ofNat (utf8 host).length).toNat = (utf8 host).length := by
      rw [UInt8.toNat_ofNat']
      omega
    have behind : buf.drop (offset + 1) = utf8 host ++ buf.drop next :=
      drop_of_drop (x := [UInt8.ofNat (utf8 host).length]) here
    have first : index buf offset = .ok (UInt8.ofNat (utf8 host).length) := by
      rw [index_ok_iff, behind]
      exact here
    rw [first]
    change (match decodeUtf8 (slice buf (offset + 1) (UInt8.ofNat (utf8 host).length).toNat) with
      | none => _
      | some host => _) = _
    rw [size, slice_of_drop behind, decode_utf8, after, length_cons]
    change Except.ok (host, _) = _
    congr 2
    omega

theorem unpack_host_ok_iff (kind : Kind) (host : Text) (within : next ≤ buf.length) :
    unpackHost env buf offset kind = .ok (host, next) ↔
      ∃ x, HostBytes env host x kind ∧ buf.drop offset = x ++ buf.drop next ∧
        next = offset + x.length := by
  cases kind with
  | directV4 => exact unpack_address_ok_iff .v4 host
  | directV6 => exact unpack_address_ok_iff .v6 host
  | rendezvous => exact unpack_name_ok_iff host within

theorem unpack_half_ok_iff (port : Nat) : unpackHalf buf offset = .ok port ↔
      port < 65536 ∧ buf.drop offset = bigEndian 2 port ++ buf.drop (offset + 2) := by
  unfold unpackHalf
  constructor
  · intro read
    split at read
    · rename_i whole
      cases read
      have back := bigEndian_ofBigEndian (slice buf offset 2)
      have bound := ofBigEndian_lt (slice buf offset 2)
      rw [whole] at back bound
      rw [back]
      exact ⟨bound, drop_eq_slice buf offset 2⟩
    · cases read
  · intro ⟨small, here⟩
    have size := length_bigEndian 2 port
    have same := slice_of_drop here
    rw [size] at same
    rw [same, if_pos size, ofBigEndian_bigEndian]
    exact congrArg _ (Nat.mod_eq_of_lt small)

theorem of_tag_iff (kind : Kind) (tag : UInt8) : Kind.ofTag tag = some kind ↔ tag = kind.tag := by
  unfold Kind.ofTag
  cases kind with
  | directV4 | directV6 | rendezvous => constructor <;> intro same <;> grind [Kind.tag]

theorem unpack_one_ok_iff (r : Record) : unpackOne env buf offset = .ok (r, next) ↔
      ∃ x, RecordBytes env r x ∧ buf.drop offset = x ++ buf.drop next ∧
        next = offset + x.length ∧ next ≤ buf.length := by
  constructor
  · intro read
    obtain ⟨tag, first, afterTag⟩ := except_bind_ok read
    split at afterTag
    · cases afterTag
    · rename_i kind known
      obtain ⟨⟨host, behind⟩, hostRead, afterHost⟩ := except_bind_ok afterTag
      obtain ⟨port, portRead, same⟩ := except_bind_ok afterHost
      cases same
      obtain ⟨small, portHere⟩ := (unpack_half_ok_iff port).mp portRead
      have room : behind + 2 ≤ buf.length := by
        have sizes := congrArg List.length portHere
        rw [length_drop, length_append, length_bigEndian, length_drop] at sizes
        omega
      obtain ⟨h, bytes, hostHere, _⟩ :=
        (unpack_host_ok_iff kind host (by omega)).mp hostRead
      refine ⟨kind.tag :: (h ++ bigEndian 2 port), ⟨h, bytes, small, rfl⟩, ?_, ?_, room⟩
      · rw [(index_ok_iff tag).mp first, (of_tag_iff kind tag).mp known, hostHere, portHere]
        simp
      · rw [length_cons, length_append, length_bigEndian]
        omega
  · intro ⟨x, ⟨h, bytes, small, same⟩, here, moved, _⟩
    subst same
    have width := length_bigEndian 2 r.port
    have afterTag : buf.drop (offset + 1) = h ++ (bigEndian 2 r.port ++ buf.drop next) := by
      rw [← append_assoc]
      exact drop_of_drop (x := [r.kind.tag]) here
    have afterHost := drop_of_drop afterTag
    have position : offset + 1 + h.length + 2 = next := by
      rw [moved, length_cons, length_append, width]
      omega
    have first : index buf offset = .ok r.kind.tag := by
      rw [index_ok_iff, afterTag, here, cons_append, append_assoc]
    have hostRead : unpackHost env buf (offset + 1) r.kind =
        .ok (r.host, offset + 1 + h.length) := by
      rw [unpack_host_ok_iff r.kind r.host (by omega)]
      exact ⟨h, bytes, afterTag.trans (congrArg _ afterHost.symm), rfl⟩
    have portRead : unpackHalf buf (offset + 1 + h.length) = .ok r.port := by
      rw [unpack_half_ok_iff, position]
      exact ⟨small, afterHost⟩
    rw [unpackOne, first]
    change (match Kind.ofTag r.kind.tag with
      | none => _
      | some kind => _) = _
    rw [(of_tag_iff r.kind r.kind.tag).mpr rfl]
    change (unpackHost env buf (offset + 1) r.kind >>= _) = _
    rw [hostRead]
    change (unpackHalf buf (offset + 1 + h.length) >>= _) = _
    rw [portRead, ← position]
    rfl

theorem unpack_endpoints_ok_iff (count : Nat) (records : List Record)
    (within : offset ≤ buf.length) : unpackEndpoints env buf offset count = .ok (records, next) ↔
      records.length = count ∧ ∃ x, RecordsBytes env records x ∧
        buf.drop offset = x ++ buf.drop next ∧ next = offset + x.length ∧ next ≤ buf.length := by
  induction count generalizing offset records with
  | zero =>
    constructor
    · intro read
      cases read
      exact ⟨rfl, [], rfl, rfl, rfl, within⟩
    · intro ⟨empty, _, bytes, _, moved, _⟩
      cases length_eq_zero_iff.mp empty
      cases bytes
      rw [moved]
      rfl
  | succ count ih =>
    constructor
    · intro read
      obtain ⟨⟨r, _⟩, first, after⟩ := except_bind_ok read
      obtain ⟨⟨rs, _⟩, later, same⟩ := except_bind_ok after
      cases same
      obtain ⟨y, one, here, _, room⟩ := (unpack_one_ok_iff r).mp first
      obtain ⟨size, z, bytes, there, _, bound⟩ := (ih rs room).mp later
      refine ⟨congrArg Nat.succ size, y ++ z, ⟨y, z, one, bytes, rfl⟩, ?_, ?_, bound⟩
      · rw [here, there, append_assoc]
      · rw [length_append]
        omega
    · intro ⟨size, _, bytes, here, moved, bound⟩
      cases records with
      | nil => cases size
      | cons r rs =>
        obtain ⟨y, z, one, others, rfl⟩ := bytes
        rw [append_assoc] at here
        rw [length_append] at moved
        have behind := drop_of_drop here
        have first : unpackOne env buf offset = .ok (r, offset + y.length) :=
          (unpack_one_ok_iff r).mpr ⟨y, one, here.trans (congrArg _ behind.symm), rfl, by omega⟩
        have later := (ih rs (by omega)).mpr ⟨Nat.succ.inj size, z, others, behind, by omega, bound⟩
        rw [unpackEndpoints, first]
        change (unpackEndpoints env buf (offset + y.length) count >>= _) = _
        rw [later]
        rfl

end Records

/-! ## The plaintext -/

section Plaintext
variable {env : Env} {p : Bytes} {publicKey signed signature rest : Bytes} {records : List Record}
  {createdAt : Nat} {payload : LinkPayload}

structure Layout (env : Env) (p publicKey : Bytes) (records : List Record) (createdAt : Nat)
    (signed signature rest : Bytes) : Prop where
  key : publicKey.length = publicKeyLen
  count : records.length < 256
  time : createdAt < 2 ^ 32
  sized : signature.length = signatureLen
  fields : ∃ x, RecordsBytes env records x ∧
    signed = publicKey ++ UInt8.ofNat records.length :: (x ++ bigEndian 4 createdAt)
  whole : p = signed ++ (signature ++ rest)

theorem read_signed_of_layout
    (layout : Layout env p publicKey records createdAt signed signature rest)
    {offset : Nat} (position : offset + 4 = signed.length) : readSigned env p records offset =
      if env.ed25519.verify publicKey signature (linkSignDomain ++ signed) then do
        let endpoints ← toEndpoints (env.sha256 publicKey) createdAt records
        return ⟨env.sha256 publicKey, publicKey, endpoints, createdAt⟩
      else .error (.family .signature) := by
  obtain ⟨x, -, same⟩ := layout.fields
  have size : p.length = signed.length + (64 + rest.length) := by
    rw [layout.whole, length_append, length_append, layout.sized]
    rfl
  have keyHere : p.take publicKeyLen = publicKey := by
    rw [layout.whole, same, append_assoc, ← layout.key, take_left]
  have width := length_bigEndian 4 createdAt
  have timeAt : offset = (publicKey ++ UInt8.ofNat records.length :: x).length := by
    have total := congrArg List.length same
    simp only [length_append, length_cons, width] at total ⊢
    omega
  have timeHere : p.drop offset = bigEndian 4 createdAt ++ (signature ++ rest) := by
    rw [layout.whole, same, timeAt, ← cons_append, ← append_assoc publicKey,
      append_assoc, drop_left]
  have timeBytes := slice_of_drop timeHere
  have signatureBytes := slice_of_drop (drop_of_drop timeHere)
  have signedBytes : p.take (offset + 4) = signed := by
    rw [position, layout.whole, take_left]
  rw [width] at timeBytes signatureBytes
  rw [layout.sized] at signatureBytes
  have small : createdAt % 256 ^ 4 = createdAt := Nat.mod_eq_of_lt layout.time
  unfold readSigned
  rw [if_neg (by rw [size]; unfold createdAtLen signatureLen; omega)]
  simp only [createdAtLen, keyHere, timeBytes, signatureBytes, signedBytes, ofBigEndian_bigEndian,
    small]

theorem read_plaintext_of_layout
    (layout : Layout env p publicKey records createdAt signed signature rest) :
    readPlaintext env p =
      if env.ed25519.verify publicKey signature (linkSignDomain ++ signed) then do
        let endpoints ← toEndpoints (env.sha256 publicKey) createdAt records
        return ⟨env.sha256 publicKey, publicKey, endpoints, createdAt⟩
      else .error (.family .signature) := by
  obtain ⟨x, bytes, same⟩ := layout.fields
  have width := length_bigEndian 4 createdAt
  have signedSize : signed.length = 33 + x.length + 4 := by
    rw [same, length_append, length_cons, length_append, layout.key, width]
    unfold publicKeyLen
    omega
  have size : p.length = signed.length + (64 + rest.length) := by
    rw [layout.whole, length_append, length_append, layout.sized]
    rfl
  have behindKey : p.drop 32 = UInt8.ofNat records.length ::
      (x ++ (bigEndian 4 createdAt ++ (signature ++ rest))) := by
    have key : publicKey.length = 32 := layout.key
    rw [layout.whole, same, append_assoc, ← key, drop_left, cons_append,
      append_assoc]
  have behindCount : p.drop 33 = x ++ (bigEndian 4 createdAt ++ (signature ++ rest)) :=
    drop_of_drop (x := [UInt8.ofNat records.length]) behindKey
  have first : index p publicKeyLen = .ok (UInt8.ofNat records.length) := by
    rw [index_ok_iff, publicKeyLen, behindCount, behindKey]
  have count : (UInt8.ofNat records.length).toNat = records.length := by
    rw [UInt8.toNat_ofNat']
    exact Nat.mod_eq_of_lt layout.count
  have unpacked : unpackEndpoints env p 33 records.length = .ok (records, 33 + x.length) := by
    rw [unpack_endpoints_ok_iff records.length records (by omega)]
    refine ⟨rfl, x, bytes, ?_, rfl, by omega⟩
    rw [behindCount, drop_of_drop behindCount]
  unfold readPlaintext
  rw [if_neg (by rw [size]; unfold publicKeyLen createdAtLen signatureLen; omega), first]
  change ((unpackEndpoints env p 33 (UInt8.ofNat records.length).toNat).mapError Raised.asFormat
    >>= _) = _
  rw [count, unpacked]
  exact read_signed_of_layout layout signedSize.symm

theorem map_error_ok {ε ε' α : Type} {x : Except ε α} {f : ε → ε'} {a : α}
    (read : x.mapError f = .ok a) : x = .ok a := by
  cases x with
  | ok =>
    cases read
    rfl
  | error => cases read

theorem layout_of_read (read : readPlaintext env p = .ok payload) : ∃ records signed signature rest,
      Layout env p payload.publicKey records payload.createdAt signed signature rest ∧
      env.ed25519.verify payload.publicKey signature (linkSignDomain ++ signed) = true ∧
      toEndpoints (env.sha256 payload.publicKey) payload.createdAt records =
        .ok payload.endpoints := by
  unfold readPlaintext at read
  split at read
  · cases read
  · rename_i long
    unfold publicKeyLen at long
    obtain ⟨count, first, after⟩ := except_bind_ok read
    obtain ⟨⟨records, offset⟩, unpacked, later⟩ := except_bind_ok after
    obtain ⟨size, x, bytes, here, moved, _⟩ :=
      (unpack_endpoints_ok_iff count.toNat records (by unfold publicKeyLen; omega)).mp
        (map_error_ok unpacked)
    have behindKey := (index_ok_iff count).mp first
    change readSigned env p records offset = _ at later
    unfold readSigned at later
    dsimp only at later
    split at later
    · cases later
    · rename_i room
      unfold createdAtLen signatureLen at room
      split at later
      · rename_i verified
        obtain ⟨_, converted, same⟩ := except_bind_ok later
        cases same
        obtain ⟨timeBytes, timeBound⟩ := word_of_slice p offset 4 (by omega)
        have countByte : UInt8.ofNat records.length = count := by
          rw [size, UInt8.ofNat_toNat]
        have prefix_eq : p = p.take publicKeyLen ++
            count :: (x ++ (slice p offset 4 ++ p.drop (offset + 4))) := by
          rw [← drop_eq_slice, ← here, ← behindKey, take_append_drop]
        refine ⟨records, p.take (offset + 4), slice p (offset + 4) signatureLen,
          p.drop (offset + 4 + signatureLen), ⟨?_, ?_, ?_, ?_, ⟨x, bytes, ?_⟩, ?_⟩, verified,
          converted⟩
        · rw [length_take]
          unfold publicKeyLen at moved ⊢
          omega
        · have small := count.toNat_lt
          omega
        · exact timeBound
        · rw [length_slice]
          unfold signatureLen
          omega
        · change p.take (offset + 4) = p.take publicKeyLen ++
            UInt8.ofNat records.length :: (x ++ bigEndian 4 (ofBigEndian (slice p offset 4)))
          rw [timeBytes, countByte]
          refine append_cancel_right (?_ : _ ++ p.drop (offset + 4) = _)
          rw [take_append_drop, append_assoc, cons_append, append_assoc]
          exact prefix_eq
        · rw [← drop_eq_slice, take_append_drop]
      · cases later

end Plaintext

/-! ## Endpoints and records -/

section Endpoints
variable {env : Env} {e : Endpoint} {r : Record} {x : Bytes} {es : List Endpoint}
  {records : List Record} {deviceId : Text} {createdAt : Nat}

def Matches (e : Endpoint) (r : Record) : Prop :=
  r.kind = e.kind ∧ e.host = ofText r.host ∧ r.port = e.port

theorem pack_host_of_bytes (lawful : env.inet.Lawful) (host : Text) (kind : Kind)
    (bytes : HostBytes env host x kind) : packHost env kind (ofText host) = .ok x := by
  have address (family : Family) (width : x.length = family.width)
      (same : host = env.inet.ntop family x) : packAddress env family (ofText host) = .ok x := by
    rw [packAddress, to_text_of_text]
    dsimp only
    rw [same, if_neg (lawful.clean family x width), lawful.back family x width]
  cases kind with
  | directV4 => exact address .v4 bytes.1 bytes.2
  | directV6 => exact address .v6 bytes.1 bytes.2
  | rendezvous =>
    obtain ⟨small, rfl⟩ := bytes
    rw [packHost, packName, to_text_of_text]
    dsimp only
    rw [if_neg (by unfold maxRendezvousHostLen; omega), packByte, if_pos small]
    rfl

theorem pack_one_of_bytes (lawful : env.inet.Lawful) (same : Matches e r)
    (bytes : RecordBytes env r x) : packOneEndpoint env e = .ok x := by
  obtain ⟨_, host, small, rfl⟩ := bytes
  obtain ⟨kind, text, port⟩ := same
  rw [packOneEndpoint, text, ← kind, pack_host_of_bytes lawful r.host r.kind host]
  change (packHalf e.port >>= _) = _
  rw [← port, packHalf, if_pos small]
  rfl

theorem pack_endpoints_of_bytes (lawful : env.inet.Lawful) (same : List.Forall₂ Matches es records)
    (bytes : RecordsBytes env records x) : packEndpoints env es = .ok x := by
  induction same generalizing x with
  | nil =>
    cases bytes
    rfl
  | cons first _ ih =>
    obtain ⟨_, _, one, others, rfl⟩ := bytes
    rw [packEndpoints, pack_one_of_bytes lawful first one]
    change (packEndpoints env _ >>= _) = _
    rw [ih others]
    rfl

def Endpoint.announced (deviceId : Text) (createdAt : Nat) (e : Endpoint) : Endpoint :=
  { e with deviceId := deviceId, updatedAt := .finite createdAt }

theorem to_endpoint_of_matches (same : Matches e r) :
    r.toEndpoint deviceId createdAt = .ok (e.announced deviceId createdAt) := by
  obtain ⟨_, kind, host, port, _, hostRequired, portRange⟩ := e
  obtain ⟨kind', host', port'⟩ := r
  obtain ⟨rfl, rfl, rfl⟩ : kind' = kind ∧ host = ofText host' ∧ port' = port := same
  rw [Record.toEndpoint, dif_pos hostRequired, dif_pos portRange]
  rfl

theorem matches_of_to_endpoint (read : r.toEndpoint deviceId createdAt = .ok e) : Matches e r := by
  unfold Record.toEndpoint at read
  split at read
  · split at read
    · cases read
      exact ⟨rfl, rfl, rfl⟩
    · cases read
  · cases read

theorem to_endpoints_of_matches (same : List.Forall₂ Matches es records) :
    toEndpoints deviceId createdAt records =
      .ok (es.map (Endpoint.announced deviceId createdAt)) := by
  induction same with
  | nil => rfl
  | cons first _ ih =>
    rw [toEndpoints, to_endpoint_of_matches first]
    change (toEndpoints deviceId createdAt _ >>= _) = _
    rw [ih]
    rfl

theorem matches_of_to_endpoints (read : toEndpoints deviceId createdAt records = .ok es) :
    List.Forall₂ Matches es records := by
  induction records generalizing es with
  | nil =>
    cases read
    exact .nil
  | cons _ _ ih =>
    obtain ⟨_, one, after⟩ := except_bind_ok read
    obtain ⟨_, later, same⟩ := except_bind_ok after
    cases same
    exact .cons (matches_of_to_endpoint one) (ih later)

/-- An IP host is written as inet_ntop writes it; a rendezvous host has at most 255 bytes. -/
def Endpoint.Canonical (env : Env) (e : Endpoint) : Prop :=
  ∃ host x, e.host = ofText host ∧ HostBytes env host x e.kind

theorem records_of_canonical (canonical : ∀ e ∈ es, e.Canonical env) :
    ∃ records x, List.Forall₂ Matches es records ∧ RecordsBytes env records x := by
  induction es with
  | nil => exact ⟨[], [], .nil, rfl⟩
  | cons e _ ih =>
    obtain ⟨records, x, same, bytes⟩ :=
      ih (fun e member => canonical e (mem_cons_of_mem _ member))
    obtain ⟨host, h, text, hostBytes⟩ := canonical e mem_cons_self
    have port := e.portRange
    refine ⟨⟨e.kind, host, e.port⟩ :: records, _, .cons ⟨rfl, text, rfl⟩ same,
      _, x, ⟨h, hostBytes, by change e.port < 65536; omega, rfl⟩, bytes, rfl⟩

end Endpoints

/-! ## What is written is read back -/

section RoundTrip
variable {env : Env} {p x : Bytes} {es : List Endpoint} {records : List Record}
  {createdAt : Nat} {payload : LinkPayload}

theorem pack_word_ok (early : createdAt < 2 ^ 32) :
    packWord createdAt = .ok (bigEndian 4 createdAt) := by
  have range : (0 : Int) ≤ createdAt ∧ (createdAt : Int) < 2 ^ 32 := by omega
  unfold packWord
  rw [if_pos range, Int.toNat_natCast]

theorem pack_signed_of_bytes (publicKey : Bytes) (lawful : env.inet.Lawful)
    (same : List.Forall₂ Matches es records) (bytes : RecordsBytes env records x)
    (few : es.length < 256) (early : createdAt < 2 ^ 32) : packSigned env publicKey es createdAt =
      .ok (publicKey ++ UInt8.ofNat records.length :: (x ++ bigEndian 4 createdAt)) := by
  have count : packByte es.length = .ok [UInt8.ofNat records.length] := by
    rw [packByte, if_pos few, same.length_eq]
  have time := pack_word_ok early
  rw [packSigned, bind_of_ok (pack_endpoints_of_bytes lawful same bytes), bind_of_ok count,
    bind_of_ok time, append_assoc, append_assoc, cons_append]
  rfl

theorem open_link_of_encrypted (opens : env.aead.Opens) {pin : Str}
    (valid : validatePin pin = .ok ()) (salt nonce : Bytes) {ciphertext : Bytes}
    (saltSize : salt.length = saltLen) (nonceSize : nonce.length = nonceLen)
    (encrypted : env.aead.encrypt (env.deriveKek (pinBytes pin) salt) nonce p [] =
      some ciphertext) :
    openLink env (ofText (linkPrefix ++ b64urlEncode (salt ++ nonce ++ ciphertext))) pin =
      .ok p := by
  have split_text : ofText (linkPrefix ++ b64urlEncode (salt ++ nonce ++ ciphertext)) =
      ofText linkPrefix ++ ofText (b64urlEncode (salt ++ nonce ++ ciphertext)) := map_append
  have size : (ofText linkPrefix).length = linkPrefix.length := length_map ..
  have nonceHere : (salt ++ nonce ++ ciphertext).drop saltLen = nonce ++ ciphertext := by
    rw [append_assoc, ← saltSize, drop_left]
  have nonceBytes := slice_of_drop nonceHere
  have behind := drop_of_drop nonceHere
  rw [nonceSize] at nonceBytes behind
  rw [openLink, valid, split_text]
  simp only [bind, Except.bind]
  rw [if_pos (prefix_append _ _), ← size, drop_left, to_text_of_text, Option.bind_some,
    b64url_decode_encode]
  dsimp only
  rw [if_neg (by simp only [length_append, saltSize, nonceSize]; omega), nonceBytes, behind,
    append_assoc, ← saltSize, take_left, opens _ _ _ _ _ encrypted]

theorem records_size (bytes : RecordsBytes env records x) : x.length ≤ 259 * records.length := by
  induction records generalizing x with
  | nil =>
    cases bytes
    exact Nat.le_refl 0
  | cons r _ ih =>
    obtain ⟨_, _, ⟨h, host, _, rfl⟩, others, rfl⟩ := bytes
    have rest := ih others
    have size : h.length ≤ 256 := by
      cases kind : r.kind <;> rw [kind] at host
      · exact host.1.trans_le (by decide)
      · exact host.1.trans_le (by decide)
      · rw [host.2, length_cons]
        exact host.1
    simp only [length_append, length_cons, length_bigEndian]
    omega

/-- Where a record ends, by its tag and, of a name, its length byte. -/
def recordEnd (p : Bytes) (offset : Nat) : Nat :=
  if p[offset]? = some Kind.directV4.tag then offset + 7
  else if p[offset]? = some Kind.directV6.tag then offset + 19
  else offset + 4 + (p.getD (offset + 1) 0).toNat

def recordsEnd (p : Bytes) : Nat → Nat → Nat
  | offset, 0 => offset
  | offset, count + 1 => recordsEnd p (recordEnd p offset) count

/-- The count byte is not zero, and the plaintext ends with the signature behind the records. -/
def Exact (p : Bytes) : Prop :=
  p.getD publicKeyLen 0 ≠ 0 ∧
    p.length = recordsEnd p (publicKeyLen + 1) (p.getD publicKeyLen 0).toNat + createdAtLen +
      signatureLen

theorem records_end (bytes : RecordsBytes env records x) {offset : Nat} {rest : Bytes}
    (here : p.drop offset = x ++ rest) :
    recordsEnd p offset records.length = offset + x.length := by
  induction records generalizing x offset with
  | nil =>
    cases bytes
    rfl
  | cons r _ ih =>
    obtain ⟨_, z, ⟨h, host, _, rfl⟩, others, rfl⟩ := bytes
    have first :
        recordEnd p offset = offset + (r.kind.tag :: (h ++ bigEndian 2 r.port)).length := by
      have tag : p[offset]? = some r.kind.tag := by
        rw [← head?_drop, here]
        rfl
      unfold recordEnd
      rw [tag]
      cases kind : r.kind <;> rw [kind] at host
      · simp [host.1, Family.width, Kind.tag, length_bigEndian]
      · simp [host.1, Family.width, Kind.tag, length_bigEndian]
      · obtain ⟨short, rfl⟩ := host
        have size := congrArg (fun l => l[1]?) here
        simp only [getElem?_drop, cons_append, getElem?_cons_succ, getElem?_cons_zero] at size
        simp [Kind.tag, size, length_bigEndian, Nat.mod_eq_of_lt short]
        omega
    rw [append_assoc] at here
    rw [length_cons, recordsEnd, first, ih others (drop_of_drop here), length_append, Nat.add_assoc]

structure Sound (S : SignatureScheme) : Prop where
  verifies : ∀ k message, S.verify (S.publicKey k) (S.sign k message) message = true
  keySize : ∀ k, (S.publicKey k).length = publicKeyLen
  signatureSize : ∀ k message, (S.sign k message).length = signatureLen

/-- The receiver has the sender's key and every endpoint, in order. -/
theorem decode_create_link (env : Env) (lawful : env.inet.Lawful) (sound : Sound env.ed25519)
    (opens : env.aead.Opens)
    (encrypts : ∀ key nonce p : Bytes, p.length < 2 ^ 31 → env.aead.encrypt key nonce p [] ≠ none)
    (key : env.ed25519.PrivateKey) (endpoints : List Endpoint) (pin : Str) (createdAt : Nat)
    (salt nonce : Bytes) (valid : validatePin pin = .ok ())
    (some_endpoint : 1 ≤ endpoints.length) (few : endpoints.length ≤ 255)
    (canonical : ∀ e ∈ endpoints, e.Canonical env) (early : createdAt < 2 ^ 32)
    (saltSize : salt.length = saltLen) (nonceSize : nonce.length = nonceLen) :
    let publicKey := env.ed25519.publicKey key
    ∃ link, createLink env key endpoints pin createdAt salt nonce = .ok link ∧
      decodeLink env (ofText link) pin = .ok ⟨env.sha256 publicKey, publicKey,
        endpoints.map (Endpoint.announced (env.sha256 publicKey) createdAt), createdAt⟩ := by
  intro publicKey
  obtain ⟨records, x, same, bytes⟩ := records_of_canonical canonical
  have packed := pack_signed_of_bytes publicKey lawful same bytes (by omega) early
  generalize signedIs : publicKey ++ UInt8.ofNat records.length :: (x ++ bigEndian 4 createdAt) =
    signed at packed
  let signature := env.ed25519.sign key (linkSignDomain ++ signed)
  have built : buildPlaintext env publicKey endpoints createdAt (env.ed25519.sign key) =
      .ok (signed ++ signature) := by
    rw [buildPlaintext, if_neg (ne_nil_of_length_pos some_endpoint), packed]
    rfl
  have layout :
      Layout env (signed ++ signature) publicKey records createdAt signed signature [] := by
    refine ⟨sound.keySize key, ?_, early, sound.signatureSize key _, ⟨x, bytes, signedIs.symm⟩, ?_⟩
    · rw [← same.length_eq]
      omega
    · rw [append_nil]
  have decoded := read_plaintext_of_layout layout
  rw [if_pos (sound.verifies key _), to_endpoints_of_matches same] at decoded
  have size : (signed ++ signature).length < 2 ^ 31 := by
    have bound := records_size bytes
    have counted := same.length_eq
    have keySize : publicKey.length = 32 := sound.keySize key
    have signatureSize : signature.length = 64 := sound.signatureSize key _
    rw [← signedIs]
    simp only [length_append, length_cons, length_bigEndian]
    omega
  obtain ⟨ciphertext, encrypted⟩ := Option.ne_none_iff_exists'.mp
    (encrypts (env.deriveKek (pinBytes pin) salt) nonce _ size)
  refine ⟨linkPrefix ++ b64urlEncode (salt ++ nonce ++ ciphertext), ?_, ?_⟩
  · rw [createLink, bind_of_ok valid, bind_of_ok built, encrypted]
    rfl
  · rw [decodeLink, bind_of_ok (open_link_of_encrypted opens valid salt nonce saltSize nonceSize
      encrypted)]
    exact decoded

/-- Accepted is what create_link builds, but for what follows the signature and for no endpoints. -/
theorem read_plaintext_canonical (env : Env) (lawful : env.inet.Lawful) (p : Bytes)
    (payload : LinkPayload) (read : readPlaintext env p = .ok payload) : ∃ signed signature rest,
      packSigned env payload.publicKey payload.endpoints payload.createdAt = .ok signed ∧
      signature.length = signatureLen ∧ p = signed ++ signature ++ rest ∧
      (buildPlaintext env payload.publicKey payload.endpoints payload.createdAt
        (fun _ => signature) = .ok p ↔ Exact p) := by
  obtain ⟨records, signed, signature, rest, layout, _, converted⟩ := layout_of_read read
  obtain ⟨x, bytes, signedIs⟩ := layout.fields
  have same := matches_of_to_endpoints converted
  have packed := pack_signed_of_bytes payload.publicKey lawful same bytes
    (by rw [same.length_eq]; exact layout.count) layout.time
  rw [← signedIs] at packed
  have whole : p = signed ++ signature ++ rest := by rw [layout.whole, append_assoc]
  refine ⟨signed, signature, rest, packed, layout.sized, whole, ?_⟩
  have counted : p.getD publicKeyLen 0 = UInt8.ofNat records.length := by
    simp [whole, signedIs, getD_eq_getElem?_getD, ← layout.key]
  have number : (UInt8.ofNat records.length).toNat = records.length := by
    simp [Nat.mod_eq_of_lt layout.count]
  have behind := records_end bytes (show p.drop (publicKeyLen + 1) =
    x ++ (bigEndian 4 payload.createdAt ++ (signature ++ rest)) by
      simp [whole, signedIs, ← layout.key, drop_append])
  have filled : p.getD publicKeyLen 0 ≠ 0 ↔ payload.endpoints ≠ [] := by
    rw [counted, ← length_pos_iff, same.length_eq, Nat.pos_iff_ne_zero, ← number]
    simp [← UInt8.toNat_inj]
  have size : p.length =
      publicKeyLen + 1 + x.length + createdAtLen + signatureLen + rest.length := by
    simp [whole, signedIs, layout.key, layout.sized, length_bigEndian, createdAtLen]
    omega
  unfold Exact
  rw [filled, counted, number, behind, size, Nat.add_eq_left, length_eq_zero_iff]
  unfold buildPlaintext
  constructor
  · intro built
    split at built
    · cases built
    · rename_i filled
      rw [bind_of_ok packed] at built
      have ends : signed ++ signature ++ [] = signed ++ signature ++ rest := by
        rw [append_nil, ← whole]
        exact Except.ok.inj built
      exact ⟨filled, (append_cancel_left ends).symm⟩
  · intro ⟨filled, none_behind⟩
    rw [if_neg filled, bind_of_ok packed, whole, none_behind, append_nil]
    rfl

end RoundTrip

section Sample

/-- A decimal octet without leading zeros. -/
def readOctet (t : Text) : Option UInt8 :=
  let value := t.foldl (fun n c => 10 * n + (c.toNat - 48)) 0
  if value < 256 ∧ Nat.toDigits 10 value = t then some (UInt8.ofNat value) else none

/-- Dotted quads; IPv6 addresses as plain hexadecimal. -/
def dottedInet : Inet where
  pton
    | .v4, text =>
        match (text.splitOn '.').map readOctet with
        | [some a, some b, some c, some d] => some [a, b, c, d]
        | _ => none
    | .v6, text => Hex.decode text
  ntop
    | .v4, address => ['.'].intercalate (address.map fun b => Nat.toDigits 10 b.toNat)
    | .v6, address => Hex.encode address

theorem octet_text (b : UInt8) : readOctet (Nat.toDigits 10 b.toNat) = some b ∧
    ∀ c ∈ Nat.toDigits 10 b.toNat, c ≠ '.' ∧ c ≠ '\x00' := by
  have table : ∀ n : Fin 256, readOctet (Nat.toDigits 10 n.val) = some (UInt8.ofNat n.val) ∧
      (Nat.toDigits 10 n.val).all (fun c => c ≠ '.' && c ≠ '\x00') := by decide +kernel
  simpa using table ⟨b.toNat, b.toNat_lt⟩

theorem dotted_inet_lawful : dottedInet.Lawful where
  back
    | .v4, [a, b, c, d], _ => by
        have parts : ∀ t ∈ [a, b, c, d].map fun b => Nat.toDigits 10 b.toNat, '.' ∉ t := by
          intro _ member dot
          obtain ⟨b, _, rfl⟩ := mem_map.mp member
          exact ((octet_text b).2 _ dot).1 rfl
        simp only [dottedInet]
        rw [splitOn_intercalate '.' parts (by simp)]
        simp [octet_text]
    | .v6, address, _ => Hex.decode_encode address
  some
    | .v4, [a, b, c, d], _ => by simp [dottedInet, List.intercalate]
    | .v6, a :: rest, _ => by simp [dottedInet, Hex.encode]
  clean
    | .v4, [a, b, c, d], _ => by
        intro member
        simp [dottedInet, List.intercalate] at member
        rcases member with member | member | member | member <;>
          exact ((octet_text _).2 _ member).2 rfl
    | .v6, address, _ => by
        intro member
        obtain ⟨b, _, digit⟩ := mem_flatMap.mp member
        have high := Hex.value_digit (show b.toNat / 16 < 16 by have := b.toNat_lt; omega)
        have low := Hex.value_digit (show b.toNat % 16 < 16 by omega)
        rcases mem_pair.mp digit with same | same
        · rw [← same] at high
          cases high
        · rw [← same] at low
          cases low

def shortSignatures : SignatureScheme where
  PrivateKey := {k : Bytes // k.length = 32}
  publicKey k := k.val
  sign k message := k.val ++ (message ++ List.replicate 32 0).take 32
  verify pub sig message := decide (sig = pub ++ (message ++ List.replicate 32 0).take 32)

theorem short_signatures_sound : Sound shortSignatures where
  verifies k message := decide_eq_true rfl
  keySize k := k.property
  signatureSize k message := by
    have size : (k.val ++ (message ++ List.replicate 32 0).take 32).length = 64 := by
      simp only [length_append, length_take, length_replicate, k.property]
      omega
    exact size

def plainEnv : Env where
  ed25519 := shortSignatures
  sha256 := hexHead
  packDouble := Primitives.sample.packDouble
  deriveKek secret salt := secret ++ salt
  aead := Aead.labelled
  inet := dottedInet

def sender : plainEnv.ed25519.PrivateKey := Connectivity.announcer

def pin : Str := ofText "123456"

def endpointAt (kind : Kind) (host : Str) (filled : host ≠ []) : Endpoint :=
  ⟨[], kind, host, 5000, .finite 0, filled, by decide⟩

def twoEndpoints : List Endpoint :=
  [endpointAt .directV4 (ofText "192.168.1.5") (by decide),
    endpointAt .rendezvous (ofText "relay") (by decide)]

theorem two_endpoints_decoded : ∃ link,
    createLink plainEnv sender twoEndpoints pin 7 (List.replicate 16 0) (List.replicate 12 0) =
      .ok link ∧
    decodeLink plainEnv (ofText link) pin = .ok ⟨hexHead sender.val, sender.val,
      twoEndpoints.map (Endpoint.announced (hexHead sender.val) 7), 7⟩ := by
  refine decode_create_link plainEnv dotted_inet_lawful short_signatures_sound Aead.labelled_opens
    (fun _ _ _ _ => Option.some_ne_none _) sender twoEndpoints pin 7 _ _ rfl (by decide) (by decide)
    ?_ (by decide) rfl rfl
  intro _ member
  rcases mem_cons.mp member with rfl | member
  · exact ⟨"192.168.1.5", [192, 168, 1, 5], rfl, rfl, by decide⟩
  · rw [mem_singleton.mp member]
    exact ⟨"relay", _, rfl, by decide, rfl⟩

theorem plaintext_sealed (p : Bytes) : ∃ link, openLink plainEnv link pin = .ok p :=
  ⟨_, open_link_of_encrypted Aead.labelled_opens rfl (List.replicate 16 0) (List.replicate 12 0) rfl
    rfl rfl⟩

theorem signed_read (records : List Record) {x : Bytes}
    (bytes : RecordsBytes plainEnv records x) (few : records.length < 256) (rest : Bytes) :
    let signed := sender.val ++ UInt8.ofNat records.length :: (x ++ bigEndian 4 7)
    readPlaintext plainEnv
        (signed ++ (shortSignatures.sign sender (linkSignDomain ++ signed) ++ rest)) = do
      let endpoints ← toEndpoints (hexHead sender.val) 7 records
      return ⟨hexHead sender.val, sender.val, endpoints, 7⟩ := by
  intro signed
  have layout : Layout plainEnv _ sender.val records 7 signed
      (shortSignatures.sign sender (linkSignDomain ++ signed)) rest :=
    ⟨rfl, few, by decide, short_signatures_sound.signatureSize sender _, ⟨x, bytes, rfl⟩, rfl⟩
  have verified : plainEnv.ed25519.verify sender.val
      (shortSignatures.sign sender (linkSignDomain ++ signed)) (linkSignDomain ++ signed) = true :=
    short_signatures_sound.verifies sender _
  rw [read_plaintext_of_layout layout, if_pos verified]
  rfl

theorem sealed_decoded {p : Bytes} {result : Except Raised LinkPayload}
    (read : readPlaintext plainEnv p = result) :
    ∃ link, openLink plainEnv link pin = .ok p ∧ decodeLink plainEnv link pin = result := by
  obtain ⟨link, opened⟩ := plaintext_sealed p
  exact ⟨link, opened, by rw [decodeLink, bind_of_ok opened, read]⟩

theorem relay_record_bytes (port : Nat) (range : port < 65536) :
    RecordsBytes plainEnv [⟨.rendezvous, ['r'], port⟩] (2 :: 1 :: 114 :: bigEndian 2 port) :=
  ⟨_, [], ⟨[1, 114], ⟨(by decide : (utf8 ['r']).length < 256), rfl⟩, range, rfl⟩, rfl,
    (append_nil _).symm⟩

def relay : Endpoint := endpointAt .rendezvous (ofText ['r']) (by decide)

def relayAnnounced : List Endpoint := [relay.announced (hexHead sender.val) 7]

theorem relay_read (rest : Bytes) : ∃ signed signature, signature.length = signatureLen ∧
    packSigned plainEnv sender.val relayAnnounced (7 : Nat) = .ok signed ∧
    readPlaintext plainEnv (signed ++ (signature ++ rest)) =
      .ok ⟨hexHead sender.val, sender.val, relayAnnounced, 7⟩ := by
  have bytes := relay_record_bytes 5000 (by decide)
  have same : List.Forall₂ Matches relayAnnounced [⟨.rendezvous, ['r'], 5000⟩] :=
    .cons ⟨rfl, rfl, rfl⟩ .nil
  have read := signed_read _ bytes (by decide) rest
  rw [to_endpoints_of_matches same] at read
  exact ⟨_, _, short_signatures_sound.signatureSize sender _,
    pack_signed_of_bytes sender.val dotted_inet_lawful same bytes (by decide) (by decide), read⟩

theorem read_relay_canonical : ∃ p payload, readPlaintext plainEnv p = .ok payload ∧
    ∃ signed signature rest,
      packSigned plainEnv payload.publicKey payload.endpoints payload.createdAt = .ok signed ∧
      signature.length = signatureLen ∧ p = signed ++ signature ++ rest ∧
      (buildPlaintext plainEnv payload.publicKey payload.endpoints payload.createdAt
        (fun _ => signature) = .ok p ↔ Exact p) := by
  obtain ⟨_, _, _, _, read⟩ := relay_read []
  exact ⟨_, _, read, read_plaintext_canonical plainEnv dotted_inet_lawful _ _ read⟩

/-- A link with a byte behind the signature, and a link without endpoints, are decoded. -/
theorem links_not_canonical : (∃ link p payload, openLink plainEnv link pin = .ok p ∧
      decodeLink plainEnv link pin = .ok payload ∧
      ∀ sign : Bytes → Bytes, (∀ message, (sign message).length = signatureLen) →
        buildPlaintext plainEnv payload.publicKey payload.endpoints payload.createdAt sign ≠
          .ok p) ∧
    ∃ link p payload, openLink plainEnv link pin = .ok p ∧
      decodeLink plainEnv link pin = .ok payload ∧ payload.endpoints = [] ∧
      ∀ sign, buildPlaintext plainEnv payload.publicKey payload.endpoints payload.createdAt sign ≠
        .ok p := by
  constructor
  · obtain ⟨_, _, signatureSize, packed, read⟩ := relay_read [0]
    obtain ⟨link, opened, decoded⟩ := sealed_decoded read
    refine ⟨link, _, _, opened, decoded, ?_⟩
    intro _ sized built
    have filled : relayAnnounced ≠ [] := cons_ne_nil _ _
    rw [buildPlaintext, if_neg filled, bind_of_ok packed] at built
    have sizes := congrArg List.length (append_cancel_left (Except.ok.inj built))
    rw [sized, length_append, signatureSize] at sizes
    cases sizes
  · obtain ⟨link, opened, decoded⟩ := sealed_decoded (signed_read [] rfl (by decide) [])
    refine ⟨link, _, _, opened, decoded, rfl, ?_⟩
    intro _ built
    cases built

end Sample

end Peerc.Link
