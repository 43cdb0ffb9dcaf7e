import Peerc.Lib.Decoded
import Peerc.Lib.Slices
import Peerc.Lib.Table
import Peerc.Primitives

/-!
Discovery packets and the registry of peers. Of what json.loads raises only JSONDecodeError is
caught, and a name is looked at before it is cut to 64 characters.
-/
namespace Peerc.Discovery
open List Decoded Slices

inductive Key where
  | type | version | deviceId | publicKey | name | model | tcpPort | reply
  | other (name : Str)
  deriving DecidableEq

abbrev Value := Decoded.Value Key

inductive LoadsError where
  | jsonDecodeError | recursionError

structure Libraries where
  loads : Text → Except LoadsError Value
  /-- b64decode with validate=True; none is ValueError. -/
  b64decode : Str → Option Bytes
  sha256Hex : Bytes → Text

structure Peer where
  name : Str
  ip : Str
  tcpPort : Int
  publicKey : Bytes
  model : Str
  lastSeen : Time

/-- The peers by peer_id, the peers on_peer_new was called for, and the addresses replied to. -/
structure PeerRegistry where
  peers : Dict Str Peer
  announced : List Str
  replies : List Str

def protocolVersion : Nat := 2

structure Announce where
  deviceId : Str
  name : Str
  model : Str
  tcpPort : Int
  publicKey : Bytes
  reply : Bool

def Blank (s : Str) : Prop := ∀ c ∈ s, isSpace c = true

instance (s : Str) : Decidable (Blank s) := List.decidableBAll _ s

def displayName (ip : Str) (sent : Option Value) : Str :=
  (((sent.bind Value.str?).filter (fun s => ¬ Blank s)).getD ip).take 64

def nonEmptyStr (v : Option Value) : Option Str := (v.bind Value.str?).filter (fun s => s ≠ [])

variable (lib : Libraries)

/-- That a device_id which is not the hash of the key is also logged is left out. -/
def checkPacket (self : Str) (msg : List (Key × Value)) : Option (Str × Bytes × Int) := do
  let kind ← msg.lookup .type
  guard (kind.str? = some (ofText "announce".toList))
  let version ← msg.lookup .version
  guard (version.equalsNat protocolVersion)
  let deviceId ← nonEmptyStr (msg.lookup .deviceId)
  let key ← nonEmptyStr (msg.lookup .publicKey)
  let publicKey ← lib.b64decode key
  guard (publicKey.length = 32 ∧ ofText (lib.sha256Hex publicKey) = deviceId ∧ deviceId ≠ self)
  let tcpPort ← (msg.lookup .tcpPort).bind Value.int?
  guard (0 < tcpPort ∧ tcpPort < 65536)
  some (deviceId, publicKey, tcpPort)

def readAnnounce (self ip : Str) : Value → Option Announce
  | .dict msg => (checkPacket lib self msg).map (fun (deviceId, publicKey, tcpPort) =>
      ⟨deviceId, displayName ip (msg.lookup .name),
        (((msg.lookup .model).bind Value.str?).getD []).take 64, tcpPort, publicKey,
        ((msg.lookup .reply).map Value.truthy).getD true⟩)
  | _ => none

def upsert (r : PeerRegistry) (a : Announce) (ip : Str) (now : Time) : PeerRegistry :=
  match r.peers.get a.deviceId with
  | none =>
      { r with
        peers := r.peers.set a.deviceId ⟨a.name, ip, a.tcpPort, a.publicKey, a.model, now⟩
        announced := r.announced ++ [a.deviceId] }
  | some old =>
      { r with
        peers := r.peers.set a.deviceId ⟨a.name, ip, a.tcpPort,
          if a.publicKey = [] then old.publicKey else a.publicKey,
          if a.model = [] then old.model else a.model, now⟩ }

def handlePacket (self : Str) (r : PeerRegistry) (data : Bytes) (ip : Str) (now : Time) :
    Except LoadsError PeerRegistry :=
  match decodeUtf8 data with
  | none => .ok r
  | some text =>
      match lib.loads text with
      | .error .jsonDecodeError => .ok r
      | .error .recursionError => .error .recursionError
      | .ok value =>
          match readAnnounce lib self ip value with
          | none => .ok r
          | some a =>
              let r := upsert r a ip now
              .ok { r with replies := if a.reply then r.replies ++ [ip] else r.replies }

def TooDeep (data : Bytes) : Prop :=
  ∃ text, decodeUtf8 data = some text ∧ lib.loads text = .error .recursionError

/-- A packet that is accepted with a name whose first 64 characters are blank but not all. -/
def PaddedName (self ip : Str) (data : Bytes) : Prop :=
  ∃ text msg a s, decodeUtf8 data = some text ∧ lib.loads text = .ok (.dict msg) ∧
    readAnnounce lib self ip (.dict msg) = some a ∧ msg.lookup .name = some (.str s) ∧
    ¬ Blank s ∧ Blank (s.take 64)

theorem display_name_blank {ip : Str} (shown : ¬ Blank (ip.take 64)) (sent : Option Value) :
    Blank (displayName ip sent) ↔ ∃ s, sent = some (.str s) ∧ ¬ Blank s ∧ Blank (s.take 64) := by
  unfold displayName
  cases named : (sent.bind Value.str?).filter (fun s => ¬ Blank s) with
  | none =>
    refine ⟨fun blank => absurd blank shown, ?_⟩
    rintro ⟨s, rfl, inked, _⟩
    simp [Value.str?, inked] at named
  | some s =>
    obtain ⟨text, inked⟩ := Option.filter_eq_some_iff.mp named
    obtain ⟨v, rfl, text⟩ := Option.bind_eq_some_iff.mp text
    cases v with
    | str t =>
      cases text
      constructor
      · intro blank
        exact ⟨s, rfl, of_decide_eq_true inked, blank⟩
      · rintro ⟨_, same, _, blank⟩
        cases same
        exact blank
    | _ => cases text

theorem read_announce_name {lib : Libraries} {self ip : Str} {v : Value} {a : Announce}
    (read : readAnnounce lib self ip v = some a) :
    ∃ msg, v = .dict msg ∧ a.name = displayName ip (msg.lookup .name) := by
  cases v with
  | dict msg =>
    refine ⟨msg, rfl, ?_⟩
    obtain ⟨_, _, rfl⟩ := Option.map_eq_some_iff.mp read
    rfl
  | _ => cases read

theorem upsert_name {r : PeerRegistry} {a : Announce} {ip id : Str} {now : Time} {peer : Peer}
    (found : (upsert r a ip now).peers.get id = some peer) :
    (id = a.deviceId ∧ peer.name = a.name) ∨ r.peers.get id = some peer := by
  unfold upsert at found
  split at found <;>
  · rw [Dict.get_set] at found
    split at found
    · rename_i same
      cases found
      exact .inl ⟨same, rfl⟩
    · exact .inr found

/-- A packet is harmless exactly if it is not nested too deep and its name is not padded. -/
theorem discovery_survives_iff {ip : Str} (shown : ¬ Blank (ip.take 64)) (lib : Libraries)
    (self : Str) (data : Bytes) (now : Time) :
    (∀ r, ∃ r', handlePacket lib self r data ip now = .ok r' ∧ ∀ id peer,
        r'.peers.get id = some peer → (r.peers.get id).map Peer.name ≠ some peer.name →
        ¬ Blank peer.name) ↔
      ¬ TooDeep lib data ∧ ¬ PaddedName lib self ip data := by
  constructor
  · intro survives
    obtain ⟨r, handled, named⟩ := survives ⟨.empty, [], []⟩
    refine ⟨?_, ?_⟩
    · rintro ⟨text, decoded, deep⟩
      simp [handlePacket, decoded, deep] at handled
    · rintro ⟨text, msg, a, s, decoded, loaded, read, padded⟩
      obtain ⟨_, same, name⟩ := read_announce_name read
      cases same
      have blank := (display_name_blank shown _).mpr ⟨s, padded⟩
      rw [← name] at blank
      simp only [handlePacket, decoded, loaded, read, Except.ok.injEq] at handled
      subst handled
      refine named a.deviceId ⟨a.name, ip, a.tcpPort, a.publicKey, a.model, now⟩ ?_ (by simp) blank
      simp [upsert]
  · rintro ⟨shallow, unpadded⟩ r
    have same : ∀ id peer, r.peers.get id = some peer →
        (r.peers.get id).map Peer.name ≠ some peer.name → ¬ Blank peer.name := by
      intro id peer found renamed
      simp [found] at renamed
    cases decoded : decodeUtf8 data with
    | none => exact ⟨r, by simp [handlePacket, decoded], same⟩
    | some text =>
      cases loaded : lib.loads text with
      | error e =>
        cases e with
        | jsonDecodeError => exact ⟨r, by simp [handlePacket, decoded, loaded], same⟩
        | recursionError => exact absurd ⟨text, decoded, loaded⟩ shallow
      | ok value =>
        cases read : readAnnounce lib self ip value with
        | none => exact ⟨r, by simp [handlePacket, decoded, loaded, read], same⟩
        | some a =>
          simp only [handlePacket, decoded, loaded, read]
          refine ⟨_, rfl, ?_⟩
          intro id peer found renamed blank
          rcases upsert_name found with ⟨_, name⟩ | old
          · obtain ⟨msg, rfl, cut⟩ := read_announce_name read
            rw [name, cut, display_name_blank shown] at blank
            obtain ⟨s, padded⟩ := blank
            exact unpadded ⟨text, msg, a, s, decoded, loaded, read, padded⟩
          · exact same id peer old renamed blank

section Sample

/-- The SHA-256 digest of 32 zero bytes. -/
def zeroKeyId : Text := "66687aadf862bd776c8fc18b8e9f8e20089714856ee233b3902a591d0d5f2925"

def zeroKeyText : Text := "AAAAAAAAAAAAAAAAAAAAAAAAAAAAAAAAAAAAAAAAAAA="

def announceText (name : Text) : Text :=
  '{' :: "\"type\": \"announce\", \"version\": 2, \"device_id\": \"" ++ zeroKeyId ++
    "\", \"public_key\": \"" ++ zeroKeyText ++ "\", \"name\": \"" ++ name ++
    "\", \"tcp_port\": 9, \"model\": \"\", \"reply\": true" ++ ['}']

def announceNamed (name : Text) : List (Key × Value) :=
  [(.type, .str (ofText "announce")), (.version, .int 2), (.deviceId, .str (ofText zeroKeyId)),
    (.publicKey, .str (ofText zeroKeyText)), (.name, .str (ofText name)), (.tcpPort, .int 9),
    (.model, .str []), (.reply, .bool true)]

def paddedName : Text := replicate 64 ' ' ++ ['x']

/-- What the libraries do on the packets of the two names and on texts that begin with brackets. -/
def announceLibraries : Libraries where
  loads t :=
    if 1000 < (t.takeWhile (· = '[')).length then .error .recursionError
    else match ["ann".toList, paddedName].find? (fun name => announceText name = t) with
      | some name => .ok (.dict (announceNamed name))
      | none => .error .jsonDecodeError
  b64decode s := (toText s).bind Base64.decode
  sha256Hex _ := zeroKeyId

def sampleIp : Str := ofText "10.0.0.2"

theorem announce_loads {name : Text} (member : name ∈ ["ann".toList, paddedName]) :
    announceLibraries.loads (announceText name) = .ok (.dict (announceNamed name)) := by
  have flat : ¬ 1000 < ((announceText name).takeWhile (· = '[')).length := by simp [announceText]
  have same (other : Text) : announceText other = announceText name ↔ other = name := by
    simp [announceText]
  have known : ["ann".toList, paddedName].find? (fun n => announceText n = announceText name) =
      some name := by
    simp only [same]
    simp only [mem_cons, not_mem_nil, or_false] at member
    rcases member with rfl | rfl <;> decide
  simp only [announceLibraries, if_neg flat, known]

theorem zero_key_decoded : Base64.decode zeroKeyText = some (replicate 32 0) := by decide +kernel

theorem announce_read (name : Text) : readAnnounce announceLibraries [] sampleIp
    (.dict (announceNamed name)) = some ⟨ofText zeroKeyId,
      displayName sampleIp (some (.str (ofText name))), [], 9, replicate 32 0, true⟩ := by
  have kind : (announceNamed name).lookup .type = some (.str (ofText "announce")) := rfl
  have version : (announceNamed name).lookup .version = some (.int 2) := rfl
  have deviceId : (announceNamed name).lookup .deviceId = some (.str (ofText zeroKeyId)) := rfl
  have publicKey : (announceNamed name).lookup .publicKey = some (.str (ofText zeroKeyText)) := rfl
  have port : (announceNamed name).lookup .tcpPort = some (.int 9) := rfl
  have filled (t : Text) (some : t ≠ []) : nonEmptyStr (.some (.str (ofText t))) = ofText t := by
    simp [nonEmptyStr, Value.str?, ofText, some]
  have identified := filled zeroKeyId (by decide)
  have keyed := filled zeroKeyText (by decide)
  have checked : checkPacket announceLibraries [] (announceNamed name) =
      some (ofText zeroKeyId, replicate 32 0, 9) := by
    simp [checkPacket, kind, version, deviceId, publicKey, port, identified, keyed, Value.str?,
      Value.int?, Value.equalsNat, Value.number, protocolVersion, announceLibraries,
      to_text_of_text, zero_key_decoded]
    decide
  rw [readAnnounce, checked]
  rfl

theorem plain_packet_survives : ∃ r, handlePacket announceLibraries [] ⟨.empty, [], []⟩
      (utf8 (announceText "ann")) sampleIp 0 = .ok r ∧
    (∃ peer, r.peers.get (ofText zeroKeyId) = some peer) ∧
    ∀ id peer, r.peers.get id = some peer → ¬ Blank peer.name := by
  have shown : ¬ Blank (sampleIp.take 64) := by decide
  have loaded := announce_loads (mem_cons_self : "ann".toList ∈ ["ann".toList, paddedName])
  have survives := (discovery_survives_iff shown announceLibraries []
    (utf8 (announceText "ann")) 0).mpr ⟨?_, ?_⟩
  · obtain ⟨r, handled, named⟩ := survives ⟨.empty, [], []⟩
    refine ⟨r, handled, ?_, fun id peer found => named id peer found nofun⟩
    rw [handlePacket, decode_utf8] at handled
    simp only [loaded, announce_read, Except.ok.injEq] at handled
    subst handled
    simp only [upsert, Dict.get_empty, Dict.get_set, if_true]
    exact ⟨_, rfl⟩
  · rintro ⟨text, decoded, deep⟩
    have same : announceText "ann" = text := Option.some.inj ((decode_utf8 _).symm.trans decoded)
    rw [← same, loaded] at deep
    cases deep
  · rintro ⟨text, msg, _, name, decoded, read, _, named, _, blank⟩
    have same : announceText "ann" = text := Option.some.inj ((decode_utf8 _).symm.trans decoded)
    rw [← same, loaded] at read
    cases read
    cases named
    exact absurd blank (by decide)

theorem packets_break_discovery :
    (∀ r, handlePacket announceLibraries [] r (utf8 (replicate 2000 '[')) sampleIp 0 =
      .error .recursionError) ∧
    (handlePacket announceLibraries [] ⟨.empty, [], []⟩ (utf8 (announceText paddedName))
      sampleIp 0).toOption.any (fun r => (r.peers.get (ofText zeroKeyId)).any (fun peer =>
        Blank peer.name)) = true := by
  constructor
  · intro r
    have brackets : ∀ n, ((replicate n '[').takeWhile (· = '[')).length = n := by simp
    have deep : ∀ n, 1000 < n → announceLibraries.loads (replicate n '[') =
        .error .recursionError := fun n many => if_pos (by rw [brackets]; exact many)
    rw [handlePacket, decode_utf8]
    simp only [deep 2000 (by decide)]
  · rw [handlePacket, decode_utf8]
    have loaded := announce_loads (show paddedName ∈ ["ann".toList, paddedName] by simp)
    simp only [loaded, announce_read, upsert, Dict.get_empty, Except.toOption, Option.any_some,
      Dict.get_set, if_true]
    decide

end Sample
end Peerc.Discovery
