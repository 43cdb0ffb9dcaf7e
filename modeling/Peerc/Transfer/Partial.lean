import Peerc.Primitives
import Peerc.Lib.JsonStrings
import Peerc.Transfer.Filenames

/-!
Sidecars of partial downloads. Whatever bytes a peer places under a name ending in .part.meta are
read as one. A record is written as JSON with escapes for all but printable ASCII, so its size in
bytes is not that of its texts, and json.load joins the halves of a surrogate pair.
-/
namespace Peerc.Transfer
open List Decoded

/-- A decoded sidecar whose fields have the right types and whose version is 1. -/
structure MetaRecord where
  peerDeviceId : Str
  filename : Str
  size : Nat
  checksum : Text
  destName : Text
  committed : Nat
  createdAt : Time
  updatedAt : Time
  deriving DecidableEq

def versioned : Text := '{' :: "\"version\": 1"

def MetaRecord.entries (timeText : Time → Text) (r : MetaRecord) : List (Text × Text) :=
  [("peer_device_id", quote r.peerDeviceId), ("filename", quote r.filename),
    ("size", Nat.toDigits 10 r.size), ("checksum", quote (ofText r.checksum)),
    ("dest_name", quote (ofText r.destName)), ("committed", Nat.toDigits 10 r.committed),
    ("created_at", timeText r.createdAt), ("updated_at", timeText r.updatedAt)]

/-- The text json.dump writes; the text of a time is the repr of a float. -/
def MetaRecord.text (timeText : Time → Text) (r : MetaRecord) : Text :=
  versioned ++ ((r.entries timeText).flatMap (fun e => label e.1 ++ e.2) ++ ['}'])

def MetaRecord.dump (timeText : Time → Text) (r : MetaRecord) : Bytes := utf8 (r.text timeText)

/-- The record as json.load has it. -/
def MetaRecord.loaded (r : MetaRecord) : MetaRecord :=
  { r with
    peerDeviceId := joined r.peerDeviceId
    filename := joined r.filename }

structure Host where
  sha256 : Bytes → Text
  timeText : Time → Text
  timePrintable : ∀ t, Json.Printable (timeText t)
  /-- json.load and the checks of the types and the version. -/
  load : Bytes → Option MetaRecord
  load_dump : ∀ r : MetaRecord, load (r.dump timeText) = some r.loaded
  windows : Bool

inductive IOCall where
  | scan | readMeta | writeMeta | getsize | remove | openResume | openFresh | truncate | write
  | flush | close | hash | rename
  deriving DecidableEq

/-- Among it how many buffered bytes reach the file when nothing forces all of them out. -/
structure Io where
  now : Time
  peer : Text → Option Text
  fails : IOCall → Text → Bool
  drained : Nat
  free : Option Nat

def Io.sample (now : Time) : Io := ⟨now, fun _ => none, fun _ _ => false, 65536, none⟩

def maxMetaBytes : Nat := 4096

def commitInterval : Nat := 4 * 1024 * 1024

def partialMaxAgeSeconds : Time := 7 * 24 * 3600

def maxText : Nat := 1024

def chunkSize : Nat := 64 * 1024

structure PartialInfo extends MetaRecord where
  partPath : Text
  sidecar : partPath = getPartPath destName
  deriving DecidableEq

def isPlainName (name : Text) : Bool :=
  name ≠ [] && name.length ≤ maxText && name ≠ ['.'] && name ≠ ['.', '.'] &&
    '/' ∉ name && '\\' ∉ name && Char.ofNat 0 ∉ name

/-- The pattern of the source also admits one newline at the end. -/
def isChecksum (t : Text) : Bool :=
  let body := if t.length = 65 ∧ t.getLast? = some '\n' then t.dropLast else t
  body.length = 64 && body.all (fun c => '0' ≤ c && c ≤ '9' || 'a' ≤ c && c ≤ 'f')

def isMetaName (name : Text) : Bool := (partExtension ++ metaSuffix).isSuffixOf name

def validate (r : MetaRecord) (metaPath : Text) : Option PartialInfo :=
  if r.peerDeviceId ≠ [] ∧ r.peerDeviceId.length ≤ 128 ∧ r.filename ≠ [] ∧
      r.filename.length ≤ maxText ∧ isPlainName r.destName = true ∧ isChecksum r.checksum = true ∧
      r.committed ≤ r.size ∧ isMetaName metaPath = true then
    if sidecar : metaPath.take (metaPath.length - metaSuffix.length) = getPartPath r.destName then
      some ⟨r, metaPath.take (metaPath.length - metaSuffix.length), sidecar⟩
    else none
  else none

variable (host : Host) (io : Io) (disk : Disk Text)

def readMeta (metaPath : Text) : Option PartialInfo :=
  if io.fails .readMeta metaPath then none
  else
    match disk.read metaPath with
    | none => none
    | some content =>
        if maxMetaBytes < content.length then none
        else (host.load content).bind (fun r => validate r metaPath)

/-- write_meta as every caller uses it: a refused record or a failing call is swallowed. -/
def writeMeta (part peerDeviceId filename : Text) (size : Nat) (checksum destName : Text)
    (committed : Nat) : Disk Text :=
  let r : MetaRecord :=
    ⟨ofText peerDeviceId, ofText filename, size, checksum, destName, committed, io.now, io.now⟩
  if (validate r (metaPathFor part)).isSome ∧ io.fails .writeMeta (metaPathFor part) = false then
    disk.create (metaPathFor part) (r.dump host.timeText)
  else disk

variable (info : PartialInfo) (peerDeviceId filename : Str)

def matchesOffer (size : Nat) (checksum : Text) : Bool :=
  info.peerDeviceId = peerDeviceId && info.filename = filename &&
    info.size = size && info.checksum = checksum

def betterMatch (size : Nat) (checksum : Text) (best : Option PartialInfo) (name : Text) :
    Option PartialInfo :=
  match readMeta host io disk name with
  | none => best
  | some info =>
      if matchesOffer info peerDeviceId filename size checksum ∧ disk.present info.partPath then
        match best with
        | none => some info
        | some b => if b.updatedAt < info.updatedAt then some info else some b
      else best

def findResumable (size : Nat) (checksum : Text) : Option PartialInfo :=
  if io.fails .scan [] then none
  else (disk.names.filter isMetaName).foldl
    (betterMatch host io disk peerDeviceId filename size checksum) none

def resumeOffsetFor : Nat :=
  if io.fails .getsize info.partPath then 0
  else
    match disk.read info.partPath with
    | none => 0
    | some content =>
        let trusted := min (min info.committed content.length) info.size
        trusted - trusted % chunkSize

def removeFile (name : Text) : Disk Text :=
  if io.fails .remove name then disk else disk.remove name

def discard (part : Text) : Disk Text :=
  removeFile io (removeFile io disk part) (metaPathFor part)

def isExpired : Bool :=
  partialMaxAgeSeconds < io.now - info.updatedAt

def sweepOne (name : Text) : Disk Text :=
  match readMeta host io disk name with
  | none => disk
  | some info => if isExpired io info then discard io disk info.partPath else disk

/-- The names are listed once; each sidecar is read when its turn comes. -/
def sweepExpired : Disk Text :=
  if io.fails .scan [] then disk
  else (disk.names.filter isMetaName).foldl (sweepOne host io) disk

def Staging (part n : Text) : Prop := n = part ∨ n = metaPathFor part

variable {names : Text → Prop} {inodes : Nat → Prop}

theorem remove_file_frame (d : Disk Text) {n : Text} (touched : names n) :
    Disk.Frame names inodes d (removeFile io d n) := by
  unfold removeFile
  split
  · exact Disk.Frame.refl names inodes d
  · exact Disk.Frame.of_remove touched

theorem discard_frame (d : Disk Text) {part : Text} (touched : ∀ n, Staging part n → names n) :
    Disk.Frame names inodes d (discard io d part) :=
  (remove_file_frame io d (touched part (.inl rfl))).trans
    (remove_file_frame io _ (touched (metaPathFor part) (.inr rfl)))

theorem write_meta_frame (d : Disk Text) {part : Text} (touched : names (metaPathFor part))
    (peer filename : Text) (size : Nat) (checksum destName : Text) (committed : Nat) :
    Disk.Frame names inodes d
      (writeMeta host io d part peer filename size checksum destName committed) := by
  unfold writeMeta
  dsimp only
  split
  · exact Disk.Frame.of_create touched _
  · exact Disk.Frame.refl names inodes d

variable {d d' : Disk Text}

theorem discard_sub (sub : Disk.Sub d' d) (io : Io) (part : Text) :
    Disk.Sub (discard io d' part) d := by
  have one : ∀ {d' : Disk Text}, Disk.Sub d' d → ∀ n, Disk.Sub (removeFile io d' n) d := by
    intro _ sub n
    unfold removeFile
    split
    · exact sub
    · exact sub.of_remove n
  exact one (one sub part) (metaPathFor part)

theorem meta_name_split {name : Text} (isMeta : isMetaName name = true) :
    metaPathFor (name.take (name.length - metaSuffix.length)) = name := by
  obtain ⟨front, rfl⟩ := isSuffixOf_iff_suffix.mp isMeta
  have cut : (front ++ (partExtension ++ metaSuffix)).length - metaSuffix.length =
      (front ++ partExtension).length := by
    simp only [length_append]
    omega
  rw [cut, ← append_assoc, take_left, metaPathFor]

variable {info : PartialInfo} {metaPath : Text}

theorem validate_some {r : MetaRecord} (valid : validate r metaPath = some info) :
    info.toMetaRecord = r ∧ metaPath = metaPathFor info.partPath ∧ r.committed ≤ r.size := by
  unfold validate at valid
  split at valid
  · rename_i checks
    obtain ⟨_, _, _, _, _, _, bounded, isMeta⟩ := checks
    split at valid
    · cases valid
      exact ⟨rfl, (meta_name_split isMeta).symm, bounded⟩
    · cases valid
  · cases valid

variable {host : Host} {io : Io}

theorem read_meta_some (found : readMeta host io d metaPath = some info) :
    metaPath = metaPathFor info.partPath ∧ info.committed ≤ info.size ∧
      ∃ content, d.read metaPath = some content ∧
        host.load content = some info.toMetaRecord := by
  unfold readMeta at found
  split at found
  · cases found
  · split at found
    · cases found
    · rename_i content readable
      split at found
      · cases found
      · obtain ⟨_, loaded, valid⟩ := Option.bind_eq_some_iff.mp found
        obtain ⟨rfl, named, bounded⟩ := validate_some valid
        exact ⟨named, bounded, content, readable, loaded⟩

theorem read_meta_sub (sub : Disk.Sub d' d) (found : readMeta host io d' metaPath = some info) :
    readMeta host io d metaPath = some info := by
  obtain ⟨_, _, _, readable, _⟩ := read_meta_some found
  unfold readMeta at found ⊢
  rw [sub.read_some readable]
  rw [readable] at found
  exact found

def Swept (host : Host) (io : Io) (d : Disk Text) (n : Text) : Prop :=
  ∃ info, readMeta host io d (metaPathFor info.partPath) = some info ∧
    isExpired io info = true ∧ Staging info.partPath n

theorem sweep_one_spec
    (frame : Disk.Frame (Swept host io d) (fun _ => False) d d') (sub : Disk.Sub d' d)
    (name : Text) : Disk.Frame (Swept host io d) (fun _ => False) d (sweepOne host io d' name) ∧
      Disk.Sub (sweepOne host io d' name) d := by
  unfold sweepOne
  split
  · exact ⟨frame, sub⟩
  · rename_i info found
    split
    · rename_i old
      have original := read_meta_sub sub found
      rw [(read_meta_some found).1] at original
      refine ⟨frame.trans (discard_frame io d' ?_), discard_sub sub io info.partPath⟩
      intro _ staged
      exact ⟨info, original, old, staged⟩
    · exact ⟨frame, sub⟩

theorem sweep_expired_spec (host : Host) (io : Io) (d : Disk Text) :
    Disk.Frame (Swept host io d) (fun _ => False) d (sweepExpired host io d) ∧
      Disk.Sub (sweepExpired host io d) d := by
  have loop : ∀ (names : List Text) (d' : Disk Text),
      Disk.Frame (Swept host io d) (fun _ => False) d d' → Disk.Sub d' d →
      Disk.Frame (Swept host io d) (fun _ => False) d (names.foldl (sweepOne host io) d') ∧
        Disk.Sub (names.foldl (sweepOne host io) d') d := by
    intro names
    induction names with
    | nil => exact fun d' frame sub => ⟨frame, sub⟩
    | cons name _ ih =>
      intro _ frame sub
      obtain ⟨frame', sub'⟩ := sweep_one_spec frame sub name
      exact ih _ frame' sub'
  unfold sweepExpired
  split
  · exact ⟨Disk.Frame.refl _ _ d, Disk.Sub.refl d⟩
  · exact loop _ d (Disk.Frame.refl _ _ d) (Disk.Sub.refl d)

section Picks
variable {step : Option PartialInfo → Text → Option PartialInfo} {fits : Text → PartialInfo → Prop}
  (picks : ∀ best name, step best name = best ∨ ∃ c, fits name c ∧
    (∀ b, best = some b → b.updatedAt < c.updatedAt) ∧ step best name = some c)
include picks

theorem picked_fits (names : List Text) (best : Option PartialInfo)
    (known : ∀ b, best = some b → ∃ name, fits name b)
    (picked : names.foldl step best = some info) :
    ∃ name, fits name info := by
  induction names generalizing best with
  | nil => exact known info picked
  | cons name _ ih =>
    refine ih (step best name) ?_ picked
    intro c chosen
    rcases picks best name with kept | ⟨_, fit, _, taken⟩
    · exact known c (kept.symm.trans chosen)
    · cases taken.symm.trans chosen
      exact ⟨name, fit⟩

end Picks

section Matches
variable {peer filename : Str} {checksum : Text} {size : Nat}

def Candidate (host : Host) (io : Io) (d : Disk Text) (peer filename : Str) (size : Nat)
    (checksum name : Text) (info : PartialInfo) : Prop :=
  readMeta host io d name = some info ∧ matchesOffer info peer filename size checksum = true ∧
    d.present info.partPath = true

theorem better_match_picks (best : Option PartialInfo) (name : Text) :
    betterMatch host io d peer filename size checksum best name = best ∨
    ∃ c, Candidate host io d peer filename size checksum name c ∧
      (∀ b, best = some b → b.updatedAt < c.updatedAt) ∧
      betterMatch host io d peer filename size checksum best name = some c := by
  unfold betterMatch
  split
  · exact .inl rfl
  · next c readable =>
    split
    · next fits =>
      split
      · exact .inr ⟨c, ⟨readable, fits⟩, nofun, rfl⟩
      · next b =>
        split
        · next newer =>
          refine .inr ⟨c, ⟨readable, fits⟩, ?_, rfl⟩
          intro _ same
          cases same
          exact newer
        · exact .inl rfl
    · exact .inl rfl

theorem find_resumable_some
    (found : findResumable host io d peer filename size checksum = some info) :
    readMeta host io d (metaPathFor info.partPath) = some info ∧
      matchesOffer info peer filename size checksum = true ∧ d.present info.partPath = true := by
  unfold findResumable at found
  split at found
  · cases found
  · obtain ⟨_, readable, fits⟩ := picked_fits better_match_picks _ none nofun found
    exact ⟨(read_meta_some readable).1 ▸ readable, fits⟩

end Matches

section Written
variable {part : Text} {r : MetaRecord} {io' : Io}

theorem digits_printable (n : Nat) : Json.Printable (Nat.toDigits 10 n) := by
  intro c member
  have digit := Nat.isDigit_of_mem_toDigits (by decide) (by decide) member
  simp only [Char.isDigit, Bool.and_eq_true, decide_eq_true_eq] at digit
  have low : 48 ≤ c.toNat := digit.1
  have high : c.toNat ≤ 57 := digit.2
  omega

theorem text_printable {timeText : Time → Text} (times : ∀ t, Json.Printable (timeText t))
    (r : MetaRecord) : Json.Printable (r.text timeText) := by
  have parts : ∀ e ∈ r.entries timeText, Json.Printable (label e.1) ∧ Json.Printable e.2 := by
    simp only [MetaRecord.entries, forall_mem_cons, quote_printable, digits_printable, times,
      not_mem_nil, false_imp_iff, implies_true, and_true]
    decide
  have body : Json.Printable ((r.entries timeText).flatMap (fun e => label e.1 ++ e.2)) := by
    intro c inside
    obtain ⟨e, member, inside⟩ := mem_flatMap.mp inside
    exact (parts e member).1.append (parts e member).2 c inside
  exact Json.Printable.append (by decide) (body.append (by decide))

/-- The bytes of the sidecar: its strings with their escapes, its numbers and what is always
there. -/
def sidecarSize (timeText : Time → Text) (r : MetaRecord) : Nat :=
  escapedSize r.peerDeviceId + escapedSize r.filename + escapedSize (ofText r.checksum) +
    escapedSize (ofText r.destName) + (Nat.toDigits 10 r.size).length +
    (Nat.toDigits 10 r.committed).length + (timeText r.createdAt).length +
    (timeText r.updatedAt).length + 142

/-- What keeps a sidecar from being read as it was written. -/
def ReadsBack (timeText : Time → Text) (r : MetaRecord) : Prop :=
  sidecarSize timeText r ≤ maxMetaBytes ∧ ¬ SplitPair r.peerDeviceId ∧ ¬ SplitPair r.filename

end Written

section Sample

def wholeSeconds (t : Time) : Text :=
  (if t < 0 then ['-'] else []) ++ (Nat.toDigits 10 t.natAbs ++ ".0")

def readSeconds (t : Text) : Option (Time × Text) :=
  let minus := t.head? = some '-'
  let digits := readDigits (if minus then t.tail else t)
  (expect ".0" digits.2).map (fun rest => (if minus then -digits.1 else digits.1, rest))

def readRecord (t : Text) : Option MetaRecord := do
  let t ← expect versioned t
  let peerDeviceId ← entry (label "peer_device_id") readQuoted t
  let filename ← entry (label "filename") readQuoted peerDeviceId.2
  let size ← entry (label "size") (some ∘ readDigits) filename.2
  let checksum ← entry (label "checksum") readQuoted size.2
  let destName ← entry (label "dest_name") readQuoted checksum.2
  let committed ← entry (label "committed") (some ∘ readDigits) destName.2
  let createdAt ← entry (label "created_at") readSeconds committed.2
  let updatedAt ← entry (label "updated_at") readSeconds createdAt.2
  guard (updatedAt.2 = ['}'])
  some ⟨peerDeviceId.1, filename.1, size.1, ← toText checksum.1, ← toText destName.1, committed.1,
    createdAt.1, updatedAt.1⟩

theorem read_seconds (t : Time) (rest : Text) :
    readSeconds (wholeSeconds t ++ rest) = some (t, rest) := by
  have digits : readDigits (Nat.toDigits 10 t.natAbs ++ (".0" ++ rest)) =
      (t.natAbs, ".0" ++ rest) := read_digits _ (by rintro _ ⟨⟩; rfl)
  unfold readSeconds wholeSeconds
  by_cases negative : t < 0
  · simp only [negative, if_true, cons_append, nil_append, append_assoc, head?_cons, tail_cons,
      digits, expect_append, Option.map_some]
    rw [Int.ofNat_natAbs_of_nonpos (Int.le_of_lt negative), Int.neg_neg]
  · have unsigned : (Nat.toDigits 10 t.natAbs ++ (".0" ++ rest)).head? ≠ some '-' := by
      intro signed
      have filled : Nat.toDigits 10 t.natAbs ≠ [] := Nat.toDigits_ne_nil
      rw [head?_append_of_ne_nil _ filled] at signed
      cases Nat.isDigit_of_mem_toDigits (by decide) (by decide) (mem_of_head? signed)
    simp only [negative, if_false, nil_append, append_assoc, unsigned, digits, expect_append,
      Option.map_some]
    rw [Int.natAbs_of_nonneg (Int.not_lt.mp negative)]

theorem read_record (r : MetaRecord) : readRecord (r.text wholeSeconds) = some r.loaded := by
  have digits (n : Nat) (key rest : Text) :
      (some ∘ readDigits) (Nat.toDigits 10 n ++ (label key ++ rest)) =
        some (n, label key ++ rest) :=
    congrArg some (read_digits n (by rintro _ ⟨⟩; rfl))
  simp only [MetaRecord.text, MetaRecord.entries, flatMap_cons, flatMap_nil, append_assoc,
    nil_append]
  rw [readRecord, expect_append]
  simp only [Option.bind_eq_bind, Option.bind_some, entry_read (read_quote _ _),
    entry_read (digits _ _ _), entry_read (read_seconds _ _), joined_text, to_text_of_text]
  rfl

theorem seconds_printable (t : Time) : Json.Printable (wholeSeconds t) := by
  refine Json.Printable.append ?_ ((digits_printable _).append (by decide))
  split <;> decide

def Host.sample : Host where
  sha256 := hexHead
  timeText := wholeSeconds
  timePrintable := seconds_printable
  load bytes := readRecord (bytes.map (fun b => Char.ofNat b.toNat))
  load_dump r := by
    rw [MetaRecord.dump, ascii_of_utf8 (text_printable seconds_printable r)]
    exact read_record r
  windows := false

def named (filename : Str) : MetaRecord :=
  ⟨ofText "p", filename, 1, replicate 64 '0', "f", 1, 0, 0⟩

def atRest : Disk Text := Disk.empty.create "f.part" [7]

def saved (filename : Str) : Disk Text :=
  atRest.create "f.part.meta" ((named filename).dump wholeSeconds)

end Sample
end Peerc.Transfer
