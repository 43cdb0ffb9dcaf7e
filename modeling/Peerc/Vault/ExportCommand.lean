import Peerc.Vault.Export
import Peerc.Vault.FileActions

/-!
The export command of the application. It authorizes with the critical-action secret, and then
calls export_secure_file, which authorizes once more and is given no secret.
-/
namespace Peerc.Vault
open List Groups Transfer VaultSession

/-- How two times of encryption compare; none where Python raises TypeError. -/
structure AppEnv extends ActionEnv where
  notLater : Json.Value → Json.Value → Option Bool

/-- The keyfile is the one on disk, which is loaded twice. -/
structure AppWorld extends ExportWorld where
  secureStorageDir : Text
  downloadsDir : Text
  peerId : Text

/-- _prompt_for_export_authorization with what the dialog returns, None if it is closed. -/
def AppWorld.promptForExportAuthorization (env : VaultEnv) (w : AppWorld) (entered : Option Text) :
    Except SessionError Bool :=
  if ¬ w.session.isUnlocked then .error .locked
  else if ¬ criticalActionKeyConfigured w.keyfile then .ok true
  else
    match entered with
    | none => .ok false
    | some secret => w.session.authorizeExport env w.keyfile (some secret)

section Listing
variable (env : AppEnv) (faults : FileFaults) (fs : FileSystem)

inductive Listed where
  | kept (metadata : SecureFileMetadata)
  | skipped
  | raised

/-- The first field that cannot be read has the wrong type, which is a TypeError and not caught. -/
def mistyped (data : Json.Value) : Bool :=
  let has := fun name : String => (field name.toList data).isSome
  let text := fun name : String => ((field name.toList data).bind asText)
  match data with
  | .object _ =>
      has "secure_id" && has "original_filename" && has "size" && has "salt" &&
        ((text "salt").isNone ||
          (((text "salt").bind Hex.decode).isSome && has "nonce" && (text "nonce").isNone))
  | _ => true

def listOne (secureStorageDir name : Text) : Listed :=
  match readFile faults fs (joinPath secureStorageDir name) with
  | .error (.notFound _) => .skipped
  | .error _ => .raised
  | .ok content =>
      match env.loadFile content with
      | none => .skipped
      | some data =>
          match readMetadata data with
          | some metadata => .kept metadata
          | none => if mistyped data then .raised else .skipped

def collect : List Listed → Option (List SecureFileMetadata)
  | [] => some []
  | .kept metadata :: rest => (collect rest).map (metadata :: ·)
  | .skipped :: rest => collect rest
  | .raised :: _ => none

def listDir (directory : Text) : List Text :=
  ((fs.files.rows.map Prod.fst ++ fs.directories).filter (fun path =>
    basename path ≠ [] ∧ joinPath directory (basename path) = path)).map basename

/-- The newest first; times that do not compare raise. -/
def sortByTime (files : List SecureFileMetadata) : Option (List SecureFileMetadata) :=
  if files.Pairwise (fun a b => (env.notLater a.encryptedAt b.encryptedAt).isSome = true) then
    some (files.insertionSort (fun a b => env.notLater b.encryptedAt a.encryptedAt = some true))
  else none

def listSecureFiles (secureStorageDir : Text) : Option (List SecureFileMetadata) :=
  if secureStorageDir ∉ fs.directories then some []
  else
    (collect (((listDir fs secureStorageDir).filter
      (fun name => ".meta".toList.isSuffixOf name)).map
        (listOne env faults fs secureStorageDir))).bind
        (sortByTime env)

end Listing

def findMatch (fileId : Text) :
    List SecureFileMetadata → Option (Option (Text × SecureFileMetadata))
  | [] => some none
  | metadata :: rest =>
      match asText metadata.secureId with
      | none => none
      | some secureId =>
          if fileId.isPrefixOf secureId then some (some (secureId, metadata))
          else findMatch fileId rest

/-- The first name that is free; one more than there are entries is enough to find it. -/
def freeDestination (fs : FileSystem) (directory name : Text) : Option Text :=
  ((List.range (fs.files.rows.length + fs.directories.length + 1)).map
    (fun n => joinPath directory (candidate name n))).find? (fun path => !fs.exists_ path)

/-- What the command shows in the end; raised is an exception it does not catch. -/
inductive CommandOutcome where
  | usage
  | vaultLocked
  | cancelled
  | raised
  | noMatch
  | exported (destination : Text) (metadata : SecureFileMetadata)
  | failed (destination : Text) (e : ExportFailure)

def exportReport (destination : Text) : Except ExportFailure SecureFileMetadata → CommandOutcome
  | .ok metadata => .exported destination metadata
  | .error e => .failed destination e

section Command
variable (crypto : Primitives) (env : AppEnv) (faults : ExportFaults) (now : Time) (w : AppWorld)

def AppWorld.matchFile (fileId : Text) : Option (Option (Text × SecureFileMetadata)) :=
  (listSecureFiles env faults.file w.files w.secureStorageDir).bind (findMatch fileId)

/-- The arguments of the call: the secret is not passed on. -/
def AppWorld.exportCall (secureId destination : Text) : ExportRequest :=
  ⟨secureId, w.secureStorageDir, destination, none, none, some w.peerId, none⟩

def AppWorld.callExport (made : FileSystem) (secureId destination : Text) :
    ExportWorld × Except ExportFailure SecureFileMetadata :=
  exportSecureFile crypto env.toFileEnv faults now ⟨w.session, w.keyfile, w.groupStore, made⟩
    (w.exportCall secureId destination)

def AppWorld.exportMatching (fileId : Text) : AppWorld × CommandOutcome :=
  match w.matchFile env faults fileId with
  | none => (w, .raised)
  | some none => (w, .noMatch)
  | some (some (secureId, metadata)) =>
      match makeDirs faults.file w.files w.downloadsDir with
      | .error _ => (w, .raised)
      | .ok made =>
          match freeDestination made w.downloadsDir (safeName env.windows metadata.originalFilename)
            with
          -- does not happen: see free_destination_found
          | none => ({ w with files := made }, .raised)
          | some destination =>
              let called := w.callExport crypto env faults now made secureId destination
              ({ w with toExportWorld := called.1 }, exportReport destination called.2)

def AppWorld.handleExportFile (fileId : Text) (entered : Option Text) : AppWorld × CommandOutcome :=
  if fileId = [] then (w, .usage)
  else if ¬ w.session.isUnlocked then (w, .vaultLocked)
  else
    match w.promptForExportAuthorization env.toVaultEnv entered with
    | .error _ => (w, .raised)
    | .ok false => (w, .cancelled)
    | .ok true => w.exportMatching crypto env faults now fileId

end Command

/-! ## A destination is always found -/

theorem safe_name_separator_free (windows : Bool) (name : Json.Value) :
    '/' ∉ safeName windows name := by
  unfold safeName
  cases safe : (asText name).bind (fun t => sanitizeFilename windows t maxFilenameBytes) with
  | none =>
    rw [Option.getD_none]
    decide
  | some =>
    obtain ⟨_, _, sanitized⟩ := Option.bind_eq_some_iff.mp safe
    exact fun member => (sanitize_chars sanitized '/' member).1.1 rfl

variable {directory : Text}

theorem join_path_cancel {x y : Text} (relative : x.head? ≠ some '/')
    (relative' : y.head? ≠ some '/') (same : joinPath directory x = joinPath directory y) :
    x = y := by
  unfold joinPath at same
  rw [if_neg relative, if_neg relative'] at same
  split at same
  · exact append_cancel_left same
  · exact List.cons.inj (append_cancel_left same) |>.2

theorem exists_iff_listed (fs : FileSystem) (path : Text) :
    fs.exists_ path = true ↔ path ∈ fs.files.rows.map Prod.fst ++ fs.directories := by
  have filed : (fs.files.get path).isSome = true ↔ path ∈ fs.files.rows.map Prod.fst := by
    rw [Option.isSome_iff_exists, mem_map]
    constructor
    · rintro ⟨content, found⟩
      exact ⟨_, (Dict.get_some_iff fs.files path content).mp found, rfl⟩
    · rintro ⟨⟨_, content⟩, member, rfl⟩
      exact ⟨content, (Dict.get_some_iff fs.files _ content).mpr member⟩
  unfold FileSystem.exists_
  rw [Bool.or_eq_true, filed, decide_eq_true_eq, mem_append]

theorem exists_false_iff (fs : FileSystem) (path : Text) :
    fs.exists_ path = false ↔ fs.files.get path = none ∧ path ∉ fs.directories := by
  rw [FileSystem.exists_, Bool.or_eq_false_iff, decide_eq_false_iff_not, Option.isSome_eq_false_iff,
    Option.isNone_iff_eq_none]

theorem free_destination_found (fs : FileSystem) (directory : Text) {name : Text}
    (free : '/' ∉ name) : ∃ destination, freeDestination fs directory name = some destination := by
  have distinct : Function.Injective (fun n => joinPath directory (candidate name n)) := by
    intro n m same
    exact candidate_injective name
      (join_path_cancel (candidate_relative free n) (candidate_relative free m) same)
  obtain ⟨n, low, absent⟩ :=
    exists_free_name distinct (fs.files.rows.map Prod.fst ++ fs.directories)
  cases found : freeDestination fs directory name with
  | some destination => exact ⟨destination, rfl⟩
  | none =>
    have taken := find?_eq_none.mp found (joinPath directory (candidate name n))
    simp only [length_append, length_map] at low
    have tried := taken (mem_map_of_mem low)
    rw [Bool.not_eq_true', Bool.not_eq_false, exists_iff_listed] at tried
    exact absurd tried absent

variable {destination : Text}

/-! ## The two authorizations -/

structure FileSystemFine (faults : ExportFaults) (w : AppWorld) : Prop where
  store : faults.store = none
  read : ∀ path, faults.file.read path = false
  makedirs : ∀ path, faults.file.makedirs path = false
  open_ : ∀ path, faults.file.open_ path = false
  write : ∀ path, faults.file.write path = none
  directory : w.files.files.get w.downloadsDir = none

variable (crypto : Primitives)

structure ExportReady (env : AppEnv) (faults : ExportFaults) (now : Time)
    (w : AppWorld) (fileId : Text) (entered : Option Text) (secureId : Text) (plaintext : Bytes) :
    Prop where
  asked : fileId ≠ []
  prompted : w.promptForExportAuthorization env.toVaultEnv entered = .ok true
  named : ∃ metadata, w.matchFile env faults fileId = some (some (secureId, metadata))
  opens : ∃ dek metadata, w.session.dek = some dek ∧
    openFile env.toFileEnv faults.file w.files w.secureStorageDir secureId dek =
      .ok (metadata, plaintext)
  covered : ∀ s, w.groupStore = some s → EveryGateCovered crypto s w.peerId secureId now
  fine : FileSystemFine faults w

def PlaintextWritten (env : AppEnv) (faults : ExportFaults) (now : Time) (w : AppWorld)
    (fileId : Text) (entered : Option Text) (plaintext : Bytes) : Prop :=
  ∃ secureId metadata made destination,
    w.matchFile env faults fileId = some (some (secureId, metadata)) ∧
    makeDirs faults.file w.files w.downloadsDir = .ok made ∧
    freeDestination made w.downloadsDir (safeName env.windows metadata.originalFilename) =
      some destination ∧
    (w.handleExportFile crypto env faults now fileId entered).1.files.files.get destination =
      some plaintext

structure GatesAgree (env : AppEnv) (faults : ExportFaults) (now : Time)
    (w : AppWorld) (fileId : Text) (entered : Option Text) : Prop where
  granted : ∀ secureId plaintext,
    ExportReady crypto env faults now w fileId entered secureId plaintext →
    PlaintextWritten crypto env faults now w fileId entered plaintext
  refused : w.promptForExportAuthorization env.toVaultEnv entered = .ok false →
    (w.handleExportFile crypto env faults now fileId entered).1 = w

variable {secureId : Text} {made : FileSystem} {plaintext : Bytes}

section Agreement
variable {crypto : Primitives} {env : AppEnv} {faults : ExportFaults} {now : Time} {w : AppWorld}
  {fileId : Text} {entered : Option Text}

theorem read_file_same {fs fs' : FileSystem} (same : fs'.files = fs.files) {path : Text}
    {content : Bytes} (read : readFile faults.file fs path = .ok content) :
    readFile faults.file fs' path = .ok content := by
  unfold readFile at read ⊢
  rw [same]
  cases found : fs.files.get path with
  | none =>
    rw [found] at read
    cases read
  | some =>
    rw [found] at read
    exact read

theorem open_file_same {fs fs' : FileSystem} (same : fs'.files = fs.files)
    {dek : Bytes} {r : SecureFileMetadata × Bytes}
    (opened : openFile env.toFileEnv faults.file fs directory secureId dek = .ok r) :
    openFile env.toFileEnv faults.file fs' directory secureId dek = .ok r := by
  simp only [openFile, loadMetadata, bind, Except.bind] at opened ⊢
  cases readMeta : readFile faults.file fs (joinPath directory (secureId ++ ".meta")) with
  | error =>
    rw [readMeta] at opened
    cases opened
  | ok content =>
    rw [readMeta] at opened
    rw [read_file_same same readMeta]
    dsimp only at opened ⊢
    cases parsed : (env.loadFile content).bind readMetadata with
    | none =>
      rw [parsed] at opened
      cases opened
    | some =>
      rw [parsed] at opened
      cases readCipher : readFile faults.file fs
          (joinPath directory (secureId ++ ".peercfile")) with
      | error e =>
        rw [readCipher] at opened
        cases opened
      | ok ciphertext =>
        rw [readCipher] at opened
        rw [read_file_same same readCipher]
        exact opened

theorem make_dirs_fine (fine : FileSystemFine faults w) :
    ∃ made, makeDirs faults.file w.files w.downloadsDir = .ok made ∧
      made.files = w.files.files := by
  unfold makeDirs
  split
  · exact ⟨w.files, rfl, rfl⟩
  · rw [fine.directory, fine.makedirs]
    exact ⟨_, rfl, rfl⟩

theorem own_path_no_parent (path : Text) : path ∉ parents path := by
  intro member
  have above := (mem_filter.mp member).2
  simp only [Bool.and_eq_true, isPrefixOf_iff_prefix] at above
  have shorter := above.2.length_le
  simp only [length_append, length_cons, length_nil] at shorter
  omega

theorem write_file_fine (fine : FileSystemFine faults w) {fs : FileSystem} {path : Text}
    (absent : fs.exists_ path = false) (content : Bytes) :
    (writeFile faults.file fs path content).1.files.get path = some content := by
  have noDirectory : path ∉ parents path ++ fs.directories := by
    rw [mem_append, not_or]
    exact ⟨own_path_no_parent path, ((exists_false_iff fs path).mp absent).2⟩
  unfold writeFile
  simp [fine.makedirs, fine.open_, fine.write, noDirectory, Dict.get_set]

theorem authorize_without_secret (unlocked : w.session.isUnlocked = true) :
    w.session.authorizeExport env.toVaultEnv w.keyfile none =
      .ok (!criticalActionKeyConfigured w.keyfile) := by
  unfold authorizeExport
  rw [unlocked]
  cases criticalActionKeyConfigured w.keyfile <;> rfl

theorem prompt_unlocked {answer : Bool}
    (prompted : w.promptForExportAuthorization env.toVaultEnv entered = .ok answer) :
    w.session.isUnlocked = true := by
  unfold AppWorld.promptForExportAuthorization at prompted
  split at prompted
  · cases prompted
  · rename_i unlocked
    simpa using unlocked

theorem release_writes_iff (fine : FileSystemFine faults w)
    (unlocked : w.session.isUnlocked = true) {dek : Bytes} {metadata : SecureFileMetadata}
    (keyed : w.session.dek = some dek) (absent : made.exists_ destination = false)
    (opened : openFile env.toFileEnv faults.file made w.secureStorageDir secureId dek =
      .ok (metadata, plaintext)) :
    (releaseFile env.toFileEnv faults ⟨w.session, w.keyfile, w.groupStore, made⟩
        (w.exportCall secureId destination)).1.files.get destination = some plaintext ↔
      criticalActionKeyConfigured w.keyfile = false := by
  have nowhere := ((exists_false_iff made destination).mp absent).1
  unfold releaseFile
  simp only [AppWorld.exportCall]
  rw [authorize_without_secret unlocked]
  cases configured : criticalActionKeyConfigured w.keyfile with
  | true => simp [nowhere]
  | false =>
    simp only [Bool.not_false, absent, Bool.false_eq_true, if_false, keyed, decryptFile, opened,
      iff_true]
    exact write_file_fine fine absent plaintext

theorem gate_verdict_ok_iff (crypto : Primitives) (now : Time) (w : AppWorld)
    (quiet : faults.store = none) (s : GroupStore) (secureId destination : Text) :
    gateVerdict faults (gateRun crypto faults now s (w.exportCall secureId destination)) = .ok () ↔
      (checkExport crypto s none (some w.peerId) (some secureId) none now).outcome = .ok () := by
  have run : gateRun crypto faults now s (w.exportCall secureId destination) =
      checkExport crypto s none (some w.peerId) (some secureId) none now := by
    unfold gateRun
    rw [quiet]
    rfl
  rw [run, gateVerdict]
  cases (checkExport crypto s none (some w.peerId) (some secureId) none now).outcome with
  | error e => cases e <;> simp
  | ok => simp [quiet]

theorem call_writes_iff
    (ready : ExportReady crypto env faults now w fileId entered secureId plaintext)
    (sameFiles : made.files = w.files.files) (absent : made.exists_ destination = false) :
    (w.callExport crypto env faults now made secureId destination).1.files.files.get destination =
        some plaintext ↔
      criticalActionKeyConfigured w.keyfile = false ∧
        ∀ s, w.groupStore = some s → ¬ FalseDenial crypto s w.peerId secureId now := by
  obtain ⟨_, _, keyed, opened⟩ := ready.opens
  have unlocked := prompt_unlocked ready.prompted
  have releases :=
    release_writes_iff ready.fine unlocked keyed absent (open_file_same sameFiles opened)
  have nowhere := ((exists_false_iff made destination).mp absent).1
  unfold AppWorld.callExport exportSecureFile
  simp only [unlocked, not_true_eq_false, if_false]
  cases stored : w.groupStore with
  | none =>
    simp only [reduceCtorEq, IsEmpty.forall_iff, implies_true, and_true]
    rw [stored] at releases
    exact releases
  | some s =>
    have gate := (gate_verdict_ok_iff crypto now w ready.fine.store s secureId destination).trans
      (covered_export_succeeds_iff (ready.covered s stored))
    simp only [Option.some.injEq, forall_eq']
    rw [stored] at releases
    rw [← gate, ← releases]
    cases gateVerdict faults (gateRun crypto faults now s (w.exportCall secureId destination)) with
    | error => simp [nowhere]
    | ok => simp

theorem command_after_prompt {metadata : SecureFileMetadata} (asked : fileId ≠ [])
    (prompted : w.promptForExportAuthorization env.toVaultEnv entered = .ok true)
    (named : w.matchFile env faults fileId = some (some (secureId, metadata)))
    (makes : makeDirs faults.file w.files w.downloadsDir = .ok made)
    (chosen : freeDestination made w.downloadsDir (safeName env.windows metadata.originalFilename) =
      some destination) :
    (w.handleExportFile crypto env faults now fileId entered).1.toExportWorld =
      (w.callExport crypto env faults now made secureId destination).1 := by
  unfold AppWorld.handleExportFile
  rw [if_neg asked, prompt_unlocked prompted, prompted]
  simp [AppWorld.exportMatching, named, makes, chosen]

theorem ready_written_iff
    (ready : ExportReady crypto env faults now w fileId entered secureId plaintext) :
    PlaintextWritten crypto env faults now w fileId entered plaintext ↔
      criticalActionKeyConfigured w.keyfile = false ∧
        ∀ s, w.groupStore = some s → ¬ FalseDenial crypto s w.peerId secureId now := by
  obtain ⟨metadata, named⟩ := ready.named
  obtain ⟨made, makes, sameFiles⟩ := make_dirs_fine ready.fine
  obtain ⟨destination, chosen⟩ := free_destination_found made w.downloadsDir
    (safe_name_separator_free env.windows metadata.originalFilename)
  rw [← call_writes_iff ready sameFiles (by simpa using find?_some chosen),
    ← command_after_prompt ready.asked ready.prompted named makes chosen]
  constructor
  · rintro ⟨_, _, _, _, named', makes', chosen', written⟩
    cases named.symm.trans named'
    cases makes.symm.trans makes'
    cases chosen.symm.trans chosen'
    exact written
  · intro written
    exact ⟨secureId, metadata, made, destination, named, makes, chosen, written⟩

end Agreement

/-- If and only if, for a file that is ready, no key is configured and no gate refuses. -/
theorem export_gates_agree_iff (crypto : Primitives) (env : AppEnv) (faults : ExportFaults)
    (now : Time) (w : AppWorld) (fileId : Text) (entered : Option Text) :
    GatesAgree crypto env faults now w fileId entered ↔
      ∀ secureId plaintext,
        ExportReady crypto env faults now w fileId entered secureId plaintext →
        criticalActionKeyConfigured w.keyfile = false ∧
          ∀ s, w.groupStore = some s → ¬ FalseDenial crypto s w.peerId secureId now := by
  constructor
  · intro agree secureId plaintext ready
    exact (ready_written_iff ready).mp (agree.granted secureId plaintext ready)
  · intro plain
    constructor
    · intro secureId plaintext ready
      exact (ready_written_iff ready).mpr (plain secureId plaintext ready)
    · intro refused
      unfold AppWorld.handleExportFile
      rw [refused]
      split
      · rfl
      · split <;> rfl

section Sample

def commandDek : Bytes := [7]

def commandSecret : Text := "swordfish"

def commandVerifier : Json.Value :=
  .object [("nonce", .string []), ("ciphertext", .string (Base64.encode
    ((Aead.labelled.encrypt (commandDek ++ utf8 commandSecret) [] criticalVerifierPlaintext []).getD
      [])))]

def commandMetadata : Json.Value :=
  .object [("secure_id", .string "f"),
    ("original_filename", .string "a.txt"), ("size", .number "2"),
    ("salt", .string []), ("nonce", .string []),
    ("encrypted_at", .number "0")]

def commandEnv : AppEnv where
  aead := Aead.labelled
  hkdf material _ _ _ := material
  deriveKek secret _ := secret
  loads _ := some commandVerifier
  loadFile _ := some commandMetadata
  isLength _ n := n = 2
  dumpFile _ := []
  windows := false
  notLater _ _ := some true

def oneGateStore : Except GroupStoreError GroupStore := do
  let s ← GroupStore.empty.createGroup (sampleGroupOf "g" sampleAdminKey)
  let s ← s.setPolicy (noExportPolicy "g")
  s.storeCapability Primitives.sample (sampleCapabilityOf "c" "g" sampleAdminKey) 1

def commandFiles : FileSystem where
  files := (Dict.empty.set "/secure/f.meta".toList [0]).set "/secure/f.peercfile".toList
    ((Aead.labelled.encrypt commandDek [] [104, 105] []).getD [])
  directories := ["/secure".toList]

def commandWorld (keyfile : CriticalSalts) : AppWorld where
  session := ⟨some commandDek, some (Dict.empty.set settingCriticalKeyVerifier [])⟩
  keyfile := keyfile
  groupStore := oneGateStore.toOption
  files := commandFiles
  secureStorageDir := "/secure"
  downloadsDir := "downloads"
  peerId := "d"

def exportCommand (keyfile : CriticalSalts) (entered : Option Text) : AppWorld × CommandOutcome :=
  (commandWorld keyfile).handleExportFile Primitives.sample commandEnv noFaults 2 "f" entered

example : (exportCommand ⟨none, none⟩ none).1.files.files.get "downloads/a.txt".toList =
    some [104, 105] := by
  decide +kernel

theorem command_ready :
    ExportReady Primitives.sample commandEnv noFaults 2 (commandWorld ⟨some [], some []⟩) "f".toList
      (some commandSecret) "f".toList [104, 105] where
  asked := by decide
  prompted := by decide +kernel
  named := by
    have found : ((commandWorld ⟨some [], some []⟩).matchFile commandEnv noFaults "f".toList).map
        (Option.map Prod.fst) = some (some "f".toList) := by
      decide +kernel
    obtain ⟨_, matched, first⟩ := Option.map_eq_some_iff.mp found
    obtain ⟨⟨_, metadata⟩, rfl, rfl⟩ := Option.map_eq_some_iff.mp first
    exact ⟨metadata, matched⟩
  opens := by
    have opened : (openFile commandEnv.toFileEnv noFaults.file commandFiles "/secure".toList
        "f".toList commandDek).toOption.map Prod.snd = some [104, 105] := by
      decide +kernel
    obtain ⟨⟨metadata, _⟩, same, rfl⟩ := Option.map_eq_some_iff.mp opened
    refine ⟨commandDek, metadata, rfl, ?_⟩
    cases result : openFile commandEnv.toFileEnv noFaults.file commandFiles "/secure".toList
        "f".toList commandDek with
    | error e =>
      rw [result] at same
      cases same
    | ok r =>
      rw [result] at same
      cases same
      exact result
  covered := by
    have all : ∀ s ∈ oneGateStore.toOption,
        EveryGateCovered Primitives.sample s "d".toList "f".toList 2 := by
      decide +kernel
    intro s stored
    dsimp only [commandWorld] at stored
    exact all s (Option.mem_def.mpr stored)
  fine := ⟨rfl, fun _ => rfl, fun _ => rfl, fun _ => rfl, fun _ => rfl, by decide +kernel⟩

theorem right_secret_export_refused :
    (commandWorld ⟨some [], some []⟩).promptForExportAuthorization commandEnv.toVaultEnv
      (some commandSecret) = .ok true ∧
    (exportCommand ⟨some [], some []⟩ (some commandSecret)).1.files.files.get
      "downloads/a.txt".toList = none ∧
    (∃ s ∈ (exportCommand ⟨some [], some []⟩ (some commandSecret)).1.groupStore,
      s.capabilities.rows.map CapabilityRow.used = [true]) ∧
    ¬ GatesAgree Primitives.sample commandEnv noFaults 2 (commandWorld ⟨some [], some []⟩)
      "f".toList (some commandSecret) := by
  refine ⟨command_ready.prompted, by decide +kernel, by decide +kernel, ?_⟩
  intro agree
  have written := agree.granted "f".toList [104, 105] command_ready
  have unconfigured := ((ready_written_iff command_ready).mp written).1
  exact absurd unconfigured (by decide)

end Sample
end Peerc.Vault
