import Peerc.Transfer.Filenames
import Peerc.Vault.Lock
import Peerc.Vault.SecureFile

/-!
The actions on files in secure storage that ask for the passphrase again. Each does its work only
if the session is unlocked and requires no fresh passphrase.
-/
namespace Peerc.Vault
open Transfer

structure AuthSession extends LiveSession where
  requirePassphraseForIncoming : Bool

def fileActionsRequiringAuth : List Text :=
  ["open", "export", "move_to_secure", "delete"]

def AuthSession.requiresReauth (s : AuthSession) (action : Text) : Bool :=
  let name := strip isWhitespace (action.map Char.toLower)
  if name = "chat" then false
  else if name = "incoming_transfer" then s.requirePassphraseForIncoming
  else if name ∈ fileActionsRequiringAuth then !(s.dontAskAgainFiles && s.isUnlocked)
  else true

inductive ActionError where
  | sessionLocked
  | authorization (message : Text)
  | executableBlocked (message : Text)
  | notFound (path : Text)
  | raised (path : Text)
  | encryptionFailed
  | secureFile (e : SecureFileError)

structure ActionEnv extends FileEnv where
  dumpFile : Json.Value → Bytes
  windows : Bool

/-- An overwriting that raises has got so far. -/
structure ActionFaults extends FileFaults where
  replace : Text → Bool
  overwrite : Text → Option Nat
  remove : Text → Bool

def basename (path : Text) : Text := (path.reverse.takeWhile (fun c => c ≠ '/')).reverse

/-- os.path.dirname: slashes at the end go unless there is nothing else. -/
def dirname (path : Text) : Text :=
  let head := path.take (path.length - (basename path).length)
  if head.all (fun c => c = '/') then head else rstrip (fun c => c = '/') head

/-- sanitize_filename with the fallback "file"; a name that is no text falls back too. -/
def safeName (windows : Bool) (name : Json.Value) : Text :=
  ((asText name).bind (fun t => sanitizeFilename windows t maxFilenameBytes)).getD "file"

def executableExtensions : List Text :=
  [".exe", ".dll", ".com", ".bat", ".cmd", ".msi", ".scr", ".vbs", ".js", ".wsf", ".ps1", ".psm1",
    ".sh", ".bash", ".zsh", ".fish", ".ksh", ".csh", ".py", ".pyw", ".pyc", ".pyo", ".rb", ".pl",
    ".php", ".awk", ".sed", ".app", ".command", ".so", ".dylib", ".run"].map String.toList

/-- The signatures in the order they are tried, with their descriptions. -/
def fileSignatures : List (Bytes × Text) :=
  [(utf8 "MZ", "Windows PE executable"),
    (0x7f :: utf8 "ELF", "Linux ELF executable"),
    (utf8 "#!", "Script with shebang"),
    ([0xfe, 0xed, 0xfa, 0xce], "macOS Mach-O executable"),
    ([0xfe, 0xed, 0xfa, 0xcf], "macOS Mach-O executable"),
    ([0xce, 0xfa, 0xed, 0xfe], "macOS Mach-O executable"),
    ([0xcf, 0xfa, 0xed, 0xfe], "macOS Mach-O executable"),
    ([0xca, 0xfe, 0xba, 0xbe], "macOS universal binary"),
    ([0xbe, 0xba, 0xfe, 0xca], "macOS universal binary"),
    (utf8 "%PDF", "PDF document"),
    (0x89 :: utf8 "PNG", "PNG image"),
    ([0xff, 0xd8, 0xff], "JPEG image"),
    (utf8 "GIF87a", "GIF image"),
    (utf8 "GIF89a", "GIF image")]

def describeFileType (path : Text) (content : Bytes) : Text :=
  match fileSignatures.find? (fun signature => signature.1.isPrefixOf content) with
  | some signature => signature.2
  | none =>
      let ext := (splitext (basename path)).2
      if ext.map Char.toLower ∈ executableExtensions then
        "Suspicious file extension (" ++ ext ++ ")"
      else "Unknown file type"

structure FileDraw where
  secureId : Text
  salt : Bytes
  nonce : Bytes
  now : Json.Value

/-- It returns, raises one of the two errors that block the file, or raises something else. -/
inductive CheckVerdict where
  | passed
  | blocked (message : Text)
  | raised

def makeDirs (faults : FileFaults) (fs : FileSystem) (directory : Text) :
    Except ActionError FileSystem :=
  if directory ∈ fs.directories then .ok fs
  else if (fs.files.get directory).isSome || faults.makedirs directory then
    .error (.raised directory)
  else .ok { fs with directories := parents (directory ++ ['/']) ++ fs.directories }

section Work
variable (env : ActionEnv) (faults : ActionFaults) (random : Nat → Bytes) (fs : FileSystem)

variable (path : Text)

def writeOpened (content : Bytes) : FileSystem × Except ActionError Unit :=
  if path ∈ fs.directories ∨ faults.open_ path then (fs, .error (.raised path))
  else
    match faults.write path with
    | some n => ({ fs with files := fs.files.set path (content.take n) }, .error (.raised path))
    | none => ({ fs with files := fs.files.set path content }, .ok ())

def removeFile : Except ActionError FileSystem :=
  match fs.files.get path with
  | none => .error (if fs.exists_ path then .raised path else .notFound path)
  | some _ =>
      if faults.remove path then .error (.raised path)
      else .ok { fs with files := fs.files.pop path }

def overwriteContent : FileSystem :=
  match fs.files.get path with
  | none => fs
  | some content =>
      let written := (random content.length).take ((faults.overwrite path).getD content.length)
      { fs with files := fs.files.set path (writeAt content 0 written) }

def secureDeleteFile : FileSystem :=
  let overwritten := overwriteContent faults random fs path
  match removeFile faults overwritten path with
  | .error _ => overwritten
  | .ok removed => removed

/-- os.rmdir succeeds only on an empty directory; its error is swallowed. -/
def removeEmptyDir (directory : Text) : FileSystem :=
  let inside := fun path : Text => (directory ++ ['/']).isPrefixOf path
  if directory = [] ∨ faults.remove directory ∨ fs.files.rows.any (fun f => inside f.1) ∨
    fs.directories.any inside
  then fs
  else { fs with directories := fs.directories.filter (fun d => d ≠ directory) }

def secureDeleteTemp : FileSystem :=
  removeEmptyDir faults (secureDeleteFile faults random fs path) (dirname path)

def metadataJson (m : SecureFileMetadata) : Json.Value :=
  .object [("secure_id", m.secureId), ("original_filename", m.originalFilename),
    ("size", m.size), ("salt", .string (Hex.encode m.salt)),
    ("nonce", .string (Hex.encode m.nonce)), ("encrypted_at", m.encryptedAt),
    ("checksum", m.checksum.getD .null)]

/-- The temporary file after a failure; an unlink that raises is swallowed. -/
def discardTmp (tmpPath : Text) : FileSystem :=
  match removeFile faults fs tmpPath with
  | .error _ => fs
  | .ok removed => removed

def saveMetadata (secureStorageDir secureId : Text) (m : SecureFileMetadata) :
    FileSystem × Except ActionError Unit :=
  let metaPath := joinPath secureStorageDir (secureId ++ ".meta")
  let tmpPath := metaPath ++ ".tmp"
  let content := env.dumpFile (metadataJson m)
  let written := writeOpened faults fs tmpPath content
  match written.2 with
  | .error e => (discardTmp faults written.1 tmpPath, .error e)
  | .ok () =>
      if metaPath ∈ written.1.directories ∨ faults.replace metaPath then
        (discardTmp faults written.1 tmpPath, .error (.raised metaPath))
      else
        ({ written.1 with files := (written.1.files.pop tmpPath).set metaPath content }, .ok ())

def storeEncrypted (secureStorageDir : Text) (ciphertext : Bytes) (secureId : Text)
    (metadata : SecureFileMetadata) : FileSystem × Except ActionError SecureFileMetadata :=
  let written := writeOpened faults fs
    (joinPath secureStorageDir (secureId ++ ".peercfile")) ciphertext
  match written.2 with
  | .error e => (written.1, .error e)
  | .ok () =>
      let saved := saveMetadata env faults written.1 secureStorageDir secureId metadata
      (saved.1, saved.2.map (fun _ => metadata))

def encryptFile (plaintextPath secureStorageDir : Text) (dek : Bytes) (originalFilename : Text)
    (checksum : Option Text) (draw : FileDraw) :
    FileSystem × Except ActionError SecureFileMetadata :=
  if ¬ fs.exists_ plaintextPath then (fs, .error (.notFound plaintextPath))
  else
    match makeDirs faults.toFileFaults fs secureStorageDir with
    | .error e => (fs, .error e)
    | .ok made =>
        match readFile faults.toFileFaults made plaintextPath with
        | .error e => (made, .error (.secureFile e))
        | .ok plaintext =>
            match env.aead.encrypt (deriveFileKey env.toFileEnv dek draw.salt)
              draw.nonce plaintext []
              with
            | none => (made, .error .encryptionFailed)
            | some ciphertext =>
                let named :=
                  if originalFilename = [] then basename plaintextPath else originalFilename
                storeEncrypted env faults made secureStorageDir ciphertext draw.secureId
                  ⟨.string draw.secureId, .string (safeName env.windows (.string named)),
                    .number (Nat.repr plaintext.length).toList, draw.salt, draw.nonce, draw.now,
                    checksum.map .string⟩

def deleteSecureFile (secureId secureStorageDir : Text) : FileSystem × Except ActionError Unit :=
  let securePath := joinPath secureStorageDir (secureId ++ ".peercfile")
  let metaPath := joinPath secureStorageDir (secureId ++ ".meta")
  if ¬ fs.exists_ securePath then (fs, .error (.notFound securePath))
  else
    match removeFile faults fs securePath with
    | .error e => (fs, .error e)
    | .ok removed =>
        if ¬ removed.exists_ metaPath then (removed, .ok ())
        else
          match removeFile faults removed metaPath with
          | .error e => (removed, .error e)
          | .ok emptied => (emptied, .ok ())

end Work

/-- Without temp_dir the directory is a new one, whose drawn name is given here. -/
inductive FileAction where
  | openFile (secureId secureStorageDir tempDir : Text)
      (executableChecker : Option (Text → Bytes → CheckVerdict))
  | moveToSecure (plaintextPath secureStorageDir : Text) (checksum : Option Text)
      (deleteSource : Bool) (draw : FileDraw)
  | delete (secureId secureStorageDir : Text)

inductive ActionResult where
  | opened (tempPath : Text) (metadata : SecureFileMetadata)
  | moved (metadata : SecureFileMetadata)
  | deleted (metadata : SecureFileMetadata)

def FileAction.name : FileAction → Text
  | .openFile .. => "open"
  | .moveToSecure .. => "move_to_secure"
  | .delete .. => "delete"

def FileAction.refusal : FileAction → Text
  | .openFile .. => "passphrase re-authentication required for Open action"
  | .moveToSecure .. => "passphrase re-authentication required for Move to Secure Storage"
  | .delete .. => "passphrase re-authentication required for Delete action"

section Actions
variable (env : ActionEnv) (faults : ActionFaults) (random : Nat → Bytes) (fs : FileSystem)

/-- A blocked file is deleted again. Clearing the execute bits does not show in the model. -/
def checkOpened (tempPath : Text) (metadata : SecureFileMetadata)
    (executableChecker : Option (Text → Bytes → CheckVerdict)) :
    FileSystem × Except ActionError ActionResult :=
  let content := (fs.files.get tempPath).getD []
  let verdict := executableChecker.elim .passed (fun check => check tempPath content)
  match verdict with
  | CheckVerdict.passed => (fs, .ok (.opened tempPath metadata))
  | CheckVerdict.raised => (fs, .error (.raised tempPath))
  | CheckVerdict.blocked message =>
      (secureDeleteTemp faults random fs tempPath,
        .error (.executableBlocked (message ++ " (Detected as: " ++
          describeFileType tempPath content ++ ")")))

def openAuthorized (dek : Bytes) (secureId secureStorageDir tempDir : Text)
    (executableChecker : Option (Text → Bytes → CheckVerdict)) :
    FileSystem × Except ActionError ActionResult :=
  match loadMetadata env.toFileEnv faults.toFileFaults fs secureStorageDir secureId with
  | .error e => (fs, .error (.secureFile e))
  | .ok metadata =>
      match makeDirs faults.toFileFaults fs tempDir with
      | .error e => (fs, .error e)
      | .ok made =>
          let tempPath := joinPath tempDir (safeName env.windows metadata.originalFilename)
          let decrypted := decryptFile env.toFileEnv faults.toFileFaults made secureId
            secureStorageDir dek tempPath
          match decrypted.2 with
          | .error e => (decrypted.1, .error (.secureFile e))
          | .ok _ => checkOpened faults random decrypted.1 tempPath metadata executableChecker

def moveAuthorized (dek : Bytes) (plaintextPath secureStorageDir : Text) (checksum : Option Text)
    (deleteSource : Bool) (draw : FileDraw) : FileSystem × Except ActionError ActionResult :=
  if ¬ fs.exists_ plaintextPath then (fs, .error (.notFound plaintextPath))
  else
    let encrypted := encryptFile env faults fs plaintextPath secureStorageDir dek
      (basename plaintextPath) checksum draw
    match encrypted.2 with
    | .error e => (encrypted.1, .error e)
    | .ok metadata =>
        (if deleteSource then secureDeleteFile faults random encrypted.1 plaintextPath
          else encrypted.1, .ok (.moved metadata))

def deleteAuthorized (secureId secureStorageDir : Text) :
    FileSystem × Except ActionError ActionResult :=
  match loadMetadata env.toFileEnv faults.toFileFaults fs secureStorageDir secureId with
  | .error e => (fs, .error (.secureFile e))
  | .ok metadata =>
      let deleted := deleteSecureFile faults fs secureId secureStorageDir
      (deleted.1, deleted.2.map (fun _ => .deleted metadata))

def FileAction.perform (dek : Bytes) : FileAction → FileSystem × Except ActionError ActionResult
  | .openFile secureId secureStorageDir tempDir checker =>
      openAuthorized env faults random fs dek secureId secureStorageDir tempDir checker
  | .moveToSecure plaintextPath secureStorageDir checksum deleteSource draw =>
      moveAuthorized env faults random fs dek plaintextPath secureStorageDir checksum
        deleteSource draw
  | .delete secureId secureStorageDir => deleteAuthorized env faults fs secureId secureStorageDir

/-- The same two checks, then the work. -/
def FileAction.run (s : AuthSession) (fs : FileSystem) (a : FileAction) :
    FileSystem × Except ActionError ActionResult :=
  if ¬ s.isUnlocked then (fs, .error .sessionLocked)
  else if s.requiresReauth a.name then (fs, .error (.authorization a.refusal))
  else
    match s.dek with
    | none => (fs, .error .sessionLocked)
    | some dek => a.perform env faults random fs dek

end Actions

def ActionError.isRefusal : ActionError → Bool
  | .authorization _ => true
  | _ => false

theorem name_listed (a : FileAction) : a.name ∈ fileActionsRequiringAuth := by
  have listed : ∀ name ∈ ["open".toList, "move_to_secure".toList, "delete".toList],
      name ∈ fileActionsRequiringAuth := by
    decide +kernel
  cases a with
  | openFile => exact listed _ (.head _)
  | moveToSecure => exact listed _ (.tail _ (.head _))
  | delete => exact listed _ (.tail _ (.tail _ (.head _)))

theorem requires_reauth_file_action (s : AuthSession) (a : FileAction) :
    s.requiresReauth a.name = !(s.dontAskAgainFiles && s.isUnlocked) := by
  -- Lowering and stripping leave the listed names as they are.
  have plain : ∀ name ∈ fileActionsRequiringAuth,
      strip isWhitespace (name.map Char.toLower) = name ∧ name ≠ "chat" ∧
        name ≠ "incoming_transfer" := by
    decide +kernel
  obtain ⟨bare, notChat, notIncoming⟩ := plain a.name (name_listed a)
  unfold AuthSession.requiresReauth
  rw [bare, if_neg notChat, if_neg notIncoming, if_pos (name_listed a)]

section Errors
variable {env : ActionEnv} {faults : ActionFaults} {random : Nat → Bytes} {e : ActionError}

variable {fs : FileSystem} {directory : Text}

theorem make_dirs_error {faults : FileFaults}
    (failed : makeDirs faults fs directory = .error e) : e.isRefusal = false := by
  unfold makeDirs at failed
  split at failed
  · cases failed
  · split at failed
    · cases failed
      rfl
    · cases failed

variable {path : Text}

theorem write_opened_error {content : Bytes}
    (failed : (writeOpened faults fs path content).2 = .error e) : e.isRefusal = false := by
  unfold writeOpened at failed
  split at failed
  · cases failed
    rfl
  · split at failed
    · cases failed
      rfl
    · cases failed

theorem remove_file_error
    (failed : removeFile faults fs path = .error e) : e.isRefusal = false := by
  unfold removeFile at failed
  split at failed
  · cases failed
    split <;> rfl
  · split at failed
    · cases failed
      rfl
    · cases failed

variable {secureId : Text} {m : SecureFileMetadata}

theorem save_metadata_error
    (failed : (saveMetadata env faults fs directory secureId m).2 = .error e) :
    e.isRefusal = false := by
  unfold saveMetadata at failed
  dsimp only at failed
  split at failed
  · rename_i unwritten
    cases failed
    exact write_opened_error unwritten
  · split at failed
    · cases failed
      rfl
    · cases failed

theorem store_encrypted_error {ciphertext : Bytes}
    (failed : (storeEncrypted env faults fs directory ciphertext secureId m).2 = .error e) :
    e.isRefusal = false := by
  unfold storeEncrypted at failed
  dsimp only at failed
  split at failed
  · rename_i unwritten
    cases failed
    exact write_opened_error unwritten
  · dsimp only at failed
    cases saved : (saveMetadata env faults (writeOpened faults fs
        (joinPath directory (secureId ++ ".peercfile")) ciphertext).1
        directory secureId m).2 with
    | error e' =>
      rw [saved] at failed
      cases failed
      exact save_metadata_error saved
    | ok _ =>
      rw [saved] at failed
      cases failed

theorem encrypt_file_error {dek : Bytes} {named : Text} {checksum : Option Text} {draw : FileDraw}
    (failed : (encryptFile env faults fs path directory dek named checksum draw).2 = .error e) :
    e.isRefusal = false := by
  unfold encryptFile at failed
  split at failed
  · cases failed
    rfl
  · split at failed
    · rename_i unmade
      cases failed
      exact make_dirs_error unmade
    · split at failed
      · cases failed
        rfl
      · split at failed
        · cases failed
          rfl
        · exact store_encrypted_error failed

theorem delete_secure_file_error
    (failed : (deleteSecureFile faults fs secureId directory).2 = .error e) :
    e.isRefusal = false := by
  unfold deleteSecureFile at failed
  dsimp only at failed
  split at failed
  · cases failed
    rfl
  · split at failed
    · rename_i kept
      cases failed
      exact remove_file_error kept
    · split at failed
      · cases failed
      · split at failed
        · rename_i kept
          cases failed
          exact remove_file_error kept
        · cases failed

theorem check_opened_error {checker : Option (Text → Bytes → CheckVerdict)}
    (failed : (checkOpened faults random fs path m checker).2 = .error e) :
    e.isRefusal = false := by
  unfold checkOpened at failed
  dsimp only at failed
  split at failed
  · cases failed
  · cases failed
    rfl
  · cases failed
    rfl

theorem perform_error {dek : Bytes} {a : FileAction}
    (failed : (a.perform env faults random fs dek).2 = .error e) : e.isRefusal = false := by
  cases a with
  | openFile =>
    unfold FileAction.perform openAuthorized at failed
    dsimp only at failed
    split at failed
    · cases failed
      rfl
    · split at failed
      · rename_i unmade
        cases failed
        exact make_dirs_error unmade
      · split at failed
        · cases failed
          rfl
        · exact check_opened_error failed
  | moveToSecure =>
    unfold FileAction.perform moveAuthorized at failed
    dsimp only at failed
    split at failed
    · cases failed
      rfl
    · split at failed
      · rename_i unencrypted
        cases failed
        exact encrypt_file_error unencrypted
      · cases failed
  | delete secureId directory =>
    unfold FileAction.perform deleteAuthorized at failed
    dsimp only at failed
    split at failed
    · cases failed
      rfl
    · cases removed : (deleteSecureFile faults fs secureId directory).2 with
      | error =>
        rw [removed] at failed
        cases failed
        exact delete_secure_file_error removed
      | ok =>
        rw [removed] at failed
        cases failed

end Errors

section Gate
variable (env : ActionEnv) (faults : ActionFaults) (random : Nat → Bytes)

theorem run_refused_iff (s : AuthSession) (fs : FileSystem) (a : FileAction) :
    (∃ e, (a.run env faults random s fs).2 = .error e ∧ e.isRefusal = true) ↔
      s.isUnlocked = true ∧ s.dontAskAgainFiles = false := by
  constructor
  · rintro ⟨_, failed, refused⟩
    unfold FileAction.run at failed
    split at failed
    · cases failed
      cases refused
    · rename_i unlocked
      rw [Bool.not_eq_true, Bool.not_eq_false] at unlocked
      split at failed
      · rename_i asks
        rw [requires_reauth_file_action, unlocked, Bool.and_true] at asks
        exact ⟨unlocked, by simpa using asks⟩
      · split at failed
        · cases failed
          cases refused
        · rw [perform_error failed] at refused
          cases refused
  · rintro ⟨unlocked, asks⟩
    rw [FileAction.run, requires_reauth_file_action, unlocked, asks]
    exact ⟨_, rfl, rfl⟩

end Gate
end Peerc.Vault
