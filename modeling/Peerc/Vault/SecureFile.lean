import Peerc.Vault.Session

/-!
Files in secure storage: a ciphertext under a key derived from the data encryption key and the
salt in its metadata, a JSON text next to it. Any operation on the file system may raise.
-/
namespace Peerc.Vault

/-- A write that raises has written the given number of bytes. -/
structure FileFaults where
  read : Text → Bool
  makedirs : Text → Bool
  open_ : Text → Bool
  write : Text → Option Nat

structure FileSystem where
  files : Dict Text Bytes
  directories : List Text

def FileSystem.exists_ (fs : FileSystem) (path : Text) : Bool :=
  (fs.files.get path).isSome || decide (path ∈ fs.directories)

/-- os.path.join: an absolute second part replaces the first. -/
def joinPath (directory name : Text) : Text :=
  if name.head? = some '/' then name
  else if directory = [] ∨ directory.getLast? = some '/' then directory ++ name
  else directory ++ '/' :: name

/-- Nothing checks the types of the first two, of size and of the last two. -/
structure SecureFileMetadata where
  secureId : Json.Value
  originalFilename : Json.Value
  size : Json.Value
  salt : Bytes
  nonce : Bytes
  encryptedAt : Json.Value
  checksum : Option Json.Value

inductive SecureFileError where
  | notFound (path : Text)
  | raised (path : Text)
  | corruptMetadata
  | decryptionFailed
  | sizeMismatch

/-- Reading a UTF-8 JSON file, and the comparison of a parsed value with a length. -/
structure FileEnv extends VaultEnv where
  loadFile : Bytes → Option Json.Value
  isLength : Json.Value → Nat → Bool

def fileKeyLen : Nat := 32

def secureFileInfo : Bytes := utf8 "peerc-secure-file-v1"

section Storage
variable (env : FileEnv) (faults : FileFaults) (fs : FileSystem)

def deriveFileKey (dek salt : Bytes) : Bytes := env.hkdf dek salt secureFileInfo fileKeyLen

def readFile (path : Text) : Except SecureFileError Bytes :=
  match fs.files.get path with
  | none => .error (if fs.exists_ path then .raised path else .notFound path)
  | some content => if faults.read path then .error (.raised path) else .ok content

/-- A field that is missing, of the wrong type or no hexadecimal text raises. -/
def readMetadata (data : Json.Value) : Option SecureFileMetadata := do
  let secureId ← field "secure_id" data
  let originalFilename ← field "original_filename" data
  let size ← field "size" data
  let salt ← ((field "salt" data).bind asText).bind Hex.decode
  let nonce ← ((field "nonce" data).bind asText).bind Hex.decode
  let encryptedAt ← field "encrypted_at" data
  some ⟨secureId, originalFilename, size, salt, nonce, encryptedAt, field "checksum" data⟩

def loadMetadata (secureStorageDir secureId : Text) :
    Except SecureFileError SecureFileMetadata := do
  let content ← readFile faults fs (joinPath secureStorageDir (secureId ++ ".meta"))
  match (env.loadFile content).bind readMetadata with
  | none => .error .corruptMetadata
  | some metadata => .ok metadata

def openFile (secureStorageDir secureId : Text) (dek : Bytes) :
    Except SecureFileError (SecureFileMetadata × Bytes) := do
  let metadata ← loadMetadata env faults fs secureStorageDir secureId
  let ciphertext ← readFile faults fs (joinPath secureStorageDir (secureId ++ ".peercfile"))
  match env.aead.decrypt (deriveFileKey env dek metadata.salt) metadata.nonce ciphertext [] with
  | none => .error .decryptionFailed
  | some plaintext =>
      if env.isLength metadata.size plaintext.length then .ok (metadata, plaintext)
      else .error .sizeMismatch

def parents (path : Text) : List Text :=
  path.inits.filter (fun p => p ≠ [] && (p ++ ['/']).isPrefixOf path)

def writeFile (path : Text) (content : Bytes) : FileSystem × Except SecureFileError Unit :=
  if faults.makedirs path then (fs, .error (.raised path))
  else
    let made := { fs with directories := parents path ++ fs.directories }
    if path ∈ made.directories ∨ faults.open_ path then (made, .error (.raised path))
    else
      match faults.write path with
      | some n => ({ made with files := fs.files.set path (content.take n) }, .error (.raised path))
      | none => ({ made with files := fs.files.set path content }, .ok ())

def decryptFile (secureId secureStorageDir : Text) (dek : Bytes) (outputPath : Text) :
    FileSystem × Except SecureFileError SecureFileMetadata :=
  match openFile env faults fs secureStorageDir secureId dek with
  | .error e => (fs, .error e)
  | .ok (metadata, plaintext) =>
      let written := writeFile faults fs outputPath plaintext
      (written.1, written.2.map fun _ => metadata)

end Storage
end Peerc.Vault
