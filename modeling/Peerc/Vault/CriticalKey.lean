import Peerc.Lib.JsonStrings
import Peerc.Vault.Flush

/-!
Setting and changing the critical-action key. Its salts are in the keyfile, which is saved at
once; the verifier is in the database, which reaches the vault file at the next flush.
-/
namespace Peerc.Vault
open List Runs VaultSession Base64

def saltLen : Nat := 16

abbrev Salt := { salt : Bytes // salt.length = saltLen }

def minPassphraseLen : Nat := 8

/-- The database file as the statements on its settings table see it, and json.dumps. -/
structure DbEnv extends VaultEnv where
  withSchema : Bytes → Bytes
  settings : Bytes → Dict Text Text
  saveSetting : (image : Bytes) → (key value : Text) → Bytes
  deleteSetting : (image : Bytes) → (key : Text) → Bytes
  dumps : Json.Value → Text

structure Draw where
  keySalt : Salt
  verifierSalt : Salt
  nonce : VaultNonce

def Draw.salts (d : Draw) : CriticalSalts := ⟨some d.keySalt.val, some d.verifierSalt.val⟩

def verifierRecord (nonce ciphertext : Bytes) : Json.Value :=
  .object [("version", .number "1"),
    ("nonce", .string (encode nonce)),
    ("ciphertext", .string (encode ciphertext))]

inductive CriticalKeyError where
  | locked
  | alreadyConfigured
  | weakPassphrase
  | wrongSecret
  | raised

/-- validate_passphrase without a device name. -/
def validatePassphrase (passphrase : Text) : Bool :=
  decide (passphrase ≠ []) && decide (minPassphraseLen ≤ passphrase.length)

inductive CriticalCommand where
  | set (secret : Text)
  | change (oldSecret newSecret : Text)
  | clear (secret : Text)

section Session
variable (env : DbEnv) (dek : Bytes)

def sessionOver (image : Bytes) : VaultSession := ⟨some dek, some (env.settings image)⟩

def verifierKey (d : Draw) (secret : Text) : Bytes :=
  deriveCriticalAuthKey env.toVaultEnv dek d.keySalt.val d.verifierSalt.val secret

def writeCriticalVerifier (image : Bytes) (d : Draw) (secret : Text) :
    Except CriticalKeyError (CriticalSalts × Bytes) :=
  match env.aead.encrypt (verifierKey env dek d secret) d.nonce.val
    criticalVerifierPlaintext [] with
  | none => .error .raised
  | some ciphertext =>
      .ok (d.salts, env.saveSetting image settingCriticalKeyVerifier
        (env.dumps (verifierRecord d.nonce.val ciphertext)))

variable (keyfile : CriticalSalts)

def setCriticalActionKey (image : Bytes) (d : Draw) (secret : Text) :
    Except CriticalKeyError (CriticalSalts × Bytes) :=
  if criticalActionKeyConfigured keyfile then .error .alreadyConfigured
  else if ¬ validatePassphrase secret then .error .weakPassphrase
  else writeCriticalVerifier env dek image d secret

def proveSecret (image : Bytes) (secret : Text) : Except CriticalKeyError Unit :=
  match (sessionOver env dek image).verifyCriticalActionKey env.toVaultEnv keyfile secret with
  | .error _ => .error .locked
  | .ok false => .error .wrongSecret
  | .ok true => .ok ()

def changeCriticalActionKey (image : Bytes) (d : Draw) (oldSecret newSecret : Text) :
    Except CriticalKeyError (CriticalSalts × Bytes) := do
  proveSecret env dek keyfile image oldSecret
  if ¬ validatePassphrase newSecret then .error .weakPassphrase
  else writeCriticalVerifier env dek image d newSecret

def clearCriticalActionKey (image : Bytes) (secret : Text) :
    Except CriticalKeyError (CriticalSalts × Bytes) := do
  proveSecret env dek keyfile image secret
  .ok (⟨none, none⟩, env.deleteSetting image settingCriticalKeyVerifier)

def performCommand (image : Bytes) (d : Draw) :
    CriticalCommand → Except CriticalKeyError (CriticalSalts × Bytes)
  | .set secret => setCriticalActionKey env dek keyfile image d secret
  | .change oldSecret newSecret =>
    changeCriticalActionKey env dek keyfile image d oldSecret newSecret
  | .clear secret => clearCriticalActionKey env dek keyfile image secret

end Session

structure Made where
  draw : Draw
  secret : Text

def saltsOf : Option Made → CriticalSalts
  | none => ⟨none, none⟩
  | some m => m.draw.salts

def CriticalCommand.makes (d : Draw) : CriticalCommand → Option Made
  | .set secret => some ⟨d, secret⟩
  | .change _ newSecret => some ⟨d, newSecret⟩
  | .clear _ => none

/-- The keyfile on disk and one changed and not saved yet; the rest is history. -/
structure CriticalState where
  world : VaultWorld
  keyfile : CriticalSalts
  held : Option CriticalSalts
  made : Option Made
  flushed : Option Made
  onFile : Option Made
  oldSecret : Option Text
  unflushed : Bool
  used : List Bytes

inductive CriticalEvent where
  | command (c : CriticalCommand) (d : Draw)
  | saveKeyfile
  | execute (image : Bytes)
  | flush (nonce : VaultNonce) (faults : FlushOp → Option Nat)

def storedVerifier (env : DbEnv) (image : Bytes) : Option Text :=
  (env.settings image).get settingCriticalKeyVerifier

def verifierIn (env : DbEnv) (image : Bytes) : Option Json.Value :=
  (storedVerifier env image).bind env.loads

namespace CriticalState
variable (env : DbEnv) (db : VaultDatabase) (dek : Bytes)

def start (w : VaultWorld) (m : Option Made) : CriticalState :=
  ⟨w, saltsOf m, none, m, m, m, none, false, (m.map (fun m => m.draw.verifierSalt.val)).toList⟩

variable (s : CriticalState)

def command (c : CriticalCommand) (d : Draw) : CriticalState :=
  match db.latest s.world with
  | none => s
  | some image =>
      match performCommand env dek s.keyfile image d c with
      | .error _ => s
      | .ok (keyfile, image') =>
          { s with
            world := db.commit { s.world with pending := some image' }
            held := some keyfile
            made := c.makes d
            oldSecret := s.onFile.map Made.secret
            used := d.verifierSalt.val :: s.used }

def saveKeyfile (keyfile : CriticalSalts) : CriticalState :=
  { s with keyfile := keyfile, held := none, onFile := s.made, unflushed := true }

def flush (nonce : VaultNonce) (faults : FlushOp → Option Nat) : CriticalState :=
  let flushed := db.flush env.toVaultEnv nonce faults s.world
  if flushed.2 then { s with world := flushed.1, flushed := s.made, unflushed := false }
  else { s with world := flushed.1 }

/-- While the caller holds a changed keyfile nothing else runs. -/
def step : CriticalEvent → CriticalState
  | .command c d =>
      match s.held with
      | some _ => s
      | none => s.command env db dek c d
  | .saveKeyfile =>
      match s.held with
      | some keyfile => s.saveKeyfile keyfile
      | none => s
  | .execute image =>
      if s.held.isNone ∧ (db.latest s.world).bind (storedVerifier env) =
        storedVerifier env image then
        { s with world := { s.world with pending := some image } }
      else s
  | .flush nonce faults =>
      match s.held with
      | some _ => s
      | none => s.flush env db nonce faults

def reloaded : Option VaultSession :=
  (db.unlock env.toVaultEnv env.withSchema s.world.disk).bind (fun w =>
    (db.latest w).map (sessionOver env dek))

def passes (session : VaultSession) (secret : Text) : Bool :=
  match session.verifyCriticalActionKey env.toVaultEnv s.keyfile secret with
  | .ok passed => passed
  | .error _ => false

end CriticalState

open CriticalState

def Recoverable (env : DbEnv) (db : VaultDatabase) (dek : Bytes) (s : CriticalState) : Prop :=
  ∃ session, s.reloaded env db dek = some session ∧
    (criticalActionKeyConfigured s.keyfile = false ∨
      ∃ secret, (s.oldSecret = some secret ∨ s.made.map Made.secret = some secret) ∧
        s.passes env session secret = true)

/-- A ciphertext opens under its own key only, and what was saved is read back. -/
structure IdealVault (env : DbEnv) : Prop where
  opens : env.aead.Opens
  commits : ∀ key key' nonce plaintext plaintext' ciphertext, key.length = kekLen →
    key'.length = kekLen → env.aead.encrypt key nonce plaintext [] = some ciphertext →
    env.aead.decrypt key' nonce ciphertext [] = some plaintext' → key' = key
  keyLength : ∀ material salt, (env.hkdf material salt criticalAuthInfo kekLen).length = kekLen
  salted : ∀ material material' salt salt', salt.length = saltLen → salt'.length = saltLen →
    env.hkdf material salt criticalAuthInfo kekLen =
      env.hkdf material' salt' criticalAuthInfo kekLen →
    salt = salt'
  saved : ∀ image nonce ciphertext,
    verifierIn env (env.saveSetting image settingCriticalKeyVerifier
      (env.dumps (verifierRecord nonce ciphertext))) = some (verifierRecord nonce ciphertext)
  deleted : ∀ image, verifierIn env (env.deleteSetting image settingCriticalKeyVerifier) = none
  schema : ∀ image, verifierIn env (env.withSchema image) = verifierIn env image

def Holds (env : DbEnv) (dek image : Bytes) : Option Made → Prop
  | none => verifierIn env image = none
  | some m => ∃ ciphertext,
      env.aead.encrypt (verifierKey env dek m.draw m.secret) m.draw.nonce.val
        criticalVerifierPlaintext [] = some ciphertext ∧
      verifierIn env image = some (verifierRecord m.draw.nonce.val ciphertext)

variable {image' : Bytes} {m : Option Made} {d : Draw} {keyfile : CriticalSalts}
  {c : CriticalCommand}

section Verifier
variable {env : DbEnv} {dek image : Bytes}

theorem holds_congr (holds : Holds env dek image m)
    (same : verifierIn env image' = verifierIn env image) : Holds env dek image' m := by
  cases m with
  | none => exact same.trans holds
  | some =>
    obtain ⟨ciphertext, encrypted, stored⟩ := holds
    exact ⟨ciphertext, encrypted, same.trans stored⟩

theorem verifier_opens_record (key nonce ciphertext : Bytes) :
    verifierOpens env.toVaultEnv key (verifierRecord nonce ciphertext) =
      decide (env.aead.decrypt key nonce ciphertext [] = some criticalVerifierPlaintext) := by
  have fields : (field "nonce" (verifierRecord nonce ciphertext)).bind asText =
        some (encode nonce) ∧
      (field "ciphertext" (verifierRecord nonce ciphertext)).bind asText =
        some (encode ciphertext) := ⟨rfl, rfl⟩
  unfold verifierOpens
  rw [fields.1, fields.2]
  simp [decode_encode]

theorem verify_over (d : Draw) (secret : Text) :
    (sessionOver env dek image).verifyCriticalActionKey env.toVaultEnv d.salts secret =
      .ok (match verifierIn env image with
        | none => false
        | some record => verifierOpens env.toVaultEnv (verifierKey env dek d secret) record) := by
  have read : (sessionOver env dek image).readSetting env.toVaultEnv settingCriticalKeyVerifier =
      verifierIn env image := rfl
  simp only [verifyCriticalActionKey, sessionOver, Draw.salts]
  simp only [sessionOver] at read
  rw [read]
  cases verifierIn env image <;> rfl

variable (ideal : IdealVault env)
include ideal

theorem holder_passes {m : Made} (holds : Holds env dek image (some m)) :
    (sessionOver env dek image).verifyCriticalActionKey env.toVaultEnv m.draw.salts m.secret =
      .ok true := by
  obtain ⟨_, encrypted, stored⟩ := holds
  have opened := ideal.opens _ _ _ _ _ encrypted
  simp [verify_over, stored, verifier_opens_record, opened]

theorem others_fail (holds : Holds env dek image m)
    (apart : ∀ f, m = some f → d.verifierSalt ≠ f.draw.verifierSalt) (secret : Text) :
    (sessionOver env dek image).verifyCriticalActionKey env.toVaultEnv d.salts secret =
      .ok false := by
  rw [verify_over]
  cases m with
  | none =>
    have absent : verifierIn env image = none := holds
    rw [absent]
  | some f =>
    obtain ⟨_, encrypted, stored⟩ := holds
    simp only [stored, verifier_opens_record, Except.ok.injEq, decide_eq_false_iff_not]
    intro opened
    have same := ideal.commits _ _ _ _ _ _ (ideal.keyLength _ _) (ideal.keyLength _ _) encrypted
      opened
    have salts := ideal.salted _ _ _ _ d.verifierSalt.property f.draw.verifierSalt.property same
    exact apart f rfl (Subtype.ext salts)

theorem write_holds {secret : Text}
    (wrote : writeCriticalVerifier env dek image d secret = .ok (keyfile, image')) :
    keyfile = d.salts ∧ Holds env dek image' (some ⟨d, secret⟩) := by
  unfold writeCriticalVerifier at wrote
  split at wrote
  · cases wrote
  · rename_i ciphertext encrypted
    obtain ⟨rfl, rfl⟩ := Prod.mk.inj (Except.ok.inj wrote)
    exact ⟨rfl, ciphertext, encrypted, ideal.saved image d.nonce.val ciphertext⟩

theorem perform_holds {before : CriticalSalts}
    (performed : performCommand env dek before image d c = .ok (keyfile, image')) :
    keyfile = saltsOf (c.makes d) ∧ Holds env dek image' (c.makes d) := by
  cases c with
  | set =>
    simp only [performCommand, setCriticalActionKey] at performed
    split at performed
    · cases performed
    · split at performed
      · cases performed
      · exact write_holds ideal performed
  | change oldSecret =>
    simp only [performCommand, changeCriticalActionKey] at performed
    cases proved : proveSecret env dek before image oldSecret with
    | error => simp [proved, bind, Except.bind] at performed
    | ok =>
      simp only [proved, bind, Except.bind] at performed
      split at performed
      · cases performed
      · exact write_holds ideal performed
  | clear secret =>
    simp only [performCommand, clearCriticalActionKey] at performed
    cases proved : proveSecret env dek before image secret with
    | error => simp [proved, bind, Except.bind] at performed
    | ok =>
      simp only [proved, bind, Except.bind, Except.ok.injEq, Prod.mk.injEq] at performed
      obtain ⟨rfl, rfl⟩ := performed
      exact ⟨rfl, ideal.deleted image⟩

end Verifier

def FreshDraw (s : CriticalState) : CriticalEvent → Prop
  | .command _ d => d.verifierSalt.val ∉ s.used
  | _ => True

def Apart (m f : Option Made) : Prop :=
  ∀ a b, m = some a → f = some b → a.draw.verifierSalt ≠ b.draw.verifierSalt

structure Tracked (env : DbEnv) (db : VaultDatabase) (dek : Bytes) (s : CriticalState) : Prop where
  attached : Attached db s.world
  live : ∃ image, db.latest s.world = some image ∧ Holds env dek image s.made
  vault : ∃ saved, db.vaultState env.toVaultEnv s.world.disk.live = some saved ∧
    Holds env dek (saved.getD []) s.flushed
  keyed : s.keyfile = saltsOf s.onFile
  heldKeyed : ∀ keyfile, s.held = some keyfile → keyfile = saltsOf s.made
  settled : s.held = none → s.onFile = s.made
  before : s.held ≠ none → s.oldSecret = s.onFile.map Made.secret
  synced : s.unflushed = false → s.flushed = s.onFile
  apart : s.unflushed = true → Apart s.onFile s.flushed
  apartHeld : s.held ≠ none → Apart s.made s.flushed
  drawnMade : ∀ m, s.made = some m → m.draw.verifierSalt.val ∈ s.used
  drawnFlushed : ∀ m, s.flushed = some m → m.draw.verifierSalt.val ∈ s.used

section Steps
variable {env : DbEnv} {db : VaultDatabase} {dek : Bytes} {s : CriticalState}

theorem tracked_start {w : VaultWorld} {image : Bytes} {saved : Option Bytes}
    (attached : Attached db w) (newest : db.latest w = some image)
    (file : db.vaultState env.toVaultEnv w.disk.live = some saved)
    (live : Holds env dek image m) (vault : Holds env dek (saved.getD []) m) :
    Tracked env db dek (start w m) where
  attached := attached
  live := ⟨image, newest, live⟩
  vault := ⟨saved, file, vault⟩
  keyed := rfl
  heldKeyed keyfile holding := by cases holding
  settled _ := rfl
  before holding := absurd rfl holding
  synced _ := rfl
  apart late := by cases late
  apartHeld holding := absurd rfl holding
  drawnMade m' same := by
    have here : m = some m' := same
    simp [start, here]
  drawnFlushed m' same := by
    have here : m = some m' := same
    simp [start, here]

theorem makes_draw {m : Made} (made : c.makes d = some m) :
    m.draw = d := by
  cases c with
  | set | change => exact (Option.some.inj made) ▸ rfl
  | clear => cases made

theorem tracked_command (ideal : IdealVault env) (inv : Tracked env db dek s)
    (fresh : d.verifierSalt.val ∉ s.used) :
    Tracked env db dek (s.command env db dek c d) := by
  unfold command
  split
  · exact inv
  · rename_i image newest
    split
    · exact inv
    · rename_i image' performed
      obtain ⟨salts, holds⟩ := perform_holds ideal performed
      have attached : Attached db { s.world with pending := some image' } :=
        ⟨inv.attached.connected, inv.attached.copy⟩
      obtain ⟨saved, file, stored⟩ := inv.vault
      refine ⟨attached.commit, ⟨image', commit_latest rfl attached.copy, holds⟩,
        ⟨saved, ?_, stored⟩, inv.keyed, ?_, ?_, fun _ => rfl, inv.synced, inv.apart, ?_, ?_, ?_⟩
      · rw [← file]
        exact vault_state_congr (commit_keeps_file _ db.apart.symm)
      · intro _ same
        obtain rfl := Option.some.inj same
        exact salts
      · intro none_
        cases none_
      · intro _ _ b made flushed
        -- the salt is new, and the one in the vault file was drawn before
        have drawn := inv.drawnFlushed b flushed
        rw [makes_draw made]
        intro same
        exact fresh (same ▸ drawn)
      · intro _ made
        rw [makes_draw made]
        exact mem_cons_self
      · intro m flushed
        exact mem_cons_of_mem _ (inv.drawnFlushed m flushed)

theorem tracked_save (inv : Tracked env db dek s)
    (holding : s.held = some keyfile) : Tracked env db dek (s.saveKeyfile keyfile) where
  attached := inv.attached
  live := inv.live
  vault := inv.vault
  keyed := inv.heldKeyed keyfile holding
  heldKeyed keyfile' none_ := by cases none_
  settled _ := rfl
  before none_ := absurd rfl none_
  synced fresh := by cases fresh
  apart _ := inv.apartHeld (by rw [holding]; exact Option.some_ne_none keyfile)
  apartHeld none_ := absurd rfl none_
  drawnMade := inv.drawnMade
  drawnFlushed := inv.drawnFlushed

theorem tracked_execute (inv : Tracked env db dek s) {image : Bytes}
    (same : (db.latest s.world).bind (storedVerifier env) = storedVerifier env image) :
    Tracked env db dek { s with world := { s.world with pending := some image } } := by
  obtain ⟨before, newest, holds⟩ := inv.live
  rw [newest, Option.bind_some] at same
  have verifier : verifierIn env image = verifierIn env before := by
    unfold verifierIn
    rw [same]
  exact { inv with
    attached := ⟨inv.attached.connected, inv.attached.copy⟩
    live := ⟨image, rfl, holds_congr holds verifier⟩ }

section Ideal
variable (ideal : IdealVault env)
include ideal

variable (inv : Tracked env db dek s)
include inv

theorem tracked_flush (idle : s.held = none) (nonce : VaultNonce) (faults : FlushOp → Option Nat) :
    Tracked env db dek (s.flush env db nonce faults) := by
  obtain ⟨image, newest, holds⟩ := inv.live
  have attached := inv.attached.flush env.toVaultEnv nonce faults
  have latest : db.latest (db.flush env.toVaultEnv nonce faults s.world).1 = some image :=
    (flush_latest ideal.opens inv.attached).trans newest
  unfold flush
  dsimp only
  split
  · rename_i returned
    have written := flush_saves ideal.opens inv.attached newest returned
    exact { inv with
      attached := attached
      live := ⟨image, latest, holds⟩
      vault := ⟨some image, vault_state_of_image written, holds⟩
      synced := fun _ => (inv.settled idle).symm
      apart := by intro late; cases late
      apartHeld := fun holding => absurd idle holding
      drawnFlushed := inv.drawnMade }
  · rename_i raised
    obtain ⟨saved, file, stored⟩ := inv.vault
    have kept := flush_raises_keeps_vault ideal.opens inv.attached (Bool.eq_false_iff.mpr raised)
    exact { inv with
      attached := attached
      live := ⟨image, latest, holds⟩
      vault := ⟨saved, (vault_state_congr kept).trans file, stored⟩ }

theorem tracked_step (e : CriticalEvent) (fresh : FreshDraw s e) :
    Tracked env db dek (s.step env db dek e) := by
  cases e with
  | command =>
    simp only [step]
    split
    · exact inv
    · exact tracked_command ideal inv fresh
  | saveKeyfile =>
    simp only [step]
    split
    · rename_i holding
      exact tracked_save inv holding
    · exact inv
  | execute =>
    simp only [step]
    split
    · rename_i allowed
      exact tracked_execute inv allowed.2
    · exact inv
  | flush nonce faults =>
    simp only [step]
    split
    · exact inv
    · rename_i idle
      exact tracked_flush ideal inv idle nonce faults

theorem tracked_run {es : List CriticalEvent} (fresh : Along (step env db dek) FreshDraw s es) :
    Tracked env db dek (run (step env db dek) s es) := by
  exact invariant_run (fun s e (inv : Tracked env db dek s) fresh =>
    tracked_step ideal inv e fresh) inv fresh

theorem reloaded_holds : ∃ image, s.reloaded env db dek = some (sessionOver env dek image) ∧
      Holds env dek image s.flushed := by
  obtain ⟨saved, file, holds⟩ := inv.vault
  obtain ⟨_, unlocked, _, newest⟩ := unlock_attached env.withSchema file
  refine ⟨env.withSchema (saved.getD []), ?_, holds_congr holds (ideal.schema _)⟩
  simp [reloaded, unlocked, newest]

theorem tracked_recoverable_iff : Recoverable env db dek s ↔
      (criticalActionKeyConfigured s.keyfile = true → s.unflushed = false) := by
  obtain ⟨_, reload, holds⟩ := reloaded_holds ideal inv
  cases file : s.onFile with
  | none =>
    have unset : criticalActionKeyConfigured s.keyfile = false := by
      rw [inv.keyed, file]
      rfl
    rw [unset]
    exact ⟨fun _ configured => (by cases configured), fun _ => ⟨_, reload, .inl unset⟩⟩
  | some m =>
    have salts : s.keyfile = m.draw.salts := by
      rw [inv.keyed, file]
      rfl
    have configured : criticalActionKeyConfigured s.keyfile = true := by
      rw [salts]
      rfl
    constructor
    · rintro ⟨session, same, unset | ⟨secret, _, passed⟩⟩ _
      · rw [configured] at unset
        cases unset
      · obtain rfl := Option.some.inj (reload.symm.trans same)
        cases late : s.unflushed with
        | false => rfl
        | true =>
          have fails := others_fail ideal holds (d := m.draw) (inv.apart late m · file) secret
          simp [passes, salts, fails] at passed
    · intro agree
      have flushed := (inv.synced (agree configured)).trans file
      rw [flushed] at holds
      refine ⟨_, reload, .inr ⟨m.secret, ?_, ?_⟩⟩
      · by_cases idle : s.held = none
        · rw [← inv.settled idle, file]
          exact .inr rfl
        · rw [inv.before idle, file]
          exact .inl rfl
      · simp [passes, salts, holder_passes ideal holds]

end Ideal

/-- The user can go on exactly if no keyfile with a key was saved since the last flush. -/
theorem recoverable_iff_flushed (ideal : IdealVault env) {w : VaultWorld} {m : Option Made}
    {image : Bytes} {saved : Option Bytes} (attached : Attached db w)
    (newest : db.latest w = some image)
    (file : db.vaultState env.toVaultEnv w.disk.live = some saved)
    (live : Holds env dek image m) (vault : Holds env dek (saved.getD []) m)
    {es : List CriticalEvent}
    (fresh : Along (step env db dek) FreshDraw (start w m) es) :
    Recoverable env db dek (run (step env db dek) (start w m) es) ↔
      (criticalActionKeyConfigured
          (run (step env db dek) (start w m) es).keyfile = true →
        (run (step env db dek) (start w m) es).unflushed = false) :=
  tracked_recoverable_iff ideal
    (tracked_run ideal (tracked_start attached newest file live vault) fresh)

end Steps
section Sample

open Decoded

/-- json.dumps of a record whose fields are no records. -/
def sampleDumps : Json.Value → Text
  | .object fields => '{' :: ((fields.flatMap fun f => label f.1 ++ f.2.write).drop 2 ++ ['}'])
  | value => value.write

def recordHead : Text := '{' :: "\"version\": 1"

/-- json.loads, on the texts of verifier records. -/
def sampleLoads (t : Text) : Option Json.Value := do
  let nonce ← entry (label "nonce") readQuoted (← expect recordHead t)
  let ciphertext ← entry (label "ciphertext") readQuoted nonce.2
  guard (ciphertext.2 = ['}'])
  some (.object [("version", .number "1"), ("nonce", .string (← toText nonce.1)),
    ("ciphertext", .string (← toText ciphertext.1))])

def sampleDbEnv : DbEnv where
  aead := Aead.labelled
  hkdf material salt _ len := (salt ++ material ++ List.replicate len 0).take len
  deriveKek secret _ := secret
  loads := sampleLoads
  withSchema image := image
  settings image :=
    if image = [] then Dict.empty
    else Dict.empty.set settingCriticalKeyVerifier (image.map (fun b => Char.ofNat b.toNat))
  saveSetting _ _ value := utf8 value
  deleteSetting _ _ := []
  dumps := sampleDumps

theorem sample_dumps_eq (nonce ciphertext : Bytes) :
    sampleDumps (verifierRecord nonce ciphertext) = recordHead ++ (label "nonce" ++
      (Json.quote (encode nonce) ++ (label "ciphertext" ++
        (Json.quote (encode ciphertext) ++ ['}'])))) := by
  simp [sampleDumps, verifierRecord, Json.Value.write, recordHead, label]

theorem sample_reads_back (nonce ciphertext : Bytes) :
    sampleLoads (sampleDumps (verifierRecord nonce ciphertext)) =
      some (verifierRecord nonce ciphertext) := by
  rw [sample_dumps_eq, sampleLoads, expect_append]
  simp only [Option.bind_eq_bind, Option.bind_some, entry_read (read_quote_text _ _),
    to_text_of_text]
  rfl

theorem sample_printable (nonce ciphertext : Bytes) :
    Json.Printable (sampleDumps (verifierRecord nonce ciphertext)) := by
  have quoted := Json.quote_printable
  rw [sample_dumps_eq]
  exact Json.Printable.append (by decide) (Json.Printable.append (by decide) ((quoted _).append
    (Json.Printable.append (by decide) ((quoted _).append (by decide)))))

theorem sample_ideal : IdealVault sampleDbEnv where
  opens := Aead.labelled_opens
  commits key key' nonce plaintext plaintext' ciphertext len len' encrypted opened := by
    have small : kekLen < 2 ^ 32 := by decide
    exact Aead.labelled_commits (len ▸ small) (len' ▸ small) encrypted opened
  keyLength material salt := by
    simp only [sampleDbEnv, length_take, length_append, length_replicate]
    omega
  salted material material' salt salt' len len' same := by
    have front := congrArg (List.take saltLen) same
    simp only [sampleDbEnv, take_take, append_assoc] at front
    have smaller : min saltLen kekLen = saltLen := by decide
    rw [smaller, ← len, take_left, len, ← len', take_left] at front
    exact front
  saved image nonce ciphertext := by
    have ascii := ascii_of_utf8 (sample_printable nonce ciphertext)
    have filled : utf8 (sampleDumps (verifierRecord nonce ciphertext)) ≠ [] := by
      intro empty
      rw [empty] at ascii
      cases ascii
    simp only [verifierIn, storedVerifier, sampleDbEnv, if_neg filled, Dict.get_set, if_true,
      ascii, Option.bind_some, sample_reads_back]
  deleted image := rfl
  schema image := rfl

def sampleDraw (n : UInt8) : Draw :=
  ⟨⟨List.replicate saltLen n, length_replicate⟩, ⟨List.replicate saltLen n, length_replicate⟩,
    zeroNonce⟩

def criticalStart : CriticalState :=
  start (sampleDatabase.attach [] ⟨Disk.empty, fun _ => []⟩) none

def sampleCommands (es : List CriticalEvent) : CriticalState :=
  run (step sampleDbEnv sampleDatabase []) criticalStart es

def setAndFlush : List CriticalEvent :=
  [.command (.set "password1") (sampleDraw 1), .saveKeyfile, .flush zeroNonce (fun _ => none)]

theorem no_key_at_start : Holds sampleDbEnv [] [] none := rfl

theorem flushed_key_recoverable :
    Recoverable sampleDbEnv sampleDatabase [] (sampleCommands setAndFlush) := by
  have attached := attach_attached sampleDatabase [] ⟨Disk.empty, fun _ => []⟩
  have fresh : Along (step sampleDbEnv sampleDatabase []) FreshDraw criticalStart
      setAndFlush := ⟨not_mem_nil, trivial, trivial, trivial⟩
  apply (recoverable_iff_flushed sample_ideal attached.1 attached.2 rfl no_key_at_start
    no_key_at_start fresh).mpr
  intro _
  decide

def changeAndSave : List CriticalEvent :=
  setAndFlush ++
    [.command (.change "password1" "password2") (sampleDraw 2), .saveKeyfile]

theorem saved_keyfile_locks_out :
    (criticalActionKeyConfigured (sampleCommands (setAndFlush.take 2)).keyfile = true ∧
      ¬ Recoverable sampleDbEnv sampleDatabase [] (sampleCommands (setAndFlush.take 2))) ∧
    ((sampleCommands changeAndSave).oldSecret = some "password1".toList ∧
      (sampleCommands changeAndSave).made.map Made.secret = some "password2".toList ∧
      criticalActionKeyConfigured (sampleCommands changeAndSave).keyfile = true ∧
      ¬ Recoverable sampleDbEnv sampleDatabase [] (sampleCommands changeAndSave)) := by
  have attached := attach_attached sampleDatabase [] ⟨Disk.empty, fun _ => []⟩
  have start : Tracked sampleDbEnv sampleDatabase [] criticalStart :=
    tracked_start attached.1 attached.2 rfl no_key_at_start no_key_at_start
  have lockedOut : ∀ es, Along (step sampleDbEnv sampleDatabase []) FreshDraw
      criticalStart es →
      criticalActionKeyConfigured (sampleCommands es).keyfile = true →
      (sampleCommands es).unflushed = true →
      ¬ Recoverable sampleDbEnv sampleDatabase [] (sampleCommands es) := by
    intro es fresh configured late recoverable
    have agree := (tracked_recoverable_iff sample_ideal (tracked_run sample_ideal start fresh)).mp
      recoverable configured
    rw [show (run _ criticalStart es).unflushed = true from late] at agree
    cases agree
  have set_ : criticalActionKeyConfigured
      (sampleCommands (setAndFlush.take 2)).keyfile = true := by decide
  have changed : criticalActionKeyConfigured
      (sampleCommands changeAndSave).keyfile = true := by decide +kernel
  have redrawn : (sampleDraw 2).verifierSalt.val ∉ (sampleCommands setAndFlush).used := by
    decide +kernel
  refine ⟨⟨set_, lockedOut _ ?_ set_ (by decide)⟩, by decide +kernel, by decide +kernel, changed,
    lockedOut _ ?_ changed (by decide +kernel)⟩
  · exact ⟨not_mem_nil, trivial, trivial⟩
  · exact ⟨not_mem_nil, trivial, trivial, redrawn, trivial, trivial⟩

end Sample
end Peerc.Vault
