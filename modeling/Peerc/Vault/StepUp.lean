import Peerc.Lib.Runs
import Peerc.Vault.FileActions

/-!
Asking for the passphrase again before a file action. verify_passphrase leaves nothing behind that
requires_reauth could read.
-/
namespace Peerc.Vault
open Runs

structure PassphraseWrap where
  passphraseSalt : Bytes
  wrappedDekPassphrase : Bytes
  wrappedDekPassphraseNonce : Bytes

inductive VerifyError where
  | locked
  | invalidNonce
  deriving DecidableEq

/-- AESGCM takes nonces of 8 to 128 bytes and raises ValueError for others. -/
def validNonce (nonce : Bytes) : Bool := 8 ≤ nonce.length && nonce.length ≤ 128

/-- A wrong passphrase is WrongSecretError, here none. -/
def unlockWithPassphrase (env : VaultEnv) (keyfile : PassphraseWrap) (passphrase : Text) :
    Except VerifyError (Option Bytes) :=
  if ¬ validNonce keyfile.wrappedDekPassphraseNonce then .error .invalidNonce
  else
    .ok (env.aead.decrypt (env.deriveKek (utf8 passphrase) keyfile.passphraseSalt)
      keyfile.wrappedDekPassphraseNonce keyfile.wrappedDekPassphrase [])

def LiveSession.verifyPassphrase (env : VaultEnv) (s : LiveSession) (keyfile : PassphraseWrap)
    (passphrase : Text) : Except VerifyError Bool :=
  match s.dek with
  | none => .error .locked
  | some dek =>
      (unlockWithPassphrase env keyfile passphrase).map (fun unwrapped => unwrapped = some dek)

/-- Enabling is ignored while the session is locked. -/
def AuthSession.setDontAskAgainFiles (s : AuthSession) (enabled : Bool) : AuthSession :=
  if enabled ∧ ¬ s.isUnlocked then s else { s with dontAskAgainFiles := enabled }

/-- The marks, which the code does not keep: verified since the last action or lock, or just now. -/
structure StepUpState where
  session : AuthSession
  world : VaultWorld
  files : FileSystem
  verified : Bool
  just : Bool

/-- unlock comes with the database it was given and the setting it reads from it. -/
inductive SessionCall where
  | verify (keyfile : PassphraseWrap) (passphrase : Text)
  | setDontAskAgainFiles (enabled : Bool)
  | lock (nonce : VaultNonce) (random : Nat → Bytes) (faults : LockFaults)
  | unlock (dek : Bytes) (db : VaultDatabase) (world : VaultWorld) (requireForIncoming : Bool)
  | act (faults : ActionFaults) (random : Nat → Bytes) (a : FileAction)

namespace StepUpState
variable (env : ActionEnv)

def start (session : AuthSession) (world : VaultWorld) (files : FileSystem) : StepUpState :=
  ⟨session, world, files, false, false⟩

def verifies (t : StepUpState) (keyfile : PassphraseWrap) (passphrase : Text) : Bool :=
  t.session.verifyPassphrase env.toVaultEnv keyfile passphrase = .ok true

def step (t : StepUpState) : SessionCall → StepUpState
  | .verify keyfile passphrase =>
      let returned := t.verifies env keyfile passphrase
      { t with verified := t.verified || returned, just := returned }
  | .setDontAskAgainFiles enabled =>
      { t with session := t.session.setDontAskAgainFiles enabled, just := false }
  | .lock nonce random faults =>
      let locked := t.session.toLiveSession.lock env.toVaultEnv nonce random faults t.world
      { t with session := { t.session with toLiveSession := locked.1 }, world := locked.2.1,
               verified := false, just := false }
  | .unlock dek db world requireForIncoming =>
      match LiveSession.unlock dek db with
      | none => { t with just := false }
      | some live => { t with session := ⟨live, requireForIncoming⟩, world := world, just := false }
  | .act faults random a =>
      { t with files := (a.run env faults random t.session t.files).1, verified := false,
               just := false }

end StepUpState

def Refused (r : Except ActionError ActionResult) : Prop :=
  ∃ e, r = .error e ∧ e.isRefusal = true

def StepsUp (env : ActionEnv) (t : StepUpState) : SessionCall → Prop
  | .act faults random a =>
      t.session.isUnlocked = true → t.session.dontAskAgainFiles = false →
        (t.verified = false → Refused (a.run env faults random t.session t.files).2) ∧
        (t.just = true → ¬ Refused (a.run env faults random t.session t.files).2)
  | _ => True

def NotJustVerified (t : StepUpState) : SessionCall → Prop
  | .act .. => t.session.isUnlocked = true → t.session.dontAskAgainFiles = false → t.just = false
  | _ => True

section StepUp
variable (env : ActionEnv)

theorem steps_up_iff (t : StepUpState) (call : SessionCall) :
    StepsUp env t call ↔ NotJustVerified t call := by
  cases call with
  | act faults random a =>
    have refused := run_refused_iff env faults random t.session t.files a
    constructor
    · intro stepsUp unlocked asks
      by_contra verified
      rw [Bool.not_eq_false] at verified
      exact (stepsUp unlocked asks).2 verified (refused.mpr ⟨unlocked, asks⟩)
    · intro unverified unlocked asks
      constructor
      · intro _
        exact refused.mpr ⟨unlocked, asks⟩
      · intro verified
        rw [unverified unlocked asks] at verified
        cases verified
  | verify | setDontAskAgainFiles | lock | unlock => exact Iff.rfl

/-- If and only if no file action comes right after a verification that succeeded. -/
theorem step_up_satisfiable_iff (session : AuthSession) (world : VaultWorld) (files : FileSystem)
    (calls : List SessionCall) :
    Along (StepUpState.step env) (StepsUp env) (.start session world files) calls ↔
      Along (StepUpState.step env) NotJustVerified (.start session world files) calls := by
  have agree : ∀ t call, True → (StepsUp env t call ↔ NotJustVerified t call) :=
    fun t call _ => steps_up_iff env t call
  exact along_iff agree (fun _ _ _ _ => trivial) trivial calls

end StepUp

section Sample

def sampleActionEnv : ActionEnv :=
  { sampleVaultEnv with loadFile := fun _ => none, isLength := fun _ _ => false,
                        dumpFile := fun _ => [], windows := false }

def noActionFaults : ActionFaults :=
  ⟨⟨fun _ => false, fun _ => false, fun _ => false, fun _ => none⟩, fun _ => false, fun _ => none,
    fun _ => false⟩

def sampleDek : Bytes := List.replicate 32 7

def sampleWrap : PassphraseWrap where
  passphraseSalt := []
  wrappedDekPassphrase :=
    (Aead.labelled.encrypt (utf8 "open sesame") zeroNonce.val sampleDek []).getD []
  wrappedDekPassphraseNonce := zeroNonce.val

def sampleStepUp : StepUpState :=
  .start ⟨⟨some sampleDek, some sampleDatabase, false⟩, false⟩ sampleVault.world
    ⟨Dict.empty.set "/home/a.txt" [1, 2, 3], ["/home"]⟩

def sampleMove : FileAction :=
  .moveToSecure "/home/a.txt" "/vault" none false ⟨"id", [], [], .null⟩

def moveCall : SessionCall := .act noActionFaults (fun n => List.replicate n 0) sampleMove

def rightPassphrase : SessionCall := .verify sampleWrap "open sesame"

theorem verified_action_refused :
    sampleStepUp.verifies sampleActionEnv sampleWrap "open sesame" = true ∧
    (sampleMove.run sampleActionEnv noActionFaults (fun n => List.replicate n 0)
      (sampleStepUp.step sampleActionEnv rightPassphrase).session
        sampleStepUp.files).2.toOption.isNone
        = true ∧
    (sampleMove.run sampleActionEnv noActionFaults (fun n => List.replicate n 0)
      (sampleStepUp.session.setDontAskAgainFiles true) sampleStepUp.files).2.toOption.isSome =
        true ∧
    ¬ Along (StepUpState.step sampleActionEnv) (StepsUp sampleActionEnv) sampleStepUp
      [rightPassphrase, moveCall] := by
  have verifies : sampleStepUp.verifies sampleActionEnv sampleWrap "open sesame" = true := by
    decide +kernel
  refine ⟨verifies, by decide +kernel, by decide +kernel, ?_⟩
  rintro ⟨_, stepsUp, _⟩
  have just := verifies
  exact (stepsUp rfl rfl).2 just
    ((run_refused_iff sampleActionEnv _ _ _ _ sampleMove).mpr ⟨rfl, rfl⟩)

end Sample
end Peerc.Vault
