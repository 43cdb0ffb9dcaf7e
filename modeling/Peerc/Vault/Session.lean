import Peerc.Lib.Aead
import Peerc.Lib.Json
import Peerc.Lib.Table

/-!
The unlocked vault session as far as exports ask for it: the data encryption key, the settings
table, and the optional critical-action key.
-/
namespace Peerc.Vault

structure VaultEnv where
  aead : Aead
  hkdf : (material salt info : Bytes) → Nat → Bytes
  deriveKek : (secret salt : Bytes) → Bytes
  loads : Text → Option Json.Value

/-- The fields of the keyfile that mark the critical-action key. -/
structure CriticalSalts where
  criticalKeySalt : Option Bytes
  criticalKeyVerifierSalt : Option Bytes
  deriving DecidableEq

/-- The settings are those of vault_db, which is None while the session is locked. -/
structure VaultSession where
  dek : Option Bytes
  settings : Option (Dict Text Text)

inductive SessionError where
  | locked
  deriving DecidableEq

def settingCriticalKeyVerifier : Text := "critical_key_verifier"

def criticalAuthInfo : Bytes := utf8 "peerc-critical-export-auth-v1"

def criticalVerifierPlaintext : Bytes := utf8 "peerc-critical-export-verifier-v1"

def kekLen : Nat := 32

def field (name : Text) : Json.Value → Option Json.Value
  | .object fields => (fields.find? (fun f => f.1 = name)).map Prod.snd
  | _ => none

def asText : Json.Value → Option Text
  | .string t => some t
  | _ => none

namespace VaultSession
variable (env : VaultEnv) (s : VaultSession)

def isUnlocked : Bool := s.dek.isSome && s.settings.isSome

def readSetting (key : Text) : Option Json.Value :=
  (s.settings.bind (fun settings => settings.get key)).bind env.loads

variable (keyfile : CriticalSalts)

def criticalActionKeyConfigured : Bool :=
  keyfile.criticalKeySalt.isSome && keyfile.criticalKeyVerifierSalt.isSome

def deriveCriticalAuthKey (dek keySalt verifierSalt : Bytes) (criticalSecret : Text) : Bytes :=
  env.hkdf (dek ++ env.deriveKek (utf8 criticalSecret) keySalt) verifierSalt criticalAuthInfo kekLen

/-- The stored verifier decrypts to the fixed text. Both fields have to be base64 texts. -/
def verifierOpens (authKey : Bytes) (record : Json.Value) : Bool :=
  match (field "nonce" record).bind asText, (field "ciphertext" record).bind asText with
  | some nonce, some ciphertext =>
      match Base64.decode nonce, Base64.decode ciphertext with
      | some nonce, some ciphertext =>
          env.aead.decrypt authKey nonce ciphertext [] = some criticalVerifierPlaintext
      | _, _ => false
  | _, _ => false

def verifyCriticalActionKey (criticalSecret : Text) : Except SessionError Bool :=
  match s.dek, s.settings with
  | some dek, some _ =>
      match keyfile.criticalKeySalt, keyfile.criticalKeyVerifierSalt with
      | some keySalt, some verifierSalt =>
          match s.readSetting env settingCriticalKeyVerifier with
          | none => .ok false
          | some record => .ok (verifierOpens env
              (deriveCriticalAuthKey env dek keySalt verifierSalt criticalSecret) record)
      | _, _ => .ok false
  | _, _ => .error .locked

def authorizeExport (criticalSecret : Option Text) : Except SessionError Bool :=
  if ¬ s.isUnlocked then .error .locked
  else if ¬ criticalActionKeyConfigured keyfile then .ok true
  else
    match criticalSecret with
    | none => .ok false
    | some secret => s.verifyCriticalActionKey env keyfile secret

end VaultSession
end Peerc.Vault
