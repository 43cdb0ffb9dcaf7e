import Peerc.Vault.Database

/-!
Unlocking and locking the vault session. Locking first forgets the key and the database and then
lets the database flush, close and delete its working copy.
-/
namespace Peerc.Vault

structure LiveSession where
  dek : Option Bytes
  vaultDb : Option VaultDatabase
  dontAskAgainFiles : Bool

namespace LiveSession

def isUnlocked (s : LiveSession) : Bool := s.dek.isSome && s.vaultDb.isSome

/-- A key of another length raises. -/
def unlock (dek : Bytes) (db : VaultDatabase) : Option LiveSession :=
  if dek.length ≠ 32 then none else some ⟨some dek, some db, false⟩

end LiveSession

def VaultDatabase.attach (db : VaultDatabase) (image : Bytes) (disk : Durable Text) : VaultWorld :=
  let opened := disk.openFresh db.workingPath
  ⟨opened.1.modify opened.2 (fun _ => image), none, true, false⟩

open VaultDatabase

/-- executescript(SCHEMA) is a function on the file; one that does not decrypt raises. -/
def VaultDatabase.unlock (env : VaultEnv) (withSchema : Bytes → Bytes) (db : VaultDatabase)
    (disk : Durable Text) : Option VaultWorld :=
  match disk.live.read db.vaultDbPath with
  | none => some (db.attach (withSchema []) disk)
  | some blob => (db.openBlob env blob).map (fun image => db.attach (withSchema image) disk)

theorem attach_attached (db : VaultDatabase) (image : Bytes) (disk : Durable Text) :
    Attached db (db.attach image disk) ∧ db.latest (db.attach image disk) = some image := by
  have linked := disk.openFresh_inode db.workingPath
  refine ⟨⟨rfl, ?_⟩, ?_⟩
  · simp [attach, Durable.modify, linked]
  · simp [attach, latest, Durable.modify, Disk.read, linked]

variable {db : VaultDatabase}

theorem unlock_attached {env : VaultEnv} (withSchema : Bytes → Bytes) {disk : Durable Text}
    {saved : Option Bytes} (file : db.vaultState env disk.live = some saved) :
    ∃ w, db.unlock env withSchema disk = some w ∧ Attached db w ∧
      db.latest w = some (withSchema (saved.getD [])) := by
  unfold vaultState at file
  unfold unlock
  cases found : disk.live.read db.vaultDbPath with
  | none =>
    rw [found] at file
    obtain rfl := Option.some.inj file
    exact ⟨_, rfl, attach_attached db (withSchema []) disk⟩
  | some =>
    rw [found] at file
    obtain ⟨image, opened, rfl⟩ := Option.map_eq_some_iff.mp file
    dsimp only
    rw [opened]
    exact ⟨_, rfl, attach_attached db (withSchema image) disk⟩

structure LockFaults where
  flush : FlushOp → Option Nat
  close : Bool
  overwrite : Option Nat
  remove : Bool

def overwriteFile (faults : LockFaults) (random : Nat → Bytes) (path : Text) (disk : Durable Text) :
    Durable Text :=
  match disk.live.inode path with
  | none => disk
  | some i =>
      disk.modify i (fun c =>
        writeAt c 0 ((random c.length).take (faults.overwrite.getD c.length)))

/-- _secure_delete: both errors are swallowed. -/
def secureDelete (faults : LockFaults) (random : Nat → Bytes) (path : Text) (disk : Durable Text) :
    Durable Text :=
  let overwritten := overwriteFile faults random path disk
  if faults.remove then overwritten else overwritten.remove path

section Lock
variable (env : VaultEnv) (nonce : VaultNonce) (random : Nat → Bytes) (faults : LockFaults)

def VaultDatabase.lock (db : VaultDatabase) (w : VaultWorld) : VaultWorld × Bool :=
  let flushed := db.flush env nonce faults.flush { w with autoFlush := false }
  if ¬ flushed.2 then flushed
  else if faults.close then (flushed.1, false)
  else
    let deleted := secureDelete faults random db.workingPath flushed.1.disk
    ({ flushed.1 with disk := deleted, connected := false }, true)

def LiveSession.lock (s : LiveSession) (w : VaultWorld) : LiveSession × VaultWorld × Bool :=
  (⟨none, none, false⟩,
    match s.vaultDb with
    | none => (w, true)
    | some db => db.lock env nonce random faults w)

end Lock

structure UnlockedVault where
  session : LiveSession
  world : VaultWorld
  dek : Bytes
  db : VaultDatabase
  keyed : session.dek = some dek
  owns : session.vaultDb = some db
  attached : Attached db world

structure TornDown (env : VaultEnv) (v : UnlockedVault) (s : LiveSession) (w : VaultWorld) :
    Prop where
  saved : v.db.vaultImage env w.disk.live = v.db.latest v.world
  gone : w.disk.live.read v.db.workingPath = none
  wiped : s.dek = none

structure Retryable (v : UnlockedVault) (s : LiveSession) (returned : Bool) : Prop where
  raised : returned = false
  key : s.dek = some v.dek
  database : s.vaultDb = some v.db

structure AllOrNothing (env : VaultEnv) (v : UnlockedVault)
    (after : LiveSession × VaultWorld × Bool) : Prop where
  outcome : TornDown env v after.1 after.2.1 ∨ Retryable v after.1 after.2.2
  owned : (after.2.1.disk.live.read v.db.workingPath).isSome = true → after.1.vaultDb = some v.db

section AllOrNothing
variable {env : VaultEnv} (nonce : VaultNonce) (random : Nat → Bytes) (faults : LockFaults)

theorem overwrite_keeps_vault (disk : Durable Text) :
    (overwriteFile faults random db.workingPath disk).live.read db.vaultDbPath =
      disk.live.read db.vaultDbPath := by
  unfold overwriteFile
  split
  · rfl
  · rename_i linked
    exact disk.live.read_modify_other db.apart linked _

theorem secure_delete_inode (path : Text) (disk : Durable Text) :
    (secureDelete faults random path disk).live.inode path =
      if faults.remove then disk.live.inode path else none := by
  unfold secureDelete
  cases faults.remove
  · simp [Durable.remove]
  · rw [if_pos rfl, if_pos rfl]
    unfold overwriteFile
    split <;> rfl

theorem secure_delete_keeps_vault (disk : Durable Text) :
    (secureDelete faults random db.workingPath disk).live.read db.vaultDbPath =
      disk.live.read db.vaultDbPath := by
  rw [← overwrite_keeps_vault random faults disk]
  unfold secureDelete
  cases faults.remove
  · simp [Durable.remove, Disk.read, db.apart.symm]
  · rfl

theorem lock_copy (db : VaultDatabase) (w : VaultWorld) :
    (db.lock env nonce random faults w).1.disk.live.inode db.workingPath =
      if (db.flush env nonce faults.flush { w with autoFlush := false }).2 = true ∧
          faults.close = false ∧ faults.remove = false then none
      else w.disk.live.inode db.workingPath := by
  have kept := flush_keeps_copy env db nonce faults.flush { w with autoFlush := false }
  unfold lock
  dsimp only
  split
  · rename_i raised
    rw [if_neg (fun all => raised all.1), kept]
  · rename_i flushed
    split
    · rename_i closing
      rw [if_neg (by simp [closing]), kept]
    · rename_i closed
      have returned := Decidable.not_not.mp flushed
      rw [secure_delete_inode, kept]
      cases faults.remove <;> simp [returned, closed]

theorem lock_saves (opens : env.aead.Opens) (v : UnlockedVault)
    (returned : (v.db.flush env nonce faults.flush { v.world with autoFlush := false }).2 = true)
    (closed : faults.close = false) :
    v.db.vaultImage env (v.db.lock env nonce random faults v.world).1.disk.live =
      v.db.latest v.world := by
  have attached : Attached v.db { v.world with autoFlush := false } :=
    ⟨v.attached.connected, v.attached.copy⟩
  obtain ⟨snapshot, newest⟩ := attached.latest
  have saved := flush_saves opens attached newest returned
  have same : v.db.latest v.world = some snapshot := newest
  rw [same, ← saved]
  simp [lock, returned, closed, vaultImage, secure_delete_keeps_vault]

structure NothingRaises (env : VaultEnv) (nonce : VaultNonce) (faults : LockFaults)
    (v : UnlockedVault) : Prop where
  flush : ∀ op, faults.flush op = none
  encrypts : ∀ image, v.db.latest v.world = some image →
    (env.aead.encrypt v.db.dbKey nonce.val image []).isSome = true
  close : faults.close = false
  remove : faults.remove = false

theorem lock_flush_returns_iff (opens : env.aead.Opens) (v : UnlockedVault) :
    (v.db.flush env nonce faults.flush { v.world with autoFlush := false }).2 = true ↔
      (∀ op, faults.flush op = none) ∧
      ∀ image, v.db.latest v.world = some image →
        (env.aead.encrypt v.db.dbKey nonce.val image []).isSome = true := by
  have attached : Attached v.db { v.world with autoFlush := false } :=
    ⟨v.attached.connected, v.attached.copy⟩
  obtain ⟨snapshot, newest⟩ := attached.latest
  have same : v.db.latest v.world = some snapshot := newest
  rw [flush_returns_iff opens attached newest, same]
  simp

theorem lock_copy_gone_iff (opens : env.aead.Opens) (v : UnlockedVault) :
    (v.db.lock env nonce random faults v.world).1.disk.live.read v.db.workingPath = none ↔
      NothingRaises env nonce faults v := by
  obtain ⟨_, linked⟩ := Option.isSome_iff_exists.mp v.attached.copy
  have returns := lock_flush_returns_iff nonce faults opens v
  rw [Disk.read, Option.map_eq_none_iff, lock_copy, linked]
  constructor
  · intro gone
    split at gone
    · rename_i all
      obtain ⟨faultless, encrypts⟩ := returns.mp all.1
      exact ⟨faultless, encrypts, all.2.1, all.2.2⟩
    · cases gone
  · intro fine
    rw [if_pos ⟨returns.mpr ⟨fine.flush, fine.encrypts⟩, fine.close, fine.remove⟩]

/-- Exactly if nothing fails: after any failure the key is gone and the working copy left behind. -/
theorem lock_all_or_nothing_iff (opens : env.aead.Opens) (v : UnlockedVault) :
    AllOrNothing env v (v.session.lock env nonce random faults v.world) ↔
      NothingRaises env nonce faults v := by
  have world : (v.session.lock env nonce random faults v.world).2.1 =
      (v.db.lock env nonce random faults v.world).1 := by
    simp [LiveSession.lock, v.owns]
  constructor
  · rintro ⟨torn | retry, _⟩
    · have gone := torn.gone
      rw [world] at gone
      exact (lock_copy_gone_iff nonce random faults opens v).mp gone
    · cases retry.key
  · intro fine
    have gone := (lock_copy_gone_iff nonce random faults opens v).mpr fine
    have returned := (lock_flush_returns_iff nonce faults opens v).mpr ⟨fine.flush, fine.encrypts⟩
    refine ⟨.inl ⟨?_, ?_, rfl⟩, ?_⟩
    · rw [world]
      exact lock_saves nonce random faults opens v returned fine.close
    · rw [world]
      exact gone
    · rw [world, gone]
      intro present
      cases present

end AllOrNothing

section Sample

def sampleVaultEnv : VaultEnv where
  aead := Aead.labelled
  hkdf material _ _ _ := material
  deriveKek secret _ := secret
  loads _ := none

def zeroNonce : VaultNonce := ⟨List.replicate vaultNonceLen 0, List.length_replicate⟩

def sampleDatabase : VaultDatabase where
  workingPath := "/dev/shm/w.db"
  vaultDbPath := "vault.db"
  dbKey := []
  apart := by decide
  apartTmp := by decide

def sampleVault : UnlockedVault where
  session := ⟨some [], some sampleDatabase, false⟩
  world := sampleDatabase.attach [1, 2, 3] ⟨Disk.empty, fun _ => []⟩
  dek := []
  db := sampleDatabase
  keyed := rfl
  owns := rfl
  attached := (attach_attached sampleDatabase [1, 2, 3] ⟨Disk.empty, fun _ => []⟩).1

def faultless : LockFaults := ⟨fun _ => none, false, none, false⟩

def lockSample (faults : LockFaults) : LiveSession × VaultWorld × Bool :=
  sampleVault.session.lock sampleVaultEnv zeroNonce (fun n => List.replicate n 0) faults
    sampleVault.world

theorem faultless_lock_all_or_nothing :
    AllOrNothing sampleVaultEnv sampleVault (lockSample faultless) :=
  (lock_all_or_nothing_iff zeroNonce _ faultless Aead.labelled_opens sampleVault).mpr
    ⟨fun _ => rfl, fun _ _ => rfl, rfl, rfl⟩

def diskFull : LockFaults :=
  { faultless with flush := fun op => if op = .writeTmp then some 1 else none }

def undeletable : LockFaults := { faultless with overwrite := some 0, remove := true }

theorem failed_lock_loses_session :
    ((lockSample diskFull).2.2 = false ∧ (lockSample diskFull).1.dek = none ∧
      (lockSample diskFull).1.vaultDb.isNone = true ∧
      (lockSample diskFull).2.1.disk.live.read sampleDatabase.workingPath = some [1, 2, 3] ∧
      (lockSample diskFull).2.1.disk.live.read sampleDatabase.vaultDbPath = none ∧
      ¬ AllOrNothing sampleVaultEnv sampleVault (lockSample diskFull)) ∧
    ((lockSample undeletable).2.2 = true ∧
      (lockSample undeletable).2.1.disk.live.read sampleDatabase.workingPath = some [1, 2, 3] ∧
      ¬ AllOrNothing sampleVaultEnv sampleVault (lockSample undeletable)) := by
  refine ⟨⟨by decide, rfl, rfl, by decide, by decide, ?_⟩, by decide, by decide, ?_⟩
  · intro all
    cases all.owned (by decide)
  · intro all
    cases all.owned (by decide)

end Sample
end Peerc.Vault
