import Peerc.Lib.Durable
import Peerc.Vault.Session

/-!
The vault database: a plaintext working copy while the vault is unlocked. A flush encrypts it into
a temporary file and renames that over the vault file; each operation may raise or be the last.
-/
namespace Peerc.Vault

def vaultNonceLen : Nat := 12

abbrev VaultNonce := { nonce : Bytes // nonce.length = vaultNonceLen }

/-- The working copy is neither the vault file nor the temporary file of a flush. -/
structure VaultDatabase where
  workingPath : Text
  vaultDbPath : Text
  dbKey : Bytes
  apart : workingPath ≠ vaultDbPath
  apartTmp : workingPath ≠ vaultDbPath ++ ".tmp"

/-- pending is the database as the open transaction has it. -/
structure VaultWorld where
  disk : Durable Text
  pending : Option Bytes
  connected : Bool
  autoFlush : Bool

namespace VaultDatabase
variable (db : VaultDatabase)

def tmpPath : Text := db.vaultDbPath ++ ".tmp"

theorem tmp_ne_vault : db.tmpPath ≠ db.vaultDbPath := by
  intro same
  have lengths := congrArg List.length same
  simp [tmpPath] at lengths

theorem working_ne_tmp : db.workingPath ≠ db.tmpPath := db.apartTmp

def latest (w : VaultWorld) : Option Bytes := w.pending <|> w.disk.live.read db.workingPath

def openBlob (env : VaultEnv) (blob : Bytes) : Option Bytes :=
  env.aead.decrypt db.dbKey (blob.take vaultNonceLen) (blob.drop vaultNonceLen) []

def vaultImage (env : VaultEnv) (disk : Disk Text) : Option Bytes :=
  (disk.read db.vaultDbPath).bind (db.openBlob env)

def vaultState (env : VaultEnv) (disk : Disk Text) : Option (Option Bytes) :=
  match disk.read db.vaultDbPath with
  | none => some none
  | some blob => (db.openBlob env blob).map some

/-- conn.commit(): the connection holds the working copy open. -/
def commit (w : VaultWorld) : VaultWorld :=
  match w.pending, w.disk.live.inode db.workingPath with
  | some image, some i => { w with disk := w.disk.modify i (fun _ => image), pending := none }
  | _, _ => w

end VaultDatabase

open VaultDatabase

inductive FlushOp where
  | commit
  | readCopy
  | encrypt
  | makedirs
  | openTmp
  | writeTmp
  | replace
  deriving DecidableEq

structure Flushing where
  world : VaultWorld
  plaintext : Bytes
  blob : Bytes
  file : Nat

namespace FlushOp

def next : FlushOp → Option FlushOp
  | .commit => some .readCopy
  | .readCopy => some .encrypt
  | .encrypt => some .makedirs
  | .makedirs => some .openTmp
  | .openTmp => some .writeTmp
  | .writeTmp => some .replace
  | .replace => none

variable (env : VaultEnv) (db : VaultDatabase) (nonce : VaultNonce)

/-- One operation; none if it raises of itself. -/
def exec (s : Flushing) : FlushOp → Option Flushing
  | .commit => if s.world.connected then some { s with world := db.commit s.world } else none
  | .readCopy => (s.world.disk.live.read db.workingPath).map (fun p => { s with plaintext := p })
  | .encrypt =>
      (env.aead.encrypt db.dbKey nonce.val s.plaintext []).map
        (fun c => { s with blob := nonce.val ++ c })
  | .makedirs => some s
  | .openTmp =>
      let opened := s.world.disk.openFresh db.tmpPath
      some { s with world := { s.world with disk := opened.1 }, file := opened.2 }
  | .writeTmp =>
      some { s with
        world := { s.world with disk := s.world.disk.modify s.file (fun c => c ++ s.blob) } }
  | .replace =>
      some { s with
        world := { s.world with disk := s.world.disk.rename db.tmpPath db.vaultDbPath } }

/-- What a raising operation has done already: a write has written some bytes. -/
def torn (n : Nat) (s : Flushing) : FlushOp → Flushing
  | .writeTmp =>
      { s with
        world := { s.world with disk := s.world.disk.modify s.file (fun c => c ++ s.blob.take n) } }
  | _ => s

/-- The operation with the fault the system meets in it, if any, and whether it returned. -/
def attempt (fault : Option Nat) (s : Flushing) (op : FlushOp) : Flushing × Bool :=
  match fault with
  | some n => (op.torn n s, false)
  | none =>
      match exec env db nonce s op with
      | some after => (after, true)
      | none => (s, false)

end FlushOp

def flushOps : List FlushOp :=
  [.commit, .readCopy, .encrypt, .makedirs, .openTmp, .writeTmp, .replace]

section Run
variable (env : VaultEnv) (db : VaultDatabase) (nonce : VaultNonce) (faults : FlushOp → Option Nat)

def runFlush : List FlushOp → Flushing → Flushing × Bool
  | [], s => (s, true)
  | op :: ops, s =>
      let tried := op.attempt env db nonce (faults op) s
      if tried.2 then runFlush ops tried.1 else (tried.1, false)

def Flushing.start (w : VaultWorld) : Flushing := ⟨w, [], [], 0⟩

def VaultDatabase.flush (w : VaultWorld) : VaultWorld × Bool :=
  let ran := runFlush env db nonce faults flushOps (Flushing.start w)
  (ran.1.world, ran.2)

end Run

section Ready
variable {env : VaultEnv} {db : VaultDatabase} {nonce : VaultNonce} {w : VaultWorld}
  {snapshot : Bytes} {s after : Flushing} {op : FlushOp} {ops : List FlushOp}
  {faults : FlushOp → Option Nat} {path : Text}

def Staged (db : VaultDatabase) (s : Flushing) : Prop :=
  ∃ i, s.world.disk.live.inode db.tmpPath = some i ∧ s.world.disk.live.block i = s.blob

def Ready (env : VaultEnv) (db : VaultDatabase) (snapshot : Bytes) (s : Flushing) : FlushOp → Prop
  | .commit => db.latest s.world = some snapshot ∧
      (s.world.disk.live.inode db.workingPath).isSome = true
  | .readCopy => s.world.disk.live.read db.workingPath = some snapshot
  | .encrypt => s.plaintext = snapshot
  | .makedirs | .openTmp => db.openBlob env s.blob = some snapshot
  | .writeTmp => db.openBlob env s.blob = some snapshot ∧
      s.world.disk.live.inode db.tmpPath = some s.file ∧ s.world.disk.live.block s.file = []
  | .replace => db.openBlob env s.blob = some snapshot ∧ Staged db s

theorem vault_state_congr {d d' : Disk Text}
    (same : d'.read db.vaultDbPath = d.read db.vaultDbPath) :
    db.vaultState env d' = db.vaultState env d := by
  unfold vaultState
  rw [same]

theorem vault_state_of_image {d : Disk Text} (image : db.vaultImage env d = some snapshot) :
    db.vaultState env d = some (some snapshot) := by
  obtain ⟨_, found, opened⟩ := Option.bind_eq_some_iff.mp image
  simp [vaultState, found, opened]

theorem open_blob_encrypted (opens : env.aead.Opens) {plaintext ciphertext : Bytes}
    (encrypted : env.aead.encrypt db.dbKey nonce.val plaintext [] = some ciphertext) :
    db.openBlob env (nonce.val ++ ciphertext) = some plaintext := by
  unfold openBlob
  rw [List.take_left' nonce.property, List.drop_left' nonce.property]
  exact opens db.dbKey nonce.val plaintext [] ciphertext encrypted

theorem commit_read (newest : db.latest w = some snapshot)
    (present : (w.disk.live.inode db.workingPath).isSome = true) :
    (db.commit w).disk.live.read db.workingPath = some snapshot := by
  obtain ⟨_, linked⟩ := Option.isSome_iff_exists.mp present
  unfold commit VaultDatabase.latest at *
  cases open_ : w.pending with
  | none =>
    rw [open_] at newest
    simpa using newest
  | some image =>
    rw [open_] at newest
    obtain rfl : image = snapshot := by simpa using newest
    simp [linked, Durable.modify, Disk.read]

theorem commit_latest (newest : db.latest w = some snapshot)
    (present : (w.disk.live.inode db.workingPath).isSome = true) :
    db.latest (db.commit w) = some snapshot := by
  have read := commit_read newest present
  obtain ⟨_, linked⟩ := Option.isSome_iff_exists.mp present
  have closed : (db.commit w).pending = none := by
    unfold commit
    cases open_ : w.pending <;> simp [linked, open_]
  rw [VaultDatabase.latest, closed, read]
  rfl

theorem exec_ready (opens : env.aead.Opens) (ready : Ready env db snapshot s op)
    (ran : op.exec env db nonce s = some after) :
    match op.next with
    | some op' => Ready env db snapshot after op'
    | none => db.vaultImage env after.world.disk.live = some snapshot := by
  cases op with
  | commit =>
    simp only [FlushOp.exec] at ran
    split at ran
    · obtain rfl := Option.some.inj ran
      exact commit_read ready.1 ready.2
    · cases ran
  | readCopy =>
    obtain ⟨_, found, rfl⟩ := Option.map_eq_some_iff.mp ran
    have here := ready
    exact Option.some.inj (found.symm.trans here)
  | encrypt =>
    obtain ⟨_, encrypted, rfl⟩ := Option.map_eq_some_iff.mp ran
    have plain : s.plaintext = snapshot := ready
    rw [← plain]
    exact open_blob_encrypted opens encrypted
  | makedirs =>
    obtain rfl := Option.some.inj ran
    exact ready
  | openTmp =>
    obtain rfl := Option.some.inj ran
    exact ⟨ready, s.world.disk.openFresh_inode db.tmpPath, s.world.disk.openFresh_empty db.tmpPath⟩
  | writeTmp =>
    obtain rfl := Option.some.inj ran
    obtain ⟨sealed, linked, empty⟩ := ready
    refine ⟨sealed, s.file, linked, ?_⟩
    simp [Durable.modify, empty]
  | replace =>
    obtain rfl := Option.some.inj ran
    obtain ⟨sealed, _, linked, written⟩ := ready
    have moved := s.world.disk.live.inode_rename db.tmpPath db.vaultDbPath db.vaultDbPath linked
    rw [if_pos rfl] at moved
    simp only [FlushOp.next, vaultImage, Disk.read, Durable.rename, moved,
      Option.map_some, Disk.block_rename, written, Option.bind_some]
    exact sealed

theorem attempt_cases (fault : Option Nat) (s : Flushing) (op : FlushOp) :
    (∃ n, op.attempt env db nonce fault s = (op.torn n s, false)) ∨
    (∃ after, fault = none ∧ op.exec env db nonce s = some after ∧
      op.attempt env db nonce fault s = (after, true)) ∨
    op.attempt env db nonce fault s = (s, false) := by
  cases fault with
  | some n => exact .inl ⟨n, rfl⟩
  | none =>
    cases ran : op.exec env db nonce s with
    | none => exact .inr (.inr (by simp [FlushOp.attempt, ran]))
    | some after => exact .inr (.inl ⟨after, rfl, rfl, by simp [FlushOp.attempt, ran]⟩)

theorem commit_inode (w : VaultWorld) (path : Text) :
    (db.commit w).disk.live.inode path = w.disk.live.inode path := by
  unfold commit
  split <;> rfl

theorem commit_connected (w : VaultWorld) : (db.commit w).connected = w.connected := by
  unfold commit
  split <;> rfl

def FlushOp.effect (db : VaultDatabase) (s : Flushing) : FlushOp → VaultWorld
  | .commit => db.commit s.world
  | .readCopy | .encrypt | .makedirs => s.world
  | .openTmp => { s.world with disk := (s.world.disk.openFresh db.tmpPath).1 }
  | .writeTmp => { s.world with disk := s.world.disk.modify s.file (fun c => c ++ s.blob) }
  | .replace => { s.world with disk := s.world.disk.rename db.tmpPath db.vaultDbPath }

theorem exec_effect (ran : op.exec env db nonce s = some after) : after.world = op.effect db s := by
  cases op with
  | commit =>
    simp only [FlushOp.exec] at ran
    split at ran
    · obtain rfl := Option.some.inj ran
      rfl
    · cases ran
  | readCopy | encrypt =>
    obtain ⟨_, _, rfl⟩ := Option.map_eq_some_iff.mp ran
    rfl
  | makedirs | openTmp | writeTmp | replace =>
    obtain rfl := Option.some.inj ran
    rfl

theorem effect_inode_copy (db : VaultDatabase) (s : Flushing) (op : FlushOp) :
    (op.effect db s).disk.live.inode db.workingPath = s.world.disk.live.inode db.workingPath := by
  cases op with
  | commit => exact commit_inode s.world db.workingPath
  | readCopy | encrypt | makedirs | writeTmp => rfl
  | openTmp => exact (s.world.disk.openFresh_frame db.tmpPath).kept db.workingPath db.working_ne_tmp
  | replace =>
    cases linked : s.world.disk.live.inode db.tmpPath with
    | none => simp [FlushOp.effect, Durable.rename, Disk.rename_absent _ _ linked]
    | some =>
      have moved := s.world.disk.live.inode_rename db.tmpPath db.vaultDbPath db.workingPath linked
      rw [if_neg db.apart, if_neg db.working_ne_tmp] at moved
      exact moved

theorem effect_connected (db : VaultDatabase) (s : Flushing) (op : FlushOp) :
    (op.effect db s).connected = s.world.connected := by
  cases op with
  | commit => exact commit_connected s.world
  | readCopy | encrypt | makedirs | openTmp | writeTmp | replace => rfl

theorem attempt_inode_copy (env : VaultEnv) (db : VaultDatabase) (nonce : VaultNonce)
    (fault : Option Nat) (s : Flushing) (op : FlushOp) :
    (op.attempt env db nonce fault s).1.world.disk.live.inode db.workingPath =
      s.world.disk.live.inode db.workingPath := by
  rcases attempt_cases fault s op with ⟨n, tried⟩ | ⟨after, _, ran, tried⟩ | tried
  · rw [tried]
    cases op <;> rfl
  · rw [tried, exec_effect ran]
    exact effect_inode_copy db s op
  · rw [tried]

theorem commit_keeps_file (w : VaultWorld) (other : path ≠ db.workingPath) :
    (db.commit w).disk.live.read path = w.disk.live.read path := by
  unfold commit
  split
  · rename_i image _ _ linked
    exact w.disk.live.read_modify_other other.symm linked (fun _ => image)
  · rfl

theorem exec_keeps_file (ready : Ready env db snapshot s op)
    (ran : op.exec env db nonce s = some after) (notTmp : path ≠ db.tmpPath)
    (notCopy : op = .commit → path ≠ db.workingPath)
    (notVault : op = .replace → path ≠ db.vaultDbPath) :
    after.world.disk.live.read path = s.world.disk.live.read path := by
  rw [exec_effect ran]
  cases op with
  | commit => exact commit_keeps_file s.world (notCopy rfl)
  | readCopy | encrypt | makedirs => rfl
  | openTmp =>
    apply (s.world.disk.openFresh_frame db.tmpPath).read notTmp
    intro _ found tmp
    exact notTmp (s.world.disk.live.inode_single found tmp)
  | writeTmp =>
    exact s.world.disk.live.read_modify_other notTmp.symm ready.2.1 (fun c => c ++ s.blob)
  | replace =>
    obtain ⟨_, _, linked, _⟩ := ready
    have moved := s.world.disk.live.inode_rename db.tmpPath db.vaultDbPath path linked
    rw [if_neg (notVault rfl), if_neg notTmp] at moved
    simp [FlushOp.effect, Durable.rename, Disk.read, moved, Disk.block_rename]

theorem torn_keeps_file (ready : Ready env db snapshot s op) (notTmp : path ≠ db.tmpPath)
    (n : Nat) :
    (op.torn n s).world.disk.live.read path = s.world.disk.live.read path := by
  cases op with
  | writeTmp =>
    exact s.world.disk.live.read_modify_other notTmp.symm ready.2.1 (fun c => c ++ s.blob.take n)
  | commit | readCopy | encrypt | makedirs | openTmp | replace => rfl

theorem attempt_keeps_vault (ready : Ready env db snapshot s op) (fault : Option Nat)
    (early : op = .replace → (op.attempt env db nonce fault s).2 = false) :
    (op.attempt env db nonce fault s).1.world.disk.live.read db.vaultDbPath =
      s.world.disk.live.read db.vaultDbPath := by
  rcases attempt_cases fault s op with ⟨n, tried⟩ | ⟨after, _, ran, tried⟩ | tried
  · rw [tried]
    exact torn_keeps_file ready db.tmp_ne_vault.symm n
  · rw [tried] at early ⊢
    refine exec_keeps_file ready ran db.tmp_ne_vault.symm (fun _ => db.apart.symm) ?_
    intro last
    cases early last
  · rw [tried]

theorem effect_pending (db : VaultDatabase) (s : Flushing) (later : op ≠ .commit) :
    (op.effect db s).pending = s.world.pending := by
  cases op with
  | commit => exact absurd rfl later
  | readCopy | encrypt | makedirs | openTmp | writeTmp | replace => rfl

theorem attempt_latest {op : FlushOp} (ready : Ready env db snapshot s op) (fault : Option Nat) :
    db.latest (op.attempt env db nonce fault s).1.world = db.latest s.world := by
  rcases attempt_cases fault s op with ⟨n, tried⟩ | ⟨after, _, ran, tried⟩ | tried
  · have pending : (op.torn n s).world.pending = s.world.pending := by cases op <;> rfl
    rw [tried]
    unfold VaultDatabase.latest
    rw [pending, torn_keeps_file ready db.working_ne_tmp n]
  · rw [tried]
    by_cases first : op = .commit
    · subst first
      rw [exec_effect ran]
      exact (commit_latest ready.1 ready.2).trans ready.1.symm
    · have copy := exec_keeps_file ready ran db.working_ne_tmp
        (fun commits => absurd commits first) (fun _ => db.apart)
      unfold VaultDatabase.latest
      rw [copy, exec_effect ran, effect_pending db s first]
  · rw [tried]

def Follows : List FlushOp → Prop
  | [] => True
  | op :: ops => op.next = ops.head? ∧ Follows ops

theorem mem_flush_ops (op : FlushOp) : op ∈ flushOps := by
  cases op <;> decide

theorem flush_ops_follow : Follows flushOps :=
  ⟨rfl, rfl, rfl, rfl, rfl, rfl, rfl, trivial⟩

theorem run_keeps (holds : Flushing → Prop)
    (keep : ∀ s (op : FlushOp), holds s → holds (op.attempt env db nonce (faults op) s).1)
    (ops : List FlushOp) (start : holds s) : holds (runFlush env db nonce faults ops s).1 := by
  induction ops generalizing s with
  | nil => exact start
  | cons op _ ih =>
    have kept := keep s op start
    unfold runFlush
    dsimp only
    split
    · exact ih kept
    · exact kept

theorem run_inode_copy (faults : FlushOp → Option Nat) (ops : List FlushOp) (s : Flushing) :
    (runFlush env db nonce faults ops s).1.world.disk.live.inode db.workingPath =
      s.world.disk.live.inode db.workingPath := by
  exact run_keeps (fun t => t.world.disk.live.inode db.workingPath =
    s.world.disk.live.inode db.workingPath)
    (fun t op same => (attempt_inode_copy env db nonce (faults op) t op).trans same) ops rfl

def Prepared (env : VaultEnv) (db : VaultDatabase) (snapshot : Bytes) (s : Flushing) :
    List FlushOp → Prop
  | [] => db.vaultImage env s.world.disk.live = some snapshot
  | op :: _ => Ready env db snapshot s op

theorem attempt_prepares (opens : env.aead.Opens) (follows : op.next = ops.head?)
    (ready : Ready env db snapshot s op)
    {fault : Option Nat} (returned : (op.attempt env db nonce fault s).2 = true) :
    Prepared env db snapshot (op.attempt env db nonce fault s).1 ops := by
  rcases attempt_cases fault s op with ⟨n, tried⟩ | ⟨after, _, ran, tried⟩ | tried
  · rw [tried] at returned
    cases returned
  · rw [tried]
    have prepared := exec_ready opens ready ran
    rw [follows] at prepared
    cases ops with
    | nil | cons => exact prepared
  · rw [tried] at returned
    cases returned

theorem run_cons (faults : FlushOp → Option Nat) (op : FlushOp) (ops : List FlushOp)
    (s : Flushing) :
    runFlush env db nonce faults (op :: ops) s =
      if (op.attempt env db nonce (faults op) s).2 then
        runFlush env db nonce faults ops (op.attempt env db nonce (faults op) s).1
      else ((op.attempt env db nonce (faults op) s).1, false) := rfl

theorem run_saves (opens : env.aead.Opens) (follows : Follows ops)
    (prepared : Prepared env db snapshot s ops)
    (returned : (runFlush env db nonce faults ops s).2 = true) :
    db.vaultImage env (runFlush env db nonce faults ops s).1.world.disk.live = some snapshot := by
  induction ops generalizing s with
  | nil => exact prepared
  | cons _ _ ih =>
    rw [run_cons] at returned ⊢
    split at returned
    · rename_i done
      rw [if_pos done]
      exact ih follows.2 (attempt_prepares opens follows.1 prepared done) returned
    · cases returned

theorem run_raises_keeps_vault (opens : env.aead.Opens) (follows : Follows ops)
    (prepared : Prepared env db snapshot s ops)
    (raised : (runFlush env db nonce faults ops s).2 = false) :
    (runFlush env db nonce faults ops s).1.world.disk.live.read db.vaultDbPath =
      s.world.disk.live.read db.vaultDbPath := by
  induction ops generalizing s with
  | nil => cases raised
  | cons _ ops ih =>
    rw [run_cons] at raised ⊢
    split at raised
    · rename_i done
      rw [if_pos done, ih follows.2 (attempt_prepares opens follows.1 prepared done) raised]
      apply attempt_keeps_vault prepared
      -- the rename is the last operation, and nothing after it can raise
      intro last
      rw [last] at follows
      cases ops with
      | nil => cases raised
      | cons => cases follows.1
    · rename_i failed
      rw [if_neg failed]
      exact attempt_keeps_vault prepared _ (fun _ => Bool.eq_false_iff.mpr failed)

theorem run_latest (opens : env.aead.Opens) (follows : Follows ops)
    (prepared : Prepared env db snapshot s ops) :
    db.latest (runFlush env db nonce faults ops s).1.world = db.latest s.world := by
  induction ops generalizing s with
  | nil => rfl
  | cons _ _ ih =>
    rw [run_cons]
    split
    · rename_i done
      rw [ih follows.2 (attempt_prepares opens follows.1 prepared done),
        attempt_latest prepared]
    · exact attempt_latest prepared _

theorem exec_returns_iff (ready : Ready env db snapshot s op)
    (connected : s.world.connected = true) :
    (op.exec env db nonce s).isSome = true ↔
      (op = .encrypt → (env.aead.encrypt db.dbKey nonce.val snapshot []).isSome = true) := by
  cases op with
  | commit => simp [FlushOp.exec, connected]
  | readCopy =>
    have here : s.world.disk.live.read db.workingPath = some snapshot := ready
    simp [FlushOp.exec, here]
  | encrypt =>
    have plain : s.plaintext = snapshot := ready
    simp [FlushOp.exec, plain]
  | makedirs | openTmp | writeTmp | replace => simp [FlushOp.exec]

theorem attempt_returns_iff (fault : Option Nat) (s : Flushing) (op : FlushOp) :
    (op.attempt env db nonce fault s).2 = true ↔
      fault = none ∧ (op.exec env db nonce s).isSome = true := by
  cases fault with
  | some => simp [FlushOp.attempt]
  | none => cases ran : op.exec env db nonce s <;> simp [FlushOp.attempt, ran]

theorem attempt_connected (env : VaultEnv) (db : VaultDatabase) (nonce : VaultNonce)
    (fault : Option Nat) (s : Flushing) (op : FlushOp) :
    (op.attempt env db nonce fault s).1.world.connected = s.world.connected := by
  rcases attempt_cases fault s op with ⟨n, tried⟩ | ⟨after, _, ran, tried⟩ | tried
  · rw [tried]
    cases op <;> rfl
  · rw [tried, exec_effect ran]
    exact effect_connected db s op
  · rw [tried]

theorem run_returns_iff (opens : env.aead.Opens) (follows : Follows ops)
    (prepared : Prepared env db snapshot s ops) (connected : s.world.connected = true) :
    (runFlush env db nonce faults ops s).2 = true ↔
      ∀ op ∈ ops, faults op = none ∧
        (op = .encrypt → (env.aead.encrypt db.dbKey nonce.val snapshot []).isSome = true) := by
  induction ops generalizing s with
  | nil => simp [runFlush]
  | cons op _ ih =>
    have here : (op.attempt env db nonce (faults op) s).2 = true ↔ faults op = none ∧
        (op = .encrypt → (env.aead.encrypt db.dbKey nonce.val snapshot []).isSome = true) := by
      rw [attempt_returns_iff, exec_returns_iff prepared connected]
    rw [run_cons, List.forall_mem_cons, ← here]
    split
    · rename_i done
      have left := ih follows.2 (attempt_prepares opens follows.1 prepared done)
        ((attempt_connected env db nonce (faults op) s op).trans connected)
      rw [left]
      exact (and_iff_right done).symm
    · rename_i failed
      simp [failed]

end Ready

section Flush
variable {env : VaultEnv} {db : VaultDatabase} {nonce : VaultNonce} {faults : FlushOp → Option Nat}
  {w : VaultWorld} {snapshot : Bytes}

structure Attached (db : VaultDatabase) (w : VaultWorld) : Prop where
  connected : w.connected = true
  copy : (w.disk.live.inode db.workingPath).isSome = true

theorem Attached.latest (attached : Attached db w) : ∃ snapshot, db.latest w = some snapshot := by
  obtain ⟨i, linked⟩ := Option.isSome_iff_exists.mp attached.copy
  cases open_ : w.pending with
  | none => exact ⟨w.disk.live.block i, by simp [VaultDatabase.latest, open_, Disk.read, linked]⟩
  | some image => exact ⟨image, by simp [VaultDatabase.latest, open_]⟩

theorem Attached.commit (attached : Attached db w) : Attached db (db.commit w) where
  connected := by
    rw [commit_connected]
    exact attached.connected
  copy := by
    rw [commit_inode]
    exact attached.copy

theorem Attached.attempt {s : Flushing} (attached : Attached db s.world) (env : VaultEnv)
    (nonce : VaultNonce) (fault : Option Nat) (op : FlushOp) :
    Attached db (op.attempt env db nonce fault s).1.world where
  connected := (attempt_connected env db nonce fault s op).trans attached.connected
  copy := by
    rw [attempt_inode_copy]
    exact attached.copy

theorem Attached.flush (attached : Attached db w) (env : VaultEnv) (nonce : VaultNonce)
    (faults : FlushOp → Option Nat) : Attached db (db.flush env nonce faults w).1 := by
  exact run_keeps (fun s => Attached db s.world)
    (fun _ op attached => attached.attempt env nonce (faults op) op) flushOps attached

theorem start_prepared (attached : Attached db w) (newest : db.latest w = some snapshot) :
    Prepared env db snapshot (Flushing.start w) flushOps := ⟨newest, attached.copy⟩

theorem flush_saves (opens : env.aead.Opens) (attached : Attached db w)
    (newest : db.latest w = some snapshot) (returned : (db.flush env nonce faults w).2 = true) :
    db.vaultImage env (db.flush env nonce faults w).1.disk.live = some snapshot :=
  run_saves opens flush_ops_follow (start_prepared attached newest) returned

theorem flush_raises_keeps_vault (opens : env.aead.Opens) (attached : Attached db w)
    (raised : (db.flush env nonce faults w).2 = false) :
    (db.flush env nonce faults w).1.disk.live.read db.vaultDbPath =
      w.disk.live.read db.vaultDbPath := by
  obtain ⟨_, newest⟩ := attached.latest
  exact run_raises_keeps_vault opens flush_ops_follow (start_prepared attached newest) raised

theorem flush_latest (opens : env.aead.Opens) (attached : Attached db w) :
    db.latest (db.flush env nonce faults w).1 = db.latest w := by
  obtain ⟨_, newest⟩ := attached.latest
  exact run_latest opens flush_ops_follow (start_prepared attached newest)

theorem flush_keeps_copy (env : VaultEnv) (db : VaultDatabase) (nonce : VaultNonce)
    (faults : FlushOp → Option Nat) (w : VaultWorld) :
    (db.flush env nonce faults w).1.disk.live.inode db.workingPath =
      w.disk.live.inode db.workingPath :=
  run_inode_copy faults flushOps (Flushing.start w)

theorem flush_returns_iff (opens : env.aead.Opens) (attached : Attached db w)
    (newest : db.latest w = some snapshot) : (db.flush env nonce faults w).2 = true ↔
      (∀ op, faults op = none) ∧
      (env.aead.encrypt db.dbKey nonce.val snapshot []).isSome = true := by
  have each : (db.flush env nonce faults w).2 = true ↔ ∀ op ∈ flushOps, faults op = none ∧
      (op = .encrypt → (env.aead.encrypt db.dbKey nonce.val snapshot []).isSome = true) :=
    run_returns_iff opens flush_ops_follow (start_prepared attached newest) attached.connected
  rw [each]
  constructor
  · intro all
    exact ⟨fun op => (all op (mem_flush_ops op)).1, (all .encrypt (mem_flush_ops .encrypt)).2 rfl⟩
  · rintro ⟨faultless, encrypts⟩ op _
    exact ⟨faultless op, fun _ => encrypts⟩

end Flush
end Peerc.Vault
