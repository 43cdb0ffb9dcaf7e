import Peerc.Lib.Runs
import Peerc.Vault.Lock

/-!
Flushes and power failures. Nothing waits until what was written is on the medium, which may catch
up with any part of any file at any time.
-/
namespace Peerc.Vault
open Runs

/-- The snapshots of the flushes started and the number of the last completed are history. -/
structure FlushState where
  flushing : Flushing
  next : Option (FlushOp × VaultNonce)
  started : List (Option Bytes)
  completed : Nat

inductive FlushEvent where
  | execute (image : Bytes)
  | commit
  | begin (nonce : VaultNonce)
  | op (fault : Option Nat)
  | writeBack (inode : Nat) (resized : Bool) (reached : Nat → Bool)

namespace FlushState
variable (env : VaultEnv) (db : VaultDatabase)

def start (w : VaultWorld) (saved : Option Bytes) : FlushState :=
  ⟨Flushing.start w, none, [saved], 0⟩

variable (s : FlushState)

def world : VaultWorld := s.flushing.world

def withWorld (w : VaultWorld) : FlushState :=
  { s with flushing := { s.flushing with world := w } }

def begin (nonce : VaultNonce) : FlushState :=
  match db.latest s.world with
  | none => s
  | some snapshot =>
      { s with
        flushing := Flushing.start s.world
        next := some (.commit, nonce)
        started := s.started ++ [some snapshot] }

def advance (fault : Option Nat) (op : FlushOp) (nonce : VaultNonce) : FlushState :=
  let tried := op.attempt env db nonce fault s.flushing
  if ¬ tried.2 then { s with flushing := tried.1, next := none }
  else
    match op.next with
    | some op' => { s with flushing := tried.1, next := some (op', nonce) }
    | none => { s with flushing := tried.1, next := none, completed := s.started.length - 1 }

/-- A flush does not yield, so nothing else runs until it is over, except the medium. -/
def step : FlushEvent → FlushState
  | .execute image =>
      match s.next with
      | some _ => s
      | none => s.withWorld { s.world with pending := some image }
  | .commit =>
      match s.next with
      | some _ => s
      | none => s.withWorld (db.commit s.world)
  | .begin nonce =>
      match s.next with
      | some _ => s
      | none => s.begin db nonce
  | .op fault =>
      match s.next with
      | none => s
      | some (op, nonce) => s.advance env db fault op nonce
  | .writeBack inode resized reached =>
      s.withWorld { s.world with disk := s.world.disk.writeBack inode resized reached }

end FlushState

open FlushState

/-- What a crash leaves decrypts to a snapshot no older than the last completed flush. -/
def CrashSafe (env : VaultEnv) (db : VaultDatabase) (s : FlushState) : Prop :=
  ∃ j snapshot, s.completed ≤ j ∧ s.started[j]? = some snapshot ∧
    db.vaultState env s.world.disk.crash = some snapshot

structure Flushable (env : VaultEnv) (db : VaultDatabase) (s : FlushState) : Prop where
  attached : Attached db s.world
  current : ∃ j snapshot, s.completed ≤ j ∧ s.started[j]? = some snapshot ∧
    db.vaultState env s.world.disk.live = some snapshot
  ready : ∀ op nonce, s.next = some (op, nonce) →
    ∃ snapshot, s.started.getLast? = some (some snapshot) ∧ Ready env db snapshot s.flushing op

section Steps
variable {env : VaultEnv} {db : VaultDatabase} {s : FlushState}

theorem flushable_start {w : VaultWorld} {saved : Option Bytes} (attached : Attached db w)
    (holds : db.vaultState env w.disk.live = some saved) :
    Flushable env db (start w saved) where
  attached := attached
  current := ⟨0, saved, Nat.le_refl 0, rfl, holds⟩
  ready op nonce running := by cases running

theorem flushable_with_world (inv : Flushable env db s) (idle : s.next = none) {w : VaultWorld}
    (attached : Attached db w)
    (same : w.disk.live.read db.vaultDbPath = s.world.disk.live.read db.vaultDbPath) :
    Flushable env db (s.withWorld w) where
  attached := attached
  current := by
    obtain ⟨j, snapshot, recent, begun, image⟩ := inv.current
    exact ⟨j, snapshot, recent, begun, (vault_state_congr same).trans image⟩
  ready op nonce running := by
    have still : s.next = some (op, nonce) := running
    rw [idle] at still
    cases still

theorem flushable_begin (inv : Flushable env db s) (nonce : VaultNonce) :
    Flushable env db (s.begin db nonce) := by
  unfold begin
  split
  · exact inv
  · rename_i snapshot newest
    refine ⟨inv.attached, ?_, ?_⟩
    · obtain ⟨j, saved, recent, begun, image⟩ := inv.current
      exact ⟨j, saved, recent, found_append begun, image⟩
    · intro _ _ running
      obtain ⟨rfl, rfl⟩ := Prod.mk.inj (Option.some.inj running)
      exact ⟨snapshot, List.getLast?_concat, newest, inv.attached.copy⟩

theorem flushable_advance (opens : env.aead.Opens) (inv : Flushable env db s) {op : FlushOp}
    {nonce : VaultNonce} (running : s.next = some (op, nonce)) (fault : Option Nat) :
    Flushable env db (s.advance env db fault op nonce) := by
  obtain ⟨snapshot, newest, ready⟩ := inv.ready op nonce running
  have attached := inv.attached.attempt env nonce fault op
  obtain ⟨j, saved, recent, begun, image⟩ := inv.current
  have keeps : (op = .replace → (op.attempt env db nonce fault s.flushing).2 = false) →
      db.vaultState env (op.attempt env db nonce fault s.flushing).1.world.disk.live = some saved :=
    fun early => (vault_state_congr (attempt_keeps_vault ready fault early)).trans image
  unfold advance
  dsimp only
  split
  · rename_i raised
    refine ⟨attached, ⟨j, saved, recent, begun, keeps (fun _ => by simpa using raised)⟩, ?_⟩
    intro _ _ over_
    cases over_
  · rename_i done
    have returned := Decidable.not_not.mp done
    cases follows : op.next with
    | some op' =>
      have prepared : Prepared env db snapshot (op.attempt env db nonce fault s.flushing).1 [op'] :=
        attempt_prepares opens follows ready returned
      have early : op ≠ .replace := by
        rintro rfl
        cases follows
      refine ⟨attached, ⟨j, saved, recent, begun, keeps (fun last => absurd last early)⟩, ?_⟩
      intro _ _ running'
      obtain ⟨rfl, rfl⟩ := Prod.mk.inj (Option.some.inj running')
      exact ⟨snapshot, newest, prepared⟩
    | none =>
      have written : Prepared env db snapshot (op.attempt env db nonce fault s.flushing).1 [] :=
        attempt_prepares opens follows ready returned
      refine ⟨attached, ⟨s.started.length - 1, some snapshot, Nat.le_refl _, ?_,
        vault_state_of_image written⟩, ?_⟩
      · rw [← List.getLast?_eq_getElem?]
        exact newest
      · intro _ _ over_
        cases over_

theorem flushable_write_back (inv : Flushable env db s) (inode : Nat) (resized : Bool)
    (reached : Nat → Bool) : Flushable env db (s.withWorld
      { s.world with disk := s.world.disk.writeBack inode resized reached }) where
  attached := ⟨inv.attached.connected, inv.attached.copy⟩
  current := inv.current
  ready op nonce running := by
    obtain ⟨snapshot, newest, ready⟩ := inv.ready op nonce running
    refine ⟨snapshot, newest, ?_⟩
    cases op <;> exact ready

theorem flushable_step (opens : env.aead.Opens) (inv : Flushable env db s) (e : FlushEvent) :
    Flushable env db (s.step env db e) := by
  cases e with
  | execute =>
    simp only [step]
    split
    · exact inv
    · rename_i idle
      exact flushable_with_world inv idle ⟨inv.attached.connected, inv.attached.copy⟩ rfl
  | commit =>
    simp only [step]
    split
    · exact inv
    · rename_i idle
      exact flushable_with_world inv idle inv.attached.commit
        (commit_keeps_file s.world db.apart.symm)
  | begin nonce =>
    simp only [step]
    split
    · exact inv
    · exact flushable_begin inv nonce
  | op fault =>
    simp only [step]
    split
    · exact inv
    · rename_i running
      exact flushable_advance opens inv running fault
  | writeBack inode resized reached => exact flushable_write_back inv inode resized reached

theorem flushable_run (opens : env.aead.Opens) (inv : Flushable env db s) (es : List FlushEvent) :
    Flushable env db (run (step env db) s es) := by
  exact invariant_free (fun s e (inv : Flushable env db s) => flushable_step opens inv e) inv es

/-- A crash is harmless if the medium has caught up with the vault file. -/
theorem crash_safe_of_written_back (opens : env.aead.Opens) {w : VaultWorld} {saved : Option Bytes}
    (attached : Attached db w) (holds : db.vaultState env w.disk.live = some saved)
    (es : List FlushEvent) (written : (run (step env db) (start w saved)
      es).world.disk.WrittenBack db.vaultDbPath) :
    CrashSafe env db (run (step env db) (start w saved) es) := by
  have inv := flushable_run opens (flushable_start attached holds) es
  obtain ⟨j, snapshot, recent, begun, state⟩ := inv.current
  refine ⟨j, snapshot, recent, begun, ?_⟩
  rw [vault_state_congr (Durable.crash_read _ written)]
  exact state

end Steps

section Sample

def wholeFlush : List FlushEvent := .begin zeroNonce :: flushOps.map (fun _ => .op none)

def flushedAndStored : List FlushEvent := wholeFlush ++ [.writeBack 1 true (fun _ => true)]

def sampleFlushes (es : List FlushEvent) : FlushState :=
  run (step sampleVaultEnv sampleDatabase) (start sampleVault.world none) es

theorem stored_flush_crash_safe :
    CrashSafe sampleVaultEnv sampleDatabase (sampleFlushes flushedAndStored) := by
  have vault : (sampleFlushes flushedAndStored).world.disk.live.inode sampleDatabase.vaultDbPath =
      some 1 := by decide
  apply crash_safe_of_written_back Aead.labelled_opens sampleVault.attached rfl
  intro _ linked
  obtain rfl := Option.some.inj (vault.symm.trans linked)
  decide

theorem completed_flush_lost :
    (sampleFlushes (flushedAndStored ++ .execute [4] :: wholeFlush)).started =
      [none, some [1, 2, 3], some [4]] ∧
    (sampleFlushes (flushedAndStored ++ .execute [4] :: wholeFlush)).completed = 2 ∧
    sampleDatabase.vaultState sampleVaultEnv
      (sampleFlushes (flushedAndStored ++ .execute [4] :: wholeFlush)).world.disk.crash = none ∧
    ¬ CrashSafe sampleVaultEnv sampleDatabase
      (sampleFlushes (flushedAndStored ++ .execute [4] :: wholeFlush)) := by
  have lost : sampleDatabase.vaultState sampleVaultEnv
      (sampleFlushes (flushedAndStored ++ .execute [4] :: wholeFlush)).world.disk.crash = none := by
    decide
  refine ⟨by decide, by decide, lost, ?_⟩
  rintro ⟨_, _, _, _, state⟩
  rw [lost] at state
  cases state

end Sample
end Peerc.Vault
