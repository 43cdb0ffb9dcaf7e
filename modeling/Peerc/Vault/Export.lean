import Peerc.Group.OneShot
import Peerc.Lib.Raising
import Peerc.Vault.SecureFile

/-!
Exporting a file from secure storage. The group gate comes first and burns capabilities; the
critical-action key, the destination and the file itself are looked at afterwards.
-/
namespace Peerc.Vault
open Groups Raising
open VaultSession (criticalActionKeyConfigured)

inductive ExportFailure where
  | sessionLocked
  | authorization (groupId : Text)
  | malformedKey (groupId : Text)
  | storeRaised
  | criticalKey
  | destinationExists (path : Text)
  | secureFile (e : SecureFileError)

structure ExportRequest where
  secureId : Text
  secureStorageDir : Text
  destinationPath : Text
  criticalSecret : Option Text
  groupId : Option Text
  deviceId : Option Text
  activeAdminKeys : Option (List Text)

/-- Without an enforcer or its group store there is no group gate. -/
structure ExportWorld where
  session : VaultSession
  keyfile : CriticalSalts
  groupStore : Option GroupStore
  files : FileSystem

/-- The group store raises after so many groups have been looked at. -/
structure ExportFaults where
  store : Option Nat
  file : FileFaults

def gatedGroups (s : GroupStore) : Option Text → List Group
  | some g => if g = [] then s.listGroups else (s.getGroup g).toList
  | none => s.listGroups

section Export
variable (crypto : Primitives) (env : FileEnv) (faults : ExportFaults) (now : Time)

def gateRun (s : GroupStore) (r : ExportRequest) : ExportRun :=
  match faults.store with
  | none => checkExport crypto s r.groupId r.deviceId (some r.secureId) r.activeAdminKeys now
  | some k =>
      exportGates crypto r.deviceId (some r.secureId) now ((gatedGroups s r.groupId).take k) s
        r.activeAdminKeys

def gateVerdict (run : ExportRun) : Except ExportFailure Unit :=
  match run.outcome with
  | .error (.denied g) => .error (.authorization g)
  | .error (.malformedKey g) => .error (.malformedKey g)
  | .ok () => if faults.store.isSome then .error .storeRaised else .ok ()

def releaseFile (w : ExportWorld) (r : ExportRequest) :
    FileSystem × Except ExportFailure SecureFileMetadata :=
  match w.session.authorizeExport env.toVaultEnv w.keyfile r.criticalSecret with
  | .error _ => (w.files, .error .sessionLocked)
  | .ok false => (w.files, .error .criticalKey)
  | .ok true =>
      if w.files.exists_ r.destinationPath then
        (w.files, .error (.destinationExists r.destinationPath))
      else
        match w.session.dek with
        | none => (w.files, .error .sessionLocked)
        | some dek =>
            let done := decryptFile env faults.file w.files r.secureId r.secureStorageDir dek
              r.destinationPath
            (done.1, done.2.mapError .secureFile)

def exportSecureFile (w : ExportWorld) (r : ExportRequest) :
    ExportWorld × Except ExportFailure SecureFileMetadata :=
  if ¬ w.session.isUnlocked then (w, .error .sessionLocked)
  else
    match w.groupStore with
    | none =>
        let released := releaseFile env faults w r
        ({ w with files := released.1 }, released.2)
    | some s =>
        let gate := gateRun crypto faults now s r
        match gateVerdict faults gate with
        | .error e => ({ w with groupStore := some gate.store }, .error e)
        | .ok () =>
            let released := releaseFile env faults w r
            ({ w with
              groupStore := some gate.store
              files := released.1 }, released.2)

end Export

/-! ## What the group gate spends -/

def GatePasses (crypto : Primitives) (r : ExportRequest) (now : Time) (s : GroupStore)
    (group : Group) (cap : ExportCapability) : Prop :=
  ∃ d keys, r.deviceId = some d ∧ s.getValidCapability group.groupId d r.secureId now = some cap ∧
    gateKeys s group.groupId r.activeAdminKeys = some keys ∧
    verifyExportCapability crypto cap keys now = true

def reachedGroups (faults : ExportFaults) (s : GroupStore) (r : ExportRequest) : List Group :=
  match faults.store with
  | none => gatedGroups s r.groupId
  | some k => (gatedGroups s r.groupId).take k

def FirstGatePasses (crypto : Primitives) (faults : ExportFaults) (now : Time) (w : ExportWorld)
    (r : ExportRequest) : Prop :=
  w.session.isUnlocked = true ∧ ∃ s lead cap, w.groupStore = some s ∧
    (reachedGroups faults s r).find? (fun g => restricts s g.groupId) = some lead ∧
    GatePasses crypto r now s lead cap

def KeepsUnused (s t : Option GroupStore) : Prop :=
  ∀ before, s = some before → ∃ after, t = some after ∧
    ∀ row ∈ before.capabilities.rows, row.used = false →
      ∃ row' ∈ after.capabilities.rows, row'.cap.capabilityId = row.cap.capabilityId ∧
        row'.used = false

section Spending
variable {crypto : Primitives} {env : FileEnv} {faults : ExportFaults} {now : Time}
  {w : ExportWorld} {r : ExportRequest}

theorem gates_unspent {s : GroupStore} (gs : List Group)
    (refuses : ∀ lead, gs.find? (fun g => restricts s g.groupId) = some lead →
      ∀ cap, ¬ GatePasses crypto r now s lead cap) :
    (exportGates crypto r.deviceId (some r.secureId) now gs s r.activeAdminKeys).store = s := by
  induction gs with
  | nil => rfl
  | cons g _ ih =>
    unfold exportGates
    split
    · next gated =>
      have closed := refuses g (by simp [gated])
      split
      · next d f device file =>
        cases file
        split
        · rfl
        · next cap found =>
          split
          · rfl
          · next keys read =>
            split
            · next verified => exact absurd ⟨d, keys, device, found, read, verified⟩ (closed cap)
            · rfl
      · rfl
    · next open_ =>
      apply ih
      intro lead first
      exact refuses lead (by simpa [open_] using first)

theorem gates_spent {s : GroupStore} {lead : Group} {cap : ExportCapability} (gs : List Group)
    (first : gs.find? (fun g => restricts s g.groupId) = some lead)
    (passes : GatePasses crypto r now s lead cap) :
    ∀ row ∈ (exportGates crypto r.deviceId (some r.secureId) now gs s
        r.activeAdminKeys).store.capabilities.rows,
      row.cap.capabilityId = cap.capabilityId → row.used = true := by
  induction gs with
  | nil => cases first
  | cons g gs ih =>
    by_cases gated : restricts s g.groupId = true
    · simp only [List.find?_cons, gated, Option.some.injEq] at first
      subst first
      obtain ⟨d, keys, device, found, read, verified⟩ := passes
      unfold exportGates
      simp only [gated, device, found, read, verified, if_true]
      have none_ : Burned s [] := ⟨List.nodup_nil, by simp⟩
      have spent := burned_gates crypto (some d) (some r.secureId) now gs _ (some keys) _
        (burned_spend none_ (offered_capability_unspent none_ found) now)
      intro row member same
      exact spent.used row member (by simp [same])
    · simp only [List.find?_cons, gated] at first
      unfold exportGates
      rw [if_neg gated]
      exact ih first

theorem gate_run_eq (s : GroupStore) (r : ExportRequest) : gateRun crypto faults now s r =
    exportGates crypto r.deviceId (some r.secureId) now (reachedGroups faults s r) s
      r.activeAdminKeys := by
  unfold gateRun reachedGroups
  cases faults.store with
  | none | some => rfl

theorem export_group_store (w : ExportWorld) (r : ExportRequest) :
    (exportSecureFile crypto env faults now w r).1.groupStore =
      if w.session.isUnlocked then w.groupStore.map (fun s => (gateRun crypto faults now s r).store)
      else w.groupStore := by
  unfold exportSecureFile
  cases unlocked : w.session.isUnlocked with
  | false => rfl
  | true =>
    simp only [not_true_eq_false, if_false, if_true]
    cases stored : w.groupStore with
    | none => simp
    | some =>
      simp only [Option.map_some]
      split <;> rfl

theorem keeps_unused_refl (s : Option GroupStore) : KeepsUnused s s := by
  intro before same
  exact ⟨before, same, fun row member unused => ⟨row, member, rfl, unused⟩⟩

theorem export_keeps_unused_iff (w : ExportWorld) (r : ExportRequest) :
    KeepsUnused w.groupStore (exportSecureFile crypto env faults now w r).1.groupStore ↔
      ¬ FirstGatePasses crypto faults now w r := by
  rw [export_group_store]
  constructor
  · rintro keeps ⟨unlocked, s, _, _, stored, first, passes⟩
    rw [if_pos unlocked, stored] at keeps
    obtain ⟨_, same, unused⟩ := keeps s rfl
    cases same
    obtain ⟨d, keys, device, found, read, verified⟩ := passes
    obtain ⟨row, member, usable, rfl⟩ := GroupStore.get_valid_capability_some found
    have fresh : row.used = false := by
      simp only [GroupStore.usable, Bool.and_eq_true, Bool.not_eq_true'] at usable
      exact usable.1.1.2
    obtain ⟨row', member', sameId, unused'⟩ := unused row member fresh
    simp only [gate_run_eq] at member'
    have burned := gates_spent _ first ⟨d, keys, device, found, read, verified⟩ row' member' sameId
    rw [unused'] at burned
    cases burned
  · intro refuses
    split
    · next unlocked =>
      cases stored : w.groupStore with
      | none =>
        intro _ same
        cases same
      | some s =>
        have same : (gateRun crypto faults now s r).store = s := by
          rw [gate_run_eq]
          apply gates_unspent
          intro lead first cap passes
          exact refuses ⟨unlocked, s, lead, cap, stored, first, passes⟩
        rw [Option.map_some, same]
        exact keeps_unused_refl (some s)
    · exact keeps_unused_refl w.groupStore

end Spending

/-! ## What can fail behind the first gate -/

def Readable (faults : FileFaults) (fs : FileSystem) (path : Text) (content : Bytes) : Prop :=
  fs.files.get path = some content ∧ faults.read path = false

/-- Metadata and ciphertext are read, and decrypt to as many bytes as the metadata name. -/
def Opens (env : FileEnv) (faults : FileFaults) (fs : FileSystem) (directory secureId : Text)
    (dek : Bytes) (metadata : SecureFileMetadata) (plaintext : Bytes) : Prop :=
  ∃ content ciphertext, Readable faults fs (joinPath directory (secureId ++ ".meta")) content ∧
    (env.loadFile content).bind readMetadata = some metadata ∧
    Readable faults fs (joinPath directory (secureId ++ ".peercfile")) ciphertext ∧
    env.aead.decrypt (deriveFileKey env dek metadata.salt) metadata.nonce ciphertext [] =
      some plaintext ∧ env.isLength metadata.size plaintext.length = true

structure Decrypts (env : FileEnv) (faults : FileFaults) (fs : FileSystem) (r : ExportRequest)
    (dek : Bytes) : Prop where
  opens : ∃ metadata plaintext,
    Opens env faults fs r.secureStorageDir r.secureId dek metadata plaintext
  writes : faults.makedirs r.destinationPath = false ∧
    r.destinationPath ∉ parents r.destinationPath ++ fs.directories ∧
    faults.open_ r.destinationPath = false ∧ faults.write r.destinationPath = none

/-- The store does not raise, each restricting group has a valid capability signed under the keys
of the first, the critical-action key is right, the destination is free, the file decrypts. -/
structure Delivers (crypto : Primitives) (env : FileEnv) (faults : ExportFaults) (now : Time)
    (w : ExportWorld) (r : ExportRequest) (s : GroupStore) (lead : Group) : Prop where
  store : faults.store = none
  gates : ∀ d keys, r.deviceId = some d → gateKeys s lead.groupId r.activeAdminKeys = some keys →
    ∀ g ∈ gatedGroups s r.groupId, restricts s g.groupId = true →
      ∃ cap, s.getValidCapability g.groupId d r.secureId now = some cap ∧
        keys.any (signedUnder crypto cap) = true
  critical : criticalActionKeyConfigured w.keyfile = true →
    ∃ secret, r.criticalSecret = some secret ∧
      w.session.verifyCriticalActionKey env.toVaultEnv w.keyfile secret = .ok true
  fresh : w.files.exists_ r.destinationPath = false
  file : ∃ dek, w.session.dek = some dek ∧ Decrypts env faults.file w.files r dek

section Failing
variable {crypto : Primitives} {env : FileEnv} {faults : ExportFaults} {now : Time}
  {w : ExportWorld} {r : ExportRequest} {s : GroupStore}

theorem read_file_iff {fs : FileSystem} {faults : FileFaults} {path : Text} {content : Bytes} :
    readFile faults fs path = .ok content ↔ Readable faults fs path content := by
  unfold readFile Readable
  cases fs.files.get path with
  | none => simp
  | some found => cases faults.read path <;> simp

theorem write_file_iff {fs : FileSystem} {faults : FileFaults} {path : Text} {content : Bytes} :
    (writeFile faults fs path content).2 = .ok () ↔ faults.makedirs path = false ∧
      path ∉ parents path ++ fs.directories ∧ faults.open_ path = false ∧
      faults.write path = none := by
  unfold writeFile
  dsimp only
  split_ifs with made closed
  · simp [made]
  · rcases closed with here | raises
    · simp [here]
    · simp [raises]
  · obtain ⟨absent, opens⟩ := not_or.mp closed
    cases faults.write path <;> simp [made, absent, opens]

theorem open_file_iff {fs : FileSystem} {faults : FileFaults} {directory secureId : Text}
    {dek : Bytes} {metadata : SecureFileMetadata} {plaintext : Bytes} :
    openFile env faults fs directory secureId dek = .ok (metadata, plaintext) ↔
      Opens env faults fs directory secureId dek metadata plaintext := by
  constructor
  · intro opened
    obtain ⟨_, loaded, rest⟩ := except_bind_ok opened
    obtain ⟨ciphertext, read, rest⟩ := except_bind_ok rest
    obtain ⟨content, readMeta, parse⟩ := except_bind_ok loaded
    split at parse
    · cases parse
    · next parsed =>
      cases parse
      split at rest
      · cases rest
      · next decrypted =>
        split_ifs at rest with size
        cases rest
        exact ⟨content, ciphertext, read_file_iff.mp readMeta, parsed, read_file_iff.mp read,
          decrypted, size⟩
  · rintro ⟨content, ciphertext, readMeta, parsed, read, decrypted, size⟩
    have loaded : loadMetadata env faults fs directory secureId = .ok metadata := by
      rw [loadMetadata, bind_of_ok (read_file_iff.mpr readMeta), parsed]
    rw [openFile, bind_of_ok loaded, bind_of_ok (read_file_iff.mpr read), decrypted]
    exact if_pos size

theorem decrypt_file_iff {fs : FileSystem} {faults : FileFaults} {dek : Bytes} :
    (∃ m, (decryptFile env faults fs r.secureId r.secureStorageDir dek r.destinationPath).2 =
      .ok m) ↔ Decrypts env faults fs r dek := by
  unfold decryptFile
  constructor
  · rintro ⟨_, done⟩
    split at done
    · cases done
    · next metadata plaintext opened =>
      have written : (writeFile faults fs r.destinationPath plaintext).2 = .ok () := by
        cases wrote : (writeFile faults fs r.destinationPath plaintext).2 with
        | ok => rfl
        | error => simp [wrote, Except.map] at done
      exact ⟨⟨metadata, plaintext, open_file_iff.mp opened⟩, write_file_iff.mp written⟩
  · rintro ⟨⟨metadata, plaintext, opened⟩, writes⟩
    refine ⟨metadata, ?_⟩
    rw [open_file_iff.mpr opened]
    dsimp only
    rw [write_file_iff.mpr writes]
    rfl

theorem authorized_iff (unlocked : w.session.isUnlocked = true) :
    w.session.authorizeExport env.toVaultEnv w.keyfile r.criticalSecret = .ok true ↔
      (criticalActionKeyConfigured w.keyfile = true → ∃ secret, r.criticalSecret = some secret ∧
        w.session.verifyCriticalActionKey env.toVaultEnv w.keyfile secret = .ok true) := by
  unfold VaultSession.authorizeExport
  cases criticalActionKeyConfigured w.keyfile <;> cases r.criticalSecret <;> simp [unlocked]

theorem release_iff : (∃ m, (releaseFile env faults w r).2 = .ok m) ↔
      w.session.authorizeExport env.toVaultEnv w.keyfile r.criticalSecret = .ok true ∧
      w.files.exists_ r.destinationPath = false ∧
      ∃ dek, w.session.dek = some dek ∧ Decrypts env faults.file w.files r dek := by
  unfold releaseFile
  split
  · next refused => simp [refused]
  · next refused => simp [refused]
  · next allowed =>
    rw [allowed]
    by_cases taken : w.files.exists_ r.destinationPath = true
    · simp [taken]
    · rw [if_neg taken]
      cases keyed : w.session.dek with
      | none => simp
      | some dek =>
        simp only [taken, true_and, Option.some.injEq, exists_eq_left', ← decrypt_file_iff]
        cases (decryptFile env faults.file w.files r.secureId r.secureStorageDir dek
          r.destinationPath).2 <;> simp [Except.mapError]

theorem gate_verdict_iff (run : ExportRun) :
    gateVerdict faults run = .ok () ↔ run.outcome = .ok () ∧ faults.store = none := by
  unfold gateVerdict
  split
  · next refused => simp [refused]
  · next refused => simp [refused]
  · next passed => cases faults.store <;> simp [passed]

theorem gated_groups_distinct (s : GroupStore) (groupId : Option Text) :
    ((gatedGroups s groupId).map Group.groupId).Nodup := by
  unfold gatedGroups
  split
  · split
    · exact list_groups_distinct s
    · cases s.getGroup _ <;> simp
  · exact list_groups_distinct s

theorem export_succeeds_iff (unlocked : w.session.isUnlocked = true)
    (stored : w.groupStore = some s) {lead : Group} {cap : ExportCapability}
    (first : (reachedGroups faults s r).find? (fun g => restricts s g.groupId) = some lead)
    (passes : GatePasses crypto r now s lead cap) :
    (∃ m, (exportSecureFile crypto env faults now w r).2 = .ok m) ↔
      Delivers crypto env faults now w r s lead := by
  obtain ⟨d, keys, device, _, fetched, _⟩ := passes
  have both : (∃ m, (exportSecureFile crypto env faults now w r).2 = .ok m) ↔
      gateVerdict faults (gateRun crypto faults now s r) = .ok () ∧
        ∃ m, (releaseFile env faults w r).2 = .ok m := by
    unfold exportSecureFile
    rw [if_neg (not_not.mpr unlocked), stored]
    dsimp only
    cases gateVerdict faults (gateRun crypto faults now s r) <;> simp
  have covers (calm : faults.store = none) : (gateRun crypto faults now s r).outcome = .ok () ↔
      ∀ g ∈ gatedGroups s r.groupId, restricts s g.groupId = true → ∃ cap,
        s.getValidCapability g.groupId d r.secureId now = some cap ∧
          keys.any (signedUnder crypto cap) = true := by
    have groups : reachedGroups faults s r = gatedGroups s r.groupId := by rw [reachedGroups, calm]
    rw [groups] at first
    rw [gate_run_eq, groups, device, gates_fetched _ first fetched]
    exact gates_with_keys_succeed_iff crypto d r.secureId now keys _ s
      (gated_groups_distinct s r.groupId)
  rw [both, gate_verdict_iff, release_iff, authorized_iff unlocked]
  constructor
  · rintro ⟨⟨passed, calm⟩, critical, fresh, file⟩
    refine ⟨calm, ?_, critical, fresh, file⟩
    intro _ _ device' fetched'
    cases device.symm.trans device'
    cases fetched.symm.trans fetched'
    exact (covers calm).mp passed
  · rintro ⟨calm, gates, critical, fresh, file⟩
    exact ⟨⟨(covers calm).mpr (gates d keys device fetched), calm⟩, critical, fresh, file⟩

end Failing

/-- If and only if a first restricting group that lets it pass is followed by no failure. -/
theorem failed_export_free_iff (crypto : Primitives) (env : FileEnv) (faults : ExportFaults)
    (now : Time) (w : ExportWorld) (r : ExportRequest) :
    ((∃ e, (exportSecureFile crypto env faults now w r).2 = .error e) →
      KeepsUnused w.groupStore (exportSecureFile crypto env faults now w r).1.groupStore) ↔
    ∀ s lead cap, w.session.isUnlocked = true → w.groupStore = some s →
      (reachedGroups faults s r).find? (fun g => restricts s g.groupId) = some lead →
      GatePasses crypto r now s lead cap → Delivers crypto env faults now w r s lead := by
  rw [export_keeps_unused_iff]
  constructor
  · intro free s lead cap unlocked stored first passes
    rw [← export_succeeds_iff unlocked stored first passes]
    by_contra failed
    cases outcome : (exportSecureFile crypto env faults now w r).2 with
    | ok m => exact failed ⟨m, outcome⟩
    | error e => exact free ⟨e, outcome⟩ ⟨unlocked, s, lead, cap, stored, first, passes⟩
  · rintro delivers ⟨_, failed⟩ ⟨unlocked, s, lead, cap, stored, first, passes⟩
    obtain ⟨_, done⟩ := (export_succeeds_iff unlocked stored first passes).mpr
      (delivers s lead cap unlocked stored first passes)
    cases failed.symm.trans done

section Sample

def sampleFileEnv : FileEnv where
  aead := Aead.labelled
  hkdf material _ _ _ := material
  deriveKek secret _ := secret
  loads _ := none
  loadFile _ := none
  isLength _ _ := false

def noFaults : ExportFaults :=
  ⟨none, ⟨fun _ => false, fun _ => false, fun _ => false, fun _ => none⟩⟩

def exportWorldWith (s : GroupStore) : ExportWorld where
  session := ⟨some [], some Dict.empty⟩
  keyfile := ⟨none, none⟩
  groupStore := some s
  files := ⟨Dict.empty.set "/out" [], []⟩

def exportTo (groupId : Option Text) : ExportRequest :=
  ⟨"f", "/vault", "/out", none, groupId, some "d", none⟩

theorem failed_export_burns_capability :
    ∃ s ∈ twoGateStore.toOption, ∀ groupId ∈ [none, some "g".toList],
      (∃ e, (exportSecureFile Primitives.sample sampleFileEnv noFaults 2 (exportWorldWith s)
        (exportTo groupId)).2 = .error e) ∧
      ¬ KeepsUnused (some s) (exportSecureFile Primitives.sample sampleFileEnv noFaults 2
        (exportWorldWith s) (exportTo groupId)).1.groupStore := by
  have spent : ∃ s ∈ twoGateStore.toOption, ∀ groupId ∈ [none, some "g".toList],
      (exportSecureFile Primitives.sample sampleFileEnv noFaults 2 (exportWorldWith s)
        (exportTo groupId)).2.toOption.isNone = true ∧
      ∃ row ∈ s.capabilities.rows, row.used = false ∧
        ∀ after ∈ (exportSecureFile Primitives.sample sampleFileEnv noFaults 2 (exportWorldWith s)
          (exportTo groupId)).1.groupStore, ∀ row' ∈ after.capabilities.rows,
            row'.cap.capabilityId = row.cap.capabilityId → row'.used = true := by
    decide +kernel
  obtain ⟨s, stored, burns⟩ := spent
  refine ⟨s, stored, ?_⟩
  intro groupId asked
  obtain ⟨raises, row, member, unused, burned⟩ := burns groupId asked
  constructor
  · cases outcome : (exportSecureFile Primitives.sample sampleFileEnv noFaults 2
      (exportWorldWith s) (exportTo groupId)).2 with
    | error e => exact ⟨e, rfl⟩
    | ok metadata => simp [outcome, Except.toOption] at raises
  · intro keeps
    obtain ⟨after, same, still⟩ := keeps s rfl
    obtain ⟨row', member', sameId, unused'⟩ := still row member unused
    have spent := burned after same row' member' sameId
    rw [unused'] at spent
    cases spent

end Sample
end Peerc.Vault
