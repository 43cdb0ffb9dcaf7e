import Peerc.Transfer.Storage

/-!
Download integrity. A download is hashed, then its acknowledgement is awaited, then the part file
is moved into place.
-/
namespace Peerc.Transfer
open List Runs Registry Disk Receiver RecvTask Unacked
open Decoded (ofText)

variable (host : Host)

def HoldsFile (d : Disk Text) (name : Text) (t : IncomingTransfer) : Prop :=
  ∃ content, d.read name = some content ∧ content.length = t.size ∧
    host.sha256 content = t.expectedChecksum

variable (r : Receiver)

/-- Success is reported only with the offered file in place, and finalized once acknowledged. -/
structure Faithful (e : RecvEvent) (r' : Receiver) : Prop where
  reports : ∃ new, r'.notes = r.notes ++ new ∧ ∀ note ∈ new, note.success = true →
    ∃ t, r'.ins[note.transfer]? = some t ∧ note.filepath = some t.destPath ∧
      HoldsFile host r'.disk t.destPath t
  acks : ∃ new, r'.out = r.out ++ new ∧
    ∀ addr id detail, .send addr (.fileCompleteAck id true detail) ∈ new →
      ∃ (i : Nat) (t : IncomingTransfer), r'.ins[i]? = some t ∧ t.transferId = id ∧
        doneSend i true ∈ r'.tasks
  finalizes : ∀ k io i, e = .sendReturned k .ok io → r.tasks[k]? = some (.doneSend i true) →
    ∃ t, r'.ins[i]? = some t ∧ ⟨i, true, some t.destPath, none⟩ ∈ r'.notes ∧
      HoldsFile host r'.disk t.destPath t

def DownloadsFaithful (disk : Disk Text) (events : List RecvEvent) : Prop :=
  ∀ pre e, pre ++ [e] <+: events →
    Faithful host (run (step host) (start disk) pre) e
      (run (step host) (start disk) (pre ++ [e]))

/-- No file of a transfer in use is touched, and the close before the hash and the move succeed. -/
def Undisturbed : RecvEvent → Prop
  | .offer addr o io => ∀ i t info, Unfinished r i t →
      readMeta host io r.disk (metaPathFor t.partPath) = some info →
      isExpired io info = false ∧ ∀ device, t.state = .verifying →
        firstNonEmpty [io.peer addr] = some device →
        matchesOffer info (ofText device) (ofText o.filename) o.size o.checksum = false
  | .decide k accepted _ => ∀ ctx, r.tasks[k]? = some (.offerDecision ctx) →
      (accepted = true → ∀ i t, Unfinished r i t →
        Apart t.destPath t.partPath ctx.destPath ctx.partPath) ∧
      (accepted = false → ctx.resumes = true → ∀ i t, Unfinished r i t →
        t.partPath ≠ ctx.partPath)
  | .done _ id io => ∀ i t, r.lookup id = some (i, t) → io.fails .close t.partPath = false
  | .sendReturned k _ io => ∀ i t, r.tasks[k]? = some (.doneSend i true) → r.ins[i]? = some t →
      io.fails .rename t.partPath = false
  | _ => True

def Receiving (d : Disk Text) (t : IncomingTransfer) : Prop :=
  ∃ h content, t.handle = some h ∧ d.inode t.partPath = some h.inode ∧ Staged d t content ∧
    content.length = t.bytesReceived

structure Sound : Prop where
  receiving : ∀ (i : Nat) t, r.ins[i]? = some t → r.incoming.get t.transferId = some i →
    Receiving r.disk t
  verified : ∀ (i : Nat) t, r.ins[i]? = some t → doneSend i true ∈ r.tasks →
    HoldsFile host r.disk t.partPath t

variable {t : IncomingTransfer} {d d' : Disk Text}

theorem receiving_kept (receiving : Receiving d t)
    (kept : FileKept t.partPath d d') : Receiving d' t := by
  obtain ⟨h, content, opened, linked, ⟨_, isG, appends, holds⟩, counted⟩ := receiving
  obtain ⟨_, before, after, same⟩ := kept
  cases linked.symm.trans before
  cases opened.symm.trans isG
  refine ⟨h, content, opened, after, ⟨h, opened, ?_, ?_⟩, counted⟩
  · unfold Appends at appends ⊢
    rw [same]
    exact appends
  · unfold Disk.staged at holds ⊢
    rw [same]
    exact holds

variable {host : Host}

theorem holds_kept {name : Text}
    (holds : HoldsFile host d name t) (kept : FileKept name d d') : HoldsFile host d' name t := by
  obtain ⟨content, readable, facts⟩ := holds
  exact ⟨content, kept.read.trans readable, facts⟩

theorem holds_linked {name : Text}
    (holds : HoldsFile host d name t) : ∃ i, d.inode name = some i := by
  obtain ⟨_, readable, _⟩ := holds
  obtain ⟨i, linked, _⟩ := Option.map_eq_some_iff.mp readable
  exact ⟨i, linked⟩

def Served (i : Nat) (t : IncomingTransfer) : Prop :=
  r.ins[i]? = some t ∧ (r.incoming.get t.transferId = some i ∨ doneSend i true ∈ r.tasks)

variable {r : Receiver} {i : Nat} {success : Bool}

theorem served_unfinished (sane : Sane r) (served : Served r i t) : Unfinished r i t := by
  rcases served.2 with registered | task
  · exact unfinished_registered sane served.1 registered
  · exact unfinished_acknowledging sane served.1 task

variable {r' : Receiver}

theorem sound_others (sound : Sound host r) (i : Nat)
    (ins : ∀ j u, j ≠ i → r'.ins[j]? = some u → r.ins[j]? = some u)
    (incoming : ∀ id j, j ≠ i → r'.incoming.get id = some j → r.incoming.get id = some j)
    (tasks : ∀ j, j ≠ i → doneSend j true ∈ r'.tasks → doneSend j true ∈ r.tasks)
    (kept : ∀ j u k, j ≠ i → Served r j u → r.disk.inode u.partPath = some k →
      FileKept u.partPath r.disk r'.disk)
    (ownReceiving : ∀ u, r'.ins[i]? = some u → r'.incoming.get u.transferId = some i →
      Receiving r'.disk u)
    (ownVerified : ∀ u, r'.ins[i]? = some u → doneSend i true ∈ r'.tasks →
      HoldsFile host r'.disk u.partPath u) : Sound host r' := by
  constructor
  · intro j u object registered
    by_cases same : j = i
    · subst same
      exact ownReceiving u object registered
    · have old := ins j u same object
      have oldRegistered := incoming _ j same registered
      have receiving := sound.receiving j u old oldRegistered
      have linked := receiving
      obtain ⟨h, _, _, linked, _⟩ := linked
      exact receiving_kept receiving (kept j u h.inode same ⟨old, .inl oldRegistered⟩ linked)
  · intro j u object task
    by_cases same : j = i
    · subst same
      exact ownVerified u object task
    · have old := ins j u same object
      have oldTask := tasks j same task
      have holds := sound.verified j u old oldTask
      obtain ⟨k, linked⟩ := holds_linked holds
      exact holds_kept holds (kept j u k same ⟨old, .inr oldTask⟩ linked)

theorem sound_same (sound : Sound host r)
    (ins : r'.ins = r.ins) (incoming : r'.incoming = r.incoming)
    (tasks : ∀ j, doneSend j true ∈ r'.tasks → doneSend j true ∈ r.tasks)
    (kept : ∀ j u k, Served r j u → r.disk.inode u.partPath = some k →
      FileKept u.partPath r.disk r'.disk) : Sound host r' := by
  have none : ∀ u, ¬ r'.ins[r.ins.length]? = some u := by simp [ins]
  refine sound_others sound r.ins.length ?_ ?_ (fun j _ => tasks j) (fun j u k _ => kept j u k)
    (fun u object => absurd object (none u)) (fun u object => absurd object (none u))
  · intro _ _ _ object
    rw [← ins]
    exact object
  · intro _ _ _ registered
    rw [← incoming]
    exact registered

variable {k : Nat} {u : IncomingTransfer}

theorem kept_beside {dest : Text} {inodes : Nat → Prop}
    (frame : Frame (fun n => Staging (getPartPath dest) n ∨ n = dest) inodes d d')
    (own : ∀ k, inodes k → d.inode (getPartPath dest) = some k)
    (apart : Apart u.destPath u.partPath dest (getPartPath dest))
    (linked : d.inode u.partPath = some k) : FileKept u.partPath d d' := by
  refine frame.file_kept linked ?_ ?_
  · intro named
    rcases named with (isPart | isMeta) | isDest
    · exact apart.1 isPart
    · rw [u.staging] at isMeta
      exact part_ne_meta _ _ isMeta
    · exact apart.2.2.1 isDest
  · intro inside
    exact apart.1 (d.inode_single linked (own k inside))

theorem own_inode_linked (receiving : Receiving d t)
    (own : OwnInode t k) : d.inode (getPartPath t.destPath) = some k := by
  obtain ⟨_, _, opened, linked, _⟩ := receiving
  obtain ⟨_, isG, rfl⟩ := own
  cases opened.symm.trans isG
  rw [← t.staging]
  exact linked

theorem kept_by_registered (sane : Sane r) (apart : FilesApart r)
    (sound : Sound host r) (object : r.ins[i]? = some t)
    (registered : r.incoming.get t.transferId = some i) {names : Text → Prop}
    (frame : Frame names (OwnInode t) r.disk d')
    (inside : ∀ n, names n → Staging t.partPath n ∨ n = t.destPath) (j : Nat)
    (u : IncomingTransfer) (k : Nat) (other : j ≠ i) (served : Served r j u)
    (linked : r.disk.inode u.partPath = some k) : FileKept u.partPath r.disk d' := by
  have receiving := sound.receiving i t object registered
  have beside := apart j i u t (served_unfinished sane served)
    (unfinished_registered sane object registered) other
  have wider : Frame (fun n => Staging (getPartPath t.destPath) n ∨ n = t.destPath) (OwnInode t)
      r.disk d' := by
    rw [← t.staging]
    exact frame.mono inside (fun _ own => own)
  rw [t.staging] at beside
  exact kept_beside wider (fun k own => own_inode_linked receiving own) beside linked

theorem sound_retired (sane : Sane r) (apart : FilesApart r)
    (sound : Sound host r) (object : r.ins[i]? = some t)
    (registered : r.incoming.get t.transferId = some i) (t' : IncomingTransfer)
    (sameId : t'.transferId = t.transferId) (ins : r'.ins = r.ins.set i t')
    (incoming : r'.incoming = r.incoming.pop t.transferId) {names : Text → Prop}
    (frame : Frame names (OwnInode t) r.disk r'.disk)
    (inside : ∀ n, names n → Staging t.partPath n ∨ n = t.destPath)
    (tasks : ∀ j, j ≠ i → doneSend j true ∈ r'.tasks → doneSend j true ∈ r.tasks)
    (verified : doneSend i true ∈ r'.tasks → HoldsFile host r'.disk t'.partPath t') :
    Sound host r' := by
  refine sound_others sound i (set_other ins) ?_ tasks
    (kept_by_registered sane apart sound object registered frame inside) ?_ ?_
  · intro _ _ _ known
    rw [incoming] at known
    exact (Dict.of_get_pop known).2
  · intro _ now known
    cases set_own ins now
    rw [incoming, Dict.get_pop, if_pos sameId] at known
    cases known
  · intro _ now task
    cases set_own ins now
    exact verified task

theorem sound_fail_kept (sane : Sane r) (apart : FilesApart r)
    (sound : Sound host r) (object : r.ins[i]? = some t)
    (live : Live t) (registered : r.incoming.get t.transferId = some i) (io : Io)
    (lostPeer : Option Text) (error : Text) :
    Sound host (failKept host io lostPeer error r i) := by
  obtain ⟨_, failed, frame⟩ := fail_kept_spec object host io lostPeer error
  rw [failed]
  refine sound_retired sane apart sound object registered (asFailed t) rfl rfl rfl frame ?_
    (fun _ _ task => task) ?_
  · intro _ isMeta
    exact .inl (.inr isMeta)
  · intro task
    exact absurd task (live_not_acknowledging sane object live true)

variable {io : Io}

theorem hashed_holds
    {content : Bytes} (receiving : Receiving r.disk t) (closes : io.fails .close t.partPath = false)
    (closed : d = (IncomingTransfer.closeFile io r.disk t).1)
    (frame : Frame (fun _ => False) (OwnInode t) r.disk d)
    (readable : d.read t.partPath = some content)
    (verdict : host.sha256 content = t.expectedChecksum ∧ t.bytesReceived = t.size) :
    HoldsFile host d t.partPath (asVerifying t) := by
  obtain ⟨h, staged, opened, linked, isStaged, counted⟩ := receiving
  have written : d.block h.inode = staged := by
    rw [closed]
    exact close_file_block isStaged opened closes
  have stillLinked : d.inode t.partPath = some h.inode := by
    rw [frame.kept _ (fun no => no)]
    exact linked
  have same : content = staged := by
    rw [Disk.read, stillLinked, Option.map_some, written] at readable
    exact (Option.some.inj readable).symm
  subst same
  exact ⟨content, readable, counted.trans verdict.2, verdict.1⟩

theorem finalize_holds (holds : HoldsFile host r.disk t.partPath t) (io : Io) :
    HoldsFile host (discard io (r.disk.rename t.partPath t.destPath) t.partPath) t.destPath t := by
  obtain ⟨_, linked⟩ := holds_linked holds
  obtain ⟨content, readable, facts⟩ := holds
  refine ⟨content, ?_, facts⟩
  rw [Disk.read, (finalize_inode linked io t.destPath).1 rfl, Option.map_some, finalize_block]
  rw [Disk.read, linked, Option.map_some] at readable
  exact readable

theorem finalize_kept (present : d.present t.partPath = true) (linked : d.inode u.partPath = some k)
    (apart : Apart u.destPath u.partPath t.destPath t.partPath) (io : Io) :
    FileKept u.partPath d (discard io (d.rename t.partPath t.destPath) t.partPath) := by
  obtain ⟨_, isPart⟩ := (present_iff d t.partPath).mp present
  refine ⟨k, linked, ?_, finalize_block d t io k⟩
  rw [(finalize_inode isPart io u.partPath).2.2 apart.2.2.1 ?_]
  · exact linked
  · intro staged
    rcases staged with isPart | isMeta
    · exact apart.1 isPart
    · rw [u.staging] at isMeta
      exact part_ne_meta _ _ isMeta

theorem offer_spares (sane : Sane r) {addr : Text} {o : Offer}
    (spared : Undisturbed host r (.offer addr o io)) {j : Nat} (served : Served r j u) :
    ¬ OfferTouches host io r (firstNonEmpty [io.peer addr]) o u.partPath := by
  refine offer_avoids ?_ (fun info => spared j u info (served_unfinished sane served)) served.1 ?_
  · intro _ staged
    rcases staged with same | isMeta
    · exact same.symm
    · rw [u.staging] at isMeta
      exact absurd isMeta (part_ne_meta _ _)
  · refine served.2.imp_right ?_
    intro task
    obtain ⟨_, object, holds⟩ := sane.held _ task j rfl
    cases served.1.symm.trans object
    exact holds

theorem sound_accept (sane : Sane r) (sound : Sound host r)
    {ctx : OfferContext} {h : Handle} {offset : Nat}
    (clear : ∀ i t, Unfinished r i t → Apart t.destPath t.partPath ctx.destPath ctx.partPath)
    (frame : Frame (Staging ctx.partPath) (fun i => r.disk.inode ctx.partPath = some i) r.disk
      (withSidecar host io ctx h offset d))
    (opened : OpenedPart r.disk (withSidecar host io ctx h offset d) ctx h offset) (k : Nat)
    (out : List Output) : Sound host { r with
      disk := withSidecar host io ctx h offset d
      ins := r.ins ++ [newTransfer ctx h offset]
      incoming := r.incoming.set ctx.transferId r.ins.length
      tasks := r.tasks.eraseIdx k
      out := out } := by
  refine sound_others sound r.ins.length ?_ ?_ ?_ ?_ ?_ ?_
  · intro _ _ other object
    rcases concat_cases object with old | ⟨isNew, _⟩
    · exact old
    · exact absurd isNew other
  · intro _ _ other registered
    rw [Dict.get_set] at registered
    split at registered
    · cases registered
      exact absurd rfl other
    · exact registered
  · intro _ _ task
    exact done_of_erased task
  · intro j u _ _ served linked
    have beside := clear j u (served_unfinished sane served)
    rw [ctx.staging] at beside frame
    exact kept_beside (frame.mono (fun _ staged => .inl staged) (fun _ own => own))
      (fun _ own => own) beside linked
  · intro _ object _
    have isNew : (r.ins ++ [newTransfer ctx h offset])[r.ins.length]? =
        some (newTransfer ctx h offset) := getElem?_concat_length
    cases isNew.symm.trans object
    obtain ⟨linked, appends, content, _⟩ := opened
    refine ⟨h, resumedContent r.disk ctx.partPath offset, rfl, linked,
      ⟨h, rfl, appends, content⟩, ?_⟩
    exact resumed_content_length _ _ _
  · intro _ _ task
    obtain ⟨_, old, _⟩ := sane.held _ (done_of_erased task) r.ins.length rfl
    simp at old

theorem finished_not_served (sane : Sane r) (task : r.tasks[k]? = some (.doneSend i success))
    (object : r.ins[i]? = some t) :
    r.incoming.get t.transferId ≠ some i ∧ doneSend i true ∉ r.tasks.eraseIdx k := by
  constructor
  · intro registered
    obtain ⟨_, object', _, live⟩ := sane.listed _ _ registered
    cases object.symm.trans object'
    exact live_not_acknowledging sane object live success (mem_of_getElem? task)
  · intro again
    exact Registry.erased_fresh sane.once task rfl _ again rfl

theorem sound_finished (sane : Sane r) (sound : Sound host r)
    (task : r.tasks[k]? = some (.doneSend i success)) (object : r.ins[i]? = some t)
    (t' : IncomingTransfer) (sameId : t'.transferId = t.transferId) (notes : List Note)
    (kept : ∀ j u n, j ≠ i → Served r j u → r.disk.inode u.partPath = some n →
      FileKept u.partPath r.disk d) :
    Sound host { r with
      tasks := r.tasks.eraseIdx k
      disk := d
      ins := r.ins.set i t'
      notes := notes } := by
  obtain ⟨unregistered, alone⟩ := finished_not_served sane task object
  refine sound_others sound i (set_other rfl) (fun _ _ _ known => known)
    (fun _ _ => done_of_erased) kept ?_ ?_
  · intro _ now registered
    cases set_own rfl now
    rw [sameId] at registered
    exact absurd registered unregistered
  · intro _ _ again
    exact absurd again alone

variable {e : RecvEvent}

theorem sound_outcome (sane : Sane r)
    (apart : FilesApart r) (sound : Sound host r) (spared : Undisturbed host r e)
    (outcome : StepOutcome host r e r') : Sound host r' := by
  cases outcome with
  | idle => exact sound
  | offered _ _ _ _ _ _ frame answer =>
    refine sound_same sound rfl rfl ?_ ?_
    · intro _ task
      cases answer with
      | rejected => exact task
      | asked => simpa using task
    · intro _ _ _ served linked
      exact frame.file_kept linked (offer_spares sane spared served) (fun no => no)
  | declined _ _ ctx _ task frame =>
    refine sound_same sound rfl rfl (fun _ => done_of_erased) ?_
    intro j u _ served linked
    refine frame.file_kept linked ?_ (fun no => no)
    intro touched
    have other := (spared ctx task).2 rfl touched.1 j u (served_unfinished sane served)
    rcases touched.2 with isPart | isMeta
    · exact other isPart
    · rw [u.staging] at isMeta
      exact part_ne_meta _ _ isMeta
  | unopened _ _ ctx _ task _ frame =>
    refine sound_same sound rfl rfl (fun _ => done_of_erased) ?_
    intro j u _ served linked
    have beside := (spared ctx task).1 rfl j u (served_unfinished sane served)
    rw [ctx.staging] at beside frame
    exact kept_beside (frame.mono (fun _ staged => .inl staged) (fun _ own => own))
      (fun _ own => own) beside linked
  | accepted k _ ctx _ _ _ task _ frame opened =>
    exact sound_accept sane sound ((spared ctx task).1 rfl) frame opened k _
  | chunk addr _ _ _ _ _ _ outcome =>
    cases outcome with
    | reported => exact ⟨sound.receiving, sound.verified⟩
    | taken i t _ d found progress content =>
      obtain ⟨object, live, registered⟩ := lookup_live sane found
      have receiving := sound.receiving i t object registered
      have frame := progress.frame
      refine sound_others sound i (set_other rfl) (fun _ _ _ known => known) (fun _ _ task => task)
        (kept_by_registered sane apart sound object registered frame
          (fun n isMeta => .inl (.inr isMeta))) ?_ ?_
      · intro _ now _
        cases set_own rfl now
        obtain ⟨h, staged, opened, linked, isStaged, counted⟩ := receiving
        obtain ⟨h', opened', sameInode⟩ := progress.handle h opened
        obtain ⟨staged', isStaged', counted'⟩ := content
          (fun k own => r.disk.inode_bounded (own_inode_linked ⟨h, staged, opened, linked, isStaged,
            counted⟩ own)) staged isStaged counted
        refine ⟨h', staged', opened', ?_, isStaged', counted'⟩
        rw [progress.same.partPath, sameInode]
        exact (frame.kept _ (meta_ne_part t.partPath)).trans linked
      · intro _ _ task
        exact absurd task (live_not_acknowledging sane object live true)
    | aborted _ _ t' _ _ found same _ frame =>
      obtain ⟨object, live, registered⟩ := lookup_live sane found
      refine sound_retired sane apart sound object registered (asFailed t') same.transferId
        rfl rfl frame
        (fun _ named => named) ?_ ?_
      · intro _ _ task
        simpa using task
      · intro task
        exact absurd (by simpa using task) (live_not_acknowledging sane object live true)
  | done addr _ _ _ outcome =>
    cases outcome with
    | reported => exact ⟨sound.receiving, sound.verified⟩
    | raised _ t _ found frame =>
      obtain ⟨object, live, registered⟩ := lookup_live sane found
      refine sound_retired sane apart sound object registered (asVerifying t) rfl rfl rfl frame
        (fun _ no => no.elim) (fun _ _ task => task) ?_
      intro task
      exact absurd task (live_not_acknowledging sane object live true)
    | hashed i t d _ _ _ _ found frame closed readable verdict =>
      obtain ⟨object, live, registered⟩ := lookup_live sane found
      refine sound_retired sane apart sound object registered (asVerifying t) rfl rfl rfl frame
        (fun _ no => no.elim) ?_ ?_
      · intro _ other task
        rcases mem_append.mp task with old | new
        · exact old
        · cases mem_singleton.mp new
          exact absurd rfl other
      · intro task
        rcases mem_append.mp task with old | new
        · exact absurd old (live_not_acknowledging sane object live true)
        · cases mem_singleton.mp new
          have holds := hashed_holds (sound.receiving i t object registered) (spared i t found)
            closed frame readable (verdict.mp rfl)
          exact holds
  | sendRaised | abortNoted _ _ _ i _ task | orphaned _ _ _ i _ task =>
    exact ⟨sound.receiving, fun i t object task => sound.verified i t object (done_of_erased task)⟩
  | finished _ _ io i t _ _ task found outcome =>
    have unfinished := unfinished_acknowledging sane found (mem_of_getElem? task)
    cases outcome with
    | finalized linked =>
      refine sound_finished sane sound task found { t with state := .completed } rfl _ ?_
      intro j u _ other served isPart
      exact finalize_kept linked isPart
        (apart j i u t (served_unfinished sane served) unfinished other) io
    | raised =>
      exact ⟨sound.receiving, fun i t object task =>
        sound.verified i t object (done_of_erased task)⟩
    | refused =>
      refine sound_finished sane sound task found { t with state := .failed } rfl _ ?_
      intro j u _ other served isPart
      have beside := apart j i u t (served_unfinished sane served) unfinished other
      rw [t.staging] at beside
      exact kept_beside ((discarded_frame io r.disk t).mono
        (fun _ staged => .inl (t.staging ▸ staged))
          (fun _ no => no)) (fun _ no => no.elim) beside isPart
  | lost _ peer io =>
    exact (connection_lost_induction (P := fun r => FilesApart r ∧ Sound host r)
      (fun r i t sane good found live registered _ =>
        ⟨among_of_shrinks good.1 (shrinks_fail_kept found live host io peer _),
          sound_fail_kept sane good.1 good.2 found live registered io peer _⟩)
      sane ⟨apart, sound⟩).2.2
  | failed _ _ error io _ _ found =>
    obtain ⟨object, live, registered⟩ := lookup_live sane found
    exact sound_fail_kept sane apart sound object live registered io none error

def Reports (host : Host) (r r' : Receiver) : Prop :=
  ∃ new, r'.notes = r.notes ++ new ∧ ∀ note ∈ new, note.success = true →
    ∃ t, r'.ins[note.transfer]? = some t ∧ note.filepath = some t.destPath ∧
      HoldsFile host r'.disk t.destPath t

theorem failure_reports {error : Option Text}
    (notes : r'.notes = r.notes ++ [⟨i, false, none, error⟩]) : Reports host r r' := by
  refine ⟨_, notes, ?_⟩
  intro _ member success
  rw [mem_singleton.mp member] at success
  cases success

theorem silent_reports (notes : r'.notes = r.notes) : Reports host r r' :=
  ⟨[], by simp [notes], by simp⟩

def Acks (r r' : Receiver) : Prop :=
  ∃ new, r'.out = r.out ++ new ∧
    ∀ addr id detail, .send addr (.fileCompleteAck id true detail) ∈ new →
      ∃ (i : Nat) (t : IncomingTransfer), r'.ins[i]? = some t ∧ t.transferId = id ∧
        doneSend i true ∈ r'.tasks

theorem unacked_acks (silent : Unacked r.out r'.out) : Acks r r' := by
  obtain ⟨new, out, other⟩ := silent
  refine ⟨new, out, ?_⟩
  intro _ _ _ member
  have no := other _ member
  cases no

theorem fail_kept_out (found : r.ins[i]? = some t)
    (host : Host) (io : Io) (lostPeer : Option Text) (error : Text) :
    (failKept host io lostPeer error r i).out = r.out := by
  obtain ⟨_, failed, _⟩ := fail_kept_spec found host io lostPeer error
  rw [failed]

theorem connection_lost_notes (sane : Sane r) (io : Io) (addr : Text) (peer : Option Text) :
    (∃ new, (r.connectionLost host io addr peer).notes = r.notes ++ new ∧
        ∀ note ∈ new, note.success = false) ∧
      (r.connectionLost host io addr peer).out = r.out := by
  refine (connection_lost_induction (P := fun r' => (∃ new, r'.notes = r.notes ++ new ∧
    ∀ note ∈ new, note.success = false) ∧ r'.out = r.out) ?_ sane ⟨⟨[], by simp, by simp⟩, rfl⟩).2
  intro _ i _ _ before found _ _ _
  obtain ⟨⟨new, notes, failures⟩, out⟩ := before
  refine ⟨⟨new ++ [⟨i, false, none, some "connection_lost"⟩], ?_, ?_⟩,
    (fail_kept_out found host io peer _).trans out⟩
  · obtain ⟨_, failed, _⟩ := fail_kept_spec found host io peer "connection_lost"
    rw [failed, notes, append_assoc]
  · intro note member
    rcases mem_append.mp member with old | last
    · exact failures note old
    · rw [mem_singleton.mp last]

theorem finalized_reports
    (sound : HoldsFile host r.disk t.partPath t) (object : r.ins[i]? = some t) (io : Io)
    (tasks : List RecvTask) (finalized : r' = { r with
      tasks := tasks
      disk := discard io (r.disk.rename t.partPath t.destPath) t.partPath
      ins := r.ins.set i { t with state := .completed }
      notes := r.notes ++ [⟨i, true, some t.destPath, none⟩] }) :
    ∃ u, r'.ins[i]? = some u ∧ u.destPath = t.destPath ∧ HoldsFile host r'.disk u.destPath u := by
  subst finalized
  exact ⟨{ t with state := .completed }, found_set object, rfl, finalize_holds sound io⟩

theorem reports_outcome (sane : Sane r) (sound : Sound host r) (outcome : StepOutcome host r e r') :
    Reports host r r' := by
  cases outcome with
  | idle | offered | declined | unopened | accepted | sendRaised | orphaned =>
    exact silent_reports rfl
  | chunk _ _ _ _ _ _ _ outcome | done _ _ _ _ outcome => cases outcome <;> exact silent_reports rfl
  | abortNoted => exact failure_reports rfl
  | finished k _ io i t _ _ task found outcome =>
    cases outcome with
    | finalized =>
      refine ⟨_, rfl, ?_⟩
      intro _ member _
      rw [mem_singleton.mp member]
      obtain ⟨u, object, dest, holds⟩ := finalized_reports
        (sound.verified i t found (mem_of_getElem? task)) found io (r.tasks.eraseIdx k) rfl
      exact ⟨u, object, by rw [dest], holds⟩
    | raised => exact silent_reports rfl
    | refused => exact failure_reports rfl
  | lost addr peer io =>
    obtain ⟨⟨new, notes, failures⟩, _⟩ := connection_lost_notes sane io addr peer
    refine ⟨new, notes, ?_⟩
    intro note member success
    rw [failures note member] at success
    cases success
  | failed _ _ error io _ _ found =>
    obtain ⟨object, _, _⟩ := lookup_live sane found
    obtain ⟨_, failed, _⟩ := fail_kept_spec object host io none error
    rw [failed]
    exact failure_reports rfl

theorem acks_outcome (sane : Sane r) (outcome : StepOutcome host r e r') : Acks r r' := by
  cases outcome with
  | idle | unopened | sendRaised | abortNoted | orphaned => exact unacked_acks (refl _)
  | offered _ _ _ _ _ _ _ answer =>
    cases answer with
    | rejected => exact unacked_acks (emit _ rfl)
    | asked => exact unacked_acks (refl _)
  | declined | accepted => exact unacked_acks (emit _ rfl)
  | chunk addr _ _ _ _ _ _ outcome =>
    cases outcome with
    | reported | aborted => exact unacked_acks (emit _ rfl)
    | taken => exact unacked_acks (refl _)
  | done addr id _ _ outcome =>
    cases outcome with
    | reported => exact unacked_acks (emit _ rfl)
    | raised => exact unacked_acks (refl _)
    | hashed i t _ _ _ _ _ found =>
      refine ⟨_, rfl, ?_⟩
      intro _ _ _ member
      cases List.mem_singleton.mp member
      exact ⟨i, asVerifying t, found_set (lookup_live sane found).1, rfl, by simp⟩
  | finished _ _ _ _ _ _ _ _ _ outcome => cases outcome <;> exact unacked_acks (refl _)
  | lost addr peer io =>
    have silent : Unacked r.out (r.connectionLost host io addr peer).out := by
      rw [(connection_lost_notes sane io addr peer).2]
      exact refl _
    exact unacked_acks silent
  | failed _ _ error io i _ found =>
    have silent : Unacked r.out (failKept host io none error r i).out := by
      rw [fail_kept_out (lookup_live sane found).1]
      exact refl _
    exact unacked_acks silent

theorem faithful_step (sane : Sane r)
    (sound : Sound host r) (spared : Undisturbed host r e) : Faithful host r e (r.step host e) := by
  refine ⟨reports_outcome sane sound (step_outcome host r e),
    acks_outcome sane (step_outcome host r e), ?_⟩
  intro k io i isReturn task
  subst isReturn
  obtain ⟨t, object, _⟩ := sane.held _ (mem_of_getElem? task) i rfl
  have holds := sound.verified i t object (mem_of_getElem? task)
  have present := (present_iff r.disk t.partPath).mpr (holds_linked holds)
  have moves := spared i t task object
  have finalized : r.step host (.sendReturned k .ok io) = { r with
      tasks := r.tasks.eraseIdx k
      disk := discard io (r.disk.rename t.partPath t.destPath) t.partPath
      ins := r.ins.set i { t with state := .completed }
      notes := r.notes ++ [⟨i, true, some t.destPath, none⟩] } := by
    rw [step_acknowledged task object host io]
    simp [finish, present, moves, notify]
  obtain ⟨u, now, dest, holdsNow⟩ := finalized_reports holds object io _ finalized
  refine ⟨u, now, ?_, holdsNow⟩
  rw [finalized, dest]
  simp

/-- If nothing is disturbed, each step is faithful. -/
theorem downloads_faithful (host : Host) (disk : Disk Text) (events : List RecvEvent)
    (spared : Along (step host) (Undisturbed host) (start disk) events) :
    DownloadsFaithful host disk events := by
  intro pre e front
  have along := along_front front spared
  have keep : ∀ r e, Sane r ∧ FilesApart r ∧ Sound host r → Undisturbed host r e →
      Sane (r.step host e) ∧ FilesApart (r.step host e) ∧ Sound host (r.step host e) := by
    intro r e good undisturbed
    obtain ⟨sane, apart, sound⟩ := good
    have outcome := step_outcome host r e
    refine ⟨sane_step sane e, apart_outcome sane apart outcome ?_,
      sound_outcome sane apart sound undisturbed outcome⟩
    intro _ _ ctx isDecision task _
    subst isDecision
    exact (undisturbed ctx task).1 rfl
  have begin : Sane (start disk) ∧ FilesApart (start disk) ∧
      Sound host (start disk) := by
    refine ⟨sane_start disk, ?_, ?_, ?_⟩
    · intro _ _ _ _ unfinished
      simp [Unfinished, start] at unfinished
    · intro _ _ object
      simp [start] at object
    · intro _ _ object
      simp [start] at object
  obtain ⟨sane, _, sound⟩ := invariant_run keep begin (along_front (prefix_append pre [e]) along)
  rw [run_concat]
  exact faithful_step sane sound (along_at along)

section Sample

theorem plain_download_faithful : (run (step Host.sample) (start Disk.empty)
        (downloadOf "s" "x" [1, 2, 3] (Io.sample 0))).notes =
      [⟨0, true, some "x", none⟩] ∧
    DownloadsFaithful Host.sample Disk.empty
      (downloadOf "s" "x" [1, 2, 3] (Io.sample 0)) := by
  refine ⟨by decide +kernel, downloads_faithful _ _ _
    ⟨?_, ?_, trivial, fun _ _ _ => rfl, fun _ _ _ _ => rfl, trivial⟩⟩
  · intro _ _ _ unfinished
    simp [Unfinished, start] at unfinished
  · intro _ _
    exact ⟨fun _ i t unfinished => absurd unfinished (first_offer_alone _ _ _ _ _ i t),
      fun _ _ i t unfinished => absurd unfinished (first_offer_alone _ _ _ _ _ i t)⟩

def failingMove : List RecvEvent :=
  downloadOf "s" "x" [1, 2, 3]
    { Io.sample 0 with fails := fun call _ => call = .rename }

theorem failing_move_is_acknowledged : ¬ DownloadsFaithful Host.sample Disk.empty failingMove := by
  intro all
  have last := all (failingMove.take 4) _ (prefix_refl _)
  obtain ⟨_, _, note, _⟩ := last.finalizes 0 _ 0 rfl (by decide +kernel)
  have silent : (run (step Host.sample) (start Disk.empty) failingMove).notes = [] := by
    decide +kernel
  have empty := silent ▸ note
  simp at empty

end Sample
end Peerc.Transfer
