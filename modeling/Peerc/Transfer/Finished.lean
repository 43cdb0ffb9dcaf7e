import Peerc.Transfer.Storage

/-!
Finished downloads. A finished file is untouched as long as no transfer is accepted to a staging
name, to a name that exists, or to a name another transfer uses.
-/
namespace Peerc.Transfer
open List Runs Registry Disk Receiver

def Finished (r : Receiver) (path : Text) : Prop :=
  ∃ note ∈ r.notes, note.success = true ∧ note.filepath = some path

def FinishedFilesStay (host : Host) (disk : Disk Text) (events : List RecvEvent) : Prop :=
  ∀ pre e, pre ++ [e] <+: events → ∀ path,
    Finished (run (step host) (start disk) pre) path →
    FileKept path (run (step host) (start disk) pre).disk
      (run (step host) (start disk) (pre ++ [e])).disk

def PlainDest (name : Text) : Prop :=
  ¬ partExtension <:+ name ∧ ¬ (partExtension ++ metaSuffix) <:+ name

instance (name : Text) : Decidable (PlainDest name) := inferInstanceAs (Decidable (_ ∧ _))

instance (r : Receiver) (path : Text) : Decidable (Finished r path) :=
  inferInstanceAs (Decidable (∃ note ∈ r.notes, _))

def AcceptsNew (r : Receiver) : RecvEvent → Prop
  | .decide k true io => ∀ ctx, r.tasks[k]? = some (.offerDecision ctx) →
      (openPart io r.disk ctx).2.isSome = true →
      PlainDest ctx.destPath ∧ ¬ Finished r ctx.destPath ∧
        ∀ i t, Unfinished r i t → t.destPath ≠ ctx.destPath
  | _ => True

theorem plain_not_staging {name dest : Text} (plain : PlainDest name) :
    ¬ Staging (getPartPath dest) name := by
  intro staged
  rcases staged with rfl | rfl
  · exact plain.1 (suffix_append dest partExtension)
  · refine plain.2 ?_
    rw [metaPathFor, getPartPath, append_assoc]
    exact suffix_append dest _

variable {r : Receiver} {host : Host}

theorem plain_not_touched {io : Io} {peer : Option Text} {o : Offer}
    {name : Text} (plain : PlainDest name) : ¬ OfferTouches host io r peer o name := by
  intro touched
  rcases touched with ⟨info, _, _, staged⟩ | ⟨info, _, _, _, staged⟩
  · rw [info.sidecar] at staged
    exact plain_not_staging plain staged
  · rw [info.sidecar] at staged
    exact plain_not_staging plain staged

def PrivateHandle (d : Disk Text) (t : IncomingTransfer) : Prop :=
  ∃ h, t.handle = some h ∧ h.inode < d.next ∧ ∀ n, d.inode n = some h.inode → n = t.partPath

structure OutOfReach (r : Receiver) : Prop where
  plain : ∀ i t, Unfinished r i t → PlainDest t.destPath
  distinct : ∀ i j t u, Unfinished r i t → Unfinished r j u → i ≠ j → t.destPath ≠ u.destPath
  unclaimed : ∀ i t p, Unfinished r i t → Finished r p → p ≠ t.destPath
  there : ∀ p, Finished r p → PlainDest p ∧ ∃ i, r.disk.inode p = some i
  handles : ∀ (j : Nat) t, r.ins[j]? = some t → Live t → PrivateHandle r.disk t

variable {i : Nat} {t : IncomingTransfer}

theorem finished_not_own (safe : OutOfReach r) {p : Text} {j : Nat} (finished : Finished r p)
    (linked : r.disk.inode p = some i)
    (object : r.ins[j]? = some t) (live : Live t) : ¬ OwnInode t i := by
  intro own
  obtain ⟨_, isG, rfl⟩ := own
  obtain ⟨_, opened, _, only⟩ := safe.handles j t object live
  cases opened.symm.trans isG
  have plain := (safe.there p finished).1
  rw [only p linked, t.staging] at plain
  exact plain_not_staging plain (.inl rfl)

def LiveFrom (r r' : Receiver) : Prop :=
  ∀ (j : Nat) t', r'.ins[j]? = some t' → Live t' → ∃ t, r.ins[j]? = some t ∧ Live t ∧
    SameOffer t t' ∧ ∀ h, t.handle = some h → ∃ h', t'.handle = some h' ∧ h'.inode = h.inode

variable {r' : Receiver}

theorem live_from_same (ins : r'.ins = r.ins) : LiveFrom r r' := by
  intro _ t object live
  rw [ins] at object
  exact ⟨t, object, live, SameOffer.refl t, fun h opened => ⟨h, opened, rfl⟩⟩

variable {t' : IncomingTransfer}

theorem live_from_set (ins : r'.ins = r.ins.set i t')
    (keeps : Live t' → ∃ t, r.ins[i]? = some t ∧ Live t ∧ SameOffer t t' ∧
      ∀ h, t.handle = some h → ∃ h', t'.handle = some h' ∧ h'.inode = h.inode) :
    LiveFrom r r' := by
  intro _ u object live
  rw [ins] at object
  rcases set_cases object with ⟨rfl, rfl⟩ | ⟨_, old⟩
  · exact keeps live
  · exact ⟨u, old, live, SameOffer.refl u, fun h opened => ⟨h, opened, rfl⟩⟩

theorem live_from_dead (ins : r'.ins = r.ins.set i t') (dead : ¬ Live t') : LiveFrom r r' :=
  live_from_set ins (fun live => absurd live dead)

variable {names : Text → Prop} {inodes : Nat → Prop}

theorem private_frame {d d' : Disk Text} (frame : Frame names inodes d d')
    (before : PrivateHandle d t) (same : SameOffer t t')
    (handle : ∀ h, t.handle = some h → ∃ h', t'.handle = some h' ∧ h'.inode = h.inode) :
    PrivateHandle d' t' := by
  obtain ⟨h, opened, bound, only⟩ := before
  obtain ⟨h', opened', sameInode⟩ := handle h opened
  refine ⟨h', opened', by rw [sameInode]; exact Nat.lt_of_lt_of_le bound frame.grows, ?_⟩
  intro n linked
  rw [sameInode] at linked
  rw [same.partPath]
  rcases frame.fresh n h.inode linked with old | new
  · exact only n old
  · omega

theorem file_kept_frame {d' : Disk Text}
    (safe : OutOfReach r) (frame : Frame names inodes r.disk d')
    (outside : ∀ p, Finished r p → ¬ names p)
    (untouched : ∀ p i, Finished r p → r.disk.inode p = some i → ¬ inodes i) :
    ∀ p, Finished r p → FileKept p r.disk d' := by
  intro p finished
  obtain ⟨_, i, linked⟩ := safe.there p finished
  exact frame.file_kept linked (outside p finished) (untouched p i finished linked)

theorem out_of_reach_frame (safe : OutOfReach r) (frame : Frame names inodes r.disk r'.disk)
    (outside : ∀ p, Finished r p → ¬ names p)
    (untouched : ∀ p i, Finished r p → r.disk.inode p = some i → ¬ inodes i)
    (shrinks : Shrinks r r') (notes : ∀ p, Finished r' p → Finished r p) (live : LiveFrom r r') :
    OutOfReach r' ∧ ∀ p, Finished r p → FileKept p r.disk r'.disk := by
  have kept := file_kept_frame safe frame outside untouched
  refine ⟨⟨?_, ?_, ?_, ?_, ?_⟩, kept⟩
  · intro i t unfinished
    obtain ⟨u, old, same⟩ := shrinks i t unfinished
    rw [same.destPath]
    exact safe.plain i u old
  · exact among_of_shrinks (R := fun dest _ dest' _ => dest ≠ dest') safe.distinct shrinks
  · intro i t p unfinished finished
    obtain ⟨u, old, same⟩ := shrinks i t unfinished
    rw [same.destPath]
    exact safe.unclaimed i u p old (notes p finished)
  · intro p finished
    obtain ⟨i, _, linked, _⟩ := kept p (notes p finished)
    exact ⟨(safe.there p (notes p finished)).1, i, linked⟩
  · intro j t' object alive
    obtain ⟨t, oldObject, oldLive, same, handle⟩ := live j t' object alive
    exact private_frame frame (safe.handles j t oldObject oldLive) same handle

theorem finished_of_failed {error : Option Text}
    (notes : r'.notes = r.notes ++ [⟨i, false, none, error⟩]) :
    ∀ p, Finished r' p → Finished r p := by
  intro _ finished
  obtain ⟨note, member, success, path⟩ := finished
  rw [notes] at member
  rcases mem_append.mp member with old | new
  · exact ⟨note, old, success, path⟩
  · rw [mem_singleton.mp new] at success
    cases success

theorem finished_not_part (safe : OutOfReach r) (ctx : OfferContext) :
    (∀ p, Finished r p → ¬ Staging ctx.partPath p) ∧
      ∀ p i, Finished r p → r.disk.inode p = some i → ¬ r.disk.inode ctx.partPath = some i := by
  have outside : ∀ p, Finished r p → ¬ Staging ctx.partPath p := by
    intro p finished
    rw [ctx.staging]
    exact plain_not_staging (safe.there p finished).1
  refine ⟨outside, ?_⟩
  intro p _ finished linked linkedPart
  exact outside p finished (.inl (r.disk.inode_single linked linkedPart))

theorem out_of_reach_accept {io : Io} (safe : OutOfReach r)
    {ctx : OfferContext} {h : Handle} {offset : Nat} {d : Disk Text}
    (plain : PlainDest ctx.destPath)
    (unfinished : ∀ i t, Unfinished r i t → t.destPath ≠ ctx.destPath)
    (new : ¬ Finished r ctx.destPath)
    (frame : Frame (Staging ctx.partPath) (fun i => r.disk.inode ctx.partPath = some i) r.disk
      (withSidecar host io ctx h offset d))
    (opened : OpenedPart r.disk (withSidecar host io ctx h offset d) ctx h offset) (k : Nat)
    (out : List Output) : OutOfReach { r with
      disk := withSidecar host io ctx h offset d
      ins := r.ins ++ [newTransfer ctx h offset]
      incoming := r.incoming.set ctx.transferId r.ins.length
      tasks := r.tasks.eraseIdx k
      out := out } ∧
    ∀ p, Finished r p → FileKept p r.disk (withSidecar host io ctx h offset d) := by
  obtain ⟨outside, untouched⟩ := finished_not_part safe ctx
  have kept := file_kept_frame safe frame outside untouched
  refine ⟨⟨?_, ?_, ?_, ?_, ?_⟩, kept⟩
  · intro i t now
    rcases unfinished_concat rfl (fun _ _ => done_of_erased) now with old | ⟨rfl, rfl⟩
    · exact safe.plain i t old
    · exact plain
  · exact among_concat (R := fun dest _ dest' _ => dest ≠ dest') (fun _ _ _ _ => Ne.symm)
      safe.distinct rfl rfl unfinished
  · intro i t p now finished
    rcases unfinished_concat rfl (fun _ _ => done_of_erased) now with old | ⟨rfl, rfl⟩
    · exact safe.unclaimed i t p old finished
    · intro same
      rw [show p = ctx.destPath from same] at finished
      exact new finished
  · intro p finished
    obtain ⟨i, _, linked, _⟩ := kept p finished
    exact ⟨(safe.there p finished).1, i, linked⟩
  · intro j t object live
    rcases concat_cases object with old | ⟨rfl, rfl⟩
    · exact private_frame frame (safe.handles j t old live) (SameOffer.refl t)
        (fun g isG => ⟨g, isG, rfl⟩)
    · have linked := opened.1
      refine ⟨h, rfl, Disk.inode_bounded _ linked, ?_⟩
      intro _ again
      exact Disk.inode_single _ again linked

theorem unfinished_completed {k : Nat} (ins : r'.ins = r.ins.set i { t with state := .completed })
    (tasks : r'.tasks = r.tasks.eraseIdx k) {j : Nat} {u : IncomingTransfer}
    (unfinished : Unfinished r' j u) : j ≠ i ∧ Unfinished r j u := by
  rcases set_cases (ins ▸ unfinished.1) with ⟨_, rfl⟩ | ⟨other, old⟩
  · have phase := unfinished.2
    simp [Live] at phase
  · refine ⟨other, unfinished.back old ?_⟩
    intro _ member
    rw [tasks] at member
    exact done_of_erased member

section Safe
variable (safe : OutOfReach r)
include safe

theorem out_of_reach_finalize {k : Nat} (verified : Unfinished r i t)
    (present : r.disk.present t.partPath = true) (io : Io) : OutOfReach { r with
      tasks := r.tasks.eraseIdx k
      disk := discard io (r.disk.rename t.partPath t.destPath) t.partPath
      ins := r.ins.set i { t with state := .completed }
      notes := r.notes ++ [⟨i, true, some t.destPath, none⟩] } ∧
    ∀ p, Finished r p →
      FileKept p r.disk (discard io (r.disk.rename t.partPath t.destPath) t.partPath) := by
  obtain ⟨moved, linked⟩ := (present_iff r.disk t.partPath).mp present
  have plain := safe.plain i t verified
  have names := finalize_inode linked io
  have reported : ∀ {p : Text}, Finished { r with
      notes := r.notes ++ [⟨i, true, some t.destPath, none⟩] } p →
        p = t.destPath ∨ Finished r p := by
    intro _ finished
    obtain ⟨note, member, success, path⟩ := finished
    rcases mem_append.mp member with old | new
    · exact .inr ⟨note, old, success, path⟩
    · rw [mem_singleton.mp new] at path
      exact .inl (Option.some.inj path).symm
  have kept : ∀ p, Finished r p →
      FileKept p r.disk (discard io (r.disk.rename t.partPath t.destPath) t.partPath) := by
    intro p finished
    obtain ⟨plainP, j, isJ⟩ := safe.there p finished
    refine ⟨j, isJ, ?_, finalize_block r.disk t io j⟩
    rw [(names p).2.2 (safe.unclaimed i t p verified finished) ?_]
    · exact isJ
    · rw [t.staging]
      exact plain_not_staging plainP
  refine ⟨⟨?_, ?_, ?_, ?_, ?_⟩, kept⟩
  · intro j u now
    exact safe.plain j u (unfinished_completed rfl rfl now).2
  · intro j l u v nowU nowV differ
    exact safe.distinct j l u v (unfinished_completed rfl rfl nowU).2
      (unfinished_completed rfl rfl nowV).2 differ
  · intro j u p now finished
    obtain ⟨other, old⟩ := unfinished_completed rfl rfl now
    rcases reported finished with rfl | before
    · exact safe.distinct i j t u verified old (fun same => other same.symm)
    · exact safe.unclaimed j u p old before
  · intro p finished
    rcases reported finished with rfl | before
    · exact ⟨plain, moved, (names t.destPath).1 rfl⟩
    · obtain ⟨j, _, isJ, _⟩ := kept p before
      exact ⟨(safe.there p before).1, j, isJ⟩
  · intro j u object live
    rcases set_cases object with ⟨_, rfl⟩ | ⟨other, old⟩
    · simp [Live] at live
    · obtain ⟨h, opened, bound, only⟩ := safe.handles j u old live
      refine ⟨h, opened, ?_, ?_⟩
      · rw [finalize_next]
        exact bound
      intro n now
      by_cases isDest : n = t.destPath
      · rw [(names n).1 isDest] at now
        cases now
        have same : getPartPath t.destPath = getPartPath u.destPath := by
          rw [← t.staging, ← u.staging]
          exact only t.partPath linked
        exact absurd (append_cancel_right same)
          (safe.distinct i j t u verified ⟨old, .inl live⟩ (fun same => other same.symm))
      · exact only n ((names n).2.1 isDest _ now)

theorem finished_ne_meta (t : IncomingTransfer) :
    ∀ p, Finished r p → ¬ p = metaPathFor t.partPath := by
  intro p finished isMeta
  rw [t.staging] at isMeta
  exact plain_not_staging (safe.there p finished).1 (.inr isMeta)

theorem out_of_reach_fail_kept (found : r.ins[i]? = some t) (live : Live t) (host : Host) (io : Io)
    (lostPeer : Option Text) (error : Text) : OutOfReach (failKept host io lostPeer error r i) ∧
      (∀ p, Finished r p → FileKept p r.disk (failKept host io lostPeer error r i).disk) ∧
      ∀ p, Finished r p → Finished (failKept host io lostPeer error r i) p := by
  obtain ⟨_, failed, frame⟩ := fail_kept_spec found host io lostPeer error
  have shrinks := shrinks_fail_kept found live host io lostPeer error
  rw [failed] at shrinks ⊢
  rw [← and_assoc]
  constructor
  · exact out_of_reach_frame safe frame (finished_ne_meta safe t)
      (fun p j finished linked => finished_not_own safe finished linked found live) shrinks
      (finished_of_failed rfl) (live_from_dead rfl (as_failed_not_live t))
  · intro _ finished
    obtain ⟨note, member, success, path⟩ := finished
    exact ⟨note, mem_append_left _ member, success, path⟩

theorem file_kept_refl : ∀ p, Finished r p → FileKept p r.disk r.disk := by
  intro p finished
  obtain ⟨_, i, linked⟩ := safe.there p finished
  exact ⟨i, linked, linked, rfl⟩

theorem out_of_reach_quiet (shrinks : Shrinks r r') (disk : r'.disk = r.disk) (ins : r'.ins = r.ins)
    (notes : ∀ p, Finished r' p → Finished r p) :
    OutOfReach r' ∧ ∀ p, Finished r p → FileKept p r.disk r'.disk := by
  have frame : Frame (fun _ => False) (fun _ => False) r.disk r'.disk := by
    rw [disk]
    exact Frame.refl _ _ _
  exact out_of_reach_frame safe frame (fun _ _ no => no) (fun _ _ _ _ no => no) shrinks notes
    (live_from_same ins)

end Safe

theorem out_of_reach_outcome {e : RecvEvent} (sane : Sane r)
    (safe : OutOfReach r) (fresh : AcceptsNew r e) (outcome : StepOutcome host r e r') :
    OutOfReach r' ∧ ∀ p, Finished r p → FileKept p r.disk r'.disk := by
  have shrinks : r'.ins.length = r.ins.length → Shrinks r r' := fun sameSize =>
    shrinks_outcome sane outcome (settles sameSize e)
  cases outcome with
  | idle | sendRaised | orphaned =>
    exact out_of_reach_quiet safe (shrinks rfl) rfl rfl (fun _ same => same)
  | offered _ _ _ _ _ _ frame =>
    refine out_of_reach_frame safe frame ?_ (fun _ _ _ _ no => no) (shrinks rfl)
      (fun _ same => same) (live_from_same rfl)
    intro p finished
    exact plain_not_touched (safe.there p finished).1
  | declined _ _ ctx _ _ frame =>
    refine out_of_reach_frame safe frame ?_ (fun _ _ _ _ no => no) (shrinks rfl)
      (fun _ same => same) (live_from_same rfl)
    intro p finished named
    exact (finished_not_part safe ctx).1 p finished named.2
  | unopened _ _ ctx _ _ _ frame =>
    obtain ⟨outside, untouched⟩ := finished_not_part safe ctx
    exact out_of_reach_frame safe frame outside untouched (shrinks rfl) (fun _ same => same)
      (live_from_same rfl)
  | accepted k _ ctx _ _ _ task result frame opened =>
    obtain ⟨plain, new, clear⟩ := fresh ctx task (by rw [result]; rfl)
    exact out_of_reach_accept safe plain clear new frame opened k _
  | chunk addr _ _ _ _ _ _ outcome =>
    cases outcome with
    | reported => exact out_of_reach_quiet safe (shrinks rfl) rfl rfl (fun _ same => same)
    | taken _ t t' _ found progress =>
      obtain ⟨object, live, _⟩ := lookup_live sane found
      have moved : SameOffer t { t with state := .receiving } := ⟨rfl, rfl, rfl, rfl, rfl, rfl, rfl⟩
      have same : SameOffer t t' := moved.trans progress.same
      refine out_of_reach_frame safe progress.frame (finished_ne_meta safe t) ?_ (shrinks (by simp))
        (fun _ same => same) (live_from_set rfl (fun _ => ⟨t, object, live, same, progress.handle⟩))
      intro _ j finished linked
      have foreign : ¬ OwnInode t j := finished_not_own safe finished linked object live
      exact foreign
    | aborted i t t' _ _ found same _ frame =>
      obtain ⟨object, live, _⟩ := lookup_live sane found
      refine out_of_reach_frame safe frame ?_ ?_ (shrinks (by simp)) (fun _ same => same)
        (live_from_dead rfl (as_failed_not_live t'))
      · intro p finished named
        rcases named with staged | isDest
        · rw [t.staging] at staged
          exact plain_not_staging (safe.there p finished).1 staged
        · exact safe.unclaimed i t p ⟨object, .inl live⟩ finished isDest
      · intro _ _ finished linked
        exact finished_not_own safe finished linked object live
  | done addr _ _ _ outcome =>
    cases outcome with
    | reported => exact out_of_reach_quiet safe (shrinks rfl) rfl rfl (fun _ same => same)
    | raised _ t _ found frame | hashed _ t _ _ _ _ _ found frame =>
      obtain ⟨object, live, _⟩ := lookup_live sane found
      refine out_of_reach_frame safe frame (fun _ _ no => no) ?_ (shrinks (by simp))
        (fun _ same => same) (live_from_dead rfl (as_verifying_not_live t))
      intro _ _ finished linked
      exact finished_not_own safe finished linked object live
  | abortNoted => exact out_of_reach_quiet safe (shrinks rfl) rfl rfl (finished_of_failed rfl)
  | finished _ _ io i t success _ task found outcome =>
    have verified := unfinished_acknowledging sane found (mem_of_getElem? task)
    cases outcome with
    | finalized linked => exact out_of_reach_finalize safe verified linked io
    | raised => exact out_of_reach_quiet safe (shrinks rfl) rfl rfl (fun _ same => same)
    | refused =>
      refine out_of_reach_frame safe (discarded_frame io r.disk t) ?_ (fun _ _ _ _ no => no)
        (shrinks (by simp))
        (finished_of_failed rfl) (live_from_dead rfl (by simp [Live]))
      intro p finished staged
      rw [t.staging] at staged
      exact plain_not_staging (safe.there p finished).1 staged
  | lost addr peer io =>
    -- compared with the receiver before the loss, through all the transfers it ends
    have whole : Sane (r.connectionLost host io addr peer) ∧
        OutOfReach (r.connectionLost host io addr peer) ∧
        (∀ p, Finished r p → FileKept p r.disk (r.connectionLost host io addr peer).disk) ∧
        ∀ p, Finished r p → Finished (r.connectionLost host io addr peer) p := by
      refine connection_lost_induction (P := fun r' => OutOfReach r' ∧
        (∀ p, Finished r p → FileKept p r.disk r'.disk) ∧ ∀ p, Finished r p → Finished r' p) ?_ sane
        ⟨safe, file_kept_refl safe, fun _ same => same⟩
      intro _ _ _ _ good found live _ _
      obtain ⟨safe', kept, still⟩ := good
      obtain ⟨next, keptNow, stillNow⟩ :=
        out_of_reach_fail_kept safe' found live host io peer "connection_lost"
      exact ⟨next, fun p finished => (kept p finished).trans (keptNow p (still p finished)),
        fun p finished => stillNow p (still p finished)⟩
    exact ⟨whole.2.1, whole.2.2.1⟩
  | failed _ _ error io _ _ found =>
    obtain ⟨object, live, _⟩ := lookup_live sane found
    obtain ⟨next, kept, _⟩ := out_of_reach_fail_kept safe object live host io none error
    exact ⟨next, kept⟩

theorem out_of_reach_start (disk : Disk Text) : OutOfReach (start disk) := by
  have nothing : ∀ i t, ¬ Unfinished (start disk) i t := by
    intro _ _ unfinished
    simp [Unfinished, start] at unfinished
  refine ⟨fun i t now => absurd now (nothing i t), fun i j t u now => absurd now (nothing i t),
    fun i t p now => absurd now (nothing i t), ?_, ?_⟩
  · intro _ finished
    simp [Finished, start] at finished
  · intro _ _ object
    simp [start] at object

/-- If every accepted offer has a new destination, finished files stay as they are. -/
theorem finished_files_stay (host : Host) (disk : Disk Text) (events : List RecvEvent)
    (fresh : Along (step host) AcceptsNew (start disk) events) :
    FinishedFilesStay host disk events := by
  intro pre e front p finished
  have along := along_front front fresh
  obtain ⟨sane, safe⟩ := invariant_run (fun r e (good : Sane r ∧ OutOfReach r) new =>
    ⟨sane_step good.1 e, (out_of_reach_outcome good.1 good.2 new (step_outcome host r e)).1⟩)
    ⟨sane_start disk, out_of_reach_start disk⟩ (along_front (prefix_append pre [e]) along)
  rw [run_concat]
  exact (out_of_reach_outcome sane safe (along_at along) (step_outcome host _ e)).2 p finished

section Sample

def offeredAgain : List RecvEvent :=
  downloadOf "s" "x" [] (Io.sample 0) ++
    [.offer "B" (sampleOffer "t" "x" []) (Io.sample 1)]

def askedPath : RecvTask → Text
  | .offerDecision c => c.destPath
  | _ => []

theorem offered_again_stays :
    Finished (run (step Host.sample) (start Disk.empty) (offeredAgain.take 5))
      "x" ∧ FinishedFilesStay Host.sample Disk.empty offeredAgain := by
  refine ⟨by decide +kernel, finished_files_stay Host.sample Disk.empty offeredAgain
    ⟨trivial, ?_, trivial, trivial, trivial, trivial, trivial⟩⟩
  intro ctx task _
  have asked : ((start Disk.empty).step Host.sample
      (.offer "A" (sampleOffer "s" "x" []) (Io.sample 0))).tasks.map
        askedPath = ["x"] := by decide +kernel
  have dest : some ctx.destPath = some "x" := by
    have first := congrArg (fun l => l[0]?) asked
    rw [getElem?_map, task] at first
    exact first
  rw [Option.some.inj dest]
  refine ⟨by decide, by decide +kernel, ?_⟩
  intro i t unfinished
  exact absurd unfinished (first_offer_alone _ _ _ _ _ i t)

def sidecarNameFirst : List RecvEvent :=
  downloadOf "s" "x.part.meta" [] (Io.sample 0) ++
    downloadOf "t" "x" [] (Io.sample 0)

theorem sidecar_name_is_deleted : ¬ FinishedFilesStay Host.sample Disk.empty sidecarNameFirst := by
  intro stay
  obtain ⟨_, _, still, _⟩ := stay (sidecarNameFirst.take 6) (.decide 0 true (Io.sample 0))
    ⟨sidecarNameFirst.drop 7, rfl⟩ "x.part.meta" (by decide +kernel)
  have gone : (run (step Host.sample) (start Disk.empty)
      (sidecarNameFirst.take 6 ++ [.decide 0 true (Io.sample 0)])).disk.inode
        "x.part.meta" = none := by decide +kernel
  rw [gone] at still
  cases still

end Sample
end Peerc.Transfer
