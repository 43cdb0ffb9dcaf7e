import Peerc.Transfer.Progress

/-!
One specification per receiving handler: the receiver it leaves, and the names and inodes it may
have touched.
-/
namespace Peerc.Transfer
open List Disk Receiver IncomingTransfer
open Decoded (ofText)

theorem part_path_length (dest : Text) : (getPartPath dest).length = dest.length + 5 :=
  length_append

theorem meta_path_length (part : Text) : (metaPathFor part).length = part.length + 5 :=
  length_append

theorem meta_ne_part (part : Text) : part ≠ metaPathFor part := by
  intro same
  have lengths := congrArg List.length same
  rw [meta_path_length] at lengths
  omega

theorem part_ne_meta (dest part : Text) : getPartPath dest ≠ metaPathFor part := by
  intro same
  have ends := congrArg List.getLast? same
  rw [getPartPath, metaPathFor, getLast?_append_of_ne_nil _ (by decide),
    getLast?_append_of_ne_nil _ (by decide)] at ends
  exact absurd ends (by decide)

theorem dest_not_staging (t : IncomingTransfer) : ¬ Staging t.partPath t.destPath := by
  intro staged
  rw [t.staging] at staged
  rcases staged with same | same
  · have lengths := congrArg List.length same
    rw [part_path_length] at lengths
    omega
  · have lengths := congrArg List.length same
    rw [meta_path_length, part_path_length] at lengths
    omega

theorem close_file_spec (io : Io) (d : Disk Text) (t : IncomingTransfer) (names : Text → Prop) :
    (t.closeFile io d).2 = { t with handle := none } ∧
      Frame names (OwnInode t) d (t.closeFile io d).1 := by
  unfold closeFile
  cases opened : t.handle with
  | none =>
    refine ⟨?_, Frame.refl _ _ d⟩
    cases t
    cases opened
    rfl
  | some h =>
    dsimp only
    split
    · exact ⟨rfl, Frame.of_drain ⟨h, opened, rfl⟩ _⟩
    · exact ⟨rfl, Frame.of_drain ⟨h, opened, rfl⟩ _⟩

theorem close_file_state (io : Io) (d : Disk Text) (t : IncomingTransfer)
    (state : IncomingTransferState) : closeFile io d { t with state := state } =
      ((t.closeFile io d).1, { t with
        state := state
        handle := none }) := by
  cases opened : t.handle with
  | none => simp [closeFile, opened]
  | some =>
    simp only [closeFile, opened]
    split <;> rfl

variable {d : Disk Text} {t : IncomingTransfer} {io : Io} {h : Handle} {content : Bytes}

theorem close_file_block (staged : Staged d t content) (opened : t.handle = some h)
    (closes : io.fails .close t.partPath = false) :
    (t.closeFile io d).1.block h.inode = content := by
  obtain ⟨_, isG, appends, rfl⟩ := staged
  cases opened.symm.trans isG
  simp only [closeFile, opened, closes, Bool.false_eq_true, if_false]
  exact flush_block appends

theorem close_kept_spec (host : Host) (io : Io) (d : Disk Text) (t : IncomingTransfer)
    (lostPeer : Option Text) : (t.closeKept host io d lostPeer).2 = { t with handle := none } ∧
      Frame (fun n => n = metaPathFor t.partPath) (OwnInode t) d
        (t.closeKept host io d lostPeer).1 := by
  obtain ⟨flushed, _, _⟩ := flush_file_progress io d t
  have onlyHandle : { (t.flushFile io d).2.1 with handle := none } = { t with handle := none } := by
    unfold flushFile
    split
    · rfl
    · split <;> rfl
  obtain ⟨closedT, closedD⟩ := close_file_spec io (t.flushFile io d).1 (t.flushFile io d).2.1
    (fun n => n = metaPathFor t.partPath)
  have closed : Frame (fun n => n = metaPathFor t.partPath) (OwnInode t) d
      ((t.flushFile io d).2.1.closeFile io (t.flushFile io d).1).1 := by
    refine flushed.frame.trans (closedD.mono (fun _ named => named) ?_)
    intro _ own
    obtain ⟨_, isG, rfl⟩ := own
    cases opened : t.handle with
    | none =>
      simp only [flushFile, opened] at isG
      cases isG
    | some h =>
      obtain ⟨_, isH', sameH⟩ := flushed.handle h opened
      cases isH'.symm.trans isG
      exact ⟨h, opened, sameH.symm⟩
  unfold closeKept
  refine ⟨closedT.trans onlyHandle, ?_⟩
  dsimp only
  split
  · split
    · refine closed.trans ?_
      apply record_meta_frame
      rfl
    · exact closed
  · exact closed

theorem close_file_front (staged : Staged d t content) (opened : t.handle = some h) :
    (t.closeFile io d).1.block h.inode <+: content := by
  obtain ⟨_, isG, appends, rfl⟩ := staged
  cases opened.symm.trans isG
  have drained : ∀ k, (d.drain h k).1.block h.inode <+: Disk.staged d h := by
    intro k
    rw [← drain_staged appends k]
    exact prefix_append _ _
  simp only [closeFile, opened]
  split
  · exact drained io.drained
  · exact drained h.pending.length

theorem close_kept_front {host : Host} (staged : Staged d t content) (opened : t.handle = some h)
    (bound : h.inode < d.next) (lostPeer : Option Text) :
    (t.closeKept host io d lostPeer).1.block h.inode <+: content := by
  obtain ⟨flushed, _, keeps⟩ := flush_file_progress io d t
  obtain ⟨_, opened', sameInode⟩ := flushed.handle h opened
  have closed : ((t.flushFile io d).2.1.closeFile io (t.flushFile io d).1).1.block h.inode <+:
      content := by
    rw [← sameInode]
    exact close_file_front (keeps content staged) opened'
  have grows := Nat.lt_of_lt_of_le bound (Nat.le_trans flushed.frame.grows (close_file_spec io
    (t.flushFile io d).1 (t.flushFile io d).2.1 (fun _ => True)).2.grows)
  have recorded : ∀ peer, (t.recordMeta host io
      ((t.flushFile io d).2.1.closeFile io (t.flushFile io d).1).1 peer t.committed).block h.inode =
      ((t.flushFile io d).2.1.closeFile io (t.flushFile io d).1).1.block h.inode := by
    intro peer
    have frame : Frame (fun _ => True) (fun _ => False)
        ((t.flushFile io d).2.1.closeFile io (t.flushFile io d).1).1
        (t.recordMeta host io ((t.flushFile io d).2.1.closeFile io (t.flushFile io d).1).1 peer
          t.committed) := by
      apply record_meta_frame
      trivial
    exact frame.data h.inode grows (fun no => no)
  unfold closeKept
  dsimp only
  split
  · split
    · rw [recorded]
      exact closed
    · exact closed
  · exact closed

def asFailed (t : IncomingTransfer) : IncomingTransfer :=
  { t with
    handle := none
    state := (t.state.transitionTo .failed).getD t.state }

variable {i : Nat}

theorem fail_kept_eq {r : Receiver} (found : r.ins[i]? = some t)
    (host : Host) (io : Io) (lostPeer : Option Text) (error : Text) :
    failKept host io lostPeer error r i =
      { r with
        disk := (t.closeKept host io r.disk lostPeer).1
        ins := r.ins.set i (asFailed t)
        incoming := r.incoming.pop t.transferId
        notes := r.notes ++ [⟨i, false, none, some error⟩] } := by
  have closed := (close_kept_spec host io r.disk t lostPeer).1
  simp [failKept, found, closed, notify, asFailed]

theorem fail_kept_spec {r : Receiver} (found : r.ins[i]? = some t)
    (host : Host) (io : Io) (lostPeer : Option Text) (error : Text) :
    ∃ d, failKept host io lostPeer error r i =
        { r with
          disk := d
          ins := r.ins.set i (asFailed t)
          incoming := r.incoming.pop t.transferId
          notes := r.notes ++ [⟨i, false, none, some error⟩] } ∧
      Frame (fun n => n = metaPathFor t.partPath) (OwnInode t) r.disk d :=
  ⟨_, fail_kept_eq found host io lostPeer error, (close_kept_spec host io r.disk t lostPeer).2⟩

theorem abort_spec (io : Io) (r : Receiver) (i : Nat) (t : IncomingTransfer) (reason : Text) :
    ∃ d, r.abortIncoming io i t reason =
        { r with
          disk := d
          ins := r.ins.set i (asFailed t)
          incoming := r.incoming.pop t.transferId
          tasks := r.tasks ++ [.abortSend i reason]
          out := r.out ++ [.send t.addrKey (.fileCompleteAck t.transferId false reason)] } ∧
      Frame (fun n => Staging t.partPath n ∨ n = t.destPath) (OwnInode t) r.disk d := by
  obtain ⟨closed, frame⟩ := close_file_spec io r.disk t
    (fun n => Staging t.partPath n ∨ n = t.destPath)
  refine ⟨removeFile io (discard io (t.closeFile io r.disk).1 t.partPath) t.destPath,
    by simp only [abortIncoming, closed, asFailed], ?_⟩
  refine (frame.trans (discard_frame io _ (fun n staged => .inl staged))).trans ?_
  apply remove_file_frame
  exact .inr rfl

theorem open_fresh_spec (names : Text → Prop) (inodes : Nat → Prop) (d : Disk Text) (n : Text)
    (touched : names n) (emptied : ∀ i, d.inode n = some i → inodes i) :
    Frame names inodes d (d.openFresh n).1 ∧
      (d.openFresh n).1.inode n = some (d.openFresh n).2.inode ∧
      Appends (d.openFresh n).1 (d.openFresh n).2 ∧
      Disk.staged (d.openFresh n).1 (d.openFresh n).2 = [] := by
  unfold Disk.openFresh
  split
  · rename_i i linked
    dsimp only
    exact ⟨Frame.of_modify d (emptied i linked) _, linked, by simp [Appends], by simp [Disk.staged]⟩
  · exact ⟨Frame.of_create touched _, by simp, by simp [Appends], by simp [Disk.staged]⟩

/-- What the part file holds, cut or filled up to the offset. -/
def resumedContent (d : Disk Text) (part : Text) (offset : Nat) : Bytes :=
  if offset = 0 then [] else resize ((d.read part).getD []) offset

theorem resumed_content_length (d : Disk Text) (part : Text) (offset : Nat) :
    (resumedContent d part offset).length = offset := by
  unfold resumedContent
  split
  · rename_i none
    rw [none]
    rfl
  · exact resize_length _ _

def OpenedPart (d d' : Disk Text) (ctx : OfferContext) (h : Handle) (offset : Nat) : Prop :=
  d'.inode ctx.partPath = some h.inode ∧ Appends d' h ∧
    Disk.staged d' h = resumedContent d ctx.partPath offset ∧
    (offset = 0 ∨ offset = ctx.resumeOffset)

theorem open_part_spec (io : Io) (d : Disk Text) (ctx : OfferContext) {d' : Disk Text}
    {opened : Option (Handle × Nat)} (result : openPart io d ctx = (d', opened)) :
    Frame (Staging ctx.partPath) (fun i => d.inode ctx.partPath = some i) d d' ∧
      ∀ h offset, opened = some (h, offset) → OpenedPart d d' ctx h offset := by
  have discarded : Frame (Staging ctx.partPath) (fun i => d.inode ctx.partPath = some i) d
      (discard io d ctx.partPath) := discard_frame io d (fun _ staged => staged)
  have fresh : ∀ {d' : Disk Text} {opened : Option (Handle × Nat)},
      (if io.fails .openFresh ctx.partPath = true then (discard io d ctx.partPath, none)
        else (((discard io d ctx.partPath).openFresh ctx.partPath).1,
          some (((discard io d ctx.partPath).openFresh ctx.partPath).2, 0))) = (d', opened) →
      Frame (Staging ctx.partPath) (fun i => d.inode ctx.partPath = some i) d d' ∧
        ∀ h offset, opened = some (h, offset) → OpenedPart d d' ctx h offset := by
    intro _ _ result
    split at result
    · cases result
      exact ⟨discarded, by simp⟩
    · cases result
      obtain ⟨frame, linked, appends, blank⟩ := open_fresh_spec (Staging ctx.partPath)
        (fun i => d.inode ctx.partPath = some i) (discard io d ctx.partPath) ctx.partPath
        (.inl rfl) (fun i found => (discard_sub (Sub.refl d) io ctx.partPath).linked _ i found)
      refine ⟨discarded.trans frame, ?_⟩
      intro _ _ isOpened
      cases isOpened
      exact ⟨linked, appends, by rw [blank, resumedContent, if_pos rfl], .inl rfl⟩
  unfold openPart at result
  dsimp only at result
  split at result
  · rename_i positive
    split at result
    · rename_i linked
      split at result
      · exact fresh result
      · cases result
        refine ⟨Frame.of_modify d linked _, ?_⟩
        intro _ _ isOpened
        cases isOpened
        refine ⟨linked, by simp [Appends], ?_, .inr rfl⟩
        rw [resumedContent, if_neg (by omega)]
        simp [Disk.staged, Disk.read, linked]
    · exact fresh result
  · exact fresh result

def withSidecar (host : Host) (io : Io) (ctx : OfferContext) (h : Handle) (offset : Nat)
    (d : Disk Text) : Disk Text :=
  match ctx.peerDeviceId with
  | some peer => (newTransfer ctx h offset).recordMeta host io d peer offset
  | none => d

theorem with_sidecar_frame {names : Text → Prop} {inodes : Nat → Prop} (host : Host) (io : Io)
    (ctx : OfferContext) (h : Handle) (offset : Nat) (d : Disk Text)
    (touched : names (metaPathFor ctx.partPath)) :
    Frame names inodes d (withSidecar host io ctx h offset d) := by
  unfold withSidecar
  split
  · apply record_meta_frame
    exact touched
  · exact Frame.refl _ _ d

theorem OpenedPart.with_sidecar {d₁ : Disk Text} {ctx : OfferContext} {offset : Nat}
    (opened : OpenedPart d d₁ ctx h offset) (host : Host) (io : Io) :
    OpenedPart d (withSidecar host io ctx h offset d₁) ctx h offset := by
  obtain ⟨linked, appends, content, offsets⟩ := opened
  have frame : Frame (fun n => n = metaPathFor ctx.partPath) (fun _ => False) d₁
      (withSidecar host io ctx h offset d₁) := by
    apply with_sidecar_frame
    rfl
  have sameBlock := frame.data h.inode (d₁.inode_bounded linked) (fun no => no)
  refine ⟨?_, ?_, ?_, offsets⟩
  · rw [frame.kept ctx.partPath (meta_ne_part ctx.partPath)]
    exact linked
  · unfold Appends at appends ⊢
    rw [sameBlock]
    exact appends
  · unfold Disk.staged at content ⊢
    rw [sameBlock]
    exact content

variable (r : Receiver)

theorem accept_spec (host : Host) (io : Io) (ctx : OfferContext) :
    ∃ d opened, openPart io r.disk ctx = (d, opened) ∧
      Frame (Staging ctx.partPath) (fun i => r.disk.inode ctx.partPath = some i) r.disk d ∧
      (opened = none → r.accept host io ctx = { r with disk := d }) ∧
      ∀ h offset, opened = some (h, offset) → OpenedPart r.disk d ctx h offset ∧
        r.accept host io ctx =
          { r with
            disk := withSidecar host io ctx h offset d
            ins := r.ins ++ [newTransfer ctx h offset]
            incoming := r.incoming.set ctx.transferId r.ins.length
            out := r.out ++ [.send ctx.addrKey (.fileAccept ctx.transferId offset)] } := by
  cases result : openPart io r.disk ctx with
  | mk d opened =>
    obtain ⟨frame, opens⟩ := open_part_spec io r.disk ctx result
    refine ⟨d, opened, rfl, frame, ?_, ?_⟩
    · intro raised
      subst raised
      simp [accept, result]
    · intro h offset isOpened
      subst isOpened
      refine ⟨opens h offset rfl, ?_⟩
      simp only [accept, result]
      rfl

/-- Expired partials, and the partial of this offer if it is not in use and cannot be resumed. -/
def OfferTouches (host : Host) (io : Io) (r : Receiver) (peer : Option Text) (o : Offer)
    (n : Text) : Prop :=
  Swept host io r.disk n ∨ ∃ info, readMeta host io r.disk (metaPathFor info.partPath) = some info ∧
    (∃ device, peer = some device ∧
      matchesOffer info (ofText device) (ofText o.filename) o.size o.checksum = true) ∧
    (∀ t ∈ r.active, t.partPath ≠ info.partPath) ∧ Staging info.partPath n

theorem resume_offset_spec {info : PartialInfo} (positive : 0 < resumeOffsetFor io d info) :
    ∃ content, d.read info.partPath = some content ∧
      resumeOffsetFor io d info ≤ info.committed ∧
      resumeOffsetFor io d info ≤ content.length := by
  unfold resumeOffsetFor at positive ⊢
  split at positive
  · omega
  · rename_i sized
    rw [if_neg sized]
    split at positive
    · omega
    · rename_i content readable
      refine ⟨content, readable, ?_, ?_⟩
      · dsimp only
        omega
      · dsimp only
        omega

theorem lookup_partial_spec (host : Host) (io : Io) (o : Offer) (peer : Option Text)
    (sub : Sub d r.disk) : Frame (OfferTouches host io r peer o) (fun _ => False) d
        ({ r with disk := d }.lookupPartial host io o peer).1 ∧
      Sub ({ r with disk := d }.lookupPartial host io o peer).1 r.disk ∧
      ∀ d' info offset, { r with disk := d }.lookupPartial host io o peer =
        (d', .resume info offset) →
        d' = d ∧ readMeta host io d (metaPathFor info.partPath) = some info ∧
        (∃ device, peer = some device ∧
          matchesOffer info (ofText device) (ofText o.filename) o.size o.checksum = true) ∧
        ∃ content, d.read info.partPath = some content ∧ offset ≤ info.committed ∧
          offset ≤ content.length := by
  have nothing : Frame (OfferTouches host io r peer o) (fun _ => False) d d := Frame.refl _ _ d
  unfold lookupPartial
  split
  · exact ⟨nothing, sub, by simp⟩
  · rename_i device
    split
    · exact ⟨nothing, sub, by simp⟩
    · rename_i info found
      obtain ⟨readable, fits, _⟩ := find_resumable_some found
      split
      · exact ⟨nothing, sub, by simp⟩
      · rename_i free
        dsimp only
        split
        · rename_i usable
          refine ⟨nothing, sub, ?_⟩
          intro _ _ _ same
          cases same
          exact ⟨rfl, readable, ⟨device, rfl, fits⟩, resume_offset_spec usable.1⟩
        · refine ⟨?_, discard_sub sub io info.partPath, by simp⟩
          apply discard_frame
          intro _ staged
          have unused : ∀ t ∈ r.active, t.partPath ≠ info.partPath := by
            intro t member same
            exact free (any_eq_true.mpr ⟨t, member, by simp [same]⟩)
          exact .inr ⟨info, read_meta_sub sub readable, ⟨device, rfl, fits⟩, unused, staged⟩

theorem ask_user_spec (io : Io) (ctx : OfferContext) : r.askUser io ctx = { r with
        out := r.out ++ [.send ctx.addrKey (.fileReject ctx.transferId)] } ∨
      r.askUser io ctx = { r with tasks := r.tasks ++ [.offerDecision ctx] } := by
  unfold askUser
  split
  · exact .inl rfl
  · split
    · exact .inr rfl
    · exact .inl rfl

structure AsksFor (host : Host) (io : Io) (addr : Text) (o : Offer) (d : Disk Text)
    (ctx : OfferContext) : Prop where
  addrKey : ctx.addrKey = addr
  transferId : ctx.transferId = o.transferId
  filename : ctx.filename = o.filename
  size : ctx.size = o.size
  checksum : ctx.checksum = o.checksum
  resumes : ctx.resumeOffset = 0 ∨ ∃ info : PartialInfo, info.partPath = ctx.partPath ∧
    readMeta host io d (metaPathFor info.partPath) = some info ∧
    (∃ device, firstNonEmpty [io.peer addr] = some device ∧
      matchesOffer info (ofText device) (ofText o.filename) o.size o.checksum = true) ∧
    ∃ content, d.read info.partPath = some content ∧ ctx.resumeOffset ≤ info.committed ∧
      ctx.resumeOffset ≤ content.length

theorem handle_offer_spec (host : Host) (io : Io) (addr : Text) (o : Offer) :
    ∃ d, Frame (OfferTouches host io r (firstNonEmpty [io.peer addr]) o) (fun _ => False) r.disk d ∧
      Sub d r.disk ∧
      (r.handleOffer host io addr o =
          { r with
            disk := d
            out := r.out ++ [.send addr (.fileReject o.transferId)] } ∨
        ∃ ctx, r.handleOffer host io addr o =
            { r with
              disk := d
              tasks := r.tasks ++ [.offerDecision ctx] } ∧
          AsksFor host io addr o d ctx) := by
  obtain ⟨swept, sub⟩ := sweep_expired_spec host io r.disk
  have first : Frame (OfferTouches host io r (firstNonEmpty [io.peer addr]) o)
      (fun _ => False) r.disk (sweepExpired host io r.disk) :=
    swept.mono (fun n named => .inl named) (fun _ no => no)
  obtain ⟨second, sub', resumes⟩ :=
    lookup_partial_spec r host io o (firstNonEmpty [io.peer addr]) sub
  unfold handleOffer
  dsimp only
  split
  · exact ⟨_, first, sub, .inl rfl⟩
  · split
    · exact ⟨_, first, sub, .inl rfl⟩
    · split
      · exact ⟨_, first, sub, .inl rfl⟩
      · rename_i info offset looked
        obtain ⟨_, readable, fits, covered⟩ := resumes _ info offset looked
        refine ⟨_, first, sub, ?_⟩
        rcases ask_user_spec { r with disk := sweepExpired host io r.disk } io
          ⟨addr, o.transferId, o.filename, o.size, o.checksum,
            (firstNonEmpty [o.senderName]).getD "peer", firstNonEmpty [io.peer addr],
            info.destName, info.partPath, true, offset, info.sidecar⟩ with refused | asked
        · exact .inl refused
        · exact .inr ⟨_, asked, rfl, rfl, rfl, rfl, rfl,
            .inr ⟨info, rfl, readable, fits, covered⟩⟩
      · rename_i d looked
        rw [looked] at second sub'
        refine ⟨d, first.trans second, sub', ?_⟩
        split
        · exact .inl rfl
        · rename_i dest _
          rcases ask_user_spec { r with disk := d } io
            ⟨addr, o.transferId, o.filename, o.size, o.checksum,
              (firstNonEmpty [o.senderName]).getD "peer", firstNonEmpty [io.peer addr],
              dest, getPartPath dest, false, 0, rfl⟩ with refused | asked
          · exact .inl refused
          · exact .inr ⟨_, asked, rfl, rfl, rfl, rfl, rfl, .inl rfl⟩

theorem decline_spec (io : Io) (ctx : OfferContext) : ∃ d, r.decline io ctx =
        { r with
          disk := d
          out := r.out ++ [.send ctx.addrKey (.fileReject ctx.transferId)] } ∧
      Frame (fun n => ctx.resumes = true ∧ Staging ctx.partPath n) (fun _ => False) r.disk d := by
  unfold decline
  refine ⟨_, rfl, ?_⟩
  split
  · rename_i resumes
    apply discard_frame
    intro _ staged
    exact ⟨resumes, staged⟩
  · exact Frame.refl _ _ _

theorem lookup_some_iff (transferId : Text) (i : Nat) (t : IncomingTransfer) :
    r.lookup transferId = some (i, t) ↔
      r.incoming.get transferId = some i ∧ r.ins[i]? = some t := by
  unfold Receiver.lookup
  rw [Option.bind_eq_some_iff]
  constructor
  · intro found
    obtain ⟨_, listed, object⟩ := found
    obtain ⟨_, present, same⟩ := Option.map_eq_some_iff.mp object
    cases same
    exact ⟨listed, present⟩
  · intro found
    exact ⟨i, found.1, by rw [found.2]; rfl⟩

inductive ChunkOutcome (r : Receiver) (transferId : Text) : Receiver → Prop
  | reported (addr : Text) (code : ErrorCode)
      (refused : ∀ i t, r.lookup transferId = some (i, t) →
        t.state.transitionTo .receiving = none) :
      ChunkOutcome r transferId (r.emit (.report addr code transferId))
  | taken (i : Nat) (t t' : IncomingTransfer) (d : Disk Text)
      (found : r.lookup transferId = some (i, t))
      (progress : Progress r.disk { t with state := .receiving } d t')
      (content : Bounded r.disk t → ∀ content, Staged r.disk t content →
        content.length = t.bytesReceived →
        ∃ content', Staged d t' content' ∧ content'.length = t'.bytesReceived) :
      ChunkOutcome r transferId { r with
        disk := d
        ins := r.ins.set i t' }
  | aborted (i : Nat) (t t' : IncomingTransfer) (d : Disk Text) (reason : Text)
      (found : r.lookup transferId = some (i, t)) (same : SameOffer t t')
      (state : t'.state = .receiving)
      (frame : Frame (fun n => Staging t.partPath n ∨ n = t.destPath) (OwnInode t) r.disk d) :
      ChunkOutcome r transferId { r with
        disk := d
        ins := r.ins.set i (asFailed t')
        incoming := r.incoming.pop t.transferId
        tasks := r.tasks ++ [.abortSend i reason]
        out := r.out ++ [.send t.addrKey (.fileCompleteAck t.transferId false reason)] }

theorem handle_chunk_outcome (host : Host) (io : Io) (addr transferId : Text)
    (sequence offset : Nat) (data : Bytes) :
    ChunkOutcome r transferId (r.handleChunk host io addr transferId sequence offset data) := by
  unfold handleChunk
  cases found : r.lookup transferId with
  | none => exact .reported _ _ (by simp [found])
  | some pair =>
    obtain ⟨i, t⟩ := pair
    dsimp only
    split
    · rename_i refused
      refine .reported _ _ ?_
      intro _ _ found'
      cases found.symm.trans found'
      exact refused
    · rename_i unopened
      refine .taken i t { t with state := .receiving } r.disk found (Progress.refl _ _) ?_
      intro _ _ staged
      obtain ⟨_, opened, _⟩ := staged
      cases unopened.symm.trans opened
    · rename_i state h _ opened
      have opened' : ({ t with state := .receiving } : IncomingTransfer).handle = some h := opened
      split
      · rename_i d t' result
        obtain ⟨progress, grows⟩ :=
          receive_chunk_progress host io r.disk _ h opened' sequence offset
          data result
        refine .taken i t t' d found progress ?_
        intro bounded content staged counted
        obtain ⟨ends, within, total, _⟩ := grows rfl bounded content staged counted
        refine ⟨_, ends, ?_⟩
        rw [length_append, length_take_of_le within, total]
      · rename_i d t' reason result
        obtain ⟨progress, _⟩ := receive_chunk_progress host io r.disk _ h opened' sequence offset
          data result
        obtain ⟨d', aborted, frame⟩ := abort_spec io { r with disk := d } i t' reason
        have moved : SameOffer t { t with state := .receiving } :=
          ⟨rfl, rfl, rfl, rfl, rfl, rfl, rfl⟩
        have same : SameOffer t t' := moved.trans progress.same
        obtain ⟨_, opened'', sameInode⟩ := progress.handle h opened
        rw [aborted]
        have whole :
            Frame (fun n => Staging t.partPath n ∨ n = t.destPath) (OwnInode t) r.disk d' := by
          refine (progress.frame.mono ?_ ?_).trans (frame.mono ?_ ?_)
          · intro _ named
            exact .inl (.inr named)
          · intro _ own
            exact own
          · intro _ named
            rw [same.partPath, same.destPath] at named
            exact named
          · intro _ own
            obtain ⟨_, isG, rfl⟩ := own
            cases opened''.symm.trans isG
            exact ⟨h, opened, sameInode.symm⟩
        have outcome := ChunkOutcome.aborted i t t' d' reason found same progress.state whole
        rw [← same.transferId, ← same.addrKey] at outcome
        exact outcome

def asVerifying (t : IncomingTransfer) : IncomingTransfer :=
  { t with
    state := .verifying
    handle := none }

inductive DoneOutcome (host : Host) (io : Io) (r : Receiver) (transferId : Text) : Receiver → Prop
  | reported (addr : Text) (code : ErrorCode)
      (refused : ∀ i t, r.lookup transferId = some (i, t) →
        verifyingState t.state = none) :
      DoneOutcome host io r transferId (r.emit (.report addr code transferId))
  | raised (i : Nat) (t : IncomingTransfer) (d : Disk Text)
      (found : r.lookup transferId = some (i, t))
      (frame : Frame (fun _ => False) (OwnInode t) r.disk d) :
      DoneOutcome host io r transferId { r with
        disk := d
        ins := r.ins.set i (asVerifying t)
        incoming := r.incoming.pop t.transferId }
  | hashed (i : Nat) (t : IncomingTransfer) (d : Disk Text) (content : Bytes) (success : Bool)
      (addr detail : Text) (found : r.lookup transferId = some (i, t))
      (frame : Frame (fun _ => False) (OwnInode t) r.disk d)
      (closed : d = (closeFile io r.disk t).1)
      (readable : d.read t.partPath = some content)
      (verdict : success = true ↔
        host.sha256 content = t.expectedChecksum ∧ t.bytesReceived = t.size) :
      DoneOutcome host io r transferId { r with
        disk := d
        ins := r.ins.set i (asVerifying t)
        incoming := r.incoming.pop t.transferId
        tasks := r.tasks ++ [.doneSend i success]
        out := r.out ++ [.send addr (.fileCompleteAck t.transferId success detail)] }

theorem verifying_state_some {state next : IncomingTransferState}
    (honoured : verifyingState state = some next) : next = .verifying := by
  unfold verifyingState at honoured
  split at honoured
  · obtain ⟨_, _, moved⟩ := Option.bind_eq_some_iff.mp honoured
    exact IncomingTransferState.transition_target moved
  · exact IncomingTransferState.transition_target honoured

theorem handle_done_outcome (host : Host) (io : Io) (addr transferId : Text) :
    DoneOutcome host io r transferId (r.handleDone host io addr transferId) := by
  unfold handleDone
  cases found : r.lookup transferId with
  | none => exact .reported _ _ (by simp [found])
  | some pair =>
    obtain ⟨i, t⟩ := pair
    dsimp only
    cases honoured : verifyingState t.state with
    | none =>
      refine .reported _ _ ?_
      intro _ _ found'
      cases found.symm.trans found'
      exact honoured
    | some =>
      cases verifying_state_some honoured
      have frame := (close_file_spec io r.disk t (fun _ => False)).2
      dsimp only
      rw [close_file_state]
      split
      · exact .raised i t _ found frame
      · rename_i content readable
        split
        · exact .raised i t _ found frame
        · refine .hashed i t _ content _ _ _ found frame rfl readable ?_
          simp

inductive FinishOutcome (io : Io) (r : Receiver) (i : Nat) (t : IncomingTransfer) :
    Bool → Receiver → Prop
  | finalized (linked : r.disk.present t.partPath = true) :
      FinishOutcome io r i t true { r with
        disk := discard io (r.disk.rename t.partPath t.destPath) t.partPath
        ins := r.ins.set i { t with state := .completed }
        notes := r.notes ++ [⟨i, true, some t.destPath, none⟩] }
  | raised (broken : ¬ (r.disk.present t.partPath = true ∧ io.fails .rename t.partPath = false)) :
      FinishOutcome io r i t true r
  | refused : FinishOutcome io r i t false { r with
        disk := discard io r.disk t.partPath
        ins := r.ins.set i { t with state := .failed }
        notes := r.notes ++ [⟨i, false, none, some "checksum_mismatch"⟩] }

theorem finish_outcome (io : Io) (i : Nat) (t : IncomingTransfer) (success : Bool) :
    FinishOutcome io r i t success (r.finish io i t success) := by
  unfold finish
  cases success with
  | false => exact .refused
  | true =>
    simp only [if_true]
    split
    · rename_i ready
      exact .finalized ready.1
    · rename_i broken
      exact .raised broken

theorem finalize_inode (linked : d.inode t.partPath = some i) (io : Io) (n : Text) :
    (n = t.destPath → (discard io (d.rename t.partPath t.destPath) t.partPath).inode n = some i) ∧
      (n ≠ t.destPath → ∀ j,
        (discard io (d.rename t.partPath t.destPath) t.partPath).inode n = some j →
          d.inode n = some j) ∧
      (n ≠ t.destPath → ¬ Staging t.partPath n →
        (discard io (d.rename t.partPath t.destPath) t.partPath).inode n = d.inode n) := by
  have frame : Frame (Staging t.partPath) (fun _ => False) (d.rename t.partPath t.destPath)
      (discard io (d.rename t.partPath t.destPath) t.partPath) :=
    discard_frame io _ (fun _ staged => staged)
  have sub := discard_sub (Sub.refl (d.rename t.partPath t.destPath)) io t.partPath
  refine ⟨?_, ?_, ?_⟩
  · intro isDest
    rw [isDest, frame.kept _ (dest_not_staging t), inode_rename d _ _ _ linked, if_pos rfl]
  · intro other j found
    have renamed := sub.linked n j found
    rw [inode_rename d _ _ _ linked, if_neg other] at renamed
    split at renamed
    · cases renamed
    · exact renamed
  · intro other unstaged
    rw [frame.kept n unstaged, inode_rename d _ _ _ linked, if_neg other, if_neg ?_]
    intro isPart
    exact unstaged (.inl isPart)

theorem finalize_block (d : Disk Text) (t : IncomingTransfer) (io : Io) (j : Nat) :
    (discard io (d.rename t.partPath t.destPath) t.partPath).block j = d.block j := by
  rw [(discard_sub (Sub.refl _) io t.partPath).data, block_rename]

theorem finalize_next (d : Disk Text) (t : IncomingTransfer) (io : Io) :
    (discard io (d.rename t.partPath t.destPath) t.partPath).next = d.next := by
  have one : ∀ (d : Disk Text) (n : Text), (removeFile io d n).next = d.next := by
    intro _ _
    unfold removeFile
    split <;> rfl
  rw [discard, one, one, next_rename]

end Peerc.Transfer
