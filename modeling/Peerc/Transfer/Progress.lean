import Peerc.Transfer.Receiver

/-!
What the steps of a receiving handler do to the part file and to the transfer.
-/
namespace Peerc.Transfer
open Disk Receiver

structure SameOffer (t t' : IncomingTransfer) : Prop where
  transferId : t'.transferId = t.transferId
  addrKey : t'.addrKey = t.addrKey
  filename : t'.filename = t.filename
  size : t'.size = t.size
  expectedChecksum : t'.expectedChecksum = t.expectedChecksum
  destPath : t'.destPath = t.destPath
  peerDeviceId : t'.peerDeviceId = t.peerDeviceId

theorem SameOffer.refl (t : IncomingTransfer) : SameOffer t t := ⟨rfl, rfl, rfl, rfl, rfl, rfl, rfl⟩

variable {t' t : IncomingTransfer}

theorem SameOffer.trans {t'' : IncomingTransfer} (first : SameOffer t t')
    (second : SameOffer t' t'') : SameOffer t t'' where
  transferId := second.transferId.trans first.transferId
  addrKey := second.addrKey.trans first.addrKey
  filename := second.filename.trans first.filename
  size := second.size.trans first.size
  expectedChecksum := second.expectedChecksum.trans first.expectedChecksum
  destPath := second.destPath.trans first.destPath
  peerDeviceId := second.peerDeviceId.trans first.peerDeviceId

theorem SameOffer.partPath (same : SameOffer t t') : t'.partPath = t.partPath := by
  rw [t'.staging, t.staging, same.destPath]

def OwnInode (t : IncomingTransfer) (i : Nat) : Prop := ∃ h, t.handle = some h ∧ h.inode = i

def Staged (d : Disk Text) (t : IncomingTransfer) (content : Bytes) : Prop :=
  ∃ h, t.handle = some h ∧ Appends d h ∧ staged d h = content

structure Progress (d : Disk Text) (t : IncomingTransfer) (d' : Disk Text) (t' : IncomingTransfer) :
    Prop where
  same : SameOffer t t'
  state : t'.state = t.state
  handle : ∀ h, t.handle = some h → ∃ h', t'.handle = some h' ∧ h'.inode = h.inode
  frame : Frame (fun n => n = metaPathFor t.partPath) (OwnInode t) d d'

theorem Progress.refl (d : Disk Text) (t : IncomingTransfer) : Progress d t d t :=
  ⟨SameOffer.refl t, rfl, fun h open_ => ⟨h, open_, rfl⟩, Frame.refl _ _ d⟩

variable {d' d : Disk Text} {h : Handle}

theorem Progress.trans {d'' : Disk Text} {t'' : IncomingTransfer}
    (opened : t.handle = some h) (first : Progress d t d' t') (second : Progress d' t' d'' t'') :
    Progress d t d'' t'' where
  same := first.same.trans second.same
  state := second.state.trans first.state
  handle g isG := by
    obtain ⟨g', isG', sameG⟩ := first.handle g isG
    obtain ⟨g'', isG'', sameG'⟩ := second.handle g' isG'
    exact ⟨g'', isG'', sameG'.trans sameG⟩
  frame := by
    obtain ⟨_, isH', sameH⟩ := first.handle h opened
    have narrowed := second.frame
    rw [first.same.partPath] at narrowed
    refine first.frame.trans (narrowed.mono (fun _ named => named) ?_)
    intro _ own
    obtain ⟨_, isG, rfl⟩ := own
    cases isH'.symm.trans isG
    exact ⟨h, opened, sameH.symm⟩

variable (host : Host) (io : Io)

theorem record_meta_frame {names : Text → Prop} {inodes : Nat → Prop} (d : Disk Text)
    (t : IncomingTransfer) (touched : names (metaPathFor t.partPath)) (peer : Text)
    (committed : Nat) : Frame names inodes d (t.recordMeta host io d peer committed) :=
  write_meta_frame host io d touched _ _ _ _ _ _

theorem record_meta_staged {host : Host} {io : Io}
    {content : Bytes} (bounded : ∀ i, OwnInode t i → i < d.next) (staged : Staged d t content)
    (peer : Text) (committed : Nat) : Staged (t'.recordMeta host io d peer committed)
    t content := by
  obtain ⟨h, opened, appends, holds⟩ := staged
  have frame : Frame (fun n => n = metaPathFor t'.partPath) (fun _ => False) d
      (t'.recordMeta host io d peer committed) := by
    apply record_meta_frame
    rfl
  have sameBlock := frame.data h.inode (bounded h.inode ⟨h, opened, rfl⟩) (fun no => no)
  refine ⟨h, opened, ?_, ?_⟩
  · unfold Appends at appends ⊢
    rw [sameBlock]
    exact appends
  · unfold Disk.staged at holds ⊢
    rw [sameBlock]
    exact holds

theorem flush_file_progress (d : Disk Text) (t : IncomingTransfer) :
    Progress d t (t.flushFile io d).1 (t.flushFile io d).2.1 ∧
      (t.flushFile io d).2.1.bytesReceived = t.bytesReceived ∧
      ∀ content, Staged d t content →
        Staged (t.flushFile io d).1 (t.flushFile io d).2.1 content := by
  unfold IncomingTransfer.flushFile
  cases opened : t.handle with
  | none => exact ⟨Progress.refl d t, rfl, fun _ staged => staged⟩
  | some h =>
    have step : ∀ k, Progress d t (d.drain h k).1 { t with handle := some (d.drain h k).2 } ∧
        ∀ content, Staged d t content →
          Staged (d.drain h k).1 { t with handle := some (d.drain h k).2 } content := by
      intro k
      constructor
      · refine ⟨⟨rfl, rfl, rfl, rfl, rfl, rfl, rfl⟩, rfl, ?_, Frame.of_drain ⟨h, opened, rfl⟩ k⟩
        intro _ isG
        cases opened.symm.trans isG
        exact ⟨_, rfl, rfl⟩
      · intro _ staged
        obtain ⟨_, isG, appends, rfl⟩ := staged
        cases opened.symm.trans isG
        exact ⟨_, rfl, drain_appends appends k, drain_staged appends k⟩
    dsimp only
    split
    · exact ⟨(step io.drained).1, rfl, (step io.drained).2⟩
    · exact ⟨(step h.pending.length).1, rfl, (step h.pending.length).2⟩

theorem record_meta_progress (d : Disk Text) (t t' : IncomingTransfer) (same : SameOffer t t')
    (state : t'.state = t.state) (handle : t'.handle = t.handle) (peer : Text) (committed : Nat) :
    Progress d t (t'.recordMeta host io d peer committed) t' where
  same := same
  state := state
  handle h opened := ⟨h, handle.trans opened, rfl⟩
  frame := by
    apply record_meta_frame
    rw [same.partPath]

def Bounded (d : Disk Text) (t : IncomingTransfer) : Prop := ∀ i, OwnInode t i → i < d.next

theorem Progress.bounded
    (opened : t.handle = some h) (step : Progress d t d' t') (bounded : Bounded d t) :
    Bounded d' t' := by
  intro _ own
  obtain ⟨_, isG, rfl⟩ := own
  obtain ⟨_, isH', sameH⟩ := step.handle h opened
  cases isH'.symm.trans isG
  rw [sameH]
  exact Nat.lt_of_lt_of_le (bounded h.inode ⟨h, opened, rfl⟩) step.frame.grows

theorem checkpoint_progress (d : Disk Text) (t : IncomingTransfer) (opened : t.handle = some h) :
    Progress d t (checkpoint host io d t).1 (checkpoint host io d t).2 ∧
      (checkpoint host io d t).2.bytesReceived = t.bytesReceived ∧
      (checkpoint host io d t).2.expectedChunkIndex = t.expectedChunkIndex ∧
      (Bounded d t → ∀ content, Staged d t content →
        Staged (checkpoint host io d t).1
    (checkpoint host io d t).2 content) := by
  unfold checkpoint
  split
  · exact ⟨Progress.refl d t, rfl, rfl, fun _ _ staged => staged⟩
  · rename_i peer _
    obtain ⟨flushed, received, keeps⟩ := flush_file_progress io d t
    have index : (t.flushFile io d).2.1.expectedChunkIndex = t.expectedChunkIndex := by
      unfold IncomingTransfer.flushFile
      split
      · rfl
      · split <;> rfl
    split
    · rename_i result
      rw [result] at flushed received keeps index
      exact ⟨flushed, received, index, fun _ => keeps⟩
    · rename_i d' t' result
      rw [result] at flushed received keeps index
      have saved : Progress d' t'
          (IncomingTransfer.recordMeta host io d' { t' with lastCommitted := t'.committed } peer
            t'.committed) { t' with lastCommitted := t'.committed } :=
        record_meta_progress host io d' t' { t' with lastCommitted := t'.committed }
          ⟨rfl, rfl, rfl, rfl, rfl, rfl, rfl⟩ rfl rfl peer _
      refine ⟨flushed.trans opened saved, received, index, ?_⟩
      intro bounded content staged
      exact record_meta_staged (flushed.bounded opened bounded) (keeps content staged) peer _

variable {reason : Option Text}

theorem first_chunk_progress (d : Disk Text) (t : IncomingTransfer) (h : Handle)
    (opened : t.handle = some h) (sequence offset : Nat)
    (result : firstChunk host io d t h sequence offset = (d', t', reason)) :
    Progress d t d' t' ∧ (reason = none → Bounded d t → ∀ content, Staged d t content →
      (Staged d' t' content ∧ t'.bytesReceived = t.bytesReceived ∧
          t'.expectedChunkIndex = t.expectedChunkIndex) ∨
        (Staged d' t' [] ∧ t'.bytesReceived = 0 ∧ t'.expectedChunkIndex = 0)) := by
  unfold firstChunk at result
  have seen : Progress d t d { t with firstChunkReceived := true } :=
    ⟨⟨rfl, rfl, rfl, rfl, rfl, rfl, rfl⟩, rfl, fun g isG => ⟨g, isG, rfl⟩, Frame.refl _ _ d⟩
  split at result
  · split at result
    · cases result
      exact ⟨seen, fun _ _ content staged => .inl ⟨staged, rfl, rfl⟩⟩
    · split at result
      · split at result
        · cases result
          refine ⟨⟨⟨rfl, rfl, rfl, rfl, rfl, rfl, rfl⟩, rfl, ?_, Frame.of_drain ⟨h, opened, rfl⟩ _⟩,
            by simp⟩
          intro _ isG
          cases opened.symm.trans isG
          exact ⟨_, rfl, rfl⟩
        · have emptied : Progress d t (d.modify h.inode (fun _ => []))
              { t with
                handle := some ⟨h.inode, 0, []⟩
                bytesReceived := 0
                expectedChunkIndex := 0
                resumeOffset := 0
                lastCommitted := 0
                firstChunkReceived := true } := by
            refine ⟨⟨rfl, rfl, rfl, rfl, rfl, rfl, rfl⟩, rfl, ?_,
              Frame.of_modify d ⟨h, opened, rfl⟩ _⟩
            intro _ isG
            cases opened.symm.trans isG
            exact ⟨_, rfl, rfl⟩
          have blank : Staged (d.modify h.inode (fun _ => []))
              { t with
                handle := some ⟨h.inode, 0, []⟩
                bytesReceived := 0
                expectedChunkIndex := 0
                resumeOffset := 0
                lastCommitted := 0
                firstChunkReceived := true } [] :=
            ⟨_, rfl, by simp [Appends], by simp [Disk.staged]⟩
          split at result
          · cases result
            refine ⟨emptied.trans opened (record_meta_progress host io _ _ _
              ⟨rfl, rfl, rfl, rfl, rfl, rfl, rfl⟩ rfl rfl _ _), ?_⟩
            intro _ bounded _ _
            right
            exact ⟨record_meta_staged (emptied.bounded opened bounded) blank _ _, rfl, rfl⟩
          · cases result
            exact ⟨emptied, fun _ _ _ _ => .inr ⟨blank, rfl, rfl⟩⟩
      · cases result
        exact ⟨seen, by simp⟩
  · cases result
    exact ⟨seen, fun _ _ content staged => .inl ⟨staged, rfl, rfl⟩⟩

theorem store_chunk_progress (d : Disk Text) (t : IncomingTransfer) (h : Handle)
    (opened : t.handle = some h) (data : Bytes)
    (result : storeChunk host io d t h data = (d', t', reason)) :
    Progress d t d' t' ∧ (reason = none → Bounded d t → ∀ content, Staged d t content →
      Staged d' t' (content ++ data) ∧ t'.bytesReceived = t.bytesReceived + data.length ∧
        t'.expectedChunkIndex = t.expectedChunkIndex + 1) := by
  unfold storeChunk at result
  dsimp only at result
  have written : Progress d t (d.drain { h with pending := h.pending ++ data } io.drained).1
      { t with
        handle := some (d.drain { h with pending := h.pending ++ data } io.drained).2 } := by
    refine ⟨⟨rfl, rfl, rfl, rfl, rfl, rfl, rfl⟩, rfl, ?_, Frame.of_drain ⟨h, opened, rfl⟩ _⟩
    intro _ isG
    cases opened.symm.trans isG
    exact ⟨_, rfl, rfl⟩
  have appended : ∀ content, Staged d t content →
      Staged (d.drain { h with pending := h.pending ++ data } io.drained).1
        { t with
          handle := some (d.drain { h with pending := h.pending ++ data } io.drained).2 }
        (content ++ data) := by
    intro _ staged
    obtain ⟨_, isG, appends, rfl⟩ := staged
    cases opened.symm.trans isG
    have ready : Appends d { h with pending := h.pending ++ data } := appends
    refine ⟨_, rfl, drain_appends ready _, ?_⟩
    rw [drain_staged ready]
    simp [Disk.staged]
  split at result
  · cases result
    exact ⟨written, by simp⟩
  · split at result
    · cases result
      obtain ⟨saved, received, index, keeps⟩ := checkpoint_progress host io
        (d.drain { h with pending := h.pending ++ data } io.drained).1
        { t with
          handle := some (d.drain { h with pending := h.pending ++ data } io.drained).2
          bytesReceived := t.bytesReceived + data.length
          expectedChunkIndex := t.expectedChunkIndex + 1 } rfl
      have counted : Progress d t (d.drain { h with pending := h.pending ++ data } io.drained).1
          { t with
            handle := some (d.drain { h with pending := h.pending ++ data } io.drained).2
            bytesReceived := t.bytesReceived + data.length
            expectedChunkIndex := t.expectedChunkIndex + 1 } :=
        ⟨⟨rfl, rfl, rfl, rfl, rfl, rfl, rfl⟩, rfl, written.handle, written.frame⟩
      refine ⟨counted.trans opened saved, ?_⟩
      intro _ bounded content staged
      exact ⟨keeps (counted.bounded opened bounded) _ (appended content staged), received, index⟩
    · cases result
      refine ⟨⟨⟨rfl, rfl, rfl, rfl, rfl, rfl, rfl⟩, rfl, written.handle, written.frame⟩, ?_⟩
      intro _ _ content staged
      exact ⟨appended content staged, rfl, rfl⟩

/-- A chunk that is accepted fits the declared size and follows the staged bytes at its offset. -/
theorem receive_chunk_progress (d : Disk Text) (t : IncomingTransfer) (h : Handle)
    (opened : t.handle = some h) (sequence offset : Nat) (data : Bytes)
    (result : receiveChunk host io d t h sequence offset data = (d', t', reason)) :
    Progress d t d' t' ∧ (reason = none → Bounded d t → ∀ content, Staged d t content →
      content.length = t.bytesReceived →
      Staged d' t' (content.take offset ++ data) ∧ offset ≤ content.length ∧
        t'.bytesReceived = offset + data.length ∧ t'.expectedChunkIndex = sequence + 1 ∧
        offset + data.length ≤ t.size) := by
  unfold receiveChunk at result
  split at result
  · rename_i first
    cases result
    exact ⟨(first_chunk_progress host io d t h opened sequence offset first).1, by simp⟩
  · rename_i d₁ t₁ first
    obtain ⟨begun, choice⟩ := first_chunk_progress host io d t h opened sequence offset first
    obtain ⟨h₁, opened₁, _⟩ := begun.handle h opened
    split at result
    · cases result
      exact ⟨begun, by simp⟩
    · rename_i aligned
      split at result
      · cases result
        exact ⟨begun, by simp⟩
      · rename_i fits
        rw [opened₁] at result
        obtain ⟨stored, appended⟩ := store_chunk_progress host io d₁ t₁ h₁ opened₁ data result
        refine ⟨begun.trans opened stored, ?_⟩
        intro none bounded content staged counted
        have ordered : sequence = t₁.expectedChunkIndex ∧ offset = t₁.bytesReceived := by
          simpa only [not_or, not_not] using aligned
        have sized : offset + data.length ≤ t.size := by
          rw [ordered.2, ← begun.same.size]
          omega
        have bounded₁ := begun.bounded opened bounded
        rcases choice rfl bounded content staged with ⟨same, received, _⟩ | ⟨blank, received, _⟩
        · obtain ⟨ends, total, index⟩ := appended none bounded₁ content same
          have atEnd : offset = content.length := by rw [ordered.2, received, counted]
          rw [atEnd, List.take_length, ordered.1]
          refine ⟨ends, le_refl _, ?_, index, ?_⟩
          · rw [total, received, counted]
          · rw [← atEnd]
            exact sized
        · obtain ⟨ends, total, index⟩ := appended none bounded₁ [] blank
          have atStart : offset = 0 := by rw [ordered.2, received]
          rw [atStart, ordered.1]
          refine ⟨ends, Nat.zero_le _, ?_, index, ?_⟩
          · rw [total, received]
          · rw [← atStart]
            exact sized

end Peerc.Transfer
