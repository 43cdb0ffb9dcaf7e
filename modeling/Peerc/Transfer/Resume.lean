import Mathlib.Logic.Relation
import Peerc.Lib.Runs
import Peerc.Transfer.Chunker
import Peerc.Transfer.Sender
import Peerc.Transfer.Steps

/-!
Interrupted downloads. One sender offers the same file again and again; each round ends with a
lost connection or a crash after any number of chunks.
-/
namespace Peerc.Transfer
open List Runs Disk Receiver
open Decoded (ofText)

/-- Zero if the offset of the accept is not valid or the sender does not know about resuming. -/
def startOffset (honours : Bool) (resumeOffset fileSize : Nat) : Nat :=
  if honours && isValidResumeOffset resumeOffset fileSize then resumeOffset else 0

def Healthy (io : Io) : Prop := ∀ call name, io.fails call name = false

def acceptedOffset (before after : Receiver) (addr transferId : Text) : Option Nat :=
  (after.out.drop before.out.length).findSome? (fun o => match o with
    | .send a (.fileAccept i offset) => if a = addr ∧ i = transferId then some offset else none
    | _ => none)

def chunkEvents (addr transferId : Text) (io : Nat → Io) (cs : List Chunk) : List RecvEvent :=
  cs.mapIdx (fun j c => .chunk addr transferId c.sequence c.offset c.data (io j))

structure Round where
  addr : Text
  transferId : Text
  senderName : Option Text
  decision : Option Bool
  honours : Bool
  io : Nat → Io

structure Source where
  device : Text
  filename : Text
  file : Bytes

namespace Round
variable (host : Host) (src : Source) (round : Round)

def offer : Offer :=
  ⟨round.transferId, src.filename, src.file.length, host.sha256 src.file, round.senderName⟩

def attempt (r : Receiver) : Receiver :=
  let r₁ := r.step host (.offer round.addr (round.offer host src) (round.io 0))
  match round.decision with
  | none => r₁
  | some accepted => r₁.step host (.decide r.tasks.length accepted (round.io 1))

def stream (r : Receiver) : List Chunk :=
  match acceptedOffset r (round.attempt host src r) round.addr round.transferId with
  | none => []
  | some offset =>
      (readChunks src.file (startOffset round.honours offset src.file.length) chunkSize).getD []

def partway (r : Receiver) (delivered : Nat) : Receiver :=
  run (step host) (round.attempt host src r)
    (chunkEvents round.addr round.transferId (fun j => round.io (j + 2))
      ((round.stream host src r).take delivered))

structure Proper : Prop where
  healthy : ∀ j, Healthy (round.io j)
  peer : ∀ device, firstNonEmpty [(round.io 0).peer round.addr] = some device → device = src.device

end Round

open Round

/-- Part files keep what their sidecar says is committed and may continue with anything. -/
structure Crashed (host : Host) (d d' : Disk Text) : Prop where
  others : ∀ n, ¬ partExtension <:+ n → d'.read n = d.read n
  parts : ∀ io info content', readMeta host io d (metaPathFor info.partPath) = some info →
    d'.read info.partPath = some content' → ∃ content, d.read info.partPath = some content ∧
      content'.take info.committed = content.take info.committed

inductive Interrupted (host : Host) (src : Source) : Receiver → Receiver → Prop
  | lost (r : Receiver) (round : Round) (proper : round.Proper src) (delivered : Nat)
      (peer : Option Text) (io : Io) :
      Interrupted host src r
        ((round.partway host src r delivered).step host (.connectionLost round.addr peer io))
  | crashed (r : Receiver) (round : Round) (proper : round.Proper src) (delivered : Nat)
      (disk : Disk Text) (crash : Crashed host (round.partway host src r delivered).disk disk)
      (io : Io) :
      Interrupted host src r (start (sweepExpired host io disk))

def SidecarOf (host : Host) (src : Source) (io : Io) (d : Disk Text) (info : PartialInfo) : Prop :=
  readMeta host io d (metaPathFor info.partPath) = some info ∧
    matchesOffer info (ofText src.device) (ofText src.filename) src.file.length
      (host.sha256 src.file) = true

def Honest (host : Host) (src : Source) (d : Disk Text) : Prop :=
  ∀ io info content, SidecarOf host src io d info → d.read info.partPath = some content →
    ∀ k, k ≤ info.committed → k ≤ content.length → content.take k = src.file.take k

variable {host : Host} {src : Source} {io : Io} {d d' : Disk Text}

theorem read_meta_congr {name : Text} (same : d'.read name = d.read name) :
    readMeta host io d' name = readMeta host io d name := by
  unfold readMeta
  rw [same]

theorem honest_sub (honest : Honest host src d) (sub : Sub d' d) : Honest host src d' := by
  intro io info content sidecar readable
  exact honest io info content ⟨read_meta_sub sub sidecar.1, sidecar.2⟩ (sub.read_some readable)

theorem honest_part (dest : Text) (honest : Honest host src d)
    (same : ∀ n, ¬ Staging (getPartPath dest) n → d'.read n = d.read n)
    (front : ∀ content, d'.read (getPartPath dest) = some content → content <+: src.file) :
    Honest host src d' := by
  intro io info content sidecar readable k covered inside
  by_cases own : info.partPath = getPartPath dest
  · rw [own] at readable
    obtain ⟨_, whole⟩ := front content readable
    rw [← whole, take_append_of_le_length inside]
  · have metaOther : ¬ Staging (getPartPath dest) (metaPathFor info.partPath) := by
      intro staged
      rcases staged with isPart | isMeta
      · exact part_ne_meta _ _ isPart.symm
      · exact own (append_cancel_right isMeta)
    have partOther : ¬ Staging (getPartPath dest) info.partPath := by
      intro staged
      rcases staged with isPart | isMeta
      · exact own isPart
      · rw [info.sidecar] at isMeta
        exact part_ne_meta _ _ isMeta
    refine honest io info content ⟨?_, sidecar.2⟩ ?_ k covered inside
    · rw [← read_meta_congr (same _ metaOther)]
      exact sidecar.1
    · rw [← same _ partOther]
      exact readable

theorem meta_not_part (part : Text) : ¬ partExtension <:+ metaPathFor part := by
  intro isPart
  obtain ⟨dest, same⟩ := isPart
  exact part_ne_meta dest part same

theorem honest_crashed (honest : Honest host src d) (crash : Crashed host d d') :
    Honest host src d' := by
  intro io info content' sidecar readable k covered _
  have readableMeta : readMeta host io d (metaPathFor info.partPath) = some info := by
    rw [← read_meta_congr (crash.others _ (meta_not_part info.partPath))]
    exact sidecar.1
  obtain ⟨content, before, agree⟩ := crash.parts io info content' readableMeta readable
  have lengths := congrArg List.length agree
  rw [length_take, length_take] at lengths
  have within : k ≤ content.length := by omega
  calc content'.take k = (content'.take info.committed).take k := by
        rw [take_take, Nat.min_eq_left covered]
    _ = content.take k := by rw [agree, take_take, Nat.min_eq_left covered]
    _ = src.file.take k :=
        honest io info content ⟨readableMeta, sidecar.2⟩ before k covered within

structure Quiet (host : Host) (src : Source) (r : Receiver) : Prop where
  alone : r.incoming.rows = []
  honest : Honest host src r.disk

structure Streaming (host : Host) (src : Source) (r : Receiver) (i : Nat) (t : IncomingTransfer) :
    Prop where
  object : r.ins[i]? = some t
  alone : r.incoming.rows = [(t.transferId, i)]
  live : Live t
  size : t.size = src.file.length
  checksum : t.expectedChecksum = host.sha256 src.file
  linked : ∃ h, t.handle = some h ∧ r.disk.inode t.partPath = some h.inode
  staged : Staged r.disk t (src.file.take t.bytesReceived)
  bound : t.bytesReceived ≤ src.file.length
  honest : Honest host src r.disk

def Ready (t : IncomingTransfer) (sequence offset : Nat) : Prop :=
  (sequence = t.expectedChunkIndex ∧ offset = t.bytesReceived) ∨
    (sequence = 0 ∧ offset = 0 ∧ 0 < t.resumeOffset ∧ t.firstChunkReceived = false)

variable {t : IncomingTransfer} {offset sequence : Nat}

theorem first_chunk_accepts (healthy : Healthy io) (d : Disk Text) (h : Handle)
    (ready : Ready t sequence offset) :
    ∃ d' t', firstChunk host io d t h sequence offset = (d', t', none) ∧
      sequence = t'.expectedChunkIndex ∧ offset = t'.bytesReceived := by
  unfold firstChunk
  split
  · split
    · rename_i aligned
      exact ⟨_, _, rfl, aligned⟩
    · rename_i unaligned
      rcases ready with aligned | ⟨first, start, _⟩
      · exact absurd aligned unaligned
      · rw [if_pos ⟨first, start⟩, healthy]
        simp only [Bool.false_eq_true, if_false]
        split
        · exact ⟨_, _, rfl, first, start⟩
        · exact ⟨_, _, rfl, first, start⟩
  · rename_i fresh
    rcases ready with aligned | ⟨_, _, resumed, unseen⟩
    · exact ⟨_, _, rfl, aligned⟩
    · exact absurd ⟨resumed, unseen⟩ fresh

theorem store_chunk_accepts (healthy : Healthy io) (d : Disk Text) (t : IncomingTransfer)
    (h : Handle) (data : Bytes) :
    ∃ d' t', storeChunk host io d t h data = (d', t', none) := by
  unfold storeChunk
  dsimp only
  rw [healthy]
  simp only [Bool.false_eq_true, if_false]
  split
  · exact ⟨_, _, rfl⟩
  · exact ⟨_, _, rfl⟩

variable {h : Handle}

theorem receive_chunk_accepts (healthy : Healthy io) (d : Disk Text) (t : IncomingTransfer)
    (opened : t.handle = some h) (ready : Ready t sequence offset) {data : Bytes}
    (fits : offset + data.length ≤ t.size) :
    ∃ d' t', receiveChunk host io d t h sequence offset data = (d', t', none) := by
  obtain ⟨d₁, t₁, first, number, place⟩ := first_chunk_accepts healthy d h ready
  have begun := (first_chunk_progress host io d t h opened sequence offset first).1
  obtain ⟨h₁, opened₁, _⟩ := begun.handle h opened
  have small : ¬ t₁.size < t₁.bytesReceived + data.length := by
    rw [begun.same.size, ← place]
    omega
  unfold receiveChunk
  rw [first]
  simp only [number, place, opened₁, ne_eq, not_true_eq_false, or_self, if_false, small]
  exact store_chunk_accepts healthy d₁ t₁ h₁ data

theorem staged_front {content : Bytes}
    (staged : Staged d t content) (opened : t.handle = some h) : d.block h.inode <+: content := by
  obtain ⟨_, isG, _, rfl⟩ := staged
  cases opened.symm.trans isG
  exact prefix_append _ _

theorem honest_own (honest : Honest host src d) (opened : t.handle = some h)
    (linked : d.inode t.partPath = some h.inode)
    (frame : Frame (fun n => n = metaPathFor t.partPath) (OwnInode t) d d')
    (front : d'.block h.inode <+: src.file) : Honest host src d' := by
  refine honest_part t.destPath honest ?_ ?_
  · intro _ other
    rw [← t.staging] at other
    refine frame.read (fun isMeta => other (.inr isMeta)) ?_
    intro _ linkedN own
    obtain ⟨_, isG, rfl⟩ := own
    cases opened.symm.trans isG
    exact other (.inl (d.inode_single linkedN linked))
  · intro _ readable
    rw [← t.staging, Disk.read, frame.kept _ (meta_ne_part t.partPath), linked, Option.map_some]
      at readable
    rw [← Option.some.inj readable]
    exact front

variable {r : Receiver} {i : Nat}

theorem streaming_lookup (streaming : Streaming host src r i t) :
    r.lookup t.transferId = some (i, t) :=
  (lookup_some_iff r t.transferId i t).mpr ⟨Dict.get_single streaming.alone, streaming.object⟩

theorem handle_chunk_taken {t' : IncomingTransfer} {data : Bytes} {transferId : Text}
    (found : r.lookup transferId = some (i, t)) (live : Live t) (opened : t.handle = some h)
    (result : receiveChunk host io r.disk { t with state := .receiving } h sequence offset
      data = (d, t', none)) (addr : Text) :
    r.handleChunk host io addr transferId sequence offset data =
      { r with
        disk := d
        ins := r.ins.set i t' } := by
  unfold handleChunk
  rw [found]
  dsimp only
  split
  · rename_i refused
    rw [receiving_allowed live] at refused
    cases refused
  · rename_i unopened
    rw [opened] at unopened
    cases unopened
  · rename_i isG
    cases opened.symm.trans isG
    rw [result]
    rfl

theorem streaming_chunk (streaming : Streaming host src r i t) (healthy : Healthy io) {c : Chunk}
    (ready : Ready t c.sequence c.offset) (fits : c.offset + c.data.length ≤ src.file.length)
    (extends_ : src.file.take (c.offset + c.data.length) = src.file.take c.offset ++ c.data)
    (addr : Text) : ∃ d t', r.step host (.chunk addr t.transferId c.sequence c.offset c.data io) =
        { r with
          disk := d
          ins := r.ins.set i t' } ∧
      Streaming host src { r with
        disk := d
        ins := r.ins.set i t' } i t' ∧
      SameOffer t t' ∧ t'.expectedChunkIndex = c.sequence + 1 ∧
      t'.bytesReceived = c.offset + c.data.length := by
  obtain ⟨h, opened, linked⟩ := streaming.linked
  have sized : c.offset + c.data.length ≤ t.size := by
    rw [streaming.size]
    exact fits
  have accepts : ∃ d t', receiveChunk host io r.disk { t with state := .receiving } h
      c.sequence c.offset c.data = (d, t', none) :=
    receive_chunk_accepts healthy r.disk { t with state := .receiving } opened ready sized
  obtain ⟨d, t', result⟩ := accepts
  obtain ⟨progress, grows⟩ := receive_chunk_progress host io r.disk { t with state := .receiving } h
    opened c.sequence c.offset c.data result
  have bounded : Bounded r.disk { t with state := .receiving } := by
    intro _ own
    obtain ⟨_, isG, rfl⟩ := own
    cases opened.symm.trans isG
    exact r.disk.inode_bounded linked
  obtain ⟨ends, within, total, index, _⟩ := grows rfl bounded _ streaming.staged
    (by rw [List.length_take, Nat.min_eq_left streaming.bound])
  have moved : SameOffer t { t with state := .receiving } := ⟨rfl, rfl, rfl, rfl, rfl, rfl, rfl⟩
  have same : SameOffer t t' := moved.trans progress.same
  obtain ⟨h', opened', sameInode⟩ := progress.handle h opened
  have inside := index_lt streaming.object
  have content : (src.file.take t.bytesReceived).take c.offset ++ c.data =
      src.file.take t'.bytesReceived := by
    rw [List.length_take, Nat.min_eq_left streaming.bound] at within
    rw [List.take_take, Nat.min_eq_left within, total, extends_]
  rw [content] at ends
  refine ⟨d, t', handle_chunk_taken (streaming_lookup streaming) streaming.live opened result addr,
    ?_, same, index, total⟩
  refine ⟨by simp [inside], ?_, .inr progress.state, ?_, ?_, ⟨h', opened', ?_⟩, ends, ?_, ?_⟩
  · rw [same.transferId]
    exact streaming.alone
  · rw [same.size]
    exact streaming.size
  · rw [same.expectedChecksum]
    exact streaming.checksum
  · rw [same.partPath, sameInode]
    exact (progress.frame.kept _ (meta_ne_part t.partPath)).trans linked
  · rw [total]
    exact fits
  · have front : d.block h.inode <+: src.file := by
      rw [← sameInode]
      exact (staged_front ends opened').trans (List.take_prefix _ _)
    exact honest_own streaming.honest opened linked progress.frame front

theorem streaming_run {io : Nat → Io} (healthy : ∀ j, Healthy (io j)) (addr transferId : Text)
    {cs : List Chunk} (streaming : Streaming host src r i t) (isId : t.transferId = transferId)
    (ready : Ready t sequence offset) (follows : Follows src.file sequence offset cs) :
    ∃ d ins t', run (step host) r (chunkEvents addr transferId io cs) =
        { r with
          disk := d
          ins := ins } ∧
      Streaming host src { r with
        disk := d
        ins := ins } i t' ∧
      SameOffer t t' ∧ (cs = [] → t' = t) ∧
      (cs ≠ [] → t'.bytesReceived = offset + totalLength cs) := by
  induction cs generalizing io sequence offset r t with
  | nil => exact ⟨r.disk, r.ins, t, rfl, streaming, SameOffer.refl t, fun _ => rfl,
      fun no => absurd rfl no⟩
  | cons c cs ih =>
    obtain ⟨number, place, fits, extends_, later⟩ := follows
    subst number place isId
    obtain ⟨_, _, stepped, streaming', same, index, total⟩ :=
      streaming_chunk streaming (healthy 0) ready fits extends_ addr
    obtain ⟨d'', ins, t'', ran, streaming'', same', stays, reaches⟩ :=
      ih (fun j => healthy (j + 1)) streaming' same.transferId (.inl ⟨index.symm, total.symm⟩) later
    refine ⟨d'', ins, t'', ?_, streaming'', same.trans same', fun no => absurd no (by simp), ?_⟩
    · rw [chunkEvents, mapIdx_cons, run_cons, stepped]
      exact ran
    · intro _
      have sum : totalLength (c :: cs) = c.data.length + totalLength cs := rfl
      rw [sum]
      by_cases last : cs = []
      · rw [stays last, total, last]
        rfl
      · rw [reaches last]
        omega

theorem open_part_opens (healthy : Healthy io) (d : Disk Text) (ctx : OfferContext) :
    ∃ d' h offset, openPart io d ctx = (d', some (h, offset)) := by
  unfold openPart
  rw [healthy, healthy]
  simp only [Bool.false_eq_true, if_false]
  split
  · split
    · exact ⟨_, _, _, rfl⟩
    · exact ⟨_, _, _, rfl⟩
  · exact ⟨_, _, _, rfl⟩

variable {round : Round} {ctx : OfferContext}

theorem resumed_content_front (proper : round.Proper src) (honest : Honest host src d)
    (asks : AsksFor host (round.io 0) round.addr (round.offer host src) d ctx)
    (offsets : offset = 0 ∨ offset = ctx.resumeOffset) :
    resumedContent d ctx.partPath offset = src.file.take offset ∧ offset ≤ src.file.length := by
  by_cases zero : offset = 0
  · rw [zero, resumedContent, if_pos rfl]
    exact ⟨rfl, Nat.zero_le _⟩
  · rcases offsets with isZero | isResume
    · exact absurd isZero zero
    · subst isResume
      rcases asks.resumes with isZero | ⟨info, isPart, readable, ⟨device, isPeer, fits⟩,
        content, holds, committed, inside⟩
      · exact absurd isZero zero
      · cases proper.peer device isPeer
        have covered := honest _ info content ⟨readable, fits⟩ holds _ committed inside
        rw [isPart] at holds
        refine ⟨?_, ?_⟩
        · rw [resumedContent, if_neg zero, holds, Option.getD_some,
            resize_short content inside, covered]
        · have small := (read_meta_some readable).2.1
          have sized : info.size = src.file.length := by
            simp only [matchesOffer, offer, Bool.and_eq_true] at fits
            exact of_decide_eq_true fits.1.2
          omega

theorem erase_last (tasks : List RecvTask) (task : RecvTask) :
    (tasks ++ [task]).eraseIdx tasks.length = tasks := by
  rw [eraseIdx_append_of_length_le (Nat.le_refl _), Nat.sub_self, eraseIdx_cons_zero,
    append_nil]

def afterAccept (host : Host) (io : Io) (r : Receiver) (ctx : OfferContext) (h : Handle)
    (offset : Nat) (d : Disk Text) : Receiver :=
  { r with
    disk := withSidecar host io ctx h offset d
    ins := r.ins ++ [newTransfer ctx h offset]
    incoming := r.incoming.set ctx.transferId r.ins.length
    out := r.out ++ [.send ctx.addrKey (.fileAccept ctx.transferId offset)] }

theorem attempt_cases (proper : round.Proper src) (r : Receiver) :
    (∃ d d₁ ctx h offset, Sub d r.disk ∧
        AsksFor host (round.io 0) round.addr (round.offer host src) d ctx ∧
        Frame (Staging ctx.partPath) (fun i => d.inode ctx.partPath = some i) d
          (withSidecar host (round.io 1) ctx h offset d₁) ∧
        OpenedPart d (withSidecar host (round.io 1) ctx h offset d₁) ctx h offset ∧
        round.attempt host src r = afterAccept host (round.io 1) r ctx h offset d₁) ∨
      ∃ d tasks out, Sub d r.disk ∧
    (out = [] ∨ out = [.send round.addr (.fileReject round.transferId)]) ∧
        round.attempt host src r = { r with
          disk := d
          tasks := tasks
          out := r.out ++ out } := by
  obtain ⟨d, _, sub, refused | ⟨ctx, asked, asks⟩⟩ :=
    handle_offer_spec r host (round.io 0) round.addr (round.offer host src)
  · right
    refine ⟨d, r.tasks, _, sub, .inr rfl, ?_⟩
    unfold attempt
    rw [step, refused]
    cases round.decision with
    | none => rfl
    | some => simp [step, resume, offer]
  · have task : (r.tasks ++ [.offerDecision ctx])[r.tasks.length]? = some (.offerDecision ctx) :=
      getElem?_concat_length
    unfold attempt
    rw [step, asked]
    cases round.decision with
    | none => exact .inr ⟨d, r.tasks ++ [.offerDecision ctx], [], sub, .inl rfl, by simp⟩
    | some accepted =>
      have resumed : ({ r with
          disk := d
          tasks := r.tasks ++ [.offerDecision ctx] } : Receiver).step host
            (.decide r.tasks.length accepted (round.io 1)) =
          { r with disk := d }.decided host (round.io 1) (.offerDecision ctx) accepted := by
        simp [step, resume, RecvTask.awaitsUser, erase_last]
      dsimp only
      rw [resumed]
      cases accepted with
      | false =>
        right
        refine ⟨if ctx.resumes then discard (round.io 1) d ctx.partPath else d, r.tasks,
          _, ?_, .inr rfl, ?_⟩
        · split
          · exact discard_sub sub _ _
          · exact sub
        · simp only [decided, Bool.false_eq_true, if_false, decline, reject,
            emit, asks.addrKey, asks.transferId]
          rfl
      | true =>
        left
        obtain ⟨d₁, h, offset, opens⟩ := open_part_opens (proper.healthy 1) d ctx
        obtain ⟨_, _, result, frame, _, registers⟩ :=
          accept_spec { r with disk := d } host (round.io 1) ctx
        cases opens.symm.trans result
        obtain ⟨part, accepts⟩ := registers h offset rfl
        refine ⟨d, d₁, ctx, h, offset, sub, asks, ?_, part.with_sidecar host (round.io 1), ?_⟩
        · exact frame.trans (with_sidecar_frame host (round.io 1) ctx h offset d₁ (.inr rfl))
        · simp only [decided, if_true]
          exact accepts

theorem accept_streaming (proper : round.Proper src) (quiet : Quiet host src r) {d₁ : Disk Text}
    (sub : Sub d r.disk) (asks : AsksFor host (round.io 0) round.addr (round.offer host src) d ctx)
    (frame : Frame (Staging ctx.partPath) (fun i => d.inode ctx.partPath = some i) d
      (withSidecar host (round.io 1) ctx h offset d₁))
    (opened : OpenedPart d (withSidecar host (round.io 1) ctx h offset d₁) ctx h offset) :
    Streaming host src (afterAccept host (round.io 1) r ctx h offset d₁) r.ins.length
      (newTransfer ctx h offset) := by
  have honest := honest_sub quiet.honest sub
  obtain ⟨linked, appends, content, offsets⟩ := opened
  obtain ⟨front, inside⟩ := resumed_content_front proper honest asks offsets
  rw [front] at content
  have staged : Staged (withSidecar host (round.io 1) ctx h offset d₁)
      (newTransfer ctx h offset) (src.file.take offset) := ⟨h, rfl, appends, content⟩
  have alone :
      (r.incoming.set ctx.transferId r.ins.length).rows = [(ctx.transferId, r.ins.length)] := by
    simp [Dict.set, Table.update, Table.insert, quiet.alone]
  refine ⟨getElem?_concat_length, alone, .inl rfl, asks.size, asks.checksum, ⟨h, rfl, linked⟩,
    staged, inside, ?_⟩
  refine honest_part ctx.destPath honest ?_ ?_
  · intro _ other
    rw [← ctx.staging] at other
    refine frame.read other ?_
    intro _ isN isPart
    exact other (.inl (d.inode_single isN isPart))
  · intro found readable
    have holds :
        (withSidecar host (round.io 1) ctx h offset d₁).read ctx.partPath = some found := by
      rw [ctx.staging]
      exact readable
    rw [Disk.read, linked, Option.map_some] at holds
    rw [← Option.some.inj holds]
    exact (staged_front staged rfl).trans (List.take_prefix _ _)

theorem accepted_offset_accept (host : Host) (io : Io) (r : Receiver) (h : Handle)
    (offset : Nat) (d : Disk Text) {addr transferId : Text} (isAddr : ctx.addrKey = addr)
    (isId : ctx.transferId = transferId) :
    acceptedOffset r (afterAccept host io r ctx h offset d) addr transferId = some offset := by
  simp [acceptedOffset, afterAccept, isAddr, isId]

theorem stream_ready (ctx : OfferContext) (h : Handle) (offset size : Nat) (honours : Bool) :
    Ready (newTransfer ctx h offset) (startOffset honours offset size / chunkSize)
      (startOffset honours offset size) := by
  unfold startOffset
  split
  · exact .inl ⟨rfl, rfl⟩
  · by_cases zero : offset = 0
    · subst zero
      exact .inl ⟨rfl, rfl⟩
    · right
      refine ⟨Nat.zero_div _, rfl, Nat.pos_of_ne_zero zero, ?_⟩
      simp [newTransfer, zero]

theorem start_offset_inside {size : Nat} (inside : offset ≤ size) (honours : Bool) :
    startOffset honours offset size ≤ size := by
  unfold startOffset
  split
  · exact inside
  · exact Nat.zero_le _

theorem accepted_stream (inside : offset ≤ src.file.length)
    (accepted : acceptedOffset r (round.attempt host src r) round.addr round.transferId =
      some offset) :
    Follows src.file (startOffset round.honours offset src.file.length / chunkSize)
        (startOffset round.honours offset src.file.length) (round.stream host src r) ∧
      startOffset round.honours offset src.file.length + totalLength (round.stream host src r) =
        src.file.length := by
  obtain ⟨cs, chunks⟩ : ∃ cs, readChunks src.file
      (startOffset round.honours offset src.file.length) chunkSize = some cs := by
    unfold readChunks
    rw [if_neg (Nat.not_lt_of_le (start_offset_inside inside round.honours))]
    exact ⟨_, rfl⟩
  have stream : round.stream host src r = cs := by
    unfold stream
    rw [accepted]
    dsimp only
    rw [chunks, Option.getD_some]
  rw [stream]
  exact (read_chunks_spec (by decide) chunks).2

theorem partway_cases (proper : round.Proper src) (quiet : Quiet host src r) (delivered : Nat) :
    Quiet host src (round.partway host src r delivered) ∨
      ∃ i t, Streaming host src (round.partway host src r delivered)
    i t ∧ t.addrKey = round.addr := by
  rcases attempt_cases proper r with
    ⟨d, d₁, ctx, h, offset, sub, asks, frame, opened, accepts⟩ |
    ⟨d, tasks, out, sub, silent, rejects⟩
  · right
    have streaming := accept_streaming proper quiet sub asks frame opened
    have accepted : acceptedOffset r (round.attempt host src r) round.addr round.transferId =
        some offset := by
      rw [accepts]
      exact accepted_offset_accept host (round.io 1) r h offset d₁ asks.addrKey asks.transferId
    obtain ⟨_, _, t', ran, streaming', same, _⟩ := streaming_run (fun j => proper.healthy (j + 2))
      round.addr round.transferId streaming asks.transferId
      (stream_ready ctx h offset src.file.length round.honours)
      (follows_front (List.take_prefix delivered _) (accepted_stream streaming.bound accepted).1)
    refine ⟨r.ins.length, t', ?_, same.addrKey.trans asks.addrKey⟩
    unfold partway
    rw [accepts, ran]
    exact streaming'
  · left
    have unanswered :
        acceptedOffset r (round.attempt host src r) round.addr round.transferId = none := by
      rw [rejects]
      rcases silent with rfl | rfl <;> simp [acceptedOffset]
    have stream : round.stream host src r = [] := by
      unfold stream
      rw [unanswered]
    unfold partway
    rw [stream, take_nil, rejects]
    exact ⟨quiet.alone, honest_sub quiet.honest sub⟩

theorem quiet_connection_lost (quiet : Quiet host src r) (addr : Text) (peer : Option Text)
    (io : Io) :
    Quiet host src (r.step host (.connectionLost addr peer io)) := by
  have unchanged : r.step host (.connectionLost addr peer io) = r := by
    simp [step, connectionLost, Dict.values, quiet.alone]
  rw [unchanged]
  exact quiet

theorem streaming_connection_lost (streaming : Streaming host src r i t) (peer : Option Text)
    (io : Io) :
    Quiet host src (r.step host (.connectionLost t.addrKey peer io)) := by
  have failed : r.step host (.connectionLost t.addrKey peer io) =
      failKept host io peer "connection_lost" r i := by
    simp [step, connectionLost, Dict.values, streaming.alone, streaming.object]
  obtain ⟨_, opened, linked⟩ := streaming.linked
  rw [failed, fail_kept_eq streaming.object]
  refine ⟨by simp [Dict.pop, Table.delete, streaming.alone], ?_⟩
  refine honest_own streaming.honest opened linked (close_kept_spec host io r.disk t peer).2 ?_
  exact (close_kept_front streaming.staged opened (r.disk.inode_bounded linked) peer).trans
    (List.take_prefix _ _)

theorem quiet_interrupted {r' : Receiver} (quiet : Quiet host src r)
    (interrupted : Interrupted host src r r') : Quiet host src r' := by
  cases interrupted with
  | lost round proper delivered peer io =>
    rcases partway_cases proper quiet delivered with still | ⟨i, t, streaming, isAddr⟩
    · exact quiet_connection_lost still round.addr peer io
    · rw [← isAddr]
      exact streaming_connection_lost streaming peer io
  | crashed round proper delivered disk crash io =>
    have honest : Honest host src (round.partway host src r delivered).disk := by
      rcases partway_cases proper quiet delivered with still | ⟨i, t, streaming, _⟩
      · exact still.honest
      · exact streaming.honest
    exact ⟨rfl, honest_sub (honest_crashed honest crash) (sweep_expired_spec host io disk).2⟩

theorem quiet_interrupted_rounds {r' : Receiver} (quiet : Quiet host src r)
    (rounds : Relation.ReflTransGen (Interrupted host src) r r') :
    Quiet host src r' := by
  induction rounds with
  | refl => exact quiet
  | tail _ last ih => exact quiet_interrupted ih last

theorem handle_done_verified (streaming : Streaming host src r i t)
    (complete : t.bytesReceived = src.file.length) (healthy : Healthy io) (addr : Text)
    (readable : (t.closeFile io r.disk).1.read t.partPath = some src.file) :
    r.step host (.done addr t.transferId io) = { r with
      disk := (t.closeFile io r.disk).1
      ins := r.ins.set i (asVerifying t)
      incoming := r.incoming.pop t.transferId
      tasks := r.tasks ++ [.doneSend i true]
      out := r.out ++ [.send addr (.fileCompleteAck t.transferId true [])] } := by
  have unbroken : io.fails .hash t.partPath = false := healthy _ _
  unfold step handleDone
  dsimp only
  rw [streaming_lookup streaming]
  dsimp only
  rw [verifying_allowed streaming.live]
  dsimp only
  rw [close_file_state, readable]
  simp [unbroken, streaming.checksum, complete, streaming.size, asVerifying]

theorem streaming_done (streaming : Streaming host src r i t)
    (complete : t.bytesReceived = src.file.length) {io' : Io} (healthy : Healthy io)
    (healthy' : Healthy io') (addr : Text) :
    ∃ r', (r.step host (.done addr t.transferId io)).step host
    (.sendReturned r.tasks.length .ok io') =
        r' ∧ r'.notes = r.notes ++ [⟨i, true, some t.destPath, none⟩] ∧
      r'.out = r.out ++ [.send addr (.fileCompleteAck t.transferId true [])] ∧
      (∃ u, r'.ins[i]? = some u ∧ u.transferId = t.transferId ∧ u.destPath = t.destPath) ∧
      r'.disk.read t.destPath = some src.file := by
  obtain ⟨h, opened, linked⟩ := streaming.linked
  have whole : src.file.take t.bytesReceived = src.file := by
    rw [complete, List.take_length]
  have staged := streaming.staged
  rw [whole] at staged
  have written := close_file_block staged opened (healthy .close t.partPath)
  obtain ⟨_, frame⟩ := close_file_spec io r.disk t (fun _ => False)
  have stillLinked : (t.closeFile io r.disk).1.inode t.partPath = some h.inode := by
    rw [frame.kept _ (fun no => no)]
    exact linked
  have readable : (t.closeFile io r.disk).1.read t.partPath = some src.file := by
    rw [Disk.read, stillLinked, Option.map_some, written]
  have task : (r.tasks ++ [.doneSend i true])[r.tasks.length]? = some (.doneSend i true) :=
    List.getElem?_concat_length
  have object : (r.ins.set i (asVerifying t))[i]? = some (asVerifying t) :=
    found_set streaming.object
  have present := (present_iff _ _).mpr ⟨h.inode, stillLinked⟩
  have moves : io'.fails .rename (asVerifying t).partPath = false := healthy' _ _
  refine ⟨_, rfl, ?_⟩
  rw [handle_done_verified streaming complete healthy addr readable,
    step_acknowledged task object host io']
  unfold finish
  rw [if_pos rfl, if_pos ⟨present, moves⟩]
  refine ⟨rfl, rfl, ⟨{ asVerifying t with state := .completed }, found_set object, rfl, rfl⟩, ?_⟩
  have placed := (finalize_inode (t := asVerifying t) stillLinked io' t.destPath).1 rfl
  have kept := finalize_block (t.closeFile io r.disk).1 (asVerifying t) io' h.inode
  exact (congrArg (Option.map _) placed).trans (congrArg some (kept.trans written))

def Round.whole (host : Host) (src : Source) (round : Round) (r : Receiver) (io io' : Io) :
    Receiver :=
  let r₁ := round.partway host src r (round.stream host src r).length
  (r₁.step host (.done round.addr round.transferId io)).step host
    (.sendReturned r₁.tasks.length .ok io')

/-- After any interruptions, a round that is accepted and stays up places the sender's file. -/
theorem resumed_download_complete (host : Host) (src : Source) (disk : Disk Text)
    (unknown : ∀ io info, ¬ SidecarOf host src io disk info) (r : Receiver)
    (rounds : Relation.ReflTransGen (Interrupted host src) (start disk) r) (last : Round)
    (proper : last.Proper src) (offset : Nat)
    (accepted : acceptedOffset r (last.attempt host src r) last.addr last.transferId = some offset)
    (io io' : Io) (healthy : Healthy io) (healthy' : Healthy io') :
    ∃ i t, (last.whole host src r io io').ins[i]? = some t ∧ t.transferId = last.transferId ∧
      (last.whole host src r io io').notes = r.notes ++ [⟨i, true, some t.destPath, none⟩] ∧
      (last.whole host src r io io').out = r.out ++
        [.send last.addr (.fileAccept last.transferId offset),
          .send last.addr (.fileCompleteAck last.transferId true [])] ∧
      (last.whole host src r io io').disk.read t.destPath = some src.file := by
  have fresh : Quiet host src (start disk) :=
    ⟨rfl, fun io info content sidecar => absurd sidecar (unknown io info)⟩
  have quiet := quiet_interrupted_rounds fresh rounds
  rcases attempt_cases proper r with
    ⟨d, d₁, ctx, h, reply, sub, asks, frame, opened, accepts⟩ | ⟨d, tasks, out, _, silent, rejects⟩
  · have streaming := accept_streaming proper quiet sub asks frame opened
    have isReply :=
      accepted_offset_accept host (last.io 1) r h reply d₁ asks.addrKey asks.transferId
    rw [← accepts] at isReply
    cases isReply.symm.trans accepted
    obtain ⟨follows, ends⟩ := accepted_stream streaming.bound accepted
    obtain ⟨d', ins, t', ran, streaming', same, stays, reaches⟩ :=
      streaming_run (fun j => proper.healthy (j + 2)) last.addr last.transferId streaming
        asks.transferId (stream_ready ctx h offset src.file.length last.honours) follows
    have isId : t'.transferId = last.transferId := same.transferId.trans asks.transferId
    -- without a chunk the stream starts where the file ends
    have complete : t'.bytesReceived = src.file.length := by
      by_cases none : last.stream host src r = []
      · rw [stays none]
        rw [none] at ends
        have atEnd : startOffset last.honours offset src.file.length = src.file.length := ends
        have inside : offset ≤ src.file.length := streaming.bound
        have isStart : (newTransfer ctx h offset).bytesReceived = offset := rfl
        unfold startOffset at atEnd
        split at atEnd
        · exact atEnd
        · omega
      · rw [reaches none]
        exact ends
    have reached : last.partway host src r (last.stream host src r).length =
        { afterAccept host (last.io 1) r ctx h offset d₁ with
          disk := d'
          ins := ins } := by
      unfold partway
      rw [take_length, accepts, ran]
    obtain ⟨r', finished, notes, out, ⟨u, object, sameId, dest⟩, placed⟩ :=
      streaming_done streaming' complete healthy healthy' last.addr
    have isWhole : last.whole host src r io io' = r' := by
      unfold whole
      rw [reached, ← isId]
      exact finished
    rw [isWhole]
    refine ⟨r.ins.length, u, object, sameId.trans isId, ?_, ?_, ?_⟩
    · rw [dest]
      exact notes
    · rw [out, isId]
      simp [afterAccept, asks.addrKey, asks.transferId, offer]
    · rw [dest]
      exact placed
  · have unanswered :
        acceptedOffset r (last.attempt host src r) last.addr last.transferId = none := by
      rw [rejects]
      rcases silent with rfl | rfl <;> simp [acceptedOffset]
    rw [unanswered] at accepted
    cases accepted

section Sample

variable {data : Bytes}

end Sample
end Peerc.Transfer
