import Peerc.Transfer.Messages
import Peerc.Transfer.Partial
import Peerc.Transfer.States

/-!
The receiving side of a file transfer session. A transfer object is known by its number. A handler
that awaits is cut there: the rest of it is a task. One that raises leaves what it had done.
-/
namespace Peerc.Transfer
open Decoded (ofText)

def maxIncomingFileSize : Nat := 2 * 1024 * 1024 * 1024

def diskSafetyMargin : Nat := 10 * 1024 * 1024

structure IncomingTransfer where
  transferId : Text
  addrKey : Text
  filename : Text
  size : Nat
  expectedChecksum : Text
  senderName : Text
  destPath : Text
  partPath : Text
  peerDeviceId : Text
  bytesReceived : Nat
  expectedChunkIndex : Nat
  resumeOffset : Nat
  lastCommitted : Nat
  firstChunkReceived : Bool
  state : IncomingTransferState
  handle : Option Handle
  staging : partPath = getPartPath destPath

structure OfferContext where
  addrKey : Text
  transferId : Text
  filename : Text
  size : Nat
  checksum : Text
  senderName : Text
  peerDeviceId : Option Text
  destPath : Text
  partPath : Text
  resumes : Bool
  resumeOffset : Nat
  staging : partPath = getPartPath destPath
  deriving DecidableEq

inductive RecvTask where
  | offerDecision (ctx : OfferContext)
  | abortSend (transfer : Nat) (reason : Text)
  | doneSend (transfer : Nat) (success : Bool)
  deriving DecidableEq

structure Receiver where
  disk : Disk Text
  ins : List IncomingTransfer
  incoming : Dict Text Nat
  tasks : List RecvTask
  notes : List Note
  out : List Output

def firstNonEmpty : List (Option Text) → Option Text
  | [] => none
  | some (c :: t) :: _ => some (c :: t)
  | _ :: rest => firstNonEmpty rest

def checkDiskSpace (io : Io) (required : Nat) : Bool :=
  match io.free with
  | some free => required + diskSafetyMargin ≤ free
  | none => true

namespace IncomingTransfer

def committed (t : IncomingTransfer) : Nat := t.bytesReceived - t.bytesReceived % chunkSize

def recordMeta (host : Host) (io : Io) (disk : Disk Text) (t : IncomingTransfer)
    (peerDeviceId : Text) (committed : Nat) : Disk Text :=
  writeMeta host io disk t.partPath peerDeviceId t.filename t.size t.expectedChecksum t.destPath
    committed

/-- flush and fsync; the flag is false when one of them raised. -/
def flushFile (io : Io) (disk : Disk Text) (t : IncomingTransfer) :
    Disk Text × IncomingTransfer × Bool :=
  match t.handle with
  | none => (disk, t, true)
  | some h =>
      if io.fails .flush t.partPath then
        let drained := disk.drain h io.drained
        (drained.1, { t with handle := some drained.2 }, false)
      else
        let flushed := disk.flush h
        (flushed.1, { t with handle := some flushed.2 }, true)

/-- close with its OSError swallowed; what was still pending is then lost. -/
def closeFile (io : Io) (disk : Disk Text) (t : IncomingTransfer) : Disk Text × IncomingTransfer :=
  match t.handle with
  | none => (disk, t)
  | some h =>
      if io.fails .close t.partPath then
        ((disk.drain h io.drained).1, { t with handle := none })
      else ((disk.flush h).1, { t with handle := none })

def closeKept (host : Host) (io : Io) (disk : Disk Text) (t : IncomingTransfer)
    (lostPeer : Option Text) : Disk Text × IncomingTransfer :=
  let flushed := flushFile io disk t
  let closed := closeFile io flushed.1 flushed.2.1
  let disk := match firstNonEmpty [some t.peerDeviceId, lostPeer, io.peer t.addrKey] with
    | some peer =>
        if closed.1.present t.partPath then
          recordMeta host io closed.1 t peer t.committed
        else closed.1
    | none => closed.1
  (disk, closed.2)

end IncomingTransfer

namespace Receiver

def start (disk : Disk Text) : Receiver := ⟨disk, [], Dict.empty, [], [], []⟩

variable (r : Receiver)

def lookup (transferId : Text) : Option (Nat × IncomingTransfer) :=
  (r.incoming.get transferId).bind (fun i => (r.ins[i]?).map (fun t => (i, t)))

def active : List IncomingTransfer :=
  r.incoming.values.filterMap (fun i => r.ins[i]?)

def emit (o : Output) : Receiver := { r with out := r.out ++ [o] }

def notify (i : Nat) (success : Bool) (path error : Option Text) : Receiver :=
  { r with notes := r.notes ++ [⟨i, success, path, error⟩] }

def put (i : Nat) (t : IncomingTransfer) : Receiver := { r with ins := r.ins.set i t }

def reject (addr transferId : Text) : Receiver :=
  r.emit (.send addr (.fileReject transferId))

inductive Lookup where
  | busy
  | resume (info : PartialInfo) (offset : Nat)
  | fresh
  deriving DecidableEq

variable (host : Host) (io : Io)

def lookupPartial (o : Offer) : Option Text → Disk Text × Lookup
  | none => (r.disk, .fresh)
  | some peer =>
      match findResumable host io r.disk (ofText peer) (ofText o.filename) o.size o.checksum with
      | none => (r.disk, .fresh)
      | some info =>
          if r.active.any (fun t => t.partPath = info.partPath) then (r.disk, .busy)
          else
            let offset := resumeOffsetFor io r.disk info
            if 0 < offset ∧ resolveSafeDestPath host.windows r.disk info.destName true =
                some info.destName then
              (r.disk, .resume info offset)
            else (discard io r.disk info.partPath, .fresh)

variable (ctx : OfferContext)

def askUser : Receiver :=
  if r.active.any (fun t => t.partPath = ctx.partPath || t.destPath = ctx.destPath) then
    r.reject ctx.addrKey ctx.transferId
  else if checkDiskSpace io (ctx.size - ctx.resumeOffset) then
    { r with tasks := r.tasks ++ [.offerDecision ctx] }
  else r.reject ctx.addrKey ctx.transferId

def handleOffer (addr : Text) (o : Offer) : Receiver :=
  let r := { r with disk := sweepExpired host io r.disk }
  if maxIncomingFileSize < o.size then r.reject addr o.transferId
  else if r.active.any (fun t => t.addrKey = addr && t.filename = o.filename) then
    r.reject addr o.transferId
  else
    let sender := (firstNonEmpty [o.senderName]).getD "peer"
    let peer := firstNonEmpty [io.peer addr]
    let ask (r : Receiver) (dest part : Text) (staging : part = getPartPath dest) (resumes : Bool)
        (offset : Nat) : Receiver :=
      r.askUser io ⟨addr, o.transferId, o.filename, o.size, o.checksum, sender, peer, dest, part,
        resumes, offset, staging⟩
    match r.lookupPartial host io o peer with
    | (_, .busy) => r.reject addr o.transferId
    | (_, .resume info offset) => ask r info.destName info.partPath info.sidecar true offset
    | (disk, .fresh) =>
        match resolveSafeDestPath host.windows disk o.filename false with
        | none => { r with disk := disk }.reject addr o.transferId
        | some dest => ask { r with disk := disk } dest (getPartPath dest) rfl false 0

/-- None when the open of an empty part file raised. -/
def openPart (disk : Disk Text) (ctx : OfferContext) : Disk Text × Option (Handle × Nat) :=
  let fresh (disk : Disk Text) : Disk Text × Option (Handle × Nat) :=
    let disk := discard io disk ctx.partPath
    if io.fails .openFresh ctx.partPath then (disk, none)
    else ((disk.openFresh ctx.partPath).1, some ((disk.openFresh ctx.partPath).2, 0))
  if 0 < ctx.resumeOffset then
    match disk.inode ctx.partPath with
    | some i =>
        if io.fails .openResume ctx.partPath then fresh disk
        else (disk.modify i (fun content => resize content ctx.resumeOffset),
          some (⟨i, ctx.resumeOffset, []⟩, ctx.resumeOffset))
    | none => fresh disk
  else fresh disk

def newTransfer (handle : Handle) (offset : Nat) : IncomingTransfer where
  transferId := ctx.transferId
  addrKey := ctx.addrKey
  filename := ctx.filename
  size := ctx.size
  expectedChecksum := ctx.checksum
  senderName := ctx.senderName
  destPath := ctx.destPath
  partPath := ctx.partPath
  peerDeviceId := ctx.peerDeviceId.getD []
  bytesReceived := offset
  expectedChunkIndex := offset / chunkSize
  resumeOffset := offset
  lastCommitted := offset
  firstChunkReceived := offset = 0
  state := .accepted
  handle := some handle
  staging := ctx.staging

def accept : Receiver :=
  match openPart io r.disk ctx with
  | (disk, none) => { r with disk := disk }
  | (disk, some (handle, offset)) =>
      let t := newTransfer ctx handle offset
      let disk := match ctx.peerDeviceId with
        | some peer => t.recordMeta host io disk peer offset
        | none => disk
      { r with
        disk := disk
        ins := r.ins ++ [t]
        incoming := r.incoming.set ctx.transferId r.ins.length
        out := r.out ++ [.send ctx.addrKey (.fileAccept ctx.transferId offset)] }

def decline : Receiver :=
  { r with
    disk := if ctx.resumes then discard io r.disk ctx.partPath else r.disk }.reject
      ctx.addrKey ctx.transferId

def abortIncoming (i : Nat) (t : IncomingTransfer) (reason : Text) : Receiver :=
  let closed := t.closeFile io r.disk
  let disk := removeFile io (discard io closed.1 t.partPath) t.destPath
  { r with
    disk := disk
    ins := r.ins.set i { closed.2 with
      state := (t.state.transitionTo .failed).getD t.state }
    incoming := r.incoming.pop t.transferId
    tasks := r.tasks ++ [.abortSend i reason]
    out := r.out ++ [.send t.addrKey (.fileCompleteAck t.transferId false reason)] }

def firstChunk (disk : Disk Text) (t : IncomingTransfer) (h : Handle) (sequence offset : Nat) :
    Disk Text × IncomingTransfer × Option Text :=
  let seen := { t with firstChunkReceived := true }
  if 0 < t.resumeOffset ∧ t.firstChunkReceived = false then
    if sequence = t.expectedChunkIndex ∧ offset = t.bytesReceived then (disk, seen, none)
    else if sequence = 0 ∧ offset = 0 then
      if io.fails .truncate t.partPath then
        let drained := disk.drain h io.drained
        (drained.1, { seen with handle := some drained.2 }, some "os_error")
      else
        let restarted := { seen with
          handle := some ⟨h.inode, 0, []⟩
          bytesReceived := 0
          expectedChunkIndex := 0
          resumeOffset := 0
          lastCommitted := 0 }
        let disk := disk.modify h.inode (fun _ => [])
        match firstNonEmpty [io.peer t.addrKey] with
        | some peer => (restarted.recordMeta host io disk peer 0, restarted, none)
        | none => (disk, restarted, none)
    else (disk, seen, some "out-of-order chunk")
  else (disk, seen, none)

def checkpoint (disk : Disk Text) (t : IncomingTransfer) : Disk Text × IncomingTransfer :=
  match firstNonEmpty [some t.peerDeviceId, io.peer t.addrKey] with
  | none => (disk, t)
  | some peer =>
      match t.flushFile io disk with
      | (disk, t, false) => (disk, t)
      | (disk, t, true) =>
          let t := { t with lastCommitted := t.committed }
          (t.recordMeta host io disk peer t.committed, t)

def storeChunk (disk : Disk Text) (t : IncomingTransfer) (h : Handle) (data : Bytes) :
    Disk Text × IncomingTransfer × Option Text :=
  let written := disk.drain { h with pending := h.pending ++ data } io.drained
  let t := { t with handle := some written.2 }
  if io.fails .write t.partPath then (written.1, t, some "disk_full")
  else
    let t := { t with
      bytesReceived := t.bytesReceived + data.length
      expectedChunkIndex := t.expectedChunkIndex + 1 }
    if commitInterval ≤ t.bytesReceived - t.lastCommitted then
      let saved := checkpoint host io written.1 t
      (saved.1, saved.2, none)
    else (written.1, t, none)

/-- With the reason to abort the transfer, if there is one. -/
def receiveChunk (disk : Disk Text) (t : IncomingTransfer) (h : Handle) (sequence offset : Nat)
    (data : Bytes) : Disk Text × IncomingTransfer × Option Text :=
  match firstChunk host io disk t h sequence offset with
  | (disk, t, some reason) => (disk, t, some reason)
  | (disk, t, none) =>
      if sequence ≠ t.expectedChunkIndex ∨ offset ≠ t.bytesReceived then
        (disk, t, some "out-of-order chunk")
      else if t.size < t.bytesReceived + data.length then
        (disk, t, some "declared size exceeded")
      else
        match t.handle with
        | none => (disk, t, none)
        | some h => storeChunk host io disk t h data

def handleChunk (addr transferId : Text) (sequence offset : Nat) (data : Bytes) : Receiver :=
  match r.lookup transferId with
  | none => r.emit (.report addr .transferNotFound transferId)
  | some (i, t) =>
      match t.state.transitionTo .receiving, t.handle with
      | none, _ => r.emit (.report addr .invalidState transferId)
      | some _, none => r.put i { t with state := .receiving }
      | some _, some h =>
          match receiveChunk host io r.disk { t with state := .receiving } h sequence
            offset data with
          | (disk, t, none) => { r with disk := disk }.put i t
          | (disk, t, some reason) => { r with disk := disk }.abortIncoming io i t reason

def verifyingState (state : IncomingTransferState) : Option IncomingTransferState :=
  if state = .accepted then (state.transitionTo .receiving).bind (·.transitionTo .verifying)
  else state.transitionTo .verifying

def handleDone (addr transferId : Text) : Receiver :=
  match r.lookup transferId with
  | none => r.emit (.report addr .transferNotFound transferId)
  | some (i, t) =>
      match verifyingState t.state with
      | none => r.emit (.report addr .invalidState transferId)
      | some state =>
          let closed := { t with state := state }.closeFile io r.disk
          let r := { r with
            disk := closed.1
            ins := r.ins.set i closed.2
            incoming := r.incoming.pop t.transferId }
          match closed.1.read t.partPath with
          | none => r
          | some content =>
              if io.fails .hash t.partPath then r
              else
                let success := host.sha256 content = t.expectedChecksum && t.bytesReceived = t.size
                { r with
                  tasks := r.tasks ++ [.doneSend i success]
                  out := r.out ++ [.send addr (.fileCompleteAck t.transferId success
                    (if success then [] else "checksum mismatch"))] }

def finish (i : Nat) (t : IncomingTransfer) (success : Bool) : Receiver :=
  if success then
    if r.disk.present t.partPath ∧ io.fails .rename t.partPath = false then
      { r with
        disk := discard io (r.disk.rename t.partPath t.destPath) t.partPath
        ins := r.ins.set i { t with state := .completed } }.notify i true (some t.destPath) none
    else r
  else
    { r with
      disk := discard io r.disk t.partPath
      ins := r.ins.set i { t with state := .failed } }.notify i false none
        (some "checksum_mismatch")

/-- An incoming transfer ends and its partial file stays for a later offer. -/
def failKept (lostPeer : Option Text) (error : Text) (r : Receiver) (i : Nat) : Receiver :=
  match r.ins[i]? with
  | none => r
  | some t =>
      let closed := t.closeKept host io r.disk lostPeer
      { r with
        disk := closed.1
        ins := r.ins.set i { closed.2 with
          state := (t.state.transitionTo .failed).getD t.state }
        incoming := r.incoming.pop t.transferId }.notify i false none (some error)

def connectionLost (addr : Text) (peer : Option Text) : Receiver :=
  (r.incoming.values.filter (fun i => (r.ins[i]?).any (fun t => t.addrKey = addr))).foldl
    (failKept host io peer "connection_lost") r

def handleError (addr transferId error : Text) : Receiver :=
  match r.lookup transferId with
  | none => r
  | some (i, t) =>
      if t.addrKey = addr ∧ (t.state.transitionTo .failed).isSome then
        failKept host io none error r i
      else r

def sendReturned (task : RecvTask) (result : SendResult) : Receiver :=
  if result = .osError ∨ result = .raised then r
  else
    match task with
    | .offerDecision _ => r
    | .abortSend i reason => r.notify i false none (some reason)
    | .doneSend i success =>
        match r.ins[i]? with
        | none => r
        | some t => r.finish io i t success

def decided (task : RecvTask) (accepted : Bool) : Receiver :=
  match task with
  | .offerDecision ctx => if accepted then r.accept host io ctx else r.decline io ctx
  | _ => r

end Receiver

inductive RecvEvent where
  | offer (addr : Text) (o : Offer) (io : Io)
  | decide (task : Nat) (accepted : Bool) (io : Io)
  | chunk (addr transferId : Text) (sequence offset : Nat) (data : Bytes) (io : Io)
  | done (addr transferId : Text) (io : Io)
  | sendReturned (task : Nat) (result : SendResult) (io : Io)
  | connectionLost (addr : Text) (peer : Option Text) (io : Io)
  | peerError (addr transferId error : Text) (io : Io)

def Receiver.resume (r : Receiver) (k : Nat) (fits : RecvTask → Bool)
    (run : Receiver → RecvTask → Receiver) : Receiver :=
  match r.tasks[k]? with
  | none => r
  | some task => if fits task then run { r with tasks := r.tasks.eraseIdx k } task else r

def RecvTask.awaitsUser : RecvTask → Bool
  | .offerDecision _ => true
  | _ => false

def Receiver.step (host : Host) (r : Receiver) : RecvEvent → Receiver
  | .offer addr o io => r.handleOffer host io addr o
  | .decide k accepted io =>
      r.resume k RecvTask.awaitsUser (fun r task => r.decided host io task accepted)
  | .chunk addr id sequence offset data io => r.handleChunk host io addr id sequence offset data
  | .done addr id io => r.handleDone host io addr id
  | .sendReturned k result io =>
      r.resume k (fun task => !task.awaitsUser) (fun r task => r.sendReturned io task result)
  | .connectionLost addr peer io => r.connectionLost host io addr peer
  | .peerError addr id error io => r.handleError host io addr id error

end Peerc.Transfer
