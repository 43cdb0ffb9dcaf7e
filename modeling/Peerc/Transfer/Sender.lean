import Peerc.Lib.Registry
import Peerc.Transfer.Messages
import Peerc.Transfer.Partial
import Peerc.Transfer.States

/-!
The sending side of a file transfer session, cut at every await: the rest is a task. What the
chunk generator reads next comes with the event that resumes the stream.
-/
namespace Peerc.Transfer
open Registry

structure OutgoingTransfer where
  transferId : Text
  addrKey : Text
  filepath : Text
  filename : Text
  size : Nat
  checksum : Text
  resumeOffset : Nat
  state : OutgoingTransferState
  ackEvent : Bool
  ackSuccess : Bool

/-- A stream remembers the number and the offset of the chunk it reads next. -/
inductive SendTask where
  | offerSend (transfer : Nat)
  | chunksStart (transfer : Nat)
  | chunkSend (transfer sequence offset : Nat)
  | doneSend (transfer : Nat)
  | ackWait (transfer : Nat)
  deriving DecidableEq

inductive ReadResult where
  | chunk (data : Bytes) | eof | osError | raised
  deriving DecidableEq

structure Sender where
  myName : Text
  outs : List OutgoingTransfer
  outgoing : Dict Text Nat
  tasks : List SendTask
  notes : List Note
  out : List Output

/-- os.path.basename; on Windows a drive letter is not part of the last component. -/
def basename (windows : Bool) (path : Text) : Text :=
  let path := match windows, path with
    | true, _ :: ':' :: rest => rest
    | _, path => path
  (path.reverse.takeWhile (fun c => c ≠ '/' && !(windows && c = '\\'))).reverse

def isValidResumeOffset (offset fileSize : Nat) : Bool :=
  offset ≤ fileSize && offset % chunkSize = 0

/-- The resume_offset that a file_accept leaves; none is anything but an integer that is
    not negative. -/
def honouredOffset (resumeOffset : Option Nat) (fileSize : Nat) : Nat :=
  match resumeOffset with
  | some offset => if isValidResumeOffset offset fileSize then offset else 0
  | none => 0

namespace Sender

def start (myName : Text) : Sender := ⟨myName, [], Dict.empty, [], [], []⟩

variable (s : Sender) (transferId : Text)

def lookup : Option (Nat × OutgoingTransfer) :=
  (s.outgoing.get transferId).bind (fun i => (s.outs[i]?).map (fun t => (i, t)))

variable (i : Nat) (t : OutgoingTransfer)

def put : Sender := { s with outs := s.outs.set i t }

def release : Sender :=
  { s with outgoing := s.outgoing.pop transferId }

def notify (success : Bool) (path error : Option Text) : Sender :=
  { s with notes := s.notes ++ [⟨i, success, path, error⟩] }

def suspend (addr : Text) (message : Message) (task : SendTask) : Sender :=
  { s with
    tasks := s.tasks ++ [task]
    out := s.out ++ [.send addr message] }

def failOutgoing (error : Text) (s : Sender) (i : Nat) : Sender :=
  match s.outs[i]? with
  | none => s
  | some t =>
      match t.state.transitionTo .failed with
      | none => s
      | some state =>
          (((s.put i { t with
            state := state
            ackSuccess := false
            ackEvent := true }).release t.transferId).notify i false none (some error))

def offerFile (host : Host) (addr filepath transferId : Text) (file : Option Bytes) : Sender :=
  match file with
  | none => s
  | some content =>
      let t : OutgoingTransfer :=
        { transferId := transferId
          addrKey := addr
          filepath := filepath
          filename := basename host.windows filepath
          size := content.length
          checksum := host.sha256 content
          resumeOffset := 0
          state := .offered
          ackEvent := false
          ackSuccess := false }
      { s with outs := s.outs ++ [t] }.suspend addr
        (.fileOffer ⟨transferId, t.filename, t.size, t.checksum, some s.myName⟩)
        (.offerSend s.outs.length)

def offerSent (result : SendResult) : Sender :=
  if result = .ok then
    match t.state.transitionTo .waitingForAccept with
    | none => s
    | some state =>
        { s.put i { t with state := state } with outgoing := s.outgoing.set t.transferId i }
  else s

def handleAccept (addr transferId : Text) (resumeOffset : Option Nat) : Sender :=
  match s.lookup transferId with
  | none => { s with out := s.out ++ [.report addr .transferNotFound transferId] }
  | some (i, t) =>
      let t := { t with resumeOffset := honouredOffset resumeOffset t.size }
      match t.state.transitionTo .sending with
      | none => s.put i t
      | some state =>
          { s.put i { t with state := state } with tasks := s.tasks ++ [.chunksStart i] }

def handleReject : Sender :=
  match s.lookup transferId with
  | none => s
  | some (i, t) =>
      match t.state.transitionTo .rejected with
      | none => s
      | some state =>
          ((s.put i { t with state := state }).notify i false none
            (some "rejected")).release t.transferId

def nextChunk (sequence offset : Nat) (read : ReadResult) : Sender :=
  match read with
  | .osError => (s.failOutgoing "os_error" i).release t.transferId
  | .raised => s.release t.transferId
  | .chunk data =>
      if t.state = .sending then
        s.suspend t.addrKey (.fileData t.transferId sequence offset data)
          (.chunkSend i (sequence + 1) (offset + data.length))
      else s.release t.transferId
  | .eof =>
      if t.state = .sending then
        s.suspend t.addrKey (.fileDone t.transferId t.checksum) (.doneSend i)
      else s.release t.transferId

def chunkSent (sequence offset : Nat) (result : SendResult) (read : ReadResult) : Sender :=
  match result with
  | .ok => s.nextChunk i t sequence offset read
  | .failed => (s.failOutgoing "send_failed" i).release t.transferId
  | .osError => (s.failOutgoing "os_error" i).release t.transferId
  | .raised => s.release t.transferId

def doneSent (result : SendResult) : Sender :=
  match result with
  | .osError => (s.failOutgoing "os_error" i).release t.transferId
  | .raised => s.release t.transferId
  | _ =>
      match t.state.transitionTo .waitingForCompleteAck with
      | none => s.release t.transferId
      | some state => { s.put i { t with state := state } with tasks := s.tasks ++ [.ackWait i] }

def ackWaited (timeout : Bool) : Sender :=
  let success := !timeout && t.ackSuccess
  if t.state = .waitingForCompleteAck then
    ((s.put i { t with
      state := if success then .completed else .failed }).notify i success
        (if success then some t.filepath else none)
        (if success then none else some "ack_failed_or_timeout")).release t.transferId
  else s.release t.transferId

def handleCompleteAck (success : Bool) : Sender :=
  match s.lookup transferId with
  | none => s
  | some (i, t) =>
      if t.state = .waitingForCompleteAck then
        s.put i { t with
          ackSuccess := success
          ackEvent := true }
      else if t.state = .sending ∧ success = false then
        s.failOutgoing "peer_aborted" i
      else s

def handleError (addr transferId error : Text) : Sender :=
  match s.lookup transferId with
  | none => s
  | some (i, t) => if t.addrKey = addr then s.failOutgoing error i else s

def connectionLost (addr : Text) : Sender :=
  (s.outgoing.values.filter (fun i => (s.outs[i]?).any (fun t => t.addrKey = addr))).foldl
    (failOutgoing "connection_lost") s

end Sender

def SendTask.target : SendTask → Nat
  | .offerSend i => i
  | .chunksStart i => i
  | .chunkSend i _ _ => i
  | .doneSend i => i
  | .ackWait i => i

inductive SendEvent where
  | offerFile (addr filepath transferId : Text) (file : Option Bytes)
  | accept (addr transferId : Text) (resumeOffset : Option Nat)
  | reject (transferId : Text)
  | completeAck (transferId : Text) (success : Bool)
  | peerError (addr transferId error : Text)
  | connectionLost (addr : Text)
  | resumed (task : Nat) (result : SendResult) (read : ReadResult)
  | ackWaited (task : Nat) (timeout : Bool)

def Sender.resumed (s : Sender) (task : SendTask) (t : OutgoingTransfer) (result : SendResult)
    (read : ReadResult) : Sender :=
  match task with
  | .offerSend i => s.offerSent i t result
  | .chunksStart i => s.nextChunk i t (t.resumeOffset / chunkSize) t.resumeOffset read
  | .chunkSend i sequence offset => s.chunkSent i t sequence offset result read
  | .doneSend i => s.doneSent i t result
  | .ackWait _ => s

def SendTask.awaitsAck : SendTask → Bool
  | .ackWait _ => true
  | _ => false

def Sender.resume (s : Sender) (k : Nat) (fits : SendTask → OutgoingTransfer → Bool)
    (run : Sender → SendTask → OutgoingTransfer → Sender) : Sender :=
  match s.tasks[k]? with
  | none => s
  | some task =>
      match s.outs[task.target]? with
      | none => s
      | some t =>
          if fits task t then run { s with tasks := s.tasks.eraseIdx k } task t else s

def Sender.step (host : Host) (s : Sender) : SendEvent → Sender
  | .offerFile addr filepath id file => s.offerFile host addr filepath id file
  | .accept addr id resumeOffset => s.handleAccept addr id resumeOffset
  | .reject id => s.handleReject id
  | .completeAck id success => s.handleCompleteAck id success
  | .peerError addr id error => s.handleError addr id error
  | .connectionLost addr => s.connectionLost addr
  | .resumed k result read =>
      s.resume k (fun task _ => !task.awaitsAck) (fun s task t => s.resumed task t result read)
  -- the wait ends when the event is set or when the time is up
  | .ackWaited k timeout =>
      s.resume k (fun task t => task.awaitsAck && (timeout || t.ackEvent))
        (fun s task t => s.ackWaited task.target t timeout)

end Peerc.Transfer
