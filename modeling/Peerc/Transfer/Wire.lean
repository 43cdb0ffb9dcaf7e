import Peerc.Transfer.Exchange
import Peerc.Transfer.Receiver
import Peerc.Transfer.Sender

/-!
From what the handlers emit to the frames on a connection and back to the events of the other
side.
-/
namespace Peerc.Transfer

def errorReportCap : Nat := 256

abbrev ReportKey := Text × ErrorCode × Text

variable (reported : List ReportKey) (addr : Text)

def reportOnce (code : ErrorCode) (transferId : Text) : List ReportKey × List Message :=
  if transferId = [] ∨ 128 < transferId.length ∨ (addr, code, transferId) ∈ reported then
    (reported, [])
  else
    let reported := reported ++ [(addr, code, transferId)]
    (reported.drop (reported.length - errorReportCap), [.error code (some transferId)])

def transmit (reported : List ReportKey) : List Output → List ReportKey × List Message
  | [] => (reported, [])
  | .send _ message :: rest =>
      let sent := transmit reported rest
      (sent.1, message :: sent.2)
  | .report addr code transferId :: rest =>
      let once := reportOnce reported addr code transferId
      let sent := transmit once.1 rest
      (sent.1, once.2 ++ sent.2)

def Message.received (io : Io) : Message → Option RecvEvent
  | .fileOffer o => some (.offer addr o io)
  | .fileData id sequence offset data => some (.chunk addr id sequence offset data io)
  | .fileDone id _ => some (.done addr id io)
  | .error code (some id) =>
      if code.terminal then some (.peerError addr id code.reason io) else none
  | _ => none

def Message.answered : Message → Option SendEvent
  | .fileAccept id offset => some (.accept addr id (some offset))
  | .fileReject id => some (.reject id)
  | .fileCompleteAck id success _ => some (.completeAck id success)
  | .error code (some id) => if code.terminal then some (.peerError addr id code.reason) else none
  | _ => none

variable (transferId : Text)

def Message.signal : Message → Option Signal
  | .fileOffer o => if o.transferId = transferId then some .offer else none
  | .fileData id _ _ _ => if id = transferId then some .data else none
  | .fileDone id _ => if id = transferId then some .done else none
  | .error code (some id) => if id = transferId ∧ code.terminal then some .error else none
  | _ => none

def Message.reply : Message → Option Reply
  | .fileAccept id _ => if id = transferId then some .accept else none
  | .fileReject id => if id = transferId then some .reject else none
  | .fileCompleteAck id success _ => if id = transferId then some (.ack success) else none
  | .error code (some id) => if id = transferId ∧ code.terminal then some .error else none
  | _ => none

def SendEvent.reply : SendEvent → Option Reply
  | .accept _ id _ => if id = transferId then some .accept else none
  | .reject id => if id = transferId then some .reject else none
  | .completeAck id success => if id = transferId then some (.ack success) else none
  | .peerError _ id _ => if id = transferId then some .error else none
  | _ => none

def RecvEvent.signal : RecvEvent → Option Signal
  | .offer _ o _ => if o.transferId = transferId then some .offer else none
  | .chunk _ id _ _ _ _ => if id = transferId then some .data else none
  | .done _ id _ => if id = transferId then some .done else none
  | .peerError _ id _ _ => if id = transferId then some .error else none
  | _ => none

theorem answered_reply (m : Message) (id : Text) :
    (m.answered addr).bind (SendEvent.reply id) = m.reply id := by
  cases m with
  | error code context =>
    cases context with
    | none => rfl
    | some =>
      cases terminal : code.terminal <;>
        simp [Message.answered, Message.reply, SendEvent.reply, terminal]
  | _ => rfl

theorem received_signal (io : Io) (m : Message) (id : Text) :
    (m.received addr io).bind (RecvEvent.signal id) = m.signal id := by
  cases m with
  | error code context =>
    cases context with
    | none => rfl
    | some =>
      cases terminal : code.terminal <;>
        simp [Message.received, Message.signal, RecvEvent.signal, terminal]
  | _ => rfl

theorem reply_accept {m : Message} {id : Text} (accepts : m.reply id = some .accept) :
    ∃ offset, m = .fileAccept id offset := by
  unfold Message.reply at accepts
  split at accepts <;> simp_all

theorem reply_success {m : Message} {id : Text} (acks : m.reply id = some (.ack true)) :
    ∃ detail, m = .fileCompleteAck id true detail := by
  unfold Message.reply at acks
  split at acks <;> simp_all

theorem transmit_send (m : Message) : (transmit reported [.send addr m]).2 = [m] := rfl

theorem transmit_report (code : ErrorCode) (id : Text) :
    ∀ m ∈ (transmit reported [.report addr code id]).2, m = .error code (some id) := by
  intro _ member
  simp only [transmit, reportOnce] at member
  split at member
  · simp at member
  · simpa using member

end Peerc.Transfer
