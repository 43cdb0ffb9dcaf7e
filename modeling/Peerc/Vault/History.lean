import Peerc.Messaging.Session
import Peerc.Primitives

/-!
The stored history: a row for each message and each finished transfer. Rows are keyed by the id
alone, and the id of something received is the peer's choice.
-/
namespace Peerc.Vault
open Runs Messaging

inductive Direction where
  | sent
  | received
  deriving DecidableEq

inductive MessageStatus where
  | pending
  | reported (status : ChatStatus)
  deriving DecidableEq

inductive TransferStatus where
  | completed
  | rejected
  | failed
  deriving DecidableEq

inductive StorageMode where
  | normal
  | secure
  deriving DecidableEq

structure MessageRow where
  messageId : Text
  peerDeviceId : Text
  direction : Direction
  text : Text
  timestamp : Time
  status : MessageStatus
  deriving DecidableEq

structure TransferRow where
  transferId : Text
  peerDeviceId : Text
  direction : Direction
  filename : Text
  size : Nat
  checksum : Text
  storageMode : StorageMode
  storagePath : Text
  status : TransferStatus
  timestamp : Time
  deriving DecidableEq

structure HistoryDatabase where
  messages : Table MessageRow MessageRow.messageId
  transfers : Table TransferRow TransferRow.transferId

structure ChatReceived where
  messageId : Text
  text : Text
  peerDeviceId : Option Text
  deriving DecidableEq

structure ChatMessageSent where
  messageId : Text
  peerDeviceId : Option Text
  text : Text
  timestamp : Time
  deriving DecidableEq

/-- storage_mode and secure_id are attributes the event has only if they were set on it. -/
structure TransferCompleted where
  transferId : Text
  success : Bool
  filepath : Option Text
  error : Option Text
  peerDeviceId : Option Text
  direction : Direction
  filename : Text
  size : Nat
  checksum : Text
  timestamp : Time
  storageMode : Option StorageMode
  secureId : Option Text
  deriving DecidableEq

inductive BusEvent where
  | chatReceived (evt : ChatReceived)
  | chatSent (evt : ChatMessageSent)
  | chatStatusChanged (messageId : Text) (status : ChatStatus)
  | transferCompleted (evt : TransferCompleted)
  deriving DecidableEq

structure EndedTransfer where
  transferId : Text
  addrKey : Text
  filename : Text
  size : Nat
  checksum : Text
  peerDeviceId : Text
  outgoing : Bool

/-- An identity that is None or empty counts as none. -/
def identified (deviceId : Option Text) : Option Text := deviceId.filter (fun d => d ≠ [])

def stampedAt (timestamp now : Time) : Time := if timestamp = 0 then now else timestamp

def ChatReceived.row (evt : ChatReceived) (peer : Text) (now : Time) : MessageRow :=
  ⟨evt.messageId, peer, .received, evt.text, now, .reported .delivered⟩

def ChatMessageSent.row (evt : ChatMessageSent) (peer : Text) (now : Time) : MessageRow :=
  ⟨evt.messageId, peer, .sent, evt.text, stampedAt evt.timestamp now, .pending⟩

namespace TransferCompleted

variable (evt : TransferCompleted)

def status : TransferStatus :=
  if evt.success then .completed
  else if evt.error = some "rejected".toList then .rejected
  else .failed

def mode : StorageMode := evt.storageMode.getD .normal

def path : Text :=
  match evt.mode with
  | .secure => evt.secureId.getD []
  | .normal => evt.filepath.getD []

def row (peer : Text) (now : Time) : TransferRow :=
  ⟨evt.transferId, peer, evt.direction, evt.filename, evt.size, evt.checksum, evt.mode, evt.path,
    evt.status, stampedAt evt.timestamp now⟩

end TransferCompleted

namespace HistoryDatabase

variable (db : HistoryDatabase)

def onChatReceived (evt : ChatReceived) (now : Time) : HistoryDatabase :=
  match identified evt.peerDeviceId with
  | none => db
  | some peer => { db with messages := db.messages.replace (evt.row peer now) }

def onChatSent (evt : ChatMessageSent) (now : Time) : HistoryDatabase :=
  match identified evt.peerDeviceId with
  | none => db
  | some peer => { db with messages := db.messages.replace (evt.row peer now) }

def onChatStatusChanged (messageId : Text) (status : ChatStatus) : HistoryDatabase :=
  let written := db.messages.update (fun r => r.messageId = messageId)
    (fun r => { r with status := .reported status }) (by intro r; rfl)
  { db with messages := written }

def onTransferCompleted (evt : TransferCompleted) (now : Time) : HistoryDatabase :=
  match identified evt.peerDeviceId with
  | none => db
  | some peer => { db with transfers := db.transfers.replace (evt.row peer now) }

def handle (now : Time) : BusEvent → HistoryDatabase
  | .chatReceived evt => db.onChatReceived evt now
  | .chatSent evt => db.onChatSent evt now
  | .chatStatusChanged messageId status => db.onChatStatusChanged messageId status
  | .transferCompleted evt => db.onTransferCompleted evt now

end HistoryDatabase

/-- The persistence is None while the vault is locked. -/
structure HistoryState where
  connections : Dict Text Text
  vaultDb : Option HistoryDatabase
  posted : List BusEvent

inductive HistoryEvent where
  | connected (addrKey peerDeviceId : Text)
  | disconnected (addrKey : Text)
  | incomingChat (addrKey messageId text : Text) (now : Time)
  | chatSent (addrKey messageId text : Text) (now : Time)
  | statusChanged (messageId : Text) (status : ChatStatus)
  | transferEnded (transfer : EndedTransfer) (success : Bool) (filepath error : Option Text)
      (now : Time)
  | dispatch (n : Nat) (now : Time)
  | reattach (vaultDb : Option HistoryDatabase)

namespace HistoryState

variable (s : HistoryState)

def getPeerDeviceId (addrKey : Text) : Option Text := s.connections.get addrKey

def post (evt : BusEvent) : HistoryState := { s with posted := s.posted ++ [evt] }

def publish (now : Time) (evt : BusEvent) : HistoryState :=
  { s with vaultDb := s.vaultDb.map (fun db => db.handle now evt) }

def incomingChat (addrKey messageId text : Text) : BusEvent :=
  .chatReceived ⟨messageId, text, s.getPeerDeviceId addrKey⟩

def notifyComplete (transfer : EndedTransfer) (success : Bool) (filepath error : Option Text)
    (now : Time) : BusEvent :=
  .transferCompleted {
    transferId := transfer.transferId
    success := success
    filepath := filepath
    error := error
    peerDeviceId :=
      if transfer.peerDeviceId = [] then s.getPeerDeviceId transfer.addrKey
      else some transfer.peerDeviceId
    direction := if transfer.outgoing then .sent else .received
    filename := transfer.filename
    size := transfer.size
    checksum := transfer.checksum
    timestamp := now
    storageMode := none
    secureId := none }

def stores : HistoryEvent → Option (BusEvent × Time)
  | .incomingChat addrKey messageId text now => some (s.incomingChat addrKey messageId text, now)
  | .dispatch n now => s.posted[n]?.map (fun evt => (evt, now))
  | _ => none

def step : HistoryEvent → HistoryState
  | .connected addrKey peerDeviceId =>
      { s with connections := s.connections.set addrKey peerDeviceId }
  | .disconnected addrKey => { s with connections := s.connections.pop addrKey }
  | .incomingChat addrKey messageId text now =>
      s.publish now (s.incomingChat addrKey messageId text)
  | .chatSent addrKey messageId text now =>
      s.post (.chatSent ⟨messageId, s.getPeerDeviceId addrKey, text, now⟩)
  | .statusChanged messageId status => s.post (.chatStatusChanged messageId status)
  | .transferEnded transfer success filepath error now =>
      s.post (s.notifyComplete transfer success filepath error now)
  | .dispatch n now =>
      match s.posted[n]? with
      | none => s
      | some evt => { s.publish now evt with posted := s.posted.eraseIdx n }
  | .reattach vaultDb => { s with vaultDb := vaultDb }

end HistoryState

open HistoryState

def BusEvent.receivedFrom : BusEvent → Option Text
  | .chatReceived evt => identified evt.peerDeviceId
  | .transferCompleted evt =>
      if evt.direction = .received then identified evt.peerDeviceId else none
  | _ => none

/-- A row that is not the peer's to write: something we sent, or another peer sent. -/
def Guarded (peer : Text) (direction : Direction) (of : Text) : Prop :=
  direction = .sent ∨ of ≠ peer

structure Preserved (peer : Text) (before after : HistoryDatabase) : Prop where
  messages : ∀ row ∈ before.messages.rows, Guarded peer row.direction row.peerDeviceId →
    row ∈ after.messages.rows
  transfers : ∀ row ∈ before.transfers.rows, Guarded peer row.direction row.peerDeviceId →
    row ∈ after.transfers.rows

def NotWritable (s : HistoryState) (e : HistoryEvent) : Prop :=
  ∀ evt now peer db, s.stores e = some (evt, now) → evt.receivedFrom = some peer →
    s.vaultDb = some db → ∃ after, (s.step e).vaultDb = some after ∧ Preserved peer db after

def BusEvent.IdFree (peer : Text) (db : HistoryDatabase) : BusEvent → Prop
  | .chatReceived evt =>
      ∀ row, db.messages.find evt.messageId = some row →
        ¬ Guarded peer row.direction row.peerDeviceId
  | .transferCompleted evt =>
      ∀ row, db.transfers.find evt.transferId = some row →
        ¬ Guarded peer row.direction row.peerDeviceId
  | _ => True

def StoresUnderFreeId (s : HistoryState) (e : HistoryEvent) : Prop :=
  ∀ evt now peer db, s.stores e = some (evt, now) → evt.receivedFrom = some peer →
    s.vaultDb = some db → evt.IdFree peer db

namespace HistoryState

theorem step_stores {s : HistoryState} {e : HistoryEvent} {evt : BusEvent} {now : Time}
    (storing : s.stores e = some (evt, now)) :
    (s.step e).vaultDb = s.vaultDb.map (fun db => db.handle now evt) := by
  cases e with
  | incomingChat =>
    obtain ⟨rfl, rfl⟩ := Prod.mk.inj (Option.some.inj storing)
    rfl
  | dispatch =>
    obtain ⟨_, here, same⟩ := Option.map_eq_some_iff.mp storing
    obtain ⟨rfl, rfl⟩ := Prod.mk.inj same
    simp [step, here, publish]
  | connected | disconnected | chatSent | statusChanged | transferEnded | reattach =>
    simp [stores] at storing

end HistoryState

namespace HistoryDatabase

theorem unguarded_received (peer : Text) : ¬ Guarded peer .received peer := by
  rintro (sent | other)
  · cases sent
  · exact other rfl

variable {peer : Text} (db : HistoryDatabase)

theorem chat_received_preserves_iff {evt : ChatReceived}
    (from_ : identified evt.peerDeviceId = some peer) (now : Time) :
    Preserved peer db (db.onChatReceived evt now) ↔ (BusEvent.chatReceived evt).IdFree peer db := by
  have exposed : ¬ Guarded peer (evt.row peer now).direction (evt.row peer now).peerDeviceId :=
    unguarded_received peer
  have keeps := db.messages.replace_keeps_iff
    (fun row => Guarded peer row.direction row.peerDeviceId) exposed
  unfold onChatReceived
  rw [from_]
  constructor
  · intro preserved
    exact keeps.mp preserved.messages
  · intro free
    exact ⟨keeps.mpr free, fun _ member _ => member⟩

theorem transfer_completed_preserves_iff {evt : TransferCompleted}
    (received : evt.direction = .received) (from_ : identified evt.peerDeviceId = some peer)
    (now : Time) : Preserved peer db (db.onTransferCompleted evt now) ↔
      (BusEvent.transferCompleted evt).IdFree peer db := by
  have exposed : ¬ Guarded peer (evt.row peer now).direction (evt.row peer now).peerDeviceId := by
    change ¬ Guarded peer evt.direction peer
    rw [received]
    exact unguarded_received peer
  have keeps := db.transfers.replace_keeps_iff
    (fun row => Guarded peer row.direction row.peerDeviceId) exposed
  unfold onTransferCompleted
  rw [from_]
  constructor
  · intro preserved
    exact keeps.mp preserved.transfers
  · intro free
    exact ⟨fun _ member _ => member, keeps.mpr free⟩

theorem handle_preserves_iff {evt : BusEvent} (from_ : evt.receivedFrom = some peer) (now : Time) :
    Preserved peer db (db.handle now evt) ↔ evt.IdFree peer db := by
  cases evt with
  | chatReceived => exact chat_received_preserves_iff db from_ now
  | transferCompleted =>
    simp only [BusEvent.receivedFrom] at from_
    split at from_
    · rename_i received
      exact transfer_completed_preserves_iff db received from_ now
    · cases from_
  | chatSent | chatStatusChanged => cases from_

end HistoryDatabase

theorem not_writable_iff (s : HistoryState) (e : HistoryEvent) :
    NotWritable s e ↔ StoresUnderFreeId s e := by
  constructor
  · intro frame evt now peer db storing from_ attached
    obtain ⟨_, written, preserved⟩ := frame evt now peer db storing from_ attached
    rw [step_stores storing, attached] at written
    obtain rfl := Option.some.inj written
    exact (db.handle_preserves_iff from_ now).mp preserved
  · intro free evt now peer db storing from_ attached
    refine ⟨db.handle now evt, ?_, ?_⟩
    · rw [step_stores storing, attached]
      rfl
    · exact (db.handle_preserves_iff from_ now).mpr (free evt now peer db storing from_ attached)

/-- Exactly if what a peer sent is stored under an id that no other row has. -/
theorem history_not_writable_iff (s : HistoryState) (es : List HistoryEvent) :
    Along step NotWritable s es ↔
      Along step StoresUnderFreeId s es :=
  along_iff (fun s e (_ : True) => not_writable_iff s e) (fun _ _ _ _ => trivial) trivial es

section Sample

def historyStart : HistoryState :=
  ⟨Dict.empty, some ⟨Table.empty, Table.empty⟩, []⟩

def sentToBob : List HistoryEvent :=
  [.connected "b" "bob", .connected "m" "mallory",
    .chatSent "b" "id-1" "pay 10" 5, .dispatch 0 6,
    .transferEnded ⟨"id-2", "b", "bill", 9, "c", [], true⟩ true none
      none 7, .dispatch 0 8]

def overwritingChat : HistoryEvent :=
  .incomingChat "m" "id-1" "pay 1000" 9

def overwritingTransfer : List HistoryEvent :=
  [.transferEnded ⟨"id-2", "m", "bill", 3, "d", "mallory",
    false⟩ true (some "bill") none 9, .dispatch 0 10]

theorem sent_rows_overwritten : ((run step historyStart
        (sentToBob ++ overwritingChat :: overwritingTransfer)).vaultDb.map
          (fun db => (db.messages.rows.map MessageRow.peerDeviceId,
          db.transfers.rows.map TransferRow.peerDeviceId)) =
      some (["mallory".toList], ["mallory".toList])) ∧
    ¬ Along step NotWritable historyStart (sentToBob ++ [overwritingChat]) ∧
    ¬ Along step NotWritable historyStart (sentToBob ++ overwritingTransfer) := by
  have message : (run step historyStart sentToBob).vaultDb.bind
      (fun db => db.messages.find "id-1".toList) =
        some ⟨"id-1".toList, "bob".toList, .sent, "pay 10".toList, 5, .pending⟩ := by decide
  have file : (run step historyStart
      (sentToBob ++ overwritingTransfer.take 1)).vaultDb.bind
        (fun db => db.transfers.find "id-2".toList) =
        some ⟨"id-2".toList, "bob".toList, .sent, "bill".toList, 9, "c".toList, .normal, [],
          .completed, 7⟩ := by decide
  refine ⟨by decide, ?_, ?_⟩
  · intro along
    obtain ⟨db, attached, found⟩ := Option.bind_eq_some_iff.mp message
    have free := (not_writable_iff _ _).mp (along_at along)
    exact free _ 9 "mallory".toList db rfl (by decide) attached _ found (.inl rfl)
  · intro along
    obtain ⟨db, attached, found⟩ := Option.bind_eq_some_iff.mp file
    have split : sentToBob ++ overwritingTransfer =
        (sentToBob ++ overwritingTransfer.take 1) ++ [.dispatch 0 10] := rfl
    rw [split] at along
    have free := (not_writable_iff _ _).mp (along_at along)
    exact free _ 10 "mallory".toList db rfl (by decide) attached _ found (.inl rfl)

end Sample
end Peerc.Vault
