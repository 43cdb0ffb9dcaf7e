import Peerc.Lib.Ledger
import Peerc.Lib.Runs
import Peerc.Lib.Table
import Peerc.Transfer.Messages

/-!
Sending chat messages. The send itself is awaited, and a send that fails afterwards reports the
failure without looking whether the message is still pending.
-/
namespace Peerc.Messaging
open List Runs Ledger Transfer

inductive ChatStatus where
  | delivered
  | failed
  deriving DecidableEq

structure SentMessageState where
  messageId : Text
  addrKey : Text
  timeoutTask : Option Nat
  deriving DecidableEq

/-- A timeout watcher; it has ended once it was cancelled or has run. -/
structure Watcher where
  messageId : Text
  ended : Bool
  deriving DecidableEq

/-- sending lists the messages whose send is suspended; notified and the ids drawn are history. -/
structure ChatSession where
  objs : List SentMessageState
  pending : Dict Text Nat
  sending : List Nat
  watchers : List Watcher
  notified : List (Text × ChatStatus)
  drawn : List Text

inductive SendOutcome where
  | sent
  | notSent
  | raised
  deriving DecidableEq

inductive ChatEvent where
  | sendChat (addrKey messageId text : Text)
  | sendReturned (n : Nat) (result : SendOutcome)
  | chatAck (messageId : Text)
  | error (addrKey : Text) (info : Option (ErrorCode × Option Text))
  | timeout (k : Nat)
  | cancelTimeout (k : Nat)

def maxChatTextSize : Nat := 64 * 1024

namespace ChatSession

def start : ChatSession := ⟨[], Dict.empty, [], [], [], []⟩

variable (s : ChatSession)

def resolve (messageId : Text) (status : ChatStatus) : ChatSession :=
  { s with
    pending := s.pending.pop messageId
    notified := s.notified ++ [(messageId, status)] }

def endWatcher (k : Nat) : ChatSession :=
  { s with watchers := s.watchers.modify k (fun w => { w with ended := true }) }

def cancelTimeoutOf (i : Nat) : ChatSession :=
  match s.objs[i]?.bind SentMessageState.timeoutTask with
  | some k => s.endWatcher k
  | none => s

def handleAck (messageId : Text) : ChatSession :=
  match s.pending.get messageId with
  | none => s
  | some i => (s.cancelTimeoutOf i).resolve messageId .delivered

def handleError (addrKey : Text) : Option (ErrorCode × Option Text) → ChatSession
  | some (code, some messageId) =>
      match s.pending.get messageId with
      | none => s
      | some i =>
          if s.objs[i]?.map SentMessageState.addrKey ≠ some addrKey then s
          else if ¬ code.terminal then s
          else (s.cancelTimeoutOf i).resolve messageId .failed
  | _ => s

def timeoutWatcher (k : Nat) : ChatSession :=
  match s.watchers[k]? with
  | none => s
  | some w =>
      if w.ended then s
      else if (s.pending.get w.messageId).isSome then (s.endWatcher k).resolve w.messageId .failed
      else s.endWatcher k

def sendChat (addrKey messageId text : Text) : ChatSession :=
  if maxChatTextSize < (utf8 text).length then
    { s with
      notified := s.notified ++ [(messageId, .failed)]
      drawn := s.drawn ++ [messageId] }
  else
    { s with
      objs := s.objs ++ [⟨messageId, addrKey, none⟩]
      pending := s.pending.set messageId s.objs.length
      sending := s.sending ++ [s.objs.length]
      drawn := s.drawn ++ [messageId] }

def startTimeout (i : Nat) (messageId : Text) : ChatSession :=
  { s with
    objs := s.objs.modify i (fun o => { o with timeoutTask := some s.watchers.length })
    watchers := s.watchers ++ [⟨messageId, false⟩] }

def sendReturned (n : Nat) (result : SendOutcome) : ChatSession :=
  match s.sending[n]? with
  | none => s
  | some i =>
      let s' := { s with sending := s.sending.eraseIdx n }
      match s.objs[i]?, result with
      | none, _ => s'
      | some _, .raised => s'
      | some o, .notSent => s'.resolve o.messageId .failed
      | some o, .sent =>
          if (s.pending.get o.messageId).isNone then s' else s'.startTimeout i o.messageId

def step : ChatEvent → ChatSession
  | .sendChat addrKey messageId text => s.sendChat addrKey messageId text
  | .sendReturned n result => s.sendReturned n result
  | .chatAck messageId => s.handleAck messageId
  | .error addrKey info => s.handleError addrKey info
  | .timeout k => s.timeoutWatcher k
  | .cancelTimeout k => s.endWatcher k

def ReportedOnce : Prop := ∀ messageId, tally Prod.fst s.notified messageId ≤ 1

def FreshId : ChatEvent → Prop
  | .sendChat _ messageId _ => messageId ∉ s.drawn
  | _ => True

def FailsPending : ChatEvent → Prop
  | .sendReturned n .notSent => ∀ i o, s.sending[n]? = some i → s.objs[i]? = some o →
      (s.pending.get o.messageId).isSome = true
  | _ => True

end ChatSession

open ChatSession

/-! ## What one event does -/

structure Board where
  pending : Dict Text Nat
  notified : List (Text × ChatStatus)
  drawn : List Text
  ids : List Text

def ChatSession.board (s : ChatSession) : Board :=
  ⟨s.pending, s.notified, s.drawn, s.objs.map SentMessageState.messageId⟩

inductive BoardChange (b : Board) : ChatEvent → Board → Prop
  | quiet {e : ChatEvent} : BoardChange b e b
  | tracked {addrKey id text : Text} (i : Nat) : BoardChange b (.sendChat addrKey id text)
      { b with
        pending := b.pending.set id i
        drawn := b.drawn ++ [id]
        ids := b.ids ++ [id] }
  | oversized {addrKey id text : Text} : BoardChange b (.sendChat addrKey id text)
      { b with
        notified := b.notified ++ [(id, .failed)]
        drawn := b.drawn ++ [id] }
  | resolved {e : ChatEvent} {id : Text} (status : ChatStatus)
      (found : (b.pending.get id).isSome = true) : BoardChange b e
      { b with
        pending := b.pending.pop id
        notified := b.notified ++ [(id, status)] }

namespace ChatSession
variable {s : ChatSession} {e : ChatEvent}

theorem board_cancel_timeout (s : ChatSession) (i : Nat) :
    (s.cancelTimeoutOf i).board = s.board := by
  unfold cancelTimeoutOf
  split <;> rfl

theorem board_resolve (s : ChatSession) (id : Text) (status : ChatStatus) :
    (s.resolve id status).board = { s.board with
      pending := s.board.pending.pop id
      notified := s.board.notified ++ [(id, status)] } := rfl

theorem board_start_timeout (s : ChatSession) (i : Nat) (id : Text) :
    (s.startTimeout i id).board = s.board := by
  have ids : (s.startTimeout i id).objs.map SentMessageState.messageId =
      s.objs.map SentMessageState.messageId := by
    apply ext_getElem?
    intro j
    simp only [startTimeout, getElem?_map, getElem?_modify]
    cases s.objs[j]? with
    | none => rfl
    | some => by_cases here : i = j <;> simp [here]
  unfold board
  rw [ids]
  rfl

theorem resolved_change {t : ChatSession} {id : Text} {i : Nat} (status : ChatStatus)
    (found : s.pending.get id = some i) (same : t.board = s.board) :
    BoardChange s.board e (t.resolve id status).board := by
  rw [board_resolve, same]
  exact .resolved status (Option.isSome_iff_exists.mpr ⟨i, found⟩)

theorem board_step (meets : s.FailsPending e) : BoardChange s.board e (s.step e).board := by
  cases e with
  | sendChat addrKey id text =>
    simp only [step, sendChat]
    split
    · exact .oversized
    · have after : BoardChange s.board (.sendChat addrKey id text) _ := .tracked s.objs.length
      simpa [board] using after
  | sendReturned =>
    simp only [step]
    unfold sendReturned
    split
    · exact .quiet
    · next i place =>
      split
      · exact .quiet
      · exact .quiet
      · next o object => exact .resolved (b := s.board) .failed (meets i o place object)
      · next o object =>
        split
        · exact .quiet
        · rw [board_start_timeout]
          exact .quiet
  | chatAck =>
    simp only [step, handleAck]
    split
    · exact .quiet
    · next i found => exact resolved_change .delivered found (board_cancel_timeout s i)
  | error =>
    simp only [step]
    unfold handleError
    split
    · next code id =>
      split
      · exact .quiet
      · next i found =>
        split
        · exact .quiet
        · split
          · exact .quiet
          · exact resolved_change .failed found (board_cancel_timeout s i)
    · exact .quiet
  | timeout k =>
    simp only [step, timeoutWatcher]
    split
    · exact .quiet
    · next w _ =>
      split
      · exact .quiet
      · split
        · next found =>
          obtain ⟨_, found⟩ := Option.isSome_iff_exists.mp found
          have same : (s.endWatcher k).board = s.board := rfl
          exact resolved_change .failed found same
        · exact .quiet
  | cancelTimeout => exact .quiet

theorem late_failure (against : ¬ s.FailsPending e) :
    ∃ id ∈ s.objs.map SentMessageState.messageId, s.pending.get id = none ∧
      (s.step e).notified = s.notified ++ [(id, .failed)] := by
  cases e with
  | sendReturned _ result =>
    cases result with
    | notSent =>
      simp only [FailsPending, not_forall] at against
      obtain ⟨_, o, place, object, gone⟩ := against
      refine ⟨o.messageId, mem_map_of_mem (mem_of_getElem? object), ?_, ?_⟩
      · simpa using gone
      · simp [step, sendReturned, place, object, resolve]
    | sent | raised => exact absurd trivial against
  | sendChat | chatAck | error | timeout | cancelTimeout => exact absurd trivial against

end ChatSession

/-! ## Runs -/

def Board.owed (b : Board) (id : Text) : Prop := id ∉ b.drawn ∨ (b.pending.get id).isSome = true

structure Board.Sound (b : Board) : Prop where
  once : Once Prod.fst b.owed b.notified
  drawn : ∀ id, (b.pending.get id).isSome = true → id ∈ b.drawn
  traced : ∀ id ∈ b.ids, (b.pending.get id).isSome = true ∨ 0 < tally Prod.fst b.notified id

theorem board_sound_step {b c : Board} {e : ChatEvent} (sound : b.Sound)
    (change : BoardChange b e c)
    (fresh : ∀ addrKey id text, e = .sendChat addrKey id text → id ∉ b.drawn) : c.Sound := by
  cases change with
  | quiet => exact sound
  | @tracked addrKey id text i =>
    have new : id ∉ b.drawn := fresh addrKey id text rfl
    refine ⟨sound.once.keep ?_, ?_, ?_⟩
    · intro k owes
      by_cases same : k = id
      · exact .inl (same ▸ new)
      · simpa [Board.owed, same] using owes
    · intro k found
      by_cases same : k = id
      · simp [same]
      · simp only [Dict.get_set, if_neg same] at found
        simp [sound.drawn k found]
    · intro k known
      by_cases same : k = id
      · simp [same]
      · have before : k ∈ b.ids := by simpa [same] using known
        simpa [same] using sound.traced k before
  | @oversized addrKey id text =>
    have new : id ∉ b.drawn := fresh addrKey id text rfl
    have untracked : (b.pending.get id).isSome ≠ true := fun found => new (sound.drawn id found)
    refine ⟨sound.once.settle (.inl new) ?_ ?_, ?_, ?_⟩
    · rintro (undrawn | found)
      · simp at undrawn
      · exact untracked found
    · rintro k (undrawn | found)
      · exact .inl (by simp only [mem_append, not_or] at undrawn; exact undrawn.1)
      · exact .inr found
    · intro k found
      exact mem_append_left _ (sound.drawn k found)
    · intro k known
      rcases sound.traced k known with found | reported
      · exact .inl found
      · exact .inr (by simp only [tally_concat]; omega)
  | @resolved _ id status found =>
    refine ⟨sound.once.settle (.inr found) ?_ ?_, ?_, ?_⟩
    · rintro (undrawn | still)
      · exact undrawn (sound.drawn id found)
      · simp at still
    · rintro k (undrawn | still)
      · exact .inl undrawn
      · by_cases same : k = id
        · exact .inr (same ▸ found)
        · exact .inr (by simpa [same] using still)
    · intro k still
      by_cases same : k = id
      · exact same ▸ sound.drawn id found
      · exact sound.drawn k (by simpa [same] using still)
    · intro k known
      by_cases same : k = id
      · exact .inr (by simp [tally_concat, same])
      · rcases sound.traced k known with still | reported
        · exact .inl (by simpa [same] using still)
        · exact .inr (by simp only [tally_concat]; omega)

/-- If and only if every send that fails comes back to a message still pending. -/
theorem reported_once_iff_fails_pending (events : List ChatEvent)
    (fresh : Along step ChatSession.FreshId start events) :
    Everywhere step ChatSession.ReportedOnce start events ↔
      Along step ChatSession.FailsPending start events := by
  have start : start.board.Sound := by
    refine ⟨once_nil, ?_, ?_⟩
    · intro _ found
      cases found
    · intro _ known
      cases known
  refine everywhere_iff_along_within
    (fun s (sound : s.board.Sound) => sound.once.atMost) ?_ ?_ start fresh
  · intro _ _ sound new meets
    refine board_sound_step sound (board_step meets) ?_
    rintro _ _ _ rfl
    exact new
  · intro s _ sound _ against once
    obtain ⟨id, known, gone, notified⟩ := late_failure against
    have twice := once id
    rw [notified, tally_concat, if_pos rfl] at twice
    rcases sound.traced id known with found | reported
    · simp [board, gone] at found
    · have counted : 0 < tally Prod.fst s.notified id := reported
      omega

section Sample

def sampleSend : ChatEvent := .sendChat "A" "m" "hi"

def acknowledgedTwice : List ChatEvent :=
  [sampleSend, .sendReturned 0 .sent, .chatAck "m", .chatAck "m", .timeout 0]

theorem acknowledged_message_reported_once :
    Everywhere step ChatSession.ReportedOnce start acknowledgedTwice := by
  have fresh : Along step ChatSession.FreshId start acknowledgedTwice :=
    ⟨not_mem_nil, trivial, trivial, trivial, trivial, trivial⟩
  exact (reported_once_iff_fails_pending acknowledgedTwice fresh).mpr
    ⟨trivial, trivial, trivial, trivial, trivial, trivial⟩

def acknowledgedThenFailed : List ChatEvent :=
  [sampleSend, .chatAck "m", .sendReturned 0 .notSent]

theorem delivered_message_reported_failed :
    Along step ChatSession.FreshId start acknowledgedThenFailed ∧
      (run step start acknowledgedThenFailed).notified =
        [("m".toList, .delivered), ("m".toList, .failed)] ∧
      ¬ Everywhere step ChatSession.ReportedOnce start
        acknowledgedThenFailed := by
  refine ⟨⟨not_mem_nil, trivial, trivial, trivial⟩, by decide +kernel, ?_⟩
  intro once
  have last := once acknowledgedThenFailed prefix_rfl "m"
  exact absurd last (by decide +kernel)

end Sample
/-! ## Who decides about a message -/

inductive PeerNotice where
  | chatAck (messageId : Text)
  | error (info : Option (ErrorCode × Option Text))

namespace ChatSession
variable {s : ChatSession} {addrKey : Text}

/-- The address an acknowledgement came from is not handed on to its handler. -/
def onNetworkMessage (s : ChatSession) (received : Text × PeerNotice) : ChatSession :=
  match received.2 with
  | .chatAck messageId => s.handleAck messageId
  | .error info => s.handleError received.1 info

def AddressedOn (s : ChatSession) (messageId addrKey : Text) : Prop :=
  ∃ i o, s.pending.get messageId = some i ∧ s.objs[i]? = some o ∧ o.addrKey = addrKey

def DecidedByAddressee (s : ChatSession) (received : Text × PeerNotice) : Prop :=
  ∀ messageId status, (s.onNetworkMessage received).notified = s.notified ++ [(messageId, status)] →
    s.AddressedOn messageId received.1

def AcksOwn (s : ChatSession) (received : Text × PeerNotice) : Prop :=
  ∀ messageId, received.2 = .chatAck messageId → (s.pending.get messageId).isSome = true →
    s.AddressedOn messageId received.1

theorem notified_resolve (s : ChatSession) (i : Nat) (messageId : Text) (status : ChatStatus) :
    ((s.cancelTimeoutOf i).resolve messageId status).notified = s.notified ++
      [(messageId, status)] := by
  have same := congrArg Board.notified (board_cancel_timeout s i)
  exact congrArg (· ++ [(messageId, status)]) same

theorem error_decides (info : Option (ErrorCode × Option Text)) :
    s.DecidedByAddressee (addrKey, .error info) := by
  intro id status reported
  have quiet : s.notified ≠ s.notified ++ [(id, status)] := by simp
  simp only [onNetworkMessage] at reported
  unfold handleError at reported
  split at reported
  · split at reported
    · exact absurd reported quiet
    · next i found =>
      split at reported
      · exact absurd reported quiet
      · next own =>
        split at reported
        · exact absurd reported quiet
        · rw [notified_resolve] at reported
          cases append_cancel_left reported
          obtain ⟨o, object, here⟩ := Option.map_eq_some_iff.mp (not_not.mp own)
          exact ⟨i, o, found, object, here⟩
  · exact absurd reported quiet

theorem ack_decides_iff (id : Text) : s.DecidedByAddressee (addrKey, .chatAck id) ↔
    ((s.pending.get id).isSome = true → s.AddressedOn id addrKey) := by
  simp only [DecidedByAddressee, onNetworkMessage, handleAck]
  cases found : s.pending.get id with
  | none => simp
  | some i => simp [notified_resolve]

end ChatSession

/-- Exactly if each acknowledgement comes from the connection the message was sent on. -/
theorem decided_by_addressee_iff (s : ChatSession) (received : List (Text × PeerNotice)) :
    Along onNetworkMessage ChatSession.DecidedByAddressee s received ↔
      Along onNetworkMessage ChatSession.AcksOwn s received := by
  refine along_iff (fun s received (_ : True) => ?_) (fun _ _ _ _ => trivial) trivial received
  obtain ⟨addrKey, notice⟩ := received
  cases notice with
  | chatAck id =>
    rw [ack_decides_iff]
    simp [ChatSession.AcksOwn]
  | error info => exact iff_of_true (error_decides info) nofun

section Sample

theorem acknowledged_by_another_peer :
    let pending := run step .start [sampleSend, .sendReturned 0 .sent]
    pending.AddressedOn "m" "A" ∧
      (pending.onNetworkMessage ("B".toList, .chatAck "m")).notified =
        [("m".toList, .delivered)] ∧
      ¬ pending.DecidedByAddressee ("B".toList, .chatAck "m") := by
  refine ⟨⟨0, _, rfl, rfl, rfl⟩, by decide +kernel, ?_⟩
  intro decided
  obtain ⟨_, _, found, object, other⟩ := decided "m".toList .delivered (by decide +kernel)
  cases found
  cases object
  exact absurd other (by decide)

end Sample
end Peerc.Messaging
