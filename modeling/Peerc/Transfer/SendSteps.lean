import Peerc.Transfer.Sender

/-!
Everything one event can do to the sender, as a list of outcomes.
-/
namespace Peerc.Transfer
open List Registry OutgoingTransferState Sender

def SendTask.breaks : SendTask → SendResult → ReadResult → Bool
  | .chunksStart _, _, read => read = .osError
  | .chunkSend _ _ _, .ok, read => read = .osError
  | .chunkSend _ _ _, result, _ => result ≠ .raised
  | .doneSend _, result, _ => result = .osError
  | _, _, _ => false

def SendTask.streams : SendTask → Bool
  | .chunksStart _ => true
  | .chunkSend _ _ _ => true
  | _ => false

/-- The state of a transfer that nobody but its own coroutine has touched. -/
def SendTask.expects : SendTask → OutgoingTransferState
  | .offerSend _ => .offered
  | .chunksStart _ => .sending
  | .chunkSend _ _ _ => .sending
  | .doneSend _ => .sending
  | .ackWait _ => .waitingForCompleteAck

variable (t : OutgoingTransfer)

def withState (state : OutgoingTransferState) : OutgoingTransfer :=
  { t with state := state }

def gaveUp : OutgoingTransfer :=
  { t with
    state := .failed
    ackSuccess := false
    ackEvent := true }

def Failable : Prop :=
  t.state = .waitingForAccept ∨ t.state = .sending ∨ t.state = .waitingForCompleteAck ∨
    t.state = .failed

variable {t : OutgoingTransfer}

theorem transition_failed (failable : Failable t) :
    t.state.transitionTo .failed = some .failed := by
  rcases failable with state | state | state | state <;>
    simp [state, transitionTo, allowed]

theorem transition_failed_iff (t : OutgoingTransfer) (state : OutgoingTransferState) :
    t.state.transitionTo .failed = some state ↔ Failable t ∧ state = .failed := by
  constructor
  · intro moved
    have failable : Failable t := by
      unfold Failable
      revert moved
      cases t.state <;>
        simp [transitionTo, allowed]
    exact ⟨failable, Option.some.inj (moved.symm.trans (transition_failed failable))⟩
  · rintro ⟨failable, rfl⟩
    exact transition_failed failable

variable {s : Sender} {i : Nat}

theorem fail_outgoing_eq (object : s.outs[i]? = some t) (failable : Failable t) (error : Text) :
    s.failOutgoing error i = { s with
      outs := s.outs.set i (gaveUp t)
      outgoing := s.outgoing.pop t.transferId
      notes := s.notes ++ [⟨i, false, none, some error⟩] } := by
  simp only [failOutgoing, object, transition_failed failable]
  rfl

theorem fail_outgoing_refused
    (object : s.outs[i]? = some t) (refused : ¬ Failable t) (error : Text) :
    s.failOutgoing error i = s := by
  unfold failOutgoing
  rw [object]
  dsimp only
  split
  · rfl
  · rename_i state moved
    exact absurd ((transition_failed_iff t state).mp moved).1 refused

theorem sender_lookup_some_iff (s : Sender) (id : Text) (i : Nat) (t : OutgoingTransfer) :
    s.lookup id = some (i, t) ↔ s.outgoing.get id = some i ∧ s.outs[i]? = some t := by
  unfold Sender.lookup
  cases s.outgoing.get id with
  | none => simp
  | some j =>
    cases object : s.outs[j]? with
    | none =>
      simp only [Option.bind_some, object, Option.map_none, reduceCtorEq,
        Option.some.injEq, false_iff, not_and]
      rintro rfl
      simp [object]
    | some =>
      simp only [Option.bind_some, object, Option.map_some, Option.some.injEq, Prod.mk.injEq]
      constructor
      · rintro ⟨rfl, rfl⟩
        exact ⟨rfl, object⟩
      · rintro ⟨rfl, object'⟩
        exact ⟨rfl, Option.some.inj (object.symm.trans object')⟩

def SendEvent.isAnswer : SendEvent → Bool
  | .accept _ _ _ => true
  | .completeAck _ _ => true
  | _ => false

def SendEvent.task : SendEvent → Option Nat
  | .resumed k _ _ => some k
  | .ackWaited k _ => some k
  | _ => none

inductive SendOutcome (s : Sender) : SendEvent → Sender → Prop
  | idle (e : SendEvent) (other : e.isAnswer = false) : SendOutcome s e s
  | offered (addr filepath transferId : Text) (file : Option Bytes) (t : OutgoingTransfer)
      (o : Offer) (state : t.state = .offered) (ident : t.transferId = transferId)
      (offers : o.transferId = transferId) (unset : t.ackEvent = false) :
      SendOutcome s (.offerFile addr filepath transferId file) { s with
        outs := s.outs ++ [t]
        tasks := s.tasks ++ [.offerSend s.outs.length]
        out := s.out ++ [.send addr (.fileOffer o)] }
  | unsent (k : Nat) (result : SendResult) (read : ReadResult) (i : Nat) (t : OutgoingTransfer)
      (task : s.tasks[k]? = some (.offerSend i)) (object : s.outs[i]? = some t)
      (reason : result ≠ .ok ∨ t.state ≠ .offered) :
      SendOutcome s (.resumed k result read) { s with tasks := s.tasks.eraseIdx k }
  | registered (k : Nat) (read : ReadResult) (i : Nat) (t : OutgoingTransfer)
      (task : s.tasks[k]? = some (.offerSend i)) (object : s.outs[i]? = some t)
      (state : t.state = .offered) :
      SendOutcome s (.resumed k .ok read) { s with
        outs := s.outs.set i (withState t .waitingForAccept)
        outgoing := s.outgoing.set t.transferId i
        tasks := s.tasks.eraseIdx k }
  | unknown (addr transferId : Text) (resumeOffset : Option Nat)
      (absent : s.lookup transferId = none) :
      SendOutcome s (.accept addr transferId resumeOffset) { s with
        out := s.out ++ [.report addr .transferNotFound transferId] }
  | lateAccept (addr transferId : Text) (resumeOffset : Option Nat) (i : Nat)
      (t : OutgoingTransfer) (offset : Nat) (found : s.lookup transferId = some (i, t))
      (late : t.state ≠ .waitingForAccept) :
      SendOutcome s (.accept addr transferId resumeOffset) { s with
        outs := s.outs.set i { t with resumeOffset := offset } }
  | accepted (addr transferId : Text) (resumeOffset : Option Nat) (i : Nat)
      (t : OutgoingTransfer) (offset : Nat) (found : s.lookup transferId = some (i, t))
      (state : t.state = .waitingForAccept) :
      SendOutcome s (.accept addr transferId resumeOffset) { s with
        outs := s.outs.set i (withState { t with resumeOffset := offset } .sending)
        tasks := s.tasks ++ [.chunksStart i] }
  | rejected (transferId : Text) (i : Nat) (t : OutgoingTransfer)
      (found : s.lookup transferId = some (i, t))
      (state : t.state = .waitingForAccept ∨ t.state = .rejected) :
      SendOutcome s (.reject transferId) { s with
        outs := s.outs.set i (withState t .rejected)
        outgoing := s.outgoing.pop t.transferId
        notes := s.notes ++ [⟨i, false, none, some "rejected"⟩] }
  | acked (transferId : Text) (success : Bool) (i : Nat) (t : OutgoingTransfer)
      (found : s.lookup transferId = some (i, t)) (state : t.state = .waitingForCompleteAck) :
      SendOutcome s (.completeAck transferId success) { s with
        outs := s.outs.set i { t with
          ackSuccess := success
          ackEvent := true } }
  | peerAborted (transferId : Text) (i : Nat) (t : OutgoingTransfer)
      (found : s.lookup transferId = some (i, t)) (state : t.state = .sending) :
      SendOutcome s (.completeAck transferId false) (s.failOutgoing "peer_aborted" i)
  | ackDropped (transferId : Text) (success : Bool)
      (unawaited : ∀ i t, s.lookup transferId = some (i, t) → t.state ≠ .waitingForCompleteAck) :
      SendOutcome s (.completeAck transferId success) s
  | peerFailed (addr transferId error : Text) (i : Nat) (t : OutgoingTransfer)
      (found : s.lookup transferId = some (i, t)) :
      SendOutcome s (.peerError addr transferId error) (s.failOutgoing error i)
  | lost (addr : Text) : SendOutcome s (.connectionLost addr) (s.connectionLost addr)
  | broken (k : Nat) (result : SendResult) (read : ReadResult) (task : SendTask)
      (t : OutgoingTransfer) (error : Text) (isTask : s.tasks[k]? = some task)
      (object : s.outs[task.target]? = some t) (breaks : task.breaks result read = true) :
      SendOutcome s (.resumed k result read)
        (({ s with tasks := s.tasks.eraseIdx k }.failOutgoing error task.target).release
          t.transferId)
  | chunkOut (k : Nat) (result : SendResult) (data : Bytes) (task : SendTask)
      (t : OutgoingTransfer) (sequence offset : Nat) (isTask : s.tasks[k]? = some task)
      (streams : task.streams = true) (object : s.outs[task.target]? = some t)
      (state : t.state = .sending) :
      SendOutcome s (.resumed k result (.chunk data)) { s with
        tasks := s.tasks.eraseIdx k ++
          [.chunkSend task.target (sequence + 1) (offset + data.length)]
        out := s.out ++ [.send t.addrKey (.fileData t.transferId sequence offset data)] }
  | doneOut (k : Nat) (result : SendResult) (task : SendTask) (t : OutgoingTransfer)
      (isTask : s.tasks[k]? = some task) (streams : task.streams = true)
      (object : s.outs[task.target]? = some t) (state : t.state = .sending) :
      SendOutcome s (.resumed k result .eof) { s with
        tasks := s.tasks.eraseIdx k ++ [.doneSend task.target]
        out := s.out ++ [.send t.addrKey (.fileDone t.transferId t.checksum)] }
  | awaiting (k : Nat) (result : SendResult) (read : ReadResult) (i : Nat) (t : OutgoingTransfer)
      (task : s.tasks[k]? = some (.doneSend i)) (object : s.outs[i]? = some t)
      (state : t.state = .sending) :
      SendOutcome s (.resumed k result read) { s with
        outs := s.outs.set i (withState t .waitingForCompleteAck)
        tasks := s.tasks.eraseIdx k ++ [.ackWait i] }
  | stopped (e : SendEvent) (k : Nat) (task : SendTask) (t : OutgoingTransfer)
      (resumes : e.task = some k) (isTask : s.tasks[k]? = some task)
      (object : s.outs[task.target]? = some t) (touched : t.state ≠ task.expects) :
      SendOutcome s e { s with
        outgoing := s.outgoing.pop t.transferId
        tasks := s.tasks.eraseIdx k }
  | raised (k : Nat) (result : SendResult) (read : ReadResult) (task : SendTask)
      (t : OutgoingTransfer) (isTask : s.tasks[k]? = some task)
      (object : s.outs[task.target]? = some t)
      (raises : result = .raised ∨ read = .raised ∧ task.streams = true) :
      SendOutcome s (.resumed k result read) { s with
        outgoing := s.outgoing.pop t.transferId
        tasks := s.tasks.eraseIdx k }
  | resolved (k : Nat) (timeout success : Bool) (i : Nat) (t : OutgoingTransfer)
      (path error : Option Text) (task : s.tasks[k]? = some (.ackWait i))
      (object : s.outs[i]? = some t) (state : t.state = .waitingForCompleteAck)
      (verdict : success = (!timeout && t.ackSuccess))
        (woken : timeout = true ∨ t.ackEvent = true) :
      SendOutcome s (.ackWaited k timeout) { s with
        outs := s.outs.set i (withState t (if success then .completed else .failed))
        outgoing := s.outgoing.pop t.transferId
        tasks := s.tasks.eraseIdx k
        notes := s.notes ++ [⟨i, success, path, error⟩] }

variable {k : Nat} {task : SendTask}

theorem next_chunk_outcome
    (isTask : s.tasks[k]? = some task) (target : task.target = i) (streams : task.streams = true)
    (object : s.outs[i]? = some t) (sequence offset : Nat) (result : SendResult) (read : ReadResult)
    (breaks : read = .osError → task.breaks result read = true) :
    SendOutcome s (.resumed k result read)
      ({ s with tasks := s.tasks.eraseIdx k }.nextChunk i t sequence offset read) := by
  subst target
  have expects : task.expects = .sending := by
    cases task <;> simp_all [SendTask.streams, SendTask.expects]
  cases read with
  | osError => exact .broken k result .osError task t _ isTask object (breaks rfl)
  | raised => exact .raised k result .raised task t isTask object (.inr ⟨rfl, streams⟩)
  | chunk data =>
    simp only [nextChunk]
    split
    · rename_i state
      exact .chunkOut k result data task t sequence offset isTask streams object state
    · rename_i touched
      exact .stopped _ k task t rfl isTask object (by rw [expects]; exact touched)
  | eof =>
    simp only [nextChunk]
    split
    · rename_i state
      exact .doneOut k result task t isTask streams object state
    · rename_i touched
      exact .stopped _ k task t rfl isTask object (by rw [expects]; exact touched)

theorem chunk_sent_outcome {sequence offset : Nat}
    (isTask : s.tasks[k]? = some (.chunkSend i sequence offset)) (object : s.outs[i]? = some t)
    (result : SendResult) (read : ReadResult) : SendOutcome s (.resumed k result read)
      ({ s with tasks := s.tasks.eraseIdx k }.chunkSent i t sequence offset result read) := by
  cases result with
  | ok =>
    refine next_chunk_outcome isTask rfl rfl object sequence offset .ok read ?_
    rintro rfl
    rfl
  | failed => exact .broken k .failed read _ t _ isTask object rfl
  | osError => exact .broken k .osError read _ t _ isTask object rfl
  | raised => exact .raised k .raised read _ t isTask object (.inl rfl)

theorem done_sent_outcome (isTask : s.tasks[k]? = some (.doneSend i)) (object : s.outs[i]? = some t)
    (result : SendResult) (read : ReadResult) : SendOutcome s (.resumed k result read)
      ({ s with tasks := s.tasks.eraseIdx k }.doneSent i t result) := by
  unfold doneSent
  split
  · exact .broken k .osError read _ t _ isTask object rfl
  · exact .raised k .raised read _ t isTask object (.inl rfl)
  · by_cases state : t.state = .sending
    · have moved : t.state.transitionTo .waitingForCompleteAck = some .waitingForCompleteAck := by
        rw [state]
        rfl
      rw [moved]
      exact .awaiting k result read i t isTask object state
    · have stuck : t.state.transitionTo .waitingForCompleteAck = none := by
        revert state
        cases t.state <;> simp [transitionTo, allowed]
      rw [stuck]
      exact .stopped _ k _ t rfl isTask object state

theorem offer_sent_outcome
    (isTask : s.tasks[k]? = some (.offerSend i)) (object : s.outs[i]? = some t)
    (result : SendResult) (read : ReadResult) : SendOutcome s (.resumed k result read)
      ({ s with tasks := s.tasks.eraseIdx k }.offerSent i t result) := by
  unfold offerSent
  split
  · rename_i ok
    subst ok
    by_cases state : t.state = .offered
    · have moved : t.state.transitionTo .waitingForAccept = some .waitingForAccept := by
        rw [state]
        rfl
      rw [moved]
      exact .registered k read i t isTask object state
    · have stuck : t.state.transitionTo .waitingForAccept = none := by
        revert state
        cases t.state <;> simp [transitionTo, allowed]
      rw [stuck]
      exact .unsent k .ok read i t isTask object (.inr state)
  · rename_i unsent
    exact .unsent k result read i t isTask object (.inl unsent)

theorem resumed_outcome (host : Host) (s : Sender) (k : Nat) (result : SendResult)
    (read : ReadResult) :
    SendOutcome s (.resumed k result read) (s.step host (.resumed k result read)) := by
  unfold step resume
  dsimp only
  split
  · exact .idle _ rfl
  · rename_i task isTask
    split
    · exact .idle _ rfl
    · rename_i object
      cases task with
      | offerSend => exact offer_sent_outcome isTask object result read
      | chunksStart =>
        refine next_chunk_outcome isTask rfl rfl object _ _ result read ?_
        rintro rfl
        rfl
      | chunkSend => exact chunk_sent_outcome isTask object result read
      | doneSend => exact done_sent_outcome isTask object result read
      | ackWait => exact .idle _ rfl

theorem ack_waited_outcome (host : Host) (s : Sender) (k : Nat) (timeout : Bool) :
    SendOutcome s (.ackWaited k timeout) (s.step host (.ackWaited k timeout)) := by
  unfold step resume
  dsimp only
  split
  · exact .idle _ rfl
  · rename_i task isTask
    split
    · exact .idle _ rfl
    · rename_i t object
      split
      · rename_i fits
        cases task with
        | ackWait i =>
          unfold ackWaited
          split
          · rename_i state
            refine .resolved k timeout _ i t _ _ isTask object state rfl ?_
            simpa [SendTask.awaitsAck] using fits
          · rename_i touched
            exact .stopped _ k _ t rfl isTask object touched
        | offerSend | chunksStart | chunkSend | doneSend => simp [SendTask.awaitsAck] at fits
      · exact .idle _ rfl

theorem handle_accept_outcome (s : Sender) (addr id : Text) (resumeOffset : Option Nat) :
    SendOutcome s (.accept addr id resumeOffset) (s.handleAccept addr id resumeOffset) := by
  unfold handleAccept
  split
  · rename_i absent
    exact .unknown addr id resumeOffset absent
  · rename_i i t found
    dsimp only
    by_cases state : t.state = .waitingForAccept
    · have moved : t.state.transitionTo .sending = some .sending := by
        rw [state]
        rfl
      rw [moved]
      exact .accepted addr id resumeOffset i t (honouredOffset resumeOffset t.size) found state
    · have stuck : t.state.transitionTo .sending = none := by
        revert state
        cases t.state <;> simp [transitionTo, allowed]
      rw [stuck]
      exact .lateAccept addr id resumeOffset i t (honouredOffset resumeOffset t.size) found state

theorem handle_reject_outcome (s : Sender) (id : Text) :
    SendOutcome s (.reject id) (s.handleReject id) := by
  unfold handleReject
  split
  · exact .idle _ rfl
  · rename_i i t found
    by_cases state : t.state = .waitingForAccept ∨ t.state = .rejected
    · have moved : t.state.transitionTo .rejected = some .rejected := by
        rcases state with state | state <;> rw [state] <;> rfl
      rw [moved]
      exact .rejected id i t found state
    · have stuck : t.state.transitionTo .rejected = none := by
        revert state
        cases t.state <;> simp [transitionTo, allowed]
      rw [stuck]
      exact .idle _ rfl

theorem complete_ack_outcome (s : Sender) (id : Text) (success : Bool) :
    SendOutcome s (.completeAck id success) (s.handleCompleteAck id success) := by
  unfold handleCompleteAck
  split
  · rename_i absent
    exact .ackDropped id success (by simp [absent])
  · rename_i i t found
    split
    · rename_i state
      exact .acked id success i t found state
    · rename_i unawaited
      split
      · rename_i aborted
        obtain ⟨state, rfl⟩ := aborted
        exact .peerAborted id i t found state
      · refine .ackDropped id success ?_
        intro _ _ found'
        cases found.symm.trans found'
        exact unawaited

theorem send_outcome (host : Host) (s : Sender) (e : SendEvent) :
    SendOutcome s e (s.step host e) := by
  cases e with
  | offerFile addr filepath id file =>
    cases file with
    | none => exact .idle _ rfl
    | some content => exact .offered addr filepath id (some content) _ _ rfl rfl rfl rfl
  | accept addr id resumeOffset => exact handle_accept_outcome s addr id resumeOffset
  | reject id => exact handle_reject_outcome s id
  | completeAck id success => exact complete_ack_outcome s id success
  | peerError addr id error =>
    unfold step handleError
    dsimp only
    split
    · exact .idle _ rfl
    · rename_i i t found
      split
      · exact .peerFailed addr id error i t found
      · exact .idle _ rfl
  | connectionLost addr => exact .lost addr
  | resumed k result read => exact resumed_outcome host s k result read
  | ackWaited k timeout => exact ack_waited_outcome host s k timeout

theorem step_resumed (isTask : s.tasks[k]? = some task) (object : s.outs[task.target]? = some t)
    (sends : task.awaitsAck = false) (host : Host) (result : SendResult) (read : ReadResult) :
    s.step host (.resumed k result read) =
      { s with tasks := s.tasks.eraseIdx k }.resumed task t result read := by
  simp [step, resume, isTask, object, sends]

theorem step_broken {result : SendResult} {read : ReadResult} (isTask : s.tasks[k]? = some task)
    (object : s.outs[task.target]? = some t) (breaks : task.breaks result read = true)
    (host : Host) : ∃ error, s.step host (.resumed k result read) =
      ({ s with tasks := s.tasks.eraseIdx k }.failOutgoing error task.target).release
        t.transferId := by
  cases task with
  | offerSend | ackWait => simp [SendTask.breaks] at breaks
  | chunksStart =>
    have raises : read = .osError := by simpa [SendTask.breaks] using breaks
    subst raises
    exact ⟨_, step_resumed isTask object rfl host result _⟩
  | doneSend =>
    have raises : result = .osError := by simpa [SendTask.breaks] using breaks
    subst raises
    exact ⟨_, step_resumed isTask object rfl host _ read⟩
  | chunkSend =>
    cases result with
    | ok =>
      have raises : read = .osError := by simpa [SendTask.breaks] using breaks
      subst raises
      exact ⟨_, step_resumed isTask object rfl host _ _⟩
    | failed | osError => exact ⟨_, step_resumed isTask object rfl host _ read⟩
    | raised => simp [SendTask.breaks] at breaks

def Pending (t : OutgoingTransfer) : Prop :=
  t.state = .waitingForAccept ∨ t.state = .sending ∨ t.state = .waitingForCompleteAck

theorem Pending.failable (pending : Pending t) : Failable t := by
  rcases pending with state | state | state
  · exact .inl state
  · exact .inr (.inl state)
  · exact .inr (.inr (.inl state))

/-- A transfer with a suspended coroutine is as the coroutine left it, or it has failed. -/
def SendTask.Holds (task : SendTask) (t : OutgoingTransfer) : Prop :=
  t.state = task.expects ∨ t.state = .failed ∧ task.expects ≠ .offered

/-- The registry lists unresolved transfers, and each suspended coroutine has a transfer
    of its own. -/
structure SaneSender (s : Sender) : Prop where
  listed : Listed Pending OutgoingTransfer.transferId s.outs s.outgoing
  held : ∀ task ∈ s.tasks, ∃ t, s.outs[task.target]? = some t ∧ task.Holds t
  once : (s.tasks.map SendTask.target).Nodup

theorem sane_sender_start (myName : Text) : SaneSender (start myName) where
  listed := listed_nil
  held task member := by simp [start] at member
  once := nodup_nil

theorem sender_lookup_pending (sane : SaneSender s) {id : Text}
    (found : s.lookup id = some (i, t)) :
    s.outs[i]? = some t ∧ Pending t ∧ s.outgoing.get t.transferId = some i := by
  obtain ⟨listed, object⟩ := (sender_lookup_some_iff s id i t).mp found
  obtain ⟨_, object', ident, pending⟩ := sane.listed id i listed
  cases object.symm.trans object'
  exact ⟨object, pending, by rw [ident]; exact listed⟩

theorem waiting_unheld (sane : SaneSender s)
    (object : s.outs[i]? = some t) (state : t.state = .waitingForAccept) :
    ∀ task ∈ s.tasks, task.target ≠ i := by
  intro task member target
  obtain ⟨_, object', holds⟩ := sane.held task member
  rw [target] at object'
  cases object.symm.trans object'
  rcases holds with expected | ⟨failed, _⟩
  · cases task <;> simp [SendTask.expects, state] at expected
  · simp [state] at failed

variable {tasks : List SendTask}

theorem send_held_set {outs : List OutgoingTransfer} (object : outs[i]? = some t)
    (t' : OutgoingTransfer) (held : ∀ task ∈ tasks, ∃ u, outs[task.target]? = some u ∧ task.Holds u)
    (keeps : ∀ task ∈ tasks, task.target = i → task.Holds t → task.Holds t') :
    ∀ task ∈ tasks, ∃ u, (outs.set i t')[task.target]? = some u ∧ task.Holds u := by
  intro task member
  obtain ⟨u, found, holds⟩ := held task member
  by_cases same : task.target = i
  · rw [same] at found ⊢
    cases object.symm.trans found
    exact ⟨t', found_set object, keeps task member same holds⟩
  · exact ⟨u, found_aside found same, holds⟩

section Once
variable (once : (tasks.map SendTask.target).Nodup)
include once

theorem erased_send_target (isTask : tasks[k]? = some task) :
    ∀ other ∈ tasks.eraseIdx k, other.target ≠ task.target := by
  intro other member same
  rw [← filterMap_eq_map] at once
  exact erased_fresh once isTask rfl other member (congrArg some same)

theorem send_once_erased (k : Nat) : ((tasks.eraseIdx k).map SendTask.target).Nodup :=
  once.sublist ((eraseIdx_sublist tasks k).map _)

theorem send_once_add (free : ∀ other ∈ tasks, other.target ≠ task.target) :
    ((tasks ++ [task]).map SendTask.target).Nodup := by
  rw [map_append, map_singleton]
  refine nodup_append.mpr ⟨once, nodup_singleton _, ?_⟩
  intro _ isA _ isB same
  obtain ⟨other, member, target⟩ := mem_map.mp isA
  rw [mem_singleton.mp isB] at same
  exact free other member (target.trans same)

end Once

theorem gave_up_holds (failable : Failable t) (holds : task.Holds t) : task.Holds (gaveUp t) := by
  refine .inr ⟨rfl, ?_⟩
  rcases holds with expected | ⟨_, started⟩
  · rw [← expected]
    rcases failable with state | state | state | state <;> simp [state]
  · exact started

theorem sane_fail_outgoing (sane : SaneSender s)
    (object : s.outs[i]? = some t) (error : Text) : SaneSender (s.failOutgoing error i) := by
  by_cases failable : Failable t
  · rw [fail_outgoing_eq object failable]
    exact ⟨listed_retire sane.listed object _,
      send_held_set object _ sane.held (fun _ _ _ holds => gave_up_holds failable holds), sane.once⟩
  · rw [fail_outgoing_refused object failable]
    exact sane

theorem sane_sender_erase (sane : SaneSender s) (k : Nat) :
    SaneSender { s with tasks := s.tasks.eraseIdx k } where
  listed := sane.listed
  held task member := sane.held task (mem_of_mem_eraseIdx member)
  once := send_once_erased sane.once k

theorem sane_release (sane : SaneSender s) (id : Text) : SaneSender (s.release id) where
  listed := listed_pop sane.listed id
  held := sane.held
  once := sane.once

theorem unchanged {objs : List OutgoingTransfer}
    (object : objs[i]? = some t) : objs = objs.set i t := by
  obtain ⟨_, same⟩ := List.getElem?_eq_some_iff.mp object
  rw [← same, List.set_getElem_self]

theorem sane_sender_move (sane : SaneSender s) {outs : List OutgoingTransfer}
    (isTask : s.tasks[k]? = some task)
    (object : s.outs[task.target]? = some t) (next : SendTask) (t' : OutgoingTransfer)
    (sameTarget : next.target = task.target)
    (updated : outs = s.outs.set task.target t') (sameId : t'.transferId = t.transferId)
    (expected : t'.state = next.expects) (pending' : Pending t') (out : List Output) :
    SaneSender { s with
      outs := outs
      tasks := s.tasks.eraseIdx k ++ [next]
      out := out } where
  listed := by
    rw [updated]
    exact listed_update sane.listed object sameId pending'
  held := by
    rw [updated]
    intro other member
    rcases List.mem_append.mp member with old | new
    · have apart := erased_send_target sane.once isTask other old
      obtain ⟨u, found, holds⟩ := sane.held other (List.mem_of_mem_eraseIdx old)
      exact ⟨u, found_aside found apart, holds⟩
    · cases List.mem_singleton.mp new
      rw [sameTarget]
      exact ⟨t', found_set object, .inl expected⟩
  once := by
    refine send_once_add (send_once_erased sane.once k) ?_
    rw [sameTarget]
    exact erased_send_target sane.once isTask

theorem sender_lost_induction {P : Sender → Prop} {addr : Text}
    (keep : ∀ (s : Sender) (i : Nat) (t : OutgoingTransfer), SaneSender s → P s →
      s.outs[i]? = some t → Pending t → P (s.failOutgoing "connection_lost" i)) (sane :
    SaneSender s) (start : P s) :
    SaneSender (s.connectionLost addr) ∧ P (s.connectionLost addr) := by
  have loop : ∀ (is : List Nat) (s : Sender), is.Nodup → SaneSender s → P s →
      (∀ i ∈ is, ∃ t, s.outs[i]? = some t ∧ Pending t) →
      SaneSender (is.foldl (failOutgoing "connection_lost") s) ∧
        P (is.foldl (failOutgoing "connection_lost") s) := by
    intro is
    induction is with
    | nil => exact fun s _ sane start _ => ⟨sane, start⟩
    | cons i _ ih =>
      intro s distinct sane start all
      obtain ⟨first, distinct⟩ := nodup_cons.mp distinct
      obtain ⟨t, object, pending⟩ := all i mem_cons_self
      refine ih _ distinct (sane_fail_outgoing sane object _)
        (keep s i t sane start object pending) ?_
      intro j member
      obtain ⟨u, objectJ, pendingJ⟩ := all j (mem_cons_of_mem i member)
      have apart : j ≠ i := fun same => first (same ▸ member)
      rw [fail_outgoing_eq object pending.failable]
      exact ⟨u, found_aside objectJ apart, pendingJ⟩
  refine loop _ s ((listed_values_nodup sane.listed).filter _) sane start ?_
  intro i member
  obtain ⟨id, listed⟩ := (Dict.mem_values s.outgoing i).mp (mem_filter.mp member).1
  obtain ⟨t, object, _, pending⟩ := sane.listed id i listed
  exact ⟨t, object, pending⟩

theorem sane_sender_outcome {s' : Sender} {e : SendEvent} (sane : SaneSender s)
    (outcome : SendOutcome s e s') : SaneSender s' := by
  cases outcome with
  | idle | ackDropped => exact sane
  | offered _ _ _ _ t _ state =>
    refine ⟨listed_append sane.listed t, ?_, ?_⟩
    · intro task member
      rcases List.mem_append.mp member with old | new
      · obtain ⟨u, found, holds⟩ := sane.held task old
        exact ⟨u, found_append found, holds⟩
      · cases List.mem_singleton.mp new
        exact ⟨t, by simp [SendTask.target], .inl state⟩
    · refine send_once_add sane.once ?_
      intro other member same
      obtain ⟨_, found, _⟩ := sane.held other member
      have inside := index_lt found
      rw [same] at inside
      simp [SendTask.target] at inside
  | unsent k => exact sane_sender_erase sane k
  | registered k _ _ t task object state =>
    have erased := sane_sender_erase sane k
    have dead : ¬ Pending t := by simp [Pending, state]
    refine ⟨listed_enter erased.listed object dead rfl (.inl rfl), ?_, erased.once⟩
    refine send_held_set object _ erased.held ?_
    intro other member target
    exact absurd target (erased_send_target sane.once task other member)
  | unknown => exact ⟨sane.listed, sane.held, sane.once⟩
  | lateAccept _ _ _ _ _ _ found | acked _ _ _ _ found =>
    obtain ⟨object, pending, _⟩ := sender_lookup_pending sane found
    exact ⟨listed_update sane.listed object rfl pending,
      send_held_set object _ sane.held (fun _ _ _ holds => holds), sane.once⟩
  | accepted _ _ resumeOffset _ t offset found state =>
    obtain ⟨object, _, _⟩ := sender_lookup_pending sane found
    have unheld := waiting_unheld sane object state
    refine ⟨listed_update sane.listed object rfl (.inr (.inl rfl)), ?_,
      send_once_add sane.once unheld⟩
    intro task member
    rcases List.mem_append.mp member with old | new
    · refine send_held_set object _ sane.held ?_ task old
      intro other member target
      exact absurd target (unheld other member)
    · cases List.mem_singleton.mp new
      exact ⟨withState { t with resumeOffset := offset } .sending, found_set object, .inl rfl⟩
  | rejected _ _ t found state =>
    obtain ⟨object, pending, _⟩ := sender_lookup_pending sane found
    have waiting : t.state = .waitingForAccept := by
      rcases state with state | state
      · exact state
      · simp [Pending, state] at pending
    refine ⟨listed_retire sane.listed object _, ?_, sane.once⟩
    refine send_held_set object _ sane.held ?_
    intro other member target
    exact absurd target (waiting_unheld sane object waiting other member)
  | peerAborted _ _ _ found => exact sane_fail_outgoing sane (sender_lookup_pending sane found).1 _
  | peerFailed _ _ _ _ _ found =>
    exact sane_fail_outgoing sane (sender_lookup_pending sane found).1 _
  | lost =>
    exact (sender_lost_induction (P := fun _ => True) (fun _ _ _ _ _ _ _ => trivial) sane trivial).1
  | broken k _ _ task t error _ object =>
    have object' := object
    exact sane_release (sane_fail_outgoing (sane_sender_erase sane k) object' error) _
  | chunkOut _ _ data task t sequence offset isTask _ object state =>
    have sending : Pending t := .inr (.inl state)
    exact sane_sender_move sane isTask object
      (.chunkSend task.target (sequence + 1) (offset + data.length)) t rfl (unchanged object) rfl
      state sending _
  | doneOut _ _ task t isTask _ object state =>
    have sending : Pending t := .inr (.inl state)
    exact sane_sender_move sane isTask object (.doneSend task.target) t rfl (unchanged object) rfl
      state sending _
  | awaiting _ _ _ i t task object =>
    exact sane_sender_move sane task object (.ackWait i)
      (withState t .waitingForCompleteAck) rfl rfl
      rfl rfl (.inr (.inr rfl)) _
  | stopped _ k | raised k => exact sane_release (sane_sender_erase sane k) _
  | resolved k _ _ _ _ _ _ task object =>
    have erased := sane_sender_erase sane k
    refine ⟨listed_retire erased.listed object _, ?_, erased.once⟩
    refine send_held_set object _ erased.held ?_
    intro other member target
    exact absurd target (erased_send_target sane.once task other member)

theorem sane_sender_step {host : Host} (sane : SaneSender s) (e : SendEvent) :
    SaneSender (s.step host e) := sane_sender_outcome sane (send_outcome host s e)

end Peerc.Transfer
