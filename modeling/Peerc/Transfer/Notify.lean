import Peerc.Lib.Ledger
import Peerc.Lib.Runs
import Peerc.Transfer.SendSteps
import Peerc.Transfer.Steps

/-!
How often the end of a transfer is reported. A sending transfer is reported again when its stream
learns of a failure after the transfer has already failed.
-/
namespace Peerc.Transfer
open List Runs Registry Ledger Note

structure Session where
  sender : Sender
  receiver : Receiver

open Session

def Session.start (myName : Text) (disk : Disk Text) : Session :=
  ⟨Sender.start myName, Receiver.start disk⟩

inductive SessionEvent where
  | sending (e : SendEvent)
  | receiving (e : RecvEvent)
  | error (addr transferId : Text) (code : ErrorCode) (io : Io)
  | disconnected (addr : Text) (peer : Option Text) (io : Io)

variable (host : Host) (s : Session)

def Session.handleError (addr transferId : Text) (code : ErrorCode) (io : Io) : Session :=
  if code.terminal then
    if (s.sender.lookup transferId).any (fun found => found.2.addrKey = addr) then
      { s with sender := s.sender.step host (.peerError addr transferId code.reason) }
    else { s with receiver := s.receiver.step host (.peerError addr transferId code.reason io) }
  else s

def Session.step : SessionEvent → Session
  | .sending e => { s with sender := s.sender.step host e }
  | .receiving e => { s with receiver := s.receiver.step host e }
  | .error addr id code io => s.handleError host addr id code io
  | .disconnected addr peer io =>
      { s with
        sender := s.sender.step host (.connectionLost addr)
        receiver := s.receiver.step host (.connectionLost addr peer io) }

def ReportedOnce : Prop :=
  (∀ i, tally transfer s.sender.notes i ≤ 1) ∧
    ∀ i, tally transfer s.receiver.notes i ≤ 1

/-- The stream does not learn of a failed send or an OSError after its transfer failed. -/
def SenderInTime (s : Sender) : SendEvent → Prop
  | .resumed k result read => ∀ task t, s.tasks[k]? = some task → s.outs[task.target]? = some t →
      task.breaks result read = true → t.state ≠ .failed
  | _ => True

def FailsInTime : SessionEvent → Prop
  | .sending e => SenderInTime s.sender e
  | _ => True

def Resolved (t : OutgoingTransfer) : Prop :=
  t.state = .completed ∨ t.state = .failed ∨ t.state = .rejected

variable {t : OutgoingTransfer}

theorem pending_unresolved (pending : Pending t) : ¬ Resolved t := by
  rcases pending with state | state | state <;> simp [Resolved, state]

def Unresolved (outs : List OutgoingTransfer) (i : Nat) : Prop :=
  ∀ t, outs[i]? = some t → ¬ Resolved t

variable {i k : Nat} {t' : OutgoingTransfer}

theorem unresolved_set {outs : List OutgoingTransfer}
    (object : outs[i]? = some t) (before : Resolved t → Resolved t')
    (unresolved : Unresolved (outs.set i t') k) : Unresolved outs k := by
  intro u found resolved
  by_cases same : k = i
  · subst same
    cases object.symm.trans found
    exact unresolved t' (found_set object) (before resolved)
  · exact unresolved u (found_aside found same) resolved

structure Accounted (s : Sender) : Prop where
  sane : SaneSender s
  once : Once transfer (Unresolved s.outs) s.notes
  noted : ∀ i t, s.outs[i]? = some t → t.state = .failed → 0 < tally transfer s.notes i

variable {s s' : Sender}

section Accounted
variable (accounted : Accounted s)
include accounted

theorem accounted_update (sane' : SaneSender s') (object : s.outs[i]? = some t)
    (outs : s'.outs = s.outs.set i t') (notes : s'.notes = s.notes)
    (before : Resolved t → Resolved t') (unfailed : t'.state = .failed → t.state = .failed) :
    Accounted s' where
  sane := sane'
  once := by
    rw [notes, outs]
    exact accounted.once.keep (fun k => unresolved_set object before)
  noted := by
    rw [notes, outs]
    intro k u found failed
    rcases set_cases found with ⟨rfl, rfl⟩ | ⟨_, old⟩
    · exact accounted.noted k t object (unfailed failed)
    · exact accounted.noted k u old failed

theorem accounted_resolve (sane' : SaneSender s') (object : s.outs[i]? = some t)
    (outs : s'.outs = s.outs.set i t') {success : Bool} {path error : Option Text}
    (notes : s'.notes = s.notes ++ [⟨i, success, path, error⟩]) (open_ : ¬ Resolved t)
    (resolved : Resolved t') : Accounted s' where
  sane := sane'
  once := by
    rw [notes, outs]
    refine accounted.once.settle (e := ⟨i, success, path, error⟩) ?_ ?_
      (fun k => unresolved_set object (fun done => absurd done open_))
    · intro _ found
      cases object.symm.trans found
      exact open_
    · exact fun unresolved => unresolved t' (found_set object) resolved
  noted := by
    rw [notes, outs]
    intro k u found failed
    rcases set_cases found with ⟨rfl, rfl⟩ | ⟨_, old⟩
    · rw [tally_concat, if_pos rfl]
      omega
    · rw [tally_concat]
      have before := accounted.noted k u old failed
      omega

theorem accounted_fail (object : s.outs[i]? = some t) (pending : Pending t) (error : Text) :
    Accounted (s.failOutgoing error i) := by
  have sane' := sane_fail_outgoing accounted.sane object error
  rw [fail_outgoing_eq object pending.failable] at sane' ⊢
  exact accounted_resolve accounted sane' object rfl rfl (pending_unresolved pending)
    (.inr (.inl rfl))

theorem accounted_same (sane' : SaneSender s') (outs : s'.outs = s.outs)
    (notes : s'.notes = s.notes) : Accounted s' where
  sane := sane'
  once := by
    rw [outs, notes]
    exact accounted.once
  noted := by
    rw [outs, notes]
    exact accounted.noted

theorem accounted_outcome {e : SendEvent}
    (inTime : SenderInTime s e) (outcome : SendOutcome s e s') : Accounted s' := by
  have sane := accounted.sane
  have sane' := sane_sender_outcome sane outcome
  cases outcome with
  | idle | ackDropped => exact accounted
  | offered _ _ _ _ _ _ state =>
    refine ⟨sane', accounted.once.keep fun k open_ u found => open_ u (found_append found), ?_⟩
    intro k u found failed
    rcases concat_cases found with old | ⟨rfl, rfl⟩
    · exact accounted.noted k u old failed
    · simp [state] at failed
  | unsent | unknown | chunkOut | doneOut | stopped | raised =>
    exact accounted_same accounted sane' rfl rfl
  | registered _ _ _ _ _ object state | awaiting _ _ _ _ _ _ object state =>
    exact accounted_update accounted sane' object rfl rfl (by simp [Resolved, state])
      (by simp [withState])
  | lateAccept _ _ _ _ _ _ found | acked _ _ _ _ found =>
    obtain ⟨object, _⟩ := sender_lookup_pending sane found
    exact accounted_update accounted sane' object rfl rfl (fun done => done) (fun failed => failed)
  | accepted _ _ _ _ _ _ found state =>
    obtain ⟨object, _⟩ := sender_lookup_pending sane found
    exact accounted_update accounted sane' object rfl rfl (by simp [Resolved, state])
      (by simp [withState])
  | rejected _ _ _ found =>
    obtain ⟨object, pending, _⟩ := sender_lookup_pending sane found
    exact accounted_resolve accounted sane' object rfl rfl (pending_unresolved pending)
      (.inr (.inr rfl))
  | peerAborted _ _ _ found state =>
    exact accounted_fail accounted (sender_lookup_pending sane found).1 (.inr (.inl state)) _
  | peerFailed _ _ _ _ _ found =>
    obtain ⟨object, pending, _⟩ := sender_lookup_pending sane found
    exact accounted_fail accounted object pending _
  | lost =>
    exact (sender_lost_induction (P := Accounted)
      (fun s i t _ before object pending => accounted_fail before object pending _)
        sane accounted).2
  | broken k _ _ task t error isTask object breaks =>
    have unfailed := inTime task t isTask object breaks
    obtain ⟨_, object', holds⟩ := sane.held task (mem_of_getElem? isTask)
    cases object.symm.trans object'
    have expected : t.state = task.expects := by
      rcases holds with expected | ⟨failed, _⟩
      · exact expected
      · exact absurd failed unfailed
    have pending : Pending t := by
      unfold Pending
      rw [expected]
      cases task <;> simp [SendTask.breaks, SendTask.expects] at breaks ⊢
    have erased := accounted_same accounted (sane_sender_erase sane k) rfl rfl
    have failed := accounted_fail erased object pending error
    exact accounted_same failed sane' rfl rfl
  | resolved _ _ success _ _ _ _ _ object state =>
    refine accounted_resolve accounted sane' object rfl rfl (by simp [Resolved, state]) ?_
    cases success
    · exact .inr (.inl rfl)
    · exact .inl rfl

theorem late_failure_reported {e : SendEvent} (late : ¬ SenderInTime s e) (host : Host) :
    ∃ i, 1 < tally transfer (s.step host e).notes i := by
  cases e with
  | resumed k =>
    simp only [SenderInTime, not_forall, Decidable.not_not] at late
    obtain ⟨task, t, isTask, object, breaks, failed⟩ := late
    have failable : Failable t := .inr (.inr (.inr failed))
    have object' : ({ s with tasks := s.tasks.eraseIdx k } : Sender).outs[task.target]? = some t :=
      object
    obtain ⟨_, broken⟩ := step_broken isTask object breaks host
    refine ⟨task.target, ?_⟩
    rw [broken, fail_outgoing_eq object' failable]
    have before := accounted.noted _ t object failed
    simp only [Sender.release, tally_concat, if_true]
    omega
  | _ => simp [SenderInTime] at late

end Accounted

def Owed (r : Receiver) (i : Nat) : Prop :=
  r.ins.length ≤ i ∨ (∃ id, r.incoming.get id = some i) ∨ ∃ task ∈ r.tasks, task.target = some i

variable {r : Receiver} {t : IncomingTransfer} {s : Session}

theorem registered_unheld (sane : Sane r) (object : r.ins[i]? = some t) (live : Live t) :
    ∀ task ∈ r.tasks, task.target ≠ some i := by
  intro task member target
  obtain ⟨_, object', holds⟩ := sane.held task member i target
  cases object.symm.trans object'
  exact held_not_live target holds live

theorem popped_unlisted (sane : Sane r) (object : r.ins[i]? = some t) {id : Text}
    (listed : (r.incoming.pop t.transferId).get id = some i) : False := by
  obtain ⟨other, listed⟩ := Dict.of_get_pop listed
  obtain ⟨_, object', ident, _⟩ := sane.listed id i listed
  cases object.symm.trans object'
  exact other ident.symm

theorem owed_from {r' : Receiver} (sameLength : r'.ins.length = r.ins.length)
    (listed : ∀ id, r'.incoming.get id = some k → r.incoming.get id = some k)
    (held : (∃ task ∈ r'.tasks, task.target = some k) → Owed r k) (owed : Owed r' k) :
    Owed r k := by
  rcases owed with beyond | ⟨id, entry⟩ | task
  · exact .inl (sameLength ▸ beyond)
  · exact .inr (.inl ⟨id, listed id entry⟩)
  · exact held task

theorem once_fail_kept (sane : Sane r) (object : r.ins[i]? = some t) (live : Live t)
    (listed : r.incoming.get t.transferId = some i) (host : Host) (io : Io) (lostPeer : Option Text)
    (error : Text) (once : Once transfer (Owed r) r.notes) :
    Once transfer (Owed (Receiver.failKept host io lostPeer error r i))
      (Receiver.failKept host io lostPeer error r i).notes := by
  obtain ⟨_, failed, _⟩ := fail_kept_spec object host io lostPeer error
  rw [failed]
  refine once.settle (e := ⟨i, false, none, some error⟩) (.inr (.inl ⟨_, listed⟩)) ?_ ?_
  · rintro (beyond | ⟨id, again⟩ | ⟨task, member, target⟩)
    · have inside := index_lt object
      simp at beyond
      omega
    · exact popped_unlisted sane object again
    · exact registered_unheld sane object live task member target
  · exact fun _ => owed_from (by simp) (fun _ again => (Dict.of_get_pop again).2)
      (fun held => .inr (.inr held))

theorem owed_added (listed : r.incoming.get t.transferId = some i) {task : RecvTask}
    (target : task.target = some i) (held : ∃ other ∈ r.tasks ++ [task], other.target = some k) :
    Owed r k := by
  obtain ⟨other, member, targetK⟩ := held
  rcases mem_append.mp member with old | new
  · exact .inr (.inr ⟨other, old, targetK⟩)
  · cases mem_singleton.mp new
    cases target.symm.trans targetK
    exact .inr (.inl ⟨_, listed⟩)

theorem owed_erased {n : Nat} {ins : List IncomingTransfer}
    (sameLength : ins.length = r.ins.length) (d : Disk Text) (notes : List Note)
    (out : List Output) (owed : Owed { r with
      disk := d
      ins := ins
      tasks := r.tasks.eraseIdx n
      notes := notes
      out := out } k) : Owed r k := by
  refine owed_from ?_ ?_ ?_ owed
  · exact sameLength
  · exact fun _ entry => entry
  · rintro ⟨task, member, target⟩
    exact .inr (.inr ⟨task, mem_of_mem_eraseIdx member, target⟩)

theorem once_reported (sane : Sane r) {n : Nat} {task : RecvTask}
    (isTask : r.tasks[n]? = some task) (target : task.target = some i)
    (once : Once transfer (Owed r) r.notes) {ins : List IncomingTransfer}
    (sameLength : ins.length = r.ins.length) (d : Disk Text) (success : Bool)
    (path error : Option Text) : Once transfer (Owed { r with
      disk := d
      ins := ins
      tasks := r.tasks.eraseIdx n
      notes := r.notes ++ [⟨i, success, path, error⟩] })
        (r.notes ++ [⟨i, success, path, error⟩]) := by
  have member := List.mem_of_getElem? isTask
  obtain ⟨_, object, holds⟩ := sane.held task member i target
  refine once.settle (e := ⟨i, success, path, error⟩) (.inr (.inr ⟨task, member, target⟩)) ?_
    (fun k => owed_erased sameLength d _ _)
  rintro (beyond | ⟨id, listed⟩ | ⟨other, memberO, targetO⟩)
  · have short : r.ins.length ≤ i := sameLength ▸ beyond
    exact absurd (index_lt object) (Nat.not_lt.mpr short)
  · obtain ⟨_, object', _, live⟩ := sane.listed id i listed
    cases object.symm.trans object'
    exact held_not_live target holds live
  · exact erased_fresh sane.once isTask target other memberO targetO

theorem once_outcome {host : Host} {r' : Receiver} {e : RecvEvent} (sane : Sane r)
    (once : Once transfer (Owed r) r.notes) (outcome : StepOutcome host r e r') :
    Once transfer (Owed r') r'.notes := by
  cases outcome with
  | idle => exact once
  | offered _ _ _ _ _ _ _ answer =>
    refine once.keep (fun _ => owed_from rfl (fun _ entry => entry) ?_)
    rintro ⟨task, member, target⟩
    cases answer with
    | rejected => exact .inr (.inr ⟨task, member, target⟩)
    | asked =>
      rcases mem_append.mp member with old | new
      · exact .inr (.inr ⟨task, old, target⟩)
      · cases mem_singleton.mp new
        cases target
  | declined _ _ _ d => exact once.keep (fun _ => owed_erased rfl d r.notes _)
  | unopened _ _ _ d => exact once.keep (fun _ => owed_erased rfl d r.notes r.out)
  | accepted =>
    refine once.keep ?_
    rintro j (beyond | ⟨id, listed⟩ | ⟨other, member, target⟩)
    · simp at beyond
      exact .inl (by omega)
    · rw [Dict.get_set] at listed
      split at listed
      · cases listed
        exact .inl (Nat.le_refl _)
      · exact .inr (.inl ⟨id, listed⟩)
    · exact .inr (.inr ⟨other, mem_of_mem_eraseIdx member, target⟩)
  | chunk addr id _ _ _ _ _ outcome =>
    cases outcome with
    | reported => exact once
    | taken =>
      exact once.keep (fun _ => owed_from (by simp) (fun _ entry => entry)
        (fun held => .inr (.inr held)))
    | aborted _ _ _ _ _ found =>
      obtain ⟨_, _, listed⟩ := lookup_live sane found
      exact once.keep (fun _ => owed_from (by simp) (fun _ again => (Dict.of_get_pop again).2)
        (owed_added listed rfl))
  | done addr id _ _ outcome =>
    cases outcome with
    | reported => exact once
    | raised =>
      exact once.keep (fun _ => owed_from (by simp) (fun _ again => (Dict.of_get_pop again).2)
        (fun held => .inr (.inr held)))
    | hashed _ _ _ _ _ _ _ found =>
      obtain ⟨_, _, listed⟩ := lookup_live sane found
      exact once.keep (fun _ => owed_from (by simp) (fun _ again => (Dict.of_get_pop again).2)
        (owed_added listed rfl))
  | sendRaised | orphaned => exact once.keep (fun _ => owed_erased rfl r.disk r.notes r.out)
  | abortNoted _ _ _ _ reason task =>
    exact once_reported sane task rfl once rfl r.disk false none (some reason)
  | finished _ _ _ _ _ _ _ task _ outcome =>
    cases outcome with
    | finalized => exact once_reported sane task rfl once (by simp) _ true _ none
    | raised => exact once.keep (fun _ => owed_erased rfl r.disk r.notes r.out)
    | refused => exact once_reported sane task rfl once (by simp) _ false none _
  | lost _ peer io =>
    exact (connection_lost_induction (P := fun r => Once transfer (Owed r) r.notes)
      (fun r i t sane once object live listed _ =>
        once_fail_kept sane object live listed host io peer _ once) sane once).2
  | failed _ _ error io _ _ found =>
    obtain ⟨object, live, listed⟩ := lookup_live sane found
    exact once_fail_kept sane object live listed host io none error once

structure Booked (s : Session) : Prop where
  sender : Accounted s.sender
  sane : Sane s.receiver
  once : Once transfer (Owed s.receiver) s.receiver.notes

theorem booked_start (myName : Text) (disk : Disk Text) : Booked (start myName disk) where
  sender := ⟨sane_sender_start myName, once_nil, by simp [start, Sender.start]⟩
  sane := sane_start disk
  once := once_nil

theorem booked_sending (booked : Booked s) (e : SendEvent) (inTime : SenderInTime s.sender e) :
    Booked { s with sender := s.sender.step host e } :=
  ⟨accounted_outcome booked.sender inTime (send_outcome host s.sender e), booked.sane, booked.once⟩

theorem booked_receiving (booked : Booked s) (e : RecvEvent) :
    Booked { s with receiver := s.receiver.step host e } :=
  ⟨booked.sender, sane_step booked.sane e,
    once_outcome booked.sane booked.once (step_outcome host s.receiver e)⟩

theorem booked_step {host : Host} {e : SessionEvent} (booked : Booked s)
    (inTime : FailsInTime s e) :
    Booked (s.step host e) := by
  cases e with
  | sending e => exact booked_sending host booked e inTime
  | receiving e => exact booked_receiving host booked e
  | error =>
    unfold step handleError
    dsimp only
    split
    · split
      · exact booked_sending host booked _ trivial
      · exact booked_receiving host booked _
    · exact booked
  | disconnected addr =>
    exact booked_receiving host (booked_sending host booked (.connectionLost addr) trivial) _

theorem booked_reported_once (booked : Booked s) : ReportedOnce s :=
  ⟨booked.sender.once.atMost, booked.once.atMost⟩

theorem reported_once_iff (host : Host) (myName : Text) (disk : Disk Text)
    (es : List SessionEvent) :
    Everywhere (step host) ReportedOnce (start myName disk) es ↔
      Along (step host) FailsInTime (start myName disk) es := by
  refine everywhere_iff_along (fun s (booked : Booked s) => booked_reported_once booked)
    (fun _ _ booked inTime => booked_step booked inTime) ?_ (booked_start myName disk) es
  intro _ e booked late once
  cases e with
  | sending =>
    obtain ⟨i, _⟩ := late_failure_reported booked.sender late host
    have atMost := once.1 i
    simp only [step] at atMost
    omega
  | receiving | error | disconnected => exact late trivial

def lostWhileSending : List SessionEvent :=
  [.sending (.offerFile "A" "f" "t" (some [1])),
    .sending (.resumed 0 .ok .eof), .sending (.accept "A" "t" (some 0)),
    .sending (.resumed 0 .ok (.chunk [1])), .disconnected "A" none (Io.sample 0),
    .sending (.resumed 0 .failed .eof)]

theorem lost_connection_reported_twice : ¬ Everywhere (step Host.sample) ReportedOnce
      (start "me" Disk.empty) lostWhileSending := by
  intro all
  have once := (all lostWhileSending (prefix_refl _)).1 0
  have notes : (run (step Host.sample) (start "me" Disk.empty)
      lostWhileSending).sender.notes = [⟨0, false, none, some "connection_lost"⟩,
        ⟨0, false, none, some "send_failed"⟩] := by decide +kernel
  rw [notes] at once
  simp [tally] at once

end Peerc.Transfer
