import Peerc.Transfer.SendSteps
import Peerc.Transfer.Wire

/-!
The sender of the code is the sender of the exchange: every event of a connection that stays up
is a move of the abstract sender.
-/
namespace Peerc.Transfer
open List Registry OutgoingTransfer Message

/-- An acknowledgement is not noted before it is awaited. -/
inductive SendAt (s : Sender) (i : Nat) (t : OutgoingTransfer) : SendPhase → Prop
  | offering (state : t.state = .offered) (unset : t.ackEvent = false)
      (task : .offerSend i ∈ s.tasks) : SendAt s i t .offering
  | waiting (state : t.state = .waitingForAccept) (unset : t.ackEvent = false)
      (entry : s.outgoing.get t.transferId = some i) : SendAt s i t .waiting
  | streaming (task : SendTask) (state : t.state = .sending) (unset : t.ackEvent = false)
      (entry : s.outgoing.get t.transferId = some i) (member : task ∈ s.tasks)
      (streams : task.streams = true) (target : task.target = i) : SendAt s i t .streaming
  | finishing (state : t.state = .sending) (unset : t.ackEvent = false)
      (entry : s.outgoing.get t.transferId = some i) (task : .doneSend i ∈ s.tasks) :
      SendAt s i t .finishing
  | awaiting (state : t.state = .waitingForCompleteAck)
      (entry : s.outgoing.get t.transferId = some i) (task : .ackWait i ∈ s.tasks) :
      SendAt s i t (.awaiting (if t.ackEvent then some t.ackSuccess else none))
  | completed (state : t.state = .completed) : SendAt s i t .completed
  | resolved (state : t.state = .failed ∨ t.state = .rejected) : SendAt s i t .over
  | abandoned (state : t.state = .sending) (unheld : ∀ task ∈ s.tasks, task.target ≠ i) :
      SendAt s i t .over

def SendEvent.connected : SendEvent → Prop
  | .connectionLost _ => False
  | .resumed _ result _ => result = .ok
  | .ackWaited _ timeout => timeout = false
  | _ => True

def Moves (s s' : Sender) (e : SendEvent) (i : Nat) (t : OutgoingTransfer) (p : SendPhase) : Prop :=
  ∃ t' p' os, s'.outs[i]? = some t' ∧ t'.transferId = t.transferId ∧ SendAt s' i t' p' ∧
    s'.out = s.out ++ os ∧ ∀ reported, SendMove (e.reply t.transferId) p
      ((transmit reported os).2.filterMap (signal t.transferId)) p'

variable {s s' : Sender} {e : SendEvent} {i : Nat} {t : OutgoingTransfer} {p : SendPhase}

theorem SendAt.frame (here : SendAt s i t p)
    (tasks : ∀ task : SendTask, task.target = i → (task ∈ s'.tasks ↔ task ∈ s.tasks))
    (entry : s'.outgoing.get t.transferId = s.outgoing.get t.transferId) : SendAt s' i t p := by
  cases here with
  | offering state unset task => exact .offering state unset ((tasks _ rfl).mpr task)
  | waiting state unset listed => exact .waiting state unset (entry.trans listed)
  | streaming task state unset listed member streams target =>
    exact .streaming task state unset (entry.trans listed) ((tasks task target).mpr member) streams
      target
  | finishing state unset listed task =>
    exact .finishing state unset (entry.trans listed) ((tasks _ rfl).mpr task)
  | awaiting state listed task =>
    exact .awaiting state (entry.trans listed) ((tasks _ rfl).mpr task)
  | completed state => exact .completed state
  | resolved state => exact .resolved state
  | abandoned state unheld =>
    refine .abandoned state ?_
    intro task member target
    exact unheld task ((tasks task target).mp member) target

structure Elsewhere (s s' : Sender) (e : SendEvent) (i₀ : Nat) (id : Text) : Prop where
  outs : ∀ j, j ≠ i₀ → s'.outs[j]? = s.outs[j]?
  tasks : ∀ task : SendTask, task.target ≠ i₀ → (task ∈ s'.tasks ↔ task ∈ s.tasks)
  entries : ∀ other, other ≠ id → s'.outgoing.get other = s.outgoing.get other
  reply : ∀ other, other ≠ id → e.reply other = none
  said : ∃ os, s'.out = s.out ++ os ∧ ∀ reported, ∀ m ∈ (transmit reported os).2,
    ∀ other, other ≠ id → m.signal other = none

variable {i₀ : Nat} {t₀ : OutgoingTransfer}

theorem distinct_ids (distinct : (s.outs.map transferId).Nodup)
    (object₀ : s.outs[i₀]? = some t₀)
    (object : s.outs[i]? = some t) (other : i ≠ i₀) : t.transferId ≠ t₀.transferId := by
  intro same
  have inside := index_lt object
  apply other
  refine (List.getElem?_inj (by simpa using inside) distinct).mp ?_
  simp [object, object₀, same]

variable {id : Text}

theorem moves_elsewhere (elsewhere : Elsewhere s s' e i₀ id)
    (object : s.outs[i]? = some t) (here : SendAt s i t p) (other : i ≠ i₀)
    (otherId : t.transferId ≠ id) : Moves s s' e i t p := by
  obtain ⟨os, out, said⟩ := elsewhere.said
  refine ⟨t, p, os, (elsewhere.outs i other).trans object, rfl, ?_, out, ?_⟩
  · refine here.frame ?_ (elsewhere.entries _ otherId)
    intro task target
    exact elsewhere.tasks task (fun same => other (target.symm.trans same))
  · intro reported
    have silent : (transmit reported os).2.filterMap (signal t.transferId) = [] := by
      rw [filterMap_eq_nil_iff]
      exact fun m member => said reported m member _ otherId
    rw [silent, elsewhere.reply _ otherId]
    exact .stay p

theorem moves_one (distinct : (s.outs.map transferId).Nodup)
    (object₀ : s.outs[i₀]? = some t₀) (elsewhere : Elsewhere s s' e i₀ t₀.transferId)
    (itself : ∀ p₀, SendAt s i₀ t₀ p₀ → Moves s s' e i₀ t₀ p₀) (object : s.outs[i]? = some t)
    (here : SendAt s i t p) : Moves s s' e i t p := by
  by_cases same : i = i₀
  · subst same
    cases object₀.symm.trans object
    exact itself p here
  · exact moves_elsewhere elsewhere object here same (distinct_ids distinct object₀ object same)

theorem others_kept {outs : List OutgoingTransfer} (t' : OutgoingTransfer) :
    ∀ j, j ≠ i₀ → (outs.set i₀ t')[j]? = outs[j]? :=
  fun _ other => getElem?_set_ne (fun same => other same.symm)

variable {k : Nat}

theorem tasks_erased {tasks : List SendTask} {task₀ : SendTask} (isTask : tasks[k]? = some task₀) :
    ∀ task : SendTask, task.target ≠ task₀.target → (task ∈ tasks.eraseIdx k ↔ task ∈ tasks) :=
  fun _ other => mem_eraseIdx_other isTask (fun same => other (congrArg SendTask.target same))

theorem tasks_added {tasks old : List SendTask}
    (before : ∀ task : SendTask, task.target ≠ i₀ → (task ∈ tasks ↔ task ∈ old)) {next : SendTask}
    (target : next.target = i₀) :
    ∀ task : SendTask, task.target ≠ i₀ → (task ∈ tasks ++ [next] ↔ task ∈ old) := by
  intro task other
  rw [mem_append, before task other, mem_singleton, or_iff_left]
  rintro rfl
  exact other target

theorem entries_popped (outgoing : Dict Text Nat) (id : Text) :
    ∀ other, other ≠ id → (outgoing.pop id).get other = outgoing.get other := by
  intro _ different
  rw [Dict.get_pop, if_neg different]

theorem said_nothing (out : List Output) (id : Text) :
    ∃ os, out = out ++ os ∧ ∀ reported, ∀ m ∈ (transmit reported os).2,
      ∀ other, other ≠ id → m.signal other = none :=
  ⟨[], by simp, by simp [transmit]⟩

theorem said_one (out : List Output) (addr id : Text) {m : Message}
    (about : ∀ other, other ≠ id → m.signal other = none) :
    ∃ os, out ++ [.send addr m] = out ++ os ∧ ∀ reported, ∀ m ∈ (transmit reported os).2,
      ∀ other, other ≠ id → m.signal other = none := by
  refine ⟨[.send addr m], rfl, ?_⟩
  intro _ _ member
  rw [transmit_send, mem_singleton] at member
  subst member
  exact about

theorem lookup_id (sane : SaneSender s)
    (found : s.lookup id = some (i₀, t₀)) : t₀.transferId = id := by
  obtain ⟨listed, object⟩ := (sender_lookup_some_iff s id i₀ t₀).mp found
  obtain ⟨_, object', ident, _⟩ := sane.listed id i₀ listed
  cases object.symm.trans object'
  exact ident

theorem SendAt.offered (here : SendAt s i t p) (state : t.state = .offered) :
    p = .offering ∧ t.ackEvent = false := by
  cases here with
  | offering _ unset => exact ⟨rfl, unset⟩
  | resolved ended => simp [state] at ended
  | waiting other | streaming _ other | finishing other | awaiting other | completed other
  | abandoned other => simp [state] at other

theorem SendAt.waitingForAccept (here : SendAt s i t p) (state : t.state = .waitingForAccept) :
    p = .waiting ∧ t.ackEvent = false ∧ s.outgoing.get t.transferId = some i := by
  cases here with
  | waiting _ unset entry => exact ⟨rfl, unset, entry⟩
  | resolved ended => simp [state] at ended
  | offering other | streaming _ other | finishing other | awaiting other | completed other
  | abandoned other => simp [state] at other

theorem SendAt.waitingForCompleteAck (here : SendAt s i t p)
    (state : t.state = .waitingForCompleteAck) :
    p = .awaiting (if t.ackEvent then some t.ackSuccess else none) ∧
      s.outgoing.get t.transferId = some i ∧ .ackWait i ∈ s.tasks := by
  cases here with
  | awaiting _ entry task => exact ⟨rfl, entry, task⟩
  | resolved ended => simp [state] at ended
  | offering other | waiting other | streaming _ other | finishing other | completed other
  | abandoned other => simp [state] at other

variable {task : SendTask}

theorem SendAt.sending (here : SendAt s i t p) (state : t.state = .sending) (sane : SaneSender s)
    (isTask : s.tasks[k]? = some task) (target : task.target = i) :
    t.ackEvent = false ∧ s.outgoing.get t.transferId = some i ∧
      p = if task.streams then .streaming else .finishing := by
  have only : ∀ other ∈ s.tasks, other.target = i → other = task := by
    intro other member same
    by_contra different
    exact erased_send_target sane.once isTask other
      ((mem_eraseIdx_other isTask different).mpr member) (same.trans target.symm)
  cases here with
  | streaming other _ unset entry member streams same =>
    refine ⟨unset, entry, ?_⟩
    rw [← only other member same, streams]
    rfl
  | finishing _ unset entry member =>
    refine ⟨unset, entry, ?_⟩
    rw [← only _ member rfl]
    rfl
  | abandoned _ unheld => exact absurd target (unheld task (mem_of_getElem? isTask))
  | resolved ended => simp [state] at ended
  | offering other | waiting other | awaiting other | completed other => simp [state] at other

theorem SendAt.failed (here : SendAt s i t p) (state : t.state = .failed) : p = .over := by
  cases here with
  | resolved | abandoned => rfl
  | offering other | waiting other | streaming _ other | finishing other | awaiting other
  | completed other => simp [state] at other

theorem SendAt.unfailed (here : SendAt s i t p) (notOver : p ≠ .over) :
    ¬ (t.state = .failed ∨ t.state = .rejected) := by
  cases here with
  | offering state | waiting state | streaming _ state | finishing state | awaiting state
  | completed state => simp [state]
  | resolved | abandoned => exact absurd rfl notOver

theorem SendAt.resumeOffset (here : SendAt s i t p) (offset : Nat) :
    SendAt { s with outs := s.outs.set i { t with resumeOffset := offset } } i
      { t with resumeOffset := offset } p := by
  cases here with
  | offering state unset task => exact .offering state unset task
  | waiting state unset entry => exact .waiting state unset entry
  | streaming task state unset entry member streams target =>
    exact .streaming task state unset entry member streams target
  | finishing state unset entry task => exact .finishing state unset entry task
  | awaiting state entry task => exact .awaiting state entry task
  | completed state => exact .completed state
  | resolved state => exact .resolved state
  | abandoned state unheld => exact .abandoned state unheld

theorem idle_move (other : e.isAnswer = false) (id : Text) (p : SendPhase) :
    SendMove (e.reply id) p [] p := by
  cases e with
  | accept | completeAck => cases other
  | reject =>
    simp only [SendEvent.reply]
    split
    · exact .rejectDropped p
    · exact .stay p
  | peerError =>
    simp only [SendEvent.reply]
    split
    · exact .errorDropped p
    · exact .stay p
  | offerFile | connectionLost | resumed | ackWaited => exact .stay p

theorem moves_idle (object : s.outs[i]? = some t) (here : SendAt s i t p)
    (move : SendMove (e.reply t.transferId) p [] p) : Moves s s e i t p :=
  ⟨t, p, [], object, rfl, here, by simp, fun _ => move⟩

theorem moves_set (object : s.outs[i]? = some t) {t' : OutgoingTransfer} {p' : SendPhase}
    (outs : s'.outs = s.outs.set i t') (out : s'.out = s.out)
    (sameId : t'.transferId = t.transferId) (there : SendAt s' i t' p')
    (move : SendMove (e.reply t.transferId) p [] p') : Moves s s' e i t p := by
  exact ⟨t', p', [], outs ▸ found_set object, sameId, there, by simp [out], fun _ => move⟩

theorem streaming_expects (streams : task.streams = true) : task.expects = .sending := by
  cases task <;> simp_all [SendTask.streams, SendTask.expects]

theorem touched_failed (sane : SaneSender s)
    (isTask : s.tasks[k]? = some task) (object₀ : s.outs[task.target]? = some t₀)
    (touched : t₀.state ≠ task.expects) : t₀.state = .failed := by
  obtain ⟨_, object', holds⟩ := sane.held task (mem_of_getElem? isTask)
  cases object₀.symm.trans object'
  rcases holds with expected | ⟨failed, _⟩
  · exact absurd expected touched
  · exact failed

theorem broken_held (sane : SaneSender s) {read : ReadResult} (isTask : s.tasks[k]? = some task)
    (object₀ : s.outs[task.target]? = some t₀) (breaks : task.breaks .ok read = true) :
    task.streams = true ∧ (t₀.state = .sending ∨ t₀.state = .failed) := by
  have streams : task.streams = true := by
    cases task <;> simp_all [SendTask.breaks, SendTask.streams]
  refine ⟨streams, ?_⟩
  by_cases state : t₀.state = .sending
  · exact .inl state
  · exact .inr (touched_failed sane isTask object₀ (streaming_expects streams ▸ state))

section Outcomes
variable (sane : SaneSender s) (distinct : (s.outs.map transferId).Nodup)
include sane distinct

theorem moves_answered {answer : Reply} {t' : OutgoingTransfer}
    (answers : ∀ other, e.reply other = if id = other then some answer else none)
    (found : s.lookup id = some (i₀, t₀)) (outs : s'.outs = s.outs.set i₀ t') (out : s'.out = s.out)
    (sameId : t'.transferId = t₀.transferId)
    (tasks : ∀ task : SendTask, task.target ≠ i₀ → (task ∈ s'.tasks ↔ task ∈ s.tasks))
    (entries : ∀ other, other ≠ t₀.transferId → s'.outgoing.get other = s.outgoing.get other)
    (itself : ∀ p₀, SendAt s i₀ t₀ p₀ → ∃ p', SendAt s' i₀ t' p' ∧ SendMove (some answer) p₀ [] p')
    (object : s.outs[i]? = some t) (here : SendAt s i t p) : Moves s s' e i t p := by
  obtain ⟨object₀, _, _⟩ := sender_lookup_pending sane found
  have ident := lookup_id sane found
  refine moves_one distinct object₀ ⟨?_, tasks, entries, ?_, ?_⟩ ?_ object here
  · rw [outs]
    exact others_kept _
  · intro _ different
    rw [answers, if_neg (fun same => different (same.symm.trans ident.symm))]
  · rw [out]
    exact said_nothing _ _
  · intro p₀ at₀
    obtain ⟨_, there, move⟩ := itself p₀ at₀
    refine moves_set object₀ outs out sameId there ?_
    rw [answers, if_pos ident.symm]
    exact move

theorem moves_stopped (quiet : ∀ other, e.reply other = none) (isTask : s.tasks[k]? = some task)
    (object₀ : s.outs[task.target]? = some t₀) (touched : t₀.state ≠ task.expects)
    (object : s.outs[i]? = some t) (here : SendAt s i t p) : Moves s { s with
      outgoing := s.outgoing.pop t₀.transferId
      tasks := s.tasks.eraseIdx k } e i t p := by
  have failed := touched_failed sane isTask object₀ touched
  refine moves_one distinct object₀ ⟨fun _ _ => rfl, tasks_erased isTask, entries_popped _ _,
    fun other _ => quiet other, said_nothing _ _⟩ ?_ object here
  intro _ at₀
  cases at₀.failed failed
  refine ⟨t₀, .over, [], object₀, rfl, .resolved (.inl failed), by simp, ?_⟩
  intro _
  rw [quiet]
  exact .stay .over

theorem accept_moves {addr : Text} {resumeOffset : Option Nat}
    (outcome : SendOutcome s (.accept addr id resumeOffset) s')
    (object : s.outs[i]? = some t) (here : SendAt s i t p) :
    Moves s s' (.accept addr id resumeOffset) i t p := by
  cases outcome with
  | idle _ other => cases other
  | unknown addr id _ absent =>
    refine ⟨t, p, [.report addr .transferNotFound id], object, rfl,
      here.frame (fun _ _ => Iff.rfl) rfl, rfl, ?_⟩
    intro reported
    simp only [SendEvent.reply]
    split
    · rename_i same
      subst same
      refine .unknown p _ ?_
      rintro rfl
      cases here with
      | waiting _ _ entry =>
        rw [(sender_lookup_some_iff s _ i t).mpr ⟨entry, object⟩] at absent
        cases absent
    · rename_i other
      have silent : (transmit reported [.report addr .transferNotFound id]).2.filterMap
          (signal t.transferId) = [] := by
        rw [filterMap_eq_nil_iff]
        intro m member
        rw [transmit_report reported addr _ id m member]
        simp [signal, other]
      rw [silent]
      exact .stay p
  | lateAccept _ _ _ _ _ offset found late =>
    refine moves_answered sane distinct (fun _ => rfl) found rfl rfl rfl (fun _ _ => Iff.rfl)
      (fun _ _ => rfl) ?_ object here
    intro p₀ at₀
    refine ⟨p₀, at₀.resumeOffset offset, .unknown p₀ [] ?_⟩
    rintro rfl
    cases at₀ with
    | waiting state => exact late state
  | accepted _ _ _ i₀ _ _ found state =>
    refine moves_answered sane distinct (fun _ => rfl) found rfl rfl rfl
      (tasks_added (fun _ _ => Iff.rfl) rfl) (fun _ _ => rfl) ?_ object here
    intro _ at₀
    obtain ⟨rfl, unset, entry⟩ := at₀.waitingForAccept state
    exact ⟨.streaming, .streaming (.chunksStart i₀) rfl unset entry (by simp) rfl rfl, .accepted⟩
  | stopped _ _ _ _ resumes => cases resumes

theorem ack_moves {success : Bool}
    (outcome : SendOutcome s (.completeAck id success) s') (object : s.outs[i]? = some t)
    (here : SendAt s i t p) : Moves s s' (.completeAck id success) i t p := by
  cases outcome with
  | idle _ other => cases other
  | acked _ success _ _ found state =>
    refine moves_answered sane distinct (fun _ => rfl) found rfl rfl rfl (fun _ _ => Iff.rfl)
      (fun _ _ => rfl) ?_ object here
    intro _ at₀
    obtain ⟨rfl, entry, task⟩ := at₀.waitingForCompleteAck state
    exact ⟨_, .awaiting state entry task, .acked _ success⟩
  | peerAborted _ _ _ found state =>
    obtain ⟨object₀, pending, _⟩ := sender_lookup_pending sane found
    rw [fail_outgoing_eq object₀ pending.failable]
    refine moves_answered sane distinct (fun _ => rfl) found rfl rfl rfl (fun _ _ => Iff.rfl)
      (entries_popped _ _) ?_ object here
    intro _ at₀
    refine ⟨.over, .resolved (.inl rfl), ?_⟩
    cases at₀ with
    | streaming => exact .aborted .streaming (.inl rfl)
    | finishing => exact .aborted .finishing (.inr rfl)
    | abandoned | resolved => exact .ackDropped false .over (by simp)
    | offering other | waiting other | awaiting other | completed other => simp [state] at other
  | ackDropped _ success unawaited =>
    refine moves_idle object here ?_
    simp only [SendEvent.reply]
    split
    · rename_i same
      subst same
      refine .ackDropped success p ?_
      rintro _ rfl
      cases here with
      | awaiting state entry =>
        exact unawaited i t ((sender_lookup_some_iff s _ i t).mpr ⟨entry, object⟩) state
    · exact .stay p
  | stopped _ _ _ _ resumes => cases resumes

theorem resumed_moves {read : ReadResult}
    (outcome : SendOutcome s (.resumed k .ok read) s') (object : s.outs[i]? = some t)
    (here : SendAt s i t p) : Moves s s' (.resumed k .ok read) i t p := by
  cases outcome with
  | idle _ other => exact moves_idle object here (idle_move other _ p)
  | unsent _ _ _ _ _ task object₀ reason =>
    obtain ⟨_, object', holds⟩ := sane.held _ (mem_of_getElem? task)
    cases object₀.symm.trans object'
    rcases reason with failed | touched
    · exact absurd rfl failed
    · rcases holds with offered | ⟨_, started⟩
      · exact absurd offered touched
      · exact absurd rfl started
  | registered _ _ _ _ task object₀ state =>
    refine moves_one distinct object₀ ⟨others_kept _, tasks_erased task,
      fun _ other => (Dict.get_set _ _ _ _).trans (if_neg other), fun _ _ => rfl,
      said_nothing _ _⟩ ?_ object here
    intro _ at₀
    obtain ⟨rfl, unset⟩ := at₀.offered state
    refine moves_set object₀ rfl rfl rfl (.waiting rfl unset ?_) .offerSent
    exact (Dict.get_set _ _ _ _).trans (if_pos rfl)
  | broken k _ _ task t₀ _ isTask object₀ breaks =>
    obtain ⟨streams, held⟩ := broken_held sane isTask object₀ breaks
    have object₁ : ({ s with tasks := s.tasks.eraseIdx k } : Sender).outs[task.target]? = some t₀ :=
      object₀
    have failable : Failable t₀ := by
      rcases held with sending | failed
      · exact .inr (.inl sending)
      · exact .inr (.inr (.inr failed))
    rw [fail_outgoing_eq object₁ failable]
    refine moves_one distinct object₀ ⟨others_kept _, tasks_erased isTask, ?_, fun _ _ => rfl,
      said_nothing _ _⟩ ?_ object here
    · intro other different
      rw [Sender.release, entries_popped _ _ other different, entries_popped _ _ other different]
    · intro _ at₀
      refine moves_set object₀ rfl rfl rfl (.resolved (.inl rfl)) ?_
      rcases held with sending | failed
      · obtain ⟨_, _, phase⟩ := at₀.sending sending sane isTask rfl
        rw [streams, if_pos rfl] at phase
        subst phase
        exact .giveUp
      · cases at₀.failed failed
        exact .stay .over
  | chunkOut _ _ _ _ t₀ _ _ isTask streams object₀ state =>
    refine moves_one distinct object₀ ⟨fun _ _ => rfl, tasks_added (tasks_erased isTask) rfl,
      fun _ _ => rfl, fun _ _ => rfl, said_one _ _ _ ?_⟩ ?_ object here
    · intro _ different
      simp [signal, different.symm]
    · intro _ at₀
      obtain ⟨unset, entry, phase⟩ := at₀.sending state sane isTask rfl
      rw [streams, if_pos rfl] at phase
      subst phase
      refine ⟨t₀, .streaming, [_], object₀, rfl,
        .streaming _ state unset entry (mem_append_right _ (mem_singleton.mpr rfl)) rfl rfl,
        rfl, ?_⟩
      intro _
      simpa [transmit_send, signal, SendEvent.reply] using SendMove.data
  | doneOut _ _ _ t₀ isTask streams object₀ state =>
    refine moves_one distinct object₀ ⟨fun _ _ => rfl, tasks_added (tasks_erased isTask) rfl,
      fun _ _ => rfl, fun _ _ => rfl, said_one _ _ _ ?_⟩ ?_ object here
    · intro _ different
      simp [signal, different.symm]
    · intro _ at₀
      obtain ⟨unset, entry, phase⟩ := at₀.sending state sane isTask rfl
      rw [streams, if_pos rfl] at phase
      subst phase
      refine ⟨t₀, .finishing, [_], object₀, rfl,
        .finishing state unset entry (mem_append_right _ (mem_singleton.mpr rfl)), rfl, ?_⟩
      intro _
      simpa [transmit_send, signal, SendEvent.reply] using SendMove.done
  | awaiting _ _ _ _ t₀ task object₀ state =>
    refine moves_one distinct object₀ ⟨others_kept _, tasks_added (tasks_erased task) rfl,
      fun _ _ => rfl, fun _ _ => rfl, said_nothing _ _⟩ ?_ object here
    intro _ at₀
    obtain ⟨unset, entry, rfl⟩ := at₀.sending state sane task rfl
    have move : SendMove none .finishing []
        (.awaiting (if (withState t₀ .waitingForCompleteAck).ackEvent then
          some (withState t₀ .waitingForCompleteAck).ackSuccess else none)) := by
      simpa [withState, unset] using SendMove.doneSent
    exact moves_set object₀ rfl rfl rfl (.awaiting rfl entry (by simp)) move
  | stopped _ _ _ t₀ resumes isTask object₀ touched =>
    cases resumes
    exact moves_stopped sane distinct (fun _ => rfl) isTask object₀ touched object here
  | raised _ _ _ task t₀ isTask object₀ raises =>
    have streams : task.streams = true := by
      rcases raises with raised | ⟨_, streams⟩
      · cases raised
      · exact streams
    by_cases state : t₀.state = .sending
    · refine moves_one distinct object₀ ⟨fun _ _ => rfl, tasks_erased isTask, entries_popped _ _,
        fun _ _ => rfl, said_nothing _ _⟩ ?_ object here
      intro _ at₀
      obtain ⟨_, _, phase⟩ := at₀.sending state sane isTask rfl
      rw [streams, if_pos rfl] at phase
      subst phase
      exact ⟨t₀, .over, [], object₀, rfl,
        .abandoned state (erased_send_target sane.once isTask), by simp, fun _ => .giveUp⟩
    · exact moves_stopped sane distinct (fun _ => rfl) isTask object₀
        (streaming_expects streams ▸ state) object here

theorem ack_waited_moves
    (outcome : SendOutcome s (.ackWaited k false) s') (object : s.outs[i]? = some t)
    (here : SendAt s i t p) : Moves s s' (.ackWaited k false) i t p := by
  cases outcome with
  | idle _ other => exact moves_idle object here (idle_move other _ p)
  | stopped _ _ _ t₀ _ isTask object₀ touched =>
    exact moves_stopped sane distinct (fun _ => rfl) isTask object₀ touched object here
  | resolved k _ success i₀ t₀ path error task object₀ state verdict woken =>
    have event : t₀.ackEvent = true := by simpa using woken
    have told : t₀.ackSuccess = success := by simpa using verdict.symm
    refine moves_one distinct object₀ ⟨others_kept _, tasks_erased task, entries_popped _ _,
      fun _ _ => rfl, said_nothing _ _⟩ ?_ object here
    intro _ at₀
    obtain ⟨rfl, _, _⟩ := at₀.waitingForCompleteAck state
    rw [event, if_pos rfl, told]
    have there : SendAt { s with
        outs := s.outs.set i₀ (withState t₀ (if success then .completed else .failed))
        outgoing := s.outgoing.pop t₀.transferId
        tasks := s.tasks.eraseIdx k
        notes := s.notes ++ [⟨i₀, success, path, error⟩] } i₀
        (withState t₀ (if success then .completed else .failed))
        (if success then .completed else .over) := by
      cases success with
      | true => exact .completed rfl
      | false => exact .resolved (.inl rfl)
    exact moves_set object₀ rfl rfl rfl there (.resolve success)

theorem sender_moves (connected : e.connected)
    (fresh : ∀ addr path id file, e = .offerFile addr path id file →
      id ∉ s.outs.map transferId)
    (outcome : SendOutcome s e s') (object : s.outs[i]? = some t) (here : SendAt s i t p) :
    Moves s s' e i t p := by
  cases e with
  | accept => exact accept_moves sane distinct outcome object here
  | completeAck => exact ack_moves sane distinct outcome object here
  | connectionLost => exact connected.elim
  | resumed =>
    cases connected
    exact resumed_moves sane distinct outcome object here
  | ackWaited =>
    cases connected
    exact ack_waited_moves sane distinct outcome object here
  | reject id =>
    cases outcome with
    | idle _ other => exact moves_idle object here (idle_move other _ p)
    | stopped _ _ _ _ resumes => cases resumes
    | rejected _ _ t₀ found state =>
      obtain ⟨_, pending, _⟩ := sender_lookup_pending sane found
      refine moves_answered sane distinct (fun _ => rfl) found rfl rfl rfl (fun _ _ => Iff.rfl)
        (entries_popped _ _) ?_ object here
      intro _ at₀
      have waiting : t₀.state = .waitingForAccept := by
        rcases state with state | state
        · exact state
        · simp [Pending, state] at pending
      obtain ⟨rfl, _, _⟩ := at₀.waitingForAccept waiting
      exact ⟨.over, .resolved (.inr rfl), .rejected⟩
  | peerError addr id error =>
    cases outcome with
    | idle _ other => exact moves_idle object here (idle_move other _ p)
    | stopped _ _ _ _ resumes => cases resumes
    | peerFailed _ _ _ _ _ found =>
      obtain ⟨object₀, pending, _⟩ := sender_lookup_pending sane found
      rw [fail_outgoing_eq object₀ pending.failable]
      exact moves_answered sane distinct (fun _ => rfl) found rfl rfl rfl (fun _ _ => Iff.rfl)
        (entries_popped _ _) (fun p₀ _ => ⟨.over, .resolved (.inl rfl), .failed p₀⟩) object here
  | offerFile addr path id file =>
    cases outcome with
    | idle _ other => exact moves_idle object here (idle_move other _ p)
    | stopped _ _ _ _ resumes => cases resumes
    | offered addr path id file t₀ o _ _ offers =>
      have elsewhere : Elsewhere s { s with
          outs := s.outs ++ [t₀]
          tasks := s.tasks ++ [.offerSend s.outs.length]
          out := s.out ++ [.send addr (.fileOffer o)] } (.offerFile addr path id file)
          s.outs.length id := by
        refine ⟨?_, tasks_added (fun _ _ => Iff.rfl) rfl, fun _ _ => rfl, fun _ _ => rfl,
          said_one _ _ _ ?_⟩
        · intro _ other
          rcases Nat.lt_or_gt_of_ne other with before | after
          · exact List.getElem?_append_left before
          · rw [List.getElem?_eq_none (by simp; omega), List.getElem?_eq_none (by omega)]
        · intro _ different
          simp [signal, offers, different.symm]
      refine moves_elsewhere elsewhere object here (Nat.ne_of_lt (index_lt object)) ?_
      rintro rfl
      exact fresh addr path _ file rfl (List.mem_map_of_mem (List.mem_of_getElem? object))

end Outcomes

theorem ids_failed (object : s.outs[i]? = some t) (error : Text) :
    (s.failOutgoing error i).outs.map transferId =
      s.outs.map transferId := by
  by_cases failable : Failable t
  · rw [fail_outgoing_eq object failable]
    exact map_set_same object rfl
  · rw [fail_outgoing_refused object failable]

theorem ids_kept (sane : SaneSender s) (connected : e.connected) (outcome : SendOutcome s e s') :
    s'.outs.map transferId = s.outs.map transferId ∨
      ∃ addr path id file, e = .offerFile addr path id file ∧
        s'.outs.map transferId = s.outs.map transferId ++ [id] := by
  cases outcome with
  | offered addr path id file _ _ _ ident =>
    exact .inr ⟨addr, path, id, file, rfl, by simp [ident]⟩
  | lost => exact connected.elim
  | idle | unsent | unknown | ackDropped | chunkOut | doneOut | stopped | raised => exact .inl rfl
  | registered _ _ _ _ _ object₀ | awaiting _ _ _ _ _ _ object₀
  | resolved _ _ _ _ _ _ _ _ object₀ => exact .inl (map_set_same object₀ rfl)
  | lateAccept _ _ _ _ _ _ found | accepted _ _ _ _ _ _ found =>
    exact .inl (map_set_same (sender_lookup_pending sane found).1 rfl)
  | rejected _ _ _ found | acked _ _ _ _ found =>
    exact .inl (map_set_same (sender_lookup_pending sane found).1 rfl)
  | peerAborted _ _ _ found | peerFailed _ _ _ _ _ found =>
    exact .inl (ids_failed (sender_lookup_pending sane found).1 _)
  | broken k _ _ task t₀ error _ object₀ =>
    have object₁ : ({ s with tasks := s.tasks.eraseIdx k } : Sender).outs[task.target]? = some t₀ :=
      object₀
    exact .inl (ids_failed object₁ error)

inductive Seen (s : Sender) (id : Text) : SendPhase → Prop
  | absent (unused : id ∉ s.outs.map transferId) : Seen s id .absent
  | object (i : Nat) (t : OutgoingTransfer) (p : SendPhase) (object : s.outs[i]? = some t)
      (ident : t.transferId = id) (here : SendAt s i t p) : Seen s id p

theorem fail_outgoing_out (s : Sender) (error : Text) (i : Nat) :
    (s.failOutgoing error i).out = s.out := by
  unfold Sender.failOutgoing
  split
  · rfl
  · split <;> rfl

def Says (s s' : Sender) (e : SendEvent) : Prop :=
  ∃ os, s'.out = s.out ++ os ∧ ∀ reported, ∀ m ∈ (transmit reported os).2, ∀ id,
    m.signal id ≠ none → id ∈ s'.outs.map transferId ∨ e.reply id = some .accept

theorem says_own {addr : Text} {m : Message} (out : s'.out = s.out ++ [.send addr m])
    (own : ∀ id, m.signal id ≠ none → id ∈ s'.outs.map transferId) :
    Says s s' e := by
  refine ⟨_, out, ?_⟩
  intro _ _ member id speaks
  rw [transmit_send, mem_singleton] at member
  subst member
  exact .inl (own id speaks)

theorem said_about (outcome : SendOutcome s e s') (connected : e.connected) : Says s s' e := by
  have nothing : s'.out = s.out → Says s s' e :=
    fun same => ⟨[], by simp [same], by simp [transmit]⟩
  cases outcome with
  | offered _ _ _ _ _ o _ ident offers =>
    refine says_own rfl ?_
    intro other speaks
    have same : o.transferId = other := by simpa [signal] using speaks
    simp [ident, ← offers, same]
  | unknown addr id =>
    refine ⟨[.report addr .transferNotFound id], rfl, ?_⟩
    intro reported m member other speaks
    rw [transmit_report reported addr _ id m member] at speaks
    have same : id = other := by
      by_contra different
      simp [signal, different] at speaks
    right
    simp [SendEvent.reply, same]
  | chunkOut _ _ _ _ t₀ _ _ _ _ object₀ | doneOut _ _ _ t₀ _ _ object₀ =>
    refine says_own rfl ?_
    intro other speaks
    have same : t₀.transferId = other := by simpa [signal] using speaks
    rw [← same]
    exact mem_map_of_mem (mem_of_getElem? object₀)
  | lost => exact connected.elim
  | peerAborted | peerFailed | broken => exact nothing (fail_outgoing_out _ _ _)
  | idle | unsent | registered | lateAccept | accepted | rejected | acked | ackDropped
  | awaiting | stopped | raised | resolved => exact nothing rfl

theorem seen_moves (sane : SaneSender s)
    (distinct : (s.outs.map transferId).Nodup) (connected : e.connected)
    (fresh : ∀ addr path id file, e = .offerFile addr path id file →
      id ∉ s.outs.map transferId)
    (outcome : SendOutcome s e s') (seen : Seen s id p)
    (unanswered : p = .absent → e.reply id = none) :
    ∃ p' os, Seen s' id p' ∧ s'.out = s.out ++ os ∧ ∀ reported, SendMove (e.reply id) p
      ((transmit reported os).2.filterMap (signal id)) p' := by
  cases seen with
  | object i _ _ object ident here =>
    subst ident
    obtain ⟨t', p', os, object', same, there, out, move⟩ :=
      sender_moves sane distinct connected fresh outcome object here
    exact ⟨p', os, .object i t' p' object' same there, out, move⟩
  | absent unused =>
    have silent := unanswered rfl
    by_cases used : id ∈ s'.outs.map transferId
    · rcases ids_kept sane connected outcome with same | ⟨addr, path, other, file, rfl, grown⟩
      · rw [same] at used
        exact absurd used unused
      · cases outcome with
        | idle => exact absurd used unused
        | stopped _ _ _ _ resumes => cases resumes
        | offered addr _ other _ t₀ o state ident offers unset =>
          have mine : id = other := by simpa [unused, ident] using used
          subst mine
          refine ⟨.offering, [.send addr (.fileOffer o)],
            .object s.outs.length t₀ .offering (by simp) ident (.offering state unset (by simp)),
              rfl, ?_⟩
          intro _
          simpa [transmit_send, signal, offers, SendEvent.reply] using SendMove.offer
    · obtain ⟨os, out, said⟩ := said_about outcome connected
      refine ⟨.absent, os, .absent used, out, ?_⟩
      intro reported
      have nothing : (transmit reported os).2.filterMap (signal id) = [] := by
        rw [filterMap_eq_nil_iff]
        intro m member
        by_contra speaks
        rcases said reported m member id speaks with own | accepted
        · exact used own
        · rw [silent] at accepted
          cases accepted
      rw [nothing, silent]
      exact .stay .absent

end Peerc.Transfer
