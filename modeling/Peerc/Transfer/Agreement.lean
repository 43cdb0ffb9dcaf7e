import Peerc.Transfer.RecvPhases
import Peerc.Transfer.SendPhases

/-!
A sending and a receiving session at the two ends of one connection that stays up and delivers
every frame in order. The user, the disks and the order of suspended coroutines are free.
-/
namespace Peerc.Transfer
open List Runs Registry Ledger Message OutgoingTransfer

structure Link where
  senderHost : Host
  receiverHost : Host
  senderAddr : Text
  receiverAddr : Text

structure World where
  sender : Sender
  receiver : Receiver
  senderReported : List ReportKey
  receiverReported : List ReportKey
  toReceiver : List Message
  toSender : List Message

open World

def World.start (myName : Text) (disk : Disk Text) : World :=
  ⟨Sender.start myName, Receiver.start disk, [], [], [], []⟩

inductive WorldEvent where
  | offerFile (filepath transferId : Text) (file : Option Bytes)
  | senderRuns (task : Nat) (read : ReadResult)
  | ackWaited (task : Nat) (timeout : Bool)
  | decide (task : Nat) (accepted : Bool) (io : Io)
  | receiverRuns (task : Nat) (io : Io)
  | deliverToReceiver (io : Io)
  | deliverToSender

def World.send (link : Link) (w : World) (e : SendEvent) : World :=
  let sender := w.sender.step link.senderHost e
  let wire := transmit w.senderReported (sender.out.drop w.sender.out.length)
  { w with
    sender := sender
    senderReported := wire.1
    toReceiver := w.toReceiver ++ wire.2 }

def World.receive (link : Link) (w : World) (e : RecvEvent) : World :=
  let receiver := w.receiver.step link.receiverHost e
  let wire := transmit w.receiverReported (receiver.out.drop w.receiver.out.length)
  { w with
    receiver := receiver
    receiverReported := wire.1
    toSender := w.toSender ++ wire.2 }

/-- Sends succeed since the connection stays up, and a transfer id is never used again. -/
def World.step (link : Link) (w : World) : WorldEvent → World
  | .offerFile filepath id file =>
      if id ∈ w.sender.outs.map transferId then w
      else w.send link (.offerFile link.receiverAddr filepath id file)
  | .senderRuns k read => w.send link (.resumed k .ok read)
  | .ackWaited k timeout => w.send link (.ackWaited k timeout)
  | .decide k accepted io => w.receive link (.decide k accepted io)
  | .receiverRuns k io => w.receive link (.sendReturned k .ok io)
  | .deliverToReceiver io =>
      match w.toReceiver with
      | [] => w
      | m :: rest =>
          match m.received link.senderAddr io with
          | none => { w with toReceiver := rest }
          | some e => { w with toReceiver := rest }.receive link e
  | .deliverToSender =>
      match w.toSender with
      | [] => w
      | m :: rest =>
          match m.answered link.receiverAddr with
          | none => { w with toSender := rest }
          | some e => { w with toSender := rest }.send link e

def Sender.sendingOffer (s : Sender) (id : Text) : Bool :=
  s.tasks.any (fun task => match task with
    | .offerSend i => (s.outs[i]?).any (fun t => t.transferId = id)
    | _ => false)

def Sender.sendingDone (s : Sender) (id : Text) : Bool :=
  s.tasks.any (fun task => match task with
    | .doneSend i => (s.outs[i]?).any (fun t => t.transferId = id)
    | _ => false)

/-- No accept or success is handled early, and no wait for an acknowledgement times out. -/
def World.inTime (w : World) : WorldEvent → Bool
  | .ackWaited _ timeout => !timeout
  | .deliverToSender =>
      match w.toSender with
      | .fileAccept id _ :: _ => !w.sender.sendingOffer id
      | .fileCompleteAck id true _ :: _ => !w.sender.sendingDone id
      | _ => true
  | _ => true

def Settled (w : World) : Prop :=
  w.toSender = [] ∧ ∀ task ∈ w.sender.tasks, task.awaitsAck = true ∧
    ∀ t, w.sender.outs[task.target]? = some t → t.ackEvent = false

def Output.isReport : Output → Bool
  | .report _ _ _ => true
  | .send _ _ => false

/-- Where the receiver reported success the sender reports nothing else. -/
structure SameOutcome (w : World) : Prop where
  known : ∀ o ∈ w.sender.out, o.isReport = false
  agreed : ∀ n ∈ w.receiver.notes, n.success = true → ∀ t, w.receiver.ins[n.transfer]? = some t →
    ∃ i u, w.sender.outs[i]? = some u ∧ u.transferId = t.transferId ∧
      (∀ m ∈ w.sender.notes, m.transfer = i → m.success = true) ∧
      (Settled w → ∃ m ∈ w.sender.notes, m.transfer = i ∧ m.success = true)

def Verdict (n : Note) (t : OutgoingTransfer) : Prop :=
  if n.success then t.state = .completed else t.state = .failed ∨ t.state = .rejected

structure Truthful (s : Sender) : Prop where
  told : ∀ n ∈ s.notes, ∃ t, s.outs[n.transfer]? = some t ∧ Verdict n t
  reported : ∀ i t, s.outs[i]? = some t → t.state = .completed →
    ∃ n ∈ s.notes, n.transfer = i ∧ n.success = true

section Truthful
variable {s s' : Sender} {e : SendEvent} {i : Nat} {t t' : OutgoingTransfer}

theorem verdict_resolved {n : Note} (verdict : Verdict n t) : Resolved t := by
  unfold Verdict at verdict
  split at verdict
  · exact .inl verdict
  · exact .inr verdict

theorem truthful_set (truthful : Truthful s) (object : s.outs[i]? = some t)
    (outs : s'.outs = s.outs.set i t') {new : List Note} (notes : s'.notes = s.notes ++ new)
    (about : ∀ n ∈ new, n.transfer = i ∧ Verdict n t') (keep : ∀ n, Verdict n t → Verdict n t')
    (done : t'.state = .completed → t.state = .completed ∨ ∃ n ∈ new, n.success = true) :
    Truthful s' := by
  constructor
  · intro n member
    rw [notes] at member
    rw [outs]
    rcases List.mem_append.mp member with old | fresh
    · obtain ⟨u, found, verdict⟩ := truthful.told n old
      by_cases same : n.transfer = i
      · rw [same] at found ⊢
        cases object.symm.trans found
        exact ⟨t', found_set object, keep n verdict⟩
      · exact ⟨u, found_aside found same, verdict⟩
    · obtain ⟨same, verdict⟩ := about n fresh
      rw [same]
      exact ⟨t', found_set object, verdict⟩
  · intro j u found completed
    rw [outs] at found
    rw [notes]
    rcases set_cases found with ⟨rfl, rfl⟩ | ⟨_, old⟩
    · rcases done completed with before | ⟨n, fresh, success⟩
      · obtain ⟨n, member, rest⟩ := truthful.reported j t object before
        exact ⟨n, List.mem_append_left _ member, rest⟩
      · exact ⟨n, List.mem_append_right _ fresh, (about n fresh).1, success⟩
    · obtain ⟨n, member, rest⟩ := truthful.reported j u old completed
      exact ⟨n, List.mem_append_left _ member, rest⟩

theorem truthful_update (truthful : Truthful s) (object : s.outs[i]? = some t)
    (outs : s'.outs = s.outs.set i t') (notes : s'.notes = s.notes) (open_ : ¬ Resolved t)
    (open' : ¬ Resolved t') : Truthful s' := by
  have nothing : s'.notes = s.notes ++ [] := by simp [notes]
  refine truthful_set truthful object outs nothing (by simp) ?_ ?_
  · intro _ verdict
    exact absurd (verdict_resolved verdict) open_
  · intro completed
    exact absurd (.inl completed) open'

theorem truthful_same (truthful : Truthful s) (outs : s'.outs = s.outs)
    (notes : s'.notes = s.notes) : Truthful s' := by
  constructor
  · rw [outs, notes]
    exact truthful.told
  · rw [outs, notes]
    exact truthful.reported

theorem truthful_failed (truthful : Truthful s) (object : s.outs[i]? = some t) (error : Text) :
    Truthful (s.failOutgoing error i) := by
  by_cases failable : Failable t
  · rw [fail_outgoing_eq object failable]
    refine truthful_set truthful object rfl rfl ?_ ?_ (by simp [gaveUp])
    · simp [Verdict, gaveUp]
    · intro _ verdict
      unfold Verdict at verdict ⊢
      split at verdict
      · rcases failable with state | state | state | state <;> simp [state] at verdict
      · rename_i failure
        rw [if_neg failure]
        exact .inl rfl
  · rw [fail_outgoing_refused object failable]
    exact truthful

theorem truthful_outcome (sane : SaneSender s) (truthful : Truthful s) (connected : e.connected)
    (outcome : SendOutcome s e s') : Truthful s' := by
  cases outcome with
  | idle | ackDropped => exact truthful
  | offered _ _ _ _ _ _ state =>
    constructor
    · intro n member
      obtain ⟨u, found, verdict⟩ := truthful.told n member
      exact ⟨u, found_append found, verdict⟩
    · intro j u found completed
      rcases concat_cases found with old | ⟨_, rfl⟩
      · exact truthful.reported j u old completed
      · simp [state] at completed
  | unsent | unknown | chunkOut | doneOut | stopped | raised => exact truthful_same truthful rfl rfl
  | registered _ _ _ _ _ object₀ state | awaiting _ _ _ _ _ _ object₀ state =>
    exact truthful_update truthful object₀ rfl rfl (by simp [Resolved, state])
      (by simp [Resolved, withState])
  | lateAccept _ _ _ _ _ _ found | acked _ _ _ _ found =>
    obtain ⟨object₀, pending, _⟩ := sender_lookup_pending sane found
    exact truthful_update truthful object₀ rfl rfl (pending_unresolved pending)
      (pending_unresolved pending)
  | accepted _ _ _ _ _ _ found =>
    obtain ⟨object₀, pending, _⟩ := sender_lookup_pending sane found
    exact truthful_update truthful object₀ rfl rfl (pending_unresolved pending)
      (by simp [Resolved, withState])
  | rejected _ _ _ found =>
    obtain ⟨object₀, pending, _⟩ := sender_lookup_pending sane found
    refine truthful_set truthful object₀ rfl rfl (by simp [Verdict, withState]) ?_
      (by simp [withState])
    intro _ verdict
    exact absurd (verdict_resolved verdict) (pending_unresolved pending)
  | peerAborted _ _ _ found => exact truthful_failed truthful (sender_lookup_pending sane found).1 _
  | peerFailed _ _ _ _ _ found =>
    exact truthful_failed truthful (sender_lookup_pending sane found).1 _
  | lost => exact connected.elim
  | broken k _ _ _ _ error _ object₀ =>
    have erased : Truthful { s with tasks := s.tasks.eraseIdx k } := truthful_same truthful rfl rfl
    exact truthful_same (truthful_failed erased object₀ error) rfl rfl
  | resolved _ _ success _ _ _ _ _ object₀ state verdict =>
    refine truthful_set truthful object₀ rfl rfl ?_ ?_ ?_
    · cases success <;> simp [Verdict, withState]
    · intro _ verdict
      have resolved := verdict_resolved verdict
      simp [Resolved, state] at resolved
    · cases success <;> simp [withState]

end Truthful

structure Coherent (w : World) : Prop where
  sane : SaneSender w.sender
  distinct : (w.sender.outs.map transferId).Nodup
  truthful : Truthful w.sender
  known : ∀ o ∈ w.sender.out, o.isReport = false
  tidy : Tidy w.receiver
  agrees : ∀ id, ∃ p q, Seen w.sender id p ∧ RecvAt w.receiver id q ∧
    Agrees p (w.toReceiver.filterMap (signal id)) q
      (w.toSender.filterMap (reply id))

theorem coherent_start (myName : Text) (disk : Disk Text) : Coherent (start myName disk) where
  sane := sane_sender_start myName
  distinct := nodup_nil
  truthful := ⟨by simp [start, Sender.start], by simp [start, Sender.start]⟩
  known := by simp [start, Sender.start]
  tidy := ⟨sane_start disk, once_nil, nodup_nil⟩
  agrees id := ⟨.absent, .fresh, .absent (by simp [start, Sender.start]),
    .fresh (by simp [start, Receiver.start, askedIds])
      (by simp [start, Receiver.start, takenIds]), .absent⟩

variable {e : SendEvent}

theorem report_unknown {s s' : Sender} (outcome : SendOutcome s e s') (connected : e.connected) :
    (∀ o ∈ s'.out, o ∈ s.out ∨ o.isReport = false) ∨
      ∃ addr id offset, e = .accept addr id offset ∧ s.lookup id = none := by
  have quiet : s'.out = s.out → ∀ o ∈ s'.out, o ∈ s.out ∨ o.isReport = false :=
    fun same o member => .inl (same ▸ member)
  have sent : ∀ addr m, s'.out = s.out ++ [.send addr m] →
      ∀ o ∈ s'.out, o ∈ s.out ∨ o.isReport = false := by
    intro _ _ out _ member
    rw [out] at member
    rcases mem_append.mp member with old | new
    · exact .inl old
    · rw [mem_singleton.mp new]
      exact .inr rfl
  cases outcome with
  | unknown addr id resumeOffset absent => exact .inr ⟨addr, id, resumeOffset, rfl, absent⟩
  | offered | chunkOut | doneOut => exact .inl (sent _ _ rfl)
  | lost => exact connected.elim
  | peerAborted | peerFailed | broken => exact .inl (quiet (fail_outgoing_out _ _ _))
  | _ => exact .inl (quiet rfl)

variable {id : Text} {s : Sender}

theorem seen_offering (seen : Seen s id .offering) : s.sendingOffer id = true := by
  cases seen with
  | object _ _ _ object ident here =>
    cases here with
    | offering _ _ task => exact any_eq_true.mpr ⟨_, task, by simp [object, ident]⟩

theorem seen_finishing (seen : Seen s id .finishing) : s.sendingDone id = true := by
  cases seen with
  | object _ _ _ object ident here =>
    cases here with
    | finishing _ _ _ task => exact any_eq_true.mpr ⟨_, task, by simp [object, ident]⟩

theorem seen_waiting (seen : Seen s id .waiting) : s.lookup id ≠ none := by
  cases seen with
  | object i t _ object ident here =>
    cases here with
    | waiting _ _ entry =>
      rw [ident] at entry
      rw [(sender_lookup_some_iff s id i t).mpr ⟨entry, object⟩]
      simp

variable {w : World} {link : Link} {rest : List Message}

theorem coherent_send (coherent : Coherent w) (connected : e.connected)
    (fresh : ∀ addr path id file, e = .offerFile addr path id file →
      id ∉ w.sender.outs.map transferId)
    (taken : ∀ id, w.toSender.filterMap (reply id) =
      (e.reply id).toList ++ rest.filterMap (reply id))
    (offerNoted : ∀ id, e.reply id = some .accept → w.sender.sendingOffer id = false)
    (doneNoted : ∀ id, e.reply id = some (.ack true) → w.sender.sendingDone id = false) :
    Coherent ({ w with toSender := rest }.send link e) := by
  have outcome := send_outcome link.senderHost w.sender e
  refine ⟨sane_sender_outcome coherent.sane outcome, ?_,
    truthful_outcome coherent.sane coherent.truthful connected outcome, ?_, coherent.tidy, ?_⟩
  · simp only [send]
    rcases ids_kept coherent.sane connected outcome with same | ⟨addr, path, id, file, rfl, grown⟩
    · rw [same]
      exact coherent.distinct
    · rw [grown]
      exact (perm_append_singleton _ _).nodup_iff.mpr
        (nodup_cons.mpr ⟨fresh addr path id file rfl, coherent.distinct⟩)
  · rcases report_unknown outcome connected with quiet | ⟨addr, id, offset, rfl, absent⟩
    · intro o member
      rcases quiet o member with old | new
      · exact coherent.known o old
      · exact new
    · -- the two ends agree that the offer is being sent or waits for its answer
      exfalso
      obtain ⟨_, _, seen, _, agrees⟩ := coherent.agrees id
      have accepted : (SendEvent.accept addr id offset).reply id = some .accept := by
        simp [SendEvent.reply]
      rw [taken id, accepted] at agrees
      rcases agrees_accept agrees with rfl | rfl
      · have early := seen_offering seen
        rw [offerNoted id accepted] at early
        cases early
      · exact seen_waiting seen absent
  · intro id
    obtain ⟨p, q, seen, there, agrees⟩ := coherent.agrees id
    have unanswered : p = .absent → e.reply id = none := by
      rintro rfl
      have empty := (taken id).symm.trans (agrees_absent agrees)
      simpa using (append_eq_nil_iff.mp empty).1
    obtain ⟨p', _, seen', out, move⟩ := seen_moves coherent.sane coherent.distinct connected fresh
      outcome seen unanswered
    refine ⟨p', q, seen', there, ?_⟩
    simp only [send, out, drop_left, filterMap_append]
    refine agrees_send agrees (taken id) (move w.senderReported) ?_ ?_
    · rintro accepted rfl
      have early := seen_offering seen
      rw [offerNoted id accepted] at early
      cases early
    · rintro acked rfl
      have early := seen_finishing seen
      rw [doneNoted id acked] at early
      cases early

theorem coherent_receive {e : RecvEvent} (coherent : Coherent w) (connected : e.connected)
    (taken : ∀ id, w.toReceiver.filterMap (signal id) =
      (e.signal id).toList ++ rest.filterMap (signal id)) :
    Coherent ({ w with toReceiver := rest }.receive link e) := by
  have outcome := step_outcome link.receiverHost w.receiver e
  have tidy := coherent.tidy
  have unheard : ∀ id p q, e.signal id = some .offer → RecvAt w.receiver id q →
      Agrees p (w.toReceiver.filterMap (signal id)) q
        (w.toSender.filterMap (reply id)) → q = .fresh := by
    intro id _ _ offers _ agrees
    rw [taken id, offers] at agrees
    exact agrees_offer agrees
  refine ⟨coherent.sane, coherent.distinct, coherent.truthful, coherent.known, ?_, ?_⟩
  · refine ⟨sane_outcome tidy.sane outcome, once_outcome tidy.sane tidy.once outcome,
      distinct_outcome tidy connected ?_ outcome⟩
    intro id offers
    obtain ⟨p, q, _, there, agrees⟩ := coherent.agrees id
    cases unheard id p q offers there agrees
    exact there
  · intro id
    obtain ⟨p, q, seen, there, agrees⟩ := coherent.agrees id
    obtain ⟨q', _, there', out, move⟩ := receiver_replies tidy connected
      (fun offers => unheard id p q offers there agrees) outcome there
    refine ⟨p, q', seen, there', ?_⟩
    simp only [receive, out, drop_left, filterMap_append]
    exact agrees_receive agrees (taken id) (move w.receiverReported)

theorem coherent_own (coherent : Coherent w) (connected : e.connected)
    (fresh : ∀ addr path id file, e = .offerFile addr path id file →
      id ∉ w.sender.outs.map transferId) (own : ∀ id, e.reply id = none) :
    Coherent (w.send link e) := by
  have sent : Coherent ({ w with toSender := w.toSender }.send link e) := by
    refine coherent_send coherent connected fresh ?_ ?_ ?_
    · intro id
      simp [own id]
    · intro id accepted
      cases (own id).symm.trans accepted
    · intro id acked
      cases (own id).symm.trans acked
  exact sent

variable {m : Message}

theorem received_connected {addr : Text} {io : Io} {e : RecvEvent}
    (event : m.received addr io = some e) : e.connected := by
  cases m with
  | error _ context =>
    cases context with
    | none => cases event
    | some =>
      simp only [received] at event
      split at event
      · cases event
        trivial
      · cases event
  | fileOffer | fileData | fileDone =>
    cases event
    trivial
  | _ => cases event

theorem answered_connected {addr : Text} (event : m.answered addr = some e) :
    e.connected ∧ ∀ to_ path id file, e ≠ .offerFile to_ path id file := by
  cases m with
  | error _ context =>
    cases context with
    | none => cases event
    | some =>
      simp only [Message.answered] at event
      split at event
      · cases event
        exact ⟨trivial, by simp⟩
      · cases event
  | fileAccept | fileReject | fileCompleteAck =>
    cases event
    exact ⟨trivial, by simp⟩
  | _ => cases event

theorem coherent_delivered {io : Io} (coherent : Coherent w) (queue : w.toReceiver = m :: rest) :
    Coherent (w.step link (.deliverToReceiver io)) := by
  have meaning := received_signal link.senderAddr io m
  simp only [step, queue]
  split
  · rename_i ignored
    refine ⟨coherent.sane, coherent.distinct, coherent.truthful, coherent.known, coherent.tidy, ?_⟩
    intro id
    have silent : m.signal id = none := by rw [← meaning id, ignored]; rfl
    have agrees := coherent.agrees id
    rw [queue, filterMap_cons_none silent] at agrees
    exact agrees
  · rename_i e event
    refine coherent_receive coherent (received_connected event) ?_
    intro id
    have same : m.signal id = e.signal id := by rw [← meaning id, event]; rfl
    rw [queue, filterMap_cons, same]
    cases e.signal id <;> rfl

theorem coherent_answered (coherent : Coherent w) (queue : w.toSender = m :: rest)
    (inTime : w.inTime .deliverToSender = true) : Coherent (w.step link .deliverToSender) := by
  have meaning := answered_reply link.receiverAddr m
  simp only [step, queue]
  split
  · rename_i ignored
    refine ⟨coherent.sane, coherent.distinct, coherent.truthful, coherent.known, coherent.tidy, ?_⟩
    intro id
    have silent : m.reply id = none := by rw [← meaning id, ignored]; rfl
    have agrees := coherent.agrees id
    rw [queue, filterMap_cons_none silent] at agrees
    exact agrees
  · rename_i e event
    obtain ⟨connected, notOffer⟩ := answered_connected event
    have same : ∀ id, m.reply id = e.reply id := by
      intro id
      rw [← meaning id, event]
      rfl
    have queued : ∀ id, w.toSender.filterMap (reply id) =
        (e.reply id).toList ++ rest.filterMap (reply id) := by
      intro id
      rw [queue, filterMap_cons, same id]
      cases e.reply id <;> rfl
    simp only [World.inTime, queue] at inTime
    refine coherent_send coherent connected (fun to_ path id file isOffer =>
      absurd isOffer (notOffer to_ path id file)) queued ?_ ?_
    · intro id accepted
      obtain ⟨_, rfl⟩ := reply_accept ((same id).trans accepted)
      simpa using inTime
    · intro id acked
      obtain ⟨_, rfl⟩ := reply_success ((same id).trans acked)
      simpa using inTime

theorem coherent_step {e : WorldEvent} (coherent : Coherent w)
    (inTime : w.inTime e = true) : Coherent (w.step link e) := by
  cases e with
  | offerFile =>
    simp only [step]
    split
    · exact coherent
    · rename_i unused
      refine coherent_own coherent trivial ?_ (fun _ => rfl)
      intro _ _ _ _ same
      cases same
      exact unused
  | senderRuns => exact coherent_own coherent rfl (by simp) (fun _ => rfl)
  | ackWaited _ timeout =>
    have waits : timeout = false := by simpa [World.inTime] using inTime
    exact coherent_own coherent waits (by simp) (fun _ => rfl)
  | decide => exact coherent_receive coherent trivial (fun _ => rfl)
  | receiverRuns => exact coherent_receive coherent rfl (fun _ => rfl)
  | deliverToReceiver =>
    cases queue : w.toReceiver with
    | nil =>
      simp only [step, queue]
      exact coherent
    | cons => exact coherent_delivered coherent queue
  | deliverToSender =>
    cases queue : w.toSender with
    | nil =>
      simp only [step, queue]
      exact coherent
    | cons => exact coherent_answered coherent queue inTime

theorem reported_winning {r : Receiver} {q : RecvPhase} (tidy : Tidy r) {n : Note}
    (member : n ∈ r.notes) (success : n.success = true)
    (taken : (takenIds r)[n.transfer]? = some id) (there : RecvAt r id q) : q = .winning := by
  cases there with
  | fresh _ untaken => exact absurd (mem_of_getElem? taken) untaken
  | asked waits => exact absurd (mem_of_getElem? taken) (asked_untaken tidy waits)
  | live _ entry =>
    have same := taken_number tidy taken (entry_taken tidy entry)
    exact absurd same (owed_unnoted tidy (.inr (.inl ⟨id, entry⟩)) n member)
  | winning => rfl
  | gone _ ident _ _ unreported =>
    have failed := unreported n member (taken_number tidy taken ident)
    rw [success] at failed
    cases failed

theorem winning_reported (coherent : Coherent w) {i : Nat} {u : OutgoingTransfer}
    {p : SendPhase} (object : w.sender.outs[i]? = some u) (here : SendAt w.sender i u p)
    (phase : p = .completed ∨ p = .awaiting (some true) ∨ (p = .finishing ∨ p = .awaiting none) ∧
      w.toSender.filterMap (reply u.transferId) = [.ack true]) :
    (∀ m ∈ w.sender.notes, m.transfer = i → m.success = true) ∧
      (Settled w → ∃ m ∈ w.sender.notes, m.transfer = i ∧ m.success = true) := by
  constructor
  · intro m member about
    obtain ⟨_, found, verdict⟩ := coherent.truthful.told m member
    rw [about, object] at found
    cases found
    have notOver : p ≠ .over := by
      rintro rfl
      simp at phase
    by_contra failure
    rw [Verdict, if_neg failure] at verdict
    exact here.unfailed notOver verdict
  · rintro ⟨delivered, waiting⟩
    cases here with
    | completed state => exact coherent.truthful.reported i u object state
    | awaiting _ _ task =>
      have unset := (waiting _ task).2 u object
      simp [unset, delivered] at phase
    | finishing _ _ _ task => cases (waiting _ task).1
    | offering | waiting | streaming | resolved | abandoned => simp at phase

theorem coherent_same_outcome (coherent : Coherent w) : SameOutcome w := by
  refine ⟨coherent.known, ?_⟩
  intro _ member success t object
  have taken := taken_of_object object
  obtain ⟨_, _, seen, there, agrees⟩ := coherent.agrees t.transferId
  cases reported_winning coherent.tidy member success taken there
  have phase := agrees_winning agrees
  cases seen with
  | absent => simp at phase
  | object i u _ object' ident here =>
    rw [← ident] at phase
    exact ⟨i, u, object', ident, winning_reported coherent object' here phase⟩

theorem ends_agree (link : Link) (myName : Text) (disk : Disk Text) (es : List WorldEvent)
    (inTime : Along (step link) (fun w e => w.inTime e = true) (start myName disk) es) :
    Everywhere (step link) SameOutcome (start myName disk) es :=
  everywhere_mono (fun _ => coherent_same_outcome)
    (invariant_everywhere (fun _ _ coherent inTime => coherent_step coherent inTime)
      (coherent_start myName disk) inTime)

section Sample

def Link.sample : Link := ⟨Host.sample, Host.sample, "S", "R"⟩

def oneByteOffer (noted : List WorldEvent) : List WorldEvent :=
  .offerFile "f" "t" (some [1]) :: noted ++
    [.deliverToReceiver (Io.sample 0), .decide 0 true (Io.sample 0), .deliverToSender]

def oneByteStream (noted : List WorldEvent) : List WorldEvent :=
  oneByteOffer [.senderRuns 0 .eof] ++ [.senderRuns 0 (.chunk [1]), .senderRuns 0 .eof] ++ noted ++
    [.deliverToReceiver (Io.sample 0), .deliverToReceiver (Io.sample 0), .deliverToSender,
      .receiverRuns 0 (Io.sample 0)]

def oneByteTransfer : List WorldEvent :=
  oneByteStream [.senderRuns 0 .eof] ++ [.ackWaited 0 false]

theorem one_byte_transfer_agrees : Along (step Link.sample) (fun w e => w.inTime e = true)
        (start "me" Disk.empty) oneByteTransfer ∧
      Everywhere (step Link.sample) SameOutcome (start "me" Disk.empty)
        oneByteTransfer ∧
      (run (step Link.sample) (start "me" Disk.empty)
        oneByteTransfer).receiver.notes = [⟨0, true, some "f", none⟩] := by
  have inTime : Along (step Link.sample) (fun w e => w.inTime e = true)
      (start "me" Disk.empty) oneByteTransfer := by decide +kernel
  exact ⟨inTime, ends_agree Link.sample "me" Disk.empty oneByteTransfer inTime,
    by decide +kernel⟩

def lostSuccess : List WorldEvent :=
  oneByteStream [] ++ [.senderRuns 0 .eof, .ackWaited 0 true]

def lateSuccess : List WorldEvent :=
  oneByteStream [.senderRuns 0 .eof, .ackWaited 0 true]

def World.disagrees (w : World) : Bool :=
  w.sender.outs.length == 1 && (w.receiver.ins[0]?).isSome &&
    w.receiver.notes.any (fun n => n.transfer == 0 && n.success) &&
    w.sender.notes.any (fun n => n.transfer == 0 && !n.success)

theorem disagrees_not_same {w : World} (split : w.disagrees = true) : ¬ SameOutcome w := by
  intro same
  simp only [disagrees, Bool.and_eq_true, beq_iff_eq, List.any_eq_true,
    Bool.not_eq_true'] at split
  obtain ⟨⟨⟨_, held⟩, n, told, received, success⟩, m, reported, _, failure⟩ := split
  obtain ⟨t, found⟩ := Option.isSome_iff_exists.mp held
  obtain ⟨i, _, listed, -, only, -⟩ := same.agreed n told success t (by rw [received, found])
  obtain ⟨_, -⟩ := List.getElem?_eq_some_iff.mp listed
  have named : m.transfer = i := by omega
  rw [only m reported named] at failure
  cases failure

theorem early_answers_lost :
    ¬ Everywhere (step Link.sample) SameOutcome (start "me" Disk.empty)
        (oneByteOffer []) ∧
      ¬ Everywhere (step Link.sample) SameOutcome (start "me" Disk.empty)
        lostSuccess ∧
      ¬ Everywhere (step Link.sample) SameOutcome (start "me" Disk.empty)
        lateSuccess := by
  refine ⟨fun all => ?unknown, fun all => ?early, fun all => ?late⟩
  case unknown =>
    have reported : .report "R" .transferNotFound "t" ∈
        (run (step Link.sample) (start "me" Disk.empty)
          (oneByteOffer [])).sender.out := by decide +kernel
    cases (all (oneByteOffer []) (prefix_refl _)).known _ reported
  case early =>
    exact disagrees_not_same (by decide +kernel) (all lostSuccess (prefix_refl _))
  case late =>
    exact disagrees_not_same (by decide +kernel) (all lateSuccess (prefix_refl _))

end Sample

end Peerc.Transfer
