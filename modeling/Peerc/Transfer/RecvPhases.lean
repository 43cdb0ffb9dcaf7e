import Peerc.Transfer.Notify
import Peerc.Transfer.Wire

/-!
The receiver of the code is the receiver of the exchange: every event of a connection that stays
up is a move of the abstract receiver.
-/
namespace Peerc.Transfer
open List Registry Ledger

def RecvTask.askedId : RecvTask → Option Text
  | .offerDecision ctx => some ctx.transferId
  | _ => none

open RecvTask

def askedIds (r : Receiver) : List Text := r.tasks.filterMap askedId

def takenIds (r : Receiver) : List Text := r.ins.map IncomingTransfer.transferId

inductive RecvAt (r : Receiver) (id : Text) : RecvPhase → Prop
  | fresh (unasked : id ∉ askedIds r) (untaken : id ∉ takenIds r) : RecvAt r id .fresh
  | asked (waits : id ∈ askedIds r) : RecvAt r id .asked
  | live (i : Nat) (entry : r.incoming.get id = some i) : RecvAt r id .live
  | winning (i : Nat) (ident : (takenIds r)[i]? = some id) (unlisted : r.incoming.get id = none)
      (verified : .doneSend i true ∈ r.tasks ∨ ∃ n ∈ r.notes, n.transfer = i ∧ n.success = true) :
      RecvAt r id .winning
  | gone (i : Nat) (ident : (takenIds r)[i]? = some id) (unlisted : r.incoming.get id = none)
      (unverified : .doneSend i true ∉ r.tasks)
      (unreported : ∀ n ∈ r.notes, n.transfer = i → n.success = false) : RecvAt r id .gone

def RecvEvent.connected : RecvEvent → Prop
  | .connectionLost _ _ _ => False
  | .sendReturned _ result _ => result = .ok
  | _ => True

open RecvEvent

def Replies (r r' : Receiver) (e : RecvEvent) (id : Text) (p : RecvPhase) : Prop :=
  ∃ p' os, RecvAt r' id p' ∧ r'.out = r.out ++ os ∧ ∀ reported, RecvMove (e.signal id) p
    ((transmit reported os).2.filterMap (Message.reply id)) p'

variable {host : Host} {r r' : Receiver} {e : RecvEvent} {id : Text} {p : RecvPhase} {i : Nat}
  {t : IncomingTransfer}

structure Aside (r r' : Receiver) (id : Text) : Prop where
  asked : id ∈ askedIds r' ↔ id ∈ askedIds r
  taken : ∀ i : Nat, (takenIds r')[i]? = some id ↔ (takenIds r)[i]? = some id
  entry : r'.incoming.get id = r.incoming.get id
  verified : ∀ i : Nat, (takenIds r)[i]? = some id →
    (.doneSend i true ∈ r'.tasks ↔ .doneSend i true ∈ r.tasks)
  notes : ∀ n ∈ r.notes, n ∈ r'.notes
  reports : ∀ i : Nat, (takenIds r)[i]? = some id → ∀ n ∈ r'.notes, n.transfer = i →
    n ∈ r.notes ∨ n.success = false

theorem RecvAt.aside (here : RecvAt r id p) (aside : Aside r r' id) : RecvAt r' id p := by
  cases here with
  | fresh unasked untaken =>
    refine .fresh (fun waits => unasked (aside.asked.mp waits)) ?_
    intro member
    obtain ⟨i, ident⟩ := mem_iff_getElem?.mp member
    exact untaken (mem_of_getElem? ((aside.taken i).mp ident))
  | asked waits => exact .asked (aside.asked.mpr waits)
  | live i entry => exact .live i (aside.entry.trans entry)
  | winning i ident unlisted verified =>
    refine .winning i ((aside.taken i).mpr ident) (aside.entry.trans unlisted) ?_
    rcases verified with acking | ⟨n, member, about, success⟩
    · exact .inl ((aside.verified i ident).mpr acking)
    · exact .inr ⟨n, aside.notes n member, about, success⟩
  | gone i ident unlisted unverified unreported =>
    refine .gone i ((aside.taken i).mpr ident) (aside.entry.trans unlisted) ?_ ?_
    · exact fun acking => unverified ((aside.verified i ident).mp acking)
    · intro n member about
      rcases aside.reports i ident n member about with old | failed
      · exact unreported n old about
      · exact failed

theorem replies_aside (here : RecvAt r id p) (aside : Aside r r' id) {os : List Output}
    (out : r'.out = r.out ++ os)
    (silent : ∀ reported, ∀ m ∈ (transmit reported os).2, m.reply id = none)
    (unasked : e.signal id = none) : Replies r r' e id p := by
  refine ⟨p, os, here.aside aside, out, ?_⟩
  intro reported
  rw [filterMap_eq_nil_iff.mpr (silent reported), unasked]
  exact .stay p

structure Tidy (r : Receiver) : Prop where
  sane : Sane r
  once : Once Note.transfer (Owed r) r.notes
  distinct : (askedIds r ++ takenIds r).Nodup

theorem taken_of_object (object : r.ins[i]? = some t) :
    (takenIds r)[i]? = some t.transferId := by
  simp [takenIds, object]

theorem taken_number (tidy : Tidy r) {i j : Nat} (first : (takenIds r)[i]? = some id)
    (second : (takenIds r)[j]? = some id) : i = j := by
  have distinct := (List.nodup_append.mp tidy.distinct).2.1
  have inside := index_lt first
  exact (List.getElem?_inj inside distinct).mp (first.trans second.symm)

theorem asked_untaken (tidy : Tidy r) (waits : id ∈ askedIds r) : id ∉ takenIds r :=
  fun taken => (nodup_append.mp tidy.distinct).2.2 id waits id taken rfl

theorem entry_taken (tidy : Tidy r) (entry : r.incoming.get id = some i) :
    (takenIds r)[i]? = some id := by
  obtain ⟨_, object, ident, _⟩ := tidy.sane.listed id i entry
  rw [← ident]
  exact taken_of_object object

theorem RecvAt.listed (here : RecvAt r id p) (tidy : Tidy r) (entry : r.incoming.get id = some i) :
    p = .live := by
  have taken := mem_of_getElem? (entry_taken tidy entry)
  cases here with
  | fresh _ untaken => exact absurd taken untaken
  | asked waits => exact absurd taken (asked_untaken tidy waits)
  | live => rfl
  | winning _ _ unlisted | gone _ _ unlisted => cases entry.symm.trans unlisted

theorem RecvAt.waiting (here : RecvAt r id p) (tidy : Tidy r) (waits : id ∈ askedIds r) :
    p = .asked := by
  have untaken := asked_untaken tidy waits
  cases here with
  | fresh unasked => exact absurd waits unasked
  | asked => rfl
  | live _ entry => exact absurd (mem_of_getElem? (entry_taken tidy entry)) untaken
  | winning _ ident | gone _ ident => exact absurd (mem_of_getElem? ident) untaken

variable {k : Nat}

theorem RecvAt.acknowledged (here : RecvAt r id p) (tidy : Tidy r)
    (task : r.tasks[k]? = some (.doneSend i true)) (taken : (takenIds r)[i]? = some id) :
    p = .winning := by
  have member := mem_of_getElem? task
  cases here with
  | fresh _ untaken => exact absurd (mem_of_getElem? taken) untaken
  | asked waits => exact absurd (mem_of_getElem? taken) (asked_untaken tidy waits)
  | live _ entry =>
    cases taken_number tidy taken (entry_taken tidy entry)
    obtain ⟨_, object, _, live⟩ := tidy.sane.listed id i entry
    exact absurd rfl (registered_unheld tidy.sane object live _ member)
  | winning => rfl
  | gone _ ident _ unverified =>
    cases taken_number tidy taken ident
    exact absurd member unverified

theorem RecvAt.unlisted (here : RecvAt r id .winning) : r.incoming.get id = none := by
  cases here with
  | winning _ _ unlisted => exact unlisted

theorem owed_unnoted (tidy : Tidy r) (owed : Owed r i) :
    ∀ n ∈ r.notes, n.transfer ≠ i := by
  intro n member about
  have unpaid := tidy.once.unpaid i owed
  have paid : 0 < tally Note.transfer r.notes n.transfer :=
    List.countP_pos_iff.mpr ⟨n, member, by simp⟩
  rw [about] at paid
  omega

theorem live_lost (tidy : Tidy r) (object : r.ins[i]? = some t) (live : Live t)
    (listed : r.incoming.get t.transferId = some i) :
    .doneSend i true ∉ r.tasks ∧ ∀ n ∈ r.notes, n.transfer ≠ i := by
  constructor
  · intro member
    exact registered_unheld tidy.sane object live _ member rfl
  · exact owed_unnoted tidy (.inr (.inl ⟨_, listed⟩))

variable {task : RecvTask}

theorem asked_erased {tasks : List RecvTask}
    (isTask : tasks[k]? = some task) (other : task.askedId ≠ some id) :
    id ∈ (tasks.eraseIdx k).filterMap askedId ↔ id ∈ tasks.filterMap askedId := by
  simp only [mem_filterMap]
  constructor
  · rintro ⟨x, member, asks⟩
    exact ⟨x, mem_of_mem_eraseIdx member, asks⟩
  · rintro ⟨x, member, asks⟩
    refine ⟨x, (mem_eraseIdx_other isTask ?_).mpr member, asks⟩
    rintro rfl
    exact other asks

theorem aside_tasks (asked : id ∈ askedIds r' ↔ id ∈ askedIds r) (ids : takenIds r' = takenIds r)
    (entry : r'.incoming.get id = r.incoming.get id)
    (verified : ∀ i : Nat, (takenIds r)[i]? = some id →
      (.doneSend i true ∈ r'.tasks ↔ .doneSend i true ∈ r.tasks))
    (notes : r'.notes = r.notes) : Aside r r' id where
  asked := asked
  taken i := by rw [ids]
  entry := entry
  verified := verified
  notes n member := by rwa [notes]
  reports i ident n member about := .inl (by rwa [← notes])

theorem aside_same (tasks : r'.tasks = r.tasks) (ids : takenIds r' = takenIds r)
    (entry : r'.incoming.get id = r.incoming.get id) (notes : r'.notes = r.notes) : Aside r r' id :=
  aside_tasks (by rw [askedIds, askedIds, tasks]) ids entry (fun _ _ => by rw [tasks]) notes

theorem silent_nothing (id : Text) (reported : List ReportKey) :
    ∀ m ∈ (transmit reported []).2, m.reply id = none := by
  intro _ member
  simp [transmit] at member

theorem silent_send {m : Message} (silent : m.reply id = none) (addr : Text)
    (reported : List ReportKey) : ∀ m' ∈
    (transmit reported [.send addr m]).2, m'.reply id = none := by
  intro _ member
  rw [transmit_send, mem_singleton] at member
  rw [member]
  exact silent

variable {transferId : Text}

theorem lookup_entry (sane : Sane r) (found : r.lookup transferId = some (i, t)) :
    r.ins[i]? = some t ∧ Live t ∧ t.transferId = transferId ∧
      r.incoming.get transferId = some i := by
  obtain ⟨listed, object⟩ := (lookup_some_iff r transferId i t).mp found
  obtain ⟨_, object', ident, live⟩ := sane.listed transferId i listed
  cases object.symm.trans object'
  exact ⟨object, live, ident, listed⟩

variable {addr : Text}

theorem replies_unknown (here : RecvAt r id p) {code : ErrorCode}
    {f : Signal} (signal : ∀ other, e.signal other = if transferId = other then some f else none)
    (notOffer : f ≠ .offer) (notLive : transferId = id → p ≠ .live) :
    Replies r (r.emit (.report addr code transferId)) e id p := by
  refine ⟨p, [.report addr code transferId], here.aside (aside_same rfl rfl rfl rfl), rfl, ?_⟩
  intro reported
  rw [signal]
  split
  · rename_i same
    refine .unknown f p _ notOffer (notLive same) ?_
    intro _ member
    obtain ⟨m, isFrame, about⟩ := mem_filterMap.mp member
    rw [transmit_report reported addr code transferId m isFrame] at about
    simp only [Message.reply] at about
    split at about
    · exact (Option.some.inj about).symm
    · cases about
  · rename_i other
    have silent : (transmit reported [.report addr code transferId]).2.filterMap
        (Message.reply id) = [] := by
      rw [filterMap_eq_nil_iff]
      intro m isFrame
      rw [transmit_report reported addr code transferId m isFrame]
      simp [Message.reply, other]
    rw [silent]
    exact .stay p

structure Retires (r r' : Receiver) (i : Nat) (t : IncomingTransfer) (more : List RecvTask) :
    Prop where
  object : r.ins[i]? = some t
  live : Live t
  listed : r.incoming.get t.transferId = some i
  ids : takenIds r' = takenIds r
  incoming : r'.incoming = r.incoming.pop t.transferId
  tasks : r'.tasks = r.tasks ++ more
  own : ∀ task ∈ more, task.askedId = none ∧ task.target = some i
  notes : ∃ failures, r'.notes = r.notes ++ failures ∧ ∀ n ∈ failures, n.success = false

section Retires
variable {i : Nat} {t : IncomingTransfer} {more : List RecvTask}

variable (retires : Retires r r' i t more)
include retires

theorem Retires.aside (other : id ≠ t.transferId) : Aside r r' id where
  asked := by
    rw [askedIds, askedIds, retires.tasks, filterMap_append, mem_append, or_iff_left]
    intro member
    obtain ⟨task, new, asks⟩ := mem_filterMap.mp member
    rw [(retires.own task new).1] at asks
    cases asks
  taken j := by rw [retires.ids]
  entry := by
    rw [retires.incoming, Dict.get_pop, if_neg other]
  verified j ident := by
    rw [retires.tasks, mem_append, or_iff_left]
    intro new
    have target := (retires.own _ new).2
    cases target
    rw [taken_of_object retires.object] at ident
    exact other (Option.some.inj ident).symm
  notes n member := by
    obtain ⟨_, notes, _⟩ := retires.notes
    rw [notes]
    exact mem_append_left _ member
  reports j ident n member about := by
    obtain ⟨_, notes, failed⟩ := retires.notes
    rw [notes] at member
    rcases mem_append.mp member with old | new
    · exact .inl old
    · exact .inr (failed n new)

theorem Retires.unlisted : r'.incoming.get t.transferId = none := by
  rw [retires.incoming, Dict.get_pop, if_pos rfl]

theorem Retires.taken : (takenIds r')[i]? = some t.transferId := by
  rw [retires.ids]
  exact taken_of_object retires.object

theorem Retires.gone (tidy : Tidy r) (unverified : .doneSend i true ∉ more) :
    RecvAt r' t.transferId .gone := by
  obtain ⟨unheld, unnoted⟩ := live_lost tidy retires.object retires.live retires.listed
  refine .gone i retires.taken retires.unlisted ?_ ?_
  · rw [retires.tasks, mem_append]
    exact fun member => member.elim unheld unverified
  · obtain ⟨_, notes, failed⟩ := retires.notes
    intro n member about
    rw [notes] at member
    rcases mem_append.mp member with old | new
    · exact absurd about (unnoted n old)
    · exact failed n new

theorem Retires.winning (verified : .doneSend i true ∈ more) : RecvAt r' t.transferId .winning := by
  refine .winning i retires.taken retires.unlisted (.inl ?_)
  rw [retires.tasks]
  exact mem_append_right _ verified

theorem Retires.replies (tidy : Tidy r) (here : RecvAt r id p)
    {f : Signal} (signal : ∀ other, e.signal other = if t.transferId = other then some f else none)
    {os : List Output} (out : r'.out = r.out ++ os)
    (silent : ∀ other, other ≠ t.transferId → ∀ reported, ∀ m ∈ (transmit reported os).2,
      m.reply other = none) {p' : RecvPhase} (there : RecvAt r' t.transferId p')
    (move : ∀ reported, RecvMove (some f) .live
      ((transmit reported os).2.filterMap (Message.reply t.transferId)) p') :
    Replies r r' e id p := by
  by_cases mine : t.transferId = id
  · subst mine
    cases here.listed tidy retires.listed
    refine ⟨p', os, there, out, ?_⟩
    intro reported
    rw [signal, if_pos rfl]
    exact move reported
  · have other : id ≠ t.transferId := fun same => mine same.symm
    refine replies_aside here (retires.aside other) out (silent id other) ?_
    rw [signal, if_neg mine]

end Retires

theorem ack_reply (success : Bool) (detail transferId other : Text) :
    (Message.fileCompleteAck transferId success detail).reply other =
      if transferId = other then some (.ack success) else none := rfl

theorem silent_ack (success : Bool) (detail addr transferId other : Text)
    (different : other ≠ transferId) (reported : List ReportKey) :
    ∀ m ∈ (transmit reported [.send addr (.fileCompleteAck transferId success detail)]).2,
      m.reply other = none := by
  refine silent_send ?_ addr reported
  rw [ack_reply, if_neg (fun same => different same.symm)]

theorem replied_ack (success : Bool) (detail addr transferId : Text) (reported : List ReportKey) :
    (transmit reported [.send addr (.fileCompleteAck transferId success detail)]).2.filterMap
      (Message.reply transferId) = [.ack success] := by
  simp [transmit_send, ack_reply]

variable {io : Io}

theorem chunk_replies (tidy : Tidy r) {sequence offset : Nat} {data : Bytes}
    (outcome : ChunkOutcome r transferId r') (here : RecvAt r id p) :
    Replies r r' (.chunk addr transferId sequence offset data io) id p := by
  cases outcome with
  | reported _ _ refused =>
    refine replies_unknown here (f := .data) (fun _ => rfl) (by simp) ?_
    rintro rfl rfl
    cases here with
    | live i entry =>
      obtain ⟨t, object, _, live⟩ := tidy.sane.listed _ i entry
      have stuck := refused i t ((lookup_some_iff r _ i t).mpr ⟨entry, object⟩)
      cases stuck.symm.trans (receiving_allowed live)
  | taken i _ t' d found progress =>
    obtain ⟨object, _, _, entry⟩ := lookup_entry tidy.sane found
    have aside : Aside r { r with
        disk := d
        ins := r.ins.set i t' } id :=
      aside_same rfl (map_set_same object progress.same.transferId) rfl rfl
    refine ⟨p, [], here.aside aside, by simp, ?_⟩
    intro _
    simp only [signal]
    split
    · rename_i same
      subst same
      cases here.listed tidy entry
      exact .stored
    · exact .stay p
  | aborted i t t' d reason found same =>
    obtain ⟨object, live, rfl, entry⟩ := lookup_entry tidy.sane found
    have retires : Retires r { r with
        disk := d
        ins := r.ins.set i (asFailed t')
        incoming := r.incoming.pop t.transferId
        tasks := r.tasks ++ [.abortSend i reason]
        out := r.out ++ [.send t.addrKey (.fileCompleteAck t.transferId false reason)] } i t
        [.abortSend i reason] :=
      ⟨object, live, entry, map_set_same object same.transferId, rfl, rfl,
        by simp [askedId, target], [], by simp, by simp⟩
    refine retires.replies tidy here (fun _ => rfl) rfl (silent_ack false reason _ _)
      (retires.gone tidy (by simp)) ?_
    intro _
    rw [replied_ack]
    exact .aborted

theorem done_replies (tidy : Tidy r)
    (outcome : DoneOutcome host io r transferId r') (here : RecvAt r id p) :
    Replies r r' (.done addr transferId io) id p := by
  cases outcome with
  | reported _ _ refused =>
    refine replies_unknown here (f := .done) (fun _ => rfl) (by simp) ?_
    rintro rfl rfl
    cases here with
    | live i entry =>
      obtain ⟨t, object, _, live⟩ := tidy.sane.listed _ i entry
      have stuck := refused i t ((lookup_some_iff r _ i t).mpr ⟨entry, object⟩)
      cases stuck.symm.trans (verifying_allowed live)
  | raised i t d found =>
    obtain ⟨object, live, rfl, entry⟩ := lookup_entry tidy.sane found
    have retires : Retires r { r with
        disk := d
        ins := r.ins.set i (asVerifying t)
        incoming := r.incoming.pop t.transferId } i t [] :=
      ⟨object, live, entry, map_set_same object rfl, rfl, by simp, by simp, [], by simp, by simp⟩
    have nothing : r.out = r.out ++ [] := by simp
    exact retires.replies tidy here (fun _ => rfl) nothing (fun other _ => silent_nothing other)
      (retires.gone tidy (by simp)) (fun _ => .unread)
  | hashed i t d _ success addr' detail found =>
    obtain ⟨object, live, rfl, entry⟩ := lookup_entry tidy.sane found
    have retires : Retires r { r with
        disk := d
        ins := r.ins.set i (asVerifying t)
        incoming := r.incoming.pop t.transferId
        tasks := r.tasks ++ [.doneSend i success]
        out := r.out ++ [.send addr' (.fileCompleteAck t.transferId success detail)] } i t
        [.doneSend i success] :=
      ⟨object, live, entry, map_set_same object rfl, rfl, rfl,
        by simp [askedId, target], [], by simp, by simp⟩
    have silent := silent_ack success detail addr' t.transferId
    cases success with
    | true =>
      refine retires.replies tidy here (fun _ => rfl) rfl silent (retires.winning (by simp)) ?_
      intro _
      rw [replied_ack]
      exact .verified
    | false =>
      refine retires.replies tidy here (fun _ => rfl) rfl silent (retires.gone tidy (by simp)) ?_
      intro _
      rw [replied_ack]
      exact .mismatched

variable {ctx : OfferContext}

theorem asked_here (task : r.tasks[k]? = some (.offerDecision ctx)) : ctx.transferId ∈ askedIds r :=
  mem_filterMap.mpr ⟨_, mem_of_getElem? task, rfl⟩

theorem asked_no_more (tidy : Tidy r) (task : r.tasks[k]? = some (.offerDecision ctx)) :
    ctx.transferId ∉ (r.tasks.eraseIdx k).filterMap askedId := by
  intro member
  obtain ⟨x, left, asks⟩ := mem_filterMap.mp member
  exact erased_fresh (nodup_append.mp tidy.distinct).1 task rfl x left asks

theorem other_context (other : ctx.transferId ≠ id) :
    (offerDecision ctx).askedId ≠ some id := fun same => other (Option.some.inj same)

variable {d : Disk Text}

theorem fresh_again (tidy : Tidy r)
    {out : List Output} (task : r.tasks[k]? = some (.offerDecision ctx)) : RecvAt { r with
      disk := d
      tasks := r.tasks.eraseIdx k
      out := out } ctx.transferId .fresh := by
  have untaken : ctx.transferId ∉ takenIds r := asked_untaken tidy (asked_here task)
  exact .fresh (asked_no_more tidy task) untaken

theorem aside_answered {out : List Output}
    (task : r.tasks[k]? = some (.offerDecision ctx)) (other : ctx.transferId ≠ id) :
    Aside r { r with
      disk := d
      tasks := r.tasks.eraseIdx k
      out := out } id :=
  aside_tasks (asked_erased task (other_context other)) rfl rfl
    (fun _ _ => mem_eraseIdx_other task (by simp)) rfl

theorem decide_replies (tidy : Tidy r) {accepted : Bool}
    (outcome : StepOutcome host r (.decide k accepted io) r') (here : RecvAt r id p) :
    Replies r r' (.decide k accepted io) id p := by
  cases outcome with
  | idle => exact ⟨p, [], here, by simp, fun _ => .stay p⟩
  | declined _ _ ctx _ task =>
    by_cases mine : ctx.transferId = id
    · subst mine
      cases here.waiting tidy (asked_here task)
      refine ⟨.fresh, [_], fresh_again tidy task, rfl, ?_⟩
      intro _
      simpa [transmit_send, Message.reply, signal] using RecvMove.declined
    · exact replies_aside here (aside_answered task mine) rfl
        (silent_send (by simp [Message.reply, mine]) _) rfl
  | unopened _ _ ctx _ task =>
    have nothing : r.out = r.out ++ [] := by simp
    by_cases mine : ctx.transferId = id
    · subst mine
      cases here.waiting tidy (asked_here task)
      exact ⟨.fresh, [], fresh_again tidy task, nothing, fun _ => .unopened⟩
    · exact replies_aside here (aside_answered task mine) nothing (silent_nothing id) rfl
  | accepted _ _ ctx _ _ _ task =>
    by_cases mine : ctx.transferId = id
    · subst mine
      cases here.waiting tidy (asked_here task)
      refine ⟨.live, [_], .live r.ins.length ((Dict.get_set _ _ _ _).trans (if_pos rfl)), rfl, ?_⟩
      intro _
      simpa [transmit_send, Message.reply, signal] using RecvMove.accepted
    · refine replies_aside here ?_ rfl (silent_send (by simp [Message.reply, mine]) _) rfl
      have unaffected : ∀ j : Nat, (takenIds r ++ [ctx.transferId])[j]? = some id ↔
          (takenIds r)[j]? = some id := by
        intro _
        constructor
        · intro found
          rcases concat_cases found with old | ⟨_, same⟩
          · exact old
          · exact absurd same.symm mine
        · exact found_append
      refine ⟨asked_erased task (other_context mine), ?_, ?_,
        fun _ _ => mem_eraseIdx_other task (by simp), fun _ member => member,
        fun _ _ _ member _ => .inl member⟩
      · intro j
        simpa [takenIds, Receiver.newTransfer] using unaffected j
      · exact (Dict.get_set _ _ _ _).trans (if_neg (fun same => mine same.symm))

theorem offer_replies {o : Offer}
    (outcome : StepOutcome host r (.offer addr o io) r') (here : RecvAt r id p)
    (unheard : o.transferId = id → p = .fresh) : Replies r r' (.offer addr o io) id p := by
  cases outcome with
  | idle _ other => cases other
  | offered addr o _ _ _ _ _ answer =>
    cases answer with
    | rejected =>
      refine ⟨p, [.send addr (.fileReject o.transferId)],
        here.aside (aside_same rfl rfl rfl rfl), rfl, ?_⟩
      intro _
      by_cases mine : o.transferId = id
      · simpa [transmit_send, Message.reply, signal, mine] using RecvMove.refused p
      · simpa [transmit_send, Message.reply, signal, mine] using RecvMove.stay p
    | asked _ ident =>
      have nothing : r.out = r.out ++ [] := by simp
      by_cases mine : o.transferId = id
      · cases unheard mine
        refine ⟨.asked, [], .asked ?_, nothing, ?_⟩
        · simp [askedIds, askedId, ident, mine]
        · intro _
          simpa [transmit, signal, mine] using RecvMove.asked
      · refine replies_aside here (aside_tasks ?_ rfl rfl ?_ rfl) nothing (silent_nothing id) ?_
        · simp [askedIds, askedId, ident, Ne.symm mine]
        · intro _ _
          simp
        · simp [signal, mine]

theorem aside_reported {ins : List IncomingTransfer}
    {failures : List Note} (isTask : r.tasks[k]? = some task) (unasked : task.askedId = none)
    (other : ∀ i : Nat, task = .doneSend i true → (takenIds r)[i]? ≠ some id)
    (ids : ins.map IncomingTransfer.transferId = takenIds r)
    (failed : ∀ n ∈ failures, n.success = false ∨ (takenIds r)[n.transfer]? ≠ some id) :
    Aside r { r with
      disk := d
      ins := ins
      tasks := r.tasks.eraseIdx k
      notes := r.notes ++ failures } id where
  asked := asked_erased isTask (by simp [unasked])
  taken j := by rw [takenIds, ids]
  entry := rfl
  verified j ident := mem_eraseIdx_other isTask (fun same => other j same.symm ident)
  notes n member := mem_append_left _ member
  reports j ident n member about := by
    rcases mem_append.mp member with old | new
    · exact .inl old
    · rcases failed n new with failure | apart
      · exact .inr failure
      · exact absurd (about ▸ ident) apart

variable (tidy : Tidy r)
include tidy

theorem finish_replies {success : Bool} (task : r.tasks[k]? = some (.doneSend i success))
    (object : r.ins[i]? = some t)
    (outcome : FinishOutcome io { r with tasks := r.tasks.eraseIdx k } i t success r')
    (here : RecvAt r id p) : Replies r r' (.sendReturned k .ok io) id p := by
  have nothing : r.out = r.out ++ [] := by simp
  have taken := taken_of_object object
  cases outcome with
  | refused =>
    refine replies_aside here ?_ nothing (silent_nothing id) rfl
    exact aside_reported task rfl (by simp) (map_set_same object rfl) (by simp)
  | finalized =>
    by_cases mine : t.transferId = id
    · subst mine
      cases here.acknowledged tidy task taken
      refine ⟨.winning, [], .winning i ?_ (here.unlisted) (.inr ⟨_, mem_append_right _
        (mem_singleton.mpr rfl), rfl, rfl⟩), nothing, fun _ => .stay .winning⟩
      have ids : (r.ins.set i { t with state := .completed }).map IncomingTransfer.transferId =
          takenIds r := map_set_same object rfl
      rw [takenIds, ids]
      exact taken
    · have apart : (takenIds r)[i]? ≠ some id := by
        rw [taken]
        exact fun same => mine (Option.some.inj same)
      refine replies_aside here ?_ nothing (silent_nothing id) rfl
      refine aside_reported task rfl ?_ (map_set_same object rfl) (by simp [apart])
      rintro _ same
      cases same
      exact apart
  | raised =>
    by_cases mine : t.transferId = id
    · subst mine
      cases here.acknowledged tidy task taken
      have held : Owed r i := .inr (.inr ⟨_, mem_of_getElem? task, rfl⟩)
      refine ⟨.gone, [], .gone i taken (here.unlisted) ?_ ?_, nothing, fun _ => .unfinished⟩
      · intro again
        exact erased_fresh tidy.sane.once task rfl _ again rfl
      · intro n member about
        exact absurd about (owed_unnoted tidy held n member)
    · refine replies_aside here (aside_tasks ?_ rfl rfl ?_ rfl) nothing (silent_nothing id) rfl
      · exact asked_erased task (by simp [askedId])
      · intro _ ident
        refine mem_eraseIdx_other task ?_
        intro same
        cases same
        exact mine (Option.some.inj (taken.symm.trans ident))

theorem send_returned_replies (outcome : StepOutcome host r (.sendReturned k .ok io) r')
    (here : RecvAt r id p) : Replies r r' (.sendReturned k .ok io) id p := by
  have nothing : r.out = r.out ++ [] := by simp
  cases outcome with
  | idle => exact ⟨p, [], here, nothing, fun _ => .stay p⟩
  | sendRaised _ _ _ raises => exact absurd rfl raises
  | orphaned _ _ _ i _ task absent =>
    obtain ⟨_, object, _⟩ := tidy.sane.held _ (mem_of_getElem? task) i rfl
    cases absent.symm.trans object
  | abortNoted _ _ _ _ _ task =>
    refine replies_aside here ?_ nothing (silent_nothing id) rfl
    exact aside_reported task rfl (by simp) rfl (by simp)
  | finished _ _ _ _ _ _ _ task found outcome => exact finish_replies tidy task found outcome here

theorem error_replies {error : Text}
    (outcome : StepOutcome host r (.peerError addr transferId error io) r') (here : RecvAt r id p) :
    Replies r r' (.peerError addr transferId error io) id p := by
  have nothing : r.out = r.out ++ [] := by simp
  cases outcome with
  | idle =>
    refine ⟨p, [], here, nothing, ?_⟩
    intro _
    simp only [signal]
    split
    · exact .errored p p
    · exact .stay p
  | failed _ _ error io i t found =>
    obtain ⟨object, live, rfl, entry⟩ := lookup_entry tidy.sane found
    obtain ⟨d, failed, _⟩ := fail_kept_spec object host io none error
    rw [failed]
    have retires : Retires r { r with
        disk := d
        ins := r.ins.set i (asFailed t)
        incoming := r.incoming.pop t.transferId
        notes := r.notes ++ [⟨i, false, none, some error⟩] } i t [] :=
      ⟨object, live, entry, map_set_same object rfl, rfl, by simp, by simp, _, rfl, by simp⟩
    exact retires.replies tidy here (fun _ => rfl) nothing (fun other _ => silent_nothing other)
      (retires.gone tidy (by simp)) (fun _ => .errored .live .gone)

theorem receiver_replies (connected : e.connected)
    (unheard : e.signal id = some .offer → p = .fresh) (outcome : StepOutcome host r e r')
    (here : RecvAt r id p) : Replies r r' e id p := by
  cases e with
  | offer =>
    refine offer_replies outcome here ?_
    intro mine
    exact unheard (by simp [signal, mine])
  | decide => exact decide_replies tidy outcome here
  | chunk addr transferId sequence offset data io =>
    cases outcome with
    | idle _ other => cases other
    | chunk _ _ _ _ _ _ _ outcome => exact chunk_replies tidy outcome here
  | done addr transferId io =>
    cases outcome with
    | idle _ other => cases other
    | done _ _ _ _ outcome => exact done_replies tidy outcome here
  | sendReturned =>
    cases connected
    exact send_returned_replies tidy outcome here
  | connectionLost => exact connected.elim
  | peerError => exact error_replies tidy outcome here

theorem distinct_fewer (asked : (askedIds r').Sublist (askedIds r))
    (ids : takenIds r' = takenIds r) : (askedIds r' ++ takenIds r').Nodup := by
  rw [ids]
  exact tidy.distinct.sublist (asked.append (List.Sublist.refl _))

theorem distinct_erased (k : Nat) (tasks : r'.tasks = r.tasks.eraseIdx k)
    (ids : takenIds r' = takenIds r) : (askedIds r' ++ takenIds r').Nodup := by
  refine distinct_fewer tidy ?_ ids
  rw [askedIds, tasks]
  exact (eraseIdx_sublist r.tasks k).filterMap _

theorem distinct_added {more : List RecvTask} (tasks : r'.tasks = r.tasks ++ more)
    (unasked : ∀ task ∈ more, task.askedId = none) (ids : takenIds r' = takenIds r) :
    (askedIds r' ++ takenIds r').Nodup := by
  refine distinct_fewer tidy ?_ ids
  rw [askedIds, tasks, filterMap_append, filterMap_eq_nil_iff.mpr unasked, append_nil]
  exact List.Sublist.refl _

theorem distinct_outcome (connected : e.connected)
    (unheard : ∀ id, e.signal id = some .offer → RecvAt r id .fresh)
    (outcome : StepOutcome host r e r') : (askedIds r' ++ takenIds r').Nodup := by
  cases outcome with
  | idle => exact tidy.distinct
  | offered _ o _ _ _ _ _ answer =>
    cases answer with
    | rejected => exact tidy.distinct
    | asked ctx ident =>
      have new := unheard o.transferId (by simp [signal])
      cases new with
      | fresh unasked untaken =>
        have grown : (r.tasks ++ [offerDecision ctx]).filterMap askedId =
            askedIds r ++ [o.transferId] := by
          simp [askedIds, askedId, ident]
        rw [askedIds, grown]
        have whole : (askedIds r ++ [o.transferId] ++ takenIds r).Nodup := by
          rw [append_assoc, singleton_append, nodup_middle, nodup_cons]
          exact ⟨fun member => (mem_append.mp member).elim unasked untaken, tidy.distinct⟩
        exact whole
  | declined k | unopened k | sendRaised k | abortNoted k | orphaned k =>
    exact distinct_erased tidy k rfl rfl
  | accepted k _ ctx _ h offset task =>
    have fewer := tidy.distinct.sublist (((eraseIdx_sublist r.tasks k).filterMap _).append
      (List.Sublist.refl _))
    have unheard : ctx.transferId ∉
        (r.tasks.eraseIdx k).filterMap askedId ++ takenIds r := by
      intro member
      exact (mem_append.mp member).elim (asked_no_more tidy task)
        (asked_untaken tidy (asked_here task))
    have grown : (r.ins ++ [Receiver.newTransfer ctx h offset]).map IncomingTransfer.transferId =
        takenIds r ++ [ctx.transferId] := by
      simp [takenIds, Receiver.newTransfer]
    rw [takenIds, grown, ← append_assoc]
    exact (perm_append_singleton _ _).nodup_iff.mpr (nodup_cons.mpr ⟨unheard, fewer⟩)
  | chunk addr _ _ _ _ _ _ outcome =>
    cases outcome with
    | reported => exact tidy.distinct
    | taken _ _ _ _ found progress =>
      obtain ⟨object, _⟩ := lookup_entry tidy.sane found
      exact distinct_fewer tidy (List.Sublist.refl _)
        (map_set_same object progress.same.transferId)
    | aborted _ _ _ _ _ found same =>
      obtain ⟨object, _⟩ := lookup_entry tidy.sane found
      exact distinct_added tidy rfl (by simp [askedId])
        (map_set_same object same.transferId)
  | done addr _ _ _ outcome =>
    cases outcome with
    | reported => exact tidy.distinct
    | raised _ _ _ found =>
      obtain ⟨object, _⟩ := lookup_entry tidy.sane found
      exact distinct_fewer tidy (List.Sublist.refl _) (map_set_same object rfl)
    | hashed _ _ _ _ _ _ _ found =>
      obtain ⟨object, _⟩ := lookup_entry tidy.sane found
      exact distinct_added tidy rfl (by simp [askedId]) (map_set_same object rfl)
  | finished k _ _ _ _ _ _ _ found outcome =>
    cases outcome with
    | finalized | refused => exact distinct_erased tidy k rfl (map_set_same found rfl)
    | raised => exact distinct_erased tidy k rfl rfl
  | lost => exact connected.elim
  | failed _ _ error io _ _ found =>
    obtain ⟨object, _⟩ := lookup_entry tidy.sane found
    obtain ⟨_, failed, _⟩ := fail_kept_spec object host io none error
    rw [failed]
    exact distinct_fewer tidy (List.Sublist.refl _) (map_set_same object rfl)

end Peerc.Transfer
