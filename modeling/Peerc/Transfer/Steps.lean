import Peerc.Lib.Registry
import Peerc.Transfer.Handlers

/-!
Everything one event can do to the receiver, as a list of outcomes.
-/
namespace Peerc.Transfer
open List Disk Registry Receiver IncomingTransferState

inductive OfferAnswer (r : Receiver) (addr : Text) (o : Offer) :
    List RecvTask → List Output → Prop
  | rejected : OfferAnswer r addr o r.tasks (r.out ++ [.send addr (.fileReject o.transferId)])
  | asked (ctx : OfferContext) (ident : ctx.transferId = o.transferId) :
      OfferAnswer r addr o (r.tasks ++ [.offerDecision ctx]) r.out

def RecvEvent.isRequest : RecvEvent → Bool
  | .offer _ _ _ => true
  | .chunk _ _ _ _ _ _ => true
  | .done _ _ _ => true
  | _ => false

inductive StepOutcome (host : Host) (r : Receiver) : RecvEvent → Receiver → Prop
  | idle (e : RecvEvent) (other : e.isRequest = false) : StepOutcome host r e r
  | offered (addr : Text) (o : Offer) (io : Io) (d : Disk Text) (tasks : List RecvTask)
      (out : List Output)
      (frame : Frame (OfferTouches host io r (firstNonEmpty [io.peer addr]) o)
        (fun _ => False) r.disk d)
      (answer : OfferAnswer r addr o tasks out) :
      StepOutcome host r (.offer addr o io) { r with
        disk := d
        tasks := tasks
        out := out }
  | declined (k : Nat) (io : Io) (ctx : OfferContext) (d : Disk Text)
      (task : r.tasks[k]? = some (.offerDecision ctx))
      (frame : Frame (fun n => ctx.resumes = true ∧ Staging ctx.partPath n) (fun _ => False)
        r.disk d) :
      StepOutcome host r (.decide k false io) { r with
        disk := d
        tasks := r.tasks.eraseIdx k
        out := r.out ++ [.send ctx.addrKey (.fileReject ctx.transferId)] }
  | unopened (k : Nat) (io : Io) (ctx : OfferContext) (d : Disk Text)
      (task : r.tasks[k]? = some (.offerDecision ctx))
      (result : openPart io r.disk ctx = (d, none))
      (frame : Frame (Staging ctx.partPath) (fun i => r.disk.inode ctx.partPath = some i)
        r.disk d) :
      StepOutcome host r (.decide k true io) { r with
        disk := d
        tasks := r.tasks.eraseIdx k }
  | accepted (k : Nat) (io : Io) (ctx : OfferContext) (d : Disk Text) (h : Handle) (offset : Nat)
      (task : r.tasks[k]? = some (.offerDecision ctx))
      (result : openPart io r.disk ctx = (d, some (h, offset)))
      (frame : Frame (Staging ctx.partPath) (fun i => r.disk.inode ctx.partPath = some i) r.disk
        (withSidecar host io ctx h offset d))
      (opened : OpenedPart r.disk (withSidecar host io ctx h offset d) ctx h offset) :
      StepOutcome host r (.decide k true io) { r with
        disk := withSidecar host io ctx h offset d
        ins := r.ins ++ [newTransfer ctx h offset]
        incoming := r.incoming.set ctx.transferId r.ins.length
        tasks := r.tasks.eraseIdx k
        out := r.out ++ [.send ctx.addrKey (.fileAccept ctx.transferId offset)] }
  | chunk (addr transferId : Text) (sequence offset : Nat) (data : Bytes) (io : Io) (r' : Receiver)
      (outcome : ChunkOutcome r transferId r') :
      StepOutcome host r (.chunk addr transferId sequence offset data io) r'
  | done (addr transferId : Text) (io : Io) (r' : Receiver)
      (outcome : DoneOutcome host io r transferId r') :
      StepOutcome host r (.done addr transferId io) r'
  | sendRaised (k : Nat) (result : SendResult) (io : Io) (raises : result ≠ .ok) :
      StepOutcome host r (.sendReturned k result io) { r with tasks := r.tasks.eraseIdx k }
  | abortNoted (k : Nat) (result : SendResult) (io : Io) (i : Nat) (reason : Text)
      (task : r.tasks[k]? = some (.abortSend i reason)) :
      StepOutcome host r (.sendReturned k result io) { r with
        tasks := r.tasks.eraseIdx k
        notes := r.notes ++ [⟨i, false, none, some reason⟩] }
  | finished (k : Nat) (result : SendResult) (io : Io) (i : Nat) (t : IncomingTransfer)
      (success : Bool) (r' : Receiver) (task : r.tasks[k]? = some (.doneSend i success))
      (found : r.ins[i]? = some t)
      (outcome : FinishOutcome io { r with tasks := r.tasks.eraseIdx k } i t success r') :
      StepOutcome host r (.sendReturned k result io) r'
  | orphaned (k : Nat) (result : SendResult) (io : Io) (i : Nat) (success : Bool)
      (task : r.tasks[k]? = some (.doneSend i success)) (absent : r.ins[i]? = none) :
      StepOutcome host r (.sendReturned k result io) { r with tasks := r.tasks.eraseIdx k }
  | lost (addr : Text) (peer : Option Text) (io : Io) :
      StepOutcome host r (.connectionLost addr peer io) (r.connectionLost host io addr peer)
  | failed (addr transferId error : Text) (io : Io) (i : Nat) (t : IncomingTransfer)
      (found : r.lookup transferId = some (i, t)) (own : t.addrKey = addr) :
      StepOutcome host r (.peerError addr transferId error io)
        (failKept host io none error r i)

theorem decide_outcome (host : Host) (r : Receiver) (k : Nat) (accepted : Bool) (io : Io) :
    StepOutcome host r (.decide k accepted io) (r.step host (.decide k accepted io)) := by
  unfold step resume
  dsimp only
  split
  · exact .idle _ rfl
  · rename_i task isTask
    split
    · cases task with
      | abortSend | doneSend => simp [RecvTask.awaitsUser] at *
      | offerDecision ctx =>
        cases accepted with
        | false =>
          obtain ⟨d, declined, frame⟩ := decline_spec
            { r with tasks := r.tasks.eraseIdx k } io ctx
          simp only [decided, Bool.false_eq_true, if_false]
          rw [declined]
          exact .declined k io ctx d isTask frame
        | true =>
          obtain ⟨d, opened, result, frame, raises, opens⟩ := accept_spec
            { r with tasks := r.tasks.eraseIdx k } host io ctx
          simp only [decided, if_true]
          cases opened with
          | none =>
            rw [raises rfl]
            exact .unopened k io ctx d isTask result frame
          | some pair =>
            obtain ⟨h, offset⟩ := pair
            obtain ⟨part, registered⟩ := opens h offset rfl
            rw [registered]
            refine .accepted k io ctx d h offset isTask result ?_ (part.with_sidecar host io)
            exact frame.trans (with_sidecar_frame host io ctx h offset d (.inr rfl))
    · exact .idle _ rfl

theorem send_returned_outcome (host : Host) (r : Receiver) (k : Nat) (result : SendResult)
    (io : Io) :
    StepOutcome host r (.sendReturned k result io) (r.step host (.sendReturned k result io)) := by
  unfold step resume
  dsimp only
  split
  · exact .idle _ rfl
  · rename_i task isTask
    split
    · unfold sendReturned
      split
      · rename_i raises
        refine .sendRaised k result io ?_
        rcases raises with rfl | rfl <;> simp
      · cases task with
        | offerDecision => simp [RecvTask.awaitsUser] at *
        | abortSend i reason => exact .abortNoted k result io i reason isTask
        | doneSend i success =>
          dsimp only
          split
          · rename_i absent
            exact .orphaned k result io i success isTask absent
          · rename_i t found
            exact .finished k result io i t success _ isTask found (finish_outcome _ io i t success)
    · exact .idle _ rfl

theorem step_outcome (host : Host) (r : Receiver) (e : RecvEvent) :
    StepOutcome host r e (r.step host e) := by
  cases e with
  | offer addr o io =>
    obtain ⟨d, frame, _, refused | ⟨ctx, asked, asks⟩⟩ := handle_offer_spec r host io addr o
    · rw [step, refused]
      exact .offered addr o io d r.tasks _ frame .rejected
    · rw [step, asked]
      exact .offered addr o io d _ r.out frame (.asked ctx asks.transferId)
  | decide k accepted io => exact decide_outcome host r k accepted io
  | chunk addr id sequence offset data io =>
    exact .chunk addr id sequence offset data io _
      (handle_chunk_outcome r host io addr id sequence offset data)
  | done addr id io => exact .done addr id io _ (handle_done_outcome r host io addr id)
  | sendReturned k result io => exact send_returned_outcome host r k result io
  | connectionLost addr peer io => exact .lost addr peer io
  | peerError addr id error io =>
    unfold step handleError
    dsimp only
    cases found : r.lookup id with
    | none => exact .idle _ rfl
    | some pair =>
      obtain ⟨i, t⟩ := pair
      dsimp only
      split
      · rename_i may
        exact .failed addr id error io i t found may.1
      · exact .idle _ rfl

variable {r : Receiver} {t : IncomingTransfer} {i : Nat}

theorem step_acknowledged {k : Nat} {success : Bool}
    (task : r.tasks[k]? = some (.doneSend i success)) (object : r.ins[i]? = some t) (host : Host)
    (io : Io) : r.step host (.sendReturned k .ok io) =
      { r with tasks := r.tasks.eraseIdx k }.finish io i t success := by
  simp [step, resume, task, RecvTask.awaitsUser, sendReturned, object]

def Live (t : IncomingTransfer) : Prop := t.state = .accepted ∨ t.state = .receiving

instance (t : IncomingTransfer) : Decidable (Live t) := inferInstanceAs (Decidable (_ ∨ _))

theorem as_failed_not_live (t : IncomingTransfer) : ¬ Live (asFailed t) := by
  unfold Live asFailed
  cases t.state <;> simp [transitionTo, allowed,
    incomingTerminalOutcomes]

theorem as_failed_state (live : Live t) : (asFailed t).state = .failed := by
  unfold asFailed
  rcases live with state | state <;>
    simp [state, transitionTo, allowed,
      incomingTerminalOutcomes]

theorem receiving_allowed (live : Live t) : t.state.transitionTo .receiving = some .receiving := by
  rcases live with state | state <;>
    simp [state, transitionTo, allowed]

theorem verifying_allowed (live : Live t) : verifyingState t.state = some .verifying := by
  rcases live with state | state <;>
    simp [state, verifyingState, transitionTo,
      allowed]

theorem as_verifying_not_live (t : IncomingTransfer) : ¬ Live (asVerifying t) := by
  simp [Live, asVerifying]

def RecvTask.target : RecvTask → Option Nat
  | .offerDecision _ => none
  | .abortSend i _ => some i
  | .doneSend i _ => some i

def RecvTask.Holds (task : RecvTask) (t : IncomingTransfer) : Prop :=
  match task with
  | .offerDecision _ => True
  | .abortSend _ _ => t.state = .failed
  | .doneSend _ _ => t.state = .verifying

theorem held_not_live {task : RecvTask}
    (target : task.target = some i) (holds : task.Holds t) : ¬ Live t := by
  cases task with
  | offerDecision => cases target
  | abortSend | doneSend =>
    unfold RecvTask.Holds at holds
    simp [Live, holds]

/-- Each suspended handler has a transfer of its own that is no longer live. -/
structure Sane (r : Receiver) : Prop where
  listed : Listed Live IncomingTransfer.transferId r.ins r.incoming
  held : ∀ task ∈ r.tasks, ∀ i, task.target = some i → ∃ t, r.ins[i]? = some t ∧ task.Holds t
  once : (r.tasks.filterMap RecvTask.target).Nodup

theorem sane_start (d : Disk Text) : Sane (start d) where
  listed := listed_nil
  held task member := by simp [start] at member
  once := nodup_nil

theorem lookup_live (sane : Sane r) {transferId : Text}
    (found : r.lookup transferId = some (i, t)) :
    r.ins[i]? = some t ∧ Live t ∧ r.incoming.get t.transferId = some i := by
  obtain ⟨listed, object⟩ := (lookup_some_iff r transferId i t).mp found
  obtain ⟨_, object', ident, live⟩ := sane.listed transferId i listed
  cases object.symm.trans object'
  exact ⟨object, live, by rw [ident]; exact listed⟩

theorem once_erased {l : List RecvTask} (once : (l.filterMap RecvTask.target).Nodup) (k : Nat) :
    ((l.eraseIdx k).filterMap RecvTask.target).Nodup :=
  once.sublist ((eraseIdx_sublist l k).filterMap _)

theorem sane_erase (sane : Sane r) (k : Nat) (d : Disk Text) (notes : List Note)
    (out : List Output) : Sane { r with
      disk := d
      tasks := r.tasks.eraseIdx k
      notes := notes
      out := out } where
  listed := sane.listed
  held task member := sane.held task (mem_of_mem_eraseIdx member)
  once := once_erased sane.once k

section Live
variable (sane : Sane r) (found : r.ins[i]? = some t) (live : Live t)
include sane found live

theorem held_set (t' : IncomingTransfer) : ∀ task ∈ r.tasks, ∀ j, task.target = some j →
    ∃ u, (r.ins.set i t')[j]? = some u ∧ task.Holds u := by
  intro task member j target
  obtain ⟨u, object, holds⟩ := sane.held task member j target
  have apart : j ≠ i := by
    rintro rfl
    cases found.symm.trans object
    exact held_not_live target holds live
  exact ⟨u, found_aside object apart, holds⟩

theorem held_add {task : RecvTask} {t' : IncomingTransfer} (own : task.target = some i)
    (holds : task.Holds t') : ∀ other ∈ r.tasks ++ [task], ∀ j, other.target = some j →
    ∃ u, (r.ins.set i t')[j]? = some u ∧ other.Holds u := by
  intro other member j target
  rcases mem_append.mp member with old | new
  · exact held_set sane found live t' other old j target
  · cases mem_singleton.mp new
    cases own.symm.trans target
    exact ⟨t', found_set found, holds⟩

theorem once_add {task : RecvTask} (target : task.target = some i) :
    ((r.tasks ++ [task]).filterMap RecvTask.target).Nodup := by
  rw [filterMap_append, filterMap_cons_some target, filterMap_nil]
  refine nodup_append.mpr ⟨sane.once, nodup_singleton i, ?_⟩
  intro a isA _ isB same
  rw [mem_singleton.mp isB] at same
  subst same
  obtain ⟨other, member, target'⟩ := mem_filterMap.mp isA
  obtain ⟨_, object, holds⟩ := sane.held other member a target'
  cases found.symm.trans object
  exact held_not_live target' holds live

theorem sane_fail_kept (host : Host) (io : Io) (lostPeer : Option Text) (error : Text) :
    Sane (failKept host io lostPeer error r i) := by
  obtain ⟨_, failed, _⟩ := fail_kept_spec found host io lostPeer error
  rw [failed]
  exact ⟨listed_retire sane.listed found _, held_set sane found live _, sane.once⟩

end Live

variable {host : Host}

theorem connection_lost_induction {P : Receiver → Prop} {io : Io} {addr : Text} {peer : Option Text}
    (keep : ∀ (r : Receiver) (i : Nat) (t : IncomingTransfer), Sane r → P r →
      r.ins[i]? = some t → Live t → r.incoming.get t.transferId = some i → t.addrKey = addr →
      P (failKept host io peer "connection_lost" r i)) (sane : Sane r) (start :
    P r) : Sane (r.connectionLost host io addr peer) ∧ P (r.connectionLost host io addr peer) := by
  have loop : ∀ (is : List Nat) (r : Receiver), is.Nodup → Sane r → P r →
      (∀ i ∈ is, ∃ t, r.ins[i]? = some t ∧ Live t ∧ r.incoming.get t.transferId = some i ∧
        t.addrKey = addr) →
      Sane (is.foldl (failKept host io peer "connection_lost") r) ∧
        P (is.foldl (failKept host io peer "connection_lost") r) := by
    intro is
    induction is with
    | nil => exact fun r _ sane start _ => ⟨sane, start⟩
    | cons i _ ih =>
      intro r distinct sane start all
      obtain ⟨first, distinct⟩ := nodup_cons.mp distinct
      obtain ⟨t, found, live, registered, ofAddr⟩ := all i mem_cons_self
      refine ih _ distinct (sane_fail_kept sane found live host io peer _)
        (keep r i t sane start found live registered ofAddr) ?_
      intro j member
      obtain ⟨u, foundJ, liveJ, registeredJ, ofAddrJ⟩ := all j (mem_cons_of_mem i member)
      have apart : j ≠ i := fun same => first (same ▸ member)
      have otherId : u.transferId ≠ t.transferId := by
        intro same
        rw [same, registered] at registeredJ
        exact apart (Option.some.inj registeredJ).symm
      obtain ⟨_, failed, _⟩ := fail_kept_spec found host io peer "connection_lost"
      rw [failed]
      refine ⟨u, found_aside foundJ apart, liveJ, ?_, ofAddrJ⟩
      rw [Dict.get_pop, if_neg otherId]
      exact registeredJ
  unfold connectionLost
  refine loop _ r ((listed_values_nodup sane.listed).filter _) sane start ?_
  intro i member
  obtain ⟨value, ofAddr⟩ := mem_filter.mp member
  obtain ⟨id, listed⟩ := (Dict.mem_values r.incoming i).mp value
  obtain ⟨t, found, rfl, live⟩ := sane.listed id i listed
  rw [found] at ofAddr
  exact ⟨t, found, live, listed, by simpa using ofAddr⟩

theorem sane_outcome {r' : Receiver} {e : RecvEvent} (sane : Sane r)
    (outcome : StepOutcome host r e r') : Sane r' := by
  cases outcome with
  | idle => exact ⟨sane.listed, sane.held, sane.once⟩
  | offered _ _ _ _ _ _ _ answer =>
    cases answer with
    | rejected => exact ⟨sane.listed, sane.held, sane.once⟩
    | asked ctx =>
      refine ⟨sane.listed, ?_, ?_⟩
      · intro task member i target
        rcases List.mem_append.mp member with old | new
        · exact sane.held task old i target
        · rw [List.mem_singleton.mp new] at target
          cases target
      · have untargeted : List.filterMap RecvTask.target [.offerDecision ctx] = [] := rfl
        rw [List.filterMap_append, untargeted, List.append_nil]
        exact sane.once
  | declined k _ _ d => exact sane_erase sane k d r.notes _
  | unopened k _ _ d => exact sane_erase sane k d r.notes r.out
  | accepted k io ctx d h offset task =>
    have erased := sane_erase sane k (withSidecar host io ctx h offset d) r.notes r.out
    refine ⟨listed_add sane.listed (.inl rfl), ?_, erased.once⟩
    intro task member i target
    obtain ⟨u, object, holds⟩ := erased.held task member i target
    exact ⟨u, found_append object, holds⟩
  | chunk addr _ _ _ _ _ _ outcome =>
    cases outcome with
    | reported => exact ⟨sane.listed, sane.held, sane.once⟩
    | taken _ _ t' _ found progress =>
      obtain ⟨object, live, _⟩ := lookup_live sane found
      exact ⟨listed_update sane.listed object progress.same.transferId (.inr progress.state),
        held_set sane object live t', sane.once⟩
    | aborted _ _ _ _ _ found _ state =>
      obtain ⟨object, live, _⟩ := lookup_live sane found
      exact ⟨listed_retire sane.listed object _,
        held_add sane object live rfl (as_failed_state (.inr state)), once_add sane object live rfl⟩
  | done addr _ _ _ outcome =>
    cases outcome with
    | reported => exact ⟨sane.listed, sane.held, sane.once⟩
    | raised _ _ _ found =>
      obtain ⟨object, live, _⟩ := lookup_live sane found
      exact ⟨listed_retire sane.listed object _, held_set sane object live _, sane.once⟩
    | hashed _ _ _ _ _ _ _ found =>
      obtain ⟨object, live, _⟩ := lookup_live sane found
      exact ⟨listed_retire sane.listed object _, held_add sane object live rfl rfl,
        once_add sane object live rfl⟩
  | sendRaised k | orphaned k => exact sane_erase sane k r.disk r.notes r.out
  | abortNoted k => exact sane_erase sane k r.disk _ r.out
  | finished k _ _ i t _ _ task found outcome =>
    have member := List.mem_of_getElem? task
    obtain ⟨u, object, holds⟩ := sane.held _ member i rfl
    cases found.symm.trans object
    have dead : ¬ Live t := held_not_live rfl holds
    have others : ∀ t' : IncomingTransfer, ∀ y ∈ r.tasks.eraseIdx k, ∀ j, y.target = some j →
        ∃ u, (r.ins.set i t')[j]? = some u ∧ y.Holds u := by
      intro _ y isY j target
      have apart : j ≠ i := by
        rintro rfl
        exact erased_fresh sane.once task rfl y isY target
      obtain ⟨v, objectJ, holdsJ⟩ := sane.held y (List.mem_of_mem_eraseIdx isY) j target
      exact ⟨v, found_aside objectJ apart, holdsJ⟩
    cases outcome with
    | finalized | refused =>
      exact ⟨listed_dead sane.listed object dead _, others _, once_erased sane.once k⟩
    | raised => exact sane_erase sane k r.disk r.notes r.out
  | lost =>
    exact (connection_lost_induction (P := fun _ => True) (fun _ _ _ _ _ _ _ _ _ => trivial) sane
      trivial).1
  | failed _ _ error io _ _ found =>
    obtain ⟨object, live, _⟩ := lookup_live sane found
    exact sane_fail_kept sane object live host io none error

theorem sane_step (sane : Sane r) (e : RecvEvent) :
    Sane (r.step host e) := sane_outcome sane (step_outcome host r e)

end Peerc.Transfer
