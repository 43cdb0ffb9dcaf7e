import Peerc.Transfer.Confine
import Peerc.Transfer.Notify

/-!
Isolation between connections. Transfers of all connections share the two registries, and only
the handler of an error compares connections.
-/
namespace Peerc.Transfer
open Runs Registry

/-- A validated message of the peer; no offset is anything but an integer that is not
    negative. -/
inductive Inbound where
  | offer (o : Offer)
  | accept (transferId : Text) (resumeOffset : Option Nat)
  | reject (transferId : Text)
  | data (transferId : Text) (sequence offset : Nat) (content : Bytes)
  | done (transferId : Text)
  | completeAck (transferId : Text) (success : Bool)
  | error (transferId : Text) (code : ErrorCode)

inductive SessionInput where
  | arrives (addr : Text) (m : Inbound) (io : Io)
  | decided (task : Nat) (accepted : Bool) (io : Io)
  | replied (task : Nat) (result : SendResult) (io : Io)
  | offerFile (addr filepath transferId : Text) (file : Option Bytes)
  | resumed (task : Nat) (result : SendResult) (read : ReadResult)
  | ackWaited (task : Nat) (timeout : Bool)
  | disconnected (addr : Text) (peer : Option Text) (io : Io)

def Inbound.event (addr : Text) (io : Io) : Inbound → SessionEvent
  | .offer o => .receiving (.offer addr o io)
  | .accept id resumeOffset => .sending (.accept addr id resumeOffset)
  | .reject id => .sending (.reject id)
  | .data id sequence offset content => .receiving (.chunk addr id sequence offset content io)
  | .done id => .receiving (.done addr id io)
  | .completeAck id success => .sending (.completeAck id success)
  | .error id code => .error addr id code io

def SessionInput.event : SessionInput → SessionEvent
  | .arrives addr m io => m.event addr io
  | .decided k accepted io => .receiving (.decide k accepted io)
  | .replied k result io => .receiving (.sendReturned k result io)
  | .offerFile addr filepath id file => .sending (.offerFile addr filepath id file)
  | .resumed k result read => .sending (.resumed k result read)
  | .ackWaited k timeout => .sending (.ackWaited k timeout)
  | .disconnected addr peer io => .disconnected addr peer io

def Session.take (host : Host) (s : Session) (input : SessionInput) : Session :=
  s.step host input.event

def SessionInput.connection (s : Session) : SessionInput → Option Text
  | .arrives addr _ _ => some addr
  | .decided k accepted io => (RecvEvent.decide k accepted io).connection s.receiver
  | .replied k result io => (RecvEvent.sendReturned k result io).connection s.receiver
  | _ => none

structure UntouchedOut (s s' : Sender) (i : Nat) (t : OutgoingTransfer) : Prop where
  object : s'.outs[i]? = some t
  registration : ∀ id, s'.outgoing.get id = some i ↔ s.outgoing.get id = some i

def ConfinedOut (addr : Text) (s s' : Sender) : Prop :=
  ∀ i t, s.outs[i]? = some t → t.addrKey ≠ addr → UntouchedOut s s' i t

def Isolated (addr : Text) (s s' : Session) : Prop :=
  ConfinedOut addr s.sender s'.sender ∧ Confined addr s.receiver s'.receiver

def Isolates (host : Host) (s : Session) (input : SessionInput) : Prop :=
  ∀ addr, input.connection s = some addr → Isolated addr s (s.take host input)

def Inbound.ActsOn : Inbound → OutgoingTransfer → Prop
  | .accept _ resumeOffset, t =>
      t.state = .waitingForAccept ∨ honouredOffset resumeOffset t.size ≠ t.resumeOffset
  | .reject _, t => t.state = .waitingForAccept
  | .completeAck _ success, t =>
      t.state = .waitingForCompleteAck ∧ ¬ (t.ackEvent = true ∧ t.ackSuccess = success) ∨
        t.state = .sending ∧ success = false
  | _, _ => False

def Inbound.transferId : Inbound → Text
  | .offer o => o.transferId
  | .accept id _ => id
  | .reject id => id
  | .data id _ _ _ => id
  | .done id => id
  | .completeAck id _ => id
  | .error id _ => id

def AnswersOther (s : Sender) (addr : Text) (m : Inbound) : Prop :=
  ∃ i t, s.lookup m.transferId = some (i, t) ∧ t.addrKey ≠ addr ∧ m.ActsOn t

def Intrudes (s : Session) : SessionInput → Prop
  | .arrives addr m io =>
      match m.event addr io with
      | .sending _ => AnswersOther s.sender addr m
      | .receiving e => Trespasses s.receiver e
      | _ => False
  | _ => False

def SparesFiles (host : Host) (s : Session) (input : SessionInput) : Prop :=
  match input.event with
  | .receiving e => Spares host s.receiver e
  | _ => True

variable {m : Inbound}

section Sender
variable {s s' : Sender} {i : Nat} {t t' : OutgoingTransfer} {addr id : Text}

theorem confined_out_same (outs : s'.outs = s.outs) (outgoing : s'.outgoing = s.outgoing) :
    ConfinedOut addr s s' := by
  intro _ _ object _
  refine ⟨?_, ?_⟩
  · rw [outs]
    exact object
  · intro _
    rw [outgoing]

theorem confined_out_own (object : s.outs[i]? = some t) (own : t.addrKey = addr)
    (registered : s.outgoing.get t.transferId = some i) (outs : s'.outs = s.outs.set i t')
    (outgoing : s'.outgoing = s.outgoing ∨ s'.outgoing = s.outgoing.pop t.transferId) :
    ConfinedOut addr s s' := by
  intro j _ objectU foreign
  have other : i ≠ j := by
    rintro rfl
    cases object.symm.trans objectU
    exact foreign own
  refine ⟨?_, ?_⟩
  · rw [outs, List.getElem?_set_ne other]
    exact objectU
  · intro _
    rcases outgoing with same | popped
    · rw [same]
    · rw [popped, Dict.get_pop]
      split
      · rename_i isId
        rw [isId, registered]
        simpa using other
      · rfl

theorem put_same (object : s.outs[i]? = some t) : s.put i t = s := by
  have same : s.outs.set i t = s.outs := by
    apply List.ext_getElem?
    intro j
    by_cases here : i = j
    · subst here
      rw [found_set object, object]
    · rw [List.getElem?_set_ne here]
  unfold Sender.put
  rw [same]

inductive Handled (s : Sender) (m : Inbound) : Sender → Prop
  | ignored (s' : Sender) (outs : s'.outs = s.outs) (outgoing : s'.outgoing = s.outgoing)
      (idle : ∀ i t, s.lookup m.transferId = some (i, t) → ¬ m.ActsOn t) : Handled s m s'
  | applied (s' : Sender) (i : Nat) (t t' : OutgoingTransfer)
      (found : s.lookup m.transferId = some (i, t)) (acts : m.ActsOn t)
      (outs : s'.outs = s.outs.set i t') (differ : t' ≠ t)
      (outgoing : s'.outgoing = s.outgoing ∨ s'.outgoing = s.outgoing.pop t.transferId) :
      Handled s m s'

theorem handled_confined_iff (sane : SaneSender s) (handled : Handled s m s') :
    ConfinedOut addr s s' ↔ ¬ AnswersOther s addr m := by
  cases handled with
  | ignored outs outgoing idle =>
    constructor
    · rintro _ ⟨i, t, found, _, acts⟩
      exact idle i t found acts
    · intro _
      exact confined_out_same outs outgoing
  | applied i t _ found acts outs differ outgoing =>
    obtain ⟨object, _, registered⟩ := sender_lookup_pending sane found
    constructor
    · rintro confined ⟨_, _, found', foreign, _⟩
      cases found.symm.trans found'
      have stays := (confined i t object foreign).object
      rw [outs, found_set object, Option.some.injEq] at stays
      exact differ stays
    · intro keeps
      have own : t.addrKey = addr := by
        by_contra foreign
        exact keeps ⟨i, t, found, foreign, acts⟩
      exact confined_out_own object own registered outs outgoing

theorem unknown_ignored (absent : s.lookup m.transferId = none) (outs : s'.outs = s.outs)
    (outgoing : s'.outgoing = s.outgoing) : Handled s m s' := by
  refine .ignored _ outs outgoing ?_
  intro _ _ found
  rw [absent] at found
  cases found

variable (sane : SaneSender s)
include sane

theorem accept_handled (resumeOffset : Option Nat) :
    Handled s (.accept id resumeOffset) (s.handleAccept addr id resumeOffset) := by
  unfold Sender.handleAccept
  cases found : s.lookup id with
  | none => exact unknown_ignored found rfl rfl
  | some pair =>
    obtain ⟨i, t⟩ := pair
    obtain ⟨object, pending, _⟩ := sender_lookup_pending sane found
    dsimp only
    split
    · rename_i refused
      have started : t.state ≠ .waitingForAccept := by
        intro state
        rw [state] at refused
        cases refused
      by_cases kept : honouredOffset resumeOffset t.size = t.resumeOffset
      · rw [kept, put_same object]
        refine .ignored _ rfl rfl ?_
        intro _ _ found'
        cases found.symm.trans found'
        exact fun acts => acts.elim started (fun differ => differ kept)
      · refine .applied _ i t _ found (.inr kept) rfl ?_ (.inl rfl)
        intro same
        exact kept (congrArg OutgoingTransfer.resumeOffset same)
    · rename_i state allowed
      have waiting : t.state = .waitingForAccept ∧ state = .sending := by
        rcases pending with isState | isState | isState <;> rw [isState] at allowed
          <;> cases allowed
        exact ⟨isState, rfl⟩
      refine .applied _ i t _ found (.inl waiting.1) rfl ?_ (.inl rfl)
      intro same
      have moved := congrArg OutgoingTransfer.state same
      rw [waiting.1, waiting.2] at moved
      cases moved

theorem reject_handled : Handled s (.reject id) (s.handleReject id) := by
  unfold Sender.handleReject
  cases found : s.lookup id with
  | none => exact unknown_ignored found rfl rfl
  | some pair =>
    obtain ⟨i, t⟩ := pair
    obtain ⟨_, pending, _⟩ := sender_lookup_pending sane found
    dsimp only
    split
    · rename_i refused
      refine .ignored _ rfl rfl ?_
      intro _ _ found' waiting
      cases found.symm.trans found'
      rw [waiting] at refused
      cases refused
    · rename_i state allowed
      have waiting : t.state = .waitingForAccept ∧ state = .rejected := by
        rcases pending with isState | isState | isState <;> rw [isState] at allowed
          <;> cases allowed
        exact ⟨isState, rfl⟩
      refine .applied _ i t _ found waiting.1 rfl ?_ (.inr rfl)
      intro same
      have moved := congrArg OutgoingTransfer.state same
      rw [waiting.1, waiting.2] at moved
      cases moved

theorem ack_handled (success : Bool) :
    Handled s (.completeAck id success) (s.handleCompleteAck id success) := by
  unfold Sender.handleCompleteAck
  cases found : s.lookup id with
  | none => exact unknown_ignored found rfl rfl
  | some pair =>
    obtain ⟨i, t⟩ := pair
    obtain ⟨object, pending, _⟩ := sender_lookup_pending sane found
    dsimp only
    split
    · rename_i waiting
      by_cases same : t.ackEvent = true ∧ t.ackSuccess = success
      · obtain ⟨isSet, rfl⟩ := same
        have unchanged : { t with
            ackSuccess := t.ackSuccess
            ackEvent := true } = t := by rw [← isSet]
        rw [unchanged, put_same object]
        refine .ignored _ rfl rfl ?_
        rintro j u found' (⟨_, differ⟩ | ⟨sending, _⟩)
        · cases found.symm.trans found'
          exact differ ⟨isSet, rfl⟩
        · cases found.symm.trans found'
          rw [waiting] at sending
          cases sending
      · refine .applied _ i t _ found (.inl ⟨waiting, same⟩) rfl ?_ (.inl rfl)
        intro unchanged
        exact same ⟨(congrArg OutgoingTransfer.ackEvent unchanged).symm,
          (congrArg OutgoingTransfer.ackSuccess unchanged).symm⟩
    · rename_i later
      split
      · rename_i aborts
        rw [fail_outgoing_eq object pending.failable]
        refine .applied _ i t _ found (.inr aborts) rfl ?_ (.inr rfl)
        intro same
        have moved := congrArg OutgoingTransfer.state same
        rw [aborts.1] at moved
        cases moved
      · rename_i ignores
        refine .ignored _ rfl rfl ?_
        rintro j u found' (⟨waiting, _⟩ | aborts)
        · cases found.symm.trans found'
          exact later waiting
        · cases found.symm.trans found'
          exact ignores aborts

theorem error_confined (error : Text) : ConfinedOut addr s (s.handleError addr id error) := by
  unfold Sender.handleError
  cases found : s.lookup id with
  | none => exact confined_out_same rfl rfl
  | some pair =>
    obtain ⟨_, _⟩ := pair
    obtain ⟨object, pending, registered⟩ := sender_lookup_pending sane found
    dsimp only
    split
    · rename_i own
      rw [fail_outgoing_eq object pending.failable]
      exact confined_out_own object own registered rfl (.inr rfl)
    · exact confined_out_same rfl rfl

end Sender

section Session
variable {host : Host} {s : Session}

structure Kept (s : Session) : Prop where
  sender : SaneSender s.sender
  receiver : Guarded s.receiver

theorem kept_take (kept : Kept s) (input : SessionInput) (spares : SparesFiles host s input) :
    Kept (s.take host input) := by
  unfold SparesFiles at spares
  unfold Session.take
  cases isEvent : input.event with
  | sending e => exact ⟨sane_sender_step kept.sender e, kept.receiver⟩
  | receiving e =>
    rw [isEvent] at spares
    exact ⟨kept.sender, guarded_step kept.receiver e spares⟩
  | error addr id code io =>
    unfold Session.step Session.handleError
    dsimp only
    split
    · split
      · have sender : SaneSender (s.sender.step host (.peerError addr id code.reason)) :=
          sane_sender_step kept.sender _
        exact ⟨sender, kept.receiver⟩
      · exact ⟨kept.sender, guarded_step kept.receiver (.peerError addr id code.reason io) trivial⟩
    · exact kept
  | disconnected addr peer io =>
    have sender : SaneSender (s.sender.step host (.connectionLost addr)) :=
      sane_sender_step kept.sender _
    exact ⟨sender, guarded_step kept.receiver (.connectionLost addr peer io) trivial⟩

theorem confined_refl (addr : Text) (r : Receiver) : Confined addr r r :=
  confined_bystander rfl rfl (fun _ _ _ _ n _ => SameFile.refl r.disk n)

theorem confined_out_refl (addr : Text) (s : Sender) : ConfinedOut addr s s :=
  confined_out_same rfl rfl

theorem receiving_isolates_iff (kept : Kept s) {input : SessionInput} {e : RecvEvent}
    (isEvent : input.event = .receiving e) (conn : input.connection s = e.connection s.receiver)
    (spares : SparesFiles host s input) : Isolates host s input ↔ ¬ Trespasses s.receiver e := by
  rw [SparesFiles, isEvent] at spares
  rw [← confined_iff kept.receiver spares]
  unfold Isolates Isolated Session.take
  rw [isEvent, conn]
  constructor
  · exact fun isolated addr acts => (isolated addr acts).2
  · exact fun confined addr acts => ⟨confined_out_refl addr s.sender, confined addr acts⟩

theorem sending_isolates_iff (kept : Kept s) {addr : Text} {io : Io} {e : SendEvent}
    (isEvent : m.event addr io = .sending e) (handled : Handled s.sender m (s.sender.step host e)) :
    Isolates host s (.arrives addr m io) ↔ ¬ AnswersOther s.sender addr m := by
  have step : s.take host (.arrives addr m io) = { s with sender := s.sender.step host e } := by
    rw [Session.take, SessionInput.event, isEvent, Session.step]
  rw [← handled_confined_iff kept.sender handled]
  unfold Isolates Isolated
  rw [step]
  constructor
  · exact fun isolated => (isolated addr rfl).1
  · intro confined _ conn
    cases conn
    exact ⟨confined, confined_refl addr s.receiver⟩

theorem error_isolates (kept : Kept s) (addr id : Text) (code : ErrorCode) (io : Io) :
    Isolates host s (.arrives addr (.error id code) io) := by
  intro _ conn
  cases conn
  unfold Session.take SessionInput.event Inbound.event Session.step Session.handleError
  dsimp only
  split
  · split
    · exact ⟨error_confined kept.sender code.reason, confined_refl addr s.receiver⟩
    · refine ⟨confined_out_refl addr s.sender, ?_⟩
      exact (confined_iff (e := .peerError addr id code.reason io) kept.receiver trivial).mpr
        (fun no => no) addr rfl
  · exact ⟨confined_out_refl addr s.sender, confined_refl addr s.receiver⟩

theorem isolates_iff (kept : Kept s) (input : SessionInput) (spares : SparesFiles host s input) :
    Isolates host s input ↔ ¬ Intrudes s input := by
  cases input with
  | arrives addr m io =>
    cases m with
    | offer o => exact receiving_isolates_iff kept (e := .offer addr o io) rfl rfl spares
    | accept _ resumeOffset =>
      exact sending_isolates_iff kept rfl (accept_handled kept.sender resumeOffset)
    | reject => exact sending_isolates_iff kept rfl (reject_handled kept.sender)
    | data id sequence offset content =>
      exact receiving_isolates_iff kept (e := .chunk addr id sequence offset content io)
        rfl rfl spares
    | done id => exact receiving_isolates_iff kept (e := .done addr id io) rfl rfl spares
    | completeAck _ success => exact sending_isolates_iff kept rfl (ack_handled kept.sender success)
    | error id code => exact ⟨fun _ no => no, fun _ => error_isolates kept addr id code io⟩
  | decided k accepted io =>
    exact receiving_isolates_iff kept (e := .decide k accepted io) rfl rfl spares
  | replied k result io =>
    exact receiving_isolates_iff kept (e := .sendReturned k result io) rfl rfl spares
  | offerFile | resumed | ackWaited | disconnected =>
    exact ⟨fun _ no => no, fun _ _ conn => by cases conn⟩

/-- If and only if no message names a transfer of another connection that its handler acts upon. -/
theorem isolated_iff_no_intrusion (host : Host) (myName : Text) (disk : Disk Text)
    (inputs : List SessionInput)
    (spares : Along (Session.take host) (SparesFiles host) (Session.start myName disk) inputs) :
    Along (Session.take host) (Isolates host) (Session.start myName disk) inputs ↔
      Along (Session.take host) (fun s input => ¬ Intrudes s input) (Session.start myName disk)
        inputs := by
  have start : Kept (Session.start myName disk) := ⟨sane_sender_start myName, guarded_start disk⟩
  exact along_congr (fun _ input kept spares => kept_take kept input spares)
    (fun _ input kept spares => isolates_iff kept input spares) start spares

end Session

open Session

section Sample

def twoConnections : List SessionInput :=
  [.arrives "B" (.offer (sampleOffer "u" "x" [1])) (Io.sample 0),
    .decided 0 true (Io.sample 0),
    .offerFile "A" "f" "s" (some [1]), .resumed 0 .ok .eof]

def Session.sample (inputs : List SessionInput) : Session :=
  run (take Host.sample) (start "me" Disk.empty) inputs

def rejectedByOwner : List SessionInput :=
  twoConnections ++ [.arrives "A" (.reject "s") (Io.sample 0)]

theorem own_reject_spares : Along (take Host.sample) (SparesFiles Host.sample)
      (start "me" Disk.empty) rejectedByOwner := by
  refine ⟨?_, ?_, trivial, trivial, trivial, trivial⟩
  · intro _ _ _ unfinished
    cases unfinished.1
  · intro ctx _
    refine ⟨fun _ => ⟨?_, ?_⟩, fun no => by cases no⟩
    · have unregistered : ∀ id : Text, (sample (twoConnections.take 1)).receiver.incoming.get
          id = none := by
        intro id
        have empty : (sample (twoConnections.take 1)).receiver.incoming.rows = [] := by
          decide +kernel
        exact Dict.get_no_rows empty id
      exact unregistered ctx.transferId
    · intro i t unfinished
      exact absurd unfinished (first_offer_alone _ _ _ _ _ i t)

theorem own_reject_isolated : Along (take Host.sample) (SparesFiles Host.sample)
        (start "me" Disk.empty) rejectedByOwner ∧
      Along (take Host.sample) (Isolates Host.sample)
        (start "me" Disk.empty) rejectedByOwner := by
  refine ⟨own_reject_spares, (isolated_iff_no_intrusion _ _ _ _ own_reject_spares).mpr ?_⟩
  refine ⟨fun no => no, fun no => no, fun no => no, fun no => no, ?_, trivial⟩
  rintro ⟨i, t, found, foreign, _⟩
  have owner : ((sample twoConnections).sender.lookup "s").map
      (fun found => found.2.addrKey) = some "A" := by decide +kernel
  have found' : (sample twoConnections).sender.lookup "s" = some (i, t) := found
  rw [found'] at owner
  exact foreign (Option.some.inj owner)

theorem isolated_states {addr other : Text} {s s' : Session} (isolated : Isolated addr s s')
    (foreign : other ≠ addr) (i : Nat) :
    (∀ state, (s.sender.outs[i]?).map (fun t => (t.addrKey, t.state)) = some (other, state) →
        (s'.sender.outs[i]?).map (fun t => (t.addrKey, t.state)) = some (other, state)) ∧
      ∀ state, (s.receiver.ins[i]?).map (fun t => (t.addrKey, t.state)) = some (other, state) →
        (s'.receiver.ins[i]?).map (fun t => (t.addrKey, t.state)) = some (other, state) := by
  constructor
  · intro _ before
    obtain ⟨t, object, same⟩ := Option.map_eq_some_iff.mp before
    cases same
    rw [(isolated.1 i t object foreign).object]
    rfl
  · intro _ before
    obtain ⟨t, object, same⟩ := Option.map_eq_some_iff.mp before
    cases same
    rw [(isolated.2 i t object foreign).object]
    rfl

theorem stranger_ends_transfers :
    ¬ Along (take Host.sample) (Isolates Host.sample) (start "me" Disk.empty)
        (twoConnections ++ [.arrives "B" (.reject "s") (Io.sample 0)]) ∧
      ¬ Along (take Host.sample) (Isolates Host.sample)
        (start "me" Disk.empty)
        (twoConnections ++ [.arrives "A" (.done "u") (Io.sample 0)]) := by
  constructor
  · intro all
    have isolated := along_at all "B" rfl
    have waits : ((sample twoConnections).sender.outs[0]?).map
        (fun t => (t.addrKey, t.state)) = some ("A".toList, .waitingForAccept) := by decide +kernel
    have stays := (isolated_states isolated (by decide) 0).1 _ waits
    have rejected : (((sample twoConnections).take Host.sample
        (.arrives "B" (.reject "s") (Io.sample 0))).sender.outs[0]?).map
        (fun t => (t.addrKey, t.state)) = some ("A".toList, .rejected) := by decide +kernel
    cases rejected.symm.trans stays
  · intro all
    have isolated := along_at all "A" rfl
    have receives : ((sample twoConnections).receiver.ins[0]?).map
        (fun t => (t.addrKey, t.state)) = some ("B".toList, .accepted) := by decide +kernel
    have stays := (isolated_states isolated (by decide) 0).2 _ receives
    have verifies : (((sample twoConnections).take Host.sample
        (.arrives "A" (.done "u") (Io.sample 0))).receiver.ins[0]?).map
        (fun t => (t.addrKey, t.state)) = some ("B".toList, .verifying) := by decide +kernel
    cases verifies.symm.trans stays

end Sample

end Peerc.Transfer
