import Peerc.Lib.Runs
import Peerc.Transfer.Steps

/-!
Live transfers and their files. The checks for a busy name run before the user is asked, the
registration after.
-/
namespace Peerc.Transfer
open List Runs Registry Disk Receiver IncomingTransfer
open Decoded (ofText)

/-- Still receiving, or verified by a handler that is sending its acknowledgement. -/
def Unfinished (r : Receiver) (i : Nat) (t : IncomingTransfer) : Prop :=
  r.ins[i]? = some t ∧
    (Live t ∨ t.state = .verifying ∧ ∃ success, RecvTask.doneSend i success ∈ r.tasks)

def Apart (dest part dest' part' : Text) : Prop :=
  part ≠ part' ∧ dest ≠ dest' ∧ part ≠ dest' ∧ dest ≠ part'

structure SeparateStorage (r : Receiver) : Prop where
  apart : ∀ i j t u, Unfinished r i t → Unfinished r j u → i ≠ j →
    Apart t.destPath t.partPath u.destPath u.partPath
  registered : Registered Live transferId r.ins r.incoming

def AcceptsApart (r : Receiver) : RecvEvent → Prop
  | .decide k true io => ∀ ctx, r.tasks[k]? = some (.offerDecision ctx) →
      (openPart io r.disk ctx).2.isSome = true →
      r.incoming.get ctx.transferId = none ∧
        ∀ i t, Unfinished r i t → Apart t.destPath t.partPath ctx.destPath ctx.partPath
  | _ => True

theorem Apart.symm {dest part dest' part' : Text} (apart : Apart dest part dest' part') :
    Apart dest' part' dest part :=
  ⟨apart.1.symm, apart.2.1.symm, apart.2.2.2.symm, apart.2.2.1.symm⟩

def Shrinks (r r' : Receiver) : Prop :=
  ∀ j u', Unfinished r' j u' → ∃ u, Unfinished r j u ∧ SameOffer u u'

variable {i j : Nat} {t u : IncomingTransfer} {r r' : Receiver} {t' : IncomingTransfer}
  {success : Bool}

theorem Unfinished.back (unfinished : Unfinished r' j u) (object : r.ins[j]? = some u)
    (tasks : ∀ success, .doneSend j success ∈ r'.tasks → .doneSend j success ∈ r.tasks) :
    Unfinished r j u := by
  rcases unfinished.2 with live | ⟨state, success, member⟩
  · exact ⟨object, .inl live⟩
  · exact ⟨object, .inr ⟨state, success, tasks success member⟩⟩

theorem unfinished_registered (sane : Sane r) (object : r.ins[i]? = some t)
    (registered : r.incoming.get t.transferId = some i) : Unfinished r i t := by
  obtain ⟨_, object', _, live⟩ := sane.listed _ _ registered
  cases object.symm.trans object'
  exact ⟨object, .inl live⟩

theorem unfinished_acknowledging (sane : Sane r) (object : r.ins[i]? = some t)
    (task : RecvTask.doneSend i success ∈ r.tasks) : Unfinished r i t := by
  obtain ⟨_, object', holds⟩ := sane.held _ task i rfl
  cases object.symm.trans object'
  exact ⟨object, .inr ⟨holds, success, task⟩⟩

theorem live_not_acknowledging (sane : Sane r) (object : r.ins[i]? = some t) (live : Live t)
    (success : Bool) : RecvTask.doneSend i success ∉ r.tasks := by
  intro task
  obtain ⟨_, object', holds⟩ := sane.held _ task i rfl
  cases object.symm.trans object'
  exact held_not_live rfl holds live

theorem discarded_frame (io : Io) (d : Disk Text) (t : IncomingTransfer) :
    Frame (Staging t.partPath) (fun _ => False) d (discard io d t.partPath) :=
  discard_frame io d (fun _ staged => staged)

theorem set_other (ins : r'.ins = r.ins.set i t') (j : Nat) (u : IncomingTransfer) (other : j ≠ i)
    (object : r'.ins[j]? = some u) : r.ins[j]? = some u := by
  rw [ins, getElem?_set_ne (fun same => other same.symm)] at object
  exact object

theorem set_own (ins : r'.ins = r.ins.set i t') (object : r'.ins[i]? = some u) : u = t' := by
  rw [ins] at object
  rcases set_cases object with ⟨_, same⟩ | ⟨other, _⟩
  · exact same
  · exact absurd rfl other

theorem shrinks_same_ins (ins : r'.ins = r.ins)
    (tasks : ∀ j success, .doneSend j success ∈ r'.tasks → .doneSend j success ∈ r.tasks) :
    Shrinks r r' := fun j u unfinished =>
  ⟨u, unfinished.back (ins ▸ unfinished.1) (tasks j), SameOffer.refl u⟩

theorem shrinks_set (ins : r'.ins = r.ins.set i t')
    (tasks : ∀ j success, .doneSend j success ∈ r'.tasks →
      .doneSend j success ∈ r.tasks ∨ j = i)
    (phase : Unfinished r i t ∧ SameOffer t t' ∨ ¬ Live t' ∧ t'.state ≠ .verifying) :
    Shrinks r r' := by
  intro j u unfinished
  rcases set_cases (ins ▸ unfinished.1) with ⟨rfl, rfl⟩ | ⟨other, old⟩
  · rcases phase with ⟨before, same⟩ | ⟨dead, settled⟩
    · exact ⟨t, before, same⟩
    · rcases unfinished.2 with live | ⟨state, _⟩
      · exact absurd live dead
      · exact absurd state settled
  · refine ⟨u, unfinished.back old ?_, SameOffer.refl u⟩
    intro success member
    exact (tasks j success member).resolve_right other

theorem shrinks_fail_kept
    (found : r.ins[i]? = some t) (live : Live t) (host : Host) (io : Io) (lostPeer : Option Text)
    (error : Text) : Shrinks r (failKept host io lostPeer error r i) := by
  obtain ⟨_, failed, _⟩ := fail_kept_spec found host io lostPeer error
  rw [failed]
  have settled : (asFailed t).state ≠ .verifying := by
    rw [as_failed_state live]
    decide
  exact shrinks_set (t := t) rfl (fun _ _ member => .inl member)
    (.inr ⟨as_failed_not_live t, settled⟩)

theorem shrinks_refl (r : Receiver) : Shrinks r r := fun _ u unfinished =>
  ⟨u, unfinished, SameOffer.refl u⟩

theorem Shrinks.trans {r'' : Receiver} (first : Shrinks r r') (second : Shrinks r' r'') :
    Shrinks r r'' := by
  intro j u unfinished
  obtain ⟨v, between, same⟩ := second j u unfinished
  obtain ⟨w, before, same'⟩ := first j v between
  exact ⟨w, before, same'.trans same⟩

theorem unfinished_concat (ins : r'.ins = r.ins ++ [t])
    (tasks : ∀ j success, .doneSend j success ∈ r'.tasks → .doneSend j success ∈ r.tasks)
    (unfinished : Unfinished r' j u) : Unfinished r j u ∨ j = r.ins.length ∧ u = t :=
  (concat_cases (ins ▸ unfinished.1)).imp_left
    (fun old => unfinished.back old (tasks j))

variable {k : Nat}

theorem done_of_erased {tasks : List RecvTask} (member : .doneSend j success ∈ tasks.eraseIdx k) :
    .doneSend j success ∈ tasks :=
  mem_of_mem_eraseIdx member

def Accepts (r : Receiver) (e : RecvEvent) (r' : Receiver) : Prop :=
  ∃ k io ctx h offset, e = .decide k true io ∧ r.tasks[k]? = some (.offerDecision ctx) ∧
    (openPart io r.disk ctx).2.isSome = true ∧
    r'.ins = r.ins ++ [newTransfer ctx h offset] ∧
    r'.incoming = r.incoming.set ctx.transferId r.ins.length ∧ r'.tasks = r.tasks.eraseIdx k

variable {host : Host} {e : RecvEvent}

theorem shrinks_outcome (sane : Sane r)
    (outcome : StepOutcome host r e r') (settles : ¬ Accepts r e r') : Shrinks r r' := by
  cases outcome with
  | idle => exact shrinks_same_ins rfl (fun _ _ member => member)
  | offered _ _ _ _ _ _ _ answer =>
    refine shrinks_same_ins rfl ?_
    intro _ _ member
    cases answer with
    | rejected => exact member
    | asked => simpa using member
  | declined | unopened | sendRaised | abortNoted | orphaned =>
    exact shrinks_same_ins rfl (fun _ _ => done_of_erased)
  | accepted k io ctx _ h offset task result =>
    exact absurd ⟨k, io, ctx, h, offset, rfl, task, by rw [result]; rfl, rfl, rfl, rfl⟩ settles
  | chunk addr _ _ _ _ _ _ outcome =>
    cases outcome with
    | reported => exact shrinks_same_ins rfl (fun _ _ member => member)
    | taken _ t _ _ found progress =>
      obtain ⟨object, live, _⟩ := lookup_live sane found
      have moved : SameOffer t { t with state := .receiving } := ⟨rfl, rfl, rfl, rfl, rfl, rfl, rfl⟩
      exact shrinks_set rfl (fun j success member => .inl member)
        (.inl ⟨⟨object, .inl live⟩, moved.trans progress.same⟩)
    | aborted _ t t' _ _ _ _ state =>
      have settled : (asFailed t').state ≠ .verifying := by
        rw [as_failed_state (.inr state)]
        decide
      refine shrinks_set (t := t) rfl ?_ (.inr ⟨as_failed_not_live t', settled⟩)
      intro _ _ member
      exact .inl (by simpa using member)
  | done addr _ _ _ outcome =>
    cases outcome with
    | reported => exact shrinks_same_ins rfl (fun _ _ member => member)
    | raised _ _ _ found =>
      obtain ⟨object, live, _⟩ := lookup_live sane found
      exact shrinks_set rfl (fun j success member => .inl member)
        (.inl ⟨⟨object, .inl live⟩, ⟨rfl, rfl, rfl, rfl, rfl, rfl, rfl⟩⟩)
    | hashed _ _ _ _ _ _ _ found =>
      obtain ⟨object, live, _⟩ := lookup_live sane found
      refine shrinks_set rfl ?_
        (.inl ⟨⟨object, .inl live⟩, ⟨rfl, rfl, rfl, rfl, rfl, rfl, rfl⟩⟩)
      intro _ _ member
      rcases mem_append.mp member with old | new
      · exact .inl old
      · cases mem_singleton.mp new
        exact .inr rfl
  | finished _ _ _ _ t _ _ _ _ outcome =>
    cases outcome with
    | finalized | refused =>
      exact shrinks_set (t := t) rfl (fun j other member => .inl (done_of_erased member))
        (.inr ⟨by simp [Live], by simp⟩)
    | raised => exact shrinks_same_ins rfl (fun _ _ => done_of_erased)
  | lost _ peer io =>
    exact (connection_lost_induction (fun r' i t _ before found live _ _ =>
      before.trans (shrinks_fail_kept found live host io peer _)) sane (shrinks_refl r)).2
  | failed _ _ error io _ _ found =>
    obtain ⟨object, live, _⟩ := lookup_live sane found
    exact shrinks_fail_kept object live host io none error

theorem settles (sameSize : r'.ins.length = r.ins.length) (e : RecvEvent) :
    ¬ Accepts r e r' := by
  intro accepts
  obtain ⟨_, _, _, _, _, _, _, _, ins, _⟩ := accepts
  rw [ins, length_append] at sameSize
  simp at sameSize

theorem offer_avoids {io : Io} {peer : Option Text} {o : Offer} {n : Text}
    (isPart : ∀ {info : PartialInfo}, Staging info.partPath n → info.partPath = u.partPath)
    (spared : ∀ info, readMeta host io r.disk (metaPathFor u.partPath) = some info →
      isExpired io info = false ∧ ∀ device, u.state = .verifying → peer = some device →
        matchesOffer info (ofText device) (ofText o.filename) o.size o.checksum = false)
    (object : r.ins[j]? = some u)
    (phase : r.incoming.get u.transferId = some j ∨ u.state = .verifying) :
    ¬ OfferTouches host io r peer o n := by
  rintro (⟨info, readable, expired, staged⟩ | ⟨info, readable, ⟨device, isPeer, fits⟩,
    unused, staged⟩)
  · rw [isPart staged] at readable
    have valid := (spared info readable).1
    rw [expired] at valid
    cases valid
  · rcases phase with registered | state
    · have active : u ∈ r.active := by
        rw [active, mem_filterMap]
        exact ⟨j, (Dict.mem_values r.incoming j).mpr ⟨_, registered⟩, object⟩
      exact unused u active (isPart staged).symm
    · rw [isPart staged] at readable
      have differs := (spared info readable).2 device state isPeer
      rw [fits] at differs
      cases differs

def Among (R : Text → Text → Text → Text → Prop) (r : Receiver) : Prop :=
  ∀ i j t u, Unfinished r i t → Unfinished r j u → i ≠ j →
    R t.destPath t.partPath u.destPath u.partPath

def FilesApart (r : Receiver) : Prop :=
  ∀ i j t u, Unfinished r i t → Unfinished r j u → i ≠ j →
    Apart t.destPath t.partPath u.destPath u.partPath

section Among
variable {R : Text → Text → Text → Text → Prop}

theorem among_of_shrinks (among : Among R r) (shrinks : Shrinks r r') : Among R r' := by
  intro i j t u unfinishedT unfinishedU differ
  obtain ⟨t₀, oldT, sameT⟩ := shrinks i t unfinishedT
  obtain ⟨u₀, oldU, sameU⟩ := shrinks j u unfinishedU
  rw [sameT.destPath, sameT.partPath, sameU.destPath, sameU.partPath]
  exact among i j t₀ u₀ oldT oldU differ

variable (symm : ∀ dest part dest' part', R dest part dest' part' → R dest' part' dest part)
include symm

theorem among_concat (among : Among R r) (ins : r'.ins = r.ins ++ [t])
    (tasks : r'.tasks = r.tasks.eraseIdx k)
    (clear : ∀ i u, Unfinished r i u → R u.destPath u.partPath t.destPath t.partPath) :
    Among R r' := by
  have known : ∀ j success, .doneSend j success ∈ r'.tasks → .doneSend j success ∈ r.tasks := by
    intro _ _ member
    rw [tasks] at member
    exact done_of_erased member
  intro i j t u unfinishedT unfinishedU differ
  rcases unfinished_concat ins known unfinishedT with oldT | ⟨rfl, rfl⟩
  · rcases unfinished_concat ins known unfinishedU with oldU | ⟨rfl, rfl⟩
    · exact among i j t u oldT oldU differ
    · exact clear i t oldT
  · rcases unfinished_concat ins known unfinishedU with oldU | ⟨rfl, rfl⟩
    · exact symm _ _ _ _ (clear j u oldU)
    · exact absurd rfl differ

theorem among_outcome (sane : Sane r) (among : Among R r)
    (outcome : StepOutcome host r e r')
    (clear : ∀ k io ctx, e = .decide k true io → r.tasks[k]? = some (.offerDecision ctx) →
      (openPart io r.disk ctx).2.isSome = true →
      ∀ i t, Unfinished r i t → R t.destPath t.partPath ctx.destPath ctx.partPath) :
    Among R r' := by
  by_cases accepts : Accepts r e r'
  · obtain ⟨k, io, ctx, _, _, isDecision, task, opens, ins, _, tasks⟩ := accepts
    exact among_concat symm among ins tasks (clear k io ctx isDecision task opens)
  · exact among_of_shrinks among (shrinks_outcome sane outcome accepts)

end Among

theorem apart_outcome (sane : Sane r)
    (apart : FilesApart r) (outcome : StepOutcome host r e r')
    (clear : ∀ k io ctx, e = .decide k true io → r.tasks[k]? = some (.offerDecision ctx) →
      (openPart io r.disk ctx).2.isSome = true →
      ∀ i t, Unfinished r i t → Apart t.destPath t.partPath ctx.destPath ctx.partPath) :
    FilesApart r' :=
  among_outcome (fun _ _ _ _ => Apart.symm) sane apart outcome clear

theorem registered_fail_kept
    (registered : Registered Live transferId r.ins r.incoming)
    (found : r.ins[i]? = some t) (live : Live t) (host : Host) (io : Io) (lostPeer : Option Text)
    (error : Text) :
    Registered Live transferId (failKept host io lostPeer error r i).ins
      (failKept host io lostPeer error r i).incoming := by
  obtain ⟨_, failed, _⟩ := fail_kept_spec found host io lostPeer error
  rw [failed]
  exact registered_retire registered found live (as_failed_not_live t)

theorem registered_outcome (sane : Sane r)
    (registered : Registered Live transferId r.ins r.incoming)
    (outcome : StepOutcome host r e r')
    (fresh : ∀ k io ctx, e = .decide k true io → r.tasks[k]? = some (.offerDecision ctx) →
      (openPart io r.disk ctx).2.isSome = true →
      r.incoming.get ctx.transferId = none) :
    Registered Live transferId r'.ins r'.incoming := by
  cases outcome with
  | idle | offered | declined | unopened | sendRaised | abortNoted | orphaned => exact registered
  | accepted k io ctx _ _ _ task result =>
    exact registered_add registered (fresh k io ctx rfl task (by rw [result]; rfl))
  | chunk addr _ _ _ _ _ _ outcome =>
    cases outcome with
    | reported => exact registered
    | taken _ _ _ _ found progress =>
      obtain ⟨object, live, _⟩ := lookup_live sane found
      exact registered_update registered object live progress.same.transferId
    | aborted _ _ t' _ _ found =>
      obtain ⟨object, live, _⟩ := lookup_live sane found
      exact registered_retire registered object live (as_failed_not_live t')
  | done addr _ _ _ outcome =>
    cases outcome with
    | reported => exact registered
    | raised _ t _ found | hashed _ t _ _ _ _ _ found =>
      obtain ⟨object, live, _⟩ := lookup_live sane found
      exact registered_retire registered object live (as_verifying_not_live t)
  | finished _ _ _ _ _ _ _ _ _ outcome =>
    cases outcome with
    | finalized | refused => exact registered_dead registered (by simp [Live])
    | raised => exact registered
  | lost _ peer io =>
    exact (connection_lost_induction
      (P := fun r => Registered Live transferId r.ins r.incoming)
      (fun r i t _ registered found live _ _ =>
        registered_fail_kept registered found live host io peer _) sane registered).2
  | failed _ _ error io _ _ found =>
    obtain ⟨object, live, _⟩ := lookup_live sane found
    exact registered_fail_kept registered object live host io none error

theorem separate_outcome (sane : Sane r)
    (separate : SeparateStorage r) (fresh : AcceptsApart r e) (outcome : StepOutcome host r e r') :
    SeparateStorage r' := by
  refine ⟨apart_outcome sane separate.apart outcome ?_,
    registered_outcome sane separate.registered outcome ?_⟩
  · intro _ _ ctx isDecision task opens
    subst isDecision
    exact (fresh ctx task opens).2
  · intro _ _ ctx isDecision task opens
    subst isDecision
    exact (fresh ctx task opens).1

theorem step_accept {ctx : OfferContext}
    (task : r.tasks[k]? = some (.offerDecision ctx)) (host : Host) (io : Io) :
    r.step host (.decide k true io) =
      { r with tasks := r.tasks.eraseIdx k }.accept host io ctx := by
  simp [step, resume, task, RecvTask.awaitsUser, decided]

theorem done_survives {tasks : List RecvTask} {ctx : OfferContext}
    (task : tasks[k]? = some (.offerDecision ctx)) (member : .doneSend j success ∈ tasks) :
    .doneSend j success ∈ tasks.eraseIdx k := by
  rw [mem_eraseIdx_iff_getElem?]
  obtain ⟨i, isI⟩ := mem_iff_getElem?.mp member
  refine ⟨i, ?_, isI⟩
  intro same
  subst same
  rw [task] at isI
  cases isI

theorem unapart_accept_breaks (host : Host) (sane : Sane r)
    (against : ¬ AcceptsApart r e) : ¬ SeparateStorage (r.step host e) := by
  intro separate
  apply against
  cases e with
  | offer | chunk | done | sendReturned | connectionLost | peerError => trivial
  | decide k accepted io =>
    cases accepted with
    | false => trivial
    | true =>
      intro ctx task opens
      obtain ⟨_, _, result, _, _, registers⟩ :=
        accept_spec { r with tasks := r.tasks.eraseIdx k } host io ctx
      rw [result] at opens
      obtain ⟨⟨h, offset⟩, rfl⟩ := Option.isSome_iff_exists.mp opens
      rw [step_accept task host io, (registers h offset rfl).2] at separate
      have newcomer : (r.ins ++ [newTransfer ctx h offset])[r.ins.length]? =
          some (newTransfer ctx h offset) := List.getElem?_concat_length
      constructor
      · cases taken : r.incoming.get ctx.transferId with
        | none => rfl
        | some j =>
          obtain ⟨t, object, ident, live⟩ := sane.listed ctx.transferId j taken
          have inside := index_lt object
          have entry := separate.registered j t (found_append object) live
          rw [ident, Dict.get_set, if_pos rfl] at entry
          cases entry
          exact absurd inside (Nat.lt_irrefl _)
      · intro i t unfinished
        exact separate.apart i r.ins.length t (newTransfer ctx h offset)
          (unfinished.back (found_append unfinished.1) (fun _ => done_survives task))
          ⟨newcomer, .inl (.inl rfl)⟩ (Nat.ne_of_lt (index_lt unfinished.1))

/-- Exactly when every offer accepted still finds its id and its names free. -/
theorem storage_separate_iff (host : Host) (disk : Disk Text) (events : List RecvEvent) :
    Everywhere (step host) SeparateStorage (start disk) events ↔
      Along (step host) AcceptsApart (start disk) events := by
  have empty : SeparateStorage (start disk) := by
    refine ⟨?_, registered_nil⟩
    intro _ _ _ _ unfinished
    simp [Unfinished, start] at unfinished
  exact everywhere_iff_along (fun r (good : Sane r ∧ SeparateStorage r) => good.2)
    (fun r e good fresh =>
      ⟨sane_step good.1 e, separate_outcome good.1 good.2 fresh (step_outcome host r e)⟩)
    (fun r e good against => unapart_accept_breaks host good.1 against)
    ⟨sane_start disk, empty⟩ events

section Sample

def sampleOffer (transferId filename : Text) (content : Bytes) : Offer :=
  ⟨transferId, filename, content.length, hexHead content, none⟩

def downloadOf (transferId filename : Text) (content : Bytes) (last : Io) : List RecvEvent :=
  [.offer "A" (sampleOffer transferId filename content) (Io.sample 0),
    .decide 0 true (Io.sample 0), .chunk "A" transferId 0 0 content (Io.sample 0),
    .done "A" transferId (Io.sample 0), .sendReturned 0 .ok last]

theorem first_offer_alone (host : Host) (disk : Disk Text) (addr : Text) (o : Offer)
    (io : Io) (i : Nat)
    (t : IncomingTransfer) :
    ¬ Unfinished ((start disk).step host (.offer addr o io)) i t := by
  obtain ⟨d, _, _, refused | ⟨ctx, asked, _⟩⟩ :=
    handle_offer_spec (start disk) host io addr o
  · rw [step, refused]
    simp [Unfinished, start]
  · rw [step, asked]
    simp [Unfinished, start]

def sameNameTwice : List RecvEvent :=
  [.offer "A" (sampleOffer "s" "x" []) (Io.sample 0),
    .offer "B" (sampleOffer "t" "x" []) (Io.sample 0),
    .decide 0 true (Io.sample 1), .decide 0 true (Io.sample 1)]

theorem same_name_twice_shares_files :
    ¬ Everywhere (step Host.sample) SeparateStorage (start Disk.empty)
      sameNameTwice := by
  intro all
  have separate := all sameNameTwice (prefix_refl _)
  have shape : (run (step Host.sample) (start Disk.empty) sameNameTwice).ins.map
      (fun t => (t.state, t.destPath)) = [(.accepted, "x".toList), (.accepted, "x".toList)] := by
    decide +kernel
  obtain ⟨t, rest, ins, first, others⟩ := map_eq_cons_iff.mp shape
  obtain ⟨u, _, tail, second, _⟩ := map_eq_cons_iff.mp others
  have apart := separate.apart 0 1 t u ⟨by rw [ins]; rfl, .inl (.inl (congrArg Prod.fst first))⟩
    ⟨by rw [ins, tail]; rfl, .inl (.inl (congrArg Prod.fst second))⟩ (by decide)
  exact apart.2.1 ((congrArg Prod.snd first).trans (congrArg Prod.snd second).symm)

end Sample
end Peerc.Transfer
