import Peerc.Transfer.Storage

/-!
Which incoming transfers an event may touch. A handler leaves the transfers of other connections
alone as long as it is not given the id of one of them.
-/
namespace Peerc.Transfer
open List Disk Registry Receiver
open Decoded (ofText)

def SameFile (d d' : Disk Text) (n : Text) : Prop :=
  d'.inode n = d.inode n ∧ ∀ k, d.inode n = some k → d'.block k = d.block k

def Clear (dest part dest' part' : Text) : Prop :=
  part ≠ part' ∧ ¬ Staging part dest' ∧ ¬ Staging part' dest

structure Untouched (r r' : Receiver) (i : Nat) (t : IncomingTransfer) : Prop where
  object : r'.ins[i]? = some t
  registration : ∀ id, r'.incoming.get id = some i ↔ r.incoming.get id = some i
  files : Unfinished r i t → ∀ n, Staging t.partPath n → SameFile r.disk r'.disk n

def Confined (addr : Text) (r r' : Receiver) : Prop :=
  ∀ i t, r.ins[i]? = some t → t.addrKey ≠ addr → Untouched r r' i t

def RecvEvent.connection (r : Receiver) : RecvEvent → Option Text
  | .offer addr _ _ => some addr
  | .decide k _ _ =>
      match r.tasks[k]? with
      | some (.offerDecision ctx) => some ctx.addrKey
      | _ => none
  | .chunk addr _ _ _ _ _ => some addr
  | .done addr _ _ => some addr
  | .sendReturned k _ _ =>
      ((r.tasks[k]?).bind RecvTask.target).bind (fun i => (r.ins[i]?).map IncomingTransfer.addrKey)
  | .connectionLost _ _ _ => none
  | .peerError addr _ _ _ => some addr

def Spares (host : Host) (r : Receiver) : RecvEvent → Prop
  | .offer addr o io => ∀ i t info, Unfinished r i t → t.addrKey ≠ addr →
      readMeta host io r.disk (metaPathFor t.partPath) = some info →
      isExpired io info = false ∧ ∀ device, t.state = .verifying →
        firstNonEmpty [io.peer addr] = some device →
        matchesOffer info (ofText device) (ofText o.filename) o.size o.checksum = false
  | .decide k accepted _ => ∀ ctx, r.tasks[k]? = some (.offerDecision ctx) →
      (accepted = true → r.incoming.get ctx.transferId = none ∧
        ∀ i t, Unfinished r i t → Clear t.destPath t.partPath ctx.destPath ctx.partPath) ∧
      (accepted = false → ctx.resumes = true →
        ∀ i t, Unfinished r i t → t.addrKey ≠ ctx.addrKey → t.partPath ≠ ctx.partPath)
  | _ => True

def Trespasses (r : Receiver) : RecvEvent → Prop
  | .chunk addr id _ _ _ _ => ∃ i t, r.lookup id = some (i, t) ∧ t.addrKey ≠ addr ∧
      (t.state.transitionTo .receiving).isSome = true
  | .done addr id _ => ∃ i t, r.lookup id = some (i, t) ∧ t.addrKey ≠ addr ∧
      (verifyingState t.state).isSome = true
  | _ => False

section Names
variable {dest part dest' part' n : Text}

theorem Clear.symm (clear : Clear dest part dest' part') : Clear dest' part' dest part :=
  ⟨clear.1.symm, clear.2.2, clear.2.1⟩

theorem staging_disjoint (differ : getPartPath dest ≠ getPartPath dest')
    (staged : Staging (getPartPath dest) n) : ¬ Staging (getPartPath dest') n := by
  intro staged'
  rcases staged with isPart | isMeta
  · rcases staged' with isPart' | isMeta'
    · exact differ (isPart.symm.trans isPart')
    · exact part_ne_meta dest _ (isPart.symm.trans isMeta')
  · rcases staged' with isPart' | isMeta'
    · exact part_ne_meta dest' _ (isPart'.symm.trans isMeta)
    · exact differ (append_cancel_right (isMeta.symm.trans isMeta'))

theorem clear_outside {t : IncomingTransfer} (staging : part' = getPartPath dest')
    (clear : Clear t.destPath t.partPath dest' part') (staged : Staging t.partPath n) :
    ¬ (Staging part' n ∨ n = dest') := by
  rintro (staged' | rfl)
  · have differ := clear.1
    rw [t.staging] at staged differ
    rw [staging] at staged' differ
    exact staging_disjoint differ staged staged'
  · exact clear.2.1 staged

end Names

theorem SameFile.refl (d : Disk Text) (n : Text) : SameFile d d n := ⟨rfl, fun _ _ => rfl⟩

variable {d d' : Disk Text}

theorem same_file_of_frame {names : Text → Prop} {inodes : Nat → Prop} {n : Text}
    (frame : Frame names inodes d d') (outside : ¬ names n)
    (untouched : ∀ k, d.inode n = some k → ¬ inodes k) : SameFile d d' n := by
  refine ⟨frame.kept n outside, ?_⟩
  intro k linked
  exact frame.data k (d.inode_bounded linked) (untouched k linked)

def HoldsPart (d : Disk Text) (t : IncomingTransfer) : Prop :=
  ∃ h, t.handle = some h ∧ h.inode < d.next ∧ ∀ n, d.inode n = some h.inode → n = t.partPath

def PartsHeld (r : Receiver) : Prop :=
  ∀ (i : Nat) t, r.ins[i]? = some t → r.incoming.get t.transferId = some i → HoldsPart r.disk t

structure Guarded (r : Receiver) : Prop where
  sane : Sane r
  clear : Among Clear r
  registered : Registered Live IncomingTransfer.transferId r.ins r.incoming
  holds : PartsHeld r

theorem holds_part_of_frame {names : Text → Prop} {inodes : Nat → Prop} {t : IncomingTransfer}
    (holds : HoldsPart d t) (frame : Frame names inodes d d') :
    HoldsPart d' t := by
  obtain ⟨h, opened, bound, only⟩ := holds
  refine ⟨h, opened, Nat.lt_of_lt_of_le bound frame.grows, ?_⟩
  intro n linked
  rcases frame.fresh n _ linked with old | new
  · exact only n old
  · exact absurd new (Nat.not_le.mpr bound)

variable {ctx : OfferContext} {e : RecvEvent}

section Step
variable {host : Host} {r r' : Receiver} {i : Nat} {t t' : IncomingTransfer} {addr : Text}
  {names : Text → Prop} {inodes : Nat → Prop}

section Guarded
variable (guarded : Guarded r)
include guarded

theorem holds_others (i : Nat) (ins : ∀ j u, j ≠ i → r'.ins[j]? = some u → r.ins[j]? = some u)
    (incoming : ∀ id j, j ≠ i → r'.incoming.get id = some j → r.incoming.get id = some j)
    (frame : Frame names inodes r.disk r'.disk)
    (own : ∀ u, r'.ins[i]? = some u → r'.incoming.get u.transferId = some i → HoldsPart r'.disk u) :
    PartsHeld r' := by
  intro j u object registered
  by_cases same : j = i
  · subst same
    exact own u object registered
  · exact holds_part_of_frame (guarded.holds j u (ins j u same object)
      (incoming _ j same registered)) frame

theorem holds_same (ins : r'.ins = r.ins) (incoming : r'.incoming = r.incoming)
    (frame : Frame names inodes r.disk r'.disk) : PartsHeld r' := by
  intro j u object registered
  rw [ins] at object
  rw [incoming] at registered
  exact holds_part_of_frame (guarded.holds j u object registered) frame

theorem holds_retired (ins : r'.ins = r.ins.set i t') (sameId : t'.transferId = t.transferId)
    (incoming : r'.incoming = r.incoming.pop t.transferId)
    (frame : Frame names inodes r.disk r'.disk) : PartsHeld r' := by
  refine holds_others guarded i (set_other ins) ?_ frame ?_
  · intro _ _ _ known
    rw [incoming] at known
    exact (Dict.of_get_pop known).2
  · intro _ now known
    cases set_own ins now
    rw [incoming, Dict.get_pop, if_pos sameId] at known
    cases known

theorem holds_finalized (unfinished : Unfinished r i t) (linked : r.disk.present t.partPath = true)
    (io : Io) (j : Nat) (u : IncomingTransfer) (other : j ≠ i) (object : r.ins[j]? = some u)
    (registered : r.incoming.get u.transferId = some j) :
    HoldsPart (discard io (r.disk.rename t.partPath t.destPath) t.partPath) u := by
  obtain ⟨_, isPart⟩ := (present_iff r.disk t.partPath).mp linked
  obtain ⟨h, opened, bound, only⟩ := guarded.holds j u object registered
  refine ⟨h, opened, ?_, ?_⟩
  · rw [finalize_next]
    exact bound
  · intro n now
    obtain ⟨isDest, beside, _⟩ := finalize_inode isPart io n
    by_cases dest : n = t.destPath
    · -- the moved inode is the one of the part file, which is not open for another transfer
      cases (isDest dest).symm.trans now
      have clear := guarded.clear j i u t (unfinished_registered guarded.sane object registered)
        unfinished other
      exact absurd (only _ isPart).symm clear.1
    · exact only n (beside dest _ now)

theorem holds_accepted {h : Handle} {offset : Nat}
    (ins : r'.ins = r.ins ++ [newTransfer ctx h offset])
    (incoming : r'.incoming = r.incoming.set ctx.transferId r.ins.length)
    (frame : Frame names inodes r.disk r'.disk)
    (linked : r'.disk.inode ctx.partPath = some h.inode) : PartsHeld r' := by
  refine holds_others guarded r.ins.length ?_ ?_ frame ?_
  · intro _ _ other object
    rw [ins] at object
    rcases concat_cases object with old | ⟨isNew, _⟩
    · exact old
    · exact absurd isNew other
  · intro _ _ other known
    rw [incoming, Dict.get_set] at known
    split at known
    · cases known
      exact absurd rfl other
    · exact known
  · intro _ now _
    rw [ins, getElem?_concat_length] at now
    cases now
    exact ⟨h, rfl, r'.disk.inode_bounded linked, fun n found => r'.disk.inode_single found linked⟩

theorem guarded_fail_kept (object : r.ins[i]? = some t) (live : Live t) (io : Io)
    (lostPeer : Option Text) (error : Text) : Guarded (failKept host io lostPeer error r i) := by
  have sane := sane_fail_kept guarded.sane object live host io lostPeer error
  have clear :=
    among_of_shrinks guarded.clear (shrinks_fail_kept object live host io lostPeer error)
  have registered := registered_fail_kept guarded.registered object live host io lostPeer error
  obtain ⟨_, failed, frame⟩ := fail_kept_spec object host io lostPeer error
  rw [failed] at sane clear registered ⊢
  exact ⟨sane, clear, registered, holds_retired guarded rfl rfl rfl frame⟩

theorem holds_outcome (outcome : StepOutcome host r e r') : PartsHeld r' := by
  cases outcome with
  | idle | sendRaised | abortNoted | orphaned => exact guarded.holds
  | offered _ _ _ _ _ _ frame | declined _ _ _ _ _ frame | unopened _ _ _ _ _ _ frame =>
    exact holds_same guarded rfl rfl frame
  | accepted _ _ _ _ _ _ _ _ frame opened => exact holds_accepted guarded rfl rfl frame opened.1
  | chunk addr _ _ _ _ _ _ outcome =>
    cases outcome with
    | reported => exact guarded.holds
    | taken i t _ _ found progress =>
      obtain ⟨objectI, _, registeredI⟩ := lookup_live guarded.sane found
      refine holds_others guarded i (set_other rfl) (fun _ _ _ known => known) progress.frame ?_
      intro _ now _
      cases set_own rfl now
      obtain ⟨h, opened, bound, only⟩ := holds_part_of_frame
        (guarded.holds i t objectI registeredI) progress.frame
      obtain ⟨h', opened', sameInode⟩ := progress.handle h opened
      refine ⟨h', opened', ?_, ?_⟩
      · rw [sameInode]
        exact bound
      · rw [sameInode, progress.same.partPath]
        exact only
    | aborted _ _ _ _ _ _ same _ frame => exact holds_retired guarded rfl same.transferId rfl frame
  | done addr _ _ _ outcome =>
    cases outcome with
    | reported => exact guarded.holds
    | raised _ t _ _ frame | hashed _ t _ _ _ _ _ _ frame =>
      exact holds_retired (t := t) guarded rfl rfl rfl frame
  | finished _ _ io i t success _ task found outcome =>
    have unfinished := unfinished_acknowledging guarded.sane found (mem_of_getElem? task)
    -- the transfer that ends is not registered
    have other : ∀ {id : Text} {j : Nat}, r.incoming.get id = some j → j ≠ i := by
      rintro _ _ known rfl
      obtain ⟨_, object, _, live⟩ := guarded.sane.listed _ _ known
      cases found.symm.trans object
      exact live_not_acknowledging guarded.sane found live _ (mem_of_getElem? task)
    cases outcome with
    | finalized linked =>
      intro j u object registered
      rw [getElem?_set_ne (fun same => other registered same.symm)] at object
      exact holds_finalized guarded unfinished linked io j u (other registered) object registered
    | raised => exact guarded.holds
    | refused =>
      intro j u object registered
      rw [getElem?_set_ne (fun same => other registered same.symm)] at object
      exact holds_part_of_frame (guarded.holds j u object registered) (discarded_frame io r.disk t)
  | lost _ peer io =>
    exact (connection_lost_induction (P := Guarded) (fun r i t _ guarded found live _ _ =>
      guarded_fail_kept guarded found live io peer _) guarded.sane guarded).2.holds
  | failed _ _ error io _ _ found =>
    obtain ⟨objectI, live, _⟩ := lookup_live guarded.sane found
    exact (guarded_fail_kept guarded objectI live io none error).holds

end Guarded

theorem guarded_start (d : Disk Text) : Guarded (start d) where
  sane := sane_start d
  clear i j t u unfinished := by simp [Unfinished, start] at unfinished
  registered := registered_nil
  holds i t object := by simp [start] at object

theorem guarded_step (guarded : Guarded r) (e : RecvEvent) (spares : Spares host r e) :
    Guarded (r.step host e) := by
  have outcome := step_outcome host r e
  refine ⟨sane_step guarded.sane e, among_outcome (fun _ _ _ _ => Clear.symm) guarded.sane
    guarded.clear outcome ?_, registered_outcome guarded.sane guarded.registered outcome ?_,
    holds_outcome guarded outcome⟩
  · intro _ _ ctx isDecision task _
    subst isDecision
    exact ((spares ctx task).1 rfl).2
  · intro _ _ ctx isDecision task _
    subst isDecision
    exact ((spares ctx task).1 rfl).1

theorem registration_popped (registered : r.incoming.get t.transferId = some i) {j : Nat}
    (other : j ≠ i) (id : Text) :
    (r.incoming.pop t.transferId).get id = some j ↔ r.incoming.get id = some j := by
  rw [Dict.get_pop]
  split
  · rename_i same
    rw [same, registered]
    simpa using other.symm
  · rfl

theorem own_files (holds : HoldsPart d t) (frame : Frame names (OwnInode t) d d')
    (inside : ∀ n, names n → Staging t.partPath n ∨ n = t.destPath) (n : Text)
    (outside : ¬ (Staging t.partPath n ∨ n = t.destPath)) : SameFile d d' n := by
  refine same_file_of_frame frame (fun named => outside (inside n named)) ?_
  intro _ linked own
  obtain ⟨_, opened, _, only⟩ := holds
  obtain ⟨_, isG, rfl⟩ := own
  cases opened.symm.trans isG
  exact outside (.inl (.inl (only n linked)))

theorem confined_own (guarded : Guarded r) (unfinished : Unfinished r i t) (own : t.addrKey = addr)
    (ins : r'.ins = r.ins.set i t')
    (registration : ∀ id j, j ≠ i → (r'.incoming.get id = some j ↔ r.incoming.get id = some j))
    (files : ∀ n, ¬ (Staging t.partPath n ∨ n = t.destPath) → SameFile r.disk r'.disk n) :
    Confined addr r r' := by
  intro j u object foreign
  have other : j ≠ i := by
    rintro rfl
    cases object.symm.trans unfinished.1
    exact foreign own
  refine ⟨?_, fun id => registration id j other, ?_⟩
  · rw [ins]
    exact found_aside object other
  · intro unfinishedU n staged
    exact files n
      (clear_outside t.staging (guarded.clear j i u t unfinishedU unfinished other) staged)

theorem confined_bystander (ins : r'.ins = r.ins) (incoming : r'.incoming = r.incoming)
    (files : ∀ j u, Unfinished r j u → u.addrKey ≠ addr → ∀ n, Staging u.partPath n →
      SameFile r.disk r'.disk n) : Confined addr r r' := by
  intro j u object foreign
  refine ⟨?_, ?_, fun unfinished => files j u unfinished foreign⟩
  · rw [ins]
    exact object
  · intro _
    rw [incoming]

theorem staged_same {dest dest' n : Text} (staged : Staging (getPartPath dest) n)
    (staged' : Staging (getPartPath dest') n) : getPartPath dest = getPartPath dest' := by
  by_contra differ
  exact staging_disjoint differ staged staged'

theorem offer_outside (guarded : Guarded r) {o : Offer} {io : Io}
    (spares : Spares host r (.offer addr o io)) {j : Nat} {u : IncomingTransfer}
    (unfinished : Unfinished r j u) (foreign : u.addrKey ≠ addr) {n : Text}
    (staged : Staging u.partPath n) :
    ¬ OfferTouches host io r (firstNonEmpty [io.peer addr]) o n := by
  refine offer_avoids ?_ (fun info => spares j u info unfinished foreign) unfinished.1
    (unfinished.2.imp (guarded.registered j u unfinished.1) And.left)
  intro info staged'
  rw [info.sidecar] at staged' ⊢
  rw [u.staging] at staged ⊢
  exact staged_same staged' staged

theorem opening_outside {d : Disk Text}
    (frame : Frame (Staging ctx.partPath) (fun i => r.disk.inode ctx.partPath = some i) r.disk d)
    {u : IncomingTransfer} (clear : Clear u.destPath u.partPath ctx.destPath ctx.partPath)
    {n : Text}
    (staged : Staging u.partPath n) : SameFile r.disk d n := by
  have outside := clear_outside ctx.staging clear staged
  refine same_file_of_frame frame (fun staged' => outside (.inl staged')) ?_
  intro _ linked isPart
  exact outside (.inl (.inl (r.disk.inode_single linked isPart)))

theorem confined_accepted {h : Handle} {offset : Nat}
    (ins : r'.ins = r.ins ++ [newTransfer ctx h offset])
    (incoming : r'.incoming = r.incoming.set ctx.transferId r.ins.length)
    (free : r.incoming.get ctx.transferId = none)
    (files : ∀ j u, Unfinished r j u → ∀ n, Staging u.partPath n → SameFile r.disk r'.disk n) :
    Confined addr r r' := by
  intro j u object _
  refine ⟨?_, ?_, files j u⟩
  · rw [ins]
    exact found_append object
  · intro _
    rw [incoming, Dict.get_set]
    split
    · rename_i same
      rw [same, free]
      simp [Nat.ne_of_gt (index_lt object)]
    · rfl

theorem finalized_files {d : Disk Text} (linked : d.present t.partPath = true) (io : Io) (n : Text)
    (outside : ¬ (Staging t.partPath n ∨ n = t.destPath)) :
    SameFile d (discard io (d.rename t.partPath t.destPath) t.partPath) n := by
  obtain ⟨k, isPart⟩ := (present_iff d t.partPath).mp linked
  exact ⟨(finalize_inode isPart io n).2.2 (fun isDest => outside (.inr isDest))
    (fun staged => outside (.inl staged)), fun k _ => finalize_block d t io k⟩

theorem confined_fail_kept (guarded : Guarded r) (object : r.ins[i]? = some t)
    (registered : r.incoming.get t.transferId = some i) (own : t.addrKey = addr) (io : Io)
    (lostPeer : Option Text) (error : Text) :
    Confined addr r (failKept host io lostPeer error r i) := by
  obtain ⟨_, failed, frame⟩ := fail_kept_spec object host io lostPeer error
  rw [failed]
  refine confined_own guarded (unfinished_registered guarded.sane object registered) own rfl
    (fun id j other => registration_popped registered other id) ?_
  exact own_files (guarded.holds i t object registered) frame (fun n isMeta => .inl (.inr isMeta))

theorem confined_outcome (guarded : Guarded r) (spares : Spares host r e)
    (outcome : StepOutcome host r e r') (keeps : ¬ Trespasses r e)
    (conn : e.connection r = some addr) :
    Confined addr r r' := by
  cases outcome with
  | idle | sendRaised | abortNoted | orphaned =>
    exact confined_bystander rfl rfl (fun _ _ _ _ n _ => SameFile.refl r.disk n)
  | offered _ _ _ _ _ _ frame =>
    cases conn
    refine confined_bystander rfl rfl ?_
    intro _ _ unfinished foreign _ staged
    exact same_file_of_frame frame (offer_outside guarded spares unfinished foreign staged)
      (fun _ _ no => no)
  | declined _ _ ctx _ task frame =>
    simp only [RecvEvent.connection, task, Option.some.injEq] at conn
    refine confined_bystander rfl rfl ?_
    intro j u unfinished foreign _ staged
    refine same_file_of_frame frame ?_ (fun _ _ no => no)
    rintro ⟨resumes, staged'⟩
    rw [← conn] at foreign
    have differ := (spares ctx task).2 rfl resumes j u unfinished foreign
    rw [u.staging] at staged differ
    rw [ctx.staging] at staged' differ
    exact differ (staged_same staged staged')
  | unopened _ _ ctx _ task _ frame =>
    refine confined_bystander rfl rfl ?_
    intro j u unfinished _ _ staged
    exact opening_outside frame (((spares ctx task).1 rfl).2 j u unfinished) staged
  | accepted _ _ ctx _ _ _ task _ frame =>
    refine confined_accepted rfl rfl ((spares ctx task).1 rfl).1 ?_
    intro j u unfinished _ staged
    exact opening_outside frame (((spares ctx task).1 rfl).2 j u unfinished) staged
  | chunk _ id _ _ _ _ _ outcome =>
    cases conn
    have isOwn : ∀ i t, r.lookup id = some (i, t) → t.addrKey = addr := by
      intro i t found
      by_contra foreign
      obtain ⟨_, live, _⟩ := lookup_live guarded.sane found
      exact keeps ⟨i, t, found, foreign, by rw [receiving_allowed live]; rfl⟩
    cases outcome with
    | reported => exact confined_bystander rfl rfl (fun _ _ _ _ n _ => SameFile.refl r.disk n)
    | taken i t _ _ found progress =>
      obtain ⟨object, live, registered⟩ := lookup_live guarded.sane found
      refine confined_own guarded ⟨object, .inl live⟩ (isOwn i t found) rfl
        (fun _ _ _ => Iff.rfl) ?_
      exact own_files (guarded.holds i t object registered) progress.frame
        (fun n isMeta => .inl (.inr isMeta))
    | aborted i t _ _ _ found _ _ frame =>
      obtain ⟨object, live, registered⟩ := lookup_live guarded.sane found
      refine confined_own guarded ⟨object, .inl live⟩ (isOwn i t found) rfl
        (fun id j other => registration_popped registered other id) ?_
      exact own_files (guarded.holds i t object registered) frame (fun n named => named)
  | done addr' id _ _ outcome =>
    cases conn
    have isOwn : ∀ i t, r.lookup id = some (i, t) → t.addrKey = addr := by
      intro i t found
      by_contra foreign
      obtain ⟨_, live, _⟩ := lookup_live guarded.sane found
      exact keeps ⟨i, t, found, foreign, by rw [verifying_allowed live]; rfl⟩
    cases outcome with
    | reported => exact confined_bystander rfl rfl (fun _ _ _ _ n _ => SameFile.refl r.disk n)
    | raised i t _ found frame | hashed i t _ _ _ _ _ found frame =>
      obtain ⟨object, live, registered⟩ := lookup_live guarded.sane found
      refine confined_own guarded ⟨object, .inl live⟩ (isOwn i t found) rfl
        (fun id j other => registration_popped registered other id) ?_
      exact own_files (guarded.holds i t object registered) frame (fun n no => no.elim)
  | finished _ _ io i t success _ task found outcome =>
    have unfinished := unfinished_acknowledging guarded.sane found (mem_of_getElem? task)
    have isOwn : t.addrKey = addr := by
      simpa [RecvEvent.connection, task, RecvTask.target, found] using conn
    cases outcome with
    | finalized linked =>
      exact confined_own guarded unfinished isOwn rfl (fun _ _ _ => Iff.rfl)
        (finalized_files linked io)
    | raised => exact confined_bystander rfl rfl (fun _ _ _ _ n _ => SameFile.refl r.disk n)
    | refused =>
      refine confined_own guarded unfinished isOwn rfl (fun _ _ _ => Iff.rfl) ?_
      intro _ outside
      exact same_file_of_frame (discarded_frame io r.disk t) (fun staged => outside (.inl staged))
        (fun _ _ no => no)
  | lost => cases conn
  | failed _ _ error io _ _ found own =>
    cases conn
    obtain ⟨object, _, registered⟩ := lookup_live guarded.sane found
    exact confined_fail_kept guarded object registered own io none error

end Step

section Trespass
variable {host : Host} {io : Io} {d d' : Disk Text} {t t' : IncomingTransfer} {h : Handle}
  {sequence offset : Nat} {data : Bytes} {r : Receiver}

theorem checkpoint_counters (host : Host) (io : Io) (d : Disk Text) (t : IncomingTransfer) :
    (checkpoint host io d t).2.expectedChunkIndex = t.expectedChunkIndex ∧
      (checkpoint host io d t).2.resumeOffset = t.resumeOffset := by
  have flushed : (t.flushFile io d).2.1.expectedChunkIndex = t.expectedChunkIndex ∧
      (t.flushFile io d).2.1.resumeOffset = t.resumeOffset := by
    unfold IncomingTransfer.flushFile
    split
    · exact ⟨rfl, rfl⟩
    · split <;> exact ⟨rfl, rfl⟩
  unfold checkpoint
  split
  · exact ⟨rfl, rfl⟩
  · split
    · rename_i result
      rw [result] at flushed
      exact flushed
    · rename_i result
      rw [result] at flushed
      exact flushed

theorem store_chunk_counters (stored : storeChunk host io d t h data = (d', t', none)) :
    t'.expectedChunkIndex = t.expectedChunkIndex + 1 ∧ t'.resumeOffset = t.resumeOffset := by
  unfold storeChunk at stored
  dsimp only at stored
  split at stored
  · cases stored
  · split at stored
    · cases stored
      exact checkpoint_counters host io _ _
    · cases stored
      exact ⟨rfl, rfl⟩

theorem first_chunk_counters (opened : t.handle = some h)
    (first : firstChunk host io d t h sequence offset = (d', t', none)) :
    t'.handle.isSome = true ∧ (t'.expectedChunkIndex = t.expectedChunkIndex ∧
      t'.resumeOffset = t.resumeOffset ∨ 0 < t.resumeOffset ∧ t'.resumeOffset = 0) := by
  unfold firstChunk at first
  have opened' : t.handle.isSome = true := by rw [opened]; rfl
  split at first
  · rename_i resumes
    split at first
    · cases first
      exact ⟨opened', .inl ⟨rfl, rfl⟩⟩
    · split at first
      · split at first
        · cases first
        · split at first
          · cases first
            exact ⟨rfl, .inr ⟨resumes.1, rfl⟩⟩
          · cases first
            exact ⟨rfl, .inr ⟨resumes.1, rfl⟩⟩
      · cases first
  · cases first
    exact ⟨opened', .inl ⟨rfl, rfl⟩⟩

theorem receive_chunk_moves (opened : t.handle = some h)
    (taken : receiveChunk host io d t h sequence offset data = (d', t', none)) :
    t'.expectedChunkIndex ≠ t.expectedChunkIndex ∨ t'.resumeOffset ≠ t.resumeOffset := by
  unfold receiveChunk at taken
  split at taken
  · cases taken
  · rename_i first
    obtain ⟨opened₁, counters⟩ := first_chunk_counters opened first
    split at taken
    · cases taken
    · split at taken
      · cases taken
      · split at taken
        · rename_i closed
          rw [closed] at opened₁
          cases opened₁
        · obtain ⟨_, _⟩ := store_chunk_counters taken
          rcases counters with ⟨sameIndex, sameResume⟩ | ⟨positive, restarted⟩
          · exact .inl (by omega)
          · exact .inr (by omega)

theorem chunk_touches (guarded : Guarded r) {addr id : Text} {i : Nat}
    (found : r.lookup id = some (i, t)) :
    ¬ Untouched r (r.handleChunk host io addr id sequence offset data) i t := by
  intro untouched
  obtain ⟨object, live, registered⟩ := lookup_live guarded.sane found
  obtain ⟨_, opened, _⟩ := guarded.holds i t object registered
  rw [handleChunk, found] at untouched
  dsimp only at untouched
  split at untouched
  · rename_i refused
    rw [receiving_allowed live] at refused
    cases refused
  · rename_i closed
    rw [opened] at closed
    cases closed
  · rename_i state g _ opened'
    have opened'' : ({ t with state := .receiving } : IncomingTransfer).handle = some g := opened'
    split at untouched
    · rename_i taken
      have moved := receive_chunk_moves opened'' taken
      have stays := untouched.object
      simp only [put, found_set object, Option.some.injEq] at stays
      rw [stays] at moved
      simp at moved
    · rename_i t' _ aborted
      have same : t'.transferId = t.transferId :=
        (receive_chunk_progress host io r.disk _ g opened'' sequence offset data
          aborted).1.same.transferId
      have listed := (untouched.registration t.transferId).mpr registered
      simp [abortIncoming, same] at listed

theorem done_touches (guarded : Guarded r) {addr id : Text} {i : Nat}
    (found : r.lookup id = some (i, t)) : ¬ Untouched r (r.handleDone host io addr id) i t := by
  obtain ⟨object, live, _⟩ := lookup_live guarded.sane found
  have verifying : (r.ins.set i (asVerifying t))[i]? ≠ some t := by
    intro now
    rw [found_set object, Option.some.injEq] at now
    exact as_verifying_not_live t (now.symm ▸ live)
  have outcome := handle_done_outcome r host io addr id
  generalize r.handleDone host io addr id = r' at outcome ⊢
  intro untouched
  cases outcome with
  | reported _ _ refused =>
    have allowed := refused i t found
    rw [verifying_allowed live] at allowed
    cases allowed
  | raised _ _ _ found' | hashed _ _ _ _ _ _ _ found' =>
    cases found.symm.trans found'
    exact verifying untouched.object

/-- Exactly when no chunk or file_done is taken for a transfer of another connection. -/
theorem confined_iff (guarded : Guarded r) (spares : Spares host r e) :
    (∀ addr, e.connection r = some addr → Confined addr r (r.step host e)) ↔ ¬ Trespasses r e := by
  constructor
  · intro confined trespasses
    cases e with
    | chunk addr =>
      obtain ⟨i, t, found, foreign, _⟩ := trespasses
      exact chunk_touches guarded found
        (confined addr rfl i t (lookup_live guarded.sane found).1 foreign)
    | done addr =>
      obtain ⟨i, t, found, foreign, _⟩ := trespasses
      exact done_touches guarded found
        (confined addr rfl i t (lookup_live guarded.sane found).1 foreign)
    | offer | decide | sendReturned | connectionLost | peerError => exact trespasses
  · intro keeps _ conn
    exact confined_outcome guarded spares (step_outcome host r e) keeps conn

end Trespass

end Peerc.Transfer
