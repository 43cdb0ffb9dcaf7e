import Mathlib.Data.List.Perm.Subperm
import Peerc.Lib.Table
import Peerc.Lib.Bytes

/-!
A flat directory with inodes. An open handle keeps its inode when the name is removed or
renamed; what is written may stay pending until it is drained.
-/
namespace Peerc
open List Dict

structure Disk (Name : Type) [DecidableEq Name] where
  entries : Dict Name Nat
  block : Nat → Bytes
  next : Nat
  bounded : ∀ n i, entries.get n = some i → i < next
  single : ∀ n m i, entries.get n = some i → entries.get m = some i → n = m

/-- The position is that of the next byte that reaches the inode. -/
structure Handle where
  inode : Nat
  pos : Nat
  pending : Bytes

variable (content : Bytes)

def writeAt (pos : Nat) (data : Bytes) : Bytes :=
  content.take pos ++ List.replicate (pos - content.length) 0 ++ data ++
    content.drop (pos + data.length)

def resize (len : Nat) : Bytes :=
  content.take len ++ List.replicate (len - content.length) 0

@[simp] theorem resize_length (len : Nat) : (resize content len).length = len := by
  simp only [resize, length_append, length_take, length_replicate]
  omega

theorem write_at_end (content data : Bytes) :
    writeAt content content.length data = content ++ data := by
  simp [writeAt]

theorem resize_short {len : Nat} (fits : len ≤ content.length) :
    resize content len = content.take len := by
  simp [resize, Nat.sub_eq_zero_of_le fits]

namespace Disk
variable {Name : Type} [DecidableEq Name]

def empty : Disk Name where
  entries := Dict.empty
  block _ := []
  next := 0
  bounded n i found := by simp at found
  single n m i found := by simp at found

variable (d : Disk Name) (n : Name)

def inode : Option Nat := d.entries.get n

def names : List Name := d.entries.rows.map Prod.fst

def read : Option Bytes := (d.inode n).map d.block

def present : Bool := (d.inode n).isSome

def remove : Disk Name where
  entries := d.entries.pop n
  block := d.block
  next := d.next
  bounded m i found := by
    rw [get_pop] at found
    split at found
    · cases found
    · exact d.bounded m i found
  single a b i foundA foundB := by
    rw [get_pop] at foundA foundB
    split at foundA
    · cases foundA
    · split at foundB
      · cases foundB
      · exact d.single a b i foundA foundB

def create (content : Bytes) : Disk Name where
  entries := d.entries.set n d.next
  block i := if i = d.next then content else d.block i
  next := d.next + 1
  bounded m i found := by
    rw [get_set] at found
    split at found
    · cases found
      exact Nat.lt_succ_self _
    · exact Nat.lt_succ_of_lt (d.bounded m i found)
  single a b i foundA foundB := by
    rw [get_set] at foundA foundB
    split at foundA
    · cases foundA
      split at foundB
      · rename_i sameA sameB
        rw [sameA, sameB]
      · exact absurd (d.bounded b _ foundB) (Nat.lt_irrefl _)
    · split at foundB
      · cases foundB
        exact absurd (d.bounded a _ foundA) (Nat.lt_irrefl _)
      · exact d.single a b i foundA foundB

def modify (i : Nat) (f : Bytes → Bytes) : Disk Name :=
  { d with block := fun j => if j = i then f (d.block j) else d.block j }

/-- os.replace; the caller has checked that the first name exists. -/
def rename (a b : Name) : Disk Name :=
  match found : d.inode a with
  | none => d
  | some i =>
    { entries := (d.entries.pop a).set b i
      block := d.block
      next := d.next
      bounded := by
        intro m j linked
        rw [get_set] at linked
        split at linked
        · cases linked
          exact d.bounded a i found
        · rw [get_pop] at linked
          split at linked
          · cases linked
          · exact d.bounded m j linked
      single := by
        intro m k j linkedM linkedK
        have only : ∀ x, x ≠ b → ((d.entries.pop a).set b i).get x = some j →
            x ≠ a ∧ d.entries.get x = some j := by
          intro _ other linked
          rw [get_set, if_neg other, get_pop] at linked
          split at linked
          · cases linked
          · rename_i differs
            exact ⟨differs, linked⟩
        by_cases isM : m = b
        · by_cases isK : k = b
          · rw [isM, isK]
          · obtain ⟨differs, linked⟩ := only k isK linkedK
            rw [isM, get_set, if_pos rfl] at linkedM
            cases linkedM
            exact absurd (d.single k a i linked found) differs
        · obtain ⟨differs, linked⟩ := only m isM linkedM
          by_cases isK : k = b
          · rw [isK, get_set, if_pos rfl] at linkedK
            cases linkedK
            exact absurd (d.single m a i linked found) differs
          · exact d.single m k j linked (only k isK linkedK).2 }

/-- open(name, "wb"): an existing file is emptied and keeps its inode. -/
def openFresh : Disk Name × Handle :=
  match d.inode n with
  | some i => (d.modify i (fun _ => []), ⟨i, 0, []⟩)
  | none => (d.create n [], ⟨d.next, 0, []⟩)

variable (h : Handle)

def drain (k : Nat) : Disk Name × Handle :=
  (d.modify h.inode (fun content => writeAt content h.pos (h.pending.take k)),
    { h with
      pos := h.pos + (h.pending.take k).length
      pending := h.pending.drop k })

def flush : Disk Name × Handle := d.drain h h.pending.length

@[simp] theorem inode_remove (n m : Name) :
    (d.remove n).inode m = if m = n then none else d.inode m :=
  get_pop d.entries n m

@[simp] theorem block_remove : (d.remove n).block = d.block := rfl

@[simp] theorem next_remove : (d.remove n).next = d.next := rfl

@[simp] theorem inode_create (n m : Name) (content : Bytes) :
    (d.create n content).inode m = if m = n then some d.next else d.inode m :=
  get_set d.entries n m d.next

@[simp] theorem block_create (content : Bytes) (i : Nat) :
    (d.create n content).block i = if i = d.next then content else d.block i := rfl

@[simp] theorem next_create (content : Bytes) : (d.create n content).next = d.next + 1 := rfl

@[simp] theorem inode_modify (i : Nat) (f : Bytes → Bytes) (m : Name) :
    (d.modify i f).inode m = d.inode m := rfl

@[simp] theorem block_modify (i j : Nat) (f : Bytes → Bytes) :
    (d.modify i f).block j = if j = i then f (d.block j) else d.block j := rfl

@[simp] theorem next_modify (i : Nat) (f : Bytes → Bytes) : (d.modify i f).next = d.next := rfl

variable {i : Nat} {n : Name}

theorem inode_rename (a b m : Name) (found : d.inode a = some i) :
    (d.rename a b).inode m = if m = b then some i else if m = a then none else d.inode m := by
  unfold rename
  split
  · rename_i absent
    rw [found] at absent
    cases absent
  · rename_i linked
    cases found.symm.trans linked
    simp [inode, get_set, get_pop]

theorem rename_absent (b : Name) {a : Name} (absent : d.inode a = none) : d.rename a b = d := by
  unfold rename
  split
  · rfl
  · rename_i linked
    rw [absent] at linked
    cases linked

@[simp] theorem block_rename (a b : Name) : (d.rename a b).block = d.block := by
  unfold rename
  split <;> rfl

@[simp] theorem next_rename (a b : Name) : (d.rename a b).next = d.next := by
  unfold rename
  split <;> rfl

theorem inode_bounded (found : d.inode n = some i) : i < d.next := d.bounded n i found

theorem inode_single {n m : Name} (foundN : d.inode n = some i) (foundM : d.inode m = some i) :
    n = m := d.single n m i foundN foundM

theorem present_iff (n : Name) : d.present n = true ↔ ∃ i, d.inode n = some i := by
  rw [present, Option.isSome_iff_exists]

def Appends : Prop := h.pos = (d.block h.inode).length

def staged : Bytes := d.block h.inode ++ h.pending

variable {h : Handle} {d : Disk Name}

theorem drain_appends (appends : Appends d h) (k : Nat) :
    Appends (d.drain h k).1 (d.drain h k).2 := by
  unfold Appends at appends ⊢
  simp [drain, block_modify, appends, write_at_end]

theorem drain_staged (appends : Appends d h) (k : Nat) :
    staged (d.drain h k).1 (d.drain h k).2 = staged d h := by
  unfold Appends at appends
  simp [staged, drain, block_modify, appends, write_at_end]

theorem flush_block (appends : Appends d h) :
    (d.flush h).1.block h.inode = staged d h := by
  unfold Appends at appends
  simp [flush, drain, block_modify, appends, write_at_end, staged]

/-- Outside the names nothing is linked differently, outside the inodes no content changed. -/
structure Frame (names : Name → Prop) (inodes : Nat → Prop) (d d' : Disk Name) : Prop where
  grows : d.next ≤ d'.next
  kept : ∀ n, ¬ names n → d'.inode n = d.inode n
  fresh : ∀ n i, d'.inode n = some i → d.inode n = some i ∨ d.next ≤ i
  data : ∀ i, i < d.next → ¬ inodes i → d'.block i = d.block i

namespace Frame
variable {names : Name → Prop} {inodes : Nat → Prop} {d d' d'' : Disk Name}

theorem refl (names : Name → Prop) (inodes : Nat → Prop) (d : Disk Name) :
    Frame names inodes d d where
  grows := Nat.le_refl _
  kept _ _ := rfl
  fresh _ _ linked := .inl linked
  data _ _ _ := rfl

theorem trans (first : Frame names inodes d d') (second : Frame names inodes d' d'') :
    Frame names inodes d d'' where
  grows := Nat.le_trans first.grows second.grows
  kept n outside := (second.kept n outside).trans (first.kept n outside)
  fresh n i linked := by
    rcases second.fresh n i linked with old | new
    · exact first.fresh n i old
    · exact .inr (Nat.le_trans first.grows new)
  data i old outside :=
    (second.data i (Nat.lt_of_lt_of_le old first.grows) outside).trans (first.data i old outside)

theorem mono {more : Name → Prop} {moreInodes : Nat → Prop} (frame : Frame names inodes d d')
    (wider : ∀ n, names n → more n) (widerInodes : ∀ i, inodes i → moreInodes i) :
    Frame more moreInodes d d' where
  grows := frame.grows
  kept n outside := frame.kept n (fun inside => outside (wider n inside))
  fresh := frame.fresh
  data i old outside := frame.data i old (fun inside => outside (widerInodes i inside))

theorem of_remove (touched : names n) : Frame names inodes d (d.remove n) where
  grows := Nat.le_refl _
  kept m outside := by
    have other : m ≠ n := fun same => outside (same ▸ touched)
    simp [other]
  fresh m i linked := by
    rw [inode_remove] at linked
    split at linked
    · cases linked
    · exact .inl linked
  data _ _ _ := rfl

theorem of_create (touched : names n) (content : Bytes) :
    Frame names inodes d (d.create n content) where
  grows := Nat.le_succ _
  kept m outside := by
    have other : m ≠ n := fun same => outside (same ▸ touched)
    simp [other]
  fresh m i linked := by
    rw [inode_create] at linked
    split at linked
    · cases linked
      exact .inr (Nat.le_refl _)
    · exact .inl linked
  data i old _ := by
    have other : i ≠ d.next := Nat.ne_of_lt old
    simp [other]

theorem of_modify (d : Disk Name) (touched : inodes i) (f : Bytes → Bytes) :
    Frame names inodes d (d.modify i f) where
  grows := Nat.le_refl _
  kept _ _ := rfl
  fresh _ _ linked := .inl linked
  data j _ outside := by
    have other : j ≠ i := fun same => outside (same ▸ touched)
    simp [other]

theorem of_drain (touched : inodes h.inode) (k : Nat) :
    Frame names inodes d (d.drain h k).1 := by
  exact of_modify d touched (fun content => writeAt content h.pos (h.pending.take k))

end Frame

def FileKept (n : Name) (d d' : Disk Name) : Prop :=
  ∃ i, d.inode n = some i ∧ d'.inode n = some i ∧ d'.block i = d.block i

theorem FileKept.trans {d d' d'' : Disk Name} (first : FileKept n d d')
    (second : FileKept n d' d'') :
    FileKept n d d'' := by
  obtain ⟨i, before, between, same⟩ := first
  obtain ⟨_, between', after, same'⟩ := second
  cases between.symm.trans between'
  exact ⟨i, before, after, same'.trans same⟩

theorem Frame.file_kept {names : Name → Prop} {inodes : Nat → Prop} {d d' : Disk Name}
    (frame : Frame names inodes d d') (linked : d.inode n = some i) (outside : ¬ names n)
    (untouched : ¬ inodes i) : FileKept n d d' := by
  refine ⟨i, linked, ?_, frame.data i (d.inode_bounded linked) untouched⟩
  rw [frame.kept n outside]
  exact linked

theorem Frame.read {names : Name → Prop} {inodes : Nat → Prop} {d d' : Disk Name}
    (frame : Frame names inodes d d') (outside : ¬ names n)
    (untouched : ∀ i, d.inode n = some i → ¬ inodes i) : d'.read n = d.read n := by
  unfold Disk.read
  rw [frame.kept n outside]
  cases linked : d.inode n with
  | none => rfl
  | some i =>
    rw [Option.map_some, Option.map_some,
      frame.data i (d.inode_bounded linked) (untouched i linked)]

theorem read_modify_other (d : Disk Name) {n m : Name} (other : n ≠ m)
    (linked : d.inode n = some i) (f : Bytes → Bytes) : (d.modify i f).read m = d.read m := by
  have frame : Frame (fun _ => False) (fun j => j = i) d (d.modify i f) :=
    Frame.of_modify d (by rfl) f
  apply frame.read (by simp)
  rintro _ found rfl
  exact other (d.inode_single linked found)

theorem FileKept.read {d d' : Disk Name} (kept : FileKept n d d') :
    d'.read n = d.read n := by
  obtain ⟨_, before, after, same⟩ := kept
  simp [Disk.read, before, after, same]

/-- Some names of d are gone; nothing else differs. -/
structure Sub (d' d : Disk Name) : Prop where
  linked : ∀ n i, d'.inode n = some i → d.inode n = some i
  data : ∀ i, d'.block i = d.block i

theorem Sub.refl (d : Disk Name) : Sub d d := ⟨fun _ _ linked => linked, fun _ => rfl⟩

theorem Sub.of_remove {d' d : Disk Name} (sub : Sub d' d) (n : Name) : Sub (d'.remove n) d where
  linked m i linked := by
    rw [inode_remove] at linked
    split at linked
    · cases linked
    · exact sub.linked m i linked
  data := sub.data

theorem Sub.read_some {d' d : Disk Name} (sub : Sub d' d) {content : Bytes}
    (found : d'.read n = some content) : d.read n = some content := by
  unfold read at found ⊢
  obtain ⟨i, linked, rfl⟩ := Option.map_eq_some_iff.mp found
  rw [sub.linked n i linked, Option.map_some, sub.data]

end Disk
theorem exists_unblocked {Name : Type} {blocks : Nat → Name → Prop}
    (once : ∀ {x i j}, blocks i x → blocks j x → i = j) (taken : List Name) :
    ∃ n ∈ List.range (taken.length + 1), ∀ x ∈ taken, ¬ blocks n x := by
  by_contra none
  push Not at none
  choose blocker member blocked using none
  have distinct : ((List.range (taken.length + 1)).attach.map
      (fun n => blocker n.val n.property)).Nodup := by
    refine (nodup_attach.mpr nodup_range).map ?_
    intro i j same
    have here := blocked i.val i.property
    rw [show blocker i.val i.property = blocker j.val j.property from same] at here
    exact Subtype.ext (once here (blocked j.val j.property))
  have inside : (List.range (taken.length + 1)).attach.map
      (fun n => blocker n.val n.property) ⊆ taken := by
    intro _ listed
    obtain ⟨n, _, rfl⟩ := mem_map.mp listed
    exact member n.val n.property
  have fits := (subperm_of_subset distinct inside).length_le
  simp only [length_map, length_attach, length_range] at fits
  omega

theorem exists_free_name {Name : Type} {name : Nat → Name} (distinct : Function.Injective name)
    (taken : List Name) : ∃ n ∈ List.range (taken.length + 1), name n ∉ taken := by
  obtain ⟨n, low, free⟩ := @exists_unblocked Name (fun n x => name n = x)
    (fun here there => distinct (here.trans there.symm)) taken
  exact ⟨n, low, fun listed => free _ listed rfl⟩

end Peerc
