import Peerc.Lib.Disk

/-!
A directory that may lose power. Names are durable at once; what is written to a file is durable
only as far as it has been written back, which happens in any order.
-/
namespace Peerc

/-- The directory as running programs see it, and what is on the medium of each inode. -/
structure Durable (Name : Type) [DecidableEq Name] where
  live : Disk Name
  stored : Nat → Bytes

namespace Durable
variable {Name : Type} [DecidableEq Name] (d : Durable Name) (n : Name)

/-- open(name, "wb"); nothing of a new file is on the medium. -/
def openFresh : Durable Name × Nat :=
  let opened := d.live.openFresh n
  (⟨opened.1, fun i => if d.live.next ≤ i then [] else d.stored i⟩, opened.2.inode)

def modify (i : Nat) (f : Bytes → Bytes) : Durable Name :=
  { d with live := d.live.modify i f }

def rename (a b : Name) : Durable Name := { d with live := d.live.rename a b }

def remove : Durable Name := { d with live := d.live.remove n }

/-- Some bytes of the file reach the medium; the others are what was there before. -/
def merged (len : Nat) (reached : Nat → Bool) (written before : Bytes) : Bytes :=
  (List.range len).map (fun j => if reached j then written.getD j 0 else before.getD j 0)

def writeBack (i : Nat) (resized : Bool) (reached : Nat → Bool) : Durable Name :=
  let len := if resized then (d.live.block i).length else (d.stored i).length
  { d with
    stored := fun j =>
      if j = i then merged len reached (d.live.block i) (d.stored i) else d.stored j }

def crash : Disk Name := { d.live with block := d.stored }

def WrittenBack : Prop :=
  ∀ i, d.live.inode n = some i → d.stored i = d.live.block i

theorem crash_inode : d.crash.inode n = d.live.inode n := rfl

theorem crash_read {n : Name} (written : d.WrittenBack n) : d.crash.read n = d.live.read n := by
  unfold Disk.read
  rw [crash_inode]
  cases linked : d.live.inode n with
  | none => rfl
  | some i => exact congrArg some (written i linked)

theorem openFresh_frame :
    Disk.Frame (fun m => m = n) (fun i => d.live.inode n = some i) d.live
      (d.openFresh n).1.live := by
  simp only [openFresh, Disk.openFresh]
  cases linked : d.live.inode n with
  | none => exact Disk.Frame.of_create (by rfl) []
  | some => exact Disk.Frame.of_modify d.live (by rfl) (fun _ => [])

theorem openFresh_inode : (d.openFresh n).1.live.inode n = some (d.openFresh n).2 := by
  simp only [openFresh, Disk.openFresh]
  cases linked : d.live.inode n with
  | none => simp
  | some => simpa using linked

theorem openFresh_empty : (d.openFresh n).1.live.block (d.openFresh n).2 = [] := by
  simp only [openFresh, Disk.openFresh]
  cases linked : d.live.inode n <;> simp

end Durable
end Peerc
