import Peerc.Lib.Bytes

/-!
The chunk stream of a file. The stream from an offset is a gapless run of pieces that ends at the
end of the file.
-/
namespace Peerc.Transfer
open List

structure Chunk where
  sequence : Nat
  offset : Nat
  data : Bytes
  deriving DecidableEq

/-- The length of what is left bounds the rounds. -/
def readLoop (chunkSize : Nat) : Nat → Bytes → Nat → Nat → List Chunk
  | 0, _, _, _ => []
  | fuel + 1, rest, sequence, offset =>
      if rest = [] then []
      else ⟨sequence, offset, rest.take chunkSize⟩ ::
        readLoop chunkSize fuel (rest.drop chunkSize) (sequence + 1)
          (offset + (rest.take chunkSize).length)

def readChunks (file : Bytes) (startOffset chunkSize : Nat) : Option (List Chunk) :=
  if file.length < startOffset then none
  else some (readLoop chunkSize file.length (file.drop startOffset) (startOffset / chunkSize)
    startOffset)

def Follows (file : Bytes) : Nat → Nat → List Chunk → Prop
  | _, _, [] => True
  | sequence, offset, c :: cs =>
      c.sequence = sequence ∧ c.offset = offset ∧ offset + c.data.length ≤ file.length ∧
        file.take (offset + c.data.length) = file.take offset ++ c.data ∧
        Follows file (sequence + 1) (offset + c.data.length) cs

def totalLength (cs : List Chunk) : Nat := (cs.map (fun c => c.data.length)).sum

theorem follows_front {file : Bytes} {sequence offset : Nat} {front cs : List Chunk}
    (isFront : front <+: cs) (follows : Follows file sequence offset cs) :
    Follows file sequence offset front := by
  induction front generalizing sequence offset cs with
  | nil => trivial
  | cons _ _ ih =>
    cases cs with
    | nil => simp at isFront
    | cons =>
      obtain ⟨rfl, rest⟩ := cons_prefix_cons.mp isFront
      obtain ⟨number, place, fits, extends_, later⟩ := follows
      exact ⟨number, place, fits, extends_, ih rest later⟩

theorem split_at_taken (rest : Bytes) (n : Nat) :
    rest.take (rest.take n).length = rest.take n ∧
      rest.drop (rest.take n).length = rest.drop n := by
  rw [length_take]
  rcases Nat.le_total n rest.length with shorter | longer
  · rw [Nat.min_eq_left shorter]
    exact ⟨rfl, rfl⟩
  · rw [Nat.min_eq_right longer, take_length, drop_length, take_of_length_le longer,
      drop_eq_nil_of_le longer]
    exact ⟨rfl, rfl⟩

theorem read_loop_follows (file : Bytes) (chunkSize fuel sequence offset : Nat)
    (inside : offset ≤ file.length) : Follows file sequence offset
      (readLoop chunkSize fuel (file.drop offset) sequence offset) := by
  induction fuel generalizing sequence offset with
  | zero => trivial
  | succ _ ih =>
    unfold readLoop
    split
    · trivial
    · have fits : offset + ((file.drop offset).take chunkSize).length ≤ file.length := by
        rw [length_take, length_drop]
        omega
      have extends_ : file.take (offset + ((file.drop offset).take chunkSize).length) =
          file.take offset ++ (file.drop offset).take chunkSize := by
        rw [take_add, (split_at_taken (file.drop offset) chunkSize).1]
      have onward : (file.drop offset).drop chunkSize =
          file.drop (offset + ((file.drop offset).take chunkSize).length) := by
        rw [← drop_drop, (split_at_taken (file.drop offset) chunkSize).2]
      refine ⟨rfl, rfl, fits, extends_, ?_⟩
      rw [onward]
      exact ih (sequence + 1) _ fits

theorem read_loop_total (chunkSize fuel : Nat) (positive : 0 < chunkSize) (rest : Bytes)
    (enough : rest.length ≤ fuel) (sequence offset : Nat) :
    totalLength (readLoop chunkSize fuel rest sequence offset) = rest.length := by
  induction fuel generalizing rest sequence offset with
  | zero =>
    have none : rest = [] := eq_nil_of_length_eq_zero (by omega)
    rw [none]
    rfl
  | succ fuel ih =>
    unfold readLoop
    split
    · rename_i none
      rw [none]
      rfl
    · rename_i some
      have nonempty : 0 < rest.length := length_pos_of_ne_nil some
      have shorter : (rest.drop chunkSize).length ≤ fuel := by
        rw [length_drop]
        omega
      have later := ih (rest.drop chunkSize) shorter (sequence + 1)
        (offset + (rest.take chunkSize).length)
      unfold totalLength at later ⊢
      rw [map_cons, sum_cons, later, ← length_append, take_append_drop]

theorem read_chunks_spec {file : Bytes} {startOffset chunkSize : Nat} {cs : List Chunk}
    (positive : 0 < chunkSize) (stream : readChunks file startOffset chunkSize = some cs) :
    startOffset ≤ file.length ∧ Follows file (startOffset / chunkSize) startOffset cs ∧
      startOffset + totalLength cs = file.length := by
  unfold readChunks at stream
  split at stream
  · cases stream
  · rename_i inside
    cases stream
    have within : startOffset ≤ file.length := by omega
    refine ⟨within, read_loop_follows file chunkSize file.length _ startOffset within, ?_⟩
    rw [read_loop_total chunkSize file.length positive, length_drop]
    · omega
    · rw [length_drop]
      omega

end Peerc.Transfer
