import Mathlib.Data.List.Basic
import Mathlib.Data.List.Flatten

/-!
Blocks laid end to end and read back from a front of the whole.
-/
namespace Peerc.Segments
open List
variable {α : Type}

/-- The number of leading blocks that lie wholly within the first n elements. -/
def complete : List (List α) → Nat → Nat
  | [], _ => 0
  | block :: blocks, n => if block.length ≤ n then complete blocks (n - block.length) + 1 else 0

variable {blocks : List (List α)} {k n : Nat}

theorem complete_eq (within : k ≤ blocks.length) (low : (blocks.take k).flatten.length ≤ n)
    (high : ∀ block, blocks[k]? = some block → n < (blocks.take k).flatten.length + block.length) :
    complete blocks n = k := by
  induction blocks generalizing k n with
  | nil =>
    have none : k = 0 := Nat.le_zero.mp within
    rw [none, complete]
  | cons block blocks ih =>
    cases k with
    | zero =>
      have short := high block rfl
      simp only [take_zero, flatten_nil, length_nil, Nat.zero_add] at short
      rw [complete, if_neg (Nat.not_le.mpr short)]
    | succ k =>
      simp only [take_succ_cons, flatten_cons, length_append] at low
      have rest : complete blocks (n - block.length) = k := by
        apply ih (Nat.le_of_succ_le_succ within)
        · omega
        · intro next here
          have beyond := high next here
          simp only [take_succ_cons, flatten_cons, length_append] at beyond
          omega
      rw [complete, if_pos (by omega), rest]

theorem le_complete (within : k ≤ blocks.length)
    (low : (blocks.take k).flatten.length ≤ n) : k ≤ complete blocks n := by
  induction blocks generalizing k n with
  | nil => exact Nat.le_trans within (Nat.zero_le _)
  | cons _ _ ih =>
    cases k with
    | zero => exact Nat.zero_le _
    | succ =>
      simp only [take_succ_cons, flatten_cons, length_append] at low
      rw [complete, if_pos (by omega)]
      exact Nat.succ_le_succ (ih (Nat.le_of_succ_le_succ within) (by omega))

theorem complete_le (blocks : List (List α)) (n : Nat) : complete blocks n ≤ blocks.length := by
  induction blocks generalizing n with
  | nil => exact Nat.le_refl 0
  | cons _ _ ih =>
    rw [complete]
    split
    · exact Nat.succ_le_succ (ih _)
    · exact Nat.zero_le _

theorem complete_all (blocks : List (List α)) :
    complete blocks blocks.flatten.length = blocks.length := by
  apply complete_eq (Nat.le_refl _)
  · simp only [take_length, Nat.le_refl]
  · intro _ beyond
    rw [getElem?_eq_none (Nat.le_refl _)] at beyond
    cases beyond

theorem complete_lt (short : n < blocks.flatten.length) : complete blocks n < blocks.length := by
  induction blocks generalizing n with
  | nil => exact absurd short (Nat.not_lt_zero n)
  | cons _ _ ih =>
    rw [flatten_cons, length_append] at short
    rw [complete]
    split
    · exact Nat.succ_lt_succ (ih (by omega))
    · exact Nat.succ_pos _

theorem behind_prefix {tail : List α} (front : (blocks.take k).flatten ++ tail <+: blocks.flatten) :
    tail <+: (blocks.drop k).flatten := by
  have whole : blocks.flatten = (blocks.take k).flatten ++ (blocks.drop k).flatten := by
    rw [← flatten_append, take_append_drop]
  rw [whole] at front
  exact (prefix_append_right_inj _).mp front

theorem drop_of_getElem? {block : List α} (here : blocks[k]? = some block) :
    (blocks.drop k).flatten = block ++ (blocks.drop (k + 1)).flatten := by
  obtain ⟨within, rfl⟩ := List.getElem?_eq_some_iff.mp here
  rw [List.drop_eq_getElem_cons within, List.flatten_cons]

end Peerc.Segments
