import Mathlib.Data.List.Basic
import Mathlib.Algebra.Ring.Nat

/-!
Texts made of parts with a separator between or after them. The parts can be read back as long
as none of them contains the separator.
-/
namespace Peerc.Separated
open List
variable {α : Type} {x : α}

def terminated (x : α) (parts : List (List α)) : List α := parts.flatMap (· ++ [x])

variable {ps qs : List (List α)}

theorem split_part [DecidableEq α] {t p : List α} (part : p ∈ t.splitOn x) : x ∉ p := by
  induction t generalizing p with
  | nil =>
    rw [splitOn_nil, mem_singleton] at part
    simp [part]
  | cons c t ih =>
    rw [splitOn_cons_eq_if_modifyHead] at part
    split at part
    · rcases mem_cons.mp part with rfl | later
      · simp
      · exact ih later
    · rename_i other
      obtain ⟨first, _, parts⟩ := exists_cons_of_ne_nil (splitOn_ne_nil x t)
      rw [parts, modifyHead_cons] at part
      rw [parts] at ih
      rcases mem_cons.mp part with rfl | later
      · intro member
        rcases mem_cons.mp member with rfl | inside
        · simp at other
        · exact ih mem_cons_self inside
      · exact ih (mem_cons_of_mem first later)

/-- Joined parts are split again, unless there is only the empty one. -/
theorem split_joined [DecidableEq α] {ps : List (List α)} (none_in : ∀ p ∈ ps, x ∉ p)
    (only : ps ≠ [[]]) :
    (if [x].intercalate ps = [] then [] else ([x].intercalate ps).splitOn x) = ps := by
  by_cases empty : ps = []
  · subst empty
    rfl
  · have read := splitOn_intercalate x none_in empty
    rw [if_neg ?_, read]
    intro nothing
    rw [nothing] at read
    exact only read.symm

end Peerc.Separated
