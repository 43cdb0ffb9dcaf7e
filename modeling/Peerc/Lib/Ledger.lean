import Mathlib.Data.List.Basic

/-!
A log of which each entry is about one subject, and the subjects an entry is still owed for.
-/
namespace Peerc.Ledger
variable {Entry Subject : Type} [DecidableEq Subject]

def tally (subject : Entry → Subject) (log : List Entry) (k : Subject) : Nat :=
  log.countP (fun e => subject e = k)

structure Once (subject : Entry → Subject) (owed : Subject → Prop) (log : List Entry) : Prop where
  atMost : ∀ k, tally subject log k ≤ 1
  unpaid : ∀ k, owed k → tally subject log k = 0

variable {subject : Entry → Subject} {owed owed' : Subject → Prop} {log : List Entry}

theorem tally_concat (log : List Entry) (e : Entry) (k : Subject) :
    tally subject (log ++ [e]) k = tally subject log k + if subject e = k then 1 else 0 := by
  simp [tally, List.countP_append, List.countP_cons]

theorem once_nil : Once subject owed [] := ⟨fun _ => Nat.zero_le 1, fun _ _ => rfl⟩

theorem Once.keep (once : Once subject owed log) (shrinks : ∀ k, owed' k → owed k) :
    Once subject owed' log :=
  ⟨once.atMost, fun k owes => once.unpaid k (shrinks k owes)⟩

theorem Once.settle (once : Once subject owed log) {e : Entry} (owes : owed (subject e))
    (settled : ¬ owed' (subject e)) (shrinks : ∀ k, owed' k → owed k) :
    Once subject owed' (log ++ [e]) := by
  constructor
  · intro k
    rw [tally_concat]
    split
    · rename_i same
      subst same
      have unpaid := once.unpaid _ owes
      omega
    · exact once.atMost k
  · intro k owesK
    have other : subject e ≠ k := by
      rintro rfl
      exact settled owesK
    rw [tally_concat, if_neg other]
    exact once.unpaid k (shrinks k owesK)

end Peerc.Ledger
