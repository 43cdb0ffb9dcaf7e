import Mathlib.Tactic.Basic

/-!
Computations that read from a store in which any read may fail. One that does not catch failures
returns exactly when none of the reads its value rests on fails and it does not refuse.
-/
namespace Peerc.Reads

variable {Q E α β : Type}

def ask (fails : Q → Bool) (failure : Q → E) (q : Q) (value : α) : Except E α :=
  if fails q then .error (failure q) else .ok value

variable {fails : Q → Bool} {asked later : List Q}

/-- The value, or a refusal if there is none, after the reads that are asked. -/
def Yields (fails : Q → Bool) (asked : List Q) (x : Except E α) (value : Option α) : Prop :=
  ∀ a, x = .ok a ↔ (∀ q ∈ asked, fails q = false) ∧ value = some a

theorem yields_pure (a : α) : Yields fails [] (pure a : Except E α) (some a) := by
  intro _
  simp [pure, Except.pure]

theorem yields_refuse (e : E) : Yields fails [] (.error e : Except E α) none := by
  intro _
  simp

theorem yields_ask (failure : Q → E) (q : Q) (value : α) :
    Yields fails [q] (ask fails failure q value) (some value) := by
  intro _
  cases failed : fails q <;> simp [ask, failed]

theorem yields_then {x : Except E α} {f : α → Except E β} {a : α} {value : Option β}
    (first : Yields fails asked x (some a)) (second : Yields fails later (f a) value) :
    Yields fails (asked ++ later) (x >>= f) value := by
  intro b
  rw [List.forall_mem_append, and_assoc]
  cases x with
  | error =>
    have failed := mt (first a).mpr (by simp)
    exact iff_of_false (by simp [bind, Except.bind]) fun all => failed ⟨all.1, rfl⟩
  | ok a' =>
    obtain ⟨read, same⟩ := (first a').mp rfl
    cases same
    rw [and_iff_right read]
    exact second b

end Peerc.Reads
