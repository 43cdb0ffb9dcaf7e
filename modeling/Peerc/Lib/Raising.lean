import Mathlib.Tactic.Basic

/-!
Operations that may raise: which exceptions one of them can raise.
-/
namespace Peerc.Raising
variable {ε α β : Type}

variable {allowed : ε → Prop}

def Within (allowed : ε → Prop) (result : Except ε α) : Prop :=
  ∀ e, result = .error e → allowed e

theorem within_ok (a : α) : Within allowed (.ok a : Except ε α) := by
  intro _ raised
  cases raised

theorem within_error (e : ε) : Within allowed (.error e : Except ε α) ↔ allowed e := by
  constructor
  · intro within
    exact within e rfl
  · intro fine _ raised
    cases raised
    exact fine

theorem within_bind (first : Except ε α) (rest : α → Except ε β) : Within allowed (first >>= rest) ↔
      Within allowed first ∧ ∀ a, first = .ok a → Within allowed (rest a) := by
  cases first with
  | ok a =>
    constructor
    · intro within
      refine ⟨within_ok a, ?_⟩
      intro _ same
      cases same
      exact within
    · intro both
      exact both.2 a rfl
  | error e =>
    constructor
    · intro within
      refine ⟨(within_error e).mpr (within e rfl), ?_⟩
      intro _ same
      cases same
    · intro both
      exact (within_error e).mpr ((within_error e).mp both.1)

theorem bind_of_ok {first : Except ε α} {rest : α → Except ε β} {a : α} (ran : first = .ok a) :
    (first >>= rest) = rest a := by
  rw [ran]
  rfl

theorem except_bind_ok {first : Except ε α} {rest : α → Except ε β} {b : β}
    (returned : (first >>= rest) = .ok b) : ∃ a, first = .ok a ∧ rest a = .ok b := by
  cases first with
  | ok a => exact ⟨a, rfl, returned⟩
  | error => cases returned

theorem within_map (result : Except ε α) (f : α → β) :
    Within allowed (result.map f) ↔ Within allowed result := by
  cases result with
  | ok a => exact ⟨fun _ => within_ok a, fun _ => within_ok (f a)⟩
  | error e => exact (within_error e).trans (within_error e).symm

end Peerc.Raising
