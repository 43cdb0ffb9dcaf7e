import Mathlib.Data.List.Basic

/-!
Runs of a total step function. A condition on steps is judged on the state before the step; a
property of states is judged after every prefix of the run.
-/
namespace Peerc.Runs
open List
variable {State Step : Type}

def run (step : State → Step → State) (s : State) (es : List Step) : State :=
  es.foldl step s

def Along (step : State → Step → State) (cond : State → Step → Prop) :
    State → List Step → Prop
  | _, [] => True
  | s, e :: es => cond s e ∧ Along step cond (step s e) es

def Everywhere (step : State → Step → State) (P : State → Prop)
    (s : State) (es : List Step) : Prop :=
  ∀ pre, pre <+: es → P (run step s pre)

variable {step : State → Step → State} {cond : State → Step → Prop}

instance Along.decidable [meets : ∀ s e, Decidable (cond s e)] :
    ∀ (s : State) (es : List Step), Decidable (Along step cond s es)
  | _, [] => isTrue trivial
  | s, e :: es =>
      have := meets s e
      have := Along.decidable (step s e) es
      inferInstanceAs (Decidable (cond s e ∧ Along step cond (step s e) es))

variable (s : State)

@[simp] theorem run_nil : run step s [] = s := rfl

@[simp] theorem run_cons (e : Step) (es : List Step) :
    run step s (e :: es) = run step (step s e) es := rfl

theorem run_append (xs ys : List Step) : run step s (xs ++ ys) = run step (run step s xs) ys := by
  simp [run, foldl_append]

theorem run_concat (xs : List Step) (e : Step) :
    run step s (xs ++ [e]) = step (run step s xs) e := by
  rw [run_append]; rfl

theorem along_append (xs ys : List Step) : Along step cond s (xs ++ ys) ↔
      Along step cond s xs ∧ Along step cond (run step s xs) ys := by
  induction xs generalizing s with
  | nil => simp [Along]
  | cons _ _ ih => simp [Along, run_cons, ih, and_assoc]

variable {s : State}

theorem along_at {xs ys : List Step} {e : Step}
    (along : Along step cond s (xs ++ e :: ys)) : cond (run step s xs) e :=
  ((along_append s xs (e :: ys)).mp along).2.1

variable {es : List Step}

theorem along_front {pre : List Step} (front : pre <+: es)
    (along : Along step cond s es) : Along step cond s pre := by
  obtain ⟨rest, rfl⟩ := front
  exact ((along_append s pre rest).mp along).1

theorem along_mono {weak : State → Step → Prop} (weaker : ∀ s e, cond s e → weak s e)
    (along : Along step cond s es) : Along step weak s es := by
  induction es generalizing s with
  | nil => trivial
  | cons e _ ih => exact ⟨weaker s e along.1, ih along.2⟩

theorem along_and {also : State → Step → Prop}
    (along : Along step cond s es) (other : Along step also s es) :
    Along step (fun s e => cond s e ∧ also s e) s es := by
  induction es generalizing s with
  | nil => trivial
  | cons _ _ ih => exact ⟨⟨along.1, other.1⟩, ih along.2 other.2⟩

variable {inv : State → Prop}

/-- What one admissible step preserves, a whole admissible run preserves. -/
theorem invariant_run (keep : ∀ s e, inv s → cond s e → inv (step s e)) (start : inv s)
    (along : Along step cond s es) : inv (run step s es) := by
  induction es generalizing s with
  | nil => exact start
  | cons e _ ih => exact ih (keep s e start along.1) along.2

theorem invariant_everywhere (keep : ∀ s e, inv s → cond s e → inv (step s e)) (start : inv s)
    (along : Along step cond s es) : Everywhere step inv s es :=
  fun _ front => invariant_run keep start (along_front front along)

theorem along_of_all (all : ∀ s e, cond s e) (s : State) (es : List Step) :
    Along step cond s es := by
  induction es generalizing s with
  | nil => trivial
  | cons e _ ih => exact ⟨all s e, ih (step s e)⟩

theorem along_free (s : State) (es : List Step) : Along step (fun _ _ => True) s es :=
  along_of_all (fun _ _ => trivial) s es

theorem invariant_free (keep : ∀ s e, inv s → inv (step s e)) (start : inv s) (es : List Step) :
    inv (run step s es) :=
  invariant_run (fun s e held _ => keep s e held) start (along_free s es)

variable {Q : State → Step → Prop}

theorem invariant_along (keep : ∀ s e, inv s → cond s e → inv (step s e))
    (shows : ∀ s e, inv s → cond s e → Q s e) (start : inv s) (along : Along step cond s es) :
    Along step Q s es := by
  induction es generalizing s with
  | nil => trivial
  | cons e _ ih => exact ⟨shows s e start along.1, ih (keep s e start along.1) along.2⟩

theorem along_congr {P : State → Step → Prop} (keep : ∀ s e, inv s → cond s e → inv (step s e))
    (agree : ∀ s e, inv s → cond s e → (P s e ↔ Q s e)) (start : inv s)
    (along : Along step cond s es) : Along step P s es ↔ Along step Q s es := by
  induction es generalizing s with
  | nil => exact Iff.rfl
  | cons e _ ih => exact and_congr (agree s e start along.1) (ih (keep s e start along.1) along.2)

theorem along_iff {P : State → Step → Prop}
    (agree : ∀ s e, inv s → (P s e ↔ Q s e)) (keep : ∀ s e, inv s → Q s e → inv (step s e))
    (start : inv s) (es : List Step) : Along step P s es ↔ Along step Q s es := by
  induction es generalizing s with
  | nil => exact Iff.rfl
  | cons e _ ih =>
    constructor
    · rintro ⟨here, later⟩
      have meets := (agree s e start).mp here
      exact ⟨meets, (ih (keep s e start meets)).mp later⟩
    · rintro ⟨here, later⟩
      exact ⟨(agree s e start).mpr here, (ih (keep s e start here)).mpr later⟩

variable {P : State → Prop}

theorem everywhere_mono {Q : State → Prop} (weaker : ∀ s, P s → Q s)
    (all : Everywhere step P s es) : Everywhere step Q s es :=
  fun pre front => weaker _ (all pre front)

theorem everywhere_cons (s : State) (e : Step) (es : List Step) :
    Everywhere step P s (e :: es) ↔ P s ∧ Everywhere step P (step s e) es := by
  constructor
  · intro all
    refine ⟨all [] List.nil_prefix, ?_⟩
    intro pre front
    exact all (e :: pre) (cons_prefix_cons.mpr ⟨rfl, front⟩)
  · rintro ⟨here, later⟩ pre front
    cases pre with
    | nil => exact here
    | cons _ pre =>
      obtain ⟨rfl, tail⟩ := cons_prefix_cons.mp front
      exact later pre tail

theorem held_run {V : Type} {held : State → Option V} {brings : Step → Option V}
    (law : ∀ s e, cond s e → held (step s e) = (brings e).or (held s))
    (along : Along step cond s es) :
    held (run step s es) = (es.filterMap brings).getLast?.or (held s) := by
  induction es generalizing s with
  | nil => rfl
  | cons e es ih =>
    rw [run_cons, ih along.2, law s e along.1]
    cases brought : brings e with
    | none => rw [filterMap_cons_none brought, Option.none_or]
    | some =>
      rw [filterMap_cons_some brought, getLast?_cons]
      cases (es.filterMap brings).getLast? <;> rfl

/-- What no state has at first and a state of the run has was brought in by some step. -/
theorem introduced {X : Type} {has : State → X → Prop} {brings : State → Step → X → Prop}
    (each : ∀ s e x, cond s e → ¬ has s x → has (step s e) x → brings s e x)
    (along : Along step cond s es) {x : X} (absent : ¬ has s x) (present : has (run step s es) x) :
    ∃ xs e ys, es = xs ++ e :: ys ∧ brings (run step s xs) e x := by
  induction es generalizing s with
  | nil => exact absurd present absent
  | cons e es ih =>
    by_cases next : has (step s e) x
    · exact ⟨[], e, es, rfl, each s e x along.1 absent next⟩
    · obtain ⟨xs, e', ys, rfl, brought⟩ := ih along.2 next present
      exact ⟨e :: xs, e', ys, rfl, brought⟩

theorem everywhere_iff_along_within {side : State → Step → Prop} (shows : ∀ s, inv s → P s)
    (keep : ∀ s e, inv s → side s e → cond s e → inv (step s e))
    (breaks : ∀ s e, inv s → side s e → ¬ cond s e → ¬ P (step s e)) (start : inv s)
    (within : Along step side s es) : Everywhere step P s es ↔ Along step cond s es := by
  constructor
  · intro all
    induction es generalizing s with
    | nil => trivial
    | cons e es ih =>
      have later := ((everywhere_cons s e es).mp all).2
      have meets : cond s e := by
        by_contra against
        exact breaks s e start within.1 against (later [] List.nil_prefix)
      exact ⟨meets, ih (keep s e start within.1 meets) within.2 later⟩
  · intro along
    exact everywhere_mono shows (invariant_everywhere
      (fun s e held both => keep s e held both.1 both.2) start (along_and within along))

/-- The property holds throughout exactly if every step meets the condition. -/
theorem everywhere_iff_along (shows : ∀ s, inv s → P s)
    (keep : ∀ s e, inv s → cond s e → inv (step s e))
    (breaks : ∀ s e, inv s → ¬ cond s e → ¬ P (step s e)) (start : inv s) (es : List Step) :
    Everywhere step P s es ↔ Along step cond s es := by
  exact everywhere_iff_along_within shows (fun s e held _ meets => keep s e held meets)
    (fun s e held _ against => breaks s e held against) start (along_free s es)

end Peerc.Runs
