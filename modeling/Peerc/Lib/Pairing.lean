import Mathlib.Data.Sym.Sym2
import Peerc.Lib.Table

/-!
Matchings kept as a dictionary that holds each pair in both directions. The dictionary stays a
matching exactly if what is joined is spare.
-/
namespace Peerc.Pairing
variable {α : Type} [DecidableEq α] (t : Dict α α)

/-- Every entry has its counterpart, and nothing is paired with itself. -/
def Matched : Prop := ∀ a b, t.get a = some b → a ≠ b ∧ t.get b = some a

def join (a b : α) : Dict α α := (t.set a b).set b a

def part (a : α) : Dict α α :=
  match t.get a with
  | none => t
  | some b => (t.pop a).pop b

structure Spare (a b : α) : Prop where
  differ : a ≠ b
  left : ∀ c, t.get a = some c → c = b
  right : ∀ c, t.get b = some c → c = a

def pairs : Set (Sym2 α) := {z | ∃ a b, t.get a = some b ∧ z = s(a, b)}

variable {t : Dict α α} {a b x : α}

theorem get_join (t : Dict α α) (a b x : α) :
    (join t a b).get x = if x = b then some a else if x = a then some b else t.get x := by
  simp [join]

theorem get_part (t : Dict α α) (a x : α) :
    (part t a).get x = if x = a ∨ t.get a = some x then none else t.get x := by
  unfold part
  cases found : t.get a with
  | none =>
    by_cases here : x = a
    · simp [here, found]
    · simp [here]
  | some b =>
    simp only [Dict.get_pop, Option.some.injEq]
    by_cases there : x = b
    · simp [there]
    · simp [there, Ne.symm there]

theorem matched_empty : Matched (Dict.empty : Dict α α) := by
  rintro _ _ ⟨⟩

variable (matched : Matched t)
include matched

theorem spare_of_matched_join (joined : Matched (join t a b)) : Spare t a b := by
  have entry : (join t a b).get b = some a := by rw [get_join, if_pos rfl]
  have differ : a ≠ b := Ne.symm (joined b a entry).1
  have other : (join t a b).get a = some b := by rw [get_join, if_neg differ, if_pos rfl]
  -- a third partner keeps its entry, which no longer has a counterpart
  have third : ∀ {x c}, t.get x = some c → c ≠ a → c ≠ b → (join t a b).get x = some c := by
    intro x c found notA notB
    obtain ⟨_, back⟩ := matched x c found
    have kept : (join t a b).get c = some x := by rw [get_join, if_neg notB, if_neg notA, back]
    exact (joined c x kept).2
  refine ⟨differ, ?_, ?_⟩
  · intro c found
    by_contra notB
    have kept := third found (Ne.symm (matched a c found).1) notB
    exact notB (Option.some.inj (kept.symm.trans other))
  · intro c found
    by_contra notA
    have kept := third found notA (Ne.symm (matched b c found).1)
    exact notA (Option.some.inj (kept.symm.trans entry))

theorem matched_join (spare : Spare t a b) : Matched (join t a b) := by
  have entry : (join t a b).get b = some a := by rw [get_join, if_pos rfl]
  have other : (join t a b).get a = some b := by rw [get_join, if_neg spare.differ, if_pos rfl]
  intro x y found
  rw [get_join] at found
  split at found
  · next here =>
    cases found
    rw [here]
    exact ⟨Ne.symm spare.differ, other⟩
  · next notB =>
    split at found
    · next here =>
      cases found
      rw [here]
      exact ⟨spare.differ, entry⟩
    · next notA =>
      obtain ⟨differ, back⟩ := matched x y found
      have yB : y ≠ b := fun same => notA (spare.right x (same ▸ back))
      have yA : y ≠ a := fun same => notB (spare.left x (same ▸ back))
      exact ⟨differ, by rw [get_join, if_neg yB, if_neg yA, back]⟩

theorem matched_part (a : α) : Matched (part t a) := by
  intro x y found
  rw [get_part] at found
  split at found
  · cases found
  · next away =>
    obtain ⟨notA, notPartner⟩ := not_or.mp away
    obtain ⟨differ, back⟩ := matched x y found
    refine ⟨differ, ?_⟩
    rw [get_part, if_neg, back]
    rintro (rfl | partner)
    · exact notPartner back
    · exact notA (Option.some.inj (back.symm.trans (matched a y partner).2))

theorem mem_pairs_iff : s(a, b) ∈ pairs t ↔ t.get a = some b := by
  constructor
  · rintro ⟨_, _, found, same⟩
    rcases Sym2.eq_iff.mp same with ⟨rfl, rfl⟩ | ⟨rfl, rfl⟩
    · exact found
    · exact (matched _ _ found).2
  · intro found
    exact ⟨a, b, found, rfl⟩

theorem pairs_join (spare : Spare t a b) : pairs (join t a b) = insert s(a, b) (pairs t) := by
  ext z
  induction z with
  | _ x y =>
    rw [Set.mem_insert_iff, mem_pairs_iff (matched_join matched spare), mem_pairs_iff matched,
      get_join, Sym2.eq_iff]
    by_cases xb : x = b
    · subst xb
      rw [if_pos rfl]
      constructor
      · intro found
        exact .inl (.inr ⟨rfl, (Option.some.inj found).symm⟩)
      · rintro ((⟨same, _⟩ | ⟨_, rfl⟩) | found)
        · exact absurd same.symm spare.differ
        · rfl
        · rw [spare.right y found]
    · rw [if_neg xb]
      by_cases xa : x = a
      · subst xa
        rw [if_pos rfl]
        constructor
        · intro found
          exact .inl (.inl ⟨rfl, (Option.some.inj found).symm⟩)
        · rintro ((⟨_, rfl⟩ | ⟨same, _⟩) | found)
          · rfl
          · exact absurd same xb
          · rw [spare.left y found]
      · rw [if_neg xa]
        simp [xa, xb]

theorem pairs_part (a : α) : pairs (part t a) = {z ∈ pairs t | a ∉ z} := by
  ext z
  induction z with
  | _ x =>
    rw [Set.mem_sep_iff, mem_pairs_iff (matched_part matched a), mem_pairs_iff matched, get_part,
      Sym2.mem_iff]
    constructor
    · intro found
      split at found
      · cases found
      · next away =>
        obtain ⟨notA, notPartner⟩ := not_or.mp away
        refine ⟨found, ?_⟩
        rintro (rfl | rfl)
        · exact notA rfl
        · exact notPartner (matched x _ found).2
    · rintro ⟨found, away⟩
      rw [if_neg, found]
      rintro (rfl | partner)
      · exact away (.inl rfl)
      · have back := (matched a x partner).2
        exact away (.inr (Option.some.inj (back.symm.trans found)))

end Peerc.Pairing
