import Peerc.Lib.Table

/-!
Dictionaries that index records: each record is listed under at most one key, and the dictionary
holds the keys of the listed records and nothing else.
-/
namespace Peerc
open List
variable {K V X : Type}

structure Indexed [DecidableEq K] (d : Dict K V) (listed : Nat → Option (K × V)) : Prop where
  lists : ∀ k v, d.get k = some v ↔ ∃ i, listed i = some (k, v)
  once : ∀ {i j k v w}, listed i = some (k, v) → listed j = some (k, w) → i = j

def Unlisted (listed : Nat → Option (K × V)) (k : K) : Prop := ∀ i v, listed i ≠ some (k, v)

def listing (entry : Nat → X → Option (K × V)) (rows : List X) (i : Nat) : Option (K × V) :=
  rows[i]?.bind (entry i)

variable {rows : List X} {i j : Nat} {x y : X}

section Rows
variable {f : X → X}

theorem modify_at (found : rows[i]? = some x) : (rows.modify i f)[i]? = some (f x) := by
  simp [found]

theorem modify_other (other : j ≠ i) : (rows.modify i f)[j]? = rows[j]? := by
  simp [Ne.symm other]

theorem modify_congr {g : X → X} (found : rows[i]? = some x) (same : f x = g x) :
    rows.modify i f = rows.modify i g := by
  apply ext_getElem?
  intro j
  by_cases here : j = i
  · subst here
    rw [modify_at found, modify_at found, same]
  · rw [modify_other here, modify_other here]

theorem modify_cases (found : (rows.modify i f)[j]? = some y) :
    (j = i ∧ ∃ x, rows[i]? = some x ∧ y = f x) ∨ (j ≠ i ∧ rows[j]? = some y) := by
  by_cases here : j = i
  · subst here
    rw [getElem?_modify_eq] at found
    obtain ⟨x, old, same⟩ := Option.map_eq_some_iff.mp found
    exact .inl ⟨rfl, x, old, same.symm⟩
  · rw [modify_other here] at found
    exact .inr ⟨here, found⟩

theorem changed_cases (found : rows[i]? = some x) (after : (rows.modify i f)[j]? = some y) :
    (j = i ∧ y = f x) ∨ (j ≠ i ∧ rows[j]? = some y) := by
  rcases modify_cases after with ⟨here, _, old, new⟩ | other
  · cases found.symm.trans old
    exact .inl ⟨here, new⟩
  · exact .inr other

theorem count_modify (p : X → Bool) (found : rows[i]? = some x) :
    (rows.modify i f).countP p + (p x).toNat = rows.countP p + (p (f x)).toNat := by
  induction rows generalizing i with
  | nil => cases found
  | cons _ _ ih =>
    cases i with
    | zero =>
      cases found
      rw [modify_zero_cons, countP_cons, countP_cons]
      cases p x <;> cases p (f x) <;> simp
    | succ i =>
      have tail := ih (i := i) found
      rw [modify_succ_cons, countP_cons, countP_cons]
      omega

theorem count_modify_same (p : X → Bool) (same : ∀ x, p (f x) = p x) :
    (rows.modify i f).countP p = rows.countP p := by
  cases found : rows[i]? with
  | none =>
    rw [modify_eq_self (by simpa using found)]
  | some =>
    have change := count_modify (f := f) p found
    rw [same] at change
    omega

end Rows

section Listing
variable {entry : Nat → X → Option (K × V)}

theorem listing_at (found : rows[i]? = some x) :
    listing entry rows i = entry i x := by
  rw [listing, found, Option.bind_some]

theorem listing_some {e : K × V} (listed : listing entry rows i = some e) :
    ∃ x, rows[i]? = some x ∧ entry i x = some e :=
  Option.bind_eq_some_iff.mp listed

theorem listing_modify_self (found : rows[i]? = some x) (f : X → X) :
    listing entry (rows.modify i f) i = entry i (f x) :=
  listing_at (modify_at found)

theorem listing_modify_other {i j : Nat} (other : j ≠ i) (f : X → X) :
    listing entry (rows.modify i f) j = listing entry rows j := by
  rw [listing, listing, modify_other other]

theorem listing_modify_same {f : X → X} (found : rows[i]? = some x)
    (same : entry i (f x) = entry i x) (j : Nat) :
    listing entry (rows.modify i f) j = listing entry rows j := by
  by_cases here : j = i
  · subst here
    rw [listing_modify_self found, listing_at found, same]
  · exact listing_modify_other here f

theorem listing_concat_new (x : X) :
    listing entry (rows ++ [x]) rows.length = entry rows.length x := by
  simp [listing]

theorem listing_past : listing entry rows rows.length = none := by
  simp [listing]

theorem listing_concat_old {j : Nat} (other : j ≠ rows.length) (x : X) :
    listing entry (rows ++ [x]) j = listing entry rows j := by
  have look : (rows ++ [x])[j]? = rows[j]? := by
    rw [getElem?_append]
    split
    · rfl
    · rw [getElem?_eq_none (l := rows) (by omega), getElem?_eq_none (by simp; omega)]
  rw [listing, listing, look]

theorem listing_concat_none (none : entry rows.length x = none) (j : Nat) :
    listing entry (rows ++ [x]) j = listing entry rows j := by
  by_cases here : j = rows.length
  · subst here
    rw [listing_concat_new, none, listing_past]
  · exact listing_concat_old here x

end Listing

section Index
variable [DecidableEq K] {d : Dict K V} {listed after : Nat → Option (K × V)} {k : K}

theorem indexed_empty (none : ∀ i, listed i = none) : Indexed (Dict.empty : Dict K V) listed := by
  constructor
  · intro _ _
    simp [none]
  · intro _ _ _ _ _ found
    rw [none] at found
    cases found

variable (indexed : Indexed d listed)
include indexed

theorem indexed_same (same : ∀ i, after i = listed i) : Indexed d after := by
  have equal : after = listed := funext same
  rw [equal]
  exact indexed

theorem indexed_add {v : V} (fresh : Unlisted listed k) (before : listed i = none)
    (new : after i = some (k, v)) (others : ∀ j, j ≠ i → after j = listed j) :
    Indexed (d.set k v) after := by
  have old : ∀ {j q w}, after j = some (q, w) → j ≠ i → listed j = some (q, w) ∧ q ≠ k := by
    intro j _ w found other
    rw [others j other] at found
    refine ⟨found, ?_⟩
    rintro rfl
    exact fresh j w found
  constructor
  · intro _ _
    rw [Dict.get_set]
    split
    · next same =>
      subst same
      constructor
      · rintro ⟨⟩
        exact ⟨i, new⟩
      · rintro ⟨j, found⟩
        by_cases here : j = i
        · subst here
          rw [new] at found
          cases found
          rfl
        · exact absurd rfl (old found here).2
    · next other =>
      rw [indexed.lists]
      constructor
      · rintro ⟨j, found⟩
        have elsewhere : j ≠ i := by
          rintro rfl
          rw [before] at found
          cases found
        exact ⟨j, (others j elsewhere).trans found⟩
      · rintro ⟨j, found⟩
        have elsewhere : j ≠ i := by
          rintro rfl
          rw [new] at found
          cases found
          exact other rfl
        exact ⟨j, (old found elsewhere).1⟩
  · intro a b _ _ _ first second
    by_cases here : a = i
    · subst here
      by_cases there : b = a
      · exact there.symm
      · rw [new] at first
        cases first
        exact absurd rfl (old second there).2
    · by_cases there : b = i
      · subst there
        rw [new] at second
        cases second
        exact absurd rfl (old first here).2
      · exact indexed.once (old first here).1 (old second there).1

theorem indexed_drop (alone : ∀ j v, listed j = some (k, v) → j = i)
    (before : ∀ q v, listed i = some (q, v) → q = k) (gone : after i = none)
    (others : ∀ j, j ≠ i → after j = listed j) : Indexed (d.pop k) after := by
  have old : ∀ {j q w}, after j = some (q, w) → j ≠ i ∧ listed j = some (q, w) := by
    intro j _ _ found
    have elsewhere : j ≠ i := by
      rintro rfl
      rw [gone] at found
      cases found
    exact ⟨elsewhere, (others j elsewhere).symm.trans found⟩
  constructor
  · intro q w
    rw [Dict.get_pop]
    split
    · next same =>
      subst same
      constructor
      · nofun
      · rintro ⟨j, found⟩
        exact absurd (alone j w (old found).2) (old found).1
    · next other =>
      rw [indexed.lists]
      constructor
      · rintro ⟨j, found⟩
        have elsewhere : j ≠ i := by
          rintro rfl
          exact other (before q w found)
        exact ⟨j, (others j elsewhere).trans found⟩
      · rintro ⟨j, found⟩
        exact ⟨j, (old found).2⟩
  · intro _ _ _ _ _ first second
    exact indexed.once (old first).2 (old second).2

theorem indexed_pop_unlisted (fresh : Unlisted listed k) : Indexed (d.pop k) listed := by
  constructor
  · intro q w
    rw [Dict.get_pop]
    split
    · next same =>
      subst same
      constructor
      · nofun
      · rintro ⟨j, found⟩
        exact absurd found (fresh j w)
    · exact indexed.lists q w
  · exact indexed.once

theorem indexed_get_none (fresh : Unlisted listed k) : d.get k = none := by
  cases found : d.get k with
  | none => rfl
  | some v =>
    obtain ⟨i, listed⟩ := (indexed.lists k v).mp found
    exact absurd listed (fresh i v)

end Index
end Peerc
