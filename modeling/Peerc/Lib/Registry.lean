import Peerc.Lib.Table

/-!
Objects known by their number, and a dictionary from identifiers to numbers that lists exactly
the live ones.
-/
namespace Peerc.Registry
open List List
variable {Obj Id : Type} [DecidableEq Id]

def Listed (live : Obj → Prop) (ident : Obj → Id) (objs : List Obj) (index : Dict Id Nat) : Prop :=
  ∀ id i, index.get id = some i → ∃ t, objs[i]? = some t ∧ ident t = id ∧ live t

def Registered (live : Obj → Prop) (ident : Obj → Id) (objs : List Obj) (index : Dict Id Nat) :
    Prop :=
  ∀ i t, objs[i]? = some t → live t → index.get (ident t) = some i

variable {live : Obj → Prop} {ident : Obj → Id} {objs : List Obj} {index : Dict Id Nat}

variable {i : Nat} {xs : List Obj} {x y : Obj}

theorem erased_fresh {Item Key : Type} {key : Item → Option Key} {l : List Item} {n : Nat}
    {x : Item} {k : Key} (distinct : (l.filterMap key).Nodup) (here : l[n]? = some x)
    (keyed : key x = some k) : ∀ y ∈ l.eraseIdx n, key y ≠ some k := by
  obtain ⟨inside, same⟩ := List.getElem?_eq_some_iff.mp here
  have split : l = l.take n ++ x :: l.drop (n + 1) := by
    rw [← same, ← List.drop_eq_getElem_cons inside, List.take_append_drop]
  intro y member again
  rw [eraseIdx_eq_take_drop_succ] at member
  rw [split, filterMap_append, filterMap_cons_some keyed] at distinct
  rw [nodup_middle, nodup_cons, mem_append, mem_filterMap, mem_filterMap]
    at distinct
  rcases mem_append.mp member with front | back
  · exact distinct.1 (.inl ⟨y, front, again⟩)
  · exact distinct.1 (.inr ⟨y, back, again⟩)

theorem map_set_same {Image : Type} {f : Obj → Image}
    (found : xs[i]? = some x) (same : f y = f x) : (xs.set i y).map f = xs.map f := by
  obtain ⟨inside, get⟩ := List.getElem?_eq_some_iff.mp found
  apply List.ext_getElem?
  intro j
  by_cases here : i = j
  · subst here
    simp [map_set, same, inside, get]
  · simp [map_set, List.getElem?_set_ne here]

theorem mem_eraseIdx_other {Item : Type} {l : List Item} {n : Nat} {x y : Item}
    (here : l[n]? = some x) (other : y ≠ x) : y ∈ l.eraseIdx n ↔ y ∈ l := by
  refine ⟨mem_of_mem_eraseIdx, ?_⟩
  intro member
  obtain ⟨m, found⟩ := mem_iff_getElem?.mp member
  refine mem_eraseIdx_iff_getElem?.mpr ⟨m, ?_, found⟩
  rintro rfl
  exact other (Option.some.inj (found.symm.trans here))

theorem listed_nil : Listed live ident [] (Dict.empty : Dict Id Nat) := by
  intro _ _ found
  simp at found

theorem registered_nil : Registered live ident [] (Dict.empty : Dict Id Nat) := by
  intro _ _ found
  simp at found

theorem listed_values_nodup (listed : Listed live ident objs index) : index.values.Nodup := by
  have rows : index.rows.Nodup := List.Nodup.of_map _ index.unique
  refine rows.map_on ?_
  rintro ⟨a, i⟩ rowA ⟨b, _⟩ rowB same
  cases same
  obtain ⟨_, foundA, identA, _⟩ := listed a i ((Dict.get_some_iff index a i).mpr rowA)
  obtain ⟨_, foundB, identB, _⟩ := listed b i ((Dict.get_some_iff index b i).mpr rowB)
  cases foundA.symm.trans foundB
  rw [← identA, ← identB]

variable {t t' : Obj}

theorem listed_update (listed : Listed live ident objs index)
    (found : objs[i]? = some t) (sameId : ident t' = ident t) (alive' : live t') :
    Listed live ident (objs.set i t') index := by
  intro id j listedJ
  obtain ⟨u, foundJ, identU, liveU⟩ := listed id j listedJ
  by_cases same : j = i
  · subst same
    cases found.symm.trans foundJ
    exact ⟨t', found_set found, sameId.trans identU, alive'⟩
  · exact ⟨u, found_aside foundJ same, identU, liveU⟩

theorem registered_update (registered : Registered live ident objs index)
    (found : objs[i]? = some t) (alive : live t) (sameId : ident t' = ident t) :
    Registered live ident (objs.set i t') index := by
  intro j u foundU liveU
  rcases set_cases foundU with ⟨rfl, rfl⟩ | ⟨_, old⟩
  · rw [sameId]
    exact registered j t found alive
  · exact registered j u old liveU

theorem listed_retire (listed : Listed live ident objs index)
    (found : objs[i]? = some t) (t' : Obj) :
    Listed live ident (objs.set i t') (index.pop (ident t)) := by
  intro id j listedJ
  obtain ⟨other, listedJ⟩ := Dict.of_get_pop listedJ
  obtain ⟨u, foundJ, identU, liveU⟩ := listed id j listedJ
  have apart : j ≠ i := by
    rintro rfl
    cases found.symm.trans foundJ
    exact other identU.symm
  exact ⟨u, found_aside foundJ apart, identU, liveU⟩

theorem listed_pop (listed : Listed live ident objs index) (id : Id) :
    Listed live ident objs (index.pop id) :=
  fun other j listedJ => listed other j (Dict.of_get_pop listedJ).2

theorem registered_retire (registered : Registered live ident objs index)
    (found : objs[i]? = some t) (alive : live t) (dead : ¬ live t') :
    Registered live ident (objs.set i t') (index.pop (ident t)) := by
  intro j u foundU liveU
  rcases set_cases foundU with ⟨_, rfl⟩ | ⟨apart, old⟩
  · exact absurd liveU dead
  · have number := registered j u old liveU
    rw [Dict.get_pop, if_neg ?_]
    · exact number
    · intro same
      rw [same, registered i t found alive] at number
      exact apart (Option.some.inj number).symm

theorem listed_dead (listed : Listed live ident objs index)
    (found : objs[i]? = some t) (dead : ¬ live t) (t' : Obj) :
    Listed live ident (objs.set i t') index := by
  intro id j listedJ
  obtain ⟨u, foundJ, identU, liveU⟩ := listed id j listedJ
  have apart : j ≠ i := by
    rintro rfl
    cases found.symm.trans foundJ
    exact dead liveU
  exact ⟨u, found_aside foundJ apart, identU, liveU⟩

theorem registered_dead (registered : Registered live ident objs index)
    (dead' : ¬ live t') : Registered live ident (objs.set i t') index := by
  intro j u foundU liveU
  rcases set_cases foundU with ⟨_, rfl⟩ | ⟨_, old⟩
  · exact absurd liveU dead'
  · exact registered j u old liveU

theorem listed_enter (listed : Listed live ident objs index)
    (found : objs[i]? = some t) (dead : ¬ live t) (sameId : ident t' = ident t) (alive' : live t') :
    Listed live ident (objs.set i t') (index.set (ident t) i) := by
  intro id j listedJ
  rw [Dict.get_set] at listedJ
  split at listedJ
  · rename_i same
    cases listedJ
    exact ⟨t', found_set found, sameId.trans same.symm, alive'⟩
  · exact listed_dead listed found dead t' id j listedJ

theorem listed_append (listed : Listed live ident objs index) (t : Obj) :
    Listed live ident (objs ++ [t]) index := by
  intro id j listedJ
  obtain ⟨u, foundJ, identU, liveU⟩ := listed id j listedJ
  exact ⟨u, found_append foundJ, identU, liveU⟩

theorem listed_add (listed : Listed live ident objs index) (alive : live t) :
    Listed live ident (objs ++ [t]) (index.set (ident t) objs.length) := by
  intro id j listedJ
  rw [Dict.get_set] at listedJ
  split at listedJ
  · rename_i same
    cases listedJ
    exact ⟨t, by simp, same.symm, alive⟩
  · exact listed_append listed t id j listedJ

theorem registered_add (registered : Registered live ident objs index)
    (free : index.get (ident t) = none) :
    Registered live ident (objs ++ [t]) (index.set (ident t) objs.length) := by
  intro j u foundU liveU
  rw [Dict.get_set]
  rcases concat_cases foundU with old | ⟨rfl, rfl⟩
  · have number := registered j u old liveU
    rw [if_neg ?_]
    · exact number
    · intro same
      rw [same, free] at number
      cases number
  · rw [if_pos rfl]

end Peerc.Registry
