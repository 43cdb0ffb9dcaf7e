import Mathlib.Logic.Relation
import Mathlib.Data.List.Nodup
import Mathlib.Algebra.BigOperators.Group.List.Basic
import Mathlib.Algebra.Ring.Nat

/-!
Exhaustive search of a graph given by its neighbour lists, with a stack that may hold a vertex
several times. The loop ends when the stack is empty; `load` bounds what is still to be pushed.
-/
namespace Peerc.Search
open List
variable {Vertex : Type} [DecidableEq Vertex]

def search (next : Vertex → List Vertex) :
    Nat → List Vertex → List Vertex → List Vertex
  | 0, visited, _ => visited
  | _ + 1, visited, [] => visited
  | fuel + 1, visited, x :: stack =>
      if x ∈ visited then search next fuel visited stack
      else search next fuel (x :: visited) ((next x).reverse ++ stack)

/-- The loop from one state to what has been visited when the stack is empty. -/
inductive Searches (next : Vertex → List Vertex) : List Vertex → List Vertex → List Vertex → Prop
  | done (visited : List Vertex) : Searches next visited [] visited
  | seen {x : Vertex} {visited stack out : List Vertex} (known : x ∈ visited)
      (rest : Searches next visited stack out) : Searches next visited (x :: stack) out
  | fresh {x : Vertex} {visited stack out : List Vertex} (new : x ∉ visited)
      (rest : Searches next (x :: visited) ((next x).reverse ++ stack) out) :
      Searches next visited (x :: stack) out

def load (next : Vertex → List Vertex) (vertices visited : List Vertex) : Nat :=
  ((vertices.filter (fun v => v ∉ visited)).map (fun v => (next v).length)).sum

def Reaches (next : Vertex → List Vertex) : Vertex → Vertex → Prop :=
  Relation.ReflTransGen (fun a b => b ∈ next a)

variable {next : Vertex → List Vertex}

variable {vertices : List Vertex} {x : Vertex}

theorem load_unlisted (absent : x ∉ vertices)
    (next : Vertex → List Vertex) (visited : List Vertex) :
    load next vertices (x :: visited) = load next vertices visited := by
  have same : vertices.filter (fun v => v ∉ x :: visited) =
      vertices.filter (fun v => v ∉ visited) := by
    apply filter_congr
    intro v member
    have other : v ≠ x := fun same => absent (same ▸ member)
    simp [other]
  rw [load, same, load]

variable {visited : List Vertex}

theorem load_visit (distinct : vertices.Nodup)
    (listed : ∀ v, next v ≠ [] → v ∈ vertices) (fresh : x ∉ visited) :
    load next vertices (x :: visited) + (next x).length = load next vertices visited := by
  by_cases member : x ∈ vertices
  · clear listed
    induction vertices with
    | nil => simp at member
    | cons v _ ih =>
      obtain ⟨first, distinct⟩ := nodup_cons.mp distinct
      rcases mem_cons.mp member with rfl | later
      · have rest := load_unlisted first next visited
        simp only [load, filter_cons, mem_cons, true_or, not_true_eq_false, decide_false,
          fresh, not_false_eq_true, decide_true, if_true, Bool.false_eq_true, if_false,
          map_cons, sum_cons] at rest ⊢
        omega
      · have rest := ih distinct later
        have other : v ≠ x := fun same => first (same ▸ later)
        by_cases seen : v ∈ visited
        · simp only [load, filter_cons, mem_cons, other, seen, or_true,
            not_true_eq_false, decide_false, Bool.false_eq_true, if_false] at rest ⊢
          omega
        · simp only [load, filter_cons, mem_cons, other, seen, or_self,
            not_false_eq_true, decide_true, if_true, map_cons, sum_cons] at rest ⊢
          omega
  · have isolated : next x = [] := by
      by_contra pushes
      exact member (listed x pushes)
    rw [load_unlisted member, isolated, length_nil, Nat.add_zero]

variable {stack out : List Vertex}

/-- The fuel is enough for the loop to end. -/
theorem search_ends (distinct : vertices.Nodup) (listed : ∀ v, next v ≠ [] → v ∈ vertices)
    {fuel : Nat} (enough : stack.length + load next vertices visited ≤ fuel) :
    Searches next visited stack (search next fuel visited stack) := by
  induction fuel generalizing visited stack with
  | zero =>
    have emptied : stack = [] := length_eq_zero_iff.mp (by omega)
    subst emptied
    exact .done visited
  | succ fuel ih =>
    cases stack with
    | nil => exact .done visited
    | cons y stack =>
      simp only [length_cons] at enough
      unfold search
      split
      · next seen => exact .seen seen (ih (by omega))
      · next fresh =>
        have spent := load_visit distinct listed fresh
        refine .fresh fresh (ih ?_)
        rw [length_append, length_reverse]
        omega

omit [DecidableEq Vertex]

theorem searches_sound {root : Vertex} (run : Searches next visited stack out)
    (known : ∀ x ∈ visited, Reaches next root x) (pushed : ∀ x ∈ stack, Reaches next root x) :
    ∀ x ∈ out, Reaches next root x := by
  induction run with
  | done => exact known
  | seen _ _ ih => exact ih known (forall_mem_cons.mp pushed).2
  | fresh _ _ ih =>
    obtain ⟨reached, others⟩ := forall_mem_cons.mp pushed
    refine ih (forall_mem_cons.mpr ⟨reached, known⟩) (forall_mem_append.mpr ⟨?_, others⟩)
    intro x new
    exact reached.tail (mem_reverse.mp new)

theorem searches_nodup (run : Searches next visited stack out) (once : visited.Nodup) :
    out.Nodup := by
  induction run with
  | done => exact once
  | seen _ _ ih => exact ih once
  | fresh new _ ih => exact ih (nodup_cons.mpr ⟨new, once⟩)

theorem searches_keeps (run : Searches next visited stack out) : visited ⊆ out := by
  induction run with
  | done => exact Subset.refl _
  | seen _ _ ih => exact ih
  | fresh _ _ ih => exact List.Subset.trans (subset_cons_self _ _) ih

/-- No edge leaves the result. -/
theorem searches_closed (run : Searches next visited stack out)
    (frontier : ∀ v ∈ visited, ∀ w ∈ next v, w ∈ visited ∨ w ∈ stack) :
    stack ⊆ out ∧ ∀ v ∈ out, ∀ w ∈ next v, w ∈ out := by
  induction run with
  | done =>
    refine ⟨nil_subset _, ?_⟩
    intro v seen w edge
    exact (frontier v seen w edge).resolve_right not_mem_nil
  | @seen x _ stack _ known rest ih =>
    obtain ⟨covers, closed⟩ := ih (by
      intro v old w edge
      rcases frontier v old w edge with inVisited | onStack
      · exact .inl inVisited
      · rcases mem_cons.mp onStack with rfl | later
        · exact .inl known
        · exact .inr later)
    exact ⟨cons_subset.mpr ⟨searches_keeps rest known, covers⟩, closed⟩
  | @fresh x _ _ _ _ rest ih =>
    obtain ⟨covers, closed⟩ := ih (by
      intro v old w edge
      rcases mem_cons.mp old with rfl | older
      · exact .inr (mem_append_left _ (mem_reverse.mpr edge))
      · rcases frontier v older w edge with inVisited | onStack
        · exact .inl (mem_cons_of_mem x inVisited)
        · rcases mem_cons.mp onStack with rfl | later
          · exact .inl mem_cons_self
          · exact .inr (mem_append_right _ later))
    refine ⟨cons_subset.mpr ⟨searches_keeps rest mem_cons_self, ?_⟩, closed⟩
    exact List.Subset.trans (subset_append_right _ _) covers

theorem mem_searches_iff {root : Vertex} (run : Searches next [] [root] out) (x : Vertex) :
    x ∈ out ↔ Reaches next root x := by
  constructor
  · refine searches_sound run (by simp) ?_ x
    intro _ member
    rw [mem_singleton.mp member]
    exact Relation.ReflTransGen.refl
  · intro reached
    obtain ⟨covers, closed⟩ := searches_closed run (by simp)
    induction reached with
    | refl => exact covers mem_cons_self
    | tail _ edge ih => exact closed _ ih _ edge

end Peerc.Search
