import Mathlib.Data.List.Nodup
import Mathlib.Data.List.Lemmas

/-!
Tables with a primary key: rows in insertion order and no two rows with one key. A dictionary is
the table of its entries.
-/
namespace Peerc
open List

section Indices
variable {α : Type} {l m : List α} {i j : Nat} {a b : α}

theorem index_lt (found : l[i]? = some a) : i < l.length :=
  (List.getElem?_eq_some_iff.mp found).1

theorem found_append (found : l[i]? = some a) : (l ++ m)[i]? = some a := by
  rw [getElem?_append_left (index_lt found), found]

theorem found_set (found : l[i]? = some a) : (l.set i b)[i]? = some b :=
  getElem?_set_self (index_lt found)

theorem found_aside (found : l[j]? = some a) (other : j ≠ i) : (l.set i b)[j]? = some a :=
  (getElem?_set_ne (fun same => other same.symm)).trans found

theorem set_cases (found : (l.set i b)[j]? = some a) :
    (j = i ∧ a = b) ∨ (j ≠ i ∧ l[j]? = some a) := by
  rw [getElem?_set] at found
  split at found
  · rename_i same
    split at found
    · exact .inl ⟨same.symm, (Option.some.inj found).symm⟩
    · cases found
  · rename_i other
    exact .inr ⟨fun same => other same.symm, found⟩

theorem concat_cases (found : (l ++ [b])[j]? = some a) :
    l[j]? = some a ∨ (j = l.length ∧ a = b) := by
  rcases Nat.lt_trichotomy j l.length with before | here | after
  · rw [getElem?_append_left before] at found
    exact .inl found
  · subst here
    rw [getElem?_concat_length] at found
    exact .inr ⟨rfl, (Option.some.inj found).symm⟩
  · rw [getElem?_eq_none (by simp; omega)] at found
    cases found

end Indices

structure Table (Row : Type) {Key : Type} (key : Row → Key) where
  rows : List Row
  unique : (rows.map key).Nodup

namespace Table
variable {Row Key : Type} {key : Row → Key}

def empty : Table Row key := ⟨[], nodup_nil⟩

section Rows
variable (t : Table Row key)

/-- DELETE ... WHERE drop. -/
def delete (drop : Row → Bool) : Table Row key :=
  ⟨t.rows.filter (fun r => !drop r), t.unique.sublist ((filter_sublist).map key)⟩

/-- UPDATE ... WHERE sel; the columns of the key are not written. -/
def update (sel : Row → Bool) (write : Row → Row) (sameKey : ∀ r, key (write r) = key r) :
    Table Row key :=
  ⟨t.rows.map (fun r => if sel r then write r else r), by
    rw [map_map]
    have keys : (key ∘ fun r => if sel r then write r else r) = key := by
      funext r
      simp only [Function.comp_apply]
      split
      · exact sameKey r
      · rfl
    rw [keys]
    exact t.unique⟩

@[simp] theorem empty_rows : (empty : Table Row key).rows = [] := rfl

variable {r : Row}

theorem same_key_same_row {q : Row} (hr : r ∈ t.rows) (hq : q ∈ t.rows) (same : key r = key q) :
    r = q :=
  inj_on_of_nodup_map t.unique hr hq same

@[simp] theorem mem_delete (drop : Row → Bool) (q : Row) :
    q ∈ (t.delete drop).rows ↔ q ∈ t.rows ∧ drop q = false := by
  simp [delete]

@[simp] theorem mem_update (sel : Row → Bool) (write : Row → Row)
    (sameKey : ∀ r, key (write r) = key r) (q : Row) : q ∈ (t.update sel write sameKey).rows ↔
      (q ∈ t.rows ∧ sel q = false) ∨ ∃ r ∈ t.rows, sel r = true ∧ q = write r := by
  simp only [update, mem_map]
  constructor
  · rintro ⟨r, mr, rfl⟩
    cases chosen : sel r with
    | false => exact .inl ⟨by simpa using mr, by simpa using chosen⟩
    | true => exact .inr ⟨r, mr, chosen, by simp⟩
  · rintro (⟨mq, kept⟩ | ⟨r, mr, chosen, rfl⟩)
    · exact ⟨q, mq, by simp [kept]⟩
    · exact ⟨r, mr, by simp [chosen]⟩

end Rows

variable {r : Row} [DecidableEq Key] (t : Table Row key) (k : Key)

def find : Option Row :=
  t.rows.find? (fun r => key r = k)

/-- INSERT; a row whose key is taken is refused and the table stays as it was. -/
def insert (r : Row) : Table Row key :=
  if fresh : key r ∈ t.rows.map key then t
  else ⟨t.rows ++ [r], by
    rw [map_append, map_singleton]
    exact nodup_append.mpr ⟨t.unique, by simp, by
      intro _ _ _ _ _
      exact fresh (by simp_all)⟩⟩

/-- INSERT OR REPLACE: the row with the same key goes, the new row comes last. -/
def replace (r : Row) : Table Row key :=
  (t.delete (fun q => key q = key r)).insert r

/-- INSERT ... ON CONFLICT DO UPDATE: the row with the same key is rewritten in place. -/
def upsert (r : Row) : Table Row key :=
  (t.update (fun _ => true) (fun q => if key q = key r then r else q) (by
    intro _
    split
    · rename_i same; exact same.symm
    · rfl)).insert r

@[simp] theorem find_empty : (empty : Table Row key).find k = none := rfl

theorem find_some_iff (r : Row) : t.find k = some r ↔ r ∈ t.rows ∧ key r = k := by
  constructor
  · intro found
    exact ⟨mem_of_find?_eq_some found, by simpa using find?_some found⟩
  · rintro ⟨member, rfl⟩
    cases found : t.find (key r) with
    | none =>
      have absent := find?_eq_none.mp found r member
      simp at absent
    | some q =>
      have mq : q ∈ t.rows := mem_of_find?_eq_some found
      have kq : key q = key r := by simpa using find?_some found
      rw [inj_on_of_nodup_map t.unique mq member kq]

theorem find_none_iff : t.find k = none ↔ ∀ r ∈ t.rows, key r ≠ k := by
  simp [find, find?_eq_none]

theorem mem_insert (r q : Row) (fresh : t.find (key r) = none) :
    q ∈ (t.insert r).rows ↔ q ∈ t.rows ∨ q = r := by
  have absent : key r ∉ t.rows.map key := by
    intro taken
    obtain ⟨p, mp, kp⟩ := mem_map.mp taken
    exact (find_none_iff t _).mp fresh p mp kp
  simp [insert, absent, ↓reduceDIte]

theorem insert_taken {q : Row} (taken : t.find (key r) = some q) : t.insert r = t := by
  obtain ⟨member, same⟩ := (find_some_iff t (key r) q).mp taken
  rw [insert, dif_pos (mem_map.mpr ⟨q, member, same⟩)]

theorem find_delete_key : (t.delete (fun q => key q = k)).find k = none := by
  simp [find_none_iff]

@[simp] theorem mem_replace (r q : Row) :
    q ∈ (t.replace r).rows ↔ (q ∈ t.rows ∧ key q ≠ key r) ∨ q = r := by
  rw [replace, mem_insert _ _ _ (find_delete_key t (key r)), mem_delete]
  simp

theorem replace_keeps_iff (guarded : Row → Prop) (exposed : ¬ guarded r) :
    (∀ q ∈ t.rows, guarded q → q ∈ (t.replace r).rows) ↔
      ∀ q, t.find (key r) = some q → ¬ guarded q := by
  constructor
  · intro kept q found guards
    obtain ⟨member, same⟩ := (find_some_iff t (key r) q).mp found
    rcases (mem_replace t r q).mp (kept q member guards) with ⟨_, other⟩ | rfl
    · exact other same
    · exact exposed guards
  · intro free q member guards
    refine (mem_replace t r q).mpr (.inl ⟨member, ?_⟩)
    intro same
    exact free q ((find_some_iff t (key r) q).mpr ⟨member, same⟩) guards

theorem find_update (sel : Row → Bool) (write : Row → Row) (sameKey : ∀ r, key (write r) = key r)
    (k : Key) : (t.update sel write sameKey).find k =
      (t.find k).map (fun r => if sel r then write r else r) := by
  cases found : t.find k with
  | none =>
    rw [Option.map_none, find_none_iff]
    intro q member
    have absent := (find_none_iff t k).mp found
    rcases (mem_update t sel write sameKey q).mp member with ⟨mq, _⟩ | ⟨r, mr, _, rfl⟩
    · exact absent q mq
    · rw [sameKey]; exact absent r mr
  | some r =>
    obtain ⟨mr, kr⟩ := (find_some_iff t k r).mp found
    rw [Option.map_some, find_some_iff, mem_update]
    cases chosen : sel r with
    | false => exact ⟨.inl ⟨by simpa using mr, by simpa using chosen⟩, by simpa using kr⟩
    | true => exact ⟨.inr ⟨r, mr, chosen, by simp⟩, by simp [sameKey, kr]⟩

theorem find_insert (r : Row) (fresh : t.find (key r) = none) (k : Key) :
    (t.insert r).find k = if k = key r then some r else t.find k := by
  split
  · rename_i same
    subst same
    exact (find_some_iff _ _ _).mpr ⟨(mem_insert t r r fresh).mpr (.inr rfl), rfl⟩
  · rename_i other
    cases found : t.find k with
    | none =>
      rw [find_none_iff]
      intro q member
      rcases (mem_insert t r q fresh).mp member with mq | rfl
      · exact (find_none_iff t k).mp found q mq
      · exact fun same => other same.symm
    | some q =>
      obtain ⟨mq, kq⟩ := (find_some_iff t k q).mp found
      exact (find_some_iff _ _ _).mpr ⟨(mem_insert t r q fresh).mpr (.inl mq), kq⟩

end Table

open Table

theorem mapM_some_iff {α β : Type} (read : α → Option β) (rows : List α) (values : List β) :
    rows.mapM read = some values ↔ rows.map read = values.map some := by
  induction rows generalizing values with
  | nil => cases values <;> simp
  | cons _ _ ih =>
    simp only [mapM_cons, Option.bind_eq_bind, Option.bind_eq_some_iff, Option.pure_def,
      Option.some.injEq, map_cons]
    constructor
    · rintro ⟨_, here, rest, later, rfl⟩
      rw [map_cons, here, (ih rest).mp later]
    · intro same
      cases values with
      | nil => cases same
      | cons b rest =>
        obtain ⟨here, later⟩ := List.cons.inj same
        exact ⟨b, here, rest, (ih rest).mpr later, rfl⟩

/-- A dictionary; writing an existing key keeps its position. -/
abbrev Dict (K V : Type) := Table (K × V) (Prod.fst : K × V → K)

namespace Dict
variable {K V : Type} [DecidableEq K]

def empty : Dict K V := Table.empty

variable (d : Dict K V)

def get (k : K) : Option V := (d.find k).map Prod.snd

def set (k : K) (v : V) : Dict K V :=
  (d.update (fun e => e.1 = k) (fun e => (e.1, v)) (fun _ => rfl)).insert (k, v)

def pop (k : K) : Dict K V := d.delete (fun e => e.1 = k)

def values : List V := d.rows.map Prod.snd

@[simp] theorem get_empty (k : K) : (empty : Dict K V).get k = none := rfl

theorem get_some_iff (k : K) (v : V) : d.get k = some v ↔ (k, v) ∈ d.rows := by
  rw [get, Option.map_eq_some_iff]
  constructor
  · rintro ⟨⟨_, _⟩, found, rfl⟩
    obtain ⟨member, same⟩ := (find_some_iff d k _).mp found
    exact same ▸ member
  · intro member
    exact ⟨(k, v), (find_some_iff d k _).mpr ⟨member, rfl⟩, rfl⟩

variable {d : Dict K V} {v : V}

theorem get_no_rows (empty : d.rows = []) (k : K) : d.get k = none := by
  cases found : d.get k with
  | none => rfl
  | some v =>
    have member := (get_some_iff d k v).mp found
    rw [empty] at member
    cases member

theorem mem_values (d : Dict K V) (v : V) : v ∈ d.values ↔ ∃ k, d.get k = some v := by
  simp only [values, mem_map, get_some_iff]
  constructor
  · rintro ⟨⟨k, v'⟩, member, rfl⟩; exact ⟨k, member⟩
  · rintro ⟨k, member⟩; exact ⟨(k, v), member, rfl⟩

@[simp] theorem get_pop (d : Dict K V) (k q : K) :
    (d.pop k).get q = if q = k then none else d.get q := by
  split
  · rename_i same
    subst same
    simp [get, pop, find_delete_key]
  · rename_i other
    have same : ∀ v, (d.pop k).get q = some v ↔ d.get q = some v := by
      intro _
      simp [get_some_iff, pop, other]
    cases found : d.get q with
    | none =>
      cases popped : (d.pop k).get q with
      | none => rfl
      | some v => exact absurd ((same v).mp popped) (by simp [found])
    | some v => exact (same v).mpr found

theorem of_get_pop {d : Dict K V} {k q : K} (found : (d.pop k).get q = some v) :
    q ≠ k ∧ d.get q = some v := by
  rw [get_pop] at found
  split at found
  · cases found
  · rename_i other
    exact ⟨other, found⟩

@[simp] theorem get_set (d : Dict K V) (k q : K) (v : V) :
    (d.set k v).get q = if q = k then some v else d.get q := by
  have updated : ∀ x, (d.update (fun e => e.1 = k) (fun e => (e.1, v)) (fun _ => rfl)).find x =
      (d.find x).map (fun e => if e.1 = k then (e.1, v) else e) := by
    intro _
    rw [find_update]
    simp
  cases present : d.find k with
  | none =>
    have fresh : (d.update (fun e => e.1 = k) (fun e => (e.1, v))
        (fun _ => rfl)).find (Prod.fst (k, v)) = none := by
      rw [updated, present]; rfl
    rw [get, set, find_insert _ _ fresh]
    split
    · rfl
    · rename_i other
      rw [updated, get]
      cases found : d.find q with
      | none => rfl
      | some e =>
        have ke : e.1 = q := ((find_some_iff d q e).mp found).2
        simp [ke, other]
  | some old =>
    obtain ⟨member, kold⟩ := (find_some_iff d k old).mp present
    have taken : k ∈ ((d.update (fun e => e.1 = k) (fun e => (e.1, v))
        (fun _ => rfl)).rows).map Prod.fst := by
      refine mem_map.mpr ⟨(k, v), ?_, rfl⟩
      exact (Table.mem_update _ _ _ _ _).mpr (.inr ⟨old, member, by simp [kold], by simp [kold]⟩)
    rw [get, set, Table.insert, dif_pos taken, updated]
    split
    · rename_i same
      subst same
      rw [present]
      simp [kold]
    · rename_i other
      rw [get]
      cases found : d.find q with
      | none => rfl
      | some e =>
        have ke : e.1 = q := ((find_some_iff d q e).mp found).2
        simp [ke, other]

theorem get_delete_iff (d : Dict K V) (drop : K × V → Bool) (k : K) (v : V) :
    Dict.get (d.delete drop) k = some v ↔ d.get k = some v ∧ drop (k, v) = false := by
  rw [get_some_iff, get_some_iff, mem_delete]

theorem length_pop_le (d : Dict K V) (k : K) : (d.pop k).rows.length ≤ d.rows.length :=
  length_filter_le _ _

theorem length_set_le (d : Dict K V) (k : K) (v : V) :
    (d.set k v).rows.length ≤ d.rows.length + 1 := by
  unfold set Table.insert
  split
  · simp [Table.update]
  · simp [Table.update]

theorem get_single {k : K} (one : d.rows = [(k, v)]) : d.get k = some v := by
  rw [get_some_iff, one]
  exact mem_singleton.mpr rfl

end Dict
end Peerc
