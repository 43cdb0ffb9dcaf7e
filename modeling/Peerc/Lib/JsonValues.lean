import Mathlib.Logic.Function.Basic
import Peerc.Lib.JsonStrings

/-!
JSON texts determine what they were written from, as far as its numbers do.
-/
namespace Peerc.Json
open List

variable (c : Char) {r s : Text}

inductive Value.Within (digits : Set Text) : Value → Prop
  | null : Within digits .null
  | bool (b : Bool) : Within digits (.bool b)
  | number {d : Text} (known : d ∈ digits) : Within digits (.number d)
  | string (t : Text) : Within digits (.string t)
  | array {items : List Value} (each : ∀ v ∈ items, Within digits v) : Within digits (.array items)
  | object {fields : List (Text × Value)} (each : ∀ f ∈ fields, Within digits f.2) :
      Within digits (.object fields)

def ends : Bool := c = ',' || c = ']' || c = '}'

def NumberText (d : Text) : Prop :=
  (∃ c rest, d = c :: rest ∧ c ∉ ['n', 't', 'f', '"', '[', '{']) ∧ ∀ c ∈ d, ends c = false

def Ended (t : Text) : Prop := ∀ c ∈ t.head?, ends c = true

theorem number_cancel {d d' r s : Text} (number : ∀ c ∈ d, ends c = false)
    (number' : ∀ c ∈ d', ends c = false) (ended : Ended r) (ended' : Ended s)
    (same : d ++ r = d' ++ s) : d = d' ∧ r = s := by
  induction d generalizing d' with
  | nil =>
    cases d' with
    | nil => exact ⟨rfl, same⟩
    | cons c =>
      have open' := number' c mem_cons_self
      rw [nil_append] at same
      rw [ended c (by rw [same]; rfl)] at open'
      cases open'
  | cons c _ ih =>
    cases d' with
    | nil =>
      have opened := number c mem_cons_self
      rw [nil_append] at same
      rw [ended' c (by rw [← same]; rfl)] at opened
      cases opened
    | cons =>
      obtain ⟨rfl, tails⟩ := List.cons.inj same
      obtain ⟨rfl, rest⟩ := ih (fun c inside => number c (mem_cons_of_mem _ inside))
        (fun c inside => number' c (mem_cons_of_mem _ inside)) tails
      exact ⟨rfl, rest⟩

def opener : Nat :=
  if c = 'n' then 0 else if c = 't' ∨ c = 'f' then 1 else if c = '"' then 2
  else if c = '[' then 3 else if c = '{' then 4 else 5

def Value.opener : Value → Nat
  | .null => 0
  | .bool _ => 1
  | .string _ => 2
  | .array _ => 3
  | .object _ => 4
  | .number _ => 5

def writeField (f : Text × Value) : Text := quote f.1 ++ ':' :: f.2.write

def parts {α : Type} (write : α → Text) : List α → Text
  | [] => []
  | x :: xs => write x ++ xs.flatMap (fun y => ',' :: write y)

theorem write_items_parts (items : List Value) : writeItems items = parts Value.write items := by
  induction items with
  | nil => rfl
  | cons _ items ih => cases items <;> simp_all [writeItems, parts]

theorem write_fields_parts (fields : List (Text × Value)) :
    writeFields fields = parts writeField fields := by
  induction fields with
  | nil => rfl
  | cons _ fields ih => cases fields <;> simp_all [writeFields, parts, writeField]

theorem field_opened (f : Text × Value) : ∃ c rest, writeField f = c :: rest ∧ ends c = false :=
  ⟨'"', _, rfl, rfl⟩

theorem member_opened (f : Text × Text) : ∃ c rest, member f = c :: rest ∧ ends c = false :=
  ⟨'"', _, rfl, rfl⟩

section Parts
variable {α : Type} {write : α → Text} {close : Char} {xs ys : List α} {r s : Text}

variable (closes : ends close = true)
include closes

theorem ended_parts : Ended (xs.flatMap (fun x => ',' :: write x) ++ close :: r) := by
  cases xs with
  | nil =>
    rintro _ ⟨⟩
    exact closes
  | cons =>
    rintro _ ⟨⟩
    rfl

theorem later_parts_cancel (noComma : ',' ≠ close)
    (each : ∀ x ∈ xs, ∀ y ∈ ys, ∀ r s, Ended r → Ended s → write x ++ r = write y ++ s →
      x = y ∧ r = s)
    (same : xs.flatMap (fun x => ',' :: write x) ++ close :: r =
      ys.flatMap (fun y => ',' :: write y) ++ close :: s) : xs = ys ∧ r = s := by
  induction xs generalizing ys with
  | nil =>
    cases ys with
    | nil => exact ⟨rfl, tail_eq_of_cons_eq same⟩
    | cons => exact absurd (head_eq_of_cons_eq same).symm noComma
  | cons x _ ih =>
    cases ys with
    | nil => exact absurd (head_eq_of_cons_eq same) noComma
    | cons y =>
      rw [flatMap_cons, flatMap_cons, cons_append, cons_append,
        cons_append, cons_append, append_assoc, append_assoc] at same
      obtain ⟨rfl, tails⟩ := each x mem_cons_self y mem_cons_self _ _ (ended_parts closes)
        (ended_parts closes) (tail_eq_of_cons_eq same)
      obtain ⟨rfl, rest⟩ := ih (fun a inA b inB => each a (mem_cons_of_mem _ inA) b
        (mem_cons_of_mem _ inB)) tails
      exact ⟨rfl, rest⟩

theorem parts_cancel (noComma : ',' ≠ close)
    (opened : ∀ x, x ∈ xs ∨ x ∈ ys → ∃ c rest, write x = c :: rest ∧ ends c = false)
    (each : ∀ x ∈ xs, ∀ y ∈ ys, ∀ r s, Ended r → Ended s → write x ++ r = write y ++ s →
      x = y ∧ r = s)
    (same : parts write xs ++ close :: r = parts write ys ++ close :: s) : xs = ys ∧ r = s := by
  have started {z : α} (member : z ∈ xs ∨ z ∈ ys) (u t : Text) : close :: t ≠ write z ++ u := by
    obtain ⟨_, _, begins, inner⟩ := opened z member
    intro clash
    rw [begins] at clash
    rw [← head_eq_of_cons_eq clash, closes] at inner
    cases inner
  cases xs with
  | nil =>
    cases ys with
    | nil => exact ⟨rfl, tail_eq_of_cons_eq same⟩
    | cons =>
      rw [parts, parts, append_assoc] at same
      exact absurd same (started (.inr mem_cons_self) _ _)
  | cons x =>
    cases ys with
    | nil =>
      rw [parts, parts, append_assoc] at same
      exact absurd same.symm (started (.inl mem_cons_self) _ _)
    | cons y =>
      rw [parts, parts, append_assoc, append_assoc] at same
      obtain ⟨rfl, tails⟩ := each x mem_cons_self y mem_cons_self _ _ (ended_parts closes)
        (ended_parts closes) same
      obtain ⟨rfl, rest⟩ := later_parts_cancel closes noComma (fun a inA b inB =>
        each a (mem_cons_of_mem _ inA) b (mem_cons_of_mem _ inB)) tails
      exact ⟨rfl, rest⟩

end Parts

theorem members_parts (fs : List (Text × Text)) : members fs = parts member fs := by
  induction fs with
  | nil => rfl
  | cons _ fs ih => cases fs <;> simp_all [members, parts]

theorem object_cancel {fs gs : List (Text × Text)} (same : object fs = object gs) : fs = gs := by
  have inside := tail_eq_of_cons_eq same
  rw [members_parts, members_parts] at inside
  refine (parts_cancel rfl (by decide) (fun f _ => member_opened f) ?_ inside).1
  intro _ _ _ _ _ _ _ _ same
  rw [member, member, append_assoc, append_assoc] at same
  obtain ⟨keys, rest⟩ := Decoded.quote_cancel same
  obtain ⟨values, tails⟩ := Decoded.quote_cancel (tail_eq_of_cons_eq rest)
  exact ⟨Prod.ext keys values, tails⟩

variable {digits : Set Text} (numbers : ∀ d ∈ digits, NumberText d) {v w : Value}
include numbers

theorem write_opened {v : Value} (within : v.Within digits) :
    ∃ c rest, v.write = c :: rest ∧ ends c = false ∧ opener c = v.opener := by
  cases within with
  | null => exact ⟨'n', _, rfl, rfl, rfl⟩
  | bool b => cases b <;> exact ⟨_, _, rfl, rfl, rfl⟩
  | number known =>
    obtain ⟨⟨c, rest, rfl, _⟩, inner⟩ := numbers _ known
    exact ⟨c, rest, rfl, inner c mem_cons_self, by simp_all [opener, Value.opener]⟩
  | string => exact ⟨'"', _, rfl, rfl, rfl⟩
  | array => exact ⟨'[', _, rfl, rfl, rfl⟩
  | object => exact ⟨'{', _, rfl, rfl, rfl⟩

theorem opener_same (within : v.Within digits) (within' : w.Within digits)
    (same : v.write ++ r = w.write ++ s) : v.opener = w.opener := by
  obtain ⟨_, _, begins, _, kind⟩ := write_opened numbers within
  obtain ⟨_, _, begins', _, kind'⟩ := write_opened numbers within'
  rw [begins, begins'] at same
  rw [← kind, ← kind', head_eq_of_cons_eq same]

theorem write_cancel (within : v.Within digits) (within' : w.Within digits) (ended : Ended r)
    (ended' : Ended s) (same : v.write ++ r = w.write ++ s) : v = w ∧ r = s := by
  have kinds := opener_same numbers within within' same
  -- the first character leaves only values of the same constructor to compare
  induction within generalizing w r s with
  | null =>
    cases within' <;> simp [Value.opener] at kinds
    exact ⟨rfl, append_cancel_left same⟩
  | bool b =>
    cases within' <;> simp [Value.opener] at kinds
    rename_i b'
    cases b <;> cases b' <;> simp_all [Value.write]
  | number known =>
    cases within' <;> simp [Value.opener] at kinds
    rename_i known'
    obtain ⟨rfl, rest⟩ := number_cancel (numbers _ known).2 (numbers _ known').2 ended ended' same
    exact ⟨rfl, rest⟩
  | string =>
    cases within' <;> simp [Value.opener] at kinds
    obtain ⟨rfl, rest⟩ := Decoded.quote_cancel same
    exact ⟨rfl, rest⟩
  | array each ih =>
    cases within' <;> simp [Value.opener] at kinds
    rename_i each'
    simp only [Value.write, write_items_parts, cons_append, append_assoc,
      nil_append] at same
    obtain ⟨rfl, rest⟩ := parts_cancel rfl (by decide) (fun v member => by
        obtain ⟨c, rest, begins, inner, _⟩ :=
          write_opened numbers (member.elim (each v) (each' v))
        exact ⟨c, rest, begins, inner⟩)
      (fun v inV w inW r s ended ended' same => ih v inV (each' w inW) ended ended' same
        (opener_same numbers (each v inV) (each' w inW) same)) (tail_eq_of_cons_eq same)
    exact ⟨rfl, rest⟩
  | object each ih =>
    cases within' <;> simp [Value.opener] at kinds
    rename_i each'
    simp only [Value.write, write_fields_parts, cons_append, append_assoc,
      nil_append] at same
    obtain ⟨rfl, rest⟩ := parts_cancel rfl (by decide) (fun f _ => field_opened f)
      (fun f inF g inG r s ended ended' same => by
        rw [writeField, writeField, append_assoc, append_assoc] at same
        obtain ⟨keys, values⟩ := Decoded.quote_cancel same
        have inner := tail_eq_of_cons_eq values
        obtain ⟨value, rest⟩ := ih f inF (each' g inG) ended ended' inner
          (opener_same numbers (each f inF) (each' g inG) inner)
        exact ⟨Prod.ext keys value, rest⟩) (tail_eq_of_cons_eq same)
    exact ⟨rfl, rest⟩

theorem write_injective (within : v.Within digits) (within' : w.Within digits)
    (same : v.write = w.write) : v = w :=
  (write_cancel numbers within within' (by simp [Ended]) (by simp [Ended])
    (congrArg (· ++ []) same)).1

structure Library where
  dumps : Value → Text
  loads : Text → Option Value

/-- A value whose numbers have texts of a given kind is written and read back as it was. -/
structure Library.Exact (json : Library) (digits : Set Text) : Prop where
  written : ∀ v, v.Within digits → json.dumps v ≠ []
  read : ∀ v, v.Within digits → json.loads (json.dumps v) = some v

noncomputable def compact (digits : Set Text) : Library where
  dumps := Value.write
  loads t := (Function.partialInv (fun v : {v : Value // v.Within digits} => v.val.write) t).map
    Subtype.val

theorem compact_exact : (compact digits).Exact digits where
  written v within := by
    obtain ⟨_, _, begins, _⟩ := write_opened numbers within
    simp [compact, begins]
  read v within := by
    have injective : Function.Injective fun v : {v : Value // v.Within digits} => v.val.write :=
      fun v w same => Subtype.ext (write_injective numbers v.property w.property same)
    exact congrArg (Option.map Subtype.val) (Function.partialInv_left injective ⟨v, within⟩)

end Peerc.Json
