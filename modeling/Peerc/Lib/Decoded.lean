import Mathlib.Algebra.Group.Int.Defs
import Mathlib.Data.Int.Basic
import Peerc.Lib.Json

/-!
What json.loads returns in Python. A string is a list of code points and may hold lone surrogates.
-/
namespace Peerc.Decoded

/-! ## Strings -/

abbrev Str := List (Fin 0x110000)

variable (c : Fin 0x110000)

def isSurrogate : Bool := 0xd800 ≤ c.val && c.val ≤ 0xdfff

/-- The characters str.strip removes. -/
def isSpace : Bool :=
  let n := c.val
  (9 ≤ n && n ≤ 13) || (28 ≤ n && n ≤ 32) || n = 0x85 || n = 0xa0 || n = 0x1680 ||
    (0x2000 ≤ n && n ≤ 0x200a) || n = 0x2028 || n = 0x2029 || n = 0x202f || n = 0x205f || n = 0x3000

theorem char_lt (c : Char) : c.toNat < 0x110000 := by
  rcases c.valid with low | ⟨_, high⟩
  · exact Nat.lt_trans low (by decide)
  · exact high

def codePoint (c : Char) : Fin 0x110000 := ⟨c.toNat, char_lt c⟩

def ofText (t : Text) : Str := t.map codePoint

def scalar : Option Char :=
  if isSurrogate c then none else some (Char.ofNat c.val)

/-- The text of a string without lone surrogates; none is UnicodeEncodeError. -/
def toText : Str → Option Text
  | [] => some []
  | c :: s => (scalar c).bind (fun head => (toText s).map (fun tail => head :: tail))

/-- The length of encode("utf-8", errors="replace"): a lone surrogate becomes one character. -/
def replacedSize (s : Str) : Nat :=
  (s.map (fun c =>
    if c.val < 0x80 ∨ isSurrogate c then 1
    else if c.val < 0x800 then 2
    else if c.val < 0x10000 then 3
    else 4)).sum

theorem surrogate_code_point (c : Char) : isSurrogate (codePoint c) = false := by
  simp only [isSurrogate, codePoint, Bool.and_eq_false_iff]
  rcases c.valid with low | ⟨high, _⟩
  · exact .inl (decide_eq_false (Nat.not_le.mpr low))
  · exact .inr (decide_eq_false (Nat.not_le.mpr high))

theorem scalar_code_point (c : Char) : scalar (codePoint c) = some c := by
  rw [scalar, surrogate_code_point]
  exact congrArg some (Char.ofNat_toNat c)

theorem to_text_of_text (t : Text) : toText (ofText t) = some t := by
  induction t with
  | nil => rfl
  | cons c t ih =>
    change (scalar (codePoint c)).bind
      (fun head => (toText (ofText t)).map (fun tail => head :: tail)) = some (c :: t)
    rw [scalar_code_point, ih]
    rfl

theorem to_text_none_iff (s : Str) : toText s = none ↔ ∃ c ∈ s, isSurrogate c = true := by
  induction s with
  | nil => simp [toText]
  | cons c _ ih =>
    cases lone : isSurrogate c with
    | true => simp [toText, scalar, lone]
    | false => simp [toText, scalar, lone, ih]

/-! ## Writing -/

/-- A lone surrogate is written as its own escape. -/
def escapeCode : Text :=
  match scalar c with
  | some head => Json.escapeChar head
  | none => '\\' :: 'u' :: Json.hex4 c.val

def quote (s : Str) : Text := '"' :: s.flatMap escapeCode ++ ['"']

def writeMembers : List (Text × Str) → Text
  | [] => []
  | [field] => Json.quote field.1 ++ ':' :: quote field.2
  | field :: fields => Json.quote field.1 ++ ':' :: quote field.2 ++ ',' :: writeMembers fields

/-- json.dumps of an object of strings with the compact separators. -/
def writeObject (fields : List (Text × Str)) : Text := '{' :: writeMembers fields ++ ['}']

/-! ## Values -/

/-- A float; a finite one is counted in units of 2⁻¹⁰⁷⁴, of which every double is a multiple. -/
inductive Number where
  | finite (units : Int)
  | infinity (negative : Bool)
  | nan
  deriving DecidableEq

def unit : Int := 2 ^ 1074

def Number.lt : Number → Number → Bool
  | .nan, _ => false
  | _, .nan => false
  | .finite x, .finite y => x < y
  | .finite _, .infinity negative => !negative
  | .infinity negative, .finite _ => negative
  | .infinity x, .infinity y => x && !y

inductive Value (κ : Type) where
  | null
  | bool (b : Bool)
  | int (i : Int)
  | float (x : Number)
  | str (s : Str)
  | list (items : List (Value κ))
  | dict (fields : List (κ × Value κ))

namespace Value
variable {κ β : Type}

/-- The number a value is compared as; a bool is 0 or 1. -/
def number : Value κ → Option Number
  | .bool b => some (.finite (if b then unit else 0))
  | .int i => some (.finite (i * unit))
  | .float x => some x
  | _ => none

/-- isinstance(v, int), which a bool passes. -/
def int? : Value κ → Option Int
  | .bool b => some (if b then 1 else 0)
  | .int i => some i
  | _ => none

def str? : Value κ → Option Str
  | .str s => some s
  | _ => none

def isBool : Value κ → Bool
  | .bool _ => true
  | _ => false

def isDict : Value κ → Bool
  | .dict _ => true
  | _ => false

def truthy : Value κ → Bool
  | .null => false
  | .bool b => b
  | .int i => i ≠ 0
  | .float x => x ≠ .finite 0
  | .str s => s ≠ []
  | .list items => !items.isEmpty
  | .dict fields => !fields.isEmpty

def equalsNat (v : Value κ) (n : Nat) : Bool := v.number = some (.finite (n * unit))

end Value

end Peerc.Decoded
