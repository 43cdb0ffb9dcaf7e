import Mathlib.Data.Char
import Mathlib.Data.List.Lex
import Mathlib.Data.List.Sort
import Peerc.Lib.Hex

/-!
JSON texts as json.dumps writes them with ensure_ascii and the compact separators.
-/
namespace Peerc.Json
open List

def hex4 (n : Nat) : Text :=
  [Nat.digitChar (n / 4096), Nat.digitChar (n / 256 % 16), Nat.digitChar (n / 16 % 16),
    Nat.digitChar (n % 16)]

/-- The code points with a short escape, and the letter after the backslash. -/
def shortEscapes : List (Nat × Char) :=
  [(34, '"'), (92, '\\'), (10, 'n'), (13, 'r'), (9, 't'), (12, 'f'), (8, 'b')]

def shortEscape (c : Char) : Option Char :=
  (shortEscapes.find? (fun e => e.1 = c.toNat)).map Prod.snd

def escapeChar (c : Char) : Text :=
  match shortEscape c with
  | some letter => ['\\', letter]
  | none =>
      if 32 ≤ c.toNat ∧ c.toNat ≤ 126 then [c]
      else if c.toNat < 65536 then '\\' :: 'u' :: hex4 c.toNat
      -- beyond the basic plane a character is a surrogate pair
      else '\\' :: 'u' :: hex4 (55296 + (c.toNat - 65536) / 1024) ++
        '\\' :: 'u' :: hex4 (56320 + (c.toNat - 65536) % 1024)

def quote (t : Text) : Text := '"' :: t.flatMap escapeChar ++ ['"']

def member (field : Text × Text) : Text := quote field.1 ++ ':' :: quote field.2

def members : List (Text × Text) → Text
  | [] => []
  | [field] => member field
  | field :: fields => member field ++ ',' :: members fields

def object (fields : List (Text × Text)) : Text := '{' :: members fields ++ ['}']

/-- A JSON value; a number is the text it is written as. -/
inductive Value where
  | null
  | bool (b : Bool)
  | number (digits : Text)
  | string (t : Text)
  | array (items : List Value)
  | object (fields : List (Text × Value))

def Value.sorted (fields : List (Text × Value)) : Value :=
  .object (fields.insertionSort (fun a b => a.1 ≤ b.1))

mutual

def Value.write : Value → Text
  | .null => "null"
  | .bool b => if b then "true" else "false"
  | .number digits => digits
  | .string t => quote t
  | .array items => '[' :: writeItems items ++ [']']
  | .object fields => '{' :: writeFields fields ++ ['}']

def writeItems : List Value → Text
  | [] => []
  | [item] => item.write
  | item :: items => item.write ++ ',' :: writeItems items

def writeFields : List (Text × Value) → Text
  | [] => []
  | [(key, value)] => quote key ++ ':' :: value.write
  | (key, value) :: fields => quote key ++ ':' :: value.write ++ ',' :: writeFields fields

end

def shortChar (letter : Char) : Option Char :=
  (shortEscapes.find? (fun e => e.2 = letter)).map (fun e => Char.ofNat e.1)

def readHex4 : Text → Option (Nat × Text)
  | a :: b :: c :: d :: rest =>
      match Hex.value a, Hex.value b, Hex.value c, Hex.value d with
      | some x, some y, some z, some w => some (((x * 16 + y) * 16 + z) * 16 + w, rest)
      | _, _, _, _ => none
  | _ => none

theorem short_escape_facts : ∀ e ∈ shortEscapes, e.2 ≠ 'u' ∧
    shortChar e.2 = some (Char.ofNat e.1) ∧ 32 ≤ e.2.toNat ∧ e.2.toNat ≤ 126 := by
  decide

theorem short_escape_read {c letter : Char} (short : shortEscape c = some letter) :
    letter ≠ 'u' ∧ shortChar letter = some c ∧ 32 ≤ letter.toNat ∧ letter.toNat ≤ 126 := by
  obtain ⟨e, found, rfl⟩ := Option.map_eq_some_iff.mp short
  obtain ⟨notU, back, ascii⟩ := short_escape_facts e (mem_of_find?_eq_some found)
  have code : e.1 = c.toNat := by simpa using find?_some found
  rw [code, Char.ofNat_toNat] at back
  exact ⟨notU, back, ascii⟩

theorem read_hex4 {n : Nat} (bound : n < 65536) (rest : Text) :
    readHex4 (hex4 n ++ rest) = some (n, rest) := by
  simp only [hex4, cons_append, nil_append, readHex4,
    Hex.value_digit (show n / 4096 < 16 by omega),
      Hex.value_digit (show n / 256 % 16 < 16 by omega),
    Hex.value_digit (show n / 16 % 16 < 16 by omega), Hex.value_digit (show n % 16 < 16 by omega)]
  congr 2
  omega

variable (c : Char)

theorem char_code : c.toNat < 55296 ∨ 57343 < c.toNat ∧ c.toNat < 1114112 := by
  have valid := c.valid
  simp only [UInt32.isValidChar, Nat.isValidChar] at valid
  exact valid

def Printable (t : Text) : Prop := ∀ c ∈ t, 32 ≤ c.toNat ∧ c.toNat ≤ 126

instance (t : Text) : Decidable (Printable t) := List.decidableBAll _ t

theorem Printable.append {s t : Text} (first : Printable s) (second : Printable t) :
    Printable (s ++ t) := by
  intro c member
  rcases mem_append.mp member with inFirst | inSecond
  · exact first c inFirst
  · exact second c inSecond

theorem Printable.cons {c : Char} {t : Text} (head : 32 ≤ c.toNat ∧ c.toNat ≤ 126)
    (tail : Printable t) : Printable (c :: t) := by
  intro d member
  rcases mem_cons.mp member with rfl | rest
  · exact head
  · exact tail d rest

theorem printable_digit : ∀ n : Fin 16,
    32 ≤ (Nat.digitChar n.val).toNat ∧ (Nat.digitChar n.val).toNat ≤ 126 := by
  decide

theorem hex4_printable {n : Nat} (bound : n < 65536) : Printable (hex4 n) := by
  intro _ member
  simp only [hex4, mem_cons, not_mem_nil, or_false] at member
  rcases member with rfl | rfl | rfl | rfl
  · exact printable_digit ⟨n / 4096, by omega⟩
  · exact printable_digit ⟨n / 256 % 16, by omega⟩
  · exact printable_digit ⟨n / 16 % 16, by omega⟩
  · exact printable_digit ⟨n % 16, by omega⟩

theorem unicode_printable {n : Nat} (bound : n < 65536) : Printable ('\\' :: 'u' :: hex4 n) :=
  Printable.cons (by decide) (Printable.cons (by decide) (hex4_printable bound))

theorem escape_printable : Printable (escapeChar c) := by
  unfold escapeChar
  split
  · rename_i short
    obtain ⟨_, _, ascii⟩ := short_escape_read short
    exact Printable.cons (by decide) (Printable.cons ascii (by simp [Printable]))
  · split
    · rename_i ascii
      exact Printable.cons ascii (by simp [Printable])
    · have codes := char_code c
      split
      · rename_i basic
        exact unicode_printable basic
      · exact (unicode_printable (by omega)).append (unicode_printable (by omega))

theorem quote_printable (t : Text) : Printable (quote t) := by
  have body : Printable (t.flatMap escapeChar) := by
    intro c member
    obtain ⟨d, _, inside⟩ := mem_flatMap.mp member
    exact escape_printable d c inside
  exact Printable.cons (by decide) (body.append (Printable.cons (by decide) (by simp [Printable])))

theorem member_printable (field : Text × Text) : Printable (member field) :=
  (quote_printable field.1).append (Printable.cons (by decide) (quote_printable field.2))

theorem members_printable (fs : List (Text × Text)) : Printable (members fs) := by
  induction fs using members.induct with
  | case1 => simp [members, Printable]
  | case2 f => exact member_printable f
  | case3 f _ more ih =>
    rw [members]
    · exact (member_printable f).append (Printable.cons (by decide) ih)
    · exact more

theorem object_printable (fs : List (Text × Text)) : Printable (object fs) :=
  Printable.cons (by decide)
    ((members_printable fs).append (Printable.cons (by decide) (by simp [Printable])))

end Peerc.Json
