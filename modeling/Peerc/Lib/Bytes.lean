import Mathlib.Algebra.Ring.Nat
import Mathlib.Data.List.Basic
import Mathlib.Tactic.Basic

/-!
Byte strings, text as a sequence of code points, big-endian words and base64. Decoding is the
lenient decoder of the Python standard library.
-/
namespace Peerc
open List

abbrev Bytes := List UInt8
abbrev Text := List Char

/-- A literal stands for its characters. -/
instance : Coe String Text := ⟨String.toList⟩

instance Text.lawfulBEq : LawfulBEq Text := inferInstance

def utf8 (t : Text) : Bytes := t.flatMap String.utf8EncodeChar

def be32 (n : Nat) : Bytes :=
  [UInt8.ofNat (n / 16777216), UInt8.ofNat (n / 65536), UInt8.ofNat (n / 256), UInt8.ofNat n]

def bigEndian : Nat → Nat → Bytes
  | 0, _ => []
  | width + 1, n => bigEndian width (n / 256) ++ [UInt8.ofNat n]

def ofBigEndian (bs : Bytes) : Nat := bs.foldl (fun n b => n * 256 + b.toNat) 0

/-- A 32-bit length followed by the bytes it counts. -/
def sized (bs : Bytes) : Bytes := be32 bs.length ++ bs

/-- struct.pack raises on a length that does not fit. -/
def packFields : List Bytes → Option Bytes
  | [] => some []
  | f :: fs => if f.length < 2 ^ 32 then (packFields fs).map (sized f ++ ·) else none

theorem ofBigEndian_bigEndian (width n : Nat) :
    ofBigEndian (bigEndian width n) = n % 256 ^ width := by
  induction width generalizing n with
  | zero => simp [bigEndian, ofBigEndian, Nat.mod_one]
  | succ width ih =>
    have front := ih (n / 256)
    unfold ofBigEndian at front ⊢
    have split : n % 256 ^ (width + 1) = n % 256 + 256 * (n / 256 % 256 ^ width) := by
      rw [Nat.pow_succ', Nat.mod_mul]
    rw [bigEndian, foldl_append, front, foldl_cons, foldl_nil,
      UInt8.toNat_ofNat', split]
    omega

theorem length_bigEndian (width n : Nat) : (bigEndian width n).length = width := by
  induction width generalizing n with
  | zero => rfl
  | succ _ ih => rw [bigEndian, length_append, ih, length_singleton]

variable {n : Nat}

theorem bigEndian_injective {width m : Nat} (small : m < 256 ^ width) (small' : n < 256 ^ width)
    (same : bigEndian width m = bigEndian width n) : m = n := by
  have read := congrArg ofBigEndian same
  rw [ofBigEndian_bigEndian, ofBigEndian_bigEndian, Nat.mod_eq_of_lt small,
    Nat.mod_eq_of_lt small'] at read
  exact read

theorem be32_eq (n : Nat) : be32 n = bigEndian 4 n := by
  simp [be32, bigEndian, Nat.div_div_eq_div_mul]

variable {r s : Bytes}

theorem sized_cancel {a b : Bytes} (small : a.length < 2 ^ 32) (small' : b.length < 2 ^ 32)
    (same : sized a ++ r = sized b ++ s) : a = b ∧ r = s := by
  unfold sized at same
  rw [append_assoc, append_assoc] at same
  obtain ⟨head, tail⟩ := append_inj same rfl
  rw [be32_eq, be32_eq] at head
  exact append_inj tail (bigEndian_injective small small' head)

theorem pack_fields_cancel {xs ys : List Bytes} {p q : Bytes} (packed : packFields xs = some p)
    (packed' : packFields ys = some q) (arity : xs.length = ys.length) (same : p ++ r = q ++ s) :
    xs = ys ∧ r = s := by
  induction xs generalizing ys p q with
  | nil =>
    cases length_eq_zero_iff.mp arity.symm
    cases packed
    cases packed'
    exact ⟨rfl, same⟩
  | cons _ _ ih =>
    cases ys with
    | nil => cases arity
    | cons =>
      unfold packFields at packed packed'
      split at packed
      · next small =>
        split at packed'
        · next small' =>
          obtain ⟨_, rest, rfl⟩ := Option.map_eq_some_iff.mp packed
          obtain ⟨_, rest', rfl⟩ := Option.map_eq_some_iff.mp packed'
          rw [append_assoc, append_assoc] at same
          obtain ⟨rfl, later⟩ := sized_cancel small small' same
          obtain ⟨rfl, left⟩ := ih rest rest' (Nat.succ.inj arity) later
          exact ⟨rfl, left⟩
        · cases packed'
      · cases packed

theorem utf8_append (s t : Text) : utf8 (s ++ t) = utf8 s ++ utf8 t := flatMap_append

theorem utf8_char_cancel {c d : Char}
    (same : String.utf8EncodeChar c ++ r = String.utf8EncodeChar d ++ s) : c = d ∧ r = s := by
  have read := congrArg (fun bs : Bytes => bs.toByteArray.utf8DecodeChar? 0) same
  simp only [toByteArray_append, ByteArray.utf8DecodeChar?_utf8EncodeChar_append,
    Option.some.injEq] at read
  subst read
  exact ⟨rfl, append_cancel_left same⟩

theorem utf8_injective {s t : Text} (same : utf8 s = utf8 t) : s = t := by
  induction s generalizing t with
  | nil =>
    cases t with
    | nil => rfl
    | cons =>
      have empty := (append_eq_nil_iff.mp same.symm).1
      exact absurd empty String.utf8EncodeChar_ne_nil
  | cons _ _ ih =>
    cases t with
    | nil =>
      have empty := (append_eq_nil_iff.mp same).1
      exact absurd empty String.utf8EncodeChar_ne_nil
    | cons =>
      obtain ⟨rfl, rest⟩ := utf8_char_cancel same
      rw [ih rest]

namespace Base64

def symbol (n : Nat) : Char :=
  if n < 26 then Char.ofNat (n + 65)
  else if n < 52 then Char.ofNat (n + 71)
  else if n < 62 then Char.ofNat (n - 4)
  else if n = 62 then '+' else '/'

def value (c : Char) : Option Nat :=
  if 65 ≤ c.toNat ∧ c.toNat ≤ 90 then some (c.toNat - 65)
  else if 97 ≤ c.toNat ∧ c.toNat ≤ 122 then some (c.toNat - 71)
  else if 48 ≤ c.toNat ∧ c.toNat ≤ 57 then some (c.toNat + 4)
  else if c = '+' then some 62
  else if c = '/' then some 63
  else none

def encode : Bytes → Text
  | [] => []
  | [a] => [symbol (a.toNat / 4), symbol (a.toNat % 4 * 16), '=', '=']
  | [a, b] => [symbol (a.toNat / 4), symbol (a.toNat % 4 * 16 + b.toNat / 16),
      symbol (b.toNat % 16 * 4), '=']
  | a :: b :: c :: rest =>
      symbol (a.toNat / 4) :: symbol (a.toNat % 4 * 16 + b.toNat / 16) ::
      symbol (b.toNat % 16 * 4 + c.toNat / 64) :: symbol (c.toNat % 64) :: encode rest

/-- left holds the bits not yet written out, pads counts the pads since the last symbol. -/
def scan : Nat → Nat → Nat → Text → Option Bytes
  | pos, _, _, [] => if pos = 0 then some [] else none
  | pos, left, pads, c :: cs =>
      if c = '=' then
        if 2 ≤ pos then
          if 4 ≤ pos + (pads + 1) then some [] else scan pos left (pads + 1) cs
        else scan pos left pads cs
      else
        match value c with
        | none => scan pos left pads cs
        | some v =>
            if pos = 0 then scan 1 v 0 cs
            else if pos = 1 then (scan 2 (v % 16) 0 cs).map (UInt8.ofNat (left * 4 + v / 16) :: ·)
            else if pos = 2 then (scan 3 (v % 4) 0 cs).map (UInt8.ofNat (left * 16 + v / 4) :: ·)
            else (scan 0 0 0 cs).map (UInt8.ofNat (left * 64 + v) :: ·)

def decode (t : Text) : Option Bytes :=
  if t.all (fun c => c.toNat < 128) then scan 0 0 0 t else none

theorem symbol_facts : ∀ n : Fin 64,
    value (symbol n.val) = some n.val ∧ symbol n.val ≠ '=' ∧ (symbol n.val).toNat < 128 := by
  decide

section Bound
variable (bound : n < 64)
include bound

theorem value_symbol : value (symbol n) = some n :=
  (symbol_facts ⟨n, bound⟩).1

theorem symbol_ne_pad : symbol n ≠ '=' :=
  (symbol_facts ⟨n, bound⟩).2.1

theorem symbol_ascii : (symbol n).toNat < 128 :=
  (symbol_facts ⟨n, bound⟩).2.2

variable (left pads : Nat)

theorem scan_first (cs : Text) : scan 0 left pads (symbol n :: cs) = scan 1 n 0 cs := by
  rw [scan, if_neg (symbol_ne_pad bound), value_symbol bound]; rfl

theorem scan_second (cs : Text) : scan 1 left pads (symbol n :: cs) =
      (scan 2 (n % 16) 0 cs).map (UInt8.ofNat (left * 4 + n / 16) :: ·) := by
  rw [scan, if_neg (symbol_ne_pad bound), value_symbol bound]; rfl

theorem scan_third (cs : Text) : scan 2 left pads (symbol n :: cs) =
      (scan 3 (n % 4) 0 cs).map (UInt8.ofNat (left * 16 + n / 4) :: ·) := by
  rw [scan, if_neg (symbol_ne_pad bound), value_symbol bound]; rfl

theorem scan_fourth (cs : Text) : scan 3 left pads (symbol n :: cs) =
      (scan 0 0 0 cs).map (UInt8.ofNat (left * 64 + n) :: ·) := by
  rw [scan, if_neg (symbol_ne_pad bound), value_symbol bound]; rfl

end Bound

theorem byte_eq (b : UInt8) (same : n = b.toNat) : UInt8.ofNat n = b := by
  rw [same]; exact UInt8.ofNat_toNat

variable (bs : Bytes)

theorem scan_encode : scan 0 0 0 (encode bs) = some bs := by
  induction bs using encode.induct with
  | case1 => rfl
  | case2 a =>
    have ha := a.toNat_lt
    rw [encode, scan_first (by omega), scan_second (by omega), byte_eq a (by omega)]
    rfl
  | case3 a b =>
    have ha := a.toNat_lt; have hb := b.toNat_lt
    rw [encode, scan_first (by omega), scan_second (by omega), scan_third (by omega),
      byte_eq a (by omega), byte_eq b (by omega)]
    rfl
  | case4 a b c _ ih =>
    have ha := a.toNat_lt; have hb := b.toNat_lt; have hc := c.toNat_lt
    rw [encode, scan_first (by omega), scan_second (by omega), scan_third (by omega),
      scan_fourth (by omega), ih, byte_eq a (by omega), byte_eq b (by omega),
      byte_eq c (by omega)]
    rfl

theorem encode_ascii : (encode bs).all (fun c => c.toNat < 128) = true := by
  induction bs using encode.induct with
  | case1 => rfl
  | case2 a =>
    have ha := a.toNat_lt
    simp [encode, symbol_ascii (show a.toNat / 4 < 64 by omega),
      symbol_ascii (show a.toNat % 4 * 16 < 64 by omega)]
  | case3 a b =>
    have ha := a.toNat_lt; have hb := b.toNat_lt
    simp [encode, symbol_ascii (show a.toNat / 4 < 64 by omega),
      symbol_ascii (show a.toNat % 4 * 16 + b.toNat / 16 < 64 by omega),
      symbol_ascii (show b.toNat % 16 * 4 < 64 by omega)]
  | case4 a b c _ ih =>
    have ha := a.toNat_lt; have hb := b.toNat_lt; have hc := c.toNat_lt
    simp only [encode, all_cons, ih, Bool.and_true, Bool.and_eq_true, decide_eq_true_eq]
    exact ⟨symbol_ascii (by omega), symbol_ascii (by omega), symbol_ascii (by omega),
      symbol_ascii (by omega)⟩

theorem decode_encode : decode (encode bs) = some bs := by
  rw [decode, if_pos (encode_ascii bs), scan_encode]

theorem encode_length : (encode bs).length = 4 * ((bs.length + 2) / 3) := by
  induction bs using encode.induct with
  | case1 => rfl
  | case2 | case3 => simp [encode]
  | case4 _ _ _ _ ih =>
    simp only [encode, length_cons, ih]
    omega

end Base64
end Peerc
