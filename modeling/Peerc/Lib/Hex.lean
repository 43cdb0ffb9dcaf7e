import Peerc.Lib.Bytes

/-!
Hexadecimal text. Writing gives lower-case digits; reading is bytes.fromhex of Python, which
takes digits of either case and skips blanks between bytes.
-/
namespace Peerc.Hex
open List

def encode (bs : Bytes) : Text :=
  bs.flatMap (fun b : UInt8 => [Nat.digitChar (b.toNat / 16), Nat.digitChar (b.toNat % 16)])

def value (c : Char) : Option Nat :=
  if 48 ≤ c.toNat ∧ c.toNat ≤ 57 then some (c.toNat - 48)
  else if 97 ≤ c.toNat ∧ c.toNat ≤ 102 then some (c.toNat - 87)
  else if 65 ≤ c.toNat ∧ c.toNat ≤ 70 then some (c.toNat - 55)
  else none

def isBlank (c : Char) : Bool := c.toNat = 32 || (9 ≤ c.toNat && c.toNat ≤ 13)

def decode : Text → Option Bytes
  | [] => some []
  | c :: rest =>
      if isBlank c then decode rest
      else
        match rest with
        | [] => none
        | d :: rest =>
            match value c, value d with
            | some high, some low => (decode rest).map (UInt8.ofNat (16 * high + low) :: ·)
            | _, _ => none

theorem digit_facts : ∀ n : Fin 16, value (Nat.digitChar n.val) = some n.val ∧
    isBlank (Nat.digitChar n.val) = false ∧ (Nat.digitChar n.val).toNat < 128 ∧
    Nat.digitChar n.val ≠ '\n' := by
  decide

theorem value_digit {n : Nat} (bound : n < 16) : value (Nat.digitChar n) = some n :=
  (digit_facts ⟨n, bound⟩).1

theorem encode_cons (b : UInt8) (bs : Bytes) : encode (b :: bs) =
    Nat.digitChar (b.toNat / 16) :: Nat.digitChar (b.toNat % 16) :: encode bs := rfl

theorem encode_length (bs : Bytes) : (encode bs).length = 2 * bs.length := by
  induction bs with
  | nil => rfl
  | cons _ _ ih =>
    rw [encode_cons, length_cons, length_cons, length_cons, ih]
    omega

theorem decode_encode (bs : Bytes) : decode (encode bs) = some bs := by
  induction bs with
  | nil => rfl
  | cons b _ ih =>
    have bound := b.toNat_lt
    have whole : 16 * (b.toNat / 16) + b.toNat % 16 = b.toNat := by omega
    rw [encode_cons, decode, if_neg (by simp [(digit_facts ⟨b.toNat / 16, by omega⟩).2.1]),
      value_digit (show b.toNat / 16 < 16 by omega), value_digit (show b.toNat % 16 < 16 by omega)]
    dsimp only
    rw [ih, whole, UInt8.ofNat_toNat, Option.map_some]

theorem value_ascii {c : Char} {n : Nat} (digit : value c = some n) : c.toNat < 128 := by
  unfold value at digit
  split at digit
  · omega
  · split at digit
    · omega
    · split at digit
      · omega
      · cases digit

theorem ascii_of_decode {t : Text} {bs : Bytes} (decoded : decode t = some bs) :
    ∀ c ∈ t, c.toNat < 128 := by
  fun_induction decode t generalizing bs with
  | case1 => simp
  | case2 c rest blank ih =>
    have low : c.toNat < 128 := by
      simp only [isBlank, Bool.or_eq_true, Bool.and_eq_true, decide_eq_true_eq] at blank
      omega
    intro x member
    rcases mem_cons.mp member with rfl | inside
    · exact low
    · exact ih decoded x inside
  | case3 | case5 => cases decoded
  | case4 c blank d rest high low lowDigit highDigit ih =>
    obtain ⟨_, found, _⟩ := Option.map_eq_some_iff.mp decoded
    intro x member
    rcases mem_cons.mp member with rfl | inside
    · exact value_ascii highDigit
    · rcases mem_cons.mp inside with rfl | inside
      · exact value_ascii lowDigit
      · exact ih found x inside

theorem encode_injective {bs cs : Bytes} (same : encode bs = encode cs) : bs = cs := by
  have read := decode_encode bs
  rw [same, decode_encode] at read
  exact (Option.some.inj read).symm

end Peerc.Hex
