import Peerc.Lib.Signature

/-!
What peerc takes from outside: Ed25519, SHA-256 hex digests and the eight-byte encoding of a
float. Timestamps are integers on a fixed tick; only order and differences are used.
-/
namespace Peerc

abbrev Time := Int

structure Primitives where
  ed25519 : SignatureScheme
  sha256 : Bytes → Text
  packDouble : Time → Bytes

def Primitives.verifyB64 (env : Primitives) (pub sig : Text) (msg : Bytes) : Bool :=
  match Base64.decode pub, Base64.decode sig with
  | some key, some raw => env.ed25519.verify key raw msg
  | _, _ => false

/-- A digest of the right shape that tells inputs of 32 bytes apart. -/
def hexHead (data : Bytes) : Text :=
  ((data ++ List.replicate 32 0).take 32).flatMap (fun b : UInt8 =>
    [Nat.digitChar (b.toNat / 16), Nat.digitChar (b.toNat % 16)])

/-- The double of an integer below 2 ^ 53: sign, exponent and fraction. -/
def doubleBits (t : Time) : Nat :=
  if t = 0 then 0
  else (if t < 0 then 2 ^ 63 else 0) + (t.natAbs.log2 + 1022) * 2 ^ 52 +
    t.natAbs * 2 ^ (52 - t.natAbs.log2)

def Primitives.sample : Primitives where
  ed25519 := SignatureScheme.ideal
  sha256 := hexHead
  packDouble t := bigEndian 8 (doubleBits t)

end Peerc
