import Peerc.Lib.Bytes

/-!
Digital signatures as an opaque scheme. A malformed key or signature verifies nothing.
-/
namespace Peerc

structure SignatureScheme where
  PrivateKey : Type
  publicKey : PrivateKey → Bytes
  sign : PrivateKey → Bytes → Bytes
  verify : Bytes → Bytes → Bytes → Bool

namespace SignatureScheme

def Signed (S : SignatureScheme) (pub sig msg : Bytes) : Prop :=
  ∃ k, S.publicKey k = pub ∧ S.sign k msg = sig

def Unforgeable (S : SignatureScheme) : Prop :=
  ∀ pub sig msg, S.verify pub sig msg = true → S.Signed pub sig msg

/-- The ideal scheme on 32-byte keys: a signature is the key next to the message. -/
def ideal : SignatureScheme where
  PrivateKey := {k : Bytes // k.length = 32}
  publicKey k := k.val
  sign k msg := k.val ++ msg
  verify pub sig msg := decide (pub.length = 32) && decide (sig = pub ++ msg)

theorem ideal_signed_iff (pub sig msg : Bytes) :
    ideal.Signed pub sig msg ↔ ideal.verify pub sig msg = true := by
  simp only [ideal, Signed, Bool.and_eq_true, decide_eq_true_eq]
  constructor
  · intro signed
    obtain ⟨k, rfl, rfl⟩ := signed
    exact ⟨k.property, rfl⟩
  · intro verified
    exact ⟨⟨pub, verified.1⟩, rfl, verified.2.symm⟩

theorem ideal_unforgeable : ideal.Unforgeable := by
  intro pub sig msg verified
  exact (ideal_signed_iff pub sig msg).mpr verified

end SignatureScheme
end Peerc
