import Mathlib.Data.List.Nodup
import Peerc.Lib.Bytes

/-!
Authenticated encryption with associated data, and the record a sender keeps of what it
encrypted.
-/
namespace Peerc
open List

structure Aead where
  encrypt : (key nonce plaintext ad : Bytes) → Option Bytes
  decrypt : (key nonce ciphertext ad : Bytes) → Option Bytes

structure Encryption where
  key : Bytes
  nonce : Bytes
  plaintext : Bytes
  ad : Bytes
  deriving DecidableEq

namespace Aead

/-- The ciphertext spells out the key, the nonce and the associated data it was made with. -/
def labelled : Aead where
  encrypt key nonce plaintext ad := some (sized key ++ sized nonce ++ sized ad ++ plaintext)
  decrypt key nonce ciphertext ad :=
    let label := sized key ++ sized nonce ++ sized ad
    if label <+: ciphertext then some (ciphertext.drop label.length) else none

def Opens (A : Aead) : Prop :=
  ∀ key nonce plaintext ad ciphertext,
    A.encrypt key nonce plaintext ad = some ciphertext →
      A.decrypt key nonce ciphertext ad = some plaintext

theorem labelled_opens : labelled.Opens := by
  intro _ _ _ _ _ encrypted
  obtain rfl := Option.some.inj encrypted
  simp [labelled]

theorem labelled_commits {key key' nonce plaintext plaintext' ad ciphertext : Bytes}
    (small : key.length < 2 ^ 32) (small' : key'.length < 2 ^ 32)
    (encrypted : labelled.encrypt key nonce plaintext ad = some ciphertext)
    (opened : labelled.decrypt key' nonce ciphertext ad = some plaintext') : key' = key := by
  obtain rfl := Option.some.inj encrypted
  simp only [labelled] at opened
  split at opened
  · rename_i front
    obtain ⟨_, same⟩ := front
    simp only [append_assoc] at same
    exact (sized_cancel small' small same).1
  · cases opened

end Aead

structure Numbered (nonce : Nat → Bytes) (key : Bytes) (log : List Encryption) : Prop where
  keyed : ∀ e ∈ log, e.key = key
  nonces : log.map Encryption.nonce = (List.range log.length).map nonce

def DistinctBelow (nonce : Nat → Bytes) (limit : Nat) : Prop :=
  ∀ i < limit, ∀ j < limit, nonce i = nonce j → i = j

variable {nonce : Nat → Bytes} {key : Bytes} {log : List Encryption} {limit : Nat}

theorem numbered_nil (nonce : Nat → Bytes) (key : Bytes) : Numbered nonce key [] :=
  ⟨by simp, rfl⟩

theorem numbered_concat (numbered : Numbered nonce key log) (plaintext ad : Bytes) :
    Numbered nonce key (log ++ [⟨key, nonce log.length, plaintext, ad⟩]) := by
  constructor
  · intro e member
    rcases mem_append.mp member with old | new
    · exact numbered.keyed e old
    · rw [mem_singleton.mp new]
  · simp [numbered.nonces, range_succ]

theorem numbered_at (numbered : Numbered nonce key log) {i : Nat} {e : Encryption}
    (found : log[i]? = some e) : e.nonce = nonce i := by
  obtain ⟨bound, _⟩ := List.getElem?_eq_some_iff.mp found
  have here := congrArg (·[i]?) numbered.nonces
  simpa [found, List.getElem?_range bound] using here

theorem numbered_index (distinct : DistinctBelow nonce limit) (numbered : Numbered nonce key log)
    (short : log.length ≤ limit) {n : Nat} (bound : n < limit) {e : Encryption}
    (member : e ∈ log) (same : e.nonce = nonce n) : log[n]? = some e := by
  obtain ⟨i, found⟩ := List.mem_iff_getElem?.mp member
  obtain ⟨_, _⟩ := List.getElem?_eq_some_iff.mp found
  have position : i = n :=
    distinct i (by omega) n bound ((numbered_at numbered found).symm.trans same)
  rw [← position, found]

theorem numbered_nodup (distinct : DistinctBelow nonce limit) (numbered : Numbered nonce key log)
    (short : log.length ≤ limit) : (log.map Encryption.nonce).Nodup := by
  rw [numbered.nonces]
  apply List.Nodup.map_on _ nodup_range
  intro i first j second same
  rw [mem_range] at first second
  exact distinct i (by omega) j (by omega) same

end Peerc
