import Peerc.Trust.Rows
import Peerc.Lib.Runs

/-!
What the trust store only ever adds to.
-/
namespace Peerc.Trust
open Runs

def Extends (s t : TrustStore) : Prop :=
  ∀ id row, s.get id = some row →
    ∃ row', t.get id = some row' ∧ row'.publicKey = row.publicKey ∧
      (row.status = .revoked → row'.status = .revoked)

theorem Extends.refl (s : TrustStore) : Extends s s :=
  fun _ row found => ⟨row, found, rfl, id⟩

theorem Extends.trans {s t u : TrustStore} (first : Extends s t) (second : Extends t u) :
    Extends s u := by
  intro id row found
  obtain ⟨mid, foundMid, keyMid, staysMid⟩ := first id row found
  obtain ⟨last, foundLast, keyLast, staysLast⟩ := second id mid foundMid
  exact ⟨last, foundLast, keyLast.trans keyMid, fun revoked => staysLast (staysMid revoked)⟩

theorem step_extends (env : Primitives) (s : TrustStore) (op : TrustOp) :
    Extends s (step env s op) := by
  intro id row before
  have change := row_step env s op id
  generalize (step env s op).get id = after at change ⊢
  cases change with
  | same => exact ⟨row, before, rfl, fun revoked => revoked⟩
  | seen absent | carried _ _ _ _ absent =>
    rw [absent] at before
    cases before
  | touched found =>
    cases found.symm.trans before
    exact ⟨_, rfl, rfl, fun revoked => revoked⟩
  | approved found live =>
    cases found.symm.trans before
    exact ⟨_, rfl, rfl, fun revoked => absurd revoked live⟩
  | revoked found =>
    cases found.symm.trans before
    exact ⟨_, rfl, rfl, fun _ => rfl⟩
  | promoted _ _ _ _ found pending =>
    cases found.symm.trans before
    refine ⟨_, rfl, rfl, fun revoked => ?_⟩
    rw [pending] at revoked
    cases revoked

/-- Whatever operations follow, every device row stays with its key, and stays revoked
    once it is. -/
theorem rows_never_lost (env : Primitives) (s : TrustStore) (ops : List TrustOp) :
    Extends s (run (step env) s ops) := by
  induction ops generalizing s with
  | nil => exact Extends.refl s
  | cons op _ ih => exact (step_extends env s op).trans (ih (step env s op))

theorem revoked_by_revocation {env : Primitives} {s : TrustStore} {op : TrustOp} {id : Text}
    {row row' : TrustedDevice} (before : s.get id = some row) (live : row.status ≠ .revoked)
    (after : (step env s op).get id = some row') (revoked : row'.status = .revoked) :
    ∃ revokedBy reason now, op = .revoke id revokedBy reason now := by
  have change := row_step env s op id
  rw [after] at change
  generalize written : some row' = now at change
  cases change with
  | same =>
    cases written.trans before
    exact absurd revoked live
  | seen | approved | carried | promoted =>
    cases written
    cases revoked
  | touched found =>
    cases written
    cases found.symm.trans before
    exact absurd revoked live
  | revoked => exact ⟨_, _, _, rfl⟩

end Peerc.Trust
