import Peerc.Trust.Monotone
import Peerc.Trust.Chain

/-!
Rotation components over time. An operation joins components only by recording a transition and
taints one only by revoking a device in it.
-/
namespace Peerc.Trust
open Runs TrustStore

variable (s : TrustStore)

instance Revoked.decidable (id : Text) : Decidable (Revoked s id) :=
  decidable_of_iff (∃ row ∈ s.get id, row.status = .revoked) (by simp [Revoked])

instance TrustedWithKey.decidable (id key : Text) : Decidable (TrustedWithKey s id key) :=
  decidable_of_iff (∃ row ∈ s.get id, row.status = .trusted ∧ row.publicKey = key)
    (by simp [TrustedWithKey])

instance Trusted.decidable (id : Text) : Decidable (Trusted s id) :=
  decidable_of_iff (∃ row ∈ s.get id, row.status = .trusted) (by simp [Trusted])

instance Rotated.decidable (a b : Text) : Decidable (Rotated s a b) :=
  inferInstanceAs (Decidable (∃ t ∈ s.transitions.rows, _ ∧ _))

instance SameComponent.decidable (d x : Text) : Decidable (SameComponent s d x) :=
  decidable_of_iff _ (mem_get_rotation_chain s d x)

instance Untainted.decidable (d : Text) : Decidable (Untainted s d) :=
  decidable_of_iff (∀ x ∈ s.getRotationChain d, ¬ Revoked s x)
    (by simp [mem_get_rotation_chain, Untainted])

variable {s : TrustStore} {id : Text} {row : TrustedDevice}

theorem check_of_row {key : Text} (found : s.get id = some row) :
    (row.publicKey = key → row.status = .trusted → s.check id key = .trusted) ∧
      (row.publicKey ≠ key → s.check id key = .keyChanged) := by
  constructor
  · intro same trusted
    simp [check, found, same, trusted]
  · intro differs
    simp [check, found, differs]

variable {env : Primitives} {cert : TransitionCertificate}

theorem rotated_row {old : TrustedDevice} (verified : verifyTransitionCertificate env cert = true)
    (known : s.get cert.oldDeviceId = some old) (trusted : old.status = .trusted) (now : Time)
    (live : ¬ Revoked s cert.newDeviceId) :
    ∃ row, (step env s (.recordRotation cert now)).get cert.newDeviceId = some row ∧
      row.status = .trusted ∧ row.publicKey = match s.get cert.newDeviceId with
        | none => cert.newPublicKey
        | some before => before.publicKey := by
  simp only [step, recordRotation, verified, known, trusted, if_true, settle]
  unfold carryTrust
  -- the transition does not touch the rows
  have rows : ∀ id, ({ s with transitions := s.transitions.replace ⟨cert, now⟩ } :
    TrustStore).get id = s.get id := fun _ => rfl
  cases before : s.get cert.newDeviceId with
  | none =>
    rw [rows, before]
    rw [get_insert_device _ _ ((rows _).trans before), if_pos rfl]
    exact ⟨_, rfl, rfl, rfl⟩
  | some row =>
    rw [rows, before]
    dsimp only
    cases status : row.status with
    | revoked => exact absurd ⟨row, before, status⟩ live
    | trusted =>
      rw [if_pos (.inl rfl)]
      exact ⟨row, before, status, rfl⟩
    | pending =>
      rw [if_neg (by simp), get_update_device, if_pos rfl, rows, before]
      exact ⟨_, rfl, rfl, rfl⟩

theorem trusted_step (env : Primitives) (op : TrustOp) (found : s.get id = some row)
    (trusted : row.status = .trusted) :
    ∃ row', (step env s op).get id = some row' ∧ row'.publicKey = row.publicKey ∧
      (row'.status = .trusted ∨ row'.status = .revoked) := by
  have change := row_step env s op id
  generalize (step env s op).get id = after at change ⊢
  cases change with
  | same => exact ⟨row, found, rfl, .inl trusted⟩
  | seen absent | carried _ _ _ _ absent =>
    rw [absent] at found
    cases found
  | touched known =>
    cases known.symm.trans found
    exact ⟨_, rfl, rfl, .inl trusted⟩
  | approved known =>
    cases known.symm.trans found
    exact ⟨_, rfl, rfl, .inl rfl⟩
  | revoked known =>
    cases known.symm.trans found
    exact ⟨_, rfl, rfl, .inr rfl⟩
  | promoted _ _ _ _ before =>
    cases before.symm.trans found
    exact ⟨_, rfl, rfl, .inl rfl⟩

theorem trusted_run
    (found : s.get id = some row) (trusted : row.status = .trusted) (ops : List TrustOp)
    (live : ¬ Revoked (run (step env) s ops) id) :
    ∃ row', (run (step env) s ops).get id = some row' ∧ row'.publicKey = row.publicKey ∧
      row'.status = .trusted := by
  induction ops generalizing s row with
  | nil => exact ⟨row, found, rfl, trusted⟩
  | cons op ops ih =>
    obtain ⟨row', found', key, status⟩ := trusted_step env op found trusted
    rcases status with trusted' | revoked
    · obtain ⟨last, foundLast, keyLast, statusLast⟩ := ih found' trusted' live
      exact ⟨last, foundLast, keyLast.trans key, statusLast⟩
    · obtain ⟨last, foundLast, _, stays⟩ := rows_never_lost env _ ops id row' found'
      exact absurd ⟨last, foundLast, stays revoked⟩ live

variable {op : TrustOp}

theorem transitions_step {t : Transition} (member : t ∈ (step env s op).transitions.rows) :
    t ∈ s.transitions.rows ∨ ∃ cert now, op = .recordRotation cert now ∧ t.cert = cert := by
  cases op with
  | recordFirstSeen =>
    refine .inl ?_
    simp only [step, recordFirstSeen] at member
    split at member
    · exact member
    · split at member <;> exact member
  | touchLastSeen => exact .inl member
  | approve =>
    refine .inl ?_
    simp only [step, approve] at member
    split at member
    · exact member
    · split at member <;> exact member
  | revoke =>
    refine .inl ?_
    simp only [step, revokeDevice] at member
    split at member
    · exact member
    · split at member <;> exact member
  | recordRotation cert now =>
    have replaced : t ∈ (s.transitions.replace ⟨cert, now⟩).rows →
        t ∈ s.transitions.rows ∨ ∃ c n, TrustOp.recordRotation cert now = .recordRotation c n ∧
          t.cert = c := by
      intro inside
      rcases (Table.mem_replace _ _ _).mp inside with ⟨old, _⟩ | rfl
      · exact .inl old
      · exact .inr ⟨cert, now, rfl, rfl⟩
    simp only [step, recordRotation] at member
    split at member
    · split at member
      · exact replaced member
      · split at member
        · exact .inl member
        · exact replaced member
        · simp only [settle, carryTrust] at member
          split at member
          · exact replaced member
          · split at member <;> exact replaced member
    · exact .inl member

theorem rotated_step {a b : Text} (edge : Rotated (step env s op) a b) :
    Rotated s a b ∨ ∃ cert now, op = .recordRotation cert now ∧ cert.oldDeviceId = a ∧
      cert.newDeviceId = b := by
  obtain ⟨t, member, old, new⟩ := edge
  rcases transitions_step member with before | ⟨cert, now, same, rfl⟩
  · exact .inl ⟨t, before, old, new⟩
  · exact .inr ⟨_, now, same, old, new⟩

variable {x : Text}

theorem revoked_step (revoked : Revoked (step env s op) x) :
    Revoked s x ∨ ∃ revokedBy reason now, op = .revoke x revokedBy reason now := by
  obtain ⟨row', after, status⟩ := revoked
  cases before : s.get x with
  | some row =>
    by_cases was : row.status = .revoked
    · exact .inl ⟨row, before, was⟩
    · exact .inr (revoked_by_revocation before was after status)
  | none =>
    have change := row_step env s op x
    rw [after] at change
    generalize written : some row' = now at change
    cases change with
    | same =>
      rw [before] at written
      cases written
    | seen | carried =>
      cases written
      cases status
    | touched found | approved found | revoked found | promoted _ _ _ _ found =>
      cases before.symm.trans found

/-- The operation revokes a device of the component or records a transition that has an
    end in it. -/
def Touches (s : TrustStore) (deviceId : Text) : TrustOp → Prop
  | .revoke id _ _ _ => SameComponent s deviceId id
  | .recordRotation cert _ =>
      SameComponent s deviceId cert.oldDeviceId ∨ SameComponent s deviceId cert.newDeviceId
  | _ => False

instance Touches.decidable (s : TrustStore) (d : Text) (op : TrustOp) :
    Decidable (Touches s d op) := by
  cases op <;> unfold Touches <;> infer_instance

theorem component_step {d : Text}
    (apart : ¬ Touches s d op) (connected : SameComponent (step env s op) d x) :
    SameComponent s d x := by
  induction connected with
  | refl => exact Relation.ReflTransGen.refl
  | tail _ edge ih =>
    rcases edge with forward | backward
    · rcases rotated_step forward with old | ⟨cert, now, rfl, rfl, rfl⟩
      · exact ih.tail (.inl old)
      · exact absurd (.inl ih) apart
    · rcases rotated_step backward with old | ⟨cert, now, rfl, rfl, rfl⟩
      · exact ih.tail (.inr old)
      · exact absurd (.inr ih) apart

theorem untainted_step {d : Text}
    (apart : ¬ Touches s d op) (clean : Untainted s d) : Untainted (step env s op) d := by
  intro x connected revoked
  have before := component_step apart connected
  rcases revoked_step revoked with was | ⟨revokedBy, reason, now, rfl⟩
  · exact clean x before was
  · exact apart before

theorem joined_component {now : Time}
    (connected : SameComponent (step env s (.recordRotation cert now)) cert.newDeviceId x) :
    SameComponent s cert.oldDeviceId x ∨ SameComponent s cert.newDeviceId x := by
  induction connected with
  | refl => exact .inr Relation.ReflTransGen.refl
  | tail _ edge ih =>
    rcases edge with forward | backward
    · rcases rotated_step forward with old | ⟨_, _, same, rfl, rfl⟩
      · exact ih.imp (fun path => path.tail (.inl old)) (fun path => path.tail (.inl old))
      · cases same
        exact .inr Relation.ReflTransGen.refl
    · rcases rotated_step backward with old | ⟨_, _, same, rfl, rfl⟩
      · exact ih.imp (fun path => path.tail (.inr old)) (fun path => path.tail (.inr old))
      · cases same
        exact .inl Relation.ReflTransGen.refl

theorem rotation_untainted {now : Time}
    (clean : Trusted s cert.oldDeviceId → ¬ Trusted s cert.newDeviceId →
      Untainted s cert.oldDeviceId ∧ Untainted s cert.newDeviceId) (before : ¬ Trusted s x)
    (after : Trusted (step env s (.recordRotation cert now)) x) :
    Untainted (step env s (.recordRotation cert now)) x := by
  rcases settle_cases (P := fun t => Trusted t x) after with same | ⟨t, done, trusted⟩
  · exact absurd same before
  · obtain ⟨rfl, _, old, found, status⟩ := rotation_trusts_one done before trusted
    obtain ⟨cleanOld, cleanNew⟩ := clean ⟨old, found, status⟩ before
    intro y connected revoked
    have was : Revoked s y := by
      rcases revoked_step revoked with was | ⟨_, _, _, same⟩
      · exact was
      · cases same
    rcases joined_component connected with inOld | inNew
    · exact cleanOld y inOld was
    · exact cleanNew y inNew was

end Peerc.Trust
