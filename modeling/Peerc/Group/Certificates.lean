import Mathlib.Data.Set.Function
import Peerc.Lib.Separated
import Peerc.Group.Protocol

/-!
What the signature of a membership certificate covers: the payload puts a NUL after each text
field, joins the sorted permissions by commas, and packs no expiry as the time -1.
-/
namespace Peerc.Groups
open List Separated

/-- struct.pack(">d") on the floats: eight bytes, different for different floats. -/
structure PacksDoubles (env : GroupEnv) (floats : Set Instant) : Prop where
  width : ∀ t ∈ floats, (t.pack env.toPrimitives).length = 8
  exact : Set.InjOn (Instant.pack env.toPrimitives) floats

namespace MembershipCertificate

variable (cert : MembershipCertificate)

def texts : List Text :=
  [cert.deviceId, cert.devicePublicKey, cert.groupId, cert.role, joinPermissions cert.permissions,
    cert.adminDeviceId]

def marked : Instant := cert.expiresAt.getD (.finite (-1))

def TimesIn (floats : Set Instant) : Prop := cert.issuedAt ∈ floats ∧ cert.marked ∈ floats

structure Agrees (c d : MembershipCertificate) : Prop where
  deviceId : c.deviceId = d.deviceId
  devicePublicKey : c.devicePublicKey = d.devicePublicKey
  groupId : c.groupId = d.groupId
  role : c.role = d.role
  permissions : ∀ p, p ∈ c.permissions ↔ p ∈ d.permissions
  issuedAt : c.issuedAt = d.issuedAt
  expiresAt : c.expiresAt = d.expiresAt
  adminDeviceId : c.adminDeviceId = d.adminDeviceId

def Covered (env : GroupEnv) (floats : Set Instant) : Prop :=
  ∀ d : MembershipCertificate, d.TimesIn floats → cert.buildPayload env = d.buildPayload env →
    cert.Agrees d

theorem build_payload_eq (env : GroupEnv) : cert.buildPayload env =
    utf8 "peerc-group-membership\x00" ++ (utf8 (terminated '\x00' cert.texts) ++
      (cert.issuedAt.pack env.toPrimitives ++ cert.marked.pack env.toPrimitives)) := by
  have nul : String.utf8EncodeChar '\x00' = [0] := rfl
  simp [buildPayload, texts, marked, terminated, utf8, nul]

end MembershipCertificate

theorem mem_sorted (permissions : List Text) (p : Text) :
    p ∈ permissions.insertionSort (· ≤ ·) ↔ p ∈ permissions :=
  (perm_insertionSort (· ≤ ·) permissions).mem_iff

section Payload
variable {env : GroupEnv} {floats : Set Instant} {c d : MembershipCertificate}

theorem payload_iff (packs : PacksDoubles env floats) (timesC : c.TimesIn floats)
    (timesD : d.TimesIn floats) : c.buildPayload env = d.buildPayload env ↔
      terminated '\x00' c.texts = terminated '\x00' d.texts ∧ c.issuedAt = d.issuedAt ∧
        c.marked = d.marked := by
  rw [MembershipCertificate.build_payload_eq, MembershipCertificate.build_payload_eq]
  constructor
  · intro same
    have issuedWidth := (packs.width _ timesC.1).trans (packs.width _ timesD.1).symm
    have markedWidth := (packs.width _ timesC.2).trans (packs.width _ timesD.2).symm
    obtain ⟨texts, times⟩ :=
      append_inj' (append_cancel_left same) (by simp [issuedWidth, markedWidth])
    obtain ⟨issued, marked⟩ := append_inj times issuedWidth
    exact ⟨utf8_injective texts, packs.exact timesC.1 timesD.1 issued,
      packs.exact timesC.2 timesD.2 marked⟩
  · rintro ⟨texts, issued, marked⟩
    rw [texts, issued, marked]

end Payload

section Collisions
variable {env : GroupEnv} {floats : Set Instant} {c : MembershipCertificate}
  (packs : PacksDoubles env floats) (times : c.TimesIn floats) (covered : c.Covered env floats)
include packs times covered

end Collisions

section Sample

theorem sample_packs : PacksDoubles GroupEnv.sample {.finite (-1), 0, 1, 2} := by
  constructor
  · rintro t (rfl | rfl | rfl | rfl) <;> rfl
  · rintro t (rfl | rfl | rfl | rfl) u (rfl | rfl | rfl | rfl) same <;>
      first
        | rfl
        | exact absurd same (by decide)

end Sample
end Peerc.Groups
