import Peerc.Group.Certificates
import Peerc.Group.Members

/-!
What the store gives back of a membership it has accepted. The permissions are stored as one
text, joined by commas, and split again when a row is read; the times are REAL columns.
-/
namespace Peerc.Groups
open Runs Separated GroupEnv

/-- list_memberships, newest first. -/
def GroupDatabase.listMemberships (s : GroupDatabase) (groupId : Text)
    (status : Option MembershipStatus) : List MembershipCertificate :=
  ((s.memberships.rows.filter (fun r =>
    r.groupId = groupId && status.all (fun wanted => r.status = wanted))).insertionSort
      (fun a b => b.issuedAt ≤ a.issuedAt)).map MembershipRow.cert

def Keeps (env : GroupEnv) (key : Bytes) (accepted cert : MembershipCertificate) : Prop :=
  verifyMembershipCertificate env cert key = true ∧
    ∀ p, p ∈ cert.permissions ↔ p ∈ accepted.permissions

/-- What the columns give back: no comma in a permission, not the empty one alone, and times that
are no nan and no negative zero. -/
structure MembershipCertificate.Storable (cert : MembershipCertificate) : Prop where
  noComma : ∀ p ∈ cert.permissions, ',' ∉ p
  notBlank : cert.permissions ≠ [[]]
  finite : ∀ t, cert.issuedAt = t ∨ cert.expiresAt = some t → ∃ n, t = .finite n

section Rows
variable {env : GroupEnv} {cert : MembershipCertificate} {row : MembershipRow}

theorem row_cert_as_issued (row : MembershipRow) : row.asIssued.cert = row.cert := rfl

theorem join_sorted (permissions : List Text) :
    joinPermissions (permissions.insertionSort (· ≤ ·)) = joinPermissions permissions := by
  unfold joinPermissions
  rw [(List.pairwise_insertionSort (· ≤ ·) permissions).insertionSort_eq]

theorem sorted_blank_iff (permissions : List Text) :
    permissions.insertionSort (· ≤ ·) = [[]] ↔ permissions = [[]] := by
  constructor
  · intro blank
    have perm := List.perm_insertionSort (· ≤ ·) permissions
    rw [blank] at perm
    exact (List.singleton_perm.mp perm).symm
  · intro blank
    rw [blank]
    rfl

theorem stored_permissions (noComma : ∀ p ∈ cert.permissions, ',' ∉ p)
    (notBlank : cert.permissions ≠ [[]]) :
    cert.row.cert.permissions = cert.permissions.insertionSort (· ≤ ·) :=
  split_joined (fun p member => noComma p ((mem_sorted _ p).mp member))
    (fun blank => notBlank ((sorted_blank_iff _).mp blank))

theorem stored_permissions_iff (cert : MembershipCertificate) :
    (∀ p, p ∈ cert.row.cert.permissions ↔ p ∈ cert.permissions) ↔
      (∀ p ∈ cert.permissions, ',' ∉ p) ∧ cert.permissions ≠ [[]] := by
  constructor
  · intro same
    constructor
    · intro p member
      have stored := (same p).mpr member
      unfold MembershipRow.cert at stored
      split at stored
      · cases stored
      · exact split_part stored
    · intro blank
      have stored := (same []).mpr (by rw [blank]; exact List.mem_singleton_self _)
      have nothing : cert.row.cert.permissions = [] := by
        simp [MembershipCertificate.row, MembershipRow.cert, blank, joinPermissions]
      rw [nothing] at stored
      cases stored
  · rintro ⟨noComma, notBlank⟩ p
    rw [stored_permissions noComma notBlank]
    exact mem_sorted _ p

section Signed
variable {floats : Set Instant} (packs : PacksDoubles env floats)
  (binding : ∀ key raw m m', env.ed25519.verify key raw m = true →
    env.ed25519.verify key raw m' = true → m = m')
  (ends : 0 ∈ floats ∧ .finite (-1) ∈ floats) (times : cert.TimesIn floats)
  (timed : cert.issuedAt ≠ .nan)
include ends times timed

theorem stored_times_in : cert.row.cert.TimesIn floats := by
  unfold MembershipCertificate.TimesIn MembershipCertificate.marked at times ⊢
  dsimp only [MembershipCertificate.row, MembershipRow.cert]
  constructor
  · cases issued : cert.issuedAt with
    | finite => exact issued ▸ times.1
    | negativeZero => exact ends.1
    | nan => exact absurd issued timed
  · cases expiry : cert.expiresAt with
    | none => exact ends.2
    | some t =>
      rw [expiry] at times
      cases t with
      | finite => exact times.2
      | negativeZero => exact ends.1
      | nan => exact ends.2

include packs

theorem stored_payload_iff (noComma : ∀ p ∈ cert.permissions, ',' ∉ p)
    (notBlank : cert.permissions ≠ [[]]) :
    cert.buildPayload env = cert.row.cert.buildPayload env ↔ cert.Storable := by
  have texts : cert.row.cert.texts = cert.texts := by
    simp only [MembershipCertificate.texts, stored_permissions noComma notBlank, join_sorted]
    rfl
  rw [payload_iff packs times (stored_times_in ends times timed), texts]
  constructor
  · rintro ⟨_, issued, marked⟩
    refine ⟨noComma, notBlank, ?_⟩
    rintro t (rfl | expiry)
    · exact ⟨_, issued⟩
    · unfold MembershipCertificate.marked at marked
      dsimp only [MembershipCertificate.row, MembershipRow.cert] at marked
      rw [expiry] at marked
      cases t with
      | finite n => exact ⟨n, rfl⟩
      | negativeZero | nan => cases marked
  · rintro ⟨_, _, finite⟩
    obtain ⟨n, issued⟩ := finite _ (.inl rfl)
    refine ⟨rfl, ?_, ?_⟩
    · simp [MembershipCertificate.row, MembershipRow.cert, issued, Instant.number]
    · unfold MembershipCertificate.marked
      dsimp only [MembershipCertificate.row, MembershipRow.cert]
      cases expiry : cert.expiresAt with
      | none => rfl
      | some t =>
        obtain ⟨n, rfl⟩ := finite t (.inr expiry)
        rfl

include binding

theorem keeps_iff {key : Bytes} (issued : row.asIssued = cert.row)
    (verified : verifyMembershipCertificate env cert key = true) :
    Keeps env key cert row.cert ↔ cert.Storable := by
  rw [← row_cert_as_issued, issued]
  unfold Keeps
  rw [stored_permissions_iff]
  constructor
  · rintro ⟨again, noComma, notBlank⟩
    refine (stored_payload_iff packs ends times timed noComma notBlank).mp ?_
    have signature : cert.row.cert.signature = cert.signature := rfl
    unfold verifyMembershipCertificate verifyRaw at verified again
    rw [signature] at again
    cases decoded : Base64.decode cert.signature with
    | none =>
      rw [decoded] at verified
      cases verified
    | some raw =>
      rw [decoded] at verified again
      exact binding key raw _ _ verified again
  · intro storable
    have kept := storable.noComma
    refine ⟨?_, kept, storable.notBlank⟩
    unfold verifyMembershipCertificate
    rw [← (stored_payload_iff packs ends times timed kept storable.notBlank).mpr storable]
    exact verified

end Signed

theorem mem_list_memberships {s : GroupDatabase} {groupId : Text}
    {status : Option MembershipStatus} :
    cert ∈ s.listMemberships groupId status ↔ ∃ row ∈ s.memberships.rows, row.groupId = groupId ∧
      (∀ wanted, status = some wanted → row.status = wanted) ∧ row.cert = cert := by
  unfold GroupDatabase.listMemberships
  rw [List.mem_map]
  refine exists_congr (fun row => ?_)
  rw [(List.perm_insertionSort _ _).mem_iff, List.mem_filter, and_assoc]
  cases status <;> simp [and_assoc]

theorem recorded_row {s t : GroupDatabase} (done : s.recordMembership env cert = .ok t) :
    t.getMembership cert.groupId cert.deviceId = some cert.row := by
  obtain ⟨_, _, _, absent, _, rfl⟩ := record_membership_ok done
  exact (Table.find_insert s.memberships cert.row absent _).trans (if_pos rfl)

theorem issued_stays (env : GroupEnv) (s : GroupState) (ops : List GroupOp) {g d : Text}
    (found : s.database.getMembership g d = some row) :
    ∃ row', (run (GroupState.step env) s ops).database.getMembership g d = some row' ∧
      row'.asIssued = row.asIssued := by
  induction ops generalizing s row with
  | nil => exact ⟨row, found, rfl⟩
  | cons op ops ih =>
    have change := member_step env s op g d
    generalize after : (s.step env op).database.getMembership g d = now at change
    cases change with
    | same => exact ih _ (after.trans found)
    | joined _ _ _ _ _ absent =>
      rw [absent] at found
      cases found
    | revoked known =>
      cases known.symm.trans found
      obtain ⟨row', last, same⟩ := ih _ after
      exact ⟨row', last, same⟩

end Rows

/-- Exactly if the columns give back its permissions and its times. -/
theorem accepted_membership_kept_iff (env : GroupEnv) (floats : Set Instant)
    (packs : PacksDoubles env floats)
    (binding : ∀ key raw m m', env.ed25519.verify key raw m = true →
      env.ed25519.verify key raw m' = true → m = m')
    (ends : 0 ∈ floats ∧ .finite (-1) ∈ floats) (s s' : GroupDatabase)
    (cert : MembershipCertificate) (times : cert.TimesIn floats) (key : Bytes)
    (admin : s.adminKey cert.groupId cert.adminDeviceId = .ok key)
    (accepted : s.recordMembership env cert = .ok s') (attached : Bool) (ops : List GroupOp) :
    let t := (run (GroupState.step env) ⟨s', attached⟩ ops).database
    ∃ c, (t.getMembership cert.groupId cert.deviceId).map MembershipRow.cert = some c ∧
      c ∈ t.listMemberships cert.groupId none ∧
      (∀ status, ∀ c' ∈ t.listMemberships cert.groupId status, c'.deviceId = cert.deviceId →
        c' = c) ∧
      (Keeps env key cert c ↔ cert.Storable) := by
  intro t
  obtain ⟨_, admin', verified, _, timed, _⟩ := record_membership_ok accepted
  cases admin.symm.trans admin'
  obtain ⟨row, found, issued⟩ := issued_stays env ⟨s', attached⟩ ops (recorded_row accepted)
  obtain ⟨member, holder⟩ := (Table.find_some_iff _ _ _).mp found
  obtain ⟨group, _⟩ := Prod.mk.inj holder
  refine ⟨row.cert, congrArg (Option.map _) found, ?_, ?_,
    keeps_iff packs binding ends times timed issued verified⟩
  · exact mem_list_memberships.mpr ⟨row, member, group, nofun, rfl⟩
  · intro _ _ listed same
    obtain ⟨other, among, group', _, rfl⟩ := mem_list_memberships.mp listed
    have found' := (Table.find_some_iff t.memberships (cert.groupId, cert.deviceId) other).mpr
      ⟨among, Prod.ext group' same⟩
    cases found.symm.trans found'
    rfl

section Sample

def signedCert (permissions : List Text) (expiresAt : Option Instant) : MembershipCertificate :=
  let unsigned : MembershipCertificate :=
    { unsignedCert "g" with permissions := permissions, expiresAt := expiresAt }
  { unsigned with
    signature := signWith founderKey (unsigned.buildPayload sample) }

def foundedDatabase : GroupDatabase :=
  (run (GroupState.step sample) GroupState.start
    [.tables (.createGroup foundedGroup)]).database

theorem founded_accepts (cert : MembershipCertificate)
    (accepts : (foundedDatabase.recordMembership sample cert).isOk = true) :
    ∃ s', foundedDatabase.recordMembership sample cert = .ok s' := by
  cases result : foundedDatabase.recordMembership sample cert with
  | ok s' => exact ⟨s', rfl⟩
  | error e =>
    rw [result] at accepts
    cases accepts

theorem sample_binding (key raw m m' : Bytes) (first : sample.ed25519.verify key raw m = true)
    (second : sample.ed25519.verify key raw m' = true) : m = m' := by
  simp only [sample, Primitives.sample, SignatureScheme.ideal, Bool.and_eq_true,
    decide_eq_true_eq] at first second
  exact List.append_cancel_left (first.2.symm.trans second.2)

theorem two_permissions_kept : ∃ s' c, foundedDatabase.recordMembership sample
      (signedCert ["write", "read"] (some 1)) = .ok s' ∧
    (s'.getMembership "g" memberId).map MembershipRow.cert = some c ∧
    Keeps sample founderKey (signedCert ["write", "read"] (some 1)) c := by
  obtain ⟨s', accepted⟩ := founded_accepts (signedCert ["write", "read"] (some 1))
    (by decide +kernel)
  obtain ⟨c, found, _, _, kept⟩ := accepted_membership_kept_iff sample _ sample_packs sample_binding
    ⟨by decide, by decide⟩ foundedDatabase s' _ ⟨by decide, by decide⟩ founderKey
    (by decide +kernel) accepted true []
  refine ⟨s', c, accepted, found, kept.mpr ⟨by decide, by decide, ?_⟩⟩
  rintro t (rfl | expiry)
  · exact ⟨1, rfl⟩
  · cases expiry
    exact ⟨1, rfl⟩

def lostCerts : List MembershipCertificate :=
  [signedCert ["b,a"] none, signedCert [[]] none, signedCert [] (some .negativeZero),
    signedCert [] (some .nan)]

theorem accepted_membership_lost : lostCerts.length = 4 ∧ ∀ cert ∈ lostCerts,
    ∃ s' row, foundedDatabase.recordMembership sample cert = .ok s' ∧
      s'.getMembership cert.groupId cert.deviceId = some row ∧
      (verifyMembershipCertificate sample row.cert founderKey = false ∨
        row.cert.permissions = [] ∧ cert.permissions ≠ []) := by
  have each : ∀ cert ∈ lostCerts, (foundedDatabase.recordMembership sample cert).isOk = true ∧
      (verifyMembershipCertificate sample cert.row.cert founderKey = false ∨
        cert.row.cert.permissions = [] ∧ cert.permissions ≠ []) := by decide +kernel
  refine ⟨rfl, ?_⟩
  intro cert member
  obtain ⟨accepts, lost⟩ := each cert member
  obtain ⟨s', accepted⟩ := founded_accepts cert accepts
  exact ⟨s', cert.row, accepted, recorded_row accepted, lost⟩

end Sample
end Peerc.Groups
