import Peerc.Trust.Provenance
import Mathlib.Data.List.Dedup

/-!
Rotation chains. The store walks the recorded transitions in both directions from a device,
refuses when any device found is revoked and trusts when any is trusted.
-/
namespace Peerc.Trust
open List Runs Search Primitives

namespace TrustStore

variable (s : TrustStore)

/-- The devices this one rotated to, then those that rotated into it. -/
def neighbours (deviceId : Text) : List Text :=
  (s.transitions.rows.filter (fun t => t.cert.oldDeviceId = deviceId)).map
      (fun t => t.cert.newDeviceId) ++
    (s.transitions.rows.filter (fun t => t.cert.newDeviceId = deviceId)).map
      (fun t => t.cert.oldDeviceId)

def endpoints : List Text :=
  (s.transitions.rows.flatMap (fun t => [t.cert.oldDeviceId, t.cert.newDeviceId])).dedup

/-- The timestamp of the first row that rotates into the device, or zero. -/
def orderKey (deviceId : Text) : Time :=
  match s.transitions.rows.find? (fun t => t.cert.newDeviceId = deviceId) with
  | some t => t.cert.timestamp
  | none => 0

/-- Devices of equal timestamp stay in the order of the walk; the source has no order for them. -/
def getRotationChain (deviceId : Text) : List Text :=
  (search s.neighbours (1 + load s.neighbours s.endpoints []) [] [deviceId]).insertionSort
    (fun a b => s.orderKey a ≤ s.orderKey b)

def chainVerdict (s : TrustStore) (direct : TrustDecision) : Bool → List Text → TrustDecision
  | found, [] => if found then .trusted else direct
  | found, id :: ids =>
      match s.get id with
      | none => chainVerdict s direct found ids
      | some node =>
          match node.status with
          | .revoked => .revoked
          | .trusted => chainVerdict s direct true ids
          | .pending => chainVerdict s direct found ids

def checkWithRotation (deviceId publicKey : Text) : TrustDecision :=
  let direct := s.check deviceId publicKey
  if direct = .keyChanged then direct
  else s.chainVerdict direct false (s.getRotationChain deviceId)

end TrustStore

open TrustStore

variable (s : TrustStore)

def Rotated (old new : Text) : Prop :=
  ∃ t ∈ s.transitions.rows, t.cert.oldDeviceId = old ∧ t.cert.newDeviceId = new

def SameComponent : Text → Text → Prop :=
  Relation.ReflTransGen (fun a b => Rotated s a b ∨ Rotated s b a)

def Revoked (deviceId : Text) : Prop :=
  ∃ r, s.get deviceId = some r ∧ r.status = .revoked

def Untainted (deviceId : Text) : Prop :=
  ∀ x, SameComponent s deviceId x → ¬ Revoked s x

variable (deviceId publicKey : Text)

def TrustedWithKey : Prop :=
  ∃ r, s.get deviceId = some r ∧ r.status = .trusted ∧ r.publicKey = publicKey

def VouchedFor : Prop :=
  ∃ root, Trusted s root ∧ ∃ t ∈ s.transitions.rows,
    Relation.ReflTransGen (Rotated s) root t.cert.oldDeviceId ∧
      t.cert.newDeviceId = deviceId ∧ t.cert.newPublicKey = publicKey

def TrustedByConnectionOnly : Prop :=
  (∀ r, s.get deviceId = some r → r.publicKey = publicKey ∧ r.status = .pending) ∧
    Untainted s deviceId ∧ (∃ x, SameComponent s deviceId x ∧ Trusted s x) ∧
    ¬ VouchedFor s deviceId publicKey

theorem mem_neighbours (a b : Text) : b ∈ s.neighbours a ↔ Rotated s a b ∨ Rotated s b a := by
  simp only [neighbours, mem_append, mem_map, mem_filter,
    decide_eq_true_eq, Rotated]
  constructor
  · intro member
    rcases member with ⟨t, ⟨row, old⟩, new⟩ | ⟨t, ⟨row, new⟩, old⟩
    · exact .inl ⟨t, row, old, new⟩
    · exact .inr ⟨t, row, old, new⟩
  · intro edge
    rcases edge with ⟨t, row, old, new⟩ | ⟨t, row, old, new⟩
    · exact .inl ⟨t, ⟨row, old⟩, new⟩
    · exact .inr ⟨t, ⟨row, new⟩, old⟩

theorem endpoint_of_neighbours (a : Text) (pushes : s.neighbours a ≠ []) : a ∈ s.endpoints := by
  obtain ⟨b, member⟩ := exists_mem_of_ne_nil _ pushes
  rw [endpoints, mem_dedup, mem_flatMap]
  rcases (mem_neighbours s a b).mp member with ⟨t, row, old, _⟩ | ⟨t, row, _, new⟩
  · exact ⟨t, row, by simp [old]⟩
  · exact ⟨t, row, by simp [new]⟩

/-- The walk ends with nothing left to visit, and the chain is what it has visited. -/
theorem rotation_walk_ends (d : Text) : ∃ visited, Searches s.neighbours [] [d] visited ∧
    s.getRotationChain d = visited.insertionSort (fun a b => s.orderKey a ≤ s.orderKey b) :=
  have distinct : s.endpoints.Nodup := nodup_dedup _
  ⟨_, search_ends distinct (endpoint_of_neighbours s) (Nat.le_refl _), rfl⟩

theorem mem_get_rotation_chain (d x : Text) : x ∈ s.getRotationChain d ↔ SameComponent s d x := by
  obtain ⟨_, walk, chain⟩ := rotation_walk_ends s d
  rw [chain, mem_insertionSort, mem_searches_iff walk]
  simp [Reaches, SameComponent, mem_neighbours]

theorem chain_verdict_trusted_iff (direct : TrustDecision) (found : Bool) (ids : List Text) :
    s.chainVerdict direct found ids = .trusted ↔
      (∀ x ∈ ids, ¬ Revoked s x) ∧
        (found = true ∨ (∃ x ∈ ids, Trusted s x) ∨ direct = .trusted) := by
  induction ids generalizing found with
  | nil => cases found <;> simp [chainVerdict]
  | cons id _ ih =>
    unfold chainVerdict
    cases row : s.get id with
    | none =>
      have unknown : ¬ Revoked s id ∧ ¬ Trusted s id := by simp [Revoked, Trusted, row]
      simp [ih, unknown]
    | some node =>
      cases status : node.status with
      | revoked =>
        have tainted : Revoked s id := ⟨node, row, status⟩
        simp [status, tainted]
      | trusted =>
        have here : ¬ Revoked s id ∧ Trusted s id := by simp [Revoked, Trusted, row, status]
        simp [status, ih, here]
      | pending =>
        have neither : ¬ Revoked s id ∧ ¬ Trusted s id := by simp [Revoked, Trusted, row, status]
        simp [status, ih, neither]

theorem check_trusted_iff (d pk : Text) : s.check d pk = .trusted ↔ TrustedWithKey s d pk := by
  unfold check TrustedWithKey
  cases s.get d with
  | none => simp
  | some r =>
    by_cases same : r.publicKey = pk
    · cases status : r.status <;> simp [same, status]
    · simp [same]

theorem check_key_changed_iff (d pk : Text) :
    s.check d pk = .keyChanged ↔ ∃ r, s.get d = some r ∧ r.publicKey ≠ pk := by
  unfold check
  cases s.get d with
  | none => simp
  | some r =>
    by_cases same : r.publicKey = pk
    · cases status : r.status <;> simp [same, status]
    · simp [same]

theorem check_with_rotation_trusted_iff (d pk : Text) : s.checkWithRotation d pk = .trusted ↔
      (∀ r, s.get d = some r → r.publicKey = pk) ∧ Untainted s d ∧
        ∃ x, SameComponent s d x ∧ Trusted s x := by
  unfold checkWithRotation
  simp only []
  by_cases changed : s.check d pk = .keyChanged
  · obtain ⟨r, row, differs⟩ := (check_key_changed_iff s d pk).mp changed
    rw [if_pos changed, changed]
    simp only [reduceCtorEq, false_iff]
    intro all
    exact differs (all.1 r row)
  · have keyMatches : ∀ r, s.get d = some r → r.publicKey = pk := by
      intro r row
      by_contra differs
      exact changed ((check_key_changed_iff s d pk).mpr ⟨r, row, differs⟩)
    rw [if_neg changed, chain_verdict_trusted_iff]
    simp only [mem_get_rotation_chain, Bool.false_eq_true, false_or]
    constructor
    · intro verdict
      refine ⟨keyMatches, verdict.1, ?_⟩
      rcases verdict.2 with connected | direct
      · exact connected
      · obtain ⟨r, row, status, _⟩ := (check_trusted_iff s d pk).mp direct
        exact ⟨d, Relation.ReflTransGen.refl, r, row, status⟩
    · intro all
      exact ⟨all.2.1, .inl all.2.2⟩

/-- A trusted answer is backed exactly outside connection-only trust. -/
theorem trusted_answer_backed_iff (s : TrustStore) (d pk : Text) :
    (s.checkWithRotation d pk = .trusted →
        Untainted s d ∧ (TrustedWithKey s d pk ∨ VouchedFor s d pk)) ↔
      ¬ TrustedByConnectionOnly s d pk := by
  rw [check_with_rotation_trusted_iff]
  constructor
  · intro backed unbacked
    obtain ⟨rows, untainted, connected, unvouched⟩ := unbacked
    have keyMatches : ∀ r, s.get d = some r → r.publicKey = pk := fun r row => (rows r row).1
    rcases (backed ⟨keyMatches, untainted, connected⟩).2 with ⟨r, row, status, _⟩ | vouched
    · have pending := (rows r row).2
      rw [status] at pending
      cases pending
    · exact unvouched vouched
  · intro unlike answer
    obtain ⟨keyMatches, untainted, connected⟩ := answer
    refine ⟨untainted, ?_⟩
    by_contra unbacked
    apply unlike
    refine ⟨?_, untainted, connected, fun vouched => unbacked (.inr vouched)⟩
    intro r row
    refine ⟨keyMatches r row, ?_⟩
    cases status : r.status with
    | pending => rfl
    | trusted => exact absurd (.inl ⟨r, row, status, keyMatches r row⟩) unbacked
    | revoked => exact absurd ⟨r, row, status⟩ (untainted d Relation.ReflTransGen.refl)

section Sample

def rotationIntoOwner : List TrustOp :=
  approvedOwner ++ [.recordRotation (rotationBy (deviceIdOf strangerKey) strangerKey ownerKey) 6]

theorem rotation_into_owner_trusts_stranger :
    ¬ ((run (step sample) empty rotationIntoOwner).checkWithRotation
          (deviceIdOf strangerKey) (Base64.encode strangerKey) = .trusted →
        Untainted (run (step sample) empty rotationIntoOwner)
            (deviceIdOf strangerKey) ∧
          (TrustedWithKey (run (step sample) empty rotationIntoOwner)
              (deviceIdOf strangerKey) (Base64.encode strangerKey) ∨
            VouchedFor (run (step sample) empty rotationIntoOwner)
              (deviceIdOf strangerKey) (Base64.encode strangerKey))) := by
  intro backed
  rcases (backed (by decide +kernel)).2 with own | vouched
  · obtain ⟨_, row, _⟩ := own
    have absent : (run (step sample) empty rotationIntoOwner).get
      (deviceIdOf strangerKey) = none := by decide +kernel
    exact absurd (absent.symm.trans row) (by simp)
  · obtain ⟨_, _, t, row, _, new, _⟩ := vouched
    have elsewhere : ∀ t ∈ (run (step sample) empty
      rotationIntoOwner).transitions.rows, t.cert.newDeviceId ≠ deviceIdOf strangerKey := by
      decide +kernel
    exact elsewhere t row new

end Sample

/-! ## The order of a chain -/

structure TimesGrow (s : TrustStore) : Prop where
  one : ∀ t ∈ s.transitions.rows, ∀ u ∈ s.transitions.rows,
    t.cert.newDeviceId = u.cert.newDeviceId → t = u
  positive : ∀ t ∈ s.transitions.rows, 0 < t.cert.timestamp
  grow : ∀ t ∈ s.transitions.rows, ∀ u ∈ s.transitions.rows,
    t.cert.newDeviceId = u.cert.oldDeviceId → t.cert.timestamp < u.cert.timestamp

variable {s : TrustStore}

theorem order_key_row (times : TimesGrow s) {t : Transition} (row : t ∈ s.transitions.rows) :
    s.orderKey t.cert.newDeviceId = t.cert.timestamp := by
  unfold orderKey
  cases found : s.transitions.rows.find? (fun u => u.cert.newDeviceId = t.cert.newDeviceId) with
  | none => simpa using find?_eq_none.mp found t row
  | some u =>
    have into : u.cert.newDeviceId = t.cert.newDeviceId := by simpa using find?_some found
    rw [times.one u (mem_of_find?_eq_some found) t row into]

theorem order_key_edge (times : TimesGrow s) {a b : Text} (edge : Rotated s a b) :
    s.orderKey a < s.orderKey b := by
  obtain ⟨t, row, rfl, rfl⟩ := edge
  rw [order_key_row times row]
  by_cases entered : ∃ u ∈ s.transitions.rows, u.cert.newDeviceId = t.cert.oldDeviceId
  · obtain ⟨u, earlier, into⟩ := entered
    rw [← into, order_key_row times earlier]
    exact times.grow u earlier t row into
  · have first : s.orderKey t.cert.oldDeviceId = 0 := by
      unfold orderKey
      rw [find?_eq_none.mpr (by simpa using entered)]
    rw [first]
    exact times.positive t row

theorem order_key_path (times : TimesGrow s) {a b : Text}
    (path : Relation.TransGen (Rotated s) a b) : s.orderKey a < s.orderKey b := by
  induction path with
  | single edge => exact order_key_edge times edge
  | tail _ edge ih => exact ih.trans (order_key_edge times edge)

theorem rotation_chain_exact_ordered (s : TrustStore) (d : Text) :
    (∃ visited, Searches s.neighbours [] [d] visited ∧ s.getRotationChain d =
        visited.insertionSort (fun a b => s.orderKey a ≤ s.orderKey b)) ∧
      (s.getRotationChain d).Nodup ∧ (∀ x, x ∈ s.getRotationChain d ↔ SameComponent s d x) ∧
      (TimesGrow s → ∀ earlier x later, s.getRotationChain d = earlier ++ x :: later →
        ∀ a, Relation.TransGen (Rotated s) a x → a ∈ earlier) := by
  refine ⟨rotation_walk_ends s d, ?_, mem_get_rotation_chain s d, ?_⟩
  · obtain ⟨_, walk, chain⟩ := rotation_walk_ends s d
    rw [chain]
    exact (perm_insertionSort _ _).nodup_iff.mpr (searches_nodup walk nodup_nil)
  · intro times earlier x later split a path
    have before := order_key_path times path
    have sorted : (s.getRotationChain d).Pairwise (fun a b => s.orderKey a ≤ s.orderKey b) :=
      pairwise_insertionSort _ _
    have connected : SameComponent s d x := by
      rw [← mem_get_rotation_chain, split]
      simp
    have back : SameComponent s x a := by
      clear before
      induction path using Relation.TransGen.head_induction_on with
      | single edge => exact .single (.inr edge)
      | head edge _ ih => exact ih.tail (.inr edge)
    have member := (mem_get_rotation_chain s d a).mpr (connected.trans back)
    rw [split] at member sorted
    rcases mem_append.mp member with before | after
    · exact before
    · rcases mem_cons.mp after with rfl | after
      · exact absurd before (Int.lt_irrefl _)
      · have behind := rel_of_pairwise_cons (pairwise_append.mp sorted).2.1 after
        exact absurd before (not_lt.mpr behind)

end Peerc.Trust
