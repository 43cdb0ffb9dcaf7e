import Peerc.Lib.Runs
import Peerc.Group.Export

/-!
The life of a group store, with the capabilities that ever let a restricting group pass.
Storing a capability again writes a fresh unused row over whatever was there.
-/
namespace Peerc.Groups
open Runs GroupStore

inductive StoreOp where
  | createGroup (group : Group)
  | setPolicy (policy : GroupPolicy)
  | addAdmin (groupId deviceId : Text) (publicKey : Bytes) (addedBy : Text) (now : Time)
  | removeAdmin (groupId deviceId removedBy : Text) (now : Time)
  | storeCapability (cap : ExportCapability) (now : Time)
  | markCapabilityUsed (capabilityId : Text) (now : Time)
  | purgeExpiredCapabilities (now : Time)
  | checkExport (groupId deviceId fileId : Option Text) (activeAdminKeys : Option (List Text))
      (now : Time)

structure History where
  store : GroupStore
  spent : List Text

open History

def History.start : History := ⟨empty, []⟩

def History.settle (h : History) (result : Except GroupStoreError GroupStore) : History :=
  match result with
  | .ok s => { h with store := s }
  | .error _ => h

variable (env : Primitives)

def History.step (h : History) : StoreOp → History
  | .createGroup group => h.settle (h.store.createGroup group)
  | .setPolicy policy => h.settle (h.store.setPolicy policy)
  | .addAdmin g d key addedBy now => h.settle (h.store.addAdmin g d key addedBy now)
  | .removeAdmin g d removedBy now => h.settle (h.store.removeAdmin g d removedBy now)
  | .storeCapability cap now => h.settle (h.store.storeCapability env cap now)
  | .markCapabilityUsed id now => { h with store := h.store.markCapabilityUsed id now }
  | .purgeExpiredCapabilities now => { h with store := h.store.purgeExpiredCapabilities now }
  | .checkExport g d f keys now =>
      let r := Groups.checkExport env h.store g d f keys now
      ⟨r.store, h.spent ++ r.passed⟩

def NoRedelivery (h : History) : StoreOp → Prop
  | .storeCapability cap _ => cap.capabilityId ∉ h.spent
  | _ => True

structure Burned (s : GroupStore) (spent : List Text) : Prop where
  once : spent.Nodup
  used : ∀ r ∈ s.capabilities.rows, r.cap.capabilityId ∈ spent → r.used = true

variable {s : GroupStore} {spent : List Text}

theorem burned_mark (inv : Burned s spent)
    (id : Text) (now : Time) : Burned (s.markCapabilityUsed id now) spent := by
  refine ⟨inv.once, ?_⟩
  intro r member taken
  rcases (mem_mark_capability_used s id now r).mp member with ⟨old, _⟩ | ⟨q, _, _, rfl⟩
  · exact inv.used r old taken
  · rfl

theorem burned_spend (inv : Burned s spent) {id : Text} (unspent : id ∉ spent) (now : Time) :
    Burned (s.markCapabilityUsed id now) (spent ++ [id]) := by
  refine ⟨List.nodup_append.mpr ⟨inv.once, by simp, ?_⟩, ?_⟩
  · intro _ ha b hb same
    have : b = id := by simpa using hb
    exact unspent (this ▸ same ▸ ha)
  · intro r member taken
    rcases (mem_mark_capability_used s id now r).mp member with
      ⟨old, differs⟩ | ⟨q, _, _, rfl⟩
    · have before : r.cap.capabilityId ∈ spent := by simpa [differs] using taken
      exact inv.used r old before
    · rfl

variable {now : Time} {g d : Text}

theorem offered_capability_unspent (inv : Burned s spent) {f : Text} {cap : ExportCapability}
    (found : s.getValidCapability g d f now = some cap) : cap.capabilityId ∉ spent := by
  obtain ⟨r, member, live, rfl⟩ := get_valid_capability_some found
  intro taken
  have burnt := inv.used r member taken
  simp [usable, burnt] at live

theorem burned_gates (deviceId fileId : Option Text) (now : Time) (gs : List Group) :
    ∀ (s : GroupStore) (keys : Option (List Text)) (spent : List Text), Burned s spent →
      Burned (exportGates env deviceId fileId now gs s keys).store
        (spent ++ (exportGates env deviceId fileId now gs s keys).passed) := by
  induction gs with
  | nil =>
    intro _ _ _ inv
    simpa [exportGates] using inv
  | cons _ _ ih =>
    intro s keys spent inv
    unfold exportGates
    split
    · split
      · rename_i d f
        split
        · simpa using inv
        · rename_i found
          split
          · simpa using inv
          · rename_i ks _
            split
            · have unspent := offered_capability_unspent inv found
              have later := ih _ (some ks) _ (burned_spend inv unspent now)
              simpa using later
            · simpa using inv
      · simpa using inv
    · exact ih s keys spent inv

variable {t : GroupStore}

theorem burned_same_capabilities
    (same : t.capabilities = s.capabilities) (inv : Burned s spent) : Burned t spent :=
  ⟨inv.once, by rw [same]; exact inv.used⟩

theorem burned_purge (inv : Burned s spent) (now : Time) :
    Burned (s.purgeExpiredCapabilities now) spent := by
  refine ⟨inv.once, ?_⟩
  intro r member taken
  exact inv.used r ((Table.mem_delete _ _ r).mp member).1 taken

theorem burned_store {env : Primitives} (inv : Burned s spent) {cap : ExportCapability}
    (unspent : cap.capabilityId ∉ spent) (stored : s.storeCapability env cap now = .ok t) :
    Burned t spent := by
  unfold storeCapability at stored
  split at stored
  · cases stored
  · split at stored
    · cases stored
      refine ⟨inv.once, ?_⟩
      intro r member taken
      rcases (Table.mem_replace _ _ r).mp member with ⟨old, _⟩ | rfl
      · exact inv.used r old taken
      · exact absurd taken unspent
    · cases stored

theorem burned_settle {h : History} {result : Except GroupStoreError GroupStore}
    (inv : Burned h.store h.spent) (keeps : ∀ t, result = .ok t → Burned t h.spent) :
    Burned (h.settle result).store (h.settle result).spent := by
  cases result with
  | error => exact inv
  | ok t => exact keeps t rfl

theorem burned_step (h : History) (op : StoreOp) (inv : Burned h.store h.spent)
    (fresh : NoRedelivery h op) : Burned (h.step env op).store (h.step env op).spent := by
  cases op with
  | createGroup =>
    exact burned_settle inv fun t done =>
      burned_same_capabilities (by rw [(create_group_ok done).2]) inv
  | setPolicy =>
    exact burned_settle inv fun t done =>
      burned_same_capabilities (by rw [set_policy_ok done]) inv
  | addAdmin =>
    exact burned_settle inv fun t done =>
      burned_same_capabilities (by rw [(add_admin_ok done).2.2]) inv
  | removeAdmin =>
    exact burned_settle inv fun t done =>
      burned_same_capabilities (by rw [(remove_admin_ok done).2.2]) inv
  | storeCapability => exact burned_settle inv fun t stored => burned_store inv fresh stored
  | markCapabilityUsed id now => exact burned_mark inv id now
  | purgeExpiredCapabilities now => exact burned_purge inv now
  | checkExport _ d f keys now => exact burned_gates env d f now _ h.store keys h.spent inv

/-- If no spent capability is stored again, each lets a restricting group pass at most once. -/
theorem capability_passes_at_most_once (env : Primitives) (ops : List StoreOp)
    (fresh : Along (step env) NoRedelivery start ops) :
    Everywhere (step env) (fun h => ∀ id, h.spent.count id ≤ 1) start ops := by
  have start : Burned start.store start.spent :=
    ⟨List.nodup_nil, by simp [start, empty]⟩
  have all := invariant_everywhere (burned_step env) start fresh
  exact everywhere_mono (fun h inv id => List.nodup_iff_count_le_one.mp inv.once id) all

section Sample

def sampleExport (now : Time) : StoreOp :=
  .checkExport none (some "d") (some "f") none now

def singleDelivery : List StoreOp :=
  [.createGroup (sampleGroupOf "g" sampleAdminKey), .setPolicy (noExportPolicy "g"),
    .storeCapability (sampleCapabilityOf "c" "g" sampleAdminKey) 1,
    sampleExport 2, sampleExport 3]

def redelivery : List StoreOp :=
  singleDelivery ++ [.storeCapability (sampleCapabilityOf "c" "g" sampleAdminKey) 4,
    sampleExport 5]

theorem single_delivery_passes_once :
    Everywhere (step Primitives.sample) (fun h => ∀ id, h.spent.count id ≤ 1)
      start singleDelivery ∧
    (run (step Primitives.sample) start singleDelivery).spent = ["c".toList] := by
  refine ⟨capability_passes_at_most_once _ _ ⟨trivial, trivial, ?_, trivial, trivial, trivial⟩, ?_⟩
  · exact List.not_mem_nil
  · decide +kernel

theorem redelivered_capability_passes_twice :
    ¬ Everywhere (step Primitives.sample) (fun h => ∀ id, h.spent.count id ≤ 1)
      start redelivery := by
  intro all
  have once := all redelivery (List.prefix_refl _) "c"
  have twice : (run (step Primitives.sample) start redelivery).spent.count
      "c".toList = 2 := by decide +kernel
  omega

end Sample
end Peerc.Groups
