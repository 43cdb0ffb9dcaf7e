import Peerc.Group.Members

/-!
Approval of an action by k of the n administrators of a group. The count is one of devices: it
is a count of key holders as long as no key is entered for two devices.
-/
namespace Peerc.Groups
open List Runs GroupEnv Base64

structure ThresholdApproval where
  groupId : Text
  actionId : Text
  actionPayload : Bytes
  requiredThreshold : Int
  signatures : Dict Text Text

inductive AdminError where
  | thresholdBelowOne
  | missingId
  | alreadySigned (deviceId actionId : Text)
  | oversizedField
  deriving DecidableEq

def createThresholdApproval (groupId actionId : Text) (actionPayload : Bytes)
    (requiredThreshold : Int) : Except AdminError ThresholdApproval :=
  if requiredThreshold < 1 then .error .thresholdBelowOne
  else if groupId = [] ∨ actionId = [] then .error .missingId
  else .ok ⟨groupId, actionId, actionPayload, requiredThreshold, Dict.empty⟩

def approvalPayload (groupId actionId : Text) (actionPayload : Bytes) : Option Bytes :=
  (packFields [utf8 groupId, utf8 actionId, actionPayload]).map
    (utf8 "peerc-group-admin-approval\x00" ++ ·)

namespace ThresholdApproval
variable (env : GroupEnv) (approval : ThresholdApproval)

def payload : Option Bytes :=
  approvalPayload approval.groupId approval.actionId approval.actionPayload

def signApproval (key : env.ed25519.PrivateKey) : Except AdminError ThresholdApproval :=
  let deviceId := env.computeDeviceId (env.ed25519.publicKey key)
  if (approval.signatures.get deviceId).isSome then
    .error (.alreadySigned deviceId approval.actionId)
  else
    match approval.payload with
    | none => .error .oversizedField
    | some payload => .ok { approval with
        signatures := approval.signatures.set deviceId
          (encode (env.ed25519.sign key payload)) }

/-- Whatever raises is a no. -/
def verifyApprovalSignature (deviceId : Text) (publicKey : Bytes) : Bool :=
  match approval.signatures.get deviceId, approval.payload with
  | some signature, some payload => verifyRaw env publicKey signature payload
  | _, _ => false

def countValidSignatures (activeAdmins : List (Text × Bytes)) : Nat :=
  activeAdmins.countP (fun admin => approval.verifyApprovalSignature env admin.1 admin.2)

def isApproved (activeAdmins : List (Text × Bytes)) : Bool :=
  approval.countValidSignatures env activeAdmins ≥ approval.requiredThreshold

end ThresholdApproval

def GroupStore.activeAdminKeys (s : GroupStore) (groupId : Text) : Option (List (Text × Bytes)) :=
  (s.listActiveAdmins groupId).mapM
    (fun a => (decode a.publicKey).map (fun key => (a.deviceId, key)))

def GroupState.approves (env : GroupEnv) (s : GroupState) (approval : ThresholdApproval)
    (groupId : Text) : Bool :=
  s.attached && (s.database.activeAdminKeys groupId).any (approval.isApproved env)

open GroupState

structure SignedExactly (env : GroupEnv) (approval : ThresholdApproval)
    (key : env.ed25519.PrivateKey) (deviceId signature : Text) (payload : Bytes) : Prop where
  filed : approval.signatures.get deviceId = some signature
  signed : decode signature = some (env.ed25519.sign key payload)
  packed : approvalPayload approval.groupId approval.actionId approval.actionPayload = some payload
  only : ∀ groupId actionId actionPayload,
    approvalPayload groupId actionId actionPayload = some payload →
      groupId = approval.groupId ∧ actionId = approval.actionId ∧
        actionPayload = approval.actionPayload

def KeyDiscipline (s : GroupState) : GroupOp → Prop
  | .tables (.createGroup group) => s.database.getGroup group.groupId = none →
      (decode group.adminPublicKey).isSome = true
  | .tables (.addAdmin g d key addedBy _) => s.database.isAdmin g addedBy = true →
      s.database.getAdmin g d = none →
      ∀ a ∈ s.database.listActiveAdmins g, decode a.publicKey ≠ some key
  | _ => True

structure KeysApart (s : GroupStore) : Prop where
  readable : ∀ {g d a}, s.getAdmin g d = some a → a.status = .active →
    (decode a.publicKey).isSome = true
  different : ∀ {g d d' a a' key}, s.getAdmin g d = some a → s.getAdmin g d' = some a' →
    a.status = .active → a'.status = .active → decode a.publicKey = some key →
    decode a'.publicKey = some key → d = d'

/-! ## What a signature says -/

theorem approval_payload_injective {g g' a a' : Text} {p p' payload : Bytes}
    (packed : approvalPayload g a p = some payload)
    (packed' : approvalPayload g' a' p' = some payload) : g' = g ∧ a' = a ∧ p' = p := by
  obtain ⟨fields, rest, rfl⟩ := Option.map_eq_some_iff.mp packed
  obtain ⟨fields', rest', same⟩ := Option.map_eq_some_iff.mp packed'
  have equal : fields' ++ [] = fields ++ [] := by
    rw [append_nil, append_nil]
    exact append_cancel_left same
  obtain ⟨lists, _⟩ := pack_fields_cancel rest' rest rfl equal
  simp only [List.cons.injEq, and_true] at lists
  exact ⟨utf8_injective lists.1, utf8_injective lists.2.1, lists.2.2⟩

variable {approval : ThresholdApproval} {env : GroupEnv}

theorem verified_signed (unforgeable : env.ed25519.Unforgeable) {d : Text} {pub : Bytes}
    (verified : approval.verifyApprovalSignature env d pub = true) :
    ∃ key, env.ed25519.publicKey key = pub ∧
      ∃ signature payload, SignedExactly env approval key d signature payload := by
  unfold ThresholdApproval.verifyApprovalSignature at verified
  split at verified
  · next signature payload filed packed =>
    obtain ⟨_, decoded, key, rfl, rfl⟩ := verify_raw_signed unforgeable verified
    refine ⟨key, rfl, signature, payload, filed, decoded, packed, ?_⟩
    intro _ _ _ same
    exact approval_payload_injective packed same
  · cases verified

theorem signers_exist {S : SignatureScheme} {P : S.PrivateKey → Prop} (admins : List (Text × Bytes))
    (each : ∀ admin ∈ admins, ∃ key, S.publicKey key = admin.2 ∧ P key) :
    ∃ keys : List S.PrivateKey, keys.map S.publicKey = admins.map Prod.snd ∧
      ∀ key ∈ keys, P key := by
  induction admins with
  | nil => exact ⟨[], rfl, by simp⟩
  | cons admin _ ih =>
    obtain ⟨key, pub, holds⟩ := each admin (by simp)
    obtain ⟨keys, pubs, all⟩ := ih (fun other member => each other (by simp [member]))
    refine ⟨key :: keys, by rw [map_cons, map_cons, pub, pubs], ?_⟩
    intro other member
    rcases mem_cons.mp member with rfl | later
    · exact holds
    · exact all other later

theorem approved_by_key_holders (unforgeable : env.ed25519.Unforgeable)
    {admins : List (Text × Bytes)}
    (different : (admins.map Prod.snd).Nodup) (approved : approval.isApproved env admins = true) :
    ∃ signers : List env.ed25519.PrivateKey, signers.Nodup ∧
      approval.requiredThreshold ≤ signers.length ∧
      ∀ key ∈ signers, ∃ d signature payload,
        SignedExactly env approval key d signature payload := by
  have each : ∀ admin ∈ admins.filter
      (fun admin => approval.verifyApprovalSignature env admin.1 admin.2),
      ∃ key, env.ed25519.publicKey key = admin.2 ∧
        ∃ d signature payload, SignedExactly env approval key d signature payload := by
    intro admin member
    obtain ⟨key, pub, signed⟩ := verified_signed unforgeable (mem_filter.mp member).2
    exact ⟨key, pub, admin.1, signed⟩
  obtain ⟨signers, pubs, all⟩ := signers_exist _ each
  have apart : (signers.map env.ed25519.publicKey).Nodup := by
    rw [pubs]
    exact different.sublist (filter_sublist.map Prod.snd)
  have count : signers.length = approval.countValidSignatures env admins := by
    rw [ThresholdApproval.countValidSignatures, countP_eq_length_filter,
      ← length_map env.ed25519.publicKey, pubs, length_map]
  refine ⟨signers, List.Nodup.of_map _ apart, ?_, all⟩
  rw [count]
  exact of_decide_eq_true approved

/-! ## The keys of the active administrators -/

section Keys
variable {s t : GroupStore} {g : Text} {keys : List (Text × Bytes)}

theorem active_keys_values (s : GroupStore) (g : Text) :
    (s.activeAdminKeys g).map (List.map Prod.snd) = s.getActiveAdminPublicKeys g := by
  unfold GroupStore.activeAdminKeys GroupStore.getActiveAdminPublicKeys
  induction s.listActiveAdmins g with
  | nil => rfl
  | cons a admins ih =>
    simp only [mapM_cons, Option.bind_eq_bind, Option.pure_def]
    rw [← ih]
    cases decode a.publicKey with
    | none => rfl
    | some key =>
      simp only [Option.map_some, Option.bind_some]
      cases admins.mapM (fun a => (decode a.publicKey).map (fun key => (a.deviceId, key))) with
      | none | some => rfl

theorem active_keys_read (s : GroupStore) (g : Text) :
    KeysReadable s g ↔ ∃ keys, s.activeAdminKeys g = some keys := by
  rw [keys_readable_iff, ← active_keys_values]
  cases s.activeAdminKeys g <;> simp

theorem mem_active_keys (read : s.activeAdminKeys g = some keys) {d : Text} {key : Bytes}
    (member : (d, key) ∈ keys) :
    ∃ a, s.getAdmin g d = some a ∧ a.status = .active ∧ decode a.publicKey = some key := by
  have rows := (mapM_some_iff _ _ _).mp read
  have listed : some (d, key) ∈ keys.map some := mem_map_of_mem member
  rw [← rows] at listed
  obtain ⟨a, active, here⟩ := mem_map.mp listed
  obtain ⟨_, decoded, pair⟩ := Option.map_eq_some_iff.mp here
  obtain ⟨rfl, rfl⟩ := Prod.mk.inj pair
  obtain ⟨row, rfl, live⟩ := (GroupStore.mem_list_active_admins s g a).mp active
  exact ⟨a, (Table.find_some_iff _ _ _).mpr ⟨row, rfl⟩, live, decoded⟩

theorem active_keys_nodup (read : s.activeAdminKeys g = some keys) : keys.Nodup := by
  have rows := (mapM_some_iff _ _ _).mp read
  have devices := active_devices_distinct s g
  have listed : (s.listActiveAdmins g).Nodup := List.Nodup.of_map _ devices
  have read : ((s.listActiveAdmins g).map
      (fun a => (decode a.publicKey).map (fun key => (a.deviceId, key)))).Nodup := by
    apply List.Nodup.map_on _ listed
    intro a memberA _ memberB same
    have present : (decode a.publicKey).map (fun key => (a.deviceId, key)) ∈ keys.map some := by
      rw [← rows]
      exact mem_map_of_mem memberA
    obtain ⟨_, _, here⟩ := mem_map.mp present
    obtain ⟨_, _, pairA⟩ := Option.map_eq_some_iff.mp here.symm
    obtain ⟨_, _, pairB⟩ := Option.map_eq_some_iff.mp (same.symm.trans here.symm)
    apply inj_on_of_nodup_map devices memberA memberB
    exact (congrArg Prod.fst pairA).trans (congrArg Prod.fst pairB).symm
  rw [rows] at read
  exact List.Nodup.of_map _ read

theorem active_keys_different (apart : KeysApart s) (read : s.activeAdminKeys g = some keys) :
    (keys.map Prod.snd).Nodup := by
  apply List.Nodup.map_on _ (active_keys_nodup read)
  rintro ⟨_, key⟩ member ⟨_, key'⟩ member' same
  obtain rfl : key = key' := same
  obtain ⟨_, found, active, decoded⟩ := mem_active_keys read member
  obtain ⟨_, found', active', decoded'⟩ := mem_active_keys read member'
  rw [apart.different found found' active active' decoded decoded']

theorem readable_of_apart (apart : KeysApart s) (g : Text) : KeysReadable s g := by
  rintro _ row rfl active
  exact apart.readable ((Table.find_some_iff _ _ _).mpr ⟨row, rfl⟩) active

theorem count_valid_rows (env : GroupEnv) (approval : ThresholdApproval)
    (read : s.activeAdminKeys g = some keys) :
    approval.countValidSignatures env keys = s.admins.rows.countP (fun a =>
      (decode a.publicKey).any (approval.verifyApprovalSignature env a.deviceId) &&
        (a.groupId = g && a.status = .active)) := by
  have rows := (mapM_some_iff _ _ _).mp read
  have read := congrArg (List.countP (Option.any
    (fun admin : Text × Bytes => approval.verifyApprovalSignature env admin.1 admin.2))) rows
  rw [countP_map, countP_map] at read
  have sorted := (perm_insertionSort (fun a b : AdminRecord => a.addedAt ≤ b.addedAt)
    (s.admins.rows.filter (fun a => a.groupId = g && a.status = .active))).countP_eq
    (fun a => (decode a.publicKey).any (approval.verifyApprovalSignature env a.deviceId))
  rw [countP_filter] at sorted
  rw [← sorted]
  refine Eq.trans read.symm (countP_congr ?_)
  intro _ _
  simp [Option.any_map]

end Keys

/-! ## Runs -/

section Step
variable {s t : GroupStore} {op : GroupOp}

inductive ActiveSource (s : GroupStore) (g d : Text) (a : AdminRecord) : GroupOp → Prop
  | old {op : GroupOp} (found : s.getAdmin g d = some a) : ActiveSource s g d a op
  | founded {group : Group} (fresh : s.getGroup g = none) (here : group.groupId = g)
      (founder : group.adminDeviceId = d) (key : a.publicKey = group.adminPublicKey) :
      ActiveSource s g d a (.tables (.createGroup group))
  | added {key : Bytes} {addedBy : Text} {now : Time} (authority : s.isAdmin g addedBy = true)
      (absent : s.getAdmin g d = none) (encoded : a.publicKey = encode key) :
      ActiveSource s g d a (.tables (.addAdmin g d key addedBy now))

theorem active_source (change : TablesChange s op t) {g d : Text} {a : AdminRecord}
    (found : t.getAdmin g d = some a) (active : a.status = .active) : ActiveSource s g d a op := by
  have row := admin_row change g d
  rw [found] at row
  generalize written : some a = after at row
  cases row with
  | same => exact .old written.symm
  | founded fresh here founder =>
    cases written
    exact .founded fresh here founder rfl
  | added authority absent =>
    cases written
    exact .added authority absent rfl
  | removed =>
    cases written
    cases active

theorem added_key_differs {s : GroupState} {g d d' addedBy : Text} {a : AdminRecord}
    {key raw : Bytes} {now : Time}
    (discipline : KeyDiscipline s (.tables (.addAdmin g d' key addedBy now)))
    (authority : s.database.isAdmin g addedBy = true) (absent : s.database.getAdmin g d' = none)
    (found : s.database.getAdmin g d = some a) (active : a.status = .active)
    (decoded : decode a.publicKey = some raw) : raw ≠ key := by
  rintro rfl
  obtain ⟨row, place⟩ := (Table.find_some_iff _ _ _).mp found
  obtain ⟨rfl, _⟩ := Prod.mk.inj place
  have listed := (GroupStore.mem_list_active_admins _ _ a).mpr ⟨row, rfl, active⟩
  exact discipline authority absent a listed decoded

theorem keys_apart_step {s : GroupState} {op : GroupOp} {t : GroupStore}
    (change : TablesChange s.database.toGroupStore op t)
    (governed : Governed s.database.toGroupStore) (apart : KeysApart s.database.toGroupStore)
    (discipline : KeyDiscipline s op) : KeysApart t := by
  constructor
  · intro _ _ _ found active
    cases active_source change found active with
    | old before => exact apart.readable before active
    | founded fresh here _ key =>
      subst here
      rw [key]
      exact discipline fresh
    | added _ _ encoded =>
      rw [encoded, decode_encode]
      rfl
  · intro _ _ _ _ _ _ found found' active active' decoded decoded'
    have source' := active_source change found' active'
    cases active_source change found active with
    | old before =>
      cases source' with
      | old before' => exact apart.different before before' active active' decoded decoded'
      | founded fresh => cases (governed.unfounded fresh _).symm.trans before
      | added authority absent encoded =>
        rw [encoded, decode_encode] at decoded'
        exact absurd (Option.some.inj decoded').symm
          (added_key_differs discipline authority absent before active decoded)
    | founded fresh _ founder =>
      cases source' with
      | old before' => cases (governed.unfounded fresh _).symm.trans before'
      | founded _ _ founder' => rw [← founder, ← founder']
    | added authority absent encoded =>
      cases source' with
      | old before' =>
        rw [encoded, decode_encode] at decoded
        exact absurd (Option.some.inj decoded).symm
          (added_key_differs discipline authority absent before' active' decoded')
      | added => rfl

theorem removal_lowers_count {g g' d by_ : Text} {now : Time} {keys keys' : List (Text × Bytes)}
    (change : TablesChange s (.tables (.removeAdmin g' d by_ now)) t)
    (read : s.activeAdminKeys g = some keys) (read' : t.activeAdminKeys g = some keys') :
    approval.countValidSignatures env keys' ≤ approval.countValidSignatures env keys := by
  rw [count_valid_rows env approval read, count_valid_rows env approval read']
  cases change with
  | same tables => rw [tables.admins]
  | adminRemoved =>
    simp only [Table.update]
    rw [countP_map]
    apply countP_mono_left
    intro _ _ counted
    simp only [Function.comp_apply] at counted
    split at counted
    · simp [GroupStore.removedRow] at counted
    · exact counted

end Step

theorem step_tables_attached (env : GroupEnv) (s : GroupState) (op : StoreOp) :
    (s.step env (.tables op)).attached = s.attached := by
  simp only [step, perform]
  split <;> rfl

theorem keys_apart_run (env : GroupEnv) {ops : List GroupOp}
    (discipline : Along (step env) KeyDiscipline start ops) :
    KeysApart (run (step env) start ops).database.toGroupStore := by
  have start : KeysApart start.database.toGroupStore := by
    constructor
    · intro _ _ _ found
      cases found
    · intro _ _ _ _ _ _ found
      cases found
  apply governed_invariant start _ discipline
  intro s op governed apart disciplined
  exact keys_apart_step (tables_step env s op) governed apart disciplined

/-- With a key for each administrator, an approval is one of as many key holders as it asks for. -/
theorem approval_needs_key_holders (env : GroupEnv) (unforgeable : env.ed25519.Unforgeable)
    (ops : List GroupOp)
    (discipline : Along (step env) KeyDiscipline start ops)
    (approval : ThresholdApproval) (g : Text) :
    ((run (step env) start ops).approves env approval g = true →
      ∃ signers : List env.ed25519.PrivateKey, signers.Nodup ∧
        approval.requiredThreshold ≤ signers.length ∧
        ∀ key ∈ signers, ∃ d signature payload,
          SignedExactly env approval key d signature payload) ∧
    (∀ g' d removedBy now,
      ((run (step env) start ops).step env
        (.tables (.removeAdmin g' d removedBy now))).approves env approval g = true →
      (run (step env) start ops).approves env approval g = true) := by
  have apart := keys_apart_run env discipline
  generalize run (step env) start ops = s at apart ⊢
  obtain ⟨keys, read⟩ := (active_keys_read _ g).mp (readable_of_apart apart g)
  constructor
  · intro approved
    simp only [approves, read, Option.any_some, Bool.and_eq_true] at approved
    exact approved_by_key_holders unforgeable (active_keys_different apart read) approved.2
  · intro g' d removedBy now approved
    simp only [approves, Bool.and_eq_true, Option.any_eq_true,
      step_tables_attached] at approved ⊢
    obtain ⟨attached, keys', read', enough⟩ := approved
    refine ⟨attached, keys, read, ?_⟩
    have fewer : approval.countValidSignatures env keys' ≤ approval.countValidSignatures env keys :=
      removal_lowers_count (tables_step env s (.tables (.removeAdmin g' d removedBy now)))
        read read'
    simp only [ThresholdApproval.isApproved, decide_eq_true_eq] at enough ⊢
    omega

section Sample

def founderHolder : sample.ed25519.PrivateKey := ⟨founderKey, rfl⟩

def deputyHolder : sample.ed25519.PrivateKey := ⟨deputyKey, rfl⟩

def keyHolders : List GroupOp :=
  let founder := sample.computeDeviceId founderKey
  [.tables (.createGroup { foundedGroup with adminDeviceId := founder }),
    .tables (.addAdmin "g" (sample.computeDeviceId deputyKey) deputyKey founder 1)]

def ceremony : Except AdminError ThresholdApproval := do
  let approval ← createThresholdApproval "g" "export-1" [1, 2, 3] 2
  let approval ← approval.signApproval sample founderHolder
  approval.signApproval sample deputyHolder

theorem both_holders_signed : ∃ approval, ceremony = .ok approval ∧
    (run (step sample) start keyHolders).approves sample
      approval "g" = true ∧
    ∃ signers : List sample.ed25519.PrivateKey, signers.Nodup ∧
      approval.requiredThreshold ≤ signers.length ∧
      ∀ key ∈ signers, ∃ d signature payload,
        SignedExactly sample approval key d signature payload := by
  have discipline : Along (step sample) KeyDiscipline start
      keyHolders := by
    refine ⟨fun _ => by decide +kernel, fun _ _ => by decide +kernel, trivial⟩
  have approved : ∃ approval, ceremony = .ok approval ∧
      (run (step sample) start keyHolders).approves sample
        approval "g" = true := ⟨_, rfl, by decide +kernel⟩
  obtain ⟨approval, made, approves⟩ := approved
  exact ⟨approval, made, approves, (approval_needs_key_holders sample
    SignatureScheme.ideal_unforgeable keyHolders discipline approval "g").1 approves⟩

def signedTwice : ThresholdApproval :=
  let signature := signWith founderKey ((approvalPayload "g".toList "export-1".toList []).getD [])
  ⟨"g".toList, "export-1".toList, [], 2,
    (Dict.empty.set "a".toList signature).set "b".toList signature⟩

theorem one_key_counts_twice : (run (step sample) start
      [.tables (.createGroup foundedGroup),
        .tables (.addAdmin "g".toList "b".toList founderKey "a".toList 1)]).approves
      sample signedTwice "g".toList = true ∧
    ∀ signers : List sample.ed25519.PrivateKey, signers.Nodup →
      (∀ key ∈ signers, ∃ d signature payload,
        SignedExactly sample signedTwice key d signature payload) →
      ¬ signedTwice.requiredThreshold ≤ signers.length := by
  refine ⟨by decide +kernel, ?_⟩
  intro signers distinct each enough
  have founder : ∀ key ∈ signers, key = founderHolder := by
    intro key member
    obtain ⟨_, signature, payload, signed⟩ := each key member
    have filed : signature = signWith founderKey payload := by
      have packed := signed.packed
      have found := signed.filed
      simp only [signedTwice, Dict.get_set] at found packed
      rw [packed] at found
      split at found
      · exact (Option.some.inj found).symm
      · split at found
        · exact (Option.some.inj found).symm
        · cases found
    have raw := signed.signed
    rw [filed, signWith, decode_encode] at raw
    exact Subtype.ext (append_cancel_right (Option.some.inj raw).symm)
  have few : signers.length ≤ 1 := by
    match signers, distinct, founder with
    | [], _, _ => exact Nat.zero_le 1
    | [_], _, _ => exact Nat.le_refl 1
    | first :: second :: _, distinct, founder =>
      have same : first = second :=
        (founder first (by simp)).trans (founder second (by simp)).symm
      simp [same] at distinct
  have asked : (2 : Int) ≤ signers.length := enough
  omega

end Sample
end Peerc.Groups
