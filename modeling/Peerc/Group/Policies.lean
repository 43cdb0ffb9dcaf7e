import Peerc.Group.Store
import Peerc.Lib.JsonValues
import Peerc.Vault.Session

/-!
The communication policy of the groups. The first rule that matches an attempt decides, and
the default effect where none does; every policy considered has to allow the attempt. A group id
with a lone surrogate is not caught: it cannot be bound in the query for its policy.
-/
namespace Peerc.Groups
open List Decoded
open Vault (field asText)

structure Attempt where
  action : Str
  sourceDeviceId : Str
  destDeviceId : Str
  sourceRole : Option Str
  destRole : Option Str
  sourceGroupId : Option Str
  destGroupId : Option Str

inductive CheckError where
  | interGroupDenied (groupId : Str)
  | ruleDenies (rule : CommunicationRule) (groupId : Text)
  | defaultDenies (groupId : Text)
  | unicodeEncodeError
  deriving DecidableEq

/-- CommunicationDeniedError or InterGroupDeniedError. -/
def CheckError.isDenial : CheckError → Bool
  | .unicodeEncodeError => false
  | _ => true

def sideMatches (lower : Str → Str) (pattern : Text) (device : Str) (role group : Option Str) :
    Bool :=
  let pattern := lower (ofText pattern)
  pattern = ofText ['*'] || pattern = lower device || role.any (fun r => pattern = lower r) ||
    group.any (fun g => pattern = lower g)

def CommunicationRule.matches (lower : Str → Str) (rule : CommunicationRule) (a : Attempt) : Bool :=
  if rule.action ≠ ['*'] ∧ lower (ofText rule.action) ≠ lower a.action then false
  else if ¬ sideMatches lower rule.source a.sourceDeviceId a.sourceRole a.sourceGroupId then false
  else if ¬ sideMatches lower rule.destination a.destDeviceId a.destRole a.destGroupId then false
  else true

def GroupStore.listPolicies (s : GroupStore) : List GroupPolicy :=
  s.policies.rows.insertionSort (fun a b => b.updatedAt ≤ a.updatedAt)

def given (groupId : Option Str) : Option Str := groupId.filter (· ≠ [])

/-- get_policy of any string; the binding of a parameter encodes it. -/
def fetchPolicy (s : GroupStore) (groupId : Str) : Except CheckError (Option GroupPolicy) :=
  match toText groupId with
  | none => .error .unicodeEncodeError
  | some id => .ok (s.getPolicy id)

section Checks
variable (lower : Str → Str) (store : Option GroupStore) (a : Attempt)

def checkLetsOut (s : GroupStore) (groupId : Str) : Except CheckError Unit := do
  let policy ← fetchPolicy s groupId
  if policy.any (fun p => !p.allowInterGroup) then .error (.interGroupDenied groupId) else .ok ()

def checkInterGroup (source target : Str) : Except CheckError Unit :=
  match store with
  | none => .ok ()
  | some s =>
      if source = target then .ok ()
      else do
        checkLetsOut s source
        checkLetsOut s target

def checkRules (groupId : Text) : List CommunicationRule → Except CheckError Bool
  | [] => .ok false
  | rule :: rules =>
      if rule.matches lower a then
        if rule.effect = .deny then .error (.ruleDenies rule groupId) else .ok true
      else checkRules groupId rules

def checkPolicies : List GroupPolicy → Except CheckError Unit
  | [] => .ok ()
  | p :: policies => do
      let matched ← checkRules lower a p.groupId p.communicationMatrix
      if ¬ matched ∧ p.defaultCommunicationEffect = .deny then .error (.defaultDenies p.groupId)
      else checkPolicies policies

def targetGroupIds : List Str := (given a.sourceGroupId).toList ++ (given a.destGroupId).toList

def collectPolicies (s : GroupStore) : List Str → Except CheckError (List GroupPolicy)
  | [] => .ok []
  | groupId :: ids => do
      let p ← fetchPolicy s groupId
      .ok (p.toList ++ (← collectPolicies s ids))

/-- `visit` is the order in which a loop over the set of some strings takes them. -/
def consideredPolicies (s : GroupStore) (visit : List Str → List Str) :
    Except CheckError (List GroupPolicy) :=
  if targetGroupIds a = [] then .ok s.listPolicies
  else collectPolicies s (visit (targetGroupIds a))

def checkGroups : Except CheckError Unit :=
  match given a.sourceGroupId, given a.destGroupId with
  | some source, some target =>
      if source ≠ target then checkInterGroup store source target else .ok ()
  | _, _ => .ok ()

def checkCommunication (visit : List Str → List Str) : Except CheckError Unit := do
  checkGroups store a
  match store with
  | none => .ok ()
  | some s => checkPolicies lower a (← consideredPolicies a s visit)

def isCommunicationAllowed (visit : List Str → List Str) : Except CheckError Bool :=
  match checkCommunication lower store a visit with
  | .ok _ => .ok true
  | .error e => if e.isDenial then .ok false else .error e

end Checks

/-! ## Rows and dictionaries -/

def PolicyEffect.value : PolicyEffect → Text
  | .allow => "allow"
  | .deny => "deny"

open PolicyEffect

def PolicyEffect.ofValue (t : Text) : Option PolicyEffect :=
  if t = "allow" then some .allow else if t = "deny" then some .deny else none

def CommunicationRule.toDict (r : CommunicationRule) : Json.Value :=
  .object [("source", .string r.source), ("destination", .string r.destination),
    ("action", .string r.action), ("effect", .string r.effect.value)]

def textAt (d : Json.Value) (key : String) : Option Text := (field key.toList d).bind asText

def CommunicationRule.fromDict (d : Json.Value) : Option CommunicationRule := do
  let effect ← ofValue ((textAt d "effect").getD allow.value)
  some ⟨← textAt d "source", ← textAt d "destination", (textAt d "action").getD ['*'], effect⟩

/-- The dictionary of a policy; a key that from_dict can do without may be absent. -/
structure PolicyDict where
  groupId : Text
  (allowExternalTrust allowExport leaveRequiresAdmin allowInterGroup : Option Bool)
  communicationMatrix : Option (List Json.Value)
  defaultCommunicationEffect : Option Text
  version : Option Nat
  updatedAt : Option Time
  (adminDeviceId signature : Option Text)

def GroupPolicy.toDict (p : GroupPolicy) : PolicyDict :=
  ⟨p.groupId, some p.allowExternalTrust, some p.allowExport, some p.leaveRequiresAdmin,
    some p.allowInterGroup, some (p.communicationMatrix.map CommunicationRule.toDict),
    some p.defaultCommunicationEffect.value, some p.version, some p.updatedAt, p.adminDeviceId,
    p.signature⟩

open GroupPolicy

def GroupPolicy.fromDict (now : Time) (d : PolicyDict) : Option GroupPolicy := do
  let rules ← (d.communicationMatrix.getD []).mapM CommunicationRule.fromDict
  let effect ← ofValue (d.defaultCommunicationEffect.getD allow.value)
  some ⟨d.groupId, d.allowExternalTrust.getD true, d.allowExport.getD true,
    d.leaveRequiresAdmin.getD false, d.allowInterGroup.getD true, rules, effect, d.version.getD 1,
    d.updatedAt.getD now, d.adminDeviceId, d.signature⟩

structure PolicyRow where
  groupId : Text
  (allowExternalTrust allowExport leaveRequiresAdmin allowInterGroup : Nat)
  communicationMatrix : Text
  defaultCommunicationEffect : Text
  version : Nat
  updatedAt : Time
  (adminDeviceId signature : Option Text)

def GroupPolicy.row (json : Json.Library) (p : GroupPolicy) : PolicyRow :=
  ⟨p.groupId, p.allowExternalTrust.toNat, p.allowExport.toNat, p.leaveRequiresAdmin.toNat,
    p.allowInterGroup.toNat,
      json.dumps (.array (p.communicationMatrix.map CommunicationRule.toDict)),
    p.defaultCommunicationEffect.value, p.version, p.updatedAt, p.adminDeviceId, p.signature⟩

def asItems : Json.Value → Option (List Json.Value)
  | .array items => some items
  | _ => none

def rowToPolicy (json : Json.Library) (row : PolicyRow) : Option GroupPolicy := do
  let matrix ← if row.communicationMatrix ≠ [] then json.loads row.communicationMatrix
    else some (.array [])
  let rules ← (← asItems matrix).mapM CommunicationRule.fromDict
  let effect ← ofValue row.defaultCommunicationEffect
  some ⟨row.groupId, row.allowExternalTrust ≠ 0, row.allowExport ≠ 0, row.leaveRequiresAdmin ≠ 0,
    row.allowInterGroup ≠ 0, rules, effect, row.version, row.updatedAt, row.adminDeviceId,
    row.signature⟩

inductive PolicyImage (json : Json.Library) (p : GroupPolicy) : Option GroupPolicy → Prop
  | stored : PolicyImage json p (rowToPolicy json (p.row json))
  | dictionary (now : Time) : PolicyImage json p (fromDict now p.toDict)

theorem of_value_value (e : PolicyEffect) : ofValue e.value = some e := by
  cases e <;> rfl

theorem rules_from_dicts (rules : List CommunicationRule) :
    rules.mapM (CommunicationRule.fromDict ∘ CommunicationRule.toDict) = some rules := by
  induction rules with
  | nil => rfl
  | cons r _ ih =>
    have effect : textAt r.toDict "effect" = some r.effect.value := rfl
    have one : CommunicationRule.fromDict r.toDict = some r := by
      rw [CommunicationRule.fromDict, effect, Option.getD_some, of_value_value]
      rfl
    simp [mapM_cons, one, ih]

theorem rules_within (rules : List CommunicationRule) :
    (Json.Value.array (rules.map CommunicationRule.toDict)).Within ∅ := by
  refine .array fun v member => ?_
  obtain ⟨_, _, rfl⟩ := mem_map.mp member
  refine .object fun f inside => ?_
  simp only [mem_cons, not_mem_nil, or_false] at inside
  rcases inside with rfl | rfl | rfl | rfl <;> exact .string _

theorem policy_image_self {json : Json.Library} (exact : json.Exact ∅) {p : GroupPolicy}
    {image : Option GroupPolicy} (made : PolicyImage json p image) : image = some p := by
  cases made with
  | stored =>
    have within := rules_within p.communicationMatrix
    simp [rowToPolicy, row, exact.written _ within, exact.read _ within, asItems,
      rules_from_dicts, of_value_value]
  | dictionary => simp [fromDict, toDict, rules_from_dicts, of_value_value]

/-! ## The meaning of a check -/

def GroupPolicy.effectOn (lower : Str → Str) (p : GroupPolicy) (a : Attempt) : PolicyEffect :=
  ((p.communicationMatrix.find? (fun r => r.matches lower a)).map
    CommunicationRule.effect).getD p.defaultCommunicationEffect

/-- No policy is stored for an id with a lone surrogate. -/
def policyOf (s : GroupStore) (groupId : Str) : Option GroupPolicy :=
  (toText groupId).bind s.getPolicy

def forbidsInterGroup (s : GroupStore) (groupId : Str) : Bool :=
  (policyOf s groupId).any (fun p => !p.allowInterGroup)

def Considered (s : GroupStore) (a : Attempt) (p : GroupPolicy) : Prop :=
  if given a.sourceGroupId = none ∧ given a.destGroupId = none then p ∈ s.policies.rows
  else ∃ g, (given a.sourceGroupId = some g ∨ given a.destGroupId = some g) ∧ policyOf s g = some p

def Permits (lower : Str → Str) (s : GroupStore) (a : Attempt) : Prop :=
  (∀ source target, given a.sourceGroupId = some source → given a.destGroupId = some target →
    source ≠ target → forbidsInterGroup s source = false ∧ forbidsInterGroup s target = false) ∧
  ∀ p, Considered s a p → p.effectOn lower a = .allow

/-- No group id that is given has a lone surrogate. -/
def Encodable (a : Attempt) : Prop := ∀ g ∈ targetGroupIds a, toText g ≠ none

instance (a : Attempt) : Decidable (Encodable a) := List.decidableBAll _ _

def VisitsAll (visit : List Str → List Str) : Prop := ∀ ids g, g ∈ visit ids ↔ g ∈ ids

section Meaning
variable {lower : Str → Str} {a : Attempt} {s : GroupStore}

theorem check_rules_eq (groupId : Text) (rules : List CommunicationRule) :
    checkRules lower a groupId rules =
      match rules.find? (fun r => r.matches lower a) with
      | none => .ok false
      | some rule =>
          if rule.effect = .deny then .error (.ruleDenies rule groupId) else .ok true := by
  induction rules with
  | nil => rfl
  | cons rule _ ih =>
    rw [checkRules, find?_cons]
    cases rule.matches lower a with
    | true => rfl
    | false => exact ih

theorem check_policies_ok_iff (policies : List GroupPolicy) :
    checkPolicies lower a policies = .ok () ↔ ∀ p ∈ policies, p.effectOn lower a = .allow := by
  induction policies with
  | nil => simp [checkPolicies]
  | cons p _ ih =>
    rw [checkPolicies, check_rules_eq, forall_mem_cons, ← ih, effectOn]
    cases found : p.communicationMatrix.find? (fun r => r.matches lower a) with
    | none => cases p.defaultCommunicationEffect <;> simp [bind, Except.bind]
    | some rule => cases kind : rule.effect <;> simp [kind, bind, Except.bind]

theorem check_policies_denial (policies : List GroupPolicy) {e : CheckError}
    (failed : checkPolicies lower a policies = .error e) : e.isDenial = true := by
  induction policies with
  | nil => cases failed
  | cons p _ ih =>
    rw [checkPolicies, check_rules_eq] at failed
    cases found : p.communicationMatrix.find? (fun r => r.matches lower a) with
    | none =>
      rw [found] at failed
      cases default : p.defaultCommunicationEffect with
      | allow => exact ih (by simpa [default, bind, Except.bind] using failed)
      | deny =>
        simp [default, bind, Except.bind] at failed
        exact failed ▸ rfl
    | some rule =>
      rw [found] at failed
      cases kind : rule.effect with
      | allow => exact ih (by simpa [kind, bind, Except.bind] using failed)
      | deny =>
        simp [kind, bind, Except.bind] at failed
        exact failed ▸ rfl

theorem collect_encodable {ids : List Str} (texts : ∀ g ∈ ids, toText g ≠ none) :
    collectPolicies s ids = .ok (ids.filterMap (policyOf s)) := by
  induction ids with
  | nil => rfl
  | cons g ids ih =>
    obtain ⟨id, text⟩ := Option.ne_none_iff_exists'.mp (texts g mem_cons_self)
    rw [collectPolicies, ih fun g member => texts g (mem_cons_of_mem _ member)]
    simp only [fetchPolicy, text, bind, Except.bind, filterMap_cons, policyOf, Option.bind_some]
    cases s.getPolicy id <;> rfl

theorem collect_lone {ids : List Str} {g : Str} (member : g ∈ ids) (lone : toText g = none) :
    collectPolicies s ids = .error .unicodeEncodeError := by
  induction ids with
  | nil => cases member
  | cons first ids ih =>
    rw [collectPolicies, fetchPolicy]
    cases text : toText first with
    | none => rfl
    | some =>
      have later : g ∈ ids := (mem_cons.mp member).resolve_left (by rintro rfl; simp [lone] at text)
      simp [ih later, bind, Except.bind]

theorem mem_target_iff (g : Str) :
    g ∈ targetGroupIds a ↔ given a.sourceGroupId = some g ∨ given a.destGroupId = some g := by
  simp [targetGroupIds]

theorem considered_encodable {visit : List Str → List Str} (whole : VisitsAll visit)
    (texts : Encodable a) : ∃ policies, consideredPolicies a s visit = .ok policies ∧
      ∀ p, p ∈ policies ↔ Considered s a p := by
  have none_iff : targetGroupIds a = [] ↔
      given a.sourceGroupId = none ∧ given a.destGroupId = none := by
    simp [targetGroupIds]
  unfold consideredPolicies Considered
  simp only [← none_iff]
  split
  · exact ⟨_, rfl, fun p => mem_insertionSort _⟩
  · refine ⟨_, collect_encodable fun g member => texts g ((whole _ _).mp member), fun p => ?_⟩
    simp only [mem_filterMap, whole _ _, mem_target_iff]

theorem lets_out_encodable {g : Str} (text : toText g ≠ none) : checkLetsOut s g =
    if forbidsInterGroup s g then .error (.interGroupDenied g) else .ok () := by
  obtain ⟨id, text⟩ := Option.ne_none_iff_exists'.mp text
  simp [checkLetsOut, fetchPolicy, forbidsInterGroup, policyOf, text, bind, Except.bind]

/-- Without lone surrogates the check of the two groups is the first part of `Permits`. -/
theorem check_groups_encodable (texts : Encodable a) :
    (checkGroups (some s) a = .ok () ∨ ∃ g, checkGroups (some s) a = .error (.interGroupDenied g)) ∧
    (checkGroups (some s) a = .ok () ↔ ∀ source target, given a.sourceGroupId = some source →
      given a.destGroupId = some target → source ≠ target →
        forbidsInterGroup s source = false ∧ forbidsInterGroup s target = false) := by
  unfold checkGroups
  split
  · next source target isSource isTarget =>
    rw [isSource, isTarget]
    by_cases same : source = target
    · simp [same]
    · rw [if_pos same, checkInterGroup, if_neg same,
        lets_out_encodable (texts source ((mem_target_iff _).mpr (.inl isSource))),
        lets_out_encodable (texts target ((mem_target_iff _).mpr (.inr isTarget)))]
      cases first : forbidsInterGroup s source <;> cases second : forbidsInterGroup s target <;>
        simp [bind, Except.bind, same, first, second]
  · next missing =>
    refine ⟨.inl rfl, iff_of_true rfl fun source target isSource isTarget => ?_⟩
    exact absurd isTarget (missing source target isSource)

theorem allowed_encodable {visit : List Str → List Str} (whole : VisitsAll visit)
    (texts : Encodable a) : ∃ answer, isCommunicationAllowed lower (some s) a visit = .ok answer ∧
      (answer = true ↔ Permits lower s a) := by
  obtain ⟨policies, considered, member⟩ := @considered_encodable a s visit whole texts
  obtain ⟨outcome, lets⟩ := @check_groups_encodable a s texts
  have meaning : Permits lower s a ↔ checkGroups (some s) a = .ok () ∧
      checkPolicies lower a policies = .ok () := by
    rw [lets, check_policies_ok_iff, Permits]
    simp only [member]
  unfold isCommunicationAllowed checkCommunication
  rw [meaning]
  rcases outcome with open_ | ⟨g, denied⟩
  · simp only [open_, considered, bind, Except.bind, true_and]
    cases checked : checkPolicies lower a policies with
    | ok => exact ⟨true, rfl, by simp⟩
    | error e => exact ⟨false, by simp [check_policies_denial policies checked], by simp⟩
  · exact ⟨false, by simp [denied, bind, Except.bind, CheckError.isDenial], by simp [denied]⟩

/-- A lone surrogate gets past the check of the groups only to fail when policies are fetched. -/
theorem allowed_lone {visit : List Str → List Str} (whole : VisitsAll visit)
    (lone : ¬ Encodable a) : isCommunicationAllowed lower (some s) a visit =
      match checkGroups (some s) a with
      | .ok _ => .error .unicodeEncodeError
      | .error e => if e.isDenial then .ok false else .error e := by
  unfold Encodable at lone
  push Not at lone
  obtain ⟨g, member, lone⟩ := lone
  have some_ids : targetGroupIds a ≠ [] := ne_nil_of_mem member
  have raised : consideredPolicies a s visit = .error .unicodeEncodeError := by
    rw [consideredPolicies, if_neg some_ids]
    exact collect_lone ((whole _ _).mpr member) lone
  unfold isCommunicationAllowed checkCommunication
  cases checkGroups (some s) a with
  | ok => simp [raised, bind, Except.bind, CheckError.isDenial]
  | error => rfl

theorem allowed_of_policies {s' : GroupStore} {visit : List Str → List Str}
    (same : s'.policies = s.policies) : isCommunicationAllowed lower (some s') a visit =
      isCommunicationAllowed lower (some s) a visit := by
  have fetch : fetchPolicy s' = fetchPolicy s := by
    funext g
    simp only [fetchPolicy, GroupStore.getPolicy, same]
  have collect : collectPolicies s' = collectPolicies s := by
    funext ids
    induction ids with
    | nil => rfl
    | cons g ids ih => rw [collectPolicies, collectPolicies, fetch, ih]
  simp only [isCommunicationAllowed, checkCommunication, checkGroups, checkInterGroup, checkLetsOut,
    consideredPolicies, GroupStore.listPolicies, fetch, collect, same]

end Meaning

/-- Whether both groups let each other in and every policy considered allows the attempt, unless
that is so and a group id has a lone surrogate. -/
theorem communication_allowed_iff (lower : Str → Str) {json : Json.Library} (exact : json.Exact ∅)
    (s : GroupStore) (a : Attempt) (visit : List Str → List Str) (whole : VisitsAll visit) :
    ((isCommunicationAllowed lower (some s) a visit = .ok true ↔ Permits lower s a) ↔
        (Permits lower s a → Encodable a)) ∧
      (∀ visit' : List Str → List Str, VisitsAll visit' →
        isCommunicationAllowed lower (some s) a visit' =
          isCommunicationAllowed lower (some s) a visit) ∧
      (∀ p image, PolicyImage json p image → image = some p) ∧
      ∀ s' : GroupStore, List.Forall₂ (fun p q => PolicyImage json p (some q))
          s.policies.rows s'.policies.rows →
        isCommunicationAllowed lower (some s') a visit =
          isCommunicationAllowed lower (some s) a visit := by
  refine ⟨?_, fun visit' whole' => ?_, fun p image => policy_image_self exact, fun s' images => ?_⟩
  · by_cases texts : Encodable a
    · obtain ⟨answer, returned, meaning⟩ := @allowed_encodable lower a s visit whole texts
      rw [returned, ← meaning]
      simp [texts]
    · rw [allowed_lone whole texts]
      have never : (match checkGroups (some s) a with
          | .ok _ => .error .unicodeEncodeError
          | .error e => if e.isDenial then .ok false else .error e : Except CheckError Bool) ≠
            .ok true := by
        split
        · simp
        · split <;> simp
      simp [never, texts]
  · by_cases texts : Encodable a
    · obtain ⟨_, returned, meaning⟩ := @allowed_encodable lower a s visit whole texts
      obtain ⟨_, returned', meaning'⟩ := @allowed_encodable lower a s visit' whole' texts
      rw [returned, returned', Bool.eq_iff_iff.mpr (meaning'.trans meaning.symm)]
    · rw [allowed_lone whole texts, allowed_lone whole' texts]
  · have rows : s.policies.rows = s'.policies.rows := by
      rw [← List.forall₂_eq_eq_eq]
      exact images.imp fun p q made => (Option.some.inj (policy_image_self exact made)).symm
    have tables : s'.policies = s.policies := by
      cases left : s'.policies
      cases right : s.policies
      simp_all
    exact allowed_of_policies tables

section Sample

def officePolicy : GroupPolicy where
  groupId := "g"
  allowExternalTrust := true
  allowExport := true
  leaveRequiresAdmin := false
  allowInterGroup := true
  communicationMatrix := [⟨"hr", ['*'], "chat", .allow⟩, ⟨['*'], ['*'], ['*'], .deny⟩]
  defaultCommunicationEffect := .allow
  version := 1
  updatedAt := 0
  adminDeviceId := none
  signature := none

def officeStore : GroupStore :=
  { GroupStore.empty with policies := Table.empty.upsert officePolicy }

def chatFrom (role : String) (group other : Str) : Attempt :=
  ⟨ofText "chat", ofText "d", ofText "e", some (ofText role.toList), none, some group, some other⟩

def loneId : Str := [⟨0xd800, by decide⟩]

/-- The same store after each policy went through its dictionary. -/
def officeCopy : GroupStore :=
  { GroupStore.empty with
    policies := Table.empty.upsert ((fromDict 5 officePolicy.toDict).getD officePolicy) }

theorem first_rule_decides :
    Permits id officeStore (chatFrom "hr" (ofText "g") (ofText "h")) ∧
      isCommunicationAllowed id (some officeStore) (chatFrom "hr" (ofText "g") (ofText "h"))
        reverse = .ok true ∧
      fromDict 5 officePolicy.toDict = some officePolicy ∧
      isCommunicationAllowed id (some officeCopy) (chatFrom "ops" (ofText "g") (ofText "h")) id =
        .ok false := by
  have exact : (Json.compact ∅).Exact ∅ := Json.compact_exact (fun _ no => no.elim)
  have visits : VisitsAll id := fun _ _ => Iff.rfl
  obtain ⟨decided, ordered, imaged, _⟩ := communication_allowed_iff id exact officeStore
    (chatFrom "hr" (ofText "g") (ofText "h")) id visits
  obtain ⟨_, _, _, replaced⟩ := communication_allowed_iff id exact officeStore
    (chatFrom "ops" (ofText "g") (ofText "h")) id visits
  refine ⟨(decided.mpr fun _ => by decide).mp (by decide), ?_, imaged _ _ (.dictionary 5), ?_⟩
  · rw [ordered reverse (fun _ _ => mem_reverse)]
    decide
  · rw [replaced officeCopy (.cons (.dictionary 5) .nil)]
    decide

theorem lone_surrogate_raises :
    Permits id officeStore (chatFrom "hr" (ofText "g") loneId) ∧
      isCommunicationAllowed id (some officeStore) (chatFrom "hr" (ofText "g") loneId) id =
        .error .unicodeEncodeError := by
  refine ⟨⟨?_, ?_⟩, by decide⟩
  · rintro source target isSource isTarget -
    cases isSource
    cases isTarget
    decide
  · rintro p ⟨g, isSource | isTarget, found⟩
    · cases isSource
      cases found
      decide
    · cases isTarget
      cases found

end Sample
end Peerc.Groups
