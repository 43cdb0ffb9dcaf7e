import Peerc.Lib.Bytes
import Peerc.Lib.Runs
import Peerc.Lib.Table

/-!
Background tasks by group. cancel_group captures the tasks of a group, waits for them, and then
drops the group as it is by that time.
-/
namespace Peerc.Tasks
open Runs List

/-- Numbered in the order of creation, with the group that _on_done remembers. -/
structure Task where
  number : Nat
  group : Text
  deriving DecidableEq

/-- A cancel_group in asyncio.wait: what it captured, the groups its cancel_all still has to take,
and how many tasks there had been, which the code does not keep. -/
structure Cancelling where
  group : Text
  tasks : List Task
  rest : List Text
  since : Nat

/-- The callbacks are those of tasks that ended; the event loop has yet to call them. -/
structure TaskRegistry where
  tasks : Dict Text (List Task)
  created : Nat
  running : List Task
  callbacks : List Task
  waiting : List Cancelling
  reported : List Task

/-- The wait ends when all are done or at its deadline, or it is cancelled itself. -/
inductive TaskEvent where
  | createTask (group : Text)
  | ends (task : Task)
  | onDone (task : Task)
  | cancelGroup (group : Text)
  | cancelAll
  | waited (i : Nat)
  | interrupted (i : Nat)

def members (tasks : Dict Text (List Task)) (group : Text) : List Task := (tasks.get group).getD []

namespace TaskRegistry

def start : TaskRegistry := ⟨Dict.empty, 0, [], [], [], []⟩

variable (r : TaskRegistry)

/-- One cancel_group after the other; for an empty group it returns at once. -/
def cancel : List Text → TaskRegistry
  | [] => r
  | group :: rest =>
      if members r.tasks group = [] then cancel rest
      else
        { r with waiting := r.waiting ++ [⟨group, members r.tasks group, rest, r.created⟩] }

/-- A group that was dropped in the meantime is not made again by discard. -/
def discard (task : Task) : Dict Text (List Task) :=
  match r.tasks.get task.group with
  | none => r.tasks
  | some tasks => r.tasks.set task.group (tasks.filter (· ≠ task))

def step : TaskEvent → TaskRegistry
  | .createTask group =>
      let task : Task := ⟨r.created, group⟩
      { r with tasks := r.tasks.set group (members r.tasks group ++ [task]),
               created := r.created + 1, running := r.running ++ [task] }
  | .ends task =>
      if task ∈ r.running then
        { r with running := r.running.filter (· ≠ task), callbacks := r.callbacks ++ [task] }
      else r
  | .onDone task =>
      if task ∈ r.callbacks then
        { r with tasks := r.discard task, callbacks := r.callbacks.filter (· ≠ task) }
      else r
  | .cancelGroup group => r.cancel [group]
  | .cancelAll => r.cancel (r.tasks.rows.map Prod.fst)
  | .waited i =>
      match r.waiting[i]? with
      | none => r
      | some w =>
          cancel { r with tasks := r.tasks.pop w.group, waiting := r.waiting.eraseIdx i,
                          reported := r.reported ++ w.tasks.filter (· ∈ r.running) } w.rest
  | .interrupted i => { r with waiting := r.waiting.eraseIdx i }

end TaskRegistry

/-- Every running task is in the set of its group, or a warning has named it. -/
def NoneEscaped (r : TaskRegistry) : Prop :=
  ∀ t ∈ r.running, t ∈ members r.tasks t.group ∨ t ∈ r.reported

/-- A task created in the group during the wait, which this call has not cancelled, has ended or
was reported by another call. -/
def LateEnded (r : TaskRegistry) : TaskEvent → Prop
  | .waited i => ∀ w ∈ r.waiting[i]?, ∀ t ∈ r.running, t.group = w.group → w.since ≤ t.number →
      t ∉ w.tasks → t ∈ r.reported
  | _ => True

/-- As cancel_group promises: when it returns, what still runs of its group has been reported. -/
def GroupSettled (r : TaskRegistry) : TaskEvent → Prop
  | .waited i => ∀ w ∈ r.waiting[i]?, ∀ t ∈ (r.step (.waited i)).running, t.group = w.group →
      t ∈ (r.step (.waited i)).reported
  | _ => True

structure Sound (r : TaskRegistry) : Prop where
  kept : NoneEscaped r
  ended : ∀ t ∈ r.callbacks, t ∉ r.running
  numbered : ∀ t, t ∈ r.running ∨ t ∈ r.callbacks → t.number < r.created
  since : ∀ w ∈ r.waiting, w.since ≤ r.created
  captured : ∀ w ∈ r.waiting, ∀ t ∈ r.running, t.group = w.group → t.number < w.since →
    t ∈ w.tasks ∨ t ∈ r.reported

variable (d : Dict Text (List Task)) (g q : Text)

@[grind =] theorem members_set (ts : List Task) :
    members (d.set g ts) q = if q = g then ts else members d q := by
  unfold members
  rw [Dict.get_set]
  split <;> rfl

@[grind =] theorem members_pop : members (d.pop g) q = if q = g then [] else members d q := by
  unfold members
  rw [Dict.get_pop]
  split <;> rfl

section Steps
variable (r : TaskRegistry)

@[grind =] theorem mem_discard (t task : Task) : t ∈ members (r.discard task) g ↔
    t ∈ members r.tasks g ∧ (g = task.group → t ≠ task) := by
  unfold TaskRegistry.discard
  split <;> grind [members]

/-- Starting a cancellation only adds a wait. -/
theorem cancel_cases (groups : List Text) :
    r.cancel groups = r ∨ ∃ group rest, r.cancel groups =
      { r with waiting := r.waiting ++ [⟨group, members r.tasks group, rest, r.created⟩] } := by
  induction groups with
  | nil => exact .inl rfl
  | cons group rest ih =>
    unfold TaskRegistry.cancel
    split
    · exact ih
    · exact .inr ⟨group, rest, rfl⟩

theorem cancel_frame (groups : List Text) : (r.cancel groups).running = r.running ∧
    (r.cancel groups).tasks = r.tasks ∧ (r.cancel groups).reported = r.reported := by
  obtain same | ⟨_, _, same⟩ := cancel_cases r groups <;> simp [same]

/-- The latecomer is dropped with its group, and nothing names it. -/
theorem late_escapes (e : TaskEvent) (late : ¬ LateEnded r e) : ¬ NoneEscaped (r.step e) := by
  cases e with
  | waited i =>
    simp only [LateEnded, not_forall] at late
    obtain ⟨w, found, t, runs, same, _, spared, untold⟩ := late
    rw [Option.mem_def] at found
    simp only [TaskRegistry.step, found, NoneEscaped, cancel_frame]
    intro none
    have told := none t runs
    simp [members_pop, same, spared, untold] at told
  | _ => exact absurd trivial late

variable {r} (sound : Sound r)
include sound

theorem cancel_sound (groups : List Text) : Sound (r.cancel groups) := by
  obtain same | ⟨group, rest, same⟩ := cancel_cases r groups
  · rwa [same]
  · -- All that runs of the group is in its set or reported, so the capture misses none.
    obtain ⟨kept, ended, numbered, since, captured⟩ := sound
    rw [same]
    exact ⟨kept, ended, numbered, by grind, by grind [NoneEscaped]⟩

theorem step_sound (e : TaskEvent) (late : LateEnded r e) : Sound (r.step e) := by
  cases e with
  | cancelGroup | cancelAll => exact cancel_sound sound _
  | createTask | ends | onDone | interrupted =>
    obtain ⟨kept, ended, numbered, since, captured⟩ := sound
    constructor <;> grind [TaskRegistry.step, NoneEscaped, mem_of_mem_eraseIdx]
  | waited i =>
    cases found : r.waiting[i]? with
    | none => simpa only [TaskRegistry.step, found] using sound
    | some w =>
      have late := late w found
      simp only [TaskRegistry.step, found]
      apply cancel_sound
      obtain ⟨kept, ended, numbered, since, captured⟩ := sound
      have old := captured w (mem_of_getElem? found)
      constructor
      case kept =>
        intro t runs
        by_cases early : t.number < w.since <;> grind [NoneEscaped]
      all_goals grind [mem_of_mem_eraseIdx]

theorem settled_iff (e : TaskEvent) : GroupSettled r e ↔ LateEnded r e := by
  cases e with
  | waited i =>
    cases found : r.waiting[i]? with
    | none => simp [GroupSettled, LateEnded, found]
    | some w =>
      have captured := sound.captured w (mem_of_getElem? found)
      simp only [GroupSettled, LateEnded, TaskRegistry.step, found, cancel_frame]
      grind
  | _ => exact Iff.rfl

end Steps

theorem start_sound : Sound .start := by constructor <;> simp [NoneEscaped, TaskRegistry.start]

/-- No running task is lost sight of if and only if no wait leaves a latecomer behind. -/
theorem none_escapes_iff (es : List TaskEvent) :
    Everywhere TaskRegistry.step NoneEscaped .start es ↔
      Along TaskRegistry.step LateEnded .start es :=
  everywhere_iff_along (fun r => Sound.kept (r := r)) (fun _ e sound => step_sound sound e)
    (fun r e _ => late_escapes r e) start_sound es

/-- Its promise is kept in the same runs. -/
theorem settled_iff_late_ended (es : List TaskEvent) :
    Along TaskRegistry.step GroupSettled .start es ↔
      Along TaskRegistry.step LateEnded .start es := by
  have agree : ∀ r e, Sound r → (GroupSettled r e ↔ LateEnded r e) :=
    fun _ e sound => settled_iff sound e
  exact along_iff agree (fun _ e sound => step_sound sound e) start_sound es

end Peerc.Tasks
