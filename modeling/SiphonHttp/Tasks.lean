import SiphonHttp.Runs
import Mathlib.Data.List.Basic
import Mathlib.Tactic.SplitIfs

/-!
Any number of tasks that share a state, in any order of their steps: tasks start
at any time, as far as there is room for more of them, and one task acts at a
time. What every action of a task preserves holds of every task of a run; the
tasks of a kind are counted by what each action changes in its own task.
-/
namespace SiphonHttp.Tasks
open Runs

/-- Code that runs in atomic steps on a shared state: each step goes on from one
    place of the code to another or returns. A step also sees something of the
    world outside (a clock, what other code has written), which may be anything
    at every step. Code that never returns is code as well. -/
structure Code (World Shared Input Output : Type*) where
  Place : Type*
  start : Input → Place
  step : Place → World → Shared → Shared × (Place ⊕ Output)

/-- Code of one step that reads and writes nothing shared. -/
def Code.at_once {World Shared Input Output : Type*} (compute : Input → Output) : Code World Shared Input Output where
  Place := Input
  start := id
  step input _ shared := (shared, .inr (compute input))

structure System (Shared Task Input Action : Type*) where
  start : Input → Task
  act : Shared → Task → Action → Option (Shared × Task)
  in_progress : Task → Bool
  /-- How many tasks can be in progress. -/
  room : Nat

/-- The shared state and all tasks that were ever started. -/
structure State (Shared Task : Type*) where
  shared : Shared
  tasks : List Task

inductive Event (Input Action : Type*)
  | arrive (input : Input)
  | act (index : Nat) (action : Action)

section
variable {Shared Task Input Action : Type*} (system : System Shared Task Input Action)

def step (state : State Shared Task) : Event Input Action → Option (State Shared Task)
  | .arrive input =>
    if state.tasks.countP system.in_progress < system.room then
      some { state with tasks := state.tasks ++ [system.start input] }
    else none
  | .act index action =>
    state.tasks[index]?.bind fun task =>
      (system.act state.shared task action).map fun (shared, task) => ⟨shared, state.tasks.set index task⟩

variable {system} {state next : State Shared Task}

/-- A step starts a task at the end of the list, or it is an action of one task. -/
theorem step_cases {event : Event Input Action} (stepped : step system state event = some next) :
    (∃ input, event = .arrive input ∧ state.tasks.countP system.in_progress < system.room ∧
        next = { state with tasks := state.tasks ++ [system.start input] }) ∨
      ∃ index action before shared after, event = .act index action ∧ state.tasks[index]? = some before ∧
        system.act state.shared before action = some (shared, after) ∧
        next = ⟨shared, state.tasks.set index after⟩ := by
  cases event with
  | arrive input =>
    simp only [step] at stepped
    split_ifs at stepped with room
    cases stepped
    exact Or.inl ⟨input, rfl, room, rfl⟩
  | act index action =>
    obtain ⟨before, found, acted⟩ := Option.bind_eq_some_iff.mp stepped
    obtain ⟨⟨shared, after⟩, acts, rfl⟩ := Option.map_eq_some_iff.mp acted
    exact Or.inr ⟨index, action, before, shared, after, rfl, found, acts, rfl⟩

/-- What holds of a task at its start and what every action of a task preserves
    holds of every task of a run. -/
theorem each_task (Holds : Task → Prop) (starts : ∀ input, Holds (system.start input))
    (preserved : ∀ {shared task action shared' task'}, system.act shared task action = some (shared', task') →
      Holds task → Holds task')
    {last : State Shared Task} {events : List (Event Input Action)} (ran : run (step system) state events = some last)
    (initially : ∀ task ∈ state.tasks, Holds task) : ∀ task ∈ last.tasks, Holds task := by
  refine run_preserves (fun state => ∀ task ∈ state.tasks, Holds task) ?_ ran initially
  intro state event next stepped all task member
  obtain ⟨input, -, -, rfl⟩ | ⟨index, action, before, shared, after, -, found, acts, rfl⟩ := step_cases stepped
  · rcases List.mem_append.mp member with earlier | new
    · exact all task earlier
    · rw [List.mem_singleton.mp new]
      exact starts input
  · rcases List.mem_or_eq_of_mem_set member with other | rfl
    · exact all task other
    · exact preserved acts (all before (List.mem_of_getElem? found))

/-! ### Tasks that share nothing -/

/-- The actions of one task among the events. -/
def own (index : Nat) (events : List (Event Input Action)) : List Action :=
  events.filterMap fun
    | .act other action => if other = index then some action else none
    | .arrive _ => none

/-- A step leaves every task but the one that acts. -/
theorem step_others {index : Nat} {action : Action} (stepped : step system state (.act index action) = some next)
    {other : Nat} (another : other ≠ index) : next.tasks[other]? = state.tasks[other]? := by
  obtain ⟨input, impossible, -⟩ | ⟨acting, acted, before, shared, after, same, -, -, rfl⟩ := step_cases stepped
  · cases impossible
  · cases same
    exact List.getElem?_set_ne (Ne.symm another)

/-- Where no action reads or writes the shared state, a task is where its own
    actions lead it from its start, whatever the others do. -/
theorem alone (act : Task → Action → Option Task)
    (apart : ∀ shared task action, system.act shared task action = (act task action).map (shared, ·))
    {last : State Shared Task} {events : List (Event Input Action)} (ran : run (step system) state events = some last)
    {index : Nat} {task : Task} (found : last.tasks[index]? = some task) :
    ∃ before, (state.tasks[index]? = some before ∨
        (state.tasks[index]? = none ∧ ∃ input, before = system.start input)) ∧
      run act before (own index events) = some task := by
  induction events generalizing state with
  | nil =>
    cases ran
    exact ⟨task, Or.inl found, rfl⟩
  | cons event events ih =>
    obtain ⟨next, stepped, rest⟩ := run_cons.mp ran
    obtain ⟨before, there, led⟩ := ih rest
    obtain ⟨input, rfl, -, rfl⟩ | ⟨acting, action, prior, shared, after, rfl, here, acts, rfl⟩ := step_cases stepped
    · refine ⟨before, ?_, led⟩
      rcases there with there | ⟨none, started⟩
      · rw [List.getElem?_append] at there
        split_ifs at there with inside
        · exact Or.inl there
        · have listed := List.mem_of_getElem? there
          exact Or.inr ⟨List.getElem?_eq_none (Nat.le_of_not_lt inside), input, List.mem_singleton.mp listed⟩
      · rw [List.getElem?_eq_none_iff, List.length_append] at none
        exact Or.inr ⟨List.getElem?_eq_none (by omega), started⟩
    · by_cases same : acting = index
      · subst same
        obtain ⟨inside, -⟩ := List.getElem?_eq_some_iff.mp here
        rw [List.getElem?_set_self inside] at there
        rcases there with there | ⟨impossible, -⟩
        · obtain rfl := Option.some.inj there
          rw [apart] at acts
          obtain ⟨after', stepped', same'⟩ := Option.map_eq_some_iff.mp acts
          cases same'
          refine ⟨prior, Or.inl here, ?_⟩
          rw [own, List.filterMap_cons_some (by simp : _ = some action)]
          exact run_cons.mpr ⟨_, stepped', led⟩
        · cases impossible
      · rw [List.getElem?_set_ne same] at there
        refine ⟨before, there, ?_⟩
        rw [own, List.filterMap_cons_none (by simp [same])]
        exact led

/-- And a task can go wherever its actions lead it, with the others at rest. -/
theorem run_last (act : Task → Action → Option Task)
    (apart : ∀ shared task action, system.act shared task action = (act task action).map (shared, ·))
    (shared : Shared) (tasks : List Task) {task last : Task} {actions : List Action}
    (ran : run act task actions = some last) :
    run (step system) ⟨shared, tasks ++ [task]⟩ (actions.map (Event.act tasks.length)) =
      some ⟨shared, tasks ++ [last]⟩ := by
  induction actions generalizing task with
  | nil =>
    cases ran
    rfl
  | cons action actions ih =>
    obtain ⟨next, stepped, rest⟩ := run_cons.mp ran
    refine run_cons.mpr ⟨⟨shared, tasks ++ [next]⟩, ?_, ih rest⟩
    have there : (tasks ++ [task])[tasks.length]? = some task := by simp
    have set : (tasks ++ [task]).set tasks.length next = tasks ++ [next] := by simp
    simp only [step, there, Option.bind_some, apart, stepped, Option.map_some, set]

/-! ### Counting tasks -/

end
end SiphonHttp.Tasks
