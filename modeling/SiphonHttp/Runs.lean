import Mathlib.Data.List.Induction

/-!
Runs of a step function over lists of events, for any kinds of state and event.
An event that cannot happen in a state ends the run. `Meets` asks a condition of
every step that a run takes; what those steps preserve the run preserves.
-/
namespace SiphonHttp.Runs

section
variable {State Event : Type*} (step : State → Event → Option State)

def run : State → List Event → Option State
  | state, [] => some state
  | state, event :: events => (step state event).bind fun state => run state events

/-- Every step of the run, as far as it gets, meets the condition. -/
def Meets (condition : State → Event → Prop) : State → List Event → Prop
  | _, [] => True
  | state, event :: events =>
    condition state event ∧ ∀ next ∈ step state event, Meets condition next events

instance decidableMeets (condition : State → Event → Prop) [∀ state event, Decidable (condition state event)] :
    ∀ (state : State) (events : List Event), Decidable (Meets step condition state events)
  | _, [] => isTrue trivial
  | state, event :: events =>
    have : ∀ next, Decidable (Meets step condition next events) := fun next => decidableMeets condition next events
    inferInstanceAs (Decidable (condition state event ∧ ∀ next ∈ step state event, Meets step condition next events))

variable {step}

theorem run_cons {state last : State} {event : Event} {events : List Event} :
    run step state (event :: events) = some last ↔
      ∃ next, step state event = some next ∧ run step next events = some last := by
  rw [run, Option.bind_eq_some_iff]

theorem run_append {state : State} {events more : List Event} :
    run step state (events ++ more) = (run step state events).bind fun state => run step state more := by
  induction events generalizing state with
  | nil => rfl
  | cons event events ih =>
    rw [List.cons_append, run, run]
    cases step state event with
    | none => rfl
    | some next => exact ih

theorem run_concat {state last : State} {events : List Event} {event : Event} :
    run step state (events ++ [event]) = some last ↔
      ∃ middle, run step state events = some middle ∧ step middle event = some last := by
  rw [run_append, Option.bind_eq_some_iff]
  simp [run]

/-- Where every step is seen as that of an event it stands for, or not at all, a
    run is seen as the run of these events. -/
theorem run_seen {Seen SeenEvent : Type*} {seen_step : Seen → SeenEvent → Option Seen} (seen : State → Seen)
    (stands_for : Event → Option SeenEvent)
    (visible : ∀ {state event next shown}, step state event = some next → stands_for event = some shown →
      seen_step (seen state) shown = some (seen next))
    (hidden : ∀ {state event next}, step state event = some next → stands_for event = none → seen next = seen state)
    {state last : State} {events : List Event} (ran : run step state events = some last) :
    run seen_step (seen state) (events.filterMap stands_for) = some (seen last) := by
  induction events generalizing state with
  | nil =>
    cases ran
    rfl
  | cons event events ih =>
    obtain ⟨next, stepped, rest⟩ := run_cons.mp ran
    cases shown : stands_for event with
    | none =>
      rw [List.filterMap_cons_none shown, ← hidden stepped shown]
      exact ih rest
    | some other =>
      rw [List.filterMap_cons_some shown]
      exact run_cons.mpr ⟨_, visible stepped shown, ih rest⟩

/-- Two step functions that take every event alike take a run alike. -/
theorem run_alike {Other : Type*} {other_step : Other → Event → Option Other} {Alike : State → Other → Prop}
    (steps : ∀ {state other} event, Alike state other → Option.Rel Alike (step state event) (other_step other event))
    {state : State} {other : Other} (alike : Alike state other) (events : List Event) :
    Option.Rel Alike (run step state events) (run other_step other events) := by
  induction events generalizing state other with
  | nil => exact .some alike
  | cons event events ih =>
    have both := steps event alike
    rw [run, run]
    revert both
    generalize step state event = next, other_step other event = next'
    intro both
    cases both with
    | none => exact .none
    | some still => exact ih still

theorem meets_append {condition : State → Event → Prop} {state middle : State} {events more : List Event}
    (meets : Meets step condition state (events ++ more)) (ran : run step state events = some middle) :
    Meets step condition state events ∧ Meets step condition middle more := by
  induction events generalizing state with
  | nil =>
    cases ran
    exact ⟨trivial, meets⟩
  | cons event events ih =>
    obtain ⟨next, stepped, rest⟩ := run_cons.mp ran
    obtain ⟨here, later⟩ := ih (meets.2 next stepped) rest
    refine ⟨⟨meets.1, ?_⟩, later⟩
    intro other same
    rw [stepped] at same
    cases same
    exact here

/-- What every step that meets the condition preserves holds at the end of the
    run if it holds at its beginning. -/
theorem run_invariant {condition : State → Event → Prop} (Invariant : State → Prop)
    (preserved : ∀ {state event next}, step state event = some next → condition state event → Invariant state →
      Invariant next)
    {state last : State} {events : List Event} (ran : run step state events = some last)
    (meets : Meets step condition state events) (initially : Invariant state) : Invariant last := by
  induction events generalizing state with
  | nil =>
    cases ran
    exact initially
  | cons event events ih =>
    obtain ⟨next, stepped, rest⟩ := run_cons.mp ran
    exact ih rest (meets.2 next stepped) (preserved stepped meets.1 initially)

/-- A condition on the events alone is met by a run of such events. -/
theorem meets_of_forall {condition : Event → Prop} {state : State} {events : List Event}
    (all : ∀ event ∈ events, condition event) : Meets step (fun _ => condition) state events := by
  induction events generalizing state with
  | nil => trivial
  | cons event events ih =>
    refine ⟨all event (List.mem_cons_self ..), fun next _ => ih fun other member => ?_⟩
    exact all other (List.mem_cons_of_mem _ member)

/-- What every step preserves, whatever it is, the run preserves. -/
theorem run_preserves (Invariant : State → Prop)
    (preserved : ∀ {state event next}, step state event = some next → Invariant state → Invariant next)
    {state last : State} {events : List Event} (ran : run step state events = some last) (initially : Invariant state) :
    Invariant last :=
  run_invariant Invariant (fun stepped _ => preserved stepped) ran
    (@meets_of_forall _ _ step (fun _ => True) state events fun _ _ => trivial) initially

/-- What holds of the events so far and the state that they led to. -/
theorem run_history (Invariant : List Event → State → Prop) {start last : State}
    (preserved : ∀ {events event state next}, run step start events = some state → step state event = some next →
      Invariant events state → Invariant (events ++ [event]) next)
    {events : List Event} (ran : run step start events = some last) (initially : Invariant [] start) :
    Invariant events last := by
  induction events using List.reverseRecOn generalizing last with
  | nil =>
    cases ran
    exact initially
  | append_singleton events event ih =>
    obtain ⟨middle, before, stepped⟩ := run_concat.mp ran
    exact preserved before stepped (ih before)

theorem meets_concat {condition : State → Event → Prop} {start middle : State} {events : List Event} {event : Event}
    (meets : Meets step condition start events) (ran : run step start events = some middle)
    (here : condition middle event) : Meets step condition start (events ++ [event]) := by
  induction events generalizing start with
  | nil =>
    cases ran
    exact ⟨here, fun _ _ => trivial⟩
  | cons first events ih =>
    obtain ⟨next, stepped, rest⟩ := run_cons.mp ran
    refine ⟨meets.1, fun other same => ?_⟩
    rw [stepped] at same
    cases same
    exact ih (meets.2 next stepped) rest

/-- A condition on the events alone is enough, if what it says of the events so far
    brings about the condition on every step. -/
theorem meets_of_history {condition : State → Event → Prop} {Allowed : List Event → Prop}
    (Invariant : List Event → State → Prop) {start last : State}
    (shorter : ∀ {events event}, Allowed (events ++ [event]) → Allowed events)
    (meets : ∀ {events event state next}, Allowed (events ++ [event]) → step state event = some next →
      Invariant events state → condition state event)
    (preserved : ∀ {events event state next}, Allowed (events ++ [event]) → step state event = some next →
      Invariant events state → Invariant (events ++ [event]) next)
    {events : List Event} (ran : run step start events = some last) (allowed : Allowed events)
    (initially : Invariant [] start) : Meets step condition start events := by
  have both : Allowed events → Meets step condition start events ∧ Invariant events last := by
    refine run_history (fun events state => Allowed events → Meets step condition start events ∧ Invariant events state)
      ?_ ran fun _ => ⟨trivial, initially⟩
    intro events event state next before stepped known allowed
    obtain ⟨met, holds⟩ := known (shorter allowed)
    exact ⟨meets_concat met before (meets allowed stepped holds), preserved allowed stepped holds⟩
  exact (both allowed).1

/-- Where every step lowers a rank, it bounds the length of the run. -/
theorem run_length_le (rank : State → Nat)
    (lowers : ∀ {state event next}, step state event = some next → rank next < rank state)
    {state last : State} {events : List Event} (ran : run step state events = some last) :
    events.length + rank last ≤ rank state := by
  induction events generalizing state with
  | nil =>
    cases ran
    simp
  | cons event events ih =>
    obtain ⟨next, stepped, rest⟩ := run_cons.mp ran
    have later := ih rest
    have lower := lowers stepped
    rw [List.length_cons]
    omega

end
end SiphonHttp.Runs
