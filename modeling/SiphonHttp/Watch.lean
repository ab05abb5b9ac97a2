import Mathlib.Data.List.ReduceOption
import Mathlib.Tactic.SplitIfs

/-!
Something built from a source that may be replaced, and built again when the
source's stamp is not the one recorded last. Over any sources, stamps and
products: `Covered` is what has to hold between looks so that a look at an
unchanged stamp may conclude that nothing has to be built, and a `Watcher` that
looks again and again keeps the last product that could be built.
-/
namespace SiphonHttp.Watch

section
variable {Source Stamp Product : Type*} (stamp : Source → Stamp) (build : Source → Option Product)

/-- Where the recorded stamp is the source's, the product of the source is the
    one in force, or is still to come. -/
def Covered (source : Source) (seen : Stamp) (current : Product) (Coming : Product → Prop) : Prop :=
  seen = stamp source → ∀ product ∈ build source, current = product ∨ Coming product

instance [DecidableEq Stamp] [DecidableEq Product] (source : Source) (seen : Stamp) (current : Product)
    (Coming : Product → Prop) [DecidablePred Coming] : Decidable (Covered stamp build source seen current Coming) :=
  inferInstanceAs (Decidable (_ → ∀ product ∈ build source, _ ∨ _))

variable {stamp build} {source : Source} {seen : Stamp} {current : Product} {Coming Other : Product → Prop}

/-- The product of the source itself is in force. -/
theorem covered_built (built : build source = some current) : Covered stamp build source seen current Coming := by
  intro _ product member
  rw [built] at member
  cases member
  exact Or.inl rfl

theorem covered_unbuildable (none_built : build source = none) : Covered stamp build source seen current Coming := by
  intro _ product member
  rw [none_built] at member
  cases member

theorem Covered.mono (covered : Covered stamp build source seen current Coming)
    (coming : ∀ product, Coming product → Other product) : Covered stamp build source seen current Other := by
  intro same product member
  rcases covered same product member with here | later
  · exact Or.inl here
  · exact Or.inr (coming product later)

/-- Seen as it is, and with nothing to come, a source is what is in force. -/
theorem Covered.settled (covered : Covered stamp build source seen current Coming) (same : seen = stamp source)
    (none_coming : ∀ product, ¬Coming product) {product : Product} (built : build source = some product) :
    current = product :=
  (covered same product built).resolve_right (none_coming product)

end

/-! ### Stamps that are not put back -/

section
variable {Source Stamp Event : Type*} (stamp : Source → Stamp) (replaced : Event → Option Source) (source : Source)

/-- The stamps of a source, and of what it was replaced by. -/
def stamps_over (events : List Event) : List Stamp := stamp source :: (events.filterMap replaced).map stamp

variable {stamp replaced source} {events : List Event} {event : Event} {other : Source}

theorem stamps_over_kept (kept : replaced event = none) :
    stamps_over stamp replaced source (events ++ [event]) = stamps_over stamp replaced source events := by
  rw [stamps_over, List.filterMap_append, List.filterMap_cons_none kept, List.filterMap_nil, List.append_nil, stamps_over]

theorem stamps_over_replaced (replaces : replaced event = some other) :
    stamps_over stamp replaced source (events ++ [event]) =
      stamps_over stamp replaced source events ++ [stamp other] := by
  rw [stamps_over, List.filterMap_append, List.filterMap_cons_some replaces, List.map_append]
  rfl

theorem stamps_over_mono {seen : Stamp} (member : seen ∈ stamps_over stamp replaced source events) (event : Event) :
    seen ∈ stamps_over stamp replaced source (events ++ [event]) := by
  cases replaces : replaced event with
  | none => rwa [stamps_over_kept replaces]
  | some other =>
    rw [stamps_over_replaced replaces]
    exact List.mem_append_left _ member

theorem stamps_over_shorter (once : (stamps_over stamp replaced source (events ++ [event])).Nodup) :
    (stamps_over stamp replaced source events).Nodup := by
  cases replaces : replaced event with
  | none => rwa [stamps_over_kept replaces] at once
  | some other =>
    rw [stamps_over_replaced replaces] at once
    exact (List.nodup_append.mp once).1

/-- Where no stamp comes twice, a replacement brings a new one. -/
theorem new_stamp (once : (stamps_over stamp replaced source (events ++ [event])).Nodup)
    (replaces : replaced event = some other) : stamp other ∉ stamps_over stamp replaced source events := by
  intro member
  rw [stamps_over_replaced replaces] at once
  exact (List.nodup_append.mp once).2.2 _ member _ (List.mem_singleton_self _) rfl

end

/-! ### Looking again and again -/

/-- What is in force, and the stamp it was looked at with last. -/
structure Watcher (Stamp Product : Type*) where
  seen : Stamp
  current : Product

/-- What there is to find: the stamp, and what building from the source would
    come to. -/
structure Look (Stamp Product : Type*) where
  stamp : Stamp
  built : Option Product

/-- What a step did: the stamp it looked at, if it looked, and the outcome of
    building, if it tried to. -/
structure Record (Stamp Product : Type*) where
  looked : Option Stamp
  attempt : Option (Option Product)
  deriving DecidableEq

section
variable {Stamp Product State Step : Type*}

/-- At a stamp other than the one seen last something is built, and put in force
    if it could be. -/
def Watcher.look [DecidableEq Stamp] (watcher : Watcher Stamp Product) (look : Look Stamp Product) :
    Watcher Stamp Product × Record Stamp Product :=
  if look.stamp = watcher.seen then (watcher, ⟨some look.stamp, none⟩)
  else (⟨look.stamp, look.built.getD watcher.current⟩, ⟨some look.stamp, some look.built⟩)

/-- A run of steps, with what each of them did. -/
def records (next : State → Step → State × Record Stamp Product) :
    State → List Step → State × List (Record Stamp Product)
  | state, [] => (state, [])
  | state, step :: steps =>
    let (after, record) := next state step
    let (last, made) := records next after steps
    (last, record :: made)

/-- The latest step that looked, which is the one given if none of these did. -/
def last_look : List Step → List (Record Stamp Product) → Option Step → Option Step
  | step :: steps, record :: made, last => last_look steps made (if record.looked.isSome then some step else last)
  | _, _, last => last

/-- The stamp of the latest look, and the latest product that could be built. -/
def last_seen (made : List (Record Stamp Product)) (seen : Stamp) : Stamp := (made.filterMap Record.looked).getLastD seen
def last_built (made : List (Record Stamp Product)) (current : Product) : Product :=
  (made.filterMap Record.attempt).reduceOption.getLastD current

/-- A step that is due after the latest one that looked is a look, at what there
    is to find, of the watcher that `view` sees in the state; any other step
    leaves the watcher as it is. -/
def Looks [DecidableEq Stamp] (due : Option Step → Step → Prop) (find : Step → Look Stamp Product)
    (next : State → Step → State × Record Stamp Product) (view : State → Option Step → Watcher Stamp Product → Prop) :
    Prop :=
  ∀ state last watcher step, view state last watcher →
    (due last step → view (next state step).1 (some step) (watcher.look (find step)).1 ∧
      (next state step).2 = (watcher.look (find step)).2) ∧
    (¬due last step → view (next state step).1 last watcher ∧ (next state step).2 = ⟨none, none⟩)

/-- After any steps, what is in force is what the latest attempt gave that gave
    anything; the next step looks exactly when it is due, at the stamp that there
    is to find; it tries to build exactly when it looks and that is another stamp
    than the look before found, and gets what there is to be built; and an
    attempt that fails changes nothing in force. -/
structure KeepsLastGood (due : Option Step → Step → Prop) (find : Step → Look Stamp Product)
    (next : State → Step → State × Record Stamp Product) (current : State → Product) (seen : Stamp) (start : State) :
    Prop where
  in_force : ∀ steps, current (records next start steps).1 = last_built (records next start steps).2 (current start)
  looks : ∀ steps step stamp, (next (records next start steps).1 step).2.looked = some stamp ↔
    due (last_look steps (records next start steps).2 none) step ∧ stamp = (find step).stamp
  attempts : ∀ steps step built, (next (records next start steps).1 step).2.attempt = some built ↔
    due (last_look steps (records next start steps).2 none) step ∧
      (find step).stamp ≠ last_seen (records next start steps).2 seen ∧ built = (find step).built
  failures : ∀ steps step, (next (records next start steps).1 step).2.attempt = some none →
    current (next (records next start steps).1 step).1 = current (records next start steps).1

theorem last_seen_cons (record : Record Stamp Product) (made : List (Record Stamp Product)) (seen : Stamp) :
    last_seen (record :: made) seen = last_seen made (last_seen [record] seen) := by
  unfold last_seen
  cases looked : record.looked with
  | none =>
    rw [List.filterMap_cons_none looked, List.filterMap_cons_none looked]
    rfl
  | some stamp =>
    rw [List.filterMap_cons_some looked, List.filterMap_cons_some looked, List.getLastD_cons]
    rfl

theorem last_built_cons (record : Record Stamp Product) (made : List (Record Stamp Product)) (product : Product) :
    last_built (record :: made) product = last_built made (last_built [record] product) := by
  unfold last_built
  cases attempt : record.attempt with
  | none =>
    rw [List.filterMap_cons_none attempt, List.filterMap_cons_none attempt]
    rfl
  | some built =>
    rw [List.filterMap_cons_some attempt, List.filterMap_cons_some attempt]
    cases built with
    | none =>
      rw [List.reduceOption_cons_of_none, List.reduceOption_cons_of_none]
      rfl
    | some product' =>
      rw [List.reduceOption_cons_of_some, List.reduceOption_cons_of_some, List.getLastD_cons]
      rfl

variable [DecidableEq Stamp] {due : Option Step → Step → Prop} {find : Step → Look Stamp Product}
  {next : State → Step → State × Record Stamp Product} {view : State → Option Step → Watcher Stamp Product → Prop}
  {current : State → Product}

omit [DecidableEq Stamp] in
/-- What every step preserves a run preserves. -/
theorem records_invariant (Invariant : State → Prop)
    (preserved : ∀ {state step}, Invariant state → Invariant (next state step).1) {state : State} (steps : List Step)
    (initially : Invariant state) : Invariant (records next state steps).1 := by
  induction steps generalizing state with
  | nil => exact initially
  | cons step steps ih => exact ih (preserved initially)

/-- What one look does to the two things that a watcher knows. -/
theorem look_last (watcher : Watcher Stamp Product) (look : Look Stamp Product) :
    (watcher.look look).1.seen = last_seen [(watcher.look look).2] watcher.seen ∧
      (watcher.look look).1.current = last_built [(watcher.look look).2] watcher.current ∧
      (watcher.look look).2.looked = some look.stamp := by
  unfold Watcher.look
  split_ifs with same
  · exact ⟨same.symm, rfl, rfl⟩
  · refine ⟨rfl, ?_, rfl⟩
    cases look.built <;> rfl

/-- Over a run the watcher knows the latest stamp and the latest product. -/
theorem Looks.run (looks : Looks due find next view) {state : State} {last : Option Step}
    {watcher : Watcher Stamp Product} (starts : view state last watcher) (steps : List Step) :
    ∃ after, view (records next state steps).1 (last_look steps (records next state steps).2 last) after ∧
      after.seen = last_seen (records next state steps).2 watcher.seen ∧
      after.current = last_built (records next state steps).2 watcher.current := by
  induction steps generalizing state last watcher with
  | nil => exact ⟨watcher, starts, rfl, rfl⟩
  | cons step steps ih =>
    obtain ⟨when_due, otherwise⟩ := looks state last watcher step starts
    by_cases now : due last step
    · obtain ⟨viewed, record⟩ := when_due now
      obtain ⟨after, at_end, seen, built⟩ := ih viewed
      obtain ⟨seen_here, built_here, looked⟩ := look_last watcher (find step)
      rw [← record] at seen_here built_here looked
      refine ⟨after, ?_, ?_, ?_⟩
      · rw [records, last_look, looked]
        exact at_end
      · rw [seen, seen_here]
        exact (last_seen_cons _ _ _).symm
      · rw [built, built_here]
        exact (last_built_cons _ _ _).symm
    · obtain ⟨viewed, record⟩ := otherwise now
      obtain ⟨after, at_end, seen, built⟩ := ih viewed
      refine ⟨after, ?_, ?_, ?_⟩
      · rw [records, last_look, record]
        exact at_end
      · rw [seen, records, last_seen_cons, record]
        rfl
      · rw [built, records, last_built_cons, record]
        rfl

/-- Steps that are looks keep the last product that could be built. -/
theorem Looks.keeps_last_good (looks : Looks due find next view)
    (in_force : ∀ state last watcher, view state last watcher → current state = watcher.current) {start : State}
    {seen : Stamp} (starts : view start none ⟨seen, current start⟩) : KeepsLastGood due find next current seen start := by
  refine ⟨?_, ?_, ?_, ?_⟩
  · intro steps
    obtain ⟨watcher, viewed, -, built⟩ := looks.run starts steps
    exact (in_force _ _ _ viewed).trans built
  · intro steps step stamp
    obtain ⟨watcher, viewed, -, -⟩ := looks.run starts steps
    obtain ⟨when_due, otherwise⟩ := looks _ _ watcher step viewed
    by_cases now : due (last_look steps (records next start steps).2 none) step
    · rw [(when_due now).2, (look_last watcher (find step)).2.2, Option.some.injEq]
      exact ⟨fun same => ⟨now, same.symm⟩, fun found => found.2.symm⟩
    · rw [(otherwise now).2]
      exact ⟨nofun, fun found => absurd found.1 now⟩
  · intro steps step built
    obtain ⟨watcher, viewed, last, -⟩ := looks.run starts steps
    obtain ⟨when_due, otherwise⟩ := looks _ _ watcher step viewed
    rw [← last]
    by_cases now : due (last_look steps (records next start steps).2 none) step
    · rw [(when_due now).2, Watcher.look]
      split_ifs with same
      · exact ⟨nofun, fun found => absurd same found.2.1⟩
      · rw [Option.some.injEq]
        exact ⟨fun found => ⟨now, same, found.symm⟩, fun found => found.2.2.symm⟩
    · rw [(otherwise now).2]
      exact ⟨nofun, fun found => absurd found.1 now⟩
  · intro steps step failed
    obtain ⟨watcher, viewed, -, -⟩ := looks.run starts steps
    obtain ⟨when_due, otherwise⟩ := looks _ _ watcher step viewed
    by_cases now : due (last_look steps (records next start steps).2 none) step
    · obtain ⟨after, record⟩ := when_due now
      rw [in_force _ _ _ after, in_force _ _ _ viewed]
      rw [record] at failed
      unfold Watcher.look at failed ⊢
      split_ifs at failed ⊢ with same
      rw [Option.some.inj failed]
      rfl
    · rw [in_force _ _ _ (otherwise now).1, in_force _ _ _ viewed]

end
end SiphonHttp.Watch
