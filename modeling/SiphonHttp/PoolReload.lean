import SiphonHttp.Config
import SiphonHttp.Runs
import SiphonHttp.Watch

/-!
`Pool::client` of `outbound.rs`, by any number of callers at once, while the TLS
files are replaced. The stamps are compared and recorded under a lock; the pool
is built and put in place after the lock is released, so a slow caller may put
in place a pool of older files than the one that is there (`slow_rebuild_wins`).
-/
namespace SiphonHttp
open Text

/-! ### Files -/

/-- What `metadata` and reading a file give; each may fail on its own. -/
structure File where
  modified : Option Nat
  content : Option Octets
  deriving DecidableEq, Repr

abbrev FileSystem := Text → Option File

def modification_times (files : FileSystem) (paths : List (Option Text)) : List (Option Nat) :=
  paths.map fun path => path.bind fun path => (files path).bind File.modified

namespace PoolReload
open Config Runs Watch

def stamps (settings : ClientConfig) (files : FileSystem) : List (Option Nat) :=
  modification_times files [settings.verify, settings.cert, settings.key]

/-- Where a call of `Pool::client` stands. -/
inductive Phase (Client : Type)
  | begun
  /-- The stamps had changed: the pool is to be built. -/
  | build
  | write (client : Client)
  | read
  | returned (client : Client)
  deriving DecidableEq

/-- The pool, its files, and every call of it so far. -/
structure State (Client : Type) where
  clock : Nat
  files : FileSystem
  current : Client
  looked_at : Nat
  seen : List (Option Nat)
  calls : List (Phase Client)

inductive Event
  | begin_call
  | look (call : Nat)
  | build (call : Nat)
  | write (call : Nat)
  | read (call : Nat)
  | replace (files : FileSystem)
  | wait (time : Nat)

section
variable {Client : Type} (pool : ClientConfig → FileSystem → Option Client) (settings : ClientConfig) (period : Nat)

/-- The part of a call under the lock: within the period nothing is looked at;
    else the stamps are recorded, and whether they had changed decides. -/
def look (state : State Client) (call : Nat) : State Client :=
  if state.clock - state.looked_at < period then { state with calls := state.calls.set call .read }
  else
    let now := stamps settings state.files
    { state with
      looked_at := state.clock
      seen := now
      calls := state.calls.set call (if now ≠ state.seen then .build else .read) }

/-- A pool that does not build is logged, and the previous one stays. -/
def build (state : State Client) (call : Nat) : State Client :=
  match pool settings state.files with
  | some client => { state with calls := state.calls.set call (.write client) }
  | none => { state with calls := state.calls.set call .read }

/-- One step of a call, or of what is around the calls. A replacement of the
    files changes a modification time and leaves files that load. -/
def step (state : State Client) : Event → Option (State Client)
  | .begin_call => some { state with calls := state.calls ++ [.begun] }
  | .look call =>
    match state.calls[call]? with
    | some .begun => some (look settings period state call)
    | _ => none
  | .build call =>
    match state.calls[call]? with
    | some .build => some (build pool settings state call)
    | _ => none
  | .write call =>
    match state.calls[call]? with
    | some (.write client) => some { state with current := client, calls := state.calls.set call .read }
    | _ => none
  | .read call =>
    match state.calls[call]? with
    | some .read => some { state with calls := state.calls.set call (.returned state.current) }
    | _ => none
  | .replace files =>
    if stamps settings files ≠ stamps settings state.files ∧ (pool settings files).isSome then
      some { state with files := files }
    else none
  | .wait time => some { state with clock := state.clock + time }

/-- Some call is still to build a pool, or to put this one in place. -/
def Pending (calls : List (Phase Client)) (client : Client) : Prop :=
  ∃ phase ∈ calls, phase = .build ∨ phase = .write client

/-- The condition on a step. When the recorded stamps are those of the present
    files, a call puts in place the pool of these files, unless another one is
    still to do so; and files are not replaced by others with the recorded
    stamps, unless the pool of these is there or to come. -/
def Orderly (state : State Client) : Event → Prop
  | .write call => state.seen = stamps settings state.files → ∀ client ∈ pool settings state.files,
      state.calls[call]? = some (.write client) ∨ Pending (state.calls.set call .read) client
  | .replace files => Covered (stamps settings) (pool settings) files state.seen state.current (Pending state.calls)
  | _ => True

instance [DecidableEq Client] (calls : List (Phase Client)) (client : Client) : Decidable (Pending calls client) :=
  inferInstanceAs (Decidable (∃ phase ∈ calls, _))

instance [DecidableEq Client] (state : State Client) (event : Event) : Decidable (Orderly pool settings state event) := by
  cases event <;> unfold Orderly <;> infer_instance

/-- Between steps, a pool that the stamps would not let be built again is there,
    or to come. -/
def PoolCovered (state : State Client) : Prop :=
  Covered (stamps settings) (pool settings) state.files state.seen state.current (Pending state.calls)

end

/-! ### One step -/

section
variable {Client : Type} {pool : ClientConfig → FileSystem → Option Client} {settings : ClientConfig} {period : Nat}
  {state next : State Client} {call : Nat} {calls : List (Phase Client)} {client : Client}

/-- What one step does, event by event. -/
inductive Steps (pool : ClientConfig → FileSystem → Option Client) (settings : ClientConfig) (period : Nat)
    (state : State Client) : Event → State Client → Prop
  | begin_call : Steps pool settings period state .begin_call { state with calls := state.calls ++ [.begun] }
  | look {call : Nat} (here : state.calls[call]? = some .begun) :
    Steps pool settings period state (.look call) (look settings period state call)
  | build {call : Nat} (here : state.calls[call]? = some .build) :
    Steps pool settings period state (.build call) (build pool settings state call)
  | write {call : Nat} {client : Client} (here : state.calls[call]? = some (.write client)) :
    Steps pool settings period state (.write call) { state with current := client, calls := state.calls.set call .read }
  | read {call : Nat} (here : state.calls[call]? = some .read) :
    Steps pool settings period state (.read call) { state with calls := state.calls.set call (.returned state.current) }
  | replace {files : FileSystem} (changed : stamps settings files ≠ stamps settings state.files)
      (loads : (pool settings files).isSome) :
    Steps pool settings period state (.replace files) { state with files := files }
  | wait (time : Nat) : Steps pool settings period state (.wait time) { state with clock := state.clock + time }

theorem step_cases {event : Event} (stepped : step pool settings period state event = some next) :
    Steps pool settings period state event next := by
  cases event with
  | begin_call => cases stepped; exact .begin_call
  | wait time => cases stepped; exact .wait time
  | replace files =>
    simp only [step] at stepped
    split_ifs at stepped with replaces
    cases stepped
    exact .replace replaces.1 replaces.2
  | look call =>
    simp only [step] at stepped
    split at stepped <;> cases stepped
    exact .look ‹_›
  | build call =>
    simp only [step] at stepped
    split at stepped <;> cases stepped
    exact .build ‹_›
  | write call =>
    simp only [step] at stepped
    split at stepped <;> cases stepped
    exact .write ‹_›
  | read call =>
    simp only [step] at stepped
    split at stepped <;> cases stepped
    exact .read ‹_›

/-- A call that is neither to build nor to put in place anything may go on. -/
theorem pending_set {phase after : Phase Client} (here : calls[call]? = some phase)
    (idle : phase ≠ .build ∧ phase ≠ .write client) (pending : Pending calls client) :
    Pending (calls.set call after) client := by
  obtain ⟨other, member, coming⟩ := pending
  obtain ⟨index, inside, rfl⟩ := List.getElem_of_mem member
  have elsewhere : call ≠ index := by
    rintro rfl
    rw [List.getElem?_eq_getElem inside] at here
    cases here
    rcases coming with build | write
    · exact idle.1 build
    · exact idle.2 write
  have kept : (calls.set call after)[index]? = some calls[index] := by
    rw [List.getElem?_set_ne elsewhere, List.getElem?_eq_getElem inside]
  exact ⟨calls[index], List.mem_of_getElem? kept, coming⟩

theorem pending_here {phase after : Phase Client} (here : calls[call]? = some phase)
    (coming : after = .build ∨ after = .write client) : Pending (calls.set call after) client := by
  obtain ⟨inside, -⟩ := List.getElem?_eq_some_iff.mp here
  exact ⟨after, List.mem_set inside after, coming⟩

theorem covered_look (here : state.calls[call]? = some .begun) (covered : PoolCovered pool settings state) :
    PoolCovered pool settings (look settings period state call) := by
  have idle : ∀ {after : Phase Client} (client : Client), Pending state.calls client →
      Pending (state.calls.set call after) client := fun client pending => pending_set here (by simp) pending
  unfold look
  split_ifs
  · exact covered.mono idle
  · dsimp only
    by_cases changed : stamps settings state.files = state.seen
    · rw [if_neg (by simpa using changed)]
      exact fun _ => covered.mono idle changed.symm
    · rw [if_pos changed]
      exact fun _ client _ => Or.inr (pending_here here (Or.inl rfl))

theorem covered_build (here : state.calls[call]? = some .build) :
    PoolCovered pool settings (build pool settings state call) := by
  unfold build
  cases built : pool settings state.files with
  | none => exact covered_unbuildable built
  | some client =>
    intro _ other member
    change other ∈ pool settings state.files at member
    rw [built] at member
    cases member
    exact Or.inr (pending_here here (Or.inr rfl))

theorem covered_write (here : state.calls[call]? = some (.write client))
    (orderly : Orderly pool settings state (.write call)) :
    PoolCovered pool settings { state with current := client, calls := state.calls.set call .read } := by
  intro same other member
  rcases orderly same other member with this_one | pending
  · rw [here] at this_one
    cases this_one
    exact Or.inl rfl
  · exact Or.inr pending

/-- What one step preserves. -/
theorem step_covered {event : Event} (stepped : step pool settings period state event = some next)
    (orderly : Orderly pool settings state event) (covered : PoolCovered pool settings state) :
    PoolCovered pool settings next := by
  cases step_cases stepped with
  | begin_call => exact covered.mono fun client ⟨phase, member, coming⟩ => ⟨phase, List.mem_append_left _ member, coming⟩
  | look here => exact covered_look here covered
  | build here => exact covered_build here
  | write here => exact covered_write here orderly
  | read here => exact covered.mono fun client pending => pending_set here (by simp) pending
  | replace changed loads => exact orderly
  | wait time => exact covered

/-! ### Files that stay -/

def Event.KeepsFiles : Event → Prop
  | .replace _ => False
  | _ => True

theorem look_files (state : State Client) (call : Nat) : (look settings period state call).files = state.files := by
  unfold look
  split_ifs <;> rfl

theorem build_files (state : State Client) (call : Nat) :
    (build pool settings state call).files = state.files ∧ (build pool settings state call).seen = state.seen ∧
      (build pool settings state call).current = state.current := by
  unfold build
  split <;> exact ⟨rfl, rfl, rfl⟩

theorem look_seen (settings : ClientConfig) (period : Nat) (state : State Client) (call : Nat) :
    (look settings period state call).seen = state.seen ∨
      (look settings period state call).seen = stamps settings state.files := by
  unfold look
  split_ifs
  · exact Or.inl rfl
  · exact Or.inr rfl

theorem step_files {event : Event} (stepped : step pool settings period state event = some next)
    (keeps : event.KeepsFiles) : next.files = state.files := by
  cases step_cases stepped with
  | replace changed loads => exact absurd keeps id
  | look here => exact look_files state _
  | build here => exact (build_files state _).1
  | begin_call | write here | read here | wait time => rfl

/-- Files that stay and were seen as they are stay so. -/
theorem step_seen {files : FileSystem} {event : Event} (stepped : step pool settings period state event = some next)
    (keeps : event.KeepsFiles) (same : state.files = files ∧ state.seen = stamps settings files) :
    next.files = files ∧ next.seen = stamps settings files := by
  obtain ⟨rfl, seen⟩ := same
  refine ⟨step_files stepped keeps, ?_⟩
  cases step_cases stepped with
  | replace changed loads => exact absurd keeps id
  | look here =>
    rcases look_seen settings period state _ with same | now
    · rw [same, seen]
    · exact now
  | build here => exact (build_files state _).2.1.trans seen
  | begin_call | write here | read here | wait time => exact seen

/-- A look when the period is over sees the files as they are. -/
theorem look_elapsed (elapsed : period ≤ state.clock - state.looked_at) (call : Nat) :
    (look settings period state call).seen = stamps settings state.files := by
  rw [look, if_neg (by omega)]

/-- The files were seen as they are, their pool is in place, and no call is to
    build or to put in place another one. -/
structure Settled (settings : ClientConfig) (present : FileSystem) (client : Client) (state : State Client) : Prop where
  files : state.files = present
  seen : state.seen = stamps settings present
  current : state.current = client
  quiet : ∀ other, ¬Pending state.calls other

theorem quiet_set {after : Phase Client} (quiet : ∀ client, ¬Pending calls client) (call : Nat)
    (idle : after ≠ .build ∧ ∀ client, after ≠ .write client) (client : Client) :
    ¬Pending (calls.set call after) client := by
  rintro ⟨phase, member, coming⟩
  rcases List.mem_or_eq_of_mem_set member with known | rfl
  · exact quiet client ⟨phase, known, coming⟩
  · rcases coming with build | write
    · exact idle.1 build
    · exact idle.2 client write

theorem step_settled {files : FileSystem} {event : Event} (stepped : step pool settings period state event = some next)
    (keeps : event.KeepsFiles) (settled : Settled settings files client state) :
    Settled settings files client next := by
  obtain ⟨same_files, same_seen⟩ := step_seen stepped keeps ⟨settled.files, settled.seen⟩
  refine ⟨same_files, same_seen, ?_, ?_⟩
  · cases step_cases stepped with
    | replace changed loads => exact absurd keeps id
    | look here =>
      unfold look
      split_ifs <;> exact settled.current
    | build here => exact (build_files state _).2.2.trans settled.current
    | write here => exact absurd ⟨_, List.mem_of_getElem? here, Or.inr rfl⟩ (settled.quiet _)
    | begin_call | read here | wait time => exact settled.current
  · cases step_cases stepped with
    | replace changed loads => exact absurd keeps id
    | wait time => exact settled.quiet
    | begin_call =>
      rintro other ⟨phase, member, coming⟩
      rcases List.mem_append.mp member with known | new
      · exact settled.quiet other ⟨phase, known, coming⟩
      · obtain rfl := List.mem_singleton.mp new
        rcases coming with impossible | impossible <;> cases impossible
    | look here =>
      unfold look
      split_ifs with early
      · exact quiet_set settled.quiet _ (by simp)
      · -- The stamps are the recorded ones, so the call does not build.
        have unchanged : stamps settings state.files = state.seen := by rw [settled.seen, settled.files]
        dsimp only
        rw [if_neg (by simpa using unchanged)]
        exact quiet_set settled.quiet _ (by simp)
    | build here => exact absurd ⟨_, List.mem_of_getElem? here, Or.inl rfl⟩ (settled.quiet state.current)
    | write here | read here => exact quiet_set settled.quiet _ (by simp)

/-! ### Runs -/

/-- The pool is that of the present files, their stamps are the recorded ones,
    and no call has begun. -/
structure Fresh (pool : ClientConfig → FileSystem → Option Client) (settings : ClientConfig) (state : State Client) :
    Prop where
  current : pool settings state.files = some state.current
  seen : state.seen = stamps settings state.files
  idle : state.calls = []

/-- A look of the call in this state looks at the files: it has begun, and the
    period is over. -/
def Polls (period : Nat) (state : State Client) (call : Nat) : Prop :=
  state.calls[call]? = some .begun ∧ period ≤ state.clock - state.looked_at

def Phase.is_returned : Phase Client → Bool
  | .returned _ => true
  | _ => false

instance (period : Nat) [DecidableEq Client] (state : State Client) (call : Nat) : Decidable (Polls period state call) :=
  inferInstanceAs (Decidable (_ ∧ _))

def AllReturned (state : State Client) : Prop := ∀ phase ∈ state.calls, phase.is_returned = true

instance (state : State Client) : Decidable (AllReturned state) := inferInstanceAs (Decidable (∀ phase ∈ _, _))

theorem returned_quiet (returned : AllReturned state) (client : Client) : ¬Pending state.calls client := by
  rintro ⟨phase, member, coming⟩
  have done := returned phase member
  rcases coming with rfl | rfl <;> cases done

/-- Files that load stay such: whatever replaces them loads. -/
theorem step_loads {event : Event} (stepped : step pool settings period state event = some next)
    (loads : (pool settings state.files).isSome) : (pool settings next.files).isSome := by
  by_cases keeps : event.KeepsFiles
  · rwa [step_files stepped keeps]
  · cases step_cases stepped with
    | replace changed replaced_load => exact replaced_load
    | begin_call | look here | build here | write here | read here | wait time => exact absurd trivial keeps

/-- An orderly run settles on the pool of the final files, once a call has looked
    at them. -/
theorem run_settles {start stopped polling looked returned later : State Client} {changing early late after : List Event}
    {caller : Nat} (fresh : Fresh pool settings start)
    (changed : run (step pool settings period) start changing = some stopped)
    (waited : run (step pool settings period) stopped early = some polling) (polls : Polls period polling caller)
    (looks : step pool settings period polling (.look caller) = some looked)
    (finished : run (step pool settings period) looked late = some returned)
    (keeps : ∀ event ∈ early ++ late, event.KeepsFiles) (all_returned : AllReturned returned)
    (orderly : Meets (step pool settings period) (Orderly pool settings) start (changing ++ (early ++ .look caller :: late)))
    (goes_on : run (step pool settings period) returned after = some later)
    (keeps_after : ∀ event ∈ after, event.KeepsFiles) :
    ∃ client, pool settings stopped.files = some client ∧ Settled settings stopped.files client later := by
  have keeps_early : ∀ event ∈ early, event.KeepsFiles := fun event member => keeps event (List.mem_append_left _ member)
  have keeps_late : ∀ event ∈ late, event.KeepsFiles := fun event member => keeps event (List.mem_append_right _ member)
  have whole : run (step pool settings period) stopped (early ++ .look caller :: late) = some returned := by
    rw [run_append, waited, Option.bind_some, run_cons]
    exact ⟨looked, looks, finished⟩
  -- The final files load, and their pool is there or to come.
  obtain ⟨orderly_changing, orderly_waiting⟩ := meets_append orderly changed
  have loads : (pool settings stopped.files).isSome :=
    run_invariant (fun state => (pool settings state.files).isSome) (fun stepped _ => step_loads stepped) changed
      (meets_of_forall fun _ _ => trivial) (by rw [fresh.current]; rfl)
  obtain ⟨client, built⟩ := Option.isSome_iff_exists.mp loads
  have covered : PoolCovered pool settings stopped :=
    run_invariant (PoolCovered pool settings) step_covered changed orderly_changing (covered_built fresh.current)
  have covered_returned : PoolCovered pool settings returned :=
    run_invariant (PoolCovered pool settings) step_covered whole orderly_waiting covered
  -- From the look on, the recorded stamps are those of the final files.
  have files_polling : polling.files = stopped.files :=
    run_invariant (fun state => state.files = stopped.files)
      (fun stepped keeps same => (step_files stepped keeps).trans same) waited (meets_of_forall keeps_early) rfl
  have seen_looked : looked.files = stopped.files ∧ looked.seen = stamps settings stopped.files := by
    simp only [step, polls.1] at looks
    cases looks
    rw [look_files, look_elapsed polls.2, files_polling]
    exact ⟨rfl, rfl⟩
  obtain ⟨files, seen⟩ : returned.files = stopped.files ∧ returned.seen = stamps settings stopped.files :=
    run_invariant (fun state => state.files = stopped.files ∧ state.seen = stamps settings stopped.files) step_seen
      finished (meets_of_forall keeps_late) seen_looked
  have current : returned.current = client :=
    Covered.settled covered_returned (by rw [files, seen]) (returned_quiet all_returned) (by rw [files, built])
  exact ⟨client, built, run_invariant (Settled settings stopped.files client) step_settled goes_on
    (meets_of_forall keeps_after) ⟨files, seen, current, returned_quiet all_returned⟩⟩

/-- In an orderly run from a fresh pool: once the replacements have stopped, a
    call has looked at the files after the period, and every call has returned,
    the pool in place is that of the final files, and stays so in every later
    state. -/
theorem pool_follows_files {start stopped polling looked returned later : State Client}
    {changing early late after : List Event} {caller : Nat} (fresh : Fresh pool settings start)
    (changed : run (step pool settings period) start changing = some stopped)
    (waited : run (step pool settings period) stopped early = some polling) (polls : Polls period polling caller)
    (looks : step pool settings period polling (.look caller) = some looked)
    (finished : run (step pool settings period) looked late = some returned)
    (keeps : ∀ event ∈ early ++ late, event.KeepsFiles) (all_returned : AllReturned returned)
    (orderly : Meets (step pool settings period) (Orderly pool settings) start (changing ++ (early ++ .look caller :: late)))
    (goes_on : run (step pool settings period) returned after = some later)
    (keeps_after : ∀ event ∈ after, event.KeepsFiles) :
    later.files = stopped.files ∧ pool settings stopped.files = some later.current := by
  obtain ⟨client, built, settled⟩ :=
    run_settles fresh changed waited polls looks finished keeps all_returned orderly goes_on keeps_after
  exact ⟨settled.files, by rw [settled.current, built]⟩

end

/-! A bundle that is replaced twice. The call that saw the first replacement
    builds its pool, and puts it in place only after another call has put the
    newer one there. -/

def bundle (version : Nat) : FileSystem := fun _ => some ⟨some version, some [UInt8.ofNat version]⟩

def verifying : ClientConfig := { verify := some (lit "ca.pem"), reload_seconds := some 1 }

/-- A pool, as what its bundle held. -/
def contents (settings : ClientConfig) (files : FileSystem) : Option Octets :=
  settings.verify.bind fun path => (files path).bind File.content

def freshPool : State Octets := ⟨0, bundle 0, [0], 0, stamps verifying (bundle 0), []⟩

theorem freshPool_fresh : Fresh contents verifying freshPool := ⟨rfl, rfl, rfl⟩

def slowRebuild : List Event :=
  [.replace (bundle 1), .wait 1, .begin_call, .look 0, .build 0,
    .replace (bundle 2), .wait 1, .begin_call, .look 1, .build 1, .write 1, .read 1,
    .write 0, .read 0,
    .wait 1, .begin_call]

theorem slow_rebuild_wins :
    Fresh contents verifying freshPool ∧
      (run (step contents verifying 1) freshPool slowRebuild).map (fun state => decide (Polls 1 state 2)) = some true ∧
      (run (step contents verifying 1) freshPool (slowRebuild ++ [.look 2, .read 2])).map
          (fun state => (state.calls, contents verifying state.files, state.current)) =
        some ([.returned [1], .returned [2], .returned [1]], some [2], [1]) :=
  ⟨freshPool_fresh, by decide +kernel, by decide +kernel⟩

/-- Two rebuilds that overlap, and put their pools in place in the order of their
    looks. -/
def overlapping : List Event :=
  [.replace (bundle 1), .wait 1, .begin_call, .look 0, .build 0, .replace (bundle 2), .wait 1, .begin_call] ++
    .look 1 :: [.build 1, .write 0, .write 1, .read 0, .read 1]

theorem overlapping_rebuilds_followed :
    ∃ last, run (step contents verifying 1) freshPool overlapping = some last ∧
      last.calls = [.returned [2], .returned [2]] ∧ contents verifying last.files = some [2] ∧ last.current = [2] := by
  obtain ⟨stopped, changed, files⟩ : ∃ stopped, run (step contents verifying 1) freshPool
      [.replace (bundle 1), .wait 1, .begin_call, .look 0, .build 0, .replace (bundle 2)] = some stopped ∧
      contents verifying stopped.files = some [2] := ⟨_, rfl, rfl⟩
  obtain ⟨polling, waited, polls⟩ : ∃ polling, run (step contents verifying 1) stopped [.wait 1, .begin_call] =
      some polling ∧ Polls 1 polling 1 := by
    cases changed
    exact ⟨_, rfl, rfl, by decide⟩
  obtain ⟨looked, looks⟩ : ∃ looked, step contents verifying 1 polling (.look 1) = some looked := by
    cases changed
    cases waited
    exact ⟨_, rfl⟩
  obtain ⟨last, finished, calls⟩ : ∃ last, run (step contents verifying 1) looked
      [.build 1, .write 0, .write 1, .read 0, .read 1] = some last ∧ last.calls = [.returned [2], .returned [2]] := by
    cases changed
    cases waited
    cases looks
    exact ⟨_, rfl, rfl⟩
  have orderly : Meets (step contents verifying 1) (Orderly contents verifying) freshPool overlapping := by
    decide +kernel
  have follows := pool_follows_files freshPool_fresh changed waited polls looks finished (by simp [Event.KeepsFiles])
    (by rw [AllReturned, calls]; decide) orderly
    (show run (step contents verifying 1) last [] = some last from rfl) (by simp)
  rw [files] at follows
  refine ⟨last, ?_, calls, by rw [follows.1, files], (Option.some.inj follows.2).symm⟩
  cases changed
  cases waited
  cases looks
  exact finished

end PoolReload
end SiphonHttp
