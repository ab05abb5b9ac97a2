import SiphonHttp.ClientFiles

/-!
How `HttpClient::pooled` makes a pool that is reloaded, while its TLS files are
replaced. The files are read first and their modification times taken after that,
the other way round than in a later call of `Pool::client`, so a replacement in
between is recorded as seen without having been read (`replaced_before_stamps`).
-/
namespace SiphonHttp.Creation
open Text Config Runs Watch Outbound ClientFiles

/-- The TLS files of a client, in the order in which they are read and looked
    at. -/
def tls_files (settings : ClientConfig) : List (Option Text) := [settings.verify, settings.cert, settings.key]

def content (files : FileSystem) (path : Option Text) : Option Octets :=
  path.bind fun path => (files path).bind File.content

def modified (files : FileSystem) (path : Option Text) : Option Nat :=
  path.bind fun path => (files path).bind File.modified

/-- Where `pooled` stands, and then the pool in the registry. Nothing depends on
    what is read of a file that `Client::pool` has no use for. -/
inductive Phase (Client : Type)
  | reading (so_far : List (Option Octets))
  | built (client : Client)
  | stamping (client : Client) (period since : Nat) (times : List (Option Nat))
  | pooled (pool : Pool Client)
  | failed (error : ClientError)

structure State (Client : Type) where
  clock : Nat
  files : FileSystem
  phase : Phase Client

/-- The client of the pool that was made. -/
def State.current {Client : Type} (state : State Client) : Option Client :=
  match state.phase with
  | .pooled pool => some pool.current
  | _ => none

/-- The steps of `pooled`, a call of `Pool::client` at which the period is over,
    and what happens around them. -/
inductive Event
  | read
  | build
  | now
  | stamp
  | insert
  | poll
  | replace (files : FileSystem)
  | wait (time : Nat)

section
variable {Client : Type} (reqwest : Reqwest Client) (settings : ClientConfig)

/-- A step that can be taken. A replacement of the files changes a modification
    time and leaves files that load. -/
def step (state : State Client) : Event → Option (State Client)
  | .read =>
    match state.phase with
    | .reading so_far =>
      (tls_files settings)[so_far.length]?.map fun path =>
        { state with phase := .reading (so_far ++ [content state.files path]) }
    | _ => none
  | .build =>
    match state.phase with
    | .reading [verify, cert, key] =>
      match pool reqwest settings ⟨verify, cert, key⟩ with
      | .ok client => some { state with phase := .built client }
      | .error error => some { state with phase := .failed error }
    | _ => none
  | .now =>
    match state.phase, settings.reload_seconds with
    | .built client, some seconds =>
      if 0 < seconds then some { state with phase := .stamping client seconds state.clock [] } else none
    | _, _ => none
  | .stamp =>
    match state.phase with
    | .stamping client period since times =>
      (tls_files settings)[times.length]?.map fun path =>
        { state with phase := .stamping client period since (times ++ [modified state.files path]) }
    | _ => none
  | .insert =>
    match state.phase with
    | .stamping client period since times =>
      if times.length = (tls_files settings).length then
        some { state with phase := .pooled ⟨client, some ⟨settings, period, (since, times)⟩⟩ }
      else none
    | _ => none
  | .poll =>
    match state.phase with
    | .pooled pool =>
      match pool.reload with
      | some reload =>
        if reload.period ≤ state.clock - reload.seen.1 then
          some { state with
            phase := .pooled (LastGood.client (load reqwest) pool ⟨state.clock, state.files, state.files⟩).1 }
        else none
      | none => none
    | _ => none
  | .replace files =>
    if PoolReload.stamps settings files ≠ PoolReload.stamps settings state.files ∧
        (load reqwest settings files).isSome then
      some { state with files := files }
    else none
  | .wait time => some { state with clock := state.clock + time }

/-- If the files have the recorded modification times, and load, then the pool
    is theirs. -/
def PoolCovered (files : FileSystem) (recorded : List (Option Nat)) (client : Client) : Prop :=
  Covered (PoolReload.stamps settings) (load reqwest settings) files recorded client fun _ => False

/-- The condition on a step. When a pool is inserted with the modification times
    of the files as they are, what was read for it is what they hold; and its
    files are not replaced by others with the recorded times, unless the pool is
    that of these too. -/
def Orderly (state : State Client) : Event → Prop
  | .insert =>
    match state.phase with
    | .stamping client _ _ times => PoolCovered reqwest settings state.files times client
    | _ => True
  | .replace files =>
    match state.phase with
    | .pooled pool => PoolCovered reqwest settings files (LastGood.recorded pool) pool.current
    | _ => True
  | _ => True

instance [DecidableEq Client] (state : State Client) (event : Event) :
    Decidable (Orderly reqwest settings state event) := by
  unfold Orderly PoolCovered
  split
  · split <;> infer_instance
  · split <;> infer_instance
  · infer_instance

/-- A pool that is reloaded for these settings. -/
def Reloads (pool : Pool Client) : Prop :=
  ∃ period seen, pool.reload = some ⟨settings, period, seen⟩

/-- What holds where `pooled` stands. Before a pool is built the files load, or
    they are still those that were read. -/
def Invariant (state : State Client) : Prop :=
  match state.phase with
  | .reading so_far =>
    (load reqwest settings state.files).isSome ∨
      so_far = ((tls_files settings).map (content state.files)).take so_far.length
  | .built _ | .stamping _ _ _ _ => (load reqwest settings state.files).isSome
  | .pooled pool =>
    (load reqwest settings state.files).isSome ∧ Reloads settings pool ∧
      PoolCovered reqwest settings state.files (LastGood.recorded pool) pool.current
  | .failed _ => True

/-- The pool is that of the files, and their modification times are recorded. -/
def Settled (files : FileSystem) (state : State Client) : Prop :=
  ∃ pool, state.phase = .pooled pool ∧ Reloads settings pool ∧ state.files = files ∧
    LastGood.recorded pool = PoolReload.stamps settings files ∧ load reqwest settings files = some pool.current

end

def Event.KeepsFiles : Event → Prop
  | .replace _ => False
  | _ => True

section
variable {Client : Type} {reqwest : Reqwest Client} {settings : ClientConfig} {state next : State Client}

/-- What one step does, event by event. -/
inductive Steps (reqwest : Reqwest Client) (settings : ClientConfig) (state : State Client) : Event → State Client → Prop
  | read {so_far : List (Option Octets)} {path : Option Text} (phase : state.phase = .reading so_far)
    (next_path : (tls_files settings)[so_far.length]? = some path) :
    Steps reqwest settings state .read { state with phase := .reading (so_far ++ [content state.files path]) }
  | build {verify cert key : Option Octets} {client : Client} (phase : state.phase = .reading [verify, cert, key])
    (made : pool reqwest settings ⟨verify, cert, key⟩ = .ok client) :
    Steps reqwest settings state .build { state with phase := .built client }
  | build_fails {verify cert key : Option Octets} {error : ClientError}
    (phase : state.phase = .reading [verify, cert, key])
    (made : pool reqwest settings ⟨verify, cert, key⟩ = .error error) :
    Steps reqwest settings state .build { state with phase := .failed error }
  | now {client : Client} {seconds : Nat} (phase : state.phase = .built client)
    (reloads : settings.reload_seconds = some seconds) (positive : 0 < seconds) :
    Steps reqwest settings state .now { state with phase := .stamping client seconds state.clock [] }
  | stamp {client : Client} {period since : Nat} {times : List (Option Nat)} {path : Option Text}
    (phase : state.phase = .stamping client period since times)
    (next_path : (tls_files settings)[times.length]? = some path) :
    Steps reqwest settings state .stamp
      { state with phase := .stamping client period since (times ++ [modified state.files path]) }
  | insert {client : Client} {period since : Nat} {times : List (Option Nat)}
    (phase : state.phase = .stamping client period since times) (stamped : times.length = (tls_files settings).length) :
    Steps reqwest settings state .insert
      { state with phase := .pooled ⟨client, some ⟨settings, period, (since, times)⟩⟩ }
  | poll {pool : Pool Client} {reload : Reload} (phase : state.phase = .pooled pool)
    (reloads : pool.reload = some reload) (elapsed : reload.period ≤ state.clock - reload.seen.1) :
    Steps reqwest settings state .poll { state with
      phase := .pooled (LastGood.client (load reqwest) pool ⟨state.clock, state.files, state.files⟩).1 }
  | replace {files : FileSystem} (changed : PoolReload.stamps settings files ≠ PoolReload.stamps settings state.files)
    (loads : (load reqwest settings files).isSome) :
    Steps reqwest settings state (.replace files) { state with files := files }
  | wait (time : Nat) : Steps reqwest settings state (.wait time) { state with clock := state.clock + time }

theorem step_cases {event : Event} (stepped : step reqwest settings state event = some next) :
    Steps reqwest settings state event next := by
  cases event with
  | wait time =>
    obtain rfl := Option.some.inj stepped
    exact .wait time
  | replace files =>
    simp only [step] at stepped
    split_ifs at stepped with allowed
    obtain rfl := Option.some.inj stepped
    exact .replace allowed.1 allowed.2
  | read =>
    simp only [step] at stepped
    split at stepped
    · obtain ⟨path, next_path, rfl⟩ := Option.map_eq_some_iff.mp stepped
      exact .read ‹_› next_path
    · cases stepped
  | build =>
    simp only [step] at stepped
    split at stepped
    · split at stepped
      · obtain rfl := Option.some.inj stepped
        exact .build ‹_› ‹_›
      · obtain rfl := Option.some.inj stepped
        exact .build_fails ‹_› ‹_›
    · cases stepped
  | now =>
    simp only [step] at stepped
    split at stepped
    · split_ifs at stepped with positive
      obtain rfl := Option.some.inj stepped
      exact .now ‹_› ‹_› positive
    · cases stepped
  | stamp =>
    simp only [step] at stepped
    split at stepped
    · obtain ⟨path, next_path, rfl⟩ := Option.map_eq_some_iff.mp stepped
      exact .stamp ‹_› next_path
    · cases stepped
  | insert =>
    simp only [step] at stepped
    split at stepped
    · split_ifs at stepped with stamped
      obtain rfl := Option.some.inj stepped
      exact .insert ‹_› stamped
    · cases stepped
  | poll =>
    simp only [step] at stepped
    split at stepped
    · split at stepped
      · split_ifs at stepped with elapsed
        obtain rfl := Option.some.inj stepped
        exact .poll ‹_› ‹_› elapsed
      · cases stepped
    · cases stepped

/-- Of files that load, and are covered, a poll leaves their pool in place. -/
theorem settled_of_poll (stepped : step reqwest settings state .poll = some next)
    (holds : Invariant reqwest settings state) : Settled reqwest settings state.files next := by
  cases step_cases stepped with
  | @poll pool reload phase reloads elapsed =>
    unfold Invariant at holds
    rw [phase] at holds
    obtain ⟨loads, ⟨period, ⟨looked, recorded⟩, same⟩, covered⟩ := holds
    obtain rfl : reload = ⟨settings, period, (looked, recorded)⟩ := Option.some.inj (reloads.symm.trans same)
    obtain ⟨client, built⟩ := Option.isSome_iff_exists.mp loads
    rw [client_elapsed reloads elapsed]
    refine ⟨_, rfl, ⟨period, _, rfl⟩, rfl, rfl, ?_⟩
    dsimp only
    have same_recorded : LastGood.recorded pool = recorded := by rw [LastGood.recorded, reloads]; rfl
    rw [same_recorded] at covered
    split_ifs with unchanged
    · rw [covered.settled unchanged.symm (fun _ => id) built]
      exact built
    · rw [built]
      rfl

/-- Settled, a pool is covered. -/
theorem Settled.invariant {files : FileSystem} (settled : Settled reqwest settings files state) :
    Invariant reqwest settings state := by
  obtain ⟨clock, present, phase⟩ := state
  obtain ⟨pool, rfl, reloads, rfl, recorded, current⟩ := settled
  exact ⟨by rw [current]; rfl, reloads, covered_built current⟩

/-- One more file is read or stamped, as it is now. -/
theorem take_next {Item : Type} {paths : List (Option Text)} {so_far : List Item} {path : Option Text}
    (look : Option Text → Item) (next_path : paths[so_far.length]? = some path)
    (same : so_far = (paths.map look).take so_far.length) :
    so_far ++ [look path] = (paths.map look).take (so_far ++ [look path]).length := by
  have here : (paths.map look)[so_far.length]? = some (look path) := by
    rw [List.getElem?_map, next_path, Option.map_some]
  rw [List.length_append, List.length_singleton, List.take_add_one, here, ← same]
  rfl

/-- Files that were all read as they are. -/
theorem read_contents {files : FileSystem} {verify cert key : Option Octets}
    (same : [verify, cert, key] = ((tls_files settings).map (content files)).take [verify, cert, key].length) :
    (⟨verify, cert, key⟩ : Contents) = contents settings files := by
  simp only [tls_files, List.map_cons, List.map_nil, List.length_cons, List.length_nil] at same
  injection same with verify_read same
  injection same with cert_read same
  injection same with key_read
  rw [verify_read, cert_read, key_read]
  rfl

/-- What one step preserves. -/
theorem step_invariant {event : Event} (stepped : step reqwest settings state event = some next)
    (orderly : Orderly reqwest settings state event) (holds : Invariant reqwest settings state) :
    Invariant reqwest settings next := by
  cases step_cases stepped with
  | poll => exact (settled_of_poll stepped holds).invariant
  | wait time => exact holds
  | build_fails => trivial
  | replace changed loads =>
    unfold Invariant at holds ⊢
    unfold Orderly at orderly
    cases phase : state.phase with
    | reading so_far => exact Or.inl loads
    | built client => exact loads
    | stamping client period since times => exact loads
    | pooled pool =>
      rw [phase] at holds orderly
      exact ⟨loads, holds.2.1, orderly⟩
    | failed error => trivial
  | read phase next_path =>
    unfold Invariant at holds
    rw [phase] at holds
    exact holds.imp_right fun same => take_next (content state.files) next_path same
  | build phase made =>
    unfold Invariant at holds
    rw [phase] at holds
    rcases holds with loads | same
    · exact loads
    · -- The files are those that were read, and from these the pool was built.
      rw [read_contents same] at made
      exact Option.isSome_of_eq_some (load_eq_some.mpr made)
  | now phase =>
    unfold Invariant at holds
    rw [phase] at holds
    exact holds
  | stamp phase next_path =>
    unfold Invariant at holds
    rw [phase] at holds
    exact holds
  | @insert client period since times phase stamped =>
    unfold Invariant at holds
    unfold Orderly at orderly
    rw [phase] at holds orderly
    exact ⟨holds, ⟨period, (since, times), rfl⟩, orderly⟩

/-- Files that stay leave a settled pool settled. -/
theorem step_settled {files : FileSystem} {event : Event} (stepped : step reqwest settings state event = some next)
    (keeps : event.KeepsFiles) (settled : Settled reqwest settings files state) :
    Settled reqwest settings files next := by
  have same : state.files = files := settled.choose_spec.2.2.1
  cases event with
  | replace => exact absurd keeps id
  | poll => exact same ▸ settled_of_poll stepped settled.invariant
  | wait time =>
    obtain rfl := Option.some.inj stepped
    exact settled
  | read | build | now | stamp | insert =>
    -- These are steps of `pooled`, which is done.
    obtain ⟨clock, present, phase⟩ := state
    obtain ⟨pool, rfl, -⟩ := settled
    cases stepped

theorem run_settled {last : State Client} {after : List Event}
    (ran : run (step reqwest settings) state (.poll :: after) = some last)
    (holds : Invariant reqwest settings state) (keeps : ∀ event ∈ after, event.KeepsFiles) :
    ∃ pool, last.phase = .pooled pool ∧ load reqwest settings last.files = some pool.current := by
  obtain ⟨polled, poll, ran_after⟩ := run_cons.mp ran
  obtain ⟨pool, at_end, -, same, -, current⟩ :=
    run_invariant (Settled reqwest settings state.files) step_settled ran_after (meets_of_forall keeps)
      (settled_of_poll poll holds)
  exact ⟨pool, at_end, by rw [same, current]⟩

/-- In an orderly run of `pooled` and of polls, the first poll after the last
    replacement leaves the pool of the files in place, and it stays. -/
theorem new_pool_follows {last : State Client} {clock : Nat} {files : FileSystem} {before after : List Event}
    (ran : run (step reqwest settings) ⟨clock, files, .reading []⟩ (before ++ .poll :: after) = some last)
    (orderly : Meets (step reqwest settings) (Orderly reqwest settings) ⟨clock, files, .reading []⟩ before)
    (keeps : ∀ event ∈ after, event.KeepsFiles) :
    ∃ pool, last.phase = .pooled pool ∧ load reqwest settings last.files = some pool.current := by
  rw [run_append] at ran
  obtain ⟨polling, ran_before, rest⟩ := Option.bind_eq_some_iff.mp ran
  have covered : Invariant reqwest settings polling :=
    run_invariant (Invariant reqwest settings) step_invariant ran_before orderly (Or.inr rfl)
  exact run_settled rest covered keeps

/-- When nothing is replaced, the pool is the one that `pooled` makes of the
    files in one go. -/
theorem undisturbed {clock : Nat} {files : FileSystem} {seconds : Nat} {client : Client}
    (reloads : settings.reload_seconds = some seconds) (positive : 0 < seconds)
    (builds : pool reqwest settings (contents settings files) = .ok client) (named : Text → Option ClientConfig) :
    run (step reqwest settings) ⟨clock, files, .reading []⟩
        [.read, .read, .read, .build, .now, .stamp, .stamp, .stamp, .insert] =
      some ⟨clock, files, .pooled
        (Pool.of ⟨clock, files, named, fun settings => pool reqwest settings (contents settings files)⟩ settings
          client)⟩ := by
  have build : step reqwest settings ⟨clock, files, .reading ((tls_files settings).map (content files))⟩ .build =
      some ⟨clock, files, .built client⟩ := by
    simp only [step, tls_files, List.map_cons, List.map_nil]
    rw [show pool reqwest settings
      ⟨content files settings.verify, content files settings.cert, content files settings.key⟩ = .ok client from builds]
  have now : step reqwest settings ⟨clock, files, .built client⟩ .now =
      some ⟨clock, files, .stamping client seconds clock []⟩ := by
    simp only [step, reloads, if_pos positive]
  have reads : run (step reqwest settings) ⟨clock, files, .reading []⟩ [.read, .read, .read] =
      some ⟨clock, files, .reading ((tls_files settings).map (content files))⟩ := rfl
  have stamps : run (step reqwest settings) ⟨clock, files, .stamping client seconds clock []⟩
      [.stamp, .stamp, .stamp, .insert] =
      some ⟨clock, files, .pooled ⟨client, some ⟨settings, seconds, (clock, PoolReload.stamps settings files)⟩⟩⟩ := rfl
  change run _ _ ([Event.read, .read, .read] ++ Event.build :: .now :: [.stamp, .stamp, .stamp, .insert]) = _
  rw [run_append, reads, Option.bind_some, run, build, Option.bind_some, run, now, Option.bind_some, stamps, Pool.of,
    reloads]
  dsimp only
  rw [if_pos positive]

end

/-! A bundle is replaced after it was read, and before its modification time is
taken; and once more, before the pool is inserted. -/

open PoolReload (bundle verifying)

theorem replaced_before_stamps :
    (run (step transparent verifying) ⟨0, bundle 0, .reading []⟩
        [.read, .read, .read, .build, .replace (bundle 1), .now, .stamp, .stamp, .stamp, .insert, .wait 1, .poll]).map
      (fun state => (state.current, load transparent verifying state.files)) =
        some (some (trusts 0), some (trusts 1)) ∧ trusts 0 ≠ trusts 1 :=
  ⟨by decide +kernel, by decide⟩

def replacedTwice : List Event :=
  [.read, .replace (bundle 1), .read, .read, .build, .now, .stamp, .stamp, .stamp, .replace (bundle 2), .insert,
    .wait 1]

theorem replaced_twice_followed :
    (run (step transparent verifying) ⟨0, bundle 0, .reading []⟩ (replacedTwice ++ [.poll])).map State.current =
      some (some (trusts 2)) := by
  cases ran : run (step transparent verifying) ⟨0, bundle 0, .reading []⟩ (replacedTwice ++ [.poll]) with
  | none => exact absurd (congrArg Option.isSome ran) (by decide +kernel)
  | some last =>
    have orderly : Meets (step transparent verifying) (Orderly transparent verifying) ⟨0, bundle 0, .reading []⟩
        replacedTwice := by decide +kernel
    obtain ⟨pool, at_end, current⟩ := new_pool_follows ran orderly (by simp)
    have loads : load transparent verifying last.files = some (trusts 2) := by
      have found := congrArg (Option.map fun state => load transparent verifying state.files) ran
      exact Option.some.inj (found.symm.trans (by decide +kernel))
    rw [loads] at current
    rw [Option.map_some, State.current, at_end, Option.some.inj current]

end SiphonHttp.Creation
