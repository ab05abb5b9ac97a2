import SiphonHttp.ClientFiles

/-!
A pool that is polled over a changing disk. A poll records the modification times
it finds before it knows whether the files load, so files that do not load are
not tried again until a modification time changes. As long as this does not
happen the pool is that of the files whenever they load (`pool_recovers`).
-/
namespace SiphonHttp.Recovery
open Text Config Runs Outbound ClientFiles

/-- When a poll is, and what it finds. -/
structure Found where
  now : Nat
  disk : Disk

/-- A pool between polls, what the last poll found, and what the last poll found
    at which the modification times were not those recorded before. -/
structure Watched (Client : Type) where
  pool : Pool Client
  found : Disk
  recorded : Disk

section
variable {Client : Type} (reqwest : Reqwest Client) (settings : ClientConfig)

/-- A call of `Pool::client` at which the period is over. Files that hold other
    octets than at the last poll have other modification times. -/
def step (state : Watched Client) (poll : Found) : Option (Watched Client) :=
  match state.pool.reload with
  | none => none
  | some reload =>
    if reload.period ≤ poll.now - reload.seen.1 ∧ Stamped settings state.found poll.disk then
      some {
        pool := (LastGood.client (load reqwest) state.pool ⟨poll.now, poll.disk.files, poll.disk.files⟩).1
        found := poll.disk
        recorded :=
          if PoolReload.stamps settings poll.disk.files = PoolReload.stamps settings state.recorded.files then
            state.recorded
          else poll.disk }
    else none

/-- The files load. -/
def Loads (disk : Disk) : Prop := (load reqwest settings disk.files).isSome = true

/-- The condition on a poll: if the modification times are the recorded ones and
    the files load, they loaded when these times were recorded. -/
def LoadedThen (state : Watched Client) (poll : Found) : Prop :=
  PoolReload.stamps settings poll.disk.files = PoolReload.stamps settings state.recorded.files →
    Loads reqwest settings poll.disk → Loads reqwest settings state.recorded

instance (disk : Disk) : Decidable (Loads reqwest settings disk) := inferInstanceAs (Decidable (_ = true))
instance (state : Watched Client) (poll : Found) : Decidable (LoadedThen reqwest settings state poll) :=
  inferInstanceAs (Decidable (_ → _ → _))

/-- The pool and its stamps agree with the files. -/
structure Agrees (state : Watched Client) : Prop where
  reload : ∃ period looked,
    state.pool.reload = some ⟨settings, period, looked, PoolReload.stamps settings state.found.files⟩
  current : load reqwest settings state.found.files = some state.pool.current
  recorded : state.recorded = state.found

/-- Between polls: the recorded times are those of files that hold what the last
    poll found, and if these files loaded then the pool is theirs. -/
structure Tracks (state : Watched Client) : Prop where
  reload : ∃ period looked,
    state.pool.reload = some ⟨settings, period, looked, PoolReload.stamps settings state.recorded.files⟩
  stamps : PoolReload.stamps settings state.found.files = PoolReload.stamps settings state.recorded.files
  octets : Alike settings state.recorded state.found
  built : ∀ client ∈ load reqwest settings state.recorded.files, state.pool.current = client

/-- The pool is that of the files that the last poll found, if they loaded. -/
def Current (state : Watched Client) : Prop :=
  ∀ client ∈ load reqwest settings state.found.files, state.pool.current = client

end

section
variable {Client : Type} {reqwest : Reqwest Client} {settings : ClientConfig}

/-- A pool that was built and stamped from the files as they are agrees with
    them. -/
theorem agrees_of {around : Surroundings Client} {disk : Disk} {built : Client} {seconds : Nat}
    (reloads : settings.reload_seconds = some seconds) (positive : 0 < seconds) (files : around.files = disk.files)
    (builds : load reqwest settings disk.files = some built) :
    Agrees reqwest settings ⟨Pool.of around settings built, disk, disk⟩ := by
  have pool : Pool.of around settings built =
      ⟨built, some ⟨settings, seconds, around.now, PoolReload.stamps settings disk.files⟩⟩ := by
    rw [Pool.of, reloads]
    dsimp only
    rw [if_pos positive, files]
  rw [pool]
  exact ⟨⟨seconds, around.now, rfl⟩, builds, rfl⟩

theorem Agrees.tracks {state : Watched Client} (agrees : Agrees reqwest settings state) :
    Tracks reqwest settings state := by
  obtain ⟨reload, current, recorded⟩ := agrees
  refine ⟨recorded ▸ reload, by rw [recorded], ?_, ?_⟩
  · rw [recorded]
    exact fun _ _ => rfl
  · intro client member
    rw [recorded, current] at member
    exact Option.some.inj member

/-- What a poll does, by whether the modification times are the recorded ones. -/
theorem step_cases {state next : Watched Client} {poll : Found} (tracks : Tracks reqwest settings state)
    (stepped : step reqwest settings state poll = some next) :
    Stamped settings state.found poll.disk ∧ next.found = poll.disk ∧ ∃ period, next.pool.reload =
        some ⟨settings, period, poll.now, PoolReload.stamps settings poll.disk.files⟩ ∧
      (PoolReload.stamps settings poll.disk.files = PoolReload.stamps settings state.recorded.files ∧
          next.recorded = state.recorded ∧ next.pool.current = state.pool.current ∨
        next.recorded = poll.disk ∧
          next.pool.current = (load reqwest settings poll.disk.files).getD state.pool.current) := by
  obtain ⟨period, looked, reloads⟩ := tracks.reload
  unfold step at stepped
  rw [reloads] at stepped
  dsimp only at stepped
  split_ifs at stepped with polls unchanged
  · cases stepped
    refine ⟨polls.2, rfl, period, ?_, Or.inl ⟨unchanged, rfl, ?_⟩⟩
    · rw [client_elapsed reloads polls.1]
    · rw [client_elapsed reloads polls.1]
      exact if_pos unchanged
  · cases stepped
    refine ⟨polls.2, rfl, period, ?_, Or.inr ⟨rfl, ?_⟩⟩
    · rw [client_elapsed reloads polls.1]
    · rw [client_elapsed reloads polls.1]
      exact if_neg unchanged

/-- What one poll preserves, and what holds after it. -/
theorem step_tracks {state next : Watched Client} {poll : Found} (tracks : Tracks reqwest settings state)
    (loaded : LoadedThen reqwest settings state poll) (stepped : step reqwest settings state poll = some next) :
    Tracks reqwest settings next ∧ Current reqwest settings next := by
  obtain ⟨stamped, found, period, reload, ⟨unchanged, recorded, current⟩ | ⟨recorded, current⟩⟩ :=
    step_cases tracks stepped
  · have since : Alike settings state.found poll.disk := alike_of_stamps stamped (tracks.stamps.trans unchanged.symm)
    have octets : Alike settings state.recorded poll.disk :=
      fun path named => (tracks.octets path named).trans (since path named)
    constructor
    · refine ⟨⟨period, poll.now, ?_⟩, ?_, ?_, ?_⟩
      · rw [reload, recorded, unchanged]
      · rw [found, recorded, unchanged]
      · rw [recorded, found]
        exact octets
      · rw [recorded, current]
        exact tracks.built
    · intro client member
      rw [found] at member
      -- What was recorded loaded, and held the same octets.
      obtain ⟨earlier, built⟩ := Option.isSome_iff_exists.mp (loaded unchanged (Option.isSome_of_mem member))
      rw [current, tracks.built earlier built]
      exact load_alike octets built member
  · have built : ∀ client ∈ load reqwest settings poll.disk.files, next.pool.current = client := by
      intro client member
      rw [current, member]
      rfl
    constructor
    · refine ⟨⟨period, poll.now, ?_⟩, by rw [found, recorded], ?_, ?_⟩
      · rw [reload, recorded]
      · rw [recorded, found]
        exact fun _ _ => rfl
      · rw [recorded]
        exact built
    · rw [Current, found]
      exact built

/-- In a run of polls each of which finds files that load, at recorded
    modification times, only if they loaded when these were recorded: after every
    poll at which the files load the pool is theirs. -/
theorem pool_recovers {start last : Watched Client} {polls : List Found} (agrees : Agrees reqwest settings start)
    (ran : run (step reqwest settings) start polls = some last)
    (meets : Meets (step reqwest settings) (LoadedThen reqwest settings) start polls) :
    ∀ client, load reqwest settings last.found.files = some client → last.pool.current = client := by
  have initially : Tracks reqwest settings start ∧ Current reqwest settings start := by
    refine ⟨agrees.tracks, ?_⟩
    intro client member
    rw [agrees.current] at member
    exact Option.some.inj member
  have at_end : Tracks reqwest settings last ∧ Current reqwest settings last :=
    run_invariant (fun state => Tracks reqwest settings state ∧ Current reqwest settings state)
      (fun stepped loaded both => step_tracks both.1 loaded stepped) ran meets initially
  exact at_end.2

end

/-! A bundle is replaced by one that may not be read at first. -/

/-- A disk with one file. -/
def bundle (version : Nat) (readable : Bool) : Disk :=
  fun path => if path = lit "ca.pem" then some ⟨some version, [UInt8.ofNat version], readable⟩ else none

def watched : Watched (Builder Octets Octets) :=
  ⟨⟨trusts 0, some ⟨PoolReload.verifying, 1, 0, [some 0, none, none]⟩⟩, bundle 0 true, bundle 0 true⟩

theorem watched_agrees : Agrees transparent PoolReload.verifying watched :=
  ⟨⟨1, 0, by decide⟩, by decide, rfl⟩

theorem permission_not_noticed :
    Agrees transparent PoolReload.verifying watched ∧
      (run (step transparent PoolReload.verifying) watched [⟨1, bundle 1 false⟩, ⟨2, bundle 1 true⟩]).map
          (fun state => (state.pool.current, load transparent PoolReload.verifying state.found.files)) =
        some (trusts 0, some (trusts 1)) ∧ trusts 0 ≠ trusts 1 :=
  ⟨watched_agrees, by decide +kernel, by decide⟩

theorem replacement_followed :
    (run (step transparent PoolReload.verifying) watched [⟨1, bundle 1 false⟩, ⟨2, bundle 2 true⟩]).map
      (fun state => state.pool.current) = some (trusts 2) := by
  cases ran : run (step transparent PoolReload.verifying) watched [⟨1, bundle 1 false⟩, ⟨2, bundle 2 true⟩] with
  | none => exact absurd (congrArg Option.isSome ran) (by decide +kernel)
  | some last =>
    have meets : Meets (step transparent PoolReload.verifying) (LoadedThen transparent PoolReload.verifying) watched
        [⟨1, bundle 1 false⟩, ⟨2, bundle 2 true⟩] := by decide +kernel
    have loads : load transparent PoolReload.verifying last.found.files = some (trusts 2) := by
      have found := congrArg (Option.map fun state => load transparent PoolReload.verifying state.found.files) ran
      exact Option.some.inj (found.symm.trans (by decide +kernel))
    exact congrArg some (pool_recovers watched_agrees ran meets (trusts 2) loads)

end SiphonHttp.Recovery
