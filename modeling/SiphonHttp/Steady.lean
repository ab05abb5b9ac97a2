import SiphonHttp.Creation
import SiphonHttp.ListenerReload

/-!
Replacements that are followed, told from the events alone. No modification time
is put back, and the calls of a pool put it in place in the order of their looks
(`ordered_pool_follows`), nothing is replaced between binding a listener and
serving it (`unreplaced_listener_follows`), or between the first read of a new
pool and its last stamp (`stamped_as_read_follows`).
-/
namespace SiphonHttp
open Runs Watch

/-! ### A pool that is built again -/

namespace PoolReload
open Config

def Event.replaced : Event → Option FileSystem
  | .replace files => some files
  | _ => none

/-- No times are put back, and of two calls the one that looked first puts its
    pool in place first. -/
structure Ordered (settings : ClientConfig) (files : FileSystem) (events : List Event) : Prop where
  once : (stamps_over (stamps settings) Event.replaced files events).Nodup
  in_order : ∀ first second, [Event.look first, .look second].Sublist events →
    ¬[Event.write second, .write first].Sublist events

theorem Ordered.shorter {settings : ClientConfig} {files : FileSystem} {events : List Event} {event : Event}
    (ordered : Ordered settings files (events ++ [event])) : Ordered settings files events where
  once := stamps_over_shorter ordered.once
  in_order first second looked wrote :=
    ordered.in_order first second (looked.trans (List.sublist_append_left ..)) (wrote.trans (List.sublist_append_left ..))

section
variable {Client : Type}

/-- The call is to build a pool or to put it in place. -/
def Phase.Rebuilds : Phase Client → Prop
  | .build | .write _ => True
  | _ => False

def Phase.Past : Phase Client → Prop
  | .read | .returned _ => True
  | _ => False

variable (pool : ClientConfig → FileSystem → Option Client) (settings : ClientConfig) (events : List Event)
  (state : State Client)

/-- The call was the last to see other stamps: any other that still builds looked
    before it, and it builds the pool of the files as they are, or did so. -/
structure Latest (latest : Nat) : Prop where
  others : ∀ {call phase}, state.calls[call]? = some phase → phase.Rebuilds →
    call = latest ∨ [Event.look call, .look latest].Sublist events
  here : state.calls[latest]? = some .build ∨
    (∃ client ∈ pool settings state.files, state.calls[latest]? = some (.write client)) ∨
    Event.write latest ∈ events ∧ ∃ phase, state.calls[latest]? = some phase ∧ phase.Past

/-- What is known behind the events of a run. -/
structure Known (files : FileSystem) : Prop where
  loads : (pool settings state.files).isSome
  present : stamps settings state.files ∈ stamps_over (stamps settings) Event.replaced files events
  seen : state.seen ∈ stamps_over (stamps settings) Event.replaced files events
  looked : ∀ {call phase}, state.calls[call]? = some phase → phase.Rebuilds → Event.look call ∈ events
  latest : state.seen = stamps settings state.files →
    (∀ {call : Nat} {phase : Phase Client}, state.calls[call]? = some phase → ¬phase.Rebuilds) ∨
      ∃ latest, Latest pool settings events state latest

end

section
variable {Client : Type} {pool : ClientConfig → FileSystem → Option Client} {settings : ClientConfig} {period : Nat}
  {events : List Event} {event : Event} {state next : State Client} {files : FileSystem} {call : Nat}
  {before after : Phase Client}

/-- A call goes on, and none begins to build. -/
theorem Known.moves (known : Known pool settings events state files) (kept : event.replaced = none)
    (here : state.calls[call]? = some before) (same_files : next.files = state.files) (same_seen : next.seen = state.seen)
    (calls : next.calls = state.calls.set call after) (rebuilds : after.Rebuilds → before.Rebuilds)
    (settles : before = .begun ∨ (∃ client ∈ pool settings state.files, after = .write client) ∨
      after.Past ∧ (before.Past ∨ Event.write call ∈ events ++ [event])) :
    Known pool settings (events ++ [event]) next files := by
  obtain ⟨inside, -⟩ := List.getElem?_eq_some_iff.mp here
  -- A call that builds now was building before.
  have was : ∀ {other : Nat} {phase : Phase Client}, next.calls[other]? = some phase → phase.Rebuilds →
      ∃ phase, state.calls[other]? = some phase ∧ phase.Rebuilds := by
    intro other phase there building
    rw [calls] at there
    by_cases same : call = other
    · subst same
      rw [List.getElem?_set_self inside] at there
      cases there
      exact ⟨before, here, rebuilds building⟩
    · rw [List.getElem?_set_ne same] at there
      exact ⟨phase, there, building⟩
  refine ⟨same_files ▸ known.loads, ?_, ?_, ?_, ?_⟩
  · rw [same_files, stamps_over_kept kept]
    exact known.present
  · rw [same_seen, stamps_over_kept kept]
    exact known.seen
  · intro other phase there building
    obtain ⟨earlier, was_there, was_building⟩ := was there building
    exact List.mem_append_left _ (known.looked was_there was_building)
  · intro same
    rw [same_seen, same_files] at same
    rcases known.latest same with quiet | ⟨latest, others, stands⟩
    · left
      intro other phase there building
      obtain ⟨earlier, was_there, was_building⟩ := was there building
      exact quiet was_there was_building
    · right
      refine ⟨latest, ?_, ?_⟩
      · intro other phase there building
        obtain ⟨earlier, was_there, was_building⟩ := was there building
        exact (others was_there was_building).imp_right fun order => order.trans (List.sublist_append_left ..)
      rw [calls, same_files]
      by_cases same_call : call = latest
      · subst same_call
        rw [here] at stands
        rw [List.getElem?_set_self inside]
        rcases settles with rfl | ⟨client, built, rfl⟩ | ⟨past, was_past | wrote⟩
        · rcases stands with building | ⟨client, -, writing⟩ | ⟨-, phase, same, past⟩
          · cases building
          · cases writing
          · cases same
            exact past.elim
        · exact Or.inr (Or.inl ⟨client, built, rfl⟩)
        · rcases stands with building | ⟨client, -, writing⟩ | ⟨wrote, -⟩
          · cases building
            exact was_past.elim
          · cases writing
            exact was_past.elim
          · exact Or.inr (Or.inr ⟨List.mem_append_left _ wrote, after, rfl, past⟩)
        · exact Or.inr (Or.inr ⟨wrote, after, rfl, past⟩)
      · rw [List.getElem?_set_ne same_call]
        exact stands.imp_right fun later => later.imp_right fun past => ⟨List.mem_append_left _ past.1, past.2⟩

theorem look_known (known : Known pool settings events state files) (here : state.calls[call]? = some .begun) :
    Known pool settings (events ++ [.look call]) (look settings period state call) files := by
  obtain ⟨inside, -⟩ := List.getElem?_eq_some_iff.mp here
  unfold look
  split_ifs with early
  · exact known.moves rfl here rfl rfl rfl id (Or.inl rfl)
  · dsimp only
    by_cases changed : stamps settings state.files = state.seen
    · rw [if_neg (by simpa using changed)]
      exact known.moves rfl here rfl changed rfl id (Or.inl rfl)
    · rw [if_pos changed]
      refine ⟨known.loads, ?_, ?_, ?_, ?_⟩
      · rw [stamps_over_kept rfl]
        exact known.present
      · rw [stamps_over_kept rfl]
        exact known.present
      · intro other phase there building
        by_cases same : call = other
        · subst same
          exact List.mem_append_right _ (List.mem_singleton_self _)
        · rw [List.getElem?_set_ne same] at there
          exact List.mem_append_left _ (known.looked there building)
      · intro _
        -- The call is the last that saw the stamps changed.
        refine Or.inr ⟨call, ?_, Or.inl (List.getElem?_set_self inside)⟩
        intro other phase there building
        by_cases same : call = other
        · exact Or.inl same.symm
        · rw [List.getElem?_set_ne same] at there
          exact Or.inr ((List.singleton_sublist.mpr (known.looked there building)).append (List.Sublist.refl _))

theorem build_known (known : Known pool settings events state files) (here : state.calls[call]? = some .build) :
    Known pool settings (events ++ [.build call]) (build pool settings state call) files := by
  obtain ⟨client, built⟩ := Option.isSome_iff_exists.mp known.loads
  unfold build
  rw [built]
  exact known.moves rfl here rfl rfl rfl id (Or.inr (Or.inl ⟨client, built, rfl⟩))

theorem begin_known (known : Known pool settings events state files) :
    Known pool settings (events ++ [.begin_call]) { state with calls := state.calls ++ [.begun] } files := by
  have was : ∀ {other : Nat} {phase : Phase Client}, (state.calls ++ [Phase.begun])[other]? = some phase →
      phase.Rebuilds → state.calls[other]? = some phase := by
    intro other phase there building
    by_cases inside : other < state.calls.length
    · rwa [List.getElem?_append_left inside] at there
    · rw [List.getElem?_append_right (Nat.le_of_not_lt inside)] at there
      rw [List.mem_singleton.mp (List.mem_of_getElem? there)] at building
      exact building.elim
  have still : ∀ {other : Nat} {phase : Phase Client}, state.calls[other]? = some phase →
      (state.calls ++ [Phase.begun])[other]? = some phase := by
    intro other phase there
    obtain ⟨inside, -⟩ := List.getElem?_eq_some_iff.mp there
    rwa [List.getElem?_append_left inside]
  refine ⟨known.loads, ?_, ?_, ?_, ?_⟩
  · rw [stamps_over_kept rfl]
    exact known.present
  · rw [stamps_over_kept rfl]
    exact known.seen
  · intro other phase there building
    exact List.mem_append_left _ (known.looked (was there building) building)
  · intro same
    rcases known.latest same with quiet | ⟨latest, others, stands⟩
    · exact Or.inl fun there building => quiet (was there building) building
    · refine Or.inr ⟨latest, ?_, ?_⟩
      · intro other phase there building
        exact (others (was there building) building).imp_right fun order => order.trans (List.sublist_append_left ..)
      · rcases stands with building | ⟨client, built, writing⟩ | ⟨wrote, phase, there, past⟩
        · exact Or.inl (still building)
        · exact Or.inr (Or.inl ⟨client, built, still writing⟩)
        · exact Or.inr (Or.inr ⟨List.mem_append_left _ wrote, phase, still there, past⟩)

/-- What one step preserves, of an ordered run. -/
theorem step_known (ordered : Ordered settings files (events ++ [event]))
    (stepped : step pool settings period state event = some next) (known : Known pool settings events state files) :
    Known pool settings (events ++ [event]) next files := by
  cases step_cases stepped with
  | begin_call => exact begin_known known
  | look here => exact look_known known here
  | build here => exact build_known known here
  | write here =>
    exact known.moves rfl here rfl rfl rfl nofun
      (Or.inr (Or.inr ⟨trivial, Or.inr (List.mem_append_right _ (List.mem_singleton_self _))⟩))
  | read here => exact known.moves rfl here rfl rfl rfl nofun (Or.inr (Or.inr ⟨trivial, Or.inl trivial⟩))
  | wait time =>
    refine ⟨known.loads, ?_, ?_, fun there building => List.mem_append_left _ (known.looked there building), ?_⟩
    · rw [stamps_over_kept rfl]
      exact known.present
    · rw [stamps_over_kept rfl]
      exact known.seen
    · intro same
      refine (known.latest same).imp_right fun ⟨latest, others, stands⟩ => ⟨latest, ?_, ?_⟩
      · exact fun there building =>
          (others there building).imp_right fun order => order.trans (List.sublist_append_left ..)
      · exact stands.imp_right fun later => later.imp_right fun past => ⟨List.mem_append_left _ past.1, past.2⟩
  | @replace replaced changed loads =>
    have new := @new_stamp _ _ _ (stamps settings) Event.replaced files events _ replaced ordered.once rfl
    refine ⟨loads, ?_, stamps_over_mono known.seen _, ?_, ?_⟩
    · rw [stamps_over_replaced (show Event.replaced (.replace replaced) = some replaced from rfl)]
      exact List.mem_append_right _ (List.mem_singleton_self _)
    · intro other phase there building
      exact List.mem_append_left _ (known.looked there building)
    · intro same
      exact absurd known.seen (same ▸ new)

/-- Every step of an ordered run is orderly. -/
theorem step_orderly (ordered : Ordered settings files (events ++ [event]))
    (stepped : step pool settings period state event = some next) (known : Known pool settings events state files) :
    Orderly pool settings state event := by
  cases step_cases stepped with
  | begin_call | look here | build here | read here | wait time => trivial
  | @replace replaced changed loads =>
    intro same
    exact absurd known.seen (same ▸ new_stamp ordered.once rfl)
  | @write call client here =>
    intro same other built
    obtain ⟨inside, -⟩ := List.getElem?_eq_some_iff.mp here
    rcases known.latest same with quiet | ⟨latest, others, stands⟩
    · exact absurd trivial (quiet here)
    · by_cases this_one : call = latest
      · -- The latest call itself has the pool of the files.
        subst this_one
        left
        rcases stands with building | ⟨client', built', writing⟩ | ⟨-, phase, there, past⟩
        · rw [here] at building
          cases building
        · rw [writing, Option.mem_unique built built']
        · rw [here] at there
          cases there
          exact past.elim
      · -- Another one looked before the latest, so that has not written yet.
        right
        have pending : ∀ {phase : Phase Client}, state.calls[latest]? = some phase → phase = .build ∨ phase = .write other →
            Pending (state.calls.set call .read) other := by
          intro phase there coming
          refine ⟨phase, ?_, coming⟩
          exact List.mem_of_getElem? (by rw [List.getElem?_set_ne this_one]; exact there)
        rcases stands with building | ⟨client', built', writing⟩ | ⟨wrote, -⟩
        · exact pending building (Or.inl rfl)
        · obtain rfl : client' = other := Option.mem_unique built' built
          exact pending writing (Or.inr rfl)
        · have order := (others here trivial).resolve_left this_one
          refine absurd ((List.singleton_sublist.mpr wrote).append (List.Sublist.refl [Event.write call])) ?_
          exact ordered.in_order call latest (order.trans (List.sublist_append_left ..))

theorem ordered_orderly {start last : State Client} (fresh : Fresh pool settings start)
    (ran : run (step pool settings period) start events = some last) (ordered : Ordered settings start.files events) :
    Meets (step pool settings period) (Orderly pool settings) start events := by
  refine meets_of_history (fun events state => Known pool settings events state start.files) Ordered.shorter step_orderly
    step_known ran ordered ?_
  refine ⟨by rw [fresh.current]; rfl, List.mem_singleton_self _, ?_, ?_, ?_⟩
  · rw [fresh.seen]
    exact List.mem_singleton_self _
  · rw [fresh.idle]
    nofun
  · intro _
    rw [fresh.idle]
    exact Or.inl nofun

/-- Where no modification times are put back, and the calls put their pools in
    place in the order of their looks, the pool follows its files. -/
theorem ordered_pool_follows {start stopped polling looked returned later : State Client}
    {changing early late after : List Event} {caller : Nat} (fresh : Fresh pool settings start)
    (changed : run (step pool settings period) start changing = some stopped)
    (waited : run (step pool settings period) stopped early = some polling) (polls : Polls period polling caller)
    (looks : step pool settings period polling (.look caller) = some looked)
    (finished : run (step pool settings period) looked late = some returned)
    (keeps : ∀ event ∈ early ++ late, event.KeepsFiles) (all_returned : AllReturned returned)
    (ordered : Ordered settings start.files (changing ++ (early ++ .look caller :: late)))
    (goes_on : run (step pool settings period) returned after = some later)
    (keeps_after : ∀ event ∈ after, event.KeepsFiles) :
    later.files = stopped.files ∧ pool settings stopped.files = some later.current := by
  have whole : run (step pool settings period) start (changing ++ (early ++ .look caller :: late)) = some returned := by
    rw [run_append, changed, Option.bind_some, run_append, waited, Option.bind_some, run_cons]
    exact ⟨looked, looks, finished⟩
  obtain ⟨client, built, settled⟩ := run_settles fresh changed waited polls looks finished keeps all_returned
    (ordered_orderly fresh whole ordered) goes_on keeps_after
  exact ⟨settled.files, by rw [settled.current, built]⟩

end

example : Ordered verifying (bundle 0) overlapping := by
  refine ⟨by decide +kernel, fun first second looked wrote => ?_⟩
  have looks := (looked.filterMap fun event => match event with
    | .look call => some call
    | _ => none).eq_of_length rfl
  have writes := (wrote.filterMap fun event => match event with
    | .write call => some call
    | _ => none).eq_of_length rfl
  cases looks
  cases writes

end PoolReload

/-! ### A listener -/

namespace ListenerReload
open Config

def Event.replaced : Event → Option FileSystem
  | .replace files => some files
  | _ => none

/-- No times are put back, and nothing is replaced before the listener is
    served. -/
structure Unreplaced (tls : TlsConfig) (files : FileSystem) (events : List Event) : Prop where
  once : (stamps_over (listener_stamps tls) Event.replaced files events).Nodup
  before_serving : ∀ files, ¬[Event.replace files, .serve].Sublist events

theorem Unreplaced.shorter {tls : TlsConfig} {files : FileSystem} {events : List Event} {event : Event}
    (unreplaced : Unreplaced tls files (events ++ [event])) : Unreplaced tls files events where
  once := stamps_over_shorter unreplaced.once
  before_serving other replaced := unreplaced.before_serving other (replaced.trans (List.sublist_append_left ..))

/-- What is known behind the events of a run. -/
structure Known {ServerConfig : Type} (build_server_config : TlsConfig → FileSystem → Option ServerConfig)
    (tls : TlsConfig) (files : FileSystem) (events : List Event) (state : State ServerConfig) : Prop where
  present : listener_stamps tls state.files ∈ stamps_over (listener_stamps tls) Event.replaced files events
  seen : ∀ seen, state.task = .waiting seen ∨ state.task = .loading seen →
    seen ∈ stamps_over (listener_stamps tls) Event.replaced files events
  bound : state.task = .not_spawned → (∀ files, Event.replace files ∉ events) →
    build_server_config tls state.files = some state.config

section
variable {ServerConfig : Type} {build_server_config : TlsConfig → FileSystem → Option ServerConfig} {tls : TlsConfig}
  {files : FileSystem} {events : List Event} {event : Event} {state next : State ServerConfig}

/-- An event that replaces nothing leaves the stamps known, as long as the task
    has no others. -/
theorem Known.keeps (known : Known build_server_config tls files events state) (kept : event.replaced = none)
    (same_files : next.files = state.files)
    (seen : ∀ seen, next.task = .waiting seen ∨ next.task = .loading seen →
      seen = listener_stamps tls state.files ∨ state.task = .waiting seen ∨ state.task = .loading seen)
    (bound : next.task = .not_spawned → state.task = .not_spawned ∧ next.config = state.config) :
    Known build_server_config tls files (events ++ [event]) next := by
  refine ⟨?_, ?_, ?_⟩
  · rw [same_files, stamps_over_kept kept]
    exact known.present
  · intro stamps is_seen
    rw [stamps_over_kept kept]
    rcases seen stamps is_seen with rfl | earlier
    · exact known.present
    · exact known.seen stamps earlier
  · intro not_spawned none_replaced
    obtain ⟨was, config⟩ := bound not_spawned
    rw [same_files, config]
    exact known.bound was fun other member => none_replaced other (List.mem_append_left _ member)

theorem step_known (unreplaced : Unreplaced tls files (events ++ [event]))
    (stepped : step build_server_config tls state event = some next)
    (known : Known build_server_config tls files events state) :
    Known build_server_config tls files (events ++ [event]) next := by
  cases event with
  | hook =>
    simp only [step] at stepped
    split_ifs at stepped
    cases stepped
    exact known.keeps rfl rfl (fun _ seen => Or.inr seen) fun here => ⟨here, rfl⟩
  | serve =>
    simp only [step] at stepped
    split_ifs at stepped
    cases stepped
    refine known.keeps rfl rfl (fun seen here => ?_) fun here => by cases here
    rcases here with waiting | loading
    · cases waiting
      exact Or.inl rfl
    · cases loading
  | tick =>
    obtain ⟨seen, waiting, ⟨-, rfl⟩ | ⟨-, rfl⟩⟩ := tick_cases stepped
    · refine known.keeps rfl rfl (fun other here => Or.inr ?_) fun here => by cases here
      rw [waiting]
      exact here
    · refine known.keeps rfl rfl (fun other here => ?_) fun here => by cases here
      rcases here with impossible | now
      · cases impossible
      · cases now
        exact Or.inl rfl
  | load =>
    obtain ⟨seen, loading, ⟨-, same⟩ | ⟨-, rfl⟩⟩ := load_cases stepped
    · rw [same]
      refine known.keeps rfl rfl (fun other here => ?_) fun here => by cases here
      rcases here with waiting | impossible
      · cases waiting
        exact Or.inr (Or.inr loading)
      · cases impossible
    · refine known.keeps rfl rfl (fun other here => ?_) fun here => by cases here
      rcases here with waiting | impossible
      · cases waiting
        exact Or.inr (Or.inr loading)
      · cases impossible
  | replace replaced =>
    simp only [step] at stepped
    split_ifs at stepped
    cases stepped
    refine ⟨?_, fun seen here => stamps_over_mono (known.seen seen here) _, ?_⟩
    · rw [stamps_over_replaced (show Event.replaced (.replace replaced) = some replaced from rfl)]
      exact List.mem_append_right _ (List.mem_singleton_self _)
    · intro _ none_replaced
      exact absurd (List.mem_append_right _ (List.mem_singleton_self _)) (none_replaced replaced)

theorem step_watchful (unreplaced : Unreplaced tls files (events ++ [event]))
    (stepped : step build_server_config tls state event = some next)
    (known : Known build_server_config tls files events state) : Watchful build_server_config tls state event := by
  cases event with
  | hook | tick | load => trivial
  | serve =>
    simp only [step] at stepped
    split_ifs at stepped with not_spawned
    have built := known.bound not_spawned fun other member =>
      unreplaced.before_serving other ((List.singleton_sublist.mpr member).append (List.Sublist.refl _))
    intro config member
    exact Option.mem_unique built member
  | replace replaced =>
    intro seen recorded same
    have waiting : state.task = .waiting seen := by
      cases task : state.task with
      | waiting other =>
        rw [task] at recorded
        cases recorded
        rfl
      | not_spawned | loading =>
        rw [task] at recorded
        cases recorded
    exact absurd (known.seen seen (Or.inl waiting)) (same ▸ new_stamp unreplaced.once rfl)

/-- Where no modification times are put back, and nothing is replaced between
    binding and serving, the listener follows its files. -/
theorem unreplaced_listener_follows {bound before after : State ServerConfig}
    (binds : bind_listener build_server_config tls files = some bound) {last : Event}
    (ran : run (step build_server_config tls) bound events = some before)
    (stepped : step build_server_config tls before last = some after) (ends : EndsTick last after)
    (unreplaced : Unreplaced tls files events) :
    ∀ config ∈ build_server_config tls after.files, after.config = config := by
  have initially : Known build_server_config tls files [] bound := by
    obtain ⟨config, built, rfl⟩ := Option.map_eq_some_iff.mp binds
    refine ⟨List.mem_singleton_self _, ?_, fun _ _ => built⟩
    rintro seen (waiting | loading)
    · cases waiting
    · cases loading
  have watchful : Meets (step build_server_config tls) (Watchful build_server_config tls) bound events :=
    meets_of_history (Known build_server_config tls files) Unreplaced.shorter step_watchful step_known ran unreplaced
      initially
  have current : Current build_server_config tls before :=
    run_invariant (Current build_server_config tls) step_current ran watchful (bound_current binds)
  exact tick_follows current stepped ends

end

example : Unreplaced renewed (PoolReload.bundle 0) [.hook, .serve, .replace (PoolReload.bundle 1), .tick, .load] := by
  refine ⟨by decide +kernel, fun files replaced => ?_⟩
  have order := replaced.filterMap fun event => match event with
    | .serve => some false
    | .replace _ => some true
    | _ => none
  change [true, false].Sublist [false, true] at order
  exact absurd order (by decide)

end ListenerReload

/-! ### A new pool -/

namespace Creation
open Config Outbound ClientFiles

def Event.replaced : Event → Option FileSystem
  | .replace files => some files
  | _ => none

/-- No times are put back, and nothing is replaced between a read and a stamp. -/
structure StampedAsRead (settings : ClientConfig) (files : FileSystem) (events : List Event) : Prop where
  once : (stamps_over (PoolReload.stamps settings) Event.replaced files events).Nodup
  between : ∀ files, ¬[Event.read, .replace files, .stamp].Sublist events

theorem StampedAsRead.shorter {settings : ClientConfig} {files : FileSystem} {events : List Event} {event : Event}
    (stamped : StampedAsRead settings files (events ++ [event])) : StampedAsRead settings files events where
  once := stamps_over_shorter stamped.once
  between other replaced := stamped.between other (replaced.trans (List.sublist_append_left ..))

/-- Something was replaced behind a read. -/
def Disturbed (events : List Event) : Prop := ∃ files, [Event.read, .replace files].Sublist events

theorem Disturbed.mono {events : List Event} (disturbed : Disturbed events) (event : Event) :
    Disturbed (events ++ [event]) := by
  obtain ⟨files, replaced⟩ := disturbed
  exact ⟨files, replaced.trans (List.sublist_append_left ..)⟩

theorem Disturbed.of_read {events : List Event} (read : Event.read ∈ events) (files : FileSystem) :
    Disturbed (events ++ [.replace files]) :=
  ⟨files, (List.singleton_sublist.mpr read).append (List.Sublist.refl _)⟩

section
variable {Client : Type} (reqwest : Reqwest Client) (settings : ClientConfig) (files : FileSystem)

/-- What is known where `pooled` stands: what was read and stamped so far is as
    the files are, or something was replaced, and then the stamps, once they are
    all taken, are those of files before. -/
def Matches (events : List Event) (state : State Client) : Prop :=
  match state.phase with
  | .reading so_far =>
    (so_far ≠ [] → Event.read ∈ events) ∧
      (so_far = ((tls_files settings).map (content state.files)).take so_far.length ∨ Disturbed events)
  | .built client => Event.read ∈ events ∧ (load reqwest settings state.files = some client ∨ Disturbed events)
  | .stamping client _ _ times =>
    Event.read ∈ events ∧
      (load reqwest settings state.files = some client ∧
          times = ((tls_files settings).map (modified state.files)).take times.length ∨
        Disturbed events ∧ (times.length = (tls_files settings).length →
          times ∈ stamps_over (PoolReload.stamps settings) Event.replaced files events ∧
            times ≠ PoolReload.stamps settings state.files))
  | .pooled pool =>
    LastGood.recorded pool ∈ stamps_over (PoolReload.stamps settings) Event.replaced files events
  | .failed _ => True

structure Known (events : List Event) (state : State Client) : Prop where
  holds : Invariant reqwest settings state
  present : PoolReload.stamps settings state.files ∈
    stamps_over (PoolReload.stamps settings) Event.replaced files events
  phase : Matches reqwest settings files events state

end

section
variable {Client : Type} {reqwest : Reqwest Client} {settings : ClientConfig} {files : FileSystem} {events : List Event}
  {event : Event} {state next : State Client}

/-- All stamps that were taken are those of the files. -/
theorem stamps_taken {files : FileSystem} {times : List (Option Nat)}
    (taken : times = ((tls_files settings).map (modified files)).take times.length)
    (stamped : times.length = (tls_files settings).length) : times = PoolReload.stamps settings files := by
  rw [stamped, List.take_of_length_le (by rw [List.length_map])] at taken
  exact taken

theorem step_orderly (stamped : StampedAsRead settings files (events ++ [event]))
    (stepped : step reqwest settings state event = some next) (known : Known reqwest settings files events state) :
    Orderly reqwest settings state event := by
  have here := known.phase
  unfold Matches at here
  cases step_cases stepped with
  | read | build | build_fails | now | stamp | poll | wait => trivial
  | insert phase all_stamped =>
    unfold Orderly
    rw [phase] at here ⊢
    obtain ⟨-, ⟨built, -⟩ | ⟨-, older⟩⟩ := here
    · exact covered_built built
    · exact fun same => absurd same (older all_stamped).2
  | @replace replaced changed loads =>
    unfold Orderly
    cases phase : state.phase with
    | reading | built | stamping | failed => trivial
    | pooled pool =>
      rw [phase] at here
      intro same
      have member : PoolReload.stamps settings replaced ∈
          stamps_over (PoolReload.stamps settings) Event.replaced files events := same ▸ here
      exact absurd member (new_stamp stamped.once rfl)

/-- Before the pool is inserted, a replacement is one behind a read, if there was
    one. -/
theorem replace_matches (stamped : StampedAsRead settings files (events ++ [.replace next.files]))
    (known : Known reqwest settings files events state) (same_phase : next.phase = state.phase) :
    Matches reqwest settings files (events ++ [.replace next.files]) next := by
  have here := known.phase
  have new := @new_stamp _ _ _ (PoolReload.stamps settings) Event.replaced files events _ next.files stamped.once rfl
  unfold Matches at here ⊢
  rw [same_phase]
  cases phase : state.phase with
  | reading so_far =>
    rw [phase] at here
    refine ⟨fun some_read => List.mem_append_left _ (here.1 some_read), ?_⟩
    by_cases none_read : so_far = []
    · exact Or.inl (by rw [none_read]; rfl)
    · exact Or.inr (.of_read (here.1 none_read) next.files)
  | built client =>
    rw [phase] at here
    exact ⟨List.mem_append_left _ here.1, Or.inr (.of_read here.1 next.files)⟩
  | stamping client period since times =>
    rw [phase] at here
    refine ⟨List.mem_append_left _ here.1, Or.inr ⟨.of_read here.1 next.files, fun all_stamped => ?_⟩⟩
    have known_times : times ∈ stamps_over (PoolReload.stamps settings) Event.replaced files events := by
      rcases here.2 with ⟨-, taken⟩ | ⟨-, older⟩
      · rw [stamps_taken taken all_stamped]
        exact known.present
      · exact (older all_stamped).1
    exact ⟨stamps_over_mono known_times _, fun same => new (same ▸ known_times)⟩
  | pooled pool =>
    rw [phase] at here
    exact stamps_over_mono here _
  | failed error => trivial

theorem step_matches (stamped : StampedAsRead settings files (events ++ [event]))
    (stepped : step reqwest settings state event = some next) (known : Known reqwest settings files events state) :
    Matches reqwest settings files (events ++ [event]) next := by
  have here := known.phase
  cases step_cases stepped with
  | replace changed loads => exact replace_matches stamped known rfl
  | build_fails => trivial
  | read phase next_path =>
    unfold Matches at here
    rw [phase] at here
    refine ⟨fun _ => List.mem_append_right _ (List.mem_singleton_self _), ?_⟩
    exact here.2.imp (fun same => take_next (content state.files) next_path same) (·.mono _)
  | build phase made =>
    unfold Matches at here
    rw [phase] at here
    refine ⟨List.mem_append_left _ (here.1 (by simp)), here.2.imp (fun same => ?_) (·.mono _)⟩
    rw [read_contents same] at made
    exact load_eq_some.mpr made
  | now phase reloads positive =>
    unfold Matches at here
    rw [phase] at here
    refine ⟨List.mem_append_left _ here.1, here.2.imp (fun built => ⟨built, rfl⟩) fun disturbed => ⟨disturbed.mono _, ?_⟩⟩
    intro none_stamped
    cases none_stamped
  | stamp phase next_path =>
    unfold Matches at here
    rw [phase] at here
    refine ⟨List.mem_append_left _ here.1, ?_⟩
    rcases here.2 with ⟨built, taken⟩ | ⟨⟨replaced, disturbed⟩, -⟩
    · exact Or.inl ⟨built, take_next (modified state.files) next_path taken⟩
    · exact absurd (disturbed.append (List.Sublist.refl [Event.stamp])) (stamped.between replaced)
  | insert phase all_stamped =>
    unfold Matches at here
    rw [phase] at here
    show _ ∈ stamps_over _ _ _ _
    rw [stamps_over_kept rfl]
    rcases here.2 with ⟨-, taken⟩ | ⟨-, older⟩
    · rw [LastGood.recorded]
      exact stamps_taken taken all_stamped ▸ known.present
    · exact (older all_stamped).1
  | poll phase reloads elapsed =>
    obtain ⟨pool, pooled, -, -, recorded, -⟩ := settled_of_poll stepped known.holds
    unfold Matches
    rw [pooled]
    dsimp only
    rw [recorded, stamps_over_kept rfl]
    exact known.present
  | wait time =>
    unfold Matches at here ⊢
    cases phase : state.phase with
    | reading so_far =>
      rw [phase] at here
      exact ⟨fun some_read => List.mem_append_left _ (here.1 some_read), here.2.imp_right (·.mono _)⟩
    | built client =>
      rw [phase] at here
      exact ⟨List.mem_append_left _ here.1, here.2.imp_right (·.mono _)⟩
    | stamping client period since times =>
      rw [phase] at here
      refine ⟨List.mem_append_left _ here.1, here.2.imp_right fun between => ⟨between.1.mono _, fun all => ?_⟩⟩
      exact ⟨stamps_over_mono (between.2 all).1 _, (between.2 all).2⟩
    | pooled pool =>
      rw [phase] at here
      exact stamps_over_mono here _
    | failed error => trivial

theorem step_known (stamped : StampedAsRead settings files (events ++ [event]))
    (stepped : step reqwest settings state event = some next) (known : Known reqwest settings files events state) :
    Known reqwest settings files (events ++ [event]) next := by
  refine ⟨step_invariant stepped (step_orderly stamped stepped known) known.holds, ?_, step_matches stamped stepped known⟩
  cases step_cases stepped with
  | @replace replaced changed loads =>
    rw [stamps_over_replaced (show Event.replaced (.replace replaced) = some replaced from rfl)]
    exact List.mem_append_right _ (List.mem_singleton_self _)
  | read | build | build_fails | now | stamp | insert | poll | wait => exact stamps_over_mono known.present _

/-- Where no modification times are put back, and nothing is replaced between the
    reads and the stamps, a new pool follows its files. -/
theorem stamped_as_read_follows {last : State Client} {clock : Nat} {before after : List Event}
    (ran : run (step reqwest settings) ⟨clock, files, .reading []⟩ (before ++ .poll :: after) = some last)
    (stamped : StampedAsRead settings files before) (keeps : ∀ event ∈ after, event.KeepsFiles) :
    ∃ pool, last.phase = .pooled pool ∧ load reqwest settings last.files = some pool.current := by
  rw [run_append] at ran
  obtain ⟨polling, ran_before, rest⟩ := Option.bind_eq_some_iff.mp ran
  have initially : Known reqwest settings files [] (⟨clock, files, .reading []⟩ : State Client) :=
    ⟨Or.inr rfl, List.mem_singleton_self _, nofun, Or.inl rfl⟩
  have orderly : Meets (step reqwest settings) (Orderly reqwest settings) ⟨clock, files, .reading []⟩ before :=
    meets_of_history (Known reqwest settings files) StampedAsRead.shorter step_orderly step_known ran_before stamped
      initially
  exact run_settled rest (run_invariant (Invariant reqwest settings) step_invariant ran_before orderly (Or.inr rfl)) keeps

end

open PoolReload (bundle verifying) in
example : StampedAsRead verifying (bundle 0)
    [.replace (bundle 1), .read, .read, .read, .build, .now, .stamp, .stamp, .stamp, .replace (bundle 2), .insert] := by
  refine ⟨by decide +kernel, fun files replaced => ?_⟩
  have order := replaced.filterMap fun event => match event with
    | .read => some 0
    | .replace _ => some 1
    | .stamp => some 2
    | _ => none
  change [0, 1, 2].Sublist [1, 0, 0, 0, 2, 2, 2, 1] at order
  exact absurd order (by decide)

end Creation
end SiphonHttp
