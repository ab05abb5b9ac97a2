import SiphonHttp.PoolReload

/-!
The TLS files of a listener, from `bind_listener` over the startup hooks to the
ticks of `reload_listener`. The files are read when the listener binds, the
first stamps are taken when it is served: what is replaced in between is taken
for seen (`replaced_before_serving`).
-/
namespace SiphonHttp.ListenerReload
open Text Config Runs Watch

def listener_stamps (tls : TlsConfig) (files : FileSystem) : List (Option Nat) :=
  modification_times files [some tls.cert_path, some tls.key_path, tls.client_ca]

/-- The task that looks at the files: not spawned, between two ticks, or in a
    tick that saw other stamps and is to load the files. -/
inductive Task
  | not_spawned
  | waiting (seen : List (Option Nat))
  | loading (seen : List (Option Nat))
  deriving DecidableEq, Repr

structure State (ServerConfig : Type) where
  files : FileSystem
  /-- What new handshakes use. -/
  config : ServerConfig
  task : Task

inductive Event
  /-- A startup hook runs. -/
  | hook
  | serve
  /-- A tick: the stamps are compared. -/
  | tick
  /-- The files are loaded, in a tick that saw them changed. -/
  | load
  | replace (files : FileSystem)

section
variable {ServerConfig : Type} (build_server_config : TlsConfig → FileSystem → Option ServerConfig) (tls : TlsConfig)

/-- A listener binds when its files load. -/
def bind_listener (files : FileSystem) : Option (State ServerConfig) :=
  (build_server_config tls files).map fun config => ⟨files, config, .not_spawned⟩

def step (state : State ServerConfig) : Event → Option (State ServerConfig)
  | .hook => if state.task = .not_spawned then some state else none
  | .serve =>
    if state.task = .not_spawned then some { state with task := .waiting (listener_stamps tls state.files) } else none
  | .tick =>
    match state.task with
    | .waiting seen =>
      let now := listener_stamps tls state.files
      some { state with task := if now = seen then .waiting seen else .loading now }
    | _ => none
  | .load =>
    match state.task with
    | .loading seen =>
      match build_server_config tls state.files with
      | some config => some { state with config := config, task := .waiting seen }
      | none => some { state with task := .waiting seen }
    | _ => none
  | .replace files =>
    if listener_stamps tls files ≠ listener_stamps tls state.files then some { state with files := files } else none

/-- The stamps that the next tick compares with. -/
def Task.seen : Task → Option (List (Option Nat))
  | .waiting seen => some seen
  | _ => none

/-- The condition on a step. When the listener is served, it has the
    configuration of the files as they then are, if they load; and between ticks
    files are not replaced by others with the recorded stamps, unless it has the
    configuration of these. -/
def Watchful (state : State ServerConfig) : Event → Prop
  | .serve => ∀ config ∈ build_server_config tls state.files, state.config = config
  | .replace files => ∀ seen ∈ state.task.seen,
      Covered (listener_stamps tls) (build_server_config tls) files seen state.config fun _ => False
  | _ => True

/-- Between ticks, the configuration in force is that of the files when their
    stamps are the recorded ones. -/
def Current (state : State ServerConfig) : Prop :=
  ∀ seen ∈ state.task.seen,
    Covered (listener_stamps tls) (build_server_config tls) state.files seen state.config fun _ => False

instance [DecidableEq ServerConfig] (state : State ServerConfig) (event : Event) :
    Decidable (Watchful build_server_config tls state event) := by
  cases event <;> unfold Watchful <;> infer_instance

/-- The event ends a tick: a look that saw nothing changed, or a load. -/
def EndsTick (event : Event) (after : State ServerConfig) : Prop :=
  event = .load ∨ event = .tick ∧ ∃ seen, after.task = .waiting seen

end

section
variable {ServerConfig : Type} {build_server_config : TlsConfig → FileSystem → Option ServerConfig} {tls : TlsConfig}
  {state next : State ServerConfig}

theorem tick_cases (stepped : step build_server_config tls state .tick = some next) :
    ∃ seen, state.task = .waiting seen ∧
      (listener_stamps tls state.files = seen ∧ next = { state with task := .waiting seen } ∨
        listener_stamps tls state.files ≠ seen ∧
          next = { state with task := .loading (listener_stamps tls state.files) }) := by
  simp only [step] at stepped
  split at stepped
  · rename_i seen waiting
    refine ⟨seen, waiting, ?_⟩
    cases stepped
    by_cases same : listener_stamps tls state.files = seen
    · exact Or.inl ⟨same, by rw [if_pos same]⟩
    · exact Or.inr ⟨same, by rw [if_neg same]⟩
  · cases stepped

theorem load_cases (stepped : step build_server_config tls state .load = some next) :
    ∃ seen, state.task = .loading seen ∧
      (build_server_config tls state.files = some next.config ∧
          next = { state with config := next.config, task := .waiting seen } ∨
        build_server_config tls state.files = none ∧ next = { state with task := .waiting seen }) := by
  simp only [step] at stepped
  split at stepped
  · rename_i seen loading
    refine ⟨seen, loading, ?_⟩
    cases built : build_server_config tls state.files with
    | some config =>
      rw [built] at stepped
      cases stepped
      exact Or.inl ⟨rfl, rfl⟩
    | none =>
      rw [built] at stepped
      cases stepped
      exact Or.inr ⟨rfl, rfl⟩
  · cases stepped

/-- A load leaves the configuration of the files as they are, if they load. -/
theorem covered_load (stepped : step build_server_config tls state .load = some next) (seen : List (Option Nat)) :
    Covered (listener_stamps tls) (build_server_config tls) next.files seen next.config fun _ => False := by
  obtain ⟨_, -, ⟨built, same⟩ | ⟨failed, rfl⟩⟩ := load_cases stepped
  · rw [same]
    exact covered_built built
  · exact covered_unbuildable failed

/-- What one step preserves. -/
theorem step_current {event : Event} (stepped : step build_server_config tls state event = some next)
    (watchful : Watchful build_server_config tls state event) (current : Current build_server_config tls state) :
    Current build_server_config tls next := by
  cases event with
  | hook =>
    simp only [step] at stepped
    split_ifs at stepped
    cases stepped
    exact current
  | serve =>
    simp only [step] at stepped
    split_ifs at stepped
    cases stepped
    intro seen _ _ config member
    exact Or.inl (watchful config member)
  | tick =>
    obtain ⟨seen, waiting, ⟨-, rfl⟩ | ⟨-, rfl⟩⟩ := tick_cases stepped
    · intro other member
      exact current other (waiting ▸ member)
    · intro other member
      cases member
  | load =>
    intro seen _
    exact covered_load stepped seen
  | replace files =>
    simp only [step] at stepped
    split_ifs at stepped
    cases stepped
    exact watchful

theorem bound_current {files : FileSystem} (binds : bind_listener build_server_config tls files = some state) :
    Current build_server_config tls state := by
  obtain ⟨config, -, rfl⟩ := Option.map_eq_some_iff.mp binds
  intro seen member
  cases member

/-- At the end of a tick the listener has the configuration of the files. -/
theorem tick_follows {event : Event} (current : Current build_server_config tls state)
    (stepped : step build_server_config tls state event = some next) (ends : EndsTick event next) :
    ∀ config ∈ build_server_config tls next.files, next.config = config := by
  intro config member
  rcases ends with rfl | ⟨rfl, seen, waiting⟩
  · exact Covered.settled (covered_load stepped (listener_stamps tls next.files)) rfl (fun _ => id) member
  · obtain ⟨other, was_waiting, ⟨same, rfl⟩ | ⟨-, rfl⟩⟩ := tick_cases stepped
    · exact Covered.settled (current other (by rw [was_waiting]; rfl)) same.symm (fun _ => id) member
    · cases waiting

/-- In a run from binding whose steps meet the condition, the configuration in
    force after every tick is that of the files as they then are, if they load. -/
theorem listener_follows_files {files : FileSystem} {bound before after : State ServerConfig}
    (binds : bind_listener build_server_config tls files = some bound) {events : List Event} {last : Event}
    (ran : run (step build_server_config tls) bound events = some before)
    (stepped : step build_server_config tls before last = some after) (ends : EndsTick last after)
    (watchful : Meets (step build_server_config tls) (Watchful build_server_config tls) bound (events ++ [last])) :
    ∀ config ∈ build_server_config tls after.files, after.config = config := by
  obtain ⟨watchful_events, watchful_last⟩ := meets_append watchful ran
  have current : Current build_server_config tls before :=
    run_invariant (Current build_server_config tls) step_current ran watchful_events (bound_current binds)
  exact tick_follows current stepped ends

end

/-! A certificate that is replaced while a startup hook runs: no tick finds it
    changed. -/

def renewed : TlsConfig := ⟨lit "server.crt", lit "server.key", none, some 60⟩

/-- A configuration, as what the certificate file held. -/
def certificate_of (tls : TlsConfig) (files : FileSystem) : Option Octets := (files tls.cert_path).bind File.content

def boundAtZero : State Octets := ⟨PoolReload.bundle 0, [0], .not_spawned⟩

theorem replaced_before_serving :
    bind_listener certificate_of renewed (PoolReload.bundle 0) = some boundAtZero ∧
      (run (step certificate_of renewed) boundAtZero [.replace (PoolReload.bundle 1), .hook, .serve, .tick]).map
          (fun state => (state.task, certificate_of renewed state.files, state.config)) =
        some (.waiting [some 1, some 1, none], some [1], [0]) :=
  ⟨rfl, by decide +kernel⟩

theorem replaced_while_serving :
    (run (step certificate_of renewed) boundAtZero
        [.serve, .replace (PoolReload.bundle 1), .tick, .load]).map State.config =
      certificate_of renewed (PoolReload.bundle 1) := by
  have ran : run (step certificate_of renewed) boundAtZero [.serve, .replace (PoolReload.bundle 1), .tick] =
      some ⟨PoolReload.bundle 1, [0], .loading [some 1, some 1, none]⟩ := rfl
  have stepped : step certificate_of renewed ⟨PoolReload.bundle 1, [0], .loading [some 1, some 1, none]⟩ .load =
      some ⟨PoolReload.bundle 1, [1], .waiting [some 1, some 1, none]⟩ := rfl
  have binds : bind_listener certificate_of renewed (PoolReload.bundle 0) = some boundAtZero := rfl
  have follows : ∀ config ∈ certificate_of renewed (PoolReload.bundle 1), [1] = config :=
    listener_follows_files binds ran stepped (Or.inl rfl) (by decide +kernel)
  exact congrArg some (follows [1] rfl)

end SiphonHttp.ListenerReload
