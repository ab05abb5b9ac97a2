import SiphonHttp.ListenerReload
import SiphonHttp.Outbound
import SiphonHttp.Tls

/-!
Reloads one at a time: the ticks of `reload_listener` and the calls of
`Pool::client`, each with whatever files it finds. Both keep what the latest
build gave that gave anything, and with it the client verification of a listener
that has a `client_ca` (`reload_keeps_last_good`).
-/
namespace SiphonHttp.LastGood
open Text Config Runs Watch Tls Outbound
open PoolReload (Phase)

/-! ### Ticks of a listener -/

/-- The files that a tick finds when it looks, and when it loads them. -/
structure Tick where
  looked : FileSystem
  loaded : FileSystem

section
variable {ServerConfig : Type} (build : TlsConfig → FileSystem → Option ServerConfig) (tls : TlsConfig)

/-- One turn of the loop of `reload_listener`. -/
def tick (state : ListenerReload.State ServerConfig) (tick : Tick) :
    ListenerReload.State ServerConfig × Record (List (Option Nat)) ServerConfig :=
  match ListenerReload.step build tls { state with files := tick.looked } .tick with
  | none => (state, ⟨none, none⟩)
  | some looked =>
    let stamps := ListenerReload.listener_stamps tls tick.looked
    match ListenerReload.step build tls { looked with files := tick.loaded } .load with
    | none => (looked, ⟨some stamps, none⟩)
    | some loaded => (loaded, ⟨some stamps, some (build tls tick.loaded)⟩)

/-- Between two ticks: the recorded stamps, and the configuration in force. -/
def Waiting (state : ListenerReload.State ServerConfig) (watcher : Watcher (List (Option Nat)) ServerConfig) : Prop :=
  state.task = .waiting watcher.seen ∧ state.config = watcher.current

/-- What a tick finds: the stamps of the files, and what they give. -/
def Tick.found (tick : Tick) : Look (List (Option Nat)) ServerConfig :=
  ⟨ListenerReload.listener_stamps tls tick.looked, build tls tick.loaded⟩

variable {build tls}

/-- Every tick looks. -/
theorem tick_looks : Looks (fun _ _ => True) (Tick.found build tls) (tick build tls) fun state _ => Waiting state := by
  intro state last watcher found waiting
  refine ⟨fun _ => ?_, fun idle => absurd trivial idle⟩
  obtain ⟨task, config⟩ := waiting
  unfold tick Watcher.look Tick.found
  by_cases same : ListenerReload.listener_stamps tls found.looked = watcher.seen
  · simp [ListenerReload.step, task, same, Waiting, config]
  · cases built : build tls found.loaded with
    | none => simp [ListenerReload.step, task, same, built, Waiting, config]
    | some loaded => simp [ListenerReload.step, task, same, built, Waiting]

/-- After a tick the configuration is the one before, or the one of the files
    that were loaded. -/
theorem tick_config (state : ListenerReload.State ServerConfig) (found : Tick) :
    (tick build tls state found).1.config = state.config ∨
      build tls found.loaded = some (tick build tls state found).1.config := by
  unfold tick
  cases looks : ListenerReload.step build tls { state with files := found.looked } .tick with
  | none => exact Or.inl rfl
  | some looked =>
    have config : looked.config = state.config := by
      obtain ⟨seen, -, ⟨-, rfl⟩ | ⟨-, rfl⟩⟩ := ListenerReload.tick_cases looks <;> rfl
    dsimp only
    cases loads : ListenerReload.step build tls { looked with files := found.loaded } .load with
    | none => exact Or.inl config
    | some loaded =>
      obtain ⟨seen, -, ⟨built, -⟩ | ⟨-, rfl⟩⟩ := ListenerReload.load_cases loads
      · exact Or.inr built
      · exact Or.inl config

end

/-! ### Calls of a pool -/

/-- When a call of `Pool::client` looks, and the files that it finds then, and
    when it builds the pool. -/
structure Poll where
  now : Nat
  looked : FileSystem
  loaded : FileSystem

section
variable {Client : Type} (build : ClientConfig → FileSystem → Option Client)

/-- `Pool::client` by one caller at a time. -/
def client (pool : Pool Client) (poll : Poll) : Pool Client × Record (List (Option Nat)) Client :=
  match pool.reload with
  | none => (pool, ⟨none, none⟩)
  | some reload =>
    if poll.now - reload.seen.1 < reload.period then (pool, ⟨none, none⟩)
    else
      let now := PoolReload.stamps reload.settings poll.looked
      let looked := { pool with reload := some { reload with seen := (poll.now, now) } }
      if now ≠ reload.seen.2 then
        match build reload.settings poll.loaded with
        | some client => ({ looked with current := client }, ⟨some now, some (some client)⟩)
        | none => (looked, ⟨some now, some none⟩)
      else (looked, ⟨some now, none⟩)

/-- The stamps that a pool has recorded. -/
def recorded (pool : Pool Client) : List (Option Nat) := (pool.reload.map (·.seen.2)).getD []

/-- The period is over since the call that looked last, or since the pool was
    made. -/
def Due (reload : Reload) (last : Option Poll) (poll : Poll) : Prop :=
  reload.period ≤ poll.now - (last.map Poll.now).getD reload.seen.1

/-- What a call finds that looks: the stamps of the files, and what they give. -/
def Poll.found (settings : ClientConfig) (poll : Poll) : Look (List (Option Nat)) Client :=
  ⟨PoolReload.stamps settings poll.looked, build settings poll.loaded⟩

/-- Between two calls: when the files were looked at last, the stamps that were
    recorded then, and the pool in force. -/
def Kept (reload : Reload) (pool : Pool Client) (last : Option Poll)
    (watcher : Watcher (List (Option Nat)) Client) : Prop :=
  pool.reload = some { reload with seen := ((last.map Poll.now).getD reload.seen.1, watcher.seen) } ∧
    pool.current = watcher.current

variable {build}

/-- Before the period is over, and without a reload, a call does nothing. -/
theorem client_idle {pool : Pool Client} {poll : Poll}
    (idle : ∀ reload ∈ pool.reload, poll.now - reload.seen.1 < reload.period) :
    client build pool poll = (pool, ⟨none, none⟩) := by
  unfold client
  cases reloads : pool.reload with
  | none => rfl
  | some reload => exact if_pos (idle reload reloads)

/-- What a call does when the period is over. -/
theorem client_elapsed {pool : Pool Client} {reload : Reload} {poll : Poll} (reloads : pool.reload = some reload)
    (elapsed : reload.period ≤ poll.now - reload.seen.1) :
    client build pool poll =
      (⟨if PoolReload.stamps reload.settings poll.looked = reload.seen.2 then pool.current
          else (build reload.settings poll.loaded).getD pool.current,
        some { reload with seen := (poll.now, PoolReload.stamps reload.settings poll.looked) }⟩,
      ⟨some (PoolReload.stamps reload.settings poll.looked),
        if PoolReload.stamps reload.settings poll.looked = reload.seen.2 then none
        else some (build reload.settings poll.loaded)⟩) := by
  unfold client
  rw [reloads]
  dsimp only
  rw [if_neg (Nat.not_lt.mpr elapsed)]
  by_cases same : PoolReload.stamps reload.settings poll.looked = reload.seen.2
  · rw [if_neg (not_not.mpr same), if_pos same, if_pos same]
  · rw [if_pos same, if_neg same, if_neg same]
    cases build reload.settings poll.loaded <;> rfl

/-- A call looks when the period is over. -/
theorem client_looks (reload : Reload) :
    Looks (Due reload) (Poll.found build reload.settings) (client build) (Kept reload) := by
  intro pool last watcher poll kept
  obtain ⟨reloads, current⟩ := kept
  constructor
  · intro due
    rw [client_elapsed reloads due, current]
    unfold Watcher.look Poll.found
    dsimp only
    split_ifs with same
    · refine ⟨⟨?_, rfl⟩, rfl⟩
      rw [same]
      rfl
    · exact ⟨⟨rfl, rfl⟩, rfl⟩
  · intro early
    rw [client_idle]
    · exact ⟨⟨reloads, current⟩, rfl⟩
    · intro other member
      rw [reloads] at member
      cases member
      exact Nat.lt_of_not_le early

/-- A pool without a reload stays as it is. -/
theorem client_never {pool : Pool Client} (never : pool.reload = none) (polls : List Poll) :
    records (client build) pool polls = (pool, polls.map fun _ => ⟨none, none⟩) := by
  induction polls with
  | nil => rfl
  | cons poll polls ih =>
    have idle : client build pool poll = (pool, ⟨none, none⟩) :=
      client_idle fun reload member => by rw [never] at member; cases member
    rw [records, idle]
    dsimp only
    rw [ih]
    rfl

/-- A call by one caller at a time is a run of the steps that `Pool::client`
    takes among others: it puts the same pool in force, records the same stamps,
    and returns the pool in force. -/
theorem client_steps {pool : Pool Client} {reload : Reload} (reloads : pool.reload = some reload) (poll : Poll)
    (calls : List (Phase Client)) :
    ∃ looked events after,
      run (PoolReload.step build reload.settings reload.period)
          ⟨poll.now, poll.looked, pool.current, reload.seen.1, reload.seen.2, calls⟩
          [.begin_call, .look calls.length] = some looked ∧
        run (PoolReload.step build reload.settings reload.period) { looked with files := poll.loaded } events =
          some after ∧
        after.current = (client build pool poll).1.current ∧ after.seen = recorded (client build pool poll).1 ∧
        after.calls = calls ++ [Phase.returned after.current] := by
  have reads (looked_at : Nat) (seen : List (Option Nat)) (current : Client) :
      run (PoolReload.step build reload.settings reload.period)
          ⟨poll.now, poll.loaded, current, looked_at, seen, calls ++ [Phase.read]⟩ [.read calls.length] =
        some ⟨poll.now, poll.loaded, current, looked_at, seen, calls ++ [Phase.returned current]⟩ := by
    simp [run, PoolReload.step]
  by_cases within : poll.now - reload.seen.1 < reload.period
  · have idle : client build pool poll = (pool, ⟨none, none⟩) := by
      refine client_idle fun other member => ?_
      obtain rfl := Option.some.inj (reloads.symm.trans member)
      exact within
    refine ⟨⟨poll.now, poll.looked, pool.current, reload.seen.1, reload.seen.2, calls ++ [Phase.read]⟩,
      [.read calls.length], ⟨poll.now, poll.loaded, pool.current, reload.seen.1, reload.seen.2,
        calls ++ [Phase.returned pool.current]⟩, ?_, reads _ _ _, ?_⟩
    · simp [run, PoolReload.step, PoolReload.look, within]
    · simp [idle, recorded, reloads]
  · have elapsed := @client_elapsed _ build _ _ poll reloads (Nat.not_lt.mp within)
    by_cases same : PoolReload.stamps reload.settings poll.looked = reload.seen.2
    · refine ⟨⟨poll.now, poll.looked, pool.current, poll.now, reload.seen.2, calls ++ [Phase.read]⟩,
        [.read calls.length], ⟨poll.now, poll.loaded, pool.current, poll.now, reload.seen.2,
          calls ++ [Phase.returned pool.current]⟩, ?_, reads _ _ _, ?_⟩
      · simp [run, PoolReload.step, PoolReload.look, within, same]
      · simp [elapsed, same, recorded]
    · refine ⟨⟨poll.now, poll.looked, pool.current, poll.now, PoolReload.stamps reload.settings poll.looked,
        calls ++ [Phase.build]⟩, ?_⟩
      have looks : run (PoolReload.step build reload.settings reload.period)
          ⟨poll.now, poll.looked, pool.current, reload.seen.1, reload.seen.2, calls⟩
          [.begin_call, .look calls.length] = some ⟨poll.now, poll.looked, pool.current, poll.now,
            PoolReload.stamps reload.settings poll.looked, calls ++ [Phase.build]⟩ := by
        simp [run, PoolReload.step, PoolReload.look, within, same]
      cases built : build reload.settings poll.loaded with
      | none =>
        have fails : run (PoolReload.step build reload.settings reload.period)
            ⟨poll.now, poll.loaded, pool.current, poll.now, PoolReload.stamps reload.settings poll.looked,
              calls ++ [Phase.build]⟩ [.build calls.length] = some ⟨poll.now, poll.loaded, pool.current, poll.now,
            PoolReload.stamps reload.settings poll.looked, calls ++ [Phase.read]⟩ := by
          simp [run, PoolReload.step, PoolReload.build, built]
        refine ⟨[PoolReload.Event.build calls.length] ++ [.read calls.length],
          ⟨poll.now, poll.loaded, pool.current, poll.now, PoolReload.stamps reload.settings poll.looked,
            calls ++ [Phase.returned pool.current]⟩, looks, ?_, ?_⟩
        · rw [run_append, fails]
          exact reads _ _ _
        · simp [elapsed, same, built, recorded]
      | some client' =>
        have builds : run (PoolReload.step build reload.settings reload.period)
            ⟨poll.now, poll.loaded, pool.current, poll.now, PoolReload.stamps reload.settings poll.looked,
              calls ++ [Phase.build]⟩ [.build calls.length, .write calls.length] = some ⟨poll.now, poll.loaded, client',
            poll.now, PoolReload.stamps reload.settings poll.looked, calls ++ [Phase.read]⟩ := by
          simp [run, PoolReload.step, PoolReload.build, built]
        refine ⟨[PoolReload.Event.build calls.length, .write calls.length] ++ [.read calls.length],
          ⟨poll.now, poll.loaded, client', poll.now, PoolReload.stamps reload.settings poll.looked,
            calls ++ [Phase.returned client']⟩, looks, ?_, ?_⟩
        · rw [run_append, builds]
          exact reads _ _ _
        · simp [elapsed, same, built, recorded]

end

/-! ### The last good material, and client verification -/

section
variable {rustls : Rustls} {tls : TlsConfig}

/-- A configuration that some files gave. -/
def WasBuilt (rustls : Rustls) (tls : TlsConfig) (config : RustlsServerConfig) : Prop :=
  ∃ files, server_config rustls tls files = some config

theorem wasBuilt_ticks {start : ListenerReload.State RustlsServerConfig} (initially : WasBuilt rustls tls start.config)
    (ticks : List Tick) : WasBuilt rustls tls (records (tick (server_config rustls) tls) start ticks).1.config := by
  refine records_invariant (fun state : ListenerReload.State RustlsServerConfig => WasBuilt rustls tls state.config) ?_
    ticks initially
  intro state found was_built
  rcases @tick_config _ (server_config rustls) tls state found with same | built
  · rw [same]
    exact was_built
  · exact ⟨found.loaded, built⟩

/-- What a configuration demands of clients, and what sessions under it show. -/
structure Verifies (rustls : Rustls) (tls : TlsConfig) (config : RustlsServerConfig) : Prop where
  verifier : tls.client_ca ≠ none → ∃ roots, config.client_verifier = some roots ∧ roots ≠ []
  no_verifier : tls.client_ca = none → config.client_verifier = none
  sessions : ∀ peer connection sha256, rustls.handshake config peer = some connection →
    (TlsSession.from_connection sha256 connection).peer_verified = tls.client_ca.isSome
  chains : ∀ peer connection roots, rustls.handshake config peer = some connection →
    config.client_verifier = some roots →
      ∃ chain, connection.peer_certificates = some chain ∧ chain ≠ [] ∧ rustls.verifies roots chain

theorem WasBuilt.verifies (documented : rustls.Documented) {config : RustlsServerConfig}
    (was_built : WasBuilt rustls tls config) : Verifies rustls tls config := by
  obtain ⟨files, built⟩ := was_built
  refine ⟨?_, ?_, fun peer connection sha256 shaken => session_verified documented built shaken sha256,
    fun peer connection roots => documented.demands_chain config peer connection roots⟩
  · intro has
    rcases server_config_verifier built with ⟨no_ca, -⟩ | ⟨path, roots, -, demanded, accepted⟩
    · exact absurd no_ca has
    · refine ⟨roots, demanded, ?_⟩
      rintro rfl
      exact documented.rejects_empty accepted
  · intro no_ca
    rcases server_config_verifier built with ⟨-, none_demanded⟩ | ⟨path, roots, ca, -, -⟩
    · exact none_demanded
    · rw [ca] at no_ca
      cases no_ca

end

/-- A listener with TLS, and every pool, keep through any reloads what the latest
    build gave that gave anything: a listener looks at its files at every tick, a
    pool at the calls that come when its period is over, and they build from the
    files where their stamps are not those of the look before. And every
    configuration that a listener with a `client_ca` ever has in force demands a
    client certificate that verifies against roots that there are, so that every
    session on it is verified, and none is on a listener without one. -/
theorem reload_keeps_last_good (rustls : Rustls) (documented : rustls.Documented) :
    (∀ (tls : TlsConfig) (files served : FileSystem) (bound start : ListenerReload.State RustlsServerConfig),
      ListenerReload.bind_listener (server_config rustls) tls files = some bound →
      ListenerReload.step (server_config rustls) tls { bound with files := served } .serve = some start →
        start.config = bound.config ∧ server_config rustls tls files = some bound.config ∧
          KeepsLastGood (fun _ _ => True) (Tick.found (server_config rustls) tls) (tick (server_config rustls) tls)
            ListenerReload.State.config (ListenerReload.listener_stamps tls served) start ∧
          ∀ ticks, Verifies rustls tls (records (tick (server_config rustls) tls) start ticks).1.config) ∧
    ∀ (Client : Type) (build : ClientConfig → FileSystem → Option Client) (pool : Pool Client),
      (∀ reload, pool.reload = some reload →
        KeepsLastGood (Due reload) (Poll.found build reload.settings) (client build) Pool.current reload.seen.2 pool) ∧
      (pool.reload = none →
        ∀ polls, records (client build) pool polls = (pool, polls.map fun _ => ⟨none, none⟩)) := by
  constructor
  · intro tls files served bound start binds serves
    obtain ⟨config, built, rfl⟩ := Option.map_eq_some_iff.mp binds
    obtain rfl : start = ⟨served, config, .waiting (ListenerReload.listener_stamps tls served)⟩ :=
      (Option.some.inj serves).symm
    refine ⟨rfl, built, ?_, fun ticks => (wasBuilt_ticks ⟨files, built⟩ ticks).verifies documented⟩
    exact tick_looks.keeps_last_good (fun _ _ _ waiting => waiting.2) ⟨rfl, rfl⟩
  · intro Client build pool
    refine ⟨fun reload reloads => ?_, fun never polls => client_never never polls⟩
    exact (client_looks reload).keeps_last_good (fun _ _ _ kept => kept.2) ⟨reloads, rfl⟩

/-! A listener whose CA bundle is replaced, and then emptied, goes on demanding
certificates: those of the replacement. -/

/-- A rustls that takes the octets of a file for one certificate, and verifies a
    chain whose first certificate is among the roots. -/
def plain : Rustls where
  Peer := List Octets
  open_error := fun _ => lit "No such file or directory (os error 2)"
  read_error := fun _ => ⟨.Other, lit "Is a directory (os error 21)"⟩
  pem_certificates := fun octets => .ok (if octets = [] then [] else [octets])
  pem_private_key := fun octets => if octets = [] then .error .NoItemsFound else .ok octets
  sha256 := some fun _ => []
  protocol_versions_error := none
  root_error := fun _ => none
  verifier_error := fun roots => if roots = [] then some (lit "no root certificates") else none
  single_cert_error := fun _ _ => none
  verifies := fun roots chain => ∃ certificate ∈ chain.head?, certificate ∈ roots
  handshake := fun config chain =>
    match config.client_verifier with
    | none => some ⟨none⟩
    | some roots => if (chain.head?.any (· ∈ roots)) then some ⟨some chain⟩ else none

theorem plain_documented : plain.Documented where
  rejects_empty := by decide
  demands_chain := by
    intro config chain connection roots shaken demanded
    simp only [plain, demanded] at shaken
    split_ifs at shaken with verified
    cases shaken
    cases chain with
    | nil => simp at verified
    | cons certificate chain =>
      exact ⟨_, rfl, List.cons_ne_nil _ _, certificate, rfl, by simpa using verified⟩
  asks_for_none := by
    intro config chain connection shaken none_demanded
    simp only [plain, none_demanded] at shaken
    cases shaken
    rfl

def mutualTls : TlsConfig := ⟨lit "server.crt", lit "server.key", some (lit "ca.pem"), some 60⟩

/-- The files, with a CA bundle of some content. -/
def with_bundle (version : Nat) (bundle : Octets) : FileSystem := fun path =>
  some ⟨some version, some (if path = lit "ca.pem" then bundle else [1])⟩

/-- What `plain` makes of the files with a bundle. -/
def mutual_config (bundle : Octets) : RustlsServerConfig :=
  ⟨some [bundle], [[1]], [1], [utf8 (lit "h2"), utf8 (lit "http/1.1")]⟩

def finds (files : FileSystem) : Tick := ⟨files, files⟩

theorem emptied_bundle_keeps_verifying :
    ∃ start, (tick (server_config plain) mutualTls start (finds (with_bundle 1 [8]))).2.attempt =
        some (some (mutual_config [8])) ∧
      (records (tick (server_config plain) mutualTls) start
        [finds (with_bundle 1 [8]), finds (with_bundle 2 [])]).1.config = mutual_config [8] ∧
      ∀ peer connection sha256, plain.handshake (records (tick (server_config plain) mutualTls) start
          [finds (with_bundle 1 [8]), finds (with_bundle 2 [])]).1.config peer = some connection →
        (TlsSession.from_connection sha256 connection).peer_verified = true := by
  have binds : ListenerReload.bind_listener (server_config plain) mutualTls (with_bundle 0 [7]) =
      some ⟨with_bundle 0 [7], mutual_config [7], .not_spawned⟩ := rfl
  obtain ⟨-, -, kept, verifies⟩ := (reload_keeps_last_good plain plain_documented).1 mutualTls (with_bundle 0 [7])
    (with_bundle 0 [7]) _ _ binds rfl
  have rebuilt := (kept.attempts [] (finds (with_bundle 1 [8])) _).mpr ⟨trivial, by decide, rfl⟩
  have emptied := (kept.attempts [finds (with_bundle 1 [8])] (finds (with_bundle 2 [])) _).mpr
    ⟨trivial, by decide +kernel, rfl⟩
  refine ⟨_, rebuilt, ?_, (verifies [finds (with_bundle 1 [8]), finds (with_bundle 2 [])]).sessions⟩
  exact (kept.failures [finds (with_bundle 1 [8])] (finds (with_bundle 2 [])) emptied).trans
    (kept.in_force [finds (with_bundle 1 [8])])

end SiphonHttp.LastGood
