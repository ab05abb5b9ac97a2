import SiphonHttp.Origin
import SiphonHttp.Relay
import SiphonHttp.Trust

/-!
The outbound side as a whole: callers ask for pools by name, requests go through
the pools they were handed, and pools are built again when their files change, in
any interleaving. A request builds the pool again before it is sent, so that one
pool serves requests that build, put in place and read its client at once.
Whatever the order of the steps, a request is sent by a client that was built for
its own name from the settings it was asked for with
(`every_request_as_configured`).
-/
namespace SiphonHttp.Exchanges
open Text Config Outbound ClientFiles Runs

/-! ### Requests and replies -/

/-- An error of reqwest, without the URL. -/
structure ReqwestError where
  is_timeout : Bool
  is_connect : Bool
  is_body : Bool
  is_decode : Bool
  text : Text
  sources : List Text
  deriving DecidableEq, Repr

/-- What `ClientError` has for a request that was sent. -/
inductive ExchangeError
  | Connect (reason : Text)
  | Timeout
  | Body (reason : Text)
  | Request (reason : Text)
  deriving DecidableEq, Repr

/-- The error and its sources, joined with `: `. -/
def describe (error : ReqwestError) : Text :=
  error.sources.foldl (fun text cause => text ++ lit ": " ++ cause) error.text

/-- `ClientError::exchange`. -/
def exchange (error : ReqwestError) : ExchangeError :=
  if error.is_timeout then .Timeout
  else if error.is_connect then .Connect (describe error)
  else if error.is_body || error.is_decode then .Body (describe error)
  else .Request (describe error)

structure Reply where
  status : Nat
  headers : List (Text × Text)
  body : Octets
  deriving DecidableEq, Repr

/-- What `HttpClient::request` is called with. -/
structure Asked where
  method : Text
  target : Text
  headers : List (Text × Text)
  body : Option Octets

/-- A name, the settings it was asked for with, and the client that was handed
    out. -/
structure Grant where
  name : Text
  settings : ClientConfig
  client : HttpClient
  deriving DecidableEq, Repr

/-- Where a request is: in `Pool::client` first, and then in the exchange. -/
inductive Phase (Client : Type)
  | looks
  /-- The stamps had changed: the pool is to be built again. -/
  | builds (settings : ClientConfig)
  | writes (client : Client)
  | reads
  | awaits_response (sender : Client)
  | awaits_body (sender : Client) (status : Nat) (headers : HeaderMap)
  | returned (sender : Client) (result : Except ExchangeError Reply)
  /-- The caller no longer waits. -/
  | dropped (sender : Client)

/-- The client that the request was sent by. -/
def Phase.sender {Client : Type} : Phase Client → Option Client
  | .awaits_response sender | .awaits_body sender _ _ | .returned sender _ | .dropped sender => some sender
  | .looks | .builds _ | .writes _ | .reads => none

structure Exchange (Client Url : Type) where
  grant : Grant
  asked : Asked
  sent : Sent Url
  phase : Phase Client

/-- All pools and requests of the process, the clients of the configuration that
    the scripts run under, and what was read for each pool, by its index. -/
structure State (Client Url : Type) where
  named_clients : Option (List (Text × ClientConfig))
  registry : Registry Client
  granted : List Grant
  exchanges : List (Exchange Client Url)
  loaded : List (Nat × Contents)

def State.new {Client Url : Type} : State Client Url := ⟨none, .empty, [], [], []⟩

/-! ### Steps -/

inductive Action
  | look (now : Nat) (files : FileSystem)
  | build (contents : Contents)
  | write
  | read
  | responds (status : Nat) (headers : HeaderMap)
  | body (octets : Octets)
  | fails (error : ReqwestError)
  | drop

inductive Event
  | set_named_clients (clients : List (Text × ClientConfig))
  /-- A caller asks for a pool, and what is found if it is to be built. -/
  | call (request : Outbound.Request) (now : Nat) (contents : Contents) (files : FileSystem)
  /-- `HttpClient::request` is called on a client that was handed out. -/
  | request (grant : Nat) (asked : Asked)
  | act (exchange : Nat) (action : Action)

section
variable {Client : Type} (reqwest : Reqwest Client) (parser : UrlParser) (crates : Crates)

def Asked.request (asked : Asked) (client : HttpClient) : Except RequestError (Sent parser.Url) :=
  client.request parser crates asked.method asked.target asked.headers asked.body

/-- One step of a request, and what it makes of its pool. -/
def Phase.act (pool : Pool Client) : Phase Client → Action → Option (Pool Client × Phase Client)
  | .looks, .look now files =>
    match pool.reload with
    | none => some (pool, .reads)
    | some reload =>
      if now - reload.seen.1 < reload.period then some (pool, .reads)
      else
        let stamps := PoolReload.stamps reload.settings files
        some ({ pool with reload := some { reload with seen := (now, stamps) } },
          if stamps ≠ reload.seen.2 then .builds reload.settings else .reads)
  | .builds settings, .build contents =>
    match ClientFiles.pool reqwest settings contents with
    | .ok client => some (pool, .writes client)
    | .error _ => some (pool, .reads)
  | .writes client, .write => some ({ pool with current := client }, .reads)
  | .reads, .read => some (pool, .awaits_response pool.current)
  | .awaits_response sender, .responds status headers => some (pool, .awaits_body sender status headers)
  | .awaits_body sender status headers, .body octets =>
    some (pool, .returned sender (.ok ⟨status, Request.joined_headers headers, octets⟩))
  | .awaits_response sender, .fails error
  | .awaits_body sender _ _, .fails error => some (pool, .returned sender (.error (exchange error)))
  | .awaits_response sender, .drop
  | .awaits_body sender _ _, .drop => some (pool, .dropped sender)
  | _, _ => none

/-- The pool of an index, as a step has left it. -/
def put (registry : Registry Client) (inner : Nat) (pool : Pool Client) : Registry Client :=
  { registry with built := registry.built.modify inner fun built => { built with pool := pool } }

/-- What a step reads for the pool of an index. -/
def Action.reads (inner : Nat) : Action → List (Nat × Contents)
  | .build contents => [(inner, contents)]
  | _ => []

variable {parser} in
def act (state : State Client parser.Url) (index : Nat) (action : Action) : Option (State Client parser.Url) :=
  match state.exchanges[index]? with
  | none => none
  | some exchange =>
    match state.registry.built[exchange.grant.client.inner]? with
    | none => none
    | some built =>
      match exchange.phase.act reqwest built.pool action with
      | none => none
      | some (pool, phase) =>
        some { state with
          registry := put state.registry exchange.grant.client.inner pool
          exchanges := state.exchanges.set index { exchange with phase := phase }
          loaded := state.loaded ++ action.reads exchange.grant.client.inner }

/-- What a caller finds who asks for a pool. -/
def around {Url : Type} (state : State Client Url) (now : Nat) (contents : Contents) (files : FileSystem) :
    Surroundings Client where
  now := now
  files := files
  named_client name := state.named_clients.bind fun clients => clients.lookup name
  pool settings := ClientFiles.pool reqwest settings contents

/-- A call that is answered: with a client for the name and the settings that it
    asks for, or with an error. -/
def asks {Url : Type} (state : State Client Url) (call : Call Client) (contents : Contents) : State Client Url :=
  let (registry, result) := state.registry.call call
  { state with
    registry := registry
    granted := match call.asks, result with
      | some (name, settings), .ok client => state.granted ++ [⟨name, settings, client⟩]
      | _, _ => state.granted
    loaded :=
      if state.registry.built.length < registry.built.length then
        state.loaded ++ [(state.registry.built.length, contents)]
      else state.loaded }

def step (state : State Client parser.Url) : Event → Option (State Client parser.Url)
  -- Set once; a later one is let fall.
  | .set_named_clients clients => some { state with named_clients := state.named_clients.or (some clients) }
  | .call request now contents files =>
    some (asks state ⟨request, around reqwest state now contents files⟩ contents)
  | .request grant asked =>
    match state.granted[grant]? with
    | none => none
    | some grant =>
      match asked.request parser crates grant.client with
      -- The caller has the error, and nothing is sent.
      | .error _ => some state
      | .ok sent => some { state with exchanges := state.exchanges ++ [⟨grant, asked, sent, .looks⟩] }
  | .act index action => act reqwest state index action

end

/-! ### What a step does -/

section
variable {Client : Type} {reqwest : Reqwest Client} {parser : UrlParser} {crates : Crates}

/-- A call leaves the pools that there are, and adds at most one: for the name and
    the settings that it asks for, with a client that was built from them. -/
theorem call_built (registry : Registry Client) (call : Call Client) :
    (registry.call call).1.built = registry.built ∨
      ∃ name settings client, call.around.pool settings = .ok client ∧
        (registry.call call).1.built = registry.built ++ [⟨name, settings, Pool.of call.around settings client⟩] := by
  rcases Registry.call_eq registry call with ⟨name, settings, -, result⟩ | ⟨name, -, result⟩
  · rw [result]
    cases known : registry.pools.lookup name with
    | some entry =>
      left
      simp only [Registry.pooled, known]
      split_ifs <;> rfl
    | none =>
      cases built : call.around.pool settings with
      | error error =>
        left
        simp only [Registry.pooled, known, built]
      | ok client =>
        right
        refine ⟨name, settings, client, built, ?_⟩
        simp only [Registry.pooled, known, built]
  · rw [result]
    exact Or.inl rfl

/-- The settings that a pool is built again from are those it was built from, and
    one without a period is not built again. -/
theorem of_reload (around : Surroundings Client) (settings : ClientConfig) (client : Client) :
    (Pool.of around settings client).current = client ∧
      (∀ reload ∈ (Pool.of around settings client).reload, reload.settings = settings) ∧
      ((Pool.of around settings client).reload.isSome ↔ ∃ seconds ∈ settings.reload_seconds, 0 < seconds) := by
  unfold Pool.of
  cases settings.reload_seconds with
  | none => exact ⟨rfl, nofun, by simp [Pool.fixed]⟩
  | some seconds =>
    dsimp only
    split_ifs with period
    · refine ⟨rfl, ?_, by simp [period]⟩
      rintro reload ⟨⟩
      rfl
    · exact ⟨rfl, nofun, by simp [Pool.fixed, Nat.eq_zero_of_not_pos period]⟩

/-- What a step of a request makes of its pool and of itself. -/
inductive Acts (reqwest : Reqwest Client) (pool : Pool Client) (phase : Phase Client) :
    Action → Pool Client → Phase Client → Prop
  | passes {now : Nat} {files : FileSystem} (here : phase = .looks) :
    Acts reqwest pool phase (.look now files) pool .reads
  | looks {now : Nat} {files : FileSystem} {reload : Reload} (here : phase = .looks) (reloads : pool.reload = some reload)
    {after : Phase Client} (follows : after = .builds reload.settings ∨ after = .reads) :
    Acts reqwest pool phase (.look now files)
      { pool with reload := some { reload with seen := (now, PoolReload.stamps reload.settings files) } } after
  | builds {settings : ClientConfig} {contents : Contents} {client : Client} (here : phase = .builds settings)
    (built : ClientFiles.pool reqwest settings contents = .ok client) :
    Acts reqwest pool phase (.build contents) pool (.writes client)
  | keeps {settings : ClientConfig} {contents : Contents} (here : phase = .builds settings) :
    Acts reqwest pool phase (.build contents) pool .reads
  | writes {client : Client} (here : phase = .writes client) :
    Acts reqwest pool phase .write { pool with current := client } .reads
  | reads (here : phase = .reads) : Acts reqwest pool phase .read pool (.awaits_response pool.current)
  | goes_on {sender : Client} {action : Action} {after : Phase Client} (here : phase.sender = some sender)
    (there : after.sender = some sender) (none_read : ∀ inner, action.reads inner = []) :
    Acts reqwest pool phase action pool after

theorem acts {pool after : Pool Client} {phase next : Phase Client} {action : Action}
    (acted : phase.act reqwest pool action = some (after, next)) : Acts reqwest pool phase action after next := by
  unfold Phase.act at acted
  split at acted
  · split at acted
    · cases acted
      exact .passes rfl
    · rename_i reload reloads
      split_ifs at acted
      · cases acted
        exact .passes rfl
      · cases acted
        refine .looks rfl reloads ?_
        split_ifs
        · exact Or.inl rfl
        · exact Or.inr rfl
  · split at acted
    · rename_i client built
      cases acted
      exact .builds rfl built
    · cases acted
      exact .keeps rfl
  · cases acted
    exact .writes rfl
  · cases acted
    exact .reads rfl
  · cases acted
    exact .goes_on rfl rfl fun _ => rfl
  · cases acted
    exact .goes_on rfl rfl fun _ => rfl
  · cases acted
    exact .goes_on rfl rfl fun _ => rfl
  · cases acted
    exact .goes_on rfl rfl fun _ => rfl
  · cases acted
    exact .goes_on rfl rfl fun _ => rfl
  · cases acted
    exact .goes_on rfl rfl fun _ => rfl
  · cases acted

/-! ### What holds between steps -/

/-- The client was built from the settings and something that was read for the
    pool of the index. -/
def Made (reqwest : Reqwest Client) (loaded : List (Nat × Contents)) (inner : Nat) (settings : ClientConfig)
    (client : Client) : Prop :=
  ∃ contents, (inner, contents) ∈ loaded ∧ ClientFiles.pool reqwest settings contents = .ok client

theorem Made.mono {loaded more : List (Nat × Contents)} {inner : Nat} {settings : ClientConfig} {client : Client}
    (made : Made reqwest loaded inner settings client) (grows : loaded ⊆ more) : Made reqwest more inner settings client :=
  made.imp fun _ built => ⟨grows built.1, built.2⟩

/-- A pool holds a client that was made for its name; and where it has no period,
    something was read for it only once. -/
structure Kept (reqwest : Reqwest Client) (loaded : List (Nat × Contents)) (inner : Nat) (built : Built Client) :
    Prop where
  current : Made reqwest loaded inner built.settings built.pool.current
  reload : ∀ reload ∈ built.pool.reload, reload.settings = built.settings
  period : built.pool.reload.isSome ↔ ∃ seconds ∈ built.settings.reload_seconds, 0 < seconds
  once : built.pool.reload = none → ∀ contents contents', (inner, contents) ∈ loaded → (inner, contents') ∈ loaded →
    contents = contents'

/-- A request goes by the grant it was made on, and by clients that were made for
    it. -/
structure Stands (reqwest : Reqwest Client) (parser : UrlParser) (crates : Crates) (state : State Client parser.Url)
    (exchange : Exchange Client parser.Url) : Prop where
  granted : exchange.grant ∈ state.granted
  sent : exchange.asked.request parser crates exchange.grant.client = .ok exchange.sent
  builds : ∀ settings, exchange.phase = .builds settings → settings = exchange.grant.settings ∧
    ∃ seconds ∈ settings.reload_seconds, 0 < seconds
  writes : ∀ client, exchange.phase = .writes client →
    Made reqwest state.loaded exchange.grant.client.inner exchange.grant.settings client
  sender : ∀ client ∈ exchange.phase.sender,
    Made reqwest state.loaded exchange.grant.client.inner exchange.grant.settings client

structure Sound (reqwest : Reqwest Client) (parser : UrlParser) (crates : Crates) (state : State Client parser.Url) :
    Prop where
  registry : Registry.Sound state.registry
  granted : ∀ grant ∈ state.granted, state.registry.table grant.name = some (grant.settings, grant.client)
  pools : ∀ inner built, state.registry.built[inner]? = some built → Kept reqwest state.loaded inner built
  known : ∀ read ∈ state.loaded, read.1 < state.registry.built.length
  exchanges : ∀ exchange ∈ state.exchanges, Stands reqwest parser crates state exchange

/-- A request stands as long as what it goes by is there. -/
theorem Stands.mono {state next : State Client parser.Url} {exchange : Exchange Client parser.Url}
    (stands : Stands reqwest parser crates state exchange) (grants : state.granted ⊆ next.granted)
    (reads : state.loaded ⊆ next.loaded) : Stands reqwest parser crates next exchange where
  granted := grants stands.granted
  sent := stands.sent
  builds := stands.builds
  writes := fun client here => (stands.writes client here).mono reads
  sender := fun client here => (stands.sender client here).mono reads

theorem new_sound : Sound reqwest parser crates (State.new : State Client parser.Url) where
  registry := Registry.sound_empty
  granted := fun _ member => absurd member List.not_mem_nil
  pools := fun _ _ found => by simp [State.new, Registry.empty] at found
  known := fun _ member => absurd member List.not_mem_nil
  exchanges := fun _ member => absurd member List.not_mem_nil

/-! #### Calls -/

/-- A call that is served adds what it asked for to what was handed out. -/
theorem asks_granted (state : State Client parser.Url) (call : Call Client) (contents : Contents) :
    (asks state call contents).granted = state.granted ∨
      ∃ name settings client, call.asks = some (name, settings) ∧ (state.registry.call call).2 = .ok client ∧
        (asks state call contents).granted = state.granted ++ [⟨name, settings, client⟩] := by
  unfold asks
  dsimp only
  split
  · rename_i name settings client asked served
    exact Or.inr ⟨name, settings, client, asked, served, rfl⟩
  · exact Or.inl rfl

/-- What is read for other pools leaves a pool as it is. -/
theorem Kept.append {loaded more : List (Nat × Contents)} {inner : Nat} {built : Built Client}
    (kept : Kept reqwest loaded inner built) (others : ∀ read ∈ more, read.1 ≠ inner) :
    Kept reqwest (loaded ++ more) inner built := by
  have earlier : ∀ read, (inner, read) ∈ loaded ++ more → (inner, read) ∈ loaded := by
    intro read member
    rcases List.mem_append.mp member with there | new
    · exact there
    · exact absurd rfl (others _ new)
  refine ⟨kept.current.mono (List.subset_append_left _ _), kept.reload, kept.period, ?_⟩
  intro fixed read read' member member'
  exact kept.once fixed read read' (earlier read member) (earlier read' member')

theorem Action.reads_inner (action : Action) {inner : Nat} : ∀ read ∈ action.reads inner, read.1 = inner := by
  intro read member
  unfold Action.reads at member
  split at member
  · rw [List.mem_singleton.mp member]
  · cases member

/-- A pool that was just built is as its name asked for. -/
theorem kept_of {loaded : List (Nat × Contents)} {inner : Nat} {contents : Contents} {around : Surroundings Client}
    {name : Text} {settings : ClientConfig} {client : Client} (unread : ∀ read, (inner, read) ∉ loaded)
    (built : ClientFiles.pool reqwest settings contents = .ok client) :
    Kept reqwest (loaded ++ [(inner, contents)]) inner ⟨name, settings, Pool.of around settings client⟩ := by
  obtain ⟨current, reload, period⟩ := of_reload around settings client
  have only : ∀ read, (inner, read) ∈ loaded ++ [(inner, contents)] → read = contents := by
    intro read member
    rcases List.mem_append.mp member with there | new
    · exact absurd there (unread read)
    · exact (Prod.mk.inj (List.mem_singleton.mp new)).2
  refine ⟨⟨contents, List.mem_append_right _ (List.mem_singleton_self _), ?_⟩, reload, period, ?_⟩
  · rw [current]
    exact built
  · intro _ read read' member member'
    rw [only read member, only read' member']

theorem asks_sound {state : State Client parser.Url} (sound : Sound reqwest parser crates state)
    (request : Outbound.Request) (now : Nat) (contents : Contents) (files : FileSystem) :
    Sound reqwest parser crates (asks state ⟨request, around reqwest state now contents files⟩ contents) := by
  have grants := asks_granted state ⟨request, around reqwest state now contents files⟩ contents
  have more_granted : state.granted ⊆
      (asks state ⟨request, around reqwest state now contents files⟩ contents).granted := by
    rcases grants with same | ⟨name, settings, client, -, -, more⟩
    · rw [same]
      exact List.Subset.refl _
    · rw [more]
      exact List.subset_append_left _ _
  have granted : ∀ grant ∈ (asks state ⟨request, around reqwest state now contents files⟩ contents).granted,
      (asks state ⟨request, around reqwest state now contents files⟩ contents).registry.table grant.name =
        some (grant.settings, grant.client) := by
    intro grant member
    rcases grants with same | ⟨name, settings, client, asked, served, more⟩
    · rw [same] at member
      exact Registry.call_keeps (sound.granted grant member) _
    · rw [more] at member
      rcases List.mem_append.mp member with earlier | new
      · exact Registry.call_keeps (sound.granted grant earlier) _
      · rw [List.mem_singleton.mp new]
        exact Registry.call_served asked served
  have registry := Registry.sound_call sound.registry ⟨request, around reqwest state now contents files⟩
  rcases call_built state.registry ⟨request, around reqwest state now contents files⟩ with same |
    ⟨name, settings, client, built, added⟩
  · have loaded : (asks state ⟨request, around reqwest state now contents files⟩ contents).loaded = state.loaded := by
      simp [asks, same]
    refine ⟨registry, granted, ?_, ?_, ?_⟩
    · rw [loaded]
      intro inner built found
      exact sound.pools inner built (same ▸ found)
    · rw [loaded]
      intro read member
      exact same ▸ sound.known read member
    · intro exchange member
      exact (sound.exchanges exchange member).mono more_granted (loaded ▸ List.Subset.refl _)
  · have loaded : (asks state ⟨request, around reqwest state now contents files⟩ contents).loaded =
        state.loaded ++ [(state.registry.built.length, contents)] := by
      simp [asks, added]
    have more_loaded := List.subset_append_left state.loaded [(state.registry.built.length, contents)]
    refine ⟨registry, granted, ?_, ?_, ?_⟩
    · rw [loaded]
      intro inner here found
      change (Registry.call _ _).1.built[inner]? = some here at found
      rw [added, List.getElem?_append] at found
      split_ifs at found with inside
      · refine (sound.pools inner here found).append fun read member => ?_
        rw [List.mem_singleton.mp member]
        exact Nat.ne_of_gt inside
      · obtain ⟨last, rfl⟩ := List.getElem?_eq_some_iff.mp found
        simp only [List.length_singleton] at last
        obtain rfl : inner = state.registry.built.length := by omega
        simp only [Nat.sub_self, List.getElem_cons_zero]
        exact kept_of (fun read member => Nat.lt_irrefl _ (sound.known _ member)) built
    · rw [loaded]
      intro read member
      change read.1 < (Registry.call _ _).1.built.length
      rw [added, List.length_append, List.length_singleton]
      rcases List.mem_append.mp member with there | new
      · exact Nat.lt_succ_of_lt (sound.known read there)
      · rw [List.mem_singleton.mp new]
        exact Nat.lt_succ_self _
    · intro exchange member
      exact (sound.exchanges exchange member).mono more_granted (loaded ▸ more_loaded)

/-! #### Requests -/

theorem put_table (registry : Registry Client) (inner : Nat) (pool : Pool Client) (name : Text) :
    (put registry inner pool).table name = registry.table name := rfl

theorem put_built {registry : Registry Client} {inner other : Nat} {pool : Pool Client} :
    (put registry inner pool).built[other]? =
      registry.built[other]?.map fun built => if other = inner then { built with pool := pool } else built := by
  rw [put, List.getElem?_modify]
  by_cases same : inner = other
  · simp [same]
  · simp [same, Ne.symm same]

theorem put_names (registry : Registry Client) (inner : Nat) (pool : Pool Client) :
    (put registry inner pool).built.map Built.name = registry.built.map Built.name := by
  refine List.ext_getElem? fun other => ?_
  rw [List.getElem?_map, List.getElem?_map, put_built, Option.map_map]
  refine congrArg (fun name => registry.built[other]?.map name) (funext fun built => ?_)
  dsimp only [Function.comp_apply]
  split_ifs <;> rfl

theorem put_sound {registry : Registry Client} (sound : Registry.Sound registry) (inner : Nat) (pool : Pool Client) :
    Registry.Sound (put registry inner pool) where
  entries := by
    intro name settings client known
    obtain ⟨base_url, before, found⟩ := sound.entries name settings client known
    refine ⟨base_url, if client.inner = inner then pool else before, ?_⟩
    rw [put_built, found]
    split_ifs <;> rfl
  remembered := by
    intro built member
    have named : built.name ∈ (put registry inner pool).built.map Built.name := List.mem_map_of_mem member
    rw [put_names] at named
    obtain ⟨before, there, same⟩ := List.mem_map.mp named
    rw [← same, put_table]
    exact sound.remembered before there
  once := by
    rw [put_names]
    exact sound.once

/-- What a step of a request keeps of its pool, and what is then known of the
    request. -/
theorem acts_kept {loaded : List (Nat × Contents)} {inner : Nat} {built : Built Client} {phase next : Phase Client}
    {pool : Pool Client} {action : Action} (acted : Acts reqwest built.pool phase action pool next)
    (kept : Kept reqwest loaded inner built)
    (builds : ∀ settings, phase = .builds settings → settings = built.settings ∧
      ∃ seconds ∈ settings.reload_seconds, 0 < seconds)
    (writes : ∀ client, phase = .writes client → Made reqwest loaded inner built.settings client) :
    Kept reqwest (loaded ++ action.reads inner) inner { built with pool := pool } := by
  cases acted with
  | passes here | reads here => simpa [Action.reads] using kept
  | goes_on here there none_read =>
    rw [none_read, List.append_nil]
    exact kept
  | looks here reloads follows =>
    rename_i now files reload
    show Kept reqwest (loaded ++ []) inner _
    rw [List.append_nil]
    refine ⟨kept.current, ?_, ?_, nofun⟩
    · rintro _ ⟨⟩
      exact kept.reload reload reloads
    · refine iff_of_true rfl ?_
      exact kept.period.mp (by rw [reloads]; rfl)
  | writes here =>
    show Kept reqwest (loaded ++ []) inner _
    rw [List.append_nil]
    exact ⟨writes _ here, kept.reload, kept.period, kept.once⟩
  | builds here _ | keeps here =>
    obtain ⟨rfl, period⟩ := builds _ here
    have reloads := kept.period.mpr period
    refine ⟨kept.current.mono (List.subset_append_left _ _), kept.reload, kept.period, fun fixed => ?_⟩
    rw [fixed] at reloads
    cases reloads

/-- A step of a request leaves it standing. -/
theorem acts_stands {state next : State Client parser.Url} {exchange : Exchange Client parser.Url} {built : Built Client}
    {pool : Pool Client} {phase : Phase Client} {action : Action}
    (acted : Acts reqwest built.pool exchange.phase action pool phase)
    (kept : Kept reqwest state.loaded exchange.grant.client.inner built)
    (settled : built.settings = exchange.grant.settings) (stands : Stands reqwest parser crates state exchange)
    (grants : state.granted ⊆ next.granted) (reads : next.loaded = state.loaded ++ action.reads exchange.grant.client.inner) :
    Stands reqwest parser crates next { exchange with phase := phase } := by
  have more : state.loaded ⊆ next.loaded := by
    rw [reads]
    exact List.subset_append_left _ _
  refine ⟨grants stands.granted, stands.sent, ?_, ?_, ?_⟩
  · rintro settings rfl
    cases acted with
    | looks here reloads follows =>
      rcases follows with builds | reads
      · obtain rfl := Phase.builds.inj builds
        have same := kept.reload _ reloads
        rw [same, ← settled]
        exact ⟨rfl, kept.period.mp (by rw [reloads]; rfl)⟩
      · cases reads
    | goes_on here there => cases there
  · rintro client rfl
    cases acted with
    | looks here reloads follows => rcases follows with builds | reads <;> contradiction
    | builds here made =>
      obtain ⟨rfl, -⟩ := stands.builds _ here
      refine ⟨_, ?_, made⟩
      rw [reads]
      exact List.mem_append_right _ (List.mem_singleton_self _)
    | goes_on here there => cases there
  · intro client sends
    cases acted with
    | passes here | keeps here | builds here | writes here => cases sends
    | looks here reloads follows => rcases follows with rfl | rfl <;> cases sends
    | reads here =>
      obtain rfl := Option.some.inj sends
      have current := kept.current
      rw [settled] at current
      exact current.mono more
    | goes_on here there =>
      obtain rfl := Option.some.inj (there.symm.trans sends)
      exact (stands.sender _ here).mono more

/-- What the steps of a request make of the state. -/
theorem act_sound {state next : State Client parser.Url} {index : Nat} {action : Action}
    (acted : act reqwest state index action = some next) (sound : Sound reqwest parser crates state) :
    Sound reqwest parser crates next := by
  unfold act at acted
  split at acted
  · cases acted
  · rename_i exchange found
    have stands := sound.exchanges exchange (List.mem_of_getElem? found)
    obtain ⟨base_url, there, entered⟩ := sound.registry.entries _ _ _ (sound.granted _ stands.granted)
    rw [entered] at acted
    dsimp only at acted
    split at acted
    · cases acted
    · rename_i pool phase acts_here
      cases acted
      have acting := acts acts_here
      have kept := sound.pools _ _ entered
      have reads := List.subset_append_left state.loaded (action.reads exchange.grant.client.inner)
      refine ⟨put_sound sound.registry _ _, sound.granted, ?_, ?_, ?_⟩
      · intro inner built here
        rw [put_built] at here
        obtain ⟨before, standing, rfl⟩ := Option.map_eq_some_iff.mp here
        split_ifs with same
        · subst same
          obtain rfl := Option.some.inj (entered.symm.trans standing)
          exact acts_kept acting kept stands.builds stands.writes
        · refine (sound.pools inner before standing).append fun read member => ?_
          rw [action.reads_inner read member]
          exact Ne.symm same
      · intro read member
        rw [put, List.length_modify]
        rcases List.mem_append.mp member with before | new
        · exact sound.known read before
        · rw [action.reads_inner read new]
          exact (List.getElem?_eq_some_iff.mp entered).1
      · intro other member
        rcases List.mem_or_eq_of_mem_set member with before | rfl
        · exact (sound.exchanges other before).mono (List.Subset.refl _) reads
        · exact acts_stands acting kept rfl stands (List.Subset.refl _) rfl

/-- What one step preserves. -/
theorem step_sound {state next : State Client parser.Url} {event : Event}
    (stepped : step reqwest parser crates state event = some next) (sound : Sound reqwest parser crates state) :
    Sound reqwest parser crates next := by
  cases event with
  | set_named_clients clients =>
    cases stepped
    exact ⟨sound.registry, sound.granted, sound.pools, sound.known, fun exchange member =>
      (sound.exchanges exchange member).mono (List.Subset.refl _) (List.Subset.refl _)⟩
  | call request now contents files =>
    cases stepped
    exact asks_sound sound request now contents files
  | act index action => exact act_sound stepped sound
  | request index asked =>
    simp only [step] at stepped
    split at stepped
    · cases stepped
    · rename_i grant found
      split at stepped
      · cases stepped
        exact sound
      · rename_i sent sends
        cases stepped
        refine ⟨sound.registry, sound.granted, sound.pools, sound.known, fun exchange member => ?_⟩
        rcases List.mem_append.mp member with before | new
        · exact (sound.exchanges exchange before).mono (List.Subset.refl _) (List.Subset.refl _)
        · rw [List.mem_singleton.mp new]
          exact ⟨List.mem_of_getElem? found, sends, nofun, nofun, nofun⟩

theorem run_sound {last : State Client parser.Url} {events : List Event}
    (ran : run (step reqwest parser crates) .new events = some last) : Sound reqwest parser crates last :=
  run_preserves (Sound reqwest parser crates) step_sound ran new_sound

/-! ### Whole runs -/

/-- The request is the one that was asked for, and the client that sends it was
    built, from files that were read for its own pool, with the settings that its
    caller asked with: not weaker than these say, and where they have no period
    the same as sends every other request of the pool. -/
structure AsConfigured (behaviour : Behaviour reqwest) (parser : UrlParser) (crates : Crates)
    (state : State Client parser.Url) (exchange : Exchange Client parser.Url) : Prop where
  granted : exchange.grant ∈ state.granted
  sent : exchange.asked.request parser crates exchange.grant.client = .ok exchange.sent
  built : ∀ sender ∈ exchange.phase.sender, ∃ contents, (exchange.grant.client.inner, contents) ∈ state.loaded ∧
    ClientFiles.pool reqwest exchange.grant.settings contents = .ok sender ∧
    (exchange.grant.settings.cert.isSome = exchange.grant.settings.key.isSome →
      NotWeaker behaviour exchange.grant.settings.verify contents.verify exchange.grant.settings.verify_only
        (exchange.grant.settings.cert.isSome || exchange.grant.settings.key.isSome) sender)
  fixed : (∀ seconds ∈ exchange.grant.settings.reload_seconds, seconds = 0) → ∀ other ∈ state.exchanges,
    other.grant = exchange.grant → ∀ sender ∈ exchange.phase.sender, ∀ sender' ∈ other.phase.sender, sender = sender'

/-- Clients that were handed out share a pool exactly when they were for one name,
    and then they were for the same settings. -/
def Apart (granted : List Grant) : Prop :=
  ∀ grant ∈ granted, grant.client.base_url = grant.settings.base_url ∧
    ∀ other ∈ granted, grant.name = other.name ∨ grant.client.inner = other.client.inner → grant = other

theorem Sound.apart {state : State Client parser.Url} (sound : Sound reqwest parser crates state) :
    Apart state.granted := by
  intro grant member
  have known := sound.granted grant member
  obtain ⟨base_url, pool, entered⟩ := sound.registry.entries _ _ _ known
  refine ⟨base_url, fun other other_member shared => ?_⟩
  have other_known := sound.granted other other_member
  have same : grant.name = other.name := by
    rcases shared with name | inner
    · exact name
    · obtain ⟨-, other_pool, other_entered⟩ := sound.registry.entries _ _ _ other_known
      rw [← inner, entered] at other_entered
      exact congrArg Built.name (Option.some.inj other_entered)
  obtain ⟨name, settings, client⟩ := grant
  obtain ⟨other_name, other_settings, other_client⟩ := other
  obtain rfl : name = other_name := same
  obtain ⟨rfl, rfl⟩ := Prod.mk.inj (Option.some.inj (known.symm.trans other_known))
  rfl

/-- In every interleaving of callers, requests and rebuilds, a request is as it was
    asked for and sent by a client that is as configured for its name, and no pool
    serves two names or two settings. -/
theorem every_request_as_configured (behaviour : Behaviour reqwest) {events : List Event}
    {last : State Client parser.Url} (ran : run (step reqwest parser crates) .new events = some last) :
    (∀ exchange ∈ last.exchanges, AsConfigured behaviour parser crates last exchange) ∧ Apart last.granted := by
  have sound := run_sound ran
  refine ⟨fun exchange member => ?_, sound.apart⟩
  have stands := sound.exchanges exchange member
  obtain ⟨-, pool, entered⟩ := sound.registry.entries _ _ _ (sound.granted _ stands.granted)
  have kept := sound.pools _ _ entered
  refine ⟨stands.granted, stands.sent, fun sender sends => ?_, fun without other other_member same => ?_⟩
  · obtain ⟨contents, read, built⟩ := stands.sender sender sends
    exact ⟨contents, read, built, fun paired => pool_not_weaker paired built⟩
  · intro sender sends sender' sends'
    have no_reload : pool.reload = none := by
      rw [← Option.not_isSome_iff_eq_none, kept.period]
      rintro ⟨seconds, given, positive⟩
      rw [without seconds given] at positive
      exact Nat.lt_irrefl _ positive
    obtain ⟨contents, read, built⟩ := stands.sender sender sends
    obtain ⟨contents', read', built'⟩ := (sound.exchanges other other_member).sender sender' sends'
    rw [same] at read' built'
    rw [kept.once no_reload contents' contents read' read] at built'
    exact Except.ok.inj (built.symm.trans built')

end

/-! A request that builds the pool again while another one is sent by the client
that was there. -/

/-- A script asks for `api`, whose bundle is replaced before its two requests; the
    first builds the pool again while the second reads it. -/
def rebuilding : List Event :=
  [.set_named_clients [(lit "api", PoolReload.verifying)],
    .call (.from_named (lit "api")) 0 ⟨some [0], none, none⟩ (PoolReload.bundle 0),
    .request 0 ⟨lit "GET", lit "http://api.internal/v1", [], none⟩,
    .request 0 ⟨lit "GET", lit "http://api.internal/v2", [], none⟩,
    .act 0 (.look 1 (PoolReload.bundle 1)), .act 1 (.look 1 (PoolReload.bundle 1)),
    .act 0 (.build ⟨some [1], none, none⟩), .act 1 .read, .act 0 .write, .act 0 .read]

theorem sent_while_rebuilt :
    ∃ last, run (step transparent splitting Dispatch.plainCrates) .new rebuilding = some last ∧
      last.exchanges.map (fun exchange => exchange.phase.sender) = [some (trusts 1), some (trusts 0)] ∧
      ∀ exchange ∈ last.exchanges, AsConfigured transparentBehaviour splitting Dispatch.plainCrates last exchange := by
  have sends : (run (step transparent splitting Dispatch.plainCrates) .new rebuilding).map
      (fun last => last.exchanges.map fun exchange => exchange.phase.sender) =
        some [some (trusts 1), some (trusts 0)] := by decide +kernel
  obtain ⟨last, ran, senders⟩ := Option.map_eq_some_iff.mp sends
  exact ⟨last, ran, senders, (every_request_as_configured transparentBehaviour ran).1⟩

end SiphonHttp.Exchanges
