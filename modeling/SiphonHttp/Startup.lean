import SiphonHttp.Config
import SiphonHttp.Routes

/-!
How `spawn_with` of `runtime.rs` starts, as far as it may refuse to: the options
of the routes are read, a route may only name listeners that are configured, and
every listener has to come to be bound. A route that names no listener at all, or
no method, is let through, and served nowhere (`started_route_served`).
-/
namespace SiphonHttp.Startup
open Text Config Dispatch Routes

/-! ### Reading the options of a route -/

/-- A Python value, as far as it is told apart when options are read. -/
inductive PyValue
  | None
  | Str (text : Text)
  | Strs (texts : List Text)
  | Other
  deriving DecidableEq, Repr

inductive OptionsError
  | ValueError (message : Text)
  | TypeError
  deriving DecidableEq, Repr

/-- `extract::<String>`. -/
def PyValue.extract_string : PyValue → Except OptionsError Text
  | .Str text => .ok text
  | _ => .error .TypeError

/-- `extract::<Vec<String>>`. -/
def PyValue.extract_strings : PyValue → Except OptionsError (List Text)
  | .Strs texts => .ok texts
  | _ => .error .TypeError

/-- The options dict of a handler. -/
structure PyDict where
  path : Option PyValue
  methods : Option PyValue
  listeners : Option PyValue
  handler : Option Callable

/-- What siphon keeps of a registered function: it is marked as what it is. -/
structure HandlerHandle where
  kind : Text
  is_async : Bool
  options : Option PyDict
  marked : ∀ opts ∈ options, ∀ callable ∈ opts.handler, is_async = callable.coroutine_function

def from_handle (handle : HandlerHandle) : Except OptionsError Stage :=
  match carried : handle.options with
  | none => .error (.ValueError (handle.kind ++ lit " has no options"))
  | some opts =>
    match stored : opts.handler with
    | none => .error (.ValueError (handle.kind ++ lit " options carry no handler"))
    | some callable => .ok ⟨callable, handle.is_async, handle.marked opts carried callable stored⟩

/-- The options of a route, its path as it was given. -/
structure RouteOptions where
  path : Text
  methods : List Text
  listeners : Option (List Text)
  deriving DecidableEq, Repr

def RouteOptions.scope (options : RouteOptions) : RouteScope := ⟨options.methods, options.listeners⟩

section
variable (is_method : Text → Bool)

/-- Methods that are none are left out; `is_method` is whether
    `Method::from_bytes` takes one. -/
def route_options (opts : PyDict) : Except OptionsError RouteOptions := do
  let path ← match opts.path with
    | some value => value.extract_string
    | none => .error (.ValueError (lit "http.route options missing 'path'"))
  let methods ← match opts.methods with
    | some value => value.extract_strings
    | none => .error (.ValueError (lit "http.route options missing 'methods'"))
  let listeners ← match opts.listeners with
    | some .None | none => .ok none
    | some value => value.extract_strings.map some
  return ⟨path, methods.filter is_method, listeners⟩

def read_route_options (handle : HandlerHandle) : Except OptionsError RouteOptions :=
  match handle.options with
  | none => .error (.ValueError (lit "http.route missing options"))
  | some opts => route_options is_method opts

def read_route (handle : HandlerHandle) : Except OptionsError (RouteOptions × Stage) := do
  let options ← read_route_options is_method handle
  let stage ← from_handle handle
  return (options, stage)

/-- A route that is malformed is skipped. -/
def read_routes (handles : List HandlerHandle) : List (RouteOptions × Stage) :=
  handles.filterMap fun handle => (read_route is_method handle).toOption

end

/-! ### What is checked -/

/-- The scopes of `build_router`, which enters no route without a path; in which
    order makes no difference. -/
def scopes (routes : List (RouteOptions × Stage)) : List (Text × RouteScope) :=
  (routes.filter fun route => decide (route.1.path ≠ [])).map fun route => (route.1.path, route.1.scope)

def unknown_route_listeners (routes : List (Text × RouteScope)) (servers : List ServerConfig) : List (Text × Text) :=
  routes.flatMap fun route =>
    ((route.2.listeners.getD []).filter fun name => !servers.any (·.listener_name = name)).map (route.1, ·)

def listener_failures_are_fatal (route_count failures : Nat) : Bool := decide (0 < route_count ∧ 0 < failures)

/-! ### Starting -/

/-- A `servers[]` entry, with the field that only binding it reads. -/
structure ServerEntry extends ServerConfig where
  dscp : Option Nat
  deriving DecidableEq, Repr

inductive Refusal (ListenerError : Type)
  | middleware (error : OptionsError)
  | unknown_listeners (unknown : List (Text × Text))
  | listener_failures (failures : List ListenerError) (route_count : Nat)
  deriving DecidableEq, Repr

/-- What the router is built of, and the listeners that are to serve it. -/
structure Started (Bound : Type) where
  routes : List (RouteOptions × Stage)
  middlewares : List Stage
  bound : List Bound

/-- The listeners that could be bound, and the errors of the others. -/
def bind_all {ListenerError Bound : Type} (bind_listener : ServerEntry → Except ListenerError Bound) :
    List ServerEntry → List Bound × List ListenerError
  | [] => ([], [])
  | server :: servers =>
    let (bound, failures) := bind_all bind_listener servers
    match bind_listener server with
    | .ok listener => (listener :: bound, failures)
    | .error error => (bound, error :: failures)

def spawn_with {ListenerError Bound : Type} (is_method : Text → Bool)
    (bind_listener : ServerEntry → Except ListenerError Bound) (servers : List ServerEntry)
    (routes middlewares : List HandlerHandle) : Except (Refusal ListenerError) (Started Bound) :=
  let routes := read_routes is_method routes
  match middlewares.mapM from_handle with
  | .error error => .error (.middleware error)
  | .ok middlewares =>
    let unknown := unknown_route_listeners (scopes routes) (servers.map (·.toServerConfig))
    if unknown ≠ [] then .error (.unknown_listeners unknown)
    else
      let (bound, failures) := bind_all bind_listener servers
      if listener_failures_are_fatal routes.length failures.length then
        .error (.listener_failures failures routes.length)
      else .ok ⟨routes, middlewares, bound⟩

/-- The dict that `http.route` registers for a function, whose methods it has put
    in upper case and whose listeners are a list, if any are given. -/
def registered (path : Text) (methods : List Text) (listeners : Option (List Text)) (handler : Callable) : PyDict :=
  ⟨some (.Str path), some (.Strs methods), some (listeners.elim .None .Strs), some handler⟩

/-- Some listener serves the scope, for some method. -/
def Served (servers : List ServerEntry) (scope : RouteScope) : Prop :=
  ∃ server ∈ servers, ∃ method ∈ scope.methods, scope.serves_listener (some server.listener_name) = true

instance (servers : List ServerEntry) (scope : RouteScope) : Decidable (Served servers scope) :=
  inferInstanceAs (Decidable (∃ server ∈ servers, ∃ method ∈ scope.methods, _))

/-! ### Routes that are read -/

section
variable {is_method : Text → Bool}

/-- What is read of the options that `http.route` registers. -/
theorem route_options_registered {path : Text} {methods : List Text} {listeners : Option (List Text)}
    {handler : Callable} :
    route_options is_method (registered path methods listeners handler) =
      .ok ⟨path, methods.filter is_method, listeners⟩ := by
  cases listeners <;> rfl

theorem from_handle_ok {handle : HandlerHandle} {opts : PyDict} {callable : Callable}
    (carried : handle.options = some opts) (stored : opts.handler = some callable) :
    ∃ stage, from_handle handle = .ok stage := by
  unfold from_handle
  split
  · rename_i none_carried
    rw [carried] at none_carried
    cases none_carried
  · rename_i others others_carried
    obtain rfl := Option.some.inj (carried.symm.trans others_carried)
    split
    · rename_i none_stored
      rw [stored] at none_stored
      cases none_stored
    · exact ⟨_, rfl⟩

/-- A function that `http.route` registered is among the routes. -/
theorem mem_read_routes {handles : List HandlerHandle} {handle : HandlerHandle} (member : handle ∈ handles)
    {path : Text} {methods : List Text} {listeners : Option (List Text)} {handler : Callable}
    (opts : handle.options = some (registered path methods listeners handler)) :
    ∃ options stage, read_route_options is_method handle = .ok options ∧
      options = ⟨path, methods.filter is_method, listeners⟩ ∧ (options, stage) ∈ read_routes is_method handles := by
  obtain ⟨stage, staged⟩ := from_handle_ok opts rfl
  have read : read_route_options is_method handle = .ok ⟨path, methods.filter is_method, listeners⟩ := by
    rw [read_route_options, opts]
    exact route_options_registered
  refine ⟨_, stage, read, rfl, List.mem_filterMap.mpr ⟨handle, member, ?_⟩⟩
  rw [read_route, read, staged]
  rfl

theorem mem_scopes {routes : List (RouteOptions × Stage)} {options : RouteOptions} {stage : Stage}
    (member : (options, stage) ∈ routes) (named : options.path ≠ []) : (options.path, options.scope) ∈ scopes routes :=
  List.mem_map.mpr ⟨(options, stage), List.mem_filter.mpr ⟨member, decide_eq_true named⟩, rfl⟩

/-- A route of the router, as it was read. -/
def as_read (route : Registered) : RouteOptions × Stage :=
  (⟨route.1.path.text, route.1.methods, route.1.listeners⟩, route.2)

/-- The scopes that are checked are those that the router has under each path. -/
theorem mem_scopes_by_path {routes : List Registered} {middlewares : List Stage} {template : Template}
    {scope : RouteScope} :
    (template.text, scope) ∈ scopes (routes.map as_read) ↔
      ∃ entry ∈ (by_path routes middlewares).entries template, entry.scope = scope := by
  rw [by_path_entries, scopes, List.mem_map]
  constructor
  · rintro ⟨read, member, same⟩
    obtain ⟨listed, named⟩ := List.mem_filter.mp member
    obtain ⟨route, route_member, rfl⟩ := List.mem_map.mp listed
    obtain ⟨same_text, rfl⟩ := Prod.mk.inj same
    have path : route.1.path = template := Template.text_injective same_text
    have entered_here : route ∈ entered routes template :=
      List.mem_filter.mpr ⟨route_member, decide_eq_true ⟨path, same_text ▸ of_decide_eq_true named⟩⟩
    exact ⟨entry_of middlewares route, List.mem_map_of_mem entered_here, rfl⟩
  · rintro ⟨entry, member, rfl⟩
    obtain ⟨route, entered_here, rfl⟩ := List.mem_map.mp member
    obtain ⟨route_member, decided⟩ := List.mem_filter.mp entered_here
    obtain ⟨rfl, named⟩ := of_decide_eq_true decided
    exact ⟨as_read route, List.mem_filter.mpr ⟨List.mem_map_of_mem route_member, decide_eq_true named⟩, rfl⟩

/-! ### What starting says -/

theorem unknown_route_listeners_nil {routes : List (Text × RouteScope)} {servers : List ServerConfig} :
    unknown_route_listeners routes servers = [] ↔
      ∀ route ∈ routes, ∀ names ∈ route.2.listeners, ∀ name ∈ names,
        ∃ server ∈ servers, server.listener_name = name := by
  unfold unknown_route_listeners
  rw [List.flatMap_eq_nil_iff]
  refine forall₂_congr fun route member => ?_
  rw [List.map_eq_nil_iff, List.filter_eq_nil_iff]
  cases route.2.listeners <;> simp

variable {ListenerError Bound : Type} {bind_listener : ServerEntry → Except ListenerError Bound}
  {servers : List ServerEntry} {routes middlewares : List HandlerHandle} {started : Started Bound}

/-- When `spawn_with` starts: the middlewares can be read, no route names an
    unknown listener, and with a route no listener failed. -/
theorem spawn_with_ok :
    spawn_with is_method bind_listener servers routes middlewares = .ok started ↔
      started.routes = read_routes is_method routes ∧ middlewares.mapM from_handle = .ok started.middlewares ∧
        unknown_route_listeners (scopes started.routes) (servers.map (·.toServerConfig)) = [] ∧
        started.bound = (bind_all bind_listener servers).1 ∧
        (started.routes ≠ [] → (bind_all bind_listener servers).2 = []) := by
  unfold spawn_with
  dsimp only
  cases read : middlewares.mapM from_handle with
  | error error =>
    refine iff_of_false nofun ?_
    rintro ⟨-, impossible, -⟩
    cases impossible
  | ok stages =>
    dsimp only
    by_cases unknown :
      unknown_route_listeners (scopes (read_routes is_method routes)) (servers.map (·.toServerConfig)) = []
    · rw [if_neg (not_not.mpr unknown)]
      by_cases fatal : listener_failures_are_fatal (read_routes is_method routes).length
          (bind_all bind_listener servers).2.length = true
      · rw [if_pos fatal]
        refine iff_of_false nofun ?_
        rintro ⟨same, -, -, -, none_failed⟩
        obtain ⟨some_route, failed⟩ := of_decide_eq_true fatal
        rw [same] at none_failed
        exact List.ne_nil_of_length_pos failed (none_failed (List.ne_nil_of_length_pos some_route))
      · rw [if_neg fatal]
        constructor
        · rintro ⟨⟩
          refine ⟨rfl, rfl, unknown, rfl, fun some_route => ?_⟩
          by_contra failed
          exact fatal (decide_eq_true ⟨List.length_pos_of_ne_nil some_route, List.length_pos_of_ne_nil failed⟩)
        · obtain ⟨started_routes, started_middlewares, bound⟩ := started
          rintro ⟨rfl, same, -, rfl, -⟩
          cases same
          rfl
    · rw [if_pos unknown]
      refine iff_of_false nofun ?_
      rintro ⟨same, -, known, -⟩
      rw [same] at known
      exact unknown known

/-- Known listeners and a method are enough for a scope to be served, if it does
    not name no listener. -/
theorem served_iff {scope : RouteScope} (some_server : servers ≠ [])
    (known : ∀ names ∈ scope.listeners, ∀ name ∈ names, ∃ server ∈ servers, server.listener_name = name) :
    Served servers scope ↔ scope.methods ≠ [] ∧ scope.listeners ≠ some [] := by
  constructor
  · rintro ⟨server, -, method, method_member, serves⟩
    refine ⟨List.ne_nil_of_mem method_member, ?_⟩
    intro nowhere
    simp [RouteScope.serves_listener, nowhere] at serves
  · rintro ⟨some_method, somewhere⟩
    obtain ⟨method, method_member⟩ := List.exists_mem_of_ne_nil scope.methods some_method
    cases restricted : scope.listeners with
    | none =>
      obtain ⟨server, member⟩ := List.exists_mem_of_ne_nil servers some_server
      exact ⟨server, member, method, method_member, by simp [RouteScope.serves_listener, restricted]⟩
    | some names =>
      have some_name : names ≠ [] := by
        rintro rfl
        exact somewhere restricted
      obtain ⟨name, name_member⟩ := List.exists_mem_of_ne_nil names some_name
      obtain ⟨server, member, called⟩ := known names restricted name name_member
      refine ⟨server, member, method, method_member, ?_⟩
      simpa [RouteScope.serves_listener, restricted, called] using name_member

/-- When `spawn_with` starts, every route that was registered is in the router,
    and it is served somewhere exactly if one of its methods is one and it does not
    name an empty list of listeners. -/
theorem started_route_served (some_server : servers ≠ [])
    (starts : spawn_with is_method bind_listener servers routes middlewares = .ok started)
    {handle : HandlerHandle} (member : handle ∈ routes) {path : Text} {methods : List Text}
    {listeners : Option (List Text)} {handler : Callable}
    (opts : handle.options = some (registered path methods listeners handler)) (named : path ≠ []) :
    ∃ options, read_route_options is_method handle = .ok options ∧ (path, options.scope) ∈ scopes started.routes ∧
      (Served servers options.scope ↔ (∃ method ∈ methods, is_method method = true) ∧ listeners ≠ some []) := by
  obtain ⟨same_routes, -, known, -⟩ := spawn_with_ok.mp starts
  obtain ⟨options, stage, read, rfl, entered⟩ := @mem_read_routes is_method _ _ member _ _ _ _ opts
  rw [← same_routes] at entered
  have in_router := mem_scopes entered named
  refine ⟨_, read, in_router, ?_⟩
  have configured := unknown_route_listeners_nil.mp known _ in_router
  rw [served_iff some_server (fun names restricted name name_member => ?_)]
  · refine and_congr_left fun _ => ?_
    change methods.filter is_method ≠ [] ↔ _
    rw [ne_eq, List.filter_eq_nil_iff]
    simp only [not_forall, not_not, exists_prop]
  · obtain ⟨server, server_member, called⟩ := configured names restricted name name_member
    obtain ⟨entry, entry_member, rfl⟩ := List.mem_map.mp server_member
    exact ⟨entry, entry_member, called⟩

end

/-! One server, and one route that is read with a method that is none, or that
names no listener. -/

/-- A method is a token. -/
def token (text : Text) : Bool :=
  !text.isEmpty && text.all fun c => c.isAlphanum || decide (c ∈ lit "!#$%&'*+-.^_`|~")

def oneServer : List ServerEntry := [⟨⟨lit "192.0.2.1:8080", none, none, 1 <<< 20, 30000, []⟩, none⟩]

def hello (methods : List Text) (listeners : Option (List Text)) : HandlerHandle where
  kind := lit "http.route"
  is_async := false
  options := some (registered (lit "/hello") methods listeners ⟨1, false, false, fun _ => .ok .none⟩)
  marked := by rintro _ ⟨⟩ _ ⟨⟩; rfl

/-- Every address can be bound. -/
def binds (_ : ServerEntry) : Except Text Unit := .ok ()

theorem served_nowhere :
    ((spawn_with token binds oneServer [hello [lit "G E T"] none] []).isOk = true ∧
        read_route_options token (hello [lit "G E T"] none) = .ok ⟨lit "/hello", [], none⟩ ∧
        ¬Served oneServer (RouteOptions.scope ⟨lit "/hello", [], none⟩)) ∧
      (spawn_with token binds oneServer [hello [lit "GET"] (some [])] []).isOk = true ∧
        read_route_options token (hello [lit "GET"] (some [])) = .ok ⟨lit "/hello", [lit "GET"], some []⟩ ∧
        ¬Served oneServer (RouteOptions.scope ⟨lit "/hello", [lit "GET"], some []⟩) := by decide +kernel

theorem one_method_is_enough : Served oneServer ⟨[lit "GET"], none⟩ := by
  have no_refusal : (spawn_with token binds oneServer [hello [lit "G E T", lit "GET"] none] []).isOk = true := by
    decide +kernel
  cases starts : spawn_with token binds oneServer [hello [lit "G E T", lit "GET"] none] [] with
  | error refusal =>
    rw [starts] at no_refusal
    cases no_refusal
  | ok started =>
    obtain ⟨options, read, -, served⟩ :=
      started_route_served (by decide) starts (List.mem_singleton_self _) rfl (by decide)
    have options_read : options = ⟨lit "/hello", [lit "GET"], none⟩ :=
      Except.ok.inj (read.symm.trans (by decide +kernel))
    rw [options_read] at served
    exact served.mpr ⟨⟨lit "GET", by decide, by decide +kernel⟩, by decide⟩

end SiphonHttp.Startup
