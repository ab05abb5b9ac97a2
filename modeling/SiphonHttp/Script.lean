import SiphonHttp.BodyLimit
import SiphonHttp.Startup

/-!
A script, from its decorators to its responses. `python/http.py` registers what
a script decorates, `spawn_with` reads the registry once and builds the router of
it, and a request then meets the layers, the routes of one path and the stages of
one of them. What a script means can be said without any of this: a request runs
through all middlewares of the script, in their order, and then through the first
handler that has its path, its method and its listener (`Script.answer`). The
server answers so (`script_served`).
-/
namespace SiphonHttp.Script
open Text Config Dispatch Routes Startup Server Net

/-! ### Decorators -/

/-- What Python is given where it is to go through strings. -/
inductive PyStrings
  | Str (text : Text)
  | Strs (texts : List Text)
  deriving DecidableEq, Repr

/-- The strings that a loop goes through: a string is a sequence of its own
    characters. -/
def PyStrings.elements : PyStrings → List Text
  | .Str text => text.map fun c => [c]
  | .Strs texts => texts

/-- `listeners`, of which a bare string is one. -/
def PyStrings.listed : PyStrings → List Text
  | .Str text => [text]
  | .Strs texts => texts

/-- A function that is decorated, with the arguments of its decorator. -/
inductive Decorated
  | route (path : Template) (methods listeners : Option PyStrings) (fn : Callable)
  | middleware (fn : Callable)
  | on_startup (fn : Callable)

/-- A script, as the functions that it decorates in their order. -/
abbrev Decorations := List Decorated

section
variable (upper : Text → Text)

/-- `[m.upper() for m in methods]`, of `["GET"]` by default; `upper` is
    `str.upper`. -/
def upper_methods (methods : Option PyStrings) : List Text :=
  ((methods.map PyStrings.elements).getD [lit "GET"]).map upper

/-- What a decorator registers. The function itself goes with the options of a
    route and of a middleware. -/
def Decorated.register : Decorated → HandlerHandle
  | .route path methods listeners fn =>
    { kind := lit "http.route"
      is_async := fn.coroutine_function
      options := some (registered path.text (upper_methods upper methods) (listeners.map PyStrings.listed) fn)
      marked := by rintro _ ⟨⟩ _ ⟨⟩; rfl }
  | .middleware fn =>
    { kind := lit "http.middleware"
      is_async := fn.coroutine_function
      options := some ⟨none, none, none, some fn⟩
      marked := by rintro _ ⟨⟩ _ ⟨⟩; rfl }
  | .on_startup fn =>
    { kind := lit "http.startup"
      is_async := fn.coroutine_function
      options := some ⟨none, none, none, none⟩
      marked := by rintro _ ⟨⟩ _ ⟨⟩ }

/-- The registry gives the functions of a kind in the order in which they were
    registered. -/
def handlers_for (kind : Text) (script : Decorations) : List HandlerHandle :=
  (script.map (·.register upper)).filter (·.kind = kind)

/-! ### What a script means -/

/-- A route as its decorator says it. -/
structure Rule where
  path : Template
  methods : List Text
  listeners : Option (List Text)
  fn : Callable

def Decorated.rule : Decorated → Option Rule
  | .route path methods listeners fn =>
    some ⟨path, upper_methods upper methods, listeners.map PyStrings.listed, fn⟩
  | _ => none

def Decorated.guard : Decorated → Option Callable
  | .middleware fn => some fn
  | _ => none

def rules (script : Decorations) : List Rule := script.filterMap (·.rule upper)

def middlewares (script : Decorations) : List Callable := script.filterMap Decorated.guard

/-- The rule exists on the listener. -/
def Rule.on (listener : Option Text) (rule : Rule) : Bool :=
  rule.listeners.all fun names => listener.any names.contains

/-- The paths that the script serves. -/
def paths (script : Decorations) : List Template :=
  (((rules upper script).map Rule.path).filter fun path => decide (path.text ≠ [])).eraseDups

/-- The rules of a path that exist on the listener. -/
def rules_on (script : Decorations) (template : Template) (listener : Option Text) : List Rule :=
  (rules upper script).filter fun rule => decide (rule.path = template) && rule.on listener

/-- What the rules of the path that was picked make of a request: the first with
    its method answers, behind all middlewares. -/
def answer_on (crates : Crates) (script : Decorations) (template : Template) (request : PyRequest)
    (listener : Option Text) : Response :=
  match (rules_on upper script template listener).find? fun rule => rule.methods.contains request.method with
  | some rule => (sequential request (middlewares script) rule.fn).into_response crates
  | none =>
    if (rules_on upper script template listener).isEmpty then empty_response 404
    else error_response 405 (lit "method not allowed")

/-- What a script makes of a request with a body, behind a guard if there is one. -/
def answer (crates : Crates) (admission : Option Admission) (trusted : List IpAddr) (script : Decorations)
    (request : HttpRequest) : Response :=
  match Template.pick (paths upper script) request.path with
  | none => empty_response 404
  | some template =>
    let parts := routed request template
    let response := answer_on upper crates script template
      (Request.request_from_parts trusted parts request.body.octets) (parts.connection.map (·.listener.name))
    match admission with
    | none => response
    | some admission => (Server.guard crates admission parts (.at_once response)).response

end

/-! ### What is read of the registry -/

section
variable {upper : Text → Text} {is_method : Text → Bool}

def stage_of (fn : Callable) : Stage := ⟨fn, fn.coroutine_function, rfl⟩

/-- The rule as the router has it: without the methods that are none. -/
def Rule.registered (is_method : Text → Bool) (rule : Rule) : Registered :=
  (⟨rule.path, rule.methods.filter is_method, rule.listeners⟩, stage_of rule.fn)

theorem handlers_for_cons (kind : Text) (decorated : Decorated) (script : Decorations) :
    handlers_for upper kind (decorated :: script) =
      if (decorated.register upper).kind = kind then decorated.register upper :: handlers_for upper kind script
      else handlers_for upper kind script := by
  simp only [handlers_for, List.map_cons, List.filter_cons, decide_eq_true_eq]

/-- Of a function that is decorated, its own kind has one handle more. -/
theorem handlers_for_register (decorated : Decorated) (script : Decorations) :
    handlers_for upper (decorated.register upper).kind (decorated :: script) =
      decorated.register upper :: handlers_for upper (decorated.register upper).kind script := by
  rw [handlers_for_cons, if_pos rfl]

theorem handlers_for_other {kind : Text} {decorated : Decorated} (other : (decorated.register upper).kind ≠ kind)
    (script : Decorations) : handlers_for upper kind (decorated :: script) = handlers_for upper kind script := by
  rw [handlers_for_cons, if_neg other]

theorem route_kind {path : Template} {methods listeners : Option PyStrings} {fn : Callable} :
    ((Decorated.route path methods listeners fn).register upper).kind ≠ lit "http.middleware" := by
  show lit "http.route" ≠ _
  decide
theorem middleware_kind {fn : Callable} : ((Decorated.middleware fn).register upper).kind ≠ lit "http.route" := by
  show lit "http.middleware" ≠ _
  decide
theorem startup_kind {fn : Callable} : ((Decorated.on_startup fn).register upper).kind ≠ lit "http.route" ∧
    ((Decorated.on_startup fn).register upper).kind ≠ lit "http.middleware" := by
  show lit "http.startup" ≠ _ ∧ lit "http.startup" ≠ _
  decide

/-- A registered route is read as its decorator says it. -/
theorem read_route_register (path : Template) (methods listeners : Option PyStrings) (fn : Callable) :
    read_route is_method ((Decorated.route path methods listeners fn).register upper) =
      .ok (as_read (Rule.registered is_method
        ⟨path, upper_methods upper methods, listeners.map PyStrings.listed, fn⟩)) := by
  have options : read_route_options is_method ((Decorated.route path methods listeners fn).register upper) =
      .ok ⟨path.text, (upper_methods upper methods).filter is_method, listeners.map PyStrings.listed⟩ :=
    route_options_registered
  rw [read_route, options]
  rfl

/-- None of the routes of a script is skipped. -/
theorem read_routes_script (script : Decorations) :
    read_routes is_method (handlers_for upper (lit "http.route") script) =
      ((rules upper script).map (Rule.registered is_method)).map as_read := by
  induction script with
  | nil => rfl
  | cons decorated script ih =>
    cases decorated with
    | route path methods listeners fn =>
      have here := @handlers_for_register upper (.route path methods listeners fn) script
      rw [show lit "http.route" = ((Decorated.route path methods listeners fn).register upper).kind from rfl, here,
        read_routes, List.filterMap_cons, read_route_register]
      exact congrArg (_ :: ·) ih
    | middleware fn =>
      rw [handlers_for_other middleware_kind]
      exact ih
    | on_startup fn =>
      rw [handlers_for_other startup_kind.1]
      exact ih

/-- None of its middlewares is refused. -/
theorem middlewares_script (script : Decorations) :
    (handlers_for upper (lit "http.middleware") script).mapM from_handle =
      .ok ((middlewares script).map stage_of) := by
  induction script with
  | nil => rfl
  | cons decorated script ih =>
    cases decorated with
    | middleware fn =>
      have first : from_handle ((Decorated.middleware fn).register upper) = .ok (stage_of fn) := rfl
      have rest := @handlers_for_register upper (.middleware fn) script
      rw [show lit "http.middleware" = ((Decorated.middleware fn).register upper).kind from rfl, rest, List.mapM_cons,
        first]
      exact congrArg (·.map (stage_of fn :: ·)) ih
    | route path methods listeners fn =>
      rw [handlers_for_other route_kind]
      exact ih
    | on_startup fn =>
      rw [handlers_for_other startup_kind.2]
      exact ih

/-! ### The table of a script -/

theorem eraseDups_concat {Item : Type} [DecidableEq Item] (items : List Item) (item : Item) :
    (items ++ [item]).eraseDups = if item ∈ items then items.eraseDups else items.eraseDups ++ [item] := by
  rw [List.eraseDups_append, List.removeAll, List.filter_singleton, List.elem_eq_contains]
  by_cases known : item ∈ items
  · rw [if_pos known, List.contains_iff_mem.mpr known]
    exact List.append_nil _
  · rw [if_neg known, Bool.eq_false_iff.mpr fun here => known (List.contains_iff_mem.mp here)]
    rfl

/-- The paths of the table are those of the routes, in the order in which they
    come first. -/
theorem by_path_paths (routes : List Registered) (stages : List Stage) :
    (by_path routes stages).paths =
      ((routes.map (·.1.path)).filter fun path => decide (path.text ≠ [])).eraseDups := by
  induction routes using List.reverseRecOn with
  | nil => rfl
  | append_singleton routes registered ih =>
    rw [by_path_append, List.map_append, List.map_singleton]
    by_cases empty : registered.1.path.text = []
    · rw [if_pos empty, ih, List.filter_append, List.filter_cons_of_neg (by simpa using empty)]
      exact congrArg List.eraseDups (List.append_nil _).symm
    · rw [if_neg empty, Table.paths_push, ih, List.filter_append, List.filter_cons_of_pos (by simpa using empty),
        List.filter_nil, eraseDups_concat]
      simp only [List.mem_eraseDups]

/-- So they are the paths of the script. -/
theorem paths_script (script : Decorations) (stages : List Stage) :
    (by_path ((rules upper script).map (Rule.registered is_method)) stages).paths = paths upper script := by
  rw [by_path_paths, List.map_map]
  rfl

/-- Under a path the table has the rules of this path. -/
theorem entries_script (script : Decorations) (stages : List Stage) {template : Template} (named : template.text ≠ []) :
    (by_path ((rules upper script).map (Rule.registered is_method)) stages).entries template =
      ((rules upper script).filter fun rule => decide (rule.path = template)).map fun rule =>
        entry_of stages (rule.registered is_method) := by
  rw [by_path_entries, entered, List.filter_map, List.map_map]
  simp only [named, ne_eq, not_false_eq_true, and_true]
  rfl

theorem serves_listener_on (rule : Rule) (stages : List Stage) (listener : Option Text) :
    (entry_of stages (rule.registered is_method)).scope.serves_listener listener = rule.on listener := by
  show RouteScope.serves_listener ⟨_, rule.listeners⟩ listener = _
  unfold RouteScope.serves_listener Rule.on
  cases rule.listeners with
  | none => rfl
  | some names =>
    cases listener with
    | none => rfl
    | some name =>
      rw [Bool.eq_iff_iff]
      simp

/-- What the rules of a path make of a request by the table. -/
theorem outcome_script (script : Decorations) (stages : List Stage) {template : Template} {method : Text}
    (listener : Option Text) (methodical : is_method method = true) (named : template.text ≠ []) :
    outcome_of ((by_path ((rules upper script).map (Rule.registered is_method)) stages).entries template) method
        listener =
      match (rules_on upper script template listener).find? fun rule => rule.methods.contains method with
      | some rule => .handler (Route.new stages (stage_of rule.fn))
      | none => if (rules_on upper script template listener).isEmpty then .notFound else .methodNotAllowed := by
  have has_method (rule : Rule) : method ∈ (entry_of stages (rule.registered is_method)).scope.methods ↔
      method ∈ rule.methods := List.mem_filter.trans (and_iff_left methodical)
  have first : ((rules upper script).filter fun rule => decide (rule.path = template)).find?
        (fun rule => rule.on listener && decide (method ∈ rule.methods)) =
      (rules_on upper script template listener).find? fun rule => rule.methods.contains method := by
    rw [rules_on, List.find?_filter, List.find?_filter]
    refine congrArg (fun serves => (rules upper script).find? serves) (funext fun rule => ?_)
    rw [Bool.eq_iff_iff]
    simp [and_assoc]
  have none_on : ((rules upper script).filter fun rule => decide (rule.path = template)).any (·.on listener) =
      !(rules_on upper script template listener).isEmpty := by
    rw [Bool.eq_iff_iff]
    simp [rules_on]
  rw [outcome_of_eq, entries_script script stages named, List.find?_map, List.any_map]
  simp only [Function.comp_def, serves_listener_on, has_method, first, none_on]
  cases (rules_on upper script template listener).find? _ with
  | some rule => rfl
  | none => cases (rules_on upper script template listener).isEmpty <;> rfl

/-! ### From the connection to the answer -/

/-- The request arrives completely, within the cap, and is answered in time. -/
structure Fits (config : HttpConfig) (surroundings : Surroundings) (request : HttpRequest) : Prop where
  complete : request.body.Complete
  framed : request.body.Framed
  within : request.body.octets.length ≤ max_body config
  in_time : ¬Elapsed (timeout config) (surroundings.arrives + surroundings.answers)

/-- The functions of a script, but for its hooks, raise nothing but `Exception`s. -/
def Tame (upper : Text → Text) (script : Decorations) : Prop :=
  ∀ request, Ordinary request (middlewares script ++ (rules upper script).map Rule.fn)

variable {config : HttpConfig} {surroundings : Surroundings} {request : HttpRequest}

/-- The layers hand on a request that fits with all of its body. -/
theorem limit_layer_fits (fits : Fits config surroundings request) (crates : Crates) (inner : Body → Served) :
    ∃ body, Body.collect body.frames = some request.body.octets ∧
      limit_layer crates (max_body config) request.body inner = inner body := by
  have collected (limit : Nat) (enough : request.body.octets.length ≤ limit) :
      Body.collect (request.body.limited limit).frames = some request.body.octets := by
    rw [Body.collect_limited _ _ fits.complete, if_pos enough]
  unfold limit_layer
  cases declared : request.body.content_length with
  | none => exact ⟨_, collected _ fits.within, rfl⟩
  | some length =>
    obtain rfl : length = request.body.octets.length := fits.framed fits.complete length declared
    dsimp only
    rw [if_neg (Nat.not_lt.mpr fits.within)]
    exact ⟨_, collected _ (Nat.le_min.mpr ⟨fits.within, Nat.le_refl _⟩), rfl⟩

theorem at_once_in_time (limit : Nat) (response : Response) :
    timeout_layer limit (Served.at_once response) = Served.at_once response :=
  timeout_layer_in_time fun elapsed => Nat.lt_irrefl 0 elapsed.1

/-- What the routes of the path that was picked answer. -/
theorem dispatch_script {script : Decorations} (fits : Fits config surroundings request)
    (works : surroundings.machinery.Works) (methodical : is_method request.method = true) (tame : Tame upper script)
    {template : Template} (named : template.text ≠ []) {body : Body}
    (collected : Body.collect body.frames = some request.body.octets) (trusted : List IpAddr) :
    (timeout_layer (timeout config) (dispatch surroundings trusted
        ((by_path ((rules upper script).map (Rule.registered is_method)) ((middlewares script).map stage_of)).entries
          template) (routed request template) body)).response =
      answer_on upper surroundings.crates script template
        (Request.request_from_parts trusted (routed request template) request.body.octets)
        ((routed request template).connection.map (·.listener.name)) := by
  have same : (routed request template).method = request.method := rfl
  have asked : (Request.request_from_parts trusted (routed request template) request.body.octets).method =
      request.method := rfl
  rw [dispatch_eq, same, outcome_script script _ _ methodical named, answer_on, asked]
  cases found : (rules_on upper script template
      ((routed request template).connection.map (·.listener.name))).find? fun rule =>
        rule.methods.contains request.method with
  | none =>
    dsimp only
    cases none_on : (rules_on upper script template
        ((routed request template).connection.map (·.listener.name))).isEmpty with
    | true => exact congrArg Served.response (at_once_in_time _ _)
    | false => exact congrArg Served.response (at_once_in_time _ _)
  | some rule =>
    dsimp only
    rw [collected, timeout_layer_in_time fits.in_time]
    have member : rule ∈ rules upper script := (List.mem_filter.mp (List.mem_of_find?_eq_some found)).1
    have guards : ((middlewares script).map stage_of).map Stage.callable = middlewares script := by
      rw [List.map_map]
      exact List.map_id _
    have chain : (Route.new ((middlewares script).map stage_of) (stage_of rule.fn)).chain.map Stage.callable =
        middlewares script ++ [rule.fn] := by
      rw [Route.chain, List.map_append]
      exact congrArg (· ++ [rule.fn]) guards
    have answered := answer_sequential works surroundings.crates
      (Route.new ((middlewares script).map stage_of) (stage_of rule.fn))
      (Request.request_from_parts trusted (routed request template) request.body.octets)
      (fun callable inside => tame _ callable (by
        rw [chain] at inside
        rcases List.mem_append.mp inside with guard | handler
        · exact List.mem_append_left _ guard
        · rw [List.mem_singleton.mp handler]
          exact List.mem_append_right _ (List.mem_map_of_mem member)))
    rw [show (Route.new ((middlewares script).map stage_of) (stage_of rule.fn)).middlewares.map Stage.callable =
      middlewares script from guards] at answered
    exact answered

/-- A guard goes by the response alone. -/
theorem guard_response (crates : Crates) (admission : Admission) (parts : Parts) (served : Served) :
    (Server.guard crates admission parts served).response =
      (Server.guard crates admission parts (.at_once served.response)).response := by
  unfold Server.guard
  dsimp only
  split <;> rfl

/-- A path that is picked is not empty. -/
theorem picked_named {script : Decorations} {path : Text} {template : Template}
    (picked : Template.pick (paths upper script) path = some template) : template.text ≠ [] := by
  have listed := (Template.pick_spec picked).1
  rw [paths, List.mem_eraseDups] at listed
  exact of_decide_eq_true (List.mem_filter.mp listed).2

/-- When `spawn_with` starts with a script, it has read all of its routes and its
    middlewares, each in its order. And while the machinery works and the script
    raises nothing but `Exception`s, every request that fits is answered as the
    script means it. -/
theorem script_served {ListenerError Bound : Type} {bind_listener : ServerEntry → Except ListenerError Bound}
    {servers : List ServerEntry} {script : Decorations} {started : Started Bound}
    (starts : Startup.spawn_with is_method bind_listener servers (handlers_for upper (lit "http.route") script)
      (handlers_for upper (lit "http.middleware") script) = .ok started)
    (config : HttpConfig) (admission : Option Admission) :
    started.routes = ((rules upper script).map (Rule.registered is_method)).map as_read ∧
      started.middlewares = (middlewares script).map stage_of ∧
      ∀ (surroundings : Surroundings) (request : HttpRequest), Fits config surroundings request →
        surroundings.machinery.Works → is_method request.method = true → Tame upper script →
          ((Server.spawn_with config ((rules upper script).map (Rule.registered is_method)) started.middlewares
            admission).serve surroundings request).response =
            answer upper surroundings.crates admission (all_trusted config) script request := by
  obtain ⟨routes, stages, -⟩ := spawn_with_ok.mp starts
  rw [read_routes_script] at routes
  rw [middlewares_script] at stages
  refine ⟨routes, (Except.ok.inj stages).symm, fun surroundings request fits works methodical tame => ?_⟩
  rw [← Except.ok.inj stages, Process.serve, spawn_with_router, Router.serve]
  dsimp only
  rw [paths_script, answer]
  cases picked : Template.pick (paths upper script) request.path with
  | none =>
    dsimp only [Router.layers]
    obtain ⟨body, -, same⟩ := limit_layer_fits fits surroundings.crates fun _ => Served.at_once (empty_response 404)
    rw [same, at_once_in_time]
    rfl
  | some template =>
    dsimp only [Router.layers]
    obtain ⟨body, collected, same⟩ := limit_layer_fits fits surroundings.crates (dispatch surroundings (all_trusted config)
      ((by_path ((rules upper script).map (Rule.registered is_method)) ((middlewares script).map stage_of)).entries
        template) (routed request template))
    have answered := dispatch_script fits works methodical tame (picked_named picked) collected (all_trusted config)
    rw [← same] at answered
    cases admission with
    | none => exact answered
    | some admission =>
      dsimp only
      rw [guard_response]
      exact congrArg (fun response => (Server.guard surroundings.crates admission (routed request template)
        (.at_once response)).response) answered

end

/-! A middleware guards the routes that stand before it, too. -/

def login : Callable := ⟨1, true, false, fun _ => .ok (.response ⟨401, [], utf8 (lit "log in")⟩)⟩

def stored : Callable := ⟨2, false, false, fun _ => .ok (.response ⟨200, [], utf8 (lit "stored")⟩)⟩

/-- `@http.route("/a/b", methods=["post"])`, and `@http.middleware` behind it. -/
def guardedBehind : Decorations := [.route pathAB (some (.Strs [lit "post"])) none stored, .middleware login]

def ascii_upper (text : Text) : Text := text.map Char.toUpper

theorem guardedBehind_tame : Tame ascii_upper guardedBehind := by
  intro request callable member error raised
  rcases List.mem_cons.mp member with rfl | member
  · cases raised
  · rw [List.mem_singleton.mp member] at raised
    cases raised

theorem guarded_behind_served :
    ∃ started,
      Startup.spawn_with token binds oneServer (handlers_for ascii_upper (lit "http.route") guardedBehind)
          (handlers_for ascii_upper (lit "http.middleware") guardedBehind) = .ok started ∧
        started.routes.map (fun route => route.1.methods) = [[lit "POST"]] ∧
        started.middlewares = [stage_of login] ∧
        ((Server.spawn_with cappedAtEight ((rules ascii_upper guardedBehind).map (Rule.registered token))
          started.middlewares none).serve calm (uploading ⟨none, [.data (utf8 (lit "six"))]⟩)).response =
            ⟨401, [], utf8 (lit "log in")⟩ := by
  obtain ⟨read, stages, served⟩ :=
    script_served (show Startup.spawn_with token binds oneServer
      (handlers_for ascii_upper (lit "http.route") guardedBehind)
      (handlers_for ascii_upper (lit "http.middleware") guardedBehind) = .ok _ from rfl) cappedAtEight none
  have answered := served calm (uploading ⟨none, [.data (utf8 (lit "six"))]⟩)
    ⟨by simp [uploading, Body.Complete], fun _ => nofun, by decide, by decide⟩
    ⟨rfl, rfl, rfl, rfl, rfl, fun _ installed => by cases installed; rfl, rfl, rfl, fun _ => rfl, fun _ => rfl⟩
    (by decide) guardedBehind_tame
  exact ⟨_, rfl, by rw [read]; rfl, stages, answered.trans rfl⟩

end SiphonHttp.Script
