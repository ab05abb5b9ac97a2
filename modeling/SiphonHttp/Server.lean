import SiphonHttp.Chain
import SiphonHttp.Config
import SiphonHttp.Routes

/-!
`runtime.rs` and `admission.rs`: what a request meets between the connection and
its handler. The router's layers stand in the order axum puts them: a layer
added to the whole router also surrounds the answer for a path no route has, and
a layer added to the routes afterwards surrounds what the first ones made of
them.
-/
namespace SiphonHttp.Server
open Text Dispatch Routes Config Net

/-! ### The guard of inbound requests -/

structure Inbound where
  listener : Text
  method : Text
  path : Text
  headers : HeaderMap
  deriving DecidableEq, Repr

structure Refusal where
  status : UInt16
  headers : List (Text × Text)
  body : Octets
  deriving DecidableEq, Repr

/-- Letting a request through comes with what is added to the response of a
    status. -/
inductive Decision
  | Admit (respond : Nat → List (Text × Text))
  | Refuse (refusal : Refusal)

structure Admission where
  admit_request : Inbound → Decision

/-- What became of a request: the response, the stage bodies executed, what a
    guard was asked, and after how many milliseconds the stages were started and
    the response was there. -/
structure Served where
  response : Response
  ran : List Ran
  admits : List Inbound
  started : Nat
  took : Nat

/-- A response at once, with no stage executed. -/
def Served.at_once (response : Response) : Served := ⟨response, [], [], 0, 0⟩

def inbound_of (parts : Parts) : Inbound where
  listener := (parts.connection.map (·.listener.name)).getD []
  method := parts.method
  path := parts.path
  headers := parts.headers

def guard (crates : Crates) (admission : Admission) (parts : Parts) (next : Served) : Served :=
  let inbound := inbound_of parts
  match admission.admit_request inbound with
  | .Refuse refusal =>
    let status := (StatusCode.from_u16 refusal.status).getD 503
    { Served.at_once ⟨status, crates.valid_fields refusal.headers, refusal.body⟩ with admits := [inbound] }
  | .Admit respond =>
    let fields := crates.valid_fields (respond next.response.status)
    { next with
      response := { next.response with headers := next.response.headers ++ fields }
      admits := inbound :: next.admits }

/-! ### The layers of the whole router -/

/-- The timeout is over at that moment. It never is at the first look: the clock
    goes by whole milliseconds, and the first one has yet to pass. -/
def Elapsed (timeout moment : Nat) : Prop := 0 < moment ∧ timeout ≤ moment

instance (timeout moment : Nat) : Decidable (Elapsed timeout moment) := inferInstanceAs (Decidable (_ ∧ _))

/-- `TimeoutLayer` looks at its clock before at what it surrounds. A job that
    was started runs on; one that was not is never started. -/
def timeout_layer (timeout : Nat) (inner : Served) : Served :=
  if Elapsed timeout inner.took then
    { inner with
      response := empty_response 504
      ran := if Elapsed timeout inner.started then [] else inner.ran
      took := timeout }
  else inner

/-- `RequestBodyLimitLayer`. -/
def limit_layer (crates : Crates) (limit : Nat) (body : Body) (inner : Body → Served) : Served :=
  match body.content_length with
  | some length =>
    if limit < length then Served.at_once crates.too_large else inner (body.limited (min limit length))
  | none => inner (body.limited limit)

/-! ### Dispatch -/

/-- What the crates and the interpreter do to a request, and how many
    milliseconds its body and then its stages take. -/
structure Surroundings where
  crates : Crates
  machinery : Machinery
  arrives : Nat
  answers : Nat

def route_gate (scopes : List RouteScope) (parts : Parts) : RouteMatch :=
  match_route scopes parts.method (parts.connection.map (·.listener.name))

def RouteMatch.refusal : RouteMatch → Response
  | .MethodNotAllowed => error_response 405 (lit "method not allowed")
  | .NotOnThisListener | .Handler _ => empty_response 404

def dispatch (surroundings : Surroundings) (trusted : List IpAddr) (entries : List RouteEntry) (parts : Parts)
    (body : Body) : Served :=
  match route_gate (entries.map RouteEntry.scope) parts with
  | .Handler index =>
    match (entries.map RouteEntry.route)[index]? with
    | none => Served.at_once (error_response 500 (lit "internal error"))
    | some route =>
      match Body.collect body.frames with
      | none => ⟨error_response 400 (lit "bad body"), [], [], surroundings.arrives, surroundings.arrives⟩
      | some octets =>
        let answer := surroundings.machinery.answer surroundings.crates route
          (Request.request_from_parts trusted parts octets)
        ⟨answer.response, answer.ran, [], surroundings.arrives, surroundings.arrives + surroundings.answers⟩
  | refused => Served.at_once (RouteMatch.refusal refused)

/-! ### The router -/

structure Router where
  table : Table
  max_body : Nat
  timeout : Nat
  admission : Option Admission

/-- One cap for all listeners: the most permissive. -/
def max_body (config : HttpConfig) : Nat := (config.servers.map (·.max_body_bytes)).max?.getD (1 <<< 20)
def timeout (config : HttpConfig) : Nat := (config.servers.map (·.request_timeout_ms)).max?.getD 30000

def build_router (routes : List Registered) (middlewares : List Stage) (config : HttpConfig) : Router :=
  ⟨by_path routes middlewares, max_body config, timeout config, none⟩

/-- `route_layer`. -/
def guarded (router : Router) (admission : Admission) : Router := { router with admission := some admission }

/-- The two layers of the whole router. -/
def Router.layers (router : Router) (crates : Crates) (body : Body) (inner : Body → Served) : Served :=
  timeout_layer router.timeout (limit_layer crates router.max_body body inner)

/-- The head of a request, with the path that was picked for it. -/
def routed (request : HttpRequest) (template : Template) : Parts :=
  { request.toParts with matched_path := some template.text }

/-- A request at the router: the most specific path that it matches, and if there
    is one, the guard, the layers and the routes of that path. -/
def Router.serve (router : Router) (surroundings : Surroundings) (trusted : List IpAddr) (request : HttpRequest) :
    Served :=
  match Template.pick router.table.paths request.path with
  | none => router.layers surroundings.crates request.body fun _ => Served.at_once (empty_response 404)
  | some template =>
    let served := router.layers surroundings.crates request.body
      (dispatch surroundings trusted (router.table.entries template) (routed request template))
    match router.admission with
    | none => served
    | some admission => guard surroundings.crates admission (routed request template) served

/-- The router and the trusted proxies of a process: one of each, whatever
    listener a request arrives on. -/
structure Process where
  router : Router
  trusted : List IpAddr

/-- What `set_trusted_proxies` is given: the entries of all listeners. -/
def all_trusted (config : HttpConfig) : List IpAddr :=
  Request.trusted_proxies (config.servers.flatMap (·.trusted_proxies))

def spawn_with (config : HttpConfig) (routes : List Registered) (middlewares : List Stage)
    (admission : Option Admission) : Process where
  router :=
    let router := build_router routes middlewares config
    match admission with
    | some admission => guarded router admission
    | none => router
  trusted := all_trusted config

def Process.serve (process : Process) (surroundings : Surroundings) (request : HttpRequest) : Served :=
  process.router.serve surroundings process.trusted request

/-- The acceptor of a `servers[]` entry tells its requests which listener they
    came through. -/
def ArrivesOn (server : ServerConfig) (request : HttpRequest) : Prop :=
  ∃ local_addr, request.connection = some ⟨⟨server.listener_name, server.tls.isSome⟩, local_addr⟩

/-- A body at once and stages of five milliseconds. -/
def calm : Surroundings := ⟨plainCrates, calmMachinery, 1, 5⟩

/-! ### What the layers let through -/

theorem spawn_with_router (config : HttpConfig) (routes : List Registered) (middlewares : List Stage)
    (admission : Option Admission) :
    (spawn_with config routes middlewares admission).router =
      ⟨by_path routes middlewares, max_body config, timeout config, admission⟩ := by
  cases admission <;> rfl

@[simp] theorem timeout_layer_admits (timeout : Nat) (inner : Served) :
    (timeout_layer timeout inner).admits = inner.admits := by
  unfold timeout_layer
  split_ifs <;> rfl

theorem timeout_layer_elapsed {timeout : Nat} {inner : Served} (elapsed : Elapsed timeout inner.took) :
    (timeout_layer timeout inner).response = empty_response 504 := by
  rw [timeout_layer, if_pos elapsed]

theorem timeout_layer_in_time {timeout : Nat} {inner : Served} (in_time : ¬Elapsed timeout inner.took) :
    timeout_layer timeout inner = inner := by
  rw [timeout_layer, if_neg in_time]

theorem timeout_layer_took (timeout : Nat) (inner : Served) :
    (timeout_layer timeout inner).took = min timeout inner.took := by
  by_cases elapsed : Elapsed timeout inner.took
  · rw [timeout_layer, if_pos elapsed, min_eq_left elapsed.2]
  · rw [timeout_layer_in_time elapsed, min_eq_right]
    simp only [Elapsed] at elapsed
    omega

theorem timeout_layer_idle {timeout : Nat} {inner : Served} (idle : inner.ran = []) :
    (timeout_layer timeout inner).ran = [] := by
  unfold timeout_layer
  split_ifs <;> simp [idle]

theorem mem_timeout_layer {timeout : Nat} {inner : Served} {run : Ran} (member : run ∈ (timeout_layer timeout inner).ran) :
    run ∈ inner.ran := by
  unfold timeout_layer at member
  split_ifs at member
  · cases member
  · exact member
  · exact member

theorem mem_limit_layer {crates : Crates} {limit : Nat} {body : Body} {inner : Body → Served} {run : Ran}
    (member : run ∈ (limit_layer crates limit body inner).ran) : ∃ body, run ∈ (inner body).ran := by
  unfold limit_layer at member
  split at member
  · split_ifs at member
    · cases member
    · exact ⟨_, member⟩
  · exact ⟨_, member⟩

theorem limit_layer_admits (crates : Crates) (limit : Nat) (body : Body) {inner : Body → Served}
    (silent : ∀ body, (inner body).admits = []) : (limit_layer crates limit body inner).admits = [] := by
  unfold limit_layer
  split
  · split_ifs
    · rfl
    · exact silent _
  · exact silent _

/-- Dispatch goes by the outcome that the path's routes make of the request. -/
theorem dispatch_eq (surroundings : Surroundings) (trusted : List IpAddr) (entries : List RouteEntry) (parts : Parts)
    (body : Body) :
    dispatch surroundings trusted entries parts body =
      match outcome_of entries parts.method (parts.connection.map (·.listener.name)) with
      | .handler route =>
        match Body.collect body.frames with
        | none => ⟨error_response 400 (lit "bad body"), [], [], surroundings.arrives, surroundings.arrives⟩
        | some octets =>
          let answer := surroundings.machinery.answer surroundings.crates route
            (Request.request_from_parts trusted parts octets)
          ⟨answer.response, answer.ran, [], surroundings.arrives, surroundings.arrives + surroundings.answers⟩
      | .methodNotAllowed => Served.at_once (error_response 405 (lit "method not allowed"))
      | .notFound => Served.at_once (empty_response 404) := by
  unfold dispatch outcome_of route_gate
  cases matched : match_route (entries.map RouteEntry.scope) parts.method
    (parts.connection.map (·.listener.name)) with
  | MethodNotAllowed => rfl
  | NotOnThisListener => rfl
  | Handler index =>
    have inside : index < entries.length := match_route_inside matched
    simp [List.getElem?_eq_getElem inside]

/-- The stages are only ever run on the request that was received. -/
theorem mem_dispatch {surroundings : Surroundings} {trusted : List IpAddr} {entries : List RouteEntry} {parts : Parts}
    {body : Body} {run : Ran} (member : run ∈ (dispatch surroundings trusted entries parts body).ran) :
    ∃ octets, Body.collect body.frames = some octets ∧
      run.request = Request.request_from_parts trusted parts octets := by
  rw [dispatch_eq] at member
  cases outcome : outcome_of entries parts.method (parts.connection.map (·.listener.name)) with
  | methodNotAllowed => rw [outcome] at member; cases member
  | notFound => rw [outcome] at member; cases member
  | handler route =>
    rw [outcome] at member
    cases collected : Body.collect body.frames with
    | none => rw [collected] at member; cases member
    | some octets =>
      rw [collected] at member
      exact ⟨octets, rfl, ((answer_guarded surroundings.machinery surroundings.crates route _).2 run member).1⟩

/-! ### What a guard changes -/

/-- The guard, if there is one, lets the request through. -/
def LetsThrough (admission : Option Admission) (request : HttpRequest) : Prop :=
  ∀ asked ∈ admission, ∃ respond, asked.admit_request (inbound_of request.toParts) = .Admit respond

/-- What the guard makes of what the layers served, where it is asked. -/
def Router.asked (router : Router) (crates : Crates) (request : HttpRequest) (served : Served) : Served :=
  match Template.pick router.table.paths request.path, router.admission with
  | some template, some admission => guard crates admission (routed request template) served
  | _, _ => served

def Router.unguarded (router : Router) : Router := { router with admission := none }

theorem Router.serve_eq (router : Router) (surroundings : Surroundings) (trusted : List IpAddr) (request : HttpRequest) :
    router.serve surroundings trusted request =
      router.asked surroundings.crates request (router.unguarded.serve surroundings trusted request) := by
  unfold Router.serve Router.asked
  rw [show router.unguarded.table = router.table from rfl]
  cases Template.pick router.table.paths request.path with
  | none => rfl
  | some template => cases router.admission <;> rfl

/-- A guard that lets a request through adds header fields to the response. -/
theorem Router.asked_through {router : Router} {request : HttpRequest} (through : LetsThrough router.admission request)
    (crates : Crates) (served : Served) :
    (router.asked crates request served).response.status = served.response.status ∧
      (router.asked crates request served).ran = served.ran ∧ (router.asked crates request served).took = served.took := by
  unfold Router.asked
  cases Template.pick router.table.paths request.path with
  | none => exact ⟨rfl, rfl, rfl⟩
  | some template =>
    cases installed : router.admission with
    | none => exact ⟨rfl, rfl, rfl⟩
    | some admission =>
      obtain ⟨respond, admits⟩ := through admission installed
      have asked : admission.admit_request (inbound_of (routed request template)) = .Admit respond := admits
      simp only [guard, asked, and_self]

theorem Router.serve_through {router : Router} {request : HttpRequest} (through : LetsThrough router.admission request)
    (surroundings : Surroundings) (trusted : List IpAddr) :
    (router.serve surroundings trusted request).response.status =
        (router.unguarded.serve surroundings trusted request).response.status ∧
      (router.serve surroundings trusted request).ran = (router.unguarded.serve surroundings trusted request).ran ∧
      (router.serve surroundings trusted request).took = (router.unguarded.serve surroundings trusted request).took := by
  rw [Router.serve_eq]
  exact Router.asked_through through surroundings.crates _

end SiphonHttp.Server
