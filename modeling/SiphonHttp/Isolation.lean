import SiphonHttp.Server

/-!
What one listener shows of the others. A route restricted to another listener is
answered like a path no route has, unless a guard is installed, which is asked
about it (`hidden_route_iff`).
-/
namespace SiphonHttp.Server
open Text Dispatch Routes Config Net

/-! ### Hidden routes -/

/-- The routes that do not match the path. -/
def unmatched (path : Text) (routes : List Registered) : List Registered :=
  routes.filter fun registered => !registered.1.path.matches path

theorem pick_unmatched {routes : List Registered} {path : Text} (middlewares : List Stage)
    (none_matches : ∀ registered ∈ routes, registered.1.path.text ≠ [] → ¬registered.1.path.matches path) :
    Template.pick (by_path routes middlewares).paths path = none := by
  rw [Template.pick_eq_none]
  intro template member
  rw [mem_by_path] at member
  obtain ⟨registered, inside⟩ := List.exists_mem_of_ne_nil _ member
  obtain ⟨known, rfl, nonempty⟩ := by simpa [entered] using inside
  exact none_matches registered known nonempty

theorem pick_matched {routes : List Registered} {path : Text} {registered : Registered} (middlewares : List Stage)
    (member : registered ∈ routes) (nonempty : registered.1.path.text ≠ []) (matched : registered.1.path.matches path) :
    ∃ template, Template.pick (by_path routes middlewares).paths path = some template := by
  cases picked : Template.pick (by_path routes middlewares).paths path with
  | some template => exact ⟨template, rfl⟩
  | none =>
    have entered_path : registered.1.path ∈ (by_path routes middlewares).paths :=
      mem_by_path.mpr (List.ne_nil_of_mem (a := registered) (by simp [entered, member, nonempty]))
    exact absurd matched (Template.pick_eq_none.mp picked _ entered_path)

/-- The answer for a path no route has. -/
def not_found (config : HttpConfig) (crates : Crates) (body : Body) : Served :=
  timeout_layer (timeout config) (limit_layer crates (max_body config) body fun _ => Served.at_once (empty_response 404))

theorem not_found_admits (config : HttpConfig) (crates : Crates) (body : Body) :
    (not_found config crates body).admits = [] := by
  rw [not_found, timeout_layer_admits]
  exact limit_layer_admits crates (max_body config) body fun _ => rfl

theorem serve_unmatched (config : HttpConfig) {routes : List Registered} (middlewares : List Stage)
    (admission : Option Admission) (surroundings : Surroundings) {request : HttpRequest}
    (none_matches : ∀ registered ∈ routes, registered.1.path.text ≠ [] → ¬registered.1.path.matches request.path) :
    (spawn_with config routes middlewares admission).serve surroundings request =
      not_found config surroundings.crates request.body := by
  rw [Process.serve, spawn_with_router, Router.serve, pick_unmatched middlewares none_matches]
  rfl

theorem serve_without (config : HttpConfig) (routes : List Registered) (middlewares : List Stage)
    (admission : Option Admission) (surroundings : Surroundings) (request : HttpRequest) :
    (spawn_with config (unmatched request.path routes) middlewares admission).serve surroundings request =
      not_found config surroundings.crates request.body := by
  apply serve_unmatched
  intro registered member _ matched
  simp [unmatched, matched] at member

/-- A guard is asked about every request whose path a route matches. -/
theorem guard_admits (crates : Crates) (admission : Admission) (parts : Parts) (next : Served) :
    (guard crates admission parts next).admits ≠ [] := by
  unfold guard
  dsimp only
  split
  · exact List.cons_ne_nil _ _
  · exact List.cons_ne_nil _ _

theorem serve_guarded (config : HttpConfig) {routes : List Registered} (middlewares : List Stage) (admission : Admission)
    (surroundings : Surroundings) {request : HttpRequest} {registered : Registered} (member : registered ∈ routes)
    (nonempty : registered.1.path.text ≠ []) (matched : registered.1.path.matches request.path) :
    ((spawn_with config routes middlewares (some admission)).serve surroundings request).admits ≠ [] := by
  obtain ⟨template, picked⟩ := pick_matched middlewares member nonempty matched
  rw [Process.serve, spawn_with_router, Router.serve, picked]
  exact guard_admits _ _ _ _

theorem dispatch_hidden (surroundings : Surroundings) (trusted : List IpAddr) {entries : List RouteEntry} {parts : Parts}
    (hidden : outcome_of entries parts.method (parts.connection.map (·.listener.name)) = .notFound) :
    dispatch surroundings trusted entries parts = fun _ => Served.at_once (empty_response 404) := by
  funext body
  rw [dispatch_eq, hidden]

/-- Without a guard, a path whose routes do not exist on the listener is
    answered like one no route has. -/
theorem serve_hidden (config : HttpConfig) {routes : List Registered} (middlewares : List Stage)
    (surroundings : Surroundings) {request : HttpRequest}
    (hidden : ∀ registered ∈ routes, registered.1.path.matches request.path →
      registered.1.scope.serves_listener (request.connection.map (·.listener.name)) = false) :
    (spawn_with config routes middlewares none).serve surroundings request =
      not_found config surroundings.crates request.body := by
  rw [Process.serve, spawn_with_router, Router.serve]
  cases picked : Template.pick (by_path routes middlewares).paths request.path with
  | none => rfl
  | some template =>
    obtain ⟨-, matched, -⟩ := Template.pick_spec picked
    have absent : ¬HasRoute (request.connection.map (·.listener.name)) routes template := by
      rintro ⟨registered, member, rfl, -, serves⟩
      rw [hidden registered member matched] at serves
      cases serves
    have gone : outcome_of ((by_path routes middlewares).entries template) (routed request template).method
        ((routed request template).connection.map (·.listener.name)) = .notFound := outcome_notFound absent request.method
    dsimp only
    rw [dispatch_hidden surroundings _ gone]
    rfl

/-- On a request whose path only routes restricted to other listeners match, a
    process answers as if none did and asks no guard exactly when it has no
    guard, or no route matches the path at all. -/
theorem hidden_route_iff (config : HttpConfig) {routes : List Registered} (middlewares : List Stage)
    (admission : Option Admission) (surroundings : Surroundings) {request : HttpRequest}
    (hidden : ∀ registered ∈ routes, registered.1.path.matches request.path →
      registered.1.scope.serves_listener (request.connection.map (·.listener.name)) = false) :
    let served := (spawn_with config routes middlewares admission).serve surroundings request
    let without := (spawn_with config (unmatched request.path routes) middlewares admission).serve surroundings request
    served.response = without.response ∧ served.admits = [] ↔
      admission = none ∨ ∀ registered ∈ routes, registered.1.path.text ≠ [] → ¬registered.1.path.matches request.path := by
  intro served without
  have absent : without = not_found config surroundings.crates request.body :=
    serve_without config routes middlewares admission surroundings request
  constructor
  · rintro ⟨-, silent⟩
    cases admission with
    | none => exact Or.inl rfl
    | some admission =>
      right
      intro registered member nonempty matched
      exact serve_guarded config middlewares admission surroundings member nonempty matched silent
  · intro condition
    have same : served = not_found config surroundings.crates request.body := by
      rcases condition with rfl | none_matches
      · exact serve_hidden config middlewares surroundings hidden
      · exact serve_unmatched config middlewares admission surroundings none_matches
    rw [absent, same]
    exact ⟨rfl, not_found_admits config surroundings.crates request.body⟩

/-! A guard that is busy tells an internal route from a path no route has. -/

def internalOnly : List Registered :=
  [(⟨pathAB, [lit "GET"], some [lit "internal"]⟩, answering 1 (lit "internal"))]

def twoListeners : HttpConfig where
  servers := [⟨lit "192.0.2.1:8080", some (lit "public"), none, 1 <<< 20, 30000, []⟩,
    ⟨lit "192.0.2.1:8443", some (lit "internal"), none, 1 <<< 20, 30000, []⟩]

def busy : Admission := ⟨fun _ => .Refuse ⟨503, [], utf8 (lit "busy")⟩⟩

def onPublic : HttpRequest where
  method := lit "GET"
  path := lit "/a/b"
  query := none
  authority := none
  headers := []
  matched_path := none
  peer := none
  connection := some ⟨⟨lit "public", false⟩, none⟩
  body := ⟨none, []⟩

theorem internalOnly_hidden : ∀ registered ∈ internalOnly, registered.1.path.matches onPublic.path →
    registered.1.scope.serves_listener (onPublic.connection.map (·.listener.name)) = false := by
  intro registered member _
  obtain rfl := List.mem_singleton.mp member
  decide

theorem hidden_route_refused :
    (∀ registered ∈ internalOnly, registered.1.path.matches onPublic.path →
        registered.1.scope.serves_listener (onPublic.connection.map (·.listener.name)) = false) ∧
      ((spawn_with twoListeners internalOnly [] (some busy)).serve calm onPublic).response.status = 503 ∧
      ((spawn_with twoListeners (unmatched onPublic.path internalOnly) [] (some busy)).serve calm onPublic).response.status
        = 404 ∧
      ((spawn_with twoListeners internalOnly [] (some busy)).serve calm onPublic).admits ≠ [] :=
  ⟨internalOnly_hidden, by decide +kernel⟩

theorem hidden_route_unguarded :
    let served := (spawn_with twoListeners internalOnly [] none).serve calm onPublic
    let without := (spawn_with twoListeners (unmatched onPublic.path internalOnly) [] none).serve calm onPublic
    served.response = without.response ∧ served.admits = [] :=
  (hidden_route_iff twoListeners [] none calm internalOnly_hidden).mpr (Or.inl rfl)

end SiphonHttp.Server
