import SiphonHttp.Dispatch
import SiphonHttp.Template

/-!
The routes of a script: the scope of each (its methods and the listeners it is
restricted to), the table they are entered in by path, and which of them serves
a request.
-/
namespace SiphonHttp.Routes
open Text Dispatch

structure RouteScope where
  methods : List Text
  listeners : Option (List Text)
  deriving DecidableEq, Repr

/-- A restricted route does not exist for a request whose listener is not known. -/
def RouteScope.serves_listener (scope : RouteScope) (listener : Option Text) : Bool :=
  match scope.listeners, listener with
  | none, _ => true
  | some allowed, some name => allowed.any (· = name)
  | some _, none => false

inductive RouteMatch
  | Handler (index : Nat)
  | MethodNotAllowed
  | NotOnThisListener
  deriving DecidableEq, Repr

/-- The loop of `match_route`, over the scopes from the index on. -/
def match_from (method : Text) (listener : Option Text) : List RouteScope → Nat → Bool → RouteMatch
  | [], _, on_this_listener => if on_this_listener then .MethodNotAllowed else .NotOnThisListener
  | scope :: scopes, index, on_this_listener =>
    if !scope.serves_listener listener then match_from method listener scopes (index + 1) on_this_listener
    else if method ∈ scope.methods then .Handler index
    else match_from method listener scopes (index + 1) true

def match_route (scopes : List RouteScope) (method : Text) (listener : Option Text) : RouteMatch :=
  match_from method listener scopes 0 false

/-! ### The table -/

structure RouteEntry where
  scope : RouteScope
  route : Route

/-- What `@http.route` registered for one handler. -/
structure RouteOptions where
  path : Template
  methods : List Text
  listeners : Option (List Text)
  deriving DecidableEq

def RouteOptions.scope (options : RouteOptions) : RouteScope := ⟨options.methods, options.listeners⟩

/-- The routes of each path. The order of the paths is that of their first
    routes; what the router picks does not depend on it (`Template.pick_perm`). -/
abbrev Table := List (Template × List RouteEntry)

/-- `by_path.entry(path).or_default().push(entry)`. -/
def Table.push (path : Template) (entry : RouteEntry) : Table → Table
  | [] => [(path, [entry])]
  | (other, entries) :: table =>
    if other = path then (other, entries ++ [entry]) :: table else (other, entries) :: push path entry table

def Table.paths (table : Table) : List Template := table.map Prod.fst

/-- The routes of a path, in the order they were registered. -/
def Table.entries (table : Table) (path : Template) : List RouteEntry := (table.lookup path).getD []

abbrev Registered := RouteOptions × Stage

def entry_of (middlewares : List Stage) (registered : Registered) : RouteEntry :=
  ⟨registered.1.scope, Route.new middlewares registered.2⟩

def by_path (routes : List Registered) (middlewares : List Stage) : Table :=
  routes.foldl (fun table registered =>
    if registered.1.path.text = [] then table
    else Table.push registered.1.path (entry_of middlewares registered) table) []

/-! ### Which route serves a request -/

/-- What the routes of one path make of a request. -/
inductive Outcome
  | handler (route : Route)
  | methodNotAllowed
  | notFound

def outcome_of (entries : List RouteEntry) (method : Text) (listener : Option Text) : Outcome :=
  match match_route (entries.map RouteEntry.scope) method listener with
  | .Handler index =>
    match entries[index]? with
    | some entry => .handler entry.route
    | none => .notFound
  | .MethodNotAllowed => .methodNotAllowed
  | .NotOnThisListener => .notFound

/-- The router picks a path, and then one of its routes is picked. -/
def Table.outcome (table : Table) (path method : Text) (listener : Option Text) : Outcome :=
  match Template.pick table.paths path with
  | none => .notFound
  | some template => outcome_of (table.entries template) method listener

/-! ### `match_route` -/

theorem match_from_eq (method : Text) (listener : Option Text) (scopes : List RouteScope) (index : Nat)
    (on_this_listener : Bool) :
    match_from method listener scopes index on_this_listener =
      match scopes.findIdx? fun scope => scope.serves_listener listener && decide (method ∈ scope.methods) with
      | some found => .Handler (index + found)
      | none =>
        if on_this_listener || scopes.any (·.serves_listener listener) then .MethodNotAllowed
        else .NotOnThisListener := by
  induction scopes generalizing index on_this_listener with
  | nil => simp [match_from]
  | cons scope scopes ih =>
    rw [match_from, List.findIdx?_cons]
    cases serves : scope.serves_listener listener with
    | false =>
      simp only [Bool.not_false, if_true, ih, Bool.false_and, Bool.false_eq_true, if_false, List.any_cons, serves,
        Bool.false_or]
      cases scopes.findIdx? _ with
      | none => rfl
      | some found => simp; omega
    | true =>
      by_cases member : method ∈ scope.methods
      · simp [member]
      · simp only [Bool.not_true, Bool.false_eq_true, if_false, member, ih, decide_false, Bool.and_false, List.any_cons,
          serves, Bool.true_or, Bool.or_true, if_true]
        cases scopes.findIdx? _ with
        | none => rfl
        | some found => simp; omega

theorem match_route_inside {entries : List RouteEntry} {method : Text} {listener : Option Text} {index : Nat}
    (matched : match_route (entries.map RouteEntry.scope) method listener = .Handler index) : index < entries.length := by
  rw [match_route, match_from_eq] at matched
  split at matched
  · rename_i found first
    cases matched
    obtain ⟨inside, -⟩ := List.findIdx?_eq_some_iff_getElem.mp first
    simpa using inside
  · split_ifs at matched

/-- The first route on the listener that has the method serves the request. -/
theorem outcome_of_eq (entries : List RouteEntry) (method : Text) (listener : Option Text) :
    outcome_of entries method listener =
      match entries.find? fun entry =>
        entry.scope.serves_listener listener && decide (method ∈ entry.scope.methods) with
      | some entry => .handler entry.route
      | none => if entries.any (·.scope.serves_listener listener) then .methodNotAllowed else .notFound := by
  rw [outcome_of, match_route, match_from_eq, List.findIdx?_map, List.find?_eq_bind_findIdx?_getElem?]
  simp only [Function.comp_def, List.any_map, Bool.false_or, Nat.zero_add]
  cases found : entries.findIdx? _ with
  | none =>
    simp only [Option.bind_none]
    cases entries.any _ <;> rfl
  | some index =>
    obtain ⟨inside, -⟩ := List.findIdx?_eq_some_iff_getElem.mp found
    simp [List.getElem?_eq_getElem inside]

theorem outcome_of_notFound {entries : List RouteEntry} {method : Text} {listener : Option Text} :
    outcome_of entries method listener = .notFound ↔ ∀ entry ∈ entries, entry.scope.serves_listener listener = false := by
  rw [outcome_of_eq]
  cases found : entries.find? _ with
  | some entry =>
    obtain ⟨serves, -⟩ := by simpa using List.find?_some found
    have member := List.mem_of_find?_eq_some found
    constructor
    · intro impossible
      cases impossible
    · intro none
      rw [none entry member] at serves
      cases serves
  | none =>
    dsimp only
    split
    · rename_i some_serves
      obtain ⟨entry, member, serves⟩ := List.any_eq_true.mp some_serves
      constructor
      · intro impossible
        cases impossible
      · intro none
        rw [none entry member] at serves
        cases serves
    · rename_i none_serves
      simpa using none_serves

/-- Routes that the listener does not have make no difference to the others of
    their path. -/
theorem outcome_of_filter (entries : List RouteEntry) (method : Text) (listener : Option Text) :
    outcome_of (entries.filter (·.scope.serves_listener listener)) method listener = outcome_of entries method listener := by
  rw [outcome_of_eq, outcome_of_eq, List.find?_filter, List.any_filter]
  simp

/-! ### The table of the registered routes -/

namespace Table
variable (path : Template) (entry : RouteEntry) (table : Table)

theorem paths_push : (push path entry table).paths = if path ∈ table.paths then table.paths else table.paths ++ [path] := by
  induction table with
  | nil => rfl
  | cons row table ih =>
    obtain ⟨other, entries⟩ := row
    by_cases same : other = path
    · simp [push, paths, same]
    · have head : ¬path = other := fun equal => same equal.symm
      simp only [push, if_neg same, paths, List.map_cons, List.mem_cons, head, false_or]
      change other :: (push path entry table).paths = _
      rw [ih]
      change _ = if path ∈ Table.paths table then other :: Table.paths table else other :: Table.paths table ++ [path]
      split_ifs <;> rfl

theorem entries_cons (other template : Template) (rows : List RouteEntry) :
    Table.entries ((other, rows) :: table) template = if template = other then rows else table.entries template := by
  unfold entries
  rw [List.lookup_cons]
  by_cases here : template = other
  · rw [beq_iff_eq.mpr here, if_pos here]
    rfl
  · rw [beq_eq_false_iff_ne.mpr here, if_neg here]

theorem entries_push (template : Template) :
    (push path entry table).entries template =
      if template = path then table.entries template ++ [entry] else table.entries template := by
  induction table with
  | nil =>
    rw [push, entries_cons]
    rfl
  | cons row table ih =>
    obtain ⟨other, rows⟩ := row
    rw [push]
    by_cases same : other = path
    · rw [if_pos same, entries_cons, entries_cons, same]
      split_ifs <;> rfl
    · rw [if_neg same, entries_cons, entries_cons, ih]
      by_cases here : template = other
      · have elsewhere : ¬template = path := fun equal => same (here ▸ equal)
        rw [if_pos here, if_neg elsewhere, if_pos here]
      · rw [if_neg here, if_neg here]

end Table

/-- The route is entered in the table, and exists on the listener. -/
def ExistsOn (listener : Option Text) (registered : Registered) : Prop :=
  registered.1.path.text ≠ [] ∧ registered.1.scope.serves_listener listener = true

/-- The routes without those that the listener does not have. -/
def existing (listener : Option Text) (routes : List Registered) : List Registered :=
  routes.filter (·.1.scope.serves_listener listener)

/-- The routes that are entered under a path. -/
def entered (routes : List Registered) (template : Template) : List Registered :=
  routes.filter fun registered => decide (registered.1.path = template ∧ template.text ≠ [])

theorem by_path_append (routes : List Registered) (registered : Registered) (middlewares : List Stage) :
    by_path (routes ++ [registered]) middlewares =
      if registered.1.path.text = [] then by_path routes middlewares
      else Table.push registered.1.path (entry_of middlewares registered) (by_path routes middlewares) := by
  simp [by_path, List.foldl_append]

theorem entered_append (routes : List Registered) (registered : Registered) (template : Template) :
    entered (routes ++ [registered]) template =
      if registered.1.path = template ∧ template.text ≠ [] then entered routes template ++ [registered]
      else entered routes template := by
  rw [entered, List.filter_append, List.filter_singleton]
  by_cases here : registered.1.path = template ∧ template.text ≠ []
  · rw [if_pos here, decide_eq_true here]
    rfl
  · rw [if_neg here, decide_eq_false here]
    exact List.append_nil _

/-- A route with no path is entered nowhere. -/
theorem entered_pathless {registered : Registered} (empty : registered.1.path.text = []) (routes : List Registered)
    (template : Template) : entered (routes ++ [registered]) template = entered routes template := by
  rw [entered_append, if_neg]
  rintro ⟨rfl, nonempty⟩
  exact nonempty empty

theorem by_path_entries (routes : List Registered) (middlewares : List Stage) (template : Template) :
    (by_path routes middlewares).entries template = (entered routes template).map (entry_of middlewares) := by
  induction routes using List.reverseRecOn with
  | nil => rfl
  | append_singleton routes registered ih =>
    rw [by_path_append]
    by_cases empty : registered.1.path.text = []
    · rw [if_pos empty, ih, entered_pathless empty]
    · rw [if_neg empty, Table.entries_push, ih, entered_append]
      by_cases here : template = registered.1.path
      · subst here
        simp [empty]
      · have elsewhere : ¬(registered.1.path = template ∧ template.text ≠ []) := fun both => here both.1.symm
        rw [if_neg here, if_neg elsewhere]

theorem mem_by_path {routes : List Registered} {middlewares : List Stage} {template : Template} :
    template ∈ (by_path routes middlewares).paths ↔ entered routes template ≠ [] := by
  induction routes using List.reverseRecOn with
  | nil => simp [by_path, Table.paths, entered]
  | append_singleton routes registered ih =>
    rw [by_path_append]
    by_cases empty : registered.1.path.text = []
    · rw [if_pos empty, ih, entered_pathless empty]
    · rw [if_neg empty, Table.paths_push, entered_append]
      by_cases here : template = registered.1.path
      · subst here
        have entered_here : registered.1.path = registered.1.path ∧ registered.1.path.text ≠ [] := ⟨rfl, empty⟩
        rw [if_pos entered_here]
        constructor
        · intro _ none
          simp at none
        · intro _
          split_ifs with known
          · exact known
          · exact List.mem_append_right _ (List.mem_singleton_self _)
      · have elsewhere : ¬(registered.1.path = template ∧ template.text ≠ []) := fun both => here both.1.symm
        rw [if_neg elsewhere, ← ih]
        split_ifs
        · rfl
        · simp [here]

theorem by_path_nodup (routes : List Registered) (middlewares : List Stage) :
    (by_path routes middlewares).paths.Nodup := by
  induction routes using List.reverseRecOn with
  | nil => exact List.nodup_nil
  | append_singleton routes registered ih =>
    rw [by_path_append]
    split_ifs
    · exact ih
    · rw [Table.paths_push]
      split_ifs with known
      · exact ih
      · rw [List.nodup_append]
        refine ⟨ih, List.nodup_singleton _, ?_⟩
        intro other inside last member same
        obtain rfl := List.mem_singleton.mp member
        exact known (same ▸ inside)

/-! ### Routes that do not exist on a listener -/

theorem entered_existing (listener : Option Text) (routes : List Registered) (template : Template) :
    entered (existing listener routes) template =
      (entered routes template).filter (·.1.scope.serves_listener listener) := by
  rw [entered, existing, entered, List.filter_comm]

/-- Removing the routes that the listener does not have keeps what the routes of
    one path make of a request. -/
theorem outcome_of_existing (listener : Option Text) (routes : List Registered) (middlewares : List Stage)
    (template : Template) (method : Text) :
    outcome_of ((by_path (existing listener routes) middlewares).entries template) method listener =
      outcome_of ((by_path routes middlewares).entries template) method listener := by
  have kept : ((entered routes template).filter (·.1.scope.serves_listener listener)).map (entry_of middlewares) =
      ((entered routes template).map (entry_of middlewares)).filter (·.scope.serves_listener listener) := by
    rw [List.filter_map]
    rfl
  rw [by_path_entries, by_path_entries, entered_existing, kept, outcome_of_filter]

/-- Some route of the path exists on the listener. -/
def HasRoute (listener : Option Text) (routes : List Registered) (template : Template) : Prop :=
  ∃ registered ∈ routes, registered.1.path = template ∧ ExistsOn listener registered

theorem mem_existing {listener : Option Text} {routes : List Registered} {middlewares : List Stage}
    {template : Template} :
    template ∈ (by_path (existing listener routes) middlewares).paths ↔ HasRoute listener routes template := by
  rw [mem_by_path, entered_existing, ne_eq, List.filter_eq_nil_iff]
  push Not
  constructor
  · rintro ⟨registered, member, serves⟩
    obtain ⟨inside, same, nonempty⟩ := by simpa [entered] using member
    refine ⟨registered, inside, same, ?_, serves⟩
    rw [same]
    exact nonempty
  · rintro ⟨registered, inside, rfl, nonempty, serves⟩
    exact ⟨registered, by simpa [entered, inside] using nonempty, serves⟩

theorem outcome_notFound {listener : Option Text} {routes : List Registered} {middlewares : List Stage}
    {template : Template} (hidden : ¬HasRoute listener routes template) (method : Text) :
    outcome_of ((by_path routes middlewares).entries template) method listener = .notFound := by
  rw [outcome_of_notFound, by_path_entries]
  intro entry member
  obtain ⟨registered, inside, rfl⟩ := List.mem_map.mp member
  obtain ⟨known, same, nonempty⟩ := by simpa [entered] using inside
  by_contra serves
  refine hidden ⟨registered, known, same, ?_, by simpa [entry_of] using serves⟩
  rw [same]
  exact nonempty

theorem outcome_found {listener : Option Text} {routes : List Registered} {middlewares : List Stage}
    {template : Template} (has : HasRoute listener routes template) (method : Text) :
    outcome_of ((by_path routes middlewares).entries template) method listener ≠ .notFound := by
  rw [ne_eq, outcome_of_notFound, by_path_entries]
  intro none
  obtain ⟨registered, inside, rfl, nonempty, serves⟩ := has
  have member : registered ∈ entered routes registered.1.path := by simpa [entered, inside] using nonempty
  rw [show registered.1.scope.serves_listener listener = false from
    none (entry_of middlewares registered) (List.mem_map_of_mem member)] at serves
  cases serves

theorem mem_of_hasRoute {listener : Option Text} {routes : List Registered} (middlewares : List Stage)
    {template : Template} (has : HasRoute listener routes template) : template ∈ (by_path routes middlewares).paths := by
  rw [mem_by_path]
  obtain ⟨registered, inside, rfl, nonempty, -⟩ := has
  exact List.ne_nil_of_mem (a := registered) (by simp [entered, inside, nonempty])

/-- A path that has a route on the listener is picked from among the paths that
    have one when it is picked from among all. -/
theorem pick_existing {listener : Option Text} {routes : List Registered} (middlewares : List Stage)
    (consistent : Template.Consistent (routes.map (·.1.path))) {path : Text} {template : Template}
    (picked : Template.pick (by_path routes middlewares).paths path = some template)
    (has : HasRoute listener routes template) :
    Template.pick (by_path (existing listener routes) middlewares).paths path = some template := by
  classical
  have kept := Template.pick_filter (fun other => decide (HasRoute listener routes other)) picked (by simpa using has)
  rw [← kept]
  refine Template.pick_perm ?_ ?_ path
  · intro a left b right same
    obtain ⟨first, member, rfl, -⟩ := mem_existing.mp left
    obtain ⟨second, other, rfl, -⟩ := mem_existing.mp right
    exact consistent _ (List.mem_map_of_mem member) _ (List.mem_map_of_mem other) same
  · refine (List.perm_ext_iff_of_nodup (by_path_nodup _ _) ((by_path_nodup _ _).filter _)).mpr ?_
    intro other
    rw [mem_existing, List.mem_filter, decide_eq_true_eq]
    exact ⟨fun found => ⟨mem_of_hasRoute middlewares found, found⟩, And.right⟩

/-- On a path that is picked but has no route on the listener the answer is 404;
    without the routes that the listener does not have it is not, if another
    path that matches has a route there. -/
theorem outcome_captured {listener : Option Text} {routes : List Registered} {middlewares : List Stage}
    {path : Text} {template : Template} (has : HasRoute listener routes template) (matched : template.matches path)
    (method : Text) :
    (by_path (existing listener routes) middlewares).outcome path method listener ≠ .notFound := by
  unfold Table.outcome
  cases picked : Template.pick (by_path (existing listener routes) middlewares).paths path with
  | none => exact absurd matched (Template.pick_eq_none.mp picked template (mem_existing.mpr has))
  | some other =>
    obtain ⟨inside, -, -⟩ := Template.pick_spec picked
    dsimp only
    rw [outcome_of_existing]
    exact outcome_found (mem_existing.mp inside) method

theorem outcome_unmatched {listener : Option Text} {routes : List Registered} (middlewares : List Stage)
    {path : Text} (none_matches : ∀ template, HasRoute listener routes template → ¬template.matches path)
    (method : Text) : (by_path (existing listener routes) middlewares).outcome path method listener = .notFound := by
  unfold Table.outcome
  rw [Template.pick_eq_none.mpr fun template member => none_matches template (mem_existing.mp member)]

/-- Without the routes that the listener does not have, a request on it is
    treated the same exactly when the path picked for it has a route on the
    listener, or no path that it matches has one; otherwise it is answered 404
    where a less specific route on the listener would have been reached. -/
theorem outcome_existing_iff {routes : List Registered} (consistent : Template.Consistent (routes.map (·.1.path)))
    (middlewares : List Stage) (path method : Text) (listener : Option Text) :
    ((by_path (existing listener routes) middlewares).outcome path method listener =
        (by_path routes middlewares).outcome path method listener ↔
      (∃ template, Template.pick (by_path routes middlewares).paths path = some template ∧
        HasRoute listener routes template) ∨
        ∀ template, HasRoute listener routes template → ¬template.matches path) ∧
      ((by_path (existing listener routes) middlewares).outcome path method listener ≠
          (by_path routes middlewares).outcome path method listener →
        (by_path routes middlewares).outcome path method listener = .notFound) := by
  by_cases reached : ∃ template, Template.pick (by_path routes middlewares).paths path = some template ∧
      HasRoute listener routes template
  · obtain ⟨template, picked, has⟩ := reached
    have same : (by_path (existing listener routes) middlewares).outcome path method listener =
        (by_path routes middlewares).outcome path method listener := by
      rw [Table.outcome, Table.outcome, pick_existing middlewares consistent picked has, picked]
      exact outcome_of_existing listener routes middlewares template method
    exact ⟨⟨fun _ => Or.inl ⟨template, picked, has⟩, fun _ => same⟩, fun differ => absurd same differ⟩
  · have missed : (by_path routes middlewares).outcome path method listener = .notFound := by
      unfold Table.outcome
      cases picked : Template.pick (by_path routes middlewares).paths path with
      | none => rfl
      | some template => exact outcome_notFound (fun has => reached ⟨template, picked, has⟩) method
    refine ⟨⟨?_, ?_⟩, fun _ => missed⟩
    · intro same
      refine Or.inr fun template has matched => ?_
      exact outcome_captured has matched method (same.trans missed)
    · rintro (impossible | none_matches)
      · exact absurd impossible reached
      · rw [missed]
        exact outcome_unmatched middlewares none_matches method

/-! A path restricted to another listener captures what a parameter would bind. -/

def answering (id : Nat) (body : Text) : Stage :=
  ⟨⟨id, false, false, fun _ => .ok (.response ⟨200, [], utf8 body⟩)⟩, false, rfl⟩

/-- `/a/b`. -/
def pathAB : Template :=
  ⟨[.literal [], .literal (lit "a"), .literal (lit "b")], by decide, by decide, by decide, by decide⟩
/-- `/a/{x}`. -/
def pathAX : Template :=
  ⟨[.literal [], .literal (lit "a"), .param (lit "x")], by decide, by decide, by decide, by decide⟩

def overlapping : List Registered :=
  [(⟨pathAB, [lit "GET"], some [lit "internal"]⟩, answering 1 (lit "internal")),
    (⟨pathAX, [lit "GET"], none⟩, answering 2 (lit "public"))]

theorem overlapping_consistent : Template.Consistent (overlapping.map (·.1.path)) := by
  unfold Template.Consistent
  decide +kernel

theorem overlapping_hidden : ¬HasRoute (some (lit "public")) overlapping pathAB := by
  rintro ⟨registered, member, same, -, serves⟩
  simp only [overlapping, List.mem_cons, List.not_mem_nil, or_false] at member
  rcases member with rfl | rfl
  · exact absurd serves (by decide)
  · exact absurd same (by decide +kernel)

theorem overlapping_public : HasRoute (some (lit "public")) overlapping pathAX :=
  ⟨_, List.mem_cons_of_mem _ (List.mem_cons_self ..), rfl, by decide +kernel, by decide⟩

/-- On the public listener `/a/b` is not found, though `/a/{x}` is served there
    and would be reached if the internal route did not exist. -/
theorem overlapping_differs :
    (by_path overlapping []).outcome (lit "/a/b") (lit "GET") (some (lit "public")) = .notFound ∧
      (by_path (existing (some (lit "public")) overlapping) []).outcome (lit "/a/b") (lit "GET") (some (lit "public")) ≠
        (by_path overlapping []).outcome (lit "/a/b") (lit "GET") (some (lit "public")) := by
  have picked : Template.pick (by_path overlapping []).paths (lit "/a/b") = some pathAB := by decide +kernel
  have missed : (by_path overlapping []).outcome (lit "/a/b") (lit "GET") (some (lit "public")) = .notFound := by
    rw [Table.outcome, picked]
    exact outcome_notFound overlapping_hidden (lit "GET")
  refine ⟨missed, ?_⟩
  rw [missed]
  exact outcome_captured overlapping_public (by decide +kernel) (lit "GET")

theorem overlapping_iff :
    (by_path (existing (some (lit "public")) overlapping) []).outcome (lit "/a/c") (lit "GET") (some (lit "public")) =
      (by_path overlapping []).outcome (lit "/a/c") (lit "GET") (some (lit "public")) :=
  (outcome_existing_iff overlapping_consistent [] (lit "/a/c") (lit "GET") (some (lit "public"))).1.mpr
    (Or.inl ⟨pathAX, by decide +kernel, overlapping_public⟩)

end SiphonHttp.Routes
