import SiphonHttp.Routes

/-!
Which scope serves a request. `match_route` returns the first scope on the
listener that has the method, and scopes that the listener does not have make no
difference, wherever they stand (`match_route_first`).
-/
namespace SiphonHttp.Routes
open Text

/-- The scopes that exist on a listener. -/
def served (listener : Option Text) (scopes : List RouteScope) : List RouteScope :=
  scopes.filter (·.serves_listener listener)

/-- Where the scopes stand that serve the method on the listener. -/
def Serving (scopes : List RouteScope) (method : Text) (listener : Option Text) : Set Nat :=
  {i | ∃ scope, scopes[i]? = some scope ∧ scope.serves_listener listener ∧ method ∈ scope.methods}

/-- A match with the handler counted among the scopes on the listener only. -/
def RouteMatch.among (listener : Option Text) (scopes : List RouteScope) : RouteMatch → RouteMatch
  | .Handler i => .Handler ((scopes.take i).countP (·.serves_listener listener))
  | .MethodNotAllowed => .MethodNotAllowed
  | .NotOnThisListener => .NotOnThisListener

/-- A match after `count` scopes were inserted at `place`. -/
def RouteMatch.shifted (place count : Nat) : RouteMatch → RouteMatch
  | .Handler i => .Handler (if i < place then i else i + count)
  | .MethodNotAllowed => .MethodNotAllowed
  | .NotOnThisListener => .NotOnThisListener

/-! ### The three answers -/

theorem match_route_eq (scopes : List RouteScope) (method : Text) (listener : Option Text) :
    match_route scopes method listener =
      match scopes.findIdx? fun scope => scope.serves_listener listener && decide (method ∈ scope.methods) with
      | some found => .Handler found
      | none => if scopes.any (·.serves_listener listener) then .MethodNotAllowed else .NotOnThisListener := by
  rw [match_route, match_from_eq, Bool.false_or]
  cases scopes.findIdx? _ with
  | some found => simp only [Nat.zero_add]
  | none => rfl

theorem match_route_handler (scopes : List RouteScope) (method : Text) (listener : Option Text) (i : Nat) :
    match_route scopes method listener = .Handler i ↔ IsLeast (Serving scopes method listener) i := by
  have first : match_route scopes method listener = .Handler i ↔
      scopes.findIdx? (fun scope => scope.serves_listener listener && decide (method ∈ scope.methods)) = some i := by
    rw [match_route_eq]
    cases scopes.findIdx? _ with
    | some found => simp
    | none => split_ifs <;> simp
  rw [first, List.findIdx?_eq_some_iff_getElem]
  constructor
  · rintro ⟨inside, here, before⟩
    refine ⟨⟨scopes[i], List.getElem?_eq_getElem inside, by simpa using here⟩, ?_⟩
    rintro j ⟨scope, at_j, serves, member⟩
    by_contra earlier
    obtain ⟨inside_j, rfl⟩ := List.getElem?_eq_some_iff.mp at_j
    exact before j (by omega) (by simp [serves, member])
  · rintro ⟨⟨scope, at_i, serves, member⟩, least⟩
    obtain ⟨inside, rfl⟩ := List.getElem?_eq_some_iff.mp at_i
    refine ⟨inside, by simp [serves, member], fun j earlier found => ?_⟩
    have inside_j : j < scopes.length := by omega
    have later := least ⟨scopes[j], List.getElem?_eq_getElem inside_j, by simpa using found⟩
    omega

theorem match_route_refused (scopes : List RouteScope) (method : Text) (listener : Option Text) :
    (match_route scopes method listener = .MethodNotAllowed ↔
        (∃ scope ∈ scopes, scope.serves_listener listener) ∧
          ∀ scope ∈ scopes, scope.serves_listener listener → method ∉ scope.methods) ∧
      (match_route scopes method listener = .NotOnThisListener ↔
        ∀ scope ∈ scopes, scope.serves_listener listener = false) := by
  rw [match_route_eq]
  cases found : scopes.findIdx? _ with
  | some i =>
    obtain ⟨inside, here, -⟩ := List.findIdx?_eq_some_iff_getElem.mp found
    have member : scopes[i] ∈ scopes := List.getElem_mem inside
    obtain ⟨serves, method_here⟩ : scopes[i].serves_listener listener = true ∧ method ∈ scopes[i].methods := by
      simpa using here
    constructor
    · refine iff_of_false (by simp) ?_
      rintro ⟨-, none⟩
      exact none _ member serves method_here
    · refine iff_of_false (by simp) ?_
      intro none
      rw [none _ member] at serves
      cases serves
  | none =>
    have no_method : ∀ scope ∈ scopes, scope.serves_listener listener → method ∉ scope.methods := by
      intro scope member serves method_here
      have missed := List.findIdx?_eq_none_iff.mp found scope member
      simp [serves, method_here] at missed
    dsimp only
    by_cases some_serves : scopes.any (·.serves_listener listener) = true
    · obtain ⟨scope, member, serves⟩ := List.any_eq_true.mp some_serves
      rw [if_pos some_serves]
      constructor
      · exact iff_of_true rfl ⟨⟨scope, member, serves⟩, no_method⟩
      · refine iff_of_false (by simp) fun none => ?_
        rw [none scope member] at serves
        cases serves
    · have none_serves : ∀ scope ∈ scopes, scope.serves_listener listener = false := by simpa using some_serves
      rw [if_neg some_serves]
      constructor
      · refine iff_of_false (by simp) ?_
        rintro ⟨⟨scope, member, serves⟩, -⟩
        rw [none_serves scope member] at serves
        cases serves
      · exact iff_of_true rfl none_serves

/-! ### Scopes that the listener does not have -/

/-- The first element that passes a test stands, in the filtered list, behind
    the elements before it that the filter keeps. -/
theorem findIdx?_filter_count {α : Type} {keep test : α → Bool} (passes : ∀ a, test a → keep a) (list : List α) :
    (list.filter keep).findIdx? test = (list.findIdx? test).map fun i => (list.take i).countP keep := by
  induction list with
  | nil => rfl
  | cons a list ih =>
    rw [List.filter_cons, List.findIdx?_cons]
    by_cases here : test a = true
    · rw [if_pos (passes a here), List.findIdx?_cons, here]
      rfl
    · rw [if_neg here, Option.map_map]
      have behind : ((fun i => ((a :: list).take i).countP keep) ∘ fun i => i + 1) =
          fun i => (list.take i).countP keep + if keep a then 1 else 0 := by
        funext i
        simp [List.countP_cons]
      rw [behind]
      split_ifs with kept
      · rw [List.findIdx?_cons, if_neg here, ih, Option.map_map]
        rfl
      · rw [ih]
        rfl

/-- Counted among the scopes on the listener, the match is that of those scopes
    alone. -/
theorem match_route_among (scopes : List RouteScope) (method : Text) (listener : Option Text) :
    (match_route scopes method listener).among listener scopes = match_route (served listener scopes) method listener := by
  rw [match_route_eq, match_route_eq, served, findIdx?_filter_count (by simp +contextual), List.any_filter]
  simp only [Bool.and_self]
  cases scopes.findIdx? _ with
  | some i => rfl
  | none =>
    simp only [Option.map_none]
    split_ifs <;> rfl

/-- Scopes put in that the listener does not have shift the handlers behind
    them. -/
theorem match_route_inserted (before hidden behind : List RouteScope) (method : Text) (listener : Option Text)
    (unserved : ∀ scope ∈ hidden, scope.serves_listener listener = false) :
    match_route (before ++ hidden ++ behind) method listener =
      (match_route (before ++ behind) method listener).shifted before.length hidden.length := by
  have nowhere : hidden.findIdx? (fun scope => scope.serves_listener listener && decide (method ∈ scope.methods)) =
      none := List.findIdx?_eq_none_iff.mpr fun scope member => by rw [unserved scope member, Bool.false_and]
  have nobody : hidden.any (·.serves_listener listener) = false :=
    List.any_eq_false.mpr fun scope member => by rw [unserved scope member]; decide
  rw [match_route_eq, match_route_eq, List.findIdx?_append, List.findIdx?_append, List.findIdx?_append, nowhere,
    List.any_append, List.any_append, List.any_append, nobody, Bool.or_false, Option.map_none, Option.or_none]
  cases first : before.findIdx? _ with
  | some i =>
    obtain ⟨inside, -⟩ := List.findIdx?_eq_some_iff_getElem.mp first
    simp only [Option.some_or, RouteMatch.shifted, if_pos inside]
  | none =>
    simp only [Option.none_or]
    cases behind.findIdx? _ with
    | some i =>
      simp only [Option.map_some, List.length_append, RouteMatch.shifted]
      rw [if_neg (by omega)]
      congr 1
      omega
    | none =>
      simp only [Option.map_none]
      split_ifs <;> rfl

/-! ### An unknown listener -/

theorem serves_unknown (scope : RouteScope) : scope.serves_listener none = scope.listeners.isNone := by
  unfold RouteScope.serves_listener
  cases scope.listeners <;> rfl

theorem serves_unrestricted {scope : RouteScope} (unrestricted : scope.listeners = none) (listener : Option Text) :
    scope.serves_listener listener = true := by
  unfold RouteScope.serves_listener
  rw [unrestricted]

/-- Among unrestricted scopes the listener makes no difference. -/
theorem match_route_unrestricted {scopes : List RouteScope} (unrestricted : ∀ scope ∈ scopes, scope.listeners = none)
    (method : Text) (listener other : Option Text) :
    match_route scopes method listener = match_route scopes method other := by
  have same : ∀ (index : Nat) (on_this_listener : Bool), match_from method listener scopes index on_this_listener =
      match_from method other scopes index on_this_listener := by
    induction scopes with
    | nil => exact fun _ _ => rfl
    | cons scope scopes ih =>
      intro index on_this_listener
      have here := unrestricted scope (List.mem_cons_self ..)
      have rest := ih fun later member => unrestricted later (List.mem_cons_of_mem _ member)
      rw [match_from, match_from, serves_unrestricted here, serves_unrestricted here]
      simp only [rest]
  exact same 0 false

/-- The first scope on the listener that has the method serves the request; the
    request is refused with 405 when the listener has scopes and none of them has
    the method, and as not found when the listener has none. Scopes that the
    listener does not have, wherever they are put in, only shift the handlers
    behind them; lists that have the same scopes on the listener choose the same
    one of these or refuse alike; and where the listener is not known the
    unrestricted scopes alone decide, as they would on any listener. -/
theorem match_route_first :
    (∀ (scopes : List RouteScope) (method : Text) (listener : Option Text),
      (∀ i, match_route scopes method listener = .Handler i ↔ IsLeast (Serving scopes method listener) i) ∧
      (match_route scopes method listener = .MethodNotAllowed ↔
        (∃ scope ∈ scopes, scope.serves_listener listener) ∧
          ∀ scope ∈ scopes, scope.serves_listener listener → method ∉ scope.methods) ∧
      (match_route scopes method listener = .NotOnThisListener ↔
        ∀ scope ∈ scopes, scope.serves_listener listener = false)) ∧
    (∀ (before hidden behind : List RouteScope) (method : Text) (listener : Option Text),
      (∀ scope ∈ hidden, scope.serves_listener listener = false) →
        match_route (before ++ hidden ++ behind) method listener =
          (match_route (before ++ behind) method listener).shifted before.length hidden.length) ∧
    (∀ (scopes other : List RouteScope) (method : Text) (listener : Option Text),
      served listener scopes = served listener other →
        (match_route scopes method listener).among listener scopes =
          (match_route other method listener).among listener other) ∧
    ∀ (scopes : List RouteScope) (method : Text) (listener : Option Text),
      (match_route scopes method none).among none scopes =
        match_route (scopes.filter (·.listeners.isNone)) method listener := by
  refine ⟨fun scopes method listener => ?_, match_route_inserted, ?_, ?_⟩
  · exact ⟨match_route_handler scopes method listener, match_route_refused scopes method listener⟩
  · intro scopes other method listener same
    rw [match_route_among, match_route_among, same]
  · intro scopes method listener
    have unrestricted : served none scopes = scopes.filter (·.listeners.isNone) :=
      List.filter_congr fun scope _ => serves_unknown scope
    rw [match_route_among, unrestricted]
    refine match_route_unrestricted (fun scope member => ?_) method none listener
    exact Option.isNone_iff_eq_none.mp (List.mem_filter.mp member).2

end SiphonHttp.Routes
