import SiphonHttp.Boundary
import SiphonHttp.Landing

/-!
A request on its way through the router, in small steps: the path and the guard,
the layers of the whole router, the frames of its body one by one, and behind
them the stages, which go as `Flight` has them. The request timeout may drop it
at any of these. Wherever it is, what is known of it (`Stands`) is that no stage
is executed unless the guard let the request through and all of its body was
read, and only stages of the route that serves it; and every response has its
reason (`Turned`, or that of the flight).
-/
namespace SiphonHttp.Passage
open Text Dispatch Routes Server Request Runs
open Flight (InFlight)

/-! ### The steps -/

/-- Where a request is. -/
inductive Place
  /-- In front of the router. -/
  | arrived
  /-- The body is read, for the route that serves the request, up to what remains
      of the cap. -/
  | reads (parts : Parts) (route : Route) (remaining : Nat) (frames : List Frame) (collected : Octets)
  | flies (flight : InFlight)
  /-- Answered without a stage. -/
  | turned (response : Response)

/-- A request, and what a guard decided on it, if it was asked. -/
structure UnderWay where
  request : HttpRequest
  decided : Option Decision
  place : Place

def UnderWay.new (request : HttpRequest) : UnderWay := ⟨request, none, .arrived⟩

inductive Action
  /-- The router is called. A guard may go by whatever it counts, so what it
      decides is not known. -/
  | enters (decision : Decision)
  /-- The next frame of the body is read, or its end. -/
  | reads
  | flies (action : Flight.Action)
  /-- The request timeout drops it while the body is read; behind that it is an
      action of the flight. -/
  | times_out

/-- The answer to a guard's refusal. -/
def refusal_response (crates : Crates) (refusal : Refusal) : Response where
  status := (StatusCode.from_u16 refusal.status).getD 503
  headers := crates.valid_fields refusal.headers
  body := refusal.body

/-- `RequestBodyLimitLayer`, in front of what reads up to a cap. -/
def capped (crates : Crates) (limit : Nat) (body : Body) (inner : Nat → Place) : Place :=
  match body.content_length with
  | some length => if limit < length then .turned crates.too_large else inner (min limit length)
  | none => inner limit

/-- `dispatch`, up to where it reads the body. -/
def gate (entries : List RouteEntry) (parts : Parts) (frames : List Frame) (cap : Nat) : Place :=
  match route_gate (entries.map RouteEntry.scope) parts with
  | .Handler index =>
    match (entries.map RouteEntry.route)[index]? with
    | none => .turned (error_response 500 (lit "internal error"))
    | some route => .reads parts route cap frames []
  | refused => .turned (RouteMatch.refusal refused)

/-- `collect_body` goes on, and behind the end of the body `answer` begins. -/
def read_on (trusted : List Net.IpAddr) (parts : Parts) (route : Route) (remaining : Nat) (collected : Octets) :
    List Frame → Place
  | [] => .flies (.new route (request_from_parts trusted parts collected))
  | .data octets :: frames =>
    if remaining < octets.length then .turned (error_response 400 (lit "bad body"))
    else .reads parts route (remaining - octets.length) frames (collected ++ octets)
  | .trailers :: frames => .reads parts route remaining frames collected
  | .error :: _ => .turned (error_response 400 (lit "bad body"))

namespace UnderWay
variable (process : Process) (crates : Crates) (passage : UnderWay)

def enters (decision : Decision) : UnderWay :=
  let layered := capped crates process.router.max_body passage.request.body
  match Template.pick process.router.table.paths passage.request.path with
  | none => { passage with place := layered fun _ => .turned (empty_response 404) }
  | some template =>
    let through := layered
      (gate (process.router.table.entries template) (routed passage.request template) passage.request.body.frames)
    match process.router.admission, decision with
    | none, _ => { passage with place := through }
    | some _, .Admit respond => { passage with decided := some (.Admit respond), place := through }
    | some _, .Refuse refusal =>
      { passage with decided := some (.Refuse refusal), place := .turned (refusal_response crates refusal) }

/-- A way out is through the guard that let the request in. -/
def leaves (response : Response) : Response :=
  match passage.decided with
  | some (.Admit respond) =>
    { response with headers := response.headers ++ crates.valid_fields (respond response.status) }
  | _ => response

/-- The answer of the request. What the timeout drops it answers itself. -/
def answer : Waiting :=
  match passage.place with
  | .arrived | .reads .. => .waits
  | .turned response => .returned (passage.leaves crates response)
  | .flies flight =>
    match flight.answer with
    | .waits => .waits
    | .returned response => .returned (passage.leaves crates response)
    | .dropped => .returned (passage.leaves crates (empty_response 504))

/-- The stage bodies that were executed for the request. -/
def ran : List Ran :=
  match passage.place with
  | .flies flight => flight.ran
  | _ => []

def act : Action → Option UnderWay
  | .enters decision =>
    match passage.place with
    | .arrived => some (passage.enters process crates decision)
    | _ => none
  | .reads =>
    match passage.place with
    | .reads parts route remaining frames collected =>
      some { passage with place := read_on process.trusted parts route remaining collected frames }
    | _ => none
  | .flies action =>
    match passage.place with
    | .flies flight => (flight.act crates action).map fun flight => { passage with place := .flies flight }
    | _ => none
  | .times_out =>
    match passage.place with
    | .reads .. => some { passage with place := .turned (empty_response 504) }
    | _ => none

end UnderWay

/-! ### What is known of a request -/

/-- The router, the guard and the routes of the path led a request to a route. -/
structure Led (process : Process) (request : HttpRequest) (decided : Option Decision) (template : Template)
    (route : Route) : Prop where
  picked : Template.pick process.router.table.paths request.path = some template
  admitted : process.router.admission.isSome → ∃ respond, decided = some (.Admit respond)
  serves : outcome_of (process.router.table.entries template) request.method
    (request.connection.map (·.listener.name)) = .handler route

/-- A cap that the limit layer puts on a body. -/
structure Cap (limit : Nat) (body : Body) (cap : Nat) : Prop where
  within : cap ≤ limit
  declared : ∀ length ∈ body.content_length, cap ≤ length ∧ length ≤ limit

/-- Why a request is answered without a stage. -/
inductive Turned (process : Process) (crates : Crates) (request : HttpRequest) (decided : Option Decision) :
    Response → Prop
  | refused {refusal : Refusal} (installed : process.router.admission.isSome)
    (refuses : decided = some (.Refuse refusal)) :
    Turned process crates request decided (refusal_response crates refusal)
  | too_large {length : Nat} (declared : length ∈ request.body.content_length)
    (past : process.router.max_body < length) : Turned process crates request decided crates.too_large
  | no_path (unmatched : Template.pick process.router.table.paths request.path = none) :
    Turned process crates request decided (empty_response 404)
  | not_found {template : Template} (picked : Template.pick process.router.table.paths request.path = some template)
    (nothing : outcome_of (process.router.table.entries template) request.method
      (request.connection.map (·.listener.name)) = .notFound) :
    Turned process crates request decided (empty_response 404)
  | method_not_allowed {template : Template}
    (picked : Template.pick process.router.table.paths request.path = some template)
    (other_methods : outcome_of (process.router.table.entries template) request.method
      (request.connection.map (·.listener.name)) = .methodNotAllowed) :
    Turned process crates request decided (error_response 405 (lit "method not allowed"))
  | bad_body {template : Template} {route : Route} {cap : Nat} (led : Led process request decided template route)
    (capped : Cap process.router.max_body request.body cap)
    (broken : Body.collect (Body.limit_frames cap request.body.frames) = none) :
    Turned process crates request decided (error_response 400 (lit "bad body"))
  | timed_out {template : Template} {route : Route} (led : Led process request decided template route) :
    Turned process crates request decided (empty_response 504)

/-- The body was read to its end. -/
structure BodyRead (process : Process) (body : Body) : Prop where
  complete : body.Complete
  within : body.octets.length ≤ process.router.max_body
  declared : ∀ length ∈ body.content_length, body.octets.length ≤ length ∧ length ≤ process.router.max_body

/-- Where a request stands. -/
def Stands (process : Process) (crates : Crates) (passage : UnderWay) : Prop :=
  match passage.place with
  | .arrived => passage.decided = none
  | .reads parts route remaining frames collected =>
    ∃ template cap, Led process passage.request passage.decided template route ∧
      Cap process.router.max_body passage.request.body cap ∧ parts = routed passage.request template ∧
      Body.collect (Body.limit_frames cap passage.request.body.frames) =
        (Body.collect (Body.limit_frames remaining frames)).map (collected ++ ·)
  | .flies flight =>
    ∃ template, Led process passage.request passage.decided template flight.route ∧
      BodyRead process passage.request.body ∧
      flight.request =
        request_from_parts process.trusted (routed passage.request template) passage.request.body.octets ∧
      Flight.Sound crates flight
  | .turned response => Turned process crates passage.request passage.decided response

section
variable {process : Process} {crates : Crates} {passage next : UnderWay}

theorem Cap.read {cap : Nat} {body : Body} {octets : Octets} (capped : Cap process.router.max_body body cap)
    (collected : Body.collect (Body.limit_frames cap body.frames) = some octets) :
    octets = body.octets ∧ BodyRead process body := by
  obtain ⟨whole, fits, complete⟩ := Body.collect_limit_frames body.content_length collected
  obtain rfl : octets = body.octets := whole
  refine ⟨rfl, complete, Nat.le_trans fits capped.within, fun length announced => ?_⟩
  have below := capped.declared length announced
  exact ⟨Nat.le_trans fits below.1, below.2⟩

/-- What stands behind every cap of the limit layer stands behind the layer. -/
theorem capped_stands {inner : Nat → Place} {decided : Option Decision}
    (behind : ∀ cap, Cap process.router.max_body passage.request.body cap →
      Stands process crates { passage with decided := decided, place := inner cap }) :
    Stands process crates { passage with
      decided := decided
      place := capped crates process.router.max_body passage.request.body inner } := by
  unfold capped
  cases declared : passage.request.body.content_length with
  | none =>
    refine behind _ ⟨Nat.le_refl _, fun length announced => ?_⟩
    rw [declared] at announced
    cases announced
  | some length =>
    dsimp only
    split_ifs with past
    · exact .too_large declared past
    · refine behind _ ⟨Nat.min_le_left .., fun announced given => ?_⟩
      rw [declared] at given
      cases given
      exact ⟨Nat.min_le_right .., Nat.le_of_not_lt past⟩

/-- The gate leads to the route that serves the request, or answers what none of
    them serves. -/
theorem gate_stands {template : Template} {decided : Option Decision} {cap : Nat}
    (picked : Template.pick process.router.table.paths passage.request.path = some template)
    (admitted : process.router.admission.isSome → ∃ respond, decided = some (.Admit respond))
    (capped : Cap process.router.max_body passage.request.body cap) :
    Stands process crates { passage with
      decided := decided
      place := gate (process.router.table.entries template) (routed passage.request template)
        passage.request.body.frames cap } := by
  unfold gate route_gate
  rw [show (routed passage.request template).method = passage.request.method from rfl,
    show (routed passage.request template).connection = passage.request.connection from rfl]
  cases matched : match_route ((process.router.table.entries template).map RouteEntry.scope) passage.request.method
    (passage.request.connection.map (·.listener.name)) with
  | MethodNotAllowed =>
    exact .method_not_allowed picked (by rw [outcome_of, matched])
  | NotOnThisListener =>
    exact .not_found picked (by rw [outcome_of, matched])
  | Handler index =>
    have inside := match_route_inside matched
    dsimp only
    rw [List.getElem?_map, List.getElem?_eq_getElem inside]
    refine ⟨template, cap, ⟨picked, admitted, ?_⟩, capped, rfl, ?_⟩
    · dsimp only
      rw [outcome_of, matched]
      dsimp only
      rw [List.getElem?_eq_getElem inside]
    · simp

theorem enters_stands (place : passage.place = .arrived) (stands : Stands process crates passage)
    (decision : Decision) : Stands process crates (passage.enters process crates decision) := by
  unfold Stands at stands
  rw [place] at stands
  have undecided : passage.decided = none := stands
  unfold UnderWay.enters
  cases picked : Template.pick process.router.table.paths passage.request.path with
  | none => exact @capped_stands process crates passage _ passage.decided fun cap capped => .no_path picked
  | some template =>
    dsimp only
    cases installed : process.router.admission with
    | none =>
      exact @capped_stands process crates passage _ passage.decided fun cap capped =>
        gate_stands picked (fun guarded => by rw [installed] at guarded; cases guarded) capped
    | some admission =>
      cases decision with
      | Admit respond =>
        exact @capped_stands process crates passage _ (some (.Admit respond)) fun cap capped =>
          gate_stands picked (fun _ => ⟨respond, rfl⟩) capped
      | Refuse refusal => exact .refused (by rw [installed]; rfl) rfl

/-- Reading on keeps what was read: the rest of the body and what was collected
    make up what the cap lets through. -/
theorem reads_stands {parts : Parts} {route : Route} {remaining : Nat} {frames : List Frame} {collected : Octets}
    (place : passage.place = .reads parts route remaining frames collected)
    (stands : Stands process crates passage) :
    Stands process crates
      { passage with place := read_on process.trusted parts route remaining collected frames } := by
  unfold Stands at stands
  rw [place] at stands
  obtain ⟨template, cap, led, capped, rfl, whole⟩ := stands
  cases frames with
  | nil =>
    obtain ⟨same, read⟩ := capped.read (by rw [whole]; rfl : _ = some (collected ++ []))
    refine ⟨template, led, read, ?_, Flight.new_sound crates _ _⟩
    rw [← same, List.append_nil]
    rfl
  | cons frame frames =>
    cases frame with
    | error => exact .bad_body led capped (by rw [whole]; rfl)
    | trailers => exact ⟨template, cap, led, capped, rfl, whole⟩
    | data octets =>
      rw [Body.limit_frames] at whole
      rw [read_on]
      by_cases past : remaining < octets.length
      · rw [if_pos past] at whole ⊢
        exact .bad_body led capped whole
      · rw [if_neg past] at whole ⊢
        refine ⟨template, cap, led, capped, rfl, whole.trans ?_⟩
        rw [Body.collect, Option.map_map]
        simp [Function.comp_def]

theorem act_stands {action : Action} (acted : passage.act process crates action = some next)
    (stands : Stands process crates passage) : next.request = passage.request ∧ Stands process crates next := by
  unfold UnderWay.act at acted
  cases action with
  | enters decision =>
    cases place : passage.place <;> rw [place] at acted <;> cases acted
    refine ⟨?_, enters_stands place stands decision⟩
    unfold UnderWay.enters
    cases Template.pick process.router.table.paths passage.request.path with
    | none => rfl
    | some template => cases process.router.admission <;> cases decision <;> rfl
  | reads =>
    cases place : passage.place <;> rw [place] at acted <;> cases acted
    exact ⟨rfl, reads_stands place stands⟩
  | flies action =>
    cases place : passage.place with
    | flies flight =>
      rw [place] at acted
      obtain ⟨after, acts, rfl⟩ := Option.map_eq_some_iff.mp acted
      unfold Stands at stands
      rw [place] at stands
      obtain ⟨template, led, read, request, sound⟩ := stands
      obtain ⟨same_route, same_request⟩ := Flight.act_keeps acts
      refine ⟨rfl, template, ⟨led.picked, led.admitted, ?_⟩, read, ?_, Flight.act_sound acts sound⟩
      · rw [same_route]
        exact led.serves
      · rw [same_request]
        exact request
    | _ =>
      rw [place] at acted
      cases acted
  | times_out =>
    cases place : passage.place with
    | reads parts route remaining frames collected =>
      rw [place] at acted
      cases acted
      unfold Stands at stands
      rw [place] at stands
      obtain ⟨template, cap, led, -⟩ := stands
      exact ⟨rfl, .timed_out led⟩
    | _ =>
      rw [place] at acted
      cases acted

theorem run_stands {actions : List Action} (ran : run (UnderWay.act process crates) passage actions = some next)
    (stands : Stands process crates passage) : next.request = passage.request ∧ Stands process crates next :=
  run_preserves (fun state => state.request = passage.request ∧ Stands process crates state)
    (fun acted known => ⟨(act_stands acted known.2).1.trans known.1, (act_stands acted known.2).2⟩) ran ⟨rfl, stands⟩

/-! ### What is executed, and what is answered -/

/-- What is executed for a request is the chain of the route that it was led to,
    on all of the request. -/
structure Executes (process : Process) (passage : UnderWay) (template : Template) (route : Route) : Prop where
  led : Led process passage.request passage.decided template route
  read : BodyRead process passage.request.body
  guarded : Guards.Guarded Ran.callable ReturnedNone (route.chain.map Stage.callable) passage.ran
  request : ∀ run ∈ passage.ran, run.request =
    request_from_parts process.trusted (routed passage.request template) passage.request.body.octets

/-- What a request is answered with, before that goes out through the guard. -/
inductive Answers (process : Process) (crates : Crates) (passage : UnderWay) : Response → Prop
  | turned {response : Response} (idle : passage.ran = [])
    (turned : Turned process crates passage.request passage.decided response) :
    Answers process crates passage response
  | flown {flight : InFlight} {response : Response} (place : passage.place = .flies flight)
    (accounts : Flight.Accounts crates flight response) : Answers process crates passage response
  | dropped {flight : InFlight} (place : passage.place = .flies flight) (dropped : flight.answer = .dropped) :
    Answers process crates passage (empty_response 504)

theorem stands_executes (stands : Stands process crates passage) (executed : passage.ran ≠ []) :
    ∃ template route, Executes process passage template route := by
  unfold UnderWay.ran at executed
  unfold Stands at stands
  cases place : passage.place with
  | flies flight =>
    rw [place] at stands
    obtain ⟨template, led, read, request, sound⟩ := stands
    have ran : passage.ran = flight.ran := by rw [UnderWay.ran, place]
    refine ⟨template, flight.route, led, read, ?_, ?_⟩
    · rw [ran]
      exact sound.guarded
    · rw [ran]
      exact fun run member => (sound.request run member).trans request
  | _ =>
    rw [place] at executed
    exact absurd rfl executed

theorem stands_answers (stands : Stands process crates passage) {response : Response}
    (answered : passage.answer crates = .returned response) :
    ∃ inner, response = passage.leaves crates inner ∧ Answers process crates passage inner := by
  unfold UnderWay.answer at answered
  unfold Stands at stands
  cases place : passage.place with
  | arrived | reads =>
    rw [place] at answered
    cases answered
  | turned inner =>
    rw [place] at answered stands
    cases answered
    exact ⟨inner, rfl, .turned (by rw [UnderWay.ran, place]) stands⟩
  | flies flight =>
    rw [place] at answered stands
    obtain ⟨template, -, -, -, sound⟩ := stands
    dsimp only at answered
    cases flown : flight.answer with
    | waits =>
      rw [flown] at answered
      cases answered
    | returned inner =>
      rw [flown] at answered
      cases answered
      exact ⟨inner, rfl, .flown place (Flight.sound_accounts sound flown)⟩
    | dropped =>
      rw [flown] at answered
      cases answered
      exact ⟨_, rfl, .dropped place flown⟩

end

end SiphonHttp.Passage
