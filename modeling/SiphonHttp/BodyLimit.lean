import SiphonHttp.Server

/-!
The cap on request bodies, at the two places that enforce it: the layer that
looks at the declared length, and the reader of a body that declares none. Only
the first answers 413 (`body_limit_iff`).
-/
namespace SiphonHttp

namespace Body

/-- How long a body is: as it declares, or else as it is sent. -/
def length (body : Body) : Nat := body.content_length.getD body.octets.length

/-- A body that arrives completely is as long as it declares. -/
def Framed (body : Body) : Prop := body.Complete → ∀ length ∈ body.content_length, length = body.octets.length

/-- A body that is sent past the limit is not collected, complete or not. -/
theorem collect_past {body : Body} {limit : Nat} (past : limit < body.octets.length) :
    collect (body.limited limit).frames = none := by
  obtain ⟨declared, frames⟩ := body
  change collect (limit_frames limit frames) = none
  induction frames generalizing limit with
  | nil => simp [octets] at past
  | cons frame frames ih =>
    cases frame with
    | error => rfl
    | trailers =>
      rw [limit_frames, collect]
      exact ih past
    | data chunk =>
      rw [octets_cons_data, List.length_append] at past
      rw [limit_frames]
      split_ifs
      · rfl
      · rw [collect, ih (by omega)]
        rfl

end Body

namespace Server
open Text Dispatch Routes Config Net

/-- The stages were run on a request with these octets as its body. -/
def RanOn (surroundings : Surroundings) (route : Route) (octets : Octets) (served : Served) : Prop :=
  ∃ request : PyRequest, request.body_bytes = octets ∧
    served.ran = (surroundings.machinery.answer surroundings.crates route request).ran ∧
    ∀ run ∈ served.ran, run.request = request

/-- A body over the cap is answered 413 and no stage runs; any other that arrives
    completely and in time reaches the stages as it was sent. -/
def BodyLimited (surroundings : Surroundings) (router : Router) (route : Route) (body : Body) (served : Served) : Prop :=
  (router.max_body < body.length → served.response.status = 413 ∧ served.ran = []) ∧
    (body.length ≤ router.max_body → body.Complete → ¬Elapsed router.timeout surroundings.arrives →
      RanOn surroundings route body.octets served)

section
variable {surroundings : Surroundings} {trusted : List IpAddr} {entries : List RouteEntry} {parts : Parts}
  {route : Route} (served_by : outcome_of entries parts.method (parts.connection.map (·.listener.name)) = .handler route)
include served_by

theorem dispatch_uncollected {body : Body} (failed : Body.collect body.frames = none) :
    dispatch surroundings trusted entries parts body =
      ⟨error_response 400 (lit "bad body"), [], [], surroundings.arrives, surroundings.arrives⟩ := by
  rw [dispatch_eq, served_by]
  dsimp only
  rw [failed]

theorem dispatch_collected {body : Body} {octets : Octets} (collected : Body.collect body.frames = some octets)
    {limit : Nat} (in_time : ¬Elapsed limit surroundings.arrives) :
    RanOn surroundings route octets (timeout_layer limit (dispatch surroundings trusted entries parts body)) := by
  refine ⟨Request.request_from_parts trusted parts octets, rfl, ?_, ?_⟩
  · rw [dispatch_eq, served_by]
    dsimp only
    rw [collected]
    unfold timeout_layer
    dsimp only
    rw [if_neg in_time]
    split_ifs <;> rfl
  · intro run member
    obtain ⟨other, same, request⟩ := mem_dispatch (mem_timeout_layer member)
    rw [collected] at same
    cases same
    exact request

end

theorem timeout_status {limit : Nat} {inner : Served} (status : (timeout_layer limit inner).response.status = 413) :
    inner.response.status = 413 := by
  by_cases elapsed : Elapsed limit inner.took
  · rw [timeout_layer_elapsed elapsed] at status
    cases status
  · rwa [timeout_layer_in_time elapsed] at status

/-- Only the status and the executed bodies matter. -/
theorem bodyLimited_congr {served other : Served} (status : served.response.status = other.response.status)
    (ran : served.ran = other.ran) (surroundings : Surroundings) (router : Router) (route : Route) (body : Body) :
    BodyLimited surroundings router route body served ↔ BodyLimited surroundings router route body other := by
  simp only [BodyLimited, RanOn, status, ran]

/-- The cap holds as stated exactly for bodies within it, and for bodies over it
    that declare their length; one that is streamed past it is answered 400. -/
theorem body_limit_iff (config : HttpConfig) {routes : List Registered} (middlewares : List Stage)
    {admission : Option Admission} (surroundings : Surroundings) {request : HttpRequest} {template : Template}
    {route : Route} (through : LetsThrough admission request)
    (picked : Template.pick (by_path routes middlewares).paths request.path = some template)
    (served_by : outcome_of ((by_path routes middlewares).entries template) request.method
      (request.connection.map (·.listener.name)) = .handler route)
    (framed : request.body.Framed) :
    let process := spawn_with config routes middlewares admission
    BodyLimited surroundings process.router route request.body (process.serve surroundings request) ↔
      request.body.length ≤ process.router.max_body ∨ request.body.content_length.isSome = true := by
  intro process
  have router : process.router = ⟨by_path routes middlewares, max_body config, timeout config, admission⟩ :=
    spawn_with_router config routes middlewares admission
  have served : process.router.unguarded.serve surroundings process.trusted request =
      timeout_layer process.router.timeout
        (limit_layer surroundings.crates process.router.max_body request.body
          (dispatch surroundings process.trusted ((by_path routes middlewares).entries template)
            (routed request template))) := by
    simp only [Router.serve, router, Router.unguarded, picked, Router.layers]
  have let_through : LetsThrough process.router.admission request := by rwa [router]
  obtain ⟨status, ran, -⟩ := Router.serve_through let_through surroundings process.trusted
  rw [Process.serve, bodyLimited_congr status ran]
  have routed_by : outcome_of ((by_path routes middlewares).entries template) (routed request template).method
      ((routed request template).connection.map (·.listener.name)) = .handler route := served_by
  have reaches : ∀ limit, request.body.octets.length ≤ limit → request.body.Complete →
      ¬Elapsed process.router.timeout surroundings.arrives →
      RanOn surroundings route request.body.octets (timeout_layer process.router.timeout
        (dispatch surroundings process.trusted ((by_path routes middlewares).entries template)
          (routed request template) (request.body.limited limit))) := by
    intro limit fits complete in_time
    refine dispatch_collected routed_by ?_ in_time
    rw [Body.collect_limited request.body limit complete, if_pos fits]
  unfold BodyLimited
  rw [served, limit_layer]
  cases declared : request.body.content_length with
  | none =>
    have length : request.body.length = request.body.octets.length := by rw [Body.length, declared, Option.getD_none]
    rw [length]
    dsimp only
    by_cases fits : request.body.octets.length ≤ process.router.max_body
    · refine ⟨fun _ => Or.inl fits, fun _ => ⟨fun past => absurd fits (by omega), fun _ complete in_time => ?_⟩⟩
      exact reaches process.router.max_body fits complete in_time
    · constructor
      · rintro ⟨refused, -⟩
        have status := timeout_status (refused (by omega)).1
        rw [dispatch_uncollected routed_by (Body.collect_past (by omega))] at status
        cases status
      · rintro (impossible | impossible)
        · exact absurd impossible fits
        · cases impossible
  | some announced =>
    have length : request.body.length = announced := by rw [Body.length, declared, Option.getD_some]
    rw [length]
    dsimp only
    by_cases fits : announced ≤ process.router.max_body
    · rw [if_neg (by omega)]
      refine ⟨fun _ => Or.inl fits, fun _ => ⟨fun past => absurd fits (by omega), fun _ complete in_time => ?_⟩⟩
      have exact_length := framed complete announced declared
      exact reaches _ (by omega) complete in_time
    · rw [if_pos (by omega)]
      refine ⟨fun _ => Or.inr rfl, fun _ => ?_⟩
      -- The answer to the declared length is there at the first look.
      rw [timeout_layer_in_time (fun elapsed => absurd elapsed.1 (Nat.lt_irrefl 0))]
      exact ⟨fun _ => ⟨rfl, rfl⟩, fun small => absurd small fits⟩

/-! Twelve octets under a cap of eight: 413 when they are declared, 400 when they
    are streamed. -/

def cappedAtEight : HttpConfig where
  servers := [⟨lit "192.0.2.1:8080", none, none, 8, 30000, []⟩]

def upload : List Registered := [(⟨pathAB, [lit "POST"], none⟩, answering 1 (lit "stored"))]

def uploading (body : Body) : HttpRequest where
  method := lit "POST"
  path := lit "/a/b"
  query := none
  authority := none
  headers := []
  matched_path := none
  peer := none
  connection := some ⟨⟨lit "192.0.2.1:8080", false⟩, none⟩
  body := body

def streamed : Body := ⟨none, [.data (utf8 (lit "sixsix")), .data (utf8 (lit "twelve"))]⟩

theorem upload_picked : Template.pick (by_path upload []).paths (lit "/a/b") = some pathAB := by decide +kernel

theorem upload_served_by : outcome_of ((by_path upload []).entries pathAB) (lit "POST") (some (lit "192.0.2.1:8080")) =
    .handler (Route.new [] (answering 1 (lit "stored"))) := rfl

theorem streamed_past_the_cap :
    let process := spawn_with cappedAtEight upload [] none
    process.router.table.outcome (lit "/a/b") (lit "POST") (some (lit "192.0.2.1:8080")) =
        .handler (Route.new [] (answering 1 (lit "stored"))) ∧
      process.router.max_body < streamed.length ∧
      (process.serve calm (uploading streamed)).response = error_response 400 (lit "bad body") ∧
      (process.serve calm (uploading { streamed with content_length := some 12 })).response.status = 413 := by
  refine ⟨?_, by decide +kernel⟩
  change (by_path upload []).outcome _ _ _ = _
  rw [Table.outcome, upload_picked]
  exact upload_served_by

theorem declared_past_the_cap :
    let process := spawn_with cappedAtEight upload [] none
    BodyLimited calm process.router (Route.new [] (answering 1 (lit "stored")))
      (uploading { streamed with content_length := some 12 }).body
      (process.serve calm (uploading { streamed with content_length := some 12 })) :=
  (body_limit_iff cappedAtEight [] calm (by simp [LetsThrough]) upload_picked upload_served_by
    (fun _ length declared => by
      cases declared
      rfl)).mpr (Or.inr rfl)

end Server
end SiphonHttp
