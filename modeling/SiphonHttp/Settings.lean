import SiphonHttp.BodyLimit

/-!
The settings of several listeners. One router and one list of trusted proxies
serve them all: the largest cap, the longest timeout and the proxies of every
listener apply to each (`shared_settings`).
-/
namespace SiphonHttp.Server
open Text Dispatch Routes Config Net

/-- The largest of some settings is one of them, and none is larger. -/
theorem largest {Item : Type} {items : List Item} (nonempty : items ≠ []) (setting : Item → Nat) (fallback : Nat) :
    (∃ item ∈ items, setting item = (items.map setting).max?.getD fallback) ∧
      ∀ item ∈ items, setting item ≤ (items.map setting).max?.getD fallback := by
  cases found : (items.map setting).max? with
  | none =>
    rw [List.max?_eq_none_iff, List.map_eq_nil_iff] at found
    exact absurd found nonempty
  | some maximum =>
    obtain ⟨member, bound⟩ := List.max?_eq_some_iff.mp found
    obtain ⟨item, inside, same⟩ := List.mem_map.mp member
    exact ⟨⟨item, inside, same⟩, fun other known => bound _ (List.mem_map_of_mem known)⟩

theorem mem_all_trusted {config : HttpConfig} {ip : IpAddr} :
    ip ∈ all_trusted config ↔
      ∃ server ∈ config.servers, ∃ entry ∈ server.trusted_proxies, parse_ip entry = some ip := by
  simp only [all_trusted, Request.trusted_proxies, List.mem_filterMap, List.mem_flatMap]
  constructor
  · rintro ⟨entry, ⟨server, member, listed⟩, parsed⟩
    exact ⟨server, member, entry, listed, parsed⟩
  · rintro ⟨server, member, entry, listed, parsed⟩
    exact ⟨entry, ⟨server, member, listed⟩, parsed⟩

/-! ### Bodies over the cap -/

/-- No stage was executed, and the answer is an error. -/
def Refused (served : Served) : Prop := served.ran = [] ∧ 400 ≤ served.response.status

theorem timeout_layer_refused {limit : Nat} {inner : Served} (refused : Refused inner) :
    Refused (timeout_layer limit inner) := by
  refine ⟨timeout_layer_idle refused.1, ?_⟩
  by_cases elapsed : Elapsed limit inner.took
  · rw [timeout_layer_elapsed elapsed]
    decide
  · rw [timeout_layer_in_time elapsed]
    exact refused.2

theorem dispatch_refused (surroundings : Surroundings) (trusted : List IpAddr) (entries : List RouteEntry)
    (parts : Parts) {body : Body} (failed : Body.collect body.frames = none) :
    Refused (dispatch surroundings trusted entries parts body) := by
  rw [dispatch_eq]
  cases outcome_of entries parts.method (parts.connection.map (·.listener.name)) with
  | handler route =>
    dsimp only
    rw [failed]
    exact ⟨rfl, (by decide : 400 ≤ 400)⟩
  | methodNotAllowed => exact ⟨rfl, (by decide : 400 ≤ 405)⟩
  | notFound => exact ⟨rfl, (by decide : 400 ≤ 404)⟩

theorem limit_layer_refused {crates : Crates} {limit : Nat} {body : Body} {inner : Body → Served}
    (past : limit < body.length) (fails : ∀ body : Body, Body.collect body.frames = none → Refused (inner body)) :
    Refused (limit_layer crates limit body inner) := by
  unfold limit_layer
  cases declared : body.content_length with
  | none =>
    rw [Body.length, declared, Option.getD_none] at past
    exact fails _ (Body.collect_past past)
  | some announced =>
    rw [Body.length, declared, Option.getD_some] at past
    dsimp only
    rw [if_pos past]
    exact ⟨rfl, (by decide : 400 ≤ 413)⟩

theorem serve_past_cap {router : Router} {request : HttpRequest} (through : LetsThrough router.admission request)
    (surroundings : Surroundings) (trusted : List IpAddr) (past : router.max_body < request.body.length) :
    Refused (router.serve surroundings trusted request) := by
  have refused : Refused (router.unguarded.serve surroundings trusted request) := by
    rw [Router.serve, show router.unguarded.admission = none from rfl]
    cases Template.pick router.unguarded.table.paths request.path with
    | none => exact timeout_layer_refused (limit_layer_refused past fun _ _ => ⟨rfl, (by decide : 400 ≤ 404)⟩)
    | some template =>
      exact timeout_layer_refused (limit_layer_refused past fun _ failed =>
        dispatch_refused surroundings trusted _ _ failed)
  obtain ⟨status, ran, -⟩ := Router.serve_through through surroundings trusted
  exact ⟨ran.trans refused.1, by rw [status]; exact refused.2⟩

/-! ### The timeout -/

/-- What a timeout makes of what a longer one lets be. -/
theorem timeout_layer_shorter {limit patience : Nat} (longer : limit < patience) (inner : Served) :
    (Elapsed limit (timeout_layer patience inner).took →
        (timeout_layer limit inner).response = empty_response 504 ∧ (timeout_layer limit inner).took = limit) ∧
      (¬Elapsed limit (timeout_layer patience inner).took →
        timeout_layer limit inner = timeout_layer patience inner) := by
  have same : Elapsed limit (timeout_layer patience inner).took ↔ Elapsed limit inner.took := by
    rw [timeout_layer_took]
    simp only [Elapsed]
    omega
  rw [same]
  by_cases late : Elapsed limit inner.took
  · refine ⟨fun _ => ⟨timeout_layer_elapsed late, ?_⟩, fun early => absurd late early⟩
    rw [timeout_layer_took, min_eq_left late.2]
  · refine ⟨fun later => absurd later late, fun _ => ?_⟩
    have patient : ¬Elapsed patience inner.took := by
      simp only [Elapsed] at late ⊢
      omega
    rw [timeout_layer_in_time late, timeout_layer_in_time patient]

/-- With a longer timeout and all else equal, what would have taken up to the
    timeout is as it was, and the rest is cut off at it. -/
theorem serve_cut_off {router : Router} {request : HttpRequest} (through : LetsThrough router.admission request)
    (surroundings : Surroundings) (trusted : List IpAddr) {patience : Nat} (longer : router.timeout < patience) :
    let served := router.serve surroundings trusted request
    let patient := { router with timeout := patience }.serve surroundings trusted request
    (Elapsed router.timeout patient.took → served.response.status = 504 ∧ served.took = router.timeout) ∧
      (¬Elapsed router.timeout patient.took → served = patient) := by
  intro served patient
  let bare := router.unguarded.serve surroundings trusted request
  let bare_patient := { router.unguarded with timeout := patience }.serve surroundings trusted request
  have cut : (Elapsed router.timeout bare_patient.took →
        bare.response = empty_response 504 ∧ bare.took = router.timeout) ∧
      (¬Elapsed router.timeout bare_patient.took → bare = bare_patient) := by
    simp only [bare, bare_patient, Router.serve, show router.unguarded.admission = none from rfl]
    cases Template.pick router.unguarded.table.paths request.path with
    | none => exact timeout_layer_shorter longer _
    | some template => exact timeout_layer_shorter longer _
  have served_eq : served = router.asked surroundings.crates request bare :=
    Router.serve_eq router surroundings trusted request
  have patient_eq : patient = router.asked surroundings.crates request bare_patient :=
    Router.serve_eq { router with timeout := patience } surroundings trusted request
  obtain ⟨status, -, took⟩ := Router.asked_through through surroundings.crates bare
  obtain ⟨-, -, patient_took⟩ := Router.asked_through through surroundings.crates bare_patient
  rw [served_eq, patient_eq, status, took, patient_took]
  constructor
  · intro elapsed
    obtain ⟨response, cut_took⟩ := cut.1 elapsed
    rw [response]
    exact ⟨rfl, cut_took⟩
  · intro early
    rw [cut.2 early]

/-! ### The client address -/

theorem serve_client {router : Router} {request : HttpRequest} (through : LetsThrough router.admission request)
    {surroundings : Surroundings} {trusted : List IpAddr} {run : Ran}
    (member : run ∈ (router.serve surroundings trusted request).ran) :
    run.request.client = Request.client_addr trusted request.peer request.headers := by
  rw [(Router.serve_through through surroundings trusted).2.1, Router.serve,
    show router.unguarded.admission = none from rfl] at member
  cases picked : Template.pick router.unguarded.table.paths request.path with
  | none =>
    rw [picked] at member
    obtain ⟨body, ran⟩ := mem_limit_layer (mem_timeout_layer member)
    cases ran
  | some template =>
    rw [picked] at member
    obtain ⟨body, ran⟩ := mem_limit_layer (mem_timeout_layer member)
    obtain ⟨octets, -, same⟩ := mem_dispatch ran
    rw [same]
    rfl

/-- Who is trusted only shows in the client address, and there only by the
    peer. -/
theorem request_from_parts_trusted {trusted others : List IpAddr} (same : ∀ ip, ip ∈ others ↔ ip ∈ trusted) :
    Request.request_from_parts others = Request.request_from_parts trusted := by
  funext parts octets
  have client : Request.client_addr others parts.peer parts.headers =
      Request.client_addr trusted parts.peer parts.headers := by
    simp only [Request.client_addr, same]
  simp only [Request.request_from_parts, client]

theorem serve_trusted (router : Router) (surroundings : Surroundings) {trusted others : List IpAddr}
    (same : ∀ ip, ip ∈ others ↔ ip ∈ trusted) (request : HttpRequest) :
    router.serve surroundings others request = router.serve surroundings trusted request := by
  have dispatched : dispatch surroundings others = dispatch surroundings trusted := by
    unfold dispatch
    rw [request_from_parts_trusted same]
  rw [Router.serve, Router.serve, dispatched]

/-! ### All listeners -/

/-- Whatever listener a request arrives on, unless a guard refuses it: a body
    longer than every cap is refused, the longest timeout cuts the request off,
    the client is the socket peer unless some listener trusts that, and other
    settings that agree on the largest cap, the longest timeout and the trusted
    addresses change nothing. -/
theorem shared_settings {config : HttpConfig} (some_listener : config.servers ≠ []) (routes : List Registered)
    (middlewares : List Stage) {admission : Option Admission} (surroundings : Surroundings) {request : HttpRequest}
    (through : LetsThrough admission request) :
    let process := spawn_with config routes middlewares admission
    let served := process.serve surroundings request
    ((∀ server ∈ config.servers, server.max_body_bytes < request.body.length) → Refused served) ∧
      ((∃ server ∈ config.servers, server.request_timeout_ms = process.router.timeout) ∧
        (∀ server ∈ config.servers, server.request_timeout_ms ≤ process.router.timeout) ∧
        ∀ patience, process.router.timeout < patience →
          let patient := { process.router with timeout := patience }.serve surroundings process.trusted request
          (Elapsed process.router.timeout patient.took →
            served.response.status = 504 ∧ served.took = process.router.timeout) ∧
          (¬Elapsed process.router.timeout patient.took → served = patient)) ∧
      (∀ peer ∈ request.peer,
        (∀ server ∈ config.servers, ∀ entry ∈ server.trusted_proxies, parse_ip entry ≠ some peer.ip) →
        ∀ run ∈ served.ran, run.request.client = peer.text) ∧
      ∀ other : HttpConfig, max_body other = max_body config → timeout other = timeout config →
        (∀ ip, ip ∈ all_trusted other ↔ ip ∈ all_trusted config) →
        (spawn_with other routes middlewares admission).serve surroundings request = served := by
  intro process served
  have router : process.router = ⟨by_path routes middlewares, max_body config, timeout config, admission⟩ :=
    spawn_with_router config routes middlewares admission
  have let_through : LetsThrough process.router.admission request := by rwa [router]
  have caps : ∃ server ∈ config.servers, server.max_body_bytes = process.router.max_body := by
    rw [router]
    exact (largest some_listener (·.max_body_bytes) (1 <<< 20)).1
  have timeouts : (∃ server ∈ config.servers, server.request_timeout_ms = process.router.timeout) ∧
      ∀ server ∈ config.servers, server.request_timeout_ms ≤ process.router.timeout := by
    rw [router]
    exact largest some_listener (·.request_timeout_ms) 30000
  refine ⟨?_, ⟨timeouts.1, timeouts.2, ?_⟩, ?_, ?_⟩
  · intro past
    obtain ⟨server, member, same⟩ := caps
    exact serve_past_cap let_through surroundings process.trusted (same ▸ past server member)
  · intro patience longer
    exact serve_cut_off let_through surroundings process.trusted longer
  · intro peer present untrusted run member
    rw [serve_client let_through member, show request.peer = some peer from present]
    refine Request.client_addr_untrusted ?_ request.headers
    intro trusted
    obtain ⟨server, known, entry, listed, parsed⟩ := mem_all_trusted.mp trusted
    exact untrusted server known entry listed parsed
  · intro other cap limit trusted
    have same_router : (spawn_with other routes middlewares admission).router = process.router := by
      rw [router, spawn_with_router, cap, limit]
    change (spawn_with other routes middlewares admission).router.serve surroundings (all_trusted other) request =
      process.router.serve surroundings (all_trusted config) request
    rw [same_router]
    exact serve_trusted process.router surroundings trusted request

/-! Two listeners, one with a cap of eight octets: the cap of the other one
    decides. -/

def cappedBeside (other_cap : Nat) : HttpConfig where
  servers := [⟨lit "192.0.2.1:8080", none, none, 8, 30000, []⟩, ⟨lit "192.0.2.1:9090", none, none, other_cap, 30000, []⟩]

def twelveOctets : HttpRequest := uploading { streamed with content_length := some 12 }

theorem other_cap_decides :
    ArrivesOn ⟨lit "192.0.2.1:8080", none, none, 8, 30000, []⟩ twelveOctets ∧ 8 < twelveOctets.body.length ∧
      ((spawn_with (cappedBeside 8) upload [] none).serve calm twelveOctets).response.status = 413 ∧
      ((spawn_with (cappedBeside 64) upload [] none).serve calm twelveOctets).response.status = 200 :=
  ⟨⟨none, rfl⟩, by decide, by decide +kernel, by decide +kernel⟩

theorem past_both_caps :
    Refused ((spawn_with (cappedBeside 9) upload [] none).serve calm twelveOctets) :=
  (shared_settings (show (cappedBeside 9).servers ≠ [] by decide) upload [] calm (by simp [LetsThrough])).1 (by decide)

end SiphonHttp.Server
