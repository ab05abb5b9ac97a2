import SiphonHttp.Forwarded
import SiphonHttp.Relay
import SiphonHttp.Settings

/-!
What crosses the boundary of the process. However a body arrives and whatever is
configured, a stage is only ever executed on all of one request
(`every_request_whole`). Whatever scripts and guards answer, the response can be
sent: it has a status of three digits, and no header field of it breaks the
message (`every_response_sendable`). A field that is repeated does not look the
same to a guard and to a script (`views_agree_iff`).
-/
namespace SiphonHttp

/-- What was let through of a body is all of it, and fits. -/
theorem Body.collect_limit_frames (declared : Option Nat) {frames : List Frame} {limit : Nat} {octets : Octets}
    (collected : collect (limit_frames limit frames) = some octets) :
    octets = Body.octets ⟨declared, frames⟩ ∧ octets.length ≤ limit ∧ Frame.error ∉ frames := by
  induction frames generalizing limit octets with
  | nil =>
    cases collected
    exact ⟨rfl, Nat.zero_le _, List.not_mem_nil⟩
  | cons frame frames ih =>
    cases frame with
    | error => cases collected
    | trailers =>
      obtain ⟨same, fits, complete⟩ := ih collected
      exact ⟨same, fits, fun error => by cases error; contradiction⟩
    | data chunk =>
      rw [limit_frames] at collected
      split_ifs at collected with past
      · cases collected
      · obtain ⟨rest, behind, rfl⟩ := Option.map_eq_some_iff.mp collected
        obtain ⟨same, fits, complete⟩ := ih behind
        refine ⟨?_, ?_, fun error => by cases error; contradiction⟩
        · rw [octets_cons_data, same]
        · rw [List.length_append]
          omega

namespace Server
open Text Dispatch Routes Config Net Request

/-! ### Requests -/

/-- The request that a stage is given is the one that arrived, for the path that
    was picked, with all of its body. -/
structure Whole (config : HttpConfig) (router : Router) (trusted : List IpAddr) (request : HttpRequest)
    (received : PyRequest) : Prop where
  whole : ∃ template, Template.pick router.table.paths request.path = some template ∧
    received = request_from_parts trusted (routed request template) request.body.octets
  complete : request.body.Complete
  within : request.body.octets.length ≤ max_body config
  declared : ∀ length ∈ request.body.content_length,
    request.body.octets.length ≤ length ∧ length ≤ max_body config

theorem mem_limited {crates : Crates} {limit : Nat} {body : Body} {inner : Body → Served} {run : Ran}
    (member : run ∈ (limit_layer crates limit body inner).ran) :
    ∃ cap ≤ limit, (∀ length ∈ body.content_length, cap ≤ length ∧ length ≤ limit) ∧
      run ∈ (inner (body.limited cap)).ran := by
  unfold limit_layer at member
  split at member
  · rename_i length declared
    split_ifs at member with past
    · cases member
    · refine ⟨min limit length, Nat.min_le_left .., ?_, member⟩
      intro announced given
      obtain rfl := Option.some.inj (declared.symm.trans given)
      exact ⟨Nat.min_le_right .., Nat.le_of_not_lt past⟩
  · rename_i undeclared
    refine ⟨limit, Nat.le_refl _, fun announced given => ?_, member⟩
    cases undeclared.symm.trans given

theorem mem_guard_ran {crates : Crates} {admission : Admission} {parts : Parts} {served : Served} {run : Ran}
    (member : run ∈ (guard crates admission parts served).ran) : run ∈ served.ran := by
  unfold guard at member
  dsimp only at member
  split at member
  · cases member
  · exact member

/-- A stage is executed by the routes of the path that was picked, on what a cap
    lets through of the body. -/
theorem executed_under {config : HttpConfig} {registered : List Registered} {stages : List Stage}
    {admission : Option Admission} {surroundings : Surroundings} {request : HttpRequest} {run : Ran}
    (member : run ∈ ((spawn_with config registered stages admission).serve surroundings request).ran) :
    ∃ template, Template.pick (by_path registered stages).paths request.path = some template ∧
      ∃ cap ≤ max_body config, (∀ length ∈ request.body.content_length, cap ≤ length ∧ length ≤ max_body config) ∧
        run ∈ (dispatch surroundings (all_trusted config) ((by_path registered stages).entries template)
          (routed request template) (request.body.limited cap)).ran := by
  rw [Process.serve, spawn_with_router, Router.serve] at member
  cases picked : Template.pick (by_path registered stages).paths request.path with
  | none =>
    rw [picked] at member
    obtain ⟨body, nothing⟩ := mem_limit_layer (mem_timeout_layer member)
    cases nothing
  | some template =>
    rw [picked] at member
    have layered : run ∈ (Router.layers ⟨by_path registered stages, max_body config, timeout config, admission⟩
        surroundings.crates request.body (dispatch surroundings (all_trusted config)
          ((by_path registered stages).entries template) (routed request template))).ran := by
      cases admission with
      | none => exact member
      | some admission => exact mem_guard_ran member
    exact ⟨template, rfl, mem_limited (mem_timeout_layer layered)⟩

/-- A stage is only ever executed on all of a request. -/
theorem every_request_whole (config : HttpConfig) (registered : List Registered) (stages : List Stage)
    (admission : Option Admission) (surroundings : Surroundings) (request : HttpRequest) :
    ∀ run ∈ ((spawn_with config registered stages admission).serve surroundings request).ran,
      Whole config (spawn_with config registered stages admission).router (all_trusted config) request run.request := by
  intro run member
  obtain ⟨template, picked, cap, below, declared, dispatched⟩ := executed_under member
  obtain ⟨octets, collected, same⟩ := mem_dispatch dispatched
  obtain ⟨whole, fits, complete⟩ := Body.collect_limit_frames request.body.content_length collected
  obtain rfl : octets = request.body.octets := whole
  refine ⟨⟨template, ?_, same⟩, complete, Nat.le_trans fits below, fun length announced => ?_⟩
  · rw [spawn_with_router]
    exact picked
  · have limits := declared length announced
    exact ⟨Nat.le_trans fits limits.1, limits.2⟩

/-! A body that arrives in two pieces. -/

theorem upload_whole :
    ∃ run ∈ ((spawn_with cappedAtEight upload [] none).serve calm
        (uploading ⟨none, [.data (utf8 (lit "tw")), .data (utf8 (lit "elve"))]⟩)).ran,
      Whole cappedAtEight (spawn_with cappedAtEight upload [] none).router (all_trusted cappedAtEight)
        (uploading ⟨none, [.data (utf8 (lit "tw")), .data (utf8 (lit "elve"))]⟩) run.request := by
  have executed : ((spawn_with cappedAtEight upload [] none).serve calm
      (uploading ⟨none, [.data (utf8 (lit "tw")), .data (utf8 (lit "elve"))]⟩)).ran ≠ [] := by decide +kernel
  obtain ⟨run, member⟩ := List.exists_mem_of_ne_nil _ executed
  exact ⟨run, member, every_request_whole _ _ _ _ _ _ run member⟩

/-! ### Responses -/

/-- A character of a token in lower case. -/
def tchar (c : Char) : Bool := c.isLower || c.isDigit || decide (c ∈ lit "!#$%&'*+-.^_|~") || c.toNat = 96

/-- An octet that ends no line. -/
def visible_octet (octet : UInt8) : Bool := octet = 9 || (32 ≤ octet && octet ≠ 127)

def FieldName (name : Text) : Prop := name ≠ [] ∧ ∀ c ∈ name, tchar c = true

def FieldValue (value : Octets) : Prop := ∀ octet ∈ value, visible_octet octet = true

instance (name : Text) : Decidable (FieldName name) :=
  @instDecidableAnd _ _ _ (@List.decidableBAll Char (fun c => tchar c = true) _ name)
instance (value : Octets) : Decidable (FieldValue value) :=
  @List.decidableBAll UInt8 (fun octet => visible_octet octet = true) _ value

def Fields (headers : HeaderMap) : Prop := ∀ field ∈ headers, FieldName field.1 ∧ FieldValue field.2

structure Sendable (response : Response) : Prop where
  status : 100 ≤ response.status ∧ response.status < 1000
  fields : Fields response.headers

/-- What is documented of the names and values that the crates let pass, and of
    their own answer. -/
structure Careful (crates : Crates) : Prop where
  name : ∀ octets name, crates.header_name octets = some name → FieldName name
  value : ∀ text value, crates.header_value text = some value → FieldValue value
  too_large : Fields crates.too_large_headers

theorem fields_append {headers more : HeaderMap} (fields : Fields headers) (further : Fields more) :
    Fields (headers ++ more) := by
  intro field member
  rcases List.mem_append.mp member with there | added
  · exact fields field there
  · exact further field added

theorem error_response_sendable {status : Nat} (three : 100 ≤ status ∧ status < 1000) (message : Text) :
    Sendable (error_response status message) := by
  refine ⟨three, fun field member => ?_⟩
  rw [List.mem_singleton.mp member]
  exact ⟨by decide, by decide⟩

theorem empty_response_sendable {status : Nat} (three : 100 ≤ status ∧ status < 1000) :
    Sendable (empty_response status) :=
  ⟨three, fun _ member => absurd member List.not_mem_nil⟩

/-- A status that a script or a guard gives, or the one in its place. -/
theorem from_u16_three (status : UInt16) {fallback : Nat} (three : 100 ≤ fallback ∧ fallback < 1000) :
    100 ≤ (StatusCode.from_u16 status).getD fallback ∧ (StatusCode.from_u16 status).getD fallback < 1000 := by
  unfold StatusCode.from_u16
  split_ifs with valid
  · exact valid
  · exact three

section
variable {crates : Crates} (careful : Careful crates)
include careful

theorem valid_fields_fields (fields : List (Text × Text)) : Fields (crates.valid_fields fields) := by
  intro field member
  obtain ⟨⟨name, value⟩, -, valid⟩ := List.mem_filterMap.mp member
  dsimp only at valid
  split at valid
  · rename_i sent_name sent_value names values
    cases valid
    exact ⟨careful.name _ _ names, careful.value _ _ values⟩
  · cases valid

theorem script_reply_sendable (reply : ScriptReply) : Sendable (reply.into_response crates) := by
  unfold ScriptReply.into_response
  dsimp only
  split_ifs
  · exact ⟨from_u16_three _ (by decide), valid_fields_fields careful _⟩
  · exact error_response_sendable (by decide) _

theorem stage_response_sendable (value : Object) (is_middleware : Bool) :
    Sendable ((stage_response value is_middleware).into_response crates) := by
  unfold stage_response
  split
  · exact script_reply_sendable careful _
  · split_ifs
    · exact error_response_sendable (by decide) _
    · exact error_response_sendable (by decide) _

omit careful in
theorem stage_raised_sendable (is_middleware : Bool) : Sendable ((stage_raised is_middleware).into_response crates) := by
  cases is_middleware
  · exact error_response_sendable (by decide) _
  · exact error_response_sendable (by decide) _

/-- What `drive` sends is what a stage came to, or that it raised. -/
theorem loop_sendable (machinery : Machinery) (request : PyRequest) (stages : List Entry) (index : Nat)
    (started : Option Object) (is_middleware : Bool) {reply : Reply}
    (responded : (machinery.loop request stages index started is_middleware).exit = .responded reply) :
    Sendable (reply.into_response crates) := by
  induction stages generalizing index started is_middleware with
  | nil => cases responded
  | cons entry stages ih =>
    rw [Machinery.loop] at responded
    split at responded
    · cases responded
    · split at responded
      · cases responded
      · split_ifs at responded
        · exact ih _ _ _ responded
        · cases responded
          exact stage_response_sendable careful _ _

theorem drive_sendable (machinery : Machinery) (stages : List Entry) (first : Nat) (request : PyRequest)
    (timeout : Option Nat) (started : Object) {reply : Reply}
    (sent : (machinery.drive stages first request timeout started).sent = some reply) :
    Sendable (reply.into_response crates) := by
  unfold Machinery.drive at sent
  split at sent
  · cases sent
  · dsimp only at sent
    split at sent
    · rename_i responded
      cases sent
      exact loop_sendable careful _ _ _ _ _ _ responded
    · cases sent
    · split_ifs at sent
      cases sent
      exact stage_raised_sendable _

/-- The reply of a job, or of what it handed off. -/
def Started.Sendable (crates : Crates) : Started → Prop
  | .Answered reply => Server.Sendable (reply.into_response crates)
  | .Pending received => ∀ reply ∈ received, Server.Sendable (reply.into_response crates)

omit careful in
theorem internal_error_sendable : Sendable ((Reply.error 500 (lit "internal error")).into_response crates) :=
  error_response_sendable (by decide) _

theorem submitted_sendable (machinery : Machinery) (route : Route) (first : Nat) (request : PyRequest)
    (started : Object) {received : Option Reply}
    (submitted : (machinery.submitted route first request started).1 = .ok received) :
    ∀ reply ∈ received, Sendable (reply.into_response crates) := by
  intro reply member
  unfold Machinery.submitted at submitted
  split at submitted
  · split at submitted
    · split at submitted
      · cases submitted
      · obtain rfl := Except.ok.inj submitted
        exact drive_sendable careful _ _ _ _ _ _ member
    · split at submitted
      · cases submitted
      · dsimp only at submitted
        cases left : (machinery.drive route.stages first request none started).left with
        | error error =>
          rw [left] at submitted
          cases submitted
        | ok _ =>
          cases ended : machinery.run_end with
          | error error =>
            rw [left, ended] at submitted
            cases submitted
          | ok _ =>
            rw [left, ended] at submitted
            obtain rfl := Except.ok.inj submitted
            exact drive_sendable careful _ _ _ _ _ _ member
  all_goals cases submitted

theorem hand_off_sendable (machinery : Machinery) (route : Route) (first : Nat) (request : PyRequest)
    (started : Object) : Started.Sendable crates (machinery.hand_off route first request started).1 := by
  unfold Machinery.hand_off
  split
  · rename_i received ran submitted
    exact submitted_sendable careful machinery route first request started (by rw [submitted])
  · exact internal_error_sendable

theorem start_from_sendable (machinery : Machinery) (route : Route) (request : PyRequest) (stages : List Stage)
    (index : Nat) : Started.Sendable crates (machinery.start_from route request stages index).1 := by
  induction stages generalizing index with
  | nil => exact internal_error_sendable
  | cons stage stages ih =>
    rw [Machinery.start_from]
    dsimp only
    split
    · exact hand_off_sendable careful _ _ _ _ _
    · split_ifs
      · exact ih (index + 1)
      · exact stage_response_sendable careful _ _
    · exact stage_raised_sendable _

theorem answer_sendable (machinery : Machinery) (route : Route) (request : PyRequest) :
    Sendable (machinery.answer crates route request).response := by
  have started : Started.Sendable crates (machinery.start route request).1 := by
    unfold Machinery.start
    split
    · exact internal_error_sendable
    · exact start_from_sendable careful _ _ _ _ _
  unfold Machinery.answer
  split_ifs
  · split
    · rename_i reply ran answered
      rw [answered] at started
      exact started
    · rename_i reply ran pending
      rw [pending] at started
      exact started reply rfl
    · exact error_response_sendable (by decide) _
  · exact error_response_sendable (by decide) _

/-! Through the layers. -/

omit careful in
theorem dispatch_sendable {surroundings : Surroundings} (careful : Careful surroundings.crates) (trusted : List IpAddr)
    (entries : List RouteEntry) (parts : Parts) (body : Body) :
    Sendable (dispatch surroundings trusted entries parts body).response := by
  rw [dispatch_eq]
  split
  · split
    · exact error_response_sendable (by decide) _
    · exact answer_sendable careful _ _ _
  · exact error_response_sendable (by decide) _
  · exact empty_response_sendable (by decide)

omit careful in
theorem timeout_layer_sendable {limit : Nat} {inner : Served} (sendable : Sendable inner.response) :
    Sendable (timeout_layer limit inner).response := by
  unfold timeout_layer
  split_ifs
  · exact empty_response_sendable (by decide)
  · exact empty_response_sendable (by decide)
  · exact sendable

theorem limit_layer_sendable {limit : Nat} {body : Body} {inner : Body → Served}
    (sendable : ∀ body, Sendable (inner body).response) : Sendable (limit_layer crates limit body inner).response := by
  unfold limit_layer
  split
  · split_ifs
    · exact ⟨(by decide : 100 ≤ 413 ∧ 413 < 1000), careful.too_large⟩
    · exact sendable _
  · exact sendable _

theorem guard_sendable {admission : Admission} {parts : Parts} {served : Served} (sendable : Sendable served.response) :
    Sendable (guard crates admission parts served).response := by
  unfold guard
  dsimp only
  split
  · exact ⟨from_u16_three _ (by decide), valid_fields_fields careful _⟩
  · exact ⟨sendable.status, fields_append sendable.fields (valid_fields_fields careful _)⟩

end

/-- Whatever scripts, guards and the surroundings do, what is sent is a response
    of three digits with fields that break no line. -/
theorem every_response_sendable (process : Process) {surroundings : Surroundings} (careful : Careful surroundings.crates)
    (request : HttpRequest) : Sendable (process.serve surroundings request).response := by
  rw [Process.serve, Router.serve]
  split
  · refine timeout_layer_sendable (limit_layer_sendable careful fun _ => ?_)
    exact empty_response_sendable (by decide)
  · rename_i template picked
    have layered : Sendable (process.router.layers surroundings.crates request.body (dispatch surroundings process.trusted
        (process.router.table.entries template) (routed request template))).response :=
      timeout_layer_sendable (limit_layer_sendable careful (dispatch_sendable careful _ _ _))
    dsimp only
    split
    · exact layered
    · exact guard_sendable careful layered

/-! A script that answers with a field that would break the line. -/

/-- Crates that let pass what is a token and what is visible. -/
def strictCrates : Crates where
  header_name octets :=
    let name := to_ascii_lowercase (latin1 octets)
    if FieldName name then some name else none
  header_value text := if FieldValue (utf8 text) then some (utf8 text) else none
  builds _ := true
  too_large_headers := [(lit "content-type", utf8 (lit "text/plain; charset=utf-8"))]
  too_large_body := utf8 (lit "length limit exceeded")

theorem strictCrates_careful : Careful strictCrates where
  name := by
    intro octets name valid
    unfold strictCrates at valid
    dsimp only at valid
    split_ifs at valid with token
    obtain rfl := Option.some.inj valid
    exact token
  value := by
    intro text value valid
    unfold strictCrates at valid
    dsimp only at valid
    split_ifs at valid with visible
    obtain rfl := Option.some.inj valid
    exact visible
  too_large := by
    intro field member
    rw [List.mem_singleton.mp member]
    exact ⟨by decide, by decide⟩

def splitting : Callable :=
  ⟨1, false, false, fun _ => .ok (.response ⟨1200, [(lit "X-Note", lit "a\r\nset-cookie: b"), (lit "X-Kind", lit "c")], []⟩)⟩

def splits : Process := spawn_with cappedAtEight [(⟨pathAB, [lit "POST"], none⟩, ⟨splitting, false, rfl⟩)] [] none

theorem splits_sendable :
    Sendable (splits.serve { calm with crates := strictCrates } (uploading ⟨none, []⟩)).response ∧
      (splits.serve { calm with crates := strictCrates } (uploading ⟨none, []⟩)).response =
        ⟨500, [(lit "x-kind", utf8 (lit "c"))], []⟩ :=
  ⟨every_response_sendable splits strictCrates_careful _, by decide +kernel⟩

end Server

/-! ### Header fields as they are seen -/

open Text Request

/-- `Inbound::header`: what a guard sees of a field. -/
def Server.Inbound.header (inbound : Server.Inbound) (name : Text) : Option Text :=
  (inbound.headers.get (to_ascii_lowercase name)).bind to_str

/-- `Request::header`: what a script sees of it. -/
def PyRequest.header (request : PyRequest) (name : Text) : Option Text :=
  request.headers.lookup (to_ascii_lowercase name)

namespace Request

/-- The values of a field that can be read, joined. -/
def joined (values : List Octets) : Option Text :=
  if values.filterMap to_str = [] then none else some (join (lit ", ") (values.filterMap to_str))

theorem lookup_joined {headers : HeaderMap} (lower : LowerCased headers) (name : Text) :
    (headers_to_map headers).lookup name = joined (get_all headers name) := by
  refine Option.ext fun value => ?_
  rw [lookup_headers_to_map lower, joined, get_all_readable lower]
  split_ifs with none_read
  · simp [none_read]
  · simp [none_read, eq_comm]

theorem join_longer (first next : Text) (texts : List Text) :
    first.length < (join (lit ", ") (first :: next :: texts)).length := by
  have two : (lit ", ").length = 2 := by decide
  simp only [join, List.intercalate_cons_cons, List.length_append]
  omega

/-- The first value is all that is joined exactly when no other one can be
    read. -/
theorem joined_first (values : List Octets) :
    values.head?.bind to_str = joined values ↔ ∀ value ∈ values.drop 1, to_str value = none := by
  cases values with
  | nil => simp [joined]
  | cons first rest =>
    rw [List.head?_cons, Option.bind_some, joined, List.drop_one, List.tail_cons]
    have unread : rest.filterMap to_str = [] ↔ ∀ value ∈ rest, to_str value = none := List.filterMap_eq_nil_iff
    cases read : to_str first with
    | none =>
      rw [List.filterMap_cons_none read, ← unread]
      split_ifs with nothing
      · exact iff_of_true rfl nothing
      · exact iff_of_false (fun same => by cases same) nothing
    | some text =>
      rw [List.filterMap_cons_some read, if_neg (List.cons_ne_nil _ _), ← unread]
      cases behind : rest.filterMap to_str with
      | nil => simp [join]
      | cons next texts =>
        refine iff_of_false (fun same => ?_) (List.cons_ne_nil _ _)
        have longer := join_longer text next texts
        rw [← Option.some.inj same] at longer
        exact Nat.lt_irrefl _ longer

end Request

namespace Server
open Dispatch Routes Config Net

/-- A guard is asked about the head of the request. -/
theorem mem_admits {process : Process} {surroundings : Surroundings} {request : HttpRequest} {inbound : Inbound}
    (member : inbound ∈ (process.serve surroundings request).admits) : inbound = inbound_of request.toParts := by
  have silent (template : Template) (body : Body) : (dispatch surroundings process.trusted
      (process.router.table.entries template) (routed request template) body).admits = [] := by
    rw [dispatch_eq]
    split
    · split <;> rfl
    · rfl
    · rfl
  have layered (inner : Body → Served) (inside : ∀ body, (inner body).admits = []) :
      (process.router.layers surroundings.crates request.body inner).admits = [] := by
    rw [Router.layers, timeout_layer_admits]
    exact limit_layer_admits _ _ _ inside
  rw [Process.serve, Router.serve] at member
  split at member
  · rw [layered _ fun _ => rfl] at member
    cases member
  · dsimp only at member
    split at member
    · rw [layered _ (silent _)] at member
      cases member
    · unfold guard at member
      dsimp only at member
      split at member
      · exact List.mem_singleton.mp member
      · rw [layered _ (silent _)] at member
        exact List.mem_singleton.mp member

/-- A guard and the scripts behind it see the same of a field, whatever the case
    of its name, exactly when none of its repetitions can be read. -/
theorem views_agree_iff (config : HttpConfig) (registered : List Registered) (stages : List Stage)
    (admission : Option Admission) (surroundings : Surroundings) {request : HttpRequest}
    (lower : LowerCased request.headers) (name : Text) :
    ∀ inbound ∈ ((spawn_with config registered stages admission).serve surroundings request).admits,
      ∀ run ∈ ((spawn_with config registered stages admission).serve surroundings request).ran,
        inbound.header name = run.request.header name ↔
          ∀ value ∈ (get_all request.headers (to_ascii_lowercase name)).drop 1, to_str value = none := by
  intro inbound admitted run executed
  obtain ⟨template, -, cap, -, -, dispatched⟩ := executed_under executed
  obtain ⟨octets, -, received⟩ := mem_dispatch dispatched
  have script : run.request.headers = headers_to_map request.headers := by
    rw [received]
    rfl
  rw [mem_admits admitted, Inbound.header, PyRequest.header, script, lookup_joined lower,
    show (inbound_of request.toParts).headers = request.headers from rfl, get_eq_head, joined_first]

/-! A tenant that a guard and a script do not read alike. -/

def twoTenants : HttpRequest :=
  { uploading ⟨none, []⟩ with headers := [(lit "x-tenant", utf8 (lit "a")), (lit "x-tenant", utf8 (lit "b"))] }

def lenientGuard : Admission := ⟨fun _ => .Admit fun _ => []⟩

theorem tenants_differ :
    ∃ inbound ∈ ((spawn_with cappedAtEight upload [] (some lenientGuard)).serve calm twoTenants).admits,
      ∃ run ∈ ((spawn_with cappedAtEight upload [] (some lenientGuard)).serve calm twoTenants).ran,
        inbound.header (lit "X-Tenant") ≠ run.request.header (lit "X-Tenant") := by
  have admitted : ((spawn_with cappedAtEight upload [] (some lenientGuard)).serve calm twoTenants).admits ≠ [] := by
    decide +kernel
  have executed : ((spawn_with cappedAtEight upload [] (some lenientGuard)).serve calm twoTenants).ran ≠ [] := by
    decide +kernel
  obtain ⟨inbound, asked⟩ := List.exists_mem_of_ne_nil _ admitted
  obtain ⟨run, member⟩ := List.exists_mem_of_ne_nil _ executed
  have lower : ∀ field ∈ twoTenants.headers, to_ascii_lowercase field.1 = field.1 := by decide
  have views := views_agree_iff cappedAtEight upload [] (some lenientGuard) calm lower (lit "X-Tenant") inbound asked
    run member
  exact ⟨inbound, asked, run, member, fun same => absurd (views.mp same (utf8 (lit "b")) (by decide)) (by decide)⟩

end Server
end SiphonHttp
