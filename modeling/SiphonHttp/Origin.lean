import SiphonHttp.Chain
import SiphonHttp.Outbound
import SiphonHttp.Uri

/-!
Where `HttpClient::request` sends to. The target is written behind the base URL
as it is, so a client talks to the origin of its base URL as long as what is
written there cannot go on with the authority (`request_origin`).
-/
namespace SiphonHttp.Outbound
open Text Uri
open Dispatch (plainCrates)

/-! ### Requests -/

/-- The URL parser, and what it makes of the parts of an absolute URL. -/
structure UrlParser where
  Url : Type
  parse : Text → Except Text Url
  scheme : Url → Text
  host : Url → Text
  port : Url → Option Nat
  scheme_of : Text → Text
  host_of : Text → Text
  port_of : Text → Text → Option Nat

/-- The scheme is what stands before `://`, the host what follows the last `@` of
    the authority and precedes the port's `:`. -/
def UrlParser.Documented (parser : UrlParser) : Prop :=
  ∀ scheme rest url, ':' ∉ scheme → parser.parse (scheme ++ lit "://" ++ rest) = .ok url →
    parser.scheme url = parser.scheme_of scheme ∧
      parser.host url = parser.host_of (Uri.host (host_port (authority rest))) ∧
      parser.port url = parser.port_of scheme (Uri.port (host_port (authority rest)))

/-- Why a request is not sent. -/
inductive RequestError
  | Target (reason : Text)
  | Header (name : Text)
  deriving DecidableEq, Repr

/-- A request as it is sent. -/
structure Sent (Url : Type) where
  method : Text
  url : Url
  headers : HeaderMap
  body : Option Octets

/-- Each name and value must be a valid field. -/
def header_fields (crates : Crates) : List (Text × Text) → Except RequestError HeaderMap
  | [] => .ok []
  | (name, value) :: headers =>
    match crates.header_name (utf8 name), crates.header_value value with
    | some field, some value => (header_fields crates headers).map ((field, value) :: ·)
    | _, _ => .error (.Header name)

/-- The target behind the base URL, or by itself. -/
def HttpClient.joined (client : HttpClient) (target : Text) : Text :=
  match client.base_url with
  | some base => trim_end_matches '/' base ++ target
  | none => target

/-- `HttpClient::request`, up to the exchange. -/
def HttpClient.request (parser : UrlParser) (crates : Crates) (client : HttpClient) (method target : Text)
    (headers : List (Text × Text)) (body : Option Octets) : Except RequestError (Sent parser.Url) :=
  match parser.parse (client.joined target) with
  | .error reason => .error (.Target reason)
  | .ok url => (header_fields crates headers).map fun fields => ⟨method, url, fields, body⟩

/-! ### Base URLs -/

/-- `scheme://host[:port][/path]`. -/
structure BaseUrl where
  scheme : Text
  host : Host
  port : Option Text
  path : Text
  scheme_plain : ':' ∉ scheme
  port_digits : ∀ digits ∈ port, digits.all Char.isDigit = true
  path_detached : Detached path

namespace BaseUrl
variable (base : BaseUrl)

def authority : Text := base.host.text ++ port_text base.port
def text : Text := base.scheme ++ lit "://" ++ (base.authority ++ base.path)

/-- The path without slashes at its end. -/
def trimmed : Text := trim_end_matches '/' base.path

/-- What of the target goes on with the authority. -/
def continued (target : Text) : Text := if base.trimmed = [] then Uri.authority target else []

/-- The base URL has a path, or the target cannot go on with its authority. -/
def Keeps (target : Text) : Prop := base.trimmed ≠ [] ∨ Detached target

theorem port_plain {c : Char} (member : c ∈ port_text base.port) : c ≠ '@' ∧ ends_authority c = false := by
  cases given : base.port with
  | none =>
    rw [given] at member
    cases member
  | some digits =>
    rw [given] at member
    rcases List.mem_cons.mp member with rfl | inside
    · decide
    · have digit := List.all_eq_true.mp (base.port_digits digits given) c inside
      constructor
      · rintro rfl
        exact absurd digit (by decide)
      · rw [ends_authority, Bool.or_eq_false_iff, Bool.or_eq_false_iff, decide_eq_false_iff_not,
          decide_eq_false_iff_not, decide_eq_false_iff_not]
        refine ⟨⟨?_, ?_⟩, ?_⟩
        all_goals
          rintro rfl
          exact absurd digit (by decide)

theorem authority_plain : ∀ c ∈ base.authority, ends_authority c = false := by
  intro c member
  rcases List.mem_append.mp member with inside | inside
  · exact Host.not_ends inside
  · exact (base.port_plain inside).2

theorem authority_no_user : '@' ∉ base.authority := by
  intro member
  rcases List.mem_append.mp member with inside | inside
  · exact base.host.no_user inside
  · exact (base.port_plain inside).1 rfl

/-- The path is what is left of the base URL when slashes at its end are
    dropped. -/
theorem trim_text :
    trim_end_matches '/' base.text = base.scheme ++ lit "://" ++ (base.authority ++ base.trimmed) := by
  have ends : ∀ last ∈ (base.scheme ++ lit "://" ++ base.authority).getLast?, last ≠ '/' := by
    rintro last member rfl
    have nonempty : base.authority ≠ [] := by simp [authority, base.host.nonempty]
    rw [List.getLast?_append_of_ne_nil _ nonempty] at member
    exact absurd (base.authority_plain '/' (List.mem_of_getLast? member)) (by decide)
  rw [text, ← List.append_assoc, trim_end_append ends, List.append_assoc, trimmed]

theorem trimmed_detached : Detached base.trimmed :=
  detached_of_prefix base.path_detached (List.rdropWhile_prefix _ _)

/-- The authority of the joined URL. -/
theorem authority_joined (target : Text) :
    Uri.authority (base.authority ++ base.trimmed ++ target) = base.authority ++ base.continued target := by
  rw [List.append_assoc, authority_append base.authority_plain, continued]
  split_ifs with pathless
  · rw [pathless, List.nil_append]
  · have detached : Detached (base.trimmed ++ target) := by
      rw [Detached, List.head?_append_of_ne_nil _ pathless]
      exact base.trimmed_detached
    rw [detached_iff.mp detached]

theorem continued_of_keeps {target : Text} (keeps : base.Keeps target) : base.continued target = [] := by
  unfold continued
  split_ifs with pathless
  · exact detached_iff.mp (keeps.resolve_left fun path => path pathless)
  · rfl

/-- The URL has the scheme, the host and the port of the base URL. -/
def SameOrigin (parser : UrlParser) (url : parser.Url) : Prop :=
  parser.scheme url = parser.scheme_of base.scheme ∧ parser.host url = parser.host_of base.host.text ∧
    parser.port url = parser.port_of base.scheme (base.port.getD [])

/-- The scheme is that of the base URL, and host and port are those of its
    authority and what of the target goes on with it. -/
def Continues (parser : UrlParser) (target : Text) (url : parser.Url) : Prop :=
  parser.scheme url = parser.scheme_of base.scheme ∧
    parser.host url = parser.host_of (Uri.host (host_port (base.authority ++ base.continued target))) ∧
    parser.port url = parser.port_of base.scheme (Uri.port (host_port (base.authority ++ base.continued target)))

variable {base}

theorem joined_text {client : HttpClient} (based : client.base_url = some base.text) (target : Text) :
    client.joined target = base.scheme ++ lit "://" ++ (base.authority ++ base.trimmed ++ target) := by
  rw [HttpClient.joined, based]
  dsimp only
  rw [trim_text, List.append_assoc]

theorem sent_continues {parser : UrlParser} (documented : parser.Documented) {client : HttpClient}
    (based : client.base_url = some base.text) {target : Text} {url : parser.Url}
    (parsed : parser.parse (client.joined target) = .ok url) : base.Continues parser target url := by
  rw [joined_text based] at parsed
  have parts := documented _ _ _ base.scheme_plain parsed
  rwa [authority_joined] at parts

theorem same_origin_of_keeps {parser : UrlParser} {target : Text} {url : parser.Url} (keeps : base.Keeps target)
    (continues : base.Continues parser target url) : base.SameOrigin parser url := by
  have user := host_port_eq base.authority_no_user
  rw [Continues, continued_of_keeps base keeps, List.append_nil, user] at continues
  obtain ⟨scheme, host, port⟩ := continues
  rw [authority, host_append] at host
  rw [authority, port_append] at port
  exact ⟨scheme, host, port⟩

end BaseUrl

/-! ### Where requests go -/

theorem request_parsed {parser : UrlParser} {crates : Crates} {client : HttpClient} {method target : Text}
    {headers : List (Text × Text)} {body : Option Octets} {sent : Sent parser.Url}
    (sends : client.request parser crates method target headers body = .ok sent) :
    parser.parse (client.joined target) = .ok sent.url := by
  unfold HttpClient.request at sends
  cases parsed : parser.parse (client.joined target) with
  | error reason =>
    rw [parsed] at sends
    cases sends
  | ok url =>
    rw [parsed] at sends
    cases fields : header_fields crates headers with
    | error error =>
      rw [fields] at sends
      cases sends
    | ok fields =>
      rw [fields] at sends
      cases sends
      rfl

/-- A request that is sent goes to the origin of the base URL if this has a path
    or the target is empty or begins with `/`, `?` or `#`; and whatever the target
    is, to the scheme of the base URL and to the authority that the target makes
    of its own. -/
theorem request_origin (parser : UrlParser) (documented : parser.Documented) (crates : Crates) (base : BaseUrl)
    (client : HttpClient) (based : client.base_url = some base.text) (method target : Text)
    (headers : List (Text × Text)) (body : Option Octets) :
    ∀ sent, client.request parser crates method target headers body = .ok sent →
      (base.Keeps target → base.SameOrigin parser sent.url) ∧ base.Continues parser target sent.url := by
  intro sent sends
  have continues := BaseUrl.sent_continues documented based (request_parsed sends)
  exact ⟨fun keeps => BaseUrl.same_origin_of_keeps keeps continues, continues⟩

/-! A target that begins with `@` makes a user of the host. -/

/-- A parser that only takes the parts. -/
def splitting : UrlParser where
  Url := Text × Text × Text
  parse text :=
    let scheme := text.takeWhile (· ≠ ':')
    let rest := (text.drop scheme.length).drop 3
    if lit "://" <+: text.drop scheme.length then
      if Uri.host (host_port (authority rest)) = [] then .error (lit "empty host")
      else .ok (scheme, Uri.host (host_port (authority rest)), Uri.port (host_port (authority rest)))
    else .error (lit "relative URL without a base")
  scheme url := url.1
  host url := url.2.1
  port url := if url.2.2 = [] then none else some (Nat.ofDigitChars 10 url.2.2 0)
  scheme_of := id
  host_of := id
  port_of _ digits := if digits = [] then none else some (Nat.ofDigitChars 10 digits 0)

theorem splitting_documented : splitting.Documented := by
  intro scheme rest url plain parsed
  have before : ∀ c ∈ scheme, decide (c ≠ ':') = true := by
    intro c member
    refine decide_eq_true fun same => ?_
    exact plain (same ▸ member)
  have taken : (scheme ++ (lit "://" ++ rest)).takeWhile (fun c => decide (c ≠ ':')) = scheme := by
    rw [List.takeWhile_append_of_pos before]
    simp [lit]
  have behind : (lit "://" ++ rest).drop 3 = rest := rfl
  simp only [splitting, List.append_assoc, taken, List.drop_left, behind, List.prefix_append, if_true] at parsed
  split_ifs at parsed
  cases parsed
  exact ⟨rfl, rfl, rfl⟩

/-- `http://api.internal`. -/
def internal : BaseUrl where
  scheme := lit "http"
  host := ⟨lit "api.internal", Or.inl (by decide), by decide, by decide, by decide⟩
  port := none
  path := []
  scheme_plain := by decide
  port_digits := by simp
  path_detached := by decide

def internalClient : HttpClient := ⟨0, some internal.text⟩

theorem target_moves_origin :
    splitting.Documented ∧ internalClient.base_url = some (lit "http://api.internal") ∧
      ∃ sent, internalClient.request splitting plainCrates (lit "GET") (lit "@evil.example/") [] none = .ok sent ∧
        splitting.host sent.url = lit "evil.example" ∧ ¬internal.SameOrigin splitting sent.url := by
  refine ⟨splitting_documented, by decide, ⟨lit "GET", (lit "http", lit "evil.example", []), [], none⟩, rfl, rfl, ?_⟩
  rintro ⟨-, host, -⟩
  exact absurd host (by decide)

theorem rooted_target_keeps_origin :
    ∃ sent, internalClient.request splitting plainCrates (lit "GET") (lit "/@evil.example/") [] none = .ok sent ∧
      internal.SameOrigin splitting sent.url := by
  refine ⟨⟨lit "GET", (lit "http", lit "api.internal", []), [], none⟩, rfl, ?_⟩
  exact (request_origin splitting splitting_documented plainCrates internal internalClient rfl (lit "GET")
    (lit "/@evil.example/") [] none _ rfl).1 (Or.inr (by decide))

end SiphonHttp.Outbound
