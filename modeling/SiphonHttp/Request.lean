import SiphonHttp.Http
import SiphonHttp.Net
import SiphonHttp.Parse

/-!
The `Request` a handler receives, from the head of an HTTP request and its
buffered body: the header map scripts see, the client address behind a trusted
proxy, and `request_from_parts`.
-/
namespace SiphonHttp
open Text Net Parse

/-- A `servers[]` entry as requests see it. -/
structure ListenerIdentity where
  name : Text
  tls : Bool
  deriving DecidableEq, Repr

/-- Attached to every request by the acceptor of its listener. -/
structure ConnectionInfo where
  listener : ListenerIdentity
  local_addr : Option SocketAddr
  deriving DecidableEq, Repr

/-- The head of a request, with the extensions the server attached to it. -/
structure Parts where
  method : Text
  path : Text
  query : Option Text
  authority : Option Text
  headers : HeaderMap
  /-- `MatchedPath`: the template the router chose. -/
  matched_path : Option Text
  /-- `ConnectInfo`: the socket peer. -/
  peer : Option SocketAddr
  connection : Option ConnectionInfo
  deriving DecidableEq, Repr

structure HttpRequest extends Parts where
  body : Body
  deriving DecidableEq, Repr

/-- `http.Request`. -/
structure PyRequest where
  method : Text
  path : Text
  path_params : Params
  query_params : Params
  headers : Params
  body_bytes : Octets
  client : Text
  peer : Text
  host : Option Text
  connection : Option ConnectionInfo

namespace Request

/-! ### Headers -/

/-- `headers.get_all(name)`. -/
def get_all (headers : HeaderMap) (name : Text) : List Octets :=
  (headers.filter (·.1 = name)).map Prod.snd

/-- `to_ascii_lowercase`. -/
def to_ascii_lowercase (text : Text) : Text :=
  text.map fun c => if 'A' ≤ c ∧ c ≤ 'Z' then Char.ofNat (c.toNat + 32) else c

/-- The names in the order they first appear, each with its readable values
    joined by `, `; a name without one is left out. -/
def joined_headers (headers : HeaderMap) : List (Text × Text) :=
  (headers.map Prod.fst).eraseDups.filterMap fun name =>
    let values := (get_all headers name).filterMap to_str
    if values = [] then none else some (to_ascii_lowercase name, join (lit ", ") values)

def headers_to_map (headers : HeaderMap) : Params :=
  (joined_headers headers).foldl (fun out (name, value) => out.insert name value) ∅

/-! ### The client address -/

/-- `char::is_whitespace`. -/
def is_whitespace (c : Char) : Bool :=
  let n := c.toNat
  (9 ≤ n && n ≤ 13) || n = 0x20 || n = 0x85 || n = 0xa0 || n = 0x1680 || (0x2000 ≤ n && n ≤ 0x200a) ||
    n = 0x2028 || n = 0x2029 || n = 0x202f || n = 0x205f || n = 0x3000

/-- `str::trim`. -/
def trim (text : Text) : Text := ((text.dropWhile is_whitespace).reverse.dropWhile is_whitespace).reverse

/-- The addresses that `set_trusted_proxies` keeps: the entries that are bare IP
    addresses. -/
def trusted_proxies (entries : List Text) : List IpAddr := entries.filterMap parse_ip

/-- The first element of the first `X-Forwarded-For` line, if there is one. -/
def forwarded_for (headers : HeaderMap) : Option Text :=
  (((headers.get (lit "x-forwarded-for")).bind to_str).map fun xff => trim (xff.takeWhile (· ≠ ','))).filter (· ≠ [])

def client_addr (trusted : List IpAddr) (peer : Option SocketAddr) (headers : HeaderMap) : Text :=
  match peer with
  | some peer =>
    if peer.ip ∈ trusted then
      match forwarded_for headers with
      | some first => first
      | none => peer.text
    else peer.text
  | none => lit "unknown:0"

/-! ### The request -/

def request_from_parts (trusted : List IpAddr) (parts : Parts) (body : Octets) : PyRequest :=
  let headers := headers_to_map parts.headers
  { method := parts.method
    path := parts.path
    path_params := (parts.matched_path.map fun template => extract_path_params template parts.path).getD ∅
    query_params := parse_query (parts.query.getD [])
    headers := headers
    body_bytes := body
    client := client_addr trusted parts.peer parts.headers
    peer := (parts.peer.map SocketAddr.text).getD (lit "unknown:0")
    host := parts.authority.orElse fun _ => headers.lookup (lit "host")
    connection := parts.connection }

/-- A peer that is not trusted is its own client, whatever its headers. -/
theorem client_addr_untrusted {trusted : List IpAddr} {peer : SocketAddr} (untrusted : peer.ip ∉ trusted)
    (headers : HeaderMap) : client_addr trusted (some peer) headers = peer.text := by
  rw [client_addr, if_neg untrusted]

end Request
end SiphonHttp
