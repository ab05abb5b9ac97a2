import SiphonHttp.Text

/-!
`config.rs`: the settings of the listeners, as far as they decide how requests
are treated and when files are read again, and of the outbound clients.
-/
namespace SiphonHttp.Config
open Text

structure TlsConfig where
  cert_path : Text
  key_path : Text
  client_ca : Option Text
  reload_seconds : Option Nat
  deriving DecidableEq, Repr

structure ServerConfig where
  listen : Text
  name : Option Text
  tls : Option TlsConfig
  max_body_bytes : Nat
  request_timeout_ms : Nat
  trusted_proxies : List Text
  deriving DecidableEq, Repr

/-- What routes and handlers call the listener. -/
def ServerConfig.listener_name (server : ServerConfig) : Text := server.name.getD server.listen

/-- A `clients.<name>` entry, with the defaults of its fields. -/
structure ClientConfig where
  base_url : Option Text := none
  timeout_ms : Nat := 5000
  verify : Option Text := none
  verify_only : Bool := false
  cert : Option Text := none
  key : Option Text := none
  pool_size : Nat := 8
  http2_prior_knowledge : Bool := false
  follow_redirects : Bool := true
  reload_seconds : Option Nat := none
  deriving DecidableEq, Repr

structure HttpConfig where
  servers : List ServerConfig
  /-- By name; no name occurs twice. -/
  clients : List (Text × ClientConfig) := []
  deriving DecidableEq, Repr

end SiphonHttp.Config
