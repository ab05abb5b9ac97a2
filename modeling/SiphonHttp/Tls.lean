import SiphonHttp.PoolReload
import SiphonHttp.X509

/-!
The TLS configuration of a listener, read from its files, and the TLS session
that a handshake under it ends in. What rustls and its PEM reader decide is a
parameter, `Rustls`.
-/
namespace SiphonHttp.Tls
open Text Config

inductive ErrorKind
  | NotFound
  | InvalidInput
  | Unsupported
  | Other
  deriving DecidableEq, Repr

/-- `std::io::Error`. -/
structure IoError where
  kind : ErrorKind
  message : Text
  deriving DecidableEq, Repr

/-- `pem::Error`. -/
inductive PemError
  | Io (error : IoError)
  | NoItemsFound
  | Other (text : Text)
  deriving DecidableEq, Repr

/-- `RustlsServerConfig`: the roots that a client certificate has to verify
    against, if one is demanded, and what the server shows itself. -/
structure RustlsServerConfig where
  client_verifier : Option (List Octets)
  certs : List Octets
  key : Octets
  alpn_protocols : List Octets
  deriving DecidableEq, Repr

/-- `rustls::ServerConnection` after its handshake. -/
structure ServerConnection where
  peer_certificates : Option (List Octets)
  deriving DecidableEq, Repr

/-- What rustls, its crypto provider, its PEM reader and the operating system
    contribute. A certificate and a key are their octets. -/
structure Rustls where
  /-- Whoever connects. -/
  Peer : Type
  /-- Why a path cannot be opened, and the error of reading a file. -/
  open_error : Text → Text
  read_error : Text → IoError
  pem_certificates : Octets → Except PemError (List Octets)
  pem_private_key : Octets → Except PemError Octets
  /-- SHA-256 of the provider's cipher suites, if one has it. -/
  sha256 : Option (Octets → Octets)
  protocol_versions_error : Option Text
  /-- Why `RootCertStore::add` refuses a certificate. -/
  root_error : Octets → Option Text
  /-- Why `WebPkiClientVerifier` cannot be built from a store of roots. -/
  verifier_error : List Octets → Option Text
  single_cert_error : List Octets → Octets → Option Text
  /-- The chain verifies against the roots. -/
  verifies : List Octets → List Octets → Prop
  handshake : RustlsServerConfig → Peer → Option ServerConnection

/-- What rustls is documented to do: no verifier is built from an empty store, a
    handshake under a verifier fails without a chain that verifies, and a server
    without one asks for no certificate. -/
structure Rustls.Documented (rustls : Rustls) : Prop where
  rejects_empty : rustls.verifier_error [] ≠ none
  demands_chain : ∀ config peer connection roots, rustls.handshake config peer = some connection →
    config.client_verifier = some roots →
      ∃ chain, connection.peer_certificates = some chain ∧ chain ≠ [] ∧ rustls.verifies roots chain
  asks_for_none : ∀ config peer connection, rustls.handshake config peer = some connection →
    config.client_verifier = none → connection.peer_certificates = none

/-! ### Reading the files -/

section
variable (rustls : Rustls)

def to_io (error : Option Text) : Except IoError Unit :=
  match error with
  | some text => .error ⟨.InvalidInput, text⟩
  | none => .ok ()

def pem_to_io (what path : Text) : PemError → IoError
  | .Io error => error
  | .NoItemsFound => ⟨.InvalidInput, lit "no " ++ what ++ lit " in " ++ path⟩
  | .Other text => ⟨.InvalidInput, lit "parse " ++ what ++ lit " from " ++ path ++ lit ": " ++ text⟩

/-- Open a PEM file and read it with the reader. -/
def load_pem {Item : Type} (reader : Octets → Except PemError Item) (what : Text) (files : FileSystem) (path : Text) :
    Except IoError Item :=
  match files path with
  | none => .error ⟨.NotFound, lit "open " ++ path ++ lit ": " ++ rustls.open_error path⟩
  | some file =>
    match file.content with
    | none => .error (pem_to_io what path (.Io (rustls.read_error path)))
    | some octets =>
      match reader octets with
      | .ok item => .ok item
      | .error error => .error (pem_to_io what path error)

def load_certs (files : FileSystem) (path : Text) : Except IoError (List Octets) :=
  load_pem rustls rustls.pem_certificates (lit "certificate") files path

def load_key (files : FileSystem) (path : Text) : Except IoError Octets :=
  load_pem rustls rustls.pem_private_key (lit "private key") files path

/-- `Sha256::from_provider`. -/
def from_provider : Except IoError (Octets → Octets) :=
  match rustls.sha256 with
  | some hash => .ok hash
  | none => .error ⟨.Unsupported,
      lit "the TLS crypto provider has no SHA-256, needed for certificate fingerprints"⟩

/-- Add certificates to a store of roots, one after the other. -/
def add_roots : List Octets → List Octets → Except IoError (List Octets)
  | roots, [] => .ok roots
  | roots, cert :: certs => do
    to_io (rustls.root_error cert)
    add_roots (roots ++ [cert]) certs

/-- The verifier of client certificates, where `client_ca` asks for one. -/
def client_verifier (files : FileSystem) : Option Text → Except IoError (Option (List Octets))
  | some ca_path => do
    let certs ← load_certs rustls files ca_path
    let roots ← add_roots rustls [] certs
    to_io (rustls.verifier_error roots)
    return some roots
  | none => return none

def build_server_config (tls : TlsConfig) (files : FileSystem) :
    Except IoError (RustlsServerConfig × (Octets → Octets)) := do
  let certs ← load_certs rustls files tls.cert_path
  let key ← load_key rustls files tls.key_path
  let sha256 ← from_provider rustls
  to_io rustls.protocol_versions_error
  let verifier ← client_verifier rustls files tls.client_ca
  to_io (rustls.single_cert_error certs key)
  return (⟨verifier, certs, key, [utf8 (lit "h2"), utf8 (lit "http/1.1")]⟩, sha256)

/-- The configuration alone, which is what a reload puts in force. -/
def server_config (tls : TlsConfig) (files : FileSystem) : Option RustlsServerConfig :=
  (build_server_config rustls tls files).toOption.map Prod.fst

end

/-! ### Sessions -/

/-- One certificate of the chain the client presented. -/
structure PeerCertificateFacts where
  der : Octets
  fingerprint_sha256 : Text
  names : Option X509.Names
  deriving DecidableEq, Repr

structure TlsSession where
  peer_certificates : List PeerCertificateFacts
  deriving DecidableEq, Repr

def TlsSession.from_connection (sha256 : Octets → Octets) (connection : ServerConnection) : TlsSession where
  peer_certificates := (connection.peer_certificates.getD []).map fun certificate =>
    ⟨certificate, (sha256 certificate).flatMap hex02, X509.names certificate⟩

/-- `TlsInfo::peer_verified`. -/
def TlsSession.peer_verified (session : TlsSession) : Bool := !session.peer_certificates.isEmpty

/-! ### What a configuration that was built demands -/

section
variable {rustls : Rustls} {tls : TlsConfig} {files : FileSystem} {config : RustlsServerConfig}

theorem bind_ok {Error A B : Type} {first : Except Error A} {rest : A → Except Error B} {result : B} :
    first >>= rest = .ok result ↔ ∃ a, first = .ok a ∧ rest a = .ok result := by
  cases first with
  | error error => simp [bind, Except.bind]
  | ok a => simp [bind, Except.bind]

theorem to_io_ok {error : Option Text} {done : Unit} : to_io error = .ok done ↔ error = none := by
  cases error <;> simp [to_io]

theorem client_verifier_ok {ca : Option Text} {verifier : Option (List Octets)}
    (built : client_verifier rustls files ca = .ok verifier) :
    (ca = none ∧ verifier = none) ∨
      ∃ path roots, ca = some path ∧ verifier = some roots ∧ rustls.verifier_error roots = none := by
  cases ca with
  | none =>
    cases built
    exact Or.inl ⟨rfl, rfl⟩
  | some path =>
    simp only [client_verifier, bind_ok, to_io_ok] at built
    obtain ⟨certs, -, roots, -, ⟨⟩, accepted, same⟩ := built
    cases same
    exact Or.inr ⟨path, roots, rfl, rfl, accepted⟩

/-- A configuration has a verifier exactly when the settings have a `client_ca`,
    and then one that could be built from its roots. -/
theorem server_config_verifier (built : server_config rustls tls files = some config) :
    (tls.client_ca = none ∧ config.client_verifier = none) ∨
      ∃ path roots, tls.client_ca = some path ∧ config.client_verifier = some roots ∧
        rustls.verifier_error roots = none := by
  obtain ⟨⟨made, sha256⟩, whole, rfl⟩ := Option.map_eq_some_iff.mp built
  cases outcome : build_server_config rustls tls files with
  | error error =>
    rw [outcome] at whole
    cases whole
  | ok result =>
    rw [outcome] at whole
    obtain rfl := Option.some.inj whole
    simp only [build_server_config, bind_ok] at outcome
    obtain ⟨certs, -, key, -, hash, -, ⟨⟩, -, verifier, verified, ⟨⟩, -, same⟩ := outcome
    cases same
    exact client_verifier_ok verified

/-- Every session under a configuration that was built is verified exactly when
    the settings have a `client_ca`. -/
theorem session_verified (documented : rustls.Documented) (built : server_config rustls tls files = some config)
    {peer : rustls.Peer} {connection : ServerConnection} (shaken : rustls.handshake config peer = some connection)
    (sha256 : Octets → Octets) :
    (TlsSession.from_connection sha256 connection).peer_verified = tls.client_ca.isSome := by
  rcases server_config_verifier built with ⟨no_ca, none_demanded⟩ | ⟨path, roots, ca, demanded, -⟩
  · rw [TlsSession.from_connection, documented.asks_for_none config peer connection shaken none_demanded, no_ca]
    rfl
  · obtain ⟨chain, presented, some_certificate, -⟩ :=
      documented.demands_chain config peer connection roots shaken demanded
    obtain ⟨certificate, others, rfl⟩ := List.exists_cons_of_ne_nil some_certificate
    rw [TlsSession.from_connection, presented, ca]
    rfl

end
end SiphonHttp.Tls
