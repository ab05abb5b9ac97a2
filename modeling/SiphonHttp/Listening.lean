import SiphonHttp.LastGood
import SiphonHttp.Sockets
import SiphonHttp.Startup
import SiphonHttp.Validation

/-!
Binding the listeners before the startup hooks, and listening after them. A bind
fails on an address on which some socket listens already; no listener of the
process does yet, so two of them that overlap are both bound, and one of them
fails to listen (`comes_up_iff`). Ports are fixed ones.
-/
namespace SiphonHttp.Listening
open Text Config Net Sockets Startup Tls

/-! ### Binding -/

/-- What the operating system does with TCP sockets that have `SO_REUSEADDR` set. -/
structure System where
  overlaps : SocketAddr → SocketAddr → Prop
  decides : DecidableRel overlaps
  /-- Why a socket of the family, IPv4 or not, cannot be made or be given the
      option. -/
  socket_error : (is_ipv4 : Bool) → Option IoError
  tos_error : Nat → Option IoError
  /-- The error of a bind or a listen where some socket listens. -/
  in_use : SocketAddr → IoError

instance (system : System) : DecidableRel system.overlaps := system.decides

/-- A `servers[]` entry that failed to come up, and why. -/
structure ListenerError where
  listen : Text
  source : IoError
  deriving DecidableEq, Repr

/-- A socket that is bound to its address but not yet listening. -/
structure BoundListener where
  listen : Text
  name : Text
  socket : SocketAddr
  tls : Option (RustlsServerConfig × (Octets → Octets) × TlsConfig)

/-- Nothing, or an error. -/
def succeeds : Option IoError → Except IoError Unit
  | some error => .error error
  | none => .ok ()

section
variable (rustls : Rustls) (files : FileSystem) (system : System) (listening : List SocketAddr)

/-- `socket_addr().map_err(to_io)`. -/
def address (server : ServerEntry) : Except IoError SocketAddr :=
  match server.socket_addr with
  | .ok addr => .ok addr
  | .error _ => .error ⟨.InvalidInput, lit "invalid socket address syntax"⟩

def load_tls (server : ServerEntry) : Except IoError (Option (RustlsServerConfig × (Octets → Octets) × TlsConfig)) :=
  match server.tls with
  | none => .ok none
  | some settings => (build_server_config rustls settings files).map fun built => some (built.1, built.2, settings)

/-- The DS field is the upper six bits of the former TOS octet. -/
def set_dscp (server : ServerEntry) (addr : SocketAddr) : Except IoError Unit :=
  match server.dscp with
  | none => .ok ()
  | some dscp =>
    if addr.ip.is_ipv4 then succeeds (system.tos_error (dscp <<< 2))
    else .error ⟨.Unsupported, lit "dscp is set on IPv4 listeners only"⟩

/-- A bind fails where some socket listens. -/
def bind_socket (addr : SocketAddr) : Except IoError Unit :=
  if Free system.overlaps listening addr then .ok () else .error (system.in_use addr)

def bind_listener (server : ServerEntry) : Except ListenerError BoundListener :=
  let bound : Except IoError BoundListener := do
    let addr ← address server
    let tls ← load_tls rustls files server
    succeeds (system.socket_error addr.ip.is_ipv4)
    set_dscp system server addr
    bind_socket system listening addr
    return ⟨server.listen, server.listener_name, addr, tls⟩
  bound.mapError fun source => ⟨server.listen, source⟩

/-- What binding an entry needs: an address that parses, TLS files that load, a
    socket, no codepoint but on IPv4, and an address that is free. -/
structure Bindable (server : ServerEntry) : Prop where
  addr : ∃ addr, server.socket_addr = .ok addr ∧ system.socket_error addr.ip.is_ipv4 = none ∧
    (∀ dscp ∈ server.dscp, addr.ip.is_ipv4 = true ∧ system.tos_error (dscp <<< 2) = none) ∧
    Free system.overlaps listening addr
  tls : ∀ settings ∈ server.tls, ∃ built, build_server_config rustls settings files = .ok built

/-- Every entry has its listener, and in whatever order `BoundListener::serve` is
    come to, all of them listen. -/
def AllListen (servers : List ServerEntry) (bound : List BoundListener) : Prop :=
  List.Forall₂ (fun server listener => bind_listener rustls files system listening server = .ok listener)
      servers bound ∧
    ∀ order : List SocketAddr, order.Perm (bound.map (·.socket)) →
      ∀ listens ∈ listen_all system.overlaps listening order, listens = true

/-- The addresses of two entries do not overlap. -/
def EntriesApart (first second : ServerEntry) : Prop :=
  ∀ addr addr', first.socket_addr = .ok addr → second.socket_addr = .ok addr' → Apart system.overlaps addr addr'

/-- What `spawn_with` refuses to start on, with a route: a middleware that cannot
    be read, a route that names an unknown listener, or an entry that cannot be
    bound. -/
def Refusable (is_method : Text → Bool) (servers : List ServerEntry) (routes middlewares : List HandlerHandle) : Prop :=
  (∃ handle ∈ middlewares, ∀ stage, from_handle handle ≠ .ok stage) ∨
    unknown_route_listeners (scopes (read_routes is_method routes)) (servers.map (·.toServerConfig)) ≠ [] ∨
    ∃ server ∈ servers, ¬Bindable rustls files system listening server

end

/-! ### What is bound -/

section
variable {rustls : Rustls} {files : FileSystem} {system : System} {listening : List SocketAddr} {server : ServerEntry}

theorem succeeds_ok {error : Option IoError} {done : Unit} : succeeds error = .ok done ↔ error = none := by
  cases error <;> simp [succeeds]

theorem address_ok {addr : SocketAddr} : address server = .ok addr ↔ server.socket_addr = .ok addr := by
  unfold address
  cases server.socket_addr <;> simp

theorem load_tls_ok :
    (∃ tls, load_tls rustls files server = .ok tls) ↔
      ∀ settings ∈ server.tls, ∃ built, build_server_config rustls settings files = .ok built := by
  unfold load_tls
  cases server.tls with
  | none => simp
  | some settings =>
    cases loaded : build_server_config rustls settings files with
    | error error => simp [loaded, Except.map]
    | ok built =>
      obtain ⟨config, sha256⟩ := built
      simp [loaded, Except.map]

theorem set_dscp_ok {addr : SocketAddr} {done : Unit} :
    set_dscp system server addr = .ok done ↔
      ∀ dscp ∈ server.dscp, addr.ip.is_ipv4 = true ∧ system.tos_error (dscp <<< 2) = none := by
  unfold set_dscp
  cases server.dscp with
  | none => simp
  | some dscp =>
    cases addr.ip.is_ipv4 with
    | false => simp
    | true => simp [succeeds_ok]

theorem bind_socket_ok {addr : SocketAddr} {done : Unit} :
    bind_socket system listening addr = .ok done ↔ Free system.overlaps listening addr := by
  unfold bind_socket
  split_ifs with free <;> simp [free]

/-- What a listener that was bound is made of. -/
theorem bind_listener_ok {listener : BoundListener} :
    bind_listener rustls files system listening server = .ok listener ↔
      ∃ addr tls, server.socket_addr = .ok addr ∧ load_tls rustls files server = .ok tls ∧
        system.socket_error addr.ip.is_ipv4 = none ∧
        (∀ dscp ∈ server.dscp, addr.ip.is_ipv4 = true ∧ system.tos_error (dscp <<< 2) = none) ∧
        Free system.overlaps listening addr ∧ ⟨server.listen, server.listener_name, addr, tls⟩ = listener := by
  have mapped {attempt : Except IoError BoundListener} :
      attempt.mapError (fun source => (⟨server.listen, source⟩ : ListenerError)) = .ok listener ↔
        attempt = .ok listener := by
    cases attempt <;> simp [Except.mapError]
  rw [bind_listener, mapped]
  simp only [Tls.bind_ok, address_ok, succeeds_ok, set_dscp_ok, bind_socket_ok, pure, Except.pure, Except.ok.injEq]
  constructor
  · rintro ⟨addr, parsed, tls, loaded, ⟨⟩, socket, ⟨⟩, dscp, ⟨⟩, free, same⟩
    exact ⟨addr, tls, parsed, loaded, socket, dscp, free, same⟩
  · rintro ⟨addr, tls, parsed, loaded, socket, dscp, free, same⟩
    exact ⟨addr, parsed, tls, loaded, (), socket, (), dscp, (), free, same⟩

theorem bindable_iff :
    Bindable rustls files system listening server ↔
      ∃ listener, bind_listener rustls files system listening server = .ok listener := by
  constructor
  · rintro ⟨⟨addr, parsed, socket, dscp, free⟩, loads⟩
    obtain ⟨tls, loaded⟩ := load_tls_ok.mpr loads
    exact ⟨_, bind_listener_ok.mpr ⟨addr, tls, parsed, loaded, socket, dscp, free, rfl⟩⟩
  · rintro ⟨listener, bound⟩
    obtain ⟨addr, tls, parsed, loaded, socket, dscp, free, -⟩ := bind_listener_ok.mp bound
    exact ⟨⟨addr, parsed, socket, dscp, free⟩, load_tls_ok.mp ⟨tls, loaded⟩⟩

/-- Where nothing failed, every entry has its listener. -/
theorem bind_all_forall {Error Bound : Type} {bind_listener : ServerEntry → Except Error Bound}
    {servers : List ServerEntry} (none_failed : (bind_all bind_listener servers).2 = []) :
    List.Forall₂ (fun server listener => bind_listener server = .ok listener) servers
      (bind_all bind_listener servers).1 := by
  induction servers with
  | nil => exact List.Forall₂.nil
  | cons server servers ih =>
    rw [bind_all] at none_failed ⊢
    cases bound : bind_listener server with
    | error error =>
      rw [bound] at none_failed
      cases none_failed
    | ok listener =>
      rw [bound] at none_failed
      exact List.Forall₂.cons bound (ih none_failed)

theorem bind_all_failed {Error Bound : Type} {bind_listener : ServerEntry → Except Error Bound}
    {servers : List ServerEntry} :
    (bind_all bind_listener servers).2 = [] ↔ ∀ server ∈ servers, ∃ listener, bind_listener server = .ok listener := by
  induction servers with
  | nil => simp [bind_all]
  | cons server servers ih =>
    rw [bind_all, List.forall_mem_cons, ← ih]
    cases bind_listener server <;> simp

/-! ### What comes to listen -/

/-- A property of the entries, and of what they are paired with. -/
theorem forall_mem_iff_of_forall₂ {Entry Paired : Type} {Pair : Entry → Paired → Prop} {entries : List Entry}
    {paired : List Paired} (pairs : List.Forall₂ Pair entries paired) {First : Entry → Prop} {Second : Paired → Prop}
    (same : ∀ entry other, Pair entry other → (First entry ↔ Second other)) :
    (∀ entry ∈ entries, First entry) ↔ ∀ other ∈ paired, Second other := by
  induction pairs with
  | nil => simp
  | cons here rest ih => rw [List.forall_mem_cons, List.forall_mem_cons, ih, same _ _ here]

/-- The sockets of the listeners are apart when the entries are. -/
theorem pairwise_sockets {servers : List ServerEntry} {bound : List BoundListener}
    (each : List.Forall₂ (fun server listener => bind_listener rustls files system listening server = .ok listener)
      servers bound) :
    (bound.map (·.socket)).Pairwise (Apart system.overlaps) ↔ servers.Pairwise (EntriesApart system) := by
  have socket (server : ServerEntry) (listener : BoundListener)
      (bound : bind_listener rustls files system listening server = .ok listener) :
      server.socket_addr = .ok listener.socket := by
    obtain ⟨addr, tls, parsed, -, -, -, -, rfl⟩ := bind_listener_ok.mp bound
    exact parsed
  rw [List.pairwise_map]
  induction each with
  | nil => exact iff_of_true List.Pairwise.nil List.Pairwise.nil
  | cons here rest ih =>
    rename_i server listener servers bound
    rw [List.pairwise_cons, List.pairwise_cons]
    refine and_congr (forall_mem_iff_of_forall₂ rest fun server' listener' there => ?_).symm ih
    constructor
    · intro apart
      exact apart _ _ (socket _ _ here) (socket _ _ there)
    · intro apart addr addr' parsed parsed'
      rw [socket _ _ here] at parsed
      rw [socket _ _ there] at parsed'
      cases parsed
      cases parsed'
      exact apart

/-- Listeners that were bound all come to listen exactly if their entries are
    apart. -/
theorem all_listen_iff {servers : List ServerEntry} {bound : List BoundListener}
    (each : List.Forall₂ (fun server listener => bind_listener rustls files system listening server = .ok listener)
      servers bound) :
    AllListen rustls files system listening servers bound ↔ servers.Pairwise (EntriesApart system) := by
  rw [AllListen, and_iff_right each, every_order_iff, pairwise_sockets each, and_iff_right]
  -- Each of them was free when it was bound.
  rw [List.forall_mem_map]
  refine (@forall_mem_iff_of_forall₂ _ _ _ _ _ each (fun _ => True) _ fun server listener here => ?_).mp
    fun _ _ => trivial
  obtain ⟨addr, tls, -, -, -, -, free, rfl⟩ := bind_listener_ok.mp here
  exact iff_of_true trivial free

/-- Middlewares that can all be read are read. -/
theorem mapM_ok {handles : List HandlerHandle} :
    (∃ stages, handles.mapM from_handle = .ok stages) ↔
      ∀ handle ∈ handles, ∃ stage, from_handle handle = .ok stage := by
  induction handles with
  | nil => simp [pure, Except.pure]
  | cons handle handles ih =>
    rw [List.forall_mem_cons, ← ih, List.mapM_cons]
    simp only [Tls.bind_ok, pure, Except.pure, Except.ok.injEq]
    constructor
    · rintro ⟨-, stage, read, stages, rest, -⟩
      exact ⟨⟨stage, read⟩, stages, rest⟩
    · rintro ⟨⟨stage, read⟩, stages, rest⟩
      exact ⟨_, stage, read, stages, rest, rfl⟩

/-- With a route, `spawn_with` starts unless it has something to refuse to start
    on. -/
theorem starts_iff {is_method : Text → Bool} {servers : List ServerEntry} {routes middlewares : List HandlerHandle}
    (some_route : read_routes is_method routes ≠ []) :
    (∃ started, spawn_with is_method (bind_listener rustls files system listening) servers routes middlewares =
        .ok started) ↔
      ¬Refusable rustls files system listening is_method servers routes middlewares := by
  have bindable : (bind_all (bind_listener rustls files system listening) servers).2 = [] ↔
      ¬∃ server ∈ servers, ¬Bindable rustls files system listening server := by
    rw [bind_all_failed]
    push Not
    exact forall₂_congr fun server _ => bindable_iff.symm
  have readable : (∃ stages, middlewares.mapM from_handle = .ok stages) ↔
      ¬∃ handle ∈ middlewares, ∀ stage, from_handle handle ≠ .ok stage := by
    rw [mapM_ok]
    push Not
    rfl
  rw [Refusable, not_or, not_or, ← readable, ← bindable, not_not]
  simp only [spawn_with_ok]
  constructor
  · rintro ⟨started, same, stages, known, -, none_failed⟩
    rw [same] at known none_failed
    exact ⟨⟨_, stages⟩, known, none_failed some_route⟩
  · rintro ⟨⟨stages, read⟩, known, none_failed⟩
    exact ⟨⟨_, stages, _⟩, rfl, read, known, rfl, fun _ => none_failed⟩

/-- With a route, either `spawn_with` refuses to start or every listener comes to
    listen, whatever the order, exactly if there is something to refuse to start on
    or no two entries have addresses that overlap. -/
theorem comes_up_iff {is_method : Text → Bool} {servers : List ServerEntry} {routes middlewares : List HandlerHandle}
    (some_route : read_routes is_method routes ≠ []) :
    (∀ started, spawn_with is_method (bind_listener rustls files system listening) servers routes middlewares =
        .ok started → AllListen rustls files system listening servers started.bound) ↔
      Refusable rustls files system listening is_method servers routes middlewares ∨
        servers.Pairwise (EntriesApart system) := by
  have all_listen (started : Started BoundListener)
      (starts : spawn_with is_method (bind_listener rustls files system listening) servers routes middlewares =
        .ok started) :
      AllListen rustls files system listening servers started.bound ↔ servers.Pairwise (EntriesApart system) := by
    obtain ⟨same, -, -, bound, none_failed⟩ := spawn_with_ok.mp starts
    rw [bound]
    exact all_listen_iff (bind_all_forall (none_failed (same ▸ some_route)))
  constructor
  · intro comes_up
    by_cases refusable : Refusable rustls files system listening is_method servers routes middlewares
    · exact Or.inl refusable
    · obtain ⟨started, starts⟩ := (starts_iff some_route).mpr refusable
      exact Or.inr ((all_listen started starts).mp (comes_up started starts))
  · rintro (refusable | apart) started starts
    · exact absurd refusable ((starts_iff some_route).mp ⟨started, starts⟩)
    · exact (all_listen started starts).mpr apart

end

/-! Two unnamed entries of one address, which the parser lets through, and two
of different ones. -/

/-- A system where only equal addresses overlap, and everything else succeeds. -/
def plainSystem : System where
  overlaps first second := first = second
  decides := inferInstance
  socket_error _ := none
  tos_error _ := none
  in_use _ := ⟨.Other, lit "Address already in use (os error 98)"⟩

/-- The listeners of some unnamed entries, with one route and no TLS. -/
def starting (addresses : List Text) : Except (Refusal ListenerError) (Started BoundListener) :=
  spawn_with token (bind_listener LastGood.plain (fun _ => none) plainSystem [])
    (addresses.map fun listen => ⟨⟨listen, none, none, 1 <<< 20, 30000, []⟩, none⟩) [hello [lit "GET"] none] []

/-- Which of them come to listen, in their order. -/
def come_to_listen (addresses : List Text) : Option (List Bool) :=
  (starting addresses).toOption.map fun started => listen_all plainSystem.overlaps [] (started.bound.map (·.socket))

theorem second_fails_to_listen :
    (Validation.parse (lit "http.yaml") {
        servers := [⟨lit "192.0.2.1:8080", none, none, 1 <<< 20, 30000, []⟩,
          ⟨lit "192.0.2.1:8080", none, none, 1 <<< 20, 30000, []⟩] }).isOk = true ∧
      come_to_listen [lit "192.0.2.1:8080", lit "192.0.2.1:8080"] = some [true, false] := by decide +kernel

theorem two_ports_listen :
    ((starting [lit "192.0.2.1:8080", lit "192.0.2.1:8443"]).toOption.any fun started =>
      (listen_all plainSystem.overlaps [] (started.bound.map (·.socket))).all id) = true := by
  have no_refusal : (starting [lit "192.0.2.1:8080", lit "192.0.2.1:8443"]).isOk = true := by decide +kernel
  have apart : EntriesApart plainSystem ⟨⟨lit "192.0.2.1:8080", none, none, 1 <<< 20, 30000, []⟩, none⟩
      ⟨⟨lit "192.0.2.1:8443", none, none, 1 <<< 20, 30000, []⟩, none⟩ := by
    intro addr addr' parsed parsed'
    obtain rfl : addr = ⟨.v4 192 0 2 1, 8080, 0⟩ := Except.ok.inj (parsed.symm.trans (by decide +kernel))
    obtain rfl : addr' = ⟨.v4 192 0 2 1, 8443, 0⟩ := Except.ok.inj (parsed'.symm.trans (by decide +kernel))
    exact ⟨by decide, by decide⟩
  cases starts : starting [lit "192.0.2.1:8080", lit "192.0.2.1:8443"] with
  | error refusal =>
    rw [starts] at no_refusal
    cases no_refusal
  | ok started =>
    have some_route : read_routes token [hello [lit "GET"] none] ≠ [] := List.ne_nil_of_length_pos (by decide +kernel)
    have comes_up := (comes_up_iff some_route).mpr (Or.inr (List.pairwise_pair.mpr apart)) started starts
    exact List.all_eq_true.mpr (comes_up.2 _ (List.Perm.refl _))

end SiphonHttp.Listening
