import SiphonHttp.Config
import SiphonHttp.Net
import SiphonHttp.Routes

/-!
`HttpConfig::parse` of `config.rs`, from the deserialized document on. Every
`listen` has to be a socket address, and a listener may not be called what an
earlier one is called, unless neither has a name of its own. The first entry
that is not so is reported (`parse_unambiguous`).
-/
namespace SiphonHttp
open Text

/-- The error of the standard library; of the kinds of address it is about, a
    `listen` value has only one. -/
inductive AddrParseError
  | Socket
  deriving DecidableEq, Repr

namespace Config

/-- `listen` as a socket address. -/
def ServerConfig.socket_addr (server : ServerConfig) : Except AddrParseError Net.SocketAddr :=
  match Net.parse_socket_addr server.listen with
  | some addr => .ok addr
  | none => .error .Socket

end Config

namespace Validation
open Config Routes

inductive ConfigError
  | Listen (path : Text) (index : Nat) (listen : Text) (source : AddrParseError)
  | ListenerName (path : Text) (index : Nat) (name : Text)
  deriving DecidableEq, Repr

/-- Two entries of one name, of which at least one is called so explicitly. -/
def same_name (earlier server : ServerConfig) : Bool :=
  (server.name.isSome || earlier.name.isSome) && earlier.listener_name = server.listener_name

/-- One turn of the loop of `parse`. -/
def check (path : Text) (servers : List ServerConfig) (index : Nat) (server : ServerConfig) : Except ConfigError Unit :=
  match server.socket_addr with
  | .error source => .error (.Listen path index server.listen source)
  | .ok _ =>
    if (servers.take index).any fun earlier => same_name earlier server then
      .error (.ListenerName path index server.listener_name)
    else .ok ()

/-- The loop, over the entries with their indices. -/
def check_all (path : Text) (servers : List ServerConfig) : Except ConfigError Unit :=
  forM servers.zipIdx fun entry => check path servers entry.2 entry.1

/-- `HttpConfig::parse`, of what the text deserializes to. -/
def parse (path : Text) (config : HttpConfig) : Except ConfigError HttpConfig := do
  check_all path config.servers
  return config

/-! ### Loops that stop at an error -/

section
variable {Entry Error : Type*} {body : Nat → Entry → Except Error Unit}

theorem forM_zipIdx_ok {entries : List Entry} {start : Nat} :
    (forM (entries.zipIdx start) fun entry => body entry.2 entry.1) = .ok () ↔
      ∀ index entry, entries[index]? = some entry → body (start + index) entry = .ok () := by
  induction entries generalizing start with
  | nil => simp [pure, Except.pure]
  | cons first entries ih =>
    rw [List.zipIdx_cons, List.forM_cons]
    cases here : body start first with
    | error error =>
      refine iff_of_false nofun fun all => ?_
      have none_here := all 0 first rfl
      rw [Nat.add_zero, here] at none_here
      cases none_here
    | ok done =>
      refine ih.trans ⟨fun all index entry found => ?_, fun all index entry found => ?_⟩
      · cases index with
        | zero =>
          cases found
          exact here
        | succ index =>
          have later := all index entry found
          rwa [Nat.add_right_comm] at later
      · have later := all (index + 1) entry found
        rwa [Nat.add_comm index 1, ← Nat.add_assoc] at later

/-- The error of a loop is that of the first turn that has one. -/
theorem forM_zipIdx_error {entries : List Entry} {start : Nat} {error : Error}
    (failed : (forM (entries.zipIdx start) fun entry => body entry.2 entry.1) = .error error) :
    ∃ index entry, entries[index]? = some entry ∧ body (start + index) entry = .error error ∧
      ∀ earlier < index, ∀ entry, entries[earlier]? = some entry → body (start + earlier) entry = .ok () := by
  induction entries generalizing start with
  | nil => cases failed
  | cons first entries ih =>
    rw [List.zipIdx_cons, List.forM_cons] at failed
    cases here : body start first with
    | error error' =>
      rw [here] at failed
      cases failed
      exact ⟨0, first, rfl, here, fun earlier before => absurd before (Nat.not_lt_zero earlier)⟩
    | ok done =>
      rw [here] at failed
      obtain ⟨index, entry, found, fails, passed⟩ := ih failed
      refine ⟨index + 1, entry, found, ?_, ?_⟩
      · rwa [Nat.add_comm index 1, ← Nat.add_assoc]
      · intro earlier before other found'
        cases earlier with
        | zero =>
          cases found'
          exact here
        | succ earlier =>
          have passes := passed earlier (Nat.lt_of_succ_lt_succ before) other found'
          rwa [Nat.add_comm earlier 1, ← Nat.add_assoc]

end

/-! ### What is accepted -/

/-- Two entries, the first of them before the second, that are called the same,
    at least one of them explicitly. -/
def Collide (servers : List ServerConfig) (i j : Nat) : Prop :=
  i < j ∧ ∃ earlier server, servers[i]? = some earlier ∧ servers[j]? = some server ∧
    earlier.listener_name = server.listener_name ∧ (earlier.name ≠ none ∨ server.name ≠ none)

/-- An entry that is not accepted after those before it. -/
def Offends (servers : List ServerConfig) (index : Nat) : Prop :=
  (∃ server, servers[index]? = some server ∧ ∀ addr, server.socket_addr ≠ .ok addr) ∨
    ∃ earlier, Collide servers earlier index

/-- Every address is one, and no two entries collide. -/
def Unambiguous (servers : List ServerConfig) : Prop :=
  (∀ server ∈ servers, ∃ addr, server.socket_addr = .ok addr) ∧ ¬∃ i j, Collide servers i j

section
variable {path : Text} {servers : List ServerConfig}

theorem same_name_iff {earlier server : ServerConfig} :
    same_name earlier server = true ↔
      earlier.listener_name = server.listener_name ∧ (earlier.name ≠ none ∨ server.name ≠ none) := by
  rw [same_name, Bool.and_eq_true, Bool.or_eq_true, Option.isSome_iff_ne_none, Option.isSome_iff_ne_none,
    decide_eq_true_iff, or_comm, and_comm]

theorem any_earlier {index : Nat} {server : ServerConfig} (found : servers[index]? = some server) :
    ((servers.take index).any fun earlier => same_name earlier server) = true ↔
      ∃ earlier, Collide servers earlier index := by
  rw [List.any_eq_true]
  constructor
  · rintro ⟨earlier, member, same⟩
    obtain ⟨i, at_i⟩ := List.mem_iff_getElem?.mp member
    rw [List.getElem?_take] at at_i
    split_ifs at at_i with before
    exact ⟨i, before, earlier, server, at_i, found, same_name_iff.mp same⟩
  · rintro ⟨i, before, earlier, other, at_i, at_index, same⟩
    obtain rfl := Option.some.inj (found.symm.trans at_index)
    have taken : (servers.take index)[i]? = some earlier := by rw [List.getElem?_take, if_pos before, at_i]
    exact ⟨earlier, List.mem_of_getElem? taken, same_name_iff.mpr same⟩

/-- One turn passes unless the entry offends. -/
theorem check_ok {index : Nat} {server : ServerConfig} (found : servers[index]? = some server) :
    check path servers index server = .ok () ↔ ¬Offends servers index := by
  unfold check Offends
  cases parsed : server.socket_addr with
  | error source =>
    refine iff_of_false nofun fun none_offends => none_offends (Or.inl ⟨server, found, fun addr => ?_⟩)
    rw [parsed]
    exact nofun
  | ok addr =>
    have parses : ¬∃ other, servers[index]? = some other ∧ ∀ addr, other.socket_addr ≠ .ok addr := by
      rintro ⟨other, at_index, unparsable⟩
      obtain rfl := Option.some.inj (found.symm.trans at_index)
      exact unparsable addr parsed
    dsimp only
    split_ifs with collides
    · exact iff_of_false nofun fun none_offends => none_offends (Or.inr ((any_earlier found).mp collides))
    · refine iff_of_true rfl fun offends => ?_
      rcases offends with unparsable | collide
      · exact parses unparsable
      · exact collides ((any_earlier found).mpr collide)

/-- What a turn that fails reports. -/
theorem check_error {index : Nat} {server : ServerConfig} {error : ConfigError}
    (failed : check path servers index server = .error error) :
    ((∀ addr, server.socket_addr ≠ .ok addr) ∧ ∃ source, error = .Listen path index server.listen source) ∨
      (∃ addr, server.socket_addr = .ok addr) ∧ error = .ListenerName path index server.listener_name := by
  unfold check at failed
  cases parsed : server.socket_addr with
  | error source =>
    rw [parsed] at failed
    cases failed
    exact Or.inl ⟨nofun, source, rfl⟩
  | ok addr =>
    rw [parsed] at failed
    dsimp only at failed
    split_ifs at failed
    cases failed
    exact Or.inr ⟨⟨addr, rfl⟩, rfl⟩

theorem parse_eq (path : Text) (config : HttpConfig) :
    parse path config = (check_all path config.servers).map fun _ => config := by
  unfold parse
  cases check_all path config.servers <;> rfl

theorem parse_ok {config accepted : HttpConfig} :
    parse path config = .ok accepted ↔ check_all path config.servers = .ok () ∧ accepted = config := by
  rw [parse_eq]
  cases check_all path config.servers <;> simp [Except.map, eq_comm]

theorem parse_error {config : HttpConfig} {error : ConfigError} :
    parse path config = .error error ↔ check_all path config.servers = .error error := by
  rw [parse_eq]
  cases check_all path config.servers <;> simp [Except.map]

theorem unambiguous_iff :
    Unambiguous servers ↔ ∀ index server, servers[index]? = some server → ¬Offends servers index := by
  constructor
  · rintro ⟨parse, apart⟩ index server found offends
    rcases offends with ⟨other, at_index, unparsable⟩ | ⟨earlier, collide⟩
    · obtain ⟨addr, parsed⟩ := parse other (List.mem_of_getElem? at_index)
      exact unparsable addr parsed
    · exact apart ⟨earlier, index, collide⟩
  · intro none_offends
    constructor
    · intro server member
      obtain ⟨index, found⟩ := List.mem_iff_getElem?.mp member
      by_contra unparsable
      exact none_offends index server found (Or.inl ⟨server, found, not_exists.mp unparsable⟩)
    · rintro ⟨i, j, collide⟩
      obtain ⟨-, -, server, -, found, -⟩ := id collide
      exact none_offends j server found (Or.inr ⟨i, collide⟩)

theorem parse_accepts {config : HttpConfig} : parse path config = .ok config ↔ Unambiguous config.servers := by
  rw [parse_ok, and_iff_left rfl, check_all, forM_zipIdx_ok, unambiguous_iff]
  refine forall₃_congr fun index server found => ?_
  rw [Nat.zero_add]
  exact check_ok found

/-! ### What follows for an accepted list -/

/-- Entries that share a name are unnamed, with one address. -/
theorem Unambiguous.shared {i j : Nat} {first second : ServerConfig} (accepted : Unambiguous servers)
    (at_i : servers[i]? = some first) (at_j : servers[j]? = some second) (apart : i ≠ j)
    (same : first.listener_name = second.listener_name) :
    first.name = none ∧ second.name = none ∧ first.listen = second.listen := by
  have unnamed : first.name = none ∧ second.name = none := by
    by_contra named
    rw [not_and_or] at named
    rcases Nat.lt_or_gt_of_ne apart with before | after
    · exact accepted.2 ⟨i, j, before, first, second, at_i, at_j, same, named⟩
    · exact accepted.2 ⟨j, i, after, second, first, at_j, at_i, same.symm, named.symm⟩
  refine ⟨unnamed.1, unnamed.2, ?_⟩
  rwa [ServerConfig.listener_name, ServerConfig.listener_name, unnamed.1, unnamed.2] at same

/-- A route that is restricted to the explicit name of a listener is served by it
    alone. -/
theorem Unambiguous.served_once {scope : RouteScope} {name : Text} (accepted : Unambiguous servers)
    (restricted : scope.listeners = some [name]) (explicit : ∃ server ∈ servers, server.name = some name) :
    ∃! index : Nat, ∃ server,
      servers[index]? = some server ∧ scope.serves_listener (some server.listener_name) = true := by
  have serves (server : ServerConfig) :
      scope.serves_listener (some server.listener_name) = true ↔ name = server.listener_name := by
    simp [RouteScope.serves_listener, restricted]
  obtain ⟨server, member, named⟩ := explicit
  obtain ⟨index, found⟩ := List.mem_iff_getElem?.mp member
  have called : name = server.listener_name := by rw [ServerConfig.listener_name, named, Option.getD_some]
  refine ⟨index, ⟨server, found, (serves server).mpr called⟩, ?_⟩
  rintro other ⟨server', found', served⟩
  by_contra apart
  obtain ⟨-, unnamed, -⟩ := accepted.shared found' found apart (((serves server').mp served).symm.trans called)
  rw [named] at unnamed
  cases unnamed

end

/-- A configuration is accepted, as it is, exactly if its listeners are
    unambiguous; else the least offending entry is reported, for its address if
    that does not parse, and otherwise for its name. Among accepted listeners only
    unnamed ones of one address share a name, and a route that is restricted to an
    explicit name is served by exactly one. -/
theorem parse_unambiguous (path : Text) (config : HttpConfig) :
    (parse path config = .ok config ↔ Unambiguous config.servers) ∧
      (∀ error, parse path config = .error error → ∃ (index : Nat) (server : ServerConfig),
        config.servers[index]? = some server ∧ Offends config.servers index ∧
          (∀ earlier < index, ¬Offends config.servers earlier) ∧
          (((∀ addr, server.socket_addr ≠ .ok addr) ∧ ∃ source, error = .Listen path index server.listen source) ∨
            (∃ addr, server.socket_addr = .ok addr) ∧ error = .ListenerName path index server.listener_name)) ∧
      (∀ accepted, parse path config = .ok accepted →
        accepted = config ∧
        (∀ (i j : Nat) (first second : ServerConfig), config.servers[i]? = some first →
          config.servers[j]? = some second → i ≠ j → first.listener_name = second.listener_name →
            first.name = none ∧ second.name = none ∧ first.listen = second.listen) ∧
        ∀ (scope : RouteScope) (name : Text), scope.listeners = some [name] →
          (∃ server ∈ config.servers, server.name = some name) →
            ∃! index : Nat, ∃ server, config.servers[index]? = some server ∧
              scope.serves_listener (some server.listener_name) = true) := by
  refine ⟨parse_accepts, ?_, ?_⟩
  · intro error failed
    obtain ⟨index, server, found, fails, passed⟩ := forM_zipIdx_error (parse_error.mp failed)
    rw [Nat.zero_add] at fails
    refine ⟨index, server, found, ?_, ?_, check_error fails⟩
    · by_contra none_offends
      rw [(check_ok found).mpr none_offends] at fails
      cases fails
    · intro earlier before
      obtain ⟨inside, -⟩ := List.getElem?_eq_some_iff.mp found
      have found' := List.getElem?_eq_getElem (before.trans inside)
      have passes := passed earlier before _ found'
      rw [Nat.zero_add] at passes
      exact (check_ok found').mp passes
  · intro accepted parsed
    obtain rfl := (parse_ok.mp parsed).2
    have unambiguous := parse_accepts.mp parsed
    exact ⟨rfl, fun i j first second at_i at_j => unambiguous.shared at_i at_j,
      fun scope name => unambiguous.served_once⟩

/-- A name that is another listener's address. -/
example :
    parse (lit "http.yaml") {
      servers := [⟨lit "127.0.0.1:8080", none, none, 1 <<< 20, 30000, []⟩,
        ⟨lit "127.0.0.1:8081", some (lit "127.0.0.1:8080"), none, 1 <<< 20, 30000, []⟩] } =
      .error (.ListenerName (lit "http.yaml") 1 (lit "127.0.0.1:8080")) := by decide +kernel

end Validation
end SiphonHttp
