import SiphonHttp.Addresses
import SiphonHttp.Arrival
import SiphonHttp.DistinguishedName
import SiphonHttp.Slices

/-!
What a script is told of the client behind a request. The names that are read
from a certificate, however it is encoded, are those that stand in it
(`names_written`), and an alternative name tells which one it is
(`stands_for_shown`). So whatever is reloaded meanwhile, a script on a listener
with a `client_ca` reads the names that the roots of that `client_ca` stand for
(`every_client_as_certified`).
-/
namespace SiphonHttp.X509
open Text Net Cursor
open Der (Elements)

/-! ### Where the names stand -/

/-- An attribute, as the content of its SEQUENCE. -/
def IsAva (octets : Octets) (ava : Ava) : Prop :=
  ∃ rest, Elements [(OBJECT_IDENTIFIER, ava.identifier), (ava.tag, ava.value)] octets rest

def IsRdn (octets : Octets) (rdn : List Ava) : Prop :=
  ∃ avas : List Octets, Elements (avas.map fun ava => (SEQUENCE, ava)) octets [] ∧ List.Forall₂ IsAva avas rdn

def IsName (octets : Octets) (name : List (List Ava)) : Prop :=
  ∃ rdns : List Octets, Elements (rdns.map fun rdn => (SET, rdn)) octets [] ∧ List.Forall₂ IsRdn rdns name

/-- The names of a certificate, and what stands behind its public key. -/
def Encloses (certificate issuer subject : Octets) (tail : List (UInt8 × Octets)) : Prop :=
  ∃ (content behind tbs others : Octets) (version : Option Octets)
    (serialNumber signature validity subjectPublicKeyInfo : Octets),
    Elements [(SEQUENCE, content)] certificate behind ∧ Elements [(SEQUENCE, tbs)] content others ∧
      Elements ((version.toList.map fun version => (VERSION, version)) ++
        [(INTEGER, serialNumber), (SEQUENCE, signature), (SEQUENCE, issuer), (SEQUENCE, validity), (SEQUENCE, subject),
          (SEQUENCE, subjectPublicKeyInfo)] ++ tail) tbs []

/-- An extension of a certificate, as the content of its SEQUENCE. -/
def Extends (tail : List (UInt8 × Octets)) (extension : Octets) : Prop :=
  ∃ (wrapper content behind : Octets) (extensions : List Octets),
    (EXTENSIONS, wrapper) ∈ tail ∧ Elements [(SEQUENCE, content)] wrapper behind ∧
      Elements (extensions.map fun extension => (SEQUENCE, extension)) content [] ∧ extension ∈ extensions

/-- The general names of an extension that is a subjectAltName. -/
def IsAltNames (extension : Octets) (names : List (UInt8 × Octets)) : Prop :=
  ∃ (critical : Option Octets) (value behind content others : Octets),
    Elements ((OBJECT_IDENTIFIER, SUBJECT_ALT_NAME) ::
        ((critical.toList.map fun critical => (BOOLEAN, critical)) ++ [(OCTET_STRING, value)])) extension behind ∧
      Elements [(SEQUENCE, content)] value others ∧ Elements names content []

/-- How a general name is shown, if it is. -/
def shown : UInt8 × Octets → List (Text × Text)
  | (tag, content) =>
    if tag = 0x81 then [(lit "email", from_utf8_lossy content)]
    else if tag = 0x82 then [(lit "dns", from_utf8_lossy content)]
    else if tag = 0x86 then [(lit "uri", from_utf8_lossy content)]
    else if tag = 0x87 then ((ip_address content).map fun address => (lit "ip", address)).toList
    else []

/-- The general name that a script means when it compares with an entry. -/
def stands_for : Text × Text → Option (UInt8 × Octets)
  | (kind, value) =>
    if kind = lit "email" then some (0x81, utf8 value)
    else if kind = lit "dns" then some (0x82, utf8 value)
    else if kind = lit "uri" then some (0x86, utf8 value)
    else if kind = lit "ip" then (parse_ip value).map fun address => (0x87, address_octets address)
    else none

/-! ### What is read is enclosed -/

theorem element_elements {input rest content : Octets} {tag : UInt8}
    (read : element.read input = some ((tag, content), rest)) : Elements [(tag, content)] input rest := by
  obtain ⟨header, rfl, is_header, -⟩ := Slice.element_header read
  exact .cons is_header .nil

theorem expect_elements {input rest content : Octets} {tag : UInt8}
    (read : (expect tag).read input = some (content, rest)) : Elements [(tag, content)] input rest :=
  element_elements (Slice.expect_read.mp read)

theorem skip_elements {input rest : Octets} {tag : UInt8} (skipped : skip tag input = some rest) :
    ∃ content : Option Octets, Elements (content.toList.map fun content => (tag, content)) input rest := by
  unfold skip at skipped
  split_ifs at skipped with begins
  · obtain ⟨⟨⟨other, content⟩, behind⟩, read, rfl⟩ := Option.map_eq_some_iff.mp skipped
    refine ⟨some content, ?_⟩
    obtain ⟨header, rfl, is_header, -⟩ := Slice.element_header read
    obtain ⟨length, rfl⟩ := is_header.starts
    obtain rfl : other = tag := by simpa using begins
    exact .cons is_header .nil
  · cases skipped
    exact ⟨none, .nil⟩

theorem reads_elements {items : List (UInt8 × Octets)} {input : Octets} (reads : element.Reads items input) :
    Elements items input [] := by
  induction reads with
  | nil => exact .nil
  | cons read reads ih => exact (element_elements read).append ih

theorem reads_expected {tag : UInt8} {contents : List Octets} {input : Octets}
    (reads : (expect tag).Reads contents input) : Elements (contents.map fun content => (tag, content)) input [] := by
  induction reads with
  | nil => exact .nil
  | cons read reads ih => exact (expect_elements read).append ih

theorem list_attribute_ava {avas next : List Ava} {octets : Octets} (listed : list_attribute avas octets = some next) :
    ∃ ava, next = avas ++ [ava] ∧ IsAva octets ava := by
  simp only [list_attribute, Option.bind_eq_bind, Option.bind_eq_some_iff, Option.some.injEq] at listed
  obtain ⟨⟨identifier, behind⟩, first, ⟨⟨tag, value⟩, rest⟩, second, rfl⟩ := listed
  exact ⟨⟨identifier, tag, value⟩, rfl, rest, (expect_elements first).append (element_elements second)⟩

theorem list_rdn_rdn {rdns next : List (List Ava)} {octets : Octets} (listed : list_rdn rdns octets = some next) :
    ∃ rdn, next = rdns ++ [rdn] ∧ IsRdn octets rdn := by
  simp only [list_rdn, Option.bind_eq_bind, Option.bind_eq_some_iff, Option.some.injEq] at listed
  obtain ⟨rdn, folded, rfl⟩ := listed
  obtain ⟨avas, reads, steps⟩ := Reader.fold_reads folded
  obtain ⟨outs, rfl, each⟩ := foldlM_appends (fun _ _ _ stepped => list_attribute_ava stepped) steps
  exact ⟨_, rfl, avas, reads_expected reads, each⟩

/-- The attributes that are listed of a name are those it has. -/
theorem listed_name {octets : Octets} {name : List (List Ava)} (read : listed octets = some name) :
    IsName octets name := by
  obtain ⟨rdns, reads, steps⟩ := Reader.fold_reads read
  obtain ⟨outs, rfl, each⟩ := foldlM_appends (fun _ _ _ stepped => list_rdn_rdn stepped) steps
  exact ⟨rdns, reads_expected reads, each⟩

theorem distinguished_name_text {octets : Octets} {text : Text} (read : distinguished_name octets = some text) :
    ∃ name, IsName octets name ∧ text = text_of name := by
  rw [distinguished_name_listed] at read
  obtain ⟨name, lists, rfl⟩ := Option.map_eq_some_iff.mp read
  exact ⟨name, listed_name lists, rfl⟩

theorem read_general_name_shown (found : List (Text × Text)) (name : UInt8 × Octets) :
    read_general_name found name = some (found ++ shown name) := rfl

theorem general_names_shown {value : Octets} {found : List (Text × Text)} (read : general_names value = some found) :
    ∃ content others names, Elements [(SEQUENCE, content)] value others ∧ Elements names content [] ∧
      found = names.flatMap shown := by
  simp only [general_names, Option.bind_eq_bind, Option.bind_eq_some_iff] at read
  obtain ⟨⟨content, others⟩, outer, folded⟩ := read
  obtain ⟨names, reads, steps⟩ := Reader.fold_reads folded
  refine ⟨content, others, names, expect_elements outer, reads_elements reads, ?_⟩
  have shows : ∀ (names : List (UInt8 × Octets)) (found : List (Text × Text)),
      names.foldlM read_general_name found = some (found ++ names.flatMap shown) := by
    intro names
    induction names with
    | nil => simp
    | cons name names ih =>
      intro found
      rw [List.foldlM_cons, read_general_name_shown, Option.bind_eq_bind, Option.bind_some, ih, List.flatMap_cons,
        List.append_assoc]
  rw [shows] at steps
  exact (Option.some.inj steps).symm

/-- The entries are those of a subjectAltName of the certificate, or there are
    none. -/
def Shows (tail : List (UInt8 × Octets)) (entries : List (Text × Text)) : Prop :=
  entries = [] ∨ ∃ extension names, Extends tail extension ∧ IsAltNames extension names ∧
    entries = names.flatMap shown

theorem read_extension_shows {tail : List (UInt8 × Octets)} {found next : List (Text × Text)} {extension : Octets}
    (extends_it : Extends tail extension) (shows : Shows tail found)
    (read : read_extension found extension = some next) : Shows tail next := by
  simp only [read_extension, Option.bind_eq_bind, Option.bind_eq_some_iff] at read
  obtain ⟨⟨identifier, behind_identifier⟩, first, behind_critical, skipped, ⟨value, behind⟩, last, read⟩ := read
  dsimp only at skipped last read
  split_ifs at read with alt_name
  · subst alt_name
    obtain ⟨critical, skips⟩ := skip_elements skipped
    obtain ⟨content, others, names, outer, each, rfl⟩ := general_names_shown read
    refine Or.inr ⟨extension, names, extends_it, ⟨critical, value, behind, content, others, ?_, outer, each⟩, rfl⟩
    exact (expect_elements first).append (skips.append (expect_elements last))
  · cases read
    exact shows

theorem read_tail_shows {tail : List (UInt8 × Octets)} {found next : List (Text × Text)} {part : UInt8 × Octets}
    (member : part ∈ tail) (shows : Shows tail found) (read : read_tail found part = some next) : Shows tail next := by
  obtain ⟨tag, wrapper⟩ := part
  rw [read_tail] at read
  split_ifs at read with other
  · cases read
    exact shows
  · obtain rfl : tag = EXTENSIONS := not_not.mp other
    obtain ⟨⟨content, behind⟩, outer, folded⟩ := Option.bind_eq_some_iff.mp read
    obtain ⟨extensions, reads, steps⟩ := Reader.fold_reads folded
    refine foldlM_keeps (fun extension inside _ _ shows stepped => ?_) steps shows
    exact read_extension_shows
      ⟨wrapper, content, behind, extensions, member, expect_elements outer, reads_expected reads, inside⟩ shows stepped

/-- The names that are read from octets are written in them. -/
theorem names_written {certificate : Octets} {found : Names} (read : names certificate = some found) :
    ∃ issuer subject tail, Encloses certificate issuer subject tail ∧
      (∃ name, IsName issuer name ∧ found.issuer = text_of name) ∧
      (∃ name, IsName subject name ∧ found.subject = text_of name) ∧ Shows tail found.subject_alt_names := by
  simp only [names, Option.bind_eq_bind, Option.bind_eq_some_iff, Option.some.injEq, Prod.exists] at read
  obtain ⟨content, behind, outer, tbs, others, inner, behind_version, skipped, serialNumber, _, serial_read, signature,
    _, signature_read, issuer, _, issuer_read, issuer_text, issuer_named, validity, _, validity_read, subject, _,
    subject_read, subject_text, subject_named, subjectPublicKeyInfo, _, key_read, entries, folded, rfl⟩ := read
  obtain ⟨version, skips⟩ := skip_elements skipped
  obtain ⟨tail, reads, steps⟩ := Reader.fold_reads folded
  refine ⟨issuer, subject, tail, ?_, distinguished_name_text issuer_named, distinguished_name_text subject_named, ?_⟩
  · refine ⟨content, behind, tbs, others, version, serialNumber, signature, validity, subjectPublicKeyInfo,
      expect_elements outer, expect_elements inner, ?_⟩
    rw [List.append_assoc]
    exact skips.append ((expect_elements serial_read).append ((expect_elements signature_read).append
      ((expect_elements issuer_read).append ((expect_elements validity_read).append
        ((expect_elements subject_read).append ((expect_elements key_read).append (reads_elements reads)))))))
  · exact foldlM_keeps (fun part member _ _ shows stepped => read_tail_shows member shows stepped) steps (Or.inl rfl)

/-! ### Entries -/

theorem segment_octets (first second : UInt8) :
    [high ((first.toUInt16 <<< 8) ||| second.toUInt16), low ((first.toUInt16 <<< 8) ||| second.toUInt16)] =
      [first, second] := by
  have small := first.toNat_lt
  have small' := second.toNat_lt
  have value : ((first.toUInt16 <<< 8) ||| second.toUInt16).toNat = first.toNat * 256 + second.toNat := by
    rw [UInt16.toNat_or, ← Der.shift_octet]
    have above : (first.toUInt16 <<< 8).toNat = first.toNat <<< 8 := by
      simp only [UInt16.toNat_shiftLeft, UInt8.toNat_toUInt16, Nat.shiftLeft_eq]
      simp
      omega
    rw [above, UInt8.toNat_toUInt16]
  simp only [high, low, value]
  congr 1
  · apply UInt8.toNat_inj.mp
    rw [UInt8.toNat_ofNat']
    omega
  · congr 1
    apply UInt8.toNat_inj.mp
    rw [UInt8.toNat_ofNat']
    omega

theorem segments_be_units : ∀ {octets : Octets}, octets.length % 2 = 0 →
    (be_units octets).flatMap (fun segment => [high segment, low segment]) = octets
  | [], _ => rfl
  | [_], odd => by simp at odd
  | first :: second :: rest, even => by
    have shorter : rest.length % 2 = 0 := by
      simp only [List.length_cons] at even
      omega
    rw [be_units, List.flatMap_cons, segment_octets, segments_be_units shorter]
    rfl

theorem be_units_length (octets : Octets) : (be_units octets).length = octets.length / 2 := by
  induction octets using be_units.induct with
  | case1 first second rest ih =>
    rw [be_units, List.length_cons, ih, List.length_cons, List.length_cons]
    omega
  | case2 octets short =>
    cases octets with
    | nil => rfl
    | cons first rest =>
      cases rest with
      | nil => simp [be_units]
      | cons second rest => exact absurd rfl (short first second rest)

/-- An address is shown for its octets only. -/
theorem ip_address_inverse {octets : Octets} {text : Text} (read : ip_address octets = some text) :
    ∃ address, octets = address_octets address ∧ text = address.text := by
  unfold ip_address at read
  split at read
  · rename_i a b c d
    cases read
    exact ⟨.v4 a b c d, rfl, rfl⟩
  · split_ifs at read with sixteen
    cases read
    have eight : (be_units octets).length = 8 := by
      rw [be_units_length, sixteen]
    refine ⟨.v6 ⟨(be_units octets).toArray, by simpa using eight⟩, ?_, rfl⟩
    exact (segments_be_units (by rw [sixteen])).symm

/-- An entry in which nothing was replaced tells which general name it shows. -/
theorem stands_for_shown {name : UInt8 × Octets} {entry : Text × Text} (shows : entry ∈ shown name)
    (kept : '\uFFFD' ∉ entry.2) : stands_for entry = some name := by
  obtain ⟨tag, content⟩ := name
  have text (kind : Text) (same : entry = (kind, from_utf8_lossy content)) : utf8 entry.2 = content := by
    rw [same] at kept ⊢
    exact utf8_from_utf8_lossy kept
  simp only [shown] at shows
  split_ifs at shows with email dns uri ip
  · have same := List.mem_singleton.mp shows
    have octets := text _ same
    subst same email
    rw [stands_for, if_pos rfl, octets]
  · have same := List.mem_singleton.mp shows
    have octets := text _ same
    subst same dns
    rw [stands_for, if_neg (by decide), if_pos rfl, octets]
  · have same := List.mem_singleton.mp shows
    have octets := text _ same
    subst same uri
    rw [stands_for, if_neg (by decide), if_neg (by decide), if_pos rfl, octets]
  · obtain ⟨address, read, rfl⟩ := by simpa using shows
    subst ip
    obtain ⟨ip, rfl, rfl⟩ := ip_address_inverse read
    rw [stands_for, if_neg (by decide), if_neg (by decide), if_neg (by decide), if_pos rfl, parse_ip_text]
    rfl
  · cases shows

end SiphonHttp.X509

/-! ### What a script is given -/

namespace SiphonHttp.Tls
open Text

/-- `TlsInfo`, which `Request::tls` makes of the session. -/
structure TlsInfo where
  session : TlsSession

structure PeerCertificate where
  facts : PeerCertificateFacts

def TlsInfo.peer_certificates (info : TlsInfo) : List PeerCertificate := info.session.peer_certificates.map .mk

def TlsInfo.peer_certificate (info : TlsInfo) : Option PeerCertificate := info.session.peer_certificates.head?.map .mk

namespace PeerCertificate
variable (certificate : PeerCertificate)

def subject : Option Text := certificate.facts.names.map (·.subject)
def issuer : Option Text := certificate.facts.names.map (·.issuer)
def subject_alt_names : List (Text × Text) := (certificate.facts.names.map (·.subject_alt_names)).getD []
def fingerprint_sha256 : Text := certificate.facts.fingerprint_sha256
def der : Octets := certificate.facts.der

end PeerCertificate
end SiphonHttp.Tls

namespace SiphonHttp.Lifecycle
open Text Config Net Sockets Startup Tls Listening Runs
open LastGood (WasBuilt)

/-- `Request::tls`. -/
def Received.tls_info (received : Received) : Option TlsInfo := received.tls.map .mk

/-! ### Fingerprints -/

section
variable {rustls : Rustls} {system : System} {files now : FileSystem} {listening : List SocketAddr}
  {is_method : Text → Bool} {servers : List ServerEntry} {routes middlewares startups : List HandlerHandle}
  {started : Started BoundListener}

/-- The session of a handshake, read with the hash of the crypto provider. -/
def Hashed (rustls : Rustls) (session : TlsSession) : Prop :=
  ∃ sha256 connection, rustls.sha256 = some sha256 ∧ session = TlsSession.from_connection sha256 connection

theorem OwnSession.hashed {server : ServerEntry} {listener : Listener} (entry : OfEntry rustls server listener)
    {shaken : List rustls.Peer} {session : TlsSession} (own : OwnSession rustls shaken listener (some session)) :
    Hashed rustls session := by
  cases serving : listener.tls with
  | none =>
    rw [OwnSession, serving] at own
    cases own.2
  | some tls =>
    rw [OwnSession, serving] at own
    obtain ⟨peer, connection, -, -, same⟩ := own
    exact ⟨tls.sha256, connection, entry.hash tls serving, Option.some.inj same⟩

/-! ### What a script reads -/

/-- What a script reads of a certificate is written in it: the fingerprint is its
    hash, and the names, where it can be read, are its own. -/
structure AsEncoded (rustls : Rustls) (certificate : PeerCertificate) : Prop where
  fingerprint : ∃ sha256, rustls.sha256 = some sha256 ∧
    certificate.fingerprint_sha256 = (sha256 certificate.der).flatMap hex02
  names : certificate.subject = none ∧ certificate.issuer = none ∧ certificate.subject_alt_names = [] ∨
    ∃ issuer subject tail, X509.Encloses certificate.der issuer subject tail ∧
      (∃ name, X509.IsName issuer name ∧ certificate.issuer = some (X509.text_of name)) ∧
      (∃ name, X509.IsName subject name ∧ certificate.subject = some (X509.text_of name)) ∧
      X509.Shows tail certificate.subject_alt_names
  /-- An entry in which nothing was replaced is a name that the certificate is for. -/
  certified : ∀ entry ∈ certificate.subject_alt_names, '\uFFFD' ∉ entry.2 →
    ∃ name issuer subject tail extension names, X509.stands_for entry = some name ∧
      X509.Encloses certificate.der issuer subject tail ∧ X509.Extends tail extension ∧
      X509.IsAltNames extension names ∧ name ∈ names

theorem as_encoded {session : TlsSession} (hashed : Hashed rustls session) {certificate : PeerCertificate}
    (member : certificate ∈ (TlsInfo.mk session).peer_certificates) : AsEncoded rustls certificate := by
  obtain ⟨sha256, connection, provided, rfl⟩ := hashed
  obtain ⟨facts, inside, rfl⟩ := List.mem_map.mp member
  obtain ⟨der, -, rfl⟩ := List.mem_map.mp inside
  refine ⟨⟨sha256, provided, rfl⟩, ?_, ?_⟩
  · cases read : X509.names der with
    | none => exact Or.inl (by simp [PeerCertificate.subject, PeerCertificate.issuer, PeerCertificate.subject_alt_names])
    | some found =>
      obtain ⟨issuer, subject, tail, encloses, ⟨name, is_issuer, issuer_text⟩, ⟨name', is_subject, subject_text⟩,
        shows⟩ := X509.names_written read
      refine Or.inr ⟨issuer, subject, tail, encloses, ⟨name, is_issuer, ?_⟩, ⟨name', is_subject, ?_⟩, ?_⟩
      · simp [PeerCertificate.issuer, issuer_text]
      · simp [PeerCertificate.subject, subject_text]
      · simpa [PeerCertificate.subject_alt_names, read] using shows
  · intro entry listed kept
    cases read : X509.names der with
    | none => simp [PeerCertificate.subject_alt_names, read] at listed
    | some found =>
      simp only [PeerCertificate.subject_alt_names, read, Option.map_some, Option.getD_some] at listed
      obtain ⟨issuer, subject, tail, encloses, -, -, shows⟩ := X509.names_written read
      rcases shows with nothing | ⟨extension, names, extends_it, alt_names, entries⟩
      · rw [nothing] at listed
        cases listed
      · rw [entries] at listed
        obtain ⟨name, among, shows⟩ := List.mem_flatMap.mp listed
        exact ⟨name, issuer, subject, tail, extension, names, X509.stands_for_shown shows kept, encloses, extends_it,
          alt_names, among⟩

/-- In any run, whatever is reloaded meanwhile, what a script reads of the client's
    certificates is written in them, and they are of the request's own connection.
    On a listener with a `client_ca` they are the chain that verified against its
    roots, the client's own certificate first, and on any other there are none. -/
theorem every_client_as_certified (documented : rustls.Documented) {events : List (Event rustls.Peer)} {last : State}
    (starts : Startup.spawn_with is_method (bind_listener rustls files system listening) servers routes middlewares =
      .ok started)
    (ran : run (step rustls system) (spawned now started startups) events = some last) {received : Received}
    (member : received ∈ last.received) :
    ∃ server ∈ servers, Server.ArrivesOn server.toServerConfig received.request ∧
      (∃ listener, OfEntry rustls server listener ∧
        ArrivesThrough rustls system (spawned now started startups) events listener received) ∧
      (server.tls = none → received.tls_info = none) ∧
      ∀ settings ∈ server.tls, ∃ info, received.tls_info = some info ∧
        (∀ certificate ∈ info.peer_certificates, AsEncoded rustls certificate) ∧
        (settings.client_ca = none → info.peer_certificates = []) ∧
        (settings.client_ca ≠ none → ∃ config roots certificate others, WasBuilt rustls settings config ∧
          config.client_verifier = some roots ∧ info.peer_certificate = some certificate ∧
          info.peer_certificates = certificate :: others ∧
          rustls.verifies roots (certificate.der :: others.map PeerCertificate.der)) := by
  obtain ⟨server, inside, listener, entry, arrives⟩ := run_arrives starts ran member
  have identifies := arrives.session.identifies documented entry
  refine ⟨server, inside, arrives.arrives_on entry, ⟨listener, entry, arrives⟩, ?_, ?_⟩
  · intro plain
    rw [Received.tls_info, identifies.plain plain, Option.map_none]
  intro settings has_tls
  obtain ⟨session, there, verified, by_chain⟩ := identifies.session settings has_tls
  have own := arrives.session
  rw [there] at own
  refine ⟨⟨session⟩, by rw [Received.tls_info, there, Option.map_some], ?_, ?_, ?_⟩
  · exact fun _ among => as_encoded (own.hashed entry) among
  · intro none_demanded
    rw [none_demanded] at verified
    have none_there : session.peer_certificates = [] := by simpa [TlsSession.peer_verified] using verified
    rw [TlsInfo.peer_certificates, none_there, List.map_nil]
  · intro demanded
    obtain ⟨config, roots, chain, built, verifier, -, verifies, presented⟩ := by_chain demanded
    have some_demanded := Option.isSome_iff_ne_none.mpr demanded
    rw [some_demanded] at verified
    cases certificates : session.peer_certificates with
    | nil => simp [TlsSession.peer_verified, certificates] at verified
    | cons own others =>
      refine ⟨config, roots, ⟨own⟩, others.map .mk, built, verifier, ?_, ?_, ?_⟩
      · rw [TlsInfo.peer_certificate, certificates, List.head?_cons, Option.map_some]
      · rw [TlsInfo.peer_certificates, certificates, List.map_cons]
      · rw [← presented, certificates] at verifies
        simpa [PeerCertificate.der, Function.comp_def] using verifies

end

/-! A client with a certificate for `naf.example.com`. -/

def nafListener : BoundListener :=
  ⟨lit "192.0.2.1:8443", lit "internal", ⟨.v4 192 0 2 1, 8443, 0⟩,
    some (⟨some [X509.dnsCertificate.encode], [[1]], [1], [utf8 (lit "h2"), utf8 (lit "http/1.1")]⟩, fun _ => [],
      LastGood.mutualTls)⟩

def nafStarted : Startup.Started BoundListener := { greeting with bound := [nafListener] }

theorem naf_starts :
    Startup.spawn_with token
      (bind_listener LastGood.plain (LastGood.with_bundle 0 X509.dnsCertificate.encode) plainSystem []) [guardedEntry]
      [hello [lit "GET"] (some [lit "internal"])] [] = .ok nafStarted := by
  have bound : bind_listener LastGood.plain (LastGood.with_bundle 0 X509.dnsCertificate.encode) plainSystem []
      guardedEntry = .ok nafListener :=
    bind_listener_ok.mpr ⟨_, _, by decide +kernel, rfl, rfl, nofun, nofun, rfl⟩
  have bound_all : bind_all (bind_listener LastGood.plain (LastGood.with_bundle 0 X509.dnsCertificate.encode) plainSystem
      []) [guardedEntry] = ([nafListener], []) := by
    rw [bind_all, bound]
    rfl
  have read : read_routes token [hello [lit "GET"] (some [lit "internal"])] = nafStarted.routes := rfl
  exact spawn_with_ok.mpr ⟨read.symm, rfl, by decide +kernel, by rw [bound_all]; rfl, fun _ => by rw [bound_all]⟩

def nafShakes : List (Event LastGood.plain.Peer) :=
  [.serves 0 none, .accepts 0 ⟨.v4 198 51 100 7, 50000, 0⟩ none, .shakes 0 [X509.dnsCertificate.encode],
    .receives 0 getHello]

theorem naf_certified :
    ∃ last received info certificate, run (step LastGood.plain plainSystem)
        (spawned (LastGood.with_bundle 0 X509.dnsCertificate.encode) nafStarted []) nafShakes = some last ∧
      received ∈ last.received ∧ received.tls_info = some info ∧ info.peer_certificate = some certificate ∧
      certificate.subject_alt_names = [(lit "dns", lit "naf.example.com")] ∧ AsEncoded LastGood.plain certificate ∧
      (∃ listener, OwnSession LastGood.plain (handshakes received.connection nafShakes) listener received.tls) ∧
      ∃ roots others, LastGood.plain.verifies roots (certificate.der :: others) := by
  have shown : (((run (step LastGood.plain plainSystem)
      (spawned (LastGood.with_bundle 0 X509.dnsCertificate.encode) nafStarted []) nafShakes).bind
        fun last => last.received.head?).bind fun received => received.tls_info.bind TlsInfo.peer_certificate).map
          PeerCertificate.subject_alt_names = some [(lit "dns", lit "naf.example.com")] := by
    decide +kernel
  obtain ⟨certificate, read, entries⟩ := Option.map_eq_some_iff.mp shown
  obtain ⟨received, arrived, told⟩ := Option.bind_eq_some_iff.mp read
  obtain ⟨last, ran, first⟩ := Option.bind_eq_some_iff.mp arrived
  obtain ⟨info, tls, own⟩ := Option.bind_eq_some_iff.mp told
  have member := List.mem_of_head? first
  obtain ⟨server, inside, -, ⟨listener, -, arrives⟩, -, by_settings⟩ :=
    every_client_as_certified LastGood.plain_documented naf_starts ran member
  obtain rfl := List.mem_singleton.mp inside
  obtain ⟨other, same, encoded, -, verified⟩ := by_settings LastGood.mutualTls rfl
  obtain rfl := Option.some.inj (tls.symm.trans same)
  obtain ⟨config, roots, first_one, others, -, -, is_first, all, verifies⟩ := verified nofun
  obtain rfl := Option.some.inj (own.symm.trans is_first)
  exact ⟨last, received, info, certificate, ran, member, tls, own, entries,
    encoded certificate (all ▸ List.mem_cons_self ..), ⟨listener, arrives.session⟩, roots, _, verifies⟩

end SiphonHttp.Lifecycle
