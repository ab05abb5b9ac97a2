import SiphonHttp.LastGood

/-!
The TLS files of an outbound client: what `Client::pool` makes of their contents,
and what a disk holds under their paths. A pool is built from the octets that
were read and the settings alone, so two builds that read the same octets give
the same pool (`pool_agree`).
-/
namespace SiphonHttp.ClientFiles
open Text Config Outbound

/-! ### Building a client -/

/-- What reading the files gave, each of which may fail. -/
structure Contents where
  verify : Option Octets
  cert : Option Octets
  key : Option Octets
  deriving DecidableEq, Repr

/-- What the client builder of reqwest is given. -/
structure Builder (Certificate Identity : Type) where
  timeout_ms : Nat
  pool_max_idle_per_host : Nat
  root_certificates : List Certificate
  built_in_root_certs : Bool
  identity : Option Identity
  http2_prior_knowledge : Bool
  follow_redirects : Bool
  deriving DecidableEq, Repr

/-- reqwest, and the texts of the errors of the file system. -/
structure Reqwest (Client : Type) where
  Certificate : Type
  Identity : Type
  read_error : Text → Text
  from_pem_bundle : Octets → Except Text (List Certificate)
  from_pem : Octets → Except Text Identity
  build : Builder Certificate Identity → Except Text Client

section
variable {Client : Type} (reqwest : Reqwest Client)

/-- `std::fs::read`, with the text of its error. -/
def read (what path : Text) (content : Option Octets) : Except Text Octets :=
  match content with
  | some octets => .ok octets
  | none => .error (lit "read " ++ what ++ lit ": " ++ reqwest.read_error path)

/-- The certificates to trust, and whether the built-in roots are trusted too. -/
def trusting (verify : Option Text) (verify_only : Bool) (content : Option Octets) :
    Except Text (List reqwest.Certificate × Bool) :=
  match verify with
  | some path => do
    let pem ← read reqwest (lit "verify CA") path content
    match reqwest.from_pem_bundle pem with
    | .error error => .error (lit "parse verify CA: " ++ error)
    | .ok [] => .error (lit "verify CA: no certificate in " ++ path)
    | .ok certificates => .ok (certificates, !verify_only)
  | none => if verify_only then .error (lit "verify_only needs verify") else .ok ([], true)

def identity_from_paths (cert_path key_path : Text) (cert key : Option Octets) : Except Text reqwest.Identity := do
  let cert ← read reqwest (lit "cert " ++ cert_path) cert_path cert
  let key ← read reqwest (lit "key " ++ key_path) key_path key
  match reqwest.from_pem (cert ++ key) with
  | .error error => .error (lit "parse identity: " ++ error)
  | .ok identity => .ok identity

/-- The identity, when both of its files are given. -/
def identity (settings : ClientConfig) (contents : Contents) : Except Text (Option reqwest.Identity) :=
  match settings.cert, settings.key with
  | some cert_path, some key_path =>
    (identity_from_paths reqwest cert_path key_path contents.cert contents.key).map some
  | _, _ => .ok none

/-- `Client::pool`, from what reading the files gave. -/
def pool (settings : ClientConfig) (contents : Contents) : Except ClientError Client :=
  match trusting reqwest settings.verify settings.verify_only contents.verify with
  | .error reason => .error (.Configuration reason)
  | .ok (root_certificates, built_in_root_certs) =>
    match identity reqwest settings contents with
    | .error reason => .error (.Configuration reason)
    | .ok identity =>
      match reqwest.build {
        timeout_ms := settings.timeout_ms
        pool_max_idle_per_host := settings.pool_size
        root_certificates := root_certificates
        built_in_root_certs := built_in_root_certs
        identity := identity
        http2_prior_knowledge := settings.http2_prior_knowledge
        follow_redirects := settings.follow_redirects } with
      | .error error => .error (.Configuration (lit "build reqwest client: " ++ error))
      | .ok client => .ok client

/-- What reading the files of a client gives. -/
def contents (settings : ClientConfig) (files : FileSystem) : Contents :=
  let content (path : Option Text) := path.bind fun path => (files path).bind File.content
  ⟨content settings.verify, content settings.cert, content settings.key⟩

/-- The pool of the files as they are, if they load. -/
def load (settings : ClientConfig) (files : FileSystem) : Option Client :=
  (pool reqwest settings (contents settings files)).toOption

end

/-! ### Disks -/

/-- A file on disk; its octets stay when it may not be read. -/
structure Stored where
  modified : Option Nat
  octets : Octets
  readable : Bool
  deriving DecidableEq, Repr

abbrev Disk := Text → Option Stored

def Stored.file (stored : Stored) : File := ⟨stored.modified, if stored.readable then some stored.octets else none⟩

/-- What looking at the disk and reading from it gives. -/
def Disk.files (disk : Disk) : FileSystem := fun path => (disk path).map Stored.file

def Disk.octets (disk : Disk) (path : Text) : Option Octets := (disk path).map Stored.octets
def Disk.modified (disk : Disk) (path : Text) : Option Nat := (disk path).bind Stored.modified

/-- The files that the settings name. -/
def paths (settings : ClientConfig) : List Text := [settings.verify, settings.cert, settings.key].reduceOption

/-- The files hold the same octets, whether they may be read or not. -/
def Alike (settings : ClientConfig) (before after : Disk) : Prop :=
  ∀ path ∈ paths settings, before.octets path = after.octets path

/-- A file with other octets has another modification time. -/
def Stamped (settings : ClientConfig) (before after : Disk) : Prop :=
  ∀ path ∈ paths settings, before.octets path ≠ after.octets path → before.modified path ≠ after.modified path

instance (settings : ClientConfig) (before after : Disk) : Decidable (Stamped settings before after) :=
  inferInstanceAs (Decidable (∀ path ∈ paths settings, _))

/-! ### Builds that read the same -/

section
variable {Client : Type} {reqwest : Reqwest Client}

/-- Where both could be read, both are the same. -/
def Agree (first second : Option Octets) : Prop := ∀ octets ∈ first, ∀ octets' ∈ second, octets = octets'

theorem read_agree {what path : Text} {first second : Option Octets} (agree : Agree first second) {pem pem' : Octets}
    (one : read reqwest what path first = .ok pem) (other : read reqwest what path second = .ok pem') : pem = pem' := by
  cases first with
  | none => cases one
  | some octets =>
    cases second with
    | none => cases other
    | some octets' =>
      cases one
      cases other
      exact agree _ rfl _ rfl

theorem trusting_agree {verify : Option Text} {verify_only : Bool} {first second : Option Octets}
    (agree : Agree first second) {trusted trusted' : List reqwest.Certificate × Bool}
    (one : trusting reqwest verify verify_only first = .ok trusted)
    (other : trusting reqwest verify verify_only second = .ok trusted') : trusted = trusted' := by
  cases verify with
  | none => exact Except.ok.inj (one.symm.trans other)
  | some path =>
    obtain ⟨pem, read, parsed⟩ := Tls.bind_ok.mp one
    obtain ⟨pem', read', parsed'⟩ := Tls.bind_ok.mp other
    rw [read_agree agree read read'] at parsed
    exact Except.ok.inj (parsed.symm.trans parsed')

theorem identity_from_paths_agree {cert_path key_path : Text} {cert cert' key key' : Option Octets}
    (certs : Agree cert cert') (keys : Agree key key') {made made' : reqwest.Identity}
    (one : identity_from_paths reqwest cert_path key_path cert key = .ok made)
    (other : identity_from_paths reqwest cert_path key_path cert' key' = .ok made') : made = made' := by
  obtain ⟨chain, read_cert, rest⟩ := Tls.bind_ok.mp one
  obtain ⟨chain', read_cert', rest'⟩ := Tls.bind_ok.mp other
  obtain ⟨secret, read_key, parsed⟩ := Tls.bind_ok.mp rest
  obtain ⟨secret', read_key', parsed'⟩ := Tls.bind_ok.mp rest'
  rw [read_agree certs read_cert read_cert', read_agree keys read_key read_key'] at parsed
  exact Except.ok.inj (parsed.symm.trans parsed')

theorem map_some_ok {Error Value : Type} {attempt : Except Error Value} {found : Option Value}
    (done : attempt.map some = .ok found) : ∃ value, attempt = .ok value ∧ found = some value := by
  cases attempt with
  | error error => cases done
  | ok value => exact ⟨value, rfl, (Except.ok.inj done).symm⟩

theorem identity_agree {settings : ClientConfig} {first second : Contents} (certs : Agree first.cert second.cert)
    (keys : Agree first.key second.key) {found found' : Option reqwest.Identity}
    (one : identity reqwest settings first = .ok found) (other : identity reqwest settings second = .ok found') :
    found = found' := by
  unfold identity at one other
  cases cert_given : settings.cert with
  | none =>
    simp only [cert_given] at one other
    exact Except.ok.inj (one.symm.trans other)
  | some cert_path =>
    cases key_given : settings.key with
    | none =>
      simp only [cert_given, key_given] at one other
      exact Except.ok.inj (one.symm.trans other)
    | some key_path =>
      simp only [cert_given, key_given] at one other
      obtain ⟨made, builds, rfl⟩ := map_some_ok one
      obtain ⟨made', builds', rfl⟩ := map_some_ok other
      rw [identity_from_paths_agree certs keys builds builds']

/-- What a build that succeeds goes through. -/
theorem pool_ok {settings : ClientConfig} {contents : Contents} {client : Client}
    (built : pool reqwest settings contents = .ok client) :
    ∃ trusted identified, trusting reqwest settings.verify settings.verify_only contents.verify = .ok trusted ∧
      identity reqwest settings contents = .ok identified ∧
      reqwest.build ⟨settings.timeout_ms, settings.pool_size, trusted.1, trusted.2, identified,
        settings.http2_prior_knowledge, settings.follow_redirects⟩ = .ok client := by
  unfold pool at built
  split at built
  · cases built
  · rename_i trusts
    split at built
    · cases built
    · rename_i identifies
      split at built
      · cases built
      · rename_i builds
        cases built
        exact ⟨_, _, trusts, identifies, builds⟩

/-- Builds that read the same octets give the same pool. -/
theorem pool_agree {settings : ClientConfig} {first second : Contents} (verify : Agree first.verify second.verify)
    (cert : Agree first.cert second.cert) (key : Agree first.key second.key) {client client' : Client}
    (one : pool reqwest settings first = .ok client) (other : pool reqwest settings second = .ok client') :
    client = client' := by
  obtain ⟨trusted, identified, trusts, identifies, builds⟩ := pool_ok one
  obtain ⟨trusted', identified', trusts', identifies', builds'⟩ := pool_ok other
  obtain rfl := trusting_agree verify trusts trusts'
  obtain rfl := identity_agree cert key identifies identifies'
  exact Except.ok.inj (builds.symm.trans builds')

theorem load_eq_some {settings : ClientConfig} {files : FileSystem} {client : Client} :
    load reqwest settings files = some client ↔ pool reqwest settings (contents settings files) = .ok client := by
  unfold load
  cases pool reqwest settings (contents settings files) <;> simp [Except.toOption]

/-- What two disks with the same octets give of a file. -/
theorem agree_of_alike {settings : ClientConfig} {before after : Disk} (alike : Alike settings before after)
    {path : Option Text} (named : path ∈ [settings.verify, settings.cert, settings.key]) :
    Agree (path.bind fun path => (before.files path).bind File.content)
      (path.bind fun path => (after.files path).bind File.content) := by
  cases path with
  | none => exact nofun
  | some path =>
    have same := alike path (List.reduceOption_mem_iff.mpr named)
    unfold Disk.octets at same
    intro octets read octets' read'
    cases here : before path with
    | none => simp [Disk.files, here] at read
    | some stored =>
      cases there : after path with
      | none => simp [Disk.files, there] at read'
      | some stored' =>
        rw [here, there] at same
        have equal : stored.octets = stored'.octets := Option.some.inj same
        obtain ⟨-, rfl⟩ : stored.readable = true ∧ stored.octets = octets := by
          simpa [Disk.files, here, Stored.file] using read
        obtain ⟨-, rfl⟩ : stored'.readable = true ∧ stored'.octets = octets' := by
          simpa [Disk.files, there, Stored.file] using read'
        exact equal

/-- Disks with the same octets, if both load, load the same pool. -/
theorem load_alike {settings : ClientConfig} {before after : Disk} (alike : Alike settings before after)
    {client client' : Client} (one : load reqwest settings before.files = some client)
    (other : load reqwest settings after.files = some client') : client = client' :=
  pool_agree (agree_of_alike alike (by simp)) (agree_of_alike alike (by simp)) (agree_of_alike alike (by simp))
    (load_eq_some.mp one) (load_eq_some.mp other)

/-- The stamps tell disks apart that do not hold the same. -/
theorem alike_of_stamps {settings : ClientConfig} {before after : Disk} (stamped : Stamped settings before after)
    (same : PoolReload.stamps settings before.files = PoolReload.stamps settings after.files) :
    Alike settings before after := by
  intro path named
  by_contra differ
  refine stamped path named differ ?_
  have looked (disk : Disk) : (disk.files path).bind File.modified = disk.modified path := by
    cases stored : disk path <;> simp [Disk.files, Disk.modified, Stored.file, stored]
  have listed : some path ∈ [settings.verify, settings.cert, settings.key] := List.reduceOption_mem_iff.mp named
  rw [PoolReload.stamps, PoolReload.stamps, modification_times, modification_times] at same
  have each := List.map_inj_left.mp same (some path) listed
  simpa [looked] using each

/-- What a call of `Pool::client` leaves when the period is over. -/
theorem client_elapsed {settings : ClientConfig} {pool : Pool Client} {period looked now : Nat}
    {recorded : List (Option Nat)} (reloads : pool.reload = some ⟨settings, period, (looked, recorded)⟩)
    (elapsed : period ≤ now - looked) (files : FileSystem) :
    (LastGood.client (load reqwest) pool ⟨now, files, files⟩).1 =
      ⟨if PoolReload.stamps settings files = recorded then pool.current
        else (load reqwest settings files).getD pool.current,
        some ⟨settings, period, (now, PoolReload.stamps settings files)⟩⟩ := by
  rw [LastGood.client_elapsed reloads elapsed]

end

/-! ### A reqwest to run -/

/-- A reqwest that takes the octets of a file for one certificate, and a client
    for what it is built with. -/
def transparent : Reqwest (Builder Octets Octets) where
  Certificate := Octets
  Identity := Octets
  read_error _ := lit "Permission denied (os error 13)"
  from_pem_bundle octets := .ok [octets]
  from_pem octets := .ok octets
  build := .ok

/-- The client of `PoolReload.verifying` that trusts a version of the bundle. -/
def trusts (version : Nat) : Builder Octets Octets :=
  ⟨5000, 8, [[UInt8.ofNat version]], true, none, false, true⟩

end SiphonHttp.ClientFiles
