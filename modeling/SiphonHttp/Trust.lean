import SiphonHttp.ClientFiles

/-!
Whom a client trusts and what it presents itself with, by the two ways of making
one: `Client::pool` from an entry of the configuration, and `http.Client(…)` of a
script. A client that an inline call makes is as strong as it was asked to be; a
pool is, unless just one of `cert` and `key` is set, which is left out without a
word (`pool_not_weaker_iff`).
-/
namespace SiphonHttp.ClientFiles
open Text Config Outbound

/-! ### The inline constructor -/

/-- What a script gives as `cert`. -/
inductive CertArgument
  | pair (cert_path key_path : Text)
  | path (path : Text)
  /-- Neither a tuple of two strings nor a string. -/
  | other
  deriving DecidableEq, Repr

/-- The arguments of `http.Client`. -/
structure Arguments where
  name : Option Text := none
  base_url : Option Text := none
  verify : Option Text := none
  cert : Option CertArgument := none
  timeout_ms : Option Nat := none
  http2_prior_knowledge : Bool := false
  verify_only : Bool := false
  follow_redirects : Bool := true
  deriving DecidableEq, Repr

/-- The exceptions that the constructor raises. -/
inductive Raised
  | PyRuntimeError (message : Text)
  | PyTypeError (message : Text)
  deriving DecidableEq, Repr

/-- What a call of the constructor comes to: the shared pool of a name, or a pool
    of its own. -/
inductive Constructed (Client : Type)
  | from_named (name : Text)
  | from_parts (inner : Client) (base_url : Option Text)

/-- reqwest's own bound on idle connections, when none is set: `usize::MAX`. -/
def usize_max : Nat := 2 ^ 64 - 1

section
variable {Client : Type} (reqwest : Reqwest Client)

def content (files : FileSystem) (path : Text) : Option Octets := (files path).bind File.content

def build_identity (files : FileSystem) : CertArgument → Except Raised reqwest.Identity
  | .pair cert_path key_path =>
    (identity_from_paths reqwest cert_path key_path (content files cert_path) (content files key_path)).mapError
      .PyRuntimeError
  | .path path =>
    match read reqwest (lit "cert " ++ path) path (content files path) with
    | .error error => .error (.PyRuntimeError error)
    | .ok pem =>
      match reqwest.from_pem pem with
      | .error error => .error (.PyRuntimeError (lit "parse identity: " ++ error))
      | .ok identity => .ok identity
  | .other => .error (.PyTypeError (lit "cert= must be a path string or a (cert_path, key_path) tuple"))

/-- `Client::new`. -/
def new (arguments : Arguments) (files : FileSystem) : Except Raised (Constructed Client) :=
  match arguments.name with
  | some name => .ok (.from_named name)
  | none =>
    match trusting reqwest arguments.verify arguments.verify_only (arguments.verify.bind (content files)) with
    | .error reason => .error (.PyRuntimeError reason)
    | .ok (root_certificates, built_in_root_certs) =>
      match arguments.cert.mapM (build_identity reqwest files) with
      | .error raised => .error raised
      | .ok identity =>
        match reqwest.build {
          timeout_ms := arguments.timeout_ms.getD 5000
          pool_max_idle_per_host := usize_max
          root_certificates := root_certificates
          built_in_root_certs := built_in_root_certs
          identity := identity
          http2_prior_knowledge := arguments.http2_prior_knowledge
          follow_redirects := arguments.follow_redirects } with
        | .error error => .error (.PyRuntimeError (lit "build reqwest client: " ++ error))
        | .ok client => .ok (.from_parts client arguments.base_url)

end

/-! ### What a client does -/

/-- The trust and the identity of reqwest's clients, which are those that their
    builder was given. -/
structure Behaviour {Client : Type} (reqwest : Reqwest Client) where
  root_certificates : Client → List reqwest.Certificate
  built_in_root_certs : Client → Bool
  identity : Client → Option reqwest.Identity
  built : ∀ {builder client}, reqwest.build builder = .ok client →
    root_certificates client = builder.root_certificates ∧ built_in_root_certs client = builder.built_in_root_certs ∧
      identity client = builder.identity

section
variable {Client : Type} {reqwest : Reqwest Client} (behaviour : Behaviour reqwest)

/-- The certificates of a bundle, if it is one. -/
def bundle (reqwest : Reqwest Client) (pem : Option Octets) : List reqwest.Certificate :=
  (pem.bind fun pem => (reqwest.from_pem_bundle pem).toOption).getD []

/-- The client trusts every certificate of the bundle it is to trust, no
    built-in root if it is to trust the bundle only, and it has an identity if
    one was asked for. -/
structure NotWeaker (verify : Option Text) (pem : Option Octets) (verify_only identified : Bool) (client : Client) :
    Prop where
  trusts : verify.isSome = true → bundle reqwest pem ≠ [] ∧
    ∀ certificate ∈ bundle reqwest pem, certificate ∈ behaviour.root_certificates client
  trusts_only : verify_only = true → behaviour.built_in_root_certs client = false
  identifies : identified = true → (behaviour.identity client).isSome = true

/-- The clients trust the same and present the same. -/
def SameStrength (client other : Client) : Prop :=
  behaviour.root_certificates client = behaviour.root_certificates other ∧
    behaviour.built_in_root_certs client = behaviour.built_in_root_certs other ∧
    behaviour.identity client = behaviour.identity other

/-- The inline arguments that say of trust and identity what an entry says: with
    a `cert` alone, that it holds the key as well. -/
structure Equal (settings : ClientConfig) (arguments : Arguments) : Prop where
  verify : arguments.verify = settings.verify
  verify_only : arguments.verify_only = settings.verify_only
  cert : arguments.cert = settings.cert.map fun cert =>
    match settings.key with
    | some key => .pair cert key
    | none => .path cert

/-- With these files no client is weaker than it was asked to be, whichever way
    it is made, and both ways make equal ones. -/
structure Strong (settings : ClientConfig) (files : FileSystem) : Prop where
  pool : ∀ client, pool reqwest settings (contents settings files) = .ok client →
    NotWeaker behaviour settings.verify (contents settings files).verify settings.verify_only
      (settings.cert.isSome || settings.key.isSome) client
  refused : ∀ error, ClientFiles.pool reqwest settings (contents settings files) = .error error →
    ∃ reason, error = .Configuration reason
  inline : ∀ arguments client base_url, new reqwest arguments files = .ok (.from_parts client base_url) →
    NotWeaker behaviour arguments.verify (arguments.verify.bind (content files)) arguments.verify_only
      arguments.cert.isSome client
  equal : ∀ arguments client other base_url, Equal settings arguments →
    ClientFiles.pool reqwest settings (contents settings files) = .ok client →
    new reqwest arguments files = .ok (.from_parts other base_url) → SameStrength behaviour client other

/-- Without an identity the settings make a client. -/
def MakesPlain (reqwest : Reqwest Client) (settings : ClientConfig) (files : FileSystem) : Prop :=
  ∃ trusted client,
    trusting reqwest settings.verify settings.verify_only (contents settings files).verify = .ok trusted ∧
      reqwest.build ⟨settings.timeout_ms, settings.pool_size, trusted.1, trusted.2, none,
        settings.http2_prior_knowledge, settings.follow_redirects⟩ = .ok client

/-! ### Either way -/

variable {behaviour}

theorem trusting_ok {verify : Option Text} {verify_only : Bool} {pem : Option Octets}
    {trusted : List reqwest.Certificate × Bool} (trusts : trusting reqwest verify verify_only pem = .ok trusted) :
    (verify.isSome = true → bundle reqwest pem ≠ [] ∧ trusted.1 = bundle reqwest pem) ∧
      (verify_only = true → trusted.2 = false) := by
  cases verify with
  | none =>
    cases verify_only with
    | true => cases trusts
    | false => exact ⟨nofun, nofun⟩
  | some path =>
    obtain ⟨octets, found, parsed⟩ := Tls.bind_ok.mp trusts
    cases pem with
    | none => cases found
    | some pem =>
      obtain rfl := Except.ok.inj found
      cases certificates : reqwest.from_pem_bundle pem with
      | error error =>
        rw [certificates] at parsed
        cases parsed
      | ok listed =>
        rw [certificates] at parsed
        cases listed with
        | nil => cases parsed
        | cons first rest =>
          cases parsed
          have same : bundle reqwest (some pem) = first :: rest := by
            simp [bundle, certificates, Except.toOption]
          exact ⟨fun _ => ⟨by simp [same], same.symm⟩, fun only => by simp [only]⟩

/-- A client that is built with what is to be trusted and with an identity where
    one is asked for is not weaker than that. -/
theorem notWeaker_of_built {verify : Option Text} {verify_only identified : Bool} {pem : Option Octets}
    {trusted : List reqwest.Certificate × Bool} (trusts : trusting reqwest verify verify_only pem = .ok trusted)
    {builder : Builder reqwest.Certificate reqwest.Identity} (roots : builder.root_certificates = trusted.1)
    (built_in : builder.built_in_root_certs = trusted.2) (identity : identified = true → builder.identity.isSome = true)
    {client : Client} (builds : reqwest.build builder = .ok client) :
    NotWeaker behaviour verify pem verify_only identified client := by
  obtain ⟨client_roots, client_built_in, client_identity⟩ := behaviour.built builds
  obtain ⟨bundled, only⟩ := trusting_ok trusts
  refine ⟨?_, ?_, ?_⟩
  · intro given
    obtain ⟨some, same⟩ := bundled given
    refine ⟨some, fun certificate member => ?_⟩
    rw [client_roots, roots, same]
    exact member
  · intro given
    rw [client_built_in, built_in, only given]
  · intro given
    rw [client_identity]
    exact identity given

/-- What an inline call that succeeds goes through. -/
theorem new_ok {arguments : Arguments} {files : FileSystem} {client : Client} {base_url : Option Text}
    (made : new reqwest arguments files = .ok (.from_parts client base_url)) :
    ∃ trusted identified,
      trusting reqwest arguments.verify arguments.verify_only (arguments.verify.bind (content files)) = .ok trusted ∧
      arguments.cert.mapM (build_identity reqwest files) = .ok identified ∧
      reqwest.build ⟨arguments.timeout_ms.getD 5000, usize_max, trusted.1, trusted.2, identified,
        arguments.http2_prior_knowledge, arguments.follow_redirects⟩ = .ok client := by
  unfold new at made
  split at made
  · cases made
  · split at made
    · cases made
    · rename_i trusts
      split at made
      · cases made
      · rename_i identifies
        split at made
        · cases made
        · rename_i builds
          cases made
          exact ⟨_, _, trusts, identifies, builds⟩

theorem mapM_ok {Given Made : Type} {attempt : Given → Except Raised Made} {given : Option Given} {made : Option Made}
    (done : given.mapM attempt = .ok made) :
    (given = none ∧ made = none) ∨
      ∃ argument value, given = some argument ∧ attempt argument = .ok value ∧ made = some value := by
  cases given with
  | none => exact Or.inl ⟨rfl, (Except.ok.inj done).symm⟩
  | some argument =>
    obtain ⟨value, found, rfl⟩ := map_some_ok (show (attempt argument).map some = .ok made from done)
    exact Or.inr ⟨argument, value, rfl, found, rfl⟩

theorem build_identity_pair {files : FileSystem} {cert_path key_path : Text} {made : reqwest.Identity}
    (builds : build_identity reqwest files (.pair cert_path key_path) = .ok made) :
    identity_from_paths reqwest cert_path key_path (content files cert_path) (content files key_path) = .ok made := by
  rw [build_identity] at builds
  cases found : identity_from_paths reqwest cert_path key_path (content files cert_path) (content files key_path) with
  | error error =>
    rw [found] at builds
    cases builds
  | ok identity =>
    rw [found] at builds
    exact congrArg Except.ok (Except.ok.inj builds)

/-- A pool has an identity exactly when both of its files are set. -/
theorem identity_isSome {settings : ClientConfig} {contents : Contents} {identified : Option reqwest.Identity}
    (found : identity reqwest settings contents = .ok identified) :
    identified.isSome = (settings.cert.isSome && settings.key.isSome) := by
  unfold identity at found
  cases cert_given : settings.cert with
  | none =>
    simp only [cert_given] at found
    cases found
    rfl
  | some cert_path =>
    cases key_given : settings.key with
    | none =>
      simp only [cert_given, key_given] at found
      cases found
      rfl
    | some key_path =>
      simp only [cert_given, key_given] at found
      obtain ⟨made, -, rfl⟩ := map_some_ok found
      rfl

theorem pool_refused {settings : ClientConfig} {contents : Contents} {error : ClientError}
    (refused : pool reqwest settings contents = .error error) : ∃ reason, error = .Configuration reason := by
  unfold pool at refused
  split at refused
  · exact ⟨_, (Except.error.inj refused).symm⟩
  · split at refused
    · exact ⟨_, (Except.error.inj refused).symm⟩
    · split at refused
      · exact ⟨_, (Except.error.inj refused).symm⟩
      · cases refused

theorem new_not_weaker {arguments : Arguments} {files : FileSystem} {client : Client} {base_url : Option Text}
    (made : new reqwest arguments files = .ok (.from_parts client base_url)) :
    NotWeaker behaviour arguments.verify (arguments.verify.bind (content files)) arguments.verify_only
      arguments.cert.isSome client := by
  obtain ⟨trusted, identified, trusts, identifies, builds⟩ := new_ok made
  refine notWeaker_of_built trusts rfl rfl (fun given => ?_) builds
  rcases mapM_ok identifies with ⟨absent, -⟩ | ⟨argument, value, -, -, present⟩
  · rw [absent] at given
    cases given
  · simp [present]

theorem pool_not_weaker {settings : ClientConfig} {contents : Contents} {client : Client}
    (paired : settings.cert.isSome = settings.key.isSome) (built : pool reqwest settings contents = .ok client) :
    NotWeaker behaviour settings.verify contents.verify settings.verify_only
      (settings.cert.isSome || settings.key.isSome) client := by
  obtain ⟨trusted, identified, trusts, identifies, builds⟩ := pool_ok built
  refine notWeaker_of_built trusts rfl rfl (fun given => ?_) builds
  rw [identity_isSome identifies]
  rw [paired, Bool.or_self] at given
  rw [paired, Bool.and_self, given]

/-- Where `cert` and `key` come together, both ways load the same identity. -/
theorem identities_agree {settings : ClientConfig} {arguments : Arguments} {files : FileSystem}
    (paired : settings.cert.isSome = settings.key.isSome) (equal : Equal settings arguments)
    {identified identified' : Option reqwest.Identity}
    (one : identity reqwest settings (contents settings files) = .ok identified)
    (other : arguments.cert.mapM (build_identity reqwest files) = .ok identified') : identified = identified' := by
  have given := equal.cert
  unfold identity at one
  cases cert_given : settings.cert with
  | none =>
    simp only [cert_given] at one
    cases one
    rcases mapM_ok other with ⟨-, absent⟩ | ⟨argument, value, present, -, -⟩
    · exact absent.symm
    · rw [given, cert_given] at present
      cases present
  | some cert_path =>
    obtain ⟨key_path, key_given⟩ : ∃ key_path, settings.key = some key_path := by
      rw [← Option.isSome_iff_exists, ← paired, cert_given, Option.isSome_some]
    rw [cert_given, key_given] at given one
    obtain ⟨made, loads, rfl⟩ := map_some_ok one
    rw [given] at other
    rcases mapM_ok other with ⟨absent, -⟩ | ⟨argument, made', present, loads', rfl⟩
    · cases absent
    · obtain rfl := Option.some.inj present
      have files_read : identity_from_paths reqwest cert_path key_path (content files cert_path)
          (content files key_path) = .ok made := by
        rw [← loads, contents, cert_given, key_given]
        rfl
      rw [build_identity_pair loads'] at files_read
      exact congrArg some (Except.ok.inj files_read).symm

/-- Where `cert` and `key` come together, both ways make equal clients. -/
theorem constructors_agree {settings : ClientConfig} {arguments : Arguments} {files : FileSystem}
    (paired : settings.cert.isSome = settings.key.isSome) (equal : Equal settings arguments) {client other : Client}
    {base_url : Option Text} (built : pool reqwest settings (contents settings files) = .ok client)
    (made : new reqwest arguments files = .ok (.from_parts other base_url)) : SameStrength behaviour client other := by
  obtain ⟨trusted, identified, trusts, identifies, builds⟩ := pool_ok built
  obtain ⟨trusted', identified', trusts', identifies', builds'⟩ := new_ok made
  have same_trust : trusted = trusted' := by
    rw [equal.verify, equal.verify_only] at trusts'
    exact Except.ok.inj (trusts.symm.trans trusts')
  have same_identity := identities_agree paired equal identifies identifies'
  obtain ⟨roots, built_in, presented⟩ := behaviour.built builds
  obtain ⟨roots', built_in', presented'⟩ := behaviour.built builds'
  refine ⟨?_, ?_, ?_⟩
  · rw [roots, roots', same_trust]
  · rw [built_in, built_in', same_trust]
  · rw [presented, presented', same_identity]

/-- One of `cert` and `key` alone is no identity. -/
theorem identity_unpaired {settings : ClientConfig} (unpaired : settings.cert.isSome ≠ settings.key.isSome)
    (contents : Contents) : identity reqwest settings contents = .ok none := by
  unfold identity
  cases cert_given : settings.cert with
  | none => rfl
  | some cert_path =>
    cases key_given : settings.key with
    | none => rfl
    | some key_path => simp [cert_given, key_given] at unpaired

theorem pool_unpaired {settings : ClientConfig} {contents : Contents} {client : Client}
    (unpaired : settings.cert.isSome ≠ settings.key.isSome) (built : pool reqwest settings contents = .ok client) :
    behaviour.identity client = none := by
  obtain ⟨trusted, identified, -, identifies, builds⟩ := pool_ok built
  rw [identity_unpaired unpaired] at identifies
  cases identifies
  exact (behaviour.built builds).2.2

theorem pool_plain {settings : ClientConfig} {files : FileSystem}
    (unpaired : settings.cert.isSome ≠ settings.key.isSome) :
    (∃ client, pool reqwest settings (contents settings files) = .ok client) ↔ MakesPlain reqwest settings files := by
  constructor
  · rintro ⟨client, built⟩
    obtain ⟨trusted, identified, trusts, identifies, builds⟩ := pool_ok built
    rw [identity_unpaired unpaired] at identifies
    cases identifies
    exact ⟨trusted, client, trusts, builds⟩
  · rintro ⟨trusted, client, trusts, builds⟩
    refine ⟨client, ?_⟩
    unfold pool
    rw [trusts, identity_unpaired unpaired]
    simp only [builds]

variable (behaviour) in
/-- No client is weaker than configured, and both constructors make equal ones,
    exactly when `cert` and `key` are set together or not at all, or when the
    settings without them make no client anyway. -/
theorem pool_not_weaker_iff (settings : ClientConfig) (files : FileSystem) :
    Strong behaviour settings files ↔
      settings.cert.isSome = settings.key.isSome ∨ ¬MakesPlain reqwest settings files := by
  constructor
  · intro strong
    by_cases paired : settings.cert.isSome = settings.key.isSome
    · exact Or.inl paired
    · right
      intro plain
      obtain ⟨client, built⟩ := (pool_plain paired).mpr plain
      have asked : (settings.cert.isSome || settings.key.isSome) = true := by
        cases cert : settings.cert.isSome <;> cases key : settings.key.isSome <;> simp_all
      have identified := (strong.pool client built).identifies asked
      rw [pool_unpaired paired built] at identified
      cases identified
  · intro met
    have paired : ∀ client, pool reqwest settings (contents settings files) = .ok client →
        settings.cert.isSome = settings.key.isSome := by
      intro client built
      rcases met with paired | no_client
      · exact paired
      · by_contra unpaired
        exact no_client ((pool_plain unpaired).mp ⟨client, built⟩)
    refine ⟨?_, fun _ => pool_refused, fun _ _ _ => new_not_weaker, ?_⟩
    · intro client built
      exact pool_not_weaker (paired client built) built
    · intro arguments client other base_url equal built made
      exact constructors_agree (paired client built) equal built made

end

/-! An entry with a combined PEM, as an inline call takes it too. -/

def transparentBehaviour : Behaviour transparent where
  root_certificates := Builder.root_certificates
  built_in_root_certs := Builder.built_in_root_certs
  identity := Builder.identity
  built := by
    intro builder client builds
    cases builds
    exact ⟨rfl, rfl, rfl⟩

def combined : ClientConfig := { cert := some (lit "client.pem") }

def combinedFile : FileSystem := fun path => if path = lit "client.pem" then some ⟨some 1, some [1, 2]⟩ else none

/-- The pool has no identity, the inline client has it. -/
theorem combined_ignored :
    ¬Strong transparentBehaviour combined combinedFile ∧
      (∃ client, pool transparent combined (contents combined combinedFile) = .ok client ∧
        transparentBehaviour.identity client = none) ∧
      ∃ client, new transparent { cert := some (.path (lit "client.pem")) } combinedFile =
          .ok (.from_parts client none) ∧
        transparentBehaviour.identity client = some [1, 2] := by
  refine ⟨?_, ⟨_, rfl, rfl⟩, ⟨_, rfl, rfl⟩⟩
  intro strong
  have identified := (strong.pool _ rfl).identifies rfl
  cases identified

/-- The same file with its key, behind a bundle of its own. -/
def separate : ClientConfig :=
  { verify := some (lit "ca.pem"), cert := some (lit "client.pem"), key := some (lit "client.key") }

def separateFiles : FileSystem := fun path =>
  if path = lit "client.pem" then some ⟨some 1, some [1, 2]⟩
  else if path = lit "client.key" then some ⟨some 1, some [3]⟩
  else if path = lit "ca.pem" then some ⟨some 1, some [4]⟩
  else none

/-- Set together, they are an identity whichever way the client is made. -/
theorem separate_strong :
    Strong transparentBehaviour separate separateFiles ∧
      (pool transparent separate (contents separate separateFiles)).toOption.bind Builder.identity =
        some [1, 2, 3] := by
  have paired : separate.cert.isSome = separate.key.isSome := by decide
  exact ⟨(pool_not_weaker_iff transparentBehaviour separate separateFiles).mpr (Or.inl paired), by decide +kernel⟩

end SiphonHttp.ClientFiles
