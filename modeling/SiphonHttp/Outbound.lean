import SiphonHttp.Memo
import SiphonHttp.PoolReload

/-!
The named pools of `outbound.rs`. A pool is built the first time its name is
asked for, under the lock of the registry, and handed out again to every caller
that asks with the same settings (`registry_serves`).
-/
namespace SiphonHttp.Outbound
open Text Config Memo

/-! ### Pools and clients -/

inductive ClientError
  | UnknownClient (name : Text)
  | Conflict (name : Text)
  | Configuration (reason : Text)
  deriving DecidableEq, Repr

/-- When to look at the files of a pool again, and what was seen last. -/
structure Reload where
  settings : ClientConfig
  period : Nat
  seen : Nat × List (Option Nat)
  deriving DecidableEq, Repr

structure Pool (Client : Type) where
  current : Client
  reload : Option Reload
  deriving DecidableEq, Repr

/-- `inner` is which of the pools that were built it shares. -/
structure HttpClient where
  inner : Nat
  base_url : Option Text
  deriving DecidableEq, Repr

/-- A pool that was built, with the name and the settings it was built for. -/
structure Built (Client : Type) where
  name : Text
  settings : ClientConfig
  pool : Pool Client
  deriving DecidableEq, Repr

/-- The registry, and all pools it has built, in order. -/
structure Registry (Client : Type) where
  pools : Finmap fun _ : Text => ClientConfig × HttpClient
  built : List (Built Client)

/-- What a call finds: the time, the files, the clients of the configuration the
    scripts run under, and what `Client::pool` makes of some settings. -/
structure Surroundings (Client : Type) where
  now : Nat
  files : FileSystem
  named_client : Text → Option ClientConfig
  pool : ClientConfig → Except ClientError Client

/-- Who asks for a pool. -/
inductive Request
  | pooled (name : Text) (settings : ClientConfig)
  | named (configuration : HttpConfig) (name : Text)
  | from_named (name : Text)

structure Call (Client : Type) where
  request : Request
  around : Surroundings Client

/-- The name and the settings that a call comes to ask for, if its configuration
    has the name. -/
def Call.asks {Client : Type} (call : Call Client) : Option (Text × ClientConfig) :=
  match call.request with
  | .pooled name settings => some (name, settings)
  | .named configuration name => (configuration.clients.lookup name).map (name, ·)
  | .from_named name => (call.around.named_client name).map (name, ·)

section
variable {Client : Type}

def Pool.fixed (client : Client) : Pool Client := ⟨client, none⟩

/-- The pool that is made of a client that was built. -/
def Pool.of (around : Surroundings Client) (settings : ClientConfig) (built : Client) : Pool Client :=
  match settings.reload_seconds with
  | some seconds =>
    if 0 < seconds then
      ⟨built, some ⟨settings, seconds, (around.now, PoolReload.stamps settings around.files)⟩⟩
    else Pool.fixed built
  | none => Pool.fixed built

namespace Registry

def empty : Registry Client := ⟨∅, []⟩

def pooled (registry : Registry Client) (around : Surroundings Client) (name : Text) (settings : ClientConfig) :
    Registry Client × Except ClientError HttpClient :=
  match registry.pools.lookup name with
  | some (built_from, client) =>
    if built_from = settings then (registry, .ok client) else (registry, .error (.Conflict name))
  | none =>
    match around.pool settings with
    | .error error => (registry, .error error)
    | .ok built =>
      let client : HttpClient := ⟨registry.built.length, settings.base_url⟩
      ({ pools := registry.pools.insert name (settings, client)
         built := registry.built ++ [⟨name, settings, Pool.of around settings built⟩] }, .ok client)

def named (registry : Registry Client) (around : Surroundings Client) (configuration : HttpConfig) (name : Text) :
    Registry Client × Except ClientError HttpClient :=
  match configuration.clients.lookup name with
  | some settings => registry.pooled around name settings
  | none => (registry, .error (.UnknownClient name))

/-- `Client::from_named`; the script is given the text of the error. -/
def from_named (registry : Registry Client) (around : Surroundings Client) (name : Text) :
    Registry Client × Except ClientError HttpClient :=
  match around.named_client name with
  | some settings => registry.pooled around name settings
  | none => (registry, .error (.UnknownClient name))

def call (registry : Registry Client) (call : Call Client) : Registry Client × Except ClientError HttpClient :=
  match call.request with
  | .pooled name settings => registry.pooled call.around name settings
  | .named configuration name => registry.named call.around configuration name
  | .from_named name => registry.from_named call.around name

/-- The registry after some calls. -/
def after (calls : List (Call Client)) : Registry Client :=
  calls.foldl (fun registry call => (registry.call call).1) empty

/-- Some call asked for the name with the settings and was handed the client. -/
def Granted (registry : Registry Client) : List (Call Client) → Text → ClientConfig → HttpClient → Prop
  | [], _, _, _ => False
  | call :: calls, name, settings, client =>
    (call.asks = some (name, settings) ∧ (registry.call call).2 = .ok client) ∨
      Granted (registry.call call).1 calls name settings client

/-! ### The registry as a table -/

/-- What the registry remembers of each name. -/
def table (registry : Registry Client) : Table Text ClientConfig HttpClient := fun name => registry.pools.lookup name

/-- What building a pool now would come to. -/
def build (registry : Registry Client) (around : Surroundings Client) (settings : ClientConfig) :
    Except ClientError HttpClient :=
  (around.pool settings).map fun _ => ⟨registry.built.length, settings.base_url⟩

/-- Asking the registry is asking the table. -/
theorem pooled_ask (registry : Registry Client) (around : Surroundings Client) (name : Text) (settings : ClientConfig) :
    (registry.pooled around name settings).1.table =
        (ask (.Conflict name) (registry.build around settings) name settings registry.table).1 ∧
      (registry.pooled around name settings).2 =
        (ask (.Conflict name) (registry.build around settings) name settings registry.table).2 := by
  cases known : registry.pools.lookup name with
  | some entry =>
    obtain ⟨built_from, client⟩ := entry
    rw [ask_known (show registry.table name = some (built_from, client) from known)]
    simp only [pooled, known]
    split_ifs <;> exact ⟨rfl, rfl⟩
  | none =>
    simp only [pooled, known, ask, table, build]
    cases around.pool settings with
    | error error => exact ⟨rfl, rfl⟩
    | ok built =>
      refine ⟨?_, rfl⟩
      funext other
      by_cases same : other = name
      · subst same
        simp only [Except.map, Function.update_self]
        exact Finmap.lookup_insert _
      · simp only [Except.map, Function.update_of_ne same]
        exact Finmap.lookup_insert_of_ne _ same

/-- A call that fails leaves the registry exactly as it was. -/
theorem pooled_failed {registry : Registry Client} {around : Surroundings Client} {name : Text} {settings : ClientConfig}
    {error : ClientError} (failed : (registry.pooled around name settings).2 = .error error) :
    (registry.pooled around name settings).1 = registry := by
  cases known : registry.pools.lookup name with
  | some entry =>
    simp only [pooled, known]
    split_ifs <;> rfl
  | none =>
    cases outcome : around.pool settings with
    | error error => simp only [pooled, known, outcome]
    | ok built => simp [pooled, known, outcome] at failed

/-! ### Calls -/

/-- A call is a request for a pool, or its configuration does not have the name. -/
theorem call_eq (registry : Registry Client) (call : Call Client) :
    (∃ name settings, call.asks = some (name, settings) ∧
        registry.call call = registry.pooled call.around name settings) ∨
      ∃ name, call.asks = none ∧ registry.call call = (registry, .error (.UnknownClient name)) := by
  obtain ⟨request, around⟩ := call
  cases request with
  | pooled name settings => exact Or.inl ⟨name, settings, rfl, rfl⟩
  | named configuration name =>
    cases found : configuration.clients.lookup name with
    | some settings =>
      exact Or.inl ⟨name, settings, by simp [Call.asks, found], by simp [Registry.call, named, found]⟩
    | none => exact Or.inr ⟨name, by simp [Call.asks, found], by simp [Registry.call, named, found]⟩
  | from_named name =>
    cases found : around.named_client name with
    | some settings =>
      exact Or.inl ⟨name, settings, by simp [Call.asks, found], by simp [Registry.call, from_named, found]⟩
    | none => exact Or.inr ⟨name, by simp [Call.asks, found], by simp [Registry.call, from_named, found]⟩

theorem call_asks {registry : Registry Client} {call : Call Client} {name : Text} {settings : ClientConfig}
    (asks : call.asks = some (name, settings)) : registry.call call = registry.pooled call.around name settings := by
  rcases call_eq registry call with ⟨name', settings', same, result⟩ | ⟨name', none_asked, -⟩
  · rw [asks] at same
    cases same
    exact result
  · rw [asks] at none_asked
    cases none_asked

theorem call_failed {registry : Registry Client} {call : Call Client} {error : ClientError}
    (failed : (registry.call call).2 = .error error) : (registry.call call).1 = registry := by
  rcases call_eq registry call with ⟨name, settings, -, result⟩ | ⟨name, -, result⟩
  · rw [result] at failed ⊢
    exact pooled_failed failed
  · rw [result]

/-- What the registry remembers it goes on remembering. -/
theorem call_keeps {registry : Registry Client} {name : Text} {entry : ClientConfig × HttpClient}
    (known : registry.table name = some entry) (call : Call Client) :
    (registry.call call).1.table name = some entry := by
  rcases call_eq registry call with ⟨asked, settings, -, result⟩ | ⟨asked, -, result⟩
  · rw [result, (pooled_ask ..).1]
    exact ask_keeps known
  · rw [result]
    exact known

/-- A name that the registry remembers is handed out to those who ask with the
    settings it was built from. -/
theorem call_known {registry : Registry Client} {call : Call Client} {name : Text} {built_from settings : ClientConfig}
    {client : HttpClient} (known : registry.table name = some (built_from, client))
    (asks : call.asks = some (name, settings)) :
    (registry.call call).2 = if built_from = settings then .ok client else .error (.Conflict name) := by
  rw [call_asks asks, (pooled_ask ..).2, ask_known known]

theorem call_unknown {registry : Registry Client} {call : Call Client} {name : Text} {settings : ClientConfig}
    (unknown : registry.table name = none) (asks : call.asks = some (name, settings)) :
    (registry.call call).2 = registry.build call.around settings := by
  rw [call_asks asks, (pooled_ask ..).2, ask_unknown unknown]

theorem call_served {registry : Registry Client} {call : Call Client} {name : Text} {settings : ClientConfig}
    {client : HttpClient} (asks : call.asks = some (name, settings)) (served : (registry.call call).2 = .ok client) :
    (registry.call call).1.table name = some (settings, client) := by
  rw [call_asks asks] at served ⊢
  rw [(pooled_ask ..).2] at served
  rw [(pooled_ask ..).1]
  exact ask_served served

/-! ### What holds of the registry -/

/-- Each name is remembered with the pool that was built for it from its
    settings, a pool was built only for names that are remembered, and for each
    of them once. -/
structure Sound (registry : Registry Client) : Prop where
  entries : ∀ name settings client, registry.table name = some (settings, client) →
    client.base_url = settings.base_url ∧ ∃ pool, registry.built[client.inner]? = some ⟨name, settings, pool⟩
  remembered : ∀ built ∈ registry.built, registry.table built.name ≠ none
  once : (registry.built.map Built.name).Nodup

theorem sound_empty : Sound (empty : Registry Client) where
  entries := fun name settings client known => by simp [table, empty] at known
  remembered := fun built member => absurd member List.not_mem_nil
  once := List.nodup_nil

theorem sound_pooled {registry : Registry Client} (sound : Sound registry) (around : Surroundings Client) (name : Text)
    (settings : ClientConfig) : Sound (registry.pooled around name settings).1 := by
  cases result : (registry.pooled around name settings).2 with
  | error error =>
    rw [pooled_failed result]
    exact sound
  | ok client =>
    cases known : registry.pools.lookup name with
    | some entry =>
      have unchanged : (registry.pooled around name settings).1 = registry := by
        simp only [pooled, known]
        split_ifs <;> rfl
      rw [unchanged]
      exact sound
    | none =>
      cases outcome : around.pool settings with
      | error error => simp [pooled, known, outcome] at result
      | ok built =>
        have changed : (registry.pooled around name settings).1 =
            { pools := registry.pools.insert name (settings, ⟨registry.built.length, settings.base_url⟩)
              built := registry.built ++ [⟨name, settings, Pool.of around settings built⟩] } := by
          simp only [pooled, known, outcome]
        rw [changed]
        have lookup (other : Text) (ne : other ≠ name) : (registry.pools.insert name
            (settings, ⟨registry.built.length, settings.base_url⟩)).lookup other = registry.pools.lookup other :=
          Finmap.lookup_insert_of_ne _ ne
        refine ⟨?_, ?_, ?_⟩
        · intro other settings' client' found
          by_cases same : other = name
          · subst same
            simp only [table, Finmap.lookup_insert, Option.some.injEq, Prod.mk.injEq] at found
            obtain ⟨rfl, rfl⟩ := found
            exact ⟨rfl, _, List.getElem?_concat_length⟩
          · simp only [table, lookup other same] at found
            obtain ⟨base, pool, there⟩ := sound.entries other settings' client' found
            refine ⟨base, pool, ?_⟩
            rw [List.getElem?_append_left (List.getElem?_eq_some_iff.mp there).1]
            exact there
        · intro built' member
          by_cases same : built'.name = name
          · rw [same]
            simp [table]
          · simp only [table, lookup _ same]
            rcases List.mem_append.mp member with old | new
            · exact sound.remembered built' old
            · rw [List.mem_singleton.mp new] at same
              exact absurd rfl same
        · rw [List.map_append, List.nodup_append]
          refine ⟨sound.once, List.nodup_singleton _, ?_⟩
          rintro other old _ new rfl
          obtain ⟨built', member, rfl⟩ := List.mem_map.mp old
          refine sound.remembered built' member ?_
          rw [List.mem_singleton.mp new]
          exact known

theorem sound_call {registry : Registry Client} (sound : Sound registry) (call : Call Client) :
    Sound (registry.call call).1 := by
  rcases call_eq registry call with ⟨name, settings, -, result⟩ | ⟨name, -, result⟩
  · rw [result]
    exact sound_pooled sound call.around name settings
  · rw [result]
    exact sound

/-! ### Runs -/

theorem sound_after (calls : List (Call Client)) : Sound (after calls) :=
  List.foldlRecOn calls _ sound_empty fun _ sound call _ => sound_call sound call

/-- What was handed out is what the registry remembers at the end. -/
theorem granted_table {registry : Registry Client} {calls : List (Call Client)} {name : Text} {settings : ClientConfig}
    {client : HttpClient} (granted : registry.Granted calls name settings client) :
    (calls.foldl (fun registry call => (registry.call call).1) registry).table name = some (settings, client) := by
  induction calls generalizing registry with
  | nil => exact granted.elim
  | cons call calls ih =>
    rcases granted with ⟨asks, served⟩ | later
    · have known := call_served asks served
      exact List.foldlRecOn (motive := fun registry : Registry Client => registry.table name = some (settings, client))
        calls _ known fun _ known call _ => call_keeps known call
    · exact ih later

/-- What the registry remembers at the end and did not at the beginning was
    handed out. -/
theorem table_granted {registry : Registry Client} {calls : List (Call Client)} {name : Text} {settings : ClientConfig}
    {client : HttpClient} (before : registry.table name = none)
    (known : (calls.foldl (fun registry call => (registry.call call).1) registry).table name = some (settings, client)) :
    registry.Granted calls name settings client := by
  induction calls generalizing registry with
  | nil => exact absurd (before.symm.trans known) (by simp)
  | cons call calls ih =>
    cases here : (registry.call call).1.table name with
    | none => exact Or.inr (ih here known)
    | some entry =>
      have kept : (calls.foldl (fun registry call => (registry.call call).1) (registry.call call).1).table name =
          some entry :=
        List.foldlRecOn (motive := fun registry : Registry Client => registry.table name = some entry)
          calls _ here fun _ known call _ => call_keeps known call
      obtain rfl : entry = (settings, client) := Option.some.inj (kept.symm.trans known)
      rcases call_eq registry call with ⟨asked, settings', asks, result⟩ | ⟨asked, -, result⟩
      · rw [result, (pooled_ask ..).1] at here
        obtain ⟨rfl, served, rfl⟩ := ask_new before here
        refine Or.inl ⟨asks, ?_⟩
        rw [result, (pooled_ask ..).2, served]
      · rw [result] at here
        exact absurd (before.symm.trans here) (by simp)

/-- After any calls: a client that was handed out for a name is handed out again
    to whoever asks for the name with the same settings, and other settings get
    a conflict; it shares the pool that was built for that name from those
    settings, and has their base URL. A name for which no call was served yet is
    built from the settings of the next call, if they build. A call that fails
    leaves the registry as it was, no call touches what is remembered of another
    name, and no name's pool was built twice. -/
theorem registry_serves (calls : List (Call Client)) :
    (∀ name settings client, empty.Granted calls name settings client →
      (client.base_url = settings.base_url ∧
        ∃ pool, (after calls).built[client.inner]? = some ⟨name, settings, pool⟩) ∧
      ∀ (call : Call Client) (asked : ClientConfig), call.asks = some (name, asked) →
        ((after calls).call call).2 = if settings = asked then .ok client else .error (.Conflict name)) ∧
    (∀ (call : Call Client) (name : Text) (settings : ClientConfig), call.asks = some (name, settings) →
      (∀ earlier client, ¬empty.Granted calls name earlier client) →
        ((after calls).call call).2 = (after calls).build call.around settings) ∧
    (∀ (call : Call Client) (error : ClientError), ((after calls).call call).2 = .error error →
      ((after calls).call call).1 = after calls) ∧
    (∀ (call : Call Client) (name other : Text) (settings : ClientConfig), call.asks = some (name, settings) →
      other ≠ name → ((after calls).call call).1.pools.lookup other = (after calls).pools.lookup other) ∧
    (∀ call : Call Client, call.asks = none → ∃ name, ((after calls).call call).2 = .error (.UnknownClient name)) ∧
    ((after calls).built.map Built.name).Nodup := by
  have sound := sound_after calls
  refine ⟨?_, ?_, fun _ _ failed => call_failed failed, ?_, ?_, sound.once⟩
  · intro name settings client granted
    have known : (after calls).table name = some (settings, client) := granted_table granted
    exact ⟨sound.entries name settings client known, fun call asked asks => call_known known asks⟩
  · intro call name settings asks ungranted
    refine call_unknown ?_ asks
    by_contra known
    obtain ⟨⟨earlier, client⟩, entry⟩ := Option.ne_none_iff_exists'.mp known
    exact ungranted earlier client (table_granted rfl entry)
  · intro call name other settings asks differs
    rw [call_asks asks]
    show (Registry.pooled _ _ _ _).1.table other = (after calls).table other
    rw [(pooled_ask ..).1, ask_other differs]
  · intro call none_asked
    rcases call_eq (after calls) call with ⟨name, settings, asks, -⟩ | ⟨name, -, result⟩
    · rw [asks] at none_asked
      cases none_asked
    · exact ⟨name, by rw [result]⟩

end Registry
end
end SiphonHttp.Outbound
