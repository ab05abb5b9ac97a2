import SiphonHttp.Admission
import SiphonHttp.Request

/-!
The guard that the documentation of `admission.rs` and its tests build: a
counter of the requests in progress, with a maximum. Its calls add to the
counter, compare and take back in steps of their own, among those of all other
requests.
-/
namespace SiphonHttp.Admission
open Text Server Tasks Runs

/-- `Inbound::header`. -/
def header (inbound : Inbound) (name : Text) : Option Text :=
  (inbound.headers.get (Request.to_ascii_lowercase name)).bind to_str

/-- `Limit`: the test's notes the requests it sees, and each refuses and adds
    header fields in its own way. -/
structure Limit where
  maximum : UInt64
  notes_seen : Bool
  refusal : Refusal
  /-- `Busy::respond`, from the number in progress when the request was admitted
      and the status. -/
  respond : UInt64 → Nat → List (Text × Text)

def Limit.of_docs (maximum : UInt64) : Limit where
  maximum := maximum
  notes_seen := false
  refusal := ⟨503, [(lit "retry-after", lit "1")], []⟩
  respond _ _ := []

def Limit.of_tests (maximum : UInt64) : Limit where
  maximum := maximum
  notes_seen := true
  refusal := ⟨503, [(lit "retry-after", lit "2")], utf8 (lit "busy")⟩
  respond was status :=
    [(lit "x-admitted-at", decimal was.toNat), (lit "x-status", decimal status), (lit "bad name", lit "x")]

/-- What the calls share. -/
structure Shared where
  busy : UInt64
  seen : List (Text × Text × Option Text)
  deriving DecidableEq, Repr

/-- Where a call of `admit` is. -/
inductive Admitting
  | noting (inbound : Inbound)
  | adding
  | comparing (was : UInt64)
  | subtracting

namespace Limit
variable (limit : Limit)

/-- `admit`: what follows the counter's own operations touches nothing shared. -/
def admit_step : Admitting → Shared → Shared × (Admitting ⊕ Option (Decision UInt64))
  | .noting inbound, shared =>
    let seen := (inbound.method, inbound.path, header inbound (lit "x-test"))
    ({ shared with seen := shared.seen ++ [seen] }, .inl .adding)
  | .adding, shared => ({ shared with busy := shared.busy + 1 }, .inl (.comparing shared.busy))
  | .comparing was, shared =>
    if limit.maximum ≤ was then (shared, .inl .subtracting) else (shared, .inr (some (.Admit was)))
  | .subtracting, shared => ({ shared with busy := shared.busy - 1 }, .inr (some (.Refuse limit.refusal)))

/-- `Busy` is the number in progress when it was admitted. -/
def implementation : Implementation where
  World := Unit
  Shared := Shared
  Admitted := UInt64
  admit_request := {
    Place := Admitting
    start inbound := if limit.notes_seen then .noting inbound else .adding
    step place _ := limit.admit_step place }
  respond := Code.at_once fun (was, status) => (was, some (limit.respond was status))
  drop := {
    Place := Unit
    start _ := ()
    step _ _ shared := ({ shared with busy := shared.busy - 1 }, .inr (some ())) }

/-- Requests at a limit, from the first one on. Each one in progress is a future
    of its own, at an address of its own that is not zero. -/
def reaches (crates : Crates) (events : List (Event Parts (Action limit.implementation))) :
    Option (State Shared (Request limit.implementation)) :=
  run (step (requests crates limit.implementation (2 ^ 64 - 1))) ⟨⟨0, []⟩, []⟩ events

end Limit

/-! ### Who is counted -/

section
variable {limit : Limit}

end

def slow (method : Text) (headers : HeaderMap) : Parts where
  method := method
  path := lit "/slow"
  query := none
  authority := none
  headers := headers
  matched_path := some (lit "/slow")
  peer := none
  connection := none

def advances (index count : Nat) : List (Event Parts (Action (Limit.of_tests 1).implementation)) :=
  List.replicate count (.act index (.advance ()))

def overlapping : List (Event Parts (Action (Limit.of_tests 1).implementation)) :=
  .arrive (slow (lit "POST") [(lit "x-test", utf8 (lit "1"))]) :: advances 0 3 ++
    .arrive (slow (lit "GET") []) :: advances 1 3

def made : Response :=
  ⟨201, [(lit "x-admitted-at", utf8 (lit "0")), (lit "x-status", utf8 (lit "201"))], utf8 (lit "made")⟩

def busy : Response := ⟨503, [(lit "retry-after", utf8 (lit "2"))], utf8 (lit "busy")⟩

end SiphonHttp.Admission
