import SiphonHttp.Server
import SiphonHttp.Tasks

/-!
`admission.rs` with its requests side by side. `Server.guard` says what one
request gets from a guard that decides at once; here a guard is code on a state
of its own, of which any number of requests execute their calls step by step,
and a request can be dropped while it waits for its handler.
-/
namespace SiphonHttp.Admission
open Text Server Tasks Runs

/-- `Decision`, with the value that a request let through carries. -/
inductive Decision (Admitted : Type)
  | Admit (admitted : Admitted)
  | Refuse (refusal : Refusal)

/-- An implementation of `Admission` and of the `Admitted` that it hands out:
    the state that its calls share and the code of `admit`, `respond` and
    `Drop::drop`. A call that returns `none` panicked. -/
structure Implementation where
  World : Type
  Shared : Type
  Admitted : Type
  admit_request : Code World Shared Inbound (Option (Decision Admitted))
  respond : Code World Shared (Admitted × Nat) (Admitted × Option (List (Text × Text)))
  drop : Code World Shared Admitted (Option Unit)

/-- What happens to a request, in order. -/
inductive Note
  | admit_called
  | admitted
  | refused (refusal : Refusal)
  | inner_called
  | inner_answered (response : Response)
  | cancelled
  | respond_called (status : Nat)
  | respond_returned (fields : List (Text × Text))
  | drop_called
  | drop_returned
  | panicked
  | sent (response : Response)
  deriving DecidableEq, Repr

section
variable (crates : Crates) (admission : Implementation)

/-- Where a request is in `guard`. -/
inductive Phase
  | admitting (place : admission.admit_request.Place)
  | inside (admitted : admission.Admitted)
  | responding (inner : Response) (place : admission.respond.Place)
  /-- The value is being dropped, and then the response, if there is one, sent. -/
  | dropping (response : Option Response) (place : admission.drop.Place)
  | ended

structure Request where
  parts : Parts
  phase : Phase admission
  log : List Note

inductive Action
  /-- The call that the request is in takes its next step. -/
  | advance (world : admission.World)
  /-- The inner service produces a response. -/
  | answer (response : Response)
  /-- The future is dropped, or the inner service panics. -/
  | cancel

/-- The response of a refusal. -/
def refused (refusal : Refusal) : Response where
  status := (StatusCode.from_u16 refusal.status).getD 503
  headers := crates.valid_fields refusal.headers
  body := refusal.body

/-- The handler's response with the fields of `respond`. -/
def stamped (inner : Response) (fields : List (Text × Text)) : Response :=
  { inner with headers := inner.headers ++ crates.valid_fields fields }

/-- `guard`, from one step of a call or one turn of the inner service to the
    next, and what the request notes at it. -/
def guard (shared : admission.Shared) : Phase admission → Action admission →
    Option (admission.Shared × Phase admission × List Note)
  | .admitting place, .advance world =>
    match admission.admit_request.step place world shared with
    | (shared, .inl place) => some (shared, .admitting place, [])
    | (shared, .inr (some (.Admit admitted))) => some (shared, .inside admitted, [.admitted, .inner_called])
    | (shared, .inr (some (.Refuse refusal))) =>
      some (shared, .ended, [.refused refusal, .sent (refused crates refusal)])
    | (shared, .inr none) => some (shared, .ended, [.panicked])
  | .inside admitted, .answer inner =>
    some (shared, .responding inner (admission.respond.start (admitted, inner.status)),
      [.inner_answered inner, .respond_called inner.status])
  | .inside admitted, .cancel =>
    some (shared, .dropping none (admission.drop.start admitted), [.cancelled, .drop_called])
  | .responding inner place, .advance world =>
    match admission.respond.step place world shared with
    | (shared, .inl place) => some (shared, .responding inner place, [])
    | (shared, .inr (admitted, some fields)) =>
      some (shared, .dropping (some (stamped crates inner fields)) (admission.drop.start admitted),
        [.respond_returned fields, .drop_called])
    | (shared, .inr (admitted, none)) =>
      some (shared, .dropping none (admission.drop.start admitted), [.panicked, .drop_called])
  | .dropping response place, .advance world =>
    match admission.drop.step place world shared with
    | (shared, .inl place) => some (shared, .dropping response place, [])
    | (shared, .inr (some ())) => some (shared, .ended, .drop_returned :: (response.map Note.sent).toList)
    | (shared, .inr none) => some (shared, .ended, [.panicked])
  | _, _ => none

def arrived (parts : Parts) : Request admission :=
  ⟨parts, .admitting (admission.admit_request.start (inbound_of parts)), [.admit_called]⟩

/-- The request is in `guard`. -/
def Phase.in_progress {admission : Implementation} : Phase admission → Bool
  | .ended => false
  | _ => true

/-- All requests of a process, as far as there is room for them. -/
def requests (room : Nat) : System admission.Shared (Request admission) Parts (Action admission) where
  start := arrived admission
  act shared request action :=
    (guard crates admission shared request.phase action).map fun (shared, phase, notes) =>
      (shared, { request with phase := phase, log := request.log ++ notes })
  in_progress request := request.phase.in_progress
  room := room

end

/-! ### What a step can do -/

section
variable {crates : Crates} {admission : Implementation} {room : Nat}

/-- The steps of `guard`: what each call came to, and what follows from it. -/
inductive Moves (crates : Crates) {admission : Implementation} (shared shared' : admission.Shared) :
    Phase admission → Action admission → Phase admission → List Note → Prop
  | admit_goes_on {place next world} (came : admission.admit_request.step place world shared = (shared', .inl next)) :
    Moves crates shared shared' (.admitting place) (.advance world) (.admitting next) []
  | admits {place admitted world}
    (came : admission.admit_request.step place world shared = (shared', .inr (some (.Admit admitted)))) :
    Moves crates shared shared' (.admitting place) (.advance world) (.inside admitted) [.admitted, .inner_called]
  | refuses {place refusal world}
    (came : admission.admit_request.step place world shared = (shared', .inr (some (.Refuse refusal)))) :
    Moves crates shared shared' (.admitting place) (.advance world) .ended
      [.refused refusal, .sent (refused crates refusal)]
  | admit_panics {place world} (came : admission.admit_request.step place world shared = (shared', .inr none)) :
    Moves crates shared shared' (.admitting place) (.advance world) .ended [.panicked]
  | answers {admitted} (inner : Response) (same : shared' = shared) :
    Moves crates shared shared' (.inside admitted) (.answer inner)
      (.responding inner (admission.respond.start (admitted, inner.status)))
      [.inner_answered inner, .respond_called inner.status]
  | cancels {admitted} (same : shared' = shared) :
    Moves crates shared shared' (.inside admitted) .cancel (.dropping none (admission.drop.start admitted))
      [.cancelled, .drop_called]
  | respond_goes_on {inner place next world} (came : admission.respond.step place world shared = (shared', .inl next)) :
    Moves crates shared shared' (.responding inner place) (.advance world) (.responding inner next) []
  | responds {inner place admitted fields world}
    (came : admission.respond.step place world shared = (shared', .inr (admitted, some fields))) :
    Moves crates shared shared' (.responding inner place) (.advance world)
      (.dropping (some (stamped crates inner fields)) (admission.drop.start admitted))
      [.respond_returned fields, .drop_called]
  | respond_panics {inner place admitted world}
    (came : admission.respond.step place world shared = (shared', .inr (admitted, none))) :
    Moves crates shared shared' (.responding inner place) (.advance world)
      (.dropping none (admission.drop.start admitted)) [.panicked, .drop_called]
  | drop_goes_on {response place next world} (came : admission.drop.step place world shared = (shared', .inl next)) :
    Moves crates shared shared' (.dropping response place) (.advance world) (.dropping response next) []
  | drops {response place world} (came : admission.drop.step place world shared = (shared', .inr (some ()))) :
    Moves crates shared shared' (.dropping response place) (.advance world) .ended
      (.drop_returned :: (response.map Note.sent).toList)
  | drop_panics {response place world} (came : admission.drop.step place world shared = (shared', .inr none)) :
    Moves crates shared shared' (.dropping response place) (.advance world) .ended [.panicked]

theorem guard_moves {shared shared' : admission.Shared} {phase phase' : Phase admission} {action : Action admission}
    {notes : List Note} (acted : guard crates admission shared phase action = some (shared', phase', notes)) :
    Moves crates shared shared' phase action phase' notes := by
  cases phase with
  | admitting place =>
    cases action with
    | advance world =>
      simp only [guard] at acted
      split at acted <;> cases acted
      · exact .admit_goes_on ‹_›
      · exact .admits ‹_›
      · exact .refuses ‹_›
      · exact .admit_panics ‹_›
    | answer inner => cases acted
    | cancel => cases acted
  | inside admitted =>
    cases action with
    | advance world => cases acted
    | answer inner =>
      cases acted
      exact .answers inner rfl
    | cancel =>
      cases acted
      exact .cancels rfl
  | responding inner place =>
    cases action with
    | advance world =>
      simp only [guard] at acted
      split at acted <;> cases acted
      · exact .respond_goes_on ‹_›
      · exact .responds ‹_›
      · exact .respond_panics ‹_›
    | answer inner => cases acted
    | cancel => cases acted
  | dropping response place =>
    cases action with
    | advance world =>
      simp only [guard] at acted
      split at acted <;> cases acted
      · exact .drop_goes_on ‹_›
      · exact .drops ‹_›
      · exact .drop_panics ‹_›
    | answer inner => cases acted
    | cancel => cases acted
  | ended => cases action <;> cases acted

/-- An action of a request is a step of `guard`, with its notes behind those there
    are. -/
theorem act_moves {shared shared' : admission.Shared} {request request' : Request admission} {action : Action admission}
    (acted : (requests crates admission room).act shared request action = some (shared', request')) :
    ∃ phase notes, Moves crates shared shared' request.phase action phase notes ∧
      request' = { request with phase := phase, log := request.log ++ notes } := by
  obtain ⟨⟨after, phase, notes⟩, acts, same⟩ := Option.map_eq_some_iff.mp acted
  cases same
  exact ⟨phase, notes, guard_moves acts, rfl⟩

end

/-! ### The life of a request -/

def Note.is_respond_called : Note → Bool
  | .respond_called _ => true
  | _ => false

def Note.is_sent : Note → Bool
  | .sent _ => true
  | _ => false

/-- What the log of a request says of the calls that were made for it. -/
structure LifeCycle (crates : Crates) (log : List Note) : Prop where
  inner_iff_admitted : .inner_called ∈ log ↔ .admitted ∈ log
  admitted_once : log.count .admitted ≤ 1
  inner_once : log.count .inner_called ≤ 1
  dropped_once : log.count .drop_called ≤ 1
  dropped_was_admitted : .drop_called ∈ log → .admitted ∈ log
  respond_once : log.countP Note.is_respond_called ≤ 1
  respond_iff_answered : ∀ status,
    .respond_called status ∈ log ↔ ∃ inner, .inner_answered inner ∈ log ∧ status = inner.status
  respond_before_drop : log.Pairwise fun earlier later => earlier = .drop_called → later.is_respond_called = false
  sent_once : log.countP Note.is_sent ≤ 1
  /-- What is sent is the handler's response, unchanged but for the valid fields
      of `respond` behind its own, or the response of the refusal. -/
  sent_iff : ∀ response, .sent response ∈ log ↔
    (∃ refusal, .refused refusal ∈ log ∧ response = refused crates refusal) ∨
      ∃ inner fields, .inner_answered inner ∈ log ∧ .respond_returned fields ∈ log ∧ .drop_returned ∈ log ∧
        response = ⟨inner.status, inner.headers ++ crates.valid_fields fields, inner.body⟩

def entered : List Note := [.admit_called, .admitted, .inner_called]

def answered (inner : Response) : List Note := entered ++ [.inner_answered inner, .respond_called inner.status]

/-- What a request has noted when its value is dropped, by the response that it
    then sends. -/
inductive Leaves (crates : Crates) : Option Response → List Note → Prop
  | cancelled : Leaves crates none (entered ++ [.cancelled, .drop_called])
  | respond_panicked (inner : Response) : Leaves crates none (answered inner ++ [.panicked, .drop_called])
  | responded (inner : Response) (fields : List (Text × Text)) :
    Leaves crates (some (stamped crates inner fields)) (answered inner ++ [.respond_returned fields, .drop_called])

/-- What a request has noted by the place it is in. -/
inductive Explains (crates : Crates) {admission : Implementation} : Phase admission → List Note → Prop
  | admitting {place} : Explains crates (.admitting place) [.admit_called]
  | refused (refusal : Refusal) :
    Explains crates .ended [.admit_called, .refused refusal, .sent (Admission.refused crates refusal)]
  | admit_panicked : Explains crates .ended [.admit_called, .panicked]
  | inside {admitted} : Explains crates (.inside admitted) entered
  | responding {place} (inner : Response) : Explains crates (.responding inner place) (answered inner)
  | dropping {response log place} (leaves : Leaves crates response log) : Explains crates (.dropping response place) log
  | drop_returned {response log} (leaves : Leaves crates response log) :
    Explains crates .ended (log ++ .drop_returned :: (response.map Note.sent).toList)
  | drop_panicked {response log} (leaves : Leaves crates response log) : Explains crates .ended (log ++ [.panicked])

section
variable {crates : Crates} {admission : Implementation} {room : Nat}

/-- What one step of a request preserves. -/
theorem Moves.explains {shared shared' : admission.Shared} {phase phase' : Phase admission} {action : Action admission}
    {notes log : List Note} (moves : Moves crates shared shared' phase action phase' notes)
    (explains : Explains crates phase log) : Explains crates phase' (log ++ notes) := by
  cases moves with
  | admit_goes_on _ => cases explains; exact .admitting
  | admits _ => cases explains; exact .inside
  | refuses _ => cases explains; exact .refused _
  | admit_panics _ => cases explains; exact .admit_panicked
  | answers inner _ => cases explains; exact .responding inner
  | cancels _ => cases explains; exact .dropping .cancelled
  | respond_goes_on _ =>
    rw [List.append_nil]
    cases explains
    exact .responding _
  | responds _ => cases explains; exact .dropping (.responded _ _)
  | respond_panics _ => cases explains; exact .dropping (.respond_panicked _)
  | drop_goes_on _ =>
    rw [List.append_nil]
    cases explains with
    | dropping leaves => exact .dropping leaves
  | drops _ =>
    cases explains with
    | dropping leaves => exact .drop_returned leaves
  | drop_panics _ =>
    cases explains with
    | dropping leaves => exact .drop_panicked leaves

theorem act_explains {shared shared' : admission.Shared} {request request' : Request admission}
    {action : Action admission}
    (acted : (requests crates admission room).act shared request action = some (shared', request'))
    (explains : Explains crates request.phase request.log) : Explains crates request'.phase request'.log := by
  obtain ⟨phase, notes, moves, rfl⟩ := act_moves acted
  exact moves.explains explains

/-- A panic at the end is the end of a life cycle as well. -/
theorem LifeCycle.panics {log : List Note} (cycle : LifeCycle crates log) :
    LifeCycle crates (log ++ [Note.panicked]) where
  inner_iff_admitted := by simpa using cycle.inner_iff_admitted
  admitted_once := by simpa using cycle.admitted_once
  inner_once := by simpa using cycle.inner_once
  dropped_once := by simpa using cycle.dropped_once
  dropped_was_admitted := by simpa using cycle.dropped_was_admitted
  respond_once := by simpa [Note.is_respond_called] using cycle.respond_once
  respond_iff_answered := by simpa using cycle.respond_iff_answered
  respond_before_drop := by
    refine List.pairwise_append.mpr ⟨cycle.respond_before_drop, List.pairwise_singleton .., ?_⟩
    intro earlier _ later member _
    rw [List.mem_singleton.mp member]
    rfl
  sent_once := by simpa [Note.is_sent] using cycle.sent_once
  sent_iff := by simpa using cycle.sent_iff

/-- No request leaves `guard` without dropping the value that it was given. -/
theorem Explains.dropped {log : List Note} (explains : Explains crates (.ended : Phase admission) log)
    (admitted : .admitted ∈ log) : log.count .drop_called = 1 := by
  cases explains with
  | refused refusal => simp at admitted
  | admit_panicked => simp at admitted
  | drop_returned leaves => cases leaves <;> simp [answered, entered]
  | drop_panicked leaves => cases leaves <;> simp [answered, entered]

/-! ### A guard that decides at once -/

/-- `Server.Admission`, as code that neither shares anything nor panics. -/
def at_once (admission : Server.Admission) : Implementation where
  World := Unit
  Shared := Unit
  Admitted := Nat → List (Text × Text)
  admit_request := Code.at_once fun inbound =>
    match admission.admit_request inbound with
    | .Admit respond => some (.Admit respond)
    | .Refuse refusal => some (.Refuse refusal)
  respond := Code.at_once fun (respond, status) => (respond, some (respond status))
  drop := Code.at_once fun _ => some ()

/-- The response is what `Server.guard` makes of what the log says the handler
    answered. -/
def OfGuard (crates : Crates) (admission : Server.Admission) (parts : Parts) (log : List Note) (response : Response) :
    Prop :=
  ∃ next : Served, (∀ inner, .inner_answered inner ∈ log → next.response = inner) ∧
    response = (Server.guard crates admission parts next).response

/-- A request of such a guard is where `Server.guard` says. -/
def Follows (crates : Crates) {admission : Server.Admission} (request : Request (at_once admission)) : Prop :=
  match request.phase with
  | .admitting place => place = inbound_of request.parts
  | .inside respond => admission.admit_request (inbound_of request.parts) = .Admit respond
  | .responding inner (respond, status) =>
    admission.admit_request (inbound_of request.parts) = .Admit respond ∧ status = inner.status
  | .dropping response _ => ∀ sent ∈ response, OfGuard crates admission request.parts request.log sent
  | .ended => ∀ response, .sent response ∈ request.log → OfGuard crates admission request.parts request.log response

theorem ofGuard_refused {admission : Server.Admission} {parts : Parts} {refusal : Refusal} {log : List Note}
    (asked : admission.admit_request (inbound_of parts) = .Refuse refusal)
    (unanswered : ∀ inner, .inner_answered inner ∉ log) :
    OfGuard crates admission parts log (refused crates refusal) := by
  refine ⟨Served.at_once (empty_response 404), fun inner member => absurd member (unanswered inner), ?_⟩
  simp only [Server.guard, asked, Served.at_once, refused]

theorem ofGuard_stamped {admission : Server.Admission} {parts : Parts} {respond : Nat → List (Text × Text)}
    {inner : Response} {log : List Note} (asked : admission.admit_request (inbound_of parts) = .Admit respond)
    (only : ∀ other, .inner_answered other ∈ log → inner = other) :
    OfGuard crates admission parts log (stamped crates inner (respond inner.status)) := by
  refine ⟨Served.at_once inner, only, ?_⟩
  simp only [Server.guard, asked, Served.at_once, stamped]

theorem at_once_admits {admission : Server.Admission} {inbound : Inbound} {respond : Nat → List (Text × Text)}
    {world shared shared' : Unit}
    (came : (at_once admission).admit_request.step inbound world shared = (shared', .inr (some (.Admit respond)))) :
    admission.admit_request inbound = .Admit respond := by
  cases asked : admission.admit_request inbound with
  | Admit other =>
    simp only [at_once, Code.at_once, asked] at came
    cases came
    rfl
  | Refuse refusal =>
    simp only [at_once, Code.at_once, asked] at came
    cases came

theorem at_once_refuses {admission : Server.Admission} {inbound : Inbound} {refusal : Refusal}
    {world shared shared' : Unit}
    (came : (at_once admission).admit_request.step inbound world shared = (shared', .inr (some (.Refuse refusal)))) :
    admission.admit_request inbound = .Refuse refusal := by
  cases asked : admission.admit_request inbound with
  | Admit respond =>
    simp only [at_once, Code.at_once, asked] at came
    cases came
  | Refuse other =>
    simp only [at_once, Code.at_once, asked] at came
    cases came
    rfl

theorem Leaves.unsent {response : Option Response} {log : List Note} (leaves : Leaves crates response log)
    (other : Response) : .sent other ∉ log := by
  cases leaves <;> simp [answered, entered]

/-- What one step of a request preserves. -/
theorem act_follows {admission : Server.Admission} {shared shared' : Unit}
    {request request' : Request (at_once admission)} {action : Action (at_once admission)}
    (acted : (requests crates (at_once admission) room).act shared request action = some (shared', request'))
    (explains : Explains crates request.phase request.log) (follows : Follows crates request) :
    Follows crates request' := by
  obtain ⟨phase, notes, moves, rfl⟩ := act_moves acted
  obtain ⟨parts, before, log⟩ := request
  cases moves with
  | admit_goes_on came => cases came
  | admits came =>
    cases (show _ = inbound_of parts from follows)
    exact at_once_admits came
  | @refuses _ refusal _ came =>
    cases (show _ = inbound_of parts from follows)
    cases explains
    intro response member
    have same : response = refused crates refusal := by simpa using member
    rw [same]
    exact ofGuard_refused (at_once_refuses came) (by simp)
  | admit_panics _ =>
    cases explains
    intro response member
    simp at member
  | answers inner _ => exact ⟨follows, rfl⟩
  | cancels _ =>
    intro sent member
    cases member
  | respond_goes_on came => cases came
  | @responds inner place _ _ _ came =>
    obtain ⟨respond, status⟩ := place
    obtain ⟨asked, rfl⟩ : admission.admit_request (inbound_of parts) = .Admit respond ∧ status = inner.status := follows
    cases came
    cases explains
    intro sent member
    cases member
    exact ofGuard_stamped asked (by simp)
  | respond_panics came => cases came
  | drop_goes_on came => cases came
  | @drops left _ _ _ =>
    cases explains with
    | dropping leaves =>
      intro response member
      rcases List.mem_append.mp member with earlier | now
      · exact absurd earlier (leaves.unsent response)
      · have sent : response ∈ left := by simpa using now
        obtain ⟨next, told, same⟩ := follows response sent
        refine ⟨next, fun inner answers => told inner ?_, same⟩
        simpa using answers
  | drop_panics came => cases came

/-- Whatever happens to the requests, and in whatever order: each response that
    is sent is the one that `Server.guard` makes of the handler's. -/
theorem sent_of_guard {admission : Server.Admission} {state : State Unit (Request (at_once admission))}
    {events : List (Event Parts (Action (at_once admission)))}
    (ran : run (step (requests crates (at_once admission) room)) ⟨(), []⟩ events = some state) :
    ∀ request ∈ state.tasks, ∀ response, .sent response ∈ request.log →
      OfGuard crates admission request.parts request.log response := by
  have each : ∀ request ∈ state.tasks, Explains crates request.phase request.log ∧ Follows crates request := by
    refine each_task (fun request => Explains crates request.phase request.log ∧ Follows crates request)
      ?_ ?_ ran (fun request member => by cases member)
    · intro parts
      exact ⟨.admitting, rfl⟩
    · intro shared request action shared' request' acted ⟨explains, follows⟩
      exact ⟨act_explains acted explains, act_follows acted explains follows⟩
  intro request member response sent
  obtain ⟨explains, follows⟩ := each request member
  obtain ⟨parts, phase, log⟩ := request
  cases explains with
  | refused | admit_panicked | drop_returned | drop_panicked => exact follows response sent
  | admitting => simp at sent
  | inside => simp at sent
  | responding inner => simp at sent
  | dropping leaves => exact absurd sent (leaves.unsent response)

end
end SiphonHttp.Admission
