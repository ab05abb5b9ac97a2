import SiphonHttp.Chain

/-!
Exceptions of stages, of any class and raised in any place. The job reports each
one as an error of the stage that raised it. `drive` does so for what leaves its
timeout block as an `Exception`; anything else leaves the coroutine, whose sink
is then dropped (`start_from_raised`), so that the answer names the stage only
where it is the handler's and there is a pool (`exception_reported_iff`).
-/
namespace SiphonHttp.Dispatch
open Text

/-- The stages all run in the executor's job: none of them can suspend. -/
def InTheJob (stages : List Stage) : Prop := ∀ stage ∈ stages, (stage.is_async && stage.callable.suspends) = false

instance (stages : List Stage) : Decidable (InTheJob stages) :=
  inferInstanceAs (Decidable (∀ stage ∈ stages, _))

/-- The exception as it leaves the timeout block of `drive`. -/
def Machinery.leaving (machinery : Machinery) : PyErr → PyErr :=
  machinery.leave (machinery.pool.map AsyncPool.coroutine_timeout)

/-- What the coroutine makes of an exception of a stage of its own. -/
def Machinery.reports (machinery : Machinery) (is_middleware : Bool) (error : PyErr) : Started :=
  match machinery.pool, (machinery.leaving error).is_exception, machinery.run_end with
  | some _, true, _ | none, true, .ok () => .Pending (some (stage_raised is_middleware))
  | some _, false, _ => .Pending none
  | none, _, _ => .Answered (Reply.error 500 (lit "internal error"))

/-! ### The stage that raised -/

/-- When the last executed body raised, the loop of `drive` is left with its
    exception, and with the kind of its stage. -/
theorem loop_raised (machinery : Machinery) {request : PyRequest} {stages : List Entry} (index : Nat)
    {started : Option Object} (is_middleware : Bool)
    (marked : ∀ entry ∈ stages, entry.is_async = entry.handler.coroutine_function)
    (own : ∀ entry ∈ stages.head?, Own entry.handler request started) {passing : List Ran} {last : Ran}
    {error : PyErr} (raised : last.returned = .error error)
    (ran : (machinery.loop request stages index started is_middleware).ran = passing ++ [last]) :
    (machinery.loop request stages index started is_middleware).exit = .raised error ∧
      ∃ entry, stages[passing.length]? = some entry ∧
        (machinery.loop request stages index started is_middleware).is_middleware = entry.is_middleware := by
  induction stages generalizing index started is_middleware passing with
  | nil => simp [Machinery.loop] at ran
  | cons entry stages ih =>
    rw [Machinery.loop] at ran ⊢
    cases thrown : machinery.thrown_before index with
    | some error => simp [thrown] at ran
    | none =>
      obtain ⟨returned, evaluated, -⟩ := value_once machinery index (marked entry (by simp)) (own entry (by simp))
      rw [thrown] at ran
      dsimp only at ran ⊢
      rw [evaluated] at ran ⊢
      cases mapped : returned.map Object.value with
      | error other =>
        simp only [mapped] at ran ⊢
        obtain ⟨rfl, same⟩ := List.append_inj' (show [] ++ [_] = passing ++ [last] from ran) rfl
        cases same
        rw [map_value_error mapped] at raised
        cases raised
        exact ⟨rfl, entry, rfl, rfl⟩
      | ok value =>
        simp only [mapped] at ran ⊢
        have returns : ∀ error, returned ≠ .error error := by
          rintro error rfl
          cases mapped
        split at ran
        · rename_i continues
          rw [if_pos continues]
          cases passing with
          | nil =>
            obtain ⟨same, -⟩ := List.cons.inj ran
            rw [← same] at raised
            exact absurd raised (returns error)
          | cons first passing =>
            obtain ⟨-, behind⟩ := List.cons.inj ran
            exact ih (index + 1) entry.is_middleware (fun other member => marked other (by simp [member]))
              (fun other _ => Or.inl rfl) behind
        · obtain ⟨-, same⟩ := List.append_inj' (show [] ++ [_] = passing ++ [last] from ran) rfl
          cases same
          exact absurd raised (returns error)

/-- The stage of an index is a middleware when it comes before the handler. -/
theorem stages_is_middleware (route : Route) {index : Nat} {entry : Entry} (found : route.stages[index]? = some entry) :
    entry.is_middleware = decide (index < route.middlewares.length) := by
  rw [route.built, entries] at found
  by_cases inside : index < route.middlewares.length
  · rw [List.getElem?_append_left (by simpa using inside), List.getElem?_map] at found
    obtain ⟨stage, -, rfl⟩ := Option.map_eq_some_iff.mp found
    exact (decide_eq_true inside).symm
  · rw [List.getElem?_append_right (by simpa using inside)] at found
    obtain rfl := List.mem_singleton.mp (List.mem_of_getElem? found)
    exact (decide_eq_false inside).symm

theorem drive_raised (machinery : Machinery) (route : Route) {first : Nat} {entry : Entry}
    (found : route.stages[first]? = some entry) (request : PyRequest) (timeout : Option Nat) {passing : List Ran}
    {last : Ran} {error : PyErr} (raised : last.returned = .error error)
    (ran : (machinery.drive route.stages first request timeout (.coroutine entry.handler request)).ran =
      passing ++ [last]) :
    machinery.drive route.stages first request timeout (.coroutine entry.handler request) =
      if (machinery.leave timeout error).is_exception then
        ⟨some (stage_raised (decide (first + passing.length < route.middlewares.length))), .ok (), passing ++ [last]⟩
      else ⟨none, .error (machinery.leave timeout error), passing ++ [last]⟩ := by
  unfold Machinery.drive at ran ⊢
  rw [found] at ran ⊢
  dsimp only at ran ⊢
  have executed : (machinery.loop request (route.stages.drop first) first
      (some (.coroutine entry.handler request)) entry.is_middleware).ran = passing ++ [last] := by
    split at ran
    · exact ran
    · exact ran
    · split at ran <;> exact ran
  obtain ⟨exit, raiser, there, kind⟩ := loop_raised machinery first entry.is_middleware
    (fun other member => stages_marked route other (List.mem_of_mem_drop member)) (by
      intro other member
      rw [List.head?_drop, found] at member
      cases member
      exact Or.inr rfl) raised executed
  rw [List.getElem?_drop] at there
  rw [exit]
  dsimp only
  rw [kind, stages_is_middleware route there, executed]

/-- Where a body was executed behind the hand-over, every step up to `drive`
    succeeded. -/
theorem submitted_ran {machinery : Machinery} {route : Route} {first : Nat} {request : PyRequest} {started : Object}
    (ran : (machinery.submitted route first request started).2 ≠ []) :
    machinery.submitted route first request started =
      let driven := machinery.drive route.stages first request (machinery.pool.map AsyncPool.coroutine_timeout) started
      (match machinery.pool with
        | some _ => .ok driven.sent
        | none => do driven.left; machinery.run_end; pure driven.sent, driven.ran) := by
  unfold Machinery.submitted at ran ⊢
  split at ran
  · split at ran
    · split at ran
      · exact absurd rfl ran
      · rename_i installed _ _
        rw [installed]
        rfl
    · split at ran
      · exact absurd rfl ran
      · rename_i installed _ _
        rw [installed]
        rfl
  all_goals exact absurd rfl ran

theorem hand_off_raised (machinery : Machinery) (route : Route) {first : Nat} {stage : Stage}
    (found : route.chain[first]? = some stage) (request : PyRequest) {passing : List Ran} {last : Ran} {error : PyErr}
    (raised : last.returned = .error error)
    (ran : (machinery.hand_off route first request (.coroutine stage.callable request)).2 = passing ++ [last]) :
    (machinery.hand_off route first request (.coroutine stage.callable request)).1 =
      machinery.reports (decide (first + passing.length < route.middlewares.length)) error := by
  obtain ⟨entry, entry_found, handler⟩ :
      ∃ entry, route.stages[first]? = some entry ∧ entry.handler = stage.callable := by
    rw [← Option.map_eq_some_iff, ← List.getElem?_map, stages_functions, List.getElem?_map, found, Option.map_some]
  rw [← handler] at ran ⊢
  have executed :
      (machinery.submitted route first request (.coroutine entry.handler request)).2 = passing ++ [last] := by
    unfold Machinery.hand_off at ran
    split at ran
    all_goals
      rename_i result
      rw [result]
      exact ran
  have submitted := submitted_ran (by rw [executed]; simp)
  rw [submitted] at executed
  have driven := drive_raised machinery route entry_found request _ raised executed
  unfold Machinery.hand_off
  rw [submitted, driven]
  unfold Machinery.reports Machinery.leaving
  cases (machinery.leave (machinery.pool.map AsyncPool.coroutine_timeout) error).is_exception with
  | false => cases machinery.pool <;> rfl
  | true =>
    cases machinery.pool with
    | some pool => rfl
    | none => cases machinery.run_end <;> rfl

theorem inTheJob_cons {stage : Stage} {stages : List Stage} :
    InTheJob (stage :: stages) ↔ (stage.is_async && stage.callable.suspends) = false ∧ InTheJob stages :=
  List.forall_mem_cons

/-- The job reports what a stage raised in it; behind a stage that was handed
    off, the coroutine does. -/
theorem start_from_raised (machinery : Machinery) (route : Route) (request : PyRequest) {stages : List Stage}
    {index : Nat} (here : route.chain.drop index = stages) {passing : List Ran} {last : Ran} {error : PyErr}
    (raised : last.returned = .error error)
    (ran : (machinery.start_from route request stages index).2 = passing ++ [last]) :
    (machinery.start_from route request stages index).1 =
      if InTheJob (stages.take (passing.length + 1)) then
        .Answered (stage_raised (decide (index + passing.length < route.middlewares.length)))
      else machinery.reports (decide (index + passing.length < route.middlewares.length)) error := by
  induction stages generalizing index passing with
  | nil => simp [Machinery.start_from] at ran
  | cons stage stages ih =>
    obtain ⟨-, found, rest⟩ := drop_cons here
    rw [Machinery.start_from, in_job_cases] at ran ⊢
    rw [List.take_succ_cons]
    by_cases suspends : (stage.is_async && stage.callable.suspends) = true
    · rw [if_pos suspends] at ran ⊢
      rw [if_neg (by rw [inTheJob_cons, suspends]; simp)]
      exact hand_off_raised machinery route found request raised ran
    · have inline := Bool.not_eq_true _ ▸ suspends
      rw [if_neg suspends] at ran ⊢
      cases mapped : (stage.callable.body request).map Object.value with
      | error other =>
        simp only [mapped] at ran ⊢
        obtain ⟨rfl, -⟩ := List.append_inj' (show [] ++ [_] = passing ++ [last] from ran) rfl
        rw [if_pos (inTheJob_cons.mpr ⟨inline, by simp [InTheJob]⟩)]
        rfl
      | ok value =>
        simp only [mapped] at ran ⊢
        have returns : ∀ error, stage.callable.body request ≠ .error error := by
          intro error raises
          rw [raises] at mapped
          cases mapped
        split at ran
        · rename_i continues
          rw [if_pos continues]
          cases passing with
          | nil =>
            obtain ⟨same, -⟩ := List.cons.inj ran
            rw [← same] at raised
            exact absurd raised (returns error)
          | cons first passing =>
            obtain ⟨-, behind⟩ := List.cons.inj ran
            have later := ih rest behind
            rw [show index + 1 + passing.length = index + (passing.length + 1) by omega] at later
            simp only [inTheJob_cons, inline, true_and, List.length_cons]
            exact later
        · obtain ⟨-, same⟩ := List.append_inj' (show [] ++ [_] = passing ++ [last] from ran) rfl
          cases same
          exact absurd raised (returns error)

/-! ### The answer -/

/-- The response that the answer makes of what the job came to. -/
def Started.response (crates : Crates) : Started → Response
  | .Answered reply | .Pending (some reply) => reply.into_response crates
  | .Pending none => error_response 500 (lit "handler error")

/-- Where a body was executed, the job ran. -/
theorem answer_ran {machinery : Machinery} {crates : Crates} {route : Route} {request : PyRequest}
    (ran : (machinery.answer crates route request).ran ≠ []) :
    machinery.answer crates route request =
      ⟨(machinery.start_from route request route.chain 0).1.response crates,
        (machinery.start_from route request route.chain 0).2⟩ := by
  unfold Machinery.answer Machinery.start at ran ⊢
  split at ran
  · rename_i taken
    rw [if_pos taken]
    cases made : machinery.py_new with
    | error error =>
      rw [made] at ran
      exact absurd rfl ran
    | ok =>
      dsimp only
      cases machinery.start_from route request route.chain 0 with
      | mk started ran =>
        cases started with
        | Answered reply => rfl
        | Pending received => cases received <;> rfl
  · exact absurd rfl ran

theorem error_response_inj {status : Nat} {message other : Text}
    (same : error_response status message = error_response status other) : message = other := by
  have bodies : utf8 (message ++ ['\n']) = utf8 (other ++ ['\n']) := congrArg Response.body same
  have texts := congrArg from_utf8_lossy bodies
  rw [from_utf8_lossy_utf8, from_utf8_lossy_utf8] at texts
  exact List.append_cancel_right texts

/-- The text that names the stage of an index. -/
def Route.message (route : Route) (index : Nat) : Text :=
  if index < route.middlewares.length then lit "middleware error" else lit "handler error"

theorem stage_raised_response (crates : Crates) (route : Route) (index : Nat) :
    (stage_raised (decide (index < route.middlewares.length))).into_response crates =
      error_response 500 (route.message index) := by
  unfold Route.message
  by_cases middleware : index < route.middlewares.length
  · rw [decide_eq_true middleware, if_pos middleware]
    rfl
  · rw [decide_eq_false middleware, if_neg middleware]
    rfl

theorem message_handler {route : Route} {index : Nat} :
    lit "handler error" = route.message index ↔ route.middlewares.length ≤ index := by
  unfold Route.message
  split
  · rename_i middleware
    exact ⟨fun same => absurd same (by decide), fun handler => by omega⟩
  · rename_i handler
    exact ⟨fun _ => by omega, fun _ => rfl⟩

theorem message_internal (route : Route) (index : Nat) : lit "internal error" ≠ route.message index := by
  unfold Route.message
  split <;> decide

/-- What the coroutine makes of the exception names the stage. -/
theorem reports_iff (machinery : Machinery) (crates : Crates) (route : Route) (index : Nat) (error : PyErr) :
    (machinery.reports (decide (index < route.middlewares.length)) error).response crates =
        error_response 500 (route.message index) ↔
      ((machinery.leaving error).is_exception = true ∧ (machinery.pool.isSome = true ∨ machinery.run_end = .ok ())) ∨
        (route.middlewares.length ≤ index ∧ machinery.pool.isSome = true) := by
  have internal : error_response 500 (lit "internal error") ≠ error_response 500 (route.message index) :=
    fun same => message_internal route index (error_response_inj same)
  have dropped : error_response 500 (lit "handler error") = error_response 500 (route.message index) ↔
      route.middlewares.length ≤ index :=
    ⟨fun same => message_handler.mp (error_response_inj same), fun handler => by rw [message_handler.mpr handler]⟩
  have named := stage_raised_response crates route index
  unfold Machinery.reports
  cases exception : (machinery.leaving error).is_exception with
  | true =>
    cases machinery.pool with
    | some pool => simp [Started.response, named]
    | none =>
      cases machinery.run_end with
      | ok => simp [Started.response, named]
      | error other => simpa [Started.response, Reply.into_response, Reply.error] using internal
  | false =>
    cases machinery.pool with
    | some pool => simpa [Started.response] using dropped
    | none => simpa [Started.response, Reply.into_response, Reply.error] using internal

/-- The response to a stage that raised names the stage, exactly when the stage
    ran in the job, when the exception leaves the timeout block as an `Exception`
    (and `asyncio.run`, in place of a pool, ends well), or when it is the
    handler's and there is a pool. -/
theorem exception_reported_iff (machinery : Machinery) (crates : Crates) (route : Route) (request : PyRequest)
    {passing : List Ran} {last : Ran} {error : PyErr} (raised : last.returned = .error error)
    (ran : (machinery.answer crates route request).ran = passing ++ [last]) :
    (machinery.answer crates route request).response =
        error_response 500
          (if passing.length < route.middlewares.length then lit "middleware error" else lit "handler error") ↔
      InTheJob (route.chain.take (passing.length + 1)) ∨
        ((machinery.leaving error).is_exception = true ∧ (machinery.pool.isSome = true ∨ machinery.run_end = .ok ())) ∨
        (route.middlewares.length ≤ passing.length ∧ machinery.pool.isSome = true) := by
  have answers := @answer_ran machinery crates route request (by rw [ran]; simp)
  rw [answers] at ran ⊢
  have started := start_from_raised machinery route request (show route.chain.drop 0 = route.chain from rfl) raised ran
  rw [Nat.zero_add] at started
  change (machinery.start_from route request route.chain 0).1.response crates =
    error_response 500 (route.message passing.length) ↔ _
  rw [started]
  split
  · rename_i in_the_job
    exact iff_of_true (stage_raised_response crates route passing.length) (Or.inl in_the_job)
  · rename_i handed_off
    rw [reports_iff]
    exact (or_iff_right handed_off).symm

/-! A login check that waits for a task that was cancelled. -/

def cancelledRoute (error : PyErr) : Route :=
  Route.new [⟨⟨1, true, true, fun _ => .error error⟩, true, rfl⟩]
    ⟨⟨2, false, false, fun _ => .ok (.response ⟨200, [], utf8 (lit "welcome")⟩)⟩, false, rfl⟩

/-- Raised in the coroutine, an `Exception` of a middleware is reported as one. -/
theorem connection_error_reported :
    (calmMachinery.answer plainCrates (cancelledRoute (.exception (lit "ConnectionError"))) emptyRequest).response =
      error_response 500 (lit "middleware error") :=
  (@exception_reported_iff calmMachinery plainCrates (cancelledRoute (.exception (lit "ConnectionError"))) emptyRequest
    [] _ _ rfl rfl).mpr (Or.inr (Or.inl ⟨rfl, Or.inl rfl⟩))

/-- A cancellation that the middleware passes on is reported as the handler's
    error. -/
theorem cancellation_misreported :
    let answer := calmMachinery.answer plainCrates (cancelledRoute .cancelled) emptyRequest
    answer.ran.map Ran.returned = [.error .cancelled] ∧ (cancelledRoute .cancelled).middlewares.length = 1 ∧
      answer.response ≠ error_response 500 (lit "middleware error") := by
  refine ⟨rfl, rfl, fun same => ?_⟩
  have dropped : error_response 500 (lit "handler error") = error_response 500 (lit "middleware error") := same
  exact absurd (error_response_inj dropped) (by decide)

end SiphonHttp.Dispatch
