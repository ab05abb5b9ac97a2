import SiphonHttp.Dispatch
import SiphonHttp.Guards

/-!
What the two loops of a request, `start` and `drive`, do together. Whatever the
machinery does, the executed bodies are those of the chain in order, and none is
executed behind one that did not return `None` (`answer_guarded`). When it works
and the stages raise nothing but `Exception`s, the answer is that of running the
stages one after the other (`answer_sequential`).
-/
namespace SiphonHttp.Dispatch
open Text Guards

theorem drop_cons {α : Type} {all rest : List α} {index : Nat} {first : α} (here : all.drop index = first :: rest) :
    index < all.length ∧ all[index]? = some first ∧ all.drop (index + 1) = rest := by
  have inside : index < all.length := by
    by_contra outside
    rw [List.drop_eq_nil_of_le (by omega)] at here
    cases here
  rw [List.drop_eq_getElem_cons inside] at here
  obtain ⟨rfl, rfl⟩ := List.cons.inj here
  exact ⟨inside, List.getElem?_eq_getElem inside, rfl⟩

/-! ### One stage -/

/-- The function's body was executed once, and the result is what it ended with:
    what it makes of the request, or an exception thrown into it. -/
def Once (callable : Callable) (request : PyRequest) (result : Except PyErr Object × List Ran) : Prop :=
  ∃ returned, result = (returned.map .value, [⟨callable, request, returned⟩]) ∧
    (returned = callable.body request ∨ ∃ error, returned = .error error)

/-- What a stage left running for `drive`: nothing, or its own coroutine. -/
def Own (callable : Callable) (request : PyRequest) (started : Option Object) : Prop :=
  started = none ∨ started = some (.coroutine callable request)

theorem map_value_none {returned : Except PyErr Value} {value : Object} (mapped : returned.map .value = .ok value)
    (is_none : value.is_none = true) : returned = .ok .none := by
  cases returned with
  | error error => cases mapped
  | ok inner =>
    cases mapped
    cases inner with
    | none => rfl
    | response response => cases is_none
    | other => cases is_none

theorem map_value_error {returned : Except PyErr Value} {error : PyErr}
    (mapped : returned.map Object.value = .error error) : returned = .error error := by
  cases returned with
  | error other =>
    cases mapped
    rfl
  | ok value => cases mapped

theorem call1_function {callable : Callable} (plain : callable.coroutine_function = false) (request : PyRequest) :
    callable.call1 request = ((callable.body request).map .value, [⟨callable, request, callable.body request⟩]) := by
  simp [Callable.call1, plain]

theorem call1_coroutine {callable : Callable} (async : callable.coroutine_function = true) (request : PyRequest) :
    callable.call1 request = (.ok (.coroutine callable request), []) := by
  simp [Callable.call1, async]

theorem await_once (machinery : Machinery) (index : Nat) (callable : Callable) (request : PyRequest) :
    Once callable request (machinery.await index (.coroutine callable request)) := by
  unfold Machinery.await
  cases thrown : machinery.thrown_into index with
  | some error => exact ⟨.error error, rfl, Or.inr ⟨error, rfl⟩⟩
  | none => exact ⟨callable.body request, rfl, Or.inl rfl⟩

/-- The value of a stage is awaited, or is what a call of a plain function
    hands back. -/
theorem value_cases (machinery : Machinery) (index : Nat) {entry : Entry}
    (marked : entry.is_async = entry.handler.coroutine_function) {request : PyRequest} {started : Option Object}
    (own : Own entry.handler request started) :
    machinery.value index entry request started = machinery.await index (.coroutine entry.handler request) ∨
      machinery.value index entry request started =
        ((entry.handler.body request).map .value, [⟨entry.handler, request, entry.handler.body request⟩]) := by
  rcases own with rfl | rfl
  · cases async : entry.handler.coroutine_function with
    | true =>
      left
      simp [Machinery.value, call1_coroutine async, marked, async]
    | false =>
      right
      rw [Machinery.value, call1_function async]
      cases returned : entry.handler.body request with
      | ok value => simp [Except.map, marked, async]
      | error error => simp [Except.map]
  · exact Or.inl rfl

theorem value_once (machinery : Machinery) (index : Nat) {entry : Entry}
    (marked : entry.is_async = entry.handler.coroutine_function) {request : PyRequest} {started : Option Object}
    (own : Own entry.handler request started) :
    Once entry.handler request (machinery.value index entry request started) := by
  rcases value_cases machinery index marked own with awaited | called
  · rw [awaited]
    exact await_once machinery index entry.handler request
  · exact ⟨entry.handler.body request, called, Or.inl rfl⟩

/-- A stage that cannot suspend runs in the job; any other leaves its coroutine,
    not started. -/
theorem in_job_cases (stage : Stage) (request : PyRequest) :
    stage.in_job request =
      if stage.is_async && stage.callable.suspends then (.suspends (.coroutine stage.callable request), [])
      else (.returned ((stage.callable.body request).map .value),
        [⟨stage.callable, request, stage.callable.body request⟩]) := by
  unfold Stage.in_job
  cases async : stage.callable.coroutine_function with
  | false =>
    rw [call1_function async, stage.marked, async]
    cases returned : stage.callable.body request <;> rfl
  | true =>
    rw [call1_coroutine async, stage.marked, async]
    cases suspends : stage.callable.suspends with
    | true => simp [run_coroutine_inline, suspends]
    | false => cases returned : stage.callable.body request <;> simp [run_coroutine_inline, suspends, returned, Except.map]

/-! ### Any machinery -/

/-- What a stage has to have done for the next one to be executed. -/
def ReturnedNone (ran : Ran) : Prop := ran.returned = .ok .none

/-- The execution was of the request, and ended as the function's body ends or
    with an exception thrown into it. -/
def Genuine (request : PyRequest) (ran : Ran) : Prop :=
  ran.request = request ∧ (ran.returned = ran.callable.body request ∨ ∃ error, ran.returned = .error error)

/-- A run of the functions of a chain on the request, guarded by each. -/
def GuardedRun (request : PyRequest) (chain : List Callable) (ran : List Ran) : Prop :=
  Guarded Ran.callable ReturnedNone chain ran ∧ ∀ run ∈ ran, Genuine request run

namespace GuardedRun
variable {request : PyRequest} {callable : Callable} {chain : List Callable} {ran : List Ran}

theorem idle (chain : List Callable) : GuardedRun request chain [] := ⟨.idle chain, by simp⟩

theorem one {returned : Except PyErr Value} (chain : List Callable)
    (genuine : returned = callable.body request ∨ ∃ error, returned = .error error) :
    GuardedRun request (callable :: chain) [⟨callable, request, returned⟩] := by
  refine ⟨@Guarded.last _ _ Ran.callable ReturnedNone ⟨callable, request, returned⟩ chain, ?_⟩
  intro run member
  obtain rfl := List.mem_singleton.mp member
  exact ⟨rfl, genuine⟩

theorem pass {returned : Except PyErr Value} (none : returned = .ok .none)
    (genuine : returned = callable.body request ∨ ∃ error, returned = .error error)
    (rest : GuardedRun request chain ran) :
    GuardedRun request (callable :: chain) (⟨callable, request, returned⟩ :: ran) := by
  refine ⟨@Guarded.pass _ _ Ran.callable ReturnedNone ⟨callable, request, returned⟩ chain ran none rest.1, ?_⟩
  intro run member
  rcases List.mem_cons.mp member with rfl | member
  · exact ⟨rfl, genuine⟩
  · exact rest.2 run member

end GuardedRun

theorem loop_guarded (machinery : Machinery) (request : PyRequest) (stages : List Entry) (index : Nat)
    (started : Option Object) (is_middleware : Bool)
    (marked : ∀ entry ∈ stages, entry.is_async = entry.handler.coroutine_function)
    (own : ∀ entry ∈ stages.head?, Own entry.handler request started) :
    GuardedRun request (stages.map Entry.handler) (machinery.loop request stages index started is_middleware).ran := by
  induction stages generalizing index started is_middleware with
  | nil => exact .idle _
  | cons entry stages ih =>
    rw [Machinery.loop]
    cases machinery.thrown_before index with
    | some error => exact .idle _
    | none =>
      obtain ⟨returned, evaluated, genuine⟩ :=
        value_once machinery index (marked entry (by simp)) (own entry (by simp))
      rw [evaluated]
      cases mapped : returned.map Object.value with
      | error error => exact .one _ genuine
      | ok value =>
        dsimp only
        split
        · rename_i continues
          have none := map_value_none mapped (by simp at continues; exact continues.2)
          refine .pass none genuine (ih _ _ _ (fun other member => marked other (by simp [member])) ?_)
          intro other _
          exact Or.inl rfl
        · exact .one _ genuine

theorem drive_guarded (machinery : Machinery) {stages : List Entry} {first : Nat} {entry : Entry}
    (found : stages[first]? = some entry) (request : PyRequest) (timeout : Option Nat)
    (marked : ∀ entry ∈ stages, entry.is_async = entry.handler.coroutine_function) :
    GuardedRun request ((stages.drop first).map Entry.handler)
      (machinery.drive stages first request timeout (.coroutine entry.handler request)).ran := by
  have guarded := loop_guarded machinery request (stages.drop first) first (some (.coroutine entry.handler request))
    entry.is_middleware (fun other member => marked other (List.mem_of_mem_drop member)) (by
      intro other member
      rw [List.head?_drop, found] at member
      cases member
      exact Or.inr rfl)
  unfold Machinery.drive
  rw [found]
  dsimp only
  split
  · exact guarded
  · exact guarded
  · split <;> exact guarded

theorem stages_marked (route : Route) :
    ∀ entry ∈ route.stages, entry.is_async = entry.handler.coroutine_function := by
  intro entry member
  rw [route.built, entries] at member
  rcases List.mem_append.mp member with member | member
  · obtain ⟨stage, -, rfl⟩ := List.mem_map.mp member
    exact stage.marked
  · obtain rfl := List.mem_singleton.mp member
    exact route.handler.marked

theorem stages_functions (route : Route) :
    route.stages.map Entry.handler = route.chain.map Stage.callable := by
  simp [route.built, entries, Route.chain, Function.comp_def]

theorem hand_off_guarded (machinery : Machinery) (route : Route) {first : Nat} {stage : Stage}
    (found : route.chain[first]? = some stage) (request : PyRequest) :
    GuardedRun request ((route.chain.drop first).map Stage.callable)
      (machinery.hand_off route first request (.coroutine stage.callable request)).2 := by
  have same : (route.stages.map Entry.handler)[first]? = some stage.callable := by
    rw [stages_functions, List.getElem?_map, found, Option.map_some]
  obtain ⟨entry, entry_found, handler⟩ : ∃ entry, route.stages[first]? = some entry ∧ entry.handler = stage.callable := by
    rw [List.getElem?_map, Option.map_eq_some_iff] at same
    exact same
  have driven := fun timeout => drive_guarded machinery entry_found request timeout (stages_marked route)
  rw [handler, List.map_drop, stages_functions, ← List.map_drop] at driven
  have submitted : GuardedRun request ((route.chain.drop first).map Stage.callable)
      (machinery.submitted route first request (.coroutine stage.callable request)).2 := by
    unfold Machinery.submitted
    split
    · split
      · split
        · exact .idle _
        · exact driven _
      · split
        · exact .idle _
        · exact driven _
    all_goals exact .idle _
  unfold Machinery.hand_off
  split
  · rename_i received ran result
    rwa [result] at submitted
  · rename_i error ran result
    rwa [result] at submitted

theorem start_from_guarded (machinery : Machinery) (route : Route) (request : PyRequest) (stages : List Stage)
    (index : Nat) (here : route.chain.drop index = stages) :
    GuardedRun request (stages.map Stage.callable) (machinery.start_from route request stages index).2 := by
  induction stages generalizing index with
  | nil => exact .idle _
  | cons stage stages ih =>
    obtain ⟨-, found, rest⟩ := drop_cons here
    rw [Machinery.start_from, in_job_cases]
    by_cases suspends : (stage.is_async && stage.callable.suspends) = true
    · rw [if_pos suspends]
      have handed := hand_off_guarded machinery route found request
      rw [here] at handed
      exact handed
    · rw [if_neg suspends]
      cases mapped : (stage.callable.body request).map Object.value with
      | error error => exact .one _ (Or.inl rfl)
      | ok value =>
        dsimp only
        split
        · rename_i continues
          have none := map_value_none mapped (by simp at continues; exact continues.2)
          exact .pass none (Or.inl rfl) (ih (index + 1) rest)
        · exact .one _ (Or.inl rfl)

theorem answer_guarded (machinery : Machinery) (crates : Crates) (route : Route) (request : PyRequest) :
    GuardedRun request (route.chain.map Stage.callable) (machinery.answer crates route request).ran := by
  have started : GuardedRun request (route.chain.map Stage.callable) (machinery.start route request).2 := by
    unfold Machinery.start
    cases machinery.py_new with
    | error error => exact .idle _
    | ok => exact start_from_guarded machinery route request route.chain 0 rfl
  unfold Machinery.answer
  split
  · split
    all_goals
      rename_i result
      rwa [result] at started
  · exact .idle _

/-- The executed bodies are the first of the chain, in order; behind one that did
    not return `None` there is none; and the handler's is among them only behind
    all middlewares, each of which returned `None`. -/
theorem stage_chain_guarded (machinery : Machinery) (crates : Crates) (route : Route) (request : PyRequest) :
    let ran := (machinery.answer crates route request).ran
    ran.map Ran.callable <+: route.chain.map Stage.callable ∧
      (∀ before stopped after, ran = before ++ stopped :: after → stopped.returned ≠ .ok .none → after = []) ∧
      (route.middlewares.length < ran.length →
        ∃ passing last, ran = passing ++ [last] ∧ passing.map Ran.callable = route.middlewares.map Stage.callable ∧
          (∀ run ∈ passing, run.returned = .ok .none) ∧ last.callable = route.handler.callable) ∧
      ∀ run ∈ ran, run.request = request ∧
        (run.returned = run.callable.body request ∨ ∃ error, run.returned = .error error) := by
  intro ran
  obtain ⟨guarded, genuine⟩ : GuardedRun request (route.chain.map Stage.callable) ran :=
    answer_guarded machinery crates route request
  refine ⟨guarded.in_order, ?_, ?_, genuine⟩
  · intro before stopped after split not_none
    by_contra more
    exact not_none (guarded.passed split more)
  · intro long
    rw [Route.chain, List.map_append, List.map_singleton] at guarded
    obtain ⟨passing, last, split, middlewares, handler, passed⟩ := guarded.reached (by simpa using long)
    exact ⟨passing, last, split, middlewares, passed, handler⟩

/-! ### Machinery that works -/

/-- No step outside the stages fails, and nothing is thrown into the coroutine:
    neither the expiry of its timeout nor anything else. -/
structure Machinery.Works (machinery : Machinery) : Prop where
  try_run : machinery.try_run = true
  py_new : machinery.py_new = .ok ()
  helpers : machinery.helpers = .ok ()
  sink : machinery.sink = .ok ()
  drive_call : machinery.drive_call = .ok ()
  submit : ∀ pool ∈ machinery.pool, pool.submit = .ok ()
  run_begin : machinery.run_begin = .ok ()
  run_end : machinery.run_end = .ok ()
  thrown_before : ∀ index, machinery.thrown_before index = none
  thrown_into : ∀ index, machinery.thrown_into index = none

/-- The reply to what a stage ended with. -/
def verdict (is_middleware : Bool) : Except PyErr Value → Reply
  | .ok (.response response) => .Script (ScriptReply.of response)
  | .ok _ =>
    Reply.error 500 (if is_middleware then lit "middleware must return Response or None" else lit "bad response")
  | .error _ => Reply.error 500 (if is_middleware then lit "middleware error" else lit "handler error")

/-- The stages one after the other: the first that is not a middleware returning
    `None` decides. -/
def sequential (request : PyRequest) : List Callable → Callable → Reply
  | [], handler => verdict false (handler.body request)
  | middleware :: middlewares, handler =>
    match middleware.body request with
    | .ok .none => sequential request middlewares handler
    | returned => verdict true returned

/-- The stages of the chain raise nothing but `Exception`s. -/
def Ordinary (request : PyRequest) (chain : List Callable) : Prop :=
  ∀ callable ∈ chain, ∀ error, callable.body request = .error error → error.is_exception = true

theorem sequential_passed {request : PyRequest} {middleware : Callable} (none : middleware.body request = .ok .none)
    (middlewares : List Callable) (handler : Callable) :
    sequential request (middleware :: middlewares) handler = sequential request middlewares handler := by
  rw [sequential, none]

theorem sequential_decided {request : PyRequest} {middleware : Callable}
    (decides : middleware.body request ≠ .ok .none) (middlewares : List Callable) (handler : Callable) :
    sequential request (middleware :: middlewares) handler = verdict true (middleware.body request) := by
  rw [sequential]
  split
  · rename_i none
    exact absurd none decides
  · rfl

theorem stage_response_verdict {returned : Except PyErr Value} {value : Object}
    (mapped : returned.map .value = .ok value) (is_middleware : Bool) :
    stage_response value is_middleware = verdict is_middleware returned := by
  cases returned with
  | error error => cases mapped
  | ok inner =>
    cases mapped
    cases inner <;> cases is_middleware <;> rfl

theorem stage_raised_verdict (is_middleware : Bool) (error : PyErr) :
    stage_raised is_middleware = verdict is_middleware (.error error) := by
  cases is_middleware <;> rfl

theorem value_works {machinery : Machinery} (works : machinery.Works) (index : Nat) {entry : Entry}
    (marked : entry.is_async = entry.handler.coroutine_function) {request : PyRequest} {started : Option Object}
    (own : Own entry.handler request started) :
    machinery.value index entry request started =
      ((entry.handler.body request).map .value, [⟨entry.handler, request, entry.handler.body request⟩]) := by
  rcases value_cases machinery index marked own with awaited | called
  · rw [awaited, Machinery.await, works.thrown_into]
  · exact called

/-- Leaving its loop so, `drive` delivers the reply. -/
def Loop.Delivers (loop : Loop) (reply : Reply) : Prop :=
  loop.exit = .responded reply ∨
    ∃ error, loop.exit = .raised error ∧ error.is_exception = true ∧ stage_raised loop.is_middleware = reply

theorem loop_passed {machinery : Machinery} (works : machinery.Works) {request : PyRequest} (entry : Entry)
    (marked : entry.is_async = entry.handler.coroutine_function) {started : Option Object}
    (own : Own entry.handler request started) (middleware : entry.is_middleware = true)
    (none : entry.handler.body request = .ok .none) (stages : List Entry) (index : Nat) (is_middleware : Bool)
    {reply : Reply} (rest : (machinery.loop request stages (index + 1) Option.none true).Delivers reply) :
    (machinery.loop request (entry :: stages) index started is_middleware).Delivers reply := by
  rw [Machinery.loop, works.thrown_before]
  dsimp only
  rw [value_works works index marked own, none, middleware]
  exact rest

theorem loop_decided {machinery : Machinery} (works : machinery.Works) {request : PyRequest} (entry : Entry)
    (marked : entry.is_async = entry.handler.coroutine_function) {started : Option Object}
    (own : Own entry.handler request started)
    (ordinary : ∀ error, entry.handler.body request = .error error → error.is_exception = true)
    (decides : entry.is_middleware = true → entry.handler.body request ≠ .ok .none)
    (stages : List Entry) (index : Nat) (is_middleware : Bool) :
    (machinery.loop request (entry :: stages) index started is_middleware).Delivers
      (verdict entry.is_middleware (entry.handler.body request)) := by
  rw [Machinery.loop, works.thrown_before]
  dsimp only
  rw [value_works works index marked own]
  cases mapped : (entry.handler.body request).map Object.value with
  | error error =>
    have raised := map_value_error mapped
    refine Or.inr ⟨error, rfl, ordinary error raised, ?_⟩
    rw [raised]
    exact stage_raised_verdict entry.is_middleware error
  | ok value =>
    dsimp only
    split
    · rename_i continues
      rw [Bool.and_eq_true] at continues
      exact absurd (map_value_none mapped continues.2) (decides continues.1)
    · exact Or.inl (congrArg Exit.responded (stage_response_verdict mapped entry.is_middleware))

theorem loop_sequential {machinery : Machinery} (works : machinery.Works) (request : PyRequest)
    (middlewares : List Stage) (handler : Stage) (index : Nat) (started : Option Object) (is_middleware : Bool)
    (ordinary : Ordinary request ((middlewares ++ [handler]).map Stage.callable))
    (own : ∀ stage ∈ (middlewares ++ [handler]).head?, Own stage.callable request started) :
    (machinery.loop request (entries middlewares handler) index started is_middleware).Delivers
      (sequential request (middlewares.map Stage.callable) handler.callable) := by
  induction middlewares generalizing index started is_middleware with
  | nil =>
    exact loop_decided works ⟨handler.callable, handler.is_async, false⟩ handler.marked (own handler rfl)
      (ordinary handler.callable (by simp)) (by simp) [] index is_middleware
  | cons middleware middlewares ih =>
    have first := own middleware rfl
    by_cases none : middleware.callable.body request = .ok .none
    · have rest := ih (index + 1) Option.none true (fun callable member => ordinary callable (by simp_all))
        (fun stage _ => Or.inl rfl)
      rw [List.map_cons, sequential_passed none]
      exact loop_passed works ⟨middleware.callable, middleware.is_async, true⟩ middleware.marked first rfl none
        (entries middlewares handler) index is_middleware rest
    · rw [List.map_cons, sequential_decided none]
      exact loop_decided works ⟨middleware.callable, middleware.is_async, true⟩ middleware.marked first
        (ordinary middleware.callable (by simp)) (fun _ => none) (entries middlewares handler) index is_middleware

theorem leave_exception (machinery : Machinery) (timeout : Option Nat) {error : PyErr}
    (exception : error.is_exception = true) : machinery.leave timeout error = error := by
  cases error with
  | exception name => rfl
  | cancelled => cases exception
  | base name => rfl

theorem drive_delivers (machinery : Machinery) {stages : List Entry} {first : Nat} {entry : Entry}
    (found : stages[first]? = some entry) (request : PyRequest) (timeout : Option Nat) (started : Object)
    {reply : Reply}
    (delivers : (machinery.loop request (stages.drop first) first (some started) entry.is_middleware).Delivers reply) :
    (machinery.drive stages first request timeout started).sent = some reply ∧
      (machinery.drive stages first request timeout started).left = .ok () := by
  unfold Machinery.drive
  rw [found]
  dsimp only
  rcases delivers with responded | ⟨error, raised, exception, same⟩
  · rw [responded]
    exact ⟨rfl, rfl⟩
  · rw [raised]
    dsimp only
    rw [leave_exception machinery timeout exception, if_pos exception, same]
    exact ⟨rfl, rfl⟩

theorem entries_drop {middlewares rest : List Stage} {index : Nat} (here : middlewares.drop index = rest)
    (inside : index ≤ middlewares.length) (handler : Stage) :
    (entries middlewares handler).drop index = entries rest handler := by
  rw [entries, List.drop_append_of_le_length (by simpa using inside), ← List.map_drop, here, entries]

/-- Handed off at a stage, the rest of the chain is answered as if it ran one
    stage after the other. -/
theorem hand_off_sequential {machinery : Machinery} (works : machinery.Works) (route : Route) (request : PyRequest)
    {rest : List Stage} {stage : Stage} {first : Nat} (here : route.middlewares.drop first = rest)
    (inside : first ≤ route.middlewares.length) (head : (rest ++ [route.handler]).head? = some stage)
    (ordinary : Ordinary request ((rest ++ [route.handler]).map Stage.callable)) :
    (machinery.hand_off route first request (.coroutine stage.callable request)).1 =
      .Pending (some (sequential request (rest.map Stage.callable) route.handler.callable)) := by
  have left : route.stages.drop first = entries rest route.handler := by
    rw [route.built]
    exact entries_drop here inside route.handler
  obtain ⟨entry, found⟩ : ∃ entry, route.stages[first]? = some entry := by
    rw [← List.head?_drop, left]
    cases rest <;> exact ⟨_, rfl⟩
  have delivers := loop_sequential works request rest route.handler first
    (some (.coroutine stage.callable request)) entry.is_middleware ordinary (by
      intro other member
      rw [head] at member
      cases member
      exact Or.inr rfl)
  rw [← left] at delivers
  have driven := fun timeout => drive_delivers machinery found request timeout _ delivers
  unfold Machinery.hand_off Machinery.submitted
  rw [works.helpers, works.sink, works.drive_call]
  cases installed : machinery.pool with
  | some pool =>
    dsimp only
    rw [works.submit pool installed]
    dsimp only
    rw [(driven _).1]
  | none =>
    dsimp only
    rw [works.run_begin]
    dsimp only
    rw [(driven _).1, (driven _).2, works.run_end]
    rfl

/-- The reply that a job or its coroutine comes to. -/
def Started.Replies (started : Started) (reply : Reply) : Prop :=
  started = .Answered reply ∨ started = .Pending (some reply)

theorem start_decided (machinery : Machinery) (route : Route) (request : PyRequest) {stage : Stage}
    (inline : ¬(stage.is_async && stage.callable.suspends) = true) {index : Nat}
    (decides : index < route.middlewares.length → stage.callable.body request ≠ .ok .none) (stages : List Stage) :
    (machinery.start_from route request (stage :: stages) index).1 =
      .Answered (verdict (decide (index < route.middlewares.length)) (stage.callable.body request)) := by
  rw [Machinery.start_from, in_job_cases, if_neg inline]
  cases mapped : (stage.callable.body request).map Object.value with
  | error error =>
    rw [map_value_error mapped]
    exact congrArg Started.Answered (stage_raised_verdict _ error)
  | ok value =>
    dsimp only
    split
    · rename_i continues
      rw [Bool.and_eq_true, decide_eq_true_eq] at continues
      exact absurd (map_value_none mapped continues.2) (decides continues.1)
    · exact congrArg Started.Answered (stage_response_verdict mapped _)

theorem start_passed (machinery : Machinery) (route : Route) (request : PyRequest) {stage : Stage}
    (inline : ¬(stage.is_async && stage.callable.suspends) = true) {index : Nat}
    (middleware : index < route.middlewares.length) (none : stage.callable.body request = .ok .none)
    (stages : List Stage) :
    (machinery.start_from route request (stage :: stages) index).1 =
      (machinery.start_from route request stages (index + 1)).1 := by
  rw [Machinery.start_from, in_job_cases, if_neg inline, none, decide_eq_true middleware]
  rfl

theorem start_handed (machinery : Machinery) (route : Route) (request : PyRequest) {stage : Stage}
    (suspends : (stage.is_async && stage.callable.suspends) = true) (stages : List Stage) (index : Nat) :
    (machinery.start_from route request (stage :: stages) index).1 =
      (machinery.hand_off route index request (.coroutine stage.callable request)).1 := by
  rw [Machinery.start_from, in_job_cases, if_pos suspends]

theorem start_from_sequential {machinery : Machinery} (works : machinery.Works) (route : Route) (request : PyRequest)
    (rest : List Stage) (index : Nat) (here : route.middlewares.drop index = rest)
    (inside : index ≤ route.middlewares.length)
    (ordinary : Ordinary request ((rest ++ [route.handler]).map Stage.callable)) :
    (machinery.start_from route request (rest ++ [route.handler]) index).1.Replies
      (sequential request (rest.map Stage.callable) route.handler.callable) := by
  induction rest generalizing index with
  | nil =>
    have last : ¬index < route.middlewares.length := by
      have := List.drop_eq_nil_iff.mp here
      omega
    by_cases suspends : (route.handler.is_async && route.handler.callable.suspends) = true
    · right
      rw [List.nil_append, start_handed machinery route request suspends]
      exact hand_off_sequential works route request here inside rfl ordinary
    · left
      rw [List.nil_append, start_decided machinery route request suspends (fun middleware => absurd middleware last),
        decide_eq_false last]
      rfl
  | cons middleware rest ih =>
    obtain ⟨guard, -, behind⟩ := drop_cons here
    by_cases suspends : (middleware.is_async && middleware.callable.suspends) = true
    · right
      rw [List.cons_append, start_handed machinery route request suspends]
      exact hand_off_sequential works route request here inside rfl ordinary
    · by_cases none : middleware.callable.body request = .ok .none
      · rw [List.cons_append, start_passed machinery route request suspends guard none, List.map_cons,
          sequential_passed none]
        exact ih (index + 1) behind guard (fun callable member => ordinary callable (by simp_all))
      · left
        rw [List.cons_append, start_decided machinery route request suspends (fun _ => none), decide_eq_true guard,
          List.map_cons, sequential_decided none]

theorem answer_sequential {machinery : Machinery} (works : machinery.Works) (crates : Crates) (route : Route)
    (request : PyRequest) (ordinary : Ordinary request (route.chain.map Stage.callable)) :
    (machinery.answer crates route request).response =
      (sequential request (route.middlewares.map Stage.callable) route.handler.callable).into_response crates := by
  have started := start_from_sequential works route request route.middlewares 0 rfl (Nat.zero_le _) ordinary
  unfold Machinery.answer Machinery.start
  rw [if_pos works.try_run, works.py_new]
  dsimp only
  change (machinery.start_from route request route.chain 0).1.Replies _ at started
  cases result : machinery.start_from route request route.chain 0 with
  | mk reached ran =>
    rw [result] at started
    rcases started with answered | pending
    · rw [show reached = _ from answered]
    · rw [show reached = _ from pending]

def calmMachinery : Machinery where
  try_run := true
  py_new := .ok ()
  helpers := .ok ()
  sink := .ok ()
  drive_call := .ok ()
  pool := some ⟨30, .ok ()⟩
  run_begin := .ok ()
  run_end := .ok ()
  thrown_before := fun _ => none
  thrown_into := fun _ => none
  expired := false

def plainCrates : Crates where
  header_name := fun name => some (from_utf8_lossy name)
  header_value := fun value => some (utf8 value)
  builds := fun _ => true
  too_large_headers := []
  too_large_body := utf8 (lit "length limit exceeded")

def emptyRequest : PyRequest :=
  ⟨lit "GET", lit "/", ∅, ∅, ∅, [], lit "192.0.2.1:4000", lit "192.0.2.1:4000", none, none⟩

end SiphonHttp.Dispatch
