import SiphonHttp.Delivery
import SiphonHttp.Relay
import SiphonHttp.Server

/-!
What the crates outside the repository are documented to do, of those functions
that the model writes as definitions: `http`, `http-body-util`, `tower-http` and
the channel of `tokio`. Each is stated of anything in its place, and holds of the
definition. A function that does as documented is the definition, and a channel
that does is not told apart from it, so what is proved of the definitions is
proved of whatever does as documented.
-/
namespace SiphonHttp.Documented
open Text Dispatch Server Request Oneshot Runs

/-! ### Status codes and header values -/

/-- A status of at least 100 and less than 1000 is valid. -/
structure StatusCodes (from_u16 : UInt16 → Option Nat) : Prop where
  valid : ∀ status, 100 ≤ status.toNat → status.toNat < 1000 → from_u16 status = some status.toNat
  invalid : ∀ status, status.toNat < 100 ∨ 1000 ≤ status.toNat → from_u16 status = none

theorem statusCodes_iff {from_u16 : UInt16 → Option Nat} : StatusCodes from_u16 ↔ from_u16 = StatusCode.from_u16 := by
  constructor
  · intro documented
    funext status
    unfold StatusCode.from_u16
    split_ifs with three
    · exact documented.valid status three.1 three.2
    · exact documented.invalid status (by omega)
  · rintro rfl
    refine ⟨fun status least below => ?_, fun status outside => ?_⟩
    · rw [StatusCode.from_u16, if_pos ⟨least, below⟩]
    · rw [StatusCode.from_u16, if_neg (by omega)]

/-- Visible ASCII, space or tab. -/
def VisibleOctet (octet : UInt8) : Prop := 32 ≤ octet ∧ octet < 127 ∨ octet = 9

/-- A value is a text if it is visible, and then the one of its octets. -/
structure HeaderValues (to_str : Octets → Option Text) : Prop where
  reads : ∀ value, (∀ octet ∈ value, VisibleOctet octet) → ∃ text, to_str value = some text ∧ utf8 text = value
  refuses : ∀ value, ¬(∀ octet ∈ value, VisibleOctet octet) → to_str value = none

theorem all_visible_iff {value : Octets} :
    (value.all fun octet => (32 ≤ octet && octet < 127) || octet = 9) = true ↔ ∀ octet ∈ value, VisibleOctet octet := by
  simp [VisibleOctet]

theorem headerValues_to_str : HeaderValues to_str := by
  refine ⟨fun value visible => ?_, fun value hidden => ?_⟩
  · have read : to_str value = some (latin1 value) := if_pos (all_visible_iff.mpr visible)
    refine ⟨latin1 value, read, ?_⟩
    rw [utf8_octets (to_str_visible read).ascii, latin1, List.map_map]
    refine (List.map_congr_left fun octet _ => ?_).trans (List.map_id _)
    rw [Function.comp_apply, octet_toNat, UInt8.ofNat_toNat]
    rfl
  · rw [to_str, if_neg (mt all_visible_iff.mp hidden)]

theorem headerValues_iff {read : Octets → Option Text} : HeaderValues read ↔ read = to_str := by
  constructor
  · intro documented
    funext value
    by_cases visible : ∀ octet ∈ value, VisibleOctet octet
    · obtain ⟨text, is_read, octets⟩ := documented.reads value visible
      obtain ⟨text', is_read', octets'⟩ := headerValues_to_str.reads value visible
      rw [is_read, is_read', utf8_injective (octets.trans octets'.symm)]
    · rw [documented.refuses value visible, headerValues_to_str.refuses value visible]
  · rintro rfl
    exact headerValues_to_str

/-! ### Bodies -/

/-- The octets that the frames carry. -/
def carried (frames : List Frame) : Octets := Body.octets ⟨none, frames⟩

/-- A body is collected to the octets of all frames, or to its error. -/
structure Collects (collect : List Frame → Option Octets) : Prop where
  complete : ∀ frames, .error ∉ frames → collect frames = some (carried frames)
  fails : ∀ frames, .error ∈ frames → collect frames = none

theorem collects_collect : Collects Body.collect := by
  refine ⟨fun frames complete => ?_, fun frames error => ?_⟩
  · induction frames with
    | nil => rfl
    | cons frame frames ih =>
      have rest := ih fun member => complete (List.mem_cons_of_mem _ member)
      cases frame with
      | error => exact absurd (List.mem_cons_self ..) complete
      | trailers => exact rest
      | data octets =>
        rw [Body.collect, rest]
        rfl
  · induction frames with
    | nil => cases error
    | cons frame frames ih =>
      cases frame with
      | error => rfl
      | trailers => exact ih (by cases error; assumption)
      | data octets =>
        rw [Body.collect, ih (by cases error; assumption)]
        rfl

theorem collects_iff {collect : List Frame → Option Octets} : Collects collect ↔ collect = Body.collect := by
  constructor
  · intro documented
    funext frames
    by_cases error : .error ∈ frames
    · rw [documented.fails frames error, collects_collect.fails frames error]
    · rw [documented.complete frames error, collects_collect.complete frames error]
  · rintro rfl
    exact collects_collect

/-- A body passes as it is up to its limit; the frame that goes past it is an
    error, and behind an error there is nothing. -/
structure Limits (limited : Nat → List Frame → List Frame) : Prop where
  within : ∀ limit frames, .error ∉ frames → (carried frames).length ≤ limit → limited limit frames = frames
  past : ∀ limit before octets behind, .error ∉ before → (carried before).length ≤ limit →
    limit < (carried before).length + octets.length →
      limited limit (before ++ .data octets :: behind) = before ++ [.error]
  breaks : ∀ limit before behind, .error ∉ before → (carried before).length ≤ limit →
    limited limit (before ++ .error :: behind) = before ++ [.error]

theorem carried_append (frames more : List Frame) : carried (frames ++ more) = carried frames ++ carried more :=
  List.flatMap_append

/-- Frames that fit pass, and what is left of the limit goes on behind them. -/
theorem limit_frames_append {limit : Nat} {before : List Frame} (complete : .error ∉ before)
    (fits : (carried before).length ≤ limit) (behind : List Frame) :
    Body.limit_frames limit (before ++ behind) =
      before ++ Body.limit_frames (limit - (carried before).length) behind := by
  induction before generalizing limit with
  | nil => rfl
  | cons frame before ih =>
    have rest : Frame.error ∉ before := fun member => complete (List.mem_cons_of_mem _ member)
    cases frame with
    | error => exact absurd (List.mem_cons_self ..) complete
    | trailers =>
      rw [List.cons_append, Body.limit_frames, ih rest fits]
      rfl
    | data octets =>
      have split : (carried (.data octets :: before)).length = octets.length + (carried before).length :=
        List.length_append
      rw [split] at fits ⊢
      rw [List.cons_append, Body.limit_frames, if_neg (by omega), ih rest (by omega), Nat.sub_sub]
      rfl

theorem limits_limit_frames : Limits Body.limit_frames := by
  refine ⟨fun limit frames complete fits => ?_, fun limit before octets behind complete fits past => ?_,
    fun limit before behind complete fits => ?_⟩
  · have whole := limit_frames_append complete fits []
    rwa [List.append_nil, Body.limit_frames, List.append_nil] at whole
  · rw [limit_frames_append complete fits, Body.limit_frames, if_pos (by omega)]
  · rw [limit_frames_append complete fits, Body.limit_frames]

/-- Any frames fit, go past the limit in one of them, or break before. -/
theorem limited_cases (limit : Nat) (frames : List Frame) :
    (.error ∉ frames ∧ (carried frames).length ≤ limit) ∨
      ∃ before frame behind, frames = before ++ frame :: behind ∧ .error ∉ before ∧ (carried before).length ≤ limit ∧
        (frame = .error ∨ ∃ octets, frame = .data octets ∧ limit < (carried before).length + octets.length) := by
  induction frames using List.reverseRecOn with
  | nil => exact Or.inl ⟨List.not_mem_nil, Nat.zero_le _⟩
  | append_singleton frames frame ih =>
    rcases ih with ⟨complete, fits⟩ | ⟨before, stop, behind, rfl, complete, fits, stops⟩
    · cases frame with
      | error => exact Or.inr ⟨frames, .error, [], rfl, complete, fits, Or.inl rfl⟩
      | trailers =>
        refine Or.inl ⟨by simpa using complete, ?_⟩
        rw [carried_append]
        simpa [carried, Body.octets] using fits
      | data octets =>
        have longer : (carried (frames ++ [.data octets])).length = (carried frames).length + octets.length := by
          rw [carried_append, List.length_append]
          simp [carried, Body.octets]
        by_cases past : limit < (carried frames).length + octets.length
        · exact Or.inr ⟨frames, .data octets, [], rfl, complete, fits, Or.inr ⟨octets, rfl, past⟩⟩
        · refine Or.inl ⟨by simpa using complete, ?_⟩
          rw [longer]
          exact Nat.le_of_not_lt past
    · exact Or.inr ⟨before, stop, behind ++ [frame], by rw [List.append_assoc]; rfl, complete, fits, stops⟩

theorem limits_iff {limited : Nat → List Frame → List Frame} : Limits limited ↔ limited = Body.limit_frames := by
  constructor
  · intro documented
    funext limit frames
    rcases limited_cases limit frames with ⟨complete, fits⟩ | ⟨before, stop, behind, rfl, complete, fits, stops⟩
    · rw [documented.within limit frames complete fits, limits_limit_frames.within limit frames complete fits]
    · rcases stops with rfl | ⟨octets, rfl, past⟩
      · rw [documented.breaks limit before behind complete fits,
          limits_limit_frames.breaks limit before behind complete fits]
      · rw [documented.past limit before octets behind complete fits past,
          limits_limit_frames.past limit before octets behind complete fits past]
  · rintro rfl
    exact limits_limit_frames

/-! ### Layers -/

/-- A response that is not there in time is a 504 instead, at that time; what was
    started by then runs on, and what was not never does. -/
structure TimesOut (layer : Nat → Served → Served) : Prop where
  in_time : ∀ timeout inner, ¬Elapsed timeout inner.took → layer timeout inner = inner
  response : ∀ timeout inner, Elapsed timeout inner.took →
    (layer timeout inner).response = empty_response 504 ∧ (layer timeout inner).took = timeout
  runs_on : ∀ timeout inner, Elapsed timeout inner.took → ¬Elapsed timeout inner.started →
    (layer timeout inner).ran = inner.ran
  never_starts : ∀ timeout inner, Elapsed timeout inner.took → Elapsed timeout inner.started →
    (layer timeout inner).ran = []
  keeps : ∀ timeout inner, Elapsed timeout inner.took →
    (layer timeout inner).admits = inner.admits ∧ (layer timeout inner).started = inner.started

theorem timesOut_iff {layer : Nat → Served → Served} : TimesOut layer ↔ layer = timeout_layer := by
  constructor
  · intro documented
    funext timeout inner
    unfold timeout_layer
    split_ifs with elapsed started
    · obtain ⟨response, took⟩ := documented.response timeout inner elapsed
      obtain ⟨admits, same_start⟩ := documented.keeps timeout inner elapsed
      have ran := documented.never_starts timeout inner elapsed started
      cases after : layer timeout inner
      simp_all
    · obtain ⟨response, took⟩ := documented.response timeout inner elapsed
      obtain ⟨admits, same_start⟩ := documented.keeps timeout inner elapsed
      have ran := documented.runs_on timeout inner elapsed started
      cases after : layer timeout inner
      simp_all
    · exact documented.in_time timeout inner elapsed
  · rintro rfl
    refine ⟨fun timeout inner in_time => timeout_layer_in_time in_time, ?_, ?_, ?_, ?_⟩
    · intro timeout inner elapsed
      rw [timeout_layer, if_pos elapsed]
      exact ⟨rfl, rfl⟩
    · intro timeout inner elapsed started
      rw [timeout_layer, if_pos elapsed]
      exact if_neg started
    · intro timeout inner elapsed started
      rw [timeout_layer, if_pos elapsed]
      exact if_pos started
    · intro timeout inner elapsed
      rw [timeout_layer, if_pos elapsed]
      exact ⟨rfl, rfl⟩

/-- A body that declares more than the limit is a 413 at once; any other is handed
    on under the limit, and under what it declares. -/
structure LimitsBodies (crates : Crates) (layer : Nat → Body → (Body → Served) → Served) : Prop where
  too_large : ∀ limit body inner length, body.content_length = some length → limit < length →
    layer limit body inner = Served.at_once crates.too_large
  declared : ∀ limit body inner length, body.content_length = some length → length ≤ limit →
    layer limit body inner = inner (body.limited length)
  undeclared : ∀ limit body inner, body.content_length = none → layer limit body inner = inner (body.limited limit)

theorem limitsBodies_iff {crates : Crates} {layer : Nat → Body → (Body → Served) → Served} :
    LimitsBodies crates layer ↔ layer = limit_layer crates := by
  constructor
  · intro documented
    funext limit body inner
    unfold limit_layer
    cases declared : body.content_length with
    | none => exact documented.undeclared limit body inner declared
    | some length =>
      dsimp only
      split_ifs with past
      · exact documented.too_large limit body inner length declared past
      · rw [Nat.min_eq_right (Nat.le_of_not_lt past)]
        exact documented.declared limit body inner length declared (Nat.le_of_not_lt past)
  · rintro rfl
    refine ⟨fun limit body inner length declared past => ?_, fun limit body inner length declared fits => ?_,
      fun limit body inner undeclared => ?_⟩
    · rw [limit_layer, declared]
      exact if_pos past
    · rw [limit_layer, declared]
      dsimp only
      rw [if_neg (Nat.not_lt.mpr fits), Nat.min_eq_right fits]
    · rw [limit_layer, undeclared]

/-! ### The channel -/

/-- A request that was handed off, over any channel. -/
structure Handed (channel : Implementation Reply) where
  sink : Option ResponseSink
  contents : channel.Contents
  answer : Waiting
  sent : List Reply

namespace Handed
variable {channel : Implementation Reply}

def new : Handed channel := ⟨some ⟨some .sender⟩, channel.new, .waits, []⟩

def deliver (request : Handed channel) (sink : ResponseSink) (response : Reply) : Handed channel :=
  match sink.sender with
  | some _ =>
    { request with
      sink := some ⟨none⟩
      contents := (channel.send request.contents response).1
      sent := request.sent ++ [response] }
  | none => request

def act (crates : Crates) (request : Handed channel) : Dispatch.Action → Option (Handed channel)
  | .respond value is_middleware =>
    request.sink.map fun sink => request.deliver sink (stage_response value is_middleware)
  | .raised _ is_middleware =>
    request.sink.map fun sink => request.deliver sink (stage_raised is_middleware)
  | .drop_sink =>
    request.sink.map fun sink =>
      { request with
        sink := none
        contents := if sink.sender.isSome then channel.drop_sender request.contents else request.contents }
  | .poll =>
    match request.answer with
    | .waits =>
      match channel.poll request.contents with
      | .pending => some request
      | .ready (some reply) =>
        some { request with
          contents := channel.drop_receiver request.contents
          answer := .returned (reply.into_response crates) }
      | .ready none =>
        some { request with
          contents := channel.drop_receiver request.contents
          answer := .returned (error_response 500 (lit "handler error")) }
    | _ => none
  | .timeout =>
    match request.answer with
    | .waits => some { request with contents := channel.drop_receiver request.contents, answer := .dropped }
    | _ => none

/-- The same request over two channels that were used alike, each end once. -/
structure AlikeAfter (uses : List (Use Reply)) (request : Handed channel) (other : HandedOff) : Prop where
  sink : request.sink = other.sink
  answer : request.answer = other.answer
  sent : request.sent = other.sent
  contents : request.contents = channel.after uses
  others : other.channel = Oneshot.channel.after uses
  owned : Owned uses
  sender : request.sink = some ⟨some .sender⟩ → ∀ use ∈ uses, use.of_sender = false
  receiver : request.answer = .waits → .drop_receiver ∉ uses

def Alike (request : Handed channel) (other : HandedOff) : Prop := ∃ uses, AlikeAfter uses request other

variable {uses : List (Use Reply)} {request : Handed channel} {other : HandedOff}

/-- The sender is used, and gone. -/
theorem AlikeAfter.uses_sender (alike : AlikeAfter uses request other) (there : request.sink = some ⟨some .sender⟩)
    (use : Use Reply) (takes : use.of_sender = true) (sink : Option ResponseSink)
    (taken : sink ≠ some ⟨some .sender⟩) {sent sent' : List Reply} (same : sent = sent') :
    AlikeAfter (uses ++ [use])
      { request with sink := sink, contents := channel.used request.contents use, sent := sent }
      { other with sink := sink, channel := Oneshot.channel.used other.channel use, sent := sent' } where
  sink := rfl
  answer := alike.answer
  sent := same
  contents := by rw [Implementation.after_append, alike.contents]
  others := by rw [Implementation.after_append, alike.others]
  owned := alike.owned.append fun before member => by simp [takes, alike.sender there before member]
  sender still := absurd still taken
  receiver waits := by
    rw [List.mem_append, not_or]
    refine ⟨alike.receiver waits, ?_⟩
    rw [List.mem_singleton]
    rintro rfl
    cases takes

/-- The receiver is dropped, and nothing waits for it. -/
theorem AlikeAfter.drops_receiver (alike : AlikeAfter uses request other) (waits : request.answer = .waits)
    {answer : Waiting} (over_now : answer ≠ .waits) :
    AlikeAfter (uses ++ [.drop_receiver])
      { request with contents := channel.drop_receiver request.contents, answer := answer }
      { other with channel := other.channel.drop_receiver, answer := answer } where
  sink := alike.sink
  answer := rfl
  sent := alike.sent
  contents := by
    rw [Implementation.after_append, ← alike.contents]
    rfl
  others := by
    rw [Implementation.after_append, ← alike.others]
    rfl
  owned := alike.owned.append fun before member => by
    rintro same
    cases before with
    | send | drop_sender => cases same
    | drop_receiver => exact alike.receiver waits member
  sender there before member := by
    rcases List.mem_append.mp member with member | member
    · exact alike.sender there before member
    · rw [List.mem_singleton.mp member]
      rfl
  receiver still := absurd still over_now

/-- A call on the sink is heard once, with either. -/
theorem AlikeAfter.calls (alike : AlikeAfter uses request other) (reply : Reply) :
    Option.Rel Alike (request.sink.map fun sink => request.deliver sink reply)
      (other.sink.map fun sink => other.deliver sink reply) := by
  rw [← alike.sink]
  cases there : request.sink with
  | none => exact .none
  | some sink =>
    obtain ⟨sender⟩ := sink
    cases sender with
    | none => exact .some ⟨uses, alike⟩
    | some =>
      have sent : request.sent ++ [reply] = other.sent ++ [reply] := by rw [alike.sent]
      exact .some ⟨uses ++ [.send reply], alike.uses_sender there (.send reply) rfl (some ⟨none⟩) (by decide) sent⟩

theorem act_alike (documented : channel.Documented) (crates : Crates) {request : Handed channel} {other : HandedOff}
    (action : Dispatch.Action) (alike : Alike request other) :
    Option.Rel Alike (request.act crates action) (other.act crates action) := by
  obtain ⟨uses, alike⟩ := alike
  cases action with
  | respond value is_middleware => exact alike.calls (stage_response value is_middleware)
  | raised error is_middleware => exact alike.calls (stage_raised is_middleware)
  | drop_sink =>
    rw [act, HandedOff.act, ← alike.sink]
    cases there : request.sink with
    | none => exact .none
    | some sink =>
      obtain ⟨sender⟩ := sink
      cases sender with
      | none => exact .some ⟨uses, { alike with sink := rfl, sender := fun there => by cases there }⟩
      | some =>
        exact .some ⟨uses ++ [.drop_sender], alike.uses_sender there .drop_sender rfl none (by decide) alike.sent⟩
  | poll =>
    rw [act, HandedOff.act, ← alike.answer]
    cases answer : request.answer with
    | returned | dropped => exact .none
    | waits =>
      have polled : channel.poll request.contents = other.channel.poll := by
        rw [alike.contents, alike.others]
        exact documented.polled_alike channel_documented alike.owned (alike.receiver answer)
      dsimp only
      rw [polled]
      cases other.channel.poll with
      | pending => exact .some ⟨uses, alike⟩
      | ready received =>
        cases received with
        | none => exact .some ⟨_, alike.drops_receiver answer Waiting.noConfusion⟩
        | some reply => exact .some ⟨_, alike.drops_receiver answer Waiting.noConfusion⟩
  | timeout =>
    rw [act, HandedOff.act, ← alike.answer]
    cases answer : request.answer with
    | returned | dropped => exact .none
    | waits => exact .some ⟨_, alike.drops_receiver answer Waiting.noConfusion⟩

/-- Over any channel that does as documented a request is answered as over the
    one of the model, and has sent the same. -/
theorem answers_alike (documented : channel.Documented) (crates : Crates) (actions : List Dispatch.Action) :
    Option.Rel
      (fun request other => request.sink = other.sink ∧ request.answer = other.answer ∧ request.sent = other.sent)
      (run (act crates) (new : Handed channel) actions) (run (HandedOff.act crates) .new actions) := by
  have start : Alike (new : Handed channel) .new :=
    ⟨[], rfl, rfl, rfl, rfl, rfl, ⟨Nat.zero_le _, Nat.zero_le _⟩, fun _ _ member => (List.not_mem_nil member).elim,
      fun _ => List.not_mem_nil⟩
  have alike := run_alike (act_alike documented crates) start actions
  revert alike
  generalize run (act crates) new actions = last, run (HandedOff.act crates) .new actions = last'
  rintro (alike | _)
  · obtain ⟨uses, alike⟩ := alike
    exact .some ⟨alike.sink, alike.answer, alike.sent⟩
  · exact .none

/-- So over any of them the first reply is the one that is sent, and the answer is
    made of it. -/
theorem first_reply_answers (documented : channel.Documented) {crates : Crates} {actions : List Dispatch.Action}
    {last : Handed channel} (ran : run (act crates) new actions = some last) :
    last.sent = (deliveries actions).take 1 ∧
      ∀ response, last.answer = .returned response → response = outcome crates actions := by
  have alike := answers_alike documented crates actions
  rw [ran] at alike
  cases led : run (HandedOff.act crates) .new actions with
  | none =>
    rw [led] at alike
    cases alike
  | some other =>
    rw [led] at alike
    cases alike with
    | some same =>
      obtain ⟨-, answer, sent⟩ := same
      have after := run_after (after_new crates) led
      rw [answer, sent]
      exact ⟨after.sent, fun response answered => (after.returned response answered).2.1⟩

end Handed
end SiphonHttp.Documented
