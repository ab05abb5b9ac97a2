import Mathlib.Data.List.Basic

/-!
A channel for one message. Sending takes the sender away, whether or not there
is a receiver left; a receiver that waits finds the message, or that there is no
sender and no message, or has to wait on.
-/
namespace SiphonHttp.Oneshot

/-- Whether its two ends are there, and the message that waits in it. -/
structure Channel (Message : Type*) where
  sender : Bool
  receiver : Bool
  message : Option Message
  deriving DecidableEq, Repr

/-- What a receiver finds: `ready none` is that nothing comes any more. -/
inductive Poll (Message : Type*)
  | pending
  | ready (received : Option Message)
  deriving DecidableEq, Repr

namespace Channel
variable {Message : Type*}

def new : Channel Message := ⟨true, true, none⟩

/-- The message comes back where nobody would receive it. -/
def send (channel : Channel Message) (message : Message) : Channel Message × Except Message Unit :=
  if channel.receiver then (⟨false, true, some message⟩, .ok ())
  else ({ channel with sender := false }, .error message)

def drop_sender (channel : Channel Message) : Channel Message := { channel with sender := false }

/-- A message that waits is dropped with the receiver. -/
def drop_receiver (channel : Channel Message) : Channel Message := ⟨channel.sender, false, none⟩

def poll (channel : Channel Message) : Poll Message :=
  match channel.message with
  | some message => .ready (some message)
  | none => if channel.sender then .pending else .ready none

/-- Sending takes the sender and leaves the receiver. -/
@[simp] theorem send_sender (channel : Channel Message) (message : Message) :
    (channel.send message).1.sender = false := by
  unfold send
  split <;> rfl

@[simp] theorem send_receiver (channel : Channel Message) (message : Message) :
    (channel.send message).1.receiver = channel.receiver := by
  unfold send
  split
  · rename_i there
    exact there.symm
  · rfl

theorem send_message {channel : Channel Message} (there : channel.receiver = true) (message : Message) :
    (channel.send message).1.message = some message := by
  rw [send, if_pos there]

end Channel

/-! ### Any channel -/

section
variable {Message : Type}

/-- What changes a channel. -/
inductive Use (Message : Type)
  | send (message : Message)
  | drop_sender
  | drop_receiver

/-- What takes the sender. -/
def Use.of_sender : Use Message → Bool
  | .send _ | .drop_sender => true
  | .drop_receiver => false

/-- Each end is taken once at most. -/
structure Owned (uses : List (Use Message)) : Prop where
  sender : uses.countP Use.of_sender ≤ 1
  receiver : uses.countP (!·.of_sender) ≤ 1

structure Implementation (Message : Type) where
  Contents : Type
  new : Contents
  send : Contents → Message → Contents × Except Message Unit
  drop_sender : Contents → Contents
  drop_receiver : Contents → Contents
  poll : Contents → Poll Message

namespace Implementation
variable (channel : Implementation Message)

def used (contents : channel.Contents) : Use Message → channel.Contents
  | .send message => (channel.send contents message).1
  | .drop_sender => channel.drop_sender contents
  | .drop_receiver => channel.drop_receiver contents

def after (uses : List (Use Message)) : channel.Contents := uses.foldl channel.used channel.new

/-- What the receiver finds, as long as it is there. Whether a message came back
    is for the sender, which does not look. -/
structure Documented : Prop where
  received : ∀ {uses message}, Owned uses → .drop_receiver ∉ uses → .send message ∈ uses →
    channel.poll (channel.after uses) = .ready (some message)
  closed : ∀ {uses}, Owned uses → .drop_receiver ∉ uses → .drop_sender ∈ uses →
    channel.poll (channel.after uses) = .ready none
  waits : ∀ {uses}, Owned uses → .drop_receiver ∉ uses → .drop_sender ∉ uses → (∀ message, .send message ∉ uses) →
    channel.poll (channel.after uses) = .pending

variable {channel}

theorem after_append (uses : List (Use Message)) (use : Use Message) :
    channel.after (uses ++ [use]) = channel.used (channel.after uses) use := by
  rw [after, List.foldl_append]
  rfl

/-- Two channels that do as documented are not told apart by their receivers. -/
theorem Documented.polled_alike {other : Implementation Message} (documented : channel.Documented)
    (alike : other.Documented) {uses : List (Use Message)} (owned : Owned uses) (there : .drop_receiver ∉ uses) :
    channel.poll (channel.after uses) = other.poll (other.after uses) := by
  by_cases sent : ∃ message, Use.send message ∈ uses
  · obtain ⟨message, sent⟩ := sent
    rw [documented.received owned there sent, alike.received owned there sent]
  · by_cases dropped : .drop_sender ∈ uses
    · rw [documented.closed owned there dropped, alike.closed owned there dropped]
    · have none_sent : ∀ message, .send message ∉ uses := not_exists.mp sent
      rw [documented.waits owned there dropped none_sent, alike.waits owned there dropped none_sent]

end Implementation

/-- An end that was not taken is still there to be. -/
theorem Owned.append {uses : List (Use Message)} (owned : Owned uses) {use : Use Message}
    (untaken : ∀ before ∈ uses, before.of_sender ≠ use.of_sender) : Owned (uses ++ [use]) := by
  refine ⟨?_, ?_⟩
  · rw [List.countP_append]
    cases taken : use.of_sender with
    | true =>
      have none_before : uses.countP Use.of_sender = 0 :=
        List.countP_eq_zero.mpr fun before member => by simpa [taken] using untaken before member
      simp [none_before, taken]
    | false => simpa [taken] using owned.sender
  · rw [List.countP_append]
    cases taken : use.of_sender with
    | true => simpa [taken] using owned.receiver
    | false =>
      have none_before : uses.countP (!·.of_sender) = 0 :=
        List.countP_eq_zero.mpr fun before member => by simpa [taken] using untaken before member
      simp [none_before, taken]

/-- With its receiver there, a channel saw one use at most. -/
theorem Owned.sender_only {uses : List (Use Message)} (owned : Owned uses) (there : .drop_receiver ∉ uses) :
    uses = [] ∨ ∃ use, uses = [use] := by
  have of_sender : ∀ use ∈ uses, use.of_sender = true := by
    rintro (message | _ | _) member
    · rfl
    · rfl
    · exact absurd member there
  have short : uses.length ≤ 1 := List.countP_eq_length.mpr of_sender ▸ owned.sender
  match uses with
  | [] => exact Or.inl rfl
  | [use] => exact Or.inr ⟨use, rfl⟩
  | _ :: _ :: _ => exact absurd short (by simp)

/-- The channel of this module. -/
def channel : Implementation Message :=
  ⟨Channel Message, .new, Channel.send, Channel.drop_sender, Channel.drop_receiver, Channel.poll⟩

theorem channel_documented : (channel : Implementation Message).Documented where
  received owned there sent := by
    obtain rfl | ⟨use, rfl⟩ := owned.sender_only there
    · cases sent
    · rw [← List.mem_singleton.mp sent]
      rfl
  closed owned there dropped := by
    obtain rfl | ⟨use, rfl⟩ := owned.sender_only there
    · cases dropped
    · rw [← List.mem_singleton.mp dropped]
      rfl
  waits owned there kept none_sent := by
    obtain rfl | ⟨use, rfl⟩ := owned.sender_only there
    · rfl
    · cases use with
      | send message => exact absurd (List.mem_singleton_self _) (none_sent message)
      | drop_sender => exact absurd (List.mem_singleton_self _) kept
      | drop_receiver => exact absurd (List.mem_singleton_self _) there

end
end SiphonHttp.Oneshot
