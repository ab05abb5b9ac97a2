import SiphonHttp.Text

/-!
Responses, header maps and bodies. What the crates outside the repository decide
(which names and values are header fields, the text of a 413) is a parameter,
`Crates`; what they are documented to do is defined here.
-/
namespace SiphonHttp
open Text

/-- A header map: lower-cased names with the octets of their values, in the
    order received. -/
abbrev HeaderMap := List (Text × Octets)

/-- What the `http` and `tower-http` crates contribute. -/
structure Crates where
  /-- `HeaderName::from_bytes`: the name in lower case, when it is one. -/
  header_name : Octets → Option Text
  /-- `HeaderValue::from_str`. -/
  header_value : Text → Option Octets
  /-- Whether a response builder has room for these fields. -/
  builds : HeaderMap → Bool
  /-- The fields and the body of `RequestBodyLimitLayer`'s own answer. -/
  too_large_headers : HeaderMap
  too_large_body : Octets

/-- An HTTP response as it is handed to the connection. -/
structure Response where
  status : Nat
  headers : HeaderMap
  body : Octets
  deriving DecidableEq, Repr

/-- `StatusCode::from_u16`: 100 to 999. -/
def StatusCode.from_u16 (status : UInt16) : Option Nat :=
  if 100 ≤ status.toNat ∧ status.toNat < 1000 then some status.toNat else none

/-- `HeaderValue::to_str`: visible ASCII, space and tab. -/
def to_str (value : Octets) : Option Text :=
  if value.all fun octet => (32 ≤ octet && octet < 127) || octet = 9 then
    some (value.map fun octet => Char.ofNat octet.toNat)
  else none

/-- `headers.get(name)`: the first value of the name. -/
def HeaderMap.get (headers : HeaderMap) (name : Text) : Option Octets := headers.lookup name

/-- `AxumResponse::new(Body::empty())` with a status. -/
def empty_response (status : Nat) : Response := ⟨status, [], []⟩

def error_response (status : Nat) (message : Text) : Response where
  status := status
  headers := [(lit "content-type", utf8 (lit "text/plain; charset=utf-8"))]
  body := utf8 (message ++ ['\n'])

/-- The 413 of `RequestBodyLimitLayer`. -/
def Crates.too_large (crates : Crates) : Response := ⟨413, crates.too_large_headers, crates.too_large_body⟩

/-- The fields of a script's response or of a guard that are valid fields, in
    order; the others are left out. -/
def Crates.valid_fields (crates : Crates) (fields : List (Text × Text)) : HeaderMap :=
  fields.filterMap fun (name, value) =>
    match crates.header_name (utf8 name), crates.header_value value with
    | some name, some value => some (name, value)
    | _, _ => none

/-! ### Bodies -/

/-- What reading a request body yields next: data, trailers, or an error of the
    connection or of a limit. -/
inductive Frame
  | data (octets : Octets)
  | trailers
  | error
  deriving DecidableEq, Repr

/-- A request body: its `Content-Length`, when it declares one, and the frames
    it arrives in. -/
structure Body where
  content_length : Option Nat
  frames : List Frame
  deriving DecidableEq, Repr

namespace Body

/-- The octets of all data frames. -/
def octets (body : Body) : Octets :=
  body.frames.flatMap fun
    | .data octets => octets
    | _ => []

/-- The body arrives to its end. -/
def Complete (body : Body) : Prop := Frame.error ∉ body.frames

/-- `BodyExt::collect`: the data of all frames, or the first error. -/
def collect : List Frame → Option Octets
  | [] => some []
  | .data octets :: frames => (collect frames).map (octets ++ ·)
  | .trailers :: frames => collect frames
  | .error :: _ => none

/-- `Limited`: the frame that goes past what remains is an error, and nothing
    is read after it. -/
def limit_frames : Nat → List Frame → List Frame
  | _, [] => []
  | remaining, .data octets :: frames =>
    if remaining < octets.length then [.error] else .data octets :: limit_frames (remaining - octets.length) frames
  | remaining, .trailers :: frames => .trailers :: limit_frames remaining frames
  | _, .error :: _ => [.error]

def limited (body : Body) (limit : Nat) : Body := { body with frames := limit_frames limit body.frames }

theorem octets_cons_data (length : Option Nat) (octets : Octets) (frames : List Frame) :
    Body.octets ⟨length, .data octets :: frames⟩ = octets ++ Body.octets ⟨length, frames⟩ := rfl
theorem octets_cons_trailers (length : Option Nat) (frames : List Frame) :
    Body.octets ⟨length, .trailers :: frames⟩ = Body.octets ⟨length, frames⟩ := rfl

/-- A body within the limit that arrives completely is collected as it is; one
    past the limit is an error, however it is split. -/
theorem collect_limited (body : Body) (limit : Nat) (complete : body.Complete) :
    collect (body.limited limit).frames = if body.octets.length ≤ limit then some body.octets else none := by
  obtain ⟨length, frames⟩ := body
  show collect (limit_frames limit frames) = _
  induction frames generalizing limit with
  | nil => simp [limit_frames, collect, octets]
  | cons frame frames ih =>
    have tail : Body.Complete ⟨length, frames⟩ := fun member => complete (List.mem_cons_of_mem _ member)
    cases frame with
    | error => exact absurd (List.mem_cons_self ..) complete
    | trailers =>
      rw [limit_frames, collect, octets_cons_trailers]
      exact ih limit tail
    | data chunk =>
      rw [limit_frames, octets_cons_data, List.length_append]
      split_ifs with past fits fits
      · omega
      · rfl
      · rw [collect, ih _ tail, if_pos (by omega), Option.map_some]
      · rw [collect, ih _ tail, if_neg (by omega), Option.map_none]

end Body
end SiphonHttp
