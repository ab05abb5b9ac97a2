import SiphonHttp.Text

/-!
Request parsing: path parameters, query strings and the percent-decoder they
share.
-/
namespace SiphonHttp.Parse
open Text

/-- A map from strings to strings. -/
abbrev Params := Finmap fun _ : Text => Text

/-! ## The percent-decoder -/

/-- `str::from_utf8`. -/
def from_utf8 (octets : Octets) : Option Text :=
  if utf8 (from_utf8_lossy octets) = octets then some (from_utf8_lossy octets) else none

/-- `char::to_digit(16)`. -/
def to_digit (c : Char) : Option Nat :=
  if '0' ≤ c ∧ c ≤ '9' then some (c.toNat - '0'.toNat)
  else if 'a' ≤ c ∧ c ≤ 'f' then some (c.toNat - 'a'.toNat + 10)
  else if 'A' ≤ c ∧ c ≤ 'F' then some (c.toNat - 'A'.toNat + 10)
  else none

/-- Digits read into a `u8`; a digit that is none or a value past 255 fails. -/
def u8_digits (digits : Text) : Option Nat :=
  digits.foldlM (fun value c => do
    let digit ← to_digit c
    if value * 16 + digit < 256 then some (value * 16 + digit) else none) 0

/-- `u8::from_str_radix(_, 16)`: digits, after one `+` at most. -/
def from_str_radix (hex : Text) : Option Nat :=
  match hex with
  | [] => none
  | ['+'] => none
  | ['-'] => none
  | '+' :: digits => u8_digits digits
  | digits => u8_digits digits

/-- `urldecode` from the octet it has come to. -/
def urldecode_from : Octets → Text
  | [] => []
  | byte :: rest =>
    if byte = 0x25 ∧ 2 ≤ rest.length then
      match (from_utf8 (rest.take 2)).bind from_str_radix with
      | some value => Char.ofNat value :: urldecode_from (rest.drop 2)
      -- A malformed escape: the `%` is copied, the loop resumes after it.
      | none => Char.ofNat byte.toNat :: urldecode_from rest
    else if byte = 0x2b then ' ' :: urldecode_from rest
    else Char.ofNat byte.toNat :: urldecode_from rest
termination_by octets => octets.length
decreasing_by all_goals simp [List.length_drop]

def urldecode (s : Text) : Text := urldecode_from (utf8 s)

/-- A slash is copied. -/
theorem urldecode_slash (s : Text) : urldecode ('/' :: s) = '/' :: urldecode s := by
  rw [urldecode, utf8_cons, show String.utf8EncodeChar '/' = [0x2f] by decide, List.singleton_append, urldecode_from]
  simp only [show ¬ ((0x2f : UInt8) = 0x25) by decide, show ¬ ((0x2f : UInt8) = 0x2b) by decide, false_and, ↓reduceIte]
  rfl

/-! ## Query strings -/

/-- `text.split_once(c)`. -/
def split_once (c : Char) (text : Text) : Option (Text × Text) :=
  if c ∈ text then some (text.takeWhile (· ≠ c), (text.dropWhile (· ≠ c)).tail) else none

def parse_query (q : Text) : Params :=
  if q = [] then ∅ else
    (q.splitOn '&').foldl (fun out pair =>
      match split_once '=' pair with
      | some (k, v) => out.insert (urldecode k) (urldecode v)
      | none => out.insert (urldecode pair) []) ∅

/-! ## Path parameters -/

/-- What a template segment of `extract_path_params` is taken for. -/
def starts_with (start text : Text) : Bool := start.isPrefixOf text
def ends_with (c : Char) (text : Text) : Bool := text.getLast? = some c

/-- `extract_path_params` from template segment `i` on. -/
def extract_from (a_segs : List Text) : Nat → List Text → Params → Params
  | _, [], out => out
  | i, t :: t_segs, out =>
    if starts_with ['{', '*'] t && ends_with '}' t then
      let name := (t.take (t.length - 1)).drop 2
      let rest := if i ≤ a_segs.length then join ['/'] (a_segs.drop i) else []
      out.insert name (urldecode rest)
    else if starts_with ['{'] t && ends_with '}' t then
      let name := (t.take (t.length - 1)).drop 1
      let name := ((split_once ':' name).map Prod.fst).getD name
      match a_segs[i]? with
      | some a => extract_from a_segs (i + 1) t_segs (out.insert name (urldecode a))
      | none => extract_from a_segs (i + 1) t_segs out
    else extract_from a_segs (i + 1) t_segs out

def extract_path_params (template actual : Text) : Params :=
  let t_segs := (trim_start_matches '/' template).splitOn '/'
  let a_segs := (trim_start_matches '/' actual).splitOn '/'
  extract_from a_segs 0 t_segs ∅

example :
    (extract_path_params (lit "/users/{id}/profile") (lit "/users/4%32/profile")).lookup (lit "id") = some (lit "42") := by
  decide +kernel
example : (parse_query (lit "a=1&b&a=2+3")).lookup (lit "a") = some (lit "2 3") := by decide +kernel

end SiphonHttp.Parse
