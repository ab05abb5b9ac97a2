import SiphonHttp.Text

/-!
IP and socket addresses as the standard library reads and writes them: the
dotted form of an IPv4 address, the RFC 5952 form of an IPv6 address, and the
parser behind `str::parse::<IpAddr>()`.
-/
namespace SiphonHttp.Net
open Text

inductive IpAddr
  | v4 (a b c d : UInt8)
  | v6 (segments : Vector UInt16 8)
  deriving DecidableEq, Repr

/-- `scope_id` is zero but for link-local IPv6 peers. -/
structure SocketAddr where
  ip : IpAddr
  port : UInt16
  scope_id : UInt32
  deriving DecidableEq, Repr

/-! ## Writing -/

def ipv4_text (a b c d : UInt8) : Text :=
  join ['.'] ([a, b, c, d].map fun octet => decimal octet.toNat)

/-- The start and length of the run of zeros that has come to segment `i`, and
    of the longest run so far; the first of several longest ones is kept. -/
def zero_spans : Nat → List UInt16 → (current longest : Nat × Nat) → Nat × Nat
  | _, [], _, longest => longest
  | i, segment :: rest, (start, len), longest =>
    if segment = 0 then
      let current := if len = 0 then (i, 1) else (start, len + 1)
      zero_spans (i + 1) rest current (if longest.2 < current.2 then current else longest)
    else zero_spans (i + 1) rest (0, 0) longest

def segments_text (segments : List UInt16) : Text :=
  join [':'] (segments.map fun segment => hex segment.toNat)

def high (segment : UInt16) : UInt8 := UInt8.ofNat (segment.toNat / 256)
def low (segment : UInt16) : UInt8 := UInt8.ofNat (segment.toNat % 256)

def ipv6_text (segments : List UInt16) : Text :=
  match segments with
  -- An IPv4-mapped address ends in the dotted form.
  | [0, 0, 0, 0, 0, 0xffff, ab, cd] => lit "::ffff:" ++ ipv4_text (high ab) (low ab) (high cd) (low cd)
  | _ =>
    let (start, len) := zero_spans 0 segments (0, 0) (0, 0)
    if 1 < len then segments_text (segments.take start) ++ lit "::" ++ segments_text (segments.drop (start + len))
    else segments_text segments

def IpAddr.text : IpAddr → Text
  | .v4 a b c d => ipv4_text a b c d
  | .v6 segments => ipv6_text segments.toList

def SocketAddr.text (addr : SocketAddr) : Text :=
  match addr.ip with
  | .v4 .. => addr.ip.text ++ ':' :: decimal addr.port.toNat
  | .v6 _ =>
    let scope := if addr.scope_id = 0 then [] else '%' :: decimal addr.scope_id.toNat
    '[' :: addr.ip.text ++ scope ++ lit "]:" ++ decimal addr.port.toNat

/-! ## Reading -/

/-- A reader takes what it can off the front of the text, or nothing. -/
abbrev Read (α : Type) := Text → Option (α × Text)

def digit (radix : Nat) (c : Char) : Option Nat :=
  let value :=
    if '0' ≤ c ∧ c ≤ '9' then some (c.toNat - '0'.toNat)
    else if 'a' ≤ c ∧ c ≤ 'z' then some (c.toNat - 'a'.toNat + 10)
    else if 'A' ≤ c ∧ c ≤ 'Z' then some (c.toNat - 'A'.toNat + 10)
    else none
  value.filter (· < radix)

/-- `read_number`: at most `max_digits` digits, below `bound`. -/
def read_number (radix max_digits bound : Nat) (leading_zeros : Bool) : Read Nat := fun input =>
  let digits := input.takeWhile fun c => (digit radix c).isSome
  let value := digits.foldl (fun value c => value * radix + (digit radix c).getD 0) 0
  if digits.length = 0 ∨ max_digits < digits.length then none
  else if !leading_zeros && digits.head? = some '0' && 1 < digits.length then none
  else if value < bound then some (value, input.drop digits.length) else none

def read_given_char (c : Char) : Read Unit
  | first :: rest => if first = c then some ((), rest) else none
  | [] => none

/-- `read_separator`: the separator stands before every element but the first. -/
def read_separator {α : Type} (separator : Char) (index : Nat) (inner : Read α) : Read α := fun input =>
  if 0 < index then (read_given_char separator input).bind fun (_, rest) => inner rest else inner input

def read_ipv4_addr : Read (UInt8 × UInt8 × UInt8 × UInt8) := fun input => do
  let octet (i : Nat) := read_separator '.' i (read_number 10 3 256 false)
  let (a, input) ← octet 0 input
  let (b, input) ← octet 1 input
  let (c, input) ← octet 2 input
  let (d, input) ← octet 3 input
  return ((.ofNat a, .ofNat b, .ofNat c, .ofNat d), input)

/-- `read_groups`: up to `left` further groups from the `i`-th on, the groups
    read, whether they end in a dotted IPv4 address, and what is left. -/
def read_groups : (left i : Nat) → Text → List UInt16 × Bool × Text
  | 0, _, input => ([], false, input)
  | left + 1, i, input =>
    -- A dotted address takes two groups.
    match if 0 < left then read_separator ':' i read_ipv4_addr input else none with
    | some ((a, b, c, d), rest) =>
      ([.ofNat (a.toNat * 256 + b.toNat), .ofNat (c.toNat * 256 + d.toNat)], true, rest)
    | none =>
      match read_separator ':' i (read_number 16 4 65536 true) input with
      | some (group, rest) =>
        let (groups, dotted, rest) := read_groups left (i + 1) rest
        (.ofNat group :: groups, dotted, rest)
      | none => ([], false, input)

/-- Eight groups, zeros standing between the head and the tail. -/
def spread (head tail : List UInt16) : Vector UInt16 8 :=
  Vector.ofFn fun i =>
    if i.val < 8 - tail.length then head.getD i.val 0 else tail.getD (i.val - (8 - tail.length)) 0

def read_ipv6_addr : Read (Vector UInt16 8) := fun input =>
  let (head, head_ipv4, rest) := read_groups 8 0 input
  if head.length = 8 then some (spread head [], rest)
  else if head_ipv4 then none
  else do
    let (_, rest) ← read_given_char ':' rest
    let (_, rest) ← read_given_char ':' rest
    let (tail, _, rest) := read_groups (7 - head.length) 0 rest
    return (spread head tail, rest)

def read_ip_addr : Read IpAddr := fun input =>
  match read_ipv4_addr input with
  | some ((a, b, c, d), rest) => some (.v4 a b c d, rest)
  | none => (read_ipv6_addr input).map fun (segments, rest) => (.v6 segments, rest)

/-- `text.parse::<IpAddr>().ok()`. -/
def parse_ip (text : Text) : Option IpAddr :=
  match read_ip_addr text with
  | some (ip, []) => some ip
  | _ => none

/-! ### Socket addresses -/

/-- `read_number` without a limit on the digits. -/
def read_whole_number (radix bound : Nat) : Read Nat := fun input => read_number radix input.length bound true input

def read_port : Read UInt16 := fun input => do
  let (_, input) ← read_given_char ':' input
  let (port, input) ← read_whole_number 10 65536 input
  return (.ofNat port, input)

def read_scope_id : Read UInt32 := fun input => do
  let (_, input) ← read_given_char '%' input
  let (scope_id, input) ← read_whole_number 10 4294967296 input
  return (.ofNat scope_id, input)

def read_socket_addr_v4 : Read SocketAddr := fun input => do
  let ((a, b, c, d), input) ← read_ipv4_addr input
  let (port, input) ← read_port input
  return (⟨.v4 a b c d, port, 0⟩, input)

def read_socket_addr_v6 : Read SocketAddr := fun input => do
  let (_, input) ← read_given_char '[' input
  let (segments, input) ← read_ipv6_addr input
  let (scope_id, input) := (read_scope_id input).getD (0, input)
  let (_, input) ← read_given_char ']' input
  let (port, input) ← read_port input
  return (⟨.v6 segments, port, scope_id⟩, input)

def read_socket_addr : Read SocketAddr := fun input =>
  match read_socket_addr_v4 input with
  | some read => some read
  | none => read_socket_addr_v6 input

/-- `text.parse::<SocketAddr>().ok()`. -/
def parse_socket_addr (text : Text) : Option SocketAddr :=
  match read_socket_addr text with
  | some (addr, []) => some addr
  | _ => none

def IpAddr.is_ipv4 : IpAddr → Bool
  | .v4 .. => true
  | .v6 _ => false

example : parse_ip (lit "10.0.0.1") = some (.v4 10 0 0 1) := by decide +kernel
example : parse_ip (lit "10.0.0.0/8") = none := by decide +kernel
example : (parse_ip (lit "2001:db8::7:0:0:1")).map IpAddr.text = some (lit "2001:db8::7:0:0:1") := by decide +kernel
example : (parse_ip (lit "::ffff:192.0.2.7")).map IpAddr.text = some (lit "::ffff:192.0.2.7") := by decide +kernel
example : parse_socket_addr (lit "[fe80::1%3]:08443") = some ⟨.v6 #v[0xfe80, 0, 0, 0, 0, 0, 0, 1], 8443, 3⟩ := by
  decide +kernel
example : parse_socket_addr (lit "localhost:8081") = none := by decide +kernel
example : parse_socket_addr (lit "127.0.0.1:65536") = none := by decide +kernel

end SiphonHttp.Net
