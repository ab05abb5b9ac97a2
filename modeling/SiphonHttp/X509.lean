import SiphonHttp.Cursor
import SiphonHttp.Der
import SiphonHttp.Net

/-!
`x509.rs`: the subject, the issuer and the subject alternative names of a
certificate, as texts.
-/
namespace SiphonHttp.X509
open Text Net Cursor

structure Names where
  subject : Text
  issuer : Text
  subject_alt_names : List (Text × Text)
  deriving DecidableEq, Repr

def SEQUENCE : UInt8 := 0x30
def SET : UInt8 := 0x31
def INTEGER : UInt8 := 0x02
def OCTET_STRING : UInt8 := 0x04
def OBJECT_IDENTIFIER : UInt8 := 0x06
def BOOLEAN : UInt8 := 0x01
def VERSION : UInt8 := 0xa0
def EXTENSIONS : UInt8 := 0xa3
def SUBJECT_ALT_NAME : Octets := [0x55, 0x1d, 0x11]

/-! ### Elements -/

/-- The length that an element's first length octet and what follows it give,
    and what is behind the length. -/
def read_length (first : UInt8) (rest : Octets) : Option (Nat × Octets) :=
  if first &&& 0x80 = 0 then some (first.toNat, rest)
  else
    let count := (first &&& 0x7f).toNat
    if count = 0 ∨ 4 < count ∨ rest.length < count then none
    else some (Der.value (rest.take count), rest.drop count)

def read_element : Octets → Option ((UInt8 × Octets) × Octets)
  | tag :: first :: rest =>
    if tag &&& 0x1f = 0x1f then none
    else
      match read_length first rest with
      | none => none
      | some (length, rest) =>
        if rest.length < length then none else some ((tag, rest.take length), rest.drop length)
  | _ => none

theorem read_length_shortens {first : UInt8} {rest behind : Octets} {length : Nat}
    (read : read_length first rest = some (length, behind)) : behind.length ≤ rest.length := by
  unfold read_length at read
  dsimp only at read
  split_ifs at read
  · cases read
    exact Nat.le_refl _
  · cases read
    simp

/-- One DER element: its tag and its content. -/
def element : Reader UInt8 (UInt8 × Octets) where
  read := read_element
  shortens := by
    intro input item rest read
    unfold read_element at read
    split at read
    · split_ifs at read
      split at read
      · cases read
      · rename_i tag first tail single length behind found
        split_ifs at read
        cases read
        have shorter := read_length_shortens found
        simp only [List.length_drop, List.length_cons]
        omega
    · cases read

/-- The content of the next element, which must have the tag. -/
def expect (tag : UInt8) : Reader UInt8 Octets where
  read input :=
    match element.read input with
    | some ((found, content), rest) => if found = tag then some (content, rest) else none
    | none => none
  shortens := by
    intro input content rest read
    split at read
    · rename_i found other remaining taken
      split_ifs at read
      cases read
      exact element.shortens taken
    · cases read

/-- An element with the tag is skipped when it comes first. -/
def skip (tag : UInt8) (input : Octets) : Option Octets :=
  if input.head? = some tag then (element.read input).map Prod.snd else some input

/-! ### Attributes -/

/-- The arcs read so far and the bits of the arc being read. -/
def read_arc : List UInt64 × UInt64 → UInt8 → List UInt64 × UInt64
  | (arcs, arc), octet =>
    let arc := (arc <<< 7) ||| (octet &&& 0x7f).toUInt64
    if octet &&& 0x80 ≠ 0 then (arcs, arc)
    else if arcs = [] then
      let first := min (arc / 40) 2
      ([first, arc - first * 40], 0)
    else (arcs ++ [arc], 0)

def dotted (identifier : Octets) : Text :=
  join ['.'] ((identifier.foldl read_arc ([], 0)).1.map fun arc => decimal arc.toNat)

def attribute_type (identifier : Octets) : Text :=
  match identifier with
  | [0x55, 0x04, 0x03] => lit "CN"
  | [0x55, 0x04, 0x05] => lit "serialNumber"
  | [0x55, 0x04, 0x06] => lit "C"
  | [0x55, 0x04, 0x07] => lit "L"
  | [0x55, 0x04, 0x08] => lit "ST"
  | [0x55, 0x04, 0x09] => lit "STREET"
  | [0x55, 0x04, 0x0a] => lit "O"
  | [0x55, 0x04, 0x0b] => lit "OU"
  | [0x09, 0x92, 0x26, 0x89, 0x93, 0xf2, 0x2c, 0x64, 0x01, 0x19] => lit "DC"
  | [0x09, 0x92, 0x26, 0x89, 0x93, 0xf2, 0x2c, 0x64, 0x01, 0x01] => lit "UID"
  | [0x2a, 0x86, 0x48, 0x86, 0xf7, 0x0d, 0x01, 0x09, 0x01] => lit "emailAddress"
  | _ => dotted identifier

/-- `chunks_exact(2)` as big-endian units; an odd octet at the end is left out. -/
def be_units : Octets → List UInt16
  | high :: low :: rest => ((high.toUInt16 <<< 8) ||| low.toUInt16) :: be_units rest
  | _ => []

/-- The character at an index of a text that ends at `last`, escaped. -/
def escape_at (last index : Nat) (character : Char) : Text :=
  if character ∈ lit "\"+,;<>\\" then ['\\', character]
  else if (character = '#' ∨ character = ' ') ∧ index = 0 then ['\\', character]
  else if character = ' ' ∧ index = last then lit "\\ "
  else if character = '\x00' then lit "\\00"
  else [character]

def escaped (text : Text) : Text :=
  text.zipIdx.flatMap fun (character, index) => escape_at (text.length - 1) index character

def attribute_value (tag : UInt8) (value : Octets) : Text :=
  if tag = 0x0c ∨ tag = 0x13 ∨ tag = 0x14 ∨ tag = 0x16 ∨ tag = 0x12 then escaped (from_utf8_lossy value)
  else if tag = 0x1e then escaped (from_utf16_lossy (be_units value))
  else '#' :: value.flatMap hex02

/-! ### Names -/

def read_attribute (attributes : List Text) (octets : Octets) : Option (List Text) := do
  let (identifier, octets) ← (expect OBJECT_IDENTIFIER).read octets
  let ((tag, value), _) ← element.read octets
  some (attributes ++ [attribute_type identifier ++ '=' :: attribute_value tag value])

def read_rdn (rdns : List Text) (rdn : Octets) : Option (List Text) := do
  let attributes ← (expect SEQUENCE).fold read_attribute [] rdn
  some (rdns ++ [join ['+'] attributes])

def distinguished_name (name : Octets) : Option Text := do
  let rdns ← (expect SET).fold read_rdn [] name
  some (join [','] rdns.reverse)

def ip_address (octets : Octets) : Option Text :=
  match octets with
  | [a, b, c, d] => some (ipv4_text a b c d)
  | _ => if octets.length = 16 then some (ipv6_text (be_units octets)) else none

def read_general_name (found : List (Text × Text)) : UInt8 × Octets → Option (List (Text × Text))
  | (tag, content) =>
    some <| found ++
      if tag = 0x81 then [(lit "email", from_utf8_lossy content)]
      else if tag = 0x82 then [(lit "dns", from_utf8_lossy content)]
      else if tag = 0x86 then [(lit "uri", from_utf8_lossy content)]
      else if tag = 0x87 then ((ip_address content).map fun address => (lit "ip", address)).toList
      else []

def general_names (value : Octets) : Option (List (Text × Text)) := do
  let (names, _) ← (expect SEQUENCE).read value
  element.fold read_general_name [] names

/-! ### Certificates -/

def read_extension (subject_alt_names : List (Text × Text)) (extension : Octets) : Option (List (Text × Text)) := do
  let (identifier, extension) ← (expect OBJECT_IDENTIFIER).read extension
  let extension ← skip BOOLEAN extension
  let (value, _) ← (expect OCTET_STRING).read extension
  if identifier = SUBJECT_ALT_NAME then general_names value else some subject_alt_names

/-- What follows the public key: the unique identifiers and the extensions. -/
def read_tail (subject_alt_names : List (Text × Text)) : UInt8 × Octets → Option (List (Text × Text))
  | (tag, content) =>
    if tag ≠ EXTENSIONS then some subject_alt_names
    else do
      let (extensions, _) ← (expect SEQUENCE).read content
      (expect SEQUENCE).fold read_extension subject_alt_names extensions

def names (certificate : Octets) : Option Names := do
  let (certificate, _) ← (expect SEQUENCE).read certificate
  let (tbs, _) ← (expect SEQUENCE).read certificate
  let tbs ← skip VERSION tbs
  let (_, tbs) ← (expect INTEGER).read tbs
  let (_, tbs) ← (expect SEQUENCE).read tbs
  let (issuer, tbs) ← (expect SEQUENCE).read tbs
  let issuer ← distinguished_name issuer
  let (_, tbs) ← (expect SEQUENCE).read tbs
  let (subject, tbs) ← (expect SEQUENCE).read tbs
  let subject ← distinguished_name subject
  let (_, tbs) ← (expect SEQUENCE).read tbs
  let subject_alt_names ← element.fold read_tail [] tbs
  some ⟨subject, issuer, subject_alt_names⟩

example : attribute_type [0x2a, 0x86, 0x48, 0x86, 0xf7, 0x0d, 0x01, 0x01, 0x0b] = lit "1.2.840.113549.1.1.11" := by
  decide +kernel
example : escaped (lit " a,b ") = lit "\\ a\\,b\\ " := by decide +kernel
example : ip_address (List.replicate 15 0 ++ [1]) = some (lit "::1") := by decide +kernel

end SiphonHttp.X509
