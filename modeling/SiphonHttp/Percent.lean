import SiphonHttp.Text

/-!
Percent-encoding, after RFC 3986: which octets may stand as they are, how the
others are written, and the decoding that the grammar of a form asks for, where
`+` stands for a space.
-/
namespace SiphonHttp.Percent
open Text

/-! ### Hexadecimal digits -/

/-- The value of a hexadecimal digit, of either case. -/
def hexdig (c : Char) : Option Nat :=
  if '0' ≤ c ∧ c ≤ '9' then some (c.toNat - 48)
  else if 'a' ≤ c ∧ c ≤ 'f' then some (c.toNat - 87)
  else if 'A' ≤ c ∧ c ≤ 'F' then some (c.toNat - 55)
  else none

theorem hexdig_bounds {c : Char} {value : Nat} (digit : hexdig c = some value) : value < 16 ∧ c.toNat < 128 := by
  have bounds (first last : Char) : first ≤ c ∧ c ≤ last ↔ first.toNat ≤ c.toNat ∧ c.toNat ≤ last.toNat := Iff.rfl
  simp only [hexdig, bounds, Char.reduceToNat] at digit
  split_ifs at digit with decimal lower upper
  all_goals
    have same := Option.some.inj digit
    omega

theorem hexdig_ne {c : Char} {value : Nat} (digit : hexdig c = some value) : c ≠ '%' ∧ c ≠ '+' ∧ c ≠ '/' := by
  refine ⟨?_, ?_, ?_⟩
  all_goals
    rintro rfl
    simp [hexdig] at digit

/-! ### Encoding -/

/-- The unreserved characters: letters, digits and `-._~`. -/
def unreserved (octet : UInt8) : Bool :=
  (0x41 ≤ octet && octet ≤ 0x5a) || (0x61 ≤ octet && octet ≤ 0x7a) || (0x30 ≤ octet && octet ≤ 0x39) ||
    octet = 0x2d || octet = 0x2e || octet = 0x5f || octet = 0x7e

/-- What a path segment may hold as it is: the unreserved characters, the
    sub-delims `!$&'()*+,;=`, `:` and `@`. -/
def pchar (octet : UInt8) : Bool :=
  unreserved octet || octet = 0x21 || octet = 0x24 || (0x26 ≤ octet && octet ≤ 0x2c) || octet = 0x3b ||
    octet = 0x3d || octet = 0x3a || octet = 0x40

/-- `text` is an encoding of the octets: those that `plain` picks stand as they
    are, any other is `%` and its two digits, of either case, and a space may be
    `+` where `plus` says so. -/
inductive Encodes (plain : UInt8 → Bool) (plus : Bool) : Octets → Text → Prop
  | nil : Encodes plain plus [] []
  | plain {octet : UInt8} {octets : Octets} {text : Text} (stands : plain octet) (rest : Encodes plain plus octets text) :
    Encodes plain plus (octet :: octets) (Char.ofNat octet.toNat :: text)
  | escape {octet : UInt8} {high low : Char} {octets : Octets} {text : Text} (coded : plain octet = false)
    (first : hexdig high = some (octet.toNat / 16)) (second : hexdig low = some (octet.toNat % 16))
    (rest : Encodes plain plus octets text) : Encodes plain plus (octet :: octets) ('%' :: high :: low :: text)
  | space {octets : Octets} {text : Text} (allowed : plus) (rest : Encodes plain plus octets text) :
    Encodes plain plus (0x20 :: octets) ('+' :: text)

theorem Encodes.ne_nil {plain : UInt8 → Bool} {plus : Bool} {octets : Octets} {text : Text}
    (encoded : Encodes plain plus octets text) (some_octet : octets ≠ []) : text ≠ [] := by
  cases encoded with
  | nil => exact absurd rfl some_octet
  | plain => exact List.cons_ne_nil _ _
  | escape => exact List.cons_ne_nil _ _
  | space => exact List.cons_ne_nil _ _

/-! ### Decoding -/

/-- The code that the two characters after a `%` give. -/
def code : Text → Option Nat
  | high :: low :: _ => do some (16 * (← hexdig high) + (← hexdig low))
  | _ => none

/-- Decoding, from left to right: `%` with two hexadecimal digits is the
    character with that code, `+` is a space, any other character is itself. -/
def decode : Text → Text
  | [] => []
  | c :: rest =>
    if c = '%' then
      match code rest with
      | some value => Char.ofNat value :: decode (rest.drop 2)
      | none => '%' :: decode rest
    else if c = '+' then ' ' :: decode rest
    else c :: decode rest
termination_by text => text.length
decreasing_by all_goals simp [List.length_drop]

theorem code_pair {high low : Char} {first second : Nat} (left : hexdig high = some first)
    (right : hexdig low = some second) (rest : Text) : code (high :: low :: rest) = some (16 * first + second) := by
  simp [code, left, right]

theorem decode_escape {rest : Text} {value : Nat} (read : code rest = some value) :
    decode ('%' :: rest) = Char.ofNat value :: decode (rest.drop 2) := by
  rw [decode, if_pos rfl, read]

theorem decode_percent {rest : Text} (malformed : code rest = none) : decode ('%' :: rest) = '%' :: decode rest := by
  rw [decode, if_pos rfl, malformed]

theorem decode_plus (rest : Text) : decode ('+' :: rest) = ' ' :: decode rest := by
  rw [decode, if_neg (by decide), if_pos rfl]

theorem decode_other {c : Char} (percent : c ≠ '%') (plus : c ≠ '+') (rest : Text) :
    decode (c :: rest) = c :: decode rest := by
  rw [decode, if_neg percent, if_neg plus]

end SiphonHttp.Percent
