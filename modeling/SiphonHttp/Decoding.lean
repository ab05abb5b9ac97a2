import SiphonHttp.Parse
import SiphonHttp.Percent

/-!
The percent-decoder against the grammar. `urldecode` works on octets and pushes
each decoded octet as a character of its own, so it undoes percent-encoding on
ASCII only (`urldecode_encodes_iff`); and the number parser that reads the two
digits takes a sign, so `%+h` is decoded where the grammar has no escape
(`urldecode_decode_iff`).
-/
namespace SiphonHttp.Parse
open Text Percent

/-! ### One step of the loop -/

theorem to_digit_eq (c : Char) : to_digit c = hexdig c := by
  have bounds (first last : Char) : first ≤ c ∧ c ≤ last ↔ first.toNat ≤ c.toNat ∧ c.toNat ≤ last.toNat := Iff.rfl
  simp only [to_digit, hexdig, bounds, Char.reduceToNat]
  split_ifs
  all_goals first | rfl | exact congrArg some (by omega)

theorem u8_digits_one (c : Char) : u8_digits [c] = hexdig c := by
  simp only [u8_digits, List.foldlM_cons, List.foldlM_nil, to_digit_eq]
  cases digit : hexdig c with
  | none => rfl
  | some value =>
    have small : value < 256 := by have := (hexdig_bounds digit).1; omega
    simp [small]

theorem u8_digits_two (high low : Char) : u8_digits [high, low] = code [high, low] := by
  simp only [u8_digits, List.foldlM_cons, List.foldlM_nil, to_digit_eq, code]
  cases first : hexdig high with
  | none => rfl
  | some h =>
    cases second : hexdig low with
    | none =>
      have small : h < 256 := by have := (hexdig_bounds first).1; omega
      simp [small]
    | some l =>
      have left := (hexdig_bounds first).1
      have right := (hexdig_bounds second).1
      have small : h < 256 := by omega
      have fits : h * 16 + l < 256 := by omega
      simp [small, fits, Nat.mul_comm 16 h]

/-- The number parser reads two digits, or one after a `+`. -/
theorem from_str_radix_pair (high low : Char) :
    from_str_radix [high, low] = if high = '+' then hexdig low else code [high, low] := by
  by_cases plus : high = '+'
  · subst plus
    rw [if_pos rfl]
    exact u8_digits_one low
  · rw [if_neg plus, ← u8_digits_two]
    simp [from_str_radix, plus]

theorem from_utf8_utf8 (text : Text) : from_utf8 (utf8 text) = some text := by
  rw [from_utf8, from_utf8_lossy_utf8, if_pos rfl]

@[simp] theorem urldecode_nil : urldecode [] = [] := by
  rw [urldecode, show utf8 [] = [] from rfl, urldecode_from]

theorem urldecode_plus (rest : Text) : urldecode ('+' :: rest) = ' ' :: urldecode rest := by
  rw [urldecode, utf8_ascii_cons (by decide), urldecode_from]
  rfl

theorem urldecode_other {c : Char} (ascii : c.toNat < 128) (percent : c ≠ '%') (plus : c ≠ '+') (rest : Text) :
    urldecode (c :: rest) = c :: urldecode rest := by
  have differs (other : Char) (known : other.toNat < 128) (ne : c ≠ other) :
      UInt8.ofNat c.toNat ≠ UInt8.ofNat other.toNat := by
    intro same
    have codes := congrArg UInt8.toNat same
    rw [toNat_octet ascii, toNat_octet known] at codes
    exact ne (Char.toNat_inj.mp codes)
  rw [urldecode, utf8_ascii_cons ascii, urldecode_from, toNat_octet ascii, Char.ofNat_toNat,
    if_neg fun escape => differs '%' (by decide) percent escape.1,
    if_neg (show UInt8.ofNat c.toNat ≠ 0x2b from differs '+' (by decide) plus)]
  rfl

/-- A `%` with two ASCII characters after it: what the number parser makes of
    them decides. -/
theorem urldecode_percent_pair {high low : Char} (left : high.toNat < 128) (right : low.toNat < 128) (rest : Text) :
    urldecode ('%' :: high :: low :: rest) =
      match from_str_radix [high, low] with
      | some value => Char.ofNat value :: urldecode rest
      | none => '%' :: urldecode (high :: low :: rest) := by
  have pair : from_utf8 [UInt8.ofNat high.toNat, UInt8.ofNat low.toNat] = some [high, low] := by
    rw [← from_utf8_utf8 [high, low], utf8_ascii_cons left, utf8_ascii_cons right]
    rfl
  have long : 2 ≤ (UInt8.ofNat high.toNat :: UInt8.ofNat low.toNat :: utf8 rest).length := by simp
  rw [urldecode, utf8_ascii_cons (c := '%') (by decide), utf8_ascii_cons left, utf8_ascii_cons right, urldecode_from,
    if_pos ⟨rfl, long⟩]
  simp only [List.take_succ_cons, List.take_zero, pair, Option.bind_some, List.drop_succ_cons, List.drop_zero]
  cases from_str_radix [high, low] with
  | some value => rfl
  | none =>
    dsimp only
    rw [urldecode, utf8_ascii_cons left, utf8_ascii_cons right]
    rfl

/-- A `%` with fewer than two characters after it is copied. -/
theorem urldecode_percent_short {rest : Text} (ascii : Ascii rest) (short : rest.length < 2) :
    urldecode ('%' :: rest) = '%' :: urldecode rest := by
  have length : (utf8 rest).length = rest.length := by
    rw [← congrArg List.length ((latin1_utf8 rest).mpr ascii), latin1, List.length_map]
  rw [urldecode, utf8_ascii_cons (c := '%') (by decide), urldecode_from, if_neg (by omega), if_neg (by decide)]
  rfl

theorem urldecode_escape {high low : Char} {first second : Nat} (left : hexdig high = some first)
    (right : hexdig low = some second) (rest : Text) :
    urldecode ('%' :: high :: low :: rest) = Char.ofNat (16 * first + second) :: urldecode rest := by
  rw [urldecode_percent_pair (hexdig_bounds left).2 (hexdig_bounds right).2, from_str_radix_pair,
    if_neg (hexdig_ne left).2.1, code_pair left right]

/-! ### Encoded octets -/

/-- What becomes of an octet that is encoded and decoded again. -/
def through (plain : UInt8 → Bool) (octet : UInt8) : Char :=
  if plain octet ∧ octet = 0x2b then ' ' else Char.ofNat octet.toNat

/-- Decoding an encoding gives a character for each octet: the one with its
    code, or a space where a `+` was left as it is. -/
theorem urldecode_encodes {plain : UInt8 → Bool} {plus : Bool} {octets : Octets} {text : Text}
    (ascii : ∀ octet, plain octet → octet.toNat < 128 ∧ octet ≠ 0x25) (encoded : Encodes plain plus octets text) :
    urldecode text = octets.map (through plain) := by
  induction encoded with
  | nil => exact urldecode_nil
  | @plain octet octets text stands rest ih =>
    obtain ⟨small, percent⟩ := ascii octet stands
    rw [List.map_cons, through]
    by_cases plus : octet = 0x2b
    · subst plus
      rw [if_pos ⟨stands, rfl⟩, ← ih]
      exact urldecode_plus text
    · have not_percent : Char.ofNat octet.toNat ≠ '%' := fun same => percent (octet_injective (b := 0x25) same)
      have not_plus : Char.ofNat octet.toNat ≠ '+' := fun same => plus (octet_injective (b := 0x2b) same)
      rw [if_neg fun both => plus both.2, ← ih]
      exact urldecode_other (by rw [octet_toNat]; exact small) not_percent not_plus text
  | @escape octet high low octets text coded first second rest ih =>
    have whole : 16 * (octet.toNat / 16) + octet.toNat % 16 = octet.toNat := Nat.div_add_mod _ _
    have not_plain : ¬(plain octet = true ∧ octet = 0x2b) := fun both => by simp [coded] at both
    rw [List.map_cons, through, if_neg not_plain, urldecode_escape first second, whole, ih]
  | @space octets text allowed rest ih =>
    have blank : through plain 0x20 = ' ' := by
      rw [through, if_neg fun both => absurd both.2 (by decide)]
      rfl
    rw [List.map_cons, blank, urldecode_plus, ih]

theorem unreserved_ascii (octet : UInt8) (stands : unreserved octet) :
    octet.toNat < 128 ∧ octet ≠ 0x25 ∧ octet ≠ 0x2b := by
  revert octet
  decide +kernel

/-- Percent-decoding undoes percent-encoding exactly on ASCII: each octet of a
    longer character comes back as a character of its own. -/
theorem urldecode_encodes_iff (s text : Text) (encoded : Encodes unreserved true (utf8 s) text) :
    urldecode text = s ↔ Ascii s := by
  have codes : urldecode text = latin1 (utf8 s) := by
    rw [urldecode_encodes (fun octet stands => ⟨(unreserved_ascii octet stands).1, (unreserved_ascii octet stands).2.1⟩)
      encoded]
    refine List.map_congr_left fun octet _ => ?_
    rw [through, if_neg]
    rintro ⟨stands, plus⟩
    exact (unreserved_ascii octet stands).2.2 plus
  rw [codes, latin1_utf8]

/-- `é` is sent as `%C3%A9` and read back as two characters. -/
theorem e_acute_encodes : Encodes unreserved true (utf8 (lit "é")) (lit "%C3%A9") :=
  .escape (by decide) (by decide) (by decide) (.escape (by decide) (by decide) (by decide) .nil)

theorem e_acute_lost :
    Encodes unreserved true (utf8 (lit "é")) (lit "%C3%A9") ∧ urldecode (lit "%C3%A9") ≠ lit "é" :=
  ⟨e_acute_encodes, by decide +kernel⟩

theorem e_acute_iff : urldecode (lit "%C3%A9") = lit "é" ↔ Ascii (lit "é") :=
  urldecode_encodes_iff (lit "é") (lit "%C3%A9") e_acute_encodes

/-! ### Malformed escapes -/

/-- Somewhere a `%` is followed by a `+` and a hexadecimal digit. -/
def SignedEscape (text : Text) : Prop := ∃ digit, (hexdig digit).isSome ∧ ['%', '+', digit] <:+: text

theorem signedEscape_cons (c : Char) (text : Text) :
    SignedEscape (c :: text) ↔
      (∃ digit rest, (hexdig digit).isSome ∧ c = '%' ∧ text = '+' :: digit :: rest) ∨ SignedEscape text := by
  constructor
  · rintro ⟨digit, hex, found⟩
    rcases List.infix_cons_iff.mp found with ⟨rest, here⟩ | later
    · obtain ⟨rfl, same⟩ := List.cons.inj here
      exact Or.inl ⟨digit, rest, hex, rfl, same.symm⟩
    · exact Or.inr ⟨digit, hex, later⟩
  · rintro (⟨digit, rest, hex, rfl, rfl⟩ | ⟨digit, hex, later⟩)
    · exact ⟨digit, hex, List.infix_cons_iff.mpr (Or.inl ⟨rest, rfl⟩)⟩
    · exact ⟨digit, hex, List.infix_cons_iff.mpr (Or.inr later)⟩

/-- Only `%` begins a signed escape. -/
theorem signedEscape_other {c : Char} (percent : c ≠ '%') (text : Text) :
    SignedEscape (c :: text) ↔ SignedEscape text := by
  rw [signedEscape_cons]
  constructor
  · rintro (⟨_, _, _, here, _⟩ | later)
    · exact absurd here percent
    · exact later
  · exact Or.inr

theorem not_signedEscape_nil : ¬SignedEscape [] := by
  rintro ⟨digit, -, found⟩
  exact absurd (List.infix_nil.mp found) (List.cons_ne_nil _ _)

/-- How a text begins, as the decoders tell it: nothing, a space written `+`,
    an escape, a signed escape, a `%` that is neither, or another character. -/
theorem decoding_cases {motive : Text → Prop} (nil : motive [])
    (plus : ∀ rest, motive rest → motive ('+' :: rest))
    (escape : ∀ high low first second rest, hexdig high = some first → hexdig low = some second → motive rest →
      motive ('%' :: high :: low :: rest))
    (signed : ∀ digit value rest, hexdig digit = some value → motive rest → motive ('%' :: '+' :: digit :: rest))
    (percent : ∀ rest, code rest = none → (∀ digit rest', rest = '+' :: digit :: rest' → hexdig digit = none) →
      motive rest → motive ('%' :: rest))
    (other : ∀ c rest, c ≠ '%' → c ≠ '+' → motive rest → motive (c :: rest)) (text : Text) : motive text := by
  induction size : text.length using Nat.strong_induction_on generalizing text with
  | _ n ih =>
    subst size
    have shorter (rest : Text) (less : rest.length < text.length) : motive rest := ih rest.length less rest rfl
    cases text with
    | nil => exact nil
    | cons c rest =>
      have tail : motive rest := shorter rest (by simp)
      by_cases is_percent : c = '%'
      · subst is_percent
        rcases rest with _ | ⟨high, _ | ⟨low, rest⟩⟩
        · exact percent [] rfl (fun _ _ same => by cases same) tail
        · exact percent [high] rfl (fun _ _ same => by cases same) tail
        · have deeper : motive rest := shorter rest (by simp; omega)
          cases right : hexdig low with
          | none => exact percent _ (by simp [code, right]) (fun _ _ same => by cases same; exact right) tail
          | some second =>
            by_cases sign : high = '+'
            · subst sign
              exact signed low second rest right deeper
            · cases left : hexdig high with
              | none =>
                exact percent _ (by simp [code, left]) (fun _ _ same => absurd (List.cons.inj same).1 sign) tail
              | some first => exact escape high low first second rest left right deeper
      · by_cases is_plus : c = '+'
        · subst is_plus
          exact plus rest tail
        · exact other c rest is_percent is_plus tail

theorem urldecode_signed {digit : Char} {value : Nat} (hex : hexdig digit = some value) (rest : Text) :
    urldecode ('%' :: '+' :: digit :: rest) = Char.ofNat value :: urldecode rest := by
  rw [urldecode_percent_pair (by decide) (hexdig_bounds hex).2, from_str_radix_pair, if_pos rfl, hex]

theorem decode_signed {digit : Char} {value : Nat} (hex : hexdig digit = some value) (rest : Text) :
    decode ('%' :: '+' :: digit :: rest) = '%' :: ' ' :: digit :: decode rest := by
  have malformed : code ('+' :: digit :: rest) = none := by
    rw [code, show hexdig '+' = none by decide]
    rfl
  rw [decode_percent malformed, decode_plus, decode_other (hexdig_ne hex).1 (hexdig_ne hex).2.1]

/-- A `%` that begins no escape, not even for the number parser, is copied. -/
theorem urldecode_percent {rest : Text} (ascii : Ascii rest) (malformed : code rest = none)
    (unsigned : ∀ digit rest', rest = '+' :: digit :: rest' → hexdig digit = none) :
    urldecode ('%' :: rest) = '%' :: urldecode rest := by
  rcases rest with _ | ⟨high, _ | ⟨low, rest⟩⟩
  · exact urldecode_percent_short ascii (by simp)
  · exact urldecode_percent_short ascii (by simp)
  · have unread : from_str_radix [high, low] = none := by
      rw [from_str_radix_pair]
      split_ifs with sign
      · subst sign
        exact unsigned low rest rfl
      · simpa [code] using malformed
    rw [urldecode_percent_pair (ascii high (by simp)) (ascii low (by simp)), unread]

theorem urldecode_length_le (s : Text) : Ascii s → (urldecode s).length ≤ (decode s).length := by
  induction s using decoding_cases with
  | nil => intro _; simp
  | plus rest ih =>
    intro ascii
    rw [urldecode_plus, decode_plus, List.length_cons, List.length_cons]
    exact Nat.succ_le_succ (ih ascii.tail)
  | escape high low first second rest left right ih =>
    intro ascii
    rw [urldecode_escape left right, decode_escape (code_pair left right rest), List.length_cons, List.length_cons]
    exact Nat.succ_le_succ (ih ascii.tail.tail.tail)
  | signed digit value rest hex ih =>
    intro ascii
    have least := ih ascii.tail.tail.tail
    rw [urldecode_signed hex, decode_signed hex]
    simp only [List.length_cons]
    omega
  | percent rest malformed unsigned ih =>
    intro ascii
    rw [urldecode_percent ascii.tail malformed unsigned, decode_percent malformed, List.length_cons, List.length_cons]
    exact Nat.succ_le_succ (ih ascii.tail)
  | other c rest is_percent is_plus ih =>
    intro ascii
    rw [urldecode_other (ascii c (List.mem_cons_self ..)) is_percent is_plus, decode_other is_percent is_plus,
      List.length_cons, List.length_cons]
    exact Nat.succ_le_succ (ih ascii.tail)

/-- On ASCII the decoder follows the grammar exactly when no `%` is followed by a
    `+` and a hexadecimal digit; those three it takes for an escape. -/
theorem urldecode_decode_iff (s : Text) (ascii : Ascii s) : urldecode s = decode s ↔ ¬SignedEscape s := by
  revert ascii
  induction s using decoding_cases with
  | nil =>
    intro _
    exact iff_of_true (by rw [urldecode_nil, decode]) not_signedEscape_nil
  | plus rest ih =>
    intro ascii
    rw [urldecode_plus, decode_plus, signedEscape_other (by decide), List.cons_inj_right]
    exact ih ascii.tail
  | escape high low first second rest left right ih =>
    intro ascii
    have unsigned : SignedEscape ('%' :: high :: low :: rest) ↔ SignedEscape (high :: low :: rest) := by
      rw [signedEscape_cons]
      refine or_iff_right ?_
      rintro ⟨_, _, _, _, same⟩
      exact (hexdig_ne left).2.1 (List.cons.inj same).1
    rw [urldecode_escape left right, decode_escape (code_pair left right rest), List.cons_inj_right, unsigned,
      signedEscape_other (hexdig_ne left).1, signedEscape_other (hexdig_ne right).1]
    exact ih ascii.tail.tail.tail
  | signed digit value rest hex ih =>
    intro ascii
    -- The three characters become one here and stay three in the reference.
    have shorter := urldecode_length_le rest ascii.tail.tail.tail
    refine iff_of_false ?_ fun none => none ⟨digit, by simp [hex], ⟨[], rest, rfl⟩⟩
    intro same
    rw [urldecode_signed hex, decode_signed hex] at same
    have lengths := congrArg List.length same
    simp only [List.length_cons] at lengths
    omega
  | percent rest malformed unsigned ih =>
    intro ascii
    have none_here : SignedEscape ('%' :: rest) ↔ SignedEscape rest := by
      rw [signedEscape_cons]
      refine or_iff_right ?_
      rintro ⟨digit, rest', hex, -, same⟩
      rw [unsigned digit rest' same] at hex
      cases hex
    rw [urldecode_percent ascii.tail malformed unsigned, decode_percent malformed, List.cons_inj_right, none_here]
    exact ih ascii.tail
  | other c rest is_percent is_plus ih =>
    intro ascii
    rw [urldecode_other (ascii c (List.mem_cons_self ..)) is_percent is_plus, decode_other is_percent is_plus,
      signedEscape_other is_percent, List.cons_inj_right]
    exact ih ascii.tail

/-- `%+1` is read as the character U+0001. -/
theorem signed_decoded : Ascii (lit "%+1") ∧ urldecode (lit "%+1") ≠ decode (lit "%+1") :=
  ⟨by decide +kernel, by decide +kernel⟩

/-- `%2+%4` holds malformed escapes only, and none with a sign. -/
theorem malformed_copied : urldecode (lit "%2+%4") = decode (lit "%2+%4") ↔ ¬SignedEscape (lit "%2+%4") :=
  urldecode_decode_iff (lit "%2+%4") (by decide +kernel)

end SiphonHttp.Parse
