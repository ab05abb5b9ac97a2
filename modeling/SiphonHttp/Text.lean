import Mathlib

/-!
Texts and octets: what the standard library's strings do for the rest of the
development. A Rust string is the list of its characters, a byte slice the list
of its octets; `utf8` and `from_utf8_lossy` go between them.
-/
namespace SiphonHttp

/-- A string, as its characters. -/
abbrev Text := List Char
/-- A byte string. -/
abbrev Octets := List UInt8

/-- The characters of a literal. -/
def lit (literal : String) : Text := literal.toList

namespace Text

/-- `parts.join(separator)`. -/
def join (separator : Text) (parts : List Text) : Text := separator.intercalate parts

/-- `text.trim_start_matches(c)`: every leading `c` is dropped. -/
def trim_start_matches (c : Char) (text : Text) : Text := text.dropWhile (· == c)

/-- A number in decimal. -/
def decimal (n : Nat) : Text := Nat.toDigits 10 n
/-- `{:x}`. -/
def hex (n : Nat) : Text := Nat.toDigits 16 n
/-- `{:02x}` of one octet. -/
def hex02 (octet : UInt8) : Text := [Nat.digitChar (octet.toNat / 16), Nat.digitChar (octet.toNat % 16)]

/-! ## UTF-8 -/

/-- `text.as_bytes()`. -/
def utf8 (text : Text) : Octets := text.flatMap String.utf8EncodeChar

/-- The character whose UTF-8 form begins the octets, if one does. -/
def firstChar (octets : Octets) : Option Char := octets.toByteArray.utf8DecodeChar? 0

/-- Second octets that may follow a lead octet of a three or four octet form. -/
def mayFollow (lead second : UInt8) : Bool :=
  if lead = 0xe0 then 0xa0 ≤ second && second ≤ 0xbf
  else if lead = 0xed then 0x80 ≤ second && second ≤ 0x9f
  else if lead = 0xf0 then 0x90 ≤ second && second ≤ 0xbf
  else if lead = 0xf4 then 0x80 ≤ second && second ≤ 0x8f
  else 0xe0 ≤ lead && lead ≤ 0xf4 && 0x80 ≤ second && second ≤ 0xbf

/-- How many octets one replacement character stands for: the longest piece at
    the front of ill-formed octets that could have begun a character. -/
def illFormed : Octets → Nat
  | lead :: second :: third :: _ =>
    if mayFollow lead second then
      if 0xf0 ≤ lead && 0x80 ≤ third && third ≤ 0xbf then 3 else 2
    else 1
  | [lead, second] => if mayFollow lead second then 2 else 1
  | _ => 1

theorem illFormed_pos (octets : Octets) : 0 < illFormed octets := by
  unfold illFormed
  split
  · split_ifs <;> decide
  · split_ifs <;> decide
  · decide

/-- `String::from_utf8_lossy`: each ill-formed piece becomes U+FFFD. -/
def from_utf8_lossy (octets : Octets) : Text :=
  match octets with
  | [] => []
  | first :: rest =>
    match firstChar (first :: rest) with
    | some c => c :: from_utf8_lossy ((first :: rest).drop c.utf8Size)
    | none => '\uFFFD' :: from_utf8_lossy ((first :: rest).drop (illFormed (first :: rest)))
termination_by octets.length
decreasing_by
  · have := c.utf8Size_pos
    simp only [List.length_drop, List.length_cons]
    omega
  · have := illFormed_pos (first :: rest)
    simp only [List.length_drop, List.length_cons]
    omega

theorem utf8_cons (c : Char) (text : Text) : utf8 (c :: text) = String.utf8EncodeChar c ++ utf8 text := by
  simp [utf8]

theorem firstChar_encode (c : Char) (rest : Octets) : firstChar (String.utf8EncodeChar c ++ rest) = some c := by
  rw [firstChar, List.toByteArray_append]
  exact ByteArray.utf8DecodeChar?_utf8EncodeChar_append

/-- Reading back well-formed UTF-8 replaces nothing. -/
theorem from_utf8_lossy_utf8 (text : Text) : from_utf8_lossy (utf8 text) = text := by
  induction text with
  | nil => rw [show utf8 [] = [] from rfl, from_utf8_lossy]
  | cons c text ih =>
    obtain ⟨first, rest, split⟩ : ∃ first rest, utf8 (c :: text) = first :: rest := by
      cases form : utf8 (c :: text) with
      | nil =>
        have positive := c.utf8Size_pos
        have length := congrArg List.length form
        rw [utf8_cons, List.length_append, String.length_utf8EncodeChar] at length
        simp at length
        omega
      | cons first rest => exact ⟨first, rest, rfl⟩
    rw [split, from_utf8_lossy, ← split, utf8_cons, firstChar_encode]
    have dropped : (String.utf8EncodeChar c ++ utf8 text).drop c.utf8Size = utf8 text := by
      rw [← String.length_utf8EncodeChar c, List.drop_left]
    simp only [dropped, ih]

theorem utf8_injective : Function.Injective utf8 := Function.LeftInverse.injective from_utf8_lossy_utf8

theorem firstChar_eq {octets : Octets} {c : Char} (first : firstChar octets = some c) :
    ∃ rest, octets = String.utf8EncodeChar c ++ rest := by
  obtain ⟨rest, same⟩ := ByteArray.exists_of_utf8DecodeChar?_eq_some first
  refine ⟨rest.data.toList, ?_⟩
  have lists := congrArg (fun array : ByteArray => array.data.toList) same
  simpa using lists

/-- Where nothing was replaced, a text has the octets that it was read from. -/
theorem utf8_from_utf8_lossy {octets : Octets} (kept : '\uFFFD' ∉ from_utf8_lossy octets) :
    utf8 (from_utf8_lossy octets) = octets := by
  induction length : octets.length using Nat.strongRecOn generalizing octets with
  | _ length ih =>
    cases octets with
    | nil =>
      rw [from_utf8_lossy]
      rfl
    | cons first rest =>
      rw [from_utf8_lossy] at kept ⊢
      cases decoded : firstChar (first :: rest) with
      | none =>
        rw [decoded] at kept
        exact absurd (List.mem_cons_self ..) kept
      | some c =>
        rw [decoded] at kept
        obtain ⟨behind, split⟩ := firstChar_eq decoded
        have dropped : (first :: rest).drop c.utf8Size = behind := by
          rw [split, ← String.length_utf8EncodeChar c, List.drop_left]
        have shorter : behind.length < (first :: rest).length := by
          have positive := c.utf8Size_pos
          have whole := congrArg List.length split
          rw [List.length_append, String.length_utf8EncodeChar] at whole
          omega
        dsimp only at kept ⊢
        rw [dropped] at kept ⊢
        rw [utf8_cons, ih behind.length (length ▸ shorter) (List.not_mem_of_not_mem_cons kept) rfl, split]

/-! ## ASCII -/

/-- Every character is below U+0080. -/
def Ascii (text : Text) : Prop := ∀ c ∈ text, c.toNat < 128

instance (text : Text) : Decidable (Ascii text) := @List.decidableBAll Char (fun c => c.toNat < 128) _ text

/-- Each octet as the character with its code. -/
def latin1 (octets : Octets) : Text := octets.map fun octet => Char.ofNat octet.toNat

theorem Ascii.tail {c : Char} {text : Text} (ascii : Ascii (c :: text)) : Ascii text :=
  fun other member => ascii other (List.mem_cons_of_mem _ member)

theorem toNat_octet {c : Char} (ascii : c.toNat < 128) : (UInt8.ofNat c.toNat).toNat = c.toNat :=
  UInt8.toNat_ofNat_of_lt' (by rw [UInt8.size]; omega)

theorem octet_toNat (octet : UInt8) : (Char.ofNat octet.toNat).toNat = octet.toNat := by
  have small := octet.toNat_lt
  rw [Char.toNat_ofNat, if_pos (Or.inl (by omega))]

/-- Different octets are different characters. -/
theorem octet_injective {a b : UInt8} (same : Char.ofNat a.toNat = Char.ofNat b.toNat) : a = b := by
  have codes := congrArg Char.toNat same
  rw [octet_toNat, octet_toNat] at codes
  exact UInt8.toNat_inj.mp codes

theorem utf8_ascii_cons {c : Char} (ascii : c.toNat < 128) (text : Text) :
    utf8 (c :: text) = UInt8.ofNat c.toNat :: utf8 text := by
  have small : c.val.toNat ≤ 0x7f := by
    show c.toNat ≤ 127
    omega
  rw [utf8_cons, String.utf8EncodeChar]
  simp only [small, ↓reduceIte, List.singleton_append]
  rfl

/-- Taking the octets of a text for characters gives the text back only when it
    is ASCII: any other character has more octets than one. -/
theorem latin1_utf8 (text : Text) : latin1 (utf8 text) = text ↔ Ascii text := by
  constructor
  · intro same
    have length : (utf8 text).length = text.length := by
      rw [← congrArg List.length same, latin1, List.length_map]
    clear same
    have longer : ∀ text : Text, text.length ≤ (utf8 text).length := by
      intro text
      induction text with
      | nil => exact Nat.zero_le _
      | cons c text ih =>
        have positive := c.utf8Size_pos
        rw [utf8_cons, List.length_append, String.length_utf8EncodeChar, List.length_cons]
        omega
    induction text with
    | nil => exact fun c member => absurd member List.not_mem_nil
    | cons c text ih =>
      have positive := c.utf8Size_pos
      have least := longer text
      rw [utf8_cons, List.length_append, String.length_utf8EncodeChar, List.length_cons] at length
      have single : c.utf8Size = 1 := by omega
      intro other member
      rcases List.mem_cons.mp member with rfl | later
      · have small := Char.utf8Size_eq_one_iff.mp single
        exact Nat.lt_succ_of_le (UInt32.le_iff_toNat_le.mp small)
      · exact ih (by omega) other later
  · intro ascii
    induction text with
    | nil => rfl
    | cons c text ih =>
      have first : c.toNat < 128 := ascii c (List.mem_cons_self ..)
      rw [utf8_ascii_cons first, latin1, List.map_cons, toNat_octet first, Char.ofNat_toNat]
      exact congrArg _ (ih ascii.tail)

/-! ## Joined texts -/

theorem join_chars {separator : Text} {parts : List Text} {c : Char} (member : c ∈ join separator parts) :
    c ∈ separator ∨ ∃ part ∈ parts, c ∈ part := by
  unfold join at member
  induction parts with
  | nil => cases member
  | cons part parts ih =>
    cases parts with
    | nil => exact Or.inr ⟨part, List.mem_cons_self .., by simpa [List.intercalate] using member⟩
    | cons next parts =>
      rw [List.intercalate_cons_cons, List.mem_append, List.mem_append] at member
      rcases member with (here | between) | later
      · exact Or.inr ⟨part, List.mem_cons_self .., here⟩
      · exact Or.inl between
      · rcases ih later with between | ⟨other, listed, inside⟩
        · exact Or.inl between
        · exact Or.inr ⟨other, List.mem_cons_of_mem _ listed, inside⟩

/-! ## UTF-16 -/

/-- `String::from_utf16_lossy`: an unpaired surrogate becomes U+FFFD. -/
def from_utf16_lossy : List UInt16 → Text
  | [] => []
  | unit :: rest =>
    if unit < 0xd800 ∨ 0xdfff < unit then Char.ofNat unit.toNat :: from_utf16_lossy rest
    else if 0xdc00 ≤ unit then '\uFFFD' :: from_utf16_lossy rest
    else match rest with
      | [] => ['\uFFFD']
      | trail :: rest' =>
        if 0xdc00 ≤ trail ∧ trail ≤ 0xdfff then
          Char.ofNat (0x10000 + (unit.toNat - 0xd800) * 0x400 + (trail.toNat - 0xdc00)) :: from_utf16_lossy rest'
        else '\uFFFD' :: from_utf16_lossy (trail :: rest')

example : from_utf8_lossy [0x41, 0xe2, 0x82, 0x42, 0xff] = lit "A\uFFFDB\uFFFD" := by decide +kernel
example : from_utf16_lossy [0x41, 0xd83d, 0xde00, 0xd800] = lit "A😀\uFFFD" := by decide +kernel

end Text
end SiphonHttp
