import SiphonHttp.Certificate
import SiphonHttp.DistinguishedName

/-!
Names whose values are strings, read back from their text. The string types
differ in how they hold characters, UTF-8 or UTF-16; as a text a value is its
characters, escaped, and a reader of such texts gets exactly these.
-/
namespace SiphonHttp

/-! ### UTF-16 -/

namespace Text

/-- A character as one unit, or as a pair of surrogates. -/
def utf16_units (c : Char) : List UInt16 :=
  if c.toNat < 0x10000 then [UInt16.ofNat c.toNat]
  else [UInt16.ofNat (0xd800 + (c.toNat - 0x10000) / 0x400), UInt16.ofNat (0xdc00 + (c.toNat - 0x10000) % 0x400)]

def utf16 (text : Text) : List UInt16 := text.flatMap utf16_units

theorem toNat_unit {n : Nat} (small : n < 0x10000) : (UInt16.ofNat n).toNat = n :=
  UInt16.toNat_ofNat_of_lt' small

theorem from_utf16_lossy_single {unit : UInt16} (single : unit < 0xd800 ∨ 0xdfff < unit) (rest : List UInt16) :
    from_utf16_lossy (unit :: rest) = Char.ofNat unit.toNat :: from_utf16_lossy rest := by
  cases rest with
  | nil => simp [from_utf16_lossy, single]
  | cons trail rest => rw [from_utf16_lossy, if_pos single]

theorem from_utf16_lossy_units (c : Char) (rest : List UInt16) :
    from_utf16_lossy (utf16_units c ++ rest) = c :: from_utf16_lossy rest := by
  have valid : c.toNat < 0xd800 ∨ 0xdfff < c.toNat ∧ c.toNat < 0x110000 := c.valid
  unfold utf16_units
  split_ifs with single
  · have unit := toNat_unit single
    have not_surrogate : UInt16.ofNat c.toNat < 0xd800 ∨ 0xdfff < UInt16.ofNat c.toNat := by
      rw [UInt16.lt_iff_toNat_lt, UInt16.lt_iff_toNat_lt, unit]
      exact valid.imp id And.left
    rw [List.singleton_append, from_utf16_lossy_single not_surrogate, unit, Char.ofNat_toNat]
  · have lead := @toNat_unit (0xd800 + (c.toNat - 0x10000) / 0x400) (by omega)
    have trail := @toNat_unit (0xdc00 + (c.toNat - 0x10000) % 0x400) (by omega)
    generalize UInt16.ofNat (0xd800 + (c.toNat - 0x10000) / 0x400) = high at lead
    generalize UInt16.ofNat (0xdc00 + (c.toNat - 0x10000) % 0x400) = low at trail
    have surrogate : ¬(high < 0xd800 ∨ 0xdfff < high) := by
      rw [UInt16.lt_iff_toNat_lt, UInt16.lt_iff_toNat_lt, lead]
      simp only [UInt16.reduceToNat]
      omega
    have leading : ¬0xdc00 ≤ high := by
      rw [UInt16.le_iff_toNat_le, lead]
      simp only [UInt16.reduceToNat]
      omega
    have trailing : 0xdc00 ≤ low ∧ low ≤ 0xdfff := by
      rw [UInt16.le_iff_toNat_le, UInt16.le_iff_toNat_le, trail]
      simp only [UInt16.reduceToNat]
      omega
    rw [List.cons_append, List.singleton_append, from_utf16_lossy, if_neg surrogate, if_neg leading]
    simp only [if_pos trailing, lead, trail]
    have whole : 0x10000 + (0xd800 + (c.toNat - 0x10000) / 0x400 - 0xd800) * 0x400 +
        (0xdc00 + (c.toNat - 0x10000) % 0x400 - 0xdc00) = c.toNat := by omega
    rw [whole, Char.ofNat_toNat]

/-- Reading back well-formed UTF-16 replaces nothing. -/
theorem from_utf16_lossy_utf16 (text : Text) : from_utf16_lossy (utf16 text) = text := by
  induction text with
  | nil => rfl
  | cons c text ih => rw [utf16, List.flatMap_cons, from_utf16_lossy_units, ← utf16, ih]

end Text

namespace X509
open Text Net

/-! ### Attributes with characters -/

inductive StringType
  | utf8String
  | printableString
  | teletexString
  | ia5String
  | numericString
  | bmpString
  deriving DecidableEq, Repr

def StringType.tag : StringType → UInt8
  | .utf8String => 0x0c
  | .printableString => 0x13
  | .teletexString => 0x14
  | .ia5String => 0x16
  | .numericString => 0x12
  | .bmpString => 0x1e

/-- The well-formed content that characters have as a value of the type. -/
def StringType.content (type : StringType) (characters : Text) : Octets :=
  match type with
  | .bmpString => (utf16 characters).flatMap fun unit => [high unit, low unit]
  | _ => utf8 characters

structure StringAttribute where
  identifier : Octets
  type : StringType
  characters : Text

namespace StringAttribute
variable (given : StringAttribute)

def ava : Ava := ⟨given.identifier, given.type.tag, given.type.content given.characters⟩

def encoded : Attribute where
  identifier := given.identifier
  tag := given.type.tag
  single := by cases given.type <;> decide
  value := given.type.content given.characters

/-- What a reader of the text is to find. -/
def shown : Text × Text := (attribute_type given.identifier, given.characters)

theorem string_of_content : string_of given.ava.tag given.ava.value = some given.characters := by
  unfold ava StringType.content StringType.tag
  cases given.type with
  | bmpString => exact congrArg some (by rw [be_units_segments, from_utf16_lossy_utf16])
  | utf8String | printableString | teletexString | ia5String | numericString =>
    exact congrArg some (from_utf8_lossy_utf8 given.characters)

/-- The value is written so that its characters are read. -/
theorem unescape_written :
    (given.ava.written.1, Rfc4514.unescape given.ava.written.2) = given.shown := by
  have value : attribute_value given.ava.tag given.ava.value = escaped given.characters := by
    rw [attribute_value_eq, string_of_content]
  rw [Ava.written, value, unescape_escaped]
  rfl

end StringAttribute

/-! ### Names -/

def encoded_name (rdns : List (List StringAttribute)) : Name := rdns.map fun rdn => rdn.map StringAttribute.encoded

/-- The last relative distinguished name comes first. -/
def shown_name (rdns : List (List StringAttribute)) : List (List (Text × Text)) :=
  (rdns.map fun rdn => rdn.map StringAttribute.shown).reverse

theorem read_characters_text {rdns : List (List StringAttribute)} (nonempty : [] ∉ rdns) :
    Rfc4514.read_characters (text_of (rdns.map fun rdn => rdn.map StringAttribute.ava)) = shown_name rdns := by
  have still_nonempty : [] ∉ rdns.map fun rdn => rdn.map StringAttribute.ava := by
    intro member
    obtain ⟨rdn, listed, empty⟩ := List.mem_map.mp member
    exact nonempty (List.map_eq_nil_iff.mp empty ▸ listed)
  rw [Rfc4514.read_characters, read_text still_nonempty, List.map_reverse, List.map_map, List.map_map]
  refine congrArg List.reverse (List.map_congr_left fun rdn _ => ?_)
  simp only [Function.comp_apply, List.map_map]
  exact List.map_congr_left fun given _ => given.unescape_written

theorem name_text_eq (rdns : List (List StringAttribute)) :
    Name.text (encoded_name rdns) = text_of (rdns.map fun rdn => rdn.map StringAttribute.ava) := by
  rw [Name.text, encoded_name, text_of, Rfc4514.write, List.map_reverse, List.map_map, List.map_map, List.map_map]
  refine congrArg (fun parts => join [','] (List.reverse parts)) (List.map_congr_left fun rdn _ => ?_)
  simp only [Function.comp_apply, Rdn.text, List.map_map]
  rfl

/-- The text of a name whose values are strings is read back as the name: its
    relative distinguished names in reverse order, and of each the attributes in
    order, with the text of the type and the characters of the value. So is the
    text of every name that is accepted with such attributes. -/
theorem name_reads_back :
    (∀ rdns : List (List StringAttribute), [] ∉ rdns → (encoded_name rdns).Short →
      ∃ text, distinguished_name (encoded_name rdns).content = some text ∧
        Rfc4514.read_characters text = shown_name rdns) ∧
    ∀ (octets : Octets) (rdns : List (List StringAttribute)), [] ∉ rdns →
      listed octets = some (rdns.map fun rdn => rdn.map StringAttribute.ava) →
        ∃ text, distinguished_name octets = some text ∧ Rfc4514.read_characters text = shown_name rdns := by
  constructor
  · intro rdns nonempty short
    refine ⟨_, distinguished_name_content short, ?_⟩
    rw [name_text_eq]
    exact read_characters_text nonempty
  · intro octets rdns nonempty lists
    refine ⟨_, ?_, read_characters_text nonempty⟩
    rw [distinguished_name_listed, lists]
    rfl

/-- A country, and a common name and an address in one relative distinguished
    name, with separators, a space at the end and a character beyond 16 bits. -/
def mixed : List (List StringAttribute) :=
  [[⟨[0x55, 0x04, 0x06], .printableString, lit "XX"⟩],
    [⟨[0x55, 0x04, 0x03], .bmpString, lit "#a,b+😀 "⟩, ⟨[0x2a, 0x03], .utf8String, lit "\\x=1"⟩]]

theorem mixed_reads_back :
    ∃ text, distinguished_name (encoded_name mixed).content = some text ∧
      Rfc4514.read_characters text =
        [[(lit "CN", lit "#a,b+😀 "), (lit "1.2.3", lit "\\x=1")], [(lit "C", lit "XX")]] := by
  have short : (encoded_name mixed).Short := by
    unfold Name.Short
    decide +kernel
  obtain ⟨text, accepted, read⟩ := name_reads_back.1 mixed (by simp [mixed]) short
  refine ⟨text, accepted, read.trans ?_⟩
  decide +kernel

end X509
end SiphonHttp
