import SiphonHttp.Rfc4514
import SiphonHttp.X509

/-!
What the text of a name in a certificate tells of it. A text reads back as the
attributes' types and values as they are written, so two texts are equal when
these are; a type is written as its short name or its arcs, a value of a string
type as its characters, and any other one as its content without its tag.
-/
namespace SiphonHttp.X509
open Text Cursor

/-! ### The attributes of a name -/

structure Ava where
  identifier : Octets
  tag : UInt8
  value : Octets
  deriving DecidableEq, Repr

def list_attribute (avas : List Ava) (octets : Octets) : Option (List Ava) := do
  let (identifier, octets) ← (expect OBJECT_IDENTIFIER).read octets
  let ((tag, value), _) ← element.read octets
  some (avas ++ [⟨identifier, tag, value⟩])

def list_rdn (rdns : List (List Ava)) (rdn : Octets) : Option (List (List Ava)) := do
  let avas ← (expect SEQUENCE).fold list_attribute [] rdn
  some (rdns ++ [avas])

/-- What `distinguished_name` reads, before it is written as a text. -/
def listed (name : Octets) : Option (List (List Ava)) := (expect SET).fold list_rdn [] name

/-- An attribute as it is written: its type and its value. -/
def Ava.written (ava : Ava) : Text × Text := (attribute_type ava.identifier, attribute_value ava.tag ava.value)

/-- The text of the listed attributes, the last relative distinguished name
    first. -/
def text_of (rdns : List (List Ava)) : Text := Rfc4514.write (rdns.map fun rdn => rdn.map Ava.written).reverse

def rdn_text (rdn : List Ava) : Text := join ['+'] (rdn.map fun ava => Rfc4514.written ava.written)

theorem read_attribute_listed (avas : List Ava) (octets : Octets) :
    (list_attribute avas octets).map (List.map fun ava => Rfc4514.written ava.written) =
      read_attribute (avas.map fun ava => Rfc4514.written ava.written) octets := by
  unfold list_attribute read_attribute
  cases (expect OBJECT_IDENTIFIER).read octets with
  | none => rfl
  | some found =>
    obtain ⟨identifier, octets⟩ := found
    cases read : element.read octets with
    | none => simp [read]
    | some found => simp [read, Rfc4514.written, Ava.written]

theorem read_rdn_listed (rdns : List (List Ava)) (rdn : Octets) :
    (list_rdn rdns rdn).map (List.map rdn_text) = read_rdn (rdns.map rdn_text) rdn := by
  have folded := (expect SEQUENCE).fold_view _ read_attribute_listed [] rdn
  rw [List.map_nil] at folded
  unfold list_rdn read_rdn
  rw [← folded]
  cases (expect SEQUENCE).fold list_attribute [] rdn with
  | none => rfl
  | some avas => simp [rdn_text]

/-- A name is accepted when its attributes can be listed, and its text is
    written from these. -/
theorem distinguished_name_listed (name : Octets) : distinguished_name name = (listed name).map text_of := by
  have folded := (expect SET).fold_view _ read_rdn_listed [] name
  rw [List.map_nil] at folded
  unfold distinguished_name listed
  rw [← folded]
  cases (expect SET).fold list_rdn [] name with
  | none => rfl
  | some rdns =>
    simp only [text_of, Rfc4514.write, List.map_reverse, List.map_map, Option.map_some, Option.bind_eq_bind,
      Option.bind_some, join]
    simp only [Function.comp_def, List.map_map]
    rfl

/-! ### Types -/

/-- The types that have a short name, with it. -/
def short_names : List (Octets × Text) :=
  [([0x55, 0x04, 0x03], lit "CN"), ([0x55, 0x04, 0x05], lit "serialNumber"), ([0x55, 0x04, 0x06], lit "C"),
    ([0x55, 0x04, 0x07], lit "L"), ([0x55, 0x04, 0x08], lit "ST"), ([0x55, 0x04, 0x09], lit "STREET"),
    ([0x55, 0x04, 0x0a], lit "O"), ([0x55, 0x04, 0x0b], lit "OU"),
    ([0x09, 0x92, 0x26, 0x89, 0x93, 0xf2, 0x2c, 0x64, 0x01, 0x19], lit "DC"),
    ([0x09, 0x92, 0x26, 0x89, 0x93, 0xf2, 0x2c, 0x64, 0x01, 0x01], lit "UID"),
    ([0x2a, 0x86, 0x48, 0x86, 0xf7, 0x0d, 0x01, 0x09, 0x01], lit "emailAddress")]

def short_name (identifier : Octets) : Option Text := short_names.lookup identifier

theorem attribute_type_eq (identifier : Octets) :
    attribute_type identifier = (short_name identifier).getD (dotted identifier) := by
  unfold attribute_type
  split
  case h_12 =>
    rename_i none₁ none₂ none₃ none₄ none₅ none₆ none₇ none₈ none₉ none₁₀ none₁₁
    have unlisted : short_name identifier = none := by
      rw [short_name, List.lookup_eq_none_iff]
      intro entry member
      simp only [bne_iff_ne]
      rintro rfl
      simp only [short_names, List.mem_cons, List.not_mem_nil, or_false] at member
      rcases member with rfl | rfl | rfl | rfl | rfl | rfl | rfl | rfl | rfl | rfl | rfl
      · exact none₁ rfl
      · exact none₂ rfl
      · exact none₃ rfl
      · exact none₄ rfl
      · exact none₅ rfl
      · exact none₆ rfl
      · exact none₇ rfl
      · exact none₈ rfl
      · exact none₉ rfl
      · exact none₁₀ rfl
      · exact none₁₁ rfl
    rw [unlisted, Option.getD_none]
  all_goals rfl

theorem more_follows (octet : UInt8) : octet &&& 0x80 ≠ 0 ↔ 128 ≤ octet.toNat := by
  rw [Ne, Der.high_bit, Nat.not_lt]

theorem low_bits (octet : UInt8) : (octet &&& 0x7f).toUInt64.toNat = octet.toNat % 128 := by
  rw [UInt8.toNat_toUInt64, Der.low_bits]

/-- Seven bits behind those of an arc, of which the highest get lost. -/
theorem shift_arc {arc : UInt64} {read : Nat} (holds : arc.toNat = read % 2 ^ 64) (octet : UInt8) :
    ((arc <<< 7) ||| (octet &&& 0x7f).toUInt64).toNat = (read * 128 + octet.toNat % 128) % 2 ^ 64 := by
  have shifted : (arc <<< 7).toNat = (read % 2 ^ 57) <<< 7 := by
    rw [UInt64.toNat_shiftLeft, holds, Nat.shiftLeft_eq, Nat.shiftLeft_eq]
    simp
    omega
  rw [UInt64.toNat_or, shifted, low_bits, ← Nat.shiftLeft_add_eq_or_of_lt (by omega), Nat.shiftLeft_eq]
  omega

theorem root_toNat (arc : UInt64) : (min (arc / 40) 2).toNat = min (arc.toNat / 40) 2 := by
  have quotient : (arc / 40).toNat = arc.toNat / 40 := UInt64.toNat_div _ _
  show (if arc / 40 ≤ 2 then arc / 40 else 2).toNat = _
  split_ifs with small
  · have least : arc.toNat / 40 ≤ 2 := quotient ▸ UInt64.le_iff_toNat_le.mp small
    rw [quotient, min_eq_left least]
  · have least : 2 < arc.toNat / 40 := quotient ▸ UInt64.lt_iff_toNat_lt.mp (UInt64.not_le.mp small)
    rw [min_eq_right least.le]
    rfl

/-- The two arcs of a first sub-identifier. -/
theorem root_arcs (arc : UInt64) :
    [(min (arc / 40) 2).toNat, (arc - min (arc / 40) 2 * 40).toNat] = Der.arcs [arc.toNat] := by
  have root := root_toNat arc
  have times : (min (arc / 40) 2 * 40).toNat = min (arc.toNat / 40) 2 * 40 := by
    rw [UInt64.toNat_mul, root]
    exact Nat.mod_eq_of_lt (by simp; omega)
  have inside : min (arc / 40) 2 * 40 ≤ arc := by
    rw [UInt64.le_iff_toNat_le, times]
    omega
  rw [Der.arcs, UInt64.toNat_sub_of_le _ _ inside, times, root]

/-- The arcs that an identifier is written with: those of its sub-identifiers, in
    64 bits. -/
theorem read_arc_arcs (octets : Octets) {read : Nat} {arcs : List UInt64} {arc : UInt64}
    (holds : arc.toNat = read % 2 ^ 64) :
    (octets.foldl read_arc (arcs, arc)).1.map UInt64.toNat =
      if arcs = [] then Der.arcs ((Der.sub_identifiers read octets).map (· % 2 ^ 64))
      else arcs.map UInt64.toNat ++ (Der.sub_identifiers read octets).map (· % 2 ^ 64) := by
  induction octets generalizing read arcs arc with
  | nil =>
    split_ifs with none
    · rw [none]
      rfl
    · simp [Der.sub_identifiers]
  | cons octet octets ih =>
    have next := shift_arc holds octet
    rw [List.foldl_cons, Der.sub_identifiers]
    by_cases more : 128 ≤ octet.toNat
    · simp only [read_arc, if_pos ((more_follows octet).mpr more), if_neg (Nat.not_lt.mpr more)]
      exact ih next
    · simp only [read_arc, if_neg (fun goes_on => more ((more_follows octet).mp goes_on)),
        if_pos (Nat.not_le.mp more)]
      by_cases none : arcs = []
      · rw [if_pos none, if_pos none, ih rfl, if_neg (List.cons_ne_nil _ _), List.map_cons, List.map_singleton,
          root_arcs, next]
        rfl
      · rw [if_neg none, if_neg none, ih rfl, if_neg (by simp), List.map_append, List.map_singleton, next]
        simp

/-- Below 2^64 nothing gets lost. -/
def Fits (ava : Ava) : Prop := ∀ sub ∈ Der.sub_identifiers 0 ava.identifier, sub < 2 ^ 64

theorem dotted_arcs {ava : Ava} (fits : Fits ava) :
    dotted ava.identifier = join ['.'] ((Der.arcs (Der.sub_identifiers 0 ava.identifier)).map decimal) := by
  have whole : (Der.sub_identifiers 0 ava.identifier).map (· % 2 ^ 64) = Der.sub_identifiers 0 ava.identifier :=
    Rfc4514.map_same fun sub member => Nat.mod_eq_of_lt (fits sub member)
  have read := @read_arc_arcs ava.identifier 0 [] 0 rfl
  rw [if_pos rfl, whole] at read
  rw [dotted, ← read, List.map_map]
  rfl

theorem decimal_digits {n : Nat} {c : Char} (digit : c ∈ decimal n) : c.isDigit = true :=
  Nat.isDigit_of_mem_toDigits (by decide) (by decide) digit

theorem decimal_injective {m n : Nat} (same : decimal m = decimal n) : m = n := by
  have read := congrArg (fun digits => Nat.ofDigitChars 10 digits 0) same
  simpa only [decimal, Nat.ofDigitChars_ten_toDigits] using read

/-- Different arcs are different texts. -/
theorem dotted_injective {first second : List Nat}
    (same : join ['.'] (first.map decimal) = join ['.'] (second.map decimal)) : first = second := by
  have no_dot : ∀ (arcs : List Nat), ∀ part ∈ arcs.map decimal, '.' ∉ part := by
    intro arcs part member inside
    obtain ⟨n, -, rfl⟩ := List.mem_map.mp member
    exact absurd (decimal_digits inside) (by decide)
  have some_text : ∀ (n : Nat) (arcs : List Nat), join ['.'] ((n :: arcs).map decimal) ≠ [] := by
    intro n arcs
    refine Rfc4514.intercalate_ne_nil _ (by simp) ?_
    intro part member
    obtain ⟨n, -, rfl⟩ := List.mem_map.mp member
    exact Nat.toDigits_ne_nil
  cases first with
  | nil =>
    cases second with
    | nil => rfl
    | cons n arcs => exact absurd same.symm (some_text n arcs)
  | cons m first =>
    cases second with
    | nil => exact absurd same (some_text m first)
    | cons n second =>
      have split := congrArg (List.splitOn '.') same
      rw [join, join, List.splitOn_intercalate _ (no_dot _) (by simp),
        List.splitOn_intercalate _ (no_dot _) (by simp)] at split
      exact List.map_injective_iff.mpr (fun _ _ => decimal_injective) split

theorem short_names_letters : ∀ entry ∈ short_names, entry.2 ≠ [] ∧ entry.2.all Char.isAlpha = true := by
  decide +kernel

theorem short_names_differ :
    ∀ first ∈ short_names, ∀ second ∈ short_names, first.2 = second.2 → first.1 = second.1 := by
  decide +kernel

theorem mem_short_names {identifier : Octets} {name : Text} (short : short_name identifier = some name) :
    (identifier, name) ∈ short_names := by
  obtain ⟨before, after, split, -⟩ := List.lookup_eq_some_iff.mp short
  rw [split]
  exact List.mem_append_right _ (List.mem_cons_self ..)

theorem mem_join {separator c : Char} {parts : List Text} (member : c ∈ join [separator] parts) :
    c = separator ∨ ∃ part ∈ parts, c ∈ part :=
  (join_chars member).imp List.mem_singleton.mp id

theorem dotted_chars {identifier : Octets} {c : Char} (member : c ∈ dotted identifier) :
    c = '.' ∨ c.isDigit = true := by
  rcases mem_join member with dot | ⟨part, listed, inside⟩
  · exact Or.inl dot
  · obtain ⟨arc, -, rfl⟩ := List.mem_map.mp listed
    exact Or.inr (decimal_digits inside)

theorem digit_not_letter {c : Char} (digit : c.isDigit = true) : c.isAlpha = false := by
  simp only [Char.isDigit, Char.isAlpha, Char.isUpper, Char.isLower, Bool.and_eq_true, decide_eq_true_eq,
    Bool.or_eq_false_iff, Bool.and_eq_false_iff, decide_eq_false_iff_not, UInt32.le_iff_toNat_le, ge_iff_le] at *
  simp at *
  omega

theorem type_chars {identifier : Octets} {c : Char} (member : c ∈ attribute_type identifier) :
    c.isAlphanum = true ∨ c = '.' := by
  rw [attribute_type_eq] at member
  cases short : short_name identifier with
  | none =>
    rw [short] at member
    rcases dotted_chars member with dot | digit
    · exact Or.inr dot
    · exact Or.inl (by simp [Char.isAlphanum, digit])
  | some name =>
    rw [short] at member
    have letters := (short_names_letters _ (mem_short_names short)).2
    exact Or.inl (by simp [Char.isAlphanum, List.all_eq_true.mp letters c member])

/-- The same octets, or no short name and the same sub-identifiers. -/
def AlikeType (first second : Ava) : Prop :=
  first.identifier = second.identifier ∨
    short_name first.identifier = none ∧ short_name second.identifier = none ∧
      Der.sub_identifiers 0 first.identifier = Der.sub_identifiers 0 second.identifier

theorem short_ne_dotted {short other : Octets} {name : Text} (named : short_name short = some name) :
    name ≠ dotted other := by
  intro same
  obtain ⟨some_text, letters⟩ := short_names_letters _ (mem_short_names named)
  obtain ⟨c, member⟩ := List.exists_mem_of_ne_nil _ some_text
  have letter := List.all_eq_true.mp letters c member
  rw [same] at member
  rcases dotted_chars member with rfl | digit
  · exact absurd letter (by decide)
  · exact absurd letter (by rw [digit_not_letter digit]; exact Bool.false_ne_true)

theorem type_eq_iff {first second : Ava} (fits : Fits first) (fits' : Fits second) :
    attribute_type first.identifier = attribute_type second.identifier ↔ AlikeType first second := by
  rw [attribute_type_eq, attribute_type_eq]
  constructor
  · intro same
    cases short : short_name first.identifier with
    | some name =>
      cases short' : short_name second.identifier with
      | some name' =>
        rw [short, short'] at same
        exact Or.inl (short_names_differ _ (mem_short_names short) _ (mem_short_names short') same)
      | none =>
        rw [short, short'] at same
        exact absurd same (short_ne_dotted short)
    | none =>
      cases short' : short_name second.identifier with
      | some name' =>
        rw [short, short'] at same
        exact absurd same.symm (short_ne_dotted short')
      | none =>
        rw [short, short', Option.getD_none, Option.getD_none, dotted_arcs fits, dotted_arcs fits'] at same
        exact Or.inr ⟨short, short', Der.arcs_injective (dotted_injective same)⟩
  · rintro (same | ⟨short, short', same⟩)
    · rw [same]
    · rw [short, short', Option.getD_none, Option.getD_none, dotted_arcs fits, dotted_arcs fits', same]

/-! ### Values -/

/-- The characters of a value of a string type; what is not well formed stands as
    U+FFFD. -/
def string_of (tag : UInt8) (value : Octets) : Option Text :=
  if tag = 0x0c ∨ tag = 0x13 ∨ tag = 0x14 ∨ tag = 0x16 ∨ tag = 0x12 then some (from_utf8_lossy value)
  else if tag = 0x1e then some (from_utf16_lossy (be_units value))
  else none

theorem attribute_value_eq (tag : UInt8) (value : Octets) :
    attribute_value tag value =
      match string_of tag value with
      | some text => escaped text
      | none => '#' :: value.flatMap hex02 := by
  unfold attribute_value string_of
  split_ifs <;> rfl

theorem hex02_injective {first second : UInt8} (same : hex02 first = hex02 second) : first = second := by
  have digits : ∀ m < 16, ∀ n < 16, Nat.digitChar m = Nat.digitChar n → m = n := by decide +kernel
  have small := first.toNat_lt
  have small' := second.toNat_lt
  obtain ⟨high, low⟩ : Nat.digitChar (first.toNat / 16) = Nat.digitChar (second.toNat / 16) ∧
      Nat.digitChar (first.toNat % 16) = Nat.digitChar (second.toNat % 16) := by
    simpa [hex02] using same
  have high_same := digits _ (by omega) _ (by omega) high
  have low_same := digits _ (by omega) _ (by omega) low
  apply UInt8.toNat_inj.mp
  omega

theorem hex_injective {first second : Octets} (same : first.flatMap hex02 = second.flatMap hex02) : first = second := by
  induction first generalizing second with
  | nil =>
    cases second with
    | nil => rfl
    | cons octet octets => simp [hex02] at same
  | cons one more ih =>
    cases second with
    | nil => simp [hex02] at same
    | cons octet octets =>
      rw [List.flatMap_cons, List.flatMap_cons] at same
      obtain ⟨here, rest⟩ := List.append_inj same rfl
      rw [hex02_injective here, ih rest]

/-- An escaped character stands for the character, wherever it is. -/
theorem unescape_escape_at (last index : Nat) (c : Char) (rest : Text) :
    Rfc4514.unescape (escape_at last index c ++ rest) = c :: Rfc4514.unescape rest := by
  unfold escape_at
  split_ifs with special edge trailing nul
  · have not_zero : c ≠ '0' := fun zero => absurd (zero ▸ special) (by decide)
    exact Rfc4514.unescape_escape not_zero rest
  · have not_zero : c ≠ '0' := fun zero => absurd (zero ▸ edge.1) (by decide)
    exact Rfc4514.unescape_escape not_zero rest
  · rw [trailing.1]
    exact Rfc4514.unescape_escape (by decide) rest
  · rw [nul]
    exact Rfc4514.unescape_nul rest
  · have not_escape : c ≠ '\\' := fun escape => special (escape ▸ by decide)
    exact Rfc4514.unescape_plain not_escape rest

theorem unescape_escaped (text : Text) : Rfc4514.unescape (escaped text) = text := by
  have from_index : ∀ (last index : Nat) (text : Text),
      Rfc4514.unescape ((text.zipIdx index).flatMap fun entry => escape_at last entry.2 entry.1) = text := by
    intro last index text
    induction text generalizing index with
    | nil => rfl
    | cons c text ih => rw [List.zipIdx_cons, List.flatMap_cons, unescape_escape_at, ih]
  exact from_index _ 0 text

/-- Separators of names and of attributes are escaped. -/
theorem escape_at_closed (last index : Nat) (c : Char) {separator : Char}
    (separates : separator = ',' ∨ separator = '+') : Rfc4514.Closed separator (escape_at last index c) := by
  have also_special : separator ∈ lit "\"+,;<>\\" := by rcases separates with rfl | rfl <;> decide
  have not_zero : '0' ≠ separator := by rcases separates with rfl | rfl <;> decide
  unfold escape_at
  split_ifs with special edge trailing nul
  · exact .escape c .nil
  · exact .escape c .nil
  · exact .escape ' ' .nil
  · exact .escape '0' (.plain (by decide) not_zero .nil)
  · exact .plain (fun escape => special (escape ▸ by decide)) (fun same => special (same ▸ also_special)) .nil

theorem escaped_closed (text : Text) {separator : Char} (separates : separator = ',' ∨ separator = '+') :
    Rfc4514.Closed separator (escaped text) :=
  Rfc4514.Closed.flatMap fun entry _ => escape_at_closed _ entry.2 entry.1 separates

/-- A text whose first character would announce hexadecimal digits is escaped. -/
theorem escaped_not_hex (text rest : Text) : escaped text ≠ '#' :: rest := by
  cases text with
  | nil => exact List.cons_ne_nil _ _ ∘ Eq.symm
  | cons c text =>
    rw [escaped, List.zipIdx_cons, List.flatMap_cons]
    generalize (List.flatMap _ _ : Text) = tail
    change escape_at _ 0 c ++ tail ≠ '#' :: rest
    unfold escape_at
    intro same
    split_ifs at same with special edge trailing nul
    · cases same
    · cases same
    · cases same
    · cases same
    · cases same
      exact edge ⟨Or.inl rfl, rfl⟩

/-- Both of a string type with the same characters, or both of another type with
    the same content, whatever their tags are. -/
def AlikeValue (first second : Ava) : Prop :=
  match string_of first.tag first.value, string_of second.tag second.value with
  | some text, some other => text = other
  | none, none => first.value = second.value
  | _, _ => False

theorem value_eq_iff (first second : Ava) :
    attribute_value first.tag first.value = attribute_value second.tag second.value ↔ AlikeValue first second := by
  rw [attribute_value_eq, attribute_value_eq, AlikeValue]
  cases string_of first.tag first.value with
  | some text =>
    cases string_of second.tag second.value with
    | some other =>
      constructor
      · intro same
        rw [← unescape_escaped text, ← unescape_escaped other]
        exact congrArg Rfc4514.unescape same
      · rintro rfl
        rfl
    | none => exact iff_of_false (escaped_not_hex text _) id
  | none =>
    cases string_of second.tag second.value with
    | some other => exact iff_of_false (fun same => escaped_not_hex other _ same.symm) id
    | none =>
      constructor
      · intro same
        exact hex_injective (List.cons.inj same).2
      · intro same
        rw [same]

theorem hex_closed (octets : Octets) {separator : Char} (separates : separator = ',' ∨ separator = '+') :
    Rfc4514.Closed separator ('#' :: octets.flatMap hex02) := by
  have digits : ∀ n < 16, Nat.digitChar n ≠ '\\' ∧ Nat.digitChar n ≠ ',' ∧ Nat.digitChar n ≠ '+' := by decide +kernel
  have not_hash : '#' ≠ separator := by rcases separates with rfl | rfl <;> decide
  refine .plain (by decide) not_hash (Rfc4514.Closed.flatMap fun octet _ => Rfc4514.closed_of_forall ?_)
  intro c member
  have digit : ∃ n < 16, c = Nat.digitChar n := by
    have small := octet.toNat_lt
    rcases List.mem_cons.mp member with high | low
    · exact ⟨_, by omega, high⟩
    · exact ⟨_, by omega, List.mem_singleton.mp low⟩
  obtain ⟨n, small, rfl⟩ := digit
  obtain ⟨not_escape, not_comma, not_plus⟩ := digits n small
  rcases separates with rfl | rfl
  · exact ⟨not_escape, not_comma⟩
  · exact ⟨not_escape, not_plus⟩

/-! ### Whole names -/

/-- An attribute is written so that it reads back. -/
theorem written_writable (ava : Ava) : Rfc4514.Writable ava.written := by
  have type_plain : ∀ c, c ∈ attribute_type ava.identifier → c ∉ lit "\\,+=" := by
    intro c member special
    have others : (lit "\\,+=").all (fun c => !c.isAlphanum && c != '.') = true := by decide
    have other := List.all_eq_true.mp others c special
    rcases type_chars member with letter | rfl
    · simp [letter] at other
    · exact absurd other (by decide)
  have closed : ∀ separator, separator = ',' ∨ separator = '+' →
      Rfc4514.Closed separator (Rfc4514.written ava.written) := by
    intro separator separates
    have equals : '=' ≠ separator := by rcases separates with rfl | rfl <;> decide
    have value : Rfc4514.Closed separator (attribute_value ava.tag ava.value) := by
      rw [attribute_value_eq]
      cases string_of ava.tag ava.value with
      | some text => exact escaped_closed text separates
      | none => exact hex_closed ava.value separates
    refine (Rfc4514.closed_of_forall ?_).append (.plain (by decide) equals value)
    intro c member
    have plain := type_plain c member
    constructor
    · rintro rfl
      exact plain (by decide)
    · rintro rfl
      rcases separates with rfl | rfl
      · exact plain (by decide)
      · exact plain (by decide)
  exact ⟨fun member => type_plain _ member (by decide), closed ',' (Or.inl rfl), closed '+' (Or.inr rfl)⟩

def Alike (first second : Ava) : Prop := AlikeType first second ∧ AlikeValue first second

theorem written_eq_iff {first second : Ava} (fits : Fits first) (fits' : Fits second) :
    first.written = second.written ↔ Alike first second := by
  rw [Ava.written, Ava.written, Prod.mk.injEq, type_eq_iff fits fits', value_eq_iff, Alike]

theorem forall₂_congr {Item : Type} {related related' : Item → Item → Prop} {first second : List Item}
    (agree : ∀ a ∈ first, ∀ b ∈ second, (related a b ↔ related' a b)) :
    List.Forall₂ related first second ↔ List.Forall₂ related' first second := by
  induction first generalizing second with
  | nil => rw [List.forall₂_nil_left_iff, List.forall₂_nil_left_iff]
  | cons a first ih =>
    cases second with
    | nil => exact iff_of_false nofun nofun
    | cons b second =>
      rw [List.forall₂_cons, List.forall₂_cons, agree a (List.mem_cons_self ..) b (List.mem_cons_self ..),
        ih fun a member b member' => agree a (List.mem_cons_of_mem _ member) b (List.mem_cons_of_mem _ member')]

theorem map_eq_iff {Item Shown : Type} {show_ : Item → Shown} {first second : List Item} :
    first.map show_ = second.map show_ ↔ List.Forall₂ (fun a b => show_ a = show_ b) first second := by
  rw [← List.forall₂_eq_eq_eq, List.forall₂_map_left_iff, List.forall₂_map_right_iff]

theorem read_text {rdns : List (List Ava)} (nonempty : [] ∉ rdns) :
    Rfc4514.read (text_of rdns) = (rdns.map fun rdn => rdn.map Ava.written).reverse := by
  refine Rfc4514.read_write ?_ ?_
  · intro rdn member
    obtain ⟨avas, listed, rfl⟩ := List.mem_map.mp (List.mem_reverse.mp member)
    exact fun none => nonempty (List.map_eq_nil_iff.mp none ▸ listed)
  · intro rdn member ava inside
    obtain ⟨avas, listed, rfl⟩ := List.mem_map.mp (List.mem_reverse.mp member)
    obtain ⟨ava, -, rfl⟩ := List.mem_map.mp inside
    exact written_writable ava

/-- The texts of names whose relative distinguished names are not empty are equal
    exactly when their attributes are alike, one by one. -/
theorem text_eq_iff {first second : List (List Ava)} (nonempty : [] ∉ first) (nonempty' : [] ∉ second)
    (fits : ∀ rdn ∈ first, ∀ ava ∈ rdn, Fits ava) (fits' : ∀ rdn ∈ second, ∀ ava ∈ rdn, Fits ava) :
    text_of first = text_of second ↔ List.Forall₂ (List.Forall₂ Alike) first second := by
  have attributes : (first.map fun rdn => rdn.map Ava.written) = (second.map fun rdn => rdn.map Ava.written) ↔
      List.Forall₂ (List.Forall₂ Alike) first second := by
    rw [map_eq_iff]
    refine forall₂_congr fun rdn member rdn' member' => ?_
    rw [map_eq_iff]
    exact forall₂_congr fun ava inside ava' inside' =>
      written_eq_iff (fits rdn member ava inside) (fits' rdn' member' ava' inside')
  rw [← attributes]
  constructor
  · intro same
    have read := congrArg Rfc4514.read same
    rwa [read_text nonempty, read_text nonempty', List.reverse_inj] at read
  · intro same
    rw [text_of, text_of, same]

/-- The texts of two names are equal exactly when their attributes are alike. -/
theorem distinguished_name_eq_iff {first second : Octets} {rdns rdns' : List (List Ava)}
    (lists : listed first = some rdns) (lists' : listed second = some rdns') (nonempty : [] ∉ rdns)
    (nonempty' : [] ∉ rdns') (fits : ∀ rdn ∈ rdns, ∀ ava ∈ rdn, Fits ava)
    (fits' : ∀ rdn ∈ rdns', ∀ ava ∈ rdn, Fits ava) :
    distinguished_name first = distinguished_name second ↔ List.Forall₂ (List.Forall₂ Alike) rdns rdns' := by
  rw [distinguished_name_listed, distinguished_name_listed, lists, lists', Option.map_some, Option.map_some,
    Option.some.injEq]
  exact text_eq_iff nonempty nonempty' fits fits'

/-- The type is an encoded object identifier. -/
def Encoded (ava : Ava) : Prop := ∃ subs, ava.identifier = Der.identifier subs

/-- Encoded object identifiers are only alike when they are the same. -/
theorem alikeType_encoded {first second : Ava} (encoded : Encoded first) (encoded' : Encoded second)
    (alike : AlikeType first second) : first.identifier = second.identifier := by
  obtain ⟨subs, encodes⟩ := encoded
  obtain ⟨subs', encodes'⟩ := encoded'
  rcases alike with same | ⟨-, -, same⟩
  · exact same
  · rw [encodes, encodes', Der.sub_identifiers_identifier, Der.sub_identifiers_identifier] at same
    rw [encodes, encodes', same]

/-- Names with one text have as many relative distinguished names, with as many
    attributes, and these are alike, one by one: of the same type, if the types
    are encoded object identifiers, and with the same characters or content for
    a value. -/
theorem same_text_alike {first second : Octets} {rdns rdns' : List (List Ava)} (lists : listed first = some rdns)
    (lists' : listed second = some rdns') (nonempty : [] ∉ rdns) (nonempty' : [] ∉ rdns')
    (fits : ∀ rdn ∈ rdns, ∀ ava ∈ rdn, Fits ava) (fits' : ∀ rdn ∈ rdns', ∀ ava ∈ rdn, Fits ava)
    (same : distinguished_name first = distinguished_name second) :
    List.Forall₂ (List.Forall₂ fun ava ava' => AlikeType ava ava' ∧ AlikeValue ava ava' ∧
      (Encoded ava → Encoded ava' → ava.identifier = ava'.identifier)) rdns rdns' := by
  have alike := (distinguished_name_eq_iff lists lists' nonempty nonempty' fits fits').mp same
  refine alike.imp fun rdn rdn' each => each.imp fun ava ava' alike => ?_
  obtain ⟨types, values⟩ := alike
  exact ⟨types, values, fun encoded encoded' => alikeType_encoded encoded encoded' types⟩

/-- A name of one attribute, with the octet of `1` for its value. -/
def single (identifier : Octets) (tag : UInt8) : Octets :=
  [0x31, UInt8.ofNat (identifier.length + 7), 0x30, UInt8.ofNat (identifier.length + 5), 0x06,
    UInt8.ofNat identifier.length] ++ identifier ++ [tag, 0x01, 0x31]

/-- `O=1` behind `CN=1+OU=b`, with the first two values as strings of a tag. -/
def staffed (tag : UInt8) : Octets :=
  single [0x55, 0x04, 0x0a] tag ++
    [0x31, 0x14, 0x30, 0x08, 0x06, 0x03, 0x55, 0x04, 0x03, tag, 0x01, 0x31, 0x30, 0x08, 0x06, 0x03, 0x55, 0x04, 0x0b,
      0x0c, 0x01, 0x62]

def staff (tag : UInt8) : List (List Ava) :=
  [[⟨[0x55, 0x04, 0x0a], tag, [0x31]⟩],
    [⟨[0x55, 0x04, 0x03], tag, [0x31]⟩, ⟨[0x55, 0x04, 0x0b], 0x0c, [0x62]⟩]]

/-- UTF8Strings and PrintableStrings with one text. -/
theorem string_types_alike :
    distinguished_name (staffed 0x0c) = some (lit "CN=1+OU=b,O=1") ∧
      List.Forall₂ (List.Forall₂ fun ava ava' => AlikeType ava ava' ∧ AlikeValue ava ava' ∧
        (Encoded ava → Encoded ava' → ava.identifier = ava'.identifier)) (staff 0x0c) (staff 0x13) := by
  have text : distinguished_name (staffed 0x0c) = some (lit "CN=1+OU=b,O=1") := by decide +kernel
  have text' : distinguished_name (staffed 0x13) = some (lit "CN=1+OU=b,O=1") := by decide +kernel
  have lists : listed (staffed 0x0c) = some (staff 0x0c) := by decide +kernel
  have lists' : listed (staffed 0x13) = some (staff 0x13) := by decide +kernel
  exact ⟨text, same_text_alike lists lists' (by decide) (by decide) (by simp [staff, Fits, Der.sub_identifiers])
    (by simp [staff, Fits, Der.sub_identifiers]) (text.trans text'.symm)⟩

/-- The same type and the same value: the same characters for string types, and
    otherwise the same tag and content. -/
def Same (first second : Ava) : Prop :=
  first.identifier = second.identifier ∧
    match string_of first.tag first.value, string_of second.tag second.value with
    | some text, some other => text = other
    | none, none => first.tag = second.tag ∧ first.value = second.value
    | _, _ => False

/-- An integer and an octet string with one content have one text, and so have an
    object identifier and one that an unfinished sub-identifier follows. -/
theorem other_name_same_text :
    (distinguished_name (single [0x55, 0x04, 0x03] 0x02) = some (lit "CN=#31") ∧
      distinguished_name (single [0x55, 0x04, 0x03] 0x04) = some (lit "CN=#31") ∧
      listed (single [0x55, 0x04, 0x03] 0x02) = some [[⟨[0x55, 0x04, 0x03], 0x02, [0x31]⟩]] ∧
      listed (single [0x55, 0x04, 0x03] 0x04) = some [[⟨[0x55, 0x04, 0x03], 0x04, [0x31]⟩]] ∧
      ¬Same ⟨[0x55, 0x04, 0x03], 0x02, [0x31]⟩ ⟨[0x55, 0x04, 0x03], 0x04, [0x31]⟩) ∧
    (distinguished_name (single [0x55, 0x04, 0x2a] 0x0c) = some (lit "2.5.4.42=1") ∧
      distinguished_name (single [0x55, 0x04, 0x2a, 0x81] 0x0c) = some (lit "2.5.4.42=1") ∧
      listed (single [0x55, 0x04, 0x2a] 0x0c) = some [[⟨[0x55, 0x04, 0x2a], 0x0c, [0x31]⟩]] ∧
      listed (single [0x55, 0x04, 0x2a, 0x81] 0x0c) = some [[⟨[0x55, 0x04, 0x2a, 0x81], 0x0c, [0x31]⟩]] ∧
      ¬Same ⟨[0x55, 0x04, 0x2a], 0x0c, [0x31]⟩ ⟨[0x55, 0x04, 0x2a, 0x81], 0x0c, [0x31]⟩) := by
  refine ⟨⟨by decide +kernel, by decide +kernel, by decide +kernel, by decide +kernel, ?_⟩,
    by decide +kernel, by decide +kernel, by decide +kernel, by decide +kernel, ?_⟩
  · rintro ⟨-, tags, -⟩
    exact absurd tags (by decide)
  · rintro ⟨types, -⟩
    exact absurd types (by decide)

end SiphonHttp.X509
