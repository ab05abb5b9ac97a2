import SiphonHttp.X509

/-!
Certificates as RFC 5280 structures, their encoding, and the names that
`x509::names` reads back from it. The lengths of everything inside an element
are bounded by the element's own, so one bound on the whole certificate is
enough for every length that is read.
-/
namespace SiphonHttp.X509
open Text Net Cursor Der

/-! ### What an encoded certificate holds -/

structure Attribute where
  identifier : Octets
  tag : UInt8
  single : SingleOctet tag
  value : Octets

abbrev Rdn := List Attribute
abbrev Name := List Rdn

inductive GeneralName
  | email (text : Text)
  | dns (text : Text)
  | uri (text : Text)
  | ip (address : IpAddr)
  /-- An `iPAddress` of another length, as in name constraints. -/
  | ip_range (octets : Octets) (neither : octets.length ≠ 4 ∧ octets.length ≠ 16)
  /-- Any of the forms that are left out. -/
  | other (tag : UInt8) (single : SingleOctet tag) (form : tag ∉ [0x81, 0x82, 0x86, 0x87]) (content : Octets)

inductive Extension
  | alt_names (critical : Option Octets) (names : List GeneralName)
  | other (identifier : Octets) (another : identifier ≠ SUBJECT_ALT_NAME) (critical : Option Octets) (value : Octets)

def Extension.isAltNames : Extension → Bool
  | .alt_names .. => true
  | .other .. => false

/-- The content of each field, but for the names and the extensions. -/
structure Fields where
  version : Option Octets
  serialNumber : Octets
  signature : Octets
  issuer : Name
  validity : Octets
  subject : Name
  subjectPublicKeyInfo : Octets
  issuerUniqueID : Option Octets
  subjectUniqueID : Option Octets
  extensions : Option (List Extension)
  signatureAlgorithm : Octets
  signatureValue : Octets

/-! ### Encoding -/

def Attribute.encode (ava : Attribute) : Octets :=
  Der.encode SEQUENCE (Der.encode OBJECT_IDENTIFIER ava.identifier ++ Der.encode ava.tag ava.value)

def Rdn.encode (rdn : Rdn) : Octets := Der.encode SET (rdn.flatMap Attribute.encode)
def Name.content (name : Name) : Octets := name.flatMap Rdn.encode

def address_octets : IpAddr → Octets
  | .v4 a b c d => [a, b, c, d]
  | .v6 segments => segments.toList.flatMap fun segment => [high segment, low segment]

def GeneralName.tag : GeneralName → UInt8
  | .email _ => 0x81
  | .dns _ => 0x82
  | .uri _ => 0x86
  | .ip _ | .ip_range .. => 0x87
  | .other tag .. => tag

def GeneralName.content : GeneralName → Octets
  | .email text | .dns text | .uri text => utf8 text
  | .ip address => address_octets address
  | .ip_range octets _ => octets
  | .other _ _ _ content => content

def GeneralName.encode (name : GeneralName) : Octets := Der.encode name.tag name.content

/-- An element that may be absent. -/
def encode_optional (tag : UInt8) (content : Option Octets) : Octets := (content.map (Der.encode tag)).getD []

def Extension.identifier : Extension → Octets
  | .alt_names .. => SUBJECT_ALT_NAME
  | .other identifier .. => identifier

def Extension.critical : Extension → Option Octets
  | .alt_names critical _ | .other _ _ critical _ => critical

def Extension.value : Extension → Octets
  | .alt_names _ names => Der.encode SEQUENCE (names.flatMap GeneralName.encode)
  | .other _ _ _ value => value

def Extension.encode (extension : Extension) : Octets :=
  Der.encode SEQUENCE (Der.encode OBJECT_IDENTIFIER extension.identifier ++
    (encode_optional BOOLEAN extension.critical ++ Der.encode OCTET_STRING extension.value))

namespace Fields
variable (fields : Fields)

/-- What stands behind the public key, by tag. -/
def tail : List (UInt8 × Octets) :=
  (fields.issuerUniqueID.map fun id => (0x81, id)).toList ++
    ((fields.subjectUniqueID.map fun id => (0x82, id)).toList ++
      (fields.extensions.map fun extensions =>
        (EXTENSIONS, Der.encode SEQUENCE (extensions.flatMap Extension.encode))).toList)

def tbs : Octets :=
  encode_optional VERSION fields.version ++ (Der.encode INTEGER fields.serialNumber ++
    (Der.encode SEQUENCE fields.signature ++ (Der.encode SEQUENCE fields.issuer.content ++
      (Der.encode SEQUENCE fields.validity ++ (Der.encode SEQUENCE fields.subject.content ++
        (Der.encode SEQUENCE fields.subjectPublicKeyInfo ++
          fields.tail.flatMap fun (tag, content) => Der.encode tag content))))))

def content : Octets :=
  Der.encode SEQUENCE fields.tbs ++ (Der.encode SEQUENCE fields.signatureAlgorithm ++ Der.encode 0x03 fields.signatureValue)

end Fields

/-- A certificate: its lengths are below 2^32, and at most one extension is a
    subjectAltName. -/
structure Certificate extends Fields where
  fits : toFields.content.length < 2 ^ 32
  once : (toFields.extensions.getD []).countP Extension.isAltNames ≤ 1

def Certificate.encode (certificate : Certificate) : Octets := Der.encode SEQUENCE certificate.content

/-! ### What its names are -/

def Attribute.text (ava : Attribute) : Text :=
  attribute_type ava.identifier ++ '=' :: attribute_value ava.tag ava.value

def Rdn.text (rdn : Rdn) : Text := join ['+'] (rdn.map Attribute.text)

/-- The names of a Name, the last first. -/
def Name.text (name : Name) : Text := join [','] (name.map Rdn.text).reverse

def GeneralName.entry : GeneralName → Option (Text × Text)
  | .email text => some (lit "email", text)
  | .dns text => some (lit "dns", text)
  | .uri text => some (lit "uri", text)
  | .ip address => some (lit "ip", address.text)
  | .ip_range .. | .other .. => none

def Extension.entries : Extension → List (Text × Text)
  | .alt_names _ names => names.filterMap GeneralName.entry
  | .other .. => []

def Certificate.names (certificate : Certificate) : Names where
  subject := certificate.subject.text
  issuer := certificate.issuer.text
  subject_alt_names := (certificate.extensions.getD []).flatMap Extension.entries

/-! ### Elements are read as they were encoded -/

theorem read_lengthOctets {n : Nat} (bounded : n < 2 ^ 32) (rest : Octets) :
    ∃ first octets, lengthOctets n = first :: octets ∧ read_length first (octets ++ rest) = some (n, rest) := by
  by_cases short : n < 128
  · obtain ⟨first, octets, low, length⟩ := lengthOctets_short short
    refine ⟨first, [], octets, ?_⟩
    rw [read_length, if_pos low, length, List.nil_append]
  · obtain ⟨first, octets, form, high, count, some, few, length⟩ := lengthOctets_long (by omega) bounded
    refine ⟨first, octets, form, ?_⟩
    rw [read_length, if_neg high]
    simp only [count, List.take_left, List.drop_left, length]
    rw [if_neg]
    simp only [List.length_append]
    omega

theorem element_takes {tag : UInt8} (single : SingleOctet tag) {content : Octets} (short : content.length < 2 ^ 32) :
    element.Takes (Der.encode tag content) (tag, content) := by
  intro rest
  obtain ⟨first, octets, form, length⟩ := read_lengthOctets short (content ++ rest)
  change read_element _ = _
  simp only [Der.encode, form, List.cons_append, List.append_assoc, read_element]
  rw [if_neg single, length]
  simp

theorem expect_takes {tag : UInt8} (single : SingleOctet tag) {content : Octets} (short : content.length < 2 ^ 32) :
    (expect tag).Takes (Der.encode tag content) content := by
  intro rest
  have taken := element_takes single short rest
  simp only [expect, taken, if_true]

theorem sequence_takes {content : Octets} (short : content.length < 2 ^ 32) :
    (expect SEQUENCE).Takes (Der.encode SEQUENCE content) content :=
  expect_takes (by decide : SingleOctet SEQUENCE) short

/-- What is inside is shorter than what it is inside of. -/
theorem content_short (tag : UInt8) {content : Octets} {bound : Nat}
    (short : (Der.encode tag content).length < bound) : content.length < bound := by
  have := encode_length tag content
  omega

theorem member_short {Item : Type} {items : List Item} {encode : Item → Octets} {bound : Nat}
    (short : (items.flatMap encode).length < bound) {item : Item} (member : item ∈ items) :
    (encode item).length < bound := by
  obtain ⟨before, after, rfl⟩ := List.append_of_mem member
  simp only [List.flatMap_append, List.flatMap_cons, List.length_append] at short
  omega

theorem skip_optional {tag other : UInt8} (single : SingleOctet tag) (different : other ≠ tag)
    {content : Option Octets} (short : (encode_optional tag content).length < 2 ^ 32) (behind rest : Octets) :
    skip tag (encode_optional tag content ++ (Der.encode other behind ++ rest)) = some (Der.encode other behind ++ rest) := by
  cases content with
  | none =>
    rw [skip, if_neg]
    · rfl
    · simpa [encode_optional, Der.encode] using different
  | some octets =>
    have taken := element_takes single (content_short tag short) (Der.encode other behind ++ rest)
    rw [skip, if_pos (by rfl)]
    simp only [encode_optional, Option.map_some, Option.getD_some, taken]

/-! ### Names -/

theorem read_attribute_encode {ava : Attribute} (short : ava.encode.length < 2 ^ 32) (attributes : List Text) :
    read_attribute attributes
      (Der.encode OBJECT_IDENTIFIER ava.identifier ++ Der.encode ava.tag ava.value) = some (attributes ++ [ava.text]) := by
  have inner := content_short SEQUENCE short
  rw [List.length_append] at inner
  have identifier : ava.identifier.length < 2 ^ 32 := content_short OBJECT_IDENTIFIER (by omega)
  have value : ava.value.length < 2 ^ 32 := content_short ava.tag (by omega)
  have read := expect_takes (by decide : SingleOctet OBJECT_IDENTIFIER) identifier (Der.encode ava.tag ava.value)
  simp [read_attribute, read, (element_takes ava.single value).whole, Attribute.text]

theorem read_rdn_encode {rdn : Rdn} (inner : (rdn.flatMap Attribute.encode).length < 2 ^ 32) (rdns : List Text) :
    read_rdn rdns (rdn.flatMap Attribute.encode) = some (rdns ++ [Rdn.text rdn]) := by
  have takes : ∀ ava ∈ rdn, (expect SEQUENCE).Takes ava.encode
      (Der.encode OBJECT_IDENTIFIER ava.identifier ++ Der.encode ava.tag ava.value) := fun ava member =>
    sequence_takes (content_short SEQUENCE (member_short inner member))
  have folded := Reader.fold_collects takes read_attribute (fun ava => [ava.text])
    fun ava member acc => read_attribute_encode (member_short inner member) acc
  rw [← List.map_eq_flatMap] at folded
  simp [read_rdn, folded, Rdn.text]

/-- The length of each relative distinguished name is one that is read. -/
def Name.Short (name : Name) : Prop := ∀ rdn ∈ name, (rdn.flatMap Attribute.encode).length < 2 ^ 32

theorem Name.short_of_content {name : Name} (short : (Name.content name).length < 2 ^ 32) : name.Short :=
  fun _ member => content_short SET (member_short short member)

theorem distinguished_name_content {name : Name} (short : name.Short) :
    distinguished_name (Name.content name) = some (Name.text name) := by
  have takes : ∀ rdn ∈ name, (expect SET).Takes (Rdn.encode rdn) (rdn.flatMap Attribute.encode) := fun rdn member =>
    expect_takes (by decide) (short rdn member)
  have folded := Reader.fold_collects takes read_rdn (fun rdn => [Rdn.text rdn])
    fun rdn member acc => read_rdn_encode (short rdn member) acc
  rw [← List.map_eq_flatMap] at folded
  simp [distinguished_name, Name.content, folded, Name.text]

/-! ### General names -/

theorem be_unit (segment : UInt16) : ((high segment).toUInt16 <<< 8) ||| (low segment).toUInt16 = segment := by
  apply UInt16.toNat_inj.mp
  have small := segment.toNat_lt
  have below : (low segment).toUInt16.toNat < 2 ^ 8 := by
    simp only [low, UInt8.toNat_toUInt16, UInt8.toNat_ofNat']
    omega
  have above : ((high segment).toUInt16 <<< 8).toNat = (segment.toNat / 256) <<< 8 := by
    simp only [high, UInt16.toNat_shiftLeft, UInt8.toNat_toUInt16, UInt8.toNat_ofNat', Nat.shiftLeft_eq]
    simp
    omega
  rw [UInt16.toNat_or, above, ← Nat.shiftLeft_add_eq_or_of_lt below, Nat.shiftLeft_eq]
  simp only [low, UInt8.toNat_toUInt16, UInt8.toNat_ofNat']
  omega

theorem be_units_segments (segments : List UInt16) :
    be_units (segments.flatMap fun segment => [high segment, low segment]) = segments := by
  induction segments with
  | nil => rfl
  | cons segment segments ih =>
    rw [List.flatMap_cons, List.cons_append, List.singleton_append, be_units, be_unit, ih]

theorem ip_address_octets (address : IpAddr) : ip_address (address_octets address) = some address.text := by
  cases address with
  | v4 a b c d => rfl
  | v6 segments =>
    have length : (address_octets (.v6 segments)).length = 16 := by
      simp [address_octets]
    unfold ip_address
    split
    · rename_i four
      rw [four] at length
      simp at length
    · rw [if_pos length]
      simp only [address_octets, be_units_segments, IpAddr.text]

theorem ip_address_range {octets : Octets} (neither : octets.length ≠ 4 ∧ octets.length ≠ 16) :
    ip_address octets = none := by
  unfold ip_address
  split
  · exact absurd rfl neither.1
  · exact if_neg neither.2

theorem GeneralName.single (name : GeneralName) : SingleOctet name.tag := by
  cases name with
  | other tag single form content => exact single
  | email text | dns text | uri text | ip address | ip_range octets neither =>
    simp only [GeneralName.tag]
    decide

theorem read_general_name_encode (name : GeneralName) (found : List (Text × Text)) :
    read_general_name found (name.tag, name.content) = some (found ++ name.entry.toList) := by
  cases name with
  | email text | dns text | uri text =>
    simp [read_general_name, GeneralName.tag, GeneralName.content, GeneralName.entry, from_utf8_lossy_utf8]
  | ip address =>
    simp [read_general_name, GeneralName.tag, GeneralName.content, GeneralName.entry, ip_address_octets]
  | ip_range octets neither =>
    simp [read_general_name, GeneralName.tag, GeneralName.content, GeneralName.entry, ip_address_range neither]
  | other tag single form content =>
    simp only [List.mem_cons, List.not_mem_nil, or_false, not_or] at form
    simp [read_general_name, GeneralName.tag, GeneralName.entry, form]

theorem general_names_encode {names : List GeneralName}
    (short : (Der.encode SEQUENCE (names.flatMap GeneralName.encode)).length < 2 ^ 32) :
    general_names (Der.encode SEQUENCE (names.flatMap GeneralName.encode)) =
      some (names.filterMap GeneralName.entry) := by
  have inner := content_short SEQUENCE short
  have takes : ∀ name ∈ names, element.Takes (GeneralName.encode name) (name.tag, name.content) := fun name member =>
    element_takes name.single (content_short name.tag (member_short inner member))
  have folded := Reader.fold_collects takes read_general_name (fun name => name.entry.toList)
    fun name _ found => read_general_name_encode name found
  rw [← List.filterMap_eq_flatMap_toList] at folded
  have read := (sequence_takes inner).whole
  simp [general_names, read, folded]

/-! ### Extensions -/

/-- The content of an extension. -/
def Extension.body (extension : Extension) : Octets :=
  Der.encode OBJECT_IDENTIFIER extension.identifier ++
    (encode_optional BOOLEAN extension.critical ++ Der.encode OCTET_STRING extension.value)

/-- The names found so far, behind the extension. -/
def Extension.found (found : List (Text × Text)) : Extension → List (Text × Text)
  | .alt_names _ names => names.filterMap GeneralName.entry
  | .other .. => found

theorem read_extension_body {extension : Extension} (short : extension.body.length < 2 ^ 32)
    (found : List (Text × Text)) : read_extension found extension.body = some (extension.found found) := by
  have parts := short
  rw [Extension.body, List.length_append, List.length_append] at parts
  have identifier := expect_takes (by decide : SingleOctet OBJECT_IDENTIFIER)
    (content_short OBJECT_IDENTIFIER (by omega : (Der.encode OBJECT_IDENTIFIER extension.identifier).length < 2 ^ 32))
    (encode_optional BOOLEAN extension.critical ++ Der.encode OCTET_STRING extension.value)
  have critical := skip_optional (by decide : SingleOctet BOOLEAN) (by decide : OCTET_STRING ≠ BOOLEAN)
    (by omega : (encode_optional BOOLEAN extension.critical).length < 2 ^ 32) extension.value []
  rw [List.append_nil] at critical
  have inside : extension.value.length < 2 ^ 32 := content_short OCTET_STRING (by omega)
  have value := (expect_takes (by decide : SingleOctet OCTET_STRING) inside).whole
  cases extension with
  | alt_names marked names =>
    have read := general_names_encode inside
    simp only [Extension.value, Extension.critical, Extension.identifier] at identifier critical value
    simp [read_extension, Extension.body, Extension.identifier, Extension.critical, Extension.value, identifier,
      critical, value, read, Extension.found]
  | other kind another marked octets =>
    simp only [Extension.value, Extension.critical, Extension.identifier] at identifier critical value
    simp [read_extension, Extension.body, Extension.identifier, Extension.critical, Extension.value, identifier,
      critical, value, another, Extension.found]

/-- With one subjectAltName at most, the names found last are all there are. -/
theorem found_entries (extensions : List Extension) (once : extensions.countP Extension.isAltNames ≤ 1) :
    extensions.foldl Extension.found [] = extensions.flatMap Extension.entries := by
  have none_left : ∀ (extensions : List Extension) (found : List (Text × Text)),
      extensions.countP Extension.isAltNames = 0 →
      extensions.foldl Extension.found found = found ∧ extensions.flatMap Extension.entries = [] := by
    intro extensions found none
    induction extensions with
    | nil => exact ⟨rfl, rfl⟩
    | cons extension extensions ih =>
      cases extension with
      | alt_names critical names => simp [Extension.isAltNames] at none
      | other identifier another critical value => exact ih (by simpa [Extension.isAltNames] using none)
  induction extensions with
  | nil => rfl
  | cons extension extensions ih =>
    cases extension with
    | alt_names critical names =>
      rw [List.countP_cons_of_pos rfl] at once
      have rest := none_left extensions (names.filterMap GeneralName.entry) (by omega)
      rw [List.foldl_cons, List.flatMap_cons, rest.2, List.append_nil]
      exact rest.1
    | other identifier another critical value => exact ih (by simpa [Extension.isAltNames] using once)

theorem read_tail_extensions {extensions : List Extension}
    (short : (Der.encode SEQUENCE (extensions.flatMap Extension.encode)).length < 2 ^ 32)
    (found : List (Text × Text)) :
    read_tail found (EXTENSIONS, Der.encode SEQUENCE (extensions.flatMap Extension.encode)) =
      some (extensions.foldl Extension.found found) := by
  have inner := content_short SEQUENCE short
  have body : ∀ extension ∈ extensions, extension.body.length < 2 ^ 32 := fun extension member =>
    content_short SEQUENCE (member_short inner member)
  have takes : ∀ extension ∈ extensions, (expect SEQUENCE).Takes (Extension.encode extension) extension.body :=
    fun extension member => sequence_takes (body extension member)
  have folded := Reader.fold_takes takes read_extension Extension.found
    (fun extension member found => read_extension_body (body extension member) found) found
  have read := (sequence_takes inner).whole
  simp [read_tail, read, folded]

/-! ### Certificates -/

namespace Fields

/-- What the loop behind the public key makes of one of its elements. -/
def afterPart (fields : Fields) (found : List (Text × Text)) (part : UInt8 × Octets) : List (Text × Text) :=
  if part.1 = EXTENSIONS then (fields.extensions.getD []).foldl Extension.found found else found

theorem tail_parts {fields : Fields} {part : UInt8 × Octets} (member : part ∈ fields.tail) :
    (part.1 ≠ EXTENSIONS ∧ SingleOctet part.1) ∨ ∃ extensions, fields.extensions = some extensions ∧
      part = (EXTENSIONS, Der.encode SEQUENCE (extensions.flatMap Extension.encode)) := by
  rcases List.mem_append.mp member with issuer | member
  · obtain ⟨id, -, rfl⟩ := by simpa using issuer
    exact Or.inl ⟨(by decide : (0x81 : UInt8) ≠ EXTENSIONS), (by decide : SingleOctet 0x81)⟩
  rcases List.mem_append.mp member with subject | member
  · obtain ⟨id, -, rfl⟩ := by simpa using subject
    exact Or.inl ⟨(by decide : (0x82 : UInt8) ≠ EXTENSIONS), (by decide : SingleOctet 0x82)⟩
  · obtain ⟨extensions, present, rfl⟩ := by simpa using member
    exact Or.inr ⟨extensions, present, rfl⟩

theorem tail_fold (fields : Fields) :
    fields.tail.foldl fields.afterPart [] = (fields.extensions.getD []).foldl Extension.found [] := by
  have passes : ∀ (id : Option Octets) (tag : UInt8), tag ≠ EXTENSIONS →
      (id.map fun id => (tag, id)).toList.foldl fields.afterPart [] = [] := by
    intro id tag other
    cases id with
    | none => rfl
    | some id => exact if_neg other
  rw [tail, List.foldl_append, passes _ _ (by decide), List.foldl_append, passes _ _ (by decide)]
  cases present : fields.extensions with
  | none => rfl
  | some extensions => simp [afterPart, present]

theorem read_tail_fold (fields : Fields)
    (short : (fields.tail.flatMap fun part => Der.encode part.1 part.2).length < 2 ^ 32) :
    element.fold read_tail [] (fields.tail.flatMap fun part => Der.encode part.1 part.2) =
      some ((fields.extensions.getD []).foldl Extension.found []) := by
  have inside : ∀ part ∈ fields.tail, part.2.length < 2 ^ 32 := fun part member =>
    content_short part.1 (member_short short member)
  have takes : ∀ part ∈ fields.tail, element.Takes (Der.encode part.1 part.2) part := by
    intro part member
    rcases tail_parts member with ⟨-, single⟩ | ⟨extensions, present, rfl⟩
    · exact element_takes single (inside part member)
    · exact element_takes (by decide : SingleOctet EXTENSIONS) (inside _ member)
  rw [Reader.fold_takes takes read_tail fields.afterPart, tail_fold]
  intro part member found
  rcases tail_parts member with ⟨other, -⟩ | ⟨extensions, present, rfl⟩
  · obtain ⟨tag, content⟩ := part
    rw [read_tail, if_pos other, afterPart, if_neg other]
  · rw [read_tail_extensions (inside _ member), afterPart, if_pos rfl, present, Option.getD_some]

end Fields

/-- Reading an encoded certificate gives the names it was encoded from. -/
theorem names_encode (certificate : Certificate) : names certificate.encode = some certificate.names := by
  have fits := certificate.fits
  have outer := (sequence_takes fits).whole
  rw [Fields.content, List.length_append] at fits
  have inner : certificate.tbs.length < 2 ^ 32 := content_short SEQUENCE (by omega)
  have tbs := sequence_takes inner
    (Der.encode SEQUENCE certificate.signatureAlgorithm ++ Der.encode 0x03 certificate.signatureValue)
  simp only [Fields.tbs, List.length_append] at inner
  have version := skip_optional (by decide : SingleOctet VERSION) (by decide : INTEGER ≠ VERSION)
    (by omega : (encode_optional VERSION certificate.version).length < 2 ^ 32) certificate.serialNumber
  have serialNumber := expect_takes (by decide : SingleOctet INTEGER)
    (content_short INTEGER (by omega : (Der.encode INTEGER certificate.serialNumber).length < 2 ^ 32))
  have sequence : ∀ content : Octets, (Der.encode SEQUENCE content).length < 2 ^ 32 → ∀ rest,
      (expect SEQUENCE).read (Der.encode SEQUENCE content ++ rest) = some (content, rest) := fun content short =>
    sequence_takes (content_short SEQUENCE short)
  have signature := sequence certificate.signature (by omega)
  have issuer := sequence certificate.issuer.content (by omega)
  have validity := sequence certificate.validity (by omega)
  have subject := sequence certificate.subject.content (by omega)
  have subjectPublicKeyInfo := sequence certificate.subjectPublicKeyInfo (by omega)
  have issuer_text := distinguished_name_content (Name.short_of_content (content_short SEQUENCE
    (by omega : (Der.encode SEQUENCE certificate.issuer.content).length < 2 ^ 32)))
  have subject_text := distinguished_name_content (Name.short_of_content (content_short SEQUENCE
    (by omega : (Der.encode SEQUENCE certificate.subject.content).length < 2 ^ 32)))
  have tail := Fields.read_tail_fold certificate.toFields (by omega)
  rw [found_entries _ certificate.once] at tail
  -- Every field is taken off exactly, so each cursor stands where the next one begins.
  simp only [names, Certificate.encode, Option.bind_eq_bind, outer, Option.bind_some]
  simp only [Fields.content, tbs, Option.bind_some]
  simp only [Fields.tbs, version, serialNumber _, signature, issuer, issuer_text, validity, subject, subject_text,
    subjectPublicKeyInfo, tail, Option.bind_some, Certificate.names]

/-- A certificate with one dNSName, issued by `CN=CA`. -/
def dnsCertificate : Certificate where
  version := some (Der.encode INTEGER [2])
  serialNumber := [1]
  signature := []
  issuer := [[⟨[0x55, 0x04, 0x03], 0x0c, by decide, utf8 (lit "CA")⟩]]
  validity := []
  subject := [[⟨[0x55, 0x04, 0x06], 0x13, by decide, utf8 (lit "XX")⟩],
    [⟨[0x55, 0x04, 0x03], 0x0c, by decide, utf8 (lit "a,b")⟩]]
  subjectPublicKeyInfo := []
  issuerUniqueID := none
  subjectUniqueID := none
  extensions := some [.alt_names none [.dns (lit "naf.example.com")]]
  signatureAlgorithm := []
  signatureValue := []
  fits := by decide +kernel
  once := by decide

example : names dnsCertificate.encode =
    some ⟨lit "CN=a\\,b,C=XX", lit "CN=CA", [(lit "dns", lit "naf.example.com")]⟩ := by decide +kernel

end SiphonHttp.X509
