import SiphonHttp.Certificate
import SiphonHttp.Walk

/-!
`x509.rs` as it runs: over slices that may be cut out of bounds, on cursors that
move when something was read, and in loops that may not end. Whatever the octets
are, every function ends with what its reader in `X509` makes of them, when each
loop may go around once for every octet; nothing panics and no loop is cut off.
-/
namespace SiphonHttp.X509.Slice
open Text Cursor Walk

/-! ### The code -/

/-- The length behind its first octet, and what is behind the length. -/
def length_behind (first : UInt8) (rest : Octets) : Walk UInt8 (Nat × Octets) :=
  if first &&& 0x80 = 0 then pure (first.toNat, rest)
  else
    let count := (first &&& 0x7f).toNat
    if count = 0 ∨ 4 < count ∨ rest.length < count then stop .refused
    else do
      let (octets, rest) ← split_at rest count
      pure (octets.foldl (fun length octet => (length <<< 8) ||| octet.toNat) 0, rest)

/-- The cursor moves last, when nothing can fail any more. -/
def element : Walk UInt8 (UInt8 × Octets) := do
  let (tag, rest) ← split_first (← remaining)
  if tag &&& 0x1f = 0x1f then stop .refused
  else
    let (first, rest) ← split_first rest
    let (length, rest) ← length_behind first rest
    if rest.length < length then stop .refused
    else
      let (content, rest) ← split_at rest length
      advance_to rest
      pure (tag, content)

def expect (tag : UInt8) : Walk UInt8 Octets := do
  let (found, content) ← element
  if found = tag then pure content else stop .refused

/-- `if cursor.first() == Some(&tag) { element(&mut cursor)?; }` -/
def skip (tag : UInt8) : Walk UInt8 Unit := do
  if (← remaining).head? = some tag then
    let _ ← element
    pure ()
  else pure ()

/-- Once around the loop over the attributes of an RDN. -/
def attribute_round (attributes : List Text) : Walk UInt8 (List Text) := do
  let ava ← expect SEQUENCE
  within ava do
    let identifier ← expect OBJECT_IDENTIFIER
    let (tag, value) ← element
    pure (attributes ++ [attribute_type identifier ++ '=' :: attribute_value tag value])

/-- Once around the loop over the RDNs of a name. -/
def rdn_round (rounds : Nat) (rdns : List Text) : Walk UInt8 (List Text) := do
  let rdn ← expect SET
  within rdn do
    let attributes ← until_empty attribute_round rounds []
    pure (rdns ++ [join ['+'] attributes])

def distinguished_name (rounds : Nat) (name : Octets) : Walk UInt8 Text :=
  within name do
    let rdns ← until_empty (rdn_round rounds) rounds []
    pure (join [','] rdns.reverse)

def general_name_round (found : List (Text × Text)) : Walk UInt8 (List (Text × Text)) := do
  let (tag, content) ← element
  pure (found ++
    if tag = 0x81 then [(lit "email", from_utf8_lossy content)]
    else if tag = 0x82 then [(lit "dns", from_utf8_lossy content)]
    else if tag = 0x86 then [(lit "uri", from_utf8_lossy content)]
    else if tag = 0x87 then ((ip_address content).map fun address => (lit "ip", address)).toList
    else [])

def general_names (rounds : Nat) (value : Octets) : Walk UInt8 (List (Text × Text)) :=
  within value do
    let names ← expect SEQUENCE
    within names (until_empty general_name_round rounds [])

/-- Once around the loop over the extensions. -/
def extension_round (rounds : Nat) (subject_alt_names : List (Text × Text)) : Walk UInt8 (List (Text × Text)) := do
  let extension ← expect SEQUENCE
  within extension do
    let identifier ← expect OBJECT_IDENTIFIER
    skip BOOLEAN
    let value ← expect OCTET_STRING
    if identifier = SUBJECT_ALT_NAME then general_names rounds value else pure subject_alt_names

/-- Once around the loop over what follows the public key. -/
def tail_round (rounds : Nat) (subject_alt_names : List (Text × Text)) : Walk UInt8 (List (Text × Text)) := do
  let (tag, content) ← element
  if tag ≠ EXTENSIONS then pure subject_alt_names
  else
    within content do
      let extensions ← expect SEQUENCE
      within extensions (until_empty (extension_round rounds) rounds subject_alt_names)

def names (rounds : Nat) (certificate : Octets) : Walk UInt8 Names :=
  within certificate do
    let certificate ← expect SEQUENCE
    within certificate do
      let tbs ← expect SEQUENCE
      within tbs do
        skip VERSION
        let _ ← expect INTEGER
        let _ ← expect SEQUENCE
        let issuer ← expect SEQUENCE
        let issuer ← distinguished_name rounds issuer
        let _ ← expect SEQUENCE
        let subject ← expect SEQUENCE
        let subject ← distinguished_name rounds subject
        let _ ← expect SEQUENCE
        let subject_alt_names ← until_empty (tail_round rounds) rounds []
        pure ⟨subject, issuer, subject_alt_names⟩

/-! ### Elements -/

/-- Reading a length slices within bounds, and leaves the cursor. -/
theorem length_behind_eq (first : UInt8) (rest input : Octets) :
    length_behind first rest input = (ended (X509.read_length first rest), input) := by
  unfold length_behind read_length
  by_cases low : first &&& 0x80 = 0
  · rw [if_pos low, if_pos low]
    rfl
  · rw [if_neg low, if_neg low]
    dsimp only
    by_cases refused : (first &&& 0x7f).toNat = 0 ∨ 4 < (first &&& 0x7f).toNat ∨ rest.length < (first &&& 0x7f).toNat
    · rw [if_pos refused, if_pos refused]
      rfl
    · rw [if_neg refused, if_neg refused, split_at, if_pos (by omega)]
      rfl

/-- Behind the tag of one octet: the length and then the content. -/
def behind_tag (tag first : UInt8) (rest : Octets) : Walk UInt8 (UInt8 × Octets) := do
  let (length, rest) ← length_behind first rest
  if rest.length < length then stop .refused
  else
    let (content, rest) ← split_at rest length
    advance_to rest
    pure (tag, content)

/-- An element is read, or the cursor stays where it was. -/
theorem element_eq (input : Octets) :
    element input = match X509.element.read input with
      | some (item, rest) => (.ok item, rest)
      | none => (.error .refused, input) := by
  rw [show X509.element.read input = read_element input from rfl]
  cases input with
  | nil => rfl
  | cons tag rest =>
    change (if tag &&& 0x1f = 0x1f then stop .refused
      else do
        let (first, rest) ← split_first rest
        behind_tag tag first rest) (tag :: rest) = _
    cases rest with
    | nil => split <;> rfl
    | cons first rest =>
      by_cases several : tag &&& 0x1f = 0x1f
      · rw [if_pos several, read_element, if_pos several]
        rfl
      · rw [if_neg several, read_element, if_neg several]
        change behind_tag tag first rest (tag :: first :: rest) = _
        have read := length_behind_eq first rest (tag :: first :: rest)
        cases declared : X509.read_length first rest with
        | none =>
          rw [declared] at read
          rw [behind_tag, bind_of_stop read]
        | some found =>
          obtain ⟨length, behind⟩ := found
          rw [declared] at read
          rw [behind_tag, bind_of_ok read]
          dsimp only
          by_cases past : behind.length < length
          · rw [if_pos past, if_pos past]
            rfl
          · rw [if_neg past, if_neg past, split_at, if_pos (by omega)]
            rfl

theorem element_follows : Follows element X509.element := by
  intro input
  unfold Ends
  rw [element_eq]
  cases X509.element.read input <;> rfl

theorem expect_follows (tag : UInt8) : Follows (expect tag) (X509.expect tag) := by
  intro input
  have read : (X509.expect tag).read input = (X509.element.read input).bind fun found =>
      if found.1.1 = tag then some (found.1.2, found.2) else none := by
    simp only [X509.expect]
    cases X509.element.read input <;> rfl
  rw [read]
  refine ends_bind (element_follows input) fun item rest _ => ?_
  dsimp only
  split <;> rfl

theorem skip_ends (tag : UInt8) (input : Octets) : Ends (skip tag) input ((X509.skip tag input).map (⟨⟩, ·)) := by
  unfold X509.skip
  change Ends (if input.head? = some tag then do let _ ← element; pure () else pure ()) input _
  split
  · have skipped : ((X509.element.read input).map Prod.snd).map ((⟨⟩, ·) : Octets → Unit × Octets) =
        (X509.element.read input).bind fun (_, rest) => some (⟨⟩, rest) := by
      cases X509.element.read input <;> rfl
    rw [skipped]
    exact ends_bind (element_follows input) fun _ rest _ => ends_pure () rest
  · rfl

/-! ### Headers -/

/-- A length is what its octets declare, whatever follows them. -/
theorem read_length_header {first : UInt8} {rest behind : Octets} {length : Nat} (tag : UInt8)
    (read : X509.read_length first rest = some (length, behind)) :
    ∃ octets, rest = octets ++ behind ∧ Der.Header tag (tag :: first :: octets) length ∧
      ∀ other, X509.read_length first (octets ++ other) = some (length, other) := by
  unfold read_length at read
  dsimp only at read
  split_ifs at read with low refused
  · cases read
    refine ⟨[], rfl, .short first ((Der.high_bit first).mp low), fun other => ?_⟩
    rw [read_length, if_pos low, List.nil_append]
  · obtain ⟨rfl, rfl⟩ := Prod.mk.inj (Option.some.inj read)
    have high : ¬first.toNat < 128 := fun less => low ((Der.high_bit first).mpr less)
    have small := first.toNat_lt
    have count := Der.low_bits first
    have taken : (rest.take (first &&& 0x7f).toNat).length = (first &&& 0x7f).toNat := by
      rw [List.length_take]
      omega
    refine ⟨rest.take (first &&& 0x7f).toNat, (List.take_append_drop _ rest).symm, ?_, fun other => ?_⟩
    · rw [Der.value_eq]
      exact .long first _ (by omega) (by omega) (by omega)
    · rw [read_length, if_neg low]
      dsimp only
      rw [if_neg (by rw [List.length_append]; omega), List.take_left' taken, List.drop_left' taken]

/-- What is read is a header and as much content as it declares, whatever
    follows. -/
theorem element_header {input rest content : Octets} {tag : UInt8}
    (read : X509.element.read input = some ((tag, content), rest)) :
    ∃ header, input = header ++ content ++ rest ∧ Der.Header tag header content.length ∧
      X509.element.Takes (header ++ content) (tag, content) := by
  change read_element input = _ at read
  unfold read_element at read
  split at read
  · split_ifs at read with several
    split at read
    · cases read
    · rename_i first _ _ length behind declared
      split_ifs at read with past
      cases read
      obtain ⟨octets, rfl, is_header, again⟩ := read_length_header tag declared
      have taken : (behind.take length).length = length := by
        rw [List.length_take]
        omega
      refine ⟨tag :: first :: octets, ?_, ?_, ?_⟩
      · simp
      · rw [taken]
        exact is_header
      · intro other
        change read_element (tag :: first :: (octets ++ behind.take length ++ other)) = _
        rw [read_element, if_neg several, List.append_assoc, again]
        dsimp only
        rw [if_neg (by rw [List.length_append]; omega), List.take_left' taken, List.drop_left' taken]
  · cases read

theorem element_exact : X509.element.Exact := by
  intro input item rest read
  obtain ⟨header, split, -, takes⟩ := element_header read
  exact ⟨_, split, takes⟩

/-- What is read, and what is left, is no longer than the input. -/
theorem element_within {input content rest : Octets} {tag : UInt8}
    (read : X509.element.read input = some ((tag, content), rest)) :
    content.length ≤ input.length ∧ rest.length ≤ input.length := by
  obtain ⟨header, rfl, -, -⟩ := element_header read
  simp only [List.length_append]
  omega

theorem expect_read {input content rest : Octets} {tag : UInt8} :
    (X509.expect tag).read input = some (content, rest) ↔ X509.element.read input = some ((tag, content), rest) := by
  simp only [X509.expect]
  cases X509.element.read input with
  | none => simp
  | some found =>
    obtain ⟨⟨other, octets⟩, behind⟩ := found
    dsimp only
    split_ifs with same
    · simp [same]
    · simp [same]

theorem expect_within {input content rest : Octets} {tag : UInt8}
    (read : (X509.expect tag).read input = some (content, rest)) :
    content.length ≤ input.length ∧ rest.length ≤ input.length :=
  element_within (expect_read.mp read)

theorem skip_within {input rest : Octets} {tag : UInt8} (skipped : X509.skip tag input = some rest) :
    rest.length ≤ input.length := by
  unfold X509.skip at skipped
  split_ifs at skipped
  · obtain ⟨⟨⟨other, content⟩, behind⟩, read, rfl⟩ := Option.map_eq_some_iff.mp skipped
    exact (element_within read).2
  · cases skipped
    exact le_rfl

/-! ### Loops -/

theorem attribute_round_ends (attributes : List Text) (input : Octets) :
    Ends (attribute_round attributes) input (((X509.expect SEQUENCE).read input).bind fun (ava, rest) =>
      (read_attribute attributes ava).map (·, rest)) := by
  refine ends_bind (expect_follows SEQUENCE input) fun ava rest _ => ends_within ?_ rest
  refine gives_bind (expect_follows OBJECT_IDENTIFIER ava) fun identifier behind _ => ?_
  exact gives_bind (element_follows behind) fun (tag, value) rest _ => rfl

theorem rdn_round_ends {rounds : Nat} (rdns : List Text) {input : Octets} (enough : input.length ≤ rounds) :
    Ends (rdn_round rounds rdns) input (((X509.expect SET).read input).bind fun (rdn, rest) =>
      (read_rdn rdns rdn).map (·, rest)) := by
  refine ends_bind (expect_follows SET input) fun rdn rest read => ends_within ?_ rest
  have fits := (expect_within read).1.trans enough
  exact gives_bind_map (until_empty_fold (fun attributes input _ => attribute_round_ends attributes input) [] fits fits)
    fun attributes _ => rfl

theorem distinguished_name_ends {rounds : Nat} {name : Octets} (enough : name.length ≤ rounds) (cursor : Octets) :
    Ends (distinguished_name rounds name) cursor ((X509.distinguished_name name).map (·, cursor)) := by
  refine ends_within ?_ cursor
  exact gives_bind_map (until_empty_fold (fun rdns _ fits => rdn_round_ends rdns fits) [] enough enough)
    fun rdns _ => rfl

theorem general_name_round_ends (found : List (Text × Text)) (input : Octets) :
    Ends (general_name_round found) input ((X509.element.read input).bind fun (item, rest) =>
      (read_general_name found item).map (·, rest)) :=
  ends_bind (element_follows input) fun _ _ _ => rfl

theorem general_names_ends {rounds : Nat} {value : Octets} (enough : value.length ≤ rounds) (cursor : Octets) :
    Ends (general_names rounds value) cursor ((X509.general_names value).map (·, cursor)) := by
  refine ends_within ?_ cursor
  refine gives_bind (expect_follows SEQUENCE value) fun names rest read => ?_
  have fits := (expect_within read).1.trans enough
  have looped := until_empty_fold (fun found input _ => general_name_round_ends found input) [] fits fits
  exact (gives_of_ends looped).trans (by rw [Option.map_id'])

theorem extension_round_ends {rounds : Nat} (subject_alt_names : List (Text × Text)) {input : Octets}
    (enough : input.length ≤ rounds) :
    Ends (extension_round rounds subject_alt_names) input (((X509.expect SEQUENCE).read input).bind
      fun (extension, rest) => (read_extension subject_alt_names extension).map (·, rest)) := by
  refine ends_bind (expect_follows SEQUENCE input) fun extension rest read => ends_within ?_ rest
  have fits := (expect_within read).1.trans enough
  refine gives_bind (expect_follows OBJECT_IDENTIFIER extension) fun identifier behind found => ?_
  refine gives_bind_map (skip_ends BOOLEAN behind) fun behind' skipped => ?_
  refine gives_bind (expect_follows OCTET_STRING behind') fun value rest valued => ?_
  have short : value.length ≤ rounds :=
    (expect_within valued).1.trans ((skip_within skipped).trans ((expect_within found).2.trans fits))
  dsimp only
  split
  · exact (gives_of_ends (general_names_ends short rest)).trans (by rw [Option.map_id'])
  · rfl

theorem tail_round_ends {rounds : Nat} (subject_alt_names : List (Text × Text)) {input : Octets}
    (enough : input.length ≤ rounds) :
    Ends (tail_round rounds subject_alt_names) input ((X509.element.read input).bind fun (item, rest) =>
      (read_tail subject_alt_names item).map (·, rest)) := by
  refine ends_bind (element_follows input) fun (tag, content) rest read => ?_
  have fits := (element_within read).1.trans enough
  unfold read_tail
  dsimp only
  by_cases other : tag ≠ EXTENSIONS
  · rw [if_pos other, if_pos other]
    rfl
  · rw [if_neg other, if_neg other]
    refine ends_within ?_ rest
    refine gives_bind (expect_follows SEQUENCE content) fun extensions behind found => ?_
    have short := (expect_within found).1.trans fits
    have looped :=
      until_empty_fold (fun names _ inside => extension_round_ends names inside) subject_alt_names short short
    exact (gives_of_ends looped).trans (by rw [Option.map_id'])

theorem names_ends {rounds : Nat} {certificate : Octets} (enough : certificate.length ≤ rounds) (cursor : Octets) :
    Ends (names rounds certificate) cursor ((X509.names certificate).map (·, cursor)) := by
  refine ends_within ?_ cursor
  refine gives_bind (expect_follows SEQUENCE certificate) fun certificate behind found => ?_
  have outer := (expect_within found).1.trans enough
  refine gives_bind (expect_follows SEQUENCE certificate) fun tbs _ found => ?_
  have inner := (expect_within found).1.trans outer
  refine gives_bind_map (skip_ends VERSION tbs) fun tbs skipped => ?_
  have version := (skip_within skipped).trans inner
  refine gives_bind (expect_follows INTEGER tbs) fun _ tbs found => ?_
  have serial := (expect_within found).2.trans version
  refine gives_bind (expect_follows SEQUENCE tbs) fun _ tbs found => ?_
  have signature := (expect_within found).2.trans serial
  refine gives_bind (expect_follows SEQUENCE tbs) fun issuer tbs found => ?_
  have issued := expect_within found
  refine gives_bind_map (distinguished_name_ends (issued.1.trans signature) tbs) fun issuer_text _ => ?_
  refine gives_bind (expect_follows SEQUENCE tbs) fun _ tbs found => ?_
  have validity := (expect_within found).2.trans (issued.2.trans signature)
  refine gives_bind (expect_follows SEQUENCE tbs) fun subject tbs found => ?_
  have subjected := expect_within found
  refine gives_bind_map (distinguished_name_ends (subjected.1.trans validity) tbs) fun subject_text _ => ?_
  refine gives_bind (expect_follows SEQUENCE tbs) fun _ tbs found => ?_
  have key := (expect_within found).2.trans (subjected.2.trans validity)
  exact gives_bind_map (until_empty_fold (fun names _ inside => tail_round_ends names inside) [] key key)
    fun subject_alt_names _ => rfl

/-! ### Any octets -/

theorem element_ok {input rest : Octets} {item : UInt8 × Octets} :
    element input = (.ok item, rest) ↔ X509.element.read input = some (item, rest) := by
  rw [element_eq]
  cases X509.element.read input with
  | none => simp
  | some found => simp [Prod.ext_iff]

theorem element_stops {input : Octets} (missed : X509.element.read input = none) :
    element input = (.error .refused, input) := by
  rw [element_eq, missed]

theorem expect_ok {input content rest : Octets} {tag : UInt8} (read : expect tag input = (.ok content, rest)) :
    (X509.expect tag).read input = some (content, rest) := by
  have ends := expect_follows tag input
  cases taken : (X509.expect tag).read input with
  | none =>
    rw [taken] at ends
    have refused : (expect tag input).1 = .error .refused := ends
    rw [read] at refused
    cases refused
  | some found =>
    obtain ⟨value, behind⟩ := found
    rw [taken] at ends
    have same : expect tag input = (.ok value, behind) := ends
    rw [read] at same
    cases same
    rfl

/-- Every loop ends within as many rounds as there are octets, and with what the
    readers make of these. -/
theorem names_eq {rounds : Nat} {certificate : Octets} (enough : certificate.length ≤ rounds) (cursor : Octets) :
    names rounds certificate cursor = (ended (X509.names certificate), cursor) :=
  Prod.ext ((gives_of_ends (names_ends enough cursor)).trans (by rw [Option.map_id'])) rfl

theorem general_names_eq {rounds : Nat} {value : Octets} (enough : value.length ≤ rounds) (cursor : Octets) :
    general_names rounds value cursor = (ended (X509.general_names value), cursor) :=
  Prod.ext ((gives_of_ends (general_names_ends enough cursor)).trans (by rw [Option.map_id'])) rfl

theorem distinguished_name_eq {rounds : Nat} {name : Octets} (enough : name.length ≤ rounds) (cursor : Octets) :
    distinguished_name rounds name cursor = (ended (X509.distinguished_name name), cursor) :=
  Prod.ext ((gives_of_ends (distinguished_name_ends enough cursor)).trans (by rw [Option.map_id'])) rfl

/-- A certificate cut short has no names. -/
theorem names_cut {certificate content front : Octets}
    (whole : (X509.expect SEQUENCE).read certificate = some (content, [])) (before : front <+: certificate)
    (proper : front ≠ certificate) : X509.names front = none := by
  have missed : X509.element.read front = none := element_exact.prefix_free (expect_read.mp whole) before proper
  have refused : (X509.expect SEQUENCE).read front = none := by
    simp only [X509.expect, missed]
  rw [X509.names, refused]
  rfl

/-- What `element` reads is a header of two to six octets and the content that it
    declares; when it gives up the cursor is where it was; what it reads to the
    end it reads from no shorter front; and it reads every encoded element,
    whatever follows. The functions that read names in nested loops end, without
    a slice out of bounds, in at most one round of each loop for every octet, and
    a certificate that is cut short is refused. -/
theorem cursor_exact (input : Octets) :
    (∀ tag content rest, element input = (.ok (tag, content), rest) →
        rest.length < input.length ∧ ∃ header, input = header ++ content ++ rest ∧ 2 ≤ header.length ∧
          header.length ≤ 6 ∧ Der.Header tag header content.length) ∧
      (∀ why rest, element input = (.error why, rest) → why = .refused ∧ rest = input) ∧
      (∀ item front, element input = (.ok item, []) → front <+: input → front ≠ input →
        element front = (.error .refused, front)) ∧
      (∀ tag content, Der.SingleOctet tag → content.length < 2 ^ 32 →
        element (Der.encode tag content ++ input) = (.ok (tag, content), input)) ∧
      (∀ rounds cursor, input.length ≤ rounds →
        names rounds input cursor = (ended (X509.names input), cursor) ∧
          general_names rounds input cursor = (ended (X509.general_names input), cursor) ∧
          distinguished_name rounds input cursor = (ended (X509.distinguished_name input), cursor)) ∧
      ∀ rounds cursor found content front, input.length ≤ rounds → names rounds input cursor = (.ok found, cursor) →
        expect SEQUENCE input = (.ok content, []) → front <+: input → front ≠ input →
        names rounds front cursor = (.error .refused, cursor) := by
  refine ⟨?_, ?_, ?_, ?_, ?_, ?_⟩
  · intro tag content rest read
    obtain ⟨header, split, is_header, -⟩ := element_header (element_ok.mp read)
    exact ⟨X509.element.shortens (element_ok.mp read), header, split, is_header.length.1, is_header.length.2, is_header⟩
  · intro why rest stopped
    rw [element_eq] at stopped
    cases found : X509.element.read input with
    | some item =>
      rw [found] at stopped
      cases stopped
    | none =>
      rw [found] at stopped
      cases stopped
      exact ⟨rfl, rfl⟩
  · intro item front read before proper
    exact element_stops (element_exact.prefix_free (element_ok.mp read) before proper)
  · intro tag content single short
    exact element_ok.mpr (element_takes single short input)
  · intro rounds cursor enough
    exact ⟨names_eq enough cursor, general_names_eq enough cursor, distinguished_name_eq enough cursor⟩
  · intro rounds cursor found content front enough _ whole before proper
    rw [names_eq (before.length_le.trans enough), names_cut (expect_ok whole) before proper]
    rfl

end SiphonHttp.X509.Slice
