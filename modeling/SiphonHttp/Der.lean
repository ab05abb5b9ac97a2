import Mathlib.Data.Nat.Bitwise
import Mathlib.Data.Nat.Digits.Lemmas

/-!
The distinguished encoding of an element with a tag of one octet: the tag, the
length in its shortest form, and the content; and the content of an object
identifier.
-/
namespace SiphonHttp.Der

/-- A number in base 256, the most significant octet first. -/
def bigEndian (n : Nat) : List UInt8 := (Nat.digits 256 n).reverse.map UInt8.ofNat

/-- One octet up to 127; else how many octets follow, and these. -/
def lengthOctets (n : Nat) : List UInt8 :=
  if n < 128 then [UInt8.ofNat n] else UInt8.ofNat (0x80 + (bigEndian n).length) :: bigEndian n

def encode (tag : UInt8) (content : List UInt8) : List UInt8 := tag :: lengthOctets content.length ++ content

/-- The tag does not announce further octets of the tag. -/
def SingleOctet (tag : UInt8) : Prop := tag &&& 0x1f ≠ 0x1f

instance (tag : UInt8) : Decidable (SingleOctet tag) := inferInstanceAs (Decidable (_ ≠ _))

/-- The number that octets in base 256 stand for, read by shifting. -/
def value (octets : List UInt8) : Nat := octets.foldl (fun length octet => (length <<< 8) ||| octet.toNat) 0

theorem shift_octet (length : Nat) (octet : UInt8) : (length <<< 8) ||| octet.toNat = length * 256 + octet.toNat := by
  rw [← Nat.shiftLeft_add_eq_or_of_lt octet.toNat_lt length, Nat.shiftLeft_eq]

theorem value_eq (octets : List UInt8) : value octets = Nat.ofDigits 256 (octets.reverse.map UInt8.toNat) := by
  induction octets using List.reverseRecOn with
  | nil => rfl
  | append_singleton octets octet ih =>
    rw [List.reverse_append, List.reverse_singleton, List.singleton_append, List.map_cons, Nat.ofDigits_cons, ← ih, value,
      value, List.foldl_append, List.foldl_cons, List.foldl_nil, shift_octet]
    omega

theorem value_bigEndian (n : Nat) : value (bigEndian n) = n := by
  have octets : (Nat.digits 256 n).map (UInt8.toNat ∘ UInt8.ofNat) = Nat.digits 256 n := by
    refine (List.map_congr_left fun digit member => ?_).trans (List.map_id _)
    rw [Function.comp_apply, UInt8.toNat_ofNat']
    exact Nat.mod_eq_of_lt (Nat.digits_lt_base (by decide) member)
  rw [value_eq, bigEndian, ← List.map_reverse, List.reverse_reverse, List.map_map, octets, Nat.ofDigits_digits]

theorem bigEndian_length_le {n count : Nat} : (bigEndian n).length ≤ count ↔ n < 256 ^ count := by
  rw [bigEndian, List.length_map, List.length_reverse, Nat.digits_length_le_iff (by decide)]

theorem bigEndian_length_pos {n : Nat} (positive : 0 < n) : 0 < (bigEndian n).length := by
  by_contra none
  have small := bigEndian_length_le.mp (show (bigEndian n).length ≤ 0 by omega)
  simp at small
  omega

/-- The long form: the count of octets is told from a short length by its high
    bit, and is at most four for a length below 2^32. -/
theorem lengthOctets_long {n : Nat} (long : 128 ≤ n) (bounded : n < 2 ^ 32) :
    ∃ first octets, lengthOctets n = first :: octets ∧ first &&& 0x80 ≠ 0 ∧ (first &&& 0x7f).toNat = octets.length ∧
      0 < octets.length ∧ octets.length ≤ 4 ∧ value octets = n := by
  have few : (bigEndian n).length ≤ 4 := bigEndian_length_le.mpr (by omega)
  have some : 0 < (bigEndian n).length := bigEndian_length_pos (by omega)
  refine ⟨_, _, if_neg (by omega), ?_, ?_, some, few, value_bigEndian n⟩
  · generalize (bigEndian n).length = count at few some
    interval_cases count <;> decide
  · generalize (bigEndian n).length = count at few some
    interval_cases count <;> decide

theorem lengthOctets_short {n : Nat} (short : n < 128) :
    ∃ first, lengthOctets n = [first] ∧ first &&& 0x80 = 0 ∧ first.toNat = n := by
  refine ⟨_, if_pos short, ?_, ?_⟩
  · interval_cases n <;> decide
  · rw [UInt8.toNat_ofNat']
    exact Nat.mod_eq_of_lt (by omega)

theorem encode_length (tag : UInt8) (content : List UInt8) : content.length < (encode tag content).length := by
  simp only [encode, List.cons_append, List.length_cons, List.length_append]
  omega

/-! ### Headers -/

/-- The header of an element and the length of content that it declares, in the
    short form or in the long one with at most four octets. -/
inductive Header (tag : UInt8) : List UInt8 → Nat → Prop
  | short (first : UInt8) (low : first.toNat < 128) : Header tag [tag, first] first.toNat
  | long (first : UInt8) (octets : List UInt8) (count : first.toNat = 128 + octets.length) (some : 1 ≤ octets.length)
      (few : octets.length ≤ 4) :
    Header tag (tag :: first :: octets) (Nat.ofDigits 256 (octets.reverse.map UInt8.toNat))

theorem Header.length {tag : UInt8} {header : List UInt8} {declared : Nat} (is_header : Header tag header declared) :
    2 ≤ header.length ∧ header.length ≤ 6 := by
  cases is_header with
  | short first low => simp
  | long first octets count some few =>
    simp only [List.length_cons]
    omega

theorem Header.starts {tag : UInt8} {header : List UInt8} {declared : Nat} (is_header : Header tag header declared) :
    ∃ length, header = tag :: length := by
  cases is_header with
  | short first low => exact ⟨_, rfl⟩
  | long first octets count some few => exact ⟨_, rfl⟩

theorem high_bit (octet : UInt8) : octet &&& 0x80 = 0 ↔ octet.toNat < 128 := by
  have small := octet.toNat_lt
  have top : octet.toNat.testBit 7 = decide (128 ≤ octet.toNat) := by
    rw [Nat.testBit_eq_decide_div_mod_eq, decide_eq_decide]
    omega
  have bit : octet.toNat &&& 128 = (octet.toNat.testBit 7).toNat * 128 := Nat.and_two_pow octet.toNat 7
  rw [← UInt8.toNat_inj, UInt8.toNat_and]
  change octet.toNat &&& 128 = 0 ↔ octet.toNat < 128
  rw [bit, top]
  by_cases high : 128 ≤ octet.toNat
  · simp [high]
  · simp [high, Nat.lt_of_not_le high]

theorem low_bits (octet : UInt8) : (octet &&& 0x7f).toNat = octet.toNat % 128 := by
  rw [UInt8.toNat_and]
  exact Nat.and_two_pow_sub_one_eq_mod octet.toNat 7

/-! ### Elements -/

/-- The octets are these elements, one after the other, and then the rest. -/
inductive Elements : List (UInt8 × List UInt8) → List UInt8 → List UInt8 → Prop
  | nil {rest : List UInt8} : Elements [] rest rest
  | cons {tag : UInt8} {header content octets rest : List UInt8} {elements : List (UInt8 × List UInt8)}
      (first : Header tag header content.length) (others : Elements elements octets rest) :
      Elements ((tag, content) :: elements) (header ++ content ++ octets) rest

theorem Elements.append {elements more : List (UInt8 × List UInt8)} {octets middle rest : List UInt8}
    (first : Elements elements octets middle) (second : Elements more middle rest) :
    Elements (elements ++ more) octets rest := by
  induction first with
  | nil => exact second
  | cons header others ih => exact .cons header (ih second)

/-! ### Object identifiers -/

/-- The octets of a number in base 128, the most significant first, that more
    octets follow. -/
def leading (n : Nat) : List UInt8 :=
  if n = 0 then [] else leading (n / 128) ++ [UInt8.ofNat (0x80 + n % 128)]
termination_by n
decreasing_by omega

/-- An object identifier, from its sub-identifiers. -/
def identifier (subs : List Nat) : List UInt8 :=
  subs.flatMap fun sub => leading (sub / 128) ++ [UInt8.ofNat (sub % 128)]

/-- The sub-identifiers that octets give, behind what was read of the first one.
    One that no octet ends is left out. -/
def sub_identifiers (read : Nat) : List UInt8 → List Nat
  | [] => []
  | octet :: octets =>
    let read := read * 128 + octet.toNat % 128
    if octet.toNat < 128 then read :: sub_identifiers 0 octets else sub_identifiers read octets

/-- The first sub-identifier stands for two arcs. -/
def arcs : List Nat → List Nat
  | [] => []
  | first :: rest =>
    let root := min (first / 40) 2
    root :: (first - root * 40) :: rest

theorem sub_identifiers_leading (n : Nat) (octets : List UInt8) :
    sub_identifiers 0 (leading n ++ octets) = sub_identifiers n octets := by
  induction n using Nat.strong_induction_on generalizing octets with
  | _ n ih =>
    rw [leading]
    split_ifs with zero
    · rw [zero, List.nil_append]
    · have octet : (UInt8.ofNat (0x80 + n % 128)).toNat = 128 + n % 128 := by
        rw [UInt8.toNat_ofNat']
        omega
      rw [List.append_assoc, List.singleton_append, ih (n / 128) (by omega), sub_identifiers]
      simp only [octet]
      rw [if_neg (by omega)]
      congr 1
      omega

/-- The sub-identifiers are read back as they were encoded. -/
theorem sub_identifiers_identifier (subs : List Nat) : sub_identifiers 0 (identifier subs) = subs := by
  induction subs with
  | nil => rfl
  | cons sub subs ih =>
    have octet : (UInt8.ofNat (sub % 128)).toNat = sub % 128 := by
      rw [UInt8.toNat_ofNat']
      omega
    rw [identifier, List.flatMap_cons, List.append_assoc, sub_identifiers_leading, List.singleton_append,
      sub_identifiers]
    simp only [octet]
    rw [if_pos (by omega), ← identifier, ih]
    congr 1
    omega

theorem arcs_injective {first second : List Nat} (same : arcs first = arcs second) : first = second := by
  cases first with
  | nil =>
    cases second with
    | nil => rfl
    | cons sub subs => cases same
  | cons one more =>
    cases second with
    | nil => cases same
    | cons sub subs =>
      simp only [arcs, List.cons.injEq] at same
      obtain ⟨root, arc, rest⟩ := same
      rw [rest]
      congr 1
      omega

end SiphonHttp.Der
