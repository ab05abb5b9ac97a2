import SiphonHttp.DistinguishedName

/-!
Object identifiers as X.690 encodes them and as `dotted` writes them. The arcs
are collected in 64 bits, so the text of an identifier is its own exactly when
its sub-identifiers fit (`dotted_identifiers`).
-/
namespace SiphonHttp.X509
open Text

/-- Three roots, of which the first two have arcs below 40; all further arcs are
    unbounded. -/
structure ObjectIdentifier where
  root : Nat
  second : Nat
  rest : List Nat
  root_le : root ≤ 2
  second_lt : root < 2 → second < 40

namespace ObjectIdentifier
variable (identifier : ObjectIdentifier)

def arcs : List Nat := identifier.root :: identifier.second :: identifier.rest

/-- The first two arcs share a sub-identifier. -/
def subs : List Nat := (40 * identifier.root + identifier.second) :: identifier.rest

def encode : Octets := Der.identifier identifier.subs

/-- The arcs in decimal. -/
def text : Text := join ['.'] (identifier.arcs.map decimal)

/-- What is left of the sub-identifiers in 64 bits. -/
def wrapped : List Nat := identifier.subs.map (· % 2 ^ 64)

theorem arcs_subs : Der.arcs identifier.subs = identifier.arcs := by
  have root := identifier.root_le
  have second := identifier.second_lt
  rw [subs, Der.arcs, arcs]
  have first : min ((40 * identifier.root + identifier.second) / 40) 2 = identifier.root := by omega
  rw [first]
  congr 2
  omega

theorem dotted_encode : dotted identifier.encode = join ['.'] ((Der.arcs identifier.wrapped).map decimal) := by
  have read := @read_arc_arcs identifier.encode 0 [] 0 rfl
  rw [if_pos rfl, encode, Der.sub_identifiers_identifier] at read
  rw [dotted, wrapped, ← read, List.map_map]
  rfl

theorem wrapped_eq_subs : identifier.wrapped = identifier.subs ↔ ∀ sub ∈ identifier.subs, sub < 2 ^ 64 := by
  constructor
  · intro same sub member
    rw [← same] at member
    obtain ⟨whole, -, rfl⟩ := List.mem_map.mp member
    exact Nat.mod_lt _ (by decide)
  · intro fits
    exact Rfc4514.map_same fun sub member => Nat.mod_eq_of_lt (fits sub member)

theorem dotted_eq_text_iff : dotted identifier.encode = identifier.text ↔ ∀ sub ∈ identifier.subs, sub < 2 ^ 64 := by
  rw [dotted_encode, text, ← arcs_subs, ← wrapped_eq_subs]
  constructor
  · intro same
    exact Der.arcs_injective (dotted_injective same)
  · intro same
    rw [same]

variable {identifier} in
theorem dotted_eq_iff {other : ObjectIdentifier} :
    dotted identifier.encode = dotted other.encode ↔ identifier.wrapped = other.wrapped := by
  rw [dotted_encode, dotted_encode]
  constructor
  · intro same
    exact Der.arcs_injective (dotted_injective same)
  · intro same
    rw [same]

end ObjectIdentifier

/-- The dotted text of an encoded identifier is its arcs exactly when its
    sub-identifiers are below 2^64, and two identifiers get different texts
    exactly when their sub-identifiers differ in their last 64 bits. -/
theorem dotted_identifiers (identifier other : ObjectIdentifier) :
    (dotted identifier.encode = identifier.text ↔ ∀ sub ∈ identifier.subs, sub < 2 ^ 64) ∧
      (dotted identifier.encode ≠ dotted other.encode ↔ identifier.wrapped ≠ other.wrapped) :=
  ⟨identifier.dotted_eq_text_iff, ObjectIdentifier.dotted_eq_iff.not⟩

/-- An arc of 65 bits, as the identifiers under 2.25 have them, and the arc 0. -/
def wide : ObjectIdentifier := ⟨2, 25, [2 ^ 64], by decide, by decide⟩
def narrow : ObjectIdentifier := ⟨2, 25, [0], by decide, by decide⟩

theorem wide_is_narrow :
    dotted wide.encode ≠ wide.text ∧ wide.arcs ≠ narrow.arcs ∧ dotted wide.encode = dotted narrow.encode := by
  refine ⟨?_, by decide, ?_⟩
  · rw [ne_eq, ObjectIdentifier.dotted_eq_text_iff]
    decide
  · rw [ObjectIdentifier.dotted_eq_iff]
    decide

end SiphonHttp.X509
