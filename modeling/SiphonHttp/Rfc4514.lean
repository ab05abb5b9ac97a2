import Mathlib.Data.List.Basic
import Mathlib.Tactic.SplitIfs

/-!
Distinguished names as texts, after RFC 4514: relative distinguished names with
`,` between them, their attributes with `+` between them, and in an attribute a
type, `=` and a value. A separator that a backslash stands in front of is part of
a value. What is written from parts that escape their separators is read back as
these parts.
-/
namespace SiphonHttp.Rfc4514

/-! ### Reading -/

/-- A text in front of the first part. -/
def front (text : List Char) : List (List Char) → List (List Char)
  | [] => [text]
  | part :: parts => (text ++ part) :: parts

/-- The parts between the separators that no backslash stands in front of. -/
def split (separator : Char) : List Char → List (List Char)
  | [] => [[]]
  | '\\' :: c :: rest => front ['\\', c] (split separator rest)
  | c :: rest => if c = separator then [] :: split separator rest else front [c] (split separator rest)

/-- The characters that escapes stand for. -/
def unescape : List Char → List Char
  | [] => []
  | '\\' :: '0' :: '0' :: rest => '\x00' :: unescape rest
  | '\\' :: c :: rest => c :: unescape rest
  | c :: rest => c :: unescape rest

/-- The type of an attribute and its value, as it is written. -/
def type_and_value (part : List Char) : List Char × List Char :=
  (part.takeWhile (· ≠ '='), (part.dropWhile (· ≠ '=')).drop 1)

/-- The attributes of each relative distinguished name. -/
def read (text : List Char) : List (List (List Char × List Char)) :=
  if text = [] then [] else (split ',' text).map fun rdn => (split '+' rdn).map type_and_value

/-- The type and the characters of the value of each attribute. -/
def read_characters (text : List Char) : List (List (List Char × List Char)) :=
  (read text).map fun rdn => rdn.map fun ava => (ava.1, unescape ava.2)

/-! ### Parts that escape their separators -/

/-- Every separator in the text stands behind a backslash that escapes it. -/
inductive Closed (separator : Char) : List Char → Prop
  | nil : Closed separator []
  | escape (c : Char) {rest : List Char} (closed : Closed separator rest) : Closed separator ('\\' :: c :: rest)
  | plain {c : Char} {rest : List Char} (not_escape : c ≠ '\\') (other : c ≠ separator)
    (closed : Closed separator rest) : Closed separator (c :: rest)

section
variable {separator : Char} {text : List Char}

theorem Closed.append (closed : Closed separator text) {more : List Char} (behind : Closed separator more) :
    Closed separator (text ++ more) := by
  induction closed with
  | nil => exact behind
  | escape c _ ih => exact .escape c ih
  | plain not_escape other _ ih => exact .plain not_escape other ih

/-- A text in which neither occurs. -/
theorem closed_of_forall (plain : ∀ c ∈ text, c ≠ '\\' ∧ c ≠ separator) : Closed separator text := by
  induction text with
  | nil => exact .nil
  | cons c text ih =>
    obtain ⟨not_escape, other⟩ := plain c (List.mem_cons_self ..)
    exact .plain not_escape other (ih fun other member => plain other (List.mem_cons_of_mem _ member))

theorem Closed.flatMap {Item : Type*} {items : List Item} {written : Item → List Char}
    (closed : ∀ item ∈ items, Closed separator (written item)) : Closed separator (items.flatMap written) := by
  induction items with
  | nil => exact .nil
  | cons item items ih =>
    rw [List.flatMap_cons]
    exact (closed item (List.mem_cons_self ..)).append
      (ih fun other member => closed other (List.mem_cons_of_mem _ member))

/-- Between parts that escape it, another character can stand. -/
theorem Closed.intercalate {other : Char} (not_escape : other ≠ '\\') (different : other ≠ separator)
    {parts : List (List Char)} (closed : ∀ part ∈ parts, Closed separator part) :
    Closed separator ([other].intercalate parts) := by
  induction parts with
  | nil => exact .nil
  | cons part parts ih =>
    have here := closed part (List.mem_cons_self ..)
    have rest := ih fun other member => closed other (List.mem_cons_of_mem _ member)
    cases parts with
    | nil => simpa [List.intercalate] using here
    | cons next parts =>
      rw [List.intercalate_cons_cons]
      exact (here.append (.plain not_escape different .nil)).append rest

theorem split_plain {c : Char} (not_escape : c ≠ '\\') (rest : List Char) :
    split separator (c :: rest) =
      if c = separator then [] :: split separator rest else front [c] (split separator rest) := by
  rw [split]
  intro other tail escaped
  exact absurd escaped not_escape

theorem split_ne_nil (separator : Char) (text : List Char) : split separator text ≠ [] := by
  have front_ne_nil : ∀ (first : List Char) (parts : List (List Char)), front first parts ≠ [] := by
    intro first parts
    cases parts <;> exact List.cons_ne_nil _ _
  unfold split
  split
  · exact List.cons_ne_nil _ _
  · exact front_ne_nil _ _
  · split_ifs
    · exact List.cons_ne_nil _ _
    · exact front_ne_nil _ _

theorem front_append (first second : List Char) (parts : List (List Char)) :
    front first (front second parts) = front (first ++ second) parts := by
  cases parts <;> simp [front]

theorem front_nil {parts : List (List Char)} (nonempty : parts ≠ []) : front [] parts = parts := by
  cases parts with
  | nil => exact absurd rfl nonempty
  | cons part parts => rfl

/-- A part that escapes its separators is in front of the first part of what
    follows it. -/
theorem split_append (closed : Closed separator text) (rest : List Char) :
    split separator (text ++ rest) = front text (split separator rest) := by
  induction closed with
  | nil => rw [List.nil_append, front_nil (split_ne_nil separator rest)]
  | escape c _ ih =>
    rw [List.cons_append, List.cons_append, split, ih, front_append]
    rfl
  | plain not_escape other _ ih =>
    rw [List.cons_append, split_plain not_escape, if_neg other, ih, front_append]
    rfl

theorem split_separator (not_escape : separator ≠ '\\') (closed : Closed separator text) (rest : List Char) :
    split separator (text ++ separator :: rest) = text :: split separator rest := by
  rw [split_append closed, split_plain not_escape, if_pos rfl, front, List.append_nil]

/-- What is written from parts that escape their separators is read as these
    parts. -/
theorem split_intercalate (not_escape : separator ≠ '\\') {parts : List (List Char)} (nonempty : parts ≠ [])
    (closed : ∀ part ∈ parts, Closed separator part) : split separator ([separator].intercalate parts) = parts := by
  induction parts with
  | nil => exact absurd rfl nonempty
  | cons part parts ih =>
    have here := closed part (List.mem_cons_self ..)
    cases parts with
    | nil =>
      have whole := split_append here []
      rw [List.append_nil, split, front, List.append_nil] at whole
      simpa [List.intercalate] using whole
    | cons next parts =>
      rw [List.intercalate_cons_cons, List.append_assoc, List.singleton_append, split_separator not_escape here,
        ih (List.cons_ne_nil _ _) fun other member => closed other (List.mem_cons_of_mem _ member)]

end

theorem unescape_nul (rest : List Char) : unescape ('\\' :: '0' :: '0' :: rest) = '\x00' :: unescape rest := rfl

theorem unescape_escape {c : Char} (not_zero : c ≠ '0') (rest : List Char) :
    unescape ('\\' :: c :: rest) = c :: unescape rest := by
  rw [unescape]
  rintro tail zero -
  exact absurd zero not_zero

theorem unescape_plain {c : Char} (not_escape : c ≠ '\\') (rest : List Char) :
    unescape (c :: rest) = c :: unescape rest := by
  rw [unescape]
  · intro tail escaped
    exact absurd escaped not_escape
  · intro other tail escaped
    exact absurd escaped not_escape

/-! ### Reading what was written -/

/-- An attribute as it is written. -/
def written (ava : List Char × List Char) : List Char := ava.1 ++ '=' :: ava.2

/-- The attributes of relative distinguished names as they are written. -/
def write (rdns : List (List (List Char × List Char))) : List Char :=
  [','].intercalate (rdns.map fun rdn => ['+'].intercalate (rdn.map written))

/-- Types without `=`, and types and values that escape what separates names and
    attributes. -/
structure Writable (ava : List Char × List Char) : Prop where
  no_equals : '=' ∉ ava.1
  comma : Closed ',' (written ava)
  plus : Closed '+' (written ava)

theorem type_and_value_written {ava : List Char × List Char} (no_equals : '=' ∉ ava.1) :
    type_and_value (written ava) = ava := by
  obtain ⟨name, value⟩ := ava
  have plain : ∀ c ∈ name, decide (c ≠ '=') = true := fun c member =>
    decide_eq_true fun same => no_equals (same ▸ member)
  simp only [type_and_value, written]
  rw [List.takeWhile_append_of_pos plain, List.dropWhile_append_of_pos plain]
  simp

theorem written_ne_nil (ava : List Char × List Char) : written ava ≠ [] := by
  simp [written]

theorem map_same {Item : Type*} {change : Item → Item} {items : List Item}
    (same : ∀ item ∈ items, change item = item) : items.map change = items :=
  (List.map_congr_left same).trans (List.map_id items)

theorem intercalate_ne_nil (separator : List Char) {parts : List (List Char)} (nonempty : parts ≠ [])
    (each : ∀ part ∈ parts, part ≠ []) : separator.intercalate parts ≠ [] := by
  cases parts with
  | nil => exact absurd rfl nonempty
  | cons part parts =>
    have first := each part (List.mem_cons_self ..)
    cases parts with
    | nil => simpa [List.intercalate] using first
    | cons next parts =>
      rw [List.intercalate_cons_cons]
      simp [first]

theorem read_write {rdns : List (List (List Char × List Char))} (nonempty : ∀ rdn ∈ rdns, rdn ≠ [])
    (writable : ∀ rdn ∈ rdns, ∀ ava ∈ rdn, Writable ava) : read (write rdns) = rdns := by
  have parts_ne_nil : ∀ rdn ∈ rdns, ∀ part ∈ rdn.map written, part ≠ [] := by
    intro rdn member part inside
    obtain ⟨ava, -, rfl⟩ := List.mem_map.mp inside
    exact written_ne_nil ava
  have each : ∀ rdn ∈ rdns, (split '+' (['+'].intercalate (rdn.map written))).map type_and_value = rdn := by
    intro rdn member
    rw [split_intercalate (by decide) (fun none => nonempty rdn member (List.map_eq_nil_iff.mp none)), List.map_map]
    · refine map_same fun ava within => ?_
      exact type_and_value_written (writable rdn member ava within).no_equals
    · intro part inside
      obtain ⟨ava, within, rfl⟩ := List.mem_map.mp inside
      exact (writable rdn member ava within).plus
  by_cases none : rdns = []
  · rw [none]
    rfl
  · have some_text : write rdns ≠ [] := by
      refine intercalate_ne_nil _ (fun empty => none (List.map_eq_nil_iff.mp empty)) ?_
      intro text inside
      obtain ⟨rdn, member, rfl⟩ := List.mem_map.mp inside
      exact intercalate_ne_nil _ (fun empty => nonempty rdn member (List.map_eq_nil_iff.mp empty))
        (parts_ne_nil rdn member)
    rw [read, if_neg some_text, write,
      split_intercalate (by decide) (fun empty => none (List.map_eq_nil_iff.mp empty)), List.map_map]
    · exact map_same each
    · intro text inside
      obtain ⟨rdn, member, rfl⟩ := List.mem_map.mp inside
      refine Closed.intercalate (by decide) (by decide) ?_
      intro part within
      obtain ⟨ava, listed, rfl⟩ := List.mem_map.mp within
      exact (writable rdn member ava listed).comma

end SiphonHttp.Rfc4514
