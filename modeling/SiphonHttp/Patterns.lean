import SiphonHttp.PathParams

/-!
Route patterns in the router's own grammar: literals in which a doubled brace
stands for a brace, a literal with a parameter behind it, a whole parameter, a
final catch-all. `extract_path_params` tells parameters by how a segment begins
and ends, which agrees with the router on whole parameters and catch-alls only
(`extract_path_params_keys`).
-/
namespace SiphonHttp.Patterns
open Text Parse PathParams

/-- One segment of a pattern: a literal, a parameter behind a literal `front`
    that may be empty, or a catch-all. -/
inductive Part
  | literal (plain : Text)
  | param (front name : Text)
  | catchAll (name : Text)
  deriving DecidableEq, Repr

/-- A literal as it is written: a brace is doubled. -/
def escape (plain : Text) : Text := plain.flatMap fun c => if c = '{' ∨ c = '}' then [c, c] else [c]

namespace Part

/-- The segment as it is written. -/
def text : Part → Text
  | literal plain => escape plain
  | param front name => escape front ++ '{' :: name ++ ['}']
  | catchAll name => '{' :: '*' :: name ++ ['}']

/-- The name a segment binds. -/
def name : Part → Option Text
  | literal _ => none
  | param _ name => some name
  | catchAll name => some name

/-- Nothing holds the separator, names hold neither a brace nor a `:`, and `{*`
    always opens a catch-all. -/
def WellFormed : Part → Prop
  | literal plain => '/' ∉ plain
  | param front name => '/' ∉ front ∧ '/' ∉ name ∧ '{' ∉ name ∧ '}' ∉ name ∧ ':' ∉ name ∧ name.head? ≠ some '*'
  | catchAll name => '/' ∉ name ∧ '{' ∉ name ∧ '}' ∉ name ∧ ':' ∉ name

instance (part : Part) : Decidable part.WellFormed := by
  cases part <;> unfold WellFormed <;> infer_instance

def isCatchAll : Part → Bool
  | catchAll _ => true
  | _ => false

end Part

/-- A pattern: at least one segment, a catch-all only at the end. -/
structure Pattern where
  parts : List Part
  nonempty : parts ≠ []
  formed : ∀ part ∈ parts, part.WellFormed
  catchAllLast : ∀ part ∈ parts.dropLast, part.isCatchAll = false
  deriving DecidableEq

namespace Pattern

/-- The pattern as it is written. -/
def text (pattern : Pattern) : Text := join ['/'] (pattern.parts.map Part.text)

/-- Match segments against the pieces of a path. A literal equals its piece, a
    parameter takes what is left of one piece behind its literal, which is not
    empty, a catch-all what is left of the path, which is not empty. -/
def bind : List Part → List Text → Option (List (Text × Text))
  | [], [] => some []
  | .literal plain :: parts, piece :: pieces => if plain = piece then bind parts pieces else none
  | .param front name :: parts, piece :: pieces =>
    if front <+: piece ∧ piece.drop front.length ≠ [] then
      (bind parts pieces).map ((name, piece.drop front.length) :: ·)
    else none
  | [.catchAll name], piece :: pieces =>
    let rest := join ['/'] (piece :: pieces)
    if rest = [] then none else some [(name, rest)]
  | _, _ => none

/-- The parameters the router binds when the pattern matches the path. -/
def bindings (pattern : Pattern) (path : Text) : Option (List (Text × Text)) :=
  bind pattern.parts (path.splitOn '/')

@[simp] theorem bind_literal (plain piece : Text) (parts : List Part) (pieces : List Text) :
    bind (.literal plain :: parts) (piece :: pieces) = if plain = piece then bind parts pieces else none := by rw [bind]

@[simp] theorem bind_param (front name piece : Text) (parts : List Part) (pieces : List Text) :
    bind (.param front name :: parts) (piece :: pieces) =
      if front <+: piece ∧ piece.drop front.length ≠ [] then
        (bind parts pieces).map ((name, piece.drop front.length) :: ·)
      else none := by rw [bind]

@[simp] theorem bind_catchAll (name piece : Text) (pieces : List Text) :
    bind [.catchAll name] (piece :: pieces) =
      if join ['/'] (piece :: pieces) = [] then none else some [(name, join ['/'] (piece :: pieces))] := by rw [bind]

@[simp] theorem bind_cons_nil (part : Part) (parts : List Part) : bind (part :: parts) [] = none := by
  cases part <;> simp [bind]

@[simp] theorem bind_catchAll_cons (name : Text) (part : Part) (parts : List Part) (pieces : List Text) :
    bind (.catchAll name :: part :: parts) pieces = none := by simp [bind]

/-- The names bound are the names in the pattern, in order. -/
theorem bind_names {parts : List Part} {pieces : List Text} {bound : List (Text × Text)}
    (found : bind parts pieces = some bound) : bound.map Prod.fst = parts.filterMap Part.name := by
  induction parts generalizing pieces bound with
  | nil =>
    cases pieces with
    | nil =>
      simp only [bind, Option.some.injEq] at found
      subst found
      rfl
    | cons _ _ => simp [bind] at found
  | cons part parts ih =>
    cases pieces with
    | nil => simp at found
    | cons piece pieces =>
      cases part with
      | literal plain =>
        rw [bind_literal] at found
        split_ifs at found
        exact ih found
      | param front name =>
        rw [bind_param] at found
        split_ifs at found
        obtain ⟨tail, inner, rfl⟩ := Option.map_eq_some_iff.mp found
        rw [List.map_cons, ih inner]
        rfl
      | catchAll name =>
        cases parts with
        | cons _ _ => simp at found
        | nil =>
          rw [bind_catchAll] at found
          split_ifs at found
          obtain rfl := Option.some.inj found
          rfl

end Pattern

/-! ### Templates as patterns -/

/-- A segment of a template: its literals hold no brace and its parameters are
    whole segments. -/
def Part.of : Segment → Part
  | .literal text => .literal text
  | .param name => .param [] name
  | .catchAll name => .catchAll name

theorem Part.of_formed {segment : Segment} (formed : segment.WellFormed) : (Part.of segment).WellFormed := by
  cases segment with
  | literal text => exact formed.1
  | param name => exact ⟨List.not_mem_nil, formed⟩
  | catchAll name => exact formed

theorem escape_plain {plain : Text} (left : '{' ∉ plain) (right : '}' ∉ plain) : escape plain = plain := by
  induction plain with
  | nil => rfl
  | cons c plain ih =>
    simp only [List.mem_cons, not_or] at left right
    have single : ¬(c = '{' ∨ c = '}') := by
      rintro (rfl | rfl)
      · exact left.1 rfl
      · exact right.1 rfl
    rw [escape, List.flatMap_cons, if_neg single, List.singleton_append]
    exact congrArg _ (ih left.2 right.2)

theorem Part.of_text {segment : Segment} (formed : segment.WellFormed) : (Part.of segment).text = segment.text := by
  cases segment with
  | literal text => exact escape_plain formed.2.1 formed.2.2
  | param name => rfl
  | catchAll name => rfl

/-- On the segments of a template the two routers agree. -/
theorem bind_of (segments : List Segment) (pieces : List Text) :
    Pattern.bind (segments.map Part.of) pieces = Template.bind segments pieces := by
  induction segments generalizing pieces with
  | nil => cases pieces <;> rfl
  | cons segment segments ih =>
    cases pieces with
    | nil => rw [List.map_cons, Pattern.bind_cons_nil, Template.bind_cons_nil]
    | cons piece pieces =>
      cases segment with
      | literal text => rw [List.map_cons, Part.of, Pattern.bind_literal, Template.bind_literal, ih]
      | param name =>
        rw [List.map_cons, Part.of, Pattern.bind_param, Template.bind_param, ih]
        simp
      | catchAll name =>
        cases segments with
        | nil => rw [List.map_cons, List.map_nil, Part.of, Pattern.bind_catchAll, Template.bind_catchAll]
        | cons next segments =>
          rw [List.map_cons, List.map_cons, Part.of, Pattern.bind_catchAll_cons, Template.bind_catchAll_cons]

/-- A template as a pattern. -/
def Pattern.of (template : Template) : Pattern where
  parts := template.segments.map Part.of
  nonempty := by simpa using template.nonempty
  formed := by
    intro part member
    obtain ⟨segment, inside, rfl⟩ := List.mem_map.mp member
    exact Part.of_formed (template.formed segment inside)
  catchAllLast := by
    intro part member
    rw [← List.map_dropLast] at member
    obtain ⟨segment, inside, rfl⟩ := List.mem_map.mp member
    have last := template.catchAllLast segment inside
    cases segment with
    | literal text => rfl
    | param name => rfl
    | catchAll name => exact last

theorem Pattern.of_text (template : Template) : (Pattern.of template).text = template.text := by
  rw [Pattern.text, Pattern.of, List.map_map, Template.text]
  congr 1
  exact List.map_congr_left fun segment inside => Part.of_text (template.formed segment inside)

theorem Pattern.of_bindings (template : Template) (path : Text) :
    (Pattern.of template).bindings path = template.bindings path := bind_of _ _

/-! ### How a pattern is written -/

theorem escape_cons (c : Char) (plain : Text) :
    escape (c :: plain) = (if c = '{' ∨ c = '}' then [c, c] else [c]) ++ escape plain := rfl

theorem escape_no_slash {plain : Text} (none : '/' ∉ plain) : '/' ∉ escape plain := by
  intro member
  obtain ⟨c, inside, here⟩ := List.mem_flatMap.mp member
  split_ifs at here with brace
  · rcases List.mem_cons.mp here with rfl | later
    · exact none inside
    · exact none (List.mem_singleton.mp later ▸ inside)
  · exact none (List.mem_singleton.mp here ▸ inside)

theorem text_no_slash {part : Part} (formed : part.WellFormed) : '/' ∉ part.text := by
  cases part with
  | literal plain => exact escape_no_slash formed
  | param front name =>
    have first := escape_no_slash formed.1
    have second := formed.2.1
    simp [Part.text, first, second]
  | catchAll name => simpa [Part.text] using formed.1

theorem splitOn_text (pattern : Pattern) : pattern.text.splitOn '/' = pattern.parts.map Part.text := by
  refine List.splitOn_intercalate '/' ?_ (by simpa using pattern.nonempty)
  intro piece member
  obtain ⟨part, inside, rfl⟩ := List.mem_map.mp member
  exact text_no_slash (pattern.formed part inside)

/-- A literal that is written with a brace in front is written with two. -/
theorem escape_doubles (plain behind : Text) (nonempty : plain ≠ []) (opens : ['{'] <+: escape plain ++ behind) :
    ['{', '{'] <+: escape plain ++ behind := by
  cases plain with
  | nil => exact absurd rfl nonempty
  | cons c plain =>
    rw [escape_cons] at opens ⊢
    split_ifs at opens ⊢ with brace
    · obtain ⟨rest, same⟩ := opens
      obtain ⟨rfl, -⟩ := List.cons.inj same
      exact ⟨_, rfl⟩
    · obtain ⟨rest, same⟩ := opens
      obtain ⟨rfl, -⟩ := List.cons.inj same
      exact absurd (Or.inl rfl) brace

theorem literal_doubles (plain : Text) (opens : ['{'] <+: (Part.literal plain).text) :
    ['{', '{'] <+: (Part.literal plain).text := by
  cases plain with
  | nil => exact absurd (List.prefix_nil.mp opens) (List.cons_ne_nil _ _)
  | cons c plain =>
    simpa [Part.text] using escape_doubles (c :: plain) [] (List.cons_ne_nil _ _) (by simpa [Part.text] using opens)

theorem param_doubles {front : Text} (name : Text) (nonempty : front ≠ []) (opens : ['{'] <+: (Part.param front name).text) :
    ['{', '{'] <+: (Part.param front name).text := by
  simp only [Part.text, List.append_assoc] at opens ⊢
  exact escape_doubles front _ nonempty opens

/-! ### What the extraction takes a segment for -/

/-- The name under which a template segment is entered, if it is taken for a
    parameter. -/
def key_of (t : Text) : Option Text :=
  if starts_with ['{', '*'] t && ends_with '}' t then some ((t.take (t.length - 1)).drop 2)
  else if starts_with ['{'] t && ends_with '}' t then
    let name := (t.take (t.length - 1)).drop 1
    some (((split_once ':' name).map Prod.fst).getD name)
  else none

/-- A segment written with two braces in front and one at the end. -/
def Braced (t : Text) : Prop := ['{', '{'] <+: t ∧ t.getLast? = some '}'

instance (t : Text) : Decidable (Braced t) := inferInstanceAs (Decidable (_ ∧ _))

theorem starts_with_iff (start text : Text) : starts_with start text = true ↔ start <+: text :=
  List.isPrefixOf_iff_prefix

/-- With a segment for each template segment, and the catch-all last, the names
    entered are those that the template segments are taken for. -/
theorem mem_extract_from (t_segs a_segs : List Text) (i : Nat) (out : Params)
    (enough : i + t_segs.length ≤ a_segs.length)
    (last : ∀ t ∈ t_segs.dropLast, (starts_with ['{', '*'] t && ends_with '}' t) = false) (name : Text) :
    name ∈ extract_from a_segs i t_segs out ↔ name ∈ out ∨ ∃ t ∈ t_segs, key_of t = some name := by
  induction t_segs generalizing i out with
  | nil => simp [extract_from]
  | cons t t_segs ih =>
    rw [List.length_cons] at enough
    by_cases catchAll : (starts_with ['{', '*'] t && ends_with '}' t) = true
    · have alone : t_segs = [] := by
        by_contra more
        rw [List.dropLast_cons_of_ne_nil more] at last
        rw [last t (List.mem_cons_self ..)] at catchAll
        cases catchAll
      subst alone
      have entered : key_of t = some ((t.take (t.length - 1)).drop 2) := by rw [key_of, if_pos catchAll]
      rw [extract_from, if_pos catchAll, Finmap.mem_insert, List.exists_mem_cons_iff, entered, Option.some.injEq]
      simp only [List.not_mem_nil, false_and, exists_false, or_false]
      rw [or_comm, eq_comm]
    · have rest : ∀ t' ∈ t_segs.dropLast, (starts_with ['{', '*'] t' && ends_with '}' t') = false := by
        intro t' member
        refine last t' ?_
        cases t_segs with
        | nil => cases member
        | cons next t_segs =>
          rw [List.dropLast_cons_of_ne_nil (List.cons_ne_nil _ _)]
          exact List.mem_cons_of_mem _ member
      have inside : i < a_segs.length := by omega
      have here : a_segs[i]? = some a_segs[i] := List.getElem?_eq_getElem inside
      rw [List.exists_mem_cons_iff]
      by_cases param : (starts_with ['{'] t && ends_with '}' t) = true
      · have entered : key_of t = some
            (((split_once ':' ((t.take (t.length - 1)).drop 1)).map Prod.fst).getD ((t.take (t.length - 1)).drop 1)) := by
          rw [key_of, if_neg catchAll, if_pos param]
        simp only [extract_from, if_neg catchAll, if_pos param, here]
        rw [ih (i + 1) _ (by omega) rest, Finmap.mem_insert, entered, Option.some.injEq, eq_comm (a := name)]
        tauto
      · have ignored : key_of t = none := by rw [key_of, if_neg catchAll, if_neg param]
        simp only [extract_from, if_neg catchAll, if_neg param]
        rw [ih (i + 1) _ (by omega) rest, ignored]
        simp

/-- A braced segment is entered under a name that begins with a brace. -/
theorem key_of_braced {t : Text} (braced : Braced t) : ∃ rest, key_of t = some ('{' :: rest) := by
  obtain ⟨⟨rest, rfl⟩, closes⟩ := braced
  cases rest with
  | nil => simp at closes
  | cons c rest =>
    have inner : ((['{', '{'] ++ c :: rest).take ((['{', '{'] ++ c :: rest).length - 1)).drop 1 =
        '{' :: (c :: rest).take rest.length := by
      simp
    have not_catchAll : (starts_with ['{', '*'] (['{', '{'] ++ c :: rest) &&
        ends_with '}' (['{', '{'] ++ c :: rest)) = false := rfl
    have param : (starts_with ['{'] (['{', '{'] ++ c :: rest) && ends_with '}' (['{', '{'] ++ c :: rest)) = true := by
      rw [Bool.and_eq_true, ends_with, decide_eq_true_eq]
      exact ⟨rfl, closes⟩
    rw [key_of, not_catchAll, param]
    simp only [Bool.false_eq_true, ↓reduceIte, inner, split_once]
    split_ifs with colon
    · exact ⟨((c :: rest).take rest.length).takeWhile (· ≠ ':'), by simp⟩
    · exact ⟨(c :: rest).take rest.length, rfl⟩

/-- Any other segment whose leading brace is doubled is not taken for a
    parameter. -/
theorem key_of_doubled {t : Text} (doubled : ['{'] <+: t → ['{', '{'] <+: t) (plain : ¬Braced t) : key_of t = none := by
  have not_param : (starts_with ['{'] t && ends_with '}' t) = false := by
    rw [Bool.and_eq_false_iff]
    by_cases opens : ['{'] <+: t
    · refine Or.inr (decide_eq_false fun closes => plain ⟨doubled opens, closes⟩)
    · exact Or.inl (Bool.eq_false_iff.mpr fun starts => opens ((starts_with_iff _ _).mp starts))
  have not_catchAll : (starts_with ['{', '*'] t && ends_with '}' t) = false := by
    rw [Bool.and_eq_false_iff] at not_param ⊢
    refine not_param.imp_left fun not_open => Bool.eq_false_iff.mpr fun starts => ?_
    have longer : ['{'] <+: t := List.IsPrefix.trans ⟨['*'], rfl⟩ ((starts_with_iff _ _).mp starts)
    rw [(starts_with_iff _ _).mpr longer] at not_open
    cases not_open
  rw [key_of, not_catchAll, not_param]
  simp

/-! ### The segments of a pattern -/

theorem key_of_catchAll (name : Text) : key_of (Part.catchAll name).text = some name := by
  have opens : (starts_with ['{', '*'] (Part.catchAll name).text && ends_with '}' (Part.catchAll name).text) = true := by
    rw [Bool.and_eq_true]
    exact ⟨rfl, ends_with_brace ('{' :: '*' :: name)⟩
  rw [key_of, if_pos opens]
  exact congrArg some (inner_name ['{', '*'] name)

/-- Only a catch-all is taken for one. -/
theorem not_catchAll_text {part : Part} (formed : part.WellFormed) (other : part.isCatchAll = false) :
    (starts_with ['{', '*'] part.text && ends_with '}' part.text) = false := by
  rw [Bool.and_eq_false_iff]
  left
  have clash (text : Text) : ['{', '{'] <+: text → starts_with ['{', '*'] text = false := by
    rintro ⟨rest, rfl⟩
    rfl
  have closed (text : Text) (not_open : ¬['{'] <+: text) : starts_with ['{', '*'] text = false := by
    refine Bool.eq_false_iff.mpr fun starts => not_open ?_
    exact List.IsPrefix.trans ⟨['*'], rfl⟩ ((starts_with_iff _ _).mp starts)
  cases part with
  | catchAll name => cases other
  | literal text =>
    by_cases opens : ['{'] <+: (Part.literal text).text
    · exact clash _ (literal_doubles text opens)
    · exact closed _ opens
  | param front name =>
    by_cases empty : front = []
    · subst empty
      cases name with
      | nil => rfl
      | cons c name =>
        have differs : ('*' == c) = false := beq_false_of_ne fun same => formed.2.2.2.2.2 (by subst same; rfl)
        simp [starts_with, Part.text, escape, List.isPrefixOf, differs]
    · by_cases opens : ['{'] <+: (Part.param front name).text
      · exact clash _ (param_doubles name empty opens)
      · exact closed _ opens

theorem key_of_whole {name : Text} (formed : (Part.param [] name).WellFormed) :
    key_of (Part.param [] name).text = some name := by
  have opens : (starts_with ['{'] (Part.param [] name).text && ends_with '}' (Part.param [] name).text) = true := by
    rw [Bool.and_eq_true]
    exact ⟨rfl, ends_with_brace ('{' :: name)⟩
  have inner : ((Part.param [] name).text.take ((Part.param [] name).text.length - 1)).drop 1 = name :=
    inner_name ['{'] name
  rw [key_of, not_catchAll_text formed rfl, opens, inner]
  simp [split_once, formed.2.2.2.2.1]

/-- A parameter taken as a whole segment. -/
def Part.whole : Part → Option Text
  | .literal _ => none
  | .param front name => if front = [] then some name else none
  | .catchAll name => some name

/-- Unless it is written in braces, a segment is taken for a parameter only when
    it is a whole one. -/
theorem key_of_part {part : Part} (formed : part.WellFormed) (plain : ¬Braced part.text) :
    key_of part.text = part.whole := by
  cases part with
  | catchAll name => exact key_of_catchAll name
  | literal text => exact key_of_doubled (literal_doubles text) plain
  | param front name =>
    by_cases empty : front = []
    · subst empty
      rw [key_of_whole formed, Part.whole, if_pos rfl]
    · rw [Part.whole, if_neg empty]
      exact key_of_doubled (param_doubles name empty) plain

/-! ### Leading slashes -/

theorem strip_keys (t_segs : List Text) (name : Text) :
    (∃ t ∈ strip t_segs, key_of t = some name) ↔ ∃ t ∈ t_segs, key_of t = some name := by
  induction t_segs with
  | nil => simp [strip, key_of, starts_with]
  | cons t t_segs ih =>
    cases t with
    | cons c t => rfl
    | nil =>
      cases t_segs with
      | nil => rfl
      | cons next t_segs =>
        rw [strip_empty, ih, List.exists_mem_cons_iff (a := [])]
        exact (or_iff_right fun found => by cases found).symm

theorem strip_dropLast {P : Text → Prop} {t_segs : List Text} (all : ∀ t ∈ t_segs.dropLast, P t) :
    ∀ t ∈ (strip t_segs).dropLast, P t := by
  induction t_segs with
  | nil => exact fun _ member => absurd member List.not_mem_nil
  | cons t t_segs ih =>
    cases t with
    | cons c t => exact all
    | nil =>
      cases t_segs with
      | nil => exact all
      | cons next t_segs =>
        rw [strip_empty]
        refine ih fun t member => all t ?_
        rw [List.dropLast_cons_of_ne_nil (List.cons_ne_nil _ _)]
        exact List.mem_cons_of_mem _ member

theorem strip_length_pos (pieces : List Text) : 0 < (strip pieces).length := by
  induction pieces with
  | nil => exact Nat.one_pos
  | cons piece pieces ih =>
    cases piece with
    | cons c piece => exact Nat.succ_pos _
    | nil =>
      cases pieces with
      | nil => exact Nat.one_pos
      | cons next pieces =>
        rw [strip_empty]
        exact ih

theorem bind_length {parts : List Part} {pieces : List Text} {bound : List (Text × Text)}
    (found : Pattern.bind parts pieces = some bound) : parts.length ≤ pieces.length := by
  induction parts generalizing pieces bound with
  | nil => exact Nat.zero_le _
  | cons part parts ih =>
    cases pieces with
    | nil => simp at found
    | cons piece pieces =>
      cases part with
      | literal plain =>
        rw [Pattern.bind_literal] at found
        split_ifs at found
        exact Nat.succ_le_succ (ih found)
      | param front name =>
        rw [Pattern.bind_param] at found
        split_ifs at found
        obtain ⟨tail, inner, -⟩ := Option.map_eq_some_iff.mp found
        exact Nat.succ_le_succ (ih inner)
      | catchAll name =>
        cases parts with
        | cons _ _ => simp at found
        | nil => exact Nat.succ_le_succ (Nat.zero_le _)

theorem text_ne_nil {part : Part} (not_slash : part ≠ .literal []) : ∃ c rest, part.text = c :: rest := by
  cases part with
  | literal plain =>
    cases plain with
    | nil => exact absurd rfl not_slash
    | cons c plain =>
      simp only [Part.text, escape_cons]
      split_ifs
      · exact ⟨c, _, rfl⟩
      · exact ⟨c, _, rfl⟩
  | param front name => exact List.exists_cons_of_ne_nil (by simp [Part.text])
  | catchAll name => exact ⟨_, _, rfl⟩

/-- Without the leading slashes of both there still is a piece for each segment. -/
theorem strip_length_le {parts : List Part} {pieces : List Text} {bound : List (Text × Text)}
    (found : Pattern.bind parts pieces = some bound) :
    (strip (parts.map Part.text)).length ≤ (strip pieces).length := by
  induction parts generalizing pieces bound with
  | nil => exact strip_length_pos pieces
  | cons part parts ih =>
    cases pieces with
    | nil => simp at found
    | cons piece pieces =>
      have long := bind_length found
      by_cases slash : part = .literal []
      · subst slash
        rw [Pattern.bind_literal] at found
        split_ifs at found with empty
        subst empty
        cases parts with
        | nil => exact strip_length_pos _
        | cons next parts =>
          cases pieces with
          | nil => simp at found
          | cons nextPiece pieces =>
            rw [List.map_cons, List.map_cons, show (Part.literal []).text = [] from rfl, strip_empty, strip_empty,
              ← List.map_cons]
            exact ih found
      · obtain ⟨c, rest, written⟩ := text_ne_nil slash
        rw [List.map_cons, written, strip, ← written, ← List.map_cons, List.length_map]
        have kept (nonempty : piece ≠ []) : strip (piece :: pieces) = piece :: pieces := by
          obtain ⟨d, tail, rfl⟩ := List.exists_cons_of_ne_nil nonempty
          rfl
        cases part with
        | literal plain =>
          rw [Pattern.bind_literal] at found
          split_ifs at found with same
          subst same
          rw [kept fun none => slash (by rw [none])]
          exact long
        | param front name =>
          rw [Pattern.bind_param] at found
          split_ifs at found with taken
          rw [kept fun none => taken.2 (by rw [none, List.drop_nil])]
          exact long
        | catchAll name =>
          cases parts with
          | cons _ _ => simp at found
          | nil => exact strip_length_pos _

/-! ### The keys of a matched path -/

theorem mem_extract_path_params {pattern : Pattern} {path : Text} {bound : List (Text × Text)}
    (found : pattern.bindings path = some bound) (name : Text) :
    name ∈ extract_path_params pattern.text path ↔ ∃ part ∈ pattern.parts, key_of part.text = some name := by
  have run : extract_path_params pattern.text path =
      extract_from (strip (path.splitOn '/')) 0 (strip (pattern.parts.map Part.text)) ∅ := by
    rw [extract_path_params, strip_splitOn, strip_splitOn, splitOn_text]
  have enough : 0 + (strip (pattern.parts.map Part.text)).length ≤ (strip (path.splitOn '/')).length := by
    rw [Nat.zero_add]
    exact strip_length_le found
  have last : ∀ t ∈ (strip (pattern.parts.map Part.text)).dropLast,
      (starts_with ['{', '*'] t && ends_with '}' t) = false := by
    refine strip_dropLast fun t member => ?_
    rw [← List.map_dropLast] at member
    obtain ⟨part, inside, rfl⟩ := List.mem_map.mp member
    exact not_catchAll_text (pattern.formed part (List.mem_of_mem_dropLast inside)) (pattern.catchAllLast part inside)
  rw [run, mem_extract_from _ _ _ _ enough last, strip_keys]
  simp [Finmap.notMem_empty]

/-- A name that the router binds holds no brace. -/
theorem bound_brace_free (pattern : Pattern) (rest : Text) : '{' :: rest ∉ pattern.parts.filterMap Part.name := by
  intro bound
  obtain ⟨part, inside, named⟩ := List.mem_filterMap.mp bound
  have formed := pattern.formed part inside
  cases part with
  | literal plain => cases named
  | param front name =>
    obtain rfl := Option.some.inj named
    exact formed.2.2.1 (List.mem_cons_self ..)
  | catchAll name =>
    obtain rfl := Option.some.inj named
    exact formed.2.1 (List.mem_cons_self ..)

/-- The names given to the handler are those that the router bound exactly when
    no segment is written in braces, and every parameter behind a literal is also
    bound by a whole segment. -/
theorem extract_path_params_keys (pattern : Pattern) (path : Text) (bound : List (Text × Text))
    (found : pattern.bindings path = some bound) :
    (∀ name, name ∈ extract_path_params pattern.text path ↔ name ∈ bound.map Prod.fst) ↔
      (∀ part ∈ pattern.parts, ¬Braced part.text) ∧
        ∀ front name, front ≠ [] → Part.param front name ∈ pattern.parts →
          Part.param [] name ∈ pattern.parts ∨ Part.catchAll name ∈ pattern.parts := by
  simp only [mem_extract_path_params found, Pattern.bind_names found]
  constructor
  · intro same
    have plain : ∀ part ∈ pattern.parts, ¬Braced part.text := by
      intro part inside braced
      obtain ⟨rest, key⟩ := key_of_braced braced
      exact bound_brace_free pattern rest ((same _).mp ⟨part, inside, key⟩)
    refine ⟨plain, fun front name nonempty member => ?_⟩
    obtain ⟨part, inside, key⟩ := (same name).mpr (List.mem_filterMap.mpr ⟨_, member, rfl⟩)
    rw [key_of_part (pattern.formed part inside) (plain part inside)] at key
    cases part with
    | literal plain => cases key
    | param front' name' =>
      rw [Part.whole] at key
      split_ifs at key with empty
      obtain rfl := Option.some.inj key
      subst empty
      exact Or.inl inside
    | catchAll name' =>
      obtain rfl := Option.some.inj key
      exact Or.inr inside
  · rintro ⟨plain, doubled⟩ name
    rw [List.mem_filterMap]
    constructor
    · rintro ⟨part, inside, key⟩
      rw [key_of_part (pattern.formed part inside) (plain part inside)] at key
      refine ⟨part, inside, ?_⟩
      cases part with
      | literal plain => cases key
      | param front name' =>
        rw [Part.whole] at key
        split_ifs at key
        exact key
      | catchAll name' => exact key
    · rintro ⟨part, inside, named⟩
      have whole (other : Part) (member : other ∈ pattern.parts) (key : other.whole = some name) :
          ∃ part ∈ pattern.parts, key_of part.text = some name :=
        ⟨other, member, (key_of_part (pattern.formed other member) (plain other member)).trans key⟩
      cases part with
      | literal plain => cases named
      | catchAll name' => exact whole _ inside named
      | param front name' =>
        obtain rfl := Option.some.inj named
        by_cases empty : front = []
        · subst empty
          exact whole _ inside rfl
        · rcases doubled front name' empty inside with param | catchAll
          · exact whole _ param rfl
          · exact whole _ catchAll rfl

theorem of_whole {segment : Segment} (formed : segment.WellFormed) :
    ¬Braced (Part.of segment).text ∧ (Part.of segment).whole = (Part.of segment).name := by
  rw [Part.of_text formed]
  cases segment with
  | literal text =>
    refine ⟨?_, rfl⟩
    rintro ⟨⟨rest, rfl⟩, -⟩
    exact formed.2.1 (List.mem_cons_self ..)
  | param name =>
    refine ⟨?_, rfl⟩
    rintro ⟨⟨rest, same⟩, -⟩
    have second := (List.cons.inj same).2
    cases name with
    | nil => exact absurd (List.cons.inj second).1 (by decide)
    | cons c name =>
      obtain rfl : '{' = c := (List.cons.inj second).1
      exact formed.2.1 (List.mem_cons_self ..)
  | catchAll name =>
    refine ⟨?_, rfl⟩
    rintro ⟨⟨rest, same⟩, -⟩
    exact absurd (List.cons.inj (List.cons.inj same).2).1 (by decide)

/-- On a template the handler is given a value for every name that the router
    bound, and for no other. -/
theorem template_keys {template : Template} {path : Text} {bound : List (Text × Text)}
    (found : template.bindings path = some bound) (name : Text) :
    name ∈ extract_path_params template.text path ↔ name ∈ bound.map Prod.fst := by
  rw [← Pattern.of_bindings] at found
  rw [← Pattern.of_text, mem_extract_path_params found, Pattern.bind_names found, List.mem_filterMap]
  refine exists_congr fun part => and_congr_right fun member => ?_
  obtain ⟨segment, inside, rfl⟩ := List.mem_map.mp member
  have plain := of_whole (template.formed segment inside)
  rw [key_of_part (Part.of_formed (template.formed segment inside)) plain.1, plain.2]

/-- `/user_{name}`. -/
def userPrefixed : Pattern where
  parts := [.literal [], .param (lit "user_") (lit "name")]
  nonempty := by decide
  formed := by decide
  catchAllLast := by decide

/-- `/files/{*rest}`. -/
def filesBelow : Pattern where
  parts := [.literal [], .literal (lit "files"), .catchAll (lit "rest")]
  nonempty := by decide
  formed := by decide
  catchAllLast := by decide

/-- On `/user_bob` the router binds `name`; the handler is given no parameter. -/
theorem extract_path_params_loses_name :
    userPrefixed.text = lit "/user_{name}" ∧ userPrefixed.bindings (lit "/user_bob") = some [(lit "name", lit "bob")] ∧
      ¬∀ name, name ∈ extract_path_params userPrefixed.text (lit "/user_bob") ↔
        name ∈ ([(lit "name", lit "bob")] : List (Text × Text)).map Prod.fst := by
  refine ⟨by decide, by decide, fun same => ?_⟩
  have found : userPrefixed.bindings (lit "/user_bob") = some [(lit "name", lit "bob")] := by decide
  have given := (same (lit "name")).mpr (List.mem_singleton_self _)
  rw [mem_extract_path_params found] at given
  revert given
  decide

theorem extract_path_params_below :
    (∀ name, name ∈ extract_path_params filesBelow.text (lit "/files/a/b") ↔
        name ∈ ([(lit "rest", lit "a/b")] : List (Text × Text)).map Prod.fst) ↔
      (∀ part ∈ filesBelow.parts, ¬Braced part.text) ∧
        ∀ front name, front ≠ [] → Part.param front name ∈ filesBelow.parts →
          Part.param [] name ∈ filesBelow.parts ∨ Part.catchAll name ∈ filesBelow.parts :=
  extract_path_params_keys filesBelow (lit "/files/a/b") [(lit "rest", lit "a/b")] (by decide)

end SiphonHttp.Patterns
