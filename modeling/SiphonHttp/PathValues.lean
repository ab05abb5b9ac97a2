import SiphonHttp.PathParams
import SiphonHttp.Decoding

/-!
Values in a path. A client that fills a template sends each value encoded as one
path segment, where `+` stands as it is. The decoder is the one of query strings
and takes `+` for a space, so the handler is given the values with their `+`
signs replaced (`extract_path_params_values`).
-/
namespace SiphonHttp.PathParams
open Text Parse Percent

/-- What the decoder makes of a character that was sent as itself. -/
def spaced (c : Char) : Char := if c = '+' then ' ' else c

/-- A piece of the path fills a segment: a literal is there as it is, a
    parameter as its value, encoded as a path segment. -/
def Fills (values : Text → Text) : Segment → Text → Prop
  | .literal text, piece => piece = text
  | .param name, piece => Encodes pchar false (utf8 (values name)) piece
  | .catchAll _, _ => False

/-- Values that a client can put into a path: ASCII, and not empty. -/
def Sendable (values : Text → Text) (names : List Text) : Prop :=
  ∀ name ∈ names, values name ≠ [] ∧ Ascii (values name)

/-- The names of the parameters of a template. -/
def names (segments : List Segment) : List Text := segments.filterMap Segment.name

/-! ### One value -/

theorem pchar_ascii (octet : UInt8) (stands : pchar octet) : octet.toNat < 128 ∧ octet ≠ 0x25 ∧ octet ≠ 0x2f := by
  revert octet
  decide +kernel

theorem encodes_no_slash {plus : Bool} {octets : Octets} {piece : Text} (encoded : Encodes pchar plus octets piece) :
    '/' ∉ piece := by
  induction encoded with
  | nil => exact List.not_mem_nil
  | @plain octet octets text stands rest ih =>
    obtain ⟨-, -, slash⟩ := pchar_ascii octet stands
    intro member
    rcases List.mem_cons.mp member with same | later
    · exact slash (octet_injective (b := 0x2f) same.symm)
    · exact ih later
  | escape _ first second _ ih =>
    have left := (hexdig_ne first).2.2
    have right := (hexdig_ne second).2.2
    simp [ih, Ne.symm left, Ne.symm right]
  | space _ _ ih => simp [ih]

/-- A value sent as a path segment is read back with its `+` signs as spaces. -/
theorem urldecode_segment {value piece : Text} (ascii : Ascii value)
    (encoded : Encodes pchar false (utf8 value) piece) : urldecode piece = value.map spaced := by
  rw [urldecode_encodes (fun octet stands => ⟨(pchar_ascii octet stands).1, (pchar_ascii octet stands).2.1⟩) encoded]
  clear encoded
  induction value with
  | nil => rfl
  | cons c value ih =>
    have small : c.toNat < 128 := ascii c (List.mem_cons_self ..)
    have first : through pchar (UInt8.ofNat c.toNat) = spaced c := by
      by_cases plus : c = '+'
      · subst plus
        decide
      · have other : UInt8.ofNat c.toNat ≠ 0x2b := by
          intro same
          have codes := congrArg UInt8.toNat same
          rw [toNat_octet small] at codes
          exact plus (Char.toNat_inj.mp codes)
        rw [through, if_neg fun both => other both.2, spaced, if_neg plus, toNat_octet small, Char.ofNat_toNat]
    rw [utf8_ascii_cons small, List.map_cons, List.map_cons, first, ih ascii.tail]

theorem spaced_eq_iff (value : Text) : value.map spaced = value ↔ '+' ∉ value := by
  induction value with
  | nil => simp
  | cons c value ih =>
    rw [List.map_cons, List.cons.injEq, ih, List.mem_cons, not_or, spaced]
    refine and_congr_left fun _ => ?_
    by_cases plus : c = '+'
    · subst plus
      decide
    · rw [if_neg plus]
      exact iff_of_true rfl (Ne.symm plus)

/-! ### The whole path -/

theorem fills_no_slash {values : Text → Text} {segment : Segment} {piece : Text} (formed : segment.WellFormed)
    (fills : Fills values segment piece) : '/' ∉ piece := by
  cases segment with
  | literal text =>
    obtain rfl : piece = text := fills
    exact formed.1
  | param name => exact encodes_no_slash fills
  | catchAll name => exact fills.elim

theorem filled_no_slash {values : Text → Text} {segments : List Segment} {pieces : List Text}
    (filled : List.Forall₂ (Fills values) segments pieces) (formed : ∀ segment ∈ segments, segment.WellFormed) :
    ∀ piece ∈ pieces, '/' ∉ piece := by
  induction filled with
  | nil => exact fun _ member => absurd member List.not_mem_nil
  | cons fills _ ih =>
    intro piece member
    rcases List.mem_cons.mp member with rfl | later
    · exact fills_no_slash (formed _ (List.mem_cons_self ..)) fills
    · exact ih (fun segment inside => formed segment (List.mem_cons_of_mem _ inside)) piece later

theorem filled_no_catchAll {values : Text → Text} {segments : List Segment} {pieces : List Text}
    (filled : List.Forall₂ (Fills values) segments pieces) (name : Text) : Segment.catchAll name ∉ segments := by
  induction filled with
  | nil => exact List.not_mem_nil
  | cons fills _ ih =>
    intro member
    rcases List.mem_cons.mp member with rfl | later
    · exact fills
    · exact ih later

/-- The router binds each parameter to its encoded value. -/
theorem bind_fills {values : Text → Text} {segments : List Segment} {pieces : List Text}
    (filled : List.Forall₂ (Fills values) segments pieces) (sendable : Sendable values (names segments)) :
    ∃ bound, Template.bind segments pieces = some bound ∧
      ∀ name, (bound.lookup name).map urldecode =
        if name ∈ names segments then some ((values name).map spaced) else none := by
  induction filled with
  | nil => exact ⟨[], rfl, fun name => by simp [names]⟩
  | @cons segment piece segments pieces fills rest ih =>
    cases segment with
    | literal text =>
      obtain rfl : piece = text := fills
      obtain ⟨bound, found, values⟩ := ih sendable
      exact ⟨bound, by rw [Template.bind_literal, if_pos rfl, found], values⟩
    | catchAll name => exact fills.elim
    | param n =>
      obtain ⟨nonempty, ascii⟩ := sendable n (by simp [names, Segment.name])
      obtain ⟨bound, found, decoded⟩ := ih fun name member => sendable name (by simpa [names, Segment.name] using Or.inr member)
      have sent : utf8 (values n) ≠ [] := by
        intro none
        have back := (latin1_utf8 (values n)).mpr ascii
        rw [none] at back
        exact nonempty back.symm
      have some_piece : piece ≠ [] := Encodes.ne_nil fills sent
      refine ⟨(n, piece) :: bound, by rw [Template.bind_param, if_neg some_piece, found, Option.map_some], ?_⟩
      intro name
      rw [List.lookup_cons]
      by_cases same : name = n
      · subst same
        simp [names, Segment.name, urldecode_segment ascii fills]
      · rw [beq_false_of_ne same]
        simpa [names, Segment.name, same] using decoded name

/-- A template of literals and `{name}` parameters is filled with values, each
    encoded as a path segment: the handler is given those values with every `+`
    replaced by a space, so it is given the values themselves exactly when none
    has a `+`. -/
theorem extract_path_params_values (template : Template) (values : Text → Text) (pieces : List Text)
    (filled : List.Forall₂ (Fills values) template.segments pieces)
    (sendable : Sendable values (names template.segments)) :
    (∀ name, (extract_path_params template.text (join ['/'] pieces)).lookup name =
        if name ∈ names template.segments then some ((values name).map spaced) else none) ∧
      ((∀ name, (extract_path_params template.text (join ['/'] pieces)).lookup name =
          if name ∈ names template.segments then some (values name) else none) ↔
        ∀ name ∈ names template.segments, '+' ∉ values name) := by
  have whole : ∀ name, (extract_path_params template.text (join ['/'] pieces)).lookup name =
      if name ∈ names template.segments then some ((values name).map spaced) else none := by
    obtain ⟨bound, found, decoded⟩ := bind_fills filled sendable
    have nonempty : pieces ≠ [] := by
      rintro rfl
      exact template.nonempty (List.forall₂_nil_right_iff.mp filled)
    have split : (join ['/'] pieces).splitOn '/' = pieces :=
      List.splitOn_intercalate '/' (filled_no_slash filled template.formed) nonempty
    have found_path : template.bindings (join ['/'] pieces) = some bound := by
      rw [Template.bindings, split, found]
    have kept : ¬Swallowed template.segments bound := by
      rintro ⟨⟨k, name, shape⟩, -⟩
      refine filled_no_catchAll filled name ?_
      rw [shape, behindSlashes]
      exact List.mem_append_right _ (List.mem_singleton_self _)
    intro name
    rw [extract_bound found_path kept, decoded]
  refine ⟨whole, ?_⟩
  constructor
  · intro same name member
    have agree := (whole name).symm.trans (same name)
    rw [if_pos member, if_pos member, Option.some.injEq] at agree
    exact (spaced_eq_iff _).mp agree
  · intro none name
    rw [whole name]
    split_ifs with member
    · rw [(spaced_eq_iff _).mpr (none name member)]
    · rfl

/-! An E.164 number as a path parameter. -/

/-- `/calls/{number}`. -/
def oneCall : Template where
  segments := [.literal [], .literal (lit "calls"), .param (lit "number")]
  nonempty := by decide
  formed := by decide
  catchAllLast := by decide
  distinct := by decide

def someNumber : Text → Text := fun _ => lit "+49 30"

theorem someNumber_fills :
    List.Forall₂ (Fills someNumber) oneCall.segments [[], lit "calls", lit "+49%2030"] := by
  refine .cons rfl (.cons rfl (.cons ?_ .nil))
  refine @Encodes.plain _ _ 0x2b _ _ (by decide) ?_
  refine @Encodes.plain _ _ 0x34 _ _ (by decide) ?_
  refine @Encodes.plain _ _ 0x39 _ _ (by decide) ?_
  refine @Encodes.escape _ _ 0x20 _ _ _ _ (by decide) (by decide) (by decide) ?_
  refine @Encodes.plain _ _ 0x33 _ _ (by decide) ?_
  exact @Encodes.plain _ _ 0x30 _ _ (by decide) .nil

theorem someNumber_sendable : Sendable someNumber (names oneCall.segments) :=
  fun _ _ => ⟨show lit "+49 30" ≠ [] by decide, show Ascii (lit "+49 30") by decide⟩

theorem extract_path_params_call :
    (∀ name, (extract_path_params oneCall.text (join ['/'] [[], lit "calls", lit "+49%2030"])).lookup name =
        if name ∈ names oneCall.segments then some ((someNumber name).map spaced) else none) ∧
      ((∀ name, (extract_path_params oneCall.text (join ['/'] [[], lit "calls", lit "+49%2030"])).lookup name =
          if name ∈ names oneCall.segments then some (someNumber name) else none) ↔
        ∀ name ∈ names oneCall.segments, '+' ∉ someNumber name) :=
  extract_path_params_values oneCall someNumber [[], lit "calls", lit "+49%2030"] someNumber_fills someNumber_sendable

/-- `+49 30`, sent as `/calls/+49%2030`, is given to the handler as ` 49 30`. -/
theorem plus_becomes_space :
    List.Forall₂ (Fills someNumber) oneCall.segments [[], lit "calls", lit "+49%2030"] ∧
      Sendable someNumber (names oneCall.segments) ∧
      (extract_path_params oneCall.text (join ['/'] [[], lit "calls", lit "+49%2030"])).lookup (lit "number") =
        some (lit " 49 30") ∧
      ¬∀ name, (extract_path_params oneCall.text (join ['/'] [[], lit "calls", lit "+49%2030"])).lookup name =
          if name ∈ names oneCall.segments then some (someNumber name) else none := by
  refine ⟨someNumber_fills, someNumber_sendable, by decide +kernel, fun agree => ?_⟩
  have found := agree (lit "number")
  revert found
  decide +kernel

end SiphonHttp.PathParams
