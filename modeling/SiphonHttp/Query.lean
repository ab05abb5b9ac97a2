import SiphonHttp.Decoding
import SiphonHttp.Overwrite

/-!
Query strings. A query holds the entries of its pieces, the last of each name,
so that it is composed of parts of itself (`parse_query_compose`) but for one
thing: the query that is empty has no piece, and any other empty piece is a
parameter without a name. What is written from a map is read back as this map
(`parse_query_round_trip`).
-/
namespace SiphonHttp.Parse
open Text Percent Overwrite

/-! ### Pieces -/

/-- What stands between the `&` of a query; an empty query has no piece. -/
def pieces (q : Text) : List Text := if q = [] then [] else q.splitOn '&'

/-- The name and the value that a piece gives. -/
def entry (piece : Text) : Text × Text :=
  match split_once '=' piece with
  | some (k, v) => (urldecode k, urldecode v)
  | none => (urldecode piece, [])

def entries (pieces : List Text) : List (Text × Text) := pieces.map entry

theorem parse_query_pieces (q : Text) : parse_query q = fill ∅ (entries (pieces q)) := by
  have insert_entry : ∀ (out : Params) (piece : Text),
      (match split_once '=' piece with
        | some (k, v) => out.insert (urldecode k) (urldecode v)
        | none => out.insert (urldecode piece) []) = out.insert (entry piece).1 (entry piece).2 := by
    intro out piece
    unfold entry
    cases split_once '=' piece <;> rfl
  unfold parse_query pieces
  split_ifs with empty
  · rfl
  · rw [fill, entries, List.foldl_map]
    refine congrArg (fun step => List.foldl step ∅ (q.splitOn '&')) ?_
    funext out piece
    exact insert_entry out piece

theorem pieces_append (q₁ q₂ : Text) : pieces (q₁ ++ '&' :: q₂) = q₁.splitOn '&' ++ q₂.splitOn '&' := by
  rw [pieces, if_neg (by simp), List.splitOn_append_cons_self]

/-- A query is its last piece for each name. -/
theorem lookup_parse_query (q key : Text) : (parse_query q).lookup key = last key (entries (pieces q)) := by
  rw [parse_query_pieces, lookup_fill_empty]

/-! ### Pieces without a name -/

/-- The piece is empty, or begins with `=`. -/
def Nameless (piece : Text) : Prop := piece = [] ∨ piece.head? = some '='

/-- The piece has neither a name nor a value. -/
def Bare (piece : Text) : Prop := piece = [] ∨ piece = ['=']

instance (piece : Text) : Decidable (Nameless piece) := inferInstanceAs (Decidable (_ ∨ _))
instance (piece : Text) : Decidable (Bare piece) := inferInstanceAs (Decidable (_ ∨ _))

/-- The last of the pieces that have no name. -/
def last_nameless (pieces : List Text) : Option Text := pieces.reverse.find? fun piece => decide (Nameless piece)

theorem urldecode_eq_nil {s : Text} : urldecode s = [] ↔ s = [] := by
  constructor
  · intro empty
    cases s with
    | nil => rfl
    | cons c s =>
      have octets : utf8 (c :: s) ≠ [] := by
        intro none
        have length := congrArg List.length none
        have positive := c.utf8Size_pos
        rw [utf8_cons, List.length_append, String.length_utf8EncodeChar, List.length_nil] at length
        omega
      obtain ⟨first, rest, form⟩ := List.exists_cons_of_ne_nil octets
      rw [urldecode, form, urldecode_from] at empty
      split_ifs at empty
      split at empty <;> cases empty
  · rintro rfl
    exact urldecode_nil

/-- What decoding a piece begins with is told by its first `=`. -/
theorem entry_name {piece : Text} : (entry piece).1 = [] ↔ Nameless piece := by
  unfold entry Nameless split_once
  by_cases valued : '=' ∈ piece
  · rw [if_pos valued]
    cases piece with
    | nil => cases valued
    | cons c piece =>
      simp only [urldecode_eq_nil, List.takeWhile_cons, reduceCtorEq, false_or, List.head?_cons, Option.some.injEq]
      by_cases equals : c = '='
      · simp [equals]
      · simp [equals]
  · rw [if_neg valued]
    simp only [urldecode_eq_nil]
    constructor
    · exact Or.inl
    · rintro (empty | starts)
      · exact empty
      · exact absurd (List.mem_of_head? starts) valued

theorem entry_value {piece : Text} (nameless : Nameless piece) : (entry piece).2 = [] ↔ Bare piece := by
  rcases nameless with rfl | starts
  · exact iff_of_true rfl (Or.inl rfl)
  · obtain ⟨value, rfl⟩ := List.head?_eq_some_iff.mp starts
    have read : entry ('=' :: value) = ([], urldecode value) := by
      simp [entry, split_once]
    simp [read, urldecode_eq_nil, Bare]

theorem last_entries_nil (pieces : List Text) :
    last [] (entries pieces) = (last_nameless pieces).map fun piece => (entry piece).2 := by
  rw [entries, last_map, last_nameless]
  simp only [entry_name]

theorem last_nameless_spec {pieces : List Text} {piece : Text} (found : last_nameless pieces = some piece) :
    Nameless piece := by
  have holds := @List.find?_some _ (fun piece => decide (Nameless piece)) _ _ found
  exact of_decide_eq_true holds

theorem last_nameless_ne_none {pieces : List Text} :
    last_nameless pieces ≠ none ↔ ∃ piece ∈ pieces, Nameless piece := by
  rw [last_nameless, ne_eq, List.find?_eq_none]
  simp

/-- The value without a name is empty. -/
theorem last_bare {pieces : List Text} :
    last [] (entries pieces) = some [] ↔ ∃ piece ∈ last_nameless pieces, Bare piece := by
  rw [last_entries_nil, Option.map_eq_some_iff]
  constructor
  · rintro ⟨piece, found, empty⟩
    exact ⟨piece, found, (entry_value (last_nameless_spec found)).mp empty⟩
  · rintro ⟨piece, found, bare⟩
    exact ⟨piece, found, (entry_value (last_nameless_spec found)).mpr bare⟩

/-! ### Composition -/

/-- An empty query before another one goes unnoticed when the other one has a
    piece without a name, and behind another one when the other one ends up with
    no value under no name. -/
def Composes (q₁ q₂ : Text) : Prop :=
  (q₁ = [] → ∃ piece ∈ pieces q₂, Nameless piece) ∧ (q₂ = [] → ∃ piece ∈ last_nameless (pieces q₁), Bare piece)

/-- The last piece without a name is not empty, or the last one before the empty
    ones is `=`. -/
def Skips (q : Text) : Prop :=
  last_nameless (pieces q) ≠ some [] ∨ last_nameless ((pieces q).filter (· ≠ [])) = some ['=']

instance (q₁ q₂ : Text) : Decidable (Composes q₁ q₂) :=
  inferInstanceAs (Decidable ((_ → ∃ piece ∈ pieces q₂, _) ∧ (_ → ∃ piece ∈ last_nameless (pieces q₁), _)))
instance (q : Text) : Decidable (Skips q) := inferInstanceAs (Decidable (_ ∨ _))

/-- Splitting the empty query gives one piece, which is taken for a parameter. -/
theorem entries_empty : entries (([] : Text).splitOn '&') = [([], [])] := by
  rw [List.splitOn_nil, entries, List.map_singleton]
  simp [entry, split_once]

theorem parse_query_append (q₁ q₂ : Text) :
    parse_query (q₁ ++ '&' :: q₂) = fill ∅ (entries (q₂.splitOn '&')) ∪ fill ∅ (entries (q₁.splitOn '&')) := by
  rw [parse_query_pieces, pieces_append, entries, List.map_append, fill_append_union]
  rfl

theorem parse_query_nonempty {q : Text} (nonempty : q ≠ []) : fill ∅ (entries (q.splitOn '&')) = parse_query q := by
  rw [parse_query_pieces, pieces, if_neg nonempty]

theorem parse_query_empty : parse_query [] = ∅ := rfl

theorem compose_iff (q₁ q₂ : Text) :
    parse_query (q₁ ++ '&' :: q₂) = parse_query q₂ ∪ parse_query q₁ ↔ Composes q₁ q₂ := by
  rw [parse_query_append, Composes]
  by_cases before : q₁ = []
  · subst before
    rw [entries_empty, parse_query_empty, Finmap.union_empty]
    by_cases behind : q₂ = []
    · subst behind
      rw [entries_empty, parse_query_empty]
      refine iff_of_false ?_ fun both => ?_
      · intro same
        have shown := congrArg (Finmap.lookup []) same
        rw [lookup_union, lookup_fill_empty, last_singleton, if_pos rfl] at shown
        cases shown
      · obtain ⟨piece, member, -⟩ := both.1 rfl
        cases member
    · rw [parse_query_nonempty behind, union_fill_iff, lookup_parse_query, last_entries_nil, ne_eq,
        Option.map_eq_none_iff, ← ne_eq, last_nameless_ne_none]
      simp [behind]
  · rw [parse_query_nonempty before]
    by_cases behind : q₂ = []
    · subst behind
      rw [entries_empty, parse_query_empty, Finmap.empty_union, fill_union_iff, lookup_parse_query, last_bare]
      simp [before]
    · rw [parse_query_nonempty behind]
      simp [before, behind]

/-! ### Empty pieces -/

/-- The empty pieces make no difference to what has a name. -/
theorem last_named {key : Text} (named : key ≠ []) (pieces : List Text) :
    last key (entries (pieces.filter (· ≠ []))) = last key (entries pieces) := by
  rw [entries, entries, last_map, last_map, ← List.filter_reverse, List.find?_filter]
  refine congrArg (fun found => Option.map _ (List.find? found pieces.reverse)) (funext fun piece => ?_)
  by_cases empty : piece = []
  · subst empty
    have other : (entry []).1 ≠ key := by
      rw [entry_name.mpr (Or.inl rfl)]
      exact named.symm
    simp [other]
  · simp [empty]

/-- A last piece without a name that is not empty stays the last one. -/
theorem last_nameless_filter {pieces : List Text} {piece : Text} (found : last_nameless pieces = some piece)
    (nonempty : piece ≠ []) : last_nameless (pieces.filter (· ≠ [])) = some piece := by
  obtain ⟨nameless, before, behind, split, others⟩ := List.find?_eq_some_iff_append.mp found
  rw [last_nameless, ← List.filter_reverse, List.find?_filter, List.find?_eq_some_iff_append]
  refine ⟨by simpa [nonempty] using nameless, before, behind, split, ?_⟩
  intro other member
  have named := others other member
  simp at named ⊢
  exact Or.inr named

theorem skips_iff (q : Text) :
    parse_query q = fill ∅ (entries ((pieces q).filter (· ≠ []))) ↔ Skips q := by
  have nameless : parse_query q = fill ∅ (entries ((pieces q).filter (· ≠ []))) ↔
      last [] (entries (pieces q)) = last [] (entries ((pieces q).filter (· ≠ []))) := by
    constructor
    · intro same
      have shown := congrArg (Finmap.lookup []) same
      rwa [lookup_parse_query, lookup_fill_empty] at shown
    · intro same
      refine Finmap.ext_lookup fun key => ?_
      rw [lookup_parse_query, lookup_fill_empty]
      by_cases named : key = []
      · rw [named, same]
      · rw [last_named named]
  rw [nameless, Skips]
  cases found : last_nameless (pieces q) with
  | none =>
    have kept : last_nameless ((pieces q).filter (· ≠ [])) = none := by
      by_contra some_nameless
      obtain ⟨piece, member, unnamed⟩ := last_nameless_ne_none.mp some_nameless
      exact last_nameless_ne_none.mpr ⟨piece, List.mem_of_mem_filter member, unnamed⟩ found
    rw [last_entries_nil, last_entries_nil, found, kept]
    simp
  | some piece =>
    by_cases empty : piece = []
    · subst empty
      have here : last [] (entries (pieces q)) = some [] := last_bare.mpr ⟨[], found, Or.inl rfl⟩
      rw [here, eq_comm, last_bare]
      constructor
      · rintro ⟨other, kept, bare⟩
        have nonempty : other ≠ [] := by
          have member := List.mem_reverse.mp (List.mem_of_find?_eq_some kept)
          simpa using List.of_mem_filter member
        exact Or.inr (by rw [kept, bare.resolve_left nonempty])
      · rintro (impossible | kept)
        · exact absurd rfl impossible
        · exact ⟨['='], kept, Or.inr rfl⟩
    · rw [last_entries_nil, last_entries_nil, found, last_nameless_filter found empty]
      simp [empty]

/-- A query composed of two is the second one on top of the first exactly when
    neither is empty, or the empty one goes unnoticed; a query comes to what its
    pieces that are not empty come to exactly when the empty ones go unnoticed;
    and every name has the value of the last piece with it. -/
theorem parse_query_compose (q₁ q₂ q key : Text) :
    (parse_query (q₁ ++ '&' :: q₂) = parse_query q₂ ∪ parse_query q₁ ↔ Composes q₁ q₂) ∧
      (parse_query q = fill ∅ (entries ((pieces q).filter (· ≠ []))) ↔ Skips q) ∧
      (parse_query q).lookup key = last key (entries (pieces q)) :=
  ⟨compose_iff q₁ q₂, skips_iff q, lookup_parse_query q key⟩

/-- A trailing `&` gives a parameter more, without a name. -/
theorem trailing_ampersand :
    parse_query (lit "a=1" ++ '&' :: lit "") ≠ parse_query (lit "") ∪ parse_query (lit "a=1") ∧
      parse_query (lit "a=1&") ≠ fill ∅ (entries ((pieces (lit "a=1&")).filter (· ≠ []))) ∧
      (parse_query (lit "a=1&")).lookup [] = some [] ∧ (parse_query (lit "a=1")).lookup [] = none := by
  have extra : (parse_query (lit "a=1&")).lookup [] = some [] := by decide +kernel
  have absent : (parse_query (lit "a=1")).lookup [] = none := by decide +kernel
  refine ⟨?_, ?_, extra, absent⟩
  · intro same
    have shown := congrArg (Finmap.lookup []) same
    rw [lookup_union, absent] at shown
    exact absurd (extra.symm.trans shown) (by decide)
  · intro same
    have shown := congrArg (Finmap.lookup []) same
    rw [extra] at shown
    exact absurd shown (by decide +kernel)

/-! ### Written queries -/

/-- The piece is an encoding of the entry, with a space as `+` or as `%20`. -/
def Writes (given : Text × Text) (piece : Text) : Prop :=
  ∃ key value, Encodes unreserved true (utf8 given.1) key ∧ Encodes unreserved true (utf8 given.2) value ∧
    piece = key ++ '=' :: value

/-- What encodings consist of. -/
theorem encodes_chars {octets : Octets} {text : Text} (encoded : Encodes unreserved true octets text) {c : Char}
    (member : c ∈ text) : c ≠ '&' ∧ c ≠ '=' := by
  induction encoded with
  | nil => cases member
  | @plain octet octets text stands _ ih =>
    rcases List.mem_cons.mp member with rfl | later
    · have neither : ∀ octet : UInt8, unreserved octet → octet ≠ 0x26 ∧ octet ≠ 0x3d := by decide +kernel
      obtain ⟨ampersand, equals⟩ := neither octet stands
      exact ⟨fun same => ampersand (octet_injective (b := 0x26) same),
        fun same => equals (octet_injective (b := 0x3d) same)⟩
    · exact ih later
  | @escape octet high low octets text _ first second _ ih =>
    have digit : ∀ {c : Char} {value : Nat}, hexdig c = some value → c ≠ '&' ∧ c ≠ '=' := by
      intro c value hex
      constructor
      · rintro rfl
        simp [hexdig] at hex
      · rintro rfl
        simp [hexdig] at hex
    rcases List.mem_cons.mp member with rfl | member
    · exact ⟨by decide, by decide⟩
    rcases List.mem_cons.mp member with rfl | member
    · exact digit first
    rcases List.mem_cons.mp member with rfl | later
    · exact digit second
    · exact ih later
  | space _ _ ih =>
    rcases List.mem_cons.mp member with rfl | later
    · exact ⟨by decide, by decide⟩
    · exact ih later

theorem writes_piece {given : Text × Text} {piece : Text} (writes : Writes given piece) (ascii : Ascii given.1)
    (ascii' : Ascii given.2) : '&' ∉ piece ∧ piece ≠ [] ∧ entry piece = given := by
  obtain ⟨key, value, encoded, encoded', rfl⟩ := writes
  have no_equals : ∀ c ∈ key, decide (c ≠ '=') = true := fun c member =>
    decide_eq_true (encodes_chars encoded member).2
  refine ⟨?_, by simp, ?_⟩
  · intro member
    rcases List.mem_append.mp member with inside | inside
    · exact (encodes_chars encoded inside).1 rfl
    · rcases List.mem_cons.mp inside with impossible | inside
      · exact absurd impossible (by decide)
      · exact (encodes_chars encoded' inside).1 rfl
  · have split : split_once '=' (key ++ '=' :: value) = some (key, value) := by
      rw [split_once, if_pos (by simp), List.takeWhile_append_of_pos no_equals, List.dropWhile_append_of_pos no_equals]
      simp
    rw [entry, split]
    exact Prod.ext ((urldecode_encodes_iff _ _ encoded).mpr ascii) ((urldecode_encodes_iff _ _ encoded').mpr ascii')

/-- The entries of a map, each once, in any order. -/
structure Lists (params : Params) (listed : List (Text × Text)) : Prop where
  distinct : (listed.map Prod.fst).Nodup
  complete : ∀ key value, params.lookup key = some value ↔ (key, value) ∈ listed

theorem writes_entries {listed : List (Text × Text)} {written : List Text} (writes : List.Forall₂ Writes listed written)
    (ascii : ∀ given ∈ listed, Ascii given.1 ∧ Ascii given.2) :
    entries written = listed ∧ ∀ piece ∈ written, '&' ∉ piece ∧ piece ≠ [] := by
  induction writes with
  | nil => exact ⟨rfl, by simp⟩
  | @cons given piece listed written here _ ih =>
    obtain ⟨key, value⟩ := ascii given (List.mem_cons_self ..)
    obtain ⟨no_separator, nonempty, read⟩ := writes_piece here key value
    obtain ⟨rest, others⟩ := ih fun other member => ascii other (List.mem_cons_of_mem _ member)
    refine ⟨?_, ?_⟩
    · rw [entries, List.map_cons, read, ← entries, rest]
    · intro other member
      rcases List.mem_cons.mp member with rfl | later
      · exact ⟨no_separator, nonempty⟩
      · exact others other later

/-- A map of ASCII names and values that is written as a query is read back. -/
theorem parse_query_round_trip {params : Params} {listed : List (Text × Text)} {written : List Text}
    (lists : Lists params listed) (ascii : ∀ given ∈ listed, Ascii given.1 ∧ Ascii given.2)
    (writes : List.Forall₂ Writes listed written) : parse_query (join ['&'] written) = params := by
  obtain ⟨read, parts⟩ := writes_entries writes ascii
  have split : pieces (join ['&'] written) = written := by
    unfold pieces
    by_cases none : written = []
    · subst none
      rfl
    · have some_text : join ['&'] written ≠ [] := by
        obtain ⟨piece, others, rfl⟩ := List.exists_cons_of_ne_nil none
        obtain ⟨-, nonempty⟩ := parts piece (List.mem_cons_self ..)
        cases others <;> simp [join, List.intercalate, nonempty]
      rw [if_neg some_text]
      exact List.splitOn_intercalate '&' (fun piece member => (parts piece member).1) none
  rw [parse_query_pieces, split, read]
  exact fill_eq_of_entries lists.distinct lists.complete

/-- A space written as `+`, a separator written as `%26`, and a name and a value
    that are empty. -/
theorem spaced_round_trip :
    parse_query (lit "a+b=%26&=") = fill ∅ [(lit "a b", lit "&"), (lit "", lit "")] := by
  have lists : Lists (fill ∅ [(lit "a b", lit "&"), (lit "", lit "")]) [(lit "a b", lit "&"), (lit "", lit "")] := by
    have distinct : ([(lit "a b", lit "&"), (lit "", lit "")].map Prod.fst).Nodup := by decide
    refine ⟨distinct, fun key value => ?_⟩
    rw [lookup_fill_empty, last_eq_some distinct]
  have ascii : ∀ given ∈ [(lit "a b", lit "&"), (lit "", lit "")], Ascii given.1 ∧ Ascii given.2 := by
    simp only [List.mem_cons, List.not_mem_nil, or_false]
    rintro given (rfl | rfl)
    · exact ⟨by decide, by decide⟩
    · exact ⟨by decide, by decide⟩
  have spaced : Writes (lit "a b", lit "&") (lit "a+b=%26") :=
    ⟨lit "a+b", lit "%26",
      @Encodes.plain _ _ 0x61 _ _ (by decide) (.space rfl (@Encodes.plain _ _ 0x62 _ _ (by decide) .nil)),
      .escape (by decide) (by decide) (by decide) .nil, rfl⟩
  have bare : Writes (lit "", lit "") (lit "=") := ⟨[], [], .nil, .nil, rfl⟩
  exact parse_query_round_trip lists ascii (.cons spaced (.cons bare .nil))

end SiphonHttp.Parse
