import SiphonHttp.Template
import SiphonHttp.Parse

/-!
Path parameters against the router. `extract_path_params` matches a template and
a path a second time, on its own: it drops the leading slashes of both, splits
at `/` and pairs the pieces. It agrees with what the router bound except where a
catch-all is the first thing after the leading slashes and the slashes it bound
go with them (`extract_path_params_iff`).
-/
namespace SiphonHttp.PathParams
open Text Parse

/-! ### Pieces without the leading empty ones -/

/-- The pieces of a text once its leading slashes are dropped. -/
def strip : List Text → List Text
  | [] => [[]]
  | [[]] => [[]]
  | [] :: piece :: pieces => strip (piece :: pieces)
  | (c :: piece) :: pieces => (c :: piece) :: pieces

@[simp] theorem strip_empty (piece : Text) (pieces : List Text) :
    strip ([] :: piece :: pieces) = strip (piece :: pieces) := by rw [strip]

theorem join_cons (piece next : Text) (pieces : List Text) :
    join ['/'] (piece :: next :: pieces) = piece ++ '/' :: join ['/'] (next :: pieces) := by
  simp [join, List.intercalate_cons_cons]

/-- Splitting after dropping the leading slashes leaves `strip`. -/
theorem splitOn_trim {pieces : List Text} (nonempty : pieces ≠ []) (plain : ∀ piece ∈ pieces, '/' ∉ piece) :
    (trim_start_matches '/' (join ['/'] pieces)).splitOn '/' = strip pieces := by
  induction pieces with
  | nil => exact absurd rfl nonempty
  | cons piece pieces ih =>
    cases piece with
    | nil =>
      cases pieces with
      | nil => decide
      | cons next pieces =>
        rw [join_cons, List.nil_append, strip, ← ih (by simp) fun p m => plain p (by simp [m])]
        simp [trim_start_matches]
    | cons c piece =>
      have noSlash : c ≠ '/' := fun same => plain (c :: piece) (by simp) (by simp [same])
      have kept : trim_start_matches '/' (join ['/'] ((c :: piece) :: pieces)) = join ['/'] ((c :: piece) :: pieces) := by
        cases pieces with
        | nil => simp [join, trim_start_matches, noSlash]
        | cons next pieces => simp [join_cons, trim_start_matches, noSlash]
      rw [kept, strip]
      exact List.splitOn_intercalate '/' plain (by simp)

theorem splitOn_plain (text piece : Text) (member : piece ∈ text.splitOn '/') : '/' ∉ piece := by
  induction text generalizing piece with
  | nil => simp at member; simp [member]
  | cons c text ih =>
    rw [List.splitOn_cons_eq_if_modifyHead] at member
    split_ifs at member with slash
    · rcases List.mem_cons.mp member with rfl | later
      · simp
      · exact ih piece later
    · cases pieces : text.splitOn '/' with
      | nil => exact absurd pieces (List.splitOn_ne_nil '/' text)
      | cons first rest =>
        rw [pieces, List.modifyHead_cons] at member
        rcases List.mem_cons.mp member with rfl | later
        · have plain := ih first (by simp [pieces])
          simp only [beq_iff_eq] at slash
          simp [Ne.symm slash, plain]
        · exact ih piece (by simp [pieces, later])

theorem join_splitOn (path : Text) : join ['/'] (path.splitOn '/') = path := List.intercalate_splitOn '/'

theorem strip_splitOn (path : Text) : (trim_start_matches '/' path).splitOn '/' = strip (path.splitOn '/') := by
  conv_lhs => rw [← join_splitOn path]
  exact splitOn_trim (List.splitOn_ne_nil '/' path) (splitOn_plain path)

theorem join_strip {pieces : List Text} (nonempty : pieces ≠ []) (plain : ∀ piece ∈ pieces, '/' ∉ piece) :
    join ['/'] (strip pieces) = trim_start_matches '/' (join ['/'] pieces) := by
  rw [← splitOn_trim nonempty plain, join_splitOn]

/-! ### One template segment -/

theorem ends_with_brace (front : Text) : ends_with '}' (front ++ ['}']) = true := by
  simp [ends_with]

theorem inner_name (start name : Text) :
    ((start ++ name ++ ['}']).take ((start ++ name ++ ['}']).length - 1)).drop start.length = name := by
  have length : (start ++ name ++ ['}']).length - 1 = (start ++ name).length := by simp
  rw [length, List.take_left, List.drop_left]

theorem extract_literal {text : Text} (formed : (Segment.literal text).WellFormed) (a_segs : List Text) (i : Nat)
    (t_segs : List Text) (out : Params) :
    extract_from a_segs i (text :: t_segs) out = extract_from a_segs (i + 1) t_segs out := by
  have noBrace : ∀ rest : Text, starts_with ('{' :: rest) text = false := by
    intro rest
    cases text with
    | nil => rfl
    | cons c text =>
      have other : ('{' == c) = false := beq_false_of_ne fun same => formed.2.1 (by subst same; simp)
      simp [starts_with, List.isPrefixOf, other]
  rw [extract_from]
  simp [noBrace]

theorem extract_param {name : Text} (formed : (Segment.param name).WellFormed) {a_segs : List Text} {i : Nat}
    {piece : Text} (here : a_segs[i]? = some piece) (t_segs : List Text) (out : Params) :
    extract_from a_segs i ((Segment.param name).text :: t_segs) out =
      extract_from a_segs (i + 1) t_segs (out.insert name (urldecode piece)) := by
  obtain ⟨_, _, _, noColon, noStar⟩ := formed
  have notCatchAll : starts_with ['{', '*'] (Segment.param name).text = false := by
    cases name with
    | nil => decide
    | cons c name =>
      have other : ('*' == c) = false := beq_false_of_ne fun same => noStar (by subst same; simp)
      simp [starts_with, Segment.text, List.isPrefixOf, other]
  have opens : starts_with ['{'] (Segment.param name).text = true := by simp [starts_with, Segment.text]
  have closes : ends_with '}' (Segment.param name).text = true := ends_with_brace ('{' :: name)
  have inner : ((Segment.param name).text.take ((Segment.param name).text.length - 1)).drop 1 = name :=
    inner_name ['{'] name
  rw [extract_from]
  simp [notCatchAll, opens, closes, inner, split_once, noColon, here]

theorem extract_catchAll (name : Text) {a_segs : List Text} {i : Nat} (inside : i ≤ a_segs.length)
    (t_segs : List Text) (out : Params) :
    extract_from a_segs i ((Segment.catchAll name).text :: t_segs) out =
      out.insert name (urldecode (join ['/'] (a_segs.drop i))) := by
  have opens : starts_with ['{', '*'] (Segment.catchAll name).text = true := by simp [starts_with, Segment.text]
  have closes : ends_with '}' (Segment.catchAll name).text = true := ends_with_brace ('{' :: '*' :: name)
  have inner : ((Segment.catchAll name).text.take ((Segment.catchAll name).text.length - 1)).drop 2 = name :=
    inner_name ['{', '*'] name
  rw [extract_from]
  simp [opens, closes, inner, inside]

/-! ### Aligned segments and pieces -/

theorem lookup_insert (out : Params) (name key value : Text) :
    (out.insert key value).lookup name = if name = key then some value else out.lookup name := by
  split_ifs with same
  · rw [same, Finmap.lookup_insert]
  · exact Finmap.lookup_insert_of_ne _ same

/-- Segments that line up with the pieces of the path are read as the router
    reads them. -/
theorem extract_aligned {segments : List Segment} {pieces : List Text} {bound : List (Text × Text)}
    (found : Template.bind segments pieces = some bound) (formed : ∀ segment ∈ segments, segment.WellFormed)
    (distinct : (bound.map Prod.fst).Nodup) (a_segs : List Text) (i : Nat) (at_i : a_segs.drop i = pieces)
    (out : Params) (name : Text) :
    (extract_from a_segs i (segments.map Segment.text) out).lookup name =
      ((bound.lookup name).map urldecode).or (out.lookup name) := by
  induction segments generalizing pieces bound i out with
  | nil =>
    cases pieces with
    | nil =>
      simp only [Template.bind, Option.some.injEq] at found
      subst found
      simp [extract_from]
    | cons _ _ => simp [Template.bind] at found
  | cons segment segments ih =>
    cases pieces with
    | nil => simp at found
    | cons piece pieces =>
      have inside : i < a_segs.length := by
        by_contra past
        rw [List.drop_eq_nil_of_le (by omega)] at at_i
        simp at at_i
      obtain ⟨here, after⟩ : a_segs[i]? = some piece ∧ a_segs.drop (i + 1) = pieces := by
        rw [List.drop_eq_getElem_cons inside] at at_i
        obtain ⟨head, tail⟩ := List.cons.inj at_i
        exact ⟨by rw [List.getElem?_eq_getElem inside, head], tail⟩
      have formedHead := formed segment (by simp)
      have formedTail : ∀ s ∈ segments, s.WellFormed := fun s member => formed s (by simp [member])
      rw [List.map_cons]
      cases segment with
      | literal text =>
        rw [Template.bind_literal] at found
        split_ifs at found
        rw [Segment.text, extract_literal formedHead]
        exact ih found formedTail distinct (i + 1) after out
      | param n =>
        rw [Template.bind_param] at found
        split_ifs at found
        obtain ⟨tail, inner, rfl⟩ := Option.map_eq_some_iff.mp found
        obtain ⟨fresh, distinctTail⟩ := List.nodup_cons.mp distinct
        rw [extract_param formedHead here, ih inner formedTail distinctTail (i + 1) after, lookup_insert, List.lookup_cons]
        by_cases same : name = n
        · have absent : tail.lookup n = none := by
            rw [List.lookup_eq_none_iff]
            intro entry member
            have other : entry.1 ≠ n := fun equal => fresh (List.mem_map.mpr ⟨entry, member, equal⟩)
            simpa using Ne.symm other
          simp [same, absent]
        · simp [same, beq_false_of_ne same]
      | catchAll n =>
        cases segments with
        | cons _ _ => simp at found
        | nil =>
          rw [Template.bind_catchAll] at found
          split_ifs at found
          simp only [Option.some.injEq] at found
          subst found
          rw [extract_catchAll n (le_of_lt inside), at_i, lookup_insert, List.lookup_cons]
          by_cases same : name = n
          · simp [same]
          · simp [same, beq_false_of_ne same]

/-! ### Leading slashes -/

/-- A template that is a catch-all behind `k` slashes. -/
def behindSlashes (k : Nat) (name : Text) : List Segment := List.replicate k (.literal []) ++ [.catchAll name]

/-- A catch-all that begins the template, but for slashes, has bound a remainder
    that begins with a slash. -/
def Swallowed (segments : List Segment) (bound : List (Text × Text)) : Prop :=
  (∃ k name, segments = behindSlashes k name) ∧ ∃ name rest, bound = [(name, '/' :: rest)]

theorem behindSlashes_succ (k : Nat) (name : Text) :
    behindSlashes (k + 1) name = .literal [] :: behindSlashes k name := rfl

/-- Unless a catch-all has bound leading slashes, dropping the leading slashes
    on both sides keeps segments and pieces aligned. -/
theorem strip_aligned {segments : List Segment} {pieces : List Text} {bound : List (Text × Text)}
    (found : Template.bind segments pieces = some bound) (nonempty : segments ≠ [])
    (formed : ∀ segment ∈ segments, segment.WellFormed) (kept : ¬ Swallowed segments bound) :
    ∃ left : List Segment, (∀ segment ∈ left, segment.WellFormed) ∧
      strip (segments.map Segment.text) = left.map Segment.text ∧
      Template.bind left (strip pieces) = some bound := by
  induction segments generalizing pieces with
  | nil => exact absurd rfl nonempty
  | cons segment segments ih =>
    cases pieces with
    | nil => simp at found
    | cons piece pieces =>
      cases segment with
      | literal text =>
        have tailFound := found
        rw [Template.bind_literal] at tailFound
        split_ifs at tailFound with same
        subst same
        cases text with
        | cons c text => exact ⟨_, formed, rfl, found⟩
        | nil =>
          cases segments with
          | nil =>
            cases pieces with
            | nil => exact ⟨_, formed, rfl, found⟩
            | cons _ _ => simp [Template.bind] at tailFound
          | cons next segments =>
            cases pieces with
            | nil => simp at tailFound
            | cons nextPiece pieces =>
              have keptTail : ¬ Swallowed (next :: segments) bound := by
                rintro ⟨⟨k, name, shape⟩, remainder⟩
                exact kept ⟨⟨k + 1, name, by rw [shape]; rfl⟩, remainder⟩
              obtain ⟨left, formedLeft, texts, aligned⟩ :=
                ih tailFound (by simp) (fun s member => formed s (by simp [member])) keptTail
              exact ⟨left, formedLeft, texts, aligned⟩
      | param name =>
        have tailFound := found
        rw [Template.bind_param] at tailFound
        split_ifs at tailFound with empty
        cases piece with
        | nil => exact absurd rfl empty
        | cons c piece => exact ⟨_, formed, rfl, found⟩
      | catchAll name =>
        cases segments with
        | cons _ _ => simp at found
        | nil =>
          cases piece with
          | cons c piece => exact ⟨_, formed, rfl, found⟩
          | nil =>
            rw [Template.bind_catchAll] at found
            split_ifs at found with empty
            simp only [Option.some.injEq] at found
            cases pieces with
            | nil => exact absurd rfl empty
            | cons next pieces =>
              refine absurd ⟨⟨0, name, rfl⟩, name, join ['/'] (next :: pieces), ?_⟩ kept
              rw [← found, join_cons, List.nil_append]

/-- Under a catch-all behind slashes only, what is left are the pieces of the
    remainder without its leading slashes. -/
theorem strip_swallowed {k : Nat} {name : Text} {pieces : List Text} {bound : List (Text × Text)}
    (found : Template.bind (behindSlashes k name) pieces = some bound) (plain : ∀ piece ∈ pieces, '/' ∉ piece) :
    strip ((behindSlashes k name).map Segment.text) = [(Segment.catchAll name).text] ∧
      ∃ rest, bound = [(name, rest)] ∧ join ['/'] (strip pieces) = trim_start_matches '/' rest := by
  induction k generalizing pieces with
  | zero =>
    cases pieces with
    | nil => simp [behindSlashes] at found
    | cons piece pieces =>
      simp only [behindSlashes, List.replicate_zero, List.nil_append, Template.bind_catchAll] at found
      split_ifs at found
      exact ⟨rfl, _, (Option.some.inj found).symm, join_strip (by simp) plain⟩
  | succ k ih =>
    rw [behindSlashes_succ] at found ⊢
    cases pieces with
    | nil => simp at found
    | cons piece pieces =>
      rw [Template.bind_literal] at found
      split_ifs at found with empty
      subst empty
      have behind : ∃ first rest, behindSlashes k name = first :: rest := by
        cases k with
        | zero => exact ⟨_, _, rfl⟩
        | succ k => exact ⟨_, _, rfl⟩
      obtain ⟨first, rest, shape⟩ := behind
      cases pieces with
      | nil => simp [shape] at found
      | cons next pieces =>
        obtain ⟨left, remainder, bind, join⟩ := ih found fun p member => plain p (by simp [member])
        refine ⟨?_, remainder, bind, by rw [strip_empty, join]⟩
        rw [← left, shape, List.map_cons, List.map_cons, Segment.text, strip_empty]

theorem urldecode_trim_length (text : Text) : (urldecode (trim_start_matches '/' text)).length ≤ (urldecode text).length := by
  induction text with
  | nil => rfl
  | cons c text ih =>
    by_cases slash : c = '/'
    · subst slash
      have trimmed : trim_start_matches '/' ('/' :: text) = trim_start_matches '/' text := by simp [trim_start_matches]
      rw [trimmed, urldecode_slash, List.length_cons]
      omega
    · simp [trim_start_matches, slash]

theorem extract_path_params_eq (template : Template) (path : Text) :
    extract_path_params template.text path =
      extract_from (strip (path.splitOn '/')) 0 (strip (template.segments.map Segment.text)) ∅ := by
  rw [extract_path_params, strip_splitOn, strip_splitOn, Template.splitOn_text]

/-- What the router bound is what the handler is given, unless a catch-all has
    bound slashes at the very start of the path. -/
theorem extract_bound {template : Template} {path : Text} {bound : List (Text × Text)}
    (found : template.bindings path = some bound) (kept : ¬ Swallowed template.segments bound) (name : Text) :
    (extract_path_params template.text path).lookup name = (bound.lookup name).map urldecode := by
  obtain ⟨left, formed, texts, aligned⟩ := strip_aligned found template.nonempty template.formed kept
  have distinct : (bound.map Prod.fst).Nodup := by
    rw [Template.bind_names found]
    exact template.distinct
  rw [extract_path_params_eq, texts, extract_aligned aligned formed distinct _ 0 (by simp)]
  simp

/-- The parameters a handler is given are those the router bound, decoded,
    exactly when no catch-all has bound slashes at the very start of the path. -/
theorem extract_path_params_iff (template : Template) (path : Text) (bound : List (Text × Text))
    (found : template.bindings path = some bound) :
    (∀ name, (extract_path_params template.text path).lookup name = (bound.lookup name).map urldecode) ↔
      ¬ Swallowed template.segments bound := by
  constructor
  · rintro agree ⟨⟨k, name, shape⟩, name', rest, remainder⟩
    rw [Template.bindings, shape] at found
    obtain ⟨left, rest', bind, join⟩ := strip_swallowed found (splitOn_plain path)
    obtain ⟨rfl, rfl⟩ : name' = name ∧ '/' :: rest = rest' := by simpa [remainder] using bind
    have result := agree name'
    rw [extract_path_params_eq, shape, left, extract_catchAll name' (by simp), List.drop_zero, join,
      Finmap.lookup_insert, remainder] at result
    simp only [List.lookup_cons_self, Option.map_some, Option.some.injEq] at result
    have trimmed : trim_start_matches '/' ('/' :: rest) = trim_start_matches '/' rest := by simp [trim_start_matches]
    have shorter := urldecode_trim_length rest
    rw [trimmed, urldecode_slash] at result
    rw [result, List.length_cons] at shorter
    omega
  · intro kept name
    exact extract_bound found kept name

/-- `/{*rest}`. -/
def everything : Template where
  segments := [.literal [], .catchAll (lit "rest")]
  nonempty := by decide
  formed := by decide
  catchAllLast := by decide
  distinct := by decide

/-- `/users/{id}`. -/
def oneUser : Template where
  segments := [.literal [], .literal (lit "users"), .param (lit "id")]
  nonempty := by decide
  formed := by decide
  catchAllLast := by decide
  distinct := by decide

theorem extract_path_params_user :
    (∀ name, (extract_path_params oneUser.text (lit "/users/4%32")).lookup name =
      (([(lit "id", lit "4%32")] : List (Text × Text)).lookup name).map urldecode) ↔
    ¬ Swallowed oneUser.segments [(lit "id", lit "4%32")] :=
  extract_path_params_iff oneUser (lit "/users/4%32") [(lit "id", lit "4%32")] (by decide)

/-- On `//a` the router binds `/a` to the catch-all of `/{*rest}`; the handler
    is given `a`. -/
theorem extract_path_params_loses_a_slash :
    everything.bindings (lit "//a") = some [(lit "rest", lit "/a")] ∧
      (extract_path_params everything.text (lit "//a")).lookup (lit "rest") = some (lit "a") ∧
      ¬ ∀ name, (extract_path_params everything.text (lit "//a")).lookup name =
        (([(lit "rest", lit "/a")] : List (Text × Text)).lookup name).map urldecode := by
  refine ⟨by decide, by decide +kernel, fun agree => ?_⟩
  have found := agree (lit "rest")
  revert found
  decide +kernel

end SiphonHttp.PathParams
