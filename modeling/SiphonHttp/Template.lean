import SiphonHttp.Text

/-!
Route templates: `/`-separated segments, each a literal, one parameter or a
final catch-all, what such a template binds on a request path, and which of
several templates that match a path is the most specific. This is the part of a
router that the rest relies on; nothing here mentions a server.
-/
namespace SiphonHttp
open Text

/-- One segment of a template: `users`, `{id}` or `{*rest}`. -/
inductive Segment
  | literal (text : Text)
  | param (name : Text)
  | catchAll (name : Text)
  deriving DecidableEq, Repr

namespace Segment

/-- The segment as it is written. -/
def text : Segment → Text
  | literal text => text
  | param name => '{' :: name ++ ['}']
  | catchAll name => '{' :: '*' :: name ++ ['}']

/-- The name a segment binds. -/
def name : Segment → Option Text
  | literal _ => none
  | param name => some name
  | catchAll name => some name

/-- Literals hold no brace, names neither a brace nor a `:`; nothing holds the
    separator, and `{*` always opens a catch-all. -/
def WellFormed : Segment → Prop
  | literal text => '/' ∉ text ∧ '{' ∉ text ∧ '}' ∉ text
  | param name => '/' ∉ name ∧ '{' ∉ name ∧ '}' ∉ name ∧ ':' ∉ name ∧ name.head? ≠ some '*'
  | catchAll name => '/' ∉ name ∧ '{' ∉ name ∧ '}' ∉ name ∧ ':' ∉ name

instance (segment : Segment) : Decidable segment.WellFormed := by
  cases segment <;> unfold WellFormed <;> infer_instance

def isCatchAll : Segment → Bool
  | catchAll _ => true
  | _ => false

theorem text_no_slash {segment : Segment} (formed : segment.WellFormed) : '/' ∉ segment.text := by
  cases segment with
  | literal text => exact formed.1
  | param name => simpa [Segment.text] using formed.1
  | catchAll name => simpa [Segment.text] using formed.1

theorem text_opens (segment : Segment) : (∃ text, segment = literal text) ∨ '{' ∈ segment.text := by
  cases segment <;> simp [Segment.text]

theorem param_text_ne_catchAll {n m : Text} (formed : (param n).WellFormed) : (param n).text ≠ (catchAll m).text := by
  intro same
  cases n with
  | nil => simp [Segment.text] at same
  | cons c n =>
    simp only [Segment.text, List.cons_append, List.cons.injEq, true_and] at same
    exact formed.2.2.2.2 (by simp [same.1])

/-- A well-formed segment is known from how it is written. -/
theorem text_injective {a b : Segment} (left : a.WellFormed) (right : b.WellFormed) (same : a.text = b.text) :
    a = b := by
  cases a with
  | literal t =>
    rcases text_opens b with ⟨u, rfl⟩ | opens
    · rw [show t = u from same]
    · rw [← same] at opens
      exact absurd opens left.2.1
  | param n =>
    cases b with
    | literal u =>
      have opens : '{' ∈ (literal u).text := by rw [← same]; simp [Segment.text]
      exact absurd opens right.2.1
    | param m => simpa [Segment.text] using same
    | catchAll m => exact absurd same (param_text_ne_catchAll left)
  | catchAll n =>
    cases b with
    | literal u =>
      have opens : '{' ∈ (literal u).text := by rw [← same]; simp [Segment.text]
      exact absurd opens right.2.1
    | param m => exact absurd same.symm (param_text_ne_catchAll right)
    | catchAll m => simpa [Segment.text] using same

end Segment

/-- A template: at least one segment, a catch-all only at the end, no name
    bound twice. -/
structure Template where
  segments : List Segment
  nonempty : segments ≠ []
  formed : ∀ segment ∈ segments, segment.WellFormed
  catchAllLast : ∀ segment ∈ segments.dropLast, segment.isCatchAll = false
  distinct : (segments.filterMap Segment.name).Nodup
  deriving DecidableEq

namespace Template

/-- The template as it is written: its segments joined by `/`. -/
def text (template : Template) : Text := join ['/'] (template.segments.map Segment.text)

theorem splitOn_text (template : Template) :
    template.text.splitOn '/' = template.segments.map Segment.text := by
  refine List.splitOn_intercalate '/' ?_ (by simpa using template.nonempty)
  intro piece member
  obtain ⟨segment, inside, rfl⟩ := List.mem_map.mp member
  exact Segment.text_no_slash (template.formed segment inside)

theorem text_injective {a b : Template} (same : a.text = b.text) : a = b := by
  have texts : a.segments.map Segment.text = b.segments.map Segment.text := by
    rw [← splitOn_text, ← splitOn_text, same]
  have aligned : ∀ {xs ys : List Segment}, (∀ s ∈ xs, s.WellFormed) → (∀ s ∈ ys, s.WellFormed) →
      xs.map Segment.text = ys.map Segment.text → xs = ys := by
    intro xs
    induction xs with
    | nil => intro ys _ _ equal; exact (List.map_eq_nil_iff.mp equal.symm).symm
    | cons x xs ih =>
      intro ys formedX formedY equal
      cases ys with
      | nil => simp at equal
      | cons y ys =>
        obtain ⟨head, tail⟩ := List.cons.inj equal
        rw [Segment.text_injective (formedX x (by simp)) (formedY y (by simp)) head,
          ih (fun s m => formedX s (by simp [m])) (fun s m => formedY s (by simp [m])) tail]
  have segments := aligned a.formed b.formed texts
  cases a; cases b; cases segments; rfl

/-! ## What a template binds -/

/-- Match segments against the pieces of a path. A literal equals its piece, a
    parameter takes one piece that is not empty, a catch-all what is left of the
    path, which is not empty. -/
def bind : List Segment → List Text → Option (List (Text × Text))
  | [], [] => some []
  | .literal text :: segments, piece :: pieces => if text = piece then bind segments pieces else none
  | .param name :: segments, piece :: pieces =>
    if piece = [] then none else (bind segments pieces).map ((name, piece) :: ·)
  | [.catchAll name], piece :: pieces =>
    let rest := join ['/'] (piece :: pieces)
    if rest = [] then none else some [(name, rest)]
  | _, _ => none

/-- The parameters a router binds when the template matches the path. -/
def bindings (template : Template) (path : Text) : Option (List (Text × Text)) :=
  bind template.segments (path.splitOn '/')

def «matches» (template : Template) (path : Text) : Bool := (template.bindings path).isSome

@[simp] theorem bind_literal (text piece : Text) (segments : List Segment) (pieces : List Text) :
    bind (.literal text :: segments) (piece :: pieces) = if text = piece then bind segments pieces else none := by
  cases segments <;> rfl
@[simp] theorem bind_param (name piece : Text) (segments : List Segment) (pieces : List Text) :
    bind (.param name :: segments) (piece :: pieces) =
      if piece = [] then none else (bind segments pieces).map ((name, piece) :: ·) := by
  cases segments <;> rfl
@[simp] theorem bind_catchAll (name piece : Text) (pieces : List Text) :
    bind [.catchAll name] (piece :: pieces) =
      if join ['/'] (piece :: pieces) = [] then none else some [(name, join ['/'] (piece :: pieces))] := rfl
@[simp] theorem bind_cons_nil (segment : Segment) (segments : List Segment) : bind (segment :: segments) [] = none := by
  cases segment <;> cases segments <;> rfl
@[simp] theorem bind_catchAll_cons (name : Text) (segment : Segment) (segments : List Segment) (pieces : List Text) :
    bind (.catchAll name :: segment :: segments) pieces = none := by
  cases pieces <;> rfl

/-- The names a match binds are the template's, in order. -/
theorem bind_names {segments : List Segment} {pieces : List Text} {bound : List (Text × Text)}
    (found : bind segments pieces = some bound) : bound.map Prod.fst = segments.filterMap Segment.name := by
  induction segments generalizing pieces bound with
  | nil =>
    cases pieces with
    | nil => simp [bind] at found; simp [← found]
    | cons _ _ => simp [bind] at found
  | cons segment segments ih =>
    cases pieces with
    | nil => simp at found
    | cons piece pieces =>
      cases segment with
      | literal text =>
        rw [bind_literal] at found
        split_ifs at found
        rw [List.filterMap_cons_none (by rfl)]
        exact ih found
      | param name =>
        rw [bind_param] at found
        split_ifs at found
        obtain ⟨tail, inner, rfl⟩ := Option.map_eq_some_iff.mp found
        simpa [Segment.name] using ih inner
      | catchAll name =>
        cases segments with
        | cons _ _ => simp at found
        | nil =>
          rw [bind_catchAll] at found
          split_ifs at found
          simp only [Option.some.injEq] at found
          simp [← found, Segment.name]

/-! ## The most specific template -/

end Template

/-- A literal goes before a parameter, a parameter before a catch-all. -/
def Segment.rank : Segment → Nat
  | .literal _ => 0
  | .param _ => 1
  | .catchAll _ => 2

/-- A segment without the name it binds. -/
def Segment.shape : Segment → Segment
  | .literal text => .literal text
  | .param _ => .param []
  | .catchAll _ => .catchAll []

namespace Template

/-- Templates are compared at the first segment where their kinds differ. -/
def ranks (template : Template) : List Nat := template.segments.map Segment.rank

/-- Of the templates that match the path, the most specific one. -/
def pick : List Template → Text → Option Template
  | [], _ => none
  | template :: templates, path =>
    if template.matches path then
      match pick templates path with
      | none => some template
      | some other => if other.ranks < template.ranks then some other else some template
    else pick templates path

/-- No template is chosen exactly when none matches. -/
theorem pick_eq_none {templates : List Template} {path : Text} :
    pick templates path = none ↔ ∀ template ∈ templates, ¬ template.matches path := by
  induction templates with
  | nil => simp [pick]
  | cons template templates ih =>
    rw [pick, List.forall_mem_cons]
    by_cases here : template.matches path
    · rw [if_pos here]
      simp only [here, not_true_eq_false, false_and, iff_false]
      cases pick templates path with
      | none => simp
      | some other => simp only; split_ifs <;> simp
    · rw [if_neg here, ih]
      simp [here]

/-- What `pick` chooses is in the table and matches, and no other match goes
    before it. -/
theorem pick_spec {templates : List Template} {path : Text} {chosen : Template}
    (picked : pick templates path = some chosen) :
    chosen ∈ templates ∧ chosen.matches path ∧
      ∀ other ∈ templates, other.matches path → chosen.ranks ≤ other.ranks := by
  induction templates generalizing chosen with
  | nil => simp [pick] at picked
  | cons template templates ih =>
    rw [pick] at picked
    by_cases here : template.matches path
    · rw [if_pos here] at picked
      cases tail : pick templates path with
      | none =>
        simp only [tail, Option.some.injEq] at picked
        subst picked
        refine ⟨by simp, here, fun other member isMatch => ?_⟩
        rcases List.mem_cons.mp member with rfl | later
        · exact le_refl _
        · exact absurd isMatch (pick_eq_none.mp tail other later)
      | some best =>
        obtain ⟨inside, bestMatches, least⟩ := ih tail
        simp only [tail] at picked
        split_ifs at picked with before
        · rw [Option.some.injEq] at picked
          subst picked
          refine ⟨by simp [inside], bestMatches, fun other member isMatch => ?_⟩
          rcases List.mem_cons.mp member with rfl | later
          · exact le_of_lt before
          · exact least other later isMatch
        · rw [Option.some.injEq] at picked
          subst picked
          refine ⟨by simp, here, fun other member isMatch => ?_⟩
          rcases List.mem_cons.mp member with rfl | later
          · exact le_refl _
          · exact le_trans (not_lt.mp before) (least other later isMatch)
    · rw [if_neg here] at picked
      obtain ⟨inside, bestMatches, least⟩ := ih picked
      refine ⟨by simp [inside], bestMatches, fun other member isMatch => ?_⟩
      rcases List.mem_cons.mp member with rfl | later
      · exact absurd isMatch here
      · exact least other later isMatch

/-- Taking other templates out of a table leaves the choice as it was. -/
theorem pick_filter {templates : List Template} {path : Text} {chosen : Template} (keep : Template → Bool)
    (picked : pick templates path = some chosen) (kept : keep chosen) :
    pick (templates.filter keep) path = some chosen := by
  induction templates generalizing chosen with
  | nil => simp [pick] at picked
  | cons template templates ih =>
    rw [pick] at picked
    by_cases here : template.matches path
    · rw [if_pos here] at picked
      cases tail : pick templates path with
      | none =>
        simp only [tail, Option.some.injEq] at picked
        subst picked
        have rest : pick (templates.filter keep) path = none :=
          pick_eq_none.mpr fun other member => pick_eq_none.mp tail other (List.mem_of_mem_filter member)
        rw [List.filter_cons_of_pos kept, pick, if_pos here, rest]
      | some best =>
        simp only [tail] at picked
        split_ifs at picked with before
        · rw [Option.some.injEq] at picked
          subst picked
          by_cases first : keep template
          · rw [List.filter_cons_of_pos first, pick, if_pos here, ih tail kept]
            simp only [before, ↓reduceIte]
          · rw [List.filter_cons_of_neg first]
            exact ih tail kept
        · rw [Option.some.injEq] at picked
          subst picked
          rw [List.filter_cons_of_pos kept, pick, if_pos here]
          cases rest : pick (templates.filter keep) path with
          | none => rfl
          | some other =>
            obtain ⟨member, otherMatches, _⟩ := pick_spec rest
            have above := (pick_spec tail).2.2 other (List.mem_of_mem_filter member) otherMatches
            have notBefore : ¬ other.ranks < template.ranks := not_lt.mpr (le_trans (not_lt.mp before) above)
            simp only [notBefore, ↓reduceIte]
    · rw [if_neg here] at picked
      by_cases first : keep template
      · rw [List.filter_cons_of_pos first, pick, if_neg here]
        exact ih picked kept
      · rw [List.filter_cons_of_neg first]
        exact ih picked kept

/-- Segments that match one path and have the same kinds have the same shape. -/
theorem shape_of_ranks {xs ys : List Segment} {pieces : List Text} (left : (bind xs pieces).isSome)
    (right : (bind ys pieces).isSome) (same : xs.map Segment.rank = ys.map Segment.rank) :
    xs.map Segment.shape = ys.map Segment.shape := by
  induction xs generalizing ys pieces with
  | nil => simp only [List.map_nil] at same; simp [List.map_eq_nil_iff.mp same.symm]
  | cons x xs ih =>
    cases ys with
    | nil => simp at same
    | cons y ys =>
      obtain ⟨kind, kinds⟩ := List.cons.inj same
      cases pieces with
      | nil => simp at left
      | cons piece pieces =>
        cases x with
        | literal t =>
          cases y with
          | literal u =>
            rw [bind_literal] at left right
            split_ifs at left with first
            split_ifs at right with second
            · simp [Segment.shape, first, second, ih left right kinds]
            · simp at right
            · simp at left
          | param _ => simp [Segment.rank] at kind
          | catchAll _ => simp [Segment.rank] at kind
        | param n =>
          cases y with
          | literal _ => simp [Segment.rank] at kind
          | param m =>
            rw [bind_param] at left right
            split_ifs at left with first
            · simp at left
            · rw [if_neg first] at right
              simp only [Option.isSome_map] at left right
              simp [Segment.shape, ih left right kinds]
          | catchAll _ => simp [Segment.rank] at kind
        | catchAll n =>
          cases y with
          | literal _ => simp [Segment.rank] at kind
          | param _ => simp [Segment.rank] at kind
          | catchAll m =>
            cases xs with
            | cons _ _ => simp at left
            | nil => simp [Segment.shape, List.map_eq_nil_iff.mp kinds.symm]

/-- No two templates differ only in the names they bind. A router takes no
    others into its table. -/
def Consistent (templates : List Template) : Prop :=
  ∀ a ∈ templates, ∀ b ∈ templates, a.segments.map Segment.shape = b.segments.map Segment.shape → a = b

/-- In a consistent table the choice does not depend on the order in which the
    templates were entered. -/
theorem pick_perm {table other : List Template} (consistent : Consistent table) (same : table.Perm other) (path : Text) :
    pick table path = pick other path := by
  cases left : pick table path with
  | none =>
    symm
    exact pick_eq_none.mpr fun t member => pick_eq_none.mp left t (same.mem_iff.mpr member)
  | some a =>
    obtain ⟨insideA, matchA, leastA⟩ := pick_spec left
    cases right : pick other path with
    | none => exact absurd matchA (pick_eq_none.mp right a (same.mem_iff.mp insideA))
    | some b =>
      obtain ⟨insideB, matchB, leastB⟩ := pick_spec right
      have ranks : a.ranks = b.ranks :=
        le_antisymm (leastA b (same.mem_iff.mpr insideB) matchB) (leastB a (same.mem_iff.mp insideA) matchA)
      have shapes := shape_of_ranks matchA matchB ranks
      rw [consistent a insideA b (same.mem_iff.mpr insideB) shapes]

end Template
end SiphonHttp
