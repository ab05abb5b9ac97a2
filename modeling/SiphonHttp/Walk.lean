import SiphonHttp.Cursor

/-!
Programs on a cursor, as code over slices runs them. A program returns a value or
gives up, leaving its cursor somewhere; a slice past the end would stop it, and a
loop that goes around more often than it may is cut off. `Ends` compares a
program with a partial function of what it is given; a loop over a reader that
may go around once for every symbol ends as the reader's `fold` does, so that it
is never cut off (`until_empty_fold`).
-/
namespace SiphonHttp.Cursor
universe u v

/-- Why a program ends without a value. -/
inductive Stop
  /-- It gives up by itself. -/
  | refused
  /-- A slice is out of bounds. -/
  | panicked
  /-- A loop went around as often as it may, and is not at its end. -/
  | unfinished
  deriving DecidableEq, Repr

/-- A program, with the cursor that it leaves. -/
def Walk (Symbol : Type u) (Value : Type v) := List Symbol → Except Stop Value × List Symbol

/-- What a program that may only give up ends with. -/
def ended {Value : Type v} : Option Value → Except Stop Value
  | some value => .ok value
  | none => .error .refused

namespace Walk
variable {Symbol : Type u} {Item Value Next Acc : Type v}

instance : Monad (Walk Symbol) where
  pure value cursor := (.ok value, cursor)
  bind walk next cursor :=
    match walk cursor with
    | (.ok value, cursor) => next value cursor
    | (.error stop, cursor) => (.error stop, cursor)

def stop (why : Stop) : Walk Symbol Value := fun cursor => (.error why, cursor)

/-- The symbols under the cursor. -/
def remaining : Walk Symbol (List Symbol) := fun cursor => (.ok cursor, cursor)

def advance_to (rest : List Symbol) : Walk Symbol PUnit := fun _ => (.ok ⟨⟩, rest)

/-- Nothing to split off is a reason to give up. -/
def split_first : List Symbol → Walk Symbol (Symbol × List Symbol)
  | [] => stop .refused
  | first :: rest => pure (first, rest)

def split_at (symbols : List Symbol) (count : Nat) : Walk Symbol (List Symbol × List Symbol) :=
  if count ≤ symbols.length then pure (symbols.take count, symbols.drop count) else stop .panicked

/-- A program on a cursor of its own. -/
def within (symbols : List Symbol) (walk : Walk Symbol Value) : Walk Symbol Value :=
  fun cursor => ((walk symbols).1, cursor)

/-- `while !cursor.is_empty()`, around at most so often. -/
def until_empty (body : Acc → Walk Symbol Acc) : Nat → Acc → Walk Symbol Acc
  | _, acc, [] => (.ok acc, [])
  | 0, _, cursor => (.error .unfinished, cursor)
  | rounds + 1, acc, cursor => (body acc >>= until_empty body rounds) cursor

/-! ### Programs and partial functions -/

/-- On this input the program ends as the function's value says: with its first
    part, and the second under the cursor. -/
def Ends (walk : Walk Symbol Value) (input : List Symbol) (result : Option (Value × List Symbol)) : Prop :=
  match result with
  | some (value, rest) => walk input = (.ok value, rest)
  | none => (walk input).1 = .error .refused

/-- The program reads what the reader reads. -/
def Follows (walk : Walk Symbol Item) (reader : Reader Symbol Item) : Prop :=
  ∀ input, Ends walk input (reader.read input)

theorem bind_of_ok {walk : Walk Symbol Value} {input rest : List Symbol} {value : Value}
    (found : walk input = (.ok value, rest)) (next : Value → Walk Symbol Next) :
    (walk >>= next) input = next value rest := by
  change (match walk input with
    | (.ok value, cursor) => next value cursor
    | (.error stop, cursor) => (.error stop, cursor)) = _
  rw [found]

theorem bind_of_stop {walk : Walk Symbol Value} {input rest : List Symbol} {why : Stop}
    (left : walk input = (.error why, rest)) (next : Value → Walk Symbol Next) :
    (walk >>= next) input = (.error why, rest) := by
  change (match walk input with
    | (.ok value, cursor) => next value cursor
    | (.error stop, cursor) => (.error stop, cursor)) = _
  rw [left]

theorem bind_of_error {walk : Walk Symbol Value} {input : List Symbol} {why : Stop}
    (left : (walk input).1 = .error why) (next : Value → Walk Symbol Next) :
    ((walk >>= next) input).1 = .error why := by
  cases outcome : walk input with
  | mk first rest =>
    rw [outcome] at left
    obtain rfl : first = .error why := left
    rw [bind_of_stop outcome next]

/-- Programs one behind the other end as the functions one behind the other say. -/
theorem ends_bind {walk : Walk Symbol Value} {input : List Symbol} {result : Option (Value × List Symbol)}
    (ends : Ends walk input result) {next : Value → Walk Symbol Next}
    {expected : Value × List Symbol → Option (Next × List Symbol)}
    (agree : ∀ value rest, result = some (value, rest) → Ends (next value) rest (expected (value, rest))) :
    Ends (walk >>= next) input (result.bind expected) := by
  cases result with
  | none => exact bind_of_error ends next
  | some read =>
    obtain ⟨value, rest⟩ := read
    unfold Ends
    rw [bind_of_ok ends next]
    exact agree value rest rfl

/-- The same, where only the value counts. -/
theorem gives_bind {walk : Walk Symbol Value} {input : List Symbol} {result : Option (Value × List Symbol)}
    (ends : Ends walk input result) {next : Value → Walk Symbol Next} {expected : Value × List Symbol → Option Next}
    (agree : ∀ value rest, result = some (value, rest) → (next value rest).1 = ended (expected (value, rest))) :
    ((walk >>= next) input).1 = ended (result.bind expected) := by
  cases result with
  | none => exact bind_of_error ends next
  | some read =>
    obtain ⟨value, rest⟩ := read
    rw [bind_of_ok ends next]
    exact agree value rest rfl

theorem ends_pure (value : Value) (input : List Symbol) :
    Ends (pure value : Walk Symbol Value) input (some (value, input)) :=
  rfl

/-- A program on a cursor of its own leaves the cursor around it. -/
theorem ends_within {symbols : List Symbol} {walk : Walk Symbol Value} {value : Option Value}
    (gives : (walk symbols).1 = ended value) (input : List Symbol) :
    Ends (within symbols walk) input (value.map (·, input)) := by
  cases value with
  | none => exact gives
  | some value => exact congrArg (·, input) gives

theorem gives_bind_map {Found : Type*} {walk : Walk Symbol Value} {input : List Symbol} {found : Option Found}
    {view : Found → Value × List Symbol} (ends : Ends walk input (found.map view)) {next : Value → Walk Symbol Next}
    {expected : Found → Option Next}
    (agree : ∀ shown, found = some shown → (next (view shown).1 (view shown).2).1 = ended (expected shown)) :
    ((walk >>= next) input).1 = ended (found.bind expected) := by
  cases found with
  | none => exact bind_of_error ends next
  | some shown =>
    rw [bind_of_ok (show walk input = (.ok (view shown).1, (view shown).2) from ends) next]
    exact agree shown rfl

theorem gives_of_ends {Found : Type*} {walk : Walk Symbol Value} {input : List Symbol} {found : Option Found}
    {view : Found → Value × List Symbol} (ends : Ends walk input (found.map view)) :
    (walk input).1 = ended (found.map fun shown => (view shown).1) := by
  cases found with
  | none => exact ends
  | some shown => exact congrArg Prod.fst ends

/-! ### Loops -/

/-- A loop whose body reads an item and then does what the step does, around once
    for every symbol, folds over the items up to the end of its input. -/
theorem until_empty_fold {reader : Reader Symbol Item} {body : Acc → Walk Symbol Acc} {step : Acc → Item → Option Acc}
    {bound : Nat}
    (agree : ∀ acc input, input.length ≤ bound →
      Ends (body acc) input ((reader.read input).bind fun (item, rest) => (step acc item).map (·, rest)))
    {rounds : Nat} (acc : Acc) {input : List Symbol} (short : input.length ≤ bound) (enough : input.length ≤ rounds) :
    Ends (until_empty body rounds acc) input ((reader.fold step acc input).map (·, [])) := by
  induction rounds generalizing acc input with
  | zero =>
    obtain rfl := List.eq_nil_of_length_eq_zero (Nat.le_zero.mp enough)
    rw [Reader.fold_nil]
    rfl
  | succ rounds ih =>
    cases input with
    | nil =>
      rw [Reader.fold_nil]
      rfl
    | cons first input =>
      have around : (reader.fold step acc (first :: input)).map (·, ([] : List Symbol)) =
          ((reader.read (first :: input)).bind fun (item, rest) => (step acc item).map (·, rest)).bind
            fun (acc, rest) => (reader.fold step acc rest).map (·, []) := by
        rw [Reader.fold_cons, Option.bind_assoc, Option.map_bind]
        simp only [Option.bind_map, Option.map_bind, Function.comp_def]
      rw [around]
      refine ends_bind (agree acc (first :: input) short) fun next rest stepped => ?_
      obtain ⟨⟨item, behind⟩, read, mapped⟩ := Option.bind_eq_some_iff.mp stepped
      obtain ⟨after, -, same⟩ := Option.map_eq_some_iff.mp mapped
      cases same
      have shorter := reader.shortens read
      simp only [List.length_cons] at short shorter enough
      exact ih next (by omega) (by omega)

end Walk
end SiphonHttp.Cursor
