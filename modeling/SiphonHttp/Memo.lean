import Mathlib.Logic.Function.Basic
import Mathlib.Tactic.SplitIfs

/-!
A table that builds the value of a key the first time it is asked for and
remembers the settings it was built from. Over any keys, settings, values and
errors: the same settings get the same value again, other settings a conflict,
and a build that fails leaves nothing behind.
-/
namespace SiphonHttp.Memo

section
variable {Key Settings Value Error : Type*} [DecidableEq Key] [DecidableEq Settings]

/-- What each key was built from, and its value. -/
abbrev Table (Key Settings Value : Type*) := Key → Option (Settings × Value)

/-- Ask for the value of a key with some settings; `build` is what building it
    would come to. -/
def ask (conflict : Error) (build : Except Error Value) (key : Key) (settings : Settings)
    (table : Table Key Settings Value) : Table Key Settings Value × Except Error Value :=
  match table key with
  | some (built_from, value) => (table, if built_from = settings then .ok value else .error conflict)
  | none =>
    match build with
    | .ok value => (Function.update table key (some (settings, value)), .ok value)
    | .error error => (table, .error error)

variable {conflict error : Error} {build : Except Error Value} {key other : Key} {settings built_from : Settings}
  {table : Table Key Settings Value} {value : Value} {entry : Settings × Value}

/-- A key that is built is not built again. -/
theorem ask_known (known : table key = some (built_from, value)) :
    ask conflict build key settings table = (table, if built_from = settings then .ok value else .error conflict) := by
  simp only [ask, known]

theorem ask_unknown (unknown : table key = none) : (ask conflict build key settings table).2 = build := by
  simp only [ask, unknown]
  cases build <;> rfl

/-- An error leaves the table as it was. -/
theorem ask_failed (failed : (ask conflict build key settings table).2 = .error error) :
    (ask conflict build key settings table).1 = table := by
  cases known : table key with
  | some entry => rw [ask_known known]
  | none =>
    rw [ask_unknown known] at failed
    simp only [ask, known, failed]

/-- A value that is handed out is the one of the table, built from the settings
    that it was asked for with. -/
theorem ask_served (served : (ask conflict build key settings table).2 = .ok value) :
    (ask conflict build key settings table).1 key = some (settings, value) := by
  cases known : table key with
  | some entry =>
    rw [ask_known known] at served ⊢
    dsimp only at served
    split_ifs at served with same
    rw [← same, ← Except.ok.inj served]
    exact known
  | none =>
    rw [ask_unknown known] at served
    simp only [ask, known, served, Function.update_self]

/-- Other keys are left alone. -/
theorem ask_other (differs : other ≠ key) : (ask conflict build key settings table).1 other = table other := by
  cases result : (ask conflict build key settings table).2 with
  | error error => rw [ask_failed result]
  | ok value =>
    cases known : table key with
    | some entry => rw [ask_known known]
    | none =>
      rw [ask_unknown known] at result
      simp only [ask, known, result, Function.update_of_ne differs]

/-- What is in the table stays there. -/
theorem ask_keeps (known : table other = some entry) : (ask conflict build key settings table).1 other = some entry := by
  by_cases same : other = key
  · subst same
    rw [ask_known known]
    exact known
  · rw [ask_other same, known]

/-- What is new in the table was asked for, and handed out. -/
theorem ask_new (unknown : table other = none) (known : (ask conflict build key settings table).1 other = some entry) :
    other = key ∧ (ask conflict build key settings table).2 = .ok entry.2 ∧ entry.1 = settings := by
  by_cases same : other = key
  · subst same
    refine ⟨rfl, ?_⟩
    cases result : (ask conflict build other settings table).2 with
    | error error =>
      rw [ask_failed result, unknown] at known
      cases known
    | ok value =>
      rw [ask_served result] at known
      cases known
      exact ⟨rfl, rfl⟩
  · rw [ask_other same, unknown] at known
    cases known

end
end SiphonHttp.Memo
