import Mathlib.Data.Finmap

/-!
Finite maps that are filled with one entry after another, so that the last of
several entries with one key stays.
-/
namespace SiphonHttp.Overwrite

section
variable {Key Value : Type*} [DecidableEq Key]

/-- The entries on top of what is there, one after another. -/
def fill (start : Finmap fun _ : Key => Value) (entries : List (Key × Value)) : Finmap fun _ : Key => Value :=
  entries.foldl (fun filled entry => filled.insert entry.1 entry.2) start

/-- The value of the last entry with the key. -/
def last (key : Key) (entries : List (Key × Value)) : Option Value := entries.reverse.lookup key

variable {start : Finmap fun _ : Key => Value} {entries more : List (Key × Value)} {key : Key} {value : Value}

@[simp] theorem last_nil : last key ([] : List (Key × Value)) = none := rfl

theorem last_append : last key (entries ++ more) = (last key more).or (last key entries) := by
  rw [last, List.reverse_append, List.lookup_append]
  rfl

theorem last_singleton (entry : Key × Value) : last key [entry] = if key = entry.1 then some entry.2 else none := by
  by_cases same : key = entry.1
  · rw [if_pos same, last, List.reverse_singleton, List.lookup_cons, beq_iff_eq.mpr same]
  · rw [if_neg same, last, List.reverse_singleton, List.lookup_cons, beq_eq_false_iff_ne.mpr same]
    rfl

theorem last_eq_none : last key entries = none ↔ ∀ entry ∈ entries, entry.1 ≠ key := by
  rw [last, List.lookup_eq_none_iff]
  simp only [List.mem_reverse, bne_iff_ne, ne_comm]

/-- With distinct keys every entry is the last one with its key. -/
theorem last_eq_some (distinct : (entries.map Prod.fst).Nodup) :
    last key entries = some value ↔ (key, value) ∈ entries := by
  induction entries using List.reverseRecOn with
  | nil => simp
  | append_singleton entries entry ih =>
    rw [List.map_append, List.map_singleton, List.nodup_append] at distinct
    obtain ⟨rest, -, apart⟩ := distinct
    rw [last_append, last_singleton, List.mem_append, List.mem_singleton, ← ih rest]
    by_cases same : key = entry.1
    · subst same
      have fresh : last entry.1 entries = none := by
        rw [last_eq_none]
        intro other member equal
        exact apart other.1 (List.mem_map_of_mem member) entry.1 (List.mem_singleton_self _) equal
      rw [if_pos rfl, Option.some_or, fresh]
      constructor
      · intro here
        exact Or.inr (Prod.ext rfl (Option.some.inj here).symm)
      · rintro (impossible | here)
        · cases impossible
        · rw [← here]
    · rw [if_neg same, Option.none_or]
      constructor
      · exact Or.inl
      · rintro (there | here)
        · exact there
        · exact absurd (congrArg Prod.fst here) same

/-- Of items that give entries, the last one that gives the key. -/
theorem last_map {Item : Type*} (give : Item → Key × Value) (items : List Item) :
    last key (items.map give) =
      (items.reverse.find? fun item => decide ((give item).1 = key)).map fun item => (give item).2 := by
  induction items using List.reverseRecOn with
  | nil => rfl
  | append_singleton items item ih =>
    rw [List.map_append, last_append, ih, List.map_singleton, last_singleton, List.reverse_append,
      List.reverse_singleton, List.singleton_append]
    by_cases same : key = (give item).1
    · simp [same]
    · simp [same, Ne.symm same]

theorem fill_append : fill start (entries ++ more) = fill (fill start entries) more := by
  rw [fill, List.foldl_append]
  rfl

/-- Under each key a map that is filled holds the value of the last entry with
    it, or else what was there. -/
theorem lookup_fill : (fill start entries).lookup key = (last key entries).or (start.lookup key) := by
  induction entries using List.reverseRecOn with
  | nil => rfl
  | append_singleton entries entry ih =>
    rw [fill_append, last_append, last_singleton]
    show Finmap.lookup key ((fill start entries).insert entry.1 entry.2) = _
    by_cases same : key = entry.1
    · rw [if_pos same, same, Finmap.lookup_insert]
      rfl
    · rw [if_neg same, Finmap.lookup_insert_of_ne _ same, ih]
      rfl

theorem lookup_fill_empty : (fill ∅ entries).lookup key = last key entries := by
  rw [lookup_fill, Finmap.lookup_empty, Option.or_none]

theorem lookup_union (above under : Finmap fun _ : Key => Value) :
    (above ∪ under).lookup key = (above.lookup key).or (under.lookup key) := by
  by_cases known : key ∈ above
  · obtain ⟨value, found⟩ := Finmap.mem_iff.mp known
    rw [Finmap.lookup_union_left known, found]
    rfl
  · rw [Finmap.lookup_union_right known, Finmap.lookup_eq_none.mpr known]
    rfl

/-- What more entries come to overrides what the first ones came to. -/
theorem fill_append_union : fill ∅ (entries ++ more) = fill ∅ more ∪ fill ∅ entries := by
  refine Finmap.ext_lookup fun key => ?_
  rw [lookup_union, lookup_fill_empty, lookup_fill_empty, lookup_fill_empty, last_append]

/-- One entry underneath shows unless there is one with its key. -/
theorem union_fill_iff (above : Finmap fun _ : Key => Value) (entry : Key × Value) :
    above ∪ fill ∅ [entry] = above ↔ above.lookup entry.1 ≠ none := by
  constructor
  · intro same missing
    have shown := congrArg (Finmap.lookup entry.1) same
    rw [lookup_union, missing, Option.none_or, lookup_fill_empty, last_singleton, if_pos rfl] at shown
    cases shown
  · intro there
    refine Finmap.ext_lookup fun key => ?_
    rw [lookup_union, lookup_fill_empty, last_singleton]
    by_cases same : key = entry.1
    · obtain ⟨value, found⟩ := Option.ne_none_iff_exists'.mp there
      rw [same, found]
      rfl
    · rw [if_neg same, Option.or_none]

/-- One entry on top changes nothing when it was there. -/
theorem fill_union_iff (under : Finmap fun _ : Key => Value) (entry : Key × Value) :
    fill ∅ [entry] ∪ under = under ↔ under.lookup entry.1 = some entry.2 := by
  constructor
  · intro same
    have shown := congrArg (Finmap.lookup entry.1) same
    rw [lookup_union, lookup_fill_empty, last_singleton, if_pos rfl] at shown
    exact shown.symm
  · intro there
    refine Finmap.ext_lookup fun key => ?_
    rw [lookup_union, lookup_fill_empty, last_singleton]
    by_cases same : key = entry.1
    · rw [if_pos same, same, there]
      rfl
    · rw [if_neg same, Option.none_or]

/-- A map is what is filled with its entries, in any order. -/
theorem fill_eq_of_entries {map : Finmap fun _ : Key => Value} (distinct : (entries.map Prod.fst).Nodup)
    (lists : ∀ key value, map.lookup key = some value ↔ (key, value) ∈ entries) : fill ∅ entries = map := by
  refine Finmap.ext_lookup fun key => Option.ext fun value => ?_
  rw [lookup_fill_empty, last_eq_some distinct, lists]

end
end SiphonHttp.Overwrite
