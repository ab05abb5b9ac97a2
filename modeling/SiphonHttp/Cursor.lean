import Mathlib.Data.List.Basic

/-!
Readers over a list of symbols. A reader takes an item off the front of its
input and always takes something, so that a loop reading to the end of the input
ends. `Takes` says which front a reader takes for an item; a loop over the
fronts of a list of items folds over the items.
-/
namespace SiphonHttp.Cursor

structure Reader (Symbol Item : Type*) where
  read : List Symbol → Option (Item × List Symbol)
  shortens : ∀ {input item rest}, read input = some (item, rest) → rest.length < input.length

namespace Reader
variable {Symbol Item Acc Source Out : Type*}

section
variable (reader : Reader Symbol Item)

/-- Read to the end of the input, with a step that may fail for every item. -/
def fold (step : Acc → Item → Option Acc) (acc : Acc) (input : List Symbol) : Option Acc :=
  match input with
  | [] => some acc
  | first :: input =>
    match _found : reader.read (first :: input) with
    | none => none
    | some (item, rest) => (step acc item).bind fun acc => fold step acc rest
termination_by input.length
decreasing_by exact reader.shortens _found

/-- Whatever follows it, the reader takes exactly this front, and for this
    item. -/
def Takes (front : List Symbol) (item : Item) : Prop :=
  ∀ rest, reader.read (front ++ rest) = some (item, rest)

end

variable {reader : Reader Symbol Item} {front : List Symbol} {item : Item}

theorem Takes.whole (takes : reader.Takes front item) : reader.read front = some (item, []) := by
  have whole := takes []
  rwa [List.append_nil] at whole

theorem Takes.ne_nil (takes : reader.Takes front item) : front ≠ [] := by
  intro empty
  have shorter := reader.shortens takes.whole
  simp [empty] at shorter

/-- Where an item ends, the reader stops, whatever follows. -/
def Exact (reader : Reader Symbol Item) : Prop :=
  ∀ {input item rest}, reader.read input = some (item, rest) → ∃ front, input = front ++ rest ∧ reader.Takes front item

/-- What an exact reader reads to the end it reads from no shorter front. -/
theorem Exact.prefix_free (exact : reader.Exact) {whole : List Symbol} (read : reader.read whole = some (item, []))
    {front : List Symbol} (before : front <+: whole) (proper : front ≠ whole) : reader.read front = none := by
  obtain ⟨behind, rfl⟩ := before
  cases found : reader.read front with
  | none => rfl
  | some taken =>
    obtain ⟨other, rest⟩ := taken
    obtain ⟨start, rfl, takes⟩ := exact found
    rw [List.append_assoc, takes (rest ++ behind)] at read
    have nothing : rest ++ behind = [] := congrArg Prod.snd (Option.some.inj read)
    rw [(List.append_eq_nil_iff.mp nothing).2, List.append_nil] at proper
    exact absurd rfl proper

@[simp] theorem fold_nil (step : Acc → Item → Option Acc) (acc : Acc) : reader.fold step acc [] = some acc := by
  rw [fold]

theorem fold_cons (step : Acc → Item → Option Acc) (acc : Acc) (first : Symbol) (input : List Symbol) :
    reader.fold step acc (first :: input) = (reader.read (first :: input)).bind fun (item, rest) =>
      (step acc item).bind fun acc => reader.fold step acc rest := by
  rw [fold]
  split
  · rename_i missed
    rw [missed, Option.bind_none]
  · rename_i found
    rw [found, Option.bind_some]

theorem fold_front (takes : reader.Takes front item) (step : Acc → Item → Option Acc) (acc : Acc)
    (rest : List Symbol) :
    reader.fold step acc (front ++ rest) = (step acc item).bind fun acc => reader.fold step acc rest := by
  cases split : front with
  | nil => exact absurd split takes.ne_nil
  | cons first tail =>
    rw [List.cons_append, fold_cons, ← List.cons_append, ← split, takes rest, Option.bind_some]

/-- Loops over the same input whose steps agree on what a view of their
    accumulators shows. -/
theorem fold_view {Shown : Type*} {step : Acc → Item → Option Acc} {shown_step : Shown → Item → Option Shown}
    (view : Acc → Shown) (agree : ∀ acc item, (step acc item).map view = shown_step (view acc) item) (acc : Acc)
    (input : List Symbol) : (reader.fold step acc input).map view = reader.fold shown_step (view acc) input := by
  induction length : input.length using Nat.strongRecOn generalizing acc input with
  | _ length ih =>
    cases input with
    | nil => simp
    | cons first input =>
      rw [fold_cons, fold_cons, Option.map_bind]
      refine Option.bind_congr fun (item, rest) found => ?_
      dsimp only [Function.comp_def]
      rw [← agree, Option.map_bind, Option.bind_map]
      refine Option.bind_congr fun acc _ => ?_
      exact ih rest.length (length ▸ reader.shortens found) acc rest rfl

/-- Over the fronts of a list of items, a loop folds over the items. -/
theorem fold_takes {items : List Source} {encode : Source → List Symbol} {value : Source → Item}
    (takes : ∀ source ∈ items, reader.Takes (encode source) (value source))
    (step : Acc → Item → Option Acc) (next : Acc → Source → Acc)
    (steps : ∀ source ∈ items, ∀ acc, step acc (value source) = some (next acc source)) (acc : Acc) :
    reader.fold step acc (items.flatMap encode) = some (items.foldl next acc) := by
  induction items generalizing acc with
  | nil => simp
  | cons source items ih =>
    rw [List.flatMap_cons, fold_front (takes source (List.mem_cons_self ..)), steps source (List.mem_cons_self ..),
      Option.bind_some, ih (fun other member => takes other (List.mem_cons_of_mem _ member))
        (fun other member => steps other (List.mem_cons_of_mem _ member)), List.foldl_cons]

/-- A loop whose step appends one thing for each item collects these. -/
theorem fold_collects {items : List Source} {encode : Source → List Symbol} {value : Source → Item}
    (takes : ∀ source ∈ items, reader.Takes (encode source) (value source))
    (step : List Out → Item → Option (List Out)) (out : Source → List Out)
    (appends : ∀ source ∈ items, ∀ acc, step acc (value source) = some (acc ++ out source)) :
    reader.fold step [] (items.flatMap encode) = some (items.flatMap out) := by
  rw [fold_takes takes step _ appends, List.flatMap_eq_foldl]

/-- Items that the reader takes off its input one after the other, to the end. -/
inductive Reads (reader : Reader Symbol Item) : List Item → List Symbol → Prop
  | nil : Reads reader [] []
  | cons {input rest : List Symbol} {item : Item} {items : List Item} (read : reader.read input = some (item, rest))
      (reads : Reads reader items rest) : Reads reader (item :: items) input

/-- A loop that comes to the end has folded over items that it read. -/
theorem fold_reads {step : Acc → Item → Option Acc} {acc last : Acc} {input : List Symbol}
    (folded : reader.fold step acc input = some last) :
    ∃ items, Reads reader items input ∧ items.foldlM step acc = some last := by
  induction length : input.length using Nat.strongRecOn generalizing acc input with
  | _ length ih =>
    cases input with
    | nil =>
      rw [fold_nil] at folded
      exact ⟨[], .nil, folded⟩
    | cons first input =>
      rw [fold_cons] at folded
      obtain ⟨⟨item, rest⟩, read, folded⟩ := Option.bind_eq_some_iff.mp folded
      obtain ⟨next, stepped, folded⟩ := Option.bind_eq_some_iff.mp folded
      obtain ⟨items, reads, steps⟩ := ih rest.length (length ▸ reader.shortens read) folded rfl
      exact ⟨item :: items, .cons read reads, by rw [List.foldlM_cons, stepped]; exact steps⟩

end Reader

section
variable {Acc Item Out : Type*} {step : Acc → Item → Option Acc}

/-- What every step keeps, a loop keeps. -/
theorem foldlM_keeps {Holds : Acc → Prop} {items : List Item} {acc last : Acc}
    (keeps : ∀ item ∈ items, ∀ acc next, Holds acc → step acc item = some next → Holds next)
    (folded : items.foldlM step acc = some last) (holds : Holds acc) : Holds last := by
  induction items generalizing acc with
  | nil =>
    cases folded
    exact holds
  | cons item items ih =>
    rw [List.foldlM_cons] at folded
    obtain ⟨next, stepped, folded⟩ := Option.bind_eq_some_iff.mp folded
    exact ih (fun other member => keeps other (List.mem_cons_of_mem _ member)) folded
      (keeps item (List.mem_cons_self ..) acc next holds stepped)

/-- A loop that appends one thing for each item has one for each in the end. -/
theorem foldlM_appends {step : List Out → Item → Option (List Out)} {Of : Item → Out → Prop} {items : List Item}
    {acc last : List Out}
    (appends : ∀ acc item next, step acc item = some next → ∃ out, next = acc ++ [out] ∧ Of item out)
    (folded : items.foldlM step acc = some last) : ∃ outs, last = acc ++ outs ∧ List.Forall₂ Of items outs := by
  induction items generalizing acc with
  | nil =>
    cases folded
    exact ⟨[], (List.append_nil _).symm, .nil⟩
  | cons item items ih =>
    rw [List.foldlM_cons] at folded
    obtain ⟨next, stepped, folded⟩ := Option.bind_eq_some_iff.mp folded
    obtain ⟨out, rfl, of_item⟩ := appends acc item next stepped
    obtain ⟨outs, rfl, each⟩ := ih folded
    exact ⟨out :: outs, by rw [List.append_assoc, List.singleton_append], .cons of_item each⟩

end

end SiphonHttp.Cursor
