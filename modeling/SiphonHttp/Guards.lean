import Mathlib.Data.List.Basic
import Mathlib.Data.List.Infix

/-!
Chains of guards, over any kind of stage and of record. A run of a chain is
`Guarded` when its records are of the chain's stages in order and nothing was
run after a record that did not pass.
-/
namespace SiphonHttp.Guards

section
variable {Stage Record : Type*} (stage : Record → Stage) (Passed : Record → Prop)

/-- The records of a run of the chain: none, one of the first stage, or one of
    the first stage that passed and the records of a run of the rest. -/
inductive Guarded : List Stage → List Record → Prop
  | idle (chain : List Stage) : Guarded chain []
  | last (record : Record) (chain : List Stage) : Guarded (stage record :: chain) [record]
  | pass {record : Record} {chain : List Stage} {records : List Record} (passed : Passed record)
      (rest : Guarded chain records) : Guarded (stage record :: chain) (record :: records)

variable {stage Passed} {chain : List Stage} {records : List Record}

namespace Guarded

theorem in_order (guarded : Guarded stage Passed chain records) : records.map stage <+: chain := by
  induction guarded with
  | idle chain => exact List.nil_prefix
  | last record chain => exact ⟨chain, rfl⟩
  | pass passed rest ih => exact (List.prefix_cons_inj _).mpr ih

/-- A stage with one behind it passed. -/
theorem passed (guarded : Guarded stage Passed chain records) {before after : List Record} {record : Record}
    (split : records = before ++ record :: after) (more : after ≠ []) : Passed record := by
  induction guarded generalizing before with
  | idle chain => simp at split
  | last only chain =>
    have length := congrArg List.length split
    have := List.length_pos_iff.mpr more
    simp at length
    omega
  | pass passed rest ih =>
    cases before with
    | nil =>
      obtain ⟨same, -⟩ := List.cons.inj split
      exact same ▸ passed
    | cons first before => exact ih (List.cons.inj split).2

/-- A run that reaches the last stage of the chain ran the others, and each of
    them passed. -/
theorem reached {guards : List Stage} {final : Stage} (guarded : Guarded stage Passed (guards ++ [final]) records)
    (long : guards.length < records.length) :
    ∃ passing record, records = passing ++ [record] ∧ passing.map stage = guards ∧ stage record = final ∧
      ∀ record ∈ passing, Passed record := by
  induction guards generalizing records with
  | nil =>
    cases guarded with
    | idle => simp at long
    | last record => exact ⟨[], record, rfl, rfl, rfl, by simp⟩
    | pass passed rest =>
      cases rest with
      | idle => exact ⟨[], _, rfl, rfl, rfl, by simp⟩
  | cons guard guards ih =>
    cases guarded with
    | idle => simp at long
    | last record => simp at long
    | pass passed rest =>
      obtain ⟨passing, record, rfl, rfl, rfl, all⟩ := ih rest (by simpa using long)
      refine ⟨_ :: passing, record, rfl, rfl, rfl, fun other member => ?_⟩
      obtain rfl | member := List.mem_cons.mp member
      · exact passed
      · exact all other member

/-- One more stage, behind stages that all passed. -/
theorem executes {rest : List Stage} {record : Record} (passed : ∀ record ∈ records, Passed record) :
    Guarded stage Passed (records.map stage ++ stage record :: rest) (records ++ [record]) := by
  induction records with
  | nil => exact .last record rest
  | cons first records ih =>
    refine .pass (passed first (List.mem_cons_self ..)) (ih ?_)
    intro other member
    exact passed other (List.mem_cons_of_mem first member)

end Guarded
end
end SiphonHttp.Guards
