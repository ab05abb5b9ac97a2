import Mathlib.Data.List.Perm.Basic
import Mathlib.Tactic.SplitIfs

/-!
Sockets that are bound first and listen later, over any addresses of which some
overlap. A socket can be bound where no other one listens yet, so binding tells
nothing about the sockets that are bound beside it: all of them come to listen, in
whatever order, only if no two of their addresses overlap (`every_order_iff`).
-/
namespace SiphonHttp.Sockets

section
variable {Address : Type*} (overlaps : Address → Address → Prop)

/-- No socket listens on an address that overlaps this one. -/
def Free (listening : List Address) (address : Address) : Prop := ∀ other ∈ listening, ¬overlaps address other

instance [DecidableRel overlaps] (listening : List Address) (address : Address) :
    Decidable (Free overlaps listening address) :=
  inferInstanceAs (Decidable (∀ other ∈ listening, _))

/-- Neither address overlaps the other. -/
def Apart (first second : Address) : Prop := ¬overlaps first second ∧ ¬overlaps second first

/-- A bound socket starts to listen, if it can: the addresses on which sockets
    listen then, and whether it does. -/
def listen [DecidableRel overlaps] (listening : List Address) (address : Address) : List Address × Bool :=
  if Free overlaps listening address then (address :: listening, true) else (listening, false)

/-- Bound sockets start to listen one after another: which of them do. -/
def listen_all [DecidableRel overlaps] : List Address → List Address → List Bool
  | _, [] => []
  | listening, address :: addresses =>
    (listen overlaps listening address).2 :: listen_all (listen overlaps listening address).1 addresses

end

section
variable {Address : Type*} {overlaps : Address → Address → Prop} {listening addresses : List Address}

theorem Apart.symm {first second : Address} (apart : Apart overlaps first second) : Apart overlaps second first :=
  ⟨apart.2, apart.1⟩

theorem free_cons {first address : Address} :
    Free overlaps (first :: listening) address ↔ ¬overlaps address first ∧ Free overlaps listening address :=
  List.forall_mem_cons

variable [DecidableRel overlaps]

/-- In one order all sockets listen if they are free, and none overlaps one before
    it. -/
theorem listen_all_iff :
    (∀ listens ∈ listen_all overlaps listening addresses, listens = true) ↔
      (∀ address ∈ addresses, Free overlaps listening address) ∧
        addresses.Pairwise fun earlier later => ¬overlaps later earlier := by
  induction addresses generalizing listening with
  | nil => simp [listen_all]
  | cons address addresses ih =>
    rw [listen_all, List.forall_mem_cons, List.forall_mem_cons, List.pairwise_cons]
    by_cases free : Free overlaps listening address
    · rw [listen, if_pos free]
      dsimp only
      rw [ih]
      -- The socket listens now, so it is one of those that the others meet.
      constructor
      · rintro ⟨-, frees, pairwise⟩
        refine ⟨⟨free, fun later member => (free_cons.mp (frees later member)).2⟩,
          fun later member => (free_cons.mp (frees later member)).1, pairwise⟩
      · rintro ⟨⟨-, frees⟩, apart, pairwise⟩
        exact ⟨rfl, fun later member => free_cons.mpr ⟨apart later member, frees later member⟩, pairwise⟩
    · rw [listen, if_neg free]
      exact iff_of_false (fun all => Bool.false_ne_true all.1) fun all => free all.1.1

/-- In every order all sockets listen exactly if they are free and no two
    overlap. -/
theorem every_order_iff :
    (∀ order : List Address, order.Perm addresses → ∀ listens ∈ listen_all overlaps listening order, listens = true) ↔
      (∀ address ∈ addresses, Free overlaps listening address) ∧ addresses.Pairwise (Apart overlaps) := by
  constructor
  · intro every
    obtain ⟨free, forwards⟩ := listen_all_iff.mp (every addresses (List.Perm.refl addresses))
    obtain ⟨-, backwards⟩ := listen_all_iff.mp (every addresses.reverse (List.reverse_perm addresses))
    exact ⟨free, (List.pairwise_reverse.mp backwards).and forwards⟩
  · rintro ⟨free, apart⟩ order permuted
    refine listen_all_iff.mpr ⟨fun address member => free address (permuted.mem_iff.mp member), ?_⟩
    have ordered : order.Pairwise (Apart overlaps) := (permuted.pairwise_iff Apart.symm).mpr apart
    exact ordered.imp fun both => both.2

end
end SiphonHttp.Sockets
