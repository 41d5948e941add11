import Mathlib.Data.List.Basic

/-! Chains of nodes that lie at addresses. A walk follows the address in each node,
up to the first node that carries the stop mark. -/

set_option autoImplicit false

namespace Vi53xx.Foundation

structure ChainReader (Address Node : Type) where
  fetch : Address → Option Node
  next : Node → Address
  stop : Node → Bool

namespace ChainReader

variable {Address Node : Type} {reader : ChainReader Address Node} {address : Nat → Address}
  {nodes : Nat → Node} {last fuel : Nat}

/-- The nodes visited from an address on, if a stop comes within the fuel. -/
def walk (reader : ChainReader Address Node) : Nat → Address → Option (List Node)
  | 0, _ => none
  | fuel + 1, place =>
      match reader.fetch place with
      | none => none
      | some node =>
          if reader.stop node then some [node]
          else (walk reader fuel (reader.next node)).map (node :: ·)

/-- The nodes are chained in order from 0 to `last`, where the chain stops. -/
structure Linked (reader : ChainReader Address Node) (address : Nat → Address)
    (nodes : Nat → Node) (last : Nat) : Prop where
  fetched : ∀ i, i ≤ last → reader.fetch (address i) = some (nodes i)
  next : ∀ i, i < last → reader.next (nodes i) = address (i + 1)
  running : ∀ i, i < last → reader.stop (nodes i) = false
  stopped : reader.stop (nodes last) = true

theorem Linked.tail (linked : reader.Linked address nodes (last + 1)) :
    reader.Linked (fun i => address (i + 1)) (fun i => nodes (i + 1)) last where
  fetched := fun i bounded => linked.fetched (i + 1) (Nat.succ_le_succ bounded)
  next := fun i bounded => linked.next (i + 1) (Nat.succ_lt_succ bounded)
  running := fun i bounded => linked.running (i + 1) (Nat.succ_lt_succ bounded)
  stopped := linked.stopped

/-- A walk of a linked chain visits its nodes, each once and in order. -/
theorem Linked.walk (linked : reader.Linked address nodes last) (enough : last < fuel) :
    reader.walk fuel (address 0) = some ((List.range (last + 1)).map nodes) := by
  induction last generalizing fuel address nodes with
  | zero =>
      obtain ⟨fuel, rfl⟩ := Nat.exists_eq_succ_of_ne_zero (Nat.ne_of_gt enough)
      simp [ChainReader.walk, linked.fetched 0 (Nat.le_refl 0), linked.stopped]
  | succ last ih =>
      obtain ⟨fuel, rfl⟩ := Nat.exists_eq_succ_of_ne_zero (Nat.ne_of_gt (Nat.zero_lt_of_lt enough))
      have rest := ih linked.tail (Nat.lt_of_succ_lt_succ enough)
      have first := linked.fetched 0 (Nat.zero_le _)
      have onward := linked.next 0 (Nat.succ_pos last)
      have going := linked.running 0 (Nat.succ_pos last)
      rw [List.range_succ_eq_map, List.map_cons, List.map_map]
      simp only [ChainReader.walk, first, going, Bool.false_eq_true, if_false, onward, rest,
        Option.map_some]
      rfl

end ChainReader

end Vi53xx.Foundation
