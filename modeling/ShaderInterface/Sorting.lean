/-! Sorting by a rank. Elements of the same rank keep their order. -/
namespace ShaderInterface.Sorting

variable {α : Type}

/-- Puts an element before the first of a list that does not rank below it. -/
def insertByRank (rank : α → Nat) (a : α) : List α → List α
  | [] => [a]
  | b :: rest => if rank a ≤ rank b then a :: b :: rest else b :: insertByRank rank a rest

/-- The elements of a list, lowest rank first. -/
def sortByRank (rank : α → Nat) (list : List α) : List α :=
  list.foldr (insertByRank rank) []

end ShaderInterface.Sorting
