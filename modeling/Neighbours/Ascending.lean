/-! Ascending lists without repeats. -/

namespace Neighbours

/-- The elements of a list in ascending order, each once. -/
def ascending {α : Type} [Ord α] [BEq α] (xs : List α) : List α :=
  (xs.mergeSort fun left right => (compare left right).isLE).eraseReps

end Neighbours
