/-!
# Stable sorting by a comparison that may fail

The sort asks a comparison that always answers: one that has failed finds everything equal from
then on. Whatever the sort makes of such answers is dropped, and the first failure is the result.
-/

namespace RecordQuery

namespace StableSort

variable {m : Type → Type} [Monad m] {ε α : Type}

/-- A comparison that remembers its first failure and answers "equal" from then on. -/
def latched (compare : α → α → ExceptT ε m Ordering) (a b : α) : StateT (Option ε) m Ordering := do
  match ← get with
  | some _ => return .eq
  | none =>
    match ← (compare a b).run with
    | .ok o => return o
    | .error e =>
      set (some e)
      return .eq

/-- Puts an item into a list sorted from the largest down, before everything it is not less than. -/
def insert (compare : α → α → m Ordering) (x : α) : List α → m (List α)
  | [] => return [x]
  | y :: rest => do
    if (← compare x y) == .lt then return y :: (← insert compare x rest)
    else return x :: y :: rest

/-- Puts items, from left to right, into a list sorted from the largest down. -/
def insertAll (compare : α → α → m Ordering) : List α → List α → m (List α)
  | [], sorted => return sorted
  | x :: rest, sorted => do insertAll compare rest (← insert compare x sorted)

def insertionSort (compare : α → α → m Ordering) (items : List α) : m (List α) :=
  List.reverse <$> insertAll compare items []

/-- Sorts a list, or gives the first failure of the comparison. -/
def sort (compare : α → α → ExceptT ε m Ordering) (items : List α) :
    ExceptT ε m (List α) := do
  match ← (insertionSort (latched compare) items : StateT (Option ε) m (List α)).run none with
  | (sorted, none) => return sorted
  | (_, some e) => throw e

end StableSort

end RecordQuery
