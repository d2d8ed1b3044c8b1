import RecordQuery.Order.Basic
import RecordQuery.Order.Stable
import RecordQuery.Query.Basic

/-!
# Running queries on a list

A query sorts all records, then keeps those that pass, then takes its window. An error anywhere is
the result of the whole. Counting neither sorts nor takes a window.
-/

namespace RecordQuery

/-- Types whose members can be read as records. -/
class HasRecord (α : Type) where
  toRecord : α → Record

instance : HasRecord Record := ⟨id⟩

export HasRecord (toRecord)

namespace Query

variable {m : Type → Type} [Monad m] {α : Type} [HasRecord α]

/-- The items in order. An order without keys compares nothing. -/
def sortVia (read : PathReader m) (order : RecordOrder) (items : List α) :
    ExceptT QueryError m (List α) :=
  if order.isTrivial then return items
  else StableSort.sort (fun a b => order.compareVia read (toRecord a) (toRecord b)) items

def keepVia (read : PathReader m) (f : Option Filter) : List α → ExceptT QueryError m (List α)
  | [] => return []
  | x :: rest => do
    let passed ← Filter.acceptsVia read f (toRecord x)
    let kept ← keepVia read f rest
    return if passed then x :: kept else kept

/-- The items that a query asks for, in an order made from its keys. -/
def selectVia (read : PathReader m) (q : Query) (order : RecordOrder) (items : List α) :
    ExceptT QueryError m (List α) := do
  let sorted ← sortVia read order items
  let kept ← keepVia read q.filter sorted
  return q.window kept

def countVia (read : PathReader m) (f : Option Filter) (items : List α) :
    ExceptT QueryError m Nat :=
  items.foldlM (fun n x => do
    return if ← Filter.acceptsVia read f (toRecord x) then n + 1 else n) 0

/-- The items that a query asks for, with its filter's paths as they stand. The order is made for
this call. -/
def selectShared (q : Query) (items : List α) : SlotM (List α) := do
  let order ← RecordOrder.standalone q.keys
  q.selectVia .shared order items

def accepts (q : Query) (r : Record) : Except QueryError Bool := Filter.accepts q.filter r

/-- The items that a query asks for. Nothing is remembered from one record to the next. -/
def select (q : Query) (items : List α) : Except QueryError (List α) := do
  let order ← ((RecordOrder.standalone q.keys).run.run .empty).1
  q.selectVia .plain order items

def count (q : Query) (items : List α) : Except QueryError Nat :=
  countVia .plain q.filter items

end Query

namespace RecordOrder

variable {α : Type} [HasRecord α]

/-- Sorts items by an order; items equal in it keep their places. -/
def sort (o : RecordOrder) (items : List α) : Except QueryError (List α) :=
  StableSort.sort (m := Id) (fun a b => o.compare (toRecord a) (toRecord b)) items

end RecordOrder

end RecordQuery
