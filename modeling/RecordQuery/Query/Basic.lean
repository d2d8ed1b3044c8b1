import RecordQuery.Clamp
import RecordQuery.Filter.Basic
import RecordQuery.Order.Key

/-!
# Queries

A query asks for the records that pass a filter, in an order, from an offset on and so many at
most. Offset and rows are 64-bit words of which every negative one says "not set".
-/

namespace RecordQuery

structure Query where
  filter : Option Filter := none
  keys : List SortKey := []
  offset : Int64 := -1
  rows : Int64 := -1

namespace Query

def everything : Query := {}

def ofFilter (f : Filter) : Query := { filter := some f }

def isUnfiltered (q : Query) : Bool := q.filter.isNone

def sortedBy (q : Query) (key : SortKey) : Query := { q with keys := q.keys ++ [key] }

/-- Skips `n` records, or as many as a word can say. -/
def skipping (q : Query) (n : Nat) : Query := { q with offset := clampInt64 n }

/-- Gives at most `n` records, or as many as a word can say. -/
def limitedTo (q : Query) (n : Nat) : Query := { q with rows := clampInt64 n }

/-- Gives the page of a size at an index, which counts from zero. -/
def page (q : Query) (index size : Nat) : Query :=
  (q.skipping (saturatingMul index size)).limitedTo size

/-- The count that a word says, unless it is negative. -/
def countOf? (word : Int64) : Option Nat := if word < 0 then none else some word.toInt.toNat

def offset? (q : Query) : Option Nat := countOf? q.offset

def limit? (q : Query) : Option Nat := countOf? q.rows

/-- The part of a list of results that the query asks for. -/
def window {α : Type} (q : Query) (results : List α) : List α :=
  let rest := match q.offset? with
    | some n => results.drop n
    | none => results
  match q.limit? with
  | some n => rest.take n
  | none => rest

end Query

end RecordQuery
