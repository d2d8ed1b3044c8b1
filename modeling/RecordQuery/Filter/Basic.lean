import RecordQuery.Filter.Test
import RecordQuery.Path.Registry

/-!
# Filters

A filter is a tree of conditions on records. A leaf tests the value at one path; a conjunction
stops at its first false side and a disjunction at its first true one, so what lies behind is not
evaluated and cannot fail.
-/

namespace RecordQuery

/-- A way to read the value at a path from a record. -/
abbrev PathReader (m : Type → Type) := SharedPath → Record → ExceptT QueryError m (Option Value)

/-- Reads paths without remembering anything. -/
def PathReader.plain : PathReader Id := fun p r => p.path.resolve r

/-- Reads paths through the slots that they remember. -/
def PathReader.shared : PathReader (StateM SlotMemory) := SharedPath.resolve

/-- One operator applied to one property. -/
structure Leaf where
  path : SharedPath
  operator : Operator
  ignoreCase : Bool
  arguments : List Argument
  test : Test

namespace Leaf

variable {m : Type → Type} [Monad m]

def passesVia (read : PathReader m) (l : Leaf) (r : Record) : ExceptT QueryError m Bool := do
  let v ← read l.path r
  ExceptT.mk (pure (l.test.run v))

def toText (l : Leaf) : String :=
  " ".intercalate ([l.path.dotted, l.operator.name] ++ l.arguments.map Argument.toText)
    ++ if l.ignoreCase && l.operator.isCaseSensitive then " (ignore case)" else ""

def debugText (l : Leaf) : String :=
  "Predicate \x7b " ++ ", ".intercalate
    ["path: " ++ Text.quoted l.path.dotted, "operator: " ++ l.operator.debugText,
     "ignore_case: " ++ toString l.ignoreCase,
     "args: " ++ Value.enclose "[" "]" (l.arguments.map Argument.debugText)] ++ " \x7d"

end Leaf

inductive Filter where
  | leaf (l : Leaf)
  | and (a b : Filter)
  | or (a b : Filter)

namespace Filter

variable {m : Type → Type} [Monad m]

/-- Whether a record passes, reading properties by `read`. -/
def passesVia (read : PathReader m) (r : Record) : Filter → ExceptT QueryError m Bool
  | leaf l => l.passesVia read r
  | and a b => do
    if ← a.passesVia read r then b.passesVia read r else return false
  | or a b => do
    if ← a.passesVia read r then return true else b.passesVia read r

def passes (f : Filter) (r : Record) : Except QueryError Bool := f.passesVia .plain r

/-- Whether a record passes an optional filter; without one every record does. -/
def acceptsVia (read : PathReader m) (f : Option Filter) (r : Record) : ExceptT QueryError m Bool :=
  match f with
  | some f => f.passesVia read r
  | none => return true

def accepts (f : Option Filter) (r : Record) : Except QueryError Bool := acceptsVia .plain f r

def leaves : Filter → List Leaf
  | leaf l => [l]
  | and a b => a.leaves ++ b.leaves
  | or a b => a.leaves ++ b.leaves

def toText : Filter → String
  | leaf l => l.toText
  | and a b => "(" ++ a.toText ++ " AND " ++ b.toText ++ ")"
  | or a b => "(" ++ a.toText ++ " OR " ++ b.toText ++ ")"

def debugText : Filter → String
  | leaf l => "Leaf(" ++ l.debugText ++ ")"
  | and a b => "And(" ++ a.debugText ++ ", " ++ b.debugText ++ ")"
  | or a b => "Or(" ++ a.debugText ++ ", " ++ b.debugText ++ ")"

end Filter

end RecordQuery
