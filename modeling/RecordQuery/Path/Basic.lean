import RecordQuery.Error
import RecordQuery.Text.Quoted
import RecordQuery.Unicode.WhiteSpace

/-!
# Property paths

A property path names an attribute, or an attribute of a nested record, by segments between dots.
`PropertyPath.resolve` reads it from a record: null anywhere on the way gives no value, an unknown
attribute and a step into a value that is no record are errors.
-/

namespace RecordQuery

/-- The pieces of a text between its dots, one more than there are dots. -/
def splitDots : List Char → List (List Char)
  | [] => [[]]
  | c :: rest =>
    if c == '.' then [] :: splitDots rest
    else match splitDots rest with
      | [] => [[c]]
      | piece :: more => (c :: piece) :: more

theorem splitDots_ne_nil (s : List Char) : splitDots s ≠ [] := by
  cases s with
  | nil => simp [splitDots]
  | cons c rest => simp only [splitDots]; split <;> (try split) <;> simp

structure PropertyPath where
  dotted : String
  /-- No segment is empty or blank. -/
  segments_visible : ((splitDots dotted.toList).any Unicode.isBlank) = false
  deriving DecidableEq

namespace PropertyPath

/-- Reads a dotted text as a path, unless a segment is empty or blank. -/
def parse (dotted : String) : Except QueryError PropertyPath :=
  if h : ((splitDots dotted.toList).any Unicode.isBlank) = false then .ok ⟨dotted, h⟩
  else .error (.invalidPath dotted)

/-- The attribute names, outermost first. -/
def segments (p : PropertyPath) : List String :=
  (splitDots p.dotted.toList).map String.ofList

def step (name : String) (r : Record) : Except QueryError Value :=
  match r.get? name with
  | some v => .ok v
  | none => .error (.unknownAttribute name r.type.name)

/-- Follows segments from a record. The last value is the result, and null ends the way early. -/
def follow : List String → Record → Except QueryError (Option Value)
  | [], _ => .ok none
  | name :: rest, r => do
    let v ← step name r
    if v.isNull then return none
    else match rest with
      | [] => return some v
      | next :: _ =>
        match v.toRecord? with
        | some inner => follow rest inner
        | none => throw (.notARecord next v.kind)

/-- The value at the path, or none where the path meets null. -/
def resolve (p : PropertyPath) (r : Record) : Except QueryError (Option Value) :=
  follow p.segments r

def debugText (p : PropertyPath) : String := "PropertyPath(" ++ Text.quoted p.dotted ++ ")"

end PropertyPath

end RecordQuery
