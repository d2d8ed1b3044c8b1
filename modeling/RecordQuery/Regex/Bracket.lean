import RecordQuery.Regex.Escape

/-!
# Bracketed classes

Classes nest, so the brackets still open are kept as a stack of frames. Within a bracket, items
that stand side by side are united, and a set operation takes all that stands before it as its
left operand.
-/

namespace RecordQuery.Regex

/-- An open bracket: the items since the last operation, and that operation with what it follows. -/
structure ClassFrame where
  negated : Bool
  pending : Option (ClassSet × SetOperation)
  items : ClassSet

namespace ClassFrame

def add (f : ClassFrame) (item : ClassSet) : ClassFrame :=
  { f with items := match f.items with
      | .empty => item
      | items => .union items item }

def contents (f : ClassFrame) : ClassSet :=
  match f.pending with
  | none => f.items
  | some (left, op) => .operation op left f.items

def operate (f : ClassFrame) (op : SetOperation) : ClassFrame :=
  { f with pending := some (f.contents, op), items := .empty }

end ClassFrame

/-- Refuses the end of the pattern inside a class. -/
def insideClass : List Char → Except SyntaxError (List Char)
  | [] => .error .classUnclosed
  | s => .ok s

/-- Reads what follows an opening bracket up to the first ordinary item: a negation, hyphens, and a
closing bracket that stands for itself because nothing comes before it. -/
def openClass (ignore : Bool) (s : List Char) : Except SyntaxError (ClassFrame × List Char) := do
  let s ← insideClass (skip ignore s)
  let (negated, s) ← match s with
    | '^' :: rest => do pure (true, ← insideClass (skip ignore rest))
    | s => pure (false, s)
  let (hyphens, s) := readRun ignore (· == '-') s.length false s
  let frame := hyphens.foldl (fun f c => f.add (.range c c)) (ClassFrame.mk negated none .empty)
  match ← insideClass s, hyphens with
  | ']' :: rest, [] => return (frame.add (.range ']' ']'), ← insideClass (skip ignore rest))
  | s, _ => return (frame, s)

/-- Reads a class with a name between colons, after the opening bracket. -/
def posixClass? : List Char → Option (ClassSet × List Char)
  | ':' :: s =>
    let (negated, s) := match s with
      | '^' :: rest => (true, rest)
      | s => (false, s)
    match s.dropWhile (· != ':') with
    | ':' :: ']' :: rest =>
      (Posix.ofName? (String.ofList (s.takeWhile (· != ':')))).map fun p => (.posix p negated, rest)
    | _ => none
  | _ => none

/-- Reads one item of a class, or one end of a range. -/
def classItem (ignore : Bool) : List Char → Except SyntaxError (Primitive × List Char)
  | [] => .error .classUnclosed
  | '\\' :: rest => escape ignore rest
  | c :: rest => .ok (.literal c false, rest)

/-- Reads an item of a class, or a range. -/
def classRange (ignore : Bool) (s : List Char) : Except SyntaxError (ClassSet × List Char) := do
  let (first, s) ← classItem ignore s
  let s ← insideClass (skip ignore s)
  let next := peekPast ignore s
  if s.head? != some '-' || next == some ']' || next == some '-' then
    match first with
    | .literal c _ => return (.range c c, s)
    | .perl p negated => return (.perl p negated, s)
    | _ => throw .classEscape
  else
    let (last, s) ← classItem ignore (← insideClass (skip ignore s.tail))
    match first, last with
    | .literal a _, .literal b _ => if a ≤ b then return (.range a b, s) else throw .classRange
    | _, _ => throw .classRange

/-- Reads up to the bracket that closes the outermost frame. -/
def classFrom (ignore : Bool) : Nat → ClassFrame → List ClassFrame → List Char →
    Except SyntaxError (Tree × List Char)
  | 0, _, _, _ => .error .classUnclosed
  | fuel + 1, frame, outer, s => do
    match skip ignore s with
    | [] => throw .classUnclosed
    | '[' :: rest =>
      match posixClass? rest with
      | some (item, rest) => classFrom ignore fuel (frame.add item) outer rest
      | none =>
        let (inner, rest) ← openClass ignore rest
        classFrom ignore fuel inner (frame :: outer) rest
    | ']' :: rest =>
      match outer with
      | [] => return (.bracketed frame.negated frame.contents, rest)
      | next :: outer =>
        classFrom ignore fuel (next.add (.bracketed frame.negated frame.contents)) outer rest
    | '&' :: '&' :: rest => classFrom ignore fuel (frame.operate .intersection) outer rest
    | '-' :: '-' :: rest => classFrom ignore fuel (frame.operate .difference) outer rest
    | '~' :: '~' :: rest => classFrom ignore fuel (frame.operate .symmetricDifference) outer rest
    | s =>
      let (item, rest) ← classRange ignore s
      classFrom ignore fuel (frame.add item) outer rest

/-- Reads a class, after its opening bracket. Each round reads a character, so the length of the
text bounds them. -/
def bracketed (ignore : Bool) (s : List Char) : Except SyntaxError (Tree × List Char) := do
  let (frame, s) ← openClass ignore s
  classFrom ignore (s.length + 1) frame [] s

end RecordQuery.Regex
