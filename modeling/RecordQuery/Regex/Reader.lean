import RecordQuery.Regex.Bracket
import RecordQuery.Unicode.Letter

/-!
# Reading patterns

`Tree.parse` reads a text as a pattern. The groups still open are kept as a stack, so that each
round reads one part of the pattern and goes on with what follows it.
-/

namespace RecordQuery.Regex

/-- The flags that a group opens with, up to the colon or the parenthesis that ends them. -/
def readFlags (change : FlagChange) (on dangling : Bool) :
    List Char → Except SyntaxError (FlagChange × Char × List Char)
  | [] => .error .flagsUnclosed
  | c :: rest =>
    if c == ':' || c == ')' then
      if dangling then .error .flagDangling else .ok (change, c, rest)
    else if c == '-' then
      if on then readFlags change false true rest else .error .flagRepeated
    else match Flag.ofLetter? c with
      | none => .error .flagUnknown
      | some f =>
        if change.any (·.1 == f) then .error .flagRepeated
        else readFlags (change ++ [(f, on)]) on false rest

/-- What an opening parenthesis starts. -/
inductive Opening where
  | group (captures : Bool) (change : FlagChange)
  | named (name : List Char)
  | flags (change : FlagChange)

def isNameStart (c : Char) : Bool := c == '_' || Unicode.isAlphabetic c

def isNamePart (c : Char) : Bool :=
  c == '_' || c == '.' || c == '[' || c == ']' || Unicode.isAlphabetic c || Unicode.isNumeric c

/-- Reads the name of a group up to the closing angle bracket. -/
def readName (s : List Char) : Except SyntaxError (Opening × List Char) :=
  match s.takeWhile (· != '>'), s.dropWhile (· != '>') with
  | c :: name, _ :: rest =>
    if isNameStart c && name.all isNamePart then .ok (.named (c :: name), rest)
    else .error .groupName
  | _, _ => .error .groupName

def readOpening (ignore : Bool) (s : List Char) : Except SyntaxError (Opening × List Char) :=
  match skip ignore s with
  | '?' :: '=' :: _ | '?' :: '!' :: _ | '?' :: '<' :: '=' :: _ | '?' :: '<' :: '!' :: _ =>
    .error .lookAround
  | '?' :: 'P' :: '<' :: rest => readName rest
  | '?' :: '<' :: rest => readName rest
  | '?' :: rest => do
    let (change, close, rest) ← readFlags [] true false rest
    if close == ':' then return (.group false change, rest)
    else if change.isEmpty then throw .repetitionMissing
    else return (.flags change, rest)
  | s => .ok (.group true [], s)

/-- A number of at most 32 bits, with white space around it. -/
def readDecimal (ignore : Bool) (s : List Char) : Option Nat × List Char :=
  let s := s.dropWhile Unicode.isWhiteSpace
  let (digits, s) := readRun ignore Char.isDigit s.length false s
  let n := digits.foldl (fun n c => 10 * n + (c.toNat - '0'.toNat)) 0
  (if digits.isEmpty || UInt32.size ≤ n then none else some n, s.dropWhile Unicode.isWhiteSpace)

/-- Reads the bounds of a repetition, after the opening brace. -/
def readBounds (ignore : Bool) (s : List Char) :
    Except SyntaxError ((Nat × Option Nat) × List Char) := do
  let (min?, s) := readDecimal ignore (skip ignore s)
  let some min := min? | throw .repetitionCount
  let (max, s) ← match s with
    | ',' :: rest =>
      match skip ignore rest with
      | '}' :: rest => pure (none, '}' :: rest)
      | rest =>
        let (max?, rest) := readDecimal ignore rest
        let some max := max? | throw .repetitionCount
        pure (some max, rest)
    | s => pure (some min, s)
  match s with
  | '}' :: rest =>
    if max.all (min ≤ ·) then return ((min, max), skip ignore rest) else throw .repetitionReversed
  | _ => throw .repetitionUnclosed

/-- The branches and parts read so far inside one group, the last part first. -/
structure Level where
  branches : Option Tree
  parts : List Tree

namespace Level

def start : Level := ⟨none, []⟩

def add (l : Level) (t : Tree) : Level := { l with parts := t :: l.parts }

def branch (l : Level) : Tree :=
  match l.parts with
  | [] => .empty
  | last :: before => before.foldl (fun t part => .seq part t) last

def tree (l : Level) : Tree :=
  match l.branches with
  | none => l.branch
  | some branches => .alt branches l.branch

/-- Repeats the last part. Nothing, and a change of flags, cannot be repeated. -/
def repeatLast (l : Level) (min : Nat) (max : Option Nat) (greedy : Bool) :
    Except SyntaxError Level :=
  match l.parts with
  | [] | .flags _ :: _ => .error .repetitionMissing
  | last :: before => .ok { l with parts := .repetition last min max greedy :: before }

end Level

/-- A group that is still open, and what to go back to when it closes. -/
structure OpenGroup where
  captures : Bool
  change : FlagChange
  outside : Level
  ignoreOutside : Bool

structure ReaderState where
  level : Level
  ignore : Bool
  enclosing : List OpenGroup
  names : List (List Char)

namespace ReaderState

/-- Whether white space is ignored after a change of flags. -/
def ignoreAfter (st : ReaderState) (change : FlagChange) : Bool :=
  (({ ignoreWhitespace := st.ignore } : Flags).change change).ignoreWhitespace

def enter (st : ReaderState) (captures : Bool) (change : FlagChange) : ReaderState :=
  { st with level := .start, ignore := st.ignoreAfter change
            enclosing := ⟨captures, change, st.level, st.ignore⟩ :: st.enclosing }

def leave (st : ReaderState) : Except SyntaxError ReaderState :=
  match st.enclosing with
  | [] => .error .groupUnopened
  | g :: enclosing =>
    .ok { st with level := g.outside.add (.group g.captures g.change st.level.tree)
                  ignore := g.ignoreOutside, enclosing }

def add (st : ReaderState) (t : Tree) : ReaderState := { st with level := st.level.add t }

end ReaderState

def Primitive.tree : Primitive → Tree
  | literal c asByte => .literal c asByte
  | dot => .dot
  | perl p negated => .perl p negated
  | assertion a => .assertion a

/-- Repeats the last part, lazily if the mark for that follows. -/
def repetition (st : ReaderState) (min : Nat) (max : Option Nat) (rest : List Char) :
    Except SyntaxError (ReaderState × List Char) := do
  let (greedy, rest) := match rest with
    | '?' :: rest => (false, rest)
    | rest => (true, rest)
  return ({ st with level := ← st.level.repeatLast min max greedy }, rest)

/-- Reads one part of a pattern that starts with the visible character `c`. -/
def readPart (st : ReaderState) (c : Char) (rest : List Char) :
    Except SyntaxError (ReaderState × List Char) := do
  match c with
  | '(' =>
    match ← readOpening st.ignore rest with
    | (.flags change, rest) =>
      return ({ st.add (.flags change) with ignore := st.ignoreAfter change }, rest)
    | (.group captures change, rest) => return (st.enter captures change, rest)
    | (.named name, rest) =>
      if st.names.contains name then throw .groupName
      else return ({ st.enter true [] with names := name :: st.names }, rest)
  | ')' => return (← st.leave, rest)
  | '|' => return ({ st with level := ⟨some st.level.tree, []⟩ }, rest)
  | '[' =>
    let (t, rest) ← bracketed st.ignore rest
    return (st.add t, rest)
  | '?' => repetition st 0 (some 1) rest
  | '*' => repetition st 0 none rest
  | '+' => repetition st 1 none rest
  | '{' =>
    let ((min, max), rest) ← readBounds st.ignore rest
    repetition st min max rest
  | c =>
    let (p, rest) ← primitive st.ignore (c :: rest)
    return (st.add p.tree, rest)

/-- Reads the rest of a pattern. -/
def readParts : Nat → ReaderState → List Char → Except SyntaxError Tree
  | 0, _, _ => .error .groupUnclosed
  | fuel + 1, st, s => do
    match skip st.ignore s, st.enclosing with
    | [], [] => return st.level.tree
    | [], _ :: _ => throw .groupUnclosed
    | c :: rest, _ =>
      let (st, rest) ← readPart st c rest
      readParts fuel st rest

/-- Reads a text as a pattern. Each round reads a character, so the length of the text bounds
them. -/
def Tree.parse (ignoreWhitespace : Bool) (s : String) : Except SyntaxError Tree :=
  readParts (s.toList.length + 1) ⟨.start, ignoreWhitespace, [], []⟩ s.toList

end RecordQuery.Regex
