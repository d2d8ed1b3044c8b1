import RecordQuery.Regex.Layout
import RecordQuery.Regex.Tree

/-!
# Escapes

What a backslash and the characters after it stand for.
-/

namespace RecordQuery.Regex

/-- A part of a pattern that is written without brackets or parentheses. -/
inductive Primitive where
  /-- A character, and whether it is written as a byte, in two hexadecimal digits. -/
  | literal (c : Char) (asByte : Bool)
  | dot
  | perl (p : Perl) (negated : Bool)
  | assertion (a : Assertion)

/-- The characters with a meaning of their own in patterns. -/
def isMeta (c : Char) : Bool := "\\.+*?()|[]\x7b\x7d^$#&-~".toList.contains c

/-- The characters that stand for themselves behind a backslash. -/
def isEscapable (c : Char) : Bool :=
  isMeta c || c.toNat < 128 && !c.isAlphanum && c != '<' && c != '>'

def hexDigit? (c : Char) : Option Nat :=
  if c.isDigit then some (c.toNat - '0'.toNat)
  else if 'a' ≤ c && c ≤ 'f' then some (c.toNat - 'a'.toNat + 10)
  else if 'A' ≤ c && c ≤ 'F' then some (c.toNat - 'A'.toNat + 10)
  else none

def charOfHex (digits : List Char) : Except SyntaxError Char :=
  let n := digits.foldl (fun n c => 16 * n + (hexDigit? c).getD 0) 0
  if n.isValidChar then .ok (Char.ofNat n) else .error .escapeHex

/-- Reads a code point in hexadecimal, in braces or with a fixed number of digits. -/
def hexEscape (ignore : Bool) (count : Nat) (s : List Char) :
    Except SyntaxError (Char × List Char) := do
  let isHex := fun c => (hexDigit? c).isSome
  match skip ignore s with
  | [] => throw .escapeUnfinished
  | '{' :: rest =>
    match readRun ignore isHex rest.length false rest with
    | ([], _) => throw .escapeHex
    | (run, '}' :: rest) => return (← charOfHex run, skip ignore rest)
    | _ => throw .escapeHex
  | s =>
    let (run, rest) := readRun ignore isHex count false s
    if run.length == count then return (← charOfHex run, rest) else throw .escapeHex

/-- Reads what may follow the name of the word boundary: a word in braces that narrows it. Braces
that do not start with a letter are left for a repetition. -/
def boundaryKind (ignore : Bool) (s : List Char) :
    Except SyntaxError (Assertion × List Char) :=
  match s with
  | '{' :: rest =>
    match skip ignore rest with
    | [] => .error .wordBoundary
    | visible =>
      match readRun ignore (fun c => c.isAlpha || c == '-') visible.length false visible with
        | ([], _) => .ok (.wordBoundary, s)
        | (word, '}' :: rest) =>
          match String.ofList word with
          | "start" => .ok (.wordStart, rest)
          | "end" => .ok (.wordEnd, rest)
          | "start-half" => .ok (.wordStartHalf, rest)
          | "end-half" => .ok (.wordEndHalf, rest)
          | _ => .error .wordBoundary
        | _ => .error .wordBoundary
  | _ => .ok (.wordBoundary, s)

def escape (ignore : Bool) : List Char → Except SyntaxError (Primitive × List Char)
  | [] => .error .escapeUnfinished
  | c :: rest =>
    match c with
    | 'x' =>
      let asByte := (skip ignore rest).head? != some '\x7b'
      (hexEscape ignore 2 rest).map fun r => (.literal r.1 asByte, r.2)
    | 'u' => (hexEscape ignore 4 rest).map fun r => (.literal r.1 false, r.2)
    | 'U' => (hexEscape ignore 8 rest).map fun r => (.literal r.1 false, r.2)
    | 'p' | 'P' => .error .propertyClass
    | 'd' => .ok (.perl .digit false, rest)
    | 'D' => .ok (.perl .digit true, rest)
    | 's' => .ok (.perl .space false, rest)
    | 'S' => .ok (.perl .space true, rest)
    | 'w' => .ok (.perl .word false, rest)
    | 'W' => .ok (.perl .word true, rest)
    | 'a' => .ok (.literal '\x07' false, rest)
    | 'f' => .ok (.literal '\x0c' false, rest)
    | 't' => .ok (.literal '\t' false, rest)
    | 'n' => .ok (.literal '\n' false, rest)
    | 'r' => .ok (.literal '\r' false, rest)
    | 'v' => .ok (.literal '\x0b' false, rest)
    | 'A' => .ok (.assertion .textStart, rest)
    | 'z' => .ok (.assertion .textEnd, rest)
    | 'b' => (boundaryKind ignore rest).map fun r => (.assertion r.1, r.2)
    | 'B' => .ok (.assertion .notWordBoundary, rest)
    | '<' => .ok (.assertion .wordStart, rest)
    | '>' => .ok (.assertion .wordEnd, rest)
    | c =>
      if c.isDigit then .error .backReference
      else if isEscapable c then .ok (.literal c false, rest)
      else .error .escapeUnknown

/-- Reads a part of a pattern that starts with none of the brackets and operators. -/
def primitive (ignore : Bool) : List Char → Except SyntaxError (Primitive × List Char)
  | [] => .error .escapeUnfinished
  | c :: rest =>
    match c with
    | '\\' => escape ignore rest
    | '.' => .ok (.dot, rest)
    | '^' => .ok (.assertion .lineStart, rest)
    | '$' => .ok (.assertion .lineEnd, rest)
    | c => .ok (.literal c false, rest)

end RecordQuery.Regex
