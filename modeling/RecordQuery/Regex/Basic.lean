/-!
# Regular expressions

A library of regular expressions compiles texts under flags. What comes of it is known by the text
that it was made from and by the texts in which it is found. The text does not tell the flags.
-/

namespace RecordQuery

namespace Regex

inductive SyntaxError where
  | groupUnclosed | groupUnopened | lookAround | groupName
  | flagUnknown | flagRepeated | flagDangling | flagsUnclosed
  | repetitionMissing | repetitionUnclosed | repetitionCount | repetitionReversed
  | escapeUnfinished | escapeUnknown | escapeHex | backReference | propertyClass
  | wordBoundary
  | classUnclosed | classRange | classEscape
  | outsideUnicode
  | nestingTooDeep | machineTooLarge
  deriving DecidableEq, Repr

/-- A way of reading a pattern that can be switched on and off inside it. -/
inductive Flag where
  | caseInsensitive | multiLine | dotMatchesNewLine | swapGreed | unicode | crlf | ignoreWhitespace
  deriving DecidableEq, Repr

/-- The flags in force at one place of a pattern. -/
structure Flags where
  caseInsensitive : Bool := false
  multiLine : Bool := false
  dotMatchesNewLine : Bool := false
  swapGreed : Bool := false
  unicode : Bool := true
  crlf : Bool := false
  ignoreWhitespace : Bool := false
  deriving DecidableEq, Repr

def Flags.set (f : Flags) (on : Bool) : Flag → Flags
  | .caseInsensitive => { f with caseInsensitive := on }
  | .multiLine => { f with multiLine := on }
  | .dotMatchesNewLine => { f with dotMatchesNewLine := on }
  | .swapGreed => { f with swapGreed := on }
  | .unicode => { f with unicode := on }
  | .crlf => { f with crlf := on }
  | .ignoreWhitespace => { f with ignoreWhitespace := on }

end Regex

/-- A compiled expression: its text, and whether it matches somewhere in another text. -/
structure Regex where
  source : String
  isMatch : String → Bool

/-- A library of regular expressions. -/
class Regex.Library where
  compile : Regex.Flags → String → Except Regex.SyntaxError Regex

namespace Regex

export Library (compile)

end Regex

end RecordQuery
