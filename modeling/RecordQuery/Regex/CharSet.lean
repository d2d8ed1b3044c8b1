import RecordQuery.Unicode.Folding
import RecordQuery.Unicode.Number
import RecordQuery.Unicode.WhiteSpace
import RecordQuery.Unicode.Word

/-!
# Sets of characters

The sets that a pattern can name. The named classes exist over Unicode and over ASCII, and a set
can be closed under change of letter case.
-/

namespace RecordQuery.Regex

/-- A set of characters, as ascending ranges of code points that lie apart. -/
abbrev CharSet := Unicode.Ranges

namespace CharSet

def singleton (c : Char) : CharSet := [(c.toNat, c.toNat)]

def isAscii (s : CharSet) : Bool := s.all (·.2 < 128)

/-- The only member of a set, if it has one member. -/
def single? : CharSet → Option Char
  | [(first, last)] => if first = last then some (Char.ofNat first) else none
  | _ => none

def complIf (negated : Bool) (s : CharSet) : CharSet :=
  if negated then Unicode.Ranges.compl s else s

def asciiFolding : List Unicode.Shift := [⟨⟨0x41, 0x5A, 1⟩, 32⟩]

/-- Closes a set under change of letter case where asked to, among all characters or ASCII. -/
def foldIf (insensitive unicode : Bool) (s : CharSet) : CharSet :=
  if insensitive then
    Unicode.Ranges.closeUnder (if unicode then Unicode.foldingShifts else asciiFolding) s
  else s

end CharSet

/-- The classes with a name between colons. -/
inductive Posix where
  | alnum | alpha | ascii | blank | cntrl | digit | graph | lower | print | punct | space | upper
  | word | xdigit
  deriving DecidableEq, Repr

def Posix.ofName? : String → Option Posix
  | "alnum" => some alnum
  | "alpha" => some alpha
  | "ascii" => some ascii
  | "blank" => some blank
  | "cntrl" => some cntrl
  | "digit" => some digit
  | "graph" => some graph
  | "lower" => some lower
  | "print" => some print
  | "punct" => some punct
  | "space" => some space
  | "upper" => some upper
  | "word" => some word
  | "xdigit" => some xdigit
  | _ => none

def Posix.chars : Posix → CharSet
  | alnum => [(0x30, 0x39), (0x41, 0x5A), (0x61, 0x7A)]
  | alpha => [(0x41, 0x5A), (0x61, 0x7A)]
  | ascii => [(0x00, 0x7F)]
  | blank => [(0x09, 0x09), (0x20, 0x20)]
  | cntrl => [(0x00, 0x1F), (0x7F, 0x7F)]
  | digit => [(0x30, 0x39)]
  | graph => [(0x21, 0x7E)]
  | lower => [(0x61, 0x7A)]
  | print => [(0x20, 0x7E)]
  | punct => [(0x21, 0x2F), (0x3A, 0x40), (0x5B, 0x60), (0x7B, 0x7E)]
  | space => [(0x09, 0x0D), (0x20, 0x20)]
  | upper => [(0x41, 0x5A)]
  | word => [(0x30, 0x39), (0x41, 0x5A), (0x5F, 0x5F), (0x61, 0x7A)]
  | xdigit => [(0x30, 0x39), (0x41, 0x46), (0x61, 0x66)]

/-- The classes with a one-letter name. -/
inductive Perl where
  | digit | space | word
  deriving DecidableEq, Repr

def Perl.chars (unicode : Bool) : Perl → CharSet
  | digit => if unicode then Unicode.decimalDigit else Posix.digit.chars
  | space => if unicode then Unicode.whiteSpace else Posix.space.chars
  | word => if unicode then Unicode.word else Posix.word.chars

inductive SetOperation where
  | intersection | difference | symmetricDifference
  deriving DecidableEq, Repr

def SetOperation.apply : SetOperation → CharSet → CharSet → CharSet
  | intersection, s, t => Unicode.Ranges.inter s t
  | difference, s, t => Unicode.Ranges.inter s (Unicode.Ranges.compl t)
  | symmetricDifference, s, t =>
    Unicode.Ranges.union (Unicode.Ranges.inter s (Unicode.Ranges.compl t))
      (Unicode.Ranges.inter t (Unicode.Ranges.compl s))

end RecordQuery.Regex
