import RecordQuery.Regex.Basic
import RecordQuery.Regex.CharSet

/-!
# Syntax trees of patterns

What a pattern says, before the flags in force at each place are applied to it.
-/

namespace RecordQuery.Regex

def Flag.ofLetter? : Char → Option Flag
  | 'i' => some caseInsensitive
  | 'm' => some multiLine
  | 's' => some dotMatchesNewLine
  | 'U' => some swapGreed
  | 'u' => some unicode
  | 'R' => some crlf
  | 'x' => some ignoreWhitespace
  | _ => none

abbrev FlagChange := List (Flag × Bool)

def Flags.change (f : Flags) (change : FlagChange) : Flags :=
  change.foldl (fun f c => f.set c.2 c.1) f

/-- The assertions a pattern can make about a place in the text. -/
inductive Assertion where
  | lineStart | lineEnd | textStart | textEnd
  | wordBoundary | notWordBoundary | wordStart | wordEnd | wordStartHalf | wordEndHalf
  deriving DecidableEq, Repr

/-- The contents of a bracketed class. -/
inductive ClassSet where
  | empty
  | range (first last : Char)
  | perl (p : Perl) (negated : Bool)
  | posix (p : Posix) (negated : Bool)
  | union (a b : ClassSet)
  | operation (op : SetOperation) (a b : ClassSet)
  | bracketed (negated : Bool) (a : ClassSet)

inductive Tree where
  | empty
  /-- A character, and whether it is written as a byte, in two hexadecimal digits. -/
  | literal (c : Char) (asByte : Bool)
  | dot
  | perl (p : Perl) (negated : Bool)
  | bracketed (negated : Bool) (a : ClassSet)
  | assertion (a : Assertion)
  | repetition (t : Tree) (min : Nat) (max : Option Nat) (greedy : Bool)
  /-- A group; its flags hold inside, and no change made inside survives it. -/
  | group (captures : Bool) (change : FlagChange) (t : Tree)
  /-- A change of flags for the rest of the enclosing group. -/
  | flags (change : FlagChange)
  | seq (a b : Tree)
  | alt (a b : Tree)

/-- How deep a class nests. Items side by side are one level, however many they are; the flag
tells that this level is open. -/
def ClassSet.depth : ClassSet → Bool → Nat
  | union a b, united => (if united then 0 else 1) + max (a.depth true) (b.depth false)
  | operation _ a b, _ => 1 + max (a.depth false) (b.depth false)
  | bracketed _ a, _ => 1 + a.depth false
  | _, _ => 0

/-- The two ways of putting patterns side by side. -/
inductive Join where
  | seq | alt
  deriving DecidableEq, Repr

/-- How deep a pattern nests. Parts side by side are one level, however many they are; `outer`
tells which such level is open. -/
def Tree.depth : Tree → Option Join → Nat
  | bracketed _ a, _ => 1 + a.depth false
  | repetition t _ _ _, _ => 1 + t.depth none
  | group _ _ t, _ => 1 + t.depth none
  | seq a b, outer =>
    (if outer = some .seq then 0 else 1) + max (a.depth none) (b.depth (some .seq))
  | alt a b, outer =>
    (if outer = some .alt then 0 else 1) + max (a.depth (some .alt)) (b.depth none)
  | _, _ => 0

end RecordQuery.Regex
