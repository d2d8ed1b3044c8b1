import RecordQuery.Regex.Tree

/-!
# Patterns

A pattern with all flags applied: which characters, which places, in which order.
-/

namespace RecordQuery.Regex

/-- A condition on a place in the text, told from the characters on either side of it. -/
inductive Look where
  | textStart | textEnd
  | lineStart (crlf : Bool)
  | lineEnd (crlf : Bool)
  | word (unicode : Bool) (a : Assertion)
  deriving DecidableEq, Repr

/-- Whether a condition holds between two characters, absent at the ends of the text. -/
def Look.holds (before after : Option Char) : Look → Bool
  | textStart => before.isNone
  | textEnd => after.isNone
  | lineStart false => before.all (· == '\n')
  | lineEnd false => after.all (· == '\n')
  | lineStart true =>
    before.all fun c => c == '\n' || c == '\r' && after != some '\n'
  | lineEnd true =>
    after.all fun c => c == '\r' || c == '\n' && before != some '\r'
  | word unicode a =>
    let left := before.any (Perl.word.chars unicode).contains
    let right := after.any (Perl.word.chars unicode).contains
    match a with
    | .wordBoundary => left != right
    | .notWordBoundary => left == right
    | .wordStart => !left && right
    | .wordEnd => left && !right
    | .wordStartHalf => !left
    | .wordEndHalf => !right
    | _ => false

inductive Pattern where
  | empty
  | chars (s : CharSet)
  | look (l : Look)
  | seq (p q : Pattern)
  | alt (p q : Pattern)
  | repetition (p : Pattern) (min : Nat) (max : Option Nat) (greedy : Bool)
  | group (captures : Bool) (p : Pattern)

namespace Pattern

/-- A repetition, as one with what it repeats where that is a repetition and one says the same. -/
def repeated (p : Pattern) (min : Nat) (max : Option Nat) (greedy : Bool) : Pattern :=
  match p with
  | repetition q inner none _ =>
    if max ≠ some 0 ∧ (inner ≤ 1 ∨ 1 ≤ min) then repetition q (min * inner) none greedy
    else repetition p min max greedy
  | repetition q 0 (some 1) _ => repetition q 0 max greedy
  | p => repetition p min max greedy

/-- The pattern without its groups, and with repetitions of repetitions made one. It matches the
same texts. -/
def flatten : Pattern → Pattern
  | seq p q => seq p.flatten q.flatten
  | alt p q => alt p.flatten q.flatten
  | repetition p min max greedy => p.flatten.repeated min max greedy
  | group _ p => p.flatten
  | p => p

end Pattern

/-- Outside Unicode a set may hold ASCII characters only, since others are no single bytes. -/
def Flags.allow (f : Flags) (s : CharSet) : Except SyntaxError CharSet :=
  if f.unicode || s.isAscii then .ok s else .error .outsideUnicode

def Flags.fold (f : Flags) (s : CharSet) : CharSet := s.foldIf f.caseInsensitive f.unicode

/-- The set that a bracketed class names. Each bracket is closed under change of case before it is
negated, and so are the operands of a set operation. -/
def ClassSet.chars (f : Flags) : ClassSet → Except SyntaxError CharSet
  | empty => .ok []
  | range first last => f.allow [(first.toNat, last.toNat)]
  | perl p negated => f.allow ((p.chars f.unicode).complIf negated)
  | posix p negated => f.allow ((f.fold p.chars).complIf negated)
  | union a b => do return Unicode.Ranges.union (← b.chars f) (← a.chars f)
  | operation op a b => do return op.apply (f.fold (← a.chars f)) (f.fold (← b.chars f))
  | bracketed negated a => do f.allow ((f.fold (← a.chars f)).complIf negated)

/-- The characters that the dot leaves out. -/
def Flags.lineBreaks (f : Flags) : CharSet :=
  if f.dotMatchesNewLine then []
  else if f.crlf then [(0x0A, 0x0A), (0x0D, 0x0D)]
  else [(0x0A, 0x0A)]

def Flags.look (f : Flags) : Assertion → Look
  | .textStart => .textStart
  | .textEnd => .textEnd
  | .lineStart => if f.multiLine then .lineStart f.crlf else .textStart
  | .lineEnd => if f.multiLine then .lineEnd f.crlf else .textEnd
  | a => .word f.unicode a

/-- Applies the flags in force to a tree, and gives those in force after it. -/
def Tree.compile (f : Flags) : Tree → Except SyntaxError (Pattern × Flags)
  | empty => .ok (.empty, f)
  | literal c asByte =>
    if asByte && !f.unicode && 128 ≤ c.toNat then .error .outsideUnicode
    else .ok (.chars (f.fold (.singleton c)), f)
  | dot => do return (.chars (← f.allow (Unicode.Ranges.compl f.lineBreaks)), f)
  | perl p negated => do return (.chars (← f.allow ((p.chars f.unicode).complIf negated)), f)
  | bracketed negated a => do return (.chars (← (ClassSet.bracketed negated a).chars f), f)
  | assertion a => .ok (.look (f.look a), f)
  | repetition t min max greedy => do
    let (p, f) ← t.compile f
    return (.repetition p min max (greedy != f.swapGreed), f)
  | group captures change t => do
    let (p, _) ← t.compile (f.change change)
    return (.group captures p, f)
  | flags change => .ok (.empty, f.change change)
  | seq a b => do
    let (p, f) ← a.compile f
    let (q, f) ← b.compile f
    return (.seq p q, f)
  | alt a b => do
    let (p, f) ← a.compile f
    let (q, f) ← b.compile f
    return (.alt p q, f)

end RecordQuery.Regex
