import RecordQuery.Regex.Pattern

/-!
# Outlines of patterns

A pattern in the form in which it is laid out as a machine: neighbouring characters are joined,
choices between characters are sets, choices that start alike share their start, and what can only
match the empty text is repeated at most once.
-/

namespace RecordQuery.Regex

inductive Outline where
  | empty
  | literal (cs : List Char)
  | chars (s : CharSet)
  | look (l : Look)
  | repetition (o : Outline) (min : Nat) (max : Option Nat) (greedy : Bool)
  | capture (o : Outline)
  | seq (parts : List Outline)
  | alt (branches : List Outline)

/-- What can be told of all matches. -/
structure Traits where
  /-- The number of characters in the shortest, if each part can match at all. -/
  shortest : Option Nat
  onlyEmpty : Bool
  atStart : Bool
  atEnd : Bool

namespace Traits

def empty : Traits := ⟨some 0, true, false, false⟩

def ofSet (s : CharSet) : Traits := ⟨if s.isEmpty then none else some 1, false, false, false⟩

def seq (a b : Traits) : Traits :=
  { shortest := do return (← a.shortest) + (← b.shortest)
    onlyEmpty := a.onlyEmpty && b.onlyEmpty
    atStart := a.atStart || a.onlyEmpty && b.atStart
    atEnd := b.atEnd || b.onlyEmpty && a.atEnd }

def alt (a b : Traits) : Traits :=
  { shortest := do return min (← a.shortest) (← b.shortest)
    onlyEmpty := a.onlyEmpty && b.onlyEmpty
    atStart := a.atStart && b.atStart
    atEnd := a.atEnd && b.atEnd }

def repetition (a : Traits) (min : Nat) (max : Option Nat) : Traits :=
  { shortest := a.shortest.map (min * ·)
    onlyEmpty := a.onlyEmpty && max.isSome
    atStart := 0 < min && a.atStart
    atEnd := 0 < min && a.atEnd }

end Traits

namespace Outline

mutual

def traits : Outline → Traits
  | empty => .empty
  | literal cs => ⟨some cs.length, false, false, false⟩
  | chars s => .ofSet s
  | look l => ⟨some 0, true, l == .textStart, l == .textEnd⟩
  | repetition o min max _ => o.traits.repetition min max
  | capture o => o.traits
  | seq parts => (traitsOf parts).foldl Traits.seq .empty
  | alt branches =>
    match traitsOf branches with
    | [] => .ofSet []
    | t :: rest => rest.foldl Traits.alt t

def traitsOf : List Outline → List Traits
  | [] => []
  | o :: rest => o.traits :: traitsOf rest

end

mutual

/-- Whether two outlines are the same. A capture is the same as no other. -/
def same : Outline → Outline → Bool
  | empty, empty => true
  | literal a, literal b => a == b
  | chars s, chars t => s == t
  | look l, look m => l == m
  | repetition o a b g, repetition p c d h => a == c && b == d && g == h && o.same p
  | seq os, seq ps => sameAll os ps
  | alt os, alt ps => sameAll os ps
  | _, _ => false

def sameAll : List Outline → List Outline → Bool
  | [], [] => true
  | o :: os, p :: ps => o.same p && sameAll os ps
  | _, _ => false

end

def ofSet (s : CharSet) : Outline :=
  match s.single? with
  | some c => literal [c]
  | none => chars s

def repeated (o : Outline) (min : Nat) (max : Option Nat) (greedy : Bool) : Outline :=
  let (min, max) := if o.traits.onlyEmpty then (Nat.min min 1, some (Nat.min (max.getD 1) 1))
    else (min, max)
  if max = some 0 then empty
  else if min = 1 ∧ max = some 1 then o
  else repetition o min max greedy

def parts : Outline → List Outline
  | empty => []
  | seq parts => parts
  | o => [o]

/-- One list of parts after another, with literals joined where they meet. -/
def joinParts : List Outline → List Outline → List Outline
  | [], ps => ps
  | [literal a], literal b :: ps => literal (a ++ b) :: ps
  | o :: os, ps => o :: joinParts os ps

def ofParts : List Outline → Outline
  | [] => empty
  | [o] => o
  | os => seq os

def followedBy (o p : Outline) : Outline := ofParts (joinParts o.parts p.parts)

def single? : Outline → Option CharSet
  | literal [c] => some (.singleton c)
  | _ => none

def set? : Outline → Option CharSet
  | chars s => some s
  | _ => none

/-- The branches of a choice, of which there are at least two, as one set if all are single
characters or all are sets. -/
def united (branches : List Outline) : Outline :=
  let flat := branches.flatMap fun o => match o with
    | alt os => os
    | o => [o]
  match flat.mapM single? <|> flat.mapM set? with
  | some sets => ofSet (sets.foldl (fun s t => Unicode.Ranges.union t s) [])
  | none => alt flat

/-- The number of parts that two sequences start with in common. -/
def commonParts : List Outline → List Outline → Nat
  | o :: os, p :: ps => if o.same p then commonParts os ps + 1 else 0
  | _, _ => 0

/-- A choice between sequences that start alike, as their common start and a choice between what
follows it. What follows has no common start. -/
def factored : List (List Outline) → Option Outline
  | [] => none
  | first :: rest =>
    let common := rest.foldl (fun n os => min n (commonParts first os)) first.length
    if common = 0 then none
    else
      let others := united ((first :: rest).map fun os => ofParts (os.drop common))
      some (ofParts (joinParts (first.take common) others.parts))

def seq? : Outline → Option (List Outline)
  | seq os => some os
  | _ => none

def oneOf : List Outline → Outline
  | [o] => o
  | branches =>
    match united branches with
    | alt os => ((os.mapM seq?).bind factored).getD (alt os)
    | o => o

end Outline

/-- The outlines of the branches of a pattern. -/
def Pattern.outlines : Pattern → List Outline
  | empty => [.empty]
  | chars s => [.ofSet s]
  | look l => [.look l]
  | seq p q => [(Outline.oneOf p.outlines).followedBy (Outline.oneOf q.outlines)]
  | alt p q => p.outlines ++ [Outline.oneOf q.outlines]
  | repetition p min max greedy => [(Outline.oneOf p.outlines).repeated min max greedy]
  | group captures p =>
    let o := Outline.oneOf p.outlines
    [if captures then .capture o else o]

def Pattern.outline (p : Pattern) : Outline := .oneOf p.outlines

end RecordQuery.Regex
