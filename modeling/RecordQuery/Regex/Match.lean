import RecordQuery.Regex.Pattern

/-!
# Matching

A set of places in a text is a number whose bit `i` stands for the place before character `i`. A
pattern takes the places where a match may start to the places where it may end.
-/

namespace RecordQuery.Regex

/-- The number whose bits, lowest first, are the given ones. -/
def ofBits : List Bool → Nat
  | [] => 0
  | b :: rest => b.toNat + 2 * ofBits rest

def charPlaces (s : CharSet) (text : List Char) : Nat := ofBits (text.map s.contains)

/-- For each place, whether the condition holds there. -/
def lookBits (l : Look) (before : Option Char) : List Char → List Bool
  | [] => [l.holds before none]
  | c :: rest => l.holds before (some c) :: lookBits l (some c) rest

def lookPlaces (l : Look) (text : List Char) : Nat := ofBits (lookBits l none text)

/-- Applies `f` up to `n` times, and stops where it changes nothing. -/
def iterate (f : Nat → Nat) : Nat → Nat → Nat
  | 0, places => places
  | n + 1, places =>
    let next := f places
    if next == places then places else iterate f n next

/-- `iterate` stops early only where going on would change nothing. -/
theorem iterate_eq_repeat (f : Nat → Nat) (n places : Nat) :
    iterate f n places = n.repeat f places := by
  induction n generalizing places with
  | zero => rfl
  | succ n ih =>
    have swap : ∀ m s, Nat.repeat f m (f s) = Nat.repeat f (m + 1) s := by
      intro m s
      induction m with
      | zero => rfl
      | succ m ihm => simp only [Nat.repeat] at ihm ⊢; rw [ihm]
    simp only [iterate, beq_iff_eq]
    split
    · rename_i h
      have fixed : ∀ m, Nat.repeat f m places = places := by
        intro m
        induction m with
        | zero => rfl
        | succ m ihm => simp only [Nat.repeat, ihm, h]
      rw [fixed]
    · rw [ih, swap]

/-- The places reached from `fresh` by up to `n` steps of `f`, together with `seen`. Each step goes
on from the places that the one before it was the first to reach. -/
def reach (f : Nat → Nat) : Nat → Nat → Nat → Nat
  | 0, seen, _ => seen
  | n + 1, seen, fresh =>
    if fresh == 0 then seen
    else
      let next := f fresh
      reach f n (seen ||| next) (next ^^^ (next &&& seen))

/-- The places where a match may end that starts at one of the given places. In a text of `n`
characters, `n + 1` rounds of an unbounded repetition reach all they can. -/
def Pattern.ends (text : List Char) : Pattern → Nat → Nat
  | empty, places => places
  | chars s, places => if places == 0 then 0 else (places &&& charPlaces s text) <<< 1
  | look l, places => if places == 0 then 0 else places &&& lookPlaces l text
  | seq p q, places => q.ends text (p.ends text places)
  | alt p q, places => p.ends text places ||| q.ends text places
  | repetition p min max _, places =>
    let first := iterate (p.ends text) min places
    let rounds := match max with
      | some max => max - min
      | none => text.length + 1
    reach (p.ends text) rounds first first
  | group _ p, places => p.ends text places

def allPlaces (text : List Char) : Nat := (1 <<< (text.length + 1)) - 1

/-- Whether a match starts and ends somewhere in the text. -/
def Pattern.occursIn (p : Pattern) (text : List Char) : Bool :=
  p.ends text (allPlaces text) != 0

end RecordQuery.Regex
