import RecordQuery.Regex.Encoding
import RecordQuery.Regex.Outline
import Std.Data.TreeMap

/-!
# The size of machines

A pattern is laid out twice as a machine that reads bytes: one reads forward and remembers what
its groups matched, the other reads backward and does not. A state takes `stateSize` bytes, a
transition beyond the first of a state `transitionSize` more, a link of a choice `linkSize`. Counted
repetitions are laid out as copies, so a short pattern can have a large machine; `Outline.fits`
tells whether both stay within `sizeLimit`. No machine is built here, only its states are counted.
-/

namespace RecordQuery.Regex

def stateSize : Nat := 32

def transitionSize : Nat := 8

def linkSize : Nat := 4

/-- Ten mebibytes. -/
def sizeLimit : Nat := 10485760

inductive Direction where
  | forward | backward
  deriving DecidableEq, Repr

/-- The states laid out so far, and the bytes that they take beyond `stateSize` each. -/
structure Machine where
  states : Nat
  extra : Nat

namespace Machine

def size (m : Machine) : Nat := stateSize * m.states + m.extra

def grow (m : Machine) (states extra : Nat) : Machine := ⟨m.states + states, m.extra + extra⟩

/-- The machine, unless it is too large. -/
def bounded (m : Machine) : Option Machine := if m.size ≤ sizeLimit then some m else none

def times (layOut : Machine → Option Machine) : Nat → Machine → Option Machine
  | 0, m => some m
  | n + 1, m =>
    match layOut m with
    | none => none
    | some m => times layOut n m

end Machine

/-! ## Sets -/

/-- States remembered by what they lead to. The place of an entry is its key's hash; an entry is
forgotten when another one comes to its place. -/
structure Memo where
  capacity : Nat
  entries : Std.TreeMap Nat (List Nat × Nat)

namespace Memo

def hash (key : List Nat) : UInt64 :=
  key.foldl (fun h n => (h ^^^ n.toUInt64) * 1099511628211) 14695981039346656037

def place (t : Memo) (key : List Nat) : Nat := (hash key).toNat % t.capacity

def get? (t : Memo) (key : List Nat) : Option Nat :=
  match t.entries.get? (t.place key) with
  | some (known, state) => if known == key then some state else none
  | none => none

def put (t : Memo) (key : List Nat) (state : Nat) : Memo :=
  { t with entries := t.entries.insert (t.place key) (key, state) }

end Memo

/-- A machine under construction and the states of it that can be shared. -/
structure Sharing where
  machine : Machine
  memo : Memo

/-- The state that leads where the key says, laid out if none is remembered. -/
def Sharing.state (key : List Nat) (extra : Nat) (s : Sharing) : Nat × Sharing :=
  match s.memo.get? key with
  | some state => (state, s)
  | none =>
    let state := s.machine.states
    (state, ⟨s.machine.grow 1 extra, s.memo.put key state⟩)

/-- The state from which a machine reads the given byte sequences and then goes on at `target`.
Sequences stand in ascending order, so those with the same first byte range stand together. -/
def forwardState (target : Nat) : Nat → List (List ByteRange) → Sharing → Nat × Sharing
  | 0, _, s => (target, s)
  | fuel + 1, seqs, s =>
    if seqs.all List.isEmpty then (target, s)
    else
      let groups := seqs.splitBy fun a b => a.head? == b.head?
      let (key, s) := groups.foldl (fun (key, s) group =>
        match group with
        | (first :: _) :: _ =>
          let (next, s) := forwardState target fuel (group.map List.tail) s
          (key ++ [first.1, first.2, next], s)
        | _ => (key, s)) ([], s)
      s.state key (transitionSize * groups.length)

/-- Lays out the sequences as a machine with shared endings. No sequence is longer than four. -/
def layOutForward (seqs : List (List ByteRange)) (m : Machine) : Machine :=
  (forwardState m.states 5 seqs ⟨m.grow 1 0, ⟨10000, ∅⟩⟩).2.machine

/-- Lays out the sequences as a choice between their reversals, with shared beginnings. -/
def layOutBackward (seqs : List (List ByteRange)) (m : Machine) : Machine :=
  let target := m.states + 1
  (seqs.foldl (fun s seq =>
    let (_, s) := seq.foldl (fun (next, s) r => s.state [next, r.1, r.2] 0) (target, s)
    { s with machine := s.machine.grow 0 linkSize })
    (⟨m.grow 2 0, ⟨1000, ∅⟩⟩ : Sharing)).machine

/-- Lays out a set. One of ASCII characters is a single state, since each is a byte. -/
def CharSet.layOut (d : Direction) (s : CharSet) (m : Machine) : Machine :=
  if s.isAscii then m.grow 2 (transitionSize * s.length)
  else match d with
    | .forward => layOutForward (encodings s) m
    | .backward => layOutBackward (encodings s) m

/-! ## Choices between literals -/

/-- Words read byte by byte. Words that start alike share a branch, but a word that ends closes the
branches of those before it. -/
inductive Trie where
  /-- The number of words that end here, and for each branch the number of those that ended before
  it came up, its byte, and what follows. -/
  | node (ended : Nat) (branches : List (Nat × Nat × Trie))

namespace Trie

def insert : List Nat → Trie → Trie
  | [], node ended branches =>
    if branches.isEmpty && 0 < ended then node ended branches else node (ended + 1) branches
  | b :: word, node ended branches =>
    if branches.any fun (group, byte, _) => group == ended && byte == b then
      node ended (branches.map fun (group, byte, t) =>
        if group == ended && byte == b then (group, byte, insert word t) else (group, byte, t))
    else node ended (branches ++ [(ended, b, insert word (node 0 []))])

/-- The sizes of the groups of branches between which no word ends. -/
def groupSizes (branches : List (Nat × Nat × Trie)) : List Nat :=
  (branches.splitBy fun a b => a.1 == b.1).map List.length

mutual

/-- Lays out a trie. Each group of branches is a state, and a choice joins the groups. -/
def layOut : Trie → Machine → Machine
  | node ended branches, m =>
    if branches.isEmpty then m
    else
      let sizes := groupSizes branches
      layOutAll branches (m.grow (1 + sizes.length) (linkSize * (sizes.length + ended)
        + sizes.foldl (fun n k => if k = 1 then n else n + transitionSize * k) 0))

def layOutAll : List (Nat × Nat × Trie) → Machine → Machine
  | [], m => m
  | (_, _, t) :: rest, m => layOutAll rest (t.layOut m)

end

end Trie

def layOutWords (words : List (List Nat)) (m : Machine) : Machine :=
  (words.foldl (fun t word => Trie.insert word t) (Trie.node 0 [])).layOut (m.grow 1 0)

/-! ## Outlines -/

/-- The words of a choice between literals. -/
def Outline.words? (d : Direction) (branches : List Outline) : Option (List (List Nat)) :=
  branches.mapM fun o => match o with
    | .literal cs =>
      let bytes := cs.flatMap fun c => encode c.toNat
      some (if d = .forward then bytes else bytes.reverse)
    | _ => none

namespace Outline

mutual

/-- Lays out an outline together with the link that leads on from its end. -/
def layOut (d : Direction) : Outline → Machine → Option Machine
  | empty, m => (m.grow 1 0).bounded
  | literal cs, m => (m.grow (cs.foldl (fun n c => n + c.utf8Size) 0) 0).bounded
  | chars s, m => (s.layOut d m).bounded
  | look _, m => (m.grow 1 0).bounded
  | capture o, m =>
    match d with
    | .forward => do ((← o.layOut d (m.grow 1 0)).grow 1 0).bounded
    | .backward => o.layOut d m
  | repetition o min max _, m =>
    match min, max with
    | 0, some 1 => do ((← o.layOut d (m.grow 1 0)).grow 1 (2 * linkSize)).bounded
    | 0, none =>
      if o.traits.shortest.any (0 < ·) then do
        ((← o.layOut d (m.grow 1 0)).grow 0 (2 * linkSize)).bounded
      else do ((← o.layOut d m).grow 3 (4 * linkSize)).bounded
    | min, none => do ((← Machine.times (o.layOut d) min m).grow 1 (2 * linkSize)).bounded
    | min, some max => do
      let m ← if min = 0 then (m.grow 1 0).bounded else Machine.times (o.layOut d) min m
      if min = max then return m
      Machine.times (fun m => do ((← o.layOut d (m.grow 1 0)).grow 0 (2 * linkSize)).bounded)
        (max - min) (m.grow 1 0)
  | seq parts, m =>
    match d with
    | .forward => layOutForward parts m
    | .backward => layOutBackward parts m
  | alt branches, m =>
    match words? d branches with
    | some words => (layOutWords words m).bounded
    | none => layOutBranches d branches 0 m

def layOutForward : List Outline → Machine → Option Machine
  | [], m => some m
  | o :: rest, m => do layOutForward rest (← o.layOut .forward m)

def layOutBackward : List Outline → Machine → Option Machine
  | [], m => some m
  | o :: rest, m => do o.layOut .backward (← layOutBackward rest m)

/-- Lays out the branches of a choice; the choice itself comes after the first two. -/
def layOutBranches (d : Direction) : List Outline → Nat → Machine → Option Machine
  | [], _, m => some m
  | o :: rest, before, m => do
    let m ← o.layOut d m
    layOutBranches d rest (before + 1) (m.grow (if before = 1 then 2 else 0) linkSize)

end

/-- The states that let a search start anywhere; the one that binds it to the end of the text from
which it is read. -/
def start (bound : Bool) : Machine :=
  if bound then ⟨1, 0⟩ else ⟨3, transitionSize + 2 * linkSize⟩

/-- Lays out the whole search. The forward one also remembers where the match starts and ends. -/
def search (d : Direction) (o : Outline) : Option Machine :=
  match d with
  | .forward => do ((← o.layOut d ((start o.traits.atStart).grow 1 0)).grow 2 0).bounded
  | .backward => do ((← o.layOut d (start o.traits.atEnd)).grow 1 0).bounded

def fits (o : Outline) : Bool := (o.search .forward).isSome && (o.search .backward).isSome

end Outline

end RecordQuery.Regex
