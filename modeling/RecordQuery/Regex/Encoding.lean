import RecordQuery.Regex.CharSet

/-!
# Encoded sets

A set of characters as the byte sequences that encode its members. Ranges are cut so that in each
piece the bytes vary independently: the piece is then the product of one byte range per position.
-/

namespace RecordQuery.Regex

abbrev ByteRange := Nat × Nat

/-- The bytes that encode the character with a code point. -/
def encode (n : Nat) : List Nat := (String.utf8EncodeChar (Char.ofNat n)).map (·.toNat)

/-- The code points that are encoded with one, two, three and four bytes, and the numbers of code
points that share all bytes but the last one, two and three. The gap among those with three bytes
holds no characters. -/
def encodingBlocks : List ((Nat × Nat) × List Nat) :=
  [((0x00, 0x7F), []), ((0x80, 0x7FF), [0x40]), ((0x800, 0xD7FF), [0x40, 0x1000]),
   ((0xE000, 0xFFFF), [0x40, 0x1000]), ((0x10000, 0x10FFFF), [0x40, 0x1000, 0x40000])]

/-- Cuts a range into pieces that each begin and end on multiples of a step, or lie between two of
them; the steps ascend. -/
def cut : List Nat → Nat → Nat → Unicode.Ranges
  | [], first, last => [(first, last)]
  | step :: steps, first, last =>
    if first / step = last / step then [(first, last)]
    else
      let low := (first + step - 1) / step * step
      let high := (last + 1) / step * step
      (if first < low then [(first, low - 1)] else [])
        ++ (if low < high then cut steps low (high - 1) else [])
        ++ (if high ≤ last then [(high, last)] else [])

/-- The byte sequences that encode the members of a set, in ascending order. -/
def encodings (s : CharSet) : List (List ByteRange) :=
  s.flatMap fun r => encodingBlocks.flatMap fun (block, steps) =>
    let first := max r.1 block.1
    let last := min r.2 block.2
    if last < first then []
    else (cut steps first last).map fun piece => (encode piece.1).zip (encode piece.2)

end RecordQuery.Regex
