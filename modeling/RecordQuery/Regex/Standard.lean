import RecordQuery.Regex.Machine
import RecordQuery.Regex.Match
import RecordQuery.Regex.Reader

/-!
# The standard library of regular expressions

The library that engines run with where no other one is given. It knows no classes by Unicode
properties, such as those of scripts.
-/

namespace RecordQuery.Regex

namespace Standard

def nestLimit : Nat := 250

/-- Reads a text as a regular expression. -/
def compile (f : Flags) (source : String) : Except SyntaxError Regex := do
  let tree ← Tree.parse f.ignoreWhitespace source
  if nestLimit < tree.depth none then throw .nestingTooDeep
  let (pattern, _) ← tree.compile f
  if !pattern.outline.fits then throw .machineTooLarge
  let flat := pattern.flatten
  return ⟨source, fun text => flat.occursIn text.toList⟩

end Standard

instance : Library := ⟨Standard.compile⟩

end RecordQuery.Regex
