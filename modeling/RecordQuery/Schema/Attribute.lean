import RecordQuery.Unicode.Casing

/-!
# Names of attributes and of their constants

An attribute takes its name from its field or from a rename, and a constant of its own from its
name: `createdAt` and `created-at` both give `CREATED_AT`.
-/

namespace RecordQuery

namespace AttributeName

/-- Whether a rename is well formed: ASCII letters, digits, underscores and hyphens, the first no
digit and no hyphen, and not underscores and hyphens alone. -/
def isRename (name : String) : Bool :=
  match name.toList with
  | [] => false
  | c :: rest =>
    (c.isAlpha || c == '_')
      && rest.all (fun c => c.isAlphanum || c == '_' || c == '-')
      && (c :: rest).any Char.isAlphanum

/-- Drops the marks of raw identifiers from the start of a field's name. -/
def dropRawMarks : List Char → List Char
  | 'r' :: '#' :: rest => dropRawMarks rest
  | name => name

/-- The attribute name of a field without a rename. -/
def ofField (field : String) : String := String.ofList (dropRawMarks field.toList)

/-- Writes a name in capitals, with an underscore for each hyphen and before a capital that follows
neither a capital nor an underscore. `afterSmall` tells whether such a character came last. -/
def screaming (afterSmall : Bool) : List Char → List Char
  | [] => []
  | c :: rest =>
    if Unicode.isUppercase c then
      if afterSmall then '_' :: c :: screaming false rest else c :: screaming false rest
    else if c == '_' || c == '-' then '_' :: screaming false rest
    else c.toUpper :: screaming true rest

/-- The constant of an attribute. -/
def constant (name : String) : String := String.ofList (screaming false name.toList)

end AttributeName

end RecordQuery
