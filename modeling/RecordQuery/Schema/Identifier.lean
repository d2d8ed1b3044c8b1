import RecordQuery.Unicode.Identifier

/-!
# Identifiers

The names that a generated constant can have: a letter or an underscore, then letters, digits,
marks and connectors, and neither a reserved word nor a lone underscore.
-/

namespace RecordQuery

namespace Identifier

def reservedWords : List String :=
  ["Self", "abstract", "as", "async", "await", "become", "box", "break", "const", "continue",
   "crate", "do", "dyn", "else", "enum", "extern", "false", "final", "fn", "for", "if", "impl",
   "in", "let", "loop", "macro", "match", "mod", "move", "mut", "override", "priv", "proc", "pub",
   "ref", "return", "self", "static", "struct", "super", "trait", "true", "try", "type", "typeof",
   "unsafe", "unsized", "use", "virtual", "where", "while", "yield"]

def isValid (name : String) : Bool :=
  match name.toList with
  | [] => false
  | c :: rest =>
    (c == '_' || Unicode.isIdentifierStart c) && rest.all Unicode.isIdentifierPart
      && name != "_" && !reservedWords.contains name

end Identifier

end RecordQuery
