/-! # Errors of deriving a record type -/

namespace RecordQuery

inductive SchemaError where
  | notAStruct
  | fieldsNotNamed
  | hasLifetimes
  | renameNotPlain
  | renameMalformed
  | renameNotText
  | unknownSetting
  | skippedAndRenamed
  | duplicateName (name : String)
  | sharedConstant (name constant : String)
  | invalidConstant (name : String)
  deriving DecidableEq

def SchemaError.message : SchemaError → String
  | notAStruct => "Record can only be derived for structs"
  | fieldsNotNamed => "Record can only be derived for structs with named fields"
  | hasLifetimes => "Record cannot be derived for structs with lifetime parameters"
  | renameNotPlain => "rename must be a non-empty name without '.'"
  | renameMalformed =>
    "rename must start with a letter or '_' and contain only letters, digits, '_' or '-'"
  | renameNotText => "rename must be a string literal"
  | unknownSetting => "unknown record attribute. Expected: skip or rename = \"...\""
  | skippedAndRenamed => "a skipped field cannot be renamed"
  | duplicateName name => s!"duplicate record attribute '{name}'"
  | sharedConstant name constant =>
    s!"record attribute '{name}' collides with another attribute's constant {constant}"
  | invalidConstant name => s!"record attribute '{name}' does not yield a valid constant name"

end RecordQuery
