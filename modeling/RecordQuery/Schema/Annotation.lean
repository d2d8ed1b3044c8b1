import RecordQuery.Schema.Attribute
import RecordQuery.Schema.Error

/-!
# Annotations of fields

An annotation can leave a field out of the record or give its attribute another name. Of several
annotations on one field the first counts.
-/

namespace RecordQuery

/-- One item of an annotation, by its form. -/
inductive Setting where
  /-- A name alone. -/
  | word (name : String)
  /-- A name set to a text. -/
  | text (name value : String)
  /-- A name set to anything else. -/
  | literal (name : String)
  /-- A name with items in parentheses. -/
  | nested (name : String)
  deriving DecidableEq

inductive Annotation where
  | record (settings : List Setting)
  /-- An annotation that is not about records. -/
  | foreign (name : String)
  deriving DecidableEq

/-- What annotations ask of a field. -/
structure FieldOptions where
  skip : Bool := false
  rename : Option String := none
  deriving DecidableEq

namespace FieldOptions

/-- Adds what a setting asks. -/
def add (o : FieldOptions) : Setting → Except SchemaError FieldOptions
  | .word "skip" => .ok { o with skip := true }
  | .text "rename" name =>
    if name == "" || name.contains '.' then .error .renameNotPlain
    else if !AttributeName.isRename name then .error .renameMalformed
    else .ok { o with rename := some name }
  | .literal "rename" => .error .renameNotText
  | _ => .error .unknownSetting

/-- What the settings of one annotation ask. -/
def ofSettings (settings : List Setting) : Except SchemaError FieldOptions := do
  let o ← settings.foldlM add {}
  if o.skip && o.rename.isSome then throw .skippedAndRenamed
  return o

/-- What the annotations of a field ask. -/
def ofAnnotations : List Annotation → Except SchemaError FieldOptions
  | [] => .ok {}
  | .record settings :: _ => ofSettings settings
  | .foreign _ :: rest => ofAnnotations rest

end FieldOptions

end RecordQuery
