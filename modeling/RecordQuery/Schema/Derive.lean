import RecordQuery.Schema.Annotation
import RecordQuery.Schema.Identifier
import RecordQuery.Value.Basic

/-!
# Record types from declarations

A declaration of a structure gives a record type: every field that is not skipped becomes an
attribute, in the order of the fields, with a slot and a constant of its own.
-/

namespace RecordQuery

structure Field where
  name : String
  annotations : List Annotation := []
  deriving DecidableEq

/-- What is declared. Only the fields of a structure with named fields matter. -/
inductive Shape where
  | named (fields : List Field)
  | unit
  | tuple
  | enumeration
  | union
  deriving DecidableEq

structure Declaration where
  name : String
  shape : Shape
  /-- Names of lifetimes, without the tick. -/
  lifetimes : List String := []
  /-- Type parameters, each with the bounds that it may have after a colon. -/
  parameters : List String := []
  deriving DecidableEq

/-- A kept field, its attribute and the constant that holds the attribute's name. -/
structure Slot where
  field : String
  name : String
  constant : String
  deriving DecidableEq

/-- A block of definitions for a declared type, for an interface or for the type alone. -/
structure Implementation where
  interface : Option String
  target : String
  parameters : List String
  deriving DecidableEq

/-- What is derived from a declaration. -/
structure Derived where
  implementations : List Implementation
  slots : List Slot
  deriving DecidableEq

namespace Field

/-- The attribute name of a field, unless the field is skipped. -/
def attributeName? (f : Field) : Except SchemaError (Option String) := do
  let o ← FieldOptions.ofAnnotations f.annotations
  if o.skip then return none
  return some (o.rename.getD (AttributeName.ofField f.name))

end Field

namespace Slot

/-- The slot of a field after others. Its name and its constant must be new, and the constant an
identifier. -/
def make (before : List Slot) (field name : String) : Except SchemaError Slot :=
  let constant := AttributeName.constant name
  if before.any (·.name == name) then .error (.duplicateName name)
  else if before.any (·.constant == constant) then .error (.sharedConstant name constant)
  else if !Identifier.isValid constant then .error (.invalidConstant name)
  else .ok ⟨field, name, constant⟩

/-- Adds the slots of fields to those before them. -/
def ofFields (before : List Slot) : List Field → Except SchemaError (List Slot)
  | [] => .ok before
  | f :: rest => do
    match ← f.attributeName? with
    | none => ofFields before rest
    | some name => ofFields (before ++ [← make before f.name name]) rest

end Slot

namespace Declaration

/-- The name of a type parameter without its bounds. -/
def parameterName (parameter : String) : String :=
  String.ofList ((parameter.toList.takeWhile (· != ':')).reverse.dropWhile (· == ' ')).reverse

/-- The implementations for the declared type, which has all its parameters in each. -/
def implementations (d : Declaration) : List Implementation :=
  let parameters := d.lifetimes.map ("'" ++ ·) ++ d.parameters.map parameterName
  [none, some "Record", some "AsValue"].map fun interface => ⟨interface, d.name, parameters⟩

def slots (d : Declaration) : Except SchemaError (List Slot) :=
  match d.shape with
  | .unit => .ok []
  | .named fields => if d.lifetimes.isEmpty then Slot.ofFields [] fields else .error .hasLifetimes
  | .tuple => .error .fieldsNotNamed
  | .enumeration | .union => .error .notAStruct

def derive (d : Declaration) : Except SchemaError Derived :=
  d.slots.map fun slots => ⟨d.implementations, slots⟩

end Declaration

namespace Derived

def attributes (d : Derived) : List String := d.slots.map Slot.name

def constants (d : Derived) : List (String × String) := d.slots.map fun s => (s.constant, s.name)

/-- The record type of the declared type, under the name by which errors and texts call it. -/
def recordType (d : Derived) (key : Nat) (name : String) : RecordType :=
  ⟨key, name, d.attributes⟩

/-- The record of a member of the declared type, given by the values of its fields. -/
def toRecord (d : Derived) (key : Nat) (name : String) (field : String → Value) : Record :=
  ⟨d.recordType key name, d.slots.map fun s => field s.field⟩

end Derived

end RecordQuery
