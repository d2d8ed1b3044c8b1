import RecordQuery.Operator
import RecordQuery.Regex.Basic
import RecordQuery.Value.Basic

/-! # Errors of building and running queries -/

namespace RecordQuery

inductive QueryError where
  | invalidRegex (cause : Regex.SyntaxError)
  | invalidPath (path : String)
  | unknownAttribute (name type : String)
  | notARecord (name : String) (found : Kind)
  | unsupportedOperator (op : Operator)
  | missingArgument (op : Operator) (expected supplied : Nat)
  | incomparable (left right : Kind)
  | notAttached
  | alreadyAttached
  deriving DecidableEq

def QueryError.message : QueryError → String
  | invalidRegex _ => "invalid regex pattern"
  | invalidPath path => s!"invalid property path '{path}'"
  | unknownAttribute name type => s!"no attribute '{name}' on record type {type}"
  | notARecord name found => s!"cannot resolve '{name}' on a {found.name} value"
  | unsupportedOperator op => s!"operator '{op.name}' is not supported by the in-memory engine"
  | missingArgument op expected supplied =>
    s!"operator '{op.name}' expects {expected} argument(s), {supplied} left"
  | incomparable left right => s!"cannot order {left.name} against {right.name}"
  | notAttached => "no key/value adapter attached to the query engine"
  | alreadyAttached => "query engine already has a key/value adapter attached"

end RecordQuery
