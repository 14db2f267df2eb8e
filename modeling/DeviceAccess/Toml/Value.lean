import DeviceAccess.Document.Tree

/-!
# Values of configuration files

A table is an object and an array an array of the common document type. Of the leaves only texts and
truth values are understood: no setting is a number or a point in time, and these keep their
spelling.
-/

namespace DeviceAccess.Toml

/-- A leaf of a document. -/
inductive Scalar where
  | string (s : String)
  | bool (b : Bool)
  | number (spelling : String)
  | moment (spelling : String)
  deriving DecidableEq, Repr

/-- A document. -/
abbrev Value := Tree String Scalar

namespace Value

/-- A text. -/
def string (s : String) : Value := .leaf (.string s)

/-- A truth value. -/
def bool (b : Bool) : Value := .leaf (.bool b)

/-- The text that a value is. -/
def string? : Value → Option String
  | .leaf (.string s) => some s
  | _ => none

/-- The truth value that a value is. -/
def bool? : Value → Option Bool
  | .leaf (.bool b) => some b
  | _ => none

end Value

end DeviceAccess.Toml
