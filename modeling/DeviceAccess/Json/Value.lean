import DeviceAccess.Document.Tree
import DeviceAccess.Text.Decimal

/-!
# Values

A document whose keys are texts and whose leaves are the four kinds of scalars. Numbers keep their
spelling, since all that is asked of one is whether it is small enough to exist.
-/

namespace DeviceAccess.Json

open Text

/-- A leaf of a document. -/
inductive Scalar where
  | null
  | bool (b : Bool)
  | number (spelling : String)
  | string (s : String)
  deriving DecidableEq, Repr

/-- A document with its texts and numbers understood. -/
abbrev Value := Tree String Scalar

namespace Value

/-- The absent value. -/
def null : Value := .leaf .null

/-- A truth value. -/
def bool (b : Bool) : Value := .leaf (.bool b)

/-- A text. -/
def string (s : String) : Value := .leaf (.string s)

/-- A natural number. -/
def nat (n : Nat) : Value := .leaf (.number (String.ofList (decimal n)))

/-- A text, or the absent value. -/
def optional (s : Option String) : Value :=
  match s with
  | some s => string s
  | none => null

/-- The text that a value is. -/
def string? : Value → Option String
  | .leaf (.string s) => some s
  | _ => none

/-- The truth value that a value is. -/
def bool? : Value → Option Bool
  | .leaf (.bool b) => some b
  | _ => none

/-- A value that may be absent: `read` of anything but the absent value. -/
def nullable? {β : Type} (read : Value → Option β) : Value → Option (Option β)
  | .leaf .null => some none
  | v => (read v).map some

end Value

end DeviceAccess.Json
