import DeviceAccess.Text.Ascii

/-!
# Log levels

How much is logged, from everything down to errors only.
-/

namespace DeviceAccess

open Text

/-- The least weight of what is logged. -/
inductive LogLevel where
  | trace
  | debug
  | info
  | warn
  | error
  deriving DecidableEq, Repr

namespace LogLevel

/-- The name of a level. -/
def name : LogLevel → String
  | trace => "trace"
  | debug => "debug"
  | info => "info"
  | warn => "warn"
  | error => "error"

/-- The place of a level among levels. -/
def rank : LogLevel → Nat
  | trace => 0
  | debug => 1
  | info => 2
  | warn => 3
  | error => 4

/-- The order of levels. -/
def compare (a b : LogLevel) : Ordering := Ord.compare a.rank b.rank

/-- The level of a name in small letters; `warn` has two names. -/
def ofName? (name : String) : Option LogLevel :=
  if name = "trace" then some trace
  else if name = "debug" then some debug
  else if name = "info" then some info
  else if name = "warn" ∨ name = "warning" then some warn
  else if name = "error" then some error
  else none

/-- The level of a name in any case. -/
def parse? (name : String) : Option LogLevel := ofName? (lowerText name)

end LogLevel

end DeviceAccess
