import DeviceAccess.Selector

/-!
# Selection policy

Administrators list selectors for the machine and for the user. A list consists of named values, of
which only those with a number for a name count, in the order of the numbers; values under one number
keep their order. A value that is no selector is passed over, so that one broken entry does not lock
anybody out.
-/

namespace DeviceAccess

open Text

/-- For whom something is set or stored. -/
inductive Scope where
  | machine
  | user
  deriving DecidableEq, Repr

/-- The name of a scope. -/
def Scope.text : Scope → String
  | machine => "machine"
  | user => "user"

/-- The named values of one scope, in any order. -/
structure PolicySource where
  scope : Scope
  values : List (String × String)
  deriving DecidableEq, Repr

/-- The number that the name of an entry is: digits only, and below 2^64. -/
def entryNumber? (name : String) : Option Nat :=
  match natOfDigits? name.toList with
  | some n => if n < limit64 then some n else none
  | none => none

/-- A value with the number under which it stands. -/
def numbered? (entry : String × String) : Option (Nat × String) :=
  (entryNumber? entry.1).map fun n => (n, entry.2)

/-- The values under numbers, in the order of the numbers. -/
def numberedEntries (values : List (String × String)) : List (Nat × String) :=
  (values.filterMap numbered?).mergeSort fun a b => a.1 ≤ b.1

/-- A selector with the place where it is set. -/
structure PolicyEntry where
  scope : Scope
  number : Nat
  selector : Selector
  deriving DecidableEq

/-- All selectors that administrators have set. -/
structure Policy where
  entries : List PolicyEntry
  deriving DecidableEq

namespace Policy

/-- The policy that selects nothing. -/
def empty : Policy := ⟨[]⟩

/-- The entries of one source. -/
def entriesOf (source : PolicySource) : List PolicyEntry :=
  (numberedEntries source.values).filterMap fun (number, text) =>
    (Selector.parse? text).map fun selector => { scope := source.scope, number, selector }

/-- The policy of several sources, in their order. -/
def ofSources (sources : List PolicySource) : Policy := ⟨sources.flatMap entriesOf⟩

/-- Some entry lets the certificate be offered to the address. -/
def accepts (p : Policy) (u : Url) (c : Certificate) : Bool :=
  p.entries.any fun entry => entry.selector.accepts u c

end Policy

end DeviceAccess
