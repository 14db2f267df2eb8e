import DeviceAccess.DistinguishedName
import DeviceAccess.Json.Printer
import DeviceAccess.Json.Strict
import DeviceAccess.KeyMap

/-!
# Filters of names

A filter gives the values that fields of a name must have. Six fields are known, and any other may be
given by its key. A name passes if each given field is among its components, so the filter without
fields lets every name pass.
-/

namespace DeviceAccess

/-- The values that fields of a name must have. -/
structure NameFilter where
  commonName : Option String
  organization : Option String
  unit : Option String
  locality : Option String
  country : Option String
  state : Option String
  other : KeyMap String
  deriving DecidableEq

namespace NameFilter

/-- The keys of the known fields, in the order in which they are shown. -/
def knownKeys : List String := ["CN", "O", "OU", "L", "C", "S"]

/-- The given fields with their keys: the known ones, then the others in the order of their keys. -/
def fields (f : NameFilter) : List (String × String) :=
  let known (key : String) (value : Option String) : List (String × String) :=
    (value.map fun v => (key, v)).toList
  known "CN" f.commonName ++ known "O" f.organization ++ known "OU" f.unit ++
    known "L" f.locality ++ known "C" f.country ++ known "S" f.state ++ f.other.entries

/-- The name has every given field. -/
def accepts (f : NameFilter) (n : DistinguishedName) : Bool :=
  f.fields.all fun (key, value) => n.contains key value

/-! ## §1 Documents -/

/-- The value of a known field, which may be absent in two ways but must not be repeated. -/
def known? (members : List (String × Json.Value)) (key : String) : Option (Option String) :=
  match members.filter fun member => member.1 == key with
  | [] => some none
  | [(_, value)] => value.nullable? Json.Value.string?
  | _ => none

/-- The other fields; of several with one key the last counts. -/
def others? (members : List (String × Json.Value)) : Option (KeyMap String) :=
  KeyMap.ofMembers? Json.Value.string? (members.filter fun member => !knownKeys.contains member.1)

/-- Reads a filter from a document. -/
def ofValue? : Json.Value → Option NameFilter
  | .object members => do
    let commonName ← known? members "CN"
    let organization ← known? members "O"
    let unit ← known? members "OU"
    let locality ← known? members "L"
    let country ← known? members "C"
    let state ← known? members "S"
    let other ← others? members
    return { commonName, organization, unit, locality, country, state, other }
  | _ => none

/-- Reads a filter in strict notation. -/
def parse? (text : String) : Option NameFilter := (Json.parse? text).bind ofValue?

/-- The document of a filter. -/
def toValue (f : NameFilter) : Json.Value :=
  .object (f.fields.map fun (key, value) => (key, Json.Value.string value))

/-- The document of a filter in one line. -/
def text (f : NameFilter) : String := f.toValue.compact

/-- The filter that every name passes. -/
def empty : NameFilter :=
  { commonName := none, organization := none, unit := none, locality := none, country := none,
    state := none, other := .empty }

end NameFilter

end DeviceAccess
