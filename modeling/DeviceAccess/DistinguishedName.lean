import DeviceAccess.Text.Ascii
import DeviceAccess.Text.Blank
import DeviceAccess.Text.Cut

/-!
# Distinguished names

A name is a list of components, each a key and a value, in the order in which they were given. Keys
are compared without regard to case, values as they are.

A name is written `KEY=value, KEY=value`. When it is read, `;` separates as well as `,`, a backslash
takes the next character as it is, and separators inside double quotes do not separate.
-/

namespace DeviceAccess

open Text

/-- A name. -/
structure DistinguishedName where
  components : List (String × String)
  deriving DecidableEq, Repr

namespace DistinguishedName

/-! ## §1 Building and asking -/

/-- The name with the given components, keys in capitals. -/
def ofComponents (components : List (String × String)) : DistinguishedName :=
  ⟨components.map fun (key, value) => (upperText key, value)⟩

/-- The name has no component. -/
def isEmpty (n : DistinguishedName) : Bool := n.components.isEmpty

/-- The first value under a key. -/
def get? (n : DistinguishedName) (key : String) : Option String :=
  (n.components.find? fun (k, _) => sameIgnoringCase k key).map Prod.snd

/-- The name has a component with this key and exactly this value. -/
def contains (n : DistinguishedName) (key value : String) : Bool :=
  n.components.any fun (k, v) => sameIgnoringCase k key && v == value

/-! ## §2 Reading -/

/-- Puts a character in front of the first part. -/
def pushFront (c : Char) : List (List Char) → List (List Char)
  | [] => [[c]]
  | part :: rest => (c :: part) :: rest

/-- The parts between separators; `quoted` says that the text begins inside double quotes. Quotes
stay, backslashes go, and one at the very end stands for nothing. -/
def parts (quoted : Bool) : List Char → List (List Char)
  | [] => [[]]
  | ['\\'] => [[]]
  | '\\' :: c :: rest => pushFront c (parts quoted rest)
  | c :: rest =>
    if c == '"' then pushFront c (parts (!quoted) rest)
    else if !quoted && (c == ',' || c == ';') then [] :: parts quoted rest
    else pushFront c (parts quoted rest)

/-- A value without the double quotes around it, if there are two. -/
def unquote (value : List Char) : List Char :=
  match value with
  | '"' :: rest =>
    match rest.reverse with
    | '"' :: inner => inner.reverse
    | _ => value
  | _ => value

/-- The component that a part spells: a key that is not blank, `=`, and a value. -/
def component? (part : List Char) : Option (String × String) :=
  match cutAt '=' part with
  | (_, none) => none
  | (key, some value) =>
    let key := trim key
    if key.isEmpty then none
    else some (String.ofList key, String.ofList (unquote (trim value)))

/-- Reads a name. Parts that spell no component are passed over. -/
def parse (text : String) : DistinguishedName :=
  ofComponents ((parts false text.toList).filterMap component?)

/-! ## §3 Writing -/

/-- A component as it is written: the value is quoted if it holds a comma. -/
def componentChars (component : String × String) : List Char :=
  let value := component.2.toList
  let shown := if value.contains ',' then ['"'] ++ value ++ ['"'] else value
  component.1.toList ++ ['='] ++ shown

/-- The name as it is written. -/
def toChars (n : DistinguishedName) : List Char :=
  joinWith [',', ' '] (n.components.map componentChars)

/-- The name as it is written. -/
def text (n : DistinguishedName) : String := String.ofList n.toChars

end DistinguishedName

end DeviceAccess
