import DeviceAccess.Document.Tree

/-!
# Records

A record is written as an object with named fields, or as an array with its fields in order. Where
notations differ is in what else they allow: a field that is repeated, a field that the record does
not have, and items behind the last field.
-/

namespace DeviceAccess

/-- What is allowed in records besides their fields. -/
structure RecordRules where
  /-- A field may be repeated, and the last one counts. -/
  repeats : Bool
  /-- There may be fields that the record does not have. -/
  others : Bool
  /-- There may be items behind the last field. -/
  extraItems : Bool
  deriving DecidableEq, Repr

/-- A field is there at most once and no item is left over; fields that the record does not have are
passed over. -/
def RecordRules.once : RecordRules := { repeats := false, others := true, extraItems := false }

namespace Record

variable {κ α : Type}

/-! ## §1 Fields -/

/-- The values under a name, in order. -/
def valuesOf (keyText : κ → Option String) (name : String) (members : List (κ × Tree κ α)) :
    List (Tree κ α) :=
  (members.filter fun member => keyText member.1 == some name).map Prod.snd

/-- The value of one field in an object, if it is there. -/
def field? (rules : RecordRules) (keyText : κ → Option String) (members : List (κ × Tree κ α))
    (name : String) : Option (Option (Tree κ α)) :=
  match valuesOf keyText name members with
  | [] => some none
  | [t] => some (some t)
  | several => if rules.repeats then some several.getLast? else none

/-- The key is readable as a text, and is that of a field unless other fields are allowed. -/
def admitsKey (rules : RecordRules) (names : List String) (key : Option String) : Bool :=
  match key with
  | none => false
  | some name => rules.others || names.contains name

/-- The values of the named fields of a record, each if it is there. -/
def fields? (rules : RecordRules) (keyText : κ → Option String) (names : List String) :
    Tree κ α → Option (List (Option (Tree κ α)))
  | .leaf _ => none
  | .array items =>
    if items.length ≤ names.length || rules.extraItems then
      some ((List.range names.length).map (items[·]?))
    else none
  | .object members =>
    if members.all fun member => admitsKey rules names (keyText member.1) then
      names.mapM (field? rules keyText members)
    else none

/-! ## §2 Fields that may be missing -/

variable {β γ : Type}

/-- A field with a default. -/
def orDefault? (fallback : γ) (read : β → Option γ) (field : Option β) : Option γ :=
  field.elim (some fallback) read

/-- A field that need not be there. -/
def optional? (read : β → Option γ) : Option β → Option (Option γ) :=
  orDefault? none fun value => (read value).map some

end Record

end DeviceAccess
