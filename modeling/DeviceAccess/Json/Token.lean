import DeviceAccess.Document.Tree

/-!
# From tokens to documents

A document in one of the bracketed notations is built from its tokens over a stack of the containers
that are still open, one token at a time, so that reading it is a single pass over the tokens.
-/

namespace DeviceAccess.Json

/-! ## §1 Tokens -/

/-- A token. A scalar may have a meaning as a key, as a leaf, or as both. -/
inductive Token (κ α : Type) where
  | openArray
  | closeArray
  | openObject
  | closeObject
  | comma
  | colon
  | scalar (key : Option κ) (value : Option α)

/-! ## §2 Building a tree -/

variable {κ α : Type}

/-- An open container with what it holds so far, last first; an object also holds the key whose
value is awaited. -/
inductive Frame (κ α : Type) where
  | array (items : List (Tree κ α))
  | object (members : List (κ × Tree κ α)) (key : Option κ)

/-- What may come next. `mayClose` says that the innermost container may also end here. -/
inductive Expected where
  | value (mayClose : Bool)
  | key (mayClose : Bool)
  | colon
  | separator
  deriving DecidableEq

/-- A document in the making: what is open, innermost first, and what may come next; or the whole
document. -/
inductive Building (κ α : Type) where
  | inside (frames : List (Frame κ α)) (expected : Expected)
  | complete (tree : Tree κ α)

/-- Puts a finished value into the innermost open container. -/
def settle (frames : List (Frame κ α)) (t : Tree κ α) : Option (Building κ α) :=
  match frames with
  | [] => some (.complete t)
  | .array items :: rest => some (.inside (.array (t :: items) :: rest) .separator)
  | .object members (some k) :: rest =>
    some (.inside (.object ((k, t) :: members) none :: rest) .separator)
  | .object _ none :: _ => none

/-- Ends the innermost container with a closing token. -/
def close (frames : List (Frame κ α)) (token : Token κ α) : Option (Building κ α) :=
  match frames, token with
  | .array items :: rest, .closeArray => settle rest (.array items.reverse)
  | .object members none :: rest, .closeObject => settle rest (.object members.reverse)
  | _, _ => none

/-- Reads one token. `trailing` allows a comma before the end of a container. -/
def Building.step (trailing : Bool) (b : Building κ α) (token : Token κ α) :
    Option (Building κ α) :=
  match b with
  | .complete _ => none
  | .inside frames expected =>
    match expected, token with
    | .value _, .scalar _ (some v) => settle frames (.leaf v)
    | .value _, .openArray => some (.inside (.array [] :: frames) (.value true))
    | .value _, .openObject => some (.inside (.object [] none :: frames) (.key true))
    | .value true, .closeArray => close frames token
    | .key _, .scalar (some k) _ =>
      match frames with
      | .object members none :: rest =>
        some (.inside (.object members (some k) :: rest) .colon)
      | _ => none
    | .key true, .closeObject => close frames token
    | .colon, .colon => some (.inside frames (.value false))
    -- behind a comma the container may only end where the notation allows it
    | .separator, .comma =>
      match frames with
      | .array _ :: _ => some (.inside frames (.value trailing))
      | .object _ _ :: _ => some (.inside frames (.key trailing))
      | [] => none
    | .separator, .closeArray => close frames token
    | .separator, .closeObject => close frames token
    | _, _ => none

/-- The document that tokens spell. -/
def treeOfTokens? (trailing : Bool) (tokens : List (Token κ α)) : Option (Tree κ α) :=
  match tokens.foldlM (Building.step trailing) (.inside [] (.value false)) with
  | some (.complete t) => some t
  | _ => none

end DeviceAccess.Json
