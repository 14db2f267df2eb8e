/-!
# Documents of nested arrays and objects

The shape that all notations have in common: leaves, arrays and objects. What a leaf and a key are is
left to the notation.
-/

namespace DeviceAccess

/-- A document with keys of type `κ` and leaves of type `α`. Objects keep their members in order,
repeated keys included. -/
inductive Tree (κ α : Type) where
  | leaf (value : α)
  | array (items : List (Tree κ α))
  | object (members : List (κ × Tree κ α))

namespace Tree

variable {κ α : Type}

/-- How deeply containers are nested. -/
def depth : Tree κ α → Nat
  | leaf _ => 0
  | array items => 1 + depthOfItems items
  | object members => 1 + depthOfMembers members
where
  depthOfItems : List (Tree κ α) → Nat
    | [] => 0
    | t :: rest => max t.depth (depthOfItems rest)
  depthOfMembers : List (κ × Tree κ α) → Nat
    | [] => 0
    | (_, t) :: rest => max t.depth (depthOfMembers rest)

/-- Interprets every key and every leaf, if all of them have a meaning. -/
def interpret? {κ' α' : Type} (key : κ → Option κ') (value : α → Option α') :
    Tree κ α → Option (Tree κ' α')
  | leaf v => (value v).map leaf
  | array items => (ofItems items).map array
  | object members => (ofMembers members).map object
where
  ofItems : List (Tree κ α) → Option (List (Tree κ' α'))
    | [] => some []
    | t :: rest =>
      match interpret? key value t, ofItems rest with
      | some t', some rest' => some (t' :: rest')
      | _, _ => none
  ofMembers : List (κ × Tree κ α) → Option (List (κ' × Tree κ' α'))
    | [] => some []
    | (k, t) :: rest =>
      match key k, interpret? key value t, ofMembers rest with
      | some k', some t', some rest' => some ((k', t') :: rest')
      | _, _, _ => none

end Tree

end DeviceAccess
