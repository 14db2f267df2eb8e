import DeviceAccess.Toml.Value

/-!
# Tables in the making

The lines of a file build tables piece by piece: a header names a table, a dotted key puts tables
inside the one that is named, and a doubled header adds a table to a list. How a table came about
decides what may be done to it later: a table is named at most once, and dotted keys only extend
tables that no header has named.
-/

namespace DeviceAccess.Toml

/-- How a table came about. -/
inductive Origin where
  /-- It was named by a header, or written in braces. -/
  | named
  /-- It lies on the way to a table that was named. -/
  | implied
  /-- It lies on the way of a dotted key. -/
  | dotted
  deriving DecidableEq, Repr

/-- An entry of a table in the making. -/
inductive Entry where
  | value (v : Value)
  | table (origin : Origin) (entries : List (String × Entry))
  | list (tables : List (List (String × Entry)))

/-- A table in the making. -/
structure Table where
  origin : Origin
  entries : List (String × Entry)

namespace Table

/-- A table without entries. -/
def new (origin : Origin) : Table := ⟨origin, []⟩

/-! ## §1 Entries -/

/-- Changes the entry under a key, or makes one. -/
def alter (f : Option Entry → Option Entry) (key : String) :
    List (String × Entry) → Option (List (String × Entry))
  | [] => (f none).map fun e => [(key, e)]
  | (k, e) :: rest =>
    if k == key then (f (some e)).map fun e' => (k, e') :: rest
    else (alter f key rest).map ((k, e) :: ·)

/-- Changes the last member of a list. -/
def alterLast {α : Type} (f : α → Option α) : List α → Option (List α)
  | [] => none
  | [x] => (f x).map fun y => [y]
  | x :: rest => (alterLast f rest).map (x :: ·)

/-- Changes the table that a path leads to. Tables on the way are made with the given origin, and the
way through a list leads to its last table. A dotted key does not lead through a named table. -/
def descend (origin : Origin) (f : Table → Option Table) : List String → Table → Option Table
  | [], t => f t
  | key :: path, t =>
    let inside (t : Table) : Option Entry :=
      (descend origin f path t).map fun u => .table u.origin u.entries
    let change (entry : Option Entry) : Option Entry :=
      match entry with
      | none => inside (new origin)
      | some (.table o entries) =>
        -- what a header has named is closed to dotted keys from outside
        if origin = .dotted ∧ o = .named then none else inside ⟨o, entries⟩
      | some (.list tables) =>
        (alterLast (fun entries => (descend origin f path ⟨.named, entries⟩).map Table.entries)
          tables).map .list
      | some (.value _) => none
    (alter change key t.entries).map fun entries => { t with entries }

/-! ## §2 What lines do -/

/-- Puts a value under a dotted key. The table that takes it was made by a dotted key exactly if the
key has more than one part. -/
def put (path : List String) (v : Value) (t : Table) : Option Table :=
  match path.reverse with
  | [] => none
  | key :: way =>
    let dotted := !way.isEmpty
    let place (u : Table) : Option Table :=
      if (u.origin == .dotted) == dotted then
        (alter (fun entry => if entry.isNone then some (.value v) else none) key u.entries).map
          fun entries => { u with entries }
      else none
    descend .dotted place way.reverse t

/-- Names the table that a path leads to. -/
def name (path : List String) (t : Table) : Option Table :=
  match path.reverse with
  | [] => none
  | key :: way =>
    let naming (entry : Option Entry) : Option Entry :=
      match entry with
      | none => some (.table .named [])
      | some (.table .implied entries) => some (.table .named entries)
      | some _ => none
    descend .implied
      (fun u => (alter naming key u.entries).map fun entries => { u with entries })
      way.reverse t

/-- Adds a table to the list that a path leads to. -/
def extend (path : List String) (t : Table) : Option Table :=
  match path.reverse with
  | [] => none
  | key :: way =>
    let adding (entry : Option Entry) : Option Entry :=
      match entry with
      | none => some (.list [[]])
      | some (.list tables) => some (.list (tables ++ [[]]))
      | some _ => none
    descend .implied
      (fun u => (alter adding key u.entries).map fun entries => { u with entries })
      way.reverse t

/-- Puts a value under a dotted key in the table that a path leads to. -/
def putIn (header path : List String) (v : Value) (t : Table) : Option Table :=
  descend .implied (put path v) header t

/-! ## §3 The finished table -/

/-- The value that an entry has become. -/
def valueOf : Entry → Value
  | .value v => v
  | .table _ entries => .object (members entries)
  | .list tables => .array (lists tables)
where
  members : List (String × Entry) → List (String × Value)
    | [] => []
    | (key, e) :: rest => (key, valueOf e) :: members rest
  lists : List (List (String × Entry)) → List Value
    | [] => []
    | entries :: rest => .object (members entries) :: lists rest

/-- The value that a table has become. -/
def toValue (t : Table) : Value := valueOf (.table t.origin t.entries)

end Table

end DeviceAccess.Toml
