import DeviceAccess.Toml.Scalar
import DeviceAccess.Toml.Table

/-!
# Reading configuration files

A file is read line by line into statements, a statement being a header, a doubled header or an entry
whose value may go over several lines. The statements then build the tables one after the other.
-/

namespace DeviceAccess.Toml

/-! ## §1 Keys -/

/-- A character of a key without quotes. -/
def isKeyChar (c : Char) : Bool := c.isAlphanum || c == '-' || c == '_'

/-- One part of a key, and the rest. -/
def cutKey? (cs : List Char) : Option (List Char × List Char) :=
  match cs with
  | '"' :: rest => basic? rest
  | '\'' :: rest => literal? rest
  | _ =>
    match cs.takeWhile isKeyChar with
    | [] => none
    | key => some (key, cs.dropWhile isKeyChar)

/-- The parts of a key with dots between them, and the rest. Blanks around each part do not count.
Every part takes a character, so as many steps as there are characters are enough. -/
def cutPathWithin? : Nat → List Char → Option (List String × List Char)
  | 0, _ => none
  | steps + 1, cs =>
    match cutKey? (cs.dropWhile isGap) with
    | none => none
    | some (key, behind) =>
      match behind.dropWhile isGap with
      | '.' :: rest =>
        (cutPathWithin? steps rest).map fun (path, last) => (String.ofList key :: path, last)
      | rest => some ([String.ofList key], rest)

/-- The parts of a key, and the rest. -/
def cutPath? (cs : List Char) : Option (List String × List Char) :=
  cutPathWithin? (cs.length + 1) cs

/-! ## §2 Values -/

/-- What follows a comment, from its line end on. -/
def behindComment (cs : List Char) : List Char := cs.dropWhile isPlain

/-- What follows the blanks, line ends and comments inside an array. -/
def behindGaps : Nat → List Char → List Char
  | 0, cs => cs
  | steps + 1, cs =>
    match cs with
    | '#' :: rest => behindGaps steps (behindComment rest)
    | '\n' :: rest => behindGaps steps rest
    | '\r' :: '\n' :: rest => behindGaps steps rest
    | c :: rest => if isGap c then behindGaps steps rest else cs
    | [] => []

/-- How many arrays and tables in braces may be nested in each other. -/
def maxDepth : Nat := 79

mutual

/-- A value, and the rest. `depth` more containers may be nested in each other. -/
def cutValue? : Nat → Nat → List Char → Option (Value × List Char)
  | 0, _, _ => none
  | steps + 1, depth, cs =>
    match cs with
    | '[' :: rest =>
      if depth = 0 then none
      else
        (cutItems? steps (depth - 1) rest).map fun (items, last) => (.array items, last)
    | '\x7b' :: rest =>
      if depth = 0 then none
      else
        match rest.dropWhile isGap with
        | '\x7d' :: last => some (.object [], last)
        | _ =>
          (cutMembers? steps (depth - 1) (Table.new .named) rest).map fun (t, last) =>
            (t.toValue, last)
    | _ => (cutScalar? cs).map fun (s, rest) => (.leaf s, rest)

/-- The items of an array up to its closing bracket, and the rest. -/
def cutItems? : Nat → Nat → List Char → Option (List Value × List Char)
  | 0, _, _ => none
  | steps + 1, depth, cs =>
    match behindGaps cs.length cs with
    | ']' :: last => some ([], last)
    | start =>
      match cutValue? steps depth start with
      | none => none
      | some (item, behind) =>
        match behindGaps behind.length behind with
        | ',' :: rest =>
          (cutItems? steps depth rest).map fun (items, last) => (item :: items, last)
        | ']' :: last => some ([item], last)
        | _ => none

/-- The members of a table in braces up to the closing one, put into the table, and the rest. -/
def cutMembers? : Nat → Nat → Table → List Char → Option (Table × List Char)
  | 0, _, _, _ => none
  | steps + 1, depth, t, cs =>
    match cutPath? cs with
    | some (path, '=' :: behind) =>
      match cutValue? steps depth (behind.dropWhile isGap) with
      | none => none
      | some (v, behindValue) =>
        match t.put path v with
        | none => none
        | some next =>
          -- unlike in an array no comma may stand before the end
          match behindValue.dropWhile isGap with
          | ',' :: rest => cutMembers? steps depth next rest
          | '\x7d' :: last => some (next, last)
          | _ => none
    | _ => none

end

/-! ## §3 Statements -/

/-- A statement. -/
inductive Statement where
  | header (path : List String)
  | listHeader (path : List String)
  | entry (path : List String) (value : Value)

/-- What follows the end of a statement: blanks, perhaps a comment, and a line end. -/
def behindStatement? (cs : List Char) : Option (List Char) :=
  let rest :=
    match cs.dropWhile isGap with
    | '#' :: comment => behindComment comment
    | other => other
  match rest with
  | [] => some []
  | _ => behindLineEnd? rest

/-- A statement at the beginning of a text, and the rest of its line. -/
def cutStatement? (cs : List Char) : Option (Statement × List Char) :=
  match cs with
  | '[' :: '[' :: inside =>
    match cutPath? inside with
    | some (path, ']' :: ']' :: rest) => some (.listHeader path, rest)
    | _ => none
  | '[' :: inside =>
    match cutPath? inside with
    | some (path, ']' :: rest) => some (.header path, rest)
    | _ => none
  | _ =>
    match cutPath? cs with
    | some (path, '=' :: rest) =>
      (cutValue? (2 * cs.length) maxDepth (rest.dropWhile isGap)).map fun (v, last) =>
        (.entry path v, last)
    | _ => none

/-- The statements of a text. Each takes a character, so as many steps as there are characters are
enough. -/
def statements? : Nat → List Char → Option (List Statement)
  | 0, cs => if cs.isEmpty then some [] else none
  | steps + 1, cs =>
    match cs.dropWhile isGap with
    | [] => some []
    | '#' :: rest =>
      match behindComment rest with
      | [] => some []
      | lineEnd => (behindLineEnd? lineEnd).bind (statements? steps)
    | '\n' :: rest => statements? steps rest
    | '\r' :: rest => (behindLineEnd? ('\r' :: rest)).bind (statements? steps)
    | start =>
      match cutStatement? start with
      | none => none
      | some (statement, behind) =>
        match (behindStatement? behind).bind (statements? steps) with
        | some later => some (statement :: later)
        | none => none

/-! ## §4 Files -/

/-- The tables that are built so far, and the path of the one that was named last. -/
structure Building where
  root : Table
  header : List String

/-- Carries out a statement. -/
def Building.step (b : Building) : Statement → Option Building
  | .header path => (b.root.name path).map fun root => { root, header := path }
  | .listHeader path => (b.root.extend path).map fun root => { root, header := path }
  | .entry path v => (b.root.putIn b.header path v).map fun root => { b with root }

/-- The document that statements build. -/
def documentOf? (statements : List Statement) : Option Value :=
  (statements.foldlM Building.step { root := .new .named, header := [] }).map fun b =>
    b.root.toValue

/-- Reads a file. A mark of the order of octets at its beginning does not count. -/
def parse? (text : String) : Option Value :=
  let cs :=
    match text.toList with
    | '\ufeff' :: rest => rest
    | cs => cs
  (statements? (cs.length + 1) cs).bind documentOf?

end DeviceAccess.Toml
