import DeviceAccess.Json.Value

/-!
# Writing values

Values are written in one line without blanks, or over several lines with two blanks for each level.
A text escapes the quote, the backslash and the controls, and nothing else.
-/

namespace DeviceAccess.Json

open Text

/-- A character inside a quoted text. -/
def escapeChar (c : Char) : List Char :=
  match c with
  | '"' => ['\\', '"']
  | '\\' => ['\\', '\\']
  | '\n' => ['\\', 'n']
  | '\r' => ['\\', 'r']
  | '\t' => ['\\', 't']
  | '\x08' => ['\\', 'b']
  | '\x0c' => ['\\', 'f']
  | c => if c.toNat < 0x20 then ['\\', 'u'] ++ hexText 4 c.toNat else [c]

/-- A text in quotes. -/
def quote (s : String) : List Char := ['"'] ++ s.toList.flatMap escapeChar ++ ['"']

/-- A scalar. -/
def Scalar.toChars : Scalar → List Char
  | .null => ['n', 'u', 'l', 'l']
  | .bool true => ['t', 'r', 'u', 'e']
  | .bool false => ['f', 'a', 'l', 's', 'e']
  | .number spelling => spelling.toList
  | .string s => quote s

namespace Value

/-- A value in one line. -/
def compactChars : Value → List Char
  | .leaf s => s.toChars
  | .array items => ['['] ++ ofItems items ++ [']']
  | .object members => ['{'] ++ ofMembers members ++ ['}']
where
  ofItems : List Value → List Char
    | [] => []
    | [v] => compactChars v
    | v :: rest => compactChars v ++ [','] ++ ofItems rest
  ofMembers : List (String × Value) → List Char
    | [] => []
    | [(k, v)] => quote k ++ [':'] ++ compactChars v
    | (k, v) :: rest => quote k ++ [':'] ++ compactChars v ++ [','] ++ ofMembers rest

/-- A line end and the blanks of a level. -/
def newLine (level : Nat) : List Char := '\n' :: List.replicate (2 * level) ' '

/-- A value over several lines, from a given level on. -/
def prettyChars (level : Nat) : Value → List Char
  | .leaf s => s.toChars
  | .array [] => ['[', ']']
  | .array items => ['['] ++ ofItems (level + 1) items ++ newLine level ++ [']']
  | .object [] => ['{', '}']
  | .object members => ['{'] ++ ofMembers (level + 1) members ++ newLine level ++ ['}']
where
  ofItems (level : Nat) : List Value → List Char
    | [] => []
    | [v] => newLine level ++ prettyChars level v
    | v :: rest => newLine level ++ prettyChars level v ++ [','] ++ ofItems level rest
  ofMembers (level : Nat) : List (String × Value) → List Char
    | [] => []
    | [(k, v)] => newLine level ++ quote k ++ [':', ' '] ++ prettyChars level v
    | (k, v) :: rest =>
      newLine level ++ quote k ++ [':', ' '] ++ prettyChars level v ++ [','] ++
        ofMembers level rest

/-- A value in one line. -/
def compact (v : Value) : String := String.ofList v.compactChars

/-- A value over several lines. -/
def pretty (v : Value) : String := String.ofList (v.prettyChars 0)

end Value

end DeviceAccess.Json
