import DeviceAccess.Text.Ascii

/-!
# Quoted texts

Four forms: between single or double quotes on one line, and between three of either over any number
of lines. Double quotes know escapes, single ones do not. In the long forms a line end right behind
the opening quotes is dropped, every line end is a line feed, and one or two quotes may stand
directly before the closing three.

Each function reads what stands behind the opening quotes, and gives the text with what follows the
closing ones.
-/

namespace DeviceAccess.Toml

open Text

/-- A blank within a line. -/
def isGap (c : Char) : Bool := c == ' ' || c == '\t'

/-- A character that a text or a comment may hold as it is. -/
def isPlain (c : Char) : Bool := c == '\t' || (0x20 ≤ c.toNat && c.toNat != 0x7F)

/-- What follows a line end. -/
def behindLineEnd? : List Char → Option (List Char)
  | '\n' :: rest => some rest
  | '\r' :: '\n' :: rest => some rest
  | _ => none

/-- The list begins with a line end, perhaps behind blanks. -/
def startsBlankLine (cs : List Char) : Bool := (behindLineEnd? (cs.dropWhile isGap)).isSome

/-- What a letter behind a backslash stands for. -/
def escaped? (letter : Char) : Option Char :=
  match letter with
  | 'b' => some '\x08'
  | 't' => some '\t'
  | 'n' => some '\n'
  | 'f' => some '\x0c'
  | 'r' => some '\r'
  | '"' => some '"'
  | '\\' => some '\\'
  | _ => none

/-- The character with the number that hexadecimal digits spell. -/
def numbered? (digits : List Char) : Option Char :=
  let n := digitsValue 16 digits
  if digits.all isHexDigit && (n < 0xD800 || (0xE000 ≤ n && n < 0x110000)) then
    some (Char.ofNat n)
  else none

/-- Puts a character in front of a text that is read. -/
def prepend (c : Char) (r : Option (List Char × List Char)) : Option (List Char × List Char) :=
  r.map fun (text, rest) => (c :: text, rest)

/-- Reads a text in single quotes. -/
def literal? : List Char → Option (List Char × List Char)
  | [] => none
  | '\'' :: rest => some ([], rest)
  | c :: rest => if isPlain c then prepend c (literal? rest) else none

/-- Reads a text in double quotes. -/
def basic? : List Char → Option (List Char × List Char)
  | [] => none
  | '"' :: rest => some ([], rest)
  | '\\' :: 'u' :: a :: b :: c :: d :: rest =>
    match numbered? [a, b, c, d] with
    | some e => prepend e (basic? rest)
    | none => none
  | '\\' :: 'U' :: a :: b :: c :: d :: e :: f :: g :: h :: rest =>
    match numbered? [a, b, c, d, e, f, g, h] with
    | some e => prepend e (basic? rest)
    | none => none
  | '\\' :: letter :: rest =>
    match escaped? letter with
    | some e => prepend e (basic? rest)
    | none => none
  | c :: rest => if isPlain c && c != '\\' then prepend c (basic? rest) else none

/-- Reads a text in three single quotes. -/
def longLiteral? : List Char → Option (List Char × List Char)
  | [] => none
  | '\'' :: '\'' :: '\'' :: '\'' :: '\'' :: rest => some (['\'', '\''], rest)
  | '\'' :: '\'' :: '\'' :: '\'' :: rest => some (['\''], rest)
  | '\'' :: '\'' :: '\'' :: rest => some ([], rest)
  | '\n' :: rest => prepend '\n' (longLiteral? rest)
  | '\r' :: '\n' :: rest => prepend '\n' (longLiteral? rest)
  | c :: rest => if isPlain c then prepend c (longLiteral? rest) else none

/-- Reads a text in three double quotes. A backslash at the end of a line drops the line end and all
blanks and line ends that follow; `skipping` says that this is going on. -/
def longBasic? (skipping : Bool) : List Char → Option (List Char × List Char)
  | [] => none
  | '"' :: '"' :: '"' :: '"' :: '"' :: rest => some (['"', '"'], rest)
  | '"' :: '"' :: '"' :: '"' :: rest => some (['"'], rest)
  | '"' :: '"' :: '"' :: rest => some ([], rest)
  | '\n' :: rest =>
    if skipping then longBasic? true rest else prepend '\n' (longBasic? false rest)
  | '\r' :: '\n' :: rest =>
    if skipping then longBasic? true rest else prepend '\n' (longBasic? false rest)
  | '\\' :: 'u' :: a :: b :: c :: d :: rest =>
    match numbered? [a, b, c, d] with
    | some e => prepend e (longBasic? false rest)
    | none => none
  | '\\' :: 'U' :: a :: b :: c :: d :: e :: f :: g :: h :: rest =>
    match numbered? [a, b, c, d, e, f, g, h] with
    | some e => prepend e (longBasic? false rest)
    | none => none
  | '\\' :: letter :: rest =>
    if startsBlankLine (letter :: rest) then longBasic? true (letter :: rest)
    else
      match escaped? letter with
      | some e => prepend e (longBasic? false rest)
      | none => none
  | c :: rest =>
    if skipping && isGap c then longBasic? true rest
    else if isPlain c && c != '\\' then prepend c (longBasic? false rest)
    else none

/-- The characters without a line end at their beginning. -/
def withoutFirstLineEnd (cs : List Char) : List Char := (behindLineEnd? cs).getD cs

/-- Reads a text in any of the four forms. -/
def quoted? : List Char → Option (List Char × List Char)
  | '"' :: '"' :: '"' :: rest => longBasic? false (withoutFirstLineEnd rest)
  | '"' :: rest => basic? rest
  | '\'' :: '\'' :: '\'' :: rest => longLiteral? (withoutFirstLineEnd rest)
  | '\'' :: rest => literal? rest
  | _ => none

end DeviceAccess.Toml
