import DeviceAccess.Text.Cut
import DeviceAccess.Toml.Quoted
import DeviceAccess.Toml.Value

/-!
# Writing configuration files

A file is written as sections with blank lines between them. A section has a header, which may be
doubled, and entries whose values are texts or truth values.

Of the forms in which a text can be written, the first that needs no escapes is taken: double quotes,
single quotes, three double quotes, three single quotes. A text for which each of these would need
some is written in double quotes, three of them if it has a line end.
-/

namespace DeviceAccess.Toml

open Text

/-! ## §1 Forms of texts -/

/-- The form in which a text is written. -/
inductive Form where
  | basic
  | literal
  | longBasic
  | longLiteral
  deriving DecidableEq, Repr

/-- A control other than tab and line feed, which only an escape can stand for. -/
def needsNumber (c : Char) : Bool :=
  (c.toNat < 0x20 && c != '\t' && c != '\n') || c.toNat == 0x7F

/-- The length of the longest run of a character; `run` is how many stand directly before. -/
def longestRun (c : Char) (run : Nat) : List Char → Nat
  | [] => run
  | d :: rest => if d == c then longestRun c (run + 1) rest else max run (longestRun c 0 rest)

/-- The form needs no escape for a text. A tab is escaped in double quotes without harm. -/
def Form.fits (cs : List Char) : Form → Bool
  | basic => !cs.any needsNumber && !cs.contains '\\' && !cs.contains '"' && !cs.contains '\n'
  | literal => !cs.any needsNumber && !cs.contains '\'' && !cs.contains '\n'
  | longBasic => !cs.any needsNumber && !cs.contains '\\' && longestRun '"' 0 cs ≤ 2
  | longLiteral => !cs.any needsNumber && longestRun '\'' 0 cs ≤ 2

/-- The form of a text that is a value. -/
def formOfText (cs : List Char) : Form :=
  (([Form.basic, .literal, .longBasic, .longLiteral] : List Form).find? (·.fits cs)).getD
    (if cs.contains '\n' then .longBasic else .basic)

/-- The form of a text that is a key. -/
def formOfKey (cs : List Char) : Form :=
  (([Form.basic, .literal] : List Form).find? (·.fits cs)).getD .basic

/-! ## §2 Texts -/

/-- A digit of a number in an escape. -/
def capitalHexText (width n : Nat) : List Char := upper (hexText width n)

/-- A character in double quotes, quotes and line feeds apart. -/
def escapeChar (c : Char) : List Char :=
  match c with
  | '\x08' => ['\\', 'b']
  | '\t' => ['\\', 't']
  | '\x0c' => ['\\', 'f']
  | '\r' => ['\\', 'r']
  | '\\' => ['\\', '\\']
  | c => if needsNumber c then ['\\', 'u'] ++ capitalHexText 4 c.toNat else [c]

/-- A text in double quotes on one line. -/
def escapeBasic (cs : List Char) : List Char :=
  cs.flatMap fun c =>
    if c == '"' then ['\\', '"'] else if c == '\n' then ['\\', 'n'] else escapeChar c

/-- A text in three double quotes; `run` quotes stand directly before, and a third is escaped. -/
def escapeLongBasic (run : Nat) : List Char → List Char
  | [] => []
  | c :: rest =>
    if c == '"' then
      if run = 2 then '\\' :: '"' :: escapeLongBasic 0 rest
      else '"' :: escapeLongBasic (run + 1) rest
    else if c == '\n' then '\n' :: escapeLongBasic 0 rest
    else escapeChar c ++ escapeLongBasic 0 rest

/-- A text in a form. The long forms begin on a line of their own if the text has a line end. -/
def Form.write (cs : List Char) : Form → List Char
  | basic => ['"'] ++ escapeBasic cs ++ ['"']
  | literal => ['\''] ++ cs ++ ['\'']
  | longBasic => ['"', '"', '"'] ++ ownLine ++ escapeLongBasic 0 cs ++ ['"', '"', '"']
  | longLiteral => ['\'', '\'', '\''] ++ ownLine ++ cs ++ ['\'', '\'', '\'']
where
  ownLine : List Char := if cs.contains '\n' then ['\n'] else []

/-! ## §3 Sections -/

/-- A character that a key without quotes may hold. -/
def isBareChar (c : Char) : Bool := c.isAlphanum || c == '-' || c == '_'

/-- A key, without quotes if it needs none. -/
def writeKey (key : String) : List Char :=
  let cs := key.toList
  if !cs.isEmpty && cs.all isBareChar then cs else (formOfKey cs).write cs

/-- A value of an entry. -/
inductive Plain where
  | string (s : String)
  | bool (b : Bool)
  deriving DecidableEq, Repr

/-- A value as it is written. -/
def Plain.write : Plain → List Char
  | string s => (formOfText s.toList).write s.toList
  | bool true => "true".toList
  | bool false => "false".toList

/-- A section: the path of its header, whether the header is doubled, and the entries. -/
structure Section where
  path : List String
  doubled : Bool
  entries : List (String × Plain)
  deriving DecidableEq, Repr

/-- An entry on its line. -/
def writeEntry (entry : String × Plain) : List Char :=
  writeKey entry.1 ++ " = ".toList ++ entry.2.write ++ ['\n']

/-- A header on its line. -/
def writeHeader (s : Section) : List Char :=
  let path := joinWith ['.'] (s.path.map writeKey)
  if s.doubled then ['[', '['] ++ path ++ [']', ']', '\n'] else ['['] ++ path ++ [']', '\n']

/-- A section with its lines. -/
def Section.write (s : Section) : List Char := writeHeader s ++ s.entries.flatMap writeEntry

/-- A file with its sections. -/
def writeSections (sections : List Section) : String :=
  String.ofList (joinWith ['\n'] (sections.map Section.write))

end DeviceAccess.Toml
