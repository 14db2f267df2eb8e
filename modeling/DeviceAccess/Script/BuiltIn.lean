import DeviceAccess.Text.Ascii
import DeviceAccess.Text.Cut
import DeviceAccess.Text.Utf8

/-!
# Built-in commands

The commands that copy their input, drop octets from it, print texts, compare texts and end the
script. Printed texts may hold escapes, among them octets by their octal number.
-/

namespace DeviceAccess.Script

open Text

/-- An octet as a character. -/
def charOf (b : UInt8) : Char := Char.ofNat b.toNat

/-- The number of up to three octal digits, and what follows them. -/
def cutOctal (width value : Nat) : Octets → UInt8 × Octets
  | [] => (UInt8.ofNat value, [])
  | b :: rest =>
    match width with
    | 0 => (UInt8.ofNat value, b :: rest)
    | width + 1 =>
      if isDigitOf 8 (charOf b) then
        cutOctal width (value * 8 + (b.toNat - '0'.toNat)) rest
      else (UInt8.ofNat value, b :: rest)

/-- What a letter behind a backslash prints. -/
def printed? (letter : Char) : Option Char :=
  match letter with
  | 'a' => some '\x07'
  | 'b' => some '\x08'
  | 'f' => some '\x0c'
  | 'n' => some '\n'
  | 'r' => some '\r'
  | 't' => some '\t'
  | 'v' => some '\x0b'
  | '\\' => some '\\'
  | '"' => some '"'
  | _ => none

/-- A text with its escapes carried out. -/
def unescape : Nat → Octets → Octets
  | 0, octets => octets
  | steps + 1, octets =>
    match octets with
    | [] => []
    | [b] => [b]
    | b :: c :: rest =>
      if charOf b == '\\' then
        if isDigitOf 8 (charOf c) then
          let (value, behind) := cutOctal 3 0 (c :: rest)
          value :: unescape steps behind
        else
          match printed? (charOf c) with
          | some p => UInt8.ofNat p.toNat :: unescape steps rest
          | none => b :: c :: unescape steps rest
      else b :: unescape steps (c :: rest)

/-- How many texts a format takes. -/
def holes : Octets → Nat
  | b :: c :: rest =>
    if charOf b == '%' then (if charOf c == '%' then 0 else 1) + holes rest else holes (c :: rest)
  | _ => 0

/-- What is printed for a format and the texts that it takes. -/
def format : Nat → Octets → List Octets → Octets
  | 0, _, _ => []
  | steps + 1, octets, args =>
    match octets with
    | [] => []
    | [b] => [b]
    | b :: c :: rest =>
      if charOf b == '%' then
        if charOf c == '%' then b :: format steps rest args
        else (args.headD []) ++ format steps rest (args.drop 1)
      else if charOf b == '\\' then
        if isDigitOf 8 (charOf c) then
          let (value, behind) := cutOctal 3 0 (c :: rest)
          value :: format steps behind args
        else
          match printed? (charOf c) with
          | some p => UInt8.ofNat p.toNat :: format steps rest args
          | none => b :: c :: format steps rest args
      else b :: format steps (c :: rest) args

/-- What is printed for a format, which is used again until no text is left. -/
def formatAll : Nat → Octets → List Octets → Octets
  | 0, _, _ => []
  | steps + 1, octets, args =>
    let rest := args.drop (holes octets)
    format (octets.length + 1) octets args ++
      (if holes octets == 0 || rest.isEmpty then [] else formatAll steps octets rest)

/-- Texts with blanks between them. -/
def joinBlank (texts : List Octets) : Octets := joinWith [0x20] texts

/-- What a call does: its output, what it leaves of its input, whether it succeeds, and whether the
script ends. -/
structure Effect where
  output : Octets
  input : Octets
  succeeds : Bool
  ends : Bool

/-- The number that decimal digits stand for. -/
def magnitude (octets : Octets) : Nat :=
  octets.foldl (fun n b => 10 * n + (b.toNat - '0'.toNat)) 0

/-- A comparison of numbers by its name. -/
def comparesAs (operator : Octets) (left right : Nat) : Bool :=
  let named (s : String) : Bool := operator == utf8Text s
  (named "-eq" && left == right) || (named "-ne" && left != right) ||
    (named "-lt" && left < right) || (named "-le" && left ≤ right) ||
    (named "-gt" && left > right) || (named "-ge" && left ≥ right)

/-- A comparison holds. -/
def holds (args : List Octets) : Bool :=
  match args with
  | [] => false
  | [text] => !text.isEmpty
  | [operator, text] =>
    if operator == utf8Text "-n" || operator == utf8Text "!" then
      (operator == utf8Text "-n") == !text.isEmpty
    else operator == utf8Text "-z" && text.isEmpty
  | left :: operator :: right :: _ =>
    if operator == utf8Text "=" then left == right
    else if operator == utf8Text "!=" then left != right
    else comparesAs operator (magnitude left) (magnitude right)

/-- Carries out a built-in command. One that is not known prints nothing and fails. -/
def perform (name : Octets) (args : List Octets) (input : Octets) : Effect :=
  let named (s : String) : Bool := name == utf8Text s
  let prints (output : Octets) : Effect := { output, input, succeeds := true, ends := false }
  let copies (output : Octets) : Effect := { output, input := [], succeeds := true, ends := false }
  let answers (succeeds : Bool) : Effect := { output := [], input, succeeds, ends := false }
  if named "cat" then copies input
  else if named "tr" then
    match args with
    | [option, set] =>
      let dropped := unescape (set.length + 1) set
      copies (if option == utf8Text "-d" then input.filter (!dropped.contains ·) else input)
    | _ => answers false
  else if named "printf" then
    match args with
    | f :: rest => prints (formatAll (rest.length + 1) f rest)
    | [] => answers false
  else if named "echo" then
    let text := joinBlank args
    prints (unescape (text.length + 1) text ++ [0x0A])
  else if named "exit" then { output := [], input, succeeds := true, ends := true }
  else if named "test" then answers (holds args)
  else if named "[" then answers (holds args.dropLast)
  else answers (named "true" || named ":" || named "sleep")

end DeviceAccess.Script
