import DeviceAccess.Json.Strict
import DeviceAccess.Unicode.Category

/-!
# The lenient notation

The notation that administrators write by hand: single quotes, comments, unquoted keys, a comma
before a closing bracket, signs, hexadecimal numbers and line continuations. Unlike in the strict
notation every scalar is interpreted as it is read, whether or not anybody asks for it.
-/

namespace DeviceAccess.Json.Lenient

open Text

/-! ## §1 Blanks and comments -/

/-- A character that ends a line. -/
def endsLine (c : Char) : Bool := c == '\n' || c == '\r' || c == '\u2028' || c == '\u2029'

/-- A blank between tokens. -/
def isGap (c : Char) : Bool :=
  c == '\t' || c == '\x0b' || c == '\x0c' || c == '\ufeff' || endsLine c ||
    Unicode.spaces.contains c

/-- What follows the end of a block comment. -/
def behindComment? : List Char → Option (List Char)
  | [] => none
  | '*' :: '/' :: rest => some rest
  | _ :: rest => behindComment? rest

/-! ## §2 Texts -/

/-- A piece of a text: a character, or half of a pair or a whole character given by its number. -/
inductive Piece where
  | char (c : Char)
  | unit (n : Nat)
  deriving DecidableEq

/-- The pieces of a text up to its closing quote, and what follows the quote. -/
def pieces? (quote : Char) : List Char → Option (List Piece × List Char)
  | [] => none
  | '\\' :: 'x' :: a :: b :: rest =>
    if isHexDigit a && isHexDigit b then
      (pieces? quote rest).map fun (text, after) =>
        (.char (Char.ofNat (digitsValue 16 [a, b])) :: text, after)
    else none
  | '\\' :: 'u' :: a :: b :: c :: d :: rest =>
    if [a, b, c, d].all isHexDigit then
      (pieces? quote rest).map fun (text, after) =>
        (.unit (digitsValue 16 [a, b, c, d]) :: text, after)
    else none
  -- a backslash at the end of a line joins it with the next one
  | '\\' :: '\r' :: '\n' :: rest => pieces? quote rest
  | '\\' :: e :: rest =>
    if endsLine e then pieces? quote rest
    else if e == 'x' || e == 'u' || ('1' ≤ e && e ≤ '9') then none
    else
      let c := if e == '0' then '\x00' else if e == 'v' then '\x0b' else escaped e
      (pieces? quote rest).map fun (text, after) => (.char c :: text, after)
  | c :: rest =>
    if c == quote then some ([], rest)
    else if c == '\\' || endsLine c then none
    else (pieces? quote rest).map fun (text, after) => (.char c :: text, after)

/-- The text that pieces stand for; halves must come in pairs. -/
def joinPieces? : List Piece → Option (List Char)
  | [] => some []
  | .char c :: rest => (joinPieces? rest).map (c :: ·)
  | .unit n :: rest =>
    if isHighHalf n then
      match rest with
      | .unit m :: rest' =>
        if isLowHalf m then (joinPieces? rest').map (joinHalves n m :: ·) else none
      | _ => none
    else if isLowHalf n then none
    else (joinPieces? rest).map (Char.ofNat n :: ·)

/-! ## §3 Identifiers -/

/-- A character that may begin an identifier. -/
def startsName (c : Char) : Bool := c == '$' || c == '_' || Unicode.letters.contains c

/-- A character that may continue an identifier. -/
def continuesName (c : Char) : Bool :=
  startsName c || Unicode.nonspacingMarks.contains c || Unicode.diacritics.contains c ||
    Unicode.decimalDigits.contains c || Unicode.connectors.contains c ||
    c == '\u200c' || c == '\u200d'

/-- The longest identifier that a text begins with, and the rest. -/
def cutName (isStart : Bool) : List Char → List Piece × List Char
  | '\\' :: 'u' :: a :: b :: c :: d :: rest =>
    if [a, b, c, d].all isHexDigit then
      let (name, after) := cutName false rest
      (.unit (digitsValue 16 [a, b, c, d]) :: name, after)
    else ([], '\\' :: 'u' :: a :: b :: c :: d :: rest)
  | c :: rest =>
    if if isStart then startsName c else continuesName c then
      let (name, after) := cutName false rest
      (.char c :: name, after)
    else ([], c :: rest)
  | [] => ([], [])

/-- The leaf that an identifier spells, if it stands where a value is awaited. -/
def wordValue? (name : List Piece) : Option Scalar :=
  let spelled (word : String) : Bool := name == word.toList.map Piece.char
  if spelled "null" then some .null
  else if spelled "true" then some (.bool true)
  else if spelled "false" then some (.bool false)
  else if spelled "Infinity" then some (.number "Infinity")
  else if spelled "NaN" then some (.number "NaN")
  else none

/-! ## §4 Numbers -/

/-- A number below `limit` in a base. -/
def wholeBelow (base limit : Nat) (digits : List Char) : Bool := digitsValue base digits < limit

/-- An unsigned decimal number that a text begins with, and the rest. A point may stand first or
last, but not alone. -/
def cutDecimal? (cs : List Char) : Option (List Char × List Char) :=
  let whole := cs.takeWhile Char.isDigit
  let behind := cs.dropWhile Char.isDigit
  match whole, behind with
  | [], '.' :: more =>
    let digits := more.takeWhile Char.isDigit
    if digits.isEmpty then none
    else some (withExponent ('.' :: digits) (more.dropWhile Char.isDigit))
  | [], _ => none
  | '0' :: _ :: _, _ => none
  | _, '.' :: more =>
    some (withExponent (whole ++ '.' :: more.takeWhile Char.isDigit) (more.dropWhile Char.isDigit))
  | _, _ => some (withExponent whole behind)
where
  withExponent (number rest : List Char) : List Char × List Char :=
    match rest with
    | e :: more =>
      if e == 'e' || e == 'E' then
        let (sign, digits) :=
          match more with
          | '+' :: ds => (['+'], ds)
          | '-' :: ds => (['-'], ds)
          | ds => ([], ds)
        let exponent := digits.takeWhile Char.isDigit
        if exponent.isEmpty then (number, rest)
        else (number ++ e :: sign ++ exponent, digits.dropWhile Char.isDigit)
      else (number, rest)
    | [] => (number, [])

/-- The number with an optional sign that a text begins with, and the rest. Whole numbers must fit
sixty-four bits with a sign, or thirty-two in hexadecimal; a sign before hexadecimal digits or
before a word other than `-Infinity` and `-NaN` is refused. -/
def cutNumber? (cs : List Char) : Option (Scalar × List Char) :=
  let (sign, unsigned) :=
    match cs with
    | '+' :: rest => (['+'], rest)
    | '-' :: rest => (['-'], rest)
    | _ => ([], cs)
  let word := unsigned.takeWhile Char.isAlpha
  if word == "Infinity".toList || word == "NaN".toList then
    if sign == ['+'] then none
    else some (.number (String.ofList (sign ++ word)), unsigned.dropWhile Char.isAlpha)
  else
    match unsigned with
    | '0' :: x :: digits =>
      if x == 'x' || x == 'X' then
        let hex := digits.takeWhile isHexDigit
        if hex.isEmpty || !sign.isEmpty || !wholeBelow 16 limit32 hex then none
        else some (.number (String.ofList ('0' :: x :: hex)), digits.dropWhile isHexDigit)
      else plain sign unsigned
    | _ => plain sign unsigned
where
  plain (sign unsigned : List Char) : Option (Scalar × List Char) :=
    match cutDecimal? unsigned with
    | none => none
    | some (number, rest) =>
      let limit := if sign == ['-'] then limit63 + 1 else limit63
      let fits :=
        if number.all Char.isDigit then wholeBelow 10 limit number else isFinite number
      if fits then some (.number (String.ofList (sign ++ number)), rest) else none

/-! ## §5 Tokens -/

/-- A token of the lenient notation. -/
abbrev LenientToken := Token String Scalar

/-- The first token of a text that begins with neither a blank nor a comment, and the rest. -/
def cutToken? (cs : List Char) : Option (LenientToken × List Char) :=
  match cs with
  | [] => none
  | c :: rest =>
    match mark? c with
    | some mark => some (mark, rest)
    | none =>
      if c == '"' || c == '\'' then
        match pieces? c rest with
        | some (text, after) =>
          (joinPieces? text).map fun s =>
            (.scalar (some (String.ofList s)) (some (.string (String.ofList s))), after)
        | none => none
      else if c.isDigit || c == '+' || c == '-' || c == '.' then
        (cutNumber? (c :: rest)).map fun (number, after) => (.scalar none (some number), after)
      else
        match cutName true (c :: rest) with
        | ([], _) => none
        | (name, after) =>
          match joinPieces? name with
          | some key => some (.scalar (some (String.ofList key)) (wordValue? name), after)
          | none => none

/-- The tokens of a text. Each takes at least one character, so as many steps as there are
characters are enough. -/
def tokensWithin? : Nat → List Char → Option (List LenientToken)
  | _, [] => some []
  | 0, _ :: _ => none
  | steps + 1, '/' :: '/' :: rest => tokensWithin? steps (rest.dropWhile (!endsLine ·))
  | steps + 1, '/' :: '*' :: rest => (behindComment? rest).bind (tokensWithin? steps)
  | steps + 1, c :: rest =>
    if isGap c then tokensWithin? steps rest
    else
      match cutToken? (c :: rest) with
      | some (token, after) => (tokensWithin? steps after).map (token :: ·)
      | none => none

/-- Reads a value. -/
def parse? (text : String) : Option Value :=
  let cs := text.toList
  (tokensWithin? cs.length cs).bind (treeOfTokens? true)

end DeviceAccess.Json.Lenient
