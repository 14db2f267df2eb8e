import DeviceAccess.Text.Magnitude
import DeviceAccess.Toml.Quoted
import DeviceAccess.Toml.Value

/-!
# Leaves

The leaves of configuration files as they are written: texts, truth values, whole numbers of
sixty-four bits in four bases, numbers with a point or an exponent, and points in time. A point in
time is put into its canonical spelling, all others are only checked.
-/

namespace DeviceAccess.Toml

open Text

/-! ## §1 Numbers -/

/-- The digits that a text begins with, single underscores between them, and the rest. -/
def cutDigits (isDigit : Char → Bool) : List Char → List Char × List Char
  | [] => ([], [])
  | ['_'] => ([], ['_'])
  | '_' :: d :: rest =>
    if isDigit d then
      let (digits, behind) := cutDigits isDigit (d :: rest)
      (digits, behind)
    else ([], '_' :: d :: rest)
  | d :: rest =>
    if isDigit d then
      let (digits, behind) := cutDigits isDigit rest
      (d :: digits, behind)
    else ([], d :: rest)

/-- Digits that begin with a digit, and the rest. -/
def cutNumeral? (isDigit : Char → Bool) (cs : List Char) : Option (List Char × List Char) :=
  if (cs.head?.map isDigit).getD false then some (cutDigits isDigit cs) else none

/-- A whole number in one of the bases that are marked, and the rest. -/
def cutMarked? (base : Nat) (cs : List Char) : Option (List Char × List Char) :=
  match cutNumeral? (isDigitOf base) cs with
  | some (digits, rest) => if digitsValue base digits < limit63 then some (digits, rest) else none
  | none => none

/-- The exponent that a text begins with, empty if there is none, and the rest. -/
def cutExponent (cs : List Char) : List Char × List Char :=
  match cs with
  | e :: more =>
    if e == 'e' || e == 'E' then
      let (sign, digits) :=
        match more with
        | '+' :: ds => (['+'], ds)
        | '-' :: ds => (['-'], ds)
        | ds => ([], ds)
      match cutNumeral? Char.isDigit digits with
      | some (exponent, rest) => (e :: sign ++ exponent, rest)
      | none => ([], cs)
    else ([], cs)
  | [] => ([], [])

/-- The part behind the point that a text begins with, empty if there is none, and the rest. -/
def cutFraction (cs : List Char) : List Char × List Char :=
  match cs with
  | '.' :: more =>
    match cutNumeral? Char.isDigit more with
    | some (digits, rest) => ('.' :: digits, rest)
    | none => ([], cs)
  | _ => ([], cs)

/-- A decimal number behind its sign, and the rest. -/
def cutDecimal? (sign cs : List Char) : Option (List Char × List Char) :=
  match cutNumeral? Char.isDigit cs with
  | none => none
  | some (whole, behind) =>
    if whole.head? == some '0' && 1 < whole.length then none
    else
      let (fraction, behindFraction) := cutFraction behind
      let (exponent, rest) := cutExponent behindFraction
      let negative := sign == ['-']
      let number := whole ++ fraction ++ exponent
      let exists_ :=
        if fraction.isEmpty && exponent.isEmpty then
          digitsValue 10 whole < if negative then limit63 + 1 else limit63
        -- what is too large counts as infinite, and only the positive infinity is refused
        else negative || isFinite number
      if exists_ then some (sign ++ number, rest) else none

/-- A number, and the rest. -/
def cutNumber? (cs : List Char) : Option (List Char × List Char) :=
  match cs with
  | '0' :: 'x' :: rest => cutMarked? 16 rest
  | '0' :: 'o' :: rest => cutMarked? 8 rest
  | '0' :: 'b' :: rest => cutMarked? 2 rest
  | _ =>
    let (sign, unsigned) :=
      match cs with
      | '+' :: rest => (['+'], rest)
      | '-' :: rest => (['-'], rest)
      | _ => ([], cs)
    match unsigned with
    | 'i' :: 'n' :: 'f' :: rest => some (sign ++ ['i', 'n', 'f'], rest)
    | 'n' :: 'a' :: 'n' :: rest => some (sign ++ ['n', 'a', 'n'], rest)
    | _ => cutDecimal? sign unsigned

/-! ## §2 Points in time -/

/-- Two digits for a number up to `last`, and the rest. -/
def cutPair? (last : Nat) : List Char → Option (Nat × List Char)
  | a :: b :: rest =>
    if a.isDigit && b.isDigit && digitsValue 10 [a, b] ≤ last then
      some (digitsValue 10 [a, b], rest)
    else none
  | _ => none

/-- How many days a month has. -/
def daysIn (year month : Nat) : Nat :=
  if month = 2 then
    (if year % 4 = 0 ∧ (year % 100 ≠ 0 ∨ year % 400 = 0) then 29 else 28)
  else if [4, 6, 9, 11].contains month then 30
  else 31

/-- A number in two digits. -/
def twoDigits (n : Nat) : List Char := [hexDigit (n / 10), hexDigit (n % 10)]

/-- A date, and the rest. -/
def cutDate? (cs : List Char) : Option (List Char × List Char) :=
  match cs with
  | a :: b :: c :: d :: '-' :: rest => do
    let year := [a, b, c, d]
    guard (year.all Char.isDigit)
    let (month, rest) ← cutPair? 12 rest
    match rest with
    | '-' :: rest =>
      let (day, rest) ← cutPair? 31 rest
      guard (1 ≤ month && 1 ≤ day && day ≤ daysIn (digitsValue 10 year) month)
      return (year ++ ['-'] ++ twoDigits month ++ ['-'] ++ twoDigits day, rest)
    | _ => none
  | _ => none

/-- The fraction of a second that a text begins with, nine digits at most and without zeros at its
end, and the rest. -/
def cutSecondFraction (cs : List Char) : List Char × List Char :=
  match cs with
  | '.' :: more =>
    let digits := more.takeWhile Char.isDigit
    let shown := ((digits.take 9).reverse.dropWhile (· == '0')).reverse
    if digits.isEmpty then ([], cs)
    else (if shown.isEmpty then [] else '.' :: shown, more.dropWhile Char.isDigit)
  | _ => ([], cs)

/-- A time of day, and the rest. -/
def cutTime? (cs : List Char) : Option (List Char × List Char) := do
  let (hour, rest) ← cutPair? 23 cs
  match rest with
  | ':' :: rest =>
    let (minute, rest) ← cutPair? 59 rest
    match rest with
    | ':' :: rest =>
      let (second, rest) ← cutPair? 60 rest
      let (fraction, rest) := cutSecondFraction rest
      return (twoDigits hour ++ [':'] ++ twoDigits minute ++ [':'] ++ twoDigits second ++ fraction,
        rest)
    | _ => none
  | _ => none

/-- The distance from universal time that a text begins with, empty if there is none, and the
rest. -/
def cutOffset? (cs : List Char) : Option (List Char × List Char) :=
  match cs with
  | 'Z' :: rest | 'z' :: rest => some (['Z'], rest)
  | sign :: more =>
    if sign == '+' || sign == '-' then do
      let (hours, rest) ← cutPair? 23 more
      match rest with
      | ':' :: rest =>
        let (minutes, rest) ← cutPair? 59 rest
        return (sign :: twoDigits hours ++ [':'] ++ twoDigits minutes, rest)
      | _ => none
    else some ([], cs)
  | [] => some ([], [])

/-- The mark between a date and a time. -/
def isTimeMark (c : Char) : Bool := c == 'T' || c == 't' || c == ' '

/-- A point in time, a date or a time of day, and the rest. -/
def cutMoment? (cs : List Char) : Option (List Char × List Char) :=
  match cutDate? cs with
  | none => cutTime? cs
  | some (date, rest) =>
    match rest with
    | mark :: more =>
      match if isTimeMark mark then cutTime? more else none with
      | some (time, behind) =>
        (cutOffset? behind).map fun (offset, last) => (date ++ ['T'] ++ time ++ offset, last)
      | none => some (date, rest)
    | [] => some (date, [])

/-! ## §3 Leaves -/

/-- A leaf, and the rest. -/
def cutScalar? (cs : List Char) : Option (Scalar × List Char) :=
  match cs with
  | 't' :: 'r' :: 'u' :: 'e' :: rest => some (.bool true, rest)
  | 'f' :: 'a' :: 'l' :: 's' :: 'e' :: rest => some (.bool false, rest)
  | c :: _ =>
    if c == '"' || c == '\'' then
      (quoted? cs).map fun (text, rest) => (.string (String.ofList text), rest)
    else
      match cutMoment? cs with
      | some (spelling, rest) => some (.moment (String.ofList spelling), rest)
      | none =>
        (cutNumber? cs).map fun (spelling, rest) => (.number (String.ofList spelling), rest)
  | [] => none

end DeviceAccess.Toml
