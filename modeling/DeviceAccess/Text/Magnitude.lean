import DeviceAccess.Text.Decimal

/-!
# The size of numbers

Numbers in decimal notation that are too large for double precision do not exist. A number is only
compared with the least number that is too large, in whole numbers, and never rounded.
-/

namespace DeviceAccess.Text

/-- The least number that is too large: halfway between the largest number of double precision and
the one that would follow it. -/
def tooLarge : Nat := Nat.pow 2 1024 - Nat.pow 2 970

/-- A number `digits * 10 ^ (raised - lowered)` is below the least number that is too large. -/
def isInRange (digits raised lowered : Nat) : Bool :=
  if digits = 0 then true
  else
    let length := (decimal digits).length
    if lowered + 400 < length + raised then false
    else if length + raised < lowered + 300 then true
    else digits * Nat.pow 10 (raised - lowered) < tooLarge * Nat.pow 10 (lowered - raised)

/-- A number in decimal notation, with or without sign, point and exponent, is small enough. -/
def isFinite (spelling : List Char) : Bool :=
  let unsigned :=
    match spelling with
    | '-' :: rest => rest
    | '+' :: rest => rest
    | _ => spelling
  let mantissa := unsigned.takeWhile fun c => c != 'e' && c != 'E'
  let exponent := (unsigned.dropWhile fun c => c != 'e' && c != 'E').drop 1
  let whole := mantissa.takeWhile Char.isDigit
  let fraction := (mantissa.dropWhile Char.isDigit).drop 1
  let digits := digitsValue 10 (whole ++ fraction)
  match exponent with
  | '-' :: e => isInRange digits 0 (digitsValue 10 e + fraction.length)
  | '+' :: e => isInRange digits (digitsValue 10 e) fraction.length
  | e => isInRange digits (digitsValue 10 e) fraction.length

end DeviceAccess.Text
