/-!
# Punycode

The spelling of a host label beyond ASCII in ASCII letters and digits: the ASCII characters of the
label, a hyphen, and then for each other character, in ascending order, how far it lies from the
one before, as a number of varying length.

Both directions recurse on their input. The two arithmetic loops, the digits of a distance and the
adaptation of the bias, end because the number at hand shrinks.
-/

namespace DeviceAccess.HostName.Punycode

/-! ## §1 Digits and bias -/

/-- The digit that stands for a value below thirty-six: letters first, then decimal digits. -/
def digit (value : Nat) : Char :=
  if value < 26 then Char.ofNat ('a'.toNat + value) else Char.ofNat ('0'.toNat + (value - 26))

/-- The value of a digit in either case. -/
def digitValue? (c : Char) : Option Nat :=
  if 'a' ≤ c ∧ c ≤ 'z' then some (c.toNat - 'a'.toNat)
  else if 'A' ≤ c ∧ c ≤ 'Z' then some (c.toNat - 'A'.toNat)
  else if '0' ≤ c ∧ c ≤ '9' then some (c.toNat - '0'.toNat + 26)
  else none

/-- The smallest value of a digit at position `k` that another digit follows. -/
def threshold (bias k : Nat) : Nat := max 1 (min 26 (k - bias))

theorem threshold_pos (bias k : Nat) : 1 ≤ threshold bias k := by unfold threshold; omega

theorem threshold_le (bias k : Nat) : threshold bias k ≤ 26 := by unfold threshold; omega

/-- The bias after a distance, from the damped distance. -/
def settle (delta k : Nat) : Nat :=
  if 455 < delta then settle (delta / 35) (k + 36) else k + 36 * delta / (delta + 38)
termination_by delta
decreasing_by omega

/-- The bias for the next distance; `count` characters have their place now. -/
def adapt (delta count : Nat) (isFirst : Bool) : Nat :=
  let damped := if isFirst then delta / 700 else delta / 2
  settle (damped + damped / count) 0

/-! ## §2 Writing -/

/-- The digits of a distance from position `k` on. -/
def distanceDigits (bias k distance : Nat) : List Char :=
  let t := threshold bias k
  if distance < t then [digit distance]
  else
    digit (t + (distance - t) % (36 - t)) ::
      distanceDigits bias (k + 36) ((distance - t) / (36 - t))
termination_by distance
decreasing_by
  have low := threshold_pos bias k
  have high := threshold_le bias k
  calc (distance - threshold bias k) / (36 - threshold bias k)
      ≤ distance - threshold bias k := Nat.div_le_self _ _
    _ < distance := by omega

/-- What the writer knows between two characters: the digits so far, the distance since the last
character written, the bias, and how many characters have their place. -/
structure Progress where
  written : List Char
  distance : Nat
  bias : Nat
  placed : Nat

/-- Passes one character of the label while the occurrences of code point `n` are being placed. -/
def pass (basic n : Nat) (p : Progress) (c : Char) : Progress :=
  if c.toNat < n then { p with distance := p.distance + 1 }
  else if c.toNat = n then
    { written := p.written ++ distanceDigits p.bias 36 p.distance
      distance := 0
      bias := adapt p.distance (p.placed + 1) (p.placed == basic)
      placed := p.placed + 1 }
  else p

/-- Places the occurrences of each code point of an ascending list; all below `floor` have their
place. -/
def placeAll (label : List Char) (basic : Nat) : Nat → Progress → List Nat → Progress
  | _, p, [] => p
  | floor, p, n :: rest =>
    let reached := { p with distance := p.distance + (n - floor) * (p.placed + 1) }
    let passed := label.foldl (pass basic n) reached
    placeAll label basic (n + 1) { passed with distance := passed.distance + 1 } rest

/-- Inserts a number into an ascending list, once. -/
def insertOnce (n : Nat) : List Nat → List Nat
  | [] => [n]
  | m :: ms => if n < m then n :: m :: ms else if n = m then m :: ms else m :: insertOnce n ms

/-- The spelling of a label, without the mark that announces it. A label of more than a thousand
characters has none. -/
def encode? (label : List Char) : Option (List Char) :=
  if 1000 < label.length then none
  else
    let basic := label.filter fun c => c.toNat < 0x80
    let others := (label.filter fun c => !(c.toNat < 0x80)).foldr (insertOnce ·.toNat) []
    let start := { written := [], distance := 0, bias := 72, placed := basic.length : Progress }
    let separator := if basic.isEmpty then [] else ['-']
    some (basic ++ separator ++ (placeAll label basic.length 0x80 start others).written)

/-! ## §3 Reading -/

/-- What the reader knows between two digits: the characters so far, the code point and place that
were reached, the bias, whether no distance was read yet, and the distance being read with the
weight and the position of its next digit. -/
structure Reading where
  chars : List Char
  point : Nat
  place : Nat
  bias : Nat
  isFirst : Bool
  distance : Nat
  weight : Nat
  position : Nat

/-- The reader between two distances. -/
def Reading.isComplete (r : Reading) : Bool := r.position == 36

/-- Reads one digit. The last digit of a distance inserts a character, which must be one. -/
def Reading.step (r : Reading) (c : Char) : Option Reading := do
  let value ← digitValue? c
  let distance := r.distance + value * r.weight
  let t := threshold r.bias r.position
  if t ≤ value then
    -- another digit of the same distance follows
    some { r with
      distance := distance, weight := r.weight * (36 - t), position := r.position + 36 }
  else
    -- places are counted through all code points, `count` to each
    let count := r.chars.length + 1
    let place := r.place + distance
    let point := r.point + place / count
    if point < 0xD800 || (0xDFFF < point && point < 0x110000) then
      some
        { chars := r.chars.insertIdx (place % count) (Char.ofNat point)
          point := point
          place := place % count + 1
          bias := adapt distance count r.isFirst
          isFirst := false
          distance := 0
          weight := 1
          position := 36 }
    else none

/-- The part before the last hyphen and the part behind it. -/
def splitLastHyphen (cs : List Char) : List Char × List Char :=
  let behind := (cs.reverse.takeWhile (· != '-')).reverse
  (cs.take (cs.length - behind.length - 1), behind)

/-- The label that a spelling stands for. Spellings of more than two thousand characters are not
read. -/
def decode? (spelling : List Char) : Option (List Char) :=
  if 2000 < spelling.length then none
  else
    let (basic, digits) := splitLastHyphen spelling
    let start :=
      { chars := basic, point := 0x80, place := 0, bias := 72, isFirst := true
        distance := 0, weight := 1, position := 36 : Reading }
    match digits.foldlM Reading.step start with
    | some r => if r.isComplete then some r.chars else none
    | none => none

end DeviceAccess.HostName.Punycode
