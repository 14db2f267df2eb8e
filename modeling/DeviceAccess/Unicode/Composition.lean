import DeviceAccess.Unicode.Combining

/-!
# Canonical composition

The composed normal form of a list of characters: each is taken apart as far as it goes, marks are
put into the order of their classes, and what can be joined is joined. Syllables of Hangul are
taken apart and joined by arithmetic.
-/

namespace DeviceAccess.Unicode

/-! ## §1 Hangul -/

/-- The first leading consonant, vowel and trailing position, and the first syllable. -/
def hangulLead : Nat := 0x1100
def hangulVowel : Nat := 0x1161
def hangulTrail : Nat := 0x11A7
def hangulSyllable : Nat := 0xAC00

/-- How many vowels, trails and syllables there are; the trails count their absence. -/
def hangulVowels : Nat := 21
def hangulTrails : Nat := 28
def hangulSyllables : Nat := 11172

/-- The letters of a syllable. -/
def splitSyllable? (c : Char) : Option (List Char) :=
  let n := c.toNat
  if n < hangulSyllable || hangulSyllable + hangulSyllables ≤ n then none
  else
    let index := n - hangulSyllable
    let lead := Char.ofNat (hangulLead + index / (hangulVowels * hangulTrails))
    let vowel := Char.ofNat (hangulVowel + index % (hangulVowels * hangulTrails) / hangulTrails)
    let trail := index % hangulTrails
    some (if trail = 0 then [lead, vowel] else [lead, vowel, Char.ofNat (hangulTrail + trail)])

/-- The syllable, or the longer syllable, that two neighbours make. -/
def joinSyllable? (a b : Char) : Option Char :=
  let x := a.toNat
  let y := b.toNat
  if hangulLead ≤ x && x < hangulLead + 19 && hangulVowel ≤ y && y < hangulVowel + hangulVowels then
    some (Char.ofNat (hangulSyllable +
      ((x - hangulLead) * hangulVowels + (y - hangulVowel)) * hangulTrails))
  else if hangulSyllable ≤ x && x < hangulSyllable + hangulSyllables &&
      (x - hangulSyllable) % hangulTrails == 0 && hangulTrail < y && y < hangulTrail + hangulTrails
  then some (Char.ofNat (x + (y - hangulTrail)))
  else none

/-! ## §2 Taking apart -/

/-- The canonical spelling of a character, taken apart at most `depth` times; no character needs
more than four. -/
def takeApart : Nat → Char → List Char
  | 0, c => [c]
  | depth + 1, c =>
    match splitSyllable? c with
    | some letters => letters
    | none =>
      match canonicalPairs.split? c with
      | some (base, mark) => takeApart depth base ++ [mark]
      | none => [c]

/-- Puts a character in front of a list, behind the marks of lower class that stand first in it. -/
def insertByClass (c : Char) : List Char → List Char
  | [] => [c]
  | d :: ds =>
    if 0 < combiningClass d && combiningClass d < combiningClass c then d :: insertByClass c ds
    else c :: d :: ds

/-- The decomposed normal form: taken apart, with each run of marks in the order of classes. -/
def decomposed (cs : List Char) : List Char :=
  (cs.flatMap (takeApart 4)).foldr insertByClass []

/-! ## §3 Joining -/

/-- The character that a starter and a following character spell together. -/
def join? (a b : Char) : Option Char :=
  match joinSyllable? a b with
  | some c => some c
  | none => canonicalPairs.join? a b

/-- Joins what follows a starter to it. `marks` holds, last first, the marks since the starter that
did not join. -/
def joinAfter (starter : Char) (marks : List Char) : List Char → List Char
  | [] => starter :: marks.reverse
  | c :: cs =>
    let blocked :=
      match marks with
      | [] => false
      | m :: _ => combiningClass m == 0 || combiningClass c ≤ combiningClass m
    match if blocked then none else join? starter c with
    | some whole => joinAfter whole marks cs
    | none =>
      if combiningClass c == 0 then starter :: (marks.reverse ++ joinAfter c [] cs)
      else joinAfter starter (c :: marks) cs

/-- Joins a decomposed list; marks before the first starter stay as they are. -/
def joined : List Char → List Char
  | [] => []
  | c :: cs => if combiningClass c == 0 then joinAfter c [] cs else c :: joined cs

/-- The composed normal form. A list of ASCII characters is its own. -/
def composed (cs : List Char) : List Char :=
  if cs.all (fun c => c.toNat < 0x80) then cs else joined (decomposed cs)

end DeviceAccess.Unicode
