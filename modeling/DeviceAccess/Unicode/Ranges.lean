import DeviceAccess.Text.Ascii
import DeviceAccess.Text.Cut

/-!
# Tables over code points

Four kinds of table that the character data of this library is written in, each read once from a
text of hexadecimal items and searched by halving:

- `Ranges`, a set: `61-7a aa b5`,
- `Classes`, a numbered partition of part of the code space: `300-314:e6`,
- `Pairs`, characters with a spelling in two characters: `c0=41.300`,
- `Replacements`, characters or runs of characters with what stands for them: `c0-d6>e0`, where the
  members of a run keep their distance; `/2` behind a run takes every second member.

Items are in ascending order.
-/

namespace DeviceAccess.Unicode

open Text

/-! ## §1 Reading and searching -/

/-- The items of a table text, which blanks and line ends separate. -/
def tableItems (text : String) : List (List Char) :=
  go text.toList [] []
where
  go : List Char → List Char → List (List Char) → List (List Char)
    | [], word, words => (close word words).reverse
    | c :: cs, word, words =>
      if c == ' ' || c == '\n' then go cs [] (close word words) else go cs (c :: word) words
  close (word : List Char) (words : List (List Char)) : List (List Char) :=
    if word.isEmpty then words else word.reverse :: words

/-- A run of code points, both ends included. -/
structure Span where
  first : Nat
  last : Nat
  deriving Repr, Inhabited

/-- Reads `first-last`, or `first` for a run of one. -/
def Span.read (item : List Char) : Span :=
  match cutAt '-' item with
  | (a, some b) => ⟨digitsValue 16 a, digitsValue 16 b⟩
  | (a, none) => ⟨digitsValue 16 a, digitsValue 16 a⟩

/-- The entry whose span holds the code point, found by halving an ascending table. -/
def findSpan? {α : Type} (span : α → Span) (entries : Array α) (n : Nat) : Option α :=
  go 0 entries.size
where
  go (lo hi : Nat) : Option α :=
    if lo < hi then
      let mid := lo + (hi - lo) / 2
      match entries[mid]? with
      | none => none
      | some entry =>
        if n < (span entry).first then go lo mid
        else if (span entry).last < n then go (mid + 1) hi
        else some entry
    else none
  termination_by hi - lo

/-! ## §2 Sets -/

/-- A set of code points. -/
structure Ranges where
  spans : Array Span

/-- Reads a set. -/
def Ranges.read (text : String) : Ranges := ⟨((tableItems text).map Span.read).toArray⟩

/-- The character is in the set. -/
def Ranges.contains (r : Ranges) (c : Char) : Bool := (findSpan? id r.spans c.toNat).isSome

/-! ## §3 Classes -/

/-- A number for each code point, zero outside the listed spans. -/
structure Classes where
  entries : Array (Span × Nat)

/-- Reads a table of classes. -/
def Classes.read (text : String) : Classes :=
  ⟨((tableItems text).map fun item =>
    match cutAt ':' item with
    | (span, some number) => (Span.read span, digitsValue 16 number)
    | (span, none) => (Span.read span, 0)).toArray⟩

/-- The class of a character. -/
def Classes.classOf (t : Classes) (c : Char) : Nat :=
  match findSpan? Prod.fst t.entries c.toNat with
  | some (_, number) => number
  | none => 0

/-! ## §4 Pairs -/

/-- Characters that are one spelling of two others, ordered by the whole and by the two parts. -/
structure Pairs where
  byWhole : Array (Nat × Nat × Nat)
  byParts : Array (Nat × Nat)

/-- One number for two parts. -/
def Pairs.key (first second : Nat) : Nat := first * 0x20_0000 + second

/-- Reads a table of pairs. -/
def Pairs.read (text : String) : Pairs :=
  let entries := (tableItems text).map fun item =>
    match cutAt '=' item with
    | (whole, some parts) =>
      match cutAt '.' parts with
      | (a, some b) => (digitsValue 16 whole, digitsValue 16 a, digitsValue 16 b)
      | (a, none) => (digitsValue 16 whole, digitsValue 16 a, 0)
    | (whole, none) => (digitsValue 16 whole, 0, 0)
  let keyed := entries.map fun (whole, a, b) => (key a b, whole)
  ⟨entries.toArray, (keyed.mergeSort fun x y => x.1 ≤ y.1).toArray⟩

/-- The two parts of a character. -/
def Pairs.split? (t : Pairs) (c : Char) : Option (Char × Char) :=
  (findSpan? (fun e => ⟨e.1, e.1⟩) t.byWhole c.toNat).map fun (_, a, b) =>
    (Char.ofNat a, Char.ofNat b)

/-- The character that two parts spell. -/
def Pairs.join? (t : Pairs) (a b : Char) : Option Char :=
  (findSpan? (fun e => ⟨e.1, e.1⟩) t.byParts (key a.toNat b.toNat)).map fun (_, whole) =>
    Char.ofNat whole

/-! ## §5 Replacements -/

/-- A run of characters with a common rule of replacement. -/
structure Replacement where
  span : Span
  step : Nat
  target : List Nat
  deriving Inhabited

/-- Characters with what stands for them. -/
structure Replacements where
  entries : Array Replacement

/-- Reads a table of replacements. -/
def Replacements.read (text : String) : Replacements :=
  ⟨((tableItems text).map fun item =>
    let (source, target) := cutAt '>' item
    let (span, step) := cutAt '/' source
    { span := Span.read span
      step := if step.isSome then 2 else 1
      target := (pieces '.' (target.getD [])).map (digitsValue 16) : Replacement }).toArray⟩

/-- What stands for a character, if it is replaced. -/
def Replacements.find? (t : Replacements) (c : Char) : Option (List Char) :=
  match findSpan? Replacement.span t.entries c.toNat with
  | none => none
  | some r =>
    let distance := c.toNat - r.span.first
    if distance % r.step != 0 then none
    else
      match r.target with
      | [base] => some [Char.ofNat (base + distance)]
      | several => some (several.map Char.ofNat)

end DeviceAccess.Unicode
