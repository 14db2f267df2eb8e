import DeviceAccess.Json.Token
import DeviceAccess.Json.Value
import DeviceAccess.Text.Magnitude
import DeviceAccess.Text.Utf8

/-!
# The strict notation

A text is read in two steps. The first finds its shape: brackets and commas balance, numbers and
escapes have their form. The second gives the shape a meaning: escapes become characters, which
halves of a pair standing alone do not, and numbers must not be too large. A member of a record that
nobody asks for goes through the first step only.
-/

namespace DeviceAccess.Json

open Text

/-! ## §1 Shapes -/

/-- A leaf as it is written: numbers and texts, the latter between their quotes, are not
interpreted. -/
inductive Spelling where
  | null
  | bool (b : Bool)
  | number (spelling : List Char)
  | string (spelling : List Char)
  deriving DecidableEq, Repr

/-- A document as it is written. -/
abbrev Shape := Tree (List Char) Spelling

/-- A token of a shape. -/
abbrev ShapeToken := Token (List Char) Spelling

/-- A blank between tokens. -/
def isGap (c : Char) : Bool := c == ' ' || c == '\t' || c == '\n' || c == '\r'

/-- The letters that may follow a backslash, other than `u`. -/
def escapeLetters : List Char := ['"', '\\', '/', 'b', 'f', 'n', 'r', 't']

/-- The spelling of a text up to its closing quote, and what follows the quote. -/
def cutText? : List Char → Option (List Char × List Char)
  | [] => none
  | '"' :: rest => some ([], rest)
  | '\\' :: 'u' :: a :: b :: c :: d :: rest =>
    if [a, b, c, d].all isHexDigit then
      (cutText? rest).map fun (text, after) => ('\\' :: 'u' :: a :: b :: c :: d :: text, after)
    else none
  | '\\' :: e :: rest =>
    if escapeLetters.contains e then
      (cutText? rest).map fun (text, after) => ('\\' :: e :: text, after)
    else none
  | c :: rest =>
    if c.toNat < 0x20 || c == '\\' then none
    else (cutText? rest).map fun (text, after) => (c :: text, after)

theorem cutText?_lt {cs text after : List Char} (h : cutText? cs = some (text, after)) :
    after.length < cs.length := by
  fun_induction cutText? cs generalizing text after with
  | case1 => simp at h
  | case2 rest => simp_all
  | case3 a b c d rest hex ih =>
    obtain ⟨⟨t, s⟩, found, same⟩ := Option.map_eq_some_iff.1 h
    simp only [Prod.mk.injEq] at same
    have := ih found
    simp only [← same.2, List.length_cons]
    omega
  | case4 => simp at h
  | case5 e rest _ known ih =>
    obtain ⟨⟨t, s⟩, found, same⟩ := Option.map_eq_some_iff.1 h
    simp only [Prod.mk.injEq] at same
    have := ih found
    simp only [← same.2, List.length_cons]
    omega
  | case6 => simp at h
  | case7 => simp at h
  | case8 c rest _ _ _ _ ih =>
    obtain ⟨⟨t, s⟩, found, same⟩ := Option.map_eq_some_iff.1 h
    simp only [Prod.mk.injEq] at same
    have := ih found
    simp only [← same.2, List.length_cons]
    omega

/-- A character that a number may contain. -/
def isNumberChar (c : Char) : Bool :=
  c.isDigit || c == '-' || c == '+' || c == '.' || c == 'e' || c == 'E'

/-- A non-empty run of digits. -/
def isDigits (cs : List Char) : Bool := !cs.isEmpty && cs.all Char.isDigit

/-- The spelling has the form of a number: no superfluous zero, a digit on both sides of a point,
digits in an exponent. -/
def isNumber (spelling : List Char) : Bool :=
  let unsigned :=
    match spelling with
    | '-' :: rest => rest
    | _ => spelling
  let whole := unsigned.takeWhile Char.isDigit
  let behind := unsigned.dropWhile Char.isDigit
  (isDigits whole && (whole.length == 1 || whole.head? != some '0')) &&
    match behind with
    | '.' :: more =>
      isDigits (more.takeWhile Char.isDigit) && isExponent (more.dropWhile Char.isDigit)
    | _ => isExponent behind
where
  isExponent : List Char → Bool
    | [] => true
    | e :: rest =>
      (e == 'e' || e == 'E') &&
        match rest with
        | '+' :: digits => isDigits digits
        | '-' :: digits => isDigits digits
        | digits => isDigits digits

/-- The leaf that a word spells. -/
def word? (word : List Char) : Option Spelling :=
  if word = ['n', 'u', 'l', 'l'] then some .null
  else if word = ['t', 'r', 'u', 'e'] then some (.bool true)
  else if word = ['f', 'a', 'l', 's', 'e'] then some (.bool false)
  else none

/-- The mark that a character is by itself. -/
def mark? {κ α : Type} (c : Char) : Option (Token κ α) :=
  match c with
  | '[' => some .openArray
  | ']' => some .closeArray
  | '{' => some .openObject
  | '}' => some .closeObject
  | ',' => some .comma
  | ':' => some .colon
  | _ => none

theorem length_dropWhile_le {α : Type} (p : α → Bool) (xs : List α) :
    (xs.dropWhile p).length ≤ xs.length :=
  (List.dropWhile_suffix p).length_le

/-- The tokens of a text. -/
def tokens? : List Char → Option (List ShapeToken)
  | [] => some []
  | c :: cs =>
    if isGap c then tokens? cs
    else
      match mark? c with
      | some mark => (tokens? cs).map (mark :: ·)
      | none =>
        if c == '"' then
          match _cut : cutText? cs with
          | some (text, after) =>
            (tokens? after).map (.scalar (some text) (some (.string text)) :: ·)
          | none => none
        else if isNumberChar c then
          let spelling := c :: cs.takeWhile isNumberChar
          if isNumber spelling then
            (tokens? (cs.dropWhile isNumberChar)).map
              (.scalar none (some (.number spelling)) :: ·)
          else none
        else
          match word? (c :: cs.takeWhile Char.isAlpha) with
          | some word => (tokens? (cs.dropWhile Char.isAlpha)).map (.scalar none (some word) :: ·)
          | none => none
termination_by cs => cs.length
decreasing_by
  · simp
  · simp
  · have := cutText?_lt ‹_›
    simp only [List.length_cons]
    omega
  · have := length_dropWhile_le isNumberChar cs
    simp only [List.length_cons]
    omega
  · have := length_dropWhile_le Char.isAlpha cs
    simp only [List.length_cons]
    omega

/-- The shape of a text. -/
def shape? (cs : List Char) : Option Shape := (tokens? cs).bind (treeOfTokens? false)

/-! ## §2 Meaning -/

/-- The character that a letter behind a backslash stands for. -/
def escaped (letter : Char) : Char :=
  match letter with
  | 'b' => '\x08'
  | 'f' => '\x0c'
  | 'n' => '\n'
  | 'r' => '\r'
  | 't' => '\t'
  | c => c

/-- The character that a pair of halves stands for. -/
def joinHalves (high low : Nat) : Char :=
  Char.ofNat (0x10000 + (high - 0xD800) * 0x400 + (low - 0xDC00))

/-- A half of a pair that comes first, and one that comes second. -/
def isHighHalf (unit : Nat) : Bool := 0xD800 ≤ unit && unit < 0xDC00
def isLowHalf (unit : Nat) : Bool := 0xDC00 ≤ unit && unit < 0xE000

/-- The text that a spelling between quotes stands for. -/
def unescape? : List Char → Option (List Char)
  | '\\' :: 'u' :: a :: b :: c :: d :: rest =>
    let unit := digitsValue 16 [a, b, c, d]
    if isHighHalf unit then
      -- a first half means something only with the second one behind it
      match rest with
      | '\\' :: 'u' :: e :: f :: g :: h :: rest' =>
        let second := digitsValue 16 [e, f, g, h]
        if isLowHalf second then (unescape? rest').map (joinHalves unit second :: ·) else none
      | _ => none
    else if isLowHalf unit then none
    else (unescape? rest).map (Char.ofNat unit :: ·)
  | '\\' :: e :: rest => (unescape? rest).map (escaped e :: ·)
  | c :: rest => (unescape? rest).map (c :: ·)
  | [] => some []

/-- The text of a key. -/
def key? (spelling : List Char) : Option String := (unescape? spelling).map String.ofList

/-- The text that a shape is. -/
def Shape.string? : Shape → Option String
  | .leaf (.string spelling) => key? spelling
  | _ => none

/-- The scalar that a leaf stands for. -/
def scalar? : Spelling → Option Scalar
  | .null => some .null
  | .bool b => some (.bool b)
  | .number spelling =>
    if isFinite spelling then some (.number (String.ofList spelling)) else none
  | .string spelling => (key? spelling).map .string

/-- How many containers may be nested in each other. -/
def maxDepth : Nat := 127

/-- The value that a shape stands for, at a place inside `outer` containers. -/
def Shape.value? (outer : Nat) (s : Shape) : Option Value :=
  -- members that nobody asks for are not counted, whatever their depth
  if outer + s.depth ≤ maxDepth then s.interpret? key? scalar? else none

/-- Reads a value. -/
def parse? (text : String) : Option Value := (shape? text.toList).bind (Shape.value? 0)

end DeviceAccess.Json
