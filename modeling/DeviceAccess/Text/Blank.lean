/-!
# Blank characters

The characters with the property `White_Space`, and the removal of them from both ends of a text.
Every place that trims a pattern, a host, a version or a name uses this set.
-/

namespace DeviceAccess.Text

/-- A character with the property `White_Space`. -/
def isBlank (c : Char) : Bool :=
  let n := c.toNat
  (0x09 ≤ n && n ≤ 0x0D) || n == 0x20 || n == 0x85 || n == 0xA0 || n == 0x1680 ||
    (0x2000 ≤ n && n ≤ 0x200A) || n == 0x2028 || n == 0x2029 || n == 0x202F ||
    n == 0x205F || n == 0x3000

/-- One of the five blanks of ASCII that an armoured block may contain anywhere: tab, line feed,
form feed, carriage return and space. -/
def isAsciiBlank (c : Char) : Bool :=
  c == ' ' || c == '\t' || c == '\n' || c == '\x0c' || c == '\r'

/-- The list without its leading members that satisfy `p` and without its trailing ones. -/
def stripBoth {α : Type} (p : α → Bool) (xs : List α) : List α :=
  ((xs.dropWhile p).reverse.dropWhile p).reverse

/-- The characters without the blanks at either end. -/
def trim (cs : List Char) : List Char := stripBoth isBlank cs

/-- The text without the blanks at either end. -/
def trimText (s : String) : String := String.ofList (trim s.toList)

/-- The trimmed text, if anything is left of it. -/
def nonBlank? (s : String) : Option String :=
  let t := trimText s
  if t.isEmpty then none else some t

example : trimText "\u3000 a b\u0085" = "a b" := by decide

end DeviceAccess.Text
