import DeviceAccess.HostName.MappingTable
import DeviceAccess.HostName.Punycode
import DeviceAccess.Text.Ascii
import DeviceAccess.Text.Cut
import DeviceAccess.Unicode.Category
import DeviceAccess.Unicode.Composition
import DeviceAccess.Unicode.Direction
import DeviceAccess.Unicode.Joining

/-!
# Host labels

Which labels a host name may consist of. A label in its Unicode form is admissible when it is in
composed normal form, holds only permitted characters, does not begin with a mark, and keeps the
zero-width joiners in the places where they show. A name with any right-to-left character must obey
the direction rule in each of its labels.

Length limits and the position of hyphens are not checked: a host here need not be a name that the
domain name system could register.
-/

namespace DeviceAccess.HostName

open Text Unicode

/-! ## §1 Characters -/

/-- An ASCII character. -/
def isAscii (c : Char) : Bool := c.toNat < 0x80

/-- ASCII characters that no host name contains: controls, the space, and those that end a host or
carry a meaning inside an address. -/
def isForbidden (c : Char) : Bool :=
  c.toNat ≤ 0x20 || c.toNat == 0x7F ||
    ['%', '#', '/', ':', '<', '>', '?', '@', '[', '\\', ']', '^', '|'].contains c

/-- What a character of a host name is spelled with, or nothing if it may not occur. Capitals of
ASCII become small; the other rules for ASCII keep or forbid a character. -/
def respell? (c : Char) : Option (List Char) :=
  if isAscii c then
    if isForbidden c then none else some [c.toLower]
  else if permitted.contains c then some [c]
  else if ignored.contains c then some []
  else replacements.find? c

/-- The character may stand in an admissible label. -/
def isPermitted (c : Char) : Bool :=
  if isAscii c then !isForbidden c && !c.isUpper else permitted.contains c

/-! ## §2 One label -/

/-- A combining mark. -/
def isMark (c : Char) : Bool := !isAscii c && marks.contains c

/-- A mark that joins the letters around it, so that a joiner behind it shows. -/
def isVirama (c : Char) : Bool := !isAscii c && combiningClass c == 9

/-- The zero-width characters that forbid and request a cursive join. -/
def nonJoiner : Char := '\u200c'
def joiner : Char := '\u200d'

/-- Each zero-width joiner stands behind a virama, or, for the one that forbids a join, between two
characters that would otherwise be joined. `before` is what precedes, nearest first. -/
def joinersShow (before : List Char) : List Char → Bool
  | [] => true
  | c :: rest =>
    let ok :=
      if c == joiner then behindVirama
      else if c == nonJoiner then behindVirama || betweenJoining rest
      else true
    ok && joinersShow (c :: before) rest
where
  behindVirama : Bool :=
    match before with
    | d :: _ => isVirama d
    | [] => false
  betweenJoining (rest : List Char) : Bool :=
    (match before.dropWhile joinTransparent.contains with
      | d :: _ => joinsNext d
      | [] => false) &&
    match rest.dropWhile joinTransparent.contains with
    | d :: _ => joinsPrevious d
    | [] => false

/-- The label may stand in a host name. -/
def isAdmissible (label : List Char) : Bool :=
  label.all isPermitted && (label.head?.all fun c => !isMark c) &&
    composed label == label && joinersShow [] label

/-! ## §3 Direction -/

/-- A character that makes its name a mixed-direction name. -/
def runsRightToLeft (c : Char) : Bool :=
  !isAscii c &&
    match direction c with
    | .rightToLeft | .arabicLetter | .arabicNumber => true
    | _ => false

/-- The direction rule for one label of a mixed-direction name. -/
def keepsDirection (label : List Char) : Bool :=
  match label.map direction with
  | [] => true
  | .leftToRight :: rest =>
    -- marks at the end belong to the character before them
    let kept := (rest.reverse.dropWhile (· == .nonspacing))
    (match kept with
      | [] => true
      | final :: _ => final == .leftToRight || final == .europeanNumber) &&
    kept.all fun d =>
      [.leftToRight, .europeanNumber, .europeanSeparator, .commonSeparator, .europeanTerminator,
        .otherNeutral, .boundaryNeutral, .nonspacing].contains d
  | first :: rest =>
    if first == .rightToLeft || first == .arabicLetter then
      let kept := (rest.reverse.dropWhile (· == .nonspacing))
      (match kept with
        | [] => true
        | final :: _ =>
          [.rightToLeft, .arabicLetter, .europeanNumber, .arabicNumber].contains final) &&
      (kept.all fun d =>
        [.rightToLeft, .arabicLetter, .arabicNumber, .europeanNumber, .europeanSeparator,
          .commonSeparator, .europeanTerminator, .otherNeutral, .boundaryNeutral,
          .nonspacing].contains d) &&
      !(kept.contains .europeanNumber && kept.contains .arabicNumber)
    else false

end DeviceAccess.HostName
