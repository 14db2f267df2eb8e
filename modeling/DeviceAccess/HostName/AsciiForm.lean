import DeviceAccess.HostName.Label

/-!
# The ASCII form of a host name

A host name is respelled character by character, composed, and cut into labels at its dots. A label
that announces a spelling must be the spelling of an admissible label beyond ASCII and stays as it
is, in small letters; any other label must be admissible itself and is spelled in ASCII if it goes
beyond it.
-/

namespace DeviceAccess.HostName

open Text

/-- The mark in front of a label that is spelled in ASCII. -/
def announcement : List Char := ['x', 'n', '-', '-']

/-- A label in both forms. -/
structure Label where
  unicode : List Char
  ascii : List Char

/-- Both forms of a respelled label, if it is admissible. -/
def Label.of? (label : List Char) : Option Label :=
  match dropRun? announcement label with
  | some spelling =>
    if label.all isAscii then
      match Punycode.decode? spelling with
      | some unicode =>
        -- plain ASCII must not be announced: it would have two names
        if isAdmissible unicode && !unicode.all isAscii then some ⟨unicode, lower label⟩ else none
      | none => none
    else none
  | none =>
    if !isAdmissible label then none
    else if label.all isAscii then some ⟨label, label⟩
    else (Punycode.encode? label).map fun spelling => ⟨label, announcement ++ spelling⟩

/-- The ASCII form of a host name, or nothing if it has none. -/
def asciiForm? (name : List Char) : Option (List Char) := do
  let respelled ← name.mapM respell?
  let labels ← (pieces '.' (Unicode.composed respelled.flatten)).mapM Label.of?
  let mixed := labels.any fun label => label.unicode.any runsRightToLeft
  if mixed && !labels.all (fun label => keepsDirection label.unicode) then none
  else some (joinWith ['.'] (labels.map Label.ascii))

end DeviceAccess.HostName
