/-!
# UTF-8

Octet sequences and the characters they encode. Reading is strict: an overlong form, a surrogate,
a code point beyond the last one or a cut-off sequence makes the whole sequence unreadable.
-/

namespace DeviceAccess.Text

/-- An octet sequence. -/
abbrev Octets := List UInt8

/-- The UTF-8 form of a list of characters. -/
def utf8 (cs : List Char) : Octets := cs.flatMap String.utf8EncodeChar

/-- The UTF-8 form of a text. -/
def utf8Text (s : String) : Octets := utf8 s.toList

/-- The characters that a sequence encodes, if it is well-formed. -/
def ofUtf8? (octets : Octets) : Option (List Char) :=
  octets.toByteArray.utf8Decode?.map Array.toList

/-- The text that a sequence encodes, if it is well-formed. -/
def textOfUtf8? (octets : Octets) : Option String := (ofUtf8? octets).map String.ofList

/-- Reading undoes writing. -/
theorem ofUtf8?_utf8 (cs : List Char) : ofUtf8? (utf8 cs) = some cs := by
  have encoded : (utf8 cs).toByteArray = cs.utf8Encode := by simp [utf8, List.utf8Encode]
  simp [ofUtf8?, encoded, List.utf8Decode?_utf8Encode]

end DeviceAccess.Text
