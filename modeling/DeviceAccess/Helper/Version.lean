import DeviceAccess.Text.Blank
import DeviceAccess.Text.Cut
import DeviceAccess.Text.Decimal

/-!
# Versions of the helper

A version has one to four numbers with dots between them. Of the first three a missing one is zero.
The fourth, the revision, decides between versions that agree in the others, and a version without
revision comes before any with one.
-/

namespace DeviceAccess

open Text

/-- A version. -/
structure Version where
  major : Nat
  minor : Nat
  patch : Nat
  revision : Option Nat
  deriving DecidableEq, Repr

namespace Version

/-- The version with the given numbers, if there are one to four. -/
def ofNumbers? : List Nat → Option Version
  | [a] => some ⟨a, 0, 0, none⟩
  | [a, b] => some ⟨a, b, 0, none⟩
  | [a, b, c] => some ⟨a, b, c, none⟩
  | [a, b, c, d] => some ⟨a, b, c, some d⟩
  | _ => none

/-- Reads a version. Blanks around it do not count, and every number fits sixty-four bits. -/
def parse? (text : String) : Option Version :=
  ((pieces '.' (trim text.toList)).mapM word64?).bind ofNumbers?

/-- The place of a revision among revisions. -/
def revisionRank : Option Nat → Nat
  | none => 0
  | some n => n + 1

/-- The order of versions. -/
def compare (a b : Version) : Ordering :=
  (Ord.compare a.major b.major).then <|
    (Ord.compare a.minor b.minor).then <|
      (Ord.compare a.patch b.patch).then <|
        Ord.compare (revisionRank a.revision) (revisionRank b.revision)

/-- The version is not older than another. -/
def isAtLeast (a b : Version) : Bool := a.compare b != .lt

/-- The version with its three numbers, and the revision behind a plus sign. -/
def text (v : Version) : String :=
  let numbers := joinWith ['.'] [decimal v.major, decimal v.minor, decimal v.patch]
  let revision := (v.revision.map fun n => '+' :: decimal n).getD []
  String.ofList (numbers ++ revision)

end Version

end DeviceAccess
