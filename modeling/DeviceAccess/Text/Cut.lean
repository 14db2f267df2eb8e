/-!
# Cutting texts

Cutting a list at the first occurrence of a member or of a run, and into the pieces between all
occurrences of a separator.
-/

namespace DeviceAccess.Text

variable {α : Type} [BEq α]

/-! ## §1 Cutting at a member -/

/-- The part before the first `sep`, and the part after it if there is one. -/
def cutAt (sep : α) : List α → List α × Option (List α)
  | [] => ([], none)
  | x :: xs =>
    if x == sep then ([], some xs)
    else
      let (before, after) := cutAt sep xs
      (x :: before, after)

/-- The pieces between the occurrences of `sep`; there is always one more than occurrences. -/
def pieces (sep : α) : List α → List (List α)
  | [] => [[]]
  | x :: xs =>
    if x == sep then [] :: pieces sep xs
    else
      match pieces sep xs with
      | [] => [[x]]
      | piece :: rest => (x :: piece) :: rest

/-- The lists joined with a separator list between neighbours. -/
def joinWith (sep : List α) : List (List α) → List α
  | [] => []
  | [x] => x
  | x :: y :: rest => x ++ sep ++ joinWith sep (y :: rest)

/-! ## §2 Cutting at a run -/

/-- The rest of the list behind an initial run. -/
def dropRun? : List α → List α → Option (List α)
  | [], xs => some xs
  | _ :: _, [] => none
  | r :: run, x :: xs => if r == x then dropRun? run xs else none

/-- The part before a final run. -/
def dropFinalRun? (run xs : List α) : Option (List α) :=
  (dropRun? run.reverse xs.reverse).map List.reverse

/-- The parts before and after the first occurrence of a run. -/
def cutAtRun? (run : List α) : List α → Option (List α × List α)
  | [] => if run.isEmpty then some ([], []) else none
  | x :: xs =>
    match dropRun? run (x :: xs) with
    | some after => some ([], after)
    | none => (cutAtRun? run xs).map fun (before, after) => (x :: before, after)

/-- The run occurs somewhere in the list. -/
def containsRun (run xs : List α) : Bool := (cutAtRun? run xs).isSome

end DeviceAccess.Text
