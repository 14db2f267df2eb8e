import DeviceAccess.Files
import DeviceAccess.Helper.Program
import DeviceAccess.Script.Run

/-!
# Scripts as programs

A system whose only programs are scripts, run by a shell that they name in their first line. What a
program of such a system does can be told from the files alone.
-/

namespace DeviceAccess.Script

open Text

/-- The content of a program that may be started. -/
def content (files : Files) (path : String) : Except IoFault Octets :=
  if !path.toList.contains '/' then .error noSuchFile
  else
    match files.look path with
    | .error fault => .error fault
    | .ok (.file octets true) => .ok octets
    | .ok _ => .error notPermitted

/-- The fault of a file that is no program. -/
def noProgram : IoFault := { kind := .uncategorized, message := "Exec format error (os error 8)" }

/-- The shells that can run a script. -/
def shells : List String :=
  ["/bin/sh", "/bin/dash", "/bin/bash", "/usr/bin/sh", "/usr/bin/dash", "/usr/bin/bash",
    "/usr/bin/env"]

/-- The program that the first line of a script names. -/
def interpreter (script : List Char) : String :=
  String.ofList ((skipGaps script).takeWhile fun c => !isGap c && c != '\n')

/-- The script that starting a program runs. -/
def atPath (files : Files) (path : String) : Except IoFault (List Char) := do
  match ofUtf8? (← content files path) with
  | some ('#' :: '!' :: lines) =>
    -- a shell takes the first line for a comment
    if shells.contains (interpreter lines) then return '#' :: lines else throw noSuchFile
  | _ => throw noProgram

/-- The scripts among the files. -/
def programs (files : Files) : Programs where
  start path args := do
    let lines ← atPath files path
    return fun input => .ok (run lines args input)

/-- Where nothing else is said, the programs of a system are the scripts among its files. -/
instance : Coe Files Programs := ⟨programs⟩

end DeviceAccess.Script
