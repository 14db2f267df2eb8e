import DeviceAccess.CommandLine.Run

/-!
# The program

Looks at the files that a run needs, and shows what the run says. Which files these are can depend on
the content of others, so that looking is repeated a few times.
-/

namespace DeviceAccess.CommandLine

/-- The fault of reading a file. -/
def ioFaultOf : IO.Error → IoFault
  | .noFileOrDirectory .. => noSuchFile
  | .permissionDenied .. => notPermitted
  | .inappropriateType .. => isAFolder
  | e => { kind := .other, message := toString e }

/-- A file that begins like a script may be started. -/
def isScript : Text.Octets → Bool
  | 0x23 :: 0x21 :: _ => true
  | _ => false

/-- What a path leads to. -/
def lookAt (path : String) : IO (Except IoFault Node) := do
  try
    let octets := (← IO.FS.readBinFile path).toList
    return .ok (.file octets (isScript octets))
  catch e =>
    let fault := ioFaultOf e
    return if fault.kind = .isADirectory then .ok .folder else .error fault

/-- The view of the paths that have been looked at. -/
def viewOf (seen : List (String × Except IoFault Node)) : Files where
  look path := (seen.lookup path).getD (.error noSuchFile)

/-- How often looking is repeated: the settings, the manifest and the program of the helper. -/
def rounds : Nat := 3

/-- Looks at all paths that an invocation may look at. -/
def survey (i : Invocation) (start : Surroundings) : IO Surroundings := do
  let mut seen : List (String × Except IoFault Node) := []
  for _ in List.range rounds do
    for path in i.paths { start with files := viewOf seen } do
      if (seen.lookup path).isNone then seen := (path, ← lookAt path) :: seen
  return { start with files := viewOf seen }

/-- The surroundings of an invocation. -/
def surroundings (i : Invocation) : IO Surroundings := do
  let named ← IO.getEnv i.search.variableName
  survey i
    { files := viewOf []
      home := ← IO.getEnv "HOME"
      configHome := ← IO.getEnv "XDG_CONFIG_HOME"
      environment := fun name => if name = i.search.variableName then named else none }

/-- The program makes no connections of its own. -/
def noConnections : Connect := fun _ _ _ => .unreachable "connections are not available"

/-- Shows the outcome of a run and gives its number. -/
def present (o : Outcome) : IO UInt32 := do
  IO.print o.output
  match o.verdict with
  | .fault message => IO.eprintln ("Error: " ++ message)
  | .usage => IO.eprint help
  | _ => pure ()
  return UInt32.ofNat o.verdict.code

/-- Runs the program with its arguments. -/
def start (args : List String) : IO UInt32 := do
  match Invocation.ofArguments args with
  | .error refusal => present refusal.outcome
  | .ok i =>
    let env ← surroundings i
    present (i.run env noConnections (Script.programs env.files))

end DeviceAccess.CommandLine

/-- The program. -/
def main (args : List String) : IO UInt32 := DeviceAccess.CommandLine.start args
