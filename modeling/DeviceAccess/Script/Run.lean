import DeviceAccess.Script.BuiltIn
import DeviceAccess.Script.Pattern
import DeviceAccess.Script.Reader
import DeviceAccess.Text.Decimal

/-!
# Running scripts

Commands are carried out one after the other over a state: variables, the input that is left, and the
output so far. Commands inside a word or a pipe work on a state of their own, but share the input.
-/

namespace DeviceAccess.Script

open Text

/-- The state of a running script. -/
structure State where
  bindings : List (List Char × Octets)
  input : Octets
  output : Octets
  succeeded : Bool
  ended : Bool

/-- The octets without line ends at the end. -/
def dropFinalLineEnds (octets : Octets) : Octets :=
  (octets.reverse.dropWhile (· == 0x0A)).reverse

/-- A blank between fields. -/
def isFieldGap (b : UInt8) : Bool := b == 0x20 || b == 0x09 || b == 0x0A

/-- The fields of a text. -/
def splitFields (octets : Octets) : List Octets :=
  (go octets).filter (!·.isEmpty)
where
  go : Octets → List Octets
    | [] => [[]]
    | b :: rest =>
      if isFieldGap b then [] :: go rest
      else
        match go rest with
        | [] => [[b]]
        | field :: fields => (b :: field) :: fields

/-- A piece of a word with its value. -/
structure Valued where
  octets : Octets
  quoted : Bool
  literal : Bool

/-- The whole value of a word. -/
def joined (pieces : List Valued) : Octets := pieces.flatMap Valued.octets

/-- The fields that a word becomes in a call: values that are not quoted are split, if they are all
that there is. -/
def fieldsOf (pieces : List Valued) : List Octets :=
  match pieces with
  | [p] => if !p.quoted && !p.literal then splitFields p.octets else [p.octets]
  | _ => [joined pieces]

/-- The pattern that a word is. -/
def patternOf (pieces : List Valued) : List Glob :=
  pieces.flatMap fun p =>
    if p.quoted then p.octets.map Glob.octet
    else
      p.octets.flatMap fun b =>
        if b == 0x2A then [.any] else if b == 0x3F then [.one] else [.octet b]

mutual

/-- Carries out a command. -/
def runCommand : Nat → Command → State → State
  | 0, _, s => { s with ended := true }
  | steps + 1, command, s =>
    match command with
    | .assign name word =>
      let (value, next) := valueOf steps word s
      { next with bindings := (name, joined value) :: next.bindings, succeeded := true }
    | .call words silent withoutInput =>
      let (fields, next) := argumentsOf steps words s
      match fields with
      | [] => next
      | name :: args =>
        let replaces := name == utf8Text "exec" && !args.isEmpty
        let effect := perform (if replaces then args.headD [] else name)
          (if replaces then args.drop 1 else args) (if withoutInput then [] else next.input)
        { next with
          input := if withoutInput then next.input else effect.input
          output := next.output ++ (if silent then [] else effect.output)
          succeeded := effect.succeeds
          ended := effect.ends || replaces }
    -- what either side assigns, and that it ends, stays inside the pipe
    | .pipe left right =>
      let front := runCommand steps left { s with output := [] }
      let back := runCommand steps right { s with input := front.output, output := [] }
      { s with
        input := front.input
        output := s.output ++ back.output
        succeeded := back.succeeded }
    | .both left right =>
      let next := runCommand steps left s
      if next.succeeded && !next.ended then runCommand steps right next else next
    | .either left right =>
      let next := runCommand steps left s
      if next.succeeded || next.ended then next else runCommand steps right next
    | .group commands => runList steps commands s
    | .branch condition yes no =>
      let next := runList steps condition s
      if next.ended then next
      else runList steps (if next.succeeded then yes else no) { next with succeeded := true }
    | .choice subject branches =>
      let (value, next) := valueOf steps subject s
      runBranches steps (joined value) branches next

/-- Carries out the first branch with a pattern that accepts the subject. -/
def runBranches : Nat → Octets → List (List Word × List Command) → State → State
  | 0, _, _, s => { s with ended := true }
  | _, _, [], s => s
  | steps + 1, subject, (patterns, commands) :: rest, s =>
    if patterns.any fun pattern =>
        Glob.accepts (patternOf (valueOf steps pattern s).1) subject then
      runList steps commands s
    else runBranches steps subject rest s

/-- Carries out commands one after the other until the script ends. -/
def runList : Nat → List Command → State → State
  | 0, _, s => { s with ended := true }
  | _, [], s => s
  | steps + 1, command :: rest, s =>
    let next := runCommand steps command s
    if next.ended then next else runList steps rest next

/-- The pieces of a word with their values. -/
def valueOf : Nat → Word → State → List Valued × State
  | 0, _, s => ([], s)
  | _, [], s => ([], s)
  | steps + 1, piece :: rest, s =>
    let (first, next) : Valued × State :=
      match piece with
      | .text quoted cs => ({ octets := utf8 cs, quoted, literal := true }, s)
      | .variable quoted name =>
        ({ octets := (s.bindings.lookup name).getD [], quoted, literal := false }, s)
      | .output quoted commands =>
        let inner := runList steps commands { s with output := [] }
        ({ octets := dropFinalLineEnds inner.output, quoted, literal := false },
          { s with input := inner.input })
    let (others, last) := valueOf steps rest next
    (first :: others, last)

/-- The fields of words. -/
def argumentsOf : Nat → List Word → State → List Octets × State
  | 0, _, s => ([], s)
  | _, [], s => ([], s)
  | steps + 1, word :: rest, s =>
    let (value, next) := valueOf steps word s
    let (others, last) := argumentsOf steps rest next
    (fieldsOf value ++ others, last)

end

/-- The variables of arguments: each by its number, how many there are, and all of them. -/
def positional (args : List String) : List (List Char × Octets) :=
  [(['#'], utf8 (decimal args.length)), (['@'], joinBlank (args.map utf8Text))] ++
    args.zipIdx.map fun (arg, i) => (decimal (i + 1), utf8Text arg)

/-- The output of a script for its arguments and its input. One that cannot be read has none. -/
def run (text : List Char) (args : List String) (input : Octets) : Octets :=
  match parse? text with
  | none => []
  | some commands =>
    (runList (8 * text.length + 8) commands
      { bindings := positional args, input, output := [], succeeded := true, ended := false }).output

end DeviceAccess.Script
