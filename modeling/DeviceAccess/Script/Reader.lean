import DeviceAccess.Script.Command
import DeviceAccess.Text.Cut

/-!
# Reading scripts

Commands stand on lines of their own or have semicolons between them, or a sign that makes the next
one depend on whether the one before it succeeds. Output that is sent somewhere else is lost, and
input that comes from somewhere else is empty.

The number of steps bounds how deeply words and commands are nested; eight for each character are
enough.
-/

namespace DeviceAccess.Script

open Text

/-- A blank within a line. -/
def isGap (c : Char) : Bool := c == ' ' || c == '\t'

/-- A character that ends a word. -/
def endsWord (c : Char) : Bool :=
  isGap c || c == '\n' || c == ';' || c == '|' || c == '&' || c == '>' || c == '<' || c == '(' ||
    c == ')'

/-- A character of a name. -/
def isNameChar (c : Char) : Bool := c.isAlphanum || c == '_'

/-- What follows blanks and joined lines. -/
def skipGaps : List Char → List Char
  | '\\' :: '\n' :: rest => skipGaps rest
  | c :: rest => if isGap c then skipGaps rest else c :: rest
  | [] => []

/-- What follows blanks, line ends, single semicolons and comments. -/
def skipLines : Nat → List Char → List Char
  | 0, cs => cs
  | steps + 1, cs =>
    match skipGaps cs with
    | '\n' :: rest => skipLines steps rest
    | ';' :: ';' :: rest => ';' :: ';' :: rest
    | ';' :: rest => skipLines steps rest
    | '#' :: rest => skipLines steps (rest.dropWhile (· != '\n'))
    | rest => rest

/-- The name in an assignment at the beginning of a text, and what follows the sign. -/
def cutAssignment? (cs : List Char) : Option (List Char × List Char) :=
  match cs.takeWhile isNameChar, cs.dropWhile isNameChar with
  | c :: name, '=' :: rest => if c.isDigit then none else some (c :: name, rest)
  | _, _ => none

/-- What follows a word that stands by itself. -/
def behindKeyword? (word : String) (cs : List Char) : Option (List Char) :=
  match dropRun? word.toList cs with
  | some [] => some []
  | some (c :: rest) => if endsWord c then some (c :: rest) else none
  | none => none

/-- The words that end a list of commands. -/
def closingWords : List String := ["esac", "then", "elif", "else", "fi", "\x7d"]

/-- A word that ends a list of commands stands at the beginning of a text. -/
def isClosed (cs : List Char) : Bool := closingWords.any fun word => (behindKeyword? word cs).isSome

/-- The name of a variable behind its sign: a digit, one of two marks, or a name. -/
def cutVariable (cs : List Char) : List Char × List Char :=
  match cs with
  | c :: rest =>
    if c.isDigit || c == '#' || c == '@' then ([c], rest)
    else (cs.takeWhile isNameChar, cs.dropWhile isNameChar)
  | [] => ([], [])

/-- The pieces of a word in front of another one. -/
def consPiece (p : Piece) (r : Option (Word × List Char)) : Option (Word × List Char) :=
  r.map fun (word, rest) => (p :: word, rest)

/-- The call, with its output dropped. -/
def silenced (r : Option (List Word × Bool × Bool × List Char)) :
    Option (List Word × Bool × Bool × List Char) :=
  r.map fun (words, _, withoutInput, rest) => (words, true, withoutInput, rest)

/-- The target of a redirection is dropped with the blanks before it. -/
def behindTarget (cs : List Char) : List Char := (skipGaps cs).dropWhile (!endsWord ·)

mutual

/-- The pieces of a word up to its end; in double quotes up to the closing one. -/
def cutWord? : Nat → Bool → List Char → Option (Word × List Char)
  | 0, _, _ => none
  | steps + 1, quoted, cs =>
    match cs with
    | [] => if quoted then none else some ([], [])
    | '"' :: rest =>
      consPiece (.text true []) (cutWord? steps (!quoted) rest)
    | '\\' :: '\n' :: rest => cutWord? steps quoted rest
    | '\\' :: c :: rest =>
      if quoted && !(['"', '\\', '$', '\x60'].contains c) then
        consPiece (.text true ['\\', c]) (cutWord? steps quoted rest)
      else consPiece (.text true [c]) (cutWord? steps quoted rest)
    | '$' :: '(' :: rest =>
      match cutList? steps rest with
      | some (commands, ')' :: behind) =>
        consPiece (.output quoted commands) (cutWord? steps quoted behind)
      | _ => none
    | '$' :: '\x7b' :: rest =>
      match rest.dropWhile isNameChar with
      | '\x7d' :: behind =>
        consPiece (.variable quoted (rest.takeWhile isNameChar)) (cutWord? steps quoted behind)
      | _ => none
    | '$' :: rest =>
      match cutVariable rest with
      | ([], _) => consPiece (.text true ['$']) (cutWord? steps quoted rest)
      | (name, behind) => consPiece (.variable quoted name) (cutWord? steps quoted behind)
    | '\'' :: rest =>
      if quoted then consPiece (.text true ['\'']) (cutWord? steps quoted rest)
      else
        match cutAt '\'' rest with
        | (inner, some behind) => consPiece (.text true inner) (cutWord? steps quoted behind)
        | (_, none) => none
    | c :: rest =>
      if !quoted && endsWord c then some ([], c :: rest)
      else consPiece (.text quoted [c]) (cutWord? steps quoted rest)

/-- The words and redirections of a call, and the rest. -/
def cutCall? : Nat → List Char → Option (List Word × Bool × Bool × List Char)
  | 0, _ => none
  | steps + 1, cs =>
    match skipGaps cs with
    -- messages go elsewhere and are not part of the output
    | '2' :: '>' :: '&' :: rest => cutCall? steps (behindTarget rest)
    | '2' :: '>' :: rest => cutCall? steps (behindTarget rest)
    | '>' :: '>' :: rest => silenced (cutCall? steps (behindTarget rest))
    | '>' :: '&' :: rest => silenced (cutCall? steps (behindTarget rest))
    | '>' :: rest => silenced (cutCall? steps (behindTarget rest))
    | '<' :: rest =>
      (cutCall? steps (behindTarget rest)).map fun (words, silent, _, last) =>
        (words, silent, true, last)
    | [] => some ([], false, false, [])
    | c :: rest =>
      if endsWord c then some ([], false, false, c :: rest)
      else
        match cutWord? steps false (c :: rest) with
        | none => none
        | some (word, behind) =>
          (cutCall? steps behind).map fun (words, silent, withoutInput, last) =>
            (word :: words, silent, withoutInput, last)

/-- The branches of a choice, and what follows its end. -/
def cutBranches? : Nat → List Char → Option (List (List Word × List Command) × List Char)
  | 0, _ => none
  | steps + 1, cs =>
    let start := skipLines cs.length cs
    match behindKeyword? "esac" start with
    | some rest => some ([], rest)
    | none =>
      let opened :=
        match start with
        | '(' :: rest => rest
        | rest => rest
      match cutPatterns? steps opened with
      | none => none
      | some (patterns, behind) =>
        match cutList? steps behind with
        | some (commands, ';' :: ';' :: rest) =>
          (cutBranches? steps rest).map fun (branches, last) =>
            ((patterns, commands) :: branches, last)
        | some (commands, rest) =>
          (behindKeyword? "esac" rest).map fun last => ([(patterns, commands)], last)
        | none => none

/-- The patterns of a branch with bars between them, and what follows the closing bracket. -/
def cutPatterns? : Nat → List Char → Option (List Word × List Char)
  | 0, _ => none
  | steps + 1, cs =>
    match cutWord? steps false (skipGaps cs) with
    | none => none
    | some (pattern, behind) =>
      match skipGaps behind with
      | '|' :: rest =>
        (cutPatterns? steps rest).map fun (patterns, last) => (pattern :: patterns, last)
      | ')' :: rest => some ([pattern], rest)
      | _ => none

/-- A choice by pattern behind its first word, and the rest. -/
def cutChoice? : Nat → List Char → Option (Command × List Char)
  | 0, _ => none
  | steps + 1, cs =>
    match cutWord? steps false (skipGaps cs) with
    | none => none
    | some (subject, rest) =>
      match behindKeyword? "in" (skipLines rest.length rest) with
      | none => none
      | some inside =>
        (cutBranches? steps inside).map fun (branches, last) => (.choice subject branches, last)

/-- A choice by success behind its first word, and the rest. -/
def cutCondition? : Nat → List Char → Option (Command × List Char)
  | 0, _ => none
  | steps + 1, cs =>
    match cutList? steps cs with
    | none => none
    | some (condition, behindCondition) =>
      match (behindKeyword? "then" behindCondition).bind (cutList? steps) with
      | none => none
      | some (yes, behind) =>
        match behindKeyword? "fi" behind with
        | some last => some (.branch condition yes [], last)
        | none =>
          match behindKeyword? "elif" behind with
          | some rest =>
            (cutCondition? steps rest).map fun (other, last) =>
              (.branch condition yes [other], last)
          | none =>
            match (behindKeyword? "else" behind).bind (cutList? steps) with
            | none => none
            | some (no, rest) =>
              (behindKeyword? "fi" rest).map fun last => (.branch condition yes no, last)

/-- Commands in braces behind the opening one, and the rest. -/
def cutGroup? : Nat → List Char → Option (Command × List Char)
  | 0, _ => none
  | steps + 1, cs =>
    match cutList? steps cs with
    | none => none
    | some (commands, rest) =>
      (behindKeyword? "\x7d" rest).map fun last => (.group commands, last)

/-- An assignment or a call, and the rest. -/
def cutPlain? : Nat → List Char → Option (Command × List Char)
  | 0, _ => none
  | steps + 1, cs =>
    match cutAssignment? cs with
    | some (name, value) =>
      (cutWord? steps false value).map fun (word, last) => (.assign name word, last)
    | none =>
      match cutCall? steps cs with
      | some ([], _, _, _) => none
      | some (words, silent, withoutInput, last) => some (.call words silent withoutInput, last)
      | none => none

/-- A command without pipes, and the rest. -/
def cutSimple? : Nat → List Char → Option (Command × List Char)
  | 0, _ => none
  | steps + 1, cs =>
    match behindKeyword? "case" cs with
    | some rest => cutChoice? steps rest
    | none =>
      match behindKeyword? "if" cs with
      | some rest => cutCondition? steps rest
      | none =>
        match behindKeyword? "\x7b" cs with
        | some rest => cutGroup? steps rest
        | none => cutPlain? steps cs

/-- A command with its pipes, and the rest. -/
def cutPipes? : Nat → List Char → Option (Command × List Char)
  | 0, _ => none
  | steps + 1, cs =>
    match cutSimple? steps cs with
    | none => none
    | some (left, behind) =>
      match skipGaps behind with
      | '|' :: '|' :: rest => some (left, '|' :: '|' :: rest)
      | '|' :: rest =>
        (cutPipes? steps (skipLines rest.length rest)).map fun (right, last) =>
          (.pipe left right, last)
      | rest => some (left, rest)

/-- A command with those that depend on whether it succeeds, and the rest. -/
def cutChain? : Nat → Command → List Char → Option (Command × List Char)
  | 0, _, _ => none
  | steps + 1, left, cs =>
    match skipGaps cs with
    | '&' :: '&' :: rest =>
      match cutPipes? steps (skipLines rest.length rest) with
      | some (right, behind) => cutChain? steps (.both left right) behind
      | none => none
    | '|' :: '|' :: rest =>
      match cutPipes? steps (skipLines rest.length rest) with
      | some (right, behind) => cutChain? steps (.either left right) behind
      | none => none
    | rest => some (left, rest)

/-- A command, and the rest. -/
def cutCommand? : Nat → List Char → Option (Command × List Char)
  | 0, _ => none
  | steps + 1, cs =>
    match cutPipes? steps cs with
    | some (first, behind) => cutChain? steps first behind
    | none => none

/-- The commands up to a closing bracket or word, the end of a branch or of the text, and the
rest. -/
def cutList? : Nat → List Char → Option (List Command × List Char)
  | 0, _ => none
  | steps + 1, cs =>
    match skipLines cs.length cs with
    | [] => some ([], [])
    | ')' :: rest => some ([], ')' :: rest)
    | ';' :: rest => some ([], ';' :: rest)
    | start =>
      if isClosed start then some ([], start)
      else
        match cutCommand? steps start with
        | none => none
        | some (command, behind) =>
          (cutList? steps behind).map fun (commands, last) => (command :: commands, last)

end

/-- Reads a script. -/
def parse? (text : List Char) : Option (List Command) :=
  match cutList? (8 * text.length + 8) text with
  | some (commands, []) => some commands
  | _ => none

end DeviceAccess.Script
