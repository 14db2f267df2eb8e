/-!
# Commands of scripts

A helper may be a shell script. A script of commands without loops is a function from its arguments
and its input to its output: words with quotes, variables and the output of commands in them, calls,
pipes, and choices by pattern or by whether a command succeeds.
-/

namespace DeviceAccess.Script

mutual

/-- A piece of a word. In quotes nothing is special and nothing is split. -/
inductive Piece where
  | text (quoted : Bool) (cs : List Char)
  | variable (quoted : Bool) (name : List Char)
  | output (quoted : Bool) (commands : List Command)

/-- A command. -/
inductive Command where
  | assign (name : List Char) (word : List Piece)
  | call (words : List (List Piece)) (silent : Bool) (withoutInput : Bool)
  | pipe (left right : Command)
  | both (left right : Command)
  | either (left right : Command)
  | group (commands : List Command)
  | branch (condition yes no : List Command)
  | choice (subject : List Piece) (branches : List (List (List Piece) × List Command))

end

/-- A word. -/
abbrev Word := List Piece

end DeviceAccess.Script
