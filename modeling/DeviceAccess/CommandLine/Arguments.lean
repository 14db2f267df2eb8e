import DeviceAccess.Text.Cut

/-!
# Arguments of a command line

What arguments mean under rules: which options and places a command has, and which commands stand
below it. Every command on the way opens a level, and an argument belongs to the innermost level that
is open.

- `CommandRules` are the rules of a command.
- `read` follows them through a list of arguments.
- `Reading` is what the arguments say, level by level.
-/

namespace DeviceAccess.CommandLine

open Text

/-! ## §1 Rules -/

/-- What an option stands for. -/
inductive OptionKind where
  /-- An option without value, at most once on a level. -/
  | flag
  /-- An option with a value, at most once on a level. -/
  | single
  /-- An option with a value, any number of times. -/
  | repeated
  /-- Asks for help instead of a run. -/
  | help
  /-- Asks for the version instead of a run. -/
  | version
  deriving DecidableEq, Repr

/-- An option with its long name, its letter and its admissible values. -/
structure OptionRule where
  name : String
  letter : Option Char
  kind : OptionKind
  admits : String → Bool

/-- A command: its options, those that must be given, the number of its places, all of which must be
filled, and the commands below it, one of which must follow. -/
inductive CommandRules where
  | mk (options : List OptionRule) (required : List String) (places : Nat)
    (commands : List (String × CommandRules))

namespace CommandRules

/-- The options of a command. -/
def options : CommandRules → List OptionRule
  | mk options _ _ _ => options

/-- The options that must be given. -/
def required : CommandRules → List String
  | mk _ required _ _ => required

/-- How many places a command has. -/
def places : CommandRules → Nat
  | mk _ _ places _ => places

/-- The commands below a command. -/
def commands : CommandRules → List (String × CommandRules)
  | mk _ _ _ commands => commands

/-- The option with a long name. -/
def named? (c : CommandRules) (name : String) : Option OptionRule :=
  c.options.find? fun o => o.name == name

/-- The option with a letter. -/
def lettered? (c : CommandRules) (letter : Char) : Option OptionRule :=
  c.options.find? fun o => o.letter == some letter

end CommandRules

/-- Why there is no run. -/
inductive Refusal where
  /-- The arguments are against the rules. -/
  | usage
  /-- Help is wanted. -/
  | help
  /-- The version is wanted, on the level with these commands on the way. -/
  | version (path : List String)
  deriving DecidableEq, Repr

/-! ## §2 Levels -/

/-- An option whose value has not been taken in yet: it may be missing, or not be admissible. -/
structure OpenOption where
  rule : OptionRule
  value : Option String

/-- What has been given on a level. -/
structure Level where
  path : List String
  rules : CommandRules
  options : List (String × String)
  places : List String
  last : Option OpenOption

namespace Level

/-- A level on which nothing is given. -/
def start (path : List String) (rules : CommandRules) : Level :=
  { path, rules, options := [], places := [], last := none }

/-- The values of an option. -/
def values (l : Level) (name : String) : List String :=
  (l.options.filter fun o => o.1 == name).map Prod.snd

/-- Takes in an option with its value. -/
def give (l : Level) (rule : OptionRule) (value : String) : Except Refusal Level :=
  let again := !(l.values rule.name).isEmpty
  if !rule.admits value || (again && rule.kind != .repeated) then .error .usage
  else .ok { l with options := l.options ++ [(rule.name, value)] }

/-- Takes in the option that is open. -/
def settle (l : Level) : Except Refusal Level :=
  match l.last with
  | none => .ok l
  | some ⟨_, none⟩ => .error .usage
  | some ⟨rule, some value⟩ => { l with last := none }.give rule value

/-- The last argument is an option that waits for its value. -/
def isWaiting (l : Level) : Bool :=
  match l.last with
  | some ⟨_, none⟩ => true
  | _ => false

/-- Fills the next place. -/
def fill (l : Level) (value : String) : Except Refusal Level := do
  let settled ← l.settle
  if settled.places.length < l.rules.places then
    return { settled with places := settled.places ++ [value] }
  else throw .usage

/-- Takes an option that may have a value attached. -/
def take (l : Level) (rule : OptionRule) (attached : Option String) : Except Refusal Level := do
  let settled ← l.settle
  match rule.kind, attached with
  | .flag, none => settled.give rule ""
  | .help, none => throw .help
  | .version, none => throw (.version l.path)
  | .single, some value | .repeated, some value => settled.give rule value
  | .single, none | .repeated, none => return { settled with last := some ⟨rule, none⟩ }
  | _, some _ => throw .usage

/-- An argument with a long name, and behind an equals sign a value. -/
def long (l : Level) (cs : List Char) : Except Refusal Level :=
  let (name, value) := cutAt '=' cs
  match l.rules.named? (String.ofList name) with
  | some rule => l.take rule (value.map String.ofList)
  | none => .error .usage

/-- The value behind a letter; an equals sign before it does not belong to it. -/
def behindLetter : List Char → Option String
  | [] => none
  | '=' :: value => some (String.ofList value)
  | value => some (String.ofList value)

/-- An argument of letters: options without value, and at the end perhaps one with a value. -/
def letters (l : Level) : List Char → Except Refusal Level
  | [] => .ok l
  | c :: rest =>
    match l.rules.lettered? c with
    | none => .error .usage
    | some rule =>
      match rule.kind with
      | .single | .repeated => l.take rule (behindLetter rest)
      | _ => do (← l.take rule none).letters rest

/-- Closes a level: what must be given is given. -/
def close (l : Level) : Except Refusal Level := do
  let settled ← l.settle
  let complete := l.rules.required.all fun name => !(settled.values name).isEmpty
  if complete && settled.places.length == l.rules.places then return settled else throw .usage

end Level

/-! ## §3 Reading -/

/-- What the next argument can be. -/
inductive Stage where
  /-- Anything. -/
  | any
  /-- A place only. -/
  | placesOnly
  /-- A command below the given one, about which help is wanted. -/
  | topic (rules : CommandRules)

/-- How far arguments have been read: the levels around the innermost one, from inside out, the
innermost one, and what comes next. -/
structure Progress where
  outer : List Level
  inner : Level
  stage : Stage

namespace Progress

/-- The command that leads to help about commands. -/
def helpName : String := "help"

/-- Opens the level of a command. -/
def enter (p : Progress) (name : String) (rules : CommandRules) : Progress :=
  { p with outer := p.inner :: p.outer, inner := Level.start (p.inner.path ++ [name]) rules }

/-- The same place with another innermost level. -/
def onInner (p : Progress) (l : Except Refusal Level) : Except Refusal Progress :=
  l.map fun inner => { p with inner }

/-- The commands below that an argument names, on the way to help. -/
def topic? (rules : CommandRules) (arg : String) : Option CommandRules :=
  match rules.commands.lookup arg with
  | some below => some below
  | none => if arg = helpName ∧ !rules.commands.isEmpty then some (.mk [] [] 0 []) else none

/-- An argument that is no command. -/
def plain (p : Progress) (arg : String) : Except Refusal Progress :=
  match arg.toList with
  | ['-', '-'] => .ok { p with stage := .placesOnly }
  | '-' :: '-' :: cs => p.onInner (p.inner.long cs)
  | '-' :: c :: cs => p.onInner (p.inner.letters (c :: cs))
  | _ =>
    match p.inner.last with
    | some ⟨rule, none⟩ => .ok { p with inner := { p.inner with last := some ⟨rule, some arg⟩ } }
    | _ => p.onInner (p.inner.fill arg)

/-- Reads one argument. An option that waits for its value comes before a command. -/
def step (p : Progress) (arg : String) : Except Refusal Progress :=
  match p.stage with
  | .placesOnly => p.onInner (p.inner.fill arg)
  | .topic rules =>
    match topic? rules arg with
    | some below => .ok { p with stage := .topic below }
    | none => .error .usage
  | .any =>
    -- an option that waits takes the argument even if it names a command
    if p.inner.isWaiting then p.plain arg
    else
      match p.inner.rules.commands.lookup arg with
      | some below => .ok (p.enter arg below)
      | none =>
        if arg = helpName ∧ !p.inner.rules.commands.isEmpty then
          .ok { p with stage := .topic p.inner.rules }
        else p.plain arg

end Progress

/-- What arguments say: the commands on the way, and the levels from inside out. -/
structure Reading where
  path : List String
  levels : List Level

namespace Reading

/-- The values of an option on the innermost level that has it. -/
def values (r : Reading) (name : String) : List String :=
  ((r.levels.map (·.values name)).find? fun vs => !vs.isEmpty).getD []

/-- The value of an option. -/
def value? (r : Reading) (name : String) : Option String := (r.values name).getLast?

/-- The option is given. -/
def has (r : Reading) (name : String) : Bool := !(r.values name).isEmpty

/-- What fills the places of the innermost command. -/
def places (r : Reading) : List String := (r.levels.head?.map Level.places).getD []

end Reading

/-- Reads arguments under the rules of a program. -/
def read (rules : CommandRules) (args : List String) : Except Refusal Reading := do
  let beginning : Progress := { outer := [], inner := Level.start [] rules, stage := .any }
  let p ← args.foldlM Progress.step beginning
  match p.stage with
  | .topic _ => throw .help
  | _ =>
    -- the innermost command must be one that does something
    if p.inner.rules.commands.isEmpty then
      return { path := p.inner.path, levels := ← (p.inner :: p.outer).mapM Level.close }
    else throw .usage

end DeviceAccess.CommandLine
