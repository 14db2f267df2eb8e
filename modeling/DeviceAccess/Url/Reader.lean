import DeviceAccess.Text.Blank
import DeviceAccess.Url.Basic
import DeviceAccess.Url.Path

/-!
# Reading addresses

An address is read without a base: it must begin with a scheme. Controls and spaces around it and
tabs and line ends inside it are dropped first. The fragment is cut off at the first `#` and the
query at the first `?` before it; what is left is read by the kind of the scheme.
-/

namespace DeviceAccess.Url

open Text

/-! ## §1 Pieces -/

/-- The characters that are read: without controls and spaces at either end, and without tabs and
line ends anywhere. -/
def significant (cs : List Char) : List Char :=
  (stripBoth (fun c => c.toNat ≤ 0x20) cs).filter fun c => c != '\t' && c != '\n' && c != '\r'

/-- The scheme in small letters, and what follows its colon. -/
def cutScheme? (cs : List Char) : Option (String × List Char) :=
  match cs with
  | first :: _ =>
    let isSchemeChar (c : Char) : Bool := c.isAlphanum || c == '+' || c == '-' || c == '.'
    match cs.dropWhile isSchemeChar with
    | ':' :: rest =>
      if first.isAlpha then some (String.ofList (lower (cs.takeWhile isSchemeChar)), rest) else none
    | _ => none
  | [] => none

/-- A slash, or a backslash where the scheme is special. -/
def isSlash (special : Bool) (c : Char) : Bool := c == '/' || (special && c == '\\')

/-! ## §2 The authority -/

/-- The part before the last `@`, and the part behind it. -/
def cutCredentials (cs : List Char) : Option (List Char) × List Char :=
  let behind := (cs.reverse.takeWhile (· != '@')).reverse
  if behind.length == cs.length then (none, cs)
  else (some (cs.take (cs.length - behind.length - 1)), behind)

/-- The host, up to the first colon outside brackets, and the rest. -/
def cutHost (inBrackets : Bool) : List Char → List Char × List Char
  | [] => ([], [])
  | c :: cs =>
    if c == ':' && !inBrackets then ([], c :: cs)
    else
      let (host, rest) := cutHost (if c == '[' then true else if c == ']' then false else inBrackets) cs
      (c :: host, rest)

/-- The port behind a colon, and the path characters that directly follow it. The default of the
scheme counts as none. -/
def readPort (scheme : String) (cs : List Char) : Except UrlFault (Option Nat × List Char) :=
  let digits := cs.takeWhile Char.isDigit
  let rest := cs.dropWhile Char.isDigit
  let number := digitsValue 10 digits
  if 65535 < number then .error .port
  else
    match rest with
    | [] => .ok (written digits number, [])
    -- only a special scheme ends its authority here; for others the path begins at the backslash
    | '\\' :: _ => .ok (written digits number, rest)
    | _ => .error .port
where
  written (digits : List Char) (number : Nat) : Option Nat :=
    if digits.isEmpty || defaultPort? scheme == some number then none else some number

/-- Reads an authority. `more` says that a path, a query or a fragment follows it; the result comes
with the characters at its end that belong to the path. -/
def readAuthority (scheme : String) (more : Bool) (cs : List Char) :
    Except UrlFault (Authority × List Char) := do
  let special := isSpecial scheme
  let (credentials, behind) := cutCredentials cs
  -- nothing stands on either side of the `@`
  if credentials == some [] && behind.isEmpty && more then throw .emptyHost
  let (username, password) := cutAt ':' (credentials.getD [])
  let username := percentEncode escapedInUserinfo username
  let password := percentEncode escapedInUserinfo (password.getD [])
  let (hostChars, rest) := cutHost false behind
  if special && hostChars.isEmpty then throw .emptyHost
  let host ← if special then Host.ofChars hostChars else Host.verbatim hostChars
  -- neither a port nor credentials can stand without a host
  if hostChars.isEmpty && !rest.isEmpty then throw .emptyHost
  let (port, pathChars) ←
    match rest with
    | ':' :: digits => readPort scheme digits
    | _ => pure (none, rest)
  if hostChars.isEmpty && !(username.isEmpty && password.isEmpty) then throw .emptyHost
  return (
    { username := String.ofList username
      password := String.ofList password
      host := if hostChars.isEmpty then none else some host
      port := port },
    pathChars)

/-! ## §3 Kinds of schemes -/

/-- The authority and path behind the slashes. -/
def readHierarchy (scheme : String) (more : Bool) (cs : List Char) :
    Except UrlFault (Option Authority × List Char) := do
  let special := isSpecial scheme
  let authorityChars := cs.takeWhile (!isSlash special ·)
  let pathChars := cs.dropWhile (!isSlash special ·)
  let (authority, extra) ← readAuthority scheme (more || !pathChars.isEmpty) authorityChars
  let path :=
    match extra ++ pathChars with
    | [] => if special then ['/'] else []
    | c :: rest =>
      if isSlash special c then ['/'] ++ pathBehindRoot special false rest
      else ['/'] ++ pathBehindRoot special false (c :: rest)
  return (some authority, path)

/-- The host and path of a file. A drive letter makes the host disappear. -/
def readFile (cs : List Char) : Except UrlFault (Option Authority × List Char) := do
  let place (host : Option Host) : Option Authority := some ⟨"", "", host, none⟩
  let rooted (pathChars : List Char) : List Char :=
    ['/'] ++ (pathBehindRoot true true pathChars).dropWhile (· == '/')
  match cs with
  | a :: b :: rest =>
    if isSlash true a && isSlash true b then
      let hostChars := rest.takeWhile (!isSlash true ·)
      let pathChars := rest.dropWhile (!isSlash true ·)
      -- `file://C:/x` has a drive letter where a host would stand
      if isDrive hostChars then return (place none, rooted rest)
      if hostChars.isEmpty then return (place none, rooted rest)
      let host ← Host.ofChars hostChars
      if host == .domain "localhost" then return (place none, rooted pathChars)
      if hasDrive pathChars then return (place none, rooted pathChars)
      return (place (some host), rooted pathChars)
    else return (place none, rooted cs)
  | _ => return (place none, rooted cs)

/-- The path of an address without special scheme and without authority. -/
def readPlainPath (cs : List Char) : List Char :=
  match cs with
  | '/' :: rest =>
    let path := ['/'] ++ pathBehindRoot false false rest
    match path with
    -- the dot keeps the path from being read as an authority
    | '/' :: '/' :: _ => ['/', '.'] ++ path
    | _ => path
  | _ => percentEncode escapedEverywhere cs

/-! ## §4 The whole address -/

/-- Reads an address from its characters. -/
def ofChars (cs : List Char) : Except UrlFault Url := do
  match cutScheme? (significant cs) with
  | none => throw .noScheme
  | some (scheme, behind) =>
    let (beforeFragment, fragment) := cutAt '#' behind
    let (hierarchy, query) := cutAt '?' beforeFragment
    let special := isSpecial scheme
    let more := query.isSome || fragment.isSome
    let (authority, path) ←
      if scheme == "file" then readFile hierarchy
      else if special then readHierarchy scheme more (hierarchy.dropWhile (isSlash true))
      else
        match hierarchy with
        | '/' :: '/' :: rest => readHierarchy scheme more rest
        | _ => pure (none, readPlainPath hierarchy)
    let escapedQuery := if special then escapedInSpecialQuery else escapedInQuery
    return {
      scheme := scheme
      authority := authority
      path := String.ofList path
      query := query.map fun q => String.ofList (percentEncode escapedQuery q)
      fragment := fragment.map fun f => String.ofList (percentEncode escapedInFragment f) }

/-- Reads an address. -/
def parse (s : String) : Except UrlFault Url := ofChars s.toList

end DeviceAccess.Url
