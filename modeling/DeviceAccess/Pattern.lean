import DeviceAccess.Fault
import DeviceAccess.Text.Blank
import DeviceAccess.Url.Reader

/-!
# Address patterns

A pattern `scheme://host:port/path` says for which addresses a certificate is offered.

- `*` alone stands for every web address, which is one with the scheme `http` or `https`.
- No scheme, or the scheme `*`, stands for either web scheme. The scheme `file` matches nothing.
- The host `*` is any host, `[*.]name` is a name with everything below it, and an internet address
  is only itself.
- The port `*` is any port, and no port is the default of the scheme.
- The path is accepted and never looked at.

Reading has two steps: `PatternSpelling.cut` cuts the text into its parts, and
`PatternSpelling.toPattern` gives them their meaning.
-/

namespace DeviceAccess

open Text

/-! ## §1 Types -/

/-- Which schemes a pattern accepts. -/
inductive SchemePattern where
  | web
  | none
  | exact (scheme : String)
  deriving DecidableEq, Repr

/-- Which hosts a pattern accepts. -/
inductive HostPattern where
  | any
  | subdomains (name : String)
  | exact (name : String)
  | ip (address : Ip)
  deriving DecidableEq, Repr

/-- Which ports a pattern accepts. -/
inductive PortPattern where
  | any
  | default
  | exact (port : Nat)
  deriving DecidableEq, Repr

/-- A pattern, with the text that it was read from. -/
structure UrlPattern where
  source : String
  scheme : SchemePattern
  host : HostPattern
  port : PortPattern
  deriving DecidableEq, Repr

/-- Why a text is no pattern. -/
inductive PatternFault where
  | emptyScheme
  | scheme (spelling : List Char)
  | noDomain
  | openLiteral
  | literal (spelling : List Char)
  | behindLiteral
  | noHost
  | port (spelling : List Char)
  deriving DecidableEq, Repr

/-- The wording of a cause. -/
def PatternFault.reason : PatternFault → String
  | emptyScheme => "empty scheme"
  | scheme s => "invalid scheme '" ++ String.ofList s ++ "'"
  | noDomain => "missing domain after [*.]"
  | openLiteral => "unterminated IPv6 literal"
  | literal s => "invalid IPv6 literal '" ++ String.ofList s ++ "'"
  | behindLiteral => "unexpected characters after IPv6 literal"
  | noHost => "missing host"
  | port s => "invalid port '" ++ String.ofList s ++ "'"

/-! ## §2 Cutting a text into its parts -/

/-- The host of a pattern as it is written. -/
inductive HostSpelling where
  | below (name : List Char)
  | literal (address : Ip)
  | name (text : List Char)
  deriving DecidableEq, Repr

/-- The parts of a pattern as they are written; the scheme and the port may be missing. -/
structure PatternSpelling where
  scheme : Option (List Char)
  host : HostSpelling
  port : Option (List Char)
  deriving DecidableEq, Repr

namespace PatternSpelling

/-- A scheme begins with a letter and goes on with letters, digits, `+`, `-` and `.`. -/
def isSchemeName (cs : List Char) : Bool :=
  match cs with
  | [] => false
  | c :: _ =>
    c.isAlpha && cs.all fun d => d.isAlphanum || d == '+' || d == '-' || d == '.'

/-- The scheme is `*` or a name of one. -/
def checkScheme (cs : List Char) : Except PatternFault Unit :=
  if cs.isEmpty then .error .emptyScheme
  else if cs == ['*'] || isSchemeName cs then .ok ()
  else .error (.scheme cs)

/-- Everything before the path. -/
def beforePath (cs : List Char) : List Char := (cutAt '/' cs).1

/-- Cuts what follows the opening bracket of an internet address. -/
def cutLiteral (cs : List Char) : Except PatternFault (HostSpelling × Option (List Char)) :=
  match cutAt ']' cs with
  | (_, none) => .error .openLiteral
  | (inner, some behind) =>
    match Ip.ofChars? inner with
    | none => .error (.literal inner)
    | some address =>
      match beforePath behind with
      | [] => .ok (.literal address, none)
      | ':' :: port => .ok (.literal address, some port)
      | _ => .error .behindLiteral

/-- Cuts what follows the scheme into host and port. -/
def cutAuthority (cs : List Char) : Except PatternFault (HostSpelling × Option (List Char)) :=
  match dropRun? ['[', '*', '.', ']'] cs with
  | some behind =>
    match cutAt ':' (beforePath behind) with
    | ([], _) => .error .noDomain
    | (name, port) => .ok (.below name, port)
  | none =>
    match cs with
    | '[' :: inside => cutLiteral inside
    | _ =>
      match cutAt ':' (beforePath cs) with
      | ([], _) => .error .noHost
      | (name, port) => .ok (.name name, port)

/-- A port is `*` or a number of sixteen bits. -/
def checkPort (port : Option (List Char)) : Except PatternFault Unit :=
  match port with
  | none => .ok ()
  | some cs => if cs == ['*'] || (word16? cs).isSome then .ok () else .error (.port cs)

/-- Cuts a trimmed text other than `*` into its parts. -/
def cut (cs : List Char) : Except PatternFault PatternSpelling := do
  let (scheme, rest) :=
    match cutAtRun? [':', '/', '/'] cs with
    | some (scheme, rest) => (some scheme, rest)
    | none => (none, cs)
  if let some s := scheme then checkScheme s
  let (host, port) ← cutAuthority rest
  checkPort port
  return { scheme, host, port }

/-! ## §3 The meaning of the parts -/

/-- The form in which addresses hold a name: ASCII in small letters. A text that is no name of a
host keeps its characters. -/
def normalName (cs : List Char) : String :=
  match Host.ofChars cs with
  | .ok (.domain name) => name
  | _ => String.ofList (lower cs)

/-- The schemes that a spelling stands for. -/
def schemePattern (scheme : Option (List Char)) : SchemePattern :=
  match scheme with
  | none => .web
  | some cs =>
    if cs == ['*'] then .web
    else
      let name := String.ofList (lower cs)
      if name == "file" then .none else .exact name

/-- The hosts that a spelling stands for. -/
def hostPattern : HostSpelling → HostPattern
  | .below name => .subdomains (normalName name)
  | .literal address => .ip address
  | .name text =>
    if text == ['*'] then .any
    else
      match Ip.ofChars? text with
      | some address => .ip address
      | none => .exact (normalName text)

/-- The ports that a spelling stands for. -/
def portPattern (port : Option (List Char)) : PortPattern :=
  match port with
  | none => .default
  | some cs =>
    match word16? cs with
    | some n => .exact n
    | none => .any

/-- The pattern that the parts of a text stand for. -/
def toPattern (source : String) (s : PatternSpelling) : UrlPattern :=
  { source, scheme := schemePattern s.scheme, host := hostPattern s.host,
    port := portPattern s.port }

end PatternSpelling

/-! ## §4 Reading and matching -/

namespace UrlPattern

/-- The pattern of every web address. -/
def any : UrlPattern := { source := "*", scheme := .web, host := .any, port := .any }

/-- Reads a pattern. Blanks around it do not count, and a fault shows the text without them. -/
def parse (text : String) : Except Fault UrlPattern :=
  let trimmed := trim text.toList
  let source := String.ofList trimmed
  if trimmed == ['*'] then .ok any
  else
    match PatternSpelling.cut trimmed with
    | .ok spelling => .ok (spelling.toPattern source)
    | .error fault => .error (.pattern source fault.reason)

/-- The port that stands for no port in a pattern. Only the web schemes have one. -/
def webPort? (scheme : String) : Option Nat :=
  if scheme == "http" then some 80
  else if scheme == "https" then some 443
  else none

/-- The scheme is accepted. -/
def acceptsScheme (p : UrlPattern) (scheme : String) : Bool :=
  match p.scheme with
  | .none => false
  | .web => scheme == "http" || scheme == "https"
  | .exact expected => scheme == expected

/-- The name, in small letters, is `name` itself or ends in `name` behind a dot. -/
def isBelow (name host : List Char) : Bool :=
  host == name ||
    match dropFinalRun? name host with
    | some front => front.getLast? == some '.'
    | none => false

/-- The host is accepted. -/
def acceptsHost (p : UrlPattern) (host : Host) : Bool :=
  match p.host, host with
  | .any, _ => true
  | .subdomains name, .domain host => isBelow name.toList (lower host.toList)
  | .exact name, .domain host => sameIgnoringCase host name
  | .ip address, .ipv4 a => address == .v4 a
  | .ip address, .ipv6 a => address == .v6 a
  | _, _ => false

/-- The port of an address is accepted. -/
def acceptsPort (p : UrlPattern) (u : Url) : Bool :=
  match p.port with
  | .any => true
  | .exact port => u.effectivePort? == some port
  | .default =>
    match webPort? u.scheme with
    | some expected => u.effectivePort? == some expected
    | none => false

/-- The address is accepted. -/
def accepts (p : UrlPattern) (u : Url) : Bool :=
  p.acceptsScheme u.scheme &&
    match u.host with
    | some host => p.acceptsHost host && p.acceptsPort u
    | none => false

/-- The text is an address that is accepted. -/
def acceptsText (p : UrlPattern) (text : String) : Bool :=
  match Url.parse text with
  | .ok u => p.accepts u
  | .error _ => false

end UrlPattern

end DeviceAccess
