import DeviceAccess.HostName.AsciiForm
import DeviceAccess.Url.Fault
import DeviceAccess.Url.Ip
import DeviceAccess.Url.Percent

/-!
# Hosts

A host is a name or an internet address. Addresses with a special scheme read their host through
the ASCII form of names, and a name whose last label is a number is an address of four octets.
Other addresses take the host as it stands.
-/

namespace DeviceAccess

open Text

/-- The host of an address. -/
inductive Host where
  | domain (name : String)
  | ipv4 (address : Ipv4)
  | ipv6 (address : Ipv6)
  deriving DecidableEq, Repr

namespace Host

/-- The host as it is written in an address. -/
def toChars : Host → List Char
  | .domain name => name.toList
  | .ipv4 address => address.toChars
  | .ipv6 address => ['['] ++ address.toChars ++ [']']

/-- The host as it is written in an address. -/
def text (h : Host) : String := String.ofList h.toChars

/-- Reads an address in brackets, without the opening one. -/
def bracketed? (cs : List Char) : Except UrlFault Host :=
  match cs.reverse with
  | ']' :: inner =>
    match Ipv6.ofChars? inner.reverse with
    | some address => .ok (.ipv6 address)
    | none => .error .ipv6
  | _ => .error .ipv6

/-- Reads the host of an address with a special scheme. -/
def ofChars (cs : List Char) : Except UrlFault Host :=
  match cs with
  | '[' :: rest => bracketed? rest
  | _ =>
    match (ofUtf8? (Url.percentDecode cs)).bind HostName.asciiForm? with
    | none => .error .hostName
    | some [] => .error .emptyHost
    | some name =>
      if Ipv4.endsInNumber name then
        match Ipv4.ofLenient? name with
        | some address => .ok (.ipv4 address)
        | none => .error .ipv4
      else .ok (.domain (String.ofList name))

/-- Reads a host by the rules of special schemes. -/
def parse (s : String) : Except UrlFault Host := ofChars s.toList

/-- Characters that no host may contain, whatever the scheme. -/
def isForbidden (c : Char) : Bool :=
  ['\x00', '\t', '\n', '\r', ' ', '#', '/', ':', '<', '>', '?', '@', '[', '\\', ']', '^',
    '|'].contains c

/-- Reads the host of an address without a special scheme: it keeps its spelling. -/
def verbatim (cs : List Char) : Except UrlFault Host :=
  match cs with
  | '[' :: rest => bracketed? rest
  | _ =>
    if cs.any isForbidden then .error .hostCharacter
    else .ok (.domain (String.ofList (Url.percentEncode Url.escapedEverywhere cs)))

end Host

end DeviceAccess
