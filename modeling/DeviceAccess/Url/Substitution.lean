import DeviceAccess.Url.Basic

/-!
# Putting another host into an address

The host is replaced and nothing else: scheme, credentials, port, path, query and fragment stay. A
mere name of a scheme has no place for a host.
-/

namespace DeviceAccess

/-- The host in the form in which addresses of a scheme hold it: only special schemes tell an address
of four octets from a name. -/
def Host.within (scheme : String) (h : Host) : Host :=
  match h with
  | .ipv4 _ => if Url.isSpecial scheme then h else .domain h.text
  | _ => h

namespace Url

/-- The address with another host. An address without authority gains one. -/
def replaceHost (u : Url) (host : Host) : Url :=
  match u.authority with
  | some a => { u with authority := some { a with host := some host } }
  | none => { u with authority := some ⟨"", "", some host, none⟩ }

/-- The address with another host, if it has a place for one. -/
def withHost? (u : Url) (host : Host) : Option Url :=
  if u.isName then none else some (u.replaceHost (host.within u.scheme))

/-- The address with the letters of its host made small. -/
def withLowerHost (u : Url) : Url :=
  match u.host with
  | some (.domain name) => u.replaceHost (.domain (Text.lowerText name))
  | _ => u

end Url

end DeviceAccess
