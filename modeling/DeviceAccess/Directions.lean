import DeviceAccess.Routing

/-!
# Directions for connections

What a client has to know to connect to a service: whether to go past the proxy, which certificate to
show, and where to connect.
-/

namespace DeviceAccess

/-- How to connect. -/
structure Directions where
  bypassProxy : Bool
  showCertificate : Bool
  certificate : Option Certificate
  endpoint : ResolvedEndpoint

namespace Directions

/-- Private connections do not use the proxy. -/
def bypassesProxy (route : Route) : Bool := route.isPrivate

/-- Only an enrolled device shows a certificate. -/
def showsCertificate (state : EnrollmentState) : Bool := state == .enrolled

/-- The directions for a route, an enrollment and an endpoint. -/
def build (route : Route) (enrollment : Enrollment) (endpoint : ResolvedEndpoint) : Directions :=
  let shows := showsCertificate enrollment.state
  { bypassProxy := bypassesProxy route
    showCertificate := shows
    certificate := if shows then enrollment.certificate? else none
    endpoint }

end Directions

end DeviceAccess
