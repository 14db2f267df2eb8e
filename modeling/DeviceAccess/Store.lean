import DeviceAccess.Policy

/-!
# Certificate stores

The personal certificates of the machine and of the user. Listing either may fail, and a failure is
passed on to whoever asks for candidates.
-/

namespace DeviceAccess

/-- What listing the two stores gives. -/
structure CertificateStore where
  machine : Except Fault (List Certificate)
  user : Except Fault (List Certificate)

/-- A certificate with the store that it is in. -/
structure Candidate where
  certificate : Certificate
  location : Scope

namespace CertificateStore

/-- The stores that hold nothing. -/
def empty : CertificateStore := { machine := .ok [], user := .ok [] }

/-- The certificates of one store, with their place. -/
def located (location : Scope) (certificates : List Certificate) : List Candidate :=
  certificates.map fun certificate => { certificate, location }

/-- The certificates that prove who a client is, those of the machine before those of the user. -/
def candidates (s : CertificateStore) : Except Fault (List Candidate) := do
  let machine ← s.machine
  let user ← s.user
  return (located .machine machine ++ located .user user).filter (·.certificate.provesClient)

end CertificateStore

end DeviceAccess
