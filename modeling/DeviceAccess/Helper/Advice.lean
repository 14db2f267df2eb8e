import DeviceAccess.Enrollment
import DeviceAccess.Helper.Client

/-!
# Enrollment with advice

After a refresh the helper, if there is one, is asked whether the device should be enrolled. Its
answer never changes the enrollment; a missing helper is no fault, and any other trouble with it is.
-/

namespace DeviceAccess

/-- What the helper says about the device. -/
inductive HelperStatus where
  | skipped
  | notInstalled
  | installed (version : String) (shouldEnroll : Bool)
  deriving DecidableEq, Repr

/-- An enrollment with the advice of the helper. -/
structure EnrollmentReport where
  enrollment : Enrollment
  helper : HelperStatus

variable {σ : Type}

/-- Asks for version and advice. -/
def askHelper (transport : Transport σ) (user : String) (link : Link σ) :
    Except Fault HelperStatus × Link σ :=
  match link.availability transport with
  | (.error fault, next) => (.error fault, next)
  | (.ok version, next) =>
    let (advice, last) := next.shouldEnroll transport user
    (advice.map (HelperStatus.installed version), last)

/-- A helper that is not there is a status and no fault. -/
def toleratingAbsence : Except Fault HelperStatus → Except Fault HelperStatus
  | .error fault => if fault.isHelperUnavailable then .ok .notInstalled else .error fault
  | status => status

/-- The status of the helper for an enrollment. It is not asked if the use of device certificates is
off. -/
def helperStatus (transport : Transport σ) (user : String) (enrollment : Enrollment)
    (link : Option (Link σ)) : Except Fault HelperStatus × Option (Link σ) :=
  match enrollment.state, link with
  | .disabled, _ => (.ok .skipped, link)
  | _, none => (.ok .notInstalled, none)
  | _, some l =>
    let (status, next) := askHelper transport user l
    (toleratingAbsence status, some next)

/-- The enrollment of the device with the advice of the helper behind `link`. -/
def refreshWithHelper (settings : EnrollmentSettings) (policy : Policy) (store : CertificateStore)
    (transport : Transport σ) (user : String) (link : Option (Link σ)) :
    Except Fault EnrollmentReport × Option (Link σ) :=
  match refresh settings policy store with
  | .error fault => (.error fault, link)
  | .ok enrollment =>
    let (status, next) := helperStatus transport user enrollment link
    (status.map fun helper => { enrollment, helper }, next)

end DeviceAccess
