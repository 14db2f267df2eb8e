import DeviceAccess.Store

/-!
# Enrollment

A device is enrolled if it holds a certificate that may be offered to the services. The decision is
made anew on every refresh:

1. If the use of device certificates is off, the device is `disabled`.
2. A custom selector picks from all candidates; without one, the built-in selector picks from those
   of the user.
3. If nothing was picked, the policy of the administrators picks from all candidates.
4. If it picks nothing either, the device is `notEnrolled`.
-/

namespace DeviceAccess

/-! ## §1 Types -/

/-- Which rule picked the certificate. -/
inductive EnrollmentSource where
  | customSelector
  | builtInSelector
  | policy
  deriving DecidableEq, Repr

/-- The outcome of a refresh. There is a certificate exactly if the device is enrolled. -/
inductive Enrollment where
  | disabled
  | notEnrolled
  | enrolled (certificate : Certificate) (source : EnrollmentSource)

/-- The outcome without the certificate. -/
inductive EnrollmentState where
  | disabled
  | notEnrolled
  | enrolled
  deriving DecidableEq, Repr

/-- The name of a state. -/
def EnrollmentState.text : EnrollmentState → String
  | disabled => "disabled"
  | notEnrolled => "not enrolled"
  | enrolled => "enrolled"

namespace Enrollment

/-- The state of an outcome. -/
def state : Enrollment → EnrollmentState
  | disabled => .disabled
  | notEnrolled => .notEnrolled
  | enrolled _ _ => .enrolled

/-- The certificate that was picked. -/
def certificate? : Enrollment → Option Certificate
  | enrolled c _ => some c
  | _ => none

/-- The rule that picked the certificate. -/
def source? : Enrollment → Option EnrollmentSource
  | enrolled _ source => some source
  | _ => none

end Enrollment

/-- What the application sets: whether device certificates are used, and the text of a custom
selector. -/
structure EnrollmentSettings where
  authentication : Bool
  selector : Option String
  deriving DecidableEq, Repr

/-! ## §2 Picking a certificate -/

/-- The address that certificates are picked for, `https://www.googleapis.com/`. -/
def probeAddress : Url :=
  { scheme := "https"
    authority := some ⟨"", "", some (.domain "www.googleapis.com"), none⟩
    path := "/"
    query := none
    fragment := none }

/-- The filter of the certificates that endpoint verification issues. -/
def endpointVerification : NameFilter :=
  { NameFilter.empty with commonName := some "Google Endpoint Verification" }

/-- The selector that is used without a custom one. -/
def builtInSelector : Selector :=
  { pattern :=
      { source := "https://[*.]googleapis.com/"
        scheme := .exact "https"
        host := .subdomains "googleapis.com"
        port := .default }
    filter :=
      { issuer := some endpointVerification
        subject := some endpointVerification
        thumbprint := none } }

/-- The first candidate that passes, enrolled under the given rule. -/
def pick? (source : EnrollmentSource) (passes : Candidate → Bool) (candidates : List Candidate) :
    Option Enrollment :=
  (candidates.find? passes).map fun candidate => .enrolled candidate.certificate source

/-- What the custom or the built-in selector picks. A custom text that is no selector picks nothing,
and the built-in selector does not stand in for it. -/
def pickBySelector? (selector : Option String) (candidates : List Candidate) : Option Enrollment :=
  match selector with
  | some text =>
    match Selector.parse? text with
    | some s => pick? .customSelector (s.accepts probeAddress ·.certificate) candidates
    | none => none
  | none =>
    pick? .builtInSelector
      (fun c => c.location == .user && builtInSelector.accepts probeAddress c.certificate)
      candidates

/-- What the policy picks. -/
def pickByPolicy? (policy : Policy) (candidates : List Candidate) : Option Enrollment :=
  pick? .policy (policy.accepts probeAddress ·.certificate) candidates

/-- The enrollment of the device. The store is not read if the use of device certificates is off. -/
def refresh (settings : EnrollmentSettings) (policy : Policy) (store : CertificateStore) :
    Except Fault Enrollment := do
  -- a store that cannot be listed is no trouble while certificates are not used
  if !settings.authentication then return .disabled
  let candidates ← store.candidates
  return ((pickBySelector? settings.selector candidates).or
    (pickByPolicy? policy candidates)).getD .notEnrolled

end DeviceAccess
