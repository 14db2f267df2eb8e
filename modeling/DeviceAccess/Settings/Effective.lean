import DeviceAccess.Routing
import DeviceAccess.Settings.Basic

/-!
# Effective settings

Each choice of the user gives way to what an administrator has set for the user, and that to what an
administrator has set for the machine. A text that is blank counts as not set.
-/

namespace DeviceAccess

open Text

/-- Where an effective value comes from. -/
inductive SettingSource where
  | machineRule
  | userRule
  | userChoice
  | default
  deriving DecidableEq, Repr

namespace SettingSource

/-- The name of a source. -/
def text : SettingSource → String
  | machineRule => "machine policy"
  | userRule => "user policy"
  | userChoice => "user setting"
  | default => "default"

/-- An administrator has set the value. -/
def isRule : SettingSource → Bool
  | machineRule | userRule => true
  | _ => false

end SettingSource

/-- A value with its source. -/
structure Setting (α : Type) where
  value : α
  source : SettingSource
  deriving DecidableEq, Repr

/-- The effective access settings. -/
structure EffectiveAccess where
  authentication : Setting Bool
  selector : Setting (Option String)
  privateEndpoint : Setting (Option String)
  deriving DecidableEq, Repr

/-! ## §1 Precedence -/

/-- What an administrator has set, for the machine before the user. -/
def ofRules? {α : Type} (machine user : Option α) : Option (Setting α) :=
  match machine, user with
  | some value, _ => some { value, source := .machineRule }
  | none, some value => some { value, source := .userRule }
  | none, none => none

/-- The effective truth value. -/
def effectiveBool (machine user : Option Bool) (choice : Bool) : Setting Bool :=
  (ofRules? machine user).getD { value := choice, source := .userChoice }

/-- The effective text, without the blanks around it. -/
def effectiveText (machine user choice : Option String) : Setting (Option String) :=
  match ofRules? (machine.bind nonBlank?) (user.bind nonBlank?) with
  | some setting => { value := some setting.value, source := setting.source }
  | none =>
    match choice.bind nonBlank? with
    | some text => { value := some text, source := .userChoice }
    | none => { value := none, source := .default }

namespace Settings

/-- The effective access settings. -/
def effective (s : Settings) : EffectiveAccess :=
  { authentication := effectiveBool s.machineRule.authentication s.userRule.authentication
      s.access.authentication
    selector := effectiveText s.machineRule.selector s.userRule.selector s.access.selector
    privateEndpoint := effectiveText s.machineRule.privateEndpoint s.userRule.privateEndpoint
      s.access.privateEndpoint }

/-! ## §2 What follows from them -/

/-- The settings that a refresh reads. -/
def enrollmentSettings (s : Settings) : EnrollmentSettings :=
  { authentication := s.effective.authentication.value, selector := s.effective.selector.value }

/-- The route that the private endpoint stands for. -/
def route (s : Settings) : Route := Route.ofSetting s.effective.privateEndpoint.value

/-- Registers the private hosts of services one after the other. -/
def registerAll (o : Overrides) (entries : List ServiceOverride) : Except Fault Overrides :=
  entries.foldlM (fun o entry => o.register entry.service entry.privateHost) o

/-- The private hosts: that of the route for the given endpoints, then those of single services. -/
def overrides (s : Settings) (endpoints : List Endpoint) : Except Fault Overrides := do
  registerAll (← Overrides.empty.applyRoute s.route endpoints) s.access.overrides

/-- The enrollment of the device under the configured policy. -/
def refreshWith (s : Settings) (store : CertificateStore) : Except Fault Enrollment :=
  refresh s.enrollmentSettings s.selectionPolicy store

end Settings

end DeviceAccess
