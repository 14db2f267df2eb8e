import DeviceAccess.Proofs.Routing.Registrations
import DeviceAccess.Settings.Effective

/-!
# Private hosts under settings

The private hosts under settings come from one run of registrations: those of the route for the given
endpoints, and then those of single services. So a single service wins over the route, and a later
entry over an earlier one.
-/

namespace DeviceAccess.Settings

/-- What is registered under settings, in its order. -/
def registrations (s : Settings) (endpoints : List Endpoint) : List ServiceOverride :=
  (RegistryCall.applyRoute s.route endpoints).registrations ++ s.access.overrides

theorem overrides_eq (s : Settings) (endpoints : List Endpoint) :
    s.overrides endpoints = Overrides.outcomeOf (Overrides.empty.registerUpTo
      (s.registrations endpoints)) := by
  have hroute := RegistryCall.perform_eq .empty (.applyRoute s.route endpoints)
  simp only [RegistryCall.perform] at hroute
  unfold overrides registrations
  rw [Overrides.outcome_append, hroute]
  simp only [Overrides.registerAll_eq]

/-- The private host of a service under settings is that of its last registration. -/
theorem get?_overrides {s : Settings} {endpoints : List Endpoint} {o : Overrides}
    (ho : s.overrides endpoints = .ok o) (key : String) :
    o.hosts.get? key = lastHost? (s.registrations endpoints) key := by
  rw [overrides_eq] at ho
  rw [Overrides.get?_of_outcome_ok ho, Overrides.empty, KeyMap.get?_empty, Option.or_none]

end DeviceAccess.Settings
