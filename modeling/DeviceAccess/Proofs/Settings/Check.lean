import DeviceAccess.Proofs.Fault
import DeviceAccess.Proofs.Routing.Registrations
import DeviceAccess.Settings.Check

/-!
# What valid settings promise

Settings are valid exactly if they have no problems. Every private host of a service in valid
settings is registered under a name that is not empty and with a text that is a host.
-/

namespace DeviceAccess

open Text

namespace Settings

theorem validate_eq_ok_iff (s : Settings) : s.validate = .ok () ↔ s.problems = [] := by
  unfold validate
  cases s.problems with
  | nil => simp
  | cons problem rest => simp

theorem isHost_eq_true_iff {text : String} : isHost text = true ↔ ∃ h, Host.parse text = .ok h := by
  unfold isHost
  cases Host.parse text with
  | ok host => simp [Except.toBool]
  | error fault => simp [Except.toBool]

/-- The text is a host exactly if its entry has one. -/
theorem isHost_privateHost_iff (entry : ServiceOverride) :
    isHost (trimText entry.privateHost) = true ↔ entry.host?.isSome := by
  rw [isHost_eq_true_iff, Option.isSome_iff_exists]
  simp only [ServiceOverride.host?, toOption_eq_some_iff]

/-- The private host of a service is no problem if there is a service and a host. -/
theorem overrideProblems_eq_nil_iff (entry : ServiceOverride) :
    overrideProblems entry = [] ↔ (nonBlank? entry.service).isSome ∧ entry.host?.isSome := by
  rw [← isHost_privateHost_iff]
  unfold overrideProblems
  cases nonBlank? entry.service with
  | none => simp
  | some service => simp

/-- A name that is not blank is held under a key that is not empty. -/
theorem keyOf_ne_empty {service : String} (hservice : (nonBlank? service).isSome) :
    Overrides.keyOf service ≠ "" := by
  intro hkey
  -- making letters small keeps the length, so the trimmed name would be empty
  have hlower : lower (trimText service).toList = [] := by
    have hlist := congrArg String.toList hkey
    simpa [Overrides.keyOf, lowerText] using hlist
  have htrimmed : trimText service = "" := by
    have hlist : (trimText service).toList = [] := List.map_eq_nil_iff.mp hlower
    exact String.toList_eq_nil_iff.mp hlist
  simp [nonBlank?, htrimmed] at hservice

/-- What valid settings promise about the private hosts of services. -/
theorem override_of_validate {s : Settings} (hvalid : s.validate = .ok ())
    {entry : ServiceOverride} (hentry : entry ∈ s.access.overrides) :
    Overrides.keyOf entry.service ≠ "" ∧ entry.host?.isSome := by
  have hproblems := (validate_eq_ok_iff s).mp hvalid
  simp only [problems, List.append_eq_nil_iff, List.flatMap_eq_nil_iff] at hproblems
  obtain ⟨⟨_, hoverrides⟩, _⟩ := hproblems
  obtain ⟨hservice, hhost⟩ := (overrideProblems_eq_nil_iff entry).mp (hoverrides entry hentry)
  exact ⟨keyOf_ne_empty hservice, hhost⟩

end Settings

end DeviceAccess
