import DeviceAccess.Proofs.Fault
import DeviceAccess.Routing
import DeviceAccess.Settings.Effective

/-!
# Registered private hosts

Which private host is registered for a service, in terms of the calls that were made: that of the
last registration of the service whose text is a host.

- `Overrides.registerUpTo` runs a list of registrations and keeps what was registered when one
  fails; the functions that register are instances of it.
- `RegistryCall` and `Overrides.afterCalls` are the calls that change what is registered, and what
  is registered after a run of them.
- `lastHost?` is the private host by the calls alone.

A run may contain calls that fail. All registrations of one call have the same text for the private
host, so a call that fails does so before it has registered anything.
-/

namespace DeviceAccess

open Text

/-! ## §1 Lists of registrations -/

/-- The private host of an entry, if its text is a host. -/
def ServiceOverride.host? (entry : ServiceOverride) : Option Host :=
  (Host.parse (trimText entry.privateHost)).toOption

/-- The private host of the last entry under a key, among those whose text is a host. -/
def lastHost? : List ServiceOverride → String → Option Host
  | [], _ => none
  | entry :: rest, key =>
    (lastHost? rest key).or (if key = Overrides.keyOf entry.service then entry.host? else none)

theorem lastHost?_append (xs ys : List ServiceOverride) (key : String) :
    lastHost? (xs ++ ys) key = (lastHost? ys key).or (lastHost? xs key) := by
  induction xs with
  | nil => simp [lastHost?]
  | cons x xs ih => simp only [List.cons_append, lastHost?, ih, Option.or_assoc]

/-- A key has a private host if an entry under it has one. -/
theorem isSome_lastHost?_iff (entries : List ServiceOverride) (key : String) :
    (lastHost? entries key).isSome ↔
      ∃ entry ∈ entries, Overrides.keyOf entry.service = key ∧ entry.host?.isSome := by
  induction entries with
  | nil => simp [lastHost?]
  | cons entry rest ih =>
    rw [lastHost?, Option.isSome_or, Bool.or_eq_true, ih]
    by_cases hkey : key = Overrides.keyOf entry.service
    · simp [hkey, or_comm]
    · simp [hkey, Ne.symm hkey]

/-- Entries without a host among them leave every key without one. -/
theorem lastHost?_eq_none {entries : List ServiceOverride}
    (hnone : ∀ entry ∈ entries, entry.host? = none) (key : String) :
    lastHost? entries key = none := by
  rw [← Option.not_isSome_iff_eq_none, isSome_lastHost?_iff]
  rintro ⟨entry, hentry, _, hhost⟩
  simp [hnone entry hentry] at hhost

namespace Overrides

/-- Registers entries up to the first one that fails. What was registered before it stays. -/
def registerUpTo (o : Overrides) : List ServiceOverride → Overrides × Option Fault
  | [] => (o, none)
  | entry :: rest =>
    match o.register entry.service entry.privateHost with
    | .ok next => next.registerUpTo rest
    | .error fault => (o, some fault)

/-- The outcome of a run of registrations: what is registered, or the fault that stopped it. -/
def outcomeOf : Overrides × Option Fault → Except Fault Overrides
  | (o, none) => .ok o
  | (_, some fault) => .error fault

variable {o : Overrides}

/-- Registering an entry whose text is a host. -/
theorem register_of_host {entry : ServiceOverride} {h : Host} (hhost : entry.host? = some h) :
    o.register entry.service entry.privateHost = .ok ⟨o.hosts.insert (keyOf entry.service) h⟩ := by
  have hparse : Host.parse (trimText entry.privateHost) = .ok h := toOption_eq_some_iff.mp hhost
  simp only [register, hparse]
  rfl

/-- Registering an entry whose text is no host. -/
theorem register_of_no_host {entry : ServiceOverride} (hhost : entry.host? = none) :
    ∃ fault, o.register entry.service entry.privateHost = .error fault := by
  obtain ⟨fault, hparse⟩ : ∃ fault, Host.parse (trimText entry.privateHost) = .error fault :=
    toOption_eq_none_iff.mp hhost
  simp only [register, hparse]
  exact ⟨.url fault, rfl⟩

/-- If all entries have hosts, all of them are registered. -/
theorem registerUpTo_of_hosts {entries : List ServiceOverride}
    (hhosts : ∀ entry ∈ entries, entry.host?.isSome) :
    (o.registerUpTo entries).2 = none ∧
      ∀ key, (o.registerUpTo entries).1.hosts.get? key =
        (lastHost? entries key).or (o.hosts.get? key) := by
  induction entries generalizing o with
  | nil => exact ⟨rfl, fun key => by simp [registerUpTo, lastHost?]⟩
  | cons entry rest ih =>
    obtain ⟨h, hh⟩ := Option.isSome_iff_exists.mp (hhosts entry List.mem_cons_self)
    have hrest := fun e he => hhosts e (List.mem_cons_of_mem entry he)
    simp only [registerUpTo, register_of_host hh]
    refine ⟨(ih hrest).1, fun key => ?_⟩
    rw [(ih hrest).2, KeyMap.get?_insert, lastHost?, Option.or_assoc, hh]
    split <;> rfl

/-- If no entry has a host, nothing is registered. -/
theorem registerUpTo_of_no_hosts {entries : List ServiceOverride}
    (hnone : ∀ entry ∈ entries, entry.host? = none) : (o.registerUpTo entries).1 = o := by
  cases entries with
  | nil => rfl
  | cons entry rest =>
    obtain ⟨fault, hfault⟩ := register_of_no_host (o := o) (hnone entry List.mem_cons_self)
    simp only [registerUpTo, hfault]

/-- A run that is not stopped reaches its outcome. -/
theorem reached_of_outcome_ok {run : Overrides × Option Fault} {next : Overrides}
    (hrun : outcomeOf run = .ok next) : run.1 = next := by
  obtain ⟨reached, fault?⟩ := run
  cases fault? with
  | none => exact Except.ok.inj hrun
  | some fault => cases hrun

/-- A run is not stopped only if all of its entries have hosts. -/
theorem hosts_of_outcome_ok {entries : List ServiceOverride} {next : Overrides}
    (hrun : outcomeOf (o.registerUpTo entries) = .ok next) :
    ∀ entry ∈ entries, entry.host?.isSome := by
  induction entries generalizing o with
  | nil => simp
  | cons entry rest ih =>
    cases hhost : entry.host? with
    | none =>
      obtain ⟨fault, hfault⟩ := register_of_no_host (o := o) hhost
      simp only [registerUpTo, hfault] at hrun
      cases hrun
    | some h =>
      simp only [registerUpTo, register_of_host hhost] at hrun
      intro e he
      rcases List.mem_cons.mp he with rfl | he
      · rw [hhost]
        rfl
      · exact ih hrun e he

/-- What is registered after a run that is not stopped. -/
theorem get?_of_outcome_ok {entries : List ServiceOverride} {next : Overrides}
    (hrun : outcomeOf (o.registerUpTo entries) = .ok next) (key : String) :
    next.hosts.get? key = (lastHost? entries key).or (o.hosts.get? key) := by
  rw [← reached_of_outcome_ok hrun]
  exact (registerUpTo_of_hosts (hosts_of_outcome_ok hrun)).2 key

/-- Two runs one after the other are one run, which the first fault stops. -/
theorem outcome_append (xs ys : List ServiceOverride) :
    outcomeOf (o.registerUpTo (xs ++ ys)) =
      (outcomeOf (o.registerUpTo xs) >>= fun next => outcomeOf (next.registerUpTo ys)) := by
  induction xs generalizing o with
  | nil => rfl
  | cons x xs ih =>
    rw [List.cons_append, registerUpTo, registerUpTo]
    cases o.register x.service x.privateHost with
    | error fault => rfl
    | ok next => exact ih

/-- Folding registrations, each of which may fail, is registering up to the first that does. -/
theorem foldlM_register {α : Type} (entryOf : α → ServiceOverride) (xs : List α) :
    xs.foldlM (fun o x => o.register (entryOf x).service (entryOf x).privateHost) o =
      outcomeOf (o.registerUpTo (xs.map entryOf)) := by
  induction xs generalizing o with
  | nil => rfl
  | cons x xs ih =>
    rw [List.foldlM_cons, List.map_cons, registerUpTo]
    cases o.register (entryOf x).service (entryOf x).privateHost with
    | error fault => rfl
    | ok next => exact ih

theorem registerAll_eq (entries : List ServiceOverride) :
    Settings.registerAll o entries = outcomeOf (o.registerUpTo entries) := by
  have hfold := foldlM_register (o := o) id entries
  rwa [List.map_id] at hfold

end Overrides

/-! ## §2 Calls -/

/-- A call that changes which private hosts are registered. -/
inductive RegistryCall where
  | register (service privateHost : String)
  | applyRoute (route : Route) (endpoints : List Endpoint)

namespace RegistryCall

/-- What a call asks to register, in the order in which it does. -/
def registrations : RegistryCall → List ServiceOverride
  | register service privateHost => [{ service, privateHost }]
  | applyRoute .direct _ => []
  | applyRoute (.privateConnection host) endpoints =>
    endpoints.map fun e => { service := e.host, privateHost := host }

/-- What a call gives. -/
def perform (o : Overrides) : RegistryCall → Except Fault Overrides
  | register service privateHost => o.register service privateHost
  | applyRoute route endpoints => o.applyRoute route endpoints

/-- A call runs its registrations up to the first that fails. -/
theorem perform_eq (o : Overrides) (call : RegistryCall) :
    call.perform o = Overrides.outcomeOf (o.registerUpTo call.registrations) := by
  cases call with
  | register service privateHost =>
    simp only [perform, registrations, Overrides.registerUpTo]
    cases o.register service privateHost with
    | error fault => rfl
    | ok next => rfl
  | applyRoute route endpoints =>
    cases route with
    | direct => rfl
    | privateConnection host =>
      simp only [perform, Overrides.applyRoute, registrations, ← Overrides.foldlM_register]

/-- All registrations of one call have a host, or none has. -/
theorem hosts_or_none (call : RegistryCall) :
    (∀ entry ∈ call.registrations, entry.host?.isSome) ∨
      ∀ entry ∈ call.registrations, entry.host? = none := by
  have hsame : ∃ text, ∀ entry ∈ call.registrations, entry.privateHost = text := by
    cases call with
    | register service privateHost => exact ⟨privateHost, by simp [registrations]⟩
    | applyRoute route endpoints =>
      cases route with
      | direct => exact ⟨"", by simp [registrations]⟩
      | privateConnection host => exact ⟨host, by simp [registrations]⟩
  obtain ⟨text, htext⟩ := hsame
  cases hhost : (Host.parse (trimText text)).toOption with
  | none =>
    right
    intro entry hentry
    rw [ServiceOverride.host?, htext entry hentry, hhost]
  | some h =>
    left
    intro entry hentry
    rw [ServiceOverride.host?, htext entry hentry, hhost]
    rfl

end RegistryCall

namespace Overrides

/-- What is registered after a call, which may fail. -/
def afterCall (o : Overrides) (call : RegistryCall) : Overrides :=
  (o.registerUpTo call.registrations).1

/-- What is registered after a run of calls. -/
def afterCalls (o : Overrides) (calls : List RegistryCall) : Overrides := calls.foldl afterCall o

/-- A call that succeeds gives what is registered after it. -/
theorem afterCall_of_ok {o next : Overrides} {call : RegistryCall} (h : call.perform o = .ok next) :
    o.afterCall call = next := by
  rw [RegistryCall.perform_eq] at h
  exact reached_of_outcome_ok h

/-- A call that fails leaves everything as it was. -/
theorem afterCall_of_error {o : Overrides} {call : RegistryCall} {fault : Fault}
    (h : call.perform o = .error fault) : o.afterCall call = o := by
  rcases call.hosts_or_none with hhosts | hnone
  · have hdone := (registerUpTo_of_hosts (o := o) hhosts).1
    rw [RegistryCall.perform_eq, ← Prod.eta (o.registerUpTo call.registrations), hdone] at h
    cases h
  · exact registerUpTo_of_no_hosts hnone

/-- What one call changes: the hosts that it registers come before those that are there. -/
theorem get?_afterCall (o : Overrides) (call : RegistryCall) (key : String) :
    (o.afterCall call).hosts.get? key =
      (lastHost? call.registrations key).or (o.hosts.get? key) := by
  rcases call.hosts_or_none with hhosts | hnone
  · exact (registerUpTo_of_hosts hhosts).2 key
  · rw [lastHost?_eq_none hnone, Option.none_or, afterCall, registerUpTo_of_no_hosts hnone]

/-- What is registered after a run of calls: for each key the host of the last registration. -/
theorem get?_afterCalls (o : Overrides) (calls : List RegistryCall) (key : String) :
    (o.afterCalls calls).hosts.get? key =
      (lastHost? (calls.flatMap RegistryCall.registrations) key).or (o.hosts.get? key) := by
  induction calls generalizing o with
  | nil => simp [afterCalls, lastHost?]
  | cons call calls ih =>
    have hstep : o.afterCalls (call :: calls) = (o.afterCall call).afterCalls calls := rfl
    rw [hstep, ih, get?_afterCall, List.flatMap_cons, lastHost?_append, Option.or_assoc]

end Overrides

end DeviceAccess
