import Mathlib
import DeviceAccess.Proofs.KeyMap
import DeviceAccess.Proofs.Routing.Registrations

/-!
# The history of a registry

Private hosts are registered by calls, some of which fail. What is registered after a run of calls is
told by the history of the run: the registrations of those calls that succeeded.

- `Overrides.Holds` says that a registry has for each service the host of its last registration in a
  list, and no other entries.
- `Overrides.madeBy` is the history of a run.
- `Overrides.holds_madeBy` is the law of a run, by induction on the calls. Its step rests on
  `Overrides.afterCall_of_error`: a call that fails has registered nothing.
-/

namespace DeviceAccess

open Text

/-! ## §1 Last entries -/

/-- The entry is the last one under a key. -/
def IsLastUnder (key : String) : List ServiceOverride → ServiceOverride → Prop :=
  IsLast fun entry => Overrides.keyOf entry.service = key

variable {entries : List ServiceOverride} {key : String}

/-- No entry is under a key without a host, if all entries have hosts. -/
theorem lastHost?_eq_none_iff (hhosts : ∀ entry ∈ entries, entry.host?.isSome) :
    lastHost? entries key = none ↔ ∀ entry ∈ entries, Overrides.keyOf entry.service ≠ key := by
  rw [← Option.not_isSome_iff_eq_none, isSome_lastHost?_iff]
  constructor
  · intro hnone entry hentry hkey
    exact hnone ⟨entry, hentry, hkey, hhosts entry hentry⟩
  · rintro hnone ⟨entry, hentry, hkey, _⟩
    exact hnone entry hentry hkey

/-- The last entry under a key decides, if all entries have hosts. -/
theorem lastHost?_eq_some_iff (hhosts : ∀ entry ∈ entries, entry.host?.isSome) {h : Host} :
    lastHost? entries key = some h ↔
      ∃ entry, IsLastUnder key entries entry ∧
        Host.parse (trimText entry.privateHost) = .ok h := by
  induction entries with
  | nil =>
    -- no member, so no last one
    simp [lastHost?, IsLastUnder, IsLast]
  | cons entry rest ih =>
    have hrest : ∀ e ∈ rest, e.host?.isSome := fun e he => hhosts e (List.mem_cons_of_mem _ he)
    have hread : entry.host? = some h ↔ Host.parse (trimText entry.privateHost) = .ok h :=
      toOption_eq_some_iff
    have hfirst : (if key = Overrides.keyOf entry.service then entry.host? else none) = some h ↔
        Overrides.keyOf entry.service = key ∧ Host.parse (trimText entry.privateHost) = .ok h := by
      rw [← hread]
      by_cases hkey : Overrides.keyOf entry.service = key
      · simp [hkey]
      · simp [hkey, Ne.symm hkey]
    rw [lastHost?, Option.or_eq_some_iff, ih hrest, lastHost?_eq_none_iff hrest, hfirst]
    simp only [IsLastUnder, isLast_cons_iff]
    constructor
    · rintro (⟨e, hlast, hhost⟩ | ⟨hnone, hkey, hhost⟩)
      · exact ⟨e, .inl hlast, hhost⟩
      · exact ⟨entry, .inr ⟨rfl, hkey, hnone⟩, hhost⟩
    · rintro ⟨e, hlast | ⟨rfl, hkey, hnone⟩, hhost⟩
      · exact .inl ⟨e, hlast, hhost⟩
      · exact .inr ⟨hnone, hkey, hhost⟩

namespace Overrides

/-! ## §2 What a registry holds -/

/-- A registry holds the entries of a list, and of several under one key the last. -/
structure Holds (o : Overrides) (entries : List ServiceOverride) : Prop where
  find?_eq_some_iff : ∀ service h, o.find? service = some h ↔
    ∃ entry, IsLastUnder (lowerText service) entries entry ∧
      Host.parse (trimText entry.privateHost) = .ok h
  find?_eq_none_iff : ∀ service, o.find? service = none ↔
    ∀ entry ∈ entries, keyOf entry.service ≠ lowerText service
  size_eq : o.size = (entries.map fun entry => keyOf entry.service).toFinset.card

theorem holds_of_get? {o : Overrides} (hhosts : ∀ entry ∈ entries, entry.host?.isSome)
    (hget : ∀ key, o.hosts.get? key = lastHost? entries key) : o.Holds entries := by
  constructor
  · intro service h
    rw [find?, hget, lastHost?_eq_some_iff hhosts]
  · intro service
    rw [find?, hget, lastHost?_eq_none_iff hhosts]
  · refine KeyMap.size_eq_card o.hosts fun key => ?_
    rw [hget, isSome_lastHost?_iff, List.mem_toFinset, List.mem_map]
    constructor
    · rintro ⟨entry, hentry, hkey⟩
      exact ⟨entry, hentry, hkey, hhosts entry hentry⟩
    · rintro ⟨entry, hentry, hkey, _⟩
      exact ⟨entry, hentry, hkey⟩

/-! ## §3 Runs of calls -/

/-- What a run of calls has registered, in its order: the registrations of the calls that
succeeded. -/
def madeBy (o : Overrides) : List RegistryCall → List ServiceOverride
  | [] => []
  | call :: calls =>
    match call.perform o with
    | .ok next => call.registrations ++ next.madeBy calls
    | .error _ => o.madeBy calls

/-- What is registered after a run, by the history of the run and what was there before. -/
theorem history_afterCalls (o : Overrides) (calls : List RegistryCall) :
    (∀ entry ∈ o.madeBy calls, entry.host?.isSome) ∧
      ∀ key, (o.afterCalls calls).hosts.get? key =
        (lastHost? (o.madeBy calls) key).or (o.hosts.get? key) := by
  induction calls generalizing o with
  | nil => simp [madeBy, afterCalls, lastHost?]
  | cons call calls ih =>
    have hstep : o.afterCalls (call :: calls) = (o.afterCall call).afterCalls calls := rfl
    cases hcall : call.perform o with
    | ok next =>
      -- the history grows by the registrations of the call, all of which have hosts
      have hrun := RegistryCall.perform_eq o call ▸ hcall
      have hmade : o.madeBy (call :: calls) = call.registrations ++ next.madeBy calls := by
        simp only [madeBy, hcall]
      rw [hstep, afterCall_of_ok hcall, hmade]
      refine ⟨fun entry hentry => ?_, fun key => ?_⟩
      · rcases List.mem_append.mp hentry with hnew | hlater
        · exact hosts_of_outcome_ok hrun entry hnew
        · exact (ih next).1 entry hlater
      · rw [(ih next).2, get?_of_outcome_ok hrun, lastHost?_append, Option.or_assoc]
    | error fault =>
      -- neither the registry nor the history changes
      have hmade : o.madeBy (call :: calls) = o.madeBy calls := by simp only [madeBy, hcall]
      rw [hstep, afterCall_of_error hcall, hmade]
      exact ih o

/-- After a run that begins without entries the registry holds the history of the run. -/
theorem holds_madeBy (calls : List RegistryCall) :
    (empty.afterCalls calls).Holds (empty.madeBy calls) := by
  obtain ⟨hhosts, hget⟩ := history_afterCalls empty calls
  refine holds_of_get? hhosts fun key => ?_
  rw [hget, empty, KeyMap.get?_empty, Option.or_none]

/-- **The law of a registry**: after any run of calls, some of which may fail, it holds the history
of the run. Whatever call comes next, it gives the registry as it is after the call, or it fails and
leaves the registry as it was; a direct route leaves it so in any case. -/
theorem registry_after_calls (calls : List RegistryCall) :
    let o := empty.afterCalls calls
    o.Holds (empty.madeBy calls) ∧
      (∀ call next, call.perform o = .ok next → o.afterCall call = next) ∧
      (∀ call fault, call.perform o = .error fault → o.afterCall call = o) ∧
      ∀ endpoints, (RegistryCall.applyRoute .direct endpoints).perform o = .ok o ∧
        o.afterCall (.applyRoute .direct endpoints) = o := by
  intro o
  refine ⟨holds_madeBy calls, fun call next => afterCall_of_ok,
    fun call fault => afterCall_of_error, fun endpoints => ?_⟩
  exact ⟨rfl, rfl⟩

/-- A name in two spellings, with a call between them that fails for both of its endpoints. -/
theorem registry_after_calls_failing :
    let services := Endpoint.wellKnown.take 2
    let calls : List RegistryCall :=
      [.register " API.example" "10.0.0.1", .applyRoute (.privateConnection "a b") services,
        .register "api.EXAMPLE" "10.0.0.2 "]
    let o := empty.afterCalls calls
    o.find? "Api.Example" = some (.ipv4 ⟨0x0A000002⟩) ∧ o.size = 1 ∧
      (∃ fault, (RegistryCall.applyRoute (.privateConnection "a b") services).perform o =
        .error fault) ∧
      o.afterCall (.applyRoute (.privateConnection "a b") services) = o := by
  intro services calls o
  have hlaw := registry_after_calls calls
  have hmade : empty.madeBy calls =
      [⟨" API.example", "10.0.0.1"⟩, ⟨"api.EXAMPLE", "10.0.0.2 "⟩] := by decide +kernel
  have hfault : (RegistryCall.applyRoute (.privateConnection "a b") services).perform o =
      .error (.url .hostName) := by decide +kernel
  refine ⟨?_, ?_, ⟨_, hfault⟩, hlaw.2.2.1 _ _ hfault⟩
  · rw [hlaw.1.find?_eq_some_iff, hmade]
    exact ⟨⟨"api.EXAMPLE", "10.0.0.2 "⟩,
      ⟨[⟨" API.example", "10.0.0.1"⟩], [], rfl, by decide, by simp⟩, by decide +kernel⟩
  · rw [hlaw.1.size_eq, hmade]
    decide +kernel

end Overrides

end DeviceAccess
