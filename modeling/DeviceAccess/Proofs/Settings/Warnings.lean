import Mathlib
import DeviceAccess.Proofs.KeyMap
import DeviceAccess.Proofs.Policy.Entries
import DeviceAccess.Settings.Check

/-!
# Warnings about the policy

Each entry of the policy lists meets one of three fates: it is in force, it has no effect and a
warning says so, or it has no effect and nothing is said. The last happens to a selector under a
number that is too large, for a name of digits is taken as a number whatever it denotes.

- `EntryFate` tells the three fates apart by the text of an entry.
- `Settings.warnings_exact_iff` counts them: warnings are exact but for the entries of the third
  kind.
-/

namespace DeviceAccess

open Text

/-! ## §1 Names and fates -/

namespace Settings

theorem isNumberName_iff {name : String} :
    isNumberName name = true ↔ name ≠ "" ∧ ∀ c ∈ name.toList, c.isDigit = true := by
  simp [isNumberName]

end Settings

namespace Policy

/-- The value is a selector under digits that denote no number of sixty-four bits. -/
structure IsPassedOver (value : String × String) : Prop where
  ne_empty : value.1 ≠ ""
  digits : ∀ c ∈ value.1.toList, c.isDigit = true
  tooLarge : 2 ^ 64 ≤ placeValue value.1.toList
  selector : (Selector.parse? value.2).isSome

instance (value : String × String) : Decidable (IsPassedOver value) :=
  decidable_of_iff
    (value.1 ≠ "" ∧ (∀ c ∈ value.1.toList, c.isDigit = true) ∧
      2 ^ 64 ≤ placeValue value.1.toList ∧ (Selector.parse? value.2).isSome)
    ⟨fun ⟨a, b, c, d⟩ => ⟨a, b, c, d⟩, fun h => ⟨h.ne_empty, h.digits, h.tooLarge, h.selector⟩⟩

theorem EntryOf.not_isPassedOver {scope : Scope} {value : String × String} {entry : PolicyEntry}
    (h : EntryOf scope value entry) : ¬IsPassedOver value := by
  intro hpassed
  have hfits := h.number.fits
  rw [h.number.value] at hfits
  exact absurd hpassed.tooLarge (not_le.mpr hfits)

end Policy

/-- The entry of the policy that a warning is about. -/
def SettingsWarning.entry? : SettingsWarning → Option (Scope × String)
  | selector _ => none
  | entryName scope name => some (scope, name)
  | entrySelector scope name => some (scope, name)

namespace Settings

open Policy

/-- What becomes of an entry of the policy lists. -/
inductive EntryFate (scope : Scope) (value : String × String) : Prop where
  | inForce {entry : PolicyEntry} (hentry : EntryOf scope value entry)
      (hsilent : entryWarnings scope value = [])
  | warned {w : SettingsWarning} (hignored : DoesNotCount value) (hpassed : ¬IsPassedOver value)
      (hwarning : entryWarnings scope value = [w]) (hentry : w.entry? = some (scope, value.1))
  | passedOver (hignored : DoesNotCount value) (hpassed : IsPassedOver value)
      (hsilent : entryWarnings scope value = [])

theorem entryFate (scope : Scope) (value : String × String) : EntryFate scope value := by
  by_cases hname : isNumberName value.1 = true
  · obtain ⟨hne, hdigits⟩ := isNumberName_iff.mp hname
    cases hselector : Selector.parse? value.2 with
    | none =>
      have hwarning : entryWarnings scope value = [.entrySelector scope value.1] := by
        simp [entryWarnings, hname, isSelector, hselector]
      refine .warned (.inr hselector) (fun hpassed => ?_) hwarning rfl
      simpa [hselector] using hpassed.selector
    | some selector =>
      have hsilent : entryWarnings scope value = [] := by
        simp [entryWarnings, hname, isSelector, hselector]
      by_cases hfits : placeValue value.1.toList < 2 ^ 64
      · have hentry : EntryOf scope value ⟨scope, placeValue value.1.toList, selector⟩ :=
          ⟨rfl, ⟨hne, hdigits, rfl, hfits⟩, hselector⟩
        exact .inForce hentry hsilent
      · refine .passedOver (.inl fun n hnumber => hfits ?_)
          ⟨hne, hdigits, not_lt.mp hfits, by simp [hselector]⟩ hsilent
        rw [← hnumber.value]
        exact hnumber.fits
  · have hwarning : entryWarnings scope value = [.entryName scope value.1] := by
      simp [entryWarnings, hname]
    refine .warned (.inl fun n hnumber => hname ?_) (fun hpassed => hname ?_) hwarning rfl
    · exact isNumberName_iff.mpr ⟨hnumber.ne_empty, hnumber.digits⟩
    · exact isNumberName_iff.mpr ⟨hpassed.ne_empty, hpassed.digits⟩

/-! ## §2 Warnings about one entry -/

variable (s : Settings)

/-- The warnings about entries of the policy. -/
def policyWarnings : List SettingsWarning := s.warnings.filter fun w => w.entry?.isSome

/-- The warnings about one entry of the policy. -/
def warningsAbout (scope : Scope) (name : String) : List SettingsWarning :=
  s.warnings.filter fun w => w.entry? = some (scope, name)

/-- The entry is in the selection policy. -/
def IsInForce (scope : Scope) (value : String × String) : Prop :=
  ∃ entry ∈ s.selectionPolicy.entries, EntryOf scope value entry

theorem entry?_of_mem_entryWarnings {scope : Scope} {value : String × String} {w : SettingsWarning}
    (hw : w ∈ entryWarnings scope value) : w.entry? = some (scope, value.1) := by
  cases entryFate scope value with
  | inForce _ hsilent => simp [hsilent] at hw
  | warned _ _ hwarning hentry =>
    rw [hwarning, List.mem_singleton] at hw
    rw [hw, hentry]
  | passedOver _ _ hsilent => simp [hsilent] at hw

theorem entry?_of_mem_selectorWarnings {place : AccessSection} {selector : Option String}
    {w : SettingsWarning} (hw : w ∈ selectorWarnings place selector) : w.entry? = none := by
  unfold selectorWarnings at hw
  split at hw
  · split at hw
    · cases hw
    · rw [List.mem_singleton.mp hw]
      rfl
  · cases hw

/-- The warnings about the entries of a scope. -/
def scopeWarnings (scope : Scope) : List SettingsWarning :=
  (s.policy.ofScope scope).entries.flatMap (entryWarnings scope)

theorem entry?_of_mem_scopeWarnings {scope : Scope} {w : SettingsWarning}
    (hw : w ∈ s.scopeWarnings scope) : ∃ name, w.entry? = some (scope, name) := by
  obtain ⟨value, _, hw⟩ := List.mem_flatMap.mp hw
  exact ⟨value.1, entry?_of_mem_entryWarnings hw⟩

/-- Among all warnings, those that are about entries of the policy come from the two scopes. -/
theorem filter_warnings {p : SettingsWarning → Bool} (hp : ∀ w, w.entry? = none → p w = false) :
    s.warnings.filter p =
      (s.scopeWarnings .machine).filter p ++ (s.scopeWarnings .user).filter p := by
  have hselector : ∀ place selector, (selectorWarnings place selector).filter p = [] := by
    intro place selector
    rw [List.filter_eq_nil_iff]
    intro w hw
    simp [hp w (entry?_of_mem_selectorWarnings hw)]
  simp only [warnings, List.filter_append, hselector, List.nil_append]
  rfl

theorem policyWarnings_eq :
    s.policyWarnings = s.scopeWarnings .machine ++ s.scopeWarnings .user := by
  have hall : ∀ scope, (s.scopeWarnings scope).filter (fun w => w.entry?.isSome) =
      s.scopeWarnings scope := by
    intro scope
    rw [List.filter_eq_self]
    intro w hw
    obtain ⟨name, hname⟩ := s.entry?_of_mem_scopeWarnings hw
    simp [hname]
  rw [policyWarnings, s.filter_warnings (by simp), hall, hall]

/-- A list has one entry under a name, so the warnings about it are those that it gives rise to. -/
theorem warningsAbout_eq {scope : Scope} {value : String × String}
    (hvalue : value ∈ (s.policy.ofScope scope).entries) :
    s.warningsAbout scope value.1 = entryWarnings scope value := by
  let about (w : SettingsWarning) : Bool := w.entry? = some (scope, value.1)
  have hsame : (s.scopeWarnings scope).filter about = entryWarnings scope value := by
    have hother : ∀ other : String × String, other.1 ≠ value.1 →
        (entryWarnings scope other).filter about = [] := by
      intro other hne
      rw [List.filter_eq_nil_iff]
      intro w hw
      simp [about, entry?_of_mem_entryWarnings hw, hne]
    rw [scopeWarnings, List.filter_flatMap, KeyMap.flatMap_entries_of_mem _ hvalue hother,
      List.filter_eq_self]
    intro w hw
    simp [about, entry?_of_mem_entryWarnings hw]
  have hdifferent : ∀ other, other ≠ scope → (s.scopeWarnings other).filter about = [] := by
    intro other hne
    rw [List.filter_eq_nil_iff]
    intro w hw
    obtain ⟨name, hname⟩ := s.entry?_of_mem_scopeWarnings hw
    simp [about, hname, hne]
  have hsplit : s.warningsAbout scope value.1 =
      (s.scopeWarnings .machine).filter about ++ (s.scopeWarnings .user).filter about :=
    s.filter_warnings fun w hw => by simp [hw]
  rw [hsplit]
  cases scope with
  | machine => rw [hsame, hdifferent .user (by decide), List.append_nil]
  | user => rw [hsame, hdifferent .machine (by decide), List.nil_append]

/-! ## §3 The law of warnings -/

theorem isInForce_iff {scope : Scope} {value : String × String}
    (hvalue : value ∈ (s.policy.ofScope scope).entries) :
    s.IsInForce scope value ↔ ∃ entry, EntryOf scope value entry := by
  refine ⟨fun ⟨entry, _, hentry⟩ => ⟨entry, hentry⟩, fun ⟨entry, hentry⟩ => ⟨entry, ?_, hentry⟩⟩
  refine mem_entries_ofSources_iff.mpr ⟨s.policy.source scope, ?_, value, hvalue, hentry⟩
  cases scope <;> simp

/-- What an entry of the policy lists has to do with the warnings about it. -/
theorem warningsAbout_of_mem {scope : Scope} {value : String × String}
    (hvalue : value ∈ (s.policy.ofScope scope).entries) :
    (s.IsInForce scope value → s.warningsAbout scope value.1 = []) ∧
    (IsPassedOver value → ¬s.IsInForce scope value ∧ s.warningsAbout scope value.1 = []) ∧
    (¬s.IsInForce scope value → ¬IsPassedOver value →
      (s.warningsAbout scope value.1).length = 1) := by
  have hignored : DoesNotCount value → ¬∃ entry, EntryOf scope value entry := by
    rintro hcount ⟨entry, hentry⟩
    exact Option.some_ne_none entry
      ((entryOf?_eq_some_iff.mpr hentry).symm.trans (entryOf?_eq_none_iff.mpr hcount))
  rw [s.warningsAbout_eq hvalue, s.isInForce_iff hvalue]
  cases entryFate scope value with
  | inForce hentry hsilent =>
    exact ⟨fun _ => hsilent, fun hpassed => absurd hpassed hentry.not_isPassedOver,
      fun hnot => absurd ⟨_, hentry⟩ hnot⟩
  | warned hcount hpassed hwarning _ =>
    exact ⟨fun hentry => absurd hentry (hignored hcount), fun h => absurd h hpassed,
      fun _ _ => by rw [hwarning]; rfl⟩
  | passedOver hcount hpassed hsilent =>
    exact ⟨fun _ => hsilent, fun _ => ⟨hignored hcount, hsilent⟩, fun _ hnot =>
      absurd hpassed hnot⟩

/-- One of the three fates for each value of a list. -/
theorem length_scope (scope : Scope) (values : List (String × String)) :
    (values.flatMap (entryWarnings scope)).length + (values.filterMap (entryOf? scope)).length +
      values.countP (IsPassedOver ·) = values.length := by
  induction values with
  | nil => rfl
  | cons value values ih =>
    rw [List.flatMap_cons, List.length_append, List.countP_cons, List.length_cons]
    cases entryFate scope value with
    | inForce hentry hsilent =>
      rw [List.filterMap_cons_some (entryOf?_eq_some_iff.mpr hentry), hsilent]
      simp only [hentry.not_isPassedOver, decide_false, Bool.false_eq_true, if_false,
        List.length_nil, List.length_cons]
      omega
    | warned hignored hpassed hwarning _ =>
      rw [List.filterMap_cons_none (entryOf?_eq_none_iff.mpr hignored), hwarning]
      simp only [hpassed, decide_false, Bool.false_eq_true, if_false, List.length_singleton]
      omega
    | passedOver hignored hpassed hsilent =>
      rw [List.filterMap_cons_none (entryOf?_eq_none_iff.mpr hignored), hsilent]
      simp only [hpassed, decide_true, if_true, List.length_nil]
      omega

theorem length_entries_selectionPolicy :
    s.selectionPolicy.entries.length =
      (s.policy.machine.entries.filterMap (entryOf? .machine)).length +
        (s.policy.user.entries.filterMap (entryOf? .user)).length := by
  have hmachine := (sortedFrom_entriesOf (s.policy.source .machine)).perm.length_eq
  have huser := (sortedFrom_entriesOf (s.policy.source .user)).perm.length_eq
  simp only [selectionPolicy, ofSources, List.flatMap_cons, List.flatMap_nil, List.append_nil,
    List.length_append, hmachine, huser]
  rfl

/-- How many entries are passed over. -/
def passedOver : Nat :=
  s.policy.machine.entries.countP (IsPassedOver ·) + s.policy.user.entries.countP (IsPassedOver ·)

theorem length_policyWarnings :
    s.policyWarnings.length + s.selectionPolicy.entries.length + s.passedOver =
      s.policy.machine.size + s.policy.user.size := by
  have hmachine := length_scope .machine s.policy.machine.entries
  have huser := length_scope .user s.policy.user.entries
  rw [policyWarnings_eq, length_entries_selectionPolicy, passedOver, List.length_append]
  simp only [scopeWarnings, PolicyLists.ofScope, KeyMap.size] at *
  omega

theorem passedOver_eq_zero_iff :
    s.passedOver = 0 ↔
      ∀ scope, ∀ value ∈ (s.policy.ofScope scope).entries, ¬IsPassedOver value := by
  have hcount : ∀ values : List (String × String), values.countP (IsPassedOver ·) = 0 ↔
      ∀ value ∈ values, ¬IsPassedOver value := by
    intro values
    simp [List.countP_eq_zero]
  rw [passedOver, Nat.add_eq_zero_iff, hcount, hcount]
  constructor
  · rintro ⟨hmachine, huser⟩ scope
    cases scope with
    | machine => exact hmachine
    | user => exact huser
  · intro hnone
    exact ⟨hnone .machine, hnone .user⟩

/-- There is one warning for each entry of the policy lists that has no effect, and none for one
that is in force. -/
structure WarningsExact : Prop where
  one_of_ignored : ∀ scope, ∀ value ∈ (s.policy.ofScope scope).entries,
    ¬s.IsInForce scope value → (s.warningsAbout scope value.1).length = 1
  none_of_inForce : ∀ scope, ∀ value ∈ (s.policy.ofScope scope).entries,
    s.IsInForce scope value → s.warningsAbout scope value.1 = []
  length_add : s.policyWarnings.length + s.selectionPolicy.entries.length =
    s.policy.machine.size + s.policy.user.size

/-- **When warnings are exact**: exactly if no entry is passed over, that is, none is a selector
under digits that denote a number too large. An entry that is passed over has no effect and no
warning, and every other entry is in force or has one warning. -/
theorem warnings_exact_iff :
    (s.WarningsExact ↔
      ∀ scope, ∀ value ∈ (s.policy.ofScope scope).entries, ¬IsPassedOver value) ∧
    (∀ scope, ∀ value ∈ (s.policy.ofScope scope).entries,
      (s.IsInForce scope value → s.warningsAbout scope value.1 = []) ∧
      (IsPassedOver value → ¬s.IsInForce scope value ∧ s.warningsAbout scope value.1 = []) ∧
      (¬s.IsInForce scope value → ¬IsPassedOver value →
        (s.warningsAbout scope value.1).length = 1)) ∧
    s.policyWarnings.length + s.selectionPolicy.entries.length + s.passedOver =
      s.policy.machine.size + s.policy.user.size := by
  have hlength := s.length_policyWarnings
  refine ⟨⟨fun hexact => ?_, fun hnone => ?_⟩, fun scope value hvalue => ?_, hlength⟩
  · rw [← s.passedOver_eq_zero_iff]
    have hsum := hexact.length_add
    omega
  · have hzero := s.passedOver_eq_zero_iff.mpr hnone
    constructor
    · intro scope value hvalue hignored
      exact (s.warningsAbout_of_mem hvalue).2.2 hignored (hnone scope value hvalue)
    · exact fun scope value hvalue => (s.warningsAbout_of_mem hvalue).1
    · omega
  · exact s.warningsAbout_of_mem hvalue

/-- The first number that is too large is no number for the policy, and still no warning says so. -/
theorem silent_of_large_number :
    let value := ("18446744073709551616", "\x7b\x7d")
    let lists : PolicyLists := { machine := KeyMap.ofList [value], user := .empty }
    let s : Settings := { Settings.default with policy := lists }
    s.policy.machine.entries = [value] ∧ s.selectionPolicy.entries = [] ∧ s.warnings = [] ∧
      ¬s.WarningsExact := by
  intro value lists s
  have hentries : s.policy.machine.entries = [value] := by decide
  have hpolicy : s.selectionPolicy.entries = [] := by decide +kernel
  have hwarnings : s.warnings = [] := by decide +kernel
  refine ⟨hentries, hpolicy, hwarnings, fun hexact => ?_⟩
  have hvalue : value ∈ (s.policy.ofScope .machine).entries := by
    rw [PolicyLists.ofScope, hentries]
    exact List.mem_singleton_self value
  have hnot : ¬s.IsInForce .machine value := by
    rintro ⟨entry, hentry, _⟩
    rw [hpolicy] at hentry
    cases hentry
  have hone := hexact.one_of_ignored .machine value hvalue hnot
  rw [warningsAbout, hwarnings] at hone
  cases hone

end Settings

end DeviceAccess
