import DeviceAccess.Proofs.Text.Blank
import DeviceAccess.Settings.Effective

/-!
# Precedence of administrators

What an administrator sets cannot be changed from below: by the user, or by an administrator of
lower rank.

- `AccessRule.Sets` says what an administrator sets. A truth value is set as it is, a text without
  the blanks around it, and a blank text sets nothing.
- `effective_of_machineRule` and `effective_of_userRule` give the effective value of one
  configuration.
- `effective_of_same_rules` compares two configurations that agree on the rule for the machine, and
  follows their effective values into the enrollment of the device.
-/

namespace DeviceAccess

open Text

/-! ## §1 What is set -/

/-- The settings that administrators can set for the user. -/
inductive AccessKey where
  | authentication
  | selector
  | privateEndpoint
  deriving DecidableEq, Repr

/-- The effective values of a setting. -/
def AccessKey.Value : AccessKey → Type
  | authentication => Bool
  | selector => Option String
  | privateEndpoint => Option String

/-- The effective value of a setting, with its source. -/
def EffectiveAccess.get (e : EffectiveAccess) : (key : AccessKey) → Setting key.Value
  | .authentication => e.authentication
  | .selector => e.selector
  | .privateEndpoint => e.privateEndpoint

/-- An administrator sets a setting to a value. -/
inductive AccessRule.Sets (r : AccessRule) : (key : AccessKey) → key.Value → Prop where
  | authentication {choice : Bool} (hset : r.authentication = some choice) :
      r.Sets .authentication choice
  | selector {text : String} (hset : r.selector = some text) (hcontent : HasContent text) :
      r.Sets .selector (some (trimText text))
  | privateEndpoint {text : String} (hset : r.privateEndpoint = some text)
      (hcontent : HasContent text) : r.Sets .privateEndpoint (some (trimText text))

/-! ## §2 One configuration -/

theorem effectiveText_of_machine {text : String} (hcontent : HasContent text)
    (user choice : Option String) :
    effectiveText (some text) user choice =
      { value := some (trimText text), source := .machineRule } := by
  simp [effectiveText, ofRules?, nonBlank?_of_hasContent hcontent]

/-- The rule for the user counts if the one for the machine is missing or blank. -/
theorem effectiveText_of_user {machine : Option String} {text : String}
    (hmachine : ∀ other, machine = some other → ¬HasContent other) (hcontent : HasContent text)
    (choice : Option String) :
    effectiveText machine (some text) choice =
      { value := some (trimText text), source := .userRule } := by
  have hunset : machine.bind nonBlank? = none := by
    cases machine with
    | none => rfl
    | some other => rw [Option.bind_some, nonBlank?_of_not_hasContent (hmachine other rfl)]
  simp [effectiveText, ofRules?, hunset, nonBlank?_of_hasContent hcontent]

namespace Settings

variable {s t : Settings}

/-- A value that is set for the machine is effective. -/
theorem effective_of_machineRule {key : AccessKey} {value : key.Value}
    (hset : s.machineRule.Sets key value) :
    s.effective.get key = { value, source := .machineRule } := by
  cases hset with
  | authentication hset =>
    show effectiveBool s.machineRule.authentication _ _ = _
    rw [hset]
    rfl
  | selector hset hcontent =>
    show effectiveText s.machineRule.selector _ _ = _
    rw [hset]
    exact effectiveText_of_machine hcontent _ _
  | privateEndpoint hset hcontent =>
    show effectiveText s.machineRule.privateEndpoint _ _ = _
    rw [hset]
    exact effectiveText_of_machine hcontent _ _

/-- A value that is set for the user is effective if none is set for the machine. -/
theorem effective_of_userRule {key : AccessKey} {value : key.Value}
    (hunset : ∀ other, ¬s.machineRule.Sets key other) (hset : s.userRule.Sets key value) :
    s.effective.get key = { value, source := .userRule } := by
  cases hset with
  | authentication hset =>
    have hmachine : s.machineRule.authentication = none :=
      Option.eq_none_iff_forall_ne_some.mpr fun other h => hunset other (.authentication h)
    show effectiveBool s.machineRule.authentication s.userRule.authentication _ = _
    rw [hmachine, hset]
    rfl
  | selector hset hcontent =>
    show effectiveText s.machineRule.selector s.userRule.selector _ = _
    rw [hset]
    exact effectiveText_of_user (fun other h hother => hunset _ (.selector h hother)) hcontent _
  | privateEndpoint hset hcontent =>
    show effectiveText s.machineRule.privateEndpoint s.userRule.privateEndpoint _ = _
    rw [hset]
    exact effectiveText_of_user (fun other h hother => hunset _ (.privateEndpoint h hother))
      hcontent _

/-- Values of both settings that are set for the machine are what a refresh reads. -/
theorem enrollmentSettings_of_machineRule {authentication : Bool} {selector : Option String}
    (hauthentication : s.machineRule.Sets .authentication authentication)
    (hselector : s.machineRule.Sets .selector selector) :
    s.enrollmentSettings = { authentication, selector } := by
  have hfirst : s.effective.authentication = { value := authentication, source := .machineRule } :=
    effective_of_machineRule hauthentication
  have hsecond : s.effective.selector = { value := selector, source := .machineRule } :=
    effective_of_machineRule hselector
  rw [enrollmentSettings, hfirst, hsecond]

/-! ## §3 Two configurations -/

/-- **Administrators cannot be overruled from below.** Two configurations with one rule for the
machine have the same effective value wherever it sets one; where it does not, they have the same
value if they have one rule for the user and that sets it. If use and selector are set for the
machine, a refresh gives the same outcome under both, for every policy and every store. -/
theorem effective_of_same_rules (hmachine : s.machineRule = t.machineRule) :
    (∀ key value, s.machineRule.Sets key value →
      s.effective.get key = { value, source := .machineRule } ∧
        t.effective.get key = { value, source := .machineRule }) ∧
    (∀ key value, (∀ other, ¬s.machineRule.Sets key other) → s.userRule = t.userRule →
      s.userRule.Sets key value →
        s.effective.get key = { value, source := .userRule } ∧
          t.effective.get key = { value, source := .userRule }) ∧
    ∀ authentication selector, s.machineRule.Sets .authentication authentication →
      s.machineRule.Sets .selector selector → ∀ policy store,
        refresh s.enrollmentSettings policy store =
            refresh { authentication, selector } policy store ∧
          refresh t.enrollmentSettings policy store =
            refresh { authentication, selector } policy store := by
  refine ⟨fun key value hset => ?_, fun key value hunset huser hset => ?_,
    fun authentication selector hauthentication hselector policy store => ?_⟩
  · exact ⟨effective_of_machineRule hset, effective_of_machineRule (hmachine ▸ hset)⟩
  · exact ⟨effective_of_userRule hunset hset,
      effective_of_userRule (hmachine ▸ hunset) (huser ▸ hset)⟩
  · rw [enrollmentSettings_of_machineRule hauthentication hselector,
      enrollmentSettings_of_machineRule (hmachine ▸ hauthentication) (hmachine ▸ hselector)]
    exact ⟨rfl, rfl⟩

/-- A selector that is written with blanks is set for the machine, and a private endpoint is only set
for the user. The user of the second configuration chooses both otherwise, to no effect. -/
theorem effective_of_same_rules_padded :
    let machine : AccessRule :=
      { authentication := some true, selector := some " \x7b\x7d\t", privateEndpoint := some " " }
    let user : AccessRule :=
      { authentication := some false, selector := some "", privateEndpoint := some "10.0.0.1 " }
    let s := { Settings.default with machineRule := machine, userRule := user }
    let t := { s with access := ⟨false, some "[]", some "10.0.0.2", []⟩ }
    s.machineRule = t.machineRule ∧
      s.effective.selector = ⟨some "\x7b\x7d", .machineRule⟩ ∧
      t.effective.selector = ⟨some "\x7b\x7d", .machineRule⟩ ∧
      t.effective.privateEndpoint = ⟨some "10.0.0.1", .userRule⟩ ∧
      ∀ policy store, refresh s.enrollmentSettings policy store =
        refresh t.enrollmentSettings policy store := by
  intro machine user s t
  have hmachine : s.machineRule = t.machineRule := rfl
  obtain ⟨hsame, huser, hrefresh⟩ := effective_of_same_rules hmachine
  have htrim : trimText " \x7b\x7d\t" = "\x7b\x7d" := by decide
  have hselector : s.machineRule.Sets .selector (some "\x7b\x7d") := by
    rw [← htrim]
    exact .selector rfl ⟨'\x7b', by decide, by decide⟩
  have hunset : ∀ other, ¬s.machineRule.Sets .privateEndpoint other := by
    intro other hset
    cases hset with
    | privateEndpoint hset hcontent =>
      have htext : " " = _ := Option.some.inj hset
      subst htext
      exact trimText_eq_empty_iff.mp (by decide) hcontent
  have hendpoint : s.userRule.Sets .privateEndpoint (some "10.0.0.1") := by
    have htrim : trimText "10.0.0.1 " = "10.0.0.1" := by decide
    rw [← htrim]
    exact .privateEndpoint rfl ⟨'1', by decide, by decide⟩
  refine ⟨hmachine, (hsame .selector _ hselector).1, (hsame .selector _ hselector).2,
    (huser .privateEndpoint _ hunset rfl hendpoint).2, fun policy store => ?_⟩
  have hboth := hrefresh true _ (.authentication rfl) hselector policy store
  rw [hboth.1, hboth.2]

end Settings

end DeviceAccess
