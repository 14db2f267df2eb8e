import Mathlib
import DeviceAccess.Proofs.Fault
import DeviceAccess.Proofs.Settings.Consistency
import DeviceAccess.Session

/-!
# What a session keeps

Steps of a session may fail, and the settings may change between a refresh and the directions that
rest on it. Whatever the steps, the settings in force are valid, the enrollment is that of the latest
refresh that did not fail, and the parts of directions agree.

- `Session.perform_cases` says all that a step can do.
- `Session.IsLatest` is the enrollment of the latest refresh, by the steps of a run.
- `Session.directions_of_run` says what directions in a session show, and where a certificate in them
  comes from.
-/

namespace DeviceAccess

namespace Session

variable {s t : Session} {step : Step} {steps : List Step}

/-! ## §1 Steps -/

/-- What a step does that does not fail. -/
theorem perform_cases (h : s.perform step = .ok t) :
    (∃ text settings overrides, step = .configure text ∧ Settings.parse text = .ok settings ∧
      settings.validate = .ok () ∧ settings.overrides Endpoint.wellKnown = .ok overrides ∧
        t = { s with settings, overrides }) ∨
    (∃ store e, step = .refresh store ∧ s.settings.refreshWith store = .ok e ∧
      t = { s with enrollment := e }) ∨
    ∃ service privateHost overrides, step = .register service privateHost ∧
      s.overrides.register service privateHost = .ok overrides ∧ t = { s with overrides } := by
  cases step with
  | configure text =>
    obtain ⟨settings, hread, h⟩ := bind_eq_ok_iff.mp h
    obtain ⟨overrides, hoverrides, h⟩ := bind_eq_ok_iff.mp h
    -- the search that reads a text on its own checks what it has read
    obtain ⟨parsed, hparse, hread⟩ := bind_eq_ok_iff.mp hread
    obtain ⟨_, hvalid, hread⟩ := bind_eq_ok_iff.mp hread
    cases pure_eq_ok_iff.mp hread
    cases pure_eq_ok_iff.mp h
    exact .inl ⟨text, settings, overrides, rfl, hparse, hvalid, hoverrides, rfl⟩
  | refresh store =>
    obtain ⟨e, he, h⟩ := bind_eq_ok_iff.mp h
    cases pure_eq_ok_iff.mp h
    exact .inr (.inl ⟨store, e, rfl, he, rfl⟩)
  | register service privateHost =>
    obtain ⟨overrides, hoverrides, h⟩ := bind_eq_ok_iff.mp h
    cases pure_eq_ok_iff.mp h
    exact .inr (.inr ⟨service, privateHost, overrides, rfl, hoverrides, rfl⟩)

theorem after_of_ok (h : s.perform step = .ok t) : s.after step = t := by
  unfold after
  rw [h]

/-- A step that fails changes nothing. -/
theorem after_of_error {fault : Fault} (h : s.perform step = .error fault) : s.after step = s := by
  unfold after
  rw [h]

/-- A step changes nothing, or does what it can do. -/
theorem after_cases (s : Session) (step : Step) :
    s.after step = s ∨ s.perform step = .ok (s.after step) := by
  cases h : s.perform step with
  | error fault => exact .inl (after_of_error h)
  | ok t => exact .inr (congrArg Except.ok (after_of_ok h).symm)

@[simp] theorem run_nil : run [] = start := rfl

@[simp] theorem run_concat (steps : List Step) (step : Step) :
    run (steps ++ [step]) = (run steps).after step := by
  unfold run
  rw [List.foldl_append]
  rfl

/-! ## §2 Settings -/

/-- A step keeps the settings valid. -/
theorem validate_after (h : s.settings.validate = .ok ()) (step : Step) :
    (s.after step).settings.validate = .ok () := by
  rcases after_cases s step with hsame | hdone
  · rw [hsame]
    exact h
  · obtain ⟨_, settings, _, _, _, hvalid, _, hnext⟩ | ⟨_, _, _, _, hnext⟩ | ⟨_, _, _, _, _, hnext⟩ :=
      perform_cases hdone
    · rw [hnext]
      exact hvalid
    · rw [hnext]
      exact h
    · rw [hnext]
      exact h

/-- **Settings are valid** all the time. -/
theorem validate_run (steps : List Step) : (run steps).settings.validate = .ok () := by
  induction steps using List.reverseRecOn with
  | nil => rfl
  | append_singleton steps step ih =>
    rw [run_concat]
    exact validate_after ih step

/-! ## §3 The enrollment -/

/-- The enrollment of the latest refresh that did not fail, each made under the settings that were in
force at its time. -/
inductive IsLatest : List Step → Enrollment → Prop where
  /-- Before the first refresh. -/
  | start : IsLatest [] .disabled
  /-- The last step is a refresh. -/
  | refreshed {steps : List Step} {store : CertificateStore} {e : Enrollment}
      (h : (run steps).settings.refreshWith store = .ok e) :
      IsLatest (steps ++ [.refresh store]) e
  /-- The last step is something else, or a refresh that fails. -/
  | kept {steps : List Step} {step : Step} {e : Enrollment} (h : IsLatest steps e)
      (hstep : ∀ store, step = .refresh store →
        ∃ fault, (run steps).settings.refreshWith store = .error fault) :
      IsLatest (steps ++ [step]) e

theorem refreshWith_of_perform {store : CertificateStore} {fault : Fault}
    (h : s.perform (.refresh store) = .error fault) :
    s.settings.refreshWith store = .error fault := by
  rw [perform, refresh] at h
  cases hrefresh : s.settings.refreshWith store with
  | error other =>
    rw [hrefresh] at h
    cases h
    rfl
  | ok e =>
    rw [hrefresh] at h
    cases h

/-- **The enrollment** of a session is that of the latest refresh. -/
theorem isLatest_run (steps : List Step) : IsLatest steps (run steps).enrollment := by
  induction steps using List.reverseRecOn with
  | nil => exact .start
  | append_singleton steps step ih =>
    rw [run_concat]
    cases hdone : (run steps).perform step with
    | error fault =>
      rw [after_of_error hdone]
      apply ih.kept
      rintro store rfl
      exact ⟨fault, refreshWith_of_perform hdone⟩
    | ok next =>
      rw [after_of_ok hdone]
      -- only a refresh touches the enrollment
      obtain ⟨_, _, _, rfl, _, _, _, rfl⟩ | ⟨store, e, rfl, he, rfl⟩ | ⟨_, _, _, rfl, _, rfl⟩ :=
        perform_cases hdone
      · exact ih.kept (by simp)
      · exact .refreshed he
      · exact ih.kept (by simp)

/-- Behind every enrollment but the first there is a refresh of the run. -/
theorem IsLatest.disabled_or {e : Enrollment} (h : IsLatest steps e) :
    e = .disabled ∨ ∃ before store behind, steps = before ++ .refresh store :: behind ∧
      (run before).settings.refreshWith store = .ok e := by
  induction h with
  | start => exact .inl rfl
  | @refreshed steps store e h => exact .inr ⟨steps, store, [], rfl, h⟩
  | @kept steps step e _ _ ih =>
    rcases ih with hdisabled | ⟨before, store, behind, rfl, he⟩
    · exact .inl hdisabled
    · exact .inr ⟨before, store, behind ++ [step], by simp, he⟩

/-! ## §4 Directions -/

/-- **Directions in a session.** A certificate is there exactly if it is to be shown, and an endpoint
for client certificates never comes without one. A certificate was listed for a refresh of the run,
while the settings said that certificates are used. -/
theorem directions_of_run (steps : List Step) (service : Endpoint) :
    let d := (run steps).directions service
    (d.showCertificate = true ↔ d.certificate.isSome) ∧
      (d.endpoint.kind = .mutualTls → d.certificate.isSome) ∧
      ∀ c, d.certificate = some c → ∃ before store behind machine user,
        steps = before ++ .refresh store :: behind ∧
          (run before).settings.effective.authentication.value = true ∧
            store.machine = .ok machine ∧ store.user = .ok user ∧
              c ∈ clientCertificates (machine ++ user) := by
  intro d
  have hshow : d.showCertificate = true ↔ (run steps).enrollment.state = .enrolled :=
    Directions.showCertificate_build
  have hcertificate : d.certificate = (run steps).enrollment.certificate? :=
    Directions.certificate_build
  rw [hshow, hcertificate, (Enrollment.isSome_iff_enrolled _).1]
  refine ⟨Iff.rfl, Overrides.enrolled_of_mutualTls, fun c hc => ?_⟩
  -- the enrollment before the first refresh has no certificate
  rcases (isLatest_run steps).disabled_or with hdisabled | ⟨before, store, behind, hsteps, he⟩
  · rw [hdisabled] at hc
    cases hc
  · obtain ⟨hon, machine, user, hmachine, huser, hmem⟩ := mem_of_refresh he hc
    exact ⟨before, store, behind, machine, user, hsteps, hon, hmachine, huser, hmem⟩

end Session

end DeviceAccess
